import BareMetal.Version.Basic

/-!
# Tables of entries by version

Each entry serves every version from its own on, up to the next entry. Only
major and minor count. The entries stay in ascending order, equal versions in
the order they were added, and the latest one that applies is taken.
-/

namespace BareMetal

/-- Whether an entry since `a` applies at `b`. -/
def Version.covers (a b : Version) : Bool :=
  decide (a.majorMinor.1 < b.majorMinor.1) ||
    (a.majorMinor.1 == b.majorMinor.1 && decide (a.majorMinor.2 ≤ b.majorMinor.2))

structure VersionTable (α : Type) where
  kind : String
  entries : List (Version × α)

/-- No entry of the table for `kind` applies at `version`. -/
structure Unsupported where
  kind : String
  version : Version
deriving DecidableEq, Repr

def Unsupported.message (u : Unsupported) : String :=
  "no " ++ u.kind ++ " read func for version " ++ u.version.text

namespace VersionTable

variable {α : Type}

def empty (kind : String) : VersionTable α := ⟨kind, []⟩

def add (t : VersionTable α) (since : Version) (entry : α) : VersionTable α :=
  { t with entries :=
      t.entries.takeWhile (fun e => e.1.covers since) ++ (since, entry) ::
        t.entries.dropWhile (fun e => e.1.covers since) }

def resolve (t : VersionTable α) (version : Version) : Except Unsupported α :=
  match (t.entries.takeWhile fun e => e.1.covers version).getLast? with
  | some e => .ok e.2
  | none => .error ⟨t.kind, version⟩

end VersionTable

end BareMetal
