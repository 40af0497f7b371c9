import BareMetal.Proofs.Schema.PathText
import BareMetal.Proofs.Schema.Verdict
import BareMetal.Schema.Api20

/-!
# Where a violation is

The places that a checker looks at are told apart by the texts of their paths, if
its field names are plain names, as those of API version 2.0 are. Read from its
text, the path of a violation leads to what was found there, a value or a missing
entry. Main statement: `violation_pinpointed`.
-/

namespace BareMetal

namespace Json

/-- What a path leads to: a value, or nothing where a map has no entry under the last key. -/
def follow? : List Schema.Step → Option Json → Option (Option Json)
  | [], found => some found
  | .index i :: path, some (.list items) =>
    match items[i]? with
    | some v => follow? path (some v)
    | none => none
  | .key name :: path, some (.map entries) => follow? path (entries.lookup name)
  | _, _ => none

theorem follow?_index {items : List Json} {i : Nat} {v : Json} (h : items[i]? = some v)
    (path : List Schema.Step) :
    follow? (.index i :: path) (some (.list items)) = follow? path (some v) := by
  rw [follow?, h]

theorem follow?_key (name : String) (path : List Schema.Step) (entries : List (String × Json)) :
    follow? (.key name :: path) (some (.map entries)) = follow? path (entries.lookup name) := by
  rw [follow?]

end Json

namespace Schema

/-! ## Places that a checker looks at -/

inductive Checker.Visits : Checker → List Step → Prop
  | here (c : Checker) : Visits c []
  | nullable {c : Checker} {path : List Step} (inside : Visits c path) : Visits (.nullable c) path
  | item {c : Checker} {path : List Step} (i : Nat) (inside : Visits c path) :
      Visits (.list c) (.index i :: path)
  | entry {c : Checker} {path : List Step} (key : String) (inside : Visits c path) :
      Visits (.map c) (.key key :: path)
  | field {fs : List (String × Bool × Checker)} {f : String × Bool × Checker} {path : List Step}
      (declared : f ∈ fs) (inside : Visits f.2.2 path) : Visits (.fields fs) (.key f.1 :: path)

theorem Lapse.path_under (t : Turn) (l : Lapse) : (l.under t).path = t.step :: l.path := rfl

theorem Violates.visits {c : Checker} {v : Option Json} {l : Lapse} (h : Violates c v l) :
    c.Visits l.path := by
  induction h with
  | here wanted lacking => exact .here _
  | nullable present inside ih => exact .nullable ih
  | item at_index inside ih => exact .item _ ih
  | entry at_key inside ih => exact .entry _ ih
  | field declared applies inside ih => exact .field (List.mem_of_getElem? declared) ih

/-- The path of a violation leads to what is found at the end of its route. -/
theorem Violates.follow? {c : Checker} {v : Option Json} {l : Lapse} (h : Violates c v l)
    (ordered : ∀ w ∈ v, w.Ordered) : Json.follow? l.path v = some l.found := by
  induction h with
  | here wanted lacking => rfl
  | nullable present inside ih => exact ih ordered
  | item at_index inside ih =>
    have hitems := (ordered _ rfl).items
    rw [Lapse.path_under, Turn.step, Json.follow?_index at_index]
    exact ih (by simpa using hitems _ (List.mem_of_getElem? at_index))
  | entry at_key inside ih =>
    have hvalues := (ordered _ rfl).values
    rw [Lapse.path_under, Turn.step, Json.follow?_key,
      Keyed.lookup_of_mem (ordered _ rfl).sorted.nodup at_key]
    exact ih (by simpa using hvalues _ at_key)
  | field declared applies inside ih =>
    have hvalues := (ordered _ rfl).values
    rw [Lapse.path_under, Turn.step, Json.follow?_key]
    exact ih fun w hw => hvalues _ (Keyed.mem_of_lookup hw)

theorem Violates.lacking {c : Checker} {v : Option Json} {l : Lapse} (h : Violates c v l) :
    ¬ HasType l.expected l.found := by
  induction h with
  | here wanted lacking => exact lacking
  | nullable present inside ih | item at_index inside ih | entry at_key inside ih
  | field declared applies inside ih => exact ih

/-! ## Names of fields -/

mutual

/-- All fields have plain names, and no map has entries of any name. -/
def Checker.named : Checker → Bool
  | .nullable inner => inner.named
  | .list inner => inner.named
  | .map _ => false
  | .fields fs => fieldsNamed fs
  | _ => true

def fieldsNamed : List (String × Bool × Checker) → Bool
  | [] => true
  | (name, _, c) :: rest =>
    !name.isEmpty && name.toList.all (fun d => d != '.' && d != '[') && c.named && fieldsNamed rest

end

theorem of_fieldsNamed : ∀ {fs : List (String × Bool × Checker)}, fieldsNamed fs = true →
    ∀ f ∈ fs, IsName f.1 ∧ f.2.2.named = true
  | [], _ => by simp
  | (name, asked, c) :: rest, h => by
    simp only [fieldsNamed, Bool.and_eq_true, Bool.not_eq_true', List.all_eq_true, bne_iff_ne] at h
    obtain ⟨⟨⟨hne, hunmarked⟩, hc⟩, hrest⟩ := h
    rw [List.forall_mem_cons]
    refine ⟨⟨⟨?_, hunmarked⟩, hc⟩, of_fieldsNamed hrest⟩
    rintro rfl
    cases hne

theorem Checker.Visits.allNames {c : Checker} {path : List Step} (h : c.Visits path)
    (hc : c.named = true) : AllNames path := by
  induction h with
  | here c => exact allNames_nil
  | nullable inside ih => exact ih hc
  | item i inside ih => exact allNames_index (ih hc)
  | entry key inside ih => cases hc
  | field declared inside ih =>
    obtain ⟨hname, hf⟩ := of_fieldsNamed hc _ declared
    exact allNames_key hname (ih hf)

/-! ## The path of a violation -/

theorem violates_of_check {c : Checker} {v : Json} {w : Violation} (ordered : v.Ordered)
    (h : check c v = .error w) : ∃ l, Violates c (some v) l ∧ w = l.report := by
  have hfinds : Finds (Violates c (some v)) (check c v) := finds_checkAt (by simpa using ordered)
  rw [h] at hfinds
  cases hfinds with
  | first first => exact ⟨_, first.holds, rfl⟩

/-- Only what is no map is reported at the root. -/
theorem path_eq_nil_iff {fs : List (String × Bool × Checker)} {v : Json} {w : Violation}
    (h : check (.fields fs) v = .error w) : w.path = [] ↔ ∀ entries, v ≠ .map entries := by
  cases v with
  | map entries =>
    rw [check_fields] at h
    obtain ⟨f, -, path, hpath⟩ := checkFields_error h
    rw [hpath]
    exact iff_of_false nofun fun hne => hne entries rfl
  | _ =>
    cases h
    exact iff_of_true rfl nofun

/-- The schemas of API version 2.0, with those that stand only inside others. -/
def Api20.schemas : List Checker :=
  [zone, domain, vlan, subnet, link, interface, filesystem, partition, blockDevice, machine]

theorem schemas_named : ∀ c ∈ Api20.schemas, c.named = true := by decide

theorem schemas_fields : ∀ c ∈ Api20.schemas, ∃ fs, c = .fields fs := by
  simp only [Api20.schemas, List.forall_mem_cons]
  exact ⟨⟨_, rfl⟩, ⟨_, rfl⟩, ⟨_, rfl⟩, ⟨_, rfl⟩, ⟨_, rfl⟩, ⟨_, rfl⟩, ⟨_, rfl⟩, ⟨_, rfl⟩, ⟨_, rfl⟩, ⟨_, rfl⟩, nofun⟩

/-- **The text of a path pinpoints one place.** Different places that a schema looks at have different
texts. For a value that does not pass, the text that is reported is read as the path of such a place,
and from the root the path leads to a value, or to a missing entry of a map, that is described by what
is said to be found and is not of the type that is said to be expected. The text is empty exactly if
the value is no map. -/
theorem violation_pinpointed {c : Checker} (schema : c ∈ Api20.schemas) :
    (∀ a b, c.Visits a → c.Visits b → a ≠ b → renderPath a ≠ renderPath b) ∧
    ∀ (v : Json) (w : Violation), v.Ordered → check c v = .error w →
      (∃ path found, c.Visits path ∧ readPath? w.place = some path ∧
        Json.follow? path (some v) = some found ∧ describe found = w.got ∧
        ¬ HasType w.expected found) ∧
      (w.place = "" ↔ ∀ entries, v ≠ .map entries) := by
  have hnames {path : List Step} (h : c.Visits path) : AllNames path :=
    h.allNames (schemas_named c schema)
  refine ⟨fun a b ha hb hne => mt (renderPath_inj (hnames ha) (hnames hb)).mp hne, ?_⟩
  intro v w ordered h
  obtain ⟨l, hl, rfl⟩ := violates_of_check ordered h
  have hvisits := hl.visits
  refine ⟨⟨l.path, l.found, hvisits, readPath?_renderPath (hnames hvisits), ?_, rfl, hl.lacking⟩, ?_⟩
  · exact hl.follow? (by simpa using ordered)
  · obtain ⟨fs, rfl⟩ := schemas_fields c schema
    rw [← path_eq_nil_iff h]
    exact renderPath_inj (hnames hvisits) allNames_nil

/-- An interface, as far as the schema looks: its second link has no mode. -/
def modelessLink : Json := .ofEntries [
  ("id", .number (.int ⟨12, by decide⟩)),
  ("resource_uri", .string "/MAAS/api/2.0/nodes/4y3h7n/interfaces/12/"),
  ("name", .string "eth0"),
  ("type", .string "physical"),
  ("enabled", .bool true),
  ("tags", .list []),
  ("vlan", .null),
  ("links", .list [
    .ofEntries [("id", .number (.int ⟨3, by decide⟩)), ("mode", .string "auto")],
    .ofEntries [("id", .number (.int ⟨4, by decide⟩))]])]

theorem modelessLink_ordered : modelessLink.Ordered := by
  have hlist (items : List Json) : (Json.list items).Ordered ↔ ∀ v ∈ items, v.Ordered :=
    ⟨Json.Ordered.items, .list⟩
  unfold modelessLink
  refine Json.ordered_ofEntries ?_
  simp only [List.forall_mem_cons, Json.Ordered.string, Json.Ordered.number, Json.Ordered.bool,
    Json.Ordered.null, Json.ordered_ofEntries, hlist, List.not_mem_nil, false_implies, implies_true,
    and_true]

theorem violation_pinpointed_modelessLink : modelessLink.Ordered ∧ ∃ w,
    check Api20.interface modelessLink = .error w ∧ w.place = "links[1].mode" ∧
      ∃ path found, readPath? w.place = some path ∧
        Json.follow? path (some modelessLink) = some found ∧ describe found = w.got ∧
        ¬ HasType w.expected found := by
  have hc : check Api20.interface modelessLink = .error
      ⟨[.key "links", .index 1, .key "mode"], .string, "nothing"⟩ := rfl
  obtain ⟨⟨path, found, -, hread, hfollow, hgot, hlacks⟩, -⟩ :=
    (violation_pinpointed (c := Api20.interface) (by simp [Api20.schemas])).2 _ _ modelessLink_ordered hc
  exact ⟨modelessLink_ordered, _, hc, rfl, path, found, hread, hfollow, hgot, hlacks⟩

end Schema

end BareMetal
