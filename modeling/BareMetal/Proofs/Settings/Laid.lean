import BareMetal.Proofs.Settings.Held
import BareMetal.Proofs.Settings.Sorted

/-!
# What two layers hold

A record that is in two layers is decoded of one setting, `laid` of both. The
value of each of its fields is read from one of them: `Holds.of_part`.
-/

namespace BareMetal.Settings

/-- What is at a place of two layers, from what is there in each of them. -/
def laid (lower : Option Setting) : Option Setting → Option Setting
  | none => lower
  | some s => some (s.over lower)

theorem isSome_laid {lower upper : Option Setting} :
    (laid lower upper).isSome ↔ upper.isSome ∨ lower.isSome := by
  cases upper <;> simp [laid]

theorem lookup_overlay_laid {upper : Layer} (h : Keyed.Sorted upper) (lower : Layer) (key : String) :
    (lower.overlay upper).lookup key = laid (lower.lookup key) (upper.lookup key) := by
  rw [lookup_overlay h.nodup]
  cases upper.lookup key <;> rfl

/-- A table over others is a table, with what each of them has for its keys. -/
theorem table_over {entries : Layer} (h : Keyed.Sorted entries) (lower : Option Setting) :
    ∃ all, (Setting.table entries).over lower = .table all ∧ ∀ key,
      all.lookup key = laid (lower.bind fun s => s.find? [key]) (entries.lookup key) := by
  have hplain : ∀ key, entries.lookup key = laid none (entries.lookup key) := by
    intro key
    cases entries.lookup key <;> rfl
  cases lower with
  | none => exact ⟨entries, rfl, hplain⟩
  | some s =>
    cases s with
    | table below =>
      refine ⟨_, rfl, fun key => ?_⟩
      rw [Option.bind_some, Setting.find?_single]
      exact lookup_overlay_laid h below key
    | _ => exact ⟨entries, rfl, hplain⟩

/-- Over a table there is a table again, with what both of them have, unless the setting over it is
none. -/
theorem laid_table {upper : Option Setting} (h : SortedTable upper) (below : Layer) :
    laid (some (.table below)) upper = upper ∨
      ∃ all, laid (some (.table below)) upper = some (.table all) ∧
        (∀ key i, upper.bind (·.part? key i) = upper.bind (·.find? [key])) ∧
        ∀ key, all.lookup key = laid (below.lookup key) (upper.bind (·.find? [key])) := by
  cases upper with
  | none => exact .inr ⟨below, rfl, fun _ _ => rfl, fun _ => rfl⟩
  | some u =>
    cases u with
    | table entries =>
      obtain ⟨all, hall, hlookup⟩ := table_over (h entries rfl) (some (.table below))
      refine .inr ⟨all, congrArg some hall, fun key i => ?_, fun key => ?_⟩
      · rw [Option.bind_some, Option.bind_some, Setting.find?_single, Setting.part?]
      · rw [hlookup, Option.bind_some, Option.bind_some, Setting.find?_single, Setting.find?_single]
    | _ => exact .inl (congrArg some (over_of_not_table (by simp) _))

section

variable {α : Type} {decode : Decoder α} {otherwise value : Option α} {lower upper : Option Setting}

/-- Tables apart, the upper one of two settings counts. -/
theorem Holds.of_laid (hd : RefusesTables decode)
    (h : Holds decode otherwise (laid lower upper) value) :
    Holds decode otherwise (upper <|> lower) value := by
  cases upper with
  | none => exact h
  | some s =>
    by_cases hs : ∃ entries, s = .table entries
    · obtain ⟨entries, rfl⟩ := hs
      obtain ⟨all, hall⟩ : ∃ all, (Setting.table entries).over lower = .table all := by
        rcases lower with _ | (_ | _) <;> exact ⟨_, rfl⟩
      rw [laid, hall] at h
      cases h with
      | given decodes => exact absurd decodes (hd _ _)
    · rw [laid, over_of_not_table (fun entries he => hs ⟨entries, he⟩)] at h
      simpa using h

end

/-- As `Holds.of_standard`, for a source that lies over the standard one. -/
theorem Holds.of_laid_standard {α : Type} {decode : Decoder α} {otherwise value : Option α}
    (hd : RefusesTables decode) {s : Setting} {x : α} (hx : decode s = .ok x)
    {before source : Option Setting} (h : Holds decode otherwise (before <|> laid (some s) source) value) :
    Holds decode (some x) (before <|> source) value := by
  cases before with
  | none => exact (Holds.of_laid hd h).of_standard hx
  | some t =>
    cases h with
    | given decodes => exact .given decodes

/-- The field of a record that is in two layers. Where the upper one has a table for it the lower one
counts as a table only. -/
def layeredPart (lower upper : Option Setting) (key : String) (i : Nat) : Option Setting :=
  match upper with
  | none => lower.bind (·.part? key i)
  | some (.table entries) => entries.lookup key <|> lower.bind (·.find? [key])
  | some s => s.part? key i

section

variable {α : Type} {decode : Decoder α} {otherwise value : Option α} {lower upper : Option Setting}
  {key : String} {i : Nat}

theorem Holds.of_part (hd : RefusesTables decode) (hu : SortedTable upper) {s : Setting}
    (hs : laid lower upper = some s) (h : Holds decode otherwise (s.part? key i) value) :
    Holds decode otherwise (layeredPart lower upper key i) value := by
  cases upper with
  | none =>
    cases hs
    exact h
  | some u =>
    rw [laid, Option.some.injEq] at hs
    subst hs
    cases u with
    | table entries =>
      obtain ⟨all, hall, hlookup⟩ := table_over (hu entries rfl) lower
      rw [hall, Setting.part?, hlookup] at h
      exact h.of_laid hd
    | _ =>
      rw [over_of_not_table (by simp)] at h
      exact h

/-- Under both layers there may be a table with what is fixed. -/
theorem Holds.of_standard_part (hd : RefusesTables decode) (hl : SortedTable lower) {standard : Layer}
    {s : Setting} {x : α} (hs : standard.lookup key = some s) (hx : decode s = .ok x)
    (h : Holds decode (some x) (layeredPart (laid (some (.table standard)) lower) upper key i) value) :
    Holds decode (some x) (layeredPart lower upper key i) value := by
  rcases laid_table hl standard with hsame | ⟨all, hall, hpart, hlookup⟩
  · rwa [hsame] at h
  · rw [hall] at h
    have hover (before : Option Setting) (h : Holds decode (some x) (before <|> all.lookup key) value) :
        Holds decode (some x) (before <|> lower.bind (·.find? [key])) value := by
      rw [hlookup, hs] at h
      exact h.of_laid_standard hd hx
    cases upper with
    | none =>
      rw [layeredPart, hpart]
      exact hover none h
    | some u =>
      cases u with
      | table entries =>
        simp only [layeredPart, Option.bind_some, Setting.find?_single] at h ⊢
        exact hover _ h
      | _ => exact h

end

/-- Where two layers make a table, it has for each key what they have for it. -/
theorem lookup_of_laid {lower upper : Option Setting} {entries : Layer} (hu : SortedTable upper)
    (h : laid lower upper = some (.table entries)) (key : String) :
    entries.lookup key = laid (lower.bind (·.find? [key])) (upper.bind (·.find? [key])) := by
  cases upper with
  | none =>
    cases h
    rw [Option.bind_some, Setting.find?_single]
    rfl
  | some u =>
    rw [laid, Option.some.injEq] at h
    cases u with
    | table us =>
      obtain ⟨all, hall, hlookup⟩ := table_over (hu us rfl) lower
      cases hall.symm.trans h
      rw [hlookup, Option.bind_some, Setting.find?_single]
    | _ =>
      rw [over_of_not_table (by simp)] at h
      cases h

/-- An empty table below makes no difference to what is in a layer. -/
theorem find?_laid_empty {upper : Option Setting} (hu : SortedTable upper) (key : String) :
    (laid (some (.table [])) upper).bind (·.find? [key]) = upper.bind (·.find? [key]) := by
  rcases laid_table hu [] with hsame | ⟨all, hall, -, hlookup⟩
  · rw [hsame]
  · rw [hall, Option.bind_some, Setting.find?_single, hlookup, List.lookup_nil]
    cases upper.bind (·.find? [key]) <;> rfl

end BareMetal.Settings
