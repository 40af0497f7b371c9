import BareMetal.Proofs.Wire.Integers
import BareMetal.Schema.Checker

/-!
# Records inside a value

`RecordAt` says at which places of a value a map stands for a record, and
`Json.editAt` changes the entries at one place. Main statements: such a change
is seen by the decoder only through the record there (`RecordAt.decode_editAt`),
and there an entry that decodes to what stands for its absence may as well be
absent (`decode_erase`).
-/

namespace BareMetal.Json

open Schema

/-- Changes the entries of the map at a place, if there is one. -/
def editAt : List Step → (List (String × Json) → List (String × Json)) → Json → Json
  | [], f, .map entries => .map (f entries)
  | .index i :: path, f, .list items => .list (items.modify i (editAt path f))
  | .key name :: path, f, .map entries => .map (Keyed.modify name (editAt path f) entries)
  | _, _, v => v

/-- Deletes a key of the map at a place. -/
def deleteAt (v : Json) (path : List Step) (key : String) : Json := v.editAt path (Keyed.erase key)

/-- Sets a key of the map at a place. -/
def putAt (v : Json) (path : List Step) (key : String) (value : Json) : Json :=
  v.editAt path (Keyed.put key value)

theorem editAt_list (i : Nat) (path : List Step) (f : List (String × Json) → List (String × Json))
    (items : List Json) :
    (list items).editAt (.index i :: path) f = .list (items.modify i (editAt path f)) := rfl

theorem editAt_map (name : String) (path : List Step)
    (f : List (String × Json) → List (String × Json)) (entries : List (String × Json)) :
    (map entries).editAt (.key name :: path) f = .map (Keyed.modify name (editAt path f) entries) := rfl

theorem editAt_eq_null {path : List Step} {f : List (String × Json) → List (String × Json)} {v : Json} :
    v.editAt path f = .null ↔ v = .null := by
  cases path with
  | nil => cases v <;> simp [editAt]
  | cons step path => cases step <;> cases v <;> simp [editAt]

end BareMetal.Json

namespace BareMetal.Wire

open Schema

/-- A map with these entries stands at the place, where the shape has the record. -/
inductive RecordAt : Shape → Json → List Step → String → List (String × Bool × Shape) →
    List (String × Json) → Prop
  | here (title : String) (fields : List (String × Bool × Shape)) (entries : List (String × Json)) :
      RecordAt (.record title fields) (.map entries) [] title fields entries
  | nullable {s : Shape} {v : Json} {path : List Step} {title : String}
      {fields : List (String × Bool × Shape)} {entries : List (String × Json)}
      (inside : RecordAt s v path title fields entries) : RecordAt (.nullable s) v path title fields entries
  | item {s : Shape} {items : List Json} {i : Nat} {v : Json} {path : List Step} {title : String}
      {fields : List (String × Bool × Shape)} {entries : List (String × Json)} (at_index : items[i]? = some v)
      (inside : RecordAt s v path title fields entries) :
      RecordAt (.sequence s) (.list items) (.index i :: path) title fields entries
  | entry {outer : String} {around : List (String × Bool × Shape)} {f : String × Bool × Shape}
      {siblings : List (String × Json)} {v : Json} {path : List Step} {title : String}
      {fields : List (String × Bool × Shape)} {entries : List (String × Json)} (known : f ∈ around)
      (at_name : siblings.lookup f.1 = some v) (inside : RecordAt f.2.2 v path title fields entries) :
      RecordAt (.record outer around) (.map siblings) (.key f.1 :: path) title fields entries
  /-- The record around it is given as a list, field by field. -/
  | element {outer : String} {around : List (String × Bool × Shape)} {f : String × Bool × Shape}
      {items : List Json} {i : Nat} {v : Json} {path : List Step} {title : String}
      {fields : List (String × Bool × Shape)} {entries : List (String × Json)} (known : around[i]? = some f)
      (at_index : items[i]? = some v) (inside : RecordAt f.2.2 v path title fields entries) :
      RecordAt (.record outer around) (.list items) (.index i :: path) title fields entries

section

variable {s : Shape} {v : Json} {path : List Step} {title : String}
  {fields : List (String × Bool × Shape)} {entries : List (String × Json)}

theorem RecordAt.ne_null (h : RecordAt s v path title fields entries) : v ≠ .null := by
  induction h with
  | nullable _ ih => exact ih
  | _ => simp

theorem RecordAt.sorted (h : RecordAt s v path title fields entries) : v.Ordered → Keyed.Sorted entries := by
  induction h with
  | here title fields entries => exact Json.Ordered.sorted
  | nullable _ ih => exact ih
  | item at_index _ ih => exact fun ho => ih (ho.items _ (List.mem_of_getElem? at_index))
  | entry _ at_name _ ih => exact fun ho => ih (ho.values _ (Keyed.mem_of_lookup at_name))
  | element _ at_index _ ih => exact fun ho => ih (ho.items _ (List.mem_of_getElem? at_index))

end

/-! ## Decoding around the place -/

theorem fill_congr {fields : List (String × Bool × Shape)} {key : String} {v w : Json}
    (h : ∀ f ∈ fields, f.1 = key → decode f.2.2 v = decode f.2.2 w) (slots : Slots fields) :
    fill fields slots key v = fill fields slots key w := by
  induction fields with
  | nil => rfl
  | cons f rest ih =>
    obtain ⟨name, isNeeded, s⟩ := f
    rw [List.forall_mem_cons] at h
    by_cases hk : name = key
    · simp only [fill, if_pos hk, h.1 hk]
    · simp only [fill, if_neg hk, ih h.2]

/-- Changing one entry is seen only through what it decodes to. -/
theorem decode_modify {title : String} {fields : List (String × Bool × Shape)}
    {entries : List (String × Json)} {key : String} {f g : Json → Json}
    (h : ∀ v, entries.lookup key = some v → ∀ x ∈ fields, x.1 = key →
      decode x.2.2 (f v).wholeFloatsAsInts = decode x.2.2 (g v).wholeFloatsAsInts) :
    decode (.record title fields) (Json.map (Keyed.modify key f entries)).wholeFloatsAsInts =
      decode (.record title fields) (Json.map (Keyed.modify key g entries)).wholeFloatsAsInts := by
  rw [Json.wholeFloatsAsInts_map, Json.wholeFloatsAsInts_map, decode_record_map, decode_record_map]
  apply congrArg (· >>= _)
  rw [List.foldlM_map, List.foldlM_map]
  generalize Slots.empty fields = slots
  induction entries generalizing slots with
  | nil => rfl
  | cons e rest ih =>
    obtain ⟨k, v⟩ := e
    by_cases hk : k = key
    · subst hk
      simp only [Keyed.modify, if_true, List.foldlM_cons]
      rw [fill_congr (h v List.lookup_cons_self)]
    · have hrest := ih fun w hw => h w (by rw [List.lookup_cons, beq_eq_false_iff_ne.mpr (Ne.symm hk), hw])
      simp only [Keyed.modify, if_neg hk, List.foldlM_cons, hrest]

/-- Changing one item is seen only through what it decodes to. -/
theorem decode_sequence_modify {s : Shape} {items : List Json} {i : Nat} {v : Json}
    (hv : items[i]? = some v) {f g : Json → Json}
    (h : decode s (f v).wholeFloatsAsInts = decode s (g v).wholeFloatsAsInts) :
    decode (.sequence s) (Json.list (items.modify i f)).wholeFloatsAsInts =
      decode (.sequence s) (Json.list (items.modify i g)).wholeFloatsAsInts := by
  obtain ⟨hi, rfl⟩ := List.getElem?_eq_some_iff.mp hv
  simp only [Json.wholeFloatsAsInts_list, decode_sequence_list, List.modify_eq_take_cons_drop hi,
    List.map_append, List.map_cons, List.mapM_append, List.mapM_cons, h]
  rfl

/-- **A change at a place is seen only through the record there**, if the value has the form of its
shape after it. -/
theorem RecordAt.decode_editAt {s : Shape} {v : Json} {path : List Step} {title : String}
    {fields : List (String × Bool × Shape)} {entries : List (String × Json)}
    (h : RecordAt s v path title fields entries) {f g : List (String × Json) → List (String × Json)}
    (base : Fits (.record title fields) (.map (f entries)) →
      decode (.record title fields) (Json.map (f entries)).wholeFloatsAsInts =
        decode (.record title fields) (Json.map (g entries)).wholeFloatsAsInts) :
    Fits s (v.editAt path f) →
      decode s (v.editAt path f).wholeFloatsAsInts = decode s (v.editAt path g).wholeFloatsAsInts := by
  induction h with
  | here title fields entries => exact base
  | @nullable _ v path _ _ _ inside ih =>
    intro hf
    have hne (f : List (String × Json) → List (String × Json)) : (v.editAt path f).wholeFloatsAsInts ≠ .null :=
      mt (Json.wholeFloatsAsInts_eq_null.trans Json.editAt_eq_null).mp inside.ne_null
    rw [decode_nullable (hne f), decode_nullable (hne g), ih base]
    generalize he : v.editAt path f = w at hf
    cases hf with
    | null => exact absurd (Json.editAt_eq_null.mp he) inside.ne_null
    | present hf => exact hf
  | item at_index inside ih =>
    intro hf
    rw [Json.editAt_list] at hf
    cases hf with
    | sequence each =>
      apply decode_sequence_modify at_index
      apply ih base
      apply each
      exact List.mem_of_getElem? (by rw [List.getElem?_modify_eq, at_index]; rfl)
  | @entry _ _ x _ v _ _ _ _ known at_name inside ih =>
    intro hf
    rw [Json.editAt_map] at hf
    cases hf with
    | record distinct hknown complete =>
      apply decode_modify
      intro w hw y hy hname
      have hxy : y = x := Keyed.eq_of_mem distinct hy known hname
      subst hxy
      have hwv : w = v := Option.some.inj (hw.symm.trans at_name)
      subst hwv
      apply ih base
      apply hknown y hy
      rw [Keyed.lookup_modify, if_pos rfl, at_name]
      rfl
  | element known at_index inside ih =>
    intro hf
    cases hf

/-! ## An entry that may as well be absent -/

theorem forM_put_of_ok {d : String × Json → Except DecodeError Unit} {key : String} {v : Json}
    (h : d (key, v) = .ok ()) {entries : List (String × Json)} (hs : Keyed.Sorted entries) :
    (Keyed.put key v entries).forM d = (Keyed.erase key entries).forM d := by
  induction entries with
  | nil =>
    simp only [Keyed.put, Keyed.erase, List.filter_nil, List.forM, h]
    rfl
  | cons e rest ih =>
    obtain ⟨k, w⟩ := e
    have hc := List.pairwise_cons.mp hs
    have hrest (hk : ¬ k < key) : Keyed.erase key rest = rest := by
      apply Keyed.erase_of_not_mem
      intro hm
      exact hk (hc.1 key hm)
    rw [Keyed.put, Keyed.erase_cons]
    by_cases hlt : key < k
    · have hne : k ≠ key := fun he => String.lt_irrefl k (he ▸ hlt)
      have hnot : ¬ k < key := fun hlt' => String.lt_irrefl k (String.lt_trans hlt' hlt)
      rw [if_pos hlt, if_neg hne, List.forM, h, Except.ok_bind, hrest hnot]
    · by_cases hk : key = k
      · subst hk
        rw [if_neg hlt, if_pos rfl, if_pos rfl, List.forM, h, Except.ok_bind, hrest hlt]
      · rw [if_neg hlt, if_neg hk, if_neg (Ne.symm hk), List.forM, List.forM, ih hc.2]

theorem gather_put {key : String} {v : Json} {entries : List (String × Json)} :
    ∀ {fields : List (String × Bool × Shape)},
      (∀ f ∈ fields, f.1 = key → f.2.1 = false ∧ decode f.2.2 v = .ok f.2.2.blank) →
      gather fields (Keyed.put key v entries) = gather fields (Keyed.erase key entries)
  | [], _ => rfl
  | (name, isNeeded, s) :: rest, h => by
    rw [List.forall_mem_cons] at h
    have ih := @gather_put key v entries rest h.2
    by_cases hk : name = key
    · obtain ⟨hn, hd⟩ := h.1 hk
      subst hk
      cases hn
      rw [gather_of_some (v := v) (by rw [Keyed.lookup_put, if_pos rfl]),
        gather_of_none (by rw [Keyed.lookup_erase, if_pos rfl]), hd, ih]
      rfl
    · have hl : (Keyed.put key v entries).lookup name = (Keyed.erase key entries).lookup name := by
        rw [Keyed.lookup_put, Keyed.lookup_erase, if_neg hk, if_neg hk]
      simp only [gather, hl, ih]

/-- **An entry that decodes to what stands for its absence may as well be absent.** -/
theorem decode_erase {title : String} {fields : List (String × Bool × Shape)}
    (distinct : (fields.map Prod.fst).Nodup) {entries : List (String × Json)} (hs : Keyed.Sorted entries)
    {key : String} {v : Json} (h : ∀ f ∈ fields, f.1 = key →
      f.2.1 = false ∧ decode f.2.2 v.wholeFloatsAsInts = .ok f.2.2.blank) :
    decode (.record title fields) (Json.map (Keyed.erase key entries)).wholeFloatsAsInts =
      decode (.record title fields) (Json.map (Keyed.put key v entries)).wholeFloatsAsInts := by
  have hs' : Keyed.Sorted (entries.map fun e => (e.1, e.2.wholeFloatsAsInts)) := by
    rw [Keyed.Sorted, Json.keys_wholeFloatsAsInts]
    exact hs
  have hentry : decodeEntry fields (key, v.wholeFloatsAsInts) = .ok () := by
    unfold decodeEntry
    cases hf : fields.lookup key with
    | none => rfl
    | some f =>
      simp only [(h _ (Keyed.mem_of_lookup hf) rfl).2]
      rfl
  rw [Json.wholeFloatsAsInts_map, Json.wholeFloatsAsInts_map, ← Keyed.erase_map, ← Keyed.put_map,
    decode_map title distinct (Keyed.sorted_erase key hs').nodup,
    decode_map title distinct (Keyed.sorted_put key _ hs').nodup, forM_put_of_ok hentry hs', gather_put h]

end BareMetal.Wire
