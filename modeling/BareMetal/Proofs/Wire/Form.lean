import BareMetal.Proofs.Wire.Integers

/-!
# What decodes has the form of its shape

The converse of `Fits.settles`. A list may stand for a record in decoding, field
by field in order, and no value with such a list in it has the form of its shape;
any other value that decodes has it. Main statement: `fits_of_decode`.
-/

namespace BareMetal.Wire

/-! ## Regular shapes -/

def Shape.isNullable : Shape → Bool
  | .nullable _ => true
  | _ => false

mutual

/-- Fields of one record have distinct names, and null means one thing only. -/
def Shape.regular : Shape → Bool
  | .nullable inner => !inner.isNullable && inner.regular
  | .sequence inner => inner.regular
  | .record _ fields => decide (fields.map Prod.fst).Nodup && regularFields fields
  | _ => true

def regularFields : List (String × Bool × Shape) → Bool
  | [] => true
  | (_, _, s) :: rest => s.regular && regularFields rest

end

theorem regularFields_iff : ∀ {fields : List (String × Bool × Shape)},
    regularFields fields = true ↔ ∀ f ∈ fields, f.2.2.regular = true
  | [] => by simp [regularFields]
  | (name, isNeeded, s) :: rest => by
    rw [List.forall_mem_cons, ← regularFields_iff, regularFields, Bool.and_eq_true]

theorem Shape.regular_record {title : String} {fields : List (String × Bool × Shape)} :
    (Shape.record title fields).regular = true ↔
      (fields.map Prod.fst).Nodup ∧ ∀ f ∈ fields, f.2.2.regular = true := by
  rw [Shape.regular, Bool.and_eq_true, decide_eq_true_eq, regularFields_iff]

/-! ## Every record of a shape -/

mutual

/-- The condition holds of every record in the shape. -/
def Shape.everyRecord (P : String → List (String × Bool × Shape) → Bool) : Shape → Bool
  | .nullable inner => inner.everyRecord P
  | .sequence inner => inner.everyRecord P
  | .record title fields => P title fields && everyFieldRecord P fields
  | _ => true

def everyFieldRecord (P : String → List (String × Bool × Shape) → Bool) :
    List (String × Bool × Shape) → Bool
  | [] => true
  | (_, _, s) :: rest => s.everyRecord P && everyFieldRecord P rest

end

theorem everyFieldRecord_iff {P : String → List (String × Bool × Shape) → Bool} :
    ∀ {fields : List (String × Bool × Shape)},
      everyFieldRecord P fields = true ↔ ∀ f ∈ fields, f.2.2.everyRecord P = true
  | [] => by simp [everyFieldRecord]
  | (name, isNeeded, s) :: rest => by
    rw [List.forall_mem_cons, ← everyFieldRecord_iff, everyFieldRecord, Bool.and_eq_true]

/-! ## Lists in the places of records -/

/-- Somewhere in the value a list stands where the shape has a record. -/
inductive Positional : Shape → Json → Prop
  | here (title : String) (fields : List (String × Bool × Shape)) (items : List Json) :
      Positional (.record title fields) (.list items)
  | nullable {s : Shape} {v : Json} (inside : Positional s v) : Positional (.nullable s) v
  | item {s : Shape} {items : List Json} {v : Json} (mem : v ∈ items) (inside : Positional s v) :
      Positional (.sequence s) (.list items)
  | entry {title : String} {fields : List (String × Bool × Shape)} {entries : List (String × Json)}
      {f : String × Bool × Shape} {v : Json} (known : f ∈ fields) (at_name : entries.lookup f.1 = some v)
      (inside : Positional f.2.2 v) : Positional (.record title fields) (.map entries)

theorem Positional.ne_null {s : Shape} {v : Json} (h : Positional s v) : v ≠ .null := by
  induction h with
  | nullable _ ih => exact ih
  | _ => simp

theorem Positional.not_fits {s : Shape} {v : Json} (h : Positional s v) : ¬ Fits s v := by
  induction h with
  | here title fields items => nofun
  | nullable inside ih =>
    intro hf
    cases hf with
    | null => exact inside.ne_null rfl
    | present hf => exact ih hf
  | item mem inside ih =>
    intro hf
    cases hf with
    | sequence each => exact ih (each _ mem)
  | entry known at_name inside ih =>
    intro hf
    cases hf with
    | record distinct hknown complete => exact ih (hknown _ known _ at_name)

/-! ## Decoding -/

theorem decodeInteger_eq_ok {w : Word} {v : Json} {x : {n : Int // w.Holds n}} :
    decodeInteger w v = .ok x ↔ ∃ n : WideInt, v = .number (.int n) ∧ n.val = x.val := by
  unfold decodeInteger
  split
  · rename_i n
    by_cases h : w.Holds n.val
    · rw [dif_pos h]
      constructor
      · intro hx
        cases hx
        exact ⟨n, rfl, rfl⟩
      · rintro ⟨n', hn, hx⟩
        cases hn
        exact congrArg _ (Subtype.ext hx)
    · rw [dif_neg h]
      refine iff_of_false nofun ?_
      rintro ⟨n', hn, hx⟩
      cases hn
      rw [hx] at h
      exact h x.property
  · rename_i hv
    refine iff_of_false nofun ?_
    rintro ⟨n, rfl, -⟩
    exact hv n rfl

theorem isSome_of_gather {entries : List (String × Json)} {fields : List (String × Bool × Shape)}
    {xs : Values fields} (h : gather fields entries = .ok xs) :
    ∀ f ∈ fields, f.2.1 = true → (entries.lookup f.1).isSome := by
  intro f hf hn
  obtain ⟨x, ⟨v, hv, -⟩ | ⟨-, hopt, -⟩⟩ := (gather_eq_ok_iff.mp h).exists f hf
  · rw [hv]
    rfl
  · rw [hn] at hopt
    cases hopt

/-- The value of a field that is read, from the entry of its name if there is one. -/
def Found (entries : List (String × Json)) (f : String × Bool × Shape) (x : f.2.2.Value) : Prop :=
  (∃ v, entries.lookup f.1 = some v ∧ decode f.2.2 v.wholeFloatsAsInts = .ok x) ∨
    entries.lookup f.1 = none ∧ f.2.1 = false ∧ x = f.2.2.blank

theorem each_found {title : String} {fields : List (String × Bool × Shape)}
    {entries : List (String × Json)} {xs : Values fields} (distinct : (fields.map Prod.fst).Nodup)
    (ho : (Json.map entries).Ordered)
    (h : decode (.record title fields) (Json.map entries).wholeFloatsAsInts = .ok xs) :
    Each (Found entries) fields xs := by
  have hkeys := Json.keys_wholeFloatsAsInts entries
  rw [Json.wholeFloatsAsInts_map, decode_map title distinct (hkeys ▸ ho.sorted.nodup)] at h
  obtain ⟨u, -, hg⟩ := Except.bind_eq_ok.mp h
  refine (gather_eq_ok_iff.mp hg).imp fun f _ x hx => ?_
  unfold Taken at hx
  rw [Json.lookup_wholeFloatsAsInts, Option.map_eq_none_iff] at hx
  rcases hx with ⟨v', hv', hd⟩ | hx
  · obtain ⟨v, hv, rfl⟩ := Option.map_eq_some_iff.mp hv'
    exact .inl ⟨v, hv, hd⟩
  · exact .inr hx

theorem Found.of_needed {entries : List (String × Json)} {name : String} {s : Shape} {x : s.Value}
    (h : Found entries (needed name s) x) :
    ∃ v, entries.lookup name = some v ∧ decode s v.wholeFloatsAsInts = .ok x := by
  rcases h with h | ⟨-, hn, -⟩
  · exact h
  · cases hn

/-- **What decodes has the form of its shape**, unless a list stands for a record in it. -/
theorem fits_of_decode {s : Shape} : ∀ {v : Json} {x : s.Value}, s.regular = true → v.Ordered →
    ¬ Positional s v → decode s v.wholeFloatsAsInts = .ok x → Fits s v := by
  induction s using Shape.induction with
  | text =>
    intro v x _ _ _ h
    cases v with
    | string s => exact .text s
    | _ => cases h
  | flag =>
    intro v x _ _ _ h
    cases v with
    | bool b => exact .flag b
    | _ => cases h
  | integer w =>
    intro v x _ _ _ h
    obtain ⟨k, hk, -⟩ := decodeInteger_eq_ok.mp h
    cases v with
    | number n =>
      rw [Json.wholeFloatsAsInts_number, Json.number.injEq] at hk
      have hw : n.whole? = some k := by
        rw [← n.whole?_wholeAsInt, hk, Json.Number.whole?]
      exact .integer w hw
    | _ => simp [Json.wholeFloatsAsInts] at hk
  | real =>
    intro v x _ _ _ h
    cases v with
    | number n => exact .real n
    | _ => cases h
  | nullable s ih =>
    intro v x hr ho hp h
    by_cases hv : v = .null
    · rw [hv]
      exact .null s
    · rw [decode_nullable (mt Json.wholeFloatsAsInts_eq_null.mp hv)] at h
      obtain ⟨y, hy, -⟩ := Except.map_eq_ok.mp h
      rw [Shape.regular, Bool.and_eq_true] at hr
      exact .present (ih hr.2 ho (fun hi => hp (.nullable hi)) hy)
  | sequence s ih =>
    intro v x hr ho hp h
    cases v with
    | list items =>
      rw [Json.wholeFloatsAsInts_list, decode_sequence_list, List.mapM_map] at h
      refine .sequence fun item hi => ?_
      obtain ⟨y, hy⟩ := Except.exists_of_mapM h item hi
      exact ih hr (ho.items item hi) (fun hin => hp (.item hi hin)) hy
    | _ => cases h
  | record title fields ih =>
    intro v x hr ho hp h
    obtain ⟨distinct, hrf⟩ := Shape.regular_record.mp hr
    cases v with
    | map entries =>
      have hkeys := Json.keys_wholeFloatsAsInts entries
      rw [Json.wholeFloatsAsInts_map, decode_map title distinct (hkeys ▸ ho.sorted.nodup)] at h
      obtain ⟨u, hu, hg⟩ := Except.bind_eq_ok.mp h
      refine .record distinct (fun f hf v hv => ?_) (fun f hf hn => ?_)
      · have hl : (entries.map fun e => (e.1, e.2.wholeFloatsAsInts)).lookup f.1 =
            some v.wholeFloatsAsInts := by
          rw [Json.lookup_wholeFloatsAsInts, hv, Option.map_some]
        obtain ⟨y, hy⟩ := decode_of_forM distinct hu f hf _ hl
        exact ih f hf (hrf f hf) (ho.values _ (Keyed.mem_of_lookup hv)) (fun hi => hp (.entry hf hv hi)) hy
      · have hsome := isSome_of_gather hg f hf hn
        rwa [Json.lookup_wholeFloatsAsInts, Option.isSome_map] at hsome
    | list items => exact absurd (.here title fields items) hp
    | _ => cases h

end BareMetal.Wire
