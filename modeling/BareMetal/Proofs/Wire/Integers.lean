import BareMetal.Proofs.Json.Whole
import BareMetal.Proofs.Wire.Record

/-!
# Decoding up to the size of integers

A value `Fits` a shape if it has the form that the shape asks for, whatever the
size of its integers. Main statement: `Fits.settles`, such a value decodes unless
one of its integers is too large or too small for its word, and the first such
integer in the order of the value is the one reported.
-/

namespace BareMetal.Wire

/-! ## Settling a list of integers -/

/-- Integers with the words that are to hold them are all held, or the first that is not is
reported. -/
inductive Settles {α : Type} : List (Int × Word) → Except DecodeError α → Prop
  | ok {ints : List (Int × Word)} (held : ∀ e ∈ ints, e.2.Holds e.1) (x : α) : Settles ints (.ok x)
  | error {before : List (Int × Word)} (held : ∀ e ∈ before, e.2.Holds e.1) {n : Int} {w : Word}
      (stray : ¬ w.Holds n) (after : List (Int × Word)) :
      Settles (before ++ (n, w) :: after) (.error (.invalidValue n w))

namespace Settles

variable {α β : Type} {ints more : List (Int × Word)}

theorem nil (x : α) : Settles [] (.ok x) := .ok (by simp) x

theorem map {r : Except DecodeError α} (h : Settles ints r) (f : α → β) :
    Settles ints (r.map f) := by
  cases h with
  | ok held x => exact .ok held (f x)
  | error held stray after => exact .error held stray after

/-- A second computation goes on where the first ended. -/
theorem bind {r : Except DecodeError α} {f : α → Except DecodeError β} (h : Settles ints r)
    (hf : ∀ x, r = .ok x → Settles more (f x)) : Settles (ints ++ more) (r >>= f) := by
  cases h with
  | error held stray after =>
    rw [List.append_assoc, List.cons_append]
    exact .error held stray (after ++ more)
  | ok held x =>
    rw [Except.ok_bind]
    have hx := hf x rfl
    generalize f x = r at hx
    cases hx with
    | ok held' y => exact .ok (List.forall_mem_append.mpr ⟨held, held'⟩) y
    | error held' stray after =>
      rw [← List.append_assoc]
      exact .error (List.forall_mem_append.mpr ⟨held, held'⟩) stray after

variable {ι : Type} {ints : ι → List (Int × Word)}

theorem mapM {f : ι → Except DecodeError α} :
    ∀ {items : List ι}, (∀ i ∈ items, Settles (ints i) (f i)) →
      Settles (items.flatMap ints) (items.mapM f)
  | [], _ => .nil []
  | i :: rest, h => by
    rw [List.forall_mem_cons] at h
    rw [List.mapM_cons, List.flatMap_cons]
    refine h.1.bind fun x _ => ?_
    have hrest := (mapM h.2).bind fun xs _ => nil (x :: xs)
    rw [List.append_nil] at hrest
    exact hrest

theorem forM {f : ι → Except DecodeError Unit} :
    ∀ {items : List ι}, (∀ i ∈ items, Settles (ints i) (f i)) →
      Settles (items.flatMap ints) (items.forM f)
  | [], _ => .nil ()
  | i :: rest, h => by
    rw [List.forall_mem_cons] at h
    rw [List.forM, List.flatMap_cons]
    exact h.1.bind fun _ _ => forM h.2

end Settles

/-! ## The integers of a value -/

mutual

/-- The integers at the integer places of a shape, each with its word, in the order of the value. -/
def integersAt : Shape → Json → List (Int × Word)
  | .text, _ => []
  | .flag, _ => []
  | .integer w, v =>
    match v with
    | .number n =>
      match n.whole? with
      | some k => [(k.val, w)]
      | none => []
    | _ => []
  | .real, _ => []
  | .nullable inner, v => integersAt inner v
  | .sequence inner, v =>
    match v with
    | .list items => items.flatMap fun item => integersAt inner item
    | _ => []
  | .record _ fields, v =>
    match v with
    | .map entries => entries.flatMap fun e => integersUnder fields e.1 e.2
    | _ => []

/-- The integers of an entry; an entry of another name has none. -/
def integersUnder : List (String × Bool × Shape) → String → Json → List (Int × Word)
  | [], _, _ => []
  | (name, _, s) :: rest, key, v =>
    if name = key then integersAt s v else integersUnder rest key v

end

theorem integersAt_null (s : Shape) : integersAt s .null = [] := by
  induction s using Shape.induction with
  | nullable s ih => rw [integersAt, ih]
  | _ => simp [integersAt]

theorem integersUnder_eq (key : String) (v : Json) : ∀ fields : List (String × Bool × Shape),
    integersUnder fields key v =
      match fields.lookup key with
      | some (_, s) => integersAt s v
      | none => []
  | [] => rfl
  | (name, _, s) :: rest => by
    rw [integersUnder, List.lookup_cons]
    by_cases h : name = key
    · rw [if_pos h, h, beq_self_eq_true]
    · rw [if_neg h, beq_eq_false_iff_ne.mpr (Ne.symm h), integersUnder_eq key v rest]

/-! ## Values of the right form -/

/-- The value has the form of the shape. Records are maps that have the needed entries; their other
entries are free. -/
inductive Fits : Shape → Json → Prop
  | text (s : String) : Fits .text (.string s)
  | flag (b : Bool) : Fits .flag (.bool b)
  | integer (w : Word) {n : Json.Number} {k : WideInt} (whole : n.whole? = some k) :
      Fits (.integer w) (.number n)
  | real (n : Json.Number) : Fits .real (.number n)
  | null (s : Shape) : Fits (.nullable s) .null
  | present {s : Shape} {v : Json} (fits : Fits s v) : Fits (.nullable s) v
  | sequence {s : Shape} {items : List Json} (each : ∀ item ∈ items, Fits s item) :
      Fits (.sequence s) (.list items)
  | record {title : String} {fields : List (String × Bool × Shape)} {entries : List (String × Json)}
      (distinct : (fields.map Prod.fst).Nodup)
      (known : ∀ f ∈ fields, ∀ v, entries.lookup f.1 = some v → Fits f.2.2 v)
      (complete : ∀ f ∈ fields, f.2.1 = true → (entries.lookup f.1).isSome) :
      Fits (.record title fields) (.map entries)

/-- Nothing is missed among entries that decode. -/
theorem gather_eq_ok {entries : List (String × Json)} :
    ∀ {fields : List (String × Bool × Shape)},
      (∀ f ∈ fields, ∀ v, entries.lookup f.1 = some v → ∃ x, decode f.2.2 v = .ok x) →
      (∀ f ∈ fields, f.2.1 = true → (entries.lookup f.1).isSome) →
      ∃ xs, gather fields entries = .ok xs
  | [], _, _ => ⟨(), rfl⟩
  | (name, isNeeded, s) :: rest, hd, hn => by
    rw [List.forall_mem_cons] at hd hn
    obtain ⟨xs, hxs⟩ := gather_eq_ok hd.2 hn.2
    rw [gather]
    cases hl : entries.lookup name with
    | some v =>
      obtain ⟨x, hx⟩ := hd.1 v hl
      exact ⟨(x, xs), by simp only [hx, hxs, Except.ok_bind, Except.map]⟩
    | none =>
      cases isNeeded with
      | false => exact ⟨(s.blank, xs), by simp only [hxs, Except.map, Bool.false_eq_true, if_false]⟩
      | true =>
        have := hn.1 rfl
        rw [hl] at this
        cases this

theorem decodeInteger_settles (w : Word) {n : Json.Number} {k : WideInt} (h : n.whole? = some k) :
    Settles [(k.val, w)] (decodeInteger w (.number n.wholeAsInt)) := by
  rw [Json.Number.wholeAsInt_of_some h, decodeInteger]
  by_cases hw : w.Holds k.val
  · rw [dif_pos hw]
    apply Settles.ok
    intro e he
    rw [List.mem_singleton.mp he]
    exact hw
  · rw [dif_neg hw, ← List.nil_append [(k.val, w)]]
    exact .error (by simp) hw []

theorem decodeReal_settles (n : Json.Number) : Settles [] (decodeReal (.number n)) := by
  cases n with
  | int k => exact .nil _
  | float x => exact .nil _

theorem decodeEntry_settles {fields : List (String × Bool × Shape)} {e : String × Json}
    (h : ∀ f ∈ fields, f.1 = e.1 → Settles (integersAt f.2.2 e.2) (decode f.2.2 e.2.wholeFloatsAsInts)) :
    Settles (integersUnder fields e.1 e.2) (decodeEntry fields (e.1, e.2.wholeFloatsAsInts)) := by
  rw [integersUnder_eq, decodeEntry]
  cases hf : fields.lookup e.1 with
  | none => exact .nil ()
  | some f => exact (h (e.1, f) (Keyed.mem_of_lookup hf) rfl).map _

/-- A record settles its entries one after the other, and then nothing is missed in it. -/
theorem record_settles (title : String) {fields : List (String × Bool × Shape)}
    {entries : List (String × Json)} (distinct : (fields.map Prod.fst).Nodup)
    (sorted : Keyed.Sorted entries)
    (complete : ∀ f ∈ fields, f.2.1 = true → (entries.lookup f.1).isSome)
    (each : ∀ f ∈ fields, ∀ e ∈ entries, f.1 = e.1 →
      Settles (integersAt f.2.2 e.2) (decode f.2.2 e.2.wholeFloatsAsInts)) :
    Settles (entries.flatMap fun e => integersUnder fields e.1 e.2)
      (decode (.record title fields) (Json.map entries).wholeFloatsAsInts) := by
  have hkeys := Json.keys_wholeFloatsAsInts entries
  rw [Json.wholeFloatsAsInts_map, decode_map title distinct (hkeys ▸ sorted.nodup)]
  have hentries : Settles (entries.flatMap fun e => integersUnder fields e.1 e.2)
      ((entries.map fun e => (e.1, e.2.wholeFloatsAsInts)).forM (decodeEntry fields)) := by
    rw [List.forM_eq_forM, List.forM_map, ← List.forM_eq_forM]
    apply Settles.forM
    intro e he
    exact decodeEntry_settles fun f hf hk => each f hf e he hk
  rw [← List.append_nil (entries.flatMap _)]
  apply hentries.bind
  intro u hu
  obtain ⟨xs, hxs⟩ := gather_eq_ok (decode_of_forM distinct hu) fun f hf hn => by
    rw [Json.lookup_wholeFloatsAsInts, Option.isSome_map]
    exact complete f hf hn
  rw [hxs]
  exact .nil xs

/-- **A value of the right form decodes, or its first integer that is too large or too small for
its place is reported.** -/
theorem Fits.settles {s : Shape} : ∀ {v : Json}, Fits s v → v.Ordered →
    Settles (integersAt s v) (decode s v.wholeFloatsAsInts) := by
  induction s using Shape.induction with
  | text =>
    intro v h _
    cases h with
    | text s =>
      rw [decode_text]
      exact .nil s
  | flag =>
    intro v h _
    cases h with
    | flag b =>
      rw [decode_flag]
      exact .nil b
  | integer w =>
    intro v h _
    cases h with
    | integer w whole =>
      simp only [integersAt, whole, decode_integer]
      exact decodeInteger_settles w whole
  | real =>
    intro v h _
    cases h with
    | real n =>
      rw [decode_real]
      exact decodeReal_settles n.wholeAsInt
  | nullable s ih =>
    intro v h ho
    by_cases hv : v = .null
    · subst hv
      have hd : decode (.nullable s) Json.null.wholeFloatsAsInts = .ok none := decode_nullable_null s
      rw [integersAt_null, hd]
      exact .nil none
    · cases h with
      | null => exact absurd rfl hv
      | present h =>
        have hq : v.wholeFloatsAsInts ≠ .null := mt Json.wholeFloatsAsInts_eq_null.mp hv
        rw [decode_nullable hq]
        exact (ih h ho).map some
  | sequence s ih =>
    intro v h ho
    cases h with
    | sequence each =>
      rename_i items
      rw [Json.wholeFloatsAsInts_list, decode_sequence_list, List.mapM_map]
      exact Settles.mapM fun item hi => ih (each item hi) (ho.items item hi)
  | record title fields ih =>
    intro v h ho
    cases h with
    | record distinct known complete =>
      rename_i entries
      rw [integersAt]
      apply record_settles title distinct ho.sorted complete
      intro f hf e he hk
      have hv : entries.lookup f.1 = some e.2 := by
        rw [hk]
        exact Keyed.lookup_of_mem ho.sorted.nodup he
      exact ih f hf (known f hf e.2 hv) (ho.values e he)

end BareMetal.Wire
