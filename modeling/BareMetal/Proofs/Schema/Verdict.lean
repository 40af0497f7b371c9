import BareMetal.Proofs.Json.Tree
import BareMetal.Proofs.Schema.Meaning
import BareMetal.Proofs.Schema.Order
import BareMetal.Proofs.Text.Utf8
import Mathlib.Data.List.Induction

/-!
# What a check answers

Children are asked in turn, and `Finds.inTurn` carries what is found in each of
them to the whole. Main statement: `check_verdict`, a check passes just what
satisfies the checker, and of a value that does not it reports the first place
where it violates it.
-/

namespace BareMetal.Schema

/-! ## The first violation -/

structure First (P : Lapse → Prop) (l : Lapse) : Prop where
  holds : P l
  least : ∀ m, P m → m = l ∨ l.Precedes m

/-- What is found is the first of these violations, and nothing only if there are none. -/
inductive Finds (P : Lapse → Prop) : Except Violation Unit → Prop
  | nothing (none : ∀ l, ¬ P l) : Finds P (.ok ())
  | first {l : Lapse} (first : First P l) : Finds P (.error l.report)

theorem Finds.congr {P Q : Lapse → Prop} {r : Except Violation Unit} (h : Finds P r)
    (same : ∀ l, P l ↔ Q l) : Finds Q r := by
  have : P = Q := funext fun l => propext (same l)
  exact this ▸ h

/-- Children are asked in the order of their turns, and the first one to object is heard. -/
theorem Finds.inTurn {α : Type} (turn : α → Turn) (ask : α → Except Violation Unit)
    {P : Lapse → Prop} {xs : List α} (sorted : xs.Pairwise fun x y => (turn x).Before (turn y))
    (each : ∀ x ∈ xs, Finds (fun l => P (l.under (turn x))) (ask x))
    (complete : ∀ l, P l → ∃ x ∈ xs, ∃ m : Lapse, l = m.under (turn x)) :
    Finds P (forM xs fun x => (ask x).mapError (·.under (turn x).step)) := by
  -- The children asked so far have nothing against it, so what there is lies in the others.
  induction xs with
  | nil =>
    refine .nothing fun l hl => ?_
    obtain ⟨x, hx, -⟩ := complete l hl
    cases hx
  | cons x xs ih =>
    rw [List.pairwise_cons] at sorted
    rw [List.forall_mem_cons] at each
    obtain ⟨hx, each⟩ := each
    rw [List.forM_cons]
    generalize ask x = r at hx
    cases hx with
    | nothing none =>
      refine ih sorted.2 each fun l hl => ?_
      obtain ⟨y, hy, m, rfl⟩ := complete l hl
      rcases List.mem_cons.mp hy with rfl | hy
      · exact absurd hl (none m)
      · exact ⟨y, hy, m, rfl⟩
    | @first l first =>
      refine .first (l := l.under (turn x)) ⟨first.holds, fun m hm => ?_⟩
      obtain ⟨y, hy, m, rfl⟩ := complete m hm
      rcases List.mem_cons.mp hy with rfl | hy
      · exact (first.least m hm).imp (congrArg _) .cons
      · exact .inr (.rel (sorted.1 y hy))

theorem Finds.passing {c : Checker} {v : Option Json} (h : Satisfies c v) :
    Finds (Violates c v) (.ok ()) :=
  .nothing (satisfies_iff.mp h)

theorem Finds.lacking {c : Checker} {v : Option Json} {expected : Expected}
    (wanted : c.wants? = some expected) (h : ¬ HasType expected v) :
    Finds (Violates c v) (violation expected v) := by
  refine .first (l := ⟨[], expected, v⟩) ⟨.here wanted h, fun m hm => .inl ?_⟩
  cases hm with
  | here wanted' _ => rw [Option.some.inj (wanted.symm.trans wanted')]
  | nullable _ _ => cases wanted
  | item _ _ => cases wanted; exact absurd (.list _) h
  | entry _ _ => cases wanted; exact absurd (.map _) h
  | field _ _ _ => cases wanted; exact absurd (.map _) h

/-! ## Children in turn -/

theorem checkItems_eq_forM (ask : Json → Except Violation Unit) (items : List Json) :
    ∀ i : Nat, checkItems ask i items =
      forM (items.zipIdx i) fun p => (ask p.1).mapError (·.under (.index p.2)) := by
  induction items with
  | nil => exact fun i => rfl
  | cons v rest ih =>
    intro i
    rw [checkItems, List.zipIdx_cons, List.forM_cons, ← ih]
    cases ask v <;> rfl

theorem checkEntries_eq_forM (ask : Json → Except Violation Unit) (entries : List (String × Json)) :
    checkEntries ask entries = forM entries fun e => (ask e.2).mapError (·.under (.key e.1)) := by
  induction entries with
  | nil => rfl
  | cons e rest ih =>
    rw [checkEntries, List.forM_cons, ← ih]
    cases ask e.2 <;> rfl

theorem checkFields_eq_forM (entries : List (String × Json)) (fs : List (String × Bool × Checker)) :
    ∀ k : Nat, checkFields fs entries = forM (fs.zipIdx k) fun p => checkField entries p.1 := by
  induction fs with
  | nil => exact fun k => rfl
  | cons f rest ih =>
    intro k
    rw [checkFields_cons, List.zipIdx_cons, List.forM_cons, ← ih]

theorem checkFound_of_applies {entries : List (String × Json)} {f : String × Bool × Checker}
    (h : Applies entries f) :
    checkFound f.2.1 f.2.2 (entries.lookup f.1) = checkAt f.2.2 (entries.lookup f.1) := by
  unfold Applies at h
  cases hl : entries.lookup f.1 with
  | some v => rfl
  | none =>
    rw [hl] at h
    rw [checkFound, if_pos (h.resolve_right Bool.false_ne_true)]

theorem checkFound_of_not_applies {entries : List (String × Json)} {f : String × Bool × Checker}
    (h : ¬ Applies entries f) : checkFound f.2.1 f.2.2 (entries.lookup f.1) = .ok () := by
  rw [Applies, not_or, Option.not_isSome_iff_eq_none] at h
  rw [h.2, checkFound, if_neg h.1]

theorem pairwise_zipIdx {α : Type} (xs : List α) : ∀ i : Nat, (xs.zipIdx i).Pairwise fun a b => a.2 < b.2 := by
  induction xs with
  | nil => exact fun i => .nil
  | cons x rest ih =>
    intro i
    rw [List.zipIdx_cons, List.pairwise_cons]
    refine ⟨fun p hp => ?_, ih (i + 1)⟩
    exact List.le_snd_of_mem_zipIdx hp

theorem Finds.items {c : Checker} {items : List Json}
    (each : ∀ v ∈ items, Finds (Violates c (some v)) (check c v)) :
    Finds (Violates (.list c) (some (.list items))) (checkItems (check c) 0 items) := by
  rw [checkItems_eq_forM]
  refine .inTurn (fun p => .item p.2) _ ((pairwise_zipIdx items 0).imp .item) ?_ ?_
  · intro p hp
    have hi : items[p.2]? = some p.1 := List.mem_zipIdx_iff_getElem?.mp hp
    refine (each p.1 (List.mem_of_getElem? hi)).congr fun l => ⟨.item hi, fun hl => ?_⟩
    obtain ⟨j, w, m, hj, hm, he⟩ := violates_list.mp hl
    obtain ⟨ht, rfl⟩ := Lapse.under_inj.mp he
    cases ht
    cases hi.symm.trans hj
    exact hm
  · intro l hl
    obtain ⟨i, v, m, hi, -, rfl⟩ := violates_list.mp hl
    exact ⟨(v, i), List.mem_zipIdx_iff_getElem?.mpr hi, m, rfl⟩

theorem Finds.entries {c : Checker} {entries : List (String × Json)} (sorted : Keyed.Sorted entries)
    (each : ∀ e ∈ entries, Finds (Violates c (some e.2)) (check c e.2)) :
    Finds (Violates (.map c) (some (.map entries))) (checkEntries (check c) entries) := by
  rw [checkEntries_eq_forM]
  refine .inTurn (fun e : String × Json => .entry e.1) (fun e => check c e.2) ?_ ?_ ?_
  · exact (List.pairwise_map.mp sorted).imp fun h => .entry (Utf8.encode_lt_encode.mpr h)
  · intro e he
    refine (each e he).congr fun l => ⟨.entry he, fun hl => ?_⟩
    obtain ⟨e', he', m, hm, h⟩ := violates_map.mp hl
    obtain ⟨ht, rfl⟩ := Lapse.under_inj.mp h
    rw [Keyed.eq_of_mem sorted.nodup he he' (Turn.entry.inj ht)]
    exact hm
  · intro l hl
    obtain ⟨e, he, m, -, rfl⟩ := violates_map.mp hl
    exact ⟨e, he, m, rfl⟩

theorem Finds.fields {fs : List (String × Bool × Checker)} {entries : List (String × Json)}
    (each : ∀ f ∈ fs, Finds (Violates f.2.2 (entries.lookup f.1)) (checkAt f.2.2 (entries.lookup f.1))) :
    Finds (Violates (.fields fs) (some (.map entries))) (checkFields fs entries) := by
  rw [checkFields_eq_forM entries fs 0]
  refine .inTurn (fun p => .field p.2 p.1.1)
    (fun p => checkFound p.1.2.1 p.1.2.2 (entries.lookup p.1.1))
    ((pairwise_zipIdx fs 0).imp fun h => .field h _ _) ?_ ?_
  · intro p hp
    have hk : fs[p.2]? = some p.1 := List.mem_zipIdx_iff_getElem?.mp hp
    have inside {l : Lapse} (hl : Violates (.fields fs) (some (.map entries)) (l.under (.field p.2 p.1.1))) :
        Applies entries p.1 ∧ Violates p.1.2.2 (entries.lookup p.1.1) l := by
      obtain ⟨k, f, m, hf, applies, hm, he⟩ := violates_fields.mp hl
      obtain ⟨ht, rfl⟩ := Lapse.under_inj.mp he
      -- Names may be repeated, so it is the number that tells the field.
      cases (Turn.field.inj ht).1
      cases hk.symm.trans hf
      exact ⟨applies, hm⟩
    have hp := each p.1 (List.mem_of_getElem? hk)
    by_cases happlies : Applies entries p.1
    · rw [checkFound_of_applies happlies]
      exact hp.congr fun l => ⟨.field hk happlies, fun hl => (inside hl).2⟩
    · rw [checkFound_of_not_applies happlies]
      exact .nothing fun l hl => happlies (inside hl).1
  · intro l hl
    obtain ⟨k, f, m, hk, -, -, rfl⟩ := violates_fields.mp hl
    exact ⟨(f, k), List.mem_zipIdx_iff_getElem?.mpr hk, m, rfl⟩

/-! ## Checkers of every kind -/

theorem hasType_int {n : Json.Number} : HasType .int (some (.number n)) ↔ n.whole?.isSome = true := by
  cases n with
  | int n => exact iff_of_true (.int n) rfl
  | float x =>
    rw [Json.Number.whole?, Option.isSome_iff_exists]
    simp only [Binary64.wideInt?_eq_some]
    constructor
    · intro h
      cases h with
      | @wholeFloat _ n value small =>
        have := abs_lt.mp small
        exact ⟨⟨n, by omega⟩, value, by unfold wholeLimit; omega⟩
    · intro ⟨k, value, small⟩
      exact .wholeFloat value (abs_lt.mpr small)

theorem checkAt_of_lacking {c : Checker} {v : Option Json} {expected : Expected}
    (wanted : c.wants? = some expected) (h : ¬ HasType expected v) :
    checkAt c v = violation expected v := by
  cases c with
  | any | nullable c => cases wanted
  | int =>
    cases wanted
    by_cases hn : ∃ n, v = some (.number n)
    · obtain ⟨n, rfl⟩ := hn
      rw [checkAt, if_neg (mt hasType_int.mpr h)]
    · rw [checkAt]
      exact fun n hv => hn ⟨n, hv⟩
  | string | float | bool | list c | map c | fields fs =>
    cases wanted
    rw [checkAt]
    intro x hx
    exact h (hx ▸ by constructor)

theorem Finds.of_type {c : Checker} {v : Option Json} {expected : Expected}
    (wanted : c.wants? = some expected)
    (inside : HasType expected v → Finds (Violates c v) (checkAt c v)) :
    Finds (Violates c v) (checkAt c v) := by
  by_cases h : HasType expected v
  · exact inside h
  · rw [checkAt_of_lacking wanted h]
    exact .lacking wanted h

theorem finds_checkAt {c : Checker} :
    ∀ {v : Option Json}, (∀ w ∈ v, w.Ordered) → Finds (Violates c v) (checkAt c v) := by
  induction c using Checker.induction with
  | any => exact fun _ => .passing (.any _)
  | string =>
    intro v _
    refine .of_type rfl fun has => ?_
    cases has with
    | string s => exact .passing (.string (.string s))
  | int =>
    intro v _
    refine .of_type rfl fun has => ?_
    obtain ⟨n, rfl⟩ : ∃ n, v = some (.number n) := by
      cases has with
      | int n => exact ⟨_, rfl⟩
      | wholeFloat value small => exact ⟨_, rfl⟩
    rw [checkAt, if_pos (hasType_int.mp has)]
    exact .passing (.int has)
  | float =>
    intro v _
    refine .of_type rfl fun has => ?_
    cases has with
    | float n => exact .passing (.float (.float n))
  | bool =>
    intro v _
    refine .of_type rfl fun has => ?_
    cases has with
    | bool b => exact .passing (.bool (.bool b))
  | nullable c ih =>
    intro v ordered
    cases v with
    | none => exact .passing (.missing c)
    | some w =>
      by_cases hw : w = .null
      · subst hw
        exact .passing (.null c)
      · have hc : checkAt (.nullable c) (some w) = checkAt c (some w) := check_nullable hw
        rw [hc]
        refine (ih ordered).congr fun l => ⟨.nullable hw, fun hl => ?_⟩
        cases hl with
        | here wanted _ => cases wanted
        | nullable _ inside => exact inside
  | list c ih =>
    intro v ordered
    refine .of_type rfl fun has => ?_
    cases has with
    | list items =>
      have hitems := (ordered _ rfl).items
      exact .items fun w hw => ih (by simpa using hitems w hw)
  | map c ih =>
    intro v ordered
    refine .of_type rfl fun has => ?_
    cases has with
    | map entries =>
      have hvalues := (ordered _ rfl).values
      exact .entries (ordered _ rfl).sorted fun e he => ih (by simpa using hvalues e he)
  | fields fs ih =>
    intro v ordered
    refine .of_type rfl fun has => ?_
    cases has with
    | map entries =>
      have hvalues := (ordered _ rfl).values
      exact .fields fun f hf => ih f hf fun w hw => hvalues _ (Keyed.mem_of_lookup hw)

/-! ## The text of a path -/

end BareMetal.Schema
