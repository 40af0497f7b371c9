import BareMetal.Proofs.Text.Composites
import BareMetal.Proofs.Text.Pieces

/-!
# Composed texts

`compose_compose`: a composed text stays as it is. Points are in no composite, so
that the pieces between them are composed on their own (`compose_point`).
-/

namespace BareMetal.Text

section
variable {c d : Char}

/-! ## The order of marks -/

/-- The mark `c` has to stand before `d`. -/
def Precedes (c d : Char) : Prop := 0 < combiningClass c ∧ combiningClass c < combiningClass d

instance (c d : Char) : Decidable (Precedes c d) := inferInstanceAs (Decidable (_ ∧ _))

theorem placeMark_of_precedes (h : Precedes c d) (t : List Char) :
    placeMark c (d :: t) = d :: placeMark c t := if_pos h

theorem placeMark_of_not_precedes (h : ¬ Precedes c d) (t : List Char) :
    placeMark c (d :: t) = c :: d :: t := if_neg h

theorem placeMark_comm (hc : 0 < combiningClass c) (hlt : combiningClass c < combiningClass d) (t : List Char) :
    placeMark d (placeMark c t) = placeMark c (placeMark d t) := by
  have hcd : Precedes c d := ⟨hc, hlt⟩
  have hdc : ¬ Precedes d c := fun h => absurd h.2 (by omega)
  induction t with
  | nil =>
    rw [placeMark, placeMark, placeMark_of_precedes hcd, placeMark_of_not_precedes hdc]
    rfl
  | cons e t ih =>
    by_cases hd : Precedes d e
    · have he : Precedes c e := ⟨hc, Nat.lt_trans hlt hd.2⟩
      rw [placeMark_of_precedes hd, placeMark_of_precedes he, placeMark_of_precedes hd,
        placeMark_of_precedes he, ih]
    · rw [placeMark_of_not_precedes hd, placeMark_of_precedes hcd]
      by_cases he : Precedes c e
      · rw [placeMark_of_precedes he, placeMark_of_not_precedes hd]
      · rw [placeMark_of_not_precedes he, placeMark_of_not_precedes hdc]

theorem orderMarks_eq (s : List Char) : orderMarks s = (s.foldl (fun t c => placeMark c t) []).reverse := rfl

theorem placeMark_perm (c : Char) (t : List Char) : (placeMark c t).Perm (c :: t) := by
  induction t with
  | nil => exact .refl _
  | cons d t ih =>
    by_cases h : Precedes c d
    · rw [placeMark_of_precedes h]
      exact (ih.cons d).trans (.swap c d t)
    · rw [placeMark_of_not_precedes h]

theorem foldl_placeMark_perm (s : List Char) : ∀ t : List Char,
    (s.foldl (fun t c => placeMark c t) t).Perm (s ++ t) := by
  induction s with
  | nil => exact fun t => .refl _
  | cons c s ih =>
    intro t
    exact (ih _).trans (((placeMark_perm c t).append_left s).trans List.perm_middle)

theorem orderMarks_perm (s : List Char) : (orderMarks s).Perm s := by
  have h := foldl_placeMark_perm s []
  rw [List.append_nil] at h
  exact (List.reverse_perm _).trans h

/-! ### Marks in order -/

/-- In a text no mark stands behind one that it precedes. -/
def InOrder (s : List Char) : Prop := s.IsChain fun d c => ¬ Precedes c d

theorem reverse_placeMark_inOrder {t : List Char} (h : t.IsChain fun c d => ¬ Precedes c d) :
    (placeMark c t).IsChain fun c d => ¬ Precedes c d := by
  induction t with
  | nil => exact .singleton c
  | cons d t ih =>
    by_cases hc : Precedes c d
    · rw [placeMark_of_precedes hc]
      have hrest := ih h.tail
      cases t with
      | nil =>
        exact .cons_cons (fun hd => absurd hd.2 (by have := hc.2; omega)) hrest
      | cons e t =>
        by_cases he : Precedes c e
        · rw [placeMark_of_precedes he] at hrest ⊢
          exact .cons_cons (List.isChain_cons_cons.mp h).1 hrest
        · rw [placeMark_of_not_precedes he] at hrest ⊢
          exact .cons_cons (fun hd => absurd hd.2 (by have := hc.2; omega)) hrest
    · rw [placeMark_of_not_precedes hc]
      exact .cons_cons hc h

theorem inOrder_orderMarks (s : List Char) : InOrder (orderMarks s) := by
  have hfold : ∀ (s t : List Char), (t.IsChain fun c d => ¬ Precedes c d) →
      (s.foldl (fun t c => placeMark c t) t).IsChain fun c d => ¬ Precedes c d := by
    intro s
    induction s with
    | nil => exact fun t h => h
    | cons c s ih => exact fun t h => ih _ (reverse_placeMark_inOrder h)
  rw [InOrder, orderMarks_eq, List.isChain_reverse]
  exact hfold s [] .nil

theorem foldl_placeMark_of_inOrder {s : List Char} : ∀ {t : List Char}, InOrder (t.reverse ++ s) →
    s.foldl (fun t c => placeMark c t) t = s.reverse ++ t := by
  induction s with
  | nil => exact fun _ => rfl
  | cons c s ih =>
    intro t h
    have hplace : placeMark c t = c :: t := by
      cases t with
      | nil => rfl
      | cons d t =>
        rw [List.reverse_cons, List.append_assoc, List.singleton_append] at h
        exact placeMark_of_not_precedes (List.isChain_append_cons_cons.mp h).2.1 t
    rw [List.foldl_cons, hplace, ih (by simpa using h)]
    simp

theorem orderMarks_of_inOrder {s : List Char} (h : InOrder s) : orderMarks s = s := by
  have hfold := foldl_placeMark_of_inOrder (t := []) h
  rw [orderMarks_eq, hfold, List.append_nil, List.reverse_reverse]

/-! ### Texts with their marks in another order -/

/-- Two texts that are the same once the marks are in order. -/
def SameOrder (s t : List Char) : Prop :=
  ∀ acc : List Char, s.foldl (fun t c => placeMark c t) acc = t.foldl (fun t c => placeMark c t) acc

namespace SameOrder

variable {s t u : List Char}

theorem refl (s : List Char) : SameOrder s s := fun _ => rfl

theorem trans (h : SameOrder s t) (h' : SameOrder t u) : SameOrder s u := fun acc => (h acc).trans (h' acc)

theorem append (h : SameOrder s t) {s' t' : List Char} (h' : SameOrder s' t') : SameOrder (s ++ s') (t ++ t') := by
  intro acc
  rw [List.foldl_append, List.foldl_append, h acc, h']

theorem orderMarks_eq (h : SameOrder s t) : orderMarks s = orderMarks t := congrArg List.reverse (h [])

/-- A mark may pass others of lower classes. -/
theorem pass {ks : List Char} (h : ∀ k ∈ ks, Precedes k c) : SameOrder (c :: ks) (ks ++ [c]) := by
  induction ks with
  | nil => exact refl _
  | cons k ks ih =>
    rw [List.forall_mem_cons] at h
    intro acc
    have hks := ih h.2 (placeMark k acc)
    rw [List.foldl_cons] at hks
    rw [List.foldl_cons, List.foldl_cons, placeMark_comm h.1.1 h.1.2 acc |>.symm, hks]
    rfl

end SameOrder

/-! ## Joining -/

theorem joined?_eq_some {letter : Char} {kept : List Char} (h : joined? letter kept c = some d) :
    reaches kept c = true ∧ parts? d = some (letter, c) := by
  unfold joined? at h
  split at h
  · exact ⟨‹_›, parts?_of_composite? h⟩
  · cases h

/-- The marks that were kept, from their end: the first of them has the highest class, and what
follows is in order. -/
structure Kept (kept rest : List Char) : Prop where
  marks : ∀ k ∈ kept, 0 < combiningClass k
  highest : ∀ e ∈ kept.head?, ∀ k ∈ kept, combiningClass k ≤ combiningClass e
  next : ∀ e ∈ kept.head?, ∀ c ∈ rest.head?, ¬ Precedes c e
  inOrder : InOrder rest

theorem Kept.nil {rest : List Char} (h : InOrder rest) : Kept [] rest := ⟨nofun, nofun, nofun, h⟩

theorem Kept.push {kept rest : List Char} (h : Kept kept (c :: rest)) (hc : combiningClass c ≠ 0) :
    Kept (c :: kept) rest := by
  have hpos : 0 < combiningClass c := Nat.pos_of_ne_zero hc
  have hle : ∀ k ∈ kept, combiningClass k ≤ combiningClass c := by
    cases kept with
    | nil => nofun
    | cons e kept =>
      have hnext : ¬ (0 < combiningClass c ∧ combiningClass c < combiningClass e) := h.next e rfl c rfl
      intro k hk
      have := h.highest e rfl k hk
      omega
  refine ⟨List.forall_mem_cons.mpr ⟨hpos, h.marks⟩, ?_, ?_, h.inOrder.tail⟩
  · intro e he
    cases he
    exact List.forall_mem_cons.mpr ⟨Nat.le_refl _, hle⟩
  · intro e he d hd
    cases he
    cases rest with
    | nil => cases hd
    | cons d' rest =>
      cases hd
      exact (List.isChain_cons_cons.mp h.inOrder).1

theorem Kept.skip {kept rest : List Char} (h : Kept kept (c :: rest)) (hc : reaches kept c = true) :
    Kept kept rest := by
  refine ⟨h.marks, h.highest, ?_, h.inOrder.tail⟩
  intro e he d hd
  have hlt : combiningClass e < combiningClass c := by
    cases kept with
    | nil => cases he
    | cons e' kept =>
      cases he
      simpa [reaches] using hc
  have hnext : ¬ (0 < combiningClass d ∧ combiningClass d < combiningClass c) := by
    cases rest with
    | nil => cases hd
    | cons d' rest =>
      cases hd
      exact (List.isChain_cons_cons.mp h.inOrder).1
  intro hprec
  exact hnext ⟨hprec.1, Nat.lt_trans hprec.2 hlt⟩

theorem Kept.precedes {kept rest : List Char} (h : Kept kept rest) (hc : reaches kept c = true) :
    ∀ k ∈ kept.reverse, Precedes k c := by
  intro k hk
  rw [List.mem_reverse] at hk
  cases kept with
  | nil => cases hk
  | cons e kept =>
    have hlt : combiningClass e < combiningClass c := by simpa [reaches] using hc
    exact ⟨h.marks k hk, Nat.lt_of_le_of_lt (h.highest e rfl k hk) hlt⟩

/-- **What was joined comes apart again**, up to the order of marks. -/
theorem sameOrder_joinMarks (rest : List Char) : ∀ (letter : Char) {kept : List Char}, Kept kept rest →
    AreAtoms kept → AreAtoms rest →
      SameOrder (atoms (joinMarks letter kept rest)) (takeApart 4 letter ++ (kept.reverse ++ rest)) := by
  induction rest with
  | nil =>
    intro letter kept _ hkept _
    have hreverse : AreAtoms kept.reverse := fun c hc => hkept c (List.mem_reverse.mp hc)
    rw [joinMarks, List.append_nil, atoms, List.flatMap_cons, ← atoms, hreverse.atoms_eq]
    exact .refl _
  | cons c rest ih =>
    intro letter kept h hkept hrest
    rw [AreAtoms, List.forall_mem_cons] at hrest
    have hreverse : AreAtoms kept.reverse := fun c hc => hkept c (List.mem_reverse.mp hc)
    rw [joinMarks]
    cases hd : joined? letter kept c with
    | some d =>
      -- `c` has come before the marks that were kept, all of which have a lower class
      obtain ⟨hreach, hparts⟩ := joined?_eq_some hd
      have hjoin := ih d (h.skip hreach) hkept hrest.2
      rw [takeApart_of_parts? hparts] at hjoin
      have hpass := SameOrder.pass (h.precedes hreach)
      have hmoved := (SameOrder.refl (takeApart 4 letter)).append (hpass.append (.refl rest))
      refine hjoin.trans ?_
      simpa using hmoved
    | none =>
      simp only
      by_cases hc : combiningClass c = 0
      · have hjoin := ih c (.nil h.inOrder.tail) areAtoms_nil hrest.2
        rw [takeApart_atom hrest.1] at hjoin
        rw [if_pos hc, atoms, List.flatMap_cons, ← atoms, atoms_append, hreverse.atoms_eq]
        exact (SameOrder.refl _).append ((SameOrder.refl _).append hjoin)
      · rw [if_neg hc]
        have hjoin := ih letter (h.push hc) (List.forall_mem_cons.mpr ⟨hrest.1, hkept⟩) hrest.2
        rwa [List.reverse_cons, List.append_assoc] at hjoin

end

/-! ## Composed texts -/

/-- Joins what a text of characters without parts has to join. -/
def recompose (s : List Char) : List Char :=
  let marks := s.takeWhile fun c => combiningClass c != 0
  match s.dropWhile fun c => combiningClass c != 0 with
  | [] => marks
  | c :: rest => marks ++ joinMarks c [] rest

theorem compose_eq (s : List Char) : compose s = recompose (orderMarks (atoms s)) := rfl

theorem recompose_of_letter {c : Char} (hc : combiningClass c = 0) (s : List Char) :
    recompose (c :: s) = joinMarks c [] s := by
  simp [recompose, hc]

theorem recompose_of_mark {c : Char} (hc : combiningClass c ≠ 0) (s : List Char) :
    recompose (c :: s) = c :: recompose s := by
  unfold recompose
  simp only [List.takeWhile_cons, List.dropWhile_cons, bne_iff_ne, ne_eq, hc, not_false_eq_true, if_true]
  split <;> rfl

theorem sameOrder_recompose {s : List Char} (h : AreAtoms s) (ho : InOrder s) :
    SameOrder (atoms (recompose s)) s := by
  induction s with
  | nil => exact .refl _
  | cons c s ih =>
    rw [AreAtoms, List.forall_mem_cons] at h
    by_cases hc : combiningClass c = 0
    · have hjoin := sameOrder_joinMarks s c (.nil ho.tail) areAtoms_nil h.2
      rw [takeApart_atom h.1] at hjoin
      rw [recompose_of_letter hc]
      exact hjoin
    · rw [recompose_of_mark hc, atoms, List.flatMap_cons, ← atoms, takeApart_atom h.1]
      exact (SameOrder.refl [c]).append (ih h.2 ho.tail)

theorem areAtoms_orderMarks (s : List Char) : AreAtoms (orderMarks (atoms s)) :=
  fun c hc => areAtoms_atoms s c ((orderMarks_perm _).mem_iff.mp hc)

theorem orderMarks_atoms_compose (s : List Char) : orderMarks (atoms (compose s)) = orderMarks (atoms s) := by
  have hinOrder := inOrder_orderMarks (atoms s)
  rw [compose_eq, (sameOrder_recompose (areAtoms_orderMarks s) hinOrder).orderMarks_eq,
    orderMarks_of_inOrder hinOrder]

/-- **A composed text stays as it is.** -/
theorem compose_compose (s : List Char) : compose (compose s) = compose s := by
  rw [compose_eq (compose s), orderMarks_atoms_compose, ← compose_eq]

theorem atoms_compose_perm (s : List Char) : (atoms (compose s)).Perm (atoms s) := by
  have h := orderMarks_perm (atoms (compose s))
  rw [orderMarks_atoms_compose] at h
  exact h.symm.trans (orderMarks_perm _)

/-! ## Points -/

theorem combiningClasses_ascii : ∀ e ∈ combiningClasses.toList, 0x80 ≤ e.1 := by decide +kernel

theorem combiningClass_of_ascii {c : Char} (hc : c.toNat < 0x80) : combiningClass c = 0 := by
  unfold combiningClass
  split
  · rename_i lo hi k h
    have hascii := combiningClasses_ascii _ (Array.mem_toList_iff.mpr (Array.mem_of_find?_eq_some h))
    have hlo := Array.find?_some h
    simp only [Bool.and_eq_true, decide_eq_true_eq] at hlo
    omega
  · rfl

/-- A character that neither is a mark nor comes apart, and that joins no letter before it. -/
structure IsInert (c : Char) : Prop where
  letter : combiningClass c = 0
  atom : parts? c = none
  joins : ∀ d a : Char, parts? d ≠ some (a, c)

theorem isInert_of_ascii {c : Char} (hc : c.toNat < 0x80) : IsInert c := by
  refine ⟨combiningClass_of_ascii hc, parts?_of_ascii hc, fun d a h => ?_⟩
  have hascii := ascii_second h
  omega

theorem IsInert.joined? {c : Char} (h : IsInert c) (letter : Char) (kept : List Char) :
    Text.joined? letter kept c = none := by
  cases hj : Text.joined? letter kept c with
  | none => rfl
  | some d => exact absurd (joined?_eq_some hj).2 (h.joins d letter)

theorem joined?_point (kept : List Char) (c : Char) : joined? '.' kept c = none := by
  cases h : joined? '.' kept c with
  | none => rfl
  | some d => exact absurd rfl (point_first (joined?_eq_some h).2)

theorem placeMark_append {c d : Char} (hd : combiningClass d = 0) (s t : List Char) :
    placeMark c (s ++ d :: t) = placeMark c s ++ d :: t := by
  have hprec : ¬ Precedes c d := fun h => absurd h.2 (by omega)
  induction s with
  | nil => exact placeMark_of_not_precedes hprec t
  | cons e s ih =>
    rw [List.cons_append]
    by_cases he : Precedes c e
    · rw [placeMark_of_precedes he, placeMark_of_precedes he, ih, List.cons_append]
    · rw [placeMark_of_not_precedes he, placeMark_of_not_precedes he, List.cons_append, List.cons_append]

theorem orderMarks_append {d : Char} (hd : combiningClass d = 0) (s t : List Char) :
    orderMarks (s ++ d :: t) = orderMarks s ++ d :: orderMarks t := by
  have hfold : ∀ acc acc' : List Char, t.foldl (fun t c => placeMark c t) (acc ++ d :: acc') =
      t.foldl (fun t c => placeMark c t) acc ++ d :: acc' := by
    induction t with
    | nil => exact fun _ _ => rfl
    | cons c t ih =>
      intro acc acc'
      rw [List.foldl_cons, List.foldl_cons, placeMark_append hd, ih]
  have hplace (acc : List Char) : placeMark d acc = d :: acc := by
    cases acc with
    | nil => rfl
    | cons e acc => exact placeMark_of_not_precedes (fun h => absurd h.1 (by omega)) acc
  rw [orderMarks_eq, orderMarks_eq, orderMarks_eq, List.foldl_append, List.foldl_cons, hplace]
  have h := hfold [] (s.foldl (fun t c => placeMark c t) [])
  rw [List.nil_append] at h
  simp [h]

theorem joinMarks_append {d : Char} (hd : IsInert d) (s t : List Char) : ∀ (letter : Char) (kept : List Char),
    joinMarks letter kept (s ++ d :: t) = joinMarks letter kept s ++ joinMarks d [] t := by
  induction s with
  | nil =>
    intro letter kept
    simp [joinMarks, hd.joined?, hd.letter]
  | cons c s ih =>
    intro letter kept
    rw [List.cons_append, joinMarks, joinMarks]
    cases joined? letter kept c with
    | some e => exact ih e kept
    | none =>
      simp only
      split
      · rw [ih, List.cons_append, List.append_assoc]
      · exact ih letter (c :: kept)

theorem recompose_append {d : Char} (hd : IsInert d) (s t : List Char) :
    recompose (s ++ d :: t) = recompose s ++ joinMarks d [] t := by
  induction s with
  | nil => exact recompose_of_letter hd.letter t
  | cons c s ih =>
    rw [List.cons_append]
    by_cases hc : combiningClass c = 0
    · rw [recompose_of_letter hc, recompose_of_letter hc, joinMarks_append hd]
    · rw [recompose_of_mark hc, recompose_of_mark hc, ih, List.cons_append]

theorem joinMarks_point (s : List Char) : ∀ kept : List Char,
    joinMarks '.' kept s = '.' :: (kept.reverse ++ recompose s) := by
  induction s with
  | nil => exact fun kept => by simp [joinMarks, recompose]
  | cons c s ih =>
    intro kept
    rw [joinMarks, joined?_point]
    by_cases hc : combiningClass c = 0
    · simp [hc, recompose_of_letter hc]
    · simp [hc, recompose_of_mark hc, ih]

/-- **What points separate is composed on its own.** -/
theorem compose_point (s t : List Char) : compose (s ++ '.' :: t) = compose s ++ '.' :: compose t := by
  have hpoint : atoms ('.' :: t) = '.' :: atoms t := by
    rw [atoms, List.flatMap_cons, takeApart_atom (parts?_of_ascii (by decide))]
    rfl
  rw [compose_eq, atoms_append, hpoint, orderMarks_append (combiningClass_of_ascii (by decide)),
    recompose_append (isInert_of_ascii (by decide)), joinMarks_point]
  rfl

theorem point_mem_takeApart {c : Char} {n : Nat} (h : '.' ∈ takeApart n c) : c = '.' := by
  induction n generalizing c with
  | zero => exact (List.mem_singleton.mp h).symm
  | succ n ih =>
    rw [takeApart] at h
    cases hp : parts? c with
    | none =>
      simp only [hp, List.mem_singleton] at h
      exact h.symm
    | some p =>
      simp only [hp, List.mem_append, List.mem_singleton] at h
      rcases h with h | h
      · exact absurd (ih h) (point_first hp)
      · have hascii := ascii_second hp
        rw [← h] at hascii
        exact absurd hascii (by decide)

theorem point_mem_atoms {s : List Char} : '.' ∈ atoms s ↔ '.' ∈ s := by
  constructor
  · intro h
    obtain ⟨c, hc, h⟩ := List.mem_flatMap.mp h
    rwa [point_mem_takeApart h] at hc
  · intro h
    refine List.mem_flatMap.mpr ⟨'.', h, ?_⟩
    rw [takeApart_atom (parts?_of_ascii (by decide))]
    exact List.mem_singleton_self '.'

theorem point_mem_compose {s : List Char} : '.' ∈ compose s ↔ '.' ∈ s := by
  rw [← point_mem_atoms, (atoms_compose_perm s).mem_iff, point_mem_atoms]

theorem pieces_compose (s : List Char) :
    pieces (· == '.') (compose s) = (pieces (· == '.') s).map compose := by
  have hfree : ∀ piece ∈ pieces (· == '.') s, '.' ∉ piece := by
    intro piece hp hm
    simpa using not_of_mem_pieces _ s piece hp '.' hm
  have hall : ∀ ps : List (List Char), ps ≠ [] →
      compose (['.'].intercalate ps) = ['.'].intercalate (ps.map compose) := by
    intro ps
    induction ps with
    | nil => exact fun h => absurd rfl h
    | cons p ps ih =>
      intro _
      cases ps with
      | nil => simp
      | cons q ps =>
        have hrest := ih (by simp)
        simp only [List.map_cons] at hrest
        rw [List.intercalate_cons_cons, List.append_assoc, List.singleton_append, compose_point, hrest]
        simp [List.intercalate_cons_cons]
  have hne := pieces_ne_nil (· == '.') s
  have hcut := hall _ hne
  rw [intercalate_pieces] at hcut
  rw [hcut, pieces_intercalate (by simpa using hne)]
  intro piece hp c hc
  obtain ⟨q, hq, rfl⟩ := List.mem_map.mp hp
  rintro rfl
  exact hfree q hq (point_mem_compose.mp hc)

/-! ## ASCII texts -/

theorem takeApart_of_ascii {c : Char} {n : Nat} (h : ∀ d ∈ takeApart n c, d.toNat < 0x80) : takeApart n c = [c] := by
  cases n with
  | zero => rfl
  | succ n =>
    rw [takeApart] at h ⊢
    cases hp : parts? c with
    | none => rfl
    | some p =>
      rw [hp] at h
      have hsecond := h p.2 (by simp)
      have hascii := ascii_second hp
      omega

theorem recompose_of_inert {s : List Char} (h : ∀ c ∈ s, IsInert c) : recompose s = s := by
  induction s with
  | nil => rfl
  | cons c s ih =>
    rw [List.forall_mem_cons] at h
    cases s with
    | nil =>
      rw [recompose_of_letter h.1.letter]
      rfl
    | cons d s =>
      have hd := (List.forall_mem_cons.mp h.2).1
      have hrest := recompose_append hd [c] s
      rw [← recompose_of_letter hd.letter, ih h.2, recompose_of_letter h.1.letter] at hrest
      exact hrest

/-- What has nothing to join is its own composition. -/
theorem compose_of_inert {s : List Char} (h : ∀ c ∈ s, IsInert c) : compose s = s := by
  have hatoms : AreAtoms s := fun c hc => (h c hc).atom
  have hinOrder : InOrder s := by
    apply List.Pairwise.isChain
    refine List.pairwise_of_forall_mem_list fun d hd c hc hprec => ?_
    have hletter := (h c hc).letter
    exact absurd hprec.1 (by omega)
  rw [compose_eq, hatoms.atoms_eq, orderMarks_of_inOrder hinOrder, recompose_of_inert h]

theorem compose_of_ascii {s : List Char} (h : ∀ c ∈ s, c.toNat < 0x80) : compose s = s :=
  compose_of_inert fun c hc => isInert_of_ascii (h c hc)

/-- What composes to an ASCII text is one. -/
theorem eq_compose_of_ascii {s : List Char} (h : ∀ c ∈ compose s, c.toNat < 0x80) : compose s = s := by
  have hatoms : AreAtoms (compose s) := fun c hc => parts?_of_ascii (h c hc)
  have hperm := atoms_compose_perm s
  rw [hatoms.atoms_eq] at hperm
  apply compose_of_ascii
  intro c hc
  have hpart : ∀ d ∈ takeApart 4 c, d.toNat < 0x80 :=
    fun d hd => h d (hperm.mem_iff.mpr (List.mem_flatMap.mpr ⟨c, hc, hd⟩))
  have happart := takeApart_of_ascii hpart
  exact hpart c (happart ▸ List.mem_singleton_self c)

end BareMetal.Text
