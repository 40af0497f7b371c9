import BareMetal.Text.Composition
import Mathlib.Data.List.Chain

/-!
# Composites and their parts

`parts?_of_composite?`: what is joined can be taken apart again. Taking apart ends
after three steps (`shallow`), so that `takeApart` leaves only characters that
have no parts.
-/

namespace BareMetal.Text

/-! ## Sets of code points -/

/-- A set of code points, as the bits of a number. -/
def codeSet : List Nat → Nat
  | [] => 0
  | n :: codes => codeSet codes ||| 1 <<< n

theorem testBit_codeSet {codes : List Nat} {n : Nat} : (codeSet codes).testBit n = true ↔ n ∈ codes := by
  induction codes with
  | nil => simp [codeSet]
  | cons m codes ih =>
    rw [codeSet, Nat.testBit_or, Bool.or_eq_true, ih, Nat.one_shiftLeft, Nat.testBit_two_pow,
      decide_eq_true_eq, List.mem_cons, or_comm, eq_comm]

/-! ## The table -/

theorem composites_sorted : (composites.map Prod.fst).Pairwise (· < ·) := by
  rw [← List.isChain_iff_pairwise]
  decide +kernel

/-- The code of a character that is no syllable. -/
def IsPlainCode (n : Nat) : Prop := n < 0xac00 ∨ 0xe000 ≤ n ∧ n < 0x110000

instance : DecidablePred IsPlainCode := fun n =>
  inferInstanceAs (Decidable (n < 0xac00 ∨ 0xe000 ≤ n ∧ n < 0x110000))

/-- What all composites of the table have in common. None is ASCII or a part of a syllable, and none
is the second part of another. -/
structure IsTabled (c x y : Nat) : Prop where
  code : IsPlainCode c
  ascii : 0x80 ≤ c
  part : ¬ (0x1100 ≤ c ∧ c < 0x1200)
  first : IsPlainCode x
  point : x ≠ 0x2e
  second : IsPlainCode y
  second_ascii : 0x80 ≤ y
  second_part : y ∉ composites.map Prod.fst

theorem isTabled {c first second : Nat} (h : (c, first, second) ∈ composites) : IsTabled c first second := by
  have hall : ∀ e ∈ composites, IsPlainCode e.1 ∧ 0x80 ≤ e.1 ∧ ¬ (0x1100 ≤ e.1 ∧ e.1 < 0x1200) ∧
      IsPlainCode e.2.1 ∧ e.2.1 ≠ 0x2e ∧ IsPlainCode e.2.2 ∧ 0x80 ≤ e.2.2 ∧
      (codeSet (composites.map Prod.fst)).testBit e.2.2 = false := by
    decide +kernel
  obtain ⟨h₁, h₂, h₃, h₄, h₅, h₆, h₇, h₈⟩ := hall _ h
  refine ⟨h₁, h₂, h₃, h₄, h₅, h₆, h₇, ?_⟩
  rw [← testBit_codeSet, h₈]
  exact Bool.false_ne_true

theorem toNat_ofNat {n : Nat} (h : n < 0xd800 ∨ 0xe000 ≤ n ∧ n < 0x110000) : (Char.ofNat n).toNat = n := by
  have hvalid : n.isValidChar := h.imp id fun h => ⟨by omega, h.2⟩
  unfold Char.ofNat
  rw [dif_pos hvalid]
  rfl

theorem IsPlainCode.toNat {n : Nat} (h : IsPlainCode n) : (Char.ofNat n).toNat = n := by
  apply toNat_ofNat
  unfold IsPlainCode at h
  omega

def IsSyllable (c : Char) : Prop := 0xac00 ≤ c.toNat ∧ c.toNat < 0xd7a4

theorem IsPlainCode.not_isSyllable {n : Nat} (h : IsPlainCode n) : ¬ IsSyllable (Char.ofNat n) := by
  rintro ⟨hlo, hhi⟩
  rw [h.toNat] at hlo hhi
  unfold IsPlainCode at h
  omega

/-- The parts of `n` in a table of composites. -/
def partsIn (n : Nat) (table : List (Nat × Nat × Nat)) : Option (Char × Char) :=
  table.findSome? fun (d, first, second) => if d = n then some (Char.ofNat first, Char.ofNat second) else none

theorem partsIn_cons (n : Nat) (e : Nat × Nat × Nat) (table : List (Nat × Nat × Nat)) :
    partsIn n (e :: table) =
      if e.1 = n then some (Char.ofNat e.2.1, Char.ofNat e.2.2) else partsIn n table := by
  obtain ⟨d, first, second⟩ := e
  by_cases h : d = n <;> simp [partsIn, h]

section
variable {c a b : Char}

theorem parts?_of_isSyllable (h : IsSyllable c) : parts? c = if (c.toNat - 0xac00) % 28 = 0 then
    some (Char.ofNat (0x1100 + (c.toNat - 0xac00) / 588), Char.ofNat (0x1161 + (c.toNat - 0xac00) / 28 % 21))
    else some (Char.ofNat (c.toNat - (c.toNat - 0xac00) % 28), Char.ofNat (0x11a7 + (c.toNat - 0xac00) % 28)) :=
  if_pos h

theorem parts?_of_not_isSyllable (h : ¬ IsSyllable c) : parts? c = partsIn c.toNat composites := if_neg h

theorem partsIn_of_mem {n first second : Nat} {table : List (Nat × Nat × Nat)}
    (ht : (table.map Prod.fst).Pairwise (· < ·)) (h : (n, first, second) ∈ table) :
    partsIn n table = some (Char.ofNat first, Char.ofNat second) := by
  induction table with
  | nil => cases h
  | cons e table ih =>
    rw [List.map_cons, List.pairwise_cons] at ht
    rw [partsIn_cons]
    rcases List.mem_cons.mp h with rfl | h
    · rw [if_pos rfl]
    · have hlt : e.1 < n := ht.1 n (List.mem_map_of_mem h)
      rw [if_neg (Nat.ne_of_lt hlt)]
      exact ih ht.2 h

theorem mem_of_partsIn {n : Nat} {table : List (Nat × Nat × Nat)} (h : partsIn n table = some (a, b)) :
    ∃ first second, (n, first, second) ∈ table ∧ a = Char.ofNat first ∧ b = Char.ofNat second := by
  induction table with
  | nil => cases h
  | cons e table ih =>
    rw [partsIn_cons] at h
    split at h
    · rename_i hn
      cases h
      exact ⟨e.2.1, e.2.2, by simp [← hn], rfl, rfl⟩
    · obtain ⟨first, second, hm, h⟩ := ih h
      exact ⟨first, second, List.mem_cons_of_mem _ hm, h⟩

theorem parts?_of_mem {first second : Nat} (h : (c.toNat, first, second) ∈ composites) :
    parts? c = some (Char.ofNat first, Char.ofNat second) := by
  have hsyllable := (isTabled h).code.not_isSyllable
  rw [Char.ofNat_toNat] at hsyllable
  rw [parts?_of_not_isSyllable hsyllable]
  exact partsIn_of_mem composites_sorted h

theorem mem_of_composite? (hs : syllable? a b = none) (h : composite? a b = some c) :
    (c.toNat, a.toNat, b.toNat) ∈ composites := by
  rw [composite?, hs, Option.none_or] at h
  obtain ⟨⟨d, first, second⟩, hm, h⟩ := List.exists_of_findSome?_eq_some h
  dsimp only at h
  split at h
  · rename_i hd
    cases h
    rw [(isTabled hm).code.toNat, ← hd.1, ← hd.2]
    exact hm
  · cases h

theorem parts?_of_syllable? (h : syllable? a b = some c) : parts? c = some (a, b) := by
  unfold syllable? at h
  extract_lets x y at h
  split at h
  · rename_i hx
    have hc : c.toNat = 0xac00 + ((x - 0x1100) * 21 + (y - 0x1161)) * 28 := by
      rw [← Option.some.inj h]
      exact toNat_ofNat (by omega)
    rw [parts?_of_isSyllable (by unfold IsSyllable; omega), if_pos (by omega)]
    have hfirst : 0x1100 + (c.toNat - 0xac00) / 588 = a.toNat := by omega
    have hsecond : 0x1161 + (c.toNat - 0xac00) / 28 % 21 = b.toNat := by omega
    rw [hfirst, hsecond, Char.ofNat_toNat, Char.ofNat_toNat]
  · split at h
    · rename_i hx
      have hc : c.toNat = x + (y - 0x11a7) := by
        rw [← Option.some.inj h]
        exact toNat_ofNat (by omega)
      rw [parts?_of_isSyllable (by unfold IsSyllable; omega), if_neg (by omega)]
      have hfirst : c.toNat - (c.toNat - 0xac00) % 28 = a.toNat := by omega
      have hsecond : 0x11a7 + (c.toNat - 0xac00) % 28 = b.toNat := by omega
      rw [hfirst, hsecond, Char.ofNat_toNat, Char.ofNat_toNat]
    · cases h

/-- **Joined characters can be taken apart.** -/
theorem parts?_of_composite? (h : composite? a b = some c) : parts? c = some (a, b) := by
  cases hs : syllable? a b with
  | none => rw [parts?_of_mem (mem_of_composite? hs h), Char.ofNat_toNat, Char.ofNat_toNat]
  | some d =>
    rw [composite?, hs, Option.some_or, Option.some.injEq] at h
    subst h
    exact parts?_of_syllable? hs

/-! ## Taking apart -/

theorem parts?_eq_none (hs : ¬ IsSyllable c) (h : c.toNat ∉ composites.map Prod.fst) : parts? c = none := by
  rw [parts?_of_not_isSyllable hs]
  cases hp : partsIn c.toNat composites with
  | none => rfl
  | some p =>
    obtain ⟨first, second, hm, -⟩ := mem_of_partsIn hp
    exact absurd (List.mem_map_of_mem hm) h

/-- The parts of syllables are in a range of their own. -/
theorem parts?_of_jamo (h : 0x1100 ≤ c.toNat ∧ c.toNat < 0x1200) : parts? c = none := by
  apply parts?_eq_none
  · unfold IsSyllable
    omega
  · intro hm
    obtain ⟨e, he, hc⟩ := List.mem_map.mp hm
    have hpart := (isTabled he).part
    rw [hc] at hpart
    exact hpart h

/-- The second part of a character has no parts. -/
theorem parts?_second (h : parts? c = some (a, b)) : parts? b = none := by
  by_cases hs : IsSyllable c
  · apply parts?_of_jamo
    rw [parts?_of_isSyllable hs] at h
    split at h <;> rw [← (Prod.mk.inj (Option.some.inj h)).2, toNat_ofNat (by omega)] <;> omega
  · rw [parts?_of_not_isSyllable hs] at h
    obtain ⟨first, second, hm, -, rfl⟩ := mem_of_partsIn h
    have ht := isTabled hm
    apply parts?_eq_none ht.second.not_isSyllable
    rw [ht.second.toNat]
    exact ht.second_part

theorem ascii_second (h : parts? c = some (a, b)) : 0x80 ≤ b.toNat := by
  by_cases hs : IsSyllable c
  · rw [parts?_of_isSyllable hs] at h
    split at h <;> rw [← (Prod.mk.inj (Option.some.inj h)).2, toNat_ofNat (by omega)] <;> omega
  · rw [parts?_of_not_isSyllable hs] at h
    obtain ⟨first, second, hm, -, rfl⟩ := mem_of_partsIn h
    rw [(isTabled hm).second.toNat]
    exact (isTabled hm).second_ascii

theorem point_first (h : parts? c = some (a, b)) : a ≠ '.' := by
  have hcode : a.toNat ≠ 0x2e := by
    by_cases hs : IsSyllable c
    · have hlo := hs.1
      have hhi := hs.2
      rw [parts?_of_isSyllable hs] at h
      split at h <;> rw [← (Prod.mk.inj (Option.some.inj h)).1, toNat_ofNat (by omega)] <;> omega
    · rw [parts?_of_not_isSyllable hs] at h
      obtain ⟨first, second, hm, rfl, -⟩ := mem_of_partsIn h
      rw [(isTabled hm).first.toNat]
      exact (isTabled hm).point
  rintro rfl
  exact hcode rfl

theorem parts?_of_ascii (h : c.toNat < 0x80) : parts? c = none := by
  apply parts?_eq_none
  · unfold IsSyllable
    omega
  · intro hm
    obtain ⟨e, he, hc⟩ := List.mem_map.mp hm
    have hascii := (isTabled he).ascii
    omega

end

/-! ## How deep characters are -/

/-- After at most so many steps nothing is left to take apart. -/
def Shallow : Nat → Char → Prop
  | 0, c => parts? c = none
  | n + 1, c => ∀ a b, parts? c = some (a, b) → Shallow n a

/-- The composites of the table from which so many steps down lead to another one. -/
def deeper : Nat → List (Nat × Nat × Nat)
  | 0 => composites
  | n + 1 => composites.filter fun e => (codeSet ((deeper n).map Prod.fst)).testBit e.2.1

theorem deeper_three : deeper 3 = [] := by
  decide +kernel

section
variable {c a b : Char}

theorem Shallow.succ {n : Nat} (h : Shallow n c) : Shallow (n + 1) c := by
  induction n generalizing c with
  | zero =>
    intro a b hp
    rw [Shallow] at h
    rw [h] at hp
    cases hp
  | succ n ih => exact fun a b hp => ih (h a b hp)

theorem mem_deeper {n : Nat} (hs : ¬ IsSyllable c) (h : ¬ Shallow n c) :
    c.toNat ∈ (deeper n).map Prod.fst := by
  induction n generalizing c with
  | zero =>
    by_contra hm
    exact h (parts?_eq_none hs hm)
  | succ n ih =>
    unfold Shallow at h
    push Not at h
    obtain ⟨a, b, hp, ha⟩ := h
    rw [parts?_of_not_isSyllable hs] at hp
    obtain ⟨first, second, hm, rfl, -⟩ := mem_of_partsIn hp
    have hfirst := (isTabled hm).first
    have hdeep := ih hfirst.not_isSyllable ha
    rw [hfirst.toNat, ← testBit_codeSet] at hdeep
    exact List.mem_map_of_mem (List.mem_filter.mpr ⟨hm, hdeep⟩)

theorem shallow_two_of_isSyllable (hs : IsSyllable c) : Shallow 2 c := by
  have hlead : ∀ {c : Char}, IsSyllable c → (c.toNat - 0xac00) % 28 = 0 → Shallow 1 c := by
    intro c hs hc a b hp
    have hlo := hs.1
    have hhi := hs.2
    rw [parts?_of_isSyllable hs, if_pos hc] at hp
    apply parts?_of_jamo
    rw [← (Prod.mk.inj (Option.some.inj hp)).1, toNat_ofNat (by omega)]
    omega
  have hlo := hs.1
  have hhi := hs.2
  by_cases hc : (c.toNat - 0xac00) % 28 = 0
  · exact (hlead hs hc).succ
  · intro a b hp
    rw [parts?_of_isSyllable hs, if_neg hc] at hp
    have ha : a.toNat = c.toNat - (c.toNat - 0xac00) % 28 := by
      rw [← (Prod.mk.inj (Option.some.inj hp)).1, toNat_ofNat (by omega)]
    apply hlead
    · unfold IsSyllable
      omega
    · omega

theorem shallow (c : Char) : Shallow 3 c := by
  by_cases hs : IsSyllable c
  · exact (shallow_two_of_isSyllable hs).succ
  · by_contra h
    have hm := mem_deeper hs h
    rw [deeper_three] at hm
    cases hm

theorem takeApart_succ {n : Nat} (h : Shallow n c) : takeApart (n + 1) c = takeApart n c := by
  induction n generalizing c with
  | zero =>
    rw [Shallow] at h
    simp [takeApart, h]
  | succ n ih =>
    rw [takeApart, takeApart]
    cases hp : parts? c with
    | none => rfl
    | some p =>
      simp only
      rw [ih (h p.1 p.2 hp)]

theorem parts?_of_mem_takeApart {n : Nat} (h : Shallow n c) : ∀ d ∈ takeApart n c, parts? d = none := by
  induction n generalizing c with
  | zero =>
    intro d hd
    rw [takeApart, List.mem_singleton] at hd
    exact hd ▸ h
  | succ n ih =>
    intro d hd
    rw [takeApart] at hd
    cases hp : parts? c with
    | none =>
      simp only [hp, List.mem_singleton] at hd
      exact hd ▸ hp
    | some p =>
      simp only [hp, List.mem_append, List.mem_singleton] at hd
      rcases hd with hd | rfl
      · exact ih (h p.1 p.2 hp) d hd
      · exact parts?_second hp

end

/-! ## Atoms -/

/-- The characters of `s`, taken apart. -/
def atoms (s : List Char) : List Char := s.flatMap (takeApart 4)

def AreAtoms (s : List Char) : Prop := ∀ c ∈ s, parts? c = none

theorem areAtoms_nil : AreAtoms [] := nofun

theorem takeApart_of_parts? {c a b : Char} (h : parts? c = some (a, b)) : takeApart 4 c = takeApart 4 a ++ [b] := by
  have ha := takeApart_succ (shallow a)
  rw [ha, takeApart]
  simp only [h]

theorem areAtoms_atoms (s : List Char) : AreAtoms (atoms s) := by
  intro d hd
  obtain ⟨c, -, hd⟩ := List.mem_flatMap.mp hd
  exact parts?_of_mem_takeApart (shallow c).succ d hd

theorem takeApart_atom {c : Char} (h : parts? c = none) : takeApart 4 c = [c] := by
  rw [takeApart]
  simp only [h]

theorem AreAtoms.atoms_eq {s : List Char} (h : AreAtoms s) : atoms s = s := by
  induction s with
  | nil => rfl
  | cons c s ih =>
    rw [AreAtoms, List.forall_mem_cons] at h
    rw [atoms, List.flatMap_cons, takeApart_atom h.1]
    exact congrArg (c :: ·) (ih h.2)

theorem atoms_append (s t : List Char) : atoms (s ++ t) = atoms s ++ atoms t := List.flatMap_append

end BareMetal.Text
