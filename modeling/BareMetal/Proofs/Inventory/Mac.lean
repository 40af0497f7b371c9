import BareMetal.Inventory.Mac
import BareMetal.Proofs.Text.Ascii
import BareMetal.Proofs.Text.Pieces
import Mathlib.Data.List.Forall2

/-!
# When hardware addresses agree

Addresses are compared piece by piece, without regard to case, and so they agree
exactly if their characters do one by one: `lowered_eq_iff`. Main statement:
`agreesWith_spelling`.
-/

namespace BareMetal.MacAddress

/-- One character, or one ASCII letter in its two cases. -/
inductive SameUpToCase : Char → Char → Prop
  | same (c : Char) : SameUpToCase c c
  | lower {c d : Char} (letter : c.isUpper = true) (code : d.toNat = c.toNat + 32) : SameUpToCase c d
  | upper {c d : Char} (letter : d.isUpper = true) (code : c.toNat = d.toNat + 32) : SameUpToCase c d

/-- Either separator stands for the other, and a letter for the same one in the other case. -/
inductive SameChar : Char → Char → Prop
  | separators {c d : Char} (hc : c = ':' ∨ c = '-') (hd : d = ':' ∨ d = '-') : SameChar c d
  | letters {c d : Char} (h : SameUpToCase c d) : SameChar c d

/-- As many characters, and the same in each place. -/
structure SameSpelling (a b : String) : Prop where
  length : a.length = b.length
  chars : ∀ (i : Nat) (c d : Char), a.toList[i]? = some c → b.toList[i]? = some d → SameChar c d

/-! ## Characters -/

theorem sameUpToCase_iff {c d : Char} : SameUpToCase c d ↔ c.toLower = d.toLower := by
  rw [← Char.toNat_inj, Text.toNat_toLower, Text.toNat_toLower]
  constructor
  · intro h
    cases h with
    | same => rfl
    | lower letter code =>
      have hc := Text.isUpper_iff.mp letter
      have hd : ¬ d.isUpper = true := by
        rw [Text.isUpper_iff]
        omega
      rw [if_pos letter, if_neg hd, code]
    | upper letter code =>
      have hd := Text.isUpper_iff.mp letter
      have hc : ¬ c.isUpper = true := by
        rw [Text.isUpper_iff]
        omega
      rw [if_neg hc, if_pos letter, code]
  · intro h
    by_cases hc : c.isUpper = true
    · by_cases hd : d.isUpper = true
      · rw [if_pos hc, if_pos hd] at h
        have hcd : c = d := Char.toNat_inj.mp (by omega)
        subst hcd
        exact .same c
      · rw [if_pos hc, if_neg hd] at h
        exact .lower hc h.symm
    · by_cases hd : d.isUpper = true
      · rw [if_neg hc, if_pos hd] at h
        exact .upper hd h
      · rw [if_neg hc, if_neg hd] at h
        have hcd : c = d := Char.toNat_inj.mp h
        subst hcd
        exact .same c

theorem isSeparator_iff {c : Char} : isSeparator c = true ↔ c = ':' ∨ c = '-' := by
  rw [isSeparator, Bool.or_eq_true, beq_iff_eq, beq_iff_eq]

/-- A separator has no other case. -/
theorem isSeparator_iff_lower {c : Char} :
    isSeparator c = true ↔ c.toLower = ':' ∨ c.toLower = '-' := by
  have hlower (d : Char) (hd : d.toNat < 65) : c.toLower = d ↔ c = d := by
    rw [← Char.toNat_inj, ← Char.toNat_inj, Text.toNat_toLower]
    by_cases hc : c.isUpper = true
    · have hrange := Text.isUpper_iff.mp hc
      rw [if_pos hc]
      omega
    · rw [if_neg hc]
  rw [isSeparator_iff, hlower ':' (by decide), hlower '-' (by decide)]

namespace SameChar

variable {c d e : Char}

theorem refl (c : Char) : SameChar c c := .letters (.same c)

theorem separator_iff (h : SameChar c d) : isSeparator c = true ↔ isSeparator d = true := by
  cases h with
  | separators hc hd => exact iff_of_true (isSeparator_iff.mpr hc) (isSeparator_iff.mpr hd)
  | letters h => rw [isSeparator_iff_lower, isSeparator_iff_lower, sameUpToCase_iff.mp h]

theorem iff_lower (h : ¬ (isSeparator c = true ∧ isSeparator d = true)) :
    SameChar c d ↔ c.toLower = d.toLower := by
  rw [← sameUpToCase_iff]
  constructor
  · intro hs
    cases hs with
    | separators hc hd => exact absurd ⟨isSeparator_iff.mpr hc, isSeparator_iff.mpr hd⟩ h
    | letters hs => exact hs
  · exact .letters

theorem symm (h : SameChar c d) : SameChar d c := by
  cases h with
  | separators hc hd => exact .separators hd hc
  | letters h => exact .letters (sameUpToCase_iff.mpr (sameUpToCase_iff.mp h).symm)

theorem trans (h : SameChar c d) (h' : SameChar d e) : SameChar c e := by
  by_cases hd : isSeparator d = true
  · exact .separators (isSeparator_iff.mp (h.separator_iff.mpr hd))
      (isSeparator_iff.mp (h'.separator_iff.mp hd))
  · rw [iff_lower fun hs => hd hs.2] at h
    rw [iff_lower fun hs => hd hs.1] at h'
    exact .letters (sameUpToCase_iff.mpr (h.trans h'))

end SameChar

/-! ## Pieces -/

/-- The pieces between separators, without regard to case. -/
def lowered (s : List Char) : List (List Char) := (Text.pieces isSeparator s).map fun p => p.map Char.toLower

theorem lowered_ne_nil (s : List Char) : lowered s ≠ [] := by
  simpa [lowered] using Text.pieces_ne_nil isSeparator s

theorem lowered_separator {c : Char} (hc : isSeparator c = true) (s : List Char) :
    lowered (c :: s) = [] :: lowered s := by
  simp [lowered, Text.pieces, hc]

theorem lowered_letter {c : Char} (hc : ¬ isSeparator c = true) (s : List Char) :
    ∃ piece more, lowered s = piece :: more ∧ lowered (c :: s) = (c.toLower :: piece) :: more := by
  obtain ⟨piece, more, hs⟩ := List.exists_cons_of_ne_nil (Text.pieces_ne_nil isSeparator s)
  refine ⟨_, _, by rw [lowered, hs, List.map_cons], ?_⟩
  rw [lowered, Text.pieces_cons_of_not (by simpa using hc) hs]
  rfl

theorem lowered_cons_ne (c : Char) (s : List Char) : lowered (c :: s) ≠ [[]] := by
  by_cases hc : isSeparator c = true
  · rw [lowered_separator hc]
    simpa using lowered_ne_nil s
  · obtain ⟨piece, more, -, hcons⟩ := lowered_letter hc s
    rw [hcons]
    simp

/-- Pieces are the same exactly if the characters are, one by one: a separator opens a new piece and
a letter goes on with the first one. -/
theorem lowered_eq_iff : ∀ {s t : List Char}, lowered s = lowered t ↔ List.Forall₂ SameChar s t
  | [], [] => iff_of_true rfl .nil
  | [], d :: t => iff_of_false (lowered_cons_ne d t).symm nofun
  | c :: s, [] => iff_of_false (lowered_cons_ne c s) nofun
  | c :: s, d :: t => by
    rw [List.forall₂_cons, ← lowered_eq_iff]
    by_cases hc : isSeparator c = true
    · by_cases hd : isSeparator d = true
      · rw [lowered_separator hc, lowered_separator hd, List.cons.injEq]
        exact and_congr_left' (iff_of_true rfl
          (.separators (isSeparator_iff.mp hc) (isSeparator_iff.mp hd)))
      · obtain ⟨piece, more, -, hcons⟩ := lowered_letter hd t
        rw [lowered_separator hc, hcons]
        exact iff_of_false nofun fun h => hd (h.1.separator_iff.mp hc)
    · obtain ⟨piece, more, hs, hcons⟩ := lowered_letter hc s
      rw [hcons, hs, SameChar.iff_lower fun h => hc h.1]
      by_cases hd : isSeparator d = true
      · rw [lowered_separator hd]
        refine iff_of_false nofun fun h => hc ?_
        rw [isSeparator_iff_lower, h.1, ← isSeparator_iff_lower]
        exact hd
      · obtain ⟨piece', more', ht, hcons'⟩ := lowered_letter hd t
        rw [hcons', ht, List.cons.injEq, List.cons.injEq, List.cons.injEq, and_assoc]

/-! ## Addresses -/

theorem sameSpelling_iff {a b : String} : SameSpelling a b ↔ List.Forall₂ SameChar a.toList b.toList := by
  rw [List.forall₂_iff_get]
  constructor
  · intro h
    refine ⟨h.length, fun i ha hb => ?_⟩
    exact h.chars i _ _ (List.getElem?_eq_getElem ha) (List.getElem?_eq_getElem hb)
  · intro ⟨hlen, hchars⟩
    refine ⟨hlen, fun i c d hc hd => ?_⟩
    obtain ⟨ha, rfl⟩ := List.getElem?_eq_some_iff.mp hc
    obtain ⟨hb, rfl⟩ := List.getElem?_eq_some_iff.mp hd
    exact hchars i ha hb

namespace SameSpelling

variable {a b c : String}

theorem refl (a : String) : SameSpelling a a := by
  rw [sameSpelling_iff, List.forall₂_same]
  exact fun d _ => SameChar.refl d

theorem symm (h : SameSpelling a b) : SameSpelling b a := by
  rw [sameSpelling_iff] at h ⊢
  exact (h.imp fun _ _ => SameChar.symm).flip

theorem trans (h : SameSpelling a b) (h' : SameSpelling b c) : SameSpelling a c :=
  ⟨h.length.trans h'.length, fun i d f hd hf => by
    have hlt : i < b.toList.length :=
      (List.getElem?_eq_some_iff.mp hd).1.trans_eq h.length
    have hb := List.getElem?_eq_getElem hlt
    exact (h.chars i _ _ hd hb).trans (h'.chars i _ _ hb hf)⟩

theorem countP_isSeparator (h : SameSpelling a b) :
    a.toList.countP isSeparator = b.toList.countP isSeparator := by
  rw [sameSpelling_iff] at h
  generalize a.toList = s at h
  generalize b.toList = t at h
  induction h with
  | nil => rfl
  | cons hc _ ih => rw [List.countP_cons, List.countP_cons, ih, Bool.eq_iff_iff.mpr hc.separator_iff]

end SameSpelling

/-- How many separators there are. -/
def separators (s : String) : Nat := s.toList.count ':' + s.toList.count '-'

theorem countP_isSeparator_eq (s : String) : s.toList.countP isSeparator = separators s := by
  unfold separators
  induction s.toList with
  | nil => rfl
  | cons c rest ih =>
    rw [List.countP_cons, List.count_cons, List.count_cons, ih]
    by_cases hcolon : c = ':'
    · subst hcolon
      simp [isSeparator, Nat.add_right_comm]
    · by_cases hdash : c = '-'
      · subst hdash
        simp [isSeparator, Nat.add_assoc]
      · simp [isSeparator, hcolon, hdash]

theorem agreesWith_iff {a b : String} : agreesWith ⟨a⟩ b = true ↔ SameSpelling a b := by
  have hoctets (s : String) : octets s = lowered s.toList := rfl
  rw [agreesWith, beq_iff_eq, hoctets, hoctets, lowered_eq_iff, sameSpelling_iff]

/-- Two addresses agree exactly if they have as many characters, and in each place two separators or
one letter in whatever case. So agreeing is an equivalence that holds of equal texts, is not changed
by respelling either side, and never holds where the separators are not equally many. -/
theorem agreesWith_spelling :
    (∀ a b, agreesWith ⟨a⟩ b = true ↔ SameSpelling a b) ∧
    Equivalence (fun a b : String => agreesWith ⟨a⟩ b = true) ∧
    (∀ a b, a = b → agreesWith ⟨a⟩ b = true) ∧
    (∀ a a' b b', SameSpelling a a' → SameSpelling b b' → agreesWith ⟨a⟩ b = agreesWith ⟨a'⟩ b') ∧
    ∀ a b, separators a ≠ separators b → agreesWith ⟨a⟩ b = false := by
  have hrefl (a : String) : agreesWith ⟨a⟩ a = true := agreesWith_iff.mpr (.refl a)
  refine ⟨fun a b => agreesWith_iff, ⟨hrefl, fun {a b} h => ?symm, fun {a b c} h h' => ?trans⟩,
    fun a b heq => heq ▸ hrefl a, fun a a' b b' ha hb => ?respelled, fun a b hcount => ?counts⟩
  case symm =>
    rw [agreesWith_iff] at h ⊢
    exact h.symm
  case trans =>
    rw [agreesWith_iff] at h h' ⊢
    exact h.trans h'
  case respelled =>
    rw [Bool.eq_iff_iff, agreesWith_iff, agreesWith_iff]
    constructor
    · intro h
      exact (ha.symm.trans h).trans hb
    · intro h
      exact (ha.trans h).trans hb.symm
  case counts =>
    rw [← Bool.not_eq_true, agreesWith_iff]
    intro h
    rw [← countP_isSeparator_eq, ← countP_isSeparator_eq] at hcount
    exact hcount h.countP_isSeparator

end BareMetal.MacAddress
