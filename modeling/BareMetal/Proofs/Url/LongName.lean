import BareMetal.Proofs.Url.Rereading

/-!
# Names that cannot be read again

A valid label of up to 1000 characters can have a code of more than 2000:
`asciiName?_longLabel`. No name with such a code is valid (`parseHost_unreadable`).
-/

namespace BareMetal.Url

open Name

/-! ## Codes that are too long -/

theorem asciiName?_unreadable {name : List Char} (hascii : ∀ c ∈ name, c.toNat < 0x80)
    (hlower : ∀ c ∈ name, c.toLower = c) {code : List Char} (hcode : 'x' :: 'n' :: '-' :: '-' :: code ∈ dots name)
    (hlong : codeLimit < code.length) : asciiName? name = none := by
  have hmap : name.flatMap mapChar = name :=
    flatMap_eq_self fun c hc => by rw [mapChar_of_ascii (hascii c hc), hlower c hc]
  have hnone : (dots name).mapM readLabel? = none := by
    cases h : (dots name).mapM readLabel? with
    | none => rfl
    | some labels =>
      rw [mapM_eq_some] at h
      obtain ⟨i, hi, hget⟩ := List.getElem_of_mem hcode
      have hread := h.get hi (h.length_eq ▸ hi)
      rw [List.get_eq_getElem, hget] at hread
      have hlimit := (decodeLabel?_eq_some.mp hread).1
      omega
  rw [asciiName?, labels?, hmap, Text.compose_of_ascii hascii, hnone]
  rfl

/-! ## Ideographs -/

/-- A character of the block of common ideographs. -/
def IsIdeograph (c : Char) : Prop := 0x4e00 ≤ c.toNat ∧ c.toNat ≤ 0x9fff

instance : DecidablePred IsIdeograph := fun c =>
  inferInstanceAs (Decidable (0x4e00 ≤ c.toNat ∧ c.toNat ≤ 0x9fff))

/-- No row of a table is about a code from `lo` to `hi`. -/
structure Untabled (lo hi : Nat) : Prop where
  ignored : IsApart ignoredRanges lo hi
  right : IsApart rightRanges lo hi
  arabicNumber : IsApart arabicNumberRanges lo hi
  shifted : ∀ row ∈ shiftedRows.toList, hi < row.1 ∨ row.2.1 < lo
  mapped : ∀ row ∈ Name.mapped, hi < row.1 ∨ row.1 + row.2.length ≤ lo
  combining : ∀ row ∈ Text.combiningClasses.toList, hi < row.1 ∨ row.2.1 < lo
  composite : ∀ e ∈ Text.composites, (hi < e.1 ∨ e.1 < lo) ∧ (hi < e.2.2 ∨ e.2.2 < lo)

theorem ideographs_untabled : Untabled 0x4e00 0x9fff where
  ignored := by decide
  right := by decide
  arabicNumber := by decide
  shifted := by decide +kernel
  mapped := by decide +kernel
  combining := by decide +kernel
  composite := by decide +kernel

theorem mark_apart_ascii : IsApart markRanges 0 0x7f := by decide +kernel

theorem meaningful_rows : (0x0, 0x7f) ∈ meaningfulRanges.toList ∧ (0x3400, 0xa48c) ∈ meaningfulRanges.toList := by
  decide

theorem inRanges_of_mem {ranges : Array (Nat × Nat)} {row : Nat × Nat} (h : row ∈ ranges.toList) {c : Char}
    (hc : row.1 ≤ c.toNat ∧ c.toNat ≤ row.2) : Text.inRanges ranges c = true := by
  rw [Text.inRanges, Array.any_eq_true']
  exact ⟨row, Array.mem_toList_iff.mp h, by simp [hc]⟩

theorem isAdmitted_of_ascii {c : Char} (hc : c.toNat < 0x80) (hlower : c.toLower = c) : isAdmitted c = true := by
  rw [isAdmitted, inRanges_of_mem meaningful_rows.1 ⟨Nat.zero_le _, Nat.le_of_lt_succ hc⟩, mapChar_of_ascii hc, hlower]
  simp

section
variable {c : Char} (h : IsIdeograph c)
include h

theorem IsIdeograph.mapChar : Name.mapChar c = [c] := by
  have hcode := h.1
  have hshifted : shifted? c = none := by
    rw [shifted?, Array.findSome?_eq_none_iff]
    intro row hrow
    obtain ⟨lo, hi, step, target⟩ := row
    have hrow := ideographs_untabled.shifted _ (Array.mem_toList_iff.mpr hrow)
    have hhi := h.2
    dsimp only at hrow
    exact if_neg (by omega)
  unfold Name.mapChar
  rw [if_neg (by omega), ideographs_untabled.ignored.inRanges h, hshifted, (List.findSome?_eq_none_iff (l := mapped)).mpr]
  · rfl
  · intro row hrow
    have hrow := ideographs_untabled.mapped row hrow
    have hhi := h.2
    dsimp only
    split
    · exact List.getElem?_eq_none (by omega)
    · rfl

theorem IsIdeograph.isAdmitted : Name.isAdmitted c = true := by
  have hlo := h.1
  have hhi := h.2
  rw [Name.isAdmitted, inRanges_of_mem meaningful_rows.2 (by dsimp only; omega), h.mapChar]
  simp

theorem IsIdeograph.second {d a : Char} : Text.parts? d ≠ some (a, c) := by
  intro hparts
  have hlo := h.1
  have hhi := h.2
  by_cases hs : Text.IsSyllable d
  · rw [Text.parts?_of_isSyllable hs] at hparts
    have hsecond : c.toNat < 0x4e00 := by
      split at hparts <;>
        rw [← (Prod.mk.inj (Option.some.inj hparts)).2, Text.toNat_ofNat (by omega)] <;> omega
    omega
  · rw [Text.parts?_of_not_isSyllable hs] at hparts
    obtain ⟨first, second, hm, -, rfl⟩ := Text.mem_of_partsIn hparts
    have hrow := (ideographs_untabled.composite _ hm).2
    rw [(Text.isTabled hm).second.toNat] at hlo hhi
    dsimp only at hrow
    omega

theorem IsIdeograph.isInert : Text.IsInert c := by
  have hlo := h.1
  have hhi := h.2
  refine ⟨?_, ?_, fun d a => h.second⟩
  · unfold Text.combiningClass
    split
    · rename_i lo hi k hfind
      have hrow := ideographs_untabled.combining _ (Array.mem_toList_iff.mpr (Array.mem_of_find?_eq_some hfind))
      have hfound := Array.find?_some hfind
      simp only [Bool.and_eq_true, decide_eq_true_eq] at hfound hrow
      omega
    · rfl
  · apply Text.parts?_eq_none
    · unfold Text.IsSyllable
      omega
    · intro hm
      obtain ⟨e, he, hc⟩ := List.mem_map.mp hm
      have hrow := (ideographs_untabled.composite e he).1
      omega

end

/-! ## A label of ideographs behind letters -/

theorem endsInNumber_of_x {s : List Char} (h : '.' ∉ s) : endsInNumber ('x' :: s) = false := by
  have hdots : dots ('x' :: s) = ['x' :: s] := by
    refine Text.pieces_of_free fun c hc => beq_eq_false_iff_ne.mpr ?_
    rintro rfl
    exact h (by simpa using hc)
  simp [endsInNumber, nameParts, hdots, ipv4Number?]

/-- Letters that keep a label from being a code, and ideographs. -/
structure IsIdeographic (label : List Char) : Prop where
  chars : ∀ c ∈ label, c = 'a' ∨ IsIdeograph c
  head : label.head? = some 'a'
  size : label.length ≤ labelLimit
  ideograph : ∃ c ∈ label, IsIdeograph c

section
variable {label : List Char} (h : IsIdeographic label)
include h

theorem IsIdeographic.not_ascii : isAscii label = false := by
  obtain ⟨c, hc, hlo, -⟩ := h.ideograph
  rw [isAscii, List.all_eq_false]
  exact ⟨c, hc, by simp; omega⟩

theorem IsIdeographic.ne {c d : Char} (hc : c ∈ label) (hd : d ≠ 'a' ∧ ¬ IsIdeograph d) : c ≠ d := by
  rintro rfl
  exact (h.chars c hc).elim hd.1 hd.2

theorem IsIdeographic.isLabel : Name.isLabel label = true := by
  have hadmitted : label.all Name.isAdmitted = true := by
    rw [List.all_eq_true]
    intro c hc
    rcases h.chars c hc with rfl | hi
    · exact isAdmitted_of_ascii (by decide) (by decide)
    · exact hi.isAdmitted
  have hmark : isMark 'a' = false := mark_apart_ascii.inRanges (by decide)
  have hjoiners : ∀ (s before : List Char), (∀ c ∈ s, c ≠ '\u200c' ∧ c ≠ '\u200d') → joinersFit before s = true := by
    intro s
    induction s with
    | nil => exact fun _ _ => rfl
    | cons c s ih =>
      intro before hs
      rw [List.forall_mem_cons] at hs
      rw [joinersFit, ih _ hs.2]
      simp [hs.1]
  have hfit := hjoiners label [] fun c hc => ⟨h.ne hc (by decide), h.ne hc (by decide)⟩
  -- Said of the head apart from the rest, or the whole table of marks is gone through once more.
  have hhead : label.head?.any isMark = false := by rw [h.head, Option.any_some, hmark]
  have hsize := h.size
  simp [Name.isLabel, hadmitted, hhead, hfit, hsize]

theorem IsIdeographic.labels? : Name.labels? label = some [label] := by
  have hmap : label.flatMap mapChar = label := by
    refine flatMap_eq_self fun c hc => ?_
    rcases h.chars c hc with rfl | hi
    · rfl
    · exact hi.mapChar
  have hcompose : Text.compose label = label := by
    refine Text.compose_of_inert fun c hc => ?_
    rcases h.chars c hc with rfl | hi
    · exact Text.isInert_of_ascii (by decide)
    · exact hi.isInert
  have hdots : dots label = [label] :=
    Text.pieces_of_free fun c hc => beq_eq_false_iff_ne.mpr (h.ne hc (by decide))
  have hread : readLabel? label = some label := by
    have hhead := h.head
    unfold readLabel?
    split
    · cases hhead
    · exact if_pos (.inr h.isLabel)
  have hright : goesRight label = false := by
    rw [goesRight, List.any_eq_false]
    intro c hc
    rcases h.chars c hc with rfl | hi
    · exact direction_of_apart (right_apart_ascii.inRanges (by decide)) (arabicNumber_apart_ascii.inRanges (by decide))
    · exact direction_of_apart (ideographs_untabled.right.inRanges hi)
        (ideographs_untabled.arabicNumber.inRanges hi)
  rw [Name.labels?, hmap, hcompose, hdots]
  simp [hread, hright]

/-- What is written for the label. -/
theorem IsIdeographic.asciiName? : Url.asciiName? label = some ('x' :: 'n' :: '-' :: '-' :: Punycode.encode label) := by
  refine asciiName?_eq_some.mpr ⟨[label], h.labels?, ?_, ?_⟩
  · simp [writeLabel, h.not_ascii]
  · have hcode : ∀ c ∈ Punycode.encode label, isForbidden c = false := by
      intro c hc
      rcases Punycode.of_mem_encode (size_of_isLabel h.isLabel) hc with hd | rfl | hm
      · exact hd.of_all (p := fun c => isForbidden c = false) (by decide)
      · decide
      · obtain ⟨hm, hascii⟩ := List.mem_filter.mp hm
        rw [decide_eq_true_eq] at hascii
        rcases h.chars c hm with rfl | ⟨hlo, -⟩
        · decide
        · omega
    have hmarker : ∀ c ∈ ['x', 'n', '-', '-'], isForbidden c = false := by decide
    rw [List.any_eq_false]
    intro c hc
    have hall := List.forall_mem_append.mpr ⟨hmarker, hcode⟩ c hc
    simp [hall]

theorem IsIdeographic.parseHost : Url.parseHost label =
    .ok (.domain (String.ofList ('x' :: 'n' :: '-' :: '-' :: Punycode.encode label))) := by
  have hwritten := isWritten_encode h.isLabel fun hm => h.ne hm (by decide) rfl
  have hnumber : endsInNumber ('x' :: 'n' :: '-' :: '-' :: Punycode.encode label) = false :=
    endsInNumber_of_x (by simp [hwritten.point])
  rw [parseHost_of_name (fun hm => h.ne hm (by decide) rfl) (fun hm => h.ne hm (by decide) rfl) h.asciiName?
    (List.cons_ne_nil _ _), hnumber]
  rfl

theorem IsIdeographic.isHostText : IsHostText label := by
  have hhead := h.head
  refine isHostText_of_name ?_ ?_
  · rintro rfl
    cases hhead
  · rw [List.any_eq_false]
    intro c hc
    rcases h.chars c hc with rfl | hi
    · decide
    · have hne : ∀ d : Char, d.toNat < 0x4e00 → c ≠ d := by
        rintro d hd rfl
        exact absurd hi.1 (by omega)
      have hlo := hi.1
      simp [isForbidden, hne]
      omega

/-- A code that is too long cannot be read. -/
theorem IsIdeographic.parseHost_written (hlong : codeLimit < (Punycode.encode label).length) :
    Url.parseHost ('x' :: 'n' :: '-' :: '-' :: Punycode.encode label) = .error .invalidDomain := by
  have hread : IsRead label := by
    obtain ⟨-, hread, -⟩ := labels?_eq_some h.labels?
    exact hread label (List.mem_singleton_self label)
  have hwritten := isWritten_writeLabel hread
  have htext : writeLabel label = 'x' :: 'n' :: '-' :: '-' :: Punycode.encode label := if_neg (by simp [h.not_ascii])
  obtain ⟨-, -, -, hallowed⟩ := asciiName?_eq_some.mp h.asciiName?
  rw [htext] at hwritten
  refine parseHost_of_invalid (not_mem_of_allowed hallowed (by decide)) (not_mem_of_allowed hallowed (by decide)) ?_
  refine asciiName?_unreadable hwritten.ascii hwritten.lower ?_ hlong
  have hdots : dots ('x' :: 'n' :: '-' :: '-' :: Punycode.encode label) = [_] :=
    Text.pieces_of_free fun c hc => beq_eq_false_iff_ne.mpr fun heq => hwritten.point (heq ▸ hc)
  rw [hdots]
  exact List.mem_singleton_self _

end

/-! ## A name that is too long -/

/-- Codes at a distance from each other. -/
def spacedCodes : (count n : Nat) → List Nat
  | 0, _ => []
  | count + 1, n => n :: spacedCodes count (n + 27)

theorem length_spacedCodes (count n : Nat) : (spacedCodes count n).length = count := by
  induction count generalizing n with
  | zero => rfl
  | succ count ih => rw [spacedCodes, List.length_cons, ih]

theorem of_mem_spacedCodes {count n m : Nat} (h : m ∈ spacedCodes count n) : n ≤ m ∧ m < n + 27 * count := by
  induction count generalizing n with
  | zero => cases h
  | succ count ih =>
    rcases List.mem_cons.mp h with rfl | h
    · omega
    · have hrest := ih h
      omega

theorem isSpaced_spacedCodes {count n m : Nat} (h : m + 26 ≤ n) : Punycode.IsSpaced m (spacedCodes count n) := by
  induction count generalizing n m with
  | zero => trivial
  | succ count ih => exact ⟨h, ih (by omega)⟩

/-- A label whose code is longer than a reader of names takes. -/
def longLabel : List Char := List.replicate 36 'a' ++ (spacedCodes 667 0x4e00).map Char.ofNat

theorem ideograph_of_spacedCodes {n : Nat} (h : n ∈ spacedCodes 667 0x4e00) :
    (Char.ofNat n).toNat = n ∧ IsIdeograph (Char.ofNat n) := by
  have hn := of_mem_spacedCodes h
  have hcode : (Char.ofNat n).toNat = n := Text.toNat_ofNat (by omega)
  refine ⟨hcode, ?_⟩
  unfold IsIdeograph
  omega

theorem isIdeographic_longLabel : IsIdeographic longLabel where
  chars := by
    rw [longLabel, List.forall_mem_append, List.forall_mem_map]
    exact ⟨fun c hc => .inl (List.eq_of_mem_replicate hc), fun n hn => .inr (ideograph_of_spacedCodes hn).2⟩
  head := rfl
  size := by
    rw [longLabel, List.length_append, List.length_map, length_spacedCodes]
    decide
  ideograph := by
    have hfirst : 0x4e00 ∈ spacedCodes 667 0x4e00 := List.mem_cons_self
    exact ⟨_, List.mem_append_right _ (List.mem_map_of_mem hfirst), (ideograph_of_spacedCodes hfirst).2⟩

theorem long_encode : codeLimit < (Punycode.encode longLabel).length := by
  have hcodes : ((spacedCodes 667 0x4e00).map Char.ofNat).map (·.toNat) = spacedCodes 667 0x4e00 := by
    rw [List.map_map]
    refine (List.map_congr_left ?_).trans (List.map_id _)
    exact fun n hn => (ideograph_of_spacedCodes hn).1
  have hspaced : Punycode.IsSpaced 128 (spacedCodes 667 0x4e00) := isSpaced_spacedCodes (by decide)
  rw [← hcodes] at hspaced
  have hfront : ∀ c ∈ List.replicate 36 'a', c.toNat < 128 := by decide
  have hlength := Punycode.le_length_encode hfront (by decide) hspaced
  rw [List.length_map, length_spacedCodes] at hlength
  exact Nat.lt_of_lt_of_le (by decide) hlength

end BareMetal.Url
