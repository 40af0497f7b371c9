import BareMetal.Proofs.Text.Ascii
import BareMetal.Proofs.Text.Composition
import BareMetal.Proofs.Url.Escaping
import BareMetal.Proofs.Url.Punycode
import BareMetal.Url.Name

/-!
# Names written with ASCII are read as they are

`asciiName?_asciiName?`. A label beyond ASCII is written as a code, and codes are
only read up to a limit, so that names with longer ones cannot be read again.
-/

namespace BareMetal.Url.Name

/-! ## What characters stand for -/

section
variable {c d : Char}

theorem toLower_eq (h : ¬ (0x41 ≤ c.toNat ∧ c.toNat ≤ 0x5a)) : c.toLower = c := dif_neg h

theorem toLower_ofNat {n : Nat} (h : ¬ (0x41 ≤ n ∧ n ≤ 0x5a)) : (Char.ofNat n).toLower = Char.ofNat n := by
  by_cases hn : n.isValidChar
  · have hcode : (Char.ofNat n).toNat = n := Text.toNat_ofNat (hn.imp id fun h => ⟨by omega, h.2⟩)
    apply toLower_eq
    rwa [hcode]
  · unfold Char.ofNat
    rw [dif_neg hn]
    decide

theorem mapped_lower : ∀ row ∈ mapped, ∀ text ∈ row.2, ∀ n ∈ text, ¬ (0x41 ≤ n ∧ n ≤ 0x5a) := by
  decide +kernel

theorem shiftedRows_lower : ∀ row ∈ shiftedRows.toList,
    row.2.2.2 + (row.2.1 - row.1) < 0x41 ∨ 0x5a < row.2.2.2 := by
  decide +kernel

theorem mapChar_of_ascii (h : c.toNat < 0x80) : mapChar c = [c.toLower] := if_pos h

/-- No character stands for a capital. -/
theorem toLower_of_mem_mapChar (h : d ∈ mapChar c) : d.toLower = d := by
  unfold mapChar at h
  split at h
  · rename_i hc
    rw [List.mem_singleton] at h
    rw [h]
    exact Text.of_ascii (p := fun c => c.toLower.toLower = c.toLower) (by decide) hc
  · rename_i hc
    split at h
    · cases h
    · split at h
      · rename_i e he
        rw [List.mem_singleton] at h
        obtain ⟨⟨lo, hi, step, target⟩, hrow, he⟩ := Array.exists_of_findSome?_eq_some he
        have hlower := shiftedRows_lower _ (Array.mem_toList_iff.mpr hrow)
        dsimp only at he hlower
        split at he
        · rw [h, ← Option.some.inj he]
          exact toLower_ofNat (by omega)
        · cases he
      · split at h
        · rename_i text htext
          obtain ⟨⟨first, texts⟩, hrow, htext⟩ := List.exists_of_findSome?_eq_some htext
          dsimp only at htext
          split at htext
          · obtain ⟨n, hn, rfl⟩ := List.mem_map.mp h
            exact toLower_ofNat (mapped_lower _ hrow _ (List.mem_of_getElem? htext) n hn)
          · cases htext
        · rw [List.mem_singleton] at h
          rw [h]
          exact toLower_eq (by omega)

theorem toLower_of_isAdmitted (h : isAdmitted c = true) : c.toLower = c := by
  rw [isAdmitted, Bool.and_eq_true, beq_iff_eq] at h
  exact toLower_of_mem_mapChar (h.2 ▸ List.mem_singleton_self c)

/-- Ranges none of which has a code from `lo` to `hi`. -/
def IsApart (ranges : Array (Nat × Nat)) (lo hi : Nat) : Prop := ∀ row ∈ ranges.toList, hi < row.1 ∨ row.2 < lo

instance (ranges : Array (Nat × Nat)) (lo hi : Nat) : Decidable (IsApart ranges lo hi) :=
  inferInstanceAs (Decidable (∀ row ∈ ranges.toList, hi < row.1 ∨ row.2 < lo))

theorem IsApart.inRanges {ranges : Array (Nat × Nat)} {lo hi : Nat} (h : IsApart ranges lo hi)
    (hc : lo ≤ c.toNat ∧ c.toNat ≤ hi) : Text.inRanges ranges c = false := by
  rw [Text.inRanges, Array.any_eq_false']
  intro row hrow
  have hrow := h row (Array.mem_toList_iff.mpr hrow)
  simp only [Bool.and_eq_true, decide_eq_true_eq]
  omega

theorem right_apart_ascii : IsApart rightRanges 0 0x7f := by decide

theorem arabicNumber_apart_ascii : IsApart arabicNumberRanges 0 0x7f := by decide

/-- A character of no range from right to left keeps its label from going that way. -/
theorem direction_of_apart (hright : Text.inRanges rightRanges c = false)
    (harabic : Text.inRanges arabicNumberRanges c = false) :
    ¬ (direction c == .right || direction c == .arabicNumber) = true := by
  unfold direction
  simp only [hright, harabic, Bool.false_eq_true, if_false]
  split_ifs <;> decide

end

theorem isAscii_iff {s : List Char} : isAscii s = true ↔ ∀ c ∈ s, c.toNat < 0x80 := by
  simp [isAscii]

theorem not_goesRight_of_ascii {s : List Char} (h : isAscii s = true) : goesRight s = false := by
  rw [isAscii_iff] at h
  rw [goesRight, List.any_eq_false]
  intro c hc
  have hcode := h c hc
  exact direction_of_apart (right_apart_ascii.inRanges (by omega)) (arabicNumber_apart_ascii.inRanges (by omega))

/-! ## Labels -/

/-- The labels that a name can have: ASCII ones that need no code, and valid ones beyond ASCII. -/
inductive IsRead (label : List Char) : Prop where
  | ascii (ascii : isAscii label = true) (lower : ∀ c ∈ label, c.toLower = c) (point : '.' ∉ label)
      (plain : ∀ code, label ≠ 'x' :: 'n' :: '-' :: '-' :: code)
  | beyond (ascii : isAscii label = false) (composed : Text.compose label = label)
      (valid : isLabel label = true) (point : '.' ∉ label)

theorem size_of_isLabel {label : List Char} (h : isLabel label = true) : label.length < Punycode.sizeLimit := by
  have hlimit : label.length ≤ labelLimit := by
    simp only [isLabel, Bool.and_eq_true, decide_eq_true_eq] at h
    exact h.2
  exact Nat.lt_of_le_of_lt hlimit (by decide)

theorem admitted_of_isLabel {label : List Char} (h : isLabel label = true) : ∀ c ∈ label, isAdmitted c = true := by
  simp only [isLabel, Bool.and_eq_true, List.all_eq_true] at h
  exact h.1.1.1

theorem decodeLabel?_eq_some {code label : List Char} : decodeLabel? code = some label ↔
    code.length ≤ codeLimit ∧ Punycode.decode? code = some label ∧ isAscii label = false ∧
      Text.compose label = label ∧ isLabel label = true ∧ Punycode.encode label = code := by
  unfold decodeLabel?
  by_cases hlimit : codeLimit < code.length
  · simp [hlimit, Nat.not_le_of_lt hlimit]
  · rw [if_neg hlimit, Option.bind_eq_bind, Option.bind_eq_some_iff]
    constructor
    · rintro ⟨l, hdecode, h⟩
      dsimp only at h
      split at h
      · cases h
        rename_i hl
        exact ⟨Nat.le_of_not_lt hlimit, hdecode, by simpa using hl.1, hl.2⟩
      · cases h
    · rintro ⟨-, hdecode, hascii, hl⟩
      exact ⟨label, hdecode, if_pos ⟨by simp [hascii], hl⟩⟩

theorem isRead_of_readLabel? {piece label : List Char} (hcomposed : Text.compose piece = piece)
    (hlower : isAscii piece = true → ∀ c ∈ piece, c.toLower = c) (hpoint : '.' ∉ piece)
    (h : readLabel? piece = some label) : IsRead label := by
  unfold readLabel? at h
  split at h
  · rename_i code
    obtain ⟨-, -, hascii, hlabel, hvalid, hcode⟩ := decodeLabel?_eq_some.mp h
    refine .beyond hascii hlabel hvalid fun hm => hpoint ?_
    have hm : '.' ∈ code := by
      rw [← hcode]
      exact Punycode.below_subset_encode (size_of_isLabel hvalid) (List.mem_filter.mpr ⟨hm, by decide⟩)
    simp [hm]
  · rename_i hplain
    split at h
    · rename_i hlabel
      cases h
      by_cases hascii : isAscii piece = true
      · exact .ascii hascii (hlower hascii) hpoint hplain
      · exact .beyond (by simpa using hascii) hcomposed (hlabel.resolve_left hascii) hpoint
    · cases h

/-- A text that is read as it is: ASCII without capitals, and a part of one label. -/
structure IsWritten (s : List Char) : Prop where
  ascii : ∀ c ∈ s, c.toNat < 0x80
  lower : ∀ c ∈ s, c.toLower = c
  point : '.' ∉ s

theorem isWritten_encode {label : List Char} (hvalid : isLabel label = true) (hpoint : '.' ∉ label) :
    IsWritten (Punycode.encode label) := by
  have hsize := size_of_isLabel hvalid
  have hall : ∀ c ∈ Punycode.encode label, c.toNat < 0x80 ∧ c.toLower = c ∧ c ≠ '.' := by
    intro c hc
    rcases Punycode.of_mem_encode hsize hc with hd | rfl | hm
    · exact hd.of_all (p := fun c => c.toNat < 0x80 ∧ c.toLower = c ∧ c ≠ '.') (by decide)
    · decide
    · obtain ⟨hm, hascii⟩ := List.mem_filter.mp hm
      refine ⟨by simpa using hascii, toLower_of_isAdmitted (admitted_of_isLabel hvalid c hm), ?_⟩
      rintro rfl
      exact hpoint hm
  exact ⟨fun c hc => (hall c hc).1, fun c hc => (hall c hc).2.1, fun hm => (hall _ hm).2.2 rfl⟩

theorem isWritten_writeLabel {label : List Char} (h : IsRead label) : IsWritten (writeLabel label) := by
  cases h with
  | ascii hascii hlower hpoint =>
    rw [writeLabel, if_pos hascii]
    exact ⟨isAscii_iff.mp hascii, hlower, hpoint⟩
  | beyond hascii hcomposed hvalid hpoint =>
    have hcode := isWritten_encode hvalid hpoint
    rw [writeLabel, if_neg (by simp [hascii])]
    refine ⟨?_, ?_, ?_⟩
    · exact List.forall_mem_append.mpr ⟨by decide, hcode.ascii⟩
    · exact List.forall_mem_append.mpr ⟨by decide, hcode.lower⟩
    · simp [hcode.point]

/-- Codes that a reader of names takes. -/
def IsReadable (label : List Char) : Prop :=
  ∀ code, label = 'x' :: 'n' :: '-' :: '-' :: code → code.length ≤ codeLimit

theorem readLabel?_writeLabel {label : List Char} (h : IsRead label) (hcode : IsReadable (writeLabel label)) :
    readLabel? (writeLabel label) = some label := by
  cases h with
  | ascii hascii _ _ hplain =>
    rw [writeLabel, if_pos hascii]
    unfold readLabel?
    split
    · exact absurd rfl (hplain _)
    · exact if_pos (.inl hascii)
  | beyond hascii hcomposed hvalid =>
    have hwritten : writeLabel label = 'x' :: 'n' :: '-' :: '-' :: Punycode.encode label :=
      if_neg (by simp [hascii])
    rw [hwritten] at hcode ⊢
    exact decodeLabel?_eq_some.mpr ⟨hcode _ rfl, Punycode.decode?_encode (size_of_isLabel hvalid), hascii,
      hcomposed, hvalid, rfl⟩

/-! ## Names -/

theorem mapM_eq_some {α β : Type} {f : α → Option β} : ∀ {xs : List α} {ys : List β},
    xs.mapM f = some ys ↔ List.Forall₂ (fun x y => f x = some y) xs ys
  | [], ys => by simp [eq_comm]
  | x :: xs, ys => by
    rw [List.mapM_cons, List.forall₂_cons_left_iff, Option.bind_eq_bind, Option.bind_eq_some_iff]
    refine exists_congr fun y => ?_
    rw [Option.bind_eq_bind, Option.bind_eq_some_iff]
    constructor
    · rintro ⟨hy, zs, hzs, h⟩
      cases h
      exact ⟨zs, hy, mapM_eq_some.mp hzs, rfl⟩
    · rintro ⟨zs, hy, hzs, rfl⟩
      exact ⟨hy, zs, mapM_eq_some.mpr hzs, rfl⟩

section
variable {labels : List (List Char)} (hread : ∀ label ∈ labels, IsRead label)
include hread

theorem of_mem_written {c : Char} (hc : c ∈ ['.'].intercalate (labels.map writeLabel)) :
    c.toNat < 0x80 ∧ c.toLower = c := by
  rcases Text.mem_intercalate hc with rfl | ⟨piece, hp, hc⟩
  · decide
  · obtain ⟨label, hlabel, rfl⟩ := List.mem_map.mp hp
    have hwritten := isWritten_writeLabel (hread label hlabel)
    exact ⟨hwritten.ascii c hc, hwritten.lower c hc⟩

/-- The labels of a name can be told from what is written. -/
theorem dots_written (hne : labels ≠ []) :
    dots (['.'].intercalate (labels.map writeLabel)) = labels.map writeLabel := by
  apply Text.pieces_intercalate (by simpa using hne)
  intro piece hp c hc
  obtain ⟨label, hlabel, rfl⟩ := List.mem_map.mp hp
  rintro rfl
  exact (isWritten_writeLabel (hread label hlabel)).point hc

theorem mapped_written : Text.compose ((['.'].intercalate (labels.map writeLabel)).flatMap mapChar) =
    ['.'].intercalate (labels.map writeLabel) := by
  rw [flatMap_eq_self]
  · exact Text.compose_of_ascii fun c hc => (of_mem_written hread hc).1
  · intro c hc
    obtain ⟨hascii, hlower⟩ := of_mem_written hread hc
    rw [mapChar_of_ascii hascii, hlower]

theorem labels?_written (hne : labels ≠ []) (hcode : ∀ label ∈ labels, IsReadable (writeLabel label))
    (hdirection : !labels.any goesRight ∨ labels.all (fun label => keepsDirection (label.map direction))) :
    labels? (['.'].intercalate (labels.map writeLabel)) = some labels := by
  have hall : (labels.map writeLabel).mapM readLabel? = some labels := by
    rw [mapM_eq_some, List.forall₂_map_left_iff, List.forall₂_same]
    exact fun label hlabel => readLabel?_writeLabel (hread label hlabel) (hcode label hlabel)
  rw [labels?, mapped_written hread, dots_written hread hne, hall]
  exact if_pos hdirection

end

theorem isRead_of_piece {s piece label : List Char} (hp : piece ∈ dots (Text.compose (s.flatMap mapChar)))
    (h : readLabel? piece = some label) : IsRead label := by
  have hpoint : '.' ∉ piece := by
    intro hm
    simpa using Text.not_of_mem_pieces _ _ piece hp '.' hm
  rw [dots, Text.pieces_compose, List.mem_map] at hp
  obtain ⟨q, hq, rfl⟩ := hp
  refine isRead_of_readLabel? (Text.compose_compose q) ?_ hpoint h
  intro hascii c hc
  rw [Text.eq_compose_of_ascii (isAscii_iff.mp hascii)] at hc
  obtain ⟨d, -, hd⟩ := List.mem_flatMap.mp (Text.mem_of_mem_pieces _ _ q hq c hc)
  exact toLower_of_mem_mapChar hd

/-- What the labels of a name are. -/
theorem labels?_eq_some {s : List Char} {labels : List (List Char)} (h : labels? s = some labels) :
    labels ≠ [] ∧ (∀ label ∈ labels, IsRead label) ∧
      (!labels.any goesRight ∨ labels.all fun label => keepsDirection (label.map direction)) := by
  unfold labels? at h
  simp only [Option.bind_eq_bind, Option.bind_eq_some_iff] at h
  obtain ⟨read, hread, h⟩ := h
  split at h
  · rename_i hdirection
    cases h
    rw [mapM_eq_some] at hread
    refine ⟨?_, ?_, hdirection⟩
    · rintro rfl
      rw [List.forall₂_nil_right_iff] at hread
      exact Text.pieces_ne_nil _ _ hread
    · intro label hlabel
      obtain ⟨i, hi, rfl⟩ := List.getElem_of_mem hlabel
      have hi' := hread.length_eq ▸ hi
      exact isRead_of_piece (List.getElem_mem hi') (hread.get hi' hi)
  · cases h

end Name

open Name

theorem asciiName?_eq_some {s name : List Char} : asciiName? s = some name ↔
    ∃ labels, labels? s = some labels ∧ ['.'].intercalate (labels.map writeLabel) = name ∧
      name.any isForbidden = false := by
  simp only [asciiName?, Option.bind_eq_bind, Option.bind_eq_some_iff, Option.ite_none_left_eq_some,
    Option.some.injEq]
  refine exists_congr fun labels => and_congr_right fun _ => ?_
  constructor
  · rintro ⟨h, rfl⟩
    exact ⟨rfl, by simpa using h⟩
  · rintro ⟨rfl, h⟩
    exact ⟨by simpa using h, rfl⟩

/-- **A name that was written is read as it is**, as far as its codes are not too long. -/
theorem asciiName?_asciiName? {s name : List Char} (h : asciiName? s = some name)
    (hcode : ∀ label ∈ dots name, IsReadable label) : asciiName? name = some name := by
  obtain ⟨labels, hlabels, rfl, hforbidden⟩ := asciiName?_eq_some.mp h
  obtain ⟨hne, hread, hdirection⟩ := labels?_eq_some hlabels
  rw [dots_written hread hne, List.forall_mem_map] at hcode
  exact asciiName?_eq_some.mpr ⟨labels, labels?_written hread hne hcode hdirection, rfl, hforbidden⟩

/-- A text that stands for itself where a name is read. -/
structure IsPlainName (s : List Char) : Prop where
  ascii : ∀ c ∈ s, c.toNat < 0x80
  lower : ∀ c ∈ s, c.toLower = c
  plain : ∀ label ∈ dots s, ∀ code, label ≠ 'x' :: 'n' :: '-' :: '-' :: code
  allowed : s.any isForbidden = false

theorem asciiName?_plain {s : List Char} (h : IsPlainName s) : asciiName? s = some s := by
  have hascii : ∀ label ∈ dots s, isAscii label = true := fun label hlabel =>
    isAscii_iff.mpr fun c hc => h.ascii c (Text.mem_of_mem_pieces _ _ label hlabel c hc)
  have hread : ∀ label ∈ dots s, IsRead label := fun label hlabel =>
    .ascii (hascii label hlabel) (fun c hc => h.lower c (Text.mem_of_mem_pieces _ _ label hlabel c hc))
      (fun hm => by simpa using Text.not_of_mem_pieces _ _ label hlabel '.' hm) (h.plain label hlabel)
  have hwritten : (dots s).map writeLabel = dots s := by
    have hlabel : ∀ label ∈ dots s, writeLabel label = id label := fun label hlabel => if_pos (hascii label hlabel)
    rw [List.map_congr_left hlabel, List.map_id]
  have hjoin : ['.'].intercalate (dots s) = s := Text.intercalate_pieces '.' s
  have hlabels := labels?_written hread (Text.pieces_ne_nil _ s)
  rw [hwritten, hjoin] at hlabels
  refine asciiName?_eq_some.mpr ⟨dots s, hlabels ?_ (.inl ?_), by rw [hwritten, hjoin], h.allowed⟩
  · intro label hlabel code hcode
    rw [writeLabel, if_pos (hascii label hlabel)] at hcode
    exact absurd hcode (h.plain label hlabel code)
  · rw [Bool.not_eq_true', List.any_eq_false]
    intro label hlabel
    rw [not_goesRight_of_ascii (hascii label hlabel)]
    exact Bool.false_ne_true

end BareMetal.Url
