import BareMetal.Proofs.Text.Pieces
import BareMetal.Proofs.Url.Escaping
import BareMetal.Url.Parser

/-!
# The segments of paths

Whatever path is read, its segments are read again as they are: `isSegment_readPath`
and `readPath_segments`.
-/

namespace BareMetal.Url

/-- The characters that a segment cannot hold. -/
def inSegment (c : Char) : Bool := inPath c || isSlash true c

/-- A segment that is escaped, and is no dot or two that lead elsewhere. -/
structure IsSegment (seg : List Char) : Prop where
  plain : Plain inSegment seg
  not_single : isSingleDot seg = false
  not_double : isDoubleDot seg = false

instance : DecidablePred IsSegment := fun seg =>
  decidable_of_iff (Plain inSegment seg ∧ isSingleDot seg = false ∧ isDoubleDot seg = false)
    ⟨fun ⟨h, h₁, h₂⟩ => ⟨h, h₁, h₂⟩, fun ⟨h, h₁, h₂⟩ => ⟨h, h₁, h₂⟩⟩

theorem isSegment_nil : IsSegment [] := by decide

/-- A query or a fragment, or nothing. -/
def IsTail (s : List Char) : Prop := ∀ c ∈ s.head?, c = '?' ∨ c = '#'

theorem isTail_nil : IsTail [] := by simp [IsTail]

instance : DecidablePred IsTail := fun s => inferInstanceAs (Decidable (∀ c ∈ s.head?, c = '?' ∨ c = '#'))

theorem inSegment_eq_false {c : Char} (h : inSegment c = false) :
    inPath c = false ∧ (∀ special, isSlash special c = false) ∧ ¬ (c = '?' ∨ c = '#') := by
  rw [inSegment, Bool.or_eq_false_iff] at h
  refine ⟨h.1, fun special => ?_, ?_⟩
  · cases special
    · have hs := h.2
      simp only [isSlash, Bool.true_and, Bool.or_eq_false_iff] at hs
      simp [isSlash, hs.1]
    · exact h.2
  · rintro (rfl | rfl) <;> exact absurd h.1 (by decide)

/-! ## Reading segments again -/

section
variable (special : Bool)

theorem readPath_plain {seg : List Char} (h : Plain inSegment seg) (segs : List String)
    (current rest : List Char) :
    readPath special segs current (seg ++ rest) = readPath special segs (current ++ seg) rest := by
  induction seg generalizing current with
  | nil => rw [List.nil_append, List.append_nil]
  | cons c seg ih =>
    obtain ⟨hascii, hc⟩ := h c List.mem_cons_self
    obtain ⟨hpath, hslash, htail⟩ := inSegment_eq_false hc
    have hseg : Plain inSegment seg := fun d hd => h d (List.mem_cons_of_mem c hd)
    rw [List.cons_append, readPath, hslash, if_neg Bool.false_ne_true, if_neg htail,
      percentEncodeChar_of_plain ⟨hascii, hpath⟩, ih hseg, List.append_assoc, List.singleton_append]

theorem pushSegment_of_isSegment {seg : List Char} (h : IsSegment seg) (segs : List String) (slash : Bool) :
    pushSegment segs seg slash = segs ++ [String.ofList seg] := by
  simp [pushSegment, h.not_single, h.not_double]

theorem readPath_tail {tail : List Char} (ht : IsTail tail) (segs : List String) (current : List Char) :
    readPath special segs current tail = (pushSegment segs current false, tail) := by
  cases tail with
  | nil => rfl
  | cons c tail =>
    have hc := ht c rfl
    have hslash : isSlash special c = false := by
      rcases hc with rfl | rfl <;> cases special <;> rfl
    rw [readPath, hslash, if_neg Bool.false_ne_true, if_pos hc]

/-- Segments with slashes between them are read as they are. -/
theorem readPath_segments {tail : List Char} (ht : IsTail tail) : ∀ {ps : List (List Char)}, ps ≠ [] →
    (∀ seg ∈ ps, IsSegment seg) → ∀ segs : List String,
      readPath special segs [] (['/'].intercalate ps ++ tail) = (segs ++ ps.map String.ofList, tail)
  | [], h, _, _ => absurd rfl h
  | [seg], _, hps, segs => by
    have hseg := hps seg List.mem_cons_self
    rw [List.intercalate_singleton, readPath_plain special hseg.plain, List.nil_append,
      readPath_tail special ht, pushSegment_of_isSegment hseg]
    rfl
  | seg :: next :: more, _, hps, segs => by
    have hseg := hps seg List.mem_cons_self
    have hslash : isSlash special '/' = true := rfl
    rw [List.intercalate_cons_cons, List.append_assoc, List.append_assoc, readPath_plain special hseg.plain,
      List.nil_append, List.singleton_append, readPath, if_pos hslash, pushSegment_of_isSegment hseg,
      readPath_segments ht (by simp) fun q hq => hps q (List.mem_cons_of_mem _ hq)]
    simp

end

/-! ## Segments that were read -/

def AllSegments (segs : List String) : Prop := ∀ seg ∈ segs, IsSegment seg.toList

instance : DecidablePred AllSegments := fun segs =>
  inferInstanceAs (Decidable (∀ seg ∈ segs, IsSegment seg.toList))

theorem AllSegments.snoc {segs : List String} (h : AllSegments segs) {seg : String} (hseg : IsSegment seg.toList) :
    AllSegments (segs ++ [seg]) := by
  intro s hs
  rcases List.mem_append.mp hs with hs | hs
  · exact h s hs
  · rw [List.mem_singleton] at hs
    exact hs ▸ hseg

theorem allSegments_dropSegment {segs : List String} (h : AllSegments segs) : AllSegments (dropSegment segs) := by
  unfold dropSegment
  split
  · exact h
  · exact fun seg hs => h seg ((List.dropLast_sublist segs).mem hs)

theorem allSegments_pushSegment {segs : List String} (h : AllSegments segs) {current : List Char}
    (hc : Plain inSegment current) (slash : Bool) : AllSegments (pushSegment segs current slash) := by
  have hempty : IsSegment "".toList := isSegment_nil
  unfold pushSegment
  split
  · split
    · exact allSegments_dropSegment h
    · exact (allSegments_dropSegment h).snoc hempty
  · rename_i hdouble
    split
    · split
      · exact h
      · exact h.snoc hempty
    · rename_i hsingle
      refine h.snoc ?_
      rw [String.toList_ofList]
      exact ⟨hc, by simpa using hsingle, by simpa using hdouble⟩

theorem pushSegment_ne_nil (segs : List String) (current : List Char) :
    pushSegment segs current false ≠ [] := by
  unfold pushSegment
  split
  · simp
  · split <;> simp

theorem plain_inSegment {c : Char} (hslash : isSlash true c = false) :
    Plain inSegment (percentEncodeChar inPath c) := by
  have hsame : percentEncodeChar inPath c = percentEncodeChar inSegment c := by
    simp [percentEncodeChar, inSegment, hslash]
  rw [hsame]
  exact plain_percentEncodeChar (by decide) c

/-- **A path that was read has segments, all of them escaped, up to the query or the fragment.** -/
theorem allSegments_readPath (s : List Char) : ∀ {segs : List String} {current : List Char},
    AllSegments segs → Plain inSegment current →
      AllSegments (readPath true segs current s).1 ∧ (readPath true segs current s).1 ≠ [] ∧
        IsTail (readPath true segs current s).2 := by
  induction s with
  | nil =>
    intro segs current h hc
    exact ⟨allSegments_pushSegment h hc false, pushSegment_ne_nil segs current, isTail_nil⟩
  | cons c s ih =>
    intro segs current h hc
    rw [readPath]
    split
    · exact ih (allSegments_pushSegment h hc true) (by simp [Plain])
    · rename_i hslash
      split
      · rename_i htail
        exact ⟨allSegments_pushSegment h hc false, pushSegment_ne_nil segs current, by simpa [IsTail] using htail⟩
      · exact ih h (hc.append (plain_inSegment (by simpa using hslash)))

theorem allSegments_readPathStart (s : List Char) : AllSegments (readPathStart true s).1 ∧
    (readPathStart true s).1 ≠ [] ∧ IsTail (readPathStart true s).2 := by
  have hnil : AllSegments [] := by simp [AllSegments]
  have hempty : Plain inSegment [] := by simp [Plain]
  unfold readPathStart
  split
  · exact allSegments_readPath [] hnil hempty
  · rename_i c rest
    split
    · exact allSegments_readPath rest hnil hempty
    · split
      · rename_i hspecial
        simp at hspecial
      · exact allSegments_readPath _ hnil hempty

/-! ## The text of a path -/

theorem text_cons (seg : String) (segs : List String) :
    (Path.segments (seg :: segs)).text = "/" ++ seg ++ (Path.segments segs).text := by
  simp only [Path.text, List.map_cons, String.join_cons]

theorem text_append (segs more : List String) :
    (Path.segments (segs ++ more)).text = (Path.segments segs).text ++ (Path.segments more).text := by
  simp only [Path.text, List.map_append, String.join_append]

theorem toList_text : ∀ {segs : List String}, segs ≠ [] →
    (Path.segments segs).text.toList = '/' :: ['/'].intercalate (segs.map String.toList)
  | [], h => absurd rfl h
  | [seg], _ => by
    simp [Path.text]
  | seg :: next :: more, _ => by
    rw [text_cons, String.toList_append, toList_text (List.cons_ne_nil next more)]
    simp [List.intercalate_cons_cons]

theorem text_eq {segs : List String} (h : segs ≠ []) :
    (Path.segments segs).text = "/" ++ "/".intercalate segs := by
  rw [← String.toList_inj, toList_text h]
  simp [String.toList_intercalate]

theorem mem_text {segs : List String} {c : Char} (hc : c ∈ (Path.segments segs).text.toList) :
    c = '/' ∨ ∃ seg ∈ segs, c ∈ seg.toList := by
  induction segs with
  | nil => simp [Path.text] at hc
  | cons seg segs ih =>
    rw [text_cons, String.toList_append, String.toList_append, List.append_assoc, List.mem_append,
      List.mem_append] at hc
    rcases hc with hc | hc | hc
    · exact .inl (by simpa using hc)
    · exact .inr ⟨seg, List.mem_cons_self, hc⟩
    · obtain rfl | ⟨other, ho, hc⟩ := ih hc
      · exact .inl rfl
      · exact .inr ⟨other, List.mem_cons_of_mem _ ho, hc⟩

theorem mem_intercalate {segs : List String} {c : Char} (hc : c ∈ ("/".intercalate segs).toList) :
    c = '/' ∨ ∃ seg ∈ segs, c ∈ seg.toList := by
  by_cases hsegs : segs = []
  · subst hsegs
    simp at hc
  · apply mem_text
    rw [text_eq hsegs, String.toList_append]
    exact List.mem_append_right _ hc

theorem visible_of_inSegment {c : Char} (h : inSegment c = false) : 0x20 < c.toNat := by
  have hpath := (inSegment_eq_false h).1
  have hcontrol : isControl c = false := by
    simp only [inPath, inQuery, Bool.or_eq_false_iff] at hpath
    exact hpath.1.1
  have hlow : 0x20 ≤ c.toNat := by
    simp only [isControl, Bool.or_eq_false_iff, decide_eq_false_iff_not] at hcontrol
    omega
  have hne : c.toNat ≠ 0x20 := by
    intro heq
    rw [← Char.ofNat_toNat c, heq] at h
    exact absurd h (by decide)
  omega

section
variable {segs : List String} (h : AllSegments segs)
include h

theorem readPathStart_text (special : Bool) (hsegs : segs ≠ []) {tail : List Char} (ht : IsTail tail) :
    readPathStart special ((Path.segments segs).text.toList ++ tail) = (segs, tail) := by
  have hslash : isSlash special '/' = true := rfl
  have hmap : segs.map String.toList ≠ [] := by simpa using hsegs
  have hread := readPath_segments special ht hmap (List.forall_mem_map.mpr h) []
  rw [toList_text hsegs, List.cons_append, readPathStart, if_pos hslash, hread]
  simp

theorem of_mem_text {c : Char} (hc : c ∈ (Path.segments segs).text.toList) :
    c = '/' ∨ c.toNat < 0x80 ∧ inSegment c = false := by
  rcases mem_text hc with rfl | ⟨seg, hseg, hc⟩
  · exact .inl rfl
  · exact .inr ((h seg hseg).plain c hc)

theorem getLast?_text : (Path.segments segs).text.toList.getLast? = some '/' ↔ segs.getLast? = some "" := by
  rcases List.eq_nil_or_concat segs with rfl | ⟨front, last, rfl⟩
  · simp [Path.text]
  · have hlast := h last (by simp)
    have hne : last.toList.getLast? ≠ some '/' := by
      intro hm
      have hc := (hlast.plain _ (List.mem_of_getLast? hm)).2
      exact absurd hc (by decide)
    rw [List.concat_eq_append, text_append, text_cons, Path.text, Path.text]
    by_cases hempty : last = ""
    · subst hempty
      simp
    · have hsome : last.toList.getLast?.isSome := by simpa using hempty
      obtain ⟨c, hc⟩ := Option.isSome_iff_exists.mp hsome
      rw [hc] at hne
      have hcons : ('/' :: last.toList).getLast? = some c := by
        rw [List.getLast?_cons, hc, Option.getD_some]
      simpa [List.getLast?_append, hcons, hempty] using hne

/-- Where a path does not end with a slash, one is added to it and nothing else is changed. -/
theorem withTrailingSlash_eq {u : Url} (hu : u.path = .segments segs) :
    u.withTrailingSlash =
      if segs.getLast? = some "" then u else { u with path := .segments (segs ++ [""]) } := by
  have hmore : AllSegments (segs ++ [""]) := h.snoc isSegment_nil
  have hchars : ∀ c ∈ (Path.segments (segs ++ [""])).text.toList, isBreak c = false ∧ ¬ (c = '?' ∨ c = '#') := by
    intro c hc
    rcases of_mem_text hmore hc with rfl | ⟨-, hc⟩
    · decide
    · refine ⟨?_, (inSegment_eq_false hc).2.2⟩
      rw [Bool.eq_false_iff]
      intro hbreak
      simp only [isBreak, Bool.or_eq_true, beq_iff_eq] at hbreak
      rcases hbreak with (rfl | rfl) | rfl <;> exact absurd hc (by decide)
  have htext : (Path.segments segs).text ++ "/" = (Path.segments (segs ++ [""])).text := by
    rw [text_append]
    rfl
  unfold withTrailingSlash
  rw [hu]
  simp only [getLast?_text h]
  split
  · rfl
  · have hfilter : ((Path.segments (segs ++ [""])).text.toList.filter fun c => !isBreak c) =
        (Path.segments (segs ++ [""])).text.toList :=
      List.filter_eq_self.mpr fun c hc => by simp [(hchars c hc).1]
    have hescape : ((Path.segments (segs ++ [""])).text.toList.flatMap fun c =>
        if c = '?' ∨ c = '#' then percentEncodeChar inPath c else [c]) =
          (Path.segments (segs ++ [""])).text.toList :=
      flatMap_eq_self fun c hc => if_neg (hchars c hc).2
    have hread := readPathStart_text hmore (isSpecialScheme u.scheme) (by simp) isTail_nil
    rw [List.append_nil] at hread
    rw [setPath, hu, htext]
    simp only [hfilter, hescape, hread]

end

end BareMetal.Url
