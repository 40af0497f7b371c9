import BareMetal.Proofs.Url.Settled

/-!
# References against a web URL

A reference that names no authority keeps the one of its base: `join_staysOn`. To
any other reference the base gives its scheme at most: `join_leaves`.
-/

namespace BareMetal.Url

structure IsWeb (u : Url) : Prop where
  scheme : u.scheme = "http" ∨ u.scheme = "https"
  segments : ∃ segs, u.path = .segments segs

theorem Settled.isWeb {u : Url} (h : Settled u) : u.IsWeb := by
  obtain ⟨segs, hpath, -⟩ := h.path
  exact ⟨h.scheme, segs, hpath⟩

def OnSlashes : List Char → Prop
  | a :: b :: _ => isSlash true a = true ∧ isSlash true b = true
  | _ => False

instance : DecidablePred OnSlashes := fun s => by
  rcases s with _ | ⟨a, _ | ⟨b, rest⟩⟩ <;> unfold OnSlashes <;> infer_instance

/-- A reference without the scheme of its base; none if it has another one. -/
def behindScheme? (scheme : String) (s : List Char) : Option (List Char) :=
  match splitScheme s with
  | none => some s
  | some (own, rest) => if own = scheme then some rest else none

/-- The reference begins with no authority of its own. -/
def StaysOn (base : Url) (reference : String) : Prop :=
  ∃ s ∈ behindScheme? base.scheme (clean reference), ¬ OnSlashes s

instance (base : Url) (reference : String) : Decidable (StaysOn base reference) :=
  inferInstanceAs (Decidable (∃ s ∈ behindScheme? base.scheme (clean reference), ¬ OnSlashes s))

section
variable {base : Url} (hb : base.IsWeb)
include hb

theorem IsWeb.special : isSpecialScheme base.scheme = true := by
  rcases hb.scheme with h | h <;> rw [h] <;> rfl

theorem IsWeb.ne_file : base.scheme ≠ "file" := by
  rcases hb.scheme with h | h <;> rw [h] <;> decide

theorem readRelative_of_not_onSlashes {s : List Char} (h : ¬ OnSlashes s) :
    readRelative base s = .ok (readAgainst base s) := by
  obtain ⟨segs, hsegs⟩ := hb.segments
  unfold readRelative
  rw [hsegs]
  simp only [if_neg hb.ne_file, hb.special]
  split
  · exact absurd ⟨rfl, rfl⟩ h
  · rename_i a b rest _
    have hslashes : ¬ (isSlash true a = true ∧ isSlash true b = true) := h
    rw [if_neg hslashes]
  · rfl

omit hb in
/-- What is behind two slashes, and behind more of them unless the two are plain ones. -/
def behindSlashes : List Char → List Char
  | '/' :: '/' :: r => r
  | s => s.dropWhile (isSlash true)

theorem readRelative_of_onSlashes {s : List Char} (h : OnSlashes s) :
    readRelative base s = readAuthority base.scheme (behindSlashes s) := by
  obtain ⟨segs, hsegs⟩ := hb.segments
  unfold readRelative behindSlashes
  rw [hsegs]
  simp only [if_neg hb.ne_file, hb.special]
  rcases s with _ | ⟨a, _ | ⟨b, rest⟩⟩
  · exact absurd h id
  · exact absurd h id
  · have hslashes : isSlash true a = true ∧ isSlash true b = true := h
    by_cases hplain : a = '/' ∧ b = '/'
    · obtain ⟨rfl, rfl⟩ := hplain
      rfl
    · split
      · rename_i hcons
        cases hcons
        exact absurd ⟨rfl, rfl⟩ hplain
      · rename_i hcons
        cases hcons
        rw [if_pos hslashes]
        split
        · rename_i hcons
          cases hcons
          exact absurd ⟨rfl, rfl⟩ hplain
        · rfl
      · rename_i hnot
        exact absurd rfl (hnot a b rest)

theorem readFile_base (s : List Char) : readFile (some base) s = readFile none s := by
  have hnone : Option.filter (fun u : Url => u.scheme == "file") (some base) = none := by
    simp [Option.filter, hb.ne_file]
  unfold readFile
  simp only [hnone, Option.filter_none]

theorem readAgainst_authority (s : List Char) : ∃ segs query fragment,
    readAgainst base s = { base with path := .segments segs, query, fragment } := by
  obtain ⟨segs, hsegs⟩ := hb.segments
  unfold readAgainst
  extract_lets special withPath
  split
  · exact ⟨segs, base.query, none, by rw [← hsegs]⟩
  · split
    · exact ⟨segs, _, _, by rw [← hsegs]⟩
    · split
      · exact ⟨segs, base.query, _, by rw [← hsegs]⟩
      · split <;> exact ⟨_, _, _, rfl⟩

omit hb in
theorem onSlashes_iff {s : List Char} : OnSlashes s ↔ ¬ (s.takeWhile (isSlash true)).length < 2 := by
  rcases s with _ | ⟨a, _ | ⟨b, rest⟩⟩
  · simp [OnSlashes]
  · by_cases ha : isSlash true a = true <;> simp [OnSlashes, ha]
  · by_cases ha : isSlash true a = true <;> by_cases hb : isSlash true b = true <;> simp [OnSlashes, ha, hb]

/-- **A reference that names no authority is resolved, and keeps the one of its base.** -/
theorem join_staysOn {reference : String} (h : StaysOn base reference) : ∃ segs query fragment,
    join base reference = .ok { base with path := .segments segs, query, fragment } := by
  obtain ⟨s, hs, hslashes⟩ := h
  have hread : join base reference = readRelative base s := by
    unfold behindScheme? at hs
    unfold join parse
    split at hs
    · rename_i hnone
      cases hs
      simp only [hnone]
    · rename_i own rest hsome
      split at hs
      · rename_i hown
        cases hs
        subst hown
        have hshort := Decidable.not_not.mp (mt onSlashes_iff.mpr hslashes)
        simp only [hsome, if_neg hb.ne_file, hb.special, if_true, hshort, and_self]
      · cases hs
  obtain ⟨segs, query, fragment, hsame⟩ := readAgainst_authority hb s
  exact ⟨segs, query, fragment, by rw [hread, readRelative_of_not_onSlashes hb hslashes, hsame]⟩

/-- **Of a base that a reference leaves only the scheme matters.** -/
theorem join_leaves {reference : String} (h : ¬ StaysOn base reference) {other : Url} (ho : other.IsWeb)
    (hs : other.scheme = base.scheme) : join other reference = join base reference := by
  have honly : ∀ s ∈ behindScheme? base.scheme (clean reference), OnSlashes s :=
    fun s hm => Decidable.not_not.mp fun hn => h ⟨s, hm, hn⟩
  unfold behindScheme? at honly
  unfold join parse
  cases hsplit : splitScheme (clean reference) with
  | none =>
    have hslashes : OnSlashes (clean reference) := by simpa [hsplit] using honly
    simp only [hsplit, readRelative_of_onSlashes ho hslashes, readRelative_of_onSlashes hb hslashes, hs]
  | some found =>
    obtain ⟨own, rest⟩ := found
    rw [hsplit] at honly
    simp only [hsplit, readFile_base ho, readFile_base hb, hs]
    by_cases hown : own = base.scheme
    · subst hown
      have hslashes : OnSlashes rest := by simpa using honly
      simp only [onSlashes_iff.mp hslashes, false_and, if_false]
    · simp only [Ne.symm hown, and_false, if_false]

end

/-! ## Paths as references -/

theorem clean_of_visible {s : String} (h : ∀ c ∈ s.toList, 0x20 < c.toNat) : clean s = s.toList := by
  have hblank : ∀ c ∈ s.toList, decide (c.toNat ≤ 0x20) = false := by
    intro c hc
    have := h c hc
    simpa using this
  unfold clean
  rw [Text.trimBoth_of_not hblank]
  apply List.filter_eq_self.mpr
  intro c hc
  have hvisible := h c hc
  simp only [isBreak, Bool.not_eq_true', Bool.or_eq_false_iff, beq_eq_false_iff_ne]
  refine ⟨⟨?_, ?_⟩, ?_⟩ <;> rintro rfl <;> exact absurd hvisible (by decide)

theorem splitScheme_of_no_colon {s : List Char} (h : ':' ∉ s) : splitScheme s = none := by
  unfold splitScheme
  rw [List.span_eq_takeWhile_dropWhile]
  dsimp only
  split
  · rename_i hrest
    have hcolon : ':' ∈ s.dropWhile _ := hrest ▸ List.mem_cons_self
    exact absurd ((List.dropWhile_sublist _).mem hcolon) h
  · rfl

section
variable {base : Url} (hb : base.IsWeb)
include hb

theorem join_eq_readAgainst {reference : String} (hs : splitScheme (clean reference) = none)
    (h : ¬ OnSlashes (clean reference)) : join base reference = .ok (readAgainst base (clean reference)) := by
  unfold join parse
  simp only [hs]
  exact readRelative_of_not_onSlashes hb h

variable {segs : List String} (h : AllSegments segs) (hfirst : ∃ seg more, segs = seg :: more ∧ seg ≠ "")
include h

omit hb in
theorem clean_intercalate : clean ("/".intercalate segs) = ("/".intercalate segs).toList := by
  apply clean_of_visible
  intro c hc
  rcases mem_intercalate hc with rfl | ⟨seg, hseg, hc⟩
  · decide
  · exact visible_of_inSegment ((h seg hseg).plain c hc).2

include hfirst

omit hb in
theorem intercalate_cons : ∃ c s, ("/".intercalate segs).toList = c :: s ∧ c.toNat < 0x80 ∧ inSegment c = false := by
  obtain ⟨seg, more, rfl, hne⟩ := hfirst
  obtain ⟨c, s, hs⟩ := List.exists_cons_of_ne_nil (mt String.toList_eq_nil_iff.mp hne)
  have hc := (h seg List.mem_cons_self).plain c (by simp [hs])
  rw [String.toList_intercalate, List.map_cons, hs]
  cases more with
  | nil => exact ⟨c, s, by simp, hc⟩
  | cons next more => exact ⟨c, _, by rw [List.map_cons, List.intercalate_cons_cons]; rfl, hc⟩

omit hb h hfirst in
theorem segments_ne_nil (hfirst : ∃ seg more, segs = seg :: more ∧ seg ≠ "") : segs ≠ [] := by
  obtain ⟨seg, more, rfl, -⟩ := hfirst
  exact List.cons_ne_nil seg more

omit hb in
theorem readPath_intercalate (special : Bool) (before : List String) :
    readPath special before [] ("/".intercalate segs).toList = (before ++ segs, []) := by
  have hmap : segs.map String.toList ≠ [] := by simpa using segments_ne_nil hfirst
  have hread := readPath_segments special isTail_nil hmap (List.forall_mem_map.mpr h) before
  rw [List.append_nil] at hread
  rw [String.toList_intercalate]
  simpa using hread

/-- A path that begins with a slash takes the place of the path of the base. -/
theorem join_text : join base (Path.segments segs).text =
    .ok { base with path := .segments segs, query := none, fragment := none } := by
  obtain ⟨c, s, hs, -, hc⟩ := intercalate_cons h hfirst
  have htext : (Path.segments segs).text.toList = '/' :: ("/".intercalate segs).toList := by
    rw [text_eq (segments_ne_nil hfirst), String.toList_append]
    rfl
  have hclean : clean (Path.segments segs).text = '/' :: ("/".intercalate segs).toList := by
    rw [clean_of_visible, htext]
    intro d hd
    rcases of_mem_text h hd with rfl | ⟨-, hd⟩
    · decide
    · exact visible_of_inSegment hd
  have hslashes : ¬ OnSlashes ('/' :: ("/".intercalate segs).toList) := by
    rw [hs]
    exact fun hon => absurd hon.2 (by simp [(inSegment_eq_false hc).2.1 true])
  rw [join_eq_readAgainst hb (by rw [hclean]; rfl) (by rwa [hclean]), hclean, readAgainst]
  have hslash : isSlash (isSpecialScheme base.scheme) '/' = true := rfl
  simp only [hslash, readPath_intercalate h hfirst]
  rfl

/-- Any other path takes the place of the last segment of the base. -/
theorem join_intercalate {front : List String} {last : String} (hbase : base.path = .segments (front ++ [last]))
    (hcolon : ':' ∉ ("/".intercalate segs).toList) : join base ("/".intercalate segs) =
      .ok { base with path := .segments (front ++ segs), query := none, fragment := none } := by
  obtain ⟨c, s, hs, -, hc⟩ := intercalate_cons h hfirst
  obtain ⟨-, hslash, htail⟩ := inSegment_eq_false hc
  rw [not_or] at htail
  have hclean := clean_intercalate h
  have hslashes : ¬ OnSlashes ("/".intercalate segs).toList := by
    rw [hs]
    cases s with
    | nil => exact id
    | cons d s => exact fun hon => absurd hon.1 (by simp [hslash])
  have hsegs : baseSegments base = front ++ [last] := by
    rw [baseSegments, hbase]
  have hread := readPath_intercalate h hfirst (isSpecialScheme base.scheme) front
  rw [join_eq_readAgainst hb (by rw [hclean]; exact splitScheme_of_no_colon hcolon) (by rwa [hclean]), hclean]
  rw [hs] at hread ⊢
  rw [readAgainst]
  simp only [htail.1, htail.2, hslash, hsegs, List.dropLast_concat, if_false, hread]
  rfl

end

end BareMetal.Url
