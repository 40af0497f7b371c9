import BareMetal.Text.Blank
import Mathlib.Data.List.TakeDrop
import Mathlib.Data.List.TakeWhile

/-!
# Texts in pieces

Cutting a text at a character is the inverse of joining pieces without it
(`pieces_eq_iff`), and trimming is the inverse of putting something around a
text that is to be trimmed: `exists_trimBoth` and `trimBoth_between`.
-/

namespace BareMetal.Text

section
variable {p : Char → Bool}

theorem pieces_ne_nil (p : Char → Bool) (s : List Char) : pieces p s ≠ [] := by
  cases s with
  | nil => simp [pieces]
  | cons c rest =>
    rw [pieces]
    split
    · simp
    · split <;> simp

theorem pieces_cons_of_not {c : Char} (h : p c = false) {s piece : List Char} {more : List (List Char)}
    (hs : pieces p s = piece :: more) : pieces p (c :: s) = (c :: piece) :: more := by
  simp [pieces, h, hs]

theorem pieces_append {s : List Char} (hs : ∀ c ∈ s, p c = false) {t piece : List Char}
    {more : List (List Char)} (ht : pieces p t = piece :: more) :
    pieces p (s ++ t) = (s ++ piece) :: more := by
  induction s with
  | nil => exact ht
  | cons c s ih =>
    rw [List.forall_mem_cons] at hs
    exact pieces_cons_of_not hs.1 (ih hs.2)

theorem pieces_of_free {s : List Char} (hs : ∀ c ∈ s, p c = false) : pieces p s = [s] := by
  simpa using pieces_append hs (t := []) rfl

theorem pieces_append_cons {s t : List Char} {d : Char} (hs : ∀ c ∈ s, p c = false) (hd : p d = true) :
    pieces p (s ++ d :: t) = s :: pieces p t := by
  have ht : pieces p (d :: t) = [] :: pieces p t := by simp [pieces, hd]
  simpa using pieces_append hs ht

theorem not_of_mem_pieces (p : Char → Bool) : ∀ (s : List Char), ∀ piece ∈ pieces p s, ∀ c ∈ piece, p c = false
  | [] => by simp [pieces]
  | c :: rest => by
    have ih := not_of_mem_pieces p rest
    by_cases hc : p c = true
    · simpa [pieces, hc] using ih
    · rw [Bool.not_eq_true] at hc
      obtain ⟨piece, more, hs⟩ := List.exists_cons_of_ne_nil (pieces_ne_nil p rest)
      rw [hs, List.forall_mem_cons] at ih
      rw [pieces_cons_of_not hc hs, List.forall_mem_cons, List.forall_mem_cons]
      exact ⟨⟨hc, ih.1⟩, ih.2⟩

theorem mem_of_mem_pieces (p : Char → Bool) : ∀ (s : List Char), ∀ piece ∈ pieces p s, ∀ c ∈ piece, c ∈ s
  | [] => by simp [pieces]
  | c :: rest => by
    have ih := mem_of_mem_pieces p rest
    intro piece hp d hd
    by_cases hc : p c = true
    · simp only [pieces, hc, if_true, List.mem_cons] at hp
      rcases hp with rfl | hp
      · cases hd
      · exact List.mem_cons_of_mem _ (ih piece hp d hd)
    · rw [Bool.not_eq_true] at hc
      obtain ⟨first, more, hs⟩ := List.exists_cons_of_ne_nil (pieces_ne_nil p rest)
      rw [hs, List.forall_mem_cons] at ih
      rw [pieces_cons_of_not hc hs, List.mem_cons] at hp
      rcases hp with rfl | hp
      · rcases List.mem_cons.mp hd with rfl | hd
        · exact List.mem_cons_self
        · exact List.mem_cons_of_mem _ (ih.1 d hd)
      · exact List.mem_cons_of_mem _ (ih.2 piece hp d hd)

end

section
variable {d : Char}

theorem intercalate_pieces (d : Char) : ∀ s : List Char, [d].intercalate (pieces (· == d) s) = s
  | [] => rfl
  | c :: rest => by
    have ih := intercalate_pieces d rest
    obtain ⟨piece, more, hs⟩ := List.exists_cons_of_ne_nil (pieces_ne_nil (· == d) rest)
    by_cases hc : c = d
    · subst hc
      have hcut : pieces (· == c) (c :: rest) = [] :: piece :: more := by simp [pieces, hs]
      rw [hcut, List.intercalate_cons_cons, ← hs, ih]
      rfl
    · rw [pieces_cons_of_not (p := (· == d)) (beq_eq_false_iff_ne.mpr hc) hs]
      rw [hs] at ih
      cases more with
      | nil => simpa using ih
      | cons next more => simpa [List.intercalate_cons_cons] using ih

theorem pieces_intercalate : ∀ {ps : List (List Char)}, ps ≠ [] → (∀ piece ∈ ps, ∀ c ∈ piece, c ≠ d) →
    pieces (· == d) ([d].intercalate ps) = ps
  | [], h, _ => absurd rfl h
  | [piece], _, hps => by
    rw [List.intercalate_singleton]
    exact pieces_of_free fun c hc => beq_eq_false_iff_ne.mpr (hps piece (by simp) c hc)
  | piece :: next :: more, _, hps => by
    rw [List.intercalate_cons_cons, List.append_assoc, List.singleton_append, pieces_append_cons
      (fun c hc => beq_eq_false_iff_ne.mpr (hps piece (by simp) c hc)) (beq_self_eq_true d),
      pieces_intercalate (by simp) fun q hq => hps q (List.mem_cons_of_mem _ hq)]

theorem pieces_eq_iff {s : List Char} {ps : List (List Char)} :
    pieces (· == d) s = ps ↔ ps ≠ [] ∧ [d].intercalate ps = s ∧ ∀ piece ∈ ps, ∀ c ∈ piece, c ≠ d := by
  constructor
  · intro h
    subst h
    refine ⟨pieces_ne_nil _ s, intercalate_pieces d s, fun piece hp c hc => ?_⟩
    have hcut := not_of_mem_pieces _ s piece hp c hc
    simpa using hcut
  · intro h
    rw [← h.2.1]
    exact pieces_intercalate h.1 h.2.2

end

theorem mem_intercalate {d c : Char} : ∀ {ps : List (List Char)}, c ∈ [d].intercalate ps →
    c = d ∨ ∃ piece ∈ ps, c ∈ piece
  | [], h => by cases h
  | [piece], h => by
    rw [List.intercalate_singleton] at h
    exact .inr ⟨piece, List.mem_singleton_self piece, h⟩
  | piece :: next :: more, h => by
    rw [List.intercalate_cons_cons, List.mem_append, List.mem_append, List.mem_singleton] at h
    rcases h with (h | h) | h
    · exact .inr ⟨piece, List.mem_cons_self, h⟩
    · exact .inl h
    · rcases mem_intercalate h with h | ⟨q, hq, h⟩
      · exact .inl h
      · exact .inr ⟨q, List.mem_cons_of_mem _ hq, h⟩

/-! ## Ends of texts -/

theorem span_eq {p : Char → Bool} {s r : List Char} (hs : ∀ c ∈ s, p c = true)
    (hr : ∀ c ∈ r.head?, p c = false) : (s ++ r).span p = (s, r) := by
  induction s with
  | nil =>
    cases r with
    | nil => rfl
    | cons c r =>
      have hc : p c = false := hr c rfl
      simp [List.span_eq_takeWhile_dropWhile, hc]
  | cons c s ih =>
    rw [List.forall_mem_cons] at hs
    have hrest := ih hs.2
    rw [List.span_eq_takeWhile_dropWhile, Prod.mk.injEq] at hrest ⊢
    rw [List.cons_append, List.takeWhile_cons, List.dropWhile_cons, if_pos hs.1, if_pos hs.1, hrest.1]
    exact ⟨rfl, hrest.2⟩

theorem dropWhile_of_not {p : Char → Bool} {s : List Char} (h : ∀ c ∈ s, p c = false) : s.dropWhile p = s := by
  cases s with
  | nil => rfl
  | cons c s => rw [List.dropWhile_cons_of_neg (by simp [h c])]

theorem trimBoth_of_not {p : Char → Bool} {s : List Char} (h : ∀ c ∈ s, p c = false) : trimBoth p s = s := by
  unfold trimBoth trimEnd
  rw [dropWhile_of_not h, dropWhile_of_not (by simpa using h), List.reverse_reverse]

theorem exists_trimBoth (p : Char → Bool) (s : List Char) : ∃ before after,
    s = before ++ trimBoth p s ++ after ∧ (∀ c ∈ before, p c = true) ∧ ∀ c ∈ after, p c = true := by
  let kept := s.dropWhile p
  refine ⟨s.takeWhile p, (kept.reverse.takeWhile p).reverse, ?_, fun c hc => List.mem_takeWhile_imp hc, ?_⟩
  · have hkept : kept = trimEnd p kept ++ (kept.reverse.takeWhile p).reverse := by
      rw [trimEnd, ← List.reverse_append, List.takeWhile_append_dropWhile, List.reverse_reverse]
    rw [trimBoth, List.append_assoc, ← hkept, List.takeWhile_append_dropWhile]
  · intro c hc
    exact List.mem_takeWhile_imp (List.mem_reverse.mp hc)

theorem trimBoth_between {p : Char → Bool} {before t after : List Char} (hb : ∀ c ∈ before, p c = true)
    (ht : ∀ c ∈ t, p c = false) (ha : ∀ c ∈ after, p c = true) : trimBoth p (before ++ t ++ after) = t := by
  have hend {u : List Char} (hu : ∀ c ∈ u, p c = true) : trimEnd p (t ++ u) = t := by
    rw [trimEnd, List.reverse_append, List.dropWhile_append_of_pos (by simpa using hu),
      dropWhile_of_not (by simpa using ht), List.reverse_reverse]
  rw [trimBoth, List.append_assoc, List.dropWhile_append_of_pos hb]
  cases t with
  | nil =>
    have hnone := hend (u := []) (by simp)
    have hdrop : after.dropWhile p = [] := List.dropWhile_eq_nil_iff.mpr ha
    rw [List.nil_append, hdrop]
    exact hnone
  | cons c t =>
    rw [List.cons_append, List.dropWhile_cons_of_neg (by simp [ht c])]
    exact hend ha

end BareMetal.Text
