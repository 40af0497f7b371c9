import BareMetal.Proofs.Text.Pieces
import BareMetal.Toml.Reader
import Mathlib.Data.List.TakeDrop
import Mathlib.Data.List.TakeWhile

/-!
# What is quoted reads back

`Spells` says what the text between the quotes of a string stands for, for all
forms of strings. It is what the reader makes of such a text
(`takeString?_of_spells`), and what the writer puts there. Main statements:
`takeText?_quote` and `takeSimpleKey?_quoteKey`.
-/

namespace BareMetal.Toml

/-! ## Between quotes -/

namespace Form

/-- How many quotes may follow one another in the text; one more ends it. -/
def room (form : Form) : Nat := if form.multiline then 2 else 0

def closing (form : Form) : List Char := List.replicate (form.room + 1) form.quote

end Form

/-- What a text between quotes stands for; at most `n` quotes are in front of it. -/
inductive Spells (form : Form) : (n : Nat) → List Char → List Char → Prop
  | nil (n : Nat) : Spells form n [] []
  | quote {n : Nat} {text content : List Char} (more : Spells form n text content) :
      Spells form (n + 1) (form.quote :: text) (form.quote :: content)
  | plain {n : Nat} {c : Char} {text content : List Char} (unquoted : c ≠ form.quote)
      (unescaped : form.escapes = true → c ≠ '\\') (visible : isBareControl c = false)
      (inside : c ≠ '\n') (more : Spells form form.room text content) :
      Spells form n (c :: text) (c :: content)
  | newline {n : Nat} {text content : List Char} (multiline : form.multiline = true)
      (more : Spells form form.room text content) : Spells form n ('\n' :: text) ('\n' :: content)
  | escape {n : Nat} {c : Char} (code : List Char) {text content : List Char} (escapes : form.escapes = true)
      (stands : ∀ rest, takeEscape? (code ++ rest) = some (c, rest))
      (more : Spells form form.room text content) :
      Spells form n ('\\' :: (code ++ text)) (c :: content)

/-! ## Reading -/

theorem takeContinuation?_of_escape {s rest : List Char} {c : Char}
    (h : takeEscape? s = some (c, rest)) : takeContinuation? s = none := by
  unfold takeEscape? at h
  split at h
  any_goals rfl
  cases h

theorem takeNewline?_eq_none {c : Char} (visible : isBareControl c = false) (inside : c ≠ '\n')
    (r : List Char) : takeNewline? (c :: r) = none := by
  unfold takeNewline?
  split
  · rename_i h
    cases h
    exact absurd rfl inside
  · rename_i h
    cases h
    cases visible
  · rfl

section

variable {form : Form} {fuel : Nat} {acc r : List Char} {c : Char}

theorem takeString?_plain (unquoted : c ≠ form.quote) (unescaped : form.escapes = true → c ≠ '\\')
    (visible : isBareControl c = false) (inside : c ≠ '\n') :
    takeString? form (fuel + 1) acc (c :: r) = takeString? form fuel (c :: acc) r := by
  rw [takeString?, if_neg unquoted, if_neg (fun h => unescaped h.1 h.2),
    takeNewline?_eq_none visible inside]
  simp [visible, inside]

theorem takeString?_newline (multiline : form.multiline = true) (hq : form.quote ≠ '\n') :
    takeString? form (fuel + 1) acc ('\n' :: r) = takeString? form fuel ('\n' :: acc) r := by
  rw [takeString?, if_neg hq.symm, if_neg (by simp), multiline]
  rfl

theorem takeString?_escape (hq : form.quote ≠ '\\') (escapes : form.escapes = true)
    {rest : List Char} (h : takeEscape? r = some (c, rest)) :
    takeString? form (fuel + 1) acc ('\\' :: r) = takeString? form fuel (c :: acc) rest := by
  rw [takeString?, if_neg hq.symm, if_pos ⟨escapes, rfl⟩, takeContinuation?_of_escape h, ite_self, h]
  rfl

theorem takeString?_quote (multiline : form.multiline = true)
    (few : ((form.quote :: r).takeWhile (· == form.quote)).length < 3) :
    takeString? form (fuel + 1) acc (form.quote :: r) = takeString? form fuel (form.quote :: acc) r := by
  rw [takeString?, if_pos rfl, if_pos multiline]
  exact if_pos few

theorem takeWhile_replicate {q : Char} {rest : List Char} (h : rest.head? ≠ some q) (k : Nat) :
    (List.replicate k q ++ rest).takeWhile (· == q) = List.replicate k q := by
  induction k with
  | zero =>
    cases rest with
    | nil => rfl
    | cons c r =>
      have hc : c ≠ q := fun he => h (congrArg some he)
      simp [hc]
  | succ k ih =>
    rw [List.replicate_succ, List.cons_append, List.takeWhile_cons, if_pos (beq_self_eq_true q), ih]

/-- The text ends where there are enough quotes; those before the last ones are part of it. -/
theorem takeString?_closing {rest : List Char} (hr : form.multiline = true → rest.head? ≠ some form.quote)
    {k : Nat} (hk : k ≤ form.room) :
    takeString? form (fuel + 1) acc (List.replicate k form.quote ++ form.closing ++ rest) =
      some (String.ofList (acc.reverse ++ List.replicate k form.quote), rest) := by
  unfold Form.closing
  rw [List.replicate_append_replicate]
  cases hm : form.multiline with
  | false =>
    rw [Form.room, hm] at hk
    obtain rfl : k = 0 := Nat.le_zero.mp hk
    rw [Form.room, hm]
    simp [takeString?, hm]
  | true =>
    rw [Form.room, hm, if_pos rfl] at hk ⊢
    have hrun := takeWhile_replicate (hr hm) (k + (2 + 1))
    have hextra : min (k + 3 - 3) 2 = k := by omega
    have hdrop : ((form.quote :: List.replicate (k + 2) form.quote) ++ rest).drop (3 + k) = rest := by
      rw [← List.replicate_succ, List.drop_append_of_le_length (by simp; omega)]
      simp [Nat.add_comm 3 k]
    rw [← Nat.add_assoc, List.replicate_succ, List.cons_append] at hrun ⊢
    rw [takeString?, if_pos rfl, if_pos hm, hrun]
    simp only [List.length_cons, List.length_replicate, hextra]
    rw [if_neg (by omega), ← List.cons_append, hdrop]

end

variable {form : Form}

/-- A text is nothing but quotes, or the quotes in front of it end in it. -/
theorem Spells.front {n : Nat} {text content : List Char} (h : Spells form n text content)
    (hn : form.quote ≠ '\n') (hb : form.quote ≠ '\\') :
    (∃ k ≤ n, text = List.replicate k form.quote ∧ content = List.replicate k form.quote) ∨
      ∀ more, ((text ++ more).takeWhile (· == form.quote)).length ≤ n := by
  induction h with
  | nil n => exact .inl ⟨0, Nat.zero_le n, rfl, rfl⟩
  | quote more ih =>
    rcases ih with ⟨k, hk, rfl, rfl⟩ | ih
    · exact .inl ⟨k + 1, Nat.succ_le_succ hk, rfl, rfl⟩
    · refine .inr fun more => ?_
      rw [List.cons_append, List.takeWhile_cons, if_pos (beq_self_eq_true _), List.length_cons]
      exact Nat.succ_le_succ (ih more)
  | plain unquoted _ _ _ _ _ => exact .inr fun more => by simp [unquoted]
  | newline _ _ _ => exact .inr fun more => by simp [hn.symm]
  | escape _ _ _ _ _ => exact .inr fun more => by simp [hb.symm]

/-- **The reader makes of a text what it stands for.** -/
theorem takeString?_of_spells (hn : form.quote ≠ '\n') (hb : form.quote ≠ '\\') {n : Nat}
    {text content rest : List Char} (h : Spells form n text content)
    (hr : form.multiline = true → rest.head? ≠ some form.quote) :
    ∀ {fuel : Nat} {acc : List Char}, n ≤ form.room → text.length < fuel →
      takeString? form fuel acc (text ++ form.closing ++ rest) =
        some (String.ofList (acc.reverse ++ content), rest) := by
  induction h with
  | nil n =>
    rintro (_ | fuel) acc hroom hf
    · cases hf
    · exact takeString?_closing hr (Nat.zero_le _)
  | @quote n text content more ih =>
    rintro (_ | fuel) acc hroom hf
    · cases hf
    have hroom' : n ≤ form.room := Nat.le_of_succ_le hroom
    -- The quotes at the end are taken with the closing ones, all others one by one.
    rcases more.front hn hb with ⟨k, hk, rfl, rfl⟩ | few
    · exact takeString?_closing (k := k + 1) hr ((Nat.succ_le_succ hk).trans hroom)
    · have hm : form.multiline = true := by
        by_contra hm
        rw [Form.room, if_neg hm] at hroom
        cases hroom
      have hlt : ((form.quote :: (text ++ form.closing ++ rest)).takeWhile (· == form.quote)).length < 3 := by
        rw [Form.room, if_pos hm] at hroom
        have := few (form.closing ++ rest)
        rw [← List.append_assoc] at this
        rw [List.takeWhile_cons, if_pos (beq_self_eq_true _), List.length_cons]
        omega
      rw [List.cons_append, List.cons_append, takeString?_quote hm hlt,
        ih hroom' (Nat.lt_of_succ_lt_succ hf)]
      simp
  | plain unquoted unescaped visible inside more ih =>
    rintro (_ | fuel) acc hroom hf
    · cases hf
    rw [List.cons_append, List.cons_append, takeString?_plain unquoted unescaped visible inside,
      ih le_rfl (Nat.lt_of_succ_lt_succ hf)]
    simp
  | newline multiline more ih =>
    rintro (_ | fuel) acc hroom hf
    · cases hf
    rw [List.cons_append, List.cons_append, takeString?_newline multiline hn,
      ih le_rfl (Nat.lt_of_succ_lt_succ hf)]
    simp
  | @escape n c code text content escapes stands more ih =>
    rintro (_ | fuel) acc hroom hf
    · cases hf
    have hlen : text.length < fuel := by
      rw [List.length_cons, List.length_append] at hf
      omega
    have hs := stands (text ++ form.closing ++ rest)
    rw [List.append_assoc, ← List.append_assoc code] at hs
    rw [List.cons_append, List.cons_append, List.append_assoc, takeString?_escape hb escapes hs,
      ← List.append_assoc, ih le_rfl hlen]
    simp

/-! ## Writing between quotes -/

theorem lt_of_isBareControl {c : Char} (h : isBareControl c = true) : c.toNat < 128 := by
  simp only [isBareControl, Bool.or_eq_true, Bool.and_eq_true, decide_eq_true_eq, beq_iff_eq] at h
  omega

theorem numeral_upperHex4 : ∀ n < 128,
    Text.numeral 16 (upperHex4 n) = n ∧ (upperHex4 n).all Text.isHexDigit = true := by
  decide

theorem takeCodePoint?_upperHex4 {c : Char} (h : c.toNat < 128) (rest : List Char) :
    takeCodePoint? 4 (upperHex4 c.toNat ++ rest) = some (c, rest) := by
  obtain ⟨hv, hd⟩ := numeral_upperHex4 c.toNat h
  have ht : (upperHex4 c.toNat ++ rest).take 4 = upperHex4 c.toNat := rfl
  have hl : (upperHex4 c.toNat).length = 4 := rfl
  have hr : (upperHex4 c.toNat ++ rest).drop 4 = rest := rfl
  simp only [takeCodePoint?, ht, hl, hd, hv, hr, Char.ofNat_toNat]
  rw [if_pos ⟨trivial, trivial, .inl (by omega)⟩]

/-- A character stands for itself as `escaped` spells it. -/
theorem Spells.escaped {n : Nat} {c : Char} {text content : List Char} (he : form.escapes = true)
    (hq : form.quote = '"') (h : Spells form form.room text content) :
    Spells form n (escaped c ++ text) (c :: content) := by
  unfold Toml.escaped
  split
  · exact .escape ['b'] he (fun rest => rfl) h
  · exact .escape ['t'] he (fun rest => rfl) h
  · exact .escape ['n'] he (fun rest => rfl) h
  · exact .escape ['f'] he (fun rest => rfl) h
  · exact .escape ['r'] he (fun rest => rfl) h
  · exact .escape ['\\'] he (fun rest => rfl) h
  · exact .escape ['"'] he (fun rest => rfl) h
  · rename_i hnewline _ _ hbackslash hquote
    split
    · rename_i hc
      exact .escape ('u' :: upperHex4 c.toNat) he
        (fun rest => takeCodePoint?_upperHex4 (lt_of_isBareControl hc) rest) h
    · rename_i hc
      exact .plain (hq ▸ hquote) (fun _ => hbackslash) (Bool.eq_false_iff.mpr hc) hnewline h

theorem spells_escaped (he : form.escapes = true) (hq : form.quote = '"') (s : List Char) :
    ∀ n, Spells form n (s.flatMap Toml.escaped) s := by
  induction s with
  | nil => exact .nil
  | cons c s ih =>
    intro n
    rw [List.flatMap_cons]
    exact (ih _).escaped he hq

/-- The third quote of a run is escaped. -/
theorem spells_escapedLines (hm : form.multiline = true) (he : form.escapes = true)
    (hq : form.quote = '"') (s : List Char) :
    ∀ run ≤ 2, Spells form (2 - run) (escapedLines run s) s := by
  have hroom : form.room = 2 := if_pos hm
  induction s with
  | nil => exact fun run _ => .nil _
  | cons c s ih =>
    intro run hrun
    have hfresh : Spells form form.room (escapedLines 0 s) s := hroom ▸ ih 0 (Nat.zero_le 2)
    unfold escapedLines
    split
    · rename_i hc
      exact hc ▸ .newline hm hfresh
    · split
      · rename_i hc
        split
        · exact hfresh.escaped he hq
        · have hsucc : 2 - run = 2 - (run + 1) + 1 := by omega
          rw [hsucc, hc, ← hq]
          exact .quote (ih (run + 1) (by omega))
      · exact hfresh.escaped he hq

/-- Visible characters stand for themselves where there are no escapes. -/
theorem spells_literal (he : form.escapes = false) {s : List Char}
    (visible : ∀ c ∈ s, isBareControl c = false) (inside : '\n' ∉ s) (unquoted : form.quote ∉ s) :
    ∀ n, Spells form n s s := by
  induction s with
  | nil => exact .nil
  | cons c s ih =>
    intro n
    rw [List.forall_mem_cons] at visible
    rw [List.mem_cons, not_or] at inside unquoted
    exact .plain (Ne.symm unquoted.1) (by simp [he]) visible.1 (Ne.symm inside.1)
      (ih visible.2 inside.2 unquoted.2 _)

theorem hasRun3_tail {q a : Char} {s : List Char} (h : hasRun3 q (a :: s) = false) :
    hasRun3 q s = false := by
  match s with
  | [] => rfl
  | [b] => rfl
  | b :: c :: r =>
    rw [hasRun3, Bool.or_eq_false_iff] at h
    exact h.2

theorem hasRun3_append {q : Char} {before s : List Char} (h : hasRun3 q (before ++ s) = false) :
    hasRun3 q s = false := by
  induction before with
  | nil => exact h
  | cons a before ih => exact ih (hasRun3_tail h)

/-- Lines stand for themselves, and so do their quotes if there are never three together. -/
theorem spells_literalLines (hm : form.multiline = true) (he : form.escapes = false) {s : List Char}
    (visible : ∀ c ∈ s, isBareControl c = false) :
    ∀ run ≤ 2, hasRun3 form.quote (List.replicate run form.quote ++ s) = false →
      Spells form (2 - run) s s := by
  have hroom : form.room = 2 := if_pos hm
  induction s with
  | nil => exact fun run _ _ => .nil _
  | cons c s ih =>
    intro run hrun hs
    rw [List.forall_mem_cons] at visible
    have hfresh : Spells form form.room s s :=
      hroom ▸ ih visible.2 0 (Nat.zero_le 2) (hasRun3_tail (hasRun3_append hs))
    by_cases hq : c = form.quote
    · subst hq
      have hlt : run < 2 := by
        by_contra hlt
        obtain rfl : run = 2 := by omega
        rw [List.replicate_succ, List.replicate_one, List.cons_append, List.cons_append, List.nil_append,
          hasRun3] at hs
        simp at hs
      have hsucc : 2 - run = 2 - (run + 1) + 1 := by omega
      rw [hsucc]
      refine .quote (ih visible.2 (run + 1) (by omega) ?_)
      rw [List.replicate_succ', List.append_assoc]
      exact hs
    · by_cases hn : c = '\n'
      · exact hn ▸ .newline hm hfresh
      · exact .plain hq (by simp [he]) visible.1 hn hfresh

/-! ## Strings -/

/-- The forms are two for each quote, and escapes count between double quotes. -/
def formOf (q : Char) (multiline : Bool) : Form := ⟨q, q == '"', multiline⟩

@[simp]
theorem formOf_quote (q : Char) (multiline : Bool) : (formOf q multiline).quote = q := rfl

theorem takeLine?_of_spells {q : Char} (hq : q = '"' ∨ q = '\'') {text content : List Char}
    (h : Spells (formOf q false) 0 text content) (rest : List Char) :
    takeLine? (q :: text ++ [q] ++ rest) = some (String.ofList content, rest) := by
  have hlen : text.length < (q :: text ++ [q] ++ rest).length := by
    simp only [List.length_append, List.length_cons]
    omega
  have hr : (formOf q false).multiline = true → rest.head? ≠ some (formOf q false).quote := nofun
  rcases hq with rfl | rfl
  · exact takeString?_of_spells (by decide) (by decide) h hr le_rfl hlen
  · exact takeString?_of_spells (by decide) (by decide) h hr le_rfl hlen

theorem Spells.head_ne_quote {text content : List Char} (h : Spells form 0 text content)
    (hn : form.quote ≠ '\n') (hb : form.quote ≠ '\\') : text.head? ≠ some form.quote := by
  cases h with
  | nil => simp
  | plain unquoted => simpa using unquoted
  | newline => simpa using hn.symm
  | escape => simpa using hb.symm

theorem takeText?_of_spells {q : Char} (hq : q = '"' ∨ q = '\'') {text content rest : List Char}
    (h : Spells (formOf q false) 0 text content) (hr : rest.head? ≠ some q) :
    takeText? (q :: text ++ [q] ++ rest) = some (String.ofList content, rest) := by
  rw [← takeLine?_of_spells hq h rest]
  have hhead : text.head? ≠ some q := by
    rcases hq with rfl | rfl
    · exact h.head_ne_quote (by decide) (by decide)
    · exact h.head_ne_quote (by decide) (by decide)
  have hthree (r : List Char) : q :: text ++ [q] ++ rest ≠ q :: q :: q :: r := by
    intro heq
    cases text with
    | nil =>
      simp only [List.cons_append, List.nil_append, List.cons.injEq] at heq
      rw [heq.2.2] at hr
      exact absurd rfl hr
    | cons c text =>
      simp only [List.cons_append, List.cons.injEq] at heq
      exact hhead (congrArg some heq.2.1)
  unfold takeText?
  split
  · rename_i r heq
    have hq : q = '"' := (List.cons.inj heq).1
    exact absurd heq (hq ▸ hthree r)
  · rename_i r heq
    have hq : q = '\'' := (List.cons.inj heq).1
    exact absurd heq (hq ▸ hthree r)
  · rfl

/-- A text without line breaks does not begin with one. -/
theorem Spells.takeNewline?_eq_none {n : Nat} {text content : List Char}
    (h : Spells form n text content) (hq : form.quote = '"' ∨ form.quote = '\'')
    (inside : '\n' ∉ content) (more : List Char) : takeNewline? (text ++ form.quote :: more) = none := by
  have hquote (r : List Char) : takeNewline? (form.quote :: r) = none := by
    rcases hq with hq | hq <;> rw [hq] <;> rfl
  cases h with
  | nil => exact hquote more
  | quote => exact hquote _
  | plain _ _ visible hn _ => exact Toml.takeNewline?_eq_none visible hn _
  | newline => exact absurd List.mem_cons_self inside
  | escape => rfl

theorem takeText?_quoteLines {q : Char} (hq : q = '"' ∨ q = '\'') {s body rest : List Char}
    (h : Spells (formOf q true) 2 body s) (hr : rest.head? ≠ some q) :
    takeText? (quoteLines q s body ++ rest) = some (String.ofList s, rest) := by
  have hbody : (takeNewline? ((if s.contains '\n' then ['\n'] else []) ++ body ++ [q, q, q] ++ rest)).getD
      ((if s.contains '\n' then ['\n'] else []) ++ body ++ [q, q, q] ++ rest) = body ++ [q, q, q] ++ rest := by
    by_cases hs : '\n' ∈ s
    · rw [if_pos (by simpa using hs)]
      rfl
    · have hnone := h.takeNewline?_eq_none hq hs ([q, q] ++ rest)
      rw [if_neg (by simpa using hs), List.nil_append, List.append_assoc]
      exact congrArg (fun r => Option.getD r _) hnone
  have hlen : body.length < (quoteLines q s body ++ rest).length := by
    simp only [quoteLines, List.length_append, List.length_cons]
    omega
  have hread : ∀ fuel, body.length < fuel → takeString? (formOf q true) fuel [] (body ++ [q, q, q] ++ rest) =
      some (String.ofList s, rest) := by
    intro fuel hf
    rcases hq with rfl | rfl
    · exact takeString?_of_spells (by decide) (by decide) h (fun _ => hr) le_rfl hf
    · exact takeString?_of_spells (by decide) (by decide) h (fun _ => hr) le_rfl hf
  rw [← hread _ hlen, ← hbody]
  rcases hq with rfl | rfl
  · rfl
  · rfl

theorem visible_of_clean {s : List Char} (h : (!s.any isBareControl) = true) :
    ∀ c ∈ s, isBareControl c = false := by
  simpa using h

/-- **A quoted text reads back**, in whatever form it is quoted. -/
theorem takeText?_quote (s : List Char) {rest : List Char} (hd : rest.head? ≠ some '"')
    (hs : rest.head? ≠ some '\'') : takeText? (quote s ++ rest) = some (String.ofList s, rest) := by
  have hbasic : takeText? (quoteBasic s ++ rest) = some (String.ofList s, rest) :=
    takeText?_of_spells (.inl rfl) (spells_escaped rfl rfl s 0) hd
  have hlines : takeText? (quoteLines '"' s (escapedLines 0 s) ++ rest) = some (String.ofList s, rest) :=
    takeText?_quoteLines (.inl rfl) (spells_escapedLines rfl rfl rfl s 0 (Nat.zero_le 2)) hd
  unfold quote
  dsimp only
  split
  · exact hbasic
  · split
    · rename_i h
      obtain ⟨clean, unquoted, inside⟩ := h
      refine takeText?_of_spells (.inr rfl) (spells_literal rfl (visible_of_clean clean) ?_ ?_ 0) hs
      · simpa using inside
      · simpa using unquoted
    · split
      · exact hlines
      · split
        · rename_i h
          obtain ⟨clean, three⟩ := h
          refine takeText?_quoteLines (.inr rfl) ?_ hs
          exact spells_literalLines rfl rfl (visible_of_clean clean) 0 (Nat.zero_le 2) (by simpa using three)
        · split
          · exact hlines
          · exact hbasic

/-! ## Keys -/

theorem takeSimpleKey?_bare {s rest : List Char} (hne : s ≠ []) (hs : ∀ c ∈ s, isBareKeyChar c = true)
    (hr : ∀ c ∈ rest.head?, isBareKeyChar c = false) :
    takeSimpleKey? (s ++ rest) = some (String.ofList s, rest) := by
  have hspan := Text.span_eq hs hr
  obtain ⟨c, s, rfl⟩ := List.exists_cons_of_ne_nil hne
  have hc : isBareKeyChar c = true := hs c List.mem_cons_self
  unfold takeSimpleKey?
  split
  · rename_i heq
    cases heq
    cases hc
  · rename_i heq
    cases heq
    cases hc
  · rw [hspan]
    rfl

/-- **A key reads back**, before anything that is not part of a bare key. -/
theorem takeSimpleKey?_quoteKey (s : List Char) {rest : List Char}
    (hr : ∀ c ∈ rest.head?, isBareKeyChar c = false) :
    takeSimpleKey? (quoteKey s ++ rest) = some (String.ofList s, rest) := by
  have hbasic : takeSimpleKey? (quoteBasic s ++ rest) = some (String.ofList s, rest) :=
    takeLine?_of_spells (.inl rfl) (spells_escaped rfl rfl s 0) rest
  unfold quoteKey
  dsimp only
  split
  · rename_i h
    refine takeSimpleKey?_bare ?_ (by simpa using h.2) hr
    simpa using h.1
  · split
    · exact hbasic
    · split
      · rename_i h
        obtain ⟨clean, unquoted⟩ := h
        rw [Bool.and_eq_true] at clean
        refine takeLine?_of_spells (.inr rfl) (spells_literal rfl (visible_of_clean clean.1) ?_ ?_ 0) rest
        · simpa using clean.2
        · simpa using unquoted
      · exact hbasic

end BareMetal.Toml
