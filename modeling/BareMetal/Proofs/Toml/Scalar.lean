import BareMetal.Proofs.Text.Numeral
import BareMetal.Proofs.Toml.Text
import BareMetal.Toml.Printer

/-!
# Plain values read back

Main statement: `takeValue?_text`, what is written on the line of a key is taken
off it again. Decimal digits are no date, and the first of them is not a zero.
-/

namespace BareMetal.Toml

/-! ## Digits -/

section

variable {s : List Char} (hs : ∀ c ∈ s, c.isDigit = true)
include hs

theorem numeral_eq_ofDigitChars : Text.numeral 10 s = Nat.ofDigitChars 10 s 0 := by
  suffices ∀ init : Nat, s.foldl (fun n c => n * 10 + (Text.hexValue? c).getD 0) init =
      Nat.ofDigitChars 10 s init from this 0
  induction s with
  | nil => exact fun init => rfl
  | cons c s ih =>
    intro init
    rw [List.forall_mem_cons] at hs
    have hc : Text.hexValue? c = some (c.toNat - 48) := if_pos hs.1
    rw [List.foldl_cons, hc, ih hs.2, Nat.ofDigitChars_cons, Nat.mul_comm 10]
    rfl

theorem decimalDigits?_digits (hne : s ≠ []) : decimalDigits? s = some s := by
  unfold decimalDigits?
  induction s with
  | nil => exact absurd rfl hne
  | cons c s ih =>
    rw [List.forall_mem_cons] at hs
    cases s with
    | nil => simp [grouped?, hs.1]
    | cons d s =>
      have hd : d ≠ '_' := by
        rintro rfl
        exact absurd (hs.2 '_' List.mem_cons_self) (by decide)
      rw [grouped?, if_pos hs.1, ih hs.2 (List.cons_ne_nil d s)]
      · rfl
      · simp
      · rintro _ heq
        exact hd (List.cons.inj heq).1

theorem splitSign_digits : splitSign s = (false, s) := by
  unfold splitSign
  split
  · exact absurd (hs '-' List.mem_cons_self) (by decide)
  · exact absurd (hs '+' List.mem_cons_self) (by decide)
  · rfl

omit hs in
theorem integer?_of_lead (hlead : ∀ c r, s ≠ '0' :: c :: r) : integer? s = (do
    let (negative, r) := splitSign s
    let n : Int := Text.numeral 10 (← integerDigits? r)
    inRange (if negative then -n else n)) := by
  unfold integer?
  split
  · exact absurd rfl (hlead _ _)
  · exact absurd rfl (hlead _ _)
  · exact absurd rfl (hlead _ _)
  · rfl

/-- Digits without a leading zero are an integer, if it is in range. -/
theorem integer?_digits (hne : s ≠ []) (hlead : ∀ c r, s ≠ '0' :: c :: r) :
    integer? s = inRange (Nat.ofDigitChars 10 s 0 : Int) := by
  have hdigits : integerDigits? s = some s := by
    rw [integerDigits?, decimalDigits?_digits hs hne]
    split
    · rename_i heq
      exact absurd (Option.some.inj heq) (hlead _ _)
    · rfl
  -- For any range: the bounds of this one are too large to be unfolded.
  have hread (range : Int → Option Int) : (do
      let (negative, r) := splitSign s
      let n : Int := Text.numeral 10 (← integerDigits? r)
      range (if negative then -n else n)) = range (Nat.ofDigitChars 10 s 0 : Int) := by
    rw [splitSign_digits hs]
    simp [hdigits, numeral_eq_ofDigitChars hs]
  exact (integer?_of_lead hlead).trans (hread inRange)

theorem takeSign?_digits {c : Char} (hc : c.isDigit = false) : takeSign? c s = none := by
  unfold takeSign?
  split
  · refine if_neg ?_
    rintro rfl
    exact absurd (hs _ List.mem_cons_self) (by simp [hc])
  · rfl

theorem datetime?_digits : datetime? s = none := by
  have hnumber {n v : Nat} {r : List Char} (h : takeNumber? n s = some (v, r)) (c : Char)
      (hc : c.isDigit = false) : takeSign? c r = none := by
    simp only [takeNumber?, Option.ite_none_right_eq_some, Option.some.injEq, Prod.mk.injEq] at h
    rw [← h.2.2]
    exact takeSign?_digits (fun d hd => hs d (List.mem_of_mem_drop hd)) hc
  have hdate : takeDate? s = none := by
    unfold takeDate?
    cases h : takeNumber? 4 s with
    | none => rfl
    | some found => simp [hnumber h '-' (by decide)]
  have htime : takeTime? s = none := by
    unfold takeTime?
    cases h : takeNumber? 2 s with
    | none => rfl
    | some found => simp [hnumber h ':' (by decide)]
  rw [datetime?, hdate, htime]

end

/-! ## Counts -/

theorem integer?_toDigits {n : Nat} (hn : n < 9223372036854775808) :
    integer? (Nat.toDigits 10 n) = some (n : Int) := by
  rw [integer?_digits (Text.isDigit_toDigits n) Nat.toDigits_ne_nil (Text.toDigits_ne_zero_cons n),
    Nat.ofDigitChars_ten_toDigits, inRange, if_pos]
  omega

theorem scalar?_toDigits {n : Nat} (hn : n < 9223372036854775808) :
    scalar? (Nat.toDigits 10 n) = some (.integer n) := by
  have hd := Text.isDigit_toDigits n
  have hword {c : Char} (hc : c.isDigit = false) (w : List Char) : Nat.toDigits 10 n ≠ c :: w := by
    intro heq
    have := hd c (by simp [heq])
    rw [hc] at this
    cases this
  rw [scalar?, if_neg (hword (by decide) _), if_neg (hword (by decide) _), datetime?_digits hd,
    integer?_toDigits hn]

/-! ## Values on the line of a key -/

def Plain.value : Plain → Value
  | string s => .string s
  | count n => .integer n
  | boolean b => .boolean b

/-- A count has a spelling if it is an integer of 64 bits. -/
def Plain.InRange : Plain → Prop
  | count n => n < 9223372036854775808
  | _ => True

theorem takeScalar_line {s : List Char} (hs : ∀ c ∈ s, isScalarChar c = true) (rest : List Char) :
    takeScalar (s ++ '\n' :: rest) = (s, '\n' :: rest) := by
  have hspan : (s ++ '\n' :: rest).span isScalarChar = (s, '\n' :: rest) :=
    Text.span_eq hs fun c hc => by
      cases hc
      decide
  rw [takeScalar, hspan]
  rfl

theorem quote_head (s : List Char) : ∃ q r, quote s = q :: r ∧ (q = '"' ∨ q = '\'') := by
  unfold quote
  dsimp only
  split
  · exact ⟨_, _, rfl, .inl rfl⟩
  · split
    · exact ⟨_, _, rfl, .inr rfl⟩
    · split
      · exact ⟨_, _, rfl, .inl rfl⟩
      · split
        · exact ⟨_, _, rfl, .inr rfl⟩
        · split
          · exact ⟨_, _, rfl, .inl rfl⟩
          · exact ⟨_, _, rfl, .inl rfl⟩

theorem takeValue?_scalar {s : List Char} {v : Value} (hs : ∀ c ∈ s, isScalarChar c = true)
    (hne : s ≠ []) (hv : scalar? s = some v) (fuel depth : Nat) (rest : List Char) :
    takeValue? (fuel + 1) depth (s ++ '\n' :: rest) = some (v, '\n' :: rest) := by
  have ht := takeScalar_line hs rest
  obtain ⟨c, s, rfl⟩ := List.exists_cons_of_ne_nil hne
  have hc : isScalarChar c = true := hs c List.mem_cons_self
  have hother {d : Char} (hd : isScalarChar d = false) : c ≠ d := by
    rintro rfl
    rw [hc] at hd
    cases hd
  rw [List.cons_append] at ht ⊢
  rw [takeValue?, if_neg (not_or.mpr ⟨hother (by decide), hother (by decide)⟩),
    if_neg (hother (by decide)), if_neg (hother (by decide)), ht]
  dsimp only
  rw [hv]
  rfl

/-- **A plain value is taken off its line.** -/
theorem takeValue?_text {p : Plain} (hp : p.InRange) (fuel depth : Nat) (rest : List Char) :
    takeValue? (fuel + 1) depth (p.text ++ '\n' :: rest) = some (p.value, '\n' :: rest) := by
  cases p with
  | string s =>
    have htext : takeText? (quote s.toList ++ '\n' :: rest) = some (s, '\n' :: rest) := by
      rw [takeText?_quote s.toList (by simp) (by simp), String.ofList_toList]
    obtain ⟨q, r, hquote, hq⟩ := quote_head s.toList
    rw [hquote, List.cons_append] at htext
    rw [Plain.text, hquote, List.cons_append, takeValue?, if_pos hq, htext]
    rfl
  | count n =>
    refine takeValue?_scalar (fun c hc => ?_) Nat.toDigits_ne_nil (scalar?_toDigits hp) fuel depth rest
    have hdigit := Text.isDigit_toDigits n c hc
    simp [isScalarChar, Char.isAlphanum, hdigit]
  | boolean b =>
    cases b with
    | true => exact takeValue?_scalar (List.all_eq_true.mp rfl) (by decide) rfl fuel depth rest
    | false => exact takeValue?_scalar (List.all_eq_true.mp rfl) (by decide) rfl fuel depth rest

end BareMetal.Toml
