import BareMetal.Url.Punycode
import Mathlib.Data.List.Infix
import Mathlib.Data.List.TakeWhile
import Mathlib.Tactic.Ring

/-!
# Punycode can be read back

`decode?_encode`. The writer and the reader go through the same states: after each
number the reader has the part of the label that the writer has handled, and what
the writer has counted since then is the way from the place of the reader to its
own (`Leads`).
-/

namespace BareMetal.Punycode

/-! ## Digits -/

def IsDigit (c : Char) : Prop := ∃ d < 36, c = digit d

theorem digitValue?_digit {d : Nat} (h : d < 36) : digitValue? (digit d) = some d := by
  have hall : ∀ d < 36, digitValue? (digit d) = some d := by decide
  exact hall d h

theorem IsDigit.of_all {p : Char → Prop} (h : ∀ d < 36, p (digit d)) {c : Char} (hc : IsDigit c) : p c := by
  obtain ⟨d, hd, rfl⟩ := hc
  exact h d hd

theorem IsDigit.ascii {c : Char} (h : IsDigit c) : c.toNat < 128 :=
  h.of_all (p := fun c => c.toNat < 128) (by decide)

theorem IsDigit.ne_hyphen {c : Char} (h : IsDigit c) : c ≠ '-' := h.of_all (p := (· ≠ '-')) (by decide)

theorem threshold_pos (bias k : Nat) : 1 ≤ threshold bias k := Nat.le_max_left _ _

theorem threshold_le (bias k : Nat) : threshold bias k ≤ 26 := by
  unfold threshold
  omega

theorem digits_ne_nil (bias fuel k n : Nat) : digits bias fuel k n ≠ [] := by
  cases fuel with
  | zero => simp [digits]
  | succ fuel =>
    rw [digits]
    split <;> simp

section
variable {bias fuel : Nat}

/-- At each place at least ten digits say that another one follows. -/
theorem digits_step (bias k : Nat) {n : Nat} (h : n < 10 ^ (fuel + 1)) :
    (n - threshold bias k) / (36 - threshold bias k) < 10 ^ fuel := by
  have ht := threshold_le bias k
  rw [Nat.div_lt_iff_lt_mul (by omega)]
  have hle : 10 ^ fuel * 10 ≤ 10 ^ fuel * (36 - threshold bias k) := Nat.mul_le_mul_left _ (by omega)
  rw [Nat.pow_succ] at h
  omega

theorem isDigit_of_mem_digits {c : Char} : ∀ {k n : Nat}, n < 10 ^ fuel → c ∈ digits bias fuel k n → IsDigit c := by
  induction fuel with
  | zero =>
    intro k n h hc
    rw [digits, List.mem_singleton] at hc
    exact ⟨n, by omega, hc⟩
  | succ fuel ih =>
    intro k n h hc
    have hpos := threshold_pos bias k
    have hle := threshold_le bias k
    rw [digits] at hc
    split at hc
    · rw [List.mem_singleton] at hc
      exact ⟨n, by omega, hc⟩
    · rcases List.mem_cons.mp hc with rfl | hc
      · have hmod := Nat.mod_lt (n - threshold bias k) (y := 36 - threshold bias k) (by omega)
        exact ⟨_, by omega, rfl⟩
      · exact ih (digits_step _ _ h) hc

theorem number_digits : ∀ {k n : Nat} (w acc : Nat) (rest : List Char), n < 10 ^ fuel →
    number bias w k acc (digits bias fuel k n ++ rest) = some (acc + n * w, rest) := by
  induction fuel with
  | zero =>
    intro k n w acc rest h
    have hn : n = 0 := by omega
    have hpos : 0 < threshold bias k := threshold_pos bias k
    simp [digits, number, hn, digitValue?_digit, hpos]
  | succ fuel ih =>
    intro k n w acc rest h
    have hpos := threshold_pos bias k
    have hle := threshold_le bias k
    have hstep := digits_step bias k h
    rw [digits]
    by_cases hn : n < threshold bias k
    · simp [number, digitValue?_digit (show n < 36 by omega), hn]
    · have hmod := Nat.mod_lt (n - threshold bias k) (y := 36 - threshold bias k) (by omega)
      have hdiv := Nat.div_add_mod (n - threshold bias k) (36 - threshold bias k)
      generalize (n - threshold bias k) / (36 - threshold bias k) = q at hstep hdiv ⊢
      generalize (n - threshold bias k) % (36 - threshold bias k) = r at hmod hdiv ⊢
      have hvalue : n = threshold bias k + r + q * (36 - threshold bias k) := by
        rw [Nat.mul_comm] at hdiv
        omega
      rw [if_neg hn, List.cons_append, number, digitValue?_digit (by omega), Option.bind_eq_bind, Option.bind_some]
      dsimp only
      rw [if_neg (by omega), ih _ _ _ hstep]
      rw [Option.some.injEq, Prod.mk.injEq]
      refine ⟨?_, rfl⟩
      generalize 36 - threshold bias k = u at hvalue ⊢
      rw [hvalue]
      ring

end

/-! ## Reading what was written -/

/-- What a reader of `text` does that has `label` so far: insert the character of code `m` at
`place`. -/
theorem insertions_digits {bias delta n i m place : Nat} {first : Bool} {label : List Char}
    (hdelta : delta < 10 ^ 64) (hnm : n ≤ m) (hm : m < 0xd800 ∨ (0xdfff < m ∧ m < 0x110000))
    (hplace : place ≤ label.length) (h : i + delta = (m - n) * (label.length + 1) + place)
    (fuel : Nat) (rest : List Char) :
    insertions (fuel + 1) n i bias first label (digits bias 64 36 delta ++ rest) =
      insertions fuel m (place + 1) (adapt delta (label.length + 1) first) false
        (label.take place ++ Char.ofNat m :: label.drop place) rest := by
  have hempty : (digits bias 64 36 delta ++ rest).isEmpty = false := by
    simp [digits_ne_nil]
  have hquot : (i + delta) / (label.length + 1) = m - n := by
    rw [h, Nat.mul_comm, Nat.mul_add_div (by omega), Nat.div_eq_of_lt (by omega), Nat.add_zero]
  have hrest : (i + delta) % (label.length + 1) = place := by
    rw [h, Nat.mul_comm, Nat.mul_add_mod, Nat.mod_eq_of_lt (by omega)]
  have hcode : n + (m - n) = m := by omega
  rw [insertions, hempty, number_digits _ _ _ hdelta]
  simp [hquot, hrest, hcode, hm]

/-- After what `st` has written behind `head`, the reader is at the place `i` for characters of
code `n`, and has `label`. -/
structure Leads (head basic : List Char) (st : State) (n i : Nat) (label : List Char) : Prop where
  handled : st.handled = label.length
  written : ∃ (text : List Char) (steps : Nat), st.output = head ++ text ∧ (∀ c ∈ text, IsDigit c) ∧
    steps ≤ text.length ∧ ∀ fuel rest, insertions (fuel + steps) 128 0 72 true basic (text ++ rest) =
      insertions fuel n i st.bias st.first label rest

/-- The most characters for which the fuel of `digits` is known to suffice. -/
def sizeLimit : Nat := 10 ^ 50

section
variable {head basic label : List Char} {st : State} {n i : Nat}

theorem Leads.start {basic head : List Char} :
    Leads head basic ⟨0, 72, basic.length, true, head⟩ 128 0 basic :=
  ⟨rfl, [], 0, by simp, nofun, Nat.le_refl _, fun _ _ => rfl⟩

theorem Leads.count (h : Leads head basic st n i label) (delta : Nat) :
    Leads head basic { st with delta } n i label := ⟨h.handled, h.written⟩

theorem code_valid (c : Char) : c.toNat < 0xd800 ∨ (0xdfff < c.toNat ∧ c.toNat < 0x110000) := c.valid

theorem Leads.insert (h : Leads head basic st n i label) {c : Char} {place : Nat} (hn : n ≤ c.toNat)
    (hsize : label.length < sizeLimit) (hplace : place ≤ label.length)
    (hway : i + st.delta = (c.toNat - n) * (label.length + 1) + place) :
    Leads head basic
      { delta := 0
        bias := adapt st.delta (st.handled + 1) st.first
        handled := st.handled + 1
        first := false
        output := st.output ++ digits st.bias 64 36 st.delta }
      c.toNat (place + 1) (label.take place ++ c :: label.drop place) := by
  have hdelta : st.delta < 10 ^ 64 := by
    have hcode := code_valid c
    have hle : (c.toNat - n) * (label.length + 1) ≤ 0x110000 * sizeLimit :=
      Nat.mul_le_mul (by omega) (by omega)
    unfold sizeLimit at hle hsize
    omega
  obtain ⟨text, steps, htext, hdigits, hsteps, hreads⟩ := h.written
  constructor
  · simp [h.handled]
    omega
  · refine ⟨text ++ digits st.bias 64 36 st.delta, steps + 1, ?_, ?_, ?_, ?_⟩
    · simp [htext]
    · intro c hc
      rcases List.mem_append.mp hc with hc | hc
      · exact hdigits c hc
      · exact isDigit_of_mem_digits hdelta hc
    · have hpos := List.length_pos_iff.mpr (digits_ne_nil st.bias 64 36 st.delta)
      rw [List.length_append]
      omega
    · intro fuel rest
      rw [← Nat.add_assoc, Nat.add_right_comm, List.append_assoc, hreads,
        insertions_digits hdelta hn (code_valid c) hplace hway, Char.ofNat_toNat, h.handled]

end

/-! ## Rounds -/

/-- The characters of codes up to `m`. -/
def upTo (m : Nat) (s : List Char) : List Char := s.filter fun c => c.toNat ≤ m

/-- The characters of codes below `m`. -/
def below (m : Nat) (s : List Char) : List Char := s.filter fun c => c.toNat < m

theorem upTo_eq_below (m : Nat) (s : List Char) : upTo m s = below (m + 1) s :=
  List.filter_congr fun _ _ => decide_eq_decide.mpr Nat.lt_succ_iff.symm

section
variable {head basic : List Char}

/-- In the round of `m` the reader gets all characters of that code, from the left to the right. -/
theorem Leads.round {m : Nat} (s : List Char) : ∀ {st : State} {n i : Nat} {p : List Char},
    Leads head basic st n i (upTo m p ++ below m s) → n ≤ m → (p ++ s).length < sizeLimit →
    i + st.delta = (m - n) * ((upTo m p ++ below m s).length + 1) + (upTo m p).length →
      ∃ n' i', n' ≤ m ∧ Leads head basic (insertAll m st (s.map (·.toNat))) n' i' (upTo m (p ++ s)) ∧
        i' + (insertAll m st (s.map (·.toNat))).delta = (m + 1 - n') * ((upTo m (p ++ s)).length + 1) := by
  induction s with
  | nil =>
    intro st n i p h hn _ hway
    refine ⟨n, i, hn, ?_, ?_⟩
    · simpa [below, insertAll] using h.count (st.delta + 1)
    · simp only [below, List.filter_nil, List.append_nil] at hway ⊢
      rw [Nat.sub_add_comm hn, Nat.add_mul]
      simp only [List.map_nil, insertAll]
      omega
  | cons c s ih =>
    intro st n i p h hn hsize hway
    have happend : p ++ c :: s = (p ++ [c]) ++ s := by simp
    have hlabel : (upTo m p ++ below m (c :: s)).length ≤ (p ++ c :: s).length := by
      rw [List.length_append, List.length_append]
      exact Nat.add_le_add (List.length_filter_le _ _) (List.length_filter_le _ _)
    have hlimit := Nat.lt_of_le_of_lt hlabel hsize
    rw [List.map_cons, insertAll]
    rw [happend] at hsize ⊢
    rcases Nat.lt_trichotomy c.toNat m with hlt | rfl | hgt
    · have hup : upTo m (p ++ [c]) = upTo m p ++ [c] := by simp [upTo, hlt.le]
      have hbelow : below m (c :: s) = c :: below m s := by simp [below, hlt]
      have hsame : upTo m p ++ below m (c :: s) = upTo m (p ++ [c]) ++ below m s := by simp [hup, hbelow]
      rw [hsame] at h hway
      rw [if_pos hlt]
      apply ih (h.count _) hn hsize
      have hlength : (upTo m (p ++ [c])).length = (upTo m p).length + 1 := by simp [hup]
      dsimp only
      omega
    · have hup : upTo c.toNat (p ++ [c]) = upTo c.toNat p ++ [c] := by simp [upTo]
      have hbelow : below c.toNat (c :: s) = below c.toNat s := by simp [below]
      rw [hbelow] at h hway hlimit
      have hinsert := h.insert (c := c) hn hlimit (by simp) hway
      rw [List.take_left, List.drop_left] at hinsert
      have hsame : upTo c.toNat p ++ c :: below c.toNat s = upTo c.toNat (p ++ [c]) ++ below c.toNat s := by
        simp [hup]
      rw [hsame] at hinsert
      rw [if_neg (Nat.lt_irrefl _), if_pos rfl]
      apply ih hinsert (Nat.le_refl _) hsize
      simp [hup]
    · have hup : upTo m (p ++ [c]) = upTo m p := by simp [upTo, hgt]
      have hbelow : below m (c :: s) = below m s := by simp [below, hgt.le]
      rw [hbelow] at h hway
      rw [if_neg (by omega), if_neg (by omega)]
      rw [← hup] at h hway
      exact ih h hn hsize hway

/-- The characters that are left from code `n` on. -/
def atLeast (n : Nat) (s : List Char) : List Char := s.filter fun c => n ≤ c.toNat

theorem below_of_atLeast_nil {n : Nat} {s : List Char} (h : atLeast n s = []) : below n s = s := by
  rw [atLeast, List.filter_eq_nil_iff] at h
  rw [below, List.filter_eq_self]
  intro c hc
  simpa using h c hc

theorem below_of_least {n m : Nat} {s : List Char} (hn : n ≤ m) (hm : ∀ c ∈ atLeast n s, m ≤ c.toNat) :
    below n s = below m s := by
  apply List.filter_congr
  intro c hc
  have hleast : n ≤ c.toNat → m ≤ c.toNat := fun hle => hm c (List.mem_filter.mpr ⟨hc, by simpa using hle⟩)
  rw [decide_eq_decide]
  omega

theorem length_atLeast_lt {n : Nat} {s : List Char} {c : Char} (hc : c ∈ atLeast n s) :
    (atLeast (c.toNat + 1) s).length < (atLeast n s).length := by
  have hn : n ≤ c.toNat := by simpa using (List.mem_filter.mp hc).2
  have hsub : atLeast (c.toNat + 1) s = (atLeast n s).filter fun d => c.toNat + 1 ≤ d.toNat := by
    rw [atLeast, atLeast, List.filter_filter]
    apply List.filter_congr
    intro d _
    rw [← Bool.decide_and, decide_eq_decide]
    omega
  rw [hsub, List.length_filter_lt_length_iff_exists]
  exact ⟨c, hc, by simp⟩

theorem Leads.rounds {label : List Char} (hsize : label.length < sizeLimit) (fuel : Nat) :
    ∀ {st : State} {n m i : Nat}, Leads head basic st n i (below m label) → n ≤ m →
      i + st.delta = (m - n) * ((below m label).length + 1) → (atLeast m label).length ≤ fuel →
        ∃ n' i', Leads head basic (rounds (label.map (·.toNat)) fuel m st) n' i' label := by
  induction fuel with
  | zero =>
    intro st n m i h _ _ hfuel
    have hnil := List.eq_nil_of_length_eq_zero (Nat.le_zero.mp hfuel)
    rw [below_of_atLeast_nil hnil] at h
    exact ⟨n, i, h⟩
  | succ fuel ih =>
    intro st n m i h hn hway hfuel
    have hcodes : (label.map (·.toNat)).filter (m ≤ ·) = (atLeast m label).map (·.toNat) := by
      rw [List.filter_map, atLeast]
      rfl
    rw [Punycode.rounds, hcodes]
    cases hmin : ((atLeast m label).map (·.toNat)).min? with
    | none =>
      rw [List.min?_eq_none_iff, List.map_eq_nil_iff] at hmin
      rw [below_of_atLeast_nil hmin] at h
      exact ⟨n, i, h⟩
    | some k =>
      rw [List.min?_eq_some_iff] at hmin
      obtain ⟨hmem, hleast⟩ := hmin
      obtain ⟨c, hc, rfl⟩ := List.mem_map.mp hmem
      have hmc : m ≤ c.toNat := by simpa using (List.mem_filter.mp hc).2
      have hbelow : below m label = below c.toNat label :=
        below_of_least hmc fun d hd => hleast _ (List.mem_map_of_mem hd)
      rw [hbelow] at h hway
      have hround := (h.count (st.delta + (c.toNat - m) * (st.handled + 1))).round label (p := []) (m := c.toNat)
      have hstart : i + (st.delta + (c.toNat - m) * (st.handled + 1)) =
          (c.toNat - n) * ((below c.toNat label).length + 1) := by
        have hsum : c.toNat - n = (m - n) + (c.toNat - m) := by omega
        rw [h.handled, hsum, Nat.add_mul, ← hway, Nat.add_assoc]
      obtain ⟨n', i', hn', hleads, hway'⟩ := hround (by omega) hsize hstart
      rw [List.nil_append, upTo_eq_below] at hleads hway'
      have hfewer := length_atLeast_lt hc
      exact ih hleads (by omega) hway' (by omega)

end

/-! ## Whole labels -/

/-- What stands before the digits: the ASCII characters of the label and a hyphen. -/
def headOf (label : List Char) : List Char :=
  if (below 128 label).isEmpty then [] else below 128 label ++ ['-']

theorem encode_leads {label : List Char} (h : label.length < sizeLimit) :
    ∃ st n i, encode label = st.output ∧ Leads (headOf label) (below 128 label) st n i label := by
  have hstart : Leads (headOf label) (below 128 label)
      ⟨0, 72, (below 128 label).length, true, headOf label⟩ 128 0 (below 128 label) := .start
  obtain ⟨n, i, hleads⟩ := hstart.rounds h label.length (Nat.le_refl _) (by simp) (List.length_filter_le _ _)
  exact ⟨_, n, i, rfl, hleads⟩

theorem takeWhile_behind_head (label : List Char) {text : List Char} (h : ∀ c ∈ text, c ≠ '-') :
    ((headOf label ++ text).reverse.takeWhile (· != '-')).reverse = text := by
  have htext : text.reverse.takeWhile (· != '-') = text.reverse := by
    rw [List.takeWhile_eq_self_iff]
    simpa using h
  rw [headOf]
  split
  · simp [htext]
  · rw [List.reverse_append, List.takeWhile_append_of_pos (by simpa using h)]
    simp

theorem dropLast_headOf (label : List Char) : (headOf label).dropLast = below 128 label := by
  rw [headOf]
  split
  · rename_i h
    exact (List.isEmpty_iff.mp h).symm
  · exact List.dropLast_concat

/-- A code has digits, hyphens, and the ASCII characters of its label. -/
theorem of_mem_encode {label : List Char} (h : label.length < sizeLimit) {c : Char} (hc : c ∈ encode label) :
    IsDigit c ∨ c = '-' ∨ c ∈ below 128 label := by
  obtain ⟨st, n, i, hencode, hleads⟩ := encode_leads h
  obtain ⟨text, -, htext, hdigits, -⟩ := hleads.written
  rw [hencode, htext, List.mem_append] at hc
  rcases hc with hc | hc
  · unfold headOf at hc
    split at hc
    · cases hc
    · simp only [List.mem_append, List.mem_singleton] at hc
      exact .inr hc.symm
  · exact .inl (hdigits c hc)

theorem below_subset_encode {label : List Char} (h : label.length < sizeLimit) : below 128 label ⊆ encode label := by
  obtain ⟨st, n, i, hencode, hleads⟩ := encode_leads h
  obtain ⟨text, -, htext, -⟩ := hleads.written
  rw [hencode, htext]
  intro c hc
  have hne : (below 128 label).isEmpty = false := by
    cases hnil : below 128 label with
    | nil => simp [hnil] at hc
    | cons => rfl
  rw [headOf, hne]
  simp [hc]

/-- **The reader gives back what the writer wrote.** -/
theorem decode?_encode {label : List Char} (h : label.length < sizeLimit) : decode? (encode label) = some label := by
  have hascii : (encode label).all (fun c => c.toNat < 128) = true := by
    rw [List.all_eq_true]
    intro c hc
    rw [decide_eq_true_eq]
    rcases of_mem_encode h hc with hc | rfl | hc
    · exact hc.ascii
    · decide
    · simpa using (List.mem_filter.mp hc).2
  obtain ⟨st, n, i, hencode, hleads⟩ := encode_leads h
  obtain ⟨text, steps, htext, hdigits, hsteps, hreads⟩ := hleads.written
  rw [htext] at hencode
  have htail := takeWhile_behind_head label fun c hc => (hdigits c hc).ne_hyphen
  have hhead : (headOf label ++ text).take ((headOf label ++ text).length - text.length) = headOf label := by simp
  rw [decode?, if_pos hascii, hencode, htail, hhead, dropLast_headOf]
  have hfuel : (headOf label ++ text).length = ((headOf label ++ text).length - steps) + steps := by
    rw [List.length_append]
    omega
  have hread := hreads ((headOf label ++ text).length - steps) []
  rw [List.append_nil, ← hfuel] at hread
  rw [hread]
  generalize (headOf label ++ text).length - steps = fuel
  cases fuel <;> simp [insertions]

/-! ## Long codes -/

theorem le_length_digits {bias fuel k n : Nat} (h : 936 ≤ n) : 3 ≤ (digits bias (fuel + 2) k n).length := by
  have hle := threshold_le bias k
  have hle' := threshold_le bias (k + 36)
  have hpos := threshold_pos bias k
  have hrest : 26 ≤ (n - threshold bias k) / (36 - threshold bias k) := by
    rw [Nat.le_div_iff_mul_le (by omega)]
    omega
  rw [digits, if_neg (by omega), digits, if_neg (by omega)]
  have hlast := List.length_pos_iff.mpr (digits_ne_nil bias fuel (k + 36 + 36)
    (((n - threshold bias k) / (36 - threshold bias k) - threshold bias (k + 36)) / (36 - threshold bias (k + 36))))
  simp only [List.length_cons]
  omega

theorem insertAll_below {m : Nat} {p : List Nat} (h : ∀ c ∈ p, c < m) (st : State) (s : List Nat) :
    insertAll m st (p ++ s) = insertAll m { st with delta := st.delta + p.length } s := by
  induction p generalizing st with
  | nil => rfl
  | cons c p ih =>
    rw [List.forall_mem_cons] at h
    rw [List.cons_append, insertAll, if_pos h.1, ih h.2, List.length_cons, Nat.add_assoc, Nat.add_comm 1]

theorem insertAll_above {m : Nat} {s : List Nat} (h : ∀ c ∈ s, m < c) (st : State) :
    insertAll m st s = { st with delta := st.delta + 1 } := by
  induction s with
  | nil => rfl
  | cons c s ih =>
    rw [List.forall_mem_cons] at h
    rw [insertAll, if_neg (by omega), if_neg (by omega), ih h.2]

section
variable {p s : List Nat} {n : Nat} (hp : ∀ c ∈ p, c < n)
include hp

theorem filter_behind (hs : ∀ c ∈ s, n ≤ c) : (p ++ s).filter (n ≤ ·) = s := by
  have hbefore : p.filter (n ≤ ·) = [] := by
    rw [List.filter_eq_nil_iff]
    intro c hc
    simpa using hp c hc
  have hbehind : s.filter (n ≤ ·) = s := by
    rw [List.filter_eq_self]
    intro c hc
    simpa using hs c hc
  rw [List.filter_append, hbefore, hbehind, List.nil_append]

theorem rounds_end (fuel : Nat) (st : State) : rounds p fuel n st = st := by
  cases fuel with
  | zero => rfl
  | succ fuel =>
    have hnone := filter_behind hp (s := []) nofun
    rw [List.append_nil] at hnone
    rw [rounds, hnone]
    rfl

/-- The round of a code that no other character has. -/
theorem rounds_one {c : Nat} (hc : n ≤ c) (hs : ∀ d ∈ s, c < d) (fuel : Nat) (st : State) :
    ∃ delta bias, rounds (p ++ c :: s) (fuel + 1) n st = rounds (p ++ c :: s) fuel (c + 1)
      { delta := 1
        bias
        handled := st.handled + 1
        first := false
        output := st.output ++ digits st.bias 64 36 delta } ∧ (c - n) * (st.handled + 1) ≤ delta := by
  have hbehind : ∀ d ∈ c :: s, n ≤ d :=
    List.forall_mem_cons.mpr ⟨hc, fun d hd => Nat.le_trans hc (Nat.le_of_lt (hs d hd))⟩
  have hmin : (c :: s).min? = some c := by
    rw [List.min?_eq_some_iff, List.forall_mem_cons]
    exact ⟨List.mem_cons_self, Nat.le_refl c, fun d hd => Nat.le_of_lt (hs d hd)⟩
  have hway : (c - n) * (st.handled + 1) ≤ st.delta + (c - n) * (st.handled + 1) + p.length := by omega
  refine ⟨_, adapt (st.delta + (c - n) * (st.handled + 1) + p.length) (st.handled + 1) st.first, ?_, hway⟩
  rw [rounds, filter_behind hp hbehind, hmin]
  dsimp only
  rw [insertAll_below fun d hd => Nat.lt_of_lt_of_le (hp d hd) hc, insertAll, if_neg (Nat.lt_irrefl _), if_pos rfl,
    insertAll_above hs]

end

/-- Codes so far from each other that each of them takes three digits behind 36 characters. -/
def IsSpaced : Nat → List Nat → Prop
  | _, [] => True
  | n, c :: s => n + 26 ≤ c ∧ IsSpaced (c + 1) s

theorem IsSpaced.le {n : Nat} {s : List Nat} (h : IsSpaced n s) : ∀ c ∈ s, n ≤ c := by
  induction s generalizing n with
  | nil => nofun
  | cons c s ih =>
    obtain ⟨hc, hs⟩ := h
    refine List.forall_mem_cons.mpr ⟨by omega, fun d hd => ?_⟩
    have hle := ih hs d hd
    omega

theorem le_length_rounds (s : List Nat) : ∀ {p : List Nat} {n fuel : Nat} (st : State),
    (∀ c ∈ p, c < n) → IsSpaced n s → s.length ≤ fuel → 36 ≤ st.handled →
      st.output.length + 3 * s.length ≤ (rounds (p ++ s) fuel n st).output.length := by
  induction s with
  | nil =>
    intro p n fuel st hp _ _ _
    rw [List.append_nil, rounds_end hp]
    exact Nat.le_refl _
  | cons c s ih =>
    intro p n fuel st hp hs hfuel hhandled
    obtain ⟨fuel, rfl⟩ := Nat.exists_eq_add_of_le' (Nat.lt_of_lt_of_le (Nat.succ_pos _) hfuel)
    obtain ⟨hc, hrest⟩ := hs
    obtain ⟨delta, bias, hround, hdelta⟩ := rounds_one hp (by omega) hrest.le fuel st
    have hway : 26 * 36 ≤ (c - n) * (st.handled + 1) := Nat.mul_le_mul (by omega) (by omega)
    have hdigits : 3 ≤ (digits st.bias 64 36 delta).length := le_length_digits (by omega)
    have hbefore : ∀ d ∈ p ++ [c], d < c + 1 := by
      rw [List.forall_mem_append, List.forall_mem_singleton]
      exact ⟨fun d hd => Nat.lt_succ_of_lt (Nat.lt_of_lt_of_le (hp d hd) (by omega)), Nat.lt_succ_self c⟩
    rw [hround, List.append_cons]
    refine Nat.le_trans ?_ (ih _ hbefore hrest (Nat.le_of_succ_le_succ hfuel) (Nat.le_succ_of_le hhandled))
    simp only [List.length_append, List.length_cons]
    omega

/-- Behind enough ASCII characters each of the others takes three characters of the code. -/
theorem le_length_encode {front label : List Char} (hfront : ∀ c ∈ front, c.toNat < 128)
    (hlength : 36 ≤ front.length) (hs : IsSpaced 128 (label.map (·.toNat))) :
    3 * label.length ≤ (encode (front ++ label)).length := by
  have hbasic : (front ++ label).filter (fun c => c.toNat < 128) = front := by
    have hnone : label.filter (fun c => c.toNat < 128) = [] := by
      rw [List.filter_eq_nil_iff]
      intro c hc
      have hle := hs.le _ (List.mem_map_of_mem hc)
      simpa using hle
    have hall : front.filter (fun c => c.toNat < 128) = front := by
      rw [List.filter_eq_self]
      simpa using hfront
    rw [List.filter_append, hall, hnone, List.append_nil]
  have hrounds (output : List Char) : output.length + 3 * (label.map (·.toNat)).length ≤
      (rounds ((front ++ label).map (·.toNat)) (front ++ label).length 128
        ⟨0, 72, front.length, true, output⟩).output.length := by
    rw [List.map_append]
    refine le_length_rounds _ ⟨0, 72, front.length, true, output⟩ (List.forall_mem_map.mpr hfront) hs ?_ hlength
    simp
  rw [encode, hbasic]
  refine Nat.le_trans ?_ (hrounds _)
  rw [List.length_map]
  omega

end BareMetal.Punycode
