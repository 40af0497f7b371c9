import BareMetal.Proofs.Text.Ascii
import BareMetal.Url.Percent

/-!
# Escaped texts

What was escaped once has nothing left to escape: `percentEncode_of_plain` and
`plain_percentEncode`.
-/

namespace BareMetal.Url

/-- ASCII characters, none of which satisfies `special`. -/
def Plain (special : Char → Bool) (s : List Char) : Prop := ∀ c ∈ s, c.toNat < 0x80 ∧ special c = false

instance (special : Char → Bool) : DecidablePred (Plain special) := fun s =>
  inferInstanceAs (Decidable (∀ c ∈ s, c.toNat < 0x80 ∧ special c = false))

/-- What takes the place of an escaped character is not escaped again. -/
def LeavesEscapes (special : Char → Bool) : Prop := Plain special "%0123456789ABCDEF".toList

instance : DecidablePred LeavesEscapes := fun special =>
  inferInstanceAs (Decidable (Plain special _))

section
variable {special : Char → Bool} {s t : List Char}

theorem Plain.append (hs : Plain special s) (ht : Plain special t) : Plain special (s ++ t) :=
  List.forall_mem_append.mpr ⟨hs, ht⟩

theorem percentEncodeChar_of_plain {c : Char} (hc : c.toNat < 0x80 ∧ special c = false) :
    percentEncodeChar special c = [c] := by
  simp [percentEncodeChar, hc]

theorem flatMap_eq_self {f : Char → List Char} (h : ∀ c ∈ s, f c = [c]) : s.flatMap f = s := by
  induction s with
  | nil => rfl
  | cons c s ih =>
    rw [List.forall_mem_cons] at h
    rw [List.flatMap_cons, h.1, ih h.2, List.singleton_append]

theorem percentEncode_of_plain (h : Plain special s) : percentEncode special s = s :=
  flatMap_eq_self fun c hc => percentEncodeChar_of_plain (h c hc)

theorem upperHex_mem {n : Nat} (h : n < 16) : Text.upperHex n ∈ "%0123456789ABCDEF".toList := by
  revert n
  decide

theorem plain_percentEncodeChar (h : LeavesEscapes special) (c : Char) :
    Plain special (percentEncodeChar special c) := by
  unfold percentEncodeChar
  split
  · rename_i hc
    intro d hd
    rw [List.mem_singleton] at hd
    subst hd
    simpa using hc
  · intro d hd
    obtain ⟨b, -, hd⟩ := List.mem_flatMap.mp hd
    have hb := b.toNat_lt
    simp only [percentByte, List.mem_cons, List.not_mem_nil, or_false] at hd
    rcases hd with rfl | rfl | rfl
    · exact h '%' (by decide)
    · exact h _ (upperHex_mem (by omega))
    · exact h _ (upperHex_mem (by omega))

theorem plain_percentEncode (h : LeavesEscapes special) (s : List Char) :
    Plain special (percentEncode special s) := by
  intro d hd
  obtain ⟨c, -, hd⟩ := List.mem_flatMap.mp hd
  exact plain_percentEncodeChar h c d hd

end

end BareMetal.Url
