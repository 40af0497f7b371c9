/-!
# Sets kept by hashes

A value may be compared and hashed by part of what it holds. A set looks for a
value only among its elements of the same hash, so what is hashed has to go with
what is compared. No hash is fixed: a `Hasher` takes in the data of a value.
-/

namespace BareMetal

structure Hasher where
  State : Type
  start : State
  text : State → String → State
  integer : State → Int → State
  finish : State → UInt64

namespace Hasher

/-- FNV-1a, over code points and integers of 64 bits. -/
def fnv : Hasher where
  State := UInt64
  start := 14695981039346656037
  text state s := mix (s.toList.foldl (fun state c => mix state c.toNat.toUInt64) state) 255
  integer state n := mix state (UInt64.ofInt n)
  finish := id
where
  mix (state data : UInt64) : UInt64 := (state ^^^ data) * 1099511628211

end Hasher

/-- How the values of a type are compared, and what a hasher takes in of them. -/
class Hashed (α : Type) where
  same : α → α → Bool
  feed (H : Hasher) : H.State → α → H.State

namespace Hashed

variable {α : Type} [Hashed α]

def code (H : Hasher) (x : α) : UInt64 := H.finish (feed H H.start x)

/-- Whether looking for `x` ends at `y`. -/
def meets (H : Hasher) (x y : α) : Bool := code H x == code H y && same x y

end Hashed

/-- The elements in the order they came in; no later one is found at an earlier one. -/
structure HashSet (H : Hasher) (α : Type) [Hashed α] where
  elements : List α
  distinct : elements.Pairwise fun y x => Hashed.meets H x y = false

namespace HashSet

variable {H : Hasher} {α : Type} [Hashed α]

def empty : HashSet H α := ⟨[], .nil⟩

/-- A value that is found in the set leaves it as it is. -/
def insert (set : HashSet H α) (x : α) : HashSet H α :=
  if h : set.elements.any (Hashed.meets H x) then set
  else
    { elements := set.elements ++ [x]
      distinct := by
        refine List.pairwise_append.mpr ⟨set.distinct, List.pairwise_singleton _ _, fun y hy z hz => ?_⟩
        rw [List.mem_singleton.mp hz]
        simp only [List.any_eq_true, not_exists, not_and, Bool.not_eq_true] at h
        exact h y hy }

def ofList (xs : List α) : HashSet H α := xs.foldl insert empty

def size (set : HashSet H α) : Nat := set.elements.length

end HashSet

end BareMetal
