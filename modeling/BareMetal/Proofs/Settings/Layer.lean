import BareMetal.Proofs.Keyed
import BareMetal.Settings.Load

/-!
# Layers over layers

What is looked up in a layer that was laid over another: `lookup_overlay`.
-/

namespace BareMetal.Settings

/-- A setting laid over the one below it, if there is one. -/
def Setting.over (below : Option Setting) (value : Setting) : Setting :=
  match below with
  | some b => b.overlay value
  | none => value

theorem over_of_not_table {s : Setting} (h : ∀ entries, s ≠ .table entries) (lower : Option Setting) :
    s.over lower = s := by
  cases s with
  | table entries => exact absurd rfl (h entries)
  | _ => rcases lower with _ | (_ | _) <;> rfl

theorem overlayEntries_cons (lower : Layer) (key : String) (value : Setting) (rest : Layer) :
    overlayEntries lower ((key, value) :: rest) =
      overlayEntries (Keyed.put key (value.over (lower.lookup key)) lower) rest := by
  rw [overlayEntries]
  rfl

/-- A key of the upper layer has its setting over the lower one, any other key the lower one. -/
theorem lookup_overlay {upper : Layer} (h : (upper.map Prod.fst).Nodup) (key : String) :
    ∀ lower : Layer, (lower.overlay upper).lookup key =
      match upper.lookup key with
      | some value => some (value.over (lower.lookup key))
      | none => lower.lookup key := by
  unfold Layer.overlay
  induction upper with
  | nil =>
    intro lower
    rw [overlayEntries]
    rfl
  | cons e rest ih =>
    intro lower
    obtain ⟨k, value⟩ := e
    rw [List.map_cons, List.nodup_cons] at h
    rw [overlayEntries_cons, ih h.2, Keyed.lookup_put, List.lookup_cons]
    by_cases hk : key = k
    · subst hk
      rw [Keyed.lookup_eq_none h.1, if_pos rfl, beq_self_eq_true]
    · rw [if_neg hk, beq_eq_false_iff_ne.mpr hk]

theorem overlay_nil (lower : Layer) : lower.overlay [] = lower := by
  unfold Layer.overlay
  rw [overlayEntries]

/-- Over an empty table a table with its keys in order stays as it is. -/
theorem overlay_of_sorted {upper : Layer} : ∀ {before : Layer}, Keyed.Sorted (before ++ upper) →
    before.overlay upper = before ++ upper := by
  unfold Layer.overlay
  induction upper with
  | nil =>
    intro before _
    rw [overlayEntries, List.append_nil]
  | cons e rest ih =>
    intro before h
    obtain ⟨key, value⟩ := e
    have hlt : ∀ b ∈ before, b.1 < key := by
      intro b hb
      unfold Keyed.Sorted at h
      rw [List.map_append, List.pairwise_append] at h
      exact h.2.2 _ (List.mem_map_of_mem hb) key List.mem_cons_self
    have hfresh : before.lookup key = none := by
      refine Keyed.lookup_eq_none fun hm => ?_
      obtain ⟨b, hb, rfl⟩ := List.mem_map.mp hm
      exact String.lt_irrefl _ (hlt b hb)
    have hcons : before ++ (key, value) :: rest = (before ++ [(key, value)]) ++ rest := by simp
    rw [overlayEntries_cons, hfresh, Keyed.put_of_lt hlt, hcons]
    exact ih (hcons ▸ h)

/-! ## Layers of documents -/

theorem entriesOfToml_eq_map (entries : List (String × Toml.Value)) :
    entriesOfToml entries = entries.map fun e => (e.1, .ofToml e.2) := by
  induction entries with
  | nil => rw [entriesOfToml, List.map_nil]
  | cons e rest ih => rw [entriesOfToml, ih, List.map_cons]

theorem ofVariable_of_none {v : Variable} (h : keyPath? v.1 = none) : Layer.ofVariable v = [] := by
  rw [Layer.ofVariable, h]

theorem ofEnvironment_of_none {environment : List Variable}
    (h : ∀ v ∈ environment, keyPath? v.1 = none) : Layer.ofEnvironment environment = [] := by
  unfold Layer.ofEnvironment
  induction environment with
  | nil => rfl
  | cons v rest ih =>
    rw [List.forall_mem_cons] at h
    rw [List.foldl_cons, ofVariable_of_none h.1, overlay_nil]
    exact ih h.2

end BareMetal.Settings
