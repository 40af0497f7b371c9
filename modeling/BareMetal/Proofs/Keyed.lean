import BareMetal.Keyed

/-!
# Tables with distinct keys

What is looked up in a table whose keys are distinct is what is in it, in whatever
order. `perm_ofList`: sorting such a table changes its order only.
-/

namespace BareMetal.Keyed

variable {α β : Type}

theorem lookup_of_mem {l : List (String × α)} (hl : (l.map Prod.fst).Nodup) {e : String × α}
    (he : e ∈ l) : l.lookup e.1 = some e.2 := by
  induction l with
  | nil => cases he
  | cons x rest ih =>
    rw [List.map_cons, List.nodup_cons] at hl
    obtain ⟨k, a⟩ := x
    rw [List.lookup_cons]
    rcases List.mem_cons.mp he with rfl | he
    · simp
    · have hk : e.1 ≠ k := fun h => hl.1 (List.mem_map.mpr ⟨e, he, h⟩)
      rw [beq_eq_false_iff_ne.mpr hk]
      exact ih hl.2 he

theorem mem_of_lookup {l : List (String × α)} {k : String} {a : α} (h : l.lookup k = some a) :
    (k, a) ∈ l := by
  obtain ⟨before, after, rfl, -⟩ := List.lookup_eq_some_iff.mp h
  simp

theorem eq_of_mem {l : List (String × α)} (hl : (l.map Prod.fst).Nodup) {e e' : String × α}
    (he : e ∈ l) (he' : e' ∈ l) (h : e.1 = e'.1) : e = e' := by
  have hv := lookup_of_mem hl he
  rw [h, lookup_of_mem hl he', Option.some.injEq] at hv
  exact Prod.ext h hv.symm

theorem lookup_eq_none {l : List (String × α)} {k : String} (h : k ∉ l.map Prod.fst) :
    l.lookup k = none := by
  rw [List.lookup_eq_none_iff]
  intro e he
  rw [bne_iff_ne]
  rintro rfl
  exact h (List.mem_map_of_mem he)

theorem isSome_lookup {l : List (String × α)} {k : String} :
    (l.lookup k).isSome ↔ k ∈ l.map Prod.fst := by
  constructor
  · intro h
    obtain ⟨a, ha⟩ := Option.isSome_iff_exists.mp h
    exact List.mem_map_of_mem (mem_of_lookup ha)
  · intro h
    obtain ⟨e, he, rfl⟩ := List.mem_map.mp h
    cases hl : l.lookup e.1 with
    | some a => rfl
    | none => exact absurd (List.lookup_eq_none_iff.mp hl e he) (by simp)

theorem lookup_map (f : α → β) (l : List (String × α)) (k : String) :
    (l.map fun e => (e.1, f e.2)).lookup k = (l.lookup k).map f := by
  induction l with
  | nil => rfl
  | cons e rest ih =>
    obtain ⟨key, a⟩ := e
    simp only [List.map_cons, List.lookup_cons]
    split
    · rfl
    · exact ih

theorem lookup_filterMap (f : α → Option β) {l : List (String × α)} (hl : (l.map Prod.fst).Nodup)
    (k : String) : (l.filterMap fun e => (f e.2).map (e.1, ·)).lookup k = (l.lookup k).bind f := by
  induction l with
  | nil => rfl
  | cons e rest ih =>
    obtain ⟨key, a⟩ := e
    rw [List.map_cons, List.nodup_cons] at hl
    have hrest := ih hl.2
    rw [List.filterMap_cons, List.lookup_cons]
    by_cases h : k = key
    · subst h
      cases hf : f a with
      | none => simp [hf, hrest, lookup_eq_none hl.1]
      | some b => simp [hf]
    · have hk : (k == key) = false := beq_eq_false_iff_ne.mpr h
      cases hf : f a with
      | none => simp [hk, hrest]
      | some b => simp [hk, hrest, List.lookup_cons]

theorem lookup_perm {l l' : List (String × α)} (hl : (l.map Prod.fst).Nodup) (hp : l.Perm l')
    (k : String) : l.lookup k = l'.lookup k := by
  have hl' : (l'.map Prod.fst).Nodup := (hp.map Prod.fst).nodup_iff.mp hl
  cases h : l.lookup k with
  | some a => exact (lookup_of_mem hl' (hp.mem_iff.mp (mem_of_lookup h))).symm
  | none =>
    cases h' : l'.lookup k with
    | none => rfl
    | some a =>
      have ha := lookup_of_mem hl (hp.mem_iff.mpr (mem_of_lookup h'))
      exact absurd (h.symm.trans ha) nofun

/-! ## Sorting -/

theorem put_perm {key : String} {value : α} {entries : List (String × α)}
    (h : key ∉ entries.map Prod.fst) : (put key value entries).Perm ((key, value) :: entries) := by
  induction entries with
  | nil => exact .refl _
  | cons e rest ih =>
    obtain ⟨k, v⟩ := e
    rw [List.map_cons, List.mem_cons, not_or] at h
    simp only [put]
    split
    · exact .refl _
    · rw [if_neg h.1]
      exact ((ih h.2).cons (k, v)).trans (.swap _ _ _)

theorem foldl_put_perm {entries : List (String × α)} :
    ∀ (acc : List (String × α)), ((acc ++ entries).map Prod.fst).Nodup →
      (entries.foldl (fun acc e => put e.1 e.2 acc) acc).Perm (acc ++ entries) := by
  induction entries with
  | nil =>
    intro acc _
    rw [List.append_nil]
    exact .refl _
  | cons e rest ih =>
    intro acc h
    have hmid : ((e :: (acc ++ rest)).map Prod.fst).Nodup :=
      (List.perm_middle.map Prod.fst).nodup_iff.mp h
    have hkey : e.1 ∉ acc.map Prod.fst := by
      rw [List.map_cons, List.nodup_cons, List.map_append, List.mem_append, not_or] at hmid
      exact hmid.1.1
    have hput : (put e.1 e.2 acc ++ rest).Perm (e :: (acc ++ rest)) :=
      (put_perm hkey).append_right rest
    rw [List.foldl_cons]
    exact (ih _ ((hput.map Prod.fst).nodup_iff.mpr hmid)).trans (hput.trans List.perm_middle.symm)

theorem perm_ofList {entries : List (String × α)} (h : (entries.map Prod.fst).Nodup) :
    (ofList entries).Perm entries :=
  foldl_put_perm [] h

theorem mem_ofList {entries : List (String × α)} {e : String × α} (h : e ∈ ofList entries) :
    e ∈ entries := by
  suffices ∀ acc : List (String × α), e ∈ entries.foldl (fun acc e => put e.1 e.2 acc) acc →
      e ∈ acc ∨ e ∈ entries from (this [] h).resolve_left List.not_mem_nil
  clear h
  induction entries with
  | nil => exact fun _ h => .inl h
  | cons x rest ih =>
    intro acc h
    rw [List.mem_cons]
    rcases ih _ h with h | h
    · exact (mem_put h).elim (fun h => .inr (.inl h)) .inl
    · exact .inr (.inr h)

theorem lookup_ofList {entries : List (String × α)} (h : (entries.map Prod.fst).Nodup) (k : String) :
    (ofList entries).lookup k = entries.lookup k :=
  (lookup_perm h (perm_ofList h).symm k).symm

theorem put_of_lt {key : String} {value : α} {entries : List (String × α)}
    (h : ∀ e ∈ entries, e.1 < key) : put key value entries = entries ++ [(key, value)] := by
  induction entries with
  | nil => rfl
  | cons e rest ih =>
    obtain ⟨k, v⟩ := e
    rw [List.forall_mem_cons] at h
    have hlt : ¬ key < k := fun hlt => String.lt_irrefl k (String.lt_trans h.1 hlt)
    have hne : key ≠ k := fun heq => String.lt_irrefl k (heq ▸ h.1)
    rw [put, if_neg hlt, if_neg hne, ih h.2, List.cons_append]

theorem put_map (f : α → β) (key : String) (value : α) (entries : List (String × α)) :
    put key (f value) (entries.map fun e => (e.1, f e.2)) =
      (put key value entries).map fun e => (e.1, f e.2) := by
  induction entries with
  | nil => rfl
  | cons e rest ih =>
    simp only [List.map_cons, put]
    split
    · rfl
    · split
      · rfl
      · rw [ih]
        rfl

theorem ofList_map (f : α → β) (entries : List (String × α)) :
    ofList (entries.map fun e => (e.1, f e.2)) = (ofList entries).map fun e => (e.1, f e.2) := by
  suffices ∀ acc : List (String × α),
      (entries.map fun e => (e.1, f e.2)).foldl (fun acc e => put e.1 e.2 acc)
        (acc.map fun e => (e.1, f e.2)) =
      (entries.foldl (fun acc e => put e.1 e.2 acc) acc).map fun e => (e.1, f e.2) from this []
  induction entries with
  | nil => exact fun acc => rfl
  | cons e rest ih =>
    intro acc
    rw [List.map_cons, List.foldl_cons, List.foldl_cons]
    dsimp only
    rw [put_map, ih]

/-! ## Changes at one key -/

/-- Changes the value of a key, if the key is there. -/
def modify (key : String) (f : α → α) : List (String × α) → List (String × α)
  | [] => []
  | (k, v) :: rest => if k = key then (k, f v) :: rest else (k, v) :: modify key f rest

/-- Takes the entries of a key out. -/
def erase (key : String) (entries : List (String × α)) : List (String × α) :=
  entries.filter fun e => e.1 ≠ key

theorem lookup_modify (key : String) (f : α → α) (q : String) (entries : List (String × α)) :
    (modify key f entries).lookup q =
      if q = key then (entries.lookup key).map f else entries.lookup q := by
  induction entries with
  | nil => simp [modify]
  | cons e rest ih =>
    obtain ⟨k, v⟩ := e
    rw [modify]
    by_cases hk : k = key
    · subst hk
      by_cases hq : q = k
      · simp [hq]
      · simp [hq, List.lookup_cons, beq_eq_false_iff_ne.mpr hq]
    · have hkey : (key == k) = false := beq_eq_false_iff_ne.mpr (Ne.symm hk)
      rw [if_neg hk, List.lookup_cons, ih, List.lookup_cons, List.lookup_cons, hkey]
      by_cases hq : q = k
      · subst hq
        simp [hk]
      · rw [beq_eq_false_iff_ne.mpr hq]

theorem erase_cons (key k : String) (v : α) (rest : List (String × α)) :
    erase key ((k, v) :: rest) = if k = key then erase key rest else (k, v) :: erase key rest := by
  unfold erase
  by_cases hk : k = key <;> simp [hk]

theorem lookup_erase (key q : String) (entries : List (String × α)) :
    (erase key entries).lookup q = if q = key then none else entries.lookup q := by
  induction entries with
  | nil => simp [erase]
  | cons e rest ih =>
    obtain ⟨k, v⟩ := e
    rw [erase_cons]
    by_cases hk : k = key
    · subst hk
      by_cases hq : q = k
      · rw [if_pos rfl, ih, if_pos hq, if_pos hq]
      · rw [if_pos rfl, ih, if_neg hq, if_neg hq, List.lookup_cons, beq_eq_false_iff_ne.mpr hq]
    · rw [if_neg hk, List.lookup_cons, List.lookup_cons, ih]
      by_cases hq : q = k
      · simp [hq, hk]
      · rw [beq_eq_false_iff_ne.mpr hq]

theorem sorted_erase (key : String) {entries : List (String × α)} (hs : Sorted entries) :
    Sorted (erase key entries) :=
  hs.sublist (List.filter_sublist.map Prod.fst)

theorem erase_of_not_mem {key : String} {entries : List (String × α)}
    (h : key ∉ entries.map Prod.fst) : erase key entries = entries := by
  unfold erase
  rw [List.filter_eq_self]
  intro e he
  rw [decide_eq_true_eq]
  intro hk
  exact h (List.mem_map.mpr ⟨e, he, hk⟩)

theorem erase_map (f : α → β) (key : String) (entries : List (String × α)) :
    erase key (entries.map fun e => (e.1, f e.2)) = (erase key entries).map fun e => (e.1, f e.2) := by
  unfold erase
  rw [List.filter_map]
  rfl

/-! ## Tables with their keys in order -/

theorem Sorted.nodup_entries {l : List (String × α)} (hl : Sorted l) : l.Nodup := by
  refine (List.pairwise_map.mp hl).imp fun {a b} hab he => ?_
  rw [he] at hab
  exact String.lt_irrefl _ hab

/-- A table is given by what is looked up in it. -/
theorem Sorted.ext {l l' : List (String × α)} (hl : Sorted l) (hl' : Sorted l')
    (h : ∀ k, l.lookup k = l'.lookup k) : l = l' := by
  have hmem (e : String × α) : e ∈ l ↔ e ∈ l' := by
    constructor
    · intro he
      exact mem_of_lookup (h e.1 ▸ lookup_of_mem hl.nodup he)
    · intro he
      exact mem_of_lookup ((h e.1).symm ▸ lookup_of_mem hl'.nodup he)
  have hperm : l.Perm l' := (List.perm_ext_iff_of_nodup hl.nodup_entries hl'.nodup_entries).mpr hmem
  refine hperm.eq_of_pairwise (fun a b _ _ hab hba => ?_) (List.pairwise_map.mp hl) (List.pairwise_map.mp hl')
  exact absurd (String.lt_trans hab hba) (String.lt_irrefl _)

theorem put_comm {k k' : String} (h : k ≠ k') (a b : α) {l : List (String × α)} (hl : Sorted l) :
    put k a (put k' b l) = put k' b (put k a l) := by
  apply Sorted.ext (sorted_put _ _ (sorted_put _ _ hl)) (sorted_put _ _ (sorted_put _ _ hl))
  intro q
  simp only [lookup_put]
  by_cases hq : q = k
  · simp [hq, h]
  · simp [hq]

theorem put_put (k : String) (a b : α) {l : List (String × α)} (hl : Sorted l) :
    put k a (put k b l) = put k a l := by
  apply Sorted.ext (sorted_put _ _ (sorted_put _ _ hl)) (sorted_put _ _ hl)
  intro q
  simp only [lookup_put]
  by_cases hq : q = k <;> simp [hq]

end BareMetal.Keyed
