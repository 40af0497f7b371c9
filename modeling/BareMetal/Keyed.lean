/-!
# Tables sorted by key

Pairs in ascending order of their keys, each key once. The order is that of code
points, which is also that of the bytes of the keys in UTF-8. `lookup_put` says
what is found after a write, `sorted_put` that a write keeps the order.
-/

namespace BareMetal.Keyed

variable {α : Type}

/-- Keys ascend, so no key is there twice. -/
def Sorted (entries : List (String × α)) : Prop := (entries.map Prod.fst).Pairwise (· < ·)

/-- Puts a value in the place of its key; a value that is there already gives way. -/
def put (key : String) (value : α) : List (String × α) → List (String × α)
  | [] => [(key, value)]
  | (k, v) :: rest =>
    if key < k then (key, value) :: (k, v) :: rest
    else if key = k then (key, value) :: rest
    else (k, v) :: put key value rest

/-- The table of these pairs, where a later pair replaces an earlier one with its key. -/
def ofList (entries : List (String × α)) : List (String × α) :=
  entries.foldl (fun acc e => put e.1 e.2 acc) []

theorem lookup_put (key : String) (value : α) (q : String) (entries : List (String × α)) :
    (put key value entries).lookup q = if q = key then some value else entries.lookup q := by
  induction entries with
  | nil => simp only [put, List.lookup_cons, List.lookup_nil]; split <;> simp_all
  | cons e rest ih =>
    obtain ⟨k, v⟩ := e
    simp only [put]
    split
    · simp only [List.lookup_cons]; split <;> simp_all
    · split
      · rename_i h; subst h; simp only [List.lookup_cons]; split <;> simp_all
      · rename_i hne
        simp only [List.lookup_cons, ih]
        split
        · rename_i hq; rw [if_neg]; rw [beq_iff_eq] at hq; subst hq; exact Ne.symm hne
        · rfl

theorem mem_put {key : String} {value : α} {entries : List (String × α)} {e : String × α}
    (h : e ∈ put key value entries) : e = (key, value) ∨ e ∈ entries := by
  induction entries with
  | nil => exact .inl (List.mem_singleton.mp h)
  | cons x rest ih =>
    simp only [put] at h
    split at h
    · exact List.mem_cons.mp h
    · split at h
      · exact (List.mem_cons.mp h).imp_right (List.mem_cons_of_mem _)
      · rcases List.mem_cons.mp h with h | h
        · exact .inr (h ▸ List.mem_cons_self)
        · exact (ih h).imp_right (List.mem_cons_of_mem _)

theorem sorted_put (key : String) (value : α) {entries : List (String × α)}
    (hs : Sorted entries) : Sorted (put key value entries) := by
  induction entries with
  | nil => simp [Sorted, put]
  | cons e rest ih =>
    obtain ⟨k, v⟩ := e
    have hc := List.pairwise_cons.mp hs
    simp only [put]
    split
    · rename_i hlt
      refine List.pairwise_cons.mpr ⟨fun a ha => ?_, hs⟩
      rcases List.mem_cons.mp ha with rfl | ha
      · exact hlt
      · exact String.lt_trans hlt (hc.1 a ha)
    · split
      · rename_i h; subst h; exact hs
      · rename_i hn hne
        refine List.pairwise_cons.mpr ⟨fun a ha => ?_, ih hc.2⟩
        obtain ⟨e, he, rfl⟩ := List.mem_map.mp ha
        rcases mem_put he with rfl | he
        · exact ((Std.lt_trichotomy key k).resolve_left hn).resolve_left hne
        · exact hc.1 _ (List.mem_map_of_mem he)

theorem sorted_ofList (entries : List (String × α)) : Sorted (ofList entries) := by
  suffices ∀ acc : List (String × α), Sorted acc →
      Sorted (entries.foldl (fun acc e => put e.1 e.2 acc) acc) from this [] .nil
  induction entries with
  | nil => exact fun _ h => h
  | cons e rest ih => exact fun acc h => ih _ (sorted_put e.1 e.2 h)

theorem Sorted.nodup {entries : List (String × α)} (hs : Sorted entries) :
    (entries.map Prod.fst).Nodup := by
  refine List.Pairwise.imp (fun {a b} hlt heq => ?_) hs
  rw [heq] at hlt
  exact String.lt_irrefl b hlt

end BareMetal.Keyed
