import BareMetal.Proofs.Toml.Lines

/-!
# Sections with new headers

A section whose header is new adds one table, with its keys in order. `Frame` says
where: it is what is around the table at the end of a path. Main statements:
`section?_of_frame` and `section?_of_fresh`.
-/

namespace BareMetal.Toml

namespace Items

theorem put_append {key : String} (item : Item) {items : Items} (h : items.lookup key = none)
    (more : Items) : put key item (items ++ more) = items ++ put key item more := by
  induction items with
  | nil => rfl
  | cons e rest ih =>
    obtain ⟨k, v⟩ := e
    rw [List.lookup_cons] at h
    split at h
    · cases h
    · rename_i hk
      have hne : k ≠ key := fun he => by simp [he] at hk
      rw [List.cons_append, put, if_neg hne, ih h, List.cons_append]

theorem put_of_fresh {key : String} (item : Item) {items : Items} (h : items.lookup key = none) :
    put key item items = items ++ [(key, item)] := by
  have hput := put_append item h []
  rwa [List.append_nil] at hput

theorem put_last {key : String} (item old : Item) {items : Items} (h : items.lookup key = none) :
    put key item (items ++ [(key, old)]) = items ++ [(key, item)] := by
  rw [put_append item h, put, if_pos rfl]

theorem lookup_last {key : String} (item : Item) {items : Items} (h : items.lookup key = none) :
    (items ++ [(key, item)]).lookup key = some item := by
  rw [List.lookup_append, h]
  simp

theorem within_append (dotted : Bool) (f : Origin → Items → Option Items) (more : List String) :
    ∀ (path : List String) (origin : Origin) (items : Items),
      within dotted f (path ++ more) origin items = within dotted (within dotted f more) path origin items
  | [], _, _ => rfl
  | key :: path, origin, items => by
    have ih := within_append dotted f more path
    simp only [List.cons_append, within, ih]

/-- What is around the table at the end of a path. -/
def Frame (path : List String) (around : Items → Items) : Prop :=
  ∀ (f : Items → Option Items) (inner : Items),
    within false (fun _ => f) path .header (around inner) = (f inner).map around

theorem Frame.nil : Frame [] id := fun f inner => (congrFun Option.map_id (f inner)).symm

theorem Frame.last {path : List String} {around : Items → Items} (hf : Frame path around) {key : String}
    {items : Items} (h : items.lookup key = none) (origin : Origin) :
    Frame (path ++ [key]) fun t => around (items ++ [(key, .table origin t)]) := by
  intro f inner
  have hlast : within false (fun _ => f) [key] .header (items ++ [(key, .table origin inner)]) =
      (f inner).map fun t => items ++ [(key, .table origin t)] := by
    simp only [within, lookup_last _ h, put_last _ _ h]
    cases f inner <;> rfl
  rw [within_append]
  exact (hf (within false (fun _ => f) [key] .header) _).trans (by rw [hlast, Option.map_map]; rfl)

/-- The items of keys on lines of their own. -/
def ofEntries (entries : List (String × Plain)) : Items :=
  entries.map fun e => (e.1, .value e.2.value)

theorem lookup_ofEntries {entries : List (String × Plain)} {inner : Items} {key : String}
    (h : key ∉ entries.map Prod.fst) (hi : inner.lookup key = none) :
    (inner ++ ofEntries entries).lookup key = none := by
  unfold ofEntries
  rw [List.lookup_append, hi, Option.none_or, List.lookup_eq_none_iff]
  intro e he
  obtain ⟨e', he', rfl⟩ := List.mem_map.mp he
  rw [bne_iff_ne]
  rintro rfl
  exact h (List.mem_map_of_mem he')

end Items

open Items

/-! ## Keys -/

theorem entry?_of_frame {path : List String} {around : Items → Items} (hf : Frame path around)
    {e : String × Plain} {inner : Items} (h : inner.lookup e.1 = none) :
    Progress.entry? ⟨around inner, path⟩ e = some ⟨around (inner ++ [(e.1, .value e.2.value)]), path⟩ := by
  have hadd : addKey [] e.1 e.2.value inner = some (inner ++ [(e.1, .value e.2.value)]) := by
    simp only [addKey, within, h]
    rfl
  unfold Progress.entry?
  dsimp only
  rw [hf, hadd]
  rfl

theorem entries?_of_frame {path : List String} {around : Items → Items} (hf : Frame path around) :
    ∀ {entries : List (String × Plain)} {inner : Items}, (entries.map Prod.fst).Nodup →
      (∀ e ∈ entries, inner.lookup e.1 = none) →
      entries.foldlM Progress.entry? ⟨around inner, path⟩ =
        some ⟨around (inner ++ ofEntries entries), path⟩
  | [], inner, _, _ => by simp [ofEntries]
  | e :: rest, inner, hn, hi => by
    rw [List.map_cons, List.nodup_cons] at hn
    rw [List.forall_mem_cons] at hi
    have hrest : ∀ e' ∈ rest, (inner ++ ofEntries [e]).lookup e'.1 = none := by
      intro e' he'
      have hne : e'.1 ∉ [e].map Prod.fst := by
        rw [List.map_singleton, List.mem_singleton]
        intro heq
        exact hn.1 (heq ▸ List.mem_map_of_mem he')
      exact lookup_ofEntries hne (hi.2 e' he')
    rw [List.foldlM_cons, entry?_of_frame hf hi.1]
    refine (entries?_of_frame hf hn.2 hrest).trans ?_
    simp [ofEntries]

/-! ## Sections -/

/-- Keys that belong to the document itself. -/
theorem section?_top {entries : List (String × Plain)} (hn : (entries.map Prod.fst).Nodup) :
    Progress.section? ⟨[], []⟩ ⟨[], entries⟩ = some ⟨ofEntries entries, []⟩ := by
  have hempty : ∀ e ∈ entries, ([] : Items).lookup e.1 = none := fun _ _ => rfl
  exact entries?_of_frame .nil hn hempty

theorem open?_of_frame {path : List String} {around : Items → Items} (hf : Frame path around)
    {key : String} {inner : Items} (h : inner.lookup key = none) (current : List String) :
    Progress.open? ⟨around inner, current⟩ (path ++ [key]) =
      some ⟨around (inner ++ [(key, .table .header [])]), path ++ [key]⟩ := by
  rw [Progress.open?_concat]
  unfold openTable
  dsimp only
  rw [hf]
  simp only [h]
  rfl

/-- A new header in a table there is adds a table to it. -/
theorem section?_of_frame {path : List String} {around : Items → Items} (hf : Frame path around)
    {key : String} {inner : Items} (h : inner.lookup key = none) {entries : List (String × Plain)}
    (hn : (entries.map Prod.fst).Nodup) (current : List String) :
    Progress.section? ⟨around inner, current⟩ ⟨path ++ [key], entries⟩ =
      some ⟨around (inner ++ [(key, .table .header (ofEntries entries))]), path ++ [key]⟩ := by
  unfold Progress.section?
  rw [open?_of_frame hf h]
  exact entries?_of_frame (hf.last h .header) hn (fun _ _ => rfl)

/-- New headers in a table there is add their tables one after the other. -/
theorem sections?_of_frame {path : List String} {around : Items → Items} (hf : Frame path around) :
    ∀ {named : List (String × List (String × Plain))} {inner : Items} (current : List String),
      (named.map Prod.fst).Nodup → (∀ e ∈ named, inner.lookup e.1 = none) →
      (∀ e ∈ named, (e.2.map Prod.fst).Nodup) → ∃ current',
        (named.map fun e => ⟨path ++ [e.1], e.2⟩).foldlM Progress.section? ⟨around inner, current⟩ = some
          ⟨around (inner ++ named.map fun e => (e.1, .table .header (ofEntries e.2))), current'⟩
  | [], inner, current, _, _, _ => ⟨current, by simp⟩
  | e :: rest, inner, current, hn, hi, hkeys => by
    rw [List.map_cons, List.nodup_cons] at hn
    rw [List.forall_mem_cons] at hi hkeys
    have hrest : ∀ e' ∈ rest, (inner ++ [(e.1, Item.table .header (ofEntries e.2))]).lookup e'.1 = none := by
      intro e' he'
      have hne : e'.1 ≠ e.1 := fun heq => hn.1 (heq ▸ List.mem_map_of_mem he')
      rw [List.lookup_append, hi.2 e' he', Option.none_or, List.lookup_cons, beq_eq_false_iff_ne.mpr hne,
        List.lookup_nil]
    obtain ⟨current', h⟩ := sections?_of_frame hf (path ++ [e.1]) hn.2 hrest hkeys.2
    refine ⟨current', ?_⟩
    rw [List.map_cons, List.foldlM_cons, section?_of_frame hf hi.1 hkeys.1]
    refine h.trans ?_
    simp

/-- The first header below a new key adds the table of that key too. -/
theorem section?_of_fresh {key : String} {items : Items} (h : items.lookup key = none) (name : String)
    {entries : List (String × Plain)} (hn : (entries.map Prod.fst).Nodup) (current : List String) :
    Progress.section? ⟨items, current⟩ ⟨[key, name], entries⟩ = some
      ⟨items ++ [(key, .table .implied [(name, .table .header (ofEntries entries))])], [key, name]⟩ := by
  have hopen : openTable [key] name items =
      some (items ++ [(key, .table .implied [(name, .table .header [])])]) := by
    simp only [openTable, within, h, List.lookup_nil]
    exact congrArg some (put_of_fresh _ h)
  unfold Progress.section?
  rw [show [key, name] = [key] ++ [name] from rfl, Progress.open?_concat, hopen]
  have hempty : ([] : Items).lookup name = none := rfl
  exact entries?_of_frame ((Frame.nil.last h .implied).last hempty .header) hn (fun _ _ => rfl)

/-! ## Values -/

theorem valueEntries_eq_map (items : Items) :
    valueEntries items = items.map fun e => (e.1, e.2.toValue) := by
  induction items with
  | nil => rw [valueEntries, List.map_nil]
  | cons e rest ih => rw [valueEntries, ih, List.map_cons]

end BareMetal.Toml
