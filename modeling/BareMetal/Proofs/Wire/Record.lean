import BareMetal.Proofs.Except
import BareMetal.Proofs.Keyed
import BareMetal.Wire.Decode

/-!
# Decoding a map into a record

A record is filled entry by entry. `decode_map` says the same field by field:
every entry that the record knows must decode, in the order of the map, and then
each field is looked up under its name.
-/

namespace BareMetal.Wire

section

variable {P : Shape → Prop} (text : P .text) (flag : P .flag) (integer : ∀ w, P (.integer w))
  (real : P .real) (nullable : ∀ s, P s → P (.nullable s)) (sequence : ∀ s, P s → P (.sequence s))
  (record : ∀ title (fields : List (String × Bool × Shape)), (∀ f ∈ fields, P f.2.2) →
    P (.record title fields))

include text flag integer real nullable sequence record

/-- What holds of a shape whenever it holds of the shapes inside it. -/
theorem Shape.induction (s : Shape) : P s :=
  @Shape.rec P (fun fields => ∀ f ∈ fields, P f.2.2) (fun f => P f.2.2) (fun f => P f.2)
    text flag integer real nullable sequence record
    (by simp) (fun _ _ h t => List.forall_mem_cons.mpr ⟨h, t⟩) (fun _ _ h => h) (fun _ _ h => h) s

end

/-! ## What decoding does -/

theorem decode_text (v : Json) : decode .text v = decodeText v := rfl

theorem decode_flag (v : Json) : decode .flag v = decodeFlag v := rfl

theorem decode_integer (w : Word) (v : Json) : decode (.integer w) v = decodeInteger w v := rfl

theorem decode_real (v : Json) : decode .real v = decodeReal v := rfl

theorem decode_nullable_null (s : Shape) :
    decode (.nullable s) .null = .ok (none : Option s.Value) := rfl

theorem decode_nullable {s : Shape} {v : Json} (h : v ≠ .null) :
    decode (.nullable s) v = ((decode s v).map some : Except _ (Option s.Value)) := by
  cases v with
  | null => exact absurd rfl h
  | _ => rfl

theorem decode_sequence_list (s : Shape) (items : List Json) : decode (.sequence s) (.list items) =
    (items.mapM (fun item => decode s item) : Except _ (List s.Value)) := rfl

theorem decode_record_map (title : String) (fields : List (String × Bool × Shape))
    (entries : List (String × Json)) : decode (.record title fields) (.map entries) =
      (entries.foldlM (fun slots (e : String × Json) => fill fields slots e.1 e.2)
        (Slots.empty fields) >>= fun slots => slots.complete fields) := rfl

theorem decode_record_list (title : String) (fields : List (String × Bool × Shape)) (items : List Json) :
    decode (.record title fields) (.list items) =
      (decodeInOrder title fields.length fields 0 items >>= fun p =>
        if p.2 = 0 then .ok p.1 else .error (.tooLong items.length)) := rfl

/-! ## Filling -/

/-- Whether an entry decodes, if it is one of the record's. -/
def decodeEntry (fields : List (String × Bool × Shape)) (e : String × Json) :
    Except DecodeError Unit :=
  match fields.lookup e.1 with
  | some (_, s) => (decode s e.2).map fun _ => ()
  | none => .ok ()

/-- The values of the fields, each taken from the entry of its name. -/
def gather : (fields : List (String × Bool × Shape)) → List (String × Json) →
    Except DecodeError (Values fields)
  | [], _ => .ok ()
  | (name, isNeeded, s) :: rest, entries =>
    match entries.lookup name with
    | some v => decode s v >>= fun x => (gather rest entries).map fun xs => (x, xs)
    | none =>
      if isNeeded then .error (.missingField name)
      else (gather rest entries).map fun xs => (s.blank, xs)

/-- The slots with those entries laid into them that decode. -/
def Slots.lay : (fields : List (String × Bool × Shape)) → Slots fields → List (String × Json) →
    Slots fields
  | [], _, _ => ()
  | (name, _, s) :: rest, slots, entries =>
    (match entries.lookup name with
      | some v =>
        match decode s v with
        | .ok x => some x
        | .error _ => slots.1
      | none => slots.1,
     Slots.lay rest slots.2 entries)

theorem Slots.lay_of_not_mem : ∀ (fields : List (String × Bool × Shape)) (slots : Slots fields)
    {entries : List (String × Json)}, (∀ f ∈ fields, f.1 ∉ entries.map Prod.fst) →
      Slots.lay fields slots entries = slots
  | [], _, _, _ => rfl
  | (name, _, s) :: rest, slots, entries, h => by
    rw [List.forall_mem_cons] at h
    simp only [Slots.lay, Keyed.lookup_eq_none h.1, Slots.lay_of_not_mem rest slots.2 h.2]
    rfl

/-- One entry goes into the one slot of its name. -/
theorem fill_eq (key : String) (v : Json) : ∀ (fields : List (String × Bool × Shape))
    (slots : Slots fields), (fields.map Prod.fst).Nodup → fill fields slots key v =
      (decodeEntry fields (key, v) >>= fun _ => .ok (Slots.lay fields slots [(key, v)]))
  | [], _, _ => rfl
  | (name, isNeeded, s) :: rest, slots, hf => by
    rw [List.map_cons, List.nodup_cons] at hf
    by_cases hk : name = key
    · subst hk
      have hrest : Slots.lay rest slots.2 [(name, v)] = slots.2 :=
        Slots.lay_of_not_mem rest slots.2 fun f hm => by
          rw [List.map_singleton, List.mem_singleton]
          rintro he
          exact hf.1 (List.mem_map.mpr ⟨f, hm, he⟩)
      simp only [fill, if_true, decodeEntry, List.lookup_cons, beq_self_eq_true, Slots.lay, hrest]
      cases decode s v <;> rfl
    · have hk' : (key == name) = false := beq_eq_false_iff_ne.mpr fun h => hk h.symm
      have hn : (name == key) = false := beq_eq_false_iff_ne.mpr hk
      have ih := fill_eq key v rest slots.2 hf.2
      simp only [decodeEntry] at ih
      simp only [fill, if_neg hk, ih, decodeEntry, List.lookup_cons, hk', hn, List.lookup_nil, Slots.lay]
      cases rest.lookup key with
      | none => rfl
      | some f =>
        dsimp only
        cases decode f.2 v <;> rfl

theorem Slots.lay_cons {key : String} {v : Json} {entries : List (String × Json)}
    (hk : key ∉ entries.map Prod.fst) : ∀ (fields : List (String × Bool × Shape))
    (slots : Slots fields), Slots.lay fields (Slots.lay fields slots [(key, v)]) entries =
      Slots.lay fields slots ((key, v) :: entries)
  | [], _ => rfl
  | (name, _, s) :: rest, slots => by
    simp only [Slots.lay, List.lookup_cons, List.lookup_nil, Slots.lay_cons hk rest slots.2]
    by_cases h : name = key
    · subst h
      simp only [beq_self_eq_true, Keyed.lookup_eq_none hk]
      rfl
    · rw [beq_eq_false_iff_ne.mpr h]

theorem foldlM_fill {fields : List (String × Bool × Shape)} (hf : (fields.map Prod.fst).Nodup) :
    ∀ {entries : List (String × Json)} (slots : Slots fields), (entries.map Prod.fst).Nodup →
      entries.foldlM (fun slots (e : String × Json) => fill fields slots e.1 e.2) slots =
        (entries.forM (decodeEntry fields) >>= fun _ => .ok (Slots.lay fields slots entries))
  | [], slots, _ => by
    rw [Slots.lay_of_not_mem fields slots (by simp)]
    rfl
  | (key, v) :: rest, slots, he => by
    rw [List.map_cons, List.nodup_cons] at he
    rw [List.foldlM_cons, fill_eq key v fields slots hf, List.forM]
    cases decodeEntry fields (key, v) with
    | error e => rfl
    | ok u =>
      rw [Except.ok_bind, Except.ok_bind, Except.ok_bind, foldlM_fill hf _ he.2,
        Slots.lay_cons he.1 fields slots]

theorem complete_lay {entries : List (String × Json)} :
    ∀ {fields : List (String × Bool × Shape)},
      (∀ f ∈ fields, ∀ v, entries.lookup f.1 = some v → ∃ x, decode f.2.2 v = .ok x) →
      Slots.complete fields (Slots.lay fields (Slots.empty fields) entries) = gather fields entries
  | [], _ => rfl
  | (name, isNeeded, s) :: rest, h => by
    rw [List.forall_mem_cons] at h
    have ih := complete_lay h.2
    simp only [Slots.empty, Slots.lay, Slots.complete, gather]
    cases hl : entries.lookup name with
    | none => simp only [ih]
    | some v =>
      obtain ⟨x, hx⟩ := h.1 v hl
      simp only [hx, ih, Except.ok_bind]

theorem forM_eq_ok {α : Type} {f : α → Except DecodeError Unit} :
    ∀ {xs : List α}, xs.forM f = .ok () ↔ ∀ x ∈ xs, f x = .ok ()
  | [] => by simp [List.forM, pure, Except.pure]
  | x :: rest => by
    rw [List.forM, Except.bind_eq_ok, List.forall_mem_cons, ← forM_eq_ok]
    exact ⟨fun ⟨_, h⟩ => h, fun h => ⟨(), h⟩⟩

theorem decode_of_forM {fields : List (String × Bool × Shape)} {entries : List (String × Json)}
    (hf : (fields.map Prod.fst).Nodup) (h : entries.forM (decodeEntry fields) = .ok ()) :
    ∀ f ∈ fields, ∀ v, entries.lookup f.1 = some v → ∃ x, decode f.2.2 v = .ok x := by
  intro f hm v hv
  have hk := forM_eq_ok.mp h _ (Keyed.mem_of_lookup hv)
  rw [decodeEntry, Keyed.lookup_of_mem hf hm] at hk
  obtain ⟨x, hx, -⟩ := Except.map_eq_ok.mp hk
  exact ⟨x, hx⟩

/-- **A record is its fields by name.** -/
theorem decode_map (title : String) {fields : List (String × Bool × Shape)}
    {entries : List (String × Json)} (hf : (fields.map Prod.fst).Nodup)
    (he : (entries.map Prod.fst).Nodup) : decode (.record title fields) (.map entries) =
      (entries.forM (decodeEntry fields) >>= fun _ => gather fields entries) := by
  rw [decode_record_map, foldlM_fill hf (Slots.empty fields) he]
  cases h : entries.forM (decodeEntry fields) with
  | error e => rfl
  | ok u =>
    rw [Except.ok_bind, Except.ok_bind]
    exact complete_lay (decode_of_forM hf h)

/-! ## The values of the fields -/

/-- What holds of each field of a record and its value. -/
def Each (P : (f : String × Bool × Shape) → f.2.2.Value → Prop) :
    (fields : List (String × Bool × Shape)) → Values fields → Prop
  | [], _ => True
  | (name, isNeeded, s) :: rest, xs => P (name, isNeeded, s) xs.1 ∧ Each P rest xs.2

theorem Each.exists {P : (f : String × Bool × Shape) → f.2.2.Value → Prop} :
    ∀ {fields : List (String × Bool × Shape)} {xs : Values fields}, Each P fields xs →
      ∀ f ∈ fields, ∃ x, P f x
  | [], _, _, f, hf => by cases hf
  | (name, isNeeded, s) :: rest, xs, h, f, hf => by
    rcases List.mem_cons.mp hf with rfl | hf
    · exact ⟨xs.1, h.1⟩
    · exact Each.exists h.2 f hf

theorem Each.imp {P Q : (f : String × Bool × Shape) → f.2.2.Value → Prop} :
    ∀ {fields : List (String × Bool × Shape)} {xs : Values fields},
      (∀ f ∈ fields, ∀ x, P f x → Q f x) → Each P fields xs → Each Q fields xs
  | [], _, _, _ => trivial
  | (name, isNeeded, s) :: rest, xs, h, hp => by
    rw [List.forall_mem_cons] at h
    exact ⟨h.1 xs.1 hp.1, hp.2.imp h.2⟩

/-- The value of a field that is taken from the entry of its name. -/
def Taken (entries : List (String × Json)) (f : String × Bool × Shape) (x : f.2.2.Value) : Prop :=
  (∃ v, entries.lookup f.1 = some v ∧ decode f.2.2 v = .ok x) ∨
    entries.lookup f.1 = none ∧ f.2.1 = false ∧ x = f.2.2.blank

theorem gather_of_some {name : String} {isNeeded : Bool} {s : Shape}
    {rest : List (String × Bool × Shape)} {entries : List (String × Json)} {v : Json}
    (h : entries.lookup name = some v) : gather ((name, isNeeded, s) :: rest) entries =
      (decode s v >>= fun x => (gather rest entries).map fun xs => (x, xs)) := by
  simp only [gather, h]
  rfl

theorem gather_of_none {name : String} {s : Shape}
    {rest : List (String × Bool × Shape)} {entries : List (String × Json)}
    (h : entries.lookup name = none) : gather ((name, false, s) :: rest) entries =
      (gather rest entries).map fun xs => (s.blank, xs) := by
  simp only [gather, h]
  rfl

theorem gather_of_missing {name : String} {s : Shape}
    {rest : List (String × Bool × Shape)} {entries : List (String × Json)}
    (h : entries.lookup name = none) :
    gather ((name, true, s) :: rest) entries = .error (.missingField name) := by
  simp only [gather, h]
  rfl

theorem gather_eq_ok_iff {entries : List (String × Json)} :
    ∀ {fields : List (String × Bool × Shape)} {xs : Values fields},
      gather fields entries = .ok xs ↔ Each (Taken entries) fields xs
  | [], _ => iff_of_true rfl trivial
  | (name, isNeeded, s) :: rest, xs => by
    have ih : ∀ ys : Values rest, gather rest entries = .ok ys ↔ Each (Taken entries) rest ys :=
      fun ys => gather_eq_ok_iff
    refine Iff.trans ?_ (and_congr_right fun _ => ih xs.2)
    unfold Taken
    cases hl : entries.lookup name with
    | some v =>
      rw [gather_of_some hl]
      constructor
      · intro h
        obtain ⟨y, hy, h⟩ := Except.bind_eq_ok.mp h
        obtain ⟨ys, hys, rfl⟩ := Except.map_eq_ok.mp h
        exact ⟨.inl ⟨v, rfl, hy⟩, hys⟩
      · rintro ⟨⟨v', hv, hx⟩ | ⟨hv, -⟩, hxs⟩
        · cases hv
          exact Except.bind_eq_ok.mpr ⟨xs.1, hx, Except.map_eq_ok.mpr ⟨xs.2, hxs, rfl⟩⟩
        · cases hv
    | none =>
      cases isNeeded with
      | true =>
        rw [gather_of_missing hl]
        refine iff_of_false nofun ?_
        rintro ⟨⟨_, hv, -⟩ | ⟨-, hn, -⟩, -⟩
        · cases hv
        · cases hn
      | false =>
        rw [gather_of_none hl]
        constructor
        · intro h
          obtain ⟨ys, hys, rfl⟩ := Except.map_eq_ok.mp h
          exact ⟨.inr ⟨rfl, rfl, rfl⟩, hys⟩
        · rintro ⟨⟨_, hv, -⟩ | ⟨-, -, hx⟩, hxs⟩
          · cases hv
          · exact Except.map_eq_ok.mpr ⟨xs.2, hxs, Prod.ext hx.symm rfl⟩

end BareMetal.Wire
