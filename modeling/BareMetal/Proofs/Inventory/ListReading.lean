import BareMetal.Inventory.Reading
import BareMetal.Proofs.Except
import BareMetal.Proofs.Schema.Passing
import BareMetal.Proofs.Version.Table
import Mathlib.Data.List.Forall2

/-!
# Reading a list through its elements

A list is read in three passes over its elements, a single payload in one go.
`ListReading` says what comes of a list in terms of what comes of each element
read alone. Main statement: `readList_iff`.
-/

namespace BareMetal

/-! ## Passes over a list -/

theorem exists_forall₂ {α β : Type} {p : α → β → Prop} :
    ∀ {xs : List α}, (∃ ys, List.Forall₂ p xs ys) ↔ ∀ x ∈ xs, ∃ y, p x y
  | [] => ⟨by simp, fun _ => ⟨[], .nil⟩⟩
  | x :: rest => by
    have ih : (∃ ys, List.Forall₂ p rest ys) ↔ _ := exists_forall₂
    rw [List.forall_mem_cons, ← ih]
    constructor
    · rintro ⟨_, h⟩
      cases h with
      | cons hy hys => exact ⟨⟨_, hy⟩, _, hys⟩
    · rintro ⟨⟨_, hy⟩, _, hys⟩
      exact ⟨_, .cons hy hys⟩

/-- A computation succeeds on all elements of a list, or there is a first one on which it fails. -/
theorem forall_ok_or_first_error {ε α β : Type} (f : α → Except ε β) :
    ∀ xs : List α, (∀ x ∈ xs, ∃ y, f x = .ok y) ∨
      ∃ before x after e, xs = before ++ x :: after ∧ (∀ b ∈ before, ∃ y, f b = .ok y) ∧
        f x = .error e
  | [] => .inl (by simp)
  | x :: rest => by
    cases hx : f x with
    | error e => exact .inr ⟨[], x, rest, e, rfl, by simp, hx⟩
    | ok y =>
      rcases forall_ok_or_first_error f rest with h | ⟨before, x', after, e, rfl, hb, he⟩
      · exact .inl (List.forall_mem_cons.mpr ⟨⟨y, hx⟩, h⟩)
      · exact .inr ⟨x :: before, x', after, e, rfl, List.forall_mem_cons.mpr ⟨⟨y, hx⟩, hb⟩, he⟩

namespace Schema

variable {f : Json → Except Violation Unit}

theorem checkItems_eq_error {x : Json} {after : List Json} {v : Violation} (hx : f x = .error v) :
    ∀ {before : List Json} {i : Nat}, (∀ b ∈ before, f b = .ok ()) →
      checkItems f i (before ++ x :: after) = .error (v.under (.index (i + before.length)))
  | [], _, _ => by simp only [List.nil_append, checkItems, hx, List.length_nil, Nat.add_zero]
  | b :: before, i, h => by
    rw [List.forall_mem_cons] at h
    rw [List.cons_append, checkItems, h.1]
    simp only [checkItems_eq_error hx h.2, List.length_cons, Nat.add_right_comm, Nat.add_assoc]

end Schema

namespace Inventory

open Schema

variable {α : Type}

theorem eachElement_eq_ok {kind : String} {f : Json → Except ReadFault α} :
    ∀ {xs : List Json} {ys : List α} {i : Nat}, List.Forall₂ (fun x y => f x = .ok y) xs ys →
      eachElement kind f i xs = .ok ys
  | [], [], _, .nil => rfl
  | x :: xs, y :: ys, i, .cons hx h => by
    simp only [eachElement, hx, eachElement_eq_ok h, Except.map]

theorem eachElement_eq_error {kind : String} {f : Json → Except ReadFault α} {x : Json}
    {after : List Json} {fault : ReadFault} (hx : f x = .error fault) :
    ∀ {before : List Json} {i : Nat}, (∀ b ∈ before, ∃ y, f b = .ok y) →
      eachElement kind f i (before ++ x :: after) =
        .error (.element kind (i + before.length) fault)
  | [], _, _ => by simp only [List.nil_append, eachElement, hx, List.length_nil, Nat.add_zero]
  | b :: before, i, h => by
    rw [List.forall_mem_cons] at h
    obtain ⟨⟨y, hy⟩, h⟩ := h
    rw [List.cons_append, eachElement, hy]
    simp only [eachElement_eq_error hx h, Except.map, List.length_cons, Nat.add_right_comm,
      Nat.add_assoc]

/-! ## The outer form -/

/-- The outer form that is asked of every element. -/
def IsMap (v : Json) : Prop := ∃ entries, v = .map entries

theorem checkEntries_any (entries : List (String × Json)) :
    checkEntries (fun _ => .ok ()) entries = .ok () := by
  induction entries with
  | nil => rfl
  | cons e rest ih => exact ih

theorem check_map_any {v : Json} (h : IsMap v) : check (.map .any) v = .ok () := by
  obtain ⟨entries, rfl⟩ := h
  simp only [check, checkAt, checkEntries_any]

theorem check_map_any_of_not {v : Json} (h : ¬ IsMap v) :
    check (.map .any) v = .error ⟨[], .map, describe (some v)⟩ := by
  cases v with
  | map entries => exact absurd ⟨entries, rfl⟩ h
  | _ => rfl

theorem isMap_of_check {v : Json} (h : check (.map .any) v = .ok ()) : IsMap v := by
  by_cases hv : IsMap v
  · exact hv
  · rw [check_map_any_of_not hv] at h
    cases h

theorem check_list_maps {items : List Json} (maps : ∀ x ∈ items, IsMap x) :
    check (.list (.map .any)) (.list items) = .ok () := by
  simp only [check, checkAt]
  exact checkItems_eq_ok.mpr fun x hx => check_map_any (maps x hx)

theorem check_list_not_map {before after : List Json} {item : Json}
    (maps : ∀ x ∈ before, IsMap x) (form : ¬ IsMap item) :
    check (.list (.map .any)) (.list (before ++ item :: after)) =
      .error ⟨[.index before.length], .map, describe (some item)⟩ := by
  simp only [check, checkAt]
  refine (checkItems_eq_error (check_map_any_of_not form) fun x hx => check_map_any (maps x hx)).trans ?_
  rw [Nat.zero_add]
  rfl

/-! ## Reading -/

section

variable (table : VersionTable (Reader α)) (version : Version)

/-- What comes of a list, said through what comes of its elements when each is read alone. -/
inductive ListReading : Json → Except Error (List α) → Prop
  | unsupported {payload : Json} {u : Unsupported} (unresolved : table.resolve version = .error u) :
      ListReading payload (.error (.unsupportedVersion
        ("no " ++ table.kind ++ " read func for version " ++ version.text)))
  | notList {payload : Json} {reader : Reader α} (resolved : table.resolve version = .ok reader)
      (form : ∀ items, payload ≠ .list items) :
      ListReading payload (.error (.deserialization (table.kind ++
        " base schema check failed: expected list, got " ++ describe (some payload))))
  | notMap {before after : List Json} {item : Json} {reader : Reader α}
      (resolved : table.resolve version = .ok reader)
      (maps : ∀ x ∈ before, IsMap x) (form : ¬ IsMap item) :
      ListReading (.list (before ++ item :: after)) (.error (.deserialization (table.kind ++
        " base schema check failed: [" ++ toString before.length ++ "]: expected map, got " ++
        describe (some item))))
  | schema {before after : List Json} {item : Json} {kind label : String} {v : Violation}
      (maps : ∀ x ∈ before ++ item :: after, IsMap x)
      (lowest : ∀ x ∈ before, ∀ kind label v,
        readOne table version x ≠ .error (.schema kind label v))
      (fails : readOne table version item = .error (.schema kind label v)) :
      ListReading (.list (before ++ item :: after)) (.error (.deserialization (table.kind ++ " " ++
        toString before.length ++ ": " ++ (ReadFault.schema kind label v).message)))
  | build {before after : List Json} {item : Json} {kind label : String} {f : BuildFault}
      (maps : ∀ x ∈ before ++ item :: after, IsMap x)
      (schemas : ∀ x ∈ before ++ item :: after, ∀ kind label v,
        readOne table version x ≠ .error (.schema kind label v))
      (lowest : ∀ x ∈ before, ∃ e, readOne table version x = .ok e)
      (fails : readOne table version item = .error (.build kind label f)) :
      ListReading (.list (before ++ item :: after)) (.error (.deserialization (table.kind ++ " " ++
        toString before.length ++ ": " ++ (ReadFault.build kind label f).message)))
  | read {items : List Json} {es : List α} {reader : Reader α}
      (resolved : table.resolve version = .ok reader)
      (each : List.Forall₂ (fun x e => readOne table version x = .ok e) items es) :
      ListReading (.list items) (.ok es)

end

theorem Reader.checkSchema_error {reader : Reader α} {kind : String} {x : Json} {e : ReadFault}
    (h : reader.checkSchema kind x = .error e) : ∃ v, e = .schema kind reader.label v := by
  obtain ⟨v, -, rfl⟩ := Except.mapError_eq_error.mp h
  exact ⟨v, rfl⟩

theorem Reader.materialize_error {reader : Reader α} {kind : String} {x : Json} {e : ReadFault}
    (h : reader.materialize kind x = .error e) : ∃ f, e = .build kind reader.label f := by
  obtain ⟨f, -, rfl⟩ := Except.mapError_eq_error.mp h
  exact ⟨f, rfl⟩

section

variable {table : VersionTable (Reader α)} {version : Version} {reader : Reader α}
variable (hr : table.resolve version = .ok reader)
include hr

/-! ### One element -/

theorem readOne_of_map {x : Json} (hx : IsMap x) : readOne table version x =
    (reader.checkSchema table.kind x >>= fun _ => reader.materialize table.kind x) := by
  simp only [readOne, resolveReader, hr, check_map_any hx]
  rfl

theorem isMap_of_readOne {x : Json} {e : α} (h : readOne table version x = .ok e) : IsMap x := by
  by_cases hx : IsMap x
  · exact hx
  · simp only [readOne, resolveReader, hr, check_map_any_of_not hx] at h
    cases h

theorem readOne_eq_schema {x : Json} (hx : IsMap x) {kind label : String} {v : Violation} :
    readOne table version x = .error (.schema kind label v) ↔
      reader.checkSchema table.kind x = .error (.schema kind label v) := by
  rw [readOne_of_map hr hx, Except.bind_eq_error]
  refine ⟨fun h => ?_, .inl⟩
  rcases h with h | ⟨_, -, h⟩
  · exact h
  · obtain ⟨f, hf⟩ := Reader.materialize_error h
    cases hf

theorem readOne_ne_schema {x : Json} (hx : IsMap x) :
    (∀ kind label v, readOne table version x ≠ .error (.schema kind label v)) ↔
      reader.checkSchema table.kind x = .ok () := by
  constructor
  · intro h
    cases hc : reader.checkSchema table.kind x with
    | ok u => rfl
    | error e =>
      obtain ⟨v, rfl⟩ := Reader.checkSchema_error hc
      exact absurd ((readOne_eq_schema hr hx).mpr hc) (h _ _ v)
  · intro h kind label v hs
    rw [readOne_eq_schema hr hx, h] at hs
    cases hs

theorem readOne_eq_build {x : Json} (hx : IsMap x) {kind label : String} {f : BuildFault} :
    readOne table version x = .error (.build kind label f) ↔
      reader.checkSchema table.kind x = .ok () ∧
        reader.materialize table.kind x = .error (.build kind label f) := by
  rw [readOne_of_map hr hx, Except.bind_eq_error]
  constructor
  · rintro (h | ⟨u, hc, hm⟩)
    · obtain ⟨v, hv⟩ := Reader.checkSchema_error h
      cases hv
    · exact ⟨hc, hm⟩
  · exact fun h => .inr ⟨(), h⟩

theorem readOne_eq_ok {x : Json} (hx : IsMap x) {e : α} :
    readOne table version x = .ok e ↔
      reader.checkSchema table.kind x = .ok () ∧ reader.materialize table.kind x = .ok e := by
  rw [readOne_of_map hr hx, Except.bind_eq_ok]
  exact ⟨fun ⟨_, h⟩ => h, fun h => ⟨(), h⟩⟩

/-! ### The list -/

theorem readList_of_maps {items : List Json} (maps : ∀ x ∈ items, IsMap x) :
    readList table version (.list items) =
      (eachElement table.kind (reader.checkSchema table.kind) 0 items >>= fun _ =>
        eachElement table.kind (reader.materialize table.kind) 0 items) := by
  simp only [readList, resolveReader, hr, check_list_maps maps]
  rfl

theorem readList_of_schemas {items : List Json} (maps : ∀ x ∈ items, IsMap x)
    (schemas : ∀ x ∈ items, reader.checkSchema table.kind x = .ok ()) :
    readList table version (.list items) =
      eachElement table.kind (reader.materialize table.kind) 0 items := by
  obtain ⟨us, hus⟩ : ∃ us, List.Forall₂ (fun x u => reader.checkSchema table.kind x = .ok u) items us :=
    exists_forall₂.mpr fun x h => ⟨(), schemas x h⟩
  rw [readList_of_maps hr maps, eachElement_eq_ok hus, Except.ok_bind]

end

/-! ### Both directions -/

variable {table : VersionTable (Reader α)} {version : Version}

theorem resolve_of_readOne {x : Json} {r : Except ReadFault α} (h : readOne table version x = r)
    (hu : ∀ u, r ≠ .error (.unsupported u)) : ∃ reader, table.resolve version = .ok reader := by
  cases hr : table.resolve version with
  | ok reader => exact ⟨reader, rfl⟩
  | error u =>
    simp only [readOne, resolveReader, hr] at h
    exact absurd h.symm (hu u)

theorem readList_of_form {reader : Reader α} (hr : table.resolve version = .ok reader)
    {payload : Json} {v : Violation} (hc : check (.list (.map .any)) payload = .error v) :
    readList table version payload = .error (.outerForm table.kind v) := by
  simp only [readList, resolveReader, hr, hc]
  rfl

theorem ListReading.eq {payload : Json} {r : Except Error (List α)}
    (h : ListReading table version payload r) :
    (readList table version payload).mapError (·.toError) = r := by
  cases h with
  | unsupported hr =>
    cases VersionTable.resolve_eq_error hr
    simp only [readList, resolveReader, hr]
    rfl
  | notList hr form =>
    have hc : check (.list (.map .any)) payload = .error ⟨[], .list, describe (some payload)⟩ := by
      cases payload with
      | list items => exact absurd rfl (form items)
      | _ => rfl
    rw [readList_of_form hr hc]
    simp [ReadFault.toError, ReadFault.message, ← String.toList_inj,
      Violation.message, Violation.place, renderPath, Expected.name]
  | notMap hr maps form =>
    rw [readList_of_form hr (check_list_not_map maps form)]
    simp [ReadFault.toError, ReadFault.message, ← String.toList_inj,
      Violation.message, Violation.place, renderPath, Step.render, Expected.name]
  | schema maps lowest fails =>
    obtain ⟨reader, hr⟩ := resolve_of_readOne fails (by simp)
    obtain ⟨hb, hx⟩ := List.forall_mem_append.mp maps
    rw [readOne_eq_schema hr (hx _ List.mem_cons_self)] at fails
    rw [readList_of_maps hr maps, eachElement_eq_error fails fun x h =>
      ⟨(), (readOne_ne_schema hr (hb x h)).mp (lowest x h)⟩, Nat.zero_add]
    rfl
  | build maps schemas lowest fails =>
    obtain ⟨reader, hr⟩ := resolve_of_readOne fails (by simp)
    obtain ⟨hb, hx⟩ := List.forall_mem_append.mp maps
    rw [readOne_eq_build hr (hx _ List.mem_cons_self)] at fails
    have hs := fun x h => (readOne_ne_schema hr (maps x h)).mp (schemas x h)
    rw [readList_of_schemas hr maps hs, eachElement_eq_error fails.2 fun x h =>
      (lowest x h).imp fun e he => ((readOne_eq_ok hr (hb x h)).mp he).2, Nat.zero_add]
    rfl
  | read hr each =>
    have heach := exists_forall₂.mp ⟨_, each⟩
    have maps := fun x h => (heach x h).elim fun e he => isMap_of_readOne hr he
    have hs := fun x h => (heach x h).elim fun e he => ((readOne_eq_ok hr (maps x h)).mp he).1
    have hm := each.imp fun x e he => ((readOne_eq_ok hr (isMap_of_readOne hr he)).mp he).2
    rw [readList_of_schemas hr maps hs, eachElement_eq_ok hm]
    rfl

theorem exists_listReading_of_maps {reader : Reader α} (hr : table.resolve version = .ok reader)
    {items : List Json} (maps : ∀ x ∈ items, IsMap x) :
    ∃ r, ListReading table version (.list items) r := by
  rcases forall_ok_or_first_error (reader.checkSchema table.kind) items with
    hs | ⟨before, x, after, e, rfl, hb, he⟩
  · have schemas := fun x h => (readOne_ne_schema hr (maps x h)).mpr ((hs x h).elim fun _ h => h)
    rcases forall_ok_or_first_error (readOne table version) items with
      he | ⟨before, x, after, e, rfl, hb, he⟩
    · obtain ⟨es, hes⟩ := exists_forall₂.mpr he
      exact ⟨_, .read hr hes⟩
    · have hx : x ∈ before ++ x :: after := List.mem_append_right _ List.mem_cons_self
      -- The schema of `x` holds, so its fault is one of building it.
      have hm := he
      rw [readOne_of_map hr (maps x hx), (readOne_ne_schema hr (maps x hx)).mp (schemas x hx),
        Except.ok_bind] at hm
      obtain ⟨f, rfl⟩ := Reader.materialize_error hm
      exact ⟨_, .build maps schemas hb he⟩
  · obtain ⟨hmb, hmx⟩ := List.forall_mem_append.mp maps
    obtain ⟨v, rfl⟩ := Reader.checkSchema_error he
    refine ⟨_, .schema maps (fun b h => ?_) ((readOne_eq_schema hr (hmx x List.mem_cons_self)).mpr he)⟩
    exact (readOne_ne_schema hr (hmb b h)).mpr ((hb b h).elim fun _ h => h)

theorem exists_listReading (table : VersionTable (Reader α)) (version : Version) (payload : Json) :
    ∃ r, ListReading table version payload r := by
  cases hr : table.resolve version with
  | error u => exact ⟨_, .unsupported hr⟩
  | ok reader =>
    by_cases hl : ∃ items, payload = .list items
    · obtain ⟨items, rfl⟩ := hl
      rcases forall_ok_or_first_error (check (.map .any)) items with
        maps | ⟨before, x, after, e, rfl, maps, form⟩
      · replace maps := fun x h => (maps x h).elim fun _ hx => isMap_of_check hx
        exact exists_listReading_of_maps hr maps
      · refine ⟨_, .notMap hr (fun b h => (maps b h).elim fun _ hb => isMap_of_check hb) fun hx => ?_⟩
        rw [check_map_any hx] at form
        cases form
    · exact ⟨_, .notList hr fun items h => hl ⟨items, h⟩⟩

theorem forall₂_of_readList {payload : Json} {es : List α} (h : readList table version payload = .ok es) :
    ∃ items, payload = .list items ∧
      List.Forall₂ (fun x e => readOne table version x = .ok e) items es := by
  obtain ⟨r, hr⟩ := exists_listReading table version payload
  have hok : r = .ok es := by
    rw [← hr.eq, h]
    rfl
  subst hok
  cases hr with
  | read resolved each => exact ⟨_, rfl, each⟩

end Inventory

end BareMetal
