import BareMetal.Proofs.Inventory.Guarded
import BareMetal.Proofs.Wire.Rereading

/-!
# What is encoded after decoding

A record is encoded with all its entries. `completed` says what that makes of the
value that was decoded: what is unknown is gone, what was absent has its default,
and integers in the places of reals have become floats. Main statement:
`encode_decode`.
-/

namespace BareMetal.Wire

/-- The records that the API has. -/
def models : List Shape :=
  [machine, zone, domain, interface, link, vlan, subnet, blockDevice, partition, filesystem]

/-! ## Completed values -/

/-- What is written for an entry that was left out. -/
def Shape.absent : Shape → Json
  | .flag => .bool false
  | .integer _ => .number (.int ⟨0, Binary64.zero_inRange⟩)
  | .sequence _ => .list []
  | _ => .null

mutual

/-- The value with the entries of its records, all of them and no others, in their order, and with
floats where its shape has reals. -/
def completed : Shape → Json → Json
  | .real, v =>
    match v with
    | .number (.int n) => .number (.float (nearest n))
    | v => v
  | .nullable inner, v => completed inner v
  | .sequence inner, v =>
    match v with
    | .list items => .list (items.map fun item => completed inner item)
    | v => v
  | .record _ fields, v =>
    match v with
    | .map entries => .map (completedFields fields entries)
    | v => v
  | _, v => v

def completedFields : List (String × Bool × Shape) → List (String × Json) → List (String × Json)
  | [], _ => []
  | (name, _, s) :: rest, entries =>
    (name, match entries.lookup name with
      | some v => completed s v
      | none => s.absent) :: completedFields rest entries

end

theorem completed_null (s : Shape) : completed s .null = .null := by
  induction s using Shape.induction with
  | nullable s ih => rw [completed, ih]
  | _ => simp [completed]

/-- The shape is one of those that stand for entries with a default. -/
def Shape.hasDefault : Shape → Bool
  | .flag => true
  | .integer _ => true
  | .nullable _ => true
  | .sequence _ => true
  | _ => false

/-- Every entry that may be left out has a default. -/
def hasDefaults (_ : String) (fields : List (String × Bool × Shape)) : Bool :=
  fields.all fun f => f.2.1 || f.2.2.hasDefault

theorem encode_blank {s : Shape} (h : s.hasDefault = true) : encode s s.blank = s.absent := by
  cases s <;> first | rfl | cases h

theorem models_regular {s : Shape} (h : s ∈ models) :
    s.regular = true ∧ s.everyRecord hasDefaults = true := by
  have hall : (models.all fun s => s.regular && s.everyRecord hasDefaults) = true := rfl
  have hs := List.all_eq_true.mp hall s h
  rwa [Bool.and_eq_true] at hs

/-! ## Encoding what was decoded -/

theorem encodeFields_eq_completed {entries : List (String × Json)} :
    ∀ {fields : List (String × Bool × Shape)} {xs : Values fields}, Each (fun f x => encode f.2.2 x =
      match entries.lookup f.1 with
      | some v => completed f.2.2 v
      | none => f.2.2.absent) fields xs → encodeFields fields xs = completedFields fields entries
  | [], _, _ => rfl
  | (name, isNeeded, s) :: rest, xs, h => by
    rw [encodeFields, completedFields, encodeFields_eq_completed h.2]
    exact congrArg (fun v => (name, v) :: completedFields rest entries) h.1

theorem encode_eq_completed {s : Shape} : ∀ {v : Json} {m : s.Value}, s.regular = true →
    s.everyRecord hasDefaults = true → v.Ordered → ¬ Positional s v → decode s v = .ok m →
      encode s m = completed s v := by
  induction s using Shape.induction with
  | text =>
    intro v m _ _ _ _ h
    cases v with
    | string t => cases h; rfl
    | _ => cases h
  | flag =>
    intro v m _ _ _ _ h
    cases v with
    | bool b => cases h; rfl
    | _ => cases h
  | integer w =>
    intro v m _ _ _ _ h
    obtain ⟨n, rfl, hn⟩ := decodeInteger_eq_ok.mp h
    exact congrArg (fun n => Json.number (.int n)) (Subtype.ext hn.symm)
  | real =>
    intro v m _ _ _ _ h
    cases v with
    | number n => cases n <;> cases h <;> rfl
    | _ => cases h
  | nullable s ih =>
    intro v m hr hd ho hp h
    by_cases hv : v = .null
    · subst hv
      cases h
      exact (completed_null (.nullable s)).symm
    · rw [decode_nullable hv] at h
      obtain ⟨x, hx, rfl⟩ := Except.map_eq_ok.mp h
      rw [Shape.regular, Bool.and_eq_true] at hr
      exact ih hr.2 hd ho (fun hi => hp (.nullable hi)) hx
  | sequence s ih =>
    intro v m hr hd ho hp h
    cases v with
    | list items =>
      rw [decode_sequence_list] at h
      refine congrArg Json.list (Except.map_of_mapM h fun item hi x hx => ?_)
      exact ih hr hd (ho.items item hi) (fun hin => hp (.item hi hin)) hx
    | _ => cases h
  | record title fields ih =>
    intro v m hr hd ho hp h
    obtain ⟨distinct, hrf⟩ := Shape.regular_record.mp hr
    rw [Shape.everyRecord, Bool.and_eq_true, everyFieldRecord_iff] at hd
    cases v with
    | map entries =>
      rw [decode_map title distinct ho.sorted.nodup] at h
      obtain ⟨u, -, hg⟩ := Except.bind_eq_ok.mp h
      rw [encode, completed]
      apply congrArg
      apply encodeFields_eq_completed
      refine (gather_eq_ok_iff.mp hg).imp fun f hf x hx => ?_
      rcases hx with ⟨v, hv, hx⟩ | ⟨hv, hopt, rfl⟩
      · rw [hv]
        exact ih f hf (hrf f hf) (hd.2 f hf) (ho.values _ (Keyed.mem_of_lookup hv))
          (fun hi => hp (.entry hf hv hi)) hx
      · rw [hv]
        have hf := List.all_eq_true.mp hd.1 f hf
        rw [hopt, Bool.false_or] at hf
        exact encode_blank hf
    | list items => exact absurd (.here title fields items) hp
    | _ => cases h

/-! ## Decoding what was encoded -/

/-- **Decoding takes every encoding back**, be its entries in their own order or sorted. -/
theorem decode_encode {s : Shape} : s.regular = true → ∀ m : s.Value,
    decode s (encode s m) = .ok m ∧ decode s (encode s m).arranged = .ok m := by
  induction s using Shape.induction with
  | text => exact fun _ _ => ⟨rfl, rfl⟩
  | flag => exact fun _ _ => ⟨rfl, rfl⟩
  | integer w =>
    intro _ m
    have hm := decodeInteger_eq_ok.mpr ⟨⟨m.val, m.property.wide⟩, rfl, rfl⟩
    exact ⟨hm, hm⟩
  | real => exact fun _ _ => ⟨rfl, rfl⟩
  | nullable s ih =>
    intro hr m
    rw [Shape.regular, Bool.and_eq_true, Bool.not_eq_true'] at hr
    change Option s.Value at m
    cases m with
    | none => exact ⟨rfl, rfl⟩
    | some x =>
      have harranged := encode_ne_null hr.1 x
      have hplain : encode s x ≠ .null := mt Json.arranged_eq_null.mpr harranged
      obtain ⟨h₁, h₂⟩ := ih hr.2 x
      exact ⟨(decode_nullable hplain).trans (congrArg (Except.map some) h₁),
        (decode_nullable harranged).trans (congrArg (Except.map some) h₂)⟩
  | sequence s ih =>
    intro hr ms
    change List s.Value at ms
    rw [encode_sequence, Json.arranged_list, List.map_map, decode_sequence_list, decode_sequence_list,
      List.mapM_map, List.mapM_map]
    exact ⟨Except.mapM_eq_ok.mpr (List.forall₂_same.mpr fun m _ => (ih hr m).1),
      Except.mapM_eq_ok.mpr (List.forall₂_same.mpr fun m _ => (ih hr m).2)⟩
  | record title fields ih =>
    intro hr xs
    obtain ⟨distinct, hrf⟩ := Shape.regular_record.mp hr
    have hkeys := keys_encodeFields xs
    rw [encode_record_arranged]
    constructor
    · apply decode_of_each title distinct (hkeys ▸ distinct)
      exact (lookup_encodeFields xs distinct).imp fun f hf x hx => ⟨_, hx, (ih f hf (hrf f hf) x).1⟩
    · have hsorted : Keyed.Sorted (sortedFields fields xs) := Keyed.sorted_ofList _
      apply decode_of_each title distinct hsorted.nodup
      exact (lookup_sortedFields xs distinct).imp fun f hf x hx => ⟨_, hx, (ih f hf (hrf f hf) x).2⟩

/-- **An encoding is the value it was decoded from, completed**, and it decodes to the same record,
also where that was given as a list. A value that was read from a text is ordered by
`Json.parse_ordered`. -/
theorem encode_decode {s : Shape} (model : s ∈ models) {v : Json} {m : s.Value} (h : decode s v = .ok m) :
    (v.Ordered → ¬ Positional s v → encode s m = completed s v) ∧
    decode s (encode s m) = .ok m ∧ decode s (encode s m).arranged = .ok m ∧
    (decode s (encode s m)).map (encode s) = .ok (encode s m) ∧
    ∀ (n : WideInt) (x : Binary64), |(nearest n).toRat - n.val| ≤ |x.toRat - n.val| := by
  obtain ⟨hr, hd⟩ := models_regular model
  obtain ⟨hplain, harranged⟩ := decode_encode hr m
  refine ⟨fun ho hp => encode_eq_completed hr hd ho hp h, hplain, harranged, ?_, Binary64.nearest_le⟩
  rw [hplain]
  rfl

/-- Three entries are left out here, and one is none of the record's. -/
def sparseInterface : Json := .map [
  ("effective_mtu", .number (.int ⟨1500, by decide⟩)),
  ("enabled", .bool true),
  ("id", .number (.int ⟨10, by decide⟩)),
  ("links", .list []),
  ("mac_address", .string "00:16:3e:00:00:01"),
  ("name", .string "eth0"),
  ("numa_node", .number (.int ⟨0, Binary64.zero_inRange⟩)),
  ("resource_uri", .string "/MAAS/api/2.0/nodes/4y3ha3/interfaces/10/"),
  ("tags", .list []),
  ("type", .string "physical")]

theorem sparseInterface_ordered : sparseInterface.Ordered := by
  refine .map ?_ fun e he => ?_
  · unfold Keyed.Sorted
    decide
  · simp only [List.mem_cons, List.not_mem_nil, or_false] at he
    rcases he with rfl | rfl | rfl | rfl | rfl | rfl | rfl | rfl | rfl | rfl
    · exact .number _
    · exact .bool _
    · exact .number _
    · exact .list (by simp)
    · exact .string _
    · exact .string _
    · exact .number _
    · exact .string _
    · exact .list (by simp)
    · exact .string _

theorem encode_decode_sparseInterface : sparseInterface.Ordered ∧ ¬ Positional interface sparseInterface ∧
    ∃ m, decode interface sparseInterface = .ok m ∧ decode interface (encode interface m) = .ok m ∧
      encode interface m = .map [
        ("id", .number (.int ⟨10, by decide⟩)),
        ("resource_uri", .string "/MAAS/api/2.0/nodes/4y3ha3/interfaces/10/"),
        ("name", .string "eth0"),
        ("type", .string "physical"),
        ("enabled", .bool true),
        ("tags", .list []),
        ("vlan", .null),
        ("links", .list []),
        ("mac_address", .string "00:16:3e:00:00:01"),
        ("effective_mtu", .number (.int ⟨1500, by decide⟩)),
        ("parents", .list []),
        ("children", .list [])] := by
  have hfits : Fits interface sparseInterface :=
    fits_of_check (c := Schema.Api20.interface) rfl rfl
  have hp : ¬ Positional interface sparseInterface := fun h => h.not_fits hfits
  obtain ⟨m, hm⟩ : ∃ m, decode interface sparseInterface = .ok m := ⟨_, rfl⟩
  have hmodel : interface ∈ models := by
    simp [models]
  obtain ⟨hcompleted, hdecode, -⟩ := encode_decode hmodel hm
  exact ⟨sparseInterface_ordered, hp, m, hm, hdecode, hcompleted sparseInterface_ordered hp⟩

end BareMetal.Wire
