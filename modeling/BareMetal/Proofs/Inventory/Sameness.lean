import BareMetal.Proofs.Inventory.Stages
import BareMetal.Proofs.Number.Equal
import BareMetal.Proofs.Wire.Form
import Mathlib.Data.Finset.Dedup
import Mathlib.Data.List.Perm.Subperm

/-!
# When two machine states are the same

Tags are compared as a set, storage as a number, zones and domains by their keys,
so states are the same exactly if their `key`s are equal. That is so of states
whose tags are not repeated and whose storage is finite, and payloads are read as
such states. Main statement: `state_sameness`.
-/

namespace BareMetal

/-! ## First equal places -/

section

variable {α κ : Type} {same : α → α → Bool} {key : α → κ}

theorem findIdx_same [DecidableEq κ] {x : α} : ∀ {xs : List α},
    (∀ y ∈ xs, same x y = true ↔ key x = key y) → xs.findIdx (same x) = (xs.map key).idxOf (key x)
  | [], _ => rfl
  | y :: rest, h => by
    rw [List.forall_mem_cons] at h
    have hy : same x y = (key y == key x) := by
      rw [Bool.eq_iff_iff, h.1, beq_iff_eq, eq_comm]
    rw [List.findIdx_cons, List.map_cons, List.idxOf_cons, findIdx_same h.2, hy]

/-- The first equal places are those of the keys. -/
theorem firstSame_eq [DecidableEq κ] {xs : List α}
    (h : ∀ x ∈ xs, ∀ y ∈ xs, same x y = true ↔ key x = key y) :
    firstSame same xs = xs.map fun x => (xs.map key).idxOf (key x) :=
  List.map_congr_left fun x hx => findIdx_same (h x hx)

theorem firstSame_eq_iff (key : α → κ) {xs : List α}
    (h : ∀ x ∈ xs, ∀ y ∈ xs, same x y = true ↔ key x = key y) {i j : Nat} {a b : α}
    (ha : xs[i]? = some a) (hb : xs[j]? = some b) :
    (firstSame same xs)[i]? = (firstSame same xs)[j]? ↔ same a b = true := by
  classical
  have hmem := List.mem_of_getElem? ha
  rw [firstSame_eq h, List.getElem?_map, List.getElem?_map, ha, hb, Option.map_some, Option.map_some,
    Option.some.injEq, List.idxOf_inj (List.mem_map_of_mem hmem), h a hmem b (List.mem_of_getElem? hb)]

/-- Where the element is the same as itself, the list has a first one that is, not after it. -/
theorem exists_first {xs : List α} {i : Nat} {a : α} (ha : xs[i]? = some a) (hsame : same a a = true) :
    ∃ k ≤ i, (firstSame same xs)[i]? = some k ∧ (∃ b, xs[k]? = some b ∧ same a b = true) ∧
      ∀ l < k, ∀ b, xs[l]? = some b → same a b = false := by
  obtain ⟨hi, rfl⟩ := List.getElem?_eq_some_iff.mp ha
  -- The search ends at the element itself, if not before.
  have hle : xs.findIdx (same xs[i]) ≤ i := by
    by_contra hlt
    rw [List.not_of_lt_findIdx (Nat.not_le.mp hlt)] at hsame
    cases hsame
  have hlt : xs.findIdx (same xs[i]) < xs.length := hle.trans_lt hi
  refine ⟨xs.findIdx (same xs[i]), hle, ?_, ?_, fun l hl b hb => ?_⟩
  · rw [firstSame, List.getElem?_map, ha, Option.map_some]
  · exact ⟨_, List.getElem?_eq_getElem hlt, List.findIdx_getElem⟩
  · obtain ⟨_, rfl⟩ := List.getElem?_eq_some_iff.mp hb
    simpa using List.not_of_lt_findIdx hl

end

/-! ## Tags -/

theorem nodup_eraseDups {α : Type} [BEq α] [LawfulBEq α] : ∀ xs : List α, xs.eraseDups.Nodup
  | [] => by simp
  | x :: rest => by
    rw [List.eraseDups_cons, List.nodup_cons]
    refine ⟨?_, nodup_eraseDups (rest.filter fun y => !y == x)⟩
    simp [List.mem_eraseDups]
termination_by xs => xs.length
decreasing_by exact Nat.lt_succ_of_le (List.length_filter_le _ rest)

namespace MachineState

theorem sameTags_iff {a b : List String} (ha : a.Nodup) (hb : b.Nodup) :
    sameTags a b = true ↔ a.toFinset = b.toFinset := by
  rw [sameTags, Bool.and_eq_true, beq_iff_eq, List.all_eq_true, List.toFinset.ext_iff,
    ← List.perm_ext_iff_of_nodup ha hb]
  constructor
  · intro h
    have hsub : a ⊆ b := fun t ht => by simpa using h.2 t ht
    exact (ha.subperm hsub).perm_of_length_le h.1.ge
  · intro h
    exact ⟨h.length_eq, fun t ht => by simpa using h.mem_iff.mp ht⟩

theorem sameStorage_iff {x y : Option Binary64} :
    sameStorage x y = true ↔ x.map Binary64.toRat = y.map Binary64.toRat := by
  cases x with
  | none => cases y <;> simp [sameStorage]
  | some x => cases y <;> simp [sameStorage, Binary64.numEq_iff]

/-! ## States -/

/-- The fields that are compared as they are. -/
def plain (s : MachineState) :=
  (s.hostname, s.fqdn, s.memory, s.cpuCount, s.operatingSystem, s.distroSeries, s.architecture,
    s.status, s.statusName, s.statusMessage, s.owner)

/-- All that is compared of a state. -/
def key (s : MachineState) :=
  (s.tags.toFinset, s.storage.map Binary64.toRat, s.zone.name, s.domain.id, s.powerState,
    s.ipAddresses, s.plain)

theorem same_iff {a b : MachineState} (ha : a.tags.Nodup) (hb : b.tags.Nodup) :
    a.same b = true ↔ a.key = b.key := by
  simp only [same, Bool.and_eq_true, beq_iff_eq, sameTags_iff ha hb, sameStorage_iff, Zone.same,
    Domain.same, key, plain, Prod.mk.injEq]
  tauto

end MachineState

/-! ## What a payload says -/

namespace Json

/-- The entry of a map under a key. -/
def under? (key : String) : Json → Option Json
  | .map entries => entry? key entries
  | _ => none

def text? : Json → Option String
  | .string s => some s
  | _ => none

def textUnder? (key : String) (p : Json) : Option String := (p.under? key).bind text?

def textsUnder (key : String) (p : Json) : List String :=
  match p.under? key with
  | some (.list items) => items.filterMap text?
  | _ => []

/-- The value of the number under a key, as it is read. -/
def valueUnder? (key : String) (p : Json) : Option ℚ :=
  match p.under? key with
  | some (.number n) => some n.rounded
  | _ => none

end Json

namespace Wire

theorem decode_text_eq_ok {v : Json} {s : String} (h : decode .text v.wholeFloatsAsInts = .ok s) :
    v = .string s := by
  cases v with
  | string t =>
    cases h
    rfl
  | _ => cases h

theorem decode_texts_eq_ok {v : Json} {xs : List String}
    (h : decode (.sequence .text) v.wholeFloatsAsInts = .ok xs) : v = .list (xs.map .string) := by
  cases v with
  | list items =>
    rw [Json.wholeFloatsAsInts_list, decode_sequence_list, List.mapM_map] at h
    have hitems : items = xs.map .string := by
      have hall := Except.mapM_eq_ok.mp h
      clear h
      induction hall with
      | nil => rfl
      | cons hx _ ih => rw [List.map_cons, decode_text_eq_ok hx, ← ih]
    rw [hitems]
  | _ => cases h

section

variable {entries : List (String × Json)} {name : String}

theorem Found.text {s : String} (h : Found entries (needed name .text) s) :
    (Json.map entries).textUnder? name = some s := by
  obtain ⟨v, hv, hd⟩ := h.of_needed
  rw [Json.textUnder?, Json.under?, Json.entry?, hv, decode_text_eq_ok hd]
  rfl

theorem Found.texts {xs : List String} (h : Found entries (needed name (.sequence .text)) xs) :
    (Json.map entries).textsUnder name = xs := by
  obtain ⟨v, hv, hd⟩ := h.of_needed
  rw [Json.textsUnder, Json.under?, Json.entry?, hv, decode_texts_eq_ok hd]
  simp [List.filterMap_map, Function.comp_def, Json.text?]

theorem Found.value {x : Option Binary64} (h : Found entries (defaulted name (.nullable .real)) x) :
    x.map Binary64.toRat = (Json.map entries).valueUnder? name := by
  rw [Json.valueUnder?, Json.under?, Json.entry?]
  rcases h with ⟨v, hv, hd⟩ | ⟨hv, -, hx⟩
  · have hv : entries.lookup name = some v := hv
    rw [hv]
    by_cases hnull : v = .null
    · subst hnull
      cases hd
      rfl
    · have hd := (decode_nullable (mt Json.wholeFloatsAsInts_eq_null.mp hnull)).symm.trans hd
      obtain ⟨y, hy, rfl⟩ := Except.map_eq_ok.mp hd
      obtain ⟨n, rfl, hn⟩ := toRat_of_decodeReal hy
      exact congrArg some hn
  · have hv : entries.lookup name = none := hv
    rw [hv, hx]
    rfl

end

end Wire

namespace Inventory

open Wire

/-- What the payload of a machine says of its state. -/
structure Describes (p : Json) (s : MachineState) : Prop where
  /-- Each tag once, whatever the order. -/
  tags : s.tags.Nodup ∧ ∀ tag, tag ∈ s.tags ↔ tag ∈ p.textsUnder "tag_names"
  ipAddresses : s.ipAddresses = p.textsUnder "ip_addresses"
  powerState : (p.textUnder? "power_state").map .ofString = some s.powerState
  storage : s.storage.map Binary64.toRat = p.valueUnder? "storage"

/-- A state that some payload is read as. -/
def IsRead (s : MachineState) : Prop :=
  ∃ version p m, p.Ordered ∧ readMachine version p = .ok m ∧ m.state = s

def stateOf : Wire.machine.Value → MachineState
  | (_, _, hostname, fqdn, tags, ipAddresses, memory, cpuCount, powerState, operatingSystem,
      distroSeries, architecture, status, statusName, statusMessage, owner, zone, domain, _, _, _, _,
      storage, _) =>
    { hostname, fqdn
      tags := List.eraseDups (α := String) tags
      ipAddresses
      memory := count memory
      cpuCount := count cpuCount
      powerState := .ofString powerState
      operatingSystem, distroSeries, architecture
      status := status.val
      statusName, statusMessage, owner
      zone := zoneOf zone
      domain := domainOf domain
      storage }

theorem state_of_machineOf {w : Wire.machine.Value} {m : Machine} (h : machineOf w = .ok m) :
    m.state = stateOf w := by
  obtain ⟨systemId, resourceUri, hostname, fqdn, tags, ipAddresses, memory, cpuCount, powerState,
    operatingSystem, distroSeries, architecture, status, statusName, statusMessage, owner, zone,
    domain, boot, ws, blockDevices, physicalBlockDevices, storage, u⟩ := w
  simp only [machineOf] at h
  split at h
  · cases h
  · split at h
    · cases h
      rfl
    · split at h
      · cases h
        rfl
      · cases h

theorem describes_of_read {version : Version} {p : Json} {m : Machine} (ho : p.Ordered)
    (h : readMachine version p = .ok m) : Describes p m.state := by
  obtain ⟨passes, w, decodes, assembles⟩ := stages_of_readOne (k := .machine) h
  obtain ⟨entries, rfl⟩ := Kind.isMap_of_check passes
  have hfound := each_found (by decide) ho decodes
  obtain ⟨-, -, -, -, tags, ipAddresses, -, -, powerState, -, -, -, -, -, -, -, -, -, -, -, -, -,
    storage, -⟩ := hfound
  rw [state_of_machineOf assembles]
  refine ⟨⟨nodup_eraseDups _, fun tag => ?_⟩, ?_, ?_, storage.value⟩
  · rw [tags.texts]
    exact List.mem_eraseDups
  · exact ipAddresses.texts.symm
  · rw [powerState.text]
    rfl

/-- What two payloads have in common if they are read as the same state. -/
structure SameState (p q : Json) (a b : MachineState) : Prop where
  tags : ∀ tag, tag ∈ p.textsUnder "tag_names" ↔ tag ∈ q.textsUnder "tag_names"
  ipAddresses : p.textsUnder "ip_addresses" = q.textsUnder "ip_addresses"
  zone : a.zone.name = b.zone.name
  domain : a.domain.id = b.domain.id
  storage : a.storage.map Binary64.toRat = b.storage.map Binary64.toRat
  powerState : p.textUnder? "power_state" = q.textUnder? "power_state"
  plain : a.plain = b.plain

theorem Describes.same_iff {p q : Json} {a b : MachineState} (ha : Describes p a) (hb : Describes q b) :
    a.same b = true ↔ SameState p q a b := by
  have htags : a.tags.toFinset = b.tags.toFinset ↔
      ∀ tag, tag ∈ p.textsUnder "tag_names" ↔ tag ∈ q.textsUnder "tag_names" := by
    rw [List.toFinset.ext_iff]
    exact forall_congr' fun tag => iff_congr (ha.tags.2 tag) (hb.tags.2 tag)
  have hpower : a.powerState = b.powerState ↔
      p.textUnder? "power_state" = q.textUnder? "power_state" := by
    have hinj := Option.map_injective (Function.LeftInverse.injective PowerState.toString_ofString)
    rw [← hinj.eq_iff, ha.powerState, hb.powerState, Option.some.injEq]
  rw [MachineState.same_iff ha.tags.1 hb.tags.1]
  simp only [MachineState.key, Prod.mk.injEq, htags, hpower, ha.ipAddresses, hb.ipAddresses]
  constructor
  · intro ⟨tags, storage, zone, domain, powerState, ipAddresses, plain⟩
    exact ⟨tags, ipAddresses, zone, domain, storage, powerState, plain⟩
  · intro h
    exact ⟨h.tags, h.storage, h.zone, h.domain, h.powerState, h.ipAddresses, h.plain⟩

/-- For each machine the place of the first one whose state is the same. -/
def places (ms : List Machine) : List Nat := firstSame (fun m n => m.state.same n.state) ms

theorem IsRead.nodup_tags {s : MachineState} (h : IsRead s) : s.tags.Nodup := by
  obtain ⟨version, p, m, ho, hm, rfl⟩ := h
  exact (describes_of_read ho hm).tags.1

theorem IsRead.same_iff {a b : MachineState} (ha : IsRead a) (hb : IsRead b) :
    a.same b = true ↔ a.key = b.key :=
  MachineState.same_iff ha.nodup_tags hb.nodup_tags

theorem IsRead.same_self {s : MachineState} (h : IsRead s) : s.same s = true := (h.same_iff h).mpr rfl

/-- **Two payloads are read as the same state exactly if they agree** in their tags as a set, the
value of their storage, their zone by its name, their domain by its id, and all else of the state as
it is. On states that are read this is an equivalence, and in a list of machines each has a first one
of its class, in one place for the whole class and for no other. -/
theorem state_sameness :
    (∀ version p m, p.Ordered → readMachine version p = .ok m → Describes p m.state) ∧
    (∀ v v' p q m n, p.Ordered → q.Ordered → readMachine v p = .ok m → readMachine v' q = .ok n →
      (m.state.same n.state = true ↔ SameState p q m.state n.state)) ∧
    Equivalence (fun a b : {s // IsRead s} => a.val.same b.val = true) ∧
    ∀ ms : List Machine, (∀ m ∈ ms, IsRead m.state) → ∀ (i : Nat) (m : Machine), ms[i]? = some m →
      (∃ k ≤ i, (places ms)[i]? = some k ∧
        (∃ n, ms[k]? = some n ∧ m.state.same n.state = true) ∧
        ∀ l < k, ∀ n, ms[l]? = some n → m.state.same n.state = false) ∧
      ∀ (j : Nat) (n : Machine), ms[j]? = some n →
        ((places ms)[i]? = (places ms)[j]? ↔ m.state.same n.state = true) := by
  refine ⟨fun _ _ _ => describes_of_read, fun v v' p q m n hp hq hm hn => ?agree, ?equivalence,
    fun ms hms i m hm => ⟨?first, fun j n hn => ?places⟩⟩
  case agree => exact (describes_of_read hp hm).same_iff (describes_of_read hq hn)
  case equivalence =>
    refine ⟨fun a => a.property.same_self, fun {a b} h => ?_, fun {a b c} h h' => ?_⟩
    · rw [a.property.same_iff b.property] at h
      exact (b.property.same_iff a.property).mpr h.symm
    · rw [a.property.same_iff b.property] at h
      rw [b.property.same_iff c.property] at h'
      exact (a.property.same_iff c.property).mpr (h.trans h')
  case first => exact exists_first hm (hms m (List.mem_of_getElem? hm)).same_self
  case places =>
    exact firstSame_eq_iff (fun m => m.state.key)
      (fun m hm n hn => (hms m hm).same_iff (hms n hn)) hm hn

/-- A machine that is not owned, without interfaces and block devices. -/
def bareMachine (tags : List String) (storage : Json.Number) : Json := .ofEntries [
  ("system_id", .string "4y3h7n"),
  ("resource_uri", .string "/MAAS/api/2.0/machines/4y3h7n/"),
  ("hostname", .string "lab"),
  ("fqdn", .string "lab.maas"),
  ("tag_names", .list (tags.map .string)),
  ("ip_addresses", .list []),
  ("memory", .number (.int ⟨1024, by decide⟩)),
  ("cpu_count", .number (.int ⟨1, by decide⟩)),
  ("power_state", .string "on"),
  ("osystem", .string ""),
  ("distro_series", .string ""),
  ("architecture", .string "amd64/generic"),
  ("status", .number (.int ⟨6, by decide⟩)),
  ("status_name", .string "Deployed"),
  ("status_message", .null),
  ("owner", .null),
  ("zone", .ofEntries [
    ("name", .string "default"),
    ("description", .string ""),
    ("resource_uri", .string "/MAAS/api/2.0/zones/default/")]),
  ("domain", .ofEntries [
    ("id", .number (.int ⟨0, Binary64.zero_inRange⟩)),
    ("name", .string "maas"),
    ("resource_uri", .string "/MAAS/api/2.0/domains/0/")]),
  ("boot_interface", .null),
  ("interface_set", .list []),
  ("blockdevice_set", .list []),
  ("storage", .number storage)]

theorem bareMachine_ordered (tags : List String) (storage : Json.Number) :
    (bareMachine tags storage).Ordered := by
  have hlist (xs : List String) : (Json.list (xs.map .string)).Ordered := by
    refine .list fun v hv => ?_
    obtain ⟨x, -, rfl⟩ := List.mem_map.mp hv
    exact .string x
  have hempty : (Json.list []).Ordered := hlist []
  unfold bareMachine
  simp only [Json.ordered_ofEntries, List.forall_mem_cons, Json.Ordered.string, Json.Ordered.number,
    Json.Ordered.null, hlist, hempty, List.not_mem_nil, false_implies, implies_true, and_true]

/-- Tags in another order and one of them twice, and the same storage spelled as a float. -/
theorem state_sameness_bareMachine :
    ∃ p q m n, readMachine version20 p = .ok m ∧ readMachine version20 q = .ok n ∧
      m.state.tags = ["virtual", "ssd"] ∧ n.state.tags = ["ssd", "virtual"] ∧
      m.state.same n.state = true ∧ SameState p q m.state n.state := by
  let p := bareMachine ["virtual", "ssd", "virtual"] (.int ⟨8, by decide⟩)
  let q := bareMachine ["ssd", "virtual"] (.float ⟨false, 4503599627370496, -49,
      by decide, by decide, by decide, .inl (by decide)⟩)
  obtain ⟨m, n, hm, hn, htags, htags', hsame⟩ :
      ∃ m n, readMachine version20 p = .ok m ∧ readMachine version20 q = .ok n ∧
        m.state.tags = ["virtual", "ssd"] ∧ n.state.tags = ["ssd", "virtual"] ∧
        m.state.same n.state = true := by
    refine ⟨_, _, rfl, rfl, ?_, ?_, ?_⟩
    · rfl
    · rfl
    · rfl
  have ho : p.Ordered := bareMachine_ordered _ _
  have ho' : q.Ordered := bareMachine_ordered _ _
  exact ⟨p, q, m, n, hm, hn, htags, htags', hsame,
    (state_sameness.2.1 version20 version20 p q m n ho ho' hm hn).mp hsame⟩

end Inventory

end BareMetal
