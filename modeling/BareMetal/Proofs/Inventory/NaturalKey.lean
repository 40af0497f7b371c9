import BareMetal.Proofs.Inventory.Sameness
import Mathlib.Data.Finset.Card

/-!
# Shared entities by their natural keys

Zones, domains, VLANs and subnets are compared and hashed by one field, their key
(`KeyedBy`). So a set of them has one element for each key, as many as there are
places in the list that hold the first one of their key, and these places do not
depend on other fields. Main statement: `natural_keys`.
-/

namespace BareMetal

/-! ## Types that are compared and hashed by a key -/

section

variable {α κ : Type} [Hashed α]

/-- Equality compares the keys, and the keys are what hashers take in. -/
structure KeyedBy (key : α → κ) : Prop where
  same_iff (x y : α) : Hashed.same x y = true ↔ key x = key y
  feed_iff (x y : α) :
    (∀ (H : Hasher) (state : H.State), Hashed.feed H state x = Hashed.feed H state y) ↔ key x = key y

variable {key : α → κ} (keyed : KeyedBy key) {H : Hasher}
include keyed

theorem KeyedBy.meets_iff (x y : α) : Hashed.meets H x y = true ↔ key x = key y := by
  rw [Hashed.meets, Bool.and_eq_true, beq_iff_eq, keyed.same_iff]
  refine and_iff_right_of_imp fun h => ?_
  rw [Hashed.code, Hashed.code, (keyed.feed_iff x y).mpr h]

namespace HashSet

theorem nodup_keys (set : HashSet H α) : (set.elements.map key).Nodup := by
  refine List.pairwise_map.mpr (set.distinct.imp fun {y x} h heq => ?_)
  rw [(keyed.meets_iff x y).mpr heq.symm] at h
  cases h

theorem mem_keys_insert (set : HashSet H α) (x : α) (k : κ) :
    k ∈ (set.insert x).elements.map key ↔ k ∈ set.elements.map key ∨ k = key x := by
  by_cases h : set.elements.any (Hashed.meets H x) = true
  · obtain ⟨y, hy, hmeets⟩ := List.any_eq_true.mp h
    rw [insert, dif_pos h]
    refine (or_iff_left_of_imp ?_).symm
    rintro rfl
    rw [(keyed.meets_iff x y).mp hmeets]
    exact List.mem_map_of_mem hy
  · rw [insert, dif_neg h, List.map_append, List.mem_append, List.map_singleton, List.mem_singleton]

theorem mem_keys_ofList (xs : List α) (k : κ) :
    k ∈ (ofList xs : HashSet H α).elements.map key ↔ k ∈ xs.map key := by
  induction xs using List.reverseRecOn with
  | nil => simp [ofList, empty]
  | append_singleton xs x ih =>
    rw [ofList, List.foldl_concat, mem_keys_insert keyed, List.map_append, List.mem_append,
      List.map_singleton, List.mem_singleton, ← ih, ofList]

theorem size_ofList [DecidableEq κ] (xs : List α) :
    (ofList xs : HashSet H α).size = (xs.map key).toFinset.card := by
  have hkeys : (xs.map key).toFinset = ((ofList xs : HashSet H α).elements.map key).toFinset := by
    ext k
    rw [List.mem_toFinset, List.mem_toFinset, mem_keys_ofList keyed]
  rw [hkeys, List.toFinset_card_of_nodup (nodup_keys keyed _), List.length_map, size]

end HashSet

end

/-! ## First places -/

/-- The places in a list that are their own first equal place. -/
def ownPlaces {α : Type} (same : α → α → Bool) (xs : List α) : Finset Nat :=
  {i ∈ Finset.range xs.length | (firstSame same xs)[i]? = some i}

section

variable {α κ : Type} [Hashed α] [DecidableEq κ] {key : α → κ} (keyed : KeyedBy key)
include keyed

theorem KeyedBy.firstSame_eq (xs : List α) :
    firstSame Hashed.same xs = (xs.map key).map (xs.map key).idxOf := by
  rw [BareMetal.firstSame_eq fun x _ y _ => keyed.same_iff x y, List.map_map]
  rfl

theorem KeyedBy.firstSame_congr {xs ys : List α} (h : ys.map key = xs.map key) :
    firstSame Hashed.same ys = firstSame Hashed.same xs := by
  rw [keyed.firstSame_eq, keyed.firstSame_eq, h]

/-- Each key has one place that is its own first. -/
theorem KeyedBy.ownPlaces_eq (xs : List α) :
    ownPlaces Hashed.same xs = (xs.map key).toFinset.image (xs.map key).idxOf := by
  ext i
  rw [ownPlaces, Finset.mem_filter, Finset.mem_range, keyed.firstSame_eq, List.getElem?_map,
    Option.map_eq_some_iff, Finset.mem_image]
  constructor
  · intro ⟨_, k, hk, hi⟩
    exact ⟨k, List.mem_toFinset.mpr (List.mem_of_getElem? hk), hi⟩
  · intro ⟨k, hk, hi⟩
    have hlt := List.idxOf_lt_length_of_mem (List.mem_toFinset.mp hk)
    subst hi
    refine ⟨by simpa using hlt, k, ?_, rfl⟩
    rw [List.getElem?_eq_getElem hlt, List.getElem_idxOf hlt]

theorem KeyedBy.card_ownPlaces (xs : List α) :
    (ownPlaces Hashed.same xs).card = (xs.map key).toFinset.card := by
  rw [keyed.ownPlaces_eq]
  refine Finset.card_image_of_injOn fun k hk l _ heq => ?_
  exact (List.idxOf_inj (List.mem_toFinset.mp hk)).mp heq

end

/-! ## The four types -/

/-- The hasher that keeps all it takes in. -/
def Hasher.recording : Hasher where
  State := List (String ⊕ Int)
  start := []
  text state s := .inl s :: state
  integer state n := .inr n :: state
  finish _ := 0

theorem feed_text_iff {s t : String} :
    (∀ (H : Hasher) (state : H.State), H.text state s = H.text state t) ↔ s = t := by
  constructor
  · intro h
    have hlast : [Sum.inl s] = [Sum.inl t] := h .recording []
    exact Sum.inl.inj (List.singleton_inj.mp hlast)
  · rintro rfl H state
    rfl

theorem feed_integer_iff {m n : Int} :
    (∀ (H : Hasher) (state : H.State), H.integer state m = H.integer state n) ↔ m = n := by
  constructor
  · intro h
    have hlast : [Sum.inr m] = [Sum.inr n] := h .recording []
    exact Sum.inr.inj (List.singleton_inj.mp hlast)
  · rintro rfl H state
    rfl

theorem Zone.keyedBy : KeyedBy Zone.name where
  same_iff x y := by simp [Hashed.same, same]
  feed_iff _ _ := feed_text_iff

theorem Domain.keyedBy : KeyedBy Domain.id where
  same_iff x y := by simp [Hashed.same, same]
  feed_iff _ _ := feed_integer_iff

theorem Vlan.keyedBy : KeyedBy Vlan.id where
  same_iff x y := by simp [Hashed.same, same]
  feed_iff _ _ := feed_integer_iff

theorem Subnet.keyedBy : KeyedBy Subnet.id where
  same_iff x y := by simp [Hashed.same, same]
  feed_iff _ _ := feed_integer_iff

/-! ## Keys in payloads -/

/-- The whole number under a key, however it is spelled. -/
def Json.integerUnder? (key : String) (p : Json) : Option Int :=
  match p.under? key with
  | some (.number n) => n.whole?.map Subtype.val
  | _ => none

namespace Wire

theorem Found.integer {entries : List (String × Json)} {name : String} {w : Word}
    {x : {n : Int // w.Holds n}} (h : Found entries (needed name (.integer w)) x) :
    (Json.map entries).integerUnder? name = some x.val := by
  obtain ⟨v, hv, hd⟩ := h.of_needed
  obtain ⟨k, hk, hx⟩ := decodeInteger_eq_ok.mp hd
  rw [Json.integerUnder?, Json.under?, Json.entry?, hv]
  cases v with
  | number n =>
    rw [Json.wholeFloatsAsInts_number, Json.number.injEq] at hk
    have hn : n.whole? = some k := by
      rw [← n.whole?_wholeAsInt, hk, Json.Number.whole?]
    simp only [hn, Option.map_some, hx]
  | _ => simp [Json.wholeFloatsAsInts] at hk

end Wire

namespace Inventory

open Schema Wire

section

variable {k : Kind} {version : Version}

/-- What is read was decoded from the entries of a map. -/
theorem exists_decode_of_readOne {p : Json} {e : k.Entity} (h : readOne k.table version p = .ok e) :
    ∃ entries w, p = .map entries ∧
      decode k.shape (Json.map entries).wholeFloatsAsInts = .ok w ∧ k.assemble w = .ok e := by
  obtain ⟨passes, w, decodes, assembles⟩ := stages_of_readOne h
  obtain ⟨entries, rfl⟩ := Kind.isMap_of_check passes
  exact ⟨entries, w, rfl, decodes, assembles⟩

theorem name_of_readOne {p : Json} {z : Zone} (ho : p.Ordered)
    (h : readOne zoneTable version p = .ok z) : p.textUnder? "name" = some z.name := by
  obtain ⟨entries, w, rfl, decodes, assembles⟩ := exists_decode_of_readOne (k := .zone) h
  obtain ⟨name, -⟩ := each_found (by decide) ho decodes
  cases assembles
  exact name.text

theorem domain_id_of_readOne {p : Json} {d : Domain} (ho : p.Ordered)
    (h : readOne domainTable version p = .ok d) : p.integerUnder? "id" = some d.id := by
  obtain ⟨entries, w, rfl, decodes, assembles⟩ := exists_decode_of_readOne (k := .domain) h
  obtain ⟨id, -⟩ := each_found (by decide) ho decodes
  cases assembles
  exact id.integer

theorem vlan_id_of_readOne {p : Json} {v : Vlan} (ho : p.Ordered)
    (h : readOne vlanTable version p = .ok v) : p.integerUnder? "id" = some v.id := by
  obtain ⟨entries, w, rfl, decodes, assembles⟩ := exists_decode_of_readOne (k := .vlan) h
  obtain ⟨id, -⟩ := each_found (by decide) ho decodes
  cases assembles
  exact id.integer

theorem subnet_id_of_readOne {p : Json} {s : Subnet} (ho : p.Ordered)
    (h : readOne subnetTable version p = .ok s) : p.integerUnder? "id" = some s.id := by
  obtain ⟨entries, w, rfl, decodes, assembles⟩ := exists_decode_of_readOne (k := .subnet) h
  obtain ⟨id, -⟩ := each_found (by decide) ho decodes
  cases assembles
  exact id.integer

end

/-- What the elements of a list that is read say, one by one, are the keys of what they are read as. -/
theorem keys_of_readList {α κ : Type} {table : VersionTable (Reader α)} {key : α → κ}
    {said : Json → Option κ}
    (each : ∀ version p x, p.Ordered → readOne table version p = .ok x → said p = some (key x))
    {version : Version} {payload : Json} {xs : List α} (ordered : payload.Ordered)
    (h : readList table version payload = .ok xs) :
    ∃ items, payload = .list items ∧ items.map said = xs.map (some ∘ key) := by
  obtain ⟨items, rfl, reads⟩ := forall₂_of_readList h
  refine ⟨items, rfl, ?_⟩
  have hitems := ordered.items
  clear h ordered
  induction reads with
  | nil => rfl
  | cons hx _ ih =>
    rw [List.forall_mem_cons] at hitems
    rw [List.map_cons, List.map_cons, each _ _ _ hitems.1 hx, ih hitems.2, Function.comp_apply]

/-- The key of a type of entities, and what a payload says it is. -/
structure NaturalKey {α κ : Type} [Hashed α] [DecidableEq κ] (table : VersionTable (Reader α))
    (key : α → κ) (said : Json → Option κ) : Prop where
  keyed : KeyedBy key
  read : ∀ version payload xs, payload.Ordered → readList table version payload = .ok xs →
    ∃ items, payload = .list items ∧ items.map said = xs.map (some ∘ key)
  /-- A set has one element for each key. -/
  size : ∀ (H : Hasher) (xs : List α), (HashSet.ofList xs : HashSet H α).size = (xs.map key).toFinset.card
  /-- So have the places that are their own first equal place. -/
  places : ∀ xs : List α, (ownPlaces Hashed.same xs).card = (xs.map key).toFinset.card
  /-- Whatever else is replaced in whichever elements, the first equal places stay. -/
  kept : ∀ xs ys : List α, ys.map key = xs.map key →
    firstSame Hashed.same ys = firstSame Hashed.same xs

theorem KeyedBy.naturalKey {α κ : Type} [Hashed α] [DecidableEq κ] {table : VersionTable (Reader α)}
    {key : α → κ} {said : Json → Option κ} (keyed : KeyedBy key)
    (each : ∀ version p x, p.Ordered → readOne table version p = .ok x → said p = some (key x)) :
    NaturalKey table key said where
  keyed := keyed
  read _ _ _ := keys_of_readList each
  size _ := HashSet.size_ofList keyed
  places := keyed.card_ownPlaces
  kept _ _ := keyed.firstSame_congr

/-- **Zones are told apart by their names, domains, VLANs and subnets by their ids**, in equality and
in hashing alike. -/
theorem natural_keys :
    NaturalKey zoneTable Zone.name (Json.textUnder? "name") ∧
    NaturalKey domainTable Domain.id (Json.integerUnder? "id") ∧
    NaturalKey vlanTable Vlan.id (Json.integerUnder? "id") ∧
    NaturalKey subnetTable Subnet.id (Json.integerUnder? "id") :=
  ⟨KeyedBy.naturalKey Zone.keyedBy fun _ _ _ => name_of_readOne,
    KeyedBy.naturalKey Domain.keyedBy fun _ _ _ => domain_id_of_readOne,
    KeyedBy.naturalKey Vlan.keyedBy fun _ _ _ => vlan_id_of_readOne,
    KeyedBy.naturalKey Subnet.keyedBy fun _ _ _ => subnet_id_of_readOne⟩

/-- Three zones, the last one a copy of the first with another description. -/
def copiedZone : Json := .list [
  .ofEntries [("name", .string "default"), ("description", .string ""), ("resource_uri", .string "/z/1/")],
  .ofEntries [("name", .string "lab"), ("description", .string ""), ("resource_uri", .string "/z/2/")],
  .ofEntries [("name", .string "default"), ("description", .string "old"), ("resource_uri", .string "/z/1/")]]

theorem natural_keys_copiedZone : ∃ zs, readList zoneTable version20 copiedZone = .ok zs ∧
    zs.map Zone.name = ["default", "lab", "default"] ∧
    (HashSet.ofList zs : HashSet .fnv Zone).size = 2 ∧ (ownPlaces Hashed.same zs).card = 2 := by
  obtain ⟨zs, hread, hnames⟩ : ∃ zs, readList zoneTable version20 copiedZone = .ok zs ∧
      zs.map Zone.name = ["default", "lab", "default"] := ⟨_, rfl, rfl⟩
  have hcard : (zs.map Zone.name).toFinset.card = 2 := by
    rw [hnames]
    decide
  refine ⟨zs, hread, hnames, ?_, ?_⟩
  · rw [natural_keys.1.size, hcard]
  · rw [natural_keys.1.places, hcard]

end Inventory

end BareMetal
