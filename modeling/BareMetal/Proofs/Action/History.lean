import BareMetal.Action.Run
import BareMetal.Proofs.Except
import BareMetal.Proofs.Inventory.Assembly
import Mathlib.Data.List.Induction

/-!
# Histories of machines

What a run of actions makes of the machines. A step succeeds exactly when its
outcome `Brings` a state to the machine it addresses, and then the machine has
that state and is otherwise as it was built. Main statement: `run_history`,
after each step every machine has the state that was brought to it last.
-/

namespace BareMetal

namespace Machine

/-- `m'` is built as `m` is: the two differ in their states at most. -/
structure SameBuild (m m' : Machine) : Prop where
  systemId : m'.systemId = m.systemId
  resourceUri : m'.resourceUri = m.resourceUri
  interfaces : m'.interfaces = m.interfaces
  boot : HEq m'.boot m.boot
  blockDevices : m'.blockDevices = m.blockDevices
  physicalBlockDevices : m'.physicalBlockDevices = m.physicalBlockDevices

theorem SameBuild.refl (m : Machine) : SameBuild m m :=
  ⟨rfl, rfl, rfl, HEq.rfl, rfl, rfl⟩

theorem SameBuild.withState {m m' : Machine} (h : SameBuild m m') (s : MachineState) :
    SameBuild m (m'.withState s) :=
  ⟨h.systemId, h.resourceUri, h.interfaces, h.boot, h.blockDevices, h.physicalBlockDevices⟩

theorem SameBuild.bootInterface?_eq {m m' : Machine} (h : SameBuild m m') :
    m'.bootInterface? = m.bootInterface? := by
  obtain ⟨_, _, hi, hb, _, _⟩ := h
  cases m
  cases m'
  cases hi
  cases hb
  rfl

@[simp]
theorem withState_state (m : Machine) (s : MachineState) : (m.withState s).state = s := rfl

end Machine

namespace Action

open Inventory

/-! ## One step -/

/-- The outcome of a request to the machine `systemId` brings it a state: it is a success, its
body is JSON, and that reads as a machine of this id in this state. -/
inductive Brings (version : Version) (systemId : String) : Outcome → MachineState → Prop
  | intro {response : Response} {payload : Json} {update : Machine}
      (success : 200 ≤ response.status ∧ response.status < 300)
      (json : Json.parse response.body = .ok payload)
      (reads : readMachine version payload = .ok update)
      (same : update.systemId = systemId) :
      Brings version systemId (.ok response) update.state

theorem successBody_eq_ok {r : Response} {body : String} :
    r.successBody = .ok body ↔ (200 ≤ r.status ∧ r.status < 300) ∧ body = r.body := by
  unfold Response.successBody classify isSuccess
  by_cases h : 200 ≤ r.status ∧ r.status < 300
  · simp [h, Except.map, eq_comm]
  · have : (decide (200 ≤ r.status) && decide (r.status < 300)) = false := by simpa using h
    simp [this, h, Except.map]

theorem readBody_eq_ok {version : Version} {body : String} {m : Machine} :
    readBody version body = .ok m ↔
      ∃ payload, Json.parse body = .ok payload ∧ readMachine version payload = .ok m := by
  unfold readBody
  simp only [Except.bind_eq_ok, Except.mapError_eq_ok]

theorem mergeFrom_eq_ok {m update m' : Machine} :
    mergeFrom m update = .ok m' ↔
      update.systemId = m.systemId ∧ m' = m.withState update.state := by
  unfold mergeFrom
  by_cases h : update.systemId = m.systemId
  · simp [h, eq_comm]
  · simp [h]

/-- Only the state of the machine changes, and only for an outcome that brings one. -/
theorem settle_eq_ok {version : Version} {m m' : Machine} {outcome : Outcome} :
    settle version m outcome = .ok m' ↔
      ∃ s, Brings version m.systemId outcome s ∧ m' = m.withState s := by
  simp only [settle, Except.bind_eq_ok, successBody_eq_ok, readBody_eq_ok, mergeFrom_eq_ok]
  constructor
  · rintro ⟨response, rfl, _, ⟨hs, rfl⟩, update, ⟨payload, hj, hr⟩, he, rfl⟩
    exact ⟨update.state, .intro hs hj hr he, rfl⟩
  · rintro ⟨_, ⟨hs, hj, hr, he⟩, rfl⟩
    exact ⟨_, rfl, _, ⟨hs, rfl⟩, _, ⟨_, hj, hr⟩, he, rfl⟩

variable {n : Nat}

/-- The machine a step addresses. -/
def Step.machine (s : Step n) (machines : Vector Machine n) : Machine :=
  machines.get s.target

theorem Step.target_lt (s : Step n) : s.target < n := s.target.isLt

/-- A step of a run with what the transport does in it. -/
abbrev Event (n : Nat) := Step n × (Call → Outcome)

/-- The event addresses machine `j` and brings it the state `s`, among machines built as
`machines` are. -/
def Event.Updates (version : Version) (machines : Vector Machine n) (e : Event n) (j : Fin n)
    (s : MachineState) : Prop :=
  e.1.target = j ∧
    Brings version machines[j].systemId (e.2 (e.1.action.call machines[j].resourceUri)) s

theorem perform_cases (version : Version) (machines : Vector Machine n) (e : Event n) :
    (∃ s, e.Updates version machines e.1.target s ∧
      (perform version machines e.1 e.2).result = .ok () ∧
      (perform version machines e.1 e.2).machines =
        machines.set e.1.target (machines[e.1.target].withState s)) ∨
    ((∀ j s, ¬ e.Updates version machines j s) ∧
      (∃ err, (perform version machines e.1 e.2).result = .error err) ∧
      (perform version machines e.1 e.2).machines = machines) := by
  obtain ⟨step, answer⟩ := e
  cases h : settle version machines[step.target]
      (answer (step.action.call machines[step.target].resourceUri)) with
  | ok m' =>
    obtain ⟨s, hb, rfl⟩ := settle_eq_ok.mp h
    refine .inl ⟨s, ⟨rfl, hb⟩, ?_⟩
    simp only [perform, h, and_self]
  | error err =>
    refine .inr ⟨?_, ?_⟩
    · rintro _ s ⟨rfl, hb⟩
      rw [settle_eq_ok.mpr ⟨s, hb, rfl⟩] at h
      cases h
    · simp only [perform, h, Except.error.injEq, exists_eq', and_self]

theorem perform_ok_iff (version : Version) (machines : Vector Machine n) (e : Event n) :
    (perform version machines e.1 e.2).result = .ok () ↔
      ∃ s, e.Updates version machines e.1.target s := by
  rcases perform_cases version machines e with ⟨s, hu, hr, -⟩ | ⟨hn, ⟨err, hr⟩, -⟩
  · exact ⟨fun _ => ⟨s, hu⟩, fun _ => hr⟩
  · refine ⟨fun h => ?_, fun ⟨s, hu⟩ => absurd hu (hn _ s)⟩
    rw [hr] at h
    cases h

theorem perform_of_ne_ok {version : Version} {machines : Vector Machine n} {e : Event n}
    (h : (perform version machines e.1 e.2).result ≠ .ok ()) :
    (∃ err, (perform version machines e.1 e.2).result = .error err) ∧
      (perform version machines e.1 e.2).machines = machines := by
  rcases perform_cases version machines e with ⟨s, -, hr, -⟩ | ⟨-, hr, hm⟩
  · exact absurd hr h
  · exact ⟨hr, hm⟩

/-! ## Runs -/

def machinesAfter (version : Version) (machines : Vector Machine n) (events : List (Event n)) :
    Vector Machine n :=
  events.foldl (fun machines e => (perform version machines e.1 e.2).machines) machines

theorem run_getElem? (version : Version) (events : List (Event n)) :
    ∀ (machines : Vector Machine n) (i : Nat), (run version machines events)[i]? =
      events[i]?.map fun e =>
        perform version (machinesAfter version machines (events.take i)) e.1 e.2 := by
  induction events with
  | nil => intro machines i; rfl
  | cons e rest ih =>
    intro machines i
    cases i with
    | zero => rfl
    | succ i => exact ih _ i

/-- The state that was brought last to machine `j`, or its first state if none was. -/
inductive Latest (version : Version) (machines : Vector Machine n) (j : Fin n) :
    List (Event n) → MachineState → Prop
  | first {events : List (Event n)}
      (untouched : ∀ e ∈ events, ∀ s, ¬ e.Updates version machines j s) :
      Latest version machines j events machines[j].state
  | brought {before after : List (Event n)} {e : Event n} {s : MachineState}
      (here : e.Updates version machines j s)
      (later : ∀ e' ∈ after, ∀ s', ¬ e'.Updates version machines j s') :
      Latest version machines j (before ++ e :: after) s

variable {version : Version} {machines : Vector Machine n} {j : Fin n}

theorem Latest.snoc {events : List (Event n)} {s : MachineState}
    (h : Latest version machines j events s) {e : Event n}
    (he : ∀ s', ¬ e.Updates version machines j s') :
    Latest version machines j (events ++ [e]) s := by
  have hlast : ∀ e' ∈ [e], ∀ s', ¬ e'.Updates version machines j s' := by simpa using he
  cases h with
  | first hn => exact .first (List.forall_mem_append.mpr ⟨hn, hlast⟩)
  | brought hh hl =>
    rw [List.append_assoc, List.cons_append]
    exact .brought hh (List.forall_mem_append.mpr ⟨hl, hlast⟩)

/-- Steps look at nothing of a machine that a run changes. -/
theorem Event.updates_congr (version : Version) {machines' : Vector Machine n}
    (h : ∀ j : Fin n, Machine.SameBuild machines[j] machines'[j]) (e : Event n) (s : MachineState) :
    e.Updates version machines' j s ↔ e.Updates version machines j s := by
  unfold Event.Updates
  rw [(h j).systemId, (h j).resourceUri]

theorem machinesAfter_snoc (events : List (Event n)) (e : Event n) :
    machinesAfter version machines (events ++ [e]) =
      (perform version (machinesAfter version machines events) e.1 e.2).machines := by
  simp [machinesAfter, List.foldl_append]

/-- The invariant of runs: machines are built as before and have their latest states. -/
theorem machinesAfter_latest (version : Version) (machines : Vector Machine n)
    (events : List (Event n)) (j : Fin n) :
    Machine.SameBuild machines[j] (machinesAfter version machines events)[j] ∧
      Latest version machines j events (machinesAfter version machines events)[j].state := by
  induction events using List.reverseRecOn generalizing j with
  | nil => exact ⟨.refl _, .first (by simp)⟩
  | append_singleton events e ih =>
    -- The last step looks at the machines of this moment, but only at what the run has not changed.
    have hc := fun j s => Event.updates_congr version (j := j) (fun k => (ih k).1) e s
    rw [machinesAfter_snoc]
    rcases perform_cases version (machinesAfter version machines events) e with
      ⟨s, hu, -, hm⟩ | ⟨hn, -, hm⟩
    · rw [hm]
      by_cases hj : e.1.target = j
      · subst hj
        simp only [Fin.getElem_fin, Vector.getElem_set_self, Machine.withState_state]
        exact ⟨(ih _).1.withState s, .brought ((hc _ s).mp hu) (by simp)⟩
      · have hne : e.1.target.val ≠ j.val := fun h => hj (Fin.ext h)
        simp only [Fin.getElem_fin, Vector.getElem_set_ne _ _ hne]
        exact ⟨(ih j).1, (ih j).2.snoc fun s' h' => hj h'.1⟩
    · rw [hm]
      exact ⟨(ih j).1, (ih j).2.snoc fun s' h' => hn j s' ((hc j s').mpr h')⟩

/-- The machines before the first step of a run and after each of its steps. -/
def timeline (version : Version) (machines : Vector Machine n) (events : List (Event n)) :
    List (Vector Machine n) :=
  machines :: (run version machines events).map (·.machines)

theorem timeline_getElem? (events : List (Event n)) {i : Nat} (hi : i ≤ events.length) :
    (timeline version machines events)[i]? =
      some (machinesAfter version machines (events.take i)) := by
  cases i with
  | zero => rfl
  | succ i =>
    have he : events[i]? = some events[i] := List.getElem?_eq_getElem hi
    rw [timeline, List.getElem?_cons_succ, List.getElem?_map, run_getElem?, he, List.take_add_one, he,
      Option.toList_some, machinesAfter_snoc]
    rfl

/-- **What a run makes of its machines.** A step succeeds exactly when its outcome brings a state to
the machine it addresses, and a step that fails changes nothing. After each step every machine has
the state brought to it last, is built as it was at the beginning, and its boot interface is still
the entry of its interface set. -/
theorem run_history (version : Version) (machines : Vector Machine n) (events : List (Event n))
    (i : Fin events.length) :
    ∃ r before, (run version machines events)[i.val]? = some r ∧
      (timeline version machines events)[i.val]? = some before ∧
      (timeline version machines events)[i.val + 1]? = some r.machines ∧
      (r.result = .ok () ↔ ∃ s, events[i].Updates version machines events[i].1.target s) ∧
      (r.result ≠ .ok () → (∃ err, r.result = .error err) ∧ r.machines = before) ∧
      ∀ j : Fin n,
        Latest version machines j (events.take (i + 1)) r.machines[j].state ∧
        Machine.SameBuild machines[j] r.machines[j] ∧
        r.machines[j].bootInterface? = machines[j].bootInterface? ∧
        ∀ b, r.machines[j].bootInterface? = some b →
          r.machines[j].interface? b.id = some b ∧ r.machines[j].bootIs? b.id = some true := by
  have he : events[i.val]? = some events[i] := List.getElem?_eq_getElem i.isLt
  have hafter : machinesAfter version machines (events.take (i + 1)) =
      (perform version (machinesAfter version machines (events.take i)) events[i].1
        events[i].2).machines := by
    rw [List.take_add_one, he, Option.toList_some, machinesAfter_snoc]
  have hlatest := machinesAfter_latest version machines
  refine ⟨_, _, by rw [run_getElem?, he, Option.map_some], timeline_getElem? _ (Nat.le_of_lt i.isLt),
    by rw [timeline_getElem? _ i.isLt, hafter], ?_, perform_of_ne_ok, fun j => ?_⟩
  · rw [perform_ok_iff]
    exact exists_congr fun s => Event.updates_congr version (fun j => (hlatest (events.take i) j).1) _ s
  · rw [← hafter]
    obtain ⟨hb, hl⟩ := hlatest (events.take (i + 1)) j
    exact ⟨hl, hb, hb.bootInterface?_eq, fun b => Machine.bootIs?_boot⟩

end Action

end BareMetal
