import BareMetal.Proofs.Action.History

/-!
# What a run asks of its transport

Machines are addressed as they were when they were read, so the requests of a run
are known before it begins: responses, failures and the version have no part in
them. Main statement: `run_requests`, on any transport that records its calls.
-/

namespace BareMetal.Action

variable {n : Nat}

/-- The request by which an action addresses the machine at `uri`. -/
inductive Sends (uri : String) : Action → Call → Prop
  | start (args : StartArgs) : Sends uri (.start args) (.post uri "deploy" args.form)
  | deploy (args : StartArgs) : Sends uri (.deploy args) (.post uri "deploy" args.form)
  | powerOn (args : PowerOnArgs) : Sends uri (.powerOn args) (.post uri "power_on" args.form)
  | powerOff (args : PowerOffArgs) : Sends uri (.powerOff args) (.post uri "power_off" args.form)
  | release (args : ReleaseArgs) : Sends uri (.release args) (.post uri "release" args.form)
  | refresh : Sends uri .refresh (.get uri)

theorem sends_call (uri : String) (a : Action) : Sends uri a (a.call uri) := by
  cases a with
  | start args => exact .start args
  | deploy args => exact .deploy args
  | powerOn args => exact .powerOn args
  | powerOff args => exact .powerOff args
  | release args => exact .release args
  | refresh => exact .refresh

/-- The request of a step, if the machines are addressed as they are now. -/
def Step.request (s : Step n) (machines : Vector Machine n) : Call :=
  s.action.call (s.machine machines).resourceUri

/-! ## Requests of a run -/

theorem perform_call (version : Version) (machines : Vector Machine n) (s : Step n)
    (answer : Call → Outcome) : (perform version machines s answer).call = s.request machines := by
  unfold perform
  dsimp only
  split <;> rfl

/-- A step leaves the addresses of all machines as they are. -/
theorem perform_request (version : Version) (machines : Vector Machine n) (s : Step n)
    (answer : Call → Outcome) (s' : Step n) :
    s'.request (perform version machines s answer).machines = s'.request machines := by
  -- A response replaces the state of a machine, and the address is no part of it.
  have hbuild := (machinesAfter_latest version machines [(s, answer)] s'.target).1
  exact congrArg s'.action.call hbuild.resourceUri

theorem run_calls (version : Version) (events : List (Event n)) :
    ∀ machines : Vector Machine n,
      (run version machines events).map (·.call) = events.map fun e => e.1.request machines := by
  induction events with
  | nil => intro machines; rfl
  | cons e rest ih =>
    intro machines
    obtain ⟨s, answer⟩ := e
    rw [run, List.map_cons, List.map_cons, perform_call, ih]
    simp only [perform_request]

/-! ## Transports with a state -/

/-- A transport that keeps something of its own from one request to the next. -/
abbrev Transport (σ : Type) := Call → σ → Outcome × σ

variable {σ : Type}

def Transport.recording (t : Transport σ) : Transport (σ × List Call) := fun call (own, calls) =>
  let (outcome, own) := t call own
  (outcome, own, calls ++ [call])

/-- Carries out a step: sends the request of its action and settles the outcome. -/
def performOn (t : Transport σ) (version : Version) (machines : Vector Machine n) (s : Step n)
    (own : σ) : Record n × σ :=
  let m := s.machine machines
  let call := s.action.call m.resourceUri
  let (outcome, own) := t call own
  match settle version m outcome with
  | .ok m' => (⟨call, .ok (), machines.set s.target m' s.target_lt⟩, own)
  | .error e => (⟨call, .error e, machines⟩, own)

def runOn (t : Transport σ) (version : Version) :
    Vector Machine n → List (Step n) → σ → List (Record n) × σ
  | _, [], own => ([], own)
  | machines, s :: rest, own =>
    let (r, own) := performOn t version machines s own
    let (later, own) := runOn t version r.machines rest own
    (r :: later, own)

theorem performOn_eq (t : Transport σ) (version : Version) (machines : Vector Machine n) (s : Step n)
    (own : σ) : performOn t version machines s own =
      (perform version machines s fun _ => (t (s.request machines) own).1,
        (t (s.request machines) own).2) := by
  have hm : s.machine machines = machines[s.target] := rfl
  unfold Step.request performOn perform
  rw [hm]
  dsimp only
  cases h : settle version machines[s.target]
      (t (s.action.call machines[s.target].resourceUri) own).1 with
  | ok m' => rfl
  | error e => rfl

/-- **A run on a transport with a state is a run**, with the outcomes that the transport gave. -/
theorem exists_run (t : Transport σ) (version : Version) (steps : List (Step n)) :
    ∀ (machines : Vector Machine n) (own : σ), ∃ events : List (Event n),
      events.map Prod.fst = steps ∧ (runOn t version machines steps own).1 = run version machines events := by
  induction steps with
  | nil => intro machines own; exact ⟨[], rfl, rfl⟩
  | cons s rest ih =>
    intro machines own
    let first := performOn t version machines s own
    obtain ⟨events, hsteps, hrun⟩ := ih first.1.machines first.2
    refine ⟨(s, fun _ => (t (s.request machines) own).1) :: events, by rw [List.map_cons, hsteps], ?_⟩
    have hfirst : first.1 = perform version machines s fun _ => (t (s.request machines) own).1 := by
      simp only [first, performOn_eq]
    rw [runOn, run]
    dsimp only
    rw [← hfirst, ← hrun]

theorem recorded (t : Transport σ) (version : Version) (steps : List (Step n)) :
    ∀ (machines : Vector Machine n) (own : σ) (calls : List Call),
      (runOn t.recording version machines steps (own, calls)).2.2 =
        calls ++ (runOn t.recording version machines steps (own, calls)).1.map (·.call) := by
  induction steps with
  | nil =>
    intro machines own calls
    exact (List.append_nil calls).symm
  | cons s rest ih =>
    intro machines own calls
    simp only [runOn, performOn_eq, Transport.recording, ih, List.map_cons, perform_call,
      List.append_assoc, List.singleton_append]

/-- **The requests of a run are known before it begins.** Each step sends the one request of its
action, to the address its machine had at the beginning, on any transport, whatever it answers and
whatever the version. -/
theorem run_requests (machines : Vector Machine n) (steps : List (Step n)) :
    ∃ trace : List Call,
      List.Forall₂ (fun s call => Sends (s.machine machines).resourceUri s.action call) steps trace ∧
      (∀ (version : Version) (events : List (Event n)), events.map Prod.fst = steps →
        (run version machines events).map (·.call) = trace) ∧
      ∀ (σ : Type) (t : Transport σ) (version : Version) (own : σ),
        (∃ events, events.map Prod.fst = steps ∧
          (runOn t.recording version machines steps (own, [])).1 = run version machines events) ∧
        ∀ k, (runOn t.recording version machines (steps.take k) (own, [])).2.2 = trace.take k := by
  have hcalls (version : Version) (steps : List (Step n)) (events : List (Event n))
      (hsteps : events.map Prod.fst = steps) :
      (run version machines events).map (·.call) = steps.map (·.request machines) := by
    rw [run_calls, ← hsteps, List.map_map]
    rfl
  refine ⟨steps.map (·.request machines), ?_, fun version events => hcalls version steps events,
    fun σ t version own => ⟨exists_run t.recording version steps machines (own, []), fun k => ?_⟩⟩
  · rw [List.forall₂_map_right_iff]
    exact List.forall₂_same.mpr fun s _ => sends_call _ s.action
  · obtain ⟨events, hsteps, hrun⟩ := exists_run t.recording version (steps.take k) machines (own, [])
    rw [recorded, hrun, hcalls version _ events hsteps, List.nil_append, List.map_take]

end BareMetal.Action
