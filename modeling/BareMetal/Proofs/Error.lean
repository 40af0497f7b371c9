import BareMetal.Inventory.Reading
import BareMetal.Settings.Fault

/-!
# Contexts and causes

Contexts add to the message of an error about a payload and leave the rest of any
error as it is. What counts of a chain is the outermost error of ours in it, at
any depth; a chain without one has no kind.
-/

namespace BareMetal

/-! ## Contexts -/

namespace Error

variable (e : Error) (context : String) (contexts : List String)

/-- The errors whose messages say where they arose. -/
def OfPayload : Prop := e.kind = .deserialization ∨ e.kind = .unsupportedVersion

instance : Decidable e.OfPayload := inferInstanceAs (Decidable (_ ∨ _))

@[simp]
theorem kind_withContext : (e.withContext context).kind = e.kind := by
  cases e <;> rfl

@[simp]
theorem ofPayload_withContext : (e.withContext context).OfPayload ↔ e.OfPayload := by
  simp [OfPayload]

@[simp]
theorem status?_withContext : (e.withContext context).status? = e.status? := by
  cases e <;> rfl

theorem message_withContext (h : e.OfPayload) :
    (e.withContext context).message = context ++ ": " ++ e.message := by
  cases e <;> first | rfl | simp [OfPayload, kind] at h

theorem withContext_of_not_ofPayload (h : ¬ e.OfPayload) : e.withContext context = e := by
  cases e <;> first | rfl | simp [OfPayload, kind] at h

theorem within_cons : e.within (context :: contexts) = (e.withContext context).within contexts :=
  rfl

/-- What one context keeps, all of them keep. -/
theorem within_keeps {α : Type} {f : Error → α} (h : ∀ e context, f (withContext context e) = f e) :
    f (e.within contexts) = f e := by
  induction contexts generalizing e with
  | nil => rfl
  | cons context rest ih => rw [within_cons, ih, h]

@[simp]
theorem kind_within : (e.within contexts).kind = e.kind := e.within_keeps contexts kind_withContext

@[simp]
theorem status?_within : (e.within contexts).status? = e.status? :=
  e.within_keeps contexts status?_withContext

theorem message_within (h : e.OfPayload) :
    (e.within contexts).message = String.join (contexts.reverse.map (· ++ ": ")) ++ e.message := by
  induction contexts generalizing e with
  | nil => simp [within]
  | cons context rest ih =>
    have hnext := ih (e.withContext context) ((ofPayload_withContext e context).mpr h)
    rw [within_cons, hnext, message_withContext e context h]
    simp [String.join_append, String.append_assoc]

theorem within_of_not_ofPayload (h : ¬ e.OfPayload) : e.within contexts = e := by
  induction contexts with
  | nil => rfl
  | cons context rest ih => rw [within_cons, withContext_of_not_ofPayload e context h, ih]

end Error

/-- The place of a list element is a context of the fault that is found there. -/
theorem Inventory.ReadFault.toError_element (kind : String) (i : Nat) {fault : ReadFault}
    (h : fault.toError.kind = .deserialization) :
    (element kind i fault).toError = fault.toError.withContext (kind ++ " " ++ toString i) := by
  cases fault <;> first | rfl | simp [toError, Error.kind] at h

/-! ## Chains -/

namespace Chain

/-- The errors of a chain, the outermost first. -/
def errors : Chain → List AnyError
  | last top => [top]
  | caused top cause => top :: cause.errors

def top : Chain → AnyError
  | last top => top
  | caused top _ => top

theorem exists_errors_eq (c : Chain) : ∃ below, c.errors = c.top :: below := by
  cases c with
  | last top => exact ⟨[], rfl⟩
  | caused top cause => exact ⟨cause.errors, rfl⟩

theorem errors_wrap (n : Nat) (c : Chain) :
    (wrap n c).errors = List.replicate n .foreign ++ c.errors := by
  induction n with
  | zero => rfl
  | succ n ih => rw [wrap, errors, ih, List.replicate_succ, List.cons_append]

theorem wrap_caused (n : Nat) (c : Chain) : wrap n (.caused .foreign c) = wrap (n + 1) c := by
  induction n with
  | zero => rfl
  | succ n ih => exact congrArg (caused .foreign) ih

/-- Foreign errors above an error of ours do not hide it, and what caused it does not count. -/
theorem kind?_of_outermost {c : Chain} {above below : List AnyError} {e : Error}
    (hc : c.errors = above ++ .ours e :: below) (ha : ∀ x ∈ above, x = .foreign) :
    c.kind? = some e.kind := by
  induction c generalizing above with
  | last top =>
    cases above with
    | nil =>
      obtain ⟨rfl, -⟩ := List.cons.inj hc
      rfl
    | cons x above => simp [errors] at hc
  | caused top cause ih =>
    cases above with
    | nil =>
      obtain ⟨rfl, -⟩ := List.cons.inj hc
      rfl
    | cons x above =>
      obtain ⟨rfl, hcause⟩ := List.cons.inj hc
      obtain ⟨rfl, habove⟩ := List.forall_mem_cons.mp ha
      exact ih hcause habove

theorem kind?_of_foreign {c : Chain} (h : ∀ e, .ours e ∉ c.errors) : c.kind? = none := by
  induction c with
  | last top =>
    cases top with
    | ours e => exact absurd List.mem_cons_self (h e)
    | foreign => rfl
  | caused top cause ih =>
    cases top with
    | ours e => exact absurd List.mem_cons_self (h e)
    | foreign => exact ih fun e he => h e (List.mem_cons_of_mem _ he)

/-- Of the kinds that can be asked for, a chain is of the one it has. -/
theorem filter_isKind (c : Chain) :
    ErrorKind.askable.filter c.isKind = (c.kind?.filter (· != .transport)).toList := by
  unfold isKind
  cases c.kind? with
  | none => rfl
  | some k => cases k <;> rfl

/-- What callers can find out about a chain. -/
structure SeenAs (c : Chain) (k : Option ErrorKind) : Prop where
  found : c.kind? = k
  asked : ErrorKind.askable.filter c.isKind = (k.filter (· != .transport)).toList

theorem SeenAs.of_found {c : Chain} {k : Option ErrorKind} (h : c.kind? = k) : c.SeenAs k :=
  ⟨h, h ▸ c.filter_isKind⟩

theorem seenAs_wrap (n : Nat) {c : Chain} {e : Error} (h : c.top = .ours e) :
    (wrap n c).SeenAs (some e.kind) := by
  obtain ⟨below, hc⟩ := c.exists_errors_eq
  have hw : (wrap n c).errors = List.replicate n .foreign ++ .ours e :: below := by
    rw [errors_wrap, hc, h]
  exact .of_found (kind?_of_outermost hw fun _ hx => List.eq_of_mem_replicate hx)

end Chain

theorem Error.top_chain (e : Error) : e.chain.top = .ours e := by
  cases e <;> rfl

/-- Of the faults of a configuration, those of the client have a kind. -/
theorem Settings.Fault.kind?_chain_eq_some {f : Fault} {k : ErrorKind} :
    f.chain.kind? = some k ↔ ∃ e, f = .client e ∧ e.kind = k := by
  cases f with
  | client e =>
    have h : (client e).chain.kind? = some e.kind := (Chain.seenAs_wrap 1 e.top_chain).found
    simp [h]
  | profile | lookup | load | save => simp [chain, Chain.kind?]

/-- Contexts leave kind and status as they are and stand in front of the message of an
error about a payload, the last one first. However deep the error then is below foreign
ones, its kind is found; a chain is seen as its outermost error of ours, and as nothing
where there is none. -/
theorem seen_through_contexts_and_causes :
    (∀ (e : Error) (contexts : List String),
      (e.within contexts).kind = e.kind ∧ (e.within contexts).status? = e.status? ∧
      (e.within contexts).message =
        (if e.kind = .deserialization ∨ e.kind = .unsupportedVersion
          then String.join (contexts.reverse.map (· ++ ": ")) ++ e.message else e.message) ∧
      ∀ n, (∀ c : Chain, c.top = .ours (e.within contexts) →
          (Chain.wrap n c).SeenAs (some e.kind)) ∧
        (Chain.wrap n (Settings.Fault.client (e.within contexts)).chain).SeenAs (some e.kind)) ∧
    (∀ (c : Chain) (above below : List AnyError) (e : Error),
      c.errors = above ++ .ours e :: below → (∀ x ∈ above, x = .foreign) →
        c.SeenAs (some e.kind)) ∧
    ∀ c : Chain, (∀ e, .ours e ∉ c.errors) → c.SeenAs none := by
  refine ⟨fun e contexts => ⟨e.kind_within contexts, e.status?_within contexts, ?_, fun n => ?_⟩,
    fun c above below e hc ha => .of_found (Chain.kind?_of_outermost hc ha),
    fun c h => .of_found (Chain.kind?_of_foreign h)⟩
  · split
    · case isTrue h => exact e.message_within contexts h
    · case isFalse h => rw [e.within_of_not_ofPayload contexts h]
  · have hw : ∀ n (c : Chain), c.top = .ours (e.within contexts) →
        (Chain.wrap n c).SeenAs (some e.kind) := fun n c hc =>
      e.kind_within contexts ▸ Chain.seenAs_wrap n hc
    refine ⟨hw n, ?_⟩
    have hs := hw (n + 1) _ (e.within contexts).top_chain
    rwa [← Chain.wrap_caused] at hs

theorem seen_through_contexts_and_causes_wrapped :
    ((Error.deserialization "expected string, got nothing").within
      ["links[0]", "machine 3"]).message = "machine 3: links[0]: expected string, got nothing" ∧
    (Chain.wrap 2 (Settings.Fault.client
      ((Error.permission "machine not yours").within ["deploy"])).chain).SeenAs (some .permission) ∧
    (Chain.caused .foreign (.caused (.ours (.tls "no certificate"))
      (.last (.ours (.badRequest "machine not allocated"))))).SeenAs (some .transport) ∧
    (Chain.wrap 3 (.last .foreign)).SeenAs none := by
  obtain ⟨hcontexts, houtermost, hforeign⟩ := seen_through_contexts_and_causes
  obtain ⟨-, -, hmessage, -⟩ :=
    hcontexts (.deserialization "expected string, got nothing") ["links[0]", "machine 3"]
  obtain ⟨-, -, -, hwrapped⟩ := hcontexts (.permission "machine not yours") ["deploy"]
  refine ⟨hmessage, (hwrapped 2).2,
    houtermost _ [.foreign] _ (.tls "no certificate") rfl (by simp),
    hforeign _ fun e he => ?_⟩
  simp [Chain.wrap, Chain.errors] at he

end BareMetal
