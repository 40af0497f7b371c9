import BareMetal.Proofs.Except
import BareMetal.Settings.OfLayer

/-!
# What a decoded record holds

A record of a configuration is decoded field by field. `Setting.asDefaults_held`
and `Setting.asProfile_held` say which part of a setting each field is read from,
and what it is without one.
-/

namespace BareMetal.Settings

/-- The value of a field is read from its source; without a source it is fixed. -/
inductive Holds {α : Type} (decode : Decoder α) (otherwise : Option α) : Option Setting → Option α → Prop
  | given {s : Setting} {x : α} (decodes : decode s = .ok x) : Holds decode otherwise (some s) (some x)
  | absent : Holds decode otherwise none otherwise

/-- A field of a record that is given as a table or, field by field in order, as a list. -/
def Setting.part? (key : String) (i : Nat) : Setting → Option Setting
  | .table entries => entries.lookup key
  | .list items => items[i]?
  | _ => none

structure Defaults.HeldBy (d : Defaults) (source : String → Nat → Option Setting) : Prop where
  apiVersion : Holds Setting.asString (some Defaults.standard.apiVersion) (source "api_version" 0)
    (some d.apiVersion)
  insecure : Holds Setting.asBoolean (some Defaults.standard.insecure) (source "insecure" 1) (some d.insecure)
  timeout : Holds Setting.asCount (some Defaults.standard.timeout) (source "timeout" 2) (some d.timeout)

structure Profile.HeldBy (p : Profile) (source : String → Nat → Option Setting) : Prop where
  url : Holds Setting.asString none (source "url" 0) (some p.url)
  apiVersion : Holds Setting.asString none (source "api_version" 1) p.apiVersion
  caCert : Holds Setting.asPath none (source "ca_cert" 2) p.caCert
  insecure : Holds Setting.asBoolean none (source "insecure" 3) p.insecure
  timeout : Holds Setting.asCount none (source "timeout" 4) p.timeout

namespace Holds

variable {α : Type} {decode : Decoder α} {otherwise : Option α}

theorem of_found {source : Option Setting} {under : LoadFault → LoadFault} {value : Option α}
    (h : (match source with
      | none => .ok none
      | some s => match decode s with
        | .ok x => .ok (some x)
        | .error f => .error (under f)) = Except.ok value) : Holds decode none source value := by
  cases source with
  | none =>
    cases h
    exact .absent
  | some s =>
    simp only at h
    cases hd : decode s with
    | error f =>
      rw [hd] at h
      cases h
    | ok x =>
      rw [hd] at h
      cases h
      exact .given hd

theorem of_field {entries : Layer} {key : String} {value : Option α}
    (h : field entries key decode = .ok value) : Holds decode none (entries.lookup key) value :=
  of_found h

theorem of_element {items : List Setting} {i : Nat} {value : Option α}
    (h : element items i decode = .ok value) : Holds decode none items[i]? value :=
  of_found h

theorem exists_given {source : Option Setting} {value : Option α} (h : Holds decode otherwise source value)
    (hs : source.isSome) : ∃ s x, source = some s ∧ decode s = .ok x ∧ value = some x := by
  cases h with
  | given decodes => exact ⟨_, _, rfl, decodes, rfl⟩
  | absent => cases hs

theorem of_required {items : List Setting} {i : Nat} {x : α} (h : required items i decode = .ok x) :
    Holds decode none items[i]? (some x) := by
  unfold required at h
  obtain ⟨value, hv, h⟩ := Except.bind_eq_ok.mp h
  cases value with
  | none => cases h
  | some y =>
    cases h
    exact of_element hv

theorem getD {source : Option Setting} {value : Option α} (h : Holds decode none source value) (x : α) :
    Holds decode (some x) source (some (value.getD x)) := by
  cases h with
  | given decodes => exact .given decodes
  | absent => exact .absent

/-- What stands for an absent source may be written down as a source of its own. -/
theorem of_standard {s : Setting} {x : α} (hs : decode s = .ok x) {source : Option Setting}
    {value : Option α} (h : Holds decode otherwise (source <|> some s) value) :
    Holds decode (some x) source value := by
  cases source with
  | none =>
    cases h with
    | given decodes =>
      cases hs.symm.trans decodes
      exact .absent
  | some t =>
    cases h with
    | given decodes => exact .given decodes

end Holds

theorem Setting.asDefaults_held {s : Setting} {d : Defaults} (h : s.asDefaults = .ok d) :
    d.HeldBy fun key i => s.part? key i := by
  cases s with
  | table entries =>
    obtain ⟨apiVersion, h₁, h⟩ := Except.bind_eq_ok.mp h
    obtain ⟨insecure, h₂, h⟩ := Except.bind_eq_ok.mp h
    obtain ⟨timeout, h₃, h⟩ := Except.bind_eq_ok.mp h
    cases h
    exact ⟨(Holds.of_field h₁).getD _, (Holds.of_field h₂).getD _, (Holds.of_field h₃).getD _⟩
  | list items =>
    obtain ⟨apiVersion, h₁, h⟩ := Except.bind_eq_ok.mp h
    obtain ⟨insecure, h₂, h⟩ := Except.bind_eq_ok.mp h
    obtain ⟨timeout, h₃, h⟩ := Except.bind_eq_ok.mp h
    cases h
    exact ⟨(Holds.of_element h₁).getD _, (Holds.of_element h₂).getD _, (Holds.of_element h₃).getD _⟩
  | _ => cases h

theorem Setting.asProfile_held {s : Setting} {p : Profile} (h : s.asProfile = .ok p) :
    p.HeldBy fun key i => s.part? key i := by
  cases s with
  | table entries =>
    obtain ⟨apiVersion, h₁, h⟩ := Except.bind_eq_ok.mp h
    obtain ⟨caCert, h₂, h⟩ := Except.bind_eq_ok.mp h
    obtain ⟨insecure, h₃, h⟩ := Except.bind_eq_ok.mp h
    obtain ⟨timeout, h₄, h⟩ := Except.bind_eq_ok.mp h
    obtain ⟨url, h₅, h⟩ := Except.bind_eq_ok.mp h
    cases url with
    | none => cases h
    | some url =>
      cases h
      exact ⟨.of_field h₅, .of_field h₁, .of_field h₂, .of_field h₃, .of_field h₄⟩
  | list items =>
    obtain ⟨url, h₁, h⟩ := Except.bind_eq_ok.mp h
    obtain ⟨apiVersion, h₂, h⟩ := Except.bind_eq_ok.mp h
    obtain ⟨caCert, h₃, h⟩ := Except.bind_eq_ok.mp h
    obtain ⟨insecure, h₄, h⟩ := Except.bind_eq_ok.mp h
    obtain ⟨timeout, h₅, h⟩ := Except.bind_eq_ok.mp h
    cases h
    exact ⟨.of_required h₁, .of_required h₂, .of_required h₃, .of_required h₄, .of_required h₅⟩
  | _ => cases h

theorem profileEntries_eq_ok : ∀ {entries : Layer} {profiles : List (String × Profile)},
    Setting.profileEntries entries = .ok profiles → profiles.map Prod.fst = entries.map Prod.fst ∧
      ∀ e ∈ profiles, ∃ s, (e.1, s) ∈ entries ∧ s.asProfile = .ok e.2
  | [], profiles, h => by
    cases h
    simp
  | (name, s) :: rest, profiles, h => by
    rw [Setting.profileEntries] at h
    cases hp : s.asProfile with
    | error f =>
      rw [hp] at h
      cases h
    | ok p =>
      rw [hp] at h
      obtain ⟨more, hmore, rfl⟩ := Except.map_eq_ok.mp h
      obtain ⟨hkeys, hfrom⟩ := profileEntries_eq_ok hmore
      refine ⟨by rw [List.map_cons, List.map_cons, hkeys], List.forall_mem_cons.mpr ⟨?_, fun e he => ?_⟩⟩
      · exact ⟨s, List.mem_cons_self, hp⟩
      · obtain ⟨t, ht, hd⟩ := hfrom e he
        exact ⟨t, List.mem_cons_of_mem _ ht, hd⟩

theorem asProfiles_eq_ok {s : Setting} {profiles : List (String × Profile)} (h : s.asProfiles = .ok profiles) :
    ∃ entries, s = .table entries ∧ Setting.profileEntries entries = .ok profiles := by
  cases s with
  | table entries => exact ⟨entries, rfl, h⟩
  | _ => cases h

/-! ## Decoders of single settings -/

def RefusesTables {α : Type} (decode : Decoder α) : Prop := ∀ entries x, decode (.table entries) ≠ .ok x

theorem refusesTables_asString : RefusesTables Setting.asString := fun _ _ => nofun

theorem refusesTables_asPath : RefusesTables Setting.asPath := fun _ _ => nofun

theorem refusesTables_asBoolean : RefusesTables Setting.asBoolean := fun _ _ => nofun

theorem refusesTables_asCount : RefusesTables Setting.asCount := fun _ _ => nofun

end BareMetal.Settings
