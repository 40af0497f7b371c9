import BareMetal.Proofs.Schema.Order
import BareMetal.Proofs.Text.Numeral
import BareMetal.Proofs.Text.Pieces

/-!
# Reading the text of a path

The text of a path is read as the steps of that path, if the names in it are not
empty and hold neither a point nor a bracket: `readPath?_renderPath`. So different
paths of such names have different texts.
-/

namespace BareMetal.Schema

/-! ## The reader -/

/-- The number in what stands behind an opening bracket, if that is a number and a closing one. -/
def index? (token : List Char) : Option Nat :=
  match token.span Char.isDigit with
  | (d :: digits, [']']) => some (Text.numeral 10 (d :: digits))
  | _ => none

/-- What stands before the first point or opening bracket, and the steps from there on. -/
def scan? : List Char → Option (List Char × List Step)
  | [] => some ([], [])
  | c :: rest =>
    match scan? rest with
    | none => none
    | some (token, steps) =>
      if c = '.' then some ([], .key (String.ofList token) :: steps)
      else if c = '[' then (index? token).map fun i => ([], .index i :: steps)
      else some (c :: token, steps)

/-- Reads the text of a path; at its beginning a key has no point before it. -/
def readPath? (text : String) : Option (List Step) :=
  (scan? text.toList).map fun (first, steps) =>
    if first.isEmpty then steps else .key (String.ofList first) :: steps

/-! ## Names -/

/-- No mark that a path is cut at. -/
def Unmarked (s : List Char) : Prop := ∀ c ∈ s, c ≠ '.' ∧ c ≠ '['

/-- The text of a path keeps the name apart from what stands around it. -/
structure IsName (name : String) : Prop where
  ne_empty : name ≠ ""
  unmarked : Unmarked name.toList

def AllNames (path : List Step) : Prop := ∀ name, .key name ∈ path → IsName name

theorem allNames_nil : AllNames [] := nofun

theorem allNames_index {i : Nat} {path : List Step} (h : AllNames path) : AllNames (.index i :: path) := by
  intro name hmem
  rcases List.mem_cons.mp hmem with he | hmem
  · cases he
  · exact h name hmem

theorem allNames_key {name : String} {path : List Step} (hname : IsName name) (h : AllNames path) :
    AllNames (.key name :: path) := by
  intro other hmem
  rcases List.mem_cons.mp hmem with he | hmem
  · cases he
    exact hname
  · exact h other hmem

theorem AllNames.tail {step : Step} {path : List Step} (h : AllNames (step :: path)) : AllNames path :=
  fun name hmem => h name (List.mem_cons_of_mem _ hmem)

/-! ## The text of a path -/

/-- The text of a step that is not the first one. -/
def Step.text : Step → List Char
  | .index i => '[' :: (Nat.toDigits 10 i ++ [']'])
  | .key name => '.' :: name.toList

theorem Step.toList_render {before : String} (h : before ≠ "") (step : Step) :
    (step.render before).toList = before.toList ++ step.text := by
  cases step with
  | index i => simp [render, text, Nat.toList_repr]
  | key name => simp [render, text, h]

theorem Step.render_ne_empty {before : String} (h : before ≠ "") (step : Step) : step.render before ≠ "" := by
  cases step with
  | index i => simp [render, h]
  | key name => simp [render, h]

theorem toList_foldl_render {before : String} (h : before ≠ "") (path : List Step) :
    (path.foldl Step.render before).toList = before.toList ++ path.flatMap Step.text := by
  induction path generalizing before with
  | nil => simp
  | cons step path ih =>
    rw [List.foldl_cons, ih (step.render_ne_empty h), step.toList_render h, List.flatMap_cons,
      List.append_assoc]

theorem toList_renderPath_index (i : Nat) (path : List Step) :
    (renderPath (.index i :: path)).toList = (Step.index i :: path).flatMap Step.text := by
  have hfirst : (Step.index i).render "" = "[" ++ toString i ++ "]" := by simp [Step.render]
  rw [renderPath, List.foldl_cons, hfirst, toList_foldl_render (by simp), List.flatMap_cons]
  simp [Step.text, Nat.toList_repr]

theorem toList_renderPath_key {name : String} (h : name ≠ "") (path : List Step) :
    (renderPath (.key name :: path)).toList = name.toList ++ path.flatMap Step.text := by
  have hfirst : (Step.key name).render "" = name := by simp [Step.render]
  rw [renderPath, List.foldl_cons, hfirst, toList_foldl_render h]

/-! ## Reading it back -/

theorem scan?_append {s rest token : List Char} {steps : List Step} (hs : Unmarked s)
    (hrest : scan? rest = some (token, steps)) : scan? (s ++ rest) = some (s ++ token, steps) := by
  induction s with
  | nil => exact hrest
  | cons c s ih =>
    obtain ⟨⟨hpoint, hbracket⟩, hs⟩ := List.forall_mem_cons.mp hs
    rw [List.cons_append, scan?, ih hs]
    simp only [if_neg hpoint, if_neg hbracket, List.cons_append]

theorem index?_toDigits (i : Nat) : index? (Nat.toDigits 10 i ++ [']']) = some i := by
  have hspan : (Nat.toDigits 10 i ++ [']']).span Char.isDigit = (Nat.toDigits 10 i, [']']) :=
    Text.span_eq (Text.isDigit_toDigits i) (by simp)
  have hnumeral := Text.numeral_toDigits (b := 10) (by decide) (by decide) i
  rw [index?, hspan]
  obtain ⟨d, digits, hdigits⟩ := List.exists_cons_of_ne_nil (Nat.toDigits_ne_nil (n := i) (b := 10))
  rw [hdigits] at hnumeral ⊢
  exact congrArg some hnumeral

theorem unmarked_toDigits (i : Nat) : Unmarked (Nat.toDigits 10 i ++ [']']) := by
  intro c hc
  rcases List.mem_append.mp hc with hc | hc
  · have hdigit := Text.isDigit_toDigits i c hc
    constructor
    · rintro rfl
      cases hdigit
    · rintro rfl
      cases hdigit
  · rw [List.mem_singleton.mp hc]
    decide

theorem scan?_text {step : Step} {rest : List Char} {steps : List Step}
    (hstep : ∀ name, step = .key name → Unmarked name.toList) (hrest : scan? rest = some ([], steps)) :
    scan? (step.text ++ rest) = some ([], step :: steps) := by
  cases step with
  | index i =>
    rw [Step.text, List.cons_append, scan?, scan?_append (unmarked_toDigits i) hrest]
    simp [index?_toDigits]
  | key name =>
    rw [Step.text, List.cons_append, scan?, scan?_append (hstep name rfl) hrest]
    simp

theorem scan?_flatMap {path : List Step} (h : AllNames path) :
    scan? (path.flatMap Step.text) = some ([], path) := by
  induction path with
  | nil => rfl
  | cons step path ih =>
    rw [List.flatMap_cons]
    refine scan?_text (fun name hname => ?_) (ih h.tail)
    exact (h name (hname ▸ List.mem_cons_self)).unmarked

/-- **The text of a path is read as the steps of it.** -/
theorem readPath?_renderPath {path : List Step} (h : AllNames path) :
    readPath? (renderPath path) = some path := by
  unfold readPath?
  cases path with
  | nil => rfl
  | cons step path =>
    cases step with
    | index i => rw [toList_renderPath_index, scan?_flatMap h]; rfl
    | key name =>
      have hname := h name List.mem_cons_self
      have hne : name.toList ≠ [] := by simpa using hname.ne_empty
      rw [toList_renderPath_key hname.ne_empty, scan?_append hname.unmarked (scan?_flatMap h.tail)]
      simp [hne, String.ofList_toList]

theorem renderPath_inj {a b : List Step} (ha : AllNames a) (hb : AllNames b) :
    renderPath a = renderPath b ↔ a = b := by
  constructor
  · intro h
    have hread := readPath?_renderPath ha
    rw [h, readPath?_renderPath hb] at hread
    exact (Option.some.inj hread).symm
  · exact congrArg renderPath

example : readPath? "zones[1].name" = some [.key "zones", .index 1, .key "name"] := by decide

end BareMetal.Schema
