import BareMetal.Proofs.Except
import BareMetal.Proofs.Schema.Passing

/-!
# The order of checking

Fields are checked in the order of the schema and elements in the order of the
list, and the first violation ends it. `Precedes` is that order on places. Of a
map only what it has under the names of the fields counts (`checkFields_congr`).
-/

namespace BareMetal.Schema

theorem renderPath_concat (path : List Step) (step : Step) :
    renderPath (path ++ [step]) = step.render (renderPath path) :=
  List.foldl_concat ..

theorem Violation.message_of_key {key : String} (h : key ≠ "") (path : List Step) (expected : Expected)
    (got : String) : Violation.message ⟨path ++ [.key key], expected, got⟩ =
      renderPath (path ++ [.key key]) ++ ": " ++ ("expected " ++ expected.name ++ ", got " ++ got) := by
  have hne : (renderPath (path ++ [.key key])).isEmpty = false := by
    rw [renderPath_concat, Step.render]
    by_cases hb : (renderPath path).isEmpty = true
    · rw [if_pos hb]
      simpa using h
    · rw [if_neg hb]
      simp
  simp only [message, place, hne]
  rfl

/-! ## Fields one by one -/

/-- What a field asks of the value under its name. -/
def checkFound (asked : Bool) (c : Checker) : Option Json → Except Violation Unit
  | some v => checkAt c (some v)
  | none => if asked then checkAt c none else .ok ()

def checkField (entries : List (String × Json)) (f : String × Bool × Checker) : Except Violation Unit :=
  (checkFound f.2.1 f.2.2 (entries.lookup f.1)).mapError (·.under (.key f.1))

theorem checkFields_cons (f : String × Bool × Checker) (fs : List (String × Bool × Checker))
    (entries : List (String × Json)) :
    checkFields (f :: fs) entries = (checkField entries f >>= fun _ => checkFields fs entries) := by
  obtain ⟨name, asked, c⟩ := f
  simp only [checkFields, checkField, checkFound, Json.entry?]
  cases entries.lookup name with
  | some v =>
    simp only
    cases checkAt c (some v) <;> rfl
  | none =>
    cases asked with
    | false => rfl
    | true =>
      simp only [if_true]
      cases checkAt c none <;> rfl

theorem checkFields_append (fs gs : List (String × Bool × Checker)) (entries : List (String × Json)) :
    checkFields (fs ++ gs) entries = (checkFields fs entries >>= fun _ => checkFields gs entries) := by
  induction fs with
  | nil => rfl
  | cons f fs ih =>
    rw [List.cons_append, checkFields_cons, checkFields_cons, ih]
    cases checkField entries f <;> rfl

theorem checkFields_congr {entries entries' : List (String × Json)} {fs : List (String × Bool × Checker)}
    (h : ∀ f ∈ fs, checkFound f.2.1 f.2.2 (entries.lookup f.1) = checkFound f.2.1 f.2.2 (entries'.lookup f.1)) :
    checkFields fs entries = checkFields fs entries' := by
  induction fs with
  | nil => rfl
  | cons f fs ih =>
    rw [List.forall_mem_cons] at h
    rw [checkFields_cons, checkFields_cons, checkField, checkField, h.1, ih h.2]

theorem checkItems_append (check : Json → Except Violation Unit) (items more : List Json) :
    ∀ i : Nat, checkItems check i (items ++ more) =
      (checkItems check i items >>= fun _ => checkItems check (i + items.length) more) := by
  induction items with
  | nil => intro i; rfl
  | cons v rest ih =>
    intro i
    simp only [List.cons_append, checkItems]
    cases check v with
    | error e => rfl
    | ok u =>
      simp only [ih, List.length_cons]
      rw [Nat.add_right_comm, Nat.add_assoc]

theorem checkItems_map (check : Json → Except Violation Unit) (g : Json → Json) (items : List Json) :
    ∀ i : Nat, checkItems check i (items.map g) = checkItems (fun v => check (g v)) i items := by
  induction items with
  | nil => intro i; rfl
  | cons v rest ih =>
    intro i
    simp only [List.map_cons, checkItems, ih]

theorem check_nullable {c : Checker} {v : Json} (h : v ≠ .null) : check (.nullable c) v = check c v := by
  cases v with
  | null => exact absurd rfl h
  | _ => simp [check, checkAt]

theorem check_list (c : Checker) (items : List Json) :
    check (.list c) (.list items) = checkItems (check c) 0 items := by
  rw [check, checkAt]
  rfl

theorem check_fields (fs : List (String × Bool × Checker)) (entries : List (String × Json)) :
    check (.fields fs) (.map entries) = checkFields fs entries := by
  rw [check, checkAt]

/-- Null is found wanting where nothing is. -/
theorem checkAt_null (c : Checker) : checkAt c (some .null) = checkAt c none := by
  cases c <;> simp [checkAt, violation, describe]

/-! ## The order of places -/

/-- A place in the value comes before another in the order in which the schema is checked. -/
inductive Precedes : Checker → List Step → List Step → Prop
  | above (c : Checker) (step : Step) (path : List Step) : Precedes c [] (step :: path)
  | nullable {c : Checker} {a b : List Step} (inside : Precedes c a b) : Precedes (.nullable c) a b
  | items {c : Checker} {i j : Nat} (lt : i < j) (a b : List Step) :
      Precedes (.list c) (.index i :: a) (.index j :: b)
  | item {c : Checker} {a b : List Step} (i : Nat) (inside : Precedes c a b) :
      Precedes (.list c) (.index i :: a) (.index i :: b)
  | fields {fs gs hs : List (String × Bool × Checker)} {f g : String × Bool × Checker} (a b : List Step) :
      Precedes (.fields (fs ++ f :: gs ++ g :: hs)) (.key f.1 :: a) (.key g.1 :: b)
  | field {fs : List (String × Bool × Checker)} {f : String × Bool × Checker} {a b : List Step}
      (declared : f ∈ fs) (inside : Precedes f.2.2 a b) :
      Precedes (.fields fs) (.key f.1 :: a) (.key f.1 :: b)

theorem precedes_of_mem_before {before after : List (String × Bool × Checker)}
    {f g : String × Bool × Checker} (h : f ∈ before) (a b : List Step) :
    Precedes (.fields (before ++ g :: after)) (.key f.1 :: a) (.key g.1 :: b) := by
  obtain ⟨fs, gs, rfl⟩ := List.append_of_mem h
  exact .fields a b

theorem precedes_of_mem_after {before after : List (String × Bool × Checker)}
    {f g : String × Bool × Checker} (h : g ∈ after) (a b : List Step) :
    Precedes (.fields (before ++ f :: after)) (.key f.1 :: a) (.key g.1 :: b) := by
  obtain ⟨gs, hs, rfl⟩ := List.append_of_mem h
  have := @Precedes.fields before gs hs f g a b
  simpa using this

/-! ## Where a violation is -/

theorem checkFields_error {entries : List (String × Json)} {v : Violation} :
    ∀ {fs : List (String × Bool × Checker)}, checkFields fs entries = .error v →
      ∃ f ∈ fs, ∃ a, v.path = .key f.1 :: a
  | [], h => by cases h
  | f :: fs, h => by
    rw [checkFields_cons, Except.bind_eq_error] at h
    rcases h with h | ⟨_, -, h⟩
    · obtain ⟨w, -, rfl⟩ := Except.mapError_eq_error.mp h
      exact ⟨f, List.mem_cons_self, w.path, rfl⟩
    · obtain ⟨g, hg, a, ha⟩ := checkFields_error h
      exact ⟨g, List.mem_cons_of_mem _ hg, a, ha⟩

theorem checkItems_error {check : Json → Except Violation Unit} {v : Violation} :
    ∀ {items : List Json} {i : Nat}, checkItems check i items = .error v →
      ∃ j a, i ≤ j ∧ j < i + items.length ∧ v.path = .index j :: a
  | [], i, h => by cases h
  | item :: rest, i, h => by
    rw [checkItems] at h
    cases hc : check item with
    | error w =>
      rw [hc] at h
      cases h
      exact ⟨i, w.path, Nat.le_refl i, by simp, rfl⟩
    | ok u =>
      rw [hc] at h
      obtain ⟨j, a, hij, hj, ha⟩ := checkItems_error h
      refine ⟨j, a, by omega, ?_, ha⟩
      rw [List.length_cons]
      omega

/-! ## One place among others -/

/-- Only the value of one field is another, so only what its checker says of that is. -/
theorem checkFields_at {before after : List (String × Bool × Checker)} {name : String} {asked : Bool}
    {c : Checker} (hn : ((before ++ (name, asked, c) :: after).map Prod.fst).Nodup)
    {entries entries' : List (String × Json)} (h : ∀ q, q ≠ name → entries'.lookup q = entries.lookup q) :
    checkFields (before ++ (name, asked, c) :: after) entries' =
      (checkFields before entries >>= fun _ =>
        (checkFound asked c (entries'.lookup name)).mapError (·.under (.key name)) >>= fun _ =>
          checkFields after entries) := by
  have hmid : ∀ f ∈ before ++ after, f.1 ≠ name := by
    rw [(List.perm_middle.map Prod.fst).nodup_iff, List.map_cons, List.nodup_cons] at hn
    intro f hf hname
    exact hn.1 (List.mem_map.mpr ⟨f, hf, hname⟩)
  have hsame : ∀ fs : List (String × Bool × Checker), (∀ f ∈ fs, f.1 ≠ name) →
      checkFields fs entries' = checkFields fs entries := by
    intro fs hfs
    apply checkFields_congr
    intro f hf
    rw [h f.1 (hfs f hf)]
  rw [List.forall_mem_append] at hmid
  rw [checkFields_append, checkFields_cons, hsame before hmid.1, hsame after hmid.2]
  rfl

theorem checkItems_modify (check : Json → Except Violation Unit) {items : List Json} {i : Nat} {v : Json}
    (h : items[i]? = some v) (f : Json → Json) : checkItems check 0 (items.modify i f) =
      (checkItems check 0 (items.take i) >>= fun _ =>
        (check (f v)).mapError (·.under (.index i)) >>= fun _ =>
          checkItems check (i + 1) (items.drop (i + 1))) := by
  obtain ⟨hi, rfl⟩ := List.getElem?_eq_some_iff.mp h
  rw [List.modify_eq_take_cons_drop hi, checkItems_append, List.length_take, Nat.min_eq_left (Nat.le_of_lt hi),
    Nat.zero_add, checkItems]
  cases check (f items[i]) <;> rfl

/-- What is reported if a place has nothing in it, and `without` if the place does not count. -/
inductive Reported (c : Checker) (place : List Step) (expected : Expected)
    (without : Except Violation Unit) : Except Violation Unit → Prop
  | there (first : ∀ v, without = .error v → Precedes c place v.path) :
      Reported c place expected without (.error ⟨place, expected, "nothing"⟩)
  | earlier {v : Violation} (found : without = .error v) (before : Precedes c v.path place) :
      Reported c place expected without (.error v)

/-- The place is one step further down in a larger checker that does something before and after. -/
theorem Reported.within {c d : Checker} {step : Step} {place : List Step} {expected : Expected}
    {without found : Except Violation Unit} (h : Reported d place expected without found)
    (inside : ∀ a b, Precedes d a b → Precedes c (step :: a) (step :: b))
    {before after : Except Violation Unit}
    (hbefore : ∀ v, before = .error v → Precedes c v.path (step :: place))
    (hafter : ∀ v, after = .error v → Precedes c (step :: place) v.path) :
    Reported c (step :: place) expected
      (before >>= fun _ => without.mapError (·.under step) >>= fun _ => after)
      (before >>= fun _ => found.mapError (·.under step) >>= fun _ => after) := by
  cases before with
  | error v => exact .earlier rfl (hbefore v rfl)
  | ok u =>
    cases h with
    | earlier hw before =>
      subst hw
      exact .earlier rfl (inside _ _ before)
    | there first =>
      refine .there fun v hv => ?_
      rw [Except.ok_bind, Except.bind_eq_error] at hv
      rcases hv with hv | ⟨_, -, hv⟩
      · obtain ⟨w, hw, rfl⟩ := Except.mapError_eq_error.mp hv
        exact inside _ _ (first w hw)
      · exact hafter v hv

theorem Reported.nullable {c : Checker} {place : List Step} {expected : Expected}
    {without found : Except Violation Unit} (h : Reported c place expected without found) :
    Reported (.nullable c) place expected without found := by
  cases h with
  | there first => exact .there fun v hv => .nullable (first v hv)
  | earlier hw before => exact .earlier hw (.nullable before)

theorem Reported.item {c : Checker} {place : List Step} {expected : Expected} {items : List Json}
    {i : Nat} {v : Json} (hv : items[i]? = some v) {f g : Json → Json}
    (h : Reported c place expected (check c (f v)) (check c (g v))) :
    Reported (.list c) (.index i :: place) expected (check (.list c) (.list (items.modify i f)))
      (check (.list c) (.list (items.modify i g))) := by
  rw [check_list, check_list, checkItems_modify _ hv, checkItems_modify _ hv]
  apply h.within
  · exact fun a b => .item i
  · intro w hw
    obtain ⟨j, a, -, hj, ha⟩ := checkItems_error hw
    rw [Nat.zero_add, List.length_take] at hj
    rw [ha]
    exact .items (Nat.lt_of_lt_of_le hj (Nat.min_le_left _ _)) a place
  · intro w hw
    obtain ⟨j, a, hj, -, ha⟩ := checkItems_error hw
    rw [ha]
    exact .items hj place a

theorem Reported.field {before after : List (String × Bool × Checker)} {name : String} {asked : Bool}
    {c : Checker} (hn : ((before ++ (name, asked, c) :: after).map Prod.fst).Nodup)
    {entries entries₁ entries₂ : List (String × Json)}
    (h₁ : ∀ q, q ≠ name → entries₁.lookup q = entries.lookup q)
    (h₂ : ∀ q, q ≠ name → entries₂.lookup q = entries.lookup q) {place : List Step} {expected : Expected}
    (h : Reported c place expected (checkFound asked c (entries₁.lookup name))
      (checkFound asked c (entries₂.lookup name))) :
    Reported (.fields (before ++ (name, asked, c) :: after)) (.key name :: place) expected
      (checkFields (before ++ (name, asked, c) :: after) entries₁)
      (checkFields (before ++ (name, asked, c) :: after) entries₂) := by
  rw [checkFields_at hn h₁, checkFields_at hn h₂]
  apply h.within
  · exact fun a b inside => .field (f := (name, asked, c)) (by simp) inside
  · intro w hw
    obtain ⟨f, hf, a, ha⟩ := checkFields_error hw
    rw [ha]
    exact precedes_of_mem_before hf a place
  · intro w hw
    obtain ⟨g, hg, a, ha⟩ := checkFields_error hw
    rw [ha]
    exact precedes_of_mem_after hg place a

end BareMetal.Schema
