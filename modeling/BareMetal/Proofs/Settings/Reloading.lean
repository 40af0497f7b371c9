import BareMetal.Proofs.Settings.Layer
import BareMetal.Proofs.Toml.Document
import BareMetal.Settings.Save

/-!
# Loading what was saved

A saved configuration is printed as a document that reads back
(`parse?_save`). Loading lays that document over what is built in, and so gives
what is not in it the value that is built in. This shows at one place only, a
default profile that is not set. Main statement: `load_save`.
-/

namespace BareMetal.Settings

open Toml (Plain Section Item Items Progress Value)

/-! ## Entries -/

theorem lookup_entry {α : Type} (key : String) (spell : α → Plain) (value : Option α) (k : String) :
    (entry key spell value).lookup k = if k = key then value.map spell else none := by
  cases value with
  | none => simp [entry]
  | some x =>
    by_cases h : k = key
    · simp [entry, h]
    · simp [entry, List.lookup_cons, beq_eq_false_iff_ne.mpr h, h]

theorem keys_entry {α : Type} (key : String) (spell : α → Plain) (value : Option α) :
    ((entry key spell value).map Prod.fst).Sublist [key] := by
  cases value with
  | none => exact List.nil_sublist _
  | some x => exact List.Sublist.refl _

theorem Profile.nodup_entries (p : Profile) : (p.entries.map Prod.fst).Nodup := by
  have hsub : (p.entries.map Prod.fst).Sublist ["url", "api_version", "ca_cert", "insecure", "timeout"] := by
    simp only [Profile.entries, List.map_append]
    exact ((((List.Sublist.refl ["url"]).append (keys_entry ..)).append (keys_entry ..)).append
      (keys_entry ..)).append (keys_entry ..)
  exact hsub.nodup (by decide)

theorem Defaults.nodup_entries (d : Defaults) : (d.entries.map Prod.fst).Nodup := by
  show ["api_version", "insecure", "timeout"].Nodup
  decide

/-! ## The document -/

/-- What the file of a configuration says. -/
def Config.document (c : Config) : List (String × Value) :=
  (entry "default_profile" .string c.defaultProfile).map (fun e => (e.1, e.2.value)) ++
    [("defaults", .table (c.defaults.entries.map fun e => (e.1, e.2.value))),
      ("profiles", .table (c.profiles.map fun e =>
        (e.1, .table (e.2.entries.map fun e => (e.1, e.2.value)))))]

theorem Config.sections_inRange {c : Config} (h : ∀ n ∈ c.counts, n < tomlCountLimit) :
    ∀ s ∈ c.sections, s.InRange := by
  rw [Config.counts, List.forall_mem_cons] at h
  have hprofile : ∀ e ∈ c.profiles, ∀ f ∈ e.2.entries, f.2.InRange := by
    intro e he f hf
    simp only [Profile.entries, entry, List.mem_append, List.mem_singleton, Option.mem_toList,
      Option.map_eq_some_iff] at hf
    rcases hf with (((rfl | ⟨_, -, rfl⟩) | ⟨_, -, rfl⟩) | ⟨_, -, rfl⟩) | ⟨n, hn, rfl⟩
    · trivial
    · trivial
    · trivial
    · trivial
    · exact h.2 n (List.mem_filterMap.mpr ⟨e, he, hn⟩)
  unfold Config.sections
  rw [List.forall_mem_append, List.forall_mem_cons, List.forall_mem_singleton]
  refine ⟨⟨⟨Nat.zero_le _, fun f hf => ?_⟩, ⟨Nat.le_of_ble_eq_true rfl, fun f hf => ?_⟩⟩, ?_⟩
  · simp only [entry, Option.mem_toList, Option.map_eq_some_iff] at hf
    obtain ⟨_, -, rfl⟩ := hf
    trivial
  · simp only [Defaults.entries, List.mem_cons, List.not_mem_nil, or_false] at hf
    rcases hf with rfl | rfl | rfl
    · trivial
    · trivial
    · exact h.1
  · unfold profileSections
    split
    · rw [List.forall_mem_singleton]
      exact ⟨by decide, nofun⟩
    · intro s hs
      obtain ⟨e, he, rfl⟩ := List.mem_map.mp hs
      exact ⟨Nat.le_of_ble_eq_true rfl, hprofile e he⟩

theorem profileSections_cons (e : String × Profile) (rest : List (String × Profile)) :
    profileSections (e :: rest) =
      ⟨["profiles", e.1], e.2.entries⟩ :: rest.map fun e => ⟨["profiles", e.1], e.2.entries⟩ := rfl

/-- The table of the profiles, from the names of their headers. -/
theorem profileSections_read {profiles : List (String × Profile)} (names : (profiles.map Prod.fst).Nodup)
    {items : Items} (h : items.lookup "profiles" = none) (current : List String) :
    ∃ origin current', (profileSections profiles).foldlM Progress.section? ⟨items, current⟩ =
      some ⟨items ++ [("profiles", .table origin (profiles.map fun e =>
        (e.1, .table .header (Items.ofEntries e.2.entries))))], current'⟩ := by
  cases profiles with
  | nil =>
    have hkeys : (([] : List (String × Plain)).map Prod.fst).Nodup := List.nodup_nil
    have hsection : Progress.section? ⟨items, current⟩ ⟨["profiles"], []⟩ =
        some ⟨items ++ [("profiles", .table .header [])], ["profiles"]⟩ :=
      Toml.section?_of_frame .nil h hkeys current
    refine ⟨.header, ["profiles"], ?_⟩
    rw [profileSections, List.foldlM_cons, hsection]
    rfl
  | cons e rest =>
    rw [List.map_cons, List.nodup_cons] at names
    have hfirst := Toml.section?_of_fresh h e.1 e.2.nodup_entries current
    have hrest : ∀ e' ∈ rest.map (fun e => (e.1, e.2.entries)),
        [(e.1, Item.table .header (Items.ofEntries e.2.entries))].lookup e'.1 = none := by
      intro e' he
      obtain ⟨e', hm, rfl⟩ := List.mem_map.mp he
      have hne : e'.1 ≠ e.1 := fun heq => names.1 (List.mem_map.mpr ⟨e', hm, heq⟩)
      rw [List.lookup_cons, beq_eq_false_iff_ne.mpr hne, List.lookup_nil]
    have hkeys : ∀ e' ∈ rest.map (fun e => (e.1, e.2.entries)), (e'.2.map Prod.fst).Nodup := by
      intro e' he
      obtain ⟨e', -, rfl⟩ := List.mem_map.mp he
      exact e'.2.nodup_entries
    obtain ⟨current', hmore⟩ := Toml.sections?_of_frame (Items.Frame.nil.last h .implied)
      ["profiles", e.1] (by rw [List.map_map]; exact names.2) hrest hkeys
    refine ⟨.implied, current', ?_⟩
    rw [profileSections_cons, List.foldlM_cons, hfirst]
    rw [List.map_map] at hmore
    refine hmore.trans ?_
    simp

theorem parse?_save {c : Config} (names : (c.profiles.map Prod.fst).Nodup)
    (h : ∀ n ∈ c.counts, n < tomlCountLimit) :
    Toml.parse? (Toml.print c.sections) = some c.document := by
  let top := Items.ofEntries (entry "default_profile" .string c.defaultProfile)
  have hkeys := keys_entry "default_profile" Plain.string c.defaultProfile
  have hother {key : String} (hne : key ≠ "default_profile") : top.lookup key = none := by
    have hempty : ([] : Items).lookup key = none := rfl
    exact Items.lookup_ofEntries (fun hm => hne (List.mem_singleton.mp (hkeys.subset hm))) hempty
  have htop : Progress.section? ⟨[], []⟩ ⟨[], entry "default_profile" .string c.defaultProfile⟩ =
      some ⟨top, []⟩ :=
    Toml.section?_top (hkeys.nodup (by simp))
  have hdefaults : Progress.section? ⟨top, []⟩ ⟨["defaults"], c.defaults.entries⟩ =
      some ⟨top ++ [("defaults", .table .header (Items.ofEntries c.defaults.entries))], ["defaults"]⟩ :=
    Toml.section?_of_frame .nil (hother (by decide)) c.defaults.nodup_entries []
  have hfresh : (top ++ [("defaults", Item.table .header (Items.ofEntries c.defaults.entries))]).lookup
      "profiles" = none := by
    rw [List.lookup_append, hother (by decide)]
    rfl
  obtain ⟨origin, current, hprofiles⟩ := profileSections_read names hfresh ["defaults"]
  have hall : c.sections.foldlM Progress.section? ⟨[], []⟩ =
      (profileSections c.profiles).foldlM Progress.section?
        ⟨top ++ [("defaults", .table .header (Items.ofEntries c.defaults.entries))], ["defaults"]⟩ := by
    rw [Config.sections, List.foldlM_append, List.foldlM_cons, htop, Option.bind_eq_bind, Option.bind_some,
      List.foldlM_cons, hdefaults]
    rfl
  rw [Toml.parse?_print (Config.sections_inRange h), hall, hprofiles, Option.map_some, Config.document]
  simp [Toml.valueEntries_eq_map, Item.toValue, top, Items.ofEntries, Function.comp_def]

/-! ## The layer of the document -/

/-- The settings of keys on lines of their own. -/
def tableOf (entries : List (String × Plain)) : Layer :=
  Keyed.ofList (entries.map fun e => (e.1, .ofToml e.2.value))

theorem lookup_tableOf {entries : List (String × Plain)} (h : (entries.map Prod.fst).Nodup) (key : String) :
    (tableOf entries).lookup key = (entries.lookup key).map fun p => .ofToml p.value := by
  unfold tableOf
  rw [Keyed.lookup_ofList (by rw [List.map_map]; exact h),
    Keyed.lookup_map (fun p : Plain => Setting.ofToml p.value)]

theorem ofToml_table (entries : List (String × Plain)) :
    Setting.ofToml (.table (entries.map fun e => (e.1, e.2.value))) = .table (tableOf entries) := by
  rw [Setting.ofToml, entriesOfToml_eq_map, List.map_map]
  rfl

theorem ofToml_profiles (profiles : List (String × Profile)) :
    Setting.ofToml (.table (profiles.map fun e => (e.1, .table (e.2.entries.map fun e => (e.1, e.2.value))))) =
      .table (Keyed.ofList (profiles.map fun e => (e.1, .table (tableOf e.2.entries)))) := by
  rw [Setting.ofToml, entriesOfToml_eq_map, List.map_map]
  have hentry : ((fun e : String × Value => (e.1, Setting.ofToml e.2)) ∘ fun e : String × Profile =>
      (e.1, Value.table (e.2.entries.map fun e => (e.1, e.2.value)))) =
        fun e => (e.1, .table (tableOf e.2.entries)) := by
    funext e
    exact congrArg (Prod.mk e.1) (ofToml_table e.2.entries)
  rw [hentry]

theorem lookup_document (c : Config) (key : String) : (Layer.ofToml c.document).lookup key =
    if key = "default_profile" then c.defaultProfile.map .text
    else if key = "defaults" then some (.table (tableOf c.defaults.entries))
    else if key = "profiles" then
      some (.table (Keyed.ofList (c.profiles.map fun e => (e.1, .table (tableOf e.2.entries)))))
    else none := by
  have hkeys : ((entriesOfToml c.document).map Prod.fst).Nodup := by
    have hsub : ((entriesOfToml c.document).map Prod.fst).Sublist ["default_profile", "defaults", "profiles"] := by
      rw [entriesOfToml_eq_map, List.map_map, Config.document, List.map_append, List.map_map]
      exact (keys_entry "default_profile" Plain.string c.defaultProfile).append (.refl ["defaults", "profiles"])
    exact hsub.nodup (by decide)
  unfold Layer.ofToml
  rw [Keyed.lookup_ofList hkeys, entriesOfToml_eq_map, Keyed.lookup_map Setting.ofToml, Config.document,
    List.lookup_append, Keyed.lookup_map Plain.value, lookup_entry]
  by_cases h₁ : key = "default_profile"
  · subst h₁
    cases c.defaultProfile with
    | none => rfl
    | some name => simp [Plain.value, Setting.ofToml]
  · rw [if_neg h₁, if_neg h₁, Option.map_none, Option.none_or]
    by_cases h₂ : key = "defaults"
    · rw [if_pos h₂, h₂, List.lookup_cons_self, Option.map_some, ofToml_table]
    · rw [if_neg h₂, List.lookup_cons, beq_eq_false_iff_ne.mpr h₂]
      by_cases h₃ : key = "profiles"
      · rw [if_pos h₃, h₃, List.lookup_cons_self, Option.map_some, ofToml_profiles]
      · rw [if_neg h₃, List.lookup_cons, beq_eq_false_iff_ne.mpr h₃]
        rfl

/-! ## Reading the settings -/

theorem field_of_some {α : Type} {entries : Layer} {key : String} {decode : Decoder α} {v : Setting} {x : α}
    (h : entries.lookup key = some v) (hd : decode v = .ok x) : field entries key decode = .ok (some x) := by
  unfold field
  rw [h]
  simp only [hd]

theorem field_eq_ok {α : Type} {entries : Layer} {key : String} {decode : Decoder α} (spell : α → Setting)
    {value : Option α} (h : entries.lookup key = value.map spell) (hd : ∀ x, decode (spell x) = .ok x) :
    field entries key decode = .ok value := by
  cases value with
  | none =>
    unfold field
    rw [h]
    rfl
  | some x => exact field_of_some h (hd x)

theorem asCount_signed (n : Nat) : Setting.asCount (.signed n) = .ok n := by
  rw [Setting.asCount, if_pos (Int.natCast_nonneg n), Int.toNat_natCast]

theorem lookup_profile (p : Profile) (key : String) : (tableOf p.entries).lookup key =
    if key = "url" then some (.text p.url)
    else if key = "api_version" then p.apiVersion.map .text
    else if key = "ca_cert" then p.caCert.map .text
    else if key = "insecure" then p.insecure.map .flag
    else if key = "timeout" then p.timeout.map fun n => .signed n
    else none := by
  rw [lookup_tableOf p.nodup_entries, Profile.entries]
  simp only [List.lookup_append, lookup_entry, List.lookup_cons, List.lookup_nil]
  by_cases h₁ : key = "url"
  · simp [h₁, Plain.value, Setting.ofToml]
  by_cases h₂ : key = "api_version"
  · subst h₂
    cases p.apiVersion <;> simp [Plain.value, Setting.ofToml]
  by_cases h₃ : key = "ca_cert"
  · subst h₃
    cases p.caCert <;> simp [Plain.value, Setting.ofToml]
  by_cases h₄ : key = "insecure"
  · subst h₄
    cases p.insecure <;> simp [Plain.value, Setting.ofToml]
  by_cases h₅ : key = "timeout"
  · subst h₅
    cases p.timeout <;> simp [Plain.value, Setting.ofToml]
  simp [beq_eq_false_iff_ne.mpr, h₁, h₂, h₃, h₄, h₅]

theorem asProfile_tableOf (p : Profile) : Setting.asProfile (.table (tableOf p.entries)) = .ok p := by
  have url : field (tableOf p.entries) "url" Setting.asString = .ok (some p.url) :=
    field_of_some (lookup_profile p "url") rfl
  have apiVersion : field (tableOf p.entries) "api_version" Setting.asString = .ok p.apiVersion :=
    field_eq_ok .text (lookup_profile p "api_version") fun _ => rfl
  have caCert : field (tableOf p.entries) "ca_cert" Setting.asPath = .ok p.caCert :=
    field_eq_ok .text (lookup_profile p "ca_cert") fun _ => rfl
  have insecure : field (tableOf p.entries) "insecure" Setting.asBoolean = .ok p.insecure :=
    field_eq_ok .flag (lookup_profile p "insecure") fun _ => rfl
  have timeout : field (tableOf p.entries) "timeout" Setting.asCount = .ok p.timeout :=
    field_eq_ok (fun n : Nat => .signed n) (lookup_profile p "timeout") asCount_signed
  rw [Setting.asProfile, url, apiVersion, caCert, insecure, timeout]
  rfl

theorem over_plain (below : Option Setting) (p : Plain) :
    Setting.over below (.ofToml p.value) = .ofToml p.value := by
  apply over_of_not_table
  cases p <;> simp [Plain.value, Setting.ofToml]

theorem over_table (below above : Layer) :
    Setting.over (some (.table below)) (.table above) = .table (below.overlay above) := by
  rw [Setting.over, Setting.overlay, Layer.overlay]

/-- Written defaults are complete, so nothing of what is below them is left. -/
theorem asDefaults_overlay (d : Defaults) (below : Layer) :
    Setting.asDefaults (.table (below.overlay (tableOf d.entries))) = .ok d := by
  have hnodup : ((tableOf d.entries).map Prod.fst).Nodup := (Keyed.sorted_ofList _).nodup
  have hkey {key : String} {p : Plain} (h : d.entries.lookup key = some p) :
      (below.overlay (tableOf d.entries)).lookup key = some (.ofToml p.value) := by
    rw [lookup_overlay hnodup, lookup_tableOf d.nodup_entries, h]
    exact congrArg some (over_plain _ p)
  have apiVersion : field (below.overlay (tableOf d.entries)) "api_version" Setting.asString =
      .ok (some d.apiVersion) :=
    field_of_some (hkey (p := .string d.apiVersion) rfl) (by simp [Plain.value, Setting.ofToml, Setting.asString])
  have insecure : field (below.overlay (tableOf d.entries)) "insecure" Setting.asBoolean =
      .ok (some d.insecure) :=
    field_of_some (hkey (p := .boolean d.insecure) rfl) (by simp [Plain.value, Setting.ofToml, Setting.asBoolean])
  have timeout : field (below.overlay (tableOf d.entries)) "timeout" Setting.asCount =
      .ok (some d.timeout) :=
    field_of_some (hkey (p := .count d.timeout) rfl) (by simp [Plain.value, Setting.ofToml, asCount_signed])
  rw [Setting.asDefaults, apiVersion, insecure, timeout]
  rfl

theorem profileEntries_tableOf (profiles : List (String × Profile)) :
    Setting.profileEntries (profiles.map fun e => (e.1, .table (tableOf e.2.entries))) = .ok profiles := by
  induction profiles with
  | nil => rfl
  | cons e rest ih =>
    rw [List.map_cons, Setting.profileEntries, asProfile_tableOf, ih]
    rfl

theorem asProfiles_tables (profiles : List (String × Profile)) :
    Setting.asProfiles (.table (Keyed.ofList (profiles.map fun e => (e.1, .table (tableOf e.2.entries))))) =
      .ok (Keyed.ofList profiles) := by
  rw [Keyed.ofList_map (fun p : Profile => Setting.table (tableOf p.entries))]
  exact profileEntries_tableOf _

/-! ## Loading -/

/-- What the layers of a saved configuration make, with nothing in the environment. -/
theorem ofLayer_document (c : Config) :
    Config.ofLayer (Layer.standard.overlay (.ofToml c.document)) = .ok
      ⟨some (c.defaultProfile.getD "default"), c.defaults, Keyed.ofList c.profiles⟩ := by
  have hnodup : ((Layer.ofToml c.document).map Prod.fst).Nodup := (Keyed.sorted_ofList _).nodup
  have hlookup := lookup_overlay hnodup
  have defaultProfile : field (Layer.standard.overlay (.ofToml c.document)) "default_profile" Setting.asString =
      .ok (some (c.defaultProfile.getD "default")) := by
    refine field_of_some (v := .text (c.defaultProfile.getD "default")) ?_ rfl
    rw [hlookup, lookup_document, if_pos rfl]
    cases c.defaultProfile with
    | none => rfl
    | some name => exact congrArg some (over_plain _ (.string name))
  have defaults : field (Layer.standard.overlay (.ofToml c.document)) "defaults" Setting.asDefaults =
      .ok (some c.defaults) := by
    refine field_of_some ?_ (asDefaults_overlay c.defaults
      [("api_version", .text "2.0"), ("insecure", .flag false), ("timeout", .unsigned 30)])
    rw [hlookup, lookup_document, if_neg (by decide), if_pos rfl]
    exact congrArg some (over_table _ _)
  have named : field (Layer.standard.overlay (.ofToml c.document)) "profiles" Setting.asProfiles =
      .ok (some (Keyed.ofList c.profiles)) := by
    refine field_of_some ?_ (asProfiles_tables c.profiles)
    rw [hlookup, lookup_document, if_neg (by decide), if_neg (by decide), if_pos rfl]
    refine (congrArg some (over_table [] _)).trans ?_
    rw [overlay_of_sorted (Keyed.sorted_ofList _), List.nil_append]
  rw [Config.ofLayer, defaultProfile, defaults, named]
  rfl

theorem save_eq_ok {c : Config} {blocked : Bool} {text : String} :
    c.save blocked = .ok text ↔
      blocked = false ∧ (∀ n ∈ c.counts, n < tomlCountLimit) ∧ text = Toml.print c.sections := by
  unfold Config.save Config.toToml
  cases blocked with
  | true => exact iff_of_false nofun nofun
  | false =>
    by_cases h : c.counts.all (· < tomlCountLimit) = true
    · have hall : ∀ n ∈ c.counts, n < tomlCountLimit := by simpa using h
      simp only [Bool.false_eq_true, if_false, if_pos h, Except.ok.injEq]
      exact ⟨fun ht => ⟨trivial, hall, ht.symm⟩, fun ht => ht.2.2.symm⟩
    · rw [if_neg (by simp), if_neg h]
      refine iff_of_false nofun fun ht => h ?_
      simpa using ht.2.1

theorem load_print {c : Config} (names : (c.profiles.map Prod.fst).Nodup)
    (counts : ∀ n ∈ c.counts, n < tomlCountLimit) {environment : List Variable}
    (unset : ∀ v ∈ environment, keyPath? v.1 = none) :
    Config.load (some (Toml.print c.sections)) environment =
      .ok ⟨some (c.defaultProfile.getD "default"), c.defaults, Keyed.ofList c.profiles⟩ := by
  have hfile : Layer.ofFile (some (Toml.print c.sections)) = .ok (.ofToml c.document) := by
    simp only [Layer.ofFile, parse?_save names counts]
  rw [Config.load, hfile, ofEnvironment_of_none unset]
  refine Eq.trans ?_ (ofLayer_document c)
  rw [← overlay_nil (Layer.standard.overlay _)]
  rfl

/-- **A configuration that was saved is loaded again**, where no variable of the environment holds a
setting: its defaults, its profiles and every value of a profile that is set or not. Only a default
profile that is not set comes back as the one that is built in. -/
theorem load_save {c : Config} (names : (c.profiles.map Prod.fst).Nodup) {blocked : Bool} {text : String}
    (saved : c.save blocked = .ok text) {environment : List Variable}
    (unset : ∀ v ∈ environment, keyPath? v.1 = none) :
    ∃ loaded, Config.load (some text) environment = .ok loaded ∧
      loaded.defaultProfile = some (c.defaultProfile.getD "default") ∧
      loaded.defaults = c.defaults ∧ loaded.profiles.Perm c.profiles ∧
      ∀ name, loaded.profiles.lookup name = c.profiles.lookup name := by
  obtain ⟨-, counts, rfl⟩ := save_eq_ok.mp saved
  exact ⟨_, load_print names counts unset, rfl, rfl, Keyed.perm_ofList names, Keyed.lookup_ofList names⟩

/-- A configuration with one profile that is not the default one. -/
def Config.unselected : Config :=
  ⟨none, .standard, [("lab", ⟨"https://maas.example/MAAS/", none, some "/etc/maas/ca.pem", none, some 60⟩)]⟩

theorem save_unselected :
    Config.unselected.save false = .ok (Toml.print Config.unselected.sections) :=
  save_eq_ok.mpr ⟨rfl, by decide, rfl⟩

theorem load_save_unselected : ∃ loaded,
    Config.load (some (Toml.print Config.unselected.sections)) [("PATH", "/bin")] = .ok loaded ∧
      loaded.defaults = .standard ∧ loaded.profiles.lookup "lab" =
        some ⟨"https://maas.example/MAAS/", none, some "/etc/maas/ca.pem", none, some 60⟩ := by
  have unset : ∀ v ∈ [("PATH", "/bin")], keyPath? v.1 = none := by
    decide
  obtain ⟨loaded, hload, -, hdefaults, -, hprofiles⟩ := load_save (by decide) save_unselected unset
  exact ⟨loaded, hload, hdefaults, hprofiles "lab"⟩

/-- Saving and loading is not the identity. Here no profile is selected where none is named; in what
is loaded one is, and it does not exist. -/
theorem load_save_ne : ∃ loaded, Config.unselected.save false = .ok (Toml.print Config.unselected.sections) ∧
    Config.load (some (Toml.print Config.unselected.sections)) [] = .ok loaded ∧
      loaded.defaultProfile ≠ Config.unselected.defaultProfile ∧
      Config.unselected.profile none = .error .noneSelected ∧
      loaded.profile none = .error (.unknown "default") := by
  refine ⟨_, save_unselected, load_print (by decide) (by decide) (by simp), ?_, rfl, rfl⟩
  exact Option.some_ne_none _

end BareMetal.Settings
