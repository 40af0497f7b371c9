import BareMetal.Proofs.Settings.Laid
import BareMetal.Proofs.Settings.Variables
import BareMetal.Proofs.Toml.Lines

/-!
# Where the settings of a configuration come from

Each setting of a loaded configuration is what a variable gives, else what the
file says, else what is built in. A list in the place of a table is one value:
`fieldSource` says what it hides. Main statement: `load_layers`.
-/

namespace BareMetal.Settings

/-! ## Variables over a file -/

/-- Where a field comes from: from a variable, else from the file. What a variable gives for the
whole record, if it is no table, is all there is; and a list for it in the file counts only where no
variable has to do with the record. -/
def fieldSource (environment : List Variable) (file : Layer) (path : List String) (key : String)
    (i : Nat) : Option Setting :=
  match givenAt environment path with
  | none | some (.table _) =>
    givenAt environment (path ++ [key]) <|>
      if Mentions environment path then file.at? (path ++ [key])
      else (file.at? path).bind (·.part? key i)
  | some s => s.part? key i

section

variable {α : Type} {decode : Decoder α} {otherwise value : Option α} {environment : List Variable}
  {path : List String}

/-- Tables apart, the layer of an environment has what its variables give. -/
theorem Holds.of_environment (hd : RefusesTables decode) (independent : Independent environment)
    (hpath : path ≠ []) {lower : Option Setting}
    (h : Holds decode otherwise ((Layer.ofEnvironment environment).at? path <|> lower) value) :
    Holds decode otherwise (givenAt environment path <|> lower) value := by
  obtain ⟨hbelow, hgiven⟩ := independent.at?_ofEnvironment hpath
  by_cases hb : NamedBelow environment path
  · obtain ⟨entries, he⟩ := hbelow hb
    rw [he] at h
    cases h with
    | given decodes => exact absurd decodes (hd _ _)
  · rw [hgiven hb] at h
    exact h

theorem Holds.of_layeredPart (hd : RefusesTables decode) (independent : Independent environment)
    (hpath : path ≠ []) {file : Layer} {key : String} {i : Nat}
    (h : Holds decode otherwise
      (layeredPart (file.at? path) ((Layer.ofEnvironment environment).at? path) key i) value) :
    Holds decode otherwise (fieldSource environment file path key i) value := by
  obtain ⟨hbelow, hgiven⟩ := independent.at?_ofEnvironment hpath
  have hmentions := independent.isSome_at? hpath
  have hkey : path ++ [key] ≠ [] := by simp
  have hat (layer : Layer) : layer.at? (path ++ [key]) = (layer.at? path).bind (·.find? [key]) :=
    layer.at?_append path [key]
  have hfrom {lower : Option Setting} : Holds decode otherwise
      (((Layer.ofEnvironment environment).at? path).bind (·.find? [key]) <|> lower) value →
        Holds decode otherwise (givenAt environment (path ++ [key]) <|> lower) value := by
    intro h
    rw [← hat] at h
    exact h.of_environment hd independent hkey
  have htable : ∀ entries, (Layer.ofEnvironment environment).at? path = some (.table entries) →
      Holds decode otherwise (givenAt environment (path ++ [key]) <|>
        if Mentions environment path then file.at? (path ++ [key])
        else (file.at? path).bind (·.part? key i)) value := by
    intro entries he
    have hm : Mentions environment path := hmentions.mp (by rw [he]; rfl)
    apply hfrom
    rw [he] at h ⊢
    rw [if_pos hm, hat, Option.bind_some, Setting.find?_single]
    exact h
  unfold fieldSource
  by_cases hb : NamedBelow environment path
  · obtain ⟨entries, he⟩ := hbelow hb
    rw [independent.givenAt_of_namedBelow hb]
    exact htable entries he
  · rw [hgiven hb] at h hfrom htable hmentions
    cases hg : givenAt environment path with
    | none =>
      rw [hg] at h hfrom hmentions
      rw [if_neg (by simp [← hmentions])]
      exact hfrom h
    | some s =>
      cases s with
      | table entries => exact htable entries hg
      | _ =>
        rw [hg] at h
        exact h

end

/-! ## Loading -/

/-- What is decoded of a record in both layers is decoded of the sources of its fields. -/
theorem Holds.of_layers {environment : List Variable} {file : Layer}
    (independent : Independent environment) {path : List String} (hpath : path ≠ []) {s : Setting}
    (hs : laid (file.at? path) ((Layer.ofEnvironment environment).at? path) = some s) {α : Type}
    {decode : Decoder α} (hd : RefusesTables decode) {otherwise value : Option α} {key : String} {i : Nat}
    (h : Holds decode otherwise (s.part? key i) value) :
    Holds decode otherwise (fieldSource environment file path key i) value := by
  apply Holds.of_layeredPart hd independent hpath
  exact h.of_part hd ((ordered_ofEnvironment environment).at?_sorted _) hs

theorem profile_heldBy {environment : List Variable} {file : Layer}
    (independent : Independent environment) {name : String} {s : Setting} {p : Profile} (h : s.asProfile = .ok p)
    (hs : laid (file.at? ["profiles", name]) ((Layer.ofEnvironment environment).at? ["profiles", name]) = some s) :
    p.HeldBy (fieldSource environment file ["profiles", name]) := by
  obtain ⟨hurl, hversion, hcert, hinsecure, htimeout⟩ := Setting.asProfile_held h
  have hsource {α : Type} {decode : Decoder α} (hd : RefusesTables decode) {otherwise value : Option α}
      {key : String} {i : Nat} (h : Holds decode otherwise (s.part? key i) value) :
      Holds decode otherwise (fieldSource environment file ["profiles", name] key i) value :=
    Holds.of_layers independent (by simp) hs hd h
  exact ⟨hsource refusesTables_asString hurl, hsource refusesTables_asString hversion,
    hsource refusesTables_asPath hcert, hsource refusesTables_asBoolean hinsecure,
    hsource refusesTables_asCount htimeout⟩

section

variable {environment : List Variable} {file : Layer} (ordered : file.Ordered)
include ordered

theorem lookup_layers (key : String) :
    ((Layer.standard.overlay file).overlay (.ofEnvironment environment)).lookup key =
      laid (laid (Layer.standard.lookup key) (file.at? [key])) ((Layer.ofEnvironment environment).at? [key]) := by
  rw [lookup_overlay_laid (ordered_ofEnvironment environment).sorted, lookup_overlay_laid ordered.sorted,
    Layer.at?_single, Layer.at?_single]

theorem layers_ordered :
    ((Layer.standard.overlay file).overlay (.ofEnvironment environment)).Ordered :=
  (Layer.ordered_standard.overlay ordered).overlay (ordered_ofEnvironment environment)

theorem lookup_profiles {entries : Layer} (hs : laid (laid (Layer.standard.lookup "profiles") (file.at? ["profiles"]))
      ((Layer.ofEnvironment environment).at? ["profiles"]) = some (.table entries)) (name : String) :
    entries.lookup name =
      laid (file.at? ["profiles", name]) ((Layer.ofEnvironment environment).at? ["profiles", name]) := by
  rw [lookup_of_laid ((ordered_ofEnvironment environment).at?_sorted _) hs]
  have hempty := find?_laid_empty (ordered.at?_sorted ["profiles"]) name
  exact (congrArg (laid · _) hempty).trans
    (congrArg₂ laid (file.at?_append ["profiles"] [name]).symm (Layer.at?_append _ ["profiles"] [name]).symm)

variable (independent : Independent environment)
include independent

theorem defaults_heldBy {s : Setting} {d : Defaults} (h : s.asDefaults = .ok d)
    (hs : laid (laid (Layer.standard.lookup "defaults") (file.at? ["defaults"]))
      ((Layer.ofEnvironment environment).at? ["defaults"]) = some s) :
    d.HeldBy (fieldSource environment file ["defaults"]) := by
  have hsource {α : Type} {decode : Decoder α} (hd : RefusesTables decode) {key : String} {i : Nat}
      {t : Setting} {x : α} {value : Option α}
      (ht : [("api_version", .text "2.0"), ("insecure", .flag false), ("timeout", .unsigned 30)].lookup key = some t)
      (hx : decode t = .ok x) (h : Holds decode (some x) (s.part? key i) value) :
      Holds decode (some x) (fieldSource environment file ["defaults"] key i) value := by
    apply Holds.of_layeredPart hd independent (by simp)
    have hpart := h.of_part hd ((ordered_ofEnvironment environment).at?_sorted _) hs
    exact hpart.of_standard_part hd (ordered.at?_sorted _) ht hx
  obtain ⟨hversion, hinsecure, htimeout⟩ := Setting.asDefaults_held h
  exact ⟨hsource refusesTables_asString rfl rfl hversion, hsource refusesTables_asBoolean rfl rfl hinsecure,
    hsource refusesTables_asCount rfl rfl htimeout⟩

theorem profiles_heldBy {s : Setting} {profiles : List (String × Profile)}
    (h : s.asProfiles = .ok profiles)
    (hs : laid (laid (Layer.standard.lookup "profiles") (file.at? ["profiles"]))
      ((Layer.ofEnvironment environment).at? ["profiles"]) = some s) :
    (profiles.map Prod.fst).Nodup ∧
      (∀ name, name ∈ profiles.map Prod.fst ↔
        Mentions environment ["profiles", name] ∨ (file.at? ["profiles", name]).isSome) ∧
      ∀ e ∈ profiles, e.2.HeldBy (fieldSource environment file ["profiles", e.1]) := by
  obtain ⟨entries, rfl, hentries⟩ := asProfiles_eq_ok h
  obtain ⟨hkeys, hfrom⟩ := profileEntries_eq_ok hentries
  have hsorted : Keyed.Sorted entries := by
    apply (@layers_ordered environment _ ordered).at?_sorted ["profiles"]
    rw [← hs, ← lookup_layers ordered, Layer.at?_single]
  have hlookup := lookup_profiles ordered hs
  refine ⟨hkeys ▸ hsorted.nodup, fun name => ?_, fun e he => ?_⟩
  · rw [hkeys, ← Keyed.isSome_lookup, hlookup, isSome_laid, independent.isSome_at? (by simp)]
  · obtain ⟨s, hm, hd⟩ := hfrom e he
    apply profile_heldBy independent hd
    rw [← hlookup]
    exact Keyed.lookup_of_mem hsorted.nodup hm

end

/-- **Every setting of a loaded configuration is what a variable gives, else what the file says, else
what is built in**, and the profiles are those that either of them names. To lay one setting over a
layer leaves everything beside it. -/
theorem load_layers {file : Option String} {environment : List Variable} {config : Config}
    (independent : Independent environment) (loaded : Config.load file environment = .ok config) :
    ∃ layer, Layer.ofFile file = .ok layer ∧
      Holds Setting.asString (some "default")
        (givenAt environment ["default_profile"] <|> layer.at? ["default_profile"]) config.defaultProfile ∧
      config.defaults.HeldBy (fieldSource environment layer ["defaults"]) ∧
      (config.profiles.map Prod.fst).Nodup ∧
      (∀ name, name ∈ config.profiles.map Prod.fst ↔
        Mentions environment ["profiles", name] ∨ (layer.at? ["profiles", name]).isSome) ∧
      (∀ e ∈ config.profiles, e.2.HeldBy (fieldSource environment layer ["profiles", e.1])) ∧
      ∀ (lower : Layer) (key : String) (path : List String) (x : Setting) (q : List String),
        ¬ key :: path <+: q → ¬ q <+: key :: path →
          (lower.overlay [(key, nest path x)]).at? q = lower.at? q := by
  obtain ⟨layer, hfile, h⟩ := Except.bind_eq_ok.mp loaded
  have ordered := ordered_ofFile hfile
  obtain ⟨defaultProfile, hname, h⟩ := Except.bind_eq_ok.mp h
  obtain ⟨defaults, hdefaults, h⟩ := Except.bind_eq_ok.mp h
  obtain ⟨named, hnamed, h⟩ := Except.bind_eq_ok.mp h
  cases h
  have hname := Holds.of_field hname
  have hdefaults := Holds.of_field hdefaults
  have hnamed := Holds.of_field hnamed
  rw [lookup_layers ordered] at hname hdefaults hnamed
  have hbuilt {s : Setting} {below above : Option Setting} : (laid (laid (some s) below) above).isSome :=
    isSome_laid.mpr (.inr (isSome_laid.mpr (.inr rfl)))
  refine ⟨layer, hfile, ?_, ?_, ?_⟩
  · apply Holds.of_environment refusesTables_asString independent (by simp)
    exact Holds.of_laid_standard refusesTables_asString rfl (hname.of_laid refusesTables_asString)
  · obtain ⟨s, d, hs, decodes, rfl⟩ := hdefaults.exists_given hbuilt
    exact defaults_heldBy ordered independent decodes hs
  · obtain ⟨s, profiles, hs, decodes, rfl⟩ := hnamed.exists_given hbuilt
    obtain ⟨hnodup, hnames, hheld⟩ := profiles_heldBy ordered independent decodes hs
    refine ⟨hnodup, hnames, hheld, fun lower key path x q h h' => ?_⟩
    exact find?_over_nest_beside x h h' (some (.table lower))

/-- One profile is in the file only in part, and one not at all. -/
def labFile : String :=
  "[defaults]\ninsecure = true\n\n[profiles.lab]\nurl = \"https://lab.example\"\ntimeout = 60\n"

def labEnvironment : List Variable :=
  [("MAASLY_DEFAULTS__TIMEOUT", "5"), ("MAASLY_PROFILES__LAB__TIMEOUT", "90"),
    ("MAASLY_PROFILES__EDGE", "\x7burl=\"https://edge.example\"\x7d")]

theorem load_layers_lab : Independent labEnvironment ∧ ∃ layer config,
    Layer.ofFile (some labFile) = .ok layer ∧ Config.load (some labFile) labEnvironment = .ok config ∧
      config.defaults = ⟨"2.0", true, 5⟩ ∧
      config.defaults.HeldBy (fieldSource labEnvironment layer ["defaults"]) ∧
      config.profiles.map Prod.fst = ["edge", "lab"] ∧
      ∀ e ∈ config.profiles, e.2.HeldBy (fieldSource labEnvironment layer ["profiles", e.1]) := by
  have independent : Independent labEnvironment := by
    decide
  have loaded : (Config.load (some labFile) labEnvironment).toOption = some ⟨some "default", ⟨"2.0", true, 5⟩,
      [("edge", ⟨"https://edge.example", none, none, none, none⟩),
        ("lab", ⟨"https://lab.example", none, none, none, some 90⟩)]⟩ := by
    decide +kernel
  rw [Except.toOption_eq_some] at loaded
  obtain ⟨layer, hfile, -, hdefaults, -, -, hprofiles, -⟩ := load_layers independent loaded
  exact ⟨independent, layer, _, hfile, loaded, rfl, hdefaults, rfl, hprofiles⟩

/-! ## A list in the place of a table -/

def insecureFile : String := "[defaults]\ninsecure = true\n"

theorem ofFile_insecureFile :
    Layer.ofFile (some insecureFile) = .ok [("defaults", .table [("insecure", .flag true)])] := by
  have htext : Toml.print [⟨["defaults"], [("insecure", .boolean true)]⟩] = insecureFile := by decide
  rw [← htext, Layer.ofFile, Toml.parse?_print (by simp [Toml.Section.InRange, Toml.Plain.InRange, Toml.partLimit])]
  rfl

/-- The defaults, as a list of none of its fields. -/
def emptyDefaults : List Variable := [("MAASLY_DEFAULTS", "[]")]

/-- A variable that gives none of the fields may still hide what the file says of one. -/
theorem load_emptyDefaults : Independent emptyDefaults ∧ ∃ layer config,
    Layer.ofFile (some insecureFile) = .ok layer ∧
      Config.load (some insecureFile) emptyDefaults = .ok config ∧
      givenAt emptyDefaults ["defaults", "insecure"] = none ∧
      layer.at? ["defaults", "insecure"] = some (.flag true) ∧ config.defaults.insecure = false := by
  have loaded : (Config.load (some insecureFile) emptyDefaults).toOption =
      some ⟨some "default", .standard, []⟩ := by
    rw [Config.load, ofFile_insecureFile]
    decide +kernel
  rw [Except.toOption_eq_some] at loaded
  exact ⟨by decide, _, _, ofFile_insecureFile, loaded, rfl, rfl, rfl⟩

end BareMetal.Settings
