import BareMetal.Proofs.Settings.Insertion
import BareMetal.Proofs.Settings.Sources
import BareMetal.Proofs.Text.Ascii
import BareMetal.Proofs.Version.Decimal

/-!
# API versions from the environment

What a variable with an API version does to a configuration that loads without
it: `load_apiVersion`. A version of three parts arrives as it was spelled. One of
two parts also spells a number with a point, and a configuration with such a
number for a version cannot be loaded.
-/

namespace BareMetal.Settings

open Version (IsDecimal IsPart)

/-! ## How a version is read from a variable -/

theorem digits?_of_isPart {ds : List Char} (h : IsPart ds) : digits? ds = some (Text.numeral 10 ds) := by
  have hall : ds.all Char.isDigit = true := List.all_eq_true.mpr h.2
  simp [digits?, h.1, hall]

theorem digits?_of_point {s : List Char} (h : '.' ∈ s) : digits? s = none := by
  have hall : s.all Char.isDigit = false := by
    rw [List.all_eq_false]
    exact ⟨'.', h, by decide⟩
  simp [digits?, hall]

section
variable {s : String} (hs : IsDecimal s) {c : Char} {r : List Char} (hcr : s.toList = c :: r) (hc : c.isDigit = true)
include hs

theorem forall_of_digits {p : Char → Prop} (hd : ∀ d, d.isDigit = true → p d) (hp : p '.') :
    ∀ d ∈ s.toList, p d := by
  intro d hm
  rcases hs d hm with h | rfl
  · exact hd d h
  · exact hp

include hcr hc

omit hs in
theorem splitSign_decimal : Toml.splitSign s.toList = (false, s.toList) := by
  rw [hcr]
  unfold Toml.splitSign
  split
  · rename_i heq
    cases heq
    cases hc
  · rename_i heq
    cases heq
    cases hc
  · rfl

theorem ofText_decimal : Setting.ofText s = plain s.toList := by
  have hne (d : Char) (hd : d.isDigit = true) {e : Char} (he : e.isDigit = false) : d ≠ e := by
    rintro rfl
    rw [hd] at he
    cases he
  have hgap : skipGap s.toList = s.toList :=
    Text.dropWhile_of_not (forall_of_digits hs (fun d hd => by simp [isGap, hne d hd]) (by decide))
  have hrun : ∀ d ∈ s.toList, isPlainChar d = true :=
    forall_of_digits hs (fun d hd => by simp [isPlainChar, hne d hd]) (by decide)
  have hspan : s.toList.span isPlainChar = (s.toList, []) := by
    simpa using Text.span_eq hrun (r := []) (by simp)
  have htake : takeSetting? (2 * s.toList.length + 2) s.toList = some (plain s.toList, []) := by
    rw [takeSetting?, hgap]
    split
    case h_8 =>
      rw [hspan]
      simp only [Text.trimBoth_of_not hs.not_blank]
      rfl
    -- Every other kind of setting begins with a character of its own.
    all_goals
      rename_i heq
      rw [hcr] at heq
      cases heq
      cases hc
  unfold Setting.ofText
  simp only [htake]

theorem real?_decimal {a f : List Char} (ha : IsPart a) (hsplit : s.toList = a ++ '.' :: f) :
    real? s.toList = (digits? (a ++ f)).map fun n => Toml.Real.ofDecimal false n (0 - f.length) := by
  have hmark : s.toList.span (fun c => !(c == 'e' || c == 'E')) = (s.toList, []) := by
    have hall : ∀ d ∈ s.toList, (!(d == 'e' || d == 'E')) = true := by
      intro d hd
      have he : d ≠ 'e' := fun h => hs.not_mem (by decide) (by decide) (h ▸ hd)
      have hE : d ≠ 'E' := fun h => hs.not_mem (by decide) (by decide) (h ▸ hd)
      simp [he, hE]
    simpa using Text.span_eq hall (r := []) (by simp)
  have hpoint : s.toList.span (· != '.') = (a, '.' :: f) := by
    rw [hsplit]
    apply Text.span_eq _ (by simp)
    intro d hd
    have hne : d ≠ '.' := fun h => ha.not_mem (by decide) (h ▸ hd)
    simp [hne]
  unfold real?
  rw [splitSign_decimal hcr hc]
  simp only [hmark, hpoint, List.drop_succ_cons, List.drop_zero, power?]
  cases digits? (a ++ f) <;> rfl

end

/-- A version of three parts is a text. One of two parts is a number. -/
theorem ofText_version {s : String} {v : Version} (hs : IsDecimal s) (hv : Version.parse s = .ok v) :
    (s.toList.count '.' = 1 ∧ ∃ x, Setting.ofText s = .real x) ∨
      s.toList.count '.' = 2 ∧ Setting.ofText s = .text s := by
  have hpoint : '.' ∈ s.toList := by
    rcases hs.parts hv with ⟨a, b, -, -, h⟩ | ⟨a, b, c, -, -, -, h⟩ <;> simp [h]
  have hwhole : digits? s.toList = none := digits?_of_point hpoint
  rcases hs.parts hv with ⟨a, b, ha, hb, h⟩ | ⟨a, b, c, ha, hb, hc, h⟩
  · obtain ⟨d, r, rfl⟩ := List.exists_cons_of_ne_nil ha.1
    have hd := ha.2 d List.mem_cons_self
    have hab : IsPart (d :: r ++ b) :=
      ⟨by simp, fun c hc => (List.mem_append.mp hc).elim (ha.2 c) (hb.2 c)⟩
    refine .inl ⟨?_, ?_⟩
    · rw [h, List.count_append, List.count_cons_self, ha.count_point, hb.count_point]
    · rw [ofText_decimal hs h hd, plain, if_pos (by simpa using hpoint), real?_decimal hs h hd ha h,
        digits?_of_isPart hab]
      exact ⟨_, rfl⟩
  · obtain ⟨d, r, rfl⟩ := List.exists_cons_of_ne_nil ha.1
    have hd := ha.2 d List.mem_cons_self
    refine .inr ⟨?_, ?_⟩
    · rw [h, List.count_append, List.count_cons_self, List.count_append, List.count_cons_self, ha.count_point,
        hb.count_point, hc.count_point]
    · rw [ofText_decimal hs h hd, plain, if_pos (by simpa using hpoint), real?_decimal hs h hd ha h,
        digits?_of_point (by simp), unsigned?, signed?, splitSign_decimal h hd]
      simp [hwhole]

/-! ## Decoding with one more setting -/

theorem overlay_ofVariable_eq {v : Variable} {key : String} {path : List String}
    (h : keyPath? v.1 = some (key :: path)) (layer : Layer) : layer.overlay (.ofVariable v) =
      Keyed.put key ((nest path (.ofText v.2)).over (layer.lookup key)) layer := by
  apply Setting.table.inj
  rw [overlay_ofVariable h, over_nest_cons, Option.bind_some, Setting.find?_single, entriesOf_table]

theorem field_put {α : Type} (key k : String) (x : Setting) (entries : Layer) (decode : Decoder α) :
    field (Keyed.put key x entries) k decode =
      if k = key then (decode x).map some |>.mapError (·.under key) else field entries k decode := by
  unfold field
  rw [Keyed.lookup_put]
  by_cases hk : k = key
  · subst hk
    simp only [if_true]
    cases decode x <;> rfl
  · simp only [if_neg hk]

theorem over_nest_single (key : String) {x : Setting} (hx : ∀ entries, x ≠ .table entries)
    (lower : Option Setting) : (nest [key] x).over lower = .table (Keyed.put key x (entriesOf lower)) := by
  rw [over_nest_cons, nest, over_of_not_table hx]

/-- A version that is no text spoils a record, and any text becomes its version. -/
theorem asDefaults_apiVersion {s : Setting} {d : Defaults} (h : s.asDefaults = .ok d) :
    (∀ t, ∃ e, (Setting.table (Keyed.put "api_version" (.text t) (entriesOf (some s)))).asDefaults = .ok e ∧
      e.apiVersion = t) ∧
    ∀ x, (Setting.table (Keyed.put "api_version" (.real x) (entriesOf (some s)))).asDefaults =
      .error ⟨.wrongType (.real x) .string, ["api_version"]⟩ := by
  have hfields : (∃ b, field (entriesOf (some s)) "insecure" Setting.asBoolean = .ok b) ∧
      ∃ n, field (entriesOf (some s)) "timeout" Setting.asCount = .ok n := by
    cases s with
    | table entries =>
      simp only [Setting.asDefaults, Except.bind_eq_ok] at h
      obtain ⟨-, -, b, hb, n, hn, -⟩ := h
      exact ⟨⟨b, hb⟩, n, hn⟩
    | _ => exact ⟨⟨none, rfl⟩, none, rfl⟩
  obtain ⟨⟨b, hb⟩, n, hn⟩ := hfields
  refine ⟨fun t => ?_, fun x => ?_⟩
  · refine ⟨Defaults.ofParts (some t) b n, ?_, rfl⟩
    simp only [Setting.asDefaults, field_put, if_true, hb, hn]
    rfl
  · simp only [Setting.asDefaults, field_put, if_true]
    rfl

theorem asProfile_apiVersion {entries : Layer} {p : Profile} (h : (Setting.table entries).asProfile = .ok p) :
    (∀ t, (Setting.table (Keyed.put "api_version" (.text t) entries)).asProfile =
      .ok { p with apiVersion := some t }) ∧
    ∀ x, (Setting.table (Keyed.put "api_version" (.real x) entries)).asProfile =
      .error ⟨.wrongType (.real x) .string, ["api_version"]⟩ := by
  simp only [Setting.asProfile, Except.bind_eq_ok] at h
  obtain ⟨_, _, c, hc, b, hb, n, hn, url, hurl, h⟩ := h
  cases url with
  | none => cases h
  | some url =>
    cases h
    refine ⟨fun t => ?_, fun x => ?_⟩
    · simp only [Setting.asProfile, field_put, if_true, hc, hb, hn, hurl]
      rfl
    · simp only [Setting.asProfile, field_put, if_true]
      rfl

/-- One profile gives way to another, or to a fault of it. -/
theorem profileEntries_put {name : String} {s : Setting} : ∀ {entries : Layer} {profiles : List (String × Profile)},
    Keyed.Sorted entries → Setting.profileEntries entries = .ok profiles → name ∈ entries.map Prod.fst →
      Setting.profileEntries (Keyed.put name s entries) =
        (s.asProfile.mapError (·.under name)).map fun p => Keyed.put name p profiles
  | [], _, _, _, hm => by cases hm
  | (k, t) :: rest, profiles, hs, h, hm => by
    rw [Setting.profileEntries] at h
    cases ht : t.asProfile with
    | error f =>
      rw [ht] at h
      cases h
    | ok q =>
      rw [ht] at h
      obtain ⟨more, hmore, rfl⟩ := Except.map_eq_ok.mp h
      have hc := List.pairwise_cons.mp hs
      by_cases hk : name = k
      · subst hk
        simp only [Keyed.put, String.lt_irrefl, if_false, if_true, Setting.profileEntries, hmore]
        cases s.asProfile <;> rfl
      · have hrest : name ∈ rest.map Prod.fst := (List.mem_cons.mp hm).resolve_left hk
        have hlt : ¬ name < k := String.lt_asymm (hc.1 name hrest)
        have ih := profileEntries_put (s := s) hc.2 hmore hrest
        simp only [Keyed.put, if_neg hlt, if_neg hk, Setting.profileEntries, ht, ih]
        cases s.asProfile <;> rfl

/-! ## Names of variables -/

def defaultsVersion (s : String) : Variable := ("MAASLY_DEFAULTS__API_VERSION", s)

def profileVersion (name s : String) : Variable := ("MAASLY_PROFILES__" ++ name ++ "__API_VERSION", s)

theorem keyPath?_defaultsVersion (s : String) :
    keyPath? (defaultsVersion s).1 = some ["defaults", "api_version"] := by
  show keyPath? "MAASLY_DEFAULTS__API_VERSION" = _
  decide

theorem joinLevels_append {s : List Char} (hs : ∀ c ∈ s, c ≠ '_') (rest : List Char) :
    joinLevels (s ++ rest) = s ++ joinLevels rest := by
  induction s with
  | nil => rfl
  | cons c s ih =>
    rw [List.forall_mem_cons] at hs
    rw [List.cons_append, joinLevels, ih hs.2, List.cons_append]
    simp [hs.1]

/-- A letter does not end a level, in either case. -/
theorem plain_of_isAlpha {c : Char} (h : c.isAlpha = true) : Text.isBlank c = false ∧
    c.toLower ≠ '_' ∧ c.toLower ≠ '.' ∧ Text.isBlank c.toLower = false :=
  Text.of_ascii (p := fun c => c.isAlpha = true → Text.isBlank c = false ∧ c.toLower ≠ '_' ∧ c.toLower ≠ '.' ∧
    Text.isBlank c.toLower = false) (by decide) (Text.lt_of_isAlpha h) h

theorem toLower_eq (s : String) : s.toLower = String.ofList (s.toList.map Char.toLower) := by
  have hmap : s.toLower = s.map Char.toLower := rfl
  rw [hmap, ← String.toList_inj, String.toList_map, String.toList_ofList]

theorem toList_profileVersion (name s : String) : (profileVersion name s).1.toList =
    "MAASLY_PROFILES__".toList ++ (name.toList ++ "__API_VERSION".toList) := by
  show ("MAASLY_PROFILES__" ++ name ++ "__API_VERSION").toList = _
  rw [String.toList_append, String.toList_append, List.append_assoc]

theorem lower_profileVersion (name s : String) : (profileVersion name s).1.toList.map Char.toLower =
    variablePrefix ++ ("profiles".toList ++ '_' :: '_' ::
      (name.toList.map Char.toLower ++ "__api_version".toList)) := by
  have hbefore : "MAASLY_PROFILES__".toList.map Char.toLower = variablePrefix ++ ("profiles".toList ++ ['_', '_']) := by
    decide
  have hafter : "__API_VERSION".toList.map Char.toLower = "__api_version".toList := by
    decide
  rw [toList_profileVersion, List.map_append, List.map_append, hbefore, hafter]
  simp only [List.append_assoc, List.cons_append, List.nil_append]

/-- The key of the version of a profile, with its levels behind each other. -/
def versionKey (letters : List Char) : List Char :=
  "profiles".toList ++ '.' :: (letters ++ '.' :: "api_version".toList)

section
variable {letters : List Char} (h : ∀ c ∈ letters, c ≠ '_' ∧ c ≠ '.' ∧ Text.isBlank c = false)
include h

theorem joinLevels_versionKey :
    joinLevels ("profiles".toList ++ '_' :: '_' :: (letters ++ "__api_version".toList)) = versionKey letters := by
  have hafter : joinLevels "__api_version".toList = '.' :: "api_version".toList := by
    decide
  rw [joinLevels_append (by decide), joinLevels, joinLevels_append fun c hc => (h c hc).1, hafter]
  rfl

theorem trim_versionKey : Text.trimBoth Text.isBlank (versionKey letters) = versionKey letters := by
  refine Text.trimBoth_of_not ?_
  unfold versionKey
  simp only [List.forall_mem_append, List.forall_mem_cons]
  exact ⟨by decide, by decide, fun c hc => (h c hc).2.2, by decide, by decide⟩

theorem pieces_versionKey :
    Text.pieces (· == '.') (versionKey letters) = ["profiles".toList, letters, "api_version".toList] := by
  unfold versionKey
  rw [Text.pieces_append_cons (by decide) (by decide),
    Text.pieces_append_cons (fun c hc => by simp [(h c hc).2.1]) (by decide)]
  rfl

end

theorem keyPath?_profileVersion {name : String} (hname : name ≠ "") (hletters : ∀ c ∈ name.toList, c.isAlpha = true)
    (s : String) : keyPath? (profileVersion name s).1 = some ["profiles", name.toLower, "api_version"] := by
  have hblank : ∀ c ∈ (profileVersion name s).1.toList, Text.isBlank c = false := by
    rw [toList_profileVersion]
    simp only [List.forall_mem_append]
    exact ⟨by decide, fun c hc => (plain_of_isAlpha (hletters c hc)).1, by decide⟩
  have hletter : ∀ c ∈ name.toList.map Char.toLower, c ≠ '_' ∧ c ≠ '.' ∧ Text.isBlank c = false :=
    List.forall_mem_map.mpr fun c hc => (plain_of_isAlpha (hletters c hc)).2
  have hempty : name.toList.map Char.toLower ≠ [] := by
    rw [ne_eq, List.map_eq_nil_iff, String.toList_eq_nil_iff]
    exact hname
  unfold keyPath?
  rw [Text.trimBoth_of_not hblank, lower_profileVersion, toLower_eq]
  simp only [List.isPrefixOf_iff_prefix.mpr (List.prefix_append _ _), if_true, List.drop_left,
    joinLevels_versionKey hletter, trim_versionKey hletter, pieces_versionKey hletter]
  simpa using hname

/-! ## Loading with one more variable -/

section
variable {file : Option String} {before after : List Variable} {config : Config}
  (loaded : Config.load file (before ++ after) = .ok config)

include loaded in
/-- A setting of a variable takes its place in the layers that are loaded. -/
theorem load_insert {layer : Layer} (hfile : Layer.ofFile file = .ok layer) {v : Variable} {key : String}
    {path : List String} (hv : keyPath? v.1 = some (key :: path)) (hx : ∀ entries, Setting.ofText v.2 ≠ .table entries)
    (h : ∀ w ∈ before ++ after, Variable.Apart w v) {layers : Layer}
    (hlayers : layers = (Layer.standard.overlay layer).overlay (.ofEnvironment (before ++ after))) :
    Config.ofLayer layers = .ok config ∧ Config.load file (before ++ v :: after) =
      Config.ofLayer (Keyed.put key ((nest path (.ofText v.2)).over (layers.lookup key)) layers) := by
  have hbase := Layer.ordered_standard.overlay (ordered_ofFile hfile)
  unfold Config.load at loaded ⊢
  rw [hfile, Except.ok_bind] at loaded ⊢
  rw [overlay_insert hbase hv hx h, overlay_ofVariable_eq hv, hlayers]
  exact ⟨loaded, rfl⟩

end

/-- Under variables that are apart from its parts a table remains one. -/
theorem laid_of_apart {file : Layer} {environment : List Variable} (path : List String) (hpath : path ≠ [])
    {key : String} (hkey : (file.at? (path ++ [key])).isSome)
    (h : ∀ w ∈ environment, ∀ p, keyPath? w.1 = some p → ¬ p <+: path) :
    ∃ entries, laid (file.at? path) ((Layer.ofEnvironment environment).at? path) = some (.table entries) := by
  rw [Layer.at?_append] at hkey
  have hbelow : ∃ entries, file.at? path = some (.table entries) := by
    rcases hs : file.at? path with _ | s
    · rw [hs] at hkey
      cases hkey
    · rw [hs, Option.bind_some] at hkey
      cases s with
      | table entries => exact ⟨entries, rfl⟩
      | _ => cases hkey
  obtain ⟨below, hbelow⟩ := hbelow
  rw [hbelow]
  cases hs : (Layer.ofEnvironment environment).at? path with
  | none => exact ⟨below, rfl⟩
  | some s =>
    obtain ⟨entries, rfl⟩ := table_of_apart hpath h s hs
    exact ⟨_, rfl⟩

section
variable {layers : Layer} {config : Config} (h : Config.ofLayer layers = .ok config)
include h

theorem ofLayer_defaultsVersion {s : Setting} (hs : layers.lookup "defaults" = some s) :
    (∀ t, ∃ d : Defaults, d.apiVersion = t ∧ Config.ofLayer (Keyed.put "defaults"
      (.table (Keyed.put "api_version" (.text t) (entriesOf (some s)))) layers) = .ok { config with defaults := d }) ∧
    ∀ x, Config.ofLayer (Keyed.put "defaults"
      (.table (Keyed.put "api_version" (.real x) (entriesOf (some s)))) layers) =
        .error ⟨.wrongType (.real x) .string, ["defaults", "api_version"]⟩ := by
  obtain ⟨name, hname, h⟩ := Except.bind_eq_ok.mp h
  obtain ⟨defaults, hdefaults, h⟩ := Except.bind_eq_ok.mp h
  obtain ⟨named, hnamed, h⟩ := Except.bind_eq_ok.mp h
  cases h
  have hd : ∃ d, s.asDefaults = .ok d := by
    have hheld := Holds.of_field hdefaults
    rw [hs] at hheld
    obtain ⟨_, d, hd, decodes, -⟩ := hheld.exists_given rfl
    cases hd
    exact ⟨d, decodes⟩
  obtain ⟨d, hd⟩ := hd
  obtain ⟨htext, hreal⟩ := asDefaults_apiVersion hd
  refine ⟨fun t => ?_, fun x => ?_⟩
  · obtain ⟨e, he, ht⟩ := htext t
    refine ⟨e, ht, ?_⟩
    simp only [Config.ofLayer, field_put, he]
    simp [hname, hnamed]
  · simp only [Config.ofLayer, field_put, hreal x]
    simp only [String.reduceEq, if_false, if_true, hname]
    rfl

theorem profiles_of_ofLayer (hs : (layers.lookup "profiles").isSome) :
    ∃ profiles, layers.lookup "profiles" = some (.table profiles) := by
  obtain ⟨_, -, h⟩ := Except.bind_eq_ok.mp h
  obtain ⟨_, -, h⟩ := Except.bind_eq_ok.mp h
  obtain ⟨named, hnamed, -⟩ := Except.bind_eq_ok.mp h
  obtain ⟨s, found, hfound, decodes, -⟩ := (Holds.of_field hnamed).exists_given hs
  obtain ⟨profiles, rfl, -⟩ := asProfiles_eq_ok decodes
  exact ⟨profiles, hfound⟩

theorem ofLayer_profileVersion {name : String} {profiles entries : Layer} (hsorted : Keyed.Sorted profiles)
    (hprofiles : layers.lookup "profiles" = some (.table profiles))
    (hentries : profiles.lookup name = some (.table entries)) :
    ∃ p, config.profiles.lookup name = some p ∧
      (∀ t, Config.ofLayer (Keyed.put "profiles" (.table (Keyed.put name
        (.table (Keyed.put "api_version" (.text t) entries)) profiles)) layers) =
          .ok { config with profiles := Keyed.put name { p with apiVersion := some t } config.profiles }) ∧
      ∀ x, Config.ofLayer (Keyed.put "profiles" (.table (Keyed.put name
        (.table (Keyed.put "api_version" (.real x) entries)) profiles)) layers) =
          .error ⟨.wrongType (.real x) .string, ["profiles", name, "api_version"]⟩ := by
  obtain ⟨selected, hselected, h⟩ := Except.bind_eq_ok.mp h
  obtain ⟨defaults, hdefaults, h⟩ := Except.bind_eq_ok.mp h
  obtain ⟨named, hnamed, h⟩ := Except.bind_eq_ok.mp h
  cases h
  have hheld := Holds.of_field hnamed
  rw [hprofiles] at hheld
  obtain ⟨_, found, hs, decodes, rfl⟩ := hheld.exists_given rfl
  cases hs
  have hdecoded : Setting.profileEntries profiles = .ok found := decodes
  obtain ⟨hkeys, hfrom⟩ := profileEntries_eq_ok hdecoded
  have hname : name ∈ profiles.map Prod.fst := Keyed.isSome_lookup.mp (by rw [hentries]; rfl)
  obtain ⟨p, hp⟩ := Option.isSome_iff_exists.mp (Keyed.isSome_lookup.mpr (hkeys ▸ hname))
  obtain ⟨s, hs, hd⟩ := hfrom _ (Keyed.mem_of_lookup hp)
  cases (Keyed.lookup_of_mem hsorted.nodup hs).symm.trans hentries
  obtain ⟨htext, hreal⟩ := asProfile_apiVersion hd
  refine ⟨p, hp, fun t => ?_, fun x => ?_⟩
  · simp only [Config.ofLayer, field_put, Setting.asProfiles, profileEntries_put hsorted hdecoded hname, htext t]
    simp [hselected, hdefaults]
    rfl
  · simp only [Config.ofLayer, field_put, Setting.asProfiles, profileEntries_put hsorted hdecoded hname, hreal x]
    simp only [String.reduceEq, if_false, if_true, hselected, hdefaults]
    rfl

end

section
variable {file : Option String} {before after : List Variable} {config : Config} {s : String}
  (loaded : Config.load file (before ++ after) = .ok config) (hx : ∀ entries, Setting.ofText s ≠ .table entries)
include loaded hx

theorem load_defaultsVersion (hapart : ∀ w ∈ before ++ after, Variable.Apart w (defaultsVersion s)) :
    (∀ t, Setting.ofText s = .text t → ∃ d : Defaults, d.apiVersion = t ∧
      Config.load file (before ++ defaultsVersion s :: after) = .ok { config with defaults := d }) ∧
    ∀ x, Setting.ofText s = .real x → Config.load file (before ++ defaultsVersion s :: after) =
      .error ⟨.wrongType (.real x) .string, ["defaults", "api_version"]⟩ := by
  obtain ⟨layer, hfile, -⟩ := Except.bind_eq_ok.mp loaded
  obtain ⟨hlayers, hload⟩ := load_insert loaded hfile (keyPath?_defaultsVersion s) hx hapart rfl
  have hd : (((Layer.standard.overlay layer).overlay
      (.ofEnvironment (before ++ after))).lookup "defaults").isSome := by
    rw [lookup_layers (ordered_ofFile hfile)]
    exact isSome_laid.mpr (.inr (isSome_laid.mpr (.inr rfl)))
  obtain ⟨d, hd⟩ := Option.isSome_iff_exists.mp hd
  obtain ⟨htext, hreal⟩ := ofLayer_defaultsVersion hlayers hd
  have hsecond : (defaultsVersion s).2 = s := rfl
  rw [hload, hd, hsecond, over_nest_single _ hx]
  refine ⟨fun t ht => ?_, fun x hs => ?_⟩
  · rw [ht]
    exact htext t
  · rw [hs]
    exact hreal x

theorem load_profileVersion {name : String} (hname : name ≠ "") (hletters : ∀ c ∈ name.toList, c.isAlpha = true)
    {layer : Layer} (hfile : Layer.ofFile file = .ok layer)
    (hurl : (layer.at? ["profiles", name.toLower, "url"]).isSome)
    (hapart : ∀ w ∈ before ++ after, Variable.Apart w (profileVersion name s)) :
    ∃ p, config.profiles.lookup name.toLower = some p ∧
      (∀ t, Setting.ofText s = .text t → Config.load file (before ++ profileVersion name s :: after) =
        .ok { config with
          profiles := Keyed.put name.toLower { p with apiVersion := some t } config.profiles }) ∧
      ∀ x, Setting.ofText s = .real x → Config.load file (before ++ profileVersion name s :: after) =
        .error ⟨.wrongType (.real x) .string, ["profiles", name.toLower, "api_version"]⟩ := by
  have ordered := ordered_ofFile hfile
  have hv := keyPath?_profileVersion hname hletters s
  obtain ⟨hlayers, hload⟩ := load_insert loaded hfile hv hx hapart rfl
  obtain ⟨profiles, hprofiles⟩ := profiles_of_ofLayer hlayers (by
    rw [lookup_layers ordered]
    exact isSome_laid.mpr (.inr (isSome_laid.mpr (.inr rfl))))
  have hsorted : Keyed.Sorted profiles := by
    apply (layers_ordered ordered).at?_sorted ["profiles"]
    rw [Layer.at?_single, hprofiles]
  obtain ⟨entries, hentries⟩ := laid_of_apart ["profiles", name.toLower] (by simp) hurl
    fun w hw p hp hon => (hapart w hw p _ hp hv).1 (hon.trans ⟨["api_version"], rfl⟩)
  rw [← lookup_profiles ordered (by rw [← lookup_layers ordered, hprofiles])] at hentries
  obtain ⟨p, hp, htext, hreal⟩ := ofLayer_profileVersion hlayers hsorted hprofiles hentries
  have hsecond : (profileVersion name s).2 = s := rfl
  rw [hload, hprofiles, hsecond, over_nest_cons, Option.bind_some, Setting.find?_single, hentries,
    over_nest_single _ hx, entriesOf_table, entriesOf_table]
  refine ⟨p, hp, fun t ht => ?_, fun x hs => ?_⟩
  · rw [ht]
    exact htext t
  · rw [hs]
    exact hreal x

end

/-- **A version of three parts arrives from a variable as it is spelled, and one of two parts, which
is also a number, cannot be loaded.** -/
theorem load_apiVersion {file : Option String} {before after : List Variable} {config : Config} {s : String}
    {v : Version} (loaded : Config.load file (before ++ after) = .ok config) (hs : IsDecimal s)
    (hv : Version.parse s = .ok v) :
    ((∀ w ∈ before ++ after, Variable.Apart w (defaultsVersion s)) →
      (s.toList.count '.' = 2 → ∃ d : Defaults, d.apiVersion = s ∧
        Config.load file (before ++ defaultsVersion s :: after) = .ok { config with defaults := d }) ∧
      (s.toList.count '.' ≠ 2 → ∃ x, Config.load file (before ++ defaultsVersion s :: after) =
        .error ⟨.wrongType (.real x) .string, ["defaults", "api_version"]⟩)) ∧
    ∀ name, name ≠ "" → (∀ c ∈ name.toList, c.isAlpha = true) → ∀ layer, Layer.ofFile file = .ok layer →
      (layer.at? ["profiles", name.toLower, "url"]).isSome →
      (∀ w ∈ before ++ after, Variable.Apart w (profileVersion name s)) →
        ∃ p, config.profiles.lookup name.toLower = some p ∧
          (s.toList.count '.' = 2 → Config.load file (before ++ profileVersion name s :: after) =
            .ok { config with
              profiles := Keyed.put name.toLower { p with apiVersion := some s } config.profiles }) ∧
          (s.toList.count '.' ≠ 2 → ∃ x, Config.load file (before ++ profileVersion name s :: after) =
            .error ⟨.wrongType (.real x) .string, ["profiles", name.toLower, "api_version"]⟩) := by
  rcases ofText_version hs hv with ⟨hc, x, hx⟩ | ⟨hc, hx⟩
  · have hne : s.toList.count '.' ≠ 2 := by omega
    have htable : ∀ entries, Setting.ofText s ≠ .table entries := by simp [hx]
    refine ⟨fun hapart => ?_, fun name hname hletters layer hfile hurl hapart => ?_⟩
    · obtain ⟨-, hreal⟩ := load_defaultsVersion loaded htable hapart
      exact ⟨fun h => absurd h hne, fun _ => ⟨x, hreal x hx⟩⟩
    · obtain ⟨p, hp, -, hreal⟩ := load_profileVersion loaded htable hname hletters hfile hurl hapart
      exact ⟨p, hp, fun h => absurd h hne, fun _ => ⟨x, hreal x hx⟩⟩
  · have htable : ∀ entries, Setting.ofText s ≠ .table entries := by simp [hx]
    refine ⟨fun hapart => ?_, fun name hname hletters layer hfile hurl hapart => ?_⟩
    · obtain ⟨htext, -⟩ := load_defaultsVersion loaded htable hapart
      exact ⟨fun _ => htext s hx, fun h => absurd hc h⟩
    · obtain ⟨p, hp, htext, -⟩ := load_profileVersion loaded htable hname hletters hfile hurl hapart
      exact ⟨p, hp, fun _ => htext s hx, fun h => absurd hc h⟩

/-- A file with a profile, and no version for it. -/
def regionFile : String := "[profiles.lab]\nurl = \"https://lab.example\"\n"

theorem ofFile_regionFile : Layer.ofFile (some regionFile) =
    .ok [("profiles", .table [("lab", .table [("url", .text "https://lab.example")])])] := by
  have htext : Toml.print [⟨["profiles", "lab"], [("url", .string "https://lab.example")]⟩] = regionFile := by
    decide
  rw [← htext, Layer.ofFile, Toml.parse?_print (by simp [Toml.Section.InRange, Toml.Plain.InRange, Toml.partLimit])]
  rfl

def regionTimeout : Variable := ("MAASLY_DEFAULTS__TIMEOUT", "5")

theorem load_apiVersion_region : ∃ config p, Config.load (some regionFile) ([] ++ [regionTimeout]) = .ok config ∧
    config.profiles.lookup "lab" = some p ∧ (Version.parse "2.0.1").toOption = some ⟨2, 0, 1⟩ ∧
    (∃ d : Defaults, d.apiVersion = "2.0.1" ∧
      Config.load (some regionFile) ([] ++ defaultsVersion "2.0.1" :: [regionTimeout]) =
        .ok { config with defaults := d }) ∧
    Config.load (some regionFile) ([] ++ profileVersion "Lab" "2.0.1" :: [regionTimeout]) =
      .ok { config with profiles := Keyed.put "lab" { p with apiVersion := some "2.0.1" } config.profiles } := by
  have loaded : (Config.load (some regionFile) ([] ++ [regionTimeout])).toOption = some ⟨some "default", ⟨"2.0", false, 5⟩,
      [("lab", ⟨"https://lab.example", none, none, none, none⟩)]⟩ := by
    rw [Config.load, ofFile_regionFile]
    decide +kernel
  have hv : (Version.parse "2.0.1").toOption = some ⟨2, 0, 1⟩ := by
    decide
  have hlower : "Lab".toLower = "lab" := by
    rw [toLower_eq]
    decide
  rw [Except.toOption_eq_some] at loaded
  obtain ⟨hdefaults, hprofile⟩ := load_apiVersion loaded (by decide) (Except.toOption_eq_some.mp hv)
  have hlab := hprofile "Lab" (by decide) (by decide) _ ofFile_regionFile
  rw [hlower] at hlab
  obtain ⟨p, hp, hload, -⟩ := hlab rfl (by decide)
  exact ⟨_, p, loaded, hp, hv, (hdefaults (by decide)).1 (by decide), hload (by decide)⟩

/-- A version of two parts from a variable spoils a configuration that loads without it. -/
theorem load_apiVersion_twoParts : Config.load none [] = .ok .standard ∧
    (Version.parse "2.1").toOption = some ⟨2, 1, 0⟩ ∧
    ∃ x, Config.load none [defaultsVersion "2.1"] =
      .error ⟨.wrongType (.real x) .string, ["defaults", "api_version"]⟩ := by
  have loaded : Config.load none ([] ++ []) = .ok .standard := rfl
  have hv : (Version.parse "2.1").toOption = some ⟨2, 1, 0⟩ := by
    decide
  rcases ofText_version (by decide) (Except.toOption_eq_some.mp hv) with ⟨-, x, hx⟩ | ⟨hc, -⟩
  · exact ⟨loaded, hv, x, (load_defaultsVersion loaded (by simp [hx]) (by simp)).2 x hx⟩
  · exact absurd hc (by decide)

end BareMetal.Settings
