import BareMetal.Proofs.Settings.BaseUrl
import BareMetal.Proofs.Url.LongName

/-!
# What a profile comes to

`settings_resolved`: which profiles have settings, what these are, and that the
profile whose URL is the base URL of another one comes to the same. That last part
needs a host whose name is not too long in ASCII (`settings_tooLong`).
-/

namespace BareMetal.Settings

/-- The profile gives this URL, and it is one of the web. -/
def Profile.HasWebUrl (p : Profile) (url : Url) : Prop :=
  Url.parse none p.url = .ok url ∧ (url.scheme = "http" ∨ url.scheme = "https")

/-- The version that counts for a profile. -/
def Profile.HasVersion (p : Profile) (d : Defaults) (v : Version) : Prop :=
  Version.parse (p.apiVersion.getD d.apiVersion) = .ok v

section
variable {p : Profile} {d : Defaults}

theorem baseUrl_of_hasWebUrl {url : Url} (h : p.HasWebUrl url) : p.baseUrl = .ok url.withTrailingSlash :=
  baseUrl_eq_ok.mpr ⟨url, h.1, h.2, rfl⟩

theorem field_of_baseUrl {e : ProfileFault} (h : p.baseUrl = .error e) : e.field = "url" := by
  unfold Profile.baseUrl at h
  split at h
  · cases h
    rfl
  · split at h <;> cases h
    rfl

/-- Whatever the version is, the URL comes first. -/
theorem settings_badUrl (h : ¬ ∃ url, p.HasWebUrl url) : ∃ e, p.settings d = .error e ∧ e.field = "url" := by
  cases hbase : p.baseUrl with
  | ok u =>
    obtain ⟨url, hparse, hweb, -⟩ := baseUrl_eq_ok.mp hbase
    exact absurd ⟨url, hparse, hweb⟩ h
  | error e =>
    refine ⟨e, ?_, field_of_baseUrl hbase⟩
    rw [Profile.settings, hbase]
    rfl

theorem settings_notUrl {e : UrlFault} (h : Url.parse none p.url = .error e) :
    p.settings d = .error (.notUrl p.url) := by
  rw [Profile.settings, Profile.baseUrl, h]
  rfl

theorem settings_badVersion {url : Url} (hurl : p.HasWebUrl url) (h : ¬ ∃ v, p.HasVersion d v) :
    ∃ e, p.settings d = .error e ∧ e.field = "api_version" := by
  cases hversion : Version.parse (p.apiVersion.getD d.apiVersion) with
  | ok v => exact absurd ⟨v, hversion⟩ h
  | error e =>
    refine ⟨.badVersion e, ?_, rfl⟩
    rw [Profile.settings, baseUrl_of_hasWebUrl hurl, hversion]
    rfl

theorem settings_isOk_iff : (∃ s, p.settings d = .ok s) ↔ (∃ url, p.HasWebUrl url) ∧ ∃ v, p.HasVersion d v := by
  constructor
  · rintro ⟨s, hs⟩
    obtain ⟨hbase, hversion, -⟩ := settings_eq_ok.mp hs
    obtain ⟨url, hparse, hweb, -⟩ := baseUrl_eq_ok.mp hbase
    exact ⟨⟨url, hparse, hweb⟩, s.version, hversion⟩
  · rintro ⟨⟨url, hurl⟩, v, hv⟩
    exact ⟨⟨url.withTrailingSlash, v, p.tls d, p.timeout.getD d.timeout⟩,
      settings_eq_ok.mpr ⟨baseUrl_of_hasWebUrl hurl, hv, rfl⟩⟩

/-! ## Certificates -/

theorem tls_acceptInvalid_iff : p.tls d = .acceptInvalid ↔ p.insecure.getD d.insecure = true := by
  unfold Profile.tls
  cases p.insecure.getD d.insecure <;> cases p.caCert <;> simp

theorem tls_of_secure (h : p.insecure.getD d.insecure = false) : p.tls d = p.caCert.elim .system .customCa := by
  rw [Profile.tls, h]
  rfl

end

/-! ## Base URLs -/

section
variable {p : Profile} {d : Defaults} {s : ClientSettings}

/-- Only the path of a base URL differs from the URL of the profile, and only by a slash at its
end. -/
theorem baseUrl_resolved (h : p.baseUrl = .ok s.baseUrl) : ∃ url, p.HasWebUrl url ∧
    s.baseUrl = { url with path := s.baseUrl.path } ∧ s.baseUrl.path.text =
      if url.path.text.toList.getLast? = some '/' then url.path.text else url.path.text ++ "/" := by
  obtain ⟨url, hparse, hweb, hbase⟩ := baseUrl_eq_ok.mp h
  have hsettled := Url.settled_of_parse hparse hweb
  obtain ⟨-, front, -, -, heq⟩ := hsettled.trailingSlash
  refine ⟨url, ⟨hparse, hweb⟩, ?_, ?_⟩
  · rw [← hbase, heq]
  · rw [← hbase, hsettled.path_withTrailingSlash]

/-- The base URL is its own base URL. -/
theorem baseUrl_text (h : p.baseUrl = .ok s.baseUrl) (hcode : ∀ host ∈ s.baseUrl.host, host.IsReadable) :
    Profile.baseUrl { p with url := s.baseUrl.text } = .ok s.baseUrl := by
  obtain ⟨url, hparse, hweb, hbase⟩ := baseUrl_eq_ok.mp h
  have hsettled := Url.settled_of_parse hparse hweb
  have hsettledBase := (settled_baseUrl h).1
  refine baseUrl_eq_ok.mpr ⟨s.baseUrl, Url.parse_text hsettledBase hcode none, hsettledBase.scheme, ?_⟩
  rw [← hbase, hsettled.withTrailingSlash_idem]

end

/-- **The settings of a profile are its own values over the defaults, its base URL is its URL with a
slash at the end, and they come out again for a profile with that URL.** -/
theorem settings_resolved (p : Profile) (d : Defaults) :
    ((∃ s, p.settings d = .ok s) ↔ (∃ url, p.HasWebUrl url) ∧ ∃ v, p.HasVersion d v) ∧
    ((¬ ∃ url, p.HasWebUrl url) → ∃ e, p.settings d = .error e ∧ e.field = "url") ∧
    ((∃ url, p.HasWebUrl url) → (¬ ∃ v, p.HasVersion d v) → ∃ e, p.settings d = .error e ∧ e.field = "api_version") ∧
    ∀ s, p.settings d = .ok s →
      p.HasVersion d s.version ∧
      s.transport.timeout = p.timeout.getD d.timeout ∧
      (s.transport.tls = .acceptInvalid ↔ p.insecure.getD d.insecure = true) ∧
      (p.insecure.getD d.insecure = false → s.transport.tls = p.caCert.elim .system .customCa) ∧
      (∃ url, p.HasWebUrl url ∧ s.baseUrl = { url with path := s.baseUrl.path } ∧ s.baseUrl.path.text =
        if url.path.text.toList.getLast? = some '/' then url.path.text else url.path.text ++ "/") ∧
      ((∀ host ∈ s.baseUrl.host, host.IsReadable) →
        Profile.settings { p with url := s.baseUrl.text } d = .ok s) := by
  refine ⟨settings_isOk_iff, settings_badUrl, fun ⟨_, hurl⟩ => settings_badVersion hurl, fun s hs => ?_⟩
  obtain ⟨hbase, hversion, htransport⟩ := settings_eq_ok.mp hs
  rw [htransport]
  refine ⟨hversion, rfl, tls_acceptInvalid_iff, tls_of_secure, baseUrl_resolved hbase, fun hcode => ?_⟩
  exact settings_eq_ok.mpr ⟨baseUrl_text hbase hcode, hversion, htransport⟩

/-- A web URL with a path, a port and a query. -/
def addressUrl : Url where
  scheme := "http"
  username := ""
  password := ""
  host := some (.ipv4 167772162)
  port := some 5240
  path := .segments ["MAAS"]
  query := some "x=1"
  fragment := none

theorem settled_addressUrl : addressUrl.Settled where
  scheme := .inl rfl
  username := nofun
  password := nofun
  host := ⟨.ipv4 167772162, _, rfl, Url.parseHost_text (by unfold Url.Host.IsRead; decide) trivial⟩
  port := by decide
  path := ⟨_, rfl, by decide, by decide⟩
  query := by decide
  fragment := nofun

def addressProfile : Profile := ⟨"http://10.0.0.2:5240/MAAS?x=1", some "2.1", some "ca.pem", none, some 5⟩

theorem hasWebUrl_addressProfile : addressProfile.HasWebUrl addressUrl := by
  have htext : addressUrl.text = addressProfile.url := by decide
  have hparse := Url.parse_text settled_addressUrl (by rintro _ ⟨⟩; trivial) none
  rw [htext] at hparse
  exact ⟨hparse, .inl rfl⟩

/-- What the profile comes to. -/
def addressSettings : ClientSettings where
  baseUrl := { addressUrl with path := .segments ["MAAS", ""] }
  version := ⟨2, 1, 0⟩
  transport := ⟨.customCa "ca.pem", 5⟩

theorem settings_addressProfile : addressProfile.settings .standard = .ok addressSettings := by
  have hversion : Version.parse "2.1" = .ok ⟨2, 1, 0⟩ := by decide
  have hsegs : Url.AllSegments ["MAAS"] := by decide
  have hslash : addressUrl.withTrailingSlash = addressSettings.baseUrl := by
    rw [Url.withTrailingSlash_eq hsegs rfl]
    exact if_neg (by decide)
  refine settings_eq_ok.mpr ⟨?_, hversion, rfl⟩
  rw [baseUrl_of_hasWebUrl hasWebUrl_addressProfile, hslash]

/-- The settings of a profile with values of its own come out again. -/
theorem settings_resolved_address : addressProfile.settings .standard = .ok addressSettings ∧
    Profile.settings { addressProfile with url := "http://10.0.0.2:5240/MAAS/?x=1" } .standard = .ok addressSettings := by
  obtain ⟨-, -, -, hvalues⟩ := settings_resolved addressProfile .standard
  obtain ⟨-, -, -, -, -, hagain⟩ := hvalues addressSettings settings_addressProfile
  have htext : addressSettings.baseUrl.text = "http://10.0.0.2:5240/MAAS/?x=1" := by decide
  rw [← htext]
  exact ⟨settings_addressProfile, hagain (by rintro _ ⟨⟩; trivial)⟩

/-! ## A name that is too long -/

/-- What is read where a host has a label whose code is too long. -/
def longUrl : Url where
  scheme := "http"
  username := ""
  password := ""
  host := some (.domain (String.ofList ('x' :: 'n' :: '-' :: '-' :: Punycode.encode Url.longLabel)))
  port := none
  path := .segments [""]
  query := none
  fragment := none

def longProfile : Profile := ⟨"http://" ++ String.ofList Url.longLabel ++ "/", none, none, none, none⟩

theorem settled_longUrl : longUrl.Settled where
  scheme := .inl rfl
  username := nofun
  password := nofun
  host := ⟨_, _, rfl, Url.isIdeographic_longLabel.parseHost⟩
  port := nofun
  path := ⟨_, rfl, by decide, by decide⟩
  query := nofun
  fragment := nofun

theorem parse_longProfile : Url.parse none longProfile.url = .ok longUrl := by
  have htext : longProfile.url.toList = Url.textWith longUrl Url.longLabel := by
    rw [longProfile]
    generalize Url.longLabel = label
    simp [Url.textWith, longUrl, Url.userinfoText, Url.portText, Url.tailText, Url.Path.text]
  rw [Url.parse_textWith settled_longUrl Url.isIdeographic_longLabel.isHostText none htext,
    Url.isIdeographic_longLabel.parseHost]
  rfl

theorem parse_longUrl : Url.parse none longUrl.text = .error .invalidDomain := by
  have hread := Url.isRead_of_parseHost Url.isIdeographic_longLabel.parseHost
  rw [Url.parse_textWith settled_longUrl (Url.isHostText_text hread) none (Url.toList_text_eq rfl), Url.Host.text,
    String.toList_ofList, Url.isIdeographic_longLabel.parseHost_written Url.long_encode]
  rfl

theorem baseUrl_longProfile : longProfile.baseUrl = .ok longUrl := by
  have hsegs : Url.AllSegments [""] := by decide
  have hslash : longUrl.withTrailingSlash = longUrl := by
    rw [Url.withTrailingSlash_eq hsegs rfl]
    exact if_pos (by decide)
  exact baseUrl_eq_ok.mpr ⟨longUrl, parse_longProfile, .inl rfl, hslash⟩

/-- A profile with a valid URL whose base URL is none. -/
theorem settings_tooLong : ∃ s, longProfile.settings .standard = .ok s ∧
    Profile.settings { longProfile with url := s.baseUrl.text } .standard = .error (.notUrl s.baseUrl.text) := by
  have hversion : Version.parse "2.0" = .ok ⟨2, 0, 0⟩ := by decide
  have hok : longProfile.settings .standard = .ok ⟨longUrl, ⟨2, 0, 0⟩, ⟨.system, 30⟩⟩ :=
    settings_eq_ok.mpr ⟨baseUrl_longProfile, hversion, rfl⟩
  exact ⟨_, hok, settings_notUrl parse_longUrl⟩

end BareMetal.Settings
