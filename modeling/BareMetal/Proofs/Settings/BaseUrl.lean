import BareMetal.Proofs.Url.Settled
import BareMetal.Settings.Profile

/-!
# Base URLs

The base URL of a profile is the URL that the profile gives, with a slash at the
end of its path.
-/

namespace BareMetal.Url

/-- A slash at the end is all that is added, and only where there is none. -/
theorem Settled.trailingSlash {u : Url} (h : Settled u) : ∃ segs front, u.path = .segments segs ∧
    (segs = front ++ [""] ∨ segs = front ∧ segs.getLast? ≠ some "") ∧
    u.withTrailingSlash = { u with path := .segments (front ++ [""]) } := by
  obtain ⟨segs, hpath, hne, hsegs⟩ := h.path
  rw [withTrailingSlash_eq hsegs hpath]
  by_cases hlast : segs.getLast? = some ""
  · obtain ⟨front, rfl⟩ := List.getLast?_eq_some_iff.mp hlast
    refine ⟨_, front, hpath, .inl rfl, ?_⟩
    rw [if_pos hlast, ← hpath]
  · exact ⟨segs, segs, hpath, .inr ⟨rfl, hlast⟩, if_neg hlast⟩

theorem Settled.withTrailingSlash {u : Url} (h : Settled u) : Settled u.withTrailingSlash := by
  obtain ⟨segs, front, hpath, hfront, heq⟩ := h.trailingSlash
  obtain ⟨segs', hpath', -, hsegs⟩ := h.path
  cases hpath.symm.trans hpath'
  have hall : AllSegments (front ++ [""]) := by
    rcases hfront with rfl | ⟨rfl, -⟩
    · exact hsegs
    · exact hsegs.snoc isSegment_nil
  rw [heq]
  exact { h with path := ⟨_, rfl, by simp, hall⟩ }

theorem Settled.path_withTrailingSlash {u : Url} (h : Settled u) : u.withTrailingSlash.path.text =
    if u.path.text.toList.getLast? = some '/' then u.path.text else u.path.text ++ "/" := by
  obtain ⟨segs, hpath, hne, hsegs⟩ := h.path
  rw [withTrailingSlash_eq hsegs hpath, hpath]
  simp only [getLast?_text hsegs]
  split
  · rw [hpath]
  · rw [text_append]
    rfl

/-- A slash is only added once. -/
theorem Settled.withTrailingSlash_idem {u : Url} (h : Settled u) :
    u.withTrailingSlash.withTrailingSlash = u.withTrailingSlash := by
  obtain ⟨-, front, -, -, heq⟩ := h.trailingSlash
  have hpath : u.withTrailingSlash.path = .segments (front ++ [""]) := by rw [heq]
  obtain ⟨segs, hsegs, hne, hall⟩ := h.withTrailingSlash.path
  cases hpath.symm.trans hsegs
  rw [withTrailingSlash_eq hall hpath, if_pos List.getLast?_concat]

end BareMetal.Url

namespace BareMetal.Settings

theorem baseUrl_eq_ok {p : Profile} {u : Url} : p.baseUrl = .ok u ↔
    ∃ url, Url.parse none p.url = .ok url ∧ (url.scheme = "http" ∨ url.scheme = "https") ∧
      url.withTrailingSlash = u := by
  unfold Profile.baseUrl
  cases h : Url.parse none p.url with
  | error e => simp
  | ok url => by_cases hw : url.scheme = "http" ∨ url.scheme = "https" <;> simp [hw]

theorem settings_eq_ok {p : Profile} {d : Defaults} {s : ClientSettings} : p.settings d = .ok s ↔
    p.baseUrl = .ok s.baseUrl ∧ Version.parse (p.apiVersion.getD d.apiVersion) = .ok s.version ∧
      s.transport = ⟨p.tls d, p.timeout.getD d.timeout⟩ := by
  simp only [Profile.settings, Except.bind_eq_ok, Except.mapError_eq_ok]
  constructor
  · rintro ⟨baseUrl, hurl, version, hversion, h⟩
    cases h
    exact ⟨hurl, hversion, rfl⟩
  · rintro ⟨hurl, hversion, htransport⟩
    refine ⟨_, hurl, _, hversion, ?_⟩
    rw [← htransport]
    rfl

/-- The base URL of a profile is settled, and its path ends with a slash. -/
theorem settled_baseUrl {p : Profile} {u : Url} (h : p.baseUrl = .ok u) :
    u.Settled ∧ ∃ front, u.path = .segments (front ++ [""]) := by
  obtain ⟨url, hparse, hweb, rfl⟩ := baseUrl_eq_ok.mp h
  have hsettled := Url.settled_of_parse hparse hweb
  obtain ⟨segs, front, -, -, heq⟩ := hsettled.trailingSlash
  exact ⟨hsettled.withTrailingSlash, front, by rw [heq]⟩

end BareMetal.Settings
