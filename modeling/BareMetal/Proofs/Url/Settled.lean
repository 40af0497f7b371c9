import BareMetal.Proofs.Except
import BareMetal.Proofs.Url.Segments

/-!
# Web URLs that were read

What is read as a web URL has a host and a path of segments, and all parts of it
are escaped: `settled_of_parse`.
-/

namespace BareMetal.Url

structure Settled (u : Url) : Prop where
  scheme : u.scheme = "http" ∨ u.scheme = "https"
  username : Plain inUserinfo u.username.toList
  password : Plain inUserinfo u.password.toList
  host : ∃ h s, u.host = some h ∧ parseHost s = .ok h
  port : ∀ n ∈ u.port, n ≤ 65535 ∧ u.port ≠ defaultPort u.scheme
  path : ∃ segs, u.path = .segments segs ∧ segs ≠ [] ∧ AllSegments segs
  query : ∀ q ∈ u.query, Plain inSpecialQuery q.toList
  fragment : ∀ f ∈ u.fragment, Plain inFragment f.toList

theorem readTail_plain (s : List Char) : (∀ q ∈ (readTail true s).1, Plain inSpecialQuery q.toList) ∧
    ∀ f ∈ (readTail true s).2, Plain inFragment f.toList := by
  unfold readTail
  extract_lets fragment
  have hfragment : ∀ s, ∀ f ∈ fragment s, Plain inFragment f.toList := by
    intro s f hf
    unfold fragment at hf
    split at hf
    · cases hf
      rw [String.toList_ofList]
      exact plain_percentEncode (by decide) _
    · cases hf
  split
  · refine ⟨fun q hq => ?_, hfragment _⟩
    cases hq
    rw [String.toList_ofList]
    exact plain_percentEncode (by decide) _
  · exact ⟨nofun, hfragment _⟩

theorem readPort_le {s rest : List Char} {port : Option Nat} (h : readPort s = .ok (port, rest)) :
    ∀ n ∈ port, n ≤ 65535 := by
  unfold readPort at h
  split at h
  extract_lets n at h
  split at h
  · cases h
  · rename_i hle
    intro m hm
    have hport : port = none ∨ port = some n := by
      split at h
      · cases h
        split <;> simp
      · split at h
        · cases h
          split <;> simp
        · cases h
    rcases hport with rfl | rfl
    · cases hm
    · cases hm
      omega

theorem readServer_eq_ok {s rest : List Char} {host : Option Host} {port : Option Nat}
    (h : readServer true s = .ok (host, port, rest)) :
    (∃ x t, host = some x ∧ parseHost t = .ok x) ∧ ∀ n ∈ port, n ≤ 65535 := by
  unfold readServer at h
  split at h
  rename_i hostText behind _
  obtain ⟨found, hhost, h⟩ := Except.bind_eq_ok.mp h
  have hread : ∃ x, found = some x ∧ parseHost hostText = .ok x := by
    unfold readHost at hhost
    rw [if_pos rfl] at hhost
    split at hhost
    · cases hhost
    · obtain ⟨x, hx, hfound⟩ := Except.map_eq_ok.mp hhost
      exact ⟨x, hfound.symm, hx⟩
  obtain ⟨x, rfl, hx⟩ := hread
  split at h
  · obtain ⟨⟨n, more⟩, hport, hsame⟩ := Except.map_eq_ok.mp h
    cases hsame
    exact ⟨⟨x, hostText, rfl, hx⟩, readPort_le hport⟩
  · cases h
    exact ⟨⟨x, hostText, rfl, hx⟩, nofun⟩

/-! ## Schemes -/

section
variable {scheme : String} {s : List Char} {u : Url}

theorem scheme_readAuthority (h : readAuthority scheme s = .ok u) : u.scheme = scheme := by
  unfold readAuthority at h
  obtain ⟨⟨user, s₁⟩, -, h⟩ := Except.bind_eq_ok.mp h
  dsimp only at h
  obtain ⟨⟨host, port, s₂⟩, -, h⟩ := Except.bind_eq_ok.mp h
  dsimp only at h
  split at h <;> cases h
  rfl

theorem scheme_readAgainst (base : Url) (s : List Char) : (readAgainst base s).scheme = base.scheme := by
  unfold readAgainst
  extract_lets special withPath
  split
  · rfl
  · split
    · rfl
    · split
      · rfl
      · split <;> rfl

theorem scheme_readFile (h : readFile none s = .ok u) : u.scheme = "file" := by
  unfold readFile at h
  extract_lets finish onFile at h
  have hagainst : ∀ s, (readAgainst (onFile.getD (finish none ([], []))) s).scheme = "file" :=
    fun s => scheme_readAgainst _ s
  split at h
  · split at h
    · dsimp only at h
      split at h
      · cases h
        rfl
      · obtain ⟨host, -, h⟩ := Except.bind_eq_ok.mp h
        cases h
        rfl
    · cases h
      exact hagainst _
  · cases h
    exact hagainst _

theorem scheme_readNonSpecial (h : readNonSpecial scheme s = .ok u) : u.scheme = scheme := by
  unfold readNonSpecial at h
  split at h
  · exact scheme_readAuthority h
  · cases h
    rfl
  · cases h
    rfl

end

theorem settled_of_readAuthority {scheme : String} (hs : scheme = "http" ∨ scheme = "https") {s : List Char}
    {u : Url} (h : readAuthority scheme s = .ok u) : Settled u := by
  have hspecial : isSpecialScheme scheme = true := by
    rcases hs with rfl | rfl <;> rfl
  unfold readAuthority at h
  rw [hspecial] at h
  obtain ⟨⟨user, s₁⟩, -, h⟩ := Except.bind_eq_ok.mp h
  dsimp only at h
  obtain ⟨⟨host, port, s₂⟩, hserver, h⟩ := Except.bind_eq_ok.mp h
  dsimp only at h
  split at h
  · cases h
  · cases h
    obtain ⟨⟨x, t, rfl, hx⟩, hport⟩ := readServer_eq_ok hserver
    obtain ⟨hsegs, hne, -⟩ := allSegments_readPathStart s₂
    obtain ⟨hquery, hfragment⟩ := readTail_plain (readPathStart true s₂).2
    refine ⟨hs, ?_, ?_, ⟨x, t, rfl, hx⟩, ?_, ⟨_, rfl, hne, hsegs⟩, hquery, hfragment⟩
    · rw [String.toList_ofList]
      exact plain_percentEncode (by decide) _
    · rw [String.toList_ofList]
      exact plain_percentEncode (by decide) _
    · intro n hn
      dsimp only at hn ⊢
      split at hn
      · cases hn
      · rename_i hdefault
        rw [if_neg hdefault]
        exact ⟨hport n hn, hdefault⟩

/-- **A web URL that was read is settled.** -/
theorem settled_of_parse {text : String} {u : Url} (h : parse none text = .ok u)
    (hs : u.scheme = "http" ∨ u.scheme = "https") : Settled u := by
  unfold parse at h
  cases hsplit : splitScheme (clean text) with
  | none =>
    simp only [hsplit] at h
    cases h
  | some found =>
    obtain ⟨scheme, rest⟩ := found
    simp only [hsplit] at h
    split at h
    · rw [scheme_readFile h] at hs
      simp at hs
    · split at h
      · rw [scheme_readAuthority h] at hs
        exact settled_of_readAuthority hs h
      · rename_i hspecial
        rw [scheme_readNonSpecial h] at hs
        rcases hs with rfl | rfl <;> exact absurd rfl hspecial

end BareMetal.Url
