import BareMetal.Proofs.Url.Address
import BareMetal.Proofs.Url.Resolving

/-!
# URLs are read as they are written

`parse_text`: the text of a web URL that was read is read as the same URL, if its
host is.
-/

namespace BareMetal.Url

/-! ## Texts of hosts -/

/-- The text of a host, which an authority can tell from what is around it. -/
structure IsHostText (s : List Char) : Prop where
  ne_nil : s ≠ []
  chars : ∀ c ∈ s, c ≠ '@' ∧ endsAuthority true c = false ∧ 0x20 < c.toNat
  span : ∀ r : List Char, (∀ c ∈ r.head?, c = ':' ∨ endsAuthority true c = true) →
    spanHost true false (s ++ r) = (s, r)

theorem spanHost_end {r : List Char} (h : ∀ c ∈ r.head?, c = ':' ∨ endsAuthority true c = true) :
    spanHost true false r = ([], r) := by
  cases r with
  | nil => rfl
  | cons c r =>
    have hc : (c = ':' ∧ !false) ∨ endsAuthority true c = true := (h c rfl).imp (fun h => ⟨h, rfl⟩) id
    rw [spanHost, if_pos hc]

theorem spanHost_append {bracket : Bool} {s : List Char}
    (h : ∀ c ∈ s, endsAuthority true c = false ∧ (c = ':' → bracket = true) ∧ c ≠ '[' ∧ c ≠ ']') (r : List Char) :
    spanHost true bracket (s ++ r) = (s ++ (spanHost true bracket r).1, (spanHost true bracket r).2) := by
  induction s with
  | nil => rfl
  | cons c s ih =>
    rw [List.forall_mem_cons] at h
    obtain ⟨⟨hends, hcolon, hopen, hclose⟩, hs⟩ := h
    have hc : ¬ ((c = ':' ∧ !bracket) ∨ endsAuthority true c = true) := by
      rintro (⟨rfl, hb⟩ | he)
      · simp [hcolon rfl] at hb
      · rw [hends] at he
        cases he
    rw [List.cons_append, spanHost, if_neg hc, if_neg hopen, if_neg hclose, ih hs]
    rfl

theorem of_not_forbidden {c : Char} (h : Name.isForbidden c = false) :
    endsAuthority true c = false ∧ c ∉ [':', '@', '[', ']'] ∧ 0x20 < c.toNat := by
  have hne : ∀ d : Char, Name.isForbidden d = true → c ≠ d := by
    rintro d hd rfl
    rw [h] at hd
    cases hd
  have hcode : 0x20 ≤ c.toNat := by
    simp only [Name.isForbidden, Bool.or_eq_false_iff, decide_eq_false_iff_not] at h
    omega
  have hblank : c.toNat ≠ 0x20 := fun heq => hne ' ' (by decide) (Char.toNat_inj.mp heq)
  refine ⟨?_, ?_, by omega⟩
  · simp [endsAuthority, hne '/' (by decide), hne '?' (by decide), hne '#' (by decide), hne '\\' (by decide)]
  · simp [hne ':' (by decide), hne '@' (by decide), hne '[' (by decide), hne ']' (by decide)]

theorem isHostText_of_name {s : List Char} (hne : s ≠ []) (h : s.any Name.isForbidden = false) :
    IsHostText s := by
  have hall : ∀ c ∈ s, endsAuthority true c = false ∧ c ∉ [':', '@', '[', ']'] ∧ 0x20 < c.toNat := by
    intro c hc
    rw [List.any_eq_false] at h
    exact of_not_forbidden (by simpa using h c hc)
  simp only [List.mem_cons, List.not_mem_nil, or_false, not_or] at hall
  refine ⟨hne, fun c hc => ?_, fun r hr => ?_⟩
  · obtain ⟨hends, ⟨-, hat, -⟩, hcode⟩ := hall c hc
    exact ⟨hat, hends, hcode⟩
  · rw [spanHost_append, spanHost_end hr, List.append_nil]
    intro c hc
    obtain ⟨hends, ⟨hcolon, -, hopen, hclose⟩, -⟩ := hall c hc
    exact ⟨hends, fun h => absurd h hcolon, hopen, hclose⟩

theorem of_address {c : Char} (h : Text.isHexDigit c = true ∨ c = ':') :
    endsAuthority true c = false ∧ c ∉ ['@', '[', ']'] ∧ 0x20 < c.toNat := by
  have hascii : c.toNat < 128 := by
    rcases h with h | rfl
    · obtain ⟨d, hd⟩ := Option.isSome_iff_exists.mp h
      exact (Text.of_hexValue? hd).2
    · decide
  refine Text.of_ascii (p := fun c => Text.isHexDigit c = true ∨ c = ':' →
    endsAuthority true c = false ∧ c ∉ ['@', '[', ']'] ∧ 0x20 < c.toNat) ?_ hascii h
  decide

theorem isHostText_of_brackets {s : List Char} (h : ∀ c ∈ s, Text.isHexDigit c = true ∨ c = ':') :
    IsHostText ('[' :: (s ++ [']'])) := by
  refine ⟨List.cons_ne_nil _ _, ?_, fun r hr => ?_⟩
  · rw [List.forall_mem_cons, List.forall_mem_append, List.forall_mem_singleton]
    refine ⟨by decide, fun c hc => ?_, by decide⟩
    obtain ⟨hends, hne, hcode⟩ := of_address (h c hc)
    exact ⟨fun heq => hne (by simp [heq]), hends, hcode⟩
  · have hspan : spanHost true true (s ++ ']' :: r) = (s ++ (spanHost true true (']' :: r)).1,
        (spanHost true true (']' :: r)).2) := by
      apply spanHost_append
      intro c hc
      obtain ⟨hends, hne, -⟩ := of_address (h c hc)
      simp only [List.mem_cons, List.not_mem_nil, or_false, not_or] at hne
      exact ⟨hends, fun _ => rfl, hne.2⟩
    have hclose : spanHost true true (']' :: r) = ([']'], r) := by
      rw [spanHost, if_neg (by decide), if_neg (by decide), if_pos rfl, spanHost_end hr]
    have hopen : ¬ (('[' = ':' ∧ !false) ∨ endsAuthority true '[' = true) := by decide
    rw [List.cons_append, List.append_assoc, List.singleton_append, spanHost, if_neg hopen, if_pos rfl, hspan, hclose]

theorem isHostText_text {h : Host} (hr : h.IsRead) : IsHostText h.text.toList := by
  cases h with
  | domain name =>
    obtain ⟨hne, ⟨s, hs⟩, -⟩ := hr
    obtain ⟨-, -, -, hallowed⟩ := asciiName?_eq_some.mp hs
    exact isHostText_of_name hne hallowed
  | ipv4 n => exact isHostText_of_name (toList_ipv4Text_ne_nil n) (isPlainName_ipv4Text n).allowed
  | ipv6 gs =>
    have htext : (Host.ipv6 gs).text.toList = '[' :: ((ipv6Text gs).toList ++ [']']) := by
      simp [Host.text]
    rw [htext]
    exact isHostText_of_brackets fun c hc => of_mem_ipv6Text hc

/-! ## Behind the host -/

def tailText (query fragment : Option String) : List Char :=
  query.elim [] (fun q => '?' :: q.toList) ++ fragment.elim [] (fun f => '#' :: f.toList)

theorem isTail_tailText (query fragment : Option String) : IsTail (tailText query fragment) := by
  cases query <;> cases fragment <;> simp [tailText, IsTail]

theorem readTail_fragment {fragment : Option String} (hf : ∀ f ∈ fragment, Plain inFragment f.toList) :
    readTail true (fragment.elim [] fun f => '#' :: f.toList) = (none, fragment) := by
  cases fragment with
  | none => rfl
  | some f => simp [readTail, percentEncode_of_plain (hf f rfl)]

theorem readTail_tailText {query fragment : Option String} (hq : ∀ q ∈ query, Plain inSpecialQuery q.toList)
    (hf : ∀ f ∈ fragment, Plain inFragment f.toList) : readTail true (tailText query fragment) = (query, fragment) := by
  cases query with
  | none => exact readTail_fragment hf
  | some q =>
    have hplain := hq q rfl
    have hhash : ∀ c ∈ q.toList, (c != '#') = true := by
      intro c hc
      rw [bne_iff_ne]
      rintro rfl
      exact absurd (hplain _ hc).2 (by decide)
    have hspan : (q.toList ++ fragment.elim [] fun f => '#' :: f.toList).span (· != '#') =
        (q.toList, fragment.elim [] fun f => '#' :: f.toList) := by
      apply Text.span_eq hhash
      cases fragment <;> simp
    have htext : tailText (some q) fragment = '?' :: (q.toList ++ fragment.elim [] fun f => '#' :: f.toList) := rfl
    rw [htext, readTail]
    dsimp only
    rw [hspan]
    cases fragment with
    | none => simp [percentEncode_of_plain hplain]
    | some f => simp [percentEncode_of_plain hplain, percentEncode_of_plain (hf f rfl)]

def portText (port : Option Nat) : List Char := port.elim [] fun n => ':' :: Nat.toDigits 10 n

section
variable {r : List Char} (hr : ∃ s, r = '/' :: s)
include hr

theorem readPort_toDigits {n : Nat} (hn : n ≤ 65535) : readPort (Nat.toDigits 10 n ++ r) = .ok (some n, r) := by
  obtain ⟨s, rfl⟩ := hr
  have hne : Nat.toDigits 10 n ≠ [] := Nat.toDigits_ne_nil
  have hspan : (Nat.toDigits 10 n ++ '/' :: s).span Char.isDigit = (Nat.toDigits 10 n, '/' :: s) := by
    apply Text.span_eq (Text.isDigit_toDigits n)
    simp
  rw [readPort, hspan]
  simp only [Text.numeral_toDigits (b := 10) (by decide) (by decide)]
  rw [if_neg (by omega), if_pos (by decide)]
  simp [hne]

theorem readServer_portText {hostText : List Char} (ht : IsHostText hostText) {port : Option Nat}
    (hport : ∀ n ∈ port, n ≤ 65535) : readServer true (hostText ++ (portText port ++ r)) =
      (parseHost hostText).map fun h => (some h, port, r) := by
  have hhost : readHost true hostText = (parseHost hostText).map some := by
    have hempty : hostText.isEmpty = false := by simp [ht.ne_nil]
    rw [readHost, if_pos rfl, hempty]
    rfl
  have hspan : spanHost true false (hostText ++ (portText port ++ r)) = (hostText, portText port ++ r) := by
    apply ht.span
    obtain ⟨s, rfl⟩ := hr
    cases port with
    | none =>
      intro c hc
      cases hc
      exact .inr (by decide)
    | some n =>
      intro c hc
      cases hc
      exact .inl rfl
  rw [readServer, hspan]
  dsimp only
  rw [hhost]
  cases parseHost hostText with
  | error e => rfl
  | ok h =>
    cases port with
    | none =>
      obtain ⟨s, rfl⟩ := hr
      rfl
    | some n =>
      have hread := readPort_toDigits hr (hport n rfl)
      have htext : portText (some n) ++ r = ':' :: (Nat.toDigits 10 n ++ r) := rfl
      rw [htext]
      simp [bind, Except.bind, hread, Except.map]

end

/-! ## Users -/

def userText (username password : String) : List Char :=
  username.toList ++ if password.isEmpty then [] else ':' :: password.toList

theorem toList_userinfoText (u : Url) : u.userinfoText.toList =
    if u.username.isEmpty ∧ u.password.isEmpty then [] else userText u.username u.password ++ ['@'] := by
  unfold userinfoText userText
  split
  · rfl
  · by_cases hp : u.password.isEmpty = true <;> simp [hp]

theorem of_not_inUserinfo {c : Char} (h : c.toNat < 0x80 ∧ inUserinfo c = false) :
    endsAuthority true c = false ∧ c ≠ '@' ∧ c ≠ ':' ∧ 0x20 < c.toNat := by
  refine Text.of_ascii (p := fun c => inUserinfo c = false →
    endsAuthority true c = false ∧ c ≠ '@' ∧ c ≠ ':' ∧ 0x20 < c.toNat) ?_ h.1 h.2
  decide

theorem splitUserinfo_of_not_mem {s : List Char} (h : '@' ∉ s) : splitUserinfo s = none := by
  simp [splitUserinfo, h]

theorem splitUserinfo_append {user after : List Char} (h : '@' ∉ after) :
    splitUserinfo (user ++ '@' :: after) = some (user, after) := by
  have hafter : ((user ++ '@' :: after).reverse.takeWhile (· != '@')).reverse = after := by
    have hfree : ∀ c ∈ after.reverse, (c != '@') = true := by
      intro c hc
      rw [bne_iff_ne]
      rintro rfl
      exact h (List.mem_reverse.mp hc)
    rw [List.reverse_append, List.reverse_cons, List.append_assoc, List.takeWhile_append_of_pos hfree]
    simp
  have hlength : (user ++ '@' :: after).length - after.length - 1 = user.length := by
    simp
    omega
  rw [splitUserinfo, if_pos (by simp), hafter]
  dsimp only
  rw [hlength, List.take_left]

section
variable {username password : String} (hname : Plain inUserinfo username.toList)
  (hsecret : Plain inUserinfo password.toList)
include hname hsecret

theorem of_mem_userText {c : Char} (hc : c ∈ userText username password) :
    c ≠ '@' ∧ endsAuthority true c = false ∧ 0x20 < c.toNat := by
  have hplain : ∀ c, c.toNat < 0x80 ∧ inUserinfo c = false → c ≠ '@' ∧ endsAuthority true c = false ∧ 0x20 < c.toNat := by
    intro c hc
    obtain ⟨hends, hat, -, hcode⟩ := of_not_inUserinfo hc
    exact ⟨hat, hends, hcode⟩
  unfold userText at hc
  split at hc
  · rw [List.append_nil] at hc
    exact hplain c (hname c hc)
  · simp only [List.mem_append, List.mem_cons] at hc
    rcases hc with hc | rfl | hc
    · exact hplain c (hname c hc)
    · decide
    · exact hplain c (hsecret c hc)

omit hsecret in
theorem span_userText : (userText username password).span (· != ':') =
    (username.toList, if password.isEmpty then [] else ':' :: password.toList) := by
  apply Text.span_eq
  · intro c hc
    obtain ⟨-, -, hcolon, -⟩ := of_not_inUserinfo (hname c hc)
    exact bne_iff_ne.mpr hcolon
  · split <;> simp

theorem readUserinfo_userText {u : Url} (hu : u.username = username ∧ u.password = password) {server r : List Char}
    (hserver : ∀ c ∈ server, c ≠ '@' ∧ endsAuthority true c = false) (hr : ∃ s, r = '/' :: s) :
    readUserinfo true (u.userinfoText.toList ++ (server ++ r)) = .ok (userText username password, server ++ r) := by
  obtain ⟨rfl, rfl⟩ := hu
  obtain ⟨s, rfl⟩ := hr
  have hat : '@' ∉ server := fun hm => (hserver '@' hm).1 rfl
  have hspan : ∀ user : List Char, (∀ c ∈ user, endsAuthority true c = false) →
      (user ++ (server ++ '/' :: s)).span (fun c => !endsAuthority true c) = (user ++ server, '/' :: s) := by
    intro user huser
    rw [← List.append_assoc]
    apply Text.span_eq
    · intro c hc
      rcases List.mem_append.mp hc with hc | hc
      · simp [huser c hc]
      · simp [(hserver c hc).2]
    · simp [endsAuthority]
  rw [toList_userinfoText]
  split
  · rename_i hempty
    have htext : userText u.username u.password = [] := by
      simp [userText, String.isEmpty_iff.mp hempty.1, hempty.2]
    have hserverSpan := hspan [] nofun
    rw [List.nil_append, List.nil_append] at hserverSpan
    rw [htext, List.nil_append, readUserinfo, hserverSpan]
    dsimp only
    rw [splitUserinfo_of_not_mem hat]
  · rename_i hne
    have hends : ∀ c ∈ userText u.username u.password ++ ['@'], endsAuthority true c = false := by
      rw [List.forall_mem_append, List.forall_mem_singleton]
      exact ⟨fun c hc => (of_mem_userText hname hsecret hc).2.1, by decide⟩
    have hnil : (userText u.username u.password).isEmpty = false := by
      unfold userText
      by_cases hp : u.password.isEmpty = true
      · have hn : u.username ≠ "" := fun h => hne ⟨String.isEmpty_iff.mpr h, hp⟩
        simp [hp, hn]
      · simp [hp]
    rw [readUserinfo, hspan _ hends]
    dsimp only
    rw [List.append_assoc, List.singleton_append, splitUserinfo_append hat]
    simp [hnil]

end

/-! ## Whole texts -/

/-- The text of a URL with this text for its host. -/
def textWith (u : Url) (hostText : List Char) : List Char :=
  u.scheme.toList ++ ':' :: '/' :: '/' :: (u.userinfoText.toList ++
    (hostText ++ (portText u.port ++ (u.path.text.toList ++ tailText u.query u.fragment))))

section
variable {u : Url} (hu : u.Settled) {hostText : List Char} (ht : IsHostText hostText)
include hu ht

omit ht in
theorem fromPath_head : ∃ s, u.path.text.toList ++ tailText u.query u.fragment = '/' :: s := by
  obtain ⟨segs, hpath, hne, -⟩ := hu.path
  rw [hpath, toList_text hne]
  exact ⟨_, rfl⟩

omit hu in
theorem server_chars (port : Option Nat) : ∀ c ∈ hostText ++ portText port,
    c ≠ '@' ∧ endsAuthority true c = false ∧ 0x20 < c.toNat := by
  rw [List.forall_mem_append]
  refine ⟨ht.chars, ?_⟩
  cases port with
  | none => nofun
  | some n =>
    have hdigit : ∀ c : Char, c.isDigit = true → c ≠ '@' ∧ endsAuthority true c = false ∧ 0x20 < c.toNat := by
      intro c hc
      refine Text.of_ascii (p := fun c => c.isDigit = true → c ≠ '@' ∧ endsAuthority true c = false ∧
        0x20 < c.toNat) ?_ (Text.lt_of_isDigit hc) hc
      decide
    exact List.forall_mem_cons.mpr ⟨by decide, fun c hc => hdigit c (Text.isDigit_toDigits n c hc)⟩

omit ht in
theorem userinfo_chars : ∀ c ∈ u.userinfoText.toList, endsAuthority true c = false ∧ 0x20 < c.toNat := by
  rw [toList_userinfoText]
  split
  · nofun
  · rw [List.forall_mem_append, List.forall_mem_singleton]
    exact ⟨fun c hc => (of_mem_userText hu.username hu.password hc).2, by decide⟩

omit ht in
theorem fromPath_chars : ∀ c ∈ u.path.text.toList ++ tailText u.query u.fragment, 0x20 < c.toNat := by
  have hquery : ∀ c : Char, c.toNat < 0x80 ∧ inSpecialQuery c = false → 0x20 < c.toNat := fun c hc =>
    Text.of_ascii (p := fun c => inSpecialQuery c = false → 0x20 < c.toNat) (by decide) hc.1 hc.2
  have hfragment : ∀ c : Char, c.toNat < 0x80 ∧ inFragment c = false → 0x20 < c.toNat := fun c hc =>
    Text.of_ascii (p := fun c => inFragment c = false → 0x20 < c.toNat) (by decide) hc.1 hc.2
  obtain ⟨segs, hpath, -, hsegs⟩ := hu.path
  rw [hpath, List.forall_mem_append, tailText, List.forall_mem_append]
  refine ⟨fun c hc => ?_, ?_, ?_⟩
  · rcases of_mem_text hsegs hc with rfl | ⟨-, hc⟩
    · decide
    · exact visible_of_inSegment hc
  · cases hq : u.query with
    | none => nofun
    | some q => exact List.forall_mem_cons.mpr ⟨by decide, fun c hc => hquery c (hu.query q hq c hc)⟩
  · cases hf : u.fragment with
    | none => nofun
    | some f => exact List.forall_mem_cons.mpr ⟨by decide, fun c hc => hfragment c (hu.fragment f hf c hc)⟩

theorem readAuthority_textWith : readAuthority u.scheme (u.userinfoText.toList ++
    (hostText ++ (portText u.port ++ (u.path.text.toList ++ tailText u.query u.fragment)))) =
      (parseHost hostText).map fun h => { u with host := some h } := by
  have hhead := fromPath_head hu
  have huser := readUserinfo_userText hu.username hu.password ⟨rfl, rfl⟩
    (fun c hc => ⟨(server_chars ht u.port c hc).1, (server_chars ht u.port c hc).2.1⟩) hhead
  have hserver := readServer_portText hhead ht fun n hn => (hu.port n hn).1
  have htail := readTail_tailText hu.query hu.fragment
  obtain ⟨segs, hpath, hne, hsegs⟩ := hu.path
  have hread := readPathStart_text hsegs true hne (isTail_tailText u.query u.fragment)
  have hport : (if u.port = defaultPort u.scheme then none else u.port) = u.port := by
    split
    · rename_i hdefault
      cases hp : u.port with
      | none => rfl
      | some n => exact absurd hdefault (hu.port n hp).2
    · rfl
  have hsecret : (if u.password.isEmpty then [] else ':' :: u.password.toList).drop 1 = u.password.toList := by
    split
    · rename_i hempty
      rw [String.isEmpty_iff.mp hempty]
      rfl
    · rfl
  rw [List.append_assoc] at huser
  unfold readAuthority
  simp only [hu.isWeb.special, huser, span_userText hu.username, hsecret, percentEncode_of_plain hu.username,
    percentEncode_of_plain hu.password, hserver, String.ofList_toList, bind, Except.bind]
  cases parseHost hostText with
  | error e => rfl
  | ok h =>
    simp only [Except.map]
    rw [hpath, hread]
    simp only [htail, hport, Option.isNone_some, Bool.false_eq_true, false_and, if_false]

/-- **A text of this form is read as the URL**, with whatever host its text is read as. No base
matters to it. -/
theorem parse_textWith (base : Option Url) {s : String} (hs : s.toList = textWith u hostText) :
    parse base s = (parseHost hostText).map fun h => { u with host := some h } := by
  have hclean : clean s = textWith u hostText := by
    have hscheme : ∀ c ∈ u.scheme.toList, 0x20 < c.toNat := by
      rcases hu.scheme with h | h <;> rw [h] <;> decide
    have hserver := server_chars ht u.port
    rw [List.forall_mem_append] at hserver
    rw [clean_of_visible, hs]
    rw [hs, textWith, List.forall_mem_append, List.forall_mem_cons, List.forall_mem_cons, List.forall_mem_cons,
      List.forall_mem_append, List.forall_mem_append, List.forall_mem_append]
    exact ⟨hscheme, by decide, by decide, by decide, fun c hc => (userinfo_chars hu c hc).2,
      fun c hc => (hserver.1 c hc).2.2, fun c hc => (hserver.2 c hc).2.2, fromPath_chars hu⟩
  have hsplit : splitScheme (textWith u hostText) = some (u.scheme, '/' :: '/' :: (u.userinfoText.toList ++
      (hostText ++ (portText u.port ++ (u.path.text.toList ++ tailText u.query u.fragment))))) := by
    unfold textWith
    rcases hu.scheme with h | h <;> rw [h] <;> rfl
  have hslashes (t : List Char) : ('/' :: '/' :: (u.userinfoText.toList ++ (hostText ++ t))).dropWhile (isSlash true) =
      u.userinfoText.toList ++ (hostText ++ t) := by
    have hfirst : ∀ c ∈ u.userinfoText.toList ++ hostText, ¬ isSlash true c = true := by
      have hnot : ∀ c, endsAuthority true c = false → ¬ isSlash true c = true := by
        intro c hc hs
        simp only [isSlash, Bool.true_and, Bool.or_eq_true, beq_iff_eq] at hs
        rcases hs with rfl | rfl <;> cases hc
      rw [List.forall_mem_append]
      exact ⟨fun c hc => hnot c (userinfo_chars hu c hc).1, fun c hc => hnot c (ht.chars c hc).2.1⟩
    have hne : u.userinfoText.toList ++ hostText ≠ [] := by
      simp [ht.ne_nil]
    obtain ⟨c, r, hc⟩ := List.exists_cons_of_ne_nil hne
    rw [hc] at hfirst
    rw [← List.append_assoc, hc]
    exact List.dropWhile_cons_of_neg (hfirst c List.mem_cons_self)
  have htwo (t : List Char) : ¬ (('/' :: '/' :: t).takeWhile (isSlash true)).length < 2 :=
    onSlashes_iff.mp ⟨rfl, rfl⟩
  unfold parse
  rw [hclean]
  simp only [hsplit, hu.isWeb.ne_file, hu.isWeb.special, if_false, if_true, htwo, false_and, hslashes]
  cases base <;> exact readAuthority_textWith hu ht

end

theorem toList_text_eq {u : Url} {h : Host} (hhost : u.host = some h) : u.text.toList = textWith u h.text.toList := by
  have hport : (u.port.elim "" fun n => ":" ++ toString n).toList = portText u.port := by
    cases u.port with
    | none => rfl
    | some n => simp [portText, Nat.toList_repr]
  have htail : (u.query.elim "" ("?" ++ ·)).toList ++ (u.fragment.elim "" ("#" ++ ·)).toList =
      tailText u.query u.fragment := by
    cases u.query <;> cases u.fragment <;> simp [tailText]
  rw [text, authorityText, hhost, fromPath, textWith, ← hport, ← htail]
  simp

/-- **A web URL that was read is read from its text**, against any base, if the codes in its name can
be read. -/
theorem parse_text {u : Url} (hu : u.Settled) (hcode : ∀ h ∈ u.host, h.IsReadable) (base : Option Url) :
    parse base u.text = .ok u := by
  obtain ⟨h, s, hhost, hs⟩ := hu.host
  have hread := isRead_of_parseHost hs
  rw [parse_textWith hu (isHostText_text hread) base (toList_text_eq hhost), parseHost_text hread (hcode h hhost)]
  show Except.ok { u with host := some h } = _
  rw [← hhost]

end BareMetal.Url
