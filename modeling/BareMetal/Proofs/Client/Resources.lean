import BareMetal.Client
import BareMetal.Proofs.Settings.Resolution

/-!
# URLs of resources

Where a call goes. The path of a resource is resolved against the base URL of a
region controller, so it decides on the path of the request, and may decide on
more: `resourceUrl_plain` and `resourceUrl_authority`.
-/

namespace BareMetal.Client

open Url

/-! ## Paths of plain segments -/

def isUnreserved (c : Char) : Bool := c.isAlphanum || ['-', '.', '_', '~'].contains c

structure IsPlainSegment (seg : String) : Prop where
  ne_empty : seg ≠ ""
  unreserved : ∀ c ∈ seg.toList, isUnreserved c = true
  ne_dot : seg ≠ "."
  ne_dots : seg ≠ ".."

instance : DecidablePred IsPlainSegment := fun seg =>
  decidable_of_iff (seg ≠ "" ∧ (∀ c ∈ seg.toList, isUnreserved c = true) ∧ seg ≠ "." ∧ seg ≠ "..")
    ⟨fun ⟨hne, hchars, hdot, hdots⟩ => ⟨hne, hchars, hdot, hdots⟩,
      fun h => ⟨h.ne_empty, h.unreserved, h.ne_dot, h.ne_dots⟩⟩

/-- Segments with slashes between them, and perhaps one behind them. -/
def resourcePath (segs : List String) (slash : Bool) : String :=
  "/".intercalate segs ++ if slash then "/" else ""

theorem of_isUnreserved {c : Char} (h : isUnreserved c = true) :
    c.toNat < 0x80 ∧ inSegment c = false ∧ 0x20 < c.toNat ∧ c ≠ ':' ∧ c ≠ '%' := by
  have hascii : c.toNat < 0x80 := by
    rw [isUnreserved, Bool.or_eq_true] at h
    rcases h with h | h
    · exact Text.lt_of_isAlphanum h
    · simp only [List.contains_eq_mem, List.mem_cons, List.not_mem_nil, or_false, decide_eq_true_eq] at h
      rcases h with rfl | rfl | rfl | rfl <;> decide
  refine ⟨hascii, ?_⟩
  exact Text.of_ascii (p := fun c => isUnreserved c = true → inSegment c = false ∧ 0x20 < c.toNat ∧ c ≠ ':' ∧ c ≠ '%')
    (by decide) hascii h

theorem IsPlainSegment.isSegment {seg : String} (h : IsPlainSegment seg) : IsSegment seg.toList := by
  have hpercent : '%' ∉ seg.toList := fun hm => (of_isUnreserved (h.unreserved _ hm)).2.2.2.2 rfl
  refine ⟨fun c hc => ?_, ?_, ?_⟩
  · obtain ⟨hascii, hseg, -⟩ := of_isUnreserved (h.unreserved c hc)
    exact ⟨hascii, hseg⟩
  · rw [isSingleDot, String.ofList_toList, Bool.eq_false_iff]
    intro hm
    simp only [List.contains_eq_mem, List.mem_cons, List.not_mem_nil, or_false, decide_eq_true_eq] at hm
    rcases hm with rfl | rfl | rfl
    · exact h.ne_dot rfl
    all_goals exact absurd (by decide) hpercent
  · rw [isDoubleDot, String.ofList_toList, Bool.eq_false_iff]
    intro hm
    simp only [List.contains_eq_mem, List.mem_cons, List.not_mem_nil, or_false, decide_eq_true_eq] at hm
    rcases hm with rfl | rfl | rfl | rfl | rfl | rfl | rfl | rfl | rfl
    · exact h.ne_dots rfl
    all_goals exact absurd (by decide) hpercent

section
variable {segs : List String} (hne : segs ≠ []) (hplain : ∀ seg ∈ segs, IsPlainSegment seg) (slash : Bool)

/-- The segments of a resource. The last one is empty where a slash is behind all others. -/
def resourceSegments (segs : List String) (slash : Bool) : List String := if slash then segs ++ [""] else segs

include hplain in
theorem allSegments_resourceSegments : AllSegments (resourceSegments segs slash) := by
  have hsegs : AllSegments segs := fun seg hs => (hplain seg hs).isSegment
  unfold resourceSegments
  split
  · exact hsegs.snoc isSegment_nil
  · exact hsegs

include hne in
theorem resourceSegments_ne_nil : resourceSegments segs slash ≠ [] := by
  unfold resourceSegments
  split <;> simp [hne]

include hne in
theorem intercalate_resourceSegments : "/".intercalate (resourceSegments segs slash) = resourcePath segs slash := by
  unfold resourceSegments resourcePath
  cases slash with
  | false => simp
  | true =>
    have htext := text_append segs [""]
    rw [text_eq (by simp), text_eq hne, String.append_assoc] at htext
    exact (String.append_right_inj _).mp htext

include hne hplain in
theorem resourceSegments_first : ∃ seg more, resourceSegments segs slash = seg :: more ∧ seg ≠ "" := by
  obtain ⟨seg, more, rfl⟩ := List.exists_cons_of_ne_nil hne
  have hseg := (hplain seg List.mem_cons_self).ne_empty
  cases slash with
  | false => exact ⟨seg, more, rfl, hseg⟩
  | true => exact ⟨seg, more ++ [""], rfl, hseg⟩

include hplain in
theorem no_colon_resourceSegments : ':' ∉ ("/".intercalate (resourceSegments segs slash)).toList := by
  intro hm
  rcases mem_intercalate hm with h | ⟨seg, hseg, hm⟩
  · exact absurd h (by decide)
  · have hcase : seg ∈ segs ∨ seg = "" := by
      cases slash with
      | false => exact .inl hseg
      | true => simpa [resourceSegments] using hseg
    rcases hcase with hseg | rfl
    · exact (of_isUnreserved ((hplain seg hseg).unreserved _ hm)).2.2.2.1 rfl
    · simp at hm

end

/-! ## Resolving them -/

theorem resourceUrl_of_join {base : Url} {reference : String} {path : Path} (op : Option String)
    (h : join base reference = .ok { base with path, query := none, fragment := none }) :
    resourceUrl base reference op =
      .ok { base with path, query := op.map ("op=" ++ formEncode ·), fragment := none } := by
  have hpair : ∀ op, formPair ("op", op) = "op=" ++ formEncode op := by
    intro op
    have hname : formEncode "op" ++ "=" = "op=" := by decide
    rw [← hname]
    rfl
  unfold resourceUrl
  rw [h]
  cases op with
  | none => rfl
  | some op =>
    rw [Option.map_some, ← hpair]
    rfl

/-- **A resource of plain segments keeps the authority of the base URL.** Its path takes the place of
the path of the base if a slash begins it, and else goes on from there. -/
theorem resourceUrl_plain {p : Settings.Profile} {d : Settings.Defaults} {s : Settings.ClientSettings}
    (hs : p.settings d = .ok s) {segs : List String} (hne : segs ≠ [])
    (hplain : ∀ seg ∈ segs, IsPlainSegment seg) (slash : Bool) (op : Option String) :
    (∃ path, path.text = "/" ++ resourcePath segs slash ∧
      resourceUrl s.baseUrl ("/" ++ resourcePath segs slash) op =
        .ok { s.baseUrl with path, query := op.map ("op=" ++ formEncode ·), fragment := none }) ∧
    ∃ path, path.text = s.baseUrl.path.text ++ resourcePath segs slash ∧
      resourceUrl s.baseUrl (resourcePath segs slash) op =
        .ok { s.baseUrl with path, query := op.map ("op=" ++ formEncode ·), fragment := none } := by
  obtain ⟨hsettled, front, hfront⟩ := Settings.settled_baseUrl (Settings.settings_eq_ok.mp hs).1
  have hsegs := allSegments_resourceSegments hplain slash
  have hfirst := resourceSegments_first hne hplain slash
  have htext := text_eq (resourceSegments_ne_nil hne slash)
  rw [intercalate_resourceSegments hne] at htext
  refine ⟨⟨_, htext, ?_⟩, .segments (front ++ resourceSegments segs slash), ?_, ?_⟩
  · rw [← htext]
    exact resourceUrl_of_join op (join_text hsettled.isWeb hsegs hfirst)
  · rw [text_append, htext, hfront, text_append, String.append_assoc]
    rfl
  · rw [← intercalate_resourceSegments hne]
    apply resourceUrl_of_join
    exact join_intercalate hsettled.isWeb hsegs hfirst hfront (no_colon_resourceSegments hplain slash)

/-- The machines of a controller, by their own path and under the path of the controller. -/
theorem resourceUrl_plain_machines :
    (∃ path, path.text = "/MAAS/api/2.0/machines/" ∧
      resourceUrl Settings.addressSettings.baseUrl "/MAAS/api/2.0/machines/" (some "list allocated") =
        .ok { Settings.addressUrl with path, query := some "op=list+allocated" }) ∧
    ∃ path, path.text = "/MAAS/api/2.0/machines/" ∧
      resourceUrl Settings.addressSettings.baseUrl "api/2.0/machines/" none =
        .ok { Settings.addressUrl with path, query := none } := by
  have hplain : ∀ seg ∈ ["MAAS", "api", "2.0", "machines"], IsPlainSegment seg := by decide
  have hbehind : ∀ seg ∈ ["api", "2.0", "machines"], IsPlainSegment seg :=
    fun seg hseg => hplain seg (List.mem_cons_of_mem _ hseg)
  obtain ⟨habsolute, -⟩ := resourceUrl_plain Settings.settings_addressProfile (List.cons_ne_nil _ _) hplain true
    (some "list allocated")
  obtain ⟨-, hrelative⟩ := resourceUrl_plain Settings.settings_addressProfile (List.cons_ne_nil _ _) hbehind true none
  have hquery : "op=" ++ formEncode "list allocated" = "op=list+allocated" := by decide
  rw [Option.map_some, hquery] at habsolute
  exact ⟨habsolute, hrelative⟩

/-! ## Any path -/

theorem resourceUrl_eq_elim {base url : Url} {path : String} (op : Option String) (h : join base path = .ok url) :
    resourceUrl base path op = .ok (op.elim url (url.appendPair "op")) := by
  unfold resourceUrl
  rw [h]
  rfl

/-- A path that is the text of a web URL leads to that URL. -/
theorem resourceUrl_text {url : Url} (hurl : url.Settled) (hcode : ∀ h ∈ url.host, h.IsReadable) (base : Url)
    (op : Option String) : resourceUrl base url.text op = .ok (op.elim url (url.appendPair "op")) :=
  resourceUrl_eq_elim op (parse_text hurl hcode (some base))

/-- **A path that names no authority keeps the one of the base URL.** For any other path the base URL
does not matter beyond its scheme, and every web URL can be reached. -/
theorem resourceUrl_authority {base : Url} (hb : base.IsWeb) (path : String) (op : Option String) :
    (StaysOn base path → ∃ segs query fragment, resourceUrl base path op =
      .ok { base with path := .segments segs, query, fragment }) ∧
    (¬ StaysOn base path → ∀ other : Url, other.IsWeb → other.scheme = base.scheme →
      resourceUrl other path op = resourceUrl base path op) ∧
    ∀ url : Url, url.Settled → (∀ h ∈ url.host, h.IsReadable) → path = url.text →
      resourceUrl base path op = .ok (op.elim url (url.appendPair "op")) := by
  refine ⟨fun h => ?_, fun h other ho hs => ?_, ?_⟩
  · obtain ⟨segs, query, fragment, hjoin⟩ := join_staysOn hb h
    rw [resourceUrl_eq_elim op hjoin]
    cases op with
    | none => exact ⟨segs, query, fragment, rfl⟩
    | some op => exact ⟨segs, _, fragment, rfl⟩
  · unfold resourceUrl
    rw [join_leaves hb h ho hs]
  · rintro url hurl hcode rfl
    exact resourceUrl_text hurl hcode base op

/-- A URL of another host. -/
def otherUrl : Url :=
  { Settings.addressUrl with host := some (.ipv4 167772163), port := none, path := .segments ["MAAS", ""], query := none }

theorem settled_otherUrl : otherUrl.Settled :=
  { Settings.settled_addressUrl with
    host := ⟨.ipv4 167772163, _, rfl, parseHost_text (by unfold Host.IsRead; decide) trivial⟩
    port := nofun
    path := ⟨_, rfl, by decide, by decide⟩
    query := nofun }

/-- A path of the controller, and two of other hosts. -/
theorem resourceUrl_authority_machine :
    (∃ url, resourceUrl Settings.addressSettings.baseUrl "/MAAS/api/2.0/machines/4y3ha3/" none = .ok url ∧
      url.host = some (.ipv4 167772162)) ∧
    resourceUrl otherUrl "//10.0.0.4/MAAS/" none =
      resourceUrl Settings.addressSettings.baseUrl "//10.0.0.4/MAAS/" none ∧
    resourceUrl Settings.addressSettings.baseUrl otherUrl.text none = .ok otherUrl := by
  have hbase : Settings.addressSettings.baseUrl.IsWeb := ⟨.inl rfl, _, rfl⟩
  obtain ⟨hstays, -⟩ := resourceUrl_authority hbase "/MAAS/api/2.0/machines/4y3ha3/" none
  obtain ⟨-, hleaves, -⟩ := resourceUrl_authority hbase "//10.0.0.4/MAAS/" none
  obtain ⟨-, -, hurl⟩ := resourceUrl_authority hbase otherUrl.text none
  obtain ⟨segs, query, fragment, hkept⟩ := hstays (by decide)
  exact ⟨⟨_, hkept, rfl⟩, hleaves (by decide) _ settled_otherUrl.isWeb rfl,
    hurl _ settled_otherUrl (by rintro _ ⟨⟩; trivial) rfl⟩

/-- A path that leads to another host. -/
theorem resourceUrl_leaves : ∃ url,
    resourceUrl Settings.addressSettings.baseUrl "http://10.0.0.3/MAAS/" none = .ok url ∧
      url.host ≠ Settings.addressSettings.baseUrl.host ∧ url.port ≠ Settings.addressSettings.baseUrl.port := by
  have htext : otherUrl.text = "http://10.0.0.3/MAAS/" := by decide
  refine ⟨otherUrl, ?_, by decide, by decide⟩
  rw [← htext]
  exact resourceUrl_text settled_otherUrl (by rintro _ ⟨⟩; trivial) _ none

end BareMetal.Client
