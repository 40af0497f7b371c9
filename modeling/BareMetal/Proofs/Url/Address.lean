import BareMetal.Proofs.Text.Numeral
import BareMetal.Proofs.Text.Utf8
import BareMetal.Proofs.Url.Naming
import BareMetal.Url.Host

/-!
# Hosts are read as they are written

`parseHost_text`. An address is in its own canonical text; a name has to have codes
that can be read.
-/

namespace BareMetal.Url

/-! ## IPv4 -/

theorem ipv4Number?_toDigits (n : Nat) : ipv4Number? (Nat.toDigits 10 n) = some n := by
  have hvalue := Text.numeral_toDigits (b := 10) (by decide) (by decide) n
  have hdigits := Text.isDigit_toDigits n
  have hlead := Text.toDigits_ne_zero_cons n
  have hne : Nat.toDigits 10 n ≠ [] := Nat.toDigits_ne_nil
  generalize Nat.toDigits 10 n = s at hvalue hdigits hlead hne ⊢
  unfold ipv4Number?
  split
  rename_i radix ds hmatch
  split at hmatch
  · exact absurd rfl (hlead _ _)
  · exact absurd rfl (hlead _ _)
  · exact absurd rfl (hlead _ _)
  · cases hmatch
    have hall : s.all Char.isDigit = true := List.all_eq_true.mpr hdigits
    simp [hne, hall, hvalue]

/-- The bytes of an address, in decimal. -/
def ipv4Parts (n : Nat) : List (List Char) :=
  [n / 16777216, n / 65536 % 256, n / 256 % 256, n % 256].map (Nat.toDigits 10)

theorem isDigit_ipv4Parts {n : Nat} : ∀ part ∈ ipv4Parts n, part ≠ [] ∧ ∀ c ∈ part, c.isDigit = true := by
  rw [ipv4Parts, List.forall_mem_map]
  exact fun k _ => ⟨Nat.toDigits_ne_nil, Text.isDigit_toDigits k⟩

theorem toList_ipv4Text (n : Nat) : (ipv4Text n).toList = ['.'].intercalate (ipv4Parts n) := by
  rw [ipv4Text, String.toList_intercalate, List.map_map, ipv4Parts]
  exact congrArg _ (List.map_congr_left fun k _ => Nat.toList_repr)

theorem dots_ipv4Text (n : Nat) : dots (ipv4Text n).toList = ipv4Parts n := by
  rw [toList_ipv4Text]
  apply Text.pieces_intercalate (by simp [ipv4Parts])
  intro part hp c hc
  rintro rfl
  exact absurd ((isDigit_ipv4Parts part hp).2 _ hc) (by decide)

theorem toList_ipv4Text_ne_nil (n : Nat) : (ipv4Text n).toList ≠ [] := by
  intro hnil
  have hlength := congrArg List.length (dots_ipv4Text n)
  rw [hnil] at hlength
  simp [dots, Text.pieces, ipv4Parts] at hlength

theorem of_mem_ipv4Text {n : Nat} {c : Char} (hc : c ∈ (ipv4Text n).toList) : c = '.' ∨ c.isDigit = true := by
  rw [toList_ipv4Text] at hc
  rcases Text.mem_intercalate hc with h | ⟨part, hp, h⟩
  · exact .inl h
  · exact .inr ((isDigit_ipv4Parts part hp).2 c h)

theorem plain_digit {c : Char} (h : c = '.' ∨ c.isDigit = true) :
    c.toNat < 0x80 ∧ c.toLower = c ∧ Name.isForbidden c = false := by
  have hascii : c.toNat < 0x80 := by
    rcases h with rfl | h
    · decide
    · exact Text.lt_of_isDigit h
  refine ⟨hascii, Text.of_ascii (p := fun c => c = '.' ∨ c.isDigit = true → c.toLower = c ∧
    Name.isForbidden c = false) ?_ hascii h⟩
  decide

theorem isPlainName_ipv4Text (n : Nat) : IsPlainName (ipv4Text n).toList := by
  refine ⟨fun c hc => (plain_digit (of_mem_ipv4Text hc)).1, fun c hc => (plain_digit (of_mem_ipv4Text hc)).2.1, ?_, ?_⟩
  · intro label hlabel code hcode
    rw [dots_ipv4Text] at hlabel
    have hx := (isDigit_ipv4Parts label hlabel).2 'x' (by simp [hcode])
    cases hx
  · rw [List.any_eq_false]
    intro c hc
    simp [(plain_digit (of_mem_ipv4Text hc)).2.2]

theorem getLast?_ipv4Parts (n : Nat) : (ipv4Parts n).getLast? = some (Nat.toDigits 10 (n % 256)) := rfl

theorem nameParts_ipv4Text (n : Nat) : nameParts (ipv4Text n).toList = ipv4Parts n := by
  have hne : Nat.toDigits 10 (n % 256) ≠ [] := Nat.toDigits_ne_nil
  unfold nameParts
  rw [dots_ipv4Text, getLast?_ipv4Parts]
  split
  · rename_i h
    exact absurd (Option.some.inj h) hne
  · rfl

theorem endsInNumber_ipv4Text (n : Nat) : endsInNumber (ipv4Text n).toList = true := by
  rw [endsInNumber, nameParts_ipv4Text, getLast?_ipv4Parts]
  simp [ipv4Number?_toDigits]

theorem ipv4?_ipv4Text {n : Nat} (hn : n < 4294967296) : ipv4? (ipv4Text n).toList = some n := by
  have hnumbers : (nameParts (ipv4Text n).toList).mapM ipv4Number? =
      some [n / 16777216, n / 65536 % 256, n / 256 % 256, n % 256] := by
    rw [nameParts_ipv4Text, ipv4Parts, Name.mapM_eq_some, List.forall₂_map_left_iff, List.forall₂_same]
    exact fun k _ => ipv4Number?_toDigits k
  rw [ipv4?, hnumbers]
  simp
  omega

theorem bytes_lt {front : List Nat} (h : front.all (· ≤ 255) = true) :
    front.foldl (fun n b => n * 256 + b) 0 < 256 ^ front.length := by
  induction front using List.reverseRecOn with
  | nil => simp
  | append_singleton front b ih =>
    simp only [List.all_append, List.all_cons, List.all_nil, Bool.and_true, Bool.and_eq_true,
      decide_eq_true_eq] at h
    have hrest := ih h.1
    simp only [List.foldl_append, List.foldl_cons, List.foldl_nil, List.length_append, List.length_singleton,
      Nat.pow_succ]
    omega

/-- An address has four bytes. -/
theorem lt_of_ipv4? {s : List Char} {n : Nat} (h : ipv4? s = some n) : n < 4294967296 := by
  simp only [ipv4?, Option.bind_eq_bind, Option.bind_eq_some_iff] at h
  obtain ⟨numbers, -, last, hlast, h⟩ := h
  split at h
  · rename_i hbounds
    obtain ⟨hlength, hfront, hleft⟩ := hbounds
    have hfold := bytes_lt hfront
    have hcount : numbers.dropLast.length ≤ 4 := by
      rw [List.length_dropLast]
      omega
    rw [← Option.some.inj h]
    generalize numbers.dropLast.foldl (fun n b => n * 256 + b) 0 = m at hfold ⊢
    generalize numbers.dropLast.length = k at hfold hcount hleft ⊢
    have hall : 256 ^ k * 256 ^ (4 - k) = 4294967296 := by
      rw [← Nat.pow_add, Nat.add_sub_cancel' hcount]
    calc m * 256 ^ (4 - k) + last
        < m * 256 ^ (4 - k) + 256 ^ (4 - k) := Nat.add_lt_add_left hleft _
      _ = (m + 1) * 256 ^ (4 - k) := by rw [Nat.add_mul, Nat.one_mul]
      _ ≤ 256 ^ k * 256 ^ (4 - k) := Nat.mul_le_mul_right _ hfold
      _ = 4294967296 := hall
  · cases h

/-! ## IPv6 -/

/-- Groups in hexadecimal with colons between them. -/
def groupsText (gs : List Nat) : List Char := [':'].intercalate (gs.map (Nat.toDigits 16))

theorem of_mem_groupText {g : Nat} {c : Char} (hc : c ∈ Nat.toDigits 16 g) : Text.isHexDigit c = true ∧ c ≠ ':' := by
  obtain ⟨d, hd, rfl⟩ := Text.mem_toDigits (by decide) hc
  have hall : ∀ d < 16, Text.isHexDigit (Nat.digitChar d) = true ∧ Nat.digitChar d ≠ ':' := by decide
  exact hall d hd

theorem group?_toDigits {g : Nat} (hg : g < 65536) : group? (Nat.toDigits 16 g) = some g := by
  have hne : Nat.toDigits 16 g ≠ [] := Nat.toDigits_ne_nil
  have hlength : (Nat.toDigits 16 g).length ≤ 4 := (Nat.length_toDigits_le_iff (by decide) (by decide)).mpr hg
  have hdigits : (Nat.toDigits 16 g).all Text.isHexDigit = true :=
    List.all_eq_true.mpr fun c hc => (of_mem_groupText hc).1
  rw [group?, if_pos ⟨by simp [hne], hlength, hdigits⟩, Text.numeral_toDigits (by decide) (by decide)]

section
variable {gs : List Nat}

theorem groups?_toDigits (h : ∀ g ∈ gs, g < 65536) : groups? (gs.map (Nat.toDigits 16)) = some gs := by
  induction gs with
  | nil => rfl
  | cons g gs ih =>
    rw [List.forall_mem_cons] at h
    cases gs with
    | nil =>
      have hpoint : (Nat.toDigits 16 g).contains '.' = false := by
        rw [Bool.eq_false_iff]
        intro hm
        exact absurd (of_mem_groupText (List.contains_iff_mem.mp hm)).1 (by decide)
      rw [List.map_cons, List.map_nil, groups?, hpoint]
      simp [group?_toDigits h.1]
    | cons g' gs =>
      have hrest := ih h.2
      rw [List.map_cons] at hrest ⊢
      rw [List.map_cons, groups?, hrest, group?_toDigits h.1]
      · rfl
      · simp

theorem colonGroups?_groupsText (h : ∀ g ∈ gs, g < 65536) : colonGroups? (groupsText gs) = some gs := by
  cases gs with
  | nil => rfl
  | cons g gs =>
    have hne : Nat.toDigits 16 g ≠ [] := Nat.toDigits_ne_nil
    have hempty : (groupsText (g :: gs)).isEmpty = false := by
      cases gs <;> simp [groupsText, List.intercalate_cons_cons, hne]
    rw [colonGroups?, hempty, groupsText, Text.pieces_intercalate (by simp), groups?_toDigits h]
    · rfl
    · intro piece hp c hc
      obtain ⟨k, -, rfl⟩ := List.mem_map.mp hp
      exact (of_mem_groupText hc).2

end

theorem lt_of_group? {s : List Char} {g : Nat} (h : group? s = some g) : g < 65536 := by
  unfold group? at h
  split at h
  · rename_i hs
    obtain ⟨-, hlength, hdigits⟩ := hs
    rw [← Option.some.inj h]
    have hvalue : ∀ c ∈ s, ∃ d < 16, Text.hexValue? c = some d := by
      intro c hc
      have hdigit := List.all_eq_true.mp hdigits c hc
      obtain ⟨d, hd⟩ := Option.isSome_iff_exists.mp hdigit
      exact ⟨d, (Text.of_hexValue? hd).1, hd⟩
    calc Text.numeral 16 s < 16 ^ s.length := Text.numeral_lt hvalue
      _ ≤ 16 ^ 4 := Nat.pow_le_pow_right (by decide) hlength
  · cases h

theorem le_of_decimalByte? {s : List Char} {b : Nat} (h : decimalByte? s = some b) : b ≤ 255 := by
  unfold decimalByte? at h
  split at h
  · rename_i hs
    rw [← Option.some.inj h]
    exact hs.2.2.2.2
  · cases h

theorem of_groups? : ∀ {ps : List (List Char)} {gs : List Nat}, groups? ps = some gs → ∀ g ∈ gs, g < 65536
  | [], gs, h => by
    cases h
    nofun
  | [last], gs, h => by
    rw [groups?] at h
    split at h
    · split at h
      · rename_i a b c d hbytes
        have hle : ∀ x ∈ [a, b, c, d], x ≤ 255 := by
          rw [Name.mapM_eq_some] at hbytes
          intro x hx
          obtain ⟨i, hi, rfl⟩ := List.getElem_of_mem hx
          exact le_of_decimalByte? (hbytes.get (hbytes.length_eq ▸ hi) hi)
        simp only [List.forall_mem_cons] at hle
        cases h
        simp only [List.forall_mem_cons]
        exact ⟨by omega, by omega, nofun⟩
      · cases h
    · obtain ⟨g, hg, rfl⟩ := Option.map_eq_some_iff.mp h
      exact List.forall_mem_singleton.mpr (lt_of_group? hg)
  | g :: g' :: rest, gs, h => by
    rw [groups?, Option.bind_eq_bind, Option.bind_eq_some_iff] at h
    · obtain ⟨x, hx, h⟩ := h
      rw [Option.bind_eq_bind, Option.bind_eq_some_iff] at h
      obtain ⟨xs, hxs, h⟩ := h
      cases h
      exact List.forall_mem_cons.mpr ⟨lt_of_group? hx, of_groups? hxs⟩
    · simp

theorem of_colonGroups? {s : List Char} {gs : List Nat} (h : colonGroups? s = some gs) : ∀ g ∈ gs, g < 65536 := by
  unfold colonGroups? at h
  split at h
  · cases h
    nofun
  · exact of_groups? h

/-! ### The gap -/

theorem splitGap_cons {c : Char} {t : List Char} (h : ¬ (c = ':' ∧ t.head? = some ':')) :
    splitGap (c :: t) = (splitGap t).map fun (a, b) => (c :: a, b) := by
  rw [splitGap]
  rintro rest rfl rfl
  exact h ⟨rfl, rfl⟩

theorem splitGap_append {s : List Char} (hs : ∀ c ∈ s, c ≠ ':') (t : List Char) :
    splitGap (s ++ t) = (splitGap t).map fun (a, b) => (s ++ a, b) := by
  induction s with
  | nil => simp
  | cons c s ih =>
    rw [List.forall_mem_cons] at hs
    rw [List.cons_append, splitGap_cons fun h => hs.1 h.1, ih hs.2, Option.map_map]
    rfl

/-- No gap is between groups. -/
theorem splitGap_groupsText (t : List Char) : ∀ gs : List Nat,
    splitGap (groupsText gs ++ t) = (splitGap t).map fun (a, b) => (groupsText gs ++ a, b)
  | [] => by simp [groupsText]
  | [g] => by
    rw [groupsText, List.map_singleton, List.intercalate_singleton]
    exact splitGap_append (fun c hc => (of_mem_groupText hc).2) t
  | g :: g' :: gs => by
    have htext : groupsText (g :: g' :: gs) = Nat.toDigits 16 g ++ ':' :: groupsText (g' :: gs) := by
      simp [groupsText, List.intercalate_cons_cons]
    have hhead : (groupsText (g' :: gs) ++ t).head? ≠ some ':' := by
      obtain ⟨c, r, hc⟩ := List.exists_cons_of_ne_nil (Nat.toDigits_ne_nil (n := g') (b := 16))
      have hne : c ≠ ':' := (of_mem_groupText (g := g') (by simp [hc])).2
      cases gs <;> simpa [groupsText, List.intercalate_cons_cons, hc] using hne
    rw [htext, List.append_assoc, List.cons_append, splitGap_append (fun c hc => (of_mem_groupText hc).2),
      splitGap_cons fun h => hhead h.2, splitGap_groupsText t (g' :: gs)]
    simp [Option.map_map, Function.comp_def]

theorem eq_zeroRun_append (gs : List Nat) : gs = List.replicate (zeroRun gs) 0 ++ gs.drop (zeroRun gs) := by
  induction gs with
  | nil => rfl
  | cons g gs ih =>
    by_cases hg : g = 0
    · have hrun : zeroRun (g :: gs) = zeroRun gs + 1 := by simp [zeroRun, hg]
      rw [hrun, List.replicate_succ, List.cons_append, List.drop_succ_cons, ← ih, hg]
    · have hrun : zeroRun (g :: gs) = 0 := by simp [zeroRun, hg]
      rw [hrun]
      rfl

/-- What the gap stands for are zeros. -/
theorem longestZeroRun_split (gs : List Nat) : ∀ k : Nat, ∃ front back,
    gs = front ++ (List.replicate (longestZeroRun k gs).2 0 ++ back) ∧
      (longestZeroRun k gs).1 = k + front.length := by
  induction gs with
  | nil => exact fun k => ⟨[], [], rfl, rfl⟩
  | cons g gs ih =>
    intro k
    rw [longestZeroRun]
    split
    · exact ⟨[], _, eq_zeroRun_append (g :: gs), rfl⟩
    · obtain ⟨front, back, hsplit, hplace⟩ := ih (k + 1)
      refine ⟨g :: front, back, ?_, ?_⟩
      · rw [List.cons_append, ← hsplit]
      · rw [hplace, List.length_cons]
        omega

theorem toList_ipv6Text (gs : List Nat) : (ipv6Text gs).toList =
    if (longestZeroRun 0 gs).2 < 2 then groupsText gs
    else groupsText (gs.take (longestZeroRun 0 gs).1) ++
      ':' :: ':' :: groupsText (gs.drop ((longestZeroRun 0 gs).1 + (longestZeroRun 0 gs).2)) := by
  have htext : ∀ gs : List Nat, (":".intercalate (gs.map fun g => String.ofList (Nat.toDigits 16 g))).toList =
      groupsText gs := by
    intro gs
    rw [String.toList_intercalate, List.map_map, groupsText]
    exact congrArg _ (List.map_congr_left fun g _ => String.toList_ofList)
  unfold ipv6Text
  dsimp only
  split
  · exact htext gs
  · rw [String.toList_append, String.toList_append, htext, htext, List.append_assoc]
    rfl

theorem of_mem_groupsText {gs : List Nat} {c : Char} (hc : c ∈ groupsText gs) :
    Text.isHexDigit c = true ∨ c = ':' := by
  rcases Text.mem_intercalate hc with h | ⟨piece, hp, h⟩
  · exact .inr h
  · obtain ⟨g, -, rfl⟩ := List.mem_map.mp hp
    exact .inl (of_mem_groupText h).1

theorem not_point_groupsText (gs : List Nat) : '.' ∉ groupsText gs :=
  fun hm => absurd (of_mem_groupsText hm) (by decide)

theorem of_mem_ipv6Text {gs : List Nat} {c : Char} (hc : c ∈ (ipv6Text gs).toList) :
    Text.isHexDigit c = true ∨ c = ':' := by
  rw [toList_ipv6Text] at hc
  split at hc
  · exact of_mem_groupsText hc
  · simp only [List.mem_append, List.mem_cons] at hc
    rcases hc with hc | rfl | rfl | hc
    · exact of_mem_groupsText hc
    · exact .inr rfl
    · exact .inr rfl
    · exact of_mem_groupsText hc

theorem ipv6?_ipv6Text {gs : List Nat} (hlength : gs.length = 8) (h : ∀ g ∈ gs, g < 65536) :
    ipv6? (ipv6Text gs).toList = some gs := by
  rw [toList_ipv6Text]
  split
  · have hgap := splitGap_groupsText [] gs
    rw [List.append_nil] at hgap
    rw [ipv6?, hgap]
    simp [splitGap, colonGroups?_groupsText h, hlength]
  · rename_i hrun
    obtain ⟨front, back, hsplit, hplace⟩ := longestZeroRun_split gs 0
    rw [Nat.zero_add] at hplace
    rw [hplace]
    generalize (longestZeroRun 0 gs).2 = n at hsplit hrun ⊢
    subst hsplit
    rw [List.length_append, List.length_append, List.length_replicate] at hlength
    rw [List.forall_mem_append, List.forall_mem_append] at h
    have hdrop : (front ++ (List.replicate n 0 ++ back)).drop (front.length + n) = back := by
      rw [← List.append_assoc]
      exact List.drop_left' (by simp)
    have hgap := splitGap_groupsText (':' :: ':' :: groupsText back) front
    rw [List.take_left, hdrop, ipv6?, hgap]
    have hknown : 8 - (front.length + back.length) = n := by omega
    simp [splitGap, not_point_groupsText front, colonGroups?_groupsText h.1, colonGroups?_groupsText h.2.2, hknown]
    omega

/-- Addresses that are read have eight groups of two bytes. -/
theorem of_ipv6? {s : List Char} {gs : List Nat} (h : ipv6? s = some gs) : gs.length = 8 ∧ ∀ g ∈ gs, g < 65536 := by
  unfold ipv6? at h
  split at h
  · simp only [Option.bind_eq_bind, Option.bind_eq_some_iff] at h
    obtain ⟨found, hfound, h⟩ := h
    split at h
    · rename_i hlength
      cases h
      exact ⟨hlength, of_colonGroups? hfound⟩
    · cases h
  · rename_i a b _
    split at h
    · cases h
    · simp only [Option.bind_eq_bind, Option.bind_eq_some_iff] at h
      obtain ⟨front, hfront, back, hback, h⟩ := h
      split at h
      · rename_i hknown
        cases h
        refine ⟨by simp; omega, ?_⟩
        intro g hg
        rcases List.mem_append.mp hg with hg | hg
        · rcases List.mem_append.mp hg with hg | hg
          · exact of_colonGroups? hfront g hg
          · rw [List.eq_of_mem_replicate hg]
            decide
        · exact of_colonGroups? hback g hg
      · cases h

/-! ## Hosts -/

/-- The hosts that a URL of the web can have. -/
def Host.IsRead : Host → Prop
  | .domain name => name.toList ≠ [] ∧ (∃ s, asciiName? s = some name.toList) ∧ endsInNumber name.toList = false
  | .ipv4 n => n < 4294967296
  | .ipv6 gs => gs.length = 8 ∧ ∀ g ∈ gs, g < 65536

/-- The codes in the name of a host can be read. -/
def Host.IsReadable : Host → Prop
  | .domain name => ∀ label ∈ dots name.toList, Name.IsReadable label
  | _ => True

theorem isRead_of_parseHost {s : List Char} {h : Host} (hs : parseHost s = .ok h) : h.IsRead := by
  unfold parseHost at hs
  split at hs
  · split at hs
    · split at hs
      · rename_i gs hgs
        cases hs
        exact of_ipv6? hgs
      · cases hs
    · cases hs
  · split at hs
    · cases hs
    · cases hs
    · rename_i name hne hname
      obtain ⟨t, -, hname⟩ := Option.bind_eq_some_iff.mp hname
      split at hs
      · split at hs
        · rename_i n hn
          cases hs
          exact lt_of_ipv4? hn
        · cases hs
      · rename_i hnumber
        cases hs
        rw [Host.IsRead, String.toList_ofList]
        exact ⟨hne, ⟨t, hname⟩, by simpa using hnumber⟩

theorem unescape_eq_self {bytes : List UInt8} (h : ∀ b ∈ bytes, b.toNat ≠ 0x25) : unescape 0 bytes = bytes := by
  induction bytes with
  | nil => rfl
  | cons b bytes ih =>
    rw [List.forall_mem_cons] at h
    rw [unescape, if_neg h.1, ih h.2]

theorem percent_not_mem_encodeChar {c : Char} (h : c ≠ '%') : ∀ b ∈ String.utf8EncodeChar c, b.toNat ≠ 0x25 := by
  have hcode : c.val.toNat ≠ 0x25 := fun heq => h (Char.toNat_inj.mp heq)
  unfold String.utf8EncodeChar
  dsimp only
  generalize c.val.toNat = v at hcode
  split_ifs <;> simp <;> omega

/-- A text without escapes stands for itself. -/
theorem percentDecode_encode {s : List Char} (h : '%' ∉ s) : percentDecode (Utf8.encode s) = Utf8.encode s := by
  apply unescape_eq_self
  intro b hb
  obtain ⟨c, hc, hb⟩ := List.mem_flatMap.mp hb
  exact percent_not_mem_encodeChar (fun heq => h (heq ▸ hc)) b hb

section
variable {s : List Char} (hpercent : '%' ∉ s) (hbracket : '[' ∉ s)
include hpercent hbracket

theorem parseHost_of_invalid (hname : asciiName? s = none) : parseHost s = .error .invalidDomain := by
  unfold parseHost
  split
  · simp at hbracket
  · rw [percentDecode_encode hpercent, Utf8.decode?_encode, Option.bind_some, hname]

theorem parseHost_of_name {name : List Char} (hname : asciiName? s = some name) (hne : name ≠ []) :
    parseHost s =
      if endsInNumber name then
        match ipv4? name with
        | some n => .ok (.ipv4 n)
        | none => .error .invalidIpv4
      else .ok (.domain (String.ofList name)) := by
  unfold parseHost
  split
  · simp at hbracket
  · rw [percentDecode_encode hpercent, Utf8.decode?_encode, Option.bind_some, hname]
    cases name with
    | nil => exact absurd rfl hne
    | cons c name => rfl

end

theorem not_mem_of_allowed {s : List Char} (h : s.any Name.isForbidden = false) {c : Char}
    (hc : Name.isForbidden c = true) : c ∉ s := by
  intro hm
  rw [List.any_eq_false] at h
  exact h c hm hc

/-- **A host that was read is read from its text.** -/
theorem parseHost_text {h : Host} (hr : h.IsRead) (hcode : h.IsReadable) : parseHost h.text.toList = .ok h := by
  cases h with
  | domain name =>
    obtain ⟨hne, ⟨s, hs⟩, hnumber⟩ := hr
    obtain ⟨-, -, -, hallowed⟩ := asciiName?_eq_some.mp hs
    rw [Host.text, parseHost_of_name (not_mem_of_allowed hallowed (by decide))
      (not_mem_of_allowed hallowed (by decide)) (asciiName?_asciiName? hs hcode) hne, hnumber, String.ofList_toList]
    rfl
  | ipv4 n =>
    have hplain := isPlainName_ipv4Text n
    rw [Host.text, parseHost_of_name (not_mem_of_allowed hplain.allowed (by decide))
      (not_mem_of_allowed hplain.allowed (by decide)) (asciiName?_plain hplain) (toList_ipv4Text_ne_nil n),
      endsInNumber_ipv4Text, ipv4?_ipv4Text hr]
    rfl
  | ipv6 gs =>
    have htext : (Host.ipv6 gs).text.toList = '[' :: ((ipv6Text gs).toList ++ [']']) := by
      simp [Host.text]
    rw [htext, parseHost, List.getLast?_concat, if_pos rfl, List.dropLast_concat, ipv6?_ipv6Text hr.1 hr.2]

end BareMetal.Url
