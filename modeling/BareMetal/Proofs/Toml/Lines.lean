import BareMetal.Proofs.Toml.Scalar

/-!
# Printed documents read back

A line that was printed is read as what it says: `Reads` is that of a text and a
step of the reader, and it is closed under following one another. Main statement:
`parse?_print`, a printed document is read as its sections say, or refused as they
are.
-/

namespace BareMetal.Toml

/-! ## What sections say -/

namespace Progress

/-- The table of a header is opened; no header stays in the table there is. -/
def open? (p : Progress) (path : List String) : Option Progress :=
  match path.getLast? with
  | none => some p
  | some key => (p.items.openTable path.dropLast key).map fun items => ⟨items, path⟩

theorem open?_concat (p : Progress) (path : List String) (key : String) : p.open? (path ++ [key]) =
    (p.items.openTable path key).map fun items => ⟨items, path ++ [key]⟩ := by
  simp [open?]

def entry? (p : Progress) (e : String × Plain) : Option Progress :=
  (Items.within false (fun _ inner => Items.addKey [] e.1 e.2.value inner) p.current .header p.items).map
    fun items => ⟨items, p.current⟩

def section? (p : Progress) (s : Section) : Option Progress :=
  (p.open? s.header).bind fun p => s.entries.foldlM entry? p

end Progress

/-- Paths are as long as the reader allows, and counts are integers of 64 bits. -/
def Section.InRange (s : Section) : Prop := s.header.length ≤ partLimit ∧ ∀ e ∈ s.entries, e.2.InRange

/-! ## Keys -/

/-- A printed key begins with a quote or a character of a bare key. -/
theorem quoteKey_head (s : List Char) :
    ∃ c r, quoteKey s = c :: r ∧ (isBareKeyChar c = true ∨ c = '"' ∨ c = '\'') := by
  unfold quoteKey
  dsimp only
  split
  · rename_i h
    obtain ⟨c, r, rfl⟩ := List.exists_cons_of_ne_nil (l := s) (by simpa using h.1)
    have hall := List.all_eq_true.mp h.2
    exact ⟨c, r, rfl, .inl (hall c List.mem_cons_self)⟩
  · split
    · exact ⟨_, _, rfl, .inr (.inl rfl)⟩
    · split
      · exact ⟨_, _, rfl, .inr (.inr rfl)⟩
      · exact ⟨_, _, rfl, .inr (.inl rfl)⟩

theorem quoteKey_head_ne {s r : List Char} {c : Char} (h : quoteKey s = c :: r) {d : Char}
    (hd : isBareKeyChar d = false) (hdouble : d ≠ '"') (hsingle : d ≠ '\'') : c ≠ d := by
  obtain ⟨c', r', h', hc⟩ := quoteKey_head s
  rw [h] at h'
  cases h'
  rintro rfl
  rcases hc with hc | rfl | rfl
  · rw [hc] at hd
    cases hd
  · exact hdouble rfl
  · exact hsingle rfl

theorem skipSpaces_quoteKey (s rest : List Char) : skipSpaces (quoteKey s ++ rest) = quoteKey s ++ rest := by
  obtain ⟨c, r, h, -⟩ := quoteKey_head s
  have hspace : c ≠ ' ' := quoteKey_head_ne h (by decide) (by decide) (by decide)
  have htab : c ≠ '\t' := quoteKey_head_ne h (by decide) (by decide) (by decide)
  rw [h, List.cons_append, skipSpaces, List.dropWhile_cons, if_neg]
  simp [hspace, htab]

theorem takeParts?_key (parts : Nat) (key : String) {c : Char} {rest more : List Char}
    (hbare : ∀ c ∈ rest.head?, isBareKeyChar c = false) (hrest : skipSpaces rest = c :: more) (hc : c ≠ '.') :
    takeParts? (parts + 1) (quoteKey key.toList ++ rest) = some ([], key, c :: more) := by
  rw [takeParts?, skipSpaces_quoteKey, takeSimpleKey?_quoteKey key.toList hbare, String.ofList_toList]
  simp [hrest, hc]

theorem takeParts?_path (key : String) (rest : List Char) : ∀ {path : List String} {parts : Nat},
    path.length < parts → takeParts? parts
      (['.'].intercalate ((path ++ [key]).map fun k => quoteKey k.toList) ++ ']' :: rest) =
        some (path, key, ']' :: rest)
  | [], parts + 1, _ => by
    rw [List.nil_append, List.map_singleton, List.intercalate_singleton]
    exact takeParts?_key parts key (fun c hc => by cases hc; decide) rfl (by decide)
  | k :: path, parts + 1, h => by
    have hlt : path.length < parts := Nat.lt_of_succ_lt_succ h
    have ih := takeParts?_path key rest hlt
    have hne : (path ++ [key]).map (fun k => quoteKey k.toList) ≠ [] := by simp
    rw [List.cons_append, List.map_cons, List.intercalate_cons_of_ne_nil hne, List.append_assoc,
      List.append_assoc, takeParts?, skipSpaces_quoteKey,
      takeSimpleKey?_quoteKey k.toList (fun c hc => by cases hc; decide), String.ofList_toList]
    simp only [Option.bind_eq_bind, Option.bind_some]
    have hpoint (r : List Char) : skipSpaces (['.'] ++ r) = '.' :: r := rfl
    rw [hpoint]
    simp only [ih, Option.bind_some]
    rfl

/-! ## Lines -/

theorem text_head (p : Plain) : ∃ c r, p.text = c :: r ∧ c ≠ ' ' ∧ c ≠ '\t' := by
  cases p with
  | string s =>
    obtain ⟨q, r, h, rfl | rfl⟩ := quote_head s.toList
    · exact ⟨_, _, h, by decide, by decide⟩
    · exact ⟨_, _, h, by decide, by decide⟩
  | count n =>
    obtain ⟨c, r, h⟩ := List.exists_cons_of_ne_nil (Nat.toDigits_ne_nil (n := n) (b := 10))
    have hc : c.isDigit = true := Text.isDigit_toDigits n c (by simp [h])
    refine ⟨c, r, h, ?_, ?_⟩
    · rintro rfl
      cases hc
    · rintro rfl
      cases hc
  | boolean b => cases b <;> exact ⟨_, _, rfl, by decide, by decide⟩

theorem skipSpaces_text (p : Plain) (rest : List Char) :
    skipSpaces (' ' :: (p.text ++ rest)) = p.text ++ rest := by
  obtain ⟨c, r, h, hspace, htab⟩ := text_head p
  rw [h]
  simp [skipSpaces, hspace, htab]

theorem takeEntry?_line (p : Progress) {e : String × Plain} (he : e.2.InRange) (rest : List Char) :
    takeEntry? p (entryLine e ++ rest) = (p.entry? e).map fun p => (p, '\n' :: rest) := by
  have hline : entryLine e ++ rest =
      quoteKey e.1.toList ++ (' ' :: '=' :: ' ' :: (e.2.text ++ '\n' :: rest)) := by
    simp [entryLine]
  have hkey : takeKey? (entryLine e ++ rest) = some ([], e.1, '=' :: ' ' :: (e.2.text ++ '\n' :: rest)) := by
    rw [hline]
    exact takeParts?_key 78 e.1 (fun c hc => by cases hc; decide) rfl (by decide)
  unfold takeEntry?
  rw [hkey]
  simp only [Option.bind_eq_bind, Option.bind_some, skipSpaces_text, takeValue?_text he]
  unfold Progress.entry?
  cases Items.within false (fun _ inner => Items.addKey [] e.1 e.2.value inner) p.current .header p.items with
  | none => rfl
  | some items => rfl

theorem path_head (path : List String) (key : String) :
    ∃ c r, ['.'].intercalate ((path ++ [key]).map fun k => quoteKey k.toList) = c :: r ∧ c ≠ '[' := by
  obtain ⟨k, ks, hk⟩ := List.exists_cons_of_ne_nil (l := path ++ [key]) (by simp)
  obtain ⟨c, r, hq, -⟩ := quoteKey_head k.toList
  have hc : c ≠ '[' := quoteKey_head_ne hq (by decide) (by decide) (by decide)
  rw [hk, List.map_cons]
  by_cases hks : ks.map (fun k => quoteKey k.toList) = []
  · rw [hks, List.intercalate_singleton]
    exact ⟨c, r, hq, hc⟩
  · rw [List.intercalate_cons_of_ne_nil hks, hq]
    exact ⟨c, _, rfl, hc⟩

theorem takeHeader?_line (p : Progress) {path : List String} (h : path.length < partLimit) (key : String)
    (rest : List Char) : takeHeader? p
      (['.'].intercalate ((path ++ [key]).map fun k => quoteKey k.toList) ++ ']' :: rest) =
        (p.open? (path ++ [key])).map fun p => (p, rest) := by
  have hkey := takeParts?_path key rest h
  obtain ⟨c, r, heq, hc⟩ := path_head path key
  rw [heq, List.cons_append] at hkey ⊢
  unfold takeHeader? takeKey?
  split
  rename_i element s hs
  split at hs
  · rename_i hbracket
    cases hbracket
    exact absurd rfl hc
  · cases hs
    rw [hkey, Progress.open?_concat]
    simp only [Option.bind_eq_bind, Option.bind_some]
    cases p.items.openTable path key <;> rfl

/-! ## Reading lines -/

/-- What the reader does at a text, whatever follows it. -/
def Reads (text : List Char) (step : Progress → Option Progress) : Prop :=
  ∀ (p : Progress) (rest : List Char) (fuel : Nat), (text ++ rest).length < fuel →
    ∃ fuel', rest.length < fuel' ∧
      readLines? fuel p (text ++ rest) = (step p).bind fun p => readLines? fuel' p rest

theorem Reads.nil : Reads [] some := fun _ _ fuel h => ⟨fuel, h, rfl⟩

theorem Reads.append {text more : List Char} {f g : Progress → Option Progress} (hf : Reads text f)
    (hg : Reads more g) : Reads (text ++ more) fun p => (f p).bind g := by
  intro p rest fuel h
  rw [List.append_assoc] at h ⊢
  obtain ⟨fuel₁, h₁, e₁⟩ := hf p (more ++ rest) fuel h
  rw [e₁]
  dsimp only
  cases f p with
  | none => exact ⟨rest.length + 1, Nat.lt_succ_self _, rfl⟩
  | some q =>
    obtain ⟨fuel₂, h₂, e₂⟩ := hg q rest fuel₁ h₁
    exact ⟨fuel₂, h₂, e₂⟩

theorem reads_blank : Reads ['\n'] some := by
  intro p rest fuel h
  obtain ⟨fuel, rfl⟩ : ∃ n, fuel = n + 1 := ⟨fuel - 1, by omega⟩
  exact ⟨fuel, Nat.lt_of_succ_lt_succ h, rfl⟩

theorem reads_entryLine {e : String × Plain} (he : e.2.InRange) :
    Reads (entryLine e) fun p => p.entry? e := by
  intro p rest fuel h
  obtain ⟨fuel, rfl⟩ : ∃ n, fuel = n + 1 := ⟨fuel - 1, by omega⟩
  have hlen : 0 < (entryLine e).length := by
    simp only [entryLine, List.length_append, List.length_cons]
    omega
  rw [List.length_append] at h
  refine ⟨fuel, by omega, ?_⟩
  have hentry := takeEntry?_line p he rest
  obtain ⟨c, r, hq, -⟩ := quoteKey_head e.1.toList
  have hline : entryLine e ++ rest = quoteKey e.1.toList ++ ([' ', '=', ' '] ++ e.2.text ++ ['\n'] ++ rest) := by
    simp [entryLine]
  have hskip : skipSpaces (entryLine e ++ rest) = entryLine e ++ rest := by
    rw [hline, skipSpaces_quoteKey]
  have hbracket : c ≠ '[' := quoteKey_head_ne hq (by decide) (by decide) (by decide)
  have hhash : c ≠ '#' := quoteKey_head_ne hq (by decide) (by decide) (by decide)
  have hnewline : c ≠ '\n' := quoteKey_head_ne hq (by decide) (by decide) (by decide)
  have hreturn : c ≠ '\r' := quoteKey_head_ne hq (by decide) (by decide) (by decide)
  rw [readLines?, hskip]
  rw [hline, hq, List.cons_append] at hentry ⊢
  dsimp only
  rw [if_neg hbracket, if_neg (by simp [hhash, hnewline, hreturn]), hentry]
  cases p.entry? e <;> rfl

theorem reads_headerLine {path : List String} (h : path.length ≤ partLimit) (hne : path ≠ []) :
    Reads (headerLine path) fun p => p.open? path := by
  intro p rest fuel hf
  obtain ⟨fuel, rfl⟩ : ∃ n, fuel = n + 1 := ⟨fuel - 1, by omega⟩
  rw [List.length_append] at hf
  have hlen : 0 < (headerLine path).length := by simp [headerLine]
  refine ⟨fuel, by omega, ?_⟩
  obtain ⟨before, key, rfl⟩ : ∃ before key, path = before ++ [key] :=
    ⟨path.dropLast, path.getLast hne, (List.dropLast_concat_getLast hne).symm⟩
  have hlt : before.length < partLimit := by
    rw [List.length_append] at h
    exact h
  have hheader := takeHeader?_line p hlt key ('\n' :: rest)
  have hline : headerLine (before ++ [key]) ++ rest = '[' ::
      (['.'].intercalate ((before ++ [key]).map fun k => quoteKey k.toList) ++ ']' :: '\n' :: rest) := by
    simp [headerLine]
  have hskip (r : List Char) : skipSpaces ('[' :: r) = '[' :: r := rfl
  rw [readLines?, hline, hskip]
  dsimp only
  rw [if_pos rfl, hheader]
  cases p.open? (before ++ [key]) <;> rfl

theorem reads_entries : ∀ {entries : List (String × Plain)}, (∀ e ∈ entries, e.2.InRange) →
    Reads (entries.flatMap entryLine) fun p => entries.foldlM Progress.entry? p
  | [], _ => .nil
  | e :: rest, h => by
    rw [List.forall_mem_cons] at h
    exact (reads_entryLine h.1).append (reads_entries h.2)

theorem reads_section {s : Section} (h : s.InRange) : Reads s.text fun p => p.section? s := by
  unfold Section.text Progress.section?
  by_cases hne : s.header = []
  · rw [hne]
    exact reads_entries h.2
  · rw [if_neg (by simpa using hne)]
    exact (reads_headerLine h.1 hne).append (reads_entries h.2)

theorem reads_sections : ∀ {sections : List Section}, (∀ s ∈ sections, s.InRange) →
    Reads (['\n'].intercalate ((sections.map Section.text).filter (!·.isEmpty)))
      fun p => sections.foldlM Progress.section? p
  | [], _ => .nil
  | s :: rest, h => by
    rw [List.forall_mem_cons] at h
    have hs := reads_section h.1
    have ih := reads_sections h.2
    rw [List.map_cons]
    by_cases htext : s.text = []
    · -- Without a line it has no blank line before the next section either.
      rw [htext] at hs ⊢
      exact hs.append ih
    · rw [List.filter_cons_of_pos (by simpa using htext)]
      by_cases hlast : (rest.map Section.text).filter (!·.isEmpty) = []
      · rw [hlast] at ih ⊢
        rw [List.intercalate_singleton, ← List.append_nil s.text]
        exact hs.append ih
      · rw [List.intercalate_cons_of_ne_nil hlast]
        have hblank := hs.append reads_blank
        simp only [Option.bind_fun_some] at hblank
        exact hblank.append ih

/-! ## Documents -/

theorem section_head (s : Section) : s.text.head? ≠ some '\ufeff' := by
  unfold Section.text
  split
  · rw [List.nil_append]
    cases s.entries with
    | nil => simp
    | cons e rest =>
      obtain ⟨c, r, hq, -⟩ := quoteKey_head e.1.toList
      have hc : c ≠ '\ufeff' := quoteKey_head_ne hq (by decide) (by decide) (by decide)
      simpa [entryLine, hq] using hc
  · simp [headerLine]

theorem sections_head : ∀ sections : List Section,
    (['\n'].intercalate ((sections.map Section.text).filter (!·.isEmpty))).head? ≠ some '\ufeff'
  | [] => by simp
  | s :: rest => by
    have ih := sections_head rest
    rw [List.map_cons]
    by_cases htext : s.text = []
    · rw [htext]
      exact ih
    · have hs := section_head s
      rw [List.filter_cons_of_pos (by simpa using htext)]
      obtain ⟨c, r, heq⟩ := List.exists_cons_of_ne_nil htext
      rw [heq] at hs ⊢
      by_cases hlast : (rest.map Section.text).filter (!·.isEmpty) = []
      · rw [hlast, List.intercalate_singleton]
        exact hs
      · rw [List.intercalate_cons_of_ne_nil hlast]
        exact hs

theorem parse?_ofList {text : List Char} (h : text.head? ≠ some '\ufeff') :
    parse? (String.ofList text) =
      (readLines? (text.length + 1) ⟨[], []⟩ text).map fun p => valueEntries p.items := by
  unfold parse?
  rw [String.toList_ofList]
  dsimp only
  split
  · exact absurd rfl h
  · rfl

/-- **A printed document is read as its sections say.** -/
theorem parse?_print {sections : List Section} (h : ∀ s ∈ sections, s.InRange) :
    parse? (print sections) =
      (sections.foldlM Progress.section? ⟨[], []⟩).map fun p => valueEntries p.items := by
  have hread := reads_sections h
  unfold print
  rw [parse?_ofList (sections_head sections)]
  generalize ['\n'].intercalate ((sections.map Section.text).filter (!·.isEmpty)) = text at hread
  obtain ⟨fuel, hf, heq⟩ := hread ⟨[], []⟩ [] (text.length + 1) (by simp)
  obtain ⟨fuel, rfl⟩ : ∃ n, fuel = n + 1 := ⟨fuel - 1, by omega⟩
  rw [List.append_nil] at heq
  rw [heq]
  dsimp only
  cases sections.foldlM Progress.section? ⟨[], []⟩ <;> rfl

end BareMetal.Toml
