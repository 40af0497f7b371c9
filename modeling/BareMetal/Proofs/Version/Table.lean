import BareMetal.Inventory.Reading
import Mathlib.Data.List.Induction
import Mathlib.Data.List.TakeWhile
import Mathlib.Data.Prod.Lex

/-!
# What a version table answers

Entries are registered in any order, and the table stays `Sorted` by major and
minor version. So the entries that apply at a version are all in front of those
that do not, and `Divides` names the one place between them, wherever a search
starts. Main statement: `resolve_register`, the `Newest` registration answers.
-/

namespace BareMetal

namespace Version

def series (v : Version) : Lex (Nat × Nat) := toLex v.majorMinor

theorem covers_iff (a b : Version) :
    a.covers b = true ↔ ¬ toLex b.majorMinor < toLex a.majorMinor := by
  rw [not_lt, Prod.Lex.toLex_le_toLex]
  simp only [covers, Bool.or_eq_true, Bool.and_eq_true, decide_eq_true_eq, beq_iff_eq]

theorem covers_iff_le {a b : Version} : a.covers b = true ↔ a.series ≤ b.series := by
  rw [covers_iff, not_lt]
  rfl

theorem covers_iff_lt {a b : Version} : ¬ a.covers b = true ↔ b.series < a.series := by
  rw [covers_iff_le, not_le]

end Version

namespace VersionTable

variable {α : Type}

theorem resolve_eq_error {t : VersionTable α} {version : Version} {u : Unsupported}
    (h : t.resolve version = .error u) : u = ⟨t.kind, version⟩ := by
  unfold VersionTable.resolve at h
  split at h
  · cases h
  · exact (Except.error.inj h).symm

/-! ## The order of the entries -/

def Sorted (t : VersionTable α) : Prop :=
  t.entries.Pairwise fun a b => a.1.series ≤ b.1.series

/-- The first `i` entries are those that apply at the version. -/
structure Divides (t : VersionTable α) (v : Version) (i : Nat) : Prop where
  within : i ≤ t.entries.length
  before : ∀ e ∈ t.entries.take i, e.1.series ≤ v.series
  after : ∀ e ∈ t.entries.drop i, v.series < e.1.series

section

variable {t : VersionTable α} {v : Version} {i : Nat}

theorem Divides.takeWhile_eq (h : t.Divides v i) :
    t.entries.takeWhile (fun e => e.1.covers v) = t.entries.take i := by
  have hbefore : ∀ e ∈ t.entries.take i, e.1.covers v = true :=
    fun e he => Version.covers_iff_le.mpr (h.before e he)
  conv => lhs; rw [← List.take_append_drop i t.entries]
  rw [List.takeWhile_append_of_pos hbefore]
  cases hd : t.entries.drop i with
  | nil => rw [List.takeWhile_nil, List.append_nil]
  | cons e rest =>
    have he : ¬ e.1.covers v = true := Version.covers_iff_lt.mpr (h.after e (hd ▸ List.mem_cons_self))
    rw [List.takeWhile_cons, if_neg he, List.append_nil]

theorem Divides.dropWhile_eq (h : t.Divides v i) :
    t.entries.dropWhile (fun e => e.1.covers v) = t.entries.drop i := by
  have hsplit := List.takeWhile_append_dropWhile (p := fun e => e.1.covers v) (l := t.entries)
  rw [h.takeWhile_eq] at hsplit
  exact List.append_cancel_left (hsplit.trans (List.take_append_drop i t.entries).symm)

theorem Divides.unique {j : Nat} (h : t.Divides v i) (hj : t.Divides v j) : j = i := by
  have hlen := congrArg List.length (hj.takeWhile_eq.symm.trans h.takeWhile_eq)
  rwa [List.length_take_of_le hj.within, List.length_take_of_le h.within] at hlen

theorem Divides.of_append {a b : List (Version × α)} (split : a ++ b = t.entries)
    (before : ∀ e ∈ a, e.1.series ≤ v.series) (after : ∀ e ∈ b, v.series < e.1.series) :
    t.Divides v a.length := by
  refine ⟨?_, ?_, ?_⟩
  · rw [← split, List.length_append]
    exact Nat.le_add_right _ _
  · rwa [← split, List.take_left]
  · rwa [← split, List.drop_left]

/-- The entries of a sorted table that do not apply are behind those that do. -/
theorem Sorted.exists_divides (hs : t.Sorted) (v : Version) : ∃ i, t.Divides v i := by
  refine ⟨_, .of_append (List.takeWhile_append_dropWhile (p := fun e => e.1.covers v)) ?_ ?_⟩
  · intro e he
    have hc := List.mem_takeWhile_imp he
    exact Version.covers_iff_le.mp hc
  · have hsorted := hs.sublist (List.dropWhile_sublist fun e => e.1.covers v)
    have hhead := List.head?_dropWhile_not (fun e => e.1.covers v) t.entries
    cases hd : t.entries.dropWhile fun e => e.1.covers v with
    | nil => simp
    | cons b rest =>
      rw [hd] at hsorted hhead
      have hb : v.series < b.1.series := Version.covers_iff_lt.mp (by simpa using hhead)
      refine List.forall_mem_cons.mpr ⟨hb, fun e he => ?_⟩
      exact lt_of_lt_of_le hb ((List.pairwise_cons.mp hsorted).1 e he)

theorem add_of_divides (h : t.Divides v i) (entry : α) :
    (t.add v entry).entries = t.entries.take i ++ (v, entry) :: t.entries.drop i := by
  rw [add, h.takeWhile_eq, h.dropWhile_eq]

theorem Sorted.add (hs : t.Sorted) (since : Version) (entry : α) : (t.add since entry).Sorted := by
  obtain ⟨i, h⟩ := hs.exists_divides since
  unfold Sorted at hs ⊢
  rw [← List.take_append_drop i t.entries, List.pairwise_append] at hs
  rw [add_of_divides h, List.pairwise_append, List.pairwise_cons]
  refine ⟨hs.1, ⟨fun b hb => (h.after b hb).le, hs.2.1⟩, fun a ha b hb => ?_⟩
  rcases List.mem_cons.mp hb with rfl | hb
  · exact h.before a ha
  · exact hs.2.2 a ha b hb

/-! ## The newest entry that applies -/

/-- The entry with its version that answers for `v`. -/
def newest? (t : VersionTable α) (v : Version) : Option (Version × α) :=
  (t.entries.filter fun e => e.1.covers v).getLast?

theorem Divides.filter_eq (h : t.Divides v i) :
    t.entries.filter (fun e => e.1.covers v) = t.entries.take i := by
  conv => lhs; rw [← List.take_append_drop i t.entries]
  rw [List.filter_append, List.filter_eq_self.mpr fun e he => Version.covers_iff_le.mpr (h.before e he),
    List.filter_eq_nil_iff.mpr fun e he => Version.covers_iff_lt.mpr (h.after e he), List.append_nil]

theorem Sorted.resolve_eq (hs : t.Sorted) (v : Version) : t.resolve v =
    match t.newest? v with
    | some e => .ok e.2
    | none => .error ⟨t.kind, v⟩ := by
  obtain ⟨i, h⟩ := hs.exists_divides v
  cases hc : (t.entries.take i).getLast? with
  | some e => simp only [resolve, newest?, h.takeWhile_eq, h.filter_eq, hc]
  | none => simp only [resolve, newest?, h.takeWhile_eq, h.filter_eq, hc]

theorem resolve_of_divides (h : t.Divides v i) :
    (t.resolve v).toOption = (t.entries.take i).getLast?.map Prod.snd := by
  rw [resolve, h.takeWhile_eq]
  cases (t.entries.take i).getLast? <;> rfl

/-- A new entry answers where it applies, unless one that applies is of a later series. -/
theorem Sorted.newest?_add (hs : t.Sorted) (since : Version) (entry : α) (v : Version) :
    (t.add since entry).newest? v =
      if since.series ≤ v.series ∧ ∀ e ∈ t.newest? v, e.1.series ≤ since.series then
        some (since, entry)
      else t.newest? v := by
  obtain ⟨i, h⟩ := hs.exists_divides since
  have hold : t.newest? v = ((t.entries.drop i).filter fun e => e.1.covers v).getLast?.or
      ((t.entries.take i).filter fun e => e.1.covers v).getLast? := by
    conv => lhs; rw [newest?, ← List.take_append_drop i t.entries]
    rw [List.filter_append, List.getLast?_append]
  rw [newest?, add_of_divides h, List.filter_append, List.filter_cons]
  by_cases hv : since.series ≤ v.series
  · rw [if_pos (Version.covers_iff_le.mpr hv), List.append_cons, List.getLast?_append,
      List.getLast?_concat]
    cases hlast : ((t.entries.drop i).filter fun e => e.1.covers v).getLast? with
    | some e =>
      -- Behind the new entry there is one that applies, and it is of a later series.
      have he : e ∈ t.entries.drop i := (List.mem_filter.mp (List.mem_of_getLast? hlast)).1
      rw [hlast, Option.some_or] at hold
      rw [hold, Option.some_or, if_neg]
      exact fun hall => not_le_of_gt (h.after e he) (hall.2 e rfl)
    | none =>
      rw [hlast, Option.none_or] at hold
      rw [Option.none_or, if_pos]
      refine ⟨hv, fun e he => h.before e ?_⟩
      rw [hold] at he
      exact (List.mem_filter.mp (List.mem_of_getLast? he)).1
  · have hdrop : ((t.entries.drop i).filter fun e => e.1.covers v) = [] := by
      refine List.filter_eq_nil_iff.mpr fun e he => Version.covers_iff_lt.mpr ?_
      exact (not_le.mp hv).trans (h.after e he)
    rw [hdrop, List.getLast?_nil, Option.none_or] at hold
    rw [if_neg (mt Version.covers_iff_le.mp hv), if_neg (fun h => hv h.1), hold, hdrop, List.append_nil]

end

/-! ## Registering entries one after the other -/

def register (kind : String) (regs : List (Version × α)) : VersionTable α :=
  regs.foldl (fun t r => t.add r.1 r.2) (empty kind)

theorem register_snoc (kind : String) (regs : List (Version × α)) (r : Version × α) :
    register kind (regs ++ [r]) = (register kind regs).add r.1 r.2 := by
  rw [register, List.foldl_append]
  rfl

theorem register_kind (kind : String) (regs : List (Version × α)) :
    (register kind regs).kind = kind := by
  induction regs using List.reverseRecOn with
  | nil => rfl
  | append_singleton regs r ih => rw [register_snoc, add, ih]

theorem sorted_register (kind : String) (regs : List (Version × α)) :
    (register kind regs).Sorted := by
  induction regs using List.reverseRecOn with
  | nil => exact .nil
  | append_singleton regs r ih => rw [register_snoc]; exact ih.add r.1 r.2

/-- Of the registrations that apply at the version, the one at `i` is of the latest series, and of
those of its series the last one. -/
structure Newest (v : Version) (regs : List (Version × α)) (i : Nat) (r : Version × α) : Prop where
  here : regs[i]? = some r
  applies : r.1.series ≤ v.series
  latest : ∀ j q, regs[j]? = some q → q.1.series ≤ v.series →
    q.1.series < r.1.series ∨ q.1.series = r.1.series ∧ j ≤ i

def NoneApplies (v : Version) (regs : List (Version × α)) : Prop :=
  ∀ r ∈ regs, ¬ r.1.series ≤ v.series

section

variable {v : Version} {regs : List (Version × α)} {i j : Nat} {r q : Version × α}

theorem getElem?_snoc (h : (regs ++ [r])[j]? = some q) :
    regs[j]? = some q ∨ j = regs.length ∧ q = r := by
  rcases Nat.lt_or_ge j regs.length with hj | hj
  · rw [List.getElem?_append_left hj] at h
    exact .inl h
  · obtain ⟨hlt, hq⟩ := List.getElem?_eq_some_iff.mp h
    rw [List.length_append, List.length_singleton] at hlt
    obtain rfl : j = regs.length := by omega
    exact .inr ⟨rfl, by simpa using hq.symm⟩

namespace Newest

theorem le (h : Newest v regs i r) (hq : q ∈ regs) (hv : q.1.series ≤ v.series) :
    q.1.series ≤ r.1.series := by
  obtain ⟨j, hj⟩ := List.mem_iff_getElem?.mp hq
  rcases h.latest j q hj hv with hlt | ⟨heq, -⟩
  · exact hlt.le
  · exact heq.le

theorem unique (h : Newest v regs i r) (h' : Newest v regs j q) : r = q := by
  have hij : i = j := by
    rcases h.latest j q h'.here h'.applies with hlt | ⟨heq, hle⟩
    · rcases h'.latest i r h.here h.applies with hlt' | ⟨heq', -⟩
      · exact absurd hlt hlt'.asymm
      · exact absurd heq' hlt.ne'
    · rcases h'.latest i r h.here h.applies with hlt' | ⟨-, hle'⟩
      · exact absurd heq hlt'.ne'
      · exact Nat.le_antisymm hle' hle
  subst hij
  exact Option.some.inj (h.here.symm.trans h'.here)

theorem last (applies : r.1.series ≤ v.series)
    (h : ∀ q ∈ regs, q.1.series ≤ v.series → q.1.series ≤ r.1.series) :
    Newest v (regs ++ [r]) regs.length r := by
  refine ⟨List.getElem?_concat_length, applies, fun j q hj hv => ?_⟩
  rcases getElem?_snoc hj with hj | ⟨rfl, rfl⟩
  · obtain ⟨hlt, -⟩ := List.getElem?_eq_some_iff.mp hj
    rcases (h q (List.mem_of_getElem? hj) hv).lt_or_eq with hs | hs
    · exact .inl hs
    · exact .inr ⟨hs, hlt.le⟩
  · exact .inr ⟨rfl, le_rfl⟩

theorem snoc (h : Newest v regs i r) (hq : q.1.series ≤ v.series → q.1.series < r.1.series) :
    Newest v (regs ++ [q]) i r := by
  obtain ⟨hi, -⟩ := List.getElem?_eq_some_iff.mp h.here
  refine ⟨by rw [List.getElem?_append_left hi, h.here], h.applies, fun j q' hj hv => ?_⟩
  rcases getElem?_snoc hj with hj | ⟨-, rfl⟩
  · exact h.latest j q' hj hv
  · exact .inl (hq hv)

end Newest

/-- **The table finds the newest registration**, if one applies. -/
theorem newest?_register (kind : String) (regs : List (Version × α)) (v : Version) :
    match (register kind regs).newest? v with
    | some r => ∃ i, Newest v regs i r
    | none => NoneApplies v regs := by
  induction regs using List.reverseRecOn with
  | nil => exact fun r hr => absurd hr List.not_mem_nil
  | append_singleton regs r ih =>
    rw [register_snoc, (sorted_register kind regs).newest?_add]
    cases hc : (register kind regs).newest? v with
    | some current =>
      rw [hc] at ih
      obtain ⟨i, hi⟩ := ih
      simp only [Option.mem_def, Option.some.injEq, forall_eq']
      by_cases hnew : r.1.series ≤ v.series ∧ current.1.series ≤ r.1.series
      · rw [if_pos hnew]
        exact ⟨_, .last hnew.1 fun q hq hv => (hi.le hq hv).trans hnew.2⟩
      · rw [if_neg hnew]
        exact ⟨i, hi.snoc fun hv => not_le.mp fun hle => hnew ⟨hv, hle⟩⟩
    | none =>
      rw [hc] at ih
      dsimp only at ih
      by_cases hv : r.1.series ≤ v.series
      · rw [if_pos ⟨hv, by simp⟩]
        exact ⟨_, .last hv fun q hq hqv => absurd hqv (ih q hq)⟩
      · rw [if_neg (fun h => hv h.1)]
        exact List.forall_mem_append.mpr ⟨ih, by simpa using hv⟩

theorem resolve_register_eq_ok (kind : String) (regs : List (Version × α)) (v : Version) (e : α) :
    (register kind regs).resolve v = .ok e ↔ ∃ i since, Newest v regs i (since, e) := by
  have hn := newest?_register kind regs v
  rw [(sorted_register kind regs).resolve_eq]
  cases hc : (register kind regs).newest? v with
  | some r =>
    rw [hc] at hn
    obtain ⟨i, hi⟩ := hn
    constructor
    · rintro h
      cases h
      exact ⟨i, r.1, hi⟩
    · rintro ⟨j, since, hj⟩
      rw [hi.unique hj]
  | none =>
    rw [hc] at hn
    refine iff_of_false nofun ?_
    rintro ⟨i, since, hi⟩
    exact hn _ (List.mem_of_getElem? hi.here) hi.applies

theorem resolve_register_eq_error (kind : String) (regs : List (Version × α)) (v : Version)
    (u : Unsupported) : (register kind regs).resolve v = .error u ↔
      u = ⟨kind, v⟩ ∧ NoneApplies v regs := by
  have hn := newest?_register kind regs v
  rw [(sorted_register kind regs).resolve_eq, register_kind]
  cases hc : (register kind regs).newest? v with
  | some r =>
    rw [hc] at hn
    obtain ⟨i, hi⟩ := hn
    refine iff_of_false nofun ?_
    exact fun h => h.2 _ (List.mem_of_getElem? hi.here) hi.applies
  | none =>
    rw [hc] at hn
    simp only [Except.error.injEq, and_iff_left hn, eq_comm]

/-! ## What the answer does not depend on -/

/-- Among registrations of distinct series the newest one is told by its series alone. -/
theorem Newest.perm {regs' : List (Version × α)} (h : Newest v regs i r) (hp : regs.Perm regs')
    (distinct : (regs.map (·.1.series)).Nodup) : ∃ j, Newest v regs' j r := by
  obtain ⟨j, hj⟩ := List.mem_iff_getElem?.mp (hp.mem_iff.mp (List.mem_of_getElem? h.here))
  have hseries (k : Nat) (q : Version × α) (hk : regs'[k]? = some q) :
      (regs'.map (·.1.series))[k]? = some q.1.series := by
    rw [List.getElem?_map, hk, Option.map_some]
  refine ⟨j, hj, h.applies, fun k q hk hv => ?_⟩
  rcases (h.le (hp.mem_iff.mpr (List.mem_of_getElem? hk)) hv).lt_or_eq with hlt | heq
  · exact .inl hlt
  · have hd' := (hp.map (·.1.series)).nodup_iff.mp distinct
    have hkj := (hseries k q hk).trans (heq ▸ (hseries j r hj).symm)
    obtain ⟨hlt, -⟩ := List.getElem?_eq_some_iff.mp (hseries k q hk)
    exact .inr ⟨heq, ((List.getElem?_inj hlt hd').mp hkj).le⟩

theorem NoneApplies.perm {regs' : List (Version × α)} (h : NoneApplies v regs)
    (hp : regs.Perm regs') : NoneApplies v regs' :=
  fun r hr => h r (hp.mem_iff.mpr hr)

/-- The registrations differ at most in the patch numbers of their versions. -/
def SameButPatches (regs regs' : List (Version × α)) : Prop :=
  regs'.map (fun r => (r.1.majorMinor, r.2)) = regs.map fun r => (r.1.majorMinor, r.2)

theorem SameButPatches.symm {regs' : List (Version × α)} (h : SameButPatches regs regs') :
    SameButPatches regs' regs :=
  Eq.symm h

theorem SameButPatches.getElem? {regs' : List (Version × α)} (h : SameButPatches regs regs')
    (hr : regs[i]? = some r) : ∃ r', regs'[i]? = some r' ∧ r'.1.series = r.1.series ∧ r'.2 = r.2 := by
  have hi := congrArg (·[i]?) h
  simp only [List.getElem?_map, hr, Option.map_some, Option.map_eq_some_iff, Prod.mk.injEq] at hi
  obtain ⟨r', hr', hm, he⟩ := hi
  exact ⟨r', hr', congrArg toLex hm, he⟩

theorem Newest.samePatches {regs' : List (Version × α)} {v' : Version} (h : Newest v regs i r)
    (hs : SameButPatches regs regs') (hv : v'.series = v.series) :
    ∃ r', Newest v' regs' i r' ∧ r'.2 = r.2 := by
  obtain ⟨r', hr', hrs, he⟩ := hs.getElem? h.here
  refine ⟨r', ⟨hr', by rw [hrs, hv]; exact h.applies, fun j q hj hqv => ?_⟩, he⟩
  obtain ⟨q', hq', hqs, -⟩ := hs.symm.getElem? hj
  rw [← hqs, hrs]
  exact h.latest j q' hq' (by rw [hqs, ← hv]; exact hqv)

theorem NoneApplies.samePatches {regs' : List (Version × α)} {v' : Version} (h : NoneApplies v regs)
    (hs : SameButPatches regs regs') (hv : v'.series = v.series) : NoneApplies v' regs' := by
  intro r hr
  obtain ⟨i, hi⟩ := List.mem_iff_getElem?.mp hr
  obtain ⟨r', hr', hrs, -⟩ := hs.symm.getElem? hi
  rw [← hrs, hv]
  exact h r' (List.mem_of_getElem? hr')

end

theorem resolve_register_perm {regs regs' : List (Version × α)} (hp : regs.Perm regs')
    (distinct : (regs.map (·.1.series)).Nodup) (kind : String) (v : Version) :
    (register kind regs').resolve v = (register kind regs).resolve v := by
  cases hr : (register kind regs).resolve v with
  | ok e =>
    obtain ⟨i, since, hi⟩ := (resolve_register_eq_ok kind regs v e).mp hr
    obtain ⟨j, hj⟩ := hi.perm hp distinct
    exact (resolve_register_eq_ok kind regs' v e).mpr ⟨j, since, hj⟩
  | error u =>
    obtain ⟨hu, hn⟩ := (resolve_register_eq_error kind regs v u).mp hr
    exact (resolve_register_eq_error kind regs' v u).mpr ⟨hu, hn.perm hp⟩

theorem resolve_register_samePatches {regs regs' : List (Version × α)} {v v' : Version}
    (hs : SameButPatches regs regs') (hv : v'.series = v.series) (kind : String) :
    (register kind regs').resolve v' =
      ((register kind regs).resolve v).mapError fun u => { u with version := v' } := by
  cases hr : (register kind regs).resolve v with
  | ok e =>
    obtain ⟨i, since, hi⟩ := (resolve_register_eq_ok kind regs v e).mp hr
    obtain ⟨⟨since', e'⟩, hi', rfl⟩ := hi.samePatches hs hv
    exact (resolve_register_eq_ok kind regs' v' e').mpr ⟨i, since', hi'⟩
  | error u =>
    obtain ⟨rfl, hn⟩ := (resolve_register_eq_error kind regs v u).mp hr
    exact (resolve_register_eq_error kind regs' v' _).mpr ⟨rfl, hn.samePatches hs hv⟩

/-- **The newest registration that applies answers.** It is the one of the latest series at or below
that of the version, and the last one of its series; without one the version is unsupported. The
table is sorted after every registration, so there is one place between the entries that apply and
the others, where a new entry goes and in front of which the answer is. The order in which distinct
series are registered does not matter, and patch numbers never do. -/
theorem resolve_register (kind : String) (regs : List (Version × α)) (v : Version) :
    (∀ e, (register kind regs).resolve v = .ok e ↔ ∃ i since, Newest v regs i (since, e)) ∧
    (∀ u, (register kind regs).resolve v = .error u ↔ u = ⟨kind, v⟩ ∧ NoneApplies v regs) ∧
    (Inventory.ReadFault.unsupported ⟨kind, v⟩).toError =
      .unsupportedVersion ("no " ++ kind ++ " read func for version " ++ v.text) ∧
    (register kind regs).Sorted ∧
    (∃ i, (register kind regs).Divides v i ∧ (∀ j, (register kind regs).Divides v j → j = i) ∧
      (∀ e, ((register kind regs).add v e).entries =
        (register kind regs).entries.take i ++ (v, e) :: (register kind regs).entries.drop i) ∧
      ((register kind regs).resolve v).toOption =
        ((register kind regs).entries.take i).getLast?.map Prod.snd) ∧
    (∀ regs', regs.Perm regs' → (regs.map (·.1.series)).Nodup →
      (register kind regs').resolve v = (register kind regs).resolve v) ∧
    ∀ regs' v', SameButPatches regs regs' → v'.majorMinor = v.majorMinor →
      (register kind regs').resolve v' =
        ((register kind regs).resolve v).mapError fun u => { u with version := v' } := by
  have hs := sorted_register kind regs
  obtain ⟨i, hi⟩ := hs.exists_divides v
  refine ⟨resolve_register_eq_ok kind regs v, resolve_register_eq_error kind regs v, rfl, hs,
    ⟨i, hi, fun j hj => hi.unique hj, fun e => add_of_divides hi e, resolve_of_divides hi⟩,
    fun regs' hp distinct => resolve_register_perm hp distinct kind v,
    fun regs' v' hp hv => resolve_register_samePatches hp (congrArg toLex hv) kind⟩

end VersionTable

end BareMetal
