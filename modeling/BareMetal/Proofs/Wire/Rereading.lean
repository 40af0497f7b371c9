import BareMetal.Proofs.Number.Nearest
import BareMetal.Proofs.Wire.Form
import BareMetal.Wire.Encode

/-!
# What is encoded decodes again

A record is encoded with all its fields, absent values as null. Its encoding has
the form of its shape (`fits_encode`), and decodes to the record itself if that
was decoded from some value (`Fits.rereads`). One number would be changed:
negative zero is written as a float that counts as the integer zero. No value
decodes to it.
-/

namespace BareMetal.Wire

/-! ## Fields and their values -/

theorem Each.and {P Q : (f : String × Bool × Shape) → f.2.2.Value → Prop} :
    ∀ {fields : List (String × Bool × Shape)} {xs : Values fields},
      Each P fields xs → Each Q fields xs → Each (fun f x => P f x ∧ Q f x) fields xs
  | [], _, _, _ => trivial
  | (_, _, _) :: _, _, hp, hq => ⟨⟨hp.1, hq.1⟩, hp.2.and hq.2⟩

theorem each_blanks {P : (f : String × Bool × Shape) → f.2.2.Value → Prop} :
    ∀ {fields : List (String × Bool × Shape)}, (∀ f ∈ fields, P f f.2.2.blank) →
      Each P fields (blanks fields)
  | [], _ => trivial
  | (_, _, _) :: _, h => by
    rw [List.forall_mem_cons] at h
    exact ⟨h.1, each_blanks h.2⟩

theorem keys_encodeFields : ∀ {fields : List (String × Bool × Shape)} (xs : Values fields),
    (encodeFields fields xs).map Prod.fst = fields.map Prod.fst
  | [], _ => rfl
  | (name, _, s) :: rest, xs => by
    rw [encodeFields, List.map_cons, List.map_cons, keys_encodeFields]

theorem lookup_encodeFields : ∀ {fields : List (String × Bool × Shape)} (xs : Values fields),
    (fields.map Prod.fst).Nodup →
      Each (fun f x => (encodeFields fields xs).lookup f.1 = some (encode f.2.2 x)) fields xs
  | [], _, _ => trivial
  | (name, isNeeded, s) :: rest, xs, hn => by
    rw [List.map_cons, List.nodup_cons] at hn
    refine ⟨List.lookup_cons_self, (lookup_encodeFields xs.2 hn.2).imp fun f hf x hx => ?_⟩
    have hne : f.1 ≠ name := fun h => hn.1 (List.mem_map.mpr ⟨f, hf, h⟩)
    rw [encodeFields, List.lookup_cons, beq_eq_false_iff_ne.mpr hne]
    exact hx

/-- The entries of an encoded record in the order of their names. -/
def sortedFields (fields : List (String × Bool × Shape)) (xs : Values fields) : List (String × Json) :=
  Keyed.ofList ((encodeFields fields xs).map fun e => (e.1, e.2.arranged))

theorem encode_record_arranged {title : String} {fields : List (String × Bool × Shape)}
    (xs : (Shape.record title fields).Value) :
    (encode (.record title fields) xs).arranged = .map (sortedFields fields xs) :=
  Json.arranged_map _

theorem lookup_sortedFields {fields : List (String × Bool × Shape)} (xs : Values fields)
    (hn : (fields.map Prod.fst).Nodup) :
    Each (fun f x => (sortedFields fields xs).lookup f.1 = some (encode f.2.2 x).arranged) fields xs := by
  refine (lookup_encodeFields xs hn).imp fun f hf x hx => ?_
  have hk : (((encodeFields fields xs).map fun e => (e.1, e.2.arranged)).map Prod.fst).Nodup := by
    rw [List.map_map]
    exact (keys_encodeFields xs).symm ▸ hn
  rw [sortedFields, Keyed.lookup_ofList hk, Keyed.lookup_map, hx, Option.map_some]

theorem encode_sequence {s : Shape} (ws : List s.Value) :
    encode (.sequence s) ws = .list (ws.map fun w => encode s w) := rfl

/-! ## The form of an encoding -/

theorem encode_ne_null {s : Shape} (hs : s.isNullable = false) (w : s.Value) :
    (encode s w).arranged ≠ .null := by
  rw [ne_eq, Json.arranged_eq_null]
  cases s with
  | nullable inner => cases hs
  | _ => simp [encode]

theorem fits_encode {s : Shape} : s.regular = true → ∀ w : s.Value, Fits s (encode s w).arranged := by
  induction s using Shape.induction with
  | text => exact fun _ w => .text w
  | flag => exact fun _ w => .flag w
  | integer w => exact fun _ n => .integer w rfl
  | real => exact fun _ x => .real _
  | nullable s ih =>
    intro hr w
    rw [Shape.regular, Bool.and_eq_true] at hr
    change Option s.Value at w
    cases w with
    | none => exact .null s
    | some x => exact .present (ih hr.2 x)
  | sequence s ih =>
    intro hr ws
    rw [encode, Json.arranged_list]
    refine .sequence fun v hv => ?_
    obtain ⟨v', hv', rfl⟩ := List.mem_map.mp hv
    obtain ⟨w, -, rfl⟩ := List.mem_map.mp hv'
    exact ih hr w
  | record title fields ih =>
    intro hr xs
    obtain ⟨distinct, hrf⟩ := Shape.regular_record.mp hr
    have hl := lookup_sortedFields xs distinct
    rw [encode_record_arranged]
    refine .record distinct (fun f hf v hv => ?_) (fun f hf _ => ?_)
    · obtain ⟨x, hx⟩ := hl.exists f hf
      rw [hx] at hv
      cases hv
      exact ih f hf (hrf f hf) x
    · obtain ⟨x, hx⟩ := hl.exists f hf
      rw [hx]
      rfl

/-! ## Decoding an encoding -/

/-- The encoding of the value decodes to the value. -/
def Rereads (s : Shape) (w : s.Value) : Prop :=
  decode s (encode s w).arranged.wholeFloatsAsInts = .ok w

theorem rereads_real {x : Binary64} (hx : x ≠ .zero true) : Rereads .real x := by
  show decodeReal (.number (Json.Number.float x).wholeAsInt) = .ok x
  cases hw : x.wideInt? with
  | none =>
    have hn : (Json.Number.float x).whole? = none := hw
    rw [Json.Number.wholeAsInt_of_none hn]
    rfl
  | some k =>
    have hn : (Json.Number.float x).whole? = some k := hw
    rw [Json.Number.wholeAsInt_of_some hn]
    exact congrArg _ (Binary64.nearest_of_toRat (Binary64.wideInt?_eq_some.mp hw).1 hx)

theorem decodeReal_ne_negative_zero {n : Json.Number} {x : Binary64}
    (h : decodeReal (.number n.wholeAsInt) = .ok x) : x ≠ .zero true := by
  cases hw : n.whole? with
  | some k =>
    rw [Json.Number.wholeAsInt_of_some hw] at h
    cases h
    exact Binary64.nearest_ne_negative_zero k
  | none =>
    rw [Json.Number.wholeAsInt_of_none hw] at h
    cases n with
    | int k => cases hw
    | float y =>
      cases h
      rintro rfl
      have hz : (Json.Number.float (.zero true)).whole? = some _ := Binary64.wideInt?_zero true
      cases hw.symm.trans hz

theorem rereads_some {s : Shape} (hs : s.isNullable = false) {w : s.Value} (h : Rereads s w) :
    Rereads (.nullable s) (some w : Option s.Value) := by
  have hne : (encode s w).arranged.wholeFloatsAsInts ≠ .null :=
    mt Json.wholeFloatsAsInts_eq_null.mp (encode_ne_null hs w)
  exact (decode_nullable hne).trans (congrArg (Except.map some) h)

theorem rereads_list {s : Shape} {ws : List s.Value} (h : ∀ w ∈ ws, Rereads s w) :
    Rereads (.sequence s) ws := by
  have he : (encode (.sequence s) ws).arranged.wholeFloatsAsInts =
      .list (ws.map fun w => (encode s w).arranged.wholeFloatsAsInts) := by
    rw [encode_sequence, Json.arranged_list, Json.wholeFloatsAsInts_list, List.map_map, List.map_map]
    rfl
  unfold Rereads
  rw [he, decode_sequence_list, List.mapM_map]
  exact Except.mapM_eq_ok.mpr (List.forall₂_same.mpr h)

/-- Entries that decode under the names of fields decode one after the other. -/
theorem forM_decodeEntry {fields : List (String × Bool × Shape)} {entries : List (String × Json)}
    (he : (entries.map Prod.fst).Nodup)
    (h : ∀ f ∈ fields, ∀ v, entries.lookup f.1 = some v → ∃ x, decode f.2.2 v = .ok x) :
    entries.forM (decodeEntry fields) = .ok () := by
  refine forM_eq_ok.mpr fun e hm => ?_
  unfold decodeEntry
  cases hf : fields.lookup e.1 with
  | none => rfl
  | some f =>
    obtain ⟨x, hx⟩ := h (e.1, f) (Keyed.mem_of_lookup hf) e.2 (Keyed.lookup_of_mem he hm)
    exact Except.map_eq_ok.mpr ⟨x, hx, rfl⟩

/-- A record is decoded from any map that has a value for each of its entries. -/
theorem decode_of_each (title : String) {fields : List (String × Bool × Shape)}
    {entries : List (String × Json)} (distinct : (fields.map Prod.fst).Nodup)
    (nodup : (entries.map Prod.fst).Nodup) {xs : (Shape.record title fields).Value}
    (h : Each (fun f x => ∃ v, entries.lookup f.1 = some v ∧ decode f.2.2 v = .ok x) fields xs) :
    decode (.record title fields) (.map entries) = .ok xs := by
  rw [decode_map title distinct nodup, forM_decodeEntry nodup]
  · exact gather_eq_ok_iff.mpr (h.imp fun f _ x hx => .inl hx)
  · intro f hf v hv
    obtain ⟨x, w, hw, hx⟩ := h.exists f hf
    cases hv.symm.trans hw
    exact ⟨x, hx⟩

theorem rereads_record (title : String) {fields : List (String × Bool × Shape)}
    (hn : (fields.map Prod.fst).Nodup) {xs : (Shape.record title fields).Value}
    (h : Each (fun f x => Rereads f.2.2 x) fields xs) : Rereads (.record title fields) xs := by
  have hs : Keyed.Sorted (sortedFields fields xs) := Keyed.sorted_ofList _
  have hk := Json.keys_wholeFloatsAsInts (sortedFields fields xs)
  unfold Rereads
  rw [encode_record_arranged, Json.wholeFloatsAsInts_map]
  apply decode_of_each title hn (hk ▸ hs.nodup)
  refine ((lookup_sortedFields xs hn).and h).imp fun f _ x hx => ⟨_, ?_, hx.2⟩
  rw [Json.lookup_wholeFloatsAsInts, hx.1, Option.map_some]

/-- The list of the values of a record, in the order of its fields, decodes too. -/
theorem decodeInOrder_encodeFields (title : String) (arity : Nat) :
    ∀ {fields : List (String × Bool × Shape)} {xs : Values fields} {i : Nat},
      Each (fun f x => Rereads f.2.2 x) fields xs → decodeInOrder title arity fields i
        ((encodeFields fields xs).map fun e => e.2.arranged.wholeFloatsAsInts) = .ok (xs, 0)
  | [], _, _, _ => rfl
  | (_, _, _) :: _, _, i, h =>
    Except.bind_eq_ok.mpr ⟨_, h.1, Except.bind_eq_ok.mpr
      ⟨_, decodeInOrder_encodeFields title arity (i := i + 1) h.2, rfl⟩⟩

theorem decode_encodeFields (title : String) {fields : List (String × Bool × Shape)}
    {xs : Values fields} (h : Each (fun f x => Rereads f.2.2 x) fields xs) :
    decode (.record title fields) (Json.list ((encodeFields fields xs).map fun e => e.2.arranged)).wholeFloatsAsInts =
      .ok (xs : (Shape.record title fields).Value) := by
  rw [Json.wholeFloatsAsInts_list, List.map_map]
  exact Except.bind_eq_ok.mpr ⟨(xs, 0), decodeInOrder_encodeFields title fields.length h, rfl⟩

theorem rereads_blank {s : Shape} : s.regular = true → Rereads s s.blank := by
  induction s using Shape.induction with
  | text | flag | nullable | sequence => exact fun _ => rfl
  | integer w =>
    intro _
    show decodeInteger w _ = _
    exact decodeInteger_eq_ok.mpr ⟨_, rfl, rfl⟩
  | real =>
    have hne : Binary64.zero false ≠ .zero true := by
      decide
    exact fun _ => rereads_real hne
  | record title fields ih =>
    intro hr
    obtain ⟨distinct, hrf⟩ := Shape.regular_record.mp hr
    exact rereads_record title distinct (each_blanks fun f hf => ih f hf (hrf f hf))

/-- **What was decoded is decoded again from its encoding.** -/
theorem Fits.rereads {s : Shape} : ∀ {v : Json} {w : s.Value}, s.regular = true → Fits s v →
    v.Ordered → decode s v.wholeFloatsAsInts = .ok w → Rereads s w := by
  induction s using Shape.induction with
  | text | flag => exact fun _ _ _ _ => rfl
  | integer word => exact fun _ _ _ _ => decodeInteger_eq_ok.mpr ⟨_, rfl, rfl⟩
  | real =>
    intro v w _ hf _ h
    cases hf with
    | real n => exact rereads_real (decodeReal_ne_negative_zero h)
  | nullable s ih =>
    intro v w hr hf ho h
    rw [Shape.regular, Bool.and_eq_true, Bool.not_eq_true'] at hr
    by_cases hv : v = .null
    · subst hv
      cases h
      rfl
    · rw [decode_nullable (mt Json.wholeFloatsAsInts_eq_null.mp hv)] at h
      obtain ⟨x, hx, rfl⟩ := Except.map_eq_ok.mp h
      cases hf with
      | null => exact absurd rfl hv
      | present hf => exact rereads_some hr.1 (ih hr.2 hf ho hx)
  | sequence s ih =>
    intro v ws hr hf ho h
    cases hf with
    | sequence each =>
      rw [Json.wholeFloatsAsInts_list, decode_sequence_list, List.mapM_map] at h
      refine rereads_list fun w hw => ?_
      obtain ⟨item, hi, hd⟩ := Except.mem_of_mapM h w hw
      exact ih hr (each item hi) (ho.items item hi) hd
  | record title fields ih =>
    intro v xs hr hf ho h
    obtain ⟨distinct, hrf⟩ := Shape.regular_record.mp hr
    cases hf with
    | @record _ _ entries _ known _ =>
      refine rereads_record title distinct ((each_found distinct ho h).imp fun f hf x hx => ?_)
      -- A field is in the value that was decoded, or it has its blank value.
      rcases hx with ⟨v, hv, hd⟩ | ⟨-, -, rfl⟩
      · exact ih f hf (hrf f hf) (known f hf v hv) (ho.values _ (Keyed.mem_of_lookup hv)) hd
      · exact rereads_blank (hrf f hf)

end BareMetal.Wire
