import BareMetal.Action.Form
import BareMetal.Proofs.Text.Base64

/-!
# What a form says of the arguments

`FormOf` relates what is given for the fields of an action to a form: one entry for
each field that is set and not empty, in order, and no other. So every field can be
told from the form again (`FormOf.settled_eq`). Main statement: `forms_faithful`.
-/

namespace BareMetal.Action

/-- What is given for one field. -/
inductive Given where
  | data (bytes : Option (List UInt8))
  | text (value : String)
  | mode (stop : Option StopMode)

namespace Given

/-- Set and not empty. -/
def IsSet : Given → Prop
  | data bytes => bytes ≠ none ∧ bytes ≠ some []
  | text value => value ≠ ""
  | mode stop => stop ≠ none

/-- The text that is sent for a field: bytes in base64, texts as they are. -/
inductive Sent : Given → String → Prop
  | data {bytes : List UInt8} {value : String}
      (reads : ∀ s, Base64.decode? s = some bytes ↔ s = value.toList)
      (padded : value.length = 4 * ((bytes.length + 2) / 3)) : Sent (.data (some bytes)) value
  | text (value : String) : Sent (.text value) value
  | mode (stop : StopMode) : Sent (.mode (some stop)) stop.name

end Given

/-- The form has an entry for each field that is set and not empty, in their order. -/
inductive FormOf : List (String × Given) → Form → Prop
  | nil : FormOf [] []
  | left {name : String} {g : Given} {fields : List (String × Given)} {form : Form} (unset : ¬ g.IsSet)
      (rest : FormOf fields form) : FormOf ((name, g) :: fields) form
  | sent {name value : String} {g : Given} {fields : List (String × Given)} {form : Form}
      (isSet : g.IsSet) (sent : g.Sent value) (rest : FormOf fields form) :
      FormOf ((name, g) :: fields) ((name, value) :: form)

/-! ## The fields of each action -/

def StartArgs.fields (a : StartArgs) : List (String × Given) :=
  [("user_data", .data a.userData), ("distro_series", .text a.distroSeries),
    ("hwe_kernel", .text a.kernel), ("comment", .text a.comment)]

def PowerOnArgs.fields (a : PowerOnArgs) : List (String × Given) :=
  [("user_data", .data a.userData), ("comment", .text a.comment)]

def PowerOffArgs.fields (a : PowerOffArgs) : List (String × Given) :=
  [("stop_mode", .mode a.stopMode), ("comment", .text a.comment)]

def ReleaseArgs.fields (a : ReleaseArgs) : List (String × Given) := [("comment", .text a.comment)]

/-- Empty user data counts as unset. -/
def settledData : Option (List UInt8) → Option (List UInt8)
  | some [] => none
  | data => data

def StartArgs.settled (a : StartArgs) : StartArgs := { a with userData := settledData a.userData }

def PowerOnArgs.settled (a : PowerOnArgs) : PowerOnArgs := { a with userData := settledData a.userData }

/-! ## What is sent for a field -/

namespace Given

/-- The field of its kind that is not set. -/
def blank : Given → Given
  | data _ => data none
  | text _ => text ""
  | mode _ => mode none

def settled : Given → Given
  | data bytes => data (settledData bytes)
  | text value => text value
  | mode stop => mode stop

theorem name_inj {m n : StopMode} (h : m.name = n.name) : m = n := by
  cases m <;> cases n <;> simp [StopMode.name] at h ⊢

theorem sent_data (bytes : List UInt8) :
    Sent (.data (some bytes)) (String.ofList (Base64.encode bytes)) := by
  apply Sent.data
  · intro s
    rw [String.toList_ofList]
    exact Base64.decode?_eq_some
  · rw [String.length_ofList, Base64.length_encode]

theorem Sent.ne_empty {g : Given} {value : String} (hv : g.Sent value) (hg : g.IsSet) : value ≠ "" := by
  cases hv with
  | @data bytes value reads padded =>
    intro hempty
    have hlength : bytes.length ≠ 0 := by simpa [IsSet] using hg
    simp [hempty] at padded
    omega
  | text value => exact hg
  | mode stop => cases stop <;> decide

/-- What is sent tells what is given. -/
theorem Sent.inj {g h : Given} {value : String} (kind : g.blank = h.blank) (hg : g.Sent value)
    (hh : h.Sent value) : g = h := by
  cases hg with
  | data reads padded =>
    cases hh with
    | data reads' padded' =>
      have hbytes := ((reads _).mpr rfl).symm.trans ((reads' _).mpr rfl)
      rw [hbytes]
    | _ => cases kind
  | text value =>
    cases hh with
    | text => rfl
    | _ => cases kind
  | mode stop =>
    generalize hname : stop.name = name at hh
    cases hh with
    | mode stop' => rw [name_inj hname]
    | _ => cases kind

theorem settled_of_unset {g : Given} (h : ¬ g.IsSet) : g.settled = g.blank := by
  cases g with
  | data bytes =>
    cases bytes with
    | none => rfl
    | some bytes =>
      cases bytes with
      | nil => rfl
      | cons b rest => simp [IsSet] at h
  | text value =>
    have hv : value = "" := by simpa [IsSet] using h
    rw [hv]
    rfl
  | mode stop =>
    have hs : stop = none := by simpa [IsSet] using h
    rw [hs]
    rfl

end Given

/-! ## Forms -/

namespace FormOf

variable {fields more : List (String × Given)} {form rest : Form}

theorem append (h : FormOf fields form) (hr : FormOf more rest) : FormOf (fields ++ more) (form ++ rest) := by
  induction h with
  | nil => exact hr
  | left unset _ ih => exact .left unset ih
  | sent isSet sent _ ih => exact .sent isSet sent ih

theorem userData (data : Option (List UInt8)) : FormOf [("user_data", .data data)] (userDataField data) := by
  cases data with
  | none => exact .left (by simp [Given.IsSet]) .nil
  | some bytes =>
    have hsent := Given.sent_data bytes
    by_cases hb : bytes = []
    · subst hb
      exact .left (by simp [Given.IsSet]) .nil
    · have hset : (Given.data (some bytes)).IsSet := by simpa [Given.IsSet] using hb
      have hne : (String.ofList (Base64.encode bytes)).isEmpty = false := by
        simpa using hsent.ne_empty hset
      simp only [userDataField, textField, hne]
      exact .sent hset hsent .nil

theorem text (name value : String) : FormOf [(name, .text value)] (textField name value) := by
  unfold textField
  by_cases hv : value = ""
  · subst hv
    exact .left (by simp [Given.IsSet]) .nil
  · rw [if_neg (by simpa using hv)]
    exact .sent hv (.text value) .nil

theorem mode (stop : Option StopMode) : FormOf [("stop_mode", .mode stop)]
    (stop.map fun m => ("stop_mode", m.name)).toList := by
  cases stop with
  | none => exact .left (by simp [Given.IsSet]) .nil
  | some m => exact .sent (by simp [Given.IsSet]) (.mode m) .nil

theorem sublist (h : FormOf fields form) : (form.map Prod.fst).Sublist (fields.map Prod.fst) := by
  induction h with
  | nil => exact .slnil
  | left unset _ ih => exact .cons _ ih
  | sent isSet sent _ ih => exact .cons_cons _ ih

theorem ne_empty (h : FormOf fields form) : ∀ e ∈ form, e.2 ≠ "" := by
  induction h with
  | nil => simp
  | left unset _ ih => exact ih
  | sent isSet sent _ ih => exact List.forall_mem_cons.mpr ⟨sent.ne_empty isSet, ih⟩

theorem name_mem {name value : String} (h : FormOf fields ((name, value) :: form)) :
    name ∈ fields.map Prod.fst :=
  h.sublist.subset List.mem_cons_self

/-- **A form tells what was given for its fields**, up to what is empty. -/
theorem settled_eq (h : FormOf fields form) : ∀ {fields' : List (String × Given)}, FormOf fields' form →
    fields.map (fun f => (f.1, f.2.blank)) = fields'.map (fun f => (f.1, f.2.blank)) →
    (fields.map Prod.fst).Nodup →
    fields.map (fun f => (f.1, f.2.settled)) = fields'.map fun f => (f.1, f.2.settled) := by
  induction h with
  | nil =>
    intro fields' _ kinds _
    rw [List.map_nil, eq_comm, List.map_eq_nil_iff] at kinds
    rw [kinds]
  | @left name g fields form unset rest ih =>
    intro fields' h' kinds distinct
    obtain ⟨hname, hdistinct⟩ := List.nodup_cons.mp distinct
    cases h' with
    | nil => cases kinds
    | @left name' g' fields' form unset' rest' =>
      obtain ⟨hhead, htail⟩ := List.cons.inj kinds
      obtain ⟨hn, hblank⟩ := Prod.mk.inj hhead
      dsimp only at hn hblank
      rw [List.map_cons, List.map_cons, ih rest' htail hdistinct, Given.settled_of_unset unset,
        Given.settled_of_unset unset', hn, hblank]
    | @sent name' value g' fields' form isSet' sent' rest' =>
      have hn : name = name' := (Prod.mk.inj (List.cons.inj kinds).1).1
      exact absurd (hn ▸ rest.name_mem) hname
  | @sent name value g fields form isSet sent rest ih =>
    intro fields' h' kinds distinct
    obtain ⟨hname, hdistinct⟩ := List.nodup_cons.mp distinct
    cases h' with
    | @left name' g' fields' form unset' rest' =>
      have hnames : fields.map Prod.fst = fields'.map Prod.fst := by
        simpa [Function.comp_def] using congrArg (List.map Prod.fst) (List.cons.inj kinds).2
      exact absurd (hnames ▸ rest'.name_mem) hname
    | @sent name' value g' fields' form isSet' sent' rest' =>
      obtain ⟨hhead, htail⟩ := List.cons.inj kinds
      obtain ⟨hn, hblank⟩ := Prod.mk.inj hhead
      rw [List.map_cons, List.map_cons, ih rest' htail hdistinct, sent.inj hblank sent']

end FormOf

/-! ## The forms of the actions -/

/-- What is sent for arguments says what they are: an entry for each field that is set and not empty,
in order, under distinct names and none of them empty, and arguments are told apart unless they are
the same once they are settled. -/
structure Faithful {α : Type} (form : α → Form) (fields : α → List (String × Given)) (settled : α → α) :
    Prop where
  sends : ∀ a, FormOf (fields a) (form a)
  distinct : ∀ a, ((form a).map Prod.fst).Nodup
  ne_empty : ∀ a, ∀ e ∈ form a, e.2 ≠ ""
  same_iff : ∀ a b, form a = form b ↔ settled a = settled b

theorem Faithful.of {α : Type} {form : α → Form} {fields : α → List (String × Given)} {settled : α → α}
    (sends : ∀ a, FormOf (fields a) (form a)) (distinct : ∀ a, ((fields a).map Prod.fst).Nodup)
    (kinds : ∀ a b, (fields a).map (fun f => (f.1, f.2.blank)) = (fields b).map fun f => (f.1, f.2.blank))
    (told : ∀ a b, (fields a).map (fun f => (f.1, f.2.settled)) = (fields b).map (fun f => (f.1, f.2.settled)) →
      settled a = settled b)
    (form_settled : ∀ a, form (settled a) = form a) : Faithful form fields settled := by
  refine ⟨sends, fun a => (distinct a).sublist (sends a).sublist, fun a => (sends a).ne_empty, fun a b => ?_⟩
  constructor
  · intro h
    have hb : FormOf (fields b) (form a) := h ▸ sends b
    exact told a b ((sends a).settled_eq hb (kinds a b) (distinct a))
  · intro h
    rw [← form_settled a, h, form_settled b]

theorem userDataField_settled (data : Option (List UInt8)) :
    userDataField (settledData data) = userDataField data := by
  cases data with
  | none => rfl
  | some bytes => cases bytes <;> rfl

theorem faithful_start : Faithful StartArgs.form StartArgs.fields StartArgs.settled := by
  apply Faithful.of
  · intro a
    exact (((FormOf.userData a.userData).append (.text _ a.distroSeries)).append (.text _ a.kernel)).append
      (.text _ a.comment)
  · intro a
    simp [StartArgs.fields]
  · intro a b
    rfl
  · intro a b h
    simpa [StartArgs.fields, StartArgs.settled, Given.settled] using h
  · intro a
    simp only [StartArgs.form, StartArgs.settled, userDataField_settled]

theorem faithful_powerOn : Faithful PowerOnArgs.form PowerOnArgs.fields PowerOnArgs.settled := by
  apply Faithful.of
  · intro a
    exact (FormOf.userData a.userData).append (.text _ a.comment)
  · intro a
    simp [PowerOnArgs.fields]
  · intro a b
    rfl
  · intro a b h
    simpa [PowerOnArgs.fields, PowerOnArgs.settled, Given.settled] using h
  · intro a
    simp only [PowerOnArgs.form, PowerOnArgs.settled, userDataField_settled]

theorem faithful_powerOff : Faithful PowerOffArgs.form PowerOffArgs.fields id := by
  apply Faithful.of
  · intro a
    exact (FormOf.mode a.stopMode).append (.text _ a.comment)
  · intro a
    simp [PowerOffArgs.fields]
  · intro a b
    rfl
  · intro a b h
    cases a
    cases b
    simpa [PowerOffArgs.fields, Given.settled] using h
  · intro a
    rfl

theorem faithful_release : Faithful ReleaseArgs.form ReleaseArgs.fields id := by
  apply Faithful.of
  · intro a
    exact FormOf.text _ a.comment
  · intro a
    simp [ReleaseArgs.fields]
  · intro a b
    rfl
  · intro a b h
    cases a
    cases b
    simpa [ReleaseArgs.fields, Given.settled] using h
  · intro a
    rfl

/-- **Forms say what the arguments are.** User data is in base64, which is read as the bytes and as
nothing else, and texts are as they are; only empty user data is not told from none. -/
theorem forms_faithful :
    Faithful StartArgs.form StartArgs.fields StartArgs.settled ∧
    Faithful PowerOnArgs.form PowerOnArgs.fields PowerOnArgs.settled ∧
    Faithful PowerOffArgs.form PowerOffArgs.fields id ∧
    Faithful ReleaseArgs.form ReleaseArgs.fields id :=
  ⟨faithful_start, faithful_powerOn, faithful_powerOff, faithful_release⟩

end BareMetal.Action
