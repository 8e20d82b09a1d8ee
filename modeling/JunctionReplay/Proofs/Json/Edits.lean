import Mathlib.Data.List.Forall2
import Mathlib.Logic.Function.Basic
import JunctionReplay.Proofs.Json.Schema
import JunctionReplay.Proofs.Keyed

/-!
# Edits of documents that a reader tolerates

A reader expects a shape of a document, and a document may be edited at any place of that shape
without a complaint of the reader: keys that need not be there may be deleted, and keys that mean
nothing may be added.

Shapes are data here, apart from the readers.  `Edit` goes down a document along its shape to one
place and changes one key there; sets of edits are sequences of them.  `Tolerates` is what a reader
makes of an edit, and one lemma for each kind of reader says that it tolerates the edits of its
shape if its parts do, so that a reader put together from parts is done with in one line for each.

A deletion may change what is read, since a default takes the place of what was there; an added key
may not.  Where what is read holds a value that no reader looks into, an added key may still end up
in it, so what an added key has to leave alone is not all that is read but a `view` of it.

## Main Definitions

* `Json.Shape` — what a reader expects at a place.
* `Json.Edit` — a document is edited at one place of a shape.
* `Json.Tolerates` — a reader still reads what was edited.

## Main Statements

* `Json.Tolerates.list`, `Json.Tolerates.nullable`, `Json.tolerates_record` — readers tolerate edits
  if their parts do.
-/

namespace JunctionReplay.Json

/-! ## Shapes and edits -/

/-- A key of a record with the shape of its value. -/
structure Key (σ : Type) where
  name : String
  /-- Whether the key need not be there. -/
  isOptional : Bool
  shape : σ

namespace Key

variable {σ : Type}

/-- A key that has to be there. -/
def required (name : String) (shape : σ) : Key σ := ⟨name, false, shape⟩

/-- A key that need not be there. -/
def optional (name : String) (shape : σ) : Key σ := ⟨name, true, shape⟩

end Key

/-- What a reader expects at a place of a document. -/
inductive Shape where
  /-- A value that is read as a whole. -/
  | scalar
  /-- A value that is kept as it is. -/
  | anything
  | list (item : Shape)
  | nullable (present : Shape)
  /-- An object with these keys, or a list of their values. -/
  | record (keys : List (Key Shape))

/-- A kind of edit. -/
inductive Change where
  /-- Keys that need not be there are deleted. -/
  | drop
  /-- Keys that mean nothing are added. -/
  | add
  deriving DecidableEq

/-- A document is edited at one place of a shape. -/
inductive Edit : Change → Shape → Value → Value → Prop where
  | drop {keys : List (Key Shape)} {name : String} (members : Keyed String Value)
      (optional : ∀ key ∈ keys, key.name = name → key.isOptional) :
      Edit .drop (.record keys) (.object members)
        (.object (members.filter fun member => member.1 ≠ name))
  | add {keys : List (Key Shape)} {name : String} (members : Keyed String Value) (value : Value)
      (unknown : ∀ key ∈ keys, key.name ≠ name) :
      Edit .add (.record keys) (.object members) (.object (members.put name value))
  /-- Below the value of a key. -/
  | member {change : Change} {keys : List (Key Shape)} {key : Key Shape} {value edited : Value}
      (front back : List (String × Value)) (named : keys.find? (·.name = key.name) = some key)
      (edit : Edit change key.shape value edited) :
      Edit change (.record keys) (.object (front ++ (key.name, value) :: back))
        (.object (front ++ (key.name, edited) :: back))
  /-- Below a member that means nothing. -/
  | aside {change : Change} {keys : List (Key Shape)} {name : String} {value edited : Value}
      (front back : List (String × Value)) (unknown : ∀ key ∈ keys, key.name ≠ name)
      (edit : Edit change .anything value edited) :
      Edit change (.record keys) (.object (front ++ (name, value) :: back))
        (.object (front ++ (name, edited) :: back))
  /-- Below the value of a key, in a record that is written as a list. -/
  | entry {change : Change} {keys : List (Key Shape)} {key : Key Shape} {value edited : Value}
      (front back : List Value) (placed : keys[front.length]? = some key)
      (edit : Edit change key.shape value edited) :
      Edit change (.record keys) (.list (front ++ value :: back)) (.list (front ++ edited :: back))
  | item {change : Change} {shape : Shape} {value edited : Value} (front back : List Value)
      (edit : Edit change shape value edited) :
      Edit change (.list shape) (.list (front ++ value :: back)) (.list (front ++ edited :: back))
  | present {change : Change} {shape : Shape} {value edited : Value}
      (edit : Edit change shape value edited) : Edit change (.nullable shape) value edited
  | dropWithin {name : String} (members : Keyed String Value) :
      Edit .drop .anything (.object members)
        (.object (members.filter fun member => member.1 ≠ name))
  | addWithin {name : String} (members : Keyed String Value) (value : Value) :
      Edit .add .anything (.object members) (.object (members.put name value))
  | memberWithin {change : Change} {name : String} {value edited : Value}
      (front back : List (String × Value)) (edit : Edit change .anything value edited) :
      Edit change .anything (.object (front ++ (name, value) :: back))
        (.object (front ++ (name, edited) :: back))
  | itemWithin {change : Change} {value edited : Value} (front back : List Value)
      (edit : Edit change .anything value edited) :
      Edit change .anything (.list (front ++ value :: back)) (.list (front ++ edited :: back))

/-- Objects and lists are edited, and they stay objects and lists. -/
theorem Edit.ne_null {change : Change} {shape : Shape} {value edited : Value}
    (edit : Edit change shape value edited) : value ≠ .null ∧ edited ≠ .null := by
  induction edit with
  | present edit ih => exact ih
  | drop | add | member | aside | entry | item | dropWithin | addWithin | memberWithin
  | itemWithin => exact ⟨nofun, nofun⟩

/-- What an edit of an object does to the value of one of its keys. -/
inductive KeyEdit (change : Change) (key : Key Shape) : Option Value → Option Value → Prop where
  | same (value : Option Value) : KeyEdit change key value value
  | drop (value : Option Value) (isDrop : change = .drop) (optional : key.isOptional) :
      KeyEdit change key value none
  | below {value edited : Value} (edit : Edit change key.shape value edited) :
      KeyEdit change key (some value) (some edited)

/-- An edit leaves the value of a key, deletes an optional key or is an edit below the key. -/
theorem Edit.keyEdit {change : Change} {keys : List (Key Shape)} {value edited : Value}
    (edit : Edit change (.record keys) value edited) (key : Key Shape)
    (named : keys.find? (·.name = key.name) = some key) :
    KeyEdit change key (value.member? key.name) (edited.member? key.name) := by
  have listed : key ∈ keys := List.mem_of_find?_eq_some named
  cases edit with
  | @drop _ name members optional =>
      rw [Value.member?, Value.member?, Keyed.get?_filter_ne]
      by_cases same : name = key.name
      · rw [if_pos same]
        exact .drop _ rfl (optional key listed same.symm)
      · rw [if_neg same]
        exact .same _
  | @add _ name members added unknown =>
      rw [Value.member?, Value.member?, Keyed.get?_put, if_neg (unknown key listed).symm]
      exact .same _
  | @member _ _ other value edited front back namedOther edit =>
      rw [Value.member?, Value.member?, Keyed.get?_append, Keyed.get?_append, Keyed.get?,
        Keyed.get?]
      cases Keyed.get? key.name front with
      | some found => exact .same _
      | none =>
          by_cases same : other.name = key.name
          · rw [if_pos same, if_pos same]
            rw [same, named] at namedOther
            cases namedOther
            exact .below edit
          · rw [if_neg same, if_neg same]
            exact .same _
  | @aside _ _ name value edited front back unknown edit =>
      rw [Value.member?, Value.member?, Keyed.get?_append, Keyed.get?_append, Keyed.get?,
        Keyed.get?, if_neg (unknown key listed).symm, if_neg (unknown key listed).symm]
      exact .same _
  | entry => exact .same none

/-- A key that has to be there is there after an edit if it was before. -/
theorem Edit.isNone_get? {change : Change} {keys : List (Key Shape)} {key : Key Shape}
    {members edited : Keyed String Value}
    (edit : Edit change (.record keys) (.object members) (.object edited)) (listed : key ∈ keys)
    (required : key.isOptional = false) :
    (Keyed.get? key.name edited).isNone = (Keyed.get? key.name members).isNone := by
  cases edit with
  | @drop _ name _ optional =>
      have other : name ≠ key.name := by
        intro same
        rw [optional key listed same.symm] at required
        cases required
      rw [Keyed.get?_filter_ne, if_neg other]
  | add _ _ unknown => rw [Keyed.get?_put, if_neg (unknown key listed).symm]
  | member front back | aside front back =>
      exact Keyed.isNone_get?_append_cons key.name _ _ _ front back

/-! ## What is read before and after -/

section

variable {ε β γ : Type}

/-- What is read before is read after as well, up to a relation. -/
def Follows (alike : β → β → Prop) (before after : Except ε β) : Prop :=
  ∀ read, before = .ok read → ∃ again, after = .ok again ∧ alike read again

variable {alike : β → β → Prop} {alike' : γ → γ → Prop} {before after : Except ε β}

theorem Follows.of_eq (reflexive : ∀ read, alike read read) (same : before = after) :
    Follows alike before after := by
  subst same
  exact fun read isRead => ⟨read, isRead, reflexive read⟩

theorem Follows.ok {read again : β} (related : alike read again) :
    Follows alike (.ok read : Except ε β) (.ok again) := by
  rintro _ ⟨⟩
  exact ⟨again, rfl, related⟩

/-- After a failure anything goes. -/
theorem Follows.error (error : ε) : Follows alike (.error error) after := by
  rintro _ ⟨⟩

theorem Follows.bind {next next' : β → Except ε γ} (follows : Follows alike before after)
    (nexts : ∀ read again, alike read again → Follows alike' (next read) (next' again)) :
    Follows alike' (before >>= next) (after >>= next') := by
  intro read isRead
  cases first : before with
  | error error =>
      rw [first] at isRead
      cases isRead
  | ok value =>
      rw [first] at isRead
      obtain ⟨again, isAgain, related⟩ := follows value first
      rw [isAgain]
      exact nexts value again related read isRead

theorem Follows.map {make make' : β → γ} (follows : Follows alike before after)
    (related : ∀ read again, alike read again → alike' (make read) (make' again)) :
    Follows alike' (before.map make) (after.map make') := by
  intro read isRead
  cases first : before with
  | error error =>
      rw [first] at isRead
      cases isRead
  | ok value =>
      rw [first] at isRead
      cases isRead
      obtain ⟨again, isAgain, relates⟩ := follows value first
      rw [isAgain]
      exact ⟨make' again, rfl, related value again relates⟩

/-- What an edit leaves alone: added keys leave the view of what is read, deleted ones need not. -/
def Change.Keeps (change : Change) (view : β → γ) (read again : β) : Prop :=
  change = .add → view read = view again

theorem Change.Keeps.refl (change : Change) (view : β → γ) (read : β) :
    change.Keeps view read read :=
  fun _ => rfl

theorem Follows.trans_keeps {change : Change} {view : β → γ} {first second third : Except ε β}
    (follows : Follows (change.Keeps view) first second)
    (followsOn : Follows (change.Keeps view) second third) :
    Follows (change.Keeps view) first third := by
  intro read isRead
  obtain ⟨again, isAgain, keeps⟩ := follows read isRead
  obtain ⟨last, isLast, keepsOn⟩ := followsOn again isAgain
  exact ⟨last, isLast, fun added => (keeps added).trans (keepsOn added)⟩

end

/-- A reader of a shape still reads what was edited, and a view of it stays the same if keys were
added. -/
def Tolerates {β γ : Type} (change : Change) (shape : Shape) (decoder : Decoder β)
    (view : β → γ) : Prop :=
  ∀ value edited, Edit change shape value edited →
    Follows (change.Keeps view) (decoder value) (decoder edited)

section

variable {change : Change} {β γ : Type} {shape : Shape} {decoder : Decoder β} {view : β → γ}

/-- A value that is read as a whole has no place for an edit. -/
theorem tolerates_scalar (change : Change) (decoder : Decoder β) (view : β → γ) :
    Tolerates change .scalar decoder view :=
  fun _ _ edit => nomatch edit

/-- A list is read if its items are. -/
theorem follows_mapM {value edited : Value} (front back : List Value)
    (follows : Follows (change.Keeps view) (decoder value) (decoder edited)) :
    Follows (change.Keeps (List.map view)) ((front ++ value :: back).mapM decoder)
      ((front ++ edited :: back).mapM decoder) := by
  induction front with
  | nil =>
      have same : Follows Eq (back.mapM decoder) (back.mapM decoder) :=
        Follows.of_eq (fun _ => rfl) rfl
      rw [List.nil_append, List.nil_append, List.mapM_cons, List.mapM_cons]
      refine follows.bind fun read again keeps => same.bind fun later later' isLater => ?_
      refine Follows.ok fun added => ?_
      rw [List.map_cons, List.map_cons, keeps added, isLater]
  | cons first rest ih =>
      have same : Follows Eq (decoder first) (decoder first) := Follows.of_eq (fun _ => rfl) rfl
      rw [List.cons_append, List.cons_append, List.mapM_cons, List.mapM_cons]
      refine same.bind fun read again isRead => ih.bind fun later later' keeps => ?_
      refine Follows.ok fun added => ?_
      rw [List.map_cons, List.map_cons, isRead, keeps added]

theorem Tolerates.list (tolerates : Tolerates change shape decoder view) :
    Tolerates change (.list shape) (Decoder.list decoder) (List.map view) := by
  intro value edited edit
  cases edit with
  | item front back edit => exact follows_mapM front back (tolerates _ _ edit)

theorem Tolerates.nullable (tolerates : Tolerates change shape decoder view) :
    Tolerates change (.nullable shape) (Decoder.nullable decoder) (Option.map view) := by
  have present (value : Value) (notNull : value ≠ .null) :
      Decoder.nullable decoder value = (decoder value).map some := by
    cases value with
    | null => exact absurd rfl notNull
    | truth | number | text | list | object => rfl
  intro value edited edit
  cases edit with
  | present edit =>
      rw [present value edit.ne_null.1, present edited edit.ne_null.2]
      exact (tolerates value edited edit).map fun read again keeps added =>
        congrArg some (keeps added)

end

/-! ## Records -/

section

variable {change : Change} {β γ δ ζ : Type} {view : δ → ζ}

/-- A field of a record is that of a key, and is entered again after an edit below the key. -/
structure Enters (change : Change) (view : δ → ζ) (key : Key Shape) (field : RecordField δ) :
    Prop where
  name_eq : field.name = key.name
  isRequired_eq : field.isRequired = !key.isOptional
  /-- An edit elsewhere in the record does not keep a value from being entered. -/
  enter_same (value : Value) (entered entered' : δ) : change.Keeps view entered entered' →
    Follows (change.Keeps view) (field.enter value entered) (field.enter value entered')
  enter_edited (value edited : Value) (entered entered' : δ) : Edit change key.shape value edited →
    change.Keeps view entered entered' →
      Follows (change.Keeps view) (field.enter value entered) (field.enter edited entered')

/-- What is put into a record shows in a view of the record only as far as in a view of its own. -/
def Respects (valueView : β → γ) (view : δ → ζ) (put : β → δ → δ) : Prop :=
  ∀ read again entered entered', valueView read = valueView again → view entered = view entered' →
    view (put read entered) = view (put again entered')

/-- All shows in the whole of a record. -/
theorem respects_id {valueView : β → γ} (injective : valueView.Injective) (put : β → δ → δ) :
    Respects valueView id put := by
  intro read again entered entered' sameRead (same : entered = entered')
  rw [injective sameRead, same]

section

variable {shape : Shape} {decoder : Decoder β} {valueView : β → γ} {put : β → δ → δ}

/-- A field whose value is read by a tolerant reader. -/
theorem enters_of_tolerates (tolerates : Tolerates change shape decoder valueView)
    (respects : Respects valueView view put) (name : String) (isOptional : Bool) :
    let enter (value : Value) (entered : δ) := (decoder value).map fun read => put read entered
    Enters change view ⟨name, isOptional, shape⟩ ⟨name, !isOptional, enter⟩ where
  name_eq := rfl
  isRequired_eq := rfl
  enter_same value entered entered' keeps := by
    have same : Follows Eq (decoder value) (decoder value) := Follows.of_eq (fun _ => rfl) rfl
    exact same.map fun read again isRead added =>
      respects read again entered entered' (congrArg valueView isRead) (keeps added)
  enter_edited value edited entered entered' edit keeps :=
    (tolerates value edited edit).map fun read again keepsRead added =>
      respects read again entered entered' (keepsRead added) (keeps added)

theorem Tolerates.required (tolerates : Tolerates change shape decoder valueView)
    (respects : Respects valueView view put) (name : String) :
    Enters change view (.required name shape) (.required name decoder put) :=
  enters_of_tolerates tolerates respects name false

theorem Tolerates.optional (tolerates : Tolerates change shape decoder valueView)
    (respects : Respects valueView view put) (name : String) :
    Enters change view (.optional name shape) (.optional name decoder put) :=
  enters_of_tolerates tolerates respects name true

end

variable {keys : List (Key Shape)} {fields : List (RecordField δ)}

/-- Each field of a record is that of a key, while keys may be passed over. -/
structure Covers (change : Change) (view : δ → ζ) (keys : List (Key Shape))
    (fields : List (RecordField δ)) : Prop where
  find?_field : ∀ {name key}, keys.find? (·.name = name) = some key →
    fields.find? (·.name = name) = none ∨
      ∃ field, fields.find? (·.name = name) = some field ∧ Enters change view key field
  exists_key : ∀ {field}, field ∈ fields → ∃ key ∈ keys, Enters change view key field

/-- Where keys and fields are the same one by one, none is passed over. -/
theorem covers_of_forall₂ (enters : List.Forall₂ (Enters change view) keys fields) :
    Covers change view keys fields := by
  induction enters with
  | nil => exact ⟨nofun, nofun⟩
  | @cons key field _ _ entersField _ ih =>
      constructor
      · intro name found named
        by_cases same : key.name = name
        · have sameField : field.name = name := entersField.name_eq.trans same
          rw [List.find?_cons_of_pos (by simpa using same)] at named
          cases named
          exact Or.inr ⟨field, List.find?_cons_of_pos (by simpa using sameField), entersField⟩
        · have otherField : field.name ≠ name := fun equal => same (entersField.name_eq ▸ equal)
          rw [List.find?_cons_of_neg (by simpa using same)] at named
          rw [List.find?_cons_of_neg (by simpa using otherField)]
          exact ih.find?_field named
      · intro other listed
        rcases List.mem_cons.mp listed with rfl | later
        · exact ⟨key, List.mem_cons_self, entersField⟩
        · obtain ⟨otherKey, isKey, entersOther⟩ := ih.exists_key later
          exact ⟨otherKey, List.mem_cons_of_mem _ isKey, entersOther⟩

/-- A key that no field has is passed over. -/
theorem Covers.cons {key : Key Shape} (covers : Covers change view keys fields)
    (passedOver : ∀ field ∈ fields, field.name ≠ key.name) :
    Covers change view (key :: keys) fields where
  find?_field {name found} named := by
    by_cases same : key.name = name
    · subst same
      exact Or.inl (by simpa using passedOver)
    · rw [List.find?_cons_of_neg (by simpa using same)] at named
      exact covers.find?_field named
  exists_key listed := by
    obtain ⟨found, isKey, entersField⟩ := covers.exists_key listed
    exact ⟨found, List.mem_cons_of_mem _ isKey, entersField⟩

/-! ### Records that are written as objects -/

section

variable (covers : Covers change view keys fields)

include covers

theorem follows_enterMember {entered entered' : δ} (keeps : change.Keeps view entered entered')
    (member : String × Value) :
    Follows (change.Keeps view) (enterMember fields entered member)
      (enterMember fields entered' member) := by
  unfold enterMember
  cases found : fields.find? fun field => field.name = member.1 with
  | none => exact Follows.ok keeps
  | some field =>
      obtain ⟨key, -, entersField⟩ := covers.exists_key (List.mem_of_find?_eq_some found)
      exact entersField.enter_same member.2 entered entered' keeps

theorem follows_foldlM {entered entered' : δ} (keeps : change.Keeps view entered entered')
    (members : List (String × Value)) :
    Follows (change.Keeps view) (members.foldlM (enterMember fields) entered)
      (members.foldlM (enterMember fields) entered') := by
  induction members generalizing entered entered' with
  | nil => exact Follows.ok keeps
  | cons member rest ih =>
      rw [List.foldlM_cons, List.foldlM_cons]
      exact (follows_enterMember covers keeps member).bind fun _ _ => ih

theorem follows_foldlM_edited {name : String} {value edited : Value}
    (front back : List (String × Value)) (entered : δ)
    (followsMember : ∀ before before', change.Keeps view before before' →
      Follows (change.Keeps view) (enterMember fields before (name, value))
        (enterMember fields before' (name, edited))) :
    Follows (change.Keeps view)
      ((front ++ (name, value) :: back).foldlM (enterMember fields) entered)
      ((front ++ (name, edited) :: back).foldlM (enterMember fields) entered) := by
  rw [List.foldlM_append, List.foldlM_append]
  refine (follows_foldlM covers (Change.Keeps.refl change view entered) front).bind ?_
  intro before before' keeps
  rw [List.foldlM_cons, List.foldlM_cons]
  exact (followsMember before before' keeps).bind fun _ _ keepsMember =>
    follows_foldlM covers keepsMember back

theorem follows_enterMember_edited {key : Key Shape} {value edited : Value} {before before' : δ}
    (named : keys.find? (·.name = key.name) = some key) (edit : Edit change key.shape value edited)
    (keeps : change.Keeps view before before') :
    Follows (change.Keeps view) (enterMember fields before (key.name, value))
      (enterMember fields before' (key.name, edited)) := by
  rw [enterMember, enterMember]
  rcases covers.find?_field named with passedOver | ⟨field, found, entersField⟩
  · simp only [passedOver]
    exact Follows.ok keeps
  · simp only [found]
    exact entersField.enter_edited value edited before before' edit keeps

/-- What no key names, no field names. -/
theorem Covers.unknown {name : String} (unknown : ∀ key ∈ keys, key.name ≠ name) :
    ∀ field ∈ fields, field.name ≠ name := by
  intro field listed
  obtain ⟨key, isKey, entersField⟩ := covers.exists_key listed
  exact entersField.name_eq ▸ unknown key isKey

/-- Members that are left out do not keep others from being entered. -/
theorem follows_foldlM_filter (isDrop : change = .drop) (left : String × Value → Bool)
    (members : List (String × Value)) (entered entered' : δ) :
    Follows (change.Keeps view) (members.foldlM (enterMember fields) entered)
      ((members.filter left).foldlM (enterMember fields) entered') := by
  have keeps (read again : δ) : change.Keeps view read again := by
    intro added
    rw [isDrop] at added
    cases added
  induction members generalizing entered entered' with
  | nil => exact Follows.ok (keeps _ _)
  | cons member rest ih =>
      rw [List.foldlM_cons, List.filter_cons]
      cases left member with
      | true =>
          rw [if_pos rfl, List.foldlM_cons]
          have followsMember := follows_enterMember covers (keeps entered entered') member
          exact followsMember.bind fun _ _ _ => ih _ _
      | false =>
          rw [if_neg Bool.false_ne_true]
          intro read isRead
          cases first : enterMember fields entered member with
          | error error =>
              rw [first] at isRead
              cases isRead
          | ok next =>
              rw [first] at isRead
              exact ih next entered' read isRead

omit covers in
/-- An object is read if its members are entered and none that has to be there is missing. -/
theorem follows_record_object {members edited : Keyed String Value} (name : String) (default : δ)
    (follows : Follows (change.Keeps view) (members.foldlM (enterMember fields) default)
      (edited.foldlM (enterMember fields) default))
    (sameMissing : ∀ field ∈ fields, field.isRequired →
      (Keyed.get? field.name edited).isNone = (Keyed.get? field.name members).isNone) :
    Follows (change.Keeps view) (record name fields default (.object members))
      (record name fields default (.object edited)) := by
  refine follows.bind fun read again keeps => ?_
  rw [missingField?_congr sameMissing]
  cases missingField? fields members with
  | none => exact Follows.ok keeps
  | some field =>
      intro last isLast
      cases isLast

/-- A field that has to be there is there after an edit if it was before. -/
theorem Covers.isNone_get? {members edited : Keyed String Value} {field : RecordField δ}
    (edit : Edit change (.record keys) (.object members) (.object edited)) (listed : field ∈ fields)
    (required : field.isRequired) :
    (Keyed.get? field.name edited).isNone = (Keyed.get? field.name members).isNone := by
  obtain ⟨key, isKey, entersField⟩ := covers.exists_key listed
  have requiredKey : key.isOptional = false := by
    simpa using entersField.isRequired_eq.symm.trans required
  rw [entersField.name_eq]
  exact edit.isNone_get? isKey requiredKey

/-- An object is read after an edit if the fields of the record tolerate it. -/
theorem Covers.follows_object (name : String) (default : δ) {members : Keyed String Value}
    {edited : Value} (edit : Edit change (.record keys) (.object members) edited) :
    Follows (change.Keeps view) (record name fields default (.object members))
      (record name fields default edited) := by
  have whole := edit
  cases edit with
  | drop =>
      refine follows_record_object name default
        (follows_foldlM_filter covers rfl _ members default default) ?_
      exact fun field => covers.isNone_get? whole
  | add _ value unknown =>
      exact Follows.of_eq (Change.Keeps.refl _ view)
        (record_put_unknown name default (covers.unknown unknown) value members).symm
  | member front back named below =>
      refine follows_record_object name default (follows_foldlM_edited covers front back default
        fun _ _ => follows_enterMember_edited covers named below) ?_
      exact fun field => covers.isNone_get? whole
  | aside front back unknown below =>
      refine follows_record_object name default (follows_foldlM_edited covers front back default
        fun before before' keeps => ?_) ?_
      · rw [enterMember_of_unknown (covers.unknown unknown),
          enterMember_of_unknown (covers.unknown unknown)]
        exact Follows.ok keeps
      · exact fun field => covers.isNone_get? whole

end

/-! ### Records that are written as lists -/

section

variable (enters : List.Forall₂ (Enters change view) keys fields)

include enters

theorem follows_enterItems {entered entered' : δ} (keeps : change.Keeps view entered entered')
    (tooShort tooLong tooShort' tooLong' : ShapeError) (items : List Value) :
    Follows (change.Keeps view) (enterItems tooShort tooLong fields items entered)
      (enterItems tooShort' tooLong' fields items entered') := by
  induction enters generalizing items entered entered' with
  | nil =>
      cases items with
      | nil => exact Follows.ok keeps
      | cons first rest => exact Follows.error _
  | @cons key field _ _ entersField _ ih =>
      cases items with
      | nil =>
          rw [enterItems, enterItems]
          split
          · exact Follows.error _
          · exact ih keeps []
      | cons first rest =>
          rw [enterItems, enterItems]
          exact (entersField.enter_same first entered entered' keeps).bind fun _ _ keepsNext =>
            ih keepsNext rest

theorem follows_enterItems_edited {key : Key Shape} {value edited : Value} {entered entered' : δ}
    (front back : List Value) (placed : keys[front.length]? = some key)
    (edit : Edit change key.shape value edited) (keeps : change.Keeps view entered entered')
    (tooShort tooLong tooShort' tooLong' : ShapeError) :
    Follows (change.Keeps view)
      (enterItems tooShort tooLong fields (front ++ value :: back) entered)
      (enterItems tooShort' tooLong' fields (front ++ edited :: back) entered') := by
  induction front generalizing keys fields entered entered' with
  | nil =>
      cases enters with
      | nil => cases placed
      | cons entersField entersRest =>
          cases placed
          rw [List.nil_append, List.nil_append, enterItems, enterItems]
          exact (entersField.enter_edited value edited entered entered' edit keeps).bind
            fun _ _ keepsNext =>
              follows_enterItems entersRest keepsNext tooShort tooLong tooShort' tooLong' back
  | cons first rest ih =>
      cases enters with
      | nil => cases placed
      | cons entersField entersRest =>
          rw [List.length_cons, List.getElem?_cons_succ] at placed
          rw [List.cons_append, List.cons_append, enterItems, enterItems]
          exact (entersField.enter_same first entered entered' keeps).bind fun _ _ keepsNext =>
            ih entersRest placed keepsNext

/-- A record tolerates the edits of its shape if its fields do. -/
theorem tolerates_record (name : String) (default : δ) :
    Tolerates change (.record keys) (record name fields default) view := by
  intro value edited edit
  cases value with
  | object members => exact (covers_of_forall₂ enters).follows_object name default edit
  | list items =>
      cases edit with
      | entry front back placed edit =>
          exact follows_enterItems_edited enters front back placed edit
            (Change.Keeps.refl change view default) _ _ _ _
  | null | truth | number | text => cases edit

end

end

end JunctionReplay.Json
