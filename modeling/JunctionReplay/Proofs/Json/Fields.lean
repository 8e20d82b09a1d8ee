import JunctionReplay.Proofs.Json.Edits
import JunctionReplay.Proofs.Json.WellFormed

/-!
# Single fields of a record

A record is read from the members of an object or from the items of a list, and what it holds for
one of its fields depends on one of them alone: the member with the name of the field, or the item
at its place.  Here this is shown for a field in the midst of others, in two ways.  A record that
was read holds for the field what its decoder makes of that value, or the default; and if that value
alone is edited, the record that is read is as much like the one before as the decoder's result is.

Both need the same of the fields: the one at a place has a name that no other has, and the others
leave alone what it is about.

## Main Definitions

* `Json.Value.field?`, `Json.Value.mapField` — the value of a field, and a value in which it is
  edited.
* `Json.FieldAt` — one field at a place among others.

## Main Statements

* `Json.readFrom_of_record` — what a record holds for a field.
* `Json.exists_field?_of_record` — the same for a field that has to be there.
* `Json.follows_record_mapField` — what is read after an edit of the value of a field.
-/

namespace JunctionReplay.Json

section Success

variable {ε α β : Type} {first : Except ε α}

/-- Work in two steps succeeds if both do. -/
theorem exists_of_bind_eq_ok {next : α → Except ε β} {result : β}
    (succeeds : first >>= next = .ok result) :
    ∃ value, first = .ok value ∧ next value = .ok result := by
  cases first with
  | error error => cases succeeds
  | ok value => exact ⟨value, rfl, succeeds⟩

theorem exists_of_map_eq_ok {make : α → β} {result : β} (succeeds : first.map make = .ok result) :
    ∃ value, first = .ok value ∧ make value = result := by
  cases first with
  | error error => cases succeeds
  | ok value => exact ⟨value, rfl, Except.ok.inj succeeds⟩

end Success

namespace Value

/-- The value of a field: the member with its name, or the item at its place. -/
def field? (place : Nat) (name : String) : Value → Option Value
  | .object members => Keyed.get? name members
  | .list items => items[place]?
  | _ => none

/-- An object in which the value of a member is edited. -/
def mapMember (name : String) (edit : Value → Value) : Value → Value
  | .object members =>
    .object (members.map fun member => if member.1 = name then (name, edit member.2) else member)
  | other => other

/-- A record in which the value of a field is edited. -/
def mapField (place : Nat) (name : String) (edit : Value → Value) : Value → Value
  | .list items => .list (items.modify place edit)
  | other => other.mapMember name edit

end Value

/-- The value of a field is well-formed if the whole is. -/
theorem Value.WellFormed.of_field? {place : Nat} {name : String} {value inner : Value}
    (wellFormed : value.WellFormed) (found : value.field? place name = some inner) :
    inner.WellFormed := by
  cases value with
  | object members => exact wellFormed.of_get? found
  | list items => exact wellFormed.of_mem_list (List.mem_of_getElem? found)
  | null | truth | number | text => cases found

/-- In a list of fields one is at a place, and all others are elsewhere. -/
inductive FieldAt {δ : Type} (isField isOther : RecordField δ → Prop) :
    (place : Nat) → List (RecordField δ) → Prop where
  | here {field : RecordField δ} {rest : List (RecordField δ)} (this : isField field)
      (others : ∀ other ∈ rest, isOther other) : FieldAt isField isOther 0 (field :: rest)
  | later {place : Nat} {other : RecordField δ} {rest : List (RecordField δ)}
      (passed : isOther other) (below : FieldAt isField isOther place rest) :
      FieldAt isField isOther (place + 1) (other :: rest)

section

variable {β δ : Type} {place : Nat} {name : String} {fields : List (RecordField δ)}

namespace FieldAt

variable {isField isOther : RecordField δ → Prop}

theorem isField_or_isOther (fieldAt : FieldAt isField isOther place fields)
    {field : RecordField δ} (listed : field ∈ fields) : isField field ∨ isOther field := by
  induction fieldAt with
  | here this others =>
      rcases List.mem_cons.mp listed with rfl | later
      · exact Or.inl this
      · exact Or.inr (others field later)
  | later passed _ ih =>
      rcases List.mem_cons.mp listed with rfl | later
      · exact Or.inr passed
      · exact ih later

/-- What a name finds is the field at the place if that is its name. -/
theorem isField_of_find? (fieldAt : FieldAt isField isOther place fields)
    (name_ne : ∀ {field}, isOther field → field.name ≠ name) {field : RecordField δ}
    (found : fields.find? (fun field => field.name = name) = some field) : isField field := by
  have named : field.name = name := by simpa using List.find?_some found
  rcases fieldAt.isField_or_isOther (List.mem_of_find?_eq_some found) with this | other
  · exact this
  · exact absurd named (name_ne other)

/-- What another name finds is another field. -/
theorem isOther_of_find? (fieldAt : FieldAt isField isOther place fields)
    (name_eq : ∀ {field}, isField field → field.name = name) {key : String} (key_ne : key ≠ name)
    {field : RecordField δ} (found : fields.find? (fun field => field.name = key) = some field) :
    isOther field := by
  have named : field.name = key := by simpa using List.find?_some found
  rcases fieldAt.isField_or_isOther (List.mem_of_find?_eq_some found) with this | other
  · exact absurd (named.symm.trans (name_eq this)) key_ne
  · exact other

theorem exists_isField (fieldAt : FieldAt isField isOther place fields) :
    ∃ field ∈ fields, isField field := by
  induction fieldAt with
  | here this _ => exact ⟨_, List.mem_cons_self, this⟩
  | later _ _ ih =>
      obtain ⟨field, listed, this⟩ := ih
      exact ⟨field, List.mem_cons_of_mem _ listed, this⟩

theorem imp {isField' : RecordField δ → Prop} (fieldAt : FieldAt isField isOther place fields)
    (weaken : ∀ {field}, isField field → isField' field) :
    FieldAt isField' isOther place fields := by
  induction fieldAt with
  | here this others => exact .here (weaken this) others
  | later passed _ ih => exact .later passed ih

end FieldAt

/-! ## What a record holds -/

/-- What is read of a value, or the default if there is none. -/
def ReadFrom (decoder : Decoder β) (default : β) : Option Value → β → Prop
  | some value, read => decoder value = .ok read
  | none, read => read = default

variable (name) in
/-- A field has a name, and its value is all that counts for a part of the record. -/
structure Sets (decoder : Decoder β) (get : δ → β) (field : RecordField δ) : Prop where
  name_eq : field.name = name
  enter_eq : ∀ {value before after}, field.enter value before = .ok after →
    decoder value = .ok (get after)

variable (name) in
/-- A field has another name, and its value does not count for a part of the record. -/
structure Leaves (get : δ → β) (field : RecordField δ) : Prop where
  name_ne : field.name ≠ name
  enter_eq : ∀ {value before after}, field.enter value before = .ok after → get after = get before

section Entered

variable {γ : Type} {decoder : Decoder γ} {put : γ → δ → δ} {get : δ → β}

/-- A value that is put into a record is what the record holds. -/
theorem sets_of_put {get : δ → γ} (isRequired : Bool)
    (get_put : ∀ read record, get (put read record) = read) :
    Sets name decoder get
      ⟨name, isRequired, fun value record => (decoder value).map fun read => put read record⟩ where
  name_eq := rfl
  enter_eq {value before after} entered := by
    obtain ⟨read, isRead, rfl⟩ := exists_of_map_eq_ok entered
    rw [isRead, get_put]

/-- A value that is put elsewhere does not count. -/
theorem leaves_of_put {other : String} (isRequired : Bool) (name_ne : other ≠ name)
    (get_put : ∀ read record, get (put read record) = get record) :
    Leaves name get
      ⟨other, isRequired, fun value record => (decoder value).map fun read => put read record⟩ where
  name_ne := name_ne
  enter_eq {value before after} entered := by
    obtain ⟨read, -, rfl⟩ := exists_of_map_eq_ok entered
    exact get_put read before

end Entered

section Record

variable {decoder : Decoder β} {get : δ → β} {before after : δ}
  (fieldAt : FieldAt (Sets name decoder get) (Leaves name get) place fields)

include fieldAt

theorem decoder_of_enterMember {value : Value}
    (entered : enterMember fields before (name, value) = .ok after) :
    decoder value = .ok (get after) := by
  unfold enterMember at entered
  split at entered
  next field found =>
    exact (fieldAt.isField_of_find? Leaves.name_ne found).enter_eq entered
  next notFound =>
    obtain ⟨field, listed, this⟩ := fieldAt.exists_isField
    have absent := List.find?_eq_none.mp notFound field listed
    simp [this.name_eq] at absent

theorem get_enterMember {member : String × Value} (name_ne : member.1 ≠ name)
    (entered : enterMember fields before member = .ok after) : get after = get before := by
  unfold enterMember at entered
  split at entered
  next field found =>
    exact (fieldAt.isOther_of_find? Sets.name_eq name_ne found).enter_eq entered
  next =>
    cases entered
    rfl

theorem get_foldlM_of_absent {members : Keyed String Value}
    (absent : Keyed.get? name members = none)
    (entered : members.foldlM (enterMember fields) before = .ok after) :
    get after = get before := by
  induction members generalizing before with
  | nil =>
      cases entered
      rfl
  | cons member rest ih =>
      rw [Keyed.get?] at absent
      split at absent
      next => cases absent
      next name_ne =>
        rw [List.foldlM_cons] at entered
        obtain ⟨next, first, further⟩ := exists_of_bind_eq_ok entered
        exact (ih absent further).trans (get_enterMember fieldAt name_ne first)

/-- Of an object in order the member with the name of the field is what counts. -/
theorem readFrom_of_foldlM {members : Keyed String Value} (sorted : Keyed.Sorted members)
    (entered : members.foldlM (enterMember fields) before = .ok after) :
    ReadFrom decoder (get before) (Keyed.get? name members) (get after) := by
  induction members generalizing before with
  | nil =>
      cases entered
      rfl
  | cons member rest ih =>
      obtain ⟨above, sortedRest⟩ := List.pairwise_cons.mp sorted
      rw [List.foldlM_cons] at entered
      obtain ⟨next, first, further⟩ := exists_of_bind_eq_ok entered
      rw [Keyed.get?]
      split
      next named =>
        obtain ⟨key, value⟩ := member
        subst named
        have isRead := decoder_of_enterMember fieldAt first
        -- No member behind has the name once more.
        have absent : Keyed.get? key rest = none := by
          by_contra present
          obtain ⟨other, found⟩ := Option.ne_none_iff_exists'.mp present
          have member := (Keyed.Sorted.mem_iff sortedRest key other).mpr found
          exact Std.Irrefl.irrefl key (above (key, other) member)
        show decoder value = .ok (get after)
        rw [isRead, get_foldlM_of_absent fieldAt absent further]
      next name_ne =>
        rw [← get_enterMember fieldAt name_ne first]
        exact ih sortedRest further

omit fieldAt in
theorem get_enterItems (leave : ∀ field ∈ fields, Leaves name get field)
    {tooShort tooLong : ShapeError} {items : List Value}
    (entered : enterItems tooShort tooLong fields items before = .ok after) :
    get after = get before := by
  induction fields generalizing items before with
  | nil =>
      cases items with
      | nil =>
          cases entered
          rfl
      | cons value rest => cases entered
  | cons field fields ih =>
      obtain ⟨leaves, leaveRest⟩ := List.forall_mem_cons.mp leave
      cases items with
      | nil =>
          rw [enterItems] at entered
          split at entered
          · cases entered
          · exact ih leaveRest entered
      | cons value rest =>
          rw [enterItems] at entered
          obtain ⟨next, first, further⟩ := exists_of_bind_eq_ok entered
          exact (ih leaveRest further).trans (leaves.enter_eq first)

/-- Of a list the item at the place of the field is what counts. -/
theorem readFrom_of_enterItems {tooShort tooLong : ShapeError} {items : List Value}
    (entered : enterItems tooShort tooLong fields items before = .ok after) :
    ReadFrom decoder (get before) items[place]? (get after) := by
  induction fieldAt generalizing items before with
  | here this others =>
      cases items with
      | nil =>
          rw [enterItems] at entered
          split at entered
          · cases entered
          · exact get_enterItems others entered
      | cons value rest =>
          rw [enterItems] at entered
          obtain ⟨next, first, further⟩ := exists_of_bind_eq_ok entered
          show decoder value = .ok (get after)
          rw [this.enter_eq first, get_enterItems others further]
  | later passed _ ih =>
      cases items with
      | nil =>
          rw [enterItems] at entered
          split at entered
          · cases entered
          · exact ih entered
      | cons value rest =>
          rw [enterItems] at entered
          obtain ⟨next, first, further⟩ := exists_of_bind_eq_ok entered
          rw [← passed.enter_eq first, List.getElem?_cons_succ]
          exact ih further

/-- **What a record holds for a field.**  It is what is read of the value of the field, or the
default if there is no such value. -/
theorem readFrom_of_record {kind : String} {default : δ} {value : Value}
    (wellFormed : value.WellFormed) (isRead : record kind fields default value = .ok after) :
    ReadFrom decoder (get default) (value.field? place name) (get after) := by
  cases value with
  | object members =>
      rw [record] at isRead
      obtain ⟨read, entered, complete⟩ := exists_of_bind_eq_ok isRead
      have same : read = after := by
        split at complete
        · cases complete
        · exact Except.ok.inj complete
      subst same
      exact readFrom_of_foldlM fieldAt wellFormed.sorted entered
  | list items => exact readFrom_of_enterItems fieldAt isRead
  | null | truth | number | text => cases isRead

/-- The same for a record that may not be there. -/
theorem ReadFrom.field {kind : String} {default : δ} {value : Option Value}
    (isRead : ReadFrom (record kind fields default) default value after)
    (wellFormed : ∀ found ∈ value, found.WellFormed) :
    ReadFrom decoder (get default) (value.bind (·.field? place name)) (get after) := by
  cases value with
  | none =>
      obtain rfl : after = default := isRead
      exact rfl
  | some found => exact readFrom_of_record fieldAt (wellFormed found rfl) isRead

end Record

/-! ## Fields that have to be there -/

variable (name) in
/-- A field has a name and has to be there, and its value is all that counts for a part of the
record. -/
structure Requires (decoder : Decoder β) (get : δ → β) (field : RecordField δ) : Prop
    extends Sets name decoder get field where
  isRequired : field.isRequired

theorem requires_of_put {decoder : Decoder β} {put : β → δ → δ} {get : δ → β}
    (get_put : ∀ read record, get (put read record) = read) :
    Requires name decoder get (.required name decoder put) where
  toSets := sets_of_put true get_put
  isRequired := rfl

section Required

variable {decoder : Decoder β} {get : δ → β} {before after : δ}
  (fieldAt : FieldAt (Requires name decoder get) (Leaves name get) place fields)

include fieldAt

theorem exists_get?_of_missingField? {members : Keyed String Value}
    (complete : missingField? fields members = none) :
    ∃ inner, Keyed.get? name members = some inner := by
  obtain ⟨field, listed, this⟩ := fieldAt.exists_isField
  have present := List.find?_eq_none.mp complete field listed
  rw [this.isRequired, this.name_eq, Bool.true_and] at present
  exact Option.ne_none_iff_exists'.mp (mt Option.isNone_iff_eq_none.mpr present)

theorem exists_getElem?_of_enterItems {tooShort tooLong : ShapeError} {items : List Value}
    (entered : enterItems tooShort tooLong fields items before = .ok after) :
    ∃ inner, items[place]? = some inner := by
  induction fieldAt generalizing items before with
  | here this _ =>
      cases items with
      | nil =>
          rw [enterItems, if_pos this.isRequired] at entered
          cases entered
      | cons value rest => exact ⟨value, rfl⟩
  | later _ _ ih =>
      cases items with
      | nil =>
          rw [enterItems] at entered
          split at entered
          · cases entered
          · exact ih entered
      | cons value rest =>
          rw [enterItems] at entered
          obtain ⟨next, -, further⟩ := exists_of_bind_eq_ok entered
          exact ih further

/-- **What a record holds for a field that has to be there.**  There is a value of the field, and
the record holds what is read of it. -/
theorem exists_field?_of_record {kind : String} {default : δ} {value : Value}
    (wellFormed : value.WellFormed) (isRead : record kind fields default value = .ok after) :
    ∃ inner, value.field? place name = some inner ∧ decoder inner = .ok (get after) := by
  have present : ∃ inner, value.field? place name = some inner := by
    cases value with
    | object members =>
        rw [record] at isRead
        obtain ⟨read, -, complete⟩ := exists_of_bind_eq_ok isRead
        split at complete
        next => cases complete
        next noneMissing => exact exists_get?_of_missingField? fieldAt noneMissing
    | list items => exact exists_getElem?_of_enterItems fieldAt isRead
    | null | truth | number | text => cases isRead
  obtain ⟨inner, found⟩ := present
  have readFrom := readFrom_of_record (fieldAt.imp Requires.toSets) wellFormed isRead
  rw [found] at readFrom
  exact ⟨inner, found, readFrom⟩

end Required

/-! ## Edits of a field -/

variable (name) in
/-- A field has a name, and some values may be edited. -/
structure Edits (alike : δ → δ → Prop) (isEdited : Value → Prop) (edit : Value → Value)
    (field : RecordField δ) : Prop where
  name_eq : field.name = name
  follows : ∀ {value before before'}, isEdited value → alike before before' →
    Follows alike (field.enter value before) (field.enter (edit value) before')

variable (name) in
/-- A field has another name, and its values make like records of like ones. -/
structure Carries (alike : δ → δ → Prop) (field : RecordField δ) : Prop where
  name_ne : field.name ≠ name
  follows : ∀ {value before before'}, alike before before' →
    Follows alike (field.enter value before) (field.enter value before')

section Edited

variable {γ : Type} {decoder : Decoder γ} {put : γ → δ → δ} {alike : δ → δ → Prop}

theorem edits_of_put (isRequired : Bool) {isEdited : Value → Prop} {edit : Value → Value}
    {alikeRead : γ → γ → Prop}
    (follows : ∀ value, isEdited value → Follows alikeRead (decoder value) (decoder (edit value)))
    (alike_put : ∀ {read again record record'}, alikeRead read again → alike record record' →
      alike (put read record) (put again record')) :
    Edits name alike isEdited edit
      ⟨name, isRequired, fun value record => (decoder value).map fun read => put read record⟩ where
  name_eq := rfl
  follows edited related :=
    (follows _ edited).map fun _ _ relatedRead => alike_put relatedRead related

theorem carries_of_put {other : String} (isRequired : Bool) (name_ne : other ≠ name)
    (alike_put : ∀ {read record record'}, alike record record' →
      alike (put read record) (put read record')) :
    Carries name alike
      ⟨other, isRequired, fun value record => (decoder value).map fun read => put read record⟩ where
  name_ne := name_ne
  follows {value before before'} related := by
    have same : Follows Eq (decoder value) (decoder value) := Follows.of_eq (fun _ => rfl) rfl
    refine same.map ?_
    rintro read _ rfl
    exact alike_put related

end Edited

section EditedRecord

variable {alike : δ → δ → Prop} {isEdited : Value → Prop} {edit : Value → Value}
  {before before' : δ}
  (fieldAt : FieldAt (Edits name alike isEdited edit) (Carries name alike) place fields)

include fieldAt

/-- A member is entered as it was before the edit. -/
theorem follows_enterMember_mapped {member : String × Value}
    (edited : member.1 = name → isEdited member.2) (related : alike before before') :
    Follows alike (enterMember fields before member)
      (enterMember fields before'
        (if member.1 = name then (name, edit member.2) else member)) := by
  obtain ⟨key, value⟩ := member
  by_cases named : key = name
  · subst named
    rw [if_pos rfl, enterMember, enterMember]
    cases found : fields.find? fun field => field.name = key with
    | none => exact Follows.ok related
    | some field =>
        have this := fieldAt.isField_of_find? Carries.name_ne found
        exact this.follows (edited rfl) related
  · rw [if_neg named, enterMember, enterMember]
    cases found : fields.find? fun field => field.name = key with
    | none => exact Follows.ok related
    | some field =>
        have other := fieldAt.isOther_of_find? Edits.name_eq named found
        exact other.follows related

theorem follows_foldlM_mapped {members : List (String × Value)}
    (edited : ∀ member ∈ members, member.1 = name → isEdited member.2)
    (related : alike before before') :
    Follows alike (members.foldlM (enterMember fields) before)
      ((members.map fun member => if member.1 = name then (name, edit member.2) else member).foldlM
        (enterMember fields) before') := by
  induction members generalizing before before' with
  | nil => exact Follows.ok related
  | cons member rest ih =>
      obtain ⟨editedFirst, editedRest⟩ := List.forall_mem_cons.mp edited
      rw [List.map_cons, List.foldlM_cons, List.foldlM_cons]
      exact (follows_enterMember_mapped fieldAt editedFirst related).bind fun _ _ relatedNext =>
        ih editedRest relatedNext

omit fieldAt in
theorem follows_enterItems_same (carry : ∀ field ∈ fields, Carries name alike field)
    (related : alike before before') (tooShort tooLong tooShort' tooLong' : ShapeError)
    (items : List Value) :
    Follows alike (enterItems tooShort tooLong fields items before)
      (enterItems tooShort' tooLong' fields items before') := by
  induction fields generalizing items before before' with
  | nil =>
      cases items with
      | nil => exact Follows.ok related
      | cons value rest => exact Follows.error _
  | cons field fields ih =>
      obtain ⟨carries, carryRest⟩ := List.forall_mem_cons.mp carry
      cases items with
      | nil =>
          rw [enterItems, enterItems]
          split
          · exact Follows.error _
          · exact ih carryRest related []
      | cons value rest =>
          rw [enterItems, enterItems]
          exact (carries.follows related).bind fun _ _ relatedNext =>
            ih carryRest relatedNext rest

theorem follows_enterItems_modified {items : List Value}
    (edited : ∀ value, items[place]? = some value → isEdited value) (related : alike before before')
    (tooShort tooLong tooShort' tooLong' : ShapeError) :
    Follows alike (enterItems tooShort tooLong fields items before)
      (enterItems tooShort' tooLong' fields (items.modify place edit) before') := by
  induction fieldAt generalizing items before before' with
  | here this others =>
      cases items with
      | nil =>
          rw [List.modify_nil, enterItems, enterItems]
          split
          · exact Follows.error _
          · exact follows_enterItems_same others related _ _ _ _ []
      | cons value rest =>
          rw [List.modify_zero_cons, enterItems, enterItems]
          exact (this.follows (edited value rfl) related).bind fun _ _ relatedNext =>
            follows_enterItems_same others relatedNext _ _ _ _ rest
  | @later below _ _ passed _ ih =>
      cases items with
      | nil =>
          have absent : ∀ value, ([] : List Value)[below]? = some value → isEdited value := by
            intro value found
            cases found
          rw [List.modify_nil, enterItems, enterItems]
          split
          · exact Follows.error _
          · simpa using ih absent related
      | cons value rest =>
          rw [List.modify_succ_cons, enterItems, enterItems]
          exact (passed.follows related).bind fun _ _ relatedNext => ih edited relatedNext

end EditedRecord

/-- An edit of the values of a name shows in the look-up of that name alone. -/
theorem get?_mapMember (edit : Value → Value) (key : String) (members : Keyed String Value) :
    Keyed.get? key
        (members.map fun member => if member.1 = name then (name, edit member.2) else member) =
      if key = name then (Keyed.get? key members).map edit else Keyed.get? key members := by
  induction members with
  | nil =>
      split <;> rfl
  | cons member rest ih =>
      rw [List.map_cons, Keyed.get?, Keyed.get?, ih]
      by_cases named : member.1 = name
      · rw [if_pos named, ← named]
        by_cases same : member.1 = key
        · simp [same]
        · simp [same]
      · rw [if_neg named]
        by_cases same : member.1 = key
        · have other : key ≠ name := same ▸ named
          simp [same, other]
        · simp [same]

/-- An edit of values leaves open which names are there. -/
theorem isNone_get?_mapMember (edit : Value → Value) (key : String)
    (members : Keyed String Value) :
    (Keyed.get? key (members.map fun member =>
        if member.1 = name then (name, edit member.2) else member)).isNone =
      (Keyed.get? key members).isNone := by
  rw [get?_mapMember]
  split
  · exact Option.isNone_map
  · rfl

section

variable (edit : Value → Value) (value : Value)

theorem Value.member?_mapMember :
    (value.mapMember name edit).member? name = (value.member? name).map edit := by
  cases value with
  | object members => exact (get?_mapMember edit name members).trans (if_pos rfl)
  | null | truth | number | text | list => rfl

theorem Value.member?_mapMember_of_ne {key : String} (other : key ≠ name) :
    (value.mapMember name edit).member? key = value.member? key := by
  cases value with
  | object members => exact (get?_mapMember edit key members).trans (if_neg other)
  | null | truth | number | text | list => rfl

theorem Value.member?_mapField_of_ne {key : String} (place : Nat) (other : key ≠ name) :
    (value.mapField place name edit).member? key = value.member? key := by
  cases value with
  | object members => exact member?_mapMember_of_ne edit (.object members) other
  | null | truth | number | text | list => rfl

end

/-- **A record with an edited field.**  Where the value of a field is edited, the record that is
read is like the one before. -/
theorem follows_record_mapField {alike : δ → δ → Prop} {edit : Value → Value} {kind : String}
    {default : δ} {value : Value} (wellFormed : value.WellFormed)
    (fieldAt : FieldAt (Edits name alike (fun inner => value.field? place name = some inner) edit)
      (Carries name alike) place fields) (related : alike default default) :
    Follows alike (record kind fields default value)
      (record kind fields default (value.mapField place name edit)) := by
  cases value with
  | object members =>
      have edited : ∀ member ∈ members, member.1 = name →
          (Value.object members).field? place name = some member.2 := by
        rintro ⟨key, inner⟩ listed rfl
        exact (wellFormed.sorted.mem_iff key inner).mp listed
      refine (follows_foldlM_mapped fieldAt edited related).bind fun read again relatedRead => ?_
      have missing : missingField? fields
          (members.map fun member => if member.1 = name then (name, edit member.2) else member) =
          missingField? fields members :=
        missingField?_congr fun field _ _ => isNone_get?_mapMember edit field.name members
      rw [missing]
      cases missingField? fields members with
      | none => exact Follows.ok relatedRead
      | some field => exact Follows.error _
  | list items => exact follows_enterItems_modified fieldAt (fun _ => id) related _ _ _ _
  | null | truth | number | text => exact Follows.error _

end

end JunctionReplay.Json
