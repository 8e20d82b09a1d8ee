import JunctionReplay.Json.Schema

/-!
# Members that name no field

A record is read from an object member by member, and a member that names none of its fields is
passed over.  Such a member can be put into an object without any effect on what is read, be that
the record or the first fault.

## Main Statements

* `Json.enterMember_of_unknown` — what is passed over.
* `Json.record_put_unknown` — a record is read as if the member was not there.
-/

namespace JunctionReplay.Json

variable {δ : Type} {fields : List (RecordField δ)} {key : String}

/-- A member that names no field leaves the record as it is. -/
theorem enterMember_of_unknown {member : String × Value}
    (unknown : ∀ field ∈ fields, field.name ≠ member.1) (record : δ) :
    enterMember fields record member = .ok record := by
  have notFound : (fields.find? fun field => field.name = member.1) = none := by
    simpa using unknown
  rw [enterMember, notFound]

/-- The members of an object are entered as if the one that names no field was not there. -/
theorem foldlM_enterMember_put (unknown : ∀ field ∈ fields, field.name ≠ key) (value : Value)
    (members : Keyed String Value) (record : δ) :
    (members.put key value).foldlM (enterMember fields) record =
      members.foldlM (enterMember fields) record := by
  have passed (value : Value) (record : δ) : enterMember fields record (key, value) = .ok record :=
    enterMember_of_unknown unknown record
  induction members generalizing record with
  | nil =>
      rw [Keyed.put, List.foldlM_cons, passed]
      rfl
  | cons member rest ih =>
      unfold Keyed.put
      split
      next same =>
        have passedOld : enterMember fields record member = .ok record :=
          enterMember_of_unknown (same ▸ unknown) record
        rw [List.foldlM_cons, List.foldlM_cons, passed, passedOld]
      next =>
        split
        next =>
          rw [List.foldlM_cons, passed]
          rfl
        next =>
          rw [List.foldlM_cons, List.foldlM_cons]
          cases enterMember fields record member with
          | error error => rfl
          | ok entered => exact ih entered

/-- Which field is missing depends on which of the required ones are there. -/
theorem missingField?_congr {members others : Keyed String Value}
    (same : ∀ field ∈ fields, field.isRequired →
      (Keyed.get? field.name others).isNone = (Keyed.get? field.name members).isNone) :
    missingField? fields others = missingField? fields members := by
  rw [missingField?, missingField?, ← List.head?_filter, ← List.head?_filter]
  congr 1
  refine List.filter_congr fun field listed => ?_
  cases required : field.isRequired with
  | false => rfl
  | true => rw [same field listed required]

/-- A member that names no field does not stand in for a missing one. -/
theorem missingField?_put (unknown : ∀ field ∈ fields, field.name ≠ key) (value : Value)
    (members : Keyed String Value) :
    missingField? fields (members.put key value) = missingField? fields members := by
  refine missingField?_congr fun field member _ => ?_
  have other : key ≠ field.name := (unknown field member).symm
  rw [Keyed.get?_put, if_neg other]

/-- A record is read as if the member that names none of its fields was not there. -/
theorem record_put_unknown (name : String) (default : δ)
    (unknown : ∀ field ∈ fields, field.name ≠ key) (value : Value)
    (members : Keyed String Value) :
    record name fields default (.object (members.put key value)) =
      record name fields default (.object members) := by
  unfold record
  dsimp only
  rw [foldlM_enterMember_put unknown, missingField?_put unknown]

end JunctionReplay.Json
