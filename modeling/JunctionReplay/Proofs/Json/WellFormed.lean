import JunctionReplay.Json.Document
import JunctionReplay.Proofs.Json.Numbers
import JunctionReplay.Proofs.Keyed

/-!
# Documents that were read

The values that come out of a text are fewer than the type of values allows: whole numbers fit
64 bits, and the members of an object are in the order of their names, each name once.  Whatever is
said about well-formed values therefore holds of all documents that are read.

The proof follows the reader.  Its depth bounds the recursion into lists and objects, and what has
been collected of a list or an object at some point is well-formed already.

## Main Definitions

* `Json.Value.WellFormed` — a value that may come out of a text.

## Main Statements

* `Json.wellFormed_of_ofText?` — documents that are read are well-formed.
-/

namespace JunctionReplay.Json

/-- A value that may come out of a text. -/
inductive Value.WellFormed : Value → Prop where
  | null : WellFormed .null
  | truth (value : Bool) : WellFormed (.truth value)
  | number {value : Number} (inRange : value.InRange) : WellFormed (.number value)
  | text (value : String) : WellFormed (.text value)
  | list {items : List Value} (items_wellFormed : ∀ item ∈ items, WellFormed item) :
      WellFormed (.list items)
  | object {members : Keyed String Value} (sorted : Keyed.Sorted members)
      (members_wellFormed : ∀ member ∈ members, WellFormed member.2) :
      WellFormed (.object members)

/-- A reader that gives well-formed values only. -/
def ReadsWellFormed (reader : Reader Value) : Prop :=
  ∀ text read rest, reader text = .ok (read, rest) → read.WellFormed

variable {item : Nat → Reader Value}

theorem readsWellFormed_word {value : Value} (wellFormed : value.WellFormed) (letters : List Char) :
    ReadsWellFormed (word value letters) := by
  intro text read rest isRead
  induction letters generalizing text with
  | nil =>
      cases isRead
      exact wellFormed
  | cons letter letters ih =>
      cases text with
      | nil => cases isRead
      | cons c text =>
          rw [word] at isRead
          split at isRead
          · exact ih text isRead
          · cases isRead

theorem readsWellFormed_items (itemReads : ∀ fuel, ReadsWellFormed (item fuel)) {read : List Value}
    (wellFormed : ∀ value ∈ read, value.WellFormed) (fuel : Nat) :
    ReadsWellFormed (items item read fuel) := by
  intro text whole rest isRead
  induction fuel generalizing read text with
  | zero => cases isRead
  | succ fuel ih =>
      rw [items] at isRead
      split at isRead
      · cases isRead
      · cases isRead
        refine .list fun value member => ?_
        exact wellFormed value (List.mem_reverse.mp member)
      · split at isRead
        · cases isRead
        next value _ valueRead =>
          refine ih ?_ _ isRead
          intro other member
          rcases List.mem_cons.mp member with rfl | earlier
          · exact itemReads fuel _ _ _ valueRead
          · exact wellFormed other earlier

theorem readsWellFormed_members (itemReads : ∀ fuel, ReadsWellFormed (item fuel))
    {read : Keyed String Value} (isFirst : Bool) (sorted : Keyed.Sorted read)
    (wellFormed : ∀ member ∈ read, member.2.WellFormed) (fuel : Nat) :
    ReadsWellFormed (members item isFirst read fuel) := by
  intro text whole rest isRead
  induction fuel generalizing read isFirst text with
  | zero => cases isRead
  | succ fuel ih =>
      rw [members] at isRead
      split at isRead
      · cases isRead
      · cases isRead
        exact .object sorted wellFormed
      · split at isRead
        · cases isRead
        next name _ _ =>
          split at isRead
          · cases isRead
          next value _ valueRead =>
            refine ih false (sorted.put name value) ?_ _ isRead
            intro other member
            rcases Keyed.eq_or_mem_of_mem_put member with rfl | earlier
            · exact itemReads fuel _ _ _ valueRead
            · exact wellFormed other earlier

/-- What is read of a number or a text is well-formed. -/
theorem readsWellFormed_map {β : Type} {reader : Reader β} {make : β → Value}
    (wellFormed : ∀ text read rest, reader text = .ok (read, rest) → (make read).WellFormed) :
    ReadsWellFormed fun text => (reader text).map fun (read, rest) => (make read, rest) := by
  intro text value rest isRead
  dsimp only at isRead
  cases valueRead : reader text with
  | error failure =>
      rw [valueRead] at isRead
      cases isRead
  | ok found =>
      rw [valueRead] at isRead
      cases isRead
      exact wellFormed text _ _ valueRead

theorem readsWellFormed_number (negative : Bool) :
    ReadsWellFormed fun text =>
      (number negative text).map fun (read, rest) => (.number read, rest) :=
  readsWellFormed_map fun _ _ _ isRead => .number (inRange_of_number isRead)

/-- A value is well-formed if those one level below are. -/
theorem readsWellFormed_value_of_nested {depth : Nat}
    (nested : ∀ inner, depth = inner + 1 → ∀ fuel, ReadsWellFormed (value inner fuel))
    (fuel : Nat) : ReadsWellFormed (value depth fuel) := by
  intro text read rest isRead
  rw [value] at isRead
  split at isRead
  · cases isRead
  split at isRead
  · exact readsWellFormed_word .null _ _ _ _ isRead
  split at isRead
  · exact readsWellFormed_word (.truth true) _ _ _ _ isRead
  split at isRead
  · exact readsWellFormed_word (.truth false) _ _ _ _ isRead
  split at isRead
  · exact readsWellFormed_number true _ _ _ isRead
  split at isRead
  · exact readsWellFormed_number false _ _ _ isRead
  split at isRead
  · exact readsWellFormed_map (fun _ read _ _ => .text read) _ _ _ isRead
  split at isRead
  · split at isRead
    · cases isRead
    next inner =>
      exact readsWellFormed_items (nested inner rfl) (List.forall_mem_nil _) fuel _ _ _ isRead
  split at isRead
  · split at isRead
    · cases isRead
    next inner =>
      exact readsWellFormed_members (nested inner rfl) true Keyed.sorted_nil
        (List.forall_mem_nil _) fuel _ _ _ isRead
  · cases isRead

/-- A value is well-formed, however deep it goes. -/
theorem readsWellFormed_value (depth fuel : Nat) : ReadsWellFormed (value depth fuel) := by
  induction depth generalizing fuel with
  | zero =>
      refine readsWellFormed_value_of_nested (fun inner none => ?_) fuel
      cases none
  | succ depth ih =>
      refine readsWellFormed_value_of_nested (fun inner same => ?_) fuel
      obtain rfl := Nat.succ.inj same
      exact ih

/-- **Documents that are read.**  Their whole numbers fit 64 bits, and the members of their objects
are in order, each name once. -/
theorem wellFormed_of_ofText? {text : String} {read : Value}
    (isRead : Value.ofText? text = .ok read) : read.WellFormed := by
  unfold Value.ofText? document at isRead
  dsimp only at isRead
  cases whole : value depthLimit (text.toList.length + 1) text.toList with
  | error failure =>
      rw [whole] at isRead
      cases isRead
  | ok found =>
      obtain ⟨value, rest⟩ := found
      rw [whole] at isRead
      dsimp only at isRead
      split at isRead
      · cases isRead
        exact readsWellFormed_value _ _ _ _ _ whole
      · cases isRead

/-! ## Parts of well-formed values -/

namespace Value.WellFormed

variable {value : Value}

theorem inRange {number : Number} (wellFormed : (Value.number number).WellFormed) :
    number.InRange := by
  cases wellFormed with
  | number inRange => exact inRange

theorem of_mem_list {items : List Value} (wellFormed : (Value.list items).WellFormed)
    (member : value ∈ items) : value.WellFormed := by
  cases wellFormed with
  | list items_wellFormed => exact items_wellFormed value member

theorem sorted {members : Keyed String Value} (wellFormed : (Value.object members).WellFormed) :
    Keyed.Sorted members := by
  cases wellFormed with
  | object sorted => exact sorted

theorem of_get? {members : Keyed String Value} {name : String}
    (wellFormed : (Value.object members).WellFormed)
    (found : Keyed.get? name members = some value) : value.WellFormed := by
  cases wellFormed with
  | object sorted members_wellFormed =>
      exact members_wellFormed (name, value) ((sorted.mem_iff name value).mpr found)

end Value.WellFormed

end JunctionReplay.Json
