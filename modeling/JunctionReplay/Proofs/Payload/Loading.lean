import Mathlib.Data.List.Forall2
import JunctionReplay.Payload.Read
import JunctionReplay.Proofs.Signal.StandardCycle
import JunctionReplay.Settings

/-!
# Faults of loading

Reading a payload ends with a store or with what is wrong with the text, save for one fault: the
states of a standard cycle may be too long to be held.  That takes a light without usable phases
and a signal index close to the limit of what can be addressed, and nothing bounds the indices
that a payload may carry.

## Main Statements

* `mapM_eq_error_iff` — a traversal all of whose faults are the same fails with that fault.
* `Payload.LightRecord.toLight_eq_error_iff` — the fault of a single light.
* `Payload.storeOfText_outcome` — a text is read without a fault unless a light needs a standard
  cycle that cannot be held.
* `Payload.storeOfText_large_index` — a payload of one light and one connection that is not.
-/

namespace JunctionReplay

/-! ## Traversals -/

section Traversal

variable {α β ε : Type} {read : α → Except ε β} {error : ε}

/-- A traversal that fails does so at one of the items. -/
theorem exists_eq_error_of_mapM_eq_error {items : List α} (fails : items.mapM read = .error error) :
    ∃ item ∈ items, read item = .error error := by
  induction items with
  | nil => cases fails
  | cons first rest ih =>
      rw [List.mapM_cons] at fails
      cases firstRead : read first with
      | error firstError =>
          rw [firstRead] at fails
          cases fails
          exact ⟨first, List.mem_cons_self, firstRead⟩
      | ok value =>
          cases restRead : rest.mapM read with
          | error restError =>
              rw [firstRead, restRead] at fails
              cases fails
              obtain ⟨item, member, itemFails⟩ := ih restRead
              exact ⟨item, List.mem_cons_of_mem _ member, itemFails⟩
          | ok values =>
              rw [firstRead, restRead] at fails
              cases fails

/-- A traversal that succeeds gives one value for each item, in their order. -/
theorem forall₂_of_mapM_eq_ok {items : List α} {values : List β}
    (succeeds : items.mapM read = .ok values) :
    List.Forall₂ (fun item value => read item = .ok value) items values := by
  induction items generalizing values with
  | nil =>
      cases succeeds
      exact .nil
  | cons first rest ih =>
      rw [List.mapM_cons] at succeeds
      cases firstRead : read first with
      | error firstError =>
          rw [firstRead] at succeeds
          cases succeeds
      | ok value =>
          cases restRead : rest.mapM read with
          | error restError =>
              rw [firstRead, restRead] at succeeds
              cases succeeds
          | ok others =>
              rw [firstRead, restRead] at succeeds
              cases succeeds
              exact .cons firstRead (ih restRead)

/-- A traversal that succeeds does so at all of the items. -/
theorem exists_eq_ok_of_mapM_eq_ok {items : List α} {values : List β}
    (succeeds : items.mapM read = .ok values) : ∀ item ∈ items, ∃ value, read item = .ok value := by
  intro item member
  have paired := forall₂_of_mapM_eq_ok succeeds
  clear succeeds
  induction paired with
  | nil => cases member
  | cons firstRead _ ih =>
      rcases List.mem_cons.mp member with rfl | member
      · exact ⟨_, firstRead⟩
      · exact ih member

/-- All that a traversal gives is read from one of the items. -/
theorem exists_mem_of_mapM_eq_ok {items : List α} {values : List β}
    (succeeds : items.mapM read = .ok values) :
    ∀ value ∈ values, ∃ item ∈ items, read item = .ok value := by
  intro value member
  have paired := forall₂_of_mapM_eq_ok succeeds
  clear succeeds
  induction paired with
  | nil => cases member
  | cons firstRead _ ih =>
      rcases List.mem_cons.mp member with rfl | member
      · exact ⟨_, List.mem_cons_self, firstRead⟩
      · obtain ⟨item, itemMember, itemRead⟩ := ih member
        exact ⟨item, List.mem_cons_of_mem _ itemMember, itemRead⟩

/-- Where all items can only fail in the same way, the traversal fails in that way if one of them
does. -/
theorem mapM_eq_error_iff {items : List α}
    (only : ∀ item ∈ items, ∀ other, read item = .error other → other = error) :
    items.mapM read = .error error ↔ ∃ item ∈ items, read item = .error error := by
  constructor
  · exact exists_eq_error_of_mapM_eq_error
  · rintro ⟨item, member, itemFails⟩
    -- The traversal may stop before the item, but then with the same fault.
    cases outcome : items.mapM read with
    | error other =>
        obtain ⟨failing, failingMember, fails⟩ := exists_eq_error_of_mapM_eq_error outcome
        rw [only failing failingMember other fails]
    | ok values =>
        obtain ⟨value, itemRead⟩ := exists_eq_ok_of_mapM_eq_ok outcome item member
        rw [itemRead] at itemFails
        cases itemFails

end Traversal

namespace PayloadError

/-- The text is at fault: it is not a document, or not one of a payload. -/
def IsMalformed : PayloadError → Prop
  | .malformedText _ | .malformedShape _ => True
  | .unreadable _ | .abandoned => False

end PayloadError

namespace Payload

variable {directions : Directions} {timing : CycleTiming Float} {fault : Fault}

/-! ## Lights -/

/-- A light fails to be built exactly if it has no usable phases of its own and the states of the
standard cycle cannot be held. -/
theorem LightRecord.toLight_eq_error_iff {connections : List LaneConnection}
    {record : LightRecord} :
    record.toLight connections directions timing = .error fault ↔
      record.ownPhases? = none ∧ fault = .stateTooLong ∧
        StandardCycle.stateLimit ≤
          StandardCycle.stateLength connections timing.fallbackStateLength := by
  unfold toLight shownPhases
  cases own : record.ownPhases? with
  | some phases => simp [Except.map]
  | none =>
      rw [← StandardCycle.phases_eq_error_iff directions]
      cases StandardCycle.phases connections directions timing <;> simp [Except.map]

/-! ## Stores -/

/-- Some light of an outcome runs through a standard cycle whose states cannot be held, because of
the signal index of a connection into the intersection or, without such connections, because of
the fallback. -/
def OutputRecord.NeedsOverlongCycle (output : OutputRecord) (timing : CycleTiming Float) : Prop :=
  (∃ light ∈ output.lights, light.ownPhases? = none) ∧
    ((∃ lane ∈ output.connections, lane.isExternal ∧
        StandardCycle.stateLimit ≤ lane.signalIndex + 1) ∨
      ((∀ lane ∈ output.connections, ¬ lane.isExternal) ∧
        StandardCycle.stateLimit ≤ timing.fallbackStateLength))

/-- A store fails to be built exactly if a light needs a cycle that cannot be held. -/
theorem assemble_eq_error_iff {output : OutputRecord} {results : Option (Results Float)} :
    assemble output results directions timing = .error fault ↔
      fault = .stateTooLong ∧ output.NeedsOverlongCycle timing := by
  have only : ∀ light ∈ output.lights, ∀ other,
      light.toLight output.connections directions timing = .error other →
        other = .stateTooLong := fun light _ other fails =>
    (LightRecord.toLight_eq_error_iff.mp fails).2.1
  -- All lights can fail in one way only, so it does not matter which of them comes first.
  have lights := mapM_eq_error_iff only
  simp only [LightRecord.toLight_eq_error_iff, true_and, StandardCycle.le_stateLength_iff]
    at lights
  have assembled : assemble output results directions timing = .error fault ↔
      output.lights.mapM (LightRecord.toLight output.connections directions timing) =
        .error fault := by
    unfold assemble
    cases output.lights.mapM (LightRecord.toLight output.connections directions timing) <;>
      simp [bind, Except.bind]
  rw [assembled]
  constructor
  · intro fails
    obtain ⟨light, member, lightFails⟩ := exists_eq_error_of_mapM_eq_error fails
    obtain rfl := only light member fault lightFails
    obtain ⟨light, member, noPhases, overlong⟩ := lights.mp fails
    exact ⟨rfl, ⟨light, member, noPhases⟩, overlong⟩
  · rintro ⟨rfl, ⟨light, member, noPhases⟩, overlong⟩
    exact lights.mpr ⟨light, member, noPhases, overlong⟩

/-! ## Texts -/

/-- The store of a text is assembled from its records. -/
theorem storeOfText_eq (text : String) (directions : Directions) (timing : CycleTiming Float) :
    storeOfText text directions timing =
      match recordsOfText text with
      | .error error => .ok (.error error)
      | .ok (output, results) => (assemble output results directions timing).map .ok := by
  unfold storeOfText recordsOfText storeOf
  cases Json.Value.ofText? text with
  | error error => rfl
  | ok document =>
      dsimp only
      cases recordsOf document with
      | error error => rfl
      | ok records =>
          obtain ⟨output, results⟩ := records
          change _ = (assemble output results directions timing).map (Except.ok (ε := PayloadError))
          dsimp only
          cases assemble output results directions timing <;> rfl

/-- A text without records is malformed. -/
theorem isMalformed_of_recordsOfText_eq_error {text : String} {error : PayloadError}
    (fails : recordsOfText text = .error error) : error.IsMalformed := by
  unfold recordsOfText at fails
  cases document : Json.Value.ofText? text with
  | error syntaxError =>
      rw [document] at fails
      cases fails
      trivial
  | ok value =>
      rw [document] at fails
      dsimp only at fails
      cases records : recordsOf value with
      | error shapeError =>
          rw [records] at fails
          cases fails
          trivial
      | ok read =>
          rw [records] at fails
          cases fails

/-- A text has records of which a light needs a cycle that cannot be held. -/
def NeedsOverlongCycle (text : String) (timing : CycleTiming Float) : Prop :=
  ∃ output results, recordsOfText text = .ok (output, results) ∧ output.NeedsOverlongCycle timing

/-- A text is read with a fault exactly if one of its lights needs a cycle that cannot be held. -/
theorem storeOfText_eq_error_iff {text : String} :
    storeOfText text directions timing = .error fault ↔
      fault = .stateTooLong ∧ NeedsOverlongCycle text timing := by
  rw [storeOfText_eq, NeedsOverlongCycle]
  cases recordsOfText text with
  | error error => simp
  | ok records =>
      obtain ⟨output, results⟩ := records
      have assembled : (assemble output results directions timing).map
            (Except.ok (ε := PayloadError)) = .error fault ↔
          assemble output results directions timing = .error fault := by
        cases assemble output results directions timing <;> simp [Except.map]
      dsimp only
      rw [assembled, assemble_eq_error_iff]
      simp

/-- What is wrong with a text that is read without a fault is that it is malformed. -/
theorem isMalformed_of_storeOfText_eq_ok_error {text : String} {error : PayloadError}
    (fails : storeOfText text directions timing = .ok (.error error)) : error.IsMalformed := by
  rw [storeOfText_eq] at fails
  cases records : recordsOfText text with
  | error recordsError =>
      rw [records] at fails
      cases fails
      exact isMalformed_of_recordsOfText_eq_error records
  | ok read =>
      obtain ⟨output, results⟩ := read
      rw [records] at fails
      dsimp only at fails
      cases assembled : assemble output results directions timing with
      | error fault =>
          rw [assembled] at fails
          cases fails
      | ok store =>
          rw [assembled] at fails
          cases fails

/-- **What reading a text comes to.**  There is a store, or the text is malformed, exactly if no
light needs a standard cycle whose states cannot be held.  Otherwise reading ends with the fault
that a state is too long; a place outside of a state is never marked. -/
theorem storeOfText_outcome (text : String) (directions : Directions)
    (timing : CycleTiming Float) :
    ((∃ store, storeOfText text directions timing = .ok (.ok store)) ∨
        (∃ error, storeOfText text directions timing = .ok (.error error) ∧
          error.IsMalformed) ↔
      ¬ NeedsOverlongCycle text timing) ∧
      ∀ fault, storeOfText text directions timing = .error fault ↔
        fault = .stateTooLong ∧ NeedsOverlongCycle text timing := by
  refine ⟨⟨?_, fun fits => ?_⟩, fun fault => storeOfText_eq_error_iff⟩
  · intro read overlong
    have fails : storeOfText text directions timing = .error .stateTooLong :=
      storeOfText_eq_error_iff.mpr ⟨rfl, overlong⟩
    rcases read with ⟨store, read⟩ | ⟨error, read, -⟩
    · rw [read] at fails
      cases fails
    · rw [read] at fails
      cases fails
  · cases outcome : storeOfText text directions timing with
    | error fault => exact absurd (storeOfText_eq_error_iff.mp outcome).2 fits
    | ok loaded =>
        cases loaded with
        | ok store => exact Or.inl ⟨store, rfl⟩
        | error error =>
            exact Or.inr ⟨error, rfl, isMalformed_of_storeOfText_eq_ok_error outcome⟩

/-- **A payload that cannot be loaded.**  One light without phases and one connection with the
largest signal index there is are enough, with all settings left as they are. -/
theorem storeOfText_large_index :
    let text :=
      "\x7b\x22intersection\x22: \x7b\x22trafficLights\x22: [\x7b\x22id\x22: \x22light\x22\x7d], " ++
      "\x22connections\x22: [\x7b\x22from\x22: \x22road\x22, \x22to\x22: \x22exit\x22, " ++
      "\x22tl\x22: 18446744073709551615\x7d]\x7d\x7d"
    let timing : CycleTiming Float := .standard
    timing.check = .ok () ∧
      storeOfText text .standard timing = .error .stateTooLong := by
  decide +kernel

end Payload

end JunctionReplay
