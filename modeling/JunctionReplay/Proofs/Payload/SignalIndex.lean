import JunctionReplay.Proofs.Payload.Places
import JunctionReplay.Proofs.Payload.Tolerance

/-!
# The two forms of a signal index

A connection names its signal by a number or by a text.  The text is a decimal numeral, perhaps with
a plus in front of it and with white space around both; leading zeros do not count.  Both forms name
the same indices, those below the number of words of 64 bits, and a connection that names its signal
in any other way is dropped.

## Main Definitions

* `Payload.WritesIndex` — a text writes an index.
* `Payload.IsUnusable` — what a connection may have in place of an index.

## Main Statements

* `Payload.indexOfText?_eq_some_iff` — the texts that stand for an index.
* `Payload.isUnusable_iff` — all that stands for none.
-/

namespace JunctionReplay.Payload

open Json (Value)
open Text (IsNumeral isBlank trimBlank)

/-! ## Texts -/

/-- A text writes an index: a numeral, perhaps with a plus in front, and white space around. -/
def WritesIndex (text : String) (index : Nat) : Prop :=
  ∃ before sign digits after,
    text.toList = before ++ (sign ++ digits) ++ after ∧
      (∀ c ∈ before, isBlank c) ∧ (∀ c ∈ after, isBlank c) ∧
      (sign = [] ∨ sign = ['+']) ∧ IsNumeral digits index

theorem isBlank_of_isDigit {c : Char} (isDigit : c.isDigit) : isBlank c = false := by
  have bounds := Text.toNat_of_isDigit isDigit
  simp [isBlank, Text.inRanges, Text.blankRanges]
  omega

/-- A numeral with or without a plus starts and ends with other characters than white space. -/
theorem trimBlank_signed {before sign digits after : List Char} {index : Nat}
    (blankBefore : ∀ c ∈ before, isBlank c) (blankAfter : ∀ c ∈ after, isBlank c)
    (isSign : sign = [] ∨ sign = ['+']) (numeral : IsNumeral digits index) :
    trimBlank (before ++ (sign ++ digits) ++ after) = sign ++ digits := by
  refine Text.trimBlank_append blankBefore blankAfter ?_ ?_
  · rcases isSign with rfl | rfl
    · obtain ⟨c, rest, rfl⟩ := List.exists_cons_of_ne_nil numeral.ne_nil
      exact ⟨c, rfl, isBlank_of_isDigit (numeral.isDigit c List.mem_cons_self)⟩
    · exact ⟨'+', rfl, by decide⟩
  · have last := numeral.isDigit _ (List.getLast_mem numeral.ne_nil)
    refine ⟨digits.getLast numeral.ne_nil, ?_, isBlank_of_isDigit last⟩
    rw [List.getLast?_append, List.getLast?_eq_some_getLast numeral.ne_nil]
    rfl

/-- A digit is no plus. -/
theorem dropPlus_signed {sign digits : List Char} {index : Nat} (isSign : sign = [] ∨ sign = ['+'])
    (numeral : IsNumeral digits index) : dropPlus (sign ++ digits) = digits := by
  rcases isSign with rfl | rfl
  · obtain ⟨c, rest, rfl⟩ := List.exists_cons_of_ne_nil numeral.ne_nil
    have isDigit := numeral.isDigit c List.mem_cons_self
    have notPlus : c ≠ '+' := by
      rintro rfl
      cases isDigit
    show dropPlus (c :: rest) = c :: rest
    unfold dropPlus
    split
    next same => exact absurd (List.cons.inj same).1 notPlus
    next => rfl
  · rfl

theorem exists_sign_dropPlus (characters : List Char) :
    ∃ sign, (sign = [] ∨ sign = ['+']) ∧ characters = sign ++ dropPlus characters := by
  unfold dropPlus
  split
  next rest => exact ⟨['+'], Or.inr rfl, rfl⟩
  next => exact ⟨[], Or.inl rfl, rfl⟩

/-- A text writes an index if a numeral is left without the white space and the plus. -/
theorem writesIndex_iff {text : String} {index : Nat} :
    WritesIndex text index ↔ IsNumeral (dropPlus (trimBlank text.toList)) index := by
  constructor
  · rintro ⟨before, sign, digits, after, whole, blankBefore, blankAfter, isSign, numeral⟩
    rwa [whole, trimBlank_signed blankBefore blankAfter isSign numeral,
      dropPlus_signed isSign numeral]
  · intro numeral
    obtain ⟨before, after, whole, blankBefore, blankAfter⟩ := Text.exists_trimBlank text.toList
    obtain ⟨sign, isSign, core⟩ := exists_sign_dropPlus (trimBlank text.toList)
    refine ⟨before, sign, _, after, ?_, blankBefore, blankAfter, isSign, numeral⟩
    rw [← core]
    exact whole

/-- **Texts that stand for an index.**  They write it, and it has 64 bits. -/
theorem indexOfText?_eq_some_iff {text : String} {index : Nat} :
    indexOfText? text = some index ↔ WritesIndex text index ∧ index < indexLimit := by
  rw [indexOfText?, Option.filter_eq_some_iff, Text.numeral?_eq_some_iff, writesIndex_iff,
    decide_eq_true_eq]

/-! ## Values -/

/-- What a connection may have in place of an index: nothing, null, a number that is not a whole one
of 64 bits without a sign, a text that writes none, or a value of another kind. -/
inductive IsUnusable : Option Value → Prop where
  | absent : IsUnusable none
  | null : IsUnusable (some .null)
  | outside {value : Int} (outside : ¬ (0 ≤ value ∧ value < indexLimit)) :
      IsUnusable (some (.number (.integer value)))
  | real (value : Float) : IsUnusable (some (.number (.real value)))
  | text {value : String} (writesNone : ∀ index < indexLimit, ¬ WritesIndex value index) :
      IsUnusable (some (.text value))
  | truth (value : Bool) : IsUnusable (some (.truth value))
  | list (items : List Value) : IsUnusable (some (.list items))
  | object (members : List (String × Value)) : IsUnusable (some (.object members))

/-- A whole number of a document stands for an index if it is not negative. -/
theorem indexOfValue?_integer {value : Int} (inRange : (Json.Number.integer value).InRange) :
    indexOfValue? (.number (.integer value)) =
      if 0 ≤ value ∧ value < indexLimit then some value.toNat else none := by
  have below : value < indexLimit := inRange.2
  simp [indexOfValue?, below]

theorem indexOfText?_eq_none_iff {text : String} :
    indexOfText? text = none ↔ ∀ index < indexLimit, ¬ WritesIndex text index := by
  rw [Option.eq_none_iff_forall_ne_some]
  simp only [ne_eq, indexOfText?_eq_some_iff, not_and]
  exact forall_congr' fun index => imp_not_comm

/-- **Values that stand for no index.** -/
theorem isUnusable_iff {signal : Option Value} (wellFormed : ∀ value ∈ signal, value.WellFormed) :
    IsUnusable signal ↔ signal.bind indexOfValue? = none := by
  cases signal with
  | none => exact iff_of_true .absent rfl
  | some value =>
      rw [Option.bind_some]
      cases value with
      | null => exact iff_of_true .null rfl
      | truth value => exact iff_of_true (.truth value) rfl
      | list items => exact iff_of_true (.list items) rfl
      | object members => exact iff_of_true (.object members) rfl
      | text value =>
          rw [indexOfValue?, indexOfText?_eq_none_iff]
          constructor
          · rintro ⟨⟩
            assumption
          · exact .text
      | number value =>
          cases value with
          | real value => exact iff_of_true (.real value) rfl
          | integer value =>
              rw [indexOfValue?_integer (wellFormed _ rfl).inRange]
              constructor
              · rintro (_ | _ | outside)
                exact if_neg outside
              · intro none
                refine .outside fun inside => ?_
                rw [if_pos inside] at none
                cases none

/-! ## Connections -/

/-- A value names an index: it is the whole number, or a text that writes it. -/
inductive NamesIndex : Value → Nat → Prop where
  | number (index : Nat) : NamesIndex (.number (.integer index)) index
  | text {written : String} {index : Nat} (writes : WritesIndex written index) :
      NamesIndex (.text written) index

theorem indexOfValue?_of_namesIndex {value : Value} {index : Nat} (names : NamesIndex value index)
    (bound : index < indexLimit) : indexOfValue? value = some index := by
  cases names with
  | number => simp [indexOfValue?]
  | text writes => exact indexOfText?_eq_some_iff.mpr ⟨writes, bound⟩

/-- A connection is read with the index that it names, and dropped if it names its signal by a text
that writes none. -/
structure KeepsIndex (connection : Value) (record : ConnectionRecord) : Prop where
  decodes : ConnectionRecord.decode connection = .ok record
  kept : ∀ {value index}, signalIn connection = some value → NamesIndex value index →
    index < indexLimit →
    record.toConnection? =
      some ⟨record.fromEdge, record.toEdge, record.fromLane, record.toLane, index⟩
  dropped : ∀ {written}, signalIn connection = some (.text written) →
    (∀ index < indexLimit, ¬ WritesIndex written index) → record.toConnection? = none

theorem keepsIndex_of_decode {connection : Value} {record : ConnectionRecord}
    (wellFormed : connection.WellFormed)
    (decodes : ConnectionRecord.decode connection = .ok record) :
    KeepsIndex connection record := by
  have index := signalIndex?_of_decode wellFormed decodes
  constructor
  · exact decodes
  · intro value number named names bound
    rw [named, Option.bind_some, indexOfValue?_of_namesIndex names bound] at index
    rw [ConnectionRecord.toConnection?, index]
    rfl
  · intro written named writesNone
    rw [named, Option.bind_some, indexOfValue?, indexOfText?_eq_none_iff.mpr writesNone] at index
    rw [ConnectionRecord.toConnection?, index]
    rfl

/-- **Both forms of a signal index.**  In every text whose records are read, each connection that
names its signal by an index of 64 bits is kept with it, be it a whole number or a text that writes
it, and each one whose text writes no such index is dropped; the connections of the store are the
kept ones, in their order.  And wherever a value may stand, the numeral of such an index is read as
this whole number. -/
theorem connections_keep_signal_index {text : String} {document : Value} {output : OutputRecord}
    {results : Option (Results Float)} (isDocument : Value.ofText? text = .ok document)
    (isRead : recordsOf document = .ok (output, results)) :
    (∃ records, List.Forall₂ KeepsIndex (connectionsIn document) records ∧
      ∀ directions timing store, storeOfText text directions timing = .ok (.ok store) →
        store.connections = records.filterMap ConnectionRecord.toConnection?) ∧
    ∀ digits rest index depth fuel, IsNumeral digits index →
      (digits.head? = some '0' → digits = ['0']) → index < indexLimit → Json.EndsNumber rest →
        Json.value depth fuel (digits ++ rest) = .ok (.number (.integer index), rest) := by
  have wellFormed := Json.wellFormed_of_ofText? isDocument
  have mirrors := mirrors_of_outputOf wellFormed (outputOf_of_recordsOf isRead)
  have connections : List.Forall₂ KeepsIndex (connectionsIn document)
      output.intersection.connections := by
    have both := (List.forall₂_and_left _ _).mpr
      ⟨fun connection => wellFormed_of_mem_connectionsIn wellFormed, mirrors.connections⟩
    exact both.imp fun connection record ⟨whole, decodes⟩ => keepsIndex_of_decode whole decodes
  refine ⟨⟨output.intersection.connections, connections, ?_⟩, ?_⟩
  · intro directions timing store loaded
    obtain ⟨lights, -, rfl⟩ := exists_lights_of_document isDocument isRead loaded
    rfl
  · intro digits rest index depth fuel numeral noLeadingZero bound ends
    exact Json.value_numeral numeral noLeadingZero bound ends depth fuel

set_option maxRecDepth 4000 in
/-- One connection with a number, one with a text that writes it, and two that are dropped: the one
has a letter in its text, the other an index that is too large. -/
theorem connections_keep_signal_index_four_connections :
    let connection (signal : Value) : Value :=
      .object [("from", .text "a"), ("tl", signal), ("to", .text "b")]
    let document : Value :=
      .object [("intersection", .object [("connections", .list
        [connection (.number (.integer 7)), connection (.text " +007 "),
          connection (.text "7x"), connection (.text "18446744073709551616")])])]
    let text :=
      "\x7b\x22intersection\x22:\x7b\x22connections\x22:[
        \x7b\x22from\x22:\x22a\x22,\x22to\x22:\x22b\x22,\x22tl\x22:7\x7d,
        \x7b\x22from\x22:\x22a\x22,\x22to\x22:\x22b\x22,\x22tl\x22:\x22 +007 \x22\x7d,
        \x7b\x22from\x22:\x22a\x22,\x22to\x22:\x22b\x22,\x22tl\x22:\x227x\x22\x7d,
        \x7b\x22from\x22:\x22a\x22,\x22to\x22:\x22b\x22,
          \x22tl\x22:\x2218446744073709551616\x22\x7d]\x7d\x7d"
    let store : Store Float :=
      { nodes := []
        edges := []
        vehicles := []
        lights := []
        connections := [⟨"a", "b", 0, 0, 7⟩, ⟨"a", "b", 0, 0, 7⟩]
        results := none }
    Value.ofText? text = .ok document ∧
      storeOfText text .standard .standard = .ok (.ok store) ∧
      ∃ records, List.Forall₂ KeepsIndex (connectionsIn document) records ∧
        store.connections = records.filterMap ConnectionRecord.toConnection? := by
  intro connection document text store
  have isDocument : Value.ofText? text = .ok document := ofText?_of_document rfl
  have loaded : storeOfText text .standard .standard = .ok (.ok store) :=
    storeOfText_of_document (by decide +kernel)
  obtain ⟨records, kept, connections⟩ := (connections_keep_signal_index isDocument rfl).1
  exact ⟨isDocument, loaded, records, kept, connections _ _ _ loaded⟩

end JunctionReplay.Payload
