import JunctionReplay.Payload.Read
import JunctionReplay.Proofs.Json.Schema

/-!
# Wrapped and bare payloads

The outcome of a simulation may stand in a document by itself, or wrapped as its member `output`;
reported figures are the member `results` of either.  Both forms mean the same.

A wrapped outcome is a value of its own, while a bare one is read off the very document that may
also hold the reported figures.  So the member `results` takes part in reading a bare outcome, and
that it has no effect is because it names no field of one.

## Main Statements

* `Payload.decode_put_results` — reported figures do not show in the outcome beside them.
* `Payload.storeOf_eq_of_records_eq` — documents with the same records have the same store.
* `Payload.storeOf_wrapped_eq_bare` — both forms come to the same store, or to the same fault.
-/

namespace JunctionReplay.Payload

open Json (Value)

variable {directions : Directions} {timing : CycleTiming Float}

/-- The outcome that a value by itself stands for; null stands for one of which nothing is
known. -/
def outcomeOf : Value → Except ShapeError OutputRecord
  | .null => .ok .empty
  | value => OutputRecord.decode value

theorem outputOf_of_wrapped {document outcome : Value}
    (wraps : document.member? "output" = some outcome) :
    outputOf document = outcomeOf outcome := by
  rw [outputOf, wraps]
  rfl

theorem outputOf_of_bare {document : Value} (bare : document.member? "output" = none) :
    outputOf document = outcomeOf document := by
  rw [outputOf, bare]
  rfl

/-- Reported figures do not show in the outcome beside them. -/
theorem decode_put_results (figures : Value) (members : Keyed String Value) :
    OutputRecord.decode (.object (members.put "results" figures)) =
      OutputRecord.decode (.object members) := by
  have unknown : ∀ field ∈ OutputRecord.fields, field.name ≠ "results" := by
    simp [OutputRecord.fields, Json.RecordField.optional]
  exact Json.record_put_unknown "RawOutput" .empty unknown figures members

/-- Documents with the same figures and the same outcome have the same store, or the same fault. -/
theorem storeOf_eq_of_records_eq {first second : Value}
    (sameResults : resultsOf first = resultsOf second)
    (sameOutput : outputOf first = outputOf second) :
    storeOf first directions timing = storeOf second directions timing := by
  rw [storeOf, storeOf, recordsOf, recordsOf, sameResults, sameOutput]

/-- A fault of the reported figures is that of the whole document. -/
theorem storeOf_of_resultsOf_eq_error {document : Value} {error : ShapeError}
    (fails : resultsOf document = .error error) :
    storeOf document directions timing = .ok (.error error) := by
  rw [storeOf, recordsOf, fails]
  rfl

theorem resultsOf_eq_none {document : Value} (absent : document.member? "results" = none) :
    resultsOf document = .ok none := by
  rw [resultsOf, absent]

/-- **Wrapped and bare payloads mean the same.**  An outcome comes to the same store by itself and
wrapped, or to the same fault; so it does where reported figures are beside it.  A fault of the
figures wins in both forms, and null stands for no figures in both. -/
theorem storeOf_wrapped_eq_bare (directions : Directions) (timing : CycleTiming Float) :
    (∀ outcome : Value, outcome.member? "output" = none → outcome.member? "results" = none →
      storeOf (.object [("output", outcome)]) directions timing =
        storeOf outcome directions timing) ∧
    ∀ (members : Keyed String Value) (figures : Value),
      let outcome : Value := .object members
      let bare : Value := .object (members.put "results" figures)
      let wrapped : Value := .object [("output", outcome), ("results", figures)]
      outcome.member? "output" = none → outcome.member? "results" = none →
        storeOf bare directions timing = storeOf wrapped directions timing ∧
          (∀ error, figures ≠ .null → decodeResults figures = .error error →
            storeOf bare directions timing = .ok (.error error) ∧
              storeOf wrapped directions timing = .ok (.error error)) ∧
          (figures = .null →
            storeOf bare directions timing = storeOf outcome directions timing ∧
              storeOf wrapped directions timing = storeOf outcome directions timing) := by
  constructor
  · intro outcome notWrapping noFigures
    refine storeOf_eq_of_records_eq ?_ ?_
    · rw [resultsOf_eq_none rfl, resultsOf_eq_none noFigures]
    · rw [outputOf_of_wrapped rfl, outputOf_of_bare notWrapping]
  · intro members figures outcome bare wrapped notWrapping noFigures
    have bareFigures : bare.member? "results" = some figures := by
      change Keyed.get? "results" (Keyed.put "results" figures members) = some figures
      rw [Keyed.get?_put, if_pos rfl]
    have bareOutput : bare.member? "output" = none := by
      change Keyed.get? "output" (Keyed.put "results" figures members) = none
      rw [Keyed.get?_put, if_neg (by decide)]
      exact notWrapping
    have sameOutput : outputOf bare = outputOf outcome := by
      rw [outputOf_of_bare bareOutput, outputOf_of_bare notWrapping]
      exact decode_put_results figures members
    have sameOutputWrapped : outputOf wrapped = outputOf outcome := by
      rw [outputOf_of_wrapped rfl, outputOf_of_bare notWrapping]
    have figuresOf (document : Value) (present : document.member? "results" = some figures) :
        resultsOf document = resultsOf bare := by
      rw [resultsOf, resultsOf, present, bareFigures]
    have sameFigures : resultsOf wrapped = resultsOf bare := figuresOf wrapped rfl
    refine ⟨storeOf_eq_of_records_eq sameFigures.symm (sameOutput.trans sameOutputWrapped.symm),
      fun error notNull fails => ?_, fun isNull => ?_⟩
    · have figuresFail : resultsOf bare = .error error := by
        simp [resultsOf, bareFigures, fails, Except.map]
      exact ⟨storeOf_of_resultsOf_eq_error figuresFail,
        storeOf_of_resultsOf_eq_error (sameFigures.trans figuresFail)⟩
    · have noneReported : resultsOf bare = resultsOf outcome := by
        rw [resultsOf, bareFigures, isNull, resultsOf_eq_none noFigures]
      exact ⟨storeOf_eq_of_records_eq noneReported sameOutput,
        storeOf_eq_of_records_eq (sameFigures.trans noneReported) sameOutputWrapped⟩

/-- A vehicle without samples, beside figures of which one is a text. -/
theorem storeOf_wrapped_eq_bare_bad_figures :
    let vehicles : Value := .list [.object [("id", .text "vehicle")]]
    let outcome : Value := .object [("vehicles", vehicles)]
    let figures : Value := .object [("average_speed", .text "fast")]
    let error : ShapeError := .wrongKind (.text "fast") .real
    outcome.member? "output" = none ∧ outcome.member? "results" = none ∧ figures ≠ .null ∧
      decodeResults figures = .error error ∧
      storeOf (.object [("output", outcome)]) .standard .standard =
        storeOf outcome .standard .standard ∧
      storeOf (.object [("results", figures), ("vehicles", vehicles)]) .standard .standard =
        .ok (.error error) ∧
      storeOf (.object [("output", outcome), ("results", figures)]) .standard .standard =
        .ok (.error error) := by
  intro vehicles outcome figures error
  have notWrapping : outcome.member? "output" = none := by decide
  have noFigures : outcome.member? "results" = none := by decide
  have notNull : figures ≠ .null := nofun
  have fails : decodeResults figures = .error error := by decide
  obtain ⟨alone, beside⟩ := storeOf_wrapped_eq_bare .standard .standard
  obtain ⟨-, failing, -⟩ := beside [("vehicles", vehicles)] figures notWrapping noFigures
  obtain ⟨bareFails, wrappedFails⟩ := failing error notNull fails
  have placed : Keyed.put "results" figures [("vehicles", vehicles)] =
      [("results", figures), ("vehicles", vehicles)] := by
    have before : "results" < "vehicles" := by decide
    simp [Keyed.put, before]
  rw [placed] at bareFails
  exact ⟨notWrapping, noFigures, notNull, fails, alone outcome notWrapping noFigures, bareFails,
    wrappedFails⟩

end JunctionReplay.Payload
