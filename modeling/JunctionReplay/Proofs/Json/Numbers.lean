import JunctionReplay.Json.Document
import JunctionReplay.Proofs.Text.Numerals

/-!
# Whole numbers of JSON documents

A number of a document is kept as a whole number only if it fits 64 bits, with a sign or without
one.  In particular the numerals of the numbers below the number of words of 64 bits are read as
these numbers, exactly.  All that has a fraction or an exponent is read as a machine number, and so
is what lies outside of the range.

## Main Definitions

* `Json.Number.InRange` — a number that fits 64 bits, if it is a whole one.

## Main Statements

* `Json.inRange_of_number` — the numbers that are read.
* `Json.value_numeral` — the numerals that are read exactly.
-/

namespace JunctionReplay.Json

open Text (decimalValue decimalValue_cons)

/-- A number of a document, of which a whole one fits 64 bits. -/
def Number.InRange : Number → Prop
  | .integer value => -(Word.count 63 : Int) ≤ value ∧ value < Word.count 64
  | .real _ => True

/-! ## Numbers with a fraction or an exponent -/

section Real

variable {negative : Bool} {significand uncounted : Nat} {start : Int} {text rest : List Char}
  {read : Number}

theorem inRange_signedNumber (size : Float) : (signedNumber negative size).InRange := trivial

theorem inRange_of_scaledNumber
    (isRead : scaledNumber negative significand start text = .ok (read, rest)) : read.InRange := by
  unfold scaledNumber at isRead
  split at isRead
  · cases isRead
    exact inRange_signedNumber _
  · cases isRead

theorem inRange_of_exponent
    (isRead : exponent negative significand start text = .ok (read, rest)) : read.InRange := by
  unfold exponent at isRead
  dsimp only at isRead
  split at isRead
  · cases isRead
  · split at isRead
    · split at isRead
      · exact inRange_of_scaledNumber isRead
      · split at isRead
        · cases isRead
        · cases isRead
          exact inRange_signedNumber _
    · cases isRead

theorem inRange_of_fraction
    (isRead : fraction negative significand uncounted text = .ok (read, rest)) : read.InRange := by
  unfold fraction at isRead
  dsimp only at isRead
  split at isRead
  · split at isRead <;> cases isRead
  · split at isRead
    · exact inRange_of_exponent isRead
    · exact inRange_of_scaledNumber isRead

end Real

/-! ## Whole numbers -/

/-- The collected number fits 64 bits throughout. -/
theorem collectDigits_lt {collected : Nat} (fits : collected < Word.count 64)
    (digits : List Char) : (collectDigits collected digits).1 < Word.count 64 := by
  induction digits generalizing collected with
  | nil => exact fits
  | cons digit rest ih =>
      rw [collectDigits]
      split
      next further => exact ih further
      next => exact fits

theorem inRange_wholeNumber (negative : Bool) {size : Nat} (fits : size < Word.count 64) :
    (wholeNumber negative size).InRange := by
  unfold wholeNumber
  split
  · show -(Word.count 63 : Int) ≤ size ∧ (size : Int) < Word.count 64
    omega
  · split
    next below =>
      simp only [Bool.and_eq_true, decide_eq_true_eq] at below
      show -(Word.count 63 : Int) ≤ -size ∧ (-size : Int) < Word.count 64
      omega
    next => trivial

/-- **Numbers that are read.**  The whole ones among them fit 64 bits. -/
theorem inRange_of_number {negative : Bool} {text rest : List Char} {read : Number}
    (isRead : number negative text = .ok (read, rest)) : read.InRange := by
  have fits : (collectDigits 0 (text.takeWhile Char.isDigit)).1 < Word.count 64 :=
    collectDigits_lt (by decide) _
  unfold number at isRead
  dsimp only at isRead
  split at isRead
  · split at isRead <;> cases isRead
  · cases isRead
  · split at isRead
    · exact inRange_of_fraction isRead
    · split at isRead
      · exact inRange_of_exponent isRead
      · split at isRead
        · cases isRead
          exact inRange_wholeNumber negative fits
        · exact inRange_of_scaledNumber isRead

/-! ## Numerals -/

/-- Digits are collected up to the last one if the whole number fits 64 bits. -/
theorem collectDigits_eq {collected : Nat} {digits : List Char}
    (fits : collected * 10 ^ digits.length + decimalValue digits < Word.count 64) :
    collectDigits collected digits =
      (collected * 10 ^ digits.length + decimalValue digits, 0) := by
  induction digits generalizing collected with
  | nil => simp [collectDigits]
  | cons digit rest ih =>
      have moved : collected * 10 ^ (digit :: rest).length + decimalValue (digit :: rest) =
          (collected * 10 + digitValue digit) * 10 ^ rest.length + decimalValue rest := by
        rw [decimalValue_cons, List.length_cons, digitValue]
        ring
      rw [moved] at fits ⊢
      have grows : collected * 10 + digitValue digit ≤
          (collected * 10 + digitValue digit) * 10 ^ rest.length :=
        Nat.le_mul_of_pos_right _ (by positivity)
      rw [collectDigits, if_pos (by omega)]
      exact ih fits

/-- The text behind a whole number goes on with something else. -/
def EndsNumber (rest : List Char) : Prop :=
  ∀ c ∈ rest.head?, c.isDigit = false ∧ c ≠ '.' ∧ c ≠ 'e' ∧ c ≠ 'E'

/-- A numeral without a leading zero is read as the number that it stands for, if that fits
64 bits. -/
theorem number_numeral {digits rest : List Char} {n : Nat} (numeral : Text.IsNumeral digits n)
    (noLeadingZero : digits.head? = some '0' → digits = ['0']) (fits : n < Word.count 64)
    (ends : EndsNumber rest) :
    number false (digits ++ rest) = .ok (.integer n, rest) := by
  obtain ⟨notEmpty, isDigit, rfl⟩ := numeral
  have taken : (digits ++ rest).takeWhile Char.isDigit = digits := by
    rw [List.takeWhile_append_of_pos isDigit]
    cases rest with
    | nil => simp
    | cons c rest => simp [(ends c rfl).1]
  have left : (digits ++ rest).dropWhile Char.isDigit = rest := by
    rw [List.dropWhile_append_of_pos isDigit]
    cases rest with
    | nil => rfl
    | cons c rest => simp [(ends c rfl).1]
  have collected : collectDigits 0 digits = (decimalValue digits, 0) := by
    have whole : 0 * 10 ^ digits.length + decimalValue digits = decimalValue digits := by
      rw [Nat.zero_mul, Nat.zero_add]
    rw [← whole] at fits
    rw [collectDigits_eq fits, whole]
  have noPoint : ¬ rest.head? = some '.' := fun point => (ends _ point).2.1 rfl
  have noExponent : startsExponent rest = false := by
    have lower : ¬ rest.head? = some 'e' := fun mark => (ends _ mark).2.2.1 rfl
    have upper : ¬ rest.head? = some 'E' := fun mark => (ends _ mark).2.2.2 rfl
    simp [startsExponent, lower, upper]
  unfold number
  dsimp only
  rw [taken, left]
  split
  · exact absurd rfl notEmpty
  · cases noLeadingZero rfl
  · rw [collected]
    dsimp only
    rw [if_neg noPoint, noExponent, if_neg Bool.false_ne_true, if_pos rfl]
    rfl

/-- **Numerals that are read exactly.**  Wherever a value may stand, a numeral without a leading
zero is read as the number that it stands for, if that fits 64 bits. -/
theorem value_numeral {digits rest : List Char} {n : Nat} (numeral : Text.IsNumeral digits n)
    (noLeadingZero : digits.head? = some '0' → digits = ['0']) (fits : n < Word.count 64)
    (ends : EndsNumber rest) (depth fuel : Nat) :
    value depth fuel (digits ++ rest) = .ok (.number (.integer n), rest) := by
  have isRead := number_numeral numeral noLeadingZero fits ends
  obtain ⟨c, more, rfl⟩ := List.exists_cons_of_ne_nil numeral.ne_nil
  have isDigit : c.isDigit := numeral.isDigit c List.mem_cons_self
  -- None of the characters that other values start with is a digit.
  have other (d : Char) (notDigit : d.isDigit = false) : c ≠ d := by
    rintro rfl
    rw [isDigit] at notDigit
    cases notDigit
  have notSpace : isSpace c = false := by
    simp [isSpace, other]
  have start : skipSpace (c :: more ++ rest) = c :: (more ++ rest) := by
    rw [skipSpace, List.cons_append, List.dropWhile_cons, notSpace]
    rfl
  rw [value, start]
  dsimp only
  rw [if_neg (other 'n' rfl), if_neg (other 't' rfl), if_neg (other 'f' rfl),
    if_neg (other '-' rfl), if_pos isDigit, ← List.cons_append, isRead]
  rfl

end JunctionReplay.Json
