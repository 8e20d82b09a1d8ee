import Mathlib.Data.List.Basic
import Mathlib.Data.List.TakeWhile
import Mathlib.Data.Nat.Digits.Defs
import Mathlib.Tactic.Ring
import JunctionReplay.Text.CharacterClass
import JunctionReplay.Text.Numeral

/-!
# Decimal numerals

What the readers of numbers make of a text, stated without them.  A numeral has at least one digit
and nothing else, and it stands for the number with these decimal digits, the first one having the
greatest weight.  Leading zeros are digits like others.

White space around a text is what can be taken off both of its ends; a text that starts and ends
with other characters is left when it is taken off.

## Main Definitions

* `Text.decimalValue` — the number with the given decimal digits.
* `Text.IsNumeral` — a text is a decimal numeral of a number.

## Main Statements

* `Text.numeral?_eq_some_iff` — what is read as a number.
* `Text.exists_trimBlank`, `Text.trimBlank_append` — what is left of a text without the white space
  around it.
-/

namespace JunctionReplay.Text

/-! ## Digits -/

/-- The number with the given decimal digits. -/
def decimalValue (digits : List Char) : Nat :=
  Nat.ofDigits 10 (digits.reverse.map fun c => c.toNat - '0'.toNat)

@[simp] theorem decimalValue_nil : decimalValue [] = 0 := rfl

/-- The first digit has the weight of all digits behind it. -/
theorem decimalValue_cons (c : Char) (rest : List Char) :
    decimalValue (c :: rest) = (c.toNat - '0'.toNat) * 10 ^ rest.length + decimalValue rest := by
  simp [decimalValue, Nat.ofDigits_append, Nat.add_comm, Nat.mul_comm]

/-- A text is a decimal numeral of a number. -/
structure IsNumeral (characters : List Char) (n : Nat) : Prop where
  ne_nil : characters ≠ []
  isDigit : ∀ c ∈ characters, c.isDigit
  decimalValue_eq : decimalValue characters = n

theorem toNat_of_isDigit {c : Char} (isDigit : c.isDigit) : 48 ≤ c.toNat ∧ c.toNat ≤ 57 := by
  simpa [Char.isDigit, UInt32.le_iff_toNat_le] using isDigit

/-- Of the characters only the digits from zero to nine are decimal digits. -/
theorem digit?_ten (c : Char) :
    digit? 10 c = if c.isDigit then some (c.toNat - '0'.toNat) else none := by
  unfold digit?
  split
  next isDigit =>
    have bounds := toNat_of_isDigit isDigit
    have below : c.toNat - '0'.toNat < 10 := by
      show c.toNat - 48 < 10
      omega
    exact if_pos below
  next =>
    -- Letters stand for digits from ten on.
    have notBelow (value : Nat) : ¬ value + 10 < 10 := by omega
    split
    · exact if_neg (notBelow _)
    · split
      · exact if_neg (notBelow _)
      · exact if_neg (Nat.lt_irrefl 10)

/-- Digits are read one by one, each of which moves those in front of it by one place. -/
theorem appendNumeral?_eq_some_iff {read n : Nat} {characters : List Char} :
    appendNumeral? 10 read characters = some n ↔
      (∀ c ∈ characters, c.isDigit) ∧
        read * 10 ^ characters.length + decimalValue characters = n := by
  induction characters generalizing read with
  | nil => simp [appendNumeral?]
  | cons c rest ih =>
      rw [appendNumeral?, digit?_ten]
      by_cases isDigit : c.isDigit
      · rw [if_pos isDigit]
        dsimp only
        rw [ih, List.forall_mem_cons, decimalValue_cons, List.length_cons]
        have moved (digit : Nat) :
            (10 * read + digit) * 10 ^ rest.length + decimalValue rest =
              read * 10 ^ (rest.length + 1) + (digit * 10 ^ rest.length + decimalValue rest) := by
          ring
        rw [moved, and_iff_right isDigit]
      · rw [if_neg isDigit]
        simp [isDigit]

/-- The texts that are read as a number are its numerals. -/
theorem numeral?_eq_some_iff {characters : List Char} {n : Nat} :
    numeral? 10 characters = some n ↔ IsNumeral characters n := by
  unfold numeral?
  cases characters with
  | nil =>
      constructor
      · intro none
        cases none
      · intro numeral
        exact absurd rfl numeral.ne_nil
  | cons c rest =>
      rw [List.isEmpty_cons, if_neg Bool.false_ne_true, appendNumeral?_eq_some_iff, Nat.zero_mul,
        Nat.zero_add]
      constructor
      · rintro ⟨isDigit, value⟩
        exact ⟨List.cons_ne_nil c rest, isDigit, value⟩
      · intro numeral
        exact ⟨numeral.isDigit, numeral.decimalValue_eq⟩

/-! ## White space -/

/-- White space in front is dropped up to the first other character. -/
theorem dropWhile_isBlank_append {before rest : List Char} (blank : ∀ c ∈ before, isBlank c)
    (stops : ∃ c ∈ rest.head?, isBlank c = false) :
    (before ++ rest).dropWhile isBlank = rest := by
  rw [List.dropWhile_append_of_pos blank]
  obtain ⟨c, first, notBlank⟩ := stops
  cases rest with
  | nil => cases first
  | cons d rest =>
      cases first
      rw [List.dropWhile_cons, notBlank]
      rfl

/-- A text consists of what is left of it and of white space around that. -/
theorem exists_trimBlank (characters : List Char) :
    ∃ before after, characters = before ++ trimBlank characters ++ after ∧
      (∀ c ∈ before, isBlank c) ∧ ∀ c ∈ after, isBlank c := by
  let started := characters.dropWhile isBlank
  have front : characters.takeWhile isBlank ++ started = characters :=
    List.takeWhile_append_dropWhile
  have back : trimBlank characters ++ (started.reverse.takeWhile isBlank).reverse = started := by
    show (started.reverse.dropWhile isBlank).reverse ++ _ = started
    rw [← List.reverse_append, List.takeWhile_append_dropWhile, List.reverse_reverse]
  refine ⟨characters.takeWhile isBlank, (started.reverse.takeWhile isBlank).reverse, ?_, ?_, ?_⟩
  · rw [List.append_assoc, back, front]
  · intro c
    exact List.mem_takeWhile_imp
  · intro c member
    exact List.mem_takeWhile_imp (List.mem_reverse.mp member)

/-- White space is taken off both ends of a text up to other characters. -/
theorem trimBlank_append {before core after : List Char} (blankBefore : ∀ c ∈ before, isBlank c)
    (blankAfter : ∀ c ∈ after, isBlank c) (starts : ∃ c ∈ core.head?, isBlank c = false)
    (ends : ∃ c ∈ core.getLast?, isBlank c = false) :
    trimBlank (before ++ core ++ after) = core := by
  have started : (before ++ core ++ after).dropWhile isBlank = core ++ after := by
    rw [List.append_assoc]
    refine dropWhile_isBlank_append blankBefore ?_
    obtain ⟨c, first, notBlank⟩ := starts
    exact ⟨c, List.mem_head?_append_of_mem_head? first, notBlank⟩
  have ended : (core ++ after).reverse.dropWhile isBlank = core.reverse := by
    rw [List.reverse_append]
    refine dropWhile_isBlank_append (fun c member => blankAfter c (List.mem_reverse.mp member)) ?_
    rwa [List.head?_reverse]
  rw [trimBlank, started, ended, List.reverse_reverse]

end JunctionReplay.Text
