import Mathlib.Order.Lattice
import Mathlib.Tactic.SplitIfs

/-!
# The order of bytes

Tables keep texts in the order of their characters.  A table that compares the bytes of UTF-8
instead comes to the same order: of two characters the lower one has the lower bytes, however many
bytes either of them takes, and the first byte of a character tells how many follow.

## Main Definitions

* `Text.bytes` — the bytes of a text.

## Main Statements

* `Text.utf8EncodeChar_append_lt` — a lower character has lower bytes, whatever follows it.
* `Text.bytes_lt_iff` — texts are ordered as their bytes are.
-/

namespace JunctionReplay.Text

/-- The bytes of a text. -/
def bytes (text : String) : List UInt8 := text.toUTF8.data.toList

theorem bytes_eq_flatMap (text : String) :
    bytes text = text.toList.flatMap String.utf8EncodeChar := by
  have encoded : text.toUTF8 = (text.toList.flatMap String.utf8EncodeChar).toByteArray :=
    String.utf8Encode_toList.symm
  rw [bytes, encoded, List.data_toByteArray]

/-! ## Characters -/

/-- Numbers compare as their last digits do where the others are the same. -/
theorem lt_iff_digit (number other : Nat) :
    number < other ↔ number / 64 < other / 64 ∨
      number / 64 = other / 64 ∧ number % 64 < other % 64 := by
  omega

theorem eq_iff_digit (number other : Nat) :
    number = other ↔ number / 64 = other / 64 ∧ number % 64 = other % 64 := by
  omega

/-- Numbers compare as their digits do, the last three of which may fill a byte each. -/
theorem lt_iff_digits (number other : Nat) :
    number < other ↔
      number / 262144 < other / 262144 ∨ number / 262144 = other / 262144 ∧
        (number / 4096 % 64 < other / 4096 % 64 ∨ number / 4096 % 64 = other / 4096 % 64 ∧
          (number / 64 % 64 < other / 64 % 64 ∨ number / 64 % 64 = other / 64 % 64 ∧
            number % 64 < other % 64)) := by
  rw [lt_iff_digit, lt_iff_digit (number / 64), lt_iff_digit (number / 64 / 64),
    eq_iff_digit (number / 64), eq_iff_digit (number / 64 / 64)]
  simp only [Nat.div_div_eq_div_mul, Nat.reduceMul]
  grind

theorem cons_ofNat_lt_iff {first second : Nat} (firstFits : first < 256)
    (secondFits : second < 256) {rest other : List UInt8} :
    UInt8.ofNat first :: rest < UInt8.ofNat second :: other ↔
      first < second ∨ first = second ∧ rest < other := by
  rw [List.cons_lt_cons_iff, UInt8.lt_iff_toNat_lt, ← UInt8.toNat_inj, UInt8.toNat_ofNat',
    UInt8.toNat_ofNat', Nat.mod_eq_of_lt firstFits, Nat.mod_eq_of_lt secondFits]

/-- A lower character has lower bytes, whatever follows it. -/
theorem utf8EncodeChar_append_lt {c d : Char} (below : c < d) (rest other : List UInt8) :
    String.utf8EncodeChar c ++ rest < String.utf8EncodeChar d ++ other := by
  have less : c.val.toNat < d.val.toNat := below
  have bound : d.val.toNat < 0x110000 := by
    rcases d.valid with small | ⟨-, large⟩
    · exact Nat.lt_trans small (by decide)
    · exact large
  unfold String.utf8EncodeChar
  generalize c.val.toNat = number at less
  generalize d.val.toNat = larger at less bound
  have digits := (lt_iff_digits number larger).mp less
  have lead : number / 262144 % 8 = number / 262144 := Nat.mod_eq_of_lt (by omega)
  have largerLead : larger / 262144 % 8 = larger / 262144 := Nat.mod_eq_of_lt (by omega)
  -- On the numbers of bytes: with as many bytes the digits compare, or else the first bytes do.
  dsimp only
  split_ifs <;>
    simp (disch := omega) only [List.cons_append, List.nil_append, cons_ofNat_lt_iff, lead,
      largerLead] <;>
    omega

/-! ## Texts -/

theorem flatMap_utf8EncodeChar_lt {first second : List Char} (below : first < second) :
    first.flatMap String.utf8EncodeChar < second.flatMap String.utf8EncodeChar := by
  induction below with
  | @nil first rest =>
      obtain ⟨byte, others, encoded⟩ :=
        List.exists_cons_of_ne_nil (@String.utf8EncodeChar_ne_nil first)
      rw [List.flatMap_nil, List.flatMap_cons, encoded]
      exact List.nil_lt_cons byte _
  | rel below =>
      rw [List.flatMap_cons, List.flatMap_cons]
      exact utf8EncodeChar_append_lt below _ _
  | cons _ ih =>
      rw [List.flatMap_cons, List.flatMap_cons]
      exact List.append_left_lt ih

theorem bytes_lt {text other : String} (below : text < other) : bytes text < bytes other := by
  rw [bytes_eq_flatMap, bytes_eq_flatMap]
  exact flatMap_utf8EncodeChar_lt (String.lt_iff.mp below)

/-- Texts are ordered as their bytes are. -/
theorem bytes_lt_iff (text other : String) : bytes text < bytes other ↔ text < other := by
  refine ⟨fun below => ?_, bytes_lt⟩
  rcases Std.lt_trichotomy text other with less | rfl | greater
  · exact less
  · exact absurd below (Std.Irrefl.irrefl _)
  · exact absurd below (Std.Asymm.asymm _ _ (bytes_lt greater))

end JunctionReplay.Text
