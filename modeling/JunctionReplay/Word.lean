/-!
# Words

Whole numbers that are kept in a set number of bits lie below the number of words of that many
bits.
-/

namespace JunctionReplay.Word

/-- The number of words of a number of bits. -/
def count (bits : Nat) : Nat := 1 <<< bits

end JunctionReplay.Word
