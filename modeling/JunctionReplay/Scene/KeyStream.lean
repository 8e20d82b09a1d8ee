import JunctionReplay.Word

/-!
# Key streams

A stream of pseudo-random words that is fixed by a seed.  The words are those of the ChaCha
cipher with twelve rounds, whose key is spread from the seed by a congruential generator.
-/

namespace JunctionReplay.KeyStream

/-- The sixteen words that the cipher works on. -/
abbrev Block := Vector UInt32 16

/-- A word turned to the left, the bits that fall out coming in again on the right. -/
def turnLeft (word : UInt32) (bits : UInt32) : UInt32 :=
  (word <<< bits) ||| (word >>> (32 - bits))

/-- The quarter round: four words are mixed with each other. -/
def quarterRound (a b c d : Fin 16) (block : Block) : Block :=
  let mix (block : Block) (target added turned : Fin 16) (bits : UInt32) : Block :=
    let sum := block[target] + block[added]
    let block := block.set target sum
    block.set turned (turnLeft (block[turned] ^^^ sum) bits)
  let block := mix block a b d 16
  let block := mix block c d b 12
  let block := mix block a b d 8
  mix block c d b 7

/-- Two rounds: first the columns are mixed, then the diagonals. -/
def doubleRound (block : Block) : Block :=
  let block := quarterRound 0 4 8 12 block
  let block := quarterRound 1 5 9 13 block
  let block := quarterRound 2 6 10 14 block
  let block := quarterRound 3 7 11 15 block
  let block := quarterRound 0 5 10 15 block
  let block := quarterRound 1 6 11 12 block
  let block := quarterRound 2 7 8 13 block
  quarterRound 3 4 9 14 block

/-- The twelve rounds of the cipher. -/
def rounds (block : Block) : Block :=
  (List.replicate 6 doubleRound).foldl (fun block mix => mix block) block

/-- The key of the cipher. -/
abbrev Key := Vector UInt32 8

/-- The state of the generator that spreads a seed, one step on. -/
def nextState (state : UInt64) : UInt64 :=
  state * 6364136223846793005 + 11634580027462260723

/-- The word that a state of the generator gives. -/
def spreadWord (state : UInt64) : UInt32 :=
  let folded := (((state >>> 18) ^^^ state) >>> 27).toUInt32
  let bits := (state >>> 59).toUInt32
  (folded >>> bits) ||| (folded <<< ((32 - bits) % 32))

/-- The states of the generator behind the given one. -/
def statesAfter (state : UInt64) : Nat → List UInt64
  | 0 => []
  | count + 1 => nextState state :: statesAfter (nextState state) count

/-- The key that a seed is spread to. -/
def keyOfSeed (seed : Nat) : Key :=
  let words := (statesAfter (UInt64.ofNat seed) 8).map spreadWord
  Vector.ofFn fun index => words.getD index 0

/-- The words in front of the key: `expand 32-byte k`, four bytes to a word. -/
def constants : Vector UInt32 4 := #v[0x61707865, 0x3320646e, 0x79622d32, 0x6b206574]

/-- What the cipher starts the block with the given number from. -/
def startBlock (key : Key) (number : Nat) : Block :=
  let counter := #v[UInt32.ofNat number, UInt32.ofNat (number / Word.count 32), 0, 0]
  constants ++ key ++ counter

/-- The block of the stream with the given number. -/
def block (key : Key) (number : Nat) : Block :=
  let start := startBlock key number
  start.zipWith (· + ·) (rounds start)

/-- The word of the stream with the given number. -/
def word (key : Key) (number : Nat) : UInt32 :=
  (block key (number / 16)).get ⟨number % 16, Nat.mod_lt _ (by decide)⟩

end JunctionReplay.KeyStream
