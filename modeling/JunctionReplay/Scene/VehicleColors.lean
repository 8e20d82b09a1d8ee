import JunctionReplay.Scene.KeyStream

/-!
# Vehicle colors

Each vehicle is given one of eight colors.  With a seed the choice is always the same: words are
drawn from the key stream of the seed until one falls into the range that gives every color the
same chance.
-/

namespace JunctionReplay.VehicleColors

/-- The colors of vehicles, red, green and blue with eight bits each. -/
def palette : Vector Nat 8 :=
  #v[0xeaeaea, 0xb0b0b0, 0x4b8bbe, 0xd44d5c, 0x3e8e7e, 0xf2a34f, 0x6a6a6a, 0x99b898]

/-- The place in the palette that a word chooses, unless the word has to be drawn again. -/
def choose? (word : UInt32) : Option (Fin 8) :=
  let scaled := word.toNat * 8
  if scaled % Word.count 32 ≤ 0x7fffffff then some (Fin.ofNat 8 (scaled / Word.count 32))
  else none

/-- The colors chosen by the words of blocks. -/
def chosenBy (words : List UInt32) : List Nat :=
  (words.filterMap choose?).map fun place => palette[place]

/-- The colors of `count` vehicles from the block with the given number on, reading at most
`blocks` blocks. -/
def draw (key : KeyStream.Key) : Nat → Nat → Nat → List Nat
  | 0, _, _ => []
  | blocks + 1, number, count =>
    let chosen := (chosenBy (KeyStream.block key number).toList).take count
    if chosen.length = count then chosen
    else chosen ++ draw key blocks (number + 1) (count - chosen.length)

/-- The number of blocks that are read for `count` colors: a block gives eight colors on average,
so this is far more than is ever needed. -/
def enoughBlocks (count : Nat) : Nat := 8 * count + 64

/-- The colors of `count` vehicles. -/
def assign (seed count : Nat) : List Nat :=
  draw (KeyStream.keyOfSeed seed) (enoughBlocks count) 0 count

end JunctionReplay.VehicleColors
