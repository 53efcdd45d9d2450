import QueryVariants.Random.ChaCha

/-!
# Streams of random words

A stream is a key and the number of words already drawn, so drawing is a pure function and two streams
with the same seed and the same number of draws are the same value.
-/

namespace QueryVariants.Random

/-- One step of the generator that spreads a seed over the words of a key. -/
def spreadStep (state : UInt64) : UInt64 :=
  state * 6364136223846793005 + 11634580027462260723

/-- The key word read off a state of that generator. -/
def spreadWord (state : UInt64) : UInt32 :=
  rotateRight (((state >>> 18) ^^^ state) >>> 27).toUInt32 (state >>> 59).toUInt32

/-- The key of a seed: the words after one, two, … eight steps. -/
def keyOfSeed (seed : UInt64) : Key :=
  Vector.ofFn fun i => spreadWord (Nat.repeat spreadStep (i.val + 1) seed)

structure Stream where
  key : Key
  drawn : Nat
  deriving DecidableEq, Repr

namespace Stream

def ofSeed (seed : UInt64) : Stream :=
  ⟨keyOfSeed seed, 0⟩

/-- The 64-bit word at a position: two words of a block, low word first, eight pairs to a block. -/
def wordAt (key : Key) (position : Nat) : UInt64 :=
  let words := block key (UInt64.ofNat (position / 8))
  let pair : Fin 8 := ⟨position % 8, Nat.mod_lt _ (by decide)⟩
  let low := words[2 * pair.val]
  let high := words[2 * pair.val + 1]
  low.toUInt64 ||| (high.toUInt64 <<< 32)

/-- Draws the next word. -/
def next (stream : Stream) : UInt64 × Stream :=
  (wordAt stream.key stream.drawn, { stream with drawn := stream.drawn + 1 })

end Stream

end QueryVariants.Random
