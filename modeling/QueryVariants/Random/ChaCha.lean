/-!
# The ChaCha block function

A block is sixteen 32-bit words computed from an eight-word key and a block number: six double rounds,
twelve rounds in all. A stream of random words is the sequence of blocks of one key.
-/

namespace QueryVariants.Random

abbrev Key := Vector UInt32 8

abbrev Block := Vector UInt32 16

def rotateLeft (x : UInt32) (n : UInt32) : UInt32 :=
  (x <<< n) ||| (x >>> (32 - n))

def rotateRight (x : UInt32) (n : UInt32) : UInt32 :=
  (x >>> n) ||| (x <<< ((32 - n) % 32))

/-- Mixes the four words at the given places. -/
def quarterRound (s : Block) (a b c d : Fin 16) : Block :=
  let wa := s[a] + s[b]
  let wd := rotateLeft (s[d] ^^^ wa) 16
  let wc := s[c] + wd
  let wb := rotateLeft (s[b] ^^^ wc) 12
  let wa := wa + wb
  let wd := rotateLeft (wd ^^^ wa) 8
  let wc := wc + wd
  let wb := rotateLeft (wb ^^^ wc) 7
  (((s.set a wa).set b wb).set c wc).set d wd

/-- One round over the columns and one over the diagonals. -/
def doubleRound (s : Block) : Block :=
  let s := quarterRound s 0 4 8 12
  let s := quarterRound s 1 5 9 13
  let s := quarterRound s 2 6 10 14
  let s := quarterRound s 3 7 11 15
  let s := quarterRound s 0 5 10 15
  let s := quarterRound s 1 6 11 12
  let s := quarterRound s 2 7 8 13
  quarterRound s 3 4 9 14

/-- The four constant words, the key, the block number in two words, low word first, and two zero
words. -/
def initialBlock (key : Key) (number : UInt64) : Block :=
  #v[0x61707865, 0x3320646e, 0x79622d32, 0x6b206574,
     key[0], key[1], key[2], key[3], key[4], key[5], key[6], key[7],
     number.toUInt32, (number >>> 32).toUInt32, 0, 0]

def block (key : Key) (number : UInt64) : Block :=
  let start := initialBlock key number
  Vector.zipWith (· + ·) (Nat.repeat doubleRound 6 start) start

end QueryVariants.Random
