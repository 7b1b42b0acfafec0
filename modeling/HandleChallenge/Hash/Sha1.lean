import HandleChallenge.Hash.Block

/-!
# SHA-1

Eighty steps over a state of five words, most significant byte first.
-/

namespace HandleChallenge.Hash.Sha1

/-- The chaining state. -/
structure State where
  a : UInt32
  b : UInt32
  c : UInt32
  d : UInt32
  e : UInt32

/-- The state before the first block. -/
def initial : State := ⟨0x67452301, 0xefcdab89, 0x98badcfe, 0x10325476, 0xc3d2e1f0⟩

/-- `count` more words of the schedule, which holds the newest word first. -/
def extend : (count : Nat) → List UInt32 → List UInt32
  | 0, words => words
  | count + 1, words =>
    let mixed := words.getD 2 0 ^^^ words.getD 7 0 ^^^ words.getD 13 0 ^^^ words.getD 15 0
    extend count (rotateLeft32 mixed 1 :: words)

/-- The eighty words that a block is stretched to. -/
def schedule (block : Bytes) : List UInt32 := (extend 64 (words32 block).reverse).reverse

/-- The function of the words `b`, `c` and `d`, with its constant, in each quarter. -/
def mix (quarter : Nat) (b c d : UInt32) : UInt32 :=
  match quarter with
  | 0 => ((b &&& c) ||| (~~~b &&& d)) + 0x5a827999
  | 1 => (b ^^^ c ^^^ d) + 0x6ed9eba1
  | 2 => ((b &&& c) ||| (b &&& d) ||| (c &&& d)) + 0x8f1bbcdc
  | _ => (b ^^^ c ^^^ d) + 0xca62c1d6

/-- One step. -/
def advance (s : State) (word : UInt32 × Nat) : State :=
  let sum := rotateLeft32 s.a 5 + mix (word.2 / 20) s.b s.c s.d + s.e + word.1
  ⟨sum, s.a, rotateLeft32 s.b 30, s.c, s.d⟩

/-- The state after one block. -/
def compress (s : State) (block : Bytes) : State :=
  let r := (schedule block).zipIdx.foldl advance s
  ⟨s.a + r.a, s.b + r.b, s.c + r.c, s.d + r.d, s.e + r.e⟩

/-- The twenty bytes of the digest. -/
def hash (message : Bytes) : Bytes :=
  let padded := pad 64 8 (Bytes.ofNat 8) message
  let s := (blocks 64 (padded.length / 64) padded).foldl compress initial
  [s.a, s.b, s.c, s.d, s.e].flatMap fun word => Bytes.ofNat 4 word.toNat

@[simp] theorem length_hash (message : Bytes) : (hash message).length = 20 := by
  simp [hash]

end HandleChallenge.Hash.Sha1
