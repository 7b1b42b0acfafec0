import HandleChallenge.Hash.Block

/-!
# MD5

Sixty-four steps over a state of four words, least significant byte first.
-/

namespace HandleChallenge.Hash.Md5

/-- The chaining state. -/
structure State where
  a : UInt32
  b : UInt32
  c : UInt32
  d : UInt32

/-- The state before the first block. -/
def initial : State := ⟨0x67452301, 0xefcdab89, 0x98badcfe, 0x10325476⟩

/-- The integer part of `2 ^ 32 * |sin (i + 1)|` for the step `i`. -/
def sines : List UInt32 :=
  [0xd76aa478, 0xe8c7b756, 0x242070db, 0xc1bdceee, 0xf57c0faf, 0x4787c62a, 0xa8304613, 0xfd469501,
    0x698098d8, 0x8b44f7af, 0xffff5bb1, 0x895cd7be, 0x6b901122, 0xfd987193, 0xa679438e, 0x49b40821,
    0xf61e2562, 0xc040b340, 0x265e5a51, 0xe9b6c7aa, 0xd62f105d, 0x02441453, 0xd8a1e681, 0xe7d3fbc8,
    0x21e1cde6, 0xc33707d6, 0xf4d50d87, 0x455a14ed, 0xa9e3e905, 0xfcefa3f8, 0x676f02d9, 0x8d2a4c8a,
    0xfffa3942, 0x8771f681, 0x6d9d6122, 0xfde5380c, 0xa4beea44, 0x4bdecfa9, 0xf6bb4b60, 0xbebfbc70,
    0x289b7ec6, 0xeaa127fa, 0xd4ef3085, 0x04881d05, 0xd9d4d039, 0xe6db99e5, 0x1fa27cf8, 0xc4ac5665,
    0xf4292244, 0x432aff97, 0xab9423a7, 0xfc93a039, 0x655b59c3, 0x8f0ccc92, 0xffeff47d, 0x85845dd1,
    0x6fa87e4f, 0xfe2ce6e0, 0xa3014314, 0x4e0811a1, 0xf7537e82, 0xbd3af235, 0x2ad7d2bb, 0xeb86d391]

/-- The turns of the four steps that each round repeats. -/
def turns : List (List UInt32) := [[7, 12, 17, 22], [5, 9, 14, 20], [4, 11, 16, 23], [6, 10, 15, 21]]

/-- The function of the words `b`, `c` and `d` that a round adds. -/
def mix (round : Nat) (b c d : UInt32) : UInt32 :=
  match round with
  | 0 => (b &&& c) ||| (~~~b &&& d)
  | 1 => (d &&& b) ||| (~~~d &&& c)
  | 2 => b ^^^ c ^^^ d
  | _ => c ^^^ (b ||| ~~~d)

/-- The place of the message word that a step adds. -/
def place (step : Nat) : Nat :=
  match step / 16 with
  | 0 => step
  | 1 => (5 * step + 1) % 16
  | 2 => (3 * step + 5) % 16
  | _ => 7 * step % 16

/-- One step. -/
def advance (words : List UInt32) (s : State) (constant : UInt32 × Nat) : State :=
  let (sine, step) := constant
  let turn := (turns.getD (step / 16) []).getD (step % 4) 0
  let sum := s.a + mix (step / 16) s.b s.c s.d + sine + words.getD (place step) 0
  ⟨s.d, s.b + rotateLeft32 sum turn, s.b, s.c⟩

/-- The state after one block. -/
def compress (s : State) (block : Bytes) : State :=
  let r := sines.zipIdx.foldl (advance (words32Low block)) s
  ⟨s.a + r.a, s.b + r.b, s.c + r.c, s.d + r.d⟩

/-- The sixteen bytes of the digest. -/
def hash (message : Bytes) : Bytes :=
  let padded := pad 64 8 (fun bits => (Bytes.ofNat 8 bits).reverse) message
  let s := (blocks 64 (padded.length / 64) padded).foldl compress initial
  [s.a, s.b, s.c, s.d].flatMap fun word => (Bytes.ofNat 4 word.toNat).reverse

@[simp] theorem length_hash (message : Bytes) : (hash message).length = 16 := by
  simp [hash]

end HandleChallenge.Hash.Md5
