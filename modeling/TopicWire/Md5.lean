import TopicWire.Bytes
import TopicWire.Text.Hex

/-!
# MD5

The 128-bit MD5 digest of a sequence of bytes. A message is padded to blocks of 64 bytes, and each
block takes the four words of the state through 64 steps.
-/

namespace TopicWire.Md5

/-- The four words that are carried from block to block. -/
structure State where
  a : UInt32 := 0x67452301
  b : UInt32 := 0xefcdab89
  c : UInt32 := 0x98badcfe
  d : UInt32 := 0x10325476

/-- The word added in each step: the integer part of `2^32 · |sin i|` for `i` from 1 to 64. -/
def sines : List UInt32 := [
  0xd76aa478, 0xe8c7b756, 0x242070db, 0xc1bdceee, 0xf57c0faf, 0x4787c62a, 0xa8304613, 0xfd469501,
  0x698098d8, 0x8b44f7af, 0xffff5bb1, 0x895cd7be, 0x6b901122, 0xfd987193, 0xa679438e, 0x49b40821,
  0xf61e2562, 0xc040b340, 0x265e5a51, 0xe9b6c7aa, 0xd62f105d, 0x02441453, 0xd8a1e681, 0xe7d3fbc8,
  0x21e1cde6, 0xc33707d6, 0xf4d50d87, 0x455a14ed, 0xa9e3e905, 0xfcefa3f8, 0x676f02d9, 0x8d2a4c8a,
  0xfffa3942, 0x8771f681, 0x6d9d6122, 0xfde5380c, 0xa4beea44, 0x4bdecfa9, 0xf6bb4b60, 0xbebfbc70,
  0x289b7ec6, 0xeaa127fa, 0xd4ef3085, 0x04881d05, 0xd9d4d039, 0xe6db99e5, 0x1fa27cf8, 0xc4ac5665,
  0xf4292244, 0x432aff97, 0xab9423a7, 0xfc93a039, 0x655b59c3, 0x8f0ccc92, 0xffeff47d, 0x85845dd1,
  0x6fa87e4f, 0xfe2ce6e0, 0xa3014314, 0x4e0811a1, 0xf7537e82, 0xbd3af235, 0x2ad7d2bb, 0xeb86d391]

/-- The four rotations of each round, used in turn. -/
def rotations : Nat → List UInt32
  | 0 => [7, 12, 17, 22]
  | 1 => [5, 9, 14, 20]
  | 2 => [4, 11, 16, 23]
  | _ => [6, 10, 15, 21]

def rotate (x n : UInt32) : UInt32 :=
  (x <<< n) ||| (x >>> (32 - n))

def mix (round : Nat) (b c d : UInt32) : UInt32 :=
  match round with
  | 0 => (b &&& c) ||| (~~~b &&& d)
  | 1 => (d &&& b) ||| (~~~d &&& c)
  | 2 => b ^^^ c ^^^ d
  | _ => c ^^^ (b ||| ~~~d)

/-- Which word of the block a step uses. -/
def wordIndex (i : Nat) : Nat :=
  match i / 16 with
  | 0 => i
  | 1 => (5 * i + 1) % 16
  | 2 => (3 * i + 5) % 16
  | _ => (7 * i) % 16

def step (block : List UInt32) (s : State) : UInt32 × Nat → State
  | (sine, i) =>
    let word := block.getD (wordIndex i) 0
    let rotation := (rotations (i / 16)).getD (i % 4) 0
    let sum := s.a + mix (i / 16) s.b s.c s.d + sine + word
    ⟨s.d, s.b + rotate sum rotation, s.b, s.c⟩

def words : (n : Nat) → Bytes → List UInt32
  | 0, _ => []
  | n + 1, bs => UInt32.ofNat (Bytes.ofLittleEndian (bs.take 4)) :: words n (bs.drop 4)

/-- Takes the state through one block. -/
def absorb (s : State) (block : Bytes) : State :=
  let out := sines.zipIdx.foldl (step (words 16 block)) s
  ⟨s.a + out.a, s.b + out.b, s.c + out.c, s.d + out.d⟩

def blocks : (n : Nat) → Bytes → List Bytes
  | 0, _ => []
  | n + 1, bs => bs.take 64 :: blocks n (bs.drop 64)

/-- The message, a bit that is set, bits that are not, and the length in bits, in whole blocks. -/
def padded (message : Bytes) : Bytes :=
  let zeros := (119 - message.length % 64) % 64
  message ++ 0x80 :: List.replicate zeros 0 ++ Bytes.littleEndian 8 (8 * message.length)

def digest (message : Bytes) : Bytes :=
  let whole := padded message
  let s := (blocks (whole.length / 64) whole).foldl absorb {}
  [s.a, s.b, s.c, s.d].flatMap fun word => Bytes.littleEndian 4 word.toNat

def hexDigest (text : String) : String :=
  Text.Hex.ofBytes (digest (Bytes.ofText text))

end TopicWire.Md5
