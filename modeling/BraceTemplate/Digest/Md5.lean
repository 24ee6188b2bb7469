import BraceTemplate.Text.Utf8

namespace BraceTemplate.Md5

-- The sine constants of the sixty-four steps.
def constants : List UInt32 := [
  0xd76aa478, 0xe8c7b756, 0x242070db, 0xc1bdceee, 0xf57c0faf, 0x4787c62a,
  0xa8304613, 0xfd469501, 0x698098d8, 0x8b44f7af, 0xffff5bb1, 0x895cd7be,
  0x6b901122, 0xfd987193, 0xa679438e, 0x49b40821, 0xf61e2562, 0xc040b340,
  0x265e5a51, 0xe9b6c7aa, 0xd62f105d, 0x02441453, 0xd8a1e681, 0xe7d3fbc8,
  0x21e1cde6, 0xc33707d6, 0xf4d50d87, 0x455a14ed, 0xa9e3e905, 0xfcefa3f8,
  0x676f02d9, 0x8d2a4c8a, 0xfffa3942, 0x8771f681, 0x6d9d6122, 0xfde5380c,
  0xa4beea44, 0x4bdecfa9, 0xf6bb4b60, 0xbebfbc70, 0x289b7ec6, 0xeaa127fa,
  0xd4ef3085, 0x04881d05, 0xd9d4d039, 0xe6db99e5, 0x1fa27cf8, 0xc4ac5665,
  0xf4292244, 0x432aff97, 0xab9423a7, 0xfc93a039, 0x655b59c3, 0x8f0ccc92,
  0xffeff47d, 0x85845dd1, 0x6fa87e4f, 0xfe2ce6e0, 0xa3014314, 0x4e0811a1,
  0xf7537e82, 0xbd3af235, 0x2ad7d2bb, 0xeb86d391]

-- The rotation amounts, four a round, used in turn.
def rotations : List (List UInt32) :=
  [[7, 12, 17, 22], [5, 9, 14, 20], [4, 11, 16, 23], [6, 10, 15, 21]]

structure State where
  a : UInt32
  b : UInt32
  c : UInt32
  d : UInt32

def State.initial : State :=
  ⟨0x67452301, 0xefcdab89, 0x98badcfe, 0x10325476⟩

def State.add (s t : State) : State :=
  ⟨s.a + t.a, s.b + t.b, s.c + t.c, s.d + t.d⟩

def rotateLeft (x amount : UInt32) : UInt32 :=
  (x <<< amount) ||| (x >>> (32 - amount))

-- The mixing function of a step's round and the message word that the step reads.
def mixture (step : Nat) (s : State) : UInt32 × Nat :=
  match step / 16 with
  | 0 => ((s.b &&& s.c) ||| (~~~s.b &&& s.d), step)
  | 1 => ((s.d &&& s.b) ||| (~~~s.d &&& s.c), (5 * step + 1) % 16)
  | 2 => (s.b ^^^ s.c ^^^ s.d, (3 * step + 5) % 16)
  | _ => (s.c ^^^ (s.b ||| ~~~s.d), 7 * step % 16)

def stepState (block : List UInt32) (s : State) (step : Nat) : State :=
  let (mixed, index) := mixture step s
  let sum := s.a + mixed + constants.getD step 0 + block.getD index 0
  let amount := (rotations.getD (step / 16) []).getD (step % 4) 0
  ⟨s.d, s.b + rotateLeft sum amount, s.b, s.c⟩

def absorb (s : State) (block : List UInt32) : State :=
  s.add ((List.range 64).foldl (stepState block) s)

-- Four bytes, the least significant first.
def littleEndian (n : Nat) (bytes : Nat) : List UInt8 :=
  (List.range bytes).map fun i => UInt8.ofNat (n / Nat.pow 256 i % 256)

def wordOf (bytes : List UInt8) : UInt32 :=
  bytes.foldr (fun b acc => acc * 256 + b.toUInt32) 0

-- The message, a one bit, zeros up to eight bytes short of a block, and the length in bits.
def padded (message : List UInt8) : List UInt8 :=
  let zeros := (119 - message.length % 64) % 64
  message ++ 0x80 :: List.replicate zeros 0 ++ littleEndian (message.length * 8) 8

def chunks (size : Nat) {α : Type} (xs : List α) : List (List α) :=
  (List.range ((xs.length + size - 1) / size)).map fun i => (xs.drop (i * size)).take size

def digest (message : List UInt8) : List UInt8 :=
  let final := (chunks 64 (padded message)).foldl
    (fun s block => absorb s ((chunks 4 block).map wordOf)) State.initial
  [final.a, final.b, final.c, final.d].flatMap fun word => littleEndian word.toNat 4

def hexDigit (n : Nat) : Char :=
  "0123456789abcdef".toList.getD n '0'

def hex (bytes : List UInt8) : Text :=
  bytes.flatMap fun b => [hexDigit (b.toNat / 16), hexDigit (b.toNat % 16)]

-- The digest of a text's bytes in thirty-two lower-case digits.
def ofText (s : Text) : Text :=
  hex (digest (Utf8.encode s))

end BraceTemplate.Md5
