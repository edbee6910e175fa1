/-!
# The MD5 digest

The 128-bit digest of a byte string.  The message is padded to blocks of sixteen
little-endian words, and each block is mixed into a state of four words in 64
steps.
-/

namespace SplitTest.Device

/-- The state of the digest: four words. -/
structure DigestState where
  a : UInt32
  b : UInt32
  c : UInt32
  d : UInt32
deriving DecidableEq, Repr

namespace Digest

/-- The state before the first block. -/
def initial : DigestState := ⟨0x67452301, 0xEFCDAB89, 0x98BADCFE, 0x10325476⟩

/-- The word added in each step: the integer part of `2 ^ 32 * |sin (i + 1)|`. -/
def sines : Array UInt32 :=
  #[0xD76AA478, 0xE8C7B756, 0x242070DB, 0xC1BDCEEE, 0xF57C0FAF, 0x4787C62A, 0xA8304613, 0xFD469501,
    0x698098D8, 0x8B44F7AF, 0xFFFF5BB1, 0x895CD7BE, 0x6B901122, 0xFD987193, 0xA679438E, 0x49B40821,
    0xF61E2562, 0xC040B340, 0x265E5A51, 0xE9B6C7AA, 0xD62F105D, 0x02441453, 0xD8A1E681, 0xE7D3FBC8,
    0x21E1CDE6, 0xC33707D6, 0xF4D50D87, 0x455A14ED, 0xA9E3E905, 0xFCEFA3F8, 0x676F02D9, 0x8D2A4C8A,
    0xFFFA3942, 0x8771F681, 0x6D9D6122, 0xFDE5380C, 0xA4BEEA44, 0x4BDECFA9, 0xF6BB4B60, 0xBEBFBC70,
    0x289B7EC6, 0xEAA127FA, 0xD4EF3085, 0x04881D05, 0xD9D4D039, 0xE6DB99E5, 0x1FA27CF8, 0xC4AC5665,
    0xF4292244, 0x432AFF97, 0xAB9423A7, 0xFC93A039, 0x655B59C3, 0x8F0CCC92, 0xFFEFF47D, 0x85845DD1,
    0x6FA87E4F, 0xFE2CE6E0, 0xA3014314, 0x4E0811A1, 0xF7537E82, 0xBD3AF235, 0x2AD7D2BB, 0xEB86D391]

/-- The rotation of each step, by round and place in a group of four. -/
def rotations : Array UInt32 := #[7, 12, 17, 22, 5, 9, 14, 20, 4, 11, 16, 23, 6, 10, 15, 21]

/-- A word rotated to the left. -/
def rotateLeft (x n : UInt32) : UInt32 := (x <<< n) ||| (x >>> (32 - n))

/-- The mixing function of step `i`. -/
def mix (i : Nat) (b c d : UInt32) : UInt32 :=
  match i / 16 with
  | 0 => (b &&& c) ||| (~~~b &&& d)
  | 1 => (d &&& b) ||| (~~~d &&& c)
  | 2 => b ^^^ c ^^^ d
  | _ => c ^^^ (b ||| ~~~d)

/-- The word of the block that step `i` takes. -/
def wordIndex (i : Nat) : Nat :=
  match i / 16 with
  | 0 => i
  | 1 => (5 * i + 1) % 16
  | 2 => (3 * i + 5) % 16
  | _ => 7 * i % 16

/-- Step `i` of mixing a block into the state. -/
def step (block : Array UInt32) (s : DigestState) (i : Nat) : DigestState :=
  let f := mix i s.b s.c s.d + s.a + sines.getD i 0 + block.getD (wordIndex i) 0
  let rotation := rotations.getD (i / 16 * 4 + i % 4) 0
  ⟨s.d, s.b + rotateLeft f rotation, s.b, s.c⟩

/-- A block mixed into the state. -/
def absorb (s : DigestState) (block : Array UInt32) : DigestState :=
  let t := (List.range 64).foldl (step block) s
  ⟨s.a + t.a, s.b + t.b, s.c + t.c, s.d + t.d⟩

/-- The little-endian word at the head of a byte list. -/
def word : List UInt8 → UInt32
  | [] => 0
  | x :: xs => x.toUInt32 + 256 * word xs

/-- The bytes of a number, least significant first. -/
def littleEndian : Nat → Nat → List UInt8
  | 0, _ => []
  | count + 1, n => UInt8.ofNat n :: littleEndian count (n / 256)

/-- The message followed by its padding: a one bit, zeros, and its length in bits. -/
def padded (message : List UInt8) : List UInt8 :=
  let zeros := (119 - message.length % 64) % 64
  message ++ 0x80 :: List.replicate zeros 0 ++ littleEndian 8 (8 * message.length)

/-- The blocks of a padded message. -/
def blocks (bytes : List UInt8) : List (Array UInt32) :=
  (List.range (bytes.length / 64)).map fun k =>
    ((List.range 16).map fun i => word ((bytes.drop (64 * k + 4 * i)).take 4)).toArray

/-- The state after a message. -/
def run (message : List UInt8) : DigestState := (blocks (padded message)).foldl absorb initial

end Digest

/-- The sixteen bytes of the digest of a message. -/
def digest (message : List UInt8) : Vector UInt8 16 :=
  let s := Digest.run message
  let bytes := #[s.a, s.b, s.c, s.d].flatMap fun w => (Digest.littleEndian 4 w.toNat).toArray
  Vector.ofFn fun i => bytes.getD i 0

end SplitTest.Device
