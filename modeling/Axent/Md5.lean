/-
  `src/firmware/md5.cpp`: the MD5 digest of a byte string as lower-case
  hexadecimal text.

  The loops of the source are folds over their indices.  `padZeros` takes the
  at most 63 turns of the `while` loop one by one.
-/
import Mathlib.Data.List.Basic

namespace Axent.Md5

def constants : List UInt32 := [
  0xd76aa478, 0xe8c7b756, 0x242070db, 0xc1bdceee, 0xf57c0faf, 0x4787c62a, 0xa8304613, 0xfd469501,
  0x698098d8, 0x8b44f7af, 0xffff5bb1, 0x895cd7be, 0x6b901122, 0xfd987193, 0xa679438e, 0x49b40821,
  0xf61e2562, 0xc040b340, 0x265e5a51, 0xe9b6c7aa, 0xd62f105d, 0x02441453, 0xd8a1e681, 0xe7d3fbc8,
  0x21e1cde6, 0xc33707d6, 0xf4d50d87, 0x455a14ed, 0xa9e3e905, 0xfcefa3f8, 0x676f02d9, 0x8d2a4c8a,
  0xfffa3942, 0x8771f681, 0x6d9d6122, 0xfde5380c, 0xa4beea44, 0x4bdecfa9, 0xf6bb4b60, 0xbebfbc70,
  0x289b7ec6, 0xeaa127fa, 0xd4ef3085, 0x04881d05, 0xd9d4d039, 0xe6db99e5, 0x1fa27cf8, 0xc4ac5665,
  0xf4292244, 0x432aff97, 0xab9423a7, 0xfc93a039, 0x655b59c3, 0x8f0ccc92, 0xffeff47d, 0x85845dd1,
  0x6fa87e4f, 0xfe2ce6e0, 0xa3014314, 0x4e0811a1, 0xf7537e82, 0xbd3af235, 0x2ad7d2bb, 0xeb86d391]

def rotations : List UInt32 := [
  7, 12, 17, 22, 7, 12, 17, 22, 7, 12, 17, 22, 7, 12, 17, 22,
  5, 9, 14, 20, 5, 9, 14, 20, 5, 9, 14, 20, 5, 9, 14, 20,
  4, 11, 16, 23, 4, 11, 16, 23, 4, 11, 16, 23, 4, 11, 16, 23,
  6, 10, 15, 21, 6, 10, 15, 21, 6, 10, 15, 21, 6, 10, 15, 21]

def rotateLeft (value count : UInt32) : UInt32 := (value <<< count) ||| (value >>> (32 - count))

def readU32Le (bytes : List UInt8) : UInt32 :=
  (bytes.getD 0 0).toUInt32 ||| ((bytes.getD 1 0).toUInt32 <<< 8) |||
    ((bytes.getD 2 0).toUInt32 <<< 16) ||| ((bytes.getD 3 0).toUInt32 <<< 24)

/-- The `while` loop of the padding, for at most `turns` turns. -/
def padZeros : ℕ → List UInt8 → List UInt8
  | 0, message => message
  | turns + 1, message =>
    if message.length % 64 = 56 then message else padZeros turns (message ++ [0])

def bitLength (size : ℕ) : UInt64 := UInt64.ofNat size * 8

def lengthBytes (size : ℕ) : List UInt8 :=
  (List.range 8).map fun index => (bitLength size >>> (UInt64.ofNat index * 8)).toUInt8

/-- The message with its padding and its length. -/
def padded (data : List UInt8) : List UInt8 :=
  padZeros 63 (data ++ [0x80]) ++ lengthBytes data.length

structure Digest where
  a : UInt32 := 0x67452301
  b : UInt32 := 0xefcdab89
  c : UInt32 := 0x98badcfe
  d : UInt32 := 0x10325476
  deriving DecidableEq, Repr

/-- The mixing function of turn `index` and the word it reads. -/
def mix (s : Digest) (index : ℕ) : UInt32 × ℕ :=
  if index < 16 then ((s.b &&& s.c) ||| (~~~s.b &&& s.d), index)
  else if index < 32 then ((s.d &&& s.b) ||| (~~~s.d &&& s.c), (5 * index + 1) % 16)
  else if index < 48 then (s.b ^^^ s.c ^^^ s.d, (3 * index + 5) % 16)
  else (s.c ^^^ (s.b ||| ~~~s.d), (7 * index) % 16)

def turn (words : List UInt32) (s : Digest) (index : ℕ) : Digest :=
  let (f, wordIndex) := mix s index
  { a := s.d
    b := s.b + rotateLeft (s.a + f + constants.getD index 0 + words.getD wordIndex 0)
      (rotations.getD index 0)
    c := s.b
    d := s.c }

def block (message : List UInt8) (h : Digest) (offset : ℕ) : Digest :=
  let words := (List.range 16).map fun index => readU32Le (message.drop (offset + index * 4))
  let s := (List.range 64).foldl (turn words) h
  { a := h.a + s.a, b := h.b + s.b, c := h.c + s.c, d := h.d + s.d }

def digest (data : List UInt8) : Digest :=
  let message := padded data
  (List.range (message.length / 64)).foldl (fun h i => block message h (i * 64)) {}

def hexDigit (n : UInt8) : Char :=
  "0123456789abcdef".toList.getD n.toNat '0'

def hexByte (byte : UInt8) : List Char :=
  [hexDigit ((byte >>> 4) &&& 0x0f), hexDigit (byte &&& 0x0f)]

/-- `md5_hex`. -/
def md5Hex (data : List UInt8) : String :=
  let h := digest data
  String.ofList <| [h.a, h.b, h.c, h.d].flatMap fun word =>
    (List.range 4).flatMap fun index => hexByte (word >>> (UInt32.ofNat index * 8)).toUInt8

end Axent.Md5
