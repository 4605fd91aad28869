/-
  The MD5 message digest algorithm, as RFC 1321 describes it.

  Section 2 gives the conventions for bits, bytes and words, section 3 the five steps of
  the algorithm.  The names are those of the text: the auxiliary functions `F`, `G`, `H`
  and `I`, the table `T` of the sine function, and the operations `[abcd k s i]` of the
  four rounds, which are copied row by row.
-/
import Axent.Lib.Sine

namespace Axent.Lib.Rfc1321

/-! ## Terminology (section 2) -/

abbrev Word := BitVec 32

/-- The bits of a byte, the most significant one first. -/
def byteBits (b : UInt8) : List Bool := (List.range 8).map fun t => b.toNat.testBit (7 - t)

def bits (bytes : List UInt8) : List Bool := bytes.flatMap byteBits

/-- The byte at the position `j` of a sequence of bits. -/
def byteAt (m : List Bool) (j : ℕ) : ℕ :=
  ((List.range 8).map fun t => (m.getD (8 * j + t) false).toNat * 2 ^ (7 - t)).sum

/-- Four bytes as a word, the low-order byte first. -/
def word (b₀ b₁ b₂ b₃ : ℕ) : Word := BitVec.ofNat 32 (b₀ + b₁ * 2 ^ 8 + b₂ * 2 ^ 16 + b₃ * 2 ^ 24)

/-- The word at the position `i` of a sequence of bits. -/
def wordAt (m : List Bool) (i : ℕ) : Word :=
  word (byteAt m (4 * i)) (byteAt m (4 * i + 1)) (byteAt m (4 * i + 2)) (byteAt m (4 * i + 3))

/-- The bytes of a word, the low-order byte first. -/
def wordBytes (w : Word) : List UInt8 :=
  (List.range 4).map fun t => UInt8.ofNat (w.toNat / 2 ^ (8 * t))

@[simp] theorem bits_append (l l' : List UInt8) : bits (l ++ l') = bits l ++ bits l' :=
  List.flatMap_append

theorem bits_cons (b : UInt8) (l : List UInt8) : bits (b :: l) = byteBits b ++ bits l := rfl

@[simp] theorem length_byteBits (b : UInt8) : (byteBits b).length = 8 := by simp [byteBits]

@[simp] theorem length_bits (l : List UInt8) : (bits l).length = 8 * l.length := by
  induction l with
  | nil => rfl
  | cons b l ih =>
    rw [bits_cons, List.length_append, length_byteBits, ih, List.length_cons]
    omega

theorem bits_replicate_zero (n : ℕ) : bits (List.replicate n 0) = List.replicate (8 * n) false := by
  induction n with
  | zero => rfl
  | succ n ih =>
    have hzero : byteBits 0 = List.replicate 8 false := by decide
    rw [List.replicate_succ, bits_cons, ih, hzero, List.replicate_append_replicate]
    congr 1
    omega

theorem sum_testBit :
    ∀ n < 256, ((List.range 8).map fun t => (n.testBit (7 - t)).toNat * 2 ^ (7 - t)).sum = n := by
  decide +kernel

theorem byteAt_bits (l : List UInt8) (j : ℕ) : byteAt (bits l) j = (l.getD j 0).toNat := by
  induction l generalizing j with
  | nil => simp [byteAt, bits]
  | cons b l ih =>
    cases j with
    | zero =>
      have hfirst (t : ℕ) (ht : t ∈ List.range 8) :
          (bits (b :: l)).getD (8 * 0 + t) false = b.toNat.testBit (7 - t) := by
        rw [List.mem_range] at ht
        rw [List.getD_eq_getElem?_getD, bits_cons, List.getElem?_append_left (by simp; omega)]
        simp [byteBits, ht]
      rw [List.getD_cons_zero, ← sum_testBit b.toNat b.toNat_lt, byteAt]
      exact congrArg List.sum (List.map_congr_left fun t ht => by rw [hfirst t ht])
    | succ j =>
      have hskip (t : ℕ) : (bits (b :: l)).getD (8 * (j + 1) + t) false =
          (bits l).getD (8 * j + t) false := by
        rw [List.getD_eq_getElem?_getD, bits_cons, List.getElem?_append_right (by simp; omega),
          length_byteBits, ← List.getD_eq_getElem?_getD]
        congr 1
        omega
      rw [List.getD_cons_succ, ← ih]
      simp only [byteAt, hskip]

/-! ## Padding and length (sections 3.1 and 3.2) -/

/-- The number of `0` bits behind the `1` bit. -/
def zeroBits (b : ℕ) : ℕ := (959 - b % 512) % 512

def appendPadding (m : List Bool) : List Bool :=
  m ++ true :: List.replicate (zeroBits m.length) false

/-- The low-order 64 bits of the length, as two words with the low-order word first. -/
def lengthBits (b : ℕ) : List Bool :=
  bits (wordBytes (BitVec.ofNat 32 b) ++ wordBytes (BitVec.ofNat 32 (b / 2 ^ 32)))

def paddedMessage (m : List Bool) : List Bool := appendPadding m ++ lengthBits m.length

/-! ## The buffer and the rounds (sections 3.3 and 3.4) -/

/-- The registers. -/
inductive Reg where
  | A
  | B
  | C
  | D
  deriving DecidableEq

/-- The buffer, initially. -/
def initial : Reg → Word
  | .A => word 0x01 0x23 0x45 0x67
  | .B => word 0x89 0xab 0xcd 0xef
  | .C => word 0xfe 0xdc 0xba 0x98
  | .D => word 0x76 0x54 0x32 0x10

def F (X Y Z : Word) : Word := (X &&& Y) ||| (~~~X &&& Z)
def G (X Y Z : Word) : Word := (X &&& Z) ||| (Y &&& ~~~Z)
def H (X Y Z : Word) : Word := X ^^^ Y ^^^ Z
def I (X Y Z : Word) : Word := Y ^^^ (X ||| ~~~Z)

/-- The table of the sine function: the integer part of `4294967296 * |sin i|`. -/
noncomputable def T (i : ℕ) : Word := BitVec.ofNat 32 ⌊(4294967296 : ℕ) * |Real.sin i|⌋₊

/-- An operation `[abcd k s i]`. -/
structure Op where
  a : Reg
  b : Reg
  c : Reg
  d : Reg
  k : ℕ
  s : ℕ
  i : ℕ
  deriving DecidableEq

/-- `a = b + ((a + f(b,c,d) + X[k] + T[i]) <<< s)`. -/
noncomputable def Op.run (f : Word → Word → Word → Word) (X : ℕ → Word) (r : Reg → Word) (o : Op) :
    Reg → Word :=
  Function.update r o.a
    (r o.b + (r o.a + f (r o.b) (r o.c) (r o.d) + X o.k + T o.i).rotateLeft o.s)

def round1 : List Op := [
  ⟨.A, .B, .C, .D, 0, 7, 1⟩, ⟨.D, .A, .B, .C, 1, 12, 2⟩,
  ⟨.C, .D, .A, .B, 2, 17, 3⟩, ⟨.B, .C, .D, .A, 3, 22, 4⟩,
  ⟨.A, .B, .C, .D, 4, 7, 5⟩, ⟨.D, .A, .B, .C, 5, 12, 6⟩,
  ⟨.C, .D, .A, .B, 6, 17, 7⟩, ⟨.B, .C, .D, .A, 7, 22, 8⟩,
  ⟨.A, .B, .C, .D, 8, 7, 9⟩, ⟨.D, .A, .B, .C, 9, 12, 10⟩,
  ⟨.C, .D, .A, .B, 10, 17, 11⟩, ⟨.B, .C, .D, .A, 11, 22, 12⟩,
  ⟨.A, .B, .C, .D, 12, 7, 13⟩, ⟨.D, .A, .B, .C, 13, 12, 14⟩,
  ⟨.C, .D, .A, .B, 14, 17, 15⟩, ⟨.B, .C, .D, .A, 15, 22, 16⟩]

def round2 : List Op := [
  ⟨.A, .B, .C, .D, 1, 5, 17⟩, ⟨.D, .A, .B, .C, 6, 9, 18⟩,
  ⟨.C, .D, .A, .B, 11, 14, 19⟩, ⟨.B, .C, .D, .A, 0, 20, 20⟩,
  ⟨.A, .B, .C, .D, 5, 5, 21⟩, ⟨.D, .A, .B, .C, 10, 9, 22⟩,
  ⟨.C, .D, .A, .B, 15, 14, 23⟩, ⟨.B, .C, .D, .A, 4, 20, 24⟩,
  ⟨.A, .B, .C, .D, 9, 5, 25⟩, ⟨.D, .A, .B, .C, 14, 9, 26⟩,
  ⟨.C, .D, .A, .B, 3, 14, 27⟩, ⟨.B, .C, .D, .A, 8, 20, 28⟩,
  ⟨.A, .B, .C, .D, 13, 5, 29⟩, ⟨.D, .A, .B, .C, 2, 9, 30⟩,
  ⟨.C, .D, .A, .B, 7, 14, 31⟩, ⟨.B, .C, .D, .A, 12, 20, 32⟩]

def round3 : List Op := [
  ⟨.A, .B, .C, .D, 5, 4, 33⟩, ⟨.D, .A, .B, .C, 8, 11, 34⟩,
  ⟨.C, .D, .A, .B, 11, 16, 35⟩, ⟨.B, .C, .D, .A, 14, 23, 36⟩,
  ⟨.A, .B, .C, .D, 1, 4, 37⟩, ⟨.D, .A, .B, .C, 4, 11, 38⟩,
  ⟨.C, .D, .A, .B, 7, 16, 39⟩, ⟨.B, .C, .D, .A, 10, 23, 40⟩,
  ⟨.A, .B, .C, .D, 13, 4, 41⟩, ⟨.D, .A, .B, .C, 0, 11, 42⟩,
  ⟨.C, .D, .A, .B, 3, 16, 43⟩, ⟨.B, .C, .D, .A, 6, 23, 44⟩,
  ⟨.A, .B, .C, .D, 9, 4, 45⟩, ⟨.D, .A, .B, .C, 12, 11, 46⟩,
  ⟨.C, .D, .A, .B, 15, 16, 47⟩, ⟨.B, .C, .D, .A, 2, 23, 48⟩]

def round4 : List Op := [
  ⟨.A, .B, .C, .D, 0, 6, 49⟩, ⟨.D, .A, .B, .C, 7, 10, 50⟩,
  ⟨.C, .D, .A, .B, 14, 15, 51⟩, ⟨.B, .C, .D, .A, 5, 21, 52⟩,
  ⟨.A, .B, .C, .D, 12, 6, 53⟩, ⟨.D, .A, .B, .C, 3, 10, 54⟩,
  ⟨.C, .D, .A, .B, 10, 15, 55⟩, ⟨.B, .C, .D, .A, 1, 21, 56⟩,
  ⟨.A, .B, .C, .D, 8, 6, 57⟩, ⟨.D, .A, .B, .C, 15, 10, 58⟩,
  ⟨.C, .D, .A, .B, 6, 15, 59⟩, ⟨.B, .C, .D, .A, 13, 21, 60⟩,
  ⟨.A, .B, .C, .D, 4, 6, 61⟩, ⟨.D, .A, .B, .C, 11, 10, 62⟩,
  ⟨.C, .D, .A, .B, 2, 15, 63⟩, ⟨.B, .C, .D, .A, 9, 21, 64⟩]

/-- One block of sixteen words `X`: the four rounds, and the sum with the registers as
    they were before. -/
noncomputable def processBlock (r : Reg → Word) (X : ℕ → Word) : Reg → Word :=
  let r₁ := round1.foldl (Op.run F X) r
  let r₂ := round2.foldl (Op.run G X) r₁
  let r₃ := round3.foldl (Op.run H X) r₂
  let r₄ := round4.foldl (Op.run I X) r₃
  fun x => r₄ x + r x

noncomputable def registers (m : List Bool) : Reg → Word :=
  let M := wordAt (paddedMessage m)
  (List.range ((paddedMessage m).length / 32 / 16)).foldl
    (fun r i => processBlock r fun j => M (i * 16 + j)) initial

/-! ## Output (section 3.5) -/

/-- **The message digest**: from the low-order byte of `A` to the high-order byte of
    `D`. -/
noncomputable def messageDigest (m : List Bool) : List UInt8 :=
  [Reg.A, .B, .C, .D].flatMap fun x => wordBytes (registers m x)

/-- A byte as two lower-case hexadecimal digits. -/
def hexDigits (b : UInt8) : List Char :=
  [Nat.digitChar (b.toNat / 16), Nat.digitChar (b.toNat % 16)]

end Axent.Lib.Rfc1321
