/-
  `md5_hex` (`src/firmware/md5.cpp`) computes the digest that RFC 1321 defines.

  * the padded bytes are the bits of the padded message (`paddedMessage_bits`),
  * the little-endian words of the code are the words of the bits (`readU32Le_eq`),
  * the 64 turns are the 64 operations of the four rounds: the code moves the values
    from variable to variable where the text renames the registers (`Views`),
  * the constants are the table of the sine function (`constants_eq`).
-/
import Axent.Md5
import Axent.Lib.Rfc1321
import Mathlib.Tactic.IntervalCases

namespace Axent.Md5

open Lib Lib.Rfc1321

/-! ## Padding -/

/-- The number of zero bytes behind `size` bytes. -/
def zeroBytes (size : ℕ) : ℕ := (120 - size % 64) % 64

theorem padZeros_eq (turns : ℕ) (message : List UInt8) (h : zeroBytes message.length ≤ turns) :
    padZeros turns message = message ++ List.replicate (zeroBytes message.length) 0 := by
  induction turns generalizing message with
  | zero =>
    rw [Nat.le_zero.1 h]
    simp [padZeros]
  | succ turns ih =>
    unfold padZeros
    split_ifs with hsize
    · have hzero : zeroBytes message.length = 0 := by
        unfold zeroBytes
        omega
      simp [hzero]
    · have hnext : zeroBytes message.length = zeroBytes (message ++ [0]).length + 1 := by
        unfold zeroBytes
        rw [List.length_append, List.length_singleton]
        omega
      rw [ih _ (by omega), hnext, List.replicate_succ, List.append_assoc]
      rfl

theorem toNat_lengthByte (size : ℕ) {index : ℕ} (h : index < 8) :
    (bitLength size >>> (UInt64.ofNat index * 8)).toUInt8.toNat =
      8 * size % 2 ^ 64 / 2 ^ (8 * index) % 256 := by
  have height : UInt64.toNat 8 = 8 := rfl
  have hshift : (UInt64.ofNat index * 8).toNat % 64 = 8 * index := by
    rw [UInt64.toNat_mul, UInt64.toNat_ofNat', height]
    omega
  have hlength : (bitLength size).toNat = 8 * size % 2 ^ 64 := by
    rw [bitLength, UInt64.toNat_mul, UInt64.toNat_ofNat', height]
    omega
  rw [UInt64.toNat_toUInt8, UInt64.toNat_shiftRight, hshift, hlength, Nat.shiftRight_eq_div_pow]

theorem lengthBytes_eq (size : ℕ) :
    lengthBytes size = wordBytes (BitVec.ofNat 32 (8 * size)) ++
      wordBytes (BitVec.ofNat 32 (8 * size / 2 ^ 32)) := by
  refine List.ext_getElem (by simp [lengthBytes, wordBytes]) fun index h _ => ?_
  have hindex : index < 8 := by simpa [lengthBytes] using h
  rw [← UInt8.toNat_inj]
  simp only [lengthBytes, List.getElem_map, List.getElem_range, toNat_lengthByte size hindex]
  interval_cases index <;>
    simp only [wordBytes, List.range, List.range.loop, List.map, List.cons_append,
      List.getElem_cons_succ, List.getElem_cons_zero, BitVec.toNat_ofNat, UInt8.toNat_ofNat',
      List.nil_append] <;> omega

/-- **The padded message** of the code, as bits. -/
theorem paddedMessage_bits (data : List UInt8) :
    paddedMessage (bits data) = bits (padded data) := by
  have hzeros : zeroBits (8 * data.length) = 7 + 8 * zeroBytes (data.length + 1) := by
    unfold zeroBits zeroBytes
    omega
  have hone : byteBits 0x80 = true :: List.replicate 7 false := by decide
  have hsize : zeroBytes (data ++ [0x80]).length ≤ 63 := by
    unfold zeroBytes
    omega
  rw [padded, padZeros_eq 63 _ hsize, lengthBytes_eq]
  simp only [bits_append, bits_replicate_zero, bits_cons, hone, paddedMessage, appendPadding,
    length_bits, lengthBits, List.length_append, List.length_singleton, hzeros]
  rw [← List.replicate_append_replicate]
  simp [bits]

/-! ## Words -/

theorem toBitVec_or_shift (b₀ b₁ b₂ b₃ : UInt8) :
    (b₀.toUInt32 ||| b₁.toUInt32 <<< 8 ||| b₂.toUInt32 <<< 16 ||| b₃.toUInt32 <<< 24).toBitVec =
      word b₀.toNat b₁.toNat b₂.toNat b₃.toNat := by
  have h₀ := b₀.toNat_lt
  have h₁ := b₁.toNat_lt
  have h₂ := b₂.toNat_lt
  have h₃ := b₃.toNat_lt
  have hshift (b : UInt8) (n : UInt32) (hn : n.toNat ≤ 24) :
      (b.toUInt32 <<< n).toNat = 2 ^ n.toNat * b.toNat := by
    have hb : b.toNat < 2 ^ 8 := b.toNat_lt
    have hpow : 2 ^ n.toNat * b.toNat < 2 ^ 32 :=
      calc 2 ^ n.toNat * b.toNat < 2 ^ n.toNat * 2 ^ 8 := by gcongr
        _ ≤ 2 ^ 24 * 2 ^ 8 := by gcongr; decide
        _ = 2 ^ 32 := rfl
    rw [UInt32.toNat_shiftLeft, UInt8.toNat_toUInt32, Nat.shiftLeft_eq, Nat.mul_comm,
      Nat.mod_eq_of_lt (a := n.toNat) (by omega), Nat.mod_eq_of_lt hpow]
  refine BitVec.eq_of_toNat_eq ?_
  rw [word, BitVec.toNat_ofNat]
  show UInt32.toNat _ = _
  rw [UInt32.toNat_or, UInt32.toNat_or, UInt32.toNat_or, hshift _ 8 (by decide),
    hshift _ 16 (by decide), hshift _ 24 (by decide), UInt8.toNat_toUInt32]
  have hadd (n x y : ℕ) (h : x < 2 ^ n) : x ||| 2 ^ n * y = 2 ^ n * y + x := by
    rw [Nat.or_comm, Nat.two_pow_add_eq_or_of_lt h]
  show b₀.toNat ||| 2 ^ 8 * b₁.toNat ||| 2 ^ 16 * b₂.toNat ||| 2 ^ 24 * b₃.toNat = _
  rw [hadd 8 _ _ h₀, hadd 16 _ _ (by omega), hadd 24 _ _ (by omega)]
  omega

theorem readU32Le_eq (l : List UInt8) (i : ℕ) :
    (readU32Le (l.drop (4 * i))).toBitVec = wordAt (bits l) i := by
  have hget (t : ℕ) : (l.drop (4 * i)).getD t 0 = l.getD (4 * i + t) 0 := by
    rw [List.getD_eq_getElem?_getD, List.getElem?_drop, ← List.getD_eq_getElem?_getD]
  simp only [wordAt, byteAt_bits, readU32Le, hget, Nat.add_zero]
  exact toBitVec_or_shift ..

/-! ## Turns -/

theorem floor_constants :
    ∀ j < 64, unitTurn.Floor 4294967296 (j + 1) (constants.getD j 0).toNat := by
  decide +kernel

/-- **The constants** are the table of the sine function. -/
theorem constants_eq {j : ℕ} (h : j < 64) : (constants.getD j 0).toBitVec = T (j + 1) := by
  rw [T, unitTurn.floor_sin (floor_constants j h)]
  refine BitVec.eq_of_toNat_eq ?_
  rw [BitVec.toNat_ofNat]
  exact (Nat.mod_eq_of_lt (UInt32.toNat_lt _)).symm

theorem rotateLeft_eq {value count : UInt32} (h₀ : 0 < count.toNat) (h : count.toNat < 32) :
    (rotateLeft value count).toBitVec = value.toBitVec.rotateLeft count.toNat := by
  have hcount : count.toBitVec.toNat = count.toNat := rfl
  have hrest : (32 - count).toBitVec.toNat = 32 - count.toNat := by
    show (32 - count).toNat = _
    rw [UInt32.toNat_sub_of_le _ _ (by rw [UInt32.le_iff_toNat_le]; exact h.le)]
    rfl
  rw [rotateLeft, UInt32.toBitVec_or, UInt32.toBitVec_shiftLeft, UInt32.toBitVec_shiftRight,
    BitVec.rotateLeft_def, Nat.mod_eq_of_lt h, BitVec.shiftLeft_eq', BitVec.ushiftRight_eq',
    BitVec.toNat_umod, BitVec.toNat_umod, hcount, hrest]
  have hmod : BitVec.toNat (32 : BitVec 32) = 32 := rfl
  rw [hmod, Nat.mod_eq_of_lt h, Nat.mod_eq_of_lt (by omega)]

/-- The registers that the variables `a`, `b`, `c` and `d` hold before turn `j`. -/
def registersAt (j : ℕ) : Reg × Reg × Reg × Reg :=
  match j % 4 with
  | 0 => (.A, .B, .C, .D)
  | 1 => (.D, .A, .B, .C)
  | 2 => (.C, .D, .A, .B)
  | _ => (.B, .C, .D, .A)

/-- The variables before turn `j` hold the registers. -/
structure Views (j : ℕ) (s : Digest) (r : Reg → Word) : Prop where
  a : s.a.toBitVec = r (registersAt j).1
  b : s.b.toBitVec = r (registersAt j).2.1
  c : s.c.toBitVec = r (registersAt j).2.2.1
  d : s.d.toBitVec = r (registersAt j).2.2.2

/-- The operation of turn `j`. -/
def IsTurn (o : Op) (j : ℕ) : Prop :=
  (o.a, o.b, o.c, o.d) = registersAt j ∧ o.k = (mix {} j).2 ∧ o.k < 16 ∧
    o.s = (rotations.getD j 0).toNat ∧ 0 < o.s ∧ o.s < 32 ∧ o.i = j + 1

instance (o : Op) (j : ℕ) : Decidable (IsTurn o j) := inferInstanceAs (Decidable (_ ∧ _))

theorem rounds_are_turns :
    (∀ p ∈ round1.zipIdx 0, IsTurn p.1 p.2) ∧ (∀ p ∈ round2.zipIdx 16, IsTurn p.1 p.2) ∧
      (∀ p ∈ round3.zipIdx 32, IsTurn p.1 p.2) ∧ ∀ p ∈ round4.zipIdx 48, IsTurn p.1 p.2 := by
  decide +kernel

theorem mix_snd (s s' : Digest) (j : ℕ) : (mix s j).2 = (mix s' j).2 := by
  unfold mix
  split_ifs <;> rfl

theorem registersAt_succ (j : ℕ) :
    registersAt (j + 1) = ((registersAt j).2.2.2, (registersAt j).1, (registersAt j).2.1,
      (registersAt j).2.2.1) ∧
    (registersAt j).2.1 ≠ (registersAt j).1 ∧ (registersAt j).2.2.1 ≠ (registersAt j).1 ∧
    (registersAt j).2.2.2 ≠ (registersAt j).1 := by
  have hsucc : (j + 1) % 4 = (j % 4 + 1) % 4 := by omega
  have hlt : j % 4 < 4 := Nat.mod_lt _ (by decide)
  unfold registersAt
  rw [hsucc]
  generalize j % 4 = n at hlt
  interval_cases n <;> decide

/-- **One turn is one operation.** -/
theorem Views.turn {words : List UInt32} {X : ℕ → Word} {f : Word → Word → Word → Word} {o : Op}
    {j : ℕ} {s : Digest} {r : Reg → Word} (h : Views j s r) (hj : j < 64) (ho : IsTurn o j)
    (hwords : ∀ k < 16, (words.getD k 0).toBitVec = X k)
    (hf : (mix s j).1.toBitVec = f s.b.toBitVec s.c.toBitVec s.d.toBitVec) :
    Views (j + 1) (turn words s j) (o.run f X r) := by
  obtain ⟨hregs, hk, hk', hs, hs₀, hs', hi⟩ := ho
  obtain ⟨hnext, hb, hc, hd⟩ := registersAt_succ j
  obtain ⟨ha', hb', hc', hd'⟩ := h
  rw [← hregs] at hnext hb hc hd ha' hb' hc' hd'
  dsimp only at hnext hb hc hd ha' hb' hc' hd'
  have hvalue : (Md5.turn words s j).b.toBitVec =
      r o.b + (r o.a + f (r o.b) (r o.c) (r o.d) + X o.k + T o.i).rotateLeft o.s := by
    have hword : (words.getD (mix s j).2 0).toBitVec = X o.k := by
      rw [mix_snd s {} j, ← hk]
      exact hwords o.k hk'
    have hrotate (value : UInt32) : (rotateLeft value (rotations.getD j 0)).toBitVec =
        value.toBitVec.rotateLeft o.s := by
      rw [hs] at hs₀ hs' ⊢
      exact rotateLeft_eq hs₀ hs'
    rw [hb', hc', hd'] at hf
    show (s.b + rotateLeft (s.a + (mix s j).1 + constants.getD j 0 + words.getD (mix s j).2 0)
      (rotations.getD j 0)).toBitVec = _
    rw [UInt32.toBitVec_add, hrotate, UInt32.toBitVec_add, UInt32.toBitVec_add,
      UInt32.toBitVec_add, ha', hb', hf, hword, constants_eq hj, hi,
      BitVec.add_assoc _ (T (j + 1)), BitVec.add_comm (T (j + 1)), ← BitVec.add_assoc]
  constructor <;> rw [hnext, Op.run]
  · rw [Function.update_of_ne hd]
    exact hd'
  · rw [Function.update_self]
    exact hvalue
  · rw [Function.update_of_ne hb]
    exact hb'
  · rw [Function.update_of_ne hc]
    exact hc'

/-- **A round is sixteen turns**: the operations of a list, from turn `start` on. -/
theorem Views.round {words : List UInt32} {X : ℕ → Word} {f : Word → Word → Word → Word}
    (hwords : ∀ k < 16, (words.getD k 0).toBitVec = X k) (ops : List Op) (start : ℕ) {s : Digest}
    {r : Reg → Word} (h : Views start s r) (hops : ∀ p ∈ ops.zipIdx start, IsTurn p.1 p.2)
    (hlen : start + ops.length ≤ 64)
    (hf : ∀ j, start ≤ j → j < start + ops.length → ∀ s : Digest,
      (mix s j).1.toBitVec = f s.b.toBitVec s.c.toBitVec s.d.toBitVec) :
    Views (start + ops.length) ((List.range' start ops.length).foldl (Md5.turn words) s)
      (ops.foldl (Op.run f X) r) := by
  induction ops generalizing start s r with
  | nil => exact h
  | cons o ops ih =>
    rw [List.zipIdx_cons, List.forall_mem_cons] at hops
    rw [List.length_cons] at hlen hf ⊢
    have hstep := h.turn (by omega) hops.1 hwords (hf start le_rfl (by omega) s)
    rw [List.range'_succ, List.foldl_cons, List.foldl_cons,
      show start + (ops.length + 1) = start + 1 + ops.length by omega]
    exact ih (start + 1) hstep hops.2 (by omega) fun j hj hj' => hf j (by omega) (by omega)

/-- The mixing functions are the auxiliary functions of the rounds. -/
theorem mix_round1 {j : ℕ} (h : j < 16) (s : Digest) :
    (mix s j).1.toBitVec = F s.b.toBitVec s.c.toBitVec s.d.toBitVec := by
  rw [mix, if_pos h]
  rfl

theorem mix_round2 {j : ℕ} (h : 16 ≤ j) (h' : j < 32) (s : Digest) :
    (mix s j).1.toBitVec = G s.b.toBitVec s.c.toBitVec s.d.toBitVec := by
  rw [mix, if_neg (by omega), if_pos h', G, BitVec.and_comm s.b.toBitVec,
    BitVec.and_comm s.c.toBitVec]
  rfl

theorem mix_round3 {j : ℕ} (h : 32 ≤ j) (h' : j < 48) (s : Digest) :
    (mix s j).1.toBitVec = H s.b.toBitVec s.c.toBitVec s.d.toBitVec := by
  rw [mix, if_neg (by omega), if_neg (by omega), if_pos h']
  rfl

theorem mix_round4 {j : ℕ} (h : 48 ≤ j) (s : Digest) :
    (mix s j).1.toBitVec = I s.b.toBitVec s.c.toBitVec s.d.toBitVec := by
  rw [mix, if_neg (by omega), if_neg (by omega), if_neg (by omega)]
  rfl

/-- **The 64 turns** are the four rounds. -/
theorem turns_are_rounds {words : List UInt32} {X : ℕ → Word} {s : Digest} {r : Reg → Word}
    (hwords : ∀ k < 16, (words.getD k 0).toBitVec = X k) (h : Views 0 s r) :
    Views 64 ((List.range 64).foldl (turn words) s)
      (round4.foldl (Op.run I X) (round3.foldl (Op.run H X)
        (round2.foldl (Op.run G X) (round1.foldl (Op.run F X) r)))) := by
  obtain ⟨hops₁, hops₂, hops₃, hops₄⟩ := rounds_are_turns
  have h₁ := h.round hwords round1 0 hops₁ (by decide) fun j _ hj =>
    mix_round1 (by rwa [Nat.zero_add] at hj)
  have h₂ := h₁.round hwords round2 16 hops₂ (by decide) fun j hj hj' => mix_round2 hj hj'
  have h₃ := h₂.round hwords round3 32 hops₃ (by decide) fun j hj hj' => mix_round3 hj hj'
  have h₄ := h₃.round hwords round4 48 hops₄ (by decide) fun j hj _ => mix_round4 hj
  have hrange : List.range 64 =
      List.range' 0 16 ++ List.range' 16 16 ++ List.range' 32 16 ++ List.range' 48 16 := rfl
  rw [hrange, List.foldl_append, List.foldl_append, List.foldl_append]
  exact h₄

/-- **One block**: the rounds, and the sum with the registers before. -/
theorem Views.block {h : Digest} {r : Reg → Word} (hv : Views 0 h r) (message : List UInt8)
    (i : ℕ) :
    Views 0 (Md5.block message h (i * 64))
      (processBlock r fun j => wordAt (bits message) (i * 16 + j)) := by
  have hwords (k : ℕ) (hk : k < 16) :
      (((List.range 16).map fun index => readU32Le (message.drop (i * 64 + index * 4))).getD k
        0).toBitVec = wordAt (bits message) (i * 16 + k) := by
    rw [← readU32Le_eq, List.getD_eq_getElem?_getD]
    simp only [List.getElem?_map, List.getElem?_range hk, Option.map_some, Option.getD_some]
    congr 4
    omega
  have hturns := turns_are_rounds hwords hv
  constructor
  · exact (BitVec.add_comm ..).trans (congrArg₂ (· + ·) hturns.a hv.a)
  · exact (BitVec.add_comm ..).trans (congrArg₂ (· + ·) hturns.b hv.b)
  · exact (BitVec.add_comm ..).trans (congrArg₂ (· + ·) hturns.c hv.c)
  · exact (BitVec.add_comm ..).trans (congrArg₂ (· + ·) hturns.d hv.d)

theorem initial_eq : Views 0 {} initial := ⟨by decide, by decide, by decide, by decide⟩

/-- **The digest** of the code holds the registers. -/
theorem digest_eq (data : List UInt8) : Views 0 (digest data) (registers (bits data)) := by
  have hblocks (n : ℕ) : Views 0
      ((List.range n).foldl (fun h i => block (padded data) h (i * 64)) {})
      ((List.range n).foldl
        (fun r i => processBlock r fun j => wordAt (bits (padded data)) (i * 16 + j)) initial) := by
    induction n with
    | zero => exact initial_eq
    | succ n ih =>
      rw [List.range_succ, List.foldl_append, List.foldl_append]
      exact ih.block (padded data) n
  have hlength : (bits (padded data)).length / 32 / 16 = (padded data).length / 64 := by
    rw [length_bits]
    omega
  rw [registers, digest, paddedMessage_bits, hlength]
  exact hblocks _

/-! ## Output -/

theorem hexByte_eq (b : UInt8) : hexByte b = hexDigits b := by
  have hall : ∀ n < 256, hexByte (UInt8.ofNat n) = hexDigits (UInt8.ofNat n) := by decide +kernel
  have h := hall b.toNat b.toNat_lt
  rwa [UInt8.ofNat_toNat] at h

theorem wordBytes_eq (w : UInt32) :
    ((List.range 4).map fun index => (w >>> (UInt32.ofNat index * 8)).toUInt8) =
      wordBytes w.toBitVec := by
  refine List.map_congr_left fun index hindex => ?_
  rw [List.mem_range] at hindex
  have hshift : (UInt32.ofNat index * 8).toNat % 32 = 8 * index := by
    interval_cases index <;> rfl
  rw [← UInt8.toNat_inj, UInt32.toNat_toUInt8, UInt32.toNat_shiftRight, hshift,
    Nat.shiftRight_eq_div_pow, UInt8.toNat_ofNat']
  rfl

/-- **`md5_hex` is MD5**: for every byte string, the text is the message digest of its
    bits, in hexadecimal digits. -/
theorem md5Hex_eq_rfc1321 (data : List UInt8) :
    md5Hex data = String.ofList ((messageDigest (bits data)).flatMap hexDigits) := by
  obtain ⟨ha, hb, hc, hd⟩ := digest_eq data
  have hword (w : UInt32) :
      ((List.range 4).flatMap fun index => hexByte (w >>> (UInt32.ofNat index * 8)).toUInt8) =
        (wordBytes w.toBitVec).flatMap hexDigits := by
    rw [← wordBytes_eq, List.flatMap_map]
    simp only [hexByte_eq]
  rw [md5Hex, messageDigest]
  simp only [hword, List.flatMap_cons, ha, hb, hc, hd]
  rfl

-- `abc`, from the test suite of the text
example : md5Hex [0x61, 0x62, 0x63] = "900150983cd24fb0d6963f7d28e17f72" := by decide +kernel

end Axent.Md5
