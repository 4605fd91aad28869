/-
  The hex text of the AXTP tool (`src/tooling/axtp_cli.cpp`): `parse_hex` drops
  separators and `0x` before it reads two digits at a time, `to_hex` writes two
  digits for a byte.

  What `to_hex` writes is read back, also with separators and `0x` in front of,
  between and behind the pairs of digits (`parseHex_toHex`).  Characters are
  the bytes of the text.
-/
import Mathlib.Data.UInt
import Mathlib.Data.List.Basic
import Mathlib.Tactic.IntervalCases

namespace Axent.AxtpCli

/-- `hex_nibble`, with `none` for `-1`. -/
def hexNibble (ch : Char) : Option ℕ :=
  if '0' ≤ ch ∧ ch ≤ '9' then some (ch.toNat - '0'.toNat)
  else if 'a' ≤ ch ∧ ch ≤ 'f' then some (10 + (ch.toNat - 'a'.toNat))
  else if 'A' ≤ ch ∧ ch ≤ 'F' then some (10 + (ch.toNat - 'A'.toNat))
  else none

/-- The separators: `std::isspace`, `_` and `-`. -/
def isSeparator (ch : Char) : Bool :=
  ch ∈ [' ', '\t', '\n', '\x0b', '\x0c', '\r', '_', '-']

/-- The text without separators and `0x`, from the first loop of `parse_hex`. -/
def compact : List Char → List Char
  | '0' :: 'x' :: text => compact text
  | '0' :: 'X' :: text => compact text
  | ch :: text => if isSeparator ch then compact text else ch :: compact text
  | [] => []

/-- The bytes of pairs of digits, from the second loop of `parse_hex`. -/
def readPairs : List Char → Option (List UInt8)
  | hi :: lo :: text => do
    let hi ← hexNibble hi
    let lo ← hexNibble lo
    let bytes ← readPairs text
    return UInt8.ofNat (hi <<< 4 ||| lo) :: bytes
  | _ => some []

def parseHex (text : List Char) : Option (List UInt8) :=
  let compact := compact text
  if compact.length % 2 ≠ 0 then none else readPairs compact

/-- A digit of `k_digits`. -/
def digit (n : ℕ) : Char := "0123456789abcdef".toList.getD n '0'

/-- The digits of a byte. -/
def hexPair (byte : UInt8) : List Char :=
  [digit (byte.toNat >>> 4 &&& 0x0F), digit (byte.toNat &&& 0x0F)]

def toHex (bytes : List UInt8) : List Char := bytes.flatMap hexPair

/-- The texts with the digits of some bytes, and with separators and `0x` around the pairs. -/
inductive Spaced : List UInt8 → List Char → Prop
  | nil : Spaced [] []
  | separator {bytes : List UInt8} {text : List Char} {ch : Char} (hch : isSeparator ch = true)
      (h : Spaced bytes text) : Spaced bytes (ch :: text)
  | hexMark {bytes : List UInt8} {text : List Char} {x : Char} (hx : x = 'x' ∨ x = 'X')
      (h : Spaced bytes text) : Spaced bytes ('0' :: x :: text)
  | pair {bytes : List UInt8} {text : List Char} (byte : UInt8) (h : Spaced bytes text) :
      Spaced (byte :: bytes) (hexPair byte ++ text)

/-! ## Digits -/

/-- A digit is no separator and no part of `0x`, and it is read back. -/
theorem digit_spec {n : ℕ} (hn : n < 16) :
    hexNibble (digit n) = some n ∧ isSeparator (digit n) = false ∧ digit n ≠ 'x' ∧
      digit n ≠ 'X' := by
  interval_cases n <;> decide

theorem nibble_lt (n : ℕ) : n &&& 0x0F < 16 := Nat.and_lt_two_pow n (show 15 < 2 ^ 4 by decide)

theorem byte_halves (byte : UInt8) :
    UInt8.ofNat ((byte.toNat >>> 4 &&& 0x0F) <<< 4 ||| byte.toNat &&& 0x0F) = byte := by
  obtain ⟨⟨⟨n, hn⟩⟩⟩ := byte
  revert n
  decide +kernel

/-! ## Reading back -/

theorem compact_cons {ch : Char} {text : List Char} (hch : isSeparator ch = false)
    (hx : text.head? ≠ some 'x') (hX : text.head? ≠ some 'X') :
    compact (ch :: text) = ch :: compact text := by
  rw [compact]
  · simp [hch]
  · rintro _ - rfl
    simp at hx
  · rintro _ - rfl
    simp at hX

theorem compact_separator {ch : Char} (text : List Char) (hch : isSeparator ch = true) :
    compact (ch :: text) = compact text := by
  have h0 : ch ≠ '0' := by
    rintro rfl
    cases hch
  rw [compact]
  · simp [hch]
  · exact fun _ h => absurd h h0
  · exact fun _ h => absurd h h0

/-- Behind a digit comes no `x` that would make it a `0x`. -/
theorem Spaced.head_ne {bytes : List UInt8} {text : List Char} (h : Spaced bytes text) {x : Char}
    (hx : x = 'x' ∨ x = 'X') : text.head? ≠ some x := by
  cases h with
  | nil => simp
  | separator hch =>
    rintro ⟨⟩
    rcases hx with rfl | rfl <;> cases hch
  | hexMark => rcases hx with rfl | rfl <;> simp
  | pair byte h =>
    have hdigit := digit_spec (nibble_lt (byte.toNat >>> 4))
    rcases hx with rfl | rfl
    · simpa [hexPair] using hdigit.2.2.1
    · simpa [hexPair] using hdigit.2.2.2

theorem Spaced.compact_eq {bytes : List UInt8} {text : List Char} (h : Spaced bytes text) :
    compact text = toHex bytes := by
  induction h with
  | nil => rfl
  | separator hch _ ih => rw [compact_separator _ hch, ih]
  | hexMark hx _ ih => rcases hx with rfl | rfl <;> rw [compact, ih]
  | pair byte h ih =>
    obtain ⟨-, hhi, -, -⟩ := digit_spec (nibble_lt (byte.toNat >>> 4))
    obtain ⟨-, hlo, hx, hX⟩ := digit_spec (nibble_lt byte.toNat)
    simp only [hexPair, List.cons_append, List.nil_append]
    rw [compact_cons hhi (by simpa using hx) (by simpa using hX),
      compact_cons hlo (h.head_ne (.inl rfl)) (h.head_ne (.inr rfl)), ih]
    rfl

theorem length_toHex (bytes : List UInt8) : (toHex bytes).length = bytes.length * 2 := by
  simp [toHex, hexPair, List.length_flatMap]

theorem readPairs_toHex (bytes : List UInt8) : readPairs (toHex bytes) = some bytes := by
  induction bytes with
  | nil => rfl
  | cons byte bytes ih =>
    rw [toHex, List.flatMap_cons, ← toHex]
    simp only [hexPair, List.cons_append, List.nil_append, readPairs,
      (digit_spec (nibble_lt _)).1, ih]
    exact congrArg (fun b => some (b :: bytes)) (byte_halves byte)

theorem spaced_toHex (bytes : List UInt8) : Spaced bytes (toHex bytes) := by
  induction bytes with
  | nil => exact .nil
  | cons byte bytes ih => exact .pair byte ih

/-- **Hex text round trip**: the digits of a byte string are read back, whatever separators and
    `0x` stand around the pairs. -/
theorem parseHex_toHex (bytes : List UInt8) :
    parseHex (toHex bytes) = some bytes ∧
      ∀ text, Spaced bytes text → parseHex text = some bytes := by
  have hspaced (text : List Char) (h : Spaced bytes text) : parseHex text = some bytes := by
    have heven : (toHex bytes).length % 2 = 0 := by simp [length_toHex]
    rw [parseHex, h.compact_eq]
    simp [heven, readPairs_toHex]
  exact ⟨hspaced _ (spaced_toHex bytes), hspaced⟩

end Axent.AxtpCli
