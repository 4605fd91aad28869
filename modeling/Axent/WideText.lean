/-
  Texts of HID devices (`src/transports/hidapi/hid_transport.cpp`): `wideToUtf8`
  transcodes what hidapi reports, and `HidApiBackend::open` widens the stored
  serial number byte by byte.

  A wide string is the list of its units before the terminator.  `Decodes` says
  what UTF-16 with replaced surrogates means; the decoder of UTF-8 is the one of
  the core library (`wideToUtf8_transcodes`).  The serial number comes back for
  ASCII texts only (`serial_selects_iff`).
-/
import Mathlib.Data.UInt
import Mathlib.Data.List.Basic

namespace Axent.WideText

def isHighSurrogate (codePoint : ℕ) : Bool := 0xD800 ≤ codePoint ∧ codePoint ≤ 0xDBFF

def isLowSurrogate (codePoint : ℕ) : Bool := 0xDC00 ≤ codePoint ∧ codePoint ≤ 0xDFFF

def utf8Replacement : List UInt8 := [0xEF, 0xBF, 0xBD]

/-- The bytes that `appendUtf8` appends. -/
def appendUtf8 (codePoint : ℕ) : List UInt8 :=
  if codePoint ≤ 0x7F then [.ofNat codePoint]
  else if codePoint ≤ 0x7FF then
    [.ofNat (0xC0 ||| codePoint >>> 6), .ofNat (0x80 ||| codePoint &&& 0x3F)]
  else if isHighSurrogate codePoint || isLowSurrogate codePoint then utf8Replacement
  else if codePoint ≤ 0xFFFF then
    [.ofNat (0xE0 ||| codePoint >>> 12), .ofNat (0x80 ||| codePoint >>> 6 &&& 0x3F),
      .ofNat (0x80 ||| codePoint &&& 0x3F)]
  else if codePoint ≤ 0x10FFFF then
    [.ofNat (0xF0 ||| codePoint >>> 18), .ofNat (0x80 ||| codePoint >>> 12 &&& 0x3F),
      .ofNat (0x80 ||| codePoint >>> 6 &&& 0x3F), .ofNat (0x80 ||| codePoint &&& 0x3F)]
  else utf8Replacement

/-- The code point of a surrogate pair. -/
def pairCodePoint (high low : ℕ) : ℕ := 0x10000 + ((high - 0xD800) <<< 10) + (low - 0xDC00)

/-- A unit that starts no pair. -/
def appendUnit (sizeofWchar unit : ℕ) : List UInt8 :=
  if sizeofWchar = 2 ∧ (isHighSurrogate unit ∨ isLowSurrogate unit) then utf8Replacement
  else appendUtf8 unit

def wideToUtf8 (sizeofWchar : ℕ) : List ℕ → List UInt8
  | [] => []
  | [unit] => appendUnit sizeofWchar unit
  | unit :: low :: rest =>
    if sizeofWchar = 2 ∧ isHighSurrogate unit ∧ isLowSurrogate low then
      appendUtf8 (pairCodePoint unit low) ++ wideToUtf8 sizeofWchar rest
    else appendUnit sizeofWchar unit ++ wideToUtf8 sizeofWchar (low :: rest)

/-- A `char` as a `wchar_t`, where `char` may be signed. -/
def charToWide (charSigned : Bool) (sizeofWchar : ℕ) (ch : UInt8) : ℕ :=
  if charSigned ∧ 0x80 ≤ ch.toNat then 2 ^ (8 * sizeofWchar) - 0x100 + ch.toNat else ch.toNat

/-- The serial number that `HidApiBackend::open` passes to `hid_open`. -/
def serialArgument (charSigned : Bool) (sizeofWchar : ℕ) (serialNumber : List UInt8) :
    Option (List ℕ) :=
  if serialNumber = [] then none else some (serialNumber.map (charToWide charSigned sizeofWchar))

/-! ## Meaning -/

/-- A unit as a scalar value, replaced when it is none. -/
def scalar (unit : ℕ) : Char := if unit.isValidChar then Char.ofNat unit else '�'

/-- The units of a scalar value in UTF-16. -/
def utf16 (c : Char) : List ℕ :=
  if c.toNat < 0x10000 then [c.toNat]
  else [0xD800 + (c.toNat - 0x10000) / 0x400, 0xDC00 + (c.toNat - 0x10000) % 0x400]

/-- UTF-16 where an unpaired surrogate stands for U+FFFD. -/
inductive Decodes : List ℕ → List Char → Prop
  | nil : Decodes [] []
  | scalar {units : List ℕ} {cs : List Char} (c : Char) (h : Decodes units cs) :
      Decodes (utf16 c ++ units) (c :: cs)
  | unpaired {units : List ℕ} {cs : List Char} {unit : ℕ}
      (hunit : isHighSurrogate unit ∨ isLowSurrogate unit)
      (hpair : isHighSurrogate unit → ∀ low ∈ units.head?, isLowSurrogate low = false)
      (h : Decodes units cs) : Decodes (unit :: units) ('�' :: cs)

def decodeUtf8 (bytes : List UInt8) : Option (List Char) :=
  bytes.toByteArray.utf8Decode?.map Array.toList

theorem decodeUtf8_encode (cs : List Char) :
    decodeUtf8 (cs.flatMap String.utf8EncodeChar) = some cs := by
  change (cs.utf8Encode.utf8Decode?).map Array.toList = some cs
  rw [List.utf8Decode?_utf8Encode]
  simp

/-! ## Encoding -/

theorem shiftRight_eq (n k : ℕ) : n >>> k = n / 2 ^ k := Nat.shiftRight_eq_div_pow n k

theorem and_eq (n : ℕ) : n &&& 0x3F = n % 64 := Nat.and_two_pow_sub_one_eq_mod n 6

theorem lead_or {i a b : ℕ} (h : b < 2 ^ i) : 2 ^ i * a ||| b = b + 2 ^ i * a := by
  rw [← Nat.two_pow_add_eq_or_of_lt h, Nat.add_comm]

theorem toNat_scalar (unit : ℕ) :
    (scalar unit).val.toNat = if unit.isValidChar then unit else 0xFFFD := by
  unfold scalar
  split_ifs with h
  · rw [Char.ofNat, dif_pos h]
    rfl
  · rfl

theorem appendUtf8_eq (unit : ℕ) : appendUtf8 unit = String.utf8EncodeChar (scalar unit) := by
  simp only [appendUtf8, String.utf8EncodeChar, toNat_scalar, Nat.isValidChar, isHighSurrogate,
    isLowSurrogate, Bool.or_eq_true, decide_eq_true_eq, shiftRight_eq, and_eq]
  have htail (n : ℕ) : 0x80 ||| n % 64 = n % 64 + 0x80 :=
    @lead_or 6 2 (n % 64) (Nat.mod_lt _ (by decide))
  split_ifs <;> try omega
  · rfl
  · have hlead : 0xC0 ||| unit / 2 ^ 6 = unit / 64 % 32 + 0xC0 := by
      rw [Nat.mod_eq_of_lt (by omega)]
      exact @lead_or 5 6 _ (by omega)
    rw [htail, hlead]
  · decide
  · have hlead : 0xE0 ||| unit / 2 ^ 12 = unit / 4096 % 16 + 0xE0 := by
      rw [Nat.mod_eq_of_lt (by omega)]
      exact @lead_or 4 14 _ (by omega)
    rw [htail, htail, hlead]
    rfl
  · have hlead : 0xF0 ||| unit / 2 ^ 18 = unit / 262144 % 8 + 0xF0 := by
      rw [Nat.mod_eq_of_lt (by omega)]
      exact @lead_or 3 30 _ (by omega)
    rw [htail, htail, htail, hlead]
    rfl
  · decide

/-! ## Transcoding -/

theorem replacement_eq : utf8Replacement = String.utf8EncodeChar '�' := by decide

theorem scalar_toNat (c : Char) : scalar c.toNat = c := by
  have hvalid : c.toNat.isValidChar := c.valid
  rw [scalar, if_pos hvalid, Char.ofNat_toNat]

theorem appendUtf8_toNat (c : Char) : appendUtf8 c.toNat = String.utf8EncodeChar c := by
  rw [appendUtf8_eq, scalar_toNat]

theorem pairCodePoint_eq (high low : ℕ) :
    pairCodePoint high low = 0x10000 + (high - 0xD800) * 0x400 + (low - 0xDC00) := by
  unfold pairCodePoint
  rw [Nat.shiftLeft_eq]

theorem pairCodePoint_split {n : ℕ} (h : 0x10000 ≤ n) :
    pairCodePoint (0xD800 + (n - 0x10000) / 0x400) (0xDC00 + (n - 0x10000) % 0x400) = n := by
  rw [pairCodePoint_eq]
  omega

/-- The pair of units of a scalar value above the first plane. -/
theorem utf16_pair {c : Char} (h : ¬ c.toNat < 0x10000) : ∃ high low, utf16 c = [high, low] ∧
    isHighSurrogate high ∧ isLowSurrogate low ∧ pairCodePoint high low = c.toNat := by
  have hmax : c.toNat < 0x110000 := by
    have hvalid : c.toNat < 0xD800 ∨ 0xDFFF < c.toNat ∧ c.toNat < 0x110000 := c.valid
    omega
  refine ⟨_, _, by rw [utf16, if_neg h], ?_, ?_, pairCodePoint_split (Nat.le_of_not_lt h)⟩
  · simp only [isHighSurrogate, decide_eq_true_eq]
    omega
  · simp only [isLowSurrogate, decide_eq_true_eq]
    omega

theorem not_surrogate (c : Char) :
    isHighSurrogate c.toNat = false ∧ isLowSurrogate c.toNat = false := by
  have hvalid : c.toNat < 0xD800 ∨ 0xDFFF < c.toNat ∧ c.toNat < 0x110000 := c.valid
  simp only [isHighSurrogate, isLowSurrogate, decide_eq_false_iff_not]
  omega

theorem wideToUtf8_unit {size unit : ℕ} {rest : List ℕ}
    (hpair : size = 2 → isHighSurrogate unit → ∀ low ∈ rest.head?, isLowSurrogate low = false) :
    wideToUtf8 size (unit :: rest) = appendUnit size unit ++ wideToUtf8 size rest := by
  cases rest with
  | nil => simp [wideToUtf8]
  | cons low rest =>
    rw [wideToUtf8, if_neg]
    rintro ⟨hsize, hhigh, hlow⟩
    simp [hpair hsize hhigh low rfl] at hlow

theorem wideToUtf8_pair {high low : ℕ} (rest : List ℕ) (hhigh : isHighSurrogate high)
    (hlow : isLowSurrogate low) : wideToUtf8 2 (high :: low :: rest) =
      appendUtf8 (pairCodePoint high low) ++ wideToUtf8 2 rest := by
  rw [wideToUtf8, if_pos ⟨rfl, hhigh, hlow⟩]

/-- The bytes are those of the decoded scalar values. -/
theorem Decodes.wideToUtf8_eq {units : List ℕ} {cs : List Char} (h : Decodes units cs) :
    wideToUtf8 2 units = cs.flatMap String.utf8EncodeChar := by
  induction h with
  | nil => rfl
  | scalar c _ ih =>
    rw [List.flatMap_cons, ← ih, ← appendUtf8_toNat]
    by_cases hc : c.toNat < 0x10000
    · rw [utf16, if_pos hc]
      obtain ⟨hhigh, hlow⟩ := not_surrogate c
      rw [List.singleton_append, wideToUtf8_unit (by simp [hhigh]), appendUnit]
      simp [hhigh, hlow]
    · obtain ⟨high, low, hpair, hhigh, hlow, hcode⟩ := utf16_pair hc
      rw [hpair, ← hcode]
      exact wideToUtf8_pair _ hhigh hlow
  | unpaired hunit hpair _ ih =>
    rw [List.flatMap_cons, ← ih, ← replacement_eq, wideToUtf8_unit fun _ => hpair, appendUnit,
      if_pos ⟨rfl, hunit⟩]

/-- A pair of surrogates is a scalar value. -/
theorem exists_utf16_pair {high low : ℕ} (hhigh : isHighSurrogate high)
    (hlow : isLowSurrogate low) : ∃ c, utf16 c = [high, low] := by
  simp only [isHighSurrogate, isLowSurrogate, decide_eq_true_eq] at hhigh hlow
  have hcode := pairCodePoint_eq high low
  have hvalid : (pairCodePoint high low).isValidChar := .inr (by omega)
  have hc : (scalar (pairCodePoint high low)).toNat = pairCodePoint high low := by
    have htoNat := toNat_scalar (pairCodePoint high low)
    rwa [if_pos hvalid] at htoNat
  refine ⟨scalar (pairCodePoint high low), ?_⟩
  rw [utf16, hc, if_neg (by omega), List.cons_eq_cons, List.cons_eq_cons]
  refine ⟨?_, ?_, rfl⟩ <;> omega

theorem toNat_scalar_unit {unit : ℕ} (hunit : unit < 0x10000)
    (h : ¬ (isHighSurrogate unit ∨ isLowSurrogate unit)) : (scalar unit).toNat = unit := by
  have htoNat := toNat_scalar unit
  rwa [if_pos] at htoNat
  simp only [isHighSurrogate, isLowSurrogate, decide_eq_true_eq] at h
  simp only [Nat.isValidChar]
  omega

/-- Every string of 16-bit units has a meaning, and so has the rest of it. -/
theorem exists_decodes (units : List ℕ) (h : ∀ u ∈ units, u < 0x10000) :
    (∃ cs, Decodes units cs) ∧ ∃ cs, Decodes units.tail cs := by
  induction units with
  | nil => exact ⟨⟨[], .nil⟩, [], .nil⟩
  | cons unit units ih =>
    obtain ⟨hunit, hunits⟩ := List.forall_mem_cons.1 h
    obtain ⟨⟨cs, hcs⟩, cs', hcs'⟩ := ih hunits
    refine ⟨?_, cs, hcs⟩
    by_cases hsurrogate : isHighSurrogate unit ∨ isLowSurrogate unit
    · by_cases hpair : isHighSurrogate unit → ∀ low ∈ units.head?, isLowSurrogate low = false
      · exact ⟨_, .unpaired hsurrogate hpair hcs⟩
      · -- the next unit belongs to this one
        push Not at hpair
        obtain ⟨hhigh, low, hhead, hlow⟩ := hpair
        obtain ⟨c, hc⟩ := exists_utf16_pair hhigh (by simpa using hlow)
        have hstep := hcs'.scalar c
        rw [hc, List.cons_append, List.singleton_append, List.cons_head?_tail hhead] at hstep
        exact ⟨_, hstep⟩
    · have hstep := hcs.scalar (scalar unit)
      rw [utf16, toNat_scalar_unit hunit hsurrogate, if_pos hunit] at hstep
      exact ⟨_, hstep⟩

/-- **`wideToUtf8` is a correct total transcoder**: its bytes decode to what the units mean. -/
theorem wideToUtf8_transcodes :
    (∀ units : List ℕ, (∀ u ∈ units, u < 2 ^ 16) →
      ∃ cs, Decodes units cs ∧ decodeUtf8 (wideToUtf8 2 units) = some cs) ∧
    (∀ cs : List Char, decodeUtf8 (wideToUtf8 2 (cs.flatMap utf16)) = some cs) ∧
    (∀ units : List ℕ, decodeUtf8 (wideToUtf8 4 units) = some (units.map scalar)) ∧
    ∀ cs : List Char, decodeUtf8 (wideToUtf8 4 (cs.map Char.toNat)) = some cs := by
  have hwide (units : List ℕ) : decodeUtf8 (wideToUtf8 4 units) = some (units.map scalar) := by
    rw [← decodeUtf8_encode]
    congr 1
    induction units with
    | nil => rfl
    | cons unit units ih =>
      rw [wideToUtf8_unit (by simp), ih, List.map_cons, List.flatMap_cons, appendUnit,
        if_neg (by simp), appendUtf8_eq]
  refine ⟨fun units h => ?_, fun cs => ?_, hwide, fun cs => ?_⟩
  · obtain ⟨cs, hcs⟩ := (exists_decodes units h).1
    exact ⟨cs, hcs, by rw [hcs.wideToUtf8_eq, decodeUtf8_encode]⟩
  · have hcs : Decodes (cs.flatMap utf16) cs := by
      induction cs with
      | nil => exact .nil
      | cons c cs ih => exact .scalar c ih
    rw [hcs.wideToUtf8_eq, decodeUtf8_encode]
  · rw [hwide, List.map_map]
    exact congrArg some ((List.map_congr_left fun c _ => scalar_toNat c).trans (List.map_id cs))

/-! ## Serial numbers -/

theorem length_appendUtf8 (unit : ℕ) : 1 ≤ (appendUtf8 unit).length ∧
    (0x80 ≤ unit → 2 ≤ (appendUtf8 unit).length) ∧
    (0x800 ≤ unit → 3 ≤ (appendUtf8 unit).length) := by
  unfold appendUtf8 utf8Replacement
  split_ifs
  all_goals
    simp only [List.length_cons, List.length_nil]
    omega

theorem length_appendUnit (size unit : ℕ) : 1 ≤ (appendUnit size unit).length ∧
    (0x80 ≤ unit → 2 ≤ (appendUnit size unit).length) := by
  unfold appendUnit
  split_ifs
  · simp [utf8Replacement]
  · exact ⟨(length_appendUtf8 unit).1, (length_appendUtf8 unit).2.1⟩

/-- A text has more bytes than units, unless it is ASCII. -/
theorem length_wideToUtf8 (size : ℕ) (units : List ℕ) :
    units.length ≤ (wideToUtf8 size units).length ∧
      ((wideToUtf8 size units).length = units.length → ∀ u ∈ units, u < 0x80) := by
  induction units using wideToUtf8.induct size with
  | case1 => simp [wideToUtf8]
  | case2 unit =>
    obtain ⟨hone, htwo⟩ := length_appendUnit size unit
    rw [wideToUtf8]
    refine ⟨hone, fun hlength => ?_⟩
    simp only [List.length_singleton] at hlength
    simp only [List.forall_mem_singleton]
    omega
  | case3 unit low rest hpair ih =>
    have hcode := pairCodePoint_eq unit low
    have hthree := (length_appendUtf8 (pairCodePoint unit low)).2.2 (by omega)
    have hmore := ih.1
    rw [wideToUtf8, if_pos hpair]
    simp only [List.length_append, List.length_cons]
    exact ⟨by omega, fun hlength => by omega⟩
  | case4 unit low rest hpair ih =>
    obtain ⟨hone, htwo⟩ := length_appendUnit size unit
    have hmore := ih.1
    rw [wideToUtf8, if_neg hpair]
    simp only [List.length_append, List.length_cons] at hmore ⊢
    refine ⟨by omega, fun hlength => List.forall_mem_cons.2 ⟨by omega, ih.2 ?_⟩⟩
    simp only [List.length_cons]
    omega

theorem wideToUtf8_ascii (size : ℕ) {units : List ℕ} (h : ∀ u ∈ units, u < 0x80) :
    wideToUtf8 size units = units.map UInt8.ofNat := by
  induction units with
  | nil => rfl
  | cons unit units ih =>
    obtain ⟨hunit, hunits⟩ := List.forall_mem_cons.1 h
    have hhigh : isHighSurrogate unit = false := by
      simp only [isHighSurrogate, decide_eq_false_iff_not]
      omega
    have hlow : isLowSurrogate unit = false := by
      simp only [isLowSurrogate, decide_eq_false_iff_not]
      omega
    rw [wideToUtf8_unit (by simp [hhigh]), ih hunits, appendUnit, if_neg (by simp [hhigh, hlow]),
      appendUtf8, if_pos (by omega)]
    rfl

/-- **The serial number selects the same device exactly for ASCII texts**: the wide string that is
    passed to `hid_open` is the reported one. -/
theorem serial_selects_iff (charSigned : Bool) (size : ℕ) (units : List ℕ) :
    serialArgument charSigned size (wideToUtf8 size units) = some units ↔
      units ≠ [] ∧ ∀ u ∈ units, u < 0x80 := by
  unfold serialArgument
  constructor
  · intro h
    split_ifs at h with hnil
    have hunits := Option.some.inj h
    have hlength := congrArg List.length hunits
    rw [List.length_map] at hlength
    refine ⟨?_, (length_wideToUtf8 size units).2 hlength⟩
    rintro rfl
    exact hnil rfl
  · rintro ⟨hne, hascii⟩
    have hwide : ∀ u ∈ units, charToWide charSigned size (UInt8.ofNat u) = u := by
      intro u hu
      have hu := hascii u hu
      have htoNat : (UInt8.ofNat u).toNat = u := Nat.mod_eq_of_lt (by omega)
      rw [charToWide, htoNat, if_neg (by omega)]
    rw [wideToUtf8_ascii size hascii, if_neg (by simpa using hne), List.map_map]
    exact congrArg some ((List.map_congr_left hwide).trans (List.map_id units))

/-- The serial number `é` is not found again, with wide characters of two and of four bytes. -/
theorem serial_not_selected :
    serialArgument true 2 (wideToUtf8 2 (utf16 'é')) ≠ some (utf16 'é') ∧
      serialArgument true 4 (wideToUtf8 4 ['é'.toNat]) ≠ some ['é'.toNat] := by
  decide

end Axent.WideText
