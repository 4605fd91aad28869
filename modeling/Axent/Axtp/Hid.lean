/-
  HID devices as the `AxtpAdapter` sees them (`src/adapters/axtp_adapter.cpp`).

  `descriptor_id_for` prints the id of a device, and
  `populate_selector_identity_from_device_id` reads it back
  (`device_id_parsed`).  `project_hid_devices` makes descriptors and snapshots of the
  rows of an enumeration: a row claims its id, and rows at different paths or interfaces
  that claim the same id make it ambiguous (`Lib.Claim`).  What depends on the order of
  the rows is in `projection_order`.

  The hash that names the endpoint of a serial number, `axtp::endpointIdFromKey`, is a
  parameter.
-/
import Axent.Types
import Axent.Axtp.Contexts
import Axent.Axtp.Media
import Axent.Lib.Claim
import Mathlib.Data.List.TakeWhile
import Mathlib.Data.Option.Basic

namespace Axent.Axtp

open Lib

/-! ## Devices and their ids -/

/-- A row of a HID enumeration. -/
structure HidDeviceInfo where
  path : String := ""
  vendorId : UInt16 := 0
  productId : UInt16 := 0
  serialNumber : String := ""
  manufacturer : String := ""
  product : String := ""
  usagePage : UInt16 := 0
  usage : UInt16 := 0
  interfaceNumber : ℤ := -1
  busType : String := ""
  deriving DecidableEq, Repr

/-- `descriptor_id_for`. -/
def descriptorIdFor (device : HidDeviceInfo) : String :=
  let ids := "hid:" ++ hex4 device.vendorId.toNat ++ ":" ++ hex4 device.productId.toNat
  if device.serialNumber ≠ "" then ids ++ ":" ++ device.serialNumber
  else if device.path ≠ "" then ids ++ ":" ++ device.path
  else ids

/-- `descriptor_from_hid_device`. -/
def descriptorFromHidDevice (device : HidDeviceInfo) : TransportDescriptor where
  id := descriptorIdFor device
  kind := .hid
  online := true
  vendorId := device.vendorId
  productId := device.productId
  usagePage := device.usagePage
  usage := device.usage
  interfaceNumber := device.interfaceNumber
  path := device.path
  serialNumber := device.serialNumber
  manufacturer := device.manufacturer
  product := device.product
  busType := device.busType

/-- `matches_selector`. -/
def matchesSelector (selector : TransportSelector) (device : HidDeviceInfo) : Bool :=
  selector.kind = .hid &&
    (selector.vendorId = 0 || device.vendorId = selector.vendorId) &&
    (selector.productId = 0 || device.productId = selector.productId) &&
    (selector.usagePage = 0 || device.usagePage = selector.usagePage) &&
    (selector.usage = 0 || device.usage = selector.usage) &&
    (selector.path = "" || device.path = selector.path) &&
    (selector.serialNumber = "" || device.serialNumber = selector.serialNumber)

section
variable (endpointIdFromKey : String → String)

/-- `snapshot_from_descriptor`. -/
def snapshotFromDescriptor (descriptor : TransportDescriptor) (mode : EndpointDeliveryMode) :
    DeviceSnapshot where
  id := descriptor.id
  adapter := "axtp"
  identity :=
    { vendor := descriptor.manufacturer
      model := descriptor.product
      serialNumber := descriptor.serialNumber }
  connection :=
    { online := descriptor.online, transport := "hid", lastChangeReason := "hid-discovered" }
  status := { health := if descriptor.online then "ready" else "offline" }
  endpointDeliveryMode := mode
  endpointId :=
    if descriptor.kind = .hid ∧ descriptor.serialNumber ≠ "" then
      endpointIdFromKey ("device:axtp:hid:" ++ hex4 descriptor.vendorId.toNat ++ ":" ++
        hex4 descriptor.productId.toNat ++ ":" ++ descriptor.serialNumber)
    else ""

/-! ## Projection -/

/-- The rows are the same HID interface. -/
def sameInterface (existing descriptor : TransportDescriptor) : Bool :=
  descriptor.path ≠ "" && existing.path = descriptor.path &&
    existing.interfaceNumber = descriptor.interfaceNumber

/-- One turn of the loop of `project_hid_devices`. -/
def projectHidDevice (selector : TransportSelector) (projection : DiscoveryProjection)
    (device : HidDeviceInfo) : DiscoveryProjection :=
  if !matchesSelector selector device then projection
  else
    let descriptor := descriptorFromHidDevice device
    if descriptor.id ∈ projection.ambiguousDeviceIds then projection
    else
      match projection.descriptors[descriptor.id]? with
      | none =>
        { projection with descriptors := projection.descriptors.insert descriptor.id descriptor }
      | some existing =>
        if sameInterface existing descriptor then projection
        else
          { descriptors := projection.descriptors.erase descriptor.id
            ambiguousDeviceIds := descriptor.id :: projection.ambiguousDeviceIds }

/-- `detail::AxtpDiscoveryProjection`. -/
structure HidProjection extends DiscoveryProjection where
  devices : List DeviceSnapshot := []

/-- `project_hid_devices`. -/
def projectHidDevices (selector : TransportSelector) (hidDevices : List HidDeviceInfo)
    (mode : EndpointDeliveryMode) : HidProjection :=
  let projection := hidDevices.foldl (projectHidDevice selector) {}
  { projection with
    devices := projection.descriptors.toList.map fun entry =>
      snapshotFromDescriptor endpointIdFromKey entry.2 mode }

end

/-! ### The claims of the rows -/

/-- The rows that the loop looks at. -/
def hidRows (selector : TransportSelector) (hidDevices : List HidDeviceInfo) :
    List TransportDescriptor :=
  (hidDevices.filter (matchesSelector selector)).map descriptorFromHidDevice

/-- Who holds the id `id`. -/
def claim (rows : List TransportDescriptor) (id : String) : Claim TransportDescriptor :=
  Claim.of sameInterface (rows.filter (·.id = id))

/-- The projection holds what the rows claim. -/
structure Projects (projection : DiscoveryProjection) (rows : List TransportDescriptor) : Prop where
  descriptors : ∀ id, projection.descriptors[id]? = (claim rows id).holder
  ambiguous : ∀ id, id ∈ projection.ambiguousDeviceIds ↔ claim rows id = .ambiguous

theorem claim_concat (rows : List TransportDescriptor) (d : TransportDescriptor) (id : String) :
    claim (rows ++ [d]) id =
      if d.id = id then (claim rows id).add sameInterface d else claim rows id := by
  unfold claim
  rw [List.filter_append]
  split_ifs with h
  · rw [List.filter_cons_of_pos (by simpa using h), List.filter_nil, Claim.of_concat]
  · rw [List.filter_cons_of_neg (by simpa using h), List.filter_nil, List.append_nil]

/-- A row changes nothing about the other ids. -/
theorem Projects.concat {projection projection' : DiscoveryProjection}
    {rows : List TransportDescriptor} {d : TransportDescriptor} (h : Projects projection rows)
    (hd : projection'.descriptors[d.id]? = ((claim rows d.id).add sameInterface d).holder)
    (ha : d.id ∈ projection'.ambiguousDeviceIds ↔
      (claim rows d.id).add sameInterface d = .ambiguous)
    (hother : ∀ id, d.id ≠ id →
      projection'.descriptors[id]? = projection.descriptors[id]? ∧
        (id ∈ projection'.ambiguousDeviceIds ↔ id ∈ projection.ambiguousDeviceIds)) :
    Projects projection' (rows ++ [d]) := by
  constructor <;> intro id <;> rw [claim_concat] <;> split_ifs with hid
  · exact hid ▸ hd
  · exact (hother id hid).1.trans (h.descriptors id)
  · exact hid ▸ ha
  · exact (hother id hid).2.trans (h.ambiguous id)

/-- **One row.** -/
theorem Projects.row {projection : DiscoveryProjection} {rows : List TransportDescriptor}
    (h : Projects projection rows) {selector : TransportSelector} {device : HidDeviceInfo}
    (hm : matchesSelector selector device = true) :
    Projects (projectHidDevice selector projection device)
      (rows ++ [descriptorFromHidDevice device]) := by
  unfold projectHidDevice
  rw [if_neg (by simp [hm])]
  generalize descriptorFromHidDevice device = d
  have hd := h.descriptors d.id
  have ha := h.ambiguous d.id
  dsimp only
  cases hc : claim rows d.id with
  | absent =>
    rw [hc] at hd ha
    have hfree : d.id ∉ projection.ambiguousDeviceIds := fun hmem => by cases ha.1 hmem
    rw [if_neg hfree, hd]
    dsimp only [Claim.holder]
    refine h.concat ?_ ?_ fun id hid => ⟨?_, Iff.rfl⟩
    · rw [hc]
      exact Std.TreeMap.getElem?_insert_self
    · rw [hc]
      exact iff_of_false hfree (by rintro ⟨⟩)
    · rw [Std.TreeMap.getElem?_insert, if_neg (by simpa using hid)]
  | single e =>
    rw [hc] at hd ha
    have hfree : d.id ∉ projection.ambiguousDeviceIds := fun hmem => by cases ha.1 hmem
    rw [if_neg hfree, hd]
    dsimp only [Claim.holder]
    split_ifs with hsame
    · refine h.concat ?_ ?_ fun id _ => ⟨rfl, Iff.rfl⟩
      · rw [hc, hd, Claim.add, if_pos hsame]
      · rw [hc, Claim.add, if_pos hsame]
        exact iff_of_false hfree (by rintro ⟨⟩)
    · refine h.concat ?_ ?_ fun id hid => ⟨?_, ?_⟩
      · rw [hc, Claim.add, if_neg hsame]
        exact Std.TreeMap.getElem?_erase_self
      · rw [hc, Claim.add, if_neg hsame]
        exact iff_of_true List.mem_cons_self rfl
      · dsimp only
        rw [Std.TreeMap.getElem?_erase, if_neg (by simpa using hid)]
      · exact List.mem_cons.trans (or_iff_right (Ne.symm hid))
  | ambiguous =>
    rw [hc] at hd ha
    rw [if_pos (ha.2 rfl)]
    refine h.concat ?_ ?_ fun id _ => ⟨rfl, Iff.rfl⟩
    · rw [hc, hd]
      rfl
    · rw [hc]
      exact ha

/-- **The loop of `project_hid_devices`.** -/
theorem projects_foldl (selector : TransportSelector) (hidDevices : List HidDeviceInfo) :
    Projects (hidDevices.foldl (projectHidDevice selector) {}) (hidRows selector hidDevices) := by
  induction hidDevices using List.reverseRecOn with
  | nil => exact ⟨fun _ => rfl, fun _ => by simp [hidRows, claim, Claim.of]⟩
  | append_singleton devices device ih =>
    rw [List.foldl_append, List.foldl_cons, List.foldl_nil]
    have hrows : hidRows selector (devices ++ [device]) = hidRows selector devices ++
        if matchesSelector selector device then [descriptorFromHidDevice device] else [] := by
      unfold hidRows
      rw [List.filter_append, List.map_append]
      split_ifs with hm <;> simp [hm]
    rw [hrows]
    split_ifs with hm
    · exact ih.row hm
    · rw [List.append_nil, projectHidDevice, if_pos (by simpa using hm)]
      exact ih

/-! ## Ids -/

/-- The digits of a number of sixteen bits. -/
def nibbles (n : ℕ) : List ℕ := [n / 16 / 16 / 16, n / 16 / 16 % 16, n / 16 % 16, n % 16]

/-- Digits that are filled up with zeros, by the last one. -/
theorem padded_digits (k n : ℕ) :
    List.replicate (k + 2 - (Nat.toDigits 16 n).length) '0' ++ Nat.toDigits 16 n =
      List.replicate (k + 1 - (Nat.toDigits 16 (n / 16)).length) '0' ++ Nat.toDigits 16 (n / 16) ++
        [Nat.digitChar (n % 16)] := by
  by_cases h : n < 16
  · have hzero : Nat.toDigits 16 0 = ['0'] := rfl
    rw [Nat.toDigits_of_lt_base h, Nat.div_eq_of_lt h, Nat.mod_eq_of_lt h, hzero,
      ← List.replicate_succ']
    rfl
  · have hlt : n % 16 < 16 := Nat.mod_lt _ (by decide)
    have hstep : Nat.toDigits 16 n = Nat.toDigits 16 (n / 16) ++ [Nat.digitChar (n % 16)] := by
      rw [← Nat.toDigits_of_lt_base hlt,
        Nat.toDigits_append_toDigits (by decide) (Nat.div_pos (by omega) (by decide)) hlt,
        Nat.div_add_mod]
    rw [hstep, List.length_append, List.length_singleton, List.append_assoc,
      show k + 2 = k + 1 + 1 from rfl, Nat.add_sub_add_right]

/-- **`hex4` prints four digits.** -/
theorem hex4_toList {n : ℕ} (h : n < 65536) : (hex4 n).toList = (nibbles n).map Nat.digitChar := by
  have hmod : n % 2 ^ 16 = n := Nat.mod_eq_of_lt h
  have hlast : n / 16 / 16 / 16 < 16 := by omega
  rw [hex4, hmod, String.toList_ofList, padded_digits 2, padded_digits 1, padded_digits 0,
    Nat.toDigits_of_lt_base hlast]
  rfl

/-- The lower-case digits. -/
def hexDigits : List Char := "0123456789abcdef".toList

/-- The number that digits denote. -/
def hexValue (text : List Char) : ℕ := text.foldl (fun n c => 16 * n + hexDigits.idxOf c) 0

/-- Four lower-case hexadecimal digits. -/
def IsHex4 (text : List Char) : Prop := text.length = 4 ∧ ∀ c ∈ text, c ∈ hexDigits

theorem hexDigit_eq (c : Char) :
    hexDigit c = if c ∈ hexDigits then some (hexDigits.idxOf c) else none := by
  have hvalues : hexDigits.all (fun c => hexDigit c = some (hexDigits.idxOf c)) = true := by
    decide
  have hdecimal : ∀ n < 58, 48 ≤ n → Char.ofNat n ∈ hexDigits := by decide
  have hletters : ∀ n < 103, 97 ≤ n → Char.ofNat n ∈ hexDigits := by decide
  split_ifs with h
  · exact of_decide_eq_true (List.all_eq_true.1 hvalues c h)
  · have hc := Char.ofNat_toNat c
    unfold hexDigit
    split_ifs with h₁ h₂
    · refine absurd ?_ h
      rw [← hc]
      exact hdecimal _ (Nat.lt_succ_of_le h₁.2) h₁.1
    · refine absurd ?_ h
      rw [← hc]
      exact hletters _ (Nat.lt_succ_of_le h₂.2) h₂.1
    · rfl

theorem mapM_hexDigit (text : List Char) :
    text.mapM hexDigit =
      if text.all (· ∈ hexDigits) then some (text.map hexDigits.idxOf) else none := by
  induction text with
  | nil => rfl
  | cons c text ih =>
    rw [List.mapM_cons, ih, hexDigit_eq, List.all_cons]
    by_cases hc : c ∈ hexDigits
    · rw [if_pos hc, decide_eq_true hc, Bool.true_and]
      split_ifs <;> rfl
    · rw [if_neg hc, decide_eq_false hc, Bool.false_and]
      rfl

theorem hexValue_lt {text : List Char} (h : IsHex4 text) : hexValue text < 65536 := by
  obtain ⟨hlen, hmem⟩ := h
  have hlt (c : Char) (hc : c ∈ text) : hexDigits.idxOf c < 16 :=
    List.idxOf_lt_length_iff.2 (hmem c hc)
  obtain ⟨a, b, c, d, rfl⟩ : ∃ a b c d, text = [a, b, c, d] := List.length_eq_four.1 hlen
  have ha := hlt a (by simp)
  have hb := hlt b (by simp)
  have hc := hlt c (by simp)
  have hd := hlt d (by simp)
  simp only [hexValue, List.foldl_cons, List.foldl_nil]
  omega

/-- **`parse_hex4`** accepts four lower-case digits, with their value. -/
theorem parseHex4_eq_some {text : List Char} {v : UInt16} :
    parseHex4 text = some v ↔ IsHex4 text ∧ v.toNat = hexValue text := by
  unfold parseHex4
  rw [mapM_hexDigit]
  by_cases h : IsHex4 text
  · have hvalue : (text.map hexDigits.idxOf).foldl (fun n d => 16 * n + d) 0 = hexValue text :=
      List.foldl_map
    rw [if_neg (not_not.2 h.1), if_pos (by simpa using h.2), Option.map_some, hvalue,
      Option.some_inj, ← UInt16.toNat_inj, UInt16.toNat_ofNat', Nat.mod_eq_of_lt (hexValue_lt h)]
    exact ⟨fun heq => ⟨h, heq.symm⟩, fun heq => heq.2.symm⟩
  · refine iff_of_false ?_ fun hr => h hr.1
    split_ifs with hlen hall
    · rintro ⟨⟩
    · exact absurd ⟨not_not.1 hlen, by simpa using hall⟩ h
    · rintro ⟨⟩

theorem isHex4_hex4 (v : UInt16) :
    IsHex4 (hex4 v.toNat).toList ∧ hexValue (hex4 v.toNat).toList = v.toNat := by
  have hv : v.toNat < 65536 := v.toNat_lt
  have hdigits : ∀ d < 16, Nat.digitChar d ∈ hexDigits ∧
      hexDigits.idxOf (Nat.digitChar d) = d := by decide
  have h₁ := hdigits (v.toNat / 16 / 16 / 16) (by omega)
  have h₂ := hdigits (v.toNat / 16 / 16 % 16) (by omega)
  have h₃ := hdigits (v.toNat / 16 % 16) (by omega)
  have h₄ := hdigits (v.toNat % 16) (by omega)
  rw [hex4_toList hv]
  refine ⟨⟨rfl, ?_⟩, ?_⟩
  · simp [nibbles, h₁.1, h₂.1, h₃.1, h₄.1]
  · simp only [hexValue, nibbles, List.map_cons, List.map_nil, List.foldl_cons, List.foldl_nil,
      h₁.2, h₂.2, h₃.2, h₄.2]
    omega

theorem splitColon_eq_some {text a b : List Char} :
    splitColon text = some (a, b) ↔ text = a ++ ':' :: b ∧ ':' ∉ a := by
  unfold splitColon
  constructor
  · intro h
    have hsplit := List.takeWhile_append_dropWhile (p := (· ≠ ':')) (l := text)
    split at h
    · cases h
    · next c rest hdrop =>
      cases h
      have hcolon : c = ':' := by
        have hhead := List.head_dropWhile_not (p := (· ≠ ':')) (l := text) (by rw [hdrop]; simp)
        simp only [hdrop, List.head_cons] at hhead
        simpa using hhead
      rw [hdrop, hcolon] at hsplit
      refine ⟨hsplit.symm, fun hmem => ?_⟩
      have := List.mem_takeWhile_imp hmem
      simp at this
  · rintro ⟨rfl, hmem⟩
    have hall : ∀ c ∈ a, decide (c ≠ ':') = true := fun c hc =>
      decide_eq_true fun heq => hmem (heq ▸ hc)
    rw [List.dropWhile_append_of_pos hall, List.takeWhile_append_of_pos hall]
    simp

theorem IsHex4.no_colon {text : List Char} (h : IsHex4 text) : ':' ∉ text := fun hmem =>
  absurd (h.2 ':' hmem) (by decide)

theorem looksLikePath_iff {suffix : List Char} : looksLikePath suffix = true ↔
    "IOService:".toList <+: suffix ∨ "DevSrvsID:".toList <+: suffix ∨ '/' ∈ suffix ∨
      '\\' ∈ suffix := by
  simp [looksLikePath, or_assoc]

/-- The text of an id. -/
def idText (vendor product suffix : List Char) : String :=
  String.ofList ("hid:".toList ++ vendor ++ ':' :: product ++ ':' :: suffix)

theorem idText_toList (vendor product suffix : List Char) :
    (idText vendor product suffix).toList =
      "hid:".toList ++ (vendor ++ ':' :: (product ++ ':' :: suffix)) := by
  unfold idText
  rw [String.toList_ofList]
  generalize "hid:".toList = l
  simp only [List.append_assoc, List.cons_append]

/-- A descriptor with the parts of an id: the suffix is the path or the serial number. -/
def TransportDescriptor.identified (d : TransportDescriptor) (vendorId productId : ℕ)
    (suffix : List Char) : TransportDescriptor :=
  let d := { d with vendorId := UInt16.ofNat vendorId, productId := UInt16.ofNat productId }
  if looksLikePath suffix then { d with path := String.ofList suffix }
  else { d with serialNumber := String.ofList suffix }

/-- **What `populate_selector_identity_from_device_id` accepts**, and what it sets. -/
theorem populateSelectorIdentity_eq_some {deviceId : String} {d d' : TransportDescriptor} :
    populateSelectorIdentity deviceId d = some d' ↔
      ∃ vendor product suffix, deviceId = idText vendor product suffix ∧ IsHex4 vendor ∧
        IsHex4 product ∧ suffix ≠ [] ∧ d' = d.identified (hexValue vendor) (hexValue product)
          suffix := by
  have hset (v p : UInt16) (vendor product suffix : List Char) (hv : v.toNat = hexValue vendor)
      (hp : p.toNat = hexValue product) :
      (let d := { d with vendorId := v, productId := p }
        if looksLikePath suffix then some { d with path := String.ofList suffix }
        else some { d with serialNumber := String.ofList suffix }) =
      some (d.identified (hexValue vendor) (hexValue product) suffix) := by
    unfold TransportDescriptor.identified
    rw [← hv, ← hp, UInt16.ofNat_toNat, UInt16.ofNat_toNat]
    dsimp only
    split_ifs <;> rfl
  unfold populateSelectorIdentity
  constructor
  · intro h
    simp only [Option.bind_eq_bind, Option.bind_eq_some_iff, Option.guard_eq_some'] at h
    obtain ⟨-, hhid, ⟨vendor, rest⟩, hvendor, ⟨product, suffix⟩, hproduct, -, hsuffix, v, hv, p,
      hp, hd⟩ := h
    obtain ⟨hv, hvalue⟩ := parseHex4_eq_some.1 hv
    obtain ⟨hp, pvalue⟩ := parseHex4_eq_some.1 hp
    obtain ⟨hrest, -⟩ := splitColon_eq_some.1 hvendor
    obtain ⟨rfl, -⟩ := splitColon_eq_some.1 hproduct
    refine ⟨vendor, product, suffix, ?_, hv, hp, hsuffix, ?_⟩
    · have htext : deviceId.toList = "hid:".toList ++ deviceId.toList.drop 4 :=
        (List.prefix_iff_eq_append.1 (List.isPrefixOf_iff_prefix.1 hhid)).symm
      rw [hrest] at htext
      rw [← String.toList_inj, htext, idText_toList]
    · exact Option.some_inj.1 (hd.symm.trans (hset v p vendor product suffix hvalue pvalue))
  · rintro ⟨vendor, product, suffix, rfl, hv, hp, hs, rfl⟩
    have hhid : "hid:".toList.isPrefixOf (idText vendor product suffix).toList = true := by
      rw [idText_toList]
      exact List.isPrefixOf_iff_prefix.2 (List.prefix_append ..)
    have hdrop : (idText vendor product suffix).toList.drop 4 =
        vendor ++ ':' :: (product ++ ':' :: suffix) := by
      rw [idText_toList]
      rfl
    have hnumber {text : List Char} (h : IsHex4 text) :
        (UInt16.ofNat (hexValue text)).toNat = hexValue text := by
      rw [UInt16.toNat_ofNat', Nat.mod_eq_of_lt (hexValue_lt h)]
    simp only [Option.bind_eq_bind, Option.bind_eq_some_iff, Option.guard_eq_some']
    exact ⟨(), hhid, _, splitColon_eq_some.2 ⟨hdrop, hv.no_colon⟩, _,
      splitColon_eq_some.2 ⟨rfl, hp.no_colon⟩, (), hs, _, parseHex4_eq_some.2 ⟨hv, hnumber hv⟩, _,
      parseHex4_eq_some.2 ⟨hp, hnumber hp⟩, hset _ _ _ _ _ (hnumber hv) (hnumber hp)⟩

theorem text_eq_idText (vendor product suffix : String) :
    "hid:" ++ vendor ++ ":" ++ product ++ ":" ++ suffix =
      idText vendor.toList product.toList suffix.toList := by
  have hcolon : ":".toList = [':'] := rfl
  rw [← String.toList_inj, idText_toList]
  simp only [String.toList_append, hcolon]
  generalize "hid:".toList = l
  simp only [List.append_assoc, List.cons_append, List.nil_append]

theorem descriptorIdFor_serial {device : HidDeviceInfo} (h : device.serialNumber ≠ "") :
    descriptorIdFor device = idText (hex4 device.vendorId.toNat).toList
      (hex4 device.productId.toNat).toList device.serialNumber.toList := by
  rw [← text_eq_idText, descriptorIdFor]
  exact if_pos h

theorem descriptorIdFor_path {device : HidDeviceInfo} (hs : device.serialNumber = "")
    (h : device.path ≠ "") :
    descriptorIdFor device = idText (hex4 device.vendorId.toNat).toList
      (hex4 device.productId.toNat).toList device.path.toList := by
  rw [← text_eq_idText, descriptorIdFor]
  exact (if_neg (not_not.2 hs)).trans (if_pos h)

theorem populateSelectorIdentity_idText (d : TransportDescriptor) (vendorId productId : UInt16)
    {suffix : List Char} (h : suffix ≠ []) :
    populateSelectorIdentity
        (idText (hex4 vendorId.toNat).toList (hex4 productId.toNat).toList suffix) d =
      some (d.identified vendorId.toNat productId.toNat suffix) := by
  obtain ⟨hv, hvalue⟩ := isHex4_hex4 vendorId
  obtain ⟨hp, pvalue⟩ := isHex4_hex4 productId
  exact populateSelectorIdentity_eq_some.2 ⟨_, _, suffix, rfl, hv, hp, h, by rw [hvalue, pvalue]⟩

/-- **Device ids are parsed exactly.**  An id is accepted where it is `hid:`, four
    lower-case digits, a colon, four lower-case digits, a colon and a suffix that is not
    empty; then the numbers are set, and the suffix as the path or as the serial number.
    So `descriptor_id_for` is inverted where the suffix has the shape of what it is. -/
theorem device_id_parsed (d : TransportDescriptor) :
    (∀ (deviceId : String) (d' : TransportDescriptor),
      populateSelectorIdentity deviceId d = some d' ↔
        ∃ vendor product suffix, deviceId = idText vendor product suffix ∧ IsHex4 vendor ∧
          IsHex4 product ∧ suffix ≠ [] ∧
          d' = d.identified (hexValue vendor) (hexValue product) suffix) ∧
    (∀ device : HidDeviceInfo, device.serialNumber ≠ "" →
      '/' ∉ device.serialNumber.toList → '\\' ∉ device.serialNumber.toList →
      ¬ "IOService:".toList <+: device.serialNumber.toList →
      ¬ "DevSrvsID:".toList <+: device.serialNumber.toList →
      populateSelectorIdentity (descriptorIdFor device) d =
        some { d with
          vendorId := device.vendorId
          productId := device.productId
          serialNumber := device.serialNumber }) ∧
    ∀ device : HidDeviceInfo, device.serialNumber = "" → device.path ≠ "" →
      ('/' ∈ device.path.toList ∨ '\\' ∈ device.path.toList ∨
        "IOService:".toList <+: device.path.toList ∨
        "DevSrvsID:".toList <+: device.path.toList) →
      populateSelectorIdentity (descriptorIdFor device) d =
        some { d with
          vendorId := device.vendorId
          productId := device.productId
          path := device.path } := by
  refine ⟨fun _ _ => populateSelectorIdentity_eq_some, fun device hs h₁ h₂ h₃ h₄ => ?_,
    fun device hs hp hshape => ?_⟩
  · rw [descriptorIdFor_serial hs, populateSelectorIdentity_idText _ _ _ (by simpa using hs)]
    have hpath : ¬ looksLikePath device.serialNumber.toList = true := by
      simp only [looksLikePath_iff, h₁, h₂, h₃, h₄, or_self, not_false_eq_true]
    simp only [TransportDescriptor.identified, UInt16.ofNat_toNat, if_neg hpath,
      String.ofList_toList]
  · rw [descriptorIdFor_path hs hp, populateSelectorIdentity_idText _ _ _ (by simpa using hp)]
    have hpath : looksLikePath device.path.toList = true := by
      rw [looksLikePath_iff]
      rcases hshape with h | h | h | h
      · exact .inr (.inr (.inl h))
      · exact .inr (.inr (.inr h))
      · exact .inl h
      · exact .inr (.inl h)
    simp only [TransportDescriptor.identified, UInt16.ofNat_toNat, if_pos hpath,
      String.ofList_toList]

/-- A device with a serial number. -/
def serialDevice : HidDeviceInfo where
  vendorId := 0x12ab
  productId := 7
  serialNumber := "a:1"
  path := "/dev/h0"

theorem device_id_parsed_serial :
    populateSelectorIdentity (descriptorIdFor serialDevice) {} =
      some { vendorId := 0x12ab, productId := 7, serialNumber := "a:1" } :=
  (device_id_parsed {}).2.1 serialDevice (by decide) (by decide) (by decide) (by decide)
    (by decide)

example : descriptorIdFor serialDevice = "hid:12ab:0007:a:1" := by decide +kernel

/-! ## The order of the rows -/

theorem sameInterface_iff {d d' : TransportDescriptor} : sameInterface d d' = true ↔
    d'.path ≠ "" ∧ d.path = d'.path ∧ d.interfaceNumber = d'.interfaceNumber := by
  simp [sameInterface, and_assoc]

theorem sameInterface_symm (d d' : TransportDescriptor) (h : sameInterface d d' = true) :
    sameInterface d' d = true := by
  obtain ⟨hne, hpath, hinterface⟩ := sameInterface_iff.1 h
  exact sameInterface_iff.2 ⟨hpath ▸ hne, hpath.symm, hinterface.symm⟩

theorem sameInterface_trans (a b c : TransportDescriptor) (h : sameInterface a b = true)
    (h' : sameInterface b c = true) : sameInterface a c = true := by
  obtain ⟨-, hpath, hinterface⟩ := sameInterface_iff.1 h
  obtain ⟨hne, hpath', hinterface'⟩ := sameInterface_iff.1 h'
  exact sameInterface_iff.2 ⟨hne, hpath.trans hpath', hinterface.trans hinterface'⟩

theorem numbers_of_id {a b : HidDeviceInfo} (h : descriptorIdFor a = descriptorIdFor b) :
    a.vendorId = b.vendorId ∧ a.productId = b.productId := by
  have htext (device : HidDeviceInfo) : ∃ rest, (descriptorIdFor device).toList =
      "hid:".toList ++ ((hex4 device.vendorId.toNat).toList ++
        (":".toList ++ ((hex4 device.productId.toNat).toList ++ rest))) := by
    unfold descriptorIdFor
    dsimp only
    generalize "hid:" = hid
    generalize ":" = colon
    split_ifs
    · exact ⟨colon.toList ++ device.serialNumber.toList, by
        simp only [String.toList_append, List.append_assoc]⟩
    · exact ⟨colon.toList ++ device.path.toList, by
        simp only [String.toList_append, List.append_assoc]⟩
    · exact ⟨[], by simp only [String.toList_append, List.append_assoc, List.append_nil]⟩
  have hlen (v : UInt16) : (hex4 v.toNat).toList.length = 4 := (isHex4_hex4 v).1.1
  have hinj {v w : UInt16} (h : (hex4 v.toNat).toList = (hex4 w.toNat).toList) : v = w := by
    rw [← UInt16.toNat_inj, ← (isHex4_hex4 v).2, h, (isHex4_hex4 w).2]
  obtain ⟨rest, ha⟩ := htext a
  obtain ⟨rest', hb⟩ := htext b
  rw [← String.toList_inj, ha, hb, List.append_cancel_left_eq] at h
  obtain ⟨hvendor, h⟩ := List.append_inj h (by rw [hlen, hlen])
  rw [List.append_cancel_left_eq] at h
  exact ⟨hinj hvendor, hinj (List.append_inj h (by rw [hlen, hlen])).1⟩

/-- Rows in another order agree about who holds an id. -/
theorem claim_perm {rows rows' : List TransportDescriptor} (h : rows.Perm rows') (id : String) :
    Claim.Agree sameInterface (claim rows id) (claim rows' id) :=
  Claim.of_perm sameInterface_symm sameInterface_trans (h.filter _)

theorem claim_mem {rows : List TransportDescriptor} {id : String} {d : TransportDescriptor}
    (h : (claim rows id).holder = some d) : d ∈ rows ∧ d.id = id := by
  cases hc : claim rows id with
  | absent | ambiguous =>
    rw [hc] at h
    cases h
  | single e =>
    rw [hc] at h
    cases h
    have hmem := List.mem_filter.1 (Claim.mem_of_single hc)
    exact ⟨hmem.1, of_decide_eq_true hmem.2⟩

theorem holders_agree {selector : TransportSelector} {hidDevices hidDevices' : List HidDeviceInfo}
    (h : hidDevices.Perm hidDevices') {id : String} {d d' : TransportDescriptor}
    (hd : (claim (hidRows selector hidDevices) id).holder = some d)
    (hd' : (claim (hidRows selector hidDevices') id).holder = some d') :
    ∃ x y, x ∈ hidDevices.filter (matchesSelector selector) ∧
      y ∈ hidDevices.filter (matchesSelector selector) ∧ descriptorFromHidDevice x = d ∧
      descriptorFromHidDevice y = d' ∧ descriptorIdFor x = descriptorIdFor y ∧
      (d = d' ∨ sameInterface d d' = true) := by
  have hrows : (hidRows selector hidDevices).Perm (hidRows selector hidDevices') :=
    (h.filter _).map _
  obtain ⟨hmem, hid⟩ := claim_mem hd
  obtain ⟨hmem', hid'⟩ := claim_mem hd'
  obtain ⟨x, hx, rfl⟩ := List.mem_map.1 hmem
  obtain ⟨y, hy, rfl⟩ := List.mem_map.1 (hrows.mem_iff.2 hmem')
  refine ⟨x, y, hx, hy, rfl, rfl, hid.trans hid'.symm, ?_⟩
  have hagree := claim_perm hrows id
  generalize claim (hidRows selector hidDevices) id = c at hagree hd
  generalize claim (hidRows selector hidDevices') id = c' at hagree hd'
  cases hagree with
  | absent | ambiguous => cases hd
  | single hsame =>
    cases hd
    cases hd'
    exact hsame

section
variable (endpointIdFromKey : String → String)

/-- **What the order of an enumeration decides.**  In every order of the rows the same ids
    are ambiguous and the same ids are projected, none is both, and the descriptors of an
    id are of one interface: they have the same numbers, path and interface number.  If
    the rows of one id and one interface do not differ, the descriptors and the snapshots
    are the same. -/
theorem projection_order (selector : TransportSelector) (mode : EndpointDeliveryMode)
    {hidDevices hidDevices' : List HidDeviceInfo} (h : hidDevices.Perm hidDevices') :
    let p := projectHidDevices endpointIdFromKey selector hidDevices mode
    let p' := projectHidDevices endpointIdFromKey selector hidDevices' mode
    (∀ id, id ∈ p.ambiguousDeviceIds ↔ id ∈ p'.ambiguousDeviceIds) ∧
    (∀ id : String, p.descriptors[id]?.isSome = p'.descriptors[id]?.isSome) ∧
    (∀ id : String, p.descriptors[id]?.isSome → id ∉ p.ambiguousDeviceIds) ∧
    (∀ (id : String) (d d' : TransportDescriptor),
      p.descriptors[id]? = some d → p'.descriptors[id]? = some d' →
      d.vendorId = d'.vendorId ∧ d.productId = d'.productId ∧ d.path = d'.path ∧
        d.interfaceNumber = d'.interfaceNumber) ∧
    ((∀ x ∈ hidDevices, ∀ y ∈ hidDevices, matchesSelector selector x → matchesSelector selector y →
        descriptorIdFor x = descriptorIdFor y → x.path = y.path →
        x.interfaceNumber = y.interfaceNumber →
        descriptorFromHidDevice x = descriptorFromHidDevice y) →
      (∀ id : String, p.descriptors[id]? = p'.descriptors[id]?) ∧ p.devices = p'.devices) := by
  have hrows : (hidRows selector hidDevices).Perm (hidRows selector hidDevices') :=
    (h.filter _).map _
  have hp := projects_foldl selector hidDevices
  have hp' := projects_foldl selector hidDevices'
  dsimp only [projectHidDevices]
  generalize hidDevices.foldl (projectHidDevice selector) {} = p at *
  generalize hidDevices'.foldl (projectHidDevice selector) {} = p' at *
  have hsome (id : String) : p.descriptors[id]?.isSome = p'.descriptors[id]?.isSome := by
    rw [hp.descriptors, hp'.descriptors]
    have hagree := claim_perm hrows id
    generalize claim (hidRows selector hidDevices) id = c at hagree
    generalize claim (hidRows selector hidDevices') id = c' at hagree
    cases hagree <;> rfl
  refine ⟨fun id => ?_, fun id => ?_, fun id => ?_, fun id d d' hd hd' => ?_, fun hsame => ?_⟩
  · rw [hp.ambiguous, hp'.ambiguous]
    have hagree := claim_perm hrows id
    generalize claim (hidRows selector hidDevices) id = c at hagree
    generalize claim (hidRows selector hidDevices') id = c' at hagree
    cases hagree <;> simp
  · exact hsome id
  · rw [hp.descriptors, hp.ambiguous]
    cases claim (hidRows selector hidDevices) id <;> simp [Claim.holder]
  · rw [hp.descriptors] at hd
    rw [hp'.descriptors] at hd'
    obtain ⟨x, y, hx, hy, rfl, rfl, hid, hsame⟩ := holders_agree h hd hd'
    obtain ⟨hvendor, hproduct⟩ := numbers_of_id hid
    refine ⟨hvendor, hproduct, ?_⟩
    rcases hsame with hsame | hsame
    · rw [hsame]
      exact ⟨rfl, rfl⟩
    · exact (sameInterface_iff.1 hsame).2
  · have hdescriptors (id : String) : p.descriptors[id]? = p'.descriptors[id]? := by
      have hsome := hsome id
      rw [hp.descriptors, hp'.descriptors] at *
      cases hd : (claim (hidRows selector hidDevices) id).holder with
      | none =>
        rw [hd] at hsome
        exact (Option.not_isSome_iff_eq_none.1 (by simp [← hsome])).symm
      | some d =>
        rw [hd] at hsome
        obtain ⟨d', hd'⟩ := Option.isSome_iff_exists.1 hsome.symm
        obtain ⟨x, y, hx, hy, rfl, rfl, hid, heq | hinterface⟩ := holders_agree h hd hd'
        · rw [heq, hd']
        · obtain ⟨-, hpath, hnumber⟩ := sameInterface_iff.1 hinterface
          rw [List.mem_filter] at hx hy
          rw [hd', hsame x hx.1 y hy.1 hx.2 hy.2 hid hpath hnumber]
    refine ⟨hdescriptors, ?_⟩
    rw [(Std.TreeMap.Equiv.of_forall_constGet?_eq hdescriptors).toList_eq]

end

/-- Two rows of one interface that differ in the product: the first one is projected. -/
theorem first_row_projected :
    let a : HidDeviceInfo := { serialDevice with product := "A", usage := 1, interfaceNumber := 0 }
    let b : HidDeviceInfo := { serialDevice with product := "B", usage := 2, interfaceNumber := 0 }
    let project := fun rows => projectHidDevices (fun key => key) { kind := .hid } rows
      .localProjection
    [a, b].Perm [b, a] ∧ (project [a, b]).devices ≠ (project [b, a]).devices ∧
      (project [a, b]).descriptors["hid:12ab:0007:a:1"]? = some (descriptorFromHidDevice a) ∧
      (project [b, a]).descriptors["hid:12ab:0007:a:1"]? = some (descriptorFromHidDevice b) := by
  exact ⟨.swap _ _ _, by decide +kernel, by decide +kernel, by decide +kernel⟩

/-- Rows of two paths with one serial number, in both orders. -/
theorem projection_order_ambiguous :
    let a : HidDeviceInfo := serialDevice
    let b : HidDeviceInfo := { serialDevice with path := "/dev/h1" }
    let project := fun rows => projectHidDevices (fun key => key) { kind := .hid } rows
      .localProjection
    "hid:12ab:0007:a:1" ∈ (project [a, b]).ambiguousDeviceIds ∧
      "hid:12ab:0007:a:1" ∈ (project [b, a]).ambiguousDeviceIds := by
  intro a b project
  have h : "hid:12ab:0007:a:1" ∈ (project [a, b]).ambiguousDeviceIds := by decide +kernel
  exact ⟨h, ((projection_order (fun key => key) { kind := .hid } .localProjection
    (.swap b a [])).1 _).1 h⟩

end Axent.Axtp
