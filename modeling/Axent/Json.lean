/-
  JSON values as the control plane handles them (`nlohmann::json`).

  An object is the list of its members; reading a member takes the first one
  of that name, writing one keeps the members in key order (the library stores
  objects in a `std::map`), and erasing removes every member of that name.
  Numbers keep the library's three kinds: signed and unsigned 64-bit integers
  and doubles, the latter by their bit pattern (no modelled function computes
  with them).
-/
import Mathlib.Data.String.Basic
import Mathlib.Data.List.Basic

namespace Axent

/-- A JSON value. -/
inductive Json where
  | null
  | boolean (b : Bool)
  | numberInteger (i : Int64)
  | numberUnsigned (n : UInt64)
  | numberFloat (bits : UInt64)
  | string (s : String)
  | array (elems : List Json)
  | object (members : List (String × Json))

/-- The members of an object. -/
abbrev Members := List (String × Json)

/-! ## Members -/

namespace Members

/-- `operator[] =`: write a member, in key order. -/
def set (key : String) (value : Json) : Members → Members
  | [] => [(key, value)]
  | (k, v) :: ms =>
    if key < k then (key, value) :: (k, v) :: ms
    else if key = k then (key, value) :: ms
    else (k, v) :: set key value ms

/-- `erase`: remove a member. -/
def erase (key : String) (ms : Members) : Members := ms.filter fun m => m.1 ≠ key

/-- An object written as an initializer list. -/
def ofList (ms : List (String × Json)) : Members :=
  ms.foldl (fun acc m => acc.set m.1 m.2) []

theorem lookup_cons (k : String) (m : String × Json) (ms : Members) :
    List.lookup k (m :: ms) = if k = m.1 then some m.2 else ms.lookup k := by
  rw [List.lookup_cons]
  by_cases h : k = m.1
  · simp [h]
  · simp [h, beq_false_of_ne h]

theorem lookup_set (key k : String) (value : Json) (ms : Members) :
    (ms.set key value).lookup k = if k = key then some value else ms.lookup k := by
  induction ms with
  | nil => rw [set, lookup_cons]
  | cons m ms ih =>
    obtain ⟨k', v⟩ := m
    unfold set
    by_cases h₁ : key < k'
    · rw [if_pos h₁, lookup_cons]
    · by_cases h₂ : key = k'
      · subst h₂
        simp only [lt_irrefl, if_false, if_true, lookup_cons]
        split_ifs <;> rfl
      · simp only [h₁, h₂, if_false, lookup_cons, ih]
        split_ifs with h₃ h₄
        · exact absurd (h₄.symm.trans h₃) h₂
        · rfl
        · rfl
        · rfl

theorem lookup_erase (key k : String) (ms : Members) :
    (ms.erase key).lookup k = if k = key then none else ms.lookup k := by
  induction ms with
  | nil => simp [erase]
  | cons m ms ih =>
    obtain ⟨k', v⟩ := m
    unfold erase at ih ⊢
    by_cases hk : k' = key
    · subst hk
      rw [List.filter_cons_of_neg (by simp), ih, lookup_cons]
      split_ifs <;> rfl
    · rw [List.filter_cons_of_pos (by simpa using hk), lookup_cons, ih, lookup_cons]
      split_ifs with h₁ h₂
      · exact absurd (h₁.symm.trans h₂) hk
      · rfl
      · rfl
      · rfl

end Members

/-! ## Values -/

namespace Json

/-- `find`: the member of an object; a value of another kind has none. -/
def find (key : String) : Json → Option Json
  | object ms => ms.lookup key
  | _ => none

/-- `contains`. -/
def contains (key : String) (j : Json) : Bool := (j.find key).isSome

/-- The text of a string value, `get<std::string>`. -/
def getString : Json → Option String
  | string s => some s
  | _ => none

/-- The value of an integer, of either kind. -/
def getInteger : Json → Option ℤ
  | numberInteger i => some i.toInt
  | numberUnsigned n => some n.toNat
  | _ => none

/-- An object value written as an initializer list. -/
def ofList (ms : List (String × Json)) : Json := object (Members.ofList ms)

@[simp] theorem find_object (key : String) (ms : Members) :
    (object ms).find key = ms.lookup key := rfl

end Json

end Axent
