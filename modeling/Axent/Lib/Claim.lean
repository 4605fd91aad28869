/-
  Rows that claim one name.

  The first row holds the name.  A later row that agrees with it changes nothing, and one
  that does not makes the name ambiguous for good.  If agreement is symmetric and
  transitive, the order of the rows decides only which of the agreeing rows holds the
  name (`Claim.of_perm`).
-/
import Mathlib.Data.List.Basic
import Mathlib.Data.List.Perm.Basic

namespace Axent.Lib

variable {α : Type*}

/-- Who holds a name. -/
inductive Claim (α : Type*) where
  | absent
  | single (a : α)
  | ambiguous

namespace Claim

/-- The row that holds the name. -/
def holder : Claim α → Option α
  | single a => some a
  | _ => none

variable (agree : α → α → Bool)

/-- One more row. -/
def add : Claim α → α → Claim α
  | absent, a => single a
  | single a, b => if agree a b then single a else ambiguous
  | ambiguous, _ => ambiguous

def of (rows : List α) : Claim α := rows.foldl (add agree) absent

/-- Both are held by agreeing rows, or by nobody for the same reason. -/
inductive Agree : Claim α → Claim α → Prop
  | absent : Agree absent absent
  | single {a b : α} (h : a = b ∨ agree a b = true) : Agree (single a) (single b)
  | ambiguous : Agree ambiguous ambiguous

variable {agree}

theorem of_concat (rows : List α) (a : α) : of agree (rows ++ [a]) = (of agree rows).add agree a :=
  List.foldl_append

theorem foldl_ambiguous (rows : List α) : rows.foldl (add agree) ambiguous = ambiguous := by
  induction rows with
  | nil => rfl
  | cons a rows ih => exact ih

/-- The first row, if all others agree with it. -/
theorem of_cons (a : α) (rows : List α) :
    of agree (a :: rows) = if rows.all (agree a) then single a else ambiguous := by
  show rows.foldl (add agree) (single a) = _
  induction rows with
  | nil => rfl
  | cons b rows ih =>
    cases h : agree a b with
    | true => simp only [List.foldl_cons, add, h, if_true, ih, List.all_cons, Bool.true_and]
    | false => simp [add, h, foldl_ambiguous]

theorem mem_of_single {a : α} {rows : List α} (h : of agree rows = single a) : a ∈ rows := by
  cases rows with
  | nil => cases h
  | cons b rows =>
    rw [of_cons] at h
    split_ifs at h
    cases h
    exact List.mem_cons_self

variable (symm : ∀ a b, agree a b = true → agree b a = true)
  (trans : ∀ a b c, agree a b = true → agree b c = true → agree a c = true)
include symm trans

/-- All others agree with the first row where any two rows agree. -/
theorem all_agree_iff (a : α) (rows : List α) :
    rows.all (agree a) = true ↔ rows = [] ∨ ∀ x ∈ a :: rows, ∀ y ∈ a :: rows, agree x y = true := by
  rw [List.all_eq_true]
  constructor
  · intro h
    cases rows with
    | nil => exact .inl rfl
    | cons b rows =>
      right
      have hb := h b List.mem_cons_self
      have hall (x : α) (hx : x ∈ a :: b :: rows) : agree a x = true := by
        rcases List.mem_cons.1 hx with rfl | hx
        · exact trans _ _ _ hb (symm _ _ hb)
        · exact h x hx
      exact fun x hx y hy => trans _ _ _ (symm _ _ (hall x hx)) (hall y hy)
  · rintro (rfl | h) x hx
    · cases hx
    · exact h a List.mem_cons_self x (List.mem_cons_of_mem _ hx)

/-- **The order of the rows** does not matter, up to agreement. -/
theorem of_perm {rows rows' : List α} (h : rows.Perm rows') :
    Agree agree (of agree rows) (of agree rows') := by
  cases rows with
  | nil =>
    rw [← h.nil_eq]
    exact .absent
  | cons a rows =>
    cases rows' with
    | nil => exact absurd h.eq_nil (List.cons_ne_nil _ _)
    | cons b rows' =>
      have hall : rows.all (agree a) = true ↔ rows'.all (agree b) = true := by
        rw [all_agree_iff symm trans, all_agree_iff symm trans]
        have hnil : rows = [] ↔ rows' = [] := by
          have := h.length_eq
          simp only [List.length_cons, Nat.add_right_cancel_iff] at this
          rw [← List.length_eq_zero_iff, this, List.length_eq_zero_iff]
        simp only [hnil, h.mem_iff]
      rw [of_cons, of_cons]
      by_cases ha : rows.all (agree a) = true
      · rw [if_pos ha, if_pos (hall.1 ha)]
        refine .single ?_
        rcases List.mem_cons.1 (h.mem_iff.2 (List.mem_cons_self (a := b))) with hb | hb
        · exact .inl hb.symm
        · exact .inr (List.all_eq_true.1 ha b hb)
      · rw [if_neg ha, if_neg (mt hall.2 ha)]
        exact .ambiguous

end Claim

end Axent.Lib
