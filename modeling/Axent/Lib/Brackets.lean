/-
  Logs in which things are opened, used and closed.

  A thing `k` has a place `place k`; a place holds at most one thing at a time.
  `Brackets place m l m'`: starting with the things `m` open, the log `l` is
  legal and leaves the things `m'` open.  The part of a legal log that belongs
  to one place is a sequence of blocks: opened, used any number of times, closed
  (`Brackets.blocks`), and the last block is finished exactly if the place is
  empty at the end.
-/
import Mathlib.Data.List.Basic
import Mathlib.Logic.Function.Basic

namespace Axent.Lib

open Function

inductive Mark (κ : Type*) where
  | opened (k : κ)
  | used (k : κ)
  | closed (k : κ)

/-- The thing that a mark is about. -/
def Mark.thing {κ : Type*} : Mark κ → κ
  | opened k | used k | closed k => k

variable {κ ι : Type*} [DecidableEq ι] {place : κ → ι}

/-- The legal logs. -/
inductive Brackets (place : κ → ι) : (ι → Option κ) → List (Mark κ) → (ι → Option κ) → Prop
  | nil (m : ι → Option κ) : Brackets place m [] m
  | opened {m m' : ι → Option κ} {k : κ} {l : List (Mark κ)} (h : m (place k) = none)
      (hl : Brackets place (update m (place k) (some k)) l m') :
      Brackets place m (.opened k :: l) m'
  | used {m m' : ι → Option κ} {k : κ} {l : List (Mark κ)} (h : m (place k) = some k)
      (hl : Brackets place m l m') : Brackets place m (.used k :: l) m'
  | closed {m m' : ι → Option κ} {k : κ} {l : List (Mark κ)} (h : m (place k) = some k)
      (hl : Brackets place (update m (place k) none) l m') :
      Brackets place m (.closed k :: l) m'

namespace Brackets
variable {m m' m'' : ι → Option κ} {l l' : List (Mark κ)} {k : κ}

theorem append (h : Brackets place m l m') (h' : Brackets place m' l' m'') :
    Brackets place m (l ++ l') m'' := by
  induction h with
  | nil => exact h'
  | opened hk _ ih => exact .opened hk (ih h')
  | used hk _ ih => exact .used hk (ih h')
  | closed hk _ ih => exact .closed hk (ih h')

theorem cut (h : Brackets place m (l ++ l') m'') :
    ∃ m', Brackets place m l m' ∧ Brackets place m' l' m'' := by
  induction l generalizing m with
  | nil => exact ⟨m, .nil m, h⟩
  | cons e l ih =>
    cases h with
    | opened hk hl => exact (ih hl).imp fun _ h => ⟨.opened hk h.1, h.2⟩
    | used hk hl => exact (ih hl).imp fun _ h => ⟨.used hk h.1, h.2⟩
    | closed hk hl => exact (ih hl).imp fun _ h => ⟨.closed hk h.1, h.2⟩

theorem eq_of_nil (h : Brackets place m [] m') : m' = m := by
  cases h
  rfl

theorem one_opened (h : m (place k) = none) :
    Brackets place m [.opened k] (update m (place k) (some k)) := .opened h (.nil _)

theorem one_used (h : m (place k) = some k) : Brackets place m [.used k] m := .used h (.nil _)

theorem one_closed (h : m (place k) = some k) :
    Brackets place m [.closed k] (update m (place k) none) := .closed h (.nil _)

theorem erase_used (h : Brackets place m (l ++ .used k :: l') m'') :
    Brackets place m (l ++ l') m'' := by
  obtain ⟨m', h₁, h₂⟩ := h.cut
  cases h₂ with
  | used _ h₂ => exact h₁.append h₂

/-- Groups for different places, each of which leaves its place empty. -/
theorem flatMap {α : Type*} (f : α → List (Mark κ)) (idx : α → ι) {xs : List α}
    (hd : (xs.map idx).Nodup)
    (h : ∀ x ∈ xs, ∀ m', m' (idx x) = m (idx x) →
      Brackets place m' (f x) (update m' (idx x) none)) :
    Brackets place m (xs.flatMap f) fun i => if i ∈ xs.map idx then none else m i := by
  induction xs generalizing m with
  | nil => simpa using Brackets.nil m
  | cons x xs ih =>
    rw [List.map_cons, List.nodup_cons] at hd
    -- the group of `x` touches no other place
    have hrest := ih (m := update m (idx x) none) hd.2 fun y hy m' hm' =>
      h y (List.mem_cons_of_mem _ hy) m' <| by
        rw [hm', update_of_ne]
        exact fun heq => hd.1 (heq ▸ List.mem_map_of_mem hy)
    rw [List.flatMap_cons]
    convert (h x List.mem_cons_self m rfl).append hrest using 1
    funext i
    rcases eq_or_ne i (idx x) with rfl | hne
    · simp
    · simp [hne]

end Brackets

/-- Blocks of one place after the other; the last one is finished if `done`. -/
inductive Blocks {κ : Type*} : (done : Bool) → List (Mark κ) → Prop
  | nil : Blocks true []
  | unfinished (k : κ) (n : ℕ) : Blocks false (.opened k :: List.replicate n (.used k))
  | block (k : κ) (n : ℕ) {done : Bool} {l : List (Mark κ)} (h : Blocks done l) :
      Blocks done (.opened k :: List.replicate n (.used k) ++ .closed k :: l)

/-- What may follow in a place that holds `k`. -/
inductive BlockTail {κ : Type*} (k : κ) : (done : Bool) → List (Mark κ) → Prop
  | unfinished (n : ℕ) : BlockTail k false (List.replicate n (.used k))
  | closed (n : ℕ) {done : Bool} {l : List (Mark κ)} (h : Blocks done l) :
      BlockTail k done (List.replicate n (.used k) ++ .closed k :: l)

theorem BlockTail.used {k : κ} {done : Bool} {l : List (Mark κ)} (h : BlockTail k done l) :
    BlockTail k done (.used k :: l) := by
  cases h with
  | unfinished n => exact .unfinished (n + 1)
  | closed n h => exact .closed (n + 1) h

theorem BlockTail.opened {k : κ} {done : Bool} {l : List (Mark κ)} (h : BlockTail k done l) :
    Blocks done (.opened k :: l) := by
  cases h with
  | unfinished n => exact .unfinished k n
  | closed n h => exact .block k n h

/-- The part of a log that belongs to place `i`. -/
def atPlace (place : κ → ι) (i : ι) (l : List (Mark κ)) : List (Mark κ) :=
  l.filter fun e => place e.thing = i

/-- **The log of one place is a sequence of blocks.** -/
theorem Brackets.blocks {m m' : ι → Option κ} {l : List (Mark κ)} (h : Brackets place m l m')
    (i : ι) :
    (m i = none → Blocks (m' i).isNone (atPlace place i l)) ∧
      ∀ k, m i = some k → BlockTail k (m' i).isNone (atPlace place i l) := by
  have hskip (e : Mark κ) (l : List (Mark κ)) (he : place e.thing ≠ i) :
      atPlace place i (e :: l) = atPlace place i l := by simp [atPlace, he]
  have htake (e : Mark κ) (l : List (Mark κ)) (he : place e.thing = i) :
      atPlace place i (e :: l) = e :: atPlace place i l := by simp [atPlace, he]
  induction h with
  | nil m =>
    refine ⟨fun h => ?_, fun k h => ?_⟩
    · rw [h]; exact .nil
    · rw [h]; exact .unfinished 0
  | @opened m m' k l hk _ ih =>
    by_cases hi : place k = i
    · subst hi
      rw [htake (.opened k) l rfl]
      rw [update_self] at ih
      exact ⟨fun _ => (ih.2 k rfl).opened, fun k' h => absurd (hk.symm.trans h) (by simp)⟩
    · rw [hskip (.opened k) l hi]
      rwa [update_of_ne (Ne.symm hi)] at ih
  | @used m m' k l hk _ ih =>
    by_cases hi : place k = i
    · subst hi
      rw [htake (.used k) l rfl]
      refine ⟨fun h => absurd (hk.symm.trans h) (by simp), fun k' h => ?_⟩
      obtain rfl : k = k' := Option.some.inj (hk.symm.trans h)
      exact (ih.2 k hk).used
    · rw [hskip (.used k) l hi]
      exact ih
  | @closed m m' k l hk _ ih =>
    by_cases hi : place k = i
    · subst hi
      rw [htake (.closed k) l rfl]
      refine ⟨fun h => absurd (hk.symm.trans h) (by simp), fun k' h => ?_⟩
      obtain rfl : k = k' := Option.some.inj (hk.symm.trans h)
      exact .closed 0 (ih.1 (update_self ..))
    · rw [hskip (.closed k) l hi]
      rwa [update_of_ne (Ne.symm hi)] at ih

end Axent.Lib
