/-
  A queue with limits that drops its oldest items.

  An item that is published goes to the end of the queue; while the queue is over
  a limit, its oldest item is dropped.  If any were dropped, the item that is then
  the oldest gets a mark.  `DropQueue` keeps, beside the queue, all items that were
  published, dropped and taken.

  * `DropQueue.Inv`: the queue is within its limits; every item that was published
    is taken, dropped or queued; what is queued is what was published last, but
    for the mark of the front item.
  * `DropQueue.GapInv`: the front item is marked exactly if items were dropped since
    the last one was taken.  This needs that every item is by itself within the
    limits: otherwise it may leave an empty queue, with nothing to mark.
-/
import Mathlib.Algebra.GroupWithZero.Nat
import Mathlib.Data.List.Forall2

namespace Axent.Lib

/-- The limits of a queue; zero is no limit. -/
structure Limits where
  maxItems : ℕ
  maxBytes : ℕ

/-- The size and the mark of items. -/
structure Marking (α : Type*) where
  size : α → ℕ
  mark : α → α
  size_mark : ∀ x, size (mark x) = size x

variable {α : Type*} {q : List α}

/-- The size of all items. -/
def Marking.weight (M : Marking α) (q : List α) : ℕ := (q.map M.size).sum

/-- The item, or the item with a mark. -/
def Marking.Marked (M : Marking α) (x y : α) : Prop := y = x ∨ y = M.mark x

/-- The front item gets a mark. -/
def Marking.markHead (M : Marking α) : List α → List α
  | [] => []
  | x :: q => M.mark x :: q

/-- The queue is over a limit. -/
def Limits.Exceeded (L : Limits) (M : Marking α) (q : List α) : Prop :=
  (L.maxItems ≠ 0 ∧ L.maxItems < q.length) ∨ (L.maxBytes ≠ 0 ∧ L.maxBytes < M.weight q)

instance (L : Limits) (M : Marking α) (q : List α) : Decidable (L.Exceeded M q) :=
  inferInstanceAs (Decidable (_ ∨ _))

/-- How many items have to go. -/
def Limits.overflow (L : Limits) (M : Marking α) : List α → ℕ
  | [] => 0
  | x :: q => if L.Exceeded M (x :: q) then overflow L M q + 1 else 0

section
variable {L : Limits} {M : Marking α}

@[simp] theorem Marking.weight_nil : M.weight [] = 0 := rfl

@[simp] theorem Marking.weight_cons (x : α) (q : List α) :
    M.weight (x :: q) = M.size x + M.weight q := by
  simp [weight]

@[simp] theorem Marking.weight_append (q q' : List α) :
    M.weight (q ++ q') = M.weight q + M.weight q' := by
  simp [weight]

@[simp] theorem Marking.length_markHead (q : List α) : (M.markHead q).length = q.length := by
  cases q <;> rfl

@[simp] theorem Marking.weight_markHead (q : List α) : M.weight (M.markHead q) = M.weight q := by
  cases q with
  | nil => rfl
  | cons x q => simp [markHead, M.size_mark]

theorem Marking.weight_drop_le (q : List α) (n : ℕ) : M.weight (q.drop n) ≤ M.weight q := by
  have := congrArg M.weight (List.take_append_drop n q)
  rw [weight_append] at this
  omega

namespace Limits

theorem not_exceeded_nil : ¬ L.Exceeded M [] := by
  simp [Exceeded]

theorem not_exceeded_markHead (h : ¬ L.Exceeded M q) : ¬ L.Exceeded M (M.markHead q) := by
  simpa [Exceeded] using h

theorem not_exceeded_drop (h : ¬ L.Exceeded M q) (n : ℕ) : ¬ L.Exceeded M (q.drop n) := by
  have hweight := M.weight_drop_le q n
  unfold Exceeded at *
  rw [List.length_drop]
  omega

theorem overflow_eq_zero (h : ¬ L.Exceeded M q) : L.overflow M q = 0 := by
  cases q with
  | nil => rfl
  | cons x q => exact if_neg h

theorem overflow_cons {x : α} (h : L.Exceeded M (x :: q)) :
    L.overflow M (x :: q) = L.overflow M q + 1 :=
  if_pos h

theorem overflow_le (q : List α) : L.overflow M q ≤ q.length := by
  induction q with
  | nil => exact Nat.le_refl _
  | cons x q ih =>
    unfold overflow
    split
    · simpa using ih
    · exact Nat.zero_le _

/-- **What stays is within the limits.** -/
theorem not_exceeded_overflow (q : List α) : ¬ L.Exceeded M (q.drop (L.overflow M q)) := by
  induction q with
  | nil => exact not_exceeded_nil
  | cons x q ih =>
    unfold overflow
    split
    · exact ih
    · next h => exact h

/-- An item that is within the limits by itself stays when it is the last. -/
theorem overflow_concat_le {x : α} (h : ¬ L.Exceeded M [x]) (q : List α) :
    L.overflow M (q ++ [x]) ≤ q.length := by
  induction q with
  | nil => simp [overflow, h]
  | cons y q ih =>
    rw [List.cons_append, overflow]
    split
    · simpa using ih
    · exact Nat.zero_le _

end Limits

theorem Marking.drop_markHead (q q' : List α) {n : ℕ} (h : n ≠ 0) :
    (M.markHead q ++ q').drop n = (q ++ q').drop n := by
  obtain ⟨n, rfl⟩ := Nat.exists_eq_succ_of_ne_zero h
  cases q <;> rfl

theorem Marking.markHead_append (h : q ≠ []) (q' : List α) :
    M.markHead (q ++ q') = M.markHead q ++ q' := by
  cases q with
  | nil => exact absurd rfl h
  | cons => rfl

end

/-- The queue, and what has happened to it.  `seen` is how many items had been dropped when the
    last one was taken. -/
structure DropQueue (α : Type*) where
  queue : List α := []
  published : List α := []
  dropped : List α := []
  taken : List α := []
  seen : ℕ := 0

namespace DropQueue
variable (L : Limits) (M : Marking α)

/-- An item is published. -/
def publish (d : DropQueue α) (x : α) : DropQueue α :=
  let n := L.overflow M (d.queue ++ [x])
  let rest := (d.queue ++ [x]).drop n
  { d with
    queue := if n = 0 then rest else M.markHead rest
    published := d.published ++ [x]
    dropped := d.dropped ++ (d.queue ++ [x]).take n }

/-- The front item is taken. -/
def take (d : DropQueue α) : Option α × DropQueue α :=
  match d.queue with
  | [] => (none, d)
  | x :: q => (some x, { d with queue := q, taken := d.taken ++ [x], seen := d.dropped.length })

theorem published_take (d : DropQueue α) : d.take.2.published = d.published := by
  unfold take
  split <;> rfl

theorem taken_take (d : DropQueue α) : d.take.2.taken = d.taken ++ d.take.1.toList := by
  unfold take
  split
  · exact (List.append_nil _).symm
  · rfl

theorem seen_take (d : DropQueue α) :
    d.take.2.seen = if d.take.1.isSome then d.dropped.length else d.seen := by
  unfold take
  split <;> rfl

theorem dropped_take (d : DropQueue α) : d.take.2.dropped = d.dropped := by
  unfold take
  split <;> rfl

/-- Items were dropped since the last one was taken. -/
def gap (d : DropQueue α) : Bool := d.seen < d.dropped.length

/-- How many items have left the queue. -/
def gone (d : DropQueue α) : ℕ := d.taken.length + d.dropped.length

/-- The items that are queued, as they were published. -/
def original (d : DropQueue α) : List α := d.published.drop d.gone

/-- What holds of the queue. -/
structure Inv (d : DropQueue α) : Prop where
  within : ¬ L.Exceeded M d.queue
  count : d.published.length = d.taken.length + d.dropped.length + d.queue.length
  marked : d.queue = d.original ∨ d.queue = M.markHead d.original
  order : List.SublistForall₂ (fun y x => M.Marked x y) d.taken (d.published.take d.gone)
  seen : d.seen ≤ d.dropped.length

variable {L M} {d : DropQueue α}

theorem inv_empty : Inv L M ({} : DropQueue α) :=
  ⟨Limits.not_exceeded_nil, rfl, .inl rfl, .nil, Nat.le_refl _⟩

theorem Inv.gone_le (h : d.Inv L M) : d.gone ≤ d.published.length := by
  rw [h.count, gone]
  exact Nat.le_add_right _ _

theorem length_take_overflow (q : List α) : (q.take (L.overflow M q)).length = L.overflow M q :=
  List.length_take_of_le (L.overflow_le q)

theorem gone_publish (d : DropQueue α) (x : α) :
    (d.publish L M x).gone = d.gone + L.overflow M (d.queue ++ [x]) := by
  simp only [gone, publish, List.length_append, length_take_overflow, Nat.add_assoc]

theorem Inv.original_publish (h : d.Inv L M) (x : α) :
    (d.publish L M x).original =
      (d.original ++ [x]).drop (L.overflow M (d.queue ++ [x])) := by
  rw [original, gone_publish, ← List.drop_drop]
  change (List.drop d.gone (d.published ++ [x])).drop _ = _
  rw [List.drop_append_of_le_length h.gone_le, original]

theorem Inv.publish (h : d.Inv L M) (x : α) : (d.publish L M x).Inv L M where
  within := by
    unfold DropQueue.publish
    dsimp only
    split
    · exact Limits.not_exceeded_overflow _
    · exact Limits.not_exceeded_markHead (Limits.not_exceeded_overflow _)
  count := by
    have hle : L.overflow M (d.queue ++ [x]) ≤ d.queue.length + 1 := by
      simpa using L.overflow_le (M := M) (d.queue ++ [x])
    have hlength : (d.publish L M x).queue.length =
        d.queue.length + 1 - L.overflow M (d.queue ++ [x]) := by
      unfold DropQueue.publish
      dsimp only
      split <;> simp
    have hcount := h.count
    rw [hlength]
    simp only [DropQueue.publish, List.length_append, length_take_overflow, List.length_singleton]
    omega
  marked := by
    rw [h.original_publish x]
    unfold DropQueue.publish
    dsimp only
    generalize L.overflow M (d.queue ++ [x]) = n
    split
    · next hzero =>
      subst hzero
      rcases h.marked with hq | hq
      · exact .inl (by rw [hq])
      · rcases hne : d.original with _ | ⟨y, q⟩
        · exact .inl (by rw [hq, hne]; rfl)
        · exact .inr (by rw [hq, hne]; rfl)
    · next hzero =>
      refine .inr ?_
      rcases h.marked with hq | hq
      · rw [hq]
      · rw [hq, M.drop_markHead _ _ hzero]
  order := by
    rw [gone_publish]
    change List.SublistForall₂ _ d.taken ((d.published ++ [x]).take _)
    obtain ⟨l, hl, hsub⟩ := List.sublistForall₂_iff.1 h.order
    refine List.sublistForall₂_iff.2 ⟨l, hl, hsub.trans ?_⟩
    have htake : d.published.take d.gone <+: (d.published ++ [x]).take d.gone := by
      simp only [List.take_append_of_le_length h.gone_le, List.prefix_rfl]
    exact (htake.trans (List.take_prefix_take_left (Nat.le_add_right _ _))).sublist
  seen := by
    have := h.seen
    simp only [DropQueue.publish, List.length_append]
    omega

theorem Inv.take_cons (h : d.Inv L M) {y : α} (hq : d.queue = y :: q) :
    ∃ x, d.original = x :: q ∧ M.Marked x y := by
  rcases h.marked with heq | heq
  · exact ⟨y, heq ▸ hq, .inl rfl⟩
  · cases horiginal : d.original with
    | nil =>
      rw [heq, horiginal] at hq
      cases hq
    | cons x q' =>
      rw [heq, horiginal] at hq
      cases hq
      exact ⟨x, rfl, .inr rfl⟩

/-- The item that comes next was published. -/
theorem getElem?_gone {x : α} (h : d.original = x :: q) : d.published[d.gone]? = some x := by
  have := congrArg List.head? h
  rwa [original, List.head?_drop] at this

theorem original_take {x : α} (h : d.original = x :: q) : d.published.drop (d.gone + 1) = q := by
  rw [← List.drop_drop]
  change d.original.drop 1 = q
  rw [h]
  rfl

theorem Inv.take (h : d.Inv L M) : d.take.2.Inv L M := by
  unfold DropQueue.take
  split
  · exact h
  · next y q hq =>
    obtain ⟨x, horiginal, hmarked⟩ := h.take_cons hq
    have hgone : ({ d with queue := q, taken := d.taken ++ [y], seen := d.dropped.length } :
        DropQueue α).gone = d.gone + 1 := by
      simp only [gone, List.length_append, List.length_singleton]
      omega
    refine ⟨?_, ?_, .inl ?_, ?_, Nat.le_refl _⟩
    · have := Limits.not_exceeded_drop h.within 1
      rwa [hq] at this
    · have hcount := h.count
      simp only [hq, List.length_cons] at hcount
      simp only [List.length_append, List.length_singleton]
      omega
    · rw [original, hgone]
      exact (original_take horiginal).symm
    · rw [hgone]
      change List.SublistForall₂ _ (d.taken ++ [y]) (d.published.take (d.gone + 1))
      obtain ⟨l, hl, hsub⟩ := List.sublistForall₂_iff.1 h.order
      rw [List.take_add_one, getElem?_gone horiginal]
      exact List.sublistForall₂_iff.2
        ⟨l ++ [x], List.rel_append hl (.cons hmarked .nil), hsub.append (.refl _)⟩

/-! ## Gaps -/

/-- The front item is marked exactly if items were dropped since the last one was taken. -/
structure GapInv (M : Marking α) (d : DropQueue α) : Prop where
  front : d.queue = if d.gap then M.markHead d.original else d.original
  queued : d.gap → d.original ≠ []

theorem gapInv_empty : GapInv M ({} : DropQueue α) := ⟨rfl, fun h => by cases h⟩

theorem GapInv.publish (h : d.GapInv M) (hd : d.Inv L M) {x : α} (hx : ¬ L.Exceeded M [x]) :
    (d.publish L M x).GapInv M := by
  have hle := Limits.overflow_concat_le hx d.queue
  have horiginal := hd.original_publish x
  have hlength : d.original.length = d.queue.length := by
    rw [h.front]
    split <;> simp
  by_cases hzero : L.overflow M (d.queue ++ [x]) = 0
  · have hgap : (d.publish L M x).gap = d.gap := by
      simp [gap, DropQueue.publish, hzero]
    rw [hzero, List.drop_zero] at horiginal
    refine ⟨?_, fun _ => by simp [horiginal]⟩
    rw [hgap, horiginal]
    have hqueue : (d.publish L M x).queue = d.queue ++ [x] := by simp [DropQueue.publish, hzero]
    rw [hqueue, h.front]
    split
    · next hg => rw [M.markHead_append (h.queued hg)]
    · rfl
  · have hseen := hd.seen
    have hgap : (d.publish L M x).gap = true := by
      simp only [gap, DropQueue.publish, List.length_append, length_take_overflow,
        decide_eq_true_eq]
      omega
    refine ⟨?_, fun _ hnil => ?_⟩
    · rw [hgap, horiginal]
      simp only [DropQueue.publish, if_neg hzero, if_true]
      generalize L.overflow M (d.queue ++ [x]) = n at hzero
      rw [h.front]
      split
      · rw [M.drop_markHead _ _ hzero]
      · rfl
    · rw [horiginal] at hnil
      have := congrArg List.length hnil
      simp only [List.length_drop, List.length_append, List.length_singleton, List.length_nil]
        at this
      omega

theorem GapInv.take (h : d.GapInv M) (hd : d.Inv L M) : d.take.2.GapInv M := by
  unfold DropQueue.take
  split
  · exact h
  · next y q hq =>
    obtain ⟨x, horiginal, -⟩ := hd.take_cons hq
    have hgap : ({ d with queue := q, taken := d.taken ++ [y], seen := d.dropped.length } :
        DropQueue α).gap = false := by
      simp [gap]
    refine ⟨?_, fun h => by rw [hgap] at h; cases h⟩
    rw [hgap, original]
    have hgone : (d.taken ++ [y]).length + d.dropped.length = d.gone + 1 := by
      simp only [gone, List.length_append, List.length_singleton]
      omega
    simp only [gone, hgone]
    exact (original_take horiginal).symm

/-- **The next item** is the one that was published, with a mark exactly if there is a gap. -/
theorem GapInv.next (h : d.GapInv M) {y : α} (hy : d.take.1 = some y) :
    ∃ x, d.published[d.gone]? = some x ∧ y = if d.gap then M.mark x else x := by
  unfold DropQueue.take at hy
  split at hy
  · cases hy
  · next z q hq =>
    cases hy
    have hfront := h.front
    cases horiginal : d.original with
    | nil =>
      rw [horiginal, hq] at hfront
      split at hfront <;> cases hfront
    | cons x q' =>
      refine ⟨x, getElem?_gone horiginal, ?_⟩
      rw [horiginal, hq] at hfront
      split
      · next hg =>
        simp only [hg, if_true, Marking.markHead] at hfront
        exact (List.cons.inj hfront).1
      · next hg =>
        simp only [hg] at hfront
        exact (List.cons.inj hfront).1

end DropQueue

end Axent.Lib
