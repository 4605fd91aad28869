/-
  Lanes: tasks with a key, of which those with equal keys run one after the
  other, in the order they were accepted.

  Every key has a lane, with the tasks waiting in it and the one that runs.
  A task is accepted at the end of its lane; the front task of a lane starts
  when nothing runs in it; the waiting tasks of all lanes may be dropped.

  `LaneAccount` accounts for every task of a lane: those accepted are, in this
  order, the finished ones, the running one and the waiting ones, as long as
  nothing was dropped.
-/
import Mathlib.Data.List.Nodup
import Mathlib.Logic.Function.Basic
import Axent.Lib.Run

namespace Axent.Lib

open Function

/-- The waiting tasks of a lane, oldest first, and the running one. -/
structure Lane (τ : Type*) where
  queue : List τ := []
  running : Option τ := none

inductive LaneEvent (τ : Type*) where
  | accept (x : τ)
  | start (x : τ)
  | finish (x : τ)
  | drop

namespace LaneEvent
variable {τ : Type*}

@[simp] def accepted : LaneEvent τ → Option τ
  | accept x => some x
  | _ => none

@[simp] def started : LaneEvent τ → Option τ
  | start x => some x
  | _ => none

@[simp] def finished : LaneEvent τ → Option τ
  | finish x => some x
  | _ => none

end LaneEvent

variable {τ κ : Type*} [DecidableEq κ] (key : τ → κ)

/-- One event, on the lane of its task. -/
inductive LaneStep : (κ → Lane τ) → LaneEvent τ → (κ → Lane τ) → Prop
  | accept (l : κ → Lane τ) (x : τ) :
      LaneStep l (.accept x)
        (update l (key x) ⟨(l (key x)).queue ++ [x], (l (key x)).running⟩)
  | start (l : κ → Lane τ) (x : τ) (rest : List τ) (hq : (l (key x)).queue = x :: rest)
      (hr : (l (key x)).running = none) :
      LaneStep l (.start x) (update l (key x) ⟨rest, some x⟩)
  | finish (l : κ → Lane τ) (x : τ) (hr : (l (key x)).running = some x) :
      LaneStep l (.finish x) (update l (key x) ⟨(l (key x)).queue, none⟩)
  | drop (l : κ → Lane τ) : LaneStep l .drop fun k => ⟨[], (l k).running⟩

/-- The tasks that belong to the lane `k`. -/
def inLane (k : κ) (xs : List τ) : List τ := xs.filter fun x => key x = k

section
variable {key} {k : κ} {x : τ} {xs ys : List τ}

@[simp] theorem inLane_nil : inLane key k [] = [] := rfl

@[simp] theorem inLane_append : inLane key k (xs ++ ys) = inLane key k xs ++ inLane key k ys :=
  List.filter_append ..

@[simp] theorem inLane_cons_self : inLane key (key x) (x :: xs) = x :: inLane key (key x) xs :=
  List.filter_cons_of_pos (by simp)

theorem inLane_cons_of_ne (h : k ≠ key x) : inLane key k (x :: xs) = inLane key k xs :=
  List.filter_cons_of_neg (by simpa using h.symm)

theorem inLane_sublist : (inLane key k xs).Sublist xs := List.filter_sublist

theorem mem_inLane : x ∈ inLane key k xs ↔ x ∈ xs ∧ key x = k := by simp [inLane]

theorem inLane_eq_nil (h : ∀ y ∈ xs, key y ≠ k) : inLane key k xs = [] := by
  simpa [inLane] using h

/-- What happens at most once in every lane happens at most once. -/
theorem nodup_of_inLane (h : ∀ k, (inLane key k xs).Nodup) : xs.Nodup := by
  rw [List.nodup_iff_sublist]
  intro x hx
  have hsub : (inLane key (key x) [x, x]).Sublist (inLane key (key x) xs) := hx.filter _
  rw [inLane_cons_self, inLane_cons_self] at hsub
  exact List.nodup_iff_sublist.1 (h (key x)) x hsub

end

/-- The account of a lane after the events `t`. -/
structure LaneAccount (t : List (LaneEvent τ)) (k : κ) (lane : Lane τ) : Prop where
  queue_key : ∀ x ∈ lane.queue, key x = k
  running_key : ∀ x ∈ lane.running, key x = k
  started : inLane key k (t.filterMap LaneEvent.started) =
    inLane key k (t.filterMap LaneEvent.finished) ++ lane.running.toList
  order : (inLane key k (t.filterMap LaneEvent.started) ++ lane.queue).Sublist
    (inLane key k (t.filterMap LaneEvent.accepted))
  complete : .drop ∉ t → inLane key k (t.filterMap LaneEvent.started) ++ lane.queue =
    inLane key k (t.filterMap LaneEvent.accepted)

variable {key} {t : List (LaneEvent τ)} {k : κ} {lane : Lane τ} {l l' : κ → Lane τ}
  {e : LaneEvent τ} {x : τ}

namespace LaneAccount

theorem init : LaneAccount key [] k ({} : Lane τ) := by
  constructor <;> simp

theorem other (h : LaneAccount key t k lane) (hacc : ∀ x ∈ e.accepted, k ≠ key x)
    (hst : ∀ x ∈ e.started, k ≠ key x) (hfin : ∀ x ∈ e.finished, k ≠ key x) :
    LaneAccount key (t ++ [e]) k lane := by
  have hsame : ∀ f : LaneEvent τ → Option τ, (∀ x ∈ f e, k ≠ key x) →
      inLane key k ((t ++ [e]).filterMap f) = inLane key k (t.filterMap f) := by
    intro f hf
    have hnil : inLane key k (f e).toList = [] :=
      inLane_eq_nil fun x hx => (hf x (Option.mem_toList.1 hx)).symm
    rw [filterMap_concat, inLane_append, hnil, List.append_nil]
  refine ⟨h.queue_key, h.running_key, ?_, ?_, fun hd => ?_⟩
  · rw [hsame _ hst, hsame _ hfin]
    exact h.started
  · rw [hsame _ hst, hsame _ hacc]
    exact h.order
  · rw [hsame _ hst, hsame _ hacc]
    exact h.complete fun hd' => hd (List.mem_append_left _ hd')

theorem accept (h : LaneAccount key t (key x) lane) :
    LaneAccount key (t ++ [.accept x]) (key x) ⟨lane.queue ++ [x], lane.running⟩ := by
  refine ⟨?_, h.running_key, ?_, ?_, fun hd => ?_⟩
  · intro y hy
    rcases List.mem_append.1 hy with hy | hy
    · exact h.queue_key y hy
    · rw [List.mem_singleton.1 hy]
  · simpa [List.filterMap_cons] using h.started
  · have := h.order.append_right [x]
    simpa [List.filterMap_cons, ← List.append_assoc] using this
  · have := h.complete fun hd' => hd (List.mem_append_left _ hd')
    simp [List.filterMap_cons, ← List.append_assoc, this]

theorem start {rest : List τ} (h : LaneAccount key t (key x) lane) (hq : lane.queue = x :: rest)
    (hr : lane.running = none) : LaneAccount key (t ++ [.start x]) (key x) ⟨rest, some x⟩ := by
  refine ⟨?_, ?_, ?_, ?_, fun hd => ?_⟩
  · intro y hy
    exact h.queue_key y (hq ▸ List.mem_cons_of_mem _ hy)
  · intro y hy
    rw [Option.mem_some.1 hy]
  · have := h.started
    simp [List.filterMap_cons, this, hr]
  · have := h.order
    rw [hq] at this
    simpa [List.filterMap_cons] using this
  · have := h.complete fun hd' => hd (List.mem_append_left _ hd')
    rw [hq] at this
    simpa [List.filterMap_cons] using this

theorem finish (h : LaneAccount key t (key x) lane) (hr : lane.running = some x) :
    LaneAccount key (t ++ [.finish x]) (key x) ⟨lane.queue, none⟩ := by
  refine ⟨h.queue_key, by simp, ?_, ?_, fun hd => ?_⟩
  · have := h.started
    simp [List.filterMap_cons, this, hr]
  · simpa [List.filterMap_cons] using h.order
  · have := h.complete fun hd' => hd (List.mem_append_left _ hd')
    simpa [List.filterMap_cons] using this

theorem drop (h : LaneAccount key t k lane) :
    LaneAccount key (t ++ [.drop]) k ⟨[], lane.running⟩ := by
  refine ⟨by simp, h.running_key, ?_, ?_, fun hd => ?_⟩
  · simpa [List.filterMap_cons] using h.started
  · have := (List.sublist_append_left _ _).trans h.order
    simpa [List.filterMap_cons] using this
  · exact absurd (List.mem_append_right _ (List.mem_singleton_self _)) hd

/-- What has started was accepted, in this order. -/
theorem started_sublist (h : LaneAccount key t k lane) :
    (inLane key k (t.filterMap LaneEvent.started)).Sublist
      (inLane key k (t.filterMap LaneEvent.accepted)) :=
  (List.sublist_append_left _ _).trans h.order

end LaneAccount

/-- **Every event keeps the account of every lane.** -/
theorem LaneStep.account (h : LaneStep key l e l') (hi : ∀ k, LaneAccount key t k (l k)) :
    ∀ k, LaneAccount key (t ++ [e]) k (l' k) := by
  intro k
  cases h with
  | accept x =>
    by_cases hk : k = key x
    · subst hk
      rw [update_self]
      exact (hi (key x)).accept
    · rw [update_of_ne hk]
      exact (hi k).other (by simpa using hk) (by simp) (by simp)
  | start x rest hq hr =>
    by_cases hk : k = key x
    · subst hk
      rw [update_self]
      exact (hi (key x)).start hq hr
    · rw [update_of_ne hk]
      exact (hi k).other (by simp) (by simpa using hk) (by simp)
  | finish x hr =>
    by_cases hk : k = key x
    · subst hk
      rw [update_self]
      exact (hi (key x)).finish hr
    · rw [update_of_ne hk]
      exact (hi k).other (by simp) (by simp) (by simpa using hk)
  | drop => exact (hi k).drop

/-- **The account of every lane, along every run.** -/
theorem Run.laneAccount (h : Run (LaneStep key) (fun _ => {}) t l) :
    ∀ k, LaneAccount key t k (l k) :=
  h.inv (I := fun t l => ∀ k, LaneAccount key t k (l k)) (fun _ => .init)
    fun hi he => he.account hi

end Axent.Lib
