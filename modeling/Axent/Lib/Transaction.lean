/-
  A transaction that changes a value and can be rolled back once.

  While it runs, the value in force is the requested one, and after the rollback the
  one from before it.  It ends with the requested value (`apply`), with the old one
  after a rollback (`restore`), or with the old one in any case (`fail`).  A reset puts
  a value in force whatever goes on.

  `Transaction.replay` takes a list of events from one state to another, if they can
  happen in this order; a transaction that can be replayed is rolled back at most once
  (`Transaction.rollBack_once`).
-/
import Mathlib.Data.List.Count

namespace Axent.Lib

/-- The state: a value is in force, or it is being changed. -/
inductive Transaction (α : Type) where
  | idle (value : α)
  | running (previous requested : α) (rolledBack : Bool)
  deriving DecidableEq, Repr

inductive TransactionEvent (α : Type) where
  | begins (requested : α)
  | rollBack
  | apply
  | restore
  | fail
  | reset (value : α)
  deriving DecidableEq, Repr

namespace Transaction
variable {α : Type}

/-- The value in force. -/
def value : Transaction α → α
  | idle v => v
  | running previous requested rolledBack => if rolledBack then previous else requested

def next : Transaction α → TransactionEvent α → Option (Transaction α)
  | _, .reset v => some (idle v)
  | idle v, .begins requested => some (running v requested false)
  | running previous requested false, .rollBack => some (running previous requested true)
  | running _ requested false, .apply => some (idle requested)
  | running previous _ true, .restore => some (idle previous)
  | running previous _ _, .fail => some (idle previous)
  | _, _ => none

/-- The events happen one after the other. -/
def replay (T : Transaction α) (events : List (TransactionEvent α)) : Option (Transaction α) :=
  events.foldlM next T

theorem replay_append (T : Transaction α) (events events' : List (TransactionEvent α)) :
    T.replay (events ++ events') = (T.replay events).bind (·.replay events') :=
  List.foldlM_append

theorem replay_cons (T : Transaction α) (e : TransactionEvent α)
    (events : List (TransactionEvent α)) :
    T.replay (e :: events) = (T.next e).bind (·.replay events) :=
  rfl

theorem of_next_apply {T T' : Transaction α} (h : T.next .apply = some T') :
    ∃ previous requested, T = running previous requested false ∧ T' = idle requested := by
  rcases T with v | ⟨previous, requested, _ | _⟩ <;> cases h
  exact ⟨previous, requested, rfl, rfl⟩

theorem of_next_restore {T T' : Transaction α} (h : T.next .restore = some T') :
    ∃ previous requested, T = running previous requested true ∧ T' = idle previous := by
  rcases T with v | ⟨previous, requested, _ | _⟩ <;> cases h
  exact ⟨previous, requested, rfl, rfl⟩

theorem of_next_fail {T T' : Transaction α} (h : T.next .fail = some T') :
    ∃ previous requested rolledBack,
      T = running previous requested rolledBack ∧ T' = idle previous := by
  rcases T with v | ⟨previous, requested, _ | _⟩ <;> cases h
  · exact ⟨previous, requested, false, rfl, rfl⟩
  · exact ⟨previous, requested, true, rfl, rfl⟩

/-- How often it can still be rolled back before another one begins. -/
def rollBacksLeft : Transaction α → ℕ
  | running _ _ false => 1
  | _ => 0

theorem rollBacksLeft_next [DecidableEq α] {T T' : Transaction α} {e : TransactionEvent α}
    (h : T.next e = some T') (he : ∀ v, e ≠ .begins v) :
    T'.rollBacksLeft + [e].count .rollBack ≤ T.rollBacksLeft := by
  cases e with
  | begins v => exact absurd rfl (he v)
  | reset v =>
    cases h
    simp [rollBacksLeft]
  | _ =>
    rcases T with v | ⟨p, r, _ | _⟩ <;> first | (cases h; done) | (cases h; simp [rollBacksLeft])

/-- **A transaction is rolled back at most once.** -/
theorem rollBack_once [DecidableEq α] {T T' : Transaction α} {events : List (TransactionEvent α)}
    (h : T.replay events = some T') (hevents : ∀ v, .begins v ∉ events) :
    events.count .rollBack ≤ 1 := by
  have hleft : T'.rollBacksLeft + events.count .rollBack ≤ T.rollBacksLeft := by
    induction events generalizing T with
    | nil =>
      cases h
      simp
    | cons e events ih =>
      rw [replay_cons, Option.bind_eq_some_iff] at h
      obtain ⟨T₁, hnext, hrest⟩ := h
      have hfirst := rollBacksLeft_next hnext fun v hv => hevents v (hv ▸ List.mem_cons_self)
      have htail := ih hrest fun v hv => hevents v (List.mem_cons_of_mem _ hv)
      rw [List.count_cons]
      rw [List.count_singleton] at hfirst
      omega
  have hone : T.rollBacksLeft ≤ 1 := by
    rcases T with v | ⟨p, r, _ | _⟩ <;> simp [rollBacksLeft]
  omega

end Transaction

end Axent.Lib
