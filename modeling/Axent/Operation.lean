/-
  `ControlOperation` (`src/core/control_operation.cpp`): the cell through which
  an asynchronous control call reports its result.

  A call on the operation locks the state once and calls handlers after it has
  released the lock.  The locked sections are the functions `complete`,
  `cancel`, `onComplete` and `setCancelHandler`: each gives the new state and
  what its caller still has to do outside (`Outside`).

  `OperationStep` interleaves any number of calls: a step is one locked
  section, one handler call, or the return of a call.  A handler may use the
  operation again; its calls are further calls in the interleaving.  Handlers
  are named by the call that registered them.

  `OperationInv` relates the state to the events so far.  Its heart is a
  conservation law (`delivery`): a registered handler is waiting in the state,
  owed by a call that has taken it out, or has been called.
-/
import Mathlib.Data.List.Nodup
import Mathlib.Data.List.ReduceOption
import Axent.Lib.Run
import Axent.Types

namespace Axent

open Lib

/-! ## The locked sections -/

/-- `ControlOperation::State`, with handlers of type `η`; a null handler is
    `none`. -/
structure OperationState (η : Type) where
  result : Option ControlResult := none
  cancelHandler : Option η := none
  completionHandlers : List (Option η) := []
  cancellationRequested : Bool := false

/-- What a call does after releasing the lock: it calls the cancel handler,
    then the completion handlers in order (skipping null ones) with `result`,
    and returns. -/
structure Outside (η : Type) where
  cancelHandler : Option η := none
  completionHandlers : List η := []
  result : ControlResult := {}
  returns : Option Bool := none

/-- `cancelled_result`. -/
def cancelledResult : ControlResult := .failure .unavailable "control operation cancelled"

namespace OperationState
variable {η : Type}

/-- `ControlOperationSource::complete`. -/
def complete (s : OperationState η) (result : ControlResult) : OperationState η × Outside η :=
  match s.result with
  | some _ => (s, { returns := some false })
  | none =>
    ({ s with result := some result, completionHandlers := [] },
      { completionHandlers := s.completionHandlers.reduceOption
        result := result
        returns := some true })

/-- `ControlOperation::cancel`. -/
def cancel (s : OperationState η) : OperationState η × Outside η :=
  match s.result with
  | some _ => (s, {})
  | none =>
    ({ s with
        cancellationRequested := true
        result := some cancelledResult
        completionHandlers := [] },
      { cancelHandler := s.cancelHandler
        completionHandlers := s.completionHandlers.reduceOption
        result := cancelledResult })

/-- `ControlOperationSource::on_complete`, and `observe` on an operation. -/
def onComplete (s : OperationState η) (handler : Option η) : OperationState η × Outside η :=
  match s.result with
  | some completed => (s, { completionHandlers := handler.toList, result := completed })
  | none => ({ s with completionHandlers := s.completionHandlers ++ [handler] }, {})

/-- `ControlOperationSource::set_cancel_handler`. -/
def setCancelHandler (s : OperationState η) (handler : Option η) :
    OperationState η × Outside η :=
  let s' := { s with cancelHandler := handler }
  if s.cancellationRequested then (s', { cancelHandler := handler }) else (s', {})

/-- `make_completed_control_operation`. -/
def completed (result : ControlResult) : OperationState η :=
  (({} : OperationState η).complete result).1

end OperationState

/-! ## Interleaved calls -/

/-- A call on the operation; `callable` says that the handler is not null. -/
inductive OperationCall where
  | complete (result : ControlResult)
  | cancel
  | onComplete (callable : Bool)
  | setCancelHandler (callable : Bool)

/-- The handler that call `id` registers. -/
def handlerOf (id : ℕ) (callable : Bool) : Option ℕ := if callable then some id else none

/-- The locked section of a call. -/
def OperationCall.enter (id : ℕ) (s : OperationState ℕ) :
    OperationCall → OperationState ℕ × Outside ℕ
  | complete result => s.complete result
  | cancel => s.cancel
  | onComplete callable => s.onComplete (handlerOf id callable)
  | setCancelHandler callable => s.setCancelHandler (handlerOf id callable)

/-- The operation and the calls that have left their locked section but not
    returned.  Calls are numbered; `0` is the constructor. -/
structure OperationSystem where
  state : OperationState ℕ
  inFlight : List (ℕ × Outside ℕ) := []
  next : ℕ := 1

inductive OperationEvent where
  /-- the locked section of a call, with the result it assigned -/
  | enter (id : ℕ) (call : OperationCall) (assigned : Option ControlResult)
  /-- a call of the cancel handler that `handler` registered -/
  | callCancelHandler (id handler : ℕ)
  /-- a call of the completion handler that `handler` registered -/
  | callCompletionHandler (id handler : ℕ) (result : ControlResult)
  | return_ (id : ℕ) (value : Option Bool)

/-- The result that a locked section leading from `s` to `s'` assigned. -/
def assignedBy (s s' : OperationState ℕ) : Option ControlResult :=
  if s.result.isSome then none else s'.result

/-- One step of one of the threads. -/
inductive OperationStep : OperationSystem → OperationEvent → OperationSystem → Prop
  | enter (s : OperationSystem) (call : OperationCall) :
      OperationStep s (.enter s.next call (assignedBy s.state (call.enter s.next s.state).1))
        { state := (call.enter s.next s.state).1
          inFlight := s.inFlight ++ [(s.next, (call.enter s.next s.state).2)]
          next := s.next + 1 }
  | callCancelHandler (s : OperationSystem) (before : List (ℕ × Outside ℕ))
      {after : List (ℕ × Outside ℕ)} {id h : ℕ} {o : Outside ℕ}
      (hs : s.inFlight = before ++ (id, o) :: after)
      (ho : o.cancelHandler = some h) :
      OperationStep s (.callCancelHandler id h)
        { s with inFlight := before ++ (id, { o with cancelHandler := none }) :: after }
  | callCompletionHandler (s : OperationSystem) (before : List (ℕ × Outside ℕ))
      {after : List (ℕ × Outside ℕ)} {id h : ℕ} {o : Outside ℕ} {rest : List ℕ}
      (hs : s.inFlight = before ++ (id, o) :: after)
      (hc : o.cancelHandler = none) (ho : o.completionHandlers = h :: rest) :
      OperationStep s (.callCompletionHandler id h o.result)
        { s with inFlight := before ++ (id, { o with completionHandlers := rest }) :: after }
  | return_ (s : OperationSystem) (before : List (ℕ × Outside ℕ))
      {after : List (ℕ × Outside ℕ)} {id : ℕ} {o : Outside ℕ}
      (hs : s.inFlight = before ++ (id, o) :: after) (hc : o.cancelHandler = none)
      (ho : o.completionHandlers = []) :
      OperationStep s (.return_ id o.returns) { s with inFlight := before ++ after }

/-- The operation as it is constructed. -/
def OperationSystem.init (callable : Bool) : OperationSystem :=
  { state := { cancelHandler := handlerOf 0 callable } }

/-! ## The invariant -/

section
variable (t : List OperationEvent) (s : OperationSystem)

/-- The results assigned so far. -/
def assignments : List ControlResult :=
  t.filterMap fun | .enter _ _ assigned => assigned | _ => none

/-- The completion handlers registered so far. -/
def registrations : List ℕ :=
  t.filterMap fun | .enter id (.onComplete true) _ => some id | _ => none

/-- The completion handlers called so far. -/
def deliveries : List ℕ :=
  t.filterMap fun | .callCompletionHandler _ h _ => some h | _ => none

/-- The cancel handlers called so far. -/
def cancellations : List ℕ :=
  t.filterMap fun | .callCancelHandler _ h => some h | _ => none

/-- The calls so far. -/
def entered : List ℕ := t.filterMap fun | .enter id _ _ => some id | _ => none

/-- The completion handlers that calls in flight still have to call. -/
def owed : List ℕ := s.inFlight.flatMap fun p => p.2.completionHandlers

/-- The cancel handlers that calls in flight still have to call. -/
def owedCancels : List ℕ := s.inFlight.flatMap fun p => p.2.cancelHandler.toList

/-- What a call returns; `assigned` is the result it assigned. -/
def OperationCall.value (assigned : Option ControlResult) : OperationCall → Option Bool
  | complete _ => some assigned.isSome
  | _ => none

/-- The call `id` returns `v`. -/
def Answers (id : ℕ) (v : Option Bool) : Prop := ∃ call a, .enter id call a ∈ t ∧ v = call.value a

/-- The operation after the events `t`. -/
structure OperationInv : Prop where
  assigned : assignments t = s.state.result.toList
  waiting : s.state.result.isSome → s.state.completionHandlers = []
  delivery : ∀ h, (registrations t).count h =
    s.state.completionHandlers.reduceOption.count h + (owed s).count h + (deliveries t).count h
  fresh : ∀ id ∈ entered t, id < s.next
  once : (entered t).Nodup
  delivering : ∀ p ∈ s.inFlight, p.2.completionHandlers ≠ [] → s.state.result = some p.2.result
  delivered : ∀ id h r, .callCompletionHandler id h r ∈ t → s.state.result = some r
  cancelled : s.state.cancellationRequested → s.state.result = some cancelledResult
  cancelOnce : ∀ h, (cancellations t).count h + (owedCancels s).count h ≤ 1
  cancelFresh : ∀ h, h ∈ cancellations t ∨ h ∈ owedCancels s ∨ s.state.cancelHandler = some h →
    h < s.next
  cancelling : ∀ h, h ∈ cancellations t ∨ h ∈ owedCancels s → s.state.cancellationRequested
  running : ∀ p ∈ s.inFlight, Answers t p.1 p.2.returns
  returned : ∀ id v, .return_ id v ∈ t → Answers t id v

end

/-- What a locked section does, as far as the invariant is concerned. -/
structure Entered (id : ℕ) (call : OperationCall) (st st' : OperationState ℕ) (o : Outside ℕ) :
    Prop where
  result : st'.result.toList = st.result.toList ++ (assignedBy st st').toList
  kept : ∀ {r}, st.result = some r → st'.result = some r
  waiting : (st.result.isSome → st.completionHandlers = []) →
    st'.result.isSome → st'.completionHandlers = []
  delivery : ∀ h,
    (registrations [.enter id call none]).count h + st.completionHandlers.reduceOption.count h =
      st'.completionHandlers.reduceOption.count h + o.completionHandlers.count h
  delivering : o.completionHandlers ≠ [] → st'.result = some o.result
  cancelled : (st.cancellationRequested → st.result = some cancelledResult) →
    st'.cancellationRequested → st'.result = some cancelledResult
  requested : st.cancellationRequested → st'.cancellationRequested
  cancelling : ∀ {h}, o.cancelHandler = some h → st'.cancellationRequested ∧
    (h = id ∨ (st.result = none ∧ st.cancelHandler = some h))
  registered : ∀ {h}, st'.cancelHandler = some h → h = id ∨ st.cancelHandler = some h
  returns : o.returns = call.value (assignedBy st st')

theorem handlerOf_eq_some {id h : ℕ} {callable : Bool} (hh : handlerOf id callable = some h) :
    h = id := by
  unfold handlerOf at hh
  split_ifs at hh
  exact (Option.some.inj hh).symm

theorem entered_complete (id : ℕ) (st : OperationState ℕ) (result : ControlResult) :
    Entered id (.complete result) st (st.complete result).1 (st.complete result).2 := by
  unfold OperationState.complete
  cases hr : st.result with
  | some r =>
    constructor <;> simp_all [assignedBy, registrations, OperationCall.value]
  | none =>
    constructor <;> simp_all [assignedBy, registrations, OperationCall.value,
      List.reduceOption_nil]

theorem entered_cancel (id : ℕ) (st : OperationState ℕ) :
    Entered id .cancel st st.cancel.1 st.cancel.2 := by
  unfold OperationState.cancel
  cases hr : st.result with
  | some r =>
    constructor <;> simp_all [assignedBy, registrations, OperationCall.value]
  | none =>
    constructor <;> simp_all [assignedBy, registrations, OperationCall.value,
      List.reduceOption_nil]

/-- A registration is owed by its own call when the result exists, and waits
    in the state when it does not. -/
theorem entered_onComplete (id : ℕ) (st : OperationState ℕ) (callable : Bool) :
    Entered id (.onComplete callable) st (st.onComplete (handlerOf id callable)).1
      (st.onComplete (handlerOf id callable)).2 := by
  have hreg : registrations [.enter id (.onComplete callable) none] =
      (handlerOf id callable).toList := by
    cases callable <;> rfl
  unfold OperationState.onComplete
  cases hr : st.result with
  | some r =>
    constructor
    case delivery => intro h; rw [hreg, add_comm]
    all_goals simp_all [assignedBy, OperationCall.value]
  | none =>
    constructor
    case delivery =>
      intro h
      rw [hreg, List.reduceOption_append, List.count_append, List.count_nil, add_zero, add_comm]
      cases callable <;> rfl
    all_goals simp_all [assignedBy, OperationCall.value]

theorem entered_setCancelHandler (id : ℕ) (st : OperationState ℕ) (callable : Bool) :
    Entered id (.setCancelHandler callable) st (st.setCancelHandler (handlerOf id callable)).1
      (st.setCancelHandler (handlerOf id callable)).2 := by
  unfold OperationState.setCancelHandler
  cases hc : st.cancellationRequested with
  | true =>
    constructor
    case cancelling => exact fun hh => ⟨rfl, .inl (handlerOf_eq_some hh)⟩
    case registered => exact fun hh => .inl (handlerOf_eq_some hh)
    all_goals simp_all [assignedBy, registrations, OperationCall.value]
  | false =>
    constructor
    case registered => exact fun hh => .inl (handlerOf_eq_some hh)
    all_goals simp_all [assignedBy, registrations, OperationCall.value]

/-- **What the locked section of any call does.** -/
theorem enter_spec (id : ℕ) (call : OperationCall) (st : OperationState ℕ) :
    Entered id call st (call.enter id st).1 (call.enter id st).2 := by
  cases call with
  | complete result => exact entered_complete id st result
  | cancel => exact entered_cancel id st
  | onComplete callable => exact entered_onComplete id st callable
  | setCancelHandler callable => exact entered_setCancelHandler id st callable

/-! ## Every step keeps the invariant -/

section
variable {t : List OperationEvent} {s : OperationSystem} {before after : List (ℕ × Outside ℕ)}
  {id h : ℕ} {o : Outside ℕ} {e : OperationEvent}

theorem Answers.concat {v : Option Bool} : Answers t id v → Answers (t ++ [e]) id v :=
  fun ⟨call, a, hmem, hv⟩ => ⟨call, a, List.mem_append_left _ hmem, hv⟩

theorem registrations_enter (call : OperationCall) (a : Option ControlResult) :
    registrations (t ++ [.enter id call a]) =
      registrations t ++ registrations [.enter id call none] := by
  rw [registrations, List.filterMap_append]
  rcases call with _ | _ | (_ | _) | _ <;> rfl

/-- Only the handlers of a call that entered are registered. -/
theorem registrations_sublist (t : List OperationEvent) :
    (registrations t).Sublist (entered t) := by
  induction t with
  | nil => exact List.Sublist.refl _
  | cons e t ih =>
    unfold registrations entered at *
    rcases e with ⟨id, _ | _ | (_ | _) | _, a⟩ | _ | _ | _ <;>
      simp only [List.filterMap_cons]
    all_goals first
      | exact ih
      | exact ih.cons _
      | exact ih.cons_cons _

theorem OperationInv.init (callable : Bool) : OperationInv [] (.init callable) := by
  constructor
  case cancelFresh =>
    rintro h (hh | hh | hh)
    · simp [cancellations] at hh
    · simp [owedCancels, OperationSystem.init] at hh
    · rw [handlerOf_eq_some hh]; exact Nat.one_pos
  all_goals simp [assignments, registrations, deliveries, cancellations, entered, owed, owedCancels,
    OperationSystem.init, List.reduceOption_nil]

theorem OperationInv.enter (hi : OperationInv t s) (call : OperationCall) :
    OperationInv (t ++ [.enter s.next call (assignedBy s.state (call.enter s.next s.state).1)])
      { state := (call.enter s.next s.state).1
        inFlight := s.inFlight ++ [(s.next, (call.enter s.next s.state).2)]
        next := s.next + 1 } := by
  have he := enter_spec s.next call s.state
  generalize (call.enter s.next s.state).1 = st' at he ⊢
  generalize (call.enter s.next s.state).2 = o at he ⊢
  -- the cancel handlers known before
  have hold : ∀ h, h ∈ cancellations t ∨ h ∈ owedCancels s → s.state.result ≠ none := by
    intro h hh
    rw [hi.cancelled (hi.cancelling h hh)]
    exact Option.some_ne_none _
  have howed : ∀ f : ℕ × Outside ℕ → List ℕ, (s.inFlight ++ [(s.next, o)]).flatMap f =
      s.inFlight.flatMap f ++ f (s.next, o) := by
    intro f; simp
  constructor
  case assigned =>
    rw [assignments, List.filterMap_append, he.result, ← hi.assigned]
    cases assignedBy s.state st' <;> rfl
  case waiting => exact he.waiting hi.waiting
  case delivery =>
    intro h
    have h₁ := hi.delivery h
    have h₂ := he.delivery h
    rw [registrations_enter, List.count_append, owed, howed, List.count_append, deliveries,
      List.filterMap_append]
    simp only [owed, deliveries, List.filterMap_cons, List.filterMap_nil, List.append_nil] at h₁ ⊢
    omega
  case fresh =>
    intro id hid
    rw [entered, List.filterMap_append, List.mem_append] at hid
    rcases hid with hid | hid
    · exact Nat.lt_succ_of_lt (hi.fresh id hid)
    · rw [List.mem_singleton.1 hid]; exact Nat.lt_succ_self _
  case once =>
    rw [entered, List.filterMap_append, List.nodup_append]
    refine ⟨hi.once, List.pairwise_singleton _ _, fun a ha b hb => ?_⟩
    rw [List.mem_singleton.1 hb]
    exact Nat.ne_of_lt (hi.fresh a ha)
  case delivering =>
    intro p hp hne
    rcases List.mem_append.1 hp with hp | hp
    · exact he.kept (hi.delivering p hp hne)
    · rw [List.mem_singleton.1 hp] at hne ⊢
      exact he.delivering hne
  case delivered =>
    intro id h r hr
    rcases List.mem_append.1 hr with hr | hr
    · exact he.kept (hi.delivered id h r hr)
    · simp at hr
  case cancelled => exact he.cancelled hi.cancelled
  case cancelOnce =>
    intro h
    have h₁ := hi.cancelOnce h
    rw [owedCancels, howed, List.count_append, cancellations, List.filterMap_append]
    simp only [List.filterMap_cons, List.filterMap_nil, List.append_nil]
    cases ho : o.cancelHandler with
    | none => simpa [owedCancels, cancellations] using h₁
    | some h' =>
      -- a newly owed handler is new, or nothing was cancelled before
      have hnew : ∀ x, x ∈ cancellations t ∨ x ∈ owedCancels s → x ≠ h' := by
        rintro x hx rfl
        rcases (he.cancelling ho).2 with rfl | ⟨hnone, -⟩
        · exact absurd (hi.cancelFresh _ (hx.imp_right .inl)) (lt_irrefl _)
        · exact hold x hx hnone
      by_cases hh : h = h'
      · subst hh
        have hc₁ := List.count_eq_zero.2 fun hx => hnew h (.inl hx) rfl
        have hc₂ := List.count_eq_zero.2 fun hx => hnew h (.inr hx) rfl
        simp only [cancellations, owedCancels] at hc₁ hc₂
        simp [hc₁, hc₂]
      · simpa [owedCancels, cancellations, List.count_singleton, Ne.symm hh] using h₁
  case cancelFresh =>
    rintro h (hh | hh | hh)
    · rw [cancellations, List.filterMap_append, List.mem_append] at hh
      exact Nat.lt_succ_of_lt (hi.cancelFresh h (.inl (hh.resolve_right (by simp))))
    · rw [owedCancels, howed, List.mem_append, Option.mem_toList] at hh
      rcases hh with hh | hh
      · exact Nat.lt_succ_of_lt (hi.cancelFresh h (.inr (.inl hh)))
      · rcases (he.cancelling hh).2 with rfl | ⟨-, hh⟩
        · exact Nat.lt_succ_self _
        · exact Nat.lt_succ_of_lt (hi.cancelFresh h (.inr (.inr hh)))
    · rcases he.registered hh with rfl | hh
      · exact Nat.lt_succ_self _
      · exact Nat.lt_succ_of_lt (hi.cancelFresh h (.inr (.inr hh)))
  case cancelling =>
    rintro h (hh | hh)
    · rw [cancellations, List.filterMap_append, List.mem_append] at hh
      exact he.requested (hi.cancelling h (.inl (hh.resolve_right (by simp))))
    · rw [owedCancels, howed, List.mem_append, Option.mem_toList] at hh
      rcases hh with hh | hh
      · exact he.requested (hi.cancelling h (.inr hh))
      · exact (he.cancelling hh).1
  case running =>
    intro p hp
    rcases List.mem_append.1 hp with hp | hp
    · exact (hi.running p hp).concat
    · rw [List.mem_singleton.1 hp]
      exact ⟨call, _, List.mem_append_right _ (List.mem_singleton_self _), he.returns⟩
  case returned =>
    intro id v hv
    rcases List.mem_append.1 hv with hv | hv
    · exact (hi.returned id v hv).concat
    · simp at hv

/-- A call in flight goes on: it makes the event `e` and is left with `rest`,
    or with nothing. -/
theorem OperationInv.proceed (hi : OperationInv t s) (hs : s.inFlight = before ++ (id, o) :: after)
    (rest : List (ℕ × Outside ℕ))
    (hrest : ∀ p ∈ rest, p.1 = id ∧ p.2.result = o.result ∧ p.2.returns = o.returns ∧
      (p.2.completionHandlers ≠ [] → o.completionHandlers ≠ []))
    (he : assignments [e] = [] ∧ registrations [e] = [] ∧ entered [e] = [])
    (hd : ∀ h, o.completionHandlers.count h =
      (rest.flatMap fun p => p.2.completionHandlers).count h + (deliveries [e]).count h)
    (hc : ∀ h, o.cancelHandler.toList.count h =
      (rest.flatMap fun p => p.2.cancelHandler.toList).count h + (cancellations [e]).count h)
    (hr : ∀ i h r, e = .callCompletionHandler i h r → r = o.result ∧ o.completionHandlers ≠ [])
    (hv : ∀ i v, e = .return_ i v → i = id ∧ v = o.returns) :
    OperationInv (t ++ [e]) { s with inFlight := before ++ (rest ++ after) } := by
  have hsame {α : Type} {f : OperationEvent → Option α} (h : [e].filterMap f = []) :
      (t ++ [e]).filterMap f = t.filterMap f := by rw [List.filterMap_append, h, List.append_nil]
  have hmem : (id, o) ∈ s.inFlight := by rw [hs]; simp
  have hsub : ∀ p ∈ before ++ (rest ++ after), p ∈ s.inFlight ∨ p ∈ rest := by
    intro p hp
    rw [hs]
    simp only [List.mem_append, List.mem_cons] at hp ⊢
    tauto
  -- what is owed, and called, before and after
  have hcancels : ∀ h, (cancellations (t ++ [e])).count h +
      (owedCancels { s with inFlight := before ++ (rest ++ after) }).count h =
      (cancellations t).count h + (owedCancels s).count h := by
    intro h
    have := hc h
    rw [cancellations, List.filterMap_append, owedCancels, owedCancels, hs]
    simp only [cancellations, List.flatMap_append, List.flatMap_cons, List.count_append] at this ⊢
    omega
  have hcmem : ∀ h, h ∈ cancellations (t ++ [e]) ∨
      h ∈ owedCancels { s with inFlight := before ++ (rest ++ after) } →
      h ∈ cancellations t ∨ h ∈ owedCancels s := by
    intro h hh
    rw [← List.count_pos_iff, ← List.count_pos_iff] at hh ⊢
    have := hcancels h
    omega
  constructor
  case assigned => exact (hsame he.1).trans hi.assigned
  case waiting => exact hi.waiting
  case delivery =>
    intro h
    have h₁ := hi.delivery h
    have h₂ := hd h
    rw [registrations, hsame he.2.1, owed, deliveries, List.filterMap_append]
    simp only [registrations, deliveries, owed, hs, List.flatMap_append, List.flatMap_cons,
      List.count_append] at h₁ h₂ ⊢
    omega
  case fresh =>
    rw [entered, hsame he.2.2]
    exact hi.fresh
  case once =>
    rw [entered, hsame he.2.2]
    exact hi.once
  case delivering =>
    intro p hp hne
    rcases hsub p hp with hp | hp
    · exact hi.delivering p hp hne
    · obtain ⟨-, hres, -, hne'⟩ := hrest p hp
      rw [hres]
      exact hi.delivering _ hmem (hne' hne)
  case delivered =>
    intro i h r hmem'
    rcases List.mem_append.1 hmem' with hm | hm
    · exact hi.delivered i h r hm
    · obtain ⟨rfl, hne⟩ := hr i h r (List.mem_singleton.1 hm).symm
      exact hi.delivering _ hmem hne
  case cancelled => exact hi.cancelled
  case cancelOnce =>
    intro h
    rw [hcancels]
    exact hi.cancelOnce h
  case cancelFresh =>
    rintro h (hh | hh | hh)
    · exact hi.cancelFresh h ((hcmem h (.inl hh)).imp_right .inl)
    · exact hi.cancelFresh h ((hcmem h (.inr hh)).imp_right .inl)
    · exact hi.cancelFresh h (.inr (.inr hh))
  case cancelling => exact fun h hh => hi.cancelling h (hcmem h hh)
  case running =>
    intro p hp
    rcases hsub p hp with hp | hp
    · exact (hi.running p hp).concat
    · obtain ⟨hid, -, hret, -⟩ := hrest p hp
      rw [hid, hret]
      exact (hi.running _ hmem).concat
  case returned =>
    intro i v hm
    rcases List.mem_append.1 hm with hm | hm
    · exact (hi.returned i v hm).concat
    · obtain ⟨rfl, rfl⟩ := hv i v (List.mem_singleton.1 hm).symm
      exact (hi.running _ hmem).concat

/-- **Every step keeps the invariant.** -/
theorem OperationStep.inv {s' : OperationSystem} (hi : OperationInv t s)
    (hstep : OperationStep s e s') : OperationInv (t ++ [e]) s' := by
  cases hstep with
  | enter call => exact hi.enter call
  | @callCancelHandler before after id h o hs ho =>
    refine hi.proceed hs [(id, { o with cancelHandler := none })] (by simp)
      ⟨rfl, rfl, rfl⟩ (by simp [deliveries]) (by simp [ho, cancellations]) (by simp) (by simp)
  | @callCompletionHandler before after id h o rest hs hc ho =>
    refine hi.proceed hs [(id, { o with completionHandlers := rest })]
      (by simp [ho]) ⟨rfl, rfl, rfl⟩ (fun h' => ?_) (by simp [cancellations]) (by simp [ho]) (by simp)
    rw [ho]
    simp only [List.flatMap_cons, List.flatMap_nil, List.append_nil, deliveries,
      List.filterMap_cons, List.filterMap_nil, List.count_cons, List.count_nil]
    omega
  | @return_ before after id o hs hc ho =>
    refine hi.proceed hs [] (by simp) ⟨rfl, rfl, rfl⟩ (by simp [ho, deliveries])
      (by simp [hc, cancellations]) (by simp) (by simp)

theorem OperationInv.of_run {callable : Bool}
    (h : Run OperationStep (.init callable) t s) : OperationInv t s :=
  h.inv (OperationInv.init callable) fun hi hstep => hstep.inv hi

/-! ## Results about all runs -/

/-- Only `complete` and `cancel` assign, and they assign their own result. -/
theorem assignedBy_enter {call : OperationCall} {st : OperationState ℕ} {r : ControlResult}
    (ha : assignedBy st (call.enter id st).1 = some r) :
    call = .complete r ∨ (call = .cancel ∧ r = cancelledResult) := by
  unfold assignedBy at ha
  cases hr : st.result with
  | some r => rw [hr] at ha; simp at ha
  | none =>
    rw [hr] at ha
    cases call with
    | complete result =>
      simp [OperationCall.enter, OperationState.complete, hr] at ha
      exact .inl (by rw [ha])
    | cancel =>
      simp [OperationCall.enter, OperationState.cancel, hr] at ha
      exact .inr ⟨rfl, ha.symm⟩
    | onComplete callable => simp [OperationCall.enter, OperationState.onComplete, hr] at ha
    | setCancelHandler callable =>
      simp only [OperationCall.enter, OperationState.setCancelHandler] at ha
      split_ifs at ha <;> simp [hr] at ha

theorem run_assigned {callable : Bool} (h : Run OperationStep (.init callable) t s) :
    ∀ {id call r}, .enter id call (some r) ∈ t →
      call = .complete r ∨ (call = .cancel ∧ r = cancelledResult) := by
  refine h.inv (I := fun t _ => ∀ {id call r}, .enter id call (some r) ∈ t →
      call = .complete r ∨ (call = .cancel ∧ r = cancelledResult)) (by simp) ?_
  intro t s e s' hi hstep id call r hmem
  rcases List.mem_append.1 hmem with hm | hm
  · exact hi hm
  · obtain rfl := List.mem_singleton.1 hm
    generalize he : OperationEvent.enter id call (some r) = e at hstep
    cases hstep with
    | enter call' =>
      obtain ⟨-, rfl, ha⟩ := OperationEvent.enter.inj he
      exact assignedBy_enter ha.symm
    | callCancelHandler | callCompletionHandler | return_ => exact absurd he (by simp)

theorem OperationStep.result {s' : OperationSystem} {r : ControlResult}
    (hr : s.state.result = some r) (hstep : OperationStep s e s') : s'.state.result = some r := by
  cases hstep with
  | enter call => exact (enter_spec s.next call s.state).kept hr
  | callCancelHandler | callCompletionHandler | return_ => exact hr

theorem enter_inj : ∀ {t : List OperationEvent}, (entered t).Nodup →
    ∀ {id c c' a a'}, .enter id c a ∈ t → .enter id c' a' ∈ t → c = c' ∧ a = a' := by
  intro t
  induction t with
  | nil => intro _ id c c' a a' h; exact absurd h List.not_mem_nil
  | cons e t ih =>
    intro hnodup id c c' a a' h h'
    have hmem : ∀ {c a}, .enter id c a ∈ t → id ∈ entered t := fun hm =>
      List.mem_filterMap.2 ⟨_, hm, rfl⟩
    have htail : (entered t).Nodup := by
      unfold entered at hnodup ⊢
      rw [List.filterMap_cons] at hnodup
      split at hnodup
      · exact hnodup
      · exact (List.nodup_cons.1 hnodup).2
    rcases List.mem_cons.1 h with rfl | h <;> rcases List.mem_cons.1 h' with h' | h'
    · exact ⟨(OperationEvent.enter.inj h').2.1.symm, (OperationEvent.enter.inj h').2.2.symm⟩
    · exact absurd (hmem h') (List.nodup_cons.1 hnodup).1
    · exact absurd (hmem h) (by subst h'; exact (List.nodup_cons.1 hnodup).1)
    · exact ih htail h h'

/-- A call that is left alone finishes. -/
theorem exists_run_return (hs : s.inFlight = (id, o) :: after) :
    ∃ t, entered t = [] ∧ Run OperationStep s t { s with inFlight := after } := by
  -- first without a cancel handler, by induction on the handlers still to call
  have hdone : ∀ (l : List ℕ) (s : OperationSystem) (o : Outside ℕ), o.cancelHandler = none →
      o.completionHandlers = l → s.inFlight = (id, o) :: after →
      ∃ t, entered t = [] ∧ Run OperationStep s t { s with inFlight := after } := by
    intro l
    induction l with
    | nil =>
      intro s o hc ho hs
      exact ⟨[.return_ id o.returns], rfl, .one (.return_ s [] hs hc ho)⟩
    | cons h l ih =>
      intro s o hc ho hs
      obtain ⟨t, ht, hrun⟩ := ih
        { s with inFlight := (id, { o with completionHandlers := l }) :: after }
        { o with completionHandlers := l } hc rfl rfl
      exact ⟨.callCompletionHandler id h o.result :: t, ht,
        (Run.one (.callCompletionHandler s [] hs hc ho)).trans hrun⟩
  cases hc : o.cancelHandler with
  | none => exact hdone _ s o hc rfl hs
  | some h =>
    obtain ⟨t, ht, hrun⟩ := hdone _
      { s with inFlight := (id, { o with cancelHandler := none }) :: after }
      { o with cancelHandler := none } rfl rfl rfl
    exact ⟨.callCancelHandler id h :: t, ht,
      (Run.one (.callCancelHandler s [] hs hc)).trans hrun⟩

/-- All calls in flight can finish without a new call. -/
theorem exists_run_quiescent (s : OperationSystem) :
    ∃ t, entered t = [] ∧ Run OperationStep s t { s with inFlight := [] } := by
  obtain ⟨l, hl⟩ : ∃ l, s.inFlight = l := ⟨_, rfl⟩
  induction l generalizing s with
  | nil => exact ⟨[], rfl, by rw [← hl]; exact .nil⟩
  | cons p l ih =>
    obtain ⟨id, o⟩ := p
    obtain ⟨t, ht, hrun⟩ := exists_run_return hl
    obtain ⟨t', ht', hrun'⟩ := ih { s with inFlight := l } rfl
    refine ⟨t ++ t', ?_, hrun.trans hrun'⟩
    rw [entered, List.filterMap_append]
    rw [entered] at ht ht'
    rw [ht, ht', List.append_nil]

/-- What a delivery finds: the result was assigned before. -/
theorem assignments_before_delivery {callable : Bool} {t₁ t₂ : List OperationEvent}
    {r : ControlResult} (hrun : Run OperationStep (.init callable) t s)
    (ht : t = t₁ ++ .callCompletionHandler id h r :: t₂) : assignments t₁ = [r] := by
  subst ht
  obtain ⟨s₁, hrun₁, hrun₂⟩ := hrun.cut
  obtain ⟨s₂, hone, -⟩ := Run.cut (t := [_]) hrun₂
  have hi := OperationInv.of_run hrun₁
  have hi' := OperationInv.of_run (hrun₁.trans hone)
  have hr := hi'.delivered id h r (List.mem_append_right _ (List.mem_singleton_self _))
  have happ : assignments (t₁ ++ [.callCompletionHandler id h r]) = assignments t₁ := by
    rw [assignments, List.filterMap_append]
    exact List.append_nil _
  rw [← happ, hi'.assigned, hr]
  rfl

/-- **`ControlOperation` is a single-assignment cell.**  In every interleaving
    of calls on one operation:
    the result is assigned at most once and never changes, and exactly the
    `complete` call that assigned it returns true;
    completion handlers are called with the assigned result, after it was
    assigned and at most once, and exactly once when a result exists and no
    call is in flight, which the calls in flight reach on their own;
    cancel handlers are called at most once, and only if the assigned result is
    the cancellation result. -/
theorem operation_single_assignment {callable : Bool}
    (hrun : Run OperationStep (.init callable) t s) :
    ((assignments t).length ≤ 1 ∧ s.state.result = (assignments t).head? ∧
      ∀ {t' s' r}, Run OperationStep s t' s' → s.state.result = some r →
        s'.state.result = some r) ∧
    (∀ id, .return_ id (some true) ∈ t → ∃ r, .enter id (.complete r) (some r) ∈ t) ∧
    (∀ id r a v, .enter id (.complete r) a ∈ t → .return_ id v ∈ t → v = some a.isSome) ∧
    (∀ h, (deliveries t).count h ≤ 1) ∧
    (∀ h ∈ deliveries t, h ∈ registrations t) ∧
    (∀ id h r t₁ t₂, t = t₁ ++ .callCompletionHandler id h r :: t₂ → assignments t₁ = [r]) ∧
    (s.state.result.isSome → s.inFlight = [] →
      ∀ h ∈ registrations t, (deliveries t).count h = 1) ∧
    (∃ t', entered t' = [] ∧ Run OperationStep s t' { s with inFlight := [] }) ∧
    (∀ id h, .callCancelHandler id h ∈ t →
      s.state.result = some cancelledResult ∧ (cancellations t).count h = 1) := by
  have hi := OperationInv.of_run hrun
  have hregs : ∀ h, (registrations t).count h ≤ 1 := fun h =>
    ((registrations_sublist t).count_le h).trans (List.nodup_iff_count_le_one.1 hi.once h)
  refine ⟨⟨?_, ?_, ?_⟩, ?_, ?_, ?_, ?_, ?_, ?_, exists_run_quiescent s, ?_⟩
  · rw [hi.assigned]
    cases s.state.result <;> simp
  · rw [hi.assigned]
    cases s.state.result <;> rfl
  · intro t' s' r hrun' hr
    exact hrun'.keeps (P := fun s => s.state.result = some r)
      (fun hr hstep => hstep.result hr) hr
  · intro id hret
    obtain ⟨call, a, hmem, hv⟩ := hi.returned id _ hret
    cases call with
    | complete r =>
      obtain ⟨r', rfl⟩ := Option.isSome_iff_exists.1 (Option.some.inj hv).symm
      rcases run_assigned hrun hmem with he | ⟨he, -⟩
      · exact ⟨r', he ▸ hmem⟩
      · exact absurd he (by simp)
    | cancel | onComplete | setCancelHandler => exact absurd hv (by simp [OperationCall.value])
  · intro id r a v henter hret
    obtain ⟨call, a', hmem, rfl⟩ := hi.returned id v hret
    obtain ⟨rfl, rfl⟩ := enter_inj hi.once hmem henter
    rfl
  · intro h
    have := hi.delivery h
    have := hregs h
    omega
  · intro h hh
    have := hi.delivery h
    rw [← List.count_pos_iff] at hh ⊢
    omega
  · intro id h r t₁ t₂ ht
    exact assignments_before_delivery hrun ht
  · intro hr hq h hh
    have h₁ := hi.delivery h
    have h₂ := hregs h
    rw [hi.waiting hr, owed, hq] at h₁
    rw [← List.count_pos_iff] at hh
    simp only [List.reduceOption_nil, List.flatMap_nil, List.count_nil] at h₁
    omega
  · intro id h hh
    have hmem : h ∈ cancellations t := List.mem_filterMap.2 ⟨_, hh, rfl⟩
    refine ⟨hi.cancelled (hi.cancelling h (.inl hmem)), ?_⟩
    have := hi.cancelOnce h
    rw [← List.count_pos_iff] at hmem
    omega

/-- A handler is registered, the operation completes, and both calls return. -/
theorem operation_single_assignment_one_handler :
    ∃ t s, Run OperationStep (.init false) t s ∧ s.state.result.isSome ∧ s.inFlight = [] ∧
      (deliveries t).count 1 = 1 := by
  have hrun := Run.snoc (Run.snoc (Run.snoc (Run.snoc (Run.one
    (OperationStep.enter (.init false) (.onComplete true)))
    (.return_ _ [] rfl rfl rfl))
    (.enter _ (.complete {})))
    (.callCompletionHandler _ [] rfl rfl rfl))
    (.return_ _ [] rfl rfl rfl)
  obtain ⟨-, -, -, -, -, -, hquiet, -⟩ := operation_single_assignment hrun
  exact ⟨_, _, hrun, rfl, rfl, hquiet rfl rfl 1 (by simp [registrations, OperationSystem.init])⟩

end

end Axent
