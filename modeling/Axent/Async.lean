/-
  Asynchronous dispatch (`Broker::dispatch_async` in `src/core/broker.cpp`):
  the same decisions as `dispatch`, written a second time, with the result
  delivered through a control operation.

  The operation is observed by the broker, which tells the middleware when it
  completes; an operation that is already complete is observed at once.  The
  broker outlives the operation here (after its destruction the observer does
  nothing).

  `sync_async_equivalent`: if the adapters' `call_async` agrees with `call`,
  the operation completes with the result of `dispatch`, and the two leave the
  same world behind.
-/
import Axent.Broker

namespace Axent

open Lib RouteManager Broker

/-! ## Observed operations -/

/-- A completion handler: one of the adapter's own, or the broker's, which
    reports the result of `command` to the middleware. -/
inductive Observer where
  | adapter (id : ℕ)
  | audit (command : ControlCommand)

/-- An operation with its handlers renamed. -/
def OperationState.map {η θ : Type} (f : η → θ) (s : OperationState η) : OperationState θ where
  result := s.result
  cancelHandler := s.cancelHandler.map f
  completionHandlers := s.completionHandlers.map (Option.map f)
  cancellationRequested := s.cancellationRequested

namespace World

/-- Calling one completion handler; the adapter's own are not the broker's
    business. -/
def observe (w : World) (result : ControlResult) : Observer → World
  | .adapter _ => w
  | .audit command => w.afterDispatch command result

/-- What a call on an operation does outside the lock. -/
def outside (w : World) (o : Outside Observer) : World :=
  o.completionHandlers.foldl (fun w handler => w.observe o.result handler) w

end World

/-- `complete` on the operation of an asynchronous dispatch. -/
def completeOperation (operation : OperationState Observer) (result : ControlResult) (w : World) :
    OperationState Observer × World :=
  let completed := operation.complete result
  (completed.1, w.outside completed.2)

/-- The broker observes the operation of `command`. -/
def observeOperation (operation : OperationState Observer) (command : ControlCommand) (w : World) :
    OperationState Observer × World :=
  let observed := operation.onComplete (some (.audit command))
  (observed.1, w.outside observed.2)

/-! ## The dispatch -/

namespace Broker

/-- The `try` block of `dispatch_async`. -/
def tryDispatchAsync (b : Broker) (command : ControlCommand) (options : ControlCallOptions)
    (w : World) : Except Thrown (Option (OperationState ℕ)) × World :=
  if w.flowControl.paused then
    (.ok (some (.completed (.failure .unavailable "flow paused"))), w.recordDrop)
  else if command.source = .jsonRpc ∧ ¬ (command.src = "" ↔ command.dst = "") then
    (.ok (some (.completed
      (.failure .invalidArgument "JSON-RPC src and dst must be provided together"))), w)
  else if command.method = "devices.list" then
    (.ok (some (.completed ⟨.ok, deviceListBody (listDevices b.devices)⟩)), w)
  else
    let route := resolveCommandRoute b.devices command
    let w := w.resolved
    match route.target with
    | none => (.ok (some (.completed (.failure route.failureStatus route.failureMessage))), w)
    | some target =>
      let routed := makeAdapterRequest command target
      match b.adapters[target.adapter]? with
      | none => (.ok (some (.completed (.failure .unavailable "adapter unavailable"))), w)
      | some adapter =>
        if command.method = "firmware.update" then
          match firmwareFile command.params with
          | none => (.ok (some (.completed (.failure .invalidArgument "invalid firmware file"))), w)
          | some file =>
            ((adapter.startFirmwareUpdate routed file).map fun result => some (.completed result),
              w.handed ⟨target.adapter, routed, some file⟩)
        else (adapter.callAsync routed options, w.handed ⟨target.adapter, routed, none⟩)

/-- The timeout becomes a deadline at the first dispatch boundary. -/
def withDeadline (options : ControlCallOptions) (now : ℤ) : ControlCallOptions :=
  match options.deadline with
  | some _ => options
  | none =>
    { options with deadline := some (if options.timeout ≤ 0 then now else now + options.timeout) }

/-- The operation of a dispatch whose `try` block ended with `attempt`. -/
def started : Except Thrown (Option (OperationState ℕ)) → OperationState ℕ
  | .ok (some operation) => operation
  | .ok none => .completed (.failure .internalError "adapter returned no control operation")
  | .error thrown => .completed thrown.result

/-- `dispatch_async`: the operation as it is returned. -/
def dispatchAsync (b : Broker) (command : ControlCommand) (options : ControlCallOptions) (now : ℤ)
    (w : World) : OperationState Observer × World :=
  let attempt := b.tryDispatchAsync command (withDeadline options now) (w.beforeDispatch command)
  observeOperation ((started attempt.1).map Observer.adapter) command attempt.2

end Broker

/-! ## Agreement -/

/-- `call_async` throws what `call` throws, or returns an operation that is
    complete with the result of `call`, or pending. -/
def AsyncAgrees (a : Adapter) : Prop :=
  ∀ request options,
    (∃ thrown, a.call request = .error thrown ∧ a.callAsync request options = .error thrown) ∨
    (∃ result operation, a.call request = .ok result ∧
      a.callAsync request options = .ok (some operation) ∧
      (operation.result = some result ∨ operation.result = none))

/-- `operation` agrees with `result`: it is complete with it, or it is pending
    and the adapter addressed by the command returns `result` from `call`. -/
def Agrees (b : Broker) (command : ControlCommand) (operation : OperationState ℕ)
    (result : ControlResult) : Prop :=
  operation.result = some result ∨
    (operation.result = none ∧
      ∃ target a, (resolveCommandRoute b.devices command).target = some target ∧
        b.adapters[target.adapter]? = some a ∧
        a.call (makeAdapterRequest command target) = .ok result)

/-- **The two decision trees agree**, case by case. -/
theorem tryDispatchAsync_agrees {b : Broker} {command : ControlCommand}
    (h : ∀ target a, (resolveCommandRoute b.devices command).target = some target →
      b.adapters[target.adapter]? = some a → AsyncAgrees a) (options : ControlCallOptions)
    (w : World) :
    Agrees b command (started (b.tryDispatchAsync command options w).1)
        (caught (b.tryDispatch command w).1) ∧
      (b.tryDispatchAsync command options w).2 = (b.tryDispatch command w).2 := by
  have hspec := tryDispatch_spec b command w
  generalize (b.tryDispatch command w).1 = r at hspec ⊢
  generalize (b.tryDispatch command w).2 = w' at hspec ⊢
  unfold Broker.tryDispatchAsync
  -- an admitted command gets to the route
  have hroute : Admitted command w → ¬ w.flowControl.paused = true ∧
      ¬ (command.source = .jsonRpc ∧ ¬ (command.src = "" ↔ command.dst = "")) := fun hadm =>
    ⟨by simp [hadm.running], fun hs => hs.2 (hadm.paired hs.1)⟩
  cases hspec with
  | paused hp =>
    rw [if_pos hp]
    exact ⟨.inl rfl, rfl⟩
  | unpaired hp hs hpair =>
    rw [if_neg (by simp [hp]), if_pos ⟨hs, hpair⟩]
    exact ⟨.inl rfl, rfl⟩
  | listed hp hpair hm =>
    rw [if_neg (by simp [hp]), if_neg (fun hs => hs.2 (hpair hs.1)), if_pos hm]
    exact ⟨.inl rfl, rfl⟩
  | noRoute hadm hr =>
    rw [if_neg (hroute hadm).1, if_neg (hroute hadm).2, if_neg hadm.method]
    simp only [hr]
    exact ⟨.inl rfl, trivial⟩
  | noAdapter hadm hr ha =>
    rw [if_neg (hroute hadm).1, if_neg (hroute hadm).2, if_neg hadm.method]
    simp only [hr, ha]
    exact ⟨.inl rfl, trivial⟩
  | noFile hadm hr ha hm hf =>
    rw [if_neg (hroute hadm).1, if_neg (hroute hadm).2, if_neg hadm.method]
    simp only [hr, ha, if_pos hm, hf]
    exact ⟨.inl rfl, trivial⟩
  | @firmware hadm target adapter file hr ha hm hf =>
    rw [if_neg (hroute hadm).1, if_neg (hroute hadm).2, if_neg hadm.method]
    simp only [hr, ha, if_pos hm, hf, and_true]
    cases adapter.startFirmwareUpdate (makeAdapterRequest command target) file with
    | error thrown => exact .inl rfl
    | ok result => exact .inl rfl
  | @called hadm target adapter hr ha hm =>
    rw [if_neg (hroute hadm).1, if_neg (hroute hadm).2, if_neg hadm.method]
    have hpending : ∀ {result}, adapter.call (makeAdapterRequest command target) = .ok result →
        ∃ target a, (resolveCommandRoute b.devices command).target = some target ∧
          b.adapters[target.adapter]? = some a ∧
          a.call (makeAdapterRequest command target) = .ok result :=
      fun hcall => ⟨target, adapter, hr, ha, hcall⟩
    simp only [hr, ha, if_neg hm, and_true]
    rcases h target adapter hr ha (makeAdapterRequest command target) options with
      ⟨thrown, hcall, hasync⟩ | ⟨result, operation, hcall, hasync, hres | hres⟩
    · rw [hcall, hasync]; exact .inl rfl
    · rw [hcall, hasync]; exact .inl hres
    · have := hpending hcall
      rw [hcall, hasync]; exact .inr ⟨hres, this⟩

/-! ## Observing an operation -/

section
variable {operation : OperationState ℕ} {result : ControlResult}

theorem World.foldl_observe_adapter (w : World) (l : List ℕ) :
    (l.map Observer.adapter).foldl (fun w handler => w.observe result handler) w = w := by
  induction l with
  | nil => rfl
  | cons n l ih => exact ih

theorem observeOperation_result (operation : OperationState ℕ) (command : ControlCommand)
    (w : World) :
    (observeOperation (operation.map Observer.adapter) command w).1.result = operation.result := by
  cases h : operation.result <;>
    simp [observeOperation, OperationState.onComplete, OperationState.map, h]

/-- **An observed operation is reported exactly once**: at once when it is
    complete, and otherwise when it completes, after the adapter's own
    handlers. -/
theorem complete_observeOperation (h : operation.result = some result ∨ operation.result = none)
    (command : ControlCommand) (w : World) :
    (completeOperation (observeOperation (operation.map Observer.adapter) command w).1 result
        (observeOperation (operation.map Observer.adapter) command w).2).1.result = some result ∧
    (completeOperation (observeOperation (operation.map Observer.adapter) command w).1 result
        (observeOperation (operation.map Observer.adapter) command w).2).2 =
      w.afterDispatch command result := by
  rcases h with h | h
  · have hmap : (operation.map Observer.adapter).result = some result := h
    simp only [observeOperation, completeOperation, OperationState.onComplete,
      OperationState.complete, hmap]
    exact ⟨trivial, rfl⟩
  · have hmap : (operation.map Observer.adapter).result = none := h
    have hhandlers : ((operation.map Observer.adapter).completionHandlers ++
        [some (Observer.audit command)]).reduceOption =
        operation.completionHandlers.reduceOption.map Observer.adapter ++ [.audit command] := by
      rw [List.reduceOption_append, OperationState.map, List.reduceOption_map]
      rfl
    simp only [observeOperation, completeOperation, OperationState.onComplete,
      OperationState.complete, hmap, hhandlers, World.outside, List.foldl_append, List.foldl_cons,
      List.foldl_nil, World.foldl_observe_adapter]
    exact ⟨trivial, rfl⟩

end

/-! ## Equivalence -/

/-- The middleware is told before and after, and nothing in between. -/
theorem dispatch_notifications (b : Broker) (command : ControlCommand) (w : World) :
    (b.dispatch command w).2.notifications = w.notifications ++
      [.beforeDispatch command, .afterDispatch command (b.dispatch command w).1] := by
  have hspec := tryDispatch_spec b command (w.beforeDispatch command)
  unfold Broker.dispatch
  simp only [World.afterDispatch]
  have hkeep : (b.tryDispatch command (w.beforeDispatch command)).2.notifications =
      w.notifications ++ [.beforeDispatch command] := by
    generalize (b.tryDispatch command (w.beforeDispatch command)).1 = r at hspec
    generalize (b.tryDispatch command (w.beforeDispatch command)).2 = w' at hspec ⊢
    cases hspec <;> rfl
  rw [hkeep, List.append_assoc]
  rfl

/-- **Synchronous and asynchronous dispatch are equivalent.**  The operation of
    `dispatch_async`, once it completes, has the result of `dispatch`, and the
    world is the same: the same requests were handed out, the same drops were
    counted, and the middleware saw the same notifications.  Only an operation
    of the addressed adapter may still be pending, and then that adapter's
    `call` returns the result. -/
theorem sync_async_equivalent (b : Broker) (command : ControlCommand) (options : ControlCallOptions)
    (now : ℤ) (w : World)
    (h : ∀ target a, (resolveCommandRoute b.devices command).target = some target →
      b.adapters[target.adapter]? = some a → AsyncAgrees a) :
    (completeOperation (b.dispatchAsync command options now w).1 (b.dispatch command w).1
        (b.dispatchAsync command options now w).2).1.result = some (b.dispatch command w).1 ∧
    (completeOperation (b.dispatchAsync command options now w).1 (b.dispatch command w).1
        (b.dispatchAsync command options now w).2).2 = (b.dispatch command w).2 ∧
    ((b.dispatchAsync command options now w).1.result = none →
      ∃ target a, (resolveCommandRoute b.devices command).target = some target ∧
        b.adapters[target.adapter]? = some a ∧
        a.call (makeAdapterRequest command target) = .ok (b.dispatch command w).1) ∧
    (b.dispatch command w).2.notifications = w.notifications ++
      [.beforeDispatch command, .afterDispatch command (b.dispatch command w).1] := by
  obtain ⟨hagree, hworld⟩ := tryDispatchAsync_agrees h (withDeadline options now)
    (w.beforeDispatch command)
  have hasync : b.dispatchAsync command options now w =
      observeOperation ((started (b.tryDispatchAsync command (withDeadline options now)
        (w.beforeDispatch command)).1).map Observer.adapter) command
          (b.tryDispatch command (w.beforeDispatch command)).2 := by
    rw [← hworld]
    rfl
  rw [hasync]
  generalize started (b.tryDispatchAsync command (withDeadline options now)
    (w.beforeDispatch command)).1 = operation at hagree ⊢
  obtain ⟨hresult, heffect⟩ := complete_observeOperation (hagree.imp_right And.left) command
    (b.tryDispatch command (w.beforeDispatch command)).2
  refine ⟨hresult, heffect, fun hpending => ?_, dispatch_notifications b command w⟩
  rw [observeOperation_result] at hpending
  rcases hagree with hres | ⟨-, hcall⟩
  · exact absurd (hres.symm.trans hpending) (Option.some_ne_none _)
  · exact hcall

/-- An adapter that completes its operations later. -/
def pendingAdapter : Adapter where
  name := "axtp"
  call := fun _ => .ok {}
  callAsync := fun _ _ => .ok (some {})
  startFirmwareUpdate := fun _ _ => .ok {}

/-- A command to a device of that adapter: the operation is returned pending. -/
theorem sync_async_equivalent_pending :
    ((oneDeviceBroker.registerAdapter pendingAdapter).dispatchAsync
      { method := "m", deviceId := "d1" } {} 0 {}).1.result = none ∧
    (completeOperation ((oneDeviceBroker.registerAdapter pendingAdapter).dispatchAsync
        { method := "m", deviceId := "d1" } {} 0 {}).1 {}
      ((oneDeviceBroker.registerAdapter pendingAdapter).dispatchAsync
        { method := "m", deviceId := "d1" } {} 0 {}).2).1.result = some {} := by
  refine ⟨rfl, (sync_async_equivalent (oneDeviceBroker.registerAdapter pendingAdapter)
    { method := "m", deviceId := "d1" } {} 0 {} fun target a ht ha => ?_).1⟩
  obtain rfl : (⟨"axtp", "d1", "ep", .localProjection⟩ : RouteTarget) = target := Option.some.inj ht
  obtain rfl : pendingAdapter = a := Option.some.inj ha
  exact fun _ _ => .inr ⟨{}, {}, rfl, rfl, .inr rfl⟩

end Axent
