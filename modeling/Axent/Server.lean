/-
  WebSocket requests against physical devices: the lane scheduler, the control
  plane and the registry as one system.

  A connection thread computes the lane of a request (`arrive`) before it locks
  the queue (`enqueue`); a worker that took the request decodes it again and
  the broker resolves its target then (`dispatch`).  The registry may change
  in between.

  `dispatch_overlap`: when it does, two requests can be at one device at the
  same time, the later one first.  `dispatch_serial`: as long as every request
  still has the lane it was queued in when it is dispatched, the requests to a
  device are dispatched one at a time, in the order they were accepted.
-/
import Axent.ControlPlane
import Axent.Registry
import Axent.Scheduler

namespace Axent

open Lib

/-! ## The system -/

/-- An `enqueue` call before it locks the queue. -/
structure Arrival where
  request : Json
  webSocket : Option ℕ
  routeKey : String

/-- `dispatching w` is the device that worker `w` has handed its request to. -/
structure Server where
  scheduler : Scheduler := startWorker
  broker : Broker := {}
  arriving : List Arrival := []
  dispatching : Fin workerCount → Option DeviceKey := fun _ => none

inductive ServerEvent where
  | registry (op : RegistryOp)
  | register (adapter : Adapter)
  | unregister (name : String)
  | arrive (arrival : Arrival)
  | schedule (e : SchedulerEvent)
  | dispatch (w : Fin workerCount) (task : ControlTask) (k : DeviceKey)

/-- Handling `message` delivers it to the device `k`, for some state of the
    broker's collaborators. -/
def Handles (b : Broker) (message : Json) (k : DeviceKey) : Prop :=
  ∃ (w : World) (call : AdapterCall), (ControlPlane.handleText b message w).2.calls =
    w.calls ++ [call] ∧ (call.adapter, call.request.deviceId) = k

/-- The events of the workers' locked sections but the last. -/
def SchedulerEvent.isWork : SchedulerEvent → Bool
  | accept _ | reject | finish _ _ => false
  | _ => true

inductive ServerStep : Server → ServerEvent → Server → Prop
  | registry (s : Server) (op : RegistryOp) :
      ServerStep s (.registry op)
        { s with broker := { s.broker with devices := s.broker.devices.apply op } }
  | register (s : Server) (adapter : Adapter) :
      ServerStep s (.register adapter) { s with broker := s.broker.registerAdapter adapter }
  | unregister (s : Server) (name : String) :
      ServerStep s (.unregister name) { s with broker := s.broker.unregisterAdapter name }
  | arrive (s : Server) (request : Json) (webSocket : Option ℕ) :
      ServerStep s (.arrive ⟨request, webSocket, ControlPlane.routeKey s.broker request⟩)
        { s with arriving :=
            s.arriving ++ [⟨request, webSocket, ControlPlane.routeKey s.broker request⟩] }
  | accept (s : Server) (before rest : List Arrival) {arrival : Arrival}
      (ha : s.arriving = before ++ arrival :: rest) {task : ControlTask} {q : QueueState}
      (h : s.scheduler.queue.enqueue arrival.request arrival.webSocket (some arrival.routeKey) =
        some (task, q)) :
      ServerStep s (.schedule (.accept task))
        { s with scheduler := { s.scheduler with queue := q }, arriving := before ++ rest }
  | reject (s : Server) (before rest : List Arrival) {arrival : Arrival}
      (ha : s.arriving = before ++ arrival :: rest)
      (h : s.scheduler.queue.enqueue arrival.request arrival.webSocket (some arrival.routeKey) =
        none) :
      ServerStep s (.schedule .reject) { s with arriving := before ++ rest }
  | work (s : Server) {e : SchedulerEvent} {scheduler : Scheduler} (he : e.isWork = true)
      (h : SchedulerStep s.scheduler e scheduler) :
      ServerStep s (.schedule e) { s with scheduler := scheduler }
  | dispatch (s : Server) (w : Fin workerCount) (k : DeviceKey) {task : ControlTask}
      (hw : s.scheduler.workers w = .executing task) (hd : s.dispatching w = none)
      (h : Handles s.broker task.request k) :
      ServerStep s (.dispatch w task k)
        { s with dispatching := Function.update s.dispatching w (some k) }
  | finish (s : Server) (w : Fin workerCount) {task : ControlTask} {scheduler : Scheduler}
      (h : SchedulerStep s.scheduler (.finish w task) scheduler) :
      ServerStep s (.schedule (.finish w task))
        { s with scheduler := scheduler, dispatching := Function.update s.dispatching w none }

namespace ServerEvent

@[simp] def scheduled : ServerEvent → Option SchedulerEvent
  | schedule e => some e
  | _ => none

@[simp] def dispatchedTo (k : DeviceKey) : ServerEvent → Option ControlTask
  | dispatch _ task k' => if k' = k then some task else none
  | _ => none

end ServerEvent

/-- The events of the scheduler. -/
def scheduled (t : List ServerEvent) : List SchedulerEvent := t.filterMap ServerEvent.scheduled

/-- The tasks handed to the device `k`, in this order. -/
def dispatchedTo (k : DeviceKey) (t : List ServerEvent) : List ControlTask :=
  t.filterMap (ServerEvent.dispatchedTo k)

theorem scheduled_concat (t : List ServerEvent) (e : ServerEvent) :
    scheduled (t ++ [e]) = scheduled t ++ e.scheduled.toList :=
  filterMap_concat ..

theorem dispatchedTo_concat (k : DeviceKey) (t : List ServerEvent) (e : ServerEvent) :
    dispatchedTo k (t ++ [e]) = dispatchedTo k t ++ (e.dispatchedTo k).toList :=
  filterMap_concat ..

/-! ## A request outlives its lane -/

/-- A message to the endpoint `"ep"`. -/
def endpointRequest : Json :=
  .ofList [("jsonrpc", .string "2.0"), ("id", .numberInteger 1), ("method", .string "m"),
    ("src", .string "app"), ("dst", .string "ep")]

/-- **Two requests at one device.**  The first request arrives while the device
    is offline and is queued in the lane of its endpoint; the second one
    arrives when the device is back, and is queued in the lane of the device.
    Two workers take them, and the second is dispatched first. -/
theorem dispatch_overlap : ∃ t s, Run ServerStep { broker := oneDeviceBroker } t s ∧
    s.dispatching 0 = some ("axtp", "d1") ∧ s.dispatching 1 = some ("axtp", "d1") ∧
    ¬ (dispatchedTo ("axtp", "d1") t).Sublist (acceptedTasks (scheduled t)) := by
  have h := Run.one (ServerStep.registry { broker := oneDeviceBroker }
    (.markOffline "axtp" "d1" "unplugged"))
  have h := h.snoc (.arrive _ endpointRequest (some 0))
  have h := h.snoc (.accept _ [] [] rfl rfl)
  have h := h.snoc (.registry _ (.upsert
    ⟨"d1", "axtp", {}, { online := true }, {}, "ep", .localProjection⟩))
  have h := h.snoc (.arrive _ endpointRequest (some 0))
  have h := h.snoc (.accept _ [] [] rfl rfl)
  have h := h.snoc (.work _ rfl (.begin _ 0 rfl rfl))
  have h := h.snoc (.work _ rfl (.begin _ 1 rfl rfl))
  have h := h.snoc (.dispatch _ 1 ("axtp", "d1") rfl rfl ⟨{}, _, rfl, rfl⟩)
  have h := h.snoc (.dispatch _ 0 ("axtp", "d1") rfl rfl ⟨{}, _, rfl, rfl⟩)
  refine ⟨_, _, h, rfl, rfl, fun hsub => ?_⟩
  have htickets : [1, 0].Sublist [0, 1] := hsub.map ControlTask.ticket
  exact absurd htickets (by decide)

/-! ## Requests that keep their lane -/

/-- A message that reaches a device has the lane of the device. -/
theorem Handles.routeKey {b : Broker} {message : Json} {k : DeviceKey} (h : Handles b message k) :
    ControlPlane.routeKey b message = physicalLane k := by
  obtain ⟨w, call, hcalls, hk⟩ := h
  simp only [ControlPlane.handleText, ControlPlane.controlResult] at hcalls
  cases hv : (decodeControlMessage message).validationError with
  | some error => simp [hv] at hcalls
  | none =>
    rw [hv] at hcalls
    have hd : Delivers b w (decodeControlMessage message).command k := ⟨call, hcalls, hk⟩
    obtain ⟨hadm, target, ht, rfl⟩ := hd.target
    exact routeKey_of_target hadm.method ht

/-- A dispatched request has the lane that it was queued in. -/
def LaneKept (s : Server) : ServerEvent → Prop
  | .dispatch _ task _ => ControlPlane.routeKey s.broker task.request = task.routeKey
  | _ => True

/-- A step at which no request has outlived its lane. -/
def StableStep (s : Server) (e : ServerEvent) (s' : Server) : Prop :=
  ServerStep s e s' ∧ LaneKept s e

/-- What the events `t` say about the devices in the state `s` they lead to. -/
structure ServerInv (t : List ServerEvent) (s : Server) : Prop where
  run : Run SchedulerStep startWorker (scheduled t) s.scheduler
  lane : ∀ {w k}, s.dispatching w = some k →
    ∃ task, s.scheduler.workers w = .executing task ∧ task.routeKey = physicalLane k
  order : ∀ k, (dispatchedTo k t).Sublist
    (inLane ControlTask.routeKey (physicalLane k) (begunTasks (scheduled t)))
  /- before a worker of the lane dispatches, only finished tasks have been
     dispatched -/
  waiting : ∀ {w k task}, s.scheduler.workers w = .executing task →
    task.routeKey = physicalLane k → s.dispatching w = none → (dispatchedTo k t).Sublist
      (inLane ControlTask.routeKey (physicalLane k) (finishedTasks (scheduled t)))

theorem ServerInv.init (b : Broker) : ServerInv [] { broker := b } := by
  refine ⟨.nil, ?_, fun k => List.nil_sublist _, ?_⟩
  · intro w k h
    simp at h
  · intro w k task h
    simp [startWorker] at h

namespace ServerInv
variable {t : List ServerEvent} {s : Server}

theorem schedule {e : SchedulerEvent} {scheduler : Scheduler} {arriving : List Arrival}
    {dispatching : Fin workerCount → Option DeviceKey} (hi : ServerInv t s)
    (h : SchedulerStep s.scheduler e scheduler)
    (hd : ∀ {w k}, dispatching w = some k →
      s.dispatching w = some k ∧ ∀ task, e ≠ .finish w task)
    (hn : ∀ {w task}, scheduler.workers w = .executing task → dispatching w = none →
      s.dispatching w = none) :
    ServerInv (t ++ [.schedule e]) ⟨scheduler, s.broker, arriving, dispatching⟩ := by
  have hrun : scheduled (t ++ [.schedule e]) = scheduled t ++ [e] := scheduled_concat ..
  have hto : ∀ k, dispatchedTo k (t ++ [.schedule e]) = dispatchedTo k t := fun k =>
    (dispatchedTo_concat ..).trans (List.append_nil _)
  have hmono : ∀ (f : SchedulerEvent → Option ControlTask) (k : String),
      (inLane ControlTask.routeKey k ((scheduled t).filterMap f)).Sublist
        (inLane ControlTask.routeKey k ((scheduled t ++ [e]).filterMap f)) := by
    intro f k
    rw [List.filterMap_append, inLane_append]
    exact List.sublist_append_left _ _
  refine ⟨?_, fun {w k} hk => ?_, fun k => ?_, fun {w k task} hw hk hnone => ?_⟩
  · rw [hrun]
    exact hi.run.snoc h
  · obtain ⟨hs, he⟩ := hd hk
    obtain ⟨task, hw, hlane⟩ := hi.lane hs
    exact ⟨task, h.executing hw (he task), hlane⟩
  · rw [hto, hrun]
    exact (hi.order k).trans (hmono _ _)
  · rw [hto, hrun]
    refine .trans ?_ (hmono _ _)
    rcases h.executing_before hw with hb | rfl
    · exact hi.waiting hb hk (hn hw hnone)
    · -- the lane was free: all its tasks have finished
      obtain ⟨-, -, -, -, hfree, -⟩ := h.begin_spec
      have heq := (laneOrder_of_run hi.run).free hfree
      rw [hk] at heq
      exact heq ▸ hi.order k

/-- A dispatch by a worker in the lane of the device. -/
theorem dispatch {w : Fin workerCount} {k : DeviceKey} {task : ControlTask} (hi : ServerInv t s)
    (hw : s.scheduler.workers w = .executing task) (hd : s.dispatching w = none)
    (hk : task.routeKey = physicalLane k) :
    ServerInv (t ++ [.dispatch w task k])
      { s with dispatching := Function.update s.dispatching w (some k) } := by
  have hl := laneOrder_of_run hi.run
  have hrun : scheduled (t ++ [.dispatch w task k]) = scheduled t :=
    (scheduled_concat ..).trans (List.append_nil _)
  have hto : ∀ k', k' ≠ k → dispatchedTo k' (t ++ [.dispatch w task k]) = dispatchedTo k' t := by
    intro k' e
    rw [dispatchedTo_concat]
    simp [e.symm]
  refine ⟨?_, fun {w' k'} hk' => ?_, fun k' => ?_, fun {w' k' x} hw' hx hnone => ?_⟩
  · rw [hrun]
    exact hi.run
  · by_cases e : w' = w
    · subst e
      obtain rfl : k = k' := by simpa using hk'
      exact ⟨task, hw, hk⟩
    · exact hi.lane (by simpa [e] using hk')
  · rw [hrun]
    by_cases e : k' = k
    · subst e
      have hbusy := hl.busy ⟨w, hw⟩
      rw [hk] at hbusy
      rw [hbusy, dispatchedTo_concat]
      simpa using (hi.waiting hw hk hd).append_right [task]
    · rw [hto k' e]
      exact hi.order k'
  · have e : w' ≠ w := by
      rintro rfl
      simp at hnone
    have ek : k' ≠ k := by
      rintro rfl
      exact e (hl.one hw' hw (hx.trans hk.symm))
    rw [hrun, hto k' ek]
    exact hi.waiting hw' hx (by simpa [e] using hnone)

theorem other {e : ServerEvent} {b : Broker} {arriving : List Arrival} (hi : ServerInv t s)
    (hs : e.scheduled = none) (hd : ∀ k, e.dispatchedTo k = none) :
    ServerInv (t ++ [e]) { s with broker := b, arriving := arriving } := by
  have hrun : scheduled (t ++ [e]) = scheduled t := by
    rw [scheduled_concat, hs]
    exact List.append_nil _
  have hto : ∀ k, dispatchedTo k (t ++ [e]) = dispatchedTo k t := by
    intro k
    rw [dispatchedTo_concat, hd]
    exact List.append_nil _
  constructor
  · rw [hrun]
    exact hi.run
  · exact hi.lane
  · intro k
    rw [hto, hrun]
    exact hi.order k
  · intro w k task hw hk hnone
    rw [hto, hrun]
    exact hi.waiting hw hk hnone

/-- **Every step at which no request has outlived its lane keeps the order.** -/
theorem step {s' : Server} {e : ServerEvent} (hi : ServerInv t s) (h : StableStep s e s') :
    ServerInv (t ++ [e]) s' := by
  obtain ⟨hstep, hkept⟩ := h
  cases hstep with
  | registry => exact hi.other rfl fun _ => rfl
  | register => exact hi.other rfl fun _ => rfl
  | unregister => exact hi.other rfl fun _ => rfl
  | arrive => exact hi.other rfl fun _ => rfl
  | accept _ _ _ h =>
    exact hi.schedule (.accept _ _ _ _ h) (fun hk => ⟨hk, by simp⟩) fun _ hn => hn
  | reject _ _ _ h =>
    exact hi.schedule (.reject _ _ _ _ h) (fun hk => ⟨hk, by simp⟩) fun _ hn => hn
  | work he h =>
    refine hi.schedule h (fun hk => ⟨hk, ?_⟩) fun _ hn => hn
    rintro task rfl
    simp [SchedulerEvent.isWork] at he
  | dispatch w k hw hd h => exact hi.dispatch hw hd (hkept.symm.trans h.routeKey)
  | finish w h =>
    refine hi.schedule h (fun {w' k} hk => ?_) fun {w' x} hw hn => ?_
    · have e : w' ≠ w := by
        rintro rfl
        simp at hk
      exact ⟨by simpa [e] using hk, fun x hx => e (SchedulerEvent.finish.inj hx).1.symm⟩
    · cases h with
      | finish =>
        have e : w' ≠ w := (executing_of_update (by simp) hw).1
        simpa [e] using hn

end ServerInv

/-- **Requests that keep their lane are serialized by device.**  In every run
    in which each dispatched request still has the lane it was queued in, no
    two workers are at the same device, and the requests to a device are
    dispatched in the order they were accepted. -/
theorem dispatch_serial {b : Broker} {t : List ServerEvent} {s : Server}
    (h : Run StableStep { broker := b } t s) :
    (∀ w w' k, s.dispatching w = some k → s.dispatching w' = some k → w = w') ∧
    (∀ k, (dispatchedTo k t).Sublist (acceptedTasks (scheduled t))) ∧
    (acceptedTasks (scheduled t)).Nodup := by
  have hi : ServerInv t s := h.inv (ServerInv.init b) fun hi he => hi.step he
  have hl := laneOrder_of_run hi.run
  refine ⟨fun w w' k hw hw' => ?_, fun k => ?_, acceptedTasks_nodup hi.run⟩
  · obtain ⟨task, hx, hk⟩ := hi.lane hw
    obtain ⟨task', hx', hk'⟩ := hi.lane hw'
    exact hl.one hx hx' (hk.trans hk'.symm)
  · exact ((hi.order k).trans (hl.order _)).trans inLane_sublist

/-- Two requests to a device that is registered anew, with its endpoint, while the
    first is executed. -/
theorem dispatch_serial_online : ∃ t s, Run StableStep { broker := oneDeviceBroker } t s ∧
    s.dispatching 0 = none ∧ s.dispatching 1 = some ("axtp", "d1") ∧
    (∃ op, .registry op ∈ t) ∧
    (dispatchedTo ("axtp", "d1") t).map ControlTask.ticket = [0, 1] ∧
    (dispatchedTo ("axtp", "d1") t).Sublist (acceptedTasks (scheduled t)) := by
  have h : Run StableStep { broker := oneDeviceBroker } _ _ :=
    .one ⟨.arrive _ endpointRequest (some 0), trivial⟩
  have h := h.snoc ⟨.accept _ [] [] rfl rfl, trivial⟩
  have h := h.snoc ⟨.arrive _ endpointRequest (some 1), trivial⟩
  have h := h.snoc ⟨.accept _ [] [] rfl rfl, trivial⟩
  have h := h.snoc ⟨.work _ rfl (.begin _ 0 rfl rfl), trivial⟩
  have h := h.snoc ⟨.dispatch _ 0 ("axtp", "d1") rfl rfl ⟨{}, _, rfl, rfl⟩, rfl⟩
  have h := h.snoc ⟨.registry _ (.upsert
    ⟨"d1", "axtp", {}, { online := true }, {}, "ep", .localProjection⟩), trivial⟩
  -- the second request has to wait for the lane
  have h := h.snoc ⟨.work _ rfl (.wait _ 1 rfl rfl), trivial⟩
  have h := h.snoc ⟨.finish _ 0 (.finish _ 0 rfl), trivial⟩
  have h := h.snoc ⟨.work _ rfl (.begin _ 1 rfl rfl), trivial⟩
  have h := h.snoc ⟨.dispatch _ 1 ("axtp", "d1") rfl rfl ⟨{}, _, rfl, rfl⟩, rfl⟩
  exact ⟨_, _, h, rfl, rfl, ⟨_, List.mem_of_getElem? (i := 6) rfl⟩, rfl,
    (dispatch_serial h).2.1 ("axtp", "d1")⟩

end Axent
