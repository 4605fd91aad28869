/-
  The physical session of a leaf `AxtpAdapter` (`src/adapters/axtp_adapter.cpp`):
  how it is opened, reset and recovered, and its queue of control calls.

  Clients call `call_async`, `open_session_status` and `reset_session_for_device`;
  the recovery worker runs `recover_session_once`; and each session has a pump,
  a thread that alone dispatches the control calls.  `Leaf` has the shared
  state, what every thread is doing (`Task`, `PumpPhase`), and the media state
  of `Delivery`.  The steps of `LeafStep` are the locked sections and the reads
  of atomics, so that everything interleaves as the locks allow.

  The 64-bit recovery generation is taken not to wrap.  The destructor is not
  part of the model, and what a session negotiates, its health probes and its
  diagnostics texts are left out.
-/
import Axent.Axtp.Delivery
import Axent.Operation

namespace Axent.Axtp

open Lib Function

/-! ## Control calls -/

/-- `PendingControlCall`. -/
structure PendingCall where
  deviceId : String
  deadline : ℕ
  recoveryGeneration : ℕ
  result : Option ControlResult := none

/-- The limit of queued and in-flight calls. -/
def controlQueueLimit : ℕ := 32

/-! ## Threads -/

inductive Thread where
  | client (n : ℕ)
  | worker
  deriving DecidableEq, Repr

/-- The thread, where it changes the stream table. -/
def Thread.party : Thread → Party
  | client n => .client n
  | worker => .worker

/-- What a session is torn down for: `reset_session_for_device`, the first half
    of `recover_session_once`, or `ensure_session_locked`, which a recovery
    (with its generation) calls as well as `open_session_status`. -/
inductive Purpose where
  | reset (deviceId : String)
  | recover (deviceId : String) (generation : ℕ)
  | ensure (deviceId : String) (recovery : Option ℕ)
  deriving DecidableEq, Repr

/-- What a client or the recovery worker is about to do. -/
inductive Task where
  -- `call_async`
  | submitting (deviceId : String) (deadline : ℕ)
  | submitted (deviceId : String) (deadline generation : ℕ)
  -- `reset_session_for_device`
  | resetCancel (deviceId : String)
  | resetRequest (deviceId : String)
  | resetUnbind (deviceId : String)
  | resetLock (deviceId : String)
  | resetCancelAgain (deviceId : String)
  | resetClear (deviceId : String)
  | resetEnqueue (deviceId : String)
  -- `run_session_recovery_worker` and `recover_session_once`
  | recoverMedia (deviceId : String) (generation : ℕ)
  | recoverGeneration (deviceId : String) (generation : ℕ)
  | onceMedia (deviceId : String) (generation : ℕ)
  | onceGeneration (deviceId : String) (generation : ℕ)
  | recoverCancel (deviceId : String) (generation : ℕ)
  | recoverLock (deviceId : String) (generation : ℕ)
  | recoverCancelAgain (deviceId : String) (generation : ℕ)
  | recoverClear (deviceId : String) (generation : ℕ)
  | recoverEnqueue (deviceId : String) (generation : ℕ)
  | againMedia (deviceId : String) (generation : ℕ)
  | againGeneration (deviceId : String) (generation : ℕ)
  | reopenLock (deviceId : String) (generation : ℕ)
  | backoff (deviceId : String) (generation : ℕ)
  -- `open_session_status`
  | openLock (deviceId : String)
  -- with `session_mutex_`: the teardown of a session
  | stopping (purpose : Purpose)
  | joining (purpose : Purpose) (pump : Option ℕ)
  | closing (purpose : Purpose)
  | clearing (purpose : Purpose)
  -- with `session_mutex_`: `ensure_session_locked`
  | ensuring (deviceId : String) (recovery : Option ℕ)
  | ensureClear (deviceId : String) (recovery : Option ℕ)
  | ensureEnqueue (deviceId : String) (recovery : Option ℕ)
  | handshake (deviceId : String) (recovery : Option ℕ)
  | configuring (deviceId : String) (recovery : Option ℕ)
  deriving DecidableEq, Repr

namespace Task

/-- The task holds `session_mutex_`. -/
def locked : Task → Bool
  | stopping _ | joining _ _ | closing _ | clearing _ => true
  | ensuring _ _ | ensureClear _ _ | ensureEnqueue _ _ | handshake _ _ | configuring _ _ => true
  | _ => false

/-- The task has taken the handle of the pump. -/
def down : Task → Bool
  | joining _ _ | closing _ | clearing _ => true
  | ensureClear _ _ | ensureEnqueue _ _ | handshake _ _ | configuring _ _ => true
  | _ => false

/-- The pump that the task waits for. -/
def joins : Task → Option ℕ
  | joining _ pump => pump
  | _ => none

/-- The task polls a client, on the way to a new session. -/
def polls : Task → Bool
  | handshake _ _ | configuring _ _ => true
  | _ => false

/-- The device that the task is opening a session for. -/
def opens : Task → Option String
  | ensuring d _ | ensureClear d _ | ensureEnqueue d _ | handshake d _ | configuring d _ => some d
  | stopping (.ensure d _) | joining (.ensure d _) _ | closing (.ensure d _)
  | clearing (.ensure d _) => some d
  | _ => none

end Task

/-- What a pump is doing with the control queue: between two calls, with a call
    in flight (before the time is read, before the session is read, before the
    recovery generation is read, before the client is called), waiting for the
    answer, with the result set, or gone. -/
inductive PumpPhase where
  | loop
  | took (call : ℕ)
  | timed (call now : ℕ)
  | matched (call now : ℕ) (sessionMatches : Bool)
  | checked (call : ℕ)
  | calling (call : ℕ)
  | done (call : ℕ)
  | finished
  deriving DecidableEq, Repr

/-- The call that a pump has in flight. -/
def PumpPhase.call : PumpPhase → Option ℕ
  | loop | finished => none
  | took k | timed k _ | matched k _ _ | checked k | calling k | done k => some k

structure Pump where
  deviceId : String := ""
  phase : PumpPhase := .finished
  deriving DecidableEq, Repr

/-! ## The state -/

/-- A leaf adapter.  `calls` lists the accepted control calls, which `pending`
    and `inFlight` name by their numbers; `completions` are results that some
    thread is about to set, `handlers` the cancelled calls whose handler has
    still to run.  The pumps are numbered in the order of their sessions. -/
structure Leaf where
  media : Delivery := {}
  now : ℕ := 0
  activeDeviceId : String := ""
  isOpen : Bool := false
  client : Bool := false
  stopPump : Bool := false
  sessionPump : Option ℕ := none
  pumpCount : ℕ := 0
  pumps : ℕ → Pump := fun _ => {}
  sessionMutex : Option Thread := none
  recoveryGeneration : ℕ := 0
  recoveryRequested : Bool := false
  recoveryDeviceId : String := ""
  calls : List PendingCall := []
  pending : List ℕ := []
  inFlight : Option ℕ := none
  completions : List (ℕ × ControlResult) := []
  handlers : List ℕ := []
  tasks : Thread → Option Task := fun _ => none

namespace Leaf

def setTask (s : Leaf) (th : Thread) (task : Option Task) : Leaf :=
  { s with tasks := update s.tasks th task }

def setPhase (s : Leaf) (p : ℕ) (phase : PumpPhase) : Leaf :=
  { s with pumps := update s.pumps p { s.pumps p with phase := phase } }

/-- `complete`: the first result stays. -/
def complete (s : Leaf) (k : ℕ) (result : ControlResult) : Leaf :=
  { s with calls := s.calls.modify k fun c => { c with result := c.result.or (some result) } }

/-- The operation of the call is `ready`. -/
def ready (s : Leaf) (k : ℕ) : Bool := s.calls[k]?.any (·.result.isSome)

def isFor (s : Leaf) (deviceId : String) (k : ℕ) : Bool := s.calls[k]?.any (·.deviceId = deviceId)

def outstanding (s : Leaf) : ℕ := s.pending.length + (if s.inFlight.isSome then 1 else 0)

/-- The section of `cancel_control_calls`. -/
def cancelControlCalls (s : Leaf) (deviceId reason : String) : Leaf :=
  { s with
    pending := s.pending.filter fun k => !s.isFor deviceId k
    completions := s.completions ++
      (s.pending.filter (s.isFor deviceId) ++ (s.inFlight.filter (s.isFor deviceId)).toList).map
        fun k => (k, .failure .unavailable reason) }

/-- The section of `expire_pending_control_calls`.  `kept` are the calls that
    are left in the queue; one that gets its result meanwhile may be among
    them. -/
def expire (s : Leaf) (kept : ℕ → Bool) : Leaf :=
  { s with
    pending := s.pending.filter kept
    completions := s.completions ++ (s.pending.filter fun k => !kept k && !s.ready k).map
      fun k => (k, .failure .unavailable "AXTP control operation timeout while queued") }

/-- `request_stop_session_pump_locked`, and what comes after it. -/
def stop (s : Leaf) (th : Thread) (purpose : Purpose) : Leaf :=
  { s with
    stopPump := true
    sessionPump := none
    tasks := update s.tasks th (some (.joining purpose s.sessionPump)) }

/-- The session is marked as closed. -/
def markClosed (s : Leaf) : Leaf := { s with activeDeviceId := "", isOpen := false }

/-- `session_mutex_` is released. -/
def unlock (s : Leaf) (th : Thread) (task : Option Task) : Leaf :=
  { s with sessionMutex := none, tasks := update s.tasks th task }

/-- The session is published, and its pump started. -/
def startPump (s : Leaf) (deviceId : String) : Leaf :=
  { s with
    activeDeviceId := deviceId
    isOpen := true
    stopPump := false
    sessionPump := some s.pumpCount
    pumpCount := s.pumpCount + 1
    pumps := update s.pumps s.pumpCount { deviceId := deviceId, phase := .loop } }

/-- `session_ready` of `ensure_session_locked`. -/
def sessionReady (s : Leaf) (deviceId : String) : Bool := s.isOpen && s.activeDeviceId = deviceId

/-- The session is for another device. -/
def busyFor (s : Leaf) (deviceId : String) : Bool :=
  s.activeDeviceId ≠ "" ∧ s.activeDeviceId ≠ deviceId

/-- Some thread owns the client: a pump that runs, or a thread that opens. -/
def HasOwner (s : Leaf) : Prop :=
  (∃ p, (s.pumps p).phase ≠ .finished) ∨ ∃ th task, s.tasks th = some task ∧ task.polls = true

/-- The media steps that are no part of a reset, a recovery or an open. -/
def Allows (s : Leaf) : DeliveryEvent → Prop
  | .published _ | .ingested _ | .closed .owner _ | .queued .owner => s.HasOwner
  | .closed _ _ | .queued _ | .released _ _ => False
  | _ => True

/-- The table section of `clear_media_streams`. -/
def clearStreams (s : Leaf) (th : Thread) (reason : MediaStreamEventReason) : Leaf :=
  { s with media := { s.media with
      table := (s.media.table.clear reason).1
      unsent := update s.media.unsent th.party (s.media.table.clear reason).2 } }

/-- `enqueue_media_stream_events`. -/
def enqueueEvents (s : Leaf) (th : Thread) : Leaf :=
  { s with media := { s.media with
      unsent := update s.media.unsent th.party []
      queue := s.media.queue ++ (s.media.unsent th.party).map .event } }

end Leaf

/-- What a thread does after `ensure_session_locked`. -/
def afterEnsure (deviceId : String) (recovery : Option ℕ) (ok : Bool) : Option Task :=
  match recovery with
  | none => none
  | some generation => if ok then none else some (.backoff deviceId generation)

def releasedReason : String := "AXTP session was released"

def recoveringReason : String := "AXTP physical session is recovering"

/-! ## Steps -/

inductive LeafEvent where
  | media (event : DeliveryEvent)
  | accepted (deviceId : String)
  | refused (result : ControlResult)
  | taken (call : ℕ)
  | dispatched (call : ℕ)
  | cancelled (deviceId : String)
  | recoveryRequested (deviceId : String)
  | openBegan (deviceId : String)
  | ensuring (deviceId : String) (recovery : Option ℕ)
  | replacing (deviceId : String) (recovery : Option ℕ)
  | ensured (deviceId : String) (recovery : Option ℕ) (ok : Bool)
  | resetBegan (thread : Thread) (deviceId : String)
  | resetReturned (thread : Thread) (deviceId : String)
  | internal

/-- `call_async`, the cancellation of calls, and the setting of results. -/
inductive CallStep : Leaf → LeafEvent → Leaf → Prop
  | late {s : Leaf} {n deadline : ℕ} (hidle : s.tasks (.client n) = none)
      (h : deadline ≤ s.now) :
      CallStep s (.refused (.failure .unavailable
        "control operation timeout before submission")) s
  | submit {s : Leaf} {n deadline : ℕ} (deviceId : String) (hidle : s.tasks (.client n) = none)
      (h : s.now < deadline) (hroom : s.outstanding < controlQueueLimit) :
      CallStep s .internal (s.setTask (.client n) (some (.submitting deviceId deadline)))
  | full {s : Leaf} {n : ℕ} (hidle : s.tasks (.client n) = none)
      (hfull : controlQueueLimit ≤ s.outstanding) :
      CallStep s (.refused (.failure .busy "AXTP control operation queue is full")) s
  | readGeneration {s : Leaf} {n deadline : ℕ} {deviceId : String}
      (h : s.tasks (.client n) = some (.submitting deviceId deadline)) :
      CallStep s .internal (s.setTask (.client n)
        (some (.submitted deviceId deadline s.recoveryGeneration)))
  | accept {s : Leaf} {n deadline generation : ℕ} {deviceId : String}
      (h : s.tasks (.client n) = some (.submitted deviceId deadline generation))
      (hgeneration : generation = s.recoveryGeneration)
      (hroom : s.outstanding < controlQueueLimit) :
      CallStep s (.accepted deviceId)
        { s with
          calls := s.calls ++ [⟨deviceId, deadline, generation, none⟩]
          pending := s.pending ++ [s.calls.length]
          tasks := update s.tasks (.client n) none }
  | changed {s : Leaf} {n deadline generation : ℕ} {deviceId : String}
      (h : s.tasks (.client n) = some (.submitted deviceId deadline generation))
      (hgeneration : generation ≠ s.recoveryGeneration) :
      CallStep s (.refused (.failure .unavailable
        "AXTP physical session changed before control submission")) (s.setTask (.client n) none)
  | fullAgain {s : Leaf} {n deadline generation : ℕ} {deviceId : String}
      (h : s.tasks (.client n) = some (.submitted deviceId deadline generation))
      (hgeneration : generation = s.recoveryGeneration)
      (hfull : controlQueueLimit ≤ s.outstanding) :
      CallStep s (.refused (.failure .busy "AXTP control operation queue is full"))
        (s.setTask (.client n) none)
  -- `cancel` of an operation sets the result, and then runs the cancel handler
  | cancel {s : Leaf} {k : ℕ} (hk : k < s.calls.length) (h : s.ready k = false) :
      CallStep s .internal { s.complete k cancelledResult with handlers := s.handlers ++ [k] }
  | cancelHandler {s : Leaf} {k : ℕ} (h : k ∈ s.handlers) :
      CallStep s .internal
        { s with handlers := s.handlers.erase k, pending := s.pending.erase k }
  | complete {s : Leaf} {k : ℕ} {result : ControlResult} {before after : List (ℕ × ControlResult)}
      (h : s.completions = before ++ (k, result) :: after) :
      CallStep s .internal { s.complete k result with completions := before ++ after }

/-- The pumps: `process_next_control_call`, the expiry of queued calls (which
    threads that wait for a new session do as well), and the requests for a
    recovery. -/
inductive PumpStep : Leaf → LeafEvent → Leaf → Prop
  | exit {s : Leaf} {p : ℕ} (h : (s.pumps p).phase = .loop)
      (hstop : s.stopPump = true ∨ s.client = false) :
      PumpStep s .internal (s.setPhase p .finished)
  | takeNone {s : Leaf} {p : ℕ} (h : (s.pumps p).phase = .loop)
      (hnone : s.pending.dropWhile s.ready = []) :
      PumpStep s .internal { s with pending := [] }
  | take {s : Leaf} {p k : ℕ} {rest : List ℕ} (h : (s.pumps p).phase = .loop)
      (hk : s.pending.dropWhile s.ready = k :: rest) :
      PumpStep s (.taken k) { s.setPhase p (.took k) with pending := rest, inFlight := some k }
  | readTime {s : Leaf} {p k : ℕ} (h : (s.pumps p).phase = .took k) :
      PumpStep s .internal (s.setPhase p (.timed k s.now))
  | readSession {s : Leaf} {p k now : ℕ} {c : PendingCall} (h : (s.pumps p).phase = .timed k now)
      (hc : s.calls[k]? = some c) :
      PumpStep s .internal (s.setPhase p (.matched k now (s.sessionReady c.deviceId)))
  | reject {s : Leaf} {p k now : ℕ} {sessionMatches : Bool} {c : PendingCall}
      (h : (s.pumps p).phase = .matched k now sessionMatches) (hc : s.calls[k]? = some c)
      (hbad : c.recoveryGeneration ≠ s.recoveryGeneration ∨ c.deviceId ≠ (s.pumps p).deviceId ∨
        sessionMatches = false) :
      PumpStep s .internal ((s.complete k (.failure .unavailable
        "AXTP physical session changed before control dispatch")).setPhase p (.done k))
  | timeOut {s : Leaf} {p k now : ℕ} {c : PendingCall}
      (h : (s.pumps p).phase = .matched k now true) (hc : s.calls[k]? = some c)
      (hgeneration : c.recoveryGeneration = s.recoveryGeneration)
      (hdevice : c.deviceId = (s.pumps p).deviceId) (hlate : c.deadline ≤ now) :
      PumpStep s .internal ((s.complete k (.failure .unavailable
        "AXTP control operation timed out in queue")).setPhase p (.done k))
  | check {s : Leaf} {p k now : ℕ} {c : PendingCall}
      (h : (s.pumps p).phase = .matched k now true) (hc : s.calls[k]? = some c)
      (hgeneration : c.recoveryGeneration = s.recoveryGeneration)
      (hdevice : c.deviceId = (s.pumps p).deviceId) (hearly : now < c.deadline) :
      PumpStep s .internal (s.setPhase p (.checked k))
  | noClient {s : Leaf} {p k : ℕ} (h : (s.pumps p).phase = .checked k) (hc : s.client = false) :
      PumpStep s .internal ((s.complete k (.failure .unavailable
        "AXTP session is unavailable")).setPhase p (.done k))
  | dispatch {s : Leaf} {p k : ℕ} (h : (s.pumps p).phase = .checked k) (hc : s.client = true) :
      PumpStep s (.dispatched k) (s.setPhase p (.calling k))
  | answer {s : Leaf} {p k : ℕ} (result : ControlResult) (h : (s.pumps p).phase = .calling k) :
      PumpStep s .internal ((s.complete k result).setPhase p (.done k))
  | clearInFlight {s : Leaf} {p k : ℕ} (h : (s.pumps p).phase = .done k) :
      PumpStep s .internal
        { s.setPhase p .loop with inFlight := if s.inFlight = some k then none else s.inFlight }
  | expire {s : Leaf} {kept : ℕ → Bool} (howner : s.HasOwner)
      (hkept : ∀ k ∈ s.pending, kept k = true → ∃ c, s.calls[k]? = some c ∧ s.now < c.deadline)
      (hlost : ∀ k ∈ s.pending, kept k = false →
        s.ready k = true ∨ ∃ c, s.calls[k]? = some c ∧ c.deadline ≤ s.now) :
      PumpStep s .internal (s.expire kept)
  | requestRecovery {s : Leaf} {p : ℕ} (h : (s.pumps p).phase = .loop)
      (hnone : s.recoveryRequested = false) :
      PumpStep s (.recoveryRequested (s.pumps p).deviceId)
        { s with
          recoveryGeneration := s.recoveryGeneration + 1
          recoveryRequested := true
          recoveryDeviceId := (s.pumps p).deviceId }
  -- `snapshot_transport_diagnostics_from_runtime`; the owner of the client does not call it
  -- while it reads the time and the session
  | snapshot {s : Leaf} (isOpen : Bool) (howner : s.HasOwner) (hc : s.client = true)
      (hnot : ∀ p k now, (s.pumps p).phase ≠ .timed k now) :
      PumpStep s .internal { s with isOpen := isOpen }

/-- `reset_session_for_device`, up to the teardown and after it. -/
inductive ResetStep : Leaf → LeafEvent → Leaf → Prop
  | begin {s : Leaf} {n : ℕ} (deviceId : String) (hidle : s.tasks (.client n) = none) :
      ResetStep s (.resetBegan (.client n) deviceId)
        { s.setTask (.client n) (some (.resetCancel deviceId)) with
          recoveryGeneration := s.recoveryGeneration + 1 }
  | cancel {s : Leaf} {th : Thread} {deviceId : String}
      (h : s.tasks th = some (.resetCancel deviceId)) :
      ResetStep s (.cancelled deviceId)
        ((s.cancelControlCalls deviceId releasedReason).setTask th (some (.resetRequest deviceId)))
  | dropRequest {s : Leaf} {th : Thread} {deviceId : String}
      (h : s.tasks th = some (.resetRequest deviceId)) :
      ResetStep s .internal
        { s.setTask th (some (.resetUnbind deviceId)) with
          recoveryRequested := false, recoveryDeviceId := "" }
  | unbind {s : Leaf} {th : Thread} {deviceId : String} {removed : Bool} {m : Delivery}
      (h : s.tasks th = some (.resetUnbind deviceId))
      (hm : DeliveryStep s.media (.released deviceId removed) m) :
      ResetStep s (.media (.released deviceId removed))
        { s.setTask th (some (.resetLock deviceId)) with media := m }
  | lock {s : Leaf} {th : Thread} {deviceId : String}
      (h : s.tasks th = some (.resetLock deviceId)) (hfree : s.sessionMutex = none) :
      ResetStep s .internal
        { s.setTask th (some (.stopping (.reset deviceId))) with sessionMutex := some th }
  | cancelAgain {s : Leaf} {th : Thread} {deviceId : String}
      (h : s.tasks th = some (.resetCancelAgain deviceId)) :
      ResetStep s (.cancelled deviceId)
        ((s.cancelControlCalls deviceId releasedReason).setTask th (some (.resetClear deviceId)))
  | clear {s : Leaf} {th : Thread} {deviceId : String}
      (h : s.tasks th = some (.resetClear deviceId)) :
      ResetStep s (.media (.closed th.party s.media.table.active.keys))
        ((s.clearStreams th .shutdown).setTask th (some (.resetEnqueue deviceId)))
  | enqueue {s : Leaf} {th : Thread} {deviceId : String}
      (h : s.tasks th = some (.resetEnqueue deviceId)) :
      ResetStep s (.resetReturned th deviceId) ((s.enqueueEvents th).setTask th none)

/-- The recovery worker, up to the two uses of `session_mutex_`.  It reads the
    binding and then the recovery generation, three times. -/
inductive RecoveryStep : Leaf → LeafEvent → Leaf → Prop
  | wake {s : Leaf} (hidle : s.tasks .worker = none) (h : s.recoveryRequested = true) :
      RecoveryStep s .internal
        { s.setTask .worker (some (.recoverMedia s.recoveryDeviceId s.recoveryGeneration)) with
          recoveryRequested := false }
  | media {s : Leaf} {d : String} {g : ℕ} (h : s.tasks .worker = some (.recoverMedia d g)) :
      RecoveryStep s .internal (s.setTask .worker
        (if s.media.bindings.hasMediaDeliverySession d then some (.recoverGeneration d g)
          else none))
  | generation {s : Leaf} {d : String} {g : ℕ}
      (h : s.tasks .worker = some (.recoverGeneration d g)) :
      RecoveryStep s .internal (s.setTask .worker
        (if s.recoveryGeneration = g then some (.onceMedia d g) else none))
  | onceMedia {s : Leaf} {d : String} {g : ℕ} (h : s.tasks .worker = some (.onceMedia d g)) :
      RecoveryStep s .internal (s.setTask .worker
        (if s.media.bindings.hasMediaDeliverySession d then some (.onceGeneration d g)
          else some (.backoff d g)))
  | onceGeneration {s : Leaf} {d : String} {g : ℕ}
      (h : s.tasks .worker = some (.onceGeneration d g)) :
      RecoveryStep s .internal (s.setTask .worker
        (if s.recoveryGeneration = g then some (.recoverCancel d g) else some (.backoff d g)))
  | cancel {s : Leaf} {d : String} {g : ℕ} (h : s.tasks .worker = some (.recoverCancel d g)) :
      RecoveryStep s (.cancelled d)
        ((s.cancelControlCalls d recoveringReason).setTask .worker (some (.recoverLock d g)))
  | lock {s : Leaf} {d : String} {g : ℕ} (h : s.tasks .worker = some (.recoverLock d g))
      (hfree : s.sessionMutex = none) :
      RecoveryStep s .internal
        { s.setTask .worker (some (.stopping (.recover d g))) with sessionMutex := some .worker }
  | cancelAgain {s : Leaf} {d : String} {g : ℕ}
      (h : s.tasks .worker = some (.recoverCancelAgain d g)) :
      RecoveryStep s (.cancelled d)
        ((s.cancelControlCalls d recoveringReason).setTask .worker (some (.recoverClear d g)))
  | clear {s : Leaf} {d : String} {g : ℕ} (h : s.tasks .worker = some (.recoverClear d g)) :
      RecoveryStep s (.media (.closed .worker s.media.table.active.keys))
        ((s.clearStreams .worker .sessionRecovery).setTask .worker (some (.recoverEnqueue d g)))
  | enqueue {s : Leaf} {d : String} {g : ℕ} (h : s.tasks .worker = some (.recoverEnqueue d g)) :
      RecoveryStep s (.media (.queued .worker))
        ((s.enqueueEvents .worker).setTask .worker (some (.againMedia d g)))
  | againMedia {s : Leaf} {d : String} {g : ℕ} (h : s.tasks .worker = some (.againMedia d g)) :
      RecoveryStep s .internal (s.setTask .worker
        (if s.media.bindings.hasMediaDeliverySession d then some (.againGeneration d g)
          else some (.backoff d g)))
  | againGeneration {s : Leaf} {d : String} {g : ℕ}
      (h : s.tasks .worker = some (.againGeneration d g)) :
      RecoveryStep s .internal (s.setTask .worker
        (if s.recoveryGeneration = g then some (.reopenLock d g) else some (.backoff d g)))
  | reopen {s : Leaf} {d : String} {g : ℕ} (h : s.tasks .worker = some (.reopenLock d g))
      (hfree : s.sessionMutex = none) :
      RecoveryStep s (.ensuring d (some g))
        { s.setTask .worker (some (.ensuring d (some g))) with sessionMutex := some .worker }
  | giveUp {s : Leaf} {d : String} {g : ℕ} (h : s.tasks .worker = some (.backoff d g))
      (hchanged : s.recoveryGeneration ≠ g) :
      RecoveryStep s .internal (s.setTask .worker none)
  | retry {s : Leaf} {d : String} {g : ℕ} (h : s.tasks .worker = some (.backoff d g)) :
      RecoveryStep s .internal (s.setTask .worker (some (.recoverMedia d g)))

/-- What happens with `session_mutex_`: teardowns and `ensure_session_locked`. -/
inductive LockedStep : Leaf → LeafEvent → Leaf → Prop
  | openBegin {s : Leaf} {n : ℕ} (deviceId : String) (hidle : s.tasks (.client n) = none) :
      LockedStep s (.openBegan deviceId) (s.setTask (.client n) (some (.openLock deviceId)))
  | openLock {s : Leaf} {th : Thread} {d : String} (h : s.tasks th = some (.openLock d))
      (hfree : s.sessionMutex = none) :
      LockedStep s (.ensuring d none)
        { s.setTask th (some (.ensuring d none)) with sessionMutex := some th }
  -- the first section of `ensure_session_locked`
  | busy {s : Leaf} {th : Thread} {d : String} {r : Option ℕ}
      (h : s.tasks th = some (.ensuring d r)) (hbusy : s.busyFor d = true) :
      LockedStep s (.ensured d r false) (s.unlock th (afterEnsure d r false))
  | ready {s : Leaf} {th : Thread} {d : String} {r : Option ℕ}
      (h : s.tasks th = some (.ensuring d r)) (hbusy : s.busyFor d = false)
      (hready : s.sessionReady d = true) :
      LockedStep s (.ensured d r true) (s.unlock th (afterEnsure d r true))
  | ensure {s : Leaf} {th : Thread} {d : String} {r : Option ℕ}
      (h : s.tasks th = some (.ensuring d r)) (hbusy : s.busyFor d = false)
      (hready : s.sessionReady d = false) :
      LockedStep s .internal (s.setTask th (some (.stopping (.ensure d r))))
  -- the teardown
  | stopReset {s : Leaf} {th : Thread} {d : String} (h : s.tasks th = some (.stopping (.reset d)))
      (hd : s.activeDeviceId = d) :
      LockedStep s .internal (s.stop th (.reset d))
  | leaveReset {s : Leaf} {th : Thread} {d : String} (h : s.tasks th = some (.stopping (.reset d)))
      (hd : s.activeDeviceId ≠ d) :
      LockedStep s (.resetReturned th d) (s.unlock th none)
  | stopRecover {s : Leaf} {th : Thread} {d : String} {g : ℕ}
      (h : s.tasks th = some (.stopping (.recover d g))) (hd : s.busyFor d = false) :
      LockedStep s .internal (s.stop th (.recover d g))
  | leaveRecover {s : Leaf} {th : Thread} {d : String} {g : ℕ}
      (h : s.tasks th = some (.stopping (.recover d g))) (hd : s.busyFor d = true) :
      LockedStep s .internal (s.unlock th (some (.backoff d g)))
  | stopEnsure {s : Leaf} {th : Thread} {d : String} {r : Option ℕ}
      (h : s.tasks th = some (.stopping (.ensure d r))) :
      LockedStep s (.replacing d r) (s.stop th (.ensure d r))
  | join {s : Leaf} {th : Thread} {purpose : Purpose} {pump : Option ℕ}
      (h : s.tasks th = some (.joining purpose pump))
      (hdone : ∀ p, pump = some p → (s.pumps p).phase = .finished) :
      LockedStep s .internal (s.setTask th (some (.closing purpose)))
  | closeClient {s : Leaf} {th : Thread} {purpose : Purpose}
      (h : s.tasks th = some (.closing purpose)) :
      LockedStep s .internal { s.setTask th (some (.clearing purpose)) with client := false }
  | clearReset {s : Leaf} {th : Thread} {d : String}
      (h : s.tasks th = some (.clearing (.reset d))) :
      LockedStep s .internal (s.markClosed.unlock th (some (.resetCancelAgain d)))
  | clearRecover {s : Leaf} {th : Thread} {d : String} {g : ℕ}
      (h : s.tasks th = some (.clearing (.recover d g))) :
      LockedStep s .internal (s.markClosed.unlock th (some (.recoverCancelAgain d g)))
  | clearEnsure {s : Leaf} {th : Thread} {d : String} {r : Option ℕ}
      (h : s.tasks th = some (.clearing (.ensure d r))) :
      LockedStep s .internal
        ((if s.activeDeviceId = "" then s else s.markClosed).setTask th (some (.ensureClear d r)))
  -- the rest of `ensure_session_locked`
  | clearStreams {s : Leaf} {th : Thread} {d : String} {r : Option ℕ}
      (h : s.tasks th = some (.ensureClear d r)) :
      LockedStep s (.media (.closed th.party s.media.table.active.keys))
        ((s.clearStreams th .shutdown).setTask th (some (.ensureEnqueue d r)))
  | enqueue {s : Leaf} {th : Thread} {d : String} {r : Option ℕ}
      (h : s.tasks th = some (.ensureEnqueue d r)) :
      LockedStep s (.media (.queued th.party))
        ((s.enqueueEvents th).setTask th (some (.handshake d r)))
  | noTransport {s : Leaf} {th : Thread} {d : String} {r : Option ℕ}
      (h : s.tasks th = some (.handshake d r)) :
      LockedStep s (.ensured d r false) (s.unlock th (afterEnsure d r false))
  | notReady {s : Leaf} {th : Thread} {d : String} {r : Option ℕ}
      (h : s.tasks th = some (.handshake d r)) :
      LockedStep s (.ensured d r false)
        (s.markClosed.unlock th (afterEnsure d r false))
  | appReady {s : Leaf} {th : Thread} {d : String} {r : Option ℕ}
      (h : s.tasks th = some (.handshake d r)) :
      LockedStep s .internal { s.setTask th (some (.configuring d r)) with client := true }
  | publish {s : Leaf} {th : Thread} {d : String} {r : Option ℕ}
      (h : s.tasks th = some (.configuring d r)) :
      LockedStep s (.ensured d r true) ((s.startPump d).unlock th (afterEnsure d r true))

/-- The steps of a leaf adapter. -/
inductive LeafStep : Leaf → LeafEvent → Leaf → Prop
  | tick {s : Leaf} (now : ℕ) (h : s.now ≤ now) : LeafStep s .internal { s with now := now }
  | media {s : Leaf} {e : DeliveryEvent} {m : Delivery} (h : DeliveryStep s.media e m)
      (hallowed : s.Allows e) : LeafStep s (.media e) { s with media := m }
  | call {s s' : Leaf} {e : LeafEvent} (h : CallStep s e s') : LeafStep s e s'
  | pump {s s' : Leaf} {e : LeafEvent} (h : PumpStep s e s') : LeafStep s e s'
  | reset {s s' : Leaf} {e : LeafEvent} (h : ResetStep s e s') : LeafStep s e s'
  | recovery {s s' : Leaf} {e : LeafEvent} (h : RecoveryStep s e s') : LeafStep s e s'
  | locked {s s' : Leaf} {e : LeafEvent} (h : LockedStep s e s') : LeafStep s e s'

/-! ## Who has the session -/

/-- What a task has to do with the session: whether it holds `session_mutex_`,
    whether it has taken the pump's handle, the pump that it waits for, and
    whether it has a client. -/
def Task.shape : Option Task → Bool × Bool × Option ℕ × Bool
  | none => (false, false, none, false)
  | some task => (task.locked, task.down, task.joins, task matches .configuring _ _)

/-- At most one thread is in a session section; the pump of the handle runs for
    the active device; and every other pump that runs is being joined. -/
structure SessionInv (s : Leaf) : Prop where
  mutex : ∀ th, (Task.shape (s.tasks th)).1 = true → s.sessionMutex = some th
  down : ∀ th, (Task.shape (s.tasks th)).2.1 = true → s.sessionPump = none
  running : ∀ p, (s.pumps p).phase ≠ .finished →
    s.sessionPump = some p ∨ ∃ th, (Task.shape (s.tasks th)).2.2.1 = some p
  configured : ∀ th, (Task.shape (s.tasks th)).2.2.2 = true → s.client = true
  handle : ∀ p, s.sessionPump = some p → (s.pumps p).phase ≠ .finished ∧
    (s.pumps p).deviceId = s.activeDeviceId ∧ s.stopPump = false ∧ s.client = true
  count : ∀ p, s.pumpCount ≤ p → (s.pumps p).phase = .finished

theorem Task.locked_of_joins {task : Option Task} {p : ℕ}
    (h : (Task.shape task).2.2.1 = some p) : (Task.shape task).1 = true := by
  rcases task with _ | task
  · cases h
  · cases task <;> first | rfl | cases h

theorem Task.down_of_joins {task : Option Task} {p : ℕ}
    (h : (Task.shape task).2.2.1 = some p) : (Task.shape task).2.1 = true := by
  rcases task with _ | task
  · cases h
  · cases task <;> first | rfl | cases h

/-- The session is the same, and so is what each task has to do with it. -/
structure SameSession (s s' : Leaf) : Prop where
  mutex : s'.sessionMutex = s.sessionMutex
  pump : s'.sessionPump = s.sessionPump
  stopPump : s'.stopPump = s.stopPump
  client : s'.client = s.client
  device : s'.activeDeviceId = s.activeDeviceId
  count : s'.pumpCount = s.pumpCount
  finished : ∀ p, (s'.pumps p).phase = .finished ↔ (s.pumps p).phase = .finished
  deviceOf : ∀ p, (s'.pumps p).deviceId = (s.pumps p).deviceId
  shape : ∀ th, Task.shape (s'.tasks th) = Task.shape (s.tasks th)

section
variable {s s' : Leaf} {e : LeafEvent} {th : Thread} {task : Option Task}

theorem shape_update {tasks : Thread → Option Task} {old : Option Task} (hold : tasks th = old)
    (h : Task.shape task = Task.shape old) (th' : Thread) :
    Task.shape (update tasks th task th') = Task.shape (tasks th') := by
  rcases eq_or_ne th' th with rfl | hne
  · rw [update_self, h, hold]
  · rw [update_of_ne hne]

theorem SameSession.refl (s : Leaf) : SameSession s s :=
  ⟨rfl, rfl, rfl, rfl, rfl, rfl, fun _ => .rfl, fun _ => rfl, fun _ => rfl⟩

theorem SameSession.setTask {old : Option Task} (hold : s.tasks th = old)
    (h : Task.shape task = Task.shape old) : SameSession s (s.setTask th task) :=
  { SameSession.refl s with shape := shape_update hold h }

theorem SameSession.setPhase {p : ℕ} {phase : PumpPhase}
    (h : phase = .finished ↔ (s.pumps p).phase = .finished) :
    SameSession s (s.setPhase p phase) := by
  refine { SameSession.refl s with finished := fun q => ?_, deviceOf := fun q => ?_ }
  all_goals
    simp only [Leaf.setPhase, update_apply]
    split_ifs with hq
  · rw [hq, h]
  · rfl
  · rw [hq]
  · rfl

theorem SessionInv.same (hi : SessionInv s) (h : SameSession s s') : SessionInv s' where
  mutex th := by rw [h.shape, h.mutex]; exact hi.mutex th
  down th := by rw [h.shape, h.pump]; exact hi.down th
  running p hp := by
    simp only [h.shape, h.pump]
    exact hi.running p ((not_congr (h.finished p)).1 hp)
  configured th := by rw [h.shape, h.client]; exact hi.configured th
  handle p := by
    rw [h.pump, h.deviceOf, h.device, h.stopPump, h.client, ne_eq, h.finished]
    exact hi.handle p
  count p := by rw [h.count, h.finished]; exact hi.count p

/-- The thread that holds the mutex is the only one in a session section. -/
theorem SessionInv.alone (hi : SessionInv s) {th' : Thread}
    (h : (Task.shape (s.tasks th)).1 = true) (h' : (Task.shape (s.tasks th')).1 = true) :
    th' = th := by
  have := (hi.mutex th h).symm.trans (hi.mutex th' h')
  exact (Option.some.inj this).symm

/-- A pump that runs is that of the handle, or the holder of the mutex joins it. -/
theorem SessionInv.runs (hi : SessionInv s) (hlocked : (Task.shape (s.tasks th)).1 = true) {p : ℕ}
    (hp : (s.pumps p).phase ≠ .finished) :
    s.sessionPump = some p ∨ (Task.shape (s.tasks th)).2.2.1 = some p := by
  refine (hi.running p hp).imp_right fun ⟨th', hth'⟩ => ?_
  obtain rfl := hi.alone hlocked (Task.locked_of_joins hth')
  exact hth'

/-- While a session is down and its pump joined, no pump runs. -/
theorem SessionInv.joined (hi : SessionInv s) (hlocked : (Task.shape (s.tasks th)).1 = true)
    (hdown : (Task.shape (s.tasks th)).2.1 = true)
    (hjoins : (Task.shape (s.tasks th)).2.2.1 = none) (p : ℕ) :
    (s.pumps p).phase = .finished := by
  by_contra hp
  have hruns := hi.runs hlocked hp
  rw [hi.down th hdown, hjoins] at hruns
  simp at hruns

theorem SessionInv.lock (hi : SessionInv s) (hfree : s.sessionMutex = none) {new : Task}
    (hnew : Task.shape (some new) = (true, false, none, false))
    (hold : (Task.shape (s.tasks th)).2.2.1 = none) :
    SessionInv { s.setTask th (some new) with sessionMutex := some th } := by
  have hothers (th' : Thread) : (Task.shape (s.tasks th')).1 ≠ true := by
    intro h
    rw [hi.mutex th' h] at hfree
    cases hfree
  constructor
  case mutex =>
    intro th' h
    rcases eq_or_ne th' th with rfl | hne
    · rfl
    · simp only [Leaf.setTask, update_of_ne hne] at h
      exact absurd h (hothers th')
  case down =>
    intro th' h
    rcases eq_or_ne th' th with rfl | hne
    · simp [Leaf.setTask, hnew] at h
    · simp only [Leaf.setTask, update_of_ne hne] at h
      exact hi.down th' h
  case running =>
    intro p hp
    refine (hi.running p hp).imp_right fun ⟨th', h⟩ => ⟨th', ?_⟩
    rcases eq_or_ne th' th with rfl | hne
    · rw [hold] at h
      cases h
    · simpa only [Leaf.setTask, update_of_ne hne] using h
  case configured =>
    intro th' h
    rcases eq_or_ne th' th with rfl | hne
    · simp [Leaf.setTask, hnew] at h
    · simp only [Leaf.setTask, update_of_ne hne] at h
      exact hi.configured th' h
  case handle => exact hi.handle
  case count => exact hi.count

/-- The thread that holds `session_mutex_` goes on; `s'` differs from `s` only in
    its task and in what concerns the pump of the handle. -/
theorem SessionInv.holder (hi : SessionInv s) (hlocked : (Task.shape (s.tasks th)).1 = true)
    (htasks : s'.tasks = update s.tasks th task)
    (hmutex : (Task.shape task).1 = true → s'.sessionMutex = s.sessionMutex)
    (hdown : (Task.shape task).2.1 = true → s'.sessionPump = none)
    (hconfigured : (Task.shape task).2.2.2 = true → s'.client = true)
    (hrunning : ∀ p, (s'.pumps p).phase ≠ .finished →
      s'.sessionPump = some p ∨ (Task.shape task).2.2.1 = some p)
    (hhandle : ∀ p, s'.sessionPump = some p → (s'.pumps p).phase ≠ .finished ∧
      (s'.pumps p).deviceId = s'.activeDeviceId ∧ s'.stopPump = false ∧ s'.client = true)
    (hcount : ∀ p, s'.pumpCount ≤ p → (s'.pumps p).phase = .finished) : SessionInv s' := by
  have hothers {th' : Thread} (hne : th' ≠ th) : (Task.shape (s'.tasks th')).1 = false := by
    rw [htasks, update_of_ne hne, ← Bool.not_eq_true]
    exact fun h => hne (hi.alone hlocked h)
  have hself : s'.tasks th = task := by rw [htasks, update_self]
  have hdownLocked (t : Option Task) : (Task.shape t).1 = false →
      (Task.shape t).2.1 = false ∧ (Task.shape t).2.2.2 = false := by
    rcases t with _ | t
    · exact fun _ => ⟨rfl, rfl⟩
    · cases t <;> simp [Task.shape, Task.locked, Task.down]
  refine ⟨fun th' h => ?_, fun th' h => ?_, fun p hp => ?_, fun th' h => ?_, hhandle, hcount⟩
  · rcases eq_or_ne th' th with rfl | hne
    · rw [hself] at h
      rw [hmutex h]
      exact hi.mutex th' hlocked
    · rw [hothers hne] at h
      cases h
  · rcases eq_or_ne th' th with rfl | hne
    · exact hdown (hself ▸ h)
    · rw [(hdownLocked _ (hothers hne)).1] at h
      cases h
  · exact (hrunning p hp).imp_right fun h => ⟨th, by rwa [hself]⟩
  · rcases eq_or_ne th' th with rfl | hne
    · exact hconfigured (hself ▸ h)
    · rw [(hdownLocked _ (hothers hne)).2] at h
      cases h

theorem CallStep.session (h : CallStep s e s') : SameSession s s' := by
  cases h with
  | late | full => exact .refl s
  | submit _ hidle => exact .setTask hidle rfl
  | readGeneration h | changed h | fullAgain h => exact .setTask h rfl
  | accept h => exact { SameSession.refl s with shape := shape_update h rfl }
  | cancel | cancelHandler | complete => exact { SameSession.refl s with }

/-- A pump that goes leaves the session as it is, or was being joined. -/
theorem SessionInv.pump (hi : SessionInv s) (h : PumpStep s e s') : SessionInv s' := by
  have hphase {p : ℕ} {phase : PumpPhase} (hold : (s.pumps p).phase ≠ .finished)
      (hnew : phase ≠ .finished) : SameSession s (s.setPhase p phase) :=
    .setPhase (by simp [hold, hnew])
  cases h with
  | @exit p h hstop =>
    -- the handle's pump has not been told to stop, so that this one is being joined
    have hnot : s.sessionPump ≠ some p := by
      intro hp
      obtain ⟨-, -, hrun, hclient⟩ := hi.handle p hp
      rw [hrun, hclient] at hstop
      simp at hstop
    constructor
    case mutex => exact hi.mutex
    case down => exact hi.down
    case configured => exact hi.configured
    case running =>
      intro q hq
      rcases eq_or_ne q p with rfl | hne
      · simp [Leaf.setPhase] at hq
      · simp only [Leaf.setPhase, update_of_ne hne] at hq
        exact hi.running q hq
    case handle =>
      intro q hq
      have hne : q ≠ p := fun heq => hnot (heq ▸ hq)
      simp only [Leaf.setPhase, update_of_ne hne]
      exact hi.handle q hq
    case count =>
      intro q hq
      rcases eq_or_ne q p with rfl | hne
      · simp [Leaf.setPhase]
      · simp only [Leaf.setPhase, update_of_ne hne]
        exact hi.count q hq
  | takeNone | requestRecovery | snapshot | expire => exact hi.same { SameSession.refl s with }
  | take h => exact hi.same { hphase (by simp [h]) (by simp) with }
  | readTime h | readSession h | check h | dispatch h =>
    exact hi.same (hphase (by simp [h]) (by simp))
  | reject h | timeOut h | noClient h | answer _ h =>
    exact hi.same { hphase (by simp [h]) (by simp) with }
  | clearInFlight h => exact hi.same { hphase (by simp [h]) (by simp) with }

theorem SessionInv.reset (hi : SessionInv s) (h : ResetStep s e s') : SessionInv s' := by
  cases h with
  | begin d hidle =>
    exact hi.same { SameSession.refl s with shape := shape_update hidle rfl }
  | cancel h | dropRequest h | unbind h | cancelAgain h | clear h | enqueue h =>
    exact hi.same { SameSession.refl s with shape := shape_update h rfl }
  | lock h hfree => exact hi.lock hfree rfl (by rw [h]; rfl)

theorem SessionInv.recovery (hi : SessionInv s) (h : RecoveryStep s e s') : SessionInv s' := by
  cases h with
  | wake hidle =>
    exact hi.same { SameSession.refl s with shape := shape_update hidle rfl }
  | media h | generation h | onceMedia h | onceGeneration h | againMedia h | againGeneration h =>
    exact hi.same (.setTask h (by split_ifs <;> rfl))
  | cancel h | cancelAgain h | clear h | enqueue h =>
    exact hi.same { SameSession.refl s with shape := shape_update h rfl }
  | giveUp h | retry h => exact hi.same (.setTask h rfl)
  | lock h hfree | reopen h hfree => exact hi.lock hfree rfl (by rw [h]; rfl)

theorem shape_afterEnsure (d : String) (r : Option ℕ) (ok : Bool) :
    Task.shape (afterEnsure d r ok) = (false, false, none, false) := by
  cases r with
  | none => rfl
  | some g => cases ok <;> rfl

/-- The thread that holds the mutex releases it; the pump of the handle stays. -/
theorem SessionInv.unlock (hi : SessionInv s) (hlocked : (Task.shape (s.tasks th)).1 = true)
    (hjoins : (Task.shape (s.tasks th)).2.2.1 = none)
    (hnew : Task.shape task = (false, false, none, false)) : SessionInv (s.unlock th task) := by
  refine hi.holder hlocked rfl (by simp [hnew]) (by simp [hnew]) (by simp [hnew]) (fun p hp => ?_)
    hi.handle hi.count
  exact .inl ((hi.runs hlocked hp).resolve_right (by simp [hjoins]))

/-- The thread that has torn the session down goes on. -/
theorem SessionInv.torn (hi : SessionInv s) (hlocked : (Task.shape (s.tasks th)).1 = true)
    (hdown : (Task.shape (s.tasks th)).2.1 = true)
    (hjoins : (Task.shape (s.tasks th)).2.2.1 = none)
    (htasks : s'.tasks = update s.tasks th task) (hpumps : s'.pumps = s.pumps)
    (hcount : s'.pumpCount = s.pumpCount) (hpump : s'.sessionPump = s.sessionPump)
    (hmutex : (Task.shape task).1 = true → s'.sessionMutex = s.sessionMutex)
    (hconfigured : (Task.shape task).2.2.2 = true → s'.client = true) : SessionInv s' := by
  have hnone : s'.sessionPump = none := hpump.trans (hi.down th hdown)
  refine hi.holder hlocked htasks hmutex (fun _ => hnone) hconfigured (fun p hp => ?_)
    (fun p hp => ?_) (by rw [hpumps, hcount]; exact hi.count)
  · rw [hpumps] at hp
    exact absurd (hi.joined hlocked hdown hjoins p) hp
  · rw [hnone] at hp
    cases hp

theorem SessionInv.stop (hi : SessionInv s) {purpose : Purpose}
    (h : s.tasks th = some (.stopping purpose)) : SessionInv (s.stop th purpose) := by
  have hlocked : (Task.shape (s.tasks th)).1 = true := by rw [h]; rfl
  refine hi.holder hlocked rfl (fun _ => rfl) (fun _ => rfl) (by simp [Task.shape])
    (fun p hp => .inr ?_) (by simp [Leaf.stop]) hi.count
  exact (hi.runs hlocked hp).resolve_right (by rw [h]; nofun)

theorem SessionInv.locked (hi : SessionInv s) (h : LockedStep s e s') : SessionInv s' := by
  cases h with
  | openBegin d hidle => exact hi.same (.setTask hidle rfl)
  | openLock h hfree => exact hi.lock hfree rfl (by rw [h]; rfl)
  | busy h | ready h =>
    exact hi.unlock (by rw [h]; rfl) (by rw [h]; rfl) (shape_afterEnsure ..)
  | ensure h => exact hi.same (.setTask h rfl)
  | stopReset h | stopRecover h | stopEnsure h => exact hi.stop h
  | leaveReset h | leaveRecover h => exact hi.unlock (by rw [h]; rfl) (by rw [h]; rfl) rfl
  | @join th purpose pump h hdone =>
    have hlocked : (Task.shape (s.tasks th)).1 = true := by rw [h]; rfl
    have hnone : s.sessionPump = none := hi.down th (by rw [h]; rfl)
    refine hi.holder hlocked rfl (fun _ => rfl) (fun _ => hnone) (by simp [Task.shape])
      (fun p hp => ?_) hi.handle hi.count
    refine .inl ((hi.runs hlocked hp).resolve_right fun hjoins => hp (hdone p ?_))
    rwa [h] at hjoins
  | closeClient h =>
    exact hi.torn (by rw [h]; rfl) (by rw [h]; rfl) (by rw [h]; rfl) rfl rfl rfl rfl
      (fun _ => rfl) (by simp [Task.shape])
  | clearReset h | clearRecover h =>
    exact hi.torn (by rw [h]; rfl) (by rw [h]; rfl) (by rw [h]; rfl) rfl rfl rfl rfl
      (by simp [Task.shape, Task.locked]) (by simp [Task.shape])
  | clearEnsure h =>
    split_ifs
    all_goals
      exact hi.torn (by rw [h]; rfl) (by rw [h]; rfl) (by rw [h]; rfl) rfl rfl rfl rfl
        (fun _ => rfl) (by simp [Task.shape])
  | clearStreams h | enqueue h => exact hi.same { SameSession.refl s with
      shape := shape_update h rfl }
  | noTransport h => exact hi.unlock (by rw [h]; rfl) (by rw [h]; rfl) (shape_afterEnsure ..)
  | notReady h =>
    exact hi.torn (by rw [h]; rfl) (by rw [h]; rfl) (by rw [h]; rfl) rfl rfl rfl rfl
      (by simp [shape_afterEnsure]) (by simp [shape_afterEnsure])
  | appReady h =>
    exact hi.torn (by rw [h]; rfl) (by rw [h]; rfl) (by rw [h]; rfl) rfl rfl rfl rfl
      (fun _ => rfl) (fun _ => rfl)
  | @publish th d r h =>
    have hlocked : (Task.shape (s.tasks th)).1 = true := by rw [h]; rfl
    have hjoined := hi.joined hlocked (by rw [h]; rfl) (by rw [h]; rfl)
    refine hi.holder hlocked rfl (by simp [shape_afterEnsure]) (by simp [shape_afterEnsure])
      (by simp [shape_afterEnsure]) (fun p hp => .inl ?_) (fun p hp => ?_) (fun p hp => ?_)
    · by_contra hne
      have hne : p ≠ s.pumpCount := fun heq => hne (by rw [heq]; rfl)
      simp only [Leaf.unlock, Leaf.startPump, update_of_ne hne] at hp
      exact hp (hjoined p)
    · obtain rfl : s.pumpCount = p := Option.some.inj hp
      refine ⟨by simp [Leaf.unlock, Leaf.startPump], by simp [Leaf.unlock, Leaf.startPump], rfl, ?_⟩
      exact hi.configured th (by rw [h]; rfl)
    · have hne : p ≠ s.pumpCount := by
        change s.pumpCount + 1 ≤ p at hp
        omega
      simp only [Leaf.unlock, Leaf.startPump, update_of_ne hne]
      exact hjoined p

theorem SessionInv.step (hi : SessionInv s) (h : LeafStep s e s') : SessionInv s' := by
  cases h with
  | tick | media => exact hi.same { SameSession.refl s with }
  | call h => exact hi.same h.session
  | pump h => exact hi.pump h
  | reset h => exact hi.reset h
  | recovery h => exact hi.recovery h
  | locked h => exact hi.locked h

end

theorem session_inv {t : List LeafEvent} {s : Leaf} (h : Run LeafStep {} t s) : SessionInv s := by
  refine h.keeps (fun hi hstep => hi.step hstep) ⟨?_, ?_, ?_, ?_, ?_, ?_⟩
  all_goals simp [Task.shape]

/-- **At most one pump runs.** -/
theorem SessionInv.pump_unique {s : Leaf} (hi : SessionInv s) {p q : ℕ}
    (hp : (s.pumps p).phase ≠ .finished) (hq : (s.pumps q).phase ≠ .finished) : p = q := by
  have hdown {th : Thread} {r : ℕ} (h : (Task.shape (s.tasks th)).2.2.1 = some r) :
      s.sessionPump = none := hi.down th (Task.down_of_joins h)
  rcases hi.running p hp with hp | ⟨th, hth⟩
  · rcases hi.running q hq with hq | ⟨th', hth'⟩
    · exact Option.some.inj (hp.symm.trans hq)
    · rw [hdown hth'] at hp
      cases hp
  · have hruns := hi.runs (Task.locked_of_joins hth) hq
    rw [hdown hth, hth] at hruns
    simpa using hruns

/-- A step without a pump. -/
def PumplessStep (s : Leaf) (e : LeafEvent) (s' : Leaf) : Prop :=
  LeafStep s e s' ∧ s.sessionPump = none

theorem opens_session {s : Leaf} {th : Thread} {d : String} {r : Option ℕ}
    (h : s.tasks th = some (.ensuring d r)) (hnone : s.activeDeviceId = "")
    (hclosed : s.isOpen = false) (hpump : s.sessionPump = none) :
    ∃ s', Run PumplessStep s [.internal, .replacing d r, .internal, .internal, .internal,
        .media (.closed th.party s.media.table.active.keys), .media (.queued th.party), .internal,
        .ensured d r true] s' ∧
      s'.activeDeviceId = d ∧ s'.isOpen = true ∧ s'.sessionPump = some s.pumpCount ∧
      s'.pumps s.pumpCount = ⟨d, .loop⟩ ∧ s'.sessionMutex = none ∧
      s'.recoveryRequested = s.recoveryRequested ∧
      s'.tasks = update s.tasks th (afterEnsure d r true) ∧
      s'.calls = s.calls ∧ s'.pending = s.pending ∧ s'.inFlight = s.inFlight ∧
      s'.client = true := by
  have hclear {s₁ : Leaf} (h : s₁.tasks th = some (.clearing (.ensure d r)))
      (hnone : s₁.activeDeviceId = "") :
      LockedStep s₁ .internal (s₁.setTask th (some (.ensureClear d r))) := by
    have hstep := LockedStep.clearEnsure h
    rwa [if_pos hnone] at hstep
  have hstep {s e s'} (h : LockedStep s e s') (hpump : s.sessionPump = none) :
      PumplessStep s e s' := ⟨.locked h, hpump⟩
  have hrun := Run.one (hstep (.ensure h (by simp [Leaf.busyFor, hnone])
    (by simp [Leaf.sessionReady, hclosed])) hpump)
  replace hrun := hrun.snoc (hstep (.stopEnsure (update_self ..)) hpump)
  replace hrun := hrun.snoc (hstep (.join (update_self ..)
    (by simp [Leaf.setTask, hpump])) rfl)
  replace hrun := hrun.snoc (hstep (.closeClient (update_self ..)) rfl)
  replace hrun := hrun.snoc (hstep (hclear (update_self ..) hnone) rfl)
  replace hrun := hrun.snoc (hstep (.clearStreams (update_self ..)) rfl)
  replace hrun := hrun.snoc (hstep (.enqueue (update_self ..)) rfl)
  replace hrun := hrun.snoc (hstep (.appReady (update_self ..)) rfl)
  replace hrun := hrun.snoc (hstep (.publish (update_self ..)) rfl)
  refine ⟨_, hrun, ?_⟩
  simp [Leaf.unlock, Leaf.startPump, Leaf.setTask, Leaf.enqueueEvents, Leaf.clearStreams,
    Leaf.stop]

theorem client_opens_session {s : Leaf} {n : ℕ} (d : String) (hidle : s.tasks (.client n) = none)
    (hmutex : s.sessionMutex = none) (hnone : s.activeDeviceId = "") (hclosed : s.isOpen = false)
    (hpump : s.sessionPump = none) :
    ∃ s', Run PumplessStep s ([.openBegan d, .ensuring d none] ++ [.internal, .replacing d none,
        .internal, .internal, .internal,
        .media (.closed (.client n) s.media.table.active.keys), .media (.queued (.client n)),
        .internal, .ensured d none true]) s' ∧
      s'.activeDeviceId = d ∧ s'.isOpen = true ∧ s'.sessionPump = some s.pumpCount ∧
      s'.pumps s.pumpCount = ⟨d, .loop⟩ ∧ s'.sessionMutex = none ∧
      s'.recoveryRequested = s.recoveryRequested ∧ s'.tasks = s.tasks ∧ s'.calls = s.calls ∧
      s'.pending = s.pending ∧ s'.inFlight = s.inFlight ∧ s'.client = true := by
  have hstep {s e s'} (h : LockedStep s e s') (hpump : s.sessionPump = none) :
      PumplessStep s e s' := ⟨.locked h, hpump⟩
  have hrun := Run.one (hstep (.openBegin (n := n) d hidle) hpump)
  replace hrun := hrun.snoc (hstep (.openLock (update_self ..) hmutex) hpump)
  obtain ⟨s', hopen, hdevice, hisOpen, hpump', hp, hmutex', hrequest, htasks, hqueue⟩ :=
    opens_session (s := { (s.setTask (.client n) (some (.openLock d))).setTask (.client n)
      (some (.ensuring d none)) with sessionMutex := some (.client n) })
      (update_self ..) hnone hclosed hpump
  refine ⟨s', hrun.trans hopen, hdevice, hisOpen, hpump', hp, hmutex', hrequest, ?_, hqueue⟩
  rw [htasks]
  simp [Leaf.setTask, afterEnsure, hidle]

/-- **One thread uses the client.**  In every run of a leaf at most one pump runs, and none does
    while a thread sets up a session; that thread holds `session_mutex_`. -/
theorem client_exclusive {t : List LeafEvent} {s : Leaf} (h : Run LeafStep {} t s) :
    (∀ p q, (s.pumps p).phase ≠ .finished → (s.pumps q).phase ≠ .finished → p = q) ∧
    ∀ th task, s.tasks th = some task → task.polls = true →
      s.sessionMutex = some th ∧ ∀ p, (s.pumps p).phase = .finished := by
  have hi := session_inv h
  refine ⟨fun p q => hi.pump_unique, fun th task ht hpolls => ?_⟩
  have hshape : (Task.shape (s.tasks th)).1 = true ∧ (Task.shape (s.tasks th)).2.1 = true ∧
      (Task.shape (s.tasks th)).2.2.1 = none := by
    rw [ht]
    cases task <;> first | exact ⟨rfl, rfl, rfl⟩ | cases hpolls
  exact ⟨hi.mutex th hshape.1, hi.joined hshape.1 hshape.2.1 hshape.2.2⟩

/-- The transport closes, and a second session is set up for the device: the pump of the first
    one is gone by then, and in the end that of the second one is the only one. -/
theorem client_exclusive_reopened : ∃ t₁ t₂ s₁ s₂ p, Run LeafStep {} t₁ s₁ ∧
    .ensured "d1" none true ∈ t₁ ∧ s₁.sessionMutex = some (.client 1) ∧
    (∀ q, (s₁.pumps q).phase = .finished) ∧ Run LeafStep s₁ t₂ s₂ ∧
    .ensured "d1" none true ∈ t₂ ∧ (s₂.pumps p).phase = .loop ∧
    ∀ q, (s₂.pumps q).phase ≠ .finished → q = p := by
  obtain ⟨s, hrun, hdevice, -, hpump, hp, hmutex, -, htasks, -, -, -, hclient⟩ :=
    client_opens_session (s := {}) (n := 0) "d1" rfl rfl rfl rfl rfl
  have hloop : (s.pumps 0).phase = .loop := congrArg Pump.phase hp
  have h : Run LeafStep {} _ s := hrun.mono And.left
  have hnot (q k now : ℕ) : (s.pumps q).phase ≠ .timed k now := by
    intro hq
    obtain rfl := (session_inv h).pump_unique (p := q) (q := 0) (by simp [hq]) (by simp [hloop])
    cases hq.symm.trans hloop
  have h := h.snoc (.pump (.snapshot false (.inl ⟨0, by simp [hloop]⟩) hclient hnot))
  have h := h.snoc (.locked (.openBegin (n := 1) "d1" (by simp [htasks])))
  have h := h.snoc (.locked (.openLock (update_self ..) hmutex))
  have h := h.snoc (.locked (.ensure (update_self ..)
    (by simp [Leaf.busyFor, Leaf.setTask, hdevice]) (by simp [Leaf.sessionReady, Leaf.setTask])))
  have h := h.snoc (.locked (.stopEnsure (update_self ..)))
  have h := h.snoc (.pump (.exit (p := 0) hloop (.inl rfl)))
  have h := h.snoc (.locked (.join (update_self ..) (by simp [Leaf.setPhase, Leaf.setTask, hpump])))
  have h := h.snoc (.locked (.closeClient (update_self ..)))
  have h := h.snoc (.locked (.clearEnsure (update_self ..)))
  have h := h.snoc (.locked (.clearStreams (update_self ..)))
  have h := h.snoc (.locked (.enqueue (update_self ..)))
  have h := h.snoc (.locked (.appReady (update_self ..)))
  obtain ⟨t₁, s₁, h, hfirst, htask⟩ : ∃ t₁ s₁, Run LeafStep {} t₁ s₁ ∧
      .ensured "d1" none true ∈ t₁ ∧ s₁.tasks (.client 1) = some (.configuring "d1" none) :=
    ⟨_, _, h, by simp, by simp [Leaf.setTask]⟩
  have h' := Run.one (LeafStep.locked (.publish htask))
  obtain ⟨hholds, hnone⟩ := (client_exclusive h).2 (.client 1) _ htask rfl
  refine ⟨t₁, _, s₁, _, s₁.pumpCount, h, hfirst, hholds, hnone, h', List.mem_singleton.2 rfl,
    by simp [Leaf.startPump, Leaf.unlock], fun q hq => ?_⟩
  exact (client_exclusive (h.trans h')).1 q _ hq (by simp [Leaf.startPump, Leaf.unlock])

end Axent.Axtp
