/-
  `AxentHost` (`src/host/axent_host.cpp`): the life cycle of the host, its
  session and maintenance leases, and its control calls.

  `start`, `stop`, `refresh_devices`, `acquire_session`, `release_session`,
  `reserve_maintenance` and the control calls hold `dispatch_mutex` from their
  first to their last statement, so at most one of them is in progress;
  `Dispatch` says which one and how far it has come.  A step of `HostStep` is
  one section of such a call that holds `mutex` or calls something outside, or
  a step of somebody else: `upsert_device`, which takes only `mutex`, a client
  that moves or drops a `MaintenanceLease`, and the operations of the control
  calls, which complete whenever their adapters like.

  What the adapters answer is left open: any list of devices may be discovered,
  `open_session_status` may fail or throw, and `dispatch_async` may return any
  operation.  Media relays and subscriptions are not part of this model.
-/
import Axent.Broker
import Axent.LeaseTable
import Axent.Lib.Run
import Axent.Reconcile

namespace Axent

open Lib Function

/-! ## The parts of the host -/

/-- `AxtpAdapter` as far as the host's media delivery goes: the session that
    each device context delivers to (`media_delivery_sessions_`). -/
structure AxtpAdapter where
  mediaDeliverySessions : String → Option String := fun _ => none

namespace AxtpAdapter

def bindMediaDeliverySession (a : AxtpAdapter) (deviceId sessionId : String) : AxtpAdapter :=
  ⟨update a.mediaDeliverySessions deviceId (some sessionId)⟩

def unbindMediaDeliverySession (a : AxtpAdapter) (deviceId sessionId : String) : AxtpAdapter :=
  if a.mediaDeliverySessions deviceId = some sessionId then
    ⟨update a.mediaDeliverySessions deviceId none⟩
  else a

/-- `reset_session_for_device`, which retires the device context. -/
def resetSessionForDevice (a : AxtpAdapter) (deviceId : String) : AxtpAdapter :=
  ⟨update a.mediaDeliverySessions deviceId none⟩

theorem bindMediaDeliverySession_eq (a : AxtpAdapter) (d sessionId x : String) :
    (a.bindMediaDeliverySession d sessionId).mediaDeliverySessions x =
      if x = d then some sessionId else a.mediaDeliverySessions x :=
  update_apply ..

theorem unbindMediaDeliverySession_eq_some {a : AxtpAdapter} {d sessionId x y : String} :
    (a.unbindMediaDeliverySession d sessionId).mediaDeliverySessions x = some y ↔
      a.mediaDeliverySessions x = some y ∧ ¬ (x = d ∧ y = sessionId) := by
  unfold unbindMediaDeliverySession
  split_ifs with h
  · rcases eq_or_ne x d with rfl | hne
    · simp [h, eq_comm]
    · simp [hne]
  · refine ⟨fun hx => ⟨hx, ?_⟩, And.left⟩
    rintro ⟨rfl, rfl⟩
    exact h hx

theorem resetSessionForDevice_eq (a : AxtpAdapter) (d x : String) :
    (a.resetSessionForDevice d).mediaDeliverySessions x =
      if x = d then none else a.mediaDeliverySessions x :=
  update_apply ..

end AxtpAdapter

/-- The adapter in `axtp_adapter`; a factory may have made one that is not an
    `AxtpAdapter`, so that the `dynamic_cast` gives null (`axtp = none`). -/
structure HostAdapter where
  name : String := "axtp"
  axtp : Option AxtpAdapter := some {}

/-- A new adapter, of class `AxtpAdapter` or not. -/
def HostAdapter.make (name : String) (isAxtp : Bool) : HostAdapter where
  name := name
  axtp := if isAxtp then some {} else none

structure EndpointControlRequest where
  sourceEndpointId : String := ""
  destinationEndpointId : String := ""
  method : String := ""
  params : Json := .object []

/-- A control call of a client. -/
inductive HostCall where
  | callAsync (sessionId method : String) (params : Json)
  | callEndpoint (request : EndpointControlRequest)

/-- `session_operation_key` and `endpoint_operation_key`. -/
def HostCall.key : HostCall → String
  | callAsync sessionId _ _ => "session:" ++ sessionId
  | callEndpoint request => "endpoint:" ++ request.destinationEndpointId

/-- The control operations, by number, and the weak references to them in
    `control_operations`, with their keys.  `references` counts the callers
    that hold an operation; it may expire once there are none. -/
structure ControlTable where
  operations : ℕ → OperationState ℕ := fun _ => {}
  tracked : List (String × ℕ) := []
  references : ℕ → ℕ := fun _ => 0
  expired : ℕ → Bool := fun _ => false
  created : ℕ := 0

namespace ControlTable

def ready (c : ControlTable) (o : ℕ) : Bool := (c.operations o).result.isSome

def cancel (c : ControlTable) (o : ℕ) : ControlTable :=
  { c with operations := update c.operations o (c.operations o).cancel.1 }

/-- A new operation in state `st`, held by its caller. -/
def create (c : ControlTable) (st : OperationState ℕ) : ControlTable :=
  { c with
    operations := update c.operations c.created st
    references := update c.references c.created 1
    created := c.created + 1 }

/-- One more caller holds operation `o`. -/
def hold (c : ControlTable) (o : ℕ) : ControlTable :=
  { c with references := update c.references o (c.references o + 1) }

/-- A caller drops its reference to operation `o`. -/
def letGo (c : ControlTable) (o : ℕ) : ControlTable :=
  { c with references := update c.references o (c.references o - 1) }

/-- `take_control_operations_locked(key)`: the operations that are left. -/
def take (c : ControlTable) (key : String) : List ℕ :=
  ((c.tracked.filter fun p => p.1 = key).map Prod.snd).filter fun o => !c.expired o

def drop (c : ControlTable) (key : String) : ControlTable :=
  { c with tracked := c.tracked.filter fun p => p.1 ≠ key }

/-- `take_control_operations_locked()`. -/
def takeAll (c : ControlTable) : List ℕ := (c.tracked.map Prod.snd).filter fun o => !c.expired o

def dropAll (c : ControlTable) : ControlTable := { c with tracked := [] }

/-- The last section of a control call: operations under `key` that expired or
    are ready are forgotten, and `o` is tracked. -/
def track (c : ControlTable) (key : String) (o : ℕ) : ControlTable :=
  { c with
    tracked := c.tracked.filter (fun p => ¬ (p.1 = key ∧ (c.expired p.2 ∨ c.ready p.2))) ++
      [(key, o)] }

end ControlTable

/-- The call that holds `dispatch_mutex`, and what it has still to do. -/
inductive Dispatch where
  | idle
  /-- `start`, cancelling operations before the reset -/
  | starting (operations : List ℕ)
  /-- `start` after the reset -/
  | restarting
  /-- `stop`, cancelling operations before the reset -/
  | stopping (operations : List ℕ)
  /-- `stop` after the reset -/
  | stopped
  /-- `refresh_devices` in `discover` -/
  | refreshing (adapterName : String)
  /-- `acquire_session` after its first check; `sessionAdapter` is not null -/
  | acquiring (request : SessionAcquireRequest) (sessionAdapter : Bool)
  /-- `acquire_session` with its reservation -/
  | opening (request : SessionAcquireRequest) (sessionAdapter : Bool)
  /-- `acquire_session` about to bind the adapter -/
  | binding (lease : SessionLease)
  /-- `release_session` after its locked section -/
  | releasing (sessionId : String) (operations : List ℕ) (unbind reset : Option String)
  /-- `reserve_maintenance` after its check -/
  | reserving (deviceId : String)
  /-- a control call in `dispatch_async` -/
  | calling (call : HostCall) (command : ControlCommand)
  /-- a control call that has its operation -/
  | registering (call : HostCall) (operation : ℕ)

/-- The reservation that an acquisition in progress holds. -/
def Dispatch.reservation : Dispatch → Reservation
  | opening request _ => some (request.deviceId, request.media)
  | _ => none

/-- The operations that a call is about to cancel. -/
def Dispatch.cancelling : Dispatch → List ℕ
  | starting operations | stopping operations | releasing _ operations _ _ => operations
  | _ => []

structure Host where
  running : Bool := false
  broker : Bool := false
  devices : Option DeviceManager := none
  adapter : Option HostAdapter := none
  table : LeaseTable := {}
  control : ControlTable := {}
  dispatch : Dispatch := .idle

namespace Host

/-- `devices->get(id)`. -/
def getDevice (s : Host) (deviceId : String) : Option DeviceSnapshot :=
  s.devices.bind fun m => m.getById deviceId

/-- The `dynamic_cast` of the adapter. -/
def axtpAdapter (s : Host) : Option AxtpAdapter := s.adapter.bind HostAdapter.axtp

/-- The host with the AXTP adapter changed by `f`. -/
def mapAxtp (s : Host) (f : AxtpAdapter → AxtpAdapter) : Host :=
  { s with adapter := s.adapter.map fun a => { a with axtp := a.axtp.map f } }

/-- `is_axtp_device_locked`. -/
def isAxtpDevice (s : Host) (deviceId : String) : Bool :=
  (s.getDevice deviceId).any fun d => d.adapter = "axtp"

/-- `Impl::reset`. -/
def reset (s : Host) : Host :=
  { s with
    running := false
    broker := false
    devices := none
    adapter := none
    table := s.table.reset
    control := s.control.dropAll }

/-! ## The sections of the calls -/

/-- A lease that was not acquired. -/
def refuse (request : SessionAcquireRequest) (media : Bool) (reason : String)
    (status : ControlStatus) : SessionLease where
  deviceId := request.deviceId
  clientId := request.clientId
  media := media
  reason := reason
  status := status

/-- The checks of `acquire_session` on device and media owner, made before and
    after the session is opened. -/
def checkDevice (s : Host) (request : SessionAcquireRequest) :
    Except SessionLease DeviceSnapshot :=
  match s.getDevice request.deviceId with
  | none => .error (refuse request false "device not found" .notFound)
  | some device =>
    if request.media ∧ (s.table.mediaOwner request.deviceId).isSome then
      .error (refuse request false "media lease busy" .busy)
    else .ok device

/-- The first section of `acquire_session`: whether the session is opened on
    the AXTP adapter. -/
def checkAcquire (s : Host) (request : SessionAcquireRequest) : Except SessionLease Bool :=
  if !s.running ∨ s.devices.isNone then
    .error (refuse request false "host not running" .unavailable)
  else
    (s.checkDevice request).map fun device => device.adapter = "axtp" ∧ s.axtpAdapter.isSome

/-- The device whose media delivery `release_session` unbinds. -/
def unbindTarget (s : Host) (sessionId : String) : Option String :=
  match s.table.lookup sessionId with
  | some lease =>
    if lease.media ∧ s.isAxtpDevice lease.deviceId ∧ s.axtpAdapter.isSome then
      some lease.deviceId
    else none
  | none => none

/-- The device that `release_session` resets: no lease of it is left. -/
def resetTarget (s : Host) (sessionId : String) : Option String :=
  match s.table.lookup sessionId with
  | some lease =>
    if s.isAxtpDevice lease.deviceId ∧
        !(s.table.release sessionId).hasLeaseForDevice lease.deviceId ∧
        s.axtpAdapter.isSome ∧ lease.deviceId ≠ "" then
      some lease.deviceId
    else none
  | none => none

/-- The check of `reserve_maintenance`. -/
def checkMaintenance (s : Host) (deviceId : String) : Except String Unit :=
  if !s.running ∨ s.devices.isNone then .error "host not running"
  else if (s.getDevice deviceId).isNone then .error "device not found"
  else .ok ()

/-- The command of a control call, or the result of one that is not made. -/
def commandFor (s : Host) : HostCall → Except ControlResult ControlCommand
  | .callAsync sessionId method params =>
    if !s.broker then .error (.failure .unavailable "host not running")
    else
      match s.table.lookup sessionId with
      | none => .error (.failure .notFound "session not found")
      | some lease => .ok
        { requestId := sessionId ++ ":" ++ method
          controlSessionId := lease.clientId
          deviceId := lease.deviceId
          deviceSelectorKind := .providerLocalId
          method := method
          params := params }
  | .callEndpoint request =>
    if !s.broker then .error (.failure .unavailable "host not running")
    else .ok
      { requestId := request.sourceEndpointId ++ ":" ++ request.destinationEndpointId ++ ":" ++
          request.method
        source := .localCli
        src := request.sourceEndpointId
        dst := request.destinationEndpointId
        method := request.method
        params := request.params }

/-- `call_endpoint` refuses a request without source, destination or method. -/
def invalidCall : HostCall → Bool
  | .callAsync _ _ _ => false
  | .callEndpoint request =>
    request.sourceEndpointId = "" ∨ request.destinationEndpointId = "" ∨ request.method = ""

/-- The lease check at the end of `call_async`. -/
def leaseGone (s : Host) : HostCall → Bool
  | .callAsync sessionId _ _ => (s.table.lookup sessionId).isNone
  | .callEndpoint _ => false

end Host

/-! ## The steps -/

inductive HostEvent where
  /-- a step inside a call -/
  | internal
  /-- `Impl::reset`, in `start` and in `stop` -/
  | reset
  | startReturned
  | stopReturned
  /-- the first section of an `acquire_session` that goes on -/
  | acquireBegan (request : SessionAcquireRequest)
  | acquireReturned (lease : SessionLease)
  /-- an exception of `open_session_status` leaves `acquire_session` -/
  | acquireThrew
  /-- the locked section of `release_session` -/
  | releaseBegan (sessionId : String)
  | releaseReturned (sessionId : String)
  | maintenanceGranted (deviceId : String)
  | maintenanceRefused (reason : String)
  /-- a call on a handle, with the release functions that it ran -/
  | handleCalled (call : HandleCall) (releases : List MaintenanceRelease)
  /-- a control call returned an operation -/
  | returned (call : HostCall) (operation : ℕ)

/-- One step of the host or of its surroundings. -/
inductive HostStep : Host → HostEvent → Host → Prop
  -- start
  | startTake {s : Host} (hd : s.dispatch = .idle) :
      HostStep s .internal
        { s with control := s.control.dropAll, dispatch := .starting s.control.takeAll }
  | startCancel {s : Host} {o : ℕ} {rest : List ℕ} (hd : s.dispatch = .starting (o :: rest)) :
      HostStep s .internal { s with control := s.control.cancel o, dispatch := .starting rest }
  | startReset {s : Host} (hd : s.dispatch = .starting []) :
      HostStep s .reset { s.reset with dispatch := .restarting }
  | startOpen {s : Host} (hd : s.dispatch = .restarting) (mock discovered : List DeviceSnapshot)
      (adapter : Option (String × Bool)) :
      HostStep s .startReturned
        { s with
          running := true
          broker := true
          devices := some ((mock ++ discovered).foldl (fun m d => (m.upsert d).1) {})
          adapter := adapter.map fun a => .make a.1 a.2
          dispatch := .idle }
  | startThrows {s : Host} (hd : s.dispatch = .restarting) (discovered : List DeviceSnapshot)
      (adapter : Option (String × Bool)) :
      HostStep s .internal
        { s with
          broker := true
          devices := some (discovered.foldl (fun m d => (m.upsert d).1) {})
          adapter := adapter.map fun a => .make a.1 a.2
          dispatch := .idle }
  -- stop
  | stopNothing {s : Host} (hd : s.dispatch = .idle) (hr : s.running = false)
      (hb : s.broker = false) :
      HostStep s .stopReturned s
  | stopTake {s : Host} (hd : s.dispatch = .idle) (hr : s.running = true ∨ s.broker = true) :
      HostStep s .internal
        { s with control := s.control.dropAll, dispatch := .stopping s.control.takeAll }
  | stopCancel {s : Host} {o : ℕ} {rest : List ℕ} (hd : s.dispatch = .stopping (o :: rest)) :
      HostStep s .internal { s with control := s.control.cancel o, dispatch := .stopping rest }
  | stopReset {s : Host} (hd : s.dispatch = .stopping []) :
      HostStep s .reset { s.reset with dispatch := .stopped }
  | stopReturn {s : Host} (hd : s.dispatch = .stopped) :
      HostStep s .stopReturned { s with dispatch := .idle }
  -- the registry of devices
  | upsertDevice (s : Host) (snapshot : DeviceSnapshot) :
      HostStep s .internal { s with devices := s.devices.map fun m => (m.upsert snapshot).1 }
  | refreshBegin {s : Host} {a : HostAdapter} (hd : s.dispatch = .idle) (hr : s.running = true)
      (ha : s.adapter = some a) :
      HostStep s .internal { s with dispatch := .refreshing a.name }
  | refreshEnd {s : Host} {name : String} (hd : s.dispatch = .refreshing name)
      (discovered : List DeviceSnapshot) :
      HostStep s .internal
        { s with
          devices := s.devices.map fun m =>
            (m.reconcileDiscovery name discovered "discovery-missing").1
          dispatch := .idle }
  | refreshThrows {s : Host} {name : String} (hd : s.dispatch = .refreshing name) :
      HostStep s .internal { s with dispatch := .idle }
  -- acquire_session
  | acquireRefused {s : Host} {request : SessionAcquireRequest} {lease : SessionLease}
      (hd : s.dispatch = .idle) (hc : s.checkAcquire request = .error lease) :
      HostStep s (.acquireReturned lease) s
  | acquireBegin {s : Host} (request : SessionAcquireRequest) {sessionAdapter : Bool}
      (hd : s.dispatch = .idle) (hc : s.checkAcquire request = .ok sessionAdapter) :
      HostStep s (.acquireBegan request)
        { s with dispatch := .acquiring request sessionAdapter }
  | acquireBusy {s : Host} {request : SessionAcquireRequest} {sessionAdapter : Bool}
      {reason : String} (hd : s.dispatch = .acquiring request sessionAdapter)
      (hc : s.table.reserve request.deviceId request.media = .error reason) :
      HostStep s (.acquireReturned (Host.refuse request request.media reason .busy))
        { s with dispatch := .idle }
  | acquireReserve {s : Host} {request : SessionAcquireRequest} {sessionAdapter : Bool}
      {table : LeaseTable} (hd : s.dispatch = .acquiring request sessionAdapter)
      (hc : s.table.reserve request.deviceId request.media = .ok table) :
      HostStep s .internal
        { s with table := table, dispatch := .opening request sessionAdapter }
  | acquireOpenFailed {s : Host} {request : SessionAcquireRequest}
      (hd : s.dispatch = .opening request true) (error : String) (status : ControlStatus)
      (hs : status ≠ .ok) :
      HostStep s (.acquireReturned (Host.refuse request true error status))
        { s with
          table := s.table.cancelReservation request.deviceId request.media
          dispatch := .idle }
  | acquireOpenThrew {s : Host} {request : SessionAcquireRequest}
      (hd : s.dispatch = .opening request true) :
      HostStep s .acquireThrew
        { s with
          table := s.table.cancelReservation request.deviceId request.media
          dispatch := .idle }
  | acquireRejected {s : Host} {request : SessionAcquireRequest} {sessionAdapter : Bool}
      {lease : SessionLease} (hd : s.dispatch = .opening request sessionAdapter)
      (hc : s.checkDevice request = .error lease) :
      HostStep s (.acquireReturned lease)
        { s with
          table := s.table.cancelReservation request.deviceId request.media
          dispatch := .idle }
  | acquireGranted {s : Host} {request : SessionAcquireRequest} {sessionAdapter : Bool}
      {device : DeviceSnapshot} (hd : s.dispatch = .opening request sessionAdapter)
      (hc : s.checkDevice request = .ok device)
      (hm : (request.media && sessionAdapter) = false) :
      HostStep s (.acquireReturned (s.table.nextLease request))
        { s with table := s.table.openSession request, dispatch := .idle }
  | acquireGrantedMedia {s : Host} {request : SessionAcquireRequest} {sessionAdapter : Bool}
      {device : DeviceSnapshot} (hd : s.dispatch = .opening request sessionAdapter)
      (hc : s.checkDevice request = .ok device)
      (hm : (request.media && sessionAdapter) = true) :
      HostStep s .internal
        { s with
          table := s.table.openSession request
          dispatch := .binding (s.table.nextLease request) }
  | acquireBind {s : Host} {lease : SessionLease} (hd : s.dispatch = .binding lease) :
      HostStep s (.acquireReturned lease)
        { s.mapAxtp (·.bindMediaDeliverySession lease.deviceId lease.sessionId) with
          dispatch := .idle }
  -- the adapter has no device context to bind
  | acquireUnbound {s : Host} {lease : SessionLease} (hd : s.dispatch = .binding lease) :
      HostStep s (.acquireReturned lease) { s with dispatch := .idle }
  -- release_session
  | releaseTake {s : Host} (hd : s.dispatch = .idle) (sessionId : String) :
      HostStep s (.releaseBegan sessionId)
        { s with
          table := s.table.release sessionId
          control := s.control.drop ("session:" ++ sessionId)
          dispatch := .releasing sessionId (s.control.take ("session:" ++ sessionId))
            (s.unbindTarget sessionId) (s.resetTarget sessionId) }
  | releaseCancel {s : Host} {sessionId : String} {o : ℕ} {rest : List ℕ}
      {unbind reset : Option String}
      (hd : s.dispatch = .releasing sessionId (o :: rest) unbind reset) :
      HostStep s .internal
        { s with
          control := s.control.cancel o
          dispatch := .releasing sessionId rest unbind reset }
  | releaseUnbind {s : Host} {sessionId deviceId : String} {reset : Option String}
      (hd : s.dispatch = .releasing sessionId [] (some deviceId) reset) :
      HostStep s .internal
        { s.mapAxtp (·.unbindMediaDeliverySession deviceId sessionId) with
          dispatch := .releasing sessionId [] none reset }
  | releaseReset {s : Host} {sessionId deviceId : String}
      (hd : s.dispatch = .releasing sessionId [] none (some deviceId)) :
      HostStep s .internal
        { s.mapAxtp (·.resetSessionForDevice deviceId) with
          dispatch := .releasing sessionId [] none none }
  | releaseReturn {s : Host} {sessionId : String}
      (hd : s.dispatch = .releasing sessionId [] none none) :
      HostStep s (.releaseReturned sessionId) { s with dispatch := .idle }
  -- try_acquire_maintenance and the handles
  | maintenanceRefused {s : Host} {deviceId reason : String} (hd : s.dispatch = .idle)
      (hc : s.checkMaintenance deviceId = .error reason) :
      HostStep s (.maintenanceRefused reason) s
  | maintenanceBegin {s : Host} {deviceId : String} (hd : s.dispatch = .idle)
      (hc : s.checkMaintenance deviceId = .ok ()) :
      HostStep s .internal { s with dispatch := .reserving deviceId }
  | maintenanceBusy {s : Host} {deviceId reason : String} {handle : ℕ}
      (hd : s.dispatch = .reserving deviceId)
      (hc : s.table.grantMaintenance deviceId handle = .error reason) :
      HostStep s (.maintenanceRefused reason) { s with dispatch := .idle }
  | maintenanceGranted {s : Host} {deviceId : String} {handle : ℕ} {table : LeaseTable}
      (hd : s.dispatch = .reserving deviceId) (hh : (s.table.handles handle).state = none)
      (hc : s.table.grantMaintenance deviceId handle = .ok table) :
      HostStep s (.maintenanceGranted deviceId) { s with table := table, dispatch := .idle }
  | callHandle (s : Host) (call : HandleCall) (hc : s.table.Constructs call) :
      HostStep s (.handleCalled call (s.table.callHandle call).2)
        { s with table := (s.table.callHandle call).1 }
  -- control calls
  | callInvalid (s : Host) {call : HostCall} (hc : Host.invalidCall call = true) :
      HostStep s (.returned call s.control.created)
        { s with control := s.control.create (.completed (.failure .invalidArgument
            "endpoint source, destination, and method are required")) }
  | callBusy {s : Host} {call : HostCall} (hv : Host.invalidCall call = false)
      (hd : s.dispatch ≠ .idle) (inSinkCallback : Bool) :
      HostStep s (.returned call s.control.created)
        { s with control := s.control.create (.completed (.failure .busy
            (if inSinkCallback then "host dispatch busy during media stream callback"
              else "host dispatch busy"))) }
  | callRefused {s : Host} {call : HostCall} {result : ControlResult}
      (hv : Host.invalidCall call = false) (hd : s.dispatch = .idle)
      (hc : s.commandFor call = .error result) :
      HostStep s (.returned call s.control.created)
        { s with control := s.control.create (.completed result) }
  | callBegin {s : Host} (call : HostCall) {command : ControlCommand}
      (hv : Host.invalidCall call = false) (hd : s.dispatch = .idle)
      (hc : s.commandFor call = .ok command) :
      HostStep s .internal { s with dispatch := .calling call command }
  | callDispatched {s : Host} {call : HostCall} {command : ControlCommand}
      (hd : s.dispatch = .calling call command) (operation : OperationState ℕ) :
      HostStep s .internal
        { s with
          control := s.control.create operation
          dispatch := .registering call s.control.created }
  -- an operation that the adapter has returned before
  | callShared {s : Host} {call : HostCall} {command : ControlCommand}
      (hd : s.dispatch = .calling call command) {o : ℕ} (ho : o < s.control.created)
      (he : s.control.expired o = false) :
      HostStep s .internal
        { s with control := s.control.hold o, dispatch := .registering call o }
  | callThrew {s : Host} {call : HostCall} {command : ControlCommand}
      (hd : s.dispatch = .calling call command) :
      HostStep s .internal { s with dispatch := .idle }
  | callReleased {s : Host} {call : HostCall} {o : ℕ} (hd : s.dispatch = .registering call o)
      (hc : s.leaseGone call = true) :
      HostStep s (.returned call s.control.created)
        { s with
          control := ((s.control.cancel o).letGo o).create
            (.completed (.failure .notFound "session released"))
          dispatch := .idle }
  | callTrack {s : Host} {call : HostCall} {o : ℕ} (hd : s.dispatch = .registering call o)
      (hc : s.leaseGone call = false) :
      HostStep s (.returned call o)
        { s with control := s.control.track call.key o, dispatch := .idle }
  -- the operations
  | operationCalled (s : Host) (o id : ℕ) (call : OperationCall) :
      HostStep s .internal
        { s with control := { s.control with
            operations := update s.control.operations o
              (call.enter id (s.control.operations o)).1 } }
  | operationDropped (s : Host) {o : ℕ} (ho : 0 < s.control.references o) :
      HostStep s .internal { s with control := s.control.letGo o }
  | operationExpired (s : Host) {o : ℕ} (ho : o < s.control.created)
      (hr : s.control.references o = 0) :
      HostStep s .internal
        { s with control := { s.control with expired := update s.control.expired o true } }

end Axent
