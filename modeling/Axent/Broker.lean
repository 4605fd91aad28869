/-
  The broker (`src/core/broker.cpp`): it routes a control command to the
  adapter of a physical device, and gives every command its scheduling lane
  (`route_key`).

  The broker acts on its collaborators: it notifies the middleware, counts
  drops, resolves routes and hands requests to adapters.  `World` records
  these actions in order; `dispatch` takes a world to the result and the next
  world.  An adapter is what it does with a request at that moment, which may
  be to throw.

  `Attempt` says once what a dispatch can do (`tryDispatch_spec`); `Delivers`
  says where a command ends up, from what `dispatch` records.
  `one_device_one_lane`: the lane of a command that is delivered identifies
  the device.
-/
import Axent.Operation
import Axent.RouteManager

namespace Axent

open Lib RouteManager

/-! ## Adapters -/

/-- What an adapter throws: a `std::exception` with its `what`, or anything
    else. -/
inductive Thrown where
  | exception (what : String)
  | other
  deriving DecidableEq, Repr

/-- The `catch` clauses of a dispatch. -/
def Thrown.result : Thrown → ControlResult
  | exception what => .failure .internalError what
  | other => .failure .internalError "unknown error"

/-- The result of a dispatch whose `try` block ended with `attempt`. -/
def caught : Except Thrown ControlResult → ControlResult
  | .ok result => result
  | .error thrown => thrown.result

structure AdapterControlRequest where
  deviceId : String := ""
  sourceEndpointId : String := ""
  destinationEndpointId : String := ""
  endpointDeliveryMode : EndpointDeliveryMode := .localProjection
  method : String := ""
  params : Json := .object []

/-- Times are in milliseconds. -/
structure ControlCallOptions where
  timeout : ℤ := 5000
  deadline : Option ℤ := none

/-- An adapter; `callAsync` may return a null operation, and the operations it
    returns may already have handlers of its own. -/
structure Adapter where
  name : String
  call : AdapterControlRequest → Except Thrown ControlResult
  callAsync : AdapterControlRequest → ControlCallOptions →
    Except Thrown (Option (OperationState ℕ))
  startFirmwareUpdate : AdapterControlRequest → String → Except Thrown ControlResult

/-- A request handed to an adapter; `file` is set for a firmware update. -/
structure AdapterCall where
  adapter : String
  request : AdapterControlRequest
  file : Option String := none

/-! ## Middleware and flow control -/

/-- What the middleware is told. -/
inductive Notification where
  | beforeDispatch (command : ControlCommand)
  | afterDispatch (command : ControlCommand) (result : ControlResult)

structure FlowControlSnapshot where
  paused : Bool := false
  dropped : ℕ := 0
  deriving DecidableEq, Repr

/-- What the broker's collaborators have seen. -/
structure World where
  flowControl : FlowControlSnapshot := {}
  notifications : List Notification := []
  resolutions : ℕ := 0
  calls : List AdapterCall := []

namespace World

def beforeDispatch (w : World) (command : ControlCommand) : World :=
  { w with notifications := w.notifications ++ [.beforeDispatch command] }

def afterDispatch (w : World) (command : ControlCommand) (result : ControlResult) : World :=
  { w with notifications := w.notifications ++ [.afterDispatch command result] }

def recordDrop (w : World) : World :=
  { w with flowControl := { w.flowControl with dropped := w.flowControl.dropped + 1 } }

/-- A route is resolved. -/
def resolved (w : World) : World := { w with resolutions := w.resolutions + 1 }

/-- A request is handed to an adapter. -/
def handed (w : World) (call : AdapterCall) : World := { w with calls := w.calls ++ [call] }

end World

/-! ## The broker -/

/-- The registry it resolves routes in, and the registered adapters by name. -/
structure Broker where
  devices : DeviceManager := {}
  adapters : Std.TreeMap String Adapter compare := {}

structure CommandRoute where
  target : Option RouteTarget
  failureStatus : ControlStatus := .notFound
  failureMessage : String := "route not found"

/-- `device_list_body`. -/
def deviceListBody (devices : List DeviceSnapshot) : Json :=
  .ofList [("devices", .array (devices.map DeviceSnapshot.toJson))]

/-- `resolve_command_route`. -/
def resolveCommandRoute (routes : DeviceManager) (command : ControlCommand) : CommandRoute :=
  if command.dst = "" then
    ⟨resolveDeviceKind routes command.deviceId command.deviceSelectorKind, .notFound,
      "route not found"⟩
  else
    let resolution := resolveEndpointRoute routes command.dst
    match resolution.status with
    | .found => ⟨resolution.target, .ok, ""⟩
    | .notFound => ⟨none, .notFound, "route not found"⟩
    | .unavailable | .conflict => ⟨none, .unavailable, "route unavailable"⟩

/-- `make_adapter_request`: a legacy request carries no endpoints. -/
def makeAdapterRequest (command : ControlCommand) (target : RouteTarget) :
    AdapterControlRequest where
  deviceId := target.deviceId
  sourceEndpointId := if command.dst = "" then "" else command.src
  destinationEndpointId := if command.dst = "" then "" else target.endpointId
  endpointDeliveryMode := target.endpointDeliveryMode
  method := command.method
  params := command.params

/-- The `file` parameter of a firmware update, if it is a string. -/
def firmwareFile (params : Json) : Option String := (params.find "file").bind Json.getString

namespace Broker

def registerAdapter (b : Broker) (adapter : Adapter) : Broker :=
  { b with adapters := b.adapters.insert adapter.name adapter }

def unregisterAdapter (b : Broker) (name : String) : Broker :=
  { b with adapters := b.adapters.erase name }

/-- `route_key`. -/
def routeKey (b : Broker) (command : ControlCommand) : String :=
  if command.method = "devices.list" then "control-plane"
  else
    let target :=
      if command.dst ≠ "" then resolveEndpoint b.devices command.dst
      else resolveDeviceKind b.devices command.deviceId command.deviceSelectorKind
    match target with
    | some target => "physical:" ++ target.adapter ++ ":" ++ target.deviceId
    | none =>
      if command.dst ≠ "" then "endpoint:" ++ command.dst
      else if command.deviceId ≠ "" then "legacy-device:" ++ command.deviceId
      else "control-plane"

/-- The `try` block of `dispatch`. -/
def tryDispatch (b : Broker) (command : ControlCommand) (w : World) :
    Except Thrown ControlResult × World :=
  if w.flowControl.paused then
    (.ok (.failure .unavailable "flow paused"), w.recordDrop)
  else if command.source = .jsonRpc ∧ ¬ (command.src = "" ↔ command.dst = "") then
    (.ok (.failure .invalidArgument "JSON-RPC src and dst must be provided together"), w)
  else if command.method = "devices.list" then
    (.ok ⟨.ok, deviceListBody (listDevices b.devices)⟩, w)
  else
    let route := resolveCommandRoute b.devices command
    let w := w.resolved
    match route.target with
    | none => (.ok (.failure route.failureStatus route.failureMessage), w)
    | some target =>
      let routed := makeAdapterRequest command target
      match b.adapters[target.adapter]? with
      | none => (.ok (.failure .unavailable "adapter unavailable"), w)
      | some adapter =>
        if command.method = "firmware.update" then
          match firmwareFile command.params with
          | none => (.ok (.failure .invalidArgument "invalid firmware file"), w)
          | some file =>
            (adapter.startFirmwareUpdate routed file, w.handed ⟨target.adapter, routed, some file⟩)
        else (adapter.call routed, w.handed ⟨target.adapter, routed, none⟩)

/-- `dispatch`. -/
def dispatch (b : Broker) (command : ControlCommand) (w : World) : ControlResult × World :=
  let attempt := b.tryDispatch command (w.beforeDispatch command)
  (caught attempt.1, attempt.2.afterDispatch command (caught attempt.1))

end Broker

/-! ## What a dispatch does -/

/-- The checks a command has passed before its route is resolved. -/
structure Admitted (command : ControlCommand) (w : World) : Prop where
  running : w.flowControl.paused = false
  paired : command.source = .jsonRpc → (command.src = "" ↔ command.dst = "")
  method : command.method ≠ "devices.list"

/-- What the `try` block of a dispatch can do. -/
inductive Attempt (b : Broker) (command : ControlCommand) (w : World) :
    Except Thrown ControlResult → World → Prop
  | paused (h : w.flowControl.paused = true) :
      Attempt b command w (.ok (.failure .unavailable "flow paused")) w.recordDrop
  | unpaired (h : w.flowControl.paused = false) (hs : command.source = .jsonRpc)
      (hp : ¬ (command.src = "" ↔ command.dst = "")) :
      Attempt b command w
        (.ok (.failure .invalidArgument "JSON-RPC src and dst must be provided together")) w
  | listed (h : w.flowControl.paused = false)
      (hp : command.source = .jsonRpc → (command.src = "" ↔ command.dst = ""))
      (hm : command.method = "devices.list") :
      Attempt b command w (.ok ⟨.ok, deviceListBody (listDevices b.devices)⟩) w
  | noRoute (h : Admitted command w) (hr : (resolveCommandRoute b.devices command).target = none) :
      Attempt b command w
        (.ok (.failure (resolveCommandRoute b.devices command).failureStatus
          (resolveCommandRoute b.devices command).failureMessage)) w.resolved
  | noAdapter (h : Admitted command w) {target : RouteTarget}
      (hr : (resolveCommandRoute b.devices command).target = some target)
      (ha : b.adapters[target.adapter]? = none) :
      Attempt b command w (.ok (.failure .unavailable "adapter unavailable")) w.resolved
  | noFile (h : Admitted command w) {target : RouteTarget} {adapter : Adapter}
      (hr : (resolveCommandRoute b.devices command).target = some target)
      (ha : b.adapters[target.adapter]? = some adapter) (hm : command.method = "firmware.update")
      (hf : firmwareFile command.params = none) :
      Attempt b command w (.ok (.failure .invalidArgument "invalid firmware file")) w.resolved
  | firmware (h : Admitted command w) {target : RouteTarget} {adapter : Adapter} {file : String}
      (hr : (resolveCommandRoute b.devices command).target = some target)
      (ha : b.adapters[target.adapter]? = some adapter) (hm : command.method = "firmware.update")
      (hf : firmwareFile command.params = some file) :
      Attempt b command w (adapter.startFirmwareUpdate (makeAdapterRequest command target) file)
        (w.resolved.handed ⟨target.adapter, makeAdapterRequest command target, some file⟩)
  | called (h : Admitted command w) {target : RouteTarget} {adapter : Adapter}
      (hr : (resolveCommandRoute b.devices command).target = some target)
      (ha : b.adapters[target.adapter]? = some adapter) (hm : command.method ≠ "firmware.update") :
      Attempt b command w (adapter.call (makeAdapterRequest command target))
        (w.resolved.handed ⟨target.adapter, makeAdapterRequest command target, none⟩)

/-- **What a dispatch does, case by case.** -/
theorem tryDispatch_spec (b : Broker) (command : ControlCommand) (w : World) :
    Attempt b command w (b.tryDispatch command w).1 (b.tryDispatch command w).2 := by
  unfold Broker.tryDispatch
  by_cases hp : w.flowControl.paused = true
  · rw [if_pos hp]; exact .paused hp
  rw [if_neg hp]
  have hp' : w.flowControl.paused = false := by simpa using hp
  by_cases hs : command.source = .jsonRpc ∧ ¬ (command.src = "" ↔ command.dst = "")
  · rw [if_pos hs]; exact .unpaired hp' hs.1 hs.2
  rw [if_neg hs]
  have hs' : command.source = .jsonRpc → (command.src = "" ↔ command.dst = "") := by tauto
  by_cases hm : command.method = "devices.list"
  · rw [if_pos hm]; exact .listed hp' hs' hm
  rw [if_neg hm]
  have hadm : Admitted command w := ⟨hp', hs', hm⟩
  cases hr : (resolveCommandRoute b.devices command).target with
  | none => simp only [hr]; exact .noRoute hadm hr
  | some target =>
    simp only [hr]
    cases ha : b.adapters[target.adapter]? with
    | none => exact .noAdapter hadm hr ha
    | some adapter =>
      simp only
      by_cases hfw : command.method = "firmware.update"
      · rw [if_pos hfw]
        cases hf : firmwareFile command.params with
        | none => exact .noFile hadm hr ha hfw hf
        | some file => exact .firmware hadm hr ha hfw hf
      · rw [if_neg hfw]; exact .called hadm hr ha hfw

/-- A request carries the parameters of its command. -/
theorem dispatch_calls (b : Broker) (command : ControlCommand) (w : World) :
    ∃ handed : List AdapterCall, (b.dispatch command w).2.calls = w.calls ++ handed ∧
      ∀ call ∈ handed, call.request.params = command.params := by
  have hspec := tryDispatch_spec b command (w.beforeDispatch command)
  unfold Broker.dispatch
  simp only [World.afterDispatch]
  generalize (b.tryDispatch command (w.beforeDispatch command)).1 = r at hspec
  generalize (b.tryDispatch command (w.beforeDispatch command)).2 = w' at hspec ⊢
  cases hspec with
  | paused | unpaired | listed | noRoute | noAdapter | noFile =>
    exact ⟨[], (List.append_nil _).symm, by simp⟩
  | firmware | called =>
    refine ⟨[_], rfl, fun call hcall => ?_⟩
    rw [List.mem_singleton.1 hcall]
    rfl

/-- `dispatch` delivers `command` to the device `k`. -/
def Delivers (b : Broker) (w : World) (command : ControlCommand) (k : DeviceKey) : Prop :=
  ∃ call : AdapterCall, (b.dispatch command w).2.calls = w.calls ++ [call] ∧
    (call.adapter, call.request.deviceId) = k

/-- A delivered command was admitted and its route resolved. -/
theorem Delivers.target {b : Broker} {w : World} {command : ControlCommand} {k : DeviceKey}
    (h : Delivers b w command k) : Admitted command w ∧
      ∃ target, (resolveCommandRoute b.devices command).target = some target ∧ target.key = k := by
  obtain ⟨call, hcalls, rfl⟩ := h
  have hspec := tryDispatch_spec b command (w.beforeDispatch command)
  unfold Broker.dispatch at hcalls
  simp only [World.afterDispatch] at hcalls
  generalize (b.tryDispatch command (w.beforeDispatch command)).1 = r at hspec
  generalize (b.tryDispatch command (w.beforeDispatch command)).2 = w' at hspec hcalls
  -- only the two adapter calls extend the record
  cases hspec with
  | paused | unpaired | listed | noRoute | noAdapter | noFile =>
    simp [World.recordDrop, World.resolved, World.beforeDispatch] at hcalls
  | firmware hadm hr =>
    simp only [World.handed, World.resolved, World.beforeDispatch, List.append_cancel_left_eq,
      List.cons.injEq, and_true] at hcalls
    subst hcalls
    exact ⟨⟨hadm.running, hadm.paired, hadm.method⟩, _, hr, rfl⟩
  | called hadm hr =>
    simp only [World.handed, World.resolved, World.beforeDispatch, List.append_cancel_left_eq,
      List.cons.injEq, and_true] at hcalls
    subst hcalls
    exact ⟨⟨hadm.running, hadm.paired, hadm.method⟩, _, hr, rfl⟩

/-! ## Lanes -/

/-- The lane of a physical device. -/
def physicalLane (k : DeviceKey) : String := "physical:" ++ k.1 ++ ":" ++ k.2

/-- The lane that a command is queued in when it has no target. -/
def fallbackLane (command : ControlCommand) : String :=
  if command.dst ≠ "" then "endpoint:" ++ command.dst
  else if command.deviceId ≠ "" then "legacy-device:" ++ command.deviceId
  else "control-plane"

theorem resolveCommandRoute_target (devices : DeviceManager) (command : ControlCommand) :
    (resolveCommandRoute devices command).target =
      if command.dst ≠ "" then resolveEndpoint devices command.dst
      else resolveDeviceKind devices command.deviceId command.deviceSelectorKind := by
  unfold resolveCommandRoute resolveEndpoint
  by_cases hd : command.dst = ""
  · simp [hd]
  · rw [if_neg hd, if_pos hd]
    cases hst : (resolveEndpointRoute devices command.dst).status <;> simp [hst]

theorem routeKey_of_target {b : Broker} {command : ControlCommand} {target : RouteTarget}
    (hm : command.method ≠ "devices.list")
    (ht : (resolveCommandRoute b.devices command).target = some target) :
    b.routeKey command = physicalLane target.key := by
  rw [resolveCommandRoute_target] at ht
  simp only [Broker.routeKey, if_neg hm, ht]
  rfl

theorem routeKey_of_no_target {b : Broker} {command : ControlCommand}
    (h : command.method = "devices.list" ∨ (resolveCommandRoute b.devices command).target = none) :
    b.routeKey command = "control-plane" ∨ b.routeKey command = fallbackLane command := by
  by_cases hm : command.method = "devices.list"
  · exact .inl (if_pos hm)
  · have ht := h.resolve_left hm
    rw [resolveCommandRoute_target] at ht
    right
    simp only [Broker.routeKey, if_neg hm, ht]
    rfl

theorem append_cons_inj {α : Type*} {c : α} {l₁ l₂ r₁ r₂ : List α} (h₁ : c ∉ l₁) (h₂ : c ∉ l₂)
    (h : l₁ ++ c :: r₁ = l₂ ++ c :: r₂) : l₁ = l₂ ∧ r₁ = r₂ := by
  induction l₁ generalizing l₂ with
  | nil =>
    cases l₂ with
    | nil => exact ⟨rfl, (List.cons.inj h).2⟩
    | cons a l₂ => exact absurd (List.cons.inj h).1 fun e => h₂ (e ▸ List.mem_cons_self ..)
  | cons a l₁ ih =>
    cases l₂ with
    | nil => exact absurd (List.cons.inj h).1.symm fun e => h₁ (e ▸ List.mem_cons_self ..)
    | cons b l₂ =>
      obtain ⟨rfl, htail⟩ := List.cons.inj h
      obtain ⟨rfl, hr⟩ := ih (fun hc => h₁ (List.mem_cons_of_mem _ hc))
        (fun hc => h₂ (List.mem_cons_of_mem _ hc)) htail
      exact ⟨rfl, hr⟩

/-- **A lane identifies its device**, when adapter names contain no colon. -/
theorem physicalLane_inj {k k' : DeviceKey} (hk : ':' ∉ k.1.toList) (hk' : ':' ∉ k'.1.toList) :
    physicalLane k = physicalLane k' ↔ k = k' := by
  refine ⟨fun h => ?_, fun h => by rw [h]⟩
  have h := congrArg String.toList h
  simp only [physicalLane, String.toList_append, List.append_assoc, List.append_cancel_left_eq] at h
  obtain ⟨h₁, h₂⟩ := append_cons_inj hk hk' h
  exact Prod.ext (String.toList_injective h₁) (String.toList_injective h₂)

/-- No other lane looks like a device's. -/
theorem physicalLane_ne_fallbackLane (k : DeviceKey) (command : ControlCommand) :
    physicalLane k ≠ "control-plane" ∧ physicalLane k ≠ fallbackLane command := by
  -- the first letters differ
  have hp : (physicalLane k).toList.head? = some 'p' := by simp [physicalLane]
  constructor
  · intro h
    rw [h] at hp
    exact absurd hp (by decide)
  · intro h
    rw [h] at hp
    unfold fallbackLane at hp
    split_ifs at hp
    · simp at hp
    · simp at hp
    · exact absurd hp (by decide)

/-! ## The lane of a delivered command -/

theorem onlineTarget_eq_some {device : Option DeviceSnapshot} {target : RouteTarget} :
    onlineTarget device = some target ↔
      ∃ d, device = some d ∧ d.connection.online = true ∧ d.routeTarget = target := by
  cases device with
  | none => simp [onlineTarget]
  | some d => simp [onlineTarget, Option.ite_none_right_eq_some]

/-- A narrower lookup finds the device of a wider one, or nothing. -/
theorem onlineTarget_narrow {m : DeviceManager} {p q : DeviceSnapshot → Bool} {target : RouteTarget}
    (h : onlineTarget (m.getUnique p) = some target) (hq : ∀ d, q d = true → p d = true) :
    onlineTarget (m.getUnique q) = some target ∨ onlineTarget (m.getUnique q) = none := by
  obtain ⟨d, hd, hon, ht⟩ := onlineTarget_eq_some.1 h
  rcases scanUnique_narrow (DeviceManager.getUnique_eq_some.1 hd) hq with hs | hs
  · exact .inl (onlineTarget_eq_some.2 ⟨d, DeviceManager.getUnique_eq_some.2 hs, hon, ht⟩)
  · right
    rw [DeviceManager.getUnique, hs]
    rfl

/-- Reading an unspecified selector as an id or as a serial number gives the
    same device or nothing. -/
theorem resolveDevice_narrow {m : DeviceManager} {selector : String} {target : RouteTarget}
    (h : resolveDeviceKind m selector .unspecified = some target) (kind : DeviceSelectorKind) :
    resolveDeviceKind m selector kind = some target ∨ resolveDeviceKind m selector kind = none := by
  have hne : selector ≠ "" := by
    rintro rfl
    simp [resolveDeviceKind, resolveDevice] at h
  have hwide : onlineTarget (m.getUnique (matchesSelector selector)) = some target := by
    simpa [resolveDeviceKind, resolveDevice, hne] using h
  cases kind with
  | unspecified => exact .inl h
  | providerLocalId =>
    exact onlineTarget_narrow hwide fun d hd => by
      simp only [decide_eq_true_eq] at hd
      simp [matchesSelector, hd]
  | serialNumber =>
    simp only [resolveDeviceKind, DeviceManager.findBySerialNumber, if_neg hne]
    exact onlineTarget_narrow hwide fun d hd => by
      simp only [decide_eq_true_eq] at hd
      simp [matchesSelector, hd]

/-- **One physical device, one lane.**  Two commands that are delivered have
    the same lane exactly when they are delivered to the same device; that is
    never the lane of a command without a target; and an unspecified selector
    names the same device as an id or as a serial number, if any. -/
theorem one_device_one_lane (b : Broker) :
    (∀ {w w' : World} {c c' : ControlCommand} {k k' : DeviceKey}, Delivers b w c k →
      Delivers b w' c' k' → ':' ∉ k.1.toList → ':' ∉ k'.1.toList →
        (b.routeKey c = b.routeKey c' ↔ k = k')) ∧
    (∀ {w : World} {c c' : ControlCommand} {k : DeviceKey}, Delivers b w c k →
      (c'.method = "devices.list" ∨ (resolveCommandRoute b.devices c').target = none) →
        b.routeKey c' ≠ b.routeKey c) ∧
    (∀ {selector : String} {target : RouteTarget},
      resolveDeviceKind b.devices selector .unspecified = some target →
        (resolveDeviceKind b.devices selector .providerLocalId = some target ∨
          resolveDeviceKind b.devices selector .providerLocalId = none) ∧
        (resolveDeviceKind b.devices selector .serialNumber = some target ∨
          resolveDeviceKind b.devices selector .serialNumber = none)) := by
  refine ⟨?_, ?_, ?_⟩
  · intro w w' c c' k k' h h' hk hk'
    obtain ⟨hadm, target, ht, rfl⟩ := h.target
    obtain ⟨hadm', target', ht', rfl⟩ := h'.target
    rw [routeKey_of_target hadm.method ht, routeKey_of_target hadm'.method ht']
    exact physicalLane_inj hk hk'
  · intro w c c' k h hno
    obtain ⟨hadm, target, ht, rfl⟩ := h.target
    obtain ⟨hcp, hfb⟩ := physicalLane_ne_fallbackLane target.key c'
    rw [routeKey_of_target hadm.method ht]
    rcases routeKey_of_no_target hno with h | h
    · rw [h]; exact hcp.symm
    · rw [h]; exact hfb.symm
  · intro selector target h
    exact ⟨resolveDevice_narrow h .providerLocalId, resolveDevice_narrow h .serialNumber⟩

/-- A registry with one online device, whose adapter accepts every request. -/
def oneDeviceBroker : Broker :=
  Broker.registerAdapter
    ⟨⟨[⟨"d1", "axtp", {}, { online := true }, {}, "ep", .localProjection⟩]⟩, {}⟩
    { name := "axtp"
      call := fun _ => .ok {}
      callAsync := fun _ _ => .ok (some (.completed {}))
      startFirmwareUpdate := fun _ _ => .ok {} }

/-- The device addressed by its endpoint and by its id. -/
theorem one_device_one_lane_aliases :
    Delivers oneDeviceBroker {} { method := "m", src := "app", dst := "ep" } ("axtp", "d1") ∧
    Delivers oneDeviceBroker {} { method := "m", deviceId := "d1" } ("axtp", "d1") ∧
    oneDeviceBroker.routeKey { method := "m", src := "app", dst := "ep" } =
      oneDeviceBroker.routeKey { method := "m", deviceId := "d1" } := by
  have h : Delivers oneDeviceBroker {} { method := "m", src := "app", dst := "ep" }
      ("axtp", "d1") := ⟨_, rfl, rfl⟩
  have h' : Delivers oneDeviceBroker {} { method := "m", deviceId := "d1" } ("axtp", "d1") :=
    ⟨_, rfl, rfl⟩
  exact ⟨h, h', ((one_device_one_lane oneDeviceBroker).1 h h' (by decide) (by decide)).2 rfl⟩

end Axent
