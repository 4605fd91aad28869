/-
  The data model of the core (`include/axent/core/types.hpp`): devices as the
  registry stores them, control commands and their results.

  `toJson` is the device entry of `devices.list` (`src/core/json.cpp`).
-/
import Axent.Json

namespace Axent

/-! ## Enumerations -/

inductive ProtocolSource where
  | jsonRpc
  | legacyOp
  | localCli
  deriving DecidableEq, Repr

inductive ControlStatus where
  | ok
  | accepted
  | notFound
  | notSupported
  | forbidden
  | invalidArgument
  | unavailable
  | internalError
  | busy
  deriving DecidableEq, Repr

inductive EndpointDeliveryMode where
  | localProjection
  | nativeRelay
  deriving DecidableEq, Repr

/-- The namespace of a legacy physical selector. -/
inductive DeviceSelectorKind where
  | unspecified
  | providerLocalId
  | serialNumber
  deriving DecidableEq, Repr

/-- `control_status_name`. -/
def ControlStatus.name : ControlStatus → String
  | ok => "ok"
  | accepted => "accepted"
  | notFound => "not_found"
  | notSupported => "not_supported"
  | forbidden => "forbidden"
  | invalidArgument => "invalid_argument"
  | busy => "busy"
  | unavailable => "unavailable"
  | internalError => "internal_error"

/-! ## Devices -/

structure DeviceIdentity where
  vendor : String := ""
  model : String := ""
  serialNumber : String := ""
  firmwareVersion : String := ""
  hardwareVersion : String := ""
  deriving DecidableEq, Repr

structure DeviceConnection where
  online : Bool := false
  transport : String := ""
  lastChangeReason : String := ""
  deriving DecidableEq, Repr

structure DeviceStatus where
  health : String := "unknown"
  deriving DecidableEq, Repr

/-- A device as an adapter reports it and as the registry stores it.
    `endpointId` is the stable logical endpoint bound to it, empty when there
    is none. -/
structure DeviceSnapshot where
  id : String := ""
  adapter : String := ""
  identity : DeviceIdentity := {}
  connection : DeviceConnection := {}
  status : DeviceStatus := {}
  endpointId : String := ""
  endpointDeliveryMode : EndpointDeliveryMode := .localProjection
  deriving DecidableEq, Repr

/-- The adapter name and the provider-local id, which identify a physical
    device. -/
abbrev DeviceKey := String × String

namespace DeviceSnapshot

def key (d : DeviceSnapshot) : DeviceKey := (d.adapter, d.id)

/-- The device with another endpoint binding. -/
def withEndpoint (d : DeviceSnapshot) (e : String) : DeviceSnapshot := { d with endpointId := e }

/-- The device after it went offline for `reason`. -/
def offline (reason : String) (d : DeviceSnapshot) : DeviceSnapshot :=
  { d with connection := { d.connection with online := false, lastChangeReason := reason } }

@[simp] theorem key_withEndpoint (d : DeviceSnapshot) (e : String) :
    (d.withEndpoint e).key = d.key := rfl

@[simp] theorem endpointId_withEndpoint (d : DeviceSnapshot) (e : String) :
    (d.withEndpoint e).endpointId = e := rfl

@[simp] theorem withEndpoint_self (d : DeviceSnapshot) : d.withEndpoint d.endpointId = d := rfl

theorem adapter_of_key {d d' : DeviceSnapshot} (h : d.key = d'.key) : d.adapter = d'.adapter :=
  congrArg Prod.fst h

/-- `to_json` of a device; an unbound device has no `endpointId` member. -/
def toJson (d : DeviceSnapshot) : Json :=
  let result := Members.ofList [
    ("id", .string d.id),
    ("adapter", .string d.adapter),
    ("identity", .ofList [
      ("vendor", .string d.identity.vendor),
      ("model", .string d.identity.model),
      ("serialNumber", .string d.identity.serialNumber),
      ("firmwareVersion", .string d.identity.firmwareVersion),
      ("hardwareVersion", .string d.identity.hardwareVersion)]),
    ("connection", .ofList [
      ("online", .boolean d.connection.online),
      ("transport", .string d.connection.transport),
      ("lastChangeReason", .string d.connection.lastChangeReason)]),
    ("status", .ofList [("health", .string d.status.health)])]
  .object (if d.endpointId ≠ "" then result.set "endpointId" (.string d.endpointId) else result)

end DeviceSnapshot

/-! ## Commands and results -/

/-- A control command.  `src` and `dst` are logical endpoints; `deviceId` is
    the legacy physical selector, read in the namespace
    `deviceSelectorKind`. -/
structure ControlCommand where
  requestId : String := ""
  controlSessionId : String := ""
  method : String := ""
  deviceId : String := ""
  source : ProtocolSource := .jsonRpc
  params : Json := .object []
  src : String := ""
  dst : String := ""
  deviceSelectorKind : DeviceSelectorKind := .unspecified

structure ControlResult where
  status : ControlStatus := .ok
  body : Json := .object []

/-- The result that reports `message` as its error. -/
def ControlResult.failure (status : ControlStatus) (message : String) : ControlResult :=
  ⟨status, .ofList [("error", .string message)]⟩

/-- `is_success`. -/
def ControlStatus.isSuccess (status : ControlStatus) : Bool := status = .ok ∨ status = .accepted

end Axent
