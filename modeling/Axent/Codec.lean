/-
  The wire formats of the control plane (`src/control/protocol_codecs.cpp`):
  JSON-RPC messages and the legacy `op`/`sid`/`d` messages are decoded into one
  command, and its result is encoded in the format of the request.

  A JSON-RPC message may be addressed by the endpoints `src` and `dst`.  The
  physical selectors `deviceId` and `serialNumber` in its parameters are only
  read when it is not, and erased when it is.
-/
import Axent.Types

namespace Axent

structure DecodedControlMessage where
  command : ControlCommand := {}
  wireMethod : String := ""
  jsonRpcId : Json := .null
  original : Json := .null
  validationError : Option String := none

/-! ## Reading members -/

/-- `map_legacy_method`. -/
def mapLegacyMethod (method : String) : String :=
  (List.lookup method [
    ("GetDeviceList", "devices.list"),
    ("GetDeviceInfo", "device.info"),
    ("StartDeviceUpgrade", "firmware.update"),
    ("StartAgentUpgrade", "agent.update"),
    ("StartDeviceReboot", "control.reboot"),
    ("StartAgentReboot", "agent.reboot"),
    ("SetDeviceMute", "audio.mute.set"),
    ("GetDeviceMute", "audio.mute.get"),
    ("SetDeviceVolume", "audio.volume.set"),
    ("GetDeviceVolume", "audio.volume.get")]).getD method

/-- `optional_string`. -/
def optionalString (object : Json) (key : String) : String :=
  ((object.find key).bind Json.getString).getD ""

/-- `request_id_for_log`: strings and integers only. -/
def requestIdForLog : Json → String
  | .string s => s
  | .numberInteger i => toString i
  | .numberUnsigned n => toString n
  | _ => ""

/-- The members of `object_or_empty`. -/
def objectOrEmpty (object : Json) (key : String) : Members :=
  match object.find key with
  | some (.object ms) => ms
  | _ => []

/-- `int_or_default`: an integer is narrowed to 32 bits. -/
def intOrDefault (object : Json) (key : String) (defaultValue : Int32) : Int32 :=
  match object.find key with
  | some (.numberInteger i) => i.toInt32
  | some (.numberUnsigned n) => n.toInt64.toInt32
  | _ => defaultValue

/-! ## Decoding -/

/-- The error of a message that is only half addressed. -/
def routingFieldsError : String :=
  "JSON-RPC src and dst must be provided together as non-empty strings"

/-- `decode_routing_fields`: the error, or the command with its endpoints. -/
def decodeRoutingFields (object : Json) (command : ControlCommand) :
    Except String ControlCommand :=
  if ¬ object.contains "src" ∧ ¬ object.contains "dst" then .ok command
  else
    match (object.find "src").bind Json.getString, (object.find "dst").bind Json.getString with
    | some src, some dst =>
      if src = "" ∨ dst = "" then .error routingFieldsError
      else .ok { command with src := src, dst := dst }
    | _, _ => .error routingFieldsError

/-- `fill_legacy_destination`. -/
def fillLegacyDestination (command : ControlCommand) (params : Json) (preferSerialNumber : Bool) :
    ControlCommand :=
  let deviceId := optionalString params "deviceId"
  let serialNumber := optionalString params "serialNumber"
  if preferSerialNumber ∧ serialNumber ≠ "" then
    { command with deviceId := serialNumber, deviceSelectorKind := .serialNumber }
  else if deviceId ≠ "" then
    { command with deviceId := deviceId, deviceSelectorKind := .providerLocalId }
  else if serialNumber ≠ "" then
    { command with deviceId := serialNumber, deviceSelectorKind := .serialNumber }
  else command

/-- Decoding a JSON-RPC message. -/
def decodeJsonRpc (message : Json) : DecodedControlMessage :=
  let jsonRpcId := (message.find "id").getD .null
  let params := objectOrEmpty message "params"
  let command : ControlCommand :=
    { source := .jsonRpc
      requestId := requestIdForLog jsonRpcId
      method := optionalString message "method"
      params := .object params }
  match decodeRoutingFields message command with
  | .error error => ⟨command, command.method, jsonRpcId, message, some error⟩
  | .ok command =>
    let command :=
      if command.dst = "" then fillLegacyDestination command command.params false
      else { command with params := .object ((params.erase "deviceId").erase "serialNumber") }
    ⟨command, command.method, jsonRpcId, message, none⟩

/-- Decoding a legacy message. -/
def decodeLegacy (message : Json) : DecodedControlMessage :=
  let d : Json := .object (objectOrEmpty message "d")
  let wireMethod := optionalString d "method"
  let command : ControlCommand :=
    { source := .legacyOp
      requestId := optionalString d "id"
      method := mapLegacyMethod wireMethod
      params := .object (objectOrEmpty d "params") }
  ⟨fillLegacyDestination command command.params true, wireMethod, .null, message, none⟩

/-- `decode_control_message`. -/
def decodeControlMessage (message : Json) : DecodedControlMessage :=
  if message.contains "jsonrpc" then decodeJsonRpc message else decodeLegacy message

/-! ## Encoding -/

/-- `json_rpc_error_code`. -/
def jsonRpcErrorCode : ControlStatus → Int64
  | .ok => 0
  | .accepted => 1
  | .notFound => -32004
  | .notSupported => -32006
  | .forbidden => -32003
  | .invalidArgument => -32602
  | .busy => -32005
  | .unavailable => -32001
  | .internalError => -32603

/-- `add_json_rpc_routing_envelope`: a reply travels back. -/
def addJsonRpcRoutingEnvelope (response : Members) (decoded : DecodedControlMessage) : Members :=
  if decoded.command.dst ≠ "" ∧ decoded.command.src ≠ "" then
    (response.set "src" (.string decoded.command.dst)).set "dst" (.string decoded.command.src)
  else response

/-- The `error` member of a JSON-RPC response. -/
def jsonRpcError (result : ControlResult) : Json :=
  .ofList [
    ("code", .numberInteger (jsonRpcErrorCode result.status)),
    ("message", .string result.status.name),
    ("data", result.body)]

/-- `encode_control_response`. -/
def encodeControlResponse (decoded : DecodedControlMessage) (result : ControlResult) : Json :=
  if decoded.command.source = .jsonRpc then
    let outcome :=
      if result.status.isSuccess then ("result", result.body) else ("error", jsonRpcError result)
    .object (addJsonRpcRoutingEnvelope
      (Members.ofList [("jsonrpc", .string "2.0"), ("id", decoded.jsonRpcId), outcome]) decoded)
  else
    .ofList [
      ("op", .numberInteger 8),
      ("sid", .numberInteger (intOrDefault decoded.original "sid" 0).toInt64),
      ("d", .ofList [
        ("id", .string decoded.command.requestId),
        ("method", .string decoded.wireMethod),
        ("status", .ofList [
          ("result", .boolean result.status.isSuccess),
          ("code", .numberInteger (if result.status.isSuccess then 100 else 500)),
          ("comment", .string result.status.name)]),
        ("result", result.body)])]

end Axent
