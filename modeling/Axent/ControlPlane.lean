/-
  The control plane (`src/control/control_plane.cpp`): a message is decoded,
  dispatched by the broker and answered.

  * `jsonRpc_envelope`: what every response to a JSON-RPC message looks like,
    whatever the registry and the adapters do, and that a half-addressed
    message has no effect;
  * `selectors_ignored`: an addressed message is handled the same whatever
    physical selectors its parameters hold;
  * `legacy_correlated`: a legacy response can be matched with its request
    exactly when the request's `sid` fits in 32 bits.
-/
import Mathlib.Algebra.Group.Int.Defs
import Axent.Broker
import Axent.Codec

namespace Axent

open Lib

namespace ControlPlane

/-- `route_key` of a message. -/
def routeKey (b : Broker) (message : Json) : String :=
  b.routeKey (decodeControlMessage message).command

/-- The result of a message: a decoding error never reaches the broker. -/
def controlResult (b : Broker) (message : Json) (w : World) : ControlResult × World :=
  let decoded := decodeControlMessage message
  match decoded.validationError with
  | some error => (.failure .invalidArgument error, w)
  | none => b.dispatch decoded.command w

/-- `handle_text`. -/
def handleText (b : Broker) (message : Json) (w : World) : Json × World :=
  let result := controlResult b message w
  (encodeControlResponse (decodeControlMessage message) result.1, result.2)

end ControlPlane

open ControlPlane

/-! ## Addressed messages -/

/-- The message travels from the endpoint `src` to the endpoint `dst`. -/
structure Addressed (message : Json) (src dst : String) : Prop where
  src_eq : message.find "src" = some (.string src)
  dst_eq : message.find "dst" = some (.string dst)
  src_ne : src ≠ ""
  dst_ne : dst ≠ ""

theorem Addressed.src_unique {message : Json} {src dst src' dst' : String}
    (h : Addressed message src dst) (h' : Addressed message src' dst') : src = src' := by
  have := h.src_eq.symm.trans h'.src_eq
  simpa using this

theorem Addressed.dst_unique {message : Json} {src dst src' dst' : String}
    (h : Addressed message src dst) (h' : Addressed message src' dst') : dst = dst' := by
  have := h.dst_eq.symm.trans h'.dst_eq
  simpa using this

theorem Json.bind_getString {j : Option Json} {s : String} :
    j.bind Json.getString = some s ↔ j = some (.string s) := by
  cases j with
  | none => simp
  | some j => cases j <;> simp [Json.getString]

theorem decodeRoutingFields_addressed {message : Json} {src dst : String}
    (h : Addressed message src dst) (command : ControlCommand) :
    decodeRoutingFields message command = .ok { command with src := src, dst := dst } := by
  unfold decodeRoutingFields
  rw [if_neg (by simp [Json.contains, h.src_eq])]
  simp [h.src_eq, h.dst_eq, Json.getString, h.src_ne, h.dst_ne]

theorem decodeRoutingFields_malformed {message : Json}
    (hp : message.contains "src" = true ∨ message.contains "dst" = true)
    (h : ∀ src dst, ¬ Addressed message src dst) (command : ControlCommand) :
    decodeRoutingFields message command = .error routingFieldsError := by
  unfold decodeRoutingFields
  rw [if_neg (by tauto)]
  split
  · next src dst hs hd =>
    rw [Json.bind_getString] at hs hd
    rw [if_pos]
    by_contra hne
    rw [not_or] at hne
    exact h src dst ⟨hs, hd, hne.1, hne.2⟩
  · rfl

theorem decodeRoutingFields_unaddressed {message : Json} (hs : message.contains "src" = false)
    (hd : message.contains "dst" = false) (command : ControlCommand) :
    decodeRoutingFields message command = .ok command := by
  unfold decodeRoutingFields
  rw [if_pos (by simp [hs, hd])]

/-- The parameters without the physical selectors. -/
def withoutSelectors (params : Members) : Members :=
  (params.erase "deviceId").erase "serialNumber"

theorem decodeControlMessage_addressed {message : Json} {src dst : String}
    (hj : message.contains "jsonrpc" = true) (ha : Addressed message src dst) :
    decodeControlMessage message =
      ⟨{ source := .jsonRpc
         requestId := requestIdForLog ((message.find "id").getD .null)
         method := optionalString message "method"
         params := .object (withoutSelectors (objectOrEmpty message "params"))
         src := src
         dst := dst }, optionalString message "method", (message.find "id").getD .null, message,
        none⟩ := by
  rw [decodeControlMessage, if_pos hj, decodeJsonRpc]
  simp only [decodeRoutingFields_addressed ha, ha.dst_ne, if_false]
  rfl

/-- What decoding a JSON-RPC message can give: it is addressed, malformed or
    not addressed at all. -/
inductive JsonRpcDecoded (message : Json) : DecodedControlMessage → Prop
  | addressed {src dst : String} (h : Addressed message src dst) :
      JsonRpcDecoded message
        ⟨{ source := .jsonRpc
           requestId := requestIdForLog ((message.find "id").getD .null)
           method := optionalString message "method"
           params := .object (((objectOrEmpty message "params").erase "deviceId").erase
            "serialNumber")
           src := src
           dst := dst }, optionalString message "method", (message.find "id").getD .null, message,
          none⟩
  | malformed (hp : message.contains "src" = true ∨ message.contains "dst" = true)
      (h : ∀ src dst, ¬ Addressed message src dst) {command : ControlCommand}
      (hsource : command.source = .jsonRpc) (hsrc : command.src = "") (hdst : command.dst = "") :
      JsonRpcDecoded message
        ⟨command, command.method, (message.find "id").getD .null, message, some routingFieldsError⟩
  | unaddressed (hs : message.contains "src" = false) (hd : message.contains "dst" = false)
      {command : ControlCommand} (hsource : command.source = .jsonRpc) (hsrc : command.src = "")
      (hdst : command.dst = "") :
      JsonRpcDecoded message
        ⟨command, command.method, (message.find "id").getD .null, message, none⟩

theorem fillLegacyDestination_envelope (command : ControlCommand) (params : Json) (prefer : Bool) :
    (fillLegacyDestination command params prefer).source = command.source ∧
      (fillLegacyDestination command params prefer).src = command.src ∧
      (fillLegacyDestination command params prefer).dst = command.dst := by
  simp only [fillLegacyDestination]
  split_ifs <;> exact ⟨rfl, rfl, rfl⟩

theorem fillLegacyDestination_requestId (command : ControlCommand) (params : Json)
    (prefer : Bool) :
    (fillLegacyDestination command params prefer).requestId = command.requestId := by
  simp only [fillLegacyDestination]
  split_ifs <;> rfl

theorem decodeControlMessage_jsonRpc {message : Json} (hj : message.contains "jsonrpc" = true) :
    JsonRpcDecoded message (decodeControlMessage message) := by
  by_cases ha : ∃ src dst, Addressed message src dst
  · obtain ⟨src, dst, ha⟩ := ha
    rw [decodeControlMessage_addressed hj ha]
    exact .addressed ha
  · push Not at ha
    rw [decodeControlMessage, if_pos hj]
    unfold decodeJsonRpc
    by_cases hp : message.contains "src" = true ∨ message.contains "dst" = true
    · simp only [decodeRoutingFields_malformed hp ha]
      exact .malformed hp ha rfl rfl rfl
    · obtain ⟨hs, hd⟩ := not_or.1 hp
      rw [Bool.not_eq_true] at hs hd
      simp only [decodeRoutingFields_unaddressed hs hd, if_true]
      obtain ⟨h₁, h₂, h₃⟩ := fillLegacyDestination_envelope
        { source := .jsonRpc
          requestId := requestIdForLog ((message.find "id").getD .null)
          method := optionalString message "method"
          params := .object (objectOrEmpty message "params") }
        (.object (objectOrEmpty message "params")) false
      exact .unaddressed hs hd h₁ h₂ h₃

/-! ## The response envelope -/

theorem encodeControlResponse_jsonRpc {decoded : DecodedControlMessage}
    (hs : decoded.command.source = .jsonRpc) (result : ControlResult) :
    (encodeControlResponse decoded result).find "id" = some decoded.jsonRpcId ∧
    (encodeControlResponse decoded result).find "result" =
      (if result.status.isSuccess then some result.body else none) ∧
    (encodeControlResponse decoded result).find "error" =
      (if result.status.isSuccess then none else some (jsonRpcError result)) := by
  unfold encodeControlResponse
  rw [if_pos hs]
  unfold addJsonRpcRoutingEnvelope
  cases result.status.isSuccess <;> split_ifs <;>
    simp [Members.ofList, Members.lookup_set]

theorem encodeControlResponse_endpoints {decoded : DecodedControlMessage}
    (hs : decoded.command.source = .jsonRpc) (result : ControlResult) :
    (encodeControlResponse decoded result).find "src" =
      (if decoded.command.dst ≠ "" ∧ decoded.command.src ≠ "" then
        some (.string decoded.command.dst) else none) ∧
    (encodeControlResponse decoded result).find "dst" =
      (if decoded.command.dst ≠ "" ∧ decoded.command.src ≠ "" then
        some (.string decoded.command.src) else none) := by
  unfold encodeControlResponse
  rw [if_pos hs]
  unfold addJsonRpcRoutingEnvelope
  cases result.status.isSuccess <;> split_ifs <;>
    simp [Members.ofList, Members.lookup_set]

/-- A JSON-RPC response does not depend on the original message otherwise. -/
theorem encodeControlResponse_original {decoded decoded' : DecodedControlMessage}
    (hs : decoded.command.source = .jsonRpc) (hc : decoded'.command = decoded.command)
    (hid : decoded'.jsonRpcId = decoded.jsonRpcId) (result : ControlResult) :
    encodeControlResponse decoded' result = encodeControlResponse decoded result := by
  unfold encodeControlResponse addJsonRpcRoutingEnvelope
  rw [hc, if_pos hs, if_pos hs, hid]

/-- **The JSON-RPC envelope.**  The response echoes the id, holds exactly one
    of `result` and `error`, and swaps the endpoints of an addressed message.
    A message with an endpoint that is not addressed is answered with an
    invalid-argument error and has no effect. -/
theorem jsonRpc_envelope (b : Broker) (w : World) {message : Json}
    (hj : message.contains "jsonrpc" = true) :
    (handleText b message w).1.find "id" = some ((message.find "id").getD .null) ∧
    ((controlResult b message w).1.status.isSuccess = true →
      (handleText b message w).1.contains "result" = true ∧
        (handleText b message w).1.contains "error" = false) ∧
    ((controlResult b message w).1.status.isSuccess = false →
      (handleText b message w).1.contains "result" = false ∧
        (handleText b message w).1.contains "error" = true) ∧
    (∀ src dst, Addressed message src dst →
      (handleText b message w).1.find "src" = some (.string dst) ∧
        (handleText b message w).1.find "dst" = some (.string src)) ∧
    ((∀ src dst, ¬ Addressed message src dst) →
      (handleText b message w).1.contains "src" = false ∧
        (handleText b message w).1.contains "dst" = false) ∧
    (message.contains "src" = true ∨ message.contains "dst" = true →
      (∀ src dst, ¬ Addressed message src dst) →
        (handleText b message w).1.find "error" =
          some (jsonRpcError (.failure .invalidArgument routingFieldsError)) ∧
        (handleText b message w).2 = w) := by
  have hdec := decodeControlMessage_jsonRpc hj
  unfold handleText controlResult
  generalize decodeControlMessage message = decoded at hdec ⊢
  -- the source of the command is JSON-RPC and the id is the message's, in every case
  have hsource : decoded.command.source = .jsonRpc := by
    cases hdec with
    | addressed => rfl
    | malformed _ _ h | unaddressed _ _ h => exact h
  have hid : decoded.jsonRpcId = (message.find "id").getD .null := by
    cases hdec <;> rfl
  simp only
  refine ⟨?_, fun hok => ?_, fun hok => ?_, ?_, ?_, ?_⟩
  · rw [(encodeControlResponse_jsonRpc hsource _).1, hid]
  · obtain ⟨-, hres, herr⟩ := encodeControlResponse_jsonRpc hsource _
    constructor
    · rw [Json.contains, hres, if_pos hok]; rfl
    · rw [Json.contains, herr, if_pos hok]; rfl
  · obtain ⟨-, hres, herr⟩ := encodeControlResponse_jsonRpc hsource _
    rw [← Bool.not_eq_true] at hok
    constructor
    · rw [Json.contains, hres, if_neg hok]; rfl
    · rw [Json.contains, herr, if_neg hok]; rfl
  · intro src dst ha
    obtain ⟨hsrc, hdst⟩ := encodeControlResponse_endpoints hsource _
    have hcmd : decoded.command.src = src ∧ decoded.command.dst = dst := by
      cases hdec with
      | addressed ha' => exact ⟨ha'.src_unique ha, ha'.dst_unique ha⟩
      | malformed _ hno => exact absurd ha (hno src dst)
      | unaddressed hs => exact absurd hs (by simp [Json.contains, ha.src_eq])
    rw [hcmd.1, hcmd.2, if_pos ⟨ha.dst_ne, ha.src_ne⟩] at hsrc hdst
    exact ⟨hsrc, hdst⟩
  · intro hno
    obtain ⟨hsrc, hdst⟩ := encodeControlResponse_endpoints hsource _
    have hcmd : decoded.command.dst = "" := by
      cases hdec with
      | addressed ha => exact absurd ha (hno _ _)
      | malformed _ _ _ _ h | unaddressed _ _ _ _ h => exact h
    rw [if_neg fun h => h.1 hcmd] at hsrc hdst
    exact ⟨by rw [Json.contains, hsrc]; rfl, by rw [Json.contains, hdst]; rfl⟩
  · intro hp hno
    cases hdec with
    | addressed ha => exact absurd ha (hno _ _)
    | unaddressed hs hd => rw [hs, hd] at hp; simp at hp
    | malformed => exact ⟨(encodeControlResponse_jsonRpc hsource _).2.2, rfl⟩

/-- A half-addressed message: the paused broker does not even count a drop. -/
theorem jsonRpc_envelope_half_addressed :
    (handleText {} (.ofList [("jsonrpc", .string "2.0"), ("src", .string "app")])
      { flowControl := ⟨true, 0⟩ }).2 = { flowControl := ⟨true, 0⟩ } := by
  have hj : (Json.ofList [("jsonrpc", .string "2.0"), ("src", .string "app")]).contains "jsonrpc" =
      true := by decide
  obtain ⟨-, -, -, -, -, hbad⟩ := jsonRpc_envelope {} { flowControl := ⟨true, 0⟩ } hj
  refine (hbad (.inl (by decide)) fun src dst ha => ?_).2
  have := ha.dst_eq
  simp [Json.ofList, Members.ofList, Members.lookup_set] at this

/-! ## Physical selectors of an addressed message -/

/-- The messages differ at most in `params.deviceId` and
    `params.serialNumber`. -/
structure DifferInSelectors (message message' : Json) : Prop where
  others : ∀ key, key ≠ "params" → message.find key = message'.find key
  params : message.find "params" = message'.find "params" ∨
    ∃ ps ps', message.find "params" = some (.object ps) ∧
      message'.find "params" = some (.object ps') ∧ withoutSelectors ps = withoutSelectors ps'

theorem DifferInSelectors.withoutSelectors_eq {message message' : Json}
    (h : DifferInSelectors message message') :
    withoutSelectors (objectOrEmpty message "params") =
      withoutSelectors (objectOrEmpty message' "params") := by
  unfold objectOrEmpty
  rcases h.params with h | ⟨ps, ps', h₁, h₂, h⟩
  · rw [h]
  · rw [h₁, h₂]
    exact h

theorem lookup_withoutSelectors (params : Members) {key : String}
    (hk : key = "deviceId" ∨ key = "serialNumber") :
    (withoutSelectors params).lookup key = none := by
  rw [withoutSelectors, Members.lookup_erase, Members.lookup_erase]
  rcases hk with rfl | rfl <;> simp

/-- **Physical selectors cannot influence an addressed request.**  Two
    messages that differ only in them get the same response and the same lane,
    have the same effects, and no request handed to an adapter has them. -/
theorem selectors_ignored (b : Broker) (w : World) {message message' : Json} {src dst : String}
    (hj : message.contains "jsonrpc" = true) (ha : Addressed message src dst)
    (h : DifferInSelectors message message') :
    handleText b message w = handleText b message' w ∧
    routeKey b message = routeKey b message' ∧
    ∃ handed : List AdapterCall,
      (handleText b message w).2.calls = w.calls ++ handed ∧
      (handleText b message' w).2.calls = w.calls ++ handed ∧
      ∀ call ∈ handed, call.request.params.contains "deviceId" = false ∧
        call.request.params.contains "serialNumber" = false := by
  have hj' : message'.contains "jsonrpc" = true := by
    rwa [Json.contains, ← h.others "jsonrpc" (by decide)]
  have ha' : Addressed message' src dst :=
    ⟨(h.others "src" (by decide)).symm.trans ha.src_eq,
      (h.others "dst" (by decide)).symm.trans ha.dst_eq, ha.src_ne, ha.dst_ne⟩
  -- both messages decode to the same command
  have hdec := decodeControlMessage_addressed hj ha
  have hdec' := decodeControlMessage_addressed hj' ha'
  have hmethod : optionalString message "method" = optionalString message' "method" := by
    rw [optionalString, h.others "method" (by decide)]; rfl
  rw [h.others "id" (by decide), hmethod, h.withoutSelectors_eq] at hdec
  have hcommand :
      (decodeControlMessage message).command = (decodeControlMessage message').command := by
    rw [hdec, hdec']
  have hresult : ∀ {m : Json}, (decodeControlMessage m).validationError = none →
      controlResult b m w = b.dispatch (decodeControlMessage m).command w := fun hm => by
    simp only [controlResult, hm]
  have hr := hresult (show (decodeControlMessage message).validationError = none by rw [hdec])
  have hr' := hresult (show (decodeControlMessage message').validationError = none by rw [hdec'])
  have hsame : handleText b message w = handleText b message' w := by
    have hencode := encodeControlResponse_original (by rw [hdec']) hcommand (by rw [hdec, hdec'])
    simp only [handleText, hr, hr', hcommand, hencode]
  refine ⟨hsame, by rw [routeKey, routeKey, hcommand], ?_⟩
  obtain ⟨handed, hcalls, hparams⟩ := dispatch_calls b (decodeControlMessage message').command w
  have heffect : (handleText b message' w).2 =
      (b.dispatch (decodeControlMessage message').command w).2 := by
    unfold handleText
    rw [hr']
  refine ⟨handed, by rw [hsame, heffect, hcalls], by rw [heffect, hcalls], fun call hcall => ?_⟩
  have hp := hparams call hcall
  rw [hdec'] at hp
  rw [hp]
  simp only [Json.contains, Json.find_object]
  rw [lookup_withoutSelectors _ (.inl rfl), lookup_withoutSelectors _ (.inr rfl)]
  exact ⟨rfl, rfl⟩

/-- A message that also names another device, and one that does not. -/
theorem selectors_ignored_other_device :
    handleText oneDeviceBroker (.ofList [("jsonrpc", .string "2.0"), ("method", .string "m"),
        ("src", .string "app"), ("dst", .string "ep"),
        ("params", .ofList [("deviceId", .string "d2"), ("on", .boolean true)])]) {} =
      handleText oneDeviceBroker (.ofList [("jsonrpc", .string "2.0"), ("method", .string "m"),
        ("src", .string "app"), ("dst", .string "ep"),
        ("params", .ofList [("on", .boolean true)])]) {} := by
  refine (selectors_ignored oneDeviceBroker {} (by decide)
    (show Addressed _ "app" "ep" from ⟨rfl, rfl, by decide, by decide⟩)
    ⟨fun key hk => ?_, .inr ⟨Members.ofList [("deviceId", .string "d2"), ("on", .boolean true)],
      Members.ofList [("on", .boolean true)], rfl, rfl, rfl⟩⟩).1
  simp [Json.ofList, Members.ofList, Members.lookup_set, hk]

/-! ## Correlating legacy responses -/

/-- A legacy request: no `jsonrpc`, an integer `sid` and the strings `d.id`
    and `d.method`. -/
structure LegacyRequest (message : Json) (sid : ℤ) (id method : String) : Prop where
  legacy : message.contains "jsonrpc" = false
  sid_eq : (message.find "sid").bind Json.getInteger = some sid
  id_eq : (message.find "d").bind (Json.find "id") = some (.string id)
  method_eq : (message.find "d").bind (Json.find "method") = some (.string method)

/-- The response names the request it answers and says whether it
    succeeded. -/
structure LegacyResponse (response : Json) (sid : ℤ) (id method : String)
    (status : ControlStatus) : Prop where
  op_eq : response.find "op" = some (.numberInteger 8)
  sid_eq : (response.find "sid").bind Json.getInteger = some sid
  id_eq : (response.find "d").bind (Json.find "id") = some (.string id)
  method_eq : (response.find "d").bind (Json.find "method") = some (.string method)
  result_eq : ((response.find "d").bind (Json.find "status")).bind (Json.find "result") =
    some (.boolean (status = .ok ∨ status = .accepted))

namespace LegacyRequest
variable {message : Json} {sid : ℤ} {id method : String}

theorem object_d (h : LegacyRequest message sid id method) :
    ∃ d, message.find "d" = some (.object d) := by
  have hid := h.id_eq
  cases hd : message.find "d" with
  | none => rw [hd] at hid; simp at hid
  | some j =>
    rw [hd] at hid
    cases j with
    | object d => exact ⟨d, rfl⟩
    | _ => simp [Json.find] at hid

theorem decode (h : LegacyRequest message sid id method) :
    (decodeControlMessage message).original = message ∧
    (decodeControlMessage message).command.source = .legacyOp ∧
    (decodeControlMessage message).command.requestId = id ∧
    (decodeControlMessage message).wireMethod = method := by
  obtain ⟨d, hd⟩ := h.object_d
  have hid := h.id_eq
  have hmethod := h.method_eq
  simp only [hd, Option.bind_some, Json.find_object] at hid hmethod
  rw [decodeControlMessage, if_neg (by simp [h.legacy]), decodeLegacy]
  have hobj : objectOrEmpty message "d" = d := by rw [objectOrEmpty, hd]
  refine ⟨rfl, ?_, ?_, ?_⟩
  · exact (fillLegacyDestination_envelope ..).1
  · rw [fillLegacyDestination_requestId]
    simp only [hobj, optionalString, Json.find_object, hid, Option.bind_some, Json.getString,
      Option.getD_some]
  · simp only [hobj, optionalString, Json.find_object, hmethod, Option.bind_some, Json.getString,
      Option.getD_some]

end LegacyRequest

/-- An integer narrowed to 32 bits is itself when it fits. -/
theorem bmod_eq_self_iff (x : ℤ) : x.bmod (2 ^ 32) = x ↔ -2 ^ 31 ≤ x ∧ x < 2 ^ 31 := by
  rw [Int.bmod_def]
  omega

theorem intOrDefault_toInt {object : Json} {key : String} {i : ℤ}
    (h : (object.find key).bind Json.getInteger = some i) (default : Int32) :
    (intOrDefault object key default).toInt = i.bmod (2 ^ 32) := by
  unfold intOrDefault
  cases hj : object.find key with
  | none => simp [hj] at h
  | some j =>
    cases j with
    | numberInteger n =>
      simp only [hj, Option.bind_some, Json.getInteger, Option.some.injEq] at h
      rw [← h, Int64.toInt_toInt32]
    | numberUnsigned n =>
      simp only [hj, Option.bind_some, Json.getInteger, Option.some.injEq] at h
      have hn : n.toInt64.toInt = (n.toNat : ℤ).bmod (2 ^ 64) := BitVec.toInt_eq_toNat_bmod _
      rw [← h, Int64.toInt_toInt32, hn, Int.bmod_bmod_of_dvd (by decide)]
    | _ => simp [hj, Json.getInteger] at h

theorem encodeControlResponse_legacy {decoded : DecodedControlMessage}
    (hs : decoded.command.source = .legacyOp) (result : ControlResult) :
    (encodeControlResponse decoded result).find "op" = some (.numberInteger 8) ∧
    (encodeControlResponse decoded result).find "sid" =
      some (.numberInteger (intOrDefault decoded.original "sid" 0).toInt64) ∧
    ((encodeControlResponse decoded result).find "d").bind (Json.find "id") =
      some (.string decoded.command.requestId) ∧
    ((encodeControlResponse decoded result).find "d").bind (Json.find "method") =
      some (.string decoded.wireMethod) ∧
    (((encodeControlResponse decoded result).find "d").bind (Json.find "status")).bind
      (Json.find "result") = some (.boolean result.status.isSuccess) := by
  unfold encodeControlResponse
  rw [if_neg (by simp [hs])]
  simp [Json.ofList, Members.ofList, Members.lookup_set]

/-- **A legacy response can be correlated exactly when the `sid` fits in 32
    bits**, whatever the registry and the adapters do: the response always
    echoes the id and the unmapped method and reports the status, but its
    `sid` is the low half of the request's. -/
theorem legacy_correlated (b : Broker) (w : World) {message : Json} {sid : ℤ} {id method : String}
    (h : LegacyRequest message sid id method) :
    LegacyResponse (handleText b message w).1 sid id method
        (controlResult b message w).1.status ↔
      -2 ^ 31 ≤ sid ∧ sid < 2 ^ 31 := by
  obtain ⟨horig, hsource, hid, hmethod⟩ := h.decode
  obtain ⟨hop, hsid, hrid, hrmethod, hresult⟩ :=
    encodeControlResponse_legacy hsource (controlResult b message w).1
  rw [horig] at hsid
  rw [hid] at hrid
  rw [hmethod] at hrmethod
  have hecho : ((handleText b message w).1.find "sid").bind Json.getInteger =
      some (sid.bmod (2 ^ 32)) := by
    rw [handleText, hsid, Option.bind_some, Json.getInteger, Int32.toInt_toInt64,
      intOrDefault_toInt h.sid_eq]
  rw [← bmod_eq_self_iff]
  constructor
  · intro hr
    exact Option.some.inj (hecho.symm.trans hr.sid_eq)
  · intro hfit
    exact ⟨hop, hecho.trans (congrArg some hfit), hrid, hrmethod, hresult⟩

/-- A legacy request for the devices. -/
def deviceListRequest (sid : UInt64) : Json :=
  .ofList [("op", .numberUnsigned 7), ("sid", .numberUnsigned sid),
    ("d", .ofList [("id", .string "r1"), ("method", .string "GetDeviceList")])]

theorem deviceListRequest_legacy (sid : UInt64) :
    LegacyRequest (deviceListRequest sid) sid.toNat "r1" "GetDeviceList" := by
  refine ⟨?_, ?_, ?_, ?_⟩ <;>
    simp [deviceListRequest, Json.contains, Json.ofList, Members.ofList, Members.lookup_set,
      Json.getInteger]

/-- A small `sid` comes back. -/
theorem legacy_correlated_small :
    LegacyResponse (handleText {} (deviceListRequest 7) {}).1 7 "r1" "GetDeviceList"
      (controlResult {} (deviceListRequest 7) {}).1.status :=
  (legacy_correlated {} {} (deviceListRequest_legacy 7)).2 (by decide)

/-- The response to a `sid` of 33 bits names another request. -/
theorem legacy_response_misdirected :
    LegacyRequest (deviceListRequest 4294967297) 4294967297 "r1" "GetDeviceList" ∧
    ((handleText {} (deviceListRequest 4294967297) {}).1.find "sid").bind Json.getInteger =
      some 1 ∧
    ¬ LegacyResponse (handleText {} (deviceListRequest 4294967297) {}).1 4294967297 "r1"
      "GetDeviceList" (controlResult {} (deviceListRequest 4294967297) {}).1.status := by
  have hsid : ((handleText {} (deviceListRequest 4294967297) {}).1.find "sid").bind
      Json.getInteger = some 1 := by decide +kernel
  refine ⟨deviceListRequest_legacy 4294967297, hsid, fun h => ?_⟩
  have := hsid.symm.trans h.sid_eq
  simp at this

end Axent
