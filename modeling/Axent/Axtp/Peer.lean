/-
  What a leaf `AxtpAdapter` reads in the messages of its peer
  (`src/adapters/axtp_adapter.cpp`): the states of a source, the capabilities of a
  stream kind, and the codec of an opened stream.

  `nlohmann::json::value` throws when a member has another type than its default,
  and the adapter does not catch it.  The functions that may throw return an option.
-/
import Axent.Json
import Axent.Axtp.Streams

namespace Axent

namespace Json

/-- `json_string_or`. -/
def stringOr (j : Json) (key : String) (fallback : String := "") : String :=
  match j.find key with
  | some (.string s) => s
  | _ => fallback

/-- `json_u32_or`. -/
def u32Or (j : Json) (key : String) (fallback : ℕ := 0) : ℕ :=
  match j.find key with
  | some (.numberUnsigned n) => n.toNat % 2 ^ 32
  | some (.numberInteger i) => if 0 < i.toInt then i.toInt.toNat % 2 ^ 32 else fallback
  | _ => fallback

/-- `value(key, false)`; nothing if it throws. -/
def flag (j : Json) (key : String) : Option Bool :=
  match j.find key with
  | none => some false
  | some (.boolean b) => some b
  | some _ => none

/-- The elements of a member that is an array. -/
def elements (j : Json) (key : String) : Option (List Json) :=
  match j.find key with
  | some (.array elems) => some elems
  | _ => none

def isObject : Json → Bool
  | object _ => true
  | _ => false

end Json

namespace Axtp

def asciiLower (s : String) : String := String.ofList (s.toList.map Char.toLower)

/-- `axtp::ErrorCode`, as far as the adapter tells the codes apart; the others by their number. -/
inductive ErrorCode where
  | success
  | notSupported
  | rpcMethodNotFound
  | rpcMethodNotSupported
  | rpcMethodDisabled
  | capabilityMethodUnsupported
  | capabilityStreamUnsupported
  | other (code : ℕ)
  deriving DecidableEq, Repr

/-- `runtime_error_is_terminal`. -/
def ErrorCode.isTerminal : ErrorCode → Bool
  | success | other _ => false
  | _ => true

/-- `lastError` of the client. -/
structure CallError where
  code : ErrorCode := .success
  message : String := ""
  deriving DecidableEq, Repr

def CallError.ok (e : CallError) : Bool := e.code = .success

/-- `media_kind_name`. -/
def MediaKind.name : MediaKind → String
  | video => "video"
  | audio => "audio"
  | unknown => "unknown"

/-! ## Source states -/

/-- `MediaSourceStateEvent`.  `order` counts the events that came in. -/
structure SourceEvent where
  eventId : ℕ := 0
  eventName : String := ""
  kind : MediaKind
  source : String := ""
  state : String
  reason : String := ""
  activeStreamId : Option ℕ := none
  valid : Bool := true
  order : ℕ := 0
  deferredClientAction : Bool := false
  deriving DecidableEq, Repr

/-- `is_terminal_source_state`. -/
def SourceEvent.isTerminal (e : SourceEvent) : Bool :=
  asciiLower e.state ∈ ["idle", "stopped", "unavailable", "failed"] ∨
    asciiLower e.reason = "source_disconnected"

/-- `is_streamable_source_state`. -/
def SourceEvent.isStreamable (e : SourceEvent) : Bool :=
  asciiLower e.state = "receiving" ∨ asciiLower e.state = "available"

/-- The stream that an event names: an id that is there and not zero. -/
def SourceEvent.namedStream (e : SourceEvent) : Option ℕ := e.activeStreamId.filter (· ≠ 0)

/-! ## Capabilities -/

/-- `source_state_is_streamable`. -/
def sourceStateIsStreamable (body : Json) : Bool :=
  body.isObject ∧
    (body.stringOr "state" (body.stringOr "currentState") ∈ ["available", "receiving"] ∨
      body.flag "available" = some true)

/-- `source_matches`. -/
def sourceMatches (body : Json) (source : String) : Bool :=
  source = "" ∨
    (let sourceId := body.stringOr "sourceId" (body.stringOr "source")
     sourceId = "" ∨ sourceId = source)

/-- `capabilities_are_streamable`; nothing if it throws. -/
def capabilitiesAreStreamable (capabilities : Json) (source : String) : Option Bool :=
  if (capabilities.find "sourceState").any sourceStateIsStreamable then some true
  else if ((capabilities.elements "sources").getD []).any fun entry =>
    sourceMatches entry source && sourceStateIsStreamable entry
  then some true
  else do
    if ← capabilities.flag "supported" then
      return ((capabilities.elements "openModes").getD []).any fun mode =>
        mode.getString = some "receiver_pull"
    else
      return false

/-- Whether a channel count is the requested one.  An unsigned number is cut to 32 bits. -/
def isChannelCount (requested : ℕ) : Json → Bool
  | .numberUnsigned n => n.toNat % 2 ^ 32 = requested
  | .numberInteger i => i.toInt = requested
  | _ => false

/-- A positive channel count, cut to 32 bits.  An unsigned number whose low half is zero is read
    once more as a signed one. -/
def positiveChannelCount : Json → Option ℕ
  | .numberUnsigned n =>
    if 0 < n.toNat % 2 ^ 32 ∨ (0 < n.toNat ∧ n.toNat < 2 ^ 63) then some (n.toNat % 2 ^ 32)
    else none
  | .numberInteger i => if 0 < i.toInt then some (i.toInt.toNat % 2 ^ 32) else none
  | _ => none

/-- The channel count that one source entry gives. -/
def chooseChannelCount (requested : ℕ) (channels : List Json) : Option ℕ :=
  if channels.any (isChannelCount requested) then some requested
  else channels.findSome? positiveChannelCount

/-- `choose_audio_channels`. -/
def chooseAudioChannels (capabilities : Json) (source : String) (requested : ℕ) : ℕ :=
  let requested := if requested = 0 then 2 else requested
  let entries := ((capabilities.elements "sources").getD []).filter (sourceMatches · source)
  let counts := entries.findSome? fun entry =>
    (entry.elements "channels").bind (chooseChannelCount requested)
  counts.getD requested

/-- The entry of the capabilities that is about the source. -/
def sourceEntry (capabilities : Option Json) (source : String) : Option Json :=
  capabilities.bind fun c => ((c.elements "sources").getD []).find? (sourceMatches · source)

/-- The frame rates of the source. -/
def frameRatesOf (capabilities : Option Json) (source : String) : List ℕ :=
  match sourceEntry capabilities source with
  | none => []
  | some entry => ((entry.elements "frameRates").getD []).filterMap fun value =>
      let rate := (Json.ofList [("value", value)]).u32Or "value"
      if rate ≠ 0 then some rate else none

/-- Whether the source can be reconfigured while it streams. -/
def supportsReconfigure (capabilities : Option Json) (source : String) : Bool :=
  match (sourceEntry capabilities source).bind (·.find "supportsReconfigure") with
  | some (.boolean b) => b
  | _ => true

/-- A codec as the peer names it. -/
def normalizeVideoCodec (codec : String) : String :=
  let codec := asciiLower codec
  if codec = "hevc" then "h265" else codec

/-- The video codecs of the device; an old peer, which has no list, has H.264. -/
def deviceVideoCodecs (capabilities : Option Json) (source : String) : List String :=
  match capabilities with
  | none => []
  | some _ =>
    match (sourceEntry capabilities source).bind (·.elements "codecs") with
    | some codecs => ((codecs.filterMap Json.getString).map normalizeVideoCodec).filter
        (fun codec => codec = "h264" ∨ codec = "h265") |>.eraseDups
    | none => ["h264"]

/-! ## Opened streams -/

/-- `codec_for_open_result`. -/
def codecForOpenResult (kind : MediaKind) (result : Json) : MediaCodec :=
  match asciiLower (result.stringOr "codec" (result.stringOr "format")) with
  | "h264" => .h264
  | "h265" | "hevc" => .h265
  | "aac" => .aac
  | "pcm" | "lpcm" => .pcm
  | "" =>
    match kind with
    | .video => .h264
    | .audio => .aac
    | .unknown => .unknown
  | _ => .opaqueData

/-- `codec_text`. -/
def MediaCodec.text : MediaCodec → String
  | h264 => "h264"
  | h265 => "h265"
  | aac => "aac"
  | pcm => "pcm"
  | opaqueData => "opaque"
  | unknown => ""

end Axtp

end Axent
