/-
  `configure_media_stream_kind` of a leaf `AxtpAdapter`
  (`src/adapters/axtp_adapter.cpp`): the stream of one kind is opened.

  The adapter asks for the capabilities of the kind, calls `openStream` for the
  codecs it can use, one after the other, and publishes the stream that the peer
  answers with.  A stream with the wrong codec is closed again.  Each call works on
  source events (`callJson`), so the source may have stopped when the response is
  there; the stream is then not published but closed later.

  Texts that only show up in diagnostics are left out; the last event is not, since
  a reconfiguration reads it.
-/
import Axent.Axtp.Media

namespace Axent.Axtp

open Lib

/-! ## Retries -/

/-- `kSourceWaitingFallbackInterval`, in milliseconds. -/
def sourceWaitingInterval : ℕ := 15000

/-- `kMediaConfigureRetryInterval`, in milliseconds. -/
def configureRetryInterval : ℕ := 1000

/-- `media_retry_delay` of a source that is not waiting. -/
def mediaRetryDelay (attempt : ℕ) (kind : MediaKind) : ℕ :=
  let base := [1, 2, 4, 8, 15].getD (min 4 (attempt - 1)) 15 * 1000
  let seed := ((attempt + 1) % 2 ^ 32 * 1103515245 +
    if kind = .audio then 0x5EED else 0xC0DE) % 2 ^ 64
  max 100 (base * (900 + seed % 201) / 1000)

/-- `mark_retry_failure`. -/
def Retry.failed (now : ℕ) (kind : MediaKind) (terminal sourceWaiting : Bool) (r : Retry) :
    Retry :=
  let r := { r with terminal := terminal }
  if terminal then
    { r with sourceTerminal := true, recoveryPending := false, nextConfigure := 0 }
  else if sourceWaiting then
    { r with
      recoveryPending := true
      nextRecovery := now + sourceWaitingInterval
      nextConfigure := now + sourceWaitingInterval }
  else
    let attempt := (r.attempt + 1) % 2 ^ 32
    { r with
      recoveryPending := false
      attempt := attempt
      nextConfigure := now + mediaRetryDelay attempt kind }

def markRetryFailure (kind : MediaKind) (terminal : Bool := false) (sourceWaiting : Bool := false) :
    MediaProg Unit := do
  let now ← Prog.read fun s : MediaState => s.now
  MediaProg.diagnostics fun d =>
    ((), { d with retry := d.retry.modify kind (·.failed now kind terminal sourceWaiting) })

def setLastEvent (text : String) : MediaProg Unit :=
  MediaProg.diagnostics fun d => ((), { d with lastEvent := text })

/-! ## What is asked for -/

/-- Video may be opened without looking at the capabilities. -/
def MediaConfig.forceVideoOpen (cfg : MediaConfig) (kind : MediaKind) : Bool :=
  kind = .video ∧ .h265 ∈ cfg.videoCodecPreferences

/-- The codec of the request and the one of the decoder, if they differ. -/
def MediaConfig.decodeBypass (cfg : MediaConfig) (kind : MediaKind) :
    Option (MediaCodec × MediaCodec) :=
  match cfg.videoOpenCodecOverride, cfg.videoDecodeCodecOverride with
  | some requested, some decoded =>
    if kind = .video ∧ requested ≠ decoded then some (requested, decoded) else none
  | _, _ => none

/-- The frame rate for this open: that of the reconfiguration it is part of, or that of
    the session. -/
def Params.openFrameRate (p : Params) (operation : Bool) : Option ℕ :=
  match operation, p.reconfigure with
  | true, some op => if op.rollback then op.previousFrameRate else op.requestedFrameRate
  | _, _ => p.frameRate

def frameRateMember (rate : ℕ) : Json := .numberUnsigned (.ofNat rate)

/-- The codecs that can be asked for. -/
def codecCandidates (cfg : MediaConfig) (capabilities : Option Json) : List String :=
  let available := deviceVideoCodecs capabilities cfg.videoSource
  let preferences := if cfg.videoCodecPreferences = [] then [.h264] else cfg.videoCodecPreferences
  let candidates := preferences.filterMap fun
    | .h265 => some "h265"
    | .h264 => some "h264"
    | _ => none
  candidates.filter fun codec => cfg.forceVideoOpen .video || codec ∈ available

/-- The parameters of `video.openStream`, but for the frame rate, and the codecs to try: those
    of the stream before the reconfiguration, or new ones. -/
def videoOpenParams (cfg : MediaConfig) (capabilities : Option Json) (p : Params) :
    Members × List String :=
  match p.reconfigure.map (·.previousVideoOpenParams) with
  | some (m :: ms) =>
    let previous : Members := m :: ms
    let params := ((previous.erase "frameRate").erase "streamId").erase "state"
    (params, [normalizeVideoCodec ((Json.object params).stringOr "codec" "h264")])
  | _ =>
    (.ofList [("source", .string cfg.videoSource), ("peerRole", .string "transmitter"),
        ("codec", .string "h264"), ("transportFormat", .string "annexb"),
        ("alignment", .string "au"), ("streamProfile", .string "media.video"),
        ("cursorUnit", .string "timestampUs")],
      codecCandidates cfg capabilities)

/-- The frame rate is put in, if there is one. -/
def withFrameRate (params : Members) : Option ℕ → Members
  | some rate => params.set "frameRate" (frameRateMember rate)
  | none => params

/-- The parameters of `audio.openStream`. -/
def audioOpenParams (cfg : MediaConfig) (capabilities : Json) (p : Params) : Members :=
  let previous : Members := (p.reconfigure.map (·.previousAudioOpenParams)).getD []
  match (previous.erase "streamId").erase "state" with
  | m :: ms => m :: ms
  | [] =>
    let sampleRate := if cfg.audioSampleRate = 0 then 48000 else cfg.audioSampleRate
    let channels := chooseAudioChannels capabilities cfg.audioSource cfg.audioChannels
    .ofList [("source", .string cfg.audioSource), ("peerRole", .string "transmitter"),
      ("codec", .string "aac"), ("transportFormat", .string "adts"),
      ("sampleRate", .numberUnsigned (.ofNat sampleRate)),
      ("channels", .numberUnsigned (.ofNat channels)),
      ("streamProfile", .string "media.audio"), ("cursorUnit", .string "timestampUs")]

/-! ## Capabilities -/

/-- The parameters with which a method about the source is called. -/
def sourceParams (source : String) : Members := .ofList [("source", .string source)]

def cacheCapabilities (kind : MediaKind) (capabilities : Json) : MediaProg Unit :=
  MediaProg.params fun p =>
    ((), { p with capabilities := p.capabilities.modify kind fun _ => some capabilities })

/-- The capabilities, from the cache or the peer.  They are kept if the source can stream. -/
def fetchCapabilities (cfg : MediaConfig) (kind : MediaKind) : MediaProg (Option Json) := do
  let cached ← Prog.read fun s : MediaState => s.params.capabilities.get kind
  match cached with
  | some capabilities => return some capabilities
  | none =>
    let source := cfg.sourceOf kind
    match ← callJson cfg (.getStreamCapabilities kind) (sourceParams source) with
    | none => return none
    | some body =>
      let capabilities := Json.object body
      match capabilitiesAreStreamable capabilities source with
      | none => Prog.halt
      | some streamable =>
        Prog.when streamable <| cacheCapabilities kind capabilities
        return some capabilities

/-- The capabilities allow the open: they are there and the source can stream, or video is
    opened anyway. -/
def checkCapabilities (cfg : MediaConfig) (kind : MediaKind) (capabilities : Option Json) :
    MediaProg Bool := do
  match capabilities with
  | none =>
    if cfg.forceVideoOpen kind then return true
    let error ← Prog.read fun s : MediaState => s.lastError
    markRetryFailure kind error.code.isTerminal
    setLastEvent (kind.name ++ "-capabilities-unavailable")
    return false
  | some capabilities =>
    match capabilitiesAreStreamable capabilities (cfg.sourceOf kind) with
    | none => Prog.halt
    | some streamable =>
      if streamable || cfg.forceVideoOpen kind then return true
      markRetryFailure kind false true
      setLastEvent (kind.name ++ "-source-waiting")
      return false

/-- What the capabilities say about frame rates is kept. -/
def keepFrameRates (cfg : MediaConfig) (capabilities : Option Json) : MediaProg Unit :=
  MediaProg.params fun p =>
    ((), { p with
      frameRates := frameRatesOf capabilities cfg.videoSource
      supportsActiveReconfigure := supportsReconfigure capabilities cfg.videoSource })

/-! ## The calls of `openStream` -/

/-- The local variables of the calls.  A failure stays noted when the next codec is tried. -/
structure Attempt where
  openParams : Members
  response : Option Members := none
  streamId : ℕ := 0
  failureTerminal : Bool := false
  failureSourceWaiting : Bool := false
  fallback : Bool := false

def containsText (text part : String) : Bool :=
  text.toList.tails.any (part.toList.isPrefixOf ·)

/-- The message of an error says that the source is not there. -/
def CallError.saysSourceWaiting (e : CallError) : Bool :=
  let text := asciiLower e.message
  containsText text "source waiting" || containsText text "source unavailable" ||
    containsText text "source disconnected"

/-- The codec of the request: that of the configuration if the decoder is set apart. -/
def requestCodec (cfg : MediaConfig) (kind : MediaKind) (codec : String) : String :=
  match cfg.decodeBypass kind with
  | some (requested, _) => requested.text
  | none => codec

/-- The codec of the response is the one that was asked for. -/
def codecAccepted (cfg : MediaConfig) (codec : String) (response : Json) : Bool :=
  let named := asciiLower (response.stringOr "codec" (response.stringOr "format"))
  let effective := if named = "" then (if codec = "h264" then .h264 else .unknown)
    else codecForOpenResult .video response
  let ofText := fun text : String => if text = "h265" then MediaCodec.h265 else .h264
  effective = ofText (requestCodec cfg .video codec) ∧
    ((cfg.decodeBypass .video).isSome ∨ effective = ofText codec)

/-- An H.265 stream has the format that the adapter can read. -/
def contractAccepted (codec : String) (response openParams : Json) : Bool :=
  codec ≠ "h265" ∨
    (let format := asciiLower (response.stringOr "transportFormat"
      (openParams.stringOr "transportFormat" "annexb"))
     let alignment := asciiLower (response.stringOr "alignment"
      (openParams.stringOr "alignment" "au"))
     let reorderDepth := response.u32Or "reorderDepth" (openParams.u32Or "reorderDepth")
     (format = "" ∨ format = "annexb") ∧ (alignment = "" ∨ alignment = "au") ∧ reorderDepth = 0)

def streamIdParams (streamId : ℕ) : Members :=
  .ofList [("streamId", .numberUnsigned (.ofNat streamId))]

/-- The response names a stream.  Video with the wrong codec is closed at once. -/
def acceptStream (cfg : MediaConfig) (kind : MediaKind) (codec : String) (response : Members)
    (a : Attempt) : MediaProg Attempt := do
  let streamId := (Json.object response).u32Or "streamId"
  if kind ≠ .video ∨ (codecAccepted cfg codec (.object response) ∧
      contractAccepted codec (.object response) (.object a.openParams)) then
    return { a with response := some response, streamId := streamId }
  else
    let _ ← callJson cfg (.closeStream kind) (streamIdParams streamId)
    return { a with response := none, streamId := 0 }

/-- `open_candidate`. -/
def openCandidate (cfg : MediaConfig) (kind : MediaKind) (operation : Bool) (codec : String)
    (a : Attempt) : MediaProg Attempt := do
  let a := if kind = .video then
      { a with openParams := a.openParams.set "codec" (.string (requestCodec cfg kind codec)) }
    else a
  match ← callJson cfg (.openStream kind) a.openParams operation with
  | none =>
    let error ← Prog.read fun s : MediaState => s.lastError
    return { a with
      response := none
      failureTerminal := error.code.isTerminal
      failureSourceWaiting := !error.code.isTerminal && error.saysSourceWaiting }
  | some response =>
    let streamId := (Json.object response).u32Or "streamId"
    if streamId = 0 then return { a with response := none, streamId := 0 }
    MediaProg.record [.allocated kind streamId]
    acceptStream cfg kind codec response a

/-- The codecs are tried in their order.  Only H.265 that was refused goes on to the next. -/
def openCandidates (cfg : MediaConfig) (kind : MediaKind) (operation : Bool) :
    List String → Attempt → MediaProg Attempt
  | [], a => pure a
  | codec :: codecs, a => do
    let a ← openCandidate cfg kind operation codec a
    let error ← Prog.read fun s : MediaState => s.lastError
    if a.response.isNone ∧ codec = "h265" ∧
        (!a.failureTerminal ∨ error.code = .notSupported) ∧
        !a.failureSourceWaiting ∧ codecs ≠ [] then
      setLastEvent "video-codec-fallback-h265-to-h264"
      openCandidates cfg kind operation codecs { a with fallback := true }
    else return a

/-! ## The stream is published -/

/-- The descriptor of the stream, still without its generation. -/
def openedDescriptor (cfg : MediaConfig) (kind : MediaKind) (streamId : ℕ)
    (response openParams : Json) : StreamDescriptor :=
  let text := fun key fallback => response.stringOr key (openParams.stringOr key fallback)
  let number := fun key => response.u32Or key (openParams.u32Or key)
  { key := { streamId := streamId }
    deviceId := cfg.deviceId
    kind := kind
    codec := match cfg.decodeBypass kind with
      | some (_, decoded) => decoded
      | none => codecForOpenResult kind response
    source := response.stringOr "source" (cfg.sourceOf kind)
    transportFormat := text "transportFormat" ""
    alignment := text "alignment" "au"
    streamProfile := text "streamProfile" ""
    cursorUnit := text "cursorUnit" "timestampUs"
    sampleRate := number "sampleRate"
    channels := number "channels"
    width := number "width"
    height := number "height"
    frameRate := number "frameRate"
    reorderDepth := number "reorderDepth" }

/-- A terminal event for the new stream is the latest of its kind. -/
def Sources.matchCandidate (kind : MediaKind) (streamId : ℕ) (q : Sources) : Bool × Sources :=
  let candidate := (q.openTerminal.get kind)[streamId]?
  (candidate.isSome,
    { q with
      latestOrder := match candidate with
        | some order => q.latestOrder.modify kind (max · order)
        | none => q.latestOrder
      openTerminal := q.openTerminal.modify kind fun _ => ∅ })

/-- The source of the kind has stopped. -/
def markTerminal (kind : MediaKind) (candidateMatches : Bool) : MediaProg Bool :=
  MediaProg.diagnostics fun d =>
    let retry := if candidateMatches then
        d.retry.modify kind fun r => { r with sourceTerminal := true }
      else d.retry
    ((retry.get kind).sourceTerminal, { d with retry := retry })

/-- The stream is left to a later close. -/
def orphanStream (kind : MediaKind) (streamId : ℕ) : MediaProg Unit :=
  .write fun s =>
    { s.record [.orphaned kind streamId] with
      sources := { s.sources with orphanCloses := s.sources.orphanCloses ++ [(kind, streamId)] } }

/-- The stream enters the table.  A cycle ends when all its kinds are open again. -/
def Streams.publish (d : StreamDescriptor) (reason : MediaStreamEventReason) (st : Streams) :
    (StreamDescriptor × List LifecycleEvent × ℕ) × Streams :=
  let (table, opened, events) := st.table.publish d reason
  let st := { st with table := table }
  ((opened, events, table.active.size),
    if st.cycleActive then
      let reopen := st.reopen.modify d.kind fun _ => false
      if reopen.video || reopen.audio then { st with reopen := reopen }
      else { st with
        reopen := reopen, cycleActive := false, closeSent := false, pendingClose := ⟨none, none⟩ }
    else st)

/-- The retries of a kind that was opened. -/
def Retry.opened (r : Retry) : Retry :=
  { r with
    terminal := false, attempt := 0, nextConfigure := 0, sourceTerminal := false
    recoveryPending := false, nextRecovery := 0 }

def Diagnostics.opened (kind : MediaKind) (streamId count : ℕ) (event : Option String)
    (d : Diagnostics) : Diagnostics :=
  { d with
    lastEvent := event.getD d.lastEvent
    configureAttempts := if event.isSome then 0 else d.configureAttempts
    activeStreamId := d.activeStreamId.modify kind fun _ => streamId
    activeMediaStreams := count
    retry := d.retry.modify kind Retry.opened }

/-- The members of the response that a later open uses again. -/
def keepMembers (keys : List String) (response openParams : Members) : Members :=
  keys.foldl (fun ms key => match response.lookup key with
    | some value => ms.set key value
    | none => ms) openParams

def videoKeys : List String :=
  ["source", "peerRole", "codec", "transportFormat", "alignment", "reorderDepth",
    "streamProfile", "cursorUnit", "syncGroupId", "castSessionId"]

def audioKeys : List String :=
  ["source", "peerRole", "codec", "transportFormat", "sampleRate", "channels",
    "streamProfile", "cursorUnit", "syncGroupId", "castSessionId"]

/-- The video parameters once video is open; without a reconfiguration they are told. -/
def Params.videoOpened (d : StreamDescriptor) (response openParams : Members) (p : Params) :
    Option VideoParams × Params :=
  let state := { p.state with
    source := d.source
    desiredFrameRate := p.frameRate
    effectiveFrameRate := if d.frameRate = 0 then p.frameRate else some d.frameRate
    streamProfile := d.streamProfile
    activeStreamId := some d.streamId }
  let applied := { state with
    state := .applied, phase := .streaming, rollbackApplied := false, lastError := none }
  let state := if p.reconfigure.isSome then state else applied
  (if p.reconfigure.isSome then none else some applied,
    { p with state := state, videoOpenParams := keepMembers videoKeys response openParams })

def Params.audioOpened (response openParams : Members) (p : Params) : Params :=
  { p with audioOpenParams := keepMembers audioKeys response openParams }

/-- The section that publishes a stream. -/
def enterTable (descriptor : StreamDescriptor) (reason : MediaStreamEventReason) :
    MediaProg (StreamDescriptor × List LifecycleEvent × ℕ) :=
  .act fun s =>
    let (result, streams) := s.streams.publish descriptor reason
    (result, { s.record [.published result.1] with streams := streams })

/-- The descriptor is published. -/
def publishStream (kind : MediaKind) (updateRetryState : Bool) (reason : MediaStreamEventReason)
    (a : Attempt) (response : Members) (descriptor : StreamDescriptor) : MediaProg Unit := do
  let (opened, events, count) ← enterTable descriptor reason
  enqueueStreamEvents events
  let event := if a.fallback then "video-codec-fallback-h265-to-h264"
    else kind.name ++ "-stream-open"
  MediaProg.diagnostics fun d =>
    ((), d.opened kind a.streamId count (if updateRetryState then some event else none))
  if kind = .video then
    let update ← MediaProg.params (·.videoOpened opened response a.openParams)
    Prog.forEach notifyVideoParams update.toList
  else
    MediaProg.params fun p => ((), p.audioOpened response a.openParams)

/-- The stream of the response is published, or left to a later close if the source has
    stopped meanwhile. -/
def settleStream (cfg : MediaConfig) (kind : MediaKind) (updateRetryState : Bool)
    (reason : MediaStreamEventReason) (a : Attempt) (response : Members) : MediaProg Bool := do
  let candidateMatches ← MediaProg.sources (·.matchCandidate kind a.streamId)
  if ← markTerminal kind candidateMatches then
    orphanStream kind a.streamId
    return false
  else
    publishStream kind updateRetryState reason a response
      (openedDescriptor cfg kind a.streamId (.object response) (.object a.openParams))
    return true

/-! ## `configure_media_stream_kind` -/

/-- The parameters of the open, and the codecs to try: nothing if there is no codec. -/
def chooseOpen (cfg : MediaConfig) (kind : MediaKind) (rate : Option ℕ)
    (capabilities : Option Json) : MediaProg (Members × List String) :=
  if kind = .video then
    Prog.read fun s =>
      let (params, codecs) := videoOpenParams cfg capabilities s.params
      (withFrameRate params rate, codecs)
  else
    Prog.read fun s => (audioOpenParams cfg (capabilities.getD .null) s.params, [""])

/-- What is done while the kind counts as in transition. -/
def openStream (cfg : MediaConfig) (kind : MediaKind) (updateRetryState operation : Bool)
    (reason : MediaStreamEventReason) : MediaProg Bool := do
  let rate ← Prog.read fun s : MediaState => s.params.openFrameRate operation
  let capabilities ← fetchCapabilities cfg kind
  if !(← checkCapabilities cfg kind capabilities) then return false
  Prog.when (kind = .video) <| keepFrameRates cfg capabilities
  let (openParams, codecs) ← chooseOpen cfg kind rate capabilities
  if codecs = [] then
    markRetryFailure kind true
    return false
  let a ← openCandidates cfg kind operation codecs { openParams := openParams }
  match a.response with
  | none =>
    markRetryFailure kind a.failureTerminal a.failureSourceWaiting
    setLastEvent (kind.name ++ "-open-failed")
    return false
  | some response => settleStream cfg kind updateRetryState reason a response

/-- The stream may not be opened now: a reconfiguration does it, or the source has stopped. -/
def MediaState.openBlocked (s : MediaState) (kind : MediaKind) : Bool :=
  s.params.reconfigure.isSome || (kind = .video && s.params.suppressVideoAutoOpen)

/-- `configure_media_stream_kind`; `operation` is `from_video_reconfigure`. -/
def configureMediaStreamKind (cfg : MediaConfig) (kind : MediaKind)
    (updateRetryState operation : Bool) (reason : MediaStreamEventReason) : MediaProg Bool := do
  let connected ← Prog.read fun s : MediaState => s.connected
  if !cfg.enableMedia || !connected || kind = .unknown then return false
  let blocked ← Prog.read fun s : MediaState => !operation && s.openBlocked kind
  if blocked then return false
  let terminal ← Prog.read fun s : MediaState => (s.diagnostics.retry.get kind).sourceTerminal
  if terminal then return false
  Prog.write fun s : MediaState =>
    { s.record [.entered kind] with depth := s.depth.modify kind (· + 1) }
  let opened ← openStream cfg kind updateRetryState operation reason
  MediaProg.sources fun q => ((), { q with openTerminal := q.openTerminal.modify kind fun _ => ∅ })
  Prog.write fun s : MediaState =>
    { s.record [.configured kind opened] with depth := s.depth.modify kind (· - 1) }
  return opened

end Axent.Axtp
