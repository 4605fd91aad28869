/-
  The media work of a leaf `AxtpAdapter` (`src/adapters/axtp_adapter.cpp`): its
  state, the calls to the peer, and the source events that come in meanwhile.

  The session has one owner at a time, the thread that opens it or its pump.
  Only the owner uses the client, and everything in this file is done by it; the
  other threads touch the same state in between.  A function of the source is a
  program (`Lib.Prog`) whose sections are the blocks under one lock.

  `callJson` polls the client until the response is there.  Each poll may bring
  source events, and is followed by the progress hook, which works on those that
  need no further call (`publishRuntimeProgress`).  What the peer does is the
  input of the program (`Reply`).

  The state has a log of what happens, which no function reads.
-/
import Axent.Axtp.Peer
import Axent.Lib.Prog

namespace Axent.Axtp

open Lib

/-! ## State -/

/-- `AxtpAdapterConfig`, as far as it is about media, and the device of the leaf. -/
structure MediaConfig where
  deviceId : String := ""
  enableMedia : Bool := true
  enableVideo : Bool := true
  enableAudio : Bool := true
  audioSampleRate : ℕ := 48000
  audioChannels : ℕ := 2
  videoFrameRate : Option ℕ := none
  videoCodecPreferences : List MediaCodec := []
  videoOpenCodecOverride : Option MediaCodec := none
  videoDecodeCodecOverride : Option MediaCodec := none
  videoSource : String := "wireless_cast"
  audioSource : String := "wireless_cast_audio"
  deriving DecidableEq, Repr

/-- The source of a kind. -/
def MediaConfig.sourceOf (cfg : MediaConfig) (kind : MediaKind) : String :=
  if kind = .video then cfg.videoSource else cfg.audioSource

/-- A pair of fields, one for each kind.  What is not video is audio. -/
structure PerKind (α : Type) where
  video : α
  audio : α

namespace PerKind
variable {α : Type}

def get (p : PerKind α) (kind : MediaKind) : α := if kind = .video then p.video else p.audio

def modify (p : PerKind α) (kind : MediaKind) (f : α → α) : PerKind α :=
  if kind = .video then { p with video := f p.video } else { p with audio := f p.audio }

end PerKind

/-- `VideoStreamParamsStateKind`. -/
inductive ParamsKind where
  | idle
  | pending
  | applied
  | failed
  | rolledBack
  | unchanged
  deriving DecidableEq, Repr

/-- `VideoStreamParamsPhase`. -/
inductive ParamsPhase where
  | idle
  | pending
  | closing
  | opening
  | streaming
  | failed
  | rolledBack
  deriving DecidableEq, Repr

/-- The code of a failure: one of the adapter's own, or the one of a call. -/
inductive FailureCode where
  | status (code : ℕ)
  | call (code : ErrorCode)
  deriving DecidableEq, Repr

/-- `VideoStreamParamsState`. -/
structure VideoParams where
  sessionId : String := ""
  source : String := ""
  desiredFrameRate : Option ℕ := none
  effectiveFrameRate : Option ℕ := none
  streamProfile : String := ""
  reconfigureId : String := ""
  state : ParamsKind := .idle
  phase : ParamsPhase := .idle
  previousStreamId : Option ℕ := none
  activeStreamId : Option ℕ := none
  rollbackApplied : Bool := false
  lastError : Option (FailureCode × String) := none
  changedFields : List String := []
  deriving DecidableEq, Repr

/-- `VideoReconfigureOperation`. -/
structure Reconfigure where
  previousFrameRate : Option ℕ
  requestedFrameRate : Option ℕ
  previousVideo : Option StreamDescriptor
  previousAudio : Option StreamDescriptor
  previousVideoOpenParams : Members
  previousAudioOpenParams : Members
  videoCloseSent : Bool := false
  audioCloseSent : Bool := false
  videoCloseTerminal : Bool := false
  audioCloseTerminal : Bool := false
  videoOpened : Bool := false
  audioOpened : Bool := false
  rollback : Bool := false
  closeDeadline : ℕ := 0

/-- What `video_params_mutex` guards, and the cache of the capabilities. -/
structure Params where
  state : VideoParams := {}
  frameRate : Option ℕ := none
  reconfigure : Option Reconfigure := none
  videoOpenParams : Members := Members.ofList []
  audioOpenParams : Members := Members.ofList []
  nextReconfigureId : ℕ := 1
  suppressVideoAutoOpen : Bool := false
  frameRates : List ℕ := []
  supportsActiveReconfigure : Bool := true
  capabilities : PerKind (Option Json) := ⟨none, none⟩

/-- What `media_stream_mutex_` guards.  `reopenVideo` and `reopenAudio` are the
    two bits of `source_recovery_reopen_mask_`. -/
structure Streams where
  table : StreamTable := {}
  pendingClose : PerKind (Option StreamDescriptor) := ⟨none, none⟩
  cycleActive : Bool := false
  closeSent : Bool := false
  reopen : PerKind Bool := ⟨false, false⟩

/-- The retries of one kind.  A time that is not set is zero. -/
structure Retry where
  sourceTerminal : Bool := false
  sourceWaiting : Bool := false
  recoveryPending : Bool := false
  nextRecovery : ℕ := 0
  nextConfigure : ℕ := 0
  attempt : ℕ := 0
  terminal : Bool := false
  deriving DecidableEq, Repr

/-- What `mutex_` guards.  `deviceActive` says that `active_device_id_` is the device. -/
structure Diagnostics where
  deviceActive : Bool := false
  isOpen : Bool := false
  activeStreamId : PerKind ℕ := ⟨0, 0⟩
  activeMediaStreams : ℕ := 0
  configureAttempts : ℕ := 0
  lastEvent : String := ""
  retry : PerKind Retry := ⟨{}, {}⟩

/-- What `pending_media_source_state_mutex_` guards.  `openTerminal` are the terminal
    events for streams that are not known, with their orders. -/
structure Sources where
  pending : List SourceEvent := []
  deferred : List SourceEvent := []
  nextOrder : ℕ := 0
  latestOrder : PerKind ℕ := ⟨0, 0⟩
  openTerminal : PerKind (Std.TreeMap ℕ ℕ compare) := ⟨∅, ∅⟩
  orphanCloses : List (MediaKind × ℕ) := []

/-- The methods of the peer that the adapter calls. -/
inductive Method where
  | getStreamCapabilities (kind : MediaKind)
  | openStream (kind : MediaKind)
  | closeStream (kind : MediaKind)
  | getStreamState (kind : MediaKind)
  | control (name : String)
  deriving DecidableEq, Repr

/-- `VideoStreamParamsRequest`. -/
structure ParamsRequest where
  frameRate : Option ℕ := none
  resetFrameRate : Bool := false
  deriving DecidableEq, Repr

/-- The status codes of `set_video_stream_params`. -/
inductive ParamsStatus where
  | success
  | notSupported
  | invalidState
  | busy
  | invalidArgument
  | frameRateUnsupported
  deriving DecidableEq, Repr

/-- `VideoStreamParamsResult`. -/
structure ParamsResult where
  status : ParamsStatus := .success
  accepted : Bool := false
  state : VideoParams := {}
  deriving DecidableEq, Repr

/-- What happens.  A request is sent for a reconfiguration (`operation`) or not.  The open of a
    stream is `entered` and comes to its end (`configured`); meanwhile a response names a stream
    (`allocated`), which enters the table (`published`) or is `orphaned`.  A request for
    parameters is `answered`, after it `found` the session open or not; a reconfiguration is
    `rolledBack` and `ended`; the parameters are
    `restored` from a copy, or `cleared` but for a rate, and a lease is `named` in them or
    `unnamed`. -/
inductive Entry where
  | sent (method : Method) (params : Members) (operation : Bool)
  | entered (kind : MediaKind)
  | allocated (kind : MediaKind) (streamId : ℕ)
  | published (descriptor : StreamDescriptor)
  | queued (event : LifecycleEvent)
  | orphaned (kind : MediaKind) (streamId : ℕ)
  | configured (kind : MediaKind) (opened : Bool)
  | answered (request : ParamsRequest) (found : Bool) (result : ParamsResult)
  | rolledBack (operation : Reconfigure)
  | ended (operation : Reconfigure) (state : ParamsKind) (suppressed : Bool)
  | restored (state : VideoParams)
  | cleared (frameRate : Option ℕ)
  | named (sessionId : String)
  | unnamed (sessionId : String)
  | notified (state : VideoParams)

/-- The state.  `bound` is the session that is bound to the device. -/
structure MediaState where
  params : Params := {}
  streams : Streams := {}
  diagnostics : Diagnostics := {}
  sources : Sources := {}
  depth : PerKind ℕ := ⟨0, 0⟩
  connected : Bool := false
  lastError : CallError := {}
  bound : Option String := none
  now : ℕ := 1
  log : List Entry := []

namespace MediaState

def record (s : MediaState) (entries : List Entry) : MediaState :=
  { s with log := s.log ++ entries }

end MediaState

/-- One response of the peer.  The source events of each poll are followed by the
    progress hook, those of the last one (`rest`) are not. -/
structure Reply where
  polls : List (List SourceEvent) := []
  rest : List SourceEvent := []
  error : CallError := {}
  body : Option Members := none

/-- A program over the state, with what the peer does as its input. -/
abbrev MediaProg := Prog MediaState Reply

namespace MediaProg
variable {β : Type}

/-- A section under `video_params_mutex`. -/
def params (f : Params → β × Params) : MediaProg β :=
  .act fun s => ((f s.params).1, { s with params := (f s.params).2 })

/-- A section under `media_stream_mutex_`. -/
def streams (f : Streams → β × Streams) : MediaProg β :=
  .act fun s => ((f s.streams).1, { s with streams := (f s.streams).2 })

/-- A section under `mutex_`. -/
def diagnostics (f : Diagnostics → β × Diagnostics) : MediaProg β :=
  .act fun s => ((f s.diagnostics).1, { s with diagnostics := (f s.diagnostics).2 })

/-- A section under `pending_media_source_state_mutex_`. -/
def sources (f : Sources → β × Sources) : MediaProg β :=
  .act fun s => ((f s.sources).1, { s with sources := (f s.sources).2 })

def record (entries : List Entry) : MediaProg Unit := .write (·.record entries)

end MediaProg

/-- `enqueue_media_stream_events`. -/
def enqueueStreamEvents (events : List LifecycleEvent) : MediaProg Unit :=
  MediaProg.record (events.map .queued)

/-- `notify_video_stream_params_state`. -/
def notifyVideoParams (state : VideoParams) : MediaProg Unit := MediaProg.record [.notified state]

/-- The first stream of a kind, in the order of the ids. -/
def StreamTable.firstOf (t : StreamTable) (kind : MediaKind)
    (p : StreamDescriptor → Bool := fun _ => true) : Option StreamDescriptor :=
  t.active.values.find? fun d => d.kind = kind && p d

/-! ## Source events come in -/

/-- `hex4`. -/
def hex4 (n : ℕ) : String :=
  let digits := Nat.toDigits 16 (n % 2 ^ 16)
  String.ofList (List.replicate (4 - digits.length) '0' ++ digits)

/-- The line about an event in the diagnostics. -/
def SourceEvent.line (e : SourceEvent) : String :=
  let orAbsent := fun text : String => if text = "" then "<absent>" else text
  "media-source-event name=" ++ e.eventName ++ " id=0x" ++ hex4 e.eventId ++
    " source=" ++ orAbsent e.source ++ " state=" ++ orAbsent e.state ++
    " reason=" ++ orAbsent e.reason ++
    " activeStreamId=" ++ (e.activeStreamId.map toString).getD "<absent>"

/-- The source that an event is about: the one it names, or the configured one. -/
def SourceEvent.sourceIn (e : SourceEvent) (cfg : MediaConfig) : String :=
  if e.source = "" then cfg.sourceOf e.kind else e.source

/-- An event is about a stream: the kind is the same, and the source if there is one. -/
def SourceEvent.isAbout (e : SourceEvent) (cfg : MediaConfig) (d : StreamDescriptor) : Bool :=
  d.kind = e.kind ∧ (e.sourceIn cfg = "" ∨ d.source = e.sourceIn cfg)

/-- Whether the stream that a terminal event names is the one that is open. -/
def SourceEvent.identityRelevant (e : SourceEvent) (cfg : MediaConfig) (t : StreamTable) : Bool :=
  match e.namedStream with
  | some i => if e.valid ∧ e.isTerminal then t.active[i]?.any (e.isAbout cfg) else true
  | none => true

/-- The event gets its order and is queued. -/
def Sources.push (cfg : MediaConfig) (e : SourceEvent) (identityRelevant : Bool)
    (q : Sources) : Sources :=
  let order := q.nextOrder + 1
  let configured := cfg.sourceOf e.kind
  let relevant := identityRelevant && e.valid && e.kind ≠ .unknown &&
    (configured = "" || e.sourceIn cfg = configured)
  { q with
    nextOrder := order
    latestOrder := if relevant then q.latestOrder.modify e.kind fun _ => order else q.latestOrder
    pending := q.pending ++ [{ e with order := order }] }

/-- `enqueue_media_source_state_event`. -/
def enqueueSourceEvent (cfg : MediaConfig) (e : SourceEvent) : MediaProg Unit := do
  MediaProg.diagnostics fun d => ((), { d with lastEvent := e.line })
  let identityRelevant ← Prog.read fun s : MediaState => e.identityRelevant cfg s.streams.table
  MediaProg.sources fun q => ((), q.push cfg e identityRelevant)

/-! ## A source stops -/

/-- The stream that stops with the source, and whether the event names an unknown one. -/
def Streams.findStopped (st : Streams) (cfg : MediaConfig) (e : SourceEvent) :
    Option StreamDescriptor × Bool :=
  match e.namedStream with
  | some i =>
    match st.table.active[i]? with
    | some d => if e.isAbout cfg d then (some d, false) else (none, true)
    | none => (none, true)
  | none => (st.table.firstOf e.kind (e.isAbout cfg), false)

/-- The stopped stream is taken out. -/
def Streams.takeStopped (cfg : MediaConfig) (e : SourceEvent) (st : Streams) :
    (Option StreamDescriptor × Bool × ℕ) × Streams :=
  let (stopped, foreign) := st.findStopped cfg e
  let table := match stopped with
    | some d => st.table.erase d.streamId
    | none => st.table
  ((stopped, foreign, table.active.size), { st with table := table })

/-- A stream of a recovery cycle is kept for its close, the first one of each kind. -/
def Streams.capture (st : Streams) (d : StreamDescriptor) : Streams :=
  if d.kind ≠ .unknown ∧ (st.pendingClose.get d.kind).isNone then
    { st with
      pendingClose := st.pendingClose.modify d.kind fun _ => some d
      reopen := st.reopen.modify d.kind fun _ => true }
  else st

/-- A video source that stops begins a cycle, in which both streams are closed and opened
    again. -/
def Streams.beginCycle (stopped : Option StreamDescriptor) (st : Streams) : Streams :=
  let st := if !st.cycleActive && (stopped.isSome || !st.table.active.isEmpty) then
      { st with cycleActive := true, closeSent := false, reopen := ⟨false, false⟩ }
    else st
  if st.cycleActive && !st.closeSent then
    (stopped.toList ++ st.table.active.values).foldl Streams.capture st
  else st

/-- The diagnostics after a source stopped. -/
def Diagnostics.sourceStopped (kind : MediaKind) (stopped : Bool) (count : ℕ)
    (d : Diagnostics) : Diagnostics :=
  { d with
    retry := d.retry.modify kind fun r =>
      { r with sourceTerminal := true, recoveryPending := false, nextRecovery := 0 }
    activeStreamId := if stopped then d.activeStreamId.modify kind fun _ => 0 else d.activeStreamId
    activeMediaStreams := count }

/-- The video parameters after the video source stopped. -/
def VideoParams.sourceStopped (v : VideoParams) : VideoParams :=
  { v with
    state := .idle
    phase := .idle
    effectiveFrameRate := none
    activeStreamId := none
    previousStreamId := none
    reconfigureId := ""
    rollbackApplied := false
    lastError := none
    changedFields := [] }

/-- The terminal event is kept until the response of an `openStream` names its stream. -/
def Sources.keepCandidate (e : SourceEvent) (streamId : ℕ) (q : Sources) : Sources :=
  { q with openTerminal := q.openTerminal.modify e.kind fun candidates =>
      candidates.insert streamId (max (candidates.getD streamId 0) e.order) }

/-- The terminal branch of `process_media_source_state_event`. -/
def stopSource (cfg : MediaConfig) (e : SourceEvent) : MediaProg Unit := do
  let (stopped, foreign, count) ← MediaProg.streams (·.takeStopped cfg e)
  if foreign then
    let depth ← Prog.read fun s : MediaState => s.depth.get e.kind
    if depth ≠ 0 then
      MediaProg.sources fun q => ((), q.keepCandidate e (e.activeStreamId.getD 0))
  else
    Prog.when (e.kind = .video) <| MediaProg.streams fun st => ((), st.beginCycle stopped)
    MediaProg.diagnostics fun d => ((), d.sourceStopped e.kind stopped.isSome count)
    enqueueStreamEvents <| stopped.toList.map fun d =>
      { kind := .closed, descriptor := d, reason := .sourceRecovery }
    if e.kind = .video then
      let state ← MediaProg.params fun p =>
        (p.state.sourceStopped, { p with state := p.state.sourceStopped })
      notifyVideoParams state

/-- `process_media_source_state_event`.  A source that can stream again is `recover`ed. -/
def processSourceEvent (cfg : MediaConfig) (recover : SourceEvent → MediaProg Unit)
    (e : SourceEvent) : MediaProg Unit := do
  if e.valid ∧ e.kind ≠ .unknown then
    let reconfiguring ← Prog.read fun s : MediaState => s.params.reconfigure.isSome
    let configured := cfg.sourceOf e.kind
    if !reconfiguring ∧ (configured = "" ∨ e.sourceIn cfg = configured) then
      if e.isTerminal then stopSource cfg e
      else if e.isStreamable then recover e

/-! ## The progress hook -/

/-- The events to work on; the deferred ones only if calls are allowed. -/
def Sources.take (allowClientCalls : Bool) (q : Sources) : List SourceEvent × Sources :=
  if allowClientCalls then (q.deferred ++ q.pending, { q with deferred := [], pending := [] })
  else (q.pending, { q with pending := [] })

/-- An event that was deferred is dropped if there is a later one of its kind. -/
def deferredIsCurrent (e : SourceEvent) : MediaProg Bool :=
  if e.deferredClientAction then
    Prog.read fun s => e.order = s.sources.latestOrder.get e.kind
  else pure true

/-- The hook works on an event.  One that needs a call is deferred, so that none is recovered
    here. -/
def progressEvent (cfg : MediaConfig) (e : SourceEvent) : MediaProg Unit := do
  if ← deferredIsCurrent e then
    if e.valid ∧ e.kind ≠ .unknown ∧ !e.isTerminal ∧ e.isStreamable then
      MediaProg.sources fun q =>
        ((), { q with deferred := q.deferred ++ [{ e with deferredClientAction := true }] })
    else processSourceEvent cfg (fun _ => pure ()) e

/-- `publish_runtime_progress`: `process_pending_media_source_state_events` without calls. -/
def publishRuntimeProgress (cfg : MediaConfig) : MediaProg Unit := do
  let events ← MediaProg.sources (·.take false)
  Prog.forEach (progressEvent cfg) events

/-! ## Calls -/

/-- One poll of the client, with the hook. -/
def pollWithProgress (cfg : MediaConfig) (events : List SourceEvent) : MediaProg Unit := do
  Prog.forEach (enqueueSourceEvent cfg) events
  publishRuntimeProgress cfg

/-- `callJson`, with the parsed object of its response unless the call failed. -/
def callJson (cfg : MediaConfig) (method : Method) (params : Members)
    (operation : Bool := false) : MediaProg (Option Members) := do
  MediaProg.record [.sent method params operation]
  let reply ← Prog.input
  Prog.forEach (pollWithProgress cfg) reply.polls
  Prog.forEach (enqueueSourceEvent cfg) reply.rest
  Prog.write fun s : MediaState => { s with lastError := reply.error }
  return if reply.error.ok then reply.body else none

end Axent.Axtp
