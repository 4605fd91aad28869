/-
  The video parameters of a leaf `AxtpAdapter` (`src/adapters/axtp_adapter.cpp`).

  `set_video_stream_params` changes the frame rate.  It only notes what is asked
  for; the pump then closes the streams and opens them again with the new rate,
  over several iterations (`advanceVideoReconfigure`).  If that fails, it opens them
  once more with the old rate.  A lease is bound to the device and unbound by other
  threads.
-/
import Axent.Axtp.Sources

namespace Axent.Axtp

open Lib

/-! ## `set_video_stream_params` -/

def ParamsRequest.isValid (r : ParamsRequest) : Bool :=
  (r.frameRate.isSome ≠ r.resetFrameRate) ∧ r.frameRate ≠ some 0

/-- The rate that is asked for; nothing if it is to be reset. -/
def ParamsRequest.rate (r : ParamsRequest) : Option ℕ :=
  if r.resetFrameRate then none else r.frameRate

/-- The source does not have the rate that is asked for. -/
def Params.rateUnsupported (p : Params) (r : ParamsRequest) : Bool :=
  r.frameRate.any fun rate => p.frameRates ≠ [] ∧ rate ∉ p.frameRates

/-- The request is for the rate that is in force. -/
def Params.unchanged (p : Params) (video : Option StreamDescriptor) : Params :=
  { p with state := { p.state with
      state := .unchanged
      phase := if video.isSome then .streaming else .idle
      changedFields := [] } }

/-- A reconfiguration begins. -/
def Params.begin (cfg : MediaConfig) (requested : Option ℕ)
    (video audio : Option StreamDescriptor) (p : Params) : Params :=
  { p with
    reconfigure := some {
      previousFrameRate := p.frameRate
      requestedFrameRate := requested
      previousVideo := video
      previousAudio := audio
      previousVideoOpenParams := p.videoOpenParams
      previousAudioOpenParams := p.audioOpenParams }
    frameRate := requested
    suppressVideoAutoOpen := true
    nextReconfigureId := p.nextReconfigureId + 1
    state := { p.state with
      source := cfg.videoSource
      desiredFrameRate := requested
      effectiveFrameRate := ((video.map (·.frameRate)).filter (· ≠ 0)).or p.state.effectiveFrameRate
      reconfigureId := "vr-" ++ toString p.nextReconfigureId
      state := .pending
      phase := if video.isSome ∨ audio.isSome then .closing else .opening
      previousStreamId := video.map (·.streamId)
      activeStreamId := video.map (·.streamId)
      rollbackApplied := false
      lastError := none
      changedFields := ["frameRate"] } }

/-- The decision about a request that is well formed, and the new parameters. -/
def Params.decide (cfg : MediaConfig) (r : ParamsRequest) (video audio : Option StreamDescriptor)
    (sessionActive : Bool) (p : Params) : ParamsResult × Params :=
  let refuse := fun status => ({ status := status, state := p.state }, p)
  let accept := fun p' : Params => ({ accepted := true, state := p'.state }, p')
  if !sessionActive then refuse .invalidState
  else if p.reconfigure.isSome then refuse .busy
  else if video.isSome ∧ !p.supportsActiveReconfigure then refuse .notSupported
  else if p.rateUnsupported r then refuse .frameRateUnsupported
  else if p.frameRate = r.rate then accept (p.unchanged video)
  else accept (p.begin cfg r.rate video audio)

/-- The session with the device is open. -/
def Diagnostics.sessionActive (d : Diagnostics) : Bool := d.deviceActive && d.isOpen

/-- The section in which a request is answered. -/
def answerRequest (cfg : MediaConfig) (r : ParamsRequest) (video audio : Option StreamDescriptor)
    (sessionActive : Bool) : MediaProg ParamsResult :=
  .act fun s =>
    let (result, p) := s.params.decide cfg r video audio sessionActive
    (result, { s.record [.answered r sessionActive result] with params := p })

/-- `set_video_stream_params`. -/
def setVideoStreamParams (cfg : MediaConfig) (r : ParamsRequest) : MediaProg Unit := do
  if !r.isValid then MediaProg.record [.answered r false { status := .invalidArgument }]
  else
    let (video, audio) ← Prog.read fun s : MediaState =>
      (s.streams.table.firstOf .video, s.streams.table.firstOf .audio)
    let sessionActive ← Prog.read fun s : MediaState => s.diagnostics.sessionActive
    let result ← answerRequest cfg r video audio sessionActive
    if result.accepted ∧ result.state.state = .pending then notifyVideoParams result.state

/-! ## Leases -/

def VideoParams.withSession (v : VideoParams) (sessionId : String) : VideoParams :=
  { v with sessionId := sessionId }

/-- The parameters name the lease. -/
def nameSession (sessionId : String) : MediaProg Unit :=
  .write fun s =>
    { s.record [.named sessionId] with
      params := { s.params with state := s.params.state.withSession sessionId } }

/-- `bind_media_delivery_session`. -/
def bindMediaDeliverySession (sessionId : String) : MediaProg Unit := do
  Prog.write fun s : MediaState => { s with bound := some sessionId }
  nameSession sessionId

/-- The parameters do not name the lease any more. -/
def unnameSession (sessionId : String) : MediaProg Unit :=
  .write fun s =>
    if s.params.state.sessionId = sessionId then
      { s.record [.unnamed sessionId] with
        params := { s.params with state := s.params.state.withSession "" } }
    else s

/-- `unbind_media_delivery_session`, but for the frames that it drops. -/
def unbindMediaDeliverySession (sessionId : String) : MediaProg Unit := do
  let removed ← Prog.act fun s : MediaState =>
    if s.bound = some sessionId then (true, { s with bound := none }) else (false, s)
  Prog.when removed <| unnameSession sessionId

/-! ## `advance_video_reconfigure` -/

namespace Reconfigure

/-- The stream of a kind before the reconfiguration. -/
def previous (op : Reconfigure) (kind : MediaKind) : Option StreamDescriptor :=
  if kind = .video then op.previousVideo else op.previousAudio

def closeSent (op : Reconfigure) (kind : MediaKind) : Bool :=
  if kind = .video then op.videoCloseSent else op.audioCloseSent

def closeTerminal (op : Reconfigure) (kind : MediaKind) : Bool :=
  if kind = .video then op.videoCloseTerminal else op.audioCloseTerminal

def markSent (op : Reconfigure) (kind : MediaKind) : Reconfigure :=
  if kind = .video then { op with videoCloseSent := true } else { op with audioCloseSent := true }

def markTerminal (op : Reconfigure) (kind : MediaKind) : Reconfigure :=
  if kind = .video then { op with videoCloseTerminal := true }
  else { op with audioCloseTerminal := true }

def closed (op : Reconfigure) : Bool := op.videoCloseTerminal && op.audioCloseTerminal

/-- There are streams to close. -/
def closing (op : Reconfigure) : Bool :=
  (op.previousVideo.isSome || op.previousAudio.isSome) && !op.closed

/-- The deadline is set with the first close. -/
def withDeadline (op : Reconfigure) (now : ℕ) : Reconfigure :=
  if op.videoCloseSent || op.audioCloseSent then op else { op with closeDeadline := now + 5000 }

/-- Audio was open before, or can be opened as before. -/
def reopensAudio (op : Reconfigure) : Bool :=
  op.previousAudio.isSome || !op.previousAudioOpenParams.isEmpty

/-- Video can be opened again as it was before. -/
def canRollBack (op : Reconfigure) : Bool :=
  !op.rollback && (op.previousVideo.isSome || !op.previousVideoOpenParams.isEmpty)

/-- The rate that the streams are opened with. -/
def targetRate (op : Reconfigure) : Option ℕ :=
  if op.rollback then op.previousFrameRate else op.requestedFrameRate

/-- The streams are to be opened with the old rate. -/
def rolledBack (op : Reconfigure) : Reconfigure :=
  { op with rollback := true, videoOpened := false, audioOpened := false }

/-- The same after audio failed: the new video stream is closed first. -/
def rolledBackFrom (op : Reconfigure) (video : Option StreamDescriptor) : Reconfigure :=
  { op.rolledBack with
    previousVideo := video
    previousAudio := none
    videoCloseSent := false
    audioCloseSent := false
    videoCloseTerminal := video.isNone
    audioCloseTerminal := true }

end Reconfigure

/-- `kStatusMediaSourceUnavailable` and the like. -/
def statusMediaSourceUnavailable : FailureCode := .status 0x0802
def statusMediaStreamStartFailed : FailureCode := .status 0x0807
def statusMediaStreamStopFailed : FailureCode := .status 0x0808

/-- What went wrong. -/
abbrev Failure := FailureCode × String

/-- The parameters after a reconfiguration that failed. -/
def Params.finishFailed (op : Reconfigure) (failure : Failure) (preserve : Bool) (p : Params) :
    Params :=
  { p with
    frameRate := op.previousFrameRate
    reconfigure := none
    suppressVideoAutoOpen := !preserve
    state := { p.state with
      desiredFrameRate := op.previousFrameRate
      state := .failed
      phase := .failed
      rollbackApplied := false
      lastError := some failure
      activeStreamId := if preserve then p.state.activeStreamId else none
      effectiveFrameRate := if preserve then p.state.effectiveFrameRate else none } }

/-- `finish_failed`. -/
def finishFailed (op : Reconfigure) (failure : Failure) (preserve : Bool) : MediaProg Unit := do
  let state ← Prog.act fun s : MediaState =>
    let p := s.params.finishFailed op failure preserve
    (p.state, { s.record [.ended op .failed p.suppressVideoAutoOpen] with params := p })
  notifyVideoParams state

/-- The stream of the descriptor is taken out, if it is still the same generation. -/
def Streams.takeClosed (d : StreamDescriptor) (st : Streams) : (Bool × ℕ) × Streams :=
  let removed := st.table.active[d.streamId]?.any fun current =>
    current.kind = d.kind ∧ current.generation = d.generation
  let table := if removed then st.table.erase d.streamId else st.table
  ((removed, table.active.size), { st with table := table })

/-- `mark_previous_closed`. -/
def markPreviousClosed (d : StreamDescriptor) : MediaProg Unit := do
  let (removed, count) ← MediaProg.streams (·.takeClosed d)
  if removed then
    enqueueStreamEvents [{ kind := .closed, descriptor := d }]
    MediaProg.diagnostics fun g => ((), { g with
      activeStreamId := g.activeStreamId.modify d.kind fun _ => 0
      activeMediaStreams := count })

/-- The stream is asked to close, or asked for its state; the operation, and what the peer
    answers. -/
def callClose (cfg : MediaConfig) (kind : MediaKind) (d : StreamDescriptor) (op : Reconfigure) :
    MediaProg (Except Failure (Reconfigure × Members)) := do
  if !op.closeSent kind then
    let body ← callJson cfg (.closeStream kind) (closeParams d.streamId "encodingReconfigure")
    let error ← Prog.read fun s : MediaState => s.lastError
    if error.ok then return .ok (op.markSent kind, body.getD [])
    else
      return .error (.call error.code,
        if error.message = "" then kind.name ++ ".closeStream failed" else error.message)
  else
    let now ← Prog.read fun s : MediaState => s.now
    if op.closeDeadline ≤ now then
      return .error (statusMediaStreamStopFailed,
        kind.name ++ " stream did not reach a terminal state")
    else
      let body ← callJson cfg (.getStreamState kind) (streamIdParams d.streamId)
      return .ok (op, body.getD [])

/-- The answer says that the stream is closed; nothing if reading it throws. -/
def saysClosed (body : Members) : Option Bool :=
  if asciiLower ((Json.object body).stringOr "state") = "closed" then some true
  else (Json.object body).flag "alreadyClosed"

/-- `advance_close`. -/
def advanceClose (cfg : MediaConfig) (kind : MediaKind) (op : Reconfigure) :
    MediaProg (Except Failure Reconfigure) := do
  if op.closeTerminal kind then return .ok op
  match op.previous kind with
  | none => return .ok (op.markTerminal kind)
  | some d =>
    match ← callClose cfg kind d op with
    | .error failure => return .error failure
    | .ok (op, body) =>
      if asciiLower ((Json.object body).stringOr "state") = "failed" then
        return .error (statusMediaStreamStopFailed,
          kind.name ++ " stream close entered failed state")
      else
        match saysClosed body with
        | none => Prog.halt
        | some false => return .ok op
        | some true =>
          markPreviousClosed d
          return .ok (op.markTerminal kind)

/-- The operation is kept for the next iteration. -/
def Params.keepOperation (op : Reconfigure) (p : Params) : Params :=
  { p with reconfigure := p.reconfigure.map fun _ => op }

/-- `publish_state`, with the copy from the beginning of the step. -/
def publishCopy (state : VideoParams) : MediaProg Unit := do
  Prog.write fun s : MediaState =>
    { s.record [.restored state] with params := { s.params with state := state } }
  notifyVideoParams state

/-- The failure of an `openStream`. -/
def openFailure (kind : MediaKind) (event : String) (error : CallError) : Failure :=
  (if error.ok then
      if kind = .video ∧ (containsText event "source-waiting" ∨
          containsText event "capabilities-unavailable") then statusMediaSourceUnavailable
      else statusMediaStreamStartFailed
    else .call error.code,
   if error.message = "" then kind.name ++ ".openStream failed" else error.message)

/-- The parameters when the streams are to be opened with the old rate. -/
def Params.rollBack (op : Reconfigure) (failure : Failure) (phase : ParamsPhase) (p : Params) :
    Params :=
  { p with
    frameRate := op.previousFrameRate
    reconfigure := some op
    state := { p.state with
      desiredFrameRate := op.previousFrameRate
      phase := phase
      lastError := some failure } }

/-- The operation goes on with the old rate, if it is still there. -/
def rollBack (op : Reconfigure) (failure : Failure) (phase : ParamsPhase) : MediaProg Unit := do
  let state ← Prog.act fun s : MediaState =>
    let p := s.params.rollBack op failure phase
    if s.params.reconfigure.isSome then
      (some p.state, { s.record [.rolledBack op] with params := p })
    else (none, s)
  Prog.forEach notifyVideoParams state.toList

/-- Reads the failure of an `openStream`. -/
def readOpenFailure (kind : MediaKind) : MediaProg Failure :=
  Prog.read fun s => openFailure kind s.diagnostics.lastEvent s.lastError

def configureForOperation (cfg : MediaConfig) (kind : MediaKind) : MediaProg Bool :=
  configureMediaStreamKind cfg kind false true .parameterReconfigure

/-- Video is opened; nothing if the step ends here. -/
def openVideo (cfg : MediaConfig) (op : Reconfigure) : MediaProg (Option Reconfigure) := do
  if op.videoOpened then return some op
  if ← configureForOperation cfg .video then
    let op := { op with videoOpened := true }
    MediaProg.params fun p => ((), p.keepOperation op)
    return some op
  else
    let failure ← readOpenFailure .video
    if op.canRollBack then rollBack op.rolledBack failure .opening
    else finishFailed op failure false
    return none

/-- Audio is opened again, if it was open; nothing if the step ends here. -/
def openAudio (cfg : MediaConfig) (op : Reconfigure) : MediaProg (Option Reconfigure) := do
  if !op.reopensAudio || op.audioOpened then return some op
  if ← configureForOperation cfg .audio then return some { op with audioOpened := true }
  else
    let failure ← readOpenFailure .audio
    if !op.rollback then
      let video ← Prog.read fun s : MediaState => s.streams.table.firstOf .video
      rollBack (op.rolledBackFrom video) failure (if video.isSome then .closing else .opening)
    else finishFailed op failure false
    return none

/-- The parameters after a reconfiguration that came to its end. -/
def Params.complete (op : Reconfigure) (p : Params) : Params :=
  { p with
    reconfigure := none
    suppressVideoAutoOpen := false
    state := { p.state with
      state := if op.rollback then .rolledBack else .applied
      phase := if op.rollback then .rolledBack else .streaming
      rollbackApplied := op.rollback
      lastError := none } }

/-- The reconfiguration comes to its end. -/
def complete (op : Reconfigure) : MediaProg Unit := do
  let state ← Prog.act fun s : MediaState =>
    let p := s.params.complete op
    (p.state, { s.record [.ended op p.state.state false] with params := p })
  notifyVideoParams state

/-- The second half of a step: the streams are opened. -/
def advanceOpen (cfg : MediaConfig) (op : Reconfigure) : MediaProg Unit := do
  let going ← MediaProg.params fun p =>
    if p.reconfigure.isSome then
      (true, { p with state := { p.state with phase := .opening, state := .pending } })
    else (false, p)
  if going then
    match ← openVideo cfg op with
    | none => return ()
    | some op =>
      match ← openAudio cfg op with
      | none => return ()
      | some op =>
        if op.videoOpened ∧ (!op.reopensAudio ∨ op.audioOpened) then complete op

/-- The first half of a step: the streams are closed.  Whether all of them are. -/
def advanceCloses (cfg : MediaConfig) (op : Reconfigure) (state : VideoParams) :
    MediaProg (Option Reconfigure) := do
  let now ← Prog.read fun s : MediaState => s.now
  match ← advanceClose cfg .video (op.withDeadline now) with
  | .error failure =>
    finishFailed op failure true
    return none
  | .ok op =>
    match ← advanceClose cfg .audio op with
    | .error failure =>
      finishFailed op failure false
      return none
    | .ok op =>
      MediaProg.params fun p => ((), p.keepOperation op)
      if op.closed then
        publishCopy { state with activeStreamId := none, phase := .opening }
        return some op
      else return none

/-- The operation and a copy of the parameters. -/
def takeOperation : MediaProg (Option (Reconfigure × VideoParams)) :=
  Prog.read fun s =>
    if s.connected then s.params.reconfigure.map fun op => (op, s.params.state) else none

/-- `advance_video_reconfigure`. -/
def advanceVideoReconfigure (cfg : MediaConfig) : MediaProg Unit := do
  match ← takeOperation with
  | none => return ()
  | some (op, state) =>
    if op.closing then
      match ← advanceCloses cfg op state with
      | none => return ()
      | some op => advanceOpen cfg op
    else advanceOpen cfg op

end Axent.Axtp
