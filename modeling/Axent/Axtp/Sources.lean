/-
  The source events of a leaf `AxtpAdapter` (`src/adapters/axtp_adapter.cpp`), as
  its pump works on them when it may call the peer, and the retries.

  A source that can stream again is recovered: the streams of the cycle that its
  stop began are closed, and then opened again.  Closing and opening work on
  further source events, so the pump goes on until there are none
  (`processPendingSourceEvents`).  How often it goes round is not bounded; the
  program has a bound, and does not go on behind it.
-/
import Axent.Axtp.Configure

namespace Axent.Axtp

open Lib

/-! ## A source can stream again -/

/-- `event_is_current`. -/
def eventIsCurrent (e : SourceEvent) : MediaProg Bool :=
  if e.order = 0 then pure true
  else Prog.read fun s => e.order = s.sources.latestOrder.get e.kind

/-- The retries of the kind are reset, unless the peer refuses the kind or a failed open still
    has to wait. -/
def Diagnostics.wake (kind : MediaKind) (now : ℕ) (d : Diagnostics) : Bool × Diagnostics :=
  let r := d.retry.get kind
  let deadline := if r.nextRecovery ≠ 0 then r.nextRecovery else r.nextConfigure
  if r.terminal || (r.recoveryPending && !r.sourceWaiting && deadline ≠ 0 && now < deadline) then
    (false, d)
  else
    (true, { d with retry := d.retry.modify kind fun r =>
      { r with
        sourceTerminal := false, sourceWaiting := false, recoveryPending := false
        nextRecovery := 0, nextConfigure := 0 } })

/-- The streams that are closed are taken out, those of the same generation. -/
def StreamTable.closeRecovered (t : StreamTable) :
    List StreamDescriptor → StreamTable × List LifecycleEvent
  | [] => (t, [])
  | d :: ds =>
    match t.active[d.streamId]? with
    | some current =>
      if current.generation = d.generation then
        let (t', events) := (t.erase d.streamId).closeRecovered ds
        (t', { kind := .closed, descriptor := current, reason := .sourceRecovery } :: events)
      else t.closeRecovered ds
    | none => t.closeRecovered ds

/-- The streams of the cycle, to be closed once. -/
def Streams.takeRecoveryCloses (kind : MediaKind) (st : Streams) :
    (List StreamDescriptor × List LifecycleEvent × ℕ) × Streams :=
  if kind = .video ∧ st.cycleActive ∧ !st.closeSent then
    let closes := st.pendingClose.video.toList ++ st.pendingClose.audio.toList
    let (table, events) := st.table.closeRecovered closes
    ((closes, events, table.active.size),
      { st with table := table, pendingClose := ⟨none, none⟩, closeSent := true })
  else (([], [], 0), st)

/-- The diagnostics after the streams of the cycle were taken out. -/
def Diagnostics.recoveryClosed (count : ℕ) (d : Diagnostics) : Diagnostics :=
  { d with
    activeMediaStreams := count
    activeStreamId := if count = 0 then ⟨0, 0⟩ else d.activeStreamId }

/-- The parameters of a `closeStream` with its reason. -/
def closeParams (streamId : ℕ) (reason : String) : Members :=
  .ofList [("streamId", .numberUnsigned (.ofNat streamId)), ("peerRole", .string "transmitter"),
    ("reason", .string reason)]

/-- The streams of the cycle are closed at the peer; whether the event is still the latest.
    `again` works on the events that came in meanwhile. -/
def sendRecoveryCloses (cfg : MediaConfig) (again : MediaProg Unit) (e : SourceEvent)
    (closes : List StreamDescriptor) : MediaProg Bool := do
  let connected ← Prog.read fun s : MediaState => s.connected
  if closes.isEmpty || !connected then return true
  Prog.forEach (fun d : StreamDescriptor => do
    let _ ← callJson cfg (.closeStream d.kind) (closeParams d.streamId "sourceRecovery")) closes
  again
  eventIsCurrent e

def isActiveKind (kind : MediaKind) : MediaProg Bool :=
  Prog.read fun s => (s.streams.table.firstOf kind).isSome

/-- `schedule_recovery_retry`. -/
def scheduleRecoveryRetry (kind : MediaKind) : MediaProg Unit := do
  let now ← Prog.read fun s : MediaState => s.now
  MediaProg.diagnostics fun d => ((), { d with retry := d.retry.modify kind fun r =>
    { r with
      recoveryPending := true
      nextRecovery :=
        if r.nextRecovery ≠ 0 then r.nextRecovery
        else if r.nextConfigure = 0 then now + configureRetryInterval else r.nextConfigure } })

def MediaKind.other : MediaKind → MediaKind
  | video => audio
  | _ => video

def configureForRecovery (cfg : MediaConfig) (kind : MediaKind) : MediaProg Bool :=
  configureMediaStreamKind cfg kind false false .sourceRecovery

/-- The kind of the event is opened, unless it is open or there is a later event. -/
def reopenCurrent (cfg : MediaConfig) (e : SourceEvent) : MediaProg Bool := do
  if ← isActiveKind e.kind then return true
  if ← eventIsCurrent e then configureForRecovery cfg e.kind else return false

/-- The other kind is opened if it was closed with the cycle; whether it still is to be. -/
def reopenOther (cfg : MediaConfig) (kind : MediaKind) (closes : List StreamDescriptor) :
    MediaProg Bool := do
  let closed := closes.any (·.kind = kind)
  let terminal ← Prog.read fun s : MediaState => (s.diagnostics.retry.get kind).sourceTerminal
  let opened ← isActiveKind kind
  if closed && !terminal && !opened then
    let opened ← configureForRecovery cfg kind
    return !opened
  else return false

/-- After the streams of the cycle were closed, both kinds are opened. -/
def reopenPair (cfg : MediaConfig) (e : SourceEvent) (closes : List StreamDescriptor) :
    MediaProg Unit := do
  let opened ← reopenCurrent cfg e
  let otherMissing ← reopenOther cfg e.kind.other closes
  Prog.when (!opened) <| scheduleRecoveryRetry e.kind
  Prog.when otherMissing <| scheduleRecoveryRetry e.kind.other

/-- What is closed is opened again, unless it is open or a retry has to wait. -/
def reopenSource (cfg : MediaConfig) (e : SourceEvent) (closes : List StreamDescriptor) :
    MediaProg Unit := do
  if ← isActiveKind e.kind then
    MediaProg.diagnostics fun d => ((), { d with retry := d.retry.modify e.kind fun r =>
      { r with recoveryPending := false, nextRecovery := 0 } })
  else
    let now ← Prog.read fun s : MediaState => s.now
    let r ← Prog.read fun s : MediaState => s.diagnostics.retry.get e.kind
    if r.recoveryPending && now < r.nextRecovery then return ()
    if !closes.isEmpty then reopenPair cfg e closes
    else if ← eventIsCurrent e then
      let opened ← configureForRecovery cfg e.kind
      Prog.when (!opened) <| scheduleRecoveryRetry e.kind

/-- The streamable branch of `process_media_source_state_event`. -/
def recoverSource (cfg : MediaConfig) (again : MediaProg Unit) (e : SourceEvent) :
    MediaProg Unit := do
  let now ← Prog.read fun s : MediaState => s.now
  if ← MediaProg.diagnostics (·.wake e.kind now) then
    let (closes, events, count) ← MediaProg.streams (·.takeRecoveryCloses e.kind)
    Prog.when (!closes.isEmpty) <| MediaProg.diagnostics fun d => ((), d.recoveryClosed count)
    enqueueStreamEvents events
    if ← sendRecoveryCloses cfg again e closes then reopenSource cfg e closes

/-- The pump works on an event. -/
def pumpEvent (cfg : MediaConfig) (again : MediaProg Unit) (e : SourceEvent) : MediaProg Unit := do
  if ← deferredIsCurrent e then processSourceEvent cfg (recoverSource cfg again) e

/-- `process_pending_media_source_state_events`, with calls. -/
def processPendingSourceEvents (cfg : MediaConfig) : ℕ → MediaProg Unit
  | 0 => .halt
  | n + 1 => do
    let events ← MediaProg.sources (·.take true)
    if events.isEmpty then return ()
    Prog.forEach (pumpEvent cfg (processPendingSourceEvents cfg n)) events
    processPendingSourceEvents cfg n

/-! ## The other work of the pump -/

/-- `run_pending_orphan_stream_closes`. -/
def runPendingOrphanCloses (cfg : MediaConfig) : MediaProg Unit := do
  let closes ← MediaProg.sources fun q => (q.orphanCloses, { q with orphanCloses := [] })
  let connected ← Prog.read fun s : MediaState => s.connected
  if connected then
    Prog.forEach (fun close : MediaKind × ℕ => do
      let _ ← callJson cfg (.closeStream close.1)
        (closeParams close.2 "sourceTerminalDuringOpen")) closes

/-- `retry_kind`. -/
def retryKind (cfg : MediaConfig) (bound now : ℕ) (kind : MediaKind) : MediaProg Unit := do
  let retry ← MediaProg.diagnostics fun d =>
    let r := d.retry.get kind
    if r.recoveryPending ∧ !r.sourceTerminal ∧ r.nextRecovery ≤ now then
      (true, { d with retry := d.retry.modify kind fun r =>
        { r with nextRecovery := now + configureRetryInterval } })
    else (false, d)
  if retry then
    let _ ← configureForRecovery cfg kind
    processPendingSourceEvents cfg bound

/-- `retry_pending_media_source_recoveries`. -/
def retryPendingRecoveries (cfg : MediaConfig) (bound now : ℕ) : MediaProg Unit := do
  retryKind cfg bound now .video
  retryKind cfg bound now .audio

/-- The kind is enabled and has no stream, and nothing holds its open back. -/
def Diagnostics.shouldConfigure (d : Diagnostics) (enabled : Bool) (kind : MediaKind) : Bool :=
  let r := d.retry.get kind
  enabled && d.activeStreamId.get kind = 0 && !r.sourceTerminal && !r.recoveryPending

/-- The next attempt of the kind is due. -/
def Diagnostics.configureDue (d : Diagnostics) (kind : MediaKind) (now : ℕ) : Bool :=
  (d.retry.get kind).nextConfigure ≤ now

/-- `configure_media_streams`. -/
def configureMediaStreams (cfg : MediaConfig) (reason : MediaStreamEventReason) :
    MediaProg Unit := do
  let now ← Prog.read fun s : MediaState => s.now
  let (video, audio) ← Prog.read fun s : MediaState =>
    let d := s.diagnostics
    (d.shouldConfigure cfg.enableVideo .video &&
      (reason ≠ .initialOpen || d.configureDue .video now),
     d.shouldConfigure cfg.enableAudio .audio &&
      (reason ≠ .initialOpen || d.configureDue .audio now))
  Prog.when video do
    let _ ← configureMediaStreamKind cfg .video true false reason
  Prog.when audio do
    let _ ← configureMediaStreamKind cfg .audio true false reason

/-- `media_configure_retry_due_locked`. -/
def Diagnostics.retryDue (d : Diagnostics) (cfg : MediaConfig) (now : ℕ) : Bool :=
  cfg.enableMedia &&
    ((d.shouldConfigure cfg.enableVideo .video && d.configureDue .video now) ||
      (d.shouldConfigure cfg.enableAudio .audio && d.configureDue .audio now))

/-- The pump opens the kinds that are missing. -/
def retryConfigure (cfg : MediaConfig) : MediaProg Unit := do
  let now ← Prog.read fun s : MediaState => s.now
  let due ← MediaProg.diagnostics fun d =>
    if d.retryDue cfg now then
      (true, { d with
        configureAttempts := d.configureAttempts + 1
        lastEvent := "media-open-retry-" ++ toString (d.configureAttempts + 1) })
    else (false, d)
  if due then configureMediaStreams cfg .initialOpen

/-- A poll of the pump. -/
def poll (cfg : MediaConfig) (events : List SourceEvent) : MediaProg Unit :=
  Prog.forEach (enqueueSourceEvent cfg) events

/-- A call of the peer for somebody else: a control call or a probe. -/
def callForOther (cfg : MediaConfig) (bound : ℕ) (method : String) (params : Members) :
    MediaProg Unit := do
  let _ ← callJson cfg (.control method) params
  processPendingSourceEvents cfg bound

end Axent.Axtp
