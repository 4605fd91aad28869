/-
  The threads of a leaf `AxtpAdapter` (`src/adapters/axtp_adapter.cpp`) that work on
  its media: the session is opened and closed, its pump does one thing after the
  other, and other threads set the video parameters and bind leases.

  Opening the session and the work of the pump are done by the owner of the
  session, and there is one at a time; the rest runs side by side with it (`mediaRules`).
  The pump goes through its jobs in a fixed order; here they come in any order.
-/
import Axent.Lib.Pool
import Axent.Axtp.Reconfigure

namespace Axent.Axtp

open Lib

/-! ## The session is closed and opened -/

/-- The diagnostics without streams. -/
def Diagnostics.cleared (d : Diagnostics) : Diagnostics :=
  let clear := fun r : Retry =>
    { r with
      sourceTerminal := false, sourceWaiting := false, recoveryPending := false
      nextRecovery := 0 }
  { d with
    activeStreamId := ⟨0, 0⟩
    activeMediaStreams := 0
    configureAttempts := 0
    retry := ⟨clear d.retry.video, clear d.retry.audio⟩ }

/-- `clear_media_streams`. -/
def clearMediaStreams (reason : MediaStreamEventReason) : MediaProg Unit := do
  let events ← MediaProg.streams fun st =>
    ((st.table.clear reason).2, { table := (st.table.clear reason).1 })
  enqueueStreamEvents events
  Prog.write fun s : MediaState =>
    { s with diagnostics := s.diagnostics.cleared, sources := {} }

/-- `clear_video_stream_params_session`. -/
def clearVideoParams (preserve : Bool) : MediaProg Unit :=
  .write fun s =>
    { s.record [.cleared none] with
      params := {
        nextReconfigureId := s.params.nextReconfigureId
        state := { sessionId := if preserve then s.params.state.sessionId else "" } } }

/-- The client is closed. -/
def closeClient : MediaProg Unit := .write fun s => { s with connected := false }

/-- The session is closed. -/
def Diagnostics.sessionClosed (d : Diagnostics) : Diagnostics :=
  { d with deviceActive := false, isOpen := false }

/-- The retries start anew. -/
def Diagnostics.retriesReset (d : Diagnostics) : Diagnostics :=
  let reset := fun r : Retry => { sourceWaiting := r.sourceWaiting : Retry }
  { d with retry := ⟨reset d.retry.video, reset d.retry.audio⟩ }

/-- `reset_session_for_device`, once the pump has stopped. -/
def resetSession : MediaProg Unit := do
  closeClient
  MediaProg.diagnostics fun d => ((), d.sessionClosed.retriesReset)
  clearMediaStreams .shutdown
  clearVideoParams false

/-- The first half of `recover_session_once`, once the pump has stopped. -/
def dropSession : MediaProg Unit := do
  closeClient
  MediaProg.diagnostics fun d => ((), d.sessionClosed)
  clearMediaStreams .sessionRecovery
  clearVideoParams true

/-- The handshake, with the progress hook; whether the peer is ready. -/
def ensureAppReady (cfg : MediaConfig) : MediaProg Bool := do
  let reply ← Prog.input
  Prog.forEach (pollWithProgress cfg) reply.polls
  Prog.forEach (enqueueSourceEvent cfg) reply.rest
  Prog.write fun s : MediaState =>
    { s with
      connected := true
      diagnostics := { s.diagnostics with
        lastEvent := if reply.error.message = "" then s.diagnostics.lastEvent
          else reply.error.message } }
  return reply.error.ok

/-- The video parameters of a new session, for the lease that is bound. -/
def initVideoParams (cfg : MediaConfig) : MediaProg Unit := do
  let bound ← Prog.read fun s : MediaState => s.bound
  Prog.write fun s : MediaState =>
    { s.record [.cleared cfg.videoFrameRate] with
      params := { s.params with
        frameRate := cfg.videoFrameRate
        suppressVideoAutoOpen := false
        state := {
          sessionId := bound.getD ""
          source := cfg.videoSource
          desiredFrameRate := cfg.videoFrameRate } } }

/-- The session counts as open. -/
def Diagnostics.sessionOpened (d : Diagnostics) : Diagnostics :=
  { d with
    deviceActive := true
    isOpen := true
    lastEvent :=
      if d.activeMediaStreams = 0 ∧ (d.lastEvent = "" ∨ "app-ready".isPrefixOf d.lastEvent) then
        "app-ready"
      else d.lastEvent }

/-- `ensure_session_locked`. -/
def ensureSession (cfg : MediaConfig) (configureMedia : Bool) (reason : MediaStreamEventReason) :
    MediaProg Unit := do
  let ready ← Prog.read fun s : MediaState => s.diagnostics.sessionActive
  if ready then return ()
  closeClient
  MediaProg.diagnostics fun d =>
    ((), (if d.deviceActive then d.sessionClosed else d).retriesReset)
  clearMediaStreams .shutdown
  clearVideoParams false
  if ← ensureAppReady cfg then
    initVideoParams cfg
    Prog.when configureMedia <| configureMediaStreams cfg reason
    MediaProg.diagnostics fun d => ((), d.sessionOpened)
  else
    closeClient
    MediaProg.diagnostics fun d => ((), d.sessionClosed)

/-! ## Jobs -/

/-- What a thread can be at. -/
inductive Job where
  | advance
  | processPending (bound : ℕ)
  | orphanCloses
  | retryRecoveries (bound now : ℕ)
  | retryConfigure
  | poll (events : List SourceEvent)
  | callForOther (bound : ℕ) (method : String) (params : Members)
  | openSession (configureMedia : Bool) (reason : MediaStreamEventReason)
  | resetSession
  | dropSession
  | setParams (request : ParamsRequest)
  | bind (sessionId : String)
  | unbind (sessionId : String)

namespace Job

def prog (cfg : MediaConfig) : Job → MediaProg Unit
  | advance => advanceVideoReconfigure cfg
  | processPending bound => processPendingSourceEvents cfg bound
  | orphanCloses => runPendingOrphanCloses cfg
  | retryRecoveries bound now => retryPendingRecoveries cfg bound now
  | retryConfigure => Axtp.retryConfigure cfg
  | poll events => Axtp.poll cfg events
  | callForOther bound method params => Axtp.callForOther cfg bound method params
  | openSession configureMedia reason => ensureSession cfg configureMedia reason
  | resetSession => Axtp.resetSession
  | dropSession => Axtp.dropSession
  | setParams request => setVideoStreamParams cfg request
  | bind sessionId => bindMediaDeliverySession sessionId
  | unbind sessionId => unbindMediaDeliverySession sessionId

/-- The job is done by the owner of the session. -/
def byOwner : Job → Bool
  | resetSession | dropSession | setParams _ | bind _ | unbind _ => false
  | _ => true

end Job

/-- Time goes on, and the owner copies whether the transport is open
    (`snapshot_transport_diagnostics_from_runtime`). -/
def MediaState.Later (s s' : MediaState) : Prop :=
  ∃ now ≥ s.now, ∃ isOpen, (s.connected = false → isOpen = s.diagnostics.isOpen) ∧
    s' = { s with now := now, diagnostics := { s.diagnostics with isOpen := isOpen } }

/-- The threads of the leaf: one owner at a time.  A reset and a recovery stop the owner before
    they close the client; they are let run alongside it here from their beginning. -/
def mediaRules (cfg : MediaConfig) : Rules MediaState Reply Job where
  prog := Job.prog cfg
  alongside a b := ¬ (a.byOwner ∧ b.byOwner)
  tick := MediaState.Later

abbrev Media := Pool MediaState Reply Job

/-- The state after a job has run by itself, on these replies. -/
def Job.after (cfg : MediaConfig) (job : Job) (replies : List Reply) (s : MediaState) :
    MediaState :=
  ((job.prog cfg).exec replies s).2

/-- The job comes to its end by itself, on these replies. -/
def Job.ends (cfg : MediaConfig) (job : Job) (replies : List Reply) (s : MediaState) : Bool :=
  ((job.prog cfg).exec replies s).1.isDone

/-- The runs from a state in which no thread works on media. -/
abbrev MediaRun (cfg : MediaConfig) (x : MediaState) : List (PoolEvent Job) → Media → Prop :=
  Run (PoolStep (mediaRules cfg)) ⟨x, fun _ => none⟩

theorem Job.run_after {cfg : MediaConfig} {job : Job} {replies : List Reply} {s : MediaState}
    (h : job.ends cfg replies s) :
    ∃ t, MediaRun cfg s t ⟨job.after cfg replies s, fun _ => none⟩ := by
  obtain ⟨n, hrun⟩ := Run.exec_job (R := mediaRules cfg) ⟨s, fun _ => none⟩ 0 job replies
    rfl (fun _ => trivial) nofun h
  exact ⟨_, hrun⟩

/-- The events of a job that runs by itself in a thread. -/
def Job.trace (job : Job) (thread n : ℕ) : List (PoolEvent Job) :=
  .start thread job :: (List.replicate n (.step thread) ++ [.finish thread])

/-- A job runs by itself beside threads that wait. -/
theorem Job.run_beside (cfg : MediaConfig) (job : Job) (replies : List Reply) (s : Media) (i : ℕ)
    (hi : s.running i = none) (hjob : job.byOwner = false) (h : job.ends cfg replies s.state) :
    ∃ n, Run (PoolStep (mediaRules cfg)) s (job.trace i n)
      { s with state := job.after cfg replies s.state } :=
  Run.exec_job (R := mediaRules cfg) s i job replies hi (fun _ => trivial)
    (fun _ _ _ _ hboth => by simp [hjob] at hboth) h

end Axent.Axtp
