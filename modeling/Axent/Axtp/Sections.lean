/-
  What one section of the media work of a leaf `AxtpAdapter` can do.

  `MediaSection` lists the sections of the programs that work on streams and source
  events, and `JobSection` those of all jobs.  Every section of a program is in
  these lists (`Job.every_section`), so that what all of them keep holds along
  every run.
-/
import Axent.Axtp.Jobs

namespace Axent.Axtp

open Lib

/-- The diagnostics are the same but for the retries and the last event. -/
structure Diagnostics.SameStreams (d d' : Diagnostics) : Prop where
  deviceActive : d'.deviceActive = d.deviceActive
  isOpen : d'.isOpen = d.isOpen
  activeStreamId : d'.activeStreamId = d.activeStreamId
  activeMediaStreams : d'.activeMediaStreams = d.activeMediaStreams

/-- The parameters are the same but for what is known about the peer. -/
structure Params.SameState (p p' : Params) : Prop where
  state : p'.state = p.state
  frameRate : p'.frameRate = p.frameRate
  reconfigure : p'.reconfigure = p.reconfigure
  suppress : p'.suppressVideoAutoOpen = p.suppressVideoAutoOpen

/-- The sections of the work on streams and source events.  Calls for a reconfiguration are made
    only if `operation`. -/
inductive MediaSection (operation : Bool) (s : MediaState) : MediaState → Prop
  | same : MediaSection operation s s
  | sent (method : Method) (params : Members) :
      MediaSection operation s (s.record [.sent method params false])
  | sentOpen (kind : MediaKind) (params : Members) :
      MediaSection operation s (s.record [.sent (.openStream kind) params operation])
  | allocated (kind : MediaKind) (streamId : ℕ) :
      MediaSection operation s (s.record [.allocated kind streamId])
  | queued (events : List LifecycleEvent) :
      MediaSection operation s (s.record (events.map .queued))
  | notified (state : VideoParams) : MediaSection operation s (s.record [.notified state])
  | takeStopped (cfg : MediaConfig) (e : SourceEvent) :
      MediaSection operation s { s with streams := (s.streams.takeStopped cfg e).2 }
  | beginCycle (stopped : Option StreamDescriptor) :
      MediaSection operation s { s with streams := s.streams.beginCycle stopped }
  | publish (d : StreamDescriptor) (reason : MediaStreamEventReason) :
      MediaSection operation s
        { s.record [.published (s.streams.publish d reason).1.1] with
          streams := (s.streams.publish d reason).2 }
  | takeRecoveryCloses (kind : MediaKind) :
      MediaSection operation s { s with streams := (s.streams.takeRecoveryCloses kind).2 }
  | retried (d : Diagnostics) (h : s.diagnostics.SameStreams d) :
      MediaSection operation s { s with diagnostics := d }
  | sourceStopped (kind : MediaKind) (stopped : Bool) (count : ℕ) :
      MediaSection operation s
        { s with diagnostics := s.diagnostics.sourceStopped kind stopped count }
  | opened (kind : MediaKind) (streamId count : ℕ) (event : Option String) :
      MediaSection operation s
        { s with diagnostics := s.diagnostics.opened kind streamId count event }
  | recoveryClosed (count : ℕ) :
      MediaSection operation s { s with diagnostics := s.diagnostics.recoveryClosed count }
  | sources (q : Sources) (h : q.orphanCloses = s.sources.orphanCloses) :
      MediaSection operation s { s with sources := q }
  | orphaned (kind : MediaKind) (streamId : ℕ) :
      MediaSection operation s
        { s.record [.orphaned kind streamId] with
          sources :=
            { s.sources with orphanCloses := s.sources.orphanCloses ++ [(kind, streamId)] } }
  | orphansTaken :
      MediaSection operation s { s with sources := { s.sources with orphanCloses := [] } }
  | peer (p : Params) (h : s.params.SameState p) : MediaSection operation s { s with params := p }
  | paramsStopped :
      MediaSection operation s
        { s with params := { s.params with state := s.params.state.sourceStopped } }
  | videoOpened (d : StreamDescriptor) (response openParams : Members) :
      MediaSection operation s
        { s with params := (s.params.videoOpened d response openParams).2 }
  | called (error : CallError) : MediaSection operation s { s with lastError := error }
  | entered (kind : MediaKind) :
      MediaSection operation s
        { s.record [.entered kind] with depth := s.depth.modify kind (· + 1) }
  | configured (kind : MediaKind) (opened : Bool) :
      MediaSection operation s
        { s.record [.configured kind opened] with depth := s.depth.modify kind (· - 1) }

/-- Every section of the program is one of the list. -/
abbrev MediaProg.Listed {α : Type} (operation : Bool) (p : MediaProg α) : Prop :=
  Prog.Every (MediaSection operation) p

section
variable {operation : Bool} {cfg : MediaConfig} {α : Type}

open MediaProg (Listed)

theorem listed_read {f : MediaState → α} : Listed operation (Prog.read f) :=
  Prog.Every.act fun _ => .same

theorem listed_record {entries : List Entry}
    (h : ∀ s : MediaState, MediaSection operation s (s.record entries)) :
    Listed operation (MediaProg.record entries) :=
  Prog.Every.act h

theorem listed_params {f : Params → α × Params} (h : ∀ p : Params, p.SameState (f p).2) :
    Listed operation (MediaProg.params f) :=
  Prog.Every.act fun s => .peer _ (h s.params)

theorem listed_diagnostics {f : Diagnostics → α × Diagnostics}
    (h : ∀ d : Diagnostics, d.SameStreams (f d).2) : Listed operation (MediaProg.diagnostics f) :=
  Prog.Every.act fun s => .retried _ (h s.diagnostics)

theorem listed_sources {f : Sources → α × Sources}
    (h : ∀ q : Sources, (f q).2.orphanCloses = q.orphanCloses) :
    Listed operation (MediaProg.sources f) :=
  Prog.Every.act fun s => .sources _ (h s.sources)

/-! ## Source events and calls -/

theorem listed_enqueueStreamEvents (events : List LifecycleEvent) :
    Listed operation (enqueueStreamEvents events) :=
  listed_record fun _ => .queued events

theorem listed_notifyVideoParams (v : VideoParams) : Listed operation (notifyVideoParams v) :=
  listed_record fun _ => .notified v

theorem listed_enqueueSourceEvent (e : SourceEvent) :
    Listed operation (enqueueSourceEvent cfg e) := by
  refine .bind (listed_diagnostics fun d => ⟨rfl, rfl, rfl, rfl⟩) fun _ => ?_
  exact .bind listed_read fun _ => listed_sources fun _ => rfl

theorem listed_stopSource (e : SourceEvent) : Listed operation (stopSource cfg e) := by
  refine .bind (.act fun s => .takeStopped cfg e) fun ⟨stopped, foreign, count⟩ => ?_
  refine .ite ?_ ?_
  · exact .bind listed_read fun _ => .ite (listed_sources fun _ => rfl) (.pure _)
  · refine .bind (.ite (.act fun s => .beginCycle stopped) (.pure _)) fun _ => ?_
    refine .bind (.act fun s => .sourceStopped ..) fun _ => ?_
    refine .bind (listed_enqueueStreamEvents _) fun _ => .ite ?_ (.pure _)
    exact .bind (.act fun s => .paramsStopped) fun _ => listed_notifyVideoParams _

theorem listed_processSourceEvent {recover : SourceEvent → MediaProg Unit} (e : SourceEvent)
    (h : Listed operation (recover e)) : Listed operation (processSourceEvent cfg recover e) := by
  refine .ite (.bind listed_read fun _ => .ite ?_ (.pure _)) (.pure _)
  exact .ite (listed_stopSource e) (.ite h (.pure _))

theorem listed_deferredIsCurrent (e : SourceEvent) : Listed operation (deferredIsCurrent e) :=
  .ite listed_read (.pure _)

theorem listed_publishRuntimeProgress : Listed operation (publishRuntimeProgress cfg) := by
  refine .bind (listed_sources fun q => rfl) fun _ => .forEach (fun e => ?_) _
  refine .bind (listed_deferredIsCurrent e) fun _ => .ite (.ite ?_ ?_) (.pure _)
  · exact listed_sources fun _ => rfl
  · exact listed_processSourceEvent e (.pure _)

theorem listed_pollWithProgress (events : List SourceEvent) :
    Listed operation (pollWithProgress cfg events) :=
  .bind (.forEach listed_enqueueSourceEvent events) fun _ => listed_publishRuntimeProgress

theorem listed_awaitReply {sent : MediaProg Unit} (h : Listed operation sent) :
    Listed operation (sent >>= fun _ => Prog.input >>= fun reply : Reply =>
      Prog.forEach (pollWithProgress cfg) reply.polls >>= fun _ =>
      Prog.forEach (enqueueSourceEvent cfg) reply.rest >>= fun _ =>
      Prog.write (fun s : MediaState => { s with lastError := reply.error }) >>= fun _ =>
      pure (if reply.error.ok then reply.body else none)) := by
  refine .bind h fun _ => .bind .input fun reply => ?_
  refine .bind (.forEach listed_pollWithProgress _) fun _ => ?_
  refine .bind (.forEach listed_enqueueSourceEvent _) fun _ => ?_
  exact .bind (.act fun s => .called reply.error) fun _ => .pure _

theorem listed_callJson (method : Method) (params : Members) :
    Listed operation (callJson cfg method params) :=
  listed_awaitReply (listed_record fun _ => .sent method params)

theorem listed_callJson_open (kind : MediaKind) (params : Members) :
    Listed operation (callJson cfg (.openStream kind) params operation) :=
  listed_awaitReply (listed_record fun _ => .sentOpen kind params)

/-! ## A stream is opened -/

theorem listed_markRetryFailure (kind : MediaKind) (terminal waiting : Bool) :
    Listed operation (markRetryFailure kind terminal waiting) :=
  .bind listed_read fun _ => listed_diagnostics fun _ => ⟨rfl, rfl, rfl, rfl⟩

theorem listed_setLastEvent (text : String) : Listed operation (setLastEvent text) :=
  listed_diagnostics fun _ => ⟨rfl, rfl, rfl, rfl⟩

theorem listed_fetchCapabilities (kind : MediaKind) :
    Listed operation (fetchCapabilities cfg kind) := by
  refine .bind listed_read fun cached => ?_
  cases cached with
  | some _ => exact (.pure _)
  | none =>
    refine .bind (listed_callJson _ _) fun body => ?_
    cases body with
    | none => exact (.pure _)
    | some body =>
      simp only
      split
      · exact .halt
      · exact .bind (.when (listed_params fun _ => ⟨rfl, rfl, rfl, rfl⟩)) fun _ => .pure _

theorem listed_checkCapabilities (kind : MediaKind) (capabilities : Option Json) :
    Listed operation (checkCapabilities cfg kind capabilities) := by
  cases capabilities with
  | none =>
    refine .ite (.pure _) (.bind listed_read fun _ => ?_)
    refine .bind (listed_markRetryFailure ..) fun _ => ?_
    exact .bind (listed_setLastEvent _) fun _ => .pure _
  | some capabilities =>
    simp only [checkCapabilities]
    split
    · exact .halt
    · refine .ite (.pure _) (.bind (listed_markRetryFailure ..) fun _ => ?_)
      exact .bind (listed_setLastEvent _) fun _ => .pure _

theorem listed_acceptStream (kind : MediaKind) (codec : String) (response : Members)
    (a : Attempt) : Listed operation (acceptStream cfg kind codec response a) :=
  .ite (.pure _) (.bind (listed_callJson _ _) fun _ => .pure _)

theorem listed_openCandidate (kind : MediaKind) (codec : String) (a : Attempt) :
    Listed operation (openCandidate cfg kind operation codec a) := by
  refine .bind (listed_callJson_open _ _) fun response => ?_
  cases response with
  | none => exact .bind listed_read fun _ => .pure _
  | some response =>
    refine .ite (.pure _) (.bind (listed_record fun _ => .allocated _ _) fun _ => ?_)
    exact listed_acceptStream ..

theorem listed_openCandidates (kind : MediaKind) (codecs : List String) (a : Attempt) :
    Listed operation (openCandidates cfg kind operation codecs a) := by
  induction codecs generalizing a with
  | nil => exact (.pure _)
  | cons codec codecs ih =>
    refine .bind (listed_openCandidate kind codec a) fun a => ?_
    refine .bind listed_read fun _ => .ite ?_ (.pure _)
    exact .bind (listed_setLastEvent _) fun _ => ih _

theorem listed_publishStream (kind : MediaKind) (update : Bool) (reason : MediaStreamEventReason)
    (a : Attempt) (response : Members) (d : StreamDescriptor) :
    Listed operation (publishStream kind update reason a response d) := by
  refine .bind (.act fun s => .publish d reason) fun ⟨opened, events, count⟩ => ?_
  refine .bind (listed_enqueueStreamEvents _) fun _ => ?_
  refine .bind (.act fun s => .opened ..) fun _ => .ite ?_ ?_
  · exact .bind (.act fun s => .videoOpened ..) fun _ => .forEach listed_notifyVideoParams _
  · exact listed_params fun _ => ⟨rfl, rfl, rfl, rfl⟩

theorem listed_settleStream (kind : MediaKind) (update : Bool) (reason : MediaStreamEventReason)
    (a : Attempt) (response : Members) :
    Listed operation (settleStream cfg kind update reason a response) := by
  refine .bind (listed_sources fun _ => rfl) fun _ => ?_
  refine .bind (listed_diagnostics fun _ => ⟨rfl, rfl, rfl, rfl⟩) fun _ => .ite ?_ ?_
  · exact .bind (.act fun s => .orphaned ..) fun _ => .pure _
  · exact .bind (listed_publishStream ..) fun _ => .pure _

theorem listed_openStream (kind : MediaKind) (update : Bool) (reason : MediaStreamEventReason) :
    Listed operation (openStream cfg kind update operation reason) := by
  refine .bind listed_read fun rate => .bind (listed_fetchCapabilities kind) fun capabilities => ?_
  refine .bind (listed_checkCapabilities ..) fun _ => .ite (.pure _) ?_
  refine .bind (.when (listed_params fun _ => ⟨rfl, rfl, rfl, rfl⟩)) fun _ => ?_
  refine .bind (.ite listed_read listed_read) fun ⟨openParams, codecs⟩ => ?_
  refine .ite (.bind (listed_markRetryFailure ..) fun _ => .pure _) ?_
  refine .bind (listed_openCandidates ..) fun a => ?_
  cases hresponse : a.response with
  | none =>
    refine .bind (listed_markRetryFailure ..) fun _ => ?_
    exact .bind (listed_setLastEvent _) fun _ => .pure _
  | some response => exact listed_settleStream ..

theorem listed_configureMediaStreamKind (kind : MediaKind) (update : Bool)
    (reason : MediaStreamEventReason) :
    Listed operation (configureMediaStreamKind cfg kind update operation reason) := by
  refine .bind listed_read fun _ => .ite (.pure _) ?_
  refine .bind listed_read fun _ => .ite (.pure _) ?_
  refine .bind listed_read fun _ => .ite (.pure _) ?_
  refine .bind (.act fun s => .entered kind) fun _ => ?_
  refine .bind (listed_openStream ..) fun opened => .bind (listed_sources fun _ => rfl) fun _ => ?_
  exact .bind (.act fun s => .configured kind opened) fun _ => .pure _

end

/-! ## The work of the pump -/

section
variable {cfg : MediaConfig}

open MediaProg (Listed)

theorem listed_configureForRecovery (kind : MediaKind) :
    Listed false (configureForRecovery cfg kind) :=
  listed_configureMediaStreamKind ..

theorem listed_eventIsCurrent (e : SourceEvent) : Listed false (eventIsCurrent e) :=
  .ite (.pure _) listed_read

theorem listed_sendRecoveryCloses {again : MediaProg Unit} (e : SourceEvent)
    (closes : List StreamDescriptor) (h : Listed false again) :
    Listed false (sendRecoveryCloses cfg again e closes) := by
  refine .bind listed_read fun _ => .ite (.pure _) ?_
  refine .bind (.forEach (fun d => .bind (listed_callJson _ _) fun _ => .pure _) _) fun _ => ?_
  exact .bind h fun _ => listed_eventIsCurrent e

theorem listed_scheduleRecoveryRetry (kind : MediaKind) :
    Listed false (scheduleRecoveryRetry kind) :=
  .bind listed_read fun _ => listed_diagnostics fun _ => ⟨rfl, rfl, rfl, rfl⟩

theorem listed_reopenCurrent (e : SourceEvent) : Listed false (reopenCurrent cfg e) :=
  .bind listed_read fun _ => .ite (.pure _) <| .bind (listed_eventIsCurrent e) fun _ =>
    .ite (listed_configureForRecovery _) (.pure _)

theorem listed_reopenOther (kind : MediaKind) (closes : List StreamDescriptor) :
    Listed false (reopenOther cfg kind closes) :=
  .bind listed_read fun _ => .bind listed_read fun _ =>
    .ite (.bind (listed_configureForRecovery _) fun _ => .pure _) (.pure _)

theorem listed_reopenPair (e : SourceEvent) (closes : List StreamDescriptor) :
    Listed false (reopenPair cfg e closes) := by
  refine .bind (listed_reopenCurrent e) fun _ => .bind (listed_reopenOther ..) fun _ => ?_
  exact .bind (.when (listed_scheduleRecoveryRetry _)) fun _ =>
    .when (listed_scheduleRecoveryRetry _)

theorem listed_reopenSource (e : SourceEvent) (closes : List StreamDescriptor) :
    Listed false (reopenSource cfg e closes) := by
  refine .bind listed_read fun _ => .ite (listed_diagnostics fun _ => ⟨rfl, rfl, rfl, rfl⟩) ?_
  refine .bind listed_read fun _ => .bind listed_read fun _ => .ite (.pure _) ?_
  refine .ite (listed_reopenPair e closes) ?_
  refine .bind (listed_eventIsCurrent e) fun _ => .ite ?_ (.pure _)
  exact .bind (listed_configureForRecovery _) fun _ => .when (listed_scheduleRecoveryRetry _)

theorem Diagnostics.sameStreams_wake (kind : MediaKind) (now : ℕ) (d : Diagnostics) :
    d.SameStreams (d.wake kind now).2 := by
  simp only [wake]
  split_ifs <;> exact ⟨rfl, rfl, rfl, rfl⟩

theorem listed_recoverSource {again : MediaProg Unit} (e : SourceEvent) (h : Listed false again) :
    Listed false (recoverSource cfg again e) := by
  refine .bind listed_read fun now => ?_
  refine .bind (listed_diagnostics (Diagnostics.sameStreams_wake e.kind now)) fun _ => ?_
  refine .ite ?_ (.pure _)
  refine .bind (.act fun s => .takeRecoveryCloses e.kind) fun ⟨closes, events, count⟩ => ?_
  refine .bind (.when (.act fun s => .recoveryClosed count)) fun _ => ?_
  refine .bind (listed_enqueueStreamEvents _) fun _ => ?_
  refine .bind (listed_sendRecoveryCloses e closes h) fun _ => ?_
  exact .ite (listed_reopenSource e closes) (.pure _)

theorem listed_processPendingSourceEvents (bound : ℕ) :
    Listed false (processPendingSourceEvents cfg bound) := by
  induction bound with
  | zero => exact .halt
  | succ n ih =>
    refine .bind (listed_sources fun _ => rfl) fun events => .ite (.pure _) ?_
    refine .bind (.forEach (fun e => ?_) _) fun _ => ih
    refine .bind (listed_deferredIsCurrent e) fun _ => .ite ?_ (.pure _)
    exact listed_processSourceEvent e (listed_recoverSource e ih)

theorem listed_runPendingOrphanCloses : Listed false (runPendingOrphanCloses cfg) := by
  refine .bind (.act fun s => .orphansTaken) fun _ => .bind listed_read fun _ => .ite ?_ (.pure _)
  exact .forEach (fun close => .bind (listed_callJson _ _) fun _ => .pure _) _

theorem listed_retryKind (bound now : ℕ) (kind : MediaKind) :
    Listed false (retryKind cfg bound now kind) := by
  refine .bind (listed_diagnostics fun d => ?_) fun _ => .ite ?_ (.pure _)
  · simp only
    split
    · exact ⟨rfl, rfl, rfl, rfl⟩
    · exact ⟨rfl, rfl, rfl, rfl⟩
  · exact .bind (listed_configureForRecovery kind) fun _ => listed_processPendingSourceEvents bound

theorem listed_configureMediaStreams (reason : MediaStreamEventReason) :
    Listed false (configureMediaStreams cfg reason) := by
  refine .bind listed_read fun _ => .bind listed_read fun ⟨video, audio⟩ => ?_
  refine .bind (.when (.bind (listed_configureMediaStreamKind ..) fun _ => .pure _)) fun _ => ?_
  exact .when (.bind (listed_configureMediaStreamKind ..) fun _ => .pure _)

theorem listed_retryConfigure : Listed false (retryConfigure cfg) := by
  refine .bind listed_read fun _ => .bind (listed_diagnostics fun d => ?_) fun _ =>
    .ite (listed_configureMediaStreams _) (.pure _)
  split
  · exact ⟨rfl, rfl, rfl, rfl⟩
  · exact ⟨rfl, rfl, rfl, rfl⟩

end

/-! ## All jobs -/

/-- The job opens or closes the session. -/
def Job.ofSession : Job → Bool
  | openSession _ _ | resetSession | dropSession => true
  | _ => false

/-- The job opens the session. -/
def Job.opens : Job → Bool
  | openSession _ _ => true
  | _ => false

theorem Job.ofSession_of_opens {job : Job} (h : job.opens) : job.ofSession := by
  cases job with
  | openSession => rfl
  | _ => cases h

/-- The sections of a job. -/
inductive JobSection (cfg : MediaConfig) (s : MediaState) : Job → MediaState → Prop
  /-- The work on streams and source events. -/
  | media {job : Job} {s' : MediaState} (h : MediaSection false s s') : JobSection cfg s job s'
  | mediaOfOperation {s' : MediaState} (h : MediaSection true s s') : JobSection cfg s .advance s'
  /-- `set_video_stream_params`. -/
  | rejected (r : ParamsRequest) (h : r.isValid = false) :
      JobSection cfg s (.setParams r) (s.record [.answered r false { status := .invalidArgument }])
  | answered (r : ParamsRequest) (video audio : Option StreamDescriptor) (sessionActive : Bool)
      (h : r.isValid = true) :
      JobSection cfg s (.setParams r)
        { s.record [.answered r sessionActive
            (s.params.decide cfg r video audio sessionActive).1] with
          params := (s.params.decide cfg r video audio sessionActive).2 }
  /-- `bind_media_delivery_session` and `unbind_media_delivery_session`. -/
  | bound (id : String) : JobSection cfg s (.bind id) { s with bound := some id }
  | named (id : String) :
      JobSection cfg s (.bind id)
        { s.record [.named id] with
          params := { s.params with state := s.params.state.withSession id } }
  | unbound (id : String) (h : s.bound = some id) :
      JobSection cfg s (.unbind id) { s with bound := none }
  | unnamed (id : String) (h : s.params.state.sessionId = id) :
      JobSection cfg s (.unbind id)
        { s.record [.unnamed id] with
          params := { s.params with state := s.params.state.withSession "" } }
  /-- `advance_video_reconfigure`. -/
  | takeClosed (d : StreamDescriptor) :
      JobSection cfg s .advance { s with streams := (s.streams.takeClosed d).2 }
  | closed (kind : MediaKind) (count : ℕ) :
      JobSection cfg s .advance
        { s with diagnostics := { s.diagnostics with
            activeStreamId := s.diagnostics.activeStreamId.modify kind fun _ => 0
            activeMediaStreams := count } }
  | failed (op : Reconfigure) (failure : Failure) (preserve : Bool) :
      JobSection cfg s .advance
        { s.record [.ended op .failed (!preserve)] with
          params := s.params.finishFailed op failure preserve }
  | kept (op : Reconfigure) :
      JobSection cfg s .advance { s with params := s.params.keepOperation op }
  | restored (state : VideoParams) :
      JobSection cfg s .advance
        { s.record [.restored state] with params := { s.params with state := state } }
  | opening (h : s.params.reconfigure.isSome) :
      JobSection cfg s .advance
        { s with params := { s.params with
            state := { s.params.state with phase := .opening, state := .pending } } }
  | rolledBack (op : Reconfigure) (failure : Failure) (phase : ParamsPhase)
      (h : s.params.reconfigure.isSome) :
      JobSection cfg s .advance
        { s.record [.rolledBack op] with params := s.params.rollBack op failure phase }
  | completed (op : Reconfigure) :
      JobSection cfg s .advance
        { s.record [.ended op (s.params.complete op).state.state false] with
          params := s.params.complete op }
  /-- The session is opened and closed. -/
  | disconnected {job : Job} (h : job.ofSession) :
      JobSection cfg s job { s with connected := false }
  | sessionClosed {job : Job} (h : job.ofSession) (d : Diagnostics)
      (hid : d.activeStreamId = s.diagnostics.activeStreamId)
      (hcount : d.activeMediaStreams = s.diagnostics.activeMediaStreams) :
      JobSection cfg s job { s with diagnostics := d }
  | streamsCleared {job : Job} (h : job.ofSession) (reason : MediaStreamEventReason) :
      JobSection cfg s job { s with streams := { table := (s.streams.table.clear reason).1 } }
  | diagnosticsCleared {job : Job} (h : job.ofSession) :
      JobSection cfg s job { s with diagnostics := s.diagnostics.cleared, sources := {} }
  | paramsCleared {job : Job} (h : job.ofSession) (preserve : Bool) :
      JobSection cfg s job
        { s.record [.cleared none] with
          params := {
            nextReconfigureId := s.params.nextReconfigureId
            state := { sessionId := if preserve then s.params.state.sessionId else "" } } }
  | ready {job : Job} (h : job.ofSession) (text : String) :
      JobSection cfg s job
        { s with connected := true, diagnostics := { s.diagnostics with lastEvent := text } }
  | paramsInit {job : Job} (h : job.opens) (bound : Option String) :
      JobSection cfg s job
        { s.record [.cleared cfg.videoFrameRate] with
          params := { s.params with
            frameRate := cfg.videoFrameRate
            suppressVideoAutoOpen := false
            state := {
              sessionId := bound.getD ""
              source := cfg.videoSource
              desiredFrameRate := cfg.videoFrameRate } } }
  | sessionOpened {job : Job} (h : job.ofSession) :
      JobSection cfg s job { s with diagnostics := s.diagnostics.sessionOpened }

/-- Every section of the program is one of the job. -/
abbrev MediaProg.Of {α : Type} (cfg : MediaConfig) (job : Job) (p : MediaProg α) : Prop :=
  Prog.Every (fun s s' => JobSection cfg s job s') p

section
variable {cfg : MediaConfig} {job : Job} {α : Type} {p : MediaProg α}

open MediaProg (Listed Of)

theorem MediaProg.Listed.of (h : Listed false p) : Of cfg job p :=
  Prog.Every.mono h fun _ _ h => .media h

theorem MediaProg.Listed.ofOperation (h : Listed true p) : Of cfg .advance p :=
  Prog.Every.mono h fun _ _ h => .mediaOfOperation h

theorem of_setVideoStreamParams (r : ParamsRequest) :
    Of cfg (.setParams r) (setVideoStreamParams cfg r) := by
  unfold setVideoStreamParams
  cases hvalid : r.isValid with
  | false => exact Prog.Every.act fun s => .rejected r hvalid
  | true =>
    refine .bind listed_read.of fun ⟨video, audio⟩ => .bind listed_read.of fun active => ?_
    refine .bind (.act fun s => .answered r video audio active hvalid) fun _ => ?_
    exact .ite (listed_notifyVideoParams _).of (.pure _)

theorem of_bindMediaDeliverySession (id : String) :
    Of cfg (.bind id) (bindMediaDeliverySession id) :=
  .bind (.act fun _ => .bound id) fun _ => .act fun _ => .named id

theorem of_unbindMediaDeliverySession (id : String) :
    Of cfg (.unbind id) (unbindMediaDeliverySession id) := by
  refine .bind (.act fun s => ?_) fun _ => .when (.act fun s => ?_)
  · split
    · next h => exact .unbound id h
    · exact .media .same
  · dsimp only
    split
    · next h => exact .unnamed id h
    · exact .media .same

/-! ### `advance_video_reconfigure` -/

theorem of_finishFailed (op : Reconfigure) (failure : Failure) (preserve : Bool) :
    Of cfg .advance (finishFailed op failure preserve) :=
  .bind (.act fun _ => .failed op failure preserve) fun _ => (listed_notifyVideoParams _).of

theorem of_markPreviousClosed (d : StreamDescriptor) : Of cfg .advance (markPreviousClosed d) := by
  refine .bind (.act fun _ => .takeClosed d) fun ⟨removed, count⟩ => .ite ?_ (.pure _)
  exact .bind (listed_enqueueStreamEvents _).of fun _ => .act fun _ => .closed d.kind count

theorem listed_callClose (kind : MediaKind) (d : StreamDescriptor) (op : Reconfigure) :
    Listed false (callClose cfg kind d op) := by
  refine .ite ?_ ?_
  · refine .bind (listed_callJson ..) fun _ => .bind listed_read fun _ => ?_
    exact .ite (.pure _) (.pure _)
  · refine .bind listed_read fun _ => .ite (.pure _) ?_
    exact .bind (listed_callJson ..) fun _ => .pure _

theorem of_advanceClose (kind : MediaKind) (op : Reconfigure) :
    Of cfg .advance (advanceClose cfg kind op) := by
  refine .ite (.pure _) ?_
  cases op.previous kind with
  | none => exact .pure _
  | some d =>
    refine .bind (listed_callClose kind d op).of fun result => ?_
    rcases result with failure | ⟨op, body⟩
    · exact .pure _
    · refine .ite (.pure _) ?_
      rcases saysClosed body with _ | closed
      · exact .halt
      · cases closed with
        | false => exact .pure _
        | true => exact .bind (of_markPreviousClosed d) fun _ => .pure _

theorem of_advanceCloses (op : Reconfigure) (state : VideoParams) :
    Of cfg .advance (advanceCloses cfg op state) := by
  refine .bind listed_read.of fun now => .bind (of_advanceClose ..) fun result => ?_
  rcases result with failure | op
  · exact .bind (of_finishFailed ..) fun _ => .pure _
  refine .bind (of_advanceClose ..) fun result => ?_
  rcases result with failure | op
  · exact .bind (of_finishFailed ..) fun _ => .pure _
  refine .bind (.act fun _ => .kept op) fun _ => .ite ?_ (.pure _)
  refine .bind (.bind (.act fun _ => .restored _) fun _ => ?_) fun _ => .pure _
  exact (listed_notifyVideoParams _).of

theorem of_rollBack (op : Reconfigure) (failure : Failure) (phase : ParamsPhase) :
    Of cfg .advance (rollBack op failure phase) := by
  refine .bind (.act fun s => ?_) fun _ => .forEach (fun v => (listed_notifyVideoParams v).of) _
  dsimp only
  split
  · next h => exact .rolledBack op failure phase h
  · exact .media .same

theorem of_configureForOperation (kind : MediaKind) :
    Of cfg .advance (configureForOperation cfg kind) :=
  (listed_configureMediaStreamKind ..).ofOperation

theorem of_openVideo (op : Reconfigure) : Of cfg .advance (openVideo cfg op) := by
  refine .ite (.pure _) (.bind (of_configureForOperation .video) fun _ => .ite ?_ ?_)
  · exact .bind (.act fun _ => .kept _) fun _ => .pure _
  · refine .bind listed_read.of fun _ => ?_
    split
    · exact .bind (of_rollBack ..) fun _ => .pure _
    · exact .bind (of_finishFailed ..) fun _ => .pure _

theorem of_openAudio (op : Reconfigure) : Of cfg .advance (openAudio cfg op) := by
  refine .ite (.pure _) (.bind (of_configureForOperation .audio) fun _ => .ite (.pure _) ?_)
  refine .bind listed_read.of fun _ => ?_
  split
  · refine .bind listed_read.of fun _ => ?_
    exact .bind (of_rollBack ..) fun _ => .pure _
  · exact .bind (of_finishFailed ..) fun _ => .pure _

theorem of_advanceOpen (op : Reconfigure) : Of cfg .advance (advanceOpen cfg op) := by
  refine .bind (.act fun s => ?_) fun _ => .ite ?_ (.pure _)
  · dsimp only
    split
    · next h => exact .opening h
    · exact .media .same
  refine .bind (of_openVideo op) fun result => ?_
  rcases result with _ | op
  · exact .pure _
  refine .bind (of_openAudio op) fun result => ?_
  rcases result with _ | op
  · exact .pure _
  refine .ite (.bind (.act fun _ => .completed op) fun _ => ?_) (.pure _)
  exact (listed_notifyVideoParams _).of

theorem of_advanceVideoReconfigure : Of cfg .advance (advanceVideoReconfigure cfg) := by
  refine .bind listed_read.of fun result => ?_
  rcases result with _ | ⟨op, state⟩
  · exact .pure _
  refine .ite (.bind (of_advanceCloses op state) fun result => ?_) (of_advanceOpen op)
  rcases result with _ | op
  · exact .pure _
  · exact of_advanceOpen op

/-! ### The session -/

theorem of_closeClient (h : job.ofSession) : Of cfg job closeClient :=
  .act fun _ => .disconnected h

theorem of_clearMediaStreams (h : job.ofSession) (reason : MediaStreamEventReason) :
    Of cfg job (clearMediaStreams reason) := by
  refine .bind (.act fun _ => .streamsCleared h reason) fun _ => ?_
  exact .bind (listed_enqueueStreamEvents _).of fun _ => .act fun _ => .diagnosticsCleared h

theorem of_clearVideoParams (h : job.ofSession) (preserve : Bool) :
    Of cfg job (clearVideoParams preserve) :=
  .act fun _ => .paramsCleared h preserve

theorem of_ensureAppReady (h : job.ofSession) : Of cfg job (ensureAppReady cfg) := by
  refine .bind .input fun reply => ?_
  refine .bind (.forEach (fun events => (listed_pollWithProgress events).of) _) fun _ => ?_
  refine .bind (.forEach (fun e => (listed_enqueueSourceEvent e).of) _) fun _ => ?_
  exact .bind (.act fun _ => .ready h _) fun _ => .pure _

theorem of_ensureSession (configureMedia : Bool) (reason : MediaStreamEventReason) :
    Of cfg (.openSession configureMedia reason) (ensureSession cfg configureMedia reason) := by
  refine .bind listed_read.of fun _ => .ite (.pure _) ?_
  refine .bind (of_closeClient rfl) fun _ => ?_
  refine .bind (.act fun s => .sessionClosed rfl _ ?_ ?_) fun _ => ?_
  · dsimp only
    split <;> rfl
  · dsimp only
    split <;> rfl
  refine .bind (of_clearMediaStreams rfl _) fun _ => ?_
  refine .bind (of_clearVideoParams rfl _) fun _ => .bind (of_ensureAppReady rfl) fun _ => ?_
  refine .ite ?_ (.bind (of_closeClient rfl) fun _ => .act fun s => .sessionClosed rfl _ rfl rfl)
  refine .bind (.bind listed_read.of fun bound => .act fun _ => .paramsInit rfl bound) fun _ => ?_
  refine .bind (.when (listed_configureMediaStreams reason).of) fun _ => ?_
  exact .act fun _ => .sessionOpened rfl

/-- **Every section of a job** is one of the list. -/
theorem Job.every_section (cfg : MediaConfig) (job : Job) : Of cfg job (job.prog cfg) := by
  cases job with
  | advance => exact of_advanceVideoReconfigure
  | processPending bound => exact (listed_processPendingSourceEvents bound).of
  | orphanCloses => exact listed_runPendingOrphanCloses.of
  | retryRecoveries bound now =>
    exact .bind (listed_retryKind bound now .video).of fun _ => (listed_retryKind ..).of
  | retryConfigure => exact listed_retryConfigure.of
  | poll events => exact .forEach (fun e => (listed_enqueueSourceEvent e).of) _
  | callForOther bound method params =>
    exact .bind (listed_callJson ..).of fun _ => (listed_processPendingSourceEvents bound).of
  | openSession configureMedia reason => exact of_ensureSession configureMedia reason
  | resetSession =>
    refine .bind (of_closeClient rfl) fun _ => ?_
    refine .bind (.act fun s => .sessionClosed rfl _ rfl rfl) fun _ => ?_
    exact .bind (of_clearMediaStreams rfl _) fun _ => of_clearVideoParams rfl _
  | dropSession =>
    refine .bind (of_closeClient rfl) fun _ => ?_
    refine .bind (.act fun s => .sessionClosed rfl _ rfl rfl) fun _ => ?_
    exact .bind (of_clearMediaStreams rfl _) fun _ => of_clearVideoParams rfl _
  | setParams r => exact of_setVideoStreamParams r
  | bind id => exact of_bindMediaDeliverySession id
  | unbind id => exact of_unbindMediaDeliverySession id

end

end Axent.Axtp
