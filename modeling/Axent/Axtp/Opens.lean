/-
  What `configure_media_stream_kind` of a leaf `AxtpAdapter` does with the replies to its
  `openStream` requests (`src/adapters/axtp_adapter.cpp`).

  The acts of a call are looked at by themselves (`Lib.History`): the other threads, the
  peer and the source may do anything in between.  A ledger (`book`) keeps each reply with
  what the call does until its next `openStream`.

  A reply that names a stream gives it an owner (`stream_has_owner`): the stream is
  published and its `Opened` event queued, or it is closed, or left to a later close, and
  only one of these.  A published stream has the numbers of the last reply, as
  `json_u32_or` reads them.  These are the numbers of the reply if they fit into 32 bits
  (`numbers_taken`); larger ones are cut (`large_stream_id_cut`).
-/
import Mathlib.Algebra.Group.Int.Defs
import Axent.Lib.History
import Axent.Axtp.Configure

namespace Axent.Axtp

open Lib Lib.Prog

abbrev MediaAct := Act MediaState Reply

/-! ## The acts of a call -/

/-- What an act adds to the log. -/
def entriesOf : MediaAct → List Entry
  | .sect s s' => s'.log.drop s.log.length
  | .recv _ => []

def replyOf : MediaAct → Option Reply
  | .sect _ _ => none
  | .recv reply => some reply

def Entry.asksStream : Entry → Bool
  | sent (.openStream _) _ _ => true
  | _ => false

/-- The act sends an `openStream`. -/
def asksStream (a : MediaAct) : Bool := (entriesOf a).any Entry.asksStream

/-- The replies to `openStream`, each with what follows it until the next one is sent. -/
abbrev book (l : List MediaAct) : Ledger MediaAct Reply := ledger asksStream replyOf l

/-- The entry gives the stream an owner. -/
def Entry.settles (kind : MediaKind) (streamId : ℕ) : Entry → Bool
  | published d => d.kind = kind ∧ d.streamId = streamId
  | sent (.closeStream k) params _ => k = kind ∧ (Json.object params).u32Or "streamId" = streamId
  | orphaned k i => k = kind ∧ i = streamId
  | _ => false

/-- The owner of a stream: the table, with an event for the observers, the peer, which is
    asked to close it, or the queue of the streams to close. -/
inductive Owner (kind : MediaKind) (reason : MediaStreamEventReason) (streamId : ℕ)
    (acts : List MediaAct) : Entry → Prop
  | published (d : StreamDescriptor) (s s' : MediaState) (hact : .sect s s' ∈ acts)
      (hentry : s'.log = s.log ++ [.published d])
      (hactive : s'.streams.table.active[streamId]? = some d)
      (hopened : .queued { kind := .opened, descriptor := d, reason := reason } ∈
        acts.flatMap entriesOf) :
      Owner kind reason streamId acts (.published d)
  | closed :
      Owner kind reason streamId acts (.sent (.closeStream kind) (streamIdParams streamId) false)
  | orphaned (s s' : MediaState) (hact : .sect s s' ∈ acts)
      (hqueue : s'.sources.orphanCloses = s.sources.orphanCloses ++ [(kind, streamId)]) :
      Owner kind reason streamId acts (.orphaned kind streamId)

/-- Exactly one entry gives the stream an owner. -/
def Owned (kind : MediaKind) (reason : MediaStreamEventReason) (streamId : ℕ)
    (acts : List MediaAct) : Prop :=
  ∃ e, (acts.flatMap entriesOf).filter (Entry.settles kind streamId) = [e] ∧
    Owner kind reason streamId acts e

/-- The stream that a reply names is owned. -/
def ReplyOwned (kind : MediaKind) (reason : MediaStreamEventReason)
    (x : Reply × List MediaAct) : Prop :=
  ∀ response, x.1.error.ok → x.1.body = some response →
    (Json.object response).u32Or "streamId" ≠ 0 →
    Owned kind reason ((Json.object response).u32Or "streamId") x.2

/-! ## Silent acts -/

/-- The entry is not about a stream of the call. -/
def Entry.silent : Entry → Bool
  | sent (.openStream _) _ _ | sent (.closeStream _) _ _ | published _ | orphaned _ _ => false
  | _ => true

/-- A section with nothing about a stream of the call. -/
def Quiet (a : MediaAct) : Prop := replyOf a = none ∧ ∀ e ∈ entriesOf a, e.silent = true

theorem entriesOf_record (s s' : MediaState) (es : List Entry) (h : s'.log = s.log ++ es) :
    entriesOf (.sect s s') = es := by
  rw [entriesOf, h, List.drop_left]

theorem Entry.settles_of_silent {e : Entry} {kind : MediaKind} {streamId : ℕ}
    (h : e.silent = true) : e.settles kind streamId = false := by
  unfold silent at h
  split at h
  · rfl
  · cases h
  · cases h
  · cases h
  · unfold settles
    split <;> simp_all

theorem Entry.asksStream_of_silent {e : Entry} (h : e.silent = true) : e.asksStream = false := by
  unfold asksStream
  split
  · cases h
  · rfl

theorem asksStream_of_silent {a : MediaAct} (h : ∀ e ∈ entriesOf a, e.silent = true) :
    asksStream a = false :=
  List.any_eq_false.mpr fun e he => by rw [Entry.asksStream_of_silent (h e he)]; simp

theorem filter_settles_of_silent {a : MediaAct} (h : ∀ e ∈ entriesOf a, e.silent = true)
    (kind : MediaKind) (streamId : ℕ) :
    (entriesOf a).filter (Entry.settles kind streamId) = [] :=
  List.filter_eq_nil_iff.mpr fun e he => by rw [Entry.settles_of_silent (h e he)]; simp

theorem quiet_record {s s' : MediaState} (es : List Entry) (h : s'.log = s.log ++ es)
    (hes : ∀ e ∈ es, e.silent = true) : Quiet (.sect s s') :=
  ⟨rfl, by rwa [entriesOf_record s s' es h]⟩

theorem quiet_same {s s' : MediaState} (h : s'.log = s.log) : Quiet (.sect s s') :=
  quiet_record [] (by rw [h, List.append_nil]) fun _ he => absurd he List.not_mem_nil

section
variable {cfg : MediaConfig} {α : Type}

theorem quiet_read {f : MediaState → α} : Only Quiet (Prog.read f : MediaProg α) :=
  Only.act fun _ => quiet_same rfl

theorem quiet_params {f : Params → α × Params} : Only Quiet (MediaProg.params f) :=
  Only.act fun _ => quiet_same rfl

theorem quiet_streams {f : Streams → α × Streams} : Only Quiet (MediaProg.streams f) :=
  Only.act fun _ => quiet_same rfl

theorem quiet_diagnostics {f : Diagnostics → α × Diagnostics} :
    Only Quiet (MediaProg.diagnostics f) :=
  Only.act fun _ => quiet_same rfl

theorem quiet_sources {f : Sources → α × Sources} : Only Quiet (MediaProg.sources f) :=
  Only.act fun _ => quiet_same rfl

theorem quiet_enqueueStreamEvents (events : List LifecycleEvent) :
    Only Quiet (enqueueStreamEvents events) :=
  Only.act fun s => quiet_record (s := s) (events.map .queued) rfl fun e he => by
    obtain ⟨event, -, rfl⟩ := List.mem_map.mp he
    rfl

theorem quiet_notifyVideoParams (v : VideoParams) : Only Quiet (notifyVideoParams v) :=
  Only.act fun s => quiet_record (s := s) [.notified v] rfl (by simp [Entry.silent])

theorem quiet_enqueueSourceEvent (e : SourceEvent) : Only Quiet (enqueueSourceEvent cfg e) :=
  .bind quiet_diagnostics fun _ => .bind quiet_read fun _ => quiet_sources

theorem quiet_stopSource (e : SourceEvent) : Only Quiet (stopSource cfg e) := by
  refine .bind quiet_streams fun ⟨stopped, foreign, count⟩ => .ite ?_ ?_
  · exact .bind quiet_read fun _ => .ite quiet_sources (.pure _)
  · refine .bind (.ite quiet_streams (.pure _)) fun _ => .bind quiet_diagnostics fun _ => ?_
    refine .bind (quiet_enqueueStreamEvents _) fun _ => .ite ?_ (.pure _)
    exact .bind quiet_params fun _ => quiet_notifyVideoParams _

theorem quiet_progressEvent (e : SourceEvent) : Only Quiet (progressEvent cfg e) := by
  refine .bind (.ite quiet_read (.pure _)) fun _ => .ite (.ite quiet_sources ?_) (.pure _)
  refine .ite (.bind quiet_read fun _ => .ite ?_ (.pure _)) (.pure _)
  exact .ite (quiet_stopSource e) (.ite (.pure _) (.pure _))

theorem quiet_pollWithProgress (events : List SourceEvent) :
    Only Quiet (pollWithProgress cfg events) := by
  refine .bind (.forEach quiet_enqueueSourceEvent events) fun _ => ?_
  exact .bind quiet_sources fun _ => .forEach quiet_progressEvent _

theorem quiet_markRetryFailure (kind : MediaKind) (terminal waiting : Bool) :
    Only Quiet (markRetryFailure kind terminal waiting) :=
  .bind quiet_read fun _ => quiet_diagnostics

end

/-! ## Numbers of a reply -/

/-- The members of a reply that are numbers of the stream. -/
inductive NumberMember where
  | sampleRate
  | channels
  | width
  | height
  | frameRate
  | reorderDepth
  deriving DecidableEq, Repr

namespace NumberMember

def key : NumberMember → String
  | sampleRate => "sampleRate"
  | channels => "channels"
  | width => "width"
  | height => "height"
  | frameRate => "frameRate"
  | reorderDepth => "reorderDepth"

/-- The number in a descriptor. -/
def of (d : StreamDescriptor) : NumberMember → ℕ
  | sampleRate => d.sampleRate
  | channels => d.channels
  | width => d.width
  | height => d.height
  | frameRate => d.frameRate
  | reorderDepth => d.reorderDepth

end NumberMember

/-- The stream has the numbers of the reply, as they are read. -/
structure TakenFrom (kind : MediaKind) (params response : Members) (d : StreamDescriptor) :
    Prop where
  kind : d.kind = kind
  streamId : d.streamId = (Json.object response).u32Or "streamId"
  named : (Json.object response).u32Or "streamId" ≠ 0
  number (m : NumberMember) :
    m.of d = (Json.object response).u32Or m.key ((Json.object params).u32Or m.key)

theorem openedDescriptor_takenFrom (cfg : MediaConfig) (kind : MediaKind)
    (params response : Members) (generation : ℕ)
    (h : (Json.object response).u32Or "streamId" ≠ 0) :
    TakenFrom kind params response
      ((openedDescriptor cfg kind ((Json.object response).u32Or "streamId") (.object response)
        (.object params)).withGeneration generation) where
  kind := rfl
  streamId := rfl
  named := h
  number m := by cases m <;> rfl

/-! ## Where a call stands -/

/-- Every stream that was named has its owner. -/
def Idle (kind : MediaKind) (reason : MediaStreamEventReason) (h : List MediaAct) : Prop :=
  (book h).asked = false ∧ ∀ x ∈ (book h).answers, ReplyOwned kind reason x

/-- The history has the reply to an `openStream` with these parameters, and `acts` after it. -/
def Replied (kind : MediaKind) (params : Members) (reply : Reply) (acts before h : List MediaAct) :
    Prop :=
  ∃ x operation,
    h = before ++ .sect x (x.record [.sent (.openStream kind) params operation]) ::
      .recv reply :: acts

/-- The stream of the reply has no owner yet, all others have. -/
def Answered (kind : MediaKind) (reason : MediaStreamEventReason) (params : Members)
    (reply : Reply) (h : List MediaAct) : Prop :=
  ∃ acts before, Replied kind params reply acts before h ∧ (∀ a ∈ acts, Quiet a) ∧
    ∀ x ∈ (book before).answers, ReplyOwned kind reason x

/-- The descriptor was read from the last reply. -/
def ReadFrom (kind : MediaKind) (h : List MediaAct) (d : StreamDescriptor) : Prop :=
  ∃ params reply acts before response, Replied kind params reply acts before h ∧
    (∀ a ∈ acts, replyOf a = none) ∧ reply.error.ok = true ∧ reply.body = some response ∧
    TakenFrom kind params response d

/-- What the call promises. -/
def openPromise (kind : MediaKind) (reason : MediaStreamEventReason) :
    Promise MediaState Reply where
  after l := ∀ h a d, l = h ++ [a] → .published d ∈ entriesOf a → ReadFrom kind h d
  failed := Idle kind reason

section
variable {kind : MediaKind} {reason : MediaStreamEventReason} {params : Members} {reply : Reply}
  {streamId : ℕ} {h l acts : List MediaAct} {a : MediaAct}

theorem asksStream_request (x : MediaState) (operation : Bool) :
    asksStream (.sect x (x.record [.sent (.openStream kind) params operation])) = true := by
  rw [asksStream, entriesOf_record _ _ _ rfl]
  rfl

theorem book_replied {before : List MediaAct} (hr : Replied kind params reply acts before h)
    (hacts : ∀ a ∈ acts, asksStream a = false) :
    book h = ⟨false, some (reply, acts), (book before).answers⟩ := by
  obtain ⟨x, operation, rfl⟩ := hr
  have hask : asksStream (.recv reply) = false := rfl
  have hanswer : replyOf (.recv reply) = some reply := rfl
  rw [book, ledger, List.foldl_append, List.foldl_cons, List.foldl_cons,
    Ledger.next_ask (asksStream_request x operation), Ledger.next_answer hask rfl hanswer,
    Ledger.foldl_others acts hacts, Ledger.answers_asked]
  rfl

theorem Owner.mono {e : Entry} (ho : Owner kind reason streamId acts e) (hl : acts ⊆ l) :
    Owner kind reason streamId l e := by
  cases ho with
  | published d s s' hact hentry hactive hopened =>
    refine .published d s s' (hl hact) hentry hactive ?_
    obtain ⟨a, ha, he⟩ := List.mem_flatMap.mp hopened
    exact List.mem_flatMap.mpr ⟨a, hl ha, he⟩
  | closed => exact .closed
  | orphaned s s' hact hqueue => exact .orphaned s s' (hl hact) hqueue

theorem filter_settles_quiet (hacts : ∀ a ∈ acts, Quiet a) (streamId : ℕ) :
    (acts.flatMap entriesOf).filter (Entry.settles kind streamId) = [] := by
  refine List.filter_eq_nil_iff.mpr fun e he => ?_
  obtain ⟨a, ha, he⟩ := List.mem_flatMap.mp he
  rw [Entry.settles_of_silent ((hacts a ha).2 e he)]
  exact Bool.false_ne_true

theorem Owned.after_quiet (hl : Owned kind reason streamId l) (hacts : ∀ a ∈ acts, Quiet a) :
    Owned kind reason streamId (acts ++ l) := by
  obtain ⟨e, hfilter, howner⟩ := hl
  refine ⟨e, ?_, howner.mono (List.subset_append_right acts l)⟩
  rw [List.flatMap_append, List.filter_append, filter_settles_quiet hacts, hfilter]
  rfl

theorem Owned.snoc (hl : Owned kind reason streamId l) (ha : ∀ e ∈ entriesOf a, e.silent = true) :
    Owned kind reason streamId (l ++ [a]) := by
  obtain ⟨e, hfilter, howner⟩ := hl
  refine ⟨e, ?_, howner.mono (List.subset_append_left l [a])⟩
  rw [List.flatMap_append, List.filter_append, hfilter, List.flatMap_singleton,
    filter_settles_of_silent ha, List.append_nil]

/-- A silent act, also one that is no section. -/
theorem Idle.snoc (hidle : Idle kind reason h) (ha : ∀ e ∈ entriesOf a, e.silent = true) :
    Idle kind reason (h ++ [a]) := by
  obtain ⟨hasked, howned⟩ := hidle
  rw [Idle, book, ledger_snoc, Ledger.next_other (asksStream_of_silent ha) (.inl hasked)]
  refine ⟨rfl, fun x hx => ?_⟩
  rcases List.mem_append.mp hx with hpast | hcurrent
  · exact howned x (List.mem_append_left _ hpast)
  · obtain ⟨y, hy, rfl⟩ := Option.map_eq_some_iff.mp (Option.mem_toList.mp hcurrent)
    intro response hok hbody hid
    have hy' := howned y (List.mem_append_right _ (Option.mem_toList.mpr hy))
    exact (hy' response hok hbody hid).snoc ha

theorem Answered.snoc (hanswered : Answered kind reason params reply h) (ha : Quiet a) :
    Answered kind reason params reply (h ++ [a]) := by
  obtain ⟨acts, before, ⟨x, operation, rfl⟩, hacts, howned⟩ := hanswered
  refine ⟨acts ++ [a], before, ⟨x, operation, by simp⟩, ?_, howned⟩
  intro b hb
  rcases List.mem_append.mp hb with hb | hb
  · exact hacts b hb
  · rwa [List.mem_singleton.mp hb]

theorem Answered.idle (hanswered : Answered kind reason params reply h)
    (hl : ∀ a ∈ l, asksStream a = false) (howned : ReplyOwned kind reason (reply, l)) :
    Idle kind reason (h ++ l) := by
  obtain ⟨acts, before, ⟨x, operation, rfl⟩, hacts, hbefore⟩ := hanswered
  have hr : Replied kind params reply (acts ++ l) before
      ((before ++ .sect x (x.record [.sent (.openStream kind) params operation]) ::
        .recv reply :: acts) ++ l) := ⟨x, operation, by simp⟩
  rw [Idle, book_replied hr fun a ha => (List.mem_append.mp ha).elim
    (fun ha => asksStream_of_silent (hacts a ha).2) (hl a)]
  refine ⟨rfl, fun y hy => ?_⟩
  rcases List.mem_append.mp hy with hy | hy
  · exact hbefore y hy
  · obtain rfl := List.mem_singleton.mp hy
    intro response hok hbody hid
    exact (howned response hok hbody hid).after_quiet hacts

/-- A reply that names no stream leaves nothing to do. -/
theorem Answered.idle_of_unnamed (hanswered : Answered kind reason params reply h)
    (hunnamed : ∀ response, reply.error.ok = true → reply.body = some response →
      (Json.object response).u32Or "streamId" = 0) : Idle kind reason h := by
  have hidle := hanswered.idle (l := []) (fun _ ha => absurd ha List.not_mem_nil)
    fun response hok hbody hid => absurd (hunnamed response hok hbody) hid
  rwa [List.append_nil] at hidle

theorem after_of_not_published (ha : ∀ d, .published d ∉ entriesOf a) :
    (openPromise kind reason).after (h ++ [a]) := by
  intro h' a' d heq hd
  obtain ⟨-, hlast⟩ := List.append_inj' heq rfl
  cases hlast
  exact absurd hd (ha d)

theorem after_of_silent (ha : ∀ e ∈ entriesOf a, e.silent = true) :
    (openPromise kind reason).after (h ++ [a]) :=
  after_of_not_published fun _ hd => absurd (ha _ hd) Bool.false_ne_true

/-! ## The call, program by program -/

variable {cfg : MediaConfig} {α : Type} {P : List MediaAct → Prop}

theorem told_quiet {p : MediaProg α} (hp : Only Quiet p)
    (hP : ∀ h a, Quiet a → P h → P (h ++ [a])) :
    Told (openPromise kind reason) P p fun _ => P :=
  Told.only hp fun h a ha hh => ⟨after_of_silent ha.2, hP h a ha hh⟩

theorem told_idle {p : MediaProg α} (hp : Only Quiet p) :
    Told (openPromise kind reason) (Idle kind reason) p fun _ => Idle kind reason :=
  told_quiet hp fun _ _ ha hidle => hidle.snoc ha.2

theorem told_answered {p : MediaProg α} (hp : Only Quiet p) :
    Told (openPromise kind reason) (Answered kind reason params reply) p fun _ =>
      Answered kind reason params reply :=
  told_quiet hp fun _ _ ha hanswered => hanswered.snoc ha

/-- The request and the reply are two acts; silent ones follow. -/
theorem told_callJson {R : Reply → List MediaAct → Prop} (method : Method) (args : Members)
    (operation : Bool)
    (hcall : ∀ h (s : MediaState) reply, P h →
      R reply (h ++ [.sect s (s.record [.sent method args operation]), .recv reply]))
    (hquiet : ∀ reply h a, Quiet a → R reply h → R reply (h ++ [a])) :
    Told (openPromise kind reason) P (callJson cfg method args operation) fun result h =>
      ∃ reply, result = (if reply.error.ok then reply.body else none) ∧ R reply h := by
  refine .bind (Q := fun _ h => ∃ h₀ s, P h₀ ∧
    h = h₀ ++ [.sect s (s.record [.sent method args operation])]) ?_ fun _ => ?_
  · refine .act fun h s hP => ⟨after_of_not_published fun d hd => ?_, h, s, hP, rfl⟩
    rw [entriesOf_record _ _ _ rfl, List.mem_singleton] at hd
    cases hd
  refine .bind (Q := R) (.input fun h reply => ?_) fun reply => ?_
  · rintro ⟨h₀, s, hP, rfl⟩
    refine ⟨after_of_silent fun _ he => absurd he List.not_mem_nil, ?_⟩
    rw [List.append_assoc]
    exact hcall h₀ s reply hP
  refine .bind (told_quiet (.forEach quiet_pollWithProgress _) (hquiet reply)) fun _ => ?_
  refine .bind (told_quiet (.forEach quiet_enqueueSourceEvent _) (hquiet reply)) fun _ => ?_
  refine .bind (told_quiet (.act fun s => quiet_same rfl) (hquiet reply)) fun _ => ?_
  exact .ret fun h hR => ⟨reply, rfl, hR⟩

theorem told_fetchCapabilities :
    Told (openPromise kind reason) (Idle kind reason) (fetchCapabilities cfg kind) fun _ =>
      Idle kind reason := by
  refine .bind (told_idle quiet_read) fun cached => ?_
  cases cached with
  | some _ => exact .ret fun _ hidle => hidle
  | none =>
    refine .bind (told_callJson (R := fun _ => Idle kind reason) _ _ _ ?_ ?_) fun body => ?_
    · intro h s reply hidle
      rw [List.append_cons]
      refine Idle.snoc (hidle.snoc ?_) fun _ he => absurd he List.not_mem_nil
      rw [entriesOf_record _ _ _ rfl]
      simp [Entry.silent]
    · exact fun _ h a ha hidle => hidle.snoc ha.2
    refine Told.mono (P := Idle kind reason) ?_ (fun _ ⟨_, _, hidle⟩ => hidle) fun _ _ h => h
    cases body with
    | none => exact .ret fun _ hidle => hidle
    | some body =>
      simp only
      split
      · exact .halt fun _ hidle => hidle
      · refine .bind (told_idle (.ite quiet_params (.pure _))) fun _ => ?_
        exact .ret fun _ hidle => hidle

theorem told_checkCapabilities (capabilities : Option Json) :
    Told (openPromise kind reason) (Idle kind reason) (checkCapabilities cfg kind capabilities)
      fun _ => Idle kind reason := by
  have hfailed (terminal waiting : Bool) (text : String) :
      Only Quiet (do markRetryFailure kind terminal waiting; setLastEvent text; return false) :=
    .bind (quiet_markRetryFailure _ _ _) fun _ => .bind quiet_diagnostics fun _ => .pure _
  cases capabilities with
  | none =>
    refine told_idle (.ite (.pure _) (.bind quiet_read fun _ => ?_))
    exact hfailed _ _ _
  | some capabilities =>
    simp only [checkCapabilities]
    split
    · exact .halt fun _ hidle => hidle
    · refine told_idle (.ite (.pure _) ?_)
      exact hfailed _ _ _

/-! ### The replies -/

theorem u32Or_lt (j : Json) (key : String) : j.u32Or key < 2 ^ 32 := by
  unfold Json.u32Or
  split
  · exact Nat.mod_lt _ (by decide)
  · split
    · exact Nat.mod_lt _ (by decide)
    · decide
  · decide

theorem u32Or_streamIdParams (hid : streamId < 2 ^ 32) :
    (Json.object (streamIdParams streamId)).u32Or "streamId" = streamId := by
  have hfind : (Json.object (streamIdParams streamId)).find "streamId" =
      some (.numberUnsigned (.ofNat streamId)) := rfl
  have hsize : streamId < 2 ^ 64 := lt_trans hid (by decide)
  rw [Json.u32Or, hfind]
  simp only [UInt64.toNat_ofNat', Nat.mod_eq_of_lt hsize, Nat.mod_eq_of_lt hid]

theorem owned_of_entry {e : Entry} (hentries : l.flatMap entriesOf = [e])
    (hsettles : e.settles kind streamId = true) (howner : Owner kind reason streamId l e) :
    Owned kind reason streamId l :=
  ⟨e, by rw [hentries, List.filter_singleton, hsettles]; rfl, howner⟩

theorem owned_closed (s : MediaState) (reply : Reply) (hid : streamId < 2 ^ 32) :
    Owned kind reason streamId
      [.sect s (s.record [.sent (.closeStream kind) (streamIdParams streamId) false]),
        .recv reply] := by
  refine owned_of_entry ?_ ?_ .closed
  · rw [List.flatMap_cons, entriesOf_record _ _ _ rfl]
    rfl
  · simp [Entry.settles, u32Or_streamIdParams hid]

/-- What is known of the streams after the calls. -/
def Tried (kind : MediaKind) (reason : MediaStreamEventReason) (a : Attempt)
    (h : List MediaAct) : Prop :=
  match a.response with
  | none => Idle kind reason h
  | some response => ∃ reply, reply.error.ok = true ∧ reply.body = some response ∧
      a.streamId = (Json.object response).u32Or "streamId" ∧ a.streamId ≠ 0 ∧
      Answered kind reason a.openParams reply h

theorem told_acceptStream (codec : String) (response : Members) (a : Attempt)
    (hok : reply.error.ok = true) (hbody : reply.body = some response)
    (hid : (Json.object response).u32Or "streamId" ≠ 0) :
    Told (openPromise kind reason) (Answered kind reason a.openParams reply)
      (acceptStream cfg kind codec response a) (Tried kind reason) := by
  refine .ite (fun _ => ?_) fun _ => ?_
  · exact .ret fun h hanswered => ⟨reply, hok, hbody, rfl, hid, hanswered⟩
  refine .bind (told_callJson (R := fun _ => Idle kind reason) _ _ _ ?_ ?_) fun _ => ?_
  · intro h s closed hanswered
    refine hanswered.idle ?_ fun response' _ hbody' _ => ?_
    · intro b hb
      rcases List.mem_pair.mp hb with rfl | rfl
      · rw [asksStream, entriesOf_record _ _ _ rfl]
        rfl
      · rfl
    · obtain rfl := Option.some.inj (hbody.symm.trans hbody')
      exact owned_closed s closed (u32Or_lt _ _)
  · exact fun _ h b hb hidle => hidle.snoc hb.2
  · exact .ret fun h ⟨_, _, hidle⟩ => hidle

theorem told_openCandidate (operation : Bool) (codec : String) (a : Attempt) :
    Told (openPromise kind reason) (Idle kind reason)
      (openCandidate cfg kind operation codec a) (Tried kind reason) := by
  unfold openCandidate
  generalize (if kind = .video then
    { a with openParams := a.openParams.set "codec" (.string (requestCodec cfg kind codec)) }
    else a) = a
  refine .bind (told_callJson (R := Answered kind reason a.openParams) _ _ _ ?_ ?_) fun result => ?_
  · intro h s reply hidle
    exact ⟨[], h, ⟨s, operation, rfl⟩, fun _ hb => absurd hb List.not_mem_nil, hidle.2⟩
  · exact fun _ h b hb hanswered => hanswered.snoc hb
  intro h ⟨reply, hresult, hanswered⟩
  cases result with
  | none =>
    refine Told.bind (told_idle quiet_read) (fun _ => .ret fun _ hidle => hidle) h ?_
    refine hanswered.idle_of_unnamed fun response hok hbody => ?_
    rw [if_pos hok, hbody] at hresult
    cases hresult
  | some response =>
    obtain ⟨hok, hbody⟩ := Option.ite_none_right_eq_some.mp hresult.symm
    refine Told.ite (P := Answered kind reason a.openParams reply) (fun hid => ?_) (fun hid => ?_)
      h hanswered
    · refine .ret fun h hanswered => hanswered.idle_of_unnamed fun response' _ hbody' => ?_
      obtain rfl := Option.some.inj (hbody.symm.trans hbody')
      exact hid
    · refine .bind (told_answered ?_) fun _ => told_acceptStream codec response a hok hbody hid
      exact .act fun s => quiet_record (s := s) [.allocated kind _] rfl (by simp [Entry.silent])

theorem told_openCandidates (operation : Bool) (codecs : List String) (a : Attempt)
    (ha : a.response = none) :
    Told (openPromise kind reason) (Idle kind reason)
      (openCandidates cfg kind operation codecs a) (Tried kind reason) := by
  induction codecs generalizing a with
  | nil =>
    refine .ret fun h hidle => ?_
    rwa [Tried, ha]
  | cons codec codecs ih =>
    refine .bind (told_openCandidate operation codec a) fun a => ?_
    cases hresponse : a.response with
    | none =>
      refine Told.mono (P := Idle kind reason) ?_ (fun h ht => by rwa [Tried, hresponse] at ht)
        fun _ _ ht => ht
      refine .bind (told_idle quiet_read) fun _ => .ite (fun _ => ?_) fun _ => ?_
      · exact .bind (told_idle quiet_diagnostics) fun _ => ih _ rfl
      · exact .ret fun h hidle => by rwa [Tried, hresponse]
    | some response =>
      refine .bind (Q := fun _ => Tried kind reason a) ?_ fun _ => ?_
      · refine told_quiet quiet_read fun h b hb ht => ?_
        simp only [Tried, hresponse] at ht ⊢
        obtain ⟨reply, hok, hbody, hid, hne, hanswered⟩ := ht
        exact ⟨reply, hok, hbody, hid, hne, hanswered.snoc hb⟩
      · rw [if_neg (by simp)]
        exact .ret fun h ht => ht

/-! ### The stream is published -/

theorem Streams.publish_spec (d : StreamDescriptor) (reason : MediaStreamEventReason)
    (st : Streams) : ∃ generation,
      (st.publish d reason).1.1 = d.withGeneration generation ∧
      (st.publish d reason).2.table.active[d.streamId]? = some (d.withGeneration generation) ∧
      { kind := .opened, descriptor := d.withGeneration generation, reason := reason } ∈
        (st.publish d reason).1.2.1 := by
  refine ⟨st.table.generations d.streamId + 1, rfl, ?_, ?_⟩
  · simp only [Streams.publish]
    split_ifs <;> simp [StreamTable.publish]
  · simp [Streams.publish, StreamTable.publish]

theorem owned_published {d : StreamDescriptor} {s s' t : MediaState}
    {events : List LifecycleEvent} (hkind : d.kind = kind) (hid : d.streamId = streamId)
    (hentry : s'.log = s.log ++ [.published d])
    (hactive : s'.streams.table.active[streamId]? = some d)
    (hopened : { kind := .opened, descriptor := d, reason := reason } ∈ events) :
    Owned kind reason streamId
      [.sect s s', .sect t (t.record (events.map .queued))] := by
  have hentries : ([.sect s s', .sect t (t.record (events.map .queued))] :
      List MediaAct).flatMap entriesOf = .published d :: events.map .queued := by
    rw [List.flatMap_cons, List.flatMap_singleton, entriesOf_record _ _ _ hentry,
      entriesOf_record _ _ _ rfl]
    rfl
  refine ⟨.published d, ?_, .published d s s' List.mem_cons_self hentry hactive ?_⟩
  · have hqueued : (events.map Entry.queued).filter (Entry.settles kind streamId) = [] := by
      refine List.filter_eq_nil_iff.mpr fun e he => ?_
      obtain ⟨event, -, rfl⟩ := List.mem_map.mp he
      exact Bool.false_ne_true
    rw [hentries, List.filter_cons_of_pos (by simp [Entry.settles, hkind, hid]), hqueued]
  · rw [hentries]
    exact List.mem_cons_of_mem _ (List.mem_map_of_mem hopened)

theorem told_publishStream (updateRetryState : Bool) (a : Attempt) (response : Members)
    (hok : reply.error.ok = true) (hbody : reply.body = some response)
    (hid : (Json.object response).u32Or "streamId" ≠ 0) :
    Told (openPromise kind reason) (Answered kind reason a.openParams reply)
      (publishStream kind updateRetryState reason a response
        (openedDescriptor cfg kind ((Json.object response).u32Or "streamId") (.object response)
          (.object a.openParams)))
      fun _ => Idle kind reason := by
  refine .bind (Q := fun result h => ∃ h₀ s s', h = h₀ ++ [.sect s s'] ∧
      Answered kind reason a.openParams reply h₀ ∧ s'.log = s.log ++ [.published result.1] ∧
      TakenFrom kind a.openParams response result.1 ∧
      s'.streams.table.active[(Json.object response).u32Or "streamId"]? = some result.1 ∧
      { kind := .opened, descriptor := result.1, reason := reason } ∈ result.2.1) ?_
    fun ⟨opened, events, count⟩ => ?_
  · refine .act fun h s hanswered => ?_
    obtain ⟨generation, hopened, hactive, hevent⟩ := s.streams.publish_spec
      (openedDescriptor cfg kind ((Json.object response).u32Or "streamId") (.object response)
        (.object a.openParams)) reason
    have htaken := openedDescriptor_takenFrom cfg kind a.openParams response generation hid
    rw [← hopened] at htaken hactive hevent
    refine ⟨fun h' b d heq hd => ?_, h, s, _, rfl, hanswered, rfl, htaken, hactive, hevent⟩
    obtain ⟨rfl, hlast⟩ := List.append_inj' heq rfl
    cases hlast
    rw [entriesOf_record _ _ _ rfl, List.mem_singleton] at hd
    cases hd
    obtain ⟨acts, before, hreplied, hacts, -⟩ := hanswered
    exact ⟨a.openParams, reply, acts, before, response, hreplied, fun b hb => (hacts b hb).1, hok,
      hbody, htaken⟩
  refine .bind (Q := fun _ => Idle kind reason) (.act fun h t hentered => ?_) fun _ => ?_
  · obtain ⟨h₀, s, s', rfl, hanswered, hentry, htaken, hactive, hevent⟩ := hentered
    have hquiet : ∀ e ∈ events.map Entry.queued, e.silent = true := by
      intro e he
      obtain ⟨event, -, rfl⟩ := List.mem_map.mp he
      rfl
    have hsilent : Quiet (.sect t (t.record (events.map .queued))) := quiet_record _ rfl hquiet
    refine ⟨after_of_silent hsilent.2, ?_⟩
    rw [List.append_assoc]
    refine hanswered.idle ?_ fun response' _ hbody' _ => ?_
    · intro b hb
      rcases List.mem_pair.mp hb with rfl | rfl
      · rw [asksStream, entriesOf_record _ _ _ hentry]
        rfl
      · exact asksStream_of_silent hsilent.2
    · obtain rfl := Option.some.inj (hbody.symm.trans hbody')
      exact owned_published htaken.kind htaken.streamId hentry hactive hevent
  refine .bind (told_idle quiet_diagnostics) fun _ => .ite (fun _ => ?_) fun _ => ?_
  · exact .bind (told_idle quiet_params) fun _ => told_idle (.forEach quiet_notifyVideoParams _)
  · exact told_idle quiet_params

theorem told_settleStream (updateRetryState : Bool) (a : Attempt) (response : Members)
    (hresponse : a.response = some response) :
    Told (openPromise kind reason) (Tried kind reason a)
      (settleStream cfg kind updateRetryState reason a response) fun _ => Idle kind reason := by
  intro h htried
  rw [Tried, hresponse] at htried
  obtain ⟨reply, hok, hbody, hid, hne, hanswered⟩ := htried
  unfold settleStream
  rw [hid] at hne ⊢
  refine Told.bind (told_answered quiet_sources) (fun _ => ?_) h hanswered
  refine .bind (told_answered quiet_diagnostics) fun _ => .ite (fun _ => ?_) fun _ => ?_
  · refine .bind (Q := fun _ => Idle kind reason) (.act fun h s hanswered => ?_)
      fun _ => .ret fun _ hidle => hidle
    refine ⟨after_of_not_published fun d hd => ?_, hanswered.idle ?_ ?_⟩
    · rw [entriesOf_record _ _ [.orphaned kind _] rfl, List.mem_singleton] at hd
      cases hd
    · intro b hb
      rw [List.mem_singleton.mp hb, asksStream, entriesOf_record _ _ [.orphaned kind _] rfl]
      rfl
    · intro response' _ hbody' _
      obtain rfl := Option.some.inj (hbody.symm.trans hbody')
      refine owned_of_entry ?_ ?_ (.orphaned s _ (List.mem_singleton_self _) rfl)
      · rw [List.flatMap_singleton, entriesOf_record _ _ [.orphaned kind _] rfl]
      · simp [Entry.settles]
  · refine .bind (told_publishStream updateRetryState a response hok hbody hne) fun _ => ?_
    exact .ret fun _ hidle => hidle

theorem told_openStream (updateRetryState operation : Bool) :
    Told (openPromise kind reason) (Idle kind reason)
      (openStream cfg kind updateRetryState operation reason) fun _ => Idle kind reason := by
  refine .bind (told_idle quiet_read) fun rate => .bind told_fetchCapabilities fun caps => ?_
  refine .bind (told_checkCapabilities caps) fun _ => .ite (fun _ => .ret fun _ h => h) fun _ => ?_
  refine .bind (told_idle (.ite quiet_params (.pure _))) fun _ => ?_
  refine .bind (told_idle (.ite quiet_read quiet_read)) fun ⟨openParams, codecs⟩ => ?_
  refine .ite (fun _ => told_idle ?_) fun _ => ?_
  · exact .bind (quiet_markRetryFailure _ _ _) fun _ => .pure _
  refine .bind (told_openCandidates operation codecs _ rfl) fun a => ?_
  cases hresponse : a.response with
  | none =>
    refine Told.mono (P := Idle kind reason) ?_ (fun h ht => by rwa [Tried, hresponse] at ht)
      fun _ _ h => h
    refine told_idle (.bind (quiet_markRetryFailure _ _ _) fun _ => ?_)
    exact .bind quiet_diagnostics fun _ => .pure _
  | some response => exact told_settleStream updateRetryState a response hresponse

theorem told_configureMediaStreamKind (updateRetryState operation : Bool) :
    Told (openPromise kind reason) (Idle kind reason)
      (configureMediaStreamKind cfg kind updateRetryState operation reason)
      fun _ => Idle kind reason := by
  have hret (b : Bool) : Told (openPromise kind reason) (Idle kind reason) (pure b : MediaProg Bool)
      fun _ => Idle kind reason := .ret fun _ h => h
  refine .bind (told_idle quiet_read) fun _ => .ite (fun _ => hret _) fun _ => ?_
  refine .bind (told_idle quiet_read) fun _ => .ite (fun _ => hret _) fun _ => ?_
  refine .bind (told_idle quiet_read) fun _ => .ite (fun _ => hret _) fun _ => ?_
  refine .bind (told_idle (.act fun s => ?_)) fun _ => ?_
  · exact quiet_record [.entered kind] rfl (by simp [Entry.silent])
  refine .bind (told_openStream updateRetryState operation) fun opened => ?_
  refine .bind (told_idle quiet_sources) fun _ => ?_
  refine .bind (told_idle (.act fun s => ?_)) fun _ => hret _
  exact quiet_record [.configured kind opened] rfl (by simp [Entry.silent])

/-! ## Every stream has an owner -/

theorem idle_nil : Idle kind reason [] := ⟨rfl, fun _ hx => absurd hx List.not_mem_nil⟩

/-- **Every stream of the peer has an owner**, exactly one: whatever the peer answers and whatever
    happens in between, a stream that an `openStream` reply names is published, closed or queued
    for a close before the next `openStream` of the call or, after the last one, before the call
    ends or breaks off. -/
theorem stream_has_owner (cfg : MediaConfig) (kind : MediaKind) (updateRetryState operation : Bool)
    (reason : MediaStreamEventReason) (l : List MediaAct) (q : MediaProg Bool)
    (hacts : Acts (configureMediaStreamKind cfg kind updateRetryState operation reason) l q)
    (hend : q = .halt ∨ ∃ opened, q = .ret opened) (k : MediaKind) (params response : Members)
    (reply : Reply) (before after : List MediaAct) (hreply : Replied k params reply after before l)
    (hok : reply.error.ok = true) (hbody : reply.body = some response)
    (hid : (Json.object response).u32Or "streamId" ≠ 0) :
    Owned kind reason ((Json.object response).u32Or "streamId")
      (after.takeWhile fun a => !asksStream a) := by
  have htold : Told (openPromise kind reason) (Idle kind reason)
      (configureMediaStreamKind cfg kind updateRetryState operation reason)
      fun _ => Idle kind reason := told_configureMediaStreamKind updateRetryState operation
  have hidle : Idle kind reason l := by
    rcases hend with rfl | ⟨opened, rfl⟩
    · exact htold.failed idle_nil hacts
    · exact htold.done idle_nil hacts
  obtain ⟨x, o, rfl⟩ := hreply
  have hmem : (reply, after.takeWhile fun a => !asksStream a) ∈ (book (before ++
      .sect x (x.record [.sent (.openStream k) params o]) :: .recv reply :: after)).answers :=
    mem_ledger_answers before after (asksStream_request x o) rfl rfl
  exact hidle.2 _ hmem response hok hbody hid

end

/-- The source of a kind that can be opened. -/
def availableSource : Json := .ofList [("sourceState", .ofList [("available", .boolean true)])]

/-- The peer answers with a stream. -/
def streamReply (streamId : ℕ) : Reply where
  body := some (streamIdParams streamId)

/-- **An id that the peer uses again**: stream 5 is opened as H.265, closed since the reply names
    no codec, and published when H.264 gets the same id, all by one call. -/
theorem reused_id_closed_and_published :
    let call := configureMediaStreamKind { videoCodecPreferences := [.h265, .h264] } .video true
      false .initialOpen
    let l := call.acts [streamReply 5, {}, streamReply 5]
      { connected := true, params.capabilities := ⟨some availableSource, none⟩ }
    Acts call l (.ret true) ∧
    (∃ params, Replied .video params (streamReply 5) (l.drop 10) (l.take 8) l) ∧
    ∃ d, d.streamId = 5 ∧ ((l.drop 10).flatMap entriesOf).filter (Entry.settles .video 5) =
      [.sent (.closeStream .video) (streamIdParams 5) false, .published d] :=
  ⟨Acts.of_exec _ _ _, ⟨_, _, false, rfl⟩, _, rfl, rfl⟩

/-- The peer answers with an audio stream. -/
def audioReply : Members :=
  .ofList [("streamId", .numberUnsigned 5), ("sampleRate", .numberUnsigned 44100),
    ("channels", .numberUnsigned 1)]

/-- Audio is opened, with one reply to `openStream`. -/
def audioCall (response : Members) : List MediaAct :=
  (configureMediaStreamKind {} .audio true false .initialOpen).acts [{ body := some response }]
    { connected := true, params.capabilities := ⟨none, some availableSource⟩ }

theorem audioCall_acts (response : Members) :
    ∃ q, Acts (configureMediaStreamKind {} .audio true false .initialOpen) (audioCall response) q :=
  ⟨_, Acts.of_exec _ _ _⟩

/-- Stream 5 is opened, and owned by the table. -/
theorem stream_has_owner_audio : Owned .audio .initialOpen 5
    (((audioCall audioReply).drop 9).takeWhile fun a => !asksStream a) :=
  stream_has_owner {} .audio true false .initialOpen (audioCall audioReply) _ (Acts.of_exec _ _ _)
    (.inr ⟨true, rfl⟩) .audio _ audioReply _ ((audioCall audioReply).take 7) _ ⟨_, false, rfl⟩
    rfl rfl (by decide)

/-! ## The numbers of a stream -/

def integerOf : Json → Option ℤ
  | .numberUnsigned n => some n.toNat
  | .numberInteger i => some i.toInt
  | _ => none

/-- The integer that a reply gives. -/
def integerAt (response : Members) (key : String) : Option ℤ :=
  ((Json.object response).find key).bind integerOf

/-- An integer has at most 32 bits, and is no zero with a sign. -/
def fitsU32 : Json → Prop
  | .numberUnsigned n => n.toNat < 2 ^ 32
  | .numberInteger i => i.toInt < 2 ^ 32 ∧ i.toInt ≠ 0
  | _ => True

/-- The integers of a reply fit. -/
structure NumbersFit (response : Members) : Prop where
  streamId : ∀ value ∈ (Json.object response).find "streamId", fitsU32 value
  number (m : NumberMember) : ∀ value ∈ (Json.object response).find m.key, fitsU32 value

/-- The numbers of the stream are those of the reply.  What is out of range is not taken. -/
structure TakenExactly (params response : Members) (d : StreamDescriptor) : Prop where
  streamId : ∃ n, integerAt response "streamId" = some n ∧ 1 ≤ n ∧ n < 2 ^ 32 ∧ d.streamId = n
  inRange (m : NumberMember) (n : ℤ) : integerAt response m.key = some n → 0 ≤ n → n < 2 ^ 32 →
    m.of d = n
  outOfRange (m : NumberMember) (n : ℤ) : integerAt response m.key = some n →
    ¬ (0 ≤ n ∧ n < 2 ^ 32) → m.of d = (Json.object params).u32Or m.key

/-- An integer that fits is read as it is, a negative one is not read. -/
theorem u32Or_of_fits {response : Members} {key : String} {n : ℤ}
    (hfits : ∀ value ∈ (Json.object response).find key, fitsU32 value)
    (hn : integerAt response key = some n) (fallback : ℕ) :
    n < 2 ^ 32 ∧ (0 ≤ n → ((Json.object response).u32Or key fallback : ℤ) = n) ∧
      (n < 0 → (Json.object response).u32Or key fallback = fallback) := by
  obtain ⟨value, hfind, hvalue⟩ := Option.bind_eq_some_iff.mp hn
  have hfit := hfits value hfind
  unfold Json.u32Or
  rw [hfind]
  cases value with
  | numberUnsigned m =>
    cases hvalue
    simp only [fitsU32] at hfit
    refine ⟨by omega, fun _ => ?_, fun hneg => absurd hneg (by omega)⟩
    simp only [Nat.mod_eq_of_lt hfit]
  | numberInteger i =>
    cases hvalue
    obtain ⟨hlt, hne⟩ := hfit
    refine ⟨hlt, fun hpos => ?_, fun hneg => ?_⟩
    · simp only [if_pos (show 0 < i.toInt by omega)]
      omega
    · simp only [if_neg (show ¬ 0 < i.toInt by omega)]
  | _ => cases hvalue

/-- Only a positive integer names a stream. -/
theorem integerAt_of_named {response : Members}
    (h : (Json.object response).u32Or "streamId" ≠ 0) :
    ∃ n, integerAt response "streamId" = some n ∧ 0 ≤ n := by
  unfold Json.u32Or at h
  unfold integerAt
  split at h
  · next n hfind => exact ⟨n.toNat, by rw [hfind]; rfl, Int.natCast_nonneg _⟩
  · next i hfind =>
    refine ⟨i.toInt, by rw [hfind]; rfl, ?_⟩
    split at h
    · omega
    · exact absurd rfl h
  · exact absurd rfl h

theorem TakenFrom.exactly {kind : MediaKind} {params response : Members} {d : StreamDescriptor}
    (h : TakenFrom kind params response d) (hfit : NumbersFit response) :
    TakenExactly params response d where
  streamId := by
    obtain ⟨n, hn, hpos⟩ := integerAt_of_named h.named
    obtain ⟨hlt, hread, -⟩ := u32Or_of_fits hfit.streamId hn 0
    have hnamed := h.named
    refine ⟨n, hn, ?_, hlt, ?_⟩
    · have := hread hpos
      omega
    · rw [h.streamId]
      exact hread hpos
  inRange m n hn hpos _ := by
    rw [h.number m]
    exact (u32Or_of_fits (hfit.number m) hn _).2.1 hpos
  outOfRange m n hn hout := by
    obtain ⟨hlt, -, hneg⟩ :=
      u32Or_of_fits (hfit.number m) hn ((Json.object params).u32Or m.key)
    rw [h.number m]
    exact hneg (by omega)

/-- **The numbers of a published stream** are those of the last reply, which is one to an
    `openStream` of the call, if the integers of the reply fit. -/
theorem numbers_taken (cfg : MediaConfig) (kind : MediaKind) (updateRetryState operation : Bool)
    (reason : MediaStreamEventReason) (l rest : List MediaAct) (a : MediaAct) (q : MediaProg Bool)
    (hacts : Acts (configureMediaStreamKind cfg kind updateRetryState operation reason)
      (l ++ a :: rest) q)
    (d : StreamDescriptor) (hpublished : .published d ∈ entriesOf a) :
    ∃ params reply acts before response, Replied kind params reply acts before l ∧
      (∀ b ∈ acts, replyOf b = none) ∧ reply.error.ok = true ∧ reply.body = some response ∧
      (NumbersFit response → TakenExactly params response d) := by
  have htold : Told (openPromise kind reason) (Idle kind reason)
      (configureMediaStreamKind cfg kind updateRetryState operation reason)
      fun _ => Idle kind reason := told_configureMediaStreamKind updateRetryState operation
  obtain ⟨params, reply, acts, before, response, hreplied, hlast, hok, hbody, htaken⟩ :=
    htold.after idle_nil hacts l a d rfl hpublished
  exact ⟨params, reply, acts, before, response, hreplied, hlast, hok, hbody, htaken.exactly⟩

/-- **A larger id is cut**: the peer names stream 4294967301, and stream 5 is published. -/
theorem large_stream_id_cut : ∃ l a rest q d params acts before,
    Acts (configureMediaStreamKind {} .audio true false .initialOpen) (l ++ a :: rest) q ∧
      .published d ∈ entriesOf a ∧
      Replied .audio params (streamReply 4294967301) acts before l ∧
      integerAt (streamIdParams 4294967301) "streamId" = some 4294967301 ∧ d.streamId = 5 := by
  obtain ⟨q, hacts⟩ := audioCall_acts (streamIdParams 4294967301)
  exact ⟨(audioCall (streamIdParams 4294967301)).take 14, _, _, _, _, _, _,
    (audioCall (streamIdParams 4294967301)).take 7, hacts,
    List.mem_singleton_self _, ⟨_, false, rfl⟩, by decide, rfl⟩

theorem replies_of_replied {kind : MediaKind} {params : Members} {reply : Reply}
    {acts before l : List MediaAct} (h : Replied kind params reply acts before l)
    (hlast : ∀ b ∈ acts, replyOf b = none) :
    l.filterMap replyOf = before.filterMap replyOf ++ [reply] := by
  obtain ⟨x, operation, rfl⟩ := h
  rw [List.filterMap_append]
  show before.filterMap replyOf ++ reply :: acts.filterMap replyOf = _
  rw [List.filterMap_eq_nil_iff.mpr hlast]

/-- Stream 5 is published with the sample rate and the channels of the reply. -/
theorem numbers_taken_audio : ∃ d, .published d ∈ (audioCall audioReply).flatMap entriesOf ∧
    d.streamId = 5 ∧ d.sampleRate = 44100 ∧ d.channels = 1 := by
  have hfit : NumbersFit audioReply := by
    refine ⟨?_, fun m => ?_⟩
    · rintro value ⟨⟩
      exact (by decide : (5 : UInt64).toNat < 2 ^ 32)
    · cases m <;> rintro value ⟨⟩
      · exact (by decide : (44100 : UInt64).toNat < 2 ^ 32)
      · exact (by decide : (1 : UInt64).toNat < 2 ^ 32)
  obtain ⟨q, hacts⟩ := audioCall_acts audioReply
  obtain ⟨params, reply, acts, before, response, hreplied, hlast, -, hbody, htaken⟩ :=
    numbers_taken {} .audio true false .initialOpen ((audioCall audioReply).take 14) _ _ q
      hacts _ (List.mem_singleton_self _)
  have hreplies : [] ++ [({ body := some audioReply } : Reply)] =
      before.filterMap replyOf ++ [reply] := replies_of_replied hreplied hlast
  obtain ⟨-, hone⟩ := List.append_inj' hreplies rfl
  cases hone
  cases hbody
  obtain ⟨n, hn, -, -, hid⟩ := (htaken hfit).streamId
  cases hn
  have hrate := (htaken hfit).inRange .sampleRate 44100 rfl (by decide) (by decide)
  have hchannels := (htaken hfit).inRange .channels 1 rfl (by decide) (by decide)
  exact ⟨_, List.mem_of_getElem? (i := 3) rfl, Int.ofNat.inj hid, Int.ofNat.inj hrate,
    Int.ofNat.inj hchannels⟩

end Axent.Axtp
