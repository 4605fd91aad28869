/-
  Video reconfiguration of a leaf `AxtpAdapter` as a transaction
  (`src/adapters/axtp_adapter.cpp`).

  A reconfiguration changes the frame rate of the session.  `advance_video_reconfigure`
  works on a copy of the operation and takes it up again in later iterations of the
  pump; meanwhile requests are answered, source events come in, and the calls to the
  peer fail.  Seen from outside it is a transaction (`Lib.Transaction`) on the rate:
  `TransactionInv` says that the log of the adapter replays as one and ends in the
  transaction that the parameters hold, and `reconfiguration_transactional` that this
  is so along all runs in which the session is not opened or closed during a step of
  the reconfiguration.

  Requests while a reconfiguration is in progress change nothing.  Not all of them are
  answered with busy: one that is malformed, or that found no open session, is told so
  (`malformed_request_not_busy`).
-/
import Axent.Lib.Transaction
import Axent.Axtp.VideoParams

namespace Axent.Axtp

open Lib Lib.Prog

variable {cfg : MediaConfig} {s s' : MediaState} {kind : MediaKind} {params : Members}
  {log entries : List Entry}

/-! ## The transaction in the log -/

/-- What an entry of the log is for the transaction. -/
def Entry.event : Entry → Option (TransactionEvent (Option ℕ))
  | answered r _ result =>
    if result.accepted ∧ result.state.state = .pending then some (.begins r.rate) else none
  | rolledBack _ => some .rollBack
  | ended _ .applied _ => some .apply
  | ended _ .rolledBack _ => some .restore
  | ended _ _ _ => some .fail
  | cleared rate => some (.reset rate)
  | _ => none

/-- The transaction after what is in the log; none if it cannot have happened. -/
def transactionOf (log : List Entry) : Option (Transaction (Option ℕ)) :=
  (Transaction.idle none).replay (log.filterMap Entry.event)

/-- The transaction that the parameters hold. -/
def Params.transaction (p : Params) : Transaction (Option ℕ) :=
  match p.reconfigure with
  | none => .idle p.frameRate
  | some op => .running op.previousFrameRate op.requestedFrameRate op.rollback

/-- Every request for a video stream of a reconfiguration carries the rate in force. -/
def CarriesRate (log : List Entry) : Prop :=
  ∀ l params l', log = l ++ .sent (.openStream .video) params true :: l' →
    ∃ previous requested rolledBack,
      transactionOf l = some (.running previous requested rolledBack) ∧
      params.lookup "frameRate" =
        (if rolledBack then previous else requested).map frameRateMember

theorem transactionOf_append (h : ∀ e ∈ entries, e.event = none) :
    transactionOf (log ++ entries) = transactionOf log := by
  have hnone : entries.filterMap Entry.event = [] := List.filterMap_eq_nil_iff.mpr h
  rw [transactionOf, List.filterMap_append, hnone, List.append_nil, transactionOf]

theorem transactionOf_concat {e : Entry} {ev : TransactionEvent (Option ℕ)}
    {T : Transaction (Option ℕ)} (h : transactionOf log = some T) (he : e.event = some ev) :
    transactionOf (log ++ [e]) = T.next ev := by
  have hevents : [e].filterMap Entry.event = [ev] := by simp [he]
  rw [transactionOf, List.filterMap_append, hevents, Transaction.replay_append]
  rw [transactionOf] at h
  rw [h, Option.bind_some, Transaction.replay_cons]
  cases T.next ev <;> rfl

theorem Entry.event_of_isPlain {e : Entry} (h : e.isPlain) : e.event = none := by
  cases e <;> first | rfl | cases h

theorem CarriesRate.append (h : CarriesRate log) (hentries : ∀ e ∈ entries, e.ofOperation = false) :
    CarriesRate (log ++ entries) := by
  intro l params l' heq
  rw [List.append_eq_append_iff] at heq
  obtain ⟨m, rfl, hm⟩ | ⟨m, rfl, hm⟩ := heq
  · -- the request would be one of the new entries
    have := hentries (.sent (.openStream .video) params true) (by simp [hm])
    cases this
  · cases m with
    | nil =>
      have := hentries (.sent (.openStream .video) params true) (by simp at hm; simp [← hm])
      cases this
    | cons e m =>
      cases hm
      exact h l params m rfl

theorem CarriesRate.concat_sent {previous requested : Option ℕ} {rolledBack : Bool}
    (h : CarriesRate log) (hT : transactionOf log = some (.running previous requested rolledBack))
    (hrate : kind = .video → params.lookup "frameRate" =
      (if rolledBack then previous else requested).map frameRateMember) :
    CarriesRate (log ++ [.sent (.openStream kind) params true]) := by
  intro l params' l' heq
  rw [List.append_eq_append_iff] at heq
  obtain ⟨m, rfl, hm⟩ | ⟨m, rfl, hm⟩ := heq
  · obtain ⟨rfl, hm⟩ := List.append_eq_singleton_iff.mp hm.symm |>.resolve_right (by simp)
    cases hm
    exact ⟨previous, requested, rolledBack, by simpa using hT, hrate rfl⟩
  · cases m with
    | nil =>
      cases hm
      exact ⟨previous, requested, rolledBack, by simpa using hT, hrate rfl⟩
    | cons e m =>
      cases hm
      exact h l params' m rfl

/-! ## The invariant -/

/-- **The adapter refines the transaction**: its log replays as one and ends in the one that the
    parameters hold; the rate of the session is the one in force. -/
structure TransactionInv (s : MediaState) : Prop where
  refines : transactionOf s.log = some s.params.transaction
  rate : s.params.frameRate = s.params.transaction.value
  desired : s.params.state.desiredFrameRate = s.params.frameRate
  carries : CarriesRate s.log

namespace TransactionInv
variable {s s' : MediaState}

theorem same (h : TransactionInv s) (hreconfigure : s'.params.reconfigure = s.params.reconfigure)
    (hrate : s'.params.frameRate = s.params.frameRate)
    (hdesired : s'.params.state.desiredFrameRate = s'.params.frameRate)
    (hlog : s'.log = s.log ++ entries)
    (hentries : ∀ e ∈ entries, e.event = none ∧ e.ofOperation = false) : TransactionInv s' where
  refines := by
    rw [hlog, transactionOf_append fun e he => (hentries e he).1, h.refines, Params.transaction,
      Params.transaction, hreconfigure, hrate]
  rate := by
    rw [hrate, h.rate, Params.transaction, Params.transaction, hreconfigure, hrate]
  desired := hdesired
  carries := by
    rw [hlog]
    exact h.carries.append fun e he => (hentries e he).2

theorem silent (h : TransactionInv s) (hreconfigure : s'.params.reconfigure = s.params.reconfigure)
    (hrate : s'.params.frameRate = s.params.frameRate)
    (hdesired : s'.params.state.desiredFrameRate = s.params.state.desiredFrameRate)
    (hlog : s'.log = s.log) : TransactionInv s' :=
  h.same hreconfigure hrate (by rw [hdesired, h.desired, hrate])
    (hlog.trans (List.append_nil _).symm) (by simp)

theorem calm (h : TransactionInv s) (hcalm : s.Calm false s') : TransactionInv s' := by
  obtain ⟨entries, hlog, hplain⟩ := hcalm.log
  refine h.same hcalm.reconfigure hcalm.frameRate ?_ hlog fun e he => ?_
  · rcases hcalm.desired with hdesired | hdesired
    · rw [hdesired, h.desired, hcalm.frameRate]
    · rw [hdesired, hcalm.frameRate]
  · obtain ⟨hplain, hoperation⟩ := hplain e he
    refine ⟨Entry.event_of_isPlain hplain, ?_⟩
    cases hop : e.ofOperation with
    | false => rfl
    | true => cases hoperation hop

theorem next (h : TransactionInv s) {e : Entry} (ev : TransactionEvent (Option ℕ))
    (hlog : s'.log = s.log ++ [e]) (he : e.event = some ev) (hoperation : e.ofOperation = false)
    (hnext : s.params.transaction.next ev = some s'.params.transaction)
    (hrate : s'.params.frameRate = s'.params.transaction.value)
    (hdesired : s'.params.state.desiredFrameRate = s'.params.frameRate) : TransactionInv s' where
  refines := by
    rw [hlog]
    exact (transactionOf_concat h.refines he).trans hnext
  rate := hrate
  desired := hdesired
  carries := by
    rw [hlog]
    exact h.carries.append fun e' he' => List.mem_singleton.mp he' ▸ hoperation

theorem answered (h : TransactionInv s) (r : ParamsRequest) (video audio : Option StreamDescriptor)
    (found : Bool) :
    TransactionInv { s.record [.answered r found (s.params.decide cfg r video audio found).1] with
      params := (s.params.decide cfg r video audio found).2 } := by
  cases hacc : (s.params.decide cfg r video audio found).1.accepted with
  | false =>
    refine h.same ?_ ?_ ?_ rfl ?_
    · simp only [Params.decide_refused hacc]
    · simp only [Params.decide_refused hacc]
    · simp only [Params.decide_refused hacc, h.desired]
    · simp [Entry.event, Entry.ofOperation, hacc]
  | true =>
    obtain ⟨hidle, ⟨hsame, heq⟩ | ⟨hrate, heq⟩⟩ := Params.decide_accepted hacc
    · have hstate := Params.state_decide hacc
      refine h.same ?_ ?_ ?_ rfl ?_
      · simp only [heq, Params.unchanged]
      · simp only [heq, Params.unchanged]
      · simp only [heq, Params.unchanged, h.desired]
      · simp [Entry.event, Entry.ofOperation, hstate, heq, Params.unchanged]
    · have hstate := Params.state_decide hacc
      refine h.next (.begins r.rate) rfl ?_ rfl ?_ ?_ ?_
      · simp [Entry.event, hacc, hstate, heq, Params.begin]
      · simp only [heq, Params.begin, Params.transaction, hidle]
        rfl
      · simp only [heq, Params.begin, Params.transaction]
        rfl
      · simp only [heq, Params.begin]

end TransactionInv

/-! ## The other jobs -/

/-- The job sets parameters. -/
def Job.setsParams : Job → Bool
  | setParams _ => true
  | _ => false

/-- The threads of the leaf, when the session is not opened or closed during a step of a
    reconfiguration, nor opened during a request for parameters. -/
def transactionRules (cfg : MediaConfig) : Rules MediaState Reply Job where
  prog := Job.prog cfg
  alongside a b := ¬ (a.byOwner ∧ b.byOwner) ∧
    ¬ (a = .advance ∧ b.ofSession) ∧ ¬ (b = .advance ∧ a.ofSession) ∧
    ¬ (a.opens ∧ b.setsParams) ∧ ¬ (b.opens ∧ a.setsParams)
  tick := MediaState.Later

/-- What the jobs other than a reconfiguration and an open do to the transaction. -/
structure Undisturbed (job : Job) (s s' : MediaState) : Prop where
  inv : TransactionInv s'
  running : job.ofSession = false → ∀ op, s.params.reconfigure = some op →
    s'.params.reconfigure = some op
  idle : job.setsParams = false → s.params.reconfigure = none → s'.params.reconfigure = none

theorem Undisturbed.of_same {job : Job} (hinv : TransactionInv s')
    (h : s'.params.reconfigure = s.params.reconfigure) : Undisturbed job s s' :=
  ⟨hinv, fun _ _ hop => h.trans hop, fun _ hnone => h.trans hnone⟩

theorem TransactionInv.cleared (h : TransactionInv s) (preserve : Bool) :
    TransactionInv { s.record [.cleared none] with
      params := {
        nextReconfigureId := s.params.nextReconfigureId
        state := { sessionId := if preserve then s.params.state.sessionId else "" } } } :=
  h.next (.reset none) rfl rfl rfl rfl rfl rfl

theorem JobSection.undisturbed {job : Job} (h : JobSection cfg s job s') (hs : TransactionInv s)
    (hadvance : job ≠ .advance) (hopen : job.opens = false) : Undisturbed job s s' := by
  cases h with
  | media h => exact .of_same (hs.calm h.calm) h.calm.reconfigure
  | mediaOfOperation | takeClosed | closed | failed | kept | restored | opening | rolledBack
    | completed => exact absurd rfl hadvance
  | rejected r =>
    exact .of_same (hs.same rfl rfl hs.desired rfl (by simp [Entry.event, Entry.ofOperation])) rfl
  | answered r video audio found =>
    refine ⟨hs.answered r video audio found, fun _ op hop => ?_, fun hset => by cases hset⟩
    have hrefused : (s.params.decide cfg r video audio found).1.accepted = false := by
      by_contra hacc
      have hidle := (Params.decide_accepted (Bool.eq_true_of_not_eq_false hacc)).1
      simp [hop] at hidle
    simp only [Params.decide_refused hrefused, hop]
  | bound | unbound | disconnected | sessionClosed | streamsCleared | diagnosticsCleared | ready
    | sessionOpened => exact .of_same (hs.silent rfl rfl rfl rfl) rfl
  | named | unnamed =>
    exact .of_same (hs.same rfl rfl hs.desired rfl (by simp [Entry.event, Entry.ofOperation])) rfl
  | paramsCleared hjob preserve =>
    exact ⟨hs.cleared preserve, fun hsession => by simp [hsession] at hjob, fun _ _ => rfl⟩
  | paramsInit hjob => simp [hopen] at hjob

/-! ## A step of the reconfiguration -/

/-- The transaction of an operation. -/
def Reconfigure.transaction (op : Reconfigure) : Transaction (Option ℕ) :=
  .running op.previousFrameRate op.requestedFrameRate op.rollback

theorem Params.transaction_of_some {p : Params} {op : Reconfigure}
    (h : p.reconfigure = some op) : p.transaction = op.transaction := by
  rw [transaction, h]
  rfl

theorem Reconfigure.value_transaction (op : Reconfigure) : op.transaction.value = op.targetRate :=
  rfl

/-- A step of the reconfiguration relies on the others to leave the operation alone. -/
def operationContract : Contract MediaState where
  rely s s' := (TransactionInv s → TransactionInv s') ∧
    ∀ op, s.params.reconfigure = some op → s'.params.reconfigure = some op
  guar s s' := TransactionInv s → TransactionInv s'
  refl _ := ⟨id, fun _ => id⟩
  trans h h' := ⟨h'.1 ∘ h.1, fun op => h'.2 op ∘ h.2 op⟩

/-- The operation is in progress.  The local copy may differ in how far its closes are. -/
structure Underway (op : Reconfigure) (s : MediaState) : Prop where
  inv : TransactionInv s
  operation : ∃ op', s.params.reconfigure = some op' ∧ op'.transaction = op.transaction

namespace Underway
variable {op op' : Reconfigure} {s s' : MediaState} {α : Type}

open MediaProg (Listed)

theorem transaction (h : Underway op s) : s.params.transaction = op.transaction := by
  obtain ⟨op', hsome, heq⟩ := h.operation
  rw [Params.transaction_of_some hsome, heq]

theorem isSome (h : Underway op s) : s.params.reconfigure.isSome := by
  obtain ⟨op', hsome, _⟩ := h.operation
  simp [hsome]

theorem rate (h : Underway op s) : s.params.frameRate = op.targetRate := by
  rw [h.inv.rate, h.transaction, op.value_transaction]

theorem openFrameRate (h : Underway op s) : s.params.openFrameRate true = op.targetRate := by
  obtain ⟨op', hsome, heq⟩ := h.operation
  have hrate : op'.targetRate = op.targetRate := by
    rw [← op'.value_transaction, heq, op.value_transaction]
  simp only [Params.openFrameRate, hsome]
  exact hrate

theorem of_eq (h : Underway op s) (heq : op'.transaction = op.transaction) : Underway op' s := by
  obtain ⟨op₁, hsome, heq₁⟩ := h.operation
  exact ⟨h.inv, op₁, hsome, heq₁.trans heq.symm⟩

theorem calm (h : Underway op s) (hcalm : s.Calm false s') : Underway op s' := by
  obtain ⟨op', hsome, heq⟩ := h.operation
  exact ⟨h.inv.calm hcalm, op', hcalm.reconfigure.trans hsome, heq⟩

theorem silent (h : Underway op s) (hparams : s'.params = s.params) (hlog : s'.log = s.log) :
    Underway op s' := by
  obtain ⟨op', hsome, heq⟩ := h.operation
  refine ⟨h.inv.silent ?_ ?_ ?_ hlog, op', ?_, heq⟩
  · rw [hparams]
  · rw [hparams]
  · rw [hparams]
  · rw [hparams, hsome]

theorem kept (h : Underway op s) : Underway op { s with params := s.params.keepOperation op } := by
  obtain ⟨op', hsome, heq⟩ := h.operation
  have hsome' : (s.params.keepOperation op).reconfigure = some op := by
    simp [Params.keepOperation, hsome]
  have htransaction : (s.params.keepOperation op).transaction = s.params.transaction := by
    rw [Params.transaction_of_some hsome', h.transaction]
  exact ⟨⟨h.inv.refines.trans (congrArg some htransaction.symm),
    h.inv.rate.trans (congrArg _ htransaction.symm), h.inv.desired, h.inv.carries⟩, op, hsome', rfl⟩

theorem restored (h : Underway op s) {state : VideoParams}
    (hstate : state.desiredFrameRate = op.targetRate) :
    Underway op { s.record [.restored state] with
      params := { s.params with state := state } } := by
  obtain ⟨op', hsome, heq⟩ := h.operation
  refine ⟨h.inv.same rfl rfl (hstate.trans h.rate.symm) rfl ?_, op', hsome, heq⟩
  simp [Entry.event, Entry.ofOperation]

theorem opening (h : Underway op s) :
    Underway op { s with params := { s.params with
      state := { s.params.state with phase := .opening, state := .pending } } } := by
  obtain ⟨op', hsome, heq⟩ := h.operation
  exact ⟨h.inv.silent rfl rfl rfl rfl, op', hsome, heq⟩

theorem sentOpen (h : Underway op s)
    (hrate : kind = .video → params.lookup "frameRate" = op.targetRate.map frameRateMember) :
    Underway op (s.record [.sent (.openStream kind) params true]) := by
  obtain ⟨op', hsome, heq⟩ := h.operation
  refine ⟨⟨?_, h.inv.rate, h.inv.desired, ?_⟩, op', hsome, heq⟩
  · exact (transactionOf_append (by simp [Entry.event])).trans h.inv.refines
  · exact h.inv.carries.concat_sent (h.inv.refines.trans (congrArg some h.transaction)) hrate

theorem failed (h : Underway op s) (failure : Failure) (preserve : Bool) :
    TransactionInv { s.record [.ended op .failed (!preserve)] with
      params := s.params.finishFailed op failure preserve } := by
  refine h.inv.next .fail rfl rfl rfl ?_ rfl rfl
  rw [h.transaction]
  cases hrollback : op.rollback <;> simp [Reconfigure.transaction, hrollback] <;> rfl

theorem rolledBack (h : Underway op s) (hop : op.rollback = false)
    (heq : op'.transaction = .running op.previousFrameRate op.requestedFrameRate true)
    (failure : Failure) (phase : ParamsPhase) :
    TransactionInv { s.record [.rolledBack op'] with
      params := s.params.rollBack op' failure phase } := by
  have hnext : s.params.transaction.next .rollBack = some op'.transaction := by
    rw [h.transaction, heq, Reconfigure.transaction, hop]
    rfl
  have hrollback : op'.rollback = true := by
    simp only [Reconfigure.transaction, Transaction.running.injEq] at heq
    exact heq.2.2
  refine h.inv.next .rollBack rfl rfl rfl hnext ?_ rfl
  simp [Params.rollBack, Params.transaction, Transaction.value, hrollback]

theorem completed (h : Underway op s) :
    TransactionInv { s.record [.ended op (s.params.complete op).state.state false] with
      params := s.params.complete op } := by
  have hrate : (s.params.complete op).transaction = .idle op.targetRate := by
    rw [← h.rate]
    rfl
  cases hrollback : op.rollback with
  | false =>
    refine h.inv.next .apply rfl ?_ rfl ?_ rfl h.inv.desired
    · simp [Params.complete, hrollback, Entry.event]
    · simp [h.transaction, hrate, Reconfigure.transaction, Reconfigure.targetRate, hrollback,
        Transaction.next]
  | true =>
    refine h.inv.next .restore rfl ?_ rfl ?_ rfl h.inv.desired
    · simp [Params.complete, hrollback, Entry.event]
    · simp [h.transaction, hrate, Reconfigure.transaction, Reconfigure.targetRate, hrollback,
        Transaction.next]

theorem stable (op : Reconfigure) : operationContract.Stable (Underway op) := by
  rintro s s' h ⟨hinv, hkept⟩
  obtain ⟨op', hsome, heq⟩ := h.operation
  exact ⟨hinv h.inv, op', hkept op' hsome, heq⟩

theorem listed {p : MediaProg α} (h : Listed false p) (op : Reconfigure) :
    Triple operationContract (Underway op) p fun _ => Underway op :=
  .every h (fun _ _ hs hsect => ⟨fun _ => hs.inv.calm hsect.calm, hs.calm hsect.calm⟩) (stable op)

theorem act {f : MediaState → α × MediaState} (h : ∀ s, Underway op s → Underway op' (f s).2) :
    Triple operationContract (Underway op) (Prog.act f : MediaProg α) fun _ => Underway op' :=
  .act (stable op) (fun _ => stable op') fun s hs => ⟨fun _ => (h s hs).inv, h s hs⟩

theorem read {f : MediaState → α} {R : α → Prop} (h : ∀ s, Underway op s → R (f s)) :
    Triple operationContract (Underway op) (Prog.read f : MediaProg α)
      fun a s => R a ∧ Underway op s :=
  .read (fun _ => id) (stable op) h

end Underway

/-! ### The streams are opened -/

section
variable {op : Reconfigure}

/-- The parameters for video carry the rate of the operation. -/
def Reconfigure.Carried (op : Reconfigure) (kind : MediaKind) (params : Members) : Prop :=
  kind = .video → params.lookup "frameRate" = op.targetRate.map frameRateMember

theorem lookup_videoOpenParams (cfg : MediaConfig) (capabilities : Option Json) (p : Params) :
    (videoOpenParams cfg capabilities p).1.lookup "frameRate" = none := by
  unfold videoOpenParams
  split
  · simp [Members.lookup_erase]
  · simp [Members.ofList, Members.lookup_set]

theorem lookup_withFrameRate (h : params.lookup "frameRate" = none) (rate : Option ℕ) :
    (withFrameRate params rate).lookup "frameRate" = rate.map frameRateMember := by
  cases rate with
  | none => exact h
  | some rate => simp [withFrameRate, Members.lookup_set]

theorem underway_callJson_open (h : op.Carried kind params) :
    Triple operationContract (Underway op) (callJson cfg (.openStream kind) params true)
      fun _ => Underway op :=
  .bind (Underway.act fun _ hs => hs.sentOpen h) fun _ =>
    Underway.listed (listed_awaitReply (.pure ())) op

theorem returns_acceptStream (kind : MediaKind) (codec : String) (response : Members)
    (a : Attempt) :
    (acceptStream cfg kind codec response a).Returns fun a' => a'.openParams = a.openParams := by
  unfold acceptStream
  simp only
  split
  · exact rfl
  · exact .after fun _ => rfl

theorem underway_openCandidate {codec : String} {a : Attempt} (h : op.Carried kind a.openParams) :
    Triple operationContract (Underway op) (openCandidate cfg kind true codec a)
      fun a' s => op.Carried kind a'.openParams ∧ Underway op s := by
  unfold openCandidate
  have hcarried : op.Carried kind (if kind = .video then
      { a with openParams := a.openParams.set "codec" (.string (requestCodec cfg kind codec)) }
      else a).openParams := by
    intro hkind
    simp [hkind, Members.lookup_set, h hkind]
  revert hcarried
  generalize (if kind = .video then
    { a with openParams := a.openParams.set "codec" (.string (requestCodec cfg kind codec)) }
    else a) = b
  intro hcarried
  refine .bind (underway_callJson_open hcarried) fun response => ?_
  cases response with
  | none =>
    refine .returns (.bind (Underway.listed listed_read op) fun _ =>
      Underway.listed (.pure _) op) ?_
    exact .after fun _ => hcarried
  | some response =>
    simp only
    split
    · exact .returns (Underway.listed (.pure _) op) hcarried
    · refine .returns (.bind (Underway.listed (listed_record fun _ => .allocated _ _) op) fun _ =>
        Underway.listed (listed_acceptStream ..) op) (.after fun _ => ?_)
      exact Returns.mono (returns_acceptStream ..) fun a' ha' => ha' ▸ hcarried

theorem underway_openCandidates (codecs : List String) {a : Attempt}
    (h : op.Carried kind a.openParams) :
    Triple operationContract (Underway op) (openCandidates cfg kind true codecs a)
      fun _ => Underway op := by
  induction codecs generalizing a with
  | nil => exact Underway.listed (.pure _) op
  | cons codec codecs ih =>
    refine .bind (underway_openCandidate h) fun a' => .assume fun ha' => ?_
    refine .bind (Underway.listed listed_read op) fun _ => .ite (fun _ => ?_) fun _ => ?_
    · exact .bind (Underway.listed (listed_setLastEvent _) op) fun _ => ih ha'
    · exact Underway.listed (.pure _) op

theorem underway_chooseOpen (kind : MediaKind) (capabilities : Option Json) :
    Triple operationContract (Underway op) (chooseOpen cfg kind op.targetRate capabilities)
      fun r s => op.Carried kind r.1 ∧ Underway op s := by
  refine .ite (fun _ => Underway.read fun s _ _ => ?_) fun hkind => Underway.read fun s _ h => ?_
  · exact lookup_withFrameRate (lookup_videoOpenParams ..) _
  · exact absurd h hkind

theorem underway_openStream (kind : MediaKind) (update : Bool) (reason : MediaStreamEventReason) :
    Triple operationContract (Underway op) (openStream cfg kind update true reason)
      fun _ => Underway op := by
  refine .bind (Underway.read (R := (· = op.targetRate)) fun s hs => hs.openFrameRate)
    fun rate => .assume fun hrate => ?_
  subst hrate
  refine .bind (Underway.listed (listed_fetchCapabilities kind) op) fun capabilities => ?_
  refine .bind (Underway.listed (listed_checkCapabilities ..) op) fun _ => .ite (fun _ => ?_) ?_
  · exact Underway.listed (.pure _) op
  intro _
  refine .bind (Underway.listed (.when (listed_params fun _ => ⟨rfl, rfl, rfl, rfl⟩)) op)
    fun _ => ?_
  refine .bind (underway_chooseOpen kind capabilities) fun ⟨params, codecs⟩ => .assume fun h => ?_
  refine .ite (fun _ => ?_) fun _ => ?_
  · exact Underway.listed (.bind (listed_markRetryFailure ..) fun _ => .pure _) op
  refine .bind (underway_openCandidates codecs h) fun a => ?_
  cases a.response with
  | none =>
    exact Underway.listed (.bind (listed_markRetryFailure ..) fun _ =>
      .bind (listed_setLastEvent _) fun _ => .pure _) op
  | some response => exact Underway.listed (listed_settleStream ..) op

theorem underway_configureForOperation (kind : MediaKind) :
    Triple operationContract (Underway op) (configureForOperation cfg kind)
      fun _ => Underway op := by
  refine .bind (Underway.listed listed_read op) fun _ => .ite (fun _ => ?_) fun _ => ?_
  · exact Underway.listed (.pure _) op
  refine .bind (Underway.listed listed_read op) fun _ => .ite (fun _ => ?_) fun _ => ?_
  · exact Underway.listed (.pure _) op
  refine .bind (Underway.listed listed_read op) fun _ => .ite (fun _ => ?_) fun _ => ?_
  · exact Underway.listed (.pure _) op
  refine .bind (Underway.listed (.act fun s => .entered kind) op) fun _ => ?_
  refine .bind (underway_openStream kind _ _) fun opened => ?_
  refine .bind (Underway.listed (listed_sources fun _ => rfl) op) fun _ => ?_
  exact Underway.listed (.bind (.act fun s => .configured kind opened) fun _ => .pure _) op

/-! ### The whole step -/

theorem TransactionInv.stable : operationContract.Stable TransactionInv :=
  fun _ _ hs hrely => hrely.1 hs

/-- What is left of a step when the operation is over, or goes on in a later step. -/
theorem transaction_listed {α : Type} {p : MediaProg α} (h : MediaProg.Listed false p) :
    Triple operationContract TransactionInv p fun _ => TransactionInv :=
  .every h (fun _ _ hs hsect => ⟨fun _ => hs.calm hsect.calm, hs.calm hsect.calm⟩)
    TransactionInv.stable

theorem underway_finishFailed (failure : Failure) (preserve : Bool) :
    Triple operationContract (Underway op) (finishFailed op failure preserve)
      fun _ => TransactionInv := by
  refine .bind (Q := fun _ => TransactionInv) ?_ fun _ =>
    transaction_listed (listed_notifyVideoParams _)
  exact .act (Underway.stable op) (fun _ => TransactionInv.stable) fun s hs =>
    ⟨fun _ => hs.failed failure preserve, hs.failed failure preserve⟩

theorem underway_rollBack {op' : Reconfigure} (hop : op.rollback = false)
    (heq : op'.transaction = .running op.previousFrameRate op.requestedFrameRate true)
    (failure : Failure) (phase : ParamsPhase) :
    Triple operationContract (Underway op) (rollBack op' failure phase)
      fun _ => TransactionInv := by
  refine .bind (Q := fun _ => TransactionInv) ?_ fun _ =>
    transaction_listed (.forEach listed_notifyVideoParams _)
  refine .act (Underway.stable op) (fun _ => TransactionInv.stable) fun s hs => ?_
  simp only [hs.isSome, if_true]
  exact ⟨fun _ => hs.rolledBack hop heq failure phase, hs.rolledBack hop heq failure phase⟩

theorem underway_complete :
    Triple operationContract (Underway op) (complete op) fun _ => TransactionInv := by
  refine .bind (Q := fun _ => TransactionInv) ?_ fun _ =>
    transaction_listed (listed_notifyVideoParams _)
  exact .act (Underway.stable op) (fun _ => TransactionInv.stable) fun s hs =>
    ⟨fun _ => hs.completed, hs.completed⟩

/-- The step goes on with the operation, or it has come to its end. -/
def GoesOn : Option Reconfigure → MediaState → Prop
  | some op, s => Underway op s
  | none, s => TransactionInv s

theorem GoesOn.stable (r : Option Reconfigure) : operationContract.Stable (GoesOn r) := by
  cases r with
  | none => exact TransactionInv.stable
  | some op => exact Underway.stable op

theorem underway_some {op' : Reconfigure} (h : op'.transaction = op.transaction) :
    Triple operationContract (Underway op) (pure (some op') : MediaProg _) GoesOn :=
  .mono (.ret (GoesOn.stable (some op'))) (fun _ hs => hs.of_eq h) fun _ _ => id

theorem transaction_none :
    Triple operationContract TransactionInv (pure none : MediaProg _) GoesOn :=
  .ret (GoesOn.stable none)

theorem underway_openVideo :
    Triple operationContract (Underway op) (openVideo cfg op) GoesOn := by
  refine .ite (fun _ => underway_some rfl) fun _ => ?_
  refine .bind (underway_configureForOperation .video) fun _ => .ite (fun _ => ?_) fun _ => ?_
  · refine .bind (Q := fun _ => Underway { op with videoOpened := true }) ?_
      fun _ => underway_some rfl
    refine Underway.act fun s hs => Underway.kept ?_
    exact hs.of_eq rfl
  refine .bind (Underway.listed listed_read op) fun failure => ?_
  split
  · next hroll =>
    simp only [Reconfigure.canRollBack, Bool.and_eq_true, Bool.not_eq_true'] at hroll
    exact .bind (underway_rollBack hroll.1 rfl _ _) fun _ => transaction_none
  · exact .bind (underway_finishFailed _ _) fun _ => transaction_none

theorem underway_openAudio :
    Triple operationContract (Underway op) (openAudio cfg op) GoesOn := by
  refine .ite (fun _ => underway_some rfl) fun _ => ?_
  refine .bind (underway_configureForOperation .audio) fun _ => .ite (fun _ => underway_some rfl) ?_
  intro _
  refine .bind (Underway.listed listed_read op) fun failure => ?_
  split
  · next hroll =>
    refine .bind (Underway.listed listed_read op) fun video => ?_
    exact .bind (underway_rollBack (by simpa using hroll) rfl _ _) fun _ => transaction_none
  · exact .bind (underway_finishFailed _ _) fun _ => transaction_none

theorem underway_advanceOpen :
    Triple operationContract (Underway op) (advanceOpen cfg op) fun _ => TransactionInv := by
  refine .bind (Q := fun _ => Underway op) ?_ fun _ => ?_
  · refine .act (Underway.stable op) (fun _ => Underway.stable op) fun s hs => ?_
    simp only [hs.isSome, if_true]
    exact ⟨fun _ => hs.opening.inv, hs.opening⟩
  refine .ite (fun _ => ?_) fun _ => ?_
  · refine .bind underway_openVideo fun result => ?_
    rcases result with _ | op
    · exact transaction_listed (.pure _)
    refine .bind underway_openAudio fun result => ?_
    rcases result with _ | op
    · exact transaction_listed (.pure _)
    refine .ite (fun _ => underway_complete) fun _ => ?_
    exact .mono (Underway.listed (.pure _) op) (fun _ => id) fun _ _ hs => hs.inv
  · exact .mono (Underway.listed (.pure _) op) (fun _ => id) fun _ _ hs => hs.inv

theorem underway_markPreviousClosed (d : StreamDescriptor) :
    Triple operationContract (Underway op) (markPreviousClosed d) fun _ => Underway op := by
  refine .bind (Underway.act fun s hs => hs.silent rfl rfl) fun ⟨removed, count⟩ => ?_
  refine .ite (fun _ => ?_) fun _ => Underway.listed (.pure _) op
  refine .bind (Underway.listed (listed_enqueueStreamEvents _) op) fun _ => ?_
  exact Underway.act fun s hs => hs.silent rfl rfl

/-- The operation that a close goes on with has the same transaction. -/
def Reconfigure.SameIn (op : Reconfigure) : Except Failure Reconfigure → Prop
  | .ok op' => op'.transaction = op.transaction
  | .error _ => True

theorem returns_callClose (kind : MediaKind) (d : StreamDescriptor) (op : Reconfigure) :
    (callClose cfg kind d op).Returns fun r => op.SameIn (r.map (·.1)) := by
  unfold callClose
  split
  · refine .after fun body => .after fun error => ?_
    split
    · change (op.markSent kind).transaction = op.transaction
      unfold Reconfigure.markSent
      split <;> rfl
    · trivial
  · refine .after fun now => ?_
    split
    · trivial
    · exact .after fun body => rfl

theorem transaction_markTerminal (op : Reconfigure) (kind : MediaKind) :
    (op.markTerminal kind).transaction = op.transaction := by
  unfold Reconfigure.markTerminal
  split <;> rfl

theorem transaction_withDeadline (op : Reconfigure) (now : ℕ) :
    (op.withDeadline now).transaction = op.transaction := by
  unfold Reconfigure.withDeadline
  split <;> rfl

theorem underway_result {r : Except Failure Reconfigure} (h : op.SameIn r) :
    Triple operationContract (Underway op) (pure r : MediaProg _)
      fun r s => op.SameIn r ∧ Underway op s :=
  .returns (Underway.listed (.pure _) op) h

theorem underway_advanceClose (kind : MediaKind) :
    Triple operationContract (Underway op) (advanceClose cfg kind op)
      fun r s => op.SameIn r ∧ Underway op s := by
  refine .ite (fun _ => underway_result rfl) fun _ => ?_
  cases op.previous kind with
  | none => exact underway_result (transaction_markTerminal op kind)
  | some d =>
    refine .bind (.returns (Underway.listed (listed_callClose kind d op) op)
      (returns_callClose kind d op)) fun result => .assume fun hresult => ?_
    rcases result with failure | ⟨op₁, body⟩
    · exact underway_result trivial
    refine .ite (fun _ => underway_result trivial) fun _ => ?_
    rcases saysClosed body with _ | closed
    · exact .halt
    cases closed with
    | false => exact underway_result hresult
    | true =>
      refine .bind (underway_markPreviousClosed d) fun _ => underway_result ?_
      exact (transaction_markTerminal op₁ kind).trans hresult

theorem underway_advanceCloses {state : VideoParams}
    (hstate : state.desiredFrameRate = op.targetRate) :
    Triple operationContract (Underway op) (advanceCloses cfg op state) GoesOn := by
  refine .bind (Underway.listed listed_read op) fun now => ?_
  have hdeadline := transaction_withDeadline op now
  refine .bind (.mono (underway_advanceClose .video) (fun _ hs => hs.of_eq hdeadline)
    fun _ _ => id) fun result => .assume fun hresult => ?_
  rcases result with failure | op₁
  · refine .mono (.bind (underway_finishFailed failure true) fun _ => transaction_none)
      (fun _ hs => ?_) fun _ _ => id
    exact hs.of_eq hdeadline.symm
  have hop₁ : op₁.transaction = (op.withDeadline now).transaction := hresult
  refine .bind (.mono (underway_advanceClose .audio) (fun _ hs => hs.of_eq hop₁)
    fun _ _ => id) fun result => .assume fun hresult => ?_
  rcases result with failure | op₂
  · exact .bind (underway_finishFailed failure false) fun _ => transaction_none
  have hop₂ : op₂.transaction = op₁.transaction := hresult
  have htarget : state.desiredFrameRate = op₂.targetRate := by
    rw [hstate, ← op.value_transaction, ← op₂.value_transaction, hop₂, hop₁, hdeadline]
  refine .bind (Q := fun _ => Underway op₂) ?_ fun _ => .ite (fun _ => ?_) fun _ => ?_
  · exact Underway.act fun s hs => (hs.of_eq hop₂).kept
  · refine .bind (.bind (Underway.act fun s hs => hs.restored ?_) fun _ => ?_)
      fun _ => underway_some rfl
    · exact htarget
    · exact Underway.listed (listed_notifyVideoParams _) op₂
  · exact .mono transaction_none (fun _ hs => hs.inv) fun _ _ => id

end

/-- What a step of the reconfiguration works on. -/
def Taken : Option (Reconfigure × VideoParams) → MediaState → Prop
  | some (op, state), s => state.desiredFrameRate = op.targetRate ∧ Underway op s
  | none, s => TransactionInv s

theorem Taken.stable (r : Option (Reconfigure × VideoParams)) :
    operationContract.Stable (Taken r) := by
  rcases r with _ | ⟨op, state⟩
  · exact TransactionInv.stable
  · exact fun s s' hs hrely => ⟨hs.1, Underway.stable op s s' hs.2 hrely⟩

theorem transaction_takeOperation :
    Triple operationContract TransactionInv takeOperation Taken := by
  refine .act TransactionInv.stable Taken.stable fun s hs => ⟨id, ?_⟩
  dsimp only
  split
  · cases hsome : s.params.reconfigure with
    | none => exact hs
    | some op =>
      have hunderway : Underway op s := ⟨hs, op, hsome, rfl⟩
      exact ⟨hs.desired.trans hunderway.rate, hunderway⟩
  · exact hs

/-- **A step of the reconfiguration** keeps the transaction, whatever the peer answers and
    wherever it stops. -/
theorem transaction_advance (cfg : MediaConfig) :
    Triple operationContract TransactionInv (advanceVideoReconfigure cfg)
      fun _ => TransactionInv := by
  refine .bind transaction_takeOperation fun result => ?_
  rcases result with _ | ⟨op, state⟩
  · exact transaction_listed (.pure _)
  refine .assume fun hstate => .ite (fun _ => ?_) fun _ => underway_advanceOpen
  refine .bind (underway_advanceCloses hstate) fun result => ?_
  rcases result with _ | op
  · exact transaction_listed (.pure _)
  · exact underway_advanceOpen

/-! ## The session is opened -/

/-- Opening the session relies on the others not to begin a reconfiguration. -/
def openContract : Contract MediaState where
  rely s s' := (TransactionInv s → TransactionInv s') ∧
    (s.params.reconfigure = none → s'.params.reconfigure = none)
  guar s s' := TransactionInv s → TransactionInv s'
  refl _ := ⟨id, id⟩
  trans h h' := ⟨h'.1 ∘ h.1, h'.2 ∘ h.2⟩

/-- No reconfiguration is in progress. -/
def TransactionIdle (s : MediaState) : Prop :=
  TransactionInv s ∧ s.params.reconfigure = none

section
variable {α : Type} {p : MediaProg α}

open MediaProg (Of)

theorem TransactionInv.stable_open : openContract.Stable TransactionInv :=
  fun _ _ hs hrely => hrely.1 hs

theorem TransactionIdle.stable : openContract.Stable TransactionIdle :=
  fun _ _ hs hrely => ⟨hrely.1 hs.1, hrely.2 hs.2⟩

theorem transaction_reset (h : Of cfg .resetSession p) :
    Triple openContract TransactionInv p fun _ => TransactionInv := by
  refine .every h (fun s s' hs hsect => ?_) TransactionInv.stable_open
  have hinv := (hsect.undisturbed hs nofun rfl).inv
  exact ⟨fun _ => hinv, hinv⟩

theorem idle_reset (h : Of cfg .resetSession p) :
    Triple openContract TransactionIdle p fun _ => TransactionIdle := by
  refine .every h (fun s s' hs hsect => ?_) TransactionIdle.stable
  have hundisturbed := hsect.undisturbed hs.1 nofun rfl
  exact ⟨fun _ => hundisturbed.inv, hundisturbed.inv, hundisturbed.idle rfl hs.2⟩

theorem idle_clearVideoParams (preserve : Bool) :
    Triple openContract TransactionInv (clearVideoParams preserve) fun _ => TransactionIdle :=
  .act TransactionInv.stable_open (fun _ => TransactionIdle.stable) fun _ hs =>
    ⟨fun _ => hs.cleared preserve, hs.cleared preserve, rfl⟩

theorem transaction_initVideoParams (cfg : MediaConfig) :
    Triple openContract TransactionIdle (initVideoParams cfg) fun _ => TransactionInv := by
  have hread : Of cfg .resetSession (Prog.read fun s : MediaState => s.bound) := listed_read.of
  refine .bind (idle_reset hread) fun bound => ?_
  refine .act TransactionIdle.stable (fun _ => TransactionInv.stable_open) fun s hs => ?_
  have hinv : TransactionInv { s.record [.cleared cfg.videoFrameRate] with
      params := { s.params with
        frameRate := cfg.videoFrameRate
        suppressVideoAutoOpen := false
        state := {
          sessionId := bound.getD ""
          source := cfg.videoSource
          desiredFrameRate := cfg.videoFrameRate } } } := by
    refine hs.1.next (.reset cfg.videoFrameRate) rfl rfl rfl ?_ ?_ rfl
    · simp only [Params.transaction, hs.2]
      rfl
    · simp only [Params.transaction, hs.2]
      rfl
  exact ⟨fun _ => hinv, hinv⟩

/-- **Opening the session** keeps the transaction. -/
theorem transaction_ensureSession (cfg : MediaConfig) (configureMedia : Bool)
    (reason : MediaStreamEventReason) :
    Triple openContract TransactionInv (ensureSession cfg configureMedia reason)
      fun _ => TransactionInv := by
  have hreset {α : Type} {p : MediaProg α} (h : Of cfg .resetSession p) := transaction_reset h
  refine .bind (hreset listed_read.of) fun _ => .ite (fun _ => hreset (.pure _)) fun _ => ?_
  refine .bind (hreset (of_closeClient rfl)) fun _ => ?_
  refine .bind (hreset (.act fun s => .sessionClosed rfl _ ?_ ?_)) fun _ => ?_
  · dsimp only
    split <;> rfl
  · dsimp only
    split <;> rfl
  refine .bind (hreset (of_clearMediaStreams rfl _)) fun _ => ?_
  refine .bind (idle_clearVideoParams false) fun _ => ?_
  refine .bind (idle_reset (of_ensureAppReady rfl)) fun _ => .ite (fun _ => ?_) fun _ => ?_
  · refine .bind (transaction_initVideoParams cfg) fun _ => ?_
    refine .bind (hreset (.when (listed_configureMediaStreams reason).of)) fun _ => ?_
    exact hreset (.act fun s => .sessionOpened rfl)
  · refine .mono (hreset (.bind (of_closeClient rfl) fun _ => .act fun s =>
      .sessionClosed rfl _ rfl rfl)) (fun _ hs => hs.1) fun _ _ => id

end

/-! ## All runs -/

/-- The contract of a job. -/
def Job.contract (cfg : MediaConfig) : Job → Contract MediaState
  | advance => operationContract
  | openSession _ _ => openContract
  | job => ⟨fun _ _ => True, fun s s' => JobSection cfg s job s', fun _ => trivial,
      fun _ _ => trivial⟩

theorem Job.rely_contract {job : Job} (hinv : TransactionInv s')
    (hadvance : job = .advance → ∀ op, s.params.reconfigure = some op →
      s'.params.reconfigure = some op)
    (hopen : job.opens → s.params.reconfigure = none → s'.params.reconfigure = none) :
    (job.contract cfg).rely s s' := by
  cases job with
  | advance => exact ⟨fun _ => hinv, hadvance rfl⟩
  | openSession => exact ⟨fun _ => hinv, hopen rfl⟩
  | _ => trivial

/-- What the owner of the session does, nobody alongside relies on. -/
theorem Job.rely_of_owner {a b : Job} (ha : a.byOwner) (h : (transactionRules cfg).alongside a b)
    (hinv : TransactionInv s') : (b.contract cfg).rely s s' := by
  have hb : b.byOwner = false := by
    cases hb : b.byOwner with
    | false => rfl
    | true => exact absurd ⟨ha, hb⟩ h.1
  refine Job.rely_contract hinv (fun hadvance => ?_) fun hopen => ?_
  · subst hadvance
    cases hb
  · cases b with
    | openSession => cases hb
    | _ => cases hopen

/-- A section of another job does what those alongside it rely on. -/
theorem Undisturbed.rely {a b : Job} (h : Undisturbed a s s')
    (halong : (transactionRules cfg).alongside a b) : (b.contract cfg).rely s s' := by
  refine Job.rely_contract h.inv (fun hadvance => h.running ?_) fun hopen => h.idle ?_
  · exact Bool.eq_false_of_not_eq_true fun hsession => halong.2.2.1 ⟨hadvance, hsession⟩
  · exact Bool.eq_false_of_not_eq_true fun hset => halong.2.2.2.2 ⟨hopen, hset⟩

theorem transactionInv_init : TransactionInv {} where
  refines := rfl
  rate := rfl
  desired := rfl
  carries := by
    intro l params l' heq
    simp at heq

theorem transactionRules_sound (cfg : MediaConfig) :
    (transactionRules cfg).Sound (Job.contract cfg) TransactionInv (fun _ => True)
      (fun _ => False) where
  symm h := ⟨fun hboth => h.1 hboth.symm, h.2.2.1, h.2.1, h.2.2.2.2, h.2.2.2.1⟩
  alone h := h.elim
  start job x _ hx := by
    have hsections := job.every_section cfg
    cases job with
    | advance => exact wp_mono (transaction_advance cfg x hx) fun _ _ _ => trivial
    | openSession configureMedia reason =>
      exact wp_mono (transaction_ensureSession cfg configureMedia reason x hx) fun _ _ _ => trivial
    | _ =>
      exact Triple.every (P := fun _ => True) hsections (fun _ _ _ h => ⟨h, trivial⟩)
        (fun _ _ _ _ => trivial) x trivial
  startCritical _ _ h := h.elim
  guar job x x' hx _ hguar := by
    cases job with
    | advance => exact ⟨hguar hx, fun _ h => Job.rely_of_owner rfl h (hguar hx), fun _ => id⟩
    | openSession => exact ⟨hguar hx, fun _ h => Job.rely_of_owner rfl h (hguar hx), fun _ => id⟩
    | _ =>
      have hundisturbed := JobSection.undisturbed hguar hx nofun rfl
      exact ⟨hundisturbed.inv, fun _ h => hundisturbed.rely h, fun _ => id⟩
  tick x x' hx htick := by
    obtain ⟨now, _, isOpen, _, rfl⟩ := htick
    have hinv : TransactionInv { x with
        now := now, diagnostics := { x.diagnostics with isOpen := isOpen } } :=
      hx.silent rfl rfl rfl rfl
    exact ⟨hinv, fun _ _ => Job.rely_contract hinv (fun _ _ => id) fun _ => id, fun _ => id⟩

/-- The runs of a leaf that was just built, under these rules. -/
abbrev TransactionRun (cfg : MediaConfig) : List (PoolEvent Job) → Media → Prop :=
  Run (PoolStep (transactionRules cfg)) ⟨{}, fun _ => none⟩

theorem TransactionRun.inv {t : List (PoolEvent Job)} {s : Media} (h : TransactionRun cfg t s) :
    TransactionInv s.state :=
  ((transactionRules_sound cfg).run transactionInv_init trivial h).inv

/-- How a request is answered while a reconfiguration is in progress. -/
def ParamsRequest.refusal (r : ParamsRequest) (sessionActive : Bool) : ParamsStatus :=
  if !r.isValid then .invalidArgument else if !sessionActive then .invalidState else .busy

theorem Params.decide_running (cfg : MediaConfig) {p : Params} (h : p.reconfigure.isSome)
    (r : ParamsRequest) (video audio : Option StreamDescriptor) (sessionActive : Bool)
    (hvalid : r.isValid) :
    (p.decide cfg r video audio sessionActive).1.accepted = false ∧
      (p.decide cfg r video audio sessionActive).1.status = r.refusal sessionActive := by
  cases sessionActive <;> simp [decide, ParamsRequest.refusal, h, hvalid]

/-- The section that answers a request while a reconfiguration is in progress. -/
theorem JobSection.refused {job : Job} {r : ParamsRequest} {found : Bool} {result : ParamsResult}
    (h : JobSection cfg s job s') (hrunning : s.params.reconfigure.isSome)
    (hlog : s'.log = s.log ++ [.answered r found result]) :
    s' = s.record [.answered r found result] ∧ result.accepted = false ∧
      result.status = r.refusal found := by
  obtain ⟨hinvalid, rfl, heq⟩ | ⟨hvalid, video, audio, rfl, heq⟩ := h.answered_of_log hlog
  · exact ⟨heq, rfl, by simp [ParamsRequest.refusal, hinvalid]⟩
  · have hrefused := Params.decide_running cfg hrunning r video audio found hvalid
    refine ⟨?_, hrefused⟩
    rw [heq, Params.decide_refused hrefused.1]
    rfl

theorem Params.of_transaction_idle {p : Params} {v : Option ℕ} (h : p.transaction = .idle v) :
    p.reconfigure = none ∧ p.frameRate = v := by
  unfold transaction at h
  split at h
  · next hnone =>
    cases h
    exact ⟨hnone, rfl⟩
  · cases h

/-- A step that ends the operation: with the rate that was asked for if it is applied, and with
    the one before otherwise. -/
theorem TransactionInv.ended {s' : MediaState} (hs : TransactionInv s) (hs' : TransactionInv s')
    {op : Reconfigure} {state : ParamsKind} {suppressed : Bool}
    (hlog : s'.log = s.log ++ [.ended op state suppressed]) :
    ∃ previous requested rolledBack,
      s.params.transaction = .running previous requested rolledBack ∧
      (state = .applied → rolledBack = false) ∧ (state = .rolledBack → rolledBack = true) ∧
      s'.params.reconfigure = none ∧
      s'.params.frameRate = if state = .applied then requested else previous := by
  have hreplay := hs'.refines
  rw [hlog] at hreplay
  have hnext {ev} (he : (Entry.ended op state suppressed).event = some ev) :
      s.params.transaction.next ev = some s'.params.transaction :=
    (transactionOf_concat hs.refines he).symm.trans hreplay
  cases state with
  | applied =>
    obtain ⟨previous, requested, hT, hT'⟩ := Transaction.of_next_apply (hnext rfl)
    exact ⟨previous, requested, false, hT, fun _ => rfl, nofun, Params.of_transaction_idle hT'⟩
  | rolledBack =>
    obtain ⟨previous, requested, hT, hT'⟩ := Transaction.of_next_restore (hnext rfl)
    exact ⟨previous, requested, true, hT, nofun, fun _ => rfl, Params.of_transaction_idle hT'⟩
  | _ =>
    obtain ⟨previous, requested, rolledBack, hT, hT'⟩ := Transaction.of_next_fail (hnext rfl)
    exact ⟨previous, requested, rolledBack, hT, nofun, nofun, Params.of_transaction_idle hT'⟩

/-- **Video reconfiguration is transactional**: in every run in which the session is not opened or
    closed during a step of the reconfiguration, the log replays as a transaction on the rate.
    The rate of the session is the one in force, and every stream of the operation is opened with
    it.  An operation is rolled back at most once; a request meanwhile is refused and changes
    nothing; the operation ends with the rate asked for or with the one before. -/
theorem reconfiguration_transactional {t : List (PoolEvent Job)} {s : Media}
    (h : TransactionRun cfg t s) :
    TransactionInv s.state ∧
    (∀ before events after, s.state.log.filterMap Entry.event = before ++ events ++ after →
      (∀ rate, .begins rate ∉ events) → events.count .rollBack ≤ 1) ∧
    (∀ e s', PoolStep (transactionRules cfg) s e s' →
      (∀ r found result, s.state.params.reconfigure.isSome →
        s'.state.log = s.state.log ++ [.answered r found result] →
        s'.state = s.state.record [.answered r found result] ∧ result.accepted = false ∧
          result.status = r.refusal found) ∧
      (∀ op state suppressed, s'.state.log = s.state.log ++ [.ended op state suppressed] →
        ∃ previous requested rolledBack,
          s.state.params.transaction = .running previous requested rolledBack ∧
          (state = .applied → rolledBack = false) ∧ (state = .rolledBack → rolledBack = true) ∧
          s'.state.params.reconfigure = none ∧
          s'.state.params.frameRate = if state = .applied then requested else previous)) := by
  refine ⟨h.inv, fun before events after hlog hbegins => ?_, fun e s' hstep => ⟨?_, ?_⟩⟩
  · have hreplay := h.inv.refines
    rw [transactionOf, hlog, Transaction.replay_append, Option.bind_eq_some_iff] at hreplay
    obtain ⟨T, hreplay, _⟩ := hreplay
    rw [Transaction.replay_append, Option.bind_eq_some_iff] at hreplay
    obtain ⟨T₁, _, hreplay⟩ := hreplay
    exact Transaction.rollBack_once hreplay hbegins
  · intro r found result hrunning hlog
    cases h.section_of (Job.every_section cfg) hstep with
    | same heq => simp [heq] at hlog
    | sect _ _ hsect => exact hsect.refused hrunning hlog
    | tick htick =>
      obtain ⟨_, _, _, _, heq⟩ := htick
      simp [heq] at hlog
  · intro op state suppressed hlog
    exact h.inv.ended (TransactionRun.inv (h.snoc hstep)) hlog

theorem TransactionRun.job {t : List (PoolEvent Job)} {x : MediaState}
    (h : TransactionRun cfg t ⟨x, fun _ => none⟩) (job : Job) (replies : List Reply)
    (hends : job.ends cfg replies x) :
    ∃ t, TransactionRun cfg t ⟨job.after cfg replies x, fun _ => none⟩ := by
  obtain ⟨n, hrun⟩ := Run.exec_job (R := transactionRules cfg) ⟨x, fun _ => none⟩ 0 job replies
    rfl (fun _ => trivial) nofun hends
  exact ⟨_, h.trans hrun⟩

theorem run_reconfiguring : ∃ t, TransactionRun {} t ⟨reconfiguring, fun _ => none⟩ := by
  have hinit : TransactionRun {} [] ⟨{}, fun _ => none⟩ := .nil
  obtain ⟨t, hopen⟩ := hinit.job (.openSession true .initialOpen)
    [{}, failedReply, failedReply] (by decide +kernel)
  exact hopen.job (.setParams { frameRate := some 30 }) [] (by decide +kernel)

/-- A request for 0 frames while a reconfiguration is in progress. -/
def malformedRequest : ParamsRequest := { frameRate := some 0 }

/-- **Not every request meanwhile is answered with busy**: one for 0 frames is malformed. -/
theorem malformed_request_not_busy :
    ∃ t s e s' r found result, TransactionRun {} t s ∧ PoolStep (transactionRules {}) s e s' ∧
      s.state.params.reconfigure.isSome ∧
      s'.state.log = s.state.log ++ [.answered r found result] ∧ result.status ≠ .busy := by
  obtain ⟨t, hrun⟩ := run_reconfiguring
  have hstart : PoolStep (transactionRules {}) ⟨reconfiguring, fun _ => none⟩
      (.start 0 (.setParams malformedRequest)) _ :=
    .start rfl fun _ _ _ h => by cases h
  refine ⟨_, _, .step 0, _, malformedRequest, false, { status := .invalidArgument },
    hrun.snoc hstart, .step (Pool.running_put_self ..) trivial (.sect _ _ _), ?_, rfl, nofun⟩
  decide +kernel

/-- The reconfiguration to 30 frames fails at once, and the streams have the rate of before. -/
theorem reconfiguration_transactional_failed :
    ∃ t, TransactionRun {} t ⟨reconfigurationFailed, fun _ => none⟩ ∧
      TransactionInv reconfigurationFailed := by
  obtain ⟨t, hrun⟩ := run_reconfiguring
  obtain ⟨t', hrun'⟩ := hrun.job .advance [failedReply] (by decide +kernel)
  exact ⟨t', hrun', (reconfiguration_transactional hrun').1⟩

end Axent.Axtp
