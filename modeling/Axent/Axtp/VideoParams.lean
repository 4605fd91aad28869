/-
  The video parameters of a leaf `AxtpAdapter` along whole runs
  (`src/adapters/axtp_adapter.cpp`).

  * `accepted_takes_effect_iff`: when a request that is accepted can take effect.
    A reconfiguration that fails can leave video without a stream and its automatic
    opening suppressed, and a later request for the rate that is in force is
    accepted all the same.
-/
import Axent.Axtp.Sections

namespace Axent.Axtp

open Lib

variable {cfg : MediaConfig} {s s' : MediaState} {operation : Bool}

/-! ## What the work on streams keeps -/

/-- The entries about the parameters themselves. -/
def Entry.isPlain : Entry → Bool
  | answered _ _ _ | rolledBack _ | ended _ _ _ | restored _ | cleared _ | named _ | unnamed _ =>
    false
  | _ => true

/-- The request was sent for a reconfiguration. -/
def Entry.ofOperation : Entry → Bool
  | sent _ _ operation => operation
  | _ => false

/-- The rate, the reconfiguration and the lease are the same. -/
structure MediaState.Calm (operation : Bool) (s s' : MediaState) : Prop where
  reconfigure : s'.params.reconfigure = s.params.reconfigure
  frameRate : s'.params.frameRate = s.params.frameRate
  suppress : s'.params.suppressVideoAutoOpen = s.params.suppressVideoAutoOpen
  sessionId : s'.params.state.sessionId = s.params.state.sessionId
  desired : s'.params.state.desiredFrameRate = s.params.state.desiredFrameRate ∨
    s'.params.state.desiredFrameRate = s.params.frameRate
  bound : s'.bound = s.bound
  log : ∃ entries, s'.log = s.log ++ entries ∧
    ∀ e ∈ entries, e.isPlain ∧ (e.ofOperation → operation)

theorem MediaState.Calm.of_eq (hparams : s'.params = s.params) (hbound : s'.bound = s.bound)
    (hlog : s'.log = s.log) : s.Calm operation s' := by
  refine ⟨by rw [hparams], by rw [hparams], by rw [hparams], by rw [hparams],
    .inl (by rw [hparams]), hbound, [], by simp [hlog], ?_⟩
  intro e he
  cases he

theorem MediaState.Calm.record {entries : List Entry}
    (h : ∀ e ∈ entries, e.isPlain ∧ (e.ofOperation → operation)) :
    s.Calm operation (s.record entries) :=
  ⟨rfl, rfl, rfl, rfl, .inl rfl, rfl, entries, rfl, h⟩

theorem MediaSection.calm (h : MediaSection operation s s') : s.Calm operation s' := by
  cases h with
  | sent method params => exact .record (by simp [Entry.isPlain, Entry.ofOperation])
  | sentOpen kind params => exact .record (by simp [Entry.isPlain, Entry.ofOperation])
  | allocated kind streamId => exact .record (by simp [Entry.isPlain, Entry.ofOperation])
  | queued events => exact .record (by simp [Entry.isPlain, Entry.ofOperation])
  | notified state => exact .record (by simp [Entry.isPlain, Entry.ofOperation])
  | publish d reason =>
    refine ⟨rfl, rfl, rfl, rfl, .inl rfl, rfl, _, rfl, ?_⟩
    simp [Entry.isPlain, Entry.ofOperation]
  | orphaned kind streamId =>
    refine ⟨rfl, rfl, rfl, rfl, .inl rfl, rfl, _, rfl, ?_⟩
    simp [Entry.isPlain, Entry.ofOperation]
  | entered kind =>
    refine ⟨rfl, rfl, rfl, rfl, .inl rfl, rfl, _, rfl, ?_⟩
    simp [Entry.isPlain, Entry.ofOperation]
  | configured kind opened =>
    refine ⟨rfl, rfl, rfl, rfl, .inl rfl, rfl, _, rfl, ?_⟩
    simp [Entry.isPlain, Entry.ofOperation]
  | peer p hp =>
    refine ⟨hp.reconfigure, hp.frameRate, hp.suppress, by rw [hp.state], .inl (by rw [hp.state]),
      rfl, [], by simp, ?_⟩
    intro e he
    cases he
  | paramsStopped => exact ⟨rfl, rfl, rfl, rfl, .inl rfl, rfl, [], by simp, by simp⟩
  | videoOpened d response openParams =>
    refine ⟨rfl, rfl, rfl, ?_, .inr ?_, rfl, [], by simp, by simp⟩
    · simp only [Params.videoOpened]
      split <;> rfl
    · simp only [Params.videoOpened]
      split <;> rfl
  | _ => exact .of_eq rfl rfl rfl

/-! ## The answer to a request -/

section decide
variable {p : Params} {r : ParamsRequest} {video audio : Option StreamDescriptor}
  {sessionActive : Bool}

theorem Params.decide_refused
    (h : (p.decide cfg r video audio sessionActive).1.accepted = false) :
    (p.decide cfg r video audio sessionActive).2 = p := by
  unfold decide at h ⊢
  simp only at h ⊢
  split_ifs at h ⊢ <;> rfl

/-- A request is accepted when nothing is going on; it asks for the rate in force or begins a
    reconfiguration. -/
theorem Params.decide_accepted
    (h : (p.decide cfg r video audio sessionActive).1.accepted = true) :
    p.reconfigure = none ∧
      ((p.frameRate = r.rate ∧ (p.decide cfg r video audio sessionActive).2 = p.unchanged video) ∨
        (p.frameRate ≠ r.rate ∧
          (p.decide cfg r video audio sessionActive).2 = p.begin cfg r.rate video audio)) := by
  unfold decide at h ⊢
  simp only at h ⊢
  split_ifs at h ⊢ with hactive hbusy hsupport hrate heq
  · exact ⟨Option.not_isSome_iff_eq_none.mp hbusy, .inl ⟨heq, rfl⟩⟩
  · exact ⟨Option.not_isSome_iff_eq_none.mp hbusy, .inr ⟨heq, rfl⟩⟩

theorem Params.state_decide
    (h : (p.decide cfg r video audio sessionActive).1.accepted = true) :
    (p.decide cfg r video audio sessionActive).1.state =
      (p.decide cfg r video audio sessionActive).2.state := by
  unfold decide at h ⊢
  simp only at h ⊢
  split_ifs at h ⊢ <;> rfl

end decide

/-! ## Automatic opening -/

/-- What an entry says about automatic opening afterwards. -/
def Entry.outcome : Entry → Option Bool
  | ended _ _ suppressed => some suppressed
  | cleared _ => some false
  | _ => none

/-- The last reconfiguration of the session failed, and left automatic opening suppressed. -/
def leftSuppressed (log : List Entry) : Bool :=
  (log.filterMap Entry.outcome).getLast?.getD false

theorem Entry.outcome_of_isPlain {e : Entry} (h : e.isPlain) : e.outcome = none := by
  cases e <;> first | rfl | cases h

theorem leftSuppressed_append {log entries : List Entry} (h : ∀ e ∈ entries, e.outcome = none) :
    leftSuppressed (log ++ entries) = leftSuppressed log := by
  have hnone : entries.filterMap Entry.outcome = [] := List.filterMap_eq_nil_iff.mpr h
  rw [leftSuppressed, List.filterMap_append, hnone, List.append_nil, leftSuppressed]

theorem leftSuppressed_concat {log : List Entry} {e : Entry} {b : Bool} (h : e.outcome = some b) :
    leftSuppressed (log ++ [e]) = b := by
  simp [leftSuppressed, List.filterMap_append, h]

theorem leftSuppressed_concat_none {log : List Entry} {e : Entry} (h : e.outcome = none) :
    leftSuppressed (log ++ [e]) = leftSuppressed log :=
  leftSuppressed_append fun _ he => List.mem_singleton.mp he ▸ h

/-- Without a reconfiguration, automatic opening is as the last one left it. -/
def MediaState.SuppressedByFailure (s : MediaState) : Prop :=
  s.params.reconfigure = none → s.params.suppressVideoAutoOpen = leftSuppressed s.log

theorem MediaState.Calm.suppressedByFailure (h : s.Calm operation s') (hs : s.SuppressedByFailure) :
    s'.SuppressedByFailure := by
  intro hnone
  obtain ⟨entries, hlog, hplain⟩ := h.log
  rw [h.suppress, hs (h.reconfigure ▸ hnone), hlog,
    leftSuppressed_append fun e he => Entry.outcome_of_isPlain (hplain e he).1]

theorem JobSection.suppressedByFailure {job : Job} (h : JobSection cfg s job s')
    (hs : s.SuppressedByFailure) : s'.SuppressedByFailure := by
  cases h with
  | media h => exact h.calm.suppressedByFailure hs
  | mediaOfOperation h => exact h.calm.suppressedByFailure hs
  | rejected r =>
    intro hnone
    exact (hs hnone).trans (leftSuppressed_concat_none rfl).symm
  | answered r video audio sessionActive =>
    intro hnone
    refine Eq.trans ?_ (leftSuppressed_concat_none rfl).symm
    cases hacc : (s.params.decide cfg r video audio sessionActive).1.accepted with
    | false =>
      simp only [Params.decide_refused hacc] at hnone ⊢
      exact hs hnone
    | true =>
      obtain ⟨hidle, ⟨-, heq⟩ | ⟨-, heq⟩⟩ := Params.decide_accepted hacc
      · simp only [heq]
        exact hs hidle
      · simp only [heq] at hnone
        cases hnone
  | failed op failure preserve =>
    intro _
    exact (leftSuppressed_concat rfl).symm
  | completed op =>
    intro _
    exact (leftSuppressed_concat rfl).symm
  | paramsCleared hjob preserve =>
    intro _
    exact (leftSuppressed_concat rfl).symm
  | paramsInit hjob bound =>
    intro _
    exact (leftSuppressed_concat rfl).symm
  | kept op =>
    intro hnone
    exact hs (Option.map_eq_none_iff.mp hnone)
  | named | unnamed | restored =>
    intro hnone
    exact (hs hnone).trans (leftSuppressed_concat_none rfl).symm
  | rolledBack op failure phase hsome =>
    intro hnone
    cases hnone
  | _ => exact hs

/-- The section that answers a request is the only one that adds the answer to the log. -/
theorem JobSection.answered_of_log {job : Job} {r : ParamsRequest} {found : Bool}
    {result : ParamsResult} (h : JobSection cfg s job s')
    (hlog : s'.log = s.log ++ [.answered r found result]) :
    (r.isValid = false ∧ result = { status := .invalidArgument } ∧
        s' = s.record [.answered r found result]) ∨
      (r.isValid = true ∧ ∃ video audio,
        result = (s.params.decide cfg r video audio found).1 ∧
        s' = { s.record [.answered r found result] with
          params := (s.params.decide cfg r video audio found).2 }) := by
  have of_calm : ∀ {operation}, s.Calm operation s' → False := by
    intro operation hcalm
    obtain ⟨entries, hlog', hplain⟩ := hcalm.log
    obtain rfl := List.append_cancel_left (hlog'.symm.trans hlog)
    have := (hplain _ (List.mem_singleton_self _)).1
    cases this
  have of_eq : s'.log = s.log → False := by
    intro heq
    simp [hlog] at heq
  have of_concat : ∀ {e}, s'.log = s.log ++ [e] → e = .answered r found result := by
    intro e heq
    have := List.append_cancel_left (heq.symm.trans hlog)
    simpa using this
  cases h with
  | media h => exact (of_calm h.calm).elim
  | mediaOfOperation h => exact (of_calm h.calm).elim
  | rejected r' hinvalid =>
    obtain ⟨rfl, rfl, rfl⟩ := Entry.answered.inj (of_concat rfl)
    exact .inl ⟨hinvalid, rfl, rfl⟩
  | answered r' video audio sessionActive hvalid =>
    obtain ⟨rfl, rfl, rfl⟩ := Entry.answered.inj (of_concat rfl)
    exact .inr ⟨hvalid, video, audio, rfl, rfl⟩
  | failed | completed | rolledBack | restored | named | unnamed | paramsCleared | paramsInit =>
    cases of_concat rfl
  | _ => exact (of_eq rfl).elim

/-- Video is open. -/
def MediaState.videoActive (s : MediaState) : Bool := (s.streams.table.firstOf .video).isSome

/-- What is asked for can still happen: a reconfiguration is going on, video is open, or it is
    opened automatically. -/
def MediaState.TakesEffect (s : MediaState) : Prop :=
  s.params.reconfigure.isSome ∨ s.videoActive ∨ s.params.suppressVideoAutoOpen = false

instance (s : MediaState) : Decidable s.TakesEffect :=
  inferInstanceAs (Decidable (_ ∨ _ ∨ _))

/-- **A request that is accepted can take effect** exactly if it changes the rate, video is open,
    or no failed reconfiguration has left automatic opening suppressed. -/
theorem accepted_takes_effect_iff {t : List (PoolEvent Job)} {s s' : Media} {e : PoolEvent Job}
    {r : ParamsRequest} {found : Bool} {result : ParamsResult}
    (hrun : MediaRun cfg {} t s)
    (hstep : PoolStep (mediaRules cfg) s e s')
    (hlog : s'.state.log = s.state.log ++ [.answered r found result]) (hacc : result.accepted) :
    s'.state.TakesEffect ↔
      s.state.params.frameRate ≠ r.rate ∨ s.state.videoActive ∨
        leftSuppressed s.state.log = false := by
  have hsuppressed : s.state.SuppressedByFailure :=
    hrun.keeps_state (Job.every_section cfg) (fun _ => rfl)
      (fun _ _ _ _ h hs => h.suppressedByFailure hs) fun _ _ ⟨_, _, _, _, heq⟩ hs => heq ▸ hs
  have hsection : ∃ job, JobSection cfg s.state job s'.state := by
    cases hrun.section_of (Job.every_section cfg) hstep with
    | same heq => simp [heq] at hlog
    | sect _ _ h => exact ⟨_, h⟩
    | tick h =>
      obtain ⟨_, _, _, _, heq⟩ := h
      simp [heq] at hlog
  obtain ⟨job, hsection⟩ := hsection
  obtain ⟨-, rfl, -⟩ | ⟨-, video, audio, rfl, heq⟩ := hsection.answered_of_log hlog
  · cases hacc
  obtain ⟨hidle, ⟨hrate, hparams⟩ | ⟨hrate, hparams⟩⟩ := Params.decide_accepted hacc
  · -- the rate in force was asked for, and nothing has changed
    have hiff : s'.state.TakesEffect ↔
        s.state.videoActive ∨ s.state.params.suppressVideoAutoOpen = false := by
      rw [heq, hparams]
      simp [MediaState.TakesEffect, MediaState.videoActive, MediaState.record, Params.unchanged,
        hidle]
    rw [hiff, hsuppressed hidle]
    simp [hrate]
  · have heffect : s'.state.TakesEffect := by
      rw [heq, hparams]
      exact .inl rfl
    exact iff_of_true heffect (.inl hrate)

/-- A call that failed. -/
def failedReply : Reply := { error := { code := .other 1, message := "timeout" } }

/-- The session is open, but no stream: the peer did not tell its capabilities. -/
def openWithoutStreams : MediaState :=
  (Job.openSession true .initialOpen).after {} [{}, failedReply, failedReply] {}

/-- A reconfiguration to 30 frames has begun. -/
def reconfiguring : MediaState :=
  (Job.setParams { frameRate := some 30 }).after {} [] openWithoutStreams

/-- Video could not be opened, and there is nothing to go back to. -/
def reconfigurationFailed : MediaState := Job.advance.after {} [failedReply] reconfiguring

theorem run_openWithoutStreams :
    ∃ t, MediaRun {} {} t ⟨openWithoutStreams, fun _ => none⟩ :=
  Job.run_after (by decide +kernel)

theorem run_reconfigurationFailed :
    ∃ t, MediaRun {} {} t ⟨reconfigurationFailed, fun _ => none⟩ := by
  obtain ⟨t, hopen⟩ := run_openWithoutStreams
  obtain ⟨t', hset⟩ : ∃ t, MediaRun {} openWithoutStreams t ⟨reconfiguring, fun _ => none⟩ :=
    Job.run_after (by decide +kernel)
  obtain ⟨t'', hadvance⟩ :
      ∃ t, MediaRun {} reconfiguring t ⟨reconfigurationFailed, fun _ => none⟩ :=
    Job.run_after (by decide +kernel)
  exact ⟨_, (hopen.trans hset).trans hadvance⟩

/-- The answer to a request that nothing else runs alongside. -/
def MediaState.answer (x : MediaState) (r : ParamsRequest) : ParamsResult × Params :=
  x.params.decide {} r (x.streams.table.firstOf .video) (x.streams.table.firstOf .audio)
    x.diagnostics.sessionActive

/-- The section in which a thread answers a well-formed request, in any state. -/
theorem exists_answering (x : MediaState) (r : ParamsRequest) (hvalid : r.isValid = true) :
    ∃ t s s', MediaRun {} x t s ∧ PoolStep (mediaRules {}) s (.step 0) s' ∧ s.state = x ∧
      s'.state = { x.record [.answered r x.diagnostics.sessionActive (x.answer r).1] with
        params := (x.answer r).2 } := by
  have hat : ∀ (s : Media) (p : MediaProg Unit),
      (s.put 0 (some (.setParams r, p))).running 0 = some (.setParams r, p) :=
    fun s p => by rw [Pool.running_put, if_pos rfl]
  have hstart : PoolStep (mediaRules {}) ⟨x, fun _ => none⟩ (.start 0 (.setParams r)) _ :=
    .start rfl fun _ _ _ h => by cases h
  have hprog : (mediaRules {}).prog (.setParams r) = setVideoStreamParams {} r := rfl
  simp only [hprog, setVideoStreamParams, hvalid, Bool.not_true, Bool.false_eq_true,
    if_false] at hstart
  have hrun := Run.one hstart
  replace hrun := hrun.snoc (.step (hat _ _) trivial (.sect _ _ _))
  replace hrun := hrun.snoc (.step (hat _ _) trivial (.sect _ _ _))
  exact ⟨_, _, _, hrun, .step (hat _ _) trivial (.sect _ _ _), rfl, rfl⟩

/-- Nothing can take effect any more, and the reset of the rate is accepted. -/
theorem reset_accepted_without_effect :
    ∃ t s e s' r found result, MediaRun {} {} t s ∧ PoolStep (mediaRules {}) s e s' ∧
      s.state.diagnostics.sessionActive ∧
      s'.state.log = s.state.log ++ [.answered r found result] ∧
      result.accepted ∧ ¬ s'.state.TakesEffect := by
  obtain ⟨t, hrun⟩ := run_reconfigurationFailed
  obtain ⟨t', s, s', hrun', hstep, hs, hs'⟩ :=
    exists_answering reconfigurationFailed { resetFrameRate := true } rfl
  refine ⟨_, s, _, s', { resetFrameRate := true }, reconfigurationFailed.diagnostics.sessionActive,
    (reconfigurationFailed.answer { resetFrameRate := true }).1, hrun.trans hrun', hstep, ?_⟩
  rw [hs, hs']
  refine ⟨?_, rfl, ?_, ?_⟩ <;> decide +kernel

/-- A request for another rate takes effect. -/
theorem accepted_takes_effect_iff_thirty :
    ∃ t s e s' r found result, MediaRun {} {} t s ∧ PoolStep (mediaRules {}) s e s' ∧
      s'.state.log = s.state.log ++ [.answered r found result] ∧ result.accepted ∧
      s'.state.TakesEffect := by
  obtain ⟨t, hrun⟩ := run_openWithoutStreams
  obtain ⟨t', s, s', hrun', hstep, hs, hs'⟩ :=
    exists_answering openWithoutStreams { frameRate := some 30 } rfl
  have hlog : s'.state.log = s.state.log ++ [.answered { frameRate := some 30 }
      openWithoutStreams.diagnostics.sessionActive
      (openWithoutStreams.answer { frameRate := some 30 }).1] := by
    rw [hs, hs']
    rfl
  have hacc : (openWithoutStreams.answer { frameRate := some 30 }).1.accepted := by
    decide +kernel
  refine ⟨_, s, _, s', _, _, _, hrun.trans hrun', hstep, hlog, hacc, ?_⟩
  refine (accepted_takes_effect_iff (hrun.trans hrun') hstep hlog hacc).mpr (.inl ?_)
  rw [hs]
  decide +kernel

end Axent.Axtp
