/-
  Who completes a queued control call of a leaf `AxtpAdapter`.

  Only a pump takes calls from the queue, and only pumps and threads that open a
  session expire them; `call_async` does not look at the session.  A call that
  is accepted while no pump runs stays in the queue, past its deadline
  (`accepted_call_stranded`).

  If calls are accepted only for the open session, and `ensure_session_locked`
  never has to stop a pump, then every queued call has an owner: the pump of
  its device, or a reset or recovery that is going to cancel it
  (`accepted_calls_owned`).
-/
import Axent.Axtp.Control

namespace Axent.Axtp

open Lib Function

/-! ## Owners -/

/-- The device whose session a reset or a recovery is tearing down. -/
def Task.tears : Task → Option String
  | joining (.reset d) _ | closing (.reset d) | clearing (.reset d) => some d
  | joining (.recover d _) _ | closing (.recover d _) | clearing (.recover d _) => some d
  | _ => none

/-- The device whose calls the task is going to cancel, with the session down. -/
def Task.owes : Task → Option String
  | resetCancelAgain d | recoverCancelAgain d _ => some d
  | task => task.tears

/-- The tasks of `call_async`. -/
def Task.submits : Task → Bool
  | submitting _ _ | submitted _ _ _ => true
  | _ => false

namespace Leaf

/-- Some task has to do with the device, in the sense of `f`. -/
def Has (s : Leaf) (f : Task → Option String) (d : String) : Prop :=
  ∃ th, (s.tasks th).bind f = some d

/-- A call is accepted only for the open session, and `ensure_session_locked` has
    no pump to stop. -/
def Admits (s : Leaf) : LeafEvent → Prop
  | .accepted d => s.sessionReady d = true ∧ d ≠ ""
  | .replacing _ _ => s.sessionPump = none
  | _ => True

/-- A session has a pump or is being torn down; and a queued call belongs to the
    pump, or a task is going to cancel it. -/
structure Owned (s : Leaf) : Prop where
  active : s.activeDeviceId ≠ "" → s.sessionPump ≠ none ∨ s.Has Task.tears s.activeDeviceId
  pending : ∀ k ∈ s.pending, ∃ c, s.calls[k]? = some c ∧ c.deviceId ≠ "" ∧
    (s.sessionPump ≠ none ∧ c.deviceId = s.activeDeviceId ∨ s.Has Task.owes c.deviceId)

end Leaf

/-- The steps of a leaf adapter, under the condition. -/
def AdmittedStep (s : Leaf) (e : LeafEvent) (s' : Leaf) : Prop := LeafStep s e s' ∧ s.Admits e

/-! ## Steps -/

section
variable {s s' : Leaf} {e : LeafEvent} {d : String} {th : Thread} {task old : Option Task}
  {f : Task → Option String}

theorem Leaf.Has.update (h : s.Has f d) (hold : s.tasks th = old)
    (htasks : s'.tasks = update s.tasks th task)
    (hkeep : old.bind f = some d → task.bind f = some d) : s'.Has f d := by
  obtain ⟨th', hth'⟩ := h
  refine ⟨th', ?_⟩
  rw [htasks]
  rcases eq_or_ne th' th with rfl | hne
  · rw [update_self]
    exact hkeep (hold ▸ hth')
  · rwa [update_of_ne hne]

theorem Task.owes_of_tears (h : old.bind Task.tears = some d) : old.bind Task.owes = some d := by
  rcases old with _ | t
  · cases h
  · cases t <;> first | exact h | cases h

theorem Leaf.Owned.keep_pending (ho : s.Owned) (hgrow : CallsGrow s s')
    (hpending : ∀ k ∈ s'.pending, k ∈ s.pending)
    (howner : ∀ k ∈ s'.pending, ∀ c, s.calls[k]? = some c → c.deviceId ≠ "" →
      (s.sessionPump ≠ none ∧ c.deviceId = s.activeDeviceId ∨ s.Has Task.owes c.deviceId) →
      (s'.sessionPump ≠ none ∧ c.deviceId = s'.activeDeviceId ∨ s'.Has Task.owes c.deviceId)) :
    ∀ k ∈ s'.pending, ∃ c, s'.calls[k]? = some c ∧ c.deviceId ≠ "" ∧
      (s'.sessionPump ≠ none ∧ c.deviceId = s'.activeDeviceId ∨ s'.Has Task.owes c.deviceId) := by
  intro k hk
  obtain ⟨c, hc, hne, hown⟩ := ho.pending k (hpending k hk)
  obtain ⟨c', hc', hlater⟩ := hgrow.later k c hc
  refine ⟨c', hc', ?_⟩
  rw [hlater.deviceId]
  exact ⟨hne, howner k hk c hc hne hown⟩

theorem Leaf.Owned.keep (ho : s.Owned) (hgrow : CallsGrow s s')
    (hpending : ∀ k ∈ s'.pending, k ∈ s.pending) (hdevice : s'.activeDeviceId = s.activeDeviceId)
    (hpump : s'.sessionPump = s.sessionPump)
    (htears : ∀ d, s.Has Task.tears d → s'.Has Task.tears d)
    (howes : ∀ d, s.Has Task.owes d → s'.Has Task.owes d) : s'.Owned where
  active := by
    rw [hdevice, hpump]
    exact fun h => (ho.active h).imp_right (htears _)
  pending := ho.keep_pending hgrow hpending fun k _ c _ _ hown => by
    rw [hdevice, hpump]
    exact hown.imp_right (howes _)

/-- A thread that owes nothing goes on, with the session and the queue as they are. -/
theorem Leaf.Owned.keep_task (ho : s.Owned) (hold : s.tasks th = old)
    (howes : old.bind Task.owes = none) (hcalls : s'.calls = s.calls)
    (hpending : ∀ k ∈ s'.pending, k ∈ s.pending) (hdevice : s'.activeDeviceId = s.activeDeviceId)
    (hpump : s'.sessionPump = s.sessionPump)
    (htasks : s'.tasks = update s.tasks th task) : s'.Owned := by
  exact ho.keep (.of_eq hcalls) hpending hdevice hpump
    (fun d h => h.update hold htasks fun h' => by cases howes.symm.trans (Task.owes_of_tears h'))
    (fun d h => h.update hold htasks fun h' => by cases howes.symm.trans h')

theorem CallStep.owned (ho : s.Owned) (h : CallStep s e s') (he : s.Admits e) : s'.Owned := by
  have hgrow := h.calls_grow
  cases h with
  | late | full => exact ho
  | submit _ h | readGeneration h | changed h | fullAgain h =>
    exact ho.keep_task h rfl rfl (fun _ => id) rfl rfl rfl
  | cancel | complete => exact ho.keep hgrow (fun _ => id) rfl rfl (fun _ => id) fun _ => id
  | cancelHandler =>
    exact ho.keep hgrow (fun k => List.mem_of_mem_erase) rfl rfl (fun _ => id) fun _ => id
  | @accept n deadline generation d h hgeneration hroom =>
    obtain ⟨hready, hne⟩ := he
    obtain ⟨-, hdevice⟩ : s.isOpen = true ∧ s.activeDeviceId = d := by
      simpa [Leaf.sessionReady] using hready
    -- `call_async` owes nothing, so that other tasks keep what they owe
    have hsame : Leaf.Owned { s with tasks := update s.tasks (.client n) none } :=
      ho.keep_task h rfl rfl (fun _ => id) rfl rfl rfl
    refine ⟨hsame.active, fun k hk => ?_⟩
    rcases List.mem_append.1 hk with hk | hk
    · obtain ⟨c, hc, hown⟩ := hsame.pending k hk
      obtain ⟨c', hc', hlater⟩ := hgrow.later k c hc
      exact ⟨c', hc', by rwa [hlater.deviceId]⟩
    · rw [List.mem_singleton.1 hk]
      refine ⟨_, List.getElem?_concat_length, hne, ?_⟩
      rw [← hdevice] at hne ⊢
      exact (hsame.active hne).imp (fun hpump => ⟨hpump, rfl⟩)
        (Exists.imp fun _ => Task.owes_of_tears)

theorem PumpStep.owned (ho : s.Owned) (h : PumpStep s e s') : s'.Owned := by
  refine ho.keep h.calls_grow (fun k => h.pending) ?_ ?_ ?_ ?_
  all_goals cases h <;> first | rfl | exact fun _ => id

theorem Leaf.Owned.cancelled (ho : s.Owned) {reason : String} (hold : s.tasks th = old)
    (howes : old.bind Task.owes = some d) (htears : old.bind Task.tears = none) :
    ((s.cancelControlCalls d reason).setTask th task).Owned where
  active h := (ho.active h).imp_right fun ht => ht.update hold rfl (by simp [htears])
  pending := by
    refine ho.keep_pending (.of_eq rfl) (fun k => List.mem_of_mem_filter) fun k hk c hc _ hown => ?_
    have hne : c.deviceId ≠ d := by
      intro heq
      have hfor := (List.mem_filter.1 hk).2
      simp [Leaf.isFor, hc, heq] at hfor
    exact hown.imp_right fun h => h.update hold rfl fun h' => absurd
      (Option.some.inj (h'.symm.trans howes)) hne

theorem ResetStep.owned (ho : s.Owned) (h : ResetStep s e s') : s'.Owned := by
  cases h with
  | begin _ h | dropRequest h | unbind h | lock h | clear h | enqueue h =>
    exact ho.keep_task h rfl rfl (fun _ => id) rfl rfl rfl
  | cancel h => exact ho.keep_task h rfl rfl (fun k => List.mem_of_mem_filter) rfl rfl rfl
  | cancelAgain h => exact ho.cancelled h rfl rfl

theorem RecoveryStep.owned (ho : s.Owned) (h : RecoveryStep s e s') : s'.Owned := by
  cases h with
  | cancel h => exact ho.keep_task h rfl rfl (fun k => List.mem_of_mem_filter) rfl rfl rfl
  | cancelAgain h => exact ho.cancelled h rfl rfl
  | _ => exact ho.keep_task ‹s.tasks _ = _› rfl rfl (fun _ => id) rfl rfl rfl

/-- While a session is down, its calls are owed. -/
theorem Leaf.Owned.down (ho : s.Owned) (hi : SessionInv s) (hold : s.tasks th = old)
    (hdown : (Task.shape old).2.1 = true) (hcalls : s'.calls = s.calls)
    (hpending : s'.pending = s.pending) (htasks : s'.tasks = update s.tasks th task)
    (howes : ∀ d, old.bind Task.owes = some d → task.bind Task.owes = some d)
    (hactive : s'.activeDeviceId ≠ "" → s'.sessionPump ≠ none ∨
      s'.Has Task.tears s'.activeDeviceId) : s'.Owned := by
  have hnone : s.sessionPump = none := hi.down th (hold ▸ hdown)
  refine ⟨hactive, ho.keep_pending (.of_eq hcalls) (fun k hk => hpending ▸ hk)
    fun k _ c _ _ hown => .inr ?_⟩
  exact (hown.resolve_left fun h => h.1 hnone).update hold htasks (howes _)

/-- A reset or a recovery stops the pump, and owes a cancellation from then on. -/
theorem Leaf.Owned.stop (ho : s.Owned) {purpose : Purpose}
    (h : s.tasks th = some (.stopping purpose))
    (hfor : s.activeDeviceId ≠ "" → Task.tears (.joining purpose s.sessionPump) =
      some s.activeDeviceId) : (s.stop th purpose).Owned := by
  have howes (pump : Option ℕ) : Task.owes (.joining purpose pump) =
      Task.tears (.joining purpose pump) := rfl
  refine ⟨fun hne => .inr ⟨th, ?_⟩, ho.keep_pending (.of_eq rfl) (fun _ => id)
    fun k _ c _ hne hown => .inr ?_⟩
  · simpa [Leaf.stop] using hfor hne
  · rcases hown with ⟨-, hdevice⟩ | hown
    · refine ⟨th, ?_⟩
      rw [hdevice] at hne ⊢
      simpa [Leaf.stop, howes] using hfor hne
    · exact hown.update h rfl (by rintro ⟨⟩)

/-- A thread that tears a session down holds `session_mutex_`. -/
theorem Task.locked_of_tears (h : old.bind Task.tears = some d) : (Task.shape old).1 = true := by
  rcases old with _ | t
  · cases h
  · cases t <;> first | rfl | cases h

theorem LockedStep.owned (ho : s.Owned) (hi : SessionInv s) (h : LockedStep s e s')
    (he : s.Admits e) : s'.Owned := by
  cases h with
  | openBegin _ h | openLock h | busy h | ready h | ensure h | leaveReset h | leaveRecover h
  | clearStreams h | enqueue h | noTransport h | appReady h =>
    exact ho.keep_task h rfl rfl (fun _ => id) rfl rfl rfl
  | stopReset h hd => exact ho.stop h fun _ => by rw [hd]; rfl
  | @stopRecover th d g h hd =>
    refine ho.stop h fun hne => ?_
    have hd : s.activeDeviceId = d := by simpa [Leaf.busyFor, hne] using hd
    rw [hd]
    rfl
  | @stopEnsure th d r h =>
    have hnone : s.sessionPump = none := he
    -- without a pump, and no other thread tearing it down, no session is active
    have hactive : s.activeDeviceId = "" := by
      by_contra hne
      obtain ⟨th', hth'⟩ := (ho.active hne).resolve_left fun hpump => hpump hnone
      obtain rfl := hi.alone (by rw [h]; rfl) (Task.locked_of_tears hth')
      rw [h] at hth'
      cases hth'
    refine ⟨fun hne => absurd hactive hne, ho.keep_pending (.of_eq rfl) (fun _ => id)
      fun k _ c _ _ hown => .inr ?_⟩
    exact (hown.resolve_left fun h => h.1 hnone).update h rfl (by rintro ⟨⟩)
  | @join _ purpose _ h | @closeClient _ purpose h =>
    refine ho.keep (.of_eq rfl) (fun _ => id) rfl rfl (fun d ht => ht.update h rfl ?_)
      fun d ht => ht.update h rfl ?_
    all_goals cases purpose <;> exact id
  | clearReset h | clearRecover h =>
    exact ho.down hi h rfl rfl rfl rfl (fun _ => id) fun hne => absurd rfl hne
  | clearEnsure h =>
    split_ifs with hnone
    · exact ho.down hi h rfl rfl rfl rfl (by rintro _ ⟨⟩) fun hne => absurd hnone hne
    · exact ho.down hi h rfl rfl rfl rfl (by rintro _ ⟨⟩) fun hne => absurd rfl hne
  | notReady h => exact ho.down hi h rfl rfl rfl rfl (by rintro _ ⟨⟩) fun hne => absurd rfl hne
  | publish h =>
    exact ho.down hi h rfl rfl rfl rfl (by rintro _ ⟨⟩) fun _ =>
      .inl (by simp [Leaf.unlock, Leaf.startPump])

theorem AdmittedStep.owned (ho : s.Owned) (hi : SessionInv s) (h : AdmittedStep s e s') :
    s'.Owned := by
  obtain ⟨h, he⟩ := h
  cases h with
  | tick | media => exact ho.keep (.of_eq rfl) (fun _ => id) rfl rfl (fun _ => id) fun _ => id
  | call h => exact h.owned ho he
  | pump h => exact h.owned ho
  | reset h => exact h.owned ho
  | recovery h => exact h.owned ho
  | locked h => exact h.owned ho hi he

/-! ## Runs -/

theorem owned_inv {t : List LeafEvent} (h : Run AdmittedStep {} t s) :
    s.Owned ∧ SessionInv s := by
  refine h.keeps (P := fun s => s.Owned ∧ SessionInv s)
    (fun ⟨ho, hi⟩ hstep => ⟨hstep.owned ho hi, hi.step hstep.1⟩) ⟨⟨?_, ?_⟩, session_inv .nil⟩
  all_goals simp

/-- **Every queued call has an owner.**  If no pump runs, and no open, reset or
    recovery is in progress, then no call is queued. -/
theorem accepted_calls_owned {t : List LeafEvent} (h : Run AdmittedStep {} t s)
    (hpumps : ∀ p, (s.pumps p).phase = .finished)
    (hidle : ∀ th task, s.tasks th = some task → task.submits = true) : s.pending = [] := by
  obtain ⟨ho, hi⟩ := owned_inv h
  rw [List.eq_nil_iff_forall_not_mem]
  intro k hk
  obtain ⟨c, -, -, ⟨hpump, -⟩ | ⟨th, hth⟩⟩ := ho.pending k hk
  · obtain ⟨p, hp⟩ := Option.ne_none_iff_exists'.1 hpump
    exact (hi.handle p hp).1 (hpumps p)
  · obtain ⟨task, htask, howes⟩ := Option.bind_eq_some_iff.1 hth
    have hsubmits := hidle th task htask
    cases task with
    | submitting | submitted => cases howes
    | _ => cases hsubmits

/-- **A call without a session is stranded.**  It is accepted while no pump runs
    and no thread has anything to do, and has no result at its deadline. -/
theorem accepted_call_stranded : ∃ t s c, Run LeafStep {} t s ∧ s.pending = [0] ∧
    s.calls = [c] ∧ c.result = none ∧ c.deadline ≤ s.now ∧
    (∀ p, (s.pumps p).phase = .finished) ∧ ∀ th, s.tasks th = none := by
  obtain ⟨s, hrun, hcalls, hpending, -, -, -, -, -, -, hpumps, -, htasks⟩ :=
    submits_call (s := {}) (n := 0) "d1" rfl Nat.one_pos rfl
  have hlate := hrun.snoc (.tick (s.now + 1) (Nat.le_succ _))
  refine ⟨_, _, _, hlate, hpending, hcalls, rfl, Nat.le_add_left 1 _, fun p => ?_, fun th => ?_⟩
  · rw [show Leaf.pumps _ = _ from hpumps]
  · rw [show Leaf.tasks _ = _ from htasks]

/-! ## A reset cancels a call -/

/-- A client resets the device of the session, and the pump goes. -/
theorem reset_closes {n p : ℕ} (hidle : s.tasks (.client n) = none) (hmutex : s.sessionMutex = none)
    (hdevice : s.activeDeviceId = d) (hpump : s.sessionPump = some p)
    (hp : s.pumps p = ⟨d, .loop⟩) :
    ∃ t s', Run AdmittedStep s t s' ∧ s'.sessionPump = none ∧ s'.tasks = s.tasks := by
  obtain ⟨removed, m, hm⟩ := DeliveryStep.can_release s.media d
  have hrun := Run.one (LeafStep.reset (.begin d hidle))
  replace hrun := hrun.snoc (.reset (.cancel (update_self ..)))
  replace hrun := hrun.snoc (.reset (.dropRequest (update_self ..)))
  dsimp only [Leaf.setTask, Leaf.cancelControlCalls] at hrun
  replace hrun := hrun.snoc (.reset (.unbind (update_self ..) hm))
  replace hrun := hrun.snoc (.reset (.lock (update_self ..) hmutex))
  dsimp only [Leaf.setTask] at hrun
  replace hrun := hrun.snoc (.locked (.stopReset (update_self ..) hdevice))
  replace hrun := hrun.snoc (.pump (.exit (p := p) (by simp [Leaf.stop, hp]) (.inl rfl)))
  replace hrun := hrun.snoc (.locked (.join (update_self ..)
    (by simp [Leaf.stop, Leaf.setPhase, hpump])))
  dsimp only [Leaf.setTask, Leaf.stop, Leaf.setPhase] at hrun
  replace hrun := hrun.snoc (.locked (.closeClient (update_self ..)))
  replace hrun := hrun.snoc (.locked (.clearReset (update_self ..)))
  replace hrun := hrun.snoc (.reset (.cancelAgain (update_self ..)))
  replace hrun := hrun.snoc (.reset (.clear (update_self ..)))
  replace hrun := hrun.snoc (.reset (.enqueue (update_self ..)))
  refine ⟨_, _, hrun.mono_on ?_, ?_⟩
  · simp +contextual [AdmittedStep, Leaf.Admits]
  · simp [Leaf.unlock, Leaf.markClosed, Leaf.setTask, Leaf.enqueueEvents, Leaf.clearStreams,
      Leaf.cancelControlCalls, hidle]

theorem LeafStep.ready_of_accepted (h : LeafStep s (.accepted d) s') :
    s'.sessionReady = s.sessionReady := by
  cases h with
  | call h => cases h; rfl
  | _ h => cases h

/-- A call for the open session is accepted, and the session is reset. -/
theorem accepted_calls_owned_reset : ∃ t s, Run AdmittedStep {} t s ∧ .accepted "d1" ∈ t ∧
    (∀ p, (s.pumps p).phase = .finished) ∧ (∀ th, s.tasks th = none) ∧ s.pending = [] := by
  obtain ⟨s₁, hopen, hdevice, hisOpen, hpump, hp, hmutex, -, htasks, hcalls, hpending, hin,
    -⟩ := client_opens_session (s := {}) (n := 0) "d1" rfl rfl rfl rfl rfl
  have hopened : Run AdmittedStep {} _ s₁ := hopen.mono_on (by simp +contextual [PumplessStep,
    AdmittedStep, Leaf.Admits])
  obtain ⟨s₃, hsubmit, -, -, -, -, -, hdevice₃, hisOpen₃, hpump₃, hpumps₃, hmutex₃, htasks₃⟩ :=
    submits_call (n := 1) "d1" (by rw [htasks]) (Nat.lt_succ_self s₁.now)
      (by simp [Leaf.queued, hpending, hin])
  obtain ⟨s₂, hsubmit, haccept⟩ := Run.last (t := [LeafEvent.internal, .internal]) hsubmit
  have hready : s₂.sessionReady "d1" = true := by
    rw [← haccept.ready_of_accepted]
    simp [Leaf.sessionReady, hisOpen₃, hisOpen, hdevice₃, hdevice]
  have hsubmitted : Run AdmittedStep s₁ _ s₂ := hsubmit.mono_on (by simp +contextual
    [AdmittedStep, Leaf.Admits])
  have haccepted := (hopened.trans hsubmitted).snoc ⟨haccept, hready, by decide⟩
  obtain ⟨t, s, hreset, hnone, htasks'⟩ := reset_closes (n := 0) (by rw [htasks₃, htasks])
    (hmutex₃.trans hmutex) (hdevice₃.trans hdevice) (hpump₃.trans hpump) (by rw [hpumps₃]; exact hp)
  have hrun := haccepted.trans hreset
  have hidle (th : Thread) : s.tasks th = none := by rw [htasks', htasks₃, htasks]
  have hpumps (p : ℕ) : (s.pumps p).phase = .finished := by
    by_contra hp
    rcases (owned_inv hrun).2.running p hp with h | ⟨th, h⟩
    · rw [hnone] at h
      cases h
    · rw [hidle th] at h
      cases h
  refine ⟨_, s, hrun, by simp, hpumps, hidle, accepted_calls_owned hrun hpumps ?_⟩
  simp [hidle]

end

end Axent.Axtp
