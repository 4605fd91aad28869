/-
  `reset_session_for_device` against the recovery of a session.

  A reset tears a session down and removes what a recovery needs: the request,
  the binding, and the current recovery generation.  A recovery checks binding
  and generation last before it takes `session_mutex_` to open the new session,
  and not again with the mutex.  If both still hold when it has the mutex, a
  session that was reset stays down until a client opens it
  (`reset_fences_recovery`); `recovery_outlives_reset` is a run in which they do
  not hold, and a session is opened after its reset has returned.
-/
import Axent.Axtp.Session

namespace Axent.Axtp

open Lib Function

/-! ## What tasks aim at -/

/-- What a task may do for the session of a device: open it, recover it, or open
    it for a client. -/
inductive Aim where
  | session
  | recovery
  | opening
  deriving DecidableEq

/-- The aims of `ensure_session_locked`, for a client or for a recovery. -/
def ensureAims (deviceId : String) (recovery : Option ℕ) : Aim → Option String
  | .session => some deviceId
  | .recovery => if recovery.isSome then some deviceId else none
  | .opening => if recovery.isSome then none else some deviceId

def Purpose.aims : Purpose → Aim → Option String
  | recover d _, .recovery => some d
  | ensure d r, a => ensureAims d r a
  | _, _ => none

def Task.aims : Task → Aim → Option String
  | stopping p, a | joining p _, a | closing p, a | clearing p, a => p.aims a
  | ensuring d r, a | ensureClear d r, a | ensureEnqueue d r, a | handshake d r, a
  | configuring d r, a => ensureAims d r a
  | openLock d, .session | openLock d, .opening => some d
  | recoverMedia d _, .recovery | recoverGeneration d _, .recovery | onceMedia d _, .recovery
  | onceGeneration d _, .recovery | recoverCancel d _, .recovery | recoverLock d _, .recovery
  | recoverCancelAgain d _, .recovery | recoverClear d _, .recovery
  | recoverEnqueue d _, .recovery | againMedia d _, .recovery | againGeneration d _, .recovery
  | reopenLock d _, .recovery | backoff d _, .recovery => some d
  | _, _ => none

/-- The device that the task resets. -/
def Task.resets : Task → Option String
  | resetCancel d | resetRequest d | resetUnbind d | resetLock d => some d
  | stopping (.reset d) | joining (.reset d) _ | closing (.reset d) | clearing (.reset d) => some d
  | resetCancelAgain d | resetClear d | resetEnqueue d => some d
  | _ => none

namespace Leaf

/-- Some thread has the aim for the device. -/
def Aims (s : Leaf) (a : Aim) (d : String) : Prop := ∃ th, (s.tasks th).bind (·.aims a) = some d

/-- A recovery of the device is requested or in progress. -/
def Recovers (s : Leaf) (d : String) : Prop :=
  (s.recoveryRequested = true ∧ s.recoveryDeviceId = d) ∨ s.Aims .recovery d

/-- A reset of the device is in progress. -/
def Resets (s : Leaf) (d : String) : Prop := ∃ th, (s.tasks th).bind Task.resets = some d

/-- A recovery opens the new session only while the binding and the generation
    that it has checked are still in force; and a device is not bound while it
    is being recovered or reset. -/
def Fences (s : Leaf) : LeafEvent → Prop
  | .ensuring d (some g) =>
    s.media.bindings.hasMediaDeliverySession d = true ∧ s.recoveryGeneration = g
  | .media (.bound d _) => ¬ s.Recovers d ∧ ¬ s.Resets d
  | _ => True

/-- No session of the device is open or being opened, and no pump of it runs. -/
structure NoSession (s : Leaf) (d : String) : Prop where
  closed : ¬ (s.activeDeviceId ≠ "" ∧ s.sessionReady d = true)
  notOpening : ∀ th task, s.tasks th = some task → task.opens ≠ some d
  noPump : ∀ p, (s.pumps p).phase ≠ .finished → (s.pumps p).deviceId ≠ d

/-- A device that no client opens, and no recovery can open. -/
structure Fenced (s : Leaf) (d : String) : Prop where
  device : s.activeDeviceId = d → d = ""
  session : ¬ s.Aims .session d
  pumps : ∀ p, (s.pumps p).phase ≠ .finished → (s.pumps p).deviceId ≠ d
  media : s.media.bindings.hasMediaDeliverySession d = false ∨ ¬ s.Recovers d

end Leaf

/-- The steps of a leaf adapter, under the condition. -/
def FencedStep (s : Leaf) (e : LeafEvent) (s' : Leaf) : Prop := LeafStep s e s' ∧ s.Fences e

theorem Leaf.Fenced.noSession {s : Leaf} {d : String} (h : s.Fenced d) : s.NoSession d where
  closed := by
    rintro ⟨hne, hready⟩
    simp only [Leaf.sessionReady, Bool.and_eq_true, decide_eq_true_eq] at hready
    exact hne (hready.2.trans (h.device hready.2))
  notOpening := by
    intro th task hth hopens
    refine h.session ⟨th, ?_⟩
    rw [hth, Option.bind_some]
    cases task with
    | stopping p | joining p | closing p | clearing p =>
      cases p <;> simp_all [Task.opens, Task.aims, Purpose.aims, ensureAims]
    | _ => simp_all [Task.opens, Task.aims, ensureAims]
  noPump := h.pumps

/-! ## Steps that do not matter to a fence -/

/-- The step brings the device no nearer to a session. -/
structure Calm (d : String) (s s' : Leaf) : Prop where
  device : s'.activeDeviceId = d → s.activeDeviceId = d ∨ d = ""
  pumps : ∀ p, (s'.pumps p).phase ≠ .finished → (s'.pumps p).deviceId = d →
    (s.pumps p).phase ≠ .finished ∧ (s.pumps p).deviceId = d
  tasks : ∀ a th, (s'.tasks th).bind (·.aims a) = some d → (s.tasks th).bind (·.aims a) = some d
  request : s'.recoveryRequested = true → s'.recoveryDeviceId = d →
    s.recoveryRequested = true ∧ s.recoveryDeviceId = d
  media : s'.media.bindings.hasMediaDeliverySession d = true →
    s.media.bindings.hasMediaDeliverySession d = true

section
variable {s s' : Leaf} {e : LeafEvent} {d : String} {th : Thread} {task : Option Task} {b : Bool}

theorem Calm.refl (d : String) (s : Leaf) : Calm d s s :=
  ⟨.inl, fun _ h h' => ⟨h, h'⟩, fun _ _ h => h, fun h h' => ⟨h, h'⟩, id⟩

theorem aims_update {tasks : Thread → Option Task} {old : Option Task} (hold : tasks th = old)
    (h : ∀ a, task.bind (·.aims a) = some d → old.bind (·.aims a) = some d) (a : Aim)
    (th' : Thread) (hth' : (update tasks th task th').bind (·.aims a) = some d) :
    (tasks th').bind (·.aims a) = some d := by
  rcases eq_or_ne th' th with rfl | hne
  · rw [update_self] at hth'
    rw [hold]
    exact h a hth'
  · rwa [update_of_ne hne] at hth'

theorem Calm.setTask {old : Option Task} (hold : s.tasks th = old)
    (h : ∀ a, task.bind (·.aims a) = some d → old.bind (·.aims a) = some d) :
    Calm d s (s.setTask th task) :=
  { Calm.refl d s with tasks := aims_update hold h }

theorem Calm.setPhase {p : ℕ} {phase : PumpPhase} (h : (s.pumps p).phase ≠ .finished) :
    Calm d s (s.setPhase p phase) := by
  refine { Calm.refl d s with pumps := fun q hq hd => ?_ }
  rcases eq_or_ne q p with rfl | hne
  · simp only [Leaf.setPhase, update_self] at hd
    exact ⟨h, hd⟩
  · simp only [Leaf.setPhase, update_of_ne hne] at hq hd
    exact ⟨hq, hd⟩

theorem Calm.aims (h : Calm d s s') {a : Aim} (ha : s'.Aims a d) : s.Aims a d := by
  obtain ⟨th, hth⟩ := ha
  exact ⟨th, h.tasks a th hth⟩

theorem Calm.recovers (h : Calm d s s') (hr : s'.Recovers d) : s.Recovers d :=
  hr.imp (fun ⟨hreq, hdev⟩ => h.request hreq hdev) h.aims

theorem Leaf.Fenced.calm (hf : s.Fenced d) (h : Calm d s s') : s'.Fenced d where
  device hd := (h.device hd).elim hf.device id
  session := fun ha => hf.session (h.aims ha)
  pumps p hp hd := hf.pumps p (h.pumps p hp hd).1 (h.pumps p hp hd).2
  media := by
    refine hf.media.imp (fun hm => ?_) (fun hr hr' => hr (h.recovers hr'))
    rw [← Bool.not_eq_true] at hm ⊢
    exact fun hm' => hm (h.media hm')

theorem CallStep.calm (h : CallStep s e s') : Calm d s s' := by
  cases h with
  | late | full => exact .refl d s
  | submit _ hidle => exact .setTask hidle fun a => by cases a <;> exact id
  | readGeneration h | changed h | fullAgain h => exact .setTask h fun a => by cases a <;> exact id
  | accept h =>
    exact { Calm.refl d s with tasks := aims_update h fun a => by cases a <;> exact id }
  | cancel | cancelHandler | complete => exact { Calm.refl d s with }

theorem PumpStep.calm (h : PumpStep s e s') (he : e ≠ .recoveryRequested d) : Calm d s s' := by
  have hphase {p : ℕ} {phase : PumpPhase} (hold : (s.pumps p).phase ≠ .finished) :
      Calm d s (s.setPhase p phase) := .setPhase hold
  cases h with
  | takeNone | snapshot | expire => exact { Calm.refl d s with }
  | requestRecovery =>
    exact { Calm.refl d s with request := fun _ hd => absurd (congrArg _ hd) he }
  | exit h | readTime h | readSession h | check h | dispatch h => exact hphase (by simp [h])
  | take h | clearInFlight h => exact { hphase (by simp [h]) with }
  | reject h | timeOut h | noClient h | answer _ h => exact { hphase (by simp [h]) with }

/-- Only a new binding gives a device a media session. -/
theorem DeliveryStep.media_mono {m m' : Delivery} {e : DeliveryEvent} (h : DeliveryStep m e m')
    (he : ∀ sessionId, e ≠ .bound d sessionId)
    (hd : m'.bindings.hasMediaDeliverySession d = true) :
    m.bindings.hasMediaDeliverySession d = true := by
  have hremove {d' : String} (h' : (m.bindings.remove d').hasMediaDeliverySession d = true) :
      m.bindings.hasMediaDeliverySession d = true := by
    rcases eq_or_ne d d' with rfl | hne
    · simp [Bindings.hasMediaDeliverySession, Bindings.remove] at h'
    · simpa [Bindings.hasMediaDeliverySession, Bindings.remove, hne] using h'
  cases h with
  | bind d' sessionId =>
    have hne : d ≠ d' := fun heq => he sessionId (by rw [heq])
    simpa [Bindings.hasMediaDeliverySession, Bindings.bind, hne] using hd
  | unbind | release => exact hremove hd
  | _ => exact hd

theorem ResetStep.calm (h : ResetStep s e s') : Calm d s s' := by
  cases h with
  | begin _ hidle =>
    exact { Calm.refl d s with tasks := aims_update hidle fun a => by cases a <;> exact id }
  | cancel h | cancelAgain h | clear h | enqueue h | lock h =>
    exact { Calm.refl d s with tasks := aims_update h fun a => by cases a <;> exact id }
  | dropRequest h =>
    exact { Calm.refl d s with
      tasks := aims_update h fun a => by cases a <;> exact id
      request := nofun }
  | unbind h hm =>
    exact { Calm.refl d s with
      tasks := aims_update h fun a => by cases a <;> exact id
      media := hm.media_mono (by simp) }

theorem RecoveryStep.calm (h : RecoveryStep s e s') (he : ∀ g, e ≠ .ensuring d (some g))
    (hwake : s.tasks .worker = none → s.recoveryRequested = true → s.recoveryDeviceId ≠ d) :
    Calm d s s' := by
  cases h with
  | wake hidle hreq =>
    have hne := hwake hidle hreq
    exact { Calm.refl d s with
      request := nofun
      tasks := aims_update hidle fun a ha => by
        cases a <;> simp [Task.aims] at ha
        exact absurd ha hne }
  | media h | generation h =>
    refine .setTask h fun a => ?_
    split_ifs
    · cases a <;> exact id
    · exact nofun
  | onceMedia h | onceGeneration h | againMedia h | againGeneration h =>
    refine .setTask h fun a => ?_
    split_ifs <;> cases a <;> exact id
  | cancel h | cancelAgain h | clear h | enqueue h | lock h =>
    exact { Calm.refl d s with tasks := aims_update h fun a => by cases a <;> exact id }
  | retry h => exact .setTask h fun a => by cases a <;> exact id
  | giveUp h => exact .setTask h fun a => nofun
  | @reopen d' g h =>
    have hne : d' ≠ d := fun heq => he g (by rw [heq])
    refine { Calm.refl d s with tasks := aims_update h fun a ha => ?_ }
    cases a <;> simp_all [Task.aims, ensureAims]

theorem aims_afterEnsure (d' : String) (r : Option ℕ) (ok : Bool) (a : Aim)
    (h : (afterEnsure d' r ok).bind (·.aims a) = some d) : ensureAims d' r a = some d := by
  cases r with
  | none => cases h
  | some g => cases ok <;> cases a <;> simp_all [afterEnsure, Task.aims, ensureAims]

/-- With `session_mutex_`, a task goes on with the aims that it has; only a client
    begins anew. -/
theorem LockedStep.aims (h : LockedStep s e s') (he : e ≠ .openBegan d) (a : Aim) (th : Thread)
    (hth : (s'.tasks th).bind (·.aims a) = some d) : (s.tasks th).bind (·.aims a) = some d := by
  revert a th
  cases h with
  | @openBegin n d' hidle =>
    have hne : d' ≠ d := fun heq => he (by rw [heq])
    exact aims_update hidle fun a ha => by cases a <;> simp_all [Task.aims]
  | busy h | ready h | noTransport h | notReady h | publish h =>
    exact aims_update h (aims_afterEnsure _ _ _)
  | leaveReset h => exact aims_update h fun a => nofun
  | clearEnsure h => split_ifs <;> exact aims_update h fun a => by cases a <;> exact id
  | _ => exact aims_update ‹s.tasks _ = _› fun a => by cases a <;> exact id

theorem LockedStep.calm (h : LockedStep s e s') (he : e ≠ .openBegan d)
    (hd : ¬ s.Aims .session d) : Calm d s s' := by
  have htasks := h.aims he
  cases h with
  | clearReset | clearRecover | notReady =>
    exact { Calm.refl d s with device := fun h => .inr h.symm, tasks := htasks }
  | clearEnsure =>
    split_ifs at htasks ⊢
    · exact { Calm.refl d s with tasks := htasks }
    · exact { Calm.refl d s with device := fun h => .inr h.symm, tasks := htasks }
  | @publish th d' r h =>
    -- the task aims at the session of its own device
    have hne : d' ≠ d := fun heq => hd ⟨th, by rw [h, heq]; rfl⟩
    refine { Calm.refl d s with
      device := fun heq => absurd heq hne, tasks := htasks, pumps := fun p hp hdev => ?_ }
    rcases eq_or_ne p s.pumpCount with rfl | hp'
    · simp only [Leaf.unlock, Leaf.startPump, update_self] at hdev
      exact absurd hdev hne
    · simp only [Leaf.unlock, Leaf.startPump, update_of_ne hp'] at hp hdev
      exact ⟨hp, hdev⟩
  | _ => exact { Calm.refl d s with tasks := htasks }

/-- **A fence holds** until a client opens a session of the device. -/
theorem Leaf.Fenced.step (hf : s.Fenced d) (h : FencedStep s e s') (he : e ≠ .openBegan d) :
    s'.Fenced d := by
  obtain ⟨h, hfence⟩ := h
  cases h with
  | tick => exact hf.calm { Calm.refl d s with }
  | @media e m h =>
    by_cases hbound : ∃ sessionId, e = .bound d sessionId
    · obtain ⟨sessionId, rfl⟩ := hbound
      exact { hf with media := .inr hfence.1 }
    · push Not at hbound
      exact hf.calm { Calm.refl d s with media := h.media_mono hbound }
  | call h => exact hf.calm h.calm
  | @pump _ e h =>
    refine hf.calm (h.calm ?_)
    rintro rfl
    cases h with
    | @requestRecovery p h => exact hf.pumps p (by simp [h]) rfl
  | reset h => exact hf.calm h.calm
  | locked h => exact hf.calm (h.calm he hf.session)
  | @recovery _ e h =>
    by_cases hwake : s.tasks .worker = none ∧ s.recoveryRequested = true ∧ s.recoveryDeviceId = d
    · -- the request was for the device, which is not bound
      have hm := hf.media.resolve_right fun h => h (.inl hwake.2)
      cases h with
      | wake =>
        refine { hf with session := ?_, media := .inl hm }
        rintro ⟨th, hth⟩
        rcases eq_or_ne th .worker with rfl | hne
        · simp [Leaf.setTask, Task.aims] at hth
        · simp only [Leaf.setTask, update_of_ne hne] at hth
          exact hf.session ⟨th, hth⟩
      | _ => simp_all
    · refine hf.calm (h.calm ?_ fun hidle hreq hdev => hwake ⟨hidle, hreq, hdev⟩)
      rintro g rfl
      cases h with
      | reopen h =>
        have hm := hf.media.resolve_right fun hr => hr (.inr ⟨.worker, by rw [h]; rfl⟩)
        rw [hfence.1] at hm
        cases hm

/-! ## A reset in progress -/

/-- No client opens a session of the device. -/
def Leaf.Quiet (s : Leaf) (d : String) : Prop := ¬ s.Aims .opening d

theorem RecoveryStep.opening (h : RecoveryStep s e s') :
    ∃ task, s'.tasks = update s.tasks .worker task ∧
      task.bind (·.aims .opening) = none := by
  cases h with
  | media | generation | onceMedia | onceGeneration | againMedia | againGeneration =>
    refine ⟨_, rfl, ?_⟩
    split_ifs <;> rfl
  | _ => exact ⟨_, rfl, rfl⟩

theorem PumpStep.tasks_eq (h : PumpStep s e s') : s'.tasks = s.tasks := by
  cases h <;> rfl

theorem Leaf.Quiet.step (hq : s.Quiet d) (h : LeafStep s e s') (he : e ≠ .openBegan d) :
    s'.Quiet d := by
  rintro ⟨th, hth⟩
  apply hq
  cases h with
  | tick | media => exact ⟨th, hth⟩
  | call h => exact h.calm.aims ⟨th, hth⟩
  | pump h => exact ⟨th, by rwa [← h.tasks_eq]⟩
  | reset h => exact h.calm.aims ⟨th, hth⟩
  | locked h => exact ⟨th, h.aims he _ _ hth⟩
  | recovery h =>
    obtain ⟨task, htasks, htask⟩ := h.opening
    rw [htasks] at hth
    rcases eq_or_ne th .worker with rfl | hne
    · rw [update_self, htask] at hth
      cases hth
    · exact ⟨th, by rwa [update_of_ne hne] at hth⟩

/-- How far a task has come with the reset of a device: the binding may be there,
    or it is removed and the session may be there. -/
def Task.resetStage : Task → Option (String × Bool)
  | resetCancel d | resetRequest d | resetUnbind d => some (d, false)
  | resetLock d => some (d, true)
  | stopping (.reset d) | joining (.reset d) _ | closing (.reset d) | clearing (.reset d) =>
    some (d, true)
  | _ => none

/-- The stage of what a thread does. -/
def Leaf.stage (s : Leaf) (th : Thread) : Option (String × Bool) :=
  (s.tasks th).bind Task.resetStage

/-- The ways from one stage of a reset to the next one. -/
inductive NextStage (d : String) (th : Thread) (s s' : Leaf) : Bool → Prop
  | same {b : Bool} (h : s'.stage th = some (d, b)) : NextStage d th s s' b
  | unbound (h : s'.stage th = some (d, true))
      (hmedia : s'.media.bindings.hasMediaDeliverySession d = false) : NextStage d th s s' false
  | left (h : s.tasks th = some (.stopping (.reset d))) (hd : s.activeDeviceId ≠ d)
      (hs : s' = s.unlock th none) : NextStage d th s s' true
  | closed (h : s.tasks th = some (.clearing (.reset d)))
      (hs : s' = s.markClosed.unlock th (some (.resetCancelAgain d))) : NextStage d th s s' true

theorem stage_update {old : Option Task} {th' : Thread} (hold : s.tasks th' = old)
    (htasks : s'.tasks = update s.tasks th' task)
    (h : old.bind Task.resetStage = some (d, b) → task.bind Task.resetStage = some (d, b))
    (hth : s.stage th = some (d, b)) : s'.stage th = some (d, b) := by
  unfold Leaf.stage at hth ⊢
  rw [htasks]
  rcases eq_or_ne th th' with rfl | hne
  · rw [update_self]
    exact h (hold ▸ hth)
  · rwa [update_of_ne hne]

theorem DeliveryStep.media_released {m m' : Delivery} {removed : Bool}
    (h : DeliveryStep m (.released d removed) m') :
    m'.bindings.hasMediaDeliverySession d = false := by
  cases h with
  | release => simp [Bindings.hasMediaDeliverySession, Bindings.remove]
  | releaseUnbound h => simp [Bindings.hasMediaDeliverySession, h]

theorem ResetStep.nextStage (h : ResetStep s e s') (hth : s.stage th = some (d, b)) :
    NextStage d th s s' b := by
  cases h with
  | begin _ hidle => exact .same (stage_update hidle rfl (by rintro ⟨⟩) hth)
  | cancel h | dropRequest h | lock h => exact .same (stage_update h rfl id hth)
  | cancelAgain h | clear h | enqueue h => exact .same (stage_update h rfl (by rintro ⟨⟩) hth)
  | @unbind th' d' removed m h hm =>
    rcases eq_or_ne th th' with rfl | hne
    · rw [Leaf.stage, h] at hth
      cases hth
      exact .unbound (by simp [Leaf.stage, Leaf.setTask, Task.resetStage]) hm.media_released
    · exact .same (by simpa [Leaf.stage, Leaf.setTask, hne] using hth)

theorem LockedStep.nextStage (h : LockedStep s e s') (hth : s.stage th = some (d, b)) :
    NextStage d th s s' b := by
  cases h with
  | openBegin _ hidle => exact .same (stage_update hidle rfl (by rintro ⟨⟩) hth)
  | stopReset h => exact .same (stage_update h rfl id hth)
  | @join _ purpose _ h | @closeClient _ purpose h =>
    refine .same (stage_update h rfl ?_ hth)
    cases purpose <;> exact id
  | @leaveReset th' d' h hd =>
    rcases eq_or_ne th th' with rfl | hne
    · rw [Leaf.stage, h] at hth
      cases hth
      exact .left h hd rfl
    · exact .same (by simpa [Leaf.stage, Leaf.unlock, hne] using hth)
  | @clearReset th' d' h =>
    rcases eq_or_ne th th' with rfl | hne
    · rw [Leaf.stage, h] at hth
      cases hth
      exact .closed h rfl
    · exact .same (by simpa [Leaf.stage, Leaf.unlock, Leaf.markClosed, hne] using hth)
  | clearEnsure h => split_ifs <;> exact .same (stage_update h rfl (by rintro ⟨⟩) hth)
  | _ => exact .same (stage_update ‹s.tasks _ = _› rfl (by rintro ⟨⟩) hth)

theorem LeafStep.nextStage (h : LeafStep s e s') (hth : s.stage th = some (d, b)) :
    NextStage d th s s' b := by
  cases h with
  | tick | media => exact .same hth
  | pump h => exact .same (by rwa [Leaf.stage, h.tasks_eq])
  | reset h => exact h.nextStage hth
  | locked h => exact h.nextStage hth
  | call h =>
    cases h with
    | late | full | cancel | cancelHandler | complete => exact .same hth
    | submit _ h | readGeneration h | accept h | changed h | fullAgain h =>
      exact .same (stage_update h rfl (by rintro ⟨⟩) hth)
  | recovery h =>
    cases h <;> exact .same (stage_update ‹s.tasks _ = _› rfl (by rintro ⟨⟩) hth)

/-! ## The fence of a reset -/

theorem Task.locked_of_aims_session {task : Task} (h : task.aims .session = some d) :
    task.locked = true ∨ task.aims .opening = some d := by
  cases task <;> simp_all [Task.aims, Task.locked]

/-- With `session_mutex_`, and no client opening, no other thread can open a
    session of the device. -/
theorem Leaf.Quiet.no_session (hq : s.Quiet d) (hi : SessionInv s)
    (hlocked : (Task.shape (s.tasks th)).1 = true)
    (htasks : s'.tasks = update s.tasks th task)
    (htask : task.bind (·.aims .session) = none) : ¬ s'.Aims .session d := by
  rintro ⟨th', hth'⟩
  rw [htasks] at hth'
  rcases eq_or_ne th' th with rfl | hne
  · rw [update_self, htask] at hth'
    cases hth'
  · rw [update_of_ne hne] at hth'
    obtain ⟨t, ht, haim⟩ := Option.bind_eq_some_iff.1 hth'
    rcases Task.locked_of_aims_session haim with hl | ho
    · exact hne (hi.alone hlocked (by rw [ht]; exact hl))
    · exact hq ⟨th', by rw [ht]; exact ho⟩

/-- A reset in progress: some stage of it, with what the stage has done, or the
    fence that it has built. -/
inductive Resetting (d : String) (th : Thread) (s : Leaf) : Prop
  | stage {b : Bool} (h : s.stage th = some (d, b)) (hquiet : s.Quiet d)
      (hmedia : b = true → s.media.bindings.hasMediaDeliverySession d = false)
  | fenced (h : s.Fenced d)

theorem resets_of_stage (h : s.stage th = some (d, b)) : s.Resets d := by
  obtain ⟨t, ht, hstage⟩ := Option.bind_eq_some_iff.1 h
  refine ⟨th, ?_⟩
  rw [ht]
  cases t with
  | stopping p | joining p | closing p | clearing p =>
    cases p <;> simp_all [Task.resetStage, Task.resets]
  | _ => simp_all [Task.resetStage, Task.resets]

theorem LeafStep.media_mono (h : LeafStep s e s')
    (he : ∀ sessionId, e ≠ .media (.bound d sessionId))
    (hd : s'.media.bindings.hasMediaDeliverySession d = true) :
    s.media.bindings.hasMediaDeliverySession d = true := by
  cases h with
  | tick => exact hd
  | media h => exact h.media_mono (fun sessionId heq => he sessionId (by rw [heq])) hd
  | call h => exact h.calm.media hd
  | reset h => exact h.calm.media hd
  | pump h => cases h <;> exact hd
  | recovery h => cases h <;> exact hd
  | locked h =>
    cases h with
    | clearEnsure => split_ifs at hd <;> exact hd
    | _ => exact hd

/-- The reset finds that the session is not of its device. -/
theorem Leaf.Fenced.left (hi : SessionInv s) (hq : s.Quiet d)
    (hmedia : s.media.bindings.hasMediaDeliverySession d = false)
    (h : s.tasks th = some (.stopping (.reset d))) (hd : s.activeDeviceId ≠ d) :
    (s.unlock th none).Fenced d where
  device heq := absurd heq hd
  session := hq.no_session hi (by rw [h]; rfl) rfl rfl
  pumps p hp := by
    have hpump := (hi.runs (by rw [h]; rfl) hp).resolve_right (by rw [h]; nofun)
    change (s.pumps p).deviceId ≠ d
    rw [(hi.handle p hpump).2.1]
    exact hd
  media := .inl hmedia

/-- The reset has closed the session of its device. -/
theorem Leaf.Fenced.closed (hi : SessionInv s) (hq : s.Quiet d)
    (hmedia : s.media.bindings.hasMediaDeliverySession d = false)
    (h : s.tasks th = some (.clearing (.reset d))) :
    (s.markClosed.unlock th (some (.resetCancelAgain d))).Fenced d where
  device heq := heq.symm
  session := hq.no_session hi (by rw [h]; rfl) rfl rfl
  pumps p hp := absurd (hi.joined (by rw [h]; rfl) (by rw [h]; rfl) (by rw [h]; rfl) p) hp
  media := .inl hmedia

theorem Resetting.step (hr : Resetting d th s) (hi : SessionInv s) (h : FencedStep s e s')
    (he : e ≠ .openBegan d) : Resetting d th s' := by
  cases hr with
  | fenced hf => exact .fenced (hf.step h he)
  | @stage b hth hq hmedia =>
    have hq' := hq.step h.1 he
    cases h.1.nextStage hth with
    | unbound hth' hmedia' => exact .stage hth' hq' fun _ => hmedia'
    | left hleave hd hs => exact .fenced (hs ▸ .left hi hq (hmedia rfl) hleave hd)
    | closed hclose hs => exact .fenced (hs ▸ .closed hi hq (hmedia rfl) hclose)
    | same hth' =>
      refine .stage hth' hq' fun hb => ?_
      have hnone := hmedia hb
      rw [← Bool.not_eq_true] at hnone ⊢
      refine fun hd => hnone (h.1.media_mono ?_ hd)
      -- the device is not bound while it is being reset
      rintro sessionId rfl
      exact h.2.2 (resets_of_stage hth)

theorem Resetting.run {t : List LeafEvent} (hr : Resetting d th s) (hi : SessionInv s)
    (h : Run FencedStep s t s') (hno : .openBegan d ∉ t) : Resetting d th s' ∧ SessionInv s' :=
  h.keeps_without (P := fun s => Resetting d th s ∧ SessionInv s) hno
    (fun ⟨hr, hi⟩ hstep he => ⟨hr.step hi hstep he, hi.step hstep.1⟩) ⟨hr, hi⟩

/-- No session of the device has been opened. -/
structure Leaf.Unopened (s : Leaf) (d : String) : Prop where
  device : s.activeDeviceId = d → d = ""
  tasks : ∀ a, ¬ s.Aims a d
  pumps : ∀ p, (s.pumps p).phase ≠ .finished → (s.pumps p).deviceId ≠ d
  request : s.recoveryRequested = true → s.recoveryDeviceId ≠ d

theorem Leaf.Unopened.calm (hu : s.Unopened d) (h : Calm d s s') : s'.Unopened d where
  device hd := (h.device hd).elim hu.device id
  tasks a ha := hu.tasks a (h.aims ha)
  pumps p hp hd := hu.pumps p (h.pumps p hp hd).1 (h.pumps p hp hd).2
  request hr hd := hu.request (h.request hr hd).1 (h.request hr hd).2

theorem Leaf.Unopened.step (hu : s.Unopened d) (h : LeafStep s e s') (he : e ≠ .openBegan d) :
    s'.Unopened d := by
  cases h with
  | tick | media => exact { hu with }
  | call h => exact hu.calm h.calm
  | reset h => exact hu.calm h.calm
  | locked h => exact hu.calm (h.calm he (hu.tasks _))
  | @pump _ e h =>
    refine hu.calm (h.calm ?_)
    rintro rfl
    cases h with
    | @requestRecovery p h => exact hu.pumps p (by simp [h]) rfl
  | @recovery _ e h =>
    refine hu.calm (h.calm ?_ fun _ => hu.request)
    rintro g rfl
    cases h with
    | reopen h => exact hu.tasks .recovery ⟨.worker, by rw [h]; rfl⟩

theorem opened_of_pump {t : List LeafEvent} {p : ℕ} (h : Run LeafStep {} t s)
    (hp : (s.pumps p).phase ≠ .finished) : .openBegan (s.pumps p).deviceId ∈ t := by
  by_contra hno
  have hu : s.Unopened (s.pumps p).deviceId :=
    h.keeps_without (P := (Leaf.Unopened · _)) hno (fun hu hstep he => hu.step hstep he)
      ⟨Eq.symm, by simp [Leaf.Aims], by simp, by simp⟩
  exact hu.pumps p hp rfl

/-- **A reset fences recoveries.**  If recoveries keep to the condition, then after a
    reset of a device that no client was opening, no session of the device is
    open or being opened until a client opens one, and no pump runs for it.  If
    no other device was opened either, no pump runs at all. -/
theorem reset_fences_recovery {t₁ t₂ t₃ : List LeafEvent} {s₁ s₂ s₃ s₄ : Leaf}
    (h₁ : Run FencedStep {} t₁ s₁) (hquiet : ¬ s₁.Aims .opening d)
    (hbegin : FencedStep s₁ (.resetBegan th d) s₂) (h₂ : Run FencedStep s₂ t₂ s₃)
    (hreturn : FencedStep s₃ (.resetReturned th d) s₄) (h₃ : Run FencedStep s₄ t₃ s)
    (hno : .openBegan d ∉ t₂ ++ t₃) :
    s.NoSession d ∧ ((∀ d', .openBegan d' ∈ t₁ ++ t₂ ++ t₃ → d' = d) →
      ∀ p, (s.pumps p).phase = .finished) := by
  rw [List.mem_append, not_or] at hno
  have hleaf {s s' : Leaf} {t : List LeafEvent} (h : Run FencedStep s t s') :
      Run LeafStep s t s' := h.mono And.left
  have hi₂ := (session_inv (hleaf h₁)).step hbegin.1
  have hstart : Resetting d th s₂ := by
    refine .stage (b := false) ?_ (Leaf.Quiet.step hquiet hbegin.1 (by simp)) (by simp)
    cases hbegin.1 with
    | reset h => cases h; simp [Leaf.stage, Leaf.setTask, Task.resetStage]
    | _ h => cases h
  obtain ⟨hr₃, hi₃⟩ := hstart.run hi₂ h₂ hno.1
  have hf₄ : s₄.Fenced d := by
    -- the thread that has returned is in no stage of a reset
    have hidle : s₄.tasks th = none := by
      cases hreturn.1 with
      | reset h => cases h; simp [Leaf.setTask]
      | locked h => cases h; simp [Leaf.unlock]
      | _ h => cases h
    cases hr₃.step hi₃ hreturn (by simp) with
    | stage h => simp [Leaf.stage, hidle] at h
    | fenced hf => exact hf
  have hf : s.Fenced d :=
    h₃.keeps_without (P := (Leaf.Fenced · d)) hno.2 (fun hf hstep he => hf.step hstep he) hf₄
  refine ⟨hf.noSession, fun honly p => ?_⟩
  by_contra hp
  have hrun := ((hleaf h₁).snoc hbegin.1).trans (((hleaf h₂).snoc hreturn.1).trans (hleaf h₃))
  have hopened := opened_of_pump hrun hp
  refine hf.pumps p hp (honly _ ?_)
  simpa [or_assoc] using hopened

/-! ## A reset between the last check of a recovery and its new session -/

theorem FencedStep.of (h : LeafStep s e s') (hf : s.Fences e) : FencedStep s e s' := ⟨h, hf⟩

theorem FencedStep.internal (h : LeafStep s .internal s') : FencedStep s .internal s' :=
  ⟨h, trivial⟩

theorem FencedStep.passes {c : Prop} [Decidable c] {new other : Option Task} (hc : c)
    (h : RecoveryStep s .internal (s.setTask .worker (if c then new else other))) :
    FencedStep s .internal (s.setTask .worker new) := by
  rw [if_pos hc] at h
  exact .internal (.recovery h)

theorem Leaf.setTask_setTask (s : Leaf) (th : Thread) (task task' : Option Task) :
    (s.setTask th task).setTask th task' = s.setTask th task' := by
  simp [Leaf.setTask]

/-- The worker takes a request whose binding and generation stay in force. -/
theorem recovery_checked (hidle : s.tasks .worker = none) (hrequest : s.recoveryRequested = true)
    (hdevice : s.recoveryDeviceId = d)
    (hm : s.media.bindings.hasMediaDeliverySession d = true) :
    ∃ t s', Run FencedStep s t s' ∧ s'.sessionMutex = s.sessionMutex ∧
      s'.activeDeviceId = s.activeDeviceId ∧ s'.sessionPump = s.sessionPump ∧
      s'.pumps = s.pumps ∧ s'.media = s.media ∧
      s'.recoveryGeneration = s.recoveryGeneration ∧
      s'.tasks = update s.tasks .worker
        (some (.recoverCancel d s.recoveryGeneration)) := by
  have hrun := Run.one (FencedStep.internal (.recovery (.wake hidle hrequest)))
  rw [hdevice] at hrun
  replace hrun := hrun.snoc (.passes hm (.media (d := d) rfl))
  replace hrun := hrun.snoc (.passes rfl (.generation (d := d) rfl))
  rw [Leaf.setTask_setTask] at hrun
  replace hrun := hrun.snoc (.passes hm (.onceMedia (d := d) rfl))
  rw [Leaf.setTask_setTask] at hrun
  replace hrun := hrun.snoc (.passes rfl (.onceGeneration (d := d) rfl))
  dsimp only [Leaf.setTask] at hrun
  rw [update_idem, update_idem] at hrun
  exact ⟨_, _, hrun, rfl, rfl, rfl, rfl, rfl, rfl, rfl⟩

theorem recovery_tears_down {p g : ℕ} (h : s.tasks .worker = some (.recoverCancel d g))
    (hmutex : s.sessionMutex = none) (hdevice : s.activeDeviceId = d)
    (hpump : s.sessionPump = some p) (hp : s.pumps p = ⟨d, .loop⟩) :
    ∃ t s', Run FencedStep s t s' ∧ s'.activeDeviceId = "" ∧ s'.isOpen = false ∧
      s'.sessionPump = none ∧ s'.sessionMutex = none ∧ s'.media = s.media ∧
      s'.recoveryGeneration = s.recoveryGeneration ∧
      s'.tasks = update s.tasks .worker (some (.recoverCancelAgain d g)) := by
  have hrun := Run.one (FencedStep.of (.recovery (.cancel h)) trivial)
  replace hrun := hrun.snoc (.internal (.recovery (.lock rfl hmutex)))
  replace hrun := hrun.snoc (.internal (.locked (@.stopRecover _ .worker d g rfl
    (by simp [Leaf.busyFor, Leaf.setTask, Leaf.cancelControlCalls, hdevice]))))
  replace hrun := hrun.snoc (.internal (.pump (.exit (p := p)
    (by simp [Leaf.stop, Leaf.setTask, Leaf.cancelControlCalls, hp]) (.inl rfl))))
  replace hrun := hrun.snoc (.internal (.locked (@.join _ .worker _ _ rfl
    (by simp [Leaf.stop, Leaf.setTask, Leaf.cancelControlCalls, Leaf.setPhase, hpump]))))
  replace hrun := hrun.snoc (.internal (.locked (@.closeClient _ .worker _ rfl)))
  replace hrun := hrun.snoc (.internal (.locked (@.clearRecover _ .worker _ _ rfl)))
  refine ⟨_, _, hrun, ?_⟩
  simp [Leaf.unlock, Leaf.markClosed, Leaf.setTask, Leaf.stop, Leaf.setPhase,
    Leaf.cancelControlCalls]

/-- The worker clears the streams, and checks binding and generation for the last
    time. -/
theorem recovery_checked_last {g : ℕ} (h : s.tasks .worker = some (.recoverCancelAgain d g))
    (hm : s.media.bindings.hasMediaDeliverySession d = true) (hg : s.recoveryGeneration = g) :
    ∃ t s', Run FencedStep s t s' ∧ s'.activeDeviceId = s.activeDeviceId ∧
      s'.isOpen = s.isOpen ∧ s'.sessionPump = s.sessionPump ∧ s'.sessionMutex = s.sessionMutex ∧
      s'.tasks = update s.tasks .worker (some (.reopenLock d g)) := by
  have hrun := Run.one (FencedStep.of (.recovery (.cancelAgain h)) trivial)
  replace hrun := hrun.snoc ⟨.recovery (.clear rfl), trivial⟩
  replace hrun := hrun.snoc ⟨.recovery (.enqueue rfl), trivial⟩
  replace hrun := hrun.snoc (.passes (by exact hm) (.againMedia (d := d) (g := g) rfl))
  replace hrun := hrun.snoc (.passes (by exact hg) (.againGeneration (d := d) (g := g) rfl))
  refine ⟨_, _, hrun, ?_⟩
  simp [Leaf.setTask, Leaf.enqueueEvents, Leaf.clearStreams, Leaf.cancelControlCalls]

/-- The worker recovers a session, up to the point where it opens the new one. -/
theorem recovers_session {p : ℕ} (hidle : s.tasks .worker = none) (hmutex : s.sessionMutex = none)
    (hdevice : s.activeDeviceId = d) (hpump : s.sessionPump = some p)
    (hp : s.pumps p = ⟨d, .loop⟩) (hm : s.media.bindings.hasMediaDeliverySession d = true)
    (hrequest : s.recoveryRequested = true) (hfor : s.recoveryDeviceId = d) :
    ∃ t s', Run FencedStep s t s' ∧ s'.activeDeviceId = "" ∧ s'.isOpen = false ∧
      s'.sessionPump = none ∧ s'.sessionMutex = none ∧
      s'.tasks = update s.tasks .worker (some (.reopenLock d s.recoveryGeneration)) := by
  obtain ⟨t₁, s₁, h₁, hmutex₁, hdevice₁, hpump₁, hpumps₁, hm₁, hg₁, htasks₁⟩ :=
    recovery_checked hidle hrequest hfor hm
  obtain ⟨t₂, s₂, h₂, hdevice₂, hopen₂, hpump₂, hmutex₂, hm₂, hg₂, htasks₂⟩ :=
    recovery_tears_down (by rw [htasks₁, update_self]) (hmutex₁.trans hmutex)
      (hdevice₁.trans hdevice) (hpump₁.trans hpump) (by rw [hpumps₁, hp])
  obtain ⟨t₃, s₃, h₃, hdevice₃, hopen₃, hpump₃, hmutex₃, htasks₃⟩ := recovery_checked_last
    (by rw [htasks₂, update_self]) (by rw [hm₂, hm₁, hm]) (hg₂.trans hg₁)
  refine ⟨_, s₃, h₁.trans (h₂.trans h₃), hdevice₃.trans hdevice₂, hopen₃.trans hopen₂,
    hpump₃.trans hpump₂, hmutex₃.trans hmutex₂, ?_⟩
  rw [htasks₃, htasks₂, htasks₁, update_idem, update_idem]

/-- A client resets a device whose session is not open. -/
theorem reset_returns {n : ℕ} (hidle : s.tasks (.client n) = none) (hmutex : s.sessionMutex = none)
    (hdevice : s.activeDeviceId ≠ d) :
    ∃ s₂ t s₃ s₄, FencedStep s (.resetBegan (.client n) d) s₂ ∧ Run FencedStep s₂ t s₃ ∧
      FencedStep s₃ (.resetReturned (.client n) d) s₄ ∧ (∀ d', .openBegan d' ∉ t) ∧
      s₄.activeDeviceId = s.activeDeviceId ∧ s₄.isOpen = s.isOpen ∧
      s₄.sessionPump = s.sessionPump ∧ s₄.sessionMutex = none ∧
      s₄.tasks = update s.tasks (.client n) none := by
  obtain ⟨removed, m, hm⟩ := DeliveryStep.can_release s.media d
  have hbegin := FencedStep.of (.reset (.begin d hidle)) trivial
  have hrun := Run.one (FencedStep.of (.reset (.cancel (s := { s.setTask (.client n)
    (some (.resetCancel d)) with recoveryGeneration := s.recoveryGeneration + 1 })
    (update_self ..))) trivial)
  replace hrun := hrun.snoc (.internal (.reset (.dropRequest (update_self ..))))
  dsimp only [Leaf.setTask, Leaf.cancelControlCalls] at hrun
  replace hrun := hrun.snoc (.of (.reset (.unbind (update_self ..) hm)) trivial)
  replace hrun := hrun.snoc (.internal (.reset (.lock (update_self ..) hmutex)))
  dsimp only [Leaf.setTask] at hrun
  refine ⟨_, _, _, _, hbegin, hrun,
    .of (.locked (.leaveReset (update_self ..) hdevice)) trivial, by simp, ?_⟩
  simp [Leaf.unlock]

/-- A client opens the session of a device and binds it, and the pump requests a
    recovery. -/
theorem requests_recovery : ∃ t s, Run FencedStep {} t s ∧ s.tasks = (fun _ => none) ∧
    s.activeDeviceId = "d1" ∧ s.sessionPump = some 0 ∧ s.pumps 0 = ⟨"d1", .loop⟩ ∧
    s.sessionMutex = none ∧ s.media.bindings.hasMediaDeliverySession "d1" = true ∧
    s.recoveryRequested = true ∧ s.recoveryDeviceId = "d1" := by
  obtain ⟨s, hopen, hdevice, -, hpump, hp, hmutex, hrequest, htasks, -⟩ :=
    client_opens_session (s := {}) (n := 0) "d1" rfl rfl rfl rfl rfl
  have hrun : Run FencedStep {} _ s := hopen.mono_on (by simp +contextual [PumplessStep,
    FencedStep, Leaf.Fences])
  replace hrun := hrun.snoc (.of (.media (.bind "d1" "s1") trivial)
    ⟨by simp [Leaf.Recovers, Leaf.Aims, hrequest, htasks], by simp [Leaf.Resets, htasks]⟩)
  replace hrun := hrun.snoc (.of (.pump (.requestRecovery (p := 0) (by rw [hp]) hrequest)) trivial)
  refine ⟨_, _, hrun, htasks, hdevice, hpump, hp, hmutex, ?_, rfl, by rw [hp]⟩
  simp [Bindings.hasMediaDeliverySession, Bindings.bind]

/-- A reset begins and returns while a recovery is about to open the new session. -/
theorem resets_during_recovery : ∃ t₁ s₁ s₂ t₂ s₃ s₄ g, Run FencedStep {} t₁ s₁ ∧
    s₁.Recovers "d1" ∧ ¬ s₁.Aims .opening "d1" ∧
    FencedStep s₁ (.resetBegan (.client 1) "d1") s₂ ∧ Run FencedStep s₂ t₂ s₃ ∧
    FencedStep s₃ (.resetReturned (.client 1) "d1") s₄ ∧ (∀ d, .openBegan d ∉ t₂) ∧
    s₄.activeDeviceId = "" ∧ s₄.isOpen = false ∧ s₄.sessionPump = none ∧
    s₄.sessionMutex = none ∧ s₄.tasks .worker = some (.reopenLock "d1" g) := by
  obtain ⟨t, s, hrun, htasks, hdevice, hpump, hp, hmutex, hm, hrequest, hfor⟩ := requests_recovery
  obtain ⟨t₁, s₁, h₁, hdevice₁, hopen₁, hpump₁, hmutex₁, htasks₁⟩ :=
    recovers_session (by rw [htasks]) hmutex hdevice hpump hp hm hrequest hfor
  rw [htasks] at htasks₁
  obtain ⟨s₂, t₂, s₃, s₄, hbegin, h₂, hreturn, hno, hdevice₄, hopen₄, hpump₄, hmutex₄, htasks₄⟩ :=
    reset_returns (d := "d1") (n := 1) (by rw [htasks₁]; rfl) hmutex₁ (by rw [hdevice₁]; decide)
  refine ⟨_, s₁, s₂, t₂, s₃, s₄, s.recoveryGeneration, hrun.trans h₁, .inr ⟨.worker, ?_⟩, ?_,
    hbegin, h₂, hreturn, hno, hdevice₄.trans hdevice₁, hopen₄.trans hopen₁, hpump₄.trans hpump₁,
    hmutex₄, ?_⟩
  · rw [htasks₁]
    rfl
  · rintro ⟨th, hth⟩
    rw [htasks₁] at hth
    cases th <;> cases hth
  · rw [htasks₄, htasks₁]
    rfl

/-- The fence of a reset that returns during a recovery. -/
theorem reset_fences_recovery_between_checks : ∃ t₁ s₁ s₂ t₂ s₃ s₄, Run FencedStep {} t₁ s₁ ∧
    s₁.Recovers "d1" ∧ FencedStep s₁ (.resetBegan (.client 1) "d1") s₂ ∧
    Run FencedStep s₂ t₂ s₃ ∧ FencedStep s₃ (.resetReturned (.client 1) "d1") s₄ ∧
    s₄.NoSession "d1" := by
  obtain ⟨t₁, s₁, s₂, t₂, s₃, s₄, g, h₁, hrecovers, hquiet, hbegin, h₂, hreturn, hno, -⟩ :=
    resets_during_recovery
  refine ⟨t₁, s₁, s₂, t₂, s₃, s₄, h₁, hrecovers, hbegin, h₂, hreturn, ?_⟩
  exact (reset_fences_recovery h₁ hquiet hbegin h₂ hreturn .nil (by simpa using hno _)).1

/-- **A recovery can outlive a reset.**  The recovery was requested before the reset
    began, and opens a session after the reset has returned, though no client
    opens one. -/
theorem recovery_outlives_reset : ∃ t₁ s₁ s₂ t₂ s₃ s₄ t₃ s, Run LeafStep {} t₁ s₁ ∧
    s₁.Recovers "d1" ∧ ¬ s₁.Aims .opening "d1" ∧
    LeafStep s₁ (.resetBegan (.client 1) "d1") s₂ ∧ Run LeafStep s₂ t₂ s₃ ∧
    LeafStep s₃ (.resetReturned (.client 1) "d1") s₄ ∧ Run LeafStep s₄ t₃ s ∧
    (∀ d, .openBegan d ∉ t₂ ++ t₃) ∧ s.sessionReady "d1" = true ∧
    ∃ p, s.sessionPump = some p ∧ s.pumps p = ⟨"d1", .loop⟩ := by
  obtain ⟨t₁, s₁, s₂, t₂, s₃, s₄, g, h₁, hrecovers, hquiet, hbegin, h₂, hreturn, hno, hdevice,
    hopen, hpump, hmutex, hworker⟩ := resets_during_recovery
  have hreopen := Run.one (LeafStep.recovery (.reopen hworker hmutex))
  obtain ⟨s, hrun, hdevice', hopen', hpump', hp, -⟩ := opens_session
    (s := { s₄.setTask .worker (some (.ensuring "d1" (some g))) with sessionMutex := some .worker })
    (show Leaf.tasks _ .worker = some (.ensuring "d1" (some g)) from rfl) hdevice hopen hpump
  have hleaf {s s' : Leaf} {t : List LeafEvent} (h : Run FencedStep s t s') :
      Run LeafStep s t s' := h.mono And.left
  refine ⟨t₁, s₁, s₂, t₂, s₃, s₄, _, s, hleaf h₁, hrecovers, hquiet, hbegin.1, hleaf h₂, hreturn.1,
    hreopen.trans (hrun.mono And.left), ?_, ?_, _, hpump', hp⟩
  · intro d hd
    simp [hno d] at hd
  · simp [Leaf.sessionReady, hopen', hdevice']

end

end Axent.Axtp
