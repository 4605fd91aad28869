/-
  The control operations of a host over whole runs.

  `control_operations` holds weak references, which `release_session` and `stop`
  take out and then cancel without holding `mutex`.  An operation that a client
  was given is therefore tracked under the key of its call, or about to be
  cancelled by the call in progress, or settled: ready, or expired after all its
  callers dropped it (`Accounted`).
-/
import Axent.Host

namespace Axent

open Lib Function

/-! ## The table of operations -/

namespace ControlTable

/-- An operation that needs no cancelling any more. -/
def Settled (c : ControlTable) (o : ℕ) : Prop := c.expired o = true ∨ c.ready o = true

/-- Only an operation that nobody holds expires. -/
def Sound (c : ControlTable) : Prop :=
  ∀ o, c.expired o = true → o < c.created ∧ c.references o = 0

/-- The operations of `c`, later. -/
structure Advances (c c' : ControlTable) : Prop where
  created : c.created ≤ c'.created
  settled : ∀ o < c.created, c.Settled o → c'.Settled o
  sound : c.Sound → c'.Sound

section
variable {c c' c'' : ControlTable} {o : ℕ}

theorem Advances.refl (c : ControlTable) : c.Advances c := ⟨le_rfl, fun _ _ h => h, id⟩

theorem Advances.trans (h : c.Advances c') (h' : c'.Advances c'') : c.Advances c'' where
  created := h.created.trans h'.created
  settled o ho hs := h'.settled o (ho.trans_le h.created) (h.settled o ho hs)
  sound := h'.sound ∘ h.sound

theorem Advances.of_tracked (c : ControlTable) (tracked : List (String × ℕ)) :
    c.Advances { c with tracked := tracked } := ⟨le_rfl, fun _ _ h => h, id⟩

theorem Advances.create (c : ControlTable) (st : OperationState ℕ) : c.Advances (c.create st) where
  created := Nat.le_succ _
  settled o ho hs := by
    have hne : (c.create st).operations o = c.operations o := update_of_ne ho.ne _ _
    unfold Settled ready at hs ⊢
    rwa [hne]
  sound hsound o he := by
    obtain ⟨hlt, hr⟩ := hsound o he
    refine ⟨hlt.trans (Nat.lt_succ_self _), ?_⟩
    show update c.references c.created 1 o = 0
    rw [update_of_ne hlt.ne, hr]

/-- A locked section of operation `o` keeps its result. -/
theorem Advances.update (c : ControlTable) (o : ℕ) {st : OperationState ℕ}
    (hkept : (c.operations o).result.isSome → st.result.isSome) :
    c.Advances { c with operations := Function.update c.operations o st } where
  created := le_rfl
  settled o' _ hs := by
    refine hs.imp_right fun hready => ?_
    show (Function.update c.operations o st o').result.isSome = true
    rcases eq_or_ne o' o with rfl | hne
    · rw [Function.update_self]
      exact hkept hready
    · rwa [Function.update_of_ne hne]
  sound := id

theorem Advances.enter (c : ControlTable) (o id : ℕ) (call : OperationCall) :
    c.Advances { c with
      operations := Function.update c.operations o (call.enter id (c.operations o)).1 } := by
  refine .update c o fun hsome => ?_
  obtain ⟨r, hr⟩ := Option.isSome_iff_exists.1 hsome
  rw [(enter_spec id call _).kept hr]
  rfl

theorem Advances.cancel (c : ControlTable) (o : ℕ) : c.Advances (c.cancel o) :=
  .enter c o 0 .cancel

theorem Advances.hold (he : c.expired o = false) : c.Advances (c.hold o) where
  created := le_rfl
  settled _ _ hs := hs
  sound hsound o' he' := by
    refine ⟨(hsound o' he').1, ?_⟩
    have hne : o' ≠ o := by
      rintro rfl
      rw [show c.expired o' = true from he'] at he
      cases he
    show Function.update c.references o _ o' = 0
    rw [Function.update_of_ne hne, (hsound o' he').2]

theorem Advances.letGo (c : ControlTable) (o : ℕ) : c.Advances (c.letGo o) where
  created := le_rfl
  settled _ _ hs := hs
  sound hsound o' he := by
    refine ⟨(hsound o' he).1, ?_⟩
    show Function.update c.references o (c.references o - 1) o' = 0
    rcases eq_or_ne o' o with rfl | hne
    · rw [Function.update_self, (hsound o' he).2]
    · rw [Function.update_of_ne hne, (hsound o' he).2]

theorem Advances.expire (ho : o < c.created) (hr : c.references o = 0) :
    c.Advances { c with expired := Function.update c.expired o true } where
  created := le_rfl
  settled o' _ hs := by
    refine hs.imp_left fun he => ?_
    show Function.update c.expired o true o' = true
    rcases eq_or_ne o' o with rfl | hne
    · rw [Function.update_self]
    · rwa [Function.update_of_ne hne]
  sound hsound o' he := by
    rcases eq_or_ne o' o with rfl | hne
    · exact ⟨ho, hr⟩
    · change Function.update c.expired o true o' = true at he
      rw [Function.update_of_ne hne] at he
      exact hsound o' he

theorem settled_cancel (c : ControlTable) (o : ℕ) : (c.cancel o).Settled o := by
  right
  show (update c.operations o (c.operations o).cancel.1 o).result.isSome = true
  rw [update_self]
  unfold OperationState.cancel
  cases hr : (c.operations o).result with
  | none => rfl
  | some r => simp [hr]

theorem settled_create (c : ControlTable) (result : ControlResult) :
    (c.create (.completed result)).Settled c.created := by
  right
  show (update c.operations c.created (.completed result) c.created).result.isSome = true
  rw [update_self]
  rfl

theorem settled_or_mem_takeAll {p : String × ℕ} (hp : p ∈ c.tracked) :
    c.Settled p.2 ∨ p.2 ∈ c.takeAll := by
  cases he : c.expired p.2 with
  | true => exact .inl (.inl he)
  | false => exact .inr (List.mem_filter.2 ⟨List.mem_map_of_mem hp, by simp [he]⟩)

theorem settled_or_mem_take {key : String} (hp : (key, o) ∈ c.tracked) :
    c.Settled o ∨ o ∈ c.take key := by
  cases he : c.expired o with
  | true => exact .inl (.inl he)
  | false =>
    refine .inr (List.mem_filter.2 ⟨?_, by simp [he]⟩)
    exact List.mem_map_of_mem (List.mem_filter.2 ⟨hp, by simp⟩)

theorem settled_or_mem_track {key key' : String} {o' : ℕ} (hp : (key', o) ∈ c.tracked) :
    c.Settled o ∨ (key', o) ∈ (c.track key o').tracked := by
  by_cases hprune : key' = key ∧ (c.expired o = true ∨ c.ready o = true)
  · exact .inl hprune.2
  · exact .inr (List.mem_append_left _ (List.mem_filter.2 ⟨hp, decide_eq_true hprune⟩))

end

end ControlTable

/-! ## The phases of a call -/

/-- The keys of which no operation is tracked any more. -/
def Dispatch.clears : Dispatch → String → Bool
  | starting _, _ | restarting, _ | stopping _, _ | stopped, _ => true
  | releasing sessionId _ _ _, key => key = "session:" ++ sessionId
  | _, _ => false

/-- A control call is in progress, with its operation if it has one. -/
def Dispatch.calls : Dispatch → Option (Option ℕ)
  | calling _ _ => some none
  | registering _ o => some (some o)
  | _ => none

/-- What the call in progress says about the tracked operations. -/
structure ControlPhase (s : Host) : Prop where
  untracked : ∀ p ∈ s.control.tracked, s.dispatch.clears p.1 = false
  broker : s.control.tracked ≠ [] ∨ s.dispatch.calls.isSome = true → s.broker = true
  registering : ∀ o, s.dispatch.calls = some (some o) → o < s.control.created

section
variable {s s' : Host} {e : HostEvent} {t : List HostEvent}

theorem ControlPhase.keep (hi : ControlPhase s)
    (htracked : ∀ p ∈ s'.control.tracked, p ∈ s.control.tracked)
    (hcreated : s.control.created ≤ s'.control.created) (hbroker : s.broker = s'.broker)
    (hclears : ∀ key, s'.dispatch.clears key = true → s.dispatch.clears key = true)
    (hcalls : s'.dispatch.calls = none ∨ s'.dispatch.calls = s.dispatch.calls) :
    ControlPhase s' where
  untracked p hp := by
    by_contra hclear
    rw [Bool.not_eq_false] at hclear
    have := hi.untracked p (htracked p hp)
    rw [hclears p.1 hclear] at this
    cases this
  broker h := by
    rw [← hbroker]
    refine hi.broker ?_
    rcases h with hne | hsome
    · left
      rintro hnil
      exact hne (List.eq_nil_iff_forall_not_mem.2 fun p hp => by simpa [hnil] using htracked p hp)
    · right
      rcases hcalls with hnone | heq
      · rw [hnone] at hsome; cases hsome
      · rwa [heq] at hsome
  registering o ho := by
    rcases hcalls with hnone | heq
    · rw [hnone] at ho; cases ho
    · exact (hi.registering o (heq ▸ ho)).trans_le hcreated

theorem ControlPhase.none (htracked : s.control.tracked = []) (hcalls : s.dispatch.calls = none) :
    ControlPhase s where
  untracked p hp := by rw [htracked] at hp; cases hp
  broker h := by simp [htracked, hcalls] at h
  registering o ho := by rw [hcalls] at ho; cases ho

theorem commandFor_ok {call : HostCall} {command : ControlCommand}
    (h : s.commandFor call = .ok command) : s.broker = true := by
  by_contra hb
  rw [Bool.not_eq_true] at hb
  cases call <;> simp [Host.commandFor, hb] at h

theorem ControlPhase.tracked_nil (hi : ControlPhase s) (h : ∀ key, s.dispatch.clears key = true) :
    s.control.tracked = [] :=
  List.eq_nil_iff_forall_not_mem.2 fun p hp => by simpa [h] using hi.untracked p hp

theorem HostStep.phase (h : HostStep s e s') (hi : ControlPhase s) : ControlPhase s' := by
  cases h with
  | startTake hd | stopTake hd | startReset hd | stopReset hd => exact .none rfl rfl
  | startCancel hd | stopCancel hd =>
    exact .none (hi.tracked_nil fun key => by rw [hd]; rfl) rfl
  | startOpen hd | startThrows hd =>
    exact .none (hi.tracked_nil fun key => by rw [hd]; rfl) rfl
  | stopReturn hd => exact .none (hi.tracked_nil fun key => by rw [hd]; rfl) rfl
  | releaseTake hd sessionId =>
    refine ⟨fun p hp => ?_, fun h => ?_, by rintro _ ⟨⟩⟩
    · exact decide_eq_false (of_decide_eq_true (List.mem_filter.1 hp).2)
    · refine hi.broker (.inl fun hnil => ?_)
      rcases h with hne | hcalls
      · exact hne (by simp [ControlTable.drop, hnil])
      · cases hcalls
  | callBegin call hv hd hc =>
    refine ⟨fun p hp => rfl, fun _ => commandFor_ok hc, by rintro _ ⟨⟩⟩
  | callDispatched hd operation =>
    have hb := hi.broker (.inr (by rw [hd]; rfl))
    refine ⟨fun p hp => rfl, fun _ => hb, fun o ho => ?_⟩
    cases ho
    exact Nat.lt_succ_self _
  | callShared hd ho he =>
    have hb := hi.broker (.inr (by rw [hd]; rfl))
    refine ⟨fun p hp => rfl, fun _ => hb, fun o ho' => ?_⟩
    cases ho'
    exact ho
  | callTrack hd hc =>
    have hb := hi.broker (.inr (by rw [hd]; rfl))
    exact ⟨fun p hp => rfl, fun _ => hb, by rintro _ ⟨⟩⟩
  | callHandle | upsertDevice | stopNothing | acquireRefused | maintenanceRefused
  | operationCalled | operationDropped | operationExpired =>
    exact hi.keep (fun _ h => h) le_rfl rfl (fun _ h => h) (.inr rfl)
  | callInvalid | callBusy | callRefused =>
    exact hi.keep (fun _ h => h) (Nat.le_succ _) rfl (fun _ h => h) (.inr rfl)
  | callReleased hd =>
    exact hi.keep (fun _ h => h) (Nat.le_succ _) rfl (by rintro _ ⟨⟩) (.inl rfl)
  | releaseCancel hd | releaseUnbind hd | releaseReset hd =>
    exact hi.keep (fun _ h => h) le_rfl rfl (fun _ h => by rw [hd]; exact h) (.inl rfl)
  | _ => exact hi.keep (fun _ h => h) le_rfl rfl (by rintro _ ⟨⟩) (.inl rfl)

theorem HostStep.advances (h : HostStep s e s') : s.control.Advances s'.control := by
  cases h with
  | startTake | stopTake | startReset | stopReset | releaseTake | callTrack =>
    exact .of_tracked _ _
  | startCancel | stopCancel | releaseCancel => exact .cancel _ _
  | callInvalid | callBusy | callRefused | callDispatched => exact .create _ _
  | callShared hd ho he => exact .hold he
  | callReleased =>
    exact ((ControlTable.Advances.cancel _ _).trans (.letGo _ _)).trans (.create _ _)
  | operationCalled o id call => exact .enter _ o id call
  | operationDropped ho => exact .letGo _ _
  | operationExpired ho hr => exact .expire ho hr
  | _ => exact .refl _

/-! ## Operations in the hands of clients -/

/-- An operation that was returned by a call with key `key`. -/
def Accounted (s : Host) (key : String) (o : ℕ) : Prop :=
  s.control.Settled o ∨ (key, o) ∈ s.control.tracked ∨ o ∈ s.dispatch.cancelling

/-- An operation is lost from the table or from the list of operations to be
    cancelled only when it is settled. -/
theorem HostStep.accounted (h : HostStep s e s') (hi : ControlPhase s) {key : String} {o : ℕ}
    (ho : o < s.control.created) (ha : Accounted s key o) : Accounted s' key o := by
  rcases ha with hs | ha
  · exact .inl (h.advances.settled o ho hs)
  have hcancel {c : ControlTable} {o' : ℕ} {rest : List ℕ} (hmem : o ∈ o' :: rest) :
      (c.cancel o').Settled o ∨ o ∈ rest := by
    rcases List.mem_cons.1 hmem with rfl | hrest
    · exact .inl (c.settled_cancel o)
    · exact .inr hrest
  cases h with
  | startTake hd | stopTake hd =>
    rw [hd] at ha
    rcases ha with hp | hc
    · exact (ControlTable.settled_or_mem_takeAll hp).imp_right .inr
    · cases hc
  | startCancel hd | stopCancel hd =>
    rw [hd] at ha
    rw [hi.tracked_nil fun key => by rw [hd]; rfl] at ha
    rcases ha with hp | hc
    · cases hp
    · exact (hcancel hc).imp_right .inr
  | startReset hd | stopReset hd =>
    rw [hd] at ha
    rw [hi.tracked_nil fun key => by rw [hd]; rfl] at ha
    rcases ha with hp | hc
    · cases hp
    · cases hc
  | releaseTake hd sessionId =>
    rw [hd] at ha
    rcases ha with hp | hc
    · by_cases hkey : key = "session:" ++ sessionId
      · subst hkey
        exact (ControlTable.settled_or_mem_take hp).imp_right .inr
      · exact .inr (.inl (List.mem_filter.2 ⟨hp, decide_eq_true hkey⟩))
    · cases hc
  | releaseCancel hd =>
    rw [hd] at ha
    rcases ha with hp | hc
    · exact .inr (.inl hp)
    · exact (hcancel hc).imp_right .inr
  | callTrack hd hc =>
    rw [hd] at ha
    rcases ha with hp | hc
    · exact (ControlTable.settled_or_mem_track hp).imp_right .inl
    · cases hc
  | callHandle | upsertDevice | stopNothing | acquireRefused | maintenanceRefused
  | operationCalled | operationDropped | operationExpired | callInvalid | callBusy
  | callRefused => exact .inr ha
  | _ =>
    simp only [*] at ha
    exact .inr (ha.imp_right (by rintro ⟨⟩))

/-- An operation that is returned is accounted for from the start. -/
theorem HostStep.returned {call : HostCall} {o : ℕ} (h : HostStep s (.returned call o) s')
    (hi : ControlPhase s) : o < s'.control.created ∧ Accounted s' call.key o := by
  generalize he : HostEvent.returned call o = e at h
  cases h with
  | callInvalid | callBusy | callRefused =>
    cases he
    exact ⟨Nat.lt_succ_self _, .inl (ControlTable.settled_create _ _)⟩
  | callReleased hd =>
    cases he
    exact ⟨Nat.lt_succ_self _, .inl (ControlTable.settled_create _ _)⟩
  | callTrack hd =>
    cases he
    exact ⟨hi.registering o (by rw [hd]; rfl), .inr (.inl (List.mem_append_right _ (by simp)))⟩
  | _ => cases he

/-- The control operations along a run. -/
structure ControlInv (t : List HostEvent) (s : Host) : Prop where
  phase : ControlPhase s
  sound : s.control.Sound
  returned : ∀ call o, .returned call o ∈ t → o < s.control.created ∧ Accounted s call.key o

theorem HostStep.controlInv (h : HostStep s e s') (hi : ControlInv t s) :
    ControlInv (t ++ [e]) s' where
  phase := h.phase hi.phase
  sound := h.advances.sound hi.sound
  returned call o hmem := by
    rcases List.mem_append.1 hmem with hmem | hmem
    · obtain ⟨ho, ha⟩ := hi.returned call o hmem
      exact ⟨ho.trans_le h.advances.created, h.accounted hi.phase ho ha⟩
    · obtain rfl := List.mem_singleton.1 hmem
      exact h.returned hi.phase

theorem controlInv_of_run (h : Run HostStep {} t s) : ControlInv t s :=
  h.inv ⟨.none rfl rfl, by rintro o ⟨⟩, by rintro _ _ ⟨⟩⟩ fun hi hstep => hstep.controlInv hi

theorem settled_of_run {s₁ : Host} (h : Run HostStep s₁ t s) {o : ℕ} (ho : o < s₁.control.created)
    (hs : s₁.control.Settled o) : s.control.Settled o :=
  (h.keeps (P := fun s => o < s.control.created ∧ s.control.Settled o)
    (fun hi hstep => ⟨hi.1.trans_le hstep.advances.created, hstep.advances.settled o hi.1 hi.2⟩)
    ⟨ho, hs⟩).2

end

/-- The event ends the lease or the host that `call` was made for. -/
def HostEvent.ends : HostEvent → HostCall → Prop
  | releaseReturned sessionId, .callAsync sessionId' _ _ => sessionId' = sessionId
  | stopReturned, _ => True
  | _, _ => False

/-- When such an event happens, the operations of the call are settled. -/
theorem HostStep.settled_of_ends {s s' : Host} {e : HostEvent} {t : List HostEvent}
    (h : HostStep s e s') (hi : ControlInv t s) {call : HostCall} {o : ℕ}
    (hr : .returned call o ∈ t) (hends : e.ends call) : s'.control.Settled o := by
  obtain ⟨ho, ha⟩ := hi.returned call o hr
  refine h.advances.settled o ho (ha.resolve_right ?_)
  cases h with
  | releaseReturn hd =>
    rintro (hp | hc)
    · cases call with
      | callAsync sessionId method params =>
        have hclear := hi.phase.untracked _ hp
        rw [hd] at hclear
        simp [Dispatch.clears, HostCall.key, show sessionId = _ from hends] at hclear
      | callEndpoint request => exact hends
    · rw [hd] at hc; cases hc
  | stopNothing hd hrun hb =>
    rintro (hp | hc)
    · have := hi.phase.broker (.inl (List.ne_nil_of_mem hp))
      rw [hb] at this
      cases this
    · rw [hd] at hc; cases hc
  | stopReturn hd =>
    rintro (hp | hc)
    · have hclear := hi.phase.untracked _ hp
      rw [hd] at hclear
      cases hclear
    · rw [hd] at hc; cases hc
  | _ => exact absurd hends (by cases call <;> exact id)

/-- **No control operation outlives its lease or the host.**  Once
    `release_session` or `stop` has returned, every operation returned before
    for the session, or by any call, is ready, if one of its callers still holds
    it. -/
theorem operations_ready {t₁ t₂ : List HostEvent} {e : HostEvent} {s : Host}
    (h : Run HostStep {} (t₁ ++ e :: t₂) s) (call : HostCall) {o : ℕ}
    (hr : .returned call o ∈ t₁) (hends : e.ends call) (hheld : 0 < s.control.references o) :
    s.control.ready o = true := by
  obtain ⟨s₁, h₁, h₂⟩ := h.cut
  obtain ⟨s₂, hstep, h₂⟩ := h₂.first
  have hi := controlInv_of_run h₁
  have ho := (hi.returned call o hr).1.trans_le hstep.advances.created
  refine (settled_of_run h₂ ho (hstep.settled_of_ends hi hr hends)).resolve_left fun he => ?_
  have := ((controlInv_of_run h).sound o he).2
  omega

/-- An operation that its adapter never completes, when the session is
    released. -/
theorem operations_ready_released :
    ∃ t s, Run HostStep {} (t ++ [.releaseReturned "devsess-1"]) s ∧
      .returned (.callAsync "devsess-1" "m" .null) 0 ∈ t ∧ s.control.ready 0 = true := by
  have h := Run.one (HostStep.startTake (s := {}) rfl)
  have h := h.snoc (.startReset rfl)
  have h := h.snoc (.startOpen rfl [{ id := "d1", adapter := "mock" }] [] none)
  have h := h.snoc (.acquireBegin { deviceId := "d1" } rfl rfl)
  have h := h.snoc (.acquireReserve rfl rfl)
  have h := h.snoc (.acquireGranted rfl rfl rfl)
  have h := h.snoc (.callBegin (.callAsync "devsess-1" "m" .null) rfl rfl rfl)
  have h := h.snoc (.callDispatched rfl {})
  have h := h.snoc (.callTrack rfl rfl)
  have h := h.snoc (.releaseTake rfl "devsess-1")
  have h := h.snoc (.releaseCancel rfl)
  have h := h.snoc (.releaseReturn rfl)
  refine ⟨_, _, h, List.mem_of_getElem? (i := 8) rfl, ?_⟩
  exact operations_ready h (.callAsync "devsess-1" "m" .null) (List.mem_of_getElem? (i := 8) rfl)
    rfl Nat.one_pos

end Axent
