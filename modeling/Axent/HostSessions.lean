/-
  The session ids that a host gives out, and the media delivery of its AXTP
  adapter.

  Ids come from a counter that `Impl::reset` starts again, so an id may be given
  out a second time after the host was stopped and started
  (`session_id_reused`); `session_ids_unique` says exactly when this happens.

  `release_session` looks the device of the lease up again to decide whether to
  unbind it.  If another adapter has since registered the same device id, the
  lookup fails and the binding stays (`binding_survives`); `no_stale_binding`
  says that this is the only way.
-/
import Axent.HostLeases

namespace Axent

open Lib

/-! ## Session ids -/

/-- The ids of the sessions acquired so far. -/
def acquiredIds (t : List HostEvent) : List String :=
  t.filterMap fun
    | .acquireReturned lease => if lease.acquired then some lease.sessionId else none
    | _ => none

/-- The id of a session that is open but not yet returned. -/
def Dispatch.openId : Dispatch → List String
  | binding lease => [lease.sessionId]
  | _ => []

theorem acquiredIds_append (t t' : List HostEvent) :
    acquiredIds (t ++ t') = acquiredIds t ++ acquiredIds t' := List.filterMap_append

/-- What a step does to the session ids: it opens none, opens the next one, or
    starts the counter again. -/
inductive SessionStep (s : Host) (e : HostEvent) (s' : Host) : Prop
  | none (hn : s'.table.nextId = s.table.nextId) (he : e ≠ .reset)
      (hids : acquiredIds [e] ++ s'.dispatch.openId = s.dispatch.openId)
  | next (hn : s'.table.nextId = s.table.nextId + 1) (he : e ≠ .reset)
      (hs : s.dispatch.openId = [])
      (hids : acquiredIds [e] ++ s'.dispatch.openId = [sessionName s.table.nextId])
  | reset (hn : s'.table.nextId = 1) (he : e = .reset) (hs : s.dispatch.openId = [])
      (hs' : s'.dispatch.openId = [])

/-- A lease about to be returned was acquired. -/
def Dispatch.Opened (d : Dispatch) : Prop := ∀ lease, d = .binding lease → lease.acquired = true

theorem HostStep.opened {s s' : Host} {e : HostEvent} (h : HostStep s e s')
    (ho : s.dispatch.Opened) : s'.dispatch.Opened := by
  cases h with
  | acquireGrantedMedia => rintro lease hl; cases hl; rfl
  | callHandle | upsertDevice | stopNothing | acquireRefused | maintenanceRefused | callInvalid
  | callBusy | callRefused | operationCalled | operationDropped | operationExpired => exact ho
  | _ => rintro lease hl; cases hl

theorem LeaseTable.nextId_release (t : LeaseTable) (sessionId : String) :
    (t.release sessionId).nextId = t.nextId := by
  unfold LeaseTable.release
  cases t.lookup sessionId <;> rfl

theorem acquiredIds_acquired {lease : SessionLease} (h : lease.acquired = true) :
    acquiredIds [.acquireReturned lease] = [lease.sessionId] := by
  simp [acquiredIds, h]

theorem acquiredIds_refused {lease : SessionLease} (h : lease.acquired = false) :
    acquiredIds [.acquireReturned lease] = [] := by
  simp [acquiredIds, h]

theorem HostStep.sessions {s s' : Host} {e : HostEvent} (h : HostStep s e s')
    (ho : s.dispatch.Opened) : SessionStep s e s' := by
  cases h with
  | startReset hd | stopReset hd => exact .reset rfl rfl (by rw [hd]; rfl) rfl
  | acquireGranted hd | acquireGrantedMedia hd =>
    exact .next rfl (by simp) (by rw [hd]; rfl) rfl
  | acquireBind hd | acquireUnbound hd =>
    refine .none rfl (by simp) ?_
    rw [acquiredIds_acquired (ho _ hd), hd]
    rfl
  | acquireRefused hd hc =>
    refine .none rfl (by simp) ?_
    rw [acquiredIds_refused (checkAcquire_refused hc)]
    rfl
  | acquireRejected hd hc =>
    refine .none rfl (by simp) ?_
    rw [acquiredIds_refused (checkDevice_refused hc), hd]
    rfl
  | acquireReserve hd hc =>
    refine .none ?_ (by simp) (by rw [hd]; rfl)
    exact ((SameLeases.refl s.table).reserve hc).nextId
  | maintenanceGranted hd hh hc =>
    obtain ⟨g, -, rfl⟩ := grantMaintenance_ok hc
    exact .none rfl (by simp) (by rw [hd]; rfl)
  | callHandle call hc =>
    exact .none (callHandle_registry s.table call).2.2.1 (by simp) rfl
  | releaseTake hd sessionId =>
    exact .none (s.table.nextId_release sessionId) (by simp) (by rw [hd]; rfl)
  | upsertDevice | stopNothing | maintenanceRefused | callInvalid | callBusy | callRefused
  | operationCalled | operationDropped | operationExpired => exact .none rfl (by simp) rfl
  | _ => exact .none rfl (by simp) (by simp only [*]; rfl)

theorem opened_of_run {t : List HostEvent} {s : Host} (h : Run HostStep {} t s) :
    s.dispatch.Opened :=
  h.keeps (fun ho hstep => hstep.opened ho) (by rintro lease hl; cases hl)

/-- The ids since the last reset are the names of the numbers drawn since; the
    ids from before it, `old`, lie before a reset. -/
structure SessionInv (t : List HostEvent) (s : Host) (old cur : List String) : Prop where
  ids : acquiredIds t = old ++ cur
  drawn : cur ++ s.dispatch.openId = (List.range' 1 (s.table.nextId - 1)).map sessionName
  nextId : 1 ≤ s.table.nextId
  before : old ≠ [] → ∃ t₁ t₂, t = t₁ ++ .reset :: t₂ ∧ acquiredIds t₁ = old ∧ acquiredIds t₂ = cur

theorem SessionInv.nodup_cur {t : List HostEvent} {s : Host} {old cur : List String}
    (hi : SessionInv t s old cur) : cur.Nodup := by
  have hnames : ((List.range' 1 (s.table.nextId - 1)).map sessionName).Nodup :=
    (List.nodup_map_iff fun n n' h => sessionName_inj.1 h).2 List.nodup_range'
  rw [← hi.drawn] at hnames
  exact hnames.of_append_left

theorem SessionStep.inv {t : List HostEvent} {s s' : Host} {e : HostEvent} {old cur : List String}
    (h : SessionStep s e s') (hi : SessionInv t s old cur) :
    SessionInv (t ++ [e]) s' old (cur ++ acquiredIds [e]) ∨
      e = .reset ∧ SessionInv (t ++ [e]) s' (old ++ cur) [] := by
  have hold : old ≠ [] → ∃ t₁ t₂, t ++ [e] = t₁ ++ .reset :: t₂ ∧ acquiredIds t₁ = old ∧
      acquiredIds t₂ = cur ++ acquiredIds [e] := by
    intro hne
    obtain ⟨t₁, t₂, rfl, h₁, h₂⟩ := hi.before hne
    exact ⟨t₁, t₂ ++ [e], by simp, h₁, by rw [acquiredIds_append, h₂]⟩
  have hids : acquiredIds (t ++ [e]) = old ++ (cur ++ acquiredIds [e]) := by
    rw [acquiredIds_append, hi.ids, List.append_assoc]
  cases h with
  | none hn he hs =>
    refine .inl ⟨hids, ?_, hn ▸ hi.nextId, hold⟩
    rw [List.append_assoc, hs, hn, hi.drawn]
  | next hn he hs hs' =>
    refine .inl ⟨hids, ?_, by omega, hold⟩
    have hcur := hi.drawn
    rw [hs, List.append_nil] at hcur
    have hone := hi.nextId
    rw [List.append_assoc, hs', hcur, hn, Nat.add_sub_cancel,
      show s.table.nextId = s.table.nextId - 1 + 1 by omega, List.range'_concat, List.map_append]
    simp [Nat.add_comm 1]
  | reset hn he hs hs' =>
    subst he
    refine .inr ⟨rfl, hids.trans (by simp [acquiredIds]), ?_, by omega,
      fun _ => ⟨t, [], rfl, hi.ids, rfl⟩⟩
    rw [hs', hn]
    rfl

/-- No reset of the host lies between two acquired sessions. -/
def OneEpoch (t : List HostEvent) : Prop :=
  ∀ t₁ t₂, t = t₁ ++ .reset :: t₂ → acquiredIds t₁ = [] ∨ acquiredIds t₂ = []

theorem OneEpoch.of_concat {t : List HostEvent} {e : HostEvent} (h : OneEpoch (t ++ [e])) :
    OneEpoch t := by
  rintro t₁ t₂ rfl
  refine (h t₁ (t₂ ++ [e]) (by simp)).imp_right fun hnil => ?_
  rw [acquiredIds_append] at hnil
  exact (List.append_eq_nil_iff.1 hnil).1

theorem SessionInv.old_or_cur {t : List HostEvent} {s : Host} {old cur : List String}
    (hi : SessionInv t s old cur) (hone : OneEpoch t) : old = [] ∨ cur = [] := by
  by_cases hne : old = []
  · exact .inl hne
  · obtain ⟨t₁, t₂, ht, h₁, h₂⟩ := hi.before hne
    rw [← h₁, ← h₂]
    exact hone t₁ t₂ ht

theorem sessionInv_of_run {t : List HostEvent} {s : Host} (h : Run HostStep {} t s) :
    (∃ old cur, SessionInv t s old cur) ∧ (OneEpoch t → (acquiredIds t).Nodup) := by
  induction h with
  | nil => exact ⟨⟨[], [], rfl, rfl, le_refl 1, by simp⟩, fun _ => List.nodup_nil⟩
  | @snoc t s s' e hrun hstep ih =>
    obtain ⟨⟨old, cur, hi⟩, hnodup⟩ := ih
    rcases (hstep.sessions (opened_of_run hrun)).inv hi with hi' | ⟨rfl, hi'⟩
    · refine ⟨⟨_, _, hi'⟩, fun hone => ?_⟩
      rw [hi'.ids]
      rcases hi'.old_or_cur hone with hnil | hnil
      · rw [hnil]
        exact hi'.nodup_cur
      · have hold := hnodup hone.of_concat
        rw [hi.ids] at hold
        rw [hnil, List.append_nil]
        exact hold.of_append_left
    · refine ⟨⟨_, _, hi'⟩, fun hone => ?_⟩
      rw [hi'.ids, List.append_nil, ← hi.ids]
      exact hnodup hone.of_concat

/-- The first id acquired after a reset is that of number 1. -/
theorem first_acquired {t : List HostEvent} {s₀ s : Host} (h : Run HostStep s₀ t s)
    (ho : s₀.dispatch.Opened) (hn : s₀.table.nextId = 1) (hd : s₀.dispatch.openId = [])
    (hne : acquiredIds t ≠ []) : sessionName 1 ∈ acquiredIds t := by
  have hphase := h.inv (I := fun t s => s.dispatch.Opened ∧ (sessionName 1 ∈ acquiredIds t ∨
      acquiredIds t = [] ∧ (s.table.nextId = 1 ∧ s.dispatch.openId = [] ∨
        s.dispatch.openId = [sessionName 1]))) ⟨ho, .inr ⟨rfl, .inl ⟨hn, hd⟩⟩⟩ (by
    rintro t s e s' ⟨ho, ih⟩ hstep
    refine ⟨hstep.opened ho, ?_⟩
    rw [acquiredIds_append]
    rcases ih with hmem | ⟨hnil, ih⟩
    · exact .inl (List.mem_append_left _ hmem)
    rw [hnil, List.nil_append]
    -- the first id is open, or is returned in this step
    have hone : acquiredIds [e] ++ s'.dispatch.openId = [sessionName 1] →
        sessionName 1 ∈ acquiredIds [e] ∨ acquiredIds [e] = [] ∧
          (s'.table.nextId = 1 ∧ s'.dispatch.openId = [] ∨
            s'.dispatch.openId = [sessionName 1]) := by
      intro heq
      rcases List.append_eq_singleton_iff.1 heq with ⟨h₁, h₂⟩ | ⟨h₁, -⟩
      · exact .inr ⟨h₁, .inr h₂⟩
      · exact .inl (by simp [h₁])
    rcases hstep.sessions ho with ⟨hn', -, hs⟩ | ⟨hn', -, hs, hs'⟩ | ⟨hn', rfl, hs, hs'⟩
    · rcases ih with ⟨hn, hd⟩ | hd
      · rw [hd] at hs
        obtain ⟨h₁, h₂⟩ := List.append_eq_nil_iff.1 hs
        exact .inr ⟨h₁, .inl ⟨hn'.trans hn, h₂⟩⟩
      · exact hone (hs.trans hd)
    · rcases ih with ⟨hn, -⟩ | hd
      · exact hone (hn ▸ hs')
      · rw [hd] at hs; cases hs
    · exact .inr ⟨rfl, .inl ⟨hn', hs'⟩⟩)
  rcases hphase.2 with hmem | ⟨hnil, -⟩
  · exact hmem
  · exact absurd hnil hne

/-- A host that was stopped and started gives out an id a second time. -/
theorem session_id_reused :
    ∃ t s, Run HostStep {} t s ∧ acquiredIds t = ["devsess-1", "devsess-1"] := by
  have h := Run.one (HostStep.startTake (s := {}) rfl)
  have h := h.snoc (.startReset rfl)
  have h := h.snoc (.startOpen rfl [{ id := "d1", adapter := "mock" }] [] none)
  have h := h.snoc (.acquireBegin { deviceId := "d1", clientId := "c1" } rfl rfl)
  have h := h.snoc (.acquireReserve rfl rfl)
  have h := h.snoc (.acquireGranted rfl rfl rfl)
  have h := h.snoc (.stopTake rfl (.inl rfl))
  have h := h.snoc (.stopReset rfl)
  have h := h.snoc (.stopReturn rfl)
  have h := h.snoc (.startTake rfl)
  have h := h.snoc (.startReset rfl)
  have h := h.snoc (.startOpen rfl [{ id := "d1", adapter := "mock" }] [] none)
  have h := h.snoc (.acquireBegin { deviceId := "d1", clientId := "c2" } rfl rfl)
  have h := h.snoc (.acquireReserve rfl rfl)
  have h := h.snoc (.acquireGranted rfl rfl rfl)
  exact ⟨_, _, h, rfl⟩

/-- **Session ids are unique exactly in runs that do not reset the host between
    two acquired sessions.** -/
theorem session_ids_unique {t : List HostEvent} {s : Host} (h : Run HostStep {} t s) :
    (acquiredIds t).Nodup ↔ OneEpoch t := by
  refine ⟨fun hnodup t₁ t₂ ht => ?_, (sessionInv_of_run h).2⟩
  subst ht
  obtain ⟨s₁, h₁, h⟩ := h.cut
  obtain ⟨s₂, hreset, h₂⟩ := h.first
  by_contra hboth
  obtain ⟨hne₁, hne₂⟩ := not_or.1 hboth
  obtain ⟨hn, hd⟩ : s₂.table.nextId = 1 ∧ s₂.dispatch.openId = [] := by
    rcases hreset.sessions (opened_of_run h₁) with ⟨-, he, -⟩ | ⟨-, he, -⟩ | ⟨hn, -, -, hd⟩
    · exact absurd rfl he
    · exact absurd rfl he
    · exact ⟨hn, hd⟩
  have hmem₁ := first_acquired h₁ (opened_of_run .nil) rfl rfl hne₁
  have hmem₂ := first_acquired h₂ (hreset.opened (opened_of_run h₁)) hn hd hne₂
  rw [acquiredIds_append] at hnodup
  exact List.disjoint_of_nodup_append hnodup hmem₁ hmem₂

/-- Two sessions between two resets. -/
theorem session_ids_unique_two :
    ∃ t s, Run HostStep {} t s ∧ acquiredIds t = ["devsess-1", "devsess-2"] ∧ OneEpoch t := by
  have h := Run.one (HostStep.startTake (s := {}) rfl)
  have h := h.snoc (.startReset rfl)
  have h := h.snoc (.startOpen rfl [{ id := "d1", adapter := "mock" }] [] none)
  have h := h.snoc (.acquireBegin { deviceId := "d1" } rfl rfl)
  have h := h.snoc (.acquireReserve rfl rfl)
  have h := h.snoc (.acquireGranted rfl rfl rfl)
  have h := h.snoc (.acquireBegin { deviceId := "d1" } rfl rfl)
  have h := h.snoc (.acquireReserve rfl rfl)
  have h := h.snoc (.acquireGranted rfl rfl rfl)
  have h := h.snoc (.stopTake rfl (.inl rfl))
  have h := h.snoc (.stopReset rfl)
  exact ⟨_, _, h, rfl, (session_ids_unique h).1 (by decide)⟩

/-! ## Media delivery -/

/-- The session that the AXTP adapter delivers the media of device `d` to. -/
def Host.deliveredTo (s : Host) (d : String) : Option String :=
  s.axtpAdapter.bind fun a => a.mediaDeliverySessions d

/-- `release_session`, if it is what begins in `s`, finds the device of a lease
    that the adapter delivers to: the registry still gives the id one device,
    of the AXTP adapter. -/
def Host.FindsDevice (s : Host) (e : HostEvent) : Prop :=
  ∀ sessionId lease, e = .releaseBegan sessionId → s.table.lookup sessionId = some lease →
    s.deliveredTo lease.deviceId = some sessionId → s.isAxtpDevice lease.deviceId = true

theorem Host.findsDevice_of_ne {s : Host} {e : HostEvent} (h : ∀ x, e ≠ .releaseBegan x) :
    s.FindsDevice e := fun x _ he => absurd he (h x)

theorem Host.findsDevice_of_axtp {s : Host} {sessionId : String}
    (h : ((s.table.lookup sessionId).all fun lease => s.isAxtpDevice lease.deviceId) = true) :
    s.FindsDevice (.releaseBegan sessionId) := by
  rintro x lease hx hl -
  cases hx
  rwa [hl] at h

/-- Delivery goes to a live media lease, or to one that is just being
    released. -/
structure DeliveryInv (s : Host) : Prop where
  delivered : ∀ d sessionId, s.deliveredTo d = some sessionId →
    (∃ l ∈ s.table.leasesOf d true, l.sessionId = sessionId) ∨
      ∃ operations reset, s.dispatch = .releasing sessionId operations (some d) reset
  binding : ∀ lease, s.dispatch = .binding lease → lease ∈ s.table.leasesOf lease.deviceId true

theorem Host.deliveredTo_mapAxtp (s : Host) (f : AxtpAdapter → AxtpAdapter) (d : String) :
    (s.mapAxtp f).deliveredTo d = s.axtpAdapter.bind fun a => (f a).mediaDeliverySessions d := by
  unfold Host.deliveredTo Host.axtpAdapter Host.mapAxtp
  cases s.adapter with
  | none => rfl
  | some a => cases hx : a.axtp <;> simp [hx]

theorem LeaseTable.mem_release {t : LeaseTable} {l : SessionLease} {sessionId : String}
    (hl : l ∈ t.leases) (hne : l.sessionId ≠ sessionId) : l ∈ (t.release sessionId).leases := by
  unfold LeaseTable.release
  cases t.lookup sessionId with
  | none => exact hl
  | some l' => exact List.mem_filter.2 ⟨hl, decide_eq_true hne⟩

theorem LeaseTable.mem_leasesOf {t : LeaseTable} {l : SessionLease} {d : String} {m : Bool} :
    l ∈ t.leasesOf d m ↔ l ∈ t.leases ∧ l.deviceId = d ∧ l.media = m := by
  simp [LeaseTable.leasesOf]

section
variable {s s' : Host}

theorem DeliveryInv.keep (hi : DeliveryInv s)
    (hdelivered : ∀ d sessionId, s'.deliveredTo d = some sessionId →
      s.deliveredTo d = some sessionId)
    (hleases : ∀ l ∈ s.table.leases, l ∈ s'.table.leases)
    (hreleasing : ∀ sessionId operations d reset,
      s.dispatch = .releasing sessionId operations (some d) reset →
      ∃ operations' reset', s'.dispatch = .releasing sessionId operations' (some d) reset')
    (hbinding : ∀ lease, s'.dispatch = .binding lease →
      s.dispatch = .binding lease ∨ lease ∈ s'.table.leasesOf lease.deviceId true) :
    DeliveryInv s' where
  delivered d sessionId h := by
    rcases hi.delivered d sessionId (hdelivered d sessionId h) with ⟨l, hl, hid⟩ | ⟨_, _, hd⟩
    · rw [LeaseTable.mem_leasesOf] at hl
      exact .inl ⟨l, LeaseTable.mem_leasesOf.2 ⟨hleases l hl.1, hl.2⟩, hid⟩
    · exact .inr (hreleasing _ _ _ _ hd)
  binding lease hd := by
    rcases hbinding lease hd with hd' | hl
    · have hl := LeaseTable.mem_leasesOf.1 (hi.binding lease hd')
      exact LeaseTable.mem_leasesOf.2 ⟨hleases lease hl.1, hl.2⟩
    · exact hl

/-- Nothing is bound to an adapter that was just made. -/
theorem DeliveryInv.unbound (hdelivered : ∀ d, s.deliveredTo d = none)
    (hd : ∀ lease, s.dispatch ≠ .binding lease) : DeliveryInv s where
  delivered d sessionId h := by rw [hdelivered d] at h; cases h
  binding lease h := absurd h (hd lease)

theorem deliveredTo_make (s : Host) (adapter : Option (String × Bool)) (d : String)
    (h : s.adapter = adapter.map fun a => .make a.1 a.2) : s.deliveredTo d = none := by
  unfold Host.deliveredTo Host.axtpAdapter
  rw [h]
  rcases adapter with _ | ⟨name, _ | _⟩ <;> rfl

theorem DeliveryInv.bind (hi : DeliveryInv s) {lease : SessionLease}
    (hd : s.dispatch = .binding lease) :
    DeliveryInv { s.mapAxtp (·.bindMediaDeliverySession lease.deviceId lease.sessionId) with
      dispatch := .idle } where
  delivered d sessionId h := by
    left
    change (s.mapAxtp _).deliveredTo d = _ at h
    rw [Host.deliveredTo_mapAxtp] at h
    obtain ⟨a, ha, hbound⟩ := Option.bind_eq_some_iff.1 h
    rw [AxtpAdapter.bindMediaDeliverySession_eq] at hbound
    split_ifs at hbound with hdev
    · subst hdev
      exact ⟨lease, hi.binding lease hd, Option.some.inj hbound⟩
    · refine (hi.delivered d sessionId (Option.bind_eq_some_iff.2 ⟨a, ha, hbound⟩)).resolve_right ?_
      rintro ⟨_, _, hd'⟩
      rw [hd] at hd'
      cases hd'
  binding lease h := by cases h

theorem DeliveryInv.unbind (hi : DeliveryInv s) {sessionId deviceId : String}
    {reset : Option String}
    (hd : s.dispatch = .releasing sessionId [] (some deviceId) reset) :
    DeliveryInv { s.mapAxtp (·.unbindMediaDeliverySession deviceId sessionId) with
      dispatch := .releasing sessionId [] none reset } where
  delivered d x h := by
    left
    change (s.mapAxtp _).deliveredTo d = _ at h
    rw [Host.deliveredTo_mapAxtp] at h
    obtain ⟨a, ha, hbound⟩ := Option.bind_eq_some_iff.1 h
    have hx := AxtpAdapter.unbindMediaDeliverySession_eq_some.1 hbound
    refine (hi.delivered d x (Option.bind_eq_some_iff.2 ⟨a, ha, hx.1⟩)).resolve_right ?_
    rintro ⟨_, _, hd'⟩
    rw [hd] at hd'
    cases hd'
    exact hx.2 ⟨rfl, rfl⟩
  binding lease h := by cases h

/-- The locked section of `release_session`: a lease that is delivered to is
    unbound next. -/
theorem DeliveryInv.release (hi : DeliveryInv s) (hd : s.dispatch = .idle)
    (ht : TableInv s.table none) (sessionId : String)
    (hfinds : s.FindsDevice (.releaseBegan sessionId)) {operations : List ℕ}
    (control : ControlTable) :
    DeliveryInv
      { s with
        table := s.table.release sessionId
        control := control
        dispatch := .releasing sessionId operations (s.unbindTarget sessionId)
          (s.resetTarget sessionId) } where
  delivered d x h := by
    change s.deliveredTo d = some x at h
    obtain ⟨l, hl, hid⟩ := (hi.delivered d x h).resolve_right (by
      rintro ⟨_, _, hd'⟩
      rw [hd] at hd'
      cases hd')
    obtain ⟨hmem, hdev, hm⟩ := LeaseTable.mem_leasesOf.1 hl
    subst hdev hid
    by_cases hx : l.sessionId = sessionId
    · -- the lease that ends is the one that was looked up
      right
      have hlookup : s.table.lookup sessionId = some l := ht.sessions.lookup_iff.2 ⟨hmem, hx⟩
      have haxtp : s.axtpAdapter.isSome = true := by
        obtain ⟨a, ha, -⟩ := Option.bind_eq_some_iff.1 h
        rw [ha]; rfl
      refine ⟨operations, s.resetTarget sessionId, ?_⟩
      rw [Host.unbindTarget, hlookup]
      simp [hm, haxtp, hfinds sessionId l rfl hlookup (hx ▸ h), hx]
    · left
      refine ⟨l, LeaseTable.mem_leasesOf.2 ⟨?_, rfl, hm⟩, rfl⟩
      exact LeaseTable.mem_release hmem hx
  binding lease h := by cases h

theorem DeliveryInv.of_eq (hi : DeliveryInv s) (ha : s'.adapter = s.adapter)
    (hl : s'.table.leases = s.table.leases) (hd : s'.dispatch = s.dispatch) : DeliveryInv s' := by
  refine hi.keep (fun d x h => ?_) (fun l h => hl ▸ h)
    (fun x operations d reset h => ⟨operations, reset, hd.trans h⟩) (fun lease h => .inl (hd ▸ h))
  unfold Host.deliveredTo Host.axtpAdapter at h ⊢
  rwa [ha] at h

end

theorem HostStep.delivery {s s' : Host} {e : HostEvent} (h : HostStep s e s')
    (hfinds : s.FindsDevice e) (ht : TableInv s.table s.dispatch.reservation)
    (hi : DeliveryInv s) : DeliveryInv s' := by
  have hnotReleasing {d : Dispatch} (hd : s.dispatch = d)
      (hne : ∀ sessionId operations x reset, d ≠ .releasing sessionId operations (some x) reset) :
      ∀ sessionId operations x reset,
        s.dispatch = .releasing sessionId operations (some x) reset →
        ∃ operations' reset', s'.dispatch = .releasing sessionId operations' (some x) reset' :=
    fun _ _ _ _ h => absurd (hd.symm.trans h) (hne _ _ _ _)
  cases h with
  | startReset hd | stopReset hd =>
    exact .unbound (fun d => rfl) (by simp)
  | startOpen hd mock discovered adapter =>
    exact .unbound (fun d => deliveredTo_make _ adapter d rfl) (by simp)
  | startThrows hd discovered adapter =>
    exact .unbound (fun d => deliveredTo_make _ adapter d rfl) (by simp)
  | acquireReserve hd hc =>
    have hleases := ((SameLeases.refl s.table).reserve hc).leases
    exact hi.keep (fun _ _ h => h) (fun l hl => hleases ▸ hl) (hnotReleasing hd (by simp))
      (by simp)
  | acquireGranted hd hc hm =>
    rw [hd] at ht
    refine hi.keep (fun _ _ h => h) (fun l hl => ?_) (hnotReleasing hd (by simp)) (by simp)
    show l ∈ (s.table.openSession _).leases
    rw [ht.leases_openSession]
    exact List.mem_append_left _ hl
  | @acquireGrantedMedia request sessionAdapter device hd hc hm =>
    rw [hd] at ht
    have hleases := ht.leases_openSession request
    refine hi.keep (fun _ _ h => h) (fun l hl => ?_) (hnotReleasing hd (by simp)) ?_
    · show l ∈ (s.table.openSession request).leases
      rw [hleases]
      exact List.mem_append_left _ hl
    · rintro lease hl
      cases hl
      refine .inr (LeaseTable.mem_leasesOf.2 ⟨?_, rfl, (Bool.and_eq_true_iff.1 hm).1⟩)
      show s.table.nextLease request ∈ (s.table.openSession request).leases
      rw [hleases]
      exact List.mem_append_right _ List.mem_cons_self
  | acquireBind hd => exact hi.bind hd
  | releaseTake hd sessionId =>
    rw [hd] at ht
    exact hi.release hd ht sessionId hfinds _
  | releaseCancel hd =>
    refine hi.keep (fun _ _ h => h) (fun _ h => h) (fun x operations d reset h => ?_) (by simp)
    rw [hd] at h
    cases h
    exact ⟨_, _, rfl⟩
  | releaseUnbind hd => exact hi.unbind hd
  | @releaseReset sessionId deviceId hd =>
    refine hi.keep (fun d x h => ?_) (fun _ h => h) (hnotReleasing hd (by simp)) (by simp)
    change (s.mapAxtp _).deliveredTo d = _ at h
    rw [Host.deliveredTo_mapAxtp] at h
    obtain ⟨a, ha, hbound⟩ := Option.bind_eq_some_iff.1 h
    rw [AxtpAdapter.resetSessionForDevice_eq] at hbound
    split_ifs at hbound
    exact Option.bind_eq_some_iff.2 ⟨a, ha, hbound⟩
  | maintenanceGranted hd hh hc =>
    obtain ⟨g, -, rfl⟩ := grantMaintenance_ok hc
    exact hi.keep (fun _ _ h => h) (fun _ h => h) (hnotReleasing hd (by simp)) (by simp)
  | callHandle call hc => exact hi.of_eq rfl (callHandle_registry s.table call).1 rfl
  | upsertDevice | stopNothing | acquireRefused | maintenanceRefused | callInvalid | callBusy
  | callRefused | operationCalled | operationDropped | operationExpired =>
    exact hi.of_eq rfl rfl rfl
  | _ => exact hi.keep (fun _ _ h => h) (fun _ h => h) (by simp [*]) (by simp)

/-- Another adapter registers the id of a leased device; the release then finds
    no device and leaves the adapter delivering to a session that is gone. -/
theorem binding_survives :
    ∃ t s, Run HostStep {} t s ∧ s.dispatch = .idle ∧ s.running = true ∧
      s.deliveredTo "d1" = some "devsess-1" ∧ s.table.leases = [] := by
  have h := Run.one (HostStep.startTake (s := {}) rfl)
  have h := h.snoc (.startReset rfl)
  have h := h.snoc (.startOpen rfl [] [{ id := "d1", adapter := "axtp" }] (some ("axtp", true)))
  have h := h.snoc (.acquireBegin { deviceId := "d1", media := true } rfl rfl)
  have h := h.snoc (.acquireReserve rfl rfl)
  have h := h.snoc (.acquireGrantedMedia rfl rfl rfl)
  have h := h.snoc (.acquireBind rfl)
  have h := h.snoc (.upsertDevice _ { id := "d1", adapter := "mock" })
  have h := h.snoc (.releaseTake rfl "devsess-1")
  have h := h.snoc (.releaseReturn rfl)
  exact ⟨_, _, h, rfl, rfl, rfl, rfl⟩

/-- **No media binding survives its lease** in a run whose releases find the
    device of a lease that the adapter delivers to. -/
theorem no_stale_binding {t : List HostEvent} {s : Host}
    (h : Run (fun s e s' => HostStep s e s' ∧ s.FindsDevice e) {} t s) (hd : s.dispatch = .idle)
    {d sessionId : String} (hb : s.deliveredTo d = some sessionId) :
    ∃ l ∈ s.table.leasesOf d true, l.sessionId = sessionId := by
  have hi : DeliveryInv s := by
    clear hd hb
    induction h with
    | nil => exact .unbound (fun d => rfl) (by simp)
    | snoc hrun hstep ih =>
      exact hstep.1.delivery hstep.2 (tableInv_of_run (hrun.mono And.left)).1 ih
  refine (hi.delivered d sessionId hb).resolve_right ?_
  rintro ⟨_, _, hd'⟩
  rw [hd] at hd'
  cases hd'

/-- A media lease and a control lease of one device; the control lease is
    released, and the media lease is still delivered to. -/
theorem no_stale_binding_control_released :
    ∃ t s, Run (fun s e s' => HostStep s e s' ∧ s.FindsDevice e) {} t s ∧
      HostEvent.releaseReturned "devsess-2" ∈ t ∧ s.dispatch = .idle ∧
      s.deliveredTo "d1" = some "devsess-1" ∧
      ∃ l ∈ s.table.leasesOf "d1" true, l.sessionId = "devsess-1" := by
  have hne {s : Host} {e : HostEvent} (h : ∀ x, e ≠ .releaseBegan x) := s.findsDevice_of_ne h
  have h : Run (fun s e s' => HostStep s e s' ∧ s.FindsDevice e) {} _ _ :=
    .one ⟨.startTake rfl, hne (by simp)⟩
  have h := h.snoc ⟨.startReset rfl, hne (by simp)⟩
  have h := h.snoc ⟨.startOpen rfl [] [{ id := "d1", adapter := "axtp" }] (some ("axtp", true)),
    hne (by simp)⟩
  have h := h.snoc ⟨.acquireBegin { deviceId := "d1", media := true } rfl rfl, hne (by simp)⟩
  have h := h.snoc ⟨.acquireReserve rfl rfl, hne (by simp)⟩
  have h := h.snoc ⟨.acquireGrantedMedia rfl rfl rfl, hne (by simp)⟩
  have h := h.snoc ⟨.acquireBind rfl, hne (by simp)⟩
  have h := h.snoc ⟨.acquireBegin { deviceId := "d1" } rfl rfl, hne (by simp)⟩
  have h := h.snoc ⟨.acquireReserve rfl rfl, hne (by simp)⟩
  have h := h.snoc ⟨.acquireGranted rfl rfl rfl, hne (by simp)⟩
  have h := h.snoc ⟨.releaseTake rfl "devsess-2", Host.findsDevice_of_axtp rfl⟩
  have h := h.snoc ⟨.releaseReturn rfl, hne (by simp)⟩
  exact ⟨_, _, h, by simp, rfl, rfl, no_stale_binding h rfl rfl⟩

end Axent
