/-
  The leases of a host over whole runs.

  A step of the host changes the lease table by at most one section
  (`HostStep.table`), so the containers agree in every state that a run reaches,
  whatever the calls and their interleaving.
-/
import Axent.Host

namespace Axent

open Lib Function

/-! ## A step of the host is a section on the table -/

/-- The release functions that ran in a step. -/
def HostEvent.releases : HostEvent → List MaintenanceRelease
  | handleCalled _ releases => releases
  | _ => []

theorem checkDevice_ok {s : Host} {request : SessionAcquireRequest} {device : DeviceSnapshot}
    (h : s.checkDevice request = .ok device) :
    s.getDevice request.deviceId = some device ∧
      (request.media = true → s.table.mediaOwner request.deviceId = none) := by
  unfold Host.checkDevice at h
  cases hg : s.getDevice request.deviceId with
  | none => rw [hg] at h; cases h
  | some d =>
    simp only [hg] at h
    split_ifs at h with hm
    cases h
    refine ⟨rfl, fun hmedia => ?_⟩
    simpa [hmedia] using hm

theorem checkDevice_refused {s : Host} {request : SessionAcquireRequest} {lease : SessionLease}
    (h : s.checkDevice request = .error lease) : lease.acquired = false := by
  unfold Host.checkDevice at h
  split at h
  · cases h; rfl
  · split_ifs at h
    cases h; rfl

theorem checkAcquire_refused {s : Host} {request : SessionAcquireRequest} {lease : SessionLease}
    (h : s.checkAcquire request = .error lease) : lease.acquired = false := by
  unfold Host.checkAcquire at h
  split_ifs at h
  · cases h; rfl
  · cases hc : s.checkDevice request with
    | error l => rw [hc] at h; cases h; exact checkDevice_refused hc
    | ok d => rw [hc] at h; cases h

theorem HostStep.table {s s' : Host} {e : HostEvent} (h : HostStep s e s') :
    TableStep s.table s.dispatch.reservation e.releases s'.table s'.dispatch.reservation := by
  cases h with
  | startReset hd | stopReset hd =>
    rw [hd]
    exact .reset s.table
  | acquireReserve hd hc =>
    rw [hd]
    exact .reserve hc
  | acquireOpenFailed hd | acquireOpenThrew hd | acquireRejected hd =>
    rw [hd]
    exact .cancelReservation _ _ _
  | acquireGranted hd hc | acquireGrantedMedia hd hc =>
    rw [hd]
    exact .openSession _ _ (checkDevice_ok hc).2
  | releaseTake hd sessionId =>
    rw [hd]
    exact .release _ sessionId
  | maintenanceGranted hd hh hc =>
    rw [hd]
    exact .grantMaintenance _ hh hc
  | callHandle call hc => exact .callHandle _ _ call hc
  | upsertDevice | stopNothing | acquireRefused | maintenanceRefused | callInvalid | callBusy
  | callRefused | operationCalled | operationDropped | operationExpired => exact .same _ _
  | _ =>
    simp only [*]
    exact .same _ _

/-- The tickets of the maintenance leases released so far. -/
def releasedTickets (t : List HostEvent) : List ℕ :=
  t.flatMap fun e => e.releases.map MaintenanceRelease.ticket

theorem releasedTickets_concat (t : List HostEvent) (e : HostEvent) :
    releasedTickets (t ++ [e]) = releasedTickets t ++ e.releases.map MaintenanceRelease.ticket := by
  simp [releasedTickets]

theorem tableInv_of_run {t : List HostEvent} {s : Host} (h : Run HostStep {} t s) :
    TableInv s.table s.dispatch.reservation ∧ TicketInv (releasedTickets t) s.table := by
  induction h with
  | nil => exact ⟨.init, .init⟩
  | snoc _ hstep ih =>
    refine ⟨hstep.table.inv ih.1, ?_⟩
    rw [releasedTickets_concat]
    exact hstep.table.tickets ih.1 ih.2

/-! ## An acquisition that fails -/

/-- `t'` has the leases of `t` and counts one more activity, `extra`, if it is
    there; only the flags of devices in `releases` may have changed. -/
structure SameLeases (t : LeaseTable) (extra : Reservation) (releases : List MaintenanceRelease)
    (t' : LeaseTable) : Prop where
  leases : t'.leases = t.leases
  mediaOwner : t'.mediaOwner = t.mediaOwner
  nextId : t'.nextId = t.nextId
  counters : ∀ d m, (t'.registry.state d).count m =
    (t.registry.state d).count m + if extra = some (d, m) then 1 else 0
  flags : ∀ d, (∀ f ∈ releases, f.deviceId ≠ d) →
    (t'.registry.state d).maintenance = (t.registry.state d).maintenance

theorem SameLeases.refl (t : LeaseTable) : SameLeases t none [] t :=
  ⟨rfl, rfl, rfl, fun d m => by simp, fun d _ => rfl⟩

theorem state_foldl_releaseMaintenance (releases : List MaintenanceRelease)
    (g : HostLeaseRegistry) (x : String) :
    let g' := releases.foldl (fun g f => g.releaseMaintenance f.deviceId) g
    (∀ m, (g'.state x).count m = (g.state x).count m) ∧
      ((∀ f ∈ releases, f.deviceId ≠ x) →
        (g'.state x).maintenance = (g.state x).maintenance) := by
  induction releases generalizing g with
  | nil => simp
  | cons f releases ih =>
    obtain ⟨hcount, hflag⟩ := ih (g.releaseMaintenance f.deviceId)
    have hstate := congrFun (g.state_releaseMaintenance f.deviceId) x
    constructor
    · intro m
      rw [List.foldl_cons, hcount m, hstate]
      rcases eq_or_ne x f.deviceId with rfl | hne
      · rw [update_self]; rfl
      · rw [update_of_ne hne]
    · intro hall
      have hne : x ≠ f.deviceId := (hall f List.mem_cons_self).symm
      rw [List.foldl_cons, hflag fun f' hf' => hall f' (List.mem_cons_of_mem f hf'), hstate,
        update_of_ne hne]

theorem callHandle_registry (t : LeaseTable) (call : HandleCall) :
    (t.callHandle call).1.leases = t.leases ∧ (t.callHandle call).1.mediaOwner = t.mediaOwner ∧
      (t.callHandle call).1.nextId = t.nextId ∧
      (t.callHandle call).1.registry =
        (t.callHandle call).2.foldl (fun g f => g.releaseMaintenance f.deviceId) t.registry := by
  rw [LeaseTable.callHandle_eq]
  cases call with
  | moveConstruct i j => exact ⟨rfl, rfl, rfl, rfl⟩
  | reset i => exact ⟨rfl, rfl, rfl, rfl⟩
  | destroy i => exact ⟨rfl, rfl, rfl, rfl⟩
  | moveAssign i j =>
    dsimp only
    split_ifs
    · exact ⟨rfl, rfl, rfl, rfl⟩
    · exact ⟨rfl, rfl, rfl, rfl⟩

section
variable {t t' : LeaseTable} {releases : List MaintenanceRelease} {extra : Reservation}

theorem SameLeases.callHandle (h : SameLeases t extra releases t') (call : HandleCall) :
    SameLeases t extra (releases ++ (t'.callHandle call).2) (t'.callHandle call).1 := by
  obtain ⟨hleases, howner, hnext, hregistry⟩ := callHandle_registry t' call
  have hfold := state_foldl_releaseMaintenance (t'.callHandle call).2 t'.registry
  rw [← hregistry] at hfold
  refine ⟨hleases.trans h.leases, howner.trans h.mediaOwner, hnext.trans h.nextId,
    fun d m => ((hfold d).1 m).trans (h.counters d m), fun d hd => ?_⟩
  refine ((hfold d).2 fun f hf => ?_).trans (h.flags d fun f hf => ?_)
  · exact hd f (List.mem_append_right _ hf)
  · exact hd f (List.mem_append_left _ hf)

theorem SameLeases.reserve (h : SameLeases t none releases t') {d : String} {m : Bool}
    {t'' : LeaseTable} (hr : t'.reserve d m = .ok t'') :
    SameLeases t (some (d, m)) releases t'' := by
  unfold LeaseTable.reserve at hr
  cases hg : t'.registry.acquireActivity d m with
  | error e => rw [hg] at hr; cases hr
  | ok g =>
    rw [hg] at hr
    cases hr
    obtain ⟨-, hstate⟩ := HostLeaseRegistry.acquireActivity_ok hg
    refine ⟨h.leases, h.mediaOwner, h.nextId, fun x m' => ?_, fun x hx => ?_⟩
    · show (g.state x).count m' = _
      have hcount := h.counters x m'
      rw [(HostLeaseRegistry.setCount_of_update hstate x).1]
      by_cases hx : (d, m) = (x, m')
      · cases hx
        simpa using hcount
      · simpa [hx] using hcount
    · exact (HostLeaseRegistry.setCount_of_update hstate x).2.trans (h.flags x hx)

theorem SameLeases.cancelReservation {d : String} {m : Bool}
    (h : SameLeases t (some (d, m)) releases t') :
    SameLeases t none releases (t'.cancelReservation d m) := by
  have hstate := t'.registry.state_releaseActivity d m
  refine ⟨h.leases, h.mediaOwner, h.nextId, fun x m' => ?_, fun x hx => ?_⟩
  · show ((t'.registry.releaseActivity d m).state x).count m' = _
    have hcount := h.counters x m'
    rw [(HostLeaseRegistry.setCount_of_update hstate x).1]
    by_cases hx : (d, m) = (x, m')
    · cases hx
      simp [hcount]
    · simpa [hx] using hcount
  · exact (HostLeaseRegistry.setCount_of_update hstate x).2.trans (h.flags x hx)

end

/-- An acquisition ends. -/
def HostEvent.endsAcquire : HostEvent → Bool
  | acquireReturned _ | acquireThrew => true
  | _ => false

/-- An acquisition ends without a lease. -/
def HostEvent.failsAcquire : HostEvent → Bool
  | acquireReturned lease => !lease.acquired
  | acquireThrew => true
  | _ => false

theorem HostEvent.ends_of_fails {e : HostEvent} (h : e.failsAcquire = true) :
    e.endsAcquire = true ∧ e.releases = [] := by
  cases e <;> first | exact ⟨rfl, rfl⟩ | cases h

/-- The acquisition of `request` is in progress and has no lease yet. -/
def Dispatch.Acquires (d : Dispatch) (request : SessionAcquireRequest) : Prop :=
  ∃ sessionAdapter, d = .acquiring request sessionAdapter ∨ d = .opening request sessionAdapter

/-- While an acquisition is in progress, only its own sections and calls on
    handles change the table. -/
theorem HostStep.acquires {s s' : Host} {e : HostEvent} {request : SessionAcquireRequest}
    {t : LeaseTable} {releases : List MaintenanceRelease} (h : HostStep s e s')
    (hacq : s.dispatch.Acquires request)
    (hsame : SameLeases t s.dispatch.reservation releases s.table) :
    (e.endsAcquire = false ∧ s'.dispatch.Acquires request ∧
        SameLeases t s'.dispatch.reservation (releases ++ e.releases) s'.table) ∨
      (e.failsAcquire = true ∧ SameLeases t none (releases ++ e.releases) s'.table) ∨
      (e.failsAcquire = false ∧ e.endsAcquire = true) ∨
      (e.endsAcquire = false ∧ ∃ lease, s'.dispatch = .binding lease ∧ lease.acquired = true) := by
  have hnone : releases ++ ([] : List MaintenanceRelease) = releases := List.append_nil _
  cases h with
  | acquireBusy hd hc =>
    rw [hd] at hsame
    exact .inr (.inl ⟨rfl, hnone.symm ▸ hsame⟩)
  | acquireReserve hd hc =>
    rw [hd] at hacq hsame
    obtain ⟨a, ha | ha⟩ := hacq <;> cases ha
    exact .inl ⟨rfl, ⟨_, .inr rfl⟩, hnone.symm ▸ hsame.reserve hc⟩
  | acquireOpenFailed hd | acquireOpenThrew hd =>
    rw [hd] at hsame
    exact .inr (.inl ⟨rfl, hnone.symm ▸ hsame.cancelReservation⟩)
  | acquireRejected hd hc =>
    rw [hd] at hsame
    refine .inr (.inl ⟨?_, hnone.symm ▸ hsame.cancelReservation⟩)
    simp [HostEvent.failsAcquire, checkDevice_refused hc]
  | acquireGranted hd => exact .inr (.inr (.inl ⟨rfl, rfl⟩))
  | acquireGrantedMedia hd => exact .inr (.inr (.inr ⟨rfl, _, rfl, rfl⟩))
  | callHandle call hc => exact .inl ⟨rfl, hacq, hsame.callHandle call⟩
  | upsertDevice | callInvalid | callBusy | operationCalled | operationDropped
  | operationExpired =>
    exact .inl ⟨rfl, hacq, hnone.symm ▸ hsame⟩
  | _ =>
    -- no other step starts while an acquisition is in progress
    obtain ⟨a, ha | ha⟩ := hacq <;> simp_all

/-- A step of somebody else while an acquisition binds the adapter, or its
    return. -/
theorem HostStep.binds {s s' : Host} {e : HostEvent} {lease : SessionLease} (h : HostStep s e s')
    (hb : s.dispatch = .binding lease) :
    (e.endsAcquire = false ∧ s'.dispatch = .binding lease) ∨ e = .acquireReturned lease := by
  cases h with
  | acquireBind hd | acquireUnbound hd =>
    rw [hb] at hd
    cases hd
    exact .inr rfl
  | callHandle | upsertDevice | callInvalid | callBusy | operationCalled | operationDropped
  | operationExpired => exact .inl ⟨rfl, hb⟩
  | _ => simp_all

/-- A run from the first section of an acquisition to its end without a lease
    leaves the leases as they were. -/
theorem failed_acquire_same {s₁ s₂ : Host} {request : SessionAcquireRequest}
    {mid : List HostEvent} {e : HostEvent}
    (h : Run HostStep s₁ (.acquireBegan request :: mid ++ [e]) s₂)
    (hmid : ∀ e' ∈ mid, e'.endsAcquire = false) (he : e.failsAcquire = true) :
    SameLeases s₁.table none (mid.flatMap HostEvent.releases) s₂.table := by
  obtain ⟨s₃, h₁₃, hlast⟩ := h.last
  obtain ⟨s, hbegin, hrest⟩ := h₁₃.first
  have hstart : s.dispatch.Acquires request ∧
      SameLeases s₁.table s.dispatch.reservation [] s.table := by
    cases hbegin
    exact ⟨⟨_, .inl rfl⟩, .refl _⟩
  -- until the end, the acquisition is in progress or has its lease
  have hphase := hrest.inv (I := fun mid s => (∀ e' ∈ mid, e'.endsAcquire = false) →
      (s.dispatch.Acquires request ∧
        SameLeases s₁.table s.dispatch.reservation (mid.flatMap HostEvent.releases) s.table) ∨
      ∃ lease, s.dispatch = .binding lease ∧ lease.acquired = true) (fun _ => .inl hstart) (by
    intro mid s e s' ih hstep hends
    have hmid' : ∀ e' ∈ mid, e'.endsAcquire = false := fun e' he' =>
      hends e' (List.mem_append_left _ he')
    have hlast' : e.endsAcquire = false := hends e (by simp)
    have hflat : (mid ++ [e]).flatMap HostEvent.releases =
        mid.flatMap HostEvent.releases ++ e.releases := by simp
    rcases ih hmid' with ⟨hacq, hsame⟩ | ⟨lease, hb, hlease⟩
    · rcases hstep.acquires hacq hsame with ⟨-, h₁, h₂⟩ | ⟨hf, -⟩ | ⟨-, hf⟩ | ⟨-, hb⟩
      · exact .inl ⟨h₁, hflat ▸ h₂⟩
      · rw [(HostEvent.ends_of_fails hf).1] at hlast'; cases hlast'
      · rw [hf] at hlast'; cases hlast'
      · exact .inr hb
    · rcases hstep.binds hb with ⟨-, hb⟩ | rfl
      · exact .inr ⟨lease, hb, hlease⟩
      · cases hlast')
  obtain ⟨hends, hrel⟩ := HostEvent.ends_of_fails he
  rcases hphase hmid with ⟨hacq, hsame⟩ | ⟨lease, hb, hlease⟩
  · rcases hlast.acquires hacq hsame with ⟨hf, -⟩ | ⟨-, hsame'⟩ | ⟨hf, -⟩ | ⟨hf, -⟩
    · rw [hends] at hf; cases hf
    · rwa [hrel, List.append_nil] at hsame'
    · rw [he] at hf; cases hf
    · rw [hends] at hf; cases hf
  · rcases hlast.binds hb with ⟨hf, -⟩ | rfl
    · rw [hends] at hf; cases hf
    · simp [HostEvent.failsAcquire, hlease] at he

/-- The live leases of a device, of one kind. -/
def LeaseTable.leasesOf (t : LeaseTable) (d : String) (media : Bool) : List SessionLease :=
  t.leases.filter fun l => l.deviceId = d ∧ l.media = media

theorem count_activities (t : LeaseTable) (r : Reservation) (d : String) (m : Bool) :
    (t.activities r).count (d, m) =
      (t.leasesOf d m).length + if r = some (d, m) then 1 else 0 := by
  have hleases : (t.leases.map fun l => (l.deviceId, l.media)).count (d, m) =
      (t.leasesOf d m).length := by
    rw [List.count, List.countP_map, List.countP_eq_length_filter, LeaseTable.leasesOf]
    congr 1
    apply List.filter_congr
    intro l _
    exact Bool.eq_iff_iff.2 (by simp)
  cases r with
  | none => rw [LeaseTable.activities_none, hleases]; simp
  | some a => rw [LeaseTable.count_activities_some, LeaseTable.activities_none, hleases]; simp

/-- **The lease containers agree in every state of every run.** -/
theorem lease_accounting {t : List HostEvent} {s : Host} (h : Run HostStep {} t s) :
    -- the counters count the leases and the acquisition in progress
    (∀ d, (s.table.registry.state d).control = (s.table.leasesOf d false).length +
          (if s.dispatch.reservation = some (d, false) then 1 else 0) ∧
        (s.table.registry.state d).media = (s.table.leasesOf d true).length +
          if s.dispatch.reservation = some (d, true) then 1 else 0) ∧
      -- the flag is that of the unreleased handles, and excludes other leases
      (∀ d, (s.table.registry.state d).maintenance = true ↔
        ∃ i lease, (s.table.handles i).state = some lease ∧ lease.released = false ∧
          lease.deviceId = d) ∧
      (∀ d, (s.table.registry.state d).maintenance = true →
        (s.table.registry.state d).control = 0 ∧ (s.table.registry.state d).media = 0) ∧
      -- one media lease a device, which is its owner
      (∀ d, (s.table.leasesOf d true).length ≤ 1) ∧
      (∀ d sessionId, s.table.mediaOwner d = some sessionId ↔
        ∃ l ∈ s.table.leasesOf d true, l.sessionId = sessionId) ∧
      -- a granted maintenance lease is released once, or a handle still holds it
      (releasedTickets t).Nodup ∧
      (∀ k < s.table.granted, k ∈ releasedTickets t ↔
        ¬ ∃ i lease f, (s.table.handles i).state = some lease ∧ lease.release = some f ∧
          f.ticket = k) ∧
      -- acquisitions that fail
      (∀ s₁ request mid e s₂, Run HostStep s₁ (.acquireBegan request :: mid ++ [e]) s₂ →
        (∀ e' ∈ mid, e'.endsAcquire = false) → e.failsAcquire = true →
        SameLeases s₁.table none (mid.flatMap HostEvent.releases) s₂.table) ∧
      (∀ s₁ lease s₂, s₁.dispatch = .idle → HostStep s₁ (.acquireReturned lease) s₂ → s₂ = s₁) ∧
      (∀ s₁ reason s₂, HostStep s₁ (.maintenanceRefused reason) s₂ → s₂.table = s₁.table) := by
  obtain ⟨hi, hk⟩ := tableInv_of_run h
  have hcount (d : String) (m : Bool) := (hi.counters d m).trans (count_activities _ _ d m)
  have hholds {i : ℕ} {lease : MaintenanceLeaseState MaintenanceRelease}
      (hs : (s.table.handles i).state = some lease) :
      ∃ f, s.table.Holds i f ∧ lease = { deviceId := f.deviceId, release := some f } := by
    obtain ⟨f, hf, -⟩ := hi.handles i (by rw [hs]; simp)
    exact ⟨f, hf, Option.some.inj (hs.symm.trans hf)⟩
  refine ⟨fun d => ⟨hcount d false, hcount d true⟩, fun d => ?_,
    fun d hd => DeviceLeases.idle_iff.1 (hi.exclusive d hd), fun d => ?_, fun d sessionId => ?_,
    hk.once, fun k hlt => ?_, fun s₁ request mid e s₂ h hmid he => failed_acquire_same h hmid he,
    fun s₁ lease s₂ hd hstep => ?_, fun s₁ reason s₂ hstep => ?_⟩
  · rw [hi.flags]
    constructor
    · rintro ⟨i, f, hf, rfl⟩
      exact ⟨i, _, hf, rfl, rfl⟩
    · rintro ⟨i, lease, hs, -, rfl⟩
      obtain ⟨f, hf, rfl⟩ := hholds hs
      exact ⟨i, f, hf, rfl⟩
  · rcases hl : s.table.leasesOf d true with _ | ⟨a, _ | ⟨b, rest⟩⟩
    · simp
    · simp
    · -- two media leases of a device would both be its owner
      have hnodup : (s.table.leasesOf d true).Nodup := (List.Nodup.of_map _ hi.sessions).filter _
      have hmem : ∀ l ∈ s.table.leasesOf d true,
          l ∈ s.table.leases ∧ s.table.mediaOwner d = some l.sessionId := by
        intro l hl
        obtain ⟨hl, hd, hm⟩ : l ∈ s.table.leases ∧ l.deviceId = d ∧ l.media = true := by
          simpa [LeaseTable.leasesOf] using hl
        exact ⟨hl, (hi.owners d _).2 ⟨l, hl, rfl, hd, hm⟩⟩
      rw [hl] at hnodup hmem
      obtain ⟨ha, hoa⟩ := hmem a (by simp)
      obtain ⟨hb, hob⟩ := hmem b (by simp)
      have hab := hi.sessions.eq ha hb (Option.some.inj (hoa.symm.trans hob))
      simp [hab] at hnodup
  · rw [hi.owners]
    simp only [LeaseTable.leasesOf, List.mem_filter, decide_eq_true_eq]
    constructor
    · rintro ⟨l, hl, hid, hd, hm⟩
      exact ⟨l, ⟨hl, hd, hm⟩, hid⟩
    · rintro ⟨l, ⟨hl, hd, hm⟩, hid⟩
      exact ⟨l, hl, hid, hd, hm⟩
  · constructor
    · rintro hmem ⟨i, lease, f, hs, hf, rfl⟩
      obtain ⟨f', hf', rfl⟩ := hholds hs
      obtain rfl := Option.some.inj hf
      exact hk.unreleased i f' hf' hmem
    · intro hnot
      rcases (hk.granted k).1 hlt with hmem | ⟨i, f, hf, hticket⟩
      · exact hmem
      · exact absurd ⟨i, _, f, hf, rfl, hticket⟩ hnot
  · generalize he : HostEvent.acquireReturned lease = e at hstep
    cases hstep with
    | acquireRefused => rfl
    | acquireBusy hd' | acquireOpenFailed hd' | acquireRejected hd' | acquireGranted hd'
    | acquireBind hd' | acquireUnbound hd' => rw [hd] at hd'; cases hd'
    | _ => cases he
  · generalize he : HostEvent.maintenanceRefused reason = e at hstep
    cases hstep with
    | maintenanceRefused | maintenanceBusy => rfl
    | _ => cases he

/-- Two acquisitions of a device: one has its lease, the other its
    reservation. -/
theorem lease_accounting_in_progress :
    ∃ t s, Run HostStep {} t s ∧ s.dispatch.reservation = some ("d1", false) ∧
      (s.table.leasesOf "d1" false).length = 1 ∧
      (s.table.registry.state "d1").control = 2 := by
  have h := Run.one (HostStep.startTake (s := {}) rfl)
  have h := h.snoc (.startReset rfl)
  have h := h.snoc (.startOpen rfl [{ id := "d1", adapter := "mock" }] [] none)
  have h := h.snoc (.acquireBegin { deviceId := "d1" } rfl rfl)
  have h := h.snoc (.acquireReserve rfl rfl)
  have h := h.snoc (.acquireGranted rfl rfl rfl)
  have h := h.snoc (.acquireBegin { deviceId := "d1" } rfl rfl)
  have h := h.snoc (.acquireReserve rfl rfl)
  refine ⟨_, _, h, rfl, rfl, ?_⟩
  rw [((lease_accounting h).1 "d1").1]
  rfl

end Axent
