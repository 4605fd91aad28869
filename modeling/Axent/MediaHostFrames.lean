/-
  The frames that reach the sinks and consumers of a session.

  Frames are published to the outlets that are listed for the lease of their
  device (`Listed`).  An outlet is listed as long as its lease is there and its
  client keeps it; after the lease `release_session` shuts it before it returns.
  Since the outlets are gates, all frames that come out of one were stamped with
  its session, and none comes out after the release.  The release does not wait
  for a subscription whose destructor is running.
-/
import Axent.HostSessions
import Axent.MediaHost

namespace Axent

open Lib Function

/-! ## Leases -/

theorem LeaseTable.leases_release (t : LeaseTable) (sessionId : String) :
    (t.release sessionId).leases = t.leases.filter fun l => l.sessionId ≠ sessionId := by
  unfold LeaseTable.release
  cases hl : t.lookup sessionId with
  | none =>
    refine (List.filter_eq_self.2 fun l hm => decide_eq_true ?_).symm
    exact lookup_eq_none.1 hl l hm
  | some l => rfl

/-- What a step does to the session leases: nothing, or it opens the next one or
    releases one. -/
inductive LeaseStep (t : LeaseTable) (e : HostEvent) (t' : LeaseTable) : Prop
  | keep (hl : t'.leases = t.leases) (hn : t'.nextId = t.nextId)
  | opened (lease : SessionLease) (hl : t'.leases = t.leases ++ [lease])
      (hi : lease.sessionId = sessionName t.nextId) (hn : t'.nextId = t.nextId + 1)
  | released (sessionId : String) (he : e = .releaseBegan sessionId)
      (hl : t'.leases = t.leases.filter fun l => l.sessionId ≠ sessionId)
      (hn : t'.nextId = t.nextId)

theorem HostStep.leases {s s' : Host} {e : HostEvent} (h : HostStep s e s')
    (hi : TableInv s.table s.dispatch.reservation) (hr : e ≠ .reset) :
    LeaseStep s.table e s'.table := by
  cases h with
  | startReset | stopReset => exact absurd rfl hr
  | acquireGranted | acquireGrantedMedia =>
    exact .opened _ (hi.leases_openSession _) rfl rfl
  | acquireReserve hd hc =>
    have hsame := (SameLeases.refl s.table).reserve hc
    exact .keep hsame.leases hsame.nextId
  | maintenanceGranted hd hh hc =>
    obtain ⟨g, -, rfl⟩ := grantMaintenance_ok hc
    exact .keep rfl rfl
  | callHandle call hc =>
    obtain ⟨hleases, -, hnext, -⟩ := callHandle_registry s.table call
    exact .keep hleases hnext
  | releaseTake hd sessionId =>
    exact .released sessionId rfl (s.table.leases_release sessionId)
      (s.table.nextId_release sessionId)
  | _ => exact .keep rfl rfl

section
variable {t t' : LeaseTable} {e : HostEvent} {lease : SessionLease} {sessionId : String}

theorem LeaseStep.lookup (h : LeaseStep t e t') (hd : Distinct SessionLease.sessionId t'.leases)
    (hl : t.lookup sessionId = some lease) (he : e ≠ .releaseBegan sessionId) :
    t'.lookup sessionId = some lease := by
  obtain ⟨hmem, hid⟩ := lookup_mem hl
  refine hd.lookup_iff.2 ⟨?_, hid⟩
  cases h with
  | keep h => rwa [h]
  | opened l h => rw [h]; exact List.mem_append_left _ hmem
  | released id he' h =>
    rw [h]
    refine List.mem_filter.2 ⟨hmem, decide_eq_true fun heq => he ?_⟩
    rw [he', ← heq, hid]

/-- A session id that was given away before. -/
def LeaseTable.Named (t : LeaseTable) (sessionId : String) : Prop :=
  ∃ n < t.nextId, sessionId = sessionName n

theorem LeaseStep.named (h : LeaseStep t e t') (hn : t.Named sessionId) : t'.Named sessionId := by
  obtain ⟨n, hn, rfl⟩ := hn
  cases h with
  | keep _ h | released _ _ _ h => exact ⟨n, h ▸ hn, rfl⟩
  | opened _ _ _ h => exact ⟨n, by omega, rfl⟩

theorem LeaseStep.gone (h : LeaseStep t e t') (hn : t.Named sessionId)
    (hl : t.lookup sessionId = none) : t'.lookup sessionId = none := by
  unfold LeaseTable.lookup at hl ⊢
  rw [lookup_eq_none] at hl ⊢
  cases h with
  | keep h => rwa [h]
  | opened l h hi =>
    rw [h]
    intro a ha
    rcases List.mem_append.1 ha with ha | ha
    · exact hl a ha
    · obtain ⟨n, hn, rfl⟩ := hn
      rw [List.mem_singleton.1 ha, hi, Ne, sessionName_inj]
      omega
  | released id _ h =>
    rw [h]
    exact fun a ha => hl a (List.mem_filter.1 ha).1

end

/-! ## Outlets and their leases -/

/-- The session that a `release_session` in progress ends. -/
def Dispatch.releases : Dispatch → Option String
  | releasing sessionId _ _ _ => some sessionId
  | _ => none

/-- The host part of an event. -/
def HostMediaEvent.hostEvent : HostMediaEvent → Option HostEvent
  | host e => some e
  | _ => none

/-- The outlet that a call returns, and its lease. -/
def HostMediaEvent.creates : HostMediaEvent → Option (ℕ × SessionLease)
  | consumer k lease | subscribed k lease | streamSubscribed k lease => some (k, lease)
  | _ => none

/-- The outlet hands a frame to its sink or its consumer. -/
def HostMediaEvent.Hands (e : HostMediaEvent) (k : ℕ) (f : MediaFrame) : Prop :=
  ∃ e', e = .outlet k e' ∧ e'.Hands f

/-- The adapter published the frame for the lease, with its session. -/
def Stamped (t : List HostMediaEvent) (lease : SessionLease) (f : MediaFrame) : Prop :=
  ∃ frame, .framePublished lease.deviceId frame ∈ t ∧ frame.sessionId = lease.sessionId ∧
    MediaFrame.Marked { frame with deviceId := lease.deviceId } f

theorem Stamped.mono {t t' : List HostMediaEvent} {lease : SessionLease} {f : MediaFrame}
    (h : Stamped t lease f) (ht : ∀ e ∈ t, e ∈ t') : Stamped t' lease f := by
  obtain ⟨frame, hp, hf⟩ := h
  exact ⟨frame, ht _ hp, hf⟩

theorem Stamped.marked {t : List HostMediaEvent} {lease : SessionLease} {f f' : MediaFrame}
    (hm : f.Marked f') (h : Stamped t lease f) : Stamped t lease f' := by
  obtain ⟨frame, hp, hs, hf⟩ := h
  exact ⟨frame, hp, hs, hf.trans hm⟩

namespace MediaHost

/-- The outlet is filed under the session. -/
def Listed (s : MediaHost) (sessionId : String) (k : ℕ) : Prop :=
  s.relays sessionId = some k ∨ k ∈ s.subscriptions sessionId ∨
    k ∈ s.streamSubscriptions sessionId

theorem mediaLease_eq {s : MediaHost} {sessionId : String} {lease : SessionLease} :
    s.mediaLease sessionId = some lease ↔
      s.host.table.lookup sessionId = some lease ∧ lease.media = true :=
  Option.filter_eq_some_iff

theorem sessionId_of_mediaLease {s : MediaHost} {sessionId : String} {lease : SessionLease}
    (h : s.mediaLease sessionId = some lease) : lease.sessionId = sessionId :=
  (lookup_mem (mediaLease_eq.1 h).1).2

theorem lease_modify {outlets : List (SessionLease × Outlet)} {k j : ℕ} {lease : SessionLease}
    {o : Outlet} (g : Outlet → Outlet) (h : outlets[j]? = some (lease, o)) :
    ∃ o', (outlets.modify k fun p => (p.1, g p.2))[j]? = some (lease, o') := by
  rw [List.getElem?_modify, h]
  rcases eq_or_ne k j with rfl | hne
  · exact ⟨g o, by simp⟩
  · exact ⟨o, by simp [hne]⟩

end MediaHost

/-- What is known about the leases. -/
structure LeaseInv (t : List HostMediaEvent) (s : MediaHost) : Prop where
  table : TableInv s.host.table s.host.dispatch.reservation
  opened : s.host.dispatch.Opened
  named : ∀ id ∈ acquiredIds (t.filterMap (·.hostEvent)) ++ s.host.dispatch.openId,
    s.host.table.Named id
  released : ∀ id, s.host.dispatch.releases = some id → s.host.table.lookup id = none

/-- What is known about the outlets: each is listed for its lease, about to be
    shut, shut, or dropped by its client, and holds only frames that were stamped for it. -/
structure OutletInv (t : List HostMediaEvent) (s : MediaHost) : Prop where
  created : ∀ e ∈ t, ∀ (k : ℕ) lease, e.creates = some (k, lease) →
    ∃ o, s.outlets[k]? = some (lease, o)
  listed : ∀ id k, s.Listed id k → ∃ lease o, s.outlets[k]? = some (lease, o) ∧
    s.mediaLease id = some lease
  relay : ∀ id k, s.relays id = some k → ∃ lease r, s.outlets[k]? = some (lease, .relay r)
  owned : ∀ (k : ℕ) lease o, s.outlets[k]? = some (lease, o) →
    s.Listed lease.sessionId k ∨
      (k ∈ s.closing ∧ s.host.dispatch.releases = some lease.sessionId) ∨
        Outlet.gate.Shut o ∨ .expired k ∈ t
  cancelled : ∀ k : ℕ, .cancelled k ∈ t →
    ∃ lease o, s.outlets[k]? = some (lease, o) ∧ Outlet.gate.Shut o
  held : ∀ (k : ℕ) lease o, s.outlets[k]? = some (lease, o) →
    Outlet.gate.Ok o ∧ ∀ f, Outlet.gate.Holds o f → Stamped t lease f
  deliveries : ∀ n, ∀ d ∈ s.deliveries n, ∀ (k : ℕ) f, d = .frame k f →
    ∃ lease o, s.outlets[k]? = some (lease, o) ∧ Stamped t lease f

section
variable {t : List HostMediaEvent} {s s' : MediaHost} {e : HostMediaEvent}

theorem LeaseInv.snoc (hi : LeaseInv t s) (he : e.hostEvent = none) : LeaseInv (t ++ [e]) s := by
  refine ⟨hi.table, hi.opened, ?_, hi.released⟩
  rw [filterMap_concat, he, Option.toList_none, List.append_nil]
  exact hi.named

/-! ## The calls on an outlet -/

theorem OutletEvent.IsFree.not_puts {e : OutletEvent} (h : e.IsFree) (f : MediaFrame) :
    ¬ e.Puts f := by
  cases e with
  | relay e =>
    obtain ⟨frame, rfl⟩ := h
    rintro ⟨⟩
  | frames e =>
    rintro ⟨thread, rfl⟩
    exact h thread f rfl
  | streams e =>
    rintro ⟨thread, queued, rfl⟩
    exact absurd (h thread _ queued rfl) Bool.false_ne_true

/-- A call of a publishing thread puts in the frame that it was given. -/
theorem Delivery.Calls.puts {n : ℕ} {d : Delivery} {e : OutletEvent} {f : MediaFrame}
    (h : d.Calls n e) (hf : e.Puts f) : d = .frame d.outlet f := by
  cases d with
  | frame k g =>
    cases e with
    | relay e =>
      cases h
      cases hf
      rfl
    | frames e =>
      obtain ⟨thread, rfl⟩ := hf
      cases h
      rfl
    | streams e =>
      obtain ⟨queued, rfl⟩ := h
      obtain ⟨thread, queued', heq⟩ := hf
      cases heq
      rfl
  | event k ev =>
    cases e with
    | relay | frames => exact absurd h id
    | streams e =>
      obtain ⟨queued, rfl⟩ := h
      obtain ⟨thread, queued', heq⟩ := hf
      cases heq

theorem OutletEvent.ReleaseReturned.shuts {n : ℕ} {e : OutletEvent} {o : Outlet}
    (h : e.ReleaseReturned n o) : e.Shuts o ∧ ∀ f, ¬ e.Puts f := by
  cases e with
  | relay e => exact absurd h id
  | frames e =>
    cases o with
    | relay | streams => exact absurd h id
    | frames s =>
      obtain ⟨rfl, hout⟩ := h
      exact ⟨⟨_, rfl, hout⟩, by rintro f ⟨thread, ⟨⟩⟩⟩
  | streams e =>
    cases o with
    | relay | frames => exact absurd h id
    | streams s =>
      obtain ⟨⟨own, rfl⟩, hout⟩ := h
      refine ⟨⟨_, _, _, rfl, ?_⟩, by rintro f ⟨thread, queued, ⟨⟩⟩⟩
      rintro ⟨a, ha, -⟩
      rw [hout] at ha
      cases ha

end

namespace MediaStream
variable {options : MediaSubscriptionOptions} {n : ℕ} {descriptors : List MediaStreamDescriptor}

/-- One event of `prime_opened`, from the call to its return. -/
theorem prime_step (c : Core) (n : ℕ) (event : MediaStreamEvent) :
    ∃ queued, Run SubscriptionStep { core := c }
      [.entered (.client n) (.primeStreamEvent event) queued,
        .returned (.client n) (.primeStreamEvent event) none]
      { core := (c.publishStreamEvent (.client n) true event).core } := by
  have hp := c.publishStreamEvent_spec (.client n) true event
  have hnone : (c.publishStreamEvent (.client n) true event).completion = none := by
    rcases hp.pushed with h | ⟨bodies, -, h⟩
    · rw [h]
    · generalize (c.publishStreamEvent (.client n) true event).core.completions = m at h
      generalize (c.publishStreamEvent (.client n) true event).queued = q at h
      generalize (c.publishStreamEvent (.client n) true event).completion = b at h
      cases h with
      | owned _ hp => cases hp
      | free => rfl
  have henter : Subscription.enter { core := c } (.client n) (.primeStreamEvent event) =
      Subscription.setThread { core := c } (.client n)
        (c.publishStreamEvent (.client n) true event).core
        [.leave (.primeStreamEvent event) none] := by
    rw [Subscription.enter, entered_of_eq hp.same.workers]
    simp only [Core.enter, Core.Published.entered, hnone]
  have hleave : Subscription.setThread (Subscription.setThread { core := c } (.client n)
      (c.publishStreamEvent (.client n) true event).core
      [.leave (.primeStreamEvent event) none]) (.client n)
      (c.publishStreamEvent (.client n) true event).core [] =
      { core := (c.publishStreamEvent (.client n) true event).core } := by
    simp only [Subscription.setThread, update_idem, update_eq_self]
  have h := Run.one (SubscriptionStep.enter { core := c } (.client n) (.primeStreamEvent event) rfl)
  rw [henter] at h
  have h' := h.snoc (@.leave _ (.client n) (.primeStreamEvent event) none []
    (by simp))
  rw [setThread_core, hleave] at h'
  exact ⟨_, h'⟩

/-- A primed subscription is one that was reached by its calls. -/
theorem primed_run (options : MediaSubscriptionOptions) (n : ℕ)
    (descriptors : List MediaStreamDescriptor) :
    ∃ t, Run SubscriptionStep (Subscription.start options) t
        (.primed options (.client n) descriptors) ∧
      ∀ thread f queued, .entered thread (.publishFrame f) queued ∉ t := by
  induction descriptors using List.reverseRecOn with
  | nil => exact ⟨[], .nil, by simp⟩
  | append_singleton l d ih =>
    obtain ⟨t, h, ht⟩ := ih
    obtain ⟨queued, h'⟩ := prime_step (Subscription.primed options (.client n) l).core n
      { kind := .opened, descriptor := d, reason := .snapshot }
    have hcore : Subscription.primed options (.client n) (l ++ [d]) =
        { core := ((Subscription.primed options (.client n) l).core.publishStreamEvent (.client n)
            true { kind := .opened, descriptor := d, reason := .snapshot }).core } := by
      simp only [Subscription.primed, List.foldl_append, List.foldl_cons, List.foldl_nil]
    rw [hcore]
    refine ⟨_, h.trans h', fun thread f queued hmem => ?_⟩
    rcases List.mem_append.1 hmem with hmem | hmem
    · exact ht thread f queued hmem
    · simp at hmem

theorem primed_empty (options : MediaSubscriptionOptions) (n : ℕ)
    (descriptors : List MediaStreamDescriptor) :
    BarrierInv (.primed options (.client n) descriptors) ∧
      ∀ f, ¬ (Subscription.primed options (.client n) descriptors).Holds f := by
  obtain ⟨t, h, ht⟩ := primed_run options n descriptors
  refine ⟨run_barrier h, ?_⟩
  refine (h.inv (I := fun t s => BarrierInv s ∧
    ((∀ thread f queued, .entered thread (.publishFrame f) queued ∉ t) → ∀ f, ¬ s.Holds f))
    ⟨start_barrier options, ?_⟩ ?_).2 ht
  · rintro - f ⟨i, hi, -⟩
    cases hi
  · rintro t s e s' ⟨hb, hempty⟩ hstep
    refine ⟨hstep.barrier hb, fun ht f hf => ?_⟩
    have hold := hempty fun thread f queued hmem =>
      ht thread f queued (List.mem_append_left _ hmem)
    refine gate.inside (P := fun _ => False) (fun _ h => h) hb hstep (fun f hf => hold f hf) ?_ f hf
    rintro f ⟨thread, queued, rfl⟩
    exact ht thread f queued (List.mem_append_right _ (List.mem_singleton.2 rfl))

end MediaStream

/-! ## Steps of the host -/

section
variable {t : List HostMediaEvent} {s s' : MediaHost} {h h' : Host} {e : HostEvent}
  {id : String} {k : ℕ}

theorem HostStep.releasing (hs : HostStep h e h') (hd : h.dispatch.releases = some id) :
    h'.table.leases = h.table.leases ∧
      (h'.dispatch.releases = some id ∨
        h.dispatch.atSubscriptions = true ∧ h'.dispatch = .idle) := by
  cases hs with
  | releaseCancel hd' | releaseUnbind hd' | releaseReset hd' =>
    rw [hd'] at hd
    exact ⟨rfl, .inl hd⟩
  | releaseReturn hd' => exact ⟨rfl, .inr ⟨by rw [hd']; rfl, rfl⟩⟩
  | callHandle call hc => exact ⟨(callHandle_registry h.table call).1, .inl hd⟩
  | upsertDevice | stopNothing hd' | callInvalid | callBusy | operationCalled | operationDropped
  | operationExpired => exact ⟨rfl, .inl hd⟩
  | _ => simp_all [Dispatch.releases]

theorem HostStep.releases_of (hs : HostStep h e h') (hd : h'.dispatch.releases = some id) :
    h.dispatch.releases = some id ∨ e = .releaseBegan id := by
  cases hs with
  | releaseTake _ sessionId =>
    cases hd
    exact .inr rfl
  | releaseCancel hd' | releaseUnbind hd' | releaseReset hd' =>
    rw [hd']
    exact .inl hd
  | callHandle | upsertDevice | stopNothing | acquireRefused | maintenanceRefused | callInvalid
  | callBusy | callRefused | operationCalled | operationDropped | operationExpired =>
    exact .inl hd
  | _ => cases hd

theorem HostStep.releaseBegan_spec (hs : HostStep h (.releaseBegan id) h') :
    h.dispatch = .idle ∧ h'.table = h.table.release id ∧ h'.dispatch.releases = some id := by
  cases hs with
  | releaseTake hd => exact ⟨hd, rfl, rfl⟩

theorem LeaseTable.lookup_release (t : LeaseTable) (sessionId : String) :
    (t.release sessionId).lookup sessionId = none := by
  unfold LeaseTable.lookup
  rw [lookup_eq_none, leases_release]
  exact fun a ha => of_decide_eq_true (List.mem_filter.1 ha).2

theorem acquiredIds_snoc (t : List HostMediaEvent) (e : HostEvent) :
    acquiredIds ((t ++ [HostMediaEvent.host e]).filterMap HostMediaEvent.hostEvent) =
      acquiredIds (t.filterMap (·.hostEvent)) ++ acquiredIds [e] := by
  rw [filterMap_concat, ← acquiredIds_append]
  rfl

theorem LeaseInv.host (hi : LeaseInv t s) (hs : HostStep s.host e h') (hr : e ≠ .reset)
    (hhost : s'.host = h') : LeaseInv (t ++ [.host e]) s' := by
  subst hhost
  have hleases := hs.leases hi.table hr
  refine ⟨hs.table.inv hi.table, hs.opened hi.opened, fun id hid => ?_, fun id hid => ?_⟩
  · rw [acquiredIds_snoc, List.append_assoc, List.mem_append] at hid
    have hold (hid : id ∈ acquiredIds (t.filterMap (·.hostEvent)) ++ s.host.dispatch.openId) :=
      hleases.named (hi.named id hid)
    rcases hid with hid | hid
    · exact hold (List.mem_append_left _ hid)
    · cases hs.sessions hi.opened with
      | none _ _ hids => exact hold (List.mem_append_right _ (hids ▸ hid))
      | next hn _ _ hids =>
        rw [hids, List.mem_singleton] at hid
        exact ⟨_, hn ▸ Nat.lt_succ_self _, hid⟩
      | reset _ he => exact absurd he hr
  · rcases hs.releases_of hid with hold | rfl
    · have hnone := hi.released id hold
      unfold LeaseTable.lookup at hnone ⊢
      rw [(hs.releasing hold).1]
      exact hnone
    · rw [hs.releaseBegan_spec.2.1]
      exact s.host.table.lookup_release id

/-! ## What a step does to the outlets -/

theorem mem_update_append {α : Type*} {f : ℕ → List α} {n m : ℕ} {l : List α} {x : α}
    (h : x ∈ update f n (l ++ f n) m) : m = n ∧ x ∈ l ∨ x ∈ f m := by
  rcases eq_or_ne m n with rfl | hne
  · rw [update_self] at h
    exact (List.mem_append.1 h).imp_left fun h => ⟨rfl, h⟩
  · rw [update_of_ne hne] at h
    exact .inr h

theorem mem_update_tail {α : Type*} {f : ℕ → List α} {n m : ℕ} {l : List α} {x y : α}
    (hf : f n = y :: l) (h : x ∈ update f n l m) : x ∈ f m := by
  rcases eq_or_ne m n with rfl | hne
  · rw [update_self] at h
    exact hf ▸ List.mem_cons_of_mem _ h
  · rwa [update_of_ne hne] at h

theorem mem_activeOf {l : List ℕ} (h : k ∈ s.activeOf l) : k ∈ l := (List.mem_filter.1 h).1

/-- The frame of a publishing call goes to outlets of the lease that owns the
    media of the device, and has its session. -/
theorem captureFrame_spec {deviceId : String} {frame frame' : MediaFrame} {targets : List ℕ}
    (h : s.captureFrame deviceId frame = some (targets, frame')) :
    ∃ lease, s.mediaOwner deviceId = some lease ∧ frame.sessionId = lease.sessionId ∧
      frame' = { frame with deviceId := deviceId } ∧
      ∀ k ∈ targets, s.Listed lease.sessionId k := by
  unfold MediaHost.captureFrame at h
  cases ho : s.mediaOwner deviceId with
  | none => rw [ho] at h; cases h
  | some lease =>
    simp only [ho] at h
    split_ifs at h with hf hn
    cases h
    push Not at hf
    refine ⟨lease, rfl, hf.2, rfl, fun k hk => ?_⟩
    simp only [List.mem_append, Option.mem_toList] at hk
    rcases hk with (hk | hk) | hk
    · exact .inl hk
    · exact .inr (.inl (mem_activeOf hk))
    · exact .inr (.inr (mem_activeOf hk))

theorem LeaseInv.mediaOwner (hl : LeaseInv t s) {deviceId : String} {lease : SessionLease}
    (h : s.mediaOwner deviceId = some lease) :
    s.mediaLease lease.sessionId = some lease ∧ lease.deviceId = deviceId := by
  obtain ⟨id, hid, hlease⟩ := Option.bind_eq_some_iff.1 h
  obtain rfl := MediaHost.sessionId_of_mediaLease hlease
  refine ⟨hlease, ?_⟩
  obtain ⟨l, hl', hsession, hdevice, -⟩ := (hl.table.owners deviceId lease.sessionId).1 hid
  have hlookup := hl.table.sessions.lookup_iff.2 ⟨hl', hsession⟩
  have heq := (MediaHost.mediaLease_eq.1 hlease).1
  rw [LeaseTable.lookup, hlookup] at heq
  cases heq
  exact hdevice

@[simp] theorem publishStreamEvent_same (n : ℕ) (event : MediaStreamEvent) :
    (s.publishStreamEvent n id event).host = s.host ∧
      (s.publishStreamEvent n id event).outlets = s.outlets ∧
      (s.publishStreamEvent n id event).relays = s.relays ∧
      (s.publishStreamEvent n id event).subscriptions = s.subscriptions ∧
      (s.publishStreamEvent n id event).streamSubscriptions = s.streamSubscriptions ∧
      (s.publishStreamEvent n id event).closing = s.closing := by
  unfold MediaHost.publishStreamEvent
  cases s.mediaLease id with
  | none => simp
  | some lease =>
    dsimp only
    split_ifs
    · simp
    cases MediaHost.lifecycle (s.activeMediaStreams lease.sessionId)
      (MediaHost.stamp lease event) <;> simp

theorem frame_of_publishStreamEvent {n m : ℕ} {event : MediaStreamEvent} {f : MediaFrame}
    (h : .frame k f ∈ (s.publishStreamEvent n id event).deliveries m) :
    .frame k f ∈ s.deliveries m := by
  unfold MediaHost.publishStreamEvent at h
  cases hlease : s.mediaLease id with
  | none => rwa [hlease] at h
  | some lease =>
    simp only [hlease] at h
    split_ifs at h
    · exact h
    cases hl : MediaHost.lifecycle (s.activeMediaStreams lease.sessionId)
        (MediaHost.stamp lease event) with
    | none => rwa [hl] at h
    | some r =>
      rw [hl] at h
      rcases mem_update_append h with ⟨-, h⟩ | h
      · obtain ⟨ev, -, h⟩ := List.mem_flatMap.1 h
        obtain ⟨j, -, heq⟩ := List.mem_map.1 h
        cases heq
      · exact h

theorem LeaseInv.of_host (hl : LeaseInv t s) (hhost : s'.host = s.host) : LeaseInv t s' := by
  obtain ⟨htable, hopened, hnamed, hreleased⟩ := hl
  rw [← hhost] at htable hopened hnamed hreleased
  exact ⟨htable, hopened, hnamed, hreleased⟩

end

section
variable {t : List HostMediaEvent} {s s' : MediaHost} {e : HostMediaEvent} {k : ℕ}
  {id sessionId : String} {lease : SessionLease} {o o' : Outlet}

theorem OutletInv.of_release (hi : OutletInv t s) {n : ℕ} {h' : Host}
    (h : (s.release n id h').outlets[k]? = some (lease, o')) :
    s.outlets[k]? = some (lease, o') ∧ s.relays id ≠ some k ∨
      ∃ o, s.outlets[k]? = some (lease, o) ∧ OutletStep o (.relay .closed) o' := by
  unfold MediaHost.release at h
  dsimp only at h
  cases hr : s.relays id with
  | none =>
    rw [hr] at h
    exact .inl ⟨h, by rintro ⟨⟩⟩
  | some j =>
    rw [hr] at h
    obtain ⟨p, hp, ⟨rfl, heq⟩ | ⟨hne, rfl⟩⟩ := getElem?_modify_cases h
    · obtain ⟨l, r, hrelay⟩ := hi.relay id k hr
      cases hp.symm.trans hrelay
      cases heq
      exact .inr ⟨_, hrelay, .relay (.close r)⟩
    · exact .inl ⟨hp, by simpa using hne.symm⟩

/-- What a step does to the outlet `k`: it stays, makes a step of its own, or is
    new and holds nothing. -/
inductive OutletMove (t : List HostMediaEvent) (s : MediaHost) (e : HostMediaEvent) (k : ℕ)
    (lease : SessionLease) (o' : Outlet) : Prop
  | keep (hk : s.outlets[k]? = some (lease, o'))
  | step {o : Outlet} {e' : OutletEvent} (hk : s.outlets[k]? = some (lease, o))
      (h : OutletStep o e' o') (hputs : ∀ f, e'.Puts f → Stamped t lease f)
      (he : e = .outlet k e' ∨ e' = .relay .closed ∨ e'.IsFree)
  | new (hk : s.outlets[k]? = none) (he : e.creates = some (k, lease)) (hok : Outlet.gate.Ok o')
      (hempty : ∀ f, ¬ Outlet.gate.Holds o' f)

theorem MediaHostStep.outletMove (h : MediaHostStep s e s') (hi : OutletInv t s)
    (hk : s'.outlets[k]? = some (lease, o')) : OutletMove t s e k lease o' := by
  have hset {j : ℕ} {l : SessionLease} {q q' : Outlet} {e' : OutletEvent}
      (hq : s.outlets[j]? = some (l, q)) (hs : OutletStep q e' q')
      (hputs : ∀ f, e'.Puts f → Stamped t l f)
      (he : e = .outlet j e' ∨ e'.IsFree)
      (hk : (s.setOutlet j q').outlets[k]? = some (lease, o')) : OutletMove t s e k lease o' := by
    obtain ⟨p, hp, ⟨rfl, heq⟩ | ⟨-, rfl⟩⟩ := getElem?_modify_cases hk
    · cases hq.symm.trans hp
      cases heq
      exact .step hq hs hputs (he.imp_right .inr)
    · exact .keep hp
  have hadd {l : SessionLease} {q : Outlet}
      (hk : (s.outlets ++ [(l, q)])[k]? = some (lease, o'))
      (he : e.creates = some (s.outlets.length, l)) (hok : Outlet.gate.Ok q)
      (hempty : ∀ f, ¬ Outlet.gate.Holds q f) : OutletMove t s e k lease o' := by
    rcases getElem?_concat_cases hk with hk | ⟨rfl, heq⟩
    · exact .keep hk
    · cases heq
      exact .new (by simp) he hok hempty
  cases h with
  | release n hs =>
    rcases hi.of_release hk with ⟨hk, -⟩ | ⟨o, hk, hclose⟩
    · exact .keep hk
    · exact .step hk hclose (by rintro f ⟨⟩) (.inr (.inl rfl))
  | closeReturned _ _ hq hs he =>
    exact hset hq hs (fun f hf => absurd hf (he.shuts.2 f)) (.inl rfl) hk
  | activate _ hq hs => exact hset hq hs (by rintro f ⟨thread, queued, ⟨⟩⟩) (.inl rfl) hk
  | @deliver n d rest l q q' e' hd hq hs he =>
    refine hset hq hs (fun f hf => ?_) (.inl rfl) hk
    obtain ⟨l', q₁, hq₁, hstamp⟩ := hi.deliveries n d (hd ▸ List.mem_cons_self) _ f (he.puts hf)
    rw [hq] at hq₁
    cases hq₁
    exact hstamp
  | outlet hq hs he | cancelled hq hs he =>
    exact hset hq hs (fun f hf => absurd hf (he.not_puts f)) (.inr he) hk
  | createConsumer options hl => exact hadd hk rfl (fun _ => rfl) (by rintro f ⟨⟩)
  | subscribeMedia options hl =>
    exact hadd hk rfl (MediaSubscription.start_inv options) (MediaSubscription.start_empty options)
  | subscribeMediaStream n options hl =>
    have hprimed := MediaStream.primed_empty options n
    exact hadd hk rfl (hprimed _).1 (hprimed _).2
  | publishStreamEvent | publishAdapterEvent => exact .keep (by simpa using hk)
  | _ => exact .keep hk

theorem OutletMove.held (h : OutletMove t s e k lease o') (hi : OutletInv t s) :
    Outlet.gate.Ok o' ∧ ∀ f, Outlet.gate.Holds o' f → Stamped t lease f := by
  cases h with
  | keep hk => exact hi.held k lease o' hk
  | @step o e' hk h hputs =>
    obtain ⟨hok, hheld⟩ := hi.held k lease o hk
    exact ⟨Outlet.gate.ok hok h,
      Outlet.gate.inside (fun hm hs => hs.marked hm) hok h hheld hputs⟩
  | new _ _ hok hempty => exact ⟨hok, fun f hf => absurd hf (hempty f)⟩

theorem OutletMove.shut (h : OutletMove t s e k lease o') (hi : OutletInv t s)
    (hk : s.outlets[k]? = some (lease, o)) (hs : Outlet.gate.Shut o) : Outlet.gate.Shut o' := by
  cases h with
  | keep hk' =>
    cases hk.symm.trans hk'
    exact hs
  | step hk' h =>
    cases hk.symm.trans hk'
    exact Outlet.gate.shut (hi.held k lease o hk).1 h (.inl hs)
  | new hk' => cases hk.symm.trans hk'

theorem OutletMove.old_or_new (h : OutletMove t s e k lease o') :
    (∃ o, s.outlets[k]? = some (lease, o)) ∨ e.creates = some (k, lease) := by
  cases h with
  | keep hk => exact .inl ⟨_, hk⟩
  | step hk => exact .inl ⟨_, hk⟩
  | new _ he => exact .inr he

theorem MediaHostStep.keeps_lease (h : MediaHostStep s e s')
    (hk : ∃ o, s.outlets[k]? = some (lease, o)) : ∃ o, s'.outlets[k]? = some (lease, o) := by
  obtain ⟨o, hk⟩ := hk
  have hadd (p : SessionLease × Outlet) : ∃ o, (s.outlets ++ [p])[k]? = some (lease, o) :=
    ⟨o, by rw [List.getElem?_append_left (List.getElem?_eq_some_iff.1 hk).1, hk]⟩
  cases h with
  | release n hs =>
    unfold MediaHost.release
    dsimp only
    split
    · exact MediaHost.lease_modify _ hk
    · exact ⟨o, hk⟩
  | closeReturned | activate | deliver | outlet | cancelled =>
    exact MediaHost.lease_modify (fun _ => _) hk
  | createConsumer | subscribeMedia | subscribeMediaStream => exact hadd _
  | publishStreamEvent | publishAdapterEvent => exact ⟨o, by simpa using hk⟩
  | _ => exact ⟨o, hk⟩

theorem MediaHostStep.created (h : MediaHostStep s e s') (hi : OutletInv t s)
    (hc : e.creates = some (k, lease)) :
    (∃ o, s'.outlets[k]? = some (lease, o)) ∧ s.mediaLease lease.sessionId = some lease := by
  cases h with
  | createConsumer options hl | subscribeMedia options hl | subscribeMediaStream n options hl =>
    cases hc
    obtain rfl := MediaHost.sessionId_of_mediaLease hl
    exact ⟨⟨_, List.getElem?_concat_length⟩, hl⟩
  | shareRelay hl hr =>
    cases hc
    obtain rfl := MediaHost.sessionId_of_mediaLease hl
    obtain ⟨l, o, ho, hl'⟩ := hi.listed _ k (.inl hr)
    rw [hl] at hl'
    cases hl'
    exact ⟨⟨o, ho⟩, hl⟩
  | _ => cases hc

/-! ## Every step -/

theorem MediaHostStep.leases (h : MediaHostStep s e s') (hl : LeaseInv t s) :
    LeaseInv (t ++ [e]) s' := by
  cases h with
  | host hs hr => exact hl.host hs hr rfl
  | release n hs => exact hl.host hs (by rintro ⟨⟩) rfl
  | publishStreamEvent | publishAdapterEvent => exact (hl.snoc rfl).of_host (by simp)
  | _ => exact (hl.snoc rfl).of_host rfl

theorem MediaHostStep.leaseStep (h : MediaHostStep s e s') (hl : LeaseInv t s) :
    LeaseStep s.host.table (e.hostEvent.getD .internal) s'.host.table := by
  cases h with
  | host hs hr => exact hs.leases hl.table hr
  | release n hs => exact hs.leases hl.table (by rintro ⟨⟩)
  | publishStreamEvent | publishAdapterEvent => exact .keep (by simp) (by simp)
  | _ => exact .keep rfl rfl

theorem MediaHostStep.listed (h : MediaHostStep s e s') :
    s'.Listed id k ↔ s.Listed id k ∧ e ≠ .host (.releaseBegan id) ∧ e ≠ .expired k ∨
      ∃ lease, e.creates = some (k, lease) ∧ lease.sessionId = id := by
  cases h with
  | host hs hr hb => simp [MediaHost.Listed, HostMediaEvent.creates, hb id]
  | @release id' host n hs =>
    unfold MediaHost.Listed MediaHost.release
    rcases eq_or_ne id id' with rfl | hne
    · simp [HostMediaEvent.creates]
    · simp [HostMediaEvent.creates, hne, hne.symm]
  | @createConsumer sessionId lease options hl hr =>
    unfold MediaHost.Listed MediaHost.createRelay MediaHost.addOutlet
    dsimp only
    rw [update_apply]
    rcases eq_or_ne id lease.sessionId with rfl | hne
    · simp [HostMediaEvent.creates, hr, or_comm]
    · simp [HostMediaEvent.creates, hne, hne.symm]
  | @shareRelay sessionId lease j hl hr =>
    refine ⟨fun h => .inl ⟨h, by rintro ⟨⟩, by rintro ⟨⟩⟩, ?_⟩
    rintro (⟨h, -⟩ | ⟨l, heq, rfl⟩)
    · exact h
    · cases heq
      exact .inl hr
  | @subscribeMedia sessionId lease options hl =>
    unfold MediaHost.Listed MediaHost.subscribeMedia MediaHost.addOutlet
    dsimp only
    rw [update_apply]
    rcases eq_or_ne id lease.sessionId with rfl | hne
    · simp [HostMediaEvent.creates, eq_comm, or_assoc, or_comm, or_left_comm]
    · simp [HostMediaEvent.creates, hne, hne.symm]
  | @subscribeMediaStream sessionId lease n options hl =>
    unfold MediaHost.Listed MediaHost.subscribeMediaStream MediaHost.addOutlet
    dsimp only
    rw [update_apply]
    rcases eq_or_ne id lease.sessionId with rfl | hne
    · simp [HostMediaEvent.creates, eq_comm, or_comm, or_left_comm]
    · simp [HostMediaEvent.creates, hne, hne.symm]
  | @expire j hd ha hc hr =>
    rcases eq_or_ne j k with rfl | hne
    · simp [MediaHost.Listed, MediaHost.expire, HostMediaEvent.creates, hr]
    · simp [MediaHost.Listed, MediaHost.expire, HostMediaEvent.creates, hne, hne.symm]
  | _ => simp [MediaHost.Listed, MediaHost.setOutlet, HostMediaEvent.creates]

theorem MediaHostStep.relay (h : MediaHostStep s e s') (hi : OutletInv t s)
    (hk : s'.relays id = some k) : ∃ lease r, s'.outlets[k]? = some (lease, .relay r) := by
  have hold (hk : s.relays id = some k) : ∃ lease r, s'.outlets[k]? = some (lease, .relay r) := by
    obtain ⟨lease, r, hr⟩ := hi.relay id k hk
    obtain ⟨o', ho'⟩ := h.keeps_lease ⟨_, hr⟩
    cases h.outletMove hi ho' with
    | keep hk' =>
      cases hr.symm.trans hk'
      exact ⟨lease, r, ho'⟩
    | step hk' hs =>
      cases hr.symm.trans hk'
      cases hs with
      | @relay _ r' => exact ⟨lease, r', ho'⟩
    | new hk' => cases hr.symm.trans hk'
  cases h with
  | @createConsumer sessionId lease options hl hr =>
    have hrelays : (s.createRelay lease options).relays id =
        if id = lease.sessionId then some s.outlets.length else s.relays id := update_apply ..
    rw [hrelays] at hk
    split_ifs at hk
    · cases hk
      exact ⟨lease, _, List.getElem?_concat_length⟩
    · exact hold hk
  | @release id' host n hs =>
    have hrelays : (s.release n id' host).relays id = if id = id' then none else s.relays id :=
      update_apply ..
    rw [hrelays] at hk
    split_ifs at hk
    exact hold hk
  | publishStreamEvent | publishAdapterEvent => exact hold (by simpa using hk)
  | _ => exact hold hk

/-- An outlet that is not listed any more is shut, about to be, or dropped. -/
theorem MediaHostStep.owned (h : MediaHostStep s e s') (hi : OutletInv t s)
    (hk : s'.outlets[k]? = some (lease, o')) :
    s'.Listed lease.sessionId k ∨
      (k ∈ s'.closing ∧ s'.host.dispatch.releases = some lease.sessionId) ∨
        Outlet.gate.Shut o' ∨ .expired k ∈ t ++ [e] := by
  have hmove := h.outletMove hi hk
  rcases hmove.old_or_new with ⟨o, ho⟩ | he
  · rcases hi.owned k lease o ho with hlisted | ⟨hc, hrel⟩ | hshut | hexpired
    · by_cases hx : e = .expired k
      · exact .inr (.inr (.inr (by simp [hx])))
      by_cases he : e = .host (.releaseBegan lease.sessionId)
      · subst he
        cases h with
        | host _ _ hb => exact absurd rfl (hb _)
        | release n hs =>
          have hrel := hs.releaseBegan_spec.2.2
          rcases hlisted with hlisted | hlisted | hlisted
          · rcases hi.of_release hk with ⟨-, hne⟩ | ⟨o₀, ho₀, hclose⟩
            · exact absurd hlisted hne
            · exact .inr (.inr (.inl
                (Outlet.gate.shut (hi.held k lease o₀ ho₀).1 hclose (.inr rfl))))
          · exact .inr (.inl ⟨List.mem_append_left _ hlisted, hrel⟩)
          · exact .inr (.inl ⟨List.mem_append_right _ hlisted, hrel⟩)
      · exact .inl (h.listed.2 (.inl ⟨hlisted, he, hx⟩))
    · cases h with
      | host hs hr hb hw =>
        rcases (hs.releasing hrel).2 with hrel' | ⟨hat, hidle⟩
        · exact .inr (.inl ⟨hc, hrel'⟩)
        · -- the release does not return while it has subscriptions to cancel
          rw [← hw (List.ne_nil_of_mem hc) hat, hidle] at hrel
          cases hrel
      | release n hs =>
        rw [hs.releaseBegan_spec.1] at hrel
        cases hrel
      | closeReturned hd hcl hq hs he =>
        rw [hcl] at hc
        rcases List.mem_cons.1 hc with rfl | hc
        · obtain ⟨p, -, ⟨-, heq⟩ | ⟨hne, -⟩⟩ := getElem?_modify_cases hk
          · cases heq
            exact .inr (.inr (.inl
              (Outlet.gate.shut (hi.held _ _ _ hq).1 hs (.inr he.shuts.1))))
          · exact absurd rfl hne
        · exact .inr (.inl ⟨hc, hrel⟩)
      | publishStreamEvent | publishAdapterEvent => exact .inr (.inl (by simpa using ⟨hc, hrel⟩))
      | _ => exact .inr (.inl ⟨hc, hrel⟩)
    · exact .inr (.inr (.inl (hmove.shut hi ho hshut)))
    · exact .inr (.inr (.inr (List.mem_append_left _ hexpired)))
  · exact .inl (h.listed.2 (.inr ⟨lease, he, rfl⟩))

/-- A subscription is shut when a `cancel` has returned, and stays so. -/
theorem MediaHostStep.cancelled_shut (h : MediaHostStep s e s') (hi : OutletInv t s)
    (hc : .cancelled k ∈ t ++ [e]) :
    ∃ lease o, s'.outlets[k]? = some (lease, o) ∧ Outlet.gate.Shut o := by
  rcases List.mem_append.1 hc with hc | hc
  · obtain ⟨lease, o, ho, hshut⟩ := hi.cancelled k hc
    obtain ⟨o', ho'⟩ := h.keeps_lease ⟨o, ho⟩
    exact ⟨lease, o', ho', (h.outletMove hi ho').shut hi ho hshut⟩
  · rw [← List.mem_singleton.1 hc] at h
    cases h with
    | @cancelled _ lease o o' e hk hs he hshuts =>
      exact ⟨lease, o', by simp [MediaHost.setOutlet, hk],
        Outlet.gate.shut (hi.held k lease o hk).1 hs (.inr hshuts)⟩

theorem MediaHostStep.deliveries (h : MediaHostStep s e s') (hl : LeaseInv t s)
    (hi : OutletInv t s) {n : ℕ} {f : MediaFrame} (hd : .frame k f ∈ s'.deliveries n) :
    ∃ lease o, s.outlets[k]? = some (lease, o) ∧ Stamped (t ++ [e]) lease f := by
  have hold {m : ℕ} (hd : .frame k f ∈ s.deliveries m) :
      ∃ lease o, s.outlets[k]? = some (lease, o) ∧ Stamped (t ++ [e]) lease f := by
    obtain ⟨lease, o, hk, hs⟩ := hi.deliveries m _ hd k f rfl
    exact ⟨lease, o, hk, hs.mono fun x hx => List.mem_append_left _ hx⟩
  cases h with
  | @publishFrame deviceId frame frame' targets m hc =>
    obtain ⟨lease, howner, hsession, rfl, htargets⟩ := captureFrame_spec hc
    obtain ⟨hlease, rfl⟩ := hl.mediaOwner howner
    rcases mem_update_append hd with ⟨-, hd⟩ | hd
    · obtain ⟨j, hj, heq⟩ := List.mem_map.1 hd
      cases heq
      obtain ⟨l, o, ho, hlease'⟩ := hi.listed _ k (htargets k hj)
      cases hlease.symm.trans hlease'
      exact ⟨lease, o, ho, frame, List.mem_append_right _ (List.mem_singleton.2 rfl), hsession,
        .inl rfl⟩
    · exact hold hd
  | deliver hd' => exact hold (mem_update_tail hd' hd)
  | publishStreamEvent | publishAdapterEvent => exact hold (frame_of_publishStreamEvent hd)
  | _ => exact hold hd

theorem MediaHostStep.mediaLease (h : MediaHostStep s e s') (hl : LeaseInv t s)
    (he : e ≠ .host (.releaseBegan id)) (hm : s.mediaLease id = some lease) :
    s'.mediaLease id = some lease := by
  obtain ⟨hlookup, hmedia⟩ := MediaHost.mediaLease_eq.1 hm
  refine MediaHost.mediaLease_eq.2 ⟨?_, hmedia⟩
  refine (h.leaseStep hl).lookup (h.leases hl).table.sessions hlookup fun heq => he ?_
  cases e with
  | host e => exact congrArg HostMediaEvent.host heq
  | _ => cases heq

theorem MediaHostStep.outlets (h : MediaHostStep s e s') (hl : LeaseInv t s)
    (hi : OutletInv t s) : OutletInv (t ++ [e]) s' := by
  have hsub : ∀ x ∈ t, x ∈ t ++ [e] := fun x hx => List.mem_append_left _ hx
  refine ⟨fun x hx k lease hc => ?_, fun id k hk => ?_, fun id k => h.relay hi,
    fun k lease o => h.owned hi, fun k => h.cancelled_shut hi, fun k lease o hk => ?_,
    fun n d hd k f hf => ?_⟩
  · rcases List.mem_append.1 hx with hx | hx
    · exact h.keeps_lease (hi.created x hx k lease hc)
    · rw [List.mem_singleton.1 hx] at hc
      exact (h.created hi hc).1
  · rcases h.listed.1 hk with ⟨hk, he, -⟩ | ⟨lease, he, rfl⟩
    · obtain ⟨lease, o, ho, hlease⟩ := hi.listed id k hk
      obtain ⟨o', ho'⟩ := h.keeps_lease ⟨o, ho⟩
      exact ⟨lease, o', ho', h.mediaLease hl he hlease⟩
    · obtain ⟨⟨o', ho'⟩, hlease⟩ := h.created hi he
      refine ⟨lease, o', ho', h.mediaLease hl ?_ hlease⟩
      rintro rfl
      cases he
  · obtain ⟨hok, hheld⟩ := (h.outletMove hi hk).held hi
    exact ⟨hok, fun f hf => (hheld f hf).mono hsub⟩
  · subst hf
    obtain ⟨lease, o, ho, hstamp⟩ := h.deliveries hl hi hd
    obtain ⟨o', ho'⟩ := h.keeps_lease ⟨o, ho⟩
    exact ⟨lease, o', ho', hstamp⟩

theorem mediaHost_inv {devices : DeviceManager} {adapter : Option HostAdapter}
    (h : Run MediaHostStep (MediaHost.init devices adapter) t s) :
    LeaseInv t s ∧ OutletInv t s := by
  refine h.inv (I := fun t s => LeaseInv t s ∧ OutletInv t s) ⟨?_, ?_⟩
    fun ⟨hl, hi⟩ hs => ⟨hs.leases hl, hs.outlets hl hi⟩
  · refine ⟨.init, ?_, ?_, ?_⟩
    · rintro lease ⟨⟩
    · rintro id ⟨⟩
    · rintro id ⟨⟩
  · refine ⟨?_, ?_, ?_, ?_, ?_, ?_, ?_⟩
    · rintro e ⟨⟩
    · rintro id k (⟨⟨⟩⟩ | ⟨⟨⟩⟩ | ⟨⟨⟩⟩)
    · rintro id k ⟨⟩
    · rintro k lease o ⟨⟩
    · rintro k ⟨⟩
    · rintro k lease o ⟨⟩
    · rintro n d ⟨⟩

/-! ## After the release -/

/-- The session has ended, and the outlet `k` is shut if it is one of the session. -/
structure Ended (sessionId : String) (k : ℕ) (s : MediaHost) : Prop where
  named : s.host.table.Named sessionId
  gone : s.host.table.lookup sessionId = none
  shut : ∀ lease o, s.outlets[k]? = some (lease, o) → lease.sessionId = sessionId →
    Outlet.gate.Shut o

theorem Ended.step (he : Ended id k s) (h : MediaHostStep s e s') (hl : LeaseInv t s)
    (hi : OutletInv t s) : Ended id k s' := by
  have hlease := h.leaseStep hl
  refine ⟨hlease.named he.named, hlease.gone he.named he.gone, fun lease o hk hid => ?_⟩
  have hmove := h.outletMove hi hk
  rcases hmove.old_or_new with ⟨o₀, ho₀⟩ | hnew
  · exact hmove.shut hi ho₀ (he.shut lease o₀ ho₀ hid)
  · have hlookup := (MediaHost.mediaLease_eq.1 (h.created hi hnew).2).1
    rw [hid, he.gone] at hlookup
    cases hlookup

theorem Ended.run {t' : List HostMediaEvent} (he : Ended sessionId k s) (hl : LeaseInv t s)
    (hi : OutletInv t s) (h : Run MediaHostStep s t' s') :
    LeaseInv (t ++ t') s' ∧ OutletInv (t ++ t') s' ∧ Ended sessionId k s' := by
  refine h.inv
    (I := fun t' s => LeaseInv (t ++ t') s ∧ OutletInv (t ++ t') s ∧ Ended sessionId k s)
    ⟨by rwa [List.append_nil], by rwa [List.append_nil], he⟩ ?_
  rintro t' s e s' ⟨hl, hi, he⟩ hs
  rw [← List.append_assoc]
  exact ⟨hs.leases hl, hs.outlets hl hi, he.step hs hl hi⟩

theorem ended_of_returned (h : MediaHostStep s (.host (.releaseReturned sessionId)) s')
    (hl : LeaseInv t s) (hi : OutletInv t s) (hn : s.host.table.Named sessionId)
    (hx : .expired k ∈ t → .cancelled k ∈ t) : Ended sessionId k s' := by
  cases h with
  | @host _ host hs hr hb hw =>
    obtain ⟨hat, hrel, hidle, htable⟩ : s.host.dispatch.atSubscriptions = true ∧
        s.host.dispatch.releases = some sessionId ∧ host.dispatch = .idle ∧
        host.table = s.host.table := by
      cases hs with
      | releaseReturn hd => rw [hd]; exact ⟨rfl, rfl, rfl, rfl⟩
    have hclosing : s.closing = [] := by
      by_contra hne
      rw [← hw hne hat, hidle] at hrel
      cases hrel
    have hgone := hl.released sessionId hrel
    refine ⟨htable ▸ hn, htable ▸ hgone, fun lease o hk hid => ?_⟩
    rcases hi.owned k lease o hk with hlisted | ⟨hc, -⟩ | hshut | hexpired
    · obtain ⟨l, q, hq, hlease⟩ := hi.listed _ k hlisted
      have hlookup := (MediaHost.mediaLease_eq.1 hlease).1
      rw [hid, hgone] at hlookup
      cases hlookup
    · rw [hclosing] at hc
      cases hc
    · exact hshut
    · obtain ⟨l, q, hq, hshut⟩ := hi.cancelled k (hx hexpired)
      cases hk.symm.trans hq
      exact hshut

theorem MediaHostStep.hands {e : HostMediaEvent} {f : MediaFrame} (h : MediaHostStep s e s')
    (hi : OutletInv t s) (he : e.Hands k f) :
    ∃ lease o, s.outlets[k]? = some (lease, o) ∧ Stamped t lease f ∧ ¬ Outlet.gate.Shut o := by
  obtain ⟨e', rfl, hf⟩ := he
  have hout {lease : SessionLease} {o o' : Outlet} (hk : s.outlets[k]? = some (lease, o))
      (hs : OutletStep o e' o') :
      ∃ lease o, s.outlets[k]? = some (lease, o) ∧ Stamped t lease f ∧ ¬ Outlet.gate.Shut o := by
    obtain ⟨hok, hheld⟩ := hi.held k lease o hk
    exact ⟨lease, o, hk, Outlet.gate.handed hok hs hheld hf⟩
  cases h with
  | closeReturned _ _ hk hs | activate _ hk hs | deliver _ hk hs | outlet hk hs => exact hout hk hs

theorem Stamped.eq {lease : SessionLease} {f : MediaFrame} (h : Stamped t lease f) :
    f.sessionId = lease.sessionId ∧ f.deviceId = lease.deviceId := by
  obtain ⟨frame, -, hsession, rfl | rfl⟩ := h <;> exact ⟨hsession, rfl⟩

/-- **Media frames never cross leases.**  Every frame that is handed to a sink or
    read from a consumer has the session and the device of the lease that the
    outlet was made for, and was published with this session by the adapter;
    and none is handed out after `release_session` has returned, unless the
    client dropped the handle before and the destructor's `cancel` still runs. -/
theorem media_frames_stay_in_lease {devices : DeviceManager} {adapter : Option HostAdapter}
    (h : Run MediaHostStep (MediaHost.init devices adapter) t s) {e : HostMediaEvent} {k : ℕ}
    {lease : SessionLease} (he : e ∈ t) (hc : e.creates = some (k, lease)) :
    (∀ t₁ t₂ e' f, t = t₁ ++ e' :: t₂ → e'.Hands k f →
      f.sessionId = lease.sessionId ∧ f.deviceId = lease.deviceId ∧
        ∃ frame, .framePublished lease.deviceId frame ∈ t₁ ∧ frame.sessionId = lease.sessionId ∧
          MediaFrame.Marked { frame with deviceId := lease.deviceId } f) ∧
    ∀ t₁ t₂, t = t₁ ++ .host (.releaseReturned lease.sessionId) :: t₂ →
      lease.sessionId ∈ acquiredIds (t₁.filterMap (·.hostEvent)) →
      (.expired k ∈ t₁ → .cancelled k ∈ t₁) →
        ∀ e' ∈ t₂, ∀ f, ¬ e'.Hands k f := by
  obtain ⟨o, hk⟩ := (mediaHost_inv h).2.created e he k lease hc
  -- the outlet has this lease at every moment when it hands out a frame
  have hlease {s₁ : MediaHost} {t' : List HostMediaEvent} {l : SessionLease} {o₁ : Outlet}
      (hrun : Run MediaHostStep s₁ t' s) (hl : s₁.outlets[k]? = some (l, o₁)) : l = lease := by
    obtain ⟨o₂, ho₂⟩ := hrun.keeps (P := fun s => ∃ o, s.outlets[k]? = some (l, o))
      (fun hk hs => hs.keeps_lease hk) ⟨o₁, hl⟩
    rw [hk] at ho₂
    cases ho₂
    rfl
  refine ⟨?_, ?_⟩
  · rintro t₁ t₂ e' f rfl hf
    obtain ⟨s₁, h₁, h₂⟩ := h.cut
    obtain ⟨s₂, hs, -⟩ := h₂.first
    obtain ⟨l, o₁, ho₁, hstamped, -⟩ := hs.hands (mediaHost_inv h₁).2 hf
    obtain rfl := hlease h₂ ho₁
    exact ⟨hstamped.eq.1, hstamped.eq.2, hstamped⟩
  · rintro t₁ t₂ rfl hid hx e' he' f hf
    obtain ⟨s₁, h₁, h₂⟩ := h.cut
    obtain ⟨s₂, hs, h₃⟩ := h₂.first
    obtain ⟨hl, hi⟩ := mediaHost_inv h₁
    have hended := ended_of_returned hs hl hi (hl.named _ (List.mem_append_left _ hid)) hx
    -- the session stays ended until the frame would be handed out
    obtain ⟨t₃, t₄, rfl⟩ := List.append_of_mem he'
    obtain ⟨s₃, h₃, h₄⟩ := h₃.cut
    obtain ⟨s₄, hs', -⟩ := h₄.first
    obtain ⟨-, hi', hended'⟩ := hended.run (hs.leases hl) (hs.outlets hl hi) h₃
    obtain ⟨l, o₁, ho₁, -, hopen⟩ := hs'.hands hi' hf
    obtain rfl := hlease h₄ ho₁
    exact hopen (hended'.shut l o₁ ho₁ rfl)

theorem MediaHostStep.free {e : HostEvent} {host : Host} (hc : s.closing = [])
    (h : HostStep s.host e host) (hr : e ≠ .reset := by simp)
    (hb : ∀ sessionId, e ≠ .releaseBegan sessionId := by simp) :
    MediaHostStep s (.host e) { s with host := host } :=
  .host h hr hb fun hne => absurd hc hne

/-- An `acquire_session` that is granted and binds no adapter. -/
theorem acquire_run (request : SessionAcquireRequest) {sessionAdapter : Bool} {table : LeaseTable}
    {device : DeviceSnapshot} (hc : s.closing = []) (hd : s.host.dispatch = .idle)
    (ha : s.host.checkAcquire request = .ok sessionAdapter)
    (hr : s.host.table.reserve request.deviceId request.media = .ok table)
    (hdevice : { s.host with table := table }.checkDevice request = .ok device)
    (hm : (request.media && sessionAdapter) = false) :
    Run MediaHostStep s [.host (.acquireBegan request), .host .internal,
        .host (.acquireReturned (table.nextLease request))]
      { s with host :=
          { s.host with table := table.openSession request, dispatch := .idle } } := by
  have h := Run.one (MediaHostStep.free hc (.acquireBegin request hd ha))
  have h := h.snoc (.free hc (.acquireReserve rfl hr))
  exact h.snoc (.free hc (.acquireGranted rfl hdevice hm))

/-- A step inside a media subscription. -/
theorem frames_step (k : ℕ) {sub sub' : MediaSubscription.Subscription}
    {e : MediaSubscription.Event}
    (hk : s.outlets[k]? = some (lease, .frames sub))
    (h : MediaSubscription.SubscriptionStep sub e sub')
    (hp : ∀ thread frame, e ≠ .published thread frame := by simp)
    (hc : ∀ thread, e ≠ .cancelled thread := by simp) :
    MediaHostStep s (.outlet k (.frames e)) (s.setOutlet k (.frames sub')) :=
  .outlet hk (.frames h) hp fun ⟨thread, he, _⟩ => hc thread he

/-- A host with one device. -/
def oneDevice : MediaHost :=
  .init (({} : DeviceManager).upsert { id := "d1", adapter := "mock" }).1 none

/-- The destructor of a subscription is waiting for the worker, which has taken a
    frame, when `release_session` returns; then the sink gets the frame. -/
theorem frame_after_release :
    ∃ t₁ t₂ s lease f, Run MediaHostStep oneDevice
        (t₁ ++ .host (.releaseReturned "devsess-1") :: t₂) s ∧
      .subscribed 0 lease ∈ t₁ ∧ lease.sessionId = "devsess-1" ∧ .expired 0 ∈ t₁ ∧
      ∃ e ∈ t₂, e.Hands 0 f := by
  have h := acquire_run (s := oneDevice) { deviceId := "d1", media := true } rfl rfl rfl rfl rfl rfl
  have h := h.snoc (@.subscribeMedia _ "devsess-1" _ { dispatch := .asyncQueued } rfl)
  have h := h.snoc (@.publishFrame _ "d1" { sessionId := "devsess-1" } _ _ 0 rfl)
  have h := h.snoc (@.deliver _ 0 _ _ _ _ _ _ rfl rfl
    (.frames (.publish _ (.client 0) _ rfl rfl)) rfl)
  have h := h.snoc (frames_step 0 rfl (@.takeFrame _ (.worker 0) _ _ _ rfl rfl rfl))
  have h := h.snoc (.expire (k := 0) (fun n _ hd => by cases n <;> cases hd) nofun nofun nofun)
  have h := h.snoc (frames_step 0 rfl (.cancel _ (.client 1) rfl))
  have h := h.snoc (.release 2 (.releaseTake rfl "devsess-1") (List.forall_mem_singleton.2 rfl))
  have h' := (h.snoc (.free rfl (.releaseReturn rfl))).snoc
    (frames_step 0 rfl (@.beginFrame _ (.worker 0) _ _ rfl))
  rw [List.append_assoc] at h'
  exact ⟨_, _, _, _, _, h', List.mem_of_getElem? (i := 3) rfl, rfl,
    List.mem_of_getElem? (i := 7) rfl, _, List.mem_singleton.2 rfl, _, rfl, _, rfl⟩

/-- The client of a session drops its subscription after a frame, and the
    destructor returns before the session is released; the frame of the next
    session goes to a consumer of that one. -/
theorem media_frames_stay_in_lease_dropped :
    ∃ t₁ t₂ s lease f f', Run MediaHostStep oneDevice
        (t₁ ++ .host (.releaseReturned "devsess-1") :: t₂) s ∧
      .expired 0 ∈ t₁ ∧ (∃ e ∈ t₁, e.Hands 0 f) ∧ f.sessionId = "devsess-1" ∧
      f.deviceId = "d1" ∧ .consumer 1 lease ∈ t₂ ∧ (∃ e ∈ t₂, e.Hands 1 f') ∧
      f'.sessionId = "devsess-2" ∧ ∀ e ∈ t₂, ∀ f, ¬ e.Hands 0 f := by
  have h := acquire_run (s := oneDevice) { deviceId := "d1", media := true } rfl rfl rfl rfl rfl rfl
  have h := h.snoc (@.subscribeMedia _ "devsess-1" _ {} rfl)
  have h := h.snoc (@.publishFrame _ "d1" { sessionId := "devsess-1" } _ _ 0 rfl)
  have h := h.snoc (@.deliver _ 0 _ _ _ _ _ _ rfl rfl
    (.frames (.publishDirect _ (.client 0) _ rfl rfl rfl)) rfl)
  have h := h.snoc (frames_step 0 rfl (@.callSink _ (.client 0) _ _ rfl))
  have h := h.snoc (frames_step 0 rfl (@.directReturned _ (.client 0) _ _ rfl))
  have h := h.snoc (frames_step 0 rfl (@.countDirect _ (.client 0) _ rfl))
  have h := h.snoc (.expire (k := 0) (fun n _ hd => by cases n <;> cases hd) nofun nofun nofun)
  have h := h.snoc (frames_step 0 rfl (.cancel _ (.client 1) rfl))
  have h := h.snoc (frames_step 0 rfl (@.awaitCallbacks _ (.client 1) _ rfl rfl))
  have h := h.snoc (frames_step 0 rfl (@.closing _ (.client 1) _ rfl))
  have h := h.snoc (frames_step 0 rfl (@.closedReturned _ (.client 1) _ rfl))
  have h := h.snoc (frames_step 0 rfl (@.complete _ (.client 1) _ rfl))
  have h := h.snoc (@.cancelled _ 0 _ _ _ _ rfl
    (.frames (@.leave _ (.client 1) _ rfl)) nofun ⟨.client 1, rfl, rfl⟩)
  have h := h.snoc (.release 2 (.releaseTake rfl "devsess-1") (List.forall_mem_singleton.2 rfl))
  have hreturned := h.onward.snoc (.free rfl (.releaseReturn rfl))
  have h' := hreturned.onward.trans
    (acquire_run { deviceId := "d1", media := true } rfl rfl rfl rfl rfl rfl)
  have h' := h'.snoc (@.createConsumer _ "devsess-2" _ {} rfl rfl)
  have h' := h'.snoc (@.publishFrame _ "d1" { sessionId := "devsess-2" } _ _ 0 rfl)
  have h' := h'.snoc (@.deliver _ 0 _ _ _ _ _ (.relay (.published _)) rfl rfl
    (.relay (.publish _ _)) rfl)
  have h' := h'.snoc (@.outlet _ 1 _ _ _ _ rfl (.relay (.read _)) ⟨_, rfl⟩ nofun)
  have hat {t : List HostMediaEvent} {s₀ s : MediaHost} (_ : Run MediaHostStep s₀ t s) (i : ℕ)
      {e : HostMediaEvent} (hi : t[i]? = some e) : e ∈ t := List.mem_of_getElem? hi
  have hrun := h.trans (hreturned.trans h')
  have hstay := media_frames_stay_in_lease hrun (hat hrun 3 rfl) rfl
  obtain ⟨t₁, t₂, ht⟩ := List.append_of_mem (hat hrun 6 rfl)
  obtain ⟨hsession, hdevice, -⟩ := hstay.1 t₁ t₂ _ _ ht ⟨_, rfl, _, rfl⟩
  exact ⟨_, _, _, _, _, { sessionId := "devsess-2", deviceId := "d1" }, hrun, hat h 9 rfl,
    ⟨_, hat h 6 rfl, _, rfl, _, rfl⟩, hsession, hdevice, hat h' 3 rfl,
    ⟨_, hat h' 6 rfl, _, rfl, rfl⟩, rfl,
    hstay.2 _ _ rfl List.mem_cons_self fun _ => hat h 15 rfl⟩

end

end Axent
