/-
  The streams that the subscribers of a session and the host believe to be open.

  A stream event changes `active_media_streams` under the host's lock and
  reaches the subscriptions after it.  What is still on its way to a
  subscription, settled in order, turns its streams into those of the host
  (`StreamInv.settles`) as long as two conditions hold: events for one stream are
  not fanned out by two threads at once, and `subscribe_media_stream` does not
  merge a stream that the other subscribers have not been told about.  The code
  ensures neither (`subscriber_misses_stream`).
-/
import Axent.MediaHostFrames

namespace Axent

open Lib Function

/-! ## Settling events -/

/-- The key that is open under the id of an event, after the event. -/
def settle (key : Option StreamKey) (event : MediaStreamEvent) : Option StreamKey :=
  match event.kind with
  | .opened => some event.descriptor.key
  | .closed => if key = some event.descriptor.key then none else key

theorem settle_idem (key : Option StreamKey) (event : MediaStreamEvent) :
    settle (settle key event) event = settle key event := by
  unfold settle
  cases event.kind with
  | opened => rfl
  | closed =>
    by_cases h : key = some event.descriptor.key
    · simp [h]
    · simp [h]

/-- What a map of streams says after an event about one of them. -/
def settleAt (keys : ℕ → Option StreamKey) (event : MediaStreamEvent) : ℕ → Option StreamKey :=
  update keys event.descriptor.key.streamId
    (settle (keys event.descriptor.key.streamId) event)

theorem settleAt_self (keys : ℕ → Option StreamKey) (event : MediaStreamEvent) :
    settleAt keys event event.descriptor.key.streamId =
      settle (keys event.descriptor.key.streamId) event := update_self ..

theorem settleAt_of_ne {keys : ℕ → Option StreamKey} {event : MediaStreamEvent} {i : ℕ}
    (h : i ≠ event.descriptor.key.streamId) : settleAt keys event i = keys i :=
  update_of_ne h ..

theorem openKeys_of_getElem? {m : StreamMap} {i : ℕ} {d : MediaStreamDescriptor}
    (h : m[i]? = some d) : m.openKeys i = some d.key := by
  rw [StreamMap.openKeys, h]
  rfl

theorem openKeys_of_none {m : StreamMap} {i : ℕ} (h : m[i]? = none) : m.openKeys i = none := by
  rw [StreamMap.openKeys, h]
  rfl

theorem MediaStream.Core.openKeys_publishStreamEvent (c : Core) (thread : ThreadId)
    (priming : Bool) {event : MediaStreamEvent} (ha : c.accepting = true)
    (hg : event.descriptor.key.generation ≠ 0) :
    (c.publishStreamEvent thread priming event).core.activeStreams.openKeys =
      settleAt c.activeStreams.openKeys event := by
  have hkeep (h : settle (c.activeStreams.openKeys event.descriptor.key.streamId) event =
      c.activeStreams.openKeys event.descriptor.key.streamId) :
      c.activeStreams.openKeys = settleAt c.activeStreams.openKeys event := by
    rw [settleAt, h, update_eq_self]
  unfold publishStreamEvent
  rw [if_neg (by simp [ha, hg])]
  cases hl : lifecycle c.activeStreams event with
  | none =>
    refine hkeep ?_
    unfold lifecycle at hl
    dsimp only at hl
    unfold settle
    split at hl
    · next current hkind hcur =>
      split_ifs at hl with hkey
      rw [hkind, openKeys_of_getElem? hcur, hkey]
    · cases hl
    · next current hkind hcur =>
      split_ifs at hl with hkey
      rw [hkind, openKeys_of_getElem? hcur]
      simp [hkey]
    · next hkind hcur => rw [hkind, openKeys_of_none hcur]; rfl
  | some r =>
    obtain ⟨events, active⟩ := r
    have hpush := Core.push_spec { c with activeStreams := active } thread priming
      (events.map .streamEvent)
    dsimp only at hpush ⊢
    rw [hpush.2.1]
    unfold lifecycle at hl
    dsimp only at hl
    unfold settleAt settle
    split at hl
    · next current hkind hcur =>
      split_ifs at hl
      cases hl
      rw [hkind, StreamMap.openKeys_insert]
    · next hkind hcur =>
      cases hl
      rw [hkind, StreamMap.openKeys_insert]
    · next current hkind hcur =>
      split_ifs at hl with hkey
      cases hl
      rw [hkind, StreamMap.openKeys_erase, openKeys_of_getElem? hcur]
      simp [hkey]
    · cases hl

/-- The streams of a map, each under its own id and with a generation. -/
def StreamMap.Proper (m : StreamMap) : Prop :=
  ∀ (i : ℕ) (d : MediaStreamDescriptor), m[i]? = some d →
    d.key.streamId = i ∧ d.key.generation ≠ 0

/-- The streams of a map are those of a session. -/
def StreamMap.OfSession (m : StreamMap) (sessionId : String) : Prop :=
  ∀ (i : ℕ) (d : MediaStreamDescriptor), m[i]? = some d → d.key.sessionId = sessionId

/-- The host's streams after an event, and the events that it fans out. -/
theorem MediaHost.lifecycle_spec {active active' : StreamMap} {event : MediaStreamEvent}
    {events : List MediaStreamEvent} (h : lifecycle active event = some (events, active'))
    (hproper : active.Proper) (hsession : active.OfSession event.descriptor.key.sessionId)
    (hg : event.descriptor.key.generation ≠ 0) :
    (active'.Proper ∧ active'.OfSession event.descriptor.key.sessionId) ∧
      active'.openKeys = update active.openKeys event.descriptor.key.streamId
        (events.foldl settle (active.openKeys event.descriptor.key.streamId)) ∧
      ∀ e ∈ events, e.descriptor.key.streamId = event.descriptor.key.streamId ∧
        e.descriptor.key.generation ≠ 0 ∧
        e.descriptor.key.sessionId = event.descriptor.key.sessionId := by
  unfold lifecycle at h
  dsimp only at h
  split at h
  · next current hkind hcur =>
    split_ifs at h
    cases h
    refine ⟨⟨StreamMap.forall_insert hproper ⟨rfl, hg⟩, StreamMap.forall_insert hsession rfl⟩,
      ?_, ?_⟩
    · simp [settle, hkind]
    · simpa [hg] using ⟨(hproper _ _ hcur).1, (hproper _ _ hcur).2, hsession _ _ hcur⟩
  · next hkind hcur =>
    cases h
    refine ⟨⟨StreamMap.forall_insert hproper ⟨rfl, hg⟩, StreamMap.forall_insert hsession rfl⟩,
      ?_, ?_⟩
    · simp [settle, hkind]
    · simpa using hg
  · next current hkind hcur =>
    split_ifs at h
    cases h
    refine ⟨⟨StreamMap.forall_erase hproper _, StreamMap.forall_erase hsession _⟩, ?_, ?_⟩
    · simp [settle, openKeys_of_getElem? hcur]
    · simpa using ⟨(hproper _ _ hcur).1, (hproper _ _ hcur).2, hsession _ _ hcur⟩
  · cases h

/-! ## A primed subscription -/

namespace MediaStream

/-- What is primed is what is then open, by id. -/
def primedKeys (descriptors : List MediaStreamDescriptor) : ℕ → Option StreamKey :=
  descriptors.foldl (fun keys d => update keys d.key.streamId (some d.key)) fun _ => none

theorem primed_openKeys {options : MediaSubscriptionOptions} {thread : ThreadId}
    {descriptors : List MediaStreamDescriptor} (h : ∀ d ∈ descriptors, d.key.generation ≠ 0) :
    (Subscription.primed options thread descriptors).core.accepting = true ∧
      (Subscription.primed options thread descriptors).core.activeStreams.openKeys =
        primedKeys descriptors := by
  induction descriptors using List.reverseRecOn with
  | nil => exact ⟨rfl, StreamMap.openKeys_empty⟩
  | append_singleton l d ih =>
    obtain ⟨hacc, hkeys⟩ := ih fun x hx => h x (List.mem_append_left _ hx)
    have hg := h d (List.mem_append_right _ (List.mem_singleton.2 rfl))
    unfold Subscription.primed primedKeys
    rw [List.foldl_append, List.foldl_append]
    simp only [List.foldl_cons, List.foldl_nil]
    refine ⟨?_, ?_⟩
    · exact (Core.publishStreamEvent_spec _ thread true _).same.accepting.trans hacc
    · refine (Core.openKeys_publishStreamEvent _ thread true hacc hg).trans ?_
      exact congrArg (settleAt · _) hkeys

theorem primedKeys_of_not_mem {descriptors : List MediaStreamDescriptor} {i : ℕ}
    (h : ∀ d ∈ descriptors, d.key.streamId ≠ i) : primedKeys descriptors i = none := by
  induction descriptors using List.reverseRecOn with
  | nil => rfl
  | append_singleton l d ih =>
    unfold primedKeys
    rw [List.foldl_append, List.foldl_cons, List.foldl_nil, update_of_ne]
    · exact ih fun x hx => h x (List.mem_append_left _ hx)
    · exact (h d (List.mem_append_right _ (List.mem_singleton.2 rfl))).symm

theorem primedKeys_of_mem {descriptors : List MediaStreamDescriptor} {d : MediaStreamDescriptor}
    (hd : d ∈ descriptors)
    (h : ∀ x ∈ descriptors, x.key.streamId = d.key.streamId → x.key = d.key) :
    primedKeys descriptors d.key.streamId = some d.key := by
  induction descriptors using List.reverseRecOn with
  | nil => cases hd
  | append_singleton l x ih =>
    unfold primedKeys
    rw [List.foldl_append, List.foldl_cons, List.foldl_nil, update_apply]
    split_ifs with hx
    · rw [h x (List.mem_append_right _ (List.mem_singleton.2 rfl)) hx.symm]
    · refine ih ((List.mem_append.1 hd).resolve_right fun hd => ?_) fun y hy =>
        h y (List.mem_append_left _ hy)
      rw [List.mem_singleton.1 hd] at hx
      exact hx rfl

end MediaStream

/-- A subscription that is primed with the streams of a map has these streams. -/
theorem StreamMap.Proper.primed {m : StreamMap} (h : m.Proper)
    (options : MediaSubscriptionOptions) (thread : MediaStream.ThreadId) :
    (MediaStream.Subscription.primed options thread
      (m.toList.map Prod.snd)).core.activeStreams.openKeys = m.openKeys := by
  have hmem {d : MediaStreamDescriptor} : d ∈ m.toList.map Prod.snd ↔ ∃ i : ℕ, m[i]? = some d := by
    simp [Std.TreeMap.mem_toList_iff_getElem?_eq_some]
  rw [(MediaStream.primed_openKeys fun d hd => ?_).2]
  · funext i
    cases hi : m[i]? with
    | none =>
      rw [openKeys_of_none hi]
      refine MediaStream.primedKeys_of_not_mem fun d hd hid => ?_
      obtain ⟨j, hj⟩ := hmem.1 hd
      obtain rfl := (h j d hj).1
      rw [hid, hi] at hj
      cases hj
    | some d =>
      obtain ⟨rfl, -⟩ := h i d hi
      rw [openKeys_of_getElem? hi]
      refine MediaStream.primedKeys_of_mem (hmem.2 ⟨_, hi⟩) fun x hx hid => ?_
      obtain ⟨j, hj⟩ := hmem.1 hx
      obtain rfl := (h j x hj).1
      rw [hid, hi] at hj
      cases hj
      rfl
  · obtain ⟨i, hi⟩ := hmem.1 hd
    exact (h i d hi).2

/-! ## What is on its way -/

/-- The delivery is an event about stream `i` of the session. -/
def Delivery.Concerns (sessionId : String) (i : ℕ) : Delivery → Prop
  | frame _ _ => False
  | event _ e => e.descriptor.key.sessionId = sessionId ∧ e.descriptor.key.streamId = i

/-- The event of the delivery, if it is for outlet `k` and about stream `i`. -/
def Delivery.eventFor (k i : ℕ) : Delivery → Option MediaStreamEvent
  | frame _ _ => none
  | event j e => if j = k ∧ e.descriptor.key.streamId = i then some e else none

/-- The events about stream `i` that a thread has still for outlet `k`. -/
def eventsFor (k i : ℕ) (l : List Delivery) : List MediaStreamEvent :=
  l.filterMap (Delivery.eventFor k i)

theorem mem_eventsFor {k i : ℕ} {l : List Delivery} {e : MediaStreamEvent} :
    e ∈ eventsFor k i l ↔ .event k e ∈ l ∧ e.descriptor.key.streamId = i := by
  unfold eventsFor
  rw [List.mem_filterMap]
  constructor
  · rintro ⟨d, hd, he⟩
    cases d with
    | frame => cases he
    | event j e' =>
      unfold Delivery.eventFor at he
      dsimp only at he
      split_ifs at he with h
      cases he
      obtain ⟨rfl, hi⟩ := h
      exact ⟨hd, hi⟩
  · rintro ⟨hd, rfl⟩
    exact ⟨.event k e, hd, by simp [Delivery.eventFor]⟩

/-- The events that a thread fans out, as one of the outlets gets them. -/
theorem settle_fanOut {k i : ℕ} {targets : List ℕ} (hk : k ∈ targets)
    {events : List MediaStreamEvent} (hi : ∀ e ∈ events, e.descriptor.key.streamId = i)
    (key : Option StreamKey) :
    (eventsFor k i (events.flatMap fun e => targets.map fun j => .event j e)).foldl settle key =
      events.foldl settle key := by
  -- an outlet that is listed more than once gets the same event again, which changes nothing
  have hone (e : MediaStreamEvent) (he : e.descriptor.key.streamId = i) (targets : List ℕ) :
      (∀ key, settle key e = key →
        (eventsFor k i (targets.map fun j => .event j e)).foldl settle key = key) ∧
      (k ∈ targets → ∀ key,
        (eventsFor k i (targets.map fun j => .event j e)).foldl settle key = settle key e) := by
    induction targets with
    | nil => exact ⟨fun _ _ => rfl, by rintro ⟨⟩⟩
    | cons j l ih =>
      have hcons : eventsFor k i ((j :: l).map fun j => .event j e) =
          (if j = k then [e] else []) ++ eventsFor k i (l.map fun j => .event j e) := by
        unfold eventsFor
        rw [List.map_cons, List.filterMap_cons]
        by_cases hj : j = k <;> simp [Delivery.eventFor, hj, he]
      rw [hcons]
      refine ⟨fun key hkey => ?_, fun hmem key => ?_⟩
      · split_ifs
        · rw [List.cons_append, List.foldl_cons, hkey]
          exact ih.1 key hkey
        · exact ih.1 key hkey
      · split_ifs with hj
        · rw [List.cons_append, List.foldl_cons]
          exact ih.1 _ (settle_idem key e)
        · exact ih.2 ((List.mem_cons.1 hmem).resolve_left (Ne.symm hj)) key
  induction events generalizing key with
  | nil => rfl
  | cons e l ih =>
    rw [List.flatMap_cons, eventsFor, List.filterMap_append, List.foldl_append]
    have h := (hone e (hi e List.mem_cons_self) targets).2 hk key
    rw [eventsFor] at h
    rw [h, List.foldl_cons]
    exact ih (fun e he => hi e (List.mem_cons_of_mem _ he)) (settle key e)

/-! ## Agreement -/

/-- Every live subscription has the streams of the host. -/
def MediaHost.Agrees (s : MediaHost) : Prop :=
  ∀ (sessionId : String) (k : ℕ) (lease : SessionLease) (sub : MediaStream.Subscription),
    k ∈ s.streamSubscriptions sessionId → s.outlets[k]? = some (lease, .streams sub) →
      (Outlet.streams sub).active = true →
        sub.core.activeStreams.openKeys = (s.activeMediaStreams sessionId).openKeys

/-- No publish or subscribe call is in progress, and every change of the
    adapter's streams has been published. -/
structure MediaHost.Quiescent (s : MediaHost) : Prop where
  publishing : ∀ n, s.publishing n = []
  deliveries : ∀ n, s.deliveries n = []
  activating : s.activating = []
  unsent : ∀ deviceId n, (s.adapter deviceId).unsent n = []
  pending : ∀ deviceId, (s.adapter deviceId).pending = []

/-- The condition on a step: no other thread still fans out events for the stream
    that an event is about, and a merge adds nothing that live subscribers of
    the session have not been told about. -/
def MediaHost.Orderly (s : MediaHost) : HostMediaEvent → Prop
  | .streamEventPublished sessionId event => ∀ n, ∀ d ∈ s.deliveries n,
      ¬ d.Concerns sessionId event.descriptor.key.streamId
  | .streamSubscribed _ lease =>
    (s.mergedStreams lease).openKeys = (s.activeMediaStreams lease.sessionId).openKeys ∨
      s.activeOf (s.streamSubscriptions lease.sessionId) = []
  | _ => True

/-! ## What an outlet does with its streams -/

/-- The stream event that a call publishes to a subscription. -/
def MediaStream.Event.streamEvent : Event → Option MediaStreamEvent
  | entered _ (.primeStreamEvent event) _ | entered _ (.publishStreamEvent event) _ => some event
  | _ => none

def OutletEvent.streamEvent : OutletEvent → Option MediaStreamEvent
  | streams e => e.streamEvent
  | _ => none

theorem MediaStream.Core.activeStreams_publishFrame (c : Core) (thread : ThreadId)
    (frame : MediaFrame) : (c.publishFrame thread frame).core.activeStreams = c.activeStreams := by
  unfold publishFrame
  split_ifs
  · rfl
  · have hpush := ((c.countFrame frame).push_spec thread false [.frame frame]).2.1
    obtain ⟨_, _, _, _, hlimit⟩ :=
      ((c.countFrame frame).push thread false [.frame frame]).core.limitQueue_spec.1
    exact (congrArg activeStreams hlimit).trans hpush

theorem MediaStream.Core.activeStreams_activate (c : Core) :
    c.activate.core.activeStreams = c.activeStreams := by
  unfold activate startWorker
  split_ifs
  · rfl
  · rfl
  · cases c.worker <;> rfl

/-- A subscription that is still open after a step has settled the event of the
    step, if there was one, and no other. -/
theorem MediaStream.SubscriptionStep.openKeys {s s' : Subscription} {e : Event}
    (h : SubscriptionStep s e s') (hi : Inv s) (hopen : s'.core.terminalEnqueued = false)
    (hg : ∀ event, e.streamEvent = some event → event.descriptor.key.generation ≠ 0) :
    s.core.terminalEnqueued = false ∧ s'.core.activeStreams.openKeys =
      e.streamEvent.toList.foldl settleAt s.core.activeStreams.openKeys := by
  have heffect := h.effect hi
  have hbefore := heffect.terminalEnqueued_eq_false hopen
  have hacc : s.core.accepting = true := by rw [hi.flags.accepting, hbefore]; rfl
  refine ⟨hbefore, ?_⟩
  -- all steps but those of the publishing calls leave the streams as they are
  have hkeep (hnone : e.streamEvent = none)
      (hp : ∀ thread call queued, e = .entered thread call queued → call.isCancel = false →
        s'.core.activeStreams = s.core.activeStreams) :
      s'.core.activeStreams.openKeys =
        e.streamEvent.toList.foldl settleAt s.core.activeStreams.openKeys := by
    rw [hnone, Option.toList_none, List.foldl_nil]
    refine congrArg StreamMap.openKeys ?_
    generalize s'.core = c at heffect hopen hp
    cases heffect with
    | idle _ h => exact h.activeStreams
    | publish hc => exact hp _ _ _ rfl hc
    | terminate _ henq => exact absurd (henq.symm.trans hopen) (by decide)
    | take => exact Core.takeFront_activeStreams ..
    | finish h => exact h.activeStreams
  cases h with
  | enter thread call hm =>
    cases call with
    | primeStreamEvent event =>
      rw [Subscription.enter, entered_core]
      exact Core.openKeys_publishStreamEvent s.core thread true hacc (hg event rfl)
    | publishStreamEvent event =>
      rw [Subscription.enter, entered_core]
      exact Core.openKeys_publishStreamEvent s.core thread false hacc (hg event rfl)
    | publishFrame frame =>
      refine hkeep rfl fun _ _ _ _ _ => ?_
      rw [Subscription.enter, entered_core]
      exact Core.activeStreams_publishFrame s.core thread frame
    | activate =>
      refine hkeep rfl fun _ _ _ _ _ => ?_
      rw [Subscription.enter, entered_core]
      exact Core.activeStreams_activate s.core
    | cancel closeStreams =>
      refine hkeep rfl fun _ _ _ heq hc => ?_
      cases heq
      cases hc
  | _ => exact hkeep rfl (by rintro _ _ _ ⟨⟩)

/-- The streams of the host and of its subscriptions.  What one thread has on
    its way about a stream makes all subscriptions agree with the host about it,
    and no other thread has anything about it. -/
structure StreamInv (s : MediaHost) : Prop where
  adapter : ∀ deviceId, (s.adapter deviceId).active.Proper
  proper : ∀ sessionId, (s.activeMediaStreams sessionId).Proper
  session : ∀ sessionId, (s.activeMediaStreams sessionId).OfSession sessionId
  events : ∀ n (k : ℕ) e, .event k e ∈ s.deliveries n → e.descriptor.key.generation ≠ 0 ∧
    ∃ lease o, s.outlets[k]? = some (lease, o) ∧ e.descriptor.key.sessionId = lease.sessionId
  settles : ∀ sessionId i, ∃ n,
    (∀ n' ≠ n, ∀ d ∈ s.deliveries n', ¬ d.Concerns sessionId i) ∧
    ∀ (k : ℕ) lease sub, k ∈ s.streamSubscriptions sessionId →
      s.outlets[k]? = some (lease, .streams sub) → (Outlet.streams sub).active = true →
        (eventsFor k i (s.deliveries n)).foldl settle (sub.core.activeStreams.openKeys i) =
          (s.activeMediaStreams sessionId).openKeys i

section
variable {t : List HostMediaEvent} {s s' : MediaHost} {e : OutletEvent} {o : Outlet} {n : ℕ}

theorem StreamInv.streams (hi : StreamInv s) {id : String} {m : StreamMap}
    (hm : m.Proper ∧ m.OfSession id) :
    (∀ id', (update s.activeMediaStreams id m id').Proper) ∧
      ∀ id', (update s.activeMediaStreams id m id').OfSession id' :=
  ⟨(forall_update_iff _ fun _ m => StreamMap.Proper m).2 ⟨hm.1, fun id' _ => hi.proper id'⟩,
    (forall_update_iff _ fun id' m => StreamMap.OfSession m id').2
      ⟨hm.2, fun id' _ => hi.session id'⟩⟩

theorem OutletInv.session (ho : OutletInv t s) {sessionId : String} {k : ℕ} {lease : SessionLease}
    (hl : k ∈ s.streamSubscriptions sessionId) (hk : s.outlets[k]? = some (lease, o)) :
    lease.sessionId = sessionId := by
  obtain ⟨l, q, hq, hlease⟩ := ho.listed sessionId k (.inr (.inr hl))
  rw [hk] at hq
  cases hq
  exact MediaHost.sessionId_of_mediaLease hlease

/-- Nothing about the stream is on its way, in particular not to the outlet. -/
theorem StreamInv.eventsFor_eq_nil (hi : StreamInv s) {k i : ℕ} {lease : SessionLease}
    (hk : s.outlets[k]? = some (lease, o))
    (h : ∀ d ∈ s.deliveries n, ¬ d.Concerns lease.sessionId i) :
    eventsFor k i (s.deliveries n) = [] := by
  rw [List.eq_nil_iff_forall_not_mem]
  intro e he
  obtain ⟨hd, hid⟩ := mem_eventsFor.1 he
  obtain ⟨-, l, q, hq, hsession⟩ := hi.events n k e hd
  rw [hk] at hq
  cases hq
  exact h _ hd ⟨hsession, hid⟩

theorem OutletStep.openKeys {sub' : MediaStream.Subscription} (h : OutletStep o e (.streams sub'))
    (hok : Outlet.gate.Ok o) (ha : (Outlet.streams sub').active = true)
    (hg : ∀ event, e.streamEvent = some event → event.descriptor.key.generation ≠ 0) :
    ∃ sub, o = .streams sub ∧ (Outlet.streams sub).active = true ∧
      sub'.core.activeStreams.openKeys =
        e.streamEvent.toList.foldl settleAt sub.core.activeStreams.openKeys := by
  cases h with
  | @streams sub _ e h =>
    have hinv : MediaStream.Inv sub := MediaStream.BarrierInv.inv hok
    have hopen : sub'.core.terminalEnqueued = false := by
      simpa using (Bool.and_eq_true_iff.1 ha).2
    obtain ⟨hbefore, hkeys⟩ := h.openKeys hinv hopen hg
    refine ⟨sub, rfl, ?_, hkeys⟩
    simp [Outlet.active, hinv.flags.accepting, hbefore]

theorem OutletEvent.IsFree.streamEvent (h : e.IsFree) : e.streamEvent = none := by
  cases e with
  | relay | frames => rfl
  | streams e =>
    cases e with
    | entered thread call queued =>
      have hc := h thread call queued rfl
      cases call with
      | cancel => rfl
      | primeStreamEvent | publishStreamEvent | publishFrame | activate => cases hc
    | internal | started | finished | returned => rfl

theorem OutletEvent.ReleaseReturned.streamEvent (h : e.ReleaseReturned n o) :
    e.streamEvent = none := by
  cases e with
  | relay | frames => rfl
  | streams e =>
    cases o with
    | relay | frames => exact absurd h id
    | streams => obtain ⟨⟨own, rfl⟩, -⟩ := h; rfl

def Delivery.streamEvent : Delivery → Option MediaStreamEvent
  | frame _ _ => none
  | event _ e => some e

theorem Delivery.Calls.streamEvent {d : Delivery} (h : d.Calls n e) :
    e.streamEvent = d.streamEvent := by
  cases d with
  | frame =>
    cases e with
    | relay | frames => rfl
    | streams => obtain ⟨queued, rfl⟩ := h; rfl
  | event =>
    cases e with
    | relay | frames => exact absurd h id
    | streams => obtain ⟨queued, rfl⟩ := h; rfl

/-- A step that brings no stream event to a subscription: the session that it may
    release has no subscriptions and no streams any more. -/
structure Calm (s : MediaHost) (e : HostMediaEvent) (s' : MediaHost) : Prop where
  adapter : ∀ deviceId, (s'.adapter deviceId).active.Proper
  event : ∀ k e', e = .outlet k e' → e'.streamEvent = none := by rintro _ _ ⟨⟩
  streams : ∀ id, s'.activeMediaStreams id = s.activeMediaStreams id ∨
    s'.activeMediaStreams id = ∅ ∧ s'.streamSubscriptions id = [] := by exact fun _ => .inl rfl
  listed : ∀ id, ∀ k ∈ s'.streamSubscriptions id, k ∈ s.streamSubscriptions id := by
    exact fun _ _ h => h
  events : ∀ n k i, eventsFor k i (s'.deliveries n) = eventsFor k i (s.deliveries n) := by
    exact fun _ _ _ => rfl
  deliveries : ∀ n, ∀ d ∈ s'.deliveries n, d ∈ s.deliveries n ∨ ∃ k f, d = .frame k f := by
    exact fun _ _ h => .inl h

theorem StreamInv.calm {e : HostMediaEvent} (hi : StreamInv s) (ho : OutletInv t s)
    (h : MediaHostStep s e s') (hc : Calm s e s') : StreamInv s' := by
  refine ⟨hc.adapter, fun id => ?_, fun id => ?_, fun n k e he => ?_, fun id i => ?_⟩
  · rcases hc.streams id with heq | ⟨heq, -⟩
    · exact heq ▸ hi.proper id
    · rw [heq]
      exact fun i d hd => by simp at hd
  · rcases hc.streams id with heq | ⟨heq, -⟩
    · exact heq ▸ hi.session id
    · rw [heq]
      exact fun i d hd => by simp at hd
  · rcases hc.deliveries n _ he with he | ⟨_, _, ⟨⟩⟩
    obtain ⟨hg, l, o, hk, hs⟩ := hi.events n k e he
    obtain ⟨o', ho'⟩ := h.keeps_lease ⟨o, hk⟩
    exact ⟨hg, l, o', ho', hs⟩
  · obtain ⟨n, hn, hagree⟩ := hi.settles id i
    refine ⟨n, fun n' hne d hd => ?_, fun k lease sub hl hk ha => ?_⟩
    · rcases hc.deliveries n' d hd with hd | ⟨_, _, rfl⟩
      · exact hn n' hne d hd
      · exact not_false
    · have hl' := hc.listed id k hl
      rcases hc.streams id with heq | ⟨-, hnil⟩
      · rw [hc.events, heq]
        cases h.outletMove ho hk with
        | keep hk => exact hagree k lease sub hl' hk ha
        | @step o e' hk' hs _ he =>
          have hnone : e'.streamEvent = none := by
            rcases he with he | rfl | hfree
            · exact hc.event k e' he
            · rfl
            · exact hfree.streamEvent
          obtain ⟨sub₀, rfl, ha₀, hkeys⟩ := hs.openKeys (ho.held k lease o hk').1 ha
            (by simp [hnone])
          rw [hkeys, hnone]
          exact hagree k lease sub₀ hl' hk' ha₀
        | new hk' =>
          obtain ⟨l, o, ho', -⟩ := ho.listed id k (.inr (.inr hl'))
          cases ho'.symm.trans hk'
      · rw [hnil] at hl
        cases hl

theorem eventsFor_update {deliveries : ℕ → List Delivery} {l : List Delivery} {k i : ℕ}
    (h : eventsFor k i l = eventsFor k i (deliveries n)) (m : ℕ) :
    eventsFor k i (update deliveries n l m) = eventsFor k i (deliveries m) := by
  rw [update_apply]
  split_ifs with hm
  · rw [h, hm]
  · rfl

theorem StreamInv.deliver (hi : StreamInv s) (ho : OutletInv t s) {k : ℕ} {ev : MediaStreamEvent}
    {rest : List Delivery} {lease : SessionLease} {o' : Outlet}
    (hd : s.deliveries n = .event k ev :: rest) (hk : s.outlets[k]? = some (lease, o))
    (h : OutletStep o e o') (he : e.streamEvent = some ev) :
    StreamInv { s.setOutlet k o' with deliveries := update s.deliveries n rest } := by
  obtain ⟨hg, l, q, hq, hsession⟩ := hi.events n k ev (hd ▸ List.mem_cons_self)
  rw [hk] at hq
  cases hq
  refine ⟨hi.adapter, hi.proper, hi.session, fun m j ev' hev => ?_, fun sessionId i => ?_⟩
  · obtain ⟨hg, l, q, hq, hsession⟩ := hi.events m j ev' (mem_update_tail hd hev)
    obtain ⟨q', hq'⟩ := MediaHost.lease_modify (fun _ => o') hq
    exact ⟨hg, l, q', hq', hsession⟩
  obtain ⟨m, hm, hagree⟩ := hi.settles sessionId i
  refine ⟨m, fun m' hne d hd' => hm m' hne d (mem_update_tail hd hd'), fun j l sub hl hj ha => ?_⟩
  obtain ⟨p, hp, hcase⟩ := getElem?_modify_cases hj
  -- what the thread has for the other outlets, or about other streams, stays the same
  have hrest (hne : ¬ (k = j ∧ ev.descriptor.key.streamId = i)) :
      eventsFor j i (update s.deliveries n rest m) = eventsFor j i (s.deliveries m) := by
    refine eventsFor_update ?_ m
    rw [hd, eventsFor, eventsFor, List.filterMap_cons]
    simp [Delivery.eventFor, hne]
  rcases hcase with ⟨rfl, heq⟩ | ⟨hne, rfl⟩
  · cases hk.symm.trans hp
    cases heq
    obtain ⟨sub₀, rfl, ha₀, hkeys⟩ := h.openKeys (ho.held j lease o hk).1 ha
      (by rintro _ hev; rw [he] at hev; cases hev; exact hg)
    have hold := hagree j lease sub₀ hl hk ha₀
    rw [hkeys, he, Option.toList_some, List.foldl_cons, List.foldl_nil]
    rcases eq_or_ne ev.descriptor.key.streamId i with rfl | hid
    · -- the thread that has this event is the only one with events about the stream
      obtain rfl : n = m := by
        by_contra hne
        have hfirst : .event j ev ∈ s.deliveries n := hd ▸ List.mem_cons_self
        exact hm n hne _ hfirst ⟨hsession.trans (ho.session hl hk), rfl⟩
      rw [hd, eventsFor, List.filterMap_cons] at hold
      simp only [Delivery.eventFor, and_self, if_true, List.foldl_cons] at hold
      dsimp only
      rw [update_self, settleAt_self]
      exact hold
    · dsimp only
      rw [hrest (fun h => hid h.2), settleAt_of_ne hid.symm]
      exact hold
  · dsimp only
    rw [hrest (fun h => hne h.1.symm)]
    exact hagree j l sub hl hp ha

/-! ## Publishing and subscribing -/

theorem mem_activeOf_iff {l : List ℕ} {k : ℕ} {lease : SessionLease}
    (hk : s.outlets[k]? = some (lease, o)) : k ∈ s.activeOf l ↔ k ∈ l ∧ o.active = true := by
  simp [MediaHost.activeOf, hk]

/-- A stream event that the host accepts: it is settled on the way to every live
    subscription. -/
theorem StreamInv.publish (hi : StreamInv s) (ho : OutletInv t s) (n : ℕ) {lease : SessionLease}
    {event : MediaStreamEvent} {events : List MediaStreamEvent} {active : StreamMap}
    (hg : event.descriptor.key.generation ≠ 0)
    (hs : event.descriptor.key.sessionId = lease.sessionId)
    (hfree : ∀ m, ∀ d ∈ s.deliveries m,
      ¬ d.Concerns lease.sessionId event.descriptor.key.streamId)
    (hl : MediaHost.lifecycle (s.activeMediaStreams lease.sessionId) event =
      some (events, active)) :
    StreamInv { s with
      activeMediaStreams := update s.activeMediaStreams lease.sessionId active
      deliveries := update s.deliveries n
        ((events.flatMap fun e =>
            (s.activeOf (s.streamSubscriptions lease.sessionId)).map fun k => .event k e) ++
          s.deliveries n) } := by
  obtain ⟨hactive, hkeys, hevents⟩ := MediaHost.lifecycle_spec hl (hi.proper _)
    (by rw [hs]; exact hi.session _) hg
  generalize hfan : (events.flatMap fun e =>
    (s.activeOf (s.streamSubscriptions lease.sessionId)).map fun k => Delivery.event k e) = fan
  have hfanOut {d : Delivery} (hd : d ∈ fan) : ∃ e ∈ events, ∃ k,
      d = .event k e ∧ k ∈ s.streamSubscriptions lease.sessionId := by
    rw [← hfan] at hd
    obtain ⟨e, he, hd⟩ := List.mem_flatMap.1 hd
    obtain ⟨k, hk, rfl⟩ := List.mem_map.1 hd
    exact ⟨e, he, k, rfl, mem_activeOf hk⟩
  obtain ⟨hproper, hsession⟩ := hi.streams (hs ▸ hactive)
  refine ⟨hi.adapter, hproper, hsession, fun m k e he => ?_, fun sessionId i => ?_⟩
  · rcases mem_update_append he with ⟨-, he⟩ | he
    · obtain ⟨e', he', k', heq, hk⟩ := hfanOut he
      cases heq
      obtain ⟨l, o, hout, hlease⟩ := ho.listed _ k (.inr (.inr hk))
      refine ⟨(hevents e he').2.1, l, o, hout, ?_⟩
      rw [(hevents e he').2.2, hs, MediaHost.sessionId_of_mediaLease hlease]
    · exact hi.events m k e he
  obtain ⟨m, hm, hagree⟩ := hi.settles sessionId i
  by_cases hthis : sessionId = lease.sessionId ∧ i = event.descriptor.key.streamId
  · -- this stream: the events come on top of nothing
    obtain ⟨rfl, rfl⟩ := hthis
    refine ⟨n, fun n' hne d hd => ?_, fun k l sub hk hout ha => ?_⟩
    · rcases mem_update_append hd with ⟨heq, -⟩ | hd
      · exact absurd heq hne
      · exact hfree n' d hd
    · have hnone (m : ℕ) : eventsFor k event.descriptor.key.streamId (s.deliveries m) = [] :=
        hi.eventsFor_eq_nil hout (by rw [ho.session hk hout]; exact hfree m)
      have hold := hagree k l sub hk hout ha
      rw [hnone m, List.foldl_nil] at hold
      have hlive : k ∈ s.activeOf (s.streamSubscriptions lease.sessionId) :=
        (mem_activeOf_iff (s := s) hout).2 ⟨hk, ha⟩
      have hfor := settle_fanOut hlive (fun e he => (hevents e he).1)
        (sub.core.activeStreams.openKeys event.descriptor.key.streamId)
      rw [hfan] at hfor
      dsimp only
      rw [update_self, update_self, eventsFor, List.filterMap_append]
      change List.foldl settle _ (eventsFor k _ fan ++ eventsFor k _ (s.deliveries n)) = _
      rw [hnone n, List.append_nil, hfor, hkeys, update_self, hold]
  · -- another stream
    have hother {d : Delivery} (hd : d ∈ fan) : ¬ d.Concerns sessionId i := by
      obtain ⟨e, he, k, rfl, -⟩ := hfanOut hd
      rintro ⟨hsession, hid⟩
      refine hthis ⟨?_, ?_⟩
      · rw [← hsession, (hevents e he).2.2, hs]
      · rw [← hid, (hevents e he).1]
    refine ⟨m, fun n' hne d hd => ?_, fun k l sub hk hout ha => ?_⟩
    · rcases mem_update_append hd with ⟨-, hd⟩ | hd
      · exact hother hd
      · exact hm n' hne d hd
    · have hkeep : ((update s.activeMediaStreams lease.sessionId active)
          sessionId).openKeys i = (s.activeMediaStreams sessionId).openKeys i := by
        rw [update_apply]
        split_ifs with hid
        · rw [hkeys, update_of_ne fun h => hthis ⟨hid, h⟩, hid]
        · rfl
      have hfor : eventsFor k i (update s.deliveries n (fan ++ s.deliveries n) m) =
          eventsFor k i (s.deliveries m) := by
        refine eventsFor_update ?_ m
        rw [eventsFor, List.filterMap_append, eventsFor]
        refine List.append_left_eq_self.2 (List.filterMap_eq_nil_iff.2 fun d hd => ?_)
        obtain ⟨e, he, j, rfl, hj⟩ := hfanOut hd
        rw [Delivery.eventFor, if_neg]
        rintro ⟨rfl, hid⟩
        refine hother hd ⟨?_, hid⟩
        rw [(hevents e he).2.2, hs, ← ho.session hj hout, ho.session hk hout]
      dsimp only
      rw [hfor, hkeep]
      exact hagree k l sub hk hout ha

theorem StreamInv.publishStreamEvent (hi : StreamInv s) (ho : OutletInv t s) (n : ℕ)
    {sessionId : String} {event : MediaStreamEvent}
    (hfree : s.Orderly (.streamEventPublished sessionId event)) :
    StreamInv (s.publishStreamEvent n sessionId event) := by
  unfold MediaHost.publishStreamEvent
  cases hlease : s.mediaLease sessionId with
  | none => exact hi
  | some lease =>
    obtain rfl := MediaHost.sessionId_of_mediaLease hlease
    dsimp only
    split_ifs with hzero
    · exact hi
    have hg : (MediaHost.stamp lease event).descriptor.key.generation ≠ 0 :=
      fun h => hzero (.inr h)
    cases hl : MediaHost.lifecycle (s.activeMediaStreams lease.sessionId)
        (MediaHost.stamp lease event) with
    | none => exact hi
    | some r =>
      exact hi.publish ho n hg rfl hfree hl

theorem MediaHost.mergedStreams_proper (hi : StreamInv s) (lease : SessionLease) :
    (s.mergedStreams lease).Proper ∧ (s.mergedStreams lease).OfSession lease.sessionId := by
  have hgen : ∀ d ∈ s.adapterDescriptors lease, d.key.generation ≠ 0 := by
    intro d hd
    unfold MediaHost.adapterDescriptors at hd
    split_ifs at hd with hc
    · obtain ⟨⟨i, d⟩, hentry, rfl⟩ := List.mem_map.1 hd
      exact (hi.adapter lease.deviceId i d
        (Std.TreeMap.mem_toList_iff_getElem?_eq_some.1 hentry)).2
    · cases hd
  unfold MediaHost.mergedStreams
  generalize s.adapterDescriptors lease = l at hgen
  have hproper := hi.proper lease.sessionId
  have hsession := hi.session lease.sessionId
  generalize s.activeMediaStreams lease.sessionId = m at hproper hsession
  induction l generalizing m with
  | nil => exact ⟨hproper, hsession⟩
  | cons d l ih =>
    rw [List.foldl_cons]
    refine ih (fun x hx => hgen x (List.mem_cons_of_mem _ hx)) _ ?_ ?_
    · unfold MediaHost.mergeStream
      split_ifs
      · exact hproper
      · exact StreamMap.forall_insert hproper ⟨rfl, hgen d List.mem_cons_self⟩
    · unfold MediaHost.mergeStream
      split_ifs
      · exact hsession
      · exact StreamMap.forall_insert hsession rfl

/-- A new subscription has the streams of the host, and nothing is on its way to
    it. -/
theorem StreamInv.subscribe (hi : StreamInv s) (ho : OutletInv t s) (n : ℕ)
    {lease : SessionLease} (options : MediaSubscriptionOptions)
    (horder : s.Orderly (.streamSubscribed s.outlets.length lease)) :
    StreamInv (s.subscribeMediaStream n lease options) := by
  have hmerged := MediaHost.mergedStreams_proper hi lease
  obtain ⟨hproper, hsession⟩ := hi.streams hmerged
  unfold MediaHost.subscribeMediaStream MediaHost.addOutlet
  refine ⟨hi.adapter, hproper, hsession, fun m k e he => ?_, fun sessionId i => ?_⟩
  · obtain ⟨hg, l, o, hk, hs⟩ := hi.events m k e he
    exact ⟨hg, l, o, List.getElem?_append_left (List.getElem?_eq_some_iff.1 hk).1 ▸ hk, hs⟩
  obtain ⟨m, hm, hagree⟩ := hi.settles sessionId i
  refine ⟨m, hm, fun k l sub hk hout ha => ?_⟩
  dsimp only at hk hout ⊢
  rcases getElem?_concat_cases hout with hout | ⟨rfl, heq⟩
  · -- a subscription that was there before
    have hne : k ≠ s.outlets.length := (List.getElem?_eq_some_iff.1 hout).1.ne
    rw [update_apply] at hk ⊢
    split_ifs at hk ⊢ with hid
    · subst hid
      have hk := (List.mem_append.1 hk).resolve_right (by simpa using hne)
      rw [hagree k l sub hk hout ha]
      rcases horder with hkeys | hnone
      · rw [hkeys]
      · have hlive := (mem_activeOf_iff hout).2 ⟨hk, ha⟩
        rw [hnone] at hlive
        cases hlive
    · exact hagree k l sub hk hout ha
  · -- the new one
    cases heq
    have hid : sessionId = lease.sessionId := by
      by_contra hid
      rw [update_of_ne hid] at hk
      obtain ⟨l, o, ho', -⟩ := ho.listed sessionId _ (.inr (.inr hk))
      exact absurd (List.getElem?_eq_some_iff.1 ho').1 (Nat.lt_irrefl _)
    subst hid
    have hnone : eventsFor s.outlets.length i (s.deliveries m) = [] := by
      rw [List.eq_nil_iff_forall_not_mem]
      intro e he
      obtain ⟨-, l, o, hk', -⟩ := hi.events m _ e (mem_eventsFor.1 he).1
      exact absurd (List.getElem?_eq_some_iff.1 hk').1 (Nat.lt_irrefl _)
    rw [hnone, List.foldl_nil, update_self, hmerged.1.primed]

/-! ## Every step -/

theorem AdapterStreams.nextGeneration_ne_zero (a : AdapterStreams) (streamId : ℕ) :
    a.nextGeneration streamId ≠ 0 := by
  unfold nextGeneration
  dsimp only
  split_ifs with h
  · exact Nat.one_ne_zero
  · exact h

theorem StreamMap.Proper.eraseAll {m : StreamMap} (h : m.Proper) (streamIds : List ℕ) :
    StreamMap.Proper (streamIds.foldl (fun m i => m.erase i) m) := by
  induction streamIds generalizing m with
  | nil => exact h
  | cons i l ih => exact ih (StreamMap.forall_erase h i)

theorem StreamInv.adapterTable (hi : StreamInv s) {deviceId : String} {a : AdapterStreams}
    (ha : a.active.Proper) (id : String) : (update s.adapter deviceId a id).active.Proper :=
  (forall_update_iff _ fun _ a => StreamMap.Proper (AdapterStreams.active a)).2
    ⟨ha, fun id _ => hi.adapter id⟩ id

theorem MediaHostStep.streams {e : HostMediaEvent} (h : MediaHostStep s e s') (ho : OutletInv t s)
    (hi : StreamInv s) (horder : s.Orderly e) : StreamInv s' := by
  have hcalm := hi.calm ho h
  cases h with
  | host | createConsumer | shareRelay | subscribeMedia | cancelled =>
    exact hcalm { adapter := hi.adapter }
  | expire =>
    exact hcalm { adapter := hi.adapter, listed := fun _ _ hk => (List.mem_filter.1 hk).1 }
  | @release id host n hs =>
    refine hcalm { adapter := hi.adapter, streams := fun id' => ?_, listed := fun id' k hk => ?_ }
    · unfold MediaHost.release
      rcases eq_or_ne id' id with rfl | hne
      · simp
      · simp [hne]
    · unfold MediaHost.release at hk
      rcases eq_or_ne id' id with rfl | hne
      · simp at hk
      · simpa [hne] using hk
  | closeReturned _ _ hk hs he =>
    refine hcalm { adapter := hi.adapter, event := ?_ }
    rintro _ _ ⟨⟩
    exact he.streamEvent
  | subscribeMediaStream n options hl => exact hi.subscribe ho n options horder
  | activate =>
    refine hcalm { adapter := hi.adapter, event := ?_ }
    rintro _ _ ⟨⟩
    rfl
  | publishFrame n hc =>
    refine hcalm { adapter := hi.adapter, events := fun m k i => eventsFor_update ?_ m,
                   deliveries := fun m d hd => ?_ }
    · rw [eventsFor, List.filterMap_append, eventsFor]
      refine List.append_left_eq_self.2 (List.filterMap_eq_nil_iff.2 fun d hd => ?_)
      obtain ⟨j, -, rfl⟩ := List.mem_map.1 hd
      rfl
    · rcases mem_update_append hd with ⟨-, hd⟩ | hd
      · obtain ⟨j, -, rfl⟩ := List.mem_map.1 hd
        exact .inr ⟨_, _, rfl⟩
      · exact .inl hd
  | publishStreamEvent n => exact hi.publishStreamEvent ho n horder
  | @publishAdapterEvent n => exact { hi.publishStreamEvent ho n horder with }
  | @deliver n d rest lease o o' e hd hk hs he =>
    cases d with
    | frame k f =>
      refine hcalm { adapter := hi.adapter, event := ?_,
                     events := fun m k i => eventsFor_update (by rw [hd]; rfl) m,
                     deliveries := fun m d hd' => .inl (mem_update_tail hd hd') }
      rintro _ _ ⟨⟩
      exact he.streamEvent
    | event k ev => exact hi.deliver ho hd hk hs he.streamEvent
  | outlet hk hs he =>
    refine hcalm { adapter := hi.adapter, event := ?_ }
    rintro _ _ ⟨⟩
    exact he.streamEvent
  | @adapterOpen n deviceId streamId _ reason =>
    refine hcalm { adapter := hi.adapterTable ?_ }
    unfold AdapterStreams.openStream
    exact StreamMap.forall_insert (hi.adapter deviceId)
      ⟨rfl, (s.adapter deviceId).nextGeneration_ne_zero streamId⟩
  | adapterClose n deviceId streamIds reason =>
    exact hcalm { adapter := hi.adapterTable ((hi.adapter deviceId).eraseAll streamIds) }
  | adapterEnqueue n deviceId =>
    exact hcalm { adapter := hi.adapterTable (hi.adapter deviceId) }
  | @adapterDispatch deviceId =>
    exact hcalm { adapter := hi.adapterTable (hi.adapter deviceId) }

/-- **Subscribers agree with the host**, if no event is published while another
    one about the same stream is being fanned out, and no merge gives the host a
    stream behind the back of a live subscriber. -/
theorem subscribers_agree_with_host {devices : DeviceManager} {adapter : Option HostAdapter}
    (h : Run (fun s e s' => MediaHostStep s e s' ∧ s.Orderly e) (.init devices adapter) t s)
    (hq : s.Quiescent) : s.Agrees := by
  have hinv : (LeaseInv t s ∧ OutletInv t s) ∧ StreamInv s := by
    refine h.inv (I := fun t s => (LeaseInv t s ∧ OutletInv t s) ∧ StreamInv s) ?_ ?_
    · refine ⟨mediaHost_inv .nil, fun _ i d hd => ?_, fun _ i d hd => ?_, fun _ i d hd => ?_, ?_,
        ?_⟩
      · simp [MediaHost.init] at hd
      · simp [MediaHost.init] at hd
      · simp [MediaHost.init] at hd
      · rintro n k e ⟨⟩
      · refine fun sessionId i => ⟨0, ?_, ?_⟩
        · rintro n - d ⟨⟩
        · rintro k lease sub ⟨⟩
    · rintro t s e s' ⟨⟨hl, ho⟩, hi⟩ ⟨hs, horder⟩
      exact ⟨⟨hs.leases hl, hs.outlets hl ho⟩, hs.streams ho hi horder⟩
  intro sessionId k lease sub hk hout ha
  funext i
  obtain ⟨n, -, hagree⟩ := hinv.2.settles sessionId i
  have hkeys := hagree k lease sub hk hout ha
  rw [hq.deliveries n] at hkeys
  exact hkeys

/-- A subscription, and a stream that the application opens for it. -/
theorem subscribers_agree_with_host_opened :
    ∃ t s, Run (fun s e s' => MediaHostStep s e s' ∧ s.Orderly e) (MediaHost.init
        (({} : DeviceManager).upsert { id := "d1", adapter := "mock" }).1 none) t s ∧
      s.Quiescent ∧ s.Agrees ∧ (s.activeMediaStreams "devsess-1").openKeys 1 ≠ none := by
  have h : Run (fun s e s' => MediaHostStep s e s' ∧ s.Orderly e) oneDevice _ _ :=
    (acquire_run { deviceId := "d1", media := true } rfl rfl rfl rfl rfl rfl).mono_on
      fun e he s s' hs => ⟨hs, by
        simp only [List.mem_cons, List.not_mem_nil, or_false] at he
        rcases he with rfl | rfl | rfl <;> trivial⟩
  have h := h.snoc ⟨@.subscribeMediaStream _ "devsess-1" _ 0 {} rfl, .inr rfl⟩
  have h := h.snoc ⟨@.activate _ 0 _ _ _ 0 _ (List.mem_cons_self) rfl
    (.streams (.enter _ _ .activate rfl)), trivial⟩
  have h := h.snoc ⟨MediaHostStep.publishStreamEvent _ 1 "devsess-1"
    { kind := .opened, descriptor := { key := { streamId := 1, generation := 1 } } }
    (by rintro o (_ | ⟨_, ⟨⟩⟩); rfl), by rintro n d ⟨⟩⟩
  have h := h.snoc ⟨@.deliver _ 1 _ _ _ _ _ _ rfl rfl
    (.streams (.enter _ (.client 1) (.publishStreamEvent _) rfl)) ⟨_, rfl⟩, trivial⟩
  refine ⟨_, _, h, ?quiescent, subscribers_agree_with_host h ?quiescent, by decide⟩
  refine ⟨fun _ => rfl, fun n => ?_, rfl, fun _ _ => rfl, fun _ => rfl⟩
  match n with
  | 0 | 1 | _ + 2 => rfl

theorem AdapterStreams.openStream_first {a : AdapterStreams} (ha : a.active = ∅)
    (hu : a.unsent n = []) (deviceId : String) (i : ℕ) (reason : MediaStreamEventReason) :
    ∃ d : MediaStreamDescriptor, d.key.streamId = i ∧ d.deviceId = deviceId ∧
      (a.openStream n deviceId i reason).active = (∅ : StreamMap).insert i d ∧
      (a.openStream n deviceId i reason).unsent n =
        [{ kind := .opened, descriptor := d, reason := reason }] := by
  refine ⟨{ key := { streamId := i, generation := a.nextGeneration i }, deviceId := deviceId },
    rfl, rfl, ?_, ?_⟩
  · rw [← ha]
    rfl
  · simp [openStream, ha, hu]

theorem MediaHost.mergedStreams_single {lease : SessionLease} {d : MediaStreamDescriptor}
    (haxtp : (s.host.axtpAdapter.isSome && s.host.isAxtpDevice lease.deviceId) = true)
    (hhost : s.activeMediaStreams lease.sessionId = ∅) (hdevice : d.deviceId = lease.deviceId)
    (hadapter : (s.adapter lease.deviceId).active = (∅ : StreamMap).insert d.key.streamId d) :
    s.mergedStreams lease = (∅ : StreamMap).insert d.key.streamId
      { key := { d.key with sessionId := lease.sessionId }, deviceId := lease.deviceId } := by
  simp only [mergedStreams, adapterDescriptors, haxtp, hhost, hadapter, if_true]
  change List.foldl (mergeStream lease) ∅ [d] = _
  simp [mergeStream, hdevice]

/-- The host is given an event that it knows already. -/
theorem MediaHostStep.publishKnown {lease : SessionLease} {event : MediaStreamEvent}
    {rest : List (String × MediaStreamEvent)}
    (hp : s.publishing n = (lease.sessionId, event) :: rest)
    (hlease : s.mediaLease lease.sessionId = some lease)
    (hl : MediaHost.lifecycle (s.activeMediaStreams lease.sessionId)
      (MediaHost.stamp lease event) = none) :
    MediaHostStep s (.streamEventPublished lease.sessionId event)
      { s with publishing := update s.publishing n rest } := by
  have h := MediaHostStep.publishAdapterEvent hp
  have hsame : s.publishStreamEvent n lease.sessionId event = s := by
    unfold MediaHost.publishStreamEvent
    rw [hlease]
    dsimp only
    split_ifs
    · rfl
    · rw [hl]
  rwa [hsame] at h

/-- An event of the adapter comes to the host, which knows it already. -/
theorem MediaHostStep.dispatchKnown {lease : SessionLease} {event : MediaStreamEvent}
    {rest : List MediaStreamEvent} (hlease : s.mediaLease lease.sessionId = some lease)
    (howner : s.mediaOwner lease.deviceId = some lease)
    (hdevice : event.descriptor.deviceId = lease.deviceId)
    (hp : (s.adapter lease.deviceId).pending = event :: rest) (hn : s.publishing n = [])
    (hl : MediaHost.lifecycle (s.activeMediaStreams lease.sessionId)
      (MediaHost.stamp lease event) = none) :
    Run MediaHostStep s [.internal, .streamEventPublished lease.sessionId event]
      { s with
        adapter := update s.adapter lease.deviceId
          { s.adapter lease.deviceId with pending := rest } } := by
  have h := MediaHostStep.adapterDispatch n hp
  rw [hdevice, howner] at h
  have hrun := (Run.one h).snoc (.publishKnown (update_self ..) hlease hl)
  have hnil : update s.publishing n [] = s.publishing :=
    update_eq_self_iff.2 hn.symm
  dsimp only at hrun
  rwa [update_idem, hn, hnil] at hrun

/-- The adapter has opened a stream but not yet said so when a subscription merges
    it into the host's streams.  The event that comes later is then no news to the
    host, and a subscriber that was there before never hears of the stream. -/
theorem merge_hides_stream {s₀ : MediaHost} {lease l : SessionLease} {k : ℕ}
    {sub : MediaStream.Subscription} (h : Run MediaHostStep s₀ t s) (hq : s.Quiescent)
    (hlease : s.mediaLease lease.sessionId = some lease)
    (howner : s.mediaOwner lease.deviceId = some lease)
    (haxtp : (s.host.axtpAdapter.isSome && s.host.isAxtpDevice lease.deviceId) = true)
    (hhost : s.activeMediaStreams lease.sessionId = ∅)
    (hadapter : (s.adapter lease.deviceId).active = ∅)
    (hk : k ∈ s.streamSubscriptions lease.sessionId)
    (hout : s.outlets[k]? = some (l, .streams sub)) (ha : (Outlet.streams sub).active = true)
    (hsub : sub.core.activeStreams.openKeys 1 = none) :
    ∃ t' s', Run MediaHostStep s₀ t' s' ∧ s'.Quiescent ∧ ¬ s'.Agrees := by
  obtain ⟨d, hid, hdevice, hactive, hunsent⟩ := AdapterStreams.openStream_first hadapter
    (hq.unsent lease.deviceId 0) lease.deviceId 1 .initialOpen
  have hothers (n : ℕ) (hn : n ≠ 0) : ((s.adapter lease.deviceId).openStream 0 lease.deviceId 1
      .initialOpen).unsent n = [] :=
    (update_of_ne hn ..).trans (hq.unsent lease.deviceId n)
  have hpending : ((s.adapter lease.deviceId).openStream 0 lease.deviceId 1
      .initialOpen).pending = [] := hq.pending lease.deviceId
  have h := h.snoc (@.adapterOpen s 0 lease.deviceId 1 (by decide) .initialOpen)
  generalize (s.adapter lease.deviceId).openStream 0 lease.deviceId 1 .initialOpen = a at *
  have hmerged := MediaHost.mergedStreams_single
    (s := { s with adapter := update s.adapter lease.deviceId a }) haxtp hhost hdevice
    (by rw [hid, ← hactive]; exact congrArg _ (update_self ..))
  have h := h.snoc (@.subscribeMediaStream _ lease.sessionId lease 0 {} hlease)
  unfold MediaHost.subscribeMediaStream at h
  rw [hmerged] at h
  have h := h.snoc (@.activate _ s.outlets.length lease _ _ 0 _
    (List.mem_append_right _ List.mem_cons_self) List.getElem?_concat_length
    (.streams (.enter _ _ .activate rfl)))
  have h := h.snoc (@.adapterEnqueue _ 0 lease.deviceId)
  simp only [MediaHost.setOutlet, MediaHost.addOutlet, update_self,
    update_idem] at h
  have h := h.trans (@MediaHostStep.dispatchKnown _ 0 lease
    { kind := .opened, descriptor := d, reason := .initialOpen } [] hlease howner hdevice
    (by simp [AdapterStreams.enqueue, hpending, hunsent]) (hq.publishing 0) ?known)
  case known => simp [MediaHost.lifecycle, MediaHost.stamp]
  simp only [update_self, update_idem] at h
  refine ⟨_, _, h, ⟨hq.publishing, hq.deliveries, ?_, fun deviceId n => ?_, fun deviceId => ?_⟩,
    fun hagree => ?_⟩
  · simp [hq.activating]
  · dsimp only
    rw [update_apply]
    split_ifs
    · rcases eq_or_ne n 0 with rfl | hn
      · simp [AdapterStreams.enqueue]
      · simp [AdapterStreams.enqueue, hn, hothers n hn]
    · exact hq.unsent deviceId n
  · dsimp only
    rw [update_apply]
    split_ifs
    · rfl
    · exact hq.pending deviceId
  · have hlt := (List.getElem?_eq_some_iff.1 hout).1
    have hkeys := hagree lease.sessionId k l sub
      (by simp [hk])
      (by simp [hlt.ne', List.getElem?_append_left hlt, hout]) ha
    have hone := congrFun hkeys 1
    dsimp only at hone
    rw [hsub, update_self, StreamMap.openKeys_insert, hid, update_self] at hone
    cases hone

/-- **A subscriber misses a stream** in the host of an AXTP device. -/
theorem subscriber_misses_stream :
    ∃ t s, Run MediaHostStep (MediaHost.init
        (({} : DeviceManager).upsert { id := "d1", adapter := "axtp" }).1 (some {})) t s ∧
      s.Quiescent ∧ ¬ s.Agrees := by
  have h := Run.one (MediaHostStep.free (s := MediaHost.init
      (({} : DeviceManager).upsert { id := "d1", adapter := "axtp" }).1 (some {})) rfl
    (.acquireBegin { deviceId := "d1", media := true } rfl rfl))
  have h := h.snoc (.free rfl (.acquireReserve rfl rfl))
  have h := h.snoc (.free rfl (.acquireGrantedMedia rfl rfl rfl))
  have h := h.snoc (.free rfl (.acquireBind rfl))
  have h := h.snoc (@.subscribeMediaStream _ "devsess-1" _ 0 {} rfl)
  have h := h.snoc (@.activate _ 0 _ _ _ 0 _ List.mem_cons_self rfl
    (.streams (.enter _ _ .activate rfl)))
  exact @merge_hides_stream _ _ _
    { acquired := true, sessionId := "devsess-1", deviceId := "d1", media := true } _ 0 _ h
    ⟨fun _ => rfl, fun _ => rfl, rfl, fun _ _ => rfl, fun _ => rfl⟩ rfl rfl rfl rfl rfl
    List.mem_cons_self rfl rfl rfl

end

end Axent
