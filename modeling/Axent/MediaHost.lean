/-
  The media delivery of `AxentHost` (`src/host/axent_host.cpp`).

  `MediaHost` is the host together with the relays and subscriptions that it has
  made (its outlets), the maps in which it files them, the streams that it
  believes to be open, and the stream tables of the AXTP adapter's devices.  A
  publishing call takes the host's lock once, captures the outlets of a session
  and hands them its frame or its events after the lock is dropped; the steps
  of `MediaHostStep` are these locked sections, one call on one outlet, and the
  steps inside the outlets.

  The host runs all the time: `start` and `stop` are not part of the model.
  It only has weak references to the subscriptions: when a client drops the
  handle of one while no call holds it, the host does not find it any more
  (`expire`), whether or not the destructor's `cancel` has returned.  Clients
  may also cancel a subscription at any time.  A publishing thread may go on to
  its next outlet while its call on the previous one is still in progress, which
  the code does not allow; this only adds interleavings.
-/
import Axent.Host
import Axent.MediaRelay
import Axent.MediaStreamBarrier
import Axent.MediaSubscription

namespace Axent

open Lib Function

/-! ## Outlets -/

/-- What a client gets frames from: the relay that its consumers read, a media
    subscription, or a media stream subscription. -/
inductive Outlet where
  | relay (relay : MediaStreamRelay)
  | frames (subscription : MediaSubscription.Subscription)
  | streams (subscription : MediaStream.Subscription)

inductive OutletEvent where
  | relay (event : MediaStreamRelay.Event)
  | frames (event : MediaSubscription.Event)
  | streams (event : MediaStream.Event)

inductive OutletStep : Outlet → OutletEvent → Outlet → Prop
  | relay {r r' : MediaStreamRelay} {e : MediaStreamRelay.Event}
      (h : MediaStreamRelay.Step r e r') : OutletStep (.relay r) (.relay e) (.relay r')
  | frames {s s' : MediaSubscription.Subscription} {e : MediaSubscription.Event}
      (h : MediaSubscription.SubscriptionStep s e s') :
      OutletStep (.frames s) (.frames e) (.frames s')
  | streams {s s' : MediaStream.Subscription} {e : MediaStream.Event}
      (h : MediaStream.SubscriptionStep s e s') :
      OutletStep (.streams s) (.streams e) (.streams s')

namespace OutletEvent

/-- The frame is published to the outlet. -/
def Puts : OutletEvent → MediaFrame → Prop
  | relay e, f => e = .published f
  | frames e, f => ∃ thread, e = .published thread f
  | streams e, f => ∃ thread queued, e = .entered thread (.publishFrame f) queued

/-- The frame is read from a consumer, or a sink is called with it. -/
def Hands : OutletEvent → MediaFrame → Prop
  | relay e, f => e = .read (some f)
  | frames e, f => ∃ thread, e = .started thread f
  | streams e, f => ∃ thread i, e = .started thread i ∧ i.body = .frame f

/-- The relay is closed, or a `cancel` has returned outside the callbacks. -/
def Shuts : OutletEvent → Outlet → Prop
  | relay e, _ => e = .closed
  | frames e, .frames s => ∃ thread, e = .cancelled thread ∧ s.threads thread = []
  | streams e, .streams s => ∃ thread closeStreams own,
      e = .returned thread (.cancel closeStreams) own ∧ ¬ s.InCallback thread
  | _, _ => False

/-- What clients and workers do with an outlet, while the host does nothing. -/
def IsFree : OutletEvent → Prop
  | relay e => ∃ frame, e = .read frame
  | frames e => ∀ thread frame, e ≠ .published thread frame
  | streams e => ∀ thread call queued, e = .entered thread call queued → call.isCancel = true

end OutletEvent

namespace Outlet

/-- `active`, by which the host picks the subscriptions that it publishes to. -/
def active : Outlet → Bool
  | relay _ => true
  | frames s => s.core.active
  | streams s => s.core.accepting && !s.core.terminalEnqueued

/-- Thread `n` is in a callback of a sink. -/
def inSink (o : Outlet) (n : ℕ) : Bool :=
  match o with
  | relay _ => false
  | frames s => (s.threads (.client n)).any (·.inSink)
  | streams s => (s.threads (.client n)).any (·.isCallback)

def closeRelay : Outlet → Outlet
  | relay r => relay r.close
  | o => o

/-- **Every outlet is a gate.** -/
def gate : Gate OutletStep OutletEvent.Puts OutletEvent.Hands OutletEvent.Shuts
    MediaFrame.Marked where
  Ok
    | relay r => MediaStreamRelay.gate.Ok r
    | frames s => MediaSubscription.gate.Ok s
    | streams s => MediaStream.gate.Ok s
  Holds
    | relay r => MediaStreamRelay.gate.Holds r
    | frames s => MediaSubscription.gate.Holds s
    | streams s => MediaStream.gate.Holds s
  Shut
    | relay r => MediaStreamRelay.gate.Shut r
    | frames s => MediaSubscription.gate.Shut s
    | streams s => MediaStream.gate.Shut s
  ok := by
    intro o e o' hok h
    cases h with
    | relay h => exact MediaStreamRelay.gate.ok hok h
    | frames h => exact MediaSubscription.gate.ok hok h
    | streams h => exact MediaStream.gate.ok hok h
  origin := by
    intro o e o' f hok h hf
    cases h with
    | relay h => exact MediaStreamRelay.gate.origin hok h hf
    | frames h => exact MediaSubscription.gate.origin hok h hf
    | streams h => exact MediaStream.gate.origin hok h hf
  source := by
    intro o e o' f hok h hf
    cases h with
    | relay h => exact MediaStreamRelay.gate.source hok h hf
    | frames h => exact MediaSubscription.gate.source hok h hf
    | streams h => exact MediaStream.gate.source hok h hf
  barrier := by
    intro o e o' f hok h hf
    cases h with
    | relay h => exact MediaStreamRelay.gate.barrier hok h hf
    | frames h => exact MediaSubscription.gate.barrier hok h hf
    | streams h => exact MediaStream.gate.barrier hok h hf
  shut := by
    intro o e o' hok h hs
    cases h with
    | relay h => exact MediaStreamRelay.gate.shut hok h hs
    | frames h => exact MediaSubscription.gate.shut hok h hs
    | streams h => exact MediaStream.gate.shut hok h hs

end Outlet

/-! ## The streams of a device -/

/-- The stream table of the adapter of one device, and its events on their way
    to the host: `unsent` are those of a thread that has changed the table and
    not yet queued them, `pending` those in the queue of the dispatcher. -/
structure AdapterStreams where
  active : StreamMap := ∅
  generations : ℕ → ℕ := fun _ => 0
  unsent : ℕ → List MediaStreamEvent := fun _ => []
  pending : List MediaStreamEvent := []

namespace AdapterStreams

/-- The next generation of a stream id, a 64-bit counter that skips zero. -/
def nextGeneration (a : AdapterStreams) (streamId : ℕ) : ℕ :=
  let generation := (a.generations streamId + 1) % 2 ^ 64
  if generation = 0 then 1 else generation

/-- The section of `configure_media_stream_kind` that publishes a new stream. -/
def openStream (a : AdapterStreams) (thread : ℕ) (deviceId : String) (streamId : ℕ)
    (reason : MediaStreamEventReason) : AdapterStreams :=
  let descriptor : MediaStreamDescriptor :=
    { key := { streamId := streamId, generation := a.nextGeneration streamId }
      deviceId := deviceId }
  let replaced : List MediaStreamEvent := match a.active[streamId]? with
    | some d => [{ kind := .closed, descriptor := d, reason := reason }]
    | none => []
  { a with
    active := a.active.insert streamId descriptor
    generations := update a.generations streamId (a.nextGeneration streamId)
    unsent := update a.unsent thread
      (a.unsent thread ++ replaced ++ [{ kind := .opened, descriptor := descriptor, reason }]) }

/-- A section that takes streams out of the table. -/
def closeStreams (a : AdapterStreams) (thread : ℕ) (streamIds : List ℕ)
    (reason : MediaStreamEventReason) : AdapterStreams :=
  { a with
    active := streamIds.foldl (fun m i => m.erase i) a.active
    unsent := update a.unsent thread
      (a.unsent thread ++ (streamIds.filterMap (a.active[·]?)).map fun d =>
        { kind := .closed, descriptor := d, reason := reason }) }

/-- `enqueue_media_stream_events`. -/
def enqueue (a : AdapterStreams) (thread : ℕ) : AdapterStreams :=
  { a with
    unsent := update a.unsent thread []
    pending := a.pending ++ a.unsent thread }

end AdapterStreams

/-! ## The host and its outlets -/

/-- What a publishing thread has still to hand to an outlet. -/
inductive Delivery where
  | frame (outlet : ℕ) (frame : MediaFrame)
  | event (outlet : ℕ) (event : MediaStreamEvent)

def Delivery.outlet : Delivery → ℕ
  | frame k _ | event k _ => k

/-- Thread `n` makes the call on an outlet. -/
def Delivery.Calls (n : ℕ) : Delivery → OutletEvent → Prop
  | frame _ f, .relay e => e = .published f
  | frame _ f, .frames e => e = .published (.client n) f
  | frame _ f, .streams e => ∃ queued, e = .entered (.client n) (.publishFrame f) queued
  | event _ ev, .streams e => ∃ queued, e = .entered (.client n) (.publishStreamEvent ev) queued
  | event _ _, _ => False

/-- The media containers of `AxentHost::Impl`.  `outlets` lists all outlets ever
    made, with the leases that they were made for; `deliveries`, `publishing`
    and `activating` belong to calls in progress, and `releaser` and `closing`
    to a `release_session` that has taken its subscriptions. -/
structure MediaHost where
  host : Host
  outlets : List (SessionLease × Outlet) := []
  relays : String → Option ℕ := fun _ => none
  subscriptions : String → List ℕ := fun _ => []
  streamSubscriptions : String → List ℕ := fun _ => []
  activeMediaStreams : String → StreamMap := fun _ => ∅
  adapter : String → AdapterStreams := fun _ => {}
  publishing : ℕ → List (String × MediaStreamEvent) := fun _ => []
  deliveries : ℕ → List Delivery := fun _ => []
  activating : List ℕ := []
  releaser : ℕ := 0
  closing : List ℕ := []

/-- A new stream subscription, after `prime_opened` of `descriptors`. -/
def MediaStream.Subscription.primed (options : MediaSubscriptionOptions) (thread : ThreadId)
    (descriptors : List MediaStreamDescriptor) : Subscription where
  core := descriptors.foldl (fun c d => (c.publishStreamEvent thread true
    { kind := .opened, descriptor := d, reason := .snapshot }).core) { options := options }

namespace MediaHost

/-- A host that has just been started. -/
def init (devices : DeviceManager) (adapter : Option HostAdapter) : MediaHost where
  host := { running := true, broker := true, devices := some devices, adapter := adapter }

/-- The lease of a session, if it may have media. -/
def mediaLease (s : MediaHost) (sessionId : String) : Option SessionLease :=
  (s.host.table.lookup sessionId).filter (·.media)

/-- Of the listed outlets, those that are active. -/
def activeOf (s : MediaHost) (outlets : List ℕ) : List ℕ :=
  outlets.filter fun k => s.outlets[k]?.any fun o => o.2.active

/-- The lease that owns the media of a device. -/
def mediaOwner (s : MediaHost) (deviceId : String) : Option SessionLease :=
  (s.host.table.mediaOwner deviceId).bind s.mediaLease

/-- The locked section of `publish_media_frame_for_device`: the outlets that get
    the frame, and the frame. -/
def captureFrame (s : MediaHost) (deviceId : String) (frame : MediaFrame) :
    Option (List ℕ × MediaFrame) :=
  match s.mediaOwner deviceId with
  | none => none
  | some lease =>
    if frame.sessionId = "" ∨ frame.sessionId ≠ lease.sessionId then none
    else
      let targets := (s.relays lease.sessionId).toList ++
        s.activeOf (s.subscriptions lease.sessionId) ++
        s.activeOf (s.streamSubscriptions lease.sessionId)
      if targets = [] then none else some (targets, { frame with deviceId := deviceId })

/-- What a stream event changes in `active_media_streams`: the events for the
    subscriptions, and the streams that are then open. -/
def lifecycle (active : StreamMap) (event : MediaStreamEvent) :
    Option (List MediaStreamEvent × StreamMap) :=
  let streamId := event.descriptor.key.streamId
  match event.kind, active[streamId]? with
  | .opened, some current =>
    if current.key = event.descriptor.key then none
    else some ([{ kind := .closed, descriptor := current, reason := event.reason }, event],
      active.insert streamId event.descriptor)
  | .opened, none => some ([event], active.insert streamId event.descriptor)
  | .closed, some current =>
    if current.key = event.descriptor.key then
      some ([{ kind := .closed, descriptor := current, reason := event.reason }],
        active.erase streamId)
    else none
  | .closed, none => none

/-- The event with the device and the session of the lease. -/
def stamp (lease : SessionLease) (event : MediaStreamEvent) : MediaStreamEvent :=
  { event with descriptor :=
      { key := { event.descriptor.key with sessionId := lease.sessionId }
        deviceId := lease.deviceId } }

/-- The locked section of `publish_media_stream_event_for_session`, on the
    thread `n`. -/
def publishStreamEvent (s : MediaHost) (n : ℕ) (sessionId : String) (event : MediaStreamEvent) :
    MediaHost :=
  match s.mediaLease sessionId with
  | none => s
  | some lease =>
    if event.descriptor.key.streamId = 0 ∨ event.descriptor.key.generation = 0 then s
    else
      match lifecycle (s.activeMediaStreams lease.sessionId) (stamp lease event) with
      | none => s
      | some (events, active) =>
        { s with
          activeMediaStreams := update s.activeMediaStreams lease.sessionId active
          deliveries := update s.deliveries n
            ((events.flatMap fun e =>
                (s.activeOf (s.streamSubscriptions lease.sessionId)).map fun k => .event k e) ++
              s.deliveries n) }

/-- The streams of the lease's device, as `subscribe_media_stream` reads them
    from the adapter. -/
def adapterDescriptors (s : MediaHost) (lease : SessionLease) : List MediaStreamDescriptor :=
  if s.host.axtpAdapter.isSome && s.host.isAxtpDevice lease.deviceId then
    (s.adapter lease.deviceId).active.toList.map Prod.snd
  else []

/-- One descriptor is merged into `active_media_streams`. -/
def mergeStream (lease : SessionLease) (active : StreamMap) (d : MediaStreamDescriptor) :
    StreamMap :=
  if d.deviceId ≠ "" ∧ d.deviceId ≠ lease.deviceId then active
  else
    active.insert d.key.streamId
      { key := { d.key with sessionId := lease.sessionId }, deviceId := lease.deviceId }

/-- The streams of a session after the merge. -/
def mergedStreams (s : MediaHost) (lease : SessionLease) : StreamMap :=
  (s.adapterDescriptors lease).foldl (mergeStream lease) (s.activeMediaStreams lease.sessionId)

/-- A new outlet for a lease. -/
def addOutlet (s : MediaHost) (lease : SessionLease) (o : Outlet) : MediaHost :=
  { s with outlets := s.outlets ++ [(lease, o)] }

def setOutlet (s : MediaHost) (k : ℕ) (o : Outlet) : MediaHost :=
  { s with outlets := s.outlets.modify k fun p => (p.1, o) }

/-- The end of the section of `create_media_consumer` that makes a relay. -/
def createRelay (s : MediaHost) (lease : SessionLease) (options : MediaRelayOptions) :
    MediaHost :=
  { s.addOutlet lease (.relay { options := options }) with
    relays := update s.relays lease.sessionId (some s.outlets.length) }

/-- The section of `subscribe_media`. -/
def subscribeMedia (s : MediaHost) (lease : SessionLease) (options : MediaSubscriptionOptions) :
    MediaHost :=
  { s.addOutlet lease (.frames (.start options)) with
    subscriptions := update s.subscriptions lease.sessionId
      (s.subscriptions lease.sessionId ++ [s.outlets.length]) }

/-- The weak references to a subscription do not lock any more. -/
def expire (s : MediaHost) (k : ℕ) : MediaHost :=
  { s with
    subscriptions := fun id => (s.subscriptions id).filter (· ≠ k)
    streamSubscriptions := fun id => (s.streamSubscriptions id).filter (· ≠ k) }

/-- The section of `subscribe_media_stream`, on the thread `n`. -/
def subscribeMediaStream (s : MediaHost) (n : ℕ) (lease : SessionLease)
    (options : MediaSubscriptionOptions) : MediaHost :=
  let active := s.mergedStreams lease
  { s.addOutlet lease
      (.streams (.primed options (.client n) (active.toList.map Prod.snd))) with
    activeMediaStreams := update s.activeMediaStreams lease.sessionId active
    streamSubscriptions := update s.streamSubscriptions lease.sessionId
      (s.streamSubscriptions lease.sessionId ++ [s.outlets.length])
    activating := s.activating ++ [s.outlets.length] }

/-- The media part of the locked section of `release_session`, on the thread
    `n`. -/
def release (s : MediaHost) (n : ℕ) (sessionId : String) (host : Host) : MediaHost :=
  { s with
    host := host
    outlets := match s.relays sessionId with
      | some k => s.outlets.modify k fun p => (p.1, p.2.closeRelay)
      | none => s.outlets
    relays := update s.relays sessionId none
    subscriptions := update s.subscriptions sessionId []
    streamSubscriptions := update s.streamSubscriptions sessionId []
    activeMediaStreams := update s.activeMediaStreams sessionId ∅
    releaser := n
    closing := s.subscriptions sessionId ++ s.streamSubscriptions sessionId }

end MediaHost

/-- `release_session` has unbound the adapter and cancels its subscriptions, or
    is after that. -/
def Dispatch.atSubscriptions : Dispatch → Bool
  | releasing _ [] none _ => true
  | _ => false

/-- The `cancel` or `close_streams_and_cancel` that `release_session` makes on
    its thread `n` has returned. -/
def OutletEvent.ReleaseReturned (n : ℕ) : OutletEvent → Outlet → Prop
  | frames e, .frames s => e = .cancelled (.client n) ∧ s.threads (.client n) = []
  | streams e, .streams s =>
    (∃ own, e = .returned (.client n) (.cancel true) own) ∧ s.threads (.client n) = []
  | _, _ => False

inductive HostMediaEvent where
  | internal
  | host (event : HostEvent)
  /-- `create_media_consumer` returned a consumer of the relay `outlet` -/
  | consumer (outlet : ℕ) (lease : SessionLease)
  /-- the section of `subscribe_media` -/
  | subscribed (outlet : ℕ) (lease : SessionLease)
  /-- the section of `subscribe_media_stream` -/
  | streamSubscribed (outlet : ℕ) (lease : SessionLease)
  /-- the section of `publish_media_frame_for_device` -/
  | framePublished (deviceId : String) (frame : MediaFrame)
  /-- the section of `publish_media_stream_event_for_session` -/
  | streamEventPublished (sessionId : String) (event : MediaStreamEvent)
  /-- the last reference to the subscription is gone: its destructor runs -/
  | expired (outlet : ℕ)
  /-- a client's `cancel`, or the destructor's, returned outside the callbacks -/
  | cancelled (outlet : ℕ)
  /-- another step of an outlet -/
  | outlet (outlet : ℕ) (event : OutletEvent)

/-- One step of the host, of its outlets or of its adapter. -/
inductive MediaHostStep : MediaHost → HostMediaEvent → MediaHost → Prop
  -- the leases
  | host {s : MediaHost} {e : HostEvent} {host : Host} (h : HostStep s.host e host)
      (hr : e ≠ .reset) (hb : ∀ sessionId, e ≠ .releaseBegan sessionId)
      (hw : s.closing ≠ [] → s.host.dispatch.atSubscriptions = true →
        host.dispatch = s.host.dispatch) :
      MediaHostStep s (.host e) { s with host := host }
  | release {s : MediaHost} {sessionId : String} {host : Host} (n : ℕ)
      (h : HostStep s.host (.releaseBegan sessionId) host)
      (hn : ∀ o ∈ s.outlets, o.2.inSink n = false) :
      MediaHostStep s (.host (.releaseBegan sessionId)) (s.release n sessionId host)
  | closeReturned {s : MediaHost} {k : ℕ} {rest : List ℕ} {lease : SessionLease} {o o' : Outlet}
      {e : OutletEvent} (hd : s.host.dispatch.atSubscriptions = true)
      (hc : s.closing = k :: rest) (hk : s.outlets[k]? = some (lease, o)) (h : OutletStep o e o')
      (he : e.ReleaseReturned s.releaser o') :
      MediaHostStep s (.outlet k e) { s.setOutlet k o' with closing := rest }
  -- consumers and subscriptions
  | createConsumer {s : MediaHost} {sessionId : String} {lease : SessionLease}
      (options : MediaRelayOptions) (hl : s.mediaLease sessionId = some lease)
      (hr : s.relays lease.sessionId = none) :
      MediaHostStep s (.consumer s.outlets.length lease) (s.createRelay lease options)
  | shareRelay {s : MediaHost} {sessionId : String} {lease : SessionLease} {k : ℕ}
      (hl : s.mediaLease sessionId = some lease) (hr : s.relays lease.sessionId = some k) :
      MediaHostStep s (.consumer k lease) s
  | subscribeMedia {s : MediaHost} {sessionId : String} {lease : SessionLease}
      (options : MediaSubscriptionOptions) (hl : s.mediaLease sessionId = some lease) :
      MediaHostStep s (.subscribed s.outlets.length lease) (s.subscribeMedia lease options)
  | subscribeMediaStream {s : MediaHost} {sessionId : String} {lease : SessionLease} (n : ℕ)
      (options : MediaSubscriptionOptions) (hl : s.mediaLease sessionId = some lease) :
      MediaHostStep s (.streamSubscribed s.outlets.length lease)
        (s.subscribeMediaStream n lease options)
  | activate {s : MediaHost} {k : ℕ} {lease : SessionLease} {o o' : Outlet} {n : ℕ}
      {queued : List MediaStream.Item} (ha : k ∈ s.activating)
      (hk : s.outlets[k]? = some (lease, o))
      (h : OutletStep o (.streams (.entered (.client n) .activate queued)) o') :
      MediaHostStep s (.outlet k (.streams (.entered (.client n) .activate queued)))
        { s.setOutlet k o' with activating := s.activating.erase k }
  -- publishing
  | publishFrame {s : MediaHost} {deviceId : String} {frame frame' : MediaFrame}
      {targets : List ℕ} (n : ℕ) (h : s.captureFrame deviceId frame = some (targets, frame')) :
      MediaHostStep s (.framePublished deviceId frame)
        { s with
          deliveries := update s.deliveries n
            (targets.map (.frame · frame') ++ s.deliveries n) }
  | publishStreamEvent (s : MediaHost) (n : ℕ) (sessionId : String) (event : MediaStreamEvent)
      (hn : ∀ o ∈ s.outlets, o.2.inSink n = false) :
      MediaHostStep s (.streamEventPublished sessionId event)
        (s.publishStreamEvent n sessionId event)
  | publishAdapterEvent {s : MediaHost} {n : ℕ} {sessionId : String} {event : MediaStreamEvent}
      {rest : List (String × MediaStreamEvent)}
      (hp : s.publishing n = (sessionId, event) :: rest) :
      MediaHostStep s (.streamEventPublished sessionId event)
        { s.publishStreamEvent n sessionId event with
          publishing := update s.publishing n rest }
  | deliver {s : MediaHost} {n : ℕ} {d : Delivery} {rest : List Delivery} {lease : SessionLease}
      {o o' : Outlet} {e : OutletEvent} (hd : s.deliveries n = d :: rest)
      (hk : s.outlets[d.outlet]? = some (lease, o)) (h : OutletStep o e o') (he : d.Calls n e) :
      MediaHostStep s (.outlet d.outlet e)
        { s.setOutlet d.outlet o' with deliveries := update s.deliveries n rest }
  -- inside an outlet
  | outlet {s : MediaHost} {k : ℕ} {lease : SessionLease} {o o' : Outlet} {e : OutletEvent}
      (hk : s.outlets[k]? = some (lease, o)) (h : OutletStep o e o') (he : e.IsFree)
      (hs : ¬ e.Shuts o') : MediaHostStep s (.outlet k e) (s.setOutlet k o')
  | cancelled {s : MediaHost} {k : ℕ} {lease : SessionLease} {o o' : Outlet} {e : OutletEvent}
      (hk : s.outlets[k]? = some (lease, o)) (h : OutletStep o e o') (he : e.IsFree)
      (hs : e.Shuts o') : MediaHostStep s (.cancelled k) (s.setOutlet k o')
  -- calls hold the subscriptions that they use, and the host its relays
  | expire {s : MediaHost} {k : ℕ} (hd : ∀ n, ∀ d ∈ s.deliveries n, d.outlet ≠ k)
      (ha : k ∉ s.activating) (hc : k ∉ s.closing) (hr : ∀ id, s.relays id ≠ some k) :
      MediaHostStep s (.expired k) (s.expire k)
  -- the stream tables of the adapter
  | adapterOpen (s : MediaHost) (n : ℕ) (deviceId : String) {streamId : ℕ} (hi : streamId ≠ 0)
      (reason : MediaStreamEventReason) :
      MediaHostStep s .internal
        { s with
          adapter := update s.adapter deviceId
            ((s.adapter deviceId).openStream n deviceId streamId reason) }
  | adapterClose (s : MediaHost) (n : ℕ) (deviceId : String) (streamIds : List ℕ)
      (reason : MediaStreamEventReason) :
      MediaHostStep s .internal
        { s with
          adapter := update s.adapter deviceId
            ((s.adapter deviceId).closeStreams n streamIds reason) }
  | adapterEnqueue (s : MediaHost) (n : ℕ) (deviceId : String) :
      MediaHostStep s .internal
        { s with
          adapter := update s.adapter deviceId
            ((s.adapter deviceId).enqueue n) }
  -- `publish_media_stream_event_for_device`, by the dispatcher of the adapter
  | adapterDispatch {s : MediaHost} {deviceId : String} {event : MediaStreamEvent}
      {rest : List MediaStreamEvent} (n : ℕ)
      (hp : (s.adapter deviceId).pending = event :: rest) :
      MediaHostStep s .internal
        { s with
          adapter := update s.adapter deviceId
            { s.adapter deviceId with pending := rest }
          publishing := match s.mediaOwner event.descriptor.deviceId with
            | some lease => update s.publishing n
                ((lease.sessionId, event) :: s.publishing n)
            | none => s.publishing }

end Axent
