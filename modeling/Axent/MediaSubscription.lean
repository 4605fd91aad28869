/-
  `MediaSubscriptionState` (`src/host/axent_host.cpp`): a media subscription,
  with all the threads that use it.

  With `Direct` dispatch a frame goes to the sink on the thread that publishes
  it; otherwise it is queued, and a worker takes it from the queue in one locked
  section and begins its callback in a later one.  A `cancel` therefore joins
  the worker and waits for the callbacks in flight, unless it is called inside
  one of them.

  As in `MediaStreamSubscription`, a thread is the stack of its calls, and a
  step is one locked section, one call of the sink, or a return.  When a
  `cancel` from outside has returned, no frame is with the sink and none is on
  its way there (`Subscription.NoFrames`), and this is for good: the
  subscription is a gate.
-/
import Axent.Lib.Gate
import Axent.Lib.Run
import Axent.MediaRelay
import Axent.MediaStreamCore

namespace Axent.MediaSubscription

open Lib Function
open MediaStream (ThreadId)

/-! ## The state and its locked sections -/

/-- `Core`.  `callbacks` lists the thread of every callback in flight: its
    length is `callbacks_in_flight_`, and it counts each thread as often as
    `callback_depths_` does.  `worker` says that `worker_` is joinable. -/
structure Core where
  options : MediaSubscriptionOptions := {}
  queue : List MediaFrame := []
  events : List MediaEvent := []
  queuedBytes : ℕ := 0
  stats : MediaDeliveryStats := {}
  closed : Bool := false
  cancelComplete : Bool := false
  callbacks : List ThreadId := []
  worker : Bool := false

namespace Core

def isDirect (c : Core) : Bool := c.options.dispatch = .direct

/-- `active`. -/
def active (c : Core) : Bool := !c.closed

/-- `over_limit_locked`. -/
def overLimit (c : Core) : Bool :=
  (c.options.maxFrames ≠ 0 ∧ c.options.maxFrames < c.queue.length) ∨
    (c.options.maxBytes ≠ 0 ∧ c.options.maxBytes < c.queuedBytes)

/-- `drop_front_locked`. -/
def dropFront (c : Core) : Core :=
  match c.queue with
  | [] => c
  | f :: rest =>
    { c with
      queue := rest
      queuedBytes := c.queuedBytes - f.payload.length
      stats := { c.stats with
        droppedFrames := c.stats.droppedFrames + 1
        droppedBytes := c.stats.droppedBytes + f.payload.length } }

/-- The loop of `publish` that drops frames, and whether it dropped any; every
    round drops a frame, so the length of the queue bounds the rounds. -/
def dropFrames : ℕ → Core → Core × Bool
  | 0, c => (c, false)
  | n + 1, c =>
    if c.overLimit ∧ c.queue ≠ [] then ((dropFrames n c.dropFront).1, true) else (c, false)

/-- The front frame gets the flag `Discontinuity`. -/
def markFront (c : Core) : Core :=
  match c.queue with
  | [] => c
  | f :: rest => { c with queue := f.discontinuous :: rest }

/-- The event about the frames dropped so far replaces one at the back. -/
def notifyDropped (c : Core) : Core :=
  let event : MediaEvent :=
    { kind := .dropped
      droppedFrames := c.stats.droppedFrames
      droppedBytes := c.stats.droppedBytes }
  match c.events.getLast? with
  | some last =>
    if last.kind = .dropped then { c with events := c.events.dropLast ++ [event] }
    else { c with events := c.events ++ [event] }
  | none => { c with events := [event] }

/-- `refresh_stats_locked`. -/
def refreshStats (c : Core) : Core :=
  { c with
    stats := { c.stats with queuedFrames := c.queue.length, queuedBytes := c.queuedBytes } }

/-- A frame counted as received and queued. -/
def enqueue (c : Core) (frame : MediaFrame) : Core :=
  { c with
    queue := c.queue ++ [frame]
    queuedBytes := c.queuedBytes + frame.payload.length
    stats := { c.stats with receivedFrames := c.stats.receivedFrames + 1 } }

/-- The end of `publish`: the queue is kept within its limits. -/
def limitQueue (c : Core) : Core :=
  let dropped := c.dropFrames c.queue.length
  if dropped.2 then dropped.1.markFront.notifyDropped else dropped.1

/-- `publish` to the worker. -/
def publish (c : Core) (frame : MediaFrame) : Core :=
  if c.closed then c else (c.enqueue frame).limitQueue.refreshStats

/-- `begin_callback_locked`. -/
def beginCallback (c : Core) (thread : ThreadId) : Core :=
  { c with callbacks := thread :: c.callbacks }

/-- `end_callback`. -/
def endCallback (c : Core) (thread : ThreadId) : Core :=
  { c with callbacks := c.callbacks.erase thread }

/-- The first section of `publish_direct`, if the subscription is open. -/
def reserve (c : Core) (thread : ThreadId) : Core :=
  { c with stats := { c.stats with receivedFrames := c.stats.receivedFrames + 1 } }.beginCallback
    thread

def countDelivered (c : Core) : Core :=
  { c with stats := { c.stats with deliveredFrames := c.stats.deliveredFrames + 1 } }

/-- The section of `run` that takes an event. -/
def takeEvent (c : Core) (rest : List MediaEvent) : Core := { c with events := rest }

/-- The section of `run` that takes a frame. -/
def takeFrame (c : Core) (frame : MediaFrame) (rest : List MediaFrame) : Core :=
  { c with queue := rest, queuedBytes := c.queuedBytes - frame.payload.length }.refreshStats

/-- The section of the first `cancel`. -/
def close (c : Core) : Core :=
  { c with closed := true, queue := [], events := [], queuedBytes := 0, worker := false
    }.refreshStats

end Core

/-! ## Threads -/

/-- A call on the stack of a thread, and where it is. -/
inductive Activation where
  /-- in `publish_direct`, with a reserved callback -/
  | reserved (frame : MediaFrame)
  /-- in `publish_direct`, calling the sink -/
  | dispatchFrame (frame : MediaFrame)
  /-- in `publish_direct`, after the callback -/
  | countDirect
  /-- in `cancel`, joining the worker; `self` is `self_cancel` -/
  | join (self : Bool)
  /-- in `cancel`, waiting for the callbacks in flight -/
  | awaitCallbacks
  /-- in `cancel`, before the event `Closed` -/
  | closing
  /-- in `cancel`, calling the sink with `Closed` -/
  | dispatchClosed
  /-- in `cancel`, after the event `Closed` -/
  | completing
  /-- in `cancel`, after another call closed the subscription -/
  | awaitComplete
  /-- before the return of `cancel` -/
  | leave
  /-- in `run`, before it takes something -/
  | run
  /-- in `run`, with an event that it has taken -/
  | takenEvent (event : MediaEvent)
  /-- in `run`, calling the sink with an event -/
  | runEvent (event : MediaEvent)
  /-- in `run`, with a frame that it has taken -/
  | takenFrame (frame : MediaFrame)
  /-- in `run`, calling the sink with a frame -/
  | runFrame (frame : MediaFrame)
  /-- in `run`, after the callback for a frame -/
  | countFrame
  deriving DecidableEq, Repr

namespace Activation

/-- A callback in flight. -/
def isCallback : Activation → Bool
  | reserved _ | dispatchFrame _ | dispatchClosed | runEvent _ | runFrame _ => true
  | _ => false

/-- The thread is in the code of the sink. -/
def inSink : Activation → Bool
  | reserved _ => false
  | a => a.isCallback

/-- A frame is with the sink, or the thread is about to hand it over. -/
def isFrame : Activation → Bool
  | reserved _ | dispatchFrame _ | takenFrame _ | runFrame _ => true
  | _ => false

/-- The frame that the thread is about to hand over. -/
def pending : Activation → Option MediaFrame
  | reserved frame | takenFrame frame => some frame
  | _ => none

end Activation

/-- A subscription and its threads. -/
structure Subscription where
  core : Core
  threads : ThreadId → List Activation := fun _ => []

/-- A thread may call from outside, unless it is the worker, and from inside the
    sink. -/
def mayCall : ThreadId → List Activation → Bool
  | .client _, [] => true
  | .worker _, [] => false
  | _, a :: _ => a.inSink

namespace Core

/-- `cancel` after the worker is gone, or left alone. -/
def afterJoin (self : Bool) : Activation := if self then .closing else .awaitCallbacks

/-- `cancel`. -/
def cancel (c : Core) (thread : ThreadId) : Core × Activation :=
  let self : Bool := thread ∈ c.callbacks
  if c.closed then (c, if self then .leave else .awaitComplete)
  else if c.worker ∧ thread ≠ .worker 0 then (c.close, .join self)
  else (c.close, afterJoin self)

end Core

inductive Event where
  | internal
  /-- the first section of `publish` -/
  | published (thread : ThreadId) (frame : MediaFrame)
  /-- the sink is called with a frame -/
  | started (thread : ThreadId) (frame : MediaFrame)
  | finished (thread : ThreadId) (frame : MediaFrame)
  /-- the first section of `cancel` -/
  | cancelling (thread : ThreadId)
  /-- `cancel` returned -/
  | cancelled (thread : ThreadId)

namespace Subscription

/-- The thread `thread` with another stack. -/
def setThread (s : Subscription) (thread : ThreadId) (core : Core) (stack : List Activation) :
    Subscription where
  core := core
  threads := update s.threads thread stack

/-- A new subscription; `start` has started its worker. -/
def start (options : MediaSubscriptionOptions) : Subscription where
  core := { options := options, worker := options.dispatch ≠ .direct }
  threads := if options.dispatch = .direct then fun _ => []
    else update (fun _ => []) (.worker 0) [.run]

end Subscription

/-- One step of one thread. -/
inductive SubscriptionStep : Subscription → Event → Subscription → Prop
  -- publish
  | publish (s : Subscription) (thread : ThreadId) (frame : MediaFrame)
      (hm : mayCall thread (s.threads thread) = true) (hd : s.core.isDirect = false) :
      SubscriptionStep s (.published thread frame) { s with core := s.core.publish frame }
  | publishClosed (s : Subscription) (thread : ThreadId) (frame : MediaFrame)
      (hm : mayCall thread (s.threads thread) = true) (hd : s.core.isDirect = true)
      (hc : s.core.closed = true) :
      SubscriptionStep s (.published thread frame) s
  | publishDirect (s : Subscription) (thread : ThreadId) (frame : MediaFrame)
      (hm : mayCall thread (s.threads thread) = true) (hd : s.core.isDirect = true)
      (hc : s.core.closed = false) :
      SubscriptionStep s (.published thread frame)
        (s.setThread thread (s.core.reserve thread) (.reserved frame :: s.threads thread))
  | callSink {s : Subscription} {thread : ThreadId} {frame : MediaFrame} {rest : List Activation}
      (ht : s.threads thread = .reserved frame :: rest) :
      SubscriptionStep s (.started thread frame)
        (s.setThread thread s.core (.dispatchFrame frame :: rest))
  | directReturned {s : Subscription} {thread : ThreadId} {frame : MediaFrame}
      {rest : List Activation} (ht : s.threads thread = .dispatchFrame frame :: rest) :
      SubscriptionStep s (.finished thread frame)
        (s.setThread thread (s.core.endCallback thread) (.countDirect :: rest))
  | countDirect {s : Subscription} {thread : ThreadId} {rest : List Activation}
      (ht : s.threads thread = .countDirect :: rest) :
      SubscriptionStep s .internal (s.setThread thread s.core.countDelivered rest)
  -- cancel
  | cancel (s : Subscription) (thread : ThreadId)
      (hm : mayCall thread (s.threads thread) = true) :
      SubscriptionStep s (.cancelling thread)
        (s.setThread thread (s.core.cancel thread).1
          ((s.core.cancel thread).2 :: s.threads thread))
  | join {s : Subscription} {thread : ThreadId} {self : Bool} {rest : List Activation}
      (ht : s.threads thread = .join self :: rest) (hw : s.threads (.worker 0) = []) :
      SubscriptionStep s .internal (s.setThread thread s.core (Core.afterJoin self :: rest))
  | awaitCallbacks {s : Subscription} {thread : ThreadId} {rest : List Activation}
      (ht : s.threads thread = .awaitCallbacks :: rest) (hc : s.core.callbacks = []) :
      SubscriptionStep s .internal (s.setThread thread s.core (.closing :: rest))
  | closing {s : Subscription} {thread : ThreadId} {rest : List Activation}
      (ht : s.threads thread = .closing :: rest) :
      SubscriptionStep s .internal
        (s.setThread thread (s.core.beginCallback thread) (.dispatchClosed :: rest))
  | closedReturned {s : Subscription} {thread : ThreadId} {rest : List Activation}
      (ht : s.threads thread = .dispatchClosed :: rest) :
      SubscriptionStep s .internal
        (s.setThread thread (s.core.endCallback thread) (.completing :: rest))
  | complete {s : Subscription} {thread : ThreadId} {rest : List Activation}
      (ht : s.threads thread = .completing :: rest) :
      SubscriptionStep s .internal
        (s.setThread thread { s.core with cancelComplete := true } (.leave :: rest))
  | awaitComplete {s : Subscription} {thread : ThreadId} {rest : List Activation}
      (ht : s.threads thread = .awaitComplete :: rest) (hc : s.core.cancelComplete = true)
      (hn : s.core.callbacks = []) :
      SubscriptionStep s .internal (s.setThread thread s.core (.leave :: rest))
  | leave {s : Subscription} {thread : ThreadId} {rest : List Activation}
      (ht : s.threads thread = .leave :: rest) :
      SubscriptionStep s (.cancelled thread) (s.setThread thread s.core rest)
  -- run
  | takeEvent {s : Subscription} {thread : ThreadId} {event : MediaEvent}
      {events : List MediaEvent} {rest : List Activation} (ht : s.threads thread = .run :: rest)
      (he : s.core.events = event :: events) :
      SubscriptionStep s .internal
        (s.setThread thread (s.core.takeEvent events) (.takenEvent event :: rest))
  | beginEvent {s : Subscription} {thread : ThreadId} {event : MediaEvent}
      {rest : List Activation} (ht : s.threads thread = .takenEvent event :: rest) :
      SubscriptionStep s .internal
        (s.setThread thread (s.core.beginCallback thread) (.runEvent event :: rest))
  | eventReturned {s : Subscription} {thread : ThreadId} {event : MediaEvent}
      {rest : List Activation} (ht : s.threads thread = .runEvent event :: rest) :
      SubscriptionStep s .internal
        (s.setThread thread (s.core.endCallback thread) (.run :: rest))
  | takeFrame {s : Subscription} {thread : ThreadId} {frame : MediaFrame}
      {queue : List MediaFrame} {rest : List Activation} (ht : s.threads thread = .run :: rest)
      (he : s.core.events = []) (hq : s.core.queue = frame :: queue) :
      SubscriptionStep s .internal
        (s.setThread thread (s.core.takeFrame frame queue) (.takenFrame frame :: rest))
  | beginFrame {s : Subscription} {thread : ThreadId} {frame : MediaFrame}
      {rest : List Activation} (ht : s.threads thread = .takenFrame frame :: rest) :
      SubscriptionStep s (.started thread frame)
        (s.setThread thread (s.core.beginCallback thread) (.runFrame frame :: rest))
  | frameReturned {s : Subscription} {thread : ThreadId} {frame : MediaFrame}
      {rest : List Activation} (ht : s.threads thread = .runFrame frame :: rest) :
      SubscriptionStep s (.finished thread frame)
        (s.setThread thread (s.core.endCallback thread) (.countFrame :: rest))
  | countFrame {s : Subscription} {thread : ThreadId} {rest : List Activation}
      (ht : s.threads thread = .countFrame :: rest) :
      SubscriptionStep s .internal (s.setThread thread s.core.countDelivered (.run :: rest))
  | runEnd {s : Subscription} {thread : ThreadId} {rest : List Activation}
      (ht : s.threads thread = .run :: rest) (he : s.core.events = []) (hq : s.core.queue = [])
      (hc : s.core.closed = true) :
      SubscriptionStep s .internal (s.setThread thread s.core rest)

/-! ## The invariant -/

namespace Subscription

/-- The subscription is closed, and the worker has no frame that it is about to
    hand over. -/
def Quiet (s : Subscription) : Prop :=
  s.core.closed = true ∧ ∀ thread frame, .takenFrame frame ∉ s.threads thread

/-- The subscription is closed, and no frame is with the sink or on its way
    there. -/
def NoFrames (s : Subscription) : Prop :=
  s.core.closed = true ∧ ∀ thread, ∀ a ∈ s.threads thread, a.isFrame = false

end Subscription

/-- What is known when a call is at `a` and the stack below it is `rest`. -/
def Activation.Fits (s : Subscription) (thread : ThreadId) (rest : List Activation) :
    Activation → Prop
  | reserved _ | dispatchFrame _ | countDirect | awaitComplete => True
  | join self => s.core.closed = true ∧ (self = true → rest ≠ [])
  | awaitCallbacks => s.Quiet
  | closing | dispatchClosed | completing => s.Quiet ∧ (rest = [] → s.NoFrames)
  | leave => rest = [] → s.NoFrames
  | run | takenEvent _ | runEvent _ | takenFrame _ | runFrame _ | countFrame =>
    thread = .worker 0 ∧ rest = []

/-- A stack on which calls lie on top of callbacks only. -/
def Fits (s : Subscription) (thread : ThreadId) : List Activation → Prop
  | [] => True
  | a :: rest => a.Fits s thread rest ∧ (∀ b ∈ rest, b.inSink = true) ∧ Fits s thread rest

/-- A subscription and its threads, as they can be reached. -/
structure Inv (s : Subscription) : Prop where
  depth : ∀ thread, s.core.callbacks.count thread = (s.threads thread).countP Activation.isCallback
  fits : ∀ thread, Fits s thread (s.threads thread)
  queue : s.core.closed = true → s.core.queue = []
  direct : s.core.isDirect = true → s.threads (.worker 0) = []
  worker : s.core.closed = false → s.core.worker = !s.core.isDirect
  complete : s.core.cancelComplete = true → s.Quiet

section
variable {s s' : Subscription} {thread : ThreadId} {core : Core} {old new rest : List Activation}
  {a b : Activation} {frame : MediaFrame}

@[simp] theorem setThread_core : (s.setThread thread core rest).core = core := rfl

@[simp] theorem setThread_self : (s.setThread thread core rest).threads thread = rest :=
  update_self ..

theorem setThread_of_ne {thread' : ThreadId} (h : thread' ≠ thread) :
    (s.setThread thread core rest).threads thread' = s.threads thread' :=
  update_of_ne h ..

theorem Activation.Fits.mono (h : a.Fits s thread rest)
    (hclosed : s.core.closed = true → s'.core.closed = true) (hquiet : s.Quiet → s'.Quiet)
    (hframes : s.NoFrames → s'.NoFrames) : a.Fits s' thread rest := by
  cases a with
  | reserved | dispatchFrame | countDirect | awaitComplete => trivial
  | join => exact ⟨hclosed h.1, h.2⟩
  | awaitCallbacks => exact hquiet h
  | closing | dispatchClosed | completing => exact ⟨hquiet h.1, fun hr => hframes (h.2 hr)⟩
  | leave => exact fun hr => hframes (h hr)
  | run | takenEvent | runEvent | takenFrame | runFrame | countFrame => exact h

theorem Fits.mono {l : List Activation} (h : Fits s thread l)
    (hclosed : s.core.closed = true → s'.core.closed = true) (hquiet : s.Quiet → s'.Quiet)
    (hframes : s.NoFrames → s'.NoFrames) : Fits s' thread l := by
  induction l with
  | nil => trivial
  | cons a rest ih => exact ⟨h.1.mono hclosed hquiet hframes, h.2.1, ih h.2.2⟩

/-- What every step keeps: the invariant, and that no frames are on their way. -/
structure Keeps (s s' : Subscription) : Prop where
  inv : Inv s'
  noFrames : s.NoFrames → s'.NoFrames

/-- One thread exchanges the calls `old` on the top of its stack for `new`. -/
structure Moves (s : Subscription) (thread : ThreadId) (core : Core)
    (old new rest : List Activation) : Prop where
  stack : s.threads thread = old ++ rest
  depth : core.callbacks.count thread = (new ++ rest).countP Activation.isCallback
  others : ∀ t ≠ thread, core.callbacks.count t = s.core.callbacks.count t
  closed : s.core.closed = true → core.closed = true
  queue : core.closed = true → core.queue = []
  isDirect : core.isDirect = s.core.isDirect
  worker : core.closed = false → core.worker = s.core.worker
  frames : ∀ a ∈ new, a.isFrame = true → s.core.closed = false ∨
    (∃ b ∈ old, b.isFrame = true) ∧ ∀ frame, a ≠ .takenFrame frame
  inside : thread = .worker 0 → s.threads thread ≠ []

theorem Moves.mem (h : Moves s thread core old new rest) {t : ThreadId}
    (ha : a ∈ (s.setThread thread core (new ++ rest)).threads t) :
    a ∈ s.threads t ∨ t = thread ∧ a ∈ new := by
  rcases eq_or_ne t thread with rfl | hne
  · rw [setThread_self] at ha
    rcases List.mem_append.1 ha with ha | ha
    · exact .inr ⟨rfl, ha⟩
    · exact .inl (h.stack ▸ List.mem_append_right _ ha)
  · rw [setThread_of_ne hne] at ha
    exact .inl ha

theorem Moves.quiet (h : Moves s thread core old new rest) (hq : s.Quiet) :
    (s.setThread thread core (new ++ rest)).Quiet := by
  refine ⟨h.closed hq.1, fun t frame hmem => ?_⟩
  rcases h.mem hmem with hmem | ⟨-, hmem⟩
  · exact hq.2 t frame hmem
  · rcases h.frames _ hmem rfl with hopen | ⟨-, hne⟩
    · rw [hq.1] at hopen; cases hopen
    · exact hne frame rfl

theorem Moves.noFrames (h : Moves s thread core old new rest) (hn : s.NoFrames) :
    (s.setThread thread core (new ++ rest)).NoFrames := by
  refine ⟨h.closed hn.1, fun t a hmem => ?_⟩
  rcases h.mem hmem with hmem | ⟨-, hmem⟩
  · exact hn.2 t a hmem
  · by_contra hf
    rcases h.frames _ hmem (by simpa using hf) with hopen | ⟨⟨b, hb, hbf⟩, -⟩
    · rw [hn.1] at hopen; cases hopen
    · have hb' := hn.2 thread b (h.stack ▸ List.mem_append_left _ hb)
      rw [hb'] at hbf
      cases hbf

/-- The sections that leave the subscription open or closed as it is. -/
structure Core.Calm (c c' : Core) : Prop where
  closed : c'.closed = c.closed
  queue : c.queue = [] → c.closed = true → c'.queue = []
  isDirect : c'.isDirect = c.isDirect
  worker : c'.worker = c.worker

theorem Core.Calm.refl (c : Core) : Calm c c := ⟨rfl, fun h _ => h, rfl, rfl⟩

theorem Moves.of_calm (hi : Inv s) (hc : Core.Calm s.core core)
    (ht : s.threads thread = old ++ rest)
    (hdepth : core.callbacks.count thread = (new ++ rest).countP Activation.isCallback)
    (hothers : ∀ t ≠ thread, core.callbacks.count t = s.core.callbacks.count t)
    (hframes : ∀ a ∈ new, a.isFrame = true → s.core.closed = false ∨
      (∃ b ∈ old, b.isFrame = true) ∧ ∀ frame, a ≠ .takenFrame frame)
    (hinside : thread = .worker 0 → s.threads thread ≠ []) :
    Moves s thread core old new rest where
  stack := ht
  depth := hdepth
  others := hothers
  closed h := hc.closed.trans h
  queue h := hc.queue (hi.queue (hc.closed ▸ h)) (hc.closed ▸ h)
  isDirect := hc.isDirect
  worker _ := hc.worker
  frames := hframes
  inside := hinside

theorem Inv.depth_same (hi : Inv s) (old : List Activation) (ht : s.threads thread = old ++ rest)
    (hn : new.countP Activation.isCallback = old.countP Activation.isCallback) :
    s.core.callbacks.count thread = (new ++ rest).countP Activation.isCallback := by
  rw [hi.depth, ht, List.countP_append, List.countP_append, hn]

theorem Inv.depth_begin (hi : Inv s) (old : List Activation) (ht : s.threads thread = old ++ rest)
    (hn : new.countP Activation.isCallback = old.countP Activation.isCallback + 1) :
    (thread :: s.core.callbacks).count thread = (new ++ rest).countP Activation.isCallback := by
  rw [List.count_cons_self, hi.depth, ht, List.countP_append, List.countP_append, hn]
  omega

theorem Inv.depth_end (hi : Inv s) (old : List Activation) (ht : s.threads thread = old ++ rest)
    (hn : new.countP Activation.isCallback + 1 = old.countP Activation.isCallback) :
    (s.core.callbacks.erase thread).count thread =
      (new ++ rest).countP Activation.isCallback := by
  rw [List.count_erase_self, hi.depth, ht, List.countP_append, List.countP_append]
  omega

theorem Inv.moves (hi : Inv s) (h : Moves s thread core old new rest)
    (hcomplete : core.cancelComplete = true → s.core.cancelComplete = true ∨ s.Quiet)
    (hfits : Fits (s.setThread thread core (new ++ rest)) thread (new ++ rest)) :
    Keeps s (s.setThread thread core (new ++ rest)) := by
  refine ⟨⟨fun t => ?_, fun t => ?_, h.queue, fun hd => ?_, fun hc => ?_, fun hc => ?_⟩,
    h.noFrames⟩
  · rcases eq_or_ne t thread with rfl | hne
    · rw [setThread_self]
      exact h.depth
    · rw [setThread_of_ne hne, setThread_core, h.others t hne]
      exact hi.depth t
  · rcases eq_or_ne t thread with rfl | hne
    · rw [setThread_self]
      exact hfits
    · rw [setThread_of_ne hne]
      exact (hi.fits t).mono h.closed h.quiet h.noFrames
  · have hw := hi.direct (h.isDirect ▸ hd)
    rcases eq_or_ne (.worker 0) thread with rfl | hne
    · exact absurd hw (h.inside rfl)
    · rw [setThread_of_ne hne, hw]
  · have hopen : s.core.closed = false := by
      by_contra hne
      rw [setThread_core, h.closed (by simpa using hne)] at hc
      cases hc
    rw [setThread_core, h.worker hc, h.isDirect, hi.worker hopen]
  · rcases hcomplete hc with hc | hq
    · exact h.quiet (hi.complete hc)
    · exact h.quiet hq

theorem Inv.top (hi : Inv s) (h : Moves s thread core [a] new rest)
    (hcomplete : core.cancelComplete = true → s.core.cancelComplete = true ∨ s.Quiet)
    (hnew : ∀ b ∈ new, new = [b] ∧ b.Fits (s.setThread thread core (new ++ rest)) thread rest) :
    Keeps s (s.setThread thread core (new ++ rest)) := by
  have hold := hi.fits thread
  rw [h.stack] at hold
  have hrest := hold.2.2.mono h.closed h.quiet h.noFrames
  refine hi.moves h hcomplete ?_
  cases new with
  | nil => exact hrest
  | cons b l =>
    obtain ⟨heq, hb⟩ := hnew b List.mem_cons_self
    obtain rfl : l = [] := by simpa using heq
    exact ⟨hb, hold.2.1, hrest⟩

theorem Inv.call (hi : Inv s) (hm : mayCall thread (s.threads thread) = true)
    (h : Moves s thread core [] [a] (s.threads thread))
    (hcomplete : core.cancelComplete = true → s.core.cancelComplete = true ∨ s.Quiet)
    (ha : a.Fits (s.setThread thread core (a :: s.threads thread)) thread (s.threads thread)) :
    Keeps s (s.setThread thread core (a :: s.threads thread)) := by
  refine hi.moves h hcomplete ⟨ha, ?_, (hi.fits thread).mono h.closed h.quiet h.noFrames⟩
  have hfits := hi.fits thread
  intro b hb
  cases hl : s.threads thread with
  | nil => rw [hl] at hb; cases hb
  | cons x rest =>
    rw [hl] at hm hb hfits
    rcases List.mem_cons.1 hb with rfl | hb
    · cases thread <;> exact hm
    · exact hfits.2.1 b hb

theorem inside_of_mayCall (hm : mayCall thread (s.threads thread) = true) :
    thread = .worker 0 → s.threads thread ≠ [] := by
  rintro rfl hnil
  rw [hnil] at hm
  cases hm

/-- Only the worker has taken a frame, and it has nothing else to do. -/
theorem Inv.taken (hi : Inv s) (h : .takenFrame frame ∈ s.threads thread) :
    thread = .worker 0 ∧ s.threads thread = [.takenFrame frame] := by
  have hfits := hi.fits thread
  cases hl : s.threads thread with
  | nil => rw [hl] at h; cases h
  | cons x rest =>
    rw [hl] at h hfits
    rcases List.mem_cons.1 h with rfl | h
    · exact ⟨hfits.1.1, by rw [hfits.1.2]⟩
    · exact absurd (hfits.2.1 _ h) Bool.false_ne_true

/-- A closed subscription without callbacks in flight has no frames on their
    way, once it is quiet. -/
theorem Inv.noFrames (hi : Inv s) (hq : s.Quiet) (hc : s.core.callbacks = []) : s.NoFrames := by
  refine ⟨hq.1, fun t a ha => ?_⟩
  have hdepth := hi.depth t
  rw [hc, List.count_nil, eq_comm, List.countP_eq_zero] at hdepth
  cases a with
  | reserved | dispatchFrame | runFrame => exact absurd rfl (hdepth _ ha)
  | takenFrame frame => exact absurd ha (hq.2 t frame)
  | _ => rfl

theorem Inv.mem_callbacks (hi : Inv s) (h : thread ∈ s.core.callbacks) : s.threads thread ≠ [] := by
  intro hnil
  have hdepth := hi.depth thread
  rw [hnil, List.countP_nil, List.count_eq_zero] at hdepth
  exact hdepth h

/-- Without a worker, or on the worker itself, the first `cancel` finds no frame
    that was taken. -/
theorem Inv.not_taken (hi : Inv s) (hm : mayCall thread (s.threads thread) = true)
    (ho : s.core.closed = false) (hw : ¬ (s.core.worker = true ∧ thread ≠ .worker 0))
    (t : ThreadId) (frame : MediaFrame) : .takenFrame frame ∉ s.threads t := by
  intro hmem
  obtain ⟨rfl, hl⟩ := hi.taken hmem
  by_cases hworker : s.core.worker = true
  · obtain rfl : thread = .worker 0 := by
      by_contra hne
      exact hw ⟨hworker, hne⟩
    rw [hl] at hm
    cases hm
  · have hdirect : s.core.isDirect = true := by
      have := hi.worker ho
      rw [eq_false_of_ne_true hworker] at this
      simpa using this.symm
    rw [hi.direct hdirect] at hmem
    cases hmem

/-- The publishing sections only touch the queue, the events and the counters. -/
structure Core.SameFlags (c c' : Core) : Prop where
  options : c'.options = c.options
  closed : c'.closed = c.closed
  cancelComplete : c'.cancelComplete = c.cancelComplete
  callbacks : c'.callbacks = c.callbacks
  worker : c'.worker = c.worker

namespace Core
variable {c c' c'' : Core}

theorem SameFlags.refl (c : Core) : SameFlags c c := ⟨rfl, rfl, rfl, rfl, rfl⟩

theorem SameFlags.trans (h : SameFlags c c') (h' : SameFlags c' c'') : SameFlags c c'' where
  options := h'.options.trans h.options
  closed := h'.closed.trans h.closed
  cancelComplete := h'.cancelComplete.trans h.cancelComplete
  callbacks := h'.callbacks.trans h.callbacks
  worker := h'.worker.trans h.worker

theorem sameFlags_dropFrames (n : ℕ) (c : Core) : SameFlags c (c.dropFrames n).1 := by
  induction n generalizing c with
  | zero => exact .refl c
  | succ n ih =>
    unfold dropFrames
    split_ifs with h
    · have hdrop : SameFlags c c.dropFront := by
        unfold dropFront
        split
        · exact .refl c
        · exact ⟨rfl, rfl, rfl, rfl, rfl⟩
      exact hdrop.trans (ih c.dropFront)
    · exact .refl c

theorem sameFlags_markFront (c : Core) : SameFlags c c.markFront := by
  unfold markFront
  split
  · exact .refl c
  · exact ⟨rfl, rfl, rfl, rfl, rfl⟩

theorem sameFlags_notifyDropped (c : Core) : SameFlags c c.notifyDropped := by
  unfold notifyDropped
  dsimp only
  split
  · split_ifs <;> exact ⟨rfl, rfl, rfl, rfl, rfl⟩
  · exact ⟨rfl, rfl, rfl, rfl, rfl⟩

theorem sameFlags_publish (c : Core) (frame : MediaFrame) : SameFlags c (c.publish frame) := by
  unfold publish
  split_ifs with hc
  · exact .refl c
  · have hlimit : SameFlags (c.enqueue frame) (c.enqueue frame).limitQueue := by
      have hdrop := sameFlags_dropFrames (c.enqueue frame).queue.length (c.enqueue frame)
      unfold limitQueue
      dsimp only
      split_ifs
      · exact (hdrop.trans (sameFlags_markFront _)).trans (sameFlags_notifyDropped _)
      · exact hdrop
    exact ⟨hlimit.options, hlimit.closed, hlimit.cancelComplete, hlimit.callbacks, hlimit.worker⟩

theorem calm_publish (c : Core) (frame : MediaFrame) : Calm c (c.publish frame) := by
  have h := c.sameFlags_publish frame
  refine ⟨h.closed, fun hq hc => ?_, ?_, h.worker⟩
  · unfold publish
    rw [if_pos hc]
    exact hq
  · unfold isDirect
    rw [h.options]

/-- The relay that the subscription contains, without its drop events, callbacks and worker;
    `taken` frames were taken from it. -/
def asRelay (c : Core) (taken : ℕ) : MediaStreamRelay where
  options := { maxFrames := c.options.maxFrames, maxBytes := c.options.maxBytes }
  queue := c.queue
  queuedBytes := c.queuedBytes
  stats :=
    { publishedFrames := c.stats.receivedFrames
      readFrames := taken
      droppedFrames := c.stats.droppedFrames
      droppedBytes := c.stats.droppedBytes
      queuedFrames := c.stats.queuedFrames
      queuedBytes := c.stats.queuedBytes }
  closed := c.closed

theorem dropFront_asRelay (c : Core) (taken : ℕ) :
    c.dropFront.asRelay taken = (c.asRelay taken).dropFront := by
  unfold dropFront MediaStreamRelay.dropFront
  cases hq : c.queue with
  | nil => simp only [asRelay, hq]
  | cons f rest => simp only [asRelay, hq]

theorem dropFrames_asRelay (n : ℕ) (c : Core) (taken : ℕ) :
    (c.asRelay taken).dropFrames n = ((c.dropFrames n).1.asRelay taken, (c.dropFrames n).2) := by
  induction n generalizing c with
  | zero => rfl
  | succ n ih =>
    have hcond : ((c.asRelay taken).overLimit = true ∧ (c.asRelay taken).queue ≠ []) ↔
        (c.overLimit = true ∧ c.queue ≠ []) := Iff.rfl
    unfold dropFrames MediaStreamRelay.dropFrames
    by_cases h : c.overLimit = true ∧ c.queue ≠ []
    · rw [if_pos h, if_pos (hcond.2 h), ← dropFront_asRelay, ih]
    · rw [if_neg h, if_neg (h ∘ hcond.1)]

theorem markFront_asRelay (c : Core) (taken : ℕ) :
    c.markFront.asRelay taken = (c.asRelay taken).markFront := by
  unfold markFront MediaStreamRelay.markFront
  cases hq : c.queue with
  | nil => simp only [asRelay, hq]
  | cons f rest => simp only [asRelay, hq]

/-- A drop event is no matter of the queue. -/
theorem notifyDropped_asRelay (c : Core) (taken : ℕ) :
    c.notifyDropped.asRelay taken = c.asRelay taken := by
  unfold notifyDropped
  dsimp only
  split
  · split <;> rfl
  · rfl

/-- **Publishing** to a subscription is publishing to the relay. -/
theorem publish_asRelay (c : Core) (taken : ℕ) (frame : MediaFrame) :
    (c.publish frame).asRelay taken = (c.asRelay taken).publish frame := by
  unfold publish MediaStreamRelay.publish
  by_cases hclosed : c.closed = true
  · rw [if_pos hclosed, if_pos (show (c.asRelay taken).closed = true from hclosed)]
  rw [if_neg hclosed, if_neg (show ¬ (c.asRelay taken).closed = true from hclosed)]
  have henqueue : (c.asRelay taken).enqueue frame = (c.enqueue frame).asRelay taken := rfl
  have hlimit : ((c.enqueue frame).asRelay taken).limitQueue =
      (c.enqueue frame).limitQueue.asRelay taken := by
    unfold limitQueue MediaStreamRelay.limitQueue
    dsimp only
    rw [show ((c.enqueue frame).asRelay taken).queue = (c.enqueue frame).queue from rfl,
      dropFrames_asRelay]
    split
    · rw [notifyDropped_asRelay, markFront_asRelay]
    · rfl
  rw [henqueue, hlimit]
  rfl

theorem mem_publish {f : MediaFrame} (h : f ∈ (c.publish frame).queue) :
    ∃ f₀, (f₀ ∈ c.queue ∨ f₀ = frame) ∧ f₀.Marked f :=
  (c.asRelay 0).mem_publish (publish_asRelay c 0 frame ▸ h)

end Core

theorem setThread_eq_self (s : Subscription) (thread : ThreadId) (core : Core) :
    s.setThread thread core (s.threads thread) = { s with core := core } := by
  unfold Subscription.setThread
  rw [update_eq_self]

theorem Inv.publish (hi : Inv s) (frame : MediaFrame)
    (hm : mayCall thread (s.threads thread) = true) :
    Keeps s { s with core := s.core.publish frame } := by
  have hsame := s.core.sameFlags_publish frame
  have h : Moves s thread (s.core.publish frame) [] [] (s.threads thread) :=
    .of_calm hi (s.core.calm_publish frame) rfl (by rw [hsame.callbacks]; exact hi.depth thread)
      (fun _ _ => by rw [hsame.callbacks]) (by simp) (inside_of_mayCall hm)
  have hkeeps := hi.moves h (fun hc => .inl (hsame.cancelComplete ▸ hc))
    ((hi.fits thread).mono h.closed h.quiet h.noFrames)
  rwa [List.nil_append, setThread_eq_self] at hkeeps

/-- What is left to show of a `cancel` that closes the subscription. -/
theorem Inv.close (hi : Inv s) (hm : mayCall thread (s.threads thread) = true)
    (hframe : a.isFrame = false) (hcall : a.isCallback = false)
    (ha : a.Fits (s.setThread thread s.core.close (a :: s.threads thread)) thread
      (s.threads thread)) :
    Keeps s (s.setThread thread s.core.close (a :: s.threads thread)) := by
  refine hi.call hm ⟨rfl, ?_, fun _ _ => rfl, fun _ => rfl, fun _ => rfl, rfl, ?_, ?_,
    inside_of_mayCall hm⟩ .inl ha
  · exact hi.depth_same [] rfl (by simp [hcall])
  · rintro ⟨⟩
  · intro b hb hf
    rw [List.mem_singleton.1 hb, hframe] at hf
    cases hf

theorem Inv.cancel (hi : Inv s) (hm : mayCall thread (s.threads thread) = true) :
    Keeps s (s.setThread thread (s.core.cancel thread).1
      ((s.core.cancel thread).2 :: s.threads thread)) := by
  have hself : decide (thread ∈ s.core.callbacks) = true → s.threads thread ≠ [] := fun h =>
    hi.mem_callbacks (by simpa using h)
  unfold Core.cancel
  dsimp only
  split_ifs with hc hs hw
  · have h : Moves s thread s.core [] [.leave] (s.threads thread) :=
      .of_calm hi (.refl _) rfl (hi.depth_same [] rfl rfl) (fun _ _ => rfl)
        (by rintro b hb hf; rw [List.mem_singleton.1 hb] at hf; cases hf) (inside_of_mayCall hm)
    exact hi.call hm h .inl fun hr => absurd hr (hself hs)
  · have h : Moves s thread s.core [] [.awaitComplete] (s.threads thread) :=
      .of_calm hi (.refl _) rfl (hi.depth_same [] rfl rfl) (fun _ _ => rfl)
        (by rintro b hb hf; rw [List.mem_singleton.1 hb] at hf; cases hf) (inside_of_mayCall hm)
    exact hi.call hm h .inl trivial
  · exact hi.close hm rfl rfl ⟨rfl, hself⟩
  · have hquiet (b : Activation) (hb : b.isFrame = false) :
        (s.setThread thread s.core.close (b :: s.threads thread)).Quiet := by
      refine ⟨rfl, fun t frame hmem => ?_⟩
      have hnot := hi.not_taken hm (by simpa using hc) hw t frame
      rcases eq_or_ne t thread with rfl | hne
      · rw [setThread_self] at hmem
        rcases List.mem_cons.1 hmem with rfl | hmem
        · cases hb
        · exact hnot hmem
      · rw [setThread_of_ne hne] at hmem
        exact hnot hmem
    cases hs : decide (thread ∈ s.core.callbacks) with
    | true =>
      exact hi.close hm rfl rfl
        ⟨hquiet _ rfl, fun hr => absurd hr (hself hs)⟩
    | false => exact hi.close hm rfl rfl (hquiet _ rfl)

theorem Inv.go (hi : Inv s) (ht : s.threads thread = a :: rest) (hc : Core.Calm s.core core)
    (hcallbacks : core.callbacks = s.core.callbacks) (hcall : b.isCallback = a.isCallback)
    (hframe : b.isFrame = true → s.core.closed = false ∨
      a.isFrame = true ∧ ∀ frame, b ≠ .takenFrame frame) : Moves s thread core [a] [b] rest := by
  refine .of_calm hi hc ht ?_ (fun _ _ => by rw [hcallbacks]) ?_ fun _ h => ?_
  · rw [hcallbacks]
    exact hi.depth_same [a] ht (by simp [List.countP_cons, hcall])
  · intro x hx hf
    obtain rfl := List.mem_singleton.1 hx
    exact (hframe hf).imp_right fun h => ⟨⟨a, List.mem_cons_self, h.1⟩, h.2⟩
  · rw [ht] at h; cases h

theorem Inv.goBegin (hi : Inv s) (ht : s.threads thread = a :: rest) (ha : a.isCallback = false)
    (hb : b.isCallback = true) (hframe : b.isFrame = true → a.isFrame = true) :
    Moves s thread (s.core.beginCallback thread) [a] [b] rest := by
  refine .of_calm hi ⟨rfl, fun h _ => h, rfl, rfl⟩ ht ?_ ?_ ?_ fun _ h => ?_
  · exact hi.depth_begin [a] ht (by simp [ha, hb])
  · intro t hne
    exact List.count_cons_of_ne hne.symm
  · intro x hx hf
    obtain rfl := List.mem_singleton.1 hx
    refine .inr ⟨⟨a, List.mem_cons_self, hframe hf⟩, ?_⟩
    rintro frame rfl
    cases hb
  · rw [ht] at h; cases h

theorem Inv.goEnd (hi : Inv s) (ht : s.threads thread = a :: rest) (ha : a.isCallback = true)
    (hb : b.isCallback = false) (hframe : b.isFrame = false) :
    Moves s thread (s.core.endCallback thread) [a] [b] rest := by
  refine .of_calm hi ⟨rfl, fun h _ => h, rfl, rfl⟩ ht ?_ ?_ ?_ fun _ h => ?_
  · exact hi.depth_end [a] ht (by simp [ha, hb])
  · intro t hne
    exact List.count_erase_of_ne hne
  · intro x hx hf
    rw [List.mem_singleton.1 hx, hframe] at hf
    cases hf
  · rw [ht] at h; cases h

theorem Inv.goLeave (hi : Inv s) (ht : s.threads thread = a :: rest)
    (hc : Core.Calm s.core core) (hcallbacks : core.callbacks = s.core.callbacks)
    (ha : a.isCallback = false) : Moves s thread core [a] [] rest := by
  refine .of_calm hi hc ht ?_ (fun _ _ => by rw [hcallbacks]) (by simp) fun _ h => ?_
  · rw [hcallbacks]
    exact hi.depth_same [a] ht (by simp [ha])
  · rw [ht] at h; cases h

theorem Inv.one (hi : Inv s) (h : Moves s thread core [a] [b] rest)
    (hcomplete : core.cancelComplete = true → s.core.cancelComplete = true ∨ s.Quiet)
    (hb : b.Fits (s.setThread thread core (b :: rest)) thread rest) :
    Keeps s (s.setThread thread core (b :: rest)) :=
  hi.top h hcomplete fun x hx => by
    obtain rfl := List.mem_singleton.1 hx
    exact ⟨rfl, hb⟩

theorem Inv.leaves (hi : Inv s) (h : Moves s thread core [a] [] rest)
    (hcomplete : core.cancelComplete = true → s.core.cancelComplete = true ∨ s.Quiet) :
    Keeps s (s.setThread thread core rest) :=
  hi.top h hcomplete (by rintro _ ⟨⟩)

theorem Inv.fits_top (hi : Inv s) (ht : s.threads thread = a :: rest) : a.Fits s thread rest := by
  have h := hi.fits thread
  rw [ht] at h
  exact h.1

/-- **Every step keeps the invariant**, and a subscription without frames on their
    way stays so. -/
theorem SubscriptionStep.keeps {e : Event} (h : SubscriptionStep s e s') (hi : Inv s) :
    Keeps s s' := by
  cases h with
  | publish thread frame hm => exact hi.publish frame hm
  | publishClosed => exact ⟨hi, id⟩
  | publishDirect thread frame hm hd hc =>
    refine hi.call hm (.of_calm hi ⟨rfl, fun h _ => h, rfl, rfl⟩ rfl ?_ ?_ ?_
      (inside_of_mayCall hm)) .inl trivial
    · exact hi.depth_begin [] rfl rfl
    · exact fun t hne => List.count_cons_of_ne hne.symm
    · exact fun _ _ _ => .inl hc
  | callSink ht =>
    exact hi.one (hi.go ht (.refl _) rfl rfl fun _ => .inr ⟨rfl, by rintro _ ⟨⟩⟩) .inl trivial
  | directReturned ht => exact hi.one (hi.goEnd ht rfl rfl rfl) .inl trivial
  | countDirect ht =>
    exact hi.leaves (hi.goLeave ht ⟨rfl, fun h _ => h, rfl, rfl⟩ rfl rfl) .inl
  | cancel thread hm => exact hi.cancel hm
  | @join thread self rest ht hw =>
    have hjoin := hi.fits_top ht
    have hquiet : s.Quiet := ⟨hjoin.1, fun t frame hmem => by
      obtain ⟨rfl, hl⟩ := hi.taken hmem
      rw [hw] at hl
      cases hl⟩
    cases self with
    | true =>
      have h := hi.go (b := .closing) ht (.refl _) rfl rfl (by rintro ⟨⟩)
      exact hi.one h .inl ⟨h.quiet hquiet, fun hr => absurd hr (hjoin.2 rfl)⟩
    | false =>
      have h := hi.go (b := .awaitCallbacks) ht (.refl _) rfl rfl (by rintro ⟨⟩)
      exact hi.one h .inl (h.quiet hquiet)
  | awaitCallbacks ht hc =>
    have hquiet : s.Quiet := hi.fits_top ht
    have h := hi.go (b := .closing) ht (.refl _) rfl rfl (by rintro ⟨⟩)
    exact hi.one h .inl ⟨h.quiet hquiet, fun _ => h.noFrames (hi.noFrames hquiet hc)⟩
  | closing ht =>
    have hold := hi.fits_top ht
    have h := hi.goBegin (b := .dispatchClosed) ht rfl rfl (by rintro ⟨⟩)
    exact hi.one h .inl ⟨h.quiet hold.1, fun hr => h.noFrames (hold.2 hr)⟩
  | closedReturned ht =>
    have hold := hi.fits_top ht
    have h := hi.goEnd (b := .completing) ht rfl rfl rfl
    exact hi.one h .inl ⟨h.quiet hold.1, fun hr => h.noFrames (hold.2 hr)⟩
  | @complete thread rest ht =>
    have hold := hi.fits_top ht
    have h : Moves s thread { s.core with cancelComplete := true } [.completing] [.leave] rest :=
      hi.go ht ⟨rfl, fun h _ => h, rfl, rfl⟩ rfl rfl (by rintro ⟨⟩)
    exact hi.one h (fun _ => .inr hold.1) fun hr => h.noFrames (hold.2 hr)
  | awaitComplete ht hc hn =>
    have h := hi.go (b := .leave) ht (.refl _) rfl rfl (by rintro ⟨⟩)
    exact hi.one h .inl fun _ => h.noFrames (hi.noFrames (hi.complete hc) hn)
  | leave ht => exact hi.leaves (hi.goLeave ht (.refl _) rfl rfl) .inl
  | takeEvent ht he =>
    exact hi.one (hi.go ht ⟨rfl, fun h _ => h, rfl, rfl⟩ rfl rfl (by rintro ⟨⟩)) .inl
      (hi.fits_top ht)
  | beginEvent ht => exact hi.one (hi.goBegin ht rfl rfl (by rintro ⟨⟩)) .inl (hi.fits_top ht)
  | eventReturned ht => exact hi.one (hi.goEnd ht rfl rfl rfl) .inl (hi.fits_top ht)
  | takeFrame ht he hq =>
    have hopen : s.core.closed = false := by
      by_contra hne
      rw [hi.queue (by simpa using hne)] at hq
      cases hq
    refine hi.one (hi.go ht ⟨rfl, fun h _ => ?_, rfl, rfl⟩ rfl rfl fun _ => .inl hopen) .inl
      (hi.fits_top ht)
    rw [hq] at h
    cases h
  | beginFrame ht => exact hi.one (hi.goBegin ht rfl rfl fun _ => rfl) .inl (hi.fits_top ht)
  | frameReturned ht => exact hi.one (hi.goEnd ht rfl rfl rfl) .inl (hi.fits_top ht)
  | countFrame ht =>
    exact hi.one (hi.go ht ⟨rfl, fun h _ => h, rfl, rfl⟩ rfl rfl (by rintro ⟨⟩)) .inl
      (hi.fits_top ht)
  | runEnd ht => exact hi.leaves (hi.goLeave ht (.refl _) rfl rfl) .inl

theorem start_threads (options : MediaSubscriptionOptions) (t : ThreadId) :
    (Subscription.start options).threads t = [] ∨
      t = .worker 0 ∧ options.dispatch ≠ .direct ∧
        (Subscription.start options).threads t = [.run] := by
  unfold Subscription.start
  dsimp only
  split_ifs with hd
  · exact .inl rfl
  · rcases eq_or_ne t (.worker 0) with rfl | hne
    · exact .inr ⟨rfl, hd, update_self ..⟩
    · exact .inl (update_of_ne hne ..)

theorem start_inv (options : MediaSubscriptionOptions) : Inv (Subscription.start options) := by
  have hthreads := start_threads options
  refine ⟨fun t => ?_, fun t => ?_, fun _ => rfl, fun hd => ?_, fun _ => ?_, by rintro ⟨⟩⟩
  · rcases hthreads t with h | ⟨-, -, h⟩ <;> rw [h] <;> rfl
  · rcases hthreads t with h | ⟨rfl, -, h⟩
    · rw [h]; trivial
    · rw [h]; exact ⟨⟨rfl, rfl⟩, by rintro _ ⟨⟩, trivial⟩
  · rcases hthreads (.worker 0) with h | ⟨-, hne, -⟩
    · exact h
    · exact absurd (of_decide_eq_true hd) hne
  · exact decide_not

/-! ## A subscription is a gate -/

/-- The frame is queued, or a thread is about to hand it to the sink. -/
def Subscription.Holds (s : Subscription) (frame : MediaFrame) : Prop :=
  frame ∈ s.core.queue ∨ ∃ thread, ∃ a ∈ s.threads thread, a.pending = some frame

theorem start_empty (options : MediaSubscriptionOptions) (frame : MediaFrame) :
    ¬ (Subscription.start options).Holds frame := by
  rintro (h | ⟨t, a, ha, hp⟩)
  · cases h
  · rcases start_threads options t with h | ⟨-, -, h⟩ <;> rw [h] at ha
    · cases ha
    · rw [List.mem_singleton.1 ha] at hp
      cases hp

theorem holds_setThread {stack : List Activation}
    (h : (s.setThread thread core stack).Holds frame) :
    frame ∈ core.queue ∨ (∃ a ∈ stack, a.pending = some frame) ∨ s.Holds frame := by
  rcases h with h | ⟨t, a, ha, hp⟩
  · exact .inl h
  · rcases eq_or_ne t thread with rfl | hne
    · rw [setThread_self] at ha
      exact .inr (.inl ⟨a, ha, hp⟩)
    · rw [setThread_of_ne hne] at ha
      exact .inr (.inr (.inr ⟨t, a, ha, hp⟩))

/-- A thread that gets nothing to hand over. -/
theorem holds_of_stack {stack : List Activation} (hq : ∀ f ∈ core.queue, f ∈ s.core.queue)
    (hstack : ∀ x ∈ stack, x ∈ s.threads thread ∨ x.pending = none)
    (h : (s.setThread thread core stack).Holds frame) : s.Holds frame := by
  rcases holds_setThread h with h | ⟨x, hx, hp⟩ | h
  · exact .inl (hq _ h)
  · rcases hstack x hx with hx | hx
    · exact .inr ⟨thread, x, hx, hp⟩
    · rw [hx] at hp; cases hp
  · exact h

theorem mem_stack_cons (ht : s.threads thread = a :: rest) (hb : b.pending = none) :
    ∀ x ∈ b :: rest, x ∈ s.threads thread ∨ x.pending = none := by
  intro x hx
  rcases List.mem_cons.1 hx with rfl | hx
  · exact .inr hb
  · exact .inl (ht ▸ List.mem_cons_of_mem _ hx)

theorem mem_stack_rest (ht : s.threads thread = a :: rest) :
    ∀ x ∈ rest, x ∈ s.threads thread ∨ x.pending = none := fun _ hx =>
  .inl (ht ▸ List.mem_cons_of_mem _ hx)

theorem Core.cancel_keeps (c : Core) (thread : ThreadId) :
    (∀ f ∈ (c.cancel thread).1.queue, f ∈ c.queue) ∧ (c.cancel thread).2.pending = none := by
  unfold cancel afterJoin
  dsimp only
  split_ifs <;> exact ⟨by first | exact fun _ h => h | (rintro _ ⟨⟩), rfl⟩

/-- Every frame inside was there before, or is published. -/
theorem SubscriptionStep.origin {e : Event} (h : SubscriptionStep s e s') (hh : s'.Holds frame) :
    ∃ f, (s.Holds f ∨ ∃ thread, e = .published thread f) ∧ f.Marked frame := by
  have hkeep (h : s.Holds frame) :
      ∃ f, (s.Holds f ∨ ∃ thread, e = .published thread f) ∧ f.Marked frame :=
    ⟨frame, .inl h, .inl rfl⟩
  cases h with
  | publish thread f hm =>
    rcases hh with hh | hh
    · obtain ⟨f₀, hf₀ | rfl, hmark⟩ := Core.mem_publish hh
      · exact ⟨f₀, .inl (.inl hf₀), hmark⟩
      · exact ⟨f₀, .inr ⟨thread, rfl⟩, hmark⟩
    · exact hkeep (.inr hh)
  | publishClosed => exact hkeep hh
  | publishDirect thread f hm =>
    rcases holds_setThread hh with hh | ⟨x, hx, hp⟩ | hh
    · exact hkeep (.inl hh)
    · rcases List.mem_cons.1 hx with rfl | hx
      · cases hp
        exact ⟨frame, .inr ⟨thread, rfl⟩, .inl rfl⟩
      · exact hkeep (.inr ⟨thread, x, hx, hp⟩)
    · exact hkeep hh
  | cancel thread hm =>
    obtain ⟨hq, hp⟩ := s.core.cancel_keeps thread
    refine hkeep (holds_of_stack hq (fun x hx => ?_) hh)
    rcases List.mem_cons.1 hx with rfl | hx
    · exact .inr hp
    · exact .inl hx
  | @takeFrame thread f queue rest ht he hq =>
    have hsub : ∀ x ∈ queue, x ∈ s.core.queue := fun x hx => hq ▸ List.mem_cons_of_mem _ hx
    rcases holds_setThread hh with hh | ⟨x, hx, hp⟩ | hh
    · exact hkeep (.inl (hsub _ hh))
    · rcases List.mem_cons.1 hx with rfl | hx
      · cases hp
        exact hkeep (.inl (hq ▸ List.mem_cons_self))
      · exact hkeep (.inr ⟨thread, x, ht ▸ List.mem_cons_of_mem _ hx, hp⟩)
    · exact hkeep hh
  | @join thread self rest ht =>
    refine hkeep (holds_of_stack (fun _ h => h) (mem_stack_cons ht ?_) hh)
    cases self <;> rfl
  | callSink ht | directReturned ht | awaitCallbacks ht | closing ht | closedReturned ht
  | complete ht | awaitComplete ht | takeEvent ht | beginEvent ht | eventReturned ht
  | beginFrame ht | frameReturned ht | countFrame ht =>
    exact hkeep (holds_of_stack (fun _ h => h) (mem_stack_cons ht rfl) hh)
  | countDirect ht | leave ht | runEnd ht =>
    exact hkeep (holds_of_stack (fun _ h => h) (mem_stack_rest ht) hh)

/-- A frame that the sink is called with was held, and the subscription was not
    at its end. -/
theorem SubscriptionStep.source (h : SubscriptionStep s (.started thread frame) s') :
    s.Holds frame ∧ ¬ s.NoFrames := by
  cases h with
  | callSink ht | beginFrame ht =>
    exact ⟨.inr ⟨thread, _, ht ▸ List.mem_cons_self, rfl⟩, fun hn =>
      absurd (hn.2 thread _ (ht ▸ List.mem_cons_self)) (by rintro ⟨⟩)⟩

/-- **Cancelling is a barrier**: after a `cancel` has returned to a thread
    outside the callbacks, no frame is with the sink or on its way there. -/
theorem SubscriptionStep.cancelled (h : SubscriptionStep s (.cancelled thread) s') (hi : Inv s)
    (hout : s'.threads thread = []) : s'.NoFrames := by
  cases h with
  | leave ht =>
    rw [setThread_self] at hout
    subst hout
    exact (hi.goLeave ht (.refl _) rfl rfl).noFrames (hi.fits_top ht rfl)

/-- **A media subscription is a gate**, shut by a `cancel` that has returned
    outside the callbacks. -/
def gate : Gate SubscriptionStep (fun e f => ∃ thread, e = .published thread f)
    (fun e f => ∃ thread, e = .started thread f)
    (fun e s => ∃ thread, e = .cancelled thread ∧ s.threads thread = []) MediaFrame.Marked where
  Ok := Inv
  Holds := Subscription.Holds
  Shut := Subscription.NoFrames
  ok hi h := (h.keeps hi).inv
  origin _ h hf := h.origin hf
  source := by
    rintro s e s' f - h ⟨thread, rfl⟩
    exact h.source.1
  barrier := by
    rintro s e s' f - h ⟨thread, rfl⟩
    exact h.source.2
  shut := by
    rintro s e s' hi h (hn | ⟨thread, rfl, hout⟩)
    · exact (h.keeps hi).noFrames hn
    · exact h.cancelled hi hout

/-- **Nothing reaches the sink after a `cancel`** that has returned to a thread outside the
    callbacks, whatever the other threads do. -/
theorem no_frame_after_cancel {options : MediaSubscriptionOptions} {t₁ t₂ : List Event}
    (h₁ : Run SubscriptionStep (.start options) (t₁ ++ [.cancelled thread]) s)
    (hout : s.threads thread = []) (h₂ : Run SubscriptionStep s t₂ s') :
    (∀ thread' frame, .started thread' frame ∉ t₂) ∧ s'.NoFrames := by
  have hinv {t s} (h : Run SubscriptionStep (.start options) t s) : Inv s :=
    h.keeps (fun hi hs => (hs.keeps hi).inv) (start_inv options)
  induction h₂ with
  | nil =>
    obtain ⟨s₀, h₀, hstep⟩ := h₁.last
    exact ⟨by simp, hstep.cancelled (hinv h₀) hout⟩
  | snoc hrun hs ih =>
    refine ⟨fun thread' frame hmem => ?_, (hs.keeps (hinv (h₁.trans hrun))).noFrames ih.2⟩
    rcases List.mem_append.1 hmem with hmem | hmem
    · exact ih.1 thread' frame hmem
    · obtain rfl := List.mem_singleton.1 hmem
      exact hs.source.2 ih.2

/-- One thread cancels while the worker hands over the frame of another one, whose
    next frame then goes nowhere. -/
theorem no_frame_after_cancel_worker : ∃ t₁ t₂ s s' frame,
    Run SubscriptionStep (.start { dispatch := .asyncQueued })
      (t₁ ++ [.cancelled (.client 0)]) s ∧ .started (.worker 0) frame ∈ t₁ ∧
    Run SubscriptionStep s t₂ s' ∧ .published (.client 1) frame ∈ t₂ ∧
    (∀ thread frame', .started thread frame' ∉ t₂) ∧ s'.NoFrames := by
  have h := Run.one (SubscriptionStep.publish (.start { dispatch := .asyncQueued }) (.client 1) {}
    rfl rfl)
  have h := h.snoc (@.takeFrame _ (.worker 0) _ _ _ rfl rfl rfl)
  have h := h.snoc (@.beginFrame _ (.worker 0) _ _ rfl)
  have h := h.snoc (.cancel _ (.client 0) rfl)
  have h := h.snoc (@.frameReturned _ (.worker 0) _ _ rfl)
  have h := h.snoc (@.countFrame _ (.worker 0) _ rfl)
  have h := h.snoc (@.runEnd _ (.worker 0) _ rfl rfl rfl rfl)
  have h := h.snoc (@.join _ (.client 0) _ _ rfl rfl)
  have h := h.snoc (@.awaitCallbacks _ (.client 0) _ rfl rfl)
  have h := h.snoc (@.closing _ (.client 0) _ rfl)
  have h := h.snoc (@.closedReturned _ (.client 0) _ rfl)
  have h := h.snoc (@.complete _ (.client 0) _ rfl)
  have h := h.snoc (@.leave _ (.client 0) _ rfl)
  have h' := h.onward.snoc (.publish _ (.client 1) {} rfl rfl)
  exact ⟨_, _, _, _, _, h, List.mem_of_getElem? (i := 2) rfl, h', List.mem_singleton.2 rfl,
    no_frame_after_cancel h rfl h'⟩

end

end Axent.MediaSubscription
