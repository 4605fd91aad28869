/-
  `MediaStreamSubscriptionState` (`src/host/axent_host.cpp`): a media stream
  subscription with all the threads that use it.

  A thread is the stack of its calls into the subscription.  It may call from
  outside, or from inside a callback that it runs, so that a call can lie on top
  of a callback.  A step of `SubscriptionStep` is one locked section of one
  thread, the return of a callback together with the locked section after it,
  or the return of a call.  A wait on a condition variable is a call that stays
  where it is until its condition holds.

  At most one thread delivers, and a stack says whether it is this one
  (`Shape`).  From this the barrier follows: when a call of `cancel` from
  outside returns, no callback runs, and none starts any more.
-/
import Axent.Lib.Run
import Axent.MediaStreamCore

namespace Axent.MediaStream

open Lib

/-! ## Threads -/

inductive Call where
  /-- one event of `prime_opened` -/
  | primeStreamEvent (event : MediaStreamEvent)
  | publishStreamEvent (event : MediaStreamEvent)
  | publishFrame (frame : MediaFrame)
  | activate
  /-- `close_streams_and_cancel`, or `cancel` -/
  | cancel (closeStreams : Bool)
  deriving DecidableEq, Repr

def Call.isCancel : Call → Bool
  | cancel _ => true
  | _ => false

/-- A call on the stack of a thread, and where it is.  `own` is the completion
    of the item that the call queued last, and `target` the one that it waits
    for. -/
inductive Activation where
  /-- in `drain_direct_queue`, before a locked section -/
  | drain (call : Call) (own target : Option ℕ) (owns : Bool)
  /-- in `drain_direct_queue`, calling the sink -/
  | dispatch (call : Call) (own target : Option ℕ) (owns : Bool) (item : Item)
  /-- in `cancel`, after the terminal event was delivered -/
  | awaitIdle (call : Call)
  /-- in `cancel`, after another thread queued the terminal event -/
  | awaitTerminal (call : Call)
  /-- in `cancel`, joining a worker -/
  | join (call : Call) (worker : ThreadId)
  /-- before the return -/
  | leave (call : Call) (own : Option ℕ)
  /-- in `run`, before a locked section -/
  | run
  /-- in `run`, calling the sink -/
  | runDispatch (item : Item)
  deriving DecidableEq, Repr

namespace Activation

/-- The item whose callback runs. -/
def item : Activation → Option Item
  | dispatch _ _ _ _ item | runDispatch item => some item
  | _ => none

def isCallback (a : Activation) : Bool := a.item.isSome

/-- A call that is not delivering. -/
def isQuiet : Activation → Bool
  | drain _ _ _ owns => !owns
  | a => !a.isCallback

end Activation

/-- What a call does in its first locked section: the call is then at
    `activation`. -/
structure Entered where
  core : Core
  activation : Activation
  queued : List Item := []

namespace Core

/-- A publishing call drains the queue if it has an item of its own. -/
def Published.entered (p : Published) (call : Call) : Entered where
  core := p.core
  activation := match p.completion with
    | some n => .drain call (some n) (some n) false
    | none => .leave call none
  queued := p.queued

/-- `activate`. -/
def activate (c : Core) : Entered :=
  if c.activated then { core := c, activation := .leave .activate none }
  else if c.isDirect then
    { core := { c with activated := true }, activation := .drain .activate none none false }
  else { core := { c with activated := true }.startWorker, activation := .leave .activate none }

/-- The end of a `cancel` from inside a callback: nothing is left to deliver. -/
def cancelSelf (c : Core) (thread : ThreadId) : Core :=
  { c with
    items := []
    queuedFrames := 0
    queuedBytes := 0
    terminalDelivered := true
    worker := if c.worker = some thread then none else c.worker }.refreshStats

/-- The state in which `cancel` has queued the terminal event. -/
def terminate (c : Core) (thread : ThreadId) (closeStreams : Bool) : Core :=
  { (c.prepareTerminal thread closeStreams).core with activated := true }

/-- `cancel`. -/
def cancel (c : Core) (thread : ThreadId) (closeStreams : Bool) : Entered :=
  let call := Call.cancel closeStreams
  if c.terminalDelivered then
    { core := c
      activation := if c.delivering && !c.deliversBy thread then .awaitIdle call
        else .leave call none }
  else if c.terminalEnqueued then
    { core := c
      activation := if c.deliveryThread = some thread then .leave call none
        else .awaitTerminal call }
  else
    let p := c.prepareTerminal thread closeStreams
    let c' := c.terminate thread closeStreams
    if c'.deliversBy thread then
      { core := c'.cancelSelf thread, activation := .leave call none, queued := p.queued }
    else if c'.isDirect then
      { core := c', activation := .drain call p.completion p.completion false
        queued := p.queued }
    else
      match c'.startWorker.worker with
      | some w =>
        { core := { c'.startWorker with worker := none }, activation := .join call w
          queued := p.queued }
      | none => { core := c'.startWorker, activation := .leave call none, queued := p.queued }

/-- The first locked section of a call. -/
def enter (c : Core) (thread : ThreadId) : Call → Entered
  | .primeStreamEvent event =>
    Published.entered (c.publishStreamEvent thread true event) (.primeStreamEvent event)
  | .publishStreamEvent event =>
    Published.entered (c.publishStreamEvent thread false event) (.publishStreamEvent event)
  | .publishFrame frame => Published.entered (c.publishFrame thread frame) (.publishFrame frame)
  | .activate => c.activate
  | .cancel closeStreams => c.cancel thread closeStreams

end Core

/-- A subscription and its threads. -/
structure Subscription where
  core : Core
  threads : ThreadId → List Activation := fun _ => []

/-- A thread may call from outside, unless it is a worker, and from inside a
    callback. -/
def mayCall : ThreadId → List Activation → Bool
  | .client _, [] => true
  | .worker _, [] => false
  | _, a :: _ => a.isCallback

inductive Event where
  | internal
  /-- the first locked section of a call, with the items that it queued -/
  | entered (thread : ThreadId) (call : Call) (queued : List Item)
  | started (thread : ThreadId) (item : Item)
  | finished (thread : ThreadId) (item : Item)
  | returned (thread : ThreadId) (call : Call) (own : Option ℕ)

namespace Subscription

/-- The thread `thread` with another stack. -/
def setThread (s : Subscription) (thread : ThreadId) (core : Core) (stack : List Activation) :
    Subscription where
  core := core
  threads := Function.update s.threads thread stack

/-- The state after the first section of a call; a worker that it started
    begins to run. -/
def entered (s : Subscription) (thread : ThreadId) (e : Entered) : Subscription :=
  let s' := s.setThread thread e.core (e.activation :: s.threads thread)
  if e.core.workers = s.core.workers then s'
  else s'.setThread (.worker s.core.workers) e.core [.run]

def enter (s : Subscription) (thread : ThreadId) (call : Call) : Subscription :=
  s.entered thread (s.core.enter thread call)

/-- The thread runs a callback. -/
def InCallback (s : Subscription) (thread : ThreadId) : Prop :=
  ∃ a ∈ s.threads thread, a.isCallback = true

end Subscription

/-- One step of one thread. -/
inductive SubscriptionStep : Subscription → Event → Subscription → Prop
  | enter (s : Subscription) (thread : ThreadId) (call : Call)
      (hm : mayCall thread (s.threads thread) = true) :
      SubscriptionStep s (.entered thread call (s.core.enter thread call).queued)
        (s.enter thread call)
  | drainLeave {s : Subscription} {thread : ThreadId} {call : Call} {own target : Option ℕ}
      {owns : Bool} {rest : List Activation} {core : Core}
      (ht : s.threads thread = .drain call own target owns :: rest)
      (hc : s.core.drain thread target owns = .leave core) :
      SubscriptionStep s .internal (s.setThread thread core (.leave call own :: rest))
  | drainWait {s : Subscription} {thread : ThreadId} {call : Call} {own target target' : Option ℕ}
      {owns owns' : Bool} {rest : List Activation} {core : Core}
      (ht : s.threads thread = .drain call own target owns :: rest)
      (hc : s.core.drain thread target owns = .wait core target' owns') :
      SubscriptionStep s .internal
        (s.setThread thread core (.drain call own target' owns' :: rest))
  | drainTake {s : Subscription} {thread : ThreadId} {call : Call} {own target target' : Option ℕ}
      {owns : Bool} {rest : List Activation} {core : Core} {item : Item}
      (ht : s.threads thread = .drain call own target owns :: rest)
      (hc : s.core.drain thread target owns = .take core target' item) :
      SubscriptionStep s (.started thread item)
        (s.setThread thread core (.dispatch call own target' true item :: rest))
  | finishLeave {s : Subscription} {thread : ThreadId} {call : Call} {own target : Option ℕ}
      {owns : Bool} {item : Item} {rest : List Activation} {core : Core}
      (ht : s.threads thread = .dispatch call own target owns item :: rest)
      (hc : s.core.finishDirect thread target owns item = (core, none)) :
      SubscriptionStep s (.finished thread item)
        (s.setThread thread core (.leave call own :: rest))
  | finishNext {s : Subscription} {thread : ThreadId} {call : Call} {own target target' : Option ℕ}
      {owns : Bool} {item : Item} {rest : List Activation} {core : Core}
      (ht : s.threads thread = .dispatch call own target owns item :: rest)
      (hc : s.core.finishDirect thread target owns item = (core, some target')) :
      SubscriptionStep s (.finished thread item)
        (s.setThread thread core (.drain call own target' owns :: rest))
  | awaitIdle {s : Subscription} {thread : ThreadId} {call : Call} {rest : List Activation}
      (ht : s.threads thread = .awaitIdle call :: rest) (hc : s.core.delivering = false) :
      SubscriptionStep s .internal (s.setThread thread s.core (.leave call none :: rest))
  | awaitTerminal {s : Subscription} {thread : ThreadId} {call : Call} {rest : List Activation}
      (ht : s.threads thread = .awaitTerminal call :: rest)
      (hc : s.core.terminalDelivered = true) :
      SubscriptionStep s .internal (s.setThread thread s.core (.leave call none :: rest))
  | join {s : Subscription} {thread worker : ThreadId} {call : Call} {rest : List Activation}
      (ht : s.threads thread = .join call worker :: rest) (hw : s.threads worker = []) :
      SubscriptionStep s .internal (s.setThread thread s.core (.leave call none :: rest))
  | leave {s : Subscription} {thread : ThreadId} {call : Call} {own : Option ℕ}
      {rest : List Activation} (ht : s.threads thread = .leave call own :: rest) :
      SubscriptionStep s (.returned thread call own) (s.setThread thread s.core rest)
  | runTake {s : Subscription} {thread : ThreadId} {rest : List Activation} {core : Core}
      {item : Item} (ht : s.threads thread = .run :: rest)
      (hc : s.core.run thread = some (some (core, item))) :
      SubscriptionStep s (.started thread item)
        (s.setThread thread core (.runDispatch item :: rest))
  | runEnd {s : Subscription} {thread : ThreadId} {rest : List Activation}
      (ht : s.threads thread = .run :: rest) (hc : s.core.run thread = some none) :
      SubscriptionStep s .internal (s.setThread thread s.core rest)
  | runFinish {s : Subscription} {thread : ThreadId} {item : Item} {rest : List Activation}
      (ht : s.threads thread = .runDispatch item :: rest) :
      SubscriptionStep s (.finished thread item)
        (s.setThread thread (s.core.finishRun item)
          (if (s.core.finishRun item).terminalDelivered then rest else .run :: rest))

/-- A client calls, and no callback is needed. -/
theorem run_call {s₀ s : Subscription} {t : List Event} (h : Run SubscriptionStep s₀ t s)
    (client : ℕ) (call : Call) {own : Option ℕ} {rest : List Activation}
    (hm : mayCall (.client client) (s.threads (.client client)) = true)
    (ht : (s.enter (.client client) call).threads (.client client) = .leave call own :: rest) :
    Run SubscriptionStep s₀
      (t ++ [.entered (.client client) call (s.core.enter (.client client) call).queued] ++
        [.returned (.client client) call own])
      ((s.enter (.client client) call).setThread (.client client)
        (s.enter (.client client) call).core rest) :=
  (h.snoc (.enter s _ call hm)).snoc (.leave ht)

/-- A worker delivers an item. -/
theorem run_deliver {s₀ s : Subscription} {t : List Event} (h : Run SubscriptionStep s₀ t s)
    (worker : ℕ) {rest : List Activation} {core : Core} {item : Item}
    (ht : s.threads (.worker worker) = .run :: rest)
    (hc : s.core.run (.worker worker) = some (some (core, item))) :
    Run SubscriptionStep s₀
      (t ++ [.started (.worker worker) item] ++ [.finished (.worker worker) item])
      ((s.setThread (.worker worker) core (.runDispatch item :: rest)).setThread (.worker worker)
        (core.finishRun item)
        (if (core.finishRun item).terminalDelivered then rest else .run :: rest)) :=
  (h.snoc (.runTake ht hc)).snoc (@SubscriptionStep.runFinish _ _ item rest (Function.update_self ..))

/-! ## What the first section of a call does -/

namespace Core

/-- **How `cancel` begins.** -/
inductive Cancels (c : Core) (thread : ThreadId) (closeStreams : Bool) : Entered → Prop
  | delivered (h : c.terminalDelivered = true)
      (hd : c.delivering = true → c.deliversBy thread = true) :
      Cancels c thread closeStreams { core := c, activation := .leave (.cancel closeStreams) none }
  | awaitIdle (h : c.terminalDelivered = true) (ht : c.deliversBy thread = false) :
      Cancels c thread closeStreams { core := c, activation := .awaitIdle (.cancel closeStreams) }
  | inside (h : c.terminalEnqueued = true) (hd : c.terminalDelivered = false)
      (ht : c.deliveryThread = some thread) :
      Cancels c thread closeStreams { core := c, activation := .leave (.cancel closeStreams) none }
  | awaitTerminal (h : c.terminalEnqueued = true) (hd : c.terminalDelivered = false)
      (ht : c.deliveryThread ≠ some thread) :
      Cancels c thread closeStreams
        { core := c, activation := .awaitTerminal (.cancel closeStreams) }
  | self (h : c.terminalEnqueued = false) (ht : c.deliversBy thread = true) :
      Cancels c thread closeStreams
        { core := (c.terminate thread closeStreams).cancelSelf thread
          activation := .leave (.cancel closeStreams) none
          queued := (c.prepareTerminal thread closeStreams).queued }
  | drain (h : c.terminalEnqueued = false) (hd : c.terminalDelivered = false)
      (ht : c.deliversBy thread = false) (hm : c.isDirect = true) :
      Cancels c thread closeStreams
        { core := c.terminate thread closeStreams
          activation := .drain (.cancel closeStreams)
            (c.prepareTerminal thread closeStreams).completion
            (c.prepareTerminal thread closeStreams).completion false
          queued := (c.prepareTerminal thread closeStreams).queued }
  | join {w : ThreadId} (h : c.terminalEnqueued = false) (hd : c.terminalDelivered = false)
      (ht : c.deliversBy thread = false) (hm : c.isDirect = false)
      (hw : (c.terminate thread closeStreams).startWorker.worker = some w) :
      Cancels c thread closeStreams
        { core := { (c.terminate thread closeStreams).startWorker with worker := none }
          activation := .join (.cancel closeStreams) w
          queued := (c.prepareTerminal thread closeStreams).queued }

theorem startWorker_worker (c : Core) : c.startWorker.worker.isSome = true := by
  unfold startWorker
  cases h : c.worker <;> simp [h]

theorem cancel_spec (c : Core) (thread : ThreadId) (closeStreams : Bool) :
    Cancels c thread closeStreams (c.cancel thread closeStreams) := by
  unfold cancel
  dsimp only
  split_ifs with hdel hidle henq hin hself hdirect
  · simp only [Bool.and_eq_true, Bool.not_eq_true'] at hidle
    exact .awaitIdle hdel hidle.2
  · refine .delivered hdel fun hd => ?_
    simpa [hd] using hidle
  · exact .inside henq (by simpa using hdel) hin
  · exact .awaitTerminal henq (by simpa using hdel) hin
  · exact .self (by simpa using henq) hself
  · exact .drain (by simpa using henq) (by simpa using hdel) (eq_false_of_ne_true hself)
      hdirect
  · obtain ⟨w, hw⟩ := Option.isSome_iff_exists.1
      (c.terminate thread closeStreams).startWorker_worker
    rw [hw]
    exact .join (by simpa using henq) (by simpa using hdel) (eq_false_of_ne_true hself)
      (eq_false_of_ne_true hdirect) hw

end Core

/-! ## The stacks of the threads -/

/-- The stacks that a thread can have, and whether it is the one that
    delivers. -/
inductive Shape (c : Core) (thread : ThreadId) : List Activation → Prop
  | outside (h : c.deliversBy thread = false) : Shape c thread []
  | quiet {a : Activation} (ha : a.isQuiet = true) (h : c.deliversBy thread = false) :
      Shape c thread [a]
  | owner {call : Call} {own target : Option ℕ} (h : c.deliversBy thread = true) :
      Shape c thread [.drain call own target true]
  | callback {a : Activation} (ha : a.isCallback = true) (h : c.deliversBy thread = true) :
      Shape c thread [a]
  | nested {call : Call} {own : Option ℕ} {a : Activation} (ha : a.isCallback = true)
      (h : c.deliversBy thread = true) : Shape c thread [.leave call own, a]

namespace Shape
variable {c c' : Core} {thread : ThreadId} {l rest : List Activation} {a : Activation}

theorem congr (h : Shape c thread l) (heq : c'.deliversBy thread = c.deliversBy thread) :
    Shape c' thread l := by
  cases h with
  | outside h => exact .outside (heq.trans h)
  | quiet ha h => exact .quiet ha (heq.trans h)
  | owner h => exact .owner (heq.trans h)
  | callback ha h => exact .callback ha (heq.trans h)
  | nested ha h => exact .nested ha (heq.trans h)

theorem isQuiet_of_isCallback (h : a.isCallback = true) : a.isQuiet = false := by
  cases a <;> first | rfl | cases h

theorem deliversBy (h : Shape c thread l) : c.deliversBy thread = l.any (!·.isQuiet) := by
  cases h with
  | outside h => exact h
  | quiet ha h => simp [ha, h]
  | owner h => exact h
  | callback ha h | nested ha h => simp [isQuiet_of_isCallback ha, h]

theorem delivers (h : Shape c thread l) (ha : a ∈ l) (hc : a.isCallback = true) :
    c.deliversBy thread = true := by
  rw [h.deliversBy, List.any_eq_true]
  exact ⟨a, ha, by rw [isQuiet_of_isCallback hc]; rfl⟩

/-- A call that is neither about to return nor a callback is all there is. -/
theorem top (h : Shape c thread (a :: rest)) (ha : ∀ call own, a ≠ .leave call own) :
    rest = [] ∧ c.deliversBy thread = !a.isQuiet := by
  have hby := h.deliversBy
  cases h with
  | quiet | owner | callback => exact ⟨rfl, by simpa using hby⟩
  | nested => exact absurd rfl (ha _ _)

theorem top_leave {call : Call} {own : Option ℕ} (h : Shape c thread (.leave call own :: rest)) :
    (rest = [] ∧ c.deliversBy thread = false) ∨
      ∃ a, rest = [a] ∧ a.isCallback = true ∧ c.deliversBy thread = true := by
  cases h with
  | quiet _ h => exact .inl ⟨rfl, h⟩
  | callback hc => cases hc
  | nested ha h => exact .inr ⟨_, rfl, ha, h⟩

/-- A call comes from outside, or from the only callback that runs. -/
theorem of_mayCall (h : Shape c thread l) (hm : mayCall thread l = true) :
    (l = [] ∧ c.deliversBy thread = false) ∨
      ∃ a, l = [a] ∧ a.isCallback = true ∧ c.deliversBy thread = true := by
  have hcons {a : Activation} {rest : List Activation} (hm : mayCall thread (a :: rest) = true) :
      a.isCallback = true := by cases thread <;> exact hm
  cases h with
  | outside h => exact .inl ⟨rfl, h⟩
  | quiet hq h =>
    rw [isQuiet_of_isCallback (hcons hm)] at hq
    cases hq
  | owner h => cases hcons hm
  | callback ha h => exact .inr ⟨_, rfl, ha, h⟩
  | nested => cases hcons hm

end Shape

/-- The calls that a thread can be in; a worker is the first and only one. -/
def Activation.Fits (direct : Bool) : ThreadId → Activation → Prop
  | .client _, drain _ _ _ _ => direct = true
  | .client _, dispatch _ _ _ owns _ => direct = true ∧ owns = true
  | .client _, awaitIdle _ | .client _, awaitTerminal _ => True
  | .client _, join _ w => direct = false ∧ w = .worker 0
  | .worker n, run | .worker n, runDispatch _ => direct = false ∧ n = 0
  | _, leave _ _ => True
  | _, _ => False

theorem Activation.fits_leave (direct : Bool) (thread : ThreadId) (call : Call) (own : Option ℕ) :
    (leave call own).Fits direct thread := by
  cases thread <;> trivial

/-- The flags of the state. -/
structure FlagInv (c : Core) : Prop where
  accepting : c.accepting = !c.terminalEnqueued
  enqueued : c.terminalEnqueued = true → c.activated = true
  delivered : c.terminalDelivered = true → c.terminalEnqueued = true ∧ c.items = []
  delivering : c.delivering = true → c.activated = true
  thread : c.deliveryThread.isSome = c.delivering
  workers : c.workers = if c.activated && !c.isDirect then 1 else 0
  worker : c.worker =
    if c.activated && !c.isDirect && !c.terminalEnqueued then some (.worker 0) else none

/-- The callback for `item` runs. -/
def Subscription.Runs (s : Subscription) (item : Item) : Prop :=
  ∃ thread, ∃ a ∈ s.threads thread, a.item = some item

/-- A subscription and its threads, as they can be reached. -/
structure Inv (s : Subscription) : Prop where
  shape : ∀ thread, Shape s.core thread (s.threads thread)
  fits : ∀ thread, ∀ a ∈ s.threads thread, a.Fits s.core.isDirect thread
  flags : FlagInv s.core
  before : s.core.terminalEnqueued = false → ∀ i ∈ s.core.items, i.isClosed = false
  running : ∀ i, s.Runs i → i.isClosed = true →
    s.core.terminalEnqueued = true ∧ s.core.items = []
  pending : s.core.terminalEnqueued = true → s.core.terminalDelivered = false →
    (∃ l i, s.core.items = l ++ [i] ∧ i.isClosed = true ∧ ∀ j ∈ l, j.isClosed = false) ∨
      ∃ i, s.Runs i ∧ i.isClosed = true

section
variable {s : Subscription} {thread : ThreadId} {core c : Core} {stack rest l : List Activation}
  {a : Activation}

@[simp] theorem setThread_core : (s.setThread thread core stack).core = core := rfl

@[simp] theorem setThread_self : (s.setThread thread core stack).threads thread = stack :=
  Function.update_self ..

theorem setThread_of_ne {thread' : ThreadId} (h : thread' ≠ thread) :
    (s.setThread thread core stack).threads thread' = s.threads thread' :=
  Function.update_of_ne h ..

/-- The items whose callbacks a stack runs. -/
def stackItems (l : List Activation) : List Item := l.filterMap Activation.item

theorem mem_stackItems {i : Item} :
    i ∈ stackItems l ↔ ∃ a ∈ l, a.item = some i := List.mem_filterMap

theorem runs_iff {i : Item} : s.Runs i ↔ ∃ thread, i ∈ stackItems (s.threads thread) := by
  simp only [Subscription.Runs, mem_stackItems]

theorem runs_setThread {i : Item} :
    (s.setThread thread core stack).Runs i ↔
      i ∈ stackItems stack ∨ ∃ thread' ≠ thread, i ∈ stackItems (s.threads thread') := by
  rw [runs_iff]
  constructor
  · rintro ⟨thread', h⟩
    rcases eq_or_ne thread' thread with rfl | hne
    · exact .inl (by rwa [setThread_self] at h)
    · exact .inr ⟨thread', hne, by rwa [setThread_of_ne hne] at h⟩
  · rintro (h | ⟨thread', hne, h⟩)
    · exact ⟨thread, by rwa [setThread_self]⟩
    · exact ⟨thread', by rwa [setThread_of_ne hne]⟩

theorem runs_setThread_of_eq (h : stackItems stack = stackItems (s.threads thread)) {i : Item} :
    (s.setThread thread core stack).Runs i ↔ s.Runs i := by
  rw [runs_setThread, runs_iff, h]
  constructor
  · rintro (h | ⟨thread', -, h⟩)
    · exact ⟨thread, h⟩
    · exact ⟨thread', h⟩
  · rintro ⟨thread', hmem⟩
    rcases eq_or_ne thread' thread with rfl | hne
    · exact .inl hmem
    · exact .inr ⟨thread', hne, hmem⟩

theorem Shape.stackItems_eq_nil (h : Shape c thread l) (hd : c.deliversBy thread = false) :
    stackItems l = [] := by
  rw [List.eq_nil_iff_forall_not_mem]
  intro i hi
  obtain ⟨a, ha, hai⟩ := mem_stackItems.1 hi
  rw [h.delivers ha (by rw [Activation.isCallback, hai]; rfl)] at hd
  cases hd

theorem deliversBy_eq {thread' : ThreadId} (h : c.deliversBy thread = true) :
    c.deliversBy thread' = decide (thread' = thread) := by
  unfold Core.deliversBy at *
  simp only [Bool.and_eq_true, decide_eq_true_eq] at h
  rw [h.1, h.2]
  simp [eq_comm]

theorem deliversBy_of_not_delivering (h : c.delivering = false) (thread : ThreadId) :
    c.deliversBy thread = false := by
  unfold Core.deliversBy
  rw [h]
  rfl

theorem delivering_of_deliversBy {c : Core} (h : c.deliversBy thread = true) :
    c.delivering = true := by
  unfold Core.deliversBy at h
  exact (Bool.and_eq_true _ _ ▸ h).1

/-- If no other thread delivers, the callbacks that run are those of one thread. -/
theorem Inv.runs_alone (hi : Inv s) (hfree : ∀ t ≠ thread, s.core.deliversBy t = false)
    {i : Item} : (s.setThread thread core stack).Runs i ↔ i ∈ stackItems stack := by
  rw [runs_setThread, or_iff_left]
  rintro ⟨t, hne, hmem⟩
  rw [(hi.shape t).stackItems_eq_nil (hfree t hne)] at hmem
  cases hmem

theorem Inv.runs_only (hi : Inv s) (hfree : ∀ t ≠ thread, s.core.deliversBy t = false)
    {i : Item} : s.Runs i ↔ i ∈ stackItems (s.threads thread) := by
  rw [← @Inv.runs_alone s thread s.core _ hi hfree, runs_setThread_of_eq rfl]

/-- One thread moves; the others keep their shape. -/
theorem Inv.move (hi : Inv s) (hdirect : core.isDirect = s.core.isDirect)
    (hothers : ∀ thread' ≠ thread, core.deliversBy thread' = s.core.deliversBy thread')
    (hshape : Shape core thread stack) (hfits : ∀ a ∈ stack, a.Fits s.core.isDirect thread) :
    (∀ t, Shape core t ((s.setThread thread core stack).threads t)) ∧
      ∀ t, ∀ a ∈ (s.setThread thread core stack).threads t, a.Fits core.isDirect t := by
  constructor
  · intro t
    rcases eq_or_ne t thread with rfl | hne
    · rwa [setThread_self]
    · rw [setThread_of_ne hne]
      exact (hi.shape t).congr (hothers t hne)
  · intro t a ha
    rw [hdirect]
    rcases eq_or_ne t thread with rfl | hne
    · rw [setThread_self] at ha
      exact hfits a ha
    · rw [setThread_of_ne hne] at ha
      exact hi.fits t a ha

theorem Inv.keep (hi : Inv s) (hdirect : core.isDirect = s.core.isDirect)
    (hothers : ∀ thread' ≠ thread, core.deliversBy thread' = s.core.deliversBy thread')
    (hshape : Shape core thread stack) (hfits : ∀ a ∈ stack, a.Fits s.core.isDirect thread)
    (hflags : FlagInv core) (hruns : stackItems stack = stackItems (s.threads thread))
    (henqueued : core.terminalEnqueued = s.core.terminalEnqueued)
    (hdelivered : core.terminalDelivered = s.core.terminalDelivered)
    (hitems : core.items = s.core.items ∨
      s.core.terminalEnqueued = false ∧ ∀ i ∈ core.items, i.isClosed = true → i ∈ s.core.items) :
    Inv (s.setThread thread core stack) where
  shape := (hi.move hdirect hothers hshape hfits).1
  fits := (hi.move hdirect hothers hshape hfits).2
  flags := hflags
  before h i hmem := by
    rw [setThread_core, henqueued] at h
    rcases hitems with heq | ⟨-, hnew⟩
    · exact hi.before h i (heq ▸ hmem)
    · by_contra hc
      rw [Bool.not_eq_false] at hc
      have := hi.before h i (hnew i hmem hc)
      rw [hc] at this
      cases this
  running i hr hc := by
    obtain ⟨he, hq⟩ := hi.running i ((runs_setThread_of_eq hruns).1 hr) hc
    rcases hitems with heq | ⟨hf, -⟩
    · exact ⟨henqueued.trans he, heq.trans hq⟩
    · rw [hf] at he; cases he
  pending he hd := by
    rw [setThread_core, henqueued] at he
    rw [setThread_core, hdelivered] at hd
    refine (hi.pending he hd).imp (fun h => ?_) fun ⟨i, hr, hc⟩ =>
      ⟨i, (runs_setThread_of_eq hruns).2 hr, hc⟩
    rcases hitems with heq | ⟨hf, -⟩
    · rwa [setThread_core, heq]
    · rw [hf] at he; cases he

/-! ## Every step keeps the invariant -/

/-- The delivery may change, and the terminal event be delivered. -/
theorem FlagInv.of_eq {c' : Core} (hf : FlagInv c) (hacc : c'.accepting = c.accepting)
    (hact : c'.activated = c.activated) (henq : c'.terminalEnqueued = c.terminalEnqueued)
    (hdirect : c'.isDirect = c.isDirect) (hworkers : c'.workers = c.workers)
    (hworker : c'.worker = c.worker)
    (hdelivered : c'.terminalDelivered = true → c.terminalEnqueued = true ∧ c'.items = [])
    (hdelivering : c'.delivering = true → c.activated = true)
    (hthread : c'.deliveryThread.isSome = c'.delivering) : FlagInv c' where
  accepting := by rw [hacc, henq]; exact hf.accepting
  enqueued := by rw [hact, henq]; exact hf.enqueued
  delivered := by rw [henq]; exact hdelivered
  delivering := by rw [hact]; exact hdelivering
  thread := hthread
  workers := by rw [hworkers, hact, hdirect]; exact hf.workers
  worker := by rw [hworker, hact, hdirect, henq]; exact hf.worker

theorem FlagInv.release (hf : FlagInv c) (owns : Bool) : FlagInv (c.releaseDelivery owns) := by
  cases owns with
  | false => exact hf
  | true =>
    exact hf.of_eq rfl rfl rfl rfl rfl rfl hf.delivered nofun rfl

theorem Activation.item_of_isQuiet (h : a.isQuiet = true) : a.item = none := by
  cases a <;> first | rfl | cases h

theorem Inv.stop (hi : Inv s) {b : Activation} {owns : Bool} (ht : s.threads thread = [a])
    (hn : a.item = none) (hd : s.core.deliversBy thread = owns) (hb : b.isQuiet = true)
    (hf : b.Fits s.core.isDirect thread) :
    Inv (s.setThread thread (s.core.releaseDelivery owns) [b]) := by
  have hoff : (s.core.releaseDelivery owns).deliversBy thread = false := by
    cases owns with
    | true => rfl
    | false => exact hd
  refine hi.keep ?_ (fun t hne => ?_) (.quiet hb hoff) (by simpa using hf) (hi.flags.release owns)
    ?_ ?_ ?_ (.inl ?_)
  · cases owns <;> rfl
  · cases owns with
    | false => rfl
    | true => rw [deliversBy_eq hd]; simp [hne]; rfl
  · rw [ht]
    simp [stackItems, b.item_of_isQuiet hb, hn]
  all_goals cases owns <;> rfl

theorem Inv.take (hi : Inv s) {b : Activation} {item : Item} {rest : List Item}
    (ht : s.threads thread = [a]) (hn : a.item = none) (hd : s.core.terminalDelivered = false)
    (ha : s.core.activated = true) (hq : s.core.items = item :: rest)
    (hfree : ∀ thread' ≠ thread, s.core.deliversBy thread' = false) (hb : b.item = some item)
    (hf : b.Fits s.core.isDirect thread) :
    Inv (s.setThread thread (s.core.takeFront thread item rest) [b]) := by
  have hsame := s.core.takeFront_same thread item rest
  have hcb : b.isCallback = true := by rw [Activation.isCallback, hb]; rfl
  have hshape : Shape (s.core.takeFront thread item rest) thread [b] := .callback hcb (by simp)
  have hmove := hi.move hsame.isDirect
    (fun t hne => by rw [Core.deliversBy_takeFront, hfree t hne]; simp [hne])
    hshape (by simpa using hf)
  -- no callback ran before
  have hnone (i : Item) : ¬ s.Runs i := by
    rw [hi.runs_only hfree, ht]
    simp [stackItems, hn]
  have hruns {i : Item} : (s.setThread thread (s.core.takeFront thread item rest) [b]).Runs i ↔
      i = item := by
    rw [hi.runs_alone hfree]
    simp [stackItems, hb]
  refine ⟨hmove.1, hmove.2, ?_, fun he i hmem => ?_, fun i hr hc => ?_, fun he hd' => ?_⟩
  · refine hi.flags.of_eq hsame.accepting hsame.activated hsame.terminalEnqueued hsame.isDirect
      hsame.workers hsame.worker (fun he => ?_) (fun _ => ha) ?_
    · rw [setThread_core, hsame.terminalDelivered, show _ = false from hd] at he
      cases he
    · rw [setThread_core, hsame.delivering, hsame.deliveryThread]
      rfl
  · rw [setThread_core, hsame.terminalEnqueued] at he
    rw [setThread_core, Core.takeFront_items] at hmem
    exact hi.before he i (by rw [hq]; exact List.mem_cons_of_mem _ hmem)
  · obtain rfl := hruns.1 hr
    rw [setThread_core, hsame.terminalEnqueued, Core.takeFront_items]
    have he : s.core.terminalEnqueued = true := by
      by_contra hne
      rw [Bool.not_eq_true] at hne
      have := hi.before hne i (by rw [hq]; exact List.mem_cons_self)
      rw [hc] at this
      cases this
    refine ⟨he, ?_⟩
    -- a terminal event is the last one
    rcases hi.pending he hd with ⟨l, j, hl, -, hfirst⟩ | ⟨j, hr, -⟩
    · rw [hq] at hl
      cases l with
      | nil => exact (List.cons.inj hl).2
      | cons k l =>
        have := hfirst k List.mem_cons_self
        rw [← (List.cons.inj hl).1, hc] at this
        cases this
    · exact absurd hr (hnone j)
  · rw [setThread_core, hsame.terminalEnqueued] at he
    rw [setThread_core, Core.takeFront_items]
    rcases hi.pending he hd with ⟨l, j, hl, hj, hfirst⟩ | ⟨j, hr, -⟩
    · rw [hq] at hl
      cases l with
      | nil =>
        rw [(List.cons.inj hl).1] at hruns
        exact .inr ⟨j, hruns.2 rfl, hj⟩
      | cons k l =>
        exact .inl ⟨l, j, (List.cons.inj hl).2, hj, fun x hx =>
          hfirst x (List.mem_cons_of_mem _ hx)⟩
    · exact absurd hr (hnone j)

/-- The state after a callback for `item`: the delivery was given up, or goes
    on. -/
structure AfterCallback (c : Core) (item : Item) (core : Core) : Prop where
  isDirect : core.isDirect = c.isDirect
  items : core.items = c.items
  activeStreams : core.activeStreams = c.activeStreams
  deliveredStreams : core.deliveredStreams = c.deliveredStreams
  completions : core.completions = c.completions
  completed : core.completed = (c.finishItem item).completed
  accepting : core.accepting = c.accepting
  activated : core.activated = c.activated
  terminalEnqueued : core.terminalEnqueued = c.terminalEnqueued
  terminalDelivered : core.terminalDelivered = (c.terminalDelivered || item.isClosed)
  workers : core.workers = c.workers
  worker : core.worker = c.worker
  delivery : core.delivering = false ∧ core.deliveryThread = none ∨
    core.delivering = c.delivering ∧ core.deliveryThread = c.deliveryThread

theorem afterCallback_finishItem (c : Core) (item : Item) (owns : Bool) :
    AfterCallback c item ((c.finishItem item).releaseDelivery owns) := by
  cases owns with
  | false =>
    exact ⟨rfl, rfl, rfl, rfl, rfl, rfl, rfl, rfl, rfl, rfl, rfl, rfl, .inr ⟨rfl, rfl⟩⟩
  | true => exact ⟨rfl, rfl, rfl, rfl, rfl, rfl, rfl, rfl, rfl, rfl, rfl, rfl, .inl ⟨rfl, rfl⟩⟩

theorem afterCallback_finishRun (c : Core) (item : Item) :
    AfterCallback c item (c.finishRun item) :=
  ⟨rfl, rfl, rfl, rfl, rfl, rfl, rfl, rfl, rfl, rfl, rfl, rfl, .inl ⟨rfl, rfl⟩⟩

theorem Inv.finish (hi : Inv s) {item : Item} (ht : s.threads thread = [a])
    (ha : a.item = some item) (hc : AfterCallback s.core item core)
    (hshape : Shape core thread stack) (hfits : ∀ b ∈ stack, b.Fits s.core.isDirect thread)
    (hruns : stackItems stack = []) : Inv (s.setThread thread core stack) := by
  have hmem : a ∈ s.threads thread := by rw [ht]; exact List.mem_cons_self
  have hby : s.core.deliversBy thread = true :=
    (hi.shape thread).delivers hmem (by rw [Activation.isCallback, ha]; rfl)
  have hrun : s.Runs item := ⟨thread, a, hmem, ha⟩
  -- the callback was the only one
  have honly {t : ThreadId} (hne : t ≠ thread) : s.core.deliversBy t = false := by
    rw [deliversBy_eq hby]; simp [hne]
  have hnone (i : Item) : ¬ (s.setThread thread core stack).Runs i := by
    rw [hi.runs_alone fun _ => honly, hruns]
    exact List.not_mem_nil
  have hothers : ∀ t ≠ thread, core.deliversBy t = s.core.deliversBy t := by
    intro t hne
    rcases hc.delivery with ⟨hd, -⟩ | ⟨hd, hd'⟩
    · rw [deliversBy_of_not_delivering hd, honly hne]
    · unfold Core.deliversBy; rw [hd, hd']
  have hmove := hi.move hc.isDirect hothers hshape hfits
  have hclosed : core.terminalDelivered = true →
      s.core.terminalEnqueued = true ∧ s.core.items = [] := by
    intro hd
    rw [hc.terminalDelivered, Bool.or_eq_true] at hd
    exact hd.elim hi.flags.delivered fun hcl => hi.running item hrun hcl
  refine ⟨hmove.1, hmove.2, ?_, fun he i hmem => ?_,
    fun i hr => absurd hr (hnone i), fun he hd => ?_⟩
  · refine hi.flags.of_eq hc.accepting hc.activated hc.terminalEnqueued hc.isDirect hc.workers
      hc.worker (hc.items.symm ▸ hclosed) (fun hd => ?_) ?_
    · rcases hc.delivery with ⟨hd', -⟩ | ⟨hd', -⟩
      · rw [setThread_core, hd'] at hd; cases hd
      · exact hi.flags.delivering (hd' ▸ hd)
    · rw [setThread_core]
      rcases hc.delivery with ⟨hd, hd'⟩ | ⟨hd, hd'⟩
      · rw [hd, hd']; rfl
      · rw [hd, hd']; exact hi.flags.thread
  · rw [setThread_core, hc.terminalEnqueued] at he
    rw [setThread_core, hc.items] at hmem
    exact hi.before he i hmem
  · rw [setThread_core, hc.terminalEnqueued] at he
    rw [setThread_core, hc.terminalDelivered, Bool.or_eq_false_iff] at hd
    rw [setThread_core, hc.items]
    rcases hi.pending he hd.1 with h | ⟨j, hr, hj⟩
    · exact .inl h
    · -- the callback that has finished was not that of the terminal event
      rw [hi.runs_only fun _ => honly, ht] at hr
      have hji : j = item := by simpa [stackItems, ha] using hr
      rw [hji, hd.2] at hj
      cases hj

/-! ### Calls -/

/-- The stack of a thread that enters a call: the call is quiet, and from inside
    a callback it is about to return. -/
theorem Inv.shape_enter (hi : Inv s) (hm : mayCall thread (s.threads thread) = true)
    (hby : core.deliversBy thread = s.core.deliversBy thread) (hq : a.isQuiet = true)
    (hl : s.core.deliversBy thread = true → ∃ call own, a = .leave call own) :
    Shape core thread (a :: s.threads thread) := by
  rcases (hi.shape thread).of_mayCall hm with ⟨hnil, hd⟩ | ⟨b, hb, hcb, hd⟩
  · rw [hnil]
    exact .quiet hq (hby.trans hd)
  · obtain ⟨call, own, rfl⟩ := hl hd
    rw [hb]
    exact .nested hcb (hby.trans hd)

theorem fits_cons (hi : Inv s) (ha : a.Fits s.core.isDirect thread) :
    ∀ b ∈ a :: s.threads thread, b.Fits s.core.isDirect thread := by
  intro b hb
  rcases List.mem_cons.1 hb with rfl | hb
  · exact ha
  · exact hi.fits thread b hb

theorem stackItems_cons (h : a.item = none) :
    stackItems (a :: l) = stackItems l := List.filterMap_cons_none h

theorem Inv.client (hi : Inv s) (hm : mayCall thread (s.threads thread) = true)
    (hd : s.core.deliversBy thread = false) :
    s.threads thread = [] ∧ ∃ n, thread = .client n := by
  rcases (hi.shape thread).of_mayCall hm with ⟨hnil, -⟩ | ⟨b, -, -, hd'⟩
  · refine ⟨hnil, ?_⟩
    rw [hnil] at hm
    cases thread with
    | client n => exact ⟨n, rfl⟩
    | worker n => cases hm
  · rw [hd] at hd'; cases hd'

theorem FlagInv.of_same {c' : Core} (hf : FlagInv c) (h : Core.SameFlags c c')
    (hitems : c.terminalEnqueued = true → c'.items = c.items) : FlagInv c' := by
  refine hf.of_eq h.accepting h.activated h.terminalEnqueued h.isDirect h.workers h.worker
    (fun hd => ?_) (h.delivering ▸ hf.delivering) ?_
  · obtain ⟨he, hq⟩ := hf.delivered (h.terminalDelivered ▸ hd)
    exact ⟨he, (hitems he).trans hq⟩
  · rw [h.deliveryThread, h.delivering, hf.thread]

theorem Inv.publish (hi : Inv s) (hm : mayCall thread (s.threads thread) = true) {call : Call}
    {priming : Bool} {p : Core.Published} (hp : Core.Publishes s.core thread priming p) :
    Inv (s.setThread thread p.core
      ((Core.Published.entered p call).activation :: s.threads thread)) := by
  have hclosed : s.core.terminalEnqueued = true → p = { core := s.core } := fun he =>
    hp.refused (by rw [hi.flags.accepting, he]; rfl)
  -- the call drains only if it was made from outside
  have hact : (∃ own, (Core.Published.entered p call).activation = .leave call own) ∨
      (s.core.isDirect = true ∧ s.core.deliversBy thread = false ∧
        ∃ n, (Core.Published.entered p call).activation = .drain call (some n) (some n) false) := by
    unfold Core.Published.entered
    rcases hp.pushed with rfl | ⟨bodies, -, hpush⟩
    · exact .inl ⟨none, rfl⟩
    · generalize p.core.completions = n, p.completion = completion, p.queued = queued at hpush
      cases hpush with
      | owned hd _ ht => exact .inr ⟨hd, ht, _, rfl⟩
      | free => exact .inl ⟨none, rfl⟩
  have hquiet : (Core.Published.entered p call).activation.isQuiet = true ∧
      (Core.Published.entered p call).activation.item = none := by
    rcases hact with ⟨own, h⟩ | ⟨-, -, n, h⟩ <;> rw [h] <;> exact ⟨rfl, rfl⟩
  refine hi.keep hp.same.isDirect (fun t _ => hp.same.deliversBy t)
    (hi.shape_enter hm (hp.same.deliversBy thread) hquiet.1 fun hd => ?_) (fits_cons hi ?_)
    (hi.flags.of_same hp.same fun he => by rw [hclosed he]) (stackItems_cons hquiet.2)
    hp.same.terminalEnqueued hp.same.terminalDelivered ?_
  · rcases hact with ⟨own, h⟩ | ⟨-, ht, -⟩
    · exact ⟨_, _, h⟩
    · rw [hd] at ht; cases ht
  · rcases hact with ⟨own, h⟩ | ⟨hdir, ht, n, h⟩
    · rw [h]; exact Activation.fits_leave ..
    · rw [h]
      obtain ⟨-, n, rfl⟩ := hi.client hm ht
      exact hdir
  · cases he : s.core.terminalEnqueued with
    | true => exact .inl (by rw [hclosed he])
    | false => exact .inr ⟨rfl, hp.closed⟩

theorem bodies_prepareTerminal (c : Core) (thread : ThreadId) (closeStreams : Bool) :
    (c.prepareTerminal thread closeStreams).queued.map Item.body =
      c.terminalBodies closeStreams := by
  unfold Core.prepareTerminal
  dsimp only
  split_ifs
  · exact Core.body_ownedItems ..
  · rw [List.map_map]
    exact List.map_id _

/-- The terminal event is the last one that is queued. -/
theorem terminal_last (c : Core) (thread : ThreadId) (closeStreams : Bool) :
    ∃ l i, (c.terminate thread closeStreams).items = l ++ [i] ∧ i.isClosed = true ∧
      ∀ j ∈ l, j.isClosed = false := by
  have hb := bodies_prepareTerminal c thread closeStreams
  change (c.terminate thread closeStreams).items.map Item.body = _ at hb
  rw [Core.terminalBodies] at hb
  obtain ⟨l, l', hl, hbl, hbl'⟩ := List.map_eq_append_iff.1 hb
  obtain ⟨i, rfl, hi⟩ := List.map_eq_singleton_iff.1 hbl'
  refine ⟨l, i, hl, by simp [Item.isClosed, hi], fun j hj => ?_⟩
  refine Core.not_isClosed_of_body (l := l) ?_ hj
  rw [hbl]
  cases closeStreams <;> simp

theorem Inv.terminate (hi : Inv s) (hm : mayCall thread (s.threads thread) = true)
    (he : s.core.terminalEnqueued = false) (hdirect : core.isDirect = s.core.isDirect)
    (hby : ∀ t, core.deliversBy t = s.core.deliversBy t) (hq : a.isQuiet = true)
    (hl : s.core.deliversBy thread = true → ∃ call own, a = .leave call own)
    (hfits : a.Fits s.core.isDirect thread) (hflags : FlagInv core)
    (henq : core.terminalEnqueued = true)
    (hitems : core.terminalDelivered = false → ∃ l i, core.items = l ++ [i] ∧
      i.isClosed = true ∧ ∀ j ∈ l, j.isClosed = false) :
    Inv (s.setThread thread core (a :: s.threads thread)) := by
  have hmove := hi.move hdirect (fun t _ => hby t) (hi.shape_enter hm (hby thread) hq hl)
    (fits_cons hi hfits)
  refine ⟨hmove.1, hmove.2, hflags, fun h => ?_, fun i hr hc => ?_, fun _ hd => .inl (hitems hd)⟩
  · rw [setThread_core, henq] at h; cases h
  · have hruns := stackItems_cons (l := s.threads thread) (a.item_of_isQuiet hq)
    have := (hi.running i ((runs_setThread_of_eq hruns).1 hr) hc).1
    rw [he] at this
    cases this

theorem Inv.spawn (hi : Inv s) (hd : s.core.deliversBy (.worker 0) = false)
    (hm : s.core.isDirect = false) : Inv (s.setThread (.worker 0) s.core [.run]) := by
  refine hi.keep rfl (fun _ _ => rfl) (.quiet rfl hd) ?_ hi.flags ?_ rfl rfl (.inl rfl)
  · intro a ha
    rw [List.mem_singleton.1 ha]
    exact ⟨hm, rfl⟩
  · rw [(hi.shape (.worker 0)).stackItems_eq_nil hd]
    rfl

theorem Inv.same (hi : Inv s) (hm : mayCall thread (s.threads thread) = true)
    (hq : a.isQuiet = true) (hl : s.core.deliversBy thread = true → ∃ call own, a = .leave call own)
    (hfits : a.Fits s.core.isDirect thread) :
    Inv (s.setThread thread s.core (a :: s.threads thread)) := by
  exact hi.keep rfl (fun _ _ => rfl) (hi.shape_enter hm rfl hq hl) (fits_cons hi hfits) hi.flags
    (stackItems_cons (a.item_of_isQuiet hq)) rfl rfl (.inl rfl)

theorem FlagInv.startWorker (hf : FlagInv c) (hm : c.isDirect = false)
    (he : c.terminalEnqueued = false) (thread : ThreadId) (closeStreams : Bool) :
    (c.terminate thread closeStreams).startWorker =
      { c.terminate thread closeStreams with worker := some (.worker 0), workers := 1 } := by
  have hworker : (c.terminate thread closeStreams).worker = c.worker := rfl
  have hworkers : (c.terminate thread closeStreams).workers = c.workers := rfl
  rw [hf.worker, hm, he] at hworker
  rw [hf.workers, hm] at hworkers
  generalize c.terminate thread closeStreams = c' at *
  unfold Core.startWorker
  cases ha : c.activated with
  | true =>
    rw [ha] at hworker hworkers
    rw [hworker, ← show c'.workers = 1 from hworkers]
    cases c'
    cases hworker
    rfl
  | false =>
    rw [ha] at hworker hworkers
    rw [hworker, hworkers]
    rfl

theorem FlagInv.off (hf : FlagInv c) (h : c.activated = false) :
    c.delivering = false ∧ c.terminalEnqueued = false := by
  constructor
  · by_contra hd
    rw [hf.delivering (by simpa using hd)] at h
    cases h
  · by_contra he
    rw [hf.enqueued (by simpa using he)] at h
    cases h

theorem entered_of_eq {e : Entered} (h : e.core.workers = s.core.workers) :
    s.entered thread e = s.setThread thread e.core (e.activation :: s.threads thread) := if_pos h

theorem entered_of_ne {e : Entered} (h : e.core.workers ≠ s.core.workers) :
    s.entered thread e = (s.setThread thread e.core (e.activation :: s.threads thread)).setThread
      (.worker s.core.workers) e.core [.run] := if_neg h

theorem Inv.activate (hi : Inv s) (hm : mayCall thread (s.threads thread) = true) :
    Inv (s.enter thread .activate) := by
  cases hact : s.core.activated with
  | true =>
    have he : s.core.enter thread .activate =
        { core := s.core, activation := .leave .activate none } := if_pos hact
    rw [Subscription.enter, he, entered_of_eq rfl]
    exact hi.same hm rfl (fun _ => ⟨_, _, rfl⟩) (Activation.fits_leave ..)
  | false =>
    obtain ⟨hoff, henq⟩ := hi.flags.off hact
    have hby := deliversBy_of_not_delivering hoff
    obtain ⟨-, n, rfl⟩ := hi.client hm (hby thread)
    have hf := hi.flags
    cases hdirect : s.core.isDirect with
    | true =>
      have he : s.core.enter (.client n) .activate =
          { core := { s.core with activated := true }
            activation := .drain .activate none none false } := by
        simp [Core.enter, Core.activate, hact, hdirect]
      rw [Subscription.enter, he, entered_of_eq rfl]
      refine hi.keep rfl (fun _ _ => rfl) (hi.shape_enter hm rfl rfl fun hd => ?_)
        (fits_cons hi hdirect) ?_ (stackItems_cons rfl) rfl rfl (.inl rfl)
      · rw [hby] at hd; cases hd
      · refine ⟨hf.accepting, fun _ => rfl, hf.delivered, fun _ => rfl, hf.thread, ?_, ?_⟩
        · show s.core.workers = if true && !s.core.isDirect then 1 else 0
          rw [hf.workers, hdirect, Bool.not_true, Bool.and_false, Bool.and_false]
        · show s.core.worker = if true && !s.core.isDirect && _ then _ else none
          rw [hf.worker, hdirect, Bool.not_true, Bool.and_false, Bool.and_false]
    | false =>
      have hf' : FlagInv
          { s.core with activated := true, workers := 1, worker := some (.worker 0) } := by
        refine ⟨hf.accepting, fun _ => rfl, hf.delivered, fun _ => rfl, hf.thread, ?_, ?_⟩
        · show 1 = if true && !s.core.isDirect then 1 else 0
          rw [hdirect]; rfl
        · show _ = if true && !s.core.isDirect && !s.core.terminalEnqueued then _ else none
          rw [hdirect, henq]; rfl
      have hw : s.core.workers = 0 ∧ s.core.worker = none :=
        ⟨by rw [hf.workers, hact]; rfl, by rw [hf.worker, hact]; rfl⟩
      have he : s.core.enter (.client n) .activate =
          { core := { s.core with activated := true, workers := 1, worker := some (.worker 0) }
            activation := .leave .activate none } := by
        simp [Core.enter, Core.activate, hact, hdirect, Core.startWorker, hw.1, hw.2]
      rw [Subscription.enter, he, entered_of_ne (by rw [hw.1]; exact Nat.one_ne_zero), hw.1]
      refine Inv.spawn (hi.keep rfl (fun _ _ => rfl)
        (hi.shape_enter hm rfl rfl fun hd => ?_) (fits_cons hi trivial) hf' (stackItems_cons rfl)
        rfl rfl (.inl rfl)) (hby _) hdirect
      rw [hby] at hd; cases hd

theorem Inv.worker_of_delivers (hi : Inv s) (hm : s.core.isDirect = false)
    (hd : s.core.deliversBy thread = true) : thread = .worker 0 := by
  have hshape := hi.shape thread
  have hfits := hi.fits thread
  rw [hm] at hfits
  cases hthreads : s.threads thread with
  | nil =>
    rw [hthreads] at hshape
    cases hshape with
    | outside h => rw [hd] at h; cases h
  | cons a rest =>
    rw [hthreads] at hshape hfits
    have hcb : ∃ b ∈ a :: rest,
        b.isCallback = true ∨ ∃ call own target, b = .drain call own target true := by
      cases hshape with
      | quiet _ h => rw [hd] at h; cases h
      | owner => exact ⟨_, List.mem_cons_self, .inr ⟨_, _, _, rfl⟩⟩
      | callback ha => exact ⟨_, List.mem_cons_self, .inl ha⟩
      | nested ha => exact ⟨_, by simp, .inl ha⟩
    obtain ⟨b, hb, hcb⟩ := hcb
    have hfit := hfits b hb
    cases thread with
    | client n =>
      cases b with
      | drain | dispatch => simp [Activation.Fits] at hfit
      | _ =>
        simp [Activation.isCallback, Activation.item, Activation.Fits] at hcb hfit
    | worker n =>
      cases b with
      | run | runDispatch => rw [hfit.2]
      | drain | dispatch | awaitIdle | awaitTerminal | join => exact hfit.elim
      | leave => simp [Activation.isCallback, Activation.item] at hcb

theorem FlagInv.terminate {core : Core} (hf : FlagInv c) (hacc : core.accepting = false)
    (henq : core.terminalEnqueued = true) (hact : core.activated = true)
    (hdirect : core.isDirect = c.isDirect)
    (hitems : core.terminalDelivered = true → core.items = [])
    (hdel : core.delivering = c.delivering) (hthread : core.deliveryThread = c.deliveryThread)
    (hworkers : core.workers = if c.isDirect then 0 else 1) (hworker : core.worker = none) :
    FlagInv core where
  accepting := by rw [hacc, henq]; rfl
  enqueued _ := hact
  delivered hd := ⟨henq, hitems hd⟩
  delivering _ := hact
  thread := by rw [hthread, hdel]; exact hf.thread
  workers := by rw [hworkers, hact, hdirect]; cases c.isDirect <;> rfl
  worker := by rw [hworker, henq, Bool.not_true, Bool.and_false]; rfl

theorem Inv.cancel (hi : Inv s) (hm : mayCall thread (s.threads thread) = true)
    (closeStreams : Bool) : Inv (s.enter thread (.cancel closeStreams)) := by
  have hf := hi.flags
  have h := s.core.cancel_spec thread closeStreams
  show Inv (s.entered thread (s.core.cancel thread closeStreams))
  generalize s.core.cancel thread closeStreams = e at h
  -- a thread that waits is a client outside the callbacks
  have hwait {a : Activation} (ht : s.core.deliversBy thread = false) (hq : a.isQuiet = true)
      (hfits : ∀ n, a.Fits s.core.isDirect (.client n)) :
      Inv (s.setThread thread s.core (a :: s.threads thread)) := by
    obtain ⟨-, n, rfl⟩ := hi.client hm ht
    exact hi.same hm hq (fun hd => by rw [ht] at hd; cases hd) (hfits n)
  cases h with
  | delivered | inside =>
    rw [entered_of_eq rfl]
    exact hi.same hm rfl (fun _ => ⟨_, _, rfl⟩) (Activation.fits_leave ..)
  | awaitIdle _ ht =>
    rw [entered_of_eq rfl]
    exact hwait ht rfl fun _ => trivial
  | awaitTerminal _ _ ht =>
    rw [entered_of_eq rfl]
    refine hwait ?_ rfl fun _ => trivial
    unfold Core.deliversBy
    simp [ht]
  | self h ht =>
    have hact : s.core.activated = true := hf.delivering (delivering_of_deliversBy ht)
    rw [entered_of_eq rfl]
    refine hi.terminate hm h rfl (fun _ => rfl) rfl (fun _ => ⟨_, _, rfl⟩)
      (Activation.fits_leave ..) (hf.terminate rfl rfl rfl rfl (fun _ => rfl) rfl rfl ?_ ?_)
      rfl nofun
    · show s.core.workers = _
      rw [hf.workers, hact]
      cases s.core.isDirect <;> rfl
    · show (if s.core.worker = some thread then none else s.core.worker) = none
      have hworker := hf.worker
      rw [hact, h] at hworker
      cases hdirect : s.core.isDirect with
      | true => rw [hdirect] at hworker; rw [hworker]; rfl
      | false =>
        rw [hdirect] at hworker
        rw [hworker, hi.worker_of_delivers hdirect ht]
        rfl
  | drain h hd ht hdirect =>
    obtain ⟨-, n, rfl⟩ := hi.client hm ht
    rw [entered_of_eq rfl]
    refine hi.terminate hm h rfl (fun _ => rfl) rfl (fun hd => by rw [ht] at hd; cases hd)
      hdirect (hf.terminate rfl rfl rfl rfl (fun hd' => ?_) rfl rfl ?_ ?_) rfl
      fun _ => terminal_last ..
    · exact absurd (hd.symm.trans hd') Bool.false_ne_true
    · show s.core.workers = _
      rw [hf.workers, hdirect, Bool.not_true, Bool.and_false]
      rfl
    · show s.core.worker = _
      rw [hf.worker, hdirect, Bool.not_true, Bool.and_false]
      rfl
  | @join w h hd ht hdirect hw =>
    obtain ⟨-, n, rfl⟩ := hi.client hm ht
    rw [hf.startWorker hdirect h] at hw ⊢
    obtain rfl := Option.some.inj hw
    have hjoin : Inv (s.setThread (.client n)
        { s.core.terminate (.client n) closeStreams with workers := 1, worker := none }
        (.join (.cancel closeStreams) (.worker 0) :: s.threads (.client n))) :=
      hi.terminate hm h rfl (fun _ => rfl) rfl (fun hd => by rw [ht] at hd; cases hd) ⟨hdirect, rfl⟩
      (hf.terminate rfl rfl rfl rfl (fun hd' => absurd (hd.symm.trans hd') Bool.false_ne_true)
        rfl rfl (by rw [hdirect]; rfl) rfl) rfl fun _ => terminal_last ..
    cases hact : s.core.activated with
    | true =>
      rw [entered_of_eq (by rw [hf.workers, hact, hdirect]; rfl)]
      exact hjoin
    | false =>
      have hw : s.core.workers = 0 := by rw [hf.workers, hact]; rfl
      rw [entered_of_ne (by rw [hw]; exact Nat.one_ne_zero), hw]
      exact hjoin.spawn (deliversBy_of_not_delivering (hf.off hact).1 _) hdirect

theorem Inv.enter (hi : Inv s) (hm : mayCall thread (s.threads thread) = true) (call : Call) :
    Inv (s.enter thread call) := by
  have hpublish {priming : Bool} {p : Core.Published}
      (hp : Core.Publishes s.core thread priming p) :
      Inv (s.entered thread (Core.Published.entered p call)) := by
    rw [entered_of_eq hp.same.workers]
    exact hi.publish hm hp
  cases call with
  | primeStreamEvent event => exact hpublish (s.core.publishStreamEvent_spec thread true event)
  | publishStreamEvent event => exact hpublish (s.core.publishStreamEvent_spec thread false event)
  | publishFrame frame => exact hpublish (s.core.publishFrame_spec thread frame)
  | activate => exact hi.activate hm
  | cancel closeStreams => exact hi.cancel hm closeStreams

theorem Inv.top (hi : Inv s) (ht : s.threads thread = a :: rest)
    (ha : ∀ call own, a ≠ .leave call own) :
    rest = [] ∧ s.core.deliversBy thread = !a.isQuiet ∧ a.Fits s.core.isDirect thread := by
  have hshape := hi.shape thread
  have hfits := hi.fits thread
  rw [ht] at hshape hfits
  exact ⟨(hshape.top ha).1, (hshape.top ha).2, hfits a List.mem_cons_self⟩

theorem Inv.drain_top (hi : Inv s) {call : Call} {own target : Option ℕ} {owns : Bool}
    (ht : s.threads thread = .drain call own target owns :: rest) :
    rest = [] ∧ s.core.deliversBy thread = owns ∧ s.core.isDirect = true ∧
      ∃ n, thread = .client n := by
  obtain ⟨hrest, hby, hfit⟩ := hi.top ht nofun
  cases thread with
  | client n => exact ⟨hrest, by simpa [Activation.isQuiet] using hby, hfit, n, rfl⟩
  | worker n => exact hfit.elim

theorem Inv.dispatch_top (hi : Inv s) {call : Call} {own target : Option ℕ} {owns : Bool}
    {item : Item} (ht : s.threads thread = .dispatch call own target owns item :: rest) :
    rest = [] ∧ s.core.deliversBy thread = true ∧ owns = true ∧ s.core.isDirect = true ∧
      ∃ n, thread = .client n := by
  obtain ⟨hrest, hby, hfit⟩ := hi.top ht nofun
  cases thread with
  | client n => exact ⟨hrest, hby, hfit.2, hfit.1, n, rfl⟩
  | worker n => exact hfit.elim

theorem Inv.run_top (hi : Inv s) (ht : s.threads thread = .run :: rest) :
    rest = [] ∧ s.core.deliversBy thread = false ∧ s.core.isDirect = false ∧
      thread = .worker 0 := by
  obtain ⟨hrest, hby, hfit⟩ := hi.top ht nofun
  cases thread with
  | client n => exact hfit.elim
  | worker n => exact ⟨hrest, hby, hfit.1, by rw [hfit.2]⟩

theorem Inv.runDispatch_top (hi : Inv s) {item : Item}
    (ht : s.threads thread = .runDispatch item :: rest) :
    rest = [] ∧ s.core.deliversBy thread = true ∧ s.core.isDirect = false ∧
      thread = .worker 0 := by
  obtain ⟨hrest, hby, hfit⟩ := hi.top ht nofun
  cases thread with
  | client n => exact hfit.elim
  | worker n => exact ⟨hrest, hby, hfit.1, by rw [hfit.2]⟩

/-- A round that takes nothing gives up the delivery. -/
theorem Inv.drain_stops (hi : Inv s) {target : Option ℕ} {owns : Bool}
    (hby : s.core.deliversBy thread = owns) :
    (s.core.drain thread target owns = .leave core → core = s.core.releaseDelivery owns) ∧
      ∀ {target' owns'}, s.core.drain thread target owns = .wait core target' owns' →
        core = s.core.releaseDelivery owns ∧ owns' = false := by
  have hoff : s.core.activated = false → owns = false := fun ha => by
    rw [← hby, deliversBy_of_not_delivering (hi.flags.off ha).1]
  have hspec := s.core.drain_spec thread target owns
  refine ⟨fun h => ?_, fun h => ?_⟩
  · rw [h] at hspec
    cases hspec with
    | delivered | done | stuck => rfl
    | inactive ha => rw [hoff ha]; rfl
    | nested ht ho => rw [ht, ho] at hby; cases hby
  · rw [h] at hspec
    cases hspec with
    | inactiveWait ha => rw [hoff ha]; exact ⟨rfl, rfl⟩
    | busy _ ht => rw [← hby, ht]; exact ⟨rfl, rfl⟩
    | stuckWait => exact ⟨rfl, rfl⟩

/-- **The threads keep their shape** in every step. -/
theorem SubscriptionStep.inv {s' : Subscription} {e : Event} (h : SubscriptionStep s e s')
    (hi : Inv s) : Inv s' := by
  cases h with
  | enter thread call hm => exact hi.enter hm call
  | @drainLeave thread call own target owns rest core ht hc =>
    obtain ⟨rfl, hby, -, n, rfl⟩ := hi.drain_top ht
    rw [(hi.drain_stops hby).1 hc]
    exact hi.stop ht rfl hby rfl trivial
  | @drainWait thread call own target target' owns owns' rest core ht hc =>
    obtain ⟨rfl, hby, hdirect, n, rfl⟩ := hi.drain_top ht
    obtain ⟨rfl, rfl⟩ := (hi.drain_stops hby).2 hc
    exact hi.stop ht rfl hby rfl hdirect
  | @drainTake thread call own target target' owns rest core item ht hc =>
    obtain ⟨rfl, hby, hdirect, n, rfl⟩ := hi.drain_top ht
    have hspec := s.core.drain_spec (.client n) target owns
    rw [hc] at hspec
    cases hspec with
    | take hd ha hq _ hfree =>
      refine hi.take ht rfl hd ha hq (fun t hne => ?_) rfl ⟨hdirect, rfl⟩
      cases hdel : s.core.delivering with
      | true => rw [deliversBy_eq (hfree hdel).1]; simp [hne]
      | false => exact deliversBy_of_not_delivering hdel t
  | @finishLeave thread call own target owns item rest core ht hc =>
    obtain ⟨rfl, hby, rfl, hdirect, n, rfl⟩ := hi.dispatch_top ht
    have hspec := s.core.finishDirect_spec (.client n) target true item
    rw [hc] at hspec
    cases hspec with
    | delivered | done =>
      exact hi.finish ht rfl (afterCallback_finishItem s.core item true) (.quiet rfl rfl)
        (by simp [Activation.Fits]) rfl
  | @finishNext thread call own target target' owns item rest core ht hc =>
    obtain ⟨rfl, hby, rfl, hdirect, n, rfl⟩ := hi.dispatch_top ht
    have hspec := s.core.finishDirect_spec (.client n) target true item
    rw [hc] at hspec
    cases hspec with
    | next =>
      exact hi.finish ht rfl (afterCallback_finishItem s.core item false) (.owner hby)
        (by simpa [Activation.Fits] using hdirect) rfl
  | awaitIdle ht | awaitTerminal ht | join ht =>
    obtain ⟨rfl, hby, -⟩ := hi.top ht nofun
    exact hi.stop ht rfl hby rfl (Activation.fits_leave ..)
  | @leave thread call own rest ht =>
    have hshape := hi.shape thread
    rw [ht] at hshape
    refine hi.keep rfl (fun _ _ => rfl) ?_ (fun a ha => hi.fits thread a ?_) hi.flags ?_ rfl rfl
      (.inl rfl)
    · rcases hshape.top_leave with ⟨rfl, hby⟩ | ⟨a, rfl, ha, hby⟩
      · exact .outside hby
      · exact .callback ha hby
    · rw [ht]
      exact List.mem_cons_of_mem _ ha
    · rw [ht]
      exact (stackItems_cons rfl).symm
  | @runTake thread rest core item ht hc =>
    obtain ⟨rfl, hby, hasync, rfl⟩ := hi.run_top ht
    rcases Core.run_spec hc with ⟨hr, -⟩ | ⟨item', rest, hr, hd, ha, hq⟩
    · cases hr
    · cases hr
      refine hi.take ht rfl hd ha hq (fun t hne => ?_) rfl ⟨hasync, rfl⟩
      by_contra hdel
      exact hne (hi.worker_of_delivers hasync (by simpa using hdel))
  | @runEnd thread rest ht hc =>
    obtain ⟨rfl, hby, -⟩ := hi.run_top ht
    exact hi.keep rfl (fun _ _ => rfl) (.outside hby) (by simp) hi.flags (by rw [ht]; rfl) rfl rfl
      (.inl rfl)
  | @runFinish thread item rest ht =>
    obtain ⟨rfl, hby, hasync, rfl⟩ := hi.runDispatch_top ht
    refine hi.finish ht rfl (afterCallback_finishRun s.core item) ?_ (fun b hb => ?_) ?_
    · split_ifs
      · exact .outside rfl
      · exact .quiet rfl rfl
    · split_ifs at hb
      · cases hb
      · rw [List.mem_singleton.1 hb]
        exact ⟨hasync, rfl⟩
    · split_ifs <;> rfl

end

/-! ## What a step does to the queue -/

/-- A step that only moves its thread, or gives up the delivery. -/
structure SameQueue (c c' : Core) : Prop where
  isDirect : c'.isDirect = c.isDirect
  items : c'.items = c.items
  activeStreams : c'.activeStreams = c.activeStreams
  deliveredStreams : c'.deliveredStreams = c.deliveredStreams
  completions : c'.completions = c.completions
  completed : c'.completed = c.completed
  activated : c.activated = true → c'.activated = true
  terminalEnqueued : c'.terminalEnqueued = c.terminalEnqueued
  terminalDelivered : c'.terminalDelivered = c.terminalDelivered
  delivering : c'.delivering = true → c.delivering = true

theorem SameQueue.refl (c : Core) : SameQueue c c :=
  ⟨rfl, rfl, rfl, rfl, rfl, rfl, id, rfl, rfl, id⟩

theorem SameQueue.release (c : Core) (owns : Bool) : SameQueue c (c.releaseDelivery owns) := by
  cases owns with
  | false => exact .refl c
  | true => exact ⟨rfl, rfl, rfl, rfl, rfl, rfl, id, rfl, rfl, by rintro ⟨⟩⟩

/-- The items that a call queues, by its event. -/
def Event.queued : Event → List Item
  | entered _ _ queued => queued
  | _ => []

/-- The items that were queued. -/
def queuedItems (t : List Event) : List Item := t.flatMap Event.queued

/-- The items whose callbacks were started. -/
def startedItems (t : List Event) : List Item :=
  t.filterMap fun
    | .started _ item => some item
    | _ => none

/-- The items whose callbacks have returned. -/
def finishedItems (t : List Event) : List Item :=
  t.filterMap fun
    | .finished _ item => some item
    | _ => none

theorem queuedItems_concat (t : List Event) (e : Event) :
    queuedItems (t ++ [e]) = queuedItems t ++ e.queued := by
  rw [queuedItems, List.flatMap_append, List.flatMap_singleton]
  rfl

theorem startedItems_concat (t : List Event) (e : Event) :
    startedItems (t ++ [e]) = startedItems t ++ startedItems [e] := List.filterMap_append

theorem startedItems_eq_nil {e : Event} (h : ∀ thread item, e ≠ .started thread item) :
    startedItems [e] = [] := by
  cases e with
  | started thread item => exact absurd rfl (h thread item)
  | internal | entered | finished | returned => rfl

/-- **What a step does to the queue**, whoever makes it. -/
inductive Effect (c : Core) : Event → Core → Prop
  | idle {e : Event} {c' : Core} (he : e.queued = []) (h : SameQueue c c')
      (hs : ∀ thread item, e ≠ .started thread item)
      (hf : ∀ thread item, e ≠ .finished thread item) : Effect c e c'
  | publish {thread : ThreadId} {call : Call} {priming : Bool} {p : Core.Published}
      (hc : call.isCancel = false) (hp : Core.Publishes c thread priming p) :
      Effect c (.entered thread call p.queued) p.core
  | terminate {thread : ThreadId} {closeStreams : Bool} {c' : Core}
      (h : c.terminalEnqueued = false) (henq : c'.terminalEnqueued = true)
      (hdirect : c'.isDirect = c.isDirect) (hd : c'.deliveredStreams = c.deliveredStreams)
      (ha : c'.activeStreams = ∅)
      (hcompleted : c'.completed = c.completed)
      (hn : c'.completions = (c.terminate thread closeStreams).completions)
      (hq : (c'.terminalDelivered = true ∧ c'.items = [] ∧ c.deliversBy thread = true) ∨
        (c'.terminalDelivered = false ∧ c'.items = (c.terminate thread closeStreams).items ∧
          c.deliversBy thread = false)) :
      Effect c (.entered thread (.cancel closeStreams)
        (c.prepareTerminal thread closeStreams).queued) c'
  | take {thread : ThreadId} {item : Item} {rest : List Item} (hq : c.items = item :: rest)
      (hd : c.terminalDelivered = false) (ha : c.activated = true) :
      Effect c (.started thread item) (c.takeFront thread item rest)
  | finish {thread : ThreadId} {item : Item} {c' : Core} (h : AfterCallback c item c')
      (hd : c'.terminalDelivered = true → c'.delivering = false) :
      Effect c (.finished thread item) c'

section
variable {s s' : Subscription} {thread : ThreadId} {e : Event}

theorem entered_core (s : Subscription) (thread : ThreadId) (e : Entered) :
    (s.entered thread e).core = e.core := by
  unfold Subscription.entered
  dsimp only
  split_ifs <;> rfl

theorem Effect.entered {c c' : Core} {call : Call} (h : SameQueue c c') :
    Effect c (.entered thread call []) c' :=
  .idle rfl h (by rintro _ _ ⟨⟩) (by rintro _ _ ⟨⟩)

theorem Inv.effect_cancel (hi : Inv s) (thread : ThreadId) (closeStreams : Bool) :
    Effect s.core (.entered thread (.cancel closeStreams)
      (s.core.cancel thread closeStreams).queued) (s.core.cancel thread closeStreams).core := by
  have h := s.core.cancel_spec thread closeStreams
  generalize s.core.cancel thread closeStreams = r at h
  cases h with
  | delivered | awaitIdle | inside | awaitTerminal =>
    exact .entered (.refl _)
  | self h ht => exact .terminate h rfl rfl rfl rfl rfl rfl (.inl ⟨rfl, rfl, ht⟩)
  | drain h hd ht hdirect => exact .terminate h rfl rfl rfl rfl rfl rfl (.inr ⟨hd, rfl, ht⟩)
  | join h hd ht hdirect =>
    rw [hi.flags.startWorker hdirect h]
    exact .terminate h rfl rfl rfl rfl rfl rfl (.inr ⟨hd, rfl, ht⟩)

theorem Inv.effect_activate (thread : ThreadId) :
    Effect s.core (.entered thread .activate s.core.activate.queued) s.core.activate.core := by
  have hstart (c : Core) : SameQueue c c.startWorker := by
    unfold Core.startWorker
    cases c.worker <;> exact ⟨rfl, rfl, rfl, rfl, rfl, rfl, id, rfl, rfl, id⟩
  unfold Core.activate
  split_ifs with ha hd
  · exact .entered (.refl _)
  · exact .entered ⟨rfl, rfl, rfl, rfl, rfl, rfl, fun _ => rfl, rfl, rfl, id⟩
  · have h := hstart { s.core with activated := true }
    exact .entered ⟨h.1, h.2, h.3, h.4, h.5, h.6, fun _ => h.7 rfl, h.8, h.9, h.10⟩

theorem SubscriptionStep.effect (h : SubscriptionStep s e s') (hi : Inv s) :
    Effect s.core e s'.core := by
  have hidle {e : Event} {core : Core} (he : e = .internal ∨ ∃ t call own, e = .returned t call own)
      (h : SameQueue s.core core) : Effect s.core e core := by
    rcases he with rfl | ⟨t, call, own, rfl⟩ <;>
      exact .idle rfl h (by rintro _ _ ⟨⟩) (by rintro _ _ ⟨⟩)
  cases h with
  | enter thread call hm =>
    rw [Subscription.enter, entered_core]
    cases call with
    | primeStreamEvent event =>
      exact .publish rfl (s.core.publishStreamEvent_spec thread true event)
    | publishStreamEvent event =>
      exact .publish rfl (s.core.publishStreamEvent_spec thread false event)
    | publishFrame frame => exact .publish rfl (s.core.publishFrame_spec thread frame)
    | activate => exact Inv.effect_activate thread
    | cancel closeStreams => exact hi.effect_cancel thread closeStreams
  | drainLeave ht hc =>
    obtain ⟨-, hby, -⟩ := hi.drain_top ht
    rw [(hi.drain_stops hby).1 hc]
    exact hidle (.inl rfl) (.release ..)
  | drainWait ht hc =>
    obtain ⟨-, hby, -⟩ := hi.drain_top ht
    rw [((hi.drain_stops hby).2 hc).1]
    exact hidle (.inl rfl) (.release ..)
  | @drainTake thread call own target target' owns rest core item ht hc =>
    have hspec := s.core.drain_spec thread target owns
    rw [hc] at hspec
    cases hspec with
    | take hd ha hq => exact .take hq hd ha
  | @finishLeave thread call own target owns item rest core ht hc =>
    obtain ⟨-, -, rfl, -⟩ := hi.dispatch_top ht
    have hspec := s.core.finishDirect_spec thread target true item
    rw [hc] at hspec
    cases hspec with
    | delivered | done => exact .finish (afterCallback_finishItem s.core item true) fun _ => rfl
  | @finishNext thread call own target target' owns item rest core ht hc =>
    have hspec := s.core.finishDirect_spec thread target owns item
    rw [hc] at hspec
    cases hspec with
    | next hd =>
      exact .finish (afterCallback_finishItem s.core item false) fun hd' =>
        absurd (hd.symm.trans hd') Bool.false_ne_true
  | awaitIdle | awaitTerminal | join | runEnd => exact hidle (.inl rfl) (.refl _)
  | leave => exact hidle (.inr ⟨_, _, _, rfl⟩) (.refl _)
  | runTake ht hc =>
    rcases Core.run_spec hc with ⟨hr, -⟩ | ⟨item, rest, hr, hd, ha, hq⟩
    · cases hr
    · cases hr
      exact .take hq hd ha
  | @runFinish thread item rest ht =>
    exact .finish (afterCallback_finishRun s.core item) fun _ => rfl

end

end Axent.MediaStream
