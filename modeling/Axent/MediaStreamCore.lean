/-
  `MediaStreamSubscriptionState::Core` (`src/host/axent_host.cpp`): the state of
  a media stream subscription and its locked sections.

  Every function of the class locks `mutex_` for one or two sections and calls
  the sink without holding it.  The functions here are these sections: each
  gives the new state and what its thread does next.  The threads themselves
  are in `MediaStreamSubscription`.
-/
import Axent.Lib.Keyed
import Axent.Media

namespace Axent.MediaStream

open Lib

/-! ## The state -/

/-- A thread that uses the subscription, or a worker that it has started. -/
inductive ThreadId where
  | client (n : ℕ)
  | worker (n : ℕ)
  deriving DecidableEq, Repr

inductive ItemBody where
  | streamEvent (event : MediaStreamEvent)
  | frame (frame : MediaFrame)
  | deliveryEvent (event : MediaDeliveryEvent)
  deriving DecidableEq, Repr

/-- An item of the queue.  The default thread id is `none`; a
    `DirectCompletion` is named by its number. -/
structure Item where
  body : ItemBody
  directOwner : Option ThreadId := none
  directCompletion : Option ℕ := none
  deriving DecidableEq, Repr

namespace Item

def isFrame (i : Item) : Bool :=
  match i.body with
  | .frame _ => true
  | _ => false

def isStreamEvent (i : Item) : Bool :=
  match i.body with
  | .streamEvent _ => true
  | _ => false

/-- `DeliveryDropped`. -/
def isDropped (i : Item) : Bool :=
  match i.body with
  | .deliveryEvent e => e.kind = .deliveryDropped
  | _ => false

/-- `SubscriptionClosed`. -/
def isClosed (i : Item) : Bool :=
  match i.body with
  | .deliveryEvent e => e.kind = .subscriptionClosed
  | _ => false

/-- The bytes of a frame. -/
def bytes (i : Item) : ℕ :=
  match i.body with
  | .frame f => f.payload.length
  | _ => 0

/-- The frame with `MediaFrameFlag::Discontinuity`. -/
def discontinuous (i : Item) : Item :=
  match i.body with
  | .frame f => { i with body := .frame f.discontinuous }
  | _ => i

end Item

/-- `Core`.  `worker` is the joinable `worker_`; `workers` counts the threads
    that were started, and `completions` the `DirectCompletion`s made. -/
structure Core where
  options : MediaSubscriptionOptions := {}
  items : List Item := []
  activeStreams : StreamMap := ∅
  deliveredStreams : StreamMap := ∅
  queuedFrames : ℕ := 0
  queuedBytes : ℕ := 0
  stats : MediaDeliveryStats := {}
  accepting : Bool := true
  activated : Bool := false
  delivering : Bool := false
  terminalEnqueued : Bool := false
  terminalDelivered : Bool := false
  deliveryThread : Option ThreadId := none
  worker : Option ThreadId := none
  workers : ℕ := 0
  completions : ℕ := 0
  completed : ℕ → Bool := fun _ => false

namespace Core

def isDirect (c : Core) : Bool := c.options.dispatch = .direct

/-- `delivering_ && delivery_thread_ == std::this_thread::get_id()`. -/
def deliversBy (c : Core) (thread : ThreadId) : Bool :=
  c.delivering && c.deliveryThread = some thread

/-- The front item is owned by nobody or by `thread`. -/
def frontEligible (c : Core) (thread : ThreadId) : Bool :=
  match c.items with
  | [] => false
  | i :: _ => i.directOwner = none ∨ i.directOwner = some thread

/-- `start_worker_locked`. -/
def startWorker (c : Core) : Core :=
  match c.worker with
  | some _ => c
  | none => { c with worker := some (.worker c.workers), workers := c.workers + 1 }

/-! ## Publishing -/

/-- `over_limit_locked`. -/
def overLimit (c : Core) : Bool :=
  (c.options.maxFrames ≠ 0 ∧ c.options.maxFrames < c.queuedFrames) ∨
    (c.options.maxBytes ≠ 0 ∧ c.options.maxBytes < c.queuedBytes)

/-- `drop_oldest_frame_locked`. -/
def dropOldestFrame (c : Core) : Core :=
  match c.items.dropWhile (!·.isFrame) with
  | [] => c
  | i :: rest =>
    { c with
      items := c.items.takeWhile (!·.isFrame) ++ rest
      queuedBytes := c.queuedBytes - i.bytes
      queuedFrames := c.queuedFrames - 1
      stats := { c.stats with
        droppedFrames := c.stats.droppedFrames + 1
        droppedBytes := c.stats.droppedBytes + i.bytes } }

/-- The loop of `publish_frame` that drops frames, and whether it dropped any;
    every round drops a queued frame, so `queuedFrames` bounds the rounds. -/
def dropFrames : ℕ → Core → Core × Bool
  | 0, c => (c, false)
  | n + 1, c =>
    if c.overLimit ∧ c.queuedFrames ≠ 0 then ((dropFrames n c.dropOldestFrame).1, true)
    else (c, false)

/-- `mark_next_frame_discontinuous_locked`. -/
def markNextFrameDiscontinuous (c : Core) : Core :=
  { c with items := updateFirst Item.isFrame Item.discontinuous c.items }

/-- The search of `enqueue_drop_event_locked` from the back, on the reversed
    queue: a drop event behind the last stream event is replaced. -/
def replaceDropEvent (event : MediaDeliveryEvent) : List Item → Option (List Item)
  | [] => none
  | i :: rest =>
    if i.isStreamEvent then none
    else if i.isDropped then some ({ i with body := .deliveryEvent event } :: rest)
    else (replaceDropEvent event rest).map (i :: ·)

/-- `enqueue_drop_event_locked`. -/
def enqueueDropEvent (c : Core) : Core :=
  let event : MediaDeliveryEvent :=
    { kind := .deliveryDropped
      droppedFrames := c.stats.droppedFrames
      droppedBytes := c.stats.droppedBytes }
  match replaceDropEvent event c.items.reverse with
  | some items => { c with items := items.reverse }
  | none =>
    { c with
      items := c.items.takeWhile (!·.isFrame) ++ { body := .deliveryEvent event } ::
        c.items.dropWhile (!·.isFrame) }

/-- `refresh_stats_locked`. -/
def refreshStats (c : Core) : Core :=
  { c with
    stats := { c.stats with queuedFrames := c.queuedFrames, queuedBytes := c.queuedBytes } }

/-- The items of a call that owns them; the last one has the completion. -/
def ownedItems (thread : ThreadId) (completion : ℕ) : List ItemBody → List Item
  | [] => []
  | [b] => [{ body := b, directOwner := some thread, directCompletion := some completion }]
  | b :: rest => { body := b, directOwner := some thread } :: ownedItems thread completion rest

/-- What a publishing section did: the completion of its own item, if the
    caller has to drain the queue, and the items that it queued. -/
structure Published where
  core : Core
  completion : Option ℕ := none
  queued : List Item := []

/-- The end of both publishing sections: the new items are queued, and belong
    to `thread` unless they are primed, published from a callback, or left to
    the worker. -/
def push (c : Core) (thread : ThreadId) (priming : Bool) (bodies : List ItemBody) : Published :=
  if !priming && c.isDirect && !c.deliversBy thread then
    let items := ownedItems thread c.completions bodies
    { core := { c with items := c.items ++ items, completions := c.completions + 1 }
      completion := some c.completions
      queued := items }
  else
    let items := bodies.map fun b => { body := b }
    { core := { c with items := c.items ++ items }
      queued := items }

/-- What a stream event changes: the events to be queued and the streams that
    are then active. -/
def lifecycle (active : StreamMap) (event : MediaStreamEvent) :
    Option (List MediaStreamEvent × StreamMap) :=
  let streamId := event.descriptor.key.streamId
  match event.kind, active[streamId]? with
  | .opened, some current =>
    if current.key = event.descriptor.key then none
    else some ([{ kind := .closed, descriptor := current, reason := event.reason }, event],
      active.insert streamId event.descriptor)
  | .opened, none => some ([event], active.insert streamId event.descriptor)
  | .closed, some current =>
    if current.key = event.descriptor.key then some ([event], active.erase streamId) else none
  | .closed, none => none

/-- `publish_stream_event_impl`. -/
def publishStreamEvent (c : Core) (thread : ThreadId) (priming : Bool)
    (event : MediaStreamEvent) : Published :=
  if !c.accepting ∨ event.descriptor.key.generation = 0 then { core := c }
  else
    match lifecycle c.activeStreams event with
    | none => { core := c }
    | some (events, active) =>
      { c with activeStreams := active }.push thread priming (events.map .streamEvent)

/-- A frame counted as received and queued. -/
def countFrame (c : Core) (frame : MediaFrame) : Core :=
  { c with
    queuedBytes := c.queuedBytes + frame.payload.length
    queuedFrames := c.queuedFrames + 1
    stats := { c.stats with receivedFrames := c.stats.receivedFrames + 1 } }

/-- The end of `publish_frame`: a worker's queue is kept within its limits. -/
def limitQueue (c : Core) : Core :=
  if c.isDirect then c
  else
    let dropped := c.dropFrames c.queuedFrames
    if dropped.2 then dropped.1.markNextFrameDiscontinuous.enqueueDropEvent else dropped.1

/-- `publish_frame`. -/
def publishFrame (c : Core) (thread : ThreadId) (frame : MediaFrame) : Published :=
  if !c.accepting ∨ frame.generation = 0 ∨
      c.activeStreams.openKeys frame.streamId ≠ some frame.key then { core := c }
  else
    let p := (c.countFrame frame).push thread false [.frame frame]
    { p with core := p.core.limitQueue.refreshStats }

/-! ## Cancelling -/

/-- The events that close the active stream `d`: first the one that the sink
    knows under its id, and then `d` itself, if the sink does not know it yet. -/
def closeActive (delivered : StreamMap) (streamId : ℕ) (d : MediaStreamDescriptor) :
    List MediaStreamEvent :=
  (match delivered[streamId]? with
    | some known => [{ kind := .closed, descriptor := known, reason := .shutdown }]
    | none => []) ++
  if delivered.openKeys streamId = some d.key then []
  else
    [{ kind := .opened, descriptor := d, reason := .snapshot },
      { kind := .closed, descriptor := d, reason := .shutdown }]

/-- The events that close all streams: those that are active, and those that
    only the sink knows. -/
def closingEvents (active delivered : StreamMap) : List MediaStreamEvent :=
  (active.toList.flatMap fun entry => closeActive delivered entry.1 entry.2) ++
  ((delivered.toList.filter fun entry => active[entry.1]?.isNone).map fun entry =>
    { kind := .closed, descriptor := entry.2, reason := .shutdown })

/-- The items of `prepare_terminal_locked`. -/
def terminalBodies (c : Core) (closeStreams : Bool) : List ItemBody :=
  (if closeStreams then (closingEvents c.activeStreams c.deliveredStreams).map .streamEvent
    else []) ++ [.deliveryEvent { kind := .subscriptionClosed }]

/-- `prepare_terminal_locked`. -/
def prepareTerminal (c : Core) (thread : ThreadId) (closeStreams : Bool) : Published :=
  let bodies := c.terminalBodies closeStreams
  let owned := c.activated && c.isDirect
  let items := if owned then ownedItems thread c.completions bodies
    else bodies.map fun b => { body := b }
  { core :=
      { c with
        accepting := false
        items := items
        queuedFrames := 0
        queuedBytes := 0
        stats := { c.stats with queuedFrames := 0, queuedBytes := 0 }
        activeStreams := ∅
        terminalEnqueued := true
        completions := if owned then c.completions + 1 else c.completions }
    completion := if owned then some c.completions else none
    queued := items }

/-! ## Delivering -/

/-- `update_delivered_lifecycle_locked`. -/
def updateDelivered (delivered : StreamMap) (item : Item) : StreamMap :=
  match item.body with
  | .streamEvent event =>
    let streamId := event.descriptor.key.streamId
    match event.kind with
    | .opened => delivered.insert streamId event.descriptor
    | .closed =>
      if delivered.openKeys streamId = some event.descriptor.key then delivered.erase streamId
      else delivered
  | _ => delivered

/-- The queue without its front `item`, which is about to be dispatched. -/
def pop (c : Core) (item : Item) (rest : List Item) : Core :=
  let c := { c with items := rest, deliveredStreams := updateDelivered c.deliveredStreams item }
  if item.isFrame then
    { c with
      queuedBytes := c.queuedBytes - item.bytes
      queuedFrames := c.queuedFrames - 1 }.refreshStats
  else c

/-- The state with `item` taken for its callback by `thread`. -/
def takeFront (c : Core) (thread : ThreadId) (item : Item) (rest : List Item) : Core :=
  { c with delivering := true, deliveryThread := some thread }.pop item rest

/-- `finish_item_locked`. -/
def finishItem (c : Core) (item : Item) : Core :=
  { c with
    stats := if item.isFrame then
        { c.stats with deliveredFrames := c.stats.deliveredFrames + 1 }
      else c.stats
    terminalDelivered := c.terminalDelivered || item.isClosed
    completed := match item.directCompletion with
      | some n => Function.update c.completed n true
      | none => c.completed }

/-- `release_delivery`, by a thread that owns the delivery or not. -/
def releaseDelivery (c : Core) (owns : Bool) : Core :=
  if owns then { c with delivering := false, deliveryThread := none } else c

/-- What a thread waits for, after it has looked at its target. -/
def retarget (c : Core) (target : Option ℕ) : Option ℕ :=
  if target.any c.completed then none else target

/-- How the locked section of `drain_direct_queue` ends: the thread leaves,
    waits and tries again, or dispatches an item. -/
inductive Drained where
  | leave (core : Core)
  | wait (core : Core) (target : Option ℕ) (owns : Bool)
  | take (core : Core) (target : Option ℕ) (item : Item)

/-- The front item is not for this thread. -/
def stopDraining (c : Core) (target : Option ℕ) (owns : Bool) : Drained :=
  if target.isNone then .leave (c.releaseDelivery owns)
  else .wait (c.releaseDelivery owns) target false

/-- One round of the inner loop of `drain_direct_queue`. -/
def drain (c : Core) (thread : ThreadId) (target : Option ℕ) (owns : Bool) : Drained :=
  if c.terminalDelivered then .leave (c.releaseDelivery owns)
  else if target.any c.completed && !(owns && c.frontEligible thread) then
    .leave (c.releaseDelivery owns)
  else
    let target := c.retarget target
    if !c.activated then
      if target.isNone then .leave c else .wait c target owns
    else if c.delivering && !c.deliversBy thread then .wait c target owns
    else if c.deliversBy thread && !owns then .leave c
    else
      match c.items, c.frontEligible thread with
      | item :: rest, true => .take (c.takeFront thread item rest) target item
      | _, _ => c.stopDraining target owns

/-- The locked section of `drain_direct_queue` after a callback: `none` if the
    thread leaves, and otherwise its target. -/
def finishDirect (c : Core) (thread : ThreadId) (target : Option ℕ) (owns : Bool) (item : Item) :
    Core × Option (Option ℕ) :=
  let c := c.finishItem item
  if c.terminalDelivered then (c.releaseDelivery owns, none)
  else if target.any c.completed then
    if owns && c.frontEligible thread then (c, some none) else (c.releaseDelivery owns, none)
  else (c, some target)

/-- The locked section of `run` before a callback, when it does not wait: the
    item to be dispatched, or `none` if the worker ends. -/
def run (c : Core) (thread : ThreadId) : Option (Option (Core × Item)) :=
  if c.terminalDelivered then some none
  else
    match c.activated, c.items with
    | true, item :: rest =>
      some (some (c.takeFront thread item rest, item))
    | _, _ => none

/-- The locked section of `run` after a callback. -/
def finishRun (c : Core) (item : Item) : Core :=
  { c with delivering := false, deliveryThread := none }.finishItem item

/-! ## Marks -/

end Core

/-- The mark that a callback makes in the log of a sink. -/
def ItemBody.mark : ItemBody → Option (Mark StreamKey)
  | streamEvent e =>
    match e.kind with
    | .opened => some (.opened e.descriptor.key)
    | .closed => some (.closed e.descriptor.key)
  | frame f => some (.used f.key)
  | deliveryEvent _ => none

def Item.mark (i : Item) : Option (Mark StreamKey) := i.body.mark

def marks (items : List Item) : List (Mark StreamKey) := items.filterMap Item.mark

@[simp] theorem marks_append (l l' : List Item) : marks (l ++ l') = marks l ++ marks l' :=
  List.filterMap_append

theorem marks_cons (i : Item) (l : List Item) : marks (i :: l) = i.mark.toList ++ marks l := by
  unfold marks
  cases h : i.mark <;> simp [h]

/-- The streams that a sink knows, after it has seen `items`. -/
abbrev Seen (m : ℕ → Option StreamKey) (items : List Item) (m' : ℕ → Option StreamKey) : Prop :=
  Brackets StreamKey.streamId m (marks items) m'

/-- The frame is in the queue, up to its flag `Discontinuity`. -/
def FrameFrom (l : List Item) (frame : MediaFrame) : Prop :=
  ∃ i ∈ l, ∃ f, i.body = .frame f ∧ f.Marked frame

/-- A queue `l'` that is `l` up to frames that were left out or marked, and to
    delivery events. -/
structure Trims (l l' : List Item) : Prop where
  seen : ∀ {m m'}, Seen m l m' → Seen m l' m'
  closed : ∀ i ∈ l', i.isClosed = true → i ∈ l
  frames : ∀ i ∈ l', ∀ f, i.body = .frame f → FrameFrom l f

theorem frameFrom_of_mem {l : List Item} {i : Item} {f : MediaFrame} (hi : i ∈ l)
    (hf : i.body = .frame f) : FrameFrom l f := ⟨i, hi, f, hf, .inl rfl⟩

theorem Trims.refl (l : List Item) : Trims l l :=
  ⟨id, fun _ h _ => h, fun _ h _ hf => frameFrom_of_mem h hf⟩

theorem Trims.trans {l l' l'' : List Item} (h : Trims l l') (h' : Trims l' l'') : Trims l l'' :=
  ⟨h'.seen ∘ h.seen, fun i hi hc => h.closed i (h'.closed i hi hc) hc, fun i hi f hf => by
    obtain ⟨i', hi', f', hf', hmark⟩ := h'.frames i hi f hf
    obtain ⟨i₀, hi₀, f₀, hf₀, hmark₀⟩ := h.frames i' hi' f' hf'
    exact ⟨i₀, hi₀, f₀, hf₀, hmark₀.trans hmark⟩⟩

theorem Item.mark_of_isFrame {i : Item} (h : i.isFrame = true) :
    ∃ k, i.mark = some (.used k) ∧ i.isClosed = false := by
  unfold Item.isFrame at h
  split at h
  · next f hf => exact ⟨f.key, by rw [Item.mark, hf]; rfl, by rw [Item.isClosed, hf]⟩
  · cases h

theorem Item.mark_discontinuous (i : Item) : i.discontinuous.mark = i.mark := by
  unfold Item.discontinuous
  split
  · next f hf => simp only [Item.mark, hf]; rfl
  · rfl

theorem Item.frame_discontinuous {l : List Item} {i : Item} {f : MediaFrame} (hi : i ∈ l)
    (hf : i.discontinuous.body = .frame f) : FrameFrom l f := by
  unfold Item.discontinuous at hf
  split at hf
  · next f₀ hf₀ =>
    cases hf
    exact ⟨i, hi, f₀, hf₀, .inr rfl⟩
  · exact frameFrom_of_mem hi hf

theorem Item.discontinuous_of_isClosed {i : Item} (h : i.discontinuous.isClosed = true) :
    i.discontinuous = i := by
  unfold Item.discontinuous at h ⊢
  split
  · next f hf => rw [hf] at h; cases h
  · rfl

theorem isFrame_of_dropWhile {l rest : List Item} {i : Item}
    (h : l.dropWhile (!·.isFrame) = i :: rest) : i.isFrame = true := by
  have := List.head_dropWhile_not (p := (!·.isFrame)) (l := l) (by rw [h]; simp)
  simpa [h] using this

theorem Item.body_of_isDropped {i : Item} (h : i.isDropped = true) :
    ∃ e, i.body = .deliveryEvent e := by
  unfold Item.isDropped at h
  split at h
  · next e he => exact ⟨e, he⟩
  · cases h

namespace Core

theorem trims_dropOldestFrame (c : Core) : Trims c.items c.dropOldestFrame.items := by
  unfold dropOldestFrame
  split
  · exact .refl _
  · next i rest hi =>
    have hsplit : c.items = c.items.takeWhile (!·.isFrame) ++ i :: rest := by
      rw [← hi, List.takeWhile_append_dropWhile]
    obtain ⟨k, hk, -⟩ := Item.mark_of_isFrame (isFrame_of_dropWhile hi)
    have hmem : ∀ j ∈ c.items.takeWhile (!·.isFrame) ++ rest, j ∈ c.items := by
      intro j hj
      rw [hsplit]
      rcases List.mem_append.1 hj with hj | hj
      · exact List.mem_append_left _ hj
      · exact List.mem_append_right _ (List.mem_cons_of_mem _ hj)
    refine ⟨fun {m m'} h => ?_, fun j hj _ => hmem j hj, fun j hj f hf =>
      frameFrom_of_mem (hmem j hj) hf⟩
    rw [hsplit] at h
    unfold Seen at h ⊢
    rw [marks_append, marks_cons, hk] at h
    rw [marks_append]
    exact h.erase_used

theorem trims_dropFrames (n : ℕ) (c : Core) : Trims c.items (c.dropFrames n).1.items := by
  induction n generalizing c with
  | zero => exact .refl _
  | succ n ih =>
    unfold dropFrames
    split_ifs
    · exact c.trims_dropOldestFrame.trans (ih _)
    · exact .refl _

theorem trims_markNextFrameDiscontinuous (c : Core) :
    Trims c.items c.markNextFrameDiscontinuous.items := by
  unfold markNextFrameDiscontinuous
  generalize c.items = l
  refine ⟨fun {m m'} h => ?_, ?_, fun i hi f hf => ?_⟩
  · have hmarks : marks (updateFirst Item.isFrame Item.discontinuous l) = marks l :=
      filterMap_updateFirst Item.mark (fun i _ => i.mark_discontinuous) l
    unfold Seen
    rwa [hmarks]
  · induction l with
    | nil => intro i hi; cases hi
    | cons a l ih =>
      intro i hi hc
      unfold updateFirst at hi
      split_ifs at hi
      · rcases List.mem_cons.1 hi with rfl | hi
        · rw [Item.discontinuous_of_isClosed hc]
          exact List.mem_cons_self
        · exact List.mem_cons_of_mem _ hi
      · rcases List.mem_cons.1 hi with rfl | hi
        · exact List.mem_cons_self
        · exact List.mem_cons_of_mem _ (ih i hi hc)
  · rcases mem_of_mem_updateFirst hi with hi | ⟨i₀, hi₀, rfl⟩
    · exact frameFrom_of_mem hi hf
    · exact Item.frame_discontinuous hi₀ hf

theorem replaceDropEvent_split {event : MediaDeliveryEvent} {l l' : List Item}
    (h : replaceDropEvent event l = some l') :
    ∃ a i b, l = a ++ i :: b ∧ l' = a ++ { i with body := .deliveryEvent event } :: b ∧
      i.isDropped = true ∧ ∀ j ∈ a, j.isDropped = false := by
  induction l generalizing l' with
  | nil => cases h
  | cons i l ih =>
    unfold replaceDropEvent at h
    split_ifs at h with hs hd
    · cases h
      exact ⟨[], i, l, rfl, rfl, hd, by simp⟩
    · obtain ⟨l₁, hl₁, rfl⟩ := Option.map_eq_some_iff.1 h
      obtain ⟨a, j, b, rfl, rfl, hj, ha⟩ := ih hl₁
      refine ⟨i :: a, j, b, rfl, rfl, hj, fun x hx => ?_⟩
      rcases List.mem_cons.1 hx with rfl | hx
      · exact eq_false_of_ne_true hd
      · exact ha x hx

/-- **`enqueue_drop_event_locked`** puts a drop event in the place of the last one, or ahead of the
    first frame. -/
theorem enqueueDropEvent_split (c : Core) :
    ∃ a old i b, c.items = a ++ old ++ b ∧ c.enqueueDropEvent.items = a ++ i :: b ∧
      i.body = .deliveryEvent
        { kind := .deliveryDropped
          droppedFrames := c.stats.droppedFrames
          droppedBytes := c.stats.droppedBytes } ∧
      ((∃ j, old = [j] ∧ j.isDropped = true ∧ ∀ x ∈ b, x.isDropped = false) ∨
        old = [] ∧ a = c.items.takeWhile (!·.isFrame) ∧ b = c.items.dropWhile (!·.isFrame)) := by
  unfold enqueueDropEvent
  dsimp only
  split
  · next items hr =>
    obtain ⟨a, j, b, hsplit, rfl, hj, ha⟩ := replaceDropEvent_split hr
    refine ⟨b.reverse, [j], { j with body := _ }, a.reverse, ?_, by simp, rfl,
      .inl ⟨j, rfl, hj, by simpa using ha⟩⟩
    rw [← List.reverse_reverse c.items, hsplit]
    simp
  · exact ⟨_, [], _, _, by simp, rfl, rfl, .inr ⟨rfl, rfl, rfl⟩⟩

theorem trims_enqueueDropEvent (c : Core) : Trims c.items c.enqueueDropEvent.items := by
  obtain ⟨a, old, i, b, hitems, hnew, hi, hold⟩ := c.enqueueDropEvent_split
  have hmem (j : Item) (hj : j ∈ a ++ i :: b) : j = i ∨ j ∈ c.items := by
    simp only [hitems, List.mem_append, List.mem_cons] at hj ⊢
    tauto
  rw [hnew]
  refine ⟨fun {m m'} h => ?_, fun j hj hc => ?_, fun j hj f hf => ?_⟩
  · have hnone : marks old = [] := by
      rcases hold with ⟨j, rfl, hj, -⟩ | ⟨rfl, -⟩
      · obtain ⟨e, he⟩ := Item.body_of_isDropped hj
        simp [marks, Item.mark, he, ItemBody.mark]
      · rfl
    rw [hitems] at h
    unfold Seen at h ⊢
    simpa [marks_cons, hnone, Item.mark, hi, ItemBody.mark] using h
  · refine (hmem j hj).resolve_left ?_
    rintro rfl
    simp [Item.isClosed, hi] at hc
  · refine frameFrom_of_mem ((hmem j hj).resolve_left ?_) hf
    rintro rfl
    rw [hi] at hf
    cases hf

/-! ## What publishing does -/

section
variable {thread : ThreadId} {c : Core} {priming : Bool} {event : MediaStreamEvent}
  {completion : Option ℕ} {queued : List Item} {i : Item}

theorem body_ownedItems (thread : ThreadId) (n : ℕ) (bodies : List ItemBody) :
    (ownedItems thread n bodies).map Item.body = bodies := by
  induction bodies using ownedItems.induct with
  | case1 => rfl
  | case2 b => rfl
  | case3 b rest hne ih => rw [ownedItems, List.map_cons, ih]; exact hne

theorem owner_ownedItems {thread : ThreadId} {n : ℕ} {bodies : List ItemBody}
    (h : i ∈ ownedItems thread n bodies) : i.directOwner = some thread := by
  induction bodies using ownedItems.induct with
  | case1 => cases h
  | case2 b =>
    rw [ownedItems, List.mem_singleton] at h
    rw [h]
  | case3 b rest hne ih =>
    rw [ownedItems] at h
    · rcases List.mem_cons.1 h with rfl | h
      · rfl
      · exact ih h
    · exact hne

theorem completion_ownedItems (thread : ThreadId) (n : ℕ) {bodies : List ItemBody}
    (hb : bodies ≠ []) :
    ∃ l i, ownedItems thread n bodies = l ++ [i] ∧ i.directCompletion = some n ∧
      ∀ j ∈ l, j.directCompletion = none := by
  induction bodies using ownedItems.induct with
  | case1 => exact absurd rfl hb
  | case2 b => exact ⟨[], _, rfl, rfl, by simp⟩
  | case3 b rest hne ih =>
    obtain ⟨l, i, hl, hi, hj⟩ := ih hne
    rw [ownedItems]
    · rw [hl]
      refine ⟨_ :: l, i, rfl, hi, fun j hj' => ?_⟩
      rcases List.mem_cons.1 hj' with rfl | hj'
      · rfl
      · exact hj j hj'
    · exact hne

theorem eq_of_completion_ownedItems {thread : ThreadId} {n k : ℕ} {bodies : List ItemBody}
    (hi : i ∈ ownedItems thread n bodies) (hk : i.directCompletion = some k) : k = n := by
  rcases eq_or_ne bodies [] with rfl | hb
  · cases hi
  · obtain ⟨l, j, hl, hj, hnone⟩ := completion_ownedItems thread n hb
    rw [hl, List.mem_append, List.mem_singleton] at hi
    rcases hi with hi | rfl
    · rw [hnone i hi] at hk; cases hk
    · exact Option.some.inj (hk.symm.trans hj)

theorem marks_eq_bodies (l : List Item) : marks l = (l.map Item.body).filterMap ItemBody.mark := by
  rw [List.filterMap_map]
  rfl

/-- The events of a stream event lead from the active streams to the new ones. -/
theorem lifecycle_some {active active' : StreamMap} {events : List MediaStreamEvent}
    (hf : active.Filed) (h : lifecycle active event = some (events, active')) :
    active'.Filed ∧
      Brackets StreamKey.streamId active.openKeys
        ((events.map ItemBody.streamEvent).filterMap ItemBody.mark) active'.openKeys := by
  obtain ⟨kind, d, reason⟩ := event
  unfold lifecycle at h
  dsimp only at h
  cases kind with
  | opened =>
    cases hcur : active[d.key.streamId]? with
    | some current =>
      simp only [hcur] at h
      split_ifs at h with hkey
      cases h
      have hid := hf _ _ hcur
      refine ⟨hf.insert d, ?_⟩
      rw [StreamMap.openKeys_insert]
      refine .closed (k := current.key) ?_ (.opened (k := d.key) ?_ ?_)
      · simp [StreamMap.openKeys, hid, hcur]
      · rw [hid, Function.update_self]
      · rw [hid, Function.update_idem]
        exact .nil _
    | none =>
      simp only [hcur] at h
      cases h
      refine ⟨hf.insert d, ?_⟩
      rw [StreamMap.openKeys_insert]
      exact .one_opened (k := d.key) (by simp [StreamMap.openKeys, hcur])
  | closed =>
    cases hcur : active[d.key.streamId]? with
    | some current =>
      simp only [hcur] at h
      split_ifs at h with hkey
      cases h
      refine ⟨hf.erase _, ?_⟩
      rw [StreamMap.openKeys_erase]
      exact .one_closed (k := d.key) (by simp [StreamMap.openKeys, hcur, hkey])
    | none => simp only [hcur] at h; cases h

theorem lifecycle_ne_nil {active active' : StreamMap} {events : List MediaStreamEvent}
    (h : lifecycle active event = some (events, active')) : events ≠ [] := by
  unfold lifecycle at h
  dsimp only at h
  split at h
  · split_ifs at h; cases h; simp
  · cases h; simp
  · split_ifs at h; cases h; simp
  · cases h

/-- The parts of the state that publishing leaves alone. -/
structure SameFlags (c c' : Core) : Prop where
  options : c'.options = c.options
  deliveredStreams : c'.deliveredStreams = c.deliveredStreams
  accepting : c'.accepting = c.accepting
  activated : c'.activated = c.activated
  delivering : c'.delivering = c.delivering
  terminalEnqueued : c'.terminalEnqueued = c.terminalEnqueued
  terminalDelivered : c'.terminalDelivered = c.terminalDelivered
  deliveryThread : c'.deliveryThread = c.deliveryThread
  worker : c'.worker = c.worker
  workers : c'.workers = c.workers
  completed : c'.completed = c.completed

theorem SameFlags.refl (c : Core) : SameFlags c c := by constructor <;> rfl

theorem SameFlags.trans {c' c'' : Core} (h : SameFlags c c') (h' : SameFlags c' c'') :
    SameFlags c c'' where
  options := h'.options.trans h.options
  deliveredStreams := h'.deliveredStreams.trans h.deliveredStreams
  accepting := h'.accepting.trans h.accepting
  activated := h'.activated.trans h.activated
  delivering := h'.delivering.trans h.delivering
  terminalEnqueued := h'.terminalEnqueued.trans h.terminalEnqueued
  terminalDelivered := h'.terminalDelivered.trans h.terminalDelivered
  deliveryThread := h'.deliveryThread.trans h.deliveryThread
  worker := h'.worker.trans h.worker
  workers := h'.workers.trans h.workers
  completed := h'.completed.trans h.completed

/-- Only the queue changes, with its counters. -/
def Requeues (c c' : Core) : Prop :=
  ∃ items queuedFrames queuedBytes stats, c' = { c with
    items := items
    queuedFrames := queuedFrames
    queuedBytes := queuedBytes
    stats := stats }

theorem Requeues.trans {c' c'' : Core} (h : Requeues c c') (h' : Requeues c' c'') :
    Requeues c c'' := by
  obtain ⟨_, _, _, _, rfl⟩ := h
  obtain ⟨_, _, _, _, rfl⟩ := h'
  exact ⟨_, _, _, _, rfl⟩

theorem requeues_dropFrames (n : ℕ) (c : Core) : Requeues c (c.dropFrames n).1 := by
  induction n generalizing c with
  | zero => exact ⟨_, _, _, _, rfl⟩
  | succ n ih =>
    unfold dropFrames
    split_ifs
    · refine Requeues.trans ?_ (ih c.dropOldestFrame)
      unfold dropOldestFrame
      split <;> exact ⟨_, _, _, _, rfl⟩
    · exact ⟨_, _, _, _, rfl⟩

/-- How the items of a publishing section are owned. -/
inductive Pushed (c : Core) (thread : ThreadId) (priming : Bool) (bodies : List ItemBody) :
    (completions : ℕ) → (completion : Option ℕ) → (queued : List Item) → Prop
  | owned (hd : c.isDirect = true) (hp : priming = false) (ht : c.deliversBy thread = false) :
      Pushed c thread priming bodies (c.completions + 1) (some c.completions)
        (ownedItems thread c.completions bodies)
  | free (h : c.isDirect = false ∨ priming = true ∨ c.deliversBy thread = true) :
      Pushed c thread priming bodies c.completions none (bodies.map fun b => { body := b })

theorem push_spec (c : Core) (thread : ThreadId) (priming : Bool) (bodies : List ItemBody) :
    let p := c.push thread priming bodies
    SameFlags c p.core ∧ p.core.activeStreams = c.activeStreams ∧
      p.core.items = c.items ++ p.queued ∧
      Pushed c thread priming bodies p.core.completions p.completion p.queued := by
  unfold push
  dsimp only
  split_ifs with h
  · simp only [Bool.and_eq_true, Bool.not_eq_true'] at h
    exact ⟨by constructor <;> rfl, rfl, rfl, .owned h.1.2 h.1.1 h.2⟩
  · refine ⟨by constructor <;> rfl, rfl, rfl, .free ?_⟩
    cases hd : c.isDirect <;> cases ht : c.deliversBy thread <;> cases priming <;> simp_all

theorem Pushed.bodies {thread : ThreadId} {bodies : List ItemBody} {n : ℕ}
    (h : Pushed c thread priming bodies n completion queued) : queued.map Item.body = bodies := by
  cases h with
  | owned => exact body_ownedItems ..
  | free => rw [List.map_map]; exact List.map_id _

theorem Pushed.fresh {thread : ThreadId} {bodies : List ItemBody} {n : ℕ}
    (h : Pushed c thread priming bodies n completion queued) :
    c.completions ≤ n ∧
      ∀ i ∈ queued, ∀ k, i.directCompletion = some k → k = c.completions ∧ k < n := by
  cases h with
  | owned =>
    refine ⟨Nat.le_succ _, fun i hi k hk => ?_⟩
    obtain rfl := eq_of_completion_ownedItems hi hk
    exact ⟨rfl, Nat.lt_succ_self _⟩
  | free =>
    refine ⟨Nat.le_refl _, fun i hi k hk => ?_⟩
    obtain ⟨b, -, rfl⟩ := List.mem_map.1 hi
    cases hk

theorem Pushed.congr {c' : Core} {thread : ThreadId} {bodies : List ItemBody} {n : ℕ}
    (h : Pushed c' thread priming bodies n completion queued) (hd : c'.isDirect = c.isDirect)
    (ht : c'.deliversBy thread = c.deliversBy thread) (hn : c'.completions = c.completions) :
    Pushed c thread priming bodies n completion queued := by
  cases h with
  | owned hd' hp ht' => rw [hn]; exact .owned (hd ▸ hd') hp (ht ▸ ht')
  | free h => rw [hn]; exact .free (by rwa [hd, ht] at h)

/-- **What a publishing section does.** -/
structure Publishes (c : Core) (thread : ThreadId) (priming : Bool) (p : Published) : Prop where
  same : SameFlags c p.core
  refused : c.accepting = false → p = { core := c }
  closed : ∀ i ∈ p.core.items, i.isClosed = true → i ∈ c.items
  filed : c.activeStreams.Filed → p.core.activeStreams.Filed
  seen : c.activeStreams.Filed → ∀ {m}, Seen m c.items c.activeStreams.openKeys →
    Seen m p.core.items p.core.activeStreams.openKeys
  direct : c.isDirect = true → p.core.items = c.items ++ p.queued
  pushed : p = { core := c } ∨
    ∃ bodies ≠ [], Pushed c thread priming bodies p.core.completions p.completion p.queued
  frames : ∀ i ∈ p.core.items, ∀ f, i.body = .frame f → FrameFrom (c.items ++ p.queued) f

theorem Publishes.refuse (c : Core) (thread : ThreadId) (priming : Bool) :
    Publishes c thread priming { core := c } where
  same := .refl c
  refused _ := rfl
  closed _ h _ := h
  filed := id
  seen _ _ h := h
  direct _ := (List.append_nil _).symm
  pushed := .inl rfl
  frames _ h _ hf := frameFrom_of_mem (List.mem_append_left _ h) hf

theorem Publishes.fresh {thread : ThreadId} {p : Published} (h : Publishes c thread priming p) :
    c.completions ≤ p.core.completions ∧ ∀ i ∈ p.queued, ∀ k, i.directCompletion = some k →
      k = c.completions ∧ k < p.core.completions := by
  rcases h.pushed with hp | ⟨bodies, -, hpush⟩
  · rw [hp]
    exact ⟨Nat.le_refl _, by simp⟩
  · exact hpush.fresh

/-- The items of `prepare_terminal_locked` belong to nobody, or to the caller. -/
theorem prepareTerminal_spec (c : Core) (thread : ThreadId) (closeStreams : Bool) :
    let p := c.prepareTerminal thread closeStreams
    (p.completion = none ∧ p.core.completions = c.completions ∧
      p.queued = (c.terminalBodies closeStreams).map fun b => { body := b }) ∨
    (p.completion = some c.completions ∧ p.core.completions = c.completions + 1 ∧
      p.queued = ownedItems thread c.completions (c.terminalBodies closeStreams)) := by
  unfold prepareTerminal
  dsimp only
  split_ifs
  · exact .inr ⟨rfl, rfl, rfl⟩
  · exact .inl ⟨rfl, rfl, rfl⟩

theorem prepareTerminal_fresh (c : Core) (thread : ThreadId) (closeStreams : Bool) :
    let p := c.prepareTerminal thread closeStreams
    c.completions ≤ p.core.completions ∧ ∀ i ∈ p.queued, ∀ k, i.directCompletion = some k →
      k = c.completions ∧ k < p.core.completions := by
  rcases c.prepareTerminal_spec thread closeStreams with ⟨-, hn, hq⟩ | ⟨-, hn, hq⟩
  · dsimp only
    rw [hn, hq]
    refine ⟨Nat.le_refl _, fun i hi k hk => ?_⟩
    obtain ⟨b, -, rfl⟩ := List.mem_map.1 hi
    cases hk
  · dsimp only
    rw [hn, hq]
    refine ⟨Nat.le_succ _, fun i hi k hk => ?_⟩
    obtain rfl := eq_of_completion_ownedItems hi hk
    exact ⟨rfl, Nat.lt_succ_self _⟩

theorem not_isClosed_of_body {l : List Item} (h : ∀ b ∈ l.map Item.body, ∀ e, b ≠ .deliveryEvent e)
    (hi : i ∈ l) : i.isClosed = false := by
  unfold Item.isClosed
  split
  · next e he => exact absurd he (h _ (List.mem_map_of_mem hi) e)
  · rfl

theorem publishStreamEvent_spec (c : Core) (thread : ThreadId) (priming : Bool)
    (event : MediaStreamEvent) :
    Publishes c thread priming (c.publishStreamEvent thread priming event) := by
  unfold publishStreamEvent
  split_ifs with hacc
  · exact .refuse c thread priming
  cases hl : lifecycle c.activeStreams event with
  | none => exact .refuse c thread priming
  | some r =>
    obtain ⟨events, active⟩ := r
    dsimp only
    generalize hc₁ : ({ c with activeStreams := active } : Core) = c₁
    obtain ⟨hsame, hactive, hitems, hpushed⟩ :=
      c₁.push_spec thread priming (events.map .streamEvent)
    generalize hp : c₁.push thread priming (events.map .streamEvent) = p at *
    subst hc₁
    have hbodies := hpushed.bodies
    refine ⟨⟨hsame.1, hsame.2, hsame.3, hsame.4, hsame.5, hsame.6, hsame.7, hsame.8, hsame.9,
      hsame.10, hsame.11⟩, fun h => absurd (.inl (by simp [h])) hacc, fun i hi hic => ?_,
      fun hf => ?_, fun hf {m} h => ?_, fun _ => hitems, .inr ⟨events.map .streamEvent, ?_, ?_⟩,
      fun i hi f hf => frameFrom_of_mem (hitems ▸ hi) hf⟩
    · rw [hitems] at hi
      refine (List.mem_append.1 hi).resolve_right fun hi => ?_
      rw [not_isClosed_of_body (by rw [hbodies]; simp) hi] at hic
      cases hic
    · rw [hactive]
      exact (lifecycle_some hf hl).1
    · rw [hactive, hitems]
      unfold Seen
      rw [marks_append, marks_eq_bodies p.queued, hbodies]
      exact h.append (lifecycle_some hf hl).2
    · simpa using lifecycle_ne_nil hl
    · exact hpushed.congr rfl rfl rfl

theorem limitQueue_spec (c : Core) :
    Requeues c c.limitQueue ∧ Trims c.items c.limitQueue.items ∧
      (c.isDirect = true → c.limitQueue = c) := by
  unfold limitQueue
  split_ifs with hd
  · exact ⟨⟨_, _, _, _, rfl⟩, .refl _, fun _ => rfl⟩
  have hdrop := requeues_dropFrames c.queuedFrames c
  have htrims := trims_dropFrames c.queuedFrames c
  generalize c.dropFrames c.queuedFrames = dropped at *
  dsimp only
  split_ifs with hdropped
  · have hevent (c : Core) : Requeues c c.enqueueDropEvent := by
      unfold enqueueDropEvent
      dsimp only
      split <;> exact ⟨_, _, _, _, rfl⟩
    exact ⟨(hdrop.trans ⟨_, _, _, _, rfl⟩).trans (hevent dropped.1.markNextFrameDiscontinuous),
      (htrims.trans dropped.1.trims_markNextFrameDiscontinuous).trans (trims_enqueueDropEvent _),
      fun h => absurd h hd⟩
  · exact ⟨hdrop, htrims, fun h => absurd h hd⟩

theorem publishFrame_spec (c : Core) (thread : ThreadId) (frame : MediaFrame) :
    Publishes c thread false (c.publishFrame thread frame) := by
  unfold publishFrame
  split_ifs with hacc
  · exact .refuse c thread false
  simp only [not_or, ne_eq, not_not] at hacc
  obtain ⟨hsame, hactive, hitems, hpushed⟩ :=
    (c.countFrame frame).push_spec thread false [.frame frame]
  generalize (c.countFrame frame).push thread false [.frame frame] = p at *
  obtain ⟨⟨items, queuedFrames, queuedBytes, stats, hlimit⟩, htrims, hdirect⟩ :=
    p.core.limitQueue_spec
  have hbodies := hpushed.bodies
  have hcount : SameFlags c (c.countFrame frame) := by constructor <;> rfl
  have hlimited : SameFlags p.core p.core.limitQueue.refreshStats := by
    rw [hlimit]
    constructor <;> rfl
  have hactive' : p.core.limitQueue.activeStreams = p.core.activeStreams := by rw [hlimit]
  have hn' : p.core.limitQueue.completions = p.core.completions := by rw [hlimit]
  refine ⟨(hcount.trans hsame).trans hlimited, fun h => by simp [h] at hacc, fun i hi hic => ?_,
    fun hf => ?_, fun hf {m} h => ?_, fun hd => ?_, .inr ⟨[.frame frame], by simp, ?_⟩,
    fun i hi f hf => ?_⟩
  · have hi' := htrims.closed i hi hic
    rw [hitems] at hi'
    refine (List.mem_append.1 hi').resolve_right fun hi => ?_
    rw [not_isClosed_of_body (by rw [hbodies]; simp) hi] at hic
    cases hic
  · show p.core.limitQueue.activeStreams.Filed
    rw [hactive', hactive]
    exact hf
  · show Seen m p.core.limitQueue.items p.core.limitQueue.activeStreams.openKeys
    refine htrims.seen ?_
    rw [hactive', hactive, hitems]
    unfold Seen
    rw [marks_append, marks_eq_bodies p.queued, hbodies]
    exact h.append (.one_used (k := frame.key) hacc.2.2)
  · show p.core.limitQueue.items = _
    rw [hdirect (by unfold isDirect; rw [hsame.options]; exact hd), hitems]
    rfl
  · show Pushed c thread false [.frame frame] p.core.limitQueue.completions _ _
    rw [hn']
    exact hpushed.congr rfl rfl rfl
  · have hfrom := htrims.frames i hi f hf
    rw [hitems] at hfrom
    exact hfrom

theorem queued_publishStreamEvent {thread : ThreadId}
    (hi : i ∈ (c.publishStreamEvent thread priming event).queued) (f : MediaFrame) :
    i.body ≠ .frame f := by
  unfold publishStreamEvent at hi
  split_ifs at hi
  · cases hi
  cases hl : lifecycle c.activeStreams event with
  | none => rw [hl] at hi; cases hi
  | some r =>
    obtain ⟨events, active⟩ := r
    rw [hl] at hi
    have hbodies := ({ c with activeStreams := active }.push_spec thread priming
      (events.map .streamEvent)).2.2.2.bodies
    have hmem := List.mem_map_of_mem (f := Item.body) hi
    rw [hbodies] at hmem
    obtain ⟨e, -, he⟩ := List.mem_map.1 hmem
    rw [← he]
    rintro ⟨⟩

theorem queued_publishFrame {thread : ThreadId} {frame : MediaFrame}
    (hi : i ∈ (c.publishFrame thread frame).queued) : i.body = .frame frame := by
  unfold publishFrame at hi
  split_ifs at hi
  · cases hi
  have hbodies := ((c.countFrame frame).push_spec thread false [.frame frame]).2.2.2.bodies
  have hmem := List.mem_map_of_mem (f := Item.body) hi
  rw [hbodies] at hmem
  exact List.mem_singleton.1 hmem

end

/-! ## What delivering does -/

/-- **How a round of `drain_direct_queue` ends.** -/
inductive Drains (c : Core) (thread : ThreadId) (target : Option ℕ) (owns : Bool) : Drained → Prop
  | delivered (h : c.terminalDelivered = true) :
      Drains c thread target owns (.leave (c.releaseDelivery owns))
  | done {n : ℕ} (ht : target = some n) (hn : c.completed n = true)
      (he : owns = true → c.frontEligible thread = false) :
      Drains c thread target owns (.leave (c.releaseDelivery owns))
  | inactive (ha : c.activated = false) (ht : c.retarget target = none) :
      Drains c thread target owns (.leave c)
  | inactiveWait (ha : c.activated = false) :
      Drains c thread target owns (.wait c (c.retarget target) owns)
  | busy (hd : c.delivering = true) (ht : c.deliversBy thread = false) :
      Drains c thread target owns (.wait c (c.retarget target) owns)
  | nested (ht : c.deliversBy thread = true) (ho : owns = false) :
      Drains c thread target owns (.leave c)
  | stuck (h : c.terminalDelivered = false) (ha : c.activated = true)
      (he : c.frontEligible thread = false) (ht : target = none)
      (hd : c.delivering = true → c.deliversBy thread = true) :
      Drains c thread target owns (.leave (c.releaseDelivery owns))
  | stuckWait {n : ℕ} (he : c.frontEligible thread = false) (ht : target = some n)
      (hn : c.completed n = false) (hd : c.delivering = true → c.deliversBy thread = true) :
      Drains c thread target owns (.wait (c.releaseDelivery owns) target false)
  | take {item : Item} {rest : List Item} (h : c.terminalDelivered = false)
      (ha : c.activated = true) (hi : c.items = item :: rest)
      (he : item.directOwner = none ∨ item.directOwner = some thread)
      (hd : c.delivering = true → c.deliversBy thread = true ∧ owns = true) :
      Drains c thread target owns (.take (c.takeFront thread item rest) (c.retarget target) item)

theorem drain_spec (c : Core) (thread : ThreadId) (target : Option ℕ) (owns : Bool) :
    Drains c thread target owns (c.drain thread target owns) := by
  unfold drain
  dsimp only
  split_ifs with hdel hdone hact hnone hbusy hnest
  · exact .delivered hdel
  · simp only [Bool.and_eq_true, Bool.not_eq_true', Bool.and_eq_false_iff] at hdone
    obtain ⟨n, hn⟩ : ∃ n, target = some n := by
      cases target with
      | none => exact absurd hdone.1 (by simp)
      | some n => exact ⟨n, rfl⟩
    subst hn
    refine .done rfl hdone.1 fun ho => hdone.2.resolve_left (by simp [ho])
  · exact .inactive (by simpa using hact) (by simpa using hnone)
  · exact .inactiveWait (by simpa using hact)
  · simp only [Bool.and_eq_true, Bool.not_eq_true'] at hbusy
    exact .busy hbusy.1 hbusy.2
  · simp only [Bool.and_eq_true, Bool.not_eq_true'] at hnest
    exact .nested hnest.1 hnest.2
  · have hfree : c.delivering = true → c.deliversBy thread = true := by
      intro hd
      simpa [hd] using hbusy
    -- a target that is completed lets the thread go on only if the front is eligible
    have hkeep : c.frontEligible thread = false → ¬ target.any c.completed = true := by
      intro he hany
      exact hdone (by simp [hany, he])
    have hstuck (he : c.frontEligible thread = false) :
        Drains c thread target owns (c.stopDraining (c.retarget target) owns) := by
      rw [retarget, if_neg (hkeep he)]
      cases target with
      | none =>
        exact .stuck (by simpa using hdel) (by simpa using hact) he rfl hfree
      | some n => exact .stuckWait he rfl (by simpa using hkeep he) hfree
    cases hitems : c.items with
    | nil => exact hstuck (by unfold frontEligible; rw [hitems])
    | cons item rest =>
      cases he : c.frontEligible thread with
      | true =>
        refine .take (by simpa using hdel) (by simpa using hact) hitems ?_ fun hd => ⟨hfree hd, ?_⟩
        · unfold frontEligible at he
          rw [hitems] at he
          simpa using he
        · simpa [hfree hd] using hnest
      | false => exact hstuck he

/-- How the section after a callback ends, for the state after
    `finish_item_locked`. -/
inductive FinishesDirect (c : Core) (thread : ThreadId) (target : Option ℕ) (owns : Bool) :
    Core × Option (Option ℕ) → Prop
  | delivered (h : c.terminalDelivered = true) :
      FinishesDirect c thread target owns (c.releaseDelivery owns, none)
  | done {n : ℕ} (ht : target = some n) (hn : c.completed n = true)
      (he : owns = true → c.frontEligible thread = false) :
      FinishesDirect c thread target owns (c.releaseDelivery owns, none)
  | next (h : c.terminalDelivered = false) (ho : target.any c.completed = true → owns = true) :
      FinishesDirect c thread target owns (c, some (c.retarget target))

theorem finishDirect_spec (c : Core) (thread : ThreadId) (target : Option ℕ) (owns : Bool)
    (item : Item) :
    FinishesDirect (c.finishItem item) thread target owns
      (c.finishDirect thread target owns item) := by
  unfold finishDirect
  dsimp only
  generalize c.finishItem item = c'
  split_ifs with hdel hdone hnext
  · exact .delivered hdel
  · simp only [Bool.and_eq_true] at hnext
    have hfin : FinishesDirect c' thread target owns (c', some (c'.retarget target)) :=
      .next (by simpa using hdel) fun _ => hnext.1
    rwa [retarget, if_pos hdone] at hfin
  · obtain ⟨n, hn⟩ : ∃ n, target = some n := by
      cases target with
      | none => exact absurd hdone (by simp)
      | some n => exact ⟨n, rfl⟩
    subst hn
    exact .done rfl hdone fun ho => by simpa [ho] using hnext
  · have hfin : FinishesDirect c' thread target owns (c', some (c'.retarget target)) :=
      .next (by simpa using hdel) fun h => absurd h hdone
    rwa [retarget, if_neg hdone] at hfin

/-- How the section of `run` before a callback ends. -/
theorem run_spec {c : Core} {thread : ThreadId} {r : Option (Core × Item)}
    (h : c.run thread = some r) :
    (r = none ∧ c.terminalDelivered = true) ∨
      ∃ item rest, r = some (c.takeFront thread item rest, item) ∧ c.terminalDelivered = false ∧
        c.activated = true ∧ c.items = item :: rest := by
  unfold run at h
  split_ifs at h with hdel
  · exact .inl ⟨(Option.some.inj h).symm, hdel⟩
  · split at h
    · next item rest ha hi =>
      exact .inr ⟨item, rest, (Option.some.inj h).symm, by simpa using hdel, ha, hi⟩
    · cases h

section
variable (c : Core) (thread : ThreadId) (item : Item) (rest : List Item)

theorem takeFront_same :
    SameFlags { c with
      delivering := true
      deliveryThread := some thread
      deliveredStreams := updateDelivered c.deliveredStreams item }
      (c.takeFront thread item rest) := by
  unfold takeFront pop
  dsimp only
  split_ifs <;> constructor <;> rfl

@[simp] theorem takeFront_items : (c.takeFront thread item rest).items = rest := by
  unfold takeFront pop
  dsimp only
  split_ifs <;> rfl

@[simp] theorem takeFront_activeStreams :
    (c.takeFront thread item rest).activeStreams = c.activeStreams := by
  unfold takeFront pop
  dsimp only
  split_ifs <;> rfl

@[simp] theorem takeFront_completions :
    (c.takeFront thread item rest).completions = c.completions := by
  unfold takeFront pop
  dsimp only
  split_ifs <;> rfl

/-- The thread that takes an item is the only one that delivers. -/
@[simp] theorem deliversBy_takeFront (thread' : ThreadId) :
    (c.takeFront thread item rest).deliversBy thread' = decide (thread' = thread) := by
  have h := c.takeFront_same thread item rest
  unfold deliversBy
  rw [h.delivering, h.deliveryThread]
  simp [eq_comm]

theorem SameFlags.deliversBy {c c' : Core} (h : SameFlags c c') (thread : ThreadId) :
    c'.deliversBy thread = c.deliversBy thread := by
  unfold Core.deliversBy
  rw [h.delivering, h.deliveryThread]

theorem SameFlags.isDirect {c c' : Core} (h : SameFlags c c') : c'.isDirect = c.isDirect := by
  unfold Core.isDirect
  rw [h.options]

end

end Core

end Axent.MediaStream
