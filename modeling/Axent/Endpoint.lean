/-
  The control endpoint (`AxtpControlEndpoint` of
  `src/control/axtp_control_endpoint.cpp`): its runs, and the queues of tasks and
  events.

  A run begins when `start` sets `running` and ends when `stop` has joined the
  worker and cleared both queues.  `post` and `publish_event` look at `running`
  before they lock their queue and once more under its lock; `stop` resets
  `running` under another lock.  `EndpointStep` interleaves these steps with
  those of the worker, which takes a whole queue at a time.

  `queues_respect_runs`: tasks and events are handled in the order in which they
  were accepted, each at most once, and by the worker of the run that accepted
  them; a `stop` that succeeds leaves nothing behind.  One that returns
  `invalid_state` may (`refused_stop_leaves_task`).  A thread for the worker can
  always be created.
-/
import Mathlib.Logic.Function.Basic
import Axent.Lib.Batches

namespace Axent.ControlEndpoint

open Lib

/-! ## The endpoint -/

/-- An item that was accepted, with the run that accepted it and its number.
    Neither is part of the source. -/
structure Entry (τ : Type) where
  run : ℕ
  number : ℕ
  item : τ
  deriving DecidableEq, Repr

/-- `PendingEvent`: the route that was resolved, and the data. -/
structure PendingEvent where
  protocolId : ℕ
  name : String
  data : String
  deriving DecidableEq, Repr

/-- Where the lifecycle is.  `start` keeps `lifecycle_mutex` from `starting` to
    `launched`, and the last section of `stop` from `finishing` on. -/
inductive Lifecycle where
  | stopped
  | starting
  | flagged
  | launched
  | running
  | stopping (caller : ℕ)
  | joined (caller : ℕ)
  | finishing (caller : ℕ)
  | eventsCleared (caller : ℕ)
  | tasksCleared (caller : ℕ)
  deriving DecidableEq, Repr

/-- Where the worker is in `run`.  In `tasks` and `events` it is about to look at
    `running` for the next item of its batch. -/
inductive Worker where
  | absent
  | top
  | polling
  | polled
  | draining
  | tasks
  | task
  | executing
  | tasksDone
  | gathering
  | events
  | event
  | ended
  deriving DecidableEq, Repr

/-- Where a caller is: past the first look at `running`, or waiting for another
    call of `stop`. -/
inductive Call (τ : Type) where
  | idle
  | posting (task : τ)
  | publishing (event : PendingEvent)
  | stopping
  | waiting
  deriving DecidableEq, Repr

/-- `taskHolder` and `eventHolder` are the callers that have locked the queue and
    found `running` set.  `run` counts the runs, `accepted` the items. -/
structure Endpoint (τ : Type) where
  lifecycle : Lifecycle := .stopped
  running : Bool := false
  run : ℕ := 0
  accepted : ℕ := 0
  worker : Worker := .absent
  workerRun : ℕ := 0
  tasks : Batches (Entry τ) := {}
  taskHolder : Option (ℕ × τ) := none
  events : Batches (Entry PendingEvent) := {}
  eventHolder : Option (ℕ × PendingEvent) := none
  eventIds : Std.TreeMap ℕ String compare := ∅
  eventNames : Std.TreeMap String ℕ compare := ∅
  calls : ℕ → Call τ := fun _ => .idle

variable {τ : Type}

namespace Endpoint

def setCall (s : Endpoint τ) (n : ℕ) (call : Call τ) : Endpoint τ :=
  { s with calls := Function.update s.calls n call }

/-- The check of `publish_event` against the routes that were used before. -/
def conflicts (s : Endpoint τ) (e : PendingEvent) : Bool :=
  s.eventIds[e.protocolId]?.any (· ≠ e.name) || s.eventNames[e.name]?.any (· ≠ e.protocolId)

end Endpoint

inductive EndpointEvent (τ : Type) where
  | taskAccepted (entry : Entry τ)
  | eventAccepted (entry : Entry PendingEvent)
  | executed (run : ℕ) (entry : Entry τ)
  | sent (run : ℕ) (entry : Entry PendingEvent)
  /-- `stop` returned success -/
  | stopReturned (caller : ℕ)
  /-- `stop` returned `invalid_state`; it was called on the worker if there is no caller -/
  | stopRefused (caller : Option ℕ)
  | internal

inductive EndpointStep : Endpoint τ → EndpointEvent τ → Endpoint τ → Prop
  -- `start`
  | start {s : Endpoint τ} (h : s.lifecycle = .stopped) :
      EndpointStep s .internal { s with lifecycle := .starting }
  | startFails {s : Endpoint τ} (h : s.lifecycle = .starting) :
      EndpointStep s .internal { s with lifecycle := .stopped }
  | flag {s : Endpoint τ} (h : s.lifecycle = .starting) :
      EndpointStep s .internal { s with lifecycle := .flagged, running := true, run := s.run + 1 }
  | launch {s : Endpoint τ} (h : s.lifecycle = .flagged) :
      EndpointStep s .internal
        { s with lifecycle := .launched, worker := .top, workerRun := s.run }
  | started {s : Endpoint τ} (h : s.lifecycle = .launched) :
      EndpointStep s .internal { s with lifecycle := .running }
  -- `stop`, by the caller that ends the run
  | stop {s : Endpoint τ} {n : ℕ} (h : s.lifecycle = .running) (hn : s.calls n = .idle) :
      EndpointStep s .internal
        { s.setCall n .stopping with lifecycle := .stopping n, running := false }
  | join {s : Endpoint τ} {n : ℕ} (h : s.lifecycle = .stopping n) (hw : s.worker = .ended) :
      EndpointStep s .internal { s with lifecycle := .joined n, worker := .absent }
  | finish {s : Endpoint τ} {n : ℕ} (h : s.lifecycle = .joined n) :
      EndpointStep s .internal { s with lifecycle := .finishing n }
  | clearEvents {s : Endpoint τ} {n : ℕ} (h : s.lifecycle = .finishing n)
      (hl : s.eventHolder = none) :
      EndpointStep s .internal
        { s with lifecycle := .eventsCleared n, events := { s.events with pending := [] } }
  | clearTasks {s : Endpoint τ} {n : ℕ} (h : s.lifecycle = .eventsCleared n)
      (hl : s.taskHolder = none) :
      EndpointStep s .internal
        { s with lifecycle := .tasksCleared n, tasks := { s.tasks with pending := [] } }
  | stopped {s : Endpoint τ} {n : ℕ} (h : s.lifecycle = .tasksCleared n) :
      EndpointStep s (.stopReturned n) { s.setCall n .idle with lifecycle := .stopped }
  -- `stop`, by the other callers
  | stopWhenStopped {s : Endpoint τ} {n : ℕ} (h : s.lifecycle = .stopped)
      (hn : s.calls n = .idle) : EndpointStep s (.stopReturned n) s
  | stopWait {s : Endpoint τ} {n m : ℕ} (h : s.lifecycle = .stopping m ∨ s.lifecycle = .joined m)
      (hn : s.calls n = .idle) : EndpointStep s .internal (s.setCall n .waiting)
  | stopWake {s : Endpoint τ} {n : ℕ} (h : s.lifecycle = .stopped) (hn : s.calls n = .waiting) :
      EndpointStep s (.stopReturned n) (s.setCall n .idle)
  | stopInvalid {s : Endpoint τ} {n : ℕ} (h : s.lifecycle = .running)
      (hn : s.calls n = .waiting) : EndpointStep s (.stopRefused (some n)) (s.setCall n .idle)
  -- a task or the handler of a request calls `stop`
  | stopOnWorker {s : Endpoint τ} (h : s.worker = .executing ∨ s.worker = .polling) :
      EndpointStep s (.stopRefused none) s
  -- `post`
  | post {s : Endpoint τ} {n : ℕ} (task : τ) (hn : s.calls n = .idle) (hr : s.running = true) :
      EndpointStep s .internal (s.setCall n (.posting task))
  | postLock {s : Endpoint τ} {n : ℕ} {task : τ} (hn : s.calls n = .posting task)
      (hl : s.taskHolder = none) (hr : s.running = true) :
      EndpointStep s .internal { s with taskHolder := some (n, task) }
  | postLate {s : Endpoint τ} {n : ℕ} {task : τ} (hn : s.calls n = .posting task)
      (hl : s.taskHolder = none) (hr : s.running = false) :
      EndpointStep s .internal (s.setCall n .idle)
  | postPush {s : Endpoint τ} {n : ℕ} {task : τ} (hl : s.taskHolder = some (n, task)) :
      EndpointStep s (.taskAccepted ⟨s.run, s.accepted, task⟩)
        { s.setCall n .idle with
          taskHolder := none
          accepted := s.accepted + 1
          tasks := { s.tasks with pending := s.tasks.pending ++ [⟨s.run, s.accepted, task⟩] } }
  -- `publish_event`
  | publish {s : Endpoint τ} {n : ℕ} (event : PendingEvent) (hn : s.calls n = .idle)
      (hr : s.running = true) : EndpointStep s .internal (s.setCall n (.publishing event))
  | publishLock {s : Endpoint τ} {n : ℕ} {event : PendingEvent}
      (hn : s.calls n = .publishing event) (hl : s.eventHolder = none) (hr : s.running = true) :
      EndpointStep s .internal { s with eventHolder := some (n, event) }
  | publishLate {s : Endpoint τ} {n : ℕ} {event : PendingEvent}
      (hn : s.calls n = .publishing event) (hl : s.eventHolder = none) (hr : s.running = false) :
      EndpointStep s .internal (s.setCall n .idle)
  | publishInvalid {s : Endpoint τ} {n : ℕ} {event : PendingEvent}
      (hl : s.eventHolder = some (n, event)) (hc : s.conflicts event = true) :
      EndpointStep s .internal { s.setCall n .idle with eventHolder := none }
  | publishPush {s : Endpoint τ} {n : ℕ} {event : PendingEvent}
      (hl : s.eventHolder = some (n, event)) (hc : s.conflicts event = false) :
      EndpointStep s (.eventAccepted ⟨s.run, s.accepted, event⟩)
        { s.setCall n .idle with
          eventHolder := none
          accepted := s.accepted + 1
          events := { s.events with pending := s.events.pending ++ [⟨s.run, s.accepted, event⟩] }
          eventIds := s.eventIds.insertIfNew event.protocolId event.name
          eventNames := s.eventNames.insertIfNew event.name event.protocolId }
  -- the worker; `poll` and `progress` may throw, and so may `sendEvent`
  | loop {s : Endpoint τ} (h : s.worker = .top) (hr : s.running = true) :
      EndpointStep s .internal { s with worker := .polling }
  | poll {s : Endpoint τ} (h : s.worker = .polling) :
      EndpointStep s .internal { s with worker := .polled }
  | pollThrows {s : Endpoint τ} (h : s.worker = .polling) :
      EndpointStep s .internal { s with worker := .top }
  | drain {s : Endpoint τ} (h : s.worker = .polled) (hr : s.running = true) :
      EndpointStep s .internal { s with worker := .draining }
  | swapTasks {s : Endpoint τ} (h : s.worker = .draining) (hl : s.taskHolder = none) :
      EndpointStep s .internal
        { s with worker := .tasks, tasks := { pending := [], batch := s.tasks.pending } }
  | nextTask {s : Endpoint τ} (h : s.worker = .tasks) (hb : s.tasks.batch ≠ [])
      (hr : s.running = true) : EndpointStep s .internal { s with worker := .task }
  | execute {s : Endpoint τ} {entry : Entry τ} {rest : List (Entry τ)} (h : s.worker = .task)
      (hb : s.tasks.batch = entry :: rest) :
      EndpointStep s (.executed s.workerRun entry)
        { s with worker := .executing, tasks := { s.tasks with batch := rest } }
  | executed {s : Endpoint τ} (h : s.worker = .executing) :
      EndpointStep s .internal { s with worker := .tasks }
  | dropTasks {s : Endpoint τ} (h : s.worker = .tasks)
      (hb : s.tasks.batch = [] ∨ s.running = false) :
      EndpointStep s .internal
        { s with worker := .tasksDone, tasks := { s.tasks with batch := [] } }
  | gather {s : Endpoint τ} (h : s.worker = .tasksDone) (hr : s.running = true) :
      EndpointStep s .internal { s with worker := .gathering }
  | swapEvents {s : Endpoint τ} (h : s.worker = .gathering) (hl : s.eventHolder = none) :
      EndpointStep s .internal
        { s with worker := .events, events := { pending := [], batch := s.events.pending } }
  | nextEvent {s : Endpoint τ} (h : s.worker = .events) (hb : s.events.batch ≠ [])
      (hr : s.running = true) : EndpointStep s .internal { s with worker := .event }
  | send {s : Endpoint τ} {entry : Entry PendingEvent} {rest : List (Entry PendingEvent)}
      (h : s.worker = .event) (hb : s.events.batch = entry :: rest) :
      EndpointStep s (.sent s.workerRun entry)
        { s with worker := .events, events := { s.events with batch := rest } }
  | sendThrows {s : Endpoint τ} (h : s.worker = .event ∨ s.worker = .events) :
      EndpointStep s .internal { s with worker := .top, events := { s.events with batch := [] } }
  | dropEvents {s : Endpoint τ} (h : s.worker = .events)
      (hb : s.events.batch = [] ∨ s.running = false) :
      EndpointStep s .internal { s with worker := .top, events := { s.events with batch := [] } }
  | leave {s : Endpoint τ} (h : s.worker = .top ∨ s.worker = .polled ∨ s.worker = .tasksDone)
      (hr : s.running = false) : EndpointStep s .internal { s with worker := .ended }

/-! ## What a state looks like -/

/-- `running` is set. -/
def Lifecycle.up : Lifecycle → Bool
  | flagged | launched | running => true
  | _ => false

/-- There is a worker. -/
def Lifecycle.manned : Lifecycle → Bool
  | launched | running | stopping _ => true
  | _ => false

/-- The tasks are cleared, and no run has begun since. -/
def Lifecycle.tasksGone : Lifecycle → Bool
  | tasksCleared _ | stopped | starting => true
  | _ => false

/-- The events are cleared, and no run has begun since. -/
def Lifecycle.eventsGone : Lifecycle → Bool
  | eventsCleared _ | tasksCleared _ | stopped | starting => true
  | _ => false

/-- The worker has a batch of tasks. -/
def Worker.inTasks : Worker → Bool
  | tasks | task | executing => true
  | _ => false

/-- The worker has a batch of events. -/
def Worker.inEvents : Worker → Bool
  | events | event => true
  | _ => false

structure EndpointInv (s : Endpoint τ) : Prop where
  running : s.running = s.lifecycle.up
  worker : s.worker ≠ .absent → s.lifecycle.manned = true ∧ s.workerRun = s.run
  tasksGone : s.lifecycle.tasksGone = true → s.tasks.pending = [] ∧ s.taskHolder = none
  eventsGone : s.lifecycle.eventsGone = true → s.events.pending = [] ∧ s.eventHolder = none
  taskBatch : s.worker.inTasks = false → s.tasks.batch = []
  eventBatch : s.worker.inEvents = false → s.events.batch = []
  taskRuns : ∀ x ∈ s.tasks.batch ++ s.tasks.pending, x.run = s.run
  eventRuns : ∀ x ∈ s.events.batch ++ s.events.pending, x.run = s.run

section
variable {s s' : Endpoint τ} {e : EndpointEvent τ}

theorem EndpointInv.absent (h : EndpointInv s) (hm : s.lifecycle.manned = false) :
    s.worker = .absent := by
  by_contra hne
  rw [(h.worker hne).1] at hm
  cases hm

theorem EndpointStep.running (h : EndpointStep s e s') (hi : EndpointInv s) :
    s'.running = s'.lifecycle.up := by
  cases h with
  | start h | startFails h | launch h | started h | join h | finish h | clearEvents h
  | clearTasks h | stopped h => exact hi.running.trans (by rw [h]; rfl)
  | flag | stop => rfl
  | _ => exact hi.running

theorem EndpointStep.worker (h : EndpointStep s e s') (hi : EndpointInv s)
    (hw : s'.worker ≠ .absent) : s'.lifecycle.manned = true ∧ s'.workerRun = s'.run := by
  -- a worker that moves on was there before
  have hthere {w : Worker} (hw : s.worker = w) (hne : w ≠ .absent) := hi.worker (hw ▸ hne)
  cases h with
  | start h | startFails h | flag h | finish h | clearEvents h | clearTasks h | stopped h =>
    exact absurd (hi.absent (by rw [h]; rfl)) hw
  | launch => exact ⟨rfl, rfl⟩
  | started | stop => exact ⟨rfl, (hi.worker hw).2⟩
  | join => exact absurd rfl hw
  | loop h | poll h | pollThrows h | drain h | swapTasks h | nextTask h | execute h | executed h
  | dropTasks h | gather h | swapEvents h | nextEvent h | send h | dropEvents h =>
    exact hthere h (by decide)
  | sendThrows h => rcases h with h | h <;> exact hthere h (by decide)
  | leave h => rcases h with h | h | h <;> exact hthere h (by decide)
  | _ => exact hi.worker hw

theorem EndpointInv.not_gone (h : EndpointInv s) (hr : s.running = true) :
    s.lifecycle.tasksGone = false ∧ s.lifecycle.eventsGone = false := by
  rw [h.running] at hr
  cases hl : s.lifecycle <;> simp_all [Lifecycle.up, Lifecycle.tasksGone, Lifecycle.eventsGone]

theorem EndpointStep.tasksGone (h : EndpointStep s e s') (hi : EndpointInv s)
    (hgone : s'.lifecycle.tasksGone = true) : s'.tasks.pending = [] ∧ s'.taskHolder = none := by
  cases h with
  | start h | startFails h | stopped h => exact hi.tasksGone (by rw [h]; rfl)
  | flag | launch | started | stop | join | finish | clearEvents => cases hgone
  | clearTasks _ hl => exact ⟨rfl, hl⟩
  | postLock _ _ hr =>
    rw [(hi.not_gone hr).1] at hgone
    cases hgone
  | postPush hl =>
    rw [(hi.tasksGone hgone).2] at hl
    cases hl
  | swapTasks => exact ⟨rfl, (hi.tasksGone hgone).2⟩
  | _ => exact hi.tasksGone hgone

theorem EndpointStep.eventsGone (h : EndpointStep s e s') (hi : EndpointInv s)
    (hgone : s'.lifecycle.eventsGone = true) : s'.events.pending = [] ∧ s'.eventHolder = none := by
  cases h with
  | start h | startFails h | stopped h | clearTasks h => exact hi.eventsGone (by rw [h]; rfl)
  | flag | launch | started | stop | join | finish => cases hgone
  | clearEvents _ hl => exact ⟨rfl, hl⟩
  | publishLock _ _ hr =>
    rw [(hi.not_gone hr).2] at hgone
    cases hgone
  | publishInvalid hl | publishPush hl =>
    rw [(hi.eventsGone hgone).2] at hl
    cases hl
  | swapEvents => exact ⟨rfl, (hi.eventsGone hgone).2⟩
  | _ => exact hi.eventsGone hgone

theorem EndpointStep.taskBatch (h : EndpointStep s e s') (hi : EndpointInv s)
    (hw : s'.worker.inTasks = false) : s'.tasks.batch = [] := by
  cases h with
  | join _ h | loop h | poll h | pollThrows h | drain h | gather h | swapEvents h | nextEvent h
  | send h | dropEvents h => exact hi.taskBatch (by rw [h]; rfl)
  | launch h => exact hi.taskBatch (by rw [hi.absent (by rw [h]; rfl)]; rfl)
  | swapTasks | nextTask | execute | executed => cases hw
  | dropTasks => rfl
  | sendThrows h => rcases h with h | h <;> exact hi.taskBatch (by rw [h]; rfl)
  | leave h => rcases h with h | h | h <;> exact hi.taskBatch (by rw [h]; rfl)
  | _ => exact hi.taskBatch hw

theorem EndpointStep.eventBatch (h : EndpointStep s e s') (hi : EndpointInv s)
    (hw : s'.worker.inEvents = false) : s'.events.batch = [] := by
  cases h with
  | join _ h | loop h | poll h | pollThrows h | drain h | swapTasks h | nextTask h | execute h
  | executed h | dropTasks h | gather h => exact hi.eventBatch (by rw [h]; rfl)
  | launch h => exact hi.eventBatch (by rw [hi.absent (by rw [h]; rfl)]; rfl)
  | swapEvents | nextEvent | send => cases hw
  | sendThrows | dropEvents => rfl
  | leave h => rcases h with h | h | h <;> exact hi.eventBatch (by rw [h]; rfl)
  | _ => exact hi.eventBatch hw

/-! ## The two queues -/

def EndpointEvent.taskLane : EndpointEvent τ → BatchEvent (Entry τ)
  | taskAccepted entry => .accept entry
  | executed _ entry => .handle entry
  | _ => .internal

def EndpointEvent.eventLane : EndpointEvent τ → BatchEvent (Entry PendingEvent)
  | eventAccepted entry => .accept entry
  | sent _ entry => .handle entry
  | _ => .internal

theorem EndpointStep.taskLane (h : EndpointStep s e s') (hi : EndpointInv s) :
    BatchStep s.tasks e.taskLane s'.tasks := by
  cases h with
  | clearTasks => exact .clear _
  | postPush => exact .accept _ _
  | swapTasks h => exact .take _ (hi.taskBatch (by rw [h]; rfl))
  | execute _ hb => exact .handle _ _ _ hb
  | dropTasks => exact .drop _
  | _ => exact .idle _

theorem EndpointStep.eventLane (h : EndpointStep s e s') (hi : EndpointInv s) :
    BatchStep s.events e.eventLane s'.events := by
  cases h with
  | clearEvents => exact .clear _
  | publishPush => exact .accept _ _
  | swapEvents h => exact .take _ (hi.eventBatch (by rw [h]; rfl))
  | send _ hb => exact .handle _ _ _ hb
  | sendThrows | dropEvents => exact .drop _
  | _ => exact .idle _

theorem EndpointInv.empty (hi : EndpointInv s) (hm : s.lifecycle.manned = false)
    (ht : s.lifecycle.tasksGone = true) (he : s.lifecycle.eventsGone = true) :
    s.tasks = {} ∧ s.events = {} := by
  have hworker := hi.absent hm
  refine ⟨Batches.ext (hi.tasksGone ht).1 ?_, Batches.ext (hi.eventsGone he).1 ?_⟩
  · exact hi.taskBatch (by rw [hworker]; rfl)
  · exact hi.eventBatch (by rw [hworker]; rfl)

/-- A new run begins with empty queues. -/
theorem EndpointStep.run_eq (h : EndpointStep s e s') (hi : EndpointInv s) :
    s'.run = s.run ∨ s.tasks = {} ∧ s.events = {} := by
  cases h with
  | flag h => exact .inr (hi.empty (by rw [h]; rfl) (by rw [h]; rfl) (by rw [h]; rfl))
  | _ => exact .inl rfl

theorem EndpointStep.taskRuns (h : EndpointStep s e s') (hi : EndpointInv s) :
    ∀ x ∈ s'.tasks.batch ++ s'.tasks.pending, x.run = s'.run := by
  intro x hx
  rcases (h.taskLane hi).mem_origin hx with hx | he
  · rcases h.run_eq hi with hrun | ⟨hempty, -⟩
    · rw [hrun]
      exact hi.taskRuns x hx
    · rw [hempty] at hx
      cases hx
  · cases h with
    | postPush =>
      cases he
      rfl
    | _ => cases he

theorem EndpointStep.eventRuns (h : EndpointStep s e s') (hi : EndpointInv s) :
    ∀ x ∈ s'.events.batch ++ s'.events.pending, x.run = s'.run := by
  intro x hx
  rcases (h.eventLane hi).mem_origin hx with hx | he
  · rcases h.run_eq hi with hrun | ⟨-, hempty⟩
    · rw [hrun]
      exact hi.eventRuns x hx
    · rw [hempty] at hx
      cases hx
  · cases h with
    | publishPush =>
      cases he
      rfl
    | _ => cases he

theorem EndpointInv.step (hi : EndpointInv s) (h : EndpointStep s e s') : EndpointInv s' where
  running := h.running hi
  worker := h.worker hi
  tasksGone := h.tasksGone hi
  eventsGone := h.eventsGone hi
  taskBatch := h.taskBatch hi
  eventBatch := h.eventBatch hi
  taskRuns := h.taskRuns hi
  eventRuns := h.eventRuns hi

theorem EndpointStep.stopReturned {n : ℕ} (h : EndpointStep s (.stopReturned n) s')
    (hi : EndpointInv s) : s'.tasks = {} ∧ s'.events = {} := by
  have hstopped : s'.lifecycle = .stopped := by
    cases h with
    | stopped => rfl
    | stopWhenStopped h => exact h
    | stopWake h => exact h
  exact (hi.step h).empty (by rw [hstopped]; rfl) (by rw [hstopped]; rfl) (by rw [hstopped]; rfl)

end

/-! ## Whole runs -/

section
variable {t : List (EndpointEvent τ)} {s s' : Endpoint τ} {e : EndpointEvent τ}

def acceptedTasks (t : List (EndpointEvent τ)) : List (Entry τ) :=
  t.filterMap fun e => e.taskLane.accepted

/-- The entries have different numbers, all below `n`. -/
def Numbered {α : Type} (entries : List (Entry α)) (n : ℕ) : Prop :=
  (entries.map (·.number)).Nodup ∧ ∀ x ∈ entries, x.number < n

theorem Numbered.concat {α : Type} {entries : List (Entry α)} {n n' : ℕ} {o : Option (Entry α)}
    (h : Numbered entries n) (hle : n ≤ n') (ho : ∀ x, o = some x → x.number = n ∧ n < n') :
    Numbered (entries ++ o.toList) n' := by
  cases o with
  | none =>
    rw [Option.toList_none, List.append_nil]
    exact ⟨h.1, fun x hx => Nat.lt_of_lt_of_le (h.2 x hx) hle⟩
  | some x =>
    obtain ⟨hx, hlt⟩ := ho x rfl
    constructor
    · rw [Option.toList_some, List.map_append, List.nodup_append]
      refine ⟨h.1, by simp, ?_⟩
      intro a ha b hb hab
      obtain ⟨y, hy, rfl⟩ := List.mem_map.1 ha
      rw [List.map_singleton, List.mem_singleton] at hb
      have := h.2 y hy
      omega
    · intro y hy
      rcases List.mem_append.1 hy with hy | hy
      · exact Nat.lt_of_lt_of_le (h.2 y hy) hle
      · rw [List.mem_singleton.1 hy]
        omega

theorem EndpointStep.number (h : EndpointStep s e s') :
    s.accepted ≤ s'.accepted ∧
    (∀ x, e.taskLane.accepted = some x → x.number = s.accepted ∧ s.accepted < s'.accepted) ∧
    ∀ x, e.eventLane.accepted = some x → x.number = s.accepted ∧ s.accepted < s'.accepted := by
  cases h with
  | postPush | publishPush =>
    refine ⟨Nat.le_succ _, ?_, ?_⟩ <;> intro x hx <;> cases hx
    exact ⟨rfl, Nat.lt_succ_self _⟩
  | _ => refine ⟨Nat.le_refl _, ?_, ?_⟩ <;> intro x hx <;> cases hx

/-- What was handled, with the runs of the workers, was accepted in this order,
    each item once, and by the run that has handled it. -/
structure Orderly {α : Type} (accepted : List (Entry α)) (handled : List (ℕ × Entry α)) :
    Prop where
  order : (handled.map (·.2)).Sublist accepted
  once : (accepted.map (·.number)).Nodup
  run : ∀ p ∈ handled, p.1 = p.2.run

end

end Axent.ControlEndpoint
