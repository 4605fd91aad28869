/-
  The lane scheduler of the WebSocket server
  (`src/control/websocket_server.cpp`).

  Connection threads put requests into one bounded queue; four workers take
  them out.  A request has a lane, its `route_key`, and a worker takes the
  first request whose lane is free.  The shared state is only touched in
  sections locked by `queue_mutex`: `enqueue`, `fetch`, `releaseRoute` and the
  two sections of `stop_worker`.  `SchedulerStep` interleaves them.

  The scheduler refines the lanes of `Lib.Lanes` (`Refines.step`), so every
  lane keeps its account; `lane_scheduler` says what follows for the queue, the
  active routes and the workers.
-/
import Mathlib.Data.Finset.Insert
import Mathlib.Data.Finset.Erase
import Axent.Lib.Lanes
import Axent.Types

namespace Axent

open Lib Function

/-! ## The locked sections -/

/-- A request in the queue.  The code has no `ticket`: it numbers the accepted
    requests, to tell requests with the same text apart. -/
structure ControlTask where
  ticket : ℕ
  request : Json
  webSocket : ℕ
  routeKey : String

def maxPendingRequests : ℕ := 256

abbrev workerCount : ℕ := 4

/-- The state guarded by `queue_mutex`; `accepted` is the next ticket. -/
structure QueueState where
  pendingRequests : List ControlTask := []
  activeRoutes : Finset String := ∅
  stoppingWorker : Bool := false
  accepted : ℕ := 0

/-- What a worker does after its locked section. -/
inductive Fetch where
  | wait
  | exit
  | retry
  | run (task : ControlTask) (queue : QueueState)

namespace QueueState

/-- `enqueue`: the task with its queue, if it is accepted.  The client is
    `none` when it has disconnected; `routeKey` is what `route_key` returned
    before the lock was taken, `none` if it threw. -/
def enqueue (q : QueueState) (request : Json) (webSocket : Option ℕ) (routeKey : Option String) :
    Option (ControlTask × QueueState) :=
  match webSocket with
  | none => none
  | some client =>
    if q.stoppingWorker ∨ maxPendingRequests ≤ q.pendingRequests.length then none
    else
      let task : ControlTask := ⟨q.accepted, request, client, routeKey.getD "control-plane"⟩
      some (task, { q with
        pendingRequests := q.pendingRequests ++ [task]
        accepted := q.accepted + 1 })

/-- The lane of the task is free. -/
def runnable (q : QueueState) (pending : ControlTask) : Bool := pending.routeKey ∉ q.activeRoutes

/-- The locked section of `run_worker`. -/
def fetch (q : QueueState) : Fetch :=
  if ¬ (q.stoppingWorker ∨ q.pendingRequests.any q.runnable) then .wait
  else if q.stoppingWorker ∧ q.pendingRequests.isEmpty then .exit
  else
    match q.pendingRequests.find? q.runnable with
    | none => .retry
    | some task =>
      .run task { q with
        pendingRequests := q.pendingRequests.eraseP q.runnable
        activeRoutes := insert task.routeKey q.activeRoutes }

/-- `release_route`. -/
def releaseRoute (q : QueueState) (routeKey : String) : QueueState :=
  { q with activeRoutes := q.activeRoutes.erase routeKey }

/-- The first section of `stop_worker`. -/
def stop (q : QueueState) : QueueState :=
  { q with stoppingWorker := true, pendingRequests := [] }

/-- The last section of `stop_worker`. -/
def clearRoutes (q : QueueState) : QueueState := { q with activeRoutes := ∅ }

end QueueState

/-- What a worker does with the queue. -/
inductive Fetched (q : QueueState) : Fetch → Prop
  | wait (hs : q.stoppingWorker = false)
      (hb : ∀ x ∈ q.pendingRequests, x.routeKey ∈ q.activeRoutes) : Fetched q .wait
  | exit (hs : q.stoppingWorker = true) (hp : q.pendingRequests = []) : Fetched q .exit
  | retry (hs : q.stoppingWorker = true)
      (hb : ∀ x ∈ q.pendingRequests, x.routeKey ∈ q.activeRoutes) : Fetched q .retry
  | run (before rest : List ControlTask) (task : ControlTask)
      (hp : q.pendingRequests = before ++ task :: rest)
      (hb : ∀ x ∈ before, x.routeKey ∈ q.activeRoutes) (hf : task.routeKey ∉ q.activeRoutes) :
      Fetched q (.run task { q with
        pendingRequests := before ++ rest
        activeRoutes := insert task.routeKey q.activeRoutes })

/-- **A worker takes the first task whose lane is free.** -/
theorem fetch_spec (q : QueueState) : Fetched q q.fetch := by
  unfold QueueState.fetch
  by_cases hw : q.stoppingWorker ∨ q.pendingRequests.any q.runnable
  · rw [if_neg (not_not.2 hw)]
    by_cases he : q.stoppingWorker ∧ q.pendingRequests.isEmpty
    · rw [if_pos he]
      exact .exit he.1 (List.isEmpty_iff.1 he.2)
    rw [if_neg he]
    cases hf : q.pendingRequests.find? q.runnable with
    | none =>
      have hb : ∀ x ∈ q.pendingRequests, x.routeKey ∈ q.activeRoutes := by
        simpa [QueueState.runnable] using hf
      refine .retry (hw.resolve_right fun ha => ?_) hb
      obtain ⟨x, hx, hr⟩ := List.any_eq_true.1 ha
      exact absurd (hb x hx) (by simpa [QueueState.runnable] using hr)
    | some task =>
      obtain ⟨hr, before, rest, hp, hb⟩ := List.find?_eq_some_iff_append.1 hf
      have herase : q.pendingRequests.eraseP q.runnable = before ++ rest := by
        rw [hp, List.eraseP_append_right _ fun x hx => by simpa using hb x hx,
          List.eraseP_cons_of_pos hr]
      simp only [herase]
      exact .run before rest task hp (by simpa [QueueState.runnable] using hb)
        (by simpa [QueueState.runnable] using hr)
  · rw [if_pos hw]
    rw [not_or] at hw
    exact .wait (by simpa using hw.1) (by simpa [QueueState.runnable] using hw.2)

theorem fetch_run {q q' : QueueState} {task : ControlTask} (h : q.fetch = .run task q') :
    ∃ before rest, q.pendingRequests = before ++ task :: rest ∧
      (∀ x ∈ before, x.routeKey ∈ q.activeRoutes) ∧ task.routeKey ∉ q.activeRoutes ∧
      q' = { q with
        pendingRequests := before ++ rest
        activeRoutes := insert task.routeKey q.activeRoutes } := by
  have hspec := fetch_spec q
  rw [h] at hspec
  cases hspec with
  | run before rest _ hp hb hf => exact ⟨before, rest, hp, hb, hf, rfl⟩

theorem enqueue_spec {q q' : QueueState} {request : Json} {webSocket : Option ℕ}
    {routeKey : Option String} {task : ControlTask}
    (h : q.enqueue request webSocket routeKey = some (task, q')) :
    q.stoppingWorker = false ∧ q.pendingRequests.length < maxPendingRequests ∧
      task.ticket = q.accepted ∧
      q' = { q with pendingRequests := q.pendingRequests ++ [task], accepted := q.accepted + 1 } := by
  unfold QueueState.enqueue at h
  cases webSocket with
  | none => simp at h
  | some client =>
    simp only [Option.ite_none_left_eq_some, not_or, not_le, Option.some.injEq,
      Prod.mk.injEq] at h
    obtain ⟨⟨hs, hlen⟩, rfl, rfl⟩ := h
    exact ⟨by simpa using hs, hlen, rfl, rfl⟩

/-! ## The system -/

/-- Where a worker is: at its locked section, with a task, or past its loop. -/
inductive Worker where
  | idle
  | executing (task : ControlTask)
  | exited

structure Scheduler where
  queue : QueueState := {}
  workers : Fin workerCount → Worker := fun _ => .idle

inductive SchedulerEvent where
  | accept (task : ControlTask)
  | reject
  | wait (w : Fin workerCount)
  | retry (w : Fin workerCount)
  | exit (w : Fin workerCount)
  | begin (w : Fin workerCount) (task : ControlTask)
  | finish (w : Fin workerCount) (task : ControlTask)
  | stop
  | joined

/-- The state that `start_worker` leaves: it has joined the workers of an
    earlier run. -/
def startWorker : Scheduler := {}

/-- One locked section.  A worker holds its task from the section that takes
    it out of the queue to the one that releases its lane, which `RouteGuard`
    enters on every path; `stop_worker` joins the workers before its last
    section. -/
inductive SchedulerStep : Scheduler → SchedulerEvent → Scheduler → Prop
  | accept (s : Scheduler) (request : Json) (webSocket : Option ℕ) (routeKey : Option String)
      {task : ControlTask} {q : QueueState}
      (h : s.queue.enqueue request webSocket routeKey = some (task, q)) :
      SchedulerStep s (.accept task) { s with queue := q }
  | reject (s : Scheduler) (request : Json) (webSocket : Option ℕ) (routeKey : Option String)
      (h : s.queue.enqueue request webSocket routeKey = none) :
      SchedulerStep s .reject s
  | wait (s : Scheduler) (w : Fin workerCount) (hw : s.workers w = .idle)
      (h : s.queue.fetch = .wait) : SchedulerStep s (.wait w) s
  | retry (s : Scheduler) (w : Fin workerCount) (hw : s.workers w = .idle)
      (h : s.queue.fetch = .retry) : SchedulerStep s (.retry w) s
  | exit (s : Scheduler) (w : Fin workerCount) (hw : s.workers w = .idle)
      (h : s.queue.fetch = .exit) :
      SchedulerStep s (.exit w) { s with workers := update s.workers w .exited }
  | begin (s : Scheduler) (w : Fin workerCount) (hw : s.workers w = .idle) {task : ControlTask}
      {q : QueueState} (h : s.queue.fetch = .run task q) :
      SchedulerStep s (.begin w task) ⟨q, update s.workers w (.executing task)⟩
  | finish (s : Scheduler) (w : Fin workerCount) {task : ControlTask}
      (hw : s.workers w = .executing task) :
      SchedulerStep s (.finish w task)
        ⟨s.queue.releaseRoute task.routeKey, update s.workers w .idle⟩
  | stop (s : Scheduler) : SchedulerStep s .stop { s with queue := s.queue.stop }
  | joined (s : Scheduler) (hw : ∀ w, s.workers w = .exited) :
      SchedulerStep s .joined { s with queue := s.queue.clearRoutes }

/-! ## The lanes -/

namespace SchedulerEvent

/-- The event as the lanes see it. -/
@[simp] def laneEvents : SchedulerEvent → List (LaneEvent ControlTask)
  | accept task => [.accept task]
  | begin _ task => [.start task]
  | finish _ task => [.finish task]
  | stop => [.drop]
  | _ => []

@[simp] def accepted : SchedulerEvent → Option ControlTask
  | accept task => some task
  | _ => none

@[simp] def begun : SchedulerEvent → Option ControlTask
  | begin _ task => some task
  | _ => none

@[simp] def finished : SchedulerEvent → Option ControlTask
  | finish _ task => some task
  | _ => none

end SchedulerEvent

/-- The tasks accepted so far, in this order. -/
def acceptedTasks (t : List SchedulerEvent) : List ControlTask :=
  t.filterMap SchedulerEvent.accepted

/-- The tasks that began. -/
def begunTasks (t : List SchedulerEvent) : List ControlTask := t.filterMap SchedulerEvent.begun

/-- The tasks that ended. -/
def finishedTasks (t : List SchedulerEvent) : List ControlTask :=
  t.filterMap SchedulerEvent.finished

theorem filterMap_laneEvents {f : SchedulerEvent → Option ControlTask}
    {g : LaneEvent ControlTask → Option ControlTask}
    (h : ∀ e : SchedulerEvent, e.laneEvents.filterMap g = (f e).toList) (t : List SchedulerEvent) :
    (t.flatMap SchedulerEvent.laneEvents).filterMap g = t.filterMap f := by
  induction t with
  | nil => rfl
  | cons e t ih =>
    rw [List.flatMap_cons, List.filterMap_append, h, ih]
    cases hf : f e <;> simp [hf]

theorem drop_mem_laneEvents {t : List SchedulerEvent} :
    .drop ∈ t.flatMap SchedulerEvent.laneEvents ↔ .stop ∈ t := by
  rw [List.mem_flatMap]
  constructor
  · rintro ⟨e, he, hd⟩
    cases e with
    | stop => exact he
    | _ => simp at hd
  · intro h
    exact ⟨.stop, h, by simp⟩

/-- A worker is busy with the task. -/
def Executes (workers : Fin workerCount → Worker) (task : ControlTask) : Prop :=
  ∃ w, workers w = .executing task

section
variable {workers : Fin workerCount → Worker} {w w' : Fin workerCount} {place : Worker}
  {x : ControlTask}

/-- A worker that moved to a place without a task is not the busy one. -/
theorem executing_of_update (hp : ∀ task, place ≠ .executing task)
    (h : update workers w place w' = .executing x) :
    w' ≠ w ∧ workers w' = .executing x := by
  have e : w' ≠ w := by
    rintro rfl
    rw [update_self] at h
    exact hp x h
  exact ⟨e, by rwa [update_of_ne e] at h⟩

/-- A worker enters a lane in which no other one is. -/
theorem one_of_update {task : ControlTask}
    (hone : ∀ {a b x y}, workers a = .executing x → workers b = .executing y →
      x.routeKey = y.routeKey → a = b)
    (hfree : ∀ {x}, Executes workers x → x.routeKey ≠ task.routeKey)
    {a b : Fin workerCount} {x y : ControlTask}
    (ha : update workers w (.executing task) a = .executing x)
    (hb : update workers w (.executing task) b = .executing y)
    (hk : x.routeKey = y.routeKey) : a = b := by
  by_cases haw : a = w
  · subst haw
    by_cases hbw : b = a
    · exact hbw.symm
    · obtain rfl : task = x := by simpa using ha
      exact absurd hk.symm (hfree ⟨b, by simpa [hbw] using hb⟩)
  · have hx : workers a = .executing x := by simpa [haw] using ha
    by_cases hbw : b = w
    · subst hbw
      obtain rfl : task = y := by simpa using hb
      exact absurd hk (hfree ⟨a, hx⟩)
    · exact hone hx (by simpa [hbw] using hb) hk

/-- A worker without a task moves on. -/
theorem executes_update_iff (hw : ∀ task, workers w ≠ .executing task) :
    Executes (update workers w place) x ↔ place = .executing x ∨ Executes workers x := by
  constructor
  · rintro ⟨w', h⟩
    by_cases e : w' = w
    · subst e
      left
      simpa using h
    · right
      exact ⟨w', by simpa [e] using h⟩
  · rintro (rfl | ⟨w', h⟩)
    · exact ⟨w, update_self ..⟩
    · have e : w' ≠ w := fun e => hw x (e ▸ h)
      exact ⟨w', by simpa [e] using h⟩

end

theorem SchedulerStep.executing {s s' : Scheduler} {e : SchedulerEvent} {w : Fin workerCount}
    {task : ControlTask} (h : SchedulerStep s e s') (hw : s.workers w = .executing task)
    (he : e ≠ .finish w task) : s'.workers w = .executing task := by
  cases h with
  | exit w' hw' =>
    have e : w ≠ w' := fun e => by simp [← e, hw] at hw'
    simpa [e] using hw
  | begin w' hw' =>
    have e : w ≠ w' := fun e => by simp [← e, hw] at hw'
    simpa [e] using hw
  | finish w' hw' =>
    have e : w ≠ w' := by
      rintro rfl
      rw [hw] at hw'
      exact he (by rw [Worker.executing.inj hw'])
    simpa [e] using hw
  | _ => exact hw

/-- A busy worker was busy before, or has just begun. -/
theorem SchedulerStep.executing_before {s s' : Scheduler} {e : SchedulerEvent}
    {w : Fin workerCount} {task : ControlTask} (h : SchedulerStep s e s')
    (hw : s'.workers w = .executing task) :
    s.workers w = .executing task ∨ e = .begin w task := by
  cases h with
  | exit w' => exact .inl (executing_of_update (by simp) hw).2
  | finish w' => exact .inl (executing_of_update (by simp) hw).2
  | begin w' =>
    by_cases e : w = w'
    · subst e
      right
      simpa using hw
    · left
      simpa [e] using hw
  | _ => exact .inl hw

/-- The task that begins is the first pending one whose lane is free. -/
theorem SchedulerStep.begin_spec {s s' : Scheduler} {w : Fin workerCount} {task : ControlTask}
    (h : SchedulerStep s (.begin w task) s') : ∃ before rest,
      s.queue.pendingRequests = before ++ task :: rest ∧
      (∀ x ∈ before, x.routeKey ∈ s.queue.activeRoutes) ∧ task.routeKey ∉ s.queue.activeRoutes ∧
      s'.queue.pendingRequests = before ++ rest := by
  cases h with
  | begin w hw hf =>
    obtain ⟨before, rest, hp, hb, hfree, rfl⟩ := fetch_run hf
    exact ⟨before, rest, hp, hb, hfree, rfl⟩

/-- The scheduler `s` implements the lanes `l`. -/
structure Refines (s : Scheduler) (l : String → Lane ControlTask) : Prop where
  queue : ∀ k, (l k).queue = inLane ControlTask.routeKey k s.queue.pendingRequests
  running : ∀ k task, (l k).running = some task ↔ task.routeKey = k ∧ Executes s.workers task
  active : ∀ k, k ∈ s.queue.activeRoutes ↔ (l k).running ≠ none
  one : ∀ {w w' task task'}, s.workers w = .executing task → s.workers w' = .executing task' →
    task.routeKey = task'.routeKey → w = w'
  bound : s.queue.pendingRequests.length ≤ maxPendingRequests

namespace Refines
variable {s : Scheduler} {l : String → Lane ControlTask} {q : QueueState} {task : ControlTask}
  {w : Fin workerCount}

theorem start : Refines startWorker fun _ => {} := by
  constructor <;> simp [startWorker, Executes]

theorem mem_activeRoutes (h : Refines s l) {k : String} :
    k ∈ s.queue.activeRoutes ↔ ∃ task, task.routeKey = k ∧ Executes s.workers task := by
  rw [h.active, Option.ne_none_iff_exists']
  exact exists_congr fun task => h.running k task

theorem accept {request : Json} {webSocket : Option ℕ} {routeKey : Option String}
    (h : Refines s l) (he : s.queue.enqueue request webSocket routeKey = some (task, q)) :
    ∃ l', Run (LaneStep ControlTask.routeKey) l [.accept task] l' ∧
      Refines { s with queue := q } l' := by
  obtain ⟨-, hlen, -, rfl⟩ := enqueue_spec he
  refine ⟨_, .one (.accept l task), ?_⟩
  have hrun : ∀ k, (update l task.routeKey
      ⟨(l task.routeKey).queue ++ [task], (l task.routeKey).running⟩ k).running =
        (l k).running := by
    intro k
    by_cases hk : k = task.routeKey
    · subst hk
      simp
    · simp [hk]
  refine ⟨fun k => ?_, fun k x => ?_, fun k => ?_, h.one, ?_⟩
  · by_cases hk : k = task.routeKey
    · subst hk
      simp [h.queue]
    · simp [hk, h.queue, inLane_cons_of_ne hk]
  · rw [hrun]
    exact h.running k x
  · rw [hrun]
    exact h.active k
  · rw [List.length_append]
    exact hlen

/-- The task that a worker takes is the front of its lane, and nothing runs
    there. -/
theorem front (h : Refines s l) {before rest : List ControlTask}
    (hp : s.queue.pendingRequests = before ++ task :: rest)
    (hb : ∀ x ∈ before, x.routeKey ∈ s.queue.activeRoutes)
    (hf : task.routeKey ∉ s.queue.activeRoutes) :
    (l task.routeKey).queue =
        task :: inLane ControlTask.routeKey task.routeKey (before ++ rest) ∧
      (l task.routeKey).running = none := by
  have hbefore : inLane ControlTask.routeKey task.routeKey before = [] :=
    inLane_eq_nil fun x hx e => hf (e ▸ hb x hx)
  constructor
  · rw [h.queue, hp, inLane_append, inLane_append, hbefore, inLane_cons_self]
    rfl
  · rw [h.active] at hf
    exact not_not.1 hf

theorem begin (h : Refines s l) (hw : s.workers w = .idle) (hf : s.queue.fetch = .run task q) :
    ∃ l', Run (LaneStep ControlTask.routeKey) l [.start task] l' ∧
      Refines ⟨q, update s.workers w (.executing task)⟩ l' := by
  obtain ⟨before, rest, hp, hb, hfree, rfl⟩ := fetch_run hf
  obtain ⟨hq, hr⟩ := h.front hp hb hfree
  -- no other worker is in this lane
  have hother : ∀ {x}, Executes s.workers x → x.routeKey ≠ task.routeKey := fun hx e =>
    hfree (h.mem_activeRoutes.2 ⟨_, e, hx⟩)
  refine ⟨_, .one (.start l task _ hq hr), fun k => ?_, fun k x => ?_, fun k => ?_, ?_, ?_⟩
  · by_cases hk : k = task.routeKey
    · subst hk
      simp
    · simp [hk, h.queue, hp, inLane_cons_of_ne hk]
  · rw [executes_update_iff (by simp [hw])]
    by_cases hk : k = task.routeKey
    · subst hk
      simp only [update_self, Option.some.injEq, Worker.executing.injEq]
      constructor
      · rintro rfl
        exact ⟨rfl, .inl rfl⟩
      · rintro ⟨e, hx | hx⟩
        · exact hx
        · exact absurd e (hother hx)
    · rw [update_of_ne hk, h.running]
      constructor
      · rintro ⟨e, hx⟩
        exact ⟨e, .inr hx⟩
      · rintro ⟨e, hx | hx⟩
        · obtain rfl := Worker.executing.inj hx
          exact absurd e.symm hk
        · exact ⟨e, hx⟩
  · by_cases hk : k = task.routeKey
    · subst hk
      simp
    · simpa [hk] using h.active k
  · exact one_of_update h.one hother
  · have := h.bound
    rw [hp] at this
    simp only [List.length_append, List.length_cons] at this ⊢
    omega

theorem finish (h : Refines s l) (hw : s.workers w = .executing task) :
    ∃ l', Run (LaneStep ControlTask.routeKey) l [.finish task] l' ∧
      Refines ⟨s.queue.releaseRoute task.routeKey, update s.workers w .idle⟩ l' := by
  have hr : (l task.routeKey).running = some task := (h.running _ _).2 ⟨rfl, w, hw⟩
  -- the other workers are in other lanes
  have hback : ∀ {w' x}, update s.workers w .idle w' = .executing x →
      s.workers w' = .executing x ∧ x.routeKey ≠ task.routeKey := by
    intro w' x hx
    obtain ⟨e, hx⟩ := executing_of_update (by simp) hx
    exact ⟨hx, fun hk => e (h.one hx hw hk)⟩
  have hexec : ∀ x, Executes (update s.workers w .idle) x ↔
      Executes s.workers x ∧ x.routeKey ≠ task.routeKey := by
    intro x
    constructor
    · rintro ⟨w', hx⟩
      exact ⟨⟨w', (hback hx).1⟩, (hback hx).2⟩
    · rintro ⟨⟨w', hx⟩, hk⟩
      have e : w' ≠ w := by
        rintro rfl
        rw [hw] at hx
        exact hk (Worker.executing.inj hx ▸ rfl)
      exact ⟨w', by rwa [update_of_ne e]⟩
  refine ⟨_, .one (.finish l task hr), fun k => ?_, fun k x => ?_, fun k => ?_, ?_, h.bound⟩
  · by_cases hk : k = task.routeKey
    · subst hk
      simpa [QueueState.releaseRoute] using h.queue _
    · simpa [hk, QueueState.releaseRoute] using h.queue k
  · rw [hexec]
    by_cases hk : k = task.routeKey
    · subst hk
      simp
      tauto
    · rw [update_of_ne hk, h.running]
      constructor
      · rintro ⟨rfl, hx⟩
        exact ⟨rfl, hx, hk⟩
      · rintro ⟨e, hx, -⟩
        exact ⟨e, hx⟩
  · by_cases hk : k = task.routeKey
    · subst hk
      simp [QueueState.releaseRoute]
    · simpa [hk, QueueState.releaseRoute] using h.active k
  · intro a b x y ha hb e
    exact h.one (hback ha).1 (hback hb).1 e

theorem exit (h : Refines s l) (hw : s.workers w = .idle) :
    Refines { s with workers := update s.workers w .exited } l := by
  refine ⟨h.queue, fun k x => ?_, h.active, ?_, h.bound⟩
  · rw [executes_update_iff (by simp [hw]), h.running]
    simp
  · intro a b x y ha hb e
    exact h.one (executing_of_update (by simp) ha).2 (executing_of_update (by simp) hb).2 e

theorem stop (h : Refines s l) :
    ∃ l', Run (LaneStep ControlTask.routeKey) l [.drop] l' ∧
      Refines { s with queue := s.queue.stop } l' :=
  ⟨_, .one (.drop l), fun _ => rfl, h.running, h.active, h.one, Nat.zero_le _⟩

theorem joined (h : Refines s l) (hw : ∀ w, s.workers w = .exited) :
    Refines { s with queue := s.queue.clearRoutes } l := by
  refine ⟨h.queue, h.running, fun k => ?_, h.one, h.bound⟩
  rw [← h.active, h.mem_activeRoutes]
  simp [QueueState.clearRoutes, Executes, hw]

/-- **Every step is a run of the lanes.** -/
theorem step {s' : Scheduler} {e : SchedulerEvent} (h : Refines s l) (he : SchedulerStep s e s') :
    ∃ l', Run (LaneStep ControlTask.routeKey) l e.laneEvents l' ∧ Refines s' l' := by
  cases he with
  | accept _ _ _ henq => exact h.accept henq
  | reject => exact ⟨l, .nil, h⟩
  | wait => exact ⟨l, .nil, h⟩
  | retry => exact ⟨l, .nil, h⟩
  | exit w hw => exact ⟨l, .nil, h.exit hw⟩
  | begin w hw hf => exact h.begin hw hf
  | finish w hw => exact h.finish hw
  | stop => exact h.stop
  | joined hw => exact ⟨l, .nil, h.joined hw⟩

end Refines

/-! ## What holds along every run -/

section
variable {t : List SchedulerEvent} {s : Scheduler}

theorem laneEvents_accepted : (t.flatMap SchedulerEvent.laneEvents).filterMap LaneEvent.accepted =
    acceptedTasks t :=
  filterMap_laneEvents (fun e => by cases e <;> rfl) t

theorem laneEvents_started : (t.flatMap SchedulerEvent.laneEvents).filterMap LaneEvent.started =
    begunTasks t :=
  filterMap_laneEvents (fun e => by cases e <;> rfl) t

theorem laneEvents_finished : (t.flatMap SchedulerEvent.laneEvents).filterMap LaneEvent.finished =
    finishedTasks t :=
  filterMap_laneEvents (fun e => by cases e <;> rfl) t

/-- What the events `t` and the state `s` they lead to say about each lane. -/
structure LaneOrder (t : List SchedulerEvent) (s : Scheduler) : Prop where
  one : ∀ {w w' task task'}, s.workers w = .executing task → s.workers w' = .executing task' →
    task.routeKey = task'.routeKey → w = w'
  active : ∀ {k}, k ∈ s.queue.activeRoutes ↔ ∃ task, task.routeKey = k ∧ Executes s.workers task
  bound : s.queue.pendingRequests.length ≤ maxPendingRequests
  busy : ∀ {task}, Executes s.workers task →
    inLane ControlTask.routeKey task.routeKey (begunTasks t) =
      inLane ControlTask.routeKey task.routeKey (finishedTasks t) ++ [task]
  free : ∀ {k}, k ∉ s.queue.activeRoutes → inLane ControlTask.routeKey k (begunTasks t) =
    inLane ControlTask.routeKey k (finishedTasks t)
  order : ∀ k, (inLane ControlTask.routeKey k (begunTasks t)).Sublist
    (inLane ControlTask.routeKey k (acceptedTasks t))
  complete : .stop ∉ t → ∀ k, inLane ControlTask.routeKey k (begunTasks t) ++
    inLane ControlTask.routeKey k s.queue.pendingRequests =
      inLane ControlTask.routeKey k (acceptedTasks t)

/-- **Every run keeps the order of every lane.** -/
theorem laneOrder_of_run (h : Run SchedulerStep startWorker t s) : LaneOrder t s := by
  obtain ⟨l, hrun, href⟩ := h.simulate Refines.start fun hR he => hR.step he
  have hacc := hrun.laneAccount
  refine ⟨href.one, href.mem_activeRoutes, href.bound, fun {task} hx => ?_, fun {k} hk => ?_,
    fun k => ?_, fun hs k => ?_⟩
  · have hr := (href.running _ task).2 ⟨rfl, hx⟩
    have := (hacc task.routeKey).started
    rwa [laneEvents_started, laneEvents_finished, hr] at this
  · have hr : (l k).running = none := by
      rw [href.active] at hk
      exact not_not.1 hk
    have := (hacc k).started
    rwa [laneEvents_started, laneEvents_finished, hr, Option.toList_none, List.append_nil] at this
  · have := (hacc k).started_sublist
    rwa [laneEvents_started, laneEvents_accepted] at this
  · have := (hacc k).complete fun hd => hs (drop_mem_laneEvents.1 hd)
    rwa [laneEvents_started, laneEvents_accepted, href.queue] at this

theorem tickets_of_run (h : Run SchedulerStep startWorker t s) :
    (acceptedTasks t).map ControlTask.ticket = List.range s.queue.accepted := by
  refine h.inv (I := fun t s => (acceptedTasks t).map ControlTask.ticket =
    List.range s.queue.accepted) rfl ?_
  intro t s e s' hi he
  rw [acceptedTasks, List.filterMap_append, List.map_append, ← acceptedTasks, hi]
  cases he with
  | accept _ _ _ henq =>
    obtain ⟨-, -, ht, rfl⟩ := enqueue_spec henq
    simp [List.range_succ, ht]
  | begin w hw hf =>
    obtain ⟨before, rest, -, -, -, rfl⟩ := fetch_run hf
    simp
  | _ => simp [QueueState.releaseRoute, QueueState.stop, QueueState.clearRoutes]

theorem acceptedTasks_nodup (h : Run SchedulerStep startWorker t s) : (acceptedTasks t).Nodup :=
  .of_map ControlTask.ticket (by rw [tickets_of_run h]; exact List.nodup_range)

theorem begunTasks_nodup (h : Run SchedulerStep startWorker t s) : (begunTasks t).Nodup :=
  nodup_of_inLane fun k => ((acceptedTasks_nodup h).filter _).sublist ((laneOrder_of_run h).order k)

/-- A task is being executed from its begin to its end. -/
theorem executes_iff (h : Run SchedulerStep startWorker t s) {task : ControlTask} :
    Executes s.workers task ↔ task ∈ begunTasks t ∧ task ∉ finishedTasks t := by
  have hl := laneOrder_of_run h
  have hnd : (inLane ControlTask.routeKey task.routeKey (begunTasks t)).Nodup :=
    (begunTasks_nodup h).filter _
  constructor
  · intro hx
    have hb := hl.busy hx
    have hmem : task ∈ inLane ControlTask.routeKey task.routeKey (begunTasks t) := by simp [hb]
    refine ⟨(mem_inLane.1 hmem).1, fun hf => ?_⟩
    rw [hb, List.nodup_append] at hnd
    exact hnd.2.2 task (mem_inLane.2 ⟨hf, rfl⟩) task (List.mem_singleton_self _) rfl
  · rintro ⟨hb, hf⟩
    by_contra hx
    have hmem : task ∈ inLane ControlTask.routeKey task.routeKey (begunTasks t) :=
      mem_inLane.2 ⟨hb, rfl⟩
    by_cases ha : task.routeKey ∈ s.queue.activeRoutes
    · obtain ⟨x, hk, hx'⟩ := hl.active.1 ha
      rw [← hk, hl.busy hx', List.mem_append, List.mem_singleton] at hmem
      rcases hmem with hm | rfl
      · exact hf (mem_inLane.1 hm).1
      · exact hx hx'
    · rw [hl.free ha] at hmem
      exact hf (mem_inLane.1 hmem).1

/-- **The lane scheduler**, along every interleaving of connection threads,
    workers and `stop_worker`.  At most one task of a lane is being executed,
    and the active routes are exactly the lanes of the tasks being executed.
    The tasks of a lane begin in the order they were accepted, each at most
    once; and until `stop_worker` every accepted task has begun or is pending.
    The queue is bounded, and a worker that takes a task has passed only tasks
    whose lanes are busy. -/
theorem lane_scheduler (h : Run SchedulerStep startWorker t s) :
    (∀ w w' task task', s.workers w = .executing task → s.workers w' = .executing task' →
      task.routeKey = task'.routeKey → w = w') ∧
    (∀ k, k ∈ s.queue.activeRoutes ↔ ∃ task, task.routeKey = k ∧ Executes s.workers task) ∧
    (∀ task, Executes s.workers task ↔ task ∈ begunTasks t ∧ task ∉ finishedTasks t) ∧
    (acceptedTasks t).Nodup ∧ (begunTasks t).Nodup ∧
    (∀ k, (inLane ControlTask.routeKey k (begunTasks t)).Sublist
      (inLane ControlTask.routeKey k (acceptedTasks t))) ∧
    (.stop ∉ t → ∀ k, inLane ControlTask.routeKey k (begunTasks t) ++
      inLane ControlTask.routeKey k s.queue.pendingRequests =
        inLane ControlTask.routeKey k (acceptedTasks t)) ∧
    s.queue.pendingRequests.length ≤ 256 ∧
    (∀ w task s', SchedulerStep s (.begin w task) s' → ∃ before rest,
      s.queue.pendingRequests = before ++ task :: rest ∧
      (∀ x ∈ before, x.routeKey ∈ s.queue.activeRoutes) ∧ task.routeKey ∉ s.queue.activeRoutes ∧
      s'.queue.pendingRequests = before ++ rest) := by
  have hl := laneOrder_of_run h
  exact ⟨fun _ _ _ _ => hl.one, fun _ => hl.active, fun _ => executes_iff h,
    acceptedTasks_nodup h, begunTasks_nodup h, hl.order, hl.complete, hl.bound,
    fun _ _ _ hstep => hstep.begin_spec⟩

/-- A second worker passes the second task of a busy lane. -/
theorem lane_scheduler_two_lanes : ∃ t s, Run SchedulerStep startWorker t s ∧
    (begunTasks t).map ControlTask.ticket = [0, 2] ∧
    s.queue.pendingRequests.map ControlTask.ticket = [1] ∧
    inLane ControlTask.routeKey "a" (begunTasks t) ++
      inLane ControlTask.routeKey "a" s.queue.pendingRequests =
        inLane ControlTask.routeKey "a" (acceptedTasks t) := by
  have h₁ := Run.one (SchedulerStep.accept startWorker .null (some 0) (some "a") rfl)
  have h₂ := h₁.snoc (.accept _ .null (some 0) (some "a") rfl)
  have h₃ := h₂.snoc (.accept _ .null (some 1) (some "b") rfl)
  have h₄ := h₃.snoc (.begin _ 0 rfl rfl)
  have h₅ := h₄.snoc (.begin _ 1 rfl rfl)
  obtain ⟨-, -, -, -, -, -, hcomplete, -, -⟩ := lane_scheduler h₅
  exact ⟨_, _, h₅, rfl, rfl, hcomplete (by simp) "a"⟩

end

end Axent
