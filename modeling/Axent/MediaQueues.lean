/-
  The relay (`src/media/media_relay.cpp`) and the queued media subscription
  (`src/host/axent_host.cpp`) are the same queue.

  The two are written separately.  `Core.asRelay` commutes with all operations, so that
  a subscription runs as a relay does on every sequence of operations
  (`relay_agrees_with_subscription`).
-/
import Mathlib.Data.List.ReduceOption
import Axent.MediaRelay
import Axent.MediaSubscription

namespace Axent

open Lib

/-! ## Operations -/

/-- An operation on a queue of frames; `takeEvent` is only for a subscription. -/
inductive QueueOp where
  | publish (frame : MediaFrame)
  | takeEvent
  | take
  deriving DecidableEq, Repr

def MediaStreamRelay.exec (r : MediaStreamRelay) : QueueOp → Option MediaFrame × MediaStreamRelay
  | .publish frame => (none, r.publish frame)
  | .takeEvent => (none, r)
  | .take => r.read

namespace MediaSubscription.Core

/-- The section of `run` takes an event, if there is one. -/
def takeNextEvent (c : Core) : Core :=
  match c.events with
  | [] => c
  | _ :: events => c.takeEvent events

/-- The worker takes a frame, once it has taken all events. -/
def takeNextFrame (c : Core) : Option MediaFrame × Core :=
  let c := c.takeEvent []
  match c.queue with
  | [] => (none, c)
  | frame :: rest => (some frame, c.takeFrame frame rest)

def exec (c : Core) : QueueOp → Option MediaFrame × Core
  | .publish frame => (none, c.publish frame)
  | .takeEvent => (none, c.takeNextEvent)
  | .take => c.takeNextFrame

end MediaSubscription.Core

/-- The operations one after the other, with the frames that they return. -/
def execAll {σ : Type} (exec : σ → QueueOp → Option MediaFrame × σ) (s : σ) :
    List QueueOp → List (Option MediaFrame) × σ
  | [] => ([], s)
  | op :: ops =>
    let rest := execAll exec (exec s op).2 ops
    ((exec s op).1 :: rest.1, rest.2)

/-! ## A subscription as a relay -/

namespace MediaSubscription
namespace Core

variable {c : Core} {taken : ℕ}

/-- **Taking a frame** is reading the relay. -/
theorem takeFrame_asRelay {frame : MediaFrame} {rest : List MediaFrame}
    (hq : c.queue = frame :: rest) (taken : ℕ) :
    (c.asRelay taken).read = (some frame, (c.takeFrame frame rest).asRelay (taken + 1)) := by
  simp only [MediaStreamRelay.read, asRelay, hq]
  rfl

theorem exec_asRelay (c : Core) (taken : ℕ) (op : QueueOp) :
    (c.asRelay taken).exec op =
      ((c.exec op).1, (c.exec op).2.asRelay (taken + (c.exec op).1.toList.length)) := by
  cases op with
  | publish frame => exact congrArg (none, ·) (publish_asRelay c taken frame).symm
  | takeEvent =>
    refine congrArg (none, ·) ?_
    simp only [exec, takeNextEvent]
    split <;> rfl
  | take =>
    simp only [MediaStreamRelay.exec, exec, takeNextFrame]
    cases hq : c.queue with
    | nil => simp [MediaStreamRelay.read, asRelay, takeEvent, hq]
    | cons frame rest =>
      rw [takeFrame_asRelay hq]
      simp only [takeEvent, hq]
      rfl

theorem execAll_asRelay (ops : List QueueOp) (c : Core) (taken : ℕ) :
    execAll MediaStreamRelay.exec (c.asRelay taken) ops =
      ((execAll exec c ops).1, (execAll exec c ops).2.asRelay
        (taken + (execAll exec c ops).1.reduceOption.length)) := by
  induction ops generalizing c taken with
  | nil => rfl
  | cons op ops ih =>
    simp only [execAll]
    rw [exec_asRelay c taken op, ih]
    cases (c.exec op).1 with
    | none => simp
    | some f => simp [Nat.add_assoc, Nat.add_comm]

end Core
end MediaSubscription

/-! ## Both queues on the same operations -/

/-- The frames that the operations publish. -/
def publishedBy (ops : List QueueOp) : List MediaFrame :=
  ops.filterMap fun
    | .publish frame => some frame
    | _ => none

namespace MediaStreamRelay

theorem run_execAll (ops : List QueueOp) (r : MediaStreamRelay) :
    ∃ t, Run Step r t (execAll exec r ops).2 ∧ .closed ∉ t ∧ published t = publishedBy ops ∧
      readFrames t = (execAll exec r ops).1.reduceOption := by
  induction ops generalizing r with
  | nil => exact ⟨[], .nil, by simp, rfl, rfl⟩
  | cons op ops ih =>
    obtain ⟨t, hrun, hopen, hpublished, hread⟩ := ih (r.exec op).2
    cases op with
    | publish frame =>
      refine ⟨.published frame :: t, (Run.one (.publish r frame)).trans hrun, ?_, ?_, ?_⟩
      · simpa using hopen
      · exact congrArg (frame :: ·) hpublished
      · exact hread
    | takeEvent => exact ⟨t, hrun, hopen, hpublished, hread⟩
    | take =>
      refine ⟨.read r.read.1 :: t, (Run.one (.read r)).trans hrun, ?_, hpublished, ?_⟩
      · simpa using hopen
      · change ([Event.read r.read.1] ++ t).filterMap _ = (r.read.1 :: _).reduceOption
        rw [List.filterMap_append]
        change _ ++ readFrames t = _
        rw [hread]
        cases r.read.1 <;> rfl

end MediaStreamRelay

/-- **The relay and the queued subscription are the same bounded queue.**  On every sequence of
    operations they return the same frames with the same flags, hold the same frames and count the
    same; the queue is within both limits; what was published was taken, dropped or is queued; and
    the frames taken are frames published, in their order, some of them marked. -/
theorem relay_agrees_with_subscription (options : MediaSubscriptionOptions)
    (relayOptions : MediaRelayOptions) (hframes : relayOptions.maxFrames = options.maxFrames)
    (hbytes : relayOptions.maxBytes = options.maxBytes) (ops : List QueueOp) :
    let relay := execAll MediaStreamRelay.exec { options := relayOptions } ops
    let subscription := execAll MediaSubscription.Core.exec
      (MediaSubscription.Subscription.start options).core ops
    relay.1 = subscription.1 ∧
    relay.2.queue = subscription.2.queue ∧
    relay.2.queuedBytes = subscription.2.queuedBytes ∧
    relay.2.stats.queuedFrames = subscription.2.stats.queuedFrames ∧
    relay.2.stats.queuedBytes = subscription.2.stats.queuedBytes ∧
    relay.2.stats.droppedFrames = subscription.2.stats.droppedFrames ∧
    relay.2.stats.droppedBytes = subscription.2.stats.droppedBytes ∧
    relay.2.stats.queuedFrames = relay.2.queue.length ∧
    relay.2.stats.queuedBytes = frameMarking.weight relay.2.queue ∧
    (options.maxFrames = 0 ∨ relay.2.queue.length ≤ options.maxFrames) ∧
    (options.maxBytes = 0 ∨ frameMarking.weight relay.2.queue ≤ options.maxBytes) ∧
    (publishedBy ops).length =
      relay.1.reduceOption.length + relay.2.stats.droppedFrames + relay.2.queue.length ∧
    List.SublistForall₂ (fun taken frame => frame.Marked taken) relay.1.reduceOption
      (publishedBy ops) := by
  intro relay subscription
  have hsame : relay = (subscription.1, subscription.2.asRelay
      (0 + subscription.1.reduceOption.length)) := by
    have hstart : ({ options := relayOptions } : MediaStreamRelay) =
        (MediaSubscription.Subscription.start options).core.asRelay 0 := by
      cases relayOptions
      cases hframes
      cases hbytes
      rfl
    exact (congrArg (execAll MediaStreamRelay.exec · ops) hstart).trans
      (MediaSubscription.Core.execAll_asRelay ops _ 0)
  obtain ⟨t, hrun, hopen, hpublished, hread⟩ :=
    MediaStreamRelay.run_execAll ops { options := relayOptions }
  obtain ⟨d, hd, -, hinv, hpub, htaken, -⟩ := MediaStreamRelay.Refines.run hrun hopen
    (MediaStreamRelay.refines_new relayOptions) DropQueue.inv_empty
  rw [hpublished] at hpub
  rw [hread] at htaken
  have hpub : d.published = publishedBy ops := hpub
  have htaken : d.taken = relay.1.reduceOption := htaken
  have hd : relay.2.Refines d := hd
  have hwithin := hinv.within
  simp only [Limits.Exceeded, MediaRelayOptions.limits, hframes, hbytes, ← hd.queue] at hwithin
  have horder : List.SublistForall₂ (fun taken frame => frame.Marked taken) d.taken
      (d.published.take d.gone) := hinv.order
  obtain ⟨l, hl, hsub⟩ := List.sublistForall₂_iff.1 horder
  refine ⟨by rw [hsame], by rw [hsame]; rfl, by rw [hsame]; rfl, by rw [hsame]; rfl,
    by rw [hsame]; rfl, by rw [hsame]; rfl, by rw [hsame]; rfl, ?_, ?_, ?_, ?_, ?_, ?_⟩
  · rw [hd.stats, hd.queue]
  · rw [hd.stats, hd.queue]
  · omega
  · omega
  · rw [hd.stats, hd.queue, ← hpub, ← htaken]
    exact hinv.count
  · rw [← hpub, ← htaken]
    exact List.sublistForall₂_iff.2 ⟨l, hl, hsub.trans (List.take_sublist ..)⟩

/-- Two frames fit: the first of three is dropped, and the second comes out marked. -/
theorem relay_agrees_with_subscription_three :
    let ops := [1, 2, 3].map (fun n => QueueOp.publish (MediaStreamRelay.smallFrame n)) ++ [.take]
    let relay := execAll MediaStreamRelay.exec { options := { maxFrames := 2, maxBytes := 0 } } ops
    let subscription := execAll MediaSubscription.Core.exec
      (MediaSubscription.Subscription.start
        { dispatch := .asyncQueued, maxFrames := 2, maxBytes := 0 }).core ops
    relay.1 = subscription.1 ∧ subscription.1.reduceOption =
      [(MediaStreamRelay.smallFrame 2).discontinuous] :=
  ⟨(relay_agrees_with_subscription { dispatch := .asyncQueued, maxFrames := 2, maxBytes := 0 }
    { maxFrames := 2, maxBytes := 0 } rfl rfl _).1, by decide⟩

end Axent
