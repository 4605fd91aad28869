/-
  Dropped frames of an asynchronous media stream subscription
  (`MediaStreamSubscriptionState`, `src/host/axent_host.cpp`): what the sink learns of
  them.

  The frames of the queue are a queue with limits (`Lib.DropQueue`), with events in
  between.  A drop is reported twice: by an event `DeliveryDropped` with the totals,
  and by the flag `Discontinuity` of the next frame in the queue.

  * `drops_reported`: the events are ahead of all frames, their counts grow, and as
    long as a drop is not reported, the totals are still in the queue.
  * `gaps_marked`: when the flag reaches the stream whose frames were dropped.  It is
    put on the next frame whatever its stream is (`gap_marked_on_other_stream`).
-/
import Axent.MediaStreamAccounting

namespace Axent

open Lib

namespace MediaStream

/-! ## Drop events -/

/-- The totals that a `DeliveryDropped` carries. -/
def Item.dropCounts (i : Item) : Option (ℕ × ℕ) :=
  match i.body with
  | .deliveryEvent e =>
    if e.kind = .deliveryDropped then some (e.droppedFrames, e.droppedBytes) else none
  | _ => none

def dropCounts (l : List Item) : List (ℕ × ℕ) := l.filterMap Item.dropCounts

/-- Every `DeliveryDropped` is ahead of all frames. -/
def DropsAhead (l : List Item) : Prop :=
  l.Pairwise fun i j => i.isFrame = true → j.isDropped = false

/-- More frames were dropped, and not fewer bytes. -/
def Rises (a b : ℕ × ℕ) : Prop := a.1 < b.1 ∧ a.2 ≤ b.2

@[simp] theorem dropCounts_append (l l' : List Item) :
    dropCounts (l ++ l') = dropCounts l ++ dropCounts l' := List.filterMap_append

theorem dropCounts_cons (i : Item) (l : List Item) :
    dropCounts (i :: l) = i.dropCounts.toList ++ dropCounts l := by
  unfold dropCounts
  cases h : i.dropCounts <;> simp [h]

theorem Item.dropCounts_eq_none {i : Item} : i.dropCounts = none ↔ i.isDropped = false := by
  obtain ⟨body, owner, completion⟩ := i
  cases body with
  | deliveryEvent e => simp [dropCounts, isDropped]
  | frame | streamEvent => simp [dropCounts, isDropped]

theorem Item.isDropped_of_isFrame {i : Item} (h : i.isFrame = true) : i.isDropped = false :=
  match i, h with
  | ⟨.frame _, _, _⟩, _ => rfl

theorem Item.isDropped_of_isStreamEvent {i : Item} (h : i.isStreamEvent = true) :
    i.isDropped = false :=
  match i, h with
  | ⟨.streamEvent _, _, _⟩, _ => rfl

theorem Item.not_isFrame_of_isStreamEvent {i : Item} (h : i.isStreamEvent = true) :
    i.isFrame = false :=
  match i, h with
  | ⟨.streamEvent _, _, _⟩, _ => rfl

theorem dropCounts_eq_nil {l : List Item} (h : ∀ i ∈ l, i.isDropped = false) :
    dropCounts l = [] :=
  List.filterMap_eq_nil_iff.2 fun i hi => Item.dropCounts_eq_none.2 (h i hi)

theorem Rises.trans {a b c : ℕ × ℕ} (h : Rises a b) (h' : Rises b c) : Rises a c :=
  ⟨Nat.lt_trans h.1 h'.1, Nat.le_trans h.2 h'.2⟩

/-- The totals that were reported last. -/
def lastCounts (l : List (ℕ × ℕ)) : ℕ × ℕ := l.getLast?.getD (0, 0)

@[simp] theorem lastCounts_concat (l : List (ℕ × ℕ)) (a : ℕ × ℕ) : lastCounts (l ++ [a]) = a := by
  simp [lastCounts]

theorem rises_concat {l : List (ℕ × ℕ)} {a : ℕ × ℕ} (h : l.Pairwise Rises)
    (ha : Rises (lastCounts l) a) : (l ++ [a]).Pairwise Rises := by
  refine List.pairwise_append.2 ⟨h, List.pairwise_singleton _ _, fun b hb c hc => ?_⟩
  rw [List.mem_singleton.1 hc]
  rcases List.eq_nil_or_concat l with rfl | ⟨l', x, rfl⟩
  · cases hb
  · rw [List.concat_eq_append] at h ha hb
    rw [lastCounts_concat] at ha
    rcases List.mem_append.1 hb with hb | hb
    · exact ((List.pairwise_append.1 h).2.2 b hb x (List.mem_singleton_self x)).trans ha
    · rwa [List.mem_singleton.1 hb]

theorem rises_replace {l : List (ℕ × ℕ)} {a b : ℕ × ℕ} (h : (l ++ [b]).Pairwise Rises)
    (ha : Rises b a) : (l ++ [a]).Pairwise Rises := by
  obtain ⟨hl, -, hlast⟩ := List.pairwise_append.1 h
  refine List.pairwise_append.2 ⟨hl, List.pairwise_singleton _ _, fun x hx c hc => ?_⟩
  rw [List.mem_singleton.1 hc]
  exact (hlast x hx b (List.mem_singleton_self b)).trans ha

/-- New totals are reported behind the others, or instead of the last ones. -/
theorem rises_report {p q q' : List (ℕ × ℕ)} {a : ℕ × ℕ} (h : (p ++ q).Pairwise Rises)
    (ha : Rises (lastCounts (p ++ q)) a)
    (hq : (∃ l x, q = l ++ [x] ∧ q' = l ++ [a]) ∨ q' = q ++ [a]) :
    (p ++ q').Pairwise Rises ∧ lastCounts (p ++ q') = a := by
  rcases hq with ⟨l, x, rfl, rfl⟩ | rfl
  · rw [← List.append_assoc] at h ha ⊢
    rw [lastCounts_concat] at ha
    exact ⟨rises_replace h ha, lastCounts_concat ..⟩
  · rw [← List.append_assoc]
    exact ⟨rises_concat h ha, lastCounts_concat ..⟩

theorem dropsAhead_append {l l' : List Item} (h : DropsAhead l)
    (hl' : ∀ i ∈ l', i.isDropped = false) : DropsAhead (l ++ l') := by
  refine List.pairwise_append.2 ⟨h, ?_, fun i _ j hj _ => hl' j hj⟩
  exact List.pairwise_iff_forall_sublist.2 fun hsub _ =>
    hl' _ (hsub.subset (List.mem_cons_of_mem _ (List.mem_singleton_self _)))

/-- What matters is which items are frames, and which are drop events. -/
theorem dropsAhead_congr {l l' : List Item} (h : DropsAhead l)
    (hl : l'.map (fun i => (i.isFrame, i.isDropped)) = l.map fun i => (i.isFrame, i.isDropped)) :
    DropsAhead l' := by
  have hmap (l : List Item) : DropsAhead l ↔ (l.map fun i => (i.isFrame, i.isDropped)).Pairwise
      fun a b => a.1 = true → b.2 = false := by
    rw [List.pairwise_map]
    rfl
  rwa [hmap, hl, ← hmap]

theorem dropsAhead_updateFirst {l : List Item} (h : DropsAhead l) :
    DropsAhead (updateFirst Item.isFrame Item.discontinuous l) :=
  dropsAhead_congr h (map_updateFirst _ (fun | ⟨.frame _, _, _⟩, _ => rfl) l)

namespace Core
variable {c c' : Core}

/-- The totals of the drops. -/
def totals (c : Core) : ℕ × ℕ := (c.stats.droppedFrames, c.stats.droppedBytes)

/-- **`enqueue_drop_event_locked`** reports the totals last: in the last drop event of
    the queue, or in a new one behind it. -/
theorem enqueueDropEvent_reports (h : DropsAhead c.items) :
    DropsAhead c.enqueueDropEvent.items ∧
      ((∃ l x, dropCounts c.items = l ++ [x] ∧
          dropCounts c.enqueueDropEvent.items = l ++ [c.totals]) ∨
        dropCounts c.enqueueDropEvent.items = dropCounts c.items ++ [c.totals]) := by
  obtain ⟨a, old, i, b, hitems, hnew, hi, hold⟩ := c.enqueueDropEvent_split
  have hcounts : i.dropCounts = some c.totals := by simp [Item.dropCounts, hi, totals]
  rw [hnew]
  rcases hold with ⟨j, rfl, hj, hb⟩ | ⟨rfl, rfl, rfl⟩
  · obtain ⟨e, he⟩ := Item.body_of_isDropped hj
    have hsome : j.dropCounts ≠ none := mt Item.dropCounts_eq_none.1 (by simp [hj])
    obtain ⟨x, hx⟩ := Option.ne_none_iff_exists'.1 hsome
    have hnil := dropCounts_eq_nil hb
    constructor
    · refine dropsAhead_congr h ?_
      have hkind : i.isFrame = j.isFrame ∧ i.isDropped = j.isDropped := by
        rw [hj]
        simp [Item.isFrame, Item.isDropped, he, hi]
      simp [hitems, hkind]
    · refine .inl ⟨dropCounts a, x, ?_, ?_⟩
      · simp [hitems, dropCounts_cons, hx, hnil]
      · simp [dropCounts_cons, hcounts, hnil]
  · have hsplit := List.takeWhile_append_dropWhile (p := (!·.isFrame)) (l := c.items)
    have hahead := h
    rw [← hsplit] at hahead
    obtain ⟨htake, hdrop, -⟩ := List.pairwise_append.1 hahead
    -- all drop events are ahead of the first frame
    have hnil : dropCounts (c.items.dropWhile (!·.isFrame)) = [] := by
      cases hd : c.items.dropWhile (!·.isFrame) with
      | nil => rfl
      | cons i rest =>
        have hframe := isFrame_of_dropWhile hd
        rw [hd] at hdrop
        refine dropCounts_eq_nil fun j hj => ?_
        rcases List.mem_cons.1 hj with rfl | hj
        · exact Item.isDropped_of_isFrame hframe
        · exact (List.pairwise_cons.1 hdrop).1 j hj hframe
    constructor
    · refine List.pairwise_append.2 ⟨htake, List.pairwise_cons.2 ⟨?_, hdrop⟩, ?_⟩
      · simp [Item.isFrame, hi]
      · intro i hi j _ hframe
        have := List.mem_takeWhile_imp hi
        simp [hframe] at this
    · right
      conv_rhs => rw [← hsplit]
      rw [dropCounts_append, dropCounts_cons, dropCounts_append, hnil, hcounts, List.append_nil,
        List.append_nil]
      rfl

/-- **Limiting the queue**: the `k` oldest frames are dropped, and if there are any,
    the next frame is flagged and the totals are reported. -/
structure Limited (c c' : Core) (k : ℕ) : Prop where
  frames : MediaStream.frames c'.items =
    if k = 0 then MediaStream.frames c.items
    else frameMarking.markHead ((MediaStream.frames c.items).drop k)
  droppedFrames : c'.stats.droppedFrames = c.stats.droppedFrames + k
  droppedBytes : c'.stats.droppedBytes =
    c.stats.droppedBytes + frameMarking.weight ((MediaStream.frames c.items).take k)
  ahead : DropsAhead c.items → DropsAhead c'.items
  none : k = 0 → dropCounts c'.items = dropCounts c.items
  reports : k ≠ 0 → DropsAhead c.items →
    (∃ l x, dropCounts c.items = l ++ [x] ∧ dropCounts c'.items = l ++ [c'.totals]) ∨
      dropCounts c'.items = dropCounts c.items ++ [c'.totals]

theorem limitQueue_limited (h : c.Counts) (hd : c.isDirect = false) :
    Limited c c.limitQueue
      (c.options.limits.overflow frameMarking (MediaStream.frames c.items)) := by
  obtain ⟨hdrops, hflag, -⟩ := dropFrames_drops c.queuedFrames c h (Nat.le_refl _)
  unfold limitQueue
  rw [if_neg (by simp [hd])]
  generalize c.dropFrames c.queuedFrames = dropped at *
  generalize c.options.limits.overflow frameMarking (MediaStream.frames c.items) = k at *
  have hcounts : dropCounts dropped.1.items = dropCounts c.items := by
    have hframe (i : Item) (hi : i.isFrame = true) : i.dropCounts = .none :=
      Item.dropCounts_eq_none.2 (Item.isDropped_of_isFrame hi)
    rw [dropCounts, ← filterMap_others hframe, hdrops.others, filterMap_others hframe]
    rfl
  have hahead (ha : DropsAhead c.items) : DropsAhead dropped.1.items := ha.sublist hdrops.sublist
  dsimp only
  split_ifs with hk
  · have hk : k ≠ 0 := by simpa [hflag] using hk
    have hreports (ha : DropsAhead c.items) :=
      enqueueDropEvent_reports (c := dropped.1.markNextFrameDiscontinuous)
        (dropsAhead_updateFirst (hahead ha))
    obtain ⟨-, hstats, -⟩ := dropped.1.markNextFrameDiscontinuous.enqueueDropEvent_counters
    have htotals : dropped.1.markNextFrameDiscontinuous.enqueueDropEvent.totals =
        dropped.1.markNextFrameDiscontinuous.totals := by rw [totals, hstats]; rfl
    have hmarked : dropCounts dropped.1.markNextFrameDiscontinuous.items = dropCounts c.items :=
      (filterMap_updateFirst _ (fun | ⟨.frame _, _, _⟩, _ => rfl) _).trans hcounts
    refine ⟨?_, ?_, ?_, fun ha => (hreports ha).1, fun h0 => absurd h0 hk, fun _ ha => ?_⟩
    · rw [if_neg hk, (enqueueDropEvent_same _).1, ← hdrops.frames]
      exact frames_updateFirst _
    · rw [hstats]
      exact hdrops.droppedFrames
    · rw [hstats]
      exact hdrops.droppedBytes
    · rw [htotals, ← hmarked]
      exact (hreports ha).2
  · have hk : k = 0 := by simpa [hflag] using hk
    subst hk
    exact ⟨hdrops.frames, hdrops.droppedFrames, hdrops.droppedBytes, hahead, fun _ => hcounts,
      fun h0 => absurd rfl h0⟩

end Core

/-! ## The steps of an asynchronous subscription -/

/-- How many frames are over the limits when `frame` is queued. -/
def Core.overflow (c : Core) (frame : MediaFrame) : ℕ :=
  if c.Accepts frame then c.options.limits.overflow frameMarking (frames c.items ++ [frame]) else 0

/-- **What a step does to the queue and the totals** before the termination. -/
inductive QueueStep (c : Core) : Event → Core → Prop
  | append {e : Event} {c' : Core} {l : List Item} (hs : ∀ thread item, e ≠ .started thread item)
      (hl : ∀ i ∈ l, i.isStreamEvent = true) (hq : c'.items = c.items ++ l)
      (ht : c'.totals = c.totals) : QueueStep c e c'
  | publish {thread : ThreadId} {frame : MediaFrame} {queued : List Item}
      (h : Core.Limited { c with items := c.items ++ [{ body := .frame frame }] }
        (c.publishFrame thread frame).core (c.overflow frame)) :
      QueueStep c (.entered thread (.publishFrame frame) queued) (c.publishFrame thread frame).core
  | take {thread : ThreadId} {item : Item} {c' : Core} (hq : c.items = item :: c'.items)
      (ht : c'.totals = c.totals) : QueueStep c (.started thread item) c'

section
variable {s s' : Subscription} {t : List Event} {e : Event} {thread : ThreadId}
  {options : MediaSubscriptionOptions} {c : Core}

theorem Core.activate_same (c : Core) :
    c.activate.core.items = c.items ∧ c.activate.core.totals = c.totals := by
  unfold Core.activate Core.startWorker
  split_ifs
  · exact ⟨rfl, rfl⟩
  · exact ⟨rfl, rfl⟩
  · dsimp only
    split <;> exact ⟨rfl, rfl⟩

theorem Core.totals_takeFront (c : Core) (thread : ThreadId) (item : Item) (rest : List Item) :
    (c.takeFront thread item rest).totals = c.totals := by
  unfold Core.takeFront Core.pop
  split_ifs <;> rfl

theorem QueueStep.publishStreamEvent (hm : c.isDirect = false) (priming : Bool)
    (event : MediaStreamEvent) (call : Call) :
    QueueStep c (.entered thread call (c.publishStreamEvent thread priming event).queued)
      (c.publishStreamEvent thread priming event).core := by
  obtain ⟨events, active, hqueued, hcore⟩ :=
    Core.publishStreamEvent_async hm thread priming event
  generalize c.publishStreamEvent thread priming event = p at *
  refine .append (l := p.queued) (by rintro _ _ ⟨⟩) (fun i hi => ?_) (by rw [hcore])
    (by rw [hcore]; rfl)
  rw [hqueued] at hi
  obtain ⟨e, -, rfl⟩ := List.mem_map.1 hi
  rfl

theorem QueueStep.same {c' : Core} (hs : ∀ thread item, e ≠ .started thread item)
    (hq : c'.items = c.items) (ht : c'.totals = c.totals) : QueueStep c e c' :=
  .append (l := []) hs (by simp) (by rw [hq, List.append_nil]) ht

/-- A published frame is refused, or queued ahead of the limiting of the queue. -/
theorem AccountInv.publishFrame_limited (ha : AccountInv options t s)
    (hm : s.core.isDirect = false) (thread : ThreadId) (frame : MediaFrame) :
    s.core.overflow frame = 0 ∧ (s.core.publishFrame thread frame).core = s.core ∨
      Core.Limited { s.core with items := s.core.items ++ [{ body := .frame frame }] }
        (s.core.publishFrame thread frame).core (s.core.overflow frame) := by
  rcases Core.publishFrame_async hm thread frame with ⟨hrefuse, hp⟩ | ⟨haccept, -, hp⟩
  · exact .inl ⟨if_neg hrefuse, by rw [hp]⟩
  · right
    have h := Core.limitQueue_limited (ha.counts.countFrame frame) hm
    rw [frames_append] at h
    rw [hp, Core.overflow, if_pos haccept]
    exact ⟨h.frames, h.droppedFrames, h.droppedBytes, h.ahead, h.none, h.reports⟩

/-- **The steps before the termination.** -/
theorem AccountInv.queueStep (ha : AccountInv options t s) (h : SubscriptionStep s e s')
    (hi : Inv s) (hasync : options.dispatch = .asyncQueued)
    (he : s'.core.terminalEnqueued = false) : QueueStep s.core e s'.core := by
  have hm : s.core.isDirect = false := by
    rw [Core.isDirect, ha.options, hasync]
    rfl
  cases h with
  | enter thread call =>
    rw [Subscription.enter, entered_core] at he ⊢
    cases call with
    | primeStreamEvent event => exact .publishStreamEvent hm true event _
    | publishStreamEvent event => exact .publishStreamEvent hm false event _
    | publishFrame frame =>
      rcases ha.publishFrame_limited hm thread frame with ⟨-, hrefused⟩ | hlimited
      · exact .same (by rintro _ _ ⟨⟩) (congrArg Core.items hrefused) (congrArg _ hrefused)
      · exact .publish hlimited
    | activate => exact .same (by rintro _ _ ⟨⟩) s.core.activate_same.1 s.core.activate_same.2
    | cancel closeStreams =>
      exact absurd ((hi.cancel_terminalEnqueued thread closeStreams).symm.trans he) (by decide)
  | drainLeave ht | drainWait ht | drainTake ht =>
    exact absurd ((hi.drain_top ht).2.2.1.symm.trans hm) (by decide)
  | finishLeave ht | finishNext ht =>
    exact absurd ((hi.dispatch_top ht).2.2.2.1.symm.trans hm) (by decide)
  | awaitIdle | awaitTerminal | join | leave | runEnd => exact .same (by rintro _ _ ⟨⟩) rfl rfl
  | runTake ht hc =>
    rcases Core.run_spec hc with ⟨hr, -⟩ | ⟨item, rest, hr, -, -, hq⟩
    · cases hr
    · cases hr
      exact .take (by rw [setThread_core, Core.takeFront_items, hq]) (Core.totals_takeFront ..)
  | runFinish =>
    refine .same (by rintro _ _ ⟨⟩) rfl ?_
    simp only [setThread_core, Core.finishRun, Core.finishItem, Core.totals]
    split_ifs <;> rfl

/-! ## What the events report -/

/-- What was reported, after the trace `t`. -/
structure DropInv (t : List Event) (c : Core) : Prop where
  ahead : DropsAhead c.items
  rises : (dropCounts (startedItems t) ++ dropCounts c.items).Pairwise Rises
  last : lastCounts (dropCounts (startedItems t) ++ dropCounts c.items) = c.totals

theorem rises_of_dropped {c' : Core} {items : List Item} {k : ℕ}
    (h : Core.Limited { c with items := items } c' k) (hk : k ≠ 0) : Rises c.totals c'.totals := by
  unfold Core.totals
  rw [h.droppedFrames, h.droppedBytes]
  exact ⟨Nat.lt_add_of_pos_right (Nat.pos_of_ne_zero hk), Nat.le_add_right ..⟩

theorem DropInv.publish {c' : Core} {frame : MediaFrame} {k : ℕ} (hd : DropInv t c)
    (h : Core.Limited { c with items := c.items ++ [{ body := .frame frame }] } c' k)
    (hs : startedItems [e] = []) : DropInv (t ++ [e]) c' := by
  have hahead : DropsAhead (c.items ++ [{ body := .frame frame }]) :=
    dropsAhead_append hd.ahead (by simp [Item.isDropped])
  have hcounts : dropCounts (c.items ++ [{ body := .frame frame }]) = dropCounts c.items := by
    rw [dropCounts_append, dropCounts_eq_nil (l := [_]) (by simp [Item.isDropped]),
      List.append_nil]
  have hstarted : startedItems (t ++ [e]) = startedItems t := by
    rw [startedItems_concat, hs, List.append_nil]
  by_cases hk : k = 0
  · have htotals : c'.totals = c.totals := by
      unfold Core.totals
      rw [h.droppedFrames, h.droppedBytes, hk]
      rfl
    refine ⟨h.ahead hahead, ?_, ?_⟩
    · rw [hstarted, h.none hk, hcounts]
      exact hd.rises
    · rw [hstarted, h.none hk, hcounts, htotals]
      exact hd.last
  · have hreports := h.reports hk hahead
    rw [hcounts] at hreports
    obtain ⟨hrises, hlast⟩ := rises_report hd.rises (hd.last ▸ rises_of_dropped h hk) hreports
    exact ⟨h.ahead hahead, hstarted ▸ hrises, hstarted ▸ hlast⟩

/-- **Every step before the termination** keeps the reports. -/
theorem DropInv.step {c' : Core} (hd : DropInv t c) (h : QueueStep c e c') :
    DropInv (t ++ [e]) c' := by
  cases h with
  | @append _ _ l hs hl hq ht =>
    have hnone (i : Item) (hi : i ∈ l) : i.isDropped = false :=
      Item.isDropped_of_isStreamEvent (hl i hi)
    have hstarted : startedItems (t ++ [e]) = startedItems t := by
      rw [startedItems_concat, startedItems_eq_nil hs, List.append_nil]
    have hcounts : dropCounts c'.items = dropCounts c.items := by
      rw [hq, dropCounts_append, dropCounts_eq_nil hnone, List.append_nil]
    refine ⟨hq ▸ dropsAhead_append hd.ahead hnone, ?_, ?_⟩
    · rw [hstarted, hcounts]
      exact hd.rises
    · rw [hstarted, hcounts, ht]
      exact hd.last
  | publish h => exact hd.publish h (startedItems_eq_nil (by rintro _ _ ⟨⟩))
  | @take thread item _ hq ht =>
    have hcounts : dropCounts (startedItems (t ++ [.started thread item])) ++ dropCounts c'.items =
        dropCounts (startedItems t) ++ dropCounts c.items := by
      have hstart : startedItems (t ++ [.started thread item]) = startedItems t ++ [item] :=
        startedItems_concat ..
      rw [hstart, dropCounts_append, List.append_assoc, ← dropCounts_append, hq]
      rfl
    have hahead := hd.ahead
    rw [hq] at hahead
    refine ⟨(List.pairwise_cons.1 hahead).2, ?_, ?_⟩
    · rw [hcounts]
      exact hd.rises
    · rw [hcounts, ht]
      exact hd.last

theorem run_drops (hasync : options.dispatch = .asyncQueued)
    (h : Run SubscriptionStep (Subscription.start options) t s) :
    s.core.terminalEnqueued = false → DropInv t s.core := by
  induction h with
  | nil => exact fun _ => ⟨.nil, .nil, rfl⟩
  | snoc h hs ih =>
    intro he
    obtain ⟨hi, ha⟩ := run_accounts hasync h
    have hbefore := (hs.effect hi).terminalEnqueued_eq_false he
    exact (ih hbefore).step ((ha hbefore).queueStep hs hi hasync he)

/-- **Drops are reported in time.**  Before the termination, the drop events are ahead of
    all frames of the queue; from one to the next, of those that were delivered and of
    those in the queue, the count of frames grows and the count of bytes does not
    decrease; and if the totals are not the ones that were delivered last, then an event
    with the totals is in the queue, ahead of the next frame. -/
theorem drops_reported (hasync : options.dispatch = .asyncQueued)
    (h : Run SubscriptionStep (Subscription.start options) t s)
    (hterm : s.core.terminalEnqueued = false) :
    DropsAhead s.core.items ∧
    (dropCounts (startedItems t) ++ dropCounts s.core.items).Pairwise Rises ∧
    (lastCounts (dropCounts (startedItems t)) ≠ s.core.totals →
      ∃ ahead i behind, s.core.items = ahead ++ i :: behind ∧
        i.dropCounts = some s.core.totals ∧ ∀ j ∈ ahead, j.isFrame = false) := by
  have hd := run_drops hasync h hterm
  refine ⟨hd.ahead, hd.rises, fun hne => ?_⟩
  have hlast := hd.last
  rcases List.eq_nil_or_concat (dropCounts s.core.items) with hnil | ⟨l, x, hl⟩
  · rw [hnil, List.append_nil] at hlast
    exact absurd hlast hne
  · rw [hl, List.concat_eq_append, ← List.append_assoc, lastCounts_concat] at hlast
    subst hlast
    have hmem : s.core.totals ∈ dropCounts s.core.items := by simp [hl]
    obtain ⟨i, hi, hcounts⟩ := List.mem_filterMap.1 hmem
    obtain ⟨ahead, behind, hsplit⟩ := List.append_of_mem hi
    refine ⟨ahead, i, behind, hsplit, hcounts, fun j hj => ?_⟩
    -- a frame ahead of the event would be ahead of a drop event
    have hahead := hd.ahead
    rw [hsplit] at hahead
    by_contra hframe
    have hdropped := (List.pairwise_append.1 hahead).2.2 j hj i (List.mem_cons_self ..)
      (eq_true_of_ne_false hframe)
    rw [Item.dropCounts_eq_none.2 hdropped] at hcounts
    cases hcounts

/-- A frame of the stream `streamId`. -/
def gapFrame (streamId : ℕ) (payload : List UInt8) : MediaFrame :=
  { sessionId := "s", streamId := streamId, payload := payload, generation := 1 }

/-- A queue of one frame, and frames without a payload: the drop of the first one was
    reported to the sink, and the drop of the second one is in the queue. -/
theorem two_drops_run :
    ∃ t s, Run SubscriptionStep
        (Subscription.start { dispatch := .asyncQueued, maxFrames := 1 }) t s ∧
      s.core.terminalEnqueued = false ∧ dropCounts (startedItems t) = [(1, 0)] ∧
      s.core.totals = (2, 0) ∧ dropCounts s.core.items = [(2, 0)] := by
  have h := run_call (s := Subscription.start { dispatch := .asyncQueued, maxFrames := 1 }) .nil 0
    (.primeStreamEvent { descriptor := { key := ⟨"s", 7, 1⟩, deviceId := "d" } }) rfl rfl
  have h := run_call h 0 .activate rfl rfl
  have h := run_call h 0 (.publishFrame (gapFrame 7 [])) rfl rfl
  have h := run_call h 0 (.publishFrame (gapFrame 7 [])) rfl rfl
  have h := run_deliver h 0 rfl rfl
  have h := h.snoc (@.runTake _ (.worker 0) _ _ _ rfl rfl)
  have h := h.snoc (.enter _ (.client 0) (.publishFrame (gapFrame 7 [])) rfl)
  exact ⟨_, _, h, rfl, rfl, rfl, rfl⟩

/-- The count of bytes need not grow. -/
theorem equal_byte_counts :
    ∃ t s, Run SubscriptionStep
        (Subscription.start { dispatch := .asyncQueued, maxFrames := 1 }) t s ∧
      s.core.terminalEnqueued = false ∧
      ¬ (dropCounts (startedItems t) ++ dropCounts s.core.items).Pairwise
        fun a b => a.1 < b.1 ∧ a.2 < b.2 := by
  obtain ⟨t, s, h, hterm, hstarted, -, hqueued⟩ := two_drops_run
  refine ⟨t, s, h, hterm, ?_⟩
  rw [hstarted, hqueued]
  decide

/-- The drop in the queue is reported ahead of the next frame. -/
theorem drops_reported_two :
    ∃ t s, Run SubscriptionStep
        (Subscription.start { dispatch := .asyncQueued, maxFrames := 1 }) t s ∧
      s.core.terminalEnqueued = false ∧ dropCounts (startedItems t) = [(1, 0)] ∧
      ∃ ahead i behind, s.core.items = ahead ++ i :: behind ∧
        i.dropCounts = some (2, 0) ∧ ∀ j ∈ ahead, j.isFrame = false := by
  obtain ⟨t, s, h, hterm, hstarted, htotals, -⟩ := two_drops_run
  have hqueued := (drops_reported rfl h hterm).2.2
  rw [hstarted, htotals] at hqueued
  exact ⟨t, s, h, hterm, hstarted, hqueued (by decide)⟩

end

/-! ## Gaps in a stream -/

/-- The frames that go when `frame` is published. -/
def Core.droppedBy (c : Core) (frame : MediaFrame) : List MediaFrame :=
  (frames c.items ++ [frame]).take (c.overflow frame)

/-- **The gap of a stream can be marked**: if frames of the stream are over the limits, then the
    oldest frame that stays is one of this stream. -/
def Core.MarksGap (key : StreamKey) (c : Core) : Event → Prop
  | .entered _ (.publishFrame frame) _ =>
    (∃ d ∈ c.droppedBy frame, d.key = key) →
      ∃ f ∈ (frames c.items ++ [frame])[c.overflow frame]?, f.key = key
  | _ => True

/-- The next frame of a stream is in the queue, with the flag. -/
def Owed (key : StreamKey) (l : List MediaFrame) : Prop :=
  ∃ f, l.find? (fun f => f.key = key) = some f ∧ f.isDiscontinuous = true

theorem Owed.markHead {key : StreamKey} {l : List MediaFrame} (h : Owed key l) :
    Owed key (frameMarking.markHead l) := by
  obtain ⟨f, hfind, hf⟩ := h
  cases l with
  | nil => cases hfind
  | cons x l =>
    by_cases hx : x.key = key
    · exact ⟨x.discontinuous, List.find?_cons_of_pos (decide_eq_true hx),
        x.isDiscontinuous_discontinuous⟩
    · have hskip (y : MediaFrame) (hy : y.key = x.key) :
          (y :: l).find? (fun f => f.key = key) = l.find? fun f => f.key = key :=
        List.find?_cons_of_neg (by simpa [hy] using hx)
      exact ⟨f, (hskip x.discontinuous rfl).trans (hskip x rfl ▸ hfind), hf⟩

/-- Frames are dropped, of the stream only if the oldest that stays is one of it. -/
theorem Owed.drop {key : StreamKey} {l : List MediaFrame} {n : ℕ}
    (h : Owed key l ∨ ∃ d ∈ l.take n, d.key = key)
    (hmarks : (∃ d ∈ l.take n, d.key = key) → ∃ f ∈ l[n]?, f.key = key) :
    Owed key (frameMarking.markHead (l.drop n)) := by
  by_cases hd : ∃ d ∈ l.take n, d.key = key
  · obtain ⟨f, hf, hkey⟩ := hmarks hd
    obtain ⟨hn, rfl⟩ := List.getElem?_eq_some_iff.1 hf
    rw [List.drop_eq_getElem_cons hn]
    exact ⟨l[n].discontinuous, List.find?_cons_of_pos (decide_eq_true hkey),
      l[n].isDiscontinuous_discontinuous⟩
  · obtain ⟨f, hfind, hf⟩ := h.resolve_right hd
    have hnone : (l.take n).find? (fun f => f.key = key) = none :=
      List.find?_eq_none.2 fun d hmem => by simpa using fun heq => hd ⟨d, hmem, heq⟩
    rw [← List.take_append_drop n l, List.find?_append, hnone, Option.none_or] at hfind
    exact Owed.markHead ⟨f, hfind, hf⟩

section
variable {s s₁ s₂ s₃ s₄ : Subscription} {t t₁ t₂ : List Event} {e : Event}
  {thread thread' : ThreadId} {options : MediaSubscriptionOptions} {key : StreamKey}

/-- A published frame, with the gaps of it and of the frames before. -/
theorem Owed.publish {c : Core} {frame : MediaFrame} {queued : List Item}
    (h : Core.Limited { c with items := c.items ++ [{ body := .frame frame }] }
      (c.publishFrame thread frame).core (c.overflow frame))
    (hmarks : c.MarksGap key (.entered thread (.publishFrame frame) queued))
    (ho : Owed key (frames c.items) ∨ ∃ d ∈ c.droppedBy frame, d.key = key) :
    Owed key (frames (c.publishFrame thread frame).core.items) := by
  have hframes := h.frames
  rw [frames_append] at hframes
  have ho' : Owed key (frames c.items ++ [frame]) ∨ ∃ d ∈ c.droppedBy frame, d.key = key :=
    ho.imp_left fun ⟨f, hfind, hf⟩ => ⟨f, by rw [List.find?_append, hfind]; rfl, hf⟩
  rw [hframes]
  split_ifs with hk
  · refine ho'.resolve_right fun ⟨d, hd, _⟩ => ?_
    rw [Core.droppedBy, hk] at hd
    cases hd
  · exact Owed.drop ho' hmarks

/-- **A step that can mark the gap** of a stream keeps it owed, until a frame of the stream is
    delivered. -/
theorem Owed.step {c c' : Core} (h : QueueStep c e c') (hmarks : c.MarksGap key e)
    (hnot : ∀ f ∈ frames (startedItems [e]), f.key ≠ key) (ho : Owed key (frames c.items)) :
    Owed key (frames c'.items) := by
  cases h with
  | append hs hl hq =>
    have hnil := frames_eq_nil fun i hi => Item.not_isFrame_of_isStreamEvent (hl i hi)
    rwa [hq, frames_append, hnil, List.append_nil]
  | publish h => exact Owed.publish h hmarks (.inl ho)
  | @take thread item _ hq =>
    obtain ⟨f, hfind, hf⟩ := ho
    refine ⟨f, ?_, hf⟩
    have hnone : (frames [item]).find? (fun f => f.key = key) = none :=
      List.find?_eq_none.2 fun f hf => by simpa using hnot f hf
    rwa [hq, ← List.singleton_append, frames_append, List.find?_append, hnone,
      Option.none_or] at hfind

/-- The termination leaves no frame in the queue. -/
theorem terminal_frames {c c' : Core} (h : Effect c e c') (hf : FlagInv c)
    (hc : c.terminalEnqueued = true → frames c.items = [])
    (he : c'.terminalEnqueued = true) : frames c'.items = [] := by
  cases hbefore : c.terminalEnqueued with
  | true =>
    refine frames_eq_nil fun i hi => ?_
    by_contra hframe
    obtain ⟨f, hf, -⟩ := Item.frame_of_isFrame (eq_true_of_ne_false hframe)
    have hmem : f ∈ frames c.items :=
      List.mem_filterMap.2 ⟨i, h.items_subset ‹_› hbefore i hi, hf⟩
    rw [hc hbefore] at hmem
    cases hmem
  | false =>
    have hsame (heq : c'.terminalEnqueued = c.terminalEnqueued) : frames c'.items = [] :=
      absurd (heq.symm.trans he) (by simp [hbefore])
    cases h with
    | idle _ h => exact hsame h.terminalEnqueued
    | publish _ hp => exact hsame hp.same.terminalEnqueued
    | take => exact hsame (c.takeFront_same ..).terminalEnqueued
    | finish h => exact hsame h.terminalEnqueued
    | @terminate thread closeStreams _ _ _ _ _ _ _ _ hq =>
      rcases hq with ⟨-, hnil, -⟩ | ⟨-, hitems, -⟩
      · rw [hnil]
        rfl
      · refine frames_eq_nil fun i hi => ?_
        have hbody : i.body ∈ c.terminalBodies closeStreams := by
          rw [← bodies_prepareTerminal c thread closeStreams]
          rw [hitems] at hi
          exact List.mem_map_of_mem hi
        obtain ⟨body, owner, completion⟩ := i
        cases body with
        | streamEvent | deliveryEvent => rfl
        | frame => cases closeStreams <;> simp [Core.terminalBodies] at hbody

theorem run_terminal_frames (h : Run SubscriptionStep (Subscription.start options) t s) :
    Inv s ∧ (s.core.terminalEnqueued = true → frames s.core.items = []) := by
  refine h.inv (I := fun _ s => Inv s ∧ (s.core.terminalEnqueued = true →
    frames s.core.items = [])) ⟨start_inv options, fun _ => rfl⟩ ?_
  rintro t s e s' ⟨hi, hc⟩ hs
  exact ⟨hs.inv hi, terminal_frames (hs.effect hi) hi.flags hc⟩

/-- A gap stays owed along a run that can mark it. -/
theorem Owed.run (hasync : options.dispatch = .asyncQueued)
    (h₁ : Run SubscriptionStep (Subscription.start options) t₁ s₁)
    (h : Run (fun s e s' => SubscriptionStep s e s' ∧ s.core.MarksGap key e) s₁ t s)
    (hnot : ∀ f ∈ frames (startedItems t), f.key ≠ key)
    (ho : s₁.core.terminalEnqueued = false → Owed key (frames s₁.core.items)) :
    s.core.terminalEnqueued = false → Owed key (frames s.core.items) := by
  induction h with
  | nil => exact ho
  | @snoc t e s s' h hs ih =>
    intro he
    obtain ⟨hs, hmarks⟩ := hs
    rw [startedItems_concat, frames_append, List.forall_mem_append] at hnot
    obtain ⟨hi, ha⟩ := run_accounts hasync (h₁.trans (h.mono fun h => h.1))
    have hbefore := (hs.effect hi).terminalEnqueued_eq_false he
    exact Owed.step ((ha hbefore).queueStep hs hi hasync he) hmarks hnot.2 (ih hnot.1 hbefore)

/-- **The gap of a stream is marked** where it can be: if a call drops a frame of the stream, and
    in this call and the later ones the oldest frame that stays is one of the stream whenever
    frames of the stream go, then the next frame of the stream that is delivered has the flag
    `Discontinuity`.  What happens to other streams does not matter. -/
theorem gaps_marked (hasync : options.dispatch = .asyncQueued) {frame d f : MediaFrame}
    {queued : List Item} {item : Item}
    (h₁ : Run SubscriptionStep (Subscription.start options) t₁ s₁)
    (hdrop : SubscriptionStep s₁ (.entered thread (.publishFrame frame) queued) s₂)
    (hd : d ∈ s₁.core.droppedBy frame)
    (hmarks : s₁.core.MarksGap d.key (.entered thread (.publishFrame frame) queued))
    (h₂ : Run (fun s e s' => SubscriptionStep s e s' ∧ s.core.MarksGap d.key e) s₂ t₂ s₃)
    (hnot : ∀ f ∈ frames (startedItems t₂), f.key ≠ d.key)
    (hstart : SubscriptionStep s₃ (.started thread' item) s₄) (hf : item.frame = some f)
    (hkey : f.key = d.key) : f.isDiscontinuous = true := by
  have hrun := (h₁.snoc hdrop).trans (h₂.mono fun h => h.1)
  obtain ⟨hi, hterm⟩ := run_terminal_frames hrun
  -- the frame that is delivered is the first of the queue
  obtain ⟨rest, hitems⟩ : ∃ rest, s₃.core.items = item :: rest := by
    have heffect := hstart.effect hi
    generalize s₄.core = c at heffect
    cases heffect with
    | idle _ _ hs => exact absurd rfl (hs _ _)
    | take hq => exact ⟨_, hq⟩
  have hfirst : frames s₃.core.items = f :: frames rest := by
    rw [hitems, frames_cons, hf]
    rfl
  have hopen : s₃.core.terminalEnqueued = false := by
    by_contra hne
    rw [hterm (eq_true_of_ne_false hne)] at hfirst
    cases hfirst
  -- the gap is owed after the drop
  have howed : s₂.core.terminalEnqueued = false → Owed d.key (frames s₂.core.items) := by
    intro he
    obtain ⟨hi₁, ha⟩ := run_accounts hasync h₁
    have ha := ha ((hdrop.effect hi₁).terminalEnqueued_eq_false he)
    have hm : s₁.core.isDirect = false := by
      rw [Core.isDirect, ha.options, hasync]
      rfl
    cases hdrop with
    | enter =>
      rw [Subscription.enter, entered_core]
      rcases ha.publishFrame_limited hm thread frame with ⟨hzero, -⟩ | hlimited
      · rw [Core.droppedBy, hzero] at hd
        cases hd
      · exact Owed.publish hlimited hmarks (.inr ⟨d, hd, rfl⟩)
  obtain ⟨g, hfind, hg⟩ := Owed.run hasync (h₁.snoc hdrop) h₂ hnot howed hopen
  have hfind' : (frames s₃.core.items).find? (fun f => f.key = d.key) = some f := by
    rw [hfirst]
    exact List.find?_cons_of_pos (decide_eq_true hkey)
  rw [hfind'] at hfind
  cases hfind
  exact hg

/-- Two streams and a queue of two frames. -/
def twoStreams : Subscription :=
  [Call.primeStreamEvent { descriptor := { key := ⟨"s", 7, 1⟩, deviceId := "d" } },
    .primeStreamEvent { descriptor := { key := ⟨"s", 8, 1⟩, deviceId := "d" } }, .activate].foldl
    (fun s call => (s.enter (.client 0) call).setThread (.client 0)
      (s.enter (.client 0) call).core []) (Subscription.start { dispatch := .asyncQueued })

theorem twoStreams_run : ∃ t,
    Run SubscriptionStep (Subscription.start { dispatch := .asyncQueued }) t twoStreams :=
  ⟨_, run_call (run_call (run_call .nil 0 _ rfl rfl) 0 _ rfl rfl) 0 _ rfl rfl⟩

/-- The drop of a frame of stream 7 is marked on a frame of stream 8: the next frame of
    stream 7 is delivered without the flag. -/
theorem gap_marked_on_other_stream :
    ∃ t₁ s₁ s₂ t₂ s₃ s₄ queued item, ∃ d f : MediaFrame,
      Run SubscriptionStep (Subscription.start { dispatch := .asyncQueued, maxFrames := 2 }) t₁
        s₁ ∧
      SubscriptionStep s₁ (.entered (.client 0) (.publishFrame (gapFrame 7 [3])) queued) s₂ ∧
      s₁.core.droppedBy (gapFrame 7 [3]) = [d] ∧ d = gapFrame 7 [1] ∧
      Run SubscriptionStep s₂ t₂ s₃ ∧ (∀ f ∈ frames (startedItems t₂), f.key ≠ d.key) ∧
      s₃.core.activeStreams.openKeys 7 = some d.key ∧
      SubscriptionStep s₃ (.started (.worker 0) item) s₄ ∧ item.frame = some f ∧
      f.key = d.key ∧ f.isDiscontinuous = false := by
  obtain ⟨t, h⟩ := twoStreams_run
  have h := run_call h 0 (.publishFrame (gapFrame 7 [1])) rfl rfl
  have h := run_call h 0 (.publishFrame (gapFrame 8 [2])) rfl rfl
  -- the worker delivers the two stream events, the drop event and the frame of stream 8
  exact ⟨_, _, _, _, _, _, _, _, gapFrame 7 [1], gapFrame 7 [3], h, .enter _ (.client 0) _ rfl,
    rfl, rfl, run_deliver (run_deliver (run_deliver (run_deliver .nil 0 rfl rfl) 0 rfl rfl) 0
      rfl rfl) 0 rfl rfl,
    by decide, by decide, @SubscriptionStep.runTake _ (.worker 0) _ _ _ rfl rfl, rfl, rfl, rfl⟩

/-- The queue has two frames of stream 7 when one of stream 8 is published: the frame behind the
    gap is the oldest, and is flagged. -/
theorem gaps_marked_two_streams :
    ∃ t₁ s₁ s₂ t₂ s₃ s₄ queued item, ∃ f : MediaFrame,
      Run SubscriptionStep (Subscription.start { dispatch := .asyncQueued, maxFrames := 2 }) t₁
        s₁ ∧
      SubscriptionStep s₁ (.entered (.client 0) (.publishFrame (gapFrame 8 [3])) queued) s₂ ∧
      s₁.core.droppedBy (gapFrame 8 [3]) = [gapFrame 7 [1]] ∧
      Run SubscriptionStep s₂ t₂ s₃ ∧
      SubscriptionStep s₃ (.started (.worker 0) item) s₄ ∧ item.frame = some f ∧
      f.key = (gapFrame 7 [1]).key ∧ f.payload = [2] ∧ f.isDiscontinuous = true := by
  obtain ⟨t, h⟩ := twoStreams_run
  have h := run_call h 0 (.publishFrame (gapFrame 7 [1])) rfl rfl
  have h := run_call h 0 (.publishFrame (gapFrame 7 [2])) rfl rfl
  have h₂ := (h.snoc (.enter _ (.client 0) (.publishFrame (gapFrame 8 [3])) rfl)).onward
  have h₂ := run_deliver (run_deliver (run_deliver h₂ 0 rfl rfl) 0 rfl rfl) 0 rfl rfl
  refine ⟨_, _, _, _, _, _, _, _, gapFrame 7 [2] |>.discontinuous, h, .enter _ _ _ rfl, rfl, h₂,
    @SubscriptionStep.runTake _ (.worker 0) _ _ _ rfl rfl, rfl, rfl, rfl, ?_⟩
  refine gaps_marked rfl h (.enter _ _ _ rfl) (d := gapFrame 7 [1]) (List.mem_singleton_self _)
    (fun _ => ⟨gapFrame 7 [2], rfl, rfl⟩) (h₂.mono_on fun e he s s' hs => ⟨hs, ?_⟩) (by decide)
    (@SubscriptionStep.runTake _ (.worker 0) _ _ _ rfl rfl) rfl rfl
  simp only [List.mem_append, List.mem_singleton, List.not_mem_nil, false_or] at he
  rcases he with (((((rfl | rfl) | rfl) | rfl) | rfl) | rfl) <;> trivial

end

end MediaStream

end Axent
