/-
  Frame accounting of an asynchronous media stream subscription
  (`MediaStreamSubscriptionState`).

  The counters `queued_frames_` and `queued_bytes_` stand beside a queue that
  mixes frames with events, and from whose middle frames are dropped.
  `Core.Counts` says that they agree with the queue.  What the queue loses is
  said by `Thins`: frames, which are counted as dropped, while the others keep
  their order and all stream events stay.  Every section keeps the counters and
  thins at most (`limitQueue_thins`); a step moves frames from the queue to the
  callback and from there to `delivered_frames` (`AccountInv.step`).
-/
import Mathlib.Data.List.TakeWhile
import Axent.MediaStreamBarrier

namespace Axent.MediaStream

open Lib

/-! ## The frames and the stream events of a queue -/

def Item.frame (i : Item) : Option MediaFrame :=
  match i.body with
  | .frame f => some f
  | _ => none

def Item.streamEvent (i : Item) : Option MediaStreamEvent :=
  match i.body with
  | .streamEvent e => some e
  | _ => none

def frames (l : List Item) : List MediaFrame := l.filterMap Item.frame

def streamEvents (l : List Item) : List MediaStreamEvent := l.filterMap Item.streamEvent

/-- The payload of frames. -/
def payloadBytes (l : List MediaFrame) : ℕ := (l.map fun f => f.payload.length).sum

@[simp] theorem frames_append (l l' : List Item) : frames (l ++ l') = frames l ++ frames l' :=
  List.filterMap_append

@[simp] theorem streamEvents_append (l l' : List Item) :
    streamEvents (l ++ l') = streamEvents l ++ streamEvents l' := List.filterMap_append

theorem frames_cons (i : Item) (l : List Item) : frames (i :: l) = i.frame.toList ++ frames l := by
  unfold frames
  cases h : i.frame <;> simp [h]

theorem streamEvents_cons (i : Item) (l : List Item) :
    streamEvents (i :: l) = i.streamEvent.toList ++ streamEvents l := by
  unfold streamEvents
  cases h : i.streamEvent <;> simp [h]

theorem Item.frame_of_isFrame {i : Item} (h : i.isFrame = true) :
    ∃ f, i.frame = some f ∧ i.streamEvent = none ∧ i.bytes = f.payload.length := by
  match i, h with
  | ⟨.frame f, _, _⟩, _ => exact ⟨f, rfl, rfl, rfl⟩

theorem Item.frame_of_not_isFrame {i : Item} (h : i.isFrame = false) : i.frame = none := by
  obtain ⟨body, owner, completion⟩ := i
  cases body with
  | frame f => cases h
  | streamEvent | deliveryEvent => rfl

theorem frames_eq_nil {l : List Item} (h : ∀ i ∈ l, i.isFrame = false) : frames l = [] := by
  unfold frames
  rw [List.filterMap_eq_nil_iff]
  exact fun i hi => Item.frame_of_not_isFrame (h i hi)

theorem frames_takeWhile (l : List Item) : frames (l.takeWhile (!·.isFrame)) = [] :=
  frames_eq_nil fun i hi => by simpa using List.mem_takeWhile_imp hi

theorem payloadBytes_eq_weight (l : List MediaFrame) :
    payloadBytes l = frameMarking.weight l := rfl

theorem exists_first_frame {l : List Item} {f : MediaFrame} {fs : List MediaFrame}
    (h : frames l = f :: fs) :
    ∃ i rest, l.dropWhile (!·.isFrame) = i :: rest ∧ l = l.takeWhile (!·.isFrame) ++ i :: rest ∧
      i.isFrame = true ∧ i.frame = some f ∧ i.bytes = f.payload.length ∧ frames rest = fs := by
  have hsplit := List.takeWhile_append_dropWhile (p := (!·.isFrame)) (l := l)
  cases hdrop : l.dropWhile (!·.isFrame) with
  | nil =>
    rw [hdrop, List.append_nil] at hsplit
    rw [← hsplit, frames_takeWhile] at h
    cases h
  | cons i rest =>
    have hframe := isFrame_of_dropWhile hdrop
    obtain ⟨f', hf', -, hbytes⟩ := Item.frame_of_isFrame hframe
    rw [← hsplit, hdrop, frames_append, frames_takeWhile, frames_cons, hf'] at h
    cases h
    exact ⟨i, rest, rfl, by rw [← hdrop, hsplit], hframe, hf', hbytes, rfl⟩

theorem filterMap_others {β : Type} {g : Item → Option β}
    (hg : ∀ i, i.isFrame = true → g i = none) (l : List Item) :
    (l.filter (!·.isFrame)).filterMap g = l.filterMap g := by
  rw [List.filterMap_filter]
  refine List.filterMap_congr fun i _ => ?_
  cases hi : i.isFrame with
  | false => simp
  | true => simp [hg i hi]

/-! ## Thinning -/

/-- `l'` is `l`, with some frames left out and others marked. -/
def Thinned (l l' : List MediaFrame) : Prop :=
  List.SublistForall₂ (fun f' f => MediaFrame.Marked f f') l' l

namespace Thinned
variable {l l' l'' : List MediaFrame}

theorem of_forall₂ (h : List.Forall₂ (fun f' f => MediaFrame.Marked f f') l' l) : Thinned l l' :=
  List.sublistForall₂_iff.2 ⟨l, h, List.Sublist.refl l⟩

theorem of_sublist (h : l'.Sublist l) : Thinned l l' :=
  List.sublistForall₂_iff.2 ⟨l', List.forall₂_same.2 fun _ _ => .inl rfl, h⟩

theorem refl (l : List MediaFrame) : Thinned l l := of_sublist (List.Sublist.refl l)

theorem trans (h : Thinned l l') (h' : Thinned l' l'') : Thinned l l'' := by
  have : IsTrans MediaFrame fun f' f => MediaFrame.Marked f f' :=
    ⟨fun _ _ _ h h' => h'.trans h⟩
  exact List.SublistForall₂.is_trans.trans _ _ _ h' h

theorem append {k k' : List MediaFrame} (h : Thinned l l') (hk : Thinned k k') :
    Thinned (l ++ k) (l' ++ k') := by
  obtain ⟨l₀, hl, hsub⟩ := List.sublistForall₂_iff.1 h
  obtain ⟨k₀, hk, hsub'⟩ := List.sublistForall₂_iff.1 hk
  exact List.sublistForall₂_iff.2 ⟨l₀ ++ k₀, List.rel_append hl hk, hsub.append hsub'⟩

end Thinned

namespace Core

/-- The counters agree with the queue. -/
structure Counts (c : Core) : Prop where
  frames : c.queuedFrames = (frames c.items).length
  bytes : c.queuedBytes = payloadBytes (MediaStream.frames c.items)

/-- `c'` is `c` after frames were dropped from the queue. -/
structure Thins (c c' : Core) : Prop where
  options : c'.options = c.options
  received : c'.stats.receivedFrames = c.stats.receivedFrames
  delivered : c'.stats.deliveredFrames = c.stats.deliveredFrames
  dropped : c'.stats.droppedFrames + c'.queuedFrames = c.stats.droppedFrames + c.queuedFrames
  frames : Thinned (frames c.items) (MediaStream.frames c'.items)
  events : streamEvents c'.items = streamEvents c.items

variable {c c' c'' : Core}

theorem Thins.refl (c : Core) : Thins c c := ⟨rfl, rfl, rfl, rfl, .refl _, rfl⟩

theorem Thins.trans (h : Thins c c') (h' : Thins c' c'') : Thins c c'' where
  options := h'.options.trans h.options
  received := h'.received.trans h.received
  delivered := h'.delivered.trans h.delivered
  dropped := h'.dropped.trans h.dropped
  frames := h.frames.trans h'.frames
  events := h'.events.trans h.events

/-- A section that only marks frames or moves delivery events. -/
theorem Thins.of_same (ho : c'.options = c.options) (hs : c'.stats = c.stats)
    (hq : c'.queuedFrames = c.queuedFrames)
    (hf : List.Forall₂ (fun f' f => MediaFrame.Marked f f') (MediaStream.frames c'.items)
      (MediaStream.frames c.items))
    (he : streamEvents c'.items = streamEvents c.items) : Thins c c' :=
  ⟨ho, by rw [hs], by rw [hs], by rw [hs, hq], .of_forall₂ hf, he⟩

theorem overLimit_eq_false : c.overLimit = false ↔
    (c.options.maxFrames = 0 ∨ c.queuedFrames ≤ c.options.maxFrames) ∧
      (c.options.maxBytes = 0 ∨ c.queuedBytes ≤ c.options.maxBytes) := by
  unfold overLimit
  rw [decide_eq_false_iff_not]
  omega

/-! ### Dropping -/

theorem Counts.overLimit_iff (h : c.Counts) :
    c.overLimit = true ↔ c.options.limits.Exceeded frameMarking (MediaStream.frames c.items) := by
  simp [overLimit, Limits.Exceeded, MediaSubscriptionOptions.limits, h.frames, h.bytes,
    payloadBytes_eq_weight]

/-- The `k` oldest frames were dropped, and nothing else. -/
structure Drops (c c' : Core) (k : ℕ) : Prop where
  frames : frames c'.items = (MediaStream.frames c.items).drop k
  sublist : c'.items.Sublist c.items
  others : c'.items.filter (!·.isFrame) = c.items.filter (!·.isFrame)
  droppedFrames : c'.stats.droppedFrames = c.stats.droppedFrames + k
  droppedBytes : c'.stats.droppedBytes =
    c.stats.droppedBytes + frameMarking.weight ((MediaStream.frames c.items).take k)
  options : c'.options = c.options

theorem Drops.zero (c : Core) : Drops c c 0 := ⟨rfl, .refl _, rfl, rfl, rfl, rfl⟩

/-- The counters go with the queue, and nothing is received or delivered. -/
structure Recounts (c c' : Core) : Prop where
  counts : c'.Counts
  received : c'.stats.receivedFrames = c.stats.receivedFrames
  delivered : c'.stats.deliveredFrames = c.stats.deliveredFrames

theorem dropOldestFrame_drops {f : MediaFrame} {fs : List MediaFrame} (hc : c.Counts)
    (h : MediaStream.frames c.items = f :: fs) :
    Drops c c.dropOldestFrame 1 ∧ Recounts c c.dropOldestFrame := by
  obtain ⟨i, rest, hdrop, hsplit, hframe, -, hbytes, hfs⟩ := exists_first_frame h
  have heq : c.dropOldestFrame =
      { c with
        items := c.items.takeWhile (!·.isFrame) ++ rest
        queuedBytes := c.queuedBytes - i.bytes
        queuedFrames := c.queuedFrames - 1
        stats := { c.stats with
          droppedFrames := c.stats.droppedFrames + 1
          droppedBytes := c.stats.droppedBytes + i.bytes } } := by
    simp only [dropOldestFrame, hdrop]
  have hframes : MediaStream.frames (c.items.takeWhile (!·.isFrame) ++ rest) = fs := by
    rw [frames_append, frames_takeWhile, hfs, List.nil_append]
  rw [heq]
  refine ⟨⟨hframes.trans (by rw [h]; rfl), ?_, ?_, rfl, ?_, rfl⟩, ⟨?_, ?_⟩, rfl, rfl⟩
  · conv_rhs => rw [hsplit]
    exact (List.Sublist.refl _).append (List.sublist_cons_self ..)
  · conv_rhs => rw [hsplit]
    simp [List.filter_append, hframe]
  · simp [h, hbytes]
  · simp [hframes, hc.frames, h]
  · simp [hframes, hc.bytes, h, hbytes, payloadBytes]

/-- **The loop of `publish_frame`** drops as many frames as have to go. -/
theorem dropFrames_drops (n : ℕ) (c : Core) (h : c.Counts) (hn : c.queuedFrames ≤ n) :
    Drops c (c.dropFrames n).1 (c.options.limits.overflow frameMarking (MediaStream.frames c.items))
      ∧ (c.dropFrames n).2 =
        decide (c.options.limits.overflow frameMarking (MediaStream.frames c.items) ≠ 0)
      ∧ Recounts c (c.dropFrames n).1 := by
  induction n generalizing c with
  | zero =>
    have hnil : MediaStream.frames c.items = [] :=
      List.eq_nil_of_length_eq_zero (h.frames ▸ Nat.le_zero.1 hn)
    rw [hnil]
    exact ⟨.zero c, rfl, h, rfl, rfl⟩
  | succ n ih =>
    by_cases hexceeded : c.options.limits.Exceeded frameMarking (MediaStream.frames c.items)
    · cases hframes : MediaStream.frames c.items with
      | nil => exact absurd (hframes ▸ hexceeded) Limits.not_exceeded_nil
      | cons f fs =>
        have hne : c.queuedFrames ≠ 0 := by simp [h.frames, hframes]
        obtain ⟨hfirst, hcounts, hreceived, hdelivered⟩ := dropOldestFrame_drops h hframes
        have hfs : MediaStream.frames c.dropOldestFrame.items = fs := by
          rw [hfirst.frames, hframes]
          rfl
        have hless : c.dropOldestFrame.queuedFrames ≤ n := by
          rw [h.frames, hframes, List.length_cons] at hn
          rw [hcounts.frames, hfs]
          omega
        obtain ⟨hrest, hflag, hcounts', hreceived', hdelivered'⟩ := ih _ hcounts hless
        rw [hfs, hfirst.options] at hrest
        rw [hframes] at hexceeded
        rw [dropFrames, if_pos ⟨h.overLimit_iff.2 (hframes ▸ hexceeded), hne⟩,
          Limits.overflow_cons hexceeded]
        refine ⟨⟨?_, hrest.sublist.trans hfirst.sublist, hrest.others.trans hfirst.others, ?_, ?_,
          hrest.options.trans hfirst.options⟩, by simp, hcounts', hreceived'.trans hreceived,
          hdelivered'.trans hdelivered⟩
        · rw [hrest.frames, hfs, hframes]
          rfl
        · rw [hrest.droppedFrames, hfirst.droppedFrames]
          omega
        · rw [hrest.droppedBytes, hfirst.droppedBytes, hfs, hframes]
          simp only [List.take_succ_cons, Marking.weight_cons, List.take_zero, Marking.weight_nil]
          omega
    · have hcond : ¬ (c.overLimit = true ∧ c.queuedFrames ≠ 0) := fun hc =>
        hexceeded (h.overLimit_iff.1 hc.1)
      rw [dropFrames, if_neg hcond, Limits.overflow_eq_zero hexceeded]
      exact ⟨.zero c, rfl, h, rfl, rfl⟩

/-- **The loop ends within the limits.** -/
theorem dropFrames_thins (h : c.Counts) :
    (c.dropFrames c.queuedFrames).1.Counts ∧ Thins c (c.dropFrames c.queuedFrames).1 ∧
      (c.dropFrames c.queuedFrames).1.overLimit = false := by
  obtain ⟨hdrops, -, hcounts, hreceived, hdelivered⟩ :=
    dropFrames_drops c.queuedFrames c h (Nat.le_refl _)
  have hle := c.options.limits.overflow_le (M := frameMarking) (MediaStream.frames c.items)
  have hevent (i : Item) (hi : i.isFrame = true) : i.streamEvent = none := by
    obtain ⟨f, -, hnone, -⟩ := Item.frame_of_isFrame hi
    exact hnone
  refine ⟨hcounts, ⟨hdrops.options, hreceived, hdelivered, ?_, ?_, ?_⟩, ?_⟩
  · rw [hdrops.droppedFrames, hcounts.frames, hdrops.frames, List.length_drop, h.frames]
    omega
  · rw [hdrops.frames]
    exact .of_sublist (List.drop_sublist ..)
  · rw [streamEvents, ← filterMap_others hevent, hdrops.others, filterMap_others hevent]
    rfl
  · rw [← Bool.not_eq_true, hcounts.overLimit_iff, hdrops.options, hdrops.frames]
    exact Limits.not_exceeded_overflow _

/-! ### Marking and reporting -/

theorem forall₂_marked_refl (l : List MediaFrame) :
    List.Forall₂ (fun f' f => MediaFrame.Marked f f') l l :=
  List.forall₂_same.2 fun _ _ => .inl rfl

theorem frames_updateFirst (l : List Item) :
    MediaStream.frames (updateFirst Item.isFrame Item.discontinuous l) =
      frameMarking.markHead (MediaStream.frames l) := by
  induction l with
  | nil => rfl
  | cons i l ih =>
    unfold updateFirst
    split
    · next hi =>
      obtain ⟨body, owner, completion⟩ := i
      cases body with
      | frame => rfl
      | streamEvent | deliveryEvent => cases hi
    · next hi =>
      have hnone := Item.frame_of_not_isFrame (eq_false_of_ne_true hi)
      rw [frames_cons, frames_cons, ih, hnone]
      rfl

theorem forall₂_markHead (l : List MediaFrame) :
    List.Forall₂ (fun f' f => MediaFrame.Marked f f') (frameMarking.markHead l) l := by
  cases l with
  | nil => exact .nil
  | cons f l => exact .cons (.inr rfl) (forall₂_marked_refl l)

theorem markNextFrameDiscontinuous_thins (h : c.Counts) :
    c.markNextFrameDiscontinuous.Counts ∧ Thins c c.markNextFrameDiscontinuous := by
  have hframes := frames_updateFirst c.items
  refine ⟨⟨?_, ?_⟩, .of_same rfl rfl rfl (hframes ▸ forall₂_markHead _) ?_⟩
  · exact h.frames.trans (by simp [markNextFrameDiscontinuous, hframes])
  · exact h.bytes.trans (by simp [markNextFrameDiscontinuous, hframes, payloadBytes_eq_weight])
  · exact filterMap_updateFirst _ (fun | ⟨.frame _, _, _⟩, _ => rfl) _

theorem enqueueDropEvent_same (c : Core) :
    MediaStream.frames c.enqueueDropEvent.items = MediaStream.frames c.items ∧
      streamEvents c.enqueueDropEvent.items = streamEvents c.items := by
  obtain ⟨a, old, i, b, hitems, hnew, hi, hold⟩ := c.enqueueDropEvent_split
  have hnone : MediaStream.frames old = [] ∧ streamEvents old = [] := by
    rcases hold with ⟨j, rfl, hj, -⟩ | ⟨rfl, -⟩
    · obtain ⟨e, he⟩ := Item.body_of_isDropped hj
      simp [MediaStream.frames, streamEvents, Item.frame, Item.streamEvent, he]
    · exact ⟨rfl, rfl⟩
  rw [hitems, hnew]
  simp [frames_cons, streamEvents_cons, hnone.1, hnone.2, Item.frame, Item.streamEvent, hi]

theorem enqueueDropEvent_counters (c : Core) :
    c.enqueueDropEvent.options = c.options ∧ c.enqueueDropEvent.stats = c.stats ∧
      c.enqueueDropEvent.queuedFrames = c.queuedFrames ∧
      c.enqueueDropEvent.queuedBytes = c.queuedBytes := by
  unfold enqueueDropEvent
  dsimp only
  split <;> exact ⟨rfl, rfl, rfl, rfl⟩

theorem enqueueDropEvent_thins (h : c.Counts) :
    c.enqueueDropEvent.Counts ∧ Thins c c.enqueueDropEvent := by
  obtain ⟨hf, he⟩ := c.enqueueDropEvent_same
  obtain ⟨ho, hs, hq, hb⟩ := c.enqueueDropEvent_counters
  refine ⟨⟨?_, ?_⟩, .of_same ho hs hq (hf ▸ forall₂_marked_refl _) he⟩
  · rw [hq, hf]; exact h.frames
  · rw [hb, hf]; exact h.bytes

/-- **A worker's queue is brought within its limits** by dropping frames
    only. -/
theorem limitQueue_thins (h : c.Counts) (hd : c.isDirect = false) :
    c.limitQueue.Counts ∧ Thins c c.limitQueue ∧ c.limitQueue.overLimit = false := by
  obtain ⟨hcounts, hthins, hlimit⟩ := dropFrames_thins h
  unfold limitQueue
  rw [if_neg (by simp [hd])]
  generalize c.dropFrames c.queuedFrames = dropped at *
  dsimp only
  split_ifs
  · obtain ⟨hmark, hmark'⟩ := markNextFrameDiscontinuous_thins hcounts
    obtain ⟨hevent, hevent'⟩ := enqueueDropEvent_thins hmark
    refine ⟨hevent, (hthins.trans hmark').trans hevent', ?_⟩
    obtain ⟨ho, -, hq, hb⟩ := dropped.1.markNextFrameDiscontinuous.enqueueDropEvent_counters
    rw [← hlimit, overLimit, ho, hq, hb]
    rfl
  · exact ⟨hcounts, hthins, hlimit⟩

/-! ### Publishing and delivering -/

/-- A publishing section of a worker's subscription. -/
theorem push_async (hd : c.isDirect = false) (thread : ThreadId) (priming : Bool)
    (bodies : List ItemBody) :
    c.push thread priming bodies =
      { core := { c with items := c.items ++ bodies.map fun b => { body := b } }
        queued := bodies.map fun b => { body := b } } := by
  unfold push
  rw [if_neg (by simp [hd])]

/-- `publish_stream_event` only appends stream events. -/
theorem publishStreamEvent_async (hd : c.isDirect = false) (thread : ThreadId) (priming : Bool)
    (event : MediaStreamEvent) :
    ∃ (events : List MediaStreamEvent) (active : StreamMap),
      (c.publishStreamEvent thread priming event).queued =
        events.map (fun e => { body := .streamEvent e }) ∧
      (c.publishStreamEvent thread priming event).core =
        { c with
          items := c.items ++ (c.publishStreamEvent thread priming event).queued
          activeStreams := active } := by
  unfold publishStreamEvent
  split_ifs
  · exact ⟨[], c.activeStreams, rfl, by simp⟩
  cases lifecycle c.activeStreams event with
  | none => exact ⟨[], c.activeStreams, rfl, by simp⟩
  | some r =>
    obtain ⟨events, active⟩ := r
    have hd' : ({ c with activeStreams := active } : Core).isDirect = false := hd
    dsimp only
    rw [push_async hd', List.map_map]
    exact ⟨events, active, rfl, rfl⟩

theorem frames_streamEvents (events : List MediaStreamEvent) :
    MediaStream.frames (events.map fun e => { body := .streamEvent e }) = [] :=
  frames_eq_nil fun i hi => by
    obtain ⟨e, -, rfl⟩ := List.mem_map.1 hi
    rfl

/-- `publish_frame` queues the frame. -/
def Accepts (c : Core) (frame : MediaFrame) : Prop :=
  c.accepting = true ∧ frame.generation ≠ 0 ∧
    c.activeStreams.openKeys frame.streamId = some frame.key

instance (c : Core) (frame : MediaFrame) : Decidable (c.Accepts frame) :=
  inferInstanceAs (Decidable (_ ∧ _))

/-- What an accepted frame does: it is counted and queued, and then the queue
    is limited. -/
theorem publishFrame_async (hd : c.isDirect = false) (thread : ThreadId) (frame : MediaFrame) :
    ¬ c.Accepts frame ∧ c.publishFrame thread frame = { core := c } ∨
      c.Accepts frame ∧ (c.publishFrame thread frame).queued = [{ body := .frame frame }] ∧
        (c.publishFrame thread frame).core =
          ({ c.countFrame frame with
              items := c.items ++ [{ body := .frame frame }] } : Core).limitQueue.refreshStats := by
  have hd' : (c.countFrame frame).isDirect = false := hd
  unfold publishFrame Accepts
  split_ifs with hrefuse
  · exact .inl ⟨by simpa [or_iff_not_imp_left] using hrefuse, rfl⟩
  · right
    rw [push_async hd']
    exact ⟨by simpa using hrefuse, rfl, rfl⟩

theorem Counts.countFrame (h : c.Counts) (frame : MediaFrame) :
    ({ c.countFrame frame with items := c.items ++ [{ body := .frame frame }] } : Core).Counts where
  frames := by
    have := h.frames
    simp only [Core.countFrame, frames_append, List.length_append]
    rw [this]
    rfl
  bytes := by
    have := h.bytes
    simp only [Core.countFrame, frames_append, payloadBytes, List.map_append, List.sum_append]
    rw [this]
    rfl

theorem Counts.takeFront (h : c.Counts) (hl : c.overLimit = false) {item : Item}
    {rest : List Item} (hq : c.items = item :: rest) (thread : ThreadId) :
    (c.takeFront thread item rest).Counts ∧ (c.takeFront thread item rest).overLimit = false ∧
      (c.takeFront thread item rest).queuedFrames + item.frame.toList.length = c.queuedFrames ∧
      (c.takeFront thread item rest).stats.receivedFrames = c.stats.receivedFrames ∧
      (c.takeFront thread item rest).stats.deliveredFrames = c.stats.deliveredFrames ∧
      (c.takeFront thread item rest).stats.droppedFrames = c.stats.droppedFrames := by
  have hframes := h.frames
  have hbytes := h.bytes
  rw [hq, frames_cons] at hframes hbytes
  unfold Core.takeFront pop
  dsimp only
  split_ifs with hf
  · obtain ⟨f, hfr, -, hb⟩ := Item.frame_of_isFrame hf
    rw [hfr] at hframes hbytes
    simp only [Option.toList_some, List.cons_append, List.nil_append, List.length_cons,
      payloadBytes, List.map_cons, List.sum_cons] at hframes hbytes
    rw [overLimit_eq_false] at hl
    refine ⟨⟨?_, ?_⟩, overLimit_eq_false.2 ?_, ?_, rfl, rfl, rfl⟩
    · simp only [refreshStats, hframes, Nat.add_sub_cancel]
    · simp only [refreshStats, hbytes, hb, payloadBytes, Nat.add_sub_cancel_left]
    · simp only [refreshStats]
      omega
    · simp only [refreshStats, hfr, Option.toList_some, List.length_singleton]
      omega
  · rw [Item.frame_of_not_isFrame (eq_false_of_ne_true hf)] at hframes hbytes ⊢
    exact ⟨⟨hframes, hbytes⟩, hl, rfl, rfl, rfl, rfl⟩

end Core

/-! ## Runs -/

/-- The items whose callbacks run, on the thread that delivers. -/
def Subscription.dispatching (s : Subscription) : List Item :=
  match s.core.deliveryThread with
  | some thread => stackItems (s.threads thread)
  | none => []

/-- `stats`. -/
def Core.currentStats (c : Core) : MediaDeliveryStats :=
  { c.stats with queuedFrames := c.queuedFrames, queuedBytes := c.queuedBytes }

/-- The accounts of a subscription with `options`, after the trace `t`. -/
structure AccountInv (options : MediaSubscriptionOptions) (t : List Event) (s : Subscription) :
    Prop where
  options : s.core.options = options
  counts : s.core.Counts
  limit : s.core.overLimit = false
  received : s.core.stats.receivedFrames =
    s.core.stats.deliveredFrames + s.core.stats.droppedFrames + s.core.queuedFrames +
      (frames s.dispatching).length
  accepted : s.core.stats.receivedFrames = (frames (queuedItems t)).length
  started : s.core.stats.deliveredFrames + (frames s.dispatching).length =
    (frames (startedItems t)).length
  order : Thinned (frames (queuedItems t)) (frames (startedItems t) ++ frames s.core.items)
  events : streamEvents (startedItems t) ++ streamEvents s.core.items =
    streamEvents (queuedItems t)

section
variable {s s' : Subscription} {t : List Event} {e : Event} {thread : ThreadId} {core : Core}
  {stack : List Activation} {options : MediaSubscriptionOptions}

theorem dispatching_setThread (hc : core.deliveryThread = s.core.deliveryThread)
    (hs : stackItems stack = stackItems (s.threads thread)) :
    (s.setThread thread core stack).dispatching = s.dispatching := by
  unfold Subscription.dispatching
  rw [setThread_core, hc]
  cases s.core.deliveryThread with
  | none => rfl
  | some thread' =>
    rcases eq_or_ne thread' thread with rfl | hne
    · simp only [setThread_self, hs]
    · simp only [setThread_of_ne hne]

/-- Items are queued behind the others, and the frames among them counted. -/
structure Core.Queues (c : Core) (queued : List Item) (c' : Core) : Prop where
  options : c'.options = c.options
  received : c'.stats.receivedFrames = c.stats.receivedFrames + (frames queued).length
  delivered : c'.stats.deliveredFrames = c.stats.deliveredFrames
  dropped : c'.stats.droppedFrames = c.stats.droppedFrames
  count : c'.queuedFrames = c.queuedFrames + (frames queued).length
  items : c'.items = c.items ++ queued

theorem Core.Queues.refl (c : Core) : c.Queues [] c :=
  ⟨rfl, rfl, rfl, rfl, rfl, (List.append_nil _).symm⟩

/-- A step that starts and ends no callback: it queues items, and thins the queue. -/
theorem AccountInv.queue (ha : AccountInv options t s) (hs : startedItems [e] = [])
    (hq : s.core.Queues e.queued core) (hthins : core.Thins s'.core) (hcounts : s'.core.Counts)
    (hlimit : s'.core.overLimit = false) (hd : s'.dispatching = s.dispatching) :
    AccountInv options (t ++ [e]) s' := by
  have hstarted : startedItems (t ++ [e]) = startedItems t := by
    rw [startedItems_concat, hs, List.append_nil]
  have hframes := hthins.frames
  have hevents := hthins.events
  rw [hq.items, frames_append] at hframes
  rw [hq.items, streamEvents_append] at hevents
  refine ⟨hthins.options.trans (hq.options.trans ha.options), hcounts, hlimit, ?_, ?_, ?_, ?_, ?_⟩
  · have htotal := ha.received
    have hdropped := hthins.dropped
    rw [hq.dropped, hq.count] at hdropped
    rw [hd, hthins.received, hthins.delivered, hq.received, hq.delivered]
    omega
  · rw [hthins.received, hq.received, queuedItems_concat, frames_append, List.length_append,
      ha.accepted]
  · rw [hd, hthins.delivered, hq.delivered, hstarted]
    exact ha.started
  · rw [queuedItems_concat, hstarted, frames_append]
    refine (ha.order.append (.refl (frames e.queued))).trans ?_
    rw [List.append_assoc]
    exact (Thinned.refl _).append hframes
  · rw [queuedItems_concat, hstarted, streamEvents_append, ← ha.events, List.append_assoc, hevents]

/-- The thread of a call that has entered runs no other callback than
    before. -/
theorem dispatching_enter (thread : ThreadId) (call : Call) {p : Core.Published}
    (hsame : Core.SameFlags s.core p.core) :
    (s.entered thread (Core.Published.entered p call)).dispatching = s.dispatching := by
  rw [entered_of_eq hsame.workers]
  refine dispatching_setThread hsame.deliveryThread (stackItems_cons ?_)
  unfold Core.Published.entered
  dsimp only
  cases p.completion <;> rfl

theorem AccountInv.publishStreamEvent (ha : AccountInv options t s) (hm : s.core.isDirect = false)
    (call : Call) (priming : Bool) (event : MediaStreamEvent) :
    AccountInv options
      (t ++ [.entered thread call (s.core.publishStreamEvent thread priming event).queued])
      (s.entered thread
        (Core.Published.entered (s.core.publishStreamEvent thread priming event) call)) := by
  obtain ⟨events, active, hqueued, hcore⟩ :=
    Core.publishStreamEvent_async hm thread priming event
  have hd := dispatching_enter thread call
    (s.core.publishStreamEvent_spec thread priming event).same
  have hcore' := (entered_core s thread
    (Core.Published.entered (s.core.publishStreamEvent thread priming event) call)).trans hcore
  generalize s.entered thread
    (Core.Published.entered (s.core.publishStreamEvent thread priming event) call) = s'
    at hd hcore' ⊢
  generalize s.core.publishStreamEvent thread priming event = p at *
  have hnil : frames p.queued = [] := by rw [hqueued, Core.frames_streamEvents]
  have hframes : frames (s.core.items ++ p.queued) = frames s.core.items := by
    rw [frames_append, hnil, List.append_nil]
  refine ha.queue rfl ?_ (.refl _) ?_ ?_ hd <;> rw [hcore']
  · exact ⟨rfl, by simp [Event.queued, hnil], rfl, rfl, by simp [Event.queued, hnil], rfl⟩
  · exact ⟨hframes ▸ ha.counts.frames, hframes ▸ ha.counts.bytes⟩
  · exact ha.limit

theorem AccountInv.publishFrame (ha : AccountInv options t s) (hm : s.core.isDirect = false)
    (frame : MediaFrame) :
    AccountInv options
      (t ++ [.entered thread (.publishFrame frame) (s.core.publishFrame thread frame).queued])
      (s.entered thread
        (Core.Published.entered (s.core.publishFrame thread frame) (.publishFrame frame))) := by
  have hd := dispatching_enter thread (.publishFrame frame)
    (s.core.publishFrame_spec thread frame).same
  have hcore : (s.entered thread (Core.Published.entered (s.core.publishFrame thread frame)
      (.publishFrame frame))).core = (s.core.publishFrame thread frame).core := entered_core ..
  generalize s.entered thread
    (Core.Published.entered (s.core.publishFrame thread frame) (.publishFrame frame)) = s'
    at hd hcore ⊢
  rcases Core.publishFrame_async hm thread frame with ⟨-, hrefused⟩ | ⟨-, hqueued, hp⟩
  · rw [hrefused] at hcore ⊢
    refine ha.queue rfl (.refl _) ?_ ?_ ?_ hd <;> rw [hcore]
    exacts [.refl _, ha.counts, ha.limit]
  · rw [hp] at hcore
    obtain ⟨hcounts, hthins, hlimit⟩ := Core.limitQueue_thins (ha.counts.countFrame frame) hm
    rw [hqueued]
    have hqueues : s.core.Queues [{ body := .frame frame }]
        { s.core.countFrame frame with items := s.core.items ++ [{ body := .frame frame }] } :=
      ⟨rfl, rfl, rfl, rfl, rfl, rfl⟩
    refine ha.queue rfl hqueues ?_ ?_ ?_ hd <;> rw [hcore]
    exacts [{ hthins with }, { hcounts with }, hlimit]

theorem Inv.dispatching_eq_nil (hi : Inv s) (h : s.core.activated = false) :
    s.core.deliveryThread = none ∧ s.dispatching = [] := by
  have hnone : s.core.deliveryThread = none := by
    have hsome := hi.flags.thread
    rw [(hi.flags.off h).1] at hsome
    simpa using hsome
  exact ⟨hnone, by rw [Subscription.dispatching, hnone]⟩

theorem AccountInv.activate (ha : AccountInv options t s) (hi : Inv s) :
    AccountInv options (t ++ [.entered thread .activate s.core.activate.queued])
      (s.entered thread s.core.activate) := by
  have hcore := entered_core s thread s.core.activate
  have hsame : s.core.Thins s.core.activate.core ∧ s.core.activate.core.Counts ∧
      s.core.activate.core.overLimit = false ∧
      s.core.activate.core.deliveryThread = s.core.deliveryThread := by
    have hcounts := ha.counts
    unfold Core.activate Core.startWorker
    split_ifs
    · exact ⟨.refl _, hcounts, ha.limit, rfl⟩
    · exact ⟨{ Core.Thins.refl s.core with }, { hcounts with }, ha.limit, rfl⟩
    · cases s.core.worker <;>
        exact ⟨{ Core.Thins.refl s.core with }, { hcounts with }, ha.limit, rfl⟩
  obtain ⟨hthins, hcounts, hlimit, hthread⟩ := hsame
  rw [← hcore] at hthins hcounts hlimit
  have hqueued : s.core.activate.queued = [] := by
    unfold Core.activate
    split_ifs <;> rfl
  rw [hqueued]
  refine ha.queue rfl (.refl _) hthins hcounts hlimit ?_
  cases hact : s.core.activated with
  | true =>
    have hsame : s.core.activate = { core := s.core, activation := .leave .activate none } := by
      rw [Core.activate, if_pos hact]
    rw [hsame, entered_of_eq rfl]
    exact dispatching_setThread rfl (stackItems_cons rfl)
  | false =>
    obtain ⟨hnone, hnil⟩ := hi.dispatching_eq_nil hact
    rw [hnil, Subscription.dispatching, hcore, hthread, hnone]

theorem AccountInv.runTake (ha : AccountInv options t s) (hi : Inv s) {item : Item}
    {items : List Item} (ht : s.threads thread = [.run]) (hq : s.core.items = item :: items) :
    AccountInv options (t ++ [.started thread item])
      (s.setThread thread (s.core.takeFront thread item items) [.runDispatch item]) := by
  obtain ⟨hcounts, hlimit, hframes, hreceived, hdelivered, hdropped⟩ :=
    ha.counts.takeFront ha.limit hq thread
  have hsame := s.core.takeFront_same thread item items
  -- nobody else delivers, for the worker is the only thread that could
  have hnil : s.dispatching = [] := by
    unfold Subscription.dispatching
    obtain ⟨-, hby, hm, hw⟩ := hi.run_top ht
    cases hd : s.core.deliveryThread with
    | none => rfl
    | some thread' =>
      refine (hi.shape thread').stackItems_eq_nil ?_
      by_contra hne
      rw [Bool.not_eq_false] at hne
      have := hi.worker_of_delivers hm hne
      rw [this, ← hw, hby] at hne
      cases hne
  have hdispatch : (s.setThread thread (s.core.takeFront thread item items)
      [.runDispatch item]).dispatching = [item] := by
    unfold Subscription.dispatching
    rw [setThread_core, hsame.deliveryThread]
    simp only [setThread_self]
    rfl
  have hreceived₀ := ha.received
  have hstarted₀ := ha.started
  rw [hnil] at hreceived₀ hstarted₀
  have hqueue : queuedItems (t ++ [.started thread item]) = queuedItems t := by
    rw [queuedItems_concat]
    exact List.append_nil _
  have hstart : startedItems (t ++ [.started thread item]) = startedItems t ++ [item] :=
    startedItems_concat ..
  have hone : (frames [item]).length = item.frame.toList.length := by
    rw [frames_cons]
    exact congrArg List.length (List.append_nil _)
  refine ⟨hsame.options.trans ha.options, hcounts, hlimit, ?_, ?_, ?_, ?_, ?_⟩
  · rw [hdispatch, setThread_core, hone]
    simp only [frames, List.filterMap_nil, List.length_nil] at hreceived₀
    omega
  · rw [setThread_core, hreceived, hqueue]
    exact ha.accepted
  · rw [hdispatch, setThread_core, hdelivered, hstart, frames_append, List.length_append]
    exact congrArg (· + _) hstarted₀
  · have horder := ha.order
    rw [hq, ← List.singleton_append, frames_append, ← List.append_assoc] at horder
    rwa [hqueue, hstart, frames_append, setThread_core, Core.takeFront_items]
  · have hevents := ha.events
    rw [hq, ← List.singleton_append, streamEvents_append, ← List.append_assoc] at hevents
    rwa [hqueue, hstart, streamEvents_append, setThread_core, Core.takeFront_items]

theorem AccountInv.runFinish (ha : AccountInv options t s) (hi : Inv s) {item : Item}
    (ht : s.threads thread = [.runDispatch item]) (stack : List Activation) :
    AccountInv options (t ++ [.finished thread item])
      (s.setThread thread (s.core.finishRun item) stack) := by
  -- the item was the one in delivery
  have hdispatch : s.dispatching = [item] := by
    obtain ⟨-, hby, -⟩ := hi.runDispatch_top ht
    simp only [Core.deliversBy, Bool.and_eq_true, decide_eq_true_eq] at hby
    rw [Subscription.dispatching, hby.2]
    simp only [ht]
    rfl
  have hnil : (s.setThread thread (s.core.finishRun item) stack).dispatching = [] := rfl
  have hqueue : queuedItems (t ++ [.finished thread item]) = queuedItems t := by
    rw [queuedItems_concat]
    exact List.append_nil _
  have hstart : startedItems (t ++ [.finished thread item]) = startedItems t := by
    rw [startedItems_concat, startedItems_eq_nil (by rintro _ _ ⟨⟩), List.append_nil]
  have hdelivered : (s.core.finishRun item).stats.deliveredFrames =
      s.core.stats.deliveredFrames + (frames [item]).length ∧
      (s.core.finishRun item).stats.receivedFrames = s.core.stats.receivedFrames ∧
      (s.core.finishRun item).stats.droppedFrames = s.core.stats.droppedFrames := by
    unfold Core.finishRun Core.finishItem
    cases hf : item.isFrame with
    | true =>
      obtain ⟨f, hfr, -⟩ := Item.frame_of_isFrame hf
      simp [frames, hfr]
    | false => simp [frames, Item.frame_of_not_isFrame hf]
  obtain ⟨hdelivered, hreceived, hdropped⟩ := hdelivered
  have hreceived₀ := ha.received
  have hstarted₀ := ha.started
  rw [hdispatch] at hreceived₀ hstarted₀
  refine ⟨ha.options, ⟨ha.counts.frames, ha.counts.bytes⟩, ha.limit, ?_, ?_, ?_, ?_, ?_⟩
  · rw [hnil, setThread_core, hreceived, hdelivered, hdropped]
    show _ = _ + s.core.queuedFrames + 0
    omega
  · rw [setThread_core, hreceived, hqueue]
    exact ha.accepted
  · rw [hnil, setThread_core, hdelivered, hstart]
    exact hstarted₀
  · rw [hqueue, hstart]
    exact ha.order
  · rw [hqueue, hstart]
    exact ha.events

theorem Inv.dispatching_length (hi : Inv s) : s.dispatching.length ≤ 1 := by
  unfold Subscription.dispatching
  cases s.core.deliveryThread with
  | none => exact Nat.zero_le _
  | some thread =>
    have hshape := hi.shape thread
    dsimp only
    generalize s.threads thread = l at hshape
    cases hshape with
    | outside => exact Nat.zero_le _
    | owner => exact Nat.zero_le _
    | quiet | callback => exact List.length_filterMap_le ..
    | nested => exact List.length_filterMap_le Activation.item [_]

theorem Inv.cancel_terminalEnqueued (hi : Inv s) (thread : ThreadId) (closeStreams : Bool) :
    (s.core.cancel thread closeStreams).core.terminalEnqueued = true := by
  have hspec := s.core.cancel_spec thread closeStreams
  generalize s.core.cancel thread closeStreams = en at hspec ⊢
  cases hspec with
  | delivered hd | awaitIdle hd => exact (hi.flags.delivered hd).1
  | inside h | awaitTerminal h => exact h
  | self | drain => rfl
  | join h _ _ hm =>
    rw [hi.flags.startWorker hm h]
    rfl

/-- **Every step before the termination keeps the accounts.** -/
theorem AccountInv.step (ha : AccountInv options t s) (h : SubscriptionStep s e s') (hi : Inv s)
    (hasync : options.dispatch = .asyncQueued) (he : s'.core.terminalEnqueued = false) :
    AccountInv options (t ++ [e]) s' := by
  have hm : s.core.isDirect = false := by
    rw [Core.isDirect, ha.options, hasync]
    rfl
  -- a thread that only moves, below or outside the callbacks
  have hmove {thread : ThreadId} {e : Event} {stack : List Activation} (hq : e.queued = [])
      (hs : ∀ thread item, e ≠ .started thread item)
      (hstack : stackItems stack = stackItems (s.threads thread)) :
      AccountInv options (t ++ [e]) (s.setThread thread s.core stack) :=
    ha.queue (startedItems_eq_nil hs) (by rw [hq]; exact .refl _) (.refl _) ha.counts ha.limit
      (dispatching_setThread rfl hstack)
  cases h with
  | enter thread call =>
    rw [Subscription.enter] at he ⊢
    cases call with
    | primeStreamEvent event => exact ha.publishStreamEvent hm _ true event
    | publishStreamEvent event => exact ha.publishStreamEvent hm _ false event
    | publishFrame frame => exact ha.publishFrame hm frame
    | activate => exact ha.activate hi
    | cancel closeStreams =>
      rw [entered_core] at he
      exact absurd ((hi.cancel_terminalEnqueued thread closeStreams).symm.trans he) (by decide)
  | drainLeave ht | drainWait ht | drainTake ht =>
    exact absurd ((hi.drain_top ht).2.2.1.symm.trans hm) (by decide)
  | finishLeave ht | finishNext ht =>
    exact absurd ((hi.dispatch_top ht).2.2.2.1.symm.trans hm) (by decide)
  | awaitIdle ht | awaitTerminal ht | join ht | leave ht | runEnd ht =>
    exact hmove rfl (by rintro _ _ ⟨⟩) (by rw [ht]; rfl)
  | runTake ht hc =>
    obtain ⟨rfl, -⟩ := hi.run_top ht
    rcases Core.run_spec hc with ⟨hr, -⟩ | ⟨item, rest, hr, -, -, hq⟩
    · cases hr
    · cases hr
      exact ha.runTake hi ht hq
  | runFinish ht =>
    obtain ⟨rfl, -⟩ := hi.runDispatch_top ht
    exact ha.runFinish hi ht _

theorem run_accounts (hasync : options.dispatch = .asyncQueued)
    (h : Run SubscriptionStep (Subscription.start options) t s) :
    Inv s ∧ (s.core.terminalEnqueued = false → AccountInv options t s) := by
  refine h.inv (I := fun t s => Inv s ∧ (s.core.terminalEnqueued = false →
    AccountInv options t s)) ⟨start_inv options, fun _ => ?_⟩ ?_
  · have hlimit : (Subscription.start options).core.overLimit = false :=
      Core.overLimit_eq_false.2 ⟨.inr (Nat.zero_le _), .inr (Nat.zero_le _)⟩
    exact ⟨rfl, ⟨rfl, rfl⟩, hlimit, rfl, rfl, rfl, .refl _, rfl⟩
  · rintro t s e s' ⟨hi, ha⟩ hs
    exact ⟨hs.inv hi, fun he =>
      (ha ((hs.effect hi).terminalEnqueued_eq_false he)).step hs hi hasync he⟩

/-- **The frames of an asynchronous subscription are accounted for.**  Before
    the termination, every accepted frame was delivered or dropped, is queued,
    or is being delivered; the byte count is the payload of the queue, which is
    within its limits (zero is no limit); the sink sees the frames in the order
    in which they were accepted, and all stream events in theirs. -/
theorem frames_accounted (hasync : options.dispatch = .asyncQueued)
    (h : Run SubscriptionStep (Subscription.start options) t s)
    (hterm : s.core.terminalEnqueued = false) :
    s.core.currentStats.receivedFrames = (frames (queuedItems t)).length ∧
    s.core.currentStats.receivedFrames =
      s.core.currentStats.deliveredFrames + s.core.currentStats.droppedFrames +
        (frames s.core.items).length + (frames s.dispatching).length ∧
    s.dispatching.length ≤ 1 ∧
    s.core.currentStats.queuedFrames = (frames s.core.items).length ∧
    s.core.currentStats.queuedBytes = payloadBytes (frames s.core.items) ∧
    (options.maxFrames = 0 ∨ (frames s.core.items).length ≤ options.maxFrames) ∧
    (options.maxBytes = 0 ∨ payloadBytes (frames s.core.items) ≤ options.maxBytes) ∧
    s.core.currentStats.deliveredFrames + (frames s.dispatching).length =
      (frames (startedItems t)).length ∧
    Thinned (frames (queuedItems t)) (frames (startedItems t)) ∧
    streamEvents (startedItems t) ++ streamEvents s.core.items =
      streamEvents (queuedItems t) := by
  obtain ⟨hi, ha⟩ := run_accounts hasync h
  have ha := ha hterm
  have hlimit := Core.overLimit_eq_false.1 ha.limit
  rw [ha.options, ha.counts.frames, ha.counts.bytes] at hlimit
  refine ⟨ha.accepted, ?_, hi.dispatching_length, ha.counts.frames, ha.counts.bytes, hlimit.1,
    hlimit.2, ha.started, ?_, ha.events⟩
  · rw [← ha.counts.frames]
    exact ha.received
  · exact ha.order.trans (.of_sublist (List.sublist_append_left ..))

/-- A queue of one frame: of two frames the first is dropped, and the second is
    being delivered. -/
theorem frames_accounted_overflow :
    ∃ t s, Run SubscriptionStep
        (Subscription.start { dispatch := .asyncQueued, maxFrames := 1 }) t s ∧
      s.core.currentStats.receivedFrames = 2 ∧ s.core.currentStats.droppedFrames = 1 ∧
      (frames s.dispatching).length = 1 ∧
      s.core.currentStats.receivedFrames =
        s.core.currentStats.deliveredFrames + s.core.currentStats.droppedFrames +
          (frames s.core.items).length + (frames s.dispatching).length := by
  have h := run_call (s := Subscription.start { dispatch := .asyncQueued, maxFrames := 1 }) .nil 0
    (.primeStreamEvent { descriptor := { key := ⟨"s", 7, 1⟩, deviceId := "d" } }) rfl rfl
  have h := run_call h 0
    (.publishFrame { sessionId := "s", streamId := 7, payload := [1, 2], generation := 1 }) rfl rfl
  have h := run_call h 0
    (.publishFrame { sessionId := "s", streamId := 7, payload := [3], generation := 1 }) rfl rfl
  have h := h.snoc (.enter _ (.client 0) .activate rfl)
  have h := run_deliver (run_deliver h 0 rfl rfl) 0 rfl rfl
  have h := h.snoc (@.runTake _ (.worker 0) _ _ _ rfl rfl)
  exact ⟨_, _, h, rfl, rfl, rfl, (frames_accounted rfl h rfl).2.1⟩

end

end Axent.MediaStream
