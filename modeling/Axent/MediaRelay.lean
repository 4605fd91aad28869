/-
  `MediaStreamRelay` (`src/media/media_relay.cpp`), which a `MediaConsumer`
  reads: a queue of frames that drops the oldest ones over its limits.
-/
import Axent.Lib.Gate
import Axent.Lib.Run
import Axent.Media

namespace Axent

open Lib

structure MediaRelayOptions where
  maxFrames : ℕ := 64
  maxBytes : ℕ := 16 * 1024 * 1024
  deriving DecidableEq, Repr

structure MediaRelayStats where
  publishedFrames : ℕ := 0
  readFrames : ℕ := 0
  droppedFrames : ℕ := 0
  droppedBytes : ℕ := 0
  queuedFrames : ℕ := 0
  queuedBytes : ℕ := 0
  deriving DecidableEq, Repr

structure MediaStreamRelay where
  options : MediaRelayOptions := {}
  queue : List MediaFrame := []
  queuedBytes : ℕ := 0
  stats : MediaRelayStats := {}
  closed : Bool := false
  deriving DecidableEq, Repr

namespace MediaStreamRelay

/-- `over_limit_locked`. -/
def overLimit (r : MediaStreamRelay) : Bool :=
  (r.options.maxFrames ≠ 0 ∧ r.options.maxFrames < r.queue.length) ∨
    (r.options.maxBytes ≠ 0 ∧ r.options.maxBytes < r.queuedBytes)

/-- `drop_front_locked`. -/
def dropFront (r : MediaStreamRelay) : MediaStreamRelay :=
  match r.queue with
  | [] => r
  | f :: rest =>
    { r with
      queue := rest
      queuedBytes := r.queuedBytes - f.payload.length
      stats := { r.stats with
        droppedFrames := r.stats.droppedFrames + 1
        droppedBytes := r.stats.droppedBytes + f.payload.length } }

/-- The loop of `publish` that drops frames, and whether it dropped any; every
    round drops a frame, so the length of the queue bounds the rounds. -/
def dropFrames : ℕ → MediaStreamRelay → MediaStreamRelay × Bool
  | 0, r => (r, false)
  | n + 1, r =>
    if r.overLimit ∧ r.queue ≠ [] then ((dropFrames n r.dropFront).1, true) else (r, false)

/-- The front frame gets the flag `Discontinuity`. -/
def markFront (r : MediaStreamRelay) : MediaStreamRelay :=
  match r.queue with
  | [] => r
  | f :: rest => { r with queue := f.discontinuous :: rest }

def refreshStats (r : MediaStreamRelay) : MediaStreamRelay :=
  { r with
    stats := { r.stats with queuedFrames := r.queue.length, queuedBytes := r.queuedBytes } }

/-- The frame counted and queued. -/
def enqueue (r : MediaStreamRelay) (frame : MediaFrame) : MediaStreamRelay :=
  { r with
    queue := r.queue ++ [frame]
    queuedBytes := r.queuedBytes + frame.payload.length
    stats := { r.stats with publishedFrames := r.stats.publishedFrames + 1 } }

/-- The end of `publish`: the queue is kept within its limits. -/
def limitQueue (r : MediaStreamRelay) : MediaStreamRelay :=
  let dropped := r.dropFrames r.queue.length
  if dropped.2 then dropped.1.markFront else dropped.1

def publish (r : MediaStreamRelay) (frame : MediaFrame) : MediaStreamRelay :=
  if r.closed then r else (r.enqueue frame).limitQueue.refreshStats

def read (r : MediaStreamRelay) : Option MediaFrame × MediaStreamRelay :=
  match r.queue with
  | [] => (none, r)
  | f :: rest =>
    (some f, { r with
      queue := rest
      queuedBytes := r.queuedBytes - f.payload.length
      stats := { r.stats with readFrames := r.stats.readFrames + 1 } }.refreshStats)

def close (r : MediaStreamRelay) : MediaStreamRelay :=
  { r with
    closed := true
    queue := []
    queuedBytes := 0
    stats := { r.stats with queuedFrames := 0, queuedBytes := 0 } }

/-! ## A relay is a gate -/

theorem closed_dropFrames (n : ℕ) (r : MediaStreamRelay) :
    (r.dropFrames n).1.closed = r.closed := by
  induction n generalizing r with
  | zero => rfl
  | succ n ih =>
    unfold dropFrames
    split_ifs with h
    · rw [ih]
      unfold dropFront
      split <;> rfl
    · rfl

theorem queue_dropFrames (n : ℕ) (r : MediaStreamRelay) :
    (r.dropFrames n).1.queue <:+ r.queue := by
  induction n generalizing r with
  | zero => exact List.suffix_refl _
  | succ n ih =>
    unfold dropFrames
    split_ifs with h
    · have hdrop : r.dropFront.queue <:+ r.queue := by
        unfold dropFront
        split
        · exact List.suffix_refl _
        · next f rest hq => rw [hq]; exact List.suffix_cons f rest
      exact (ih r.dropFront).trans hdrop
    · exact List.suffix_refl _

theorem mem_markFront {r : MediaStreamRelay} {f : MediaFrame} (h : f ∈ r.markFront.queue) :
    ∃ f₀ ∈ r.queue, f₀.Marked f := by
  unfold markFront at h
  split at h
  · next hq => rw [hq] at h; cases h
  · next f₀ rest hq =>
    rw [hq]
    rcases List.mem_cons.1 h with rfl | h
    · exact ⟨f₀, List.mem_cons_self, .inr rfl⟩
    · exact ⟨f, List.mem_cons_of_mem _ h, .inl rfl⟩

theorem closed_markFront (r : MediaStreamRelay) : r.markFront.closed = r.closed := by
  unfold markFront
  split <;> rfl

theorem closed_publish (r : MediaStreamRelay) (frame : MediaFrame) :
    (r.publish frame).closed = r.closed := by
  unfold publish
  split_ifs with hc
  · rfl
  · change (r.enqueue frame).limitQueue.closed = r.closed
    unfold limitQueue
    dsimp only
    split_ifs
    · rw [closed_markFront, closed_dropFrames]; rfl
    · rw [closed_dropFrames]; rfl

theorem mem_publish {r : MediaStreamRelay} {frame f : MediaFrame}
    (h : f ∈ (r.publish frame).queue) : ∃ f₀, (f₀ ∈ r.queue ∨ f₀ = frame) ∧ f₀.Marked f := by
  have hdrop {f₀ : MediaFrame}
      (h : f₀ ∈ ((r.enqueue frame).dropFrames (r.enqueue frame).queue.length).1.queue) :
      f₀ ∈ r.queue ∨ f₀ = frame := by
    have hmem : f₀ ∈ r.queue ++ [frame] := (queue_dropFrames _ (r.enqueue frame)).subset h
    simpa using hmem
  unfold publish at h
  split_ifs at h with hc
  · exact ⟨f, .inl h, .inl rfl⟩
  · change f ∈ (r.enqueue frame).limitQueue.queue at h
    unfold limitQueue at h
    dsimp only at h
    split_ifs at h
    · obtain ⟨f₀, hf₀, hmark⟩ := mem_markFront h
      exact ⟨f₀, hdrop hf₀, hmark⟩
    · exact ⟨f, hdrop h, .inl rfl⟩

/-- What a caller sees of a relay. -/
inductive Event where
  | published (frame : MediaFrame)
  | read (frame : Option MediaFrame)
  | closed

/-- One call on a relay. -/
inductive Step : MediaStreamRelay → Event → MediaStreamRelay → Prop
  | publish (r : MediaStreamRelay) (frame : MediaFrame) :
      Step r (.published frame) (r.publish frame)
  | read (r : MediaStreamRelay) : Step r (.read r.read.1) r.read.2
  | close (r : MediaStreamRelay) : Step r .closed r.close

theorem read_spec (r : MediaStreamRelay) :
    r.read.2.closed = r.closed ∧ (∀ f ∈ r.read.2.queue, f ∈ r.queue) ∧
      ∀ f, r.read.1 = some f → f ∈ r.queue := by
  unfold read
  split
  · next hq => exact ⟨rfl, fun _ h => h, by rintro _ ⟨⟩⟩
  · next f rest hq =>
    rw [hq]
    exact ⟨rfl, fun _ h => List.mem_cons_of_mem _ h, by rintro _ ⟨⟩; exact List.mem_cons_self⟩

/-- **A relay is a gate**, shut by `close`. -/
def gate : Gate Step (fun e f => e = .published f) (fun e f => e = .read (some f))
    (fun e _ => e = .closed) MediaFrame.Marked where
  Ok r := r.closed = true → r.queue = []
  Holds r f := f ∈ r.queue
  Shut r := r.closed = true
  ok := by
    intro r e r' hok h
    cases h with
    | publish frame =>
      intro hc
      rw [closed_publish] at hc
      rw [publish, if_pos hc]
      exact hok hc
    | read =>
      obtain ⟨hclosed, hsub, -⟩ := r.read_spec
      intro hc
      rw [hclosed] at hc
      refine List.eq_nil_iff_forall_not_mem.2 fun f hf => ?_
      have hmem := hsub f hf
      rw [hok hc] at hmem
      cases hmem
    | close => exact fun _ => rfl
  origin := by
    intro r e r' f _ h hf
    cases h with
    | publish frame =>
      obtain ⟨f₀, hf₀ | rfl, hmark⟩ := mem_publish hf
      · exact ⟨f₀, .inl hf₀, hmark⟩
      · exact ⟨f₀, .inr rfl, hmark⟩
    | read => exact ⟨f, .inl (r.read_spec.2.1 f hf), .inl rfl⟩
    | close => cases hf
  source := by
    intro r e r' f _ h he
    cases h with
    | publish | close => cases he
    | read => exact r.read_spec.2.2 f (Event.read.inj he)
  barrier := by
    intro r e r' f hok h he hc
    cases h with
    | publish | close => cases he
    | read =>
      have hmem := r.read_spec.2.2 f (Event.read.inj he)
      rw [hok hc] at hmem
      cases hmem
  shut := by
    intro r e r' _ h hshut
    cases h with
    | publish frame => rw [closed_publish]; exact hshut.resolve_right (by rintro ⟨⟩)
    | read => rw [r.read_spec.1]; exact hshut.resolve_right (by rintro ⟨⟩)
    | close => rfl

/-! ## A relay is a queue with limits -/

end MediaStreamRelay

def MediaRelayOptions.limits (o : MediaRelayOptions) : Limits := ⟨o.maxFrames, o.maxBytes⟩

namespace MediaStreamRelay

theorem overLimit_iff {r : MediaStreamRelay}
    (h : r.queuedBytes = frameMarking.weight r.queue) :
    r.overLimit = true ↔ r.options.limits.Exceeded frameMarking r.queue := by
  simp [overLimit, Limits.Exceeded, MediaRelayOptions.limits, h]

/-- The relay after the `k` oldest frames were dropped. -/
def dropped (r : MediaStreamRelay) (k : ℕ) : MediaStreamRelay :=
  { r with
    queue := r.queue.drop k
    queuedBytes := frameMarking.weight (r.queue.drop k)
    stats := { r.stats with
      droppedFrames := r.stats.droppedFrames + k
      droppedBytes := r.stats.droppedBytes + frameMarking.weight (r.queue.take k) } }

theorem dropped_zero {r : MediaStreamRelay} (h : r.queuedBytes = frameMarking.weight r.queue) :
    r.dropped 0 = r := by
  simp [dropped, ← h]

theorem dropped_dropFront {r : MediaStreamRelay} {f : MediaFrame} {rest : List MediaFrame}
    (hq : r.queue = f :: rest) (k : ℕ) : r.dropFront.dropped k = r.dropped (k + 1) := by
  have hframes : r.stats.droppedFrames + 1 + k = r.stats.droppedFrames + (k + 1) := by omega
  simp [dropped, dropFront, hq, hframes, Nat.add_assoc]

/-- **The loop of `publish`** drops as many frames as have to go. -/
theorem dropFrames_eq (n : ℕ) (r : MediaStreamRelay)
    (hbytes : r.queuedBytes = frameMarking.weight r.queue) (hn : r.queue.length ≤ n) :
    r.dropFrames n = (r.dropped (r.options.limits.overflow frameMarking r.queue),
      decide (r.options.limits.overflow frameMarking r.queue ≠ 0)) := by
  induction n generalizing r with
  | zero =>
    have hnil : r.queue = [] := List.length_eq_zero_iff.1 (Nat.le_zero.1 hn)
    have hzero : r.options.limits.overflow frameMarking r.queue = 0 := by rw [hnil]; rfl
    simp [dropFrames, hzero, dropped_zero hbytes]
  | succ n ih =>
    by_cases hexceeded : r.options.limits.Exceeded frameMarking r.queue
    · cases hq : r.queue with
      | nil => exact absurd (hq ▸ hexceeded) Limits.not_exceeded_nil
      | cons f rest =>
        have hover : r.overLimit = true ∧ r.queue ≠ [] :=
          ⟨(overLimit_iff hbytes).2 hexceeded, by simp [hq]⟩
        have hfront : r.dropFront.queue = rest := by simp [dropFront, hq]
        have hfrontBytes : r.dropFront.queuedBytes = frameMarking.weight r.dropFront.queue := by
          simp [dropFront, hq, hbytes]
        have hoptions : r.dropFront.options = r.options := by simp [dropFront, hq]
        have hrest := ih r.dropFront hfrontBytes (by rw [hfront]; simpa [hq] using hn)
        rw [hq] at hexceeded
        rw [dropFrames, if_pos hover, hrest, hoptions, hfront, Limits.overflow_cons hexceeded,
          dropped_dropFront hq]
        simp
    · have hover : ¬ (r.overLimit = true ∧ r.queue ≠ []) := fun h =>
        hexceeded ((overLimit_iff hbytes).1 h.1)
      simp [dropFrames, hover, Limits.overflow_eq_zero hexceeded, dropped_zero hbytes]

/-- The relay is in the state of the queue. -/
structure Refines (r : MediaStreamRelay) (d : DropQueue MediaFrame) : Prop where
  queue : r.queue = d.queue
  bytes : r.queuedBytes = frameMarking.weight d.queue
  closed : r.closed = false
  stats : r.stats = {
    publishedFrames := d.published.length
    readFrames := d.taken.length
    droppedFrames := d.dropped.length
    droppedBytes := frameMarking.weight d.dropped
    queuedFrames := d.queue.length
    queuedBytes := frameMarking.weight d.queue }

theorem markFront_queue (r : MediaStreamRelay) :
    r.markFront = { r with queue := frameMarking.markHead r.queue } := by
  unfold markFront
  split
  · next hq =>
    rw [hq]
    cases r
    simp_all [Marking.markHead]
  · next hq =>
    rw [hq]
    rfl

theorem Refines.publish {r : MediaStreamRelay} {d : DropQueue MediaFrame} (h : r.Refines d)
    (frame : MediaFrame) :
    (r.publish frame).Refines (d.publish r.options.limits frameMarking frame) := by
  have hqueue : (r.enqueue frame).queue = d.queue ++ [frame] := by simp [enqueue, h.queue]
  have hbytes : (r.enqueue frame).queuedBytes = frameMarking.weight (r.enqueue frame).queue := by
    simp [enqueue, h.bytes, h.queue]
  have hdrop := dropFrames_eq (r.enqueue frame).queue.length _ hbytes (Nat.le_refl _)
  have hoptions : (r.enqueue frame).options = r.options := rfl
  have hle : r.options.limits.overflow frameMarking (d.queue ++ [frame]) ≤ d.queue.length + 1 := by
    simpa using r.options.limits.overflow_le (M := frameMarking) (d.queue ++ [frame])
  rw [MediaStreamRelay.publish, if_neg (by simp [h.closed]), limitQueue, hdrop, hoptions, hqueue]
  unfold DropQueue.publish
  generalize r.options.limits.overflow frameMarking (d.queue ++ [frame]) = n at hle
  by_cases hn : n = 0
  · subst hn
    constructor <;> simp [refreshStats, dropped, enqueue, h.queue, h.closed, h.stats]
  · have hmark : decide (n ≠ 0) = true := decide_eq_true hn
    simp only [hmark, if_true, if_neg hn, markFront_queue]
    constructor <;>
      simp [refreshStats, dropped, enqueue, h.queue, h.closed, h.stats, Nat.min_eq_left hle]

theorem Refines.read {r : MediaStreamRelay} {d : DropQueue MediaFrame} (h : r.Refines d) :
    r.read.1 = d.take.1 ∧ r.read.2.Refines d.take.2 := by
  unfold MediaStreamRelay.read DropQueue.take
  cases hq : d.queue with
  | nil =>
    rw [h.queue, hq]
    exact ⟨rfl, h⟩
  | cons f rest =>
    rw [h.queue, hq]
    refine ⟨rfl, rfl, ?_, h.closed, ?_⟩
    · simp [refreshStats, h.bytes, hq]
    · simp [refreshStats, h.bytes, h.stats, hq]

theorem options_publish (r : MediaStreamRelay) (frame : MediaFrame) :
    (r.publish frame).options = r.options := by
  have hdrop (n : ℕ) (r : MediaStreamRelay) : (r.dropFrames n).1.options = r.options := by
    induction n generalizing r with
    | zero => rfl
    | succ n ih =>
      unfold dropFrames
      split
      · rw [ih]
        unfold dropFront
        split <;> rfl
      · rfl
  unfold MediaStreamRelay.publish
  split
  · rfl
  · change (r.enqueue frame).limitQueue.options = r.options
    unfold limitQueue
    dsimp only
    split
    · rw [markFront_queue]
      exact hdrop _ _
    · exact hdrop _ _

theorem options_read (r : MediaStreamRelay) : r.read.2.options = r.options := by
  unfold MediaStreamRelay.read
  split <;> rfl

/-- The frames that were published. -/
def published (t : List Event) : List MediaFrame :=
  t.filterMap fun
    | .published f => some f
    | _ => none

/-- The frames that were read. -/
def readFrames (t : List Event) : List MediaFrame :=
  t.filterMap fun
    | .read f => f
    | _ => none

/-- **A relay that is not closed runs as a queue with limits.** -/
theorem Refines.run {r r' : MediaStreamRelay} {t : List Event} {d : DropQueue MediaFrame}
    (h : Run Step r t r') (hopen : .closed ∉ t) (hr : r.Refines d)
    (hd : d.Inv r.options.limits frameMarking) :
    ∃ d', r'.Refines d' ∧ r'.options = r.options ∧ d'.Inv r.options.limits frameMarking ∧
      d'.published = d.published ++ published t ∧ d'.taken = d.taken ++ readFrames t ∧
      (readFrames t = [] → d'.seen = d.seen) ∧
      ((∀ f ∈ published t, ¬ r.options.limits.Exceeded frameMarking [f]) → d.GapInv frameMarking →
        d'.GapInv frameMarking) := by
  induction h with
  | nil => exact ⟨d, hr, rfl, hd, (List.append_nil _).symm, (List.append_nil _).symm, fun _ => rfl,
      fun _ => id⟩
  | @snoc t _ _ _ hrun hstep ih =>
    obtain ⟨d', hr', hoptions, hd', hpublished, htaken, hseen, hgap⟩ :=
      ih fun hmem => hopen (List.mem_append_left _ hmem)
    have hbefore {e : Event} (hfits : ∀ f ∈ published (t ++ [e]),
        ¬ r.options.limits.Exceeded frameMarking [f]) :
        ∀ f ∈ published t, ¬ r.options.limits.Exceeded frameMarking [f] := fun f hf =>
      hfits f (by rw [published, List.filterMap_append]; exact List.mem_append_left _ hf)
    cases hstep with
    | publish frame =>
      refine ⟨d'.publish r.options.limits frameMarking frame, hoptions ▸ hr'.publish frame,
        (options_publish ..).trans hoptions, hd'.publish frame, ?_, ?_, ?_, ?_⟩
      · simp [DropQueue.publish, hpublished, published]
      · simp [DropQueue.publish, htaken, readFrames]
      · intro hnone
        exact hseen (by simpa [readFrames] using hnone)
      · intro hfits h₀
        exact (hgap (hbefore hfits) h₀).publish hd' (hfits frame (by simp [published]))
    | read =>
      obtain ⟨hread, hrefines⟩ := hr'.read
      refine ⟨d'.take.2, hrefines, (options_read _).trans hoptions, hd'.take, ?_, ?_, ?_, ?_⟩
      · simp [DropQueue.published_take, hpublished, published]
      · rw [DropQueue.taken_take, hread, htaken]
        cases d'.take.1 <;> simp [readFrames]
      · intro hnone
        rw [hread, readFrames, List.filterMap_append, List.append_eq_nil_iff] at hnone
        have htake : d'.take.1 = none := by simpa using hnone.2
        rw [DropQueue.seen_take, htake]
        exact hseen hnone.1
      · intro hfits h₀
        exact (hgap (hbefore hfits) h₀).take hd'
    | close => exact absurd (by simp) hopen

theorem refines_new (options : MediaRelayOptions) :
    ({ options := options } : MediaStreamRelay).Refines {} :=
  ⟨rfl, rfl, rfl, rfl⟩

/-! ## Gaps -/

/-- Nothing was done yet, or the last call read a frame. -/
def JustRead (t : List Event) : Prop := t = [] ∨ ∃ t₀ f, t = t₀ ++ [.read (some f)]

/-- The queue of a relay whose last call read a frame. -/
theorem run_justRead {options : MediaRelayOptions} {t : List Event} {r : MediaStreamRelay}
    (h : Run Step { options := options } t r) (hlast : JustRead t) (hopen : .closed ∉ t)
    (hfits : ∀ f ∈ published t, ¬ options.limits.Exceeded frameMarking [f]) :
    ∃ d, r.Refines d ∧ r.options = options ∧ d.Inv options.limits frameMarking ∧
      d.published = published t ∧ d.seen = d.dropped.length ∧ d.GapInv frameMarking := by
  obtain rfl | ⟨t₀, f, rfl⟩ := hlast
  · cases h.eq_of_nil
    exact ⟨{}, refines_new options, rfl, DropQueue.inv_empty, rfl, rfl, DropQueue.gapInv_empty⟩
  · have hpublished : published (t₀ ++ [.read (some f)]) = published t₀ := by simp [published]
    rw [hpublished] at hfits ⊢
    obtain ⟨r₀, hrun, hstep⟩ := h.last
    obtain ⟨d, hr, hoptions, hd, hpub, -, -, hgap⟩ := Refines.run hrun
      (fun hmem => hopen (List.mem_append_left _ hmem)) (refines_new options) DropQueue.inv_empty
    generalize he : Event.read (some f) = e at hstep
    cases hstep with
    | publish | close => cases he
    | read =>
      obtain ⟨hread, hrefines⟩ := hr.read
      have htake : d.take.1 = some f := hread.symm.trans (Event.read.inj he).symm
      refine ⟨d.take.2, hrefines, (options_read _).trans hoptions, hd.take, ?_, ?_,
        (hgap hfits DropQueue.gapInv_empty).take hd⟩
      · rw [DropQueue.published_take, hpub]
        exact List.nil_append _
      · rw [DropQueue.seen_take, DropQueue.dropped_take, htake]
        rfl

/-- **A reader learns of every gap**, when every frame is within the byte limit by itself.  From a
    read (or the beginning) to the next, the frame that is returned is the one that was published
    after all those read or dropped; it carries the flag if frames were dropped meanwhile, and
    otherwise only if it was published with it. -/
theorem reader_learns_of_gaps {options : MediaRelayOptions} {t t' : List Event}
    {r r' : MediaStreamRelay} {f : MediaFrame} (h : Run Step { options := options } t r)
    (hlast : JustRead t) (h' : Run Step r t' r') (hnone : readFrames t' = [])
    (hopen : .closed ∉ t ++ t')
    (hfits : ∀ f ∈ published (t ++ t'),
      options.maxBytes = 0 ∨ f.payload.length ≤ options.maxBytes)
    (hf : r'.read.1 = some f) :
    ∃ f₀, (published (t ++ t'))[r'.stats.readFrames + r'.stats.droppedFrames]? = some f₀ ∧
      f₀.Marked f ∧
      (r.stats.droppedFrames < r'.stats.droppedFrames → f.isDiscontinuous) ∧
      (f.isDiscontinuous →
        r.stats.droppedFrames < r'.stats.droppedFrames ∨ f₀.isDiscontinuous) := by
  have hexceeded : ∀ f ∈ published (t ++ t'), ¬ options.limits.Exceeded frameMarking [f] := by
    intro f hf
    have := hfits f hf
    simp only [Limits.Exceeded, MediaRelayOptions.limits, List.length_singleton,
      Marking.weight_cons, Marking.weight_nil, size_frameMarking]
    omega
  have happend : published (t ++ t') = published t ++ published t' := List.filterMap_append
  rw [happend] at hexceeded ⊢
  obtain ⟨d, hr, hoptions, hd, hpublished, hseen, hgap⟩ := run_justRead h hlast
    (fun hmem => hopen (List.mem_append_left _ hmem))
    fun f hf => hexceeded f (List.mem_append_left _ hf)
  obtain ⟨d', hr', -, hd', hpublished', -, hseen', hgap'⟩ := Refines.run h'
    (fun hmem => hopen (List.mem_append_right _ hmem)) hr (hoptions ▸ hd)
  have htake : d'.take.1 = some f := hr'.read.1.symm.trans hf
  obtain ⟨f₀, hf₀, heq⟩ := (hgap' (fun f hf => hoptions ▸
    hexceeded f (List.mem_append_right _ hf)) hgap).next htake
  have hdropped : d'.gap = decide (r.stats.droppedFrames < r'.stats.droppedFrames) := by
    rw [DropQueue.gap, hseen' hnone, hseen, hr.stats, hr'.stats]
  refine ⟨f₀, ?_, ?_, ?_, ?_⟩
  · rw [← hpublished, ← hpublished', hr'.stats]
    exact hf₀
  · rw [heq]
    split
    · exact .inr rfl
    · exact .inl rfl
  · intro hlt
    rw [heq, hdropped, decide_eq_true hlt]
    exact f₀.isDiscontinuous_discontinuous
  · intro hflag
    by_cases hlt : r.stats.droppedFrames < r'.stats.droppedFrames
    · exact .inl hlt
    · rw [heq, hdropped, decide_eq_false hlt] at hflag
      exact .inr hflag

/-- A frame of one byte. -/
def smallFrame (n : UInt8) : MediaFrame := { streamId := 7, payload := [n], generation := 1 }

/-- A frame over a limit of two bytes. -/
def oversizedFrame : MediaFrame := { streamId := 7, payload := [1, 2, 3], generation := 1 }

/-- **A frame over the byte limit leaves no trace**: it is dropped together with all others, and
    the next frame is not marked. -/
theorem gap_lost_after_oversized_frame :
    ∃ (options : MediaRelayOptions) (t t' : List Event) (r r' : MediaStreamRelay) (f : MediaFrame),
      Run Step { options := options } t r ∧ JustRead t ∧ Run Step r t' r' ∧ readFrames t' = [] ∧
      .closed ∉ t ++ t' ∧ r'.read.1 = some f ∧ r.stats.droppedFrames < r'.stats.droppedFrames ∧
      f.isDiscontinuous = false :=
  ⟨{ maxBytes := 2 }, [], _, _, _, smallFrame 1, .nil, .inl rfl,
    (Run.one (.publish _ oversizedFrame)).snoc (.publish _ (smallFrame 1)), rfl, by simp, rfl,
    by decide, by decide⟩

/-- A queue of two frames: of three frames the first is dropped, and the second is marked. -/
theorem reader_learns_of_gaps_three :
    ∃ (t : List Event) (r : MediaStreamRelay) (f : MediaFrame),
      Run Step { options := { maxFrames := 2, maxBytes := 0 } } t r ∧ r.read.1 = some f ∧
      f.isDiscontinuous := by
  have hrun : Run Step { options := { maxFrames := 2, maxBytes := 0 } } _ _ :=
    ((Run.one (.publish _ (smallFrame 1))).snoc (.publish _ (smallFrame 2))).snoc
      (.publish _ (smallFrame 3))
  obtain ⟨-, -, -, hflag, -⟩ := reader_learns_of_gaps (f := (smallFrame 2).discontinuous) .nil
    (.inl rfl) hrun rfl (by simp) (fun _ _ => .inl rfl) rfl
  exact ⟨_, _, _, hrun, rfl, hflag (by decide)⟩

end MediaStreamRelay

end Axent
