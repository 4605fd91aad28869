/-
  The order of the frames of one stream in a leaf `AxtpAdapter`
  (`commit_pending_media_batch` of `src/adapters/axtp_adapter.cpp`).

  The owner of the physical session alone commits frames and raises the fences:
  it holds back the frames of a kind while a stream of this kind is being
  opened.  A commit sorts the frames one by one and puts the frames that it
  holds back ahead of those that came in meanwhile.  `Pipeline` has the steps of
  the owner and, between any two of them, every other step of a `Delivery`; its
  runs are runs of the delivery (`Pipeline.run_refines`).

  A commit may let frames of one kind overtake those of another, but a stream
  has one kind as long as its generation is open (`frames_kinded`), so that its
  frames stay in line (`frames_in_order`).
-/
import Mathlib.Data.List.Flatten
import Mathlib.Data.List.Perm.Subperm
import Axent.Axtp.Delivery

namespace Axent.Axtp

open Lib

/-! ## The kind of a stream -/

/-- The kind of a stream that was never configured, by the range of its id. -/
def legacyKind (streamId : ℕ) : MediaKind :=
  if streamId &&& 0xF000 = 0x1000 then .video
  else if streamId &&& 0xF000 = 0x2000 then .audio
  else .unknown

/-- Frames of this generation may be delivered, and have this kind. -/
def StreamTable.Offers (t : StreamTable) (streamId generation : ℕ) (kind : MediaKind) : Prop :=
  (generation = 0 ∧ kind = legacyKind streamId) ∨
    ∃ d, t.active[streamId]? = some d ∧ d.generation = generation ∧ d.kind = kind

/-- The frame is of a generation that has begun, and of the kind of its stream as
    long as it may be delivered. -/
def StreamTable.Kinded (t : StreamTable) (f : IngressFrame) : Prop :=
  f.generation ≤ t.generations f.streamId ∧
    ∀ kind, t.Offers f.streamId f.generation kind → f.kind = kind

theorem StreamTable.kinded_stamp (t : StreamTable) {f : IngressFrame} (hf : f.generation = 0) :
    t.Kinded (t.stamp f) := by
  cases hd : t.active[f.streamId]? with
  | some d =>
    obtain ⟨-, hgen, hpos⟩ := t.filed _ _ hd
    simp only [Kinded, stamp, hd]
    refine ⟨Nat.le_of_eq hgen, fun kind hk => ?_⟩
    rcases hk with ⟨hzero, -⟩ | ⟨d', hd', -, hkind⟩
    · omega
    · rw [hd] at hd'
      cases hd'
      exact hkind
  | none =>
    have hlegacy {kind : MediaKind} {g : ℕ} (h : t.Offers f.streamId g kind) :
        g = 0 ∧ kind = legacyKind f.streamId := by
      rcases h with h | ⟨d, hd', -⟩
      · exact h
      · simp [hd] at hd'
    simp only [Kinded, stamp, hd]
    split_ifs with hknown hvideo haudio
    · exact ⟨Nat.le_refl _, fun kind hk => absurd (hlegacy hk).1 hknown⟩
    all_goals
      refine ⟨by simp [hf], fun kind hk => ?_⟩
      rw [(hlegacy hk).2]
      simp [legacyKind, *]

section
variable {t : List DeliveryEvent} {s s' : Delivery} {e : DeliveryEvent} {f : IngressFrame}

theorem DeliveryStep.generations_le (h : DeliveryStep s e s') (i : ℕ) :
    s.table.generations i ≤ s'.table.generations i := by
  cases h with
  | publish d reason =>
    simp only [StreamTable.generations_publish, Function.update_apply]
    split_ifs with hi
    · subst hi; omega
    · exact Nat.le_refl _
  | close => exact Nat.le_of_eq (congrFun (StreamTable.generations_closeStreams _) i).symm
  | _ => exact Nat.le_refl _

theorem DeliveryStep.offers (h : DeliveryStep s e s') {i g : ℕ} {kind : MediaKind}
    (ho : s'.table.Offers i g kind) :
    s.table.Offers i g kind ∨ g = s.table.generations i + 1 := by
  cases h with
  | publish d reason =>
    rcases ho with ho | ⟨d', hd', hgen, hkind⟩
    · exact .inl (.inl ho)
    · simp only [StreamTable.publish, Std.TreeMap.getElem?_insert] at hd'
      split_ifs at hd' with hi
      · obtain rfl : d.streamId = i := Std.LawfulEqCmp.eq_of_compare hi
        cases hd'
        exact .inr hgen.symm
      · exact .inl (.inr ⟨d', hd', hgen, hkind⟩)
  | close =>
    rcases ho with ho | ⟨d, hd, hd'⟩
    · exact .inl (.inl ho)
    · exact .inl (.inr ⟨d, StreamTable.active_of_closeStreams hd, hd'⟩)
  | _ => exact .inl ho

theorem StreamTable.Kinded.step (h : s.table.Kinded f) (hstep : DeliveryStep s e s') :
    s'.table.Kinded f := by
  refine ⟨Nat.le_trans h.1 (hstep.generations_le _), fun kind hk => ?_⟩
  rcases hstep.offers hk with hk | hnew
  · exact h.2 kind hk
  · have := h.1
    omega

/-- **The kind of a frame** is that of its stream. -/
theorem frames_kinded (h : Run DeliveryStep {} t s) : ∀ f ∈ s.frames, s.table.Kinded f := by
  induction h with
  | nil =>
    intro f hf
    rw [Delivery.mem_frames] at hf
    simp [Dispatcher.frames] at hf
  | snoc hrun hstep ih =>
    intro f hf
    rcases hstep.frames_origin hf with hf | rfl
    · exact (ih f hf).step hstep
    · obtain ⟨f₀, hf₀, rfl⟩ := hstep.ingested
      exact (StreamTable.kinded_stamp _ ((delivery_inv hrun).reading f₀ hf₀).1).step hstep

end

/-! ## The owner of the session -/

/-- Where the owner is in `commit_pending_media_batch`: the frames that it has
    looked at, with the verdict whether they are held back, and the others; or
    before the section that locks the queue of the dispatcher. -/
inductive Committer where
  | idle
  | sorting (sorted : List (IngressFrame × Bool)) (rest : List IngressFrame)
  | pushing

/-- The delivery, with `video_lifecycle_transition_depth_` and
    `audio_lifecycle_transition_depth_`. -/
structure Pipeline where
  media : Delivery := {}
  videoDepth : ℕ := 0
  audioDepth : ℕ := 0
  committer : Committer := .idle

/-- The verdict of a commit on a frame. -/
def Pipeline.holds (s : Pipeline) (f : IngressFrame) : Bool :=
  f.fenced (s.videoDepth ≠ 0) (s.audioDepth ≠ 0)

inductive PipelineEvent where
  | ingested (frame : IngressFrame)
  | media (event : DeliveryEvent)
  | owner

/-- A step that neither brings a frame in nor belongs to a commit. -/
def Outside (m m' : Delivery) : Prop :=
  m'.ingress.Sublist m.ingress ∧ m'.taken = m.taken ∧ m'.batch = m.batch

/-- The steps of the owner, and all others.  The fences change on the owner's
    thread, which commits from there as well, so not during a commit. -/
inductive PipelineStep : Pipeline → PipelineEvent → Pipeline → Prop
  | other {s : Pipeline} {e : DeliveryEvent} {m : Delivery} (h : DeliveryStep s.media e m)
      (ho : Outside s.media m) : PipelineStep s (.media e) { s with media := m }
  | ingest {s : Pipeline} {f : IngressFrame} (h : f ∈ s.media.stamped) :
      PipelineStep s (.ingested f)
        { s with
          media := { s.media with
            stamped := s.media.stamped.erase f
            ingress := s.media.ingress ++ [f] } }
  -- `configure_media_stream_kind`, from its lifecycle guard to the end of it
  | raiseVideo {s : Pipeline} (h : s.committer = .idle) :
      PipelineStep s .owner { s with videoDepth := s.videoDepth + 1 }
  | raiseAudio {s : Pipeline} (h : s.committer = .idle) :
      PipelineStep s .owner { s with audioDepth := s.audioDepth + 1 }
  | lowerVideo {s : Pipeline} (h : s.committer = .idle) :
      PipelineStep s .owner { s with videoDepth := s.videoDepth - 1 }
  | lowerAudio {s : Pipeline} (h : s.committer = .idle) :
      PipelineStep s .owner { s with audioDepth := s.audioDepth - 1 }
  -- `commit_pending_media_batch`
  | take {s : Pipeline} (h : s.committer = .idle) :
      PipelineStep s .owner
        { s with
          media := { s.media with ingress := [], taken := s.media.taken ++ s.media.ingress }
          committer := .sorting [] s.media.ingress }
  | sort {s : Pipeline} {sorted : List (IngressFrame × Bool)} {f : IngressFrame}
      {rest : List IngressFrame} (h : s.committer = .sorting sorted (f :: rest)) :
      PipelineStep s .owner { s with committer := .sorting (sorted ++ [(f, s.holds f)]) rest }
  | putBack {s : Pipeline} {sorted : List (IngressFrame × Bool)}
      (h : s.committer = .sorting sorted []) :
      PipelineStep s .owner
        { s with
          media := { s.media with
            taken := []
            ingress := (sorted.filter (·.2)).map (·.1) ++ s.media.ingress
            batch := s.media.batch ++ (sorted.filter (!·.2)).map (·.1) }
          committer := .pushing }
  | push {s : Pipeline} (h : s.committer = .pushing) :
      PipelineStep s .owner
        { s with
          media := { s.media with
            batch := []
            queue := s.media.queue ++ s.media.batch.map .frame }
          committer := .idle }

/-! ## The owner refines the delivery -/

/-- The frames of a commit are those that were taken, with the verdict that is
    still right. -/
def Pipeline.Owned (s : Pipeline) : Prop :=
  match s.committer with
  | .idle => s.media.taken = []
  | .sorting sorted rest => s.media.taken = sorted.map (·.1) ++ rest ∧
      ∀ p ∈ sorted, p.2 = s.holds p.1
  | .pushing => s.media.taken = []

section
variable {t : List PipelineEvent} {s s' : Pipeline} {e : PipelineEvent}

theorem filter_verdicts {sorted : List (IngressFrame × Bool)} {holds : IngressFrame → Bool}
    (h : ∀ p ∈ sorted, p.2 = holds p.1) :
    (sorted.filter (·.2)).map (·.1) = (sorted.map (·.1)).filter holds ∧
      (sorted.filter (!·.2)).map (·.1) = (sorted.map (·.1)).filter (!holds ·) := by
  constructor
  · rw [List.filter_map, List.filter_congr (q := holds ∘ (·.1)) fun p hp => h p hp]
  · rw [List.filter_map, List.filter_congr (q := (!holds ·) ∘ (·.1)) fun p hp => by simp [h p hp]]

theorem Pipeline.Owned.step (h : s.Owned) (hstep : PipelineStep s e s') : s'.Owned := by
  unfold Owned at *
  cases hstep with
  | other hd ho =>
    simp only [ho.2.1]
    exact h
  | ingest => exact h
  | raiseVideo hc | raiseAudio hc | lowerVideo hc | lowerAudio hc =>
    simp only [hc] at h ⊢
    exact h
  | take hc =>
    simp only [hc] at h
    simp [h]
  | sort hc =>
    simp only [hc] at h ⊢
    obtain ⟨htaken, hv⟩ := h
    refine ⟨by simp [htaken], fun p hp => ?_⟩
    rcases List.mem_append.1 hp with hp | hp
    · exact hv p hp
    · obtain rfl := List.mem_singleton.1 hp
      rfl
  | putBack => rfl
  | push hc => simpa only [hc] using h

theorem Pipeline.owned (h : Run PipelineStep {} t s) : s.Owned :=
  h.keeps (P := Pipeline.Owned) (fun h hstep => h.step hstep) rfl

/-- A step of the pipeline is one of the delivery, or none. -/
theorem PipelineStep.refines (h : PipelineStep s e s') (hs : s.Owned) :
    s'.media = s.media ∨ ∃ e', DeliveryStep s.media e' s'.media := by
  cases h with
  | other hd => exact .inr ⟨_, hd⟩
  | ingest hf => exact .inr ⟨_, .ingest hf⟩
  | raiseVideo | raiseAudio | lowerVideo | lowerAudio | sort => exact .inl rfl
  | take => exact .inr ⟨_, .take⟩
  | putBack hc =>
    simp only [Pipeline.Owned, hc, List.append_nil] at hs
    obtain ⟨hheld, hfree⟩ := filter_verdicts hs.2
    rw [hheld, hfree, ← hs.1]
    exact .inr ⟨_, .split (s.videoDepth ≠ 0) (s.audioDepth ≠ 0)⟩
  | push => exact .inr ⟨_, .push⟩

/-- **The runs of the pipeline** are runs of the delivery. -/
theorem Pipeline.run_refines (h : Run PipelineStep {} t s) :
    ∃ t', Run DeliveryStep {} t' s.media := by
  induction h with
  | nil => exact ⟨[], .nil⟩
  | snoc hrun hstep ih =>
    obtain ⟨t', ih⟩ := ih
    rcases hstep.refines (Pipeline.owned hrun) with heq | ⟨e', hd⟩
    · exact ⟨t', heq ▸ ih⟩
    · exact ⟨_, ih.snoc hd⟩

end

/-! ## Frames in line -/

/-- The frames that wait for the callback, the next one first. -/
def Delivery.line (m : Delivery) : List IngressFrame :=
  m.dispatcher.frames ++ m.queue.flatMap DispatchItem.frames ++ m.batch ++ m.taken ++ m.ingress

/-- The frames that came in, in this order. -/
def ingestedFrames (t : List PipelineEvent) : List IngressFrame :=
  t.filterMap fun
    | .ingested f => some f
    | _ => none

/-- The frames that the callback was called with, in this order. -/
def calledFrames (t : List PipelineEvent) : List IngressFrame :=
  t.filterMap fun
    | .media (.called (.frame f)) => some f
    | _ => none

/-- The frame is of this stream and generation. -/
def IngressFrame.isOf (streamId generation : ℕ) (f : IngressFrame) : Bool :=
  f.streamId = streamId ∧ f.generation = generation

/-- The frame is of this stream, generation and kind. -/
def IngressFrame.isOfKind (streamId generation : ℕ) (kind : MediaKind) (f : IngressFrame) : Bool :=
  f.isOf streamId generation ∧ f.kind = kind

theorem Delivery.mem_frames_of_line {m : Delivery} {f : IngressFrame} (h : f ∈ m.line) :
    f ∈ m.frames := by
  simp only [Delivery.line, Delivery.frames, List.mem_append] at h ⊢
  tauto

theorem flatMap_frames_frame (l : List IngressFrame) :
    (l.map DispatchItem.frame).flatMap DispatchItem.frames = l := by
  simp [List.flatMap_map, DispatchItem.frames, List.flatMap_singleton']

theorem flatMap_frames_event (l : List LifecycleEvent) :
    (l.map DispatchItem.event).flatMap DispatchItem.frames = [] := by
  simp [DispatchItem.frames]

section
variable {m m' : Delivery} {e : DeliveryEvent} {f : IngressFrame}

/-- The line only gets shorter outside of a commit; the frame that is called is
    the first one. -/
theorem DeliveryStep.line (h : DeliveryStep m e m') (ho : Outside m m') :
    (∃ f, e = .called (.frame f) ∧ m.dispatcher = .calling f ∧ m'.dispatcher = .idle ∧
      m'.table = m.table ∧ m.line = f :: m'.line) ∨
    (∀ f, e ≠ .called (.frame f)) ∧ m'.line.Sublist m.line := by
  obtain ⟨hingress, htaken, hbatch⟩ := ho
  cases h with
  | callFrame hc =>
    exact .inl ⟨_, rfl, hc, rfl, rfl, by simp [Delivery.line, hc, Dispatcher.frames]⟩
  | dropIngress deviceId =>
    refine .inr ⟨by simp, List.Sublist.append_left ?_ _⟩
    exact List.filter_sublist
  | dropQueue deviceId =>
    refine .inr ⟨by simp, ?_⟩
    simp only [Delivery.line, List.append_assoc]
    refine List.Sublist.append_left (List.Sublist.append_right ?_ _) _
    exact List.filter_sublist.flatMap _
  | enqueue party =>
    refine .inr ⟨by simp, ?_⟩
    simp [Delivery.line, flatMap_frames_event]
  | ingest =>
    have hlength := hingress.length_le
    simp only [List.length_append, List.length_singleton] at hlength
    omega
  | take =>
    have hnil : m.ingress = [] := List.append_right_eq_self.1 htaken
    exact .inr ⟨by simp, by simp [Delivery.line, hnil]⟩
  | split video audio =>
    have hnil : m.taken = [] := htaken.symm
    exact .inr ⟨by simp, by simp [Delivery.line, hnil]⟩
  | push =>
    have hnil : m.batch = [] := hbatch.symm
    exact .inr ⟨by simp, by simp [Delivery.line, hnil]⟩
  | pop hidle hq =>
    exact .inr ⟨by simp, by simp [Delivery.line, hidle, hq, Dispatcher.frames]⟩
  | callEvent hc | refuse hc | outdated hc =>
    exact .inr ⟨by simp, by simp [Delivery.line, hc, Dispatcher.frames, DispatchItem.frames]⟩
  | admitFrame hc | passLegacy hc | pass hc =>
    exact .inr ⟨by simp, by simp [Delivery.line, hc, Dispatcher.frames, DispatchItem.frames]⟩
  | _ => exact .inr ⟨by simp, List.Sublist.refl _⟩

/-- The frame that is about to be called is the first in line, and its generation
    was offered when it passed. -/
theorem DeliveryStep.calling (h : DeliveryStep m e m') (hf : m'.dispatcher = .calling f) :
    m.dispatcher = .calling f ∨
      (∃ kind, m.table.Offers f.streamId f.generation kind) ∧ (∃ rest, m.line = f :: rest) ∧
        e = .passed f := by
  cases h with
  | passLegacy hc hb hg =>
    cases hf
    refine .inr ⟨⟨_, .inl ⟨hg, rfl⟩⟩, ?_, rfl⟩
    simp [Delivery.line, hc, Dispatcher.frames, DispatchItem.frames]
  | pass hc ht =>
    cases hf
    unfold StreamTable.carries at ht
    cases hd : m.table.active[f.streamId]? with
    | none => simp [hd] at ht
    | some d =>
      simp only [hd, decide_eq_true_eq] at ht
      refine .inr ⟨⟨d.kind, .inr ⟨d, hd, ht.2, rfl⟩⟩, ?_, rfl⟩
      simp [Delivery.line, hc, Dispatcher.frames]
  | pop | callEvent | refuse | admitFrame | outdated | callFrame => cases hf
  | _ => exact .inl hf

end

/-! ## Sorting keeps the line of a stream -/

/-- A kind is held back or let through as a whole. -/
theorem filter_fenced (video audio : Bool) (x g : ℕ) (kind : MediaKind) (l : List IngressFrame) :
    (l.filter (!·.fenced video audio)).filter (·.isOfKind x g kind) ++
      (l.filter (·.fenced video audio)).filter (·.isOfKind x g kind) =
    l.filter (·.isOfKind x g kind) := by
  have hkind : ∃ b, ∀ f : IngressFrame, f.isOfKind x g kind → f.fenced video audio = b := by
    simp only [IngressFrame.isOfKind, decide_eq_true_eq]
    cases kind with
    | video => exact ⟨video, fun f hf => by simp [IngressFrame.fenced, hf.2]⟩
    | audio => exact ⟨audio, fun f hf => by simp [IngressFrame.fenced, hf.2]⟩
    | unknown => exact ⟨video || audio, fun f hf => by simp [IngressFrame.fenced, hf.2]⟩
  obtain ⟨b, hb⟩ := hkind
  have hall (q : IngressFrame → Bool) (hq : ∀ f, f.isOfKind x g kind → q f = true) :
      (l.filter q).filter (·.isOfKind x g kind) = l.filter (·.isOfKind x g kind) := by
    rw [List.filter_filter]
    exact List.filter_congr fun f _ => by cases hf : f.isOfKind x g kind <;> simp [hq, hf]
  have hnone (q : IngressFrame → Bool) (hq : ∀ f, f.isOfKind x g kind → q f = false) :
      (l.filter q).filter (·.isOfKind x g kind) = [] := by
    rw [List.filter_filter, List.filter_eq_nil_iff]
    intro f _
    cases hf : f.isOfKind x g kind <;> simp [hq, hf]
  cases b with
  | true =>
    rw [hnone _ fun f hf => by simp [hb f hf], hall _ hb, List.nil_append]
  | false =>
    rw [hall _ fun f hf => by simp [hb f hf], hnone _ hb, List.append_nil]

section
variable {t : List PipelineEvent} {s s' : Pipeline} {e : PipelineEvent} {f : IngressFrame}
  {m : Delivery}

theorem PipelineStep.owner_line (h : PipelineStep s .owner s') (hs : s.Owned) (x g : ℕ)
    (kind : MediaKind) :
    s'.media.line.filter (·.isOfKind x g kind) = s.media.line.filter (·.isOfKind x g kind) := by
  cases h with
  | raiseVideo | raiseAudio | lowerVideo | lowerAudio | sort => rfl
  | take hc => simp [Delivery.line]
  | putBack hc =>
    simp only [Pipeline.Owned, hc, List.append_nil] at hs
    obtain ⟨hheld, hfree⟩ := filter_verdicts hs.2
    rw [hheld, hfree, ← hs.1]
    have hline := filter_fenced (s.videoDepth ≠ 0) (s.audioDepth ≠ 0) x g kind s.media.taken
    simp only [Delivery.line, List.filter_append, List.append_assoc, List.nil_append]
    rw [← hline, List.append_assoc]
    rfl
  | push hc => simp [Delivery.line, List.flatMap_append, flatMap_frames_frame]

theorem PipelineStep.owner_same (h : PipelineStep s .owner s') :
    s'.media.table = s.media.table ∧ s'.media.dispatcher = s.media.dispatcher ∧
      s'.media.decoded = s.media.decoded ∧ s'.media.runtime = s.media.runtime ∧
      s'.media.reading = s.media.reading ∧ s'.media.stamped = s.media.stamped := by
  cases h <;> exact ⟨rfl, rfl, rfl, rfl, rfl, rfl⟩

/-! ## Order -/

/-- The frame that has passed and is about to be called. -/
def Dispatcher.next : Dispatcher → List IngressFrame
  | calling f => [f]
  | _ => []

/-- The frames of a stream that were called, and then those in line as long as
    they may be called, came in in this order. -/
structure FrameOrder (t : List PipelineEvent) (s : Pipeline) : Prop where
  begun : ∀ f ∈ ingestedFrames t, f.generation ≤ s.media.table.generations f.streamId
  called : ∀ x g, ((calledFrames t ++ s.media.dispatcher.next).filter (·.isOf x g)).Sublist
    (ingestedFrames t)
  line : ∀ x g kind, s.media.table.Offers x g kind →
    ((calledFrames t).filter (·.isOf x g) ++
      s.media.line.filter (·.isOfKind x g kind)).Sublist (ingestedFrames t)

theorem FrameOrder.begun_of_called (h : FrameOrder t s) (hf : f ∈ calledFrames t) :
    f.generation ≤ s.media.table.generations f.streamId := by
  refine h.begun f ((h.called f.streamId f.generation).subset ?_)
  simp [IngressFrame.isOf, hf]

theorem filter_isOfKind_cons {x g : ℕ} {kind : MediaKind} {l : List IngressFrame}
    (hf : f.isOf x g = true → f.kind = kind) :
    (f :: l).filter (·.isOfKind x g kind) =
      [f].filter (·.isOf x g) ++ l.filter (·.isOfKind x g kind) := by
  have hsame : f.isOfKind x g kind = f.isOf x g := by
    cases h : f.isOf x g <;> simp [IngressFrame.isOfKind, h]
    exact hf h
  cases h : f.isOf x g <;> simp [hsame, h]

/-- The first frame in line is of the kind that its stream offers. -/
theorem kind_of_first {rest : List IngressFrame} {x g : ℕ} {kind : MediaKind}
    (hkinded : ∀ f ∈ s.media.frames, s.media.table.Kinded f) (hline : s.media.line = f :: rest)
    (hk : s.media.table.Offers x g kind) (hf : f.isOf x g = true) : f.kind = kind := by
  simp only [IngressFrame.isOf, decide_eq_true_eq] at hf
  obtain ⟨rfl, rfl⟩ := hf
  exact (hkinded f (Delivery.mem_frames_of_line (by simp [hline]))).2 kind hk

theorem FrameOrder.call (h : FrameOrder t s)
    (hkinded : ∀ f ∈ s.media.frames, s.media.table.Kinded f)
    (hcalling : s.media.dispatcher = .calling f) (hidle : m.dispatcher = .idle)
    (htable : m.table = s.media.table) (hline : s.media.line = f :: m.line) :
    FrameOrder (t ++ [.media (.called (.frame f))]) { s with media := m } := by
  have hingested : ingestedFrames (t ++ [.media (.called (.frame f))]) = ingestedFrames t := by
    simp [ingestedFrames]
  have hcalled : calledFrames (t ++ [.media (.called (.frame f))]) = calledFrames t ++ [f] := by
    simp [calledFrames]
  constructor
  case begun =>
    rw [hingested, htable]
    exact h.begun
  case called =>
    intro x g
    have hold := h.called x g
    rw [hcalling] at hold
    rw [hingested, hcalled, hidle]
    simpa only [Dispatcher.next, List.append_nil] using hold
  case line =>
    intro x g kind hk
    rw [htable] at hk
    have hold := h.line x g kind hk
    rw [hline, filter_isOfKind_cons (kind_of_first hkinded hline hk)] at hold
    rw [hingested, hcalled]
    simpa only [List.filter_append, List.append_assoc] using hold

theorem FrameOrder.wait {e : DeliveryEvent} (h : FrameOrder t s)
    (hkinded : ∀ f ∈ s.media.frames, s.media.table.Kinded f) (hstep : DeliveryStep s.media e m)
    (he : ∀ f, e ≠ .called (.frame f)) (hline : m.line.Sublist s.media.line) :
    FrameOrder (t ++ [.media e]) { s with media := m } := by
  have hingested : ingestedFrames (t ++ [.media e]) = ingestedFrames t := by
    simp [ingestedFrames]
  have hcalled : calledFrames (t ++ [.media e]) = calledFrames t := by
    unfold calledFrames
    rw [filterMap_concat]
    split
    next f heq =>
      cases heq
      exact absurd rfl (he f)
    next => simp
  constructor
  case begun =>
    intro f hf
    rw [hingested] at hf
    exact Nat.le_trans (h.begun f hf) (hstep.generations_le _)
  case called =>
    intro x g
    rw [hingested, hcalled]
    have hearlier := ((List.sublist_append_left (calledFrames t) s.media.dispatcher.next).filter
      (·.isOf x g)).trans (h.called x g)
    cases hnext : m.dispatcher with
    | calling f =>
      rcases hstep.calling hnext with hcalling | ⟨⟨kind, hk⟩, ⟨rest, hfirst⟩, -⟩
      · have hold := h.called x g
        rwa [hcalling] at hold
      · -- the frame has passed: it was the first in line
        by_cases hf : f.isOf x g = true
        · have hmine := hf
          simp only [IngressFrame.isOf, decide_eq_true_eq] at hmine
          obtain ⟨rfl, rfl⟩ := hmine
          have hold := h.line _ _ kind hk
          rw [hfirst, filter_isOfKind_cons (kind_of_first hkinded hfirst hk),
            ← List.append_assoc, ← List.filter_append] at hold
          exact (List.sublist_append_left _ _).trans hold
        · simpa [Dispatcher.next, List.filter_append, hf] using hearlier
    | idle | popped | admitted => simpa [Dispatcher.next] using hearlier
  case line =>
    intro x g kind hk
    rw [hingested, hcalled]
    rcases hstep.offers hk with hk | hnew
    · exact ((hline.filter _).append_left _).trans (h.line x g kind hk)
    · -- no frame of the new generation has come in
      have hnone : (calledFrames t).filter (·.isOf x g) = [] := by
        rw [List.filter_eq_nil_iff]
        intro f hf hmine
        simp only [IngressFrame.isOf, decide_eq_true_eq] at hmine
        have := h.begun_of_called hf
        rw [hmine.1] at this
        omega
      have hnone' : m.line.filter (·.isOfKind x g kind) = [] := by
        rw [List.filter_eq_nil_iff]
        intro f hf hmine
        simp only [IngressFrame.isOfKind, IngressFrame.isOf, decide_eq_true_eq] at hmine
        have := (hkinded f (Delivery.mem_frames_of_line (hline.subset hf))).1
        rw [hmine.1.1] at this
        omega
      simp [hnone, hnone']

theorem FrameOrder.ingest (h : FrameOrder t s) (hf : s.media.table.Kinded f)
    (htable : m.table = s.media.table) (hnext : m.dispatcher = s.media.dispatcher)
    (hline : m.line = s.media.line ++ [f]) :
    FrameOrder (t ++ [.ingested f]) { s with media := m } := by
  have hingested : ingestedFrames (t ++ [.ingested f]) = ingestedFrames t ++ [f] := by
    simp [ingestedFrames]
  have hcalled : calledFrames (t ++ [.ingested f]) = calledFrames t := by
    simp [calledFrames]
  constructor
  case begun =>
    intro f' hf'
    rw [hingested, List.mem_append, List.mem_singleton] at hf'
    rw [htable]
    rcases hf' with hf' | rfl
    · exact h.begun f' hf'
    · exact hf.1
  case called =>
    intro x g
    rw [hingested, hcalled, hnext]
    exact (h.called x g).trans (List.sublist_append_left _ _)
  case line =>
    intro x g kind hk
    rw [htable] at hk
    rw [hingested, hcalled, hline, List.filter_append, ← List.append_assoc]
    exact (h.line x g kind hk).append List.filter_sublist

theorem FrameOrder.step (h : FrameOrder t s) (hs : s.Owned)
    (hkinded : ∀ f ∈ s.media.frames, s.media.table.Kinded f) (hstep : PipelineStep s e s') :
    FrameOrder (t ++ [e]) s' := by
  cases e with
  | owner =>
    obtain ⟨htable, hnext, -⟩ := hstep.owner_same
    have hingested : ingestedFrames (t ++ [.owner]) = ingestedFrames t := by simp [ingestedFrames]
    have hcalled : calledFrames (t ++ [.owner]) = calledFrames t := by simp [calledFrames]
    constructor
    · rw [hingested, htable]
      exact h.begun
    · rw [hingested, hcalled, hnext]
      exact h.called
    · intro x g kind hk
      rw [htable] at hk
      rw [hingested, hcalled, hstep.owner_line hs]
      exact h.line x g kind hk
  | ingested f =>
    cases hstep with
    | ingest hf =>
      refine h.ingest (hkinded f (Delivery.mem_frames.2 (.inl hf))) rfl rfl ?_
      simp [Delivery.line]
  | media e =>
    cases hstep with
    | other hd ho =>
      rcases hd.line ho with ⟨f, rfl, hcalling, hidle, htable, hline⟩ | ⟨he, hline⟩
      · exact h.call hkinded hcalling hidle htable hline
      · exact h.wait hkinded hd he hline

theorem frame_order (h : Run PipelineStep {} t s) : FrameOrder t s := by
  induction h with
  | nil => constructor <;> simp [ingestedFrames, calledFrames, Delivery.line, Dispatcher.frames,
      Dispatcher.next]
  | snoc hrun hstep ih =>
    obtain ⟨t', hrun'⟩ := Pipeline.run_refines hrun
    exact ih.step (Pipeline.owned hrun) (frames_kinded hrun') hstep

/-! ## Each frame at most once -/

/-- The numbers of the payloads that have not come in yet. -/
def Delivery.waiting (m : Delivery) : List ℕ :=
  m.stamped.map (·.number) ++ m.reading.map (·.number) ++ m.runtime.map (·.number)

theorem perm_map_erase {α : Type} [DecidableEq α] (number : α → ℕ) {l : List α} {a : α}
    (h : a ∈ l) : (l.map number).Perm (number a :: (l.erase a).map number) :=
  (List.perm_cons_erase h).map number

/-- A payload is numbered when it is decoded. -/
theorem DeliveryStep.waiting {e : DeliveryEvent} {m' : Delivery} (h : DeliveryStep m e m')
    (ho : Outside m m') : (m'.decoded = m.decoded ∧ m'.waiting.Subperm m.waiting) ∨
      (m'.decoded = m.decoded + 1 ∧ m'.waiting = m.waiting ++ [m.decoded]) := by
  cases h with
  | decode deviceId streamId sequenceId cursor data hp =>
    exact .inr ⟨rfl, by simp [Delivery.waiting, hp]⟩
  | lose p =>
    refine .inl ⟨rfl, List.Sublist.subperm (List.Sublist.append_left ?_ _)⟩
    exact List.erase_sublist.map _
  | read hp =>
    refine .inl ⟨rfl, List.Perm.subperm ?_⟩
    simp only [Delivery.waiting, List.map_append, List.map_singleton, List.append_assoc]
    refine List.Perm.append_left _ (List.Perm.append_left _ ?_)
    exact (perm_map_erase (·.number) hp).symm
  | @stamp f hf =>
    refine .inl ⟨rfl, List.Perm.subperm ?_⟩
    simp only [Delivery.waiting, List.map_append, List.map_singleton, List.append_assoc,
      (m.table.stamp_same f).1]
    refine List.Perm.append_left _ ?_
    rw [← List.append_assoc]
    exact (perm_map_erase (·.number) hf).symm.append_right _
  | ingest =>
    have hlength := ho.1.length_le
    simp only [List.length_append, List.length_singleton] at hlength
    omega
  | _ => exact .inl ⟨rfl, List.Subperm.refl _⟩

/-- The payloads have different numbers. -/
def Numbered (t : List PipelineEvent) (s : Pipeline) : Prop :=
  ((ingestedFrames t).map (·.number) ++ s.media.waiting).Nodup ∧
    ∀ n ∈ (ingestedFrames t).map (·.number) ++ s.media.waiting, n < s.media.decoded

theorem Numbered.of_subperm {l l' : List ℕ} {n : ℕ} (h : l.Nodup ∧ ∀ k ∈ l, k < n)
    (hsub : l'.Subperm l) : l'.Nodup ∧ ∀ k ∈ l', k < n := by
  obtain ⟨l₁, hperm, hsublist⟩ := hsub
  exact ⟨hperm.nodup_iff.1 (hsublist.nodup h.1), fun k hk =>
    h.2 k (hsublist.subset (hperm.mem_iff.2 hk))⟩

theorem Numbered.step (h : Numbered t s) (hstep : PipelineStep s e s') :
    Numbered (t ++ [e]) s' := by
  cases e with
  | owner =>
    obtain ⟨-, -, hdecoded, hruntime, hreading, hstamped⟩ := hstep.owner_same
    simpa [Numbered, Delivery.waiting, ingestedFrames, hdecoded, hruntime, hreading, hstamped]
      using h
  | ingested f =>
    cases hstep with
    | ingest hf =>
      refine Numbered.of_subperm h (List.Perm.subperm ?_)
      have hin : ingestedFrames (t ++ [.ingested f]) = ingestedFrames t ++ [f] := by
        simp [ingestedFrames]
      simp only [Delivery.waiting, hin, List.map_append, List.map_singleton, List.append_assoc]
      refine List.Perm.append_left _ ?_
      simp only [← List.append_assoc]
      refine List.Perm.append_right _ (List.Perm.append_right _ ?_)
      exact (perm_map_erase (·.number) hf).symm
  | media e =>
    cases hstep with
    | other hd ho =>
      have hin : ingestedFrames (t ++ [.media e]) = ingestedFrames t := by simp [ingestedFrames]
      unfold Numbered at h ⊢
      rw [hin]
      rcases hd.waiting ho with ⟨hdecoded, hsub⟩ | ⟨hdecoded, hnew⟩
      · rw [hdecoded]
        exact Numbered.of_subperm h ((List.subperm_append_left _).2 hsub)
      · -- the number of the new payload is larger than all others
        simp only [hdecoded, hnew, ← List.append_assoc]
        refine ⟨?_, fun n hn => ?_⟩
        · refine List.Nodup.append h.1 (List.nodup_singleton _) ?_
          rw [List.disjoint_singleton]
          exact fun hmem => Nat.lt_irrefl _ (h.2 _ hmem)
        · rcases List.mem_append.1 hn with hn | hn
          · exact Nat.lt_succ_of_lt (h.2 n hn)
          · rw [List.mem_singleton.1 hn]
            exact Nat.lt_succ_self _

/-- **The frames of a stream are delivered in order**: for every stream id and
    generation, the frames that are handed to the callback are frames that came
    in, in the order in which they came in, and each at most once. -/
theorem frames_in_order {t : List PipelineEvent} {s : Pipeline} (h : Run PipelineStep {} t s)
    (streamId generation : ℕ) :
    ((calledFrames t).filter (·.isOf streamId generation)).Sublist
        ((ingestedFrames t).filter (·.isOf streamId generation)) ∧
      (((calledFrames t).filter (·.isOf streamId generation)).map (·.number)).Nodup := by
  have hcalled : ((calledFrames t).filter (·.isOf streamId generation)).Sublist
      (ingestedFrames t) :=
    ((List.sublist_append_left _ _).filter _).trans ((frame_order h).called streamId generation)
  have hnumbered : Numbered t s :=
    h.inv (I := Numbered) ⟨by simp [ingestedFrames, Delivery.waiting], by
      simp [ingestedFrames, Delivery.waiting]⟩ fun hi hstep => hi.step hstep
  constructor
  · have hfiltered := hcalled.filter (·.isOf streamId generation)
    rwa [List.filter_filter, List.filter_congr fun f _ => Bool.and_self _] at hfiltered
  · exact (hcalled.map _).nodup (List.nodup_append.1 hnumbered.1).1

end

/-- A frame is held back while its kind is fenced, and the next one comes in
    before it is put back. -/
theorem frames_in_order_fenced : ∃ t s, Run PipelineStep {} t s ∧
    (calledFrames t).map (·.number) = [0, 1] ∧
    ((calledFrames t).filter (·.isOf 4097 0)).Sublist
      ((ingestedFrames t).filter (·.isOf 4097 0)) := by
  have h := Run.one (PipelineStep.other (s := {}) (.decode "d1" 4097 1 10 [1] rfl)
    ⟨.refl _, rfl, rfl⟩)
  replace h := h.snoc (.other (.decode "d1" 4097 2 20 [2] rfl) ⟨.refl _, rfl, rfl⟩)
  replace h := h.snoc (.other (.read (List.mem_cons_self ..)) ⟨.refl _, rfl, rfl⟩)
  replace h := h.snoc (.other (.read (List.mem_cons_self ..)) ⟨.refl _, rfl, rfl⟩)
  replace h := h.snoc (.other (.stamp (List.mem_cons_self ..) rfl) ⟨.refl _, rfl, rfl⟩)
  replace h := h.snoc (.other (.stamp (List.mem_cons_self ..) rfl) ⟨.refl _, rfl, rfl⟩)
  replace h := h.snoc (.ingest (List.mem_cons_self ..))
  replace h := h.snoc (.raiseVideo rfl)
  replace h := h.snoc (.take rfl)
  replace h := h.snoc (.sort rfl)
  replace h := h.snoc (.ingest (List.mem_cons_self ..))
  replace h := h.snoc (.putBack rfl)
  replace h := h.snoc (.push rfl)
  replace h := h.snoc (.lowerVideo rfl)
  replace h := h.snoc (.take rfl)
  replace h := h.snoc (.sort rfl)
  replace h := h.snoc (.sort rfl)
  replace h := h.snoc (.putBack rfl)
  replace h := h.snoc (.push rfl)
  replace h := h.snoc (.other (.pop rfl rfl) ⟨.refl _, rfl, rfl⟩)
  replace h := h.snoc (.other (.passLegacy rfl (by decide) (by decide)) ⟨.refl _, rfl, rfl⟩)
  replace h := h.snoc (.other (.callFrame rfl) ⟨.refl _, rfl, rfl⟩)
  replace h := h.snoc (.other (.pop rfl rfl) ⟨.refl _, rfl, rfl⟩)
  replace h := h.snoc (.other (.passLegacy rfl (by decide) (by decide)) ⟨.refl _, rfl, rfl⟩)
  replace h := h.snoc (.other (.callFrame rfl) ⟨.refl _, rfl, rfl⟩)
  exact ⟨_, _, h, by decide, (frames_in_order h 4097 0).1⟩

end Axent.Axtp
