/-
  Media frames, streams and events (`include/axent/media`).

  Of a frame and of a stream descriptor only the fields are kept that the host,
  the subscriptions and the relay read or write.
-/
import Mathlib.Data.List.Nodup
import Axent.Lib.Brackets
import Axent.Lib.DropQueue

namespace Axent

open Lib

/-- `StreamKey`: one generation of a stream, for one lease. -/
structure StreamKey where
  sessionId : String := ""
  streamId : ℕ := 0
  generation : ℕ := 0
  deriving DecidableEq, Repr

structure MediaStreamDescriptor where
  key : StreamKey := {}
  deviceId : String := ""
  deriving DecidableEq, Repr

/-- `active_streams_` and its like, by stream id. -/
abbrev StreamMap := Std.TreeMap ℕ MediaStreamDescriptor compare

/-- The key of the stream that is open under each id. -/
def StreamMap.openKeys (m : StreamMap) : ℕ → Option StreamKey := fun i => m[i]?.map (·.key)

inductive MediaStreamEventKind where
  | opened
  | closed
  deriving DecidableEq, Repr

inductive MediaStreamEventReason where
  | unspecified
  | snapshot
  | initialOpen
  | sourceRecovery
  | sessionRecovery
  | parameterReconfigure
  | shutdown
  deriving DecidableEq, Repr

structure MediaStreamEvent where
  kind : MediaStreamEventKind := .opened
  descriptor : MediaStreamDescriptor := {}
  reason : MediaStreamEventReason := .unspecified
  deriving DecidableEq, Repr

inductive MediaDeliveryEventKind where
  | deliveryDropped
  | subscriptionClosed
  deriving DecidableEq, Repr

structure MediaDeliveryEvent where
  kind : MediaDeliveryEventKind := .subscriptionClosed
  droppedFrames : ℕ := 0
  droppedBytes : ℕ := 0
  deriving DecidableEq, Repr

inductive MediaEventKind where
  | closed
  | dropped
  deriving DecidableEq, Repr

structure MediaEvent where
  kind : MediaEventKind := .closed
  droppedFrames : ℕ := 0
  droppedBytes : ℕ := 0
  deriving DecidableEq, Repr

/-- `MediaFrame`; the flags are the bits of `MediaFrameFlag`. -/
structure MediaFrame where
  sessionId : String := ""
  deviceId : String := ""
  streamId : ℕ := 0
  flags : UInt32 := 0
  payload : List UInt8 := []
  generation : ℕ := 0
  deriving DecidableEq, Repr

/-- `MediaFrameFlag::Discontinuity`. -/
def discontinuity : UInt32 := 4

/-- The frame with `MediaFrameFlag::Discontinuity`. -/
def MediaFrame.discontinuous (f : MediaFrame) : MediaFrame :=
  { f with flags := f.flags ||| discontinuity }

/-- The frame carries the flag `Discontinuity`. -/
def MediaFrame.isDiscontinuous (f : MediaFrame) : Bool := f.flags &&& discontinuity ≠ 0

theorem MediaFrame.isDiscontinuous_discontinuous (f : MediaFrame) :
    f.discontinuous.isDiscontinuous = true := by
  have hflag : (f.flags ||| discontinuity) &&& discontinuity = discontinuity := by
    apply UInt32.toBitVec_inj.1
    ext i hi
    simp only [UInt32.toBitVec_and, UInt32.toBitVec_or, BitVec.getElem_and, BitVec.getElem_or]
    grind
  simp only [isDiscontinuous, discontinuous, hflag]
  rfl

/-- `stream_key`. -/
def MediaFrame.key (f : MediaFrame) : StreamKey where
  sessionId := f.sessionId
  streamId := f.streamId
  generation := f.generation

inductive MediaSubscriptionDispatch where
  | direct
  | asyncQueued
  deriving DecidableEq, Repr

structure MediaSubscriptionOptions where
  dispatch : MediaSubscriptionDispatch := .direct
  maxFrames : ℕ := 2
  maxBytes : ℕ := 2 * 1024 * 1024
  deriving DecidableEq, Repr

structure MediaDeliveryStats where
  receivedFrames : ℕ := 0
  deliveredFrames : ℕ := 0
  droppedFrames : ℕ := 0
  droppedBytes : ℕ := 0
  queuedFrames : ℕ := 0
  queuedBytes : ℕ := 0
  deriving DecidableEq, Repr

/-- Frames as the items of a queue with limits. -/
def frameMarking : Marking MediaFrame where
  size f := f.payload.length
  mark := MediaFrame.discontinuous
  size_mark _ := rfl

@[simp] theorem size_frameMarking (f : MediaFrame) : frameMarking.size f = f.payload.length := rfl

def MediaSubscriptionOptions.limits (o : MediaSubscriptionOptions) : Limits :=
  ⟨o.maxFrames, o.maxBytes⟩

/-! ## Marked frames -/

/-- A frame as it may come out of a queue: as it was, or with the flag
    `Discontinuity`. -/
def MediaFrame.Marked (f f' : MediaFrame) : Prop := f' = f ∨ f' = f.discontinuous

theorem MediaFrame.Marked.trans {f f' f'' : MediaFrame} (h : f.Marked f') (h' : f'.Marked f'') :
    f.Marked f'' := by
  have htwice : f.discontinuous.discontinuous = f.discontinuous := by
    simp only [discontinuous, UInt32.or_assoc, UInt32.or_self]
  rcases h with rfl | rfl
  · exact h'
  · rcases h' with rfl | rfl
    · exact .inr rfl
    · exact .inr htwice

/-! ## Open streams -/

namespace StreamMap

@[simp] theorem openKeys_empty : openKeys ∅ = fun _ => none := by
  funext i
  simp [openKeys]

@[simp] theorem openKeys_insert (m : StreamMap) (i : ℕ) (d : MediaStreamDescriptor) :
    openKeys (m.insert i d) = Function.update m.openKeys i (some d.key) := by
  funext j
  unfold openKeys
  rw [Std.TreeMap.getElem?_insert]
  rcases eq_or_ne i j with rfl | hne
  · simp
  · simp [hne, hne.symm]

@[simp] theorem openKeys_erase (m : StreamMap) (i : ℕ) :
    openKeys (m.erase i) = Function.update m.openKeys i none := by
  funext j
  unfold openKeys
  rw [Std.TreeMap.getElem?_erase]
  rcases eq_or_ne i j with rfl | hne
  · simp
  · simp [hne, hne.symm]

section
variable {m : StreamMap} {P : ℕ → MediaStreamDescriptor → Prop}

theorem forall_insert {j : ℕ} {d : MediaStreamDescriptor}
    (h : ∀ (i : ℕ) x, m[i]? = some x → P i x) (hd : P j d) :
    ∀ (i : ℕ) x, (m.insert j d)[i]? = some x → P i x := by
  intro i x hx
  rw [Std.TreeMap.getElem?_insert] at hx
  split_ifs at hx with hi
  · cases hx
    rwa [← Std.LawfulEqCmp.eq_of_compare hi]
  · exact h i x hx

theorem forall_erase (h : ∀ (i : ℕ) x, m[i]? = some x → P i x) (j : ℕ) :
    ∀ (i : ℕ) x, (m.erase j)[i]? = some x → P i x := by
  intro i x hx
  rw [Std.TreeMap.getElem?_erase] at hx
  split_ifs at hx
  exact h i x hx

end

/-- Every stream is filed under its own id. -/
def Filed (m : StreamMap) : Prop :=
  ∀ (i : ℕ) (d : MediaStreamDescriptor), m[i]? = some d → d.key.streamId = i

theorem filed_empty : Filed ∅ := by
  intro i d h
  simp at h

theorem Filed.insert {m : StreamMap} (h : m.Filed) (d : MediaStreamDescriptor) :
    Filed (m.insert d.key.streamId d) := forall_insert h rfl

theorem Filed.erase {m : StreamMap} (h : m.Filed) (i : ℕ) : Filed (m.erase i) := forall_erase h i

end StreamMap

end Axent
