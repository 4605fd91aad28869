/-
  The stream table of one AXTP device (`active_media_streams_` and
  `media_stream_generations_` of `src/adapters/axtp_adapter.cpp`).

  The table changes in sections of `media_stream_mutex_`: a stream is published
  under a new generation of its id, or streams are taken out.  Each section also
  says which lifecycle events its thread has to queue afterwards.  The 64-bit
  generation counters are taken not to wrap.
-/
import Axent.Media

namespace Axent.Axtp

open Lib

inductive MediaKind where
  | unknown
  | video
  | audio
  deriving DecidableEq, Repr

inductive MediaCodec where
  | unknown
  | h264
  | h265
  | aac
  | pcm
  | opaqueData
  deriving DecidableEq, Repr

/-- `MediaStreamDescriptor`, with the fields that only the adapter reads. -/
structure StreamDescriptor extends MediaStreamDescriptor where
  kind : MediaKind := .unknown
  codec : MediaCodec := .unknown
  source : String := ""
  transportFormat : String := ""
  alignment : String := ""
  streamProfile : String := ""
  cursorUnit : String := ""
  sampleRate : ℕ := 0
  channels : ℕ := 0
  width : ℕ := 0
  height : ℕ := 0
  frameRate : ℕ := 0
  reorderDepth : ℕ := 0
  deriving DecidableEq, Repr

namespace StreamDescriptor

def streamId (d : StreamDescriptor) : ℕ := d.key.streamId

def generation (d : StreamDescriptor) : ℕ := d.key.generation

def withGeneration (d : StreamDescriptor) (generation : ℕ) : StreamDescriptor :=
  { d with key := { d.key with generation := generation } }

@[simp] theorem streamId_withGeneration (d : StreamDescriptor) (g : ℕ) :
    (d.withGeneration g).streamId = d.streamId := rfl

@[simp] theorem generation_withGeneration (d : StreamDescriptor) (g : ℕ) :
    (d.withGeneration g).generation = g := rfl

end StreamDescriptor

/-- `MediaStreamEvent`, as the adapter queues it. -/
structure LifecycleEvent where
  kind : MediaStreamEventKind
  descriptor : StreamDescriptor
  reason : MediaStreamEventReason := .unspecified
  deriving DecidableEq, Repr

/-! ## The table -/

theorem noStream_filed (i : ℕ) (d : StreamDescriptor)
    (h : (∅ : Std.TreeMap ℕ StreamDescriptor compare)[i]? = some d) :
    d.streamId = i ∧ d.generation = (fun _ => 0) i ∧ 0 < d.generation := by
  simp at h

/-- The streams that are open, by their ids, and the last generation of each id.
    An open stream has the last generation of its id. -/
structure StreamTable where
  active : Std.TreeMap ℕ StreamDescriptor compare := ∅
  generations : ℕ → ℕ := fun _ => 0
  filed : ∀ (i : ℕ) (d : StreamDescriptor), active[i]? = some d →
    d.streamId = i ∧ d.generation = generations i ∧ 0 < d.generation := by exact noStream_filed

namespace StreamTable

/-- The section of `configure_media_stream_kind` that publishes a stream: the
    table, the stream, and the events of the stream that it replaces and of its
    own. -/
def publish (t : StreamTable) (d : StreamDescriptor) (reason : MediaStreamEventReason) :
    StreamTable × StreamDescriptor × List LifecycleEvent :=
  let generation := t.generations d.streamId + 1
  let descriptor := d.withGeneration generation
  let replaced : List LifecycleEvent := match t.active[d.streamId]? with
    | some current => [{ kind := .closed, descriptor := current, reason := reason }]
    | none => []
  ({ active := t.active.insert d.streamId descriptor
     generations := Function.update t.generations d.streamId generation
     filed := by
      intro i d' h
      rw [Std.TreeMap.getElem?_insert] at h
      split_ifs at h with hi
      · obtain rfl : d.streamId = i := Std.LawfulEqCmp.eq_of_compare hi
        cases h
        simp [descriptor, generation]
      · have hne : i ≠ d.streamId := fun heq => hi (by simp [heq])
        rw [Function.update_of_ne hne]
        exact t.filed i d' h },
    descriptor, replaced ++ [{ kind := .opened, descriptor := descriptor, reason := reason }])

/-- The stream with this id is taken out. -/
def erase (t : StreamTable) (i : ℕ) : StreamTable where
  active := t.active.erase i
  generations := t.generations
  filed := by
    intro j d h
    rw [Std.TreeMap.getElem?_erase] at h
    split_ifs at h
    exact t.filed j d h

/-- Streams are taken out, in this order, with their events. -/
def closeStreams (reason : MediaStreamEventReason) :
    StreamTable → List ℕ → StreamTable × List LifecycleEvent
  | t, [] => (t, [])
  | t, i :: is =>
    match t.active[i]? with
    | some d =>
      let (t', events) := closeStreams reason (t.erase i) is
      (t', { kind := .closed, descriptor := d, reason := reason } :: events)
    | none => closeStreams reason t is

/-- The table section of `clear_media_streams`. -/
def clear (t : StreamTable) (reason : MediaStreamEventReason) :
    StreamTable × List LifecycleEvent :=
  closeStreams reason t t.active.keys

/-! ## What a section does to one id -/

variable {t : StreamTable} {d : StreamDescriptor} {reason : MediaStreamEventReason} {i : ℕ}

theorem generations_publish : (t.publish d reason).1.generations =
    Function.update t.generations d.streamId (t.generations d.streamId + 1) := rfl

theorem generations_closeStreams (is : List ℕ) :
    (closeStreams reason t is).1.generations = t.generations := by
  induction is generalizing t with
  | nil => rfl
  | cons i is ih =>
    unfold closeStreams
    cases t.active[i]? with
    | none => exact ih
    | some d => exact ih

/-- What is still open after a closing section was open before. -/
theorem active_of_closeStreams {is : List ℕ}
    (h : (closeStreams reason t is).1.active[i]? = some d) : t.active[i]? = some d := by
  induction is generalizing t with
  | nil => exact h
  | cons j is ih =>
    unfold closeStreams at h
    cases hcur : t.active[j]? with
    | none =>
      rw [hcur] at h
      exact ih h
    | some d' =>
      rw [hcur] at h
      have hrest := ih (t := t.erase j) h
      rw [erase, Std.TreeMap.getElem?_erase] at hrest
      split_ifs at hrest
      exact hrest

end StreamTable

end Axent.Axtp
