/-
  Frames and lifecycle events on their way through a leaf `AxtpAdapter`
  (`src/adapters/axtp_adapter.cpp`).

  The AXTP runtime stamps a payload with the ingress token when it decodes it;
  the payload handler reads the session and the generation of the frame; a
  commit moves frames to the queue of the dispatcher, which checks each frame
  once more before it calls back.  Meanwhile sessions are bound and unbound,
  and the stream table changes.  `DeliveryStep` has one step for each locked
  section, so that everything interleaves.

  `frames_keep_provenance`: a frame that passes the last check was decoded under
  the binding and read under the generation that are in force at the check.
  The binding epoch, a 64-bit counter, is taken not to wrap.
-/
import Axent.Axtp.Streams
import Axent.Lib.Run

namespace Axent.Axtp

open Lib Function

/-! ## Bindings -/

/-- `media_delivery_sessions_` and `media_binding_epoch_`. -/
structure Bindings where
  sessions : String → Option String := fun _ => none
  epoch : ℕ := 1

namespace Bindings

/-- The first section of `bind_media_delivery_session`. -/
def bind (b : Bindings) (deviceId sessionId : String) : Bindings where
  sessions := update b.sessions deviceId (some sessionId)
  epoch := b.epoch + 1

/-- What the first section of `unbind_media_delivery_session` removes. -/
def isBoundTo (b : Bindings) (deviceId sessionId : String) : Bool :=
  b.sessions deviceId = some sessionId

/-- A binding is removed. -/
def remove (b : Bindings) (deviceId : String) : Bindings where
  sessions := update b.sessions deviceId none
  epoch := b.epoch + 1

/-- `has_media_delivery_session`. -/
def hasMediaDeliverySession (b : Bindings) (deviceId : String) : Bool :=
  match b.sessions deviceId with
  | some sessionId => sessionId ≠ ""
  | none => false

/-- The ingress token provider of the client. -/
def ingressToken (b : Bindings) (deviceId : String) : ℕ :=
  match b.sessions deviceId with
  | some _ => b.epoch
  | none => 0

end Bindings

/-! ## Frames -/

/-- A stream payload in the AXTP runtime.  `number` counts the payloads. -/
structure StreamPayload where
  number : ℕ
  deviceId : String
  streamId : ℕ
  sequenceId : ℕ
  cursor : ℕ
  data : List UInt8
  ingressToken : ℕ
  deriving DecidableEq, Repr

/-- `MediaFrame`, with the fields that the adapter fills in.  `number` is that of
    its payload and not part of the source. -/
structure IngressFrame extends MediaFrame where
  number : ℕ
  sequenceId : ℕ
  cursor : ℕ
  timestampUs : ℕ
  bindingEpoch : ℕ
  kind : MediaKind := .unknown
  codec : MediaCodec := .unknown
  deriving DecidableEq, Repr

/-- `MediaFrameFlag::EndOfFrame`. -/
def endOfFrame : UInt32 := 8

/-- The first part of `frame_from_stream`: the session that is bound. -/
def Bindings.frameOf (b : Bindings) (p : StreamPayload) : IngressFrame where
  deviceId := p.deviceId
  streamId := p.streamId
  flags := endOfFrame
  payload := p.data
  sessionId := (b.sessions p.deviceId).getD ""
  number := p.number
  sequenceId := p.sequenceId
  cursor := p.cursor
  timestampUs := p.cursor
  bindingEpoch := p.ingressToken

/-- The second part of `frame_from_stream`: the stream that is open.  A stream
    that was configured once and is closed keeps its last generation. -/
def StreamTable.stamp (t : StreamTable) (f : IngressFrame) : IngressFrame :=
  match t.active[f.streamId]? with
  | some d => { f with generation := d.generation, kind := d.kind, codec := d.codec }
  | none =>
    if t.generations f.streamId ≠ 0 then { f with generation := t.generations f.streamId }
    else if f.streamId &&& 0xF000 = 0x1000 then { f with kind := .video, codec := .h264 }
    else if f.streamId &&& 0xF000 = 0x2000 then { f with kind := .audio, codec := .aac }
    else { f with kind := .unknown, codec := .opaqueData }

/-- The first part of `is_current_media_frame`. -/
def Bindings.admits (b : Bindings) (f : IngressFrame) : Bool :=
  match b.sessions f.deviceId with
  | none => f.sessionId = "" ∧ f.bindingEpoch = 0
  | some sessionId => f.sessionId ≠ "" ∧ sessionId = f.sessionId ∧ f.bindingEpoch ≠ 0 ∧
      f.bindingEpoch = b.epoch

/-- The second part of `is_current_media_frame`. -/
def StreamTable.carries (t : StreamTable) (f : IngressFrame) : Bool :=
  match t.active[f.streamId]? with
  | some d => d.deviceId = f.deviceId ∧ d.generation = f.generation
  | none => false

/-! ## The pipeline -/

/-- Who changes the stream table: the owner of the physical session (the pump,
    or the thread that opens the session), or a thread that clears the table. -/
inductive Party where
  | owner
  | client (n : ℕ)
  | worker
  deriving DecidableEq, Repr

/-- `PendingMediaDispatchItem`. -/
inductive DispatchItem where
  | event (event : LifecycleEvent)
  | frame (frame : IngressFrame)
  deriving DecidableEq, Repr

/-- What `drain_pending_media_callbacks` is doing; one thread at a time drains. -/
inductive Dispatcher where
  | idle
  | popped (item : DispatchItem)
  | admitted (frame : IngressFrame)
  | calling (frame : IngressFrame)
  deriving DecidableEq, Repr

/-- The media state of a leaf adapter.  `runtime` are the payloads that the
    runtime has decoded and not yet handed out, `reading` and `stamped` the
    frames of handlers in progress, `taken` and `batch` those of a commit in
    progress, and `unsent` the events of a thread that has changed the table
    and not yet queued them. -/
structure Delivery where
  bindings : Bindings := {}
  table : StreamTable := {}
  decoded : ℕ := 0
  runtime : List StreamPayload := []
  reading : List IngressFrame := []
  stamped : List IngressFrame := []
  ingress : List IngressFrame := []
  taken : List IngressFrame := []
  batch : List IngressFrame := []
  unsent : Party → List LifecycleEvent := fun _ => []
  queue : List DispatchItem := []
  dispatcher : Dispatcher := .idle

/-- A frame waits for its kind while a stream of this kind is being opened. -/
def IngressFrame.fenced (video audio : Bool) (f : IngressFrame) : Bool :=
  match f.kind with
  | .video => video
  | .audio => audio
  | .unknown => video || audio

/-- The items that `drop_pending_media_frames_for_device` drops. -/
def DispatchItem.isFrameOf (deviceId : String) : DispatchItem → Bool
  | event _ => false
  | frame f => f.deviceId = deviceId

inductive DeliveryEvent where
  | bound (deviceId sessionId : String)
  | unbound (deviceId sessionId : String) (removed : Bool)
  | released (deviceId : String) (removed : Bool)
  | decoded (payload : StreamPayload)
  | ingested (frame : IngressFrame)
  | published (descriptor : StreamDescriptor)
  | closed (party : Party) (streamIds : List ℕ)
  | queued (party : Party)
  | admitted (frame : IngressFrame)
  | passed (frame : IngressFrame)
  | called (item : DispatchItem)
  | internal

/-- A binding changes. -/
def DeliveryEvent.rebinds : DeliveryEvent → Bool
  | bound _ _ => true
  | unbound _ _ removed | released _ removed => removed
  | _ => false

/-- The locked sections. -/
inductive DeliveryStep : Delivery → DeliveryEvent → Delivery → Prop
  -- bindings
  | bind {s : Delivery} (deviceId sessionId : String) :
      DeliveryStep s (.bound deviceId sessionId)
        { s with bindings := s.bindings.bind deviceId sessionId }
  | unbind {s : Delivery} {deviceId sessionId : String}
      (h : s.bindings.isBoundTo deviceId sessionId = true) :
      DeliveryStep s (.unbound deviceId sessionId true)
        { s with bindings := s.bindings.remove deviceId }
  | unbindOther {s : Delivery} {deviceId sessionId : String}
      (h : s.bindings.isBoundTo deviceId sessionId = false) :
      DeliveryStep s (.unbound deviceId sessionId false) s
  | release {s : Delivery} {deviceId sessionId : String}
      (h : s.bindings.sessions deviceId = some sessionId) :
      DeliveryStep s (.released deviceId true) { s with bindings := s.bindings.remove deviceId }
  | releaseUnbound {s : Delivery} {deviceId : String} (h : s.bindings.sessions deviceId = none) :
      DeliveryStep s (.released deviceId false) s
  | dropIngress {s : Delivery} (deviceId : String) :
      DeliveryStep s .internal { s with ingress := s.ingress.filter (·.deviceId ≠ deviceId) }
  | dropQueue {s : Delivery} (deviceId : String) :
      DeliveryStep s .internal
        { s with queue := s.queue.filter fun i => !i.isFrameOf deviceId }
  -- the stream table
  | publish {s : Delivery} (d : StreamDescriptor) (reason : MediaStreamEventReason)
      (h : s.unsent .owner = []) :
      DeliveryStep s (.published (s.table.publish d reason).2.1)
        { s with
          table := (s.table.publish d reason).1
          unsent := update s.unsent .owner (s.table.publish d reason).2.2 }
  | close {s : Delivery} {party : Party} (streamIds : List ℕ) (reason : MediaStreamEventReason)
      (h : s.unsent party = []) :
      DeliveryStep s (.closed party streamIds)
        { s with
          table := (StreamTable.closeStreams reason s.table streamIds).1
          unsent := update s.unsent party
            (StreamTable.closeStreams reason s.table streamIds).2 }
  | enqueue {s : Delivery} (party : Party) :
      DeliveryStep s (.queued party)
        { s with
          unsent := update s.unsent party []
          queue := s.queue ++ (s.unsent party).map .event }
  -- decoding and ingress
  | decode {s : Delivery} (deviceId : String) (streamId sequenceId cursor : ℕ)
      (data : List UInt8) {p : StreamPayload}
      (hp : p = ⟨s.decoded, deviceId, streamId, sequenceId, cursor, data,
        s.bindings.ingressToken deviceId⟩) :
      DeliveryStep s (.decoded p) { s with decoded := s.decoded + 1, runtime := s.runtime ++ [p] }
  | lose {s : Delivery} (p : StreamPayload) :
      DeliveryStep s .internal { s with runtime := s.runtime.erase p }
  | read {s : Delivery} {p : StreamPayload} (h : p ∈ s.runtime) :
      DeliveryStep s .internal
        { s with
          runtime := s.runtime.erase p
          reading := s.reading ++ [s.bindings.frameOf p] }
  -- the handler runs on the owner's thread, which queues its events at once
  | stamp {s : Delivery} {f : IngressFrame} (h : f ∈ s.reading) (howner : s.unsent .owner = []) :
      DeliveryStep s (.ingested (s.table.stamp f))
        { s with
          reading := s.reading.erase f
          stamped := s.stamped ++ [s.table.stamp f] }
  | ingest {s : Delivery} {f : IngressFrame} (h : f ∈ s.stamped) :
      DeliveryStep s .internal
        { s with stamped := s.stamped.erase f, ingress := s.ingress ++ [f] }
  -- `commit_pending_media_batch`
  | take {s : Delivery} :
      DeliveryStep s .internal { s with ingress := [], taken := s.taken ++ s.ingress }
  | split {s : Delivery} (video audio : Bool) :
      DeliveryStep s .internal
        { s with
          taken := []
          ingress := s.taken.filter (·.fenced video audio) ++ s.ingress
          batch := s.batch ++ s.taken.filter (!·.fenced video audio) }
  | push {s : Delivery} :
      DeliveryStep s .internal { s with batch := [], queue := s.queue ++ s.batch.map .frame }
  -- `drain_pending_media_callbacks`
  | pop {s : Delivery} {item : DispatchItem} {rest : List DispatchItem}
      (hidle : s.dispatcher = .idle) (h : s.queue = item :: rest) :
      DeliveryStep s .internal { s with queue := rest, dispatcher := .popped item }
  | callEvent {s : Delivery} {e : LifecycleEvent} (h : s.dispatcher = .popped (.event e)) :
      DeliveryStep s (.called (.event e)) { s with dispatcher := .idle }
  | refuse {s : Delivery} {f : IngressFrame} (h : s.dispatcher = .popped (.frame f))
      (hb : s.bindings.admits f = false) :
      DeliveryStep s .internal { s with dispatcher := .idle }
  | admitFrame {s : Delivery} {f : IngressFrame} (h : s.dispatcher = .popped (.frame f))
      (hb : s.bindings.admits f = true) (hg : f.generation ≠ 0) :
      DeliveryStep s (.admitted f) { s with dispatcher := .admitted f }
  | passLegacy {s : Delivery} {f : IngressFrame} (h : s.dispatcher = .popped (.frame f))
      (hb : s.bindings.admits f = true) (hg : f.generation = 0) :
      DeliveryStep s (.passed f) { s with dispatcher := .calling f }
  | outdated {s : Delivery} {f : IngressFrame} (h : s.dispatcher = .admitted f)
      (ht : s.table.carries f = false) :
      DeliveryStep s .internal { s with dispatcher := .idle }
  | pass {s : Delivery} {f : IngressFrame} (h : s.dispatcher = .admitted f)
      (ht : s.table.carries f = true) :
      DeliveryStep s (.passed f) { s with dispatcher := .calling f }
  | callFrame {s : Delivery} {f : IngressFrame} (h : s.dispatcher = .calling f) :
      DeliveryStep s (.called (.frame f)) { s with dispatcher := .idle }

theorem DeliveryStep.can_release (s : Delivery) (deviceId : String) :
    ∃ removed s', DeliveryStep s (.released deviceId removed) s' := by
  cases h : s.bindings.sessions deviceId with
  | none => exact ⟨_, _, .releaseUnbound h⟩
  | some sessionId => exact ⟨_, _, .release h⟩

/-! ## Where a frame is -/

def DispatchItem.frames : DispatchItem → List IngressFrame
  | event _ => []
  | frame f => [f]

def Dispatcher.frames : Dispatcher → List IngressFrame
  | idle => []
  | popped item => item.frames
  | admitted f | calling f => [f]

/-- The frames that have a generation, wherever they are. -/
def Delivery.frames (s : Delivery) : List IngressFrame :=
  s.stamped ++ s.ingress ++ s.taken ++ s.batch ++ s.queue.flatMap DispatchItem.frames ++
    s.dispatcher.frames

theorem Delivery.mem_frames {s : Delivery} {f : IngressFrame} : f ∈ s.frames ↔
    f ∈ s.stamped ∨ f ∈ s.ingress ∨ f ∈ s.taken ∨ f ∈ s.batch ∨ .frame f ∈ s.queue ∨
      f ∈ s.dispatcher.frames := by
  have hitem (i : DispatchItem) : f ∈ i.frames ↔ i = .frame f := by
    cases i <;> simp [DispatchItem.frames, eq_comm]
  simp [Delivery.frames, hitem]

section
variable {s s' : Delivery} {e : DeliveryEvent} {f : IngressFrame}

/-- Frames move on as they are, once they are stamped. -/
theorem DeliveryStep.frames_origin (h : DeliveryStep s e s') (hf : f ∈ s'.frames) :
    f ∈ s.frames ∨ e = .ingested f := by
  rw [Delivery.mem_frames] at hf ⊢
  cases h with
  | dropIngress | dropQueue | enqueue | stamp | take | split | push => grind
  | ingest => grind [List.mem_of_mem_erase]
  | @pop item => cases item <;> grind [Dispatcher.frames, DispatchItem.frames]
  | callEvent | refuse | admitFrame | passLegacy | outdated | pass | callFrame =>
    grind [Dispatcher.frames, DispatchItem.frames]
  | _ => exact .inl hf

end

/-! ## Where a frame comes from -/

/-- The payload of the frame was decoded in the state `s₁`, before `later`. -/
def DecodedIn (t : List DeliveryEvent) (f : IngressFrame) (s₁ : Delivery)
    (later : List DeliveryEvent) : Prop :=
  ∃ earlier p, t = earlier ++ .decoded p :: later ∧ Run DeliveryStep {} earlier s₁ ∧
    p.number = f.number ∧ p.deviceId = f.deviceId ∧ p.ingressToken = f.bindingEpoch ∧
    p.ingressToken = s₁.bindings.ingressToken p.deviceId

/-- The frame belongs to the binding of its device in the state `s`: it has the
    session that is bound, and no binding has changed since it was decoded; or
    no session is bound, none was when it was decoded, and it has none. -/
def BoundAsDecoded (t : List DeliveryEvent) (s : Delivery) (f : IngressFrame) : Prop :=
  ∃ s₁ later, DecodedIn t f s₁ later ∧
    ((∃ sessionId, s.bindings.sessions f.deviceId = some sessionId ∧ f.sessionId = sessionId ∧
        ∀ e ∈ later, e.rebinds = false) ∨
      (s.bindings.sessions f.deviceId = none ∧ s₁.bindings.sessions f.deviceId = none ∧
        f.sessionId = ""))

/-- The stream of the frame is open, in the generation of the frame. -/
def Delivery.Carries (s : Delivery) (f : IngressFrame) : Prop :=
  ∃ d, s.table.active[f.streamId]? = some d ∧ d.generation = f.generation

/-- The stream was open in the generation of the frame when the frame came in. -/
def CarriedAtIngress (t : List DeliveryEvent) (f : IngressFrame) : Prop :=
  ∃ earlier later s₁, t = earlier ++ .ingested f :: later ∧ Run DeliveryStep {} earlier s₁ ∧
    s₁.Carries f

/-- The binding of the frame was checked, before `later`. -/
def BindingChecked (t : List DeliveryEvent) (f : IngressFrame) (later : List DeliveryEvent) :
    Prop :=
  ∃ earlier s₁, t = earlier ++ later ∧ Run DeliveryStep {} earlier s₁ ∧ BoundAsDecoded earlier s₁ f

/-- The generation of the frame is over. -/
def Delivery.Outdated (s : Delivery) (f : IngressFrame) : Prop :=
  f.generation ≤ s.table.generations f.streamId ∧
    ∀ d, s.table.active[f.streamId]? = some d → f.generation < d.generation

section
variable {t : List DeliveryEvent} {s s' : Delivery} {e : DeliveryEvent} {f : IngressFrame}

theorem DecodedIn.snoc {s₁ : Delivery} {later : List DeliveryEvent} (h : DecodedIn t f s₁ later)
    (e : DeliveryEvent) : DecodedIn (t ++ [e]) f s₁ (later ++ [e]) := by
  obtain ⟨earlier, p, rfl, h⟩ := h
  exact ⟨earlier, p, by simp, h⟩

theorem CarriedAtIngress.snoc (h : CarriedAtIngress t f) (e : DeliveryEvent) :
    CarriedAtIngress (t ++ [e]) f := by
  obtain ⟨earlier, later, s₁, rfl, h⟩ := h
  exact ⟨earlier, later ++ [e], s₁, by simp, h⟩

theorem Delivery.Outdated.step (h : s.Outdated f) (hstep : DeliveryStep s e s') :
    s'.Outdated f := by
  cases hstep with
  | publish d reason =>
    obtain ⟨hle, hlt⟩ := h
    simp only [Delivery.Outdated, StreamTable.publish, Std.TreeMap.getElem?_insert,
      update_apply]
    by_cases hid : f.streamId = d.streamId
    · rw [if_pos hid, if_pos (by simp [hid])]
      rw [hid] at hle
      refine ⟨by omega, fun d' hd' => ?_⟩
      cases hd'
      simp only [StreamDescriptor.generation_withGeneration]
      omega
    · rw [if_neg hid, if_neg (by simpa using Ne.symm hid)]
      exact ⟨hle, hlt⟩
  | close streamIds reason =>
    refine ⟨?_, fun d hd => h.2 d (StreamTable.active_of_closeStreams hd)⟩
    simp only [StreamTable.generations_closeStreams]
    exact h.1
  | _ => exact h

/-- The stamp of a frame is the open generation or one that is over. -/
theorem Delivery.stamp_spec (s : Delivery) (hf : f.generation = 0)
    (hg : (s.table.stamp f).generation ≠ 0) :
    s.Carries (s.table.stamp f) ∨ s.Outdated (s.table.stamp f) := by
  cases hd : s.table.active[f.streamId]? with
  | some d => exact .inl ⟨d, by simp [StreamTable.stamp, hd], by simp [StreamTable.stamp, hd]⟩
  | none =>
    simp only [StreamTable.stamp, hd] at hg ⊢
    split_ifs at hg ⊢ with hknown
    · exact .inr ⟨Nat.le_refl _, by simp [hd]⟩
    all_goals exact absurd hf hg

theorem StreamTable.stamp_same (t : StreamTable) (f : IngressFrame) :
    (t.stamp f).number = f.number ∧ (t.stamp f).deviceId = f.deviceId ∧
      (t.stamp f).bindingEpoch = f.bindingEpoch := by
  unfold StreamTable.stamp
  split
  · exact ⟨rfl, rfl, rfl⟩
  · split_ifs <;> exact ⟨rfl, rfl, rfl⟩

/-! ## What holds along a run -/

/-- The frame's payload was decoded. -/
def Decoded (t : List DeliveryEvent) (f : IngressFrame) : Prop := ∃ s₁ later, DecodedIn t f s₁ later

theorem Decoded.snoc (h : Decoded t f) (e : DeliveryEvent) : Decoded (t ++ [e]) f := by
  obtain ⟨s₁, later, h⟩ := h
  exact ⟨s₁, later ++ [e], h.snoc e⟩

structure DeliveryInv (t : List DeliveryEvent) (s : Delivery) : Prop where
  payloads : ∀ p ∈ s.runtime, ∀ b : Bindings, Decoded t (b.frameOf p)
  reading : ∀ f ∈ s.reading, f.generation = 0 ∧ Decoded t f
  frames : ∀ f ∈ s.frames, Decoded t f ∧
    (f.generation ≠ 0 → CarriedAtIngress t f ∨ s.Outdated f)
  admitted : ∀ f, s.dispatcher = .admitted f → ∃ later, BindingChecked t f (.admitted f :: later)

theorem epoch_of_run (h : Run DeliveryStep {} t s) :
    s.bindings.epoch = t.countP (·.rebinds) + 1 := by
  induction h with
  | nil => rfl
  | @snoc t s s' e _ hstep ih =>
    rw [List.countP_append, List.countP_singleton]
    cases hstep <;> simp [DeliveryEvent.rebinds, Bindings.bind, Bindings.remove, ih]

/-- A frame that is admitted belongs to the binding of its device. -/
theorem BoundAsDecoded.of_admits (h : Run DeliveryStep {} t s) (hf : s.bindings.admits f = true)
    (hdecoded : Decoded t f) : BoundAsDecoded t s f := by
  obtain ⟨s₁, later, hd⟩ := hdecoded
  refine ⟨s₁, later, hd, ?_⟩
  obtain ⟨earlier, p, ht, hrun, -, hdevice, htoken, hstamp⟩ := hd
  have hepoch := epoch_of_run hrun
  rw [hdevice] at hstamp
  unfold Bindings.ingressToken at hstamp
  unfold Bindings.admits at hf
  cases hbound : s.bindings.sessions f.deviceId with
  | none =>
    simp only [hbound, decide_eq_true_eq] at hf
    refine .inr ⟨rfl, ?_, hf.1⟩
    cases hold : s₁.bindings.sessions f.deviceId with
    | none => rfl
    | some sessionId =>
      simp only [hold] at hstamp
      omega
  | some sessionId =>
    simp only [hbound, decide_eq_true_eq] at hf
    refine .inl ⟨sessionId, rfl, hf.2.1.symm, ?_⟩
    cases hold : s₁.bindings.sessions f.deviceId with
    | none =>
      simp only [hold] at hstamp
      omega
    | some _ =>
      -- the epochs agree, so that no binding has changed in between
      simp only [hold] at hstamp
      have hnow := epoch_of_run h
      rw [ht, List.countP_append, List.countP_cons] at hnow
      have hzero : later.countP (·.rebinds) = 0 := by omega
      intro e he
      simpa using List.countP_eq_zero.1 hzero e he

theorem DeliveryStep.runtime_origin {p : StreamPayload} (h : DeliveryStep s e s')
    (hp : p ∈ s'.runtime) : p ∈ s.runtime ∨
      e = .decoded p ∧ p.ingressToken = s.bindings.ingressToken p.deviceId := by
  cases h with
  | decode deviceId streamId sequenceId cursor data hp' =>
    rcases List.mem_append.1 hp with hp | hp
    · exact .inl hp
    · obtain rfl := List.mem_singleton.1 hp
      exact .inr ⟨rfl, by rw [hp']⟩
  | lose | read => exact .inl (List.mem_of_mem_erase hp)
  | _ => exact .inl hp

theorem DeliveryStep.reading_origin (h : DeliveryStep s e s') (hf : f ∈ s'.reading) :
    f ∈ s.reading ∨ ∃ p ∈ s.runtime, f = s.bindings.frameOf p := by
  cases h with
  | @read p hp =>
    rcases List.mem_append.1 hf with hf | hf
    · exact .inl hf
    · exact .inr ⟨p, hp, List.mem_singleton.1 hf⟩
  | stamp => exact .inl (List.mem_of_mem_erase hf)
  | _ => exact .inl hf

theorem DeliveryStep.ingested (h : DeliveryStep s (.ingested f) s') :
    ∃ f₀ ∈ s.reading, f = s.table.stamp f₀ := by
  cases h with
  | stamp h => exact ⟨_, h, rfl⟩

theorem DeliveryStep.admitted (h : DeliveryStep s e s') (hf : s'.dispatcher = .admitted f) :
    s.dispatcher = .admitted f ∨
      e = .admitted f ∧ s.dispatcher = .popped (.frame f) ∧ s.bindings.admits f = true := by
  cases h with
  | admitFrame h hb =>
    cases hf
    exact .inr ⟨rfl, h, hb⟩
  | pop | callEvent | refuse | passLegacy | outdated | pass | callFrame => cases hf
  | _ => exact .inl hf

theorem delivery_inv (h : Run DeliveryStep {} t s) : DeliveryInv t s := by
  induction h with
  | nil =>
    refine ⟨by simp, by simp, fun f hf => ?_, by simp⟩
    rw [Delivery.mem_frames] at hf
    simp [Dispatcher.frames] at hf
  | @snoc t s s' e hrun hstep ih =>
    constructor
    case payloads =>
      intro p hp b
      rcases hstep.runtime_origin hp with hp | ⟨rfl, htoken⟩
      · exact (ih.payloads p hp b).snoc e
      · exact ⟨s, [], t, p, rfl, hrun, rfl, rfl, rfl, htoken⟩
    case reading =>
      intro f hf
      rcases hstep.reading_origin hf with hf | ⟨p, hp, rfl⟩
      · exact ⟨(ih.reading f hf).1, (ih.reading f hf).2.snoc e⟩
      · exact ⟨rfl, (ih.payloads p hp _).snoc e⟩
    case frames =>
      intro f hf
      rcases hstep.frames_origin hf with hf | rfl
      · obtain ⟨hd, hg⟩ := ih.frames f hf
        exact ⟨hd.snoc e, fun h0 => (hg h0).imp (·.snoc e) (·.step hstep)⟩
      · obtain ⟨f₀, hf₀, rfl⟩ := hstep.ingested
        obtain ⟨hzero, hd⟩ := ih.reading f₀ hf₀
        obtain ⟨hnumber, hdevice, hepoch⟩ := s.table.stamp_same f₀
        constructor
        · obtain ⟨s₁, later, earlier, p, ht, hrun₁, h⟩ := hd.snoc (.ingested (s.table.stamp f₀))
          exact ⟨s₁, later, earlier, p, ht, hrun₁, by rwa [hnumber, hdevice, hepoch]⟩
        · intro hg
          exact (s.stamp_spec hzero hg).imp (fun hc => ⟨t, [], s, rfl, hrun, hc⟩) (·.step hstep)
    case admitted =>
      intro f hf
      rcases hstep.admitted hf with hf | ⟨rfl, hpop, hb⟩
      · obtain ⟨later, earlier, s₁, ht, h⟩ := ih.admitted f hf
        exact ⟨later ++ [e], earlier, s₁, by simp [ht], h⟩
      · have hmem : f ∈ s.frames :=
          Delivery.mem_frames.2 (by simp [hpop, Dispatcher.frames, DispatchItem.frames])
        exact ⟨[], t, s, rfl, hrun, .of_admits hrun hb (ih.frames f hmem).1⟩

/-- **A frame that passes the currency check keeps its provenance.**  When its
    binding was checked, it belonged to the binding of its device; and its
    generation, if it has one, is open and was open when the frame came in. -/
theorem frames_keep_provenance {t : List DeliveryEvent} {s s' : Delivery} {f : IngressFrame}
    (h : Run DeliveryStep {} t s) (hpass : DeliveryStep s (.passed f) s') :
    (∃ later, BindingChecked t f later ∧
      (later = [] ∨ ∃ rest, later = .admitted f :: rest)) ∧
    (f.generation ≠ 0 → s.Carries f ∧ CarriedAtIngress t f) := by
  have hi := delivery_inv h
  cases hpass with
  | passLegacy hpop hb hg =>
    have hmem : f ∈ s.frames :=
      Delivery.mem_frames.2 (by simp [hpop, Dispatcher.frames, DispatchItem.frames])
    refine ⟨⟨[], ⟨t, s, by simp, h, .of_admits h hb (hi.frames f hmem).1⟩, .inl rfl⟩, ?_⟩
    exact fun hne => absurd hg hne
  | pass hadm ht =>
    obtain ⟨later, hchecked⟩ := hi.admitted f hadm
    refine ⟨⟨_, hchecked, .inr ⟨later, rfl⟩⟩, fun hne => ?_⟩
    have hcarries : s.Carries f := by
      unfold StreamTable.carries at ht
      cases hd : s.table.active[f.streamId]? with
      | none => simp [hd] at ht
      | some d =>
        simp only [hd, decide_eq_true_eq] at ht
        exact ⟨d, hd, ht.2⟩
    have hmem : f ∈ s.frames := Delivery.mem_frames.2 (by simp [hadm, Dispatcher.frames])
    refine ⟨hcarries, ((hi.frames f hmem).2 hne).resolve_right ?_⟩
    rintro ⟨-, hlater⟩
    obtain ⟨d, hd, hgen⟩ := hcarries
    have := hlater d hd
    omega

/-- A frame of the first stream of a bound device passes. -/
theorem frames_keep_provenance_bound : ∃ t s s' f, Run DeliveryStep {} t s ∧
    DeliveryStep s (.passed f) s' ∧ f.sessionId = "s1" ∧ f.generation = 1 ∧
    s.Carries f ∧ CarriedAtIngress t f := by
  let d : StreamDescriptor := { key := { streamId := 4097 }, deviceId := "d1", kind := .video }
  have h := Run.one (DeliveryStep.bind (s := {}) "d1" "s1")
  replace h := h.snoc (.publish d .initialOpen rfl)
  replace h := h.snoc (.enqueue .owner)
  replace h := h.snoc (.decode "d1" 4097 7 40 [1, 2] rfl)
  replace h := h.snoc (.read (List.mem_singleton.2 rfl))
  replace h := h.snoc (.stamp (List.mem_singleton.2 rfl) rfl)
  replace h := h.snoc (.ingest (List.mem_singleton.2 rfl))
  replace h := h.snoc .take
  replace h := h.snoc (.split false false)
  replace h := h.snoc .push
  replace h := h.snoc (.pop rfl rfl)
  replace h := h.snoc (.callEvent rfl)
  replace h := h.snoc (.pop rfl rfl)
  replace h := h.snoc (.admitFrame rfl (by decide) (by decide))
  refine ⟨_, _, _, _, h, .pass rfl (by decide), rfl, rfl, ?_⟩
  exact (frames_keep_provenance h (.pass rfl (by decide))).2 (by decide)

end

end Axent.Axtp
