/-
  The output of a TCP stream (`TcpByteStream` of
  `src/transports/tcp/native_tcp_transport.hpp`).

  What `::send` does during a call of `flush` is any list of partial writes with
  an end: it would block, or it fails.  Buffers are shorter than `2 ^ 31` bytes,
  so that the size given to `::send` is the size of what remains.

  `pending` is what is queued and not written.  While a socket is attached, what
  it accepted and what is pending are what was sent to it (`SinceInv`), so that
  it accepts a prefix of that (`sent_bytes_in_order`).
-/
import Axent.Lib.Run
import Mathlib.Tactic.SplitIfs

namespace Axent.Tcp

open Lib

abbrev Bytes := List UInt8

structure TcpByteStream where
  socket : Option ℕ := none
  outgoing : List Bytes := []
  writeOffset : ℕ := 0
  deriving DecidableEq, Repr

/-- What the socket does during a `flush`: it takes some bytes, one more than each number, and then
    it fails or would block. -/
structure Answers where
  written : List ℕ := []
  fails : Bool := false

inductive TcpCall where
  | attach (socket : ℕ)
  | detach
  | close
  | sendBytes (data : Bytes) (answers : Answers)
  | flush (answers : Answers)

namespace TcpByteStream

/-- The bytes that remain of the front buffer, and those behind it. -/
def pending (s : TcpByteStream) : Bytes := s.outgoing.flatten.drop s.writeOffset

/-- The queue after `::send` has taken some bytes of the front buffer. -/
def advance (s : TcpByteStream) (front : Bytes) (rest : List Bytes) (written : ℕ) :
    TcpByteStream :=
  if s.writeOffset + written = front.length then { s with outgoing := rest, writeOffset := 0 }
  else { s with writeOffset := s.writeOffset + written }

/-- `flush`, with the bytes that the socket accepts. -/
def flush (fails : Bool) : List ℕ → TcpByteStream → Bytes × TcpByteStream
  | written, s =>
    match s.socket, s.outgoing, written with
    | some _, front :: rest, n :: written =>
      let taken := (front.drop s.writeOffset).take (n + 1)
      let (bytes, s') := flush fails written (s.advance front rest taken.length)
      (taken ++ bytes, s')
    | some _, _ :: _, [] => ([], if fails then {} else s)
    | _, _, _ => ([], s)

def sendBytes (s : TcpByteStream) (data : Bytes) (answers : Answers) : Bytes × TcpByteStream :=
  if data = [] then ([], s)
  else flush answers.fails answers.written { s with outgoing := s.outgoing ++ [data] }

/-- A call, with the bytes that the socket accepts; `attach` closes first. -/
def call (s : TcpByteStream) : TcpCall → Bytes × TcpByteStream
  | .attach socket => ([], { socket })
  | .detach | .close => ([], {})
  | .sendBytes data answers => s.sendBytes data answers
  | .flush answers => flush answers.fails answers.written s

/-- The offset is inside the front buffer. -/
def OffsetOk (s : TcpByteStream) : Prop :=
  match s.outgoing with
  | [] => s.writeOffset = 0
  | front :: _ => s.writeOffset < front.length

/-- All buffers hold something, and the offset is inside the front one. -/
structure Inv (s : TcpByteStream) : Prop where
  offset : s.OffsetOk
  nonempty : ∀ data ∈ s.outgoing, data ≠ []

end TcpByteStream

/-- A call, whether a socket was attached, and what it accepted. -/
structure TcpEvent where
  call : TcpCall
  attached : Bool
  accepted : Bytes

inductive TcpStep (s : TcpByteStream) : TcpEvent → TcpByteStream → Prop
  | call (c : TcpCall) : TcpStep s ⟨c, s.socket.isSome, (s.call c).1⟩ (s.call c).2

/-- The bytes that were sent while a socket was attached. -/
def TcpEvent.sent (e : TcpEvent) : Bytes :=
  match e.call, e.attached with
  | .sendBytes data _, true => data
  | _, _ => []

def TcpEvent.isAttach (e : TcpEvent) : Bool := e.call matches .attach _

def accepted (t : List TcpEvent) : Bytes := t.flatMap (·.accepted)

def sent (t : List TcpEvent) : Bytes := t.flatMap (·.sent)

/-! ## One call -/

namespace TcpByteStream
variable {s : TcpByteStream} {fails : Bool}

theorem inv_empty (socket : Option ℕ) : Inv { socket } := ⟨rfl, by simp⟩

theorem Inv.advance (h : s.Inv) {front : Bytes} {rest : List Bytes}
    (hq : s.outgoing = front :: rest) (n : ℕ) :
    let taken := (front.drop s.writeOffset).take (n + 1)
    (s.advance front rest taken.length).Inv ∧
      (s.advance front rest taken.length).socket = s.socket ∧
      taken ++ (s.advance front rest taken.length).pending = s.pending := by
  have hoffset : s.writeOffset < front.length := by simpa [OffsetOk, hq] using h.offset
  have hrest : ∀ data ∈ rest, data ≠ [] := fun data hd => h.nonempty data (by simp [hq, hd])
  intro taken
  have hpending :
      s.pending = taken ++ ((front.drop s.writeOffset).drop (n + 1) ++ rest.flatten) := by
    rw [pending, hq, List.flatten_cons, List.drop_append_of_le_length (Nat.le_of_lt hoffset),
      ← List.append_assoc, List.take_append_drop]
  have hlength : taken.length = min (n + 1) (front.length - s.writeOffset) := by
    simp [taken]
  unfold TcpByteStream.advance
  split_ifs with hall
  · refine ⟨⟨?_, hrest⟩, rfl, ?_⟩
    · cases rest with
      | nil => rfl
      | cons next => exact List.length_pos_iff.2 (hrest next List.mem_cons_self)
    · rw [hpending, List.drop_drop, List.drop_eq_nil_of_le (by omega)]
      rfl
  · refine ⟨⟨?_, h.nonempty⟩, rfl, ?_⟩
    · simp only [OffsetOk, hq]
      omega
    · dsimp only [pending]
      rw [← pending, hpending, hq, List.flatten_cons, List.drop_append_of_le_length (by omega),
        List.drop_drop, show taken.length = n + 1 by omega]

/-- The outcome of a call that adds nothing to what is pending: bytes move to the socket, or the
    stream is closed. -/
structure Moved (s : TcpByteStream) (out : Bytes × TcpByteStream) : Prop where
  inv : out.2.Inv
  bytes : out.1 <+: s.pending
  rest : out.2.socket.isSome → out.1 ++ out.2.pending = s.pending
  attached : out.2.socket.isSome → s.socket.isSome
  quiet : s.socket = none → out.1 = []

theorem Inv.moved_nil (h : s.Inv) : Moved s ([], s) :=
  ⟨h, List.nil_prefix, fun _ => rfl, id, fun _ => rfl⟩

theorem moved_closed (s : TcpByteStream) : Moved s ([], {}) :=
  ⟨inv_empty none, List.nil_prefix, nofun, nofun, fun _ => rfl⟩

theorem Inv.flush (written : List ℕ) (h : s.Inv) : Moved s (flush fails written s) := by
  induction written generalizing s with
  | nil =>
    unfold TcpByteStream.flush
    split
    · rename_i hw
      cases hw
    · cases fails
      · exact h.moved_nil
      · exact moved_closed s
    · exact h.moved_nil
  | cons n written ih =>
    unfold TcpByteStream.flush
    split
    · rename_i socket front rest _ _ hsocket hq hw
      obtain ⟨rfl, rfl⟩ := List.cons.inj hw
      obtain ⟨hinv, hsame, hpending⟩ := h.advance hq n
      have hmoved := ih hinv
      refine ⟨hmoved.inv, ?_, fun hs => ?_, fun hs => ?_, fun hs => ?_⟩
      · rw [← hpending]
        exact (List.prefix_append_right_inj _).2 hmoved.bytes
      · rw [List.append_assoc, hmoved.rest hs, hpending]
      · simp [hsocket]
      · simp [hsocket] at hs
    · rename_i hw
      cases hw
    · exact h.moved_nil

/-- The stream with one more buffer. -/
def queued (s : TcpByteStream) (data : Bytes) : TcpByteStream :=
  { s with outgoing := s.outgoing ++ [data] }

theorem Inv.pending_queued (h : s.Inv) (data : Bytes) :
    (s.queued data).pending = s.pending ++ data := by
  have hle : s.writeOffset ≤ s.outgoing.flatten.length := by
    have hoffset := h.offset
    unfold OffsetOk at hoffset
    cases hq : s.outgoing with
    | nil => simpa [hq] using hoffset
    | cons front rest =>
      simp only [hq] at hoffset
      simp only [List.flatten_cons, List.length_append]
      omega
  simp [pending, queued, List.drop_append_of_le_length hle]

theorem Inv.queued (h : s.Inv) {data : Bytes} (hdata : data ≠ []) : (s.queued data).Inv := by
  refine ⟨?_, ?_⟩
  · have hoffset := h.offset
    unfold OffsetOk at hoffset ⊢
    cases hq : s.outgoing with
    | nil =>
      rw [hq] at hoffset
      simpa [TcpByteStream.queued, hq, hoffset] using List.length_pos_iff.2 hdata
    | cons => simpa [TcpByteStream.queued, hq] using hoffset
  · simpa [TcpByteStream.queued, or_imp, forall_and] using ⟨h.nonempty, hdata⟩

theorem Inv.sendBytes (h : s.Inv) (data : Bytes) (answers : Answers) :
    Moved (s.queued data) (s.sendBytes data answers) := by
  unfold TcpByteStream.sendBytes
  split_ifs with hdata
  · exact ⟨h, List.nil_prefix, fun _ => by simp [h.pending_queued, hdata], id, fun _ => rfl⟩
  · exact (h.queued hdata).flush _

end TcpByteStream

/-! ## One connection -/

section
variable {s s' : TcpByteStream} {t : List TcpEvent} {e : TcpEvent}

theorem TcpStep.inv (h : s.Inv) (hstep : TcpStep s e s') : s'.Inv := by
  cases hstep with
  | call c =>
    cases c with
    | attach => exact TcpByteStream.inv_empty _
    | detach | close => exact TcpByteStream.inv_empty none
    | flush => exact (h.flush _).inv
    | sendBytes => exact (h.sendBytes _ _).inv

/-- Since a socket was attached: it accepted a prefix of what was sent, and while it is attached the
    rest is pending. -/
structure SinceInv (t : List TcpEvent) (s : TcpByteStream) : Prop where
  inv : s.Inv
  taken : accepted t <+: sent t
  rest : s.socket.isSome → accepted t ++ s.pending = sent t

/-- Bytes are added to what is pending, if a socket is attached, and moved from there. -/
theorem SinceInv.moved (h : SinceInv t s) {p : TcpByteStream} {data : Bytes}
    {out : Bytes × TcpByteStream} (hm : p.Moved out) (hp : p.pending = s.pending ++ data)
    (hsocket : p.socket = s.socket) (haccepted : e.accepted = out.1)
    (hsent : e.sent = if s.socket.isSome then data else []) : SinceInv (t ++ [e]) out.2 := by
  have haccepted' : accepted (t ++ [e]) = accepted t ++ out.1 := by simp [accepted, haccepted]
  have hsent' : sent (t ++ [e]) = sent t ++ e.sent := by simp [sent]
  refine ⟨hm.inv, ?_, fun hs => ?_⟩
  · rw [haccepted', hsent', hsent]
    split_ifs with hs
    · rw [← h.rest hs, List.append_assoc, ← hp]
      exact (List.prefix_append_right_inj _).2 hm.bytes
    · rw [hm.quiet (by simpa [hsocket] using hs), List.append_nil, List.append_nil]
      exact h.taken
  · have hs' := hsocket ▸ hm.attached hs
    rw [haccepted', hsent', hsent, if_pos hs', ← h.rest hs', List.append_assoc, hm.rest hs, hp,
      List.append_assoc]

theorem SinceInv.step (h : SinceInv t s) (hstep : TcpStep s e s') (he : e.isAttach = false) :
    SinceInv (t ++ [e]) s' := by
  cases hstep with
  | call c =>
    cases c with
    | attach => cases he
    | detach | close =>
      exact h.moved s.moved_closed (List.append_nil _).symm rfl rfl (by simp [TcpEvent.sent])
    | flush =>
      exact h.moved (h.inv.flush _) (List.append_nil _).symm rfl rfl (by simp [TcpEvent.sent])
    | sendBytes data answers =>
      refine h.moved (h.inv.sendBytes data answers) (h.inv.pending_queued data) rfl rfl ?_
      cases hs : s.socket <;> rfl

/-- **TCP output is a faithful prefix**: a socket accepts a prefix of what was sent while it was
    attached; and the offset is inside the front buffer. -/
theorem sent_bytes_in_order (hrun : Run TcpStep {} t s) :
    s.OffsetOk ∧ ∀ t₁ e t₂, t = t₁ ++ e :: t₂ → e.isAttach = true →
      (∀ e' ∈ t₂, e'.isAttach = false) → accepted t₂ <+: sent t₂ := by
  have hinv : s.Inv := hrun.keeps (fun h hstep => hstep.inv h) (TcpByteStream.inv_empty none)
  refine ⟨hinv.offset, ?_⟩
  rintro t₁ e t₂ rfl hattach hone
  obtain ⟨s₁, h₁, h₂⟩ := hrun.cut
  obtain ⟨s₂, hstep, h₃⟩ := h₂.first
  have hsince := h₃.inv (I := fun t s => (∀ e' ∈ t, e'.isAttach = false) → SinceInv t s) ?_ ?_
  · exact (hsince hone).taken
  · cases hstep with
    | call c =>
      cases c with
      | attach => exact fun _ => ⟨TcpByteStream.inv_empty _, List.nil_prefix, fun _ => rfl⟩
      | _ => cases hattach
  · intro t s e s' ih hstep hone
    exact (ih fun e he => hone e (List.mem_append_left _ he)).step hstep
      (hone e (List.mem_append_right _ List.mem_cons_self))

end

/-- A socket takes one of two bytes, and would block then. -/
theorem sent_bytes_in_order_cut :
    ∃ t s, Run TcpStep {} t s ∧ accepted t = [1] ∧ accepted t <+: [1, 2] := by
  have hrun := (Run.one (TcpStep.call (s := {}) (.attach 3))).snoc
    (.call (.sendBytes [1, 2] { written := [0] }))
  have htaken := (sent_bytes_in_order hrun).2 [] _ [_] rfl rfl (by simp [TcpEvent.isAttach])
  exact ⟨_, _, hrun, rfl, htaken⟩

end Axent.Tcp
