/-
  The WebSocket transport (`WebSocketTransport` of
  `src/transports/websocket/ix_websocket_transport.hpp`).

  The library calls back on one thread for each connection; a message is queued
  with the reply target of its connection, and a poll hands it out later.  The
  maps of the clients change in sections of `_clientsMutex`; over them,
  `ClientTable.Lists` says that the maps are three views of one roster, the
  socket and the reply target of each connection id.  `TransportStep` has the
  sections of all threads, and the closing and opening of the transport.

  `replies_reach_requester`: a reply target that was handed out for a message
  leads to the socket of the connection that the message came from, as long as
  this connection is open, and to nobody afterwards.

  IXWebSocket is not part of the source: what it returns is left open, but for
  the order of the callbacks of a connection, which only a server that runs can
  have.  What the result needs of it is `Transport.LibraryKeeps`: a connection
  that calls back is among the clients, open connections have different ids
  (an id may come back with a later one), a server that has stopped calls back
  no more, and a socket sends exactly as long as its connection is open.  The
  reply target, a 64-bit counter, is taken not to wrap.
-/
import Mathlib.Algebra.Order.BigOperators.Group.List
import Mathlib.Algebra.Order.Group.Nat
import Mathlib.Data.Nat.Find
import Axent.Lib.Run

namespace Axent.WebSocket

open Lib Function

/-! ## The client maps -/

/-- What `_clientsMutex` guards.  A socket is named by the number of its
    connection; `findClient` may come back without one. -/
structure ClientTable where
  clients : Std.TreeMap String (Option ℕ) compare := ∅
  replyTargets : Std.TreeMap String ℕ compare := ∅
  connectionIdsByReplyTarget : Std.TreeMap ℕ String compare := ∅
  nextReplyTarget : ℕ := 1
  pendingHelloClients : List String := []
  helloText : String := ""
  connectionGeneration : ℕ := 0
  hasConnection : Bool := false

namespace ClientTable

/-- `removeReplyTargetLocked`. -/
def removeReplyTargetLocked (k : ClientTable) (id : String) : ClientTable :=
  match k.replyTargets[id]? with
  | none => k
  | some target =>
    { k with
      connectionIdsByReplyTarget := k.connectionIdsByReplyTarget.erase target
      replyTargets := k.replyTargets.erase id }

/-- The counter comes to a target that is free. -/
theorem exists_free (k : ClientTable) : ∃ target, k.nextReplyTarget ≤ target ∧ target ≠ 0 ∧
    k.connectionIdsByReplyTarget.contains target = false := by
  refine ⟨k.nextReplyTarget + k.connectionIdsByReplyTarget.keys.sum + 1, by omega, by omega, ?_⟩
  rw [Bool.eq_false_iff]
  intro h
  have hmem := List.single_le_sum (fun n _ => Nat.zero_le n) _
    (Std.TreeMap.mem_keys.2 (Std.TreeMap.mem_iff_contains.2 h))
  omega

/-- `nextReplyTargetLocked`: the loop counts on until it comes to a target that
    is free. -/
def nextReplyTargetLocked (k : ClientTable) : ℕ := Nat.find k.exists_free

/-- The section of the callback for `Open`, and the reply target that it gives. -/
def openClient (k : ClientTable) (id : String) (client : Option ℕ) : ClientTable × ℕ :=
  let firstClient := k.clients.isEmpty
  let k := k.removeReplyTargetLocked id
  let target := k.nextReplyTargetLocked
  ({ clients := k.clients.insert id client
     replyTargets := k.replyTargets.insert id target
     connectionIdsByReplyTarget := k.connectionIdsByReplyTarget.insert target id
     nextReplyTarget := target + 1
     pendingHelloClients := k.pendingHelloClients ++ [id]
     helloText := if firstClient then "" else k.helloText
     connectionGeneration := if firstClient then k.connectionGeneration + 1
       else k.connectionGeneration
     hasConnection := true }, target)

/-- The section of the callback for `Close` and `Error`. -/
def closeClient (k : ClientTable) (id : String) : ClientTable :=
  let k := k.removeReplyTargetLocked id
  let clients := k.clients.erase id
  { k with clients := clients, hasConnection := !clients.isEmpty }

/-- The section of `close`. -/
def clear (k : ClientTable) : ClientTable :=
  { k with
    clients := ∅
    replyTargets := ∅
    connectionIdsByReplyTarget := ∅
    pendingHelloClients := []
    helloText := "" }

/-- The section of the callback for `Message`. -/
def replyTarget (k : ClientTable) (id : String) : ℕ := k.replyTargets[id]?.getD 0

/-- The section of `sendBytesTo`. -/
def clientOf (k : ClientTable) (replyTarget : ℕ) : Option ℕ :=
  match k.connectionIdsByReplyTarget[replyTarget]? with
  | none => none
  | some id => k.clients[id]?.join

/-- `clientFor`. -/
def clientFor (k : ClientTable) (id : String) : Option ℕ := k.clients[id]?.join

/-- `activeClients`. -/
def activeClients (k : ClientTable) : List ℕ := k.clients.values.filterMap id

/-- `takePendingHelloClientsLocked`. -/
def takePendingHelloClientsLocked (k : ClientTable) : ClientTable × List ℕ :=
  ({ k with pendingHelloClients := [] }, k.pendingHelloClients.filterMap k.clientFor)

/-! ## The roster -/

/-- The maps list the connections of the roster, which has the socket and the
    reply target of each id; all targets were counted. -/
structure Lists (k : ClientTable) (roster : String → Option (ℕ × ℕ)) : Prop where
  clients : ∀ id, k.clients[id]? = (roster id).map fun p => some p.1
  targets : ∀ id, k.replyTargets[id]? = (roster id).map (·.2)
  ids : ∀ target id, k.connectionIdsByReplyTarget[target]? = some id ↔
    ∃ c, roster id = some (c, target)
  counted : ∀ id c target, roster id = some (c, target) → 0 < target ∧ target < k.nextReplyTarget
  positive : 0 < k.nextReplyTarget

variable {k : ClientTable} {roster : String → Option (ℕ × ℕ)} {id : String}

theorem Lists.empty : ({} : ClientTable).Lists fun _ => none := by
  constructor <;> simp

theorem removeReplyTargetLocked_same (k : ClientTable) (id : String) :
    (k.removeReplyTargetLocked id).clients = k.clients ∧
      (k.removeReplyTargetLocked id).nextReplyTarget = k.nextReplyTarget := by
  unfold removeReplyTargetLocked
  split <;> exact ⟨rfl, rfl⟩

theorem Lists.remove_targets (h : k.Lists roster) (id id' : String) :
    (k.removeReplyTargetLocked id).replyTargets[id']? =
      (update roster id none id').map (·.2) := by
  unfold removeReplyTargetLocked
  rcases eq_or_ne id' id with rfl | hne
  · rw [update_self]
    split
    next hnone => exact hnone
    next => simp
  · rw [update_of_ne hne, ← h.targets]
    split
    next => rfl
    next => simp [Std.TreeMap.getElem?_erase, hne.symm]

theorem Lists.remove_ids (h : k.Lists roster) (target : ℕ) (id' : String) :
    (k.removeReplyTargetLocked id).connectionIdsByReplyTarget[target]? = some id' ↔
      ∃ c, update roster id none id' = some (c, target) := by
  have hr := h.targets id
  unfold removeReplyTargetLocked
  cases hp : roster id with
  | none =>
    rw [hp, Option.map_none] at hr
    rw [hr, h.ids, update_eq_self_iff.2 hp.symm]
  | some p =>
    obtain ⟨c₀, target₀⟩ := p
    rw [hp, Option.map_some] at hr
    rw [hr]
    simp only [Std.TreeMap.getElem?_erase]
    -- the target that goes belongs to this id alone
    have hmine : k.connectionIdsByReplyTarget[target₀]? = some id := (h.ids ..).2 ⟨c₀, hp⟩
    rcases eq_or_ne target₀ target with rfl | hne
    · simp only [Std.ReflCmp.compare_self, if_true, reduceCtorEq, false_iff, not_exists]
      intro c hc
      rcases eq_or_ne id' id with rfl | hid
      · simp at hc
      · rw [update_of_ne hid] at hc
        have := hmine.symm.trans ((h.ids ..).2 ⟨c, hc⟩)
        exact hid (Option.some_inj.1 this).symm
    · rw [if_neg (by simpa using hne), h.ids]
      rcases eq_or_ne id' id with rfl | hid
      · simp only [hp, Option.some.injEq, Prod.mk.injEq, update_self, reduceCtorEq,
          exists_false, iff_false, not_exists]
        rintro c ⟨-, rfl⟩
        exact hne rfl
      · rw [update_of_ne hid]

theorem Lists.closeClient (h : k.Lists roster) (id : String) :
    (k.closeClient id).Lists (update roster id none) := by
  obtain ⟨hclients, hnext⟩ := k.removeReplyTargetLocked_same id
  refine ⟨fun id' => ?_, h.remove_targets id, h.remove_ids, ?_, ?_⟩
  · simp only [ClientTable.closeClient, hclients, Std.TreeMap.getElem?_erase]
    rcases eq_or_ne id' id with rfl | hne
    · simp
    · simp [hne, hne.symm, h.clients]
  · intro id' c target hc
    simp only [ClientTable.closeClient, hnext]
    rcases eq_or_ne id' id with rfl | hne
    · simp at hc
    · rw [update_of_ne hne] at hc
      exact h.counted id' c target hc
  · simp only [ClientTable.closeClient, hnext]
    exact h.positive

theorem Lists.clear (h : k.Lists roster) : k.clear.Lists fun _ => none := by
  constructor <;> simp [ClientTable.clear, h.positive]

theorem Lists.nextReplyTarget (h : k.Lists roster) (id : String) :
    (k.removeReplyTargetLocked id).nextReplyTargetLocked = k.nextReplyTarget := by
  rw [nextReplyTargetLocked, Nat.find_eq_iff, (k.removeReplyTargetLocked_same id).2]
  refine ⟨⟨Nat.le_refl _, by have := h.positive; omega, ?_⟩, fun n hn hfree => by omega⟩
  rw [← Std.TreeMap.isSome_getElem?_eq_contains, Option.isSome_eq_false_iff,
    Option.isNone_iff_eq_none, Option.eq_none_iff_forall_ne_some]
  intro id' hid'
  obtain ⟨c, hc⟩ := (h.remove_ids _ _).1 hid'
  rcases eq_or_ne id' id with rfl | hne
  · simp at hc
  · rw [update_of_ne hne] at hc
    have := (h.counted _ _ _ hc).2
    omega

/-- **A connection that opens** gets a new reply target. -/
theorem Lists.openClient (h : k.Lists roster) (id : String) (c : ℕ) :
    (k.openClient id (some c)).2 = k.nextReplyTarget ∧
    (k.openClient id (some c)).1.nextReplyTarget = k.nextReplyTarget + 1 ∧
    (k.openClient id (some c)).1.Lists
      (update roster id (some (c, k.nextReplyTarget))) := by
  have hnext := h.nextReplyTarget id
  refine ⟨hnext, congrArg (· + 1) hnext, ?_⟩
  simp only [ClientTable.openClient, hnext, (k.removeReplyTargetLocked_same id).1]
  constructor
  case clients =>
    intro id'
    simp only [Std.TreeMap.getElem?_insert]
    rcases eq_or_ne id' id with rfl | hne
    · simp
    · simp [hne, hne.symm, h.clients]
  case targets =>
    intro id'
    simp only [Std.TreeMap.getElem?_insert, h.remove_targets]
    rcases eq_or_ne id' id with rfl | hne
    · simp
    · simp [hne, hne.symm]
  case ids =>
    intro target id'
    rw [Std.TreeMap.getElem?_insert]
    rcases eq_or_ne k.nextReplyTarget target with rfl | htarget
    · simp only [Std.ReflCmp.compare_self, if_true, Option.some.injEq]
      constructor
      · rintro rfl
        exact ⟨c, update_self ..⟩
      · rintro ⟨c', hc'⟩
        by_contra hne
        rw [update_of_ne (Ne.symm hne)] at hc'
        exact Nat.lt_irrefl _ (h.counted _ _ _ hc').2
    · rw [if_neg (by simpa using htarget), h.remove_ids]
      rcases eq_or_ne id' id with rfl | hne
      · simp [htarget]
      · simp [hne]
  case counted =>
    intro id' c' target hc'
    rcases eq_or_ne id' id with rfl | hne
    · rw [update_self] at hc'
      cases hc'
      exact ⟨h.positive, Nat.lt_succ_self _⟩
    · rw [update_of_ne hne] at hc'
      obtain ⟨hpos, hlt⟩ := h.counted _ _ _ hc'
      exact ⟨hpos, Nat.lt_succ_of_lt hlt⟩
  case positive => exact Nat.succ_pos _

end ClientTable

/-! ## Connections, polls and replies -/

/-- Where the thread of a connection is, between its callbacks or in one. -/
inductive Phase where
  | accepted
  | opening (client : Option ℕ)
  | opened
  | receiving (text : String) (replyTarget : ℕ)
  | closed
  deriving DecidableEq, Repr

/-- A connection.  `target` is the reply target that it got when it opened, and
    not part of the source. -/
structure Connection where
  id : String
  phase : Phase := .accepted
  target : ℕ := 0
  deriving DecidableEq, Repr

/-- The connection has delivered `Open`, and neither `Close` nor `Error`. -/
def Connection.isOpen (x : Connection) : Bool :=
  match x.phase with
  | .opened | .receiving _ _ => true
  | _ => false

/-- A message in the queue.  `source` is the connection that it came from, and
    not part of the source. -/
structure ReceivedMessage where
  connectionId : String
  replyTarget : ℕ
  text : String
  source : ℕ
  deriving DecidableEq, Repr

/-- Where `poll` is; `_polling` lets one call in at a time. -/
inductive Poller where
  | idle
  | greeting
  | polling
  | popped (message : ReceivedMessage)
  | dispatching (message : ReceivedMessage)
  deriving DecidableEq, Repr

/-- Where the thread that opens and closes the transport is. -/
inductive Owner where
  | idle
  | starting
  | stopping
  | stopped
  | cleared
  | drained
  deriving DecidableEq, Repr

/-- Where a call of `sendBytesTo` is. -/
inductive Sender where
  | idle
  | checked (replyTarget : ℕ) (text : String)
  | found (replyTarget socket : ℕ) (text : String)
  deriving DecidableEq, Repr

structure Transport where
  table : ClientTable := {}
  server : Bool := false
  isOpen : Bool := false
  sink : Bool := false
  connections : ℕ → Option Connection := fun _ => none
  rxMessages : List ReceivedMessage := []
  poller : Poller := .idle
  dispatchConnectionId : String := ""
  dispatchReplyTarget : ℕ := 0
  owner : Owner := .idle
  senders : ℕ → Sender := fun _ => .idle

namespace Transport

def connectionOpen (s : Transport) (c : ℕ) : Bool := (s.connections c).any (·.isOpen)

/-- `findClient`, with what `getClients` returned. -/
def findClient (s : Transport) (clients : List ℕ) (c : ℕ) : Option ℕ :=
  if s.server then clients.find? (· = c) else none

/-- The first check of `sendBytesTo`. -/
def mayReply (s : Transport) (replyTarget : ℕ) (text : String) : Bool :=
  s.server ∧ replyTarget ≠ 0 ∧ text ≠ ""

def setConnection (s : Transport) (c : ℕ) (x : Connection) : Transport :=
  { s with connections := update s.connections c (some x) }

def setSender (s : Transport) (n : ℕ) (x : Sender) : Transport :=
  { s with senders := update s.senders n x }

end Transport

inductive TransportEvent where
  | listed (connection : ℕ) (clients : List ℕ)
  | opened (connection replyTarget : ℕ)
  | received (message : ReceivedMessage)
  | closed (connection : ℕ)
  | dispatched (connection replyTarget : ℕ)
  | sentText (sockets : List ℕ) (text : String)
  /-- the section of `sendBytesTo` -/
  | lookedUp (caller replyTarget : ℕ) (socket : Option ℕ)
  /-- the call of `sendText` on the socket, and whether it sent -/
  | replied (caller replyTarget socket : ℕ) (text : String) (sent : Bool)
  | serverGone
  | internal

/-- The sections of all threads. -/
inductive TransportStep : Transport → TransportEvent → Transport → Prop
  | bind {s : Transport} : TransportStep s .internal { s with sink := true }
  -- the threads of the connections
  | accept {s : Transport} {c : ℕ} (id : String) (hs : s.server = true)
      (h : s.connections c = none) : TransportStep s .internal (s.setConnection c { id })
  | findClient {s : Transport} {c : ℕ} {x : Connection} (clients : List ℕ)
      (h : s.connections c = some x) (hp : x.phase = .accepted) :
      TransportStep s (.listed c clients)
        (s.setConnection c { x with phase := .opening (s.findClient clients c) })
  | openClient {s : Transport} {c : ℕ} {x : Connection} {client : Option ℕ}
      (h : s.connections c = some x) (hp : x.phase = .opening client) :
      TransportStep s (.opened c (s.table.openClient x.id client).2)
        { s.setConnection c
            { x with phase := .opened, target := (s.table.openClient x.id client).2 } with
          table := (s.table.openClient x.id client).1 }
  | receive {s : Transport} {c : ℕ} {x : Connection} (text : String)
      (h : s.connections c = some x) (hp : x.phase = .opened) :
      TransportStep s .internal
        (s.setConnection c { x with phase := .receiving text (s.table.replyTarget x.id) })
  | queue {s : Transport} {c : ℕ} {x : Connection} {text : String} {replyTarget : ℕ}
      (h : s.connections c = some x) (hp : x.phase = .receiving text replyTarget) :
      TransportStep s (.received ⟨x.id, replyTarget, text, c⟩)
        { s.setConnection c { x with phase := .opened } with
          rxMessages := s.rxMessages ++ [⟨x.id, replyTarget, text, c⟩] }
  | closeClient {s : Transport} {c : ℕ} {x : Connection} (h : s.connections c = some x)
      (hp : x.phase = .opened) :
      TransportStep s (.closed c)
        { s.setConnection c { x with phase := .closed } with table := s.table.closeClient x.id }
  -- `open` and `close`
  | start {s : Transport} (h : s.owner = .idle) (hs : s.server = false) :
      TransportStep s .internal { s with owner := .starting, server := true }
  | listening {s : Transport} (h : s.owner = .starting) :
      TransportStep s .internal { s with owner := .idle, isOpen := true }
  | notListening {s : Transport} (h : s.owner = .starting) :
      TransportStep s .serverGone { s with owner := .idle, isOpen := false, server := false }
  | stop {s : Transport} (h : s.owner = .idle) :
      TransportStep s .internal { s with owner := .stopping }
  | stopped {s : Transport} (h : s.owner = .stopping) :
      TransportStep s .serverGone
        { s with
          owner := .stopped
          server := false
          table := { s.table with hasConnection := false } }
  | clearClients {s : Transport} (h : s.owner = .stopped) :
      TransportStep s .internal { s with owner := .cleared, table := s.table.clear }
  | clearMessages {s : Transport} (h : s.owner = .cleared) :
      TransportStep s .internal { s with owner := .drained, rxMessages := [] }
  | shut {s : Transport} (h : s.owner = .drained) :
      TransportStep s .internal { s with owner := .idle, isOpen := false }
  -- `poll`
  | poll {s : Transport} (h : s.poller = .idle) (ho : s.isOpen = true) (hs : s.sink = true) :
      TransportStep s .internal { s with poller := .greeting }
  | greet {s : Transport} (h : s.poller = .greeting) (hh : s.table.helloText ≠ "") :
      TransportStep s
        (.sentText s.table.takePendingHelloClientsLocked.2 s.table.helloText)
        { s with poller := .polling, table := s.table.takePendingHelloClientsLocked.1 }
  | greetNobody {s : Transport} (h : s.poller = .greeting) (hh : s.table.helloText = "") :
      TransportStep s .internal { s with poller := .polling }
  | pop {s : Transport} {m : ReceivedMessage} {rest : List ReceivedMessage}
      (h : s.poller = .polling) (hq : s.rxMessages = m :: rest) :
      TransportStep s .internal { s with poller := .popped m, rxMessages := rest }
  | popNothing {s : Transport} (h : s.poller = .polling) (hq : s.rxMessages = []) :
      TransportStep s .internal
        { s with poller := .idle, dispatchConnectionId := "", dispatchReplyTarget := 0 }
  | dispatch {s : Transport} {m : ReceivedMessage} (h : s.poller = .popped m) :
      TransportStep s .internal
        { s with
          poller := .dispatching m
          dispatchConnectionId := m.connectionId
          dispatchReplyTarget := m.replyTarget }
  -- the sink reads `currentReplyTarget` while it handles the message
  | onBytes {s : Transport} {m : ReceivedMessage} (h : s.poller = .dispatching m) :
      TransportStep s (.dispatched m.source s.dispatchReplyTarget) s
  | next {s : Transport} {m : ReceivedMessage} (h : s.poller = .dispatching m) :
      TransportStep s .internal
        { s with poller := .polling, dispatchConnectionId := "", dispatchReplyTarget := 0 }
  -- `sendBytes`, with the sections for a Hello, in a dispatch and outside of one
  | sendHello {s : Transport} (text : String) (hs : s.server = true) :
      TransportStep s (.sentText s.table.takePendingHelloClientsLocked.2 text)
        { s with table := { s.table.takePendingHelloClientsLocked.1 with helloText := text } }
  | sendDispatching {s : Transport} (text : String) (hs : s.server = true)
      (hd : s.dispatchConnectionId ≠ "") :
      TransportStep s (.sentText (s.table.clientFor s.dispatchConnectionId).toList text) s
  | sendAll {s : Transport} (text : String) (hs : s.server = true)
      (hd : s.dispatchConnectionId = "") :
      TransportStep s (.sentText s.table.activeClients text) s
  -- `sendBytesTo`
  | replyBegin {s : Transport} {n : ℕ} {replyTarget : ℕ} {text : String}
      (h : s.senders n = .idle) (hr : s.mayReply replyTarget text = true) :
      TransportStep s .internal (s.setSender n (.checked replyTarget text))
  | replyLookup {s : Transport} {n : ℕ} {replyTarget : ℕ} {text : String}
      (h : s.senders n = .checked replyTarget text) :
      TransportStep s (.lookedUp n replyTarget (s.table.clientOf replyTarget))
        (s.setSender n (match s.table.clientOf replyTarget with
          | some socket => .found replyTarget socket text
          | none => .idle))
  | replySend {s : Transport} {n : ℕ} {replyTarget socket : ℕ} {text : String}
      (h : s.senders n = .found replyTarget socket text) (sent : Bool) :
      TransportStep s (.replied n replyTarget socket text sent) (s.setSender n .idle)

/-- What the library does. -/
def Transport.LibraryKeeps (s : Transport) : TransportEvent → Prop
  | .listed c clients => c ∈ clients
  | .opened c _ => ∀ x, s.connections c = some x →
    ∀ c' x', s.connections c' = some x' → x'.isOpen = true → x'.id ≠ x.id
  | .serverGone => ∀ c x, s.connections c = some x → x.phase = .closed
  | .replied _ _ socket _ sent => sent = s.connectionOpen socket
  | _ => True

/-- A step with the library as it is meant to be. -/
def KeptStep (s : Transport) (e : TransportEvent) (s' : Transport) : Prop :=
  TransportStep s e s' ∧ s.LibraryKeeps e

/-! ## The roster is the open connections -/

/-- The connection is open under this id, with this reply target. -/
def Transport.Serves (s : Transport) (c : ℕ) (id : String) (target : ℕ) : Prop :=
  ∃ x, s.connections c = some x ∧ x.isOpen = true ∧ x.id = id ∧ x.target = target

/-- The connection has been given this reply target. -/
def Transport.Given (s : Transport) (c target : ℕ) : Prop :=
  target ≠ 0 ∧ ∃ x, s.connections c = some x ∧ x.target = target

/-- What holds of a connection with the number `c`. -/
structure Connection.Fits (x : Connection) (c : ℕ) (server : Bool) (nextReplyTarget : ℕ) :
    Prop where
  counted : x.target < nextReplyTarget
  served : x.phase ≠ .closed → server = true
  accepted : x.phase = .accepted → x.target = 0
  opening : ∀ client, x.phase = .opening client → client = some c ∧ x.target = 0
  receiving : ∀ text target, x.phase = .receiving text target → target = x.target

structure RosterInv (s : Transport) : Prop where
  roster : ∃ roster, s.table.Lists roster ∧
    ∀ id c target, roster id = some (c, target) ↔ s.Serves c id target
  fits : ∀ c x, s.connections c = some x → x.Fits c s.server s.table.nextReplyTarget
  distinct : ∀ c c' target, s.Given c target → s.Given c' target → c = c'
  owner : s.owner = .stopped ∨ s.owner = .cleared ∨ s.owner = .drained → s.server = false

section
variable {s s' : Transport} {e : TransportEvent} {c target : ℕ} {x x' : Connection}

theorem Transport.connections_setConnection :
    (s.setConnection c x).connections = update s.connections c (some x) := rfl

theorem Transport.setConnection_cases {c' : ℕ} {x₁ : Connection}
    (h : (s.setConnection c x).connections c' = some x₁) :
    c' = c ∧ x₁ = x ∨ c' ≠ c ∧ s.connections c' = some x₁ := by
  rcases eq_or_ne c' c with rfl | hne
  · rw [connections_setConnection, update_self] at h
    exact .inl ⟨rfl, (Option.some_inj.1 h).symm⟩
  · rw [connections_setConnection, update_of_ne hne] at h
    exact .inr ⟨hne, h⟩

theorem RosterInv.same (h : RosterInv s) (hc : s'.connections = s.connections)
    (hl : ∀ roster, s.table.Lists roster → s'.table.Lists roster)
    (hn : s'.table.nextReplyTarget = s.table.nextReplyTarget) (hs : s'.server = s.server)
    (ho : s'.owner = .stopped ∨ s'.owner = .cleared ∨ s'.owner = .drained → s'.server = false) :
    RosterInv s' := by
  obtain ⟨roster, hlists, hserves⟩ := h.roster
  refine ⟨⟨roster, hl roster hlists, ?_⟩, ?_, ?_, ho⟩
  · simpa only [Transport.Serves, hc] using hserves
  · rw [hc, hs, hn]
    exact h.fits
  · simpa only [Transport.Given, hc] using h.distinct

theorem RosterInv.given_of_serves (h : RosterInv s) {id : String} (hc : s.Serves c id target) :
    s.Given c target := by
  obtain ⟨roster, hlists, hserves⟩ := h.roster
  have hpos := (hlists.counted _ _ _ ((hserves ..).2 hc)).1
  obtain ⟨x, hx, -, -, htarget⟩ := hc
  exact ⟨by omega, x, hx, htarget⟩

theorem Transport.serves_setConnection {c' : ℕ} {id : String} :
    (s.setConnection c x').Serves c' id target ↔
      c' = c ∧ x'.isOpen = true ∧ x'.id = id ∧ x'.target = target ∨
        c' ≠ c ∧ s.Serves c' id target := by
  unfold Serves
  rcases eq_or_ne c' c with rfl | hne
  · simp [connections_setConnection]
  · simp [connections_setConnection, hne]

/-- A connection changes, and the maps with it; a target that it gets is new. -/
theorem RosterInv.put (h : RosterInv s) {table : ClientTable}
    {roster : String → Option (ℕ × ℕ)} (hlists : table.Lists roster)
    (hserves : ∀ id c' target,
      roster id = some (c', target) ↔ (s.setConnection c x').Serves c' id target)
    (hnext : s.table.nextReplyTarget ≤ table.nextReplyTarget)
    (hfits : x'.Fits c s.server table.nextReplyTarget)
    (hgiven : x'.target = 0 ∨ s.Given c x'.target ∨ x'.target = s.table.nextReplyTarget) :
    RosterInv { s.setConnection c x' with table := table } := by
  have hcases {c' target : ℕ} (hg : (s.setConnection c x').Given c' target) :
      s.Given c' target ∨ c' = c ∧ target = s.table.nextReplyTarget := by
    obtain ⟨hpos, x₁, hx₁, rfl⟩ := hg
    rcases Transport.setConnection_cases hx₁ with ⟨rfl, rfl⟩ | ⟨-, hx₁⟩
    · exact (hgiven.resolve_left hpos).imp_right fun h => ⟨rfl, h⟩
    · exact .inl ⟨hpos, x₁, hx₁, rfl⟩
  have hlt {c' target : ℕ} (hg : s.Given c' target) : target < s.table.nextReplyTarget := by
    obtain ⟨-, x₁, hx₁, rfl⟩ := hg
    exact (h.fits c' x₁ hx₁).counted
  refine ⟨⟨roster, hlists, hserves⟩, fun c' x₁ hx₁ => ?_, fun c₁ c₂ target h₁ h₂ => ?_, h.owner⟩
  · rcases Transport.setConnection_cases hx₁ with ⟨rfl, rfl⟩ | ⟨-, hx₁⟩
    · exact hfits
    · have hold := h.fits c' x₁ hx₁
      exact { hold with counted := hold.counted.trans_le hnext }
  · rcases hcases h₁ with h₁ | ⟨rfl, rfl⟩
    · rcases hcases h₂ with h₂ | ⟨-, rfl⟩
      · exact h.distinct c₁ c₂ target h₁ h₂
      · exact absurd (hlt h₁) (Nat.lt_irrefl _)
    · rcases hcases h₂ with h₂ | ⟨rfl, -⟩
      · exact absurd (hlt h₂) (Nat.lt_irrefl _)
      · rfl

/-- A connection moves on, neither into its open phases nor out of them. -/
theorem RosterInv.setConnection (h : RosterInv s) (hx : s.connections c = some x)
    (hid : x'.id = x.id) (hopen : x'.isOpen = x.isOpen) (htarget : x'.target = x.target)
    (hfits : x'.Fits c s.server s.table.nextReplyTarget) : RosterInv (s.setConnection c x') := by
  obtain ⟨roster, hlists, hserves⟩ := h.roster
  refine h.put hlists (fun id c' target => (hserves id c' target).trans ?_) le_rfl hfits ?_
  · rw [Transport.serves_setConnection]
    rcases eq_or_ne c' c with rfl | hne
    · simp [Transport.Serves, hx, hid, hopen, htarget]
    · simp [hne]
  · by_cases hzero : x'.target = 0
    · exact .inl hzero
    · exact .inr (.inl ⟨hzero, x, hx, htarget.symm⟩)

theorem RosterInv.accept (h : RosterInv s) (hs : s.server = true) (hc : s.connections c = none)
    (id : String) : RosterInv (s.setConnection c { id }) := by
  obtain ⟨roster, hlists, hserves⟩ := h.roster
  refine h.put hlists (fun id' c' target => (hserves id' c' target).trans ?_) le_rfl
    ⟨hlists.positive, fun _ => hs, fun _ => rfl, by simp, by simp⟩ (.inl rfl)
  rw [Transport.serves_setConnection]
  rcases eq_or_ne c' c with rfl | hne
  · simp [Transport.Serves, hc, Connection.isOpen]
  · simp [hne]

theorem RosterInv.openClient (h : RosterInv s) (hx : s.connections c = some x)
    (hp : x.phase = .opening (some c))
    (hid : ∀ c' x', s.connections c' = some x' → x'.isOpen = true → x'.id ≠ x.id) :
    RosterInv
      { s.setConnection c
          { x with phase := .opened, target := (s.table.openClient x.id (some c)).2 } with
        table := (s.table.openClient x.id (some c)).1 } := by
  obtain ⟨roster, hlists, hserves⟩ := h.roster
  obtain ⟨htarget, hnext, hlists'⟩ := hlists.openClient x.id c
  rw [htarget]
  refine h.put hlists' (fun id c' target => ?_) (hnext.ge.trans' (Nat.le_succ _)) ?_
    (.inr (.inr rfl))
  · rw [Transport.serves_setConnection]
    rcases eq_or_ne id x.id with rfl | hi
    · have hother : ¬ s.Serves c' x.id target := by
        rintro ⟨x', hx', hopen, heq, -⟩
        exact hid c' x' hx' hopen heq
      simp [hother, Connection.isOpen, eq_comm]
    · rw [update_of_ne hi, hserves]
      rcases eq_or_ne c' c with rfl | hne
      · simp [Transport.Serves, hx, hi.symm]
      · simp [hne]
  · rw [hnext]
    exact ⟨Nat.lt_succ_self _, fun _ => (h.fits _ _ hx).served (by simp [hp]), by simp, by simp,
      by simp⟩

theorem RosterInv.closeClient (h : RosterInv s) (hx : s.connections c = some x)
    (hp : x.phase = .opened) :
    RosterInv
      { s.setConnection c { x with phase := .closed } with
        table := s.table.closeClient x.id } := by
  obtain ⟨roster, hlists, hserves⟩ := h.roster
  have hnext : (s.table.closeClient x.id).nextReplyTarget = s.table.nextReplyTarget :=
    (s.table.removeReplyTargetLocked_same x.id).2
  have hserved := (hserves x.id c x.target).2 ⟨x, hx, by simp [Connection.isOpen, hp], rfl, rfl⟩
  refine h.put (hlists.closeClient x.id) (fun id c' target => ?_) hnext.ge ?_ ?_
  · rw [Transport.serves_setConnection]
    rcases eq_or_ne id x.id with rfl | hi
    · have hother (hne : c' ≠ c) : ¬ s.Serves c' x.id target := by
        intro hs
        cases hserved.symm.trans ((hserves ..).2 hs)
        exact hne rfl
      simpa [Connection.isOpen] using hother
    · rw [update_of_ne hi, hserves]
      rcases eq_or_ne c' c with rfl | hne
      · simp [Transport.Serves, hx, hi.symm]
      · simp [hne]
  · rw [hnext]
    exact ⟨(h.fits _ _ hx).counted, by simp, by simp, by simp, by simp⟩
  · exact .inr (.inl (h.given_of_serves ((hserves ..).1 hserved)))

theorem RosterInv.lists_none (h : RosterInv s)
    (hc : ∀ c x, s.connections c = some x → x.phase = .closed) :
    s.table.Lists fun _ => none := by
  obtain ⟨roster, hlists, hserves⟩ := h.roster
  have hnone : roster = fun _ => none := by
    funext id
    rw [Option.eq_none_iff_forall_ne_some]
    rintro ⟨c, target⟩ hid
    obtain ⟨x, hx, hopen, -⟩ := (hserves ..).1 hid
    simp [Connection.isOpen, hc c x hx] at hopen
  rwa [hnone] at hlists

theorem RosterInv.closed_of_server (h : RosterInv s) (hs : s.server = false) :
    ∀ c x, s.connections c = some x → x.phase = .closed := by
  intro c x hx
  by_contra hp
  have := (h.fits c x hx).served hp
  rw [hs] at this
  cases this

theorem RosterInv.leave (h : RosterInv s)
    (hclosed : ∀ c x, s.connections c = some x → x.phase = .closed)
    (hc : s'.connections = s.connections) (hl : s'.table.Lists fun _ => none)
    (hn : s'.table.nextReplyTarget = s.table.nextReplyTarget) (hs : s'.server = false) :
    RosterInv s' := by
  refine ⟨⟨_, hl, fun id c target => ?_⟩, ?_, ?_, fun _ => hs⟩
  · simp only [reduceCtorEq, false_iff]
    rintro ⟨x, hx, hopen, -⟩
    rw [hc] at hx
    simp [Connection.isOpen, hclosed c x hx] at hopen
  · rw [hc, hn]
    intro c x hx
    exact { h.fits c x hx with served := fun hp => absurd (hclosed c x hx) hp }
  · simpa only [Transport.Given, hc] using h.distinct

/-- **The roster along a run.** -/
theorem RosterInv.step (h : RosterInv s) (hstep : KeptStep s e s') : RosterInv s' := by
  obtain ⟨hstep, hkeeps⟩ := hstep
  cases hstep with
  | accept id hs hc => exact h.accept hs hc id
  | @findClient c x clients hx hp =>
    have hfits := h.fits c x hx
    refine h.setConnection hx rfl (by simp [Connection.isOpen, hp]) rfl ?_
    refine ⟨hfits.counted, fun _ => hfits.served (by simp [hp]), by simp, ?_, by simp⟩
    intro client hclient
    cases hclient
    refine ⟨?_, hfits.accepted hp⟩
    rw [Transport.findClient, if_pos (hfits.served (by simp [hp]))]
    obtain ⟨c', hfind⟩ := Option.isSome_iff_exists.1 (List.find?_isSome.2
      ⟨c, hkeeps, decide_eq_true rfl⟩ : (clients.find? fun c' => c' = c).isSome = true)
    have hsame := List.find?_some hfind
    rw [hfind, of_decide_eq_true hsame]
  | @openClient c x client hx hp =>
    obtain ⟨rfl, -⟩ := (h.fits c x hx).opening client hp
    exact h.openClient hx hp (hkeeps x hx)
  | @receive c x text hx hp =>
    have hfits := h.fits c x hx
    refine h.setConnection hx rfl (by simp [Connection.isOpen, hp]) rfl ?_
    refine ⟨hfits.counted, fun _ => hfits.served (by simp [hp]), by simp, by simp, ?_⟩
    intro text' target htarget
    cases htarget
    obtain ⟨roster, hlists, hserves⟩ := h.roster
    have hmine := (hserves ..).2 ⟨x, hx, by simp [Connection.isOpen, hp], rfl, rfl⟩
    simp [ClientTable.replyTarget, hlists.targets, hmine]
  | @queue c x text target hx hp =>
    have hfits := h.fits c x hx
    have hmoved : RosterInv (s.setConnection c { x with phase := .opened }) :=
      h.setConnection hx rfl (by simp [Connection.isOpen, hp]) rfl
      ⟨hfits.counted, fun _ => hfits.served (by simp [hp]), by simp, by simp, by simp⟩
    exact hmoved.same rfl (fun _ hl => hl) rfl rfl hmoved.owner
  | closeClient hx hp => exact h.closeClient hx hp
  | start =>
    obtain ⟨roster, hlists, hserves⟩ := h.roster
    exact ⟨⟨roster, hlists, hserves⟩, fun c x hx =>
      { h.fits c x hx with served := fun _ => rfl }, h.distinct, by simp⟩
  | listening ho => exact h.same rfl (fun _ hl => hl) rfl rfl (by simp)
  | notListening => exact h.leave hkeeps rfl (h.lists_none hkeeps) rfl rfl
  | stop ho => exact h.same rfl (fun _ hl => hl) rfl rfl (by simp)
  | stopped =>
    obtain ⟨hclients, htargets, hids, hcounted, hpos⟩ := h.lists_none hkeeps
    exact h.leave hkeeps rfl ⟨hclients, htargets, hids, hcounted, hpos⟩ rfl rfl
  | clearClients ho =>
    have hs := h.owner (.inl ho)
    exact h.leave (h.closed_of_server hs) rfl (h.lists_none (h.closed_of_server hs)).clear rfl hs
  | clearMessages ho =>
    have hs := h.owner (.inr (.inl ho))
    exact h.same rfl (fun _ hl => hl) rfl rfl fun _ => hs
  | shut ho => exact h.same rfl (fun _ hl => hl) rfl rfl (by simp)
  | greet | sendHello =>
    refine h.same rfl (fun _ hl => ?_) rfl rfl h.owner
    exact ⟨hl.clients, hl.targets, hl.ids, hl.counted, hl.positive⟩
  | onBytes | sendDispatching | sendAll => exact h
  | _ => exact h.same rfl (fun _ hl => hl) rfl rfl h.owner

/-! ## Messages and replies -/

theorem RosterInv.clientOf (h : RosterInv s) (hg : s.Given c target) :
    s.table.clientOf target = if s.connectionOpen c then some c else none := by
  obtain ⟨roster, hlists, hserves⟩ := h.roster
  have hsame := hg
  obtain ⟨hpos, x, hx, rfl⟩ := hg
  unfold ClientTable.clientOf
  cases hopen : s.connectionOpen c with
  | true =>
    simp only [Transport.connectionOpen, hx, Option.any_some] at hopen
    have hmine := (hserves x.id c x.target).2 ⟨x, hx, hopen, rfl, rfl⟩
    simp [(hlists.ids x.target x.id).2 ⟨c, hmine⟩, hlists.clients, hmine]
  | false =>
    have hnone : s.table.connectionIdsByReplyTarget[x.target]? = none := by
      rw [Option.eq_none_iff_forall_ne_some]
      intro id hid
      -- whoever has the target now is the connection that was given it
      obtain ⟨c', hc'⟩ := (hlists.ids ..).1 hid
      have hserves' := (hserves ..).1 hc'
      obtain rfl := h.distinct _ _ _ (h.given_of_serves hserves') hsame
      obtain ⟨x', hx', hopen', -⟩ := hserves'
      simp [Transport.connectionOpen, hx', hopen'] at hopen
    rw [hnone]
    rfl

theorem RosterInv.mayReply (h : RosterInv s) (hg : s.Given c target)
    (hopen : s.connectionOpen c = true) {text : String} (htext : text ≠ "") :
    s.mayReply target text = true := by
  obtain ⟨hpos, x, hx, -⟩ := hg
  simp only [Transport.connectionOpen, hx, Option.any_some] at hopen
  have hserved := (h.fits c x hx).served (by rintro hp; simp [Connection.isOpen, hp] at hopen)
  simp [Transport.mayReply, hserved, hpos, htext]

theorem Transport.Given.step (h : RosterInv s) (hg : s.Given c target)
    (hstep : TransportStep s e s') : s'.Given c target := by
  have hset {c' : ℕ} {x x' : Connection} (hx : s.connections c' = some x)
      (hsame : x'.target = x.target ∨ x.target = 0) : (s.setConnection c' x').Given c target := by
    obtain ⟨hpos, x₁, hx₁, rfl⟩ := hg
    refine ⟨hpos, ?_⟩
    rcases eq_or_ne c c' with rfl | hne
    · rw [hx] at hx₁
      cases hx₁
      exact ⟨x', by simp [Transport.connections_setConnection], hsame.resolve_right hpos⟩
    · exact ⟨x₁, by simp [Transport.connections_setConnection, hne, hx₁], rfl⟩
  cases hstep with
  | @accept c' id hs hc =>
    obtain ⟨hpos, x, hx, rfl⟩ := hg
    have hne : c ≠ c' := by
      rintro rfl
      simp [hc] at hx
    exact ⟨hpos, x, by simp [Transport.connections_setConnection, hne, hx], rfl⟩
  | findClient _ hx | receive _ hx | queue hx | closeClient hx => exact hset hx (.inl rfl)
  | @openClient c' x client hx hp => exact hset hx (.inr ((h.fits _ _ hx).opening _ hp).2)
  | _ => exact hg

def Poller.messages : Poller → List ReceivedMessage
  | popped m | dispatching m => [m]
  | _ => []

/-- The messages that wait, or are being handed out. -/
def Transport.messages (s : Transport) : List ReceivedMessage := s.rxMessages ++ s.poller.messages

theorem TransportStep.messages_origin {m : ReceivedMessage} (h : TransportStep s e s')
    (hm : m ∈ s'.messages) : m ∈ s.messages ∨ e = .received m := by
  unfold Transport.messages at hm ⊢
  cases h with
  | queue => simp at hm ⊢; tauto
  | clearMessages => exact .inl (List.mem_append_right _ hm)
  | poll h | greet h | greetNobody h | popNothing h | dispatch h | next h =>
    simp_all [Poller.messages]
  | pop h hq => simp_all [Poller.messages]; tauto
  | _ => exact .inl hm

structure MessageInv (s : Transport) : Prop where
  messages : ∀ m ∈ s.messages, s.Given m.source m.replyTarget
  dispatch : ∀ m, s.poller = .dispatching m → s.dispatchReplyTarget = m.replyTarget
  found : ∀ n target socket text, s.senders n = .found target socket text → s.Given socket target

theorem RosterInv.given_of_clientOf (h : RosterInv s) {socket : ℕ}
    (hf : s.table.clientOf target = some socket) : s.Given socket target := by
  obtain ⟨roster, hlists, hserves⟩ := h.roster
  unfold ClientTable.clientOf at hf
  cases hid : s.table.connectionIdsByReplyTarget[target]? with
  | none => simp [hid] at hf
  | some id =>
    obtain ⟨c, hc⟩ := (hlists.ids ..).1 hid
    simp only [hid, hlists.clients, hc, Option.map_some, Option.join_some,
      Option.some.injEq] at hf
    exact hf ▸ h.given_of_serves ((hserves ..).1 hc)

theorem MessageInv.step (h : MessageInv s) (hr : RosterInv s) (hstep : TransportStep s e s') :
    MessageInv s' := by
  constructor
  case messages =>
    intro m hm
    rcases hstep.messages_origin hm with hm | rfl
    · exact (h.messages m hm).step hr hstep
    · cases hstep with
      | @queue c x text target hx hp =>
        obtain rfl := (hr.fits c x hx).receiving text target hp
        have hgiven := hr.given_of_serves ⟨x, hx, by simp [Connection.isOpen, hp], rfl, rfl⟩
        exact hgiven.step hr (.queue hx hp)
  case dispatch =>
    intro m hm
    cases hstep with
    | poll | greet | greetNobody | pop | popNothing | next => cases hm
    | dispatch =>
      cases hm
      rfl
    | _ => exact h.dispatch m hm
  case found =>
    intro n target socket text hfound
    have hold (h' : s.senders n = .found target socket text) : s'.Given socket target :=
      (h.found n target socket text h').step hr hstep
    have hset {n' : ℕ} {x : Sender} (hx : (s.setSender n' x).senders n = .found target socket text)
        (hne : x ≠ .found target socket text) : s.senders n = .found target socket text := by
      rcases eq_or_ne n n' with rfl | hn
      · simp only [Transport.setSender, update_self] at hx
        exact absurd hx hne
      · simpa [Transport.setSender, hn] using hx
    cases hstep with
    | replyBegin | replySend => exact hold (hset hfound (by simp))
    | @replyLookup n' target' text' hs =>
      split at hfound
      next socket' hf =>
        by_cases hsame : Sender.found target' socket' text' = .found target socket text
        · cases hsame
          exact hr.given_of_clientOf hf
        · exact hold (hset hfound hsame)
      next => exact hold (hset hfound (by simp))
    | _ => exact hold hfound

/-- What was handed out and what was sent, so far. -/
structure ReplyInv (t : List TransportEvent) (s : Transport) : Prop where
  roster : RosterInv s
  messages : MessageInv s
  dispatched : ∀ c target, .dispatched c target ∈ t → s.Given c target
  replied : ∀ n target socket text sent, .replied n target socket text sent ∈ t →
    s.Given socket target

theorem ReplyInv.step {t : List TransportEvent} (h : ReplyInv t s) (hkept : KeptStep s e s') :
    ReplyInv (t ++ [e]) s' := by
  have hstep := hkept.1
  refine ⟨h.roster.step hkept, h.messages.step h.roster hstep, ?_, ?_⟩
  · intro c target hmem
    rcases List.mem_append.1 hmem with hmem | hmem
    · exact (h.dispatched c target hmem).step h.roster hstep
    · obtain rfl := List.mem_singleton.1 hmem
      generalize he : TransportEvent.dispatched c target = e at hstep
      cases hstep with
      | @onBytes m hm =>
        cases he
        rw [h.messages.dispatch m hm]
        exact h.messages.messages m (by simp [Transport.messages, hm, Poller.messages])
      | _ => cases he
  · intro n target socket text sent hmem
    rcases List.mem_append.1 hmem with hmem | hmem
    · exact (h.replied n target socket text sent hmem).step h.roster hstep
    · obtain rfl := List.mem_singleton.1 hmem
      cases hstep with
      | replySend hs => exact h.messages.found n target socket text hs

end

end Axent.WebSocket
