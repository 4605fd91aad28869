/-
  The queue of control calls of a leaf `AxtpAdapter`, along all runs of `Session`.

  `control_queue_sound`: the queue is bounded, one call is in flight at a time,
  calls are dispatched in the order of their acceptance and only after the
  pump's checks, none is lost, and a cancelled device has no old call left.
-/
import Axent.Axtp.Session
import Mathlib.Data.List.TakeWhile

namespace Axent.Axtp

open Lib

/-! ## What a step does to the queue -/

/-- The calls that count for the limit. -/
def Leaf.queued (s : Leaf) : List ℕ := s.inFlight.toList ++ s.pending

theorem Leaf.length_queued (s : Leaf) : s.queued.length = s.outstanding := by
  unfold Leaf.queued Leaf.outstanding
  cases s.inFlight <;> simp

/-- The queue is the same, and so is what each pump does with it. -/
structure SameQueue (s s' : Leaf) : Prop where
  calls : s'.calls = s.calls
  pending : s'.pending = s.pending
  inFlight : s'.inFlight = s.inFlight
  completions : s'.completions = s.completions
  handlers : s'.handlers = s.handlers
  generation : s.recoveryGeneration ≤ s'.recoveryGeneration
  phase : ∀ p, (s'.pumps p).phase = (s.pumps p).phase ∨
    ((s'.pumps p).phase.call = none ∧ (s.pumps p).phase.call = none)

/-- The events of the queue. -/
def LeafEvent.ofQueue : LeafEvent → Bool
  | accepted _ | taken _ | dispatched _ | cancelled _ => true
  | _ => false

/-- What a step does to the queue. -/
inductive QueueStep (s : Leaf) : LeafEvent → Leaf → Prop
  | same {e : LeafEvent} {s' : Leaf} (h : SameQueue s s') (he : e.ofQueue = false) :
      QueueStep s e s'
  | call {e : LeafEvent} {s' : Leaf} (h : CallStep s e s') : QueueStep s e s'
  | pump {e : LeafEvent} {s' : Leaf} (h : PumpStep s e s') : QueueStep s e s'
  | cancelled {d : String} {s' : Leaf} (reason : String)
      (h : SameQueue (s.cancelControlCalls d reason) s') : QueueStep s (.cancelled d) s'

section
variable {s s' : Leaf} {e : LeafEvent} {t : List LeafEvent} {k : ℕ} {phase : PumpPhase}

theorem SameQueue.refl (s : Leaf) : SameQueue s s :=
  ⟨rfl, rfl, rfl, rfl, rfl, Nat.le_refl _, fun _ => .inl rfl⟩

theorem ResetStep.queue (h : ResetStep s e s') : QueueStep s e s' := by
  cases h with
  | begin => exact .same { SameQueue.refl s with generation := Nat.le_succ _ } rfl
  | cancel | cancelAgain => exact .cancelled _ { SameQueue.refl _ with }
  | _ => exact .same { SameQueue.refl s with } rfl

theorem RecoveryStep.queue (h : RecoveryStep s e s') : QueueStep s e s' := by
  cases h with
  | cancel | cancelAgain => exact .cancelled _ { SameQueue.refl _ with }
  | _ => exact .same { SameQueue.refl s with } rfl

theorem LockedStep.queue (hi : SessionInv s) (h : LockedStep s e s') : QueueStep s e s' := by
  cases h with
  | clearEnsure => split_ifs <;> exact .same { SameQueue.refl s with } rfl
  | publish =>
    refine .same { SameQueue.refl s with phase := fun p => ?_ } rfl
    rcases eq_or_ne p s.pumpCount with rfl | hne
    · -- the number of the new pump is fresh
      exact .inr ⟨by simp [Leaf.unlock, Leaf.startPump, PumpPhase.call],
        by rw [hi.count _ (Nat.le_refl _)]; rfl⟩
    · exact .inl (by simp [Leaf.unlock, Leaf.startPump, hne])
  | _ => exact .same { SameQueue.refl s with } rfl

theorem LeafStep.queue (hi : SessionInv s) (h : LeafStep s e s') : QueueStep s e s' := by
  cases h with
  | tick | media => exact .same { SameQueue.refl s with } rfl
  | call h => exact .call h
  | pump h => exact .pump h
  | reset h => exact h.queue
  | recovery h => exact h.queue
  | locked h => exact h.queue hi

/-! ## Calls -/

/-- The two states of a call differ at most in its result, which stays. -/
structure PendingCall.Later (c c' : PendingCall) : Prop where
  deviceId : c'.deviceId = c.deviceId
  deadline : c'.deadline = c.deadline
  generation : c'.recoveryGeneration = c.recoveryGeneration
  result : c.result.isSome = true → c'.result.isSome = true

/-- The calls are those of before, with more results, and perhaps a new one under the current
    generation. -/
structure CallsGrow (s s' : Leaf) : Prop where
  length : s.calls.length ≤ s'.calls.length
  later : ∀ (k : ℕ) (c : PendingCall), s.calls[k]? = some c →
    ∃ c', s'.calls[k]? = some c' ∧ c.Later c'
  fresh : ∀ (k : ℕ) (c : PendingCall), s'.calls[k]? = some c →
    k < s.calls.length ∨ c.recoveryGeneration = s.recoveryGeneration

theorem PendingCall.Later.refl (c : PendingCall) : c.Later c := ⟨rfl, rfl, rfl, id⟩

theorem CallsGrow.of_eq (h : s'.calls = s.calls) : CallsGrow s s' :=
  ⟨by rw [h], fun k c hc => ⟨c, by rw [h, hc], .refl c⟩,
    fun k c hc => .inl (h ▸ List.getElem?_eq_some_iff.1 hc).1⟩

theorem CallsGrow.complete {result : ControlResult} (h : s'.calls = (s.complete k result).calls) :
    CallsGrow s s' := by
  have hlength : s'.calls.length = s.calls.length := by rw [h]; simp [Leaf.complete]
  refine ⟨hlength.ge, fun j c hc => ?_,
    fun j c hc => .inl (hlength ▸ (List.getElem?_eq_some_iff.1 hc).1)⟩
  rw [h]
  simp only [Leaf.complete, List.getElem?_modify, hc]
  refine ⟨_, rfl, ?_⟩
  split_ifs
  · exact ⟨rfl, rfl, rfl, fun _ => by simp⟩
  · exact .refl c

theorem CallStep.calls_grow (h : CallStep s e s') : CallsGrow s s' := by
  cases h with
  | accept h hgeneration =>
    refine ⟨by simp, fun k c hc => ⟨c, ?_, .refl c⟩, fun k c hc => ?_⟩
    · have hk := (List.getElem?_eq_some_iff.1 hc).1
      rw [List.getElem?_append_left hk, hc]
    · rw [List.getElem?_append] at hc
      split at hc
      · exact .inl ‹_›
      · cases List.mem_singleton.1 (List.mem_of_getElem? hc)
        exact .inr hgeneration
  | cancel | complete => exact .complete rfl
  | _ => exact .of_eq rfl

theorem PumpStep.calls_grow (h : PumpStep s e s') : CallsGrow s s' := by
  cases h with
  | reject | timeOut | noClient | answer => exact .complete rfl
  | _ => exact .of_eq rfl

theorem QueueStep.calls_grow (h : QueueStep s e s') : CallsGrow s s' := by
  cases h with
  | same h => exact .of_eq h.calls
  | call h => exact h.calls_grow
  | pump h => exact h.calls_grow
  | cancelled _ h => exact .of_eq h.calls

theorem CallsGrow.ready (h : CallsGrow s s') (hr : s.ready k = true) : s'.ready k = true := by
  unfold Leaf.ready at hr ⊢
  cases hc : s.calls[k]? with
  | none => simp [hc] at hr
  | some c =>
    obtain ⟨c', hc', hlater⟩ := h.later k c hc
    rw [hc'] at ⊢
    rw [hc] at hr
    exact hlater.result hr

theorem ready_complete {result : ControlResult} (hk : k < s.calls.length) :
    (s.complete k result).ready k = true := by
  simp [Leaf.ready, Leaf.complete, List.getElem?_eq_getElem hk]

/-! ## The queue -/

/-- The queue is in the order of acceptance and within its limit, and the call in
    flight is that of the pump. -/
structure QueueInv (s : Leaf) : Prop where
  sorted : s.queued.Pairwise (· < ·)
  bounded : ∀ k ∈ s.queued, k < s.calls.length
  room : s.queued.length ≤ controlQueueLimit
  inFlight : ∀ k, s.inFlight = some k ↔ ∃ p, (s.pumps p).phase.call = some k

theorem QueueInv.leave (hi : QueueInv s) (hsub : s'.queued.Sublist s.queued)
    (hcalls : s.calls.length ≤ s'.calls.length)
    (hin : ∀ k, s'.inFlight = some k ↔ ∃ p, (s'.pumps p).phase.call = some k) : QueueInv s' where
  sorted := hi.sorted.sublist hsub
  bounded k hk := Nat.lt_of_lt_of_le (hi.bounded k (hsub.subset hk)) hcalls
  room := Nat.le_trans hsub.length_le hi.room
  inFlight := hin

theorem QueueInv.same (hi : QueueInv s) (h : SameQueue s s') : QueueInv s' := by
  refine hi.leave (by simp [Leaf.queued, h.pending, h.inFlight]) (by rw [h.calls]) fun k => ?_
  rw [h.inFlight, hi.inFlight]
  refine exists_congr fun p => ?_
  rcases h.phase p with heq | ⟨hnew, hold⟩
  · rw [heq]
  · rw [hnew, hold]

theorem QueueInv.cancelled (hi : QueueInv s) (d reason : String) :
    QueueInv (s.cancelControlCalls d reason) :=
  hi.leave (List.filter_sublist.append_left _) (Nat.le_refl _) hi.inFlight

theorem QueueInv.call (hi : QueueInv s) (h : CallStep s e s') : QueueInv s' := by
  have hgrow := h.calls_grow.length
  cases h with
  | accept h hgeneration hroom =>
    have hqueued : s.inFlight.toList ++ (s.pending ++ [s.calls.length]) =
        s.queued ++ [s.calls.length] := (List.append_assoc ..).symm
    refine ⟨?_, fun k hk => ?_, ?_, hi.inFlight⟩
    · change List.Pairwise _ (s.inFlight.toList ++ (s.pending ++ [s.calls.length]))
      rw [hqueued, List.pairwise_append]
      refine ⟨hi.sorted, List.pairwise_singleton .., ?_⟩
      rintro j hj k hk
      rw [List.mem_singleton.1 hk]
      exact hi.bounded j hj
    · change k ∈ s.inFlight.toList ++ (s.pending ++ [s.calls.length]) at hk
      rw [hqueued, List.mem_append, List.mem_singleton] at hk
      rw [List.length_append, List.length_singleton]
      rcases hk with hk | rfl
      · exact Nat.lt_succ_of_lt (hi.bounded k hk)
      · exact Nat.lt_succ_self _
    · rw [Leaf.length_queued]
      simp only [Leaf.outstanding, List.length_append, List.length_singleton] at hroom ⊢
      omega
  | cancelHandler => exact hi.leave (List.erase_sublist.append_left _) hgrow hi.inFlight
  | _ => exact hi.leave (.refl _) hgrow hi.inFlight

theorem call_setPhase {p : ℕ} (h : phase.call = (s.pumps p).phase.call) :
    (∃ q, ((s.setPhase p phase).pumps q).phase.call = some k) ↔
      ∃ q, (s.pumps q).phase.call = some k := by
  refine exists_congr fun q => ?_
  rcases eq_or_ne q p with rfl | hne
  · simp [Leaf.setPhase, h]
  · simp [Leaf.setPhase, hne]

theorem PumpPhase.running_of_call (h : phase.call = some k) : phase ≠ .finished := by
  rintro rfl
  cases h

/-- The only pump that runs decides what is in flight. -/
theorem QueueInv.inFlight_iff (hi : QueueInv s) (hs : SessionInv s) {p : ℕ}
    (hp : (s.pumps p).phase ≠ .finished) : s.inFlight = (s.pumps p).phase.call := by
  ext k
  rw [hi.inFlight]
  constructor
  · rintro ⟨q, hq⟩
    obtain rfl := hs.pump_unique hp (PumpPhase.running_of_call hq)
    exact hq
  · exact fun h => ⟨p, h⟩

theorem QueueInv.pump (hi : QueueInv s) (hs : SessionInv s) (h : PumpStep s e s') :
    QueueInv s' := by
  have hgrow := h.calls_grow.length
  have hkeep {p : ℕ} {phase : PumpPhase} (hcall : phase.call = (s.pumps p).phase.call) :
      QueueInv (s.setPhase p phase) :=
    hi.leave (.refl _) (Nat.le_refl _) fun k => by rw [call_setPhase hcall]; exact hi.inFlight k
  -- after the only pump that runs has changed its call
  have hcall (phase : PumpPhase) {p k : ℕ} (hp : (s.pumps p).phase ≠ .finished) :
      phase.call = some k ↔ ∃ q, ((s.setPhase p phase).pumps q).phase.call = some k := by
    constructor
    · exact fun h => ⟨p, by simpa [Leaf.setPhase] using h⟩
    · rintro ⟨q, hq⟩
      rcases eq_or_ne q p with rfl | hne
      · simpa [Leaf.setPhase] using hq
      · simp only [Leaf.setPhase, Function.update_of_ne hne] at hq
        exact absurd (hs.pump_unique (PumpPhase.running_of_call hq) hp) hne
  cases h with
  | exit h | readTime h | readSession h | check h | dispatch h =>
    exact hkeep (by rw [h, PumpPhase.call, PumpPhase.call])
  | @reject p k _ _ _ h | @timeOut p k _ _ h | @noClient p k h | @answer p k _ h =>
    have hi' : QueueInv (s.setPhase p (.done k)) := hkeep (by rw [h]; rfl)
    exact hi'.leave (.refl _) hgrow hi'.inFlight
  | takeNone => exact hi.leave ((List.nil_sublist _).append_left _) hgrow hi.inFlight
  | expire => exact hi.leave (List.filter_sublist.append_left _) hgrow hi.inFlight
  | requestRecovery | snapshot => exact hi.leave (.refl _) hgrow hi.inFlight
  | @take p k rest h hk =>
    have hnone := hi.inFlight_iff hs (p := p) (by simp [h])
    rw [h] at hnone
    refine hi.leave ?_ hgrow fun j => hcall (.took k) (by simp [h])
    have hsub := List.dropWhile_sublist s.ready (l := s.pending)
    rw [hk] at hsub
    simpa [Leaf.queued, hnone, PumpPhase.call] using hsub
  | @clearInFlight p k h =>
    have hsome := hi.inFlight_iff hs (p := p) (by simp [h])
    rw [h] at hsome
    refine hi.leave ?_ hgrow fun j => ?_
    · simp [Leaf.queued, hsome, PumpPhase.call, Leaf.setPhase]
    · rw [← hcall .loop (by simp [h])]
      simp [hsome, PumpPhase.call]

theorem QueueInv.step (hi : QueueInv s) (hs : SessionInv s) (h : QueueStep s e s') :
    QueueInv s' := by
  cases h with
  | same h => exact hi.same h
  | call h => exact hi.call h
  | pump h => exact hi.pump hs h
  | cancelled reason h => exact (hi.cancelled _ reason).same h

/-! ## The order of dispatch -/

/-- The calls that are dispatched, in this order. -/
def dispatches (t : List LeafEvent) : List ℕ :=
  t.filterMap fun e => match e with
    | .dispatched k => some k
    | _ => none

/-- The call that a pump has in flight and not yet dispatched. -/
def PumpPhase.waits : PumpPhase → Option ℕ
  | took k | timed k _ | matched k _ _ | checked k => some k
  | _ => none

theorem PumpPhase.call_of_waits (h : phase.waits = some k) : phase.call = some k := by
  cases phase <;> first | exact h | cases h

theorem dispatches_concat_dispatched (t : List LeafEvent) (k : ℕ) :
    dispatches (t ++ [.dispatched k]) = dispatches t ++ [k] := by
  simp [dispatches]

theorem dispatches_concat (he : ∀ k, e ≠ .dispatched k) : dispatches (t ++ [e]) = dispatches t := by
  rw [dispatches, filterMap_concat]
  cases e with
  | dispatched k => exact absurd rfl (he k)
  | _ => exact List.append_nil _

theorem mem_dispatches : k ∈ dispatches t ↔ .dispatched k ∈ t := by
  rw [dispatches, List.mem_filterMap]
  constructor
  · rintro ⟨e, he, hk⟩
    cases e with
    | dispatched j => cases hk; exact he
    | _ => cases hk
  · exact fun h => ⟨_, h, rfl⟩

/-- What is dispatched comes before what is not. -/
structure OrderInv (t : List LeafEvent) (s : Leaf) : Prop where
  sorted : (dispatches t).Pairwise (· < ·)
  bounded : ∀ j ∈ dispatches t, j < s.calls.length
  pending : ∀ j ∈ dispatches t, ∀ k ∈ s.pending, j < k
  waiting : ∀ j ∈ dispatches t, ∀ p k, (s.pumps p).phase.waits = some k → j < k

theorem OrderInv.keep (ho : OrderInv t s) (he : ∀ k, e ≠ .dispatched k)
    (hcalls : s.calls.length ≤ s'.calls.length)
    (hpending : ∀ k ∈ s'.pending, k ∈ s.pending ∨ k = s.calls.length)
    (hwaits : ∀ p k, (s'.pumps p).phase.waits = some k →
      k ∈ s.pending ∨ ∃ q, (s.pumps q).phase.waits = some k) : OrderInv (t ++ [e]) s' := by
  have hd := dispatches_concat (t := t) he
  refine ⟨hd ▸ ho.sorted, fun j hj => ?_, fun j hj k hk => ?_, fun j hj p k hk => ?_⟩
  all_goals rw [hd] at hj
  · exact Nat.lt_of_lt_of_le (ho.bounded j hj) hcalls
  · rcases hpending k hk with hk | rfl
    · exact ho.pending j hj k hk
    · exact ho.bounded j hj
  · rcases hwaits p k hk with hk | ⟨q, hk⟩
    · exact ho.pending j hj k hk
    · exact ho.waiting j hj q k hk

/-- A call that a pump has in flight was pending, or in flight before. -/
theorem PumpStep.waits {p : ℕ} (h : PumpStep s e s') (hk : (s'.pumps p).phase.waits = some k) :
    k ∈ s.pending ∨ (s.pumps p).phase.waits = some k := by
  have hphase {q : ℕ} {phase : PumpPhase}
      (hk : ((s.setPhase q phase).pumps p).phase.waits = some k) :
      (p = q ∧ phase.waits = some k) ∨ (s.pumps p).phase.waits = some k := by
    rcases eq_or_ne p q with rfl | hne
    · exact .inl ⟨rfl, by simpa [Leaf.setPhase] using hk⟩
    · exact .inr (by simpa [Leaf.setPhase, hne] using hk)
  cases h with
  | takeNone | expire | requestRecovery | snapshot => exact .inr hk
  | @take q j rest h hj =>
    rcases hphase hk with ⟨-, hk⟩ | hk
    · cases hk
      exact .inl ((List.dropWhile_sublist _).subset (hj ▸ List.mem_cons_self))
    · exact .inr hk
  | readTime h | readSession h | check h =>
    refine .inr ?_
    rcases hphase hk with ⟨rfl, hk⟩ | hk
    · rwa [h]
    · exact hk
  | exit h | dispatch h | clearInFlight h =>
    refine .inr ?_
    rcases hphase hk with ⟨-, hk⟩ | hk
    · cases hk
    · exact hk
  | reject h | timeOut h | noClient h | answer _ h =>
    refine .inr ?_
    rcases hphase hk with ⟨-, hk⟩ | hk
    · cases hk
    · exact hk

theorem CallStep.pending (h : CallStep s e s') (hk : k ∈ s'.pending) :
    k ∈ s.pending ∨ k = s.calls.length := by
  cases h with
  | accept => simpa using hk
  | cancelHandler => exact .inl (List.mem_of_mem_erase hk)
  | _ => exact .inl hk

theorem PumpStep.pending (h : PumpStep s e s') (hk : k ∈ s'.pending) : k ∈ s.pending := by
  cases h with
  | takeNone => cases hk
  | take _ hj => exact (List.dropWhile_sublist _).subset (hj ▸ List.mem_cons_of_mem _ hk)
  | expire => exact List.mem_of_mem_filter hk
  | _ => exact hk

theorem CallStep.pumps_eq (h : CallStep s e s') : s'.pumps = s.pumps := by
  cases h <;> rfl

theorem SameQueue.waits (h : SameQueue s s') {p : ℕ} (hk : (s'.pumps p).phase.waits = some k) :
    (s.pumps p).phase.waits = some k := by
  rcases h.phase p with heq | ⟨hnew, -⟩
  · rwa [← heq]
  · rw [PumpPhase.call_of_waits hk] at hnew
    cases hnew

theorem OrderInv.step (ho : OrderInv t s) (hi : QueueInv s) (hs : SessionInv s)
    (h : QueueStep s e s') : OrderInv (t ++ [e]) s' := by
  have hgrow := h.calls_grow.length
  cases h with
  | same h he =>
    refine ho.keep (fun k => ?_) hgrow (fun k hk => .inl (h.pending ▸ hk))
      fun p k hk => .inr ⟨p, h.waits hk⟩
    rintro rfl
    cases he
  | cancelled _ h =>
    refine ho.keep nofun hgrow (fun k hk => .inl ?_) fun p k hk => .inr ⟨p, h.waits hk⟩
    rw [h.pending] at hk
    exact List.mem_of_mem_filter hk
  | call h =>
    refine ho.keep (fun k => ?_) hgrow (fun k hk => h.pending hk) fun p k hk => .inr ⟨p, ?_⟩
    · rintro rfl
      cases h
    · rwa [h.pumps_eq] at hk
  | @pump e s' h =>
    by_cases he : ∀ k, e ≠ .dispatched k
    · exact ho.keep he hgrow (fun k hk => .inl (h.pending hk))
        fun p k hk => (h.waits hk).imp_right fun hk => ⟨p, hk⟩
    · push Not at he
      obtain ⟨k, rfl⟩ := he
      cases h with
      | @dispatch p _ h =>
        have hin := hi.inFlight_iff hs (p := p) (by simp [h])
        rw [h] at hin
        have hsorted := hi.sorted
        have hbounded := hi.bounded
        simp only [Leaf.queued, hin, PumpPhase.call, Option.toList_some, List.singleton_append,
          List.pairwise_cons, List.mem_cons, forall_eq_or_imp] at hsorted hbounded
        have hd := dispatches_concat_dispatched t k
        have hmem {j : ℕ} (hj : j ∈ dispatches (t ++ [.dispatched k])) :
            j ∈ dispatches t ∨ j = k := by
          rwa [hd, List.mem_append, List.mem_singleton] at hj
        refine ⟨?_, fun j hj => ?_, fun j hj i hi => ?_, fun j _ q i hq => ?_⟩
        · rw [hd, List.pairwise_append]
          refine ⟨ho.sorted, List.pairwise_singleton .., fun j hj i hi => ?_⟩
          rw [List.mem_singleton.1 hi]
          exact ho.waiting j hj p k (by rw [h]; rfl)
        · rcases hmem hj with hj | rfl
          · exact ho.bounded j hj
          · exact hbounded.1
        · rcases hmem hj with hj | rfl
          · exact ho.pending j hj i hi
          · exact hsorted.1 i hi
        · -- no other pump runs, and this one has dispatched its call
          have hrun := PumpPhase.running_of_call (PumpPhase.call_of_waits hq)
          rcases eq_or_ne q p with rfl | hne
          · simp [Leaf.setPhase, PumpPhase.waits] at hq
          · simp only [Leaf.setPhase, Function.update_of_ne hne] at hrun
            exact absurd (hs.pump_unique hrun (by simp [h])) hne

/-! ## No call is lost -/

/-- A call that is neither queued nor dispatched has a result, or gets one. -/
structure SettledInv (t : List LeafEvent) (s : Leaf) : Prop where
  handlers : ∀ k ∈ s.handlers, s.ready k = true
  done : ∀ p k, (s.pumps p).phase = .done k → s.ready k = true
  all : ∀ k < s.calls.length, k ∈ s.queued ∨ k ∈ dispatches t ∨ s.ready k = true ∨
    ∃ result, (k, result) ∈ s.completions

/-- A call that has not left the queue for a reason of its own is where it was. -/
theorem SettledInv.step_all (hw : SettledInv t s) (hgrow : CallsGrow s s')
    (hdispatches : ∀ k ∈ dispatches t, k ∈ dispatches (t ++ [e]))
    (hnew : ∀ k < s'.calls.length, k < s.calls.length ∨ k ∈ s'.queued)
    (hqueued : ∀ k ∈ s.queued, k ∈ s'.queued ∨ s'.ready k = true ∨
      ∃ result, (k, result) ∈ s'.completions)
    (hcompletions : ∀ k result, (k, result) ∈ s.completions → k < s.calls.length →
      (k, result) ∈ s'.completions ∨ s'.ready k = true) :
    ∀ k < s'.calls.length, k ∈ s'.queued ∨ k ∈ dispatches (t ++ [e]) ∨ s'.ready k = true ∨
      ∃ result, (k, result) ∈ s'.completions := by
  intro k hk
  rcases hnew k hk with hlt | hk
  · rcases hw.all k hlt with hk | hk | hk | ⟨result, hk⟩
    · exact (hqueued k hk).imp_right .inr
    · exact .inr (.inl (hdispatches k hk))
    · exact .inr (.inr (.inl (hgrow.ready hk)))
    · exact .inr (.inr ((hcompletions k result hk hlt).symm.imp_right fun hk => ⟨result, hk⟩))
  · exact .inl hk

theorem dispatches_subset (t : List LeafEvent) (e : LeafEvent) :
    ∀ k ∈ dispatches t, k ∈ dispatches (t ++ [e]) := by
  intro k hk
  rw [mem_dispatches] at hk ⊢
  exact List.mem_append_left _ hk

theorem ready_congr (h : s'.calls = s.calls) (k : ℕ) : s'.ready k = s.ready k := by
  rw [Leaf.ready, Leaf.ready, h]

theorem SettledInv.same (hw : SettledInv t s) (h : SameQueue s s') : SettledInv (t ++ [e]) s' := by
  have hqueued : s'.queued = s.queued := by rw [Leaf.queued, h.inFlight, h.pending]; rfl
  refine ⟨fun k hk => ?_, fun p k hk => ?_, ?_⟩
  · rw [ready_congr h.calls]
    exact hw.handlers k (h.handlers ▸ hk)
  · rw [ready_congr h.calls]
    rcases h.phase p with heq | ⟨hnew, -⟩
    · exact hw.done p k (heq ▸ hk)
    · rw [hk] at hnew
      cases hnew
  · refine hw.step_all (.of_eq h.calls) (dispatches_subset t e) (fun k hk => .inl ?_)
      (fun k hk => .inl ?_) fun k result hk _ => .inl ?_
    · rwa [h.calls] at hk
    · rwa [hqueued]
    · rwa [h.completions]

theorem SettledInv.cancelled (hw : SettledInv t s) (d reason : String) :
    SettledInv t (s.cancelControlCalls d reason) := by
  refine ⟨hw.handlers, hw.done, fun k hk => ?_⟩
  rcases hw.all k hk with hk | hk | hk | ⟨result, hk⟩
  · rcases List.mem_append.1 hk with hin | hpending
    · exact .inl (List.mem_append_left _ hin)
    · cases hfor : s.isFor d k with
      | false =>
        exact .inl (List.mem_append_right _ (List.mem_filter.2 ⟨hpending, by simp [hfor]⟩))
      | true =>
        refine .inr (.inr (.inr ⟨.failure .unavailable reason, List.mem_append_right _ ?_⟩))
        simp [hpending, hfor]
  · exact .inr (.inl hk)
  · exact .inr (.inr (.inl hk))
  · exact .inr (.inr (.inr ⟨result, List.mem_append_left _ hk⟩))

theorem SettledInv.call (hw : SettledInv t s) (h : CallStep s e s') :
    SettledInv (t ++ [e]) s' := by
  have hgrow := h.calls_grow
  have hd := dispatches_subset t e
  have hdone (p k : ℕ) (hk : (s'.pumps p).phase = .done k) : s'.ready k = true := by
    rw [h.pumps_eq] at hk
    exact hgrow.ready (hw.done p k hk)
  cases h with
  | accept =>
    refine ⟨fun k hk => hgrow.ready (hw.handlers k hk), hdone, hw.step_all hgrow hd (fun k hk => ?_)
      (fun k hk => .inl ?_) fun k result hk _ => .inl hk⟩
    · rw [List.length_append, List.length_singleton, Nat.lt_succ_iff_lt_or_eq] at hk
      refine hk.imp_right fun hk => List.mem_append_right _ ?_
      simp [hk]
    · simp only [Leaf.queued, List.mem_append] at hk ⊢
      exact hk.imp_right .inl
  | @cancel k hk h =>
    refine ⟨fun j hj => ?_, hdone, hw.step_all hgrow hd (fun j hj => .inl ?_)
      (fun j hj => .inl hj) fun j result hj _ => .inl hj⟩
    · rcases List.mem_append.1 hj with hj | hj
      · exact hgrow.ready (hw.handlers j hj)
      · rw [List.mem_singleton.1 hj]
        exact ready_complete hk
    · simpa [Leaf.complete] using hj
  | @cancelHandler k hk =>
    refine ⟨fun j hj => hw.handlers j (List.mem_of_mem_erase hj), hdone, hw.step_all hgrow hd
      (fun j hj => .inl hj) (fun j hj => ?_) fun j result hj _ => .inl hj⟩
    -- the call whose handler runs has a result
    rcases eq_or_ne j k with rfl | hne
    · exact .inr (.inl (hw.handlers j hk))
    · refine .inl ?_
      simp only [Leaf.queued, List.mem_append] at hj ⊢
      exact hj.imp_right fun hj => (List.mem_erase_of_ne hne).2 hj
  | @complete k result before after h =>
    refine ⟨fun j hj => hgrow.ready (hw.handlers j hj), hdone, hw.step_all hgrow hd
      (fun j hj => .inl ?_) (fun j hj => .inl hj) fun j result' hj hlt => ?_⟩
    · simpa [Leaf.complete] using hj
    · rw [h, List.mem_append, List.mem_cons] at hj
      rcases hj with hj | hj | hj
      · exact .inl (List.mem_append_left _ hj)
      · cases hj
        exact .inr (ready_complete hlt)
      · exact .inl (List.mem_append_right _ hj)
  | _ =>
    exact hw.same { SameQueue.refl s with }

theorem mem_dropWhile_or {l : List ℕ} {p : ℕ → Bool} (h : k ∈ l) :
    k ∈ l.dropWhile p ∨ p k = true := by
  rw [← List.takeWhile_append_dropWhile (p := p) (l := l), List.mem_append] at h
  exact h.symm.imp_right List.mem_takeWhile_imp

theorem phase_setPhase (new : PumpPhase) {p q : ℕ}
    (h : ((s.setPhase p new).pumps q).phase = phase) : new = phase ∨ (s.pumps q).phase = phase := by
  rcases eq_or_ne q p with rfl | hne
  · exact .inl (by simpa [Leaf.setPhase] using h)
  · exact .inr (by simpa [Leaf.setPhase, hne] using h)

theorem SettledInv.pump (hw : SettledInv t s) (hi : QueueInv s) (hs : SessionInv s)
    (h : PumpStep s e s') : SettledInv (t ++ [e]) s' := by
  have hgrow := h.calls_grow
  have hd := dispatches_subset t e
  have hlength : s'.calls.length = s.calls.length := by
    cases h <;> simp [Leaf.complete, Leaf.setPhase, Leaf.expire]
  have hhandlers (hh : s'.handlers = s.handlers) : ∀ k ∈ s'.handlers, s'.ready k = true :=
    fun k hk => hgrow.ready (hw.handlers k (hh ▸ hk))
  have hnew : ∀ k < s'.calls.length, k < s.calls.length ∨ k ∈ s'.queued :=
    fun k hk => .inl (hlength ▸ hk)
  have hdone {p : ℕ} (new : PumpPhase) (hp : s'.pumps = (s.setPhase p new).pumps)
      (hset : ∀ k, new = .done k → s'.ready k = true) :
      ∀ q k, (s'.pumps q).phase = .done k → s'.ready k = true := by
    intro q k hk
    rw [hp] at hk
    rcases phase_setPhase new hk with hk | hk
    · exact hset k hk
    · exact hgrow.ready (hw.done q k hk)
  have hsame {q k : ℕ} (hk : (s.pumps q).phase = .done k) : s'.ready k = true :=
    hgrow.ready (hw.done q k hk)
  cases h with
  | exit | readTime | readSession | check | dispatch =>
    exact ⟨hhandlers rfl, hdone _ rfl (by simp), hw.step_all hgrow hd hnew (fun k hk => .inl hk)
      fun k result hk _ => .inl hk⟩
  | requestRecovery | snapshot =>
    exact ⟨hhandlers rfl, fun q k hk => hsame hk, hw.step_all hgrow hd hnew (fun k hk => .inl hk)
      fun k result hk _ => .inl hk⟩
  | takeNone h hnone =>
    refine ⟨hhandlers rfl, fun q k hk => hsame hk, hw.step_all hgrow hd hnew (fun k hk => ?_)
      fun k result hk _ => .inl hk⟩
    rcases List.mem_append.1 hk with hk | hk
    · exact .inl (List.mem_append_left _ hk)
    · rcases mem_dropWhile_or (p := s.ready) hk with hk | hk
      · rw [hnone] at hk
        cases hk
      · exact .inr (.inl hk)
  | @take p k rest h hk =>
    have hnone := hi.inFlight_iff hs (p := p) (by simp [h])
    rw [h] at hnone
    refine ⟨hhandlers rfl, hdone _ rfl (by simp), hw.step_all hgrow hd hnew (fun j hj => ?_)
      fun j result hj _ => .inl hj⟩
    simp only [Leaf.queued, hnone, PumpPhase.call, Option.toList_none, List.nil_append] at hj
    rcases mem_dropWhile_or (p := s.ready) hj with hj | hj
    · exact .inl (by simpa [Leaf.queued, hk] using hj)
    · exact .inr (.inl hj)
  | @expire kept howner hkept hlost =>
    refine ⟨hhandlers rfl, fun q k hk => hsame hk, hw.step_all hgrow hd hnew (fun k hk => ?_)
      fun k result hk _ => .inl (List.mem_append_left _ hk)⟩
    rcases List.mem_append.1 hk with hk | hk
    · exact .inl (List.mem_append_left _ hk)
    · cases hkeep : kept k with
      | true => exact .inl (List.mem_append_right _ (List.mem_filter.2 ⟨hk, hkeep⟩))
      | false =>
        cases hready : s.ready k with
        | true => exact .inr (.inl hready)
        | false =>
          refine .inr (.inr ⟨_, List.mem_append_right _ (List.mem_map.2 ⟨k, ?_, rfl⟩)⟩)
          simp [hk, hkeep, hready]
  | @reject p k _ _ _ h | @timeOut p k _ _ h | @noClient p k h | @answer p k _ h =>
    -- the call in flight gets its result
    have hin := (hi.inFlight k).2 ⟨p, by rw [h]; rfl⟩
    have hk : k < s.calls.length := hi.bounded k (by simp [Leaf.queued, hin])
    refine ⟨hhandlers rfl, hdone (p := p) (.done k) rfl ?_, hw.step_all hgrow hd hnew
      (fun k hk => .inl hk) fun k result hk _ => .inl hk⟩
    rintro _ ⟨⟩
    exact ready_complete hk
  | @clearInFlight p k h =>
    have hin := hi.inFlight_iff hs (p := p) (by simp [h])
    rw [h] at hin
    refine ⟨hhandlers rfl, hdone (p := p) .loop rfl (by simp), hw.step_all hgrow hd hnew
      (fun j hj => ?_) fun j result hj _ => .inl hj⟩
    rcases List.mem_append.1 hj with hj | hj
    · rw [hin] at hj
      cases List.mem_singleton.1 hj
      exact .inr (.inl (hsame h))
    · exact .inl (List.mem_append_right _ hj)

theorem SettledInv.step (hw : SettledInv t s) (hi : QueueInv s) (hs : SessionInv s)
    (h : QueueStep s e s') : SettledInv (t ++ [e]) s' := by
  cases h with
  | same h => exact hw.same h
  | call h => exact hw.call h
  | pump h => exact hw.pump hi hs h
  | cancelled reason h => exact (hw.cancelled _ reason).same h

/-! ## The checks before a dispatch -/

theorem QueueStep.generation_mono (h : QueueStep s e s') :
    s.recoveryGeneration ≤ s'.recoveryGeneration := by
  cases h with
  | same h => exact h.generation
  | cancelled _ h => exact h.generation
  | call h => cases h <;> exact Nat.le_refl _
  | pump h =>
    cases h with
    | requestRecovery => exact Nat.le_succ _
    | _ => exact Nat.le_refl _

theorem generation_mono (h₁ : Run LeafStep {} t s) {t' : List LeafEvent}
    (h : Run LeafStep s t' s') : s.recoveryGeneration ≤ s'.recoveryGeneration := by
  have hboth := h.keeps (P := fun x => SessionInv x ∧ s.recoveryGeneration ≤ x.recoveryGeneration)
    (fun ⟨hs, hle⟩ hstep => ⟨hs.step hstep, hle.trans (hstep.queue hs).generation_mono⟩)
    ⟨session_inv h₁, Nat.le_refl _⟩
  exact hboth.2

/-- No call is of a later generation than the current one. -/
def Leaf.Generations (s : Leaf) : Prop :=
  ∀ (k : ℕ) (c : PendingCall), s.calls[k]? = some c → c.recoveryGeneration ≤ s.recoveryGeneration

theorem Leaf.Generations.step (hg : s.Generations) (h : QueueStep s e s') : s'.Generations := by
  intro k c hc
  refine le_trans ?_ h.generation_mono
  rcases h.calls_grow.fresh k c hc with hk | hnew
  · obtain ⟨c', hc', hlater⟩ := h.calls_grow.later k _ (List.getElem?_eq_getElem hk)
    obtain rfl : c = c' := Option.some.inj (hc.symm.trans hc')
    rw [hlater.generation]
    exact hg k _ (List.getElem?_eq_getElem hk)
  · exact hnew.le

/-- Since the call was taken, the run has passed a state with the property. -/
def Since (t : List LeafEvent) (s : Leaf) (k : ℕ) (P : Leaf → Prop) : Prop :=
  ∃ earlier later s₁, t = earlier ++ later ∧ .taken k ∈ earlier ∧ Run LeafStep {} earlier s₁ ∧
    Run LeafStep s₁ later s ∧ P s₁

/-- Since the call was taken, the run has passed a state in which its deadline had not passed, the
    session was open for its device, and its recovery generation was the current one. -/
def Checked (t : List LeafEvent) (s : Leaf) (k : ℕ) : Prop :=
  ∃ c, s.calls[k]? = some c ∧ Since t s k fun s₁ => s₁.now < c.deadline ∧
    s₁.sessionReady c.deviceId = true ∧ s₁.recoveryGeneration = c.recoveryGeneration

/-- Since the call was taken, the run has passed a state at the time `now`, in which the session
    was open for the device of the call if it is now `ready`. -/
def TimeRead (t : List LeafEvent) (s : Leaf) (k : ℕ) (c : PendingCall) (now : ℕ) (ready : Bool) :
    Prop :=
  Since t s k fun s₁ => s₁.now = now ∧ (ready = true → s₁.sessionReady c.deviceId = true) ∧
    c.recoveryGeneration ≤ s₁.recoveryGeneration

/-- What a pump has read about its call. -/
def PumpPhase.Backed (t : List LeafEvent) (s : Leaf) : PumpPhase → Prop
  | took k => .taken k ∈ t
  | timed k now => ∃ c, s.calls[k]? = some c ∧ TimeRead t s k c now (s.sessionReady c.deviceId)
  | matched k now sessionMatches => ∃ c, s.calls[k]? = some c ∧ TimeRead t s k c now sessionMatches
  | checked k => Checked t s k
  | _ => True

/-- Between the two readings of a pump, no session becomes ready. -/
theorem LeafStep.not_readied (h : LeafStep s e s') (hi : SessionInv s) {p now : ℕ} {d : String}
    (hp : (s.pumps p).phase = .timed k now) (hr : s'.sessionReady d = true) :
    s.sessionReady d = true := by
  cases h with
  | tick | media => exact hr
  | call h => cases h <;> exact hr
  | pump h =>
    cases h with
    | snapshot _ _ _ hnot => exact absurd hp (hnot p k now)
    | _ => exact hr
  | reset h => cases h <;> exact hr
  | recovery h => cases h <;> exact hr
  | locked h =>
    cases h with
    | clearReset | clearRecover | notReady => cases hr
    | clearEnsure =>
      split_ifs at hr
      · exact hr
      · cases hr
    | publish h =>
      -- no pump runs while a session is opened
      have := hi.joined (by rw [h]; rfl) (by rw [h]; rfl) (by rw [h]; rfl) p
      rw [hp] at this
      cases this
    | _ => exact hr

theorem Since.now {P : Leaf → Prop} (h : Run LeafStep {} t s) (hk : .taken k ∈ t) (hP : P s) :
    Since t s k P := ⟨t, [], s, by simp, hk, h, .nil, hP⟩

theorem Since.snoc {P : Leaf → Prop} (h : Since t s k P) (he : LeafStep s e s') :
    Since (t ++ [e]) s' k P := by
  obtain ⟨earlier, later, s₁, rfl, hk, hearly, hlate, hP⟩ := h
  exact ⟨earlier, later ++ [e], s₁, by simp, hk, hearly, hlate.snoc he, hP⟩

theorem TimeRead.checked {c : PendingCall} {now : ℕ} (h : TimeRead t s k c now true)
    (hg : c.recoveryGeneration = s.recoveryGeneration) (hearly : now < c.deadline) :
    Since t s k fun s₁ => s₁.now < c.deadline ∧ s₁.sessionReady c.deviceId = true ∧
      s₁.recoveryGeneration = c.recoveryGeneration := by
  obtain ⟨earlier, later, s₁, ht, hk, h₁, h₂, rfl, hready, hle⟩ := h
  exact ⟨earlier, later, s₁, ht, hk, h₁, h₂, hearly, hready rfl,
    Nat.le_antisymm (hg ▸ generation_mono h₁ h₂) hle⟩

theorem PumpPhase.Backed.snoc (h : phase.Backed t s) (hgrow : CallsGrow s s')
    (he : LeafStep s e s') (hready : ∀ k now d, phase = .timed k now →
      s'.sessionReady d = true → s.sessionReady d = true) : phase.Backed (t ++ [e]) s' := by
  cases phase with
  | took k => exact List.mem_append_left _ h
  | timed k now =>
    obtain ⟨c, hc, hread⟩ := h
    obtain ⟨c', hc', hlater⟩ := hgrow.later k c hc
    obtain ⟨earlier, later, s₁, ht, hk, h₁, h₂, hnow, hs, hle⟩ := hread.snoc he
    refine ⟨c', hc', earlier, later, s₁, ht, hk, h₁, h₂, hnow, ?_⟩
    rw [hlater.deviceId, hlater.generation]
    exact ⟨hs ∘ hready k now _ rfl, hle⟩
  | matched k | checked k =>
    obtain ⟨c, hc, hread⟩ := h
    obtain ⟨c', hc', hlater⟩ := hgrow.later k c hc
    refine ⟨c', hc', ?_⟩
    simp only [TimeRead, hlater.deadline, hlater.deviceId, hlater.generation]
    exact hread.snoc he
  | loop | calling | done | finished => trivial

theorem PumpStep.backed (hrun : Run LeafStep {} t s) (hi : QueueInv s) (hg : s.Generations)
    (hb : ∀ p, (s.pumps p).phase.Backed t s) (h : PumpStep s e s') (he : LeafStep s e s') (p : ℕ) :
    (s'.pumps p).phase.Backed (t ++ [e]) s' := by
  have hkeep (q : ℕ) : (s.pumps q).phase.Backed (t ++ [e]) s' :=
    (hb q).snoc h.calls_grow he fun _ _ _ hq => he.not_readied (session_inv hrun) hq
  have hset {q : ℕ} {new : PumpPhase} (hp : s'.pumps = (s.setPhase q new).pumps)
      (hnew : new.Backed (t ++ [e]) s') : (s'.pumps p).phase.Backed (t ++ [e]) s' := by
    rw [hp]
    rcases phase_setPhase new (s := s) (p := q) (q := p) rfl with heq | heq
    · rw [← heq]
      exact hnew
    · rw [← heq]
      exact hkeep p
  cases h with
  | takeNone | expire | requestRecovery | snapshot => exact hkeep p
  | exit | dispatch | clearInFlight | reject | timeOut | noClient | answer =>
    exact hset rfl trivial
  | take => exact hset rfl (by simp [PumpPhase.Backed])
  | @readTime q k h =>
    have hk : .taken k ∈ t := by
      have := hb q
      rwa [h] at this
    have hin := (hi.inFlight k).2 ⟨q, by rw [h]; rfl⟩
    have hc := List.getElem?_eq_getElem (hi.bounded k (by simp [Leaf.queued, hin]))
    exact hset rfl ⟨_, hc, (Since.now hrun hk ⟨rfl, id, hg k _ hc⟩).snoc he⟩
  | @readSession q k now c h hc =>
    obtain ⟨c', hc', hread⟩ : PumpPhase.Backed t s (.timed k now) := h ▸ hb q
    obtain rfl : c = c' := Option.some.inj (hc.symm.trans hc')
    exact hset rfl ⟨c, hc, hread.snoc he⟩
  | @check q k now c h hc hgeneration hdevice hearly =>
    obtain ⟨c', hc', hread⟩ : PumpPhase.Backed t s (.matched k now true) := h ▸ hb q
    obtain rfl : c = c' := Option.some.inj (hc.symm.trans hc')
    exact hset rfl ⟨c, hc, (hread.checked hgeneration hearly).snoc he⟩

theorem QueueStep.backed (hrun : Run LeafStep {} t s) (hi : QueueInv s) (hg : s.Generations)
    (hb : ∀ p, (s.pumps p).phase.Backed t s) (h : QueueStep s e s') (he : LeafStep s e s') (p : ℕ) :
    (s'.pumps p).phase.Backed (t ++ [e]) s' := by
  have hkeep := (hb p).snoc h.calls_grow he fun _ _ _ hp => he.not_readied (session_inv hrun) hp
  have hsame {s₀ : Leaf} (h : SameQueue s₀ s') (hp : s₀.pumps = s.pumps) :
      (s'.pumps p).phase.Backed (t ++ [e]) s' := by
    rcases h.phase p with heq | ⟨hnew, -⟩
    · rw [heq, hp]
      exact hkeep
    · cases hphase : (s'.pumps p).phase <;> rw [hphase] at hnew <;> trivial
  cases h with
  | same h => exact hsame h rfl
  | cancelled _ h => exact hsame h rfl
  | pump h => exact h.backed hrun hi hg hb he p
  | call h => rwa [h.pumps_eq]

/-! ## Cancelled devices -/

/-- The queued calls of the device were accepted under this generation or a later
    one. -/
structure Leaf.NoneBefore (s : Leaf) (d : String) (generation : ℕ) : Prop where
  current : generation ≤ s.recoveryGeneration
  pending : ∀ k ∈ s.pending, ∀ c, s.calls[k]? = some c → c.deviceId = d →
    generation ≤ c.recoveryGeneration

/-- A queued call was queued before, or is a new one under the current generation. -/
theorem QueueStep.pending {c : PendingCall} (h : QueueStep s e s') (hk : k ∈ s'.pending)
    (hc : s'.calls[k]? = some c) : k ∈ s.pending ∨ c.recoveryGeneration = s.recoveryGeneration := by
  cases h with
  | same h => exact .inl (h.pending ▸ hk)
  | cancelled _ h =>
    rw [h.pending] at hk
    exact .inl (List.mem_of_mem_filter hk)
  | pump h => exact .inl (h.pending hk)
  | call h =>
    cases h with
    | accept h hgeneration =>
      rcases List.mem_append.1 hk with hk | hk
      · exact .inl hk
      · rw [List.mem_singleton.1 hk, List.getElem?_concat_length] at hc
        cases hc
        exact .inr hgeneration
    | cancelHandler => exact .inl (List.mem_of_mem_erase hk)
    | _ => exact .inl hk

theorem Leaf.NoneBefore.step {d : String} {generation : ℕ} (hn : s.NoneBefore d generation)
    (hi : QueueInv s) (h : QueueStep s e s') : s'.NoneBefore d generation := by
  refine ⟨Nat.le_trans hn.current h.generation_mono, fun k hk c hc hd => ?_⟩
  rcases h.pending hk hc with hk | hnew
  · have hlt : k < s.calls.length := hi.bounded k (List.mem_append_right _ hk)
    obtain ⟨c', hc', hlater⟩ := h.calls_grow.later k _ (List.getElem?_eq_getElem hlt)
    obtain rfl : c = c' := Option.some.inj (hc.symm.trans hc')
    rw [hlater.generation]
    exact hn.pending k hk _ (List.getElem?_eq_getElem hlt) (hlater.deviceId ▸ hd)
  · rw [hnew]
    exact hn.current

theorem Leaf.NoneBefore.run {d : String} {generation : ℕ} (hn : s.NoneBefore d generation)
    (hi : QueueInv s) (hs : SessionInv s) (h : Run LeafStep s t s') :
    s'.NoneBefore d generation := by
  have hall : s'.NoneBefore d generation ∧ QueueInv s' ∧ SessionInv s' := by
    refine h.keeps (P := fun s => s.NoneBefore d generation ∧ QueueInv s ∧ SessionInv s)
      (fun ⟨hn, hi, hs⟩ hstep => ?_) ⟨hn, hi, hs⟩
    have hq := hstep.queue hs
    exact ⟨hn.step hi hq, hi.step hs hq, hs.step hstep⟩
  exact hall.1

/-- After the cancellation of a device, none of its calls is queued. -/
theorem QueueStep.cancelled_none {d : String} (h : QueueStep s (.cancelled d) s') :
    s'.NoneBefore d s.recoveryGeneration := by
  refine ⟨h.generation_mono, fun k hk c hc hd => ?_⟩
  cases h with
  | same h he => cases he
  | call h => cases h
  | pump h => cases h
  | cancelled reason h =>
    rw [h.pending] at hk
    rw [h.calls] at hc
    have hfor := (List.mem_filter.1 hk).2
    simp [Leaf.isFor, show s.calls[k]? = some c from hc, hd] at hfor

/-! ## The queue along a run -/

structure ControlInv (t : List LeafEvent) (s : Leaf) : Prop where
  session : SessionInv s
  queue : QueueInv s
  order : OrderInv t s
  settled : SettledInv t s
  generations : s.Generations
  backed : ∀ p, (s.pumps p).phase.Backed t s

theorem control_inv (h : Run LeafStep {} t s) : ControlInv t s := by
  induction h with
  | nil =>
    refine ⟨session_inv .nil, ⟨?_, ?_, ?_, ?_⟩, ⟨?_, ?_, ?_, ?_⟩, ⟨?_, ?_, ?_⟩, ?_, fun _ => trivial⟩
    all_goals simp [Leaf.queued, Leaf.Generations, dispatches, PumpPhase.call]
  | snoc hrun hstep ih =>
    have hq := hstep.queue ih.session
    exact ⟨ih.session.step hstep, ih.queue.step ih.session hq, ih.order.step ih.queue ih.session hq,
      ih.settled.step ih.queue ih.session hq, ih.generations.step hq,
      hq.backed hrun ih.queue ih.generations ih.backed hstep⟩

/-- **The control queue is sound.**  In every run, the queue and the call in flight
    are within the limit; at most one pump has a call, the one in flight; calls
    are dispatched in the order of their acceptance, each after its checks; a
    call that is neither queued nor dispatched has a result or gets one; and once
    a device is cancelled, its queued calls are those of the recovery generation
    at the cancellation, or later ones. -/
theorem control_queue_sound (h : Run LeafStep {} t s) :
    s.outstanding ≤ controlQueueLimit ∧
    (∀ p q j k, (s.pumps p).phase.call = some j → (s.pumps q).phase.call = some k →
      p = q ∧ s.inFlight = some j) ∧
    (dispatches t).Pairwise (· < ·) ∧
    (∀ k < s.calls.length, k ∈ s.pending ∨ s.inFlight = some k ∨ k ∈ dispatches t ∨
      s.ready k = true ∨ ∃ result, (k, result) ∈ s.completions) ∧
    (∀ k s', LeafStep s (.dispatched k) s' → Checked t s k) ∧
    (∀ t₁ s₁ d s₂ t₂, t = t₁ ++ .cancelled d :: t₂ → Run LeafStep {} t₁ s₁ →
      LeafStep s₁ (.cancelled d) s₂ → Run LeafStep s₂ t₂ s →
      ∀ k ∈ s.pending, ∀ c, s.calls[k]? = some c → c.deviceId = d →
        s₁.recoveryGeneration ≤ c.recoveryGeneration) := by
  have hi := control_inv h
  refine ⟨?_, fun p q j k hp hq => ⟨?_, (hi.queue.inFlight j).2 ⟨p, hp⟩⟩, hi.order.sorted,
    fun k hk => ?_, fun k s' hstep => ?_, ?_⟩
  · rw [← Leaf.length_queued]
    exact hi.queue.room
  · exact hi.session.pump_unique (PumpPhase.running_of_call hp) (PumpPhase.running_of_call hq)
  · rcases hi.settled.all k hk with hk | hk | hk
    · simp only [Leaf.queued, List.mem_append, Option.mem_toList] at hk
      exact hk.elim (.inr ∘ .inl) .inl
    · exact .inr (.inr (.inl hk))
    · exact .inr (.inr (.inr hk))
  · cases hstep with
    | pump h =>
      cases h with
      | @dispatch p _ h =>
        have hb := hi.backed p
        rwa [h] at hb
    | _ h => cases h
  · intro t₁ s₁ d s₂ t₂ _ h₁ hcancel h₂
    have hi₁ := control_inv h₁
    have hq := hcancel.queue hi₁.session
    have hi₂ := hi₁.queue.step hi₁.session hq
    exact (hq.cancelled_none.run hi₂ (hi₁.session.step hcancel) h₂).pending

theorem submits_call {n deadline : ℕ} (d : String) (hidle : s.tasks (.client n) = none)
    (hnow : s.now < deadline) (hempty : s.queued = []) :
    ∃ s', Run LeafStep s [.internal, .internal, .accepted d] s' ∧
      s'.calls = s.calls ++ [⟨d, deadline, s.recoveryGeneration, none⟩] ∧
      s'.pending = [s.calls.length] ∧ s'.inFlight = none ∧ s'.now = s.now ∧
      s'.recoveryGeneration = s.recoveryGeneration ∧ s'.activeDeviceId = s.activeDeviceId ∧
      s'.isOpen = s.isOpen ∧ s'.sessionPump = s.sessionPump ∧ s'.pumps = s.pumps ∧
      s'.sessionMutex = s.sessionMutex ∧ s'.tasks = s.tasks := by
  obtain ⟨hin, hpending⟩ : s.inFlight = none ∧ s.pending = [] := by
    simpa [Leaf.queued] using hempty
  have hroom : s.outstanding < controlQueueLimit := by
    rw [← Leaf.length_queued, hempty]
    decide
  have hrun := Run.one (LeafStep.call (.submit d hidle hnow hroom))
  replace hrun := hrun.snoc (.call (.readGeneration (Function.update_self ..)))
  replace hrun := hrun.snoc (.call (.accept (Function.update_self ..) rfl hroom))
  refine ⟨_, hrun, ?_⟩
  simp [Leaf.setTask, hin, hpending, hidle]

theorem submits_first_call : ∃ t s c, Run LeafStep {} t s ∧ s.calls = [c] ∧ s.pending = [0] ∧
    s.inFlight = none ∧ c.deviceId = "d1" ∧ s.now < c.deadline ∧ c.result = none ∧
    c.recoveryGeneration = s.recoveryGeneration ∧ s.sessionReady "d1" = true ∧
    s.sessionPump = some 0 ∧ s.pumps 0 = ⟨"d1", .loop⟩ ∧ s.sessionMutex = none ∧
    s.tasks = (fun _ => none) := by
  obtain ⟨s₁, hopen, hdevice, hisOpen, hpump, hp, hmutex, -, htasks, hcalls, hpending, hin,
    -⟩ := client_opens_session (s := {}) (n := 0) "d1" rfl rfl rfl rfl rfl
  obtain ⟨s, hrun, hcalls', hpending', hin', hnow, hg, hdevice', hisOpen', hpump', hpumps, hmutex',
    htasks'⟩ := submits_call (n := 1) "d1" (by rw [htasks]) (Nat.lt_succ_self s₁.now)
      (by simp [Leaf.queued, hpending, hin])
  rw [hcalls] at hcalls' hpending'
  refine ⟨_, s, _, (hopen.mono And.left).trans hrun, hcalls', hpending', hin', rfl, ?_, rfl,
    hg.symm, ?_, hpump'.trans hpump, by rw [hpumps]; exact hp, hmutex'.trans hmutex,
    htasks'.trans htasks⟩
  · rw [hnow]
    exact Nat.lt_succ_self _
  · simp [Leaf.sessionReady, hisOpen', hisOpen, hdevice', hdevice]

/-- The first call of the first session is dispatched. -/
theorem control_queue_sound_dispatched : ∃ t s s', Run LeafStep {} t s ∧
    LeafStep s (.dispatched 0) s' ∧ s.outstanding ≤ controlQueueLimit ∧ Checked t s 0 := by
  obtain ⟨t, s, c, hrun, hcalls, hpending, hin, hdevice, hnow, hresult, hg, hready, hpump, hp, -⟩ :=
    submits_first_call
  have hc : s.calls[0]? = some c := by rw [hcalls]; rfl
  have hloop : (s.pumps 0).phase = .loop := by rw [hp]
  have hfirst : s.pending.dropWhile s.ready = 0 :: [] := by
    simp [hpending, Leaf.ready, hcalls, hresult]
  replace hrun := hrun.snoc (.pump (.take hloop hfirst))
  replace hrun := hrun.snoc (.pump (.readTime (p := 0) (k := 0) (by simp [Leaf.setPhase])))
  replace hrun := hrun.snoc (.pump (@.readSession _ 0 0 s.now c
    (by simp [Leaf.setPhase]) hc))
  replace hrun := hrun.snoc (.pump (@.check _ 0 0 s.now c
    (by simpa [Leaf.setPhase, Leaf.sessionReady, hdevice] using hready) hc hg
    (by simp [Leaf.setPhase, hdevice, hp]) hnow))
  dsimp only [Leaf.setPhase] at hrun
  have hstep := LeafStep.pump (.dispatch (p := 0) (k := 0) (by simp)
    ((session_inv hrun).handle 0 hpump).2.2.2)
  obtain ⟨hlimit, -, -, -, hchecked, -⟩ := control_queue_sound hrun
  exact ⟨_, _, _, hrun, hstep, hlimit, hchecked 0 _ hstep⟩

end

end Axent.Axtp
