/-
  Cancelling a media stream subscription (`MediaStreamSubscriptionState::cancel`,
  `close_streams_and_cancel`).

  A `cancel` returns at once, waits for the terminal event, joins the worker or
  drains the queue itself.  In each case, when it has returned outside the
  callbacks, the terminal event was delivered and nobody delivers
  (`Core.Ended`), and this is for good.
-/
import Axent.Lib.Gate
import Axent.MediaStreamSubscription

namespace Axent.MediaStream

open Lib

/-! ## The end of a subscription -/

/-- The terminal event is queued, and was not delivered inside a callback that
    still runs. -/
structure Core.Sealed (c : Core) : Prop where
  enqueued : c.terminalEnqueued = true
  idle : c.terminalDelivered = true → c.delivering = false

/-- The terminal event was delivered, and nobody delivers. -/
structure Core.Ended (c : Core) : Prop where
  delivered : c.terminalDelivered = true
  idle : c.delivering = false

namespace Effect
variable {c c' : Core} {e : Event}

theorem isDirect (h : Effect c e c') : c'.isDirect = c.isDirect := by
  cases h with
  | idle _ h => exact h.isDirect
  | publish _ hp => exact hp.same.isDirect
  | terminate _ _ hd => exact hd
  | take => exact (c.takeFront_same _ _ _).isDirect
  | finish h => exact h.isDirect

theorem terminalDelivered (h : Effect c e c') (hf : FlagInv c) (hd : c.terminalDelivered = true) :
    c'.terminalDelivered = true := by
  cases h with
  | idle _ h => exact h.terminalDelivered.trans hd
  | publish _ hp => exact hp.same.terminalDelivered.trans hd
  | terminate h =>
    rw [(hf.delivered hd).1] at h
    cases h
  | take _ hd' =>
    rw [hd] at hd'
    cases hd'
  | finish h => rw [h.terminalDelivered, hd]; rfl

theorem sealed (h : Effect c e c') (hs : c.Sealed) : c'.Sealed := by
  cases h with
  | idle _ h =>
    refine ⟨h.terminalEnqueued.trans hs.enqueued, fun hd => ?_⟩
    have := hs.idle (h.terminalDelivered ▸ hd)
    by_contra hne
    rw [h.delivering (by simpa using hne)] at this
    cases this
  | publish _ hp =>
    exact ⟨hp.same.terminalEnqueued.trans hs.enqueued, fun hd =>
      hp.same.delivering.trans (hs.idle (hp.same.terminalDelivered ▸ hd))⟩
  | terminate h =>
    rw [hs.enqueued] at h
    cases h
  | @take thread item rest hq hd =>
    have hsame := c.takeFront_same thread item rest
    refine ⟨hsame.terminalEnqueued.trans hs.enqueued, fun hd' => ?_⟩
    exact absurd (hsame.terminalDelivered.symm.trans hd') (by simp [hd])
  | finish h hd => exact ⟨h.terminalEnqueued.trans hs.enqueued, hd⟩

theorem ended (h : Effect c e c') (hf : FlagInv c) (he : c.Ended) : c'.Ended :=
  have hs := h.sealed ⟨(hf.delivered he.delivered).1, fun _ => he.idle⟩
  have hd := h.terminalDelivered hf he.delivered
  ⟨hd, hs.idle hd⟩

theorem not_started (h : Effect c e c') (hd : c.terminalDelivered = true) (thread : ThreadId)
    (item : Item) : e ≠ .started thread item := by
  rintro rfl
  cases h with
  | idle _ _ hs => exact hs _ _ rfl
  | take _ hd' =>
    rw [hd] at hd'
    cases hd'

theorem started_mem {thread : ThreadId} {item : Item} (h : Effect c (.started thread item) c') :
    item ∈ c.items := by
  cases h with
  | idle _ _ hs => exact absurd rfl (hs _ _)
  | take hq => rw [hq]; exact List.mem_cons_self

theorem terminalEnqueued (h : Effect c e c') (he : c.terminalEnqueued = true) :
    c'.terminalEnqueued = true := by
  cases h with
  | idle _ h => exact h.terminalEnqueued.trans he
  | publish _ hp => exact hp.same.terminalEnqueued.trans he
  | terminate _ henq => exact henq
  | @take thread item rest => exact (c.takeFront_same thread item rest).terminalEnqueued.trans he
  | finish h => exact h.terminalEnqueued.trans he

theorem terminalEnqueued_eq_false (h : Effect c e c') (he : c'.terminalEnqueued = false) :
    c.terminalEnqueued = false := by
  rw [Bool.eq_false_iff] at he ⊢
  exact fun hbefore => he (h.terminalEnqueued hbefore)

/-- After the terminal event was queued, the queue only gets shorter. -/
theorem items_subset (h : Effect c e c') (hf : FlagInv c) (he : c.terminalEnqueued = true) :
    ∀ i ∈ c'.items, i ∈ c.items := by
  intro i hi
  cases h with
  | idle _ h => rwa [h.items] at hi
  | publish _ hp =>
    rw [hp.refused (by rw [hf.accepting, he]; rfl)] at hi
    exact hi
  | terminate h =>
    rw [he] at h
    cases h
  | take hq =>
    rw [Core.takeFront_items] at hi
    rw [hq]
    exact List.mem_cons_of_mem _ hi
  | finish h => rwa [h.items] at hi

/-- The items that are new in the queue have no completion, or a new one. -/
theorem fresh (h : Effect c e c') (hm : c.isDirect = true) :
    c.completions ≤ c'.completions ∧ ∀ i ∈ c'.items, i ∈ c.items ∨
      ∀ n, i.directCompletion = some n → n = c.completions ∧ n < c'.completions := by
  cases h with
  | idle _ h =>
    rw [h.completions, h.items]
    exact ⟨Nat.le_refl _, fun i hi => .inl hi⟩
  | publish _ hp =>
    refine ⟨hp.fresh.1, fun i hi => ?_⟩
    rw [hp.direct hm] at hi
    exact (List.mem_append.1 hi).imp_right (hp.fresh.2 i)
  | @terminate thread closeStreams _ _ _ _ _ _ _ hn hq =>
    have hfresh := c.prepareTerminal_fresh thread closeStreams
    change c'.completions = (c.prepareTerminal thread closeStreams).core.completions at hn
    rw [hn]
    refine ⟨hfresh.1, fun i hi => .inr (hfresh.2 i ?_)⟩
    rcases hq with ⟨-, hnil, -⟩ | ⟨-, heq, -⟩
    · rw [hnil] at hi; cases hi
    · rwa [heq] at hi
  | take hq =>
    rw [Core.takeFront_completions, Core.takeFront_items, hq]
    exact ⟨Nat.le_refl _, fun i hi => .inl (List.mem_cons_of_mem _ hi)⟩
  | finish h =>
    rw [h.completions, h.items]
    exact ⟨Nat.le_refl _, fun i hi => .inl hi⟩

theorem completed (h : Effect c e c') {n : ℕ} (hn : c'.completed n = true) :
    c.completed n = true ∨ ∃ thread item, e = .finished thread item ∧
      item.directCompletion = some n ∧ (item.isClosed = true → c'.terminalDelivered = true) := by
  cases h with
  | idle _ h => exact .inl (h.completed ▸ hn)
  | publish _ hp => exact .inl (hp.same.completed ▸ hn)
  | terminate _ _ _ _ _ hc => exact .inl (hc ▸ hn)
  | @take thread item rest =>
    rw [(c.takeFront_same thread item rest).completed] at hn
    exact .inl hn
  | @finish thread item _ h =>
    rw [h.completed] at hn
    cases hcomp : item.directCompletion with
    | none =>
      simp only [Core.finishItem, hcomp] at hn
      exact .inl hn
    | some k =>
      simp only [Core.finishItem, hcomp] at hn
      rcases eq_or_ne n k with rfl | hne
      · exact .inr ⟨thread, item, rfl, hcomp, fun hcl => by rw [h.terminalDelivered, hcl]; simp⟩
      · rw [Function.update_of_ne hne] at hn
        exact .inl hn

end Effect

/-! ## The callbacks of a step -/

theorem Core.enter_item (c : Core) (thread : ThreadId) (call : Call) :
    (c.enter thread call).activation.item = none := by
  have hpublish (p : Core.Published) : (Published.entered p call).activation.item = none := by
    unfold Published.entered
    cases p.completion <;> rfl
  cases call with
  | primeStreamEvent | publishStreamEvent | publishFrame => exact hpublish _
  | activate =>
    show c.activate.activation.item = none
    unfold activate
    split_ifs <;> rfl
  | cancel closeStreams =>
    have h := c.cancel_spec thread closeStreams
    show (c.cancel thread closeStreams).activation.item = none
    generalize c.cancel thread closeStreams = e at h
    cases h <;> rfl

section
variable {s s' : Subscription} {thread : ThreadId} {e : Event} {closeStreams : Bool}
  {target : Option ℕ} {i : Item} {c : Core}

theorem runs_of_setThread {core : Core} {stack : List Activation}
    (h : (s.setThread thread core stack).Runs i) : i ∈ stackItems stack ∨ s.Runs i :=
  (runs_setThread.1 h).imp_right fun ⟨t, _, ht⟩ => runs_iff.2 ⟨t, ht⟩

theorem runs_entered {en : Entered} (hitem : en.activation.item = none)
    (h : (s.entered thread en).Runs i) : s.Runs i := by
  have hcall (h : (s.setThread thread en.core (en.activation :: s.threads thread)).Runs i) :
      s.Runs i := by
    rcases runs_of_setThread h with h | h
    · rw [stackItems_cons hitem] at h
      exact runs_iff.2 ⟨thread, h⟩
    · exact h
  unfold Subscription.entered at h
  dsimp only at h
  split_ifs at h
  · exact hcall h
  · rcases runs_of_setThread h with h | h
    · cases h
    · exact hcall h

theorem SubscriptionStep.runs (h : SubscriptionStep s e s') (hr : s'.Runs i) :
    s.Runs i ∨ ∃ thread, e = .started thread i := by
  -- no callback is in the new part of the stack
  have hrest {thread : ThreadId} {a : Activation} {rest stack : List Activation} {core : Core}
      (ht : s.threads thread = a :: rest) (hstack : ∀ i ∈ stackItems stack, i ∈ stackItems rest)
      (hr : (s.setThread thread core stack).Runs i) : s.Runs i := by
    rcases runs_of_setThread hr with hr | hr
    · obtain ⟨b, hb, hbi⟩ := mem_stackItems.1 (hstack i hr)
      exact ⟨thread, b, by rw [ht]; exact List.mem_cons_of_mem _ hb, hbi⟩
    · exact hr
  cases h with
  | enter thread call => exact .inl (runs_entered (s.core.enter_item thread call) hr)
  | drainTake ht | runTake ht =>
    rcases runs_of_setThread hr with hr | hr
    · obtain ⟨b, hb, hbi⟩ := mem_stackItems.1 hr
      rcases List.mem_cons.1 hb with rfl | hb
      · exact .inr ⟨_, by rw [← Option.some.inj hbi]⟩
      · exact .inl ⟨_, b, by rw [ht]; exact List.mem_cons_of_mem _ hb, hbi⟩
    · exact .inl hr
  | drainLeave ht | drainWait ht | finishLeave ht | finishNext ht | awaitIdle ht
  | awaitTerminal ht | join ht =>
    exact .inl (hrest ht (fun i hi => by rwa [stackItems_cons rfl] at hi) hr)
  | leave ht | runEnd ht => exact .inl (hrest ht (fun i hi => hi) hr)
  | runFinish ht =>
    refine .inl (hrest ht (fun i hi => ?_) hr)
    split_ifs at hi
    · exact hi
    · rwa [stackItems_cons rfl] at hi

theorem SubscriptionStep.finished_runs {item : Item}
    (h : SubscriptionStep s (.finished thread item) s') : s.Runs item := by
  cases h with
  | finishLeave ht | finishNext ht | runFinish ht =>
    exact ⟨thread, _, by rw [ht]; exact List.mem_cons_self, rfl⟩

theorem SubscriptionStep.started_runs {item : Item}
    (h : SubscriptionStep s (.started thread item) s') : s'.Runs item := by
  cases h with
  | drainTake | runTake =>
    exact ⟨thread, _, by rw [setThread_self]; exact List.mem_cons_self, rfl⟩

theorem SubscriptionStep.runs_or_mem (h : SubscriptionStep s e s') (hi : Inv s) (hr : s'.Runs i) :
    s.Runs i ∨ i ∈ s.core.items := by
  rcases h.runs hr with hr | ⟨t, rfl⟩
  · exact .inl hr
  · exact .inr (h.effect hi).started_mem

/-- The completions of the items, and those that are completed, were made. -/
structure FreshInv (s : Subscription) : Prop where
  pending : s.core.isDirect = true → ∀ i, i ∈ s.core.items ∨ s.Runs i →
    ∀ n, i.directCompletion = some n → n < s.core.completions
  completed : s.core.isDirect = true → ∀ n, s.core.completed n = true → n < s.core.completions

theorem FreshInv.step (hf : FreshInv s) (hi : Inv s) (h : SubscriptionStep s e s') :
    FreshInv s' := by
  have heff := h.effect hi
  refine ⟨fun hm i hmem n hn => ?_, fun hm n hn => ?_⟩
  · rw [heff.isDirect] at hm
    obtain ⟨hle, hnew⟩ := heff.fresh hm
    have hold (hmem : i ∈ s.core.items ∨ s.Runs i) : n < s'.core.completions :=
      Nat.lt_of_lt_of_le (hf.pending hm i hmem n hn) hle
    rcases hmem with hmem | hmem
    · rcases hnew i hmem with hmem | hmem
      · exact hold (.inl hmem)
      · exact (hmem n hn).2
    · exact hold (h.runs_or_mem hi hmem).symm
  · rw [heff.isDirect] at hm
    refine Nat.lt_of_lt_of_le ?_ (heff.fresh hm).1
    rcases heff.completed hn with hn | ⟨t, item, rfl, hn, -⟩
    · exact hf.completed hm n hn
    · exact hf.pending hm item (.inr h.finished_runs) n hn

/-! ## Waiting for the end -/

/-- What a `cancel` that drains the queue relies on: it may take every item, and
    what it waits for is the terminal event. -/
structure CancelDrains (s : Subscription) (thread : ThreadId) (target : Option ℕ) : Prop where
  isSealed : s.core.Sealed
  eligible : ∀ i ∈ s.core.items, i.directOwner = none ∨ i.directOwner = some thread
  completed : ∀ n, target = some n → s.core.completed n = true → s.core.terminalDelivered = true
  target : ∀ n, target = some n → ∀ i, i ∈ s.core.items ∨ s.Runs i →
    i.directCompletion = some n → i.isClosed = true

/-- What holds while a thread is in a `cancel`. -/
def Activation.Bars (s : Subscription) (thread : ThreadId) : Activation → Prop
  | drain call _ target _ | dispatch call _ target _ _ =>
    call.isCancel = true → CancelDrains s thread target
  | awaitTerminal _ | join _ _ => s.core.Sealed
  | awaitIdle _ => s.core.terminalDelivered = true
  | leave call _ => call.isCancel = true → s.core.deliversBy thread = false → s.core.Ended
  | run | runDispatch _ => True

theorem CancelDrains.step (hd : CancelDrains s thread target) (hi : Inv s)
    (h : SubscriptionStep s e s') : CancelDrains s' thread target := by
  have heff := h.effect hi
  have hitems := heff.items_subset hi.flags hd.isSealed.enqueued
  refine ⟨heff.sealed hd.isSealed, fun i hm => hd.eligible i (hitems i hm),
    fun n hn hc => ?_, fun n hn i hm => ?_⟩
  · rcases heff.completed hc with hc | ⟨t, item, rfl, hcomp, hclosed⟩
    · exact heff.terminalDelivered hi.flags (hd.completed n hn hc)
    · exact hclosed (hd.target n hn item (.inr h.finished_runs) hcomp)
  · refine hd.target n hn i ?_
    rcases hm with hm | hm
    · exact .inl (hitems i hm)
    · exact (h.runs_or_mem hi hm).symm

theorem Activation.Bars.step {a : Activation} (hb : a.Bars s thread) (hi : Inv s)
    (h : SubscriptionStep s e s')
    (hby : ∀ call own, a = .leave call own →
      s'.core.deliversBy thread = s.core.deliversBy thread) : a.Bars s' thread := by
  have heff := h.effect hi
  cases a with
  | drain | dispatch => exact fun hc => (hb hc).step hi h
  | awaitTerminal | join => exact heff.sealed hb
  | awaitIdle => exact heff.terminalDelivered hi.flags hb
  | leave call own => exact fun hc hd => heff.ended hi.flags (hb hc (hby _ _ rfl ▸ hd))
  | run | runDispatch => trivial

theorem CancelDrains.leaves (hd : CancelDrains s thread target) (hi : Inv s) {call : Call}
    {own : Option ℕ} {owns : Bool} {core : Core}
    (ht : s.threads thread = [.drain call own target owns])
    (hc : s.core.drain thread target owns = .leave core) : core.Ended := by
  have hactive : s.core.activated = true := hi.flags.enqueued hd.isSealed.enqueued
  have hended (h : s.core.terminalDelivered = true) : (s.core.releaseDelivery owns).Ended := by
    cases owns with
    | true => exact ⟨h, rfl⟩
    | false => exact ⟨h, hd.isSealed.idle h⟩
  have hspec := s.core.drain_spec thread target owns
  rw [hc] at hspec
  cases hspec with
  | delivered h => exact hended h
  | done ht' hn => exact hended (hd.completed _ ht' hn)
  | inactive ha => rw [hactive] at ha; cases ha
  | nested hby ho =>
    obtain ⟨-, hby', -⟩ := hi.drain_top ht
    rw [hby, ho] at hby'
    cases hby'
  | stuck h _ he _ hown =>
    -- the queue is empty, so the terminal event is delivered by another thread
    have hnil : s.core.items = [] := by
      cases hq : s.core.items with
      | nil => rfl
      | cons i rest =>
        unfold Core.frontEligible at he
        rw [hq] at he
        exact absurd (hd.eligible i (by rw [hq]; exact List.mem_cons_self)) (by simpa using he)
    rcases hi.pending hd.isSealed.enqueued h with ⟨l, i, hl, -⟩ | ⟨i, ⟨t, a, ha, hai⟩, -⟩
    · rw [hnil] at hl
      simp at hl
    · have hcb : a.isCallback = true := by rw [Activation.isCallback, hai]; rfl
      have hby := (hi.shape t).delivers ha hcb
      have hself := hown (delivering_of_deliversBy hby)
      rw [deliversBy_eq hby, decide_eq_true_eq] at hself
      rw [← hself, ht, List.mem_singleton] at ha
      rw [ha] at hai
      cases hai

theorem CancelDrains.weaken {target' : Option ℕ} (hd : CancelDrains s thread target)
    (ht : ∀ n, target' = some n → target = some n) : CancelDrains s thread target' :=
  ⟨hd.isSealed, hd.eligible, fun n hn => hd.completed n (ht n hn),
    fun n hn => hd.target n (ht n hn)⟩

/-- The item with the completion of a `cancel` is the terminal event. -/
theorem isClosed_of_completion {n : ℕ} (hi : i ∈ (c.prepareTerminal thread closeStreams).queued)
    (hn : i.directCompletion = some n) : i.isClosed = true := by
  rcases c.prepareTerminal_spec thread closeStreams with ⟨-, -, hq⟩ | ⟨-, -, hq⟩
  · rw [hq] at hi
    obtain ⟨b, -, rfl⟩ := List.mem_map.1 hi
    cases hn
  · obtain ⟨l, j, hl, hj, -⟩ := terminal_last c thread closeStreams
    change (c.prepareTerminal thread closeStreams).queued = _ at hl
    have hne : c.terminalBodies closeStreams ≠ [] := by simp [Core.terminalBodies]
    obtain ⟨l', j', hl', -, hnone⟩ := Core.completion_ownedItems thread c.completions hne
    rw [hq] at hl hi
    obtain ⟨-, heq⟩ := List.append_inj' (hl.symm.trans hl') rfl
    rw [hl', List.mem_append, List.mem_singleton, ← List.singleton_inj.1 heq] at hi
    rcases hi with hi | rfl
    · rw [hnone i hi] at hn
      cases hn
    · exact hj

theorem Inv.bars_cancel (hi : Inv s) (hf : FreshInv s) {en : Entered}
    (h : Core.Cancels s.core thread closeStreams en) (hcore : s'.core = en.core)
    (hruns : ∀ i, s'.Runs i → s.Runs i) : en.activation.Bars s' thread := by
  cases h with
  | delivered hd hby =>
    intro _ hoff
    rw [hcore] at hoff ⊢
    refine ⟨hd, ?_⟩
    by_contra hdel
    rw [hby (by simpa using hdel)] at hoff
    cases hoff
  | awaitIdle hd =>
    show s'.core.terminalDelivered = true
    rw [hcore]
    exact hd
  | inside _ _ ht =>
    intro _ hoff
    have hdel := hi.flags.thread
    rw [ht] at hdel
    rw [hcore, Core.deliversBy, ← hdel, ht] at hoff
    simp at hoff
  | awaitTerminal he hd =>
    show s'.core.Sealed
    rw [hcore]
    exact ⟨he, fun h => absurd (hd.symm.trans h) Bool.false_ne_true⟩
  | self _ ht =>
    intro _ hoff
    rw [hcore] at hoff
    exact absurd (hoff.symm.trans ht) Bool.false_ne_true
  | drain he hd ht hm =>
    have hnew {n : ℕ} (hn : (s.core.prepareTerminal thread closeStreams).completion = some n) :
        ¬ n < s.core.completions := by
      rcases s.core.prepareTerminal_spec thread closeStreams with ⟨hnone, -⟩ | ⟨hsome, -⟩
      · rw [hnone] at hn; cases hn
      · rw [hsome] at hn
        cases hn
        exact Nat.lt_irrefl _
    refine fun _ => ⟨?_, fun i hmem => ?_, fun n hn hc => ?_, fun n hn i hmem hc => ?_⟩
    · rw [hcore]
      exact ⟨rfl, fun h => absurd (hd.symm.trans h) Bool.false_ne_true⟩
    · rw [hcore] at hmem
      change i ∈ (s.core.prepareTerminal thread closeStreams).queued at hmem
      rcases s.core.prepareTerminal_spec thread closeStreams with ⟨-, -, hq⟩ | ⟨-, -, hq⟩
      · rw [hq] at hmem
        obtain ⟨b, -, rfl⟩ := List.mem_map.1 hmem
        exact .inl rfl
      · rw [hq] at hmem
        exact .inr (Core.owner_ownedItems hmem)
    · rw [hcore] at hc
      exact absurd (hf.completed hm n hc) (hnew hn)
    · rcases hmem with hmem | hmem
      · rw [hcore] at hmem
        exact isClosed_of_completion hmem hc
      · exact absurd (hf.pending hm i (.inr (hruns i hmem)) n hc) (hnew hn)
  | join he hd ht hm =>
    show s'.core.Sealed
    rw [hcore, hi.flags.startWorker hm he]
    exact ⟨rfl, fun h => absurd (hd.symm.trans h) Bool.false_ne_true⟩

/-! ## Every step keeps the barrier -/

/-- A worker runs until the terminal event was delivered. -/
def Works (stack : List Activation) : Prop := ∃ a ∈ stack, a = .run ∨ a.isCallback = true

/-- A subscription in which every `cancel` is a barrier. -/
structure BarrierInv (s : Subscription) : Prop where
  inv : Inv s
  fresh : FreshInv s
  worker : s.core.workers = 0 ∨ Works (s.threads (.worker 0)) ∨ s.core.terminalDelivered = true
  bars : ∀ thread, ∀ a ∈ s.threads thread, a.Bars s thread

theorem BarrierInv.bars_step (hb : BarrierInv s) (h : SubscriptionStep s e s')
    (hothers : ∀ t ≠ thread, s'.threads t = s.threads t ∨ s'.threads t = [.run])
    (hnew : ∀ a ∈ s'.threads thread,
      a ∈ s.threads thread ∧ a.isCallback = true ∨ a.Bars s' thread) :
    ∀ t, ∀ a ∈ s'.threads t, a.Bars s' t := by
  intro t a ha
  rcases eq_or_ne t thread with rfl | hne
  · rcases hnew a ha with ⟨hold, hc⟩ | hbar
    · exact (hb.bars t a hold).step hb.inv h fun call own hl => by rw [hl] at hc; cases hc
    · exact hbar
  · rcases hothers t hne with heq | hrun
    · have hshape := (h.inv hb.inv).shape t
      rw [heq] at ha hshape
      exact (hb.bars t a ha).step hb.inv h fun _ _ _ =>
        hshape.deliversBy.trans (hb.inv.shape t).deliversBy.symm
    · rw [hrun, List.mem_singleton] at ha
      rw [ha]
      trivial

theorem Inv.ne_worker (hi : Inv s) (hm : mayCall thread (s.threads thread) = true) :
    thread ≠ .worker s.core.workers := by
  rintro hw
  rcases (hi.shape thread).of_mayCall hm with ⟨hnil, -⟩ | ⟨a, ha, hc, hby⟩
  · rw [hnil, hw] at hm
    cases hm
  · have hfit := hi.fits thread a (by rw [ha]; exact List.mem_cons_self)
    rw [hw] at hfit
    cases a with
    | runDispatch item =>
      have hworkers := hi.flags.workers
      rw [hi.flags.delivering (delivering_of_deliversBy hby), hfit.1, hfit.2] at hworkers
      cases hworkers
    | dispatch => exact hfit
    | _ => cases hc

theorem Inv.entered_threads (hi : Inv s) (hm : mayCall thread (s.threads thread) = true)
    (en : Entered) :
    (s.entered thread en).threads thread = en.activation :: s.threads thread ∧
      ∀ t ≠ thread, (s.entered thread en).threads t = s.threads t ∨
        (s.entered thread en).threads t = [.run] := by
  rcases eq_or_ne en.core.workers s.core.workers with heq | hne
  · rw [entered_of_eq heq]
    exact ⟨setThread_self, fun t ht => .inl (setThread_of_ne ht)⟩
  · rw [entered_of_ne hne]
    refine ⟨(setThread_of_ne (hi.ne_worker hm)).trans setThread_self, fun t ht => ?_⟩
    rcases eq_or_ne t (.worker s.core.workers) with rfl | ht'
    · exact .inr setThread_self
    · exact .inl ((setThread_of_ne ht').trans (setThread_of_ne ht))

theorem BarrierInv.bars_enter (hb : BarrierInv s) (thread : ThreadId) (call : Call) :
    (s.core.enter thread call).activation.Bars (s.enter thread call) thread := by
  have hpublish (p : Core.Published) (hc : call.isCancel = false) (s' : Subscription) :
      (Core.Published.entered p call).activation.Bars s' thread := by
    unfold Core.Published.entered
    cases p.completion <;> exact fun h => absurd (hc.symm.trans h) Bool.false_ne_true
  cases call with
  | primeStreamEvent | publishStreamEvent | publishFrame => exact hpublish _ rfl _
  | activate =>
    show s.core.activate.activation.Bars _ thread
    unfold Core.activate
    split_ifs <;> rintro ⟨⟩
  | cancel closeStreams =>
    exact hb.inv.bars_cancel hb.fresh (s.core.cancel_spec thread closeStreams)
      (entered_core ..) fun i => runs_entered (s.core.enter_item thread (.cancel closeStreams))

theorem BarrierInv.bars_move (hb : BarrierInv s) {core : Core} {b : Activation}
    (h : SubscriptionStep s e (s.setThread thread core [b]))
    (hbar : b.Bars (s.setThread thread core [b]) thread) :
    ∀ t, ∀ a ∈ (s.setThread thread core [b]).threads t,
      a.Bars (s.setThread thread core [b]) t := by
  refine hb.bars_step h (fun t hne => .inl (setThread_of_ne hne)) fun a ha => .inr ?_
  rw [setThread_self, List.mem_singleton] at ha
  rwa [ha]

theorem retarget_eq_some {n : ℕ} (h : c.retarget target = some n) : target = some n := by
  unfold Core.retarget at h
  split_ifs at h
  exact h

theorem SubscriptionStep.bars (h : SubscriptionStep s e s') (hb : BarrierInv s) :
    ∀ t, ∀ a ∈ s'.threads t, a.Bars s' t := by
  have hi := hb.inv
  have hold {t : ThreadId} {a : Activation} (ht : s.threads t = [a]) : a.Bars s t :=
    hb.bars t a (by rw [ht]; exact List.mem_cons_self)
  have hstep := h
  cases h with
  | enter thread call hm =>
    obtain ⟨hself, hothers⟩ := hi.entered_threads hm (s.core.enter thread call)
    refine hb.bars_step hstep hothers fun a ha => ?_
    change a ∈ (s.entered thread (s.core.enter thread call)).threads thread at ha
    rw [hself] at ha
    rcases List.mem_cons.1 ha with rfl | ha
    · exact .inr (hb.bars_enter thread call)
    · refine .inl ⟨ha, ?_⟩
      rcases (hi.shape thread).of_mayCall hm with ⟨hnil, -⟩ | ⟨b, hl, hc, -⟩
      · rw [hnil] at ha; cases ha
      · rw [hl, List.mem_singleton] at ha
        rwa [ha]
  | @drainLeave thread call own target owns rest core ht hc =>
    obtain ⟨rfl, -⟩ := hi.drain_top ht
    exact hb.bars_move hstep fun hcall _ => (hold ht hcall).leaves hi ht hc
  | @drainWait thread call own target target' owns owns' rest core ht hc =>
    obtain ⟨rfl, -⟩ := hi.drain_top ht
    refine hb.bars_move hstep fun hcall => ((hold ht hcall).step hi hstep).weaken fun n hn => ?_
    have hspec := s.core.drain_spec thread target owns
    rw [hc] at hspec
    cases hspec with
    | inactiveWait | busy => exact retarget_eq_some hn
    | stuckWait => exact hn
  | @drainTake thread call own target target' owns rest core item ht hc =>
    obtain ⟨rfl, -⟩ := hi.drain_top ht
    refine hb.bars_move hstep fun hcall => ((hold ht hcall).step hi hstep).weaken fun n hn => ?_
    have hspec := s.core.drain_spec thread target owns
    rw [hc] at hspec
    cases hspec with
    | take => exact retarget_eq_some hn
  | @finishLeave thread call own target owns item rest core ht hc =>
    obtain ⟨rfl, -, rfl, -⟩ := hi.dispatch_top ht
    refine hb.bars_move hstep fun hcall _ => ?_
    have hd := (hold ht hcall).step hi hstep
    have hspec := s.core.finishDirect_spec thread target true item
    rw [hc] at hspec
    cases hspec with
    | delivered h => exact ⟨h, rfl⟩
    | done hn hdone => exact ⟨hd.completed _ hn hdone, rfl⟩
  | @finishNext thread call own target target' owns item rest core ht hc =>
    obtain ⟨rfl, -⟩ := hi.dispatch_top ht
    refine hb.bars_move hstep fun hcall => ((hold ht hcall).step hi hstep).weaken fun n hn => ?_
    have hspec := s.core.finishDirect_spec thread target owns item
    rw [hc] at hspec
    cases hspec with
    | next => exact retarget_eq_some hn
  | awaitIdle ht hc =>
    obtain ⟨rfl, -⟩ := hi.top ht (by rintro _ _ ⟨⟩)
    exact hb.bars_move hstep fun _ _ => ⟨hold ht, hc⟩
  | awaitTerminal ht hc =>
    obtain ⟨rfl, -⟩ := hi.top ht (by rintro _ _ ⟨⟩)
    exact hb.bars_move hstep fun _ _ => ⟨hc, (hold ht).idle hc⟩
  | @join thread worker call rest ht hw =>
    obtain ⟨rfl, -, hfit⟩ := hi.top ht (by rintro _ _ ⟨⟩)
    refine hb.bars_move hstep fun _ _ => ?_
    have hsealed : s.core.Sealed := hold ht
    -- the worker ends only after the terminal event
    have hd : s.core.terminalDelivered = true := by
      cases thread with
      | client n =>
        rcases hb.worker with h | ⟨a, ha, -⟩ | h
        · rw [hi.flags.workers, hi.flags.enqueued hsealed.enqueued, hfit.1] at h
          cases h
        · rw [hfit.2] at hw
          rw [hw] at ha
          cases ha
        · exact h
      | worker n => exact hfit.elim
    exact ⟨hd, hsealed.idle hd⟩
  | @leave thread call own rest ht =>
    refine hb.bars_step hstep (fun t hne => .inl (setThread_of_ne hne)) fun a ha => .inl ?_
    rw [setThread_self] at ha
    have hshape := hi.shape thread
    rw [ht] at hshape ⊢
    rcases hshape.top_leave with ⟨rfl, -⟩ | ⟨b, rfl, hc, -⟩
    · cases ha
    · exact ⟨List.mem_cons_of_mem _ ha, by rwa [List.mem_singleton.1 ha]⟩
  | runTake ht =>
    obtain ⟨rfl, -⟩ := hi.run_top ht
    exact hb.bars_move hstep trivial
  | @runEnd thread rest ht hc =>
    obtain ⟨rfl, -⟩ := hi.run_top ht
    refine hb.bars_step hstep (fun t hne => .inl (setThread_of_ne hne)) fun a ha => ?_
    rw [setThread_self] at ha
    cases ha
  | @runFinish thread item rest ht =>
    obtain ⟨rfl, -⟩ := hi.runDispatch_top ht
    refine hb.bars_step hstep (fun t hne => .inl (setThread_of_ne hne)) fun a ha => .inr ?_
    rw [setThread_self] at ha
    split_ifs at ha
    · cases ha
    · rw [List.mem_singleton.1 ha]
      trivial

theorem Works.cons {a : Activation} {l : List Activation} (h : Works l) : Works (a :: l) :=
  h.imp fun _ ⟨hb, hw⟩ => ⟨List.mem_cons_of_mem _ hb, hw⟩

theorem SubscriptionStep.worker (h : SubscriptionStep s e s') (hb : BarrierInv s) :
    s'.core.workers = 0 ∨ Works (s'.threads (.worker 0)) ∨ s'.core.terminalDelivered = true := by
  have hi := hb.inv
  have hinv := h.inv hi
  have hdel := (h.effect hi).terminalDelivered hi.flags
  have hmove {thread : ThreadId} {core : Core} {stack : List Activation}
      (heq : s' = s.setThread thread core stack) (hw : core.workers = s.core.workers)
      (hstack : thread = .worker 0 → Works (s.threads thread) →
        Works stack ∨ core.terminalDelivered = true) :
      s'.core.workers = 0 ∨ Works (s'.threads (.worker 0)) ∨
        s'.core.terminalDelivered = true := by
    rcases hb.worker with h | h | h
    · rw [heq]
      exact .inl (hw.trans h)
    · rw [heq]
      rcases eq_or_ne thread (.worker 0) with rfl | hne
      · rw [setThread_self]
        exact .inr (hstack rfl h)
      · rw [setThread_of_ne hne.symm]
        exact .inr (.inl h)
    · exact .inr (.inr (hdel h))
  have hclient {thread : ThreadId} {a : Activation} {rest : List Activation}
      (ht : s.threads thread = a :: rest) (ha : ¬ a.Fits s.core.isDirect (.worker 0)) :
      thread ≠ .worker 0 := by
    rintro rfl
    exact ha (hi.fits _ a (by rw [ht]; exact List.mem_cons_self))
  -- without a worker, there is none
  have hdirect (hd : s.core.isDirect = true) : s'.core.workers = 0 := by
    rw [hinv.flags.workers, (h.effect hi).isDirect, hd, Bool.not_true, Bool.and_false]
    rfl
  cases h with
  | enter thread call hm =>
    obtain ⟨hself, hothers⟩ := hi.entered_threads hm (s.core.enter thread call)
    rcases eq_or_ne (s.core.enter thread call).core.workers s.core.workers with heq | hne
    · exact hmove (entered_of_eq heq) heq fun _ hw => .inl hw.cons
    · -- the first worker was started
      rcases Nat.eq_zero_or_pos s.core.workers with hzero | hpos
      · refine .inr (.inl ?_)
        rw [Subscription.enter, entered_of_ne hne, hzero, setThread_self]
        exact ⟨_, List.mem_cons_self, .inl rfl⟩
      · refine .inl ?_
        have hcore := entered_core s thread (s.core.enter thread call)
        have hle {c : Core} (hf : FlagInv c) : c.workers ≤ 1 := by
          rw [hf.workers]
          split_ifs <;> decide
        have h₁ := hle hi.flags
        have h₂ := hle hinv.flags
        rw [← hcore] at hne
        unfold Subscription.enter at h₂ ⊢
        omega
  | drainLeave ht | drainWait ht | drainTake ht => exact .inl (hdirect (hi.drain_top ht).2.2.1)
  | finishLeave ht | finishNext ht => exact .inl (hdirect (hi.dispatch_top ht).2.2.2.1)
  | awaitIdle ht | awaitTerminal ht | join ht =>
    exact hmove rfl rfl fun h => absurd h (hclient ht id)
  | leave ht =>
    refine hmove rfl rfl fun _ hworks => .inl ?_
    obtain ⟨a, ha, hw⟩ := hworks
    refine ⟨a, ?_, hw⟩
    rw [ht] at ha
    refine (List.mem_cons.1 ha).resolve_left ?_
    rintro rfl
    rcases hw with hw | hw <;> cases hw
  | runTake ht hc =>
    rcases Core.run_spec hc with ⟨hr, -⟩ | ⟨item, rest, hr, -⟩
    · cases hr
    · cases hr
      exact hmove rfl (s.core.takeFront_same ..).workers fun _ _ =>
        .inl ⟨_, List.mem_cons_self, .inr rfl⟩
  | runEnd ht hc =>
    rcases Core.run_spec hc with ⟨-, hd⟩ | ⟨item, rest, hr, -⟩
    · exact .inr (.inr hd)
    · cases hr
  | @runFinish thread item rest ht =>
    refine hmove rfl rfl fun _ _ => ?_
    split_ifs with hd
    · exact .inr hd
    · exact .inl ⟨_, List.mem_cons_self, .inl rfl⟩

/-- **Every step keeps the barrier.** -/
theorem SubscriptionStep.barrier (h : SubscriptionStep s e s') (hb : BarrierInv s) :
    BarrierInv s' :=
  ⟨h.inv hb.inv, hb.fresh.step hb.inv h, h.worker hb, h.bars hb⟩

/-- A new subscription. -/
def Subscription.start (options : MediaSubscriptionOptions) : Subscription where
  core := { options := options }

theorem start_inv (options : MediaSubscriptionOptions) : Inv (Subscription.start options) where
  shape _ := .outside rfl
  fits _ _ ha := by cases ha
  flags := ⟨rfl, by rintro ⟨⟩, by rintro ⟨⟩, by rintro ⟨⟩, rfl, rfl, rfl⟩
  before _ _ hi := by cases hi
  running := by rintro i ⟨t, a, ha, -⟩; cases ha
  pending := by rintro ⟨⟩

theorem start_barrier (options : MediaSubscriptionOptions) :
    BarrierInv (Subscription.start options) where
  inv := start_inv options
  fresh := by
    refine ⟨fun _ i hi => ?_, by rintro _ _ ⟨⟩⟩
    rcases hi with hi | ⟨t, a, ha, -⟩
    · cases hi
    · cases ha
  worker := .inl rfl
  bars _ _ ha := by cases ha

theorem run_barrier {options : MediaSubscriptionOptions} {t : List Event}
    (h : Run SubscriptionStep (Subscription.start options) t s) : BarrierInv s :=
  h.keeps (fun hb hs => hs.barrier hb) (start_barrier options)

theorem run_not_started {t : List Event} (h : Run SubscriptionStep s t s') (hb : BarrierInv s)
    (hd : s.core.terminalDelivered = true) :
    BarrierInv s' ∧ s'.core.terminalDelivered = true ∧ ∀ thread i, .started thread i ∉ t := by
  refine h.inv (I := fun t s => BarrierInv s ∧ s.core.terminalDelivered = true ∧
    ∀ thread i, .started thread i ∉ t) ⟨hb, hd, by simp⟩ ?_
  rintro t s e s' ⟨hb, hd, ht⟩ h
  have heff := h.effect hb.inv
  refine ⟨h.barrier hb, heff.terminalDelivered hb.inv.flags hd, fun thread i hmem => ?_⟩
  rcases List.mem_append.1 hmem with hmem | hmem
  · exact ht thread i hmem
  · exact heff.not_started hd thread i (List.mem_singleton.1 hmem).symm

theorem run_ended {t : List Event} (h : Run SubscriptionStep s t s') (hb : BarrierInv s)
    (hd : s.core.Ended) : s'.core.Ended :=
  (h.keeps (P := fun s => BarrierInv s ∧ s.core.Ended)
    (fun ⟨hb, hd⟩ hs => ⟨hs.barrier hb, (hs.effect hb.inv).ended hb.inv.flags hd⟩) ⟨hb, hd⟩).2

theorem Inv.not_inCallback (hi : Inv s) (hd : s.core.delivering = false) (thread : ThreadId) :
    ¬ s.InCallback thread := by
  rintro ⟨a, ha, hc⟩
  have := delivering_of_deliversBy ((hi.shape thread).delivers ha hc)
  rw [hd] at this
  cases this

theorem Core.Cancels.delivered_of_callback {en : Entered} (h : Cancels c thread closeStreams en)
    (he : c.terminalEnqueued = false) (hby : c.deliversBy thread = true) :
    en.core.terminalDelivered = true := by
  cases h with
  | delivered hd | awaitIdle hd => exact hd
  | inside h | awaitTerminal h => rw [he] at h; cases h
  | self => rfl
  | drain _ _ ht | join _ _ ht => rw [hby] at ht; cases ht

/-- A `cancel` that returns outside the callbacks leaves the subscription at its
    end. -/
theorem SubscriptionStep.cancelled {own : Option ℕ}
    (h : SubscriptionStep s (.returned thread (.cancel closeStreams) own) s') (hb : BarrierInv s)
    (hout : ¬ s'.InCallback thread) : s'.core.Ended := by
  cases h with
  | @leave _ _ _ rest ht =>
    have hshape := hb.inv.shape thread
    rw [ht] at hshape
    rcases hshape.top_leave with ⟨-, hby⟩ | ⟨a, rfl, ha, -⟩
    · have hbars := hb.bars thread (.leave (.cancel closeStreams) own)
        (by rw [ht]; exact List.mem_cons_self)
      exact hbars rfl hby
    · exact absurd ⟨a, by rw [setThread_self]; exact List.mem_cons_self, ha⟩ hout

/-- **Cancelling is a barrier.**  When a `cancel` or `close_streams_and_cancel`
    returns to a thread outside the callbacks, no callback runs then or later;
    and none is started after one that was called inside a callback and that
    was the first. -/
theorem cancel_is_barrier {options : MediaSubscriptionOptions} {t₁ t₂ : List Event}
    {s₁ s₂ s : Subscription} {e : Event}
    (h₁ : Run SubscriptionStep (Subscription.start options) t₁ s₁)
    (h : SubscriptionStep s₁ e s₂) (h₂ : Run SubscriptionStep s₂ t₂ s) :
    (∀ thread closeStreams own, e = .returned thread (.cancel closeStreams) own →
      ¬ s₂.InCallback thread →
        (∀ thread', ¬ s.InCallback thread') ∧ ∀ thread' i, .started thread' i ∉ t₂) ∧
    ∀ thread closeStreams queued, e = .entered thread (.cancel closeStreams) queued →
      s₁.InCallback thread → s₁.core.terminalEnqueued = false →
        ∀ thread' i, .started thread' i ∉ t₂ := by
  have hb₁ := run_barrier h₁
  have hb₂ := h.barrier hb₁
  refine ⟨?_, ?_⟩
  · rintro thread closeStreams own rfl hout
    have hended := h.cancelled hb₁ hout
    have hended' := run_ended h₂ hb₂ hended
    obtain ⟨hb, -, hnone⟩ := run_not_started h₂ hb₂ hended.delivered
    exact ⟨hb.inv.not_inCallback hended'.idle, hnone⟩
  · rintro thread closeStreams queued rfl ⟨a, ha, hc⟩ hfirst
    have hby := (hb₁.inv.shape thread).delivers ha hc
    have hd : s₂.core.terminalDelivered = true := by
      cases h with
      | enter =>
        rw [Subscription.enter, entered_core]
        exact (s₁.core.cancel_spec thread closeStreams).delivered_of_callback hfirst hby
    exact (run_not_started h₂ hb₂ hd).2.2

/-- One thread cancels while the worker hands over the event of another one, whose
    next event then goes nowhere. -/
theorem cancel_is_barrier_worker :
    ∃ t₁ t₂ s₁ s₂ s item event queued,
      Run SubscriptionStep (Subscription.start { dispatch := .asyncQueued }) t₁ s₁ ∧
      SubscriptionStep s₁ (.returned (.client 0) (.cancel false) none) s₂ ∧
      .started (.worker 0) item ∈ t₁ ∧ Run SubscriptionStep s₂ t₂ s ∧
      .entered (.client 1) (.publishStreamEvent event) queued ∈ t₂ ∧
      (∀ thread, ¬ s.InCallback thread) ∧ ∀ thread i, .started thread i ∉ t₂ := by
  let event : MediaStreamEvent :=
    { kind := .opened, descriptor := { key := { streamId := 1, generation := 1 } } }
  have h := run_call (s := .start { dispatch := .asyncQueued }) .nil 0 .activate rfl rfl
  have h := run_call h 1 (.publishStreamEvent event) rfl rfl
  have h := h.snoc (@.runTake _ (.worker 0) _ _ _ rfl rfl)
  have h := h.snoc (.enter _ (.client 0) (.cancel false) rfl)
  have h := h.snoc (@.runFinish _ (.worker 0) _ _ rfl)
  have h := run_deliver h 0 rfl rfl
  have h := h.snoc (@.join _ (.client 0) (.worker 0) _ _ rfl rfl)
  have hleft := h.onward.snoc (@.leave _ (.client 0) (.cancel false) _ _ rfl)
  obtain ⟨_, hnil, hleave⟩ := hleft.last
  obtain rfl := hnil.eq_of_nil
  have h' := run_call hleft.onward 1 (.publishStreamEvent event) rfl rfl
  have hbarrier := (cancel_is_barrier h hleave h').1 _ _ _ rfl (by rintro ⟨a, ha, -⟩; cases ha)
  exact ⟨_, _, _, _, _, _, event, _, h, hleave, List.mem_of_getElem? (i := 4) rfl, h',
    List.mem_cons_self, hbarrier⟩

/-! ## A stream subscription is a gate -/

/-- The frame is queued. -/
def Subscription.Holds (s : Subscription) (frame : MediaFrame) : Prop :=
  ∃ i ∈ s.core.items, i.body = .frame frame

theorem Core.frame_not_queued (c : Core) (closeStreams : Bool) (frame : MediaFrame) :
    ∀ i ∈ (c.prepareTerminal thread closeStreams).queued, i.body ≠ .frame frame := by
  intro i hi hf
  have hmem := List.mem_map_of_mem (f := Item.body) hi
  rw [bodies_prepareTerminal, Core.terminalBodies, List.mem_append, List.mem_singleton,
    hf] at hmem
  rcases hmem with hmem | hmem
  · cases closeStreams <;> simp at hmem
  · cases hmem

theorem Effect.frames {c' : Core} (h : Effect c e c') :
    ∀ i ∈ c'.items, ∀ f, i.body = .frame f → FrameFrom (c.items ++ e.queued) f := by
  have hold {l : List Item} (hl : ∀ i ∈ l, i ∈ c.items) :
      ∀ i ∈ l, ∀ f, i.body = .frame f → FrameFrom (c.items ++ e.queued) f :=
    fun i hi f hf => frameFrom_of_mem (List.mem_append_left _ (hl i hi)) hf
  cases h with
  | idle _ h => exact hold fun i hi => h.items ▸ hi
  | publish _ hp => exact hp.frames
  | @terminate thread closeStreams _ _ _ _ _ _ _ _ hq =>
    intro i hi f hf
    rcases hq with ⟨-, hnil, -⟩ | ⟨-, heq, -⟩
    · rw [hnil] at hi; cases hi
    · rw [heq] at hi
      exact absurd hf (c.frame_not_queued closeStreams f i hi)
  | take hq =>
    refine hold fun i hi => ?_
    rw [Core.takeFront_items] at hi
    rw [hq]
    exact List.mem_cons_of_mem _ hi
  | finish h => exact hold fun i hi => h.items ▸ hi

theorem SubscriptionStep.queued_frame (h : SubscriptionStep s e s') {f : MediaFrame}
    (hi : i ∈ e.queued) (hf : i.body = .frame f) :
    ∃ thread queued, e = .entered thread (.publishFrame f) queued := by
  cases h with
  | enter thread call hm =>
    change i ∈ (s.core.enter thread call).queued at hi
    cases call with
    | primeStreamEvent event | publishStreamEvent event =>
      exact absurd hf (Core.queued_publishStreamEvent hi f)
    | publishFrame g =>
      obtain rfl : g = f := ItemBody.frame.inj ((Core.queued_publishFrame hi).symm.trans hf)
      exact ⟨thread, _, rfl⟩
    | activate =>
      have hnil : s.core.activate.queued = [] := by
        unfold Core.activate
        split_ifs <;> rfl
      change i ∈ s.core.activate.queued at hi
      rw [hnil] at hi
      cases hi
    | cancel closeStreams =>
      change i ∈ (s.core.cancel thread closeStreams).queued at hi
      have hspec := s.core.cancel_spec thread closeStreams
      generalize s.core.cancel thread closeStreams = r at hi hspec
      cases hspec with
      | delivered | awaitIdle | inside | awaitTerminal => cases hi
      | self | drain | join => exact absurd hf (s.core.frame_not_queued closeStreams f i hi)
  | _ => cases hi

/-- **A stream subscription is a gate**, shut by a `cancel` that has returned
    outside the callbacks. -/
def gate : Gate SubscriptionStep
    (fun e f => ∃ thread queued, e = .entered thread (.publishFrame f) queued)
    (fun e f => ∃ thread i, e = .started thread i ∧ i.body = .frame f)
    (fun e s => ∃ thread closeStreams own, e = .returned thread (.cancel closeStreams) own ∧
      ¬ s.InCallback thread) MediaFrame.Marked where
  Ok := BarrierInv
  Holds := Subscription.Holds
  Shut s := s.core.Ended
  ok hb h := h.barrier hb
  origin := by
    rintro s e s' f hb h ⟨i, hi, hf⟩
    obtain ⟨j, hj, g, hg, hmark⟩ := (h.effect hb.inv).frames i hi f hf
    rcases List.mem_append.1 hj with hj | hj
    · exact ⟨g, .inl ⟨j, hj, hg⟩, hmark⟩
    · exact ⟨g, .inr (h.queued_frame hj hg), hmark⟩
  source := by
    rintro s e s' f hb h ⟨thread, i, rfl, hf⟩
    exact ⟨i, (h.effect hb.inv).started_mem, hf⟩
  barrier := by
    rintro s e s' f hb h ⟨thread, i, rfl, hf⟩ hended
    exact (h.effect hb.inv).not_started hended.delivered thread i rfl
  shut := by
    rintro s e s' hb h (hended | ⟨thread, closeStreams, own, rfl, hout⟩)
    · exact (h.effect hb.inv).ended hb.inv.flags hended
    · exact h.cancelled hb hout

end

end Axent.MediaStream
