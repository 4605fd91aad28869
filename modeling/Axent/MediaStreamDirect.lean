/-
  `Direct` delivery of a media stream subscription
  (`MediaStreamSubscriptionState::Core::drain_direct_queue`).

  A call from outside the callbacks owns the items that it queues, and its
  thread drains the queue until the last of them was delivered.  The item that
  it waits for is named by a completion.  So every owned item in the queue has
  a thread that waits for a later item of the same call (`DirectInv.queue`),
  and an item at the front that nobody owns has some thread that drains
  (`DirectInv.front`).

  The subscription is primed before it is activated (`DirectStep`), as
  `subscribe_media_stream` does.
-/
import Axent.MediaStreamBarrier

namespace Axent.MediaStream

open Lib

/-! ## Waiting for a completion -/

/-- The completion that a call waits for. -/
def Activation.waitsFor : Activation → Option ℕ
  | drain _ _ target _ | dispatch _ _ target _ _ => target
  | _ => none

def Activation.isDrain : Activation → Bool
  | drain _ _ _ _ => true
  | _ => false

/-- A thread waits for the completion `n`. -/
def Subscription.Waits (s : Subscription) (thread : ThreadId) (n : ℕ) : Prop :=
  ∃ a ∈ s.threads thread, a.waitsFor = some n

/-- The completions of a queue. -/
def tokens (items : List Item) : List ℕ := items.filterMap Item.directCompletion

theorem mem_tokens {items : List Item} {n : ℕ} :
    n ∈ tokens items ↔ ∃ i ∈ items, i.directCompletion = some n := List.mem_filterMap

/-- What the threads of a `Direct` subscription and its queue have to do with
    each other. -/
structure DirectInv (s : Subscription) : Prop where
  inv : Inv s
  fresh : FreshInv s
  direct : s.core.isDirect = true
  waits : ∀ thread n, s.Waits thread n → s.core.completed n = false ∧ n < s.core.completions
  runner : ∀ thread, ∀ a ∈ s.threads thread, ∀ i, a.item = some i →
    i.directOwner = none ∨ i.directOwner = some thread
  owner : ∀ i n, i ∈ s.core.items ∨ s.Runs i → i.directCompletion = some n →
    ∀ thread, s.Waits thread n → i.directOwner = some thread
  queue : ∀ l i l' thread, s.core.items = l ++ i :: l' → i.directOwner = some thread →
    ∃ n, s.Waits thread n ∧ n ∈ tokens (i :: l')
  distinct : (tokens s.core.items).Nodup
  running : ∀ i n, s.Runs i → i.directCompletion = some n → n ∉ tokens s.core.items
  front : s.core.activated = true → s.core.delivering = false →
    ∀ i rest, s.core.items = i :: rest → i.directOwner = none →
      ∃ thread, ∃ a ∈ s.threads thread, a.isDrain = true

/-- A step, by a caller that primes only before the activation. -/
def DirectStep (s : Subscription) (e : Event) (s' : Subscription) : Prop :=
  SubscriptionStep s e s' ∧
    ∀ thread event queued, e = .entered thread (.primeStreamEvent event) queued →
      s.core.activated = false

/-! ## The parts that follow from what a step does to the queue -/

section
variable {c c' : Core} {e : Event}

theorem tokens_ownedItems (thread : ThreadId) (n : ℕ) {bodies : List ItemBody}
    (hb : bodies ≠ []) : tokens (Core.ownedItems thread n bodies) = [n] := by
  obtain ⟨l, i, hl, hi, hnone⟩ := Core.completion_ownedItems thread n hb
  rw [hl, tokens, List.filterMap_append, List.filterMap_eq_nil_iff.2 hnone]
  simp [hi]

theorem tokens_free (bodies : List ItemBody) :
    tokens (bodies.map fun b => { body := b }) = [] := by
  rw [tokens, List.filterMap_eq_nil_iff]
  intro i hi
  obtain ⟨b, -, rfl⟩ := List.mem_map.1 hi
  rfl

/-- The completions of a queue after a step: some of the old ones, and then at
    most a new one. -/
theorem Effect.tokens (h : Effect c e c') (hm : c.isDirect = true) :
    ∃ l, l.Sublist (tokens c.items) ∧
      (tokens c'.items = l ∨ tokens c'.items = l ++ [c.completions]) := by
  have hadd (l l' : List Item) : MediaStream.tokens (l ++ l') =
      MediaStream.tokens l ++ MediaStream.tokens l' := List.filterMap_append
  cases h with
  | idle _ h => exact ⟨_, List.Sublist.refl _, .inl (by rw [h.items])⟩
  | @publish _ _ _ p _ hp =>
    refine ⟨_, List.Sublist.refl _, ?_⟩
    rw [hp.direct hm]
    rcases hp.pushed with h | ⟨bodies, hb, hpush⟩
    · rw [h, List.append_nil]
      exact .inl rfl
    · rw [hadd]
      generalize p.core.completions = n, p.completion = completion, p.queued = queued at hpush
      cases hpush with
      | owned => exact .inr (by rw [tokens_ownedItems _ _ hb])
      | free => exact .inl (by rw [tokens_free, List.append_nil])
  | @terminate thread closeStreams _ _ _ _ _ _ _ _ hq =>
    refine ⟨[], List.nil_sublist _, ?_⟩
    have hne : c.terminalBodies closeStreams ≠ [] := by simp [Core.terminalBodies]
    rcases hq with ⟨-, hnil, -⟩ | ⟨-, hitems, -⟩
    · rw [hnil]
      exact .inl rfl
    · rw [hitems]
      change tokens (c.prepareTerminal thread closeStreams).queued = _ ∨
        tokens (c.prepareTerminal thread closeStreams).queued = _
      rcases c.prepareTerminal_spec thread closeStreams with ⟨-, -, hq⟩ | ⟨-, -, hq⟩
      · rw [hq, tokens_free]
        exact .inl rfl
      · rw [hq, tokens_ownedItems _ _ hne]
        exact .inr rfl
  | take hq =>
    refine ⟨_, ?_, .inl rfl⟩
    rw [Core.takeFront_items, hq]
    exact List.Sublist.filterMap _ (List.sublist_cons_self ..)
  | finish h => exact ⟨_, List.Sublist.refl _, .inl (by rw [h.items])⟩

end

section
variable {s s' : Subscription} {thread : ThreadId} {e : Event} {call : Call} {item : Item}
  {t : List Event}

theorem FreshInv.not_mem_tokens (hf : FreshInv s) (hm : s.core.isDirect = true) :
    s.core.completions ∉ tokens s.core.items := by
  intro h
  obtain ⟨i, hi, hn⟩ := mem_tokens.1 h
  exact absurd (hf.pending hm i (.inl hi) _ hn) (Nat.lt_irrefl _)

theorem DirectInv.distinct_step (hd : DirectInv s) (h : SubscriptionStep s e s') :
    (tokens s'.core.items).Nodup := by
  obtain ⟨l, hl, heq | heq⟩ := (h.effect hd.inv).tokens hd.direct
  · rw [heq]
    exact hd.distinct.sublist hl
  · rw [heq]
    refine List.Nodup.append (hd.distinct.sublist hl) (List.nodup_singleton _) ?_
    rintro n hn hn'
    rw [List.mem_singleton.1 hn'] at hn
    exact hd.fresh.not_mem_tokens hd.direct (hl.subset hn)

theorem DirectInv.running_step (hd : DirectInv s) (h : SubscriptionStep s e s') (i : Item) (n : ℕ)
    (hr : s'.Runs i) (hn : i.directCompletion = some n) : n ∉ tokens s'.core.items := by
  have heff := h.effect hd.inv
  rcases h.runs hr with hr | ⟨t, rfl⟩
  · obtain ⟨l, hl, heq | heq⟩ := heff.tokens hd.direct
    · rw [heq]
      exact fun hmem => hd.running i n hr hn (hl.subset hmem)
    · rw [heq, List.mem_append, List.mem_singleton]
      rintro (hmem | rfl)
      · exact hd.running i n hr hn (hl.subset hmem)
      · exact absurd (hd.fresh.pending hd.direct i (.inr hr) _ hn) (Nat.lt_irrefl _)
  · have hdistinct := hd.distinct
    generalize s'.core = c' at heff
    cases heff with
    | idle _ _ hs => exact absurd rfl (hs _ _)
    | take hq =>
      rw [hq, tokens, List.filterMap_cons_some hn, List.nodup_cons] at hdistinct
      rw [Core.takeFront_items]
      exact hdistinct.1

/-! ## One thread moves -/

/-- Only `thread` moves.  It waits for what it has waited for, or for a new
    item of its own. -/
structure Moved (s s' : Subscription) (thread : ThreadId) : Prop where
  others : ∀ t ≠ thread, s'.threads t = s.threads t
  waits : ∀ n, s'.Waits thread n → s'.core.completed n = false ∧
    (s.Waits thread n ∨ n = s.core.completions ∧ n < s'.core.completions ∧
      ∀ i ∈ s'.core.items, i.directCompletion = some n → i.directOwner = some thread)
  runner : ∀ a ∈ s'.threads thread, ∀ i, a.item = some i →
    i.directOwner = none ∨ i.directOwner = some thread

theorem Moved.waits_iff (hm : Moved s s' thread) {t : ThreadId} (ht : t ≠ thread) {n : ℕ} :
    s'.Waits t n ↔ s.Waits t n := by
  unfold Subscription.Waits
  rw [hm.others t ht]

theorem SubscriptionStep.finished_mem (h : SubscriptionStep s (.finished thread item) s') :
    ∃ a ∈ s.threads thread, a.item = some item := by
  cases h with
  | finishLeave ht | finishNext ht | runFinish ht =>
    exact ⟨_, by rw [ht]; exact List.mem_cons_self, rfl⟩

theorem DirectInv.waits_step (hd : DirectInv s) (h : SubscriptionStep s e s')
    (hm : Moved s s' thread) (hfin : ∀ t i, e = .finished t i → t = thread) (t : ThreadId) (n : ℕ)
    (hw : s'.Waits t n) : s'.core.completed n = false ∧ n < s'.core.completions := by
  have heff := h.effect hd.inv
  have hle := (heff.fresh hd.direct).1
  rcases eq_or_ne t thread with rfl | hne
  · obtain ⟨hc, hold | ⟨-, hlt, -⟩⟩ := hm.waits n hw
    · exact ⟨hc, Nat.lt_of_lt_of_le (hd.waits t n hold).2 hle⟩
    · exact ⟨hc, hlt⟩
  · rw [hm.waits_iff hne] at hw
    obtain ⟨hc, hlt⟩ := hd.waits t n hw
    refine ⟨?_, Nat.lt_of_lt_of_le hlt hle⟩
    by_contra hdone
    rcases heff.completed (by simpa using hdone) with hold | ⟨t', item, rfl, hn, -⟩
    · rw [hc] at hold
      cases hold
    · -- the owner of the item delivers it, so `t` is the thread that moves
      obtain rfl := hfin t' item rfl
      obtain ⟨a, ha, hai⟩ := h.finished_mem
      have howner := hd.owner item n (.inr ⟨_, a, ha, hai⟩) hn t hw
      rcases hd.runner _ a ha item hai with hr | hr
      · rw [howner] at hr
        cases hr
      · rw [howner] at hr
        exact hne (Option.some.inj hr)

theorem DirectInv.owner_step (hd : DirectInv s) (h : SubscriptionStep s e s')
    (hm : Moved s s' thread) (i : Item) (n : ℕ) (hi : i ∈ s'.core.items ∨ s'.Runs i)
    (hn : i.directCompletion = some n) (t : ThreadId) (hw : s'.Waits t n) :
    i.directOwner = some t := by
  have heff := h.effect hd.inv
  have hold (hw : s.Waits t n) : i.directOwner = some t := by
    refine hd.owner i n ?_ hn t hw
    rcases hi with hi | hi
    · rcases (heff.fresh hd.direct).2 i hi with hi | hi
      · exact .inl hi
      · exact absurd (hd.waits t n hw).2 (by rw [(hi n hn).1]; exact Nat.lt_irrefl _)
    · exact (h.runs_or_mem hd.inv hi).symm
  rcases eq_or_ne t thread with rfl | hne
  · obtain ⟨-, hw | ⟨rfl, -, hnew⟩⟩ := hm.waits n hw
    · exact hold hw
    · rcases hi with hi | hi
      · exact hnew i hi hn
      · exact absurd (hd.fresh.pending hd.direct i (h.runs_or_mem hd.inv hi).symm _ hn)
          (Nat.lt_irrefl _)
  · exact hold ((hm.waits_iff hne).1 hw)

/-- The queue gets shorter at its front. -/
theorem DirectInv.queue_suffix (hd : DirectInv s) (hm : Moved s s' thread)
    (hs : s'.core.items <:+ s.core.items)
    (hkeep : (∀ n, s.Waits thread n → s'.Waits thread n) ∨
      ∀ i ∈ s'.core.items, i.directOwner ≠ some thread)
    (l : List Item) (i : Item) (l' : List Item) (t : ThreadId)
    (hl : s'.core.items = l ++ i :: l') (ho : i.directOwner = some t) :
    ∃ n, s'.Waits t n ∧ n ∈ tokens (i :: l') := by
  obtain ⟨l₀, hl₀⟩ := hs
  obtain ⟨n, hw, hn⟩ := hd.queue (l₀ ++ l) i l' t (by rw [← hl₀, hl, List.append_assoc]) ho
  refine ⟨n, ?_, hn⟩
  rcases eq_or_ne t thread with rfl | hne
  · rcases hkeep with hkeep | hnone
    · exact hkeep n hw
    · exact absurd ho (hnone i (by rw [hl]; simp))
  · exact (hm.waits_iff hne).2 hw

section
variable (hd : DirectInv s) (hfin : ∀ t i, e = .finished t i → t = thread) {core : Core}
  {target own target' : Option ℕ} {a : Activation}
include hd hfin

theorem DirectInv.of_moved (h : SubscriptionStep s e s') (hm : Moved s s' thread)
    (hqueue : ∀ l i l' t, s'.core.items = l ++ i :: l' → i.directOwner = some t →
      ∃ n, s'.Waits t n ∧ n ∈ tokens (i :: l'))
    (hfront : s'.core.activated = true → s'.core.delivering = false →
      ∀ i rest, s'.core.items = i :: rest → i.directOwner = none →
        ∃ thread, ∃ a ∈ s'.threads thread, a.isDrain = true) : DirectInv s' where
  inv := h.inv hd.inv
  fresh := hd.fresh.step hd.inv h
  direct := (h.effect hd.inv).isDirect.trans hd.direct
  waits := hd.waits_step h hm hfin
  runner t a ha i hai := by
    rcases eq_or_ne t thread with rfl | hne
    · exact hm.runner a ha i hai
    · rw [hm.others t hne] at ha
      exact hd.runner t a ha i hai
  owner := hd.owner_step h hm
  queue := hqueue
  distinct := hd.distinct_step h
  running := hd.running_step h
  front := hfront

omit hd hfin in
theorem waits_setThread {stack : List Activation} {n : ℕ} :
    (s.setThread thread core stack).Waits thread n ↔ ∃ a ∈ stack, a.waitsFor = some n := by
  unfold Subscription.Waits
  rw [setThread_self]

omit hfin in
theorem DirectInv.not_owned (hw : ∀ n, ¬ s.Waits thread n) :
    ∀ i ∈ s.core.items, i.directOwner ≠ some thread := by
  intro i hi ho
  obtain ⟨l, l', hl⟩ := List.append_of_mem hi
  obtain ⟨n, hn, -⟩ := hd.queue l i l' thread hl ho
  exact hw n hn

/-! ## Steps that leave the queue alone -/

/-- A call that neither drains the queue nor calls the sink. -/
def Activation.isPlain : Activation → Bool
  | awaitIdle _ | awaitTerminal _ | join _ _ | leave _ _ => true
  | _ => false

theorem DirectInv.keep {stack : List Activation}
    (h : SubscriptionStep s e (s.setThread thread s.core stack))
    (hsame : ∀ b, b.isPlain = false → (b ∈ stack ↔ b ∈ s.threads thread)) :
    DirectInv (s.setThread thread s.core stack) := by
  have hitem {b : Activation} {i : Item} (hi : b.item = some i) : b.isPlain = false := by
    cases b <;> first | rfl | cases hi
  have hdrain {b : Activation} (hb : b.isDrain = true) : b.isPlain = false := by
    cases b <;> first | rfl | cases hb
  have hwaits {n : ℕ} : (s.setThread thread s.core stack).Waits thread n ↔ s.Waits thread n := by
    rw [waits_setThread]
    refine exists_congr fun b => and_congr_left fun hn => hsame b ?_
    cases b <;> first | rfl | cases hn
  have hm : Moved s (s.setThread thread s.core stack) thread := by
    refine ⟨fun t ht => setThread_of_ne ht, fun n hw => ?_, fun b hb i hbi => ?_⟩
    · have hw := hwaits.1 hw
      exact ⟨(hd.waits thread n hw).1, .inl hw⟩
    · rw [setThread_self] at hb
      exact hd.runner thread b ((hsame b (hitem hbi)).1 hb) i hbi
  refine hd.of_moved hfin h hm (hd.queue_suffix hm List.suffix_rfl (.inl fun _ => hwaits.2)) ?_
  intro ha hdel i rest hi ho
  obtain ⟨t, b, hb, hbd⟩ := hd.front ha hdel i rest hi ho
  refine ⟨t, b, ?_, hbd⟩
  rcases eq_or_ne t thread with rfl | hne
  · rw [setThread_self]
    exact (hsame b (hdrain hbd)).2 hb
  · rwa [setThread_of_ne hne]

omit hd hfin in
theorem mem_cons_of_plain {b : Activation} {l : List Activation} (ha : a.isPlain = true)
    (hb : b.isPlain = false) : b ∈ a :: l ↔ b ∈ l := by
  rw [List.mem_cons, or_iff_right]
  rintro rfl
  rw [ha] at hb
  cases hb

omit hfin in
/-- The state after the first section of a call; there is no worker. -/
theorem DirectInv.entered_eq (hm : mayCall thread (s.threads thread) = true) :
    s.enter thread call = s.setThread thread (s.core.enter thread call).core
      ((s.core.enter thread call).activation :: s.threads thread) := by
  have hstep := SubscriptionStep.enter s thread call hm
  have hw {c : Core} (hf : FlagInv c) (hdir : c.isDirect = true) : c.workers = 0 := by
    rw [hf.workers, hdir, Bool.not_true, Bool.and_false]
    rfl
  have hnew := hw (hstep.inv hd.inv).flags ((hstep.effect hd.inv).isDirect.trans hd.direct)
  rw [Subscription.enter, entered_core] at hnew
  exact entered_of_eq (hnew.trans (hw hd.inv.flags hd.direct).symm)

/-! ## Draining -/

omit hfin in
/-- A target that the thread has stays one until it is completed. -/
theorem DirectInv.retarget_eq (ha : s.threads thread = [a]) (ht : a.waitsFor = target) :
    s.core.retarget target = target := by
  unfold Core.retarget
  rw [if_neg]
  cases target with
  | none => simp
  | some n => simp [(hd.waits thread n ⟨a, by rw [ha]; exact List.mem_cons_self, ht⟩).1]

/-- The only call of a thread goes on to `b`: it waits for what it has waited for, or the thread
    owns no item any more. -/
theorem DirectInv.goOn {b : Activation} (ht : s.threads thread = [a])
    (h : SubscriptionStep s e (s.setThread thread core [b])) (hitems : core.items <:+ s.core.items)
    (hrunner : ∀ i, b.item = some i → i.directOwner = none ∨ i.directOwner = some thread)
    (hwaits : ∀ n, b.waitsFor = some n → a.waitsFor = some n ∧
      (s.core.completed n = false → core.completed n = false))
    (hkeep : b.waitsFor = a.waitsFor ∨ ∀ i ∈ core.items, i.directOwner ≠ some thread)
    (hfront : b.isDrain = true ∨ (core.activated = true → core.delivering = false →
      ∀ i rest, core.items = i :: rest → i.directOwner ≠ none)) :
    DirectInv (s.setThread thread core [b]) := by
  have hm : Moved s (s.setThread thread core [b]) thread := by
    refine ⟨fun t ht => setThread_of_ne ht, fun n hw => ?_, fun c hc i hi => ?_⟩
    · obtain ⟨c, hc, hn⟩ := waits_setThread.1 hw
      rw [List.mem_singleton.1 hc] at hn
      have hold : s.Waits thread n := ⟨a, by rw [ht]; exact List.mem_cons_self, (hwaits n hn).1⟩
      exact ⟨(hwaits n hn).2 (hd.waits thread n hold).1, .inl hold⟩
    · rw [setThread_self, List.mem_singleton] at hc
      exact hrunner i (hc ▸ hi)
  refine hd.of_moved hfin h hm (hd.queue_suffix hm hitems (hkeep.imp_left fun hk n hw => ?_))
    fun ha hdel i rest hi ho => ?_
  · obtain ⟨c, hc, hn⟩ := hw
    rw [ht, List.mem_singleton] at hc
    exact waits_setThread.2 ⟨b, List.mem_singleton_self _, hk.trans (hc ▸ hn)⟩
  · rcases hfront with hdrain | hnone
    · exact ⟨thread, b, by rw [setThread_self]; exact List.mem_singleton_self _, hdrain⟩
    · exact absurd ho (hnone ha hdel i rest hi)

theorem DirectInv.drainWait {owns owns' : Bool}
    (ht : s.threads thread = [.drain call own target owns])
    (hc : s.core.drain thread target owns = .wait core target' owns')
    (h : SubscriptionStep s e (s.setThread thread core [.drain call own target' owns'])) :
    DirectInv (s.setThread thread core [.drain call own target' owns']) := by
  obtain ⟨-, hby, -⟩ := hd.inv.drain_top ht
  obtain rfl : target' = target := by
    have hspec := s.core.drain_spec thread target owns
    rw [hc] at hspec
    cases hspec with
    | inactiveWait | busy => exact hd.retarget_eq ht rfl
    | stuckWait => rfl
  obtain ⟨rfl, -⟩ := (hd.inv.drain_stops hby).2 hc
  have hsame := SameQueue.release s.core owns
  exact hd.goOn hfin ht h (by simp [hsame.items]) (by rintro _ ⟨⟩)
    (fun n hn => ⟨hn, by rw [hsame.completed]; exact id⟩) (.inl rfl) (.inl rfl)

theorem DirectInv.drainLeave {owns : Bool} (ht : s.threads thread = [.drain call own target owns])
    (hc : s.core.drain thread target owns = .leave core)
    (h : SubscriptionStep s e (s.setThread thread core [.leave call own])) :
    DirectInv (s.setThread thread core [.leave call own]) := by
  obtain ⟨-, hby, -⟩ := hd.inv.drain_top ht
  -- the thread waits for nothing any more, or the queue is empty
  have hleave : (s.core.items = [] ∨ target = none) ∧
      (core.activated = true → ∀ i rest, s.core.items = i :: rest → i.directOwner ≠ none) := by
    have hspec := s.core.drain_spec thread target owns
    rw [hc] at hspec
    cases hspec with
    | delivered hdel =>
      have hnil := (hd.inv.flags.delivered hdel).2
      exact ⟨.inl hnil, fun _ i rest hi => by rw [hnil] at hi; cases hi⟩
    | done hn hdone =>
      subst hn
      rw [(hd.waits thread _ ⟨_, by rw [ht]; exact List.mem_cons_self, rfl⟩).1] at hdone
      cases hdone
    | inactive ha hnone =>
      rw [show s.core.retarget target = target from hd.retarget_eq ht rfl] at hnone
      exact ⟨.inr hnone, fun ha' => absurd (ha.symm.trans ha') Bool.false_ne_true⟩
    | nested hby' ho => rw [hby', ho] at hby; cases hby
    | stuck _ _ hfront hnone =>
      refine ⟨.inr hnone, fun _ i rest hi ho => ?_⟩
      unfold Core.frontEligible at hfront
      rw [hi] at hfront
      simp [ho] at hfront
  rw [(hd.inv.drain_stops hby).1 hc] at h hleave ⊢
  have hitems := (SameQueue.release s.core owns).items
  refine hd.goOn hfin ht h (by simp [hitems]) (by rintro _ ⟨⟩) (by rintro _ ⟨⟩) (.inr ?_)
    (.inr fun ha _ i rest hi => hleave.2 ha i rest (hitems ▸ hi))
  rw [hitems]
  rcases hleave.1 with hnil | hnone
  · rw [hnil]
    simp
  · refine hd.not_owned fun n ⟨a, ha, hn⟩ => ?_
    rw [ht, List.mem_singleton] at ha
    rw [ha, Activation.waitsFor, hnone] at hn
    cases hn

/-! ## Delivering -/

theorem DirectInv.drainTake {owns : Bool} (ht : s.threads thread = [.drain call own target owns])
    (hc : s.core.drain thread target owns = .take core target' item)
    (h : SubscriptionStep s e (s.setThread thread core [.dispatch call own target' true item])) :
    DirectInv (s.setThread thread core [.dispatch call own target' true item]) := by
  have hspec := s.core.drain_spec thread target owns
  rw [hc] at hspec
  cases hspec with
  | @take _ rest _ _ hq helig =>
    have hsame := s.core.takeFront_same thread item rest
    refine hd.goOn hfin ht h ?_ (fun i hi => Option.some.inj hi ▸ helig) (fun n hn => ⟨?_, ?_⟩)
      (.inl (hd.retarget_eq ht rfl)) (.inr fun _ hdel => ?_)
    · rw [Core.takeFront_items, hq]
      exact List.suffix_cons ..
    · exact retarget_eq_some hn
    · rw [hsame.completed]
      exact id
    · rw [hsame.delivering] at hdel
      cases hdel

omit hfin in
/-- After the callback for the last item of its call, a thread owns no item. -/
theorem DirectInv.not_owned_of_completed {owns : Bool} {n : ℕ}
    (ht : s.threads thread = [.dispatch call own (some n) owns item])
    (h : SubscriptionStep s (.finished thread item) s') (hc : s'.core.completed n = true) :
    ∀ i ∈ s.core.items, i.directOwner ≠ some thread := by
  intro i hi ho
  have hmem : Activation.dispatch call own (some n) owns item ∈ s.threads thread := by
    rw [ht]; exact List.mem_cons_self
  obtain ⟨l, l', hl⟩ := List.append_of_mem hi
  obtain ⟨k, ⟨a, ha, hk⟩, htok⟩ := hd.queue l i l' thread hl ho
  rw [ht, List.mem_singleton] at ha
  rw [ha] at hk
  obtain rfl := Option.some.inj hk
  rcases (h.effect hd.inv).completed hc with hold | ⟨t, i, heq, hn, -⟩
  · rw [(hd.waits thread n ⟨_, hmem, rfl⟩).1] at hold
    cases hold
  · cases heq
    refine hd.running item n ⟨thread, _, hmem, rfl⟩ hn ?_
    rw [hl, tokens, List.filterMap_append]
    exact List.mem_append_right _ htok

omit hfin in
theorem DirectInv.finishLeave (ht : s.threads thread = [.dispatch call own target true item])
    (hc : s.core.finishDirect thread target true item = (core, none))
    (h : SubscriptionStep s (.finished thread item) (s.setThread thread core [.leave call own])) :
    DirectInv (s.setThread thread core [.leave call own]) := by
  have hinv := h.inv hd.inv
  have hspec := s.core.finishDirect_spec thread target true item
  rw [hc] at hspec
  -- the queue is empty, or the call is over and leaves nothing that it could take
  have hleave : (∀ i ∈ core.items, i.directOwner ≠ some thread) ∧
      ∀ i rest, core.items = i :: rest → i.directOwner ≠ none := by
    cases hspec with
    | delivered hdel =>
      have hnil : ((s.core.finishItem item).releaseDelivery true).items = [] :=
        (hinv.flags.delivered hdel).2
      simp [hnil]
    | done hn hdone hfront =>
      subst hn
      refine ⟨hd.not_owned_of_completed ht h hdone, fun i rest hi ho => ?_⟩
      have hne := hfront rfl
      unfold Core.frontEligible at hne
      rw [show (s.core.finishItem item).items = i :: rest from hi] at hne
      simp [ho] at hne
  have hitems : core.items = s.core.items := by cases hspec <;> rfl
  exact hd.goOn (by rintro _ _ ⟨⟩; rfl) ht h (by simp [hitems]) (by rintro _ ⟨⟩) (by rintro _ ⟨⟩)
    (.inr hleave.1) (.inr fun _ _ => hleave.2)

omit hfin in
theorem DirectInv.finishNext (ht : s.threads thread = [.dispatch call own target true item])
    (hc : s.core.finishDirect thread target true item = (core, some target'))
    (h : SubscriptionStep s (.finished thread item)
      (s.setThread thread core [.drain call own target' true])) :
    DirectInv (s.setThread thread core [.drain call own target' true]) := by
  have hspec := s.core.finishDirect_spec thread target true item
  rw [hc] at hspec
  cases hspec with
  | next =>
    refine hd.goOn (by rintro _ _ ⟨⟩; rfl) ht h List.suffix_rfl (by rintro _ ⟨⟩)
      (fun n hn => ⟨retarget_eq_some hn, fun _ => ?_⟩) ?_ (.inl rfl)
    · have htarget := retarget_eq_some hn
      simp only [Activation.waitsFor, Core.retarget, htarget] at hn
      simpa using hn
    · cases target with
      | none => exact .inl rfl
      | some n =>
        cases hcomp : (s.core.finishItem item).completed n with
        | false => exact .inl (by simp [Activation.waitsFor, Core.retarget, hcomp])
        | true => exact .inr (hd.not_owned_of_completed ht h hcomp)

/-! ## Calls -/

omit hd hfin in
theorem split_append {items queued l l' : List Item} {i : Item}
    (h : items ++ queued = l ++ i :: l') :
    (∃ l'', items = l ++ i :: l'' ∧ l' = l'' ++ queued) ∨
      ∃ l'', queued = l'' ++ i :: l' := by
  rcases List.append_eq_append_iff.1 h with ⟨m, rfl, hq⟩ | ⟨m, hl, hm⟩
  · exact .inr ⟨m, hq⟩
  · cases m with
    | nil => exact .inr ⟨[], hm.symm⟩
    | cons x m =>
      obtain ⟨rfl, rfl⟩ := List.cons.inj hm
      exact .inl ⟨m, hl, rfl⟩

/-- A call queues items that nobody owns. -/
theorem DirectInv.enterFree {rest : List Item} {bodies : List ItemBody} (hw : a.waitsFor = none)
    (hitem : a.item = none)
    (h : SubscriptionStep s e (s.setThread thread core (a :: s.threads thread)))
    (hitems : core.items = rest ++ bodies.map fun b => { body := b })
    (hrest : rest = s.core.items ∨ rest = []) (hcompleted : core.completed = s.core.completed)
    (hfront : a.isDrain = true ∨ (core.activated = true → core.delivering = true)) :
    DirectInv (s.setThread thread core (a :: s.threads thread)) := by
  have hwaits {n : ℕ} : (s.setThread thread core (a :: s.threads thread)).Waits thread n ↔
      s.Waits thread n := by
    rw [waits_setThread]
    constructor
    · rintro ⟨b, hb, hn⟩
      rcases List.mem_cons.1 hb with rfl | hb
      · rw [hw] at hn; cases hn
      · exact ⟨b, hb, hn⟩
    · rintro ⟨b, hb, hn⟩
      exact ⟨b, List.mem_cons_of_mem _ hb, hn⟩
  have hm : Moved s (s.setThread thread core (a :: s.threads thread)) thread := by
    refine ⟨fun t ht => setThread_of_ne ht, fun n hw => ?_, fun b hb i hbi => ?_⟩
    · rw [hwaits] at hw
      rw [setThread_core, hcompleted]
      exact ⟨(hd.waits thread n hw).1, .inl hw⟩
    · rw [setThread_self] at hb
      rcases List.mem_cons.1 hb with rfl | hb
      · rw [hitem] at hbi; cases hbi
      · exact hd.runner thread b hb i hbi
  refine hd.of_moved hfin h hm (fun l i l' t hl ho => ?_)
    fun ha hdel _ _ _ _ => ?_
  · rw [setThread_core, hitems] at hl
    rcases split_append hl with ⟨l'', hold, rfl⟩ | ⟨l'', hq⟩
    · rcases hrest with rfl | rfl
      · obtain ⟨n, hw, hn⟩ := hd.queue l i l'' t hold ho
        refine ⟨n, ?_, ?_⟩
        · rcases eq_or_ne t thread with rfl | hne
          · exact hwaits.2 hw
          · exact (hm.waits_iff hne).2 hw
        · rw [← List.cons_append, tokens, List.filterMap_append]
          exact List.mem_append_left _ hn
      · simp at hold
    · have hi : i ∈ bodies.map fun b => ({ body := b } : Item) := by rw [hq]; simp
      obtain ⟨b, -, rfl⟩ := List.mem_map.1 hi
      cases ho
  · rcases hfront with hdrain | hfront
    · exact ⟨thread, a, by rw [setThread_self]; exact List.mem_cons_self, hdrain⟩
    · rw [setThread_core] at ha hdel
      rw [hfront ha] at hdel
      cases hdel

/-- A call from outside queues items of its own, and drains. -/
theorem DirectInv.enterOwned {rest : List Item} {bodies : List ItemBody} (hb : bodies ≠ [])
    (ht : s.threads thread = [])
    (ha : a = .drain call (some s.core.completions) (some s.core.completions) false)
    (h : SubscriptionStep s e (s.setThread thread core [a]))
    (hitems : core.items = rest ++ Core.ownedItems thread s.core.completions bodies)
    (hrest : rest = s.core.items ∨ rest = []) (hcompleted : core.completed = s.core.completed)
    (hlt : s.core.completions < core.completions) : DirectInv (s.setThread thread core [a]) := by
  have hdrain : a ∈ (s.setThread thread core [a]).threads thread := by
    rw [setThread_self]; exact List.mem_singleton_self _
  have hm : Moved s (s.setThread thread core [a]) thread := by
    refine ⟨fun t ht => setThread_of_ne ht, fun n hw => ?_, fun b hmem i hbi => ?_⟩
    · obtain ⟨b, hmem, hn⟩ := waits_setThread.1 hw
      rw [List.mem_singleton.1 hmem, ha] at hn
      obtain rfl := Option.some.inj hn
      refine ⟨?_, .inr ⟨rfl, hlt, fun i hi hc => ?_⟩⟩
      · rw [setThread_core, hcompleted]
        by_contra hdone
        exact absurd (hd.fresh.completed hd.direct _ (by simpa using hdone)) (Nat.lt_irrefl _)
      · rw [setThread_core, hitems, List.mem_append] at hi
        refine Core.owner_ownedItems (hi.resolve_left fun hi => ?_)
        rcases hrest with rfl | rfl
        · exact hd.fresh.not_mem_tokens hd.direct (mem_tokens.2 ⟨i, hi, hc⟩)
        · cases hi
    · rw [setThread_self, List.mem_singleton] at hmem
      rw [hmem, ha] at hbi
      cases hbi
  refine hd.of_moved hfin h hm (fun l i l' t hl ho => ?_)
    fun _ _ _ _ _ _ => ⟨thread, a, hdrain, by rw [ha]; rfl⟩
  rw [setThread_core, hitems] at hl
  rcases split_append hl with ⟨l'', hold, rfl⟩ | ⟨l'', hq⟩
  · rcases hrest with rfl | rfl
    · obtain ⟨n, hw, hn⟩ := hd.queue l i l'' t hold ho
      refine ⟨n, ?_, ?_⟩
      · refine (hm.waits_iff ?_).2 hw
        rintro rfl
        obtain ⟨a, ha, -⟩ := hw
        rw [ht] at ha
        cases ha
      · rw [← List.cons_append, tokens, List.filterMap_append]
        exact List.mem_append_left _ hn
    · simp at hold
  · -- the last item of the call has the completion
    have hi : i ∈ Core.ownedItems thread s.core.completions bodies := by rw [hq]; simp
    obtain rfl := Option.some.inj (ho.symm.trans (Core.owner_ownedItems hi))
    refine ⟨s.core.completions, ⟨a, hdrain, by rw [ha]; rfl⟩, ?_⟩
    obtain ⟨lo, last, hlo, hlast, -⟩ := Core.completion_ownedItems t s.core.completions hb
    rw [hlo] at hq
    refine mem_tokens.2 ⟨last, ?_, hlast⟩
    have hend : (l'' ++ i :: l').getLast? = some last := by rw [← hq]; simp
    rw [List.getLast?_append_of_ne_nil _ (List.cons_ne_nil i l')] at hend
    exact List.mem_of_getLast? hend

theorem DirectInv.publish (hm : mayCall thread (s.threads thread) = true) {priming : Bool}
    {p : Core.Published} (hp : Core.Publishes s.core thread priming p)
    (hprime : priming = true → s.core.activated = false)
    (h : SubscriptionStep s e (s.setThread thread p.core
      ((Core.Published.entered p call).activation :: s.threads thread))) :
    DirectInv (s.setThread thread p.core
      ((Core.Published.entered p call).activation :: s.threads thread)) := by
  rcases hp.pushed with rfl | ⟨bodies, hb, hpush⟩
  · exact hd.keep hfin h fun b hb => mem_cons_of_plain rfl hb
  · have hitems := hp.direct hd.direct
    have hsame := hp.same
    obtain ⟨core, completion, queued⟩ := p
    dsimp only at hpush hitems hsame
    generalize hn : core.completions = n at hpush
    cases hpush with
    | owned _ _ hby =>
      obtain ⟨hnil, -⟩ := hd.inv.client hm hby
      rw [hnil] at h ⊢
      exact hd.enterOwned hfin hb hnil rfl h hitems (.inl rfl) hsame.completed
        (by rw [hn]; exact Nat.lt_succ_self _)
    | free hfree =>
      refine hd.enterFree hfin rfl rfl h hitems (.inl rfl) hsame.completed (.inr fun ha => ?_)
      rw [hsame.activated] at ha
      rw [hsame.delivering]
      rcases hfree with hasync | hpr | hby
      · rw [hd.direct] at hasync; cases hasync
      · rw [hprime hpr] at ha; cases ha
      · exact delivering_of_deliversBy hby

theorem DirectInv.activate (hm : mayCall thread (s.threads thread) = true)
    (h : SubscriptionStep s e (s.setThread thread s.core.activate.core
      (s.core.activate.activation :: s.threads thread))) :
    DirectInv (s.setThread thread s.core.activate.core
      (s.core.activate.activation :: s.threads thread)) := by
  cases hact : s.core.activated with
  | true =>
    have hen : s.core.activate = { core := s.core, activation := .leave .activate none } :=
      if_pos hact
    rw [hen] at h ⊢
    exact hd.keep hfin h fun b hb => mem_cons_of_plain rfl hb
  | false =>
    have hen : s.core.activate = { core := { s.core with activated := true }
                                   activation := .drain .activate none none false } := by
      simp [Core.activate, hact, hd.direct]
    obtain ⟨hnil, -⟩ := hd.inv.client hm
      (deliversBy_of_not_delivering (hd.inv.flags.off hact).1 thread)
    rw [hen] at h ⊢
    have hitems : s.core.items = s.core.items ++ [].map fun b => ({ body := b } : Item) :=
      (List.append_nil _).symm
    exact hd.enterFree hfin rfl rfl h hitems (.inl rfl) rfl (.inl rfl)

theorem DirectInv.cancel (hm : mayCall thread (s.threads thread) = true) {closeStreams : Bool}
    {en : Entered} (hc : Core.Cancels s.core thread closeStreams en)
    (h : SubscriptionStep s e (s.setThread thread en.core (en.activation :: s.threads thread))) :
    DirectInv (s.setThread thread en.core (en.activation :: s.threads thread)) := by
  cases hc with
  | delivered | awaitIdle | inside | awaitTerminal =>
    exact hd.keep hfin h fun b hb => mem_cons_of_plain rfl hb
  | self _ hby =>
    have hitems : ([] : List Item) = [] ++ [].map fun b => ({ body := b } : Item) := rfl
    exact hd.enterFree hfin rfl rfl h hitems (.inr rfl) rfl
      (.inr fun _ => delivering_of_deliversBy hby)
  | drain _ _ hby =>
    obtain ⟨hnil, -⟩ := hd.inv.client hm hby
    have hitems : (s.core.terminate thread closeStreams).items =
        [] ++ (s.core.prepareTerminal thread closeStreams).queued := rfl
    have hne : s.core.terminalBodies closeStreams ≠ [] := by simp [Core.terminalBodies]
    have hn : (s.core.terminate thread closeStreams).completions =
        (s.core.prepareTerminal thread closeStreams).core.completions := rfl
    rcases s.core.prepareTerminal_spec thread closeStreams with ⟨hcomp, -, hq⟩ | ⟨hcomp, hn', hq⟩
    · rw [hcomp] at h ⊢
      rw [hq] at hitems
      exact hd.enterFree hfin rfl rfl h hitems (.inr rfl) rfl (.inl rfl)
    · rw [hcomp, hnil] at h ⊢
      rw [hq] at hitems
      exact hd.enterOwned hfin hne hnil rfl h hitems (.inr rfl) rfl
        (by show _ < (s.core.terminate thread closeStreams).completions; rw [hn, hn']; omega)
  | join _ _ _ hasync => rw [hd.direct] at hasync; cases hasync

end

/-- **Every step keeps the queue and the threads together.** -/
theorem DirectStep.inv (h : DirectStep s e s') (hd : DirectInv s) : DirectInv s' := by
  obtain ⟨h, hprime⟩ := h
  have hi := hd.inv
  have hstep := h
  cases h with
  | enter thread call hm =>
    rw [hd.entered_eq hm] at hstep ⊢
    cases call with
    | primeStreamEvent event =>
      exact hd.publish (by rintro _ _ ⟨⟩) hm (s.core.publishStreamEvent_spec thread true event)
        (fun _ => hprime _ _ _ rfl) hstep
    | publishStreamEvent event =>
      exact hd.publish (by rintro _ _ ⟨⟩) hm (s.core.publishStreamEvent_spec thread false event)
        (by rintro ⟨⟩) hstep
    | publishFrame frame =>
      exact hd.publish (by rintro _ _ ⟨⟩) hm (s.core.publishFrame_spec thread frame)
        (by rintro ⟨⟩) hstep
    | activate => exact hd.activate (by rintro _ _ ⟨⟩) hm hstep
    | cancel closeStreams =>
      exact hd.cancel (by rintro _ _ ⟨⟩) hm (s.core.cancel_spec thread closeStreams) hstep
  | drainLeave ht hc =>
    obtain ⟨rfl, -⟩ := hi.drain_top ht
    exact hd.drainLeave (by rintro _ _ ⟨⟩) ht hc hstep
  | drainWait ht hc =>
    obtain ⟨rfl, -⟩ := hi.drain_top ht
    exact hd.drainWait (by rintro _ _ ⟨⟩) ht hc hstep
  | drainTake ht hc =>
    obtain ⟨rfl, -⟩ := hi.drain_top ht
    exact hd.drainTake (by rintro _ _ ⟨⟩) ht hc hstep
  | finishLeave ht hc =>
    obtain ⟨rfl, -, rfl, -⟩ := hi.dispatch_top ht
    exact hd.finishLeave ht hc hstep
  | finishNext ht hc =>
    obtain ⟨rfl, -, rfl, -⟩ := hi.dispatch_top ht
    exact hd.finishNext ht hc hstep
  | awaitIdle ht | awaitTerminal ht | join ht =>
    refine hd.keep (by rintro _ _ ⟨⟩) hstep fun b hb => ?_
    rw [ht, mem_cons_of_plain rfl hb, mem_cons_of_plain rfl hb]
  | leave ht =>
    refine hd.keep (by rintro _ _ ⟨⟩) hstep fun b hb => ?_
    rw [ht, mem_cons_of_plain rfl hb]
  | runTake ht | runEnd ht =>
    obtain ⟨-, -, hasync, -⟩ := hi.run_top ht
    rw [hd.direct] at hasync
    cases hasync
  | runFinish ht =>
    obtain ⟨-, -, hasync, -⟩ := hi.runDispatch_top ht
    rw [hd.direct] at hasync
    cases hasync

theorem start_direct {options : MediaSubscriptionOptions} (ho : options.dispatch = .direct) :
    DirectInv (Subscription.start options) where
  inv := start_inv options
  fresh := (start_barrier options).fresh
  direct := decide_eq_true ho
  waits := by rintro t n ⟨a, ha, -⟩; cases ha
  runner _ _ ha := by cases ha
  owner i n hi := by
    rcases hi with hi | ⟨t, a, ha, -⟩
    · cases hi
    · cases ha
  queue l i l' t hl := by simp [Subscription.start] at hl
  distinct := List.nodup_nil
  running := by rintro i n ⟨t, a, ha, -⟩; cases ha
  front := by rintro ⟨⟩

theorem run_direct {options : MediaSubscriptionOptions} (ho : options.dispatch = .direct)
    (h : Run DirectStep (Subscription.start options) t s) : DirectInv s :=
  h.keeps (fun hd hs => hs.inv hd) (start_direct ho)

/-! ## Results -/

/-- A callback that runs goes on, or returns. -/
theorem DirectStep.runs_or_finished (h : DirectStep s e s') (hd : DirectInv s) {i : Item}
    (hr : s.Runs i) : s'.Runs i ∨ ∃ thread, e = .finished thread i := by
  have hmove {thread : ThreadId} {core : Core} {stack : List Activation}
      (hkeep : ∀ a ∈ s.threads thread, a.item = some i → a ∈ stack) :
      (s.setThread thread core stack).Runs i := by
    obtain ⟨t, a, ha, hai⟩ := hr
    refine ⟨t, a, ?_, hai⟩
    rcases eq_or_ne t thread with rfl | hne
    · rw [setThread_self]
      exact hkeep a ha hai
    · rwa [setThread_of_ne hne]
  have htop {thread : ThreadId} {a b : Activation} {rest : List Activation}
      (ht : s.threads thread = a :: rest) (hn : a.item = none) :
      ∀ c ∈ s.threads thread, c.item = some i → c ∈ b :: rest ∧ c ∈ rest := by
    intro c hc hci
    rw [ht] at hc
    rcases List.mem_cons.1 hc with rfl | hc
    · rw [hn] at hci; cases hci
    · exact ⟨List.mem_cons_of_mem _ hc, hc⟩
  have hfinish {thread : ThreadId} {a : Activation} {item : Item} {core : Core}
      {rest stack : List Activation} (ht : s.threads thread = a :: rest)
      (ha : a.item = some item) (hsub : ∀ b ∈ rest, b ∈ stack) :
      (s.setThread thread core stack).Runs i ∨
        ∃ t, Event.finished thread item = .finished t i := by
    by_cases heq : i = item
    · exact .inr ⟨thread, by rw [heq]⟩
    · refine .inl (hmove fun c hc hci => ?_)
      rw [ht] at hc
      rcases List.mem_cons.1 hc with rfl | hc
      · exact absurd (Option.some.inj (hci.symm.trans ha)) heq
      · exact hsub c hc
  cases h.1 with
  | enter thread call hm =>
    rw [hd.entered_eq hm]
    exact .inl (hmove fun a ha _ => List.mem_cons_of_mem _ ha)
  | drainLeave ht | drainWait ht | drainTake ht | awaitIdle ht | awaitTerminal ht | join ht
  | runTake ht => exact .inl (hmove fun a ha hai => (htop ht rfl a ha hai).1)
  | leave ht | runEnd ht =>
    exact .inl (hmove fun a ha hai => (htop (b := .run) ht rfl a ha hai).2)
  | finishLeave ht | finishNext ht =>
    exact hfinish ht rfl fun b hb => List.mem_cons_of_mem _ hb
  | runFinish ht =>
    refine hfinish ht rfl fun b hb => ?_
    split_ifs
    · exact hb
    · exact List.mem_cons_of_mem _ hb

/-- Items are delivered as they were queued. -/
theorem Effect.order {c c' : Core} (h : Effect c e c') (hm : c.isDirect = true)
    (ho : (startedItems t ++ c.items).Sublist (queuedItems t)) :
    (startedItems (t ++ [e]) ++ c'.items).Sublist (queuedItems (t ++ [e])) := by
  rw [startedItems_concat, queuedItems_concat]
  cases h with
  | idle hq h hs =>
    rw [startedItems_eq_nil hs, hq, h.items, List.append_nil, List.append_nil]
    exact ho
  | publish _ hp =>
    rw [startedItems_eq_nil (by rintro _ _ ⟨⟩), List.append_nil, hp.direct hm, ← List.append_assoc]
    exact ho.append (List.Sublist.refl _)
  | @terminate thread closeStreams _ _ _ _ _ _ _ _ hq =>
    have hstarted := (List.sublist_append_left _ _).trans ho
    rw [startedItems_eq_nil (by rintro _ _ ⟨⟩), List.append_nil]
    refine hstarted.append ?_
    rcases hq with ⟨-, hnil, -⟩ | ⟨-, hitems, -⟩
    · rw [hnil]
      exact List.nil_sublist _
    · rw [hitems]
      exact List.Sublist.refl _
  | @take thread item rest hq =>
    rw [Core.takeFront_items, List.append_assoc]
    show (startedItems t ++ item :: rest).Sublist (queuedItems t ++ [])
    rwa [List.append_nil, ← hq]
  | finish h =>
    rw [startedItems_eq_nil (by rintro _ _ ⟨⟩), h.items, List.append_nil]
    show (startedItems t ++ c.items).Sublist (queuedItems t ++ [])
    rwa [List.append_nil]

theorem Effect.mem_items {c c' : Core} (h : Effect c e c') (hm : c.isDirect = true) {i : Item}
    (hi : i ∈ c.items) : i ∈ c'.items ∨ (∃ thread, e = .started thread i) ∨
      c'.terminalEnqueued = true := by
  cases h with
  | idle _ h => exact .inl (h.items ▸ hi)
  | publish _ hp =>
    rw [hp.direct hm]
    exact .inl (List.mem_append_left _ hi)
  | terminate _ henq => exact .inr (.inr henq)
  | @take thread item rest hq =>
    rw [hq] at hi
    rw [Core.takeFront_items]
    rcases List.mem_cons.1 hi with rfl | hi
    · exact .inr (.inl ⟨thread, rfl⟩)
    · exact .inl hi
  | finish h => exact .inl (h.items ▸ hi)

/-- Where an item is, once it was queued. -/
def Placed (t : List Event) (s : Subscription) (i : Item) : Prop :=
  i ∈ finishedItems t ∨ s.Runs i ∨ i ∈ s.core.items ∨ s.core.terminalEnqueued = true

theorem DirectStep.placed {i : Item} (h : DirectStep s e s') (hd : DirectInv s)
    (hp : Placed t s i) : Placed (t ++ [e]) s' i := by
  have heff := h.1.effect hd.inv
  have hfin {i : Item} : i ∈ finishedItems (t ++ [e]) ↔
      i ∈ finishedItems t ∨ ∃ thread, e = .finished thread i := by
    unfold finishedItems
    rw [List.filterMap_append, List.mem_append]
    refine or_congr_right ?_
    cases e <;> simp [eq_comm]
  rcases hp with hp | hp | hp | hp
  · exact .inl (hfin.2 (.inl hp))
  · rcases h.runs_or_finished hd hp with hr | hr
    · exact .inr (.inl hr)
    · exact .inl (hfin.2 (.inr hr))
  · rcases heff.mem_items hd.direct hp with hi | ⟨thread, rfl⟩ | he
    · exact .inr (.inr (.inl hi))
    · exact .inr (.inl h.1.started_runs)
    · exact .inr (.inr (.inr he))
  · exact .inr (.inr (.inr (heff.terminalEnqueued hp)))

/-- The items of a call from outside are queued, and belong to its thread. -/
theorem DirectInv.published (hd : DirectInv s) {p : Core.Published}
    (hp : Core.Publishes s.core thread false p) (hout : s.threads thread = []) :
    ∀ i ∈ p.queued, i ∈ p.core.items ∧ i.directOwner = some thread := by
  intro i hi
  have hby : s.core.deliversBy thread = false := by
    have hshape := hd.inv.shape thread
    rw [hout] at hshape
    cases hshape with
    | outside h => exact h
  refine ⟨by rw [hp.direct hd.direct]; exact List.mem_append_right _ hi, ?_⟩
  rcases hp.pushed with rfl | ⟨bodies, -, hpush⟩
  · cases hi
  · generalize p.core.completions = n, p.completion = completion, p.queued = queued at hpush hi
    cases hpush with
    | owned => exact Core.owner_ownedItems hi
    | free h =>
      rcases h with hasync | hprime | hby'
      · rw [hd.direct] at hasync; cases hasync
      · cases hprime
      · rw [hby] at hby'; cases hby'

def Call.isPublish : Call → Bool
  | publishStreamEvent _ | publishFrame _ => true
  | _ => false

/-- **A publish is synchronous**: when its thread is outside again, its items
    were delivered. -/
theorem DirectStep.synchronous {queued : List Item} {s₂ : Subscription} (hd : DirectInv s)
    (h : DirectStep s (.entered thread call queued) s₂) (h₂ : Run DirectStep s₂ t s')
    (hcall : call.isPublish = true) (hout : s.threads thread = [])
    (hback : s'.threads thread = []) :
    (∀ i ∈ queued, i ∈ finishedItems t) ∨ s'.core.terminalEnqueued = true := by
  have hqueued : ∀ i ∈ queued, i ∈ s₂.core.items ∧ i.directOwner = some thread := by
    cases h.1 with
    | enter =>
      rw [Subscription.enter, entered_core]
      cases call with
      | publishStreamEvent event =>
        exact hd.published (s.core.publishStreamEvent_spec thread false event) hout
      | publishFrame frame => exact hd.published (s.core.publishFrame_spec thread frame) hout
      | primeStreamEvent | activate | cancel => cases hcall
  obtain ⟨hd', hplaced⟩ := h₂.inv (I := fun t s => DirectInv s ∧ ∀ i ∈ queued, Placed t s i)
    ⟨h.inv hd, fun i hi => .inr (.inr (.inl (hqueued i hi).1))⟩
    fun h hs => ⟨hs.inv h.1, fun i hi => hs.placed h.1 (h.2 i hi)⟩
  refine or_iff_not_imp_right.2 fun hterm i hi => ?_
  have howner := (hqueued i hi).2
  rcases hplaced i hi with hfin | ⟨t', a, ha, hai⟩ | hmem | he
  · exact hfin
  · -- only its owner could run the callback
    rcases hd'.runner t' a ha i hai with hr | hr
    · rw [howner] at hr; cases hr
    · rw [howner] at hr
      obtain rfl := Option.some.inj hr
      rw [hback] at ha
      cases ha
  · obtain ⟨l, l', hl⟩ := List.append_of_mem hmem
    obtain ⟨n, ⟨a, ha, -⟩, -⟩ := hd'.queue l i l' thread hl howner
    rw [hback] at ha
    cases ha
  · exact absurd he hterm

/-- With all threads outside, nothing is left in the queue. -/
theorem DirectInv.items_eq_nil (hd : DirectInv s) (ha : s.core.activated = true)
    (hout : ∀ thread, s.threads thread = []) : s.core.items = [] := by
  have hdel : s.core.delivering = false := by
    by_contra hne
    have hthread := hd.inv.flags.thread
    rw [Bool.not_eq_false] at hne
    rw [hne] at hthread
    obtain ⟨t, ht⟩ := Option.isSome_iff_exists.1 hthread
    have hshape := hd.inv.shape t
    rw [hout t] at hshape
    cases hshape with
    | outside h => simp [Core.deliversBy, hne, ht] at h
  cases hq : s.core.items with
  | nil => rfl
  | cons i rest =>
    cases ho : i.directOwner with
    | none =>
      obtain ⟨t, a, hmem, -⟩ := hd.front ha hdel i rest hq ho
      rw [hout t] at hmem
      cases hmem
    | some t =>
      obtain ⟨n, ⟨a, hmem, -⟩, -⟩ := hd.queue [] i rest t hq ho
      rw [hout t] at hmem
      cases hmem

theorem Shape.countP_le {c : Core} {l : List Activation} (h : Shape c thread l) :
    l.countP Activation.isCallback ≤ 1 := by
  cases h with
  | outside => simp
  | quiet | owner | callback => exact List.countP_le_length
  | nested =>
    rw [List.countP_cons_of_neg (by rintro ⟨⟩)]
    exact List.countP_le_length

/-- **Direct delivery is serialized and synchronous.** -/
theorem direct_delivery {options : MediaSubscriptionOptions} (ho : options.dispatch = .direct)
    {t : List Event} (h : Run DirectStep (Subscription.start options) t s) :
    ((∀ thread, (s.threads thread).countP Activation.isCallback ≤ 1) ∧
      ∀ thread thread', s.InCallback thread → s.InCallback thread' → thread = thread') ∧
    (startedItems t ++ s.core.items).Sublist (queuedItems t) ∧
    (∀ t₁ s₁ thread call queued s₂ t₂, Run DirectStep (Subscription.start options) t₁ s₁ →
      DirectStep s₁ (.entered thread call queued) s₂ → Run DirectStep s₂ t₂ s →
      call.isPublish = true → s₁.threads thread = [] → s.threads thread = [] →
      (∀ i ∈ queued, i ∈ finishedItems t₂) ∨ s.core.terminalEnqueued = true) ∧
    (∀ thread i s', DirectStep s (.started thread i) s' → ¬ s.InCallback thread) ∧
    (s.core.activated = true → (∀ thread, s.threads thread = []) → s.core.items = []) := by
  have hd := run_direct ho h
  refine ⟨⟨fun thread => (hd.inv.shape thread).countP_le, ?_⟩, ?_, ?_, ?_, hd.items_eq_nil⟩
  · rintro thread thread' ⟨a, ha, hc⟩ ⟨a', ha', hc'⟩
    have hby := (hd.inv.shape thread').delivers ha' hc'
    rw [deliversBy_eq ((hd.inv.shape thread).delivers ha hc), decide_eq_true_eq] at hby
    exact hby.symm
  · exact (h.inv (I := fun t s => DirectInv s ∧
      (startedItems t ++ s.core.items).Sublist (queuedItems t))
      ⟨start_direct ho, List.Sublist.refl _⟩
      fun ⟨hd, hs⟩ hstep => ⟨hstep.inv hd, (hstep.1.effect hd.inv).order hd.direct hs⟩).2
  · intro t₁ s₁ thread call queued s₂ t₂ h₁ hstep h₂ hcall hout hback
    exact hstep.synchronous (run_direct ho h₁) h₂ hcall hout hback
  · rintro thread i s' ⟨hs, -⟩ ⟨a, ha, hc⟩
    cases hs with
    | drainTake ht =>
      obtain ⟨rfl, -⟩ := hd.inv.drain_top ht
      rw [ht, List.mem_singleton] at ha
      rw [ha] at hc
      cases hc
    | runTake ht =>
      obtain ⟨rfl, -⟩ := hd.inv.run_top ht
      rw [ht, List.mem_singleton] at ha
      rw [ha] at hc
      cases hc

/-- A primed subscription is activated by thread 0.  Then thread 1 publishes a
    frame, and its item was delivered when the thread is outside again. -/
theorem direct_delivery_frame :
    ∃ t₁ s₁ queued s₂ t₂ s,
      Run DirectStep (Subscription.start {}) t₁ s₁ ∧
      DirectStep s₁ (.entered (.client 1) (.publishFrame ⟨"s", "d", 7, 0, [1], 1⟩) queued) s₂ ∧
      Run DirectStep s₂ t₂ s ∧ queued.length = 1 ∧ ∀ i ∈ queued, i ∈ finishedItems t₂ := by
  have hstep {s s' : Subscription} {e : Event} (h : SubscriptionStep s e s')
      (he : ∀ thread event queued, e ≠ .entered thread (.primeStreamEvent event) queued) :
      DirectStep s e s' := ⟨h, fun thread event queued hc => absurd hc (he thread event queued)⟩
  have h : Run DirectStep (Subscription.start {}) _ _ := Run.one ⟨.enter _ (.client 0)
    (.primeStreamEvent { descriptor := { key := ⟨"s", 7, 1⟩, deviceId := "d" } }) rfl,
    fun _ _ _ _ => rfl⟩
  have h := h.snoc (hstep (@.leave _ (.client 0) _ _ _ rfl) (by rintro _ _ _ ⟨⟩))
  have h := h.snoc (hstep (.enter _ (.client 0) .activate rfl) (by rintro _ _ _ ⟨⟩))
  have h := h.snoc (hstep (@.drainTake _ (.client 0) _ _ _ _ _ _ _ _ rfl rfl)
    (by rintro _ _ _ ⟨⟩))
  have h := h.snoc (hstep (@.finishNext _ (.client 0) _ _ _ _ _ _ _ _ rfl rfl)
    (by rintro _ _ _ ⟨⟩))
  have h := h.snoc (hstep (@.drainLeave _ (.client 0) _ _ _ _ _ _ rfl rfl)
    (by rintro _ _ _ ⟨⟩))
  have h' := (h.snoc (hstep (.enter _ (.client 1) (.publishFrame ⟨"s", "d", 7, 0, [1], 1⟩) rfl)
    (by rintro _ _ _ ⟨⟩))).onward
  have h' := h'.snoc (hstep (@.drainTake _ (.client 1) _ _ _ _ _ _ _ _ rfl rfl)
    (by rintro _ _ _ ⟨⟩))
  have h' := h'.snoc (hstep (@.finishLeave _ (.client 1) _ _ _ _ _ _ _ rfl rfl)
    (by rintro _ _ _ ⟨⟩))
  have h' := h'.snoc (hstep (@.leave _ (.client 1) _ _ _ rfl) (by rintro _ _ _ ⟨⟩))
  refine ⟨_, _, _, _, _, _, h, hstep (.enter _ _ _ rfl) (by rintro _ _ _ ⟨⟩), h', rfl, ?_⟩
  have hall := (h.snoc (hstep (.enter _ (.client 1) (.publishFrame ⟨"s", "d", 7, 0, [1], 1⟩) rfl)
    (by rintro _ _ _ ⟨⟩))).trans h'
  refine ((direct_delivery rfl hall).2.2.1 _ _ (.client 1) (.publishFrame ⟨"s", "d", 7, 0, [1], 1⟩)
    _ _ _ h (hstep (.enter _ _ _ rfl) (by rintro _ _ _ ⟨⟩)) h' rfl rfl rfl).resolve_right ?_
  rintro ⟨⟩

end

end Axent.MediaStream
