/-
  What the sink of a media stream subscription sees
  (`MediaStreamSubscriptionState`).

  The callbacks for one stream form blocks: `Opened`, frames, `Closed`.  The
  invariant relates three things: the streams that the sink knows
  (`deliveredStreams`), the queue, and the streams that are active.  The queue
  leads from the first to the last (`Seen`).  When the subscription is
  terminated the queue is thrown away, and the closing events lead from the
  streams that the sink knows to no stream at all (`seen_closingEvents`).
-/
import Mathlib.Tactic.Convert
import Axent.Lib.Index
import Axent.MediaStreamBarrier

namespace Axent.MediaStream

open Lib Function

/-! ## Closing all streams -/

/-- The marks of events. -/
def eventMarks (events : List MediaStreamEvent) : List (Mark StreamKey) :=
  (events.map ItemBody.streamEvent).filterMap ItemBody.mark

@[simp] theorem eventMarks_append (l l' : List MediaStreamEvent) :
    eventMarks (l ++ l') = eventMarks l ++ eventMarks l' := by
  unfold eventMarks
  rw [List.map_append, List.filterMap_append]

theorem eventMarks_flatMap {α : Type*} (f : α → List MediaStreamEvent) (l : List α) :
    eventMarks (l.flatMap f) = l.flatMap fun x => eventMarks (f x) := by
  induction l with
  | nil => rfl
  | cons x l ih => rw [List.flatMap_cons, eventMarks_append, ih, List.flatMap_cons]

theorem seen_closeActive {delivered : StreamMap} (hd : delivered.Filed) {streamId : ℕ}
    {d : MediaStreamDescriptor} (hid : d.key.streamId = streamId) {m : ℕ → Option StreamKey}
    (hm : m streamId = delivered.openKeys streamId) :
    Brackets StreamKey.streamId m (eventMarks (Core.closeActive delivered streamId d))
      (update m streamId none) := by
  subst hid
  have hopen : delivered.openKeys d.key.streamId =
      (delivered[d.key.streamId]?).map MediaStreamDescriptor.key := rfl
  have hboth {m : ℕ → Option StreamKey} (hm : m d.key.streamId = none) :
      Brackets StreamKey.streamId m [.opened d.key, .closed d.key]
        (update m d.key.streamId none) := by
    refine .opened hm (.closed (update_self ..) ?_)
    rw [update_idem]
    exact .nil _
  unfold Core.closeActive
  cases hk : delivered[d.key.streamId]? with
  | none =>
    rw [hopen, hk] at hm ⊢
    exact hboth hm
  | some known =>
    have hid := hd _ _ hk
    rw [hopen, hk] at hm ⊢
    have hclosed : Brackets StreamKey.streamId m [.closed known.key]
        (update m d.key.streamId none) := by
      rw [← hid]
      exact .one_closed (by rw [hid]; exact hm)
    dsimp only [Option.map_some]
    split_ifs
    · exact hclosed
    · have := hclosed.append (hboth (update_self ..))
      rwa [update_idem] at this

theorem mem_ids {m : StreamMap} {i : ℕ} : i ∈ m.toList.map Prod.fst ↔ m[i]?.isSome = true := by
  rw [List.mem_map, Option.isSome_iff_exists]
  constructor
  · rintro ⟨⟨j, d⟩, h, rfl⟩
    exact ⟨d, Std.TreeMap.mem_toList_iff_getElem?_eq_some.1 h⟩
  · rintro ⟨d, h⟩
    exact ⟨(i, d), Std.TreeMap.mem_toList_iff_getElem?_eq_some.2 h, rfl⟩

/-- The closing events close what the sink knows, and leave nothing open. -/
theorem seen_closingEvents {active delivered : StreamMap} (ha : active.Filed)
    (hd : delivered.Filed) :
    Brackets StreamKey.streamId delivered.openKeys
      (eventMarks (Core.closingEvents active delivered)) fun _ => none := by
  -- the streams that only the sink knows
  let m : ℕ → Option StreamKey := fun i =>
    if i ∈ active.toList.map Prod.fst then none else delivered.openKeys i
  let known := delivered.toList.filter fun entry => active[entry.1]?.isNone
  have hfirst : Brackets StreamKey.streamId delivered.openKeys
      (active.toList.flatMap fun e => eventMarks (Core.closeActive delivered e.1 e.2)) m :=
    .flatMap _ Prod.fst (keys_toList_nodup active) fun e he m' hm' =>
      seen_closeActive hd (ha _ _ (Std.TreeMap.mem_toList_iff_getElem?_eq_some.1 he)) hm'
  have hsecond : Brackets StreamKey.streamId m
      (known.flatMap fun e => [Mark.closed e.2.key])
      fun i => if i ∈ known.map Prod.fst then none else m i := by
    refine .flatMap _ Prod.fst
      ((keys_toList_nodup delivered).sublist (List.filter_sublist.map _)) fun e he m' hm' => ?_
    obtain ⟨hmem, hnone⟩ := List.mem_filter.1 he
    have hget := Std.TreeMap.mem_toList_iff_getElem?_eq_some.1 hmem
    have hkey : m' e.1 = some e.2.key := by
      rw [hm']
      have : e.1 ∉ active.toList.map Prod.fst := by
        rw [mem_ids]
        simpa using hnone
      simp only [m, if_neg this, StreamMap.openKeys, hget, Option.map_some]
    have hid : e.2.key.streamId = e.1 := hd _ _ hget
    rw [← hid] at hkey ⊢
    exact .one_closed hkey
  have hend : (fun i => if i ∈ known.map Prod.fst then none else m i) = fun _ => none := by
    funext i
    split_ifs with hknown
    · rfl
    · show (if i ∈ active.toList.map Prod.fst then none else delivered.openKeys i) = none
      split_ifs with hactive
      · rfl
      · rw [mem_ids] at hactive
        by_contra hopen
        obtain ⟨k, hk⟩ := Option.ne_none_iff_exists'.1 hopen
        obtain ⟨d, hget, -⟩ := Option.map_eq_some_iff.1 hk
        have hmem := Std.TreeMap.mem_toList_iff_getElem?_eq_some.2 hget
        refine hknown (List.mem_map.2 ⟨(i, d), List.mem_filter.2 ⟨hmem, ?_⟩, rfl⟩)
        simpa using hactive
  unfold Core.closingEvents
  rw [List.map_eq_flatMap, eventMarks_append, eventMarks_flatMap, eventMarks_flatMap, ← hend]
  exact hfirst.append hsecond

/-! ## What the sink has seen -/

/-- The sink, the queue and the active streams. -/
structure LifecycleInv (t : List Event) (c : Core) : Prop where
  active : c.activeStreams.Filed
  delivered : c.deliveredStreams.Filed
  seen : Seen (fun _ => none) (startedItems t) c.deliveredStreams.openKeys
  queue : c.terminalEnqueued = false →
    Seen c.deliveredStreams.openKeys c.items c.activeStreams.openKeys
  terminal : c.terminalEnqueued = true → ∃ m, Seen c.deliveredStreams.openKeys c.items m
  closed : (∃ i ∈ startedItems t, i.isClosed = true) → c.terminalEnqueued = true ∧ c.items = []
  last : ∀ l i l', startedItems t = l ++ i :: l' → i.isClosed = true → l' = []

section
variable {t : List Event} {c c' : Core} {e : Event} {m : ℕ → Option StreamKey} {item : Item}
  {rest : List Item}

theorem seen_updateDelivered {delivered : StreamMap} (hf : delivered.Filed)
    (h : Seen delivered.openKeys (item :: rest) m) :
    (Core.updateDelivered delivered item).Filed ∧
      Seen delivered.openKeys [item] (Core.updateDelivered delivered item).openKeys ∧
      Seen (Core.updateDelivered delivered item).openKeys rest m := by
  unfold Seen at h ⊢
  rw [marks_cons] at h
  obtain ⟨body, owner, completion⟩ := item
  cases body with
  | streamEvent event =>
    obtain ⟨kind, d, reason⟩ := event
    cases kind with
    | opened =>
      cases h with
      | opened hk hl =>
        refine ⟨hf.insert d, ?_⟩
        simp only [Core.updateDelivered, StreamMap.openKeys_insert]
        exact ⟨.one_opened (k := d.key) hk, hl⟩
    | closed =>
      cases h with
      | closed hk hl =>
        simp only [Core.updateDelivered, if_pos hk, StreamMap.openKeys_erase]
        exact ⟨hf.erase _, .one_closed (k := d.key) hk, hl⟩
  | frame f =>
    cases h with
    | used hk hl => exact ⟨hf, .one_used (k := f.key) hk, hl⟩
  | deliveryEvent => exact ⟨hf, .nil _, h⟩

/-- The terminal items close everything, or leave the sink as it is. -/
theorem seen_terminate (ha : c.activeStreams.Filed) (hd : c.deliveredStreams.Filed)
    (thread : ThreadId) (closeStreams : Bool) :
    Seen c.deliveredStreams.openKeys (c.terminate thread closeStreams).items
      (if closeStreams then fun _ => none else c.deliveredStreams.openKeys) := by
  have hbodies := bodies_prepareTerminal c thread closeStreams
  change (c.terminate thread closeStreams).items.map Item.body = _ at hbodies
  unfold Seen
  rw [Core.marks_eq_bodies, hbodies]
  unfold Core.terminalBodies
  rw [List.filterMap_append]
  refine Brackets.append ?_ (.nil _)
  cases closeStreams with
  | true => exact seen_closingEvents ha hd
  | false => exact .nil _

theorem LifecycleInv.keep (hl : LifecycleInv t c) (hs : startedItems [e] = [])
    (hd : c'.deliveredStreams = c.deliveredStreams) (ha : c'.activeStreams.Filed)
    (hq : c'.terminalEnqueued = false →
      Seen c.deliveredStreams.openKeys c'.items c'.activeStreams.openKeys)
    (ht : c'.terminalEnqueued = true → ∃ m, Seen c.deliveredStreams.openKeys c'.items m)
    (hc : c.terminalEnqueued = true → c'.terminalEnqueued = true ∧ c'.items = c.items) :
    LifecycleInv (t ++ [e]) c' := by
  have hst : startedItems (t ++ [e]) = startedItems t := by
    rw [startedItems_concat, hs, List.append_nil]
  refine ⟨ha, hd ▸ hl.delivered, by rw [hst, hd]; exact hl.seen, hd ▸ hq, hd ▸ ht, fun h => ?_,
    by rw [hst]; exact hl.last⟩
  rw [hst] at h
  obtain ⟨he, hnil⟩ := hl.closed h
  exact ⟨(hc he).1, (hc he).2.trans hnil⟩

theorem LifecycleInv.take (hl : LifecycleInv t c) {thread : ThreadId} (hq : c.items = item :: rest)
    (hlast : item.isClosed = true → (c.takeFront thread item rest).terminalEnqueued = true ∧
      (c.takeFront thread item rest).items = []) :
    LifecycleInv (t ++ [.started thread item]) (c.takeFront thread item rest) := by
  have hsame := c.takeFront_same thread item rest
  have hstarted : startedItems (t ++ [.started thread item]) = startedItems t ++ [item] :=
    startedItems_concat ..
  obtain ⟨m, hm, hactive⟩ : ∃ m, Seen c.deliveredStreams.openKeys (item :: rest) m ∧
      (c.terminalEnqueued = false → m = c.activeStreams.openKeys) := by
    rw [← hq]
    cases he : c.terminalEnqueued with
    | true => exact (hl.terminal he).imp fun m hm => ⟨hm, by rintro ⟨⟩⟩
    | false => exact ⟨_, hl.queue he, fun _ => rfl⟩
  obtain ⟨hfiled, hone, hrest⟩ := seen_updateDelivered hl.delivered hm
  -- nothing was closed before, since an item was left
  have hnone : ¬ ∃ i ∈ startedItems t, i.isClosed = true := by
    intro hc
    rw [(hl.closed hc).2] at hq
    cases hq
  refine ⟨?_, ?_, ?_, fun he => ?_, fun _ => ?_, ?_, ?_⟩
  · rw [Core.takeFront_activeStreams]
    exact hl.active
  · rw [hsame.deliveredStreams]
    exact hfiled
  · rw [hsame.deliveredStreams, hstarted]
    unfold Seen
    rw [marks_append]
    exact hl.seen.append hone
  · rw [hsame.terminalEnqueued] at he
    rw [hsame.deliveredStreams, Core.takeFront_items, Core.takeFront_activeStreams, ← hactive he]
    exact hrest
  · rw [hsame.deliveredStreams, Core.takeFront_items]
    exact ⟨m, hrest⟩
  · rintro ⟨i, hi, hc⟩
    rw [hstarted, List.mem_append, List.mem_singleton] at hi
    rcases hi with hi | rfl
    · exact absurd ⟨i, hi, hc⟩ hnone
    · exact hlast hc
  · intro l i l' hl' hc
    rw [hstarted] at hl'
    rcases List.eq_nil_or_concat l' with rfl | ⟨l'', x, rfl⟩
    · rfl
    · have hinit : startedItems t = l ++ i :: l'' := by
        rw [List.concat_eq_append, ← List.cons_append, ← List.append_assoc] at hl'
        exact (List.append_inj' hl' rfl).1
      exact absurd ⟨i, by rw [hinit]; simp, hc⟩ hnone

theorem LifecycleInv.effect (hl : LifecycleInv t c) (hf : FlagInv c) (h : Effect c e c')
    (hlast : ∀ thread item, e = .started thread item → item.isClosed = true →
      c'.terminalEnqueued = true ∧ c'.items = []) : LifecycleInv (t ++ [e]) c' := by
  have hsame {c' : Core} (hs : startedItems [e] = [])
      (hd : c'.deliveredStreams = c.deliveredStreams) (ha : c'.activeStreams = c.activeStreams)
      (hi : c'.items = c.items) (he : c'.terminalEnqueued = c.terminalEnqueued) :
      LifecycleInv (t ++ [e]) c' := by
    refine hl.keep hs hd (ha ▸ hl.active) ?_ ?_ fun h => ⟨he.trans h, hi⟩
    · rw [he, hi, ha]
      exact hl.queue
    · rw [he, hi]
      exact hl.terminal
  cases h with
  | idle _ h hs =>
    exact hsame (startedItems_eq_nil hs) h.deliveredStreams h.activeStreams h.items
      h.terminalEnqueued
  | @publish thread call priming p _ hp =>
    have hrefused : c.terminalEnqueued = true → p = { core := c } := fun he =>
      hp.refused (by rw [hf.accepting, he]; rfl)
    refine hl.keep rfl hp.same.deliveredStreams (hp.filed hl.active) ?_ ?_ ?_
    · rw [hp.same.terminalEnqueued]
      exact fun he => hp.seen hl.active (hl.queue he)
    · rw [hp.same.terminalEnqueued]
      intro he
      rw [hrefused he]
      exact hl.terminal he
    · intro he
      rw [hrefused he]
      exact ⟨he, rfl⟩
  | @terminate thread closeStreams _ h henq _ hd ha _ _ hq =>
    refine hl.keep rfl hd (ha ▸ StreamMap.filed_empty) (fun he => ?_) (fun _ => ?_) fun he => ?_
    · rw [henq] at he; cases he
    · rcases hq with ⟨-, hnil, -⟩ | ⟨-, hitems, -⟩
      · rw [hnil]
        exact ⟨_, .nil _⟩
      · rw [hitems]
        exact ⟨_, seen_terminate hl.active hl.delivered thread closeStreams⟩
    · rw [h] at he; cases he
  | take hq => exact hl.take hq fun hc => hlast _ _ rfl hc
  | finish h =>
    exact hsame rfl h.deliveredStreams h.activeStreams h.items h.terminalEnqueued

end

/-! ## Runs -/

section
variable {s s' : Subscription} {t : List Event} {e : Event}

/-- The terminal event is the last one that is started. -/
theorem SubscriptionStep.closed_last (h : SubscriptionStep s e s') (hi : Inv s)
    (thread : ThreadId) (item : Item) (he : e = .started thread item)
    (hc : item.isClosed = true) : s'.core.terminalEnqueued = true ∧ s'.core.items = [] := by
  subst he
  exact (h.inv hi).running item h.started_runs hc

theorem run_lifecycle {options : MediaSubscriptionOptions}
    (h : Run SubscriptionStep (Subscription.start options) t s) :
    Inv s ∧ LifecycleInv t s.core := by
  refine h.inv (I := fun t s => Inv s ∧ LifecycleInv t s.core) ⟨start_inv options, ?_⟩ ?_
  · refine ⟨StreamMap.filed_empty, StreamMap.filed_empty, ?_, fun _ => ?_, by rintro ⟨⟩, ?_, ?_⟩
    · show Brackets _ _ _ (StreamMap.openKeys ∅)
      rw [StreamMap.openKeys_empty]
      exact .nil _
    · exact .nil _
    · rintro ⟨i, hi, -⟩
      cases hi
    · intro l i l' hl
      simp [startedItems] at hl
  · rintro t s e s' ⟨hi, hl⟩ hs
    exact ⟨hs.inv hi, hl.effect hi.flags (hs.effect hi) (hs.closed_last hi)⟩

/-- The queue closes all that the sink knows. -/
structure Closing (c : Core) : Prop where
  enqueued : c.terminalEnqueued = true
  delivered : c.deliveredStreams.Filed
  seen : Seen c.deliveredStreams.openKeys c.items fun _ => none

theorem Effect.closing {c c' : Core} (h : Effect c e c') (hf : FlagInv c) (hc : Closing c) :
    Closing c' := by
  cases h with
  | idle _ h =>
    exact ⟨h.terminalEnqueued.trans hc.enqueued, h.deliveredStreams ▸ hc.delivered,
      by rw [h.deliveredStreams, h.items]; exact hc.seen⟩
  | publish _ hp =>
    rw [hp.refused (by rw [hf.accepting, hc.enqueued]; rfl)]
    exact hc
  | terminate h =>
    rw [hc.enqueued] at h
    cases h
  | @take thread item rest hq =>
    have hsame := c.takeFront_same thread item rest
    obtain ⟨hfiled, -, hrest⟩ := seen_updateDelivered hc.delivered (hq ▸ hc.seen)
    refine ⟨hsame.terminalEnqueued.trans hc.enqueued, ?_, ?_⟩
    · rw [hsame.deliveredStreams]
      exact hfiled
    · rw [hsame.deliveredStreams, Core.takeFront_items]
      exact hrest
  | finish h =>
    exact ⟨h.terminalEnqueued.trans hc.enqueued, h.deliveredStreams ▸ hc.delivered,
      by rw [h.deliveredStreams, h.items]; exact hc.seen⟩

/-- A `close_streams_and_cancel` that terminates, and does not come from a
    callback. -/
theorem closing_of_cancel {thread : ThreadId} {queued : List Item} (hi : Inv s)
    (hl : LifecycleInv t s.core) (hout : ¬ s.InCallback thread)
    (he : s.core.terminalEnqueued = false)
    (h : SubscriptionStep s (.entered thread (.cancel true) queued) s') : Closing s'.core := by
  cases h with
  | enter _ _ hm =>
    rw [Subscription.enter, entered_core]
    have hby : s.core.deliversBy thread = false := by
      rcases (hi.shape thread).of_mayCall hm with ⟨-, hby⟩ | ⟨a, ha, hc, -⟩
      · exact hby
      · exact absurd ⟨a, by rw [ha]; exact List.mem_cons_self, hc⟩ hout
    have hspec := s.core.cancel_spec thread true
    have hseen := seen_terminate hl.active hl.delivered thread true
    show Closing (s.core.cancel thread true).core
    generalize s.core.cancel thread true = en at hspec
    cases hspec with
    | delivered hd | awaitIdle hd => rw [(hi.flags.delivered hd).1] at he; cases he
    | inside h | awaitTerminal h => rw [he] at h; cases h
    | self _ ht => rw [hby] at ht; cases ht
    | drain => exact ⟨rfl, hl.delivered, hseen⟩
    | join h _ _ hm =>
      rw [hi.flags.startWorker hm h]
      exact ⟨rfl, hl.delivered, hseen⟩

/-- **The lifecycle that a sink sees is well bracketed.**  The callbacks of one
    stream are blocks, nothing follows `SubscriptionClosed`, and all blocks are
    finished by then if `close_streams_and_cancel` terminated the subscription
    outside its callbacks. -/
theorem lifecycle_bracketed {options : MediaSubscriptionOptions}
    (h : Run SubscriptionStep (Subscription.start options) t s) :
    (∀ streamId, ∃ done, Blocks done
      (atPlace StreamKey.streamId streamId (marks (startedItems t)))) ∧
    (∀ l i l', startedItems t = l ++ i :: l' → i.isClosed = true → l' = []) ∧
    ∀ t₁ s₁ thread queued s₂ t₂, Run SubscriptionStep (Subscription.start options) t₁ s₁ →
      SubscriptionStep s₁ (.entered thread (.cancel true) queued) s₂ →
      Run SubscriptionStep s₂ t₂ s → t = t₁ ++ .entered thread (.cancel true) queued :: t₂ →
      s₁.core.terminalEnqueued = false → ¬ s₁.InCallback thread →
      (∃ i ∈ startedItems t, i.isClosed = true) →
      ∀ streamId, Blocks true
        (atPlace StreamKey.streamId streamId (marks (startedItems t))) := by
  obtain ⟨hi, hl⟩ := run_lifecycle h
  refine ⟨fun streamId => ⟨_, (hl.seen.blocks streamId).1 rfl⟩, hl.last, ?_⟩
  intro t₁ s₁ thread queued s₂ t₂ h₁ hstep h₂ _ he hout hclosed streamId
  obtain ⟨hi₁, hl₁⟩ := run_lifecycle h₁
  obtain ⟨-, hclosing⟩ := h₂.keeps (P := fun s => Inv s ∧ Closing s.core)
    (fun ⟨hi, hc⟩ hs => ⟨hs.inv hi, (hs.effect hi).closing hi.flags hc⟩)
    ⟨hstep.inv hi₁, closing_of_cancel hi₁ hl₁ hout he hstep⟩
  -- the queue is empty, so the sink knows no stream any more
  have hempty : s.core.deliveredStreams.openKeys = fun _ => none := by
    have hseen := hclosing.seen
    rw [(hl.closed hclosed).2] at hseen
    exact hseen.eq_of_nil.symm
  have hblocks := (hl.seen.blocks streamId).1 rfl
  rwa [hempty] at hblocks

/-- A `Direct` subscription delivers the stream it was primed with; thread 1
    closes it, and the sink sees one finished block. -/
theorem lifecycle_bracketed_closed :
    ∃ t s, Run SubscriptionStep (Subscription.start {}) t s ∧
      (startedItems t).length = 3 ∧
      Blocks true (atPlace StreamKey.streamId 7 (marks (startedItems t))) := by
  have h := Run.one (SubscriptionStep.enter (Subscription.start {}) (.client 0)
    (.primeStreamEvent { descriptor := { key := ⟨"s", 7, 1⟩, deviceId := "d" } }) rfl)
  have h := h.snoc (@.leave _ (.client 0) _ _ _ rfl)
  have h := h.snoc (.enter _ (.client 0) .activate rfl)
  have h := h.snoc (@.drainTake _ (.client 0) _ _ _ _ _ _ _ _ rfl rfl)
  have h := h.snoc (@.finishNext _ (.client 0) _ _ _ _ _ _ _ _ rfl rfl)
  have h := h.snoc (@.drainLeave _ (.client 0) _ _ _ _ _ _ rfl rfl)
  have h' := (h.snoc (.enter _ (.client 1) (.cancel true) rfl)).onward
  have h' := h'.snoc (@.drainTake _ (.client 1) _ _ _ _ _ _ _ _ rfl rfl)
  have h' := h'.snoc (@.finishNext _ (.client 1) _ _ _ _ _ _ _ _ rfl rfl)
  have h' := h'.snoc (@.drainTake _ (.client 1) _ _ _ _ _ _ _ _ rfl rfl)
  have hall := (h.snoc (.enter _ (.client 1) (.cancel true) rfl)).trans h'
  refine ⟨_, _, hall, rfl, ?_⟩
  refine (lifecycle_bracketed hall).2.2 _ _ (.client 1) _ _ _ h (.enter _ _ _ rfl) h' rfl rfl ?_
    ⟨_, List.mem_of_getElem? (i := 2) rfl, rfl⟩ 7
  rintro ⟨a, ha, -⟩
  cases ha

end

end Axent.MediaStream
