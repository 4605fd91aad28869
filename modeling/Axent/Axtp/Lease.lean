/-
  The lease that the video parameters of a leaf `AxtpAdapter` name
  (`src/adapters/axtp_adapter.cpp`).

  `bind_media_delivery_session` and `unbind_media_delivery_session` change the
  binding of the device and then, under another lock, the parameters.
  `advance_video_reconfigure` copies the parameters, calls the peer, and writes the
  copy back; what happened to them meanwhile is lost (`lease_lost_in_reconfiguration`).

  `lease_named`: if a copy is written back only while it names the lease that the
  parameters name, and a binding only while it is still in force, then the parameters
  name the bound lease whenever no bind or unbind is going on.
-/
import Axent.Axtp.VideoParams

namespace Axent.Axtp

open Lib

variable {cfg : MediaConfig}

/-- The parameters name the bound lease, or none if none is bound. -/
def MediaState.LeaseNamed (s : MediaState) : Prop := s.params.state.sessionId = s.bound.getD ""

instance (s : MediaState) : Decidable s.LeaseNamed := inferInstanceAs (Decidable (_ = _))

/-- What is written about the lease fits what is there: a copy names the same lease, and the
    lease that is named is bound, the one that is not named any more is not. -/
def MediaState.Fits (s : MediaState) : Entry → Prop
  | .restored copy => copy.sessionId = s.params.state.sessionId
  | .named id => s.bound = some id
  | .unnamed id => s.bound ≠ some id
  | _ => True

/-- The steps with an open session in which everything that is written fits. -/
structure LeaseStep (cfg : MediaConfig) (s : Media) (e : PoolEvent Job) (s' : Media) : Prop where
  step : PoolStep (mediaRules cfg) s e s'
  inSession : ∀ i job, e = .start i job → job.ofSession = false
  fits : ∀ entry, s'.state.log = s.state.log ++ [entry] → s.state.Fits entry

/-- The job is about the lease or the parameters. -/
def Job.ofParams : Job → Bool
  | advance | setParams _ | bind _ | unbind _ => true
  | _ => false

/-! ## What is left of a bind or unbind -/

/-- A bind, an unbind and the other jobs between their sections. -/
def Job.Stage (cfg : MediaConfig) : Job → MediaProg Unit → Prop
  | bind id, p => p = bindMediaDeliverySession id ∨ p = nameSession id ∨ p = .ret ()
  | unbind id, p => p = unbindMediaDeliverySession id ∨ p = unnameSession id ∨ p = .ret ()
  | job, p => MediaProg.Of cfg job p

/-- The first section of an unbind returns whether the lease was bound, the second nothing. -/
theorem unbind_ne_unnameSession (id id' : String) :
    unbindMediaDeliverySession id ≠ unnameSession id' := by
  intro heq
  injection heq with hresult
  have hone : Subsingleton Bool := hresult ▸ inferInstanceAs (Subsingleton Unit)
  exact absurd (hone.elim true false) (by decide)

theorem Job.stage_prog (job : Job) : job.Stage cfg (job.prog cfg) := by
  cases job with
  | bind => exact .inl rfl
  | unbind => exact .inl rfl
  | _ => exact Job.every_section cfg _

/-- What a step of a job does to the lease. -/
inductive LeaseMove (cfg : MediaConfig) (s : MediaState) :
    Job → MediaProg Unit → MediaProg Unit → MediaState → Prop
  | bound (id : String) :
      LeaseMove cfg s (.bind id) (bindMediaDeliverySession id) (nameSession id)
        { s with bound := some id }
  | named (id : String) {s' : MediaState} (hlog : s'.log = s.log ++ [.named id])
      (hname : s'.params.state.sessionId = id) (hbound : s'.bound = s.bound) :
      LeaseMove cfg s (.bind id) (nameSession id) (.ret ()) s'
  | unbound (id : String) (h : s.bound = some id) :
      LeaseMove cfg s (.unbind id) (unbindMediaDeliverySession id) (unnameSession id)
        { s with bound := none }
  | notBound (id : String) (h : s.bound ≠ some id) :
      LeaseMove cfg s (.unbind id) (unbindMediaDeliverySession id) (.ret ()) s
  | unnamed (id : String) {s' : MediaState} (hlog : s'.log = s.log ++ [.unnamed id])
      (h : s.params.state.sessionId = id) (hname : s'.params.state.sessionId = "")
      (hbound : s'.bound = s.bound) :
      LeaseMove cfg s (.unbind id) (unnameSession id) (.ret ()) s'
  | notNamed (id : String) (h : s.params.state.sessionId ≠ id) :
      LeaseMove cfg s (.unbind id) (unnameSession id) (.ret ()) s
  | other {job : Job} {p p' : MediaProg Unit} {s' : MediaState}
      (hbind : ∀ id, job ≠ .bind id) (hunbind : ∀ id, job ≠ .unbind id)
      (h : JobSection cfg s job s' ∨ s' = s) :
      LeaseMove cfg s job p p' s'

theorem Job.Stage.move {job : Job} {p p' : MediaProg Unit} {s s' : MediaState}
    (h : job.Stage cfg p) (hstep : p.Step s p' s') :
    LeaseMove cfg s job p p' s' ∧ job.Stage cfg p' := by
  cases job with
  | bind id =>
    rcases h with rfl | rfl | rfl
    · cases hstep
      exact ⟨.bound id, .inr (.inl rfl)⟩
    · cases hstep
      exact ⟨.named id rfl rfl rfl, .inr (.inr rfl)⟩
    · cases hstep
  | unbind id =>
    rcases h with rfl | rfl | rfl
    · cases hstep
      by_cases hbound : s.bound = some id
      · simp only [hbound, if_true]
        exact ⟨.unbound id hbound, .inr (.inl rfl)⟩
      · simp only [hbound, if_false]
        exact ⟨.notBound id hbound, .inr (.inr rfl)⟩
    · cases hstep
      by_cases hname : s.params.state.sessionId = id
      · simp only [hname, if_true]
        exact ⟨.unnamed id rfl hname rfl rfl, .inr (.inr rfl)⟩
      · simp only [hname, if_false]
        exact ⟨.notNamed id hname, .inr (.inr rfl)⟩
    · cases hstep
  | _ =>
    obtain ⟨hsect, hrest⟩ := Prog.Every.step h hstep
    exact ⟨.other (by rintro _ ⟨⟩) (by rintro _ ⟨⟩) hsect, hrest⟩

theorem Params.sessionId_decide {p : Params} {r : ParamsRequest}
    {video audio : Option StreamDescriptor} {sessionActive : Bool} :
    (p.decide cfg r video audio sessionActive).2.state.sessionId = p.state.sessionId := by
  cases hacc : (p.decide cfg r video audio sessionActive).1.accepted with
  | false => rw [Params.decide_refused hacc]
  | true => obtain ⟨-, ⟨-, heq⟩ | ⟨-, heq⟩⟩ := Params.decide_accepted hacc <;> rw [heq] <;> rfl

/-- The other jobs do not touch the lease, if what they write fits. -/
theorem JobSection.lease_same {s s' : MediaState} {job : Job} (h : JobSection cfg s job s')
    (hsession : job.ofSession = false) (hbind : ∀ id, job ≠ .bind id)
    (hunbind : ∀ id, job ≠ .unbind id)
    (hfits : ∀ entry, s'.log = s.log ++ [entry] → s.Fits entry) :
    s'.params.state.sessionId = s.params.state.sessionId ∧ s'.bound = s.bound := by
  cases h with
  | media h => exact ⟨h.calm.sessionId, h.calm.bound⟩
  | mediaOfOperation h => exact ⟨h.calm.sessionId, h.calm.bound⟩
  | answered => exact ⟨Params.sessionId_decide, rfl⟩
  | bound id => exact absurd rfl (hbind id)
  | named id => exact absurd rfl (hbind id)
  | unbound id => exact absurd rfl (hunbind id)
  | unnamed id => exact absurd rfl (hunbind id)
  | restored copy => exact ⟨hfits _ rfl, rfl⟩
  | disconnected hjob => simp [hsession] at hjob
  | sessionClosed hjob => simp [hsession] at hjob
  | streamsCleared hjob => simp [hsession] at hjob
  | diagnosticsCleared hjob => simp [hsession] at hjob
  | paramsCleared hjob => simp [hsession] at hjob
  | ready hjob => simp [hsession] at hjob
  | paramsInit hjob =>
    have := Job.ofSession_of_opens hjob
    simp [hsession] at this
  | sessionOpened hjob => simp [hsession] at hjob
  | _ => exact ⟨rfl, rfl⟩

/-! ## Runs -/

/-- The parameters name the lease, or a bind or unbind is on its way. -/
structure LeaseInv (cfg : MediaConfig) (s : Media) : Prop where
  inSession : ∀ i job p, s.running i = some (job, p) → job.ofSession = false
  stage : ∀ i job p, s.running i = some (job, p) → job.Stage cfg p
  named : s.state.LeaseNamed ∨ (∃ i id, s.running i = some (.bind id, nameSession id)) ∨
    (s.state.bound = none ∧ ∃ i, s.running i =
      some (.unbind s.state.params.state.sessionId, unnameSession s.state.params.state.sessionId))

/-- What one thread goes on with changes the others in nothing. -/
theorem LeaseInv.put {s : Media} (h : LeaseInv cfg s) {i : ℕ} {x : MediaState}
    {r : Option (Job × MediaProg Unit)}
    (hr : ∀ job p, r = some (job, p) → job.ofSession = false ∧ job.Stage cfg p)
    (hnamed : x.LeaseNamed ∨ (∃ id, r = some (.bind id, nameSession id)) ∨
      (∃ j id, j ≠ i ∧ s.running j = some (.bind id, nameSession id)) ∨
      (x.bound = none ∧ (r = some (.unbind x.params.state.sessionId,
          unnameSession x.params.state.sessionId) ∨
        ∃ j, j ≠ i ∧ s.running j = some (.unbind x.params.state.sessionId,
          unnameSession x.params.state.sessionId)))) :
    LeaseInv cfg ({ s with state := x }.put i r) where
  inSession j job p hj := by
    rw [Pool.running_put] at hj
    split_ifs at hj
    · exact (hr job p hj).1
    · exact h.inSession j job p hj
  stage j job p hj := by
    rw [Pool.running_put] at hj
    split_ifs at hj
    · exact (hr job p hj).2
    · exact h.stage j job p hj
  named := by
    have here : ∀ q, r = some q → ({ s with state := x }.put i r).running i = some q := by
      intro q hq
      rw [Pool.running_put, if_pos rfl, hq]
    have there : ∀ j q, j ≠ i → s.running j = some q →
        ({ s with state := x }.put i r).running j = some q := by
      intro j q hji hj
      rw [Pool.running_put, if_neg hji]
      exact hj
    rcases hnamed with hx | ⟨id, hid⟩ | ⟨j, id, hji, hj⟩ | ⟨hx, hid | ⟨j, hji, hj⟩⟩
    · exact .inl hx
    · exact .inr (.inl ⟨i, id, here _ hid⟩)
    · exact .inr (.inl ⟨j, id, there j _ hji hj⟩)
    · exact .inr (.inr ⟨hx, i, here _ hid⟩)
    · exact .inr (.inr ⟨hx, j, there j _ hji hj⟩)

/-- A thread that is not in the middle of a bind or unbind goes on, and the lease is the same. -/
theorem LeaseInv.put_same {s : Media} (h : LeaseInv cfg s) {i : ℕ} {x : MediaState}
    {r : Option (Job × MediaProg Unit)}
    (hr : ∀ job p, r = some (job, p) → job.ofSession = false ∧ job.Stage cfg p)
    (hbind : ∀ id, s.running i ≠ some (.bind id, nameSession id))
    (hunbind : s.running i ≠ some (.unbind s.state.params.state.sessionId,
      unnameSession s.state.params.state.sessionId))
    (hname : x.params.state.sessionId = s.state.params.state.sessionId)
    (hbound : x.bound = s.state.bound) : LeaseInv cfg ({ s with state := x }.put i r) := by
  refine h.put hr ?_
  rw [MediaState.LeaseNamed, hname, hbound]
  rcases h.named with hs | ⟨j, id, hj⟩ | ⟨hs, j, hj⟩
  · exact .inl hs
  · exact .inr (.inr (.inl ⟨j, id, fun hji => hbind id (hji ▸ hj), hj⟩))
  · exact .inr (.inr (.inr ⟨hs, .inr ⟨j, fun hji => hunbind (hji ▸ hj), hj⟩⟩))

theorem LeaseInv.step {s s' : Media} {e : PoolEvent Job} (h : LeaseInv cfg s)
    (hstep : LeaseStep cfg s e s') : LeaseInv cfg s' := by
  obtain ⟨hpool, hsession, hfits⟩ := hstep
  cases hpool with
  | @start i job hfree halong =>
    refine h.put_same (x := s.state) ?_ (by simp [hfree]) (by simp [hfree]) rfl rfl
    rintro job' p ⟨⟩
    exact ⟨hsession i job rfl, job.stage_prog⟩
  | finish hi =>
    exact h.put_same (x := s.state) nofun (by rw [hi]; nofun) (by rw [hi]; nofun) rfl rfl
  | tick htick =>
    obtain ⟨_, _, _, _, rfl⟩ := htick
    exact ⟨h.inSession, h.stage, h.named⟩
  | @step i job p p' x hi hmay hp =>
    obtain ⟨hmove, hstage⟩ := (h.stage i job p hi).move hp
    have hr : ∀ job' q, some (job, p') = some (job', q) →
        job'.ofSession = false ∧ job'.Stage cfg q := by
      rintro job' q ⟨⟩
      exact ⟨h.inSession i job p hi, hstage⟩
    cases hmove with
    | bound id => exact h.put hr (.inr (.inl ⟨id, rfl⟩))
    | named id hlog hname hbound =>
      have hfit : s.state.bound = some id := hfits _ hlog
      refine h.put hr (.inl ?_)
      rw [MediaState.LeaseNamed, hname, hbound, hfit, Option.getD_some]
    | unbound id hid =>
      rcases h.named with hs | ⟨j, id', hj⟩ | ⟨hs, -⟩
      · rw [MediaState.LeaseNamed, hid, Option.getD_some] at hs
        exact h.put hr (.inr (.inr (.inr ⟨rfl, .inl (by rw [hs])⟩)))
      · have hji : j ≠ i := by
          rintro rfl
          simp [hi] at hj
        exact h.put hr (.inr (.inr (.inl ⟨j, id', hji, hj⟩)))
      · simp [hid] at hs
    | notBound id =>
      refine h.put_same hr (by simp [hi]) ?_ rfl rfl
      rw [hi]
      intro heq
      injection heq with heq
      exact unbind_ne_unnameSession _ _ (Prod.mk.inj heq).2
    | unnamed id hlog hid hname hbound =>
      have hfit : s.state.bound ≠ some id := hfits _ hlog
      rcases h.named with hs | ⟨j, id', hj⟩ | ⟨hs, -⟩
      · -- the lease that is not named any more was named, but is not bound
        refine h.put hr (.inl ?_)
        rw [MediaState.LeaseNamed, hname, hbound]
        cases hs' : s.state.bound with
        | none => rfl
        | some id' =>
          rw [MediaState.LeaseNamed, hs', hid] at hs
          exact absurd (hs ▸ hs') hfit
      · have hji : j ≠ i := by
          rintro rfl
          simp [hi] at hj
        exact h.put hr (.inr (.inr (.inl ⟨j, id', hji, hj⟩)))
      · refine h.put hr (.inl ?_)
        rw [MediaState.LeaseNamed, hname, hbound, hs, Option.getD_none]
    | notNamed id hid =>
      refine h.put_same hr (by simp [hi]) ?_ rfl rfl
      rw [hi]
      rintro ⟨⟩
      exact hid rfl
    | other hbind hunbind hsect =>
      have hlease : x.params.state.sessionId = s.state.params.state.sessionId ∧
          x.bound = s.state.bound := by
        rcases hsect with hsect | rfl
        · exact hsect.lease_same (h.inSession i job p hi) hbind hunbind hfits
        · exact ⟨rfl, rfl⟩
      refine h.put_same hr ?_ ?_ hlease.1 hlease.2
      · rw [hi]
        rintro id ⟨⟩
        exact hbind id rfl
      · rw [hi]
        rintro ⟨⟩
        exact hunbind _ rfl

/-- **The parameters name the lease**, whenever no call about it is in progress, if what is
    written about it always fits. -/
theorem lease_named {x : MediaState} {t : List (PoolEvent Job)} {s : Media} (hx : x.LeaseNamed)
    (hrun : Run (LeaseStep cfg) ⟨x, fun _ => none⟩ t s) (hquiet : s.Without (·.ofParams)) :
    s.state.LeaseNamed := by
  have hinv : LeaseInv cfg s := by
    refine hrun.keeps (P := LeaseInv cfg) (fun h hstep => h.step hstep) ⟨?_, ?_, .inl hx⟩
    · intro i job p hi
      cases hi
    · intro i job p hi
      cases hi
  rcases hinv.named with hs | ⟨i, id, hi⟩ | ⟨-, i, hi⟩
  · exact hs
  · exact absurd rfl (hquiet _ _ _ hi)
  · exact absurd rfl (hquiet _ _ _ hi)

/-- The peer tells that the source can stream. -/
def capableReply : Reply :=
  { body := some (.ofList [("supported", .boolean true),
      ("openModes", .array [.string "receiver_pull"])]) }

/-- The peer opens a stream. -/
def openedReply (streamId : ℕ) (codec : String) : Reply :=
  { body := some (.ofList [("streamId", .numberUnsigned (.ofNat streamId)),
      ("codec", .string codec)]) }

/-- The peer has closed a stream. -/
def closedReply : Reply := { body := some (.ofList [("state", .string "closed")]) }

/-- The lease `s1` is bound, and video is open. -/
def playing : MediaState :=
  (Job.openSession true .initialOpen).after {}
    [{}, capableReply, openedReply 7 "h264", failedReply] ((Job.bind "s1").after {} [] {})

/-- The rate is to be changed. -/
def changing : MediaState := (Job.setParams { frameRate := some 30 }).after {} [] playing

/-- The stream is being closed for it, and the lease `s2` takes over meanwhile. -/
def handedOver : MediaState :=
  (Job.bind "s2").after {} [] ((Job.unbind "s1").after {} [] (Job.advance.after {} [] changing))

/-- The step of the reconfiguration, from where it waits for the peer. -/
def restOfAdvance : MediaProg Unit := ((Job.advance.prog {}).exec [] changing).1

theorem run_playing : ∃ t, MediaRun {} {} t ⟨playing, fun _ => none⟩ := by
  obtain ⟨t, hbind⟩ :
      ∃ t, MediaRun {} {} t ⟨(Job.bind "s1").after {} [] {}, fun _ => none⟩ :=
    Job.run_after (by decide +kernel)
  obtain ⟨t', hopen⟩ :
      ∃ t, MediaRun {} ((Job.bind "s1").after {} [] {}) t ⟨playing, fun _ => none⟩ :=
    Job.run_after (by decide +kernel)
  exact ⟨_, hbind.trans hopen⟩

instance (s : MediaState) (entry : Entry) : Decidable (s.Fits entry) := by
  cases entry <;> unfold MediaState.Fits <;> infer_instance

/-- What a section has logged fits. -/
def fitting (s s' : MediaState) : Bool :=
  match s'.log.drop s.log.length with
  | [entry] => s.Fits entry
  | _ => true

/-- A job of the open session runs by itself, and what it logs fits. -/
theorem Job.run_fitting (job : Job) (replies : List Reply) {x : MediaState}
    (hjob : job.ofSession = false) (hends : job.ends cfg replies x)
    (hfits : (job.prog cfg).checks fitting replies x) :
    ∃ t, Run (LeaseStep cfg) ⟨x, fun _ => none⟩ t ⟨job.after cfg replies x, fun _ => none⟩ := by
  have hsame (y : MediaState) (entry : Entry) : y.log ≠ y.log ++ [entry] := by simp
  obtain ⟨n, hrun⟩ := Run.exec_checks (R := mediaRules cfg) ⟨x, fun _ => none⟩ 0 job _ replies
    (fun _ => trivial) (fun y => by simp [fitting]) hfits
  rw [Prog.eq_ret_of_isDone hends] at hrun
  have hstart : LeaseStep cfg ⟨x, fun _ => none⟩ (.start 0 job) _ :=
    ⟨.start rfl nofun, by rintro _ _ ⟨⟩; exact hjob, fun entry h => absurd h (hsame x entry)⟩
  have hsteps : Run (LeaseStep cfg) _ _ _ := hrun.mono_on fun e he s s' hs => by
    obtain rfl := List.eq_of_mem_replicate he
    refine ⟨hs.1, by rintro _ _ ⟨⟩, fun entry hlog => ?_⟩
    have hfit := hs.2
    rw [fitting, hlog, List.drop_left] at hfit
    exact of_decide_eq_true hfit
  have hended := ((Run.one hstart).trans hsteps).snoc
    ⟨.finish_put, by rintro _ _ ⟨⟩, fun entry h => absurd h (hsame _ entry)⟩
  rw [Pool.put_none rfl] at hended
  exact ⟨_, hended⟩

/-- The rate of a stream is changed: the stream is closed and opened again, and the copy of the
    parameters that is written back names the lease. -/
theorem lease_named_playing :
    ∃ t s, Run (LeaseStep {}) ⟨playing, fun _ => none⟩ t s ∧
      s.state.log.any (fun | .restored copy => copy.sessionId = "s1" | _ => false) ∧
      s.state.LeaseNamed := by
  obtain ⟨t, hset⟩ : ∃ t, Run (LeaseStep {}) ⟨playing, fun _ => none⟩ t
      ⟨changing, fun _ => none⟩ := Job.run_fitting (.setParams { frameRate := some 30 }) [] rfl
        (by decide +kernel) (by decide +kernel)
  obtain ⟨t', hadvance⟩ := @Job.run_fitting {} .advance [closedReply, openedReply 8 "h264"]
    changing rfl (by decide +kernel) (by decide +kernel)
  have hrun := hset.trans hadvance
  exact ⟨_, _, hrun, by decide +kernel,
    lease_named (x := playing) (by decide +kernel) hrun nofun⟩

/-- A new lease takes over while a stream is closed, and the parameters name the old one. -/
theorem lease_lost_in_reconfiguration :
    ∃ x t s, (∃ t₀, MediaRun {} {} t₀ ⟨x, fun _ => none⟩) ∧ x.diagnostics.sessionActive ∧
      x.LeaseNamed ∧ MediaRun {} x t s ∧ (∀ i job, .start i job ∈ t → job.ofSession = false) ∧
      (∀ i, s.running i = none) ∧ ¬ s.state.LeaseNamed := by
  obtain ⟨n₁, hset⟩ := Job.run_beside {} (.setParams { frameRate := some 30 }) []
    ⟨playing, fun _ => none⟩ 0 rfl rfl (by decide +kernel)
  have hstart : PoolStep (mediaRules {}) ⟨changing, fun _ => none⟩ (.start 0 .advance) _ :=
    .start rfl nofun
  obtain ⟨n₂, hclose⟩ := Run.exec_thread (R := mediaRules {}) ⟨changing, fun _ => none⟩ 0 .advance
    (Job.advance.prog {}) [] fun _ => trivial
  obtain ⟨n₃, hunbind⟩ := Job.run_beside {} (.unbind "s1") []
    (Pool.put ⟨Job.advance.after {} [] changing, fun _ => none⟩ 0 (some (.advance, restOfAdvance)))
    1 rfl rfl (by decide +kernel)
  obtain ⟨n₄, hbind⟩ := Job.run_beside {} (.bind "s2") []
    (Pool.put ⟨(Job.unbind "s1").after {} [] (Job.advance.after {} [] changing), fun _ => none⟩ 0
      (some (.advance, restOfAdvance))) 1 rfl rfl (by decide +kernel)
  obtain ⟨n₅, hreopen⟩ := Run.exec_finish (R := mediaRules {}) ⟨handedOver, fun _ => none⟩ 0
    .advance restOfAdvance [closedReply, openedReply 8 "h264"] (fun _ => trivial)
    (by decide +kernel)
  refine ⟨playing, _, _, run_playing, by decide +kernel, by decide +kernel,
    ((((hset.snoc hstart).trans hclose).trans hunbind).trans hbind).trans hreopen, ?_, ?_, ?_⟩
  · simp only [Job.trace, List.mem_append, List.mem_cons, List.mem_replicate, PoolEvent.start.injEq,
      reduceCtorEq, and_false, List.not_mem_nil, or_false]
    rintro i job ((((⟨-, rfl⟩ | ⟨-, rfl⟩) | ⟨-, rfl⟩) | ⟨-, rfl⟩)) <;> rfl
  · intro i
    simp [Pool.put]
  · decide +kernel

end Axent.Axtp
