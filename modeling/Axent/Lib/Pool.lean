/-
  Threads that run programs side by side.

  A thread (`Pool`) runs the program of a job, one section at a time.  The rules
  (`Rules`) say which jobs may run alongside each other, in which states a job may
  make a step, and what else happens to the state.

  `Rules.Sound` is the soundness of rely and guarantee: if every job keeps its contract
  when it is started, and what one job guarantees is what the jobs alongside it rely
  on, then the invariant holds in every state that a run reaches.  Some jobs may be
  critical; no two of them run at once, and what they break and restore holds whenever
  none of them runs (`PoolInv.calm`).  What each section keeps by itself needs no
  contracts (`Run.section_of`, `Run.keeps_state`).

  `Run.exec_job` lets one job run by itself.
-/
import Mathlib.Logic.Function.Basic
import Axent.Lib.Prog
import Axent.Lib.Run

namespace Axent.Lib

variable {σ ι κ : Type}

/-- The shared state, and the threads with their jobs and what is left of their programs. -/
structure Pool (σ ι κ : Type) : Type 1 where
  state : σ
  running : ℕ → Option (κ × Prog σ ι Unit) := fun _ => none

inductive PoolEvent (κ : Type) where
  | start (thread : ℕ) (job : κ)
  | step (thread : ℕ)
  | finish (thread : ℕ)
  | tick
  deriving DecidableEq

structure Rules (σ ι κ : Type) : Type 1 where
  prog : κ → Prog σ ι Unit
  alongside : κ → κ → Prop := fun _ _ => True
  may : κ → σ → Prop := fun _ _ => True
  tick : σ → σ → Prop := fun _ _ => False

namespace Pool

/-- The thread goes on with this. -/
def put (s : Pool σ ι κ) (i : ℕ) (x : Option (κ × Prog σ ι Unit)) : Pool σ ι κ :=
  { s with running := Function.update s.running i x }

/-- No thread has one of these jobs. -/
def Without (s : Pool σ ι κ) (P : κ → Prop) : Prop :=
  ∀ i job p, s.running i = some (job, p) → ¬ P job

end Pool

inductive PoolStep (R : Rules σ ι κ) : Pool σ ι κ → PoolEvent κ → Pool σ ι κ → Prop
  | start {s : Pool σ ι κ} {i : ℕ} {job : κ} (hfree : s.running i = none)
      (halong : ∀ j job' p, s.running j = some (job', p) → R.alongside job job') :
      PoolStep R s (.start i job) (s.put i (some (job, R.prog job)))
  | step {s : Pool σ ι κ} {i : ℕ} {job : κ} {p p' : Prog σ ι Unit} {x : σ}
      (hi : s.running i = some (job, p)) (hmay : R.may job s.state) (hp : p.Step s.state p' x) :
      PoolStep R s (.step i) ({ s with state := x }.put i (some (job, p')))
  | finish {s : Pool σ ι κ} {i : ℕ} {job : κ} (hi : s.running i = some (job, .ret ())) :
      PoolStep R s (.finish i) (s.put i none)
  | tick {s : Pool σ ι κ} {x : σ} (h : R.tick s.state x) : PoolStep R s .tick { s with state := x }

variable {R : Rules σ ι κ} {p : Prog σ ι Unit} {job : κ} {i : ℕ}

/-! ## Soundness -/

/-- What a section of one job does to the invariant and to the other jobs. -/
structure Harmless (c : κ → Contract σ) (I K : σ → Prop) (critical : Prop)
    (along : κ → Prop) (x x' : σ) : Prop where
  inv : I x'
  rely : ∀ job, along job → (c job).rely x x'
  calm : ¬ critical → K x → K x'

/-- The contracts fit together.  `I` holds always, and `K` when no critical job runs. -/
structure Rules.Sound (R : Rules σ ι κ) (c : κ → Contract σ) (I K : σ → Prop)
    (critical : κ → Prop) : Prop where
  symm : ∀ {a b}, R.alongside a b → R.alongside b a
  alone : ∀ {a b}, critical a → critical b → ¬ R.alongside a b
  start : ∀ job x, ¬ critical job → I x → (R.prog job).wp (c job) (fun _ _ => True) x
  startCritical : ∀ job x, critical job → I x → K x →
    (R.prog job).wp (c job) (fun _ => K) x
  guar : ∀ job x x', I x → R.may job x → (c job).guar x x' →
    Harmless c I K (critical job) (R.alongside job) x x'
  tick : ∀ x x', I x → R.tick x x' → Harmless c I K False (fun _ => True) x x'

/-- What holds along a run. -/
structure PoolInv (R : Rules σ ι κ) (c : κ → Contract σ) (I K : σ → Prop) (critical : κ → Prop)
    (s : Pool σ ι κ) : Prop where
  inv : I s.state
  along : ∀ {i j a b p q}, i ≠ j → s.running i = some (a, p) → s.running j = some (b, q) →
    R.alongside a b
  wp : ∀ {i job p}, s.running i = some (job, p) →
    p.wp (c job) (fun _ x => critical job → K x) s.state
  calm : s.Without critical → K s.state

section
variable {c : κ → Contract σ} {I K : σ → Prop} {critical : κ → Prop} {s s' : Pool σ ι κ}
  {e : PoolEvent κ}

theorem Pool.running_put (s : Pool σ ι κ) (i j : ℕ) (x : Option (κ × Prog σ ι Unit)) :
    (s.put i x).running j = if j = i then x else s.running j :=
  Function.update_apply ..

theorem Pool.running_put_self (s : Pool σ ι κ) (i : ℕ) (x : Option (κ × Prog σ ι Unit)) :
    (s.put i x).running i = x :=
  Function.update_self ..

/-- The contracts of the threads that do not move stay kept. -/
theorem PoolInv.wp_other (h : PoolInv R c I K critical s) {x : σ} {along : κ → Prop} {crit : Prop}
    (hx : Harmless c I K crit along s.state x) (hi : s.running i = some (job, p))
    (halong : along job) : p.wp (c job) (fun _ x => critical job → K x) x :=
  Prog.wp_rely (h.wp hi) (hx.rely job halong)

theorem PoolInv.start (hR : R.Sound c I K critical) (h : PoolInv R c I K critical s)
    (hfree : s.running i = none)
    (halong : ∀ j job' p, s.running j = some (job', p) → R.alongside job job') :
    PoolInv R c I K critical (s.put i (some (job, R.prog job))) where
  inv := h.inv
  along := by
    intro j k a b p q hjk hj hk
    rw [Pool.running_put] at hj hk
    split_ifs at hj hk with hji hki hki
    · exact absurd (hji.trans hki.symm) hjk
    · cases hj; exact halong _ _ _ hk
    · cases hk; exact hR.symm (halong _ _ _ hj)
    · exact h.along hjk hj hk
  wp := by
    intro j job' p hj
    rw [Pool.running_put] at hj
    split_ifs at hj with hji
    · cases hj
      by_cases hcrit : critical job
      · -- the other threads run alongside a critical job, so none of them is critical
        have hcalm : K s.state := h.calm fun k b q hk hb => hR.alone hcrit hb (halong k b q hk)
        exact Prog.wp_mono (hR.startCritical job _ hcrit h.inv hcalm) fun _ _ hK _ => hK
      · exact Prog.wp_mono (hR.start job _ hcrit h.inv) fun _ _ _ hc => absurd hc hcrit
    · exact h.wp hj
  calm := by
    intro hwithout
    refine h.calm fun j b q hj => hwithout j b q ?_
    rw [Pool.running_put, if_neg]
    · exact hj
    · rintro rfl
      rw [hfree] at hj
      cases hj

theorem PoolInv.step (hR : R.Sound c I K critical) (h : PoolInv R c I K critical s)
    {p' : Prog σ ι Unit} {x : σ} (hi : s.running i = some (job, p)) (hmay : R.may job s.state)
    (hp : p.Step s.state p' x) :
    PoolInv R c I K critical ({ s with state := x }.put i (some (job, p'))) := by
  obtain ⟨hguar, hwp⟩ := Prog.wp_step (h.wp hi) hp
  have hx : Harmless c I K (critical job) (R.alongside job) s.state x := by
    rcases hguar with hguar | rfl
    · exact hR.guar job _ _ h.inv hmay hguar
    · exact ⟨h.inv, fun job _ => (c job).refl _, fun _ hK => hK⟩
  refine ⟨hx.inv, ?_, ?_, ?_⟩
  · intro j k a b q r hjk hj hk
    rw [Pool.running_put] at hj hk
    split_ifs at hj hk with hji hki hki
    · exact absurd (hji.trans hki.symm) hjk
    · cases hj; exact h.along (hji ▸ hjk) hi hk
    · cases hk; exact h.along (hki ▸ hjk) hj hi
    · exact h.along hjk hj hk
  · intro j job' q hj
    rw [Pool.running_put] at hj
    split_ifs at hj with hji
    · cases hj; exact hwp
    · exact h.wp_other hx hj (h.along (Ne.symm hji) hi hj)
  · intro hwithout
    have hcrit : ¬ critical job := hwithout i job p' (Pool.running_put_self ..)
    refine hx.calm hcrit (h.calm fun j b q hj => ?_)
    by_cases hji : j = i
    · subst hji
      rw [hi] at hj
      cases hj
      exact hcrit
    · exact hwithout j b q (by rw [Pool.running_put, if_neg hji]; exact hj)

theorem PoolInv.finish (h : PoolInv R c I K critical s) (hi : s.running i = some (job, .ret ())) :
    PoolInv R c I K critical (s.put i none) where
  inv := h.inv
  along := by
    intro j k a b p q hjk hj hk
    rw [Pool.running_put] at hj hk
    split_ifs at hj hk
    exact h.along hjk hj hk
  wp := by
    intro j job' p hj
    rw [Pool.running_put] at hj
    split_ifs at hj
    exact h.wp hj
  calm := by
    intro hwithout
    by_cases hcrit : critical job
    · exact h.wp hi s.state ((c job).refl _) hcrit
    · refine h.calm fun j b q hj => ?_
      by_cases hji : j = i
      · subst hji
        rw [hi] at hj
        cases hj
        exact hcrit
      · exact hwithout j b q (by rw [Pool.running_put, if_neg hji]; exact hj)

theorem PoolInv.tick (h : PoolInv R c I K critical s) {x : σ}
    (hx : Harmless c I K False (fun _ => True) s.state x) :
    PoolInv R c I K critical { s with state := x } where
  inv := hx.inv
  along := h.along
  wp hi := h.wp_other hx hi trivial
  calm hwithout := hx.calm not_false (h.calm hwithout)

/-- **Soundness of rely and guarantee**: one step. -/
theorem Rules.Sound.step (hR : R.Sound c I K critical) (h : PoolInv R c I K critical s)
    (hstep : PoolStep R s e s') : PoolInv R c I K critical s' := by
  cases hstep with
  | start hfree halong => exact h.start hR hfree halong
  | step hi hmay hp => exact h.step hR hi hmay hp
  | finish hi => exact h.finish hi
  | tick htick => exact h.tick (hR.tick _ _ h.inv htick)

/-- **Soundness of rely and guarantee**: a whole run, from a state in which no thread runs. -/
theorem Rules.Sound.run (hR : R.Sound c I K critical) {x : σ} (hI : I x) (hK : K x)
    {t : List (PoolEvent κ)} (h : Run (PoolStep R) ⟨x, fun _ => none⟩ t s) :
    PoolInv R c I K critical s := by
  refine h.inv (I := fun _ s => PoolInv R c I K critical s) ?_ fun h hstep => hR.step h hstep
  constructor
  · exact hI
  · intro i j a b p q _ hi
    cases hi
  · intro i job p hi
    cases hi
  · exact fun _ => hK

end

/-! ## Sections -/

section
variable {G : κ → σ → σ → Prop} {x : σ} {s s' : Pool σ ι κ} {t : List (PoolEvent κ)}
  {e : PoolEvent κ}

/-- What a step does to the state, when all sections of a job do `G`. -/
inductive SectionOf (R : Rules σ ι κ) (G : κ → σ → σ → Prop) (s s' : Pool σ ι κ) : Prop
  | same (h : s'.state = s.state)
  | sect {i : ℕ} {job : κ} {p : Prog σ ι Unit} (hi : s.running i = some (job, p))
      (hmay : R.may job s.state) (h : G job s.state s'.state)
  | tick (h : R.tick s.state s'.state)

/-- What holds of the programs and is kept by their steps holds of what is left of them. -/
theorem Run.stage {P : κ → Prog σ ι Unit → Prop} (hprog : ∀ job, P job (R.prog job))
    (hkeep : ∀ job p y p' y', P job p → p.Step y p' y' → P job p')
    (h : Run (PoolStep R) ⟨x, fun _ => none⟩ t s) (hi : s.running i = some (job, p)) : P job p := by
  revert i job p
  refine h.keeps (P := fun s => ∀ {i job p}, s.running i = some (job, p) → P job p) ?_ ?_
  · intro s e s' ih hstep i job p hi
    cases hstep with
    | start =>
      rw [Pool.running_put] at hi
      split_ifs at hi
      · cases hi; exact hprog _
      · exact ih hi
    | step hj _ hp =>
      rw [Pool.running_put] at hi
      split_ifs at hi
      · cases hi; exact hkeep _ _ _ _ _ (ih hj) hp
      · exact ih hi
    | finish =>
      rw [Pool.running_put] at hi
      split_ifs at hi
      exact ih hi
    | tick => exact ih hi
  · intro i job p hi
    cases hi

/-- The programs that are left still do `G`. -/
theorem Run.every (hG : ∀ job, (R.prog job).Every (G job))
    (h : Run (PoolStep R) ⟨x, fun _ => none⟩ t s) (hi : s.running i = some (job, p)) :
    p.Every (G job) :=
  h.stage (P := fun job p => p.Every (G job)) hG (fun _ _ _ _ _ hp hstep => (hp.step hstep).2) hi

theorem Run.section_of (hG : ∀ job, (R.prog job).Every (G job))
    (h : Run (PoolStep R) ⟨x, fun _ => none⟩ t s) (hstep : PoolStep R s e s') :
    SectionOf R G s s' := by
  cases hstep with
  | start => exact .same rfl
  | step hi hmay hp =>
    rcases ((h.every hG hi).step hp).1 with hsect | hsame
    · exact .sect hi hmay hsect
    · exact .same hsame
  | finish => exact .same rfl
  | tick htick => exact .tick htick

/-- What every section keeps holds in every state that a run reaches. -/
theorem Run.keeps_state {P : σ → Prop} (hG : ∀ job, (R.prog job).Every (G job))
    (h : Run (PoolStep R) ⟨x, fun _ => none⟩ t s) (hx : P x)
    (hsect : ∀ job y y', R.may job y → G job y y' → P y → P y')
    (htick : ∀ y y', R.tick y y' → P y → P y') : P s.state := by
  induction h with
  | nil => exact hx
  | snoc hrun hstep ih =>
    cases hrun.section_of hG hstep with
    | same heq => rw [heq]; exact ih
    | sect _ hmay hsection => exact hsect _ _ _ hmay hsection ih
    | tick ht => exact htick _ _ ht ih

end

/-! ## One thread by itself -/

theorem PoolStep.step_put {s : Pool σ ι κ} {p' : Prog σ ι Unit} {x : σ} (hmay : R.may job s.state)
    (hp : p.Step s.state p' x) :
    PoolStep R (s.put i (some (job, p))) (.step i)
      ({ s with state := x }.put i (some (job, p'))) := by
  have hstep := PoolStep.step (R := R) (Pool.running_put_self s i (some (job, p))) hmay hp
  simp only [Pool.put, Function.update_idem] at hstep
  exact hstep

theorem PoolStep.finish_put {s : Pool σ ι κ} :
    PoolStep R (s.put i (some (job, .ret ()))) (.finish i) (s.put i none) := by
  have hstep := PoolStep.finish (R := R) (Pool.running_put_self s i (some (job, .ret ())))
  simp only [Pool.put, Function.update_idem] at hstep
  exact hstep

theorem Pool.put_none {s : Pool σ ι κ} (h : s.running i = none) : s.put i none = s := by
  rw [Pool.put, ← h, Function.update_eq_self]

/-- A thread runs by itself, on these inputs, as long as its job may make steps; the steps
    are those that were checked. -/
theorem Run.exec_checks {ok : σ → σ → Bool} (s : Pool σ ι κ) (i : ℕ) (job : κ) (p : Prog σ ι Unit)
    (is : List ι) (hmay : ∀ x, R.may job x) (hrefl : ∀ x, ok x x) (hok : p.checks ok is s.state) :
    ∃ n, Run (fun s e s' => PoolStep R s e s' ∧ ok s.state s'.state) (s.put i (some (job, p)))
      (List.replicate n (.step i))
      ({ s with state := (p.exec is s.state).2 }.put i (some (job, (p.exec is s.state).1))) := by
  induction p generalizing is s with
  | ret a => exact ⟨0, .nil⟩
  | sect f k ih =>
    obtain ⟨hf, hk⟩ := Bool.and_eq_true_iff.1 hok
    obtain ⟨n, hn⟩ := ih (f s.state).1 { s with state := (f s.state).2 } is hk
    exact ⟨n + 1, (Run.one ⟨.step_put (hmay _) (.sect f k s.state), hf⟩).trans hn⟩
  | recv k ih =>
    cases is with
    | nil => exact ⟨0, .nil⟩
    | cons a is =>
      obtain ⟨n, hn⟩ := ih a s is hok
      exact ⟨n + 1, (Run.one ⟨.step_put (hmay _) (.recv k a s.state), hrefl _⟩).trans hn⟩
  | halt => exact ⟨0, .nil⟩

theorem Run.exec_thread (s : Pool σ ι κ) (i : ℕ) (job : κ) (p : Prog σ ι Unit) (is : List ι)
    (hmay : ∀ x, R.may job x) :
    ∃ n, Run (PoolStep R) (s.put i (some (job, p))) (List.replicate n (.step i))
      ({ s with state := (p.exec is s.state).2 }.put i (some (job, (p.exec is s.state).1))) := by
  obtain ⟨n, hrun⟩ := Run.exec_checks (R := R) s i job p is hmay (fun _ => rfl)
    (p.checks_true is s.state)
  exact ⟨n, hrun.mono fun h => h.1⟩

/-- A thread runs by itself to its end. -/
theorem Run.exec_finish (s : Pool σ ι κ) (i : ℕ) (job : κ) (p : Prog σ ι Unit) (is : List ι)
    (hmay : ∀ x, R.may job x) (hdone : (p.exec is s.state).1.isDone) :
    ∃ n, Run (PoolStep R) (s.put i (some (job, p))) (List.replicate n (.step i) ++ [.finish i])
      ({ s with state := (p.exec is s.state).2 }.put i none) := by
  obtain ⟨n, hrun⟩ := Run.exec_thread (R := R) s i job p is hmay
  rw [Prog.eq_ret_of_isDone hdone] at hrun
  exact ⟨n, hrun.snoc .finish_put⟩

/-- A job runs by itself to its end. -/
theorem Run.exec_job (s : Pool σ ι κ) (i : ℕ) (job : κ) (is : List ι) (hfree : s.running i = none)
    (hmay : ∀ x, R.may job x)
    (halong : ∀ j job' p, s.running j = some (job', p) → R.alongside job job')
    (hdone : ((R.prog job).exec is s.state).1.isDone) :
    ∃ n, Run (PoolStep R) s (.start i job :: (List.replicate n (.step i) ++ [.finish i]))
      { s with state := ((R.prog job).exec is s.state).2 } := by
  obtain ⟨n, hrun⟩ := Run.exec_finish (R := R) s i job (R.prog job) is hmay hdone
  rw [Pool.put_none] at hrun
  · exact ⟨n, (Run.one (.start hfree halong)).trans hrun⟩
  · exact hfree

end Axent.Lib
