/-
  Runs of a system that moves by labelled steps.

  `Run step s₀ t s`: from `s₀`, the events `t` happen in this order and lead to
  `s`.  A property of a state together with the events so far holds along all
  runs once it holds at the start and every step keeps it (`Run.inv`); what a
  step never undoes holds from there on (`Run.keeps`); and a run can be cut at
  any of its events (`Run.cut`), in particular after the first and before the
  last one (`Run.first`, `Run.last`).  A system simulates another one along a
  relation when it can answer every step by a run (`Run.simulate`).
-/
import Mathlib.Data.List.Induction

namespace Axent.Lib

variable {σ ε : Type*}

/-- The runs of `step` from `s₀`, with their events. -/
inductive Run (step : σ → ε → σ → Prop) (s₀ : σ) : List ε → σ → Prop
  | nil : Run step s₀ [] s₀
  | snoc {t : List ε} {s s' : σ} {e : ε} (h : Run step s₀ t s) (he : step s e s') :
      Run step s₀ (t ++ [e]) s'

namespace Run
variable {step : σ → ε → σ → Prop} {s₀ s s' : σ} {t t' : List ε}

theorem one {e : ε} (h : step s e s') : Run step s [e] s' := .snoc .nil h

/-- Where a run ends, another one begins. -/
theorem onward (_ : Run step s₀ t s) : Run step s [] s := .nil

theorem trans (h : Run step s₀ t s) (h' : Run step s t' s') : Run step s₀ (t ++ t') s' := by
  induction h' with
  | nil => rw [List.append_nil]; exact h
  | snoc _ he ih => rw [← List.append_assoc]; exact .snoc ih he

/-- A run is a run of every system that has its steps. -/
theorem mono {step' : σ → ε → σ → Prop} (h : Run step s₀ t s)
    (hstep : ∀ {s e s'}, step s e s' → step' s e s') : Run step' s₀ t s := by
  induction h with
  | nil => exact .nil
  | snoc _ he ih => exact .snoc ih (hstep he)

/-- A run is a run of every system that has the steps of its events. -/
theorem mono_on {step' : σ → ε → σ → Prop} (h : Run step s₀ t s)
    (hstep : ∀ e ∈ t, ∀ s s', step s e s' → step' s e s') : Run step' s₀ t s := by
  induction h with
  | nil => exact .nil
  | snoc _ he ih =>
    simp only [List.mem_append, List.mem_singleton] at hstep
    exact .snoc (ih fun e' he' => hstep e' (.inl he')) (hstep _ (.inr rfl) _ _ he)

/-- **Invariants of a run**, which may speak about the events so far. -/
theorem inv {I : List ε → σ → Prop} (h : Run step s₀ t s) (h₀ : I [] s₀)
    (hstep : ∀ {t s e s'}, I t s → step s e s' → I (t ++ [e]) s') : I t s := by
  induction h with
  | nil => exact h₀
  | snoc _ he ih => exact hstep ih he

/-- What every step keeps stays true. -/
theorem keeps {P : σ → Prop} (h : Run step s₀ t s)
    (hstep : ∀ {s e s'}, P s → step s e s' → P s') (h₀ : P s₀) : P s := by
  induction h with
  | nil => exact h₀
  | snoc _ he ih => exact hstep ih he

/-- What every step keeps, one event apart, stays true without that event. -/
theorem keeps_without {P : σ → Prop} {x : ε} (h : Run step s₀ t s) (hx : x ∉ t)
    (hstep : ∀ {s e s'}, P s → step s e s' → e ≠ x → P s') (h₀ : P s₀) : P s := by
  induction h with
  | nil => exact h₀
  | snoc _ he ih =>
    rw [List.mem_append, List.mem_singleton, not_or] at hx
    exact hstep (ih hx.1) he (Ne.symm hx.2)

/-- **Simulation**: a system that answers every step by a run, keeping `R`,
    answers every run. -/
theorem simulate {σ' ε' : Type*} {step' : σ' → ε' → σ' → Prop} {s₀' : σ'} {R : σ → σ' → Prop}
    {f : ε → List ε'} (h : Run step s₀ t s) (h₀ : R s₀ s₀')
    (hstep : ∀ {s e s₁ s'}, R s s' → step s e s₁ → ∃ s₁', Run step' s' (f e) s₁' ∧ R s₁ s₁') :
    ∃ s', Run step' s₀' (t.flatMap f) s' ∧ R s s' := by
  induction h with
  | nil => exact ⟨s₀', .nil, h₀⟩
  | snoc _ he ih =>
    obtain ⟨s', hrun, hR⟩ := ih
    obtain ⟨s₁', hrun', hR'⟩ := hstep hR he
    refine ⟨s₁', ?_, hR'⟩
    rw [List.flatMap_append, List.flatMap_singleton]
    exact hrun.trans hrun'

theorem eq_of_nil (h : Run step s₀ [] s) : s = s₀ := by
  generalize hl : ([] : List ε) = l at h
  cases h with
  | nil => rfl
  | snoc => simp at hl

theorem last {e : ε} (h : Run step s₀ (t ++ [e]) s') : ∃ s, Run step s₀ t s ∧ step s e s' := by
  generalize hl : t ++ [e] = l at h
  cases h with
  | nil => simp at hl
  | snoc h he =>
    obtain ⟨rfl, he₁⟩ := List.append_inj' hl rfl
    obtain rfl := List.singleton_inj.1 he₁
    exact ⟨_, h, he⟩

theorem cut : ∀ {t' : List ε}, Run step s₀ (t ++ t') s →
    ∃ s₁, Run step s₀ t s₁ ∧ Run step s₁ t' s := by
  intro t'
  induction t' using List.reverseRecOn generalizing s with
  | nil => intro h; exact ⟨s, by rwa [List.append_nil] at h, .nil⟩
  | append_singleton t' e ih =>
    intro h
    rw [← List.append_assoc] at h
    obtain ⟨s₁, h, he⟩ := h.last
    obtain ⟨s₂, h₁, h₂⟩ := ih h
    exact ⟨s₂, h₁, .snoc h₂ he⟩

theorem first {e : ε} (h : Run step s₀ (e :: t) s') : ∃ s, step s₀ e s ∧ Run step s t s' := by
  obtain ⟨s, h₁, h₂⟩ := Run.cut (t := [e]) h
  obtain ⟨s₁, hnil, he⟩ := Run.last (t := []) h₁
  rw [hnil.eq_of_nil] at he
  exact ⟨s, he, h₂⟩

end Run

/-- What is read off the events of a run, one event later. -/
theorem filterMap_concat {α : Type*} (f : ε → Option α) (t : List ε) (e : ε) :
    (t ++ [e]).filterMap f = t.filterMap f ++ (f e).toList := by
  cases hf : f e <;> simp [hf]

end Axent.Lib
