/-
  Gates: systems that take things in, hand some of them out, and can be shut.

  `Gate step puts hands shuts le` is what a system owes to be one: it says what
  is inside a state, where that comes from, and that nothing is handed out of a
  state that is shut.  On its way a thing may change, as `le` allows.  A
  property that `le` keeps and that holds of all things put in holds of all
  that is inside and of all that is handed out (`Gate.inside`, `Gate.handed`).
-/
import Mathlib.Tactic.TypeStar

namespace Axent.Lib

variable {σ ε α : Type*}

/-- The system `step` is a gate: its events put things in (`puts`), hand them
    out (`hands`), or shut it, depending on where they lead (`shuts`). -/
structure Gate (step : σ → ε → σ → Prop) (puts hands : ε → α → Prop) (shuts : ε → σ → Prop)
    (le : α → α → Prop) where
  /-- the states that can be reached -/
  Ok : σ → Prop
  /-- `Holds s a`: the thing `a` is inside -/
  Holds : σ → α → Prop
  Shut : σ → Prop
  ok : ∀ {s e s'}, Ok s → step s e s' → Ok s'
  origin : ∀ {s e s' b}, Ok s → step s e s' → Holds s' b → ∃ a, (Holds s a ∨ puts e a) ∧ le a b
  source : ∀ {s e s' b}, Ok s → step s e s' → hands e b → Holds s b
  barrier : ∀ {s e s' b}, Ok s → step s e s' → hands e b → ¬ Shut s
  shut : ∀ {s e s'}, Ok s → step s e s' → Shut s ∨ shuts e s' → Shut s'

namespace Gate
variable {step : σ → ε → σ → Prop} {puts hands : ε → α → Prop} {shuts : ε → σ → Prop}
  {le : α → α → Prop} {P : α → Prop} {s s' : σ} {e : ε}

/-- What holds of all that is put in holds of all that is inside. -/
theorem inside (g : Gate step puts hands shuts le) (hle : ∀ {a b}, le a b → P a → P b)
    (hok : g.Ok s) (h : step s e s') (hs : ∀ a, g.Holds s a → P a) (hp : ∀ a, puts e a → P a) :
    ∀ a, g.Holds s' a → P a := by
  intro b hb
  obtain ⟨a, ha, hab⟩ := g.origin hok h hb
  exact hle hab (ha.elim (hs a) (hp a))

theorem handed (g : Gate step puts hands shuts le) (hok : g.Ok s) (h : step s e s')
    (hs : ∀ a, g.Holds s a → P a) {b : α} (hb : hands e b) : P b ∧ ¬ g.Shut s :=
  ⟨hs b (g.source hok h hb), g.barrier hok h hb⟩

end Gate

end Axent.Lib
