/-
  Programs of threads that share a state.

  A program (`Prog`) is a tree of locked sections, each of which changes the
  shared state and returns a value, and of inputs from outside.  A section is one
  step; what the other threads do comes between the steps (`Prog.Step`).  A
  program can be run by itself on a list of inputs (`Prog.exec`).

  The logic is that of rely and guarantee.  `wp c p Q s`: if the program `p`
  starts in the state `s` and the other threads only do what `c` relies on, then
  every section does what `c` guarantees, and `Q` holds if the program comes to
  its end.  `wp_step` is what a system that runs the program needs.  What holds of
  every section of a program by itself is said by `Every`.

  `Triple c P p Q` says it from every state with `P`.  Its rules compose programs
  (`Triple.bind`); an assertion that stands between two sections
  has to be stable under what the others do.

  Unbounded loops are cut off by `halt`, a program that does not go on.
-/
import Mathlib.Logic.Relation

namespace Axent.Lib

/-- A program over the state `σ`, with inputs of type `ι` and results of type `α`. -/
inductive Prog (σ ι α : Type) : Type 1
  | ret (a : α)
  | sect {β : Type} (f : σ → β × σ) (k : β → Prog σ ι α)
  | recv (k : ι → Prog σ ι α)
  | halt

namespace Prog
variable {σ ι α β : Type}

protected def bind : Prog σ ι α → (α → Prog σ ι β) → Prog σ ι β
  | ret a, k => k a
  | sect f j, k => sect f fun b => (j b).bind k
  | recv j, k => recv fun i => (j i).bind k
  | halt, _ => halt

instance : Monad (Prog σ ι) where
  pure := ret
  bind := Prog.bind

/-- A section that returns a value and changes the state. -/
def act (f : σ → β × σ) : Prog σ ι β := sect f ret

/-- A section that only reads. -/
def read (f : σ → β) : Prog σ ι β := act fun s => (f s, s)

/-- A section that only writes. -/
def write (f : σ → σ) : Prog σ ι Unit := act fun s => ((), f s)

/-- An input. -/
def input : Prog σ ι ι := recv ret

/-- The program is run under a condition. -/
def when (c : Prop) [Decidable c] (p : Prog σ ι Unit) : Prog σ ι Unit := if c then p else pure ()

/-- The program is run on every element of a list. -/
def forEach (p : β → Prog σ ι Unit) : List β → Prog σ ι Unit
  | [] => pure ()
  | x :: xs => p x >>= fun _ => forEach p xs

theorem bind_eq (p : Prog σ ι α) (k : α → Prog σ ι β) : p >>= k = p.bind k := rfl

/-- One step of a program. -/
inductive Step : Prog σ ι α → σ → Prog σ ι α → σ → Prop
  | sect {β : Type} (f : σ → β × σ) (k : β → Prog σ ι α) (s : σ) :
      Step (sect f k) s (k (f s).1) (f s).2
  | recv (k : ι → Prog σ ι α) (i : ι) (s : σ) : Step (recv k) s (k i) s

/-! ## Running a program by itself -/

/-- The program has come to its end. -/
def isDone : Prog σ ι α → Bool
  | ret _ => true
  | _ => false

theorem eq_ret_of_isDone {p : Prog σ ι Unit} (h : p.isDone) : p = ret () := by
  cases p with
  | ret => rfl
  | _ => cases h

/-- The program runs on the inputs, until it waits for another one. -/
def exec : Prog σ ι α → List ι → σ → Prog σ ι α × σ
  | ret a, _, s => (ret a, s)
  | sect f k, is, s => exec (k (f s).1) is (f s).2
  | recv k, [], s => (recv k, s)
  | recv k, i :: is, s => exec (k i) is s
  | halt, _, s => (halt, s)

/-- Every section of this execution is checked. -/
def checks (ok : σ → σ → Bool) : Prog σ ι α → List ι → σ → Bool
  | sect f k, is, s => ok s (f s).2 && checks ok (k (f s).1) is (f s).2
  | recv k, i :: is, s => checks ok (k i) is s
  | _, _, _ => true

theorem checks_true (p : Prog σ ι α) (is : List ι) (s : σ) : p.checks (fun _ _ => true) is s := by
  induction p generalizing is s with
  | ret | halt => rfl
  | sect f k ih => exact ih _ _ _
  | recv k ih =>
    cases is with
    | nil => rfl
    | cons i is => exact ih i is s

end Prog

/-! ## Rely and guarantee -/

/-- What a program relies on from the others, and what it guarantees. -/
structure Contract (σ : Type) where
  rely : σ → σ → Prop
  guar : σ → σ → Prop
  refl : ∀ s, rely s s
  trans : ∀ {s₁ s₂ s₃}, rely s₁ s₂ → rely s₂ s₃ → rely s₁ s₃

/-- The others keep `P`. -/
def Contract.Stable {σ : Type} (c : Contract σ) (P : σ → Prop) : Prop :=
  ∀ s s', P s → c.rely s s' → P s'

namespace Prog
variable {σ ι α β : Type} {c : Contract σ} {p : Prog σ ι α} {Q Q' : α → σ → Prop} {s s' : σ}
  {k : α → Prog σ ι β}

/-- The program keeps the contract, and ends with `Q` if it ends. -/
def wp (c : Contract σ) : Prog σ ι α → (α → σ → Prop) → σ → Prop
  | ret a, Q, s => ∀ s', c.rely s s' → Q a s'
  | sect f k, Q, s => ∀ s', c.rely s s' → c.guar s' (f s').2 ∧ wp c (k (f s').1) Q (f s').2
  | recv k, Q, s => ∀ i, wp c (k i) Q s
  | halt, _, _ => True

theorem wp_rely (h : wp c p Q s) (hs : c.rely s s') : wp c p Q s' := by
  induction p with
  | ret => exact fun s₁ hs₁ => h s₁ (c.trans hs hs₁)
  | sect => exact fun s₁ hs₁ => h s₁ (c.trans hs hs₁)
  | recv k ih => exact fun i => ih i (h i)
  | halt => trivial

theorem wp_mono (h : wp c p Q s) (hQ : ∀ a s, Q a s → Q' a s) : wp c p Q' s := by
  induction p generalizing s with
  | ret => exact fun s₁ hs₁ => hQ _ _ (h s₁ hs₁)
  | sect f k ih => exact fun s₁ hs₁ => ⟨(h s₁ hs₁).1, ih _ (h s₁ hs₁).2⟩
  | recv k ih => exact fun i => ih i (h i)
  | halt => trivial

theorem wp_bind {Q : β → σ → Prop} : wp c (p >>= k) Q s ↔ wp c p (fun a s => wp c (k a) Q s) s := by
  rw [bind_eq]
  induction p generalizing s with
  | ret a => exact ⟨fun h s₁ hs₁ => wp_rely h hs₁, fun h => h s (c.refl s)⟩
  | sect f j ih =>
    exact forall₂_congr fun s₁ _ => and_congr_right fun _ => ih _
  | recv j ih => exact forall_congr' fun i => ih i
  | halt => exact Iff.rfl

/-- **One step** of a program that keeps its contract. -/
theorem wp_step {p' : Prog σ ι α} (h : wp c p Q s) (hstep : Step p s p' s') :
    (c.guar s s' ∨ s' = s) ∧ wp c p' Q s' := by
  cases hstep with
  | sect f k =>
    obtain ⟨hguar, hrest⟩ := h s (c.refl s)
    exact ⟨.inl hguar, hrest⟩
  | recv k i => exact ⟨.inr rfl, h i⟩

/-! ## What holds of every section -/

/-- Every section of the program, taken by itself, does `G`. -/
def Every (G : σ → σ → Prop) : Prog σ ι α → Prop
  | ret _ => True
  | sect f k => (∀ s, G s (f s).2) ∧ ∀ b, Every G (k b)
  | recv k => ∀ i, Every G (k i)
  | halt => True

variable {G G' : σ → σ → Prop}

theorem Every.bind (hp : Every G p) (hk : ∀ a, Every G (k a)) : Every G (p >>= k) := by
  rw [bind_eq]
  induction p with
  | ret a => exact hk a
  | sect f j ih => exact ⟨hp.1, fun b => ih b (hp.2 b)⟩
  | recv j ih => exact fun i => ih i (hp i)
  | halt => trivial

theorem Every.pure (a : α) : Every G (Pure.pure a : Prog σ ι α) := trivial

theorem Every.halt : Every G (Prog.halt : Prog σ ι α) := trivial

theorem Every.input : Every G (Prog.input : Prog σ ι ι) := fun _ => trivial

theorem Every.ite {c : Prop} [Decidable c] {q : Prog σ ι α} (hp : Every G p) (hq : Every G q) :
    Every G (if c then p else q) := by
  split
  · exact hp
  · exact hq

theorem Every.when {c : Prop} [Decidable c] {p : Prog σ ι Unit} (hp : Every G p) :
    Every G (Prog.when c p) :=
  hp.ite (.pure ())

theorem Every.act {f : σ → α × σ} (h : ∀ s, G s (f s).2) : Every G (Prog.act f : Prog σ ι α) :=
  ⟨h, fun _ => trivial⟩

theorem Every.forEach {p : β → Prog σ ι Unit} (h : ∀ x, Every G (p x)) (xs : List β) :
    Every G (Prog.forEach p xs) := by
  induction xs with
  | nil => trivial
  | cons x xs ih => exact (h x).bind fun _ => ih

theorem Every.mono (h : Every G p) (hG : ∀ s s', G s s' → G' s s') : Every G' p := by
  induction p with
  | ret => trivial
  | sect f k ih => exact ⟨fun s => hG _ _ (h.1 s), fun b => ih b (h.2 b)⟩
  | recv k ih => exact fun i => ih i (h i)
  | halt => trivial

theorem Every.step {p' : Prog σ ι α} (h : Every G p) (hstep : Step p s p' s') :
    (G s s' ∨ s' = s) ∧ Every G p' := by
  cases hstep with
  | sect f k => exact ⟨.inl (h.1 s), h.2 _⟩
  | recv k i => exact ⟨.inr rfl, h i⟩

/-- Every result of the program is in `R`, whatever happens. -/
def Returns (R : α → Prop) : Prog σ ι α → Prop
  | ret a => R a
  | sect _ k => ∀ b, Returns R (k b)
  | recv k => ∀ i, Returns R (k i)
  | halt => True

theorem Returns.after {R : β → Prop} (hk : ∀ a, Returns R (k a)) : Returns R (p >>= k) := by
  rw [bind_eq]
  induction p with
  | ret a => exact hk a
  | sect f j ih => exact fun b => ih b
  | recv j ih => exact fun i => ih i
  | halt => trivial

theorem Returns.mono {R R' : α → Prop} (h : Returns R p) (hR : ∀ a, R a → R' a) :
    Returns R' p := by
  induction p with
  | ret a => exact hR a h
  | sect f k ih => exact fun b => ih b (h b)
  | recv k ih => exact fun i => ih i (h i)
  | halt => trivial

/-! ## Triples -/

/-- From `P`, the program keeps its contract and ends with `Q` if it ends. -/
def Triple (c : Contract σ) (P : σ → Prop) (p : Prog σ ι α) (Q : α → σ → Prop) : Prop :=
  ∀ s, P s → wp c p Q s

namespace Triple
variable {P P' : σ → Prop}

theorem bind {R : β → σ → Prop} (hp : Triple c P p Q) (hk : ∀ a, Triple c (Q a) (k a) R) :
    Triple c P (p >>= k) R :=
  fun s hs => wp_bind.mpr (wp_mono (hp s hs) fun a s' => hk a s')

theorem mono (hp : Triple c P p Q) (hP : ∀ s, P' s → P s) (hQ : ∀ a s, Q a s → Q' a s) :
    Triple c P' p Q' :=
  fun s hs => wp_mono (hp s (hP s hs)) hQ

theorem ret {a : α} (hstable : c.Stable (Q a)) : Triple c (Q a) (pure a : Prog σ ι α) Q :=
  fun s hs s' hs' => hstable s s' hs hs'

theorem halt : Triple c P (Prog.halt : Prog σ ι α) Q := fun _ _ => trivial

theorem act {f : σ → α × σ} (hP : c.Stable P) (hQ : ∀ a, c.Stable (Q a))
    (h : ∀ s, P s → c.guar s (f s).2 ∧ Q (f s).1 (f s).2) :
    Triple c P (Prog.act f : Prog σ ι α) Q := by
  intro s hs s' hs'
  obtain ⟨hguar, hpost⟩ := h s' (hP s s' hs hs')
  exact ⟨hguar, fun s₁ hs₁ => hQ _ _ _ hpost hs₁⟩

theorem ite {b : Prop} [Decidable b] {p q : Prog σ ι α} (hp : b → Triple c P p Q)
    (hq : ¬ b → Triple c P q Q) : Triple c P (if b then p else q) Q := by
  split
  · next hb => exact hp hb
  · next hb => exact hq hb

theorem read {f : σ → α} {R : α → Prop} (hguar : ∀ s, c.guar s s) (hP : c.Stable P)
    (h : ∀ s, P s → R (f s)) :
    Triple c P (Prog.read f : Prog σ ι α) fun a s => R a ∧ P s :=
  act hP (fun _ s s' hs hrely => ⟨hs.1, hP s s' hs.2 hrely⟩) fun s hs => ⟨hguar s, h s hs, hs⟩

theorem assume {R : Prop} (h : R → Triple c P p Q) : Triple c (fun s => R ∧ P s) p Q :=
  fun s hs => h hs.1 s hs.2

/-- What is known of the result whatever happens is known at the end. -/
theorem returns {R : α → Prop} (h : Triple c P p Q) (hR : Returns R p) :
    Triple c P p fun a s => R a ∧ Q a s := by
  intro s hs
  have hwp := h s hs
  clear h hs
  induction p generalizing s with
  | ret a => exact fun s₁ hs₁ => ⟨hR, hwp s₁ hs₁⟩
  | sect f k ih => exact fun s₁ hs₁ => ⟨(hwp s₁ hs₁).1, ih _ (hR _) _ (hwp s₁ hs₁).2⟩
  | recv k ih => exact fun i => ih i (hR i) s (hwp i)
  | halt => trivial

/-- A property that the sections and the others keep holds at the end. -/
theorem every (h : Every G p) (hG : ∀ s s', P s → G s s' → c.guar s s' ∧ P s')
    (hP : c.Stable P) : Triple c P p fun _ => P := by
  intro s hs
  induction p generalizing s with
  | ret => exact fun s₁ hs₁ => hP _ _ hs hs₁
  | sect f k ih =>
    intro s₁ hs₁
    obtain ⟨hguar, hP₁⟩ := hG _ _ (hP _ _ hs hs₁) (h.1 s₁)
    exact ⟨hguar, ih _ (h.2 _) _ hP₁⟩
  | recv k ih => exact fun i => ih i (h i) s hs
  | halt => trivial

end Triple

end Prog

end Axent.Lib
