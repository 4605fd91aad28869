/-
  What a program does by itself, among threads that may do anything.

  The acts of a program (`Prog.Acts`) are its sections, each with the state that it finds,
  and its inputs.  Between two acts the others may change the state at will.

  `Told c P p Q`: from a history of acts with `P`, the program keeps its promise `c`, about
  the history after every act and about the one when it breaks off, and `Q` holds when it
  comes to its end (`Told.after`, `Told.failed`, `Told.done`).  Its rules compose programs.
  What all acts of a program have in common is said by `Only`.

  A `Ledger` cuts a history at its requests: each answer is kept with what follows it until
  the next request.
-/
import Axent.Lib.Prog
import Mathlib.Data.List.TakeWhile

namespace Axent.Lib

/-- A section from one state to another, or an input. -/
inductive Act (σ ι : Type) where
  | sect (s s' : σ)
  | recv (i : ι)

/-- What a program promises of the history: after every act, and when it breaks off. -/
structure Promise (σ ι : Type) where
  after : List (Act σ ι) → Prop
  failed : List (Act σ ι) → Prop

namespace Prog
variable {σ ι α β : Type} {c : Promise σ ι} {p q : Prog σ ι α} {A : Act σ ι → Prop}
  {l : List (Act σ ι)}

inductive Acts : Prog σ ι α → List (Act σ ι) → Prog σ ι α → Prop
  | nil {p : Prog σ ι α} : Acts p [] p
  | sect {β : Type} {f : σ → β × σ} {k : β → Prog σ ι α} {l : List (Act σ ι)} {q : Prog σ ι α}
      (s : σ) (h : Acts (k (f s).1) l q) : Acts (sect f k) (.sect s (f s).2 :: l) q
  | recv {k : ι → Prog σ ι α} {l : List (Act σ ι)} {q : Prog σ ι α} (i : ι) (h : Acts (k i) l q) :
      Acts (recv k) (.recv i :: l) q

/-- The program keeps its promise, and ends with `Q` if it ends. -/
def Tells (c : Promise σ ι) (Q : α → List (Act σ ι) → Prop) :
    Prog σ ι α → List (Act σ ι) → Prop
  | ret a, h => Q a h
  | sect f k, h => ∀ s,
      c.after (h ++ [.sect s (f s).2]) ∧ Tells c Q (k (f s).1) (h ++ [.sect s (f s).2])
  | recv k, h => ∀ i, c.after (h ++ [.recv i]) ∧ Tells c Q (k i) (h ++ [.recv i])
  | halt, h => c.failed h

def Told (c : Promise σ ι) (P : List (Act σ ι) → Prop) (p : Prog σ ι α)
    (Q : α → List (Act σ ι) → Prop) : Prop :=
  ∀ h, P h → Tells c Q p h

/-- Every act of the program is in `A`, and it does not break off. -/
def Only (A : Act σ ι → Prop) : Prog σ ι α → Prop
  | ret _ => True
  | sect f k => ∀ s, A (.sect s (f s).2) ∧ Only A (k (f s).1)
  | recv k => ∀ i, A (.recv i) ∧ Only A (k i)
  | halt => False

/-- The acts of the program when it runs by itself on the inputs. -/
def acts : Prog σ ι α → List ι → σ → List (Act σ ι)
  | ret _, _, _ => []
  | sect f k, is, s => .sect s (f s).2 :: acts (k (f s).1) is (f s).2
  | recv _, [], _ => []
  | recv k, i :: is, s => .recv i :: acts (k i) is s
  | halt, _, _ => []

/-! ## Acts -/

theorem Acts.of_exec (p : Prog σ ι α) (is : List ι) (s : σ) :
    Acts p (p.acts is s) (p.exec is s).1 := by
  induction p generalizing is s with
  | ret => exact .nil
  | sect f k ih => exact .sect s (ih (f s).1 is (f s).2)
  | recv k ih =>
    cases is with
    | nil => exact .nil
    | cons i is => exact .recv i (ih i is s)
  | halt => exact .nil

theorem Acts.cut {l' : List (Act σ ι)} (h : Acts p (l ++ l') q) : ∃ q', Acts p l q' := by
  induction l generalizing p with
  | nil => exact ⟨p, .nil⟩
  | cons a l ih =>
    cases h with
    | sect s h =>
      obtain ⟨q', hq'⟩ := ih h
      exact ⟨q', .sect s hq'⟩
    | recv i h =>
      obtain ⟨q', hq'⟩ := ih h
      exact ⟨q', .recv i hq'⟩

theorem Tells.acts {Q : α → List (Act σ ι) → Prop} {h : List (Act σ ι)} (ht : Tells c Q p h)
    (hacts : Acts p l q) : (l ≠ [] → c.after (h ++ l)) ∧ Tells c Q q (h ++ l) := by
  induction hacts generalizing h with
  | nil => exact ⟨fun hne => absurd rfl hne, by rwa [List.append_nil]⟩
  | @sect _ _ _ l _ x _ ih | @recv _ l _ x _ ih =>
    obtain ⟨hi, hrest⟩ := ht x
    obtain ⟨hi', hq⟩ := ih hrest
    rw [List.append_assoc] at hi' hq
    refine ⟨fun _ => ?_, hq⟩
    cases l with
    | nil => exact hi
    | cons a l => exact hi' (List.cons_ne_nil _ _)

namespace Told
variable {P P' : List (Act σ ι) → Prop} {Q Q' : α → List (Act σ ι) → Prop}

/-- **After every act** of the program. -/
theorem after (ht : Told c P p Q) (hP : P []) {rest : List (Act σ ι)} {a : Act σ ι}
    (hacts : Acts p (l ++ a :: rest) q) : c.after (l ++ [a]) := by
  rw [List.append_cons] at hacts
  obtain ⟨q', hcut⟩ := hacts.cut
  exact ((ht [] hP).acts hcut).1 (List.concat_ne_nil a l)

/-- **When the program breaks off.** -/
theorem failed (ht : Told c P p Q) (hP : P []) (hacts : Acts p l .halt) : c.failed l :=
  ((ht [] hP).acts hacts).2

/-- **At the end** of the program. -/
theorem done (ht : Told c P p Q) (hP : P []) {a : α} (hacts : Acts p l (.ret a)) : Q a l :=
  ((ht [] hP).acts hacts).2

/-! ## Rules -/

theorem bind {k : α → Prog σ ι β} {R : β → List (Act σ ι) → Prop} (hp : Told c P p Q)
    (hk : ∀ a, Told c (Q a) (k a) R) : Told c P (p >>= k) R := by
  intro h hP
  have ht := hp h hP
  rw [bind_eq]
  clear hp hP
  induction p generalizing h with
  | ret a => exact hk a h ht
  | sect f j ih => exact fun s => ⟨(ht s).1, ih _ _ (ht s).2⟩
  | recv j ih => exact fun i => ⟨(ht i).1, ih _ _ (ht i).2⟩
  | halt => exact ht

theorem mono (hp : Told c P p Q) (hP : ∀ h, P' h → P h) (hQ : ∀ a h, Q a h → Q' a h) :
    Told c P' p Q' := by
  intro h hh
  have ht := hp h (hP h hh)
  clear hp hh
  induction p generalizing h with
  | ret a => exact hQ a h ht
  | sect f j ih => exact fun s => ⟨(ht s).1, ih _ _ (ht s).2⟩
  | recv j ih => exact fun i => ⟨(ht i).1, ih _ _ (ht i).2⟩
  | halt => exact ht

theorem ret {a : α} (h : ∀ l, P l → Q a l) : Told c P (pure a : Prog σ ι α) Q := h

theorem halt (h : ∀ l, P l → c.failed l) : Told c P (Prog.halt : Prog σ ι α) Q := h

theorem act {f : σ → α × σ} (h : ∀ l s, P l →
      c.after (l ++ [.sect s (f s).2]) ∧ Q (f s).1 (l ++ [.sect s (f s).2])) :
    Told c P (Prog.act f : Prog σ ι α) Q :=
  fun l hl s => h l s hl

theorem input {Q : ι → List (Act σ ι) → Prop}
    (h : ∀ l i, P l → c.after (l ++ [.recv i]) ∧ Q i (l ++ [.recv i])) :
    Told c P (Prog.input : Prog σ ι ι) Q :=
  fun l hl i => h l i hl

theorem ite {b : Prop} [Decidable b] {p q : Prog σ ι α} (hp : b → Told c P p Q)
    (hq : ¬ b → Told c P q Q) : Told c P (if b then p else q) Q := by
  split
  · next hb => exact hp hb
  · next hb => exact hq hb

theorem only (hp : Only A p) (hA : ∀ h a, A a → P h → c.after (h ++ [a]) ∧ P (h ++ [a])) :
    Told c P p fun _ => P := by
  intro h hP
  induction p generalizing h with
  | ret => exact hP
  | sect f k ih =>
    intro s
    obtain ⟨hi, hP'⟩ := hA h _ (hp s).1 hP
    exact ⟨hi, ih _ (hp s).2 _ hP'⟩
  | recv k ih =>
    intro i
    obtain ⟨hi, hP'⟩ := hA h _ (hp i).1 hP
    exact ⟨hi, ih _ (hp i).2 _ hP'⟩
  | halt => exact hp.elim

end Told

namespace Only

theorem bind {k : α → Prog σ ι β} (hp : Only A p) (hk : ∀ a, Only A (k a)) :
    Only A (p >>= k) := by
  rw [bind_eq]
  induction p with
  | ret a => exact hk a
  | sect f j ih => exact fun s => ⟨(hp s).1, ih _ (hp s).2⟩
  | recv j ih => exact fun i => ⟨(hp i).1, ih _ (hp i).2⟩
  | halt => exact hp

theorem pure (a : α) : Only A (Pure.pure a : Prog σ ι α) := trivial

theorem act {f : σ → α × σ} (h : ∀ s, A (.sect s (f s).2)) : Only A (Prog.act f : Prog σ ι α) :=
  fun s => ⟨h s, trivial⟩

theorem ite {b : Prop} [Decidable b] {q : Prog σ ι α} (hp : Only A p) (hq : Only A q) :
    Only A (if b then p else q) := by
  split
  · exact hp
  · exact hq

theorem forEach {p : β → Prog σ ι Unit} (h : ∀ x, Only A (p x)) (xs : List β) :
    Only A (Prog.forEach p xs) := by
  induction xs with
  | nil => trivial
  | cons x xs ih => exact (h x).bind fun _ => ih

end Only

end Prog

/-! ## Requests and answers -/

section
variable {A R : Type} (asks : A → Bool) (answer : A → Option R)

/-- The answers of a history, the last one apart.  After a request there is none that still
    collects. -/
structure Ledger (A R : Type) where
  asked : Bool := false
  current : Option (R × List A) := none
  past : List (R × List A) := []

/-- One more act.  The answer to a request comes right after it. -/
def Ledger.next (t : Ledger A R) (a : A) : Ledger A R :=
  if asks a then ⟨true, none, t.past ++ t.current.toList⟩
  else match t.asked, answer a with
    | true, some r => ⟨false, some (r, []), t.past ++ t.current.toList⟩
    | _, _ => ⟨false, t.current.map fun x => (x.1, x.2 ++ [a]), t.past⟩

def ledger (l : List A) : Ledger A R := l.foldl (Ledger.next asks answer) {}

/-- All answers. -/
def Ledger.answers (t : Ledger A R) : List (R × List A) := t.past ++ t.current.toList

variable {asks answer}

theorem ledger_snoc (l : List A) (a : A) :
    ledger asks answer (l ++ [a]) = (ledger asks answer l).next asks answer a := by
  rw [ledger, List.foldl_append]
  rfl

namespace Ledger
variable {t : Ledger A R} {a : A} {r : R}

theorem answers_asked (b : Bool) (past : List (R × List A)) :
    (⟨b, none, past⟩ : Ledger A R).answers = past :=
  List.append_nil past

theorem next_ask (h : asks a = true) :
    t.next asks answer a = ⟨true, none, t.answers⟩ := by
  rw [next, if_pos h]
  rfl

theorem next_answer (h : asks a = false) (hasked : t.asked = true) (hr : answer a = some r) :
    t.next asks answer a = ⟨false, some (r, []), t.answers⟩ := by
  rw [next, h, hasked, hr]
  rfl

theorem next_other (h : asks a = false) (hother : t.asked = false ∨ answer a = none) :
    t.next asks answer a = ⟨false, t.current.map fun x => (x.1, x.2 ++ [a]), t.past⟩ := by
  rw [next, h]
  rcases hother with hasked | hnone
  · rw [hasked]
    rfl
  · rw [hnone]
    cases t.asked <;> rfl

/-- Without a request the last answer collects everything. -/
theorem foldl_others {acc : List A} (l : List A) (hl : ∀ a ∈ l, asks a = false)
    (past : List (R × List A)) :
    l.foldl (next asks answer) ⟨false, some (r, acc), past⟩ =
      ⟨false, some (r, acc ++ l), past⟩ := by
  induction l generalizing acc with
  | nil => rw [List.append_nil]; rfl
  | cons a l ih =>
    rw [List.forall_mem_cons] at hl
    rw [List.foldl_cons, next_other hl.1 (.inl rfl), Option.map_some, ih hl.2, List.append_assoc]
    rfl

theorem mem_past_foldl {x : R × List A} (l : List A) (h : x ∈ t.past) :
    x ∈ (l.foldl (next asks answer) t).past := by
  induction l generalizing t with
  | nil => exact h
  | cons a l ih =>
    refine ih ?_
    unfold next
    split
    · exact List.mem_append_left _ h
    · split
      · exact List.mem_append_left _ h
      · exact h

/-- The answer that still collects takes what comes until the next request. -/
theorem mem_answers_foldl {acc : List A} (l : List A) (hasked : t.asked = false)
    (h : t.current = some (r, acc)) :
    (r, acc ++ l.takeWhile fun a => !asks a) ∈ (l.foldl (next asks answer) t).answers := by
  induction l generalizing t acc with
  | nil =>
    rw [List.takeWhile_nil, List.append_nil]
    exact List.mem_append_right _ (by rw [List.foldl_nil, h]; exact List.mem_singleton_self _)
  | cons a l ih =>
    rw [List.foldl_cons]
    cases ha : asks a with
    | true =>
      rw [List.takeWhile_cons_of_neg (by simp [ha]), List.append_nil, next_ask ha]
      refine List.mem_append_left _ (mem_past_foldl l ?_)
      exact List.mem_append_right _ (by rw [h]; exact List.mem_singleton_self _)
    | false =>
      rw [List.takeWhile_cons_of_pos (by simp [ha]), next_other ha (.inl hasked), h]
      have hmem := @ih ⟨false, some (r, acc ++ [a]), t.past⟩ (acc ++ [a]) rfl rfl
      rwa [List.append_assoc] at hmem

end Ledger

/-- **An answer is in the ledger** with what follows it until the next request. -/
theorem mem_ledger_answers {a b : A} {r : R} (l₁ l₂ : List A) (ha : asks a = true)
    (hb : asks b = false) (hr : answer b = some r) :
    (r, l₂.takeWhile fun x => !asks x) ∈ (ledger asks answer (l₁ ++ a :: b :: l₂)).answers := by
  rw [ledger, List.foldl_append, List.foldl_cons, List.foldl_cons, Ledger.next_ask ha,
    Ledger.next_answer hb rfl hr]
  exact Ledger.mem_answers_foldl (t := ⟨false, some (r, []), _⟩) l₂ rfl rfl

end

end Axent.Lib
