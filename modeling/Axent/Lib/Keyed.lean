/-
  Tables of keyed records, kept in a list.

  A table is searched from the front, changed in place at the first record
  that matches, and extended at the back.  With distinct keys the record of a
  key is unique, so the table is a partial map and these operations are
  described by what they do to membership.

  * `updateFirst p f l` changes the first record satisfying `p`;
    `mem_updateFirst` is its meaning on a table with distinct keys;
  * `scanUnique p l` is the search that stops at a second match, and
    `scanUnique_eq` reduces it to the sublist of all matches.
-/
import Mathlib.Data.List.Nodup
import Mathlib.Data.List.Basic

namespace Axent.Lib

variable {α κ : Type*} {l : List α} {p : α → Bool} {a : α} {f : α → α}

/-! ## Changing the first match -/

/-- Apply `f` to the first element satisfying `p`. -/
def updateFirst (p : α → Bool) (f : α → α) : List α → List α
  | [] => []
  | a :: l => if p a then f a :: l else a :: updateFirst p f l

theorem map_updateFirst {β : Type*} (g : α → β) (hg : ∀ a, p a = true → g (f a) = g a)
    (l : List α) : (updateFirst p f l).map g = l.map g := by
  induction l with
  | nil => rfl
  | cons a l ih =>
    unfold updateFirst
    split_ifs with h
    · simp only [List.map_cons, hg a h]
    · simp only [List.map_cons, ih]

theorem filterMap_updateFirst {β : Type*} (g : α → Option β)
    (hg : ∀ a, p a = true → g (f a) = g a) (l : List α) :
    (updateFirst p f l).filterMap g = l.filterMap g := by
  simpa [List.filterMap_map] using congrArg (List.filterMap id) (map_updateFirst g hg l)

theorem updateFirst_eq_self (hf : ∀ a ∈ l, p a = true → f a = a) : updateFirst p f l = l := by
  induction l with
  | nil => rfl
  | cons a l ih =>
    unfold updateFirst
    split_ifs with h
    · rw [hf a (List.mem_cons_self ..) h]
    · rw [ih fun b hb => hf b (List.mem_cons_of_mem _ hb)]

theorem mem_of_mem_updateFirst (h : a ∈ updateFirst p f l) : a ∈ l ∨ ∃ b ∈ l, a = f b := by
  induction l with
  | nil => exact .inl h
  | cons b l ih =>
    unfold updateFirst at h
    split_ifs at h
    · rcases List.mem_cons.1 h with rfl | h
      · exact .inr ⟨b, List.mem_cons_self, rfl⟩
      · exact .inl (List.mem_cons_of_mem _ h)
    · rcases List.mem_cons.1 h with rfl | h
      · exact .inl List.mem_cons_self
      · rcases ih h with h | ⟨b', hb', hf⟩
        · exact .inl (List.mem_cons_of_mem _ h)
        · exact .inr ⟨b', List.mem_cons_of_mem _ hb', hf⟩

/-- A filter that rejects the changed element before and after does not see
    the change. -/
theorem filter_updateFirst {q : α → Bool} (hq : ∀ a, p a = true → q a = false ∧ q (f a) = false)
    (l : List α) : (updateFirst p f l).filter q = l.filter q := by
  induction l with
  | nil => rfl
  | cons a l ih =>
    unfold updateFirst
    split_ifs with h
    · obtain ⟨h₁, h₂⟩ := hq a h
      simp [h₁, h₂]
    · simp only [List.filter_cons, ih]

/-! ## Positions -/

theorem getElem?_concat_cases {b : α} {k : ℕ} (h : (l ++ [a])[k]? = some b) :
    l[k]? = some b ∨ k = l.length ∧ b = a := by
  rcases Nat.lt_or_ge k l.length with hlt | hge
  · rw [List.getElem?_append_left hlt] at h
    exact .inl h
  · rw [List.getElem?_append_right hge] at h
    obtain ⟨hk, hb⟩ := List.getElem?_eq_some_iff.1 h
    have hzero : k - l.length = 0 := by simpa using hk
    simp only [hzero, List.getElem_cons_zero] at hb
    exact .inr ⟨by omega, hb.symm⟩

theorem getElem?_modify_cases {k j : ℕ} (h : (l.modify k f)[j]? = some a) :
    ∃ b, l[j]? = some b ∧ (j = k ∧ a = f b ∨ j ≠ k ∧ a = b) := by
  rw [List.getElem?_modify] at h
  obtain ⟨b, hb, rfl⟩ := Option.map_eq_some_iff.1 h
  refine ⟨b, hb, ?_⟩
  rcases eq_or_ne k j with rfl | hne
  · simp
  · simp [hne, hne.symm]

/-! ## Distinct keys -/

section
variable {key : α → κ}

/-- No two records have the same key. -/
def Distinct (key : α → κ) (l : List α) : Prop := (l.map key).Nodup

instance [DecidableEq κ] (key : α → κ) (l : List α) : Decidable (Distinct key l) :=
  inferInstanceAs (Decidable (l.map key).Nodup)

@[simp] theorem distinct_nil : Distinct key [] := List.nodup_nil

theorem Distinct.eq (h : Distinct key l) {b : α} (ha : a ∈ l) (hb : b ∈ l) (hk : key a = key b) :
    a = b :=
  List.inj_on_of_nodup_map h ha hb hk

theorem Distinct.sublist {l' : List α} (h : Distinct key l) (hs : l'.Sublist l) : Distinct key l' :=
  List.Nodup.sublist (hs.map key) h

theorem Distinct.filter (h : Distinct key l) (p : α → Bool) : Distinct key (l.filter p) :=
  h.sublist List.filter_sublist

theorem Distinct.updateFirst (h : Distinct key l) (hf : ∀ a, p a = true → key (f a) = key a) :
    Distinct key (updateFirst p f l) := by
  unfold Distinct at *
  rwa [map_updateFirst key hf]

theorem Distinct.concat (h : Distinct key l) (ha : ∀ b ∈ l, key b ≠ key a) :
    Distinct key (l ++ [a]) := by
  unfold Distinct at *
  rw [List.map_append, List.map_singleton]
  refine List.Nodup.append h (List.nodup_singleton _) ?_
  intro k hk hk'
  obtain ⟨b, hb, rfl⟩ := List.mem_map.1 hk
  exact ha b hb (List.mem_singleton.1 hk')

variable [DecidableEq κ]

/-- The record stored under `k`. -/
def lookup (key : α → κ) (k : κ) (l : List α) : Option α := l.find? fun a => key a = k

theorem lookup_eq_none {k : κ} : lookup key k l = none ↔ ∀ a ∈ l, key a ≠ k := by
  simp [lookup]

theorem lookup_mem {k : κ} (h : lookup key k l = some a) : a ∈ l ∧ key a = k := by
  refine ⟨List.mem_of_find?_eq_some h, ?_⟩
  simpa using List.find?_some h

theorem Distinct.lookup_iff (h : Distinct key l) {k : κ} :
    lookup key k l = some a ↔ a ∈ l ∧ key a = k := by
  refine ⟨lookup_mem, fun ⟨ha, hk⟩ => ?_⟩
  cases hl : lookup key k l with
  | none => exact absurd hk (lookup_eq_none.1 hl a ha)
  | some b =>
    obtain ⟨hb, hkb⟩ := lookup_mem hl
    rw [h.eq hb ha (hkb.trans hk.symm)]

/-- A record and the records under other keys make up the table. -/
theorem Distinct.perm_cons_filter (h : Distinct key l) (ha : a ∈ l) :
    l.Perm (a :: l.filter fun b => key b ≠ key a) := by
  induction l with
  | nil => cases ha
  | cons b l ih =>
    obtain ⟨hbl, hl⟩ := List.nodup_cons.1 (show (key b :: l.map key).Nodup from h)
    rcases List.mem_cons.1 ha with rfl | ha
    · have hne : ∀ b ∈ l, key b ≠ key a := fun b hb e => hbl (e ▸ List.mem_map_of_mem hb)
      have hkeep : l.filter (fun b => key b ≠ key a) = l :=
        List.filter_eq_self.2 fun b hb => decide_eq_true (hne b hb)
      rw [List.filter_cons_of_neg (by simp), hkeep]
    · have hne : key b ≠ key a := fun e => hbl (e ▸ List.mem_map_of_mem ha)
      rw [List.filter_cons_of_pos (by simpa using hne)]
      exact ((ih hl ha).cons b).trans (List.Perm.swap a b _)

/-- On a table with distinct keys, changing the record of `k` replaces it and
    leaves the others. -/
theorem mem_updateFirst (h : Distinct key l) {k : κ} {x : α} :
    x ∈ updateFirst (fun a => key a = k) f l ↔
      (x ∈ l ∧ key x ≠ k) ∨ ∃ a ∈ l, key a = k ∧ x = f a := by
  induction l with
  | nil => simp [updateFirst]
  | cons a l ih =>
    obtain ⟨hal, hl⟩ := List.nodup_cons.1 (show (key a :: l.map key).Nodup from h)
    have hne : ∀ b ∈ l, key b ≠ key a := fun b hb e => hal (e ▸ List.mem_map_of_mem hb)
    unfold updateFirst
    by_cases hk : key a = k
    · -- the records behind the changed one have other keys
      have hrest : ∀ b ∈ l, key b ≠ k := fun b hb e => hne b hb (e.trans hk.symm)
      simp only [hk, decide_true, if_true, List.mem_cons]
      constructor
      · rintro (rfl | hx)
        · exact .inr ⟨a, .inl rfl, hk, rfl⟩
        · exact .inl ⟨.inr hx, hrest x hx⟩
      · rintro (⟨rfl | hx, hxk⟩ | ⟨b, rfl | hb, hbk, rfl⟩)
        · exact absurd hk hxk
        · exact .inr hx
        · exact .inl rfl
        · exact absurd hbk (hrest b hb)
    · simp only [hk, decide_false, Bool.false_eq_true, if_false, List.mem_cons, ih hl]
      constructor
      · rintro (rfl | ⟨hx, hxk⟩ | ⟨b, hb, hbk, rfl⟩)
        · exact .inl ⟨.inl rfl, hk⟩
        · exact .inl ⟨.inr hx, hxk⟩
        · exact .inr ⟨b, .inr hb, hbk, rfl⟩
      · rintro (⟨rfl | hx, hxk⟩ | ⟨b, rfl | hb, hbk, rfl⟩)
        · exact .inl rfl
        · exact .inr (.inl ⟨hx, hxk⟩)
        · exact absurd hbk hk
        · exact .inr (.inr ⟨b, hb, hbk, rfl⟩)

end

/-! ## Unique matches -/

/-- What a search that must not be ambiguous finds. -/
inductive Unique (α : Type*) where
  | none
  | one (a : α)
  | many
  deriving Repr, DecidableEq

/-- The search loop: remember the first match, give up at the second. -/
def scanUniqueFrom (p : α → Bool) : Option α → List α → Unique α
  | none, [] => .none
  | some a, [] => .one a
  | found, b :: l =>
    if p b then
      match found with
      | none => scanUniqueFrom p (some b) l
      | some _ => .many
    else scanUniqueFrom p found l

/-- Search `l` for its only element satisfying `p`. -/
def scanUnique (p : α → Bool) (l : List α) : Unique α := scanUniqueFrom p none l

/-- The outcome of the search, from the list of all matches. -/
def Unique.ofList : List α → Unique α
  | [] => .none
  | [a] => .one a
  | _ => .many

theorem scanUniqueFrom_eq (p : α → Bool) (l : List α) :
    ∀ found, scanUniqueFrom p found l = Unique.ofList (found.toList ++ l.filter p) := by
  induction l with
  | nil => intro found; cases found <;> rfl
  | cons b l ih =>
    intro found
    unfold scanUniqueFrom
    by_cases hb : p b
    · cases found with
      | none => simp [hb, ih]
      | some a => simp [hb, Unique.ofList]
    · simp [hb, ih]

/-- **The search is decided by the matches.** -/
theorem scanUnique_eq (p : α → Bool) (l : List α) :
    scanUnique p l = Unique.ofList (l.filter p) := by
  rw [scanUnique, scanUniqueFrom_eq]; rfl

theorem Unique.ofList_eq_one : Unique.ofList l = .one a ↔ l = [a] := by
  match l with
  | [] => simp [Unique.ofList]
  | [b] => simp [Unique.ofList]
  | b :: c :: l => simp [Unique.ofList]

theorem Unique.ofList_eq_many {b : α} (ha : a ∈ l) (hb : b ∈ l) (hab : a ≠ b) :
    Unique.ofList l = .many := by
  match l with
  | [] => exact absurd ha List.not_mem_nil
  | [c] => exact absurd ((List.mem_singleton.1 ha).trans (List.mem_singleton.1 hb).symm) hab
  | _ :: _ :: _ => rfl

theorem scanUnique_one : scanUnique p l = .one a ↔ l.filter p = [a] := by
  rw [scanUnique_eq, Unique.ofList_eq_one]

/-- A narrower search finds nothing else than the unique match of a wider one. -/
theorem scanUnique_narrow {q : α → Bool} (h : scanUnique p l = .one a)
    (hq : ∀ b, q b = true → p b = true) : scanUnique q l = .one a ∨ scanUnique q l = .none := by
  have hsub : l.filter q = (l.filter p).filter q := by
    rw [List.filter_filter]
    refine List.filter_congr fun b _ => ?_
    cases hb : q b with
    | false => rfl
    | true => simp [hq b hb]
  rw [scanUnique_one] at h
  rw [scanUnique_eq, hsub, h]
  by_cases ha : q a
  · exact .inl (by simp [ha, Unique.ofList])
  · exact .inr (by simp [ha, Unique.ofList])

end Axent.Lib
