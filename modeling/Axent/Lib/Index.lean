/-
  Ordered indexes built in one pass over a list.

  * `group f l` collects, for every key, the elements with that key in list
    order; `getElem?_group` and `mem_group` are its meaning;
  * `tally f l` counts, for every key, the elements that `f` sends to it;
    `getD_tally` is its meaning.

  Both are read back in key order (`Std.TreeMap.toList`), whose keys are
  distinct (`keys_toList_nodup`).
-/
import Mathlib.Data.List.Nodup
import Mathlib.Data.String.Basic

namespace Axent.Lib

variable {α κ : Type*} {cmp : κ → κ → Ordering}

/-- Append `a` to the group of `k`. -/
def groupInsert (m : Std.TreeMap κ (List α) cmp) (k : κ) (a : α) : Std.TreeMap κ (List α) cmp :=
  m.alter k fun g => some (g.getD [] ++ [a])

/-- The elements of `l`, grouped by `f`. -/
def group (cmp : κ → κ → Ordering) (f : α → κ) (l : List α) : Std.TreeMap κ (List α) cmp :=
  l.foldl (fun m a => groupInsert m (f a) a) ∅

/-- The number of elements of `l` that `f` sends to each key. -/
def tally (cmp : κ → κ → Ordering) (f : α → Option κ) (l : List α) : Std.TreeMap κ ℕ cmp :=
  l.foldl (fun m a => match f a with
    | some k => m.alter k fun n => some (n.getD 0 + 1)
    | none => m) ∅

variable [Std.TransCmp cmp] [Std.LawfulEqCmp cmp] [DecidableEq κ]

omit [DecidableEq κ] in
theorem keys_toList_nodup {β : Type*} (m : Std.TreeMap κ β cmp) :
    (m.toList.map Prod.fst).Nodup := by
  rw [List.Nodup, List.pairwise_map]
  refine (Std.TreeMap.distinct_keys_toList (t := m)).imp fun {a b} h e => h ?_
  rw [e]; exact Std.ReflCmp.compare_self

omit [Std.LawfulEqCmp cmp] [DecidableEq κ] in
theorem keys_toList_sorted {β : Type*} (m : Std.TreeMap κ β cmp) :
    (m.toList.map Prod.fst).Pairwise fun a b => cmp a b = .lt := by
  rw [List.pairwise_map]
  exact Std.TreeMap.ordered_keys_toList

omit [DecidableEq κ] in
/-- Two indexes with the same keys list them in the same order. -/
theorem keys_toList_ext {β γ : Type*} {m : Std.TreeMap κ β cmp} {m' : Std.TreeMap κ γ cmp}
    (h : ∀ k, k ∈ m ↔ k ∈ m') : m.toList.map Prod.fst = m'.toList.map Prod.fst := by
  have hperm : (m.toList.map Prod.fst).Perm (m'.toList.map Prod.fst) := by
    rw [List.perm_ext_iff_of_nodup (keys_toList_nodup m) (keys_toList_nodup m')]
    intro k
    simp only [Std.TreeMap.map_fst_toList_eq_keys, Std.TreeMap.mem_keys, h]
  refine hperm.eq_of_pairwise (fun a b _ _ hab hba => ?_) (keys_toList_sorted m)
    (keys_toList_sorted m')
  -- two keys cannot be below each other
  rw [@Std.OrientedCmp.eq_swap _ cmp _ a b, hba] at hab
  exact absurd hab (by decide)

/-- A group list as the index stores it: absent when empty. -/
def stored (l : List α) : Option (List α) := if l = [] then none else some l

omit [Std.TransCmp cmp] [Std.LawfulEqCmp cmp] [DecidableEq κ] in
theorem stored_getD (l : List α) : (stored l).getD [] = l := by
  unfold stored; split_ifs with h <;> simp [h]

theorem getElem?_foldl_groupInsert (f : α → κ) (k : κ) :
    ∀ (l : List α) (m : Std.TreeMap κ (List α) cmp) (g : List α), m[k]? = stored g →
      (l.foldl (fun m a => groupInsert m (f a) a) m)[k]? = stored (g ++ l.filter (f · = k))
  | [], m, g, h => by simpa using h
  | a :: l, m, g, h => by
    rw [List.foldl_cons]
    by_cases hk : f a = k
    · have := getElem?_foldl_groupInsert f k l (groupInsert m (f a) a) (g ++ [a]) (by
        subst hk
        rw [groupInsert, Std.TreeMap.getElem?_alter_self, h, stored_getD, stored, if_neg (by simp)])
      simpa [hk] using this
    · have := getElem?_foldl_groupInsert f k l (groupInsert m (f a) a) g (by
        simp [groupInsert, Std.TreeMap.getElem?_alter, hk, h])
      simpa [hk] using this

/-- **A group holds the elements of its key, in list order.** -/
theorem getElem?_group (f : α → κ) (l : List α) (k : κ) :
    (group cmp f l)[k]? = stored (l.filter (f · = k)) := by
  have := getElem?_foldl_groupInsert f k l (∅ : Std.TreeMap κ (List α) cmp) [] (by simp [stored])
  rwa [List.nil_append] at this

theorem mem_group {f : α → κ} {l : List α} {k : κ} :
    k ∈ group cmp f l ↔ ∃ a ∈ l, f a = k := by
  rw [Std.TreeMap.mem_iff_isSome_getElem?, getElem?_group, stored]
  split_ifs with h
  · simpa [List.filter_eq_nil_iff] using h
  · simp only [Option.isSome_some, true_iff]
    obtain ⟨a, ha⟩ := List.exists_mem_of_ne_nil _ h
    exact ⟨a, (List.mem_filter.1 ha).1, by simpa using (List.mem_filter.1 ha).2⟩

theorem mem_toList_group {f : α → κ} {l : List α} {k : κ} {g : List α} :
    (k, g) ∈ (group cmp f l).toList ↔ g = l.filter (f · = k) ∧ g ≠ [] := by
  rw [Std.TreeMap.mem_toList_iff_getElem?_eq_some, getElem?_group, stored]
  split_ifs with h
  · simp [h]
  · simp only [Option.some.injEq]
    exact ⟨fun e => ⟨e.symm, e ▸ h⟩, fun e => e.1.symm⟩

theorem getD_foldl_tally (f : α → Option κ) (k : κ) :
    ∀ (l : List α) (m : Std.TreeMap κ ℕ cmp),
      (l.foldl (fun m a => match f a with
        | some k => m.alter k fun n => some (n.getD 0 + 1)
        | none => m) m).getD k 0 = m.getD k 0 + l.countP (f · = some k)
  | [], m => by simp
  | a :: l, m => by
    rw [List.foldl_cons, getD_foldl_tally f k l, List.countP_cons]
    cases h : f a with
    | none => simp
    | some k' =>
      by_cases hk : k' = k
      · subst hk
        simp [Std.TreeMap.getD_eq_getD_getElem?]; omega
      · simp [Std.TreeMap.getD_alter, hk]

/-- **The tally of a key is the number of its elements.** -/
theorem getD_tally (f : α → Option κ) (l : List α) (k : κ) :
    (tally cmp f l).getD k 0 = l.countP (f · = some k) := by
  rw [tally, getD_foldl_tally]; simp

omit [Std.TransCmp cmp] [Std.LawfulEqCmp cmp] [DecidableEq κ] in
/-- In a list without duplicates, a count is one when its witness is the only
    one. -/
theorem countP_eq_one_iff {l : List α} (hl : l.Nodup) {p : α → Bool} {a : α} (ha : a ∈ l)
    (hp : p a = true) : l.countP p = 1 ↔ ∀ b ∈ l, p b = true → b = a := by
  have hf : a ∈ l.filter p := List.mem_filter.2 ⟨ha, hp⟩
  rw [List.countP_eq_length_filter]
  constructor
  · intro h b hb hpb
    obtain ⟨c, hc⟩ := List.length_eq_one_iff.1 h
    have hb' : b ∈ l.filter p := List.mem_filter.2 ⟨hb, hpb⟩
    rw [hc, List.mem_singleton] at hf hb'
    rw [hb', hf]
  · intro h
    have hall : ∀ b ∈ l.filter p, b = a := fun b hb =>
      h b (List.mem_filter.1 hb).1 (List.mem_filter.1 hb).2
    have hnd := hl.filter p
    rcases hm : l.filter p with _ | ⟨b, _ | ⟨c, rest⟩⟩
    · rw [hm] at hf; exact absurd hf List.not_mem_nil
    · rfl
    · rw [hm] at hall hnd
      have hbc : b = c := (hall b (by simp)).trans (hall c (by simp)).symm
      exact absurd (hbc ▸ List.mem_cons_self) (List.nodup_cons.1 hnd).1

end Axent.Lib
