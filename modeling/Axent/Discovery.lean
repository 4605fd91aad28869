/-
  What a discovery batch of one adapter does to the registry.

  All rows of the batch carry the adapter `adapter`, and the registry is
  consistent before.  `Progress taken done ds` describes the stored devices
  `ds` while the plans are applied: the keys `taken` have taken over the
  endpoint they alone claim from its absent owners, the keys `done` have been
  stored.  Erasing the stale owners of a plan extends `taken`
  (`Progress.erase`), storing its snapshot extends `done` (`Progress.store`):
  once the stale owners are gone, `upsert_locked` cannot reject the snapshot
  unless another adapter holds its endpoint (`Progress.noConflict`).

  `merged_progress` is the end of the loop; `reconcile_lossless` reads off
  what a batch may remove and what it must keep.
-/
import Axent.Registry

namespace Axent

open Lib DeviceManager

section
variable (devices discovered : List DeviceSnapshot) (adapter : String)

/-- No device of another adapter holds `e`. -/
def Free (e : String) : Prop := ∀ d ∈ devices, d.endpointId = e → d.adapter = adapter

/-- The batch stores `s` under `k`. -/
def Refreshes (k : DeviceKey) (s : DeviceSnapshot) : Prop :=
  ∃ e, RowsValid devices discovered k e ∧ (e = "" ∨ Free devices adapter e) ∧
    ∃ r ∈ discovered, r.key = k ∧ s = r.withEndpoint e

/-- `k` takes `e` over from its absent owners. -/
def TakesOver (k : DeviceKey) (e : String) : Prop :=
  Claims devices discovered k e ∧ (∀ k', Claims devices discovered k' e → k' = k) ∧
    Free devices adapter e

/-- The stored devices `ds` while the plans are applied. -/
structure Progress (taken done : List DeviceKey) (ds : List DeviceSnapshot) : Prop where
  consistent : Consistent ds
  others : ds.filter (fun d => d.adapter ≠ adapter) = devices.filter fun d => d.adapter ≠ adapter
  absent : ∀ d, d.adapter = adapter → ¬ Current discovered d.key →
    (d ∈ ds ↔ d ∈ devices ∧ ¬ ∃ k ∈ taken, TakesOver devices discovered adapter k d.endpointId)
  waiting : ∀ d, Current discovered d.key → d.key ∉ done → (d ∈ ds ↔ d ∈ devices)
  kept : ∀ d, d.key ∈ done → (∀ s, ¬ Refreshes devices discovered adapter d.key s) →
    (d ∈ ds ↔ d ∈ devices)
  refreshed : ∀ k ∈ done, ∀ s, Refreshes devices discovered adapter k s →
    ∀ d, d.key = k → (d ∈ ds ↔ d = s)

end

section
variable {devices discovered : List DeviceSnapshot} {adapter : String} {k : DeviceKey}
  {s d : DeviceSnapshot}

theorem Refreshes.unique {s' : DeviceSnapshot} (h : Refreshes devices discovered adapter k s)
    (h' : Refreshes devices discovered adapter k s') : s = s' := by
  obtain ⟨e, hv, -, r, hr, hk, rfl⟩ := h
  obtain ⟨e', hv', -, r', hr', hk', rfl⟩ := h'
  obtain rfl := hv.1.unique hv'.1
  exact hv.2 r hr hk r' hr' hk'

theorem Refreshes.key_eq (h : Refreshes devices discovered adapter k s) : s.key = k := by
  obtain ⟨e, -, -, r, -, hk, rfl⟩ := h
  exact hk

theorem Claims.endpoint_of_valid {e e' : String} (h : Claims devices discovered k e)
    (hv : RowsValid devices discovered k e') : e = e' := by
  rcases h.2.2 with h | ⟨h, -⟩
  · exact h.1.unique hv.1
  · exact absurd hv (h e')

theorem claims_iff_of_valid {e e' : String} (hk : Current discovered k)
    (hv : RowsValid devices discovered k e) :
    Claims devices discovered k e' ↔ e' = e ∧ e' ≠ "" := by
  constructor
  · exact fun h => ⟨h.endpoint_of_valid hv, h.2.1⟩
  · rintro ⟨rfl, hne⟩
    exact ⟨hk, hne, .inl hv⟩

theorem claims_iff_of_invalid {e : String} (hk : Current discovered k)
    (hv : ∀ e, ¬ RowsValid devices discovered k e) :
    Claims devices discovered k e ↔ e = storedEndpoint devices k ∧ e ≠ "" := by
  constructor
  · rintro ⟨-, hne, h | ⟨-, h⟩⟩
    · exact absurd h (hv e)
    · exact ⟨h.symm, hne⟩
  · rintro ⟨he, hne⟩
    exact ⟨hk, hne, .inr ⟨hv, he.symm⟩⟩

/-- A key of the batch claims the endpoint stored for it. -/
theorem claims_of_stored (hd : Distinct DeviceSnapshot.key devices) (hmem : d ∈ devices)
    (hcur : Current discovered d.key) (hne : d.endpointId ≠ "") :
    Claims devices discovered d.key d.endpointId := by
  have hst : storedEndpoint devices d.key = d.endpointId := by
    rw [storedEndpoint, hd.lookup_iff.2 ⟨hmem, rfl⟩]; rfl
  refine ⟨hcur, hne, ?_⟩
  by_cases hv : ∃ e, RowsValid devices discovered d.key e
  · obtain ⟨e, hv⟩ := hv
    have : d.endpointId = e := by
      rw [← hst]
      exact (hv.1.1 _ (List.mem_cons_self ..)).resolve_left (hst.symm ▸ hne)
    exact .inl (this ▸ hv)
  · push Not at hv
    exact .inr ⟨hv, hst⟩

namespace Progress
variable {taken done : List DeviceKey} {ds : List DeviceSnapshot}

theorem init (hc : Consistent devices) :
    Progress devices discovered adapter [] [] devices :=
  ⟨hc, rfl, by simp, fun _ _ _ => Iff.rfl, by simp, by simp⟩

theorem mem_other (h : Progress devices discovered adapter taken done ds)
    (hd : d.adapter ≠ adapter) : d ∈ ds ↔ d ∈ devices := by
  have : d ∈ ds.filter (fun d => d.adapter ≠ adapter) ↔
      d ∈ devices.filter fun d => d.adapter ≠ adapter := by rw [h.others]
  simpa [List.mem_filter, hd] using this

theorem free_iff (h : Progress devices discovered adapter taken done ds) (e : String) :
    (∀ d ∈ ds, d.endpointId = e → d.adapter = adapter) ↔ Free devices adapter e := by
  constructor
  · intro hf d hd he
    by_contra ha
    exact ha (hf d ((h.mem_other ha).2 hd) he)
  · intro hf d hd he
    by_contra ha
    exact ha (hf d ((h.mem_other ha).1 hd) he)

/-- Only claimants and absent devices hold an endpoint of the adapter. -/
theorem claims_of_mem (h : Progress devices discovered adapter taken done ds)
    (hc : Consistent devices) (hd : d ∈ ds) (hcur : Current discovered d.key)
    (hne : d.endpointId ≠ "") : Claims devices discovered d.key d.endpointId := by
  by_cases hdone : d.key ∈ done
  · by_cases hr : ∃ s, Refreshes devices discovered adapter d.key s
    · obtain ⟨s, hs⟩ := hr
      obtain rfl := (h.refreshed d.key hdone s hs d rfl).1 hd
      obtain ⟨e, hv, -, r, hr, hk, he⟩ := hs
      have hde : d.endpointId = e := by rw [he]; rfl
      exact ⟨hcur, hne, .inl (hde ▸ hv)⟩
    · push Not at hr
      exact claims_of_stored hc.keys ((h.kept d hdone hr).1 hd) hcur hne
  · exact claims_of_stored hc.keys ((h.waiting d hcur hdone).1 hd) hcur hne

/-! ### Erasing stale owners -/

section
variable (hA : ∀ r ∈ discovered, r.adapter = adapter)
include hA

theorem takesOver_iff (hcl : ∀ e, Claims devices discovered s.key e ↔ e = s.endpointId ∧ e ≠ "")
    (e : String) :
    TakesOver devices discovered adapter s.key e ↔
      e = s.endpointId ∧ Free devices adapter e ∧
        claimCount (claimCounts adapter (plans devices discovered)) s = 1 := by
  constructor
  · rintro ⟨hc, hu, hf⟩
    obtain ⟨rfl, hne⟩ := (hcl e).1 hc
    refine ⟨rfl, hf, ?_⟩
    rw [claimCount, if_neg hne, claimCount_eq_one hA hc]
    exact hu
  · rintro ⟨rfl, hf, hcount⟩
    have hne : s.endpointId ≠ "" := fun h => by simp [claimCount, h] at hcount
    have hc := (hcl _).2 ⟨rfl, hne⟩
    rw [claimCount, if_neg hne, claimCount_eq_one hA hc] at hcount
    exact ⟨hc, hcount, hf⟩

theorem mem_eraseStaleOwners (h : Progress devices discovered adapter taken done ds)
    {s : DeviceSnapshot} (hs : Current discovered s.key)
    (hcl : ∀ e, Claims devices discovered s.key e ↔ e = s.endpointId ∧ e ≠ "")
    (x : DeviceSnapshot) :
    x ∈ eraseStaleOwners adapter (isCurrent discovered)
        (claimCount (claimCounts adapter (plans devices discovered)) s) s ds ↔
      x ∈ ds ∧ ¬ (TakesOver devices discovered adapter s.key x.endpointId ∧
        x.adapter = adapter ∧ ¬ Current discovered x.key) := by
  have hsa : s.adapter = adapter := Current.adapter_eq hA hs
  have hany : ds.any (fun current => current.endpointId = s.endpointId ∧
      current.adapter ≠ s.adapter) = true ↔ ¬ Free devices adapter s.endpointId := by
    rw [← h.free_iff, hsa]; push Not; simp
  unfold eraseStaleOwners
  split_ifs with hcond
  · obtain ⟨-, hcount, hfree⟩ := hcond
    have hfree : Free devices adapter s.endpointId := by
      by_contra hf; exact hfree (hany.2 hf)
    rw [List.mem_filter]
    refine and_congr_right fun hx => ?_
    simp only [isStaleOwner, hsa, decide_not, decide_eq_true_eq, takesOver_iff hA hcl, ne_eq,
      Bool.not_eq_true', decide_eq_false_iff_not, isCurrent_iff, hcount, and_true]
    refine not_congr ⟨?_, ?_⟩
    · rintro ⟨ha, -, he, hcur⟩
      exact ⟨⟨he, he ▸ hfree⟩, ha, hcur⟩
    · rintro ⟨⟨he, -⟩, ha, hcur⟩
      -- an absent device has another id, since `s` is of the batch
      exact ⟨ha, fun hid => hcur ((key_eq_iff.2 ⟨ha.trans hsa.symm, hid⟩) ▸ hs), he, hcur⟩
  · refine ⟨fun hx => ⟨hx, ?_⟩, fun hx => hx.1⟩
    rintro ⟨ht, -, -⟩
    obtain ⟨he, hf, hcount⟩ := (takesOver_iff hA hcl _).1 ht
    exact hcond ⟨hsa, hcount, fun hf' => hany.1 hf' (he ▸ hf)⟩

theorem erase (h : Progress devices discovered adapter taken done ds)
    (hs : Current discovered s.key)
    (hcl : ∀ e, Claims devices discovered s.key e ↔ e = s.endpointId ∧ e ≠ "")
    (hdone : ∀ k ∈ done, Current discovered k) :
    Progress devices discovered adapter (s.key :: taken) done
      (eraseStaleOwners adapter (isCurrent discovered)
        (claimCount (claimCounts adapter (plans devices discovered)) s) s ds) := by
  have hmem := h.mem_eraseStaleOwners hA hs hcl
  -- the keys of the batch are untouched
  have hcur : ∀ x : DeviceSnapshot, Current discovered x.key →
      (x ∈ eraseStaleOwners adapter (isCurrent discovered)
        (claimCount (claimCounts adapter (plans devices discovered)) s) s ds ↔ x ∈ ds) :=
    fun x hx => by rw [hmem]; exact and_iff_left fun hx' => hx'.2.2 hx
  refine ⟨h.consistent.sublist (eraseStaleOwners_sublist _ _ _ _ _), ?_, ?_, ?_, ?_, ?_⟩
  · rw [← h.others]
    unfold eraseStaleOwners
    split_ifs
    · rw [List.filter_filter]
      refine List.filter_congr fun d _ => ?_
      simp only [isStaleOwner, show s.adapter = adapter from Current.adapter_eq hA hs]
      by_cases hd : d.adapter = adapter <;> simp [hd]
    · rfl
  · intro d ha hd
    rw [hmem, h.absent d ha hd]
    simp only [List.mem_cons, exists_eq_or_imp, not_or, and_assoc, ha, hd, not_false_eq_true,
      and_true]
    refine and_congr_right fun _ => ?_
    exact and_comm
  · intro d hd hnd
    rw [hcur d hd]; exact h.waiting d hd hnd
  · intro d hd hr
    rw [hcur d (hdone _ hd)]; exact h.kept d hd hr
  · intro k' hk' s' hs' d hd
    rw [hcur d (hd ▸ hdone k' hk')]; exact h.refreshed k' hk' s' hs' d hd

/-! ### Storing the snapshot -/

/-- **The upsert of a claimant cannot be rejected** once its stale owners are
    erased, unless another adapter holds the endpoint. -/
theorem noConflict (h : Progress devices discovered adapter taken done ds) (hc : Consistent devices)
    (hs : Current discovered s.key)
    (hcl : ∀ e, Claims devices discovered s.key e ↔ e = s.endpointId ∧ e ≠ "") (ht : s.key ∈ taken)
    (hf : s.endpointId = "" ∨ Free devices adapter s.endpointId) :
    NoConflict ds s (2 ≤ claimCount (claimCounts adapter (plans devices discovered)) s) := by
  intro hne c hcmem hce
  have hf := hf.resolve_left hne
  have hca : c.adapter = adapter := (h.free_iff _).2 hf c hcmem hce
  have hclaim := (hcl _).2 ⟨rfl, hne⟩
  by_cases hk : c.key = s.key
  · exact .inl hk
  · refine .inr ⟨decide_eq_true ?_, hca.trans (Current.adapter_eq hA hs).symm⟩
    have hpos := claimCount_pos hA hclaim
    rw [claimCount, if_neg hne]
    by_contra hlt
    -- claimed once, so `s.key` takes the endpoint over and `c` cannot hold it
    have hone : (claimCounts adapter (plans devices discovered)).getD s.endpointId 0 = 1 := by omega
    have huniq := (claimCount_eq_one hA hclaim).1 hone
    by_cases hcur : Current discovered c.key
    · exact hk (huniq c.key (hce ▸ h.claims_of_mem hc hcmem hcur (hce ▸ hne)))
    · refine ((h.absent c hca hcur).1 hcmem).2 ⟨s.key, ht, ?_⟩
      rw [hce]
      exact ⟨hclaim, huniq, hf⟩

omit hA in
/-- The stored endpoint of a waiting key agrees with its effective one. -/
theorem compatible (h : Progress devices discovered adapter taken done ds)
    (hs : Current discovered s.key) (hnd : s.key ∉ done)
    (hr : Refreshes devices discovered adapter s.key s) :
    ∀ d ∈ ds, d.key = s.key → d.endpointId = "" ∨ d.endpointId = s.endpointId := by
  intro d hd hk
  have hmem := (h.waiting d (hk ▸ hs) (hk ▸ hnd)).1 hd
  obtain ⟨e, hv, -, r, hr, -, he⟩ := hr
  have hse : s.endpointId = e := by rw [he]; rfl
  have hst : storedEndpoint devices s.key = "" ∨ storedEndpoint devices s.key = e :=
    hv.1.1 _ (List.mem_cons_self ..)
  cases hl : lookup DeviceSnapshot.key s.key devices with
  | none => exact absurd hk (lookup_eq_none.1 hl d hmem)
  | some d' =>
    obtain ⟨hd', hk'⟩ := lookup_mem hl
    have hd'ds : d' ∈ ds := (h.waiting d' (hk' ▸ hs) (hk' ▸ hnd)).2 hd'
    obtain rfl := h.consistent.keys.eq hd hd'ds (hk.trans hk'.symm)
    rw [storedEndpoint, hl] at hst
    rw [hse]
    exact hst

omit hA in
theorem conflict (h : Progress devices discovered adapter taken done ds) (hs : s.adapter = adapter)
    (hne : s.endpointId ≠ "") (hf : ¬ Free devices adapter s.endpointId) (allow : Bool) :
    ¬ NoConflict ds s allow := by
  rw [← h.free_iff] at hf
  push Not at hf
  obtain ⟨c, hcmem, hce, hca⟩ := hf
  intro hn
  rcases hn hne c hcmem hce with hkey | ⟨-, ha⟩
  · exact hca ((DeviceSnapshot.adapter_of_key hkey).trans hs)
  · exact hca (ha.trans hs)

theorem store (h : Progress devices discovered adapter taken done ds)
    (hs : Current discovered s.key) (hnd : s.key ∉ done)
    (hr : Refreshes devices discovered adapter s.key s) {allow : Bool}
    (hn : NoConflict ds s allow) :
    Progress devices discovered adapter taken (s.key :: done) (upsertLocked ds s allow).1 := by
  have hu := upsertLocked_spec ds s allow
  have hmem := mem_upsertLocked h.consistent.keys hn (h.compatible hs hnd hr)
  -- other keys are untouched
  have hne : ∀ x : DeviceSnapshot, x.key ≠ s.key → (x ∈ (upsertLocked ds s allow).1 ↔ x ∈ ds) := by
    intro x hx
    rw [hmem]
    constructor
    · rintro (⟨hx', -⟩ | rfl)
      · exact hx'
      · exact absurd rfl hx
    · exact fun hx' => .inl ⟨hx', hx⟩
  refine ⟨h.consistent.upserted hu, ?_, ?_, ?_, ?_, ?_⟩
  · rw [hu.filter_eq, h.others]
    intro d hk
    have : d.adapter = adapter := by
      rw [DeviceSnapshot.adapter_of_key hk]; exact Current.adapter_eq hA hs
    simp [this]
  · intro d ha hd
    rw [hne d fun hk => hd (hk ▸ hs)]
    exact h.absent d ha hd
  · intro d hd hd'
    rw [List.mem_cons, not_or] at hd'
    rw [hne d hd'.1]
    exact h.waiting d hd hd'.2
  · intro d hd hno
    rcases List.mem_cons.1 hd with hk | hd
    · exact absurd (hk ▸ hr) (hno s)
    · rw [hne d fun hk => hnd (hk ▸ hd)]
      exact h.kept d hd hno
  · intro k' hk' s' hs' d hd
    rcases List.mem_cons.1 hk' with rfl | hk'
    · obtain rfl := hr.unique hs'
      rw [hmem]
      constructor
      · rintro (⟨-, hx⟩ | hx)
        · exact absurd hd hx
        · exact hx
      · exact .inr
    · rw [hne d fun hk => hnd (hk ▸ hd ▸ hk')]
      exact h.refreshed k' hk' s' hs' d hd

omit hA in
theorem skip (h : Progress devices discovered adapter taken done ds)
    (hk : Current discovered k) (hnd : k ∉ done)
    (hno : ∀ s, ¬ Refreshes devices discovered adapter k s) :
    Progress devices discovered adapter taken (k :: done) ds := by
  refine ⟨h.consistent, h.others, h.absent, ?_, ?_, ?_⟩
  · intro d hd hd'
    exact h.waiting d hd fun hm => hd' (List.mem_cons_of_mem _ hm)
  · intro d hd hno'
    rcases List.mem_cons.1 hd with rfl | hd
    · exact h.waiting d hk hnd
    · exact h.kept d hd hno'
  · intro k' hk' s' hs' d hd
    rcases List.mem_cons.1 hk' with rfl | hk'
    · exact absurd hs' (hno s')
    · exact h.refreshed k' hk' s' hs' d hd

omit hA in
theorem takeNothing (h : Progress devices discovered adapter taken done ds)
    (hno : ∀ e, ¬ Claims devices discovered k e) :
    Progress devices discovered adapter (k :: taken) done ds := by
  refine ⟨h.consistent, h.others, ?_, h.waiting, h.kept, h.refreshed⟩
  intro d ha hd
  rw [h.absent d ha hd]
  refine and_congr_right fun _ => not_congr ⟨?_, ?_⟩
  · rintro ⟨k', hk', ht⟩; exact ⟨k', List.mem_cons_of_mem _ hk', ht⟩
  · rintro ⟨k', hk', ht⟩
    rcases List.mem_cons.1 hk' with rfl | hk'
    · exact absurd ht.1 (hno _)
    · exact ⟨k', hk', ht⟩

/-- **Applying one plan.** -/
theorem applyPlan (h : Progress devices discovered adapter taken done ds) (hc : Consistent devices)
    (hk : Current discovered k) (hnd : k ∉ done) (hdone : ∀ k ∈ done, Current discovered k) :
    Progress devices discovered adapter (k :: taken) (k :: done)
      (applyPlan adapter (isCurrent discovered) (claimCounts adapter (plans devices discovered)) ds
        (claimPlan devices discovered k (rowsOf discovered k))).1 := by
  by_cases hv : ∃ e, RowsValid devices discovered k e
  · obtain ⟨e, hv⟩ := hv
    obtain ⟨hval, r, hr, rfl, hs⟩ := claimPlan_valid hk hv
    rw [applyPlan_valid _ _ _ _ hval, hs]
    have hcl : ∀ e', Claims devices discovered r.key e' ↔ e' = e ∧ e' ≠ "" :=
      fun _ => claims_iff_of_valid hk hv
    have herase := h.erase hA (s := r.withEndpoint e) hk hcl hdone
    by_cases hf : e = "" ∨ Free devices adapter e
    · exact herase.store hA (s := r.withEndpoint e) hk hnd ⟨e, hv, hf, r, hr, rfl, rfl⟩
        (herase.noConflict hA hc (s := r.withEndpoint e) hk hcl (List.mem_cons_self ..) hf)
    · -- another adapter holds the endpoint, so the upsert is rejected
      have hno : ∀ s, ¬ Refreshes devices discovered adapter r.key s := by
        rintro s ⟨e', hv', hf', -⟩
        obtain rfl := hv.1.unique hv'.1
        exact hf hf'
      obtain ⟨hne, hnf⟩ := not_or.1 hf
      rw [upsertLocked_of_conflict
        (herase.conflict (s := r.withEndpoint e) (hA r hr) hne hnf _)]
      exact herase.skip hk hnd hno
  · push Not at hv
    have hno : ∀ s, ¬ Refreshes devices discovered adapter k s :=
      fun s ⟨e, he, _⟩ => hv e he
    have hplan := claimPlan_invalid hk hv
    generalize claimPlan devices discovered k (rowsOf discovered k) = plan at hplan ⊢
    obtain ⟨hval, ⟨-, hauth, hl⟩ | ⟨hempty, hauth⟩⟩ := hplan
    · rw [applyPlan_defended _ _ _ _ hval hauth]
      obtain ⟨-, rfl⟩ := lookup_mem hl
      refine (h.erase hA hk (fun e => ?_) hdone).skip hk hnd hno
      rw [claims_iff_of_invalid hk hv, storedEndpoint, hl]
      rfl
    · rw [applyPlan_rejected _ _ _ _ hval hauth]
      refine (h.takeNothing fun e hcl => ?_).skip hk hnd hno
      obtain ⟨he, hne⟩ := (claims_iff_of_invalid hk hv).1 hcl
      exact hne (he.trans hempty)

/-- Applying the plans of distinct keys, in any order. -/
theorem mergePlans (hc : Consistent devices) (ps : List (DeviceKey × ClaimPlan discovered.length)) :
    ∀ {taken done : List DeviceKey} {ds : List DeviceSnapshot},
      Progress devices discovered adapter taken done ds → (∀ k ∈ done, Current discovered k) →
      (∀ p ∈ ps, p ∈ plans devices discovered) → (ps.map Prod.fst).Nodup → (∀ p ∈ ps, p.1 ∉ done) →
      Progress devices discovered adapter ((ps.map Prod.fst).reverse ++ taken)
        ((ps.map Prod.fst).reverse ++ done)
        (mergePlans adapter discovered (claimCounts adapter (plans devices discovered)) ps ds) := by
  induction ps with
  | nil => intro taken done ds h _ _ _ _; exact h
  | cons p ps ih =>
    obtain ⟨k, plan⟩ := p
    intro taken done ds h hdone hps hnodup hnew
    obtain ⟨hk, rfl⟩ := mem_plans.1 (hps _ (List.mem_cons_self ..))
    obtain ⟨hkps, hnodup⟩ := List.nodup_cons.1 hnodup
    have hstep := h.applyPlan hA hc hk (hnew _ (List.mem_cons_self ..)) hdone
    have := ih hstep (List.forall_mem_cons.2 ⟨hk, hdone⟩)
      (fun q hq => hps q (List.mem_cons_of_mem _ hq)) hnodup fun q hq hq' => by
        rcases List.mem_cons.1 hq' with he | hq'
        · exact hkps (List.mem_map.2 ⟨q, hq, he⟩)
        · exact hnew q (List.mem_cons_of_mem _ hq) hq'
    simpa [Axent.mergePlans] using this

end

end Progress

/-! ## The batch as a whole -/

/-- The stored devices once all plans are applied. -/
def merged (devices discovered : List DeviceSnapshot) (adapter : String) : List DeviceSnapshot :=
  mergePlans adapter discovered (claimCounts adapter (plans devices discovered))
    (plans devices discovered) devices

section
variable (hA : ∀ r ∈ discovered, r.adapter = adapter) (hc : Consistent devices)
include hA hc

/-- The end of the loop: every key of the batch has been stored. -/
theorem merged_progress :
    Progress devices discovered adapter ((plans devices discovered).map Prod.fst).reverse
      ((plans devices discovered).map Prod.fst).reverse (merged devices discovered adapter) := by
  have := (Progress.init hc).mergePlans hA hc (plans devices discovered) (by simp)
    (fun _ hp => hp) plans_nodup (by simp)
  simp only [List.append_nil] at this
  exact this

omit hA hc in
theorem mem_planned :
    k ∈ ((plans devices discovered).map Prod.fst).reverse ↔ Current discovered k := by
  rw [List.mem_reverse, List.mem_map]
  constructor
  · rintro ⟨⟨k, p⟩, hp, rfl⟩; exact (mem_plans.1 hp).1
  · exact fun hk => ⟨(k, _), mem_plans.2 ⟨hk, rfl⟩, rfl⟩

theorem mem_merged_absent (ha : d.adapter = adapter) (hd : ¬ Current discovered d.key) :
    d ∈ merged devices discovered adapter ↔
      d ∈ devices ∧ ¬ ∃ k, TakesOver devices discovered adapter k d.endpointId := by
  rw [(merged_progress hA hc).absent d ha hd]
  refine and_congr_right fun _ => not_congr (exists_congr fun k => ?_)
  rw [mem_planned]
  exact and_iff_right_of_imp fun ht => ht.1.1

/-- **A claimed endpoint that no other adapter holds is stored with its
    claimant.** -/
theorem exists_mem_merged_of_claims {e : String} (hcl : Claims devices discovered k e)
    (hf : Free devices adapter e) :
    ∃ d ∈ merged devices discovered adapter, d.key = k ∧ d.endpointId = e := by
  have hp := merged_progress hA hc
  obtain ⟨hk, hne, hv | ⟨hv, hst⟩⟩ := hcl
  · obtain ⟨r, hr, rfl⟩ := hk
    refine ⟨r.withEndpoint e, ?_, rfl, rfl⟩
    exact (hp.refreshed r.key (mem_planned.2 ⟨r, hr, rfl⟩) _
      ⟨e, hv, .inr hf, r, hr, rfl, rfl⟩ (r.withEndpoint e) rfl).2 rfl
  · unfold storedEndpoint at hst
    cases hl : lookup DeviceSnapshot.key k devices with
    | none => rw [hl] at hst; exact absurd hst.symm hne
    | some d =>
      rw [hl] at hst
      obtain ⟨hd, rfl⟩ := lookup_mem hl
      exact ⟨d, (hp.kept d (mem_planned.2 hk) fun s ⟨e', he', _⟩ => hv e' he').2 hd, rfl, hst⟩

omit hA in
theorem free_of_mem (hd : d ∈ devices) (ha : d.adapter = adapter) (hne : d.endpointId ≠ "") :
    Free devices adapter d.endpointId :=
  fun x hx he => (hc.owners d hd x hx hne he).trans ha

/-- No endpoint gets lost. -/
theorem exists_mem_merged_of_bound (hd : d ∈ devices) (hne : d.endpointId ≠ "") :
    ∃ x ∈ merged devices discovered adapter, x.endpointId = d.endpointId := by
  have hp := merged_progress hA hc
  by_cases ha : d.adapter = adapter
  · have hf := free_of_mem hc hd ha hne
    by_cases hcur : Current discovered d.key
    · obtain ⟨x, hx, -, he⟩ := exists_mem_merged_of_claims hA hc
        (claims_of_stored hc.keys hd hcur hne) hf
      exact ⟨x, hx, he⟩
    · by_cases ht : ∃ k, TakesOver devices discovered adapter k d.endpointId
      · obtain ⟨k, hcl, -, -⟩ := ht
        obtain ⟨x, hx, -, he⟩ := exists_mem_merged_of_claims hA hc hcl hf
        exact ⟨x, hx, he⟩
      · exact ⟨d, (mem_merged_absent hA hc ha hcur).2 ⟨hd, ht⟩, rfl⟩
  · exact ⟨d, (hp.mem_other ha).2 hd, rfl⟩

/-- A key that is gone afterwards was absent from the batch, and exactly one
    key of the batch took its endpoint over. -/
theorem takesOver_of_removed (hd : d ∈ devices)
    (hgone : ∀ x ∈ merged devices discovered adapter, x.key ≠ d.key) :
    d.adapter = adapter ∧ ¬ Current discovered d.key ∧
      ∃ k, TakesOver devices discovered adapter k d.endpointId := by
  have hp := merged_progress hA hc
  have ha : d.adapter = adapter := by
    by_contra ha
    exact hgone d ((hp.mem_other ha).2 hd) rfl
  have hcur : ¬ Current discovered d.key := by
    intro hcur
    by_cases hr : ∃ s, Refreshes devices discovered adapter d.key s
    · obtain ⟨s, hs⟩ := hr
      exact hgone s ((hp.refreshed d.key (mem_planned.2 hcur) s hs s hs.key_eq).2 rfl) hs.key_eq
    · push Not at hr
      exact hgone d ((hp.kept d (mem_planned.2 hcur) hr).2 hd) rfl
  refine ⟨ha, hcur, ?_⟩
  by_contra ht
  exact hgone d ((mem_merged_absent hA hc ha hcur).2 ⟨hd, ht⟩) rfl

/-! ## After the call -/

omit hA hc in
theorem mem_reconcileDiscovery {m : DeviceManager} {reason : String} {x : DeviceSnapshot} :
    x ∈ (m.reconcileDiscovery adapter discovered reason).1.devices ↔
      ∃ d ∈ merged m.devices discovered adapter, markMissing adapter discovered reason d = x := by
  rw [reconcileDiscovery_devices, List.mem_map]
  rfl

end

theorem markMissing_other {reason : String} (hd : d.adapter ≠ adapter) :
    markMissing adapter discovered reason d = d :=
  if_neg fun h => hd h.1

theorem markMissing_absent {reason : String} (ha : d.adapter = adapter)
    (hd : ¬ Current discovered d.key) :
    markMissing adapter discovered reason d = d.offline reason :=
  if_pos ⟨ha, fun h => hd (isCurrent_iff.1 h)⟩

/-- The devices of other adapters do not see the batch. -/
theorem filter_reconcileDiscovery {m : DeviceManager} (hA : ∀ r ∈ discovered, r.adapter = adapter)
    (hc : Consistent m.devices) (reason : String) :
    (m.reconcileDiscovery adapter discovered reason).1.devices.filter
        (fun d => d.adapter ≠ adapter) =
      m.devices.filter fun d => d.adapter ≠ adapter := by
  rw [← (merged_progress hA hc).others, reconcileDiscovery_devices, List.filter_map]
  have hcomp : (fun d : DeviceSnapshot => decide (d.adapter ≠ adapter)) ∘
      markMissing adapter discovered reason = fun d => decide (d.adapter ≠ adapter) := by
    funext d
    simp only [Function.comp_apply, DeviceSnapshot.adapter_of_key (markMissing_key ..)]
  rw [hcomp]
  refine (List.map_congr_left fun d hd => ?_).trans (List.map_id _)
  exact markMissing_other (by simpa using (List.mem_filter.1 hd).2)

/-- **Endpoint hand-over is lossless.**  A batch of one adapter removes a
    device only when exactly one key of the batch claims its endpoint, and
    that key is stored with it; no endpoint is lost, other adapters are
    untouched, and what else the batch does not mention goes offline. -/
theorem reconcile_lossless {m : DeviceManager} (hm : Reachable m) (adapter : String)
    (discovered : List DeviceSnapshot) (hA : ∀ r ∈ discovered, r.adapter = adapter)
    (reason : String) :
    (∀ d ∈ m.devices, ¬ (m.reconcileDiscovery adapter discovered reason).1.Stored d.key →
      d.adapter = adapter ∧ ¬ Current discovered d.key ∧ d.endpointId ≠ "" ∧
        ∃ k, Claims m.devices discovered k d.endpointId ∧
          (∀ k', Claims m.devices discovered k' d.endpointId → k' = k) ∧
          ∃ x ∈ (m.reconcileDiscovery adapter discovered reason).1.devices,
            x.key = k ∧ x.endpointId = d.endpointId) ∧
    (∀ d ∈ m.devices, d.endpointId ≠ "" →
      ∃ x ∈ (m.reconcileDiscovery adapter discovered reason).1.devices,
        x.endpointId = d.endpointId) ∧
    (m.reconcileDiscovery adapter discovered reason).1.devices.filter
        (fun d => d.adapter ≠ adapter) = m.devices.filter (fun d => d.adapter ≠ adapter) ∧
    ∀ x ∈ (m.reconcileDiscovery adapter discovered reason).1.devices,
      x.adapter = adapter → ¬ Current discovered x.key →
        x.connection.online = false ∧ x.connection.lastChangeReason = reason := by
  have hc := hm.consistent
  refine ⟨fun d hd hgone => ?_, fun d hd hne => ?_, filter_reconcileDiscovery hA hc reason, ?_⟩
  · obtain ⟨ha, hcur, k, hcl, huniq, hf⟩ := takesOver_of_removed hA hc hd fun x hx hk =>
      hgone ⟨_, mem_reconcileDiscovery.2 ⟨x, hx, rfl⟩, (markMissing_key ..).trans hk⟩
    obtain ⟨x, hx, hxk, hxe⟩ := exists_mem_merged_of_claims hA hc hcl hf
    exact ⟨ha, hcur, hcl.2.1, k, hcl, huniq, _, mem_reconcileDiscovery.2 ⟨x, hx, rfl⟩,
      (markMissing_key ..).trans hxk, (markMissing_endpointId ..).trans hxe⟩
  · obtain ⟨x, hx, hxe⟩ := exists_mem_merged_of_bound hA hc hd hne
    exact ⟨_, mem_reconcileDiscovery.2 ⟨x, hx, rfl⟩, (markMissing_endpointId ..).trans hxe⟩
  · intro x hx ha hcur
    obtain ⟨d, -, rfl⟩ := mem_reconcileDiscovery.1 hx
    rw [DeviceSnapshot.adapter_of_key (markMissing_key ..)] at ha
    rw [markMissing_key] at hcur
    rw [markMissing_absent ha hcur]
    exact ⟨rfl, rfl⟩

/-- A device re-appears under a new id: its old record is removed. -/
theorem reconcile_lossless_new_id :
    ∃ d ∈ (run [.upsert ⟨"d1", "axtp", {}, {}, {}, "ep", .localProjection⟩]).devices,
      ∃ k, Claims (run [.upsert ⟨"d1", "axtp", {}, {}, {}, "ep", .localProjection⟩]).devices
          [⟨"d2", "axtp", {}, {}, {}, "ep", .localProjection⟩] k d.endpointId ∧
        ∃ x ∈ ((run [.upsert ⟨"d1", "axtp", {}, {}, {}, "ep", .localProjection⟩]).reconcileDiscovery
            "axtp" [⟨"d2", "axtp", {}, {}, {}, "ep", .localProjection⟩] "gone").1.devices,
          x.key = k ∧ x.endpointId = d.endpointId := by
  obtain ⟨hremoved, -⟩ := reconcile_lossless
    (m := run [.upsert ⟨"d1", "axtp", {}, {}, {}, "ep", .localProjection⟩]) ⟨_, rfl⟩ "axtp"
    [⟨"d2", "axtp", {}, {}, {}, "ep", .localProjection⟩] (by decide) "gone"
  obtain ⟨-, -, -, k, hcl, -, hx⟩ := hremoved ⟨"d1", "axtp", {}, {}, {}, "ep", .localProjection⟩
    (by decide) (by unfold Stored; decide +kernel)
  exact ⟨_, by decide, k, hcl, hx⟩

end

end Axent
