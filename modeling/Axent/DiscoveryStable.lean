/-
  Repeating a discovery batch.

  After a batch of one adapter the stored endpoint of a refreshed key is its
  effective one and every other key of the batch is as before, so the keys
  claim the same endpoints as before the batch (`claims_after`).  What a second
  batch would take over is gone already and what it would store is stored:
  every plan of the second batch is the identity (`applyPlan_after`), and the
  registry is a fixed point (`reconcile_idempotent`).
-/
import Axent.DiscoveryRows

namespace Axent

open Lib DeviceManager

theorem upsertLocked_of_mem {devices : List DeviceSnapshot} {s : DeviceSnapshot}
    (hk : Distinct DeviceSnapshot.key devices) (hs : s ∈ devices) (allow : Bool) :
    (upsertLocked devices s allow).1 = devices := by
  have hu := upsertLocked_spec devices s allow
  generalize (upsertLocked devices s allow).1 = devices' at hu ⊢
  generalize (upsertLocked devices s allow).2.status = status at hu
  cases hu with
  | conflict => rfl
  | changeRejected => rfl
  | inserted _ hn => exact absurd rfl (hn s hs)
  | @refreshed _ stored hst =>
    obtain rfl := Option.some.inj ((hk.lookup_iff.2 ⟨hs, rfl⟩).symm.trans hst)
    have hm : s.withEndpoint (mergedEndpoint s s) = s := by
      rw [mergedEndpoint, ite_self, DeviceSnapshot.withEndpoint_self]
    rw [hm]
    exact updateFirst_eq_self fun d hd hdk => hk.eq hs hd (of_decide_eq_true hdk).symm

theorem Effective.replace {stored e : String} {es : List String} (h : Effective (stored :: es) e)
    (e' : String) : Effective (e :: es) e' ↔ Effective (stored :: es) e' := by
  have he : Effective (e :: es) e := by
    refine ⟨fun x hx => ?_, .inr (List.mem_cons_self ..)⟩
    rcases List.mem_cons.1 hx with rfl | hx
    · exact .inr rfl
    · exact h.1 x (List.mem_cons_of_mem _ hx)
  constructor
  · intro h'; rwa [h'.unique he]
  · intro h'; rwa [h'.unique h]

/-! ## What a batch leaves -/

/-- The stored devices `after` a batch of `adapter`, as a second batch sees
    them. -/
structure Settled (devices rows : List DeviceSnapshot) (adapter : String)
    (after : List DeviceSnapshot) : Prop where
  consistent : Consistent after
  others : ∀ d, d.adapter ≠ adapter → (d ∈ after ↔ d ∈ devices)
  absent : ∀ d ∈ after, d.adapter = adapter → ¬ Current rows d.key →
    ¬ ∃ k, TakesOver devices rows adapter k d.endpointId
  kept : ∀ k, Current rows k → (∀ s, ¬ Refreshes devices rows adapter k s) →
    ∀ d, d.key = k → (d ∈ after ↔ d ∈ devices)
  refreshed : ∀ k s, Current rows k → Refreshes devices rows adapter k s →
    ∀ d, d.key = k → (d ∈ after ↔ d = s)

theorem settled_reconcileDiscovery {m : DeviceManager} (hm : Reachable m) {adapter : String}
    {rows : List DeviceSnapshot} (hA : ∀ r ∈ rows, r.adapter = adapter) (reason : String) :
    Settled m.devices rows adapter (m.reconcileDiscovery adapter rows reason).1.devices := by
  have hc := hm.consistent
  have hp := merged_progress hA hc
  refine ⟨(hm.apply (.reconcileDiscovery adapter rows reason)).consistent, ?_, ?_, ?_, ?_⟩
  · intro d hd
    have hother : d ∈ (m.reconcileDiscovery adapter rows reason).1.devices.filter
        (fun d => d.adapter ≠ adapter) ↔ d ∈ m.devices.filter fun d => d.adapter ≠ adapter := by
      rw [filter_reconcileDiscovery hA hc]
    simpa [List.mem_filter, hd] using hother
  · intro x hx ha hcur
    obtain ⟨d, hd, rfl⟩ := mem_reconcileDiscovery.1 hx
    rw [DeviceSnapshot.adapter_of_key (markMissing_key ..)] at ha
    rw [markMissing_key] at hcur
    rw [markMissing_endpointId]
    exact ((mem_merged_absent hA hc ha hcur).1 hd).2
  · rintro k hk hno d rfl
    rw [mem_reconcileDiscovery_current hk]
    exact hp.kept d (mem_planned.2 hk) hno
  · rintro k s hk hs d rfl
    rw [mem_reconcileDiscovery_current hk]
    exact hp.refreshed d.key (mem_planned.2 hk) s hs d rfl

namespace Settled
variable {devices rows after : List DeviceSnapshot} {adapter : String} {k : DeviceKey}

theorem free_iff (h : Settled devices rows adapter after) (e : String) :
    Free after adapter e ↔ Free devices adapter e := by
  constructor
  · intro hf d hd he
    by_contra ha
    exact ha (hf d ((h.others d ha).2 hd) he)
  · intro hf d hd he
    by_contra ha
    exact ha (hf d ((h.others d ha).1 hd) he)

section
variable (hc : Consistent devices)
include hc

/-- A key that the batch does not store keeps its endpoint. -/
theorem storedEndpoint_kept (h : Settled devices rows adapter after) (hk : Current rows k)
    (hno : ∀ s, ¬ Refreshes devices rows adapter k s) :
    storedEndpoint after k = storedEndpoint devices k := by
  have hl : lookup DeviceSnapshot.key k after = lookup DeviceSnapshot.key k devices := by
    refine Option.ext fun d => ?_
    rw [h.consistent.keys.lookup_iff, hc.keys.lookup_iff]
    exact and_congr_left (h.kept k hk hno d)
  rw [storedEndpoint, hl, storedEndpoint]

omit hc in
/-- A key that the batch stores has its effective endpoint. -/
theorem storedEndpoint_refreshed (h : Settled devices rows adapter after) (hk : Current rows k)
    {s : DeviceSnapshot} (hs : Refreshes devices rows adapter k s) :
    storedEndpoint after k = s.endpointId := by
  have hmem : s ∈ after := (h.refreshed k s hk hs s hs.key_eq).2 rfl
  rw [storedEndpoint, h.consistent.keys.lookup_iff.2 ⟨hmem, hs.key_eq⟩]
  rfl

/-- The rows of a key are as valid after the batch as before it. -/
theorem rowsValid_iff (h : Settled devices rows adapter after) (hk : Current rows k)
    (e : String) : RowsValid after rows k e ↔ RowsValid devices rows k e := by
  refine and_congr_left fun _ => ?_
  unfold endpointsOf
  by_cases hr : ∃ s, Refreshes devices rows adapter k s
  · obtain ⟨s, hs⟩ := hr
    rw [h.storedEndpoint_refreshed hk hs]
    obtain ⟨e', hv, -, r, -, -, rfl⟩ := hs
    exact hv.1.replace e
  · push Not at hr
    rw [h.storedEndpoint_kept hc hk hr]

/-- **A key claims the same endpoint after the batch as before it.** -/
theorem claims_iff (h : Settled devices rows adapter after) (e : String) :
    Claims after rows k e ↔ Claims devices rows k e := by
  refine and_congr_right fun hk => and_congr_right fun _ => ?_
  simp only [h.rowsValid_iff hc hk]
  refine or_congr_right (and_congr_right fun hv => ?_)
  rw [h.storedEndpoint_kept hc hk fun s ⟨e', hv', _⟩ => hv e' hv']

theorem takesOver_iff (h : Settled devices rows adapter after) (e : String) :
    TakesOver after rows adapter k e ↔ TakesOver devices rows adapter k e := by
  simp only [TakesOver, h.claims_iff hc, h.free_iff]

/-! ## The second batch -/

variable (hA : ∀ r ∈ rows, r.adapter = adapter)
include hA

theorem eraseStaleOwners_eq (h : Settled devices rows adapter after) {s : DeviceSnapshot}
    (hs : Current rows s.key)
    (hcl : ∀ e, Claims after rows s.key e ↔ e = s.endpointId ∧ e ≠ "") :
    eraseStaleOwners adapter (isCurrent rows)
      (claimCount (claimCounts adapter (plans after rows)) s) s after = after := by
  have hmem : ∀ x ∈ after, x ∈ eraseStaleOwners adapter (isCurrent rows)
      (claimCount (claimCounts adapter (plans after rows)) s) s after := by
    intro x hx
    refine ((Progress.init h.consistent).mem_eraseStaleOwners hA hs hcl x).2 ⟨hx, ?_⟩
    rintro ⟨ht, ha, hcur⟩
    exact h.absent x hx ha hcur ⟨s.key, (h.takesOver_iff hc _).1 ht⟩
  unfold eraseStaleOwners at hmem ⊢
  split_ifs at hmem ⊢
  · exact List.filter_eq_self.2 fun x hx => (List.mem_filter.1 (hmem x hx)).2
  · rfl

/-- **A plan of the second batch changes nothing.** -/
theorem applyPlan_eq (h : Settled devices rows adapter after) (hk : Current rows k) :
    (applyPlan adapter (isCurrent rows) (claimCounts adapter (plans after rows)) after
      (claimPlan after rows k (rowsOf rows k))).1 = after := by
  by_cases hv : ∃ e, RowsValid after rows k e
  · obtain ⟨e, hv⟩ := hv
    obtain ⟨hval, r, hr, rfl, hs⟩ := claimPlan_valid hk hv
    have hcl : ∀ e', Claims after rows r.key e' ↔ e' = e ∧ e' ≠ "" :=
      fun _ => claims_iff_of_valid hk hv
    rw [applyPlan_valid _ _ _ _ hval, hs,
      h.eraseStaleOwners_eq hc hA (s := r.withEndpoint e) hk hcl]
    by_cases hf : e = "" ∨ Free after adapter e
    · -- the first batch stored this very snapshot
      refine upsertLocked_of_mem h.consistent.keys ?_ _
      have hrefresh : Refreshes devices rows adapter r.key (r.withEndpoint e) :=
        ⟨e, (h.rowsValid_iff hc hk e).1 hv, hf.imp_right (h.free_iff e).1, r, hr, rfl, rfl⟩
      exact (h.refreshed r.key _ hk hrefresh (r.withEndpoint e) rfl).2 rfl
    · obtain ⟨hne, hnf⟩ := not_or.1 hf
      have hinit : Progress after rows adapter [] [] after := .init h.consistent
      rw [upsertLocked_of_conflict (hinit.conflict (s := r.withEndpoint e) (hA r hr) hne hnf _)]
  · push Not at hv
    have hplan := claimPlan_invalid hk hv
    generalize claimPlan after rows k (rowsOf rows k) = plan at hplan ⊢
    obtain ⟨hval, ⟨-, hauth, hl⟩ | ⟨-, hauth⟩⟩ := hplan
    · obtain ⟨-, rfl⟩ := lookup_mem hl
      rw [applyPlan_defended _ _ _ _ hval hauth]
      refine h.eraseStaleOwners_eq hc hA hk fun e => ?_
      rw [claims_iff_of_invalid hk hv, storedEndpoint, hl]
      rfl
    · rw [applyPlan_rejected _ _ _ _ hval hauth]

theorem mergePlans_eq (h : Settled devices rows adapter after)
    (ps : List (DeviceKey × ClaimPlan rows.length)) (hps : ∀ p ∈ ps, p ∈ plans after rows) :
    mergePlans adapter rows (claimCounts adapter (plans after rows)) ps after = after := by
  induction ps with
  | nil => rfl
  | cons p ps ih =>
    obtain ⟨k, plan⟩ := p
    obtain ⟨hk, rfl⟩ := mem_plans.1 (hps _ (List.mem_cons_self ..))
    rw [mergePlans, List.foldl_cons, h.applyPlan_eq hc hA hk]
    exact ih fun q hq => hps q (List.mem_cons_of_mem _ hq)

end

end Settled

theorem markMissing_idempotent (adapter : String) (rows : List DeviceSnapshot) (reason : String)
    (d : DeviceSnapshot) :
    markMissing adapter rows reason (markMissing adapter rows reason d) =
      markMissing adapter rows reason d := by
  unfold markMissing
  split_ifs with h₁ h₂
  · rfl
  · exact absurd h₁ h₂
  · rfl

/-- **Discovery is idempotent**: the same batch a second time leaves the
    stored devices exactly as the first left them. -/
theorem reconcile_idempotent {m : DeviceManager} (hm : Reachable m) (adapter reason : String)
    {rows : List DeviceSnapshot} (hA : ∀ r ∈ rows, r.adapter = adapter) :
    ((m.reconcileDiscovery adapter rows reason).1.reconcileDiscovery adapter rows reason).1 =
      (m.reconcileDiscovery adapter rows reason).1 := by
  have hs := settled_reconcileDiscovery hm hA reason
  have hmerged := hs.mergePlans_eq hm.consistent hA _ fun _ hp => hp
  have hdevices : ((m.reconcileDiscovery adapter rows reason).1.reconcileDiscovery adapter rows
      reason).1.devices = (m.reconcileDiscovery adapter rows reason).1.devices := by
    rw [reconcileDiscovery_devices, hmerged]
    conv_rhs => rw [reconcileDiscovery_devices]
    rw [reconcileDiscovery_devices, List.map_map]
    exact List.map_congr_left fun d _ => markMissing_idempotent adapter rows reason d
  exact congrArg DeviceManager.mk hdevices

/-- Two new devices claim the endpoint of a third one that is gone. -/
theorem reconcile_idempotent_conflict :
    (((run [.upsert ⟨"d1", "axtp", {}, {}, {}, "ep", .localProjection⟩]).reconcileDiscovery "axtp"
        [⟨"d2", "axtp", {}, {}, {}, "ep", .localProjection⟩,
          ⟨"d3", "axtp", {}, {}, {}, "ep", .localProjection⟩] "gone").1.reconcileDiscovery "axtp"
        [⟨"d2", "axtp", {}, {}, {}, "ep", .localProjection⟩,
          ⟨"d3", "axtp", {}, {}, {}, "ep", .localProjection⟩] "gone").1 =
      ((run [.upsert ⟨"d1", "axtp", {}, {}, {}, "ep", .localProjection⟩]).reconcileDiscovery "axtp"
        [⟨"d2", "axtp", {}, {}, {}, "ep", .localProjection⟩,
          ⟨"d3", "axtp", {}, {}, {}, "ep", .localProjection⟩] "gone").1 :=
  reconcile_idempotent ⟨_, rfl⟩ "axtp" "gone" (by decide)

end Axent
