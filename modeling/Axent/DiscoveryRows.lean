/-
  The results `DeviceManager::reconcile_discovery` reports for its rows.

  A plan reports one result for all rows of its key, so the results of a batch
  are a function of the key (`keyResult`, `reconcileDiscovery_results`).

  * What a plan does depends on the rows of its key only as a set (`SamePlan`),
    and the plans are applied in key order: a permutation of the batch changes
    neither the stored devices nor the result of a row (`reconcile_perm`).
  * For a batch of one adapter a result is positive exactly when the batch
    stores the key (`keyResult_accepted`), and then the stored device is the row
    with its effective endpoint; otherwise the key is untouched
    (`row_results_truthful`).
-/
import Axent.Discovery

namespace Axent

open Lib DeviceManager

/-! ## One result for every key -/

/-- The result of the plan of `key`, when the plans are applied in order. -/
def keyResult {n : ℕ} (adapter : String) (cur : DeviceKey → Bool)
    (counts : Std.TreeMap String ℕ compare) :
    List (DeviceKey × ClaimPlan n) → List DeviceSnapshot → DeviceKey → DeviceUpsertResult
  | [], _, _ => {}
  | p :: ps, devices, key =>
    if p.1 = key then (applyPlan adapter cur counts devices p.2).2
    else keyResult adapter cur counts ps (applyPlan adapter cur counts devices p.2).1 key

theorem reportRows_length {n : ℕ} (result : DeviceUpsertResult) (rows : List (Fin n)) :
    ∀ results : List DeviceUpsertResult,
      (reportRows rows result results).length = results.length := by
  induction rows with
  | nil => intro results; rfl
  | cons i rows ih =>
    intro results
    exact (ih (results.set i result)).trans (by simp)

theorem getElem?_reportRows {n : ℕ} (result : DeviceUpsertResult) (i : Fin n)
    (rows : List (Fin n)) :
    ∀ results : List DeviceUpsertResult, results.length = n →
      (reportRows rows result results)[i.1]? = if i ∈ rows then some result else results[i.1]? := by
  induction rows with
  | nil => intro results _; rfl
  | cons j rows ih =>
    intro results hlen
    have hset := ih (results.set j result) (by simpa using hlen)
    refine hset.trans ?_
    by_cases hi : i ∈ rows
    · simp [hi]
    · by_cases hij : i = j
      · subst hij
        simp [hi, hlen]
      · simp only [hi, hij, if_false, List.mem_cons, or_self]
        rw [List.getElem?_set_ne fun h => hij (Fin.ext h.symm)]

section
variable {discovered : List DeviceSnapshot} (adapter : String) (cur : DeviceKey → Bool)
  (counts : Std.TreeMap String ℕ compare)

theorem getElem?_foldl_applyPlan (i : Fin discovered.length)
    (ps : List (DeviceKey × ClaimPlan discovered.length)) :
    ∀ (devices : List DeviceSnapshot) (results : List DeviceUpsertResult),
      results.length = discovered.length →
      (ps.map Prod.fst).Nodup → (∀ p ∈ ps, p.2.rowIndices = rowsOf discovered p.1) →
      (ps.foldl (fun st p =>
        let r := applyPlan adapter cur counts st.1 p.2
        (r.1, reportRows p.2.rowIndices r.2 st.2)) (devices, results)).2[i.1]? =
        if (discovered.get i).key ∈ ps.map Prod.fst then
          some (keyResult adapter cur counts ps devices (discovered.get i).key)
        else results[i.1]? := by
  induction ps with
  | nil => intro devices results _ _ _; rfl
  | cons p ps ih =>
    intro devices results hlen hnd hrows
    obtain ⟨hp, hnd⟩ := List.nodup_cons.1 hnd
    rw [List.foldl_cons, ih _ _ ((reportRows_length ..).trans hlen) hnd
      fun q hq => hrows q (List.mem_cons_of_mem _ hq)]
    have hreport := getElem?_reportRows (applyPlan adapter cur counts devices p.2).2 i
      p.2.rowIndices results hlen
    rw [hrows p (List.mem_cons_self ..)] at hreport ⊢
    by_cases hk : p.1 = (discovered.get i).key
    · -- the row belongs to this plan, and to no later one
      rw [if_neg (hk ▸ hp), if_pos (by simp [hk]), keyResult, if_pos hk]
      exact hreport.trans (if_pos (mem_rowsOf.2 hk.symm))
    · have hni : i ∉ rowsOf discovered p.1 := fun h => hk (mem_rowsOf.1 h).symm
      rw [if_neg hni] at hreport
      rw [keyResult, if_neg hk]
      simp only [hreport, List.map_cons, List.mem_cons, Ne.symm hk, false_or]

theorem foldl_applyPlan_length (ps : List (DeviceKey × ClaimPlan discovered.length)) :
    ∀ (devices : List DeviceSnapshot) (results : List DeviceUpsertResult),
      (ps.foldl (fun st p =>
        let r := applyPlan adapter cur counts st.1 p.2
        (r.1, reportRows p.2.rowIndices r.2 st.2)) (devices, results)).2.length =
        results.length := by
  induction ps with
  | nil => intro devices results; rfl
  | cons p ps ih => intro devices results; exact (ih _ _).trans (reportRows_length ..)

end

theorem claimPlan_rowIndices (devices discovered : List DeviceSnapshot) (key : DeviceKey)
    (rows : List (Fin discovered.length)) :
    (claimPlan devices discovered key rows).rowIndices = rows := by
  have hrow : ∀ existing, (rowPlan discovered existing rows).rowIndices = rows := by
    intro existing
    unfold rowPlan
    split
    · rfl
    · split <;> rfl
  unfold claimPlan
  cases lookup DeviceSnapshot.key key devices with
  | none => exact hrow _
  | some stored =>
    simp only
    split_ifs <;> exact hrow _

/-- **The results of a batch**: those of the keys of its rows. -/
theorem reconcileDiscovery_results (m : DeviceManager) (adapter : String)
    (discovered : List DeviceSnapshot) (reason : String) :
    (m.reconcileDiscovery adapter discovered reason).2 =
      discovered.map fun r => keyResult adapter (isCurrent discovered)
        (claimCounts adapter (plans m.devices discovered)) (plans m.devices discovered)
        m.devices r.key := by
  refine List.ext_getElem? fun i => ?_
  rw [List.getElem?_map, reconcileDiscovery]
  by_cases hi : i < discovered.length
  · have h := getElem?_foldl_applyPlan adapter (isCurrent discovered)
      (claimCounts adapter (plans m.devices discovered)) ⟨i, hi⟩
      (plans m.devices discovered) m.devices (List.replicate discovered.length {})
      List.length_replicate plans_nodup fun p hp => by
        rw [(mem_plans.1 hp).2, claimPlan_rowIndices]
    rw [h, if_pos, List.getElem?_eq_getElem hi]
    · rfl
    · rw [← List.mem_reverse, mem_planned]
      exact ⟨_, List.get_mem _ _, rfl⟩
  · rw [List.getElem?_eq_none (show discovered.length ≤ i by omega)]
    refine List.getElem?_eq_none ?_
    rw [foldl_applyPlan_length, List.length_replicate]
    omega

/-! ## Enumeration order -/

/-- Two plans that neither `applyPlan` nor the counting of claims can tell
    apart.  The snapshot of invalid rows is only looked at when it is the
    stored device. -/
structure SamePlan {n n' : ℕ} (p : ClaimPlan n) (p' : ClaimPlan n') : Prop where
  valid : p.valid = p'.valid
  authoritative : p.valid = false → p.hasAuthoritativeClaim = p'.hasAuthoritativeClaim
  rejection : p.valid = false → p.rejectionStatus = p'.rejectionStatus
  snapshot : p.valid = true ∨ p.hasAuthoritativeClaim = true → p.snapshot = p'.snapshot

namespace SamePlan
variable {n n' : ℕ} {p : ClaimPlan n} {p' : ClaimPlan n'}

theorem applyPlan_eq (h : SamePlan p p') (adapter : String) (cur : DeviceKey → Bool)
    (counts : Std.TreeMap String ℕ compare) (devices : List DeviceSnapshot) :
    applyPlan adapter cur counts devices p = applyPlan adapter cur counts devices p' := by
  cases hv : p.valid with
  | true =>
    have hv' : p'.valid = true := h.valid ▸ hv
    rw [applyPlan_valid _ _ _ _ hv, applyPlan_valid _ _ _ _ hv', h.snapshot (.inl hv)]
  | false =>
    have hv' : p'.valid = false := h.valid ▸ hv
    cases ha : p.hasAuthoritativeClaim with
    | false =>
      have ha' : p'.hasAuthoritativeClaim = false := h.authoritative hv ▸ ha
      rw [applyPlan_rejected _ _ _ _ hv ha, applyPlan_rejected _ _ _ _ hv' ha', h.rejection hv]
    | true =>
      have ha' : p'.hasAuthoritativeClaim = true := h.authoritative hv ▸ ha
      rw [applyPlan_defended _ _ _ _ hv ha, applyPlan_defended _ _ _ _ hv' ha', h.rejection hv,
        h.snapshot (.inr ha)]

theorem claimedEndpoint_eq (h : SamePlan p p') (adapter : String) :
    claimedEndpoint adapter p = claimedEndpoint adapter p' := by
  have hiff : (p.valid = true ∨ p.hasAuthoritativeClaim = true) ↔
      (p'.valid = true ∨ p'.hasAuthoritativeClaim = true) := by
    rw [← h.valid]
    cases hv : p.valid with
    | true => simp
    | false => rw [h.authoritative hv]
  unfold claimedEndpoint
  by_cases hc : p.valid = true ∨ p.hasAuthoritativeClaim = true
  · simp only [hc, hiff.1 hc, h.snapshot hc]
  · simp only [hc, mt hiff.2 hc, false_and, if_false]

end SamePlan

/-- Two lists of plans for the same keys, in the same order. -/
def SamePlans {n n' : ℕ} :
    List (DeviceKey × ClaimPlan n) → List (DeviceKey × ClaimPlan n') → Prop :=
  List.Forall₂ fun p p' => p.1 = p'.1 ∧ SamePlan p.2 p'.2

namespace SamePlans
variable {n n' : ℕ} {ps : List (DeviceKey × ClaimPlan n)} {ps' : List (DeviceKey × ClaimPlan n')}

theorem claimCounts_eq (h : SamePlans ps ps') (adapter : String) :
    claimCounts adapter ps = claimCounts adapter ps' := by
  refine List.rel_foldl (P := Eq) ?_ rfl h
  rintro counts _ rfl p p' ⟨-, hp⟩
  simp only [hp.claimedEndpoint_eq adapter]

theorem foldl_devices_eq (h : SamePlans ps ps') (adapter : String) (cur : DeviceKey → Bool)
    (counts : Std.TreeMap String ℕ compare) (devices : List DeviceSnapshot) :
    ps.foldl (fun ds p => (applyPlan adapter cur counts ds p.2).1) devices =
      ps'.foldl (fun ds p => (applyPlan adapter cur counts ds p.2).1) devices := by
  refine List.rel_foldl (P := Eq) ?_ rfl h
  rintro ds _ rfl p p' ⟨-, hp⟩
  simp only [hp.applyPlan_eq]

theorem keyResult_eq (h : SamePlans ps ps') (adapter : String) (cur : DeviceKey → Bool)
    (counts : Std.TreeMap String ℕ compare) (key : DeviceKey) :
    ∀ devices : List DeviceSnapshot, keyResult adapter cur counts ps devices key =
      keyResult adapter cur counts ps' devices key := by
  induction h with
  | nil => intro devices; rfl
  | cons hp _ ih =>
    intro devices
    rw [keyResult, keyResult, hp.1, hp.2.applyPlan_eq, ih]

end SamePlans

section
variable {devices rows rows' : List DeviceSnapshot} {k : DeviceKey}

theorem claimPlan_rejectionStatus (devices rows : List DeviceSnapshot) (k : DeviceKey) :
    (claimPlan devices rows k (rowsOf rows k)).rejectionStatus =
      if effectiveEndpoint (storedEndpoint devices k)
          ((rowsOf rows k).map fun i => (rows.get i).endpointId) = none ∧
        (lookup DeviceSnapshot.key k devices).isSome then .endpointChangeRejected
      else .discoveryClaimConflict := by
  have hrow : (claimPlan devices rows k (rowsOf rows k)).rejectionStatus =
      (rowPlan rows (lookup DeviceSnapshot.key k devices) (rowsOf rows k)).rejectionStatus := by
    unfold claimPlan
    cases lookup DeviceSnapshot.key k devices with
    | none => rfl
    | some stored => simp only; split_ifs <;> rfl
  rw [hrow]
  unfold rowPlan storedEndpoint
  cases effectiveEndpoint ((lookup DeviceSnapshot.key k devices).elim ""
    DeviceSnapshot.endpointId) ((rowsOf rows k).map fun i => (rows.get i).endpointId) with
  | none => cases lookup DeviceSnapshot.key k devices <;> rfl
  | some e =>
    simp only [reduceCtorEq, false_and, if_false]
    split <;> rfl

theorem effectiveEndpoint_rowsOf {e : String} :
    effectiveEndpoint (storedEndpoint devices k)
        ((rowsOf rows k).map fun i => (rows.get i).endpointId) = some e ↔
      Effective (endpointsOf devices rows k) e := by
  rw [effectiveEndpoint_eq_some, endpointsOf, ← map_rowsOf, List.map_map]
  rfl

theorem Effective.perm {es es' : List String} (h : es.Perm es') {e : String} :
    Effective es e ↔ Effective es' e := by
  simp only [Effective, h.mem_iff]

section
variable (h : rows.Perm rows')
include h

theorem current_perm : Current rows k ↔ Current rows' k := by
  simp only [Current, h.mem_iff]

theorem isCurrent_perm : isCurrent rows = isCurrent rows' := by
  funext k
  rw [Bool.eq_iff_iff, isCurrent_iff, isCurrent_iff, current_perm h]

theorem endpointsOf_perm (devices : List DeviceSnapshot) (k : DeviceKey) :
    (endpointsOf devices rows k).Perm (endpointsOf devices rows' k) :=
  ((h.filter _).map _).cons _

theorem rowsValid_perm {e : String} :
    RowsValid devices rows k e ↔ RowsValid devices rows' k e := by
  rw [RowsValid, RowsValid, Effective.perm (endpointsOf_perm h devices k)]
  simp only [h.mem_iff]

theorem effectiveEndpoint_perm :
    effectiveEndpoint (storedEndpoint devices k)
        ((rowsOf rows k).map fun i => (rows.get i).endpointId) =
      effectiveEndpoint (storedEndpoint devices k)
        ((rowsOf rows' k).map fun i => (rows'.get i).endpointId) := by
  refine Option.ext fun e => ?_
  rw [effectiveEndpoint_rowsOf, effectiveEndpoint_rowsOf,
    Effective.perm (endpointsOf_perm h devices k)]

/-- **The plan of a key does not depend on the order of its rows.** -/
theorem claimPlan_perm (hk : Current rows k) :
    SamePlan (claimPlan devices rows k (rowsOf rows k))
      (claimPlan devices rows' k (rowsOf rows' k)) := by
  have hk' := (current_perm h).1 hk
  have hstatus : (claimPlan devices rows k (rowsOf rows k)).rejectionStatus =
      (claimPlan devices rows' k (rowsOf rows' k)).rejectionStatus := by
    rw [claimPlan_rejectionStatus, claimPlan_rejectionStatus, effectiveEndpoint_perm h]
  by_cases hv : ∃ e, RowsValid devices rows k e
  · obtain ⟨e, hv⟩ := hv
    obtain ⟨hval, r, hr, hrk, hs⟩ := claimPlan_valid hk hv
    obtain ⟨hval', r', hr', hrk', hs'⟩ := claimPlan_valid hk' ((rowsValid_perm h).1 hv)
    refine ⟨hval.trans hval'.symm, fun hf => ?_, fun _ => hstatus, fun _ => ?_⟩
    · exact absurd (hval.symm.trans hf) (by decide)
    · rw [hs, hs']
      exact hv.2 r hr hrk r' (h.mem_iff.2 hr') hrk'
  · push Not at hv
    obtain ⟨hval, hauth⟩ := claimPlan_invalid hk hv
    obtain ⟨hval', hauth'⟩ := claimPlan_invalid hk' fun e he => hv e ((rowsValid_perm h).2 he)
    rcases hauth with ⟨hne, ha, hl⟩ | ⟨he, ha⟩
    · obtain ⟨-, ha', hl'⟩ := hauth'.resolve_right fun h' => hne h'.1
      refine ⟨hval.trans hval'.symm, fun _ => ha.trans ha'.symm, fun _ => hstatus, fun _ => ?_⟩
      exact Option.some.inj (hl.symm.trans hl')
    · obtain ⟨-, ha'⟩ := hauth'.resolve_left fun h' => h'.1 he
      refine ⟨hval.trans hval'.symm, fun _ => ha.trans ha'.symm, fun _ => hstatus, ?_⟩
      rintro (hf | hf)
      · exact absurd (hval.symm.trans hf) (by decide)
      · exact absurd (ha.symm.trans hf) (by decide)

omit h in
theorem plans_eq_map (devices rows : List DeviceSnapshot) :
    plans devices rows = ((plans devices rows).map Prod.fst).map fun k =>
      (k, claimPlan devices rows k (rowsOf rows k)) := by
  rw [List.map_map]
  conv_lhs => rw [← List.map_id (plans devices rows)]
  refine List.map_congr_left fun p hp => ?_
  exact Prod.ext rfl (mem_plans.1 (show (p.1, p.2) ∈ plans devices rows from hp)).2

theorem plans_perm (devices : List DeviceSnapshot) :
    SamePlans (plans devices rows) (plans devices rows') := by
  have hkeys : (plans devices rows).map Prod.fst = (plans devices rows').map Prod.fst := by
    refine keys_toList_ext fun k => ?_
    rw [Std.TreeMap.mem_map, Std.TreeMap.mem_map, ← Std.TreeMap.contains_iff_mem,
      ← Std.TreeMap.contains_iff_mem]
    exact (congrArg (· k = true) (isCurrent_perm h)).to_iff
  rw [plans_eq_map devices rows, plans_eq_map devices rows', hkeys, SamePlans,
    List.forall₂_map_left_iff, List.forall₂_map_right_iff, List.forall₂_same]
  intro k hk
  rw [← hkeys, ← List.mem_reverse, mem_planned] at hk
  exact ⟨rfl, claimPlan_perm h hk⟩

end

/-- **Discovery does not depend on the order of the rows**: a permutation of
    the batch leaves the same stored devices in the same order, and every row
    has the same result wherever it stands. -/
theorem reconcile_perm (m : DeviceManager) (adapter reason : String)
    {rows rows' : List DeviceSnapshot} (h : rows.Perm rows') :
    (m.reconcileDiscovery adapter rows reason).1 =
        (m.reconcileDiscovery adapter rows' reason).1 ∧
      (m.reconcileDiscovery adapter rows reason).2.length = rows.length ∧
      (m.reconcileDiscovery adapter rows' reason).2.length = rows'.length ∧
      ∀ (i j : ℕ) (r : DeviceSnapshot), rows[i]? = some r → rows'[j]? = some r →
        (m.reconcileDiscovery adapter rows reason).2[i]? =
          (m.reconcileDiscovery adapter rows' reason).2[j]? := by
  have hps := plans_perm h m.devices
  have hcounts := hps.claimCounts_eq adapter
  have hcur := isCurrent_perm h
  refine ⟨?_, ?_, ?_, fun i j r hi hj => ?_⟩
  · have hmark : markMissing adapter rows reason = markMissing adapter rows' reason := by
      funext d
      simp only [markMissing, hcur]
    have hdevices : (m.reconcileDiscovery adapter rows reason).1.devices =
        (m.reconcileDiscovery adapter rows' reason).1.devices := by
      rw [reconcileDiscovery_devices, reconcileDiscovery_devices, hmark, hcounts]
      unfold mergePlans
      rw [hcur, hps.foldl_devices_eq]
    exact congrArg DeviceManager.mk hdevices
  · rw [reconcileDiscovery_results, List.length_map]
  · rw [reconcileDiscovery_results, List.length_map]
  · rw [reconcileDiscovery_results, reconcileDiscovery_results, List.getElem?_map,
      List.getElem?_map, hi, hj, Option.map_some, Option.map_some, hcounts, hcur,
      hps.keyResult_eq]

/-- Two rows of one device that claim different endpoints, in both orders. -/
theorem reconcile_perm_conflict :
    (({} : DeviceManager).reconcileDiscovery "axtp"
        [⟨"d", "axtp", {}, {}, {}, "e1", .localProjection⟩,
          ⟨"d", "axtp", {}, {}, {}, "e2", .localProjection⟩] "gone").1 =
      (({} : DeviceManager).reconcileDiscovery "axtp"
        [⟨"d", "axtp", {}, {}, {}, "e2", .localProjection⟩,
          ⟨"d", "axtp", {}, {}, {}, "e1", .localProjection⟩] "gone").1 :=
  (reconcile_perm {} "axtp" "gone" (List.Perm.swap _ _ _)).1

end

/-! ## What a result says -/

section
variable {devices rows : List DeviceSnapshot} {adapter : String} {k : DeviceKey}
  {d : DeviceSnapshot}

section
variable {taken done : List DeviceKey} {ds : List DeviceSnapshot}
  (hA : ∀ r ∈ rows, r.adapter = adapter) (hc : Consistent devices)
include hA hc

/-- **The result of a plan is positive exactly when the batch stores its
    key.** -/
theorem Progress.applyPlan_accepted (h : Progress devices rows adapter taken done ds)
    (hk : Current rows k) (hnd : k ∉ done) (hdone : ∀ k ∈ done, Current rows k) :
    (Axent.applyPlan adapter (isCurrent rows) (claimCounts adapter (plans devices rows)) ds
      (claimPlan devices rows k (rowsOf rows k))).2.accepted = true ↔
      ∃ s, Refreshes devices rows adapter k s := by
  by_cases hv : ∃ e, RowsValid devices rows k e
  · obtain ⟨e, hv⟩ := hv
    obtain ⟨hval, r, hr, rfl, hs⟩ := claimPlan_valid hk hv
    rw [applyPlan_valid _ _ _ _ hval, hs]
    have hcl : ∀ e', Claims devices rows r.key e' ↔ e' = e ∧ e' ≠ "" :=
      fun _ => claims_iff_of_valid hk hv
    have herase := h.erase hA (s := r.withEndpoint e) hk hcl hdone
    by_cases hf : e = "" ∨ Free devices adapter e
    · have hrefresh : Refreshes devices rows adapter r.key (r.withEndpoint e) :=
        ⟨e, hv, hf, r, hr, rfl, rfl⟩
      refine iff_of_true (upsertLocked_accepted ?_ ?_) ⟨_, hrefresh⟩
      · exact herase.noConflict hA hc (s := r.withEndpoint e) hk hcl (List.mem_cons_self ..) hf
      · exact herase.compatible (s := r.withEndpoint e) hk hnd hrefresh
    · obtain ⟨hne, hnf⟩ := not_or.1 hf
      rw [upsertLocked_of_conflict (herase.conflict (s := r.withEndpoint e) (hA r hr) hne hnf _)]
      refine iff_of_false Bool.false_ne_true ?_
      rintro ⟨s, e', hv', hf', -⟩
      obtain rfl := hv.1.unique hv'.1
      exact hf hf'
  · push Not at hv
    refine iff_of_false ?_ fun ⟨s, e, he, _⟩ => hv e he
    -- both reasons to reject invalid rows are negative
    have hrej : (⟨(claimPlan devices rows k (rowsOf rows k)).rejectionStatus⟩ :
        DeviceUpsertResult).accepted = false := by
      rw [claimPlan_rejectionStatus]
      split_ifs <;> rfl
    obtain ⟨hval, ⟨-, hauth, -⟩ | ⟨-, hauth⟩⟩ := claimPlan_invalid hk hv
    · rw [applyPlan_defended _ _ _ _ hval hauth, hrej]
      exact Bool.false_ne_true
    · rw [applyPlan_rejected _ _ _ _ hval hauth, hrej]
      exact Bool.false_ne_true

/-- The same for the loop over the plans: what is applied before and after
    the plan of a key does not change its result. -/
theorem Progress.keyResult_accepted (ps : List (DeviceKey × ClaimPlan rows.length)) :
    ∀ {taken done : List DeviceKey} {ds : List DeviceSnapshot},
      Progress devices rows adapter taken done ds → (∀ k ∈ done, Current rows k) →
      (∀ p ∈ ps, p ∈ plans devices rows) → (ps.map Prod.fst).Nodup → (∀ p ∈ ps, p.1 ∉ done) →
      k ∈ ps.map Prod.fst →
      ((keyResult adapter (isCurrent rows) (claimCounts adapter (plans devices rows)) ps ds
        k).accepted = true ↔ ∃ s, Refreshes devices rows adapter k s) := by
  induction ps with
  | nil => intro taken done ds _ _ _ _ _ hk; exact absurd hk List.not_mem_nil
  | cons p ps ih =>
    obtain ⟨k', plan⟩ := p
    intro taken done ds h hdone hps hnodup hnew hk
    obtain ⟨hk', rfl⟩ := mem_plans.1 (hps _ (List.mem_cons_self ..))
    obtain ⟨hkps, hnodup⟩ := List.nodup_cons.1 hnodup
    have hnd := hnew _ (List.mem_cons_self ..)
    rw [keyResult]
    by_cases he : k' = k
    · subst he
      rw [if_pos rfl]
      exact h.applyPlan_accepted hA hc hk' hnd hdone
    · rw [if_neg he]
      refine ih (h.applyPlan hA hc hk' hnd hdone) (List.forall_mem_cons.2 ⟨hk', hdone⟩)
        (fun q hq => hps q (List.mem_cons_of_mem _ hq)) hnodup (fun q hq hq' => ?_)
        ((List.mem_cons.1 hk).resolve_left fun h => he h.symm)
      rcases List.mem_cons.1 hq' with h' | h'
      · exact hkps (List.mem_map.2 ⟨q, hq, h'⟩)
      · exact hnew q (List.mem_cons_of_mem _ hq) h'

end

theorem markMissing_current {reason : String} (hd : Current rows d.key) :
    markMissing adapter rows reason d = d :=
  if_neg fun h => h.2 (isCurrent_iff.2 hd)

/-- A key of the batch is stored after the call as the plans left it. -/
theorem mem_reconcileDiscovery_current {m : DeviceManager} {reason : String}
    (hd : Current rows d.key) :
    d ∈ (m.reconcileDiscovery adapter rows reason).1.devices ↔
      d ∈ merged m.devices rows adapter := by
  rw [mem_reconcileDiscovery]
  constructor
  · rintro ⟨x, hx, rfl⟩
    rw [markMissing_key] at hd
    rwa [markMissing_current hd]
  · exact fun h => ⟨d, h, markMissing_current hd⟩

theorem get_eq_some {m : DeviceManager} (hm : Distinct DeviceSnapshot.key m.devices)
    {adapter id : String} : m.get adapter id = some d ↔ d ∈ m.devices ∧ d.key = (adapter, id) := by
  rw [← hm.lookup_iff]
  have hfun : (fun d : DeviceSnapshot => decide (d.adapter = adapter ∧ d.id = id)) =
      fun d => decide (d.key = (adapter, id)) := by
    funext x
    simp [DeviceSnapshot.key]
  rw [DeviceManager.get, hfun, lookup]

/-- **Row results tell the truth.**  The key of an accepted row is stored as
    the row, with the effective endpoint of the key in place of an empty one;
    the key of a rejected row is as it was before the call. -/
theorem row_results_truthful {m : DeviceManager} (hm : Reachable m) (adapter reason : String)
    {rows : List DeviceSnapshot} (hA : ∀ r ∈ rows, r.adapter = adapter) {i : ℕ}
    {r : DeviceSnapshot} {result : DeviceUpsertResult} (hr : rows[i]? = some r)
    (hres : (m.reconcileDiscovery adapter rows reason).2[i]? = some result) :
    (result.accepted = true → ∃ e, Effective (endpointsOf m.devices rows r.key) e ∧
      (m.reconcileDiscovery adapter rows reason).1.get r.adapter r.id =
        some (r.withEndpoint (if r.endpointId = "" then e else r.endpointId))) ∧
    (result.accepted = false →
      (m.reconcileDiscovery adapter rows reason).1.get r.adapter r.id =
        m.get r.adapter r.id) := by
  have hc := hm.consistent
  have hc' : Consistent (m.reconcileDiscovery adapter rows reason).1.devices :=
    (hm.apply (.reconcileDiscovery adapter rows reason)).consistent
  have hmem : r ∈ rows := List.mem_of_getElem? hr
  have hcur : Current rows r.key := ⟨r, hmem, rfl⟩
  have hp := merged_progress hA hc
  have hdone : r.key ∈ ((plans m.devices rows).map Prod.fst).reverse := mem_planned.2 hcur
  have haccepted : result.accepted = true ↔ ∃ s, Refreshes m.devices rows adapter r.key s := by
    rw [reconcileDiscovery_results, List.getElem?_map, hr, Option.map_some, Option.some.injEq]
      at hres
    subst hres
    exact (Progress.init hc).keyResult_accepted hA hc _ (by simp) (fun _ hp => hp) plans_nodup
      (by simp) (List.mem_reverse.1 hdone)
  constructor
  · intro hacc
    obtain ⟨s, hs⟩ := haccepted.1 hacc
    obtain ⟨e, hv, hf, r', hr', hk', rfl⟩ := hs
    -- a non-empty endpoint of a row is the effective one
    have heff : (if r.endpointId = "" then e else r.endpointId) = e := by
      have hre : r.endpointId ∈ endpointsOf m.devices rows r.key :=
        List.mem_cons_of_mem _ (List.mem_map_of_mem (List.mem_filter.2 ⟨hmem, by simp⟩))
      split_ifs with hempty
      · rfl
      · exact (hv.1.1 _ hre).resolve_left hempty
    refine ⟨e, hv.1, (get_eq_some hc'.keys).2 ⟨?_, rfl⟩⟩
    rw [heff, mem_reconcileDiscovery_current (by exact hcur)]
    exact (hp.refreshed r.key hdone _ ⟨e, hv, hf, r', hr', hk', rfl⟩ (r.withEndpoint e) rfl).2
      (hv.2 r hmem rfl r' hr' hk')
  · intro hrej
    have hno : ∀ s, ¬ Refreshes m.devices rows adapter r.key s := fun s hs => by
      rw [haccepted.2 ⟨s, hs⟩] at hrej
      exact Bool.false_ne_true hrej.symm
    refine Option.ext fun d => ?_
    rw [get_eq_some hc'.keys, get_eq_some hc.keys]
    refine and_congr_left fun (hk : d.key = r.key) => ?_
    rw [mem_reconcileDiscovery_current (hk ▸ hcur)]
    exact hp.kept d (hk ▸ hdone) (hk ▸ hno)

/-- A bound device is discovered again without its endpoint: the row is
    refreshed and keeps it. -/
theorem row_results_truthful_refreshed :
    ∃ e, Effective (endpointsOf
        (run [.upsert ⟨"d", "axtp", {}, {}, {}, "ep", .localProjection⟩]).devices
        [⟨"d", "axtp", {}, {}, {}, "", .localProjection⟩] ("axtp", "d")) e ∧
      ((run [.upsert ⟨"d", "axtp", {}, {}, {}, "ep", .localProjection⟩]).reconcileDiscovery "axtp"
        [⟨"d", "axtp", {}, {}, {}, "", .localProjection⟩] "gone").1.get "axtp" "d" =
        some ⟨"d", "axtp", {}, {}, {}, e, .localProjection⟩ := by
  have hrow : [(⟨"d", "axtp", {}, {}, {}, "", .localProjection⟩ : DeviceSnapshot)][0]? =
      some ⟨"d", "axtp", {}, {}, {}, "", .localProjection⟩ := rfl
  exact (row_results_truthful
    (m := run [.upsert ⟨"d", "axtp", {}, {}, {}, "ep", .localProjection⟩]) ⟨_, rfl⟩ "axtp" "gone"
    (by decide) hrow (show _ = some ⟨.refreshed⟩ by decide +kernel)).1 rfl

end

end Axent
