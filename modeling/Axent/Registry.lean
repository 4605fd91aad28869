/-
  Runs of the registry: any sequence of `upsert`, `reconcile_discovery` and
  the two `mark_offline` overloads, from the empty registry.

  `Consistent` is an invariant of all runs (`run_consistent`).  The bindings
  are also stable: a plan only rewrites keys of its batch and only erases keys
  that are not in it (`Keeps`), so within one operation a bound key is either
  kept with its endpoint or gone for good, and along a run a key that stays
  stored keeps its endpoint.
-/
import Mathlib.Data.List.Induction
import Axent.Reconcile

namespace Axent

open Lib

/-! ## Operations and runs -/

/-- A mutating call on the registry. -/
inductive RegistryOp where
  | upsert (snapshot : DeviceSnapshot)
  | reconcileDiscovery (adapter : String) (discovered : List DeviceSnapshot)
      (missingReason : String)
  | markOffline (adapter id reason : String)
  | markOfflineById (id reason : String)

namespace DeviceManager

/-- The registry after a call. -/
def apply (m : DeviceManager) : RegistryOp → DeviceManager
  | .upsert snapshot => (m.upsert snapshot).1
  | .reconcileDiscovery adapter discovered missingReason =>
    (m.reconcileDiscovery adapter discovered missingReason).1
  | .markOffline adapter id reason => m.markOffline adapter id reason
  | .markOfflineById id reason => m.markOfflineById id reason

/-- The registry after a sequence of calls on the empty one. -/
def run (ops : List RegistryOp) : DeviceManager := ops.foldl apply {}

/-- A device is stored under `k`. -/
def Stored (m : DeviceManager) (k : DeviceKey) : Prop := ∃ d ∈ m.devices, d.key = k

end DeviceManager

/-- A registry some run reaches. -/
def Reachable (m : DeviceManager) : Prop := ∃ ops, m = DeviceManager.run ops

open DeviceManager

theorem run_concat (ops : List RegistryOp) (op : RegistryOp) :
    run (ops ++ [op]) = (run ops).apply op := by
  simp [run]

/-! ## The devices a batch leaves -/

/-- The stored devices after applying plans in order. -/
def mergePlans (adapter : String) (discovered : List DeviceSnapshot)
    (counts : Std.TreeMap String ℕ compare)
    (ps : List (DeviceKey × ClaimPlan discovered.length)) (devices : List DeviceSnapshot) :
    List DeviceSnapshot :=
  ps.foldl (fun ds p => (applyPlan adapter (isCurrent discovered) counts ds p.2).1) devices

theorem reconcileDiscovery_devices (m : DeviceManager) (adapter : String)
    (discovered : List DeviceSnapshot) (missingReason : String) :
    (m.reconcileDiscovery adapter discovered missingReason).1.devices =
      (mergePlans adapter discovered (claimCounts adapter (plans m.devices discovered))
        (plans m.devices discovered) m.devices).map
          (markMissing adapter discovered missingReason) := by
  have h : ∀ (ps : List (DeviceKey × ClaimPlan discovered.length)) (devices : List DeviceSnapshot)
      (results : List DeviceUpsertResult) (counts : Std.TreeMap String ℕ compare),
      (ps.foldl (fun st p =>
        let r := applyPlan adapter (isCurrent discovered) counts st.1 p.2
        (r.1, reportRows p.2.rowIndices r.2 st.2)) (devices, results)).1 =
        mergePlans adapter discovered counts ps devices := by
    intro ps
    induction ps with
    | nil => intros; rfl
    | cons p ps ih => intro devices results counts; exact ih _ _ _
  unfold reconcileDiscovery
  simp only [h]

theorem markMissing_key (adapter : String) (discovered : List DeviceSnapshot) (reason : String)
    (d : DeviceSnapshot) : (markMissing adapter discovered reason d).key = d.key := by
  unfold markMissing; split_ifs <;> rfl

theorem markMissing_endpointId (adapter : String) (discovered : List DeviceSnapshot)
    (reason : String) (d : DeviceSnapshot) :
    (markMissing adapter discovered reason d).endpointId = d.endpointId := by
  unfold markMissing; split_ifs <;> rfl

theorem map_markMissing_bindings (adapter : String) (discovered devices : List DeviceSnapshot)
    (reason : String) :
    (devices.map (markMissing adapter discovered reason)).map (fun d => (d.key, d.endpointId)) =
      devices.map fun d => (d.key, d.endpointId) := by
  rw [List.map_map]
  refine List.map_congr_left fun d _ => ?_
  simp only [Function.comp_apply, markMissing_key, markMissing_endpointId]

/-! ## The invariant of all runs -/

theorem eraseStaleOwners_sublist (adapter : String) (cur : DeviceKey → Bool) (n : ℕ)
    (snapshot : DeviceSnapshot) (devices : List DeviceSnapshot) :
    (eraseStaleOwners adapter cur n snapshot devices).Sublist devices := by
  unfold eraseStaleOwners
  split_ifs
  · exact List.filter_sublist
  · exact List.Sublist.refl _

theorem applyPlan_consistent {n : ℕ} {devices : List DeviceSnapshot} (h : Consistent devices)
    (adapter : String) (cur : DeviceKey → Bool) (counts : Std.TreeMap String ℕ compare)
    (plan : ClaimPlan n) : Consistent (applyPlan adapter cur counts devices plan).1 := by
  cases hv : plan.valid with
  | false =>
    cases ha : plan.hasAuthoritativeClaim with
    | false => rw [applyPlan_rejected adapter cur counts devices hv ha]; exact h
    | true =>
      rw [applyPlan_defended adapter cur counts devices hv ha]
      exact h.sublist (eraseStaleOwners_sublist _ _ _ _ _)
  | true =>
    rw [applyPlan_valid adapter cur counts devices hv]
    exact (h.sublist (eraseStaleOwners_sublist _ _ _ _ _)).upserted (upsertLocked_spec _ _ _)

theorem mergePlans_consistent {adapter : String} {discovered : List DeviceSnapshot}
    {counts : Std.TreeMap String ℕ compare} (ps : List (DeviceKey × ClaimPlan discovered.length)) :
    ∀ {devices : List DeviceSnapshot}, Consistent devices →
      Consistent (mergePlans adapter discovered counts ps devices) := by
  induction ps with
  | nil => intro devices h; exact h
  | cons p ps ih => intro devices h; exact ih (applyPlan_consistent h _ _ _ _)

/-- **Every call keeps the invariant.** -/
theorem apply_consistent {m : DeviceManager} (h : Consistent m.devices) (op : RegistryOp) :
    Consistent (m.apply op).devices := by
  cases op with
  | upsert snapshot => exact h.upserted (upsertLocked_spec _ _ _)
  | reconcileDiscovery adapter discovered reason =>
    simp only [DeviceManager.apply, reconcileDiscovery_devices]
    exact (mergePlans_consistent _ h).of_bindings (map_markMissing_bindings _ _ _ _)
  | markOffline adapter id reason => exact h.updateFirst_offline _ _
  | markOfflineById id reason =>
    simp only [DeviceManager.apply, markOfflineById]
    split
    · exact h.updateFirst_offline _ _
    · exact h

theorem run_consistent (ops : List RegistryOp) : Consistent (run ops).devices := by
  induction ops using List.reverseRecOn with
  | nil => exact consistent_nil
  | append_singleton ops op ih => rw [run_concat]; exact apply_consistent ih op

theorem Reachable.consistent {m : DeviceManager} (h : Reachable m) : Consistent m.devices := by
  obtain ⟨ops, rfl⟩ := h
  exact run_consistent ops

theorem Reachable.apply {m : DeviceManager} (h : Reachable m) (op : RegistryOp) :
    Reachable (m.apply op) := by
  obtain ⟨ops, rfl⟩ := h
  exact ⟨ops ++ [op], (run_concat ops op).symm⟩

/-! ## Stability of the bindings -/

/-- Every bound device of `devices` is still bound to its endpoint in
    `devices'`, or it was not current and its key is gone. -/
def Keeps (cur : DeviceKey → Prop) (devices devices' : List DeviceSnapshot) : Prop :=
  ∀ d ∈ devices, d.endpointId ≠ "" →
    (∃ d' ∈ devices', d'.key = d.key ∧ d'.endpointId = d.endpointId) ∨
      (¬ cur d.key ∧ ∀ d' ∈ devices', d'.key ≠ d.key)

namespace Keeps
variable {cur : DeviceKey → Prop} {devices devices' devices'' : List DeviceSnapshot}

theorem refl : Keeps cur devices devices := fun d hd _ => .inl ⟨d, hd, rfl, rfl⟩

theorem erase (h : Keeps cur devices devices') (hk : Distinct DeviceSnapshot.key devices')
    {p : DeviceSnapshot → Bool} (hp : ∀ d, p d = false → ¬ cur d.key) :
    Keeps cur devices (devices'.filter p) := by
  intro d hd hne
  rcases h d hd hne with ⟨d', hd', hkey, he⟩ | ⟨hcur, hgone⟩
  · cases hpd : p d' with
    | true => exact .inl ⟨d', List.mem_filter.2 ⟨hd', hpd⟩, hkey, he⟩
    | false =>
      refine .inr ⟨hkey ▸ hp d' hpd, fun x hx hxk => ?_⟩
      obtain ⟨hx, hpx⟩ := List.mem_filter.1 hx
      rw [hk.eq hx hd' (hxk.trans hkey.symm), hpd] at hpx
      exact Bool.false_ne_true hpx
  · exact .inr ⟨hcur, fun x hx => hgone x (List.mem_filter.1 hx).1⟩

theorem upserted (h : Keeps cur devices devices') (hk : Distinct DeviceSnapshot.key devices')
    {s : DeviceSnapshot} (hs : cur s.key) {allow : Bool} {status : DeviceUpsertStatus}
    (hu : Upserted devices' s allow devices'' status) : Keeps cur devices devices'' := by
  cases hu with
  | conflict => exact h
  | changeRejected => exact h
  | inserted hc hn =>
    intro d hd hne
    rcases h d hd hne with ⟨d', hd', hkey, he⟩ | ⟨hcur, hgone⟩
    · exact .inl ⟨d', List.mem_append_left _ hd', hkey, he⟩
    · refine .inr ⟨hcur, fun x hx => ?_⟩
      rcases List.mem_append.1 hx with hx | hx
      · exact hgone x hx
      · rw [List.mem_singleton.1 hx]
        exact fun hxk => hcur (hxk ▸ hs)
  | @refreshed hc stored hst hcompat =>
    obtain ⟨hmem, hskey⟩ := lookup_mem hst
    intro d hd hne
    rcases h d hd hne with ⟨d', hd', hkey, he⟩ | ⟨hcur, hgone⟩
    · left
      by_cases hks : d'.key = s.key
      · -- the refreshed device itself: its endpoint is the stored one
        obtain rfl := hk.eq hd' hmem (hks.trans hskey.symm)
        refine ⟨_, (mem_updateFirst hk).2 (.inr ⟨d', hd', hks, rfl⟩), hks.symm.trans hkey, ?_⟩
        have hne' : d'.endpointId ≠ "" := he ▸ hne
        rw [← he, DeviceSnapshot.endpointId_withEndpoint, mergedEndpoint]
        split_ifs with hempty
        · rfl
        · exact (hcompat.resolve_left hne').resolve_left hempty
      · exact ⟨d', (mem_updateFirst hk).2 (.inl ⟨hd', hks⟩), hkey, he⟩
    · refine .inr ⟨hcur, fun x hx => ?_⟩
      rcases (mem_updateFirst hk).1 hx with ⟨hx, -⟩ | ⟨-, -, -, rfl⟩
      · exact hgone x hx
      · exact fun hxk => hcur (hxk ▸ hs)

end Keeps

theorem eraseStaleOwners_keeps {discovered devices devices' : List DeviceSnapshot}
    (h : Keeps (Current discovered) devices devices')
    (hk : Distinct DeviceSnapshot.key devices') (adapter : String) (n : ℕ)
    (snapshot : DeviceSnapshot) :
    Keeps (Current discovered) devices
      (eraseStaleOwners adapter (isCurrent discovered) n snapshot devices') := by
  unfold eraseStaleOwners
  split_ifs
  · refine h.erase hk fun d hd hcur => ?_
    simp [isStaleOwner, isCurrent_iff.2 hcur] at hd
  · exact h

theorem applyPlan_keeps {discovered devices devices' devices₀ : List DeviceSnapshot}
    (hc : Consistent devices') (h : Keeps (Current discovered) devices devices')
    {adapter : String} {counts : Std.TreeMap String ℕ compare}
    {p : DeviceKey × ClaimPlan discovered.length} (hp : p ∈ plans devices₀ discovered) :
    Keeps (Current discovered) devices
      (applyPlan adapter (isCurrent discovered) counts devices' p.2).1 := by
  obtain ⟨hcur, hplan⟩ := mem_plans.1 (show (p.1, p.2) ∈ plans devices₀ discovered from hp)
  have herase := eraseStaleOwners_keeps h hc.keys adapter (claimCount counts p.2.snapshot)
    p.2.snapshot
  by_cases hv : ∃ e, RowsValid devices₀ discovered p.1 e
  · -- a valid plan stores a snapshot under its own key
    obtain ⟨e, hv⟩ := hv
    obtain ⟨hval, r, hr, -, hs⟩ := claimPlan_valid hcur hv
    rw [← hplan] at hval hs
    rw [applyPlan_valid _ _ _ _ hval]
    exact herase.upserted (hc.keys.sublist (eraseStaleOwners_sublist _ _ _ _ _))
      ⟨r, hr, by rw [hs, DeviceSnapshot.key_withEndpoint]⟩ (upsertLocked_spec _ _ _)
  · push Not at hv
    obtain ⟨hval, ⟨-, hauth, -⟩ | ⟨-, hauth⟩⟩ := claimPlan_invalid hcur hv <;>
      rw [← hplan] at hval hauth
    · rw [applyPlan_defended _ _ _ _ hval hauth]; exact herase
    · rw [applyPlan_rejected _ _ _ _ hval hauth]; exact h

theorem mergePlans_keeps {discovered devices devices₀ : List DeviceSnapshot} (adapter : String)
    (counts : Std.TreeMap String ℕ compare) (ps : List (DeviceKey × ClaimPlan discovered.length)) :
    ∀ {devices' : List DeviceSnapshot}, (∀ p ∈ ps, p ∈ plans devices₀ discovered) →
      Consistent devices' → Keeps (Current discovered) devices devices' →
      Keeps (Current discovered) devices (mergePlans adapter discovered counts ps devices') := by
  induction ps with
  | nil => intro devices' _ _ h; exact h
  | cons p ps ih =>
    intro devices' hps hc h
    exact ih (fun q hq => hps q (List.mem_cons_of_mem _ hq)) (applyPlan_consistent hc _ _ _ _)
      (applyPlan_keeps hc h (hps p (List.mem_cons_self ..)))

/-- A key stored before and after a call keeps its non-empty endpoint. -/
theorem apply_endpoint {m : DeviceManager} (h : Consistent m.devices) (op : RegistryOp)
    {d d' : DeviceSnapshot} (hd : d ∈ m.devices) (hne : d.endpointId ≠ "")
    (hd' : d' ∈ (m.apply op).devices) (hk : d'.key = d.key) : d'.endpointId = d.endpointId := by
  have hc' := apply_consistent h op
  -- the same binding under another record of the list is the record's own
  have hfind : ∀ (cur : DeviceKey → Prop), Keeps cur m.devices (m.apply op).devices →
      d'.endpointId = d.endpointId := by
    intro cur hkeep
    rcases hkeep d hd hne with ⟨x, hx, hxk, hxe⟩ | ⟨-, hgone⟩
    · rw [hc'.keys.eq hd' hx (hk.trans hxk.symm), hxe]
    · exact absurd hk (hgone d' hd')
  -- marking a device offline changes no binding
  have hoffline : ∀ p : DeviceSnapshot → Bool, ∀ reason,
      Keeps (fun _ => True) m.devices (updateFirst p (DeviceSnapshot.offline reason) m.devices) := by
    intro p reason x hx _
    have hmap := map_updateFirst (fun d : DeviceSnapshot => (d.key, d.endpointId))
      (p := p) (f := DeviceSnapshot.offline reason) (fun _ _ => rfl) m.devices
    have : (x.key, x.endpointId) ∈ (updateFirst p (DeviceSnapshot.offline reason) m.devices).map
        fun d => (d.key, d.endpointId) := hmap ▸ List.mem_map_of_mem hx
    obtain ⟨y, hy, he⟩ := List.mem_map.1 this
    exact .inl ⟨y, hy, Prod.ext_iff.1 he⟩
  cases op with
  | upsert snapshot =>
    exact hfind (fun _ => True) (Keeps.refl.upserted h.keys trivial (upsertLocked_spec _ _ _))
  | reconcileDiscovery adapter discovered reason =>
    refine hfind (Current discovered) ?_
    have hm := mergePlans_keeps adapter (claimCounts adapter (plans m.devices discovered))
      (plans m.devices discovered) (fun p hp => hp) h Keeps.refl
    intro x hx hxne
    simp only [DeviceManager.apply, reconcileDiscovery_devices, List.mem_map]
    rcases hm x hx hxne with ⟨y, hy, hyk, hye⟩ | ⟨hcur, hgone⟩
    · exact .inl ⟨_, ⟨y, hy, rfl⟩, by rw [markMissing_key, hyk],
        by rw [markMissing_endpointId, hye]⟩
    · refine .inr ⟨hcur, ?_⟩
      rintro _ ⟨y, hy, rfl⟩
      rw [markMissing_key]
      exact hgone y hy
  | markOffline adapter id reason => exact hfind _ (hoffline _ reason)
  | markOfflineById id reason =>
    refine hfind (fun _ => True) ?_
    simp only [DeviceManager.apply, markOfflineById]
    split
    · exact hoffline _ reason
    · exact Keeps.refl

/-- Along a run, a key that stays stored keeps its non-empty endpoint. -/
theorem run_endpoint (ops : List RegistryOp) {k : DeviceKey} {d : DeviceSnapshot}
    (hd : d ∈ (run ops).devices) (hk : d.key = k) (hne : d.endpointId ≠ "")
    (later : List RegistryOp) :
    (∀ p, p <+: later → (run (ops ++ p)).Stored k) →
      ∀ e ∈ (run (ops ++ later)).devices, e.key = k → e.endpointId = d.endpointId := by
  induction later using List.reverseRecOn with
  | nil =>
    intro _ e he hek
    rw [List.append_nil] at he
    rw [(run_consistent ops).keys.eq he hd (hek.trans hk.symm)]
  | append_singleton later op ih =>
    intro hstored e he hek
    obtain ⟨x, hx, hxk⟩ := hstored later (List.prefix_append _ _)
    have hxe := ih (fun p hp => hstored p (hp.trans (List.prefix_append _ _))) x hx hxk
    rw [← List.append_assoc, run_concat] at he
    rw [← hxe]
    exact apply_endpoint (run_consistent _) op hx (hxe ▸ hne) he (hek.trans hxk.symm)

/-- **Endpoint bindings are consistent along every run**: keys are distinct,
    no endpoint is held by two adapters, and a key that stays stored keeps its
    non-empty endpoint. -/
theorem run_bindings_consistent (ops : List RegistryOp) :
    (run ops).devices.Pairwise (fun d e => (d.adapter, d.id) ≠ (e.adapter, e.id)) ∧
    (∀ d ∈ (run ops).devices, ∀ e ∈ (run ops).devices, d.adapter ≠ e.adapter →
      d.endpointId ≠ "" → d.endpointId ≠ e.endpointId) ∧
    ∀ (later : List RegistryOp) (k : DeviceKey),
      (∀ p, p <+: later → (run (ops ++ p)).Stored k) →
      ∀ d ∈ (run ops).devices, d.key = k → d.endpointId ≠ "" →
        ∀ e ∈ (run (ops ++ later)).devices, e.key = k → e.endpointId = d.endpointId := by
  have hc := run_consistent ops
  refine ⟨List.pairwise_map.1 hc.keys, fun d hd e he ha hne heq => ?_, ?_⟩
  · exact ha (hc.owners d hd e he hne heq.symm).symm
  · intro later k hstored d hd hk hne
    exact run_endpoint ops hd hk hne later hstored

end Axent
