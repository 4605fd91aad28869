/-
  `DeviceManager::reconcile_discovery` (`src/core/device_manager.cpp`): one
  adapter's complete discovery result is merged into the registry.

  The rows are grouped by key (`rowsByKey`).  Every key gets a plan
  (`claimPlan`): the snapshot its rows agree on, or, when they disagree, the
  stored device if that has an endpoint to defend.  The endpoints the plans
  claim are counted, the plans are applied in key order (`applyPlan`: an
  endpoint claimed once is taken from the stale owners that the batch does not
  mention, then the snapshot is stored), and the adapter's devices that the
  batch does not mention go offline.

  What a plan means is said without the code's loops by `RowsValid` (the rows
  of a key agree, with an effective endpoint) and `Claims` (a key effectively
  claims an endpoint); `claimPlan_valid` and `claimPlan_invalid` connect the
  two, `claimedEndpoint_iff` and `claimCount_eq_one` the counting.
-/
import Mathlib.Data.List.FinRange
import Axent.DeviceManager
import Axent.Lib.Index

namespace Axent

open Lib

/-! ## Keys in `std::map` order -/

/-- The order of `std::pair<std::string, std::string>`. -/
def DeviceKey.cmp : DeviceKey → DeviceKey → Ordering :=
  compareLex (compareOn Prod.fst) (compareOn Prod.snd)

instance : Std.TransCmp DeviceKey.cmp :=
  inferInstanceAs (Std.TransCmp (compareLex (compareOn Prod.fst) (compareOn Prod.snd)))

instance : Std.LawfulEqCmp DeviceKey.cmp where
  eq_of_compare {a b} h := by
    obtain ⟨h₁, h₂⟩ := Ordering.then_eq_eq.1
      (show (compare a.1 b.1).then (compare a.2 b.2) = .eq from h)
    exact Prod.ext (Std.LawfulEqCmp.eq_of_compare h₁) (Std.LawfulEqCmp.eq_of_compare h₂)

/-! ## Plans -/

/-- What the batch wants to do with one key, from `n` discovered rows. -/
structure ClaimPlan (n : ℕ) where
  snapshot : DeviceSnapshot := {}
  rowIndices : List (Fin n) := []
  valid : Bool := true
  hasAuthoritativeClaim : Bool := false
  rejectionStatus : DeviceUpsertStatus := .discoveryClaimConflict

/-- `snapshots_equivalent`: the comparison of all fields. -/
def snapshotsEquivalent (lhs rhs : DeviceSnapshot) : Bool :=
  lhs.id = rhs.id ∧ lhs.adapter = rhs.adapter ∧ lhs.identity.vendor = rhs.identity.vendor ∧
    lhs.identity.model = rhs.identity.model ∧
    lhs.identity.serialNumber = rhs.identity.serialNumber ∧
    lhs.identity.firmwareVersion = rhs.identity.firmwareVersion ∧
    lhs.identity.hardwareVersion = rhs.identity.hardwareVersion ∧
    lhs.connection.online = rhs.connection.online ∧
    lhs.connection.transport = rhs.connection.transport ∧
    lhs.connection.lastChangeReason = rhs.connection.lastChangeReason ∧
    lhs.status.health = rhs.status.health ∧ lhs.endpointId = rhs.endpointId ∧
    lhs.endpointDeliveryMode = rhs.endpointDeliveryMode

theorem snapshotsEquivalent_iff {lhs rhs : DeviceSnapshot} :
    snapshotsEquivalent lhs rhs = true ↔ lhs = rhs := by
  obtain ⟨i, a, ⟨_, _, _, _, _⟩, ⟨_, _, _⟩, ⟨_⟩, e, m⟩ := lhs
  obtain ⟨i', a', ⟨_, _, _, _, _⟩, ⟨_, _, _⟩, ⟨_⟩, e', m'⟩ := rhs
  simp only [snapshotsEquivalent, decide_eq_true_eq, DeviceSnapshot.mk.injEq,
    DeviceIdentity.mk.injEq, DeviceConnection.mk.injEq, DeviceStatus.mk.injEq, and_assoc]

/-- The scan of a key's row endpoints, starting from the stored one: `none`
    when two non-empty endpoints differ. -/
def effectiveEndpoint (effective : String) : List String → Option String
  | [] => some effective
  | endpoint :: rest =>
    if endpoint = "" then effectiveEndpoint effective rest
    else if effective ≠ "" ∧ endpoint ≠ effective then none
    else effectiveEndpoint endpoint rest

/-- The plan of one key from its rows: invalid when their endpoints clash with
    each other or with the stored one, or when they differ otherwise. -/
def rowPlan (discovered : List DeviceSnapshot) (existing : Option DeviceSnapshot)
    (rows : List (Fin discovered.length)) : ClaimPlan discovered.length :=
  match effectiveEndpoint (existing.elim "" DeviceSnapshot.endpointId)
      (rows.map fun i => (discovered.get i).endpointId) with
  | none =>
    { rowIndices := rows
      valid := false
      rejectionStatus :=
        if existing.isNone then .discoveryClaimConflict else .endpointChangeRejected }
  | some endpoint =>
    match rows with
    | [] => { rowIndices := rows }
    | front :: _ =>
      let snapshot := (discovered.get front).withEndpoint endpoint
      { snapshot := snapshot
        rowIndices := rows
        valid := rows.all fun i =>
          snapshotsEquivalent snapshot ((discovered.get i).withEndpoint endpoint) }

/-- The plan of one key: with invalid rows, a stored endpoint is still
    claimed. -/
def claimPlan (devices discovered : List DeviceSnapshot) (key : DeviceKey)
    (rows : List (Fin discovered.length)) : ClaimPlan discovered.length :=
  let existing := lookup DeviceSnapshot.key key devices
  let plan := rowPlan discovered existing rows
  match existing with
  | some stored =>
    if plan.valid = false ∧ stored.endpointId ≠ "" then
      { plan with snapshot := stored, hasAuthoritativeClaim := true }
    else plan
  | none => plan

/-- The endpoint a plan claims for `adapter`. -/
def claimedEndpoint {n : ℕ} (adapter : String) (plan : ClaimPlan n) : Option String :=
  if (plan.valid ∨ plan.hasAuthoritativeClaim) ∧ plan.snapshot.adapter = adapter ∧
      plan.snapshot.endpointId ≠ "" then
    some plan.snapshot.endpointId
  else none

/-! ## Applying a plan -/

/-- An owner of the snapshot's endpoint that the batch does not mention. -/
def isStaleOwner (isCurrent : DeviceKey → Bool) (snapshot current : DeviceSnapshot) : Bool :=
  current.adapter = snapshot.adapter ∧ current.id ≠ snapshot.id ∧
    current.endpointId = snapshot.endpointId ∧ ¬ isCurrent current.key

/-- Erase the stale owners, if the endpoint is claimed once and no other
    adapter holds it. -/
def eraseStaleOwners (adapter : String) (isCurrent : DeviceKey → Bool) (claimCount : ℕ)
    (snapshot : DeviceSnapshot) (devices : List DeviceSnapshot) : List DeviceSnapshot :=
  if snapshot.adapter = adapter ∧ claimCount = 1 ∧
      ¬ devices.any (fun current =>
        current.endpointId = snapshot.endpointId ∧ current.adapter ≠ snapshot.adapter) then
    devices.filter fun current => ¬ isStaleOwner isCurrent snapshot current
  else devices

/-- How often the endpoint of a snapshot is claimed. -/
def claimCount (claimCounts : Std.TreeMap String ℕ compare) (snapshot : DeviceSnapshot) : ℕ :=
  if snapshot.endpointId = "" then 0 else claimCounts.getD snapshot.endpointId 0

/-- One pass of the loop over the plans: the stored devices, and the result
    for the rows of the plan. -/
def applyPlan {n : ℕ} (adapter : String) (isCurrent : DeviceKey → Bool)
    (claimCounts : Std.TreeMap String ℕ compare) (devices : List DeviceSnapshot)
    (plan : ClaimPlan n) : List DeviceSnapshot × DeviceUpsertResult :=
  if plan.valid = false ∧ plan.hasAuthoritativeClaim = false then
    (devices, ⟨plan.rejectionStatus⟩)
  else
    let count := claimCount claimCounts plan.snapshot
    let devices := eraseStaleOwners adapter isCurrent count plan.snapshot devices
    if plan.valid = false then (devices, ⟨plan.rejectionStatus⟩)
    else upsertLocked devices plan.snapshot (2 ≤ count)

section
variable {n : ℕ} {plan : ClaimPlan n} (adapter : String) (cur : DeviceKey → Bool)
  (counts : Std.TreeMap String ℕ compare) (devices : List DeviceSnapshot)

theorem applyPlan_rejected (hv : plan.valid = false) (ha : plan.hasAuthoritativeClaim = false) :
    applyPlan adapter cur counts devices plan = (devices, ⟨plan.rejectionStatus⟩) := by
  rw [applyPlan, if_pos ⟨hv, ha⟩]

theorem applyPlan_defended (hv : plan.valid = false) (ha : plan.hasAuthoritativeClaim = true) :
    applyPlan adapter cur counts devices plan =
      (eraseStaleOwners adapter cur (claimCount counts plan.snapshot) plan.snapshot devices,
        ⟨plan.rejectionStatus⟩) := by
  rw [applyPlan, if_neg (by simp [ha])]
  simp only [hv, if_true]

theorem applyPlan_valid (hv : plan.valid = true) :
    applyPlan adapter cur counts devices plan =
      upsertLocked
        (eraseStaleOwners adapter cur (claimCount counts plan.snapshot) plan.snapshot devices)
        plan.snapshot (2 ≤ claimCount counts plan.snapshot) := by
  rw [applyPlan, if_neg (by simp [hv])]
  simp only [hv, Bool.true_eq_false, if_false]

end

/-- `results[index] = result` for the rows of a plan. -/
def reportRows {n : ℕ} (rows : List (Fin n)) (result : DeviceUpsertResult)
    (results : List DeviceUpsertResult) : List DeviceUpsertResult :=
  rows.foldl (fun rs i => rs.set i result) results

/-! ## The batch -/

/-- The rows of the batch, by key. -/
def rowsByKey (discovered : List DeviceSnapshot) :
    Std.TreeMap DeviceKey (List (Fin discovered.length)) DeviceKey.cmp :=
  group DeviceKey.cmp (fun i => (discovered.get i).key) (List.finRange discovered.length)

/-- The plans of the batch, in key order. -/
def plans (devices discovered : List DeviceSnapshot) :
    List (DeviceKey × ClaimPlan discovered.length) :=
  ((rowsByKey discovered).map (claimPlan devices discovered)).toList

/-- How often each endpoint is claimed for `adapter`. -/
def claimCounts {n : ℕ} (adapter : String) (ps : List (DeviceKey × ClaimPlan n)) :
    Std.TreeMap String ℕ compare :=
  tally compare (fun p => claimedEndpoint adapter p.2) ps

/-- The batch mentions the key. -/
def isCurrent (discovered : List DeviceSnapshot) (key : DeviceKey) : Bool :=
  (rowsByKey discovered).contains key

/-- The devices of `adapter` that the batch does not mention go offline. -/
def markMissing (adapter : String) (discovered : List DeviceSnapshot) (missingReason : String)
    (device : DeviceSnapshot) : DeviceSnapshot :=
  if device.adapter = adapter ∧ ¬ isCurrent discovered device.key then
    device.offline missingReason
  else device

/-- `reconcile_discovery`. -/
def DeviceManager.reconcileDiscovery (m : DeviceManager) (adapter : String)
    (discovered : List DeviceSnapshot) (missingReason : String) :
    DeviceManager × List DeviceUpsertResult :=
  let ps := plans m.devices discovered
  let counts := claimCounts adapter ps
  let merged := ps.foldl (fun st p =>
      let r := applyPlan adapter (isCurrent discovered) counts st.1 p.2
      (r.1, reportRows p.2.rowIndices r.2 st.2))
    (m.devices, List.replicate discovered.length {})
  (⟨merged.1.map (markMissing adapter discovered missingReason)⟩, merged.2)

/-! ## What a plan means -/

/-- The endpoint stored for a key, empty when there is none. -/
def storedEndpoint (devices : List DeviceSnapshot) (key : DeviceKey) : String :=
  (lookup DeviceSnapshot.key key devices).elim "" DeviceSnapshot.endpointId

/-- `e` is the effective endpoint of `endpoints`: all non-empty ones are `e`. -/
def Effective (endpoints : List String) (e : String) : Prop :=
  (∀ e' ∈ endpoints, e' = "" ∨ e' = e) ∧ (e = "" ∨ e ∈ endpoints)

/-- The stored endpoint of a key and those of its rows. -/
def endpointsOf (devices discovered : List DeviceSnapshot) (key : DeviceKey) : List String :=
  storedEndpoint devices key ::
    (discovered.filter fun r => r.key = key).map DeviceSnapshot.endpointId

/-- The rows of `key` are valid with effective endpoint `e`: no two endpoints
    clash, and the rows agree in everything once they have that endpoint. -/
def RowsValid (devices discovered : List DeviceSnapshot) (key : DeviceKey) (e : String) : Prop :=
  Effective (endpointsOf devices discovered key) e ∧
    ∀ r ∈ discovered, r.key = key → ∀ r' ∈ discovered, r'.key = key →
      r.withEndpoint e = r'.withEndpoint e

/-- The batch mentions `key`. -/
def Current (discovered : List DeviceSnapshot) (key : DeviceKey) : Prop :=
  ∃ r ∈ discovered, r.key = key

/-- **`key` effectively claims `e`**: its rows are valid with effective
    endpoint `e`, or they are invalid and `e` is its stored endpoint. -/
def Claims (devices discovered : List DeviceSnapshot) (key : DeviceKey) (e : String) : Prop :=
  Current discovered key ∧ e ≠ "" ∧
    (RowsValid devices discovered key e ∨
      ((∀ e', ¬ RowsValid devices discovered key e') ∧ storedEndpoint devices key = e))

theorem Effective.unique {endpoints : List String} {e e' : String} (h : Effective endpoints e)
    (h' : Effective endpoints e') : e = e' := by
  rcases h.2 with he | he
  · rcases h'.2 with he' | he'
    · rw [he, he']
    · rcases h.1 e' he' with h₁ | h₁
      · rw [he, h₁]
      · exact h₁.symm
  · rcases h'.1 e he with h₁ | h₁
    · rcases h'.2 with he' | he'
      · rw [h₁, he']
      · rcases h.1 e' he' with h₂ | h₂
        · rw [h₁, h₂]
        · exact h₂.symm
    · exact h₁

theorem effectiveEndpoint_eq_some {es : List String} :
    ∀ {s e : String}, effectiveEndpoint s es = some e ↔ Effective (s :: es) e := by
  induction es with
  | nil =>
    intro s e
    simp only [effectiveEndpoint, Option.some.injEq, Effective, List.mem_singleton, forall_eq]
    constructor
    · rintro rfl; exact ⟨.inr rfl, .inr rfl⟩
    · rintro ⟨h | h, h' | h'⟩
      · rw [h, h']
      · exact h'.symm
      · exact h
      · exact h
  | cons x es ih =>
    intro s e
    unfold effectiveEndpoint
    split_ifs with hx hc
    · -- an empty endpoint is skipped
      subst hx
      rw [ih]
      constructor
      · rintro ⟨h, h'⟩
        refine ⟨fun e' he' => ?_, h'.imp_right fun h' => by
          rcases List.mem_cons.1 h' with h' | h' <;> simp [h']⟩
        rcases List.mem_cons.1 he' with rfl | he'
        · exact h _ (by simp)
        · rcases List.mem_cons.1 he' with rfl | he'
          · exact .inl rfl
          · exact h _ (by simp [he'])
      · rintro ⟨h, h'⟩
        refine ⟨fun e' he' => h e' (by rcases List.mem_cons.1 he' with h | h <;> simp [h]), ?_⟩
        rcases h' with h' | h'
        · exact .inl h'
        · rcases List.mem_cons.1 h' with h' | h'
          · exact .inr (by simp [h'])
          · rcases List.mem_cons.1 h' with h' | h'
            · exact .inl h'
            · exact .inr (by simp [h'])
    · -- two different non-empty endpoints: nothing is effective
      refine ⟨fun h => by simp at h, fun h => ?_⟩
      have h₁ := (h.1 s (by simp)).resolve_left hc.1
      have h₂ := (h.1 x (by simp)).resolve_left hx
      exact absurd (h₂.trans h₁.symm) hc.2
    · rw [ih]
      have hs : s = "" ∨ s = x := by tauto
      constructor
      · rintro ⟨h, h'⟩
        have hxe : x = e := (h x (by simp)).resolve_left hx
        refine ⟨fun e' he' => ?_, .inr (by simp [hxe])⟩
        rcases List.mem_cons.1 he' with rfl | he'
        · exact hs.imp_right fun h => h.trans hxe
        · exact h e' he'
      · rintro ⟨h, -⟩
        have hxe : x = e := (h x (by simp)).resolve_left hx
        exact ⟨fun e' he' => h e' (List.mem_cons_of_mem _ he'), .inr (by simp [hxe])⟩

/-! ## The plans of a batch -/

section
variable {devices discovered : List DeviceSnapshot} {k : DeviceKey} {e : String}

/-- The indices of the rows of a key. -/
def rowsOf (discovered : List DeviceSnapshot) (key : DeviceKey) : List (Fin discovered.length) :=
  (List.finRange discovered.length).filter fun i => (discovered.get i).key = key

theorem mem_rowsOf {i : Fin discovered.length} :
    i ∈ rowsOf discovered k ↔ (discovered.get i).key = k := by
  simp [rowsOf]

theorem map_rowsOf (discovered : List DeviceSnapshot) (k : DeviceKey) :
    (rowsOf discovered k).map discovered.get = discovered.filter fun r => r.key = k := by
  have h : (List.finRange discovered.length).map discovered.get = discovered := by
    rw [← List.ofFn_eq_map, List.ofFn_get]
  conv_rhs => rw [← h, List.filter_map]
  rfl

theorem current_iff : Current discovered k ↔ rowsOf discovered k ≠ [] := by
  constructor
  · rintro ⟨r, hr, hk⟩ h
    obtain ⟨i, rfl⟩ := List.mem_iff_get.1 hr
    have : i ∈ rowsOf discovered k := mem_rowsOf.2 hk
    rw [h] at this; exact List.not_mem_nil this
  · intro h
    obtain ⟨i, hi⟩ := List.exists_mem_of_ne_nil _ h
    exact ⟨_, List.get_mem _ _, mem_rowsOf.1 hi⟩

theorem isCurrent_iff : isCurrent discovered k = true ↔ Current discovered k := by
  rw [isCurrent, Std.TreeMap.contains_iff_mem, rowsByKey, mem_group]
  constructor
  · rintro ⟨i, -, hi⟩; exact ⟨_, List.get_mem _ _, hi⟩
  · rintro ⟨r, hr, hk⟩
    obtain ⟨i, rfl⟩ := List.mem_iff_get.1 hr
    exact ⟨i, List.mem_finRange i, hk⟩

instance : DecidablePred (Current discovered) := fun _ => decidable_of_iff _ isCurrent_iff

/-- **The plans of a batch**: one for every key it mentions. -/
theorem mem_plans {p : ClaimPlan discovered.length} :
    (k, p) ∈ plans devices discovered ↔
      Current discovered k ∧ p = claimPlan devices discovered k (rowsOf discovered k) := by
  rw [plans, Std.TreeMap.toList_map, List.mem_map]
  constructor
  · rintro ⟨⟨k', g⟩, hg, he⟩
    obtain ⟨rfl, rfl⟩ := Prod.ext_iff.1 he
    obtain ⟨rfl, hne⟩ := mem_toList_group.1 hg
    exact ⟨current_iff.2 hne, rfl⟩
  · rintro ⟨hc, rfl⟩
    exact ⟨(k, rowsOf discovered k), mem_toList_group.2 ⟨rfl, current_iff.1 hc⟩, rfl⟩

theorem plans_nodup : ((plans devices discovered).map Prod.fst).Nodup := keys_toList_nodup _

theorem rowPlan_valid (hc : Current discovered k) (hv : RowsValid devices discovered k e) :
    (rowPlan discovered (lookup DeviceSnapshot.key k devices) (rowsOf discovered k)).valid = true ∧
      ∃ r ∈ discovered, r.key = k ∧
        (rowPlan discovered (lookup DeviceSnapshot.key k devices) (rowsOf discovered k)).snapshot =
          r.withEndpoint e := by
  have he : effectiveEndpoint (storedEndpoint devices k)
      ((rowsOf discovered k).map fun i => (discovered.get i).endpointId) = some e := by
    rw [effectiveEndpoint_eq_some]
    have := hv.1
    rwa [endpointsOf, ← map_rowsOf, List.map_map] at this
  unfold rowPlan
  rw [show (lookup DeviceSnapshot.key k devices).elim "" DeviceSnapshot.endpointId =
    storedEndpoint devices k from rfl, he]
  obtain ⟨front, rest, hrows⟩ := List.exists_cons_of_ne_nil (current_iff.1 hc)
  have hmem : ∀ i ∈ front :: rest, (discovered.get i).key = k := fun i hi =>
    mem_rowsOf.1 (hrows ▸ hi)
  simp only [hrows]
  refine ⟨List.all_eq_true.2 fun i hi => snapshotsEquivalent_iff.2 ?_,
    discovered.get front, List.get_mem _ _, hmem front (by simp), rfl⟩
  exact hv.2 _ (List.get_mem _ _) (hmem front (by simp)) _ (List.get_mem _ _) (hmem i hi)

theorem rowsValid_of_rowPlan (hc : Current discovered k)
    (hv : (rowPlan discovered (lookup DeviceSnapshot.key k devices)
      (rowsOf discovered k)).valid = true) : ∃ e, RowsValid devices discovered k e := by
  unfold rowPlan at hv
  cases he : effectiveEndpoint ((lookup DeviceSnapshot.key k devices).elim ""
      DeviceSnapshot.endpointId) ((rowsOf discovered k).map fun i => (discovered.get i).endpointId)
    with
  | none => rw [he] at hv; simp at hv
  | some e =>
    rw [he] at hv
    obtain ⟨front, rest, hrows⟩ := List.exists_cons_of_ne_nil (current_iff.1 hc)
    simp only [hrows, List.all_eq_true, snapshotsEquivalent_iff] at hv
    have hsame : ∀ r ∈ discovered, r.key = k →
        (discovered.get front).withEndpoint e = r.withEndpoint e := by
      intro r hr hk
      obtain ⟨i, rfl⟩ := List.mem_iff_get.1 hr
      exact hv i (hrows ▸ mem_rowsOf.2 hk)
    refine ⟨e, ?_, fun r hr hk r' hr' hk' => (hsame r hr hk).symm.trans (hsame r' hr' hk')⟩
    have := effectiveEndpoint_eq_some.1 he
    rwa [endpointsOf, ← map_rowsOf, List.map_map]

/-- The plan of valid rows stores what the rows agree on. -/
theorem claimPlan_valid (hc : Current discovered k) (hv : RowsValid devices discovered k e) :
    (claimPlan devices discovered k (rowsOf discovered k)).valid = true ∧
      ∃ r ∈ discovered, r.key = k ∧
        (claimPlan devices discovered k (rowsOf discovered k)).snapshot = r.withEndpoint e := by
  have h := rowPlan_valid hc hv
  unfold claimPlan
  cases hl : lookup DeviceSnapshot.key k devices with
  | none => rw [hl] at h; exact h
  | some stored => rw [hl] at h; simpa only [h.1, Bool.true_eq_false, false_and, if_false] using h

/-- The plan of invalid rows defends the stored endpoint, if there is one. -/
theorem claimPlan_invalid (hc : Current discovered k)
    (hv : ∀ e, ¬ RowsValid devices discovered k e) :
    (claimPlan devices discovered k (rowsOf discovered k)).valid = false ∧
      ((storedEndpoint devices k ≠ "" ∧
          (claimPlan devices discovered k (rowsOf discovered k)).hasAuthoritativeClaim = true ∧
          lookup DeviceSnapshot.key k devices =
            some (claimPlan devices discovered k (rowsOf discovered k)).snapshot) ∨
        (storedEndpoint devices k = "" ∧
          (claimPlan devices discovered k (rowsOf discovered k)).hasAuthoritativeClaim = false)) := by
  have hinv : (rowPlan discovered (lookup DeviceSnapshot.key k devices)
      (rowsOf discovered k)).valid = false := by
    by_contra h
    obtain ⟨e, he⟩ := rowsValid_of_rowPlan hc (by simpa using h)
    exact hv e he
  have hauth : (rowPlan discovered (lookup DeviceSnapshot.key k devices)
      (rowsOf discovered k)).hasAuthoritativeClaim = false := by
    unfold rowPlan; split
    · rfl
    · split <;> rfl
  unfold claimPlan storedEndpoint
  cases hl : lookup DeviceSnapshot.key k devices with
  | none => rw [hl] at hinv hauth; exact ⟨hinv, .inr ⟨rfl, hauth⟩⟩
  | some stored =>
    rw [hl] at hinv hauth
    by_cases hs : stored.endpointId = ""
    · simp only [if_neg (show ¬ ((rowPlan discovered (some stored) (rowsOf discovered k)).valid =
        false ∧ stored.endpointId ≠ "") from fun h => h.2 hs)]
      exact ⟨hinv, .inr ⟨hs, hauth⟩⟩
    · simp only [if_pos (show (rowPlan discovered (some stored) (rowsOf discovered k)).valid =
        false ∧ stored.endpointId ≠ "" from ⟨hinv, hs⟩)]
      exact ⟨hinv, .inl ⟨hs, trivial, trivial⟩⟩

/-! ## Counting the claims

For a batch of one adapter the counted endpoints are exactly the claimed
ones. -/

theorem getD_claimCounts (adapter : String) (devices discovered : List DeviceSnapshot) (e : String) :
    (claimCounts adapter (plans devices discovered)).getD e 0 =
      (plans devices discovered).countP fun p => claimedEndpoint adapter p.2 = some e :=
  getD_tally _ _ _

section
variable {adapter : String} (hA : ∀ r ∈ discovered, r.adapter = adapter)
include hA

theorem Current.adapter_eq (hc : Current discovered k) : k.1 = adapter := by
  obtain ⟨r, hr, rfl⟩ := hc
  exact hA r hr

theorem claimedEndpoint_iff (hc : Current discovered k) :
    claimedEndpoint adapter (claimPlan devices discovered k (rowsOf discovered k)) = some e ↔
      Claims devices discovered k e := by
  unfold claimedEndpoint Claims
  by_cases hv : ∃ e', RowsValid devices discovered k e'
  · obtain ⟨e', hv⟩ := hv
    obtain ⟨hval, r, hr, hk, hs⟩ := claimPlan_valid hc hv
    rw [hval, hs]
    simp only [DeviceSnapshot.withEndpoint, true_or, hA r hr, true_and,
      Option.ite_none_right_eq_some, Option.some.injEq]
    constructor
    · rintro ⟨hne, rfl⟩; exact ⟨hc, hne, .inl hv⟩
    · rintro ⟨-, hne, h | ⟨h, -⟩⟩
      · obtain rfl := h.1.unique hv.1; exact ⟨hne, rfl⟩
      · exact absurd hv (h e')
  · push Not at hv
    obtain ⟨hval, ⟨hne, hauth, hl⟩ | ⟨hempty, hauth⟩⟩ := claimPlan_invalid hc hv
    · have hse : (claimPlan devices discovered k (rowsOf discovered k)).snapshot.endpointId =
          storedEndpoint devices k := by simp [storedEndpoint, hl]
      have hsa : (claimPlan devices discovered k (rowsOf discovered k)).snapshot.adapter = adapter :=
        (congrArg Prod.fst (lookup_mem hl).2).trans (Current.adapter_eq hA hc)
      rw [hauth, hse, hsa]
      simp only [or_true, true_and, Option.ite_none_right_eq_some, Option.some.injEq]
      constructor
      · rintro ⟨-, rfl⟩; exact ⟨hc, hne, .inr ⟨hv, rfl⟩⟩
      · rintro ⟨-, hne', h | ⟨-, h⟩⟩
        · exact absurd h (hv e)
        · exact ⟨hne, h⟩
    · rw [hval, hauth]
      simp only [Bool.false_eq_true, or_self, false_and, if_false, reduceCtorEq, false_iff]
      rintro ⟨-, hne, h | ⟨-, h⟩⟩
      · exact hv e h
      · exact hne (h.symm.trans hempty)

theorem claimCount_pos (hc : Claims devices discovered k e) :
    0 < (claimCounts adapter (plans devices discovered)).getD e 0 := by
  rw [getD_claimCounts, List.countP_pos_iff]
  exact ⟨(k, _), mem_plans.2 ⟨hc.1, rfl⟩, by simpa using (claimedEndpoint_iff hA hc.1).2 hc⟩

/-- **An endpoint is counted once when one key claims it.** -/
theorem claimCount_eq_one (hc : Claims devices discovered k e) :
    (claimCounts adapter (plans devices discovered)).getD e 0 = 1 ↔
      ∀ k', Claims devices discovered k' e → k' = k := by
  have hmem : (k, claimPlan devices discovered k (rowsOf discovered k)) ∈
      plans devices discovered := mem_plans.2 ⟨hc.1, rfl⟩
  have hnd : (plans devices discovered).Nodup := List.Nodup.of_map _ plans_nodup
  rw [getD_claimCounts, countP_eq_one_iff hnd hmem
    (by simpa using (claimedEndpoint_iff hA hc.1).2 hc)]
  constructor
  · intro h k' hk'
    have := h (k', _) (mem_plans.2 ⟨hk'.1, rfl⟩)
      (by simpa using (claimedEndpoint_iff hA hk'.1).2 hk')
    exact congrArg Prod.fst this
  · rintro h ⟨k', p⟩ hp hcl
    obtain ⟨hcur, rfl⟩ := mem_plans.1 hp
    have hk' := h k' ((claimedEndpoint_iff hA hcur).1 (by simpa using hcl))
    subst hk'; rfl

end

end

end Axent
