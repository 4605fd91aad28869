/-
  The device registry (`src/core/device_manager.cpp`): `upsert`, the two
  `mark_offline` overloads and the lookups.  `reconcile_discovery` is in
  `Axent.Reconcile`.

  The registry is the vector of stored snapshots.  Every public operation
  holds the registry's mutex from its first to its last statement, so an
  operation is one step, given here as a function on the stored list.

  * `Upserted` says once what `upsert_locked` can do (`upsertLocked_spec`);
  * `Consistent` is the registry invariant: stored keys are distinct, and the
    devices holding one non-empty endpoint belong to one adapter.
-/
import Axent.Lib.Keyed
import Axent.Types

namespace Axent

open Lib

inductive DeviceUpsertStatus where
  | inserted
  | refreshed
  | endpointBound
  | endpointConflict
  | endpointChangeRejected
  | discoveryClaimConflict
  deriving DecidableEq, Repr

structure DeviceUpsertResult where
  status : DeviceUpsertStatus := .inserted
  deriving DecidableEq, Repr

/-- The snapshot was stored. -/
def DeviceUpsertResult.accepted (result : DeviceUpsertResult) : Bool :=
  result.status = .inserted ∨ result.status = .refreshed ∨ result.status = .endpointBound

/-- The registry. -/
structure DeviceManager where
  devices : List DeviceSnapshot := []
  deriving DecidableEq, Repr

/-! ## Upsert -/

/-- A stored device that makes `upsert_locked` report an endpoint conflict. -/
def conflictsWith (snapshot : DeviceSnapshot) (allowSameAdapterEndpointConflicts : Bool)
    (current : DeviceSnapshot) : Bool :=
  (current.adapter ≠ snapshot.adapter ∨ current.id ≠ snapshot.id) ∧
    current.endpointId = snapshot.endpointId ∧
    (¬ allowSameAdapterEndpointConflicts ∨ current.adapter ≠ snapshot.adapter)

/-- `upsert_locked`.  An empty endpoint in the snapshot keeps the stored one;
    a non-empty one never replaces another non-empty one. -/
def upsertLocked (devices : List DeviceSnapshot) (snapshot : DeviceSnapshot)
    (allowSameAdapterEndpointConflicts : Bool) : List DeviceSnapshot × DeviceUpsertResult :=
  let existing := lookup DeviceSnapshot.key snapshot.key devices
  if snapshot.endpointId ≠ "" ∧
      devices.any (conflictsWith snapshot allowSameAdapterEndpointConflicts) then
    (devices, ⟨.endpointConflict⟩)
  else
    match existing with
    | none => (devices ++ [snapshot], ⟨.inserted⟩)
    | some stored =>
      let bindsEndpoint := stored.endpointId = "" ∧ snapshot.endpointId ≠ ""
      if stored.endpointId ≠ "" ∧ snapshot.endpointId ≠ "" ∧
          snapshot.endpointId ≠ stored.endpointId then
        (devices, ⟨.endpointChangeRejected⟩)
      else
        let snapshot := if stored.endpointId ≠ "" ∧ snapshot.endpointId = "" then
            snapshot.withEndpoint stored.endpointId
          else snapshot
        (updateFirst (fun d => d.key = snapshot.key) (fun _ => snapshot) devices,
          ⟨if bindsEndpoint then .endpointBound else .refreshed⟩)

/-- The endpoint a refreshed device ends up with. -/
def mergedEndpoint (stored snapshot : DeviceSnapshot) : String :=
  if snapshot.endpointId = "" then stored.endpointId else snapshot.endpointId

/-- No stored device stands in the way of the snapshot's endpoint. -/
def NoConflict (devices : List DeviceSnapshot) (snapshot : DeviceSnapshot) (allow : Bool) : Prop :=
  snapshot.endpointId ≠ "" → ∀ c ∈ devices, c.endpointId = snapshot.endpointId →
    c.key = snapshot.key ∨ (allow = true ∧ c.adapter = snapshot.adapter)

/-- What `upsert_locked` can do. -/
inductive Upserted (devices : List DeviceSnapshot) (snapshot : DeviceSnapshot) (allow : Bool) :
    List DeviceSnapshot → DeviceUpsertStatus → Prop
  | conflict (h : ¬ NoConflict devices snapshot allow) :
      Upserted devices snapshot allow devices .endpointConflict
  | inserted (h : NoConflict devices snapshot allow) (hn : ∀ d ∈ devices, d.key ≠ snapshot.key) :
      Upserted devices snapshot allow (devices ++ [snapshot]) .inserted
  | changeRejected (h : NoConflict devices snapshot allow) {stored : DeviceSnapshot}
      (hs : lookup DeviceSnapshot.key snapshot.key devices = some stored)
      (hne : stored.endpointId ≠ "") (hne' : snapshot.endpointId ≠ "")
      (hd : snapshot.endpointId ≠ stored.endpointId) :
      Upserted devices snapshot allow devices .endpointChangeRejected
  | refreshed (h : NoConflict devices snapshot allow) {stored : DeviceSnapshot}
      (hs : lookup DeviceSnapshot.key snapshot.key devices = some stored)
      (hc : stored.endpointId = "" ∨ snapshot.endpointId = "" ∨
        snapshot.endpointId = stored.endpointId) :
      Upserted devices snapshot allow
        (updateFirst (fun d => d.key = snapshot.key)
          (fun _ => snapshot.withEndpoint (mergedEndpoint stored snapshot)) devices)
        (if stored.endpointId = "" ∧ snapshot.endpointId ≠ "" then .endpointBound else .refreshed)

theorem key_eq_iff {d e : DeviceSnapshot} : d.key = e.key ↔ d.adapter = e.adapter ∧ d.id = e.id :=
  Prod.ext_iff

theorem any_conflictsWith {devices : List DeviceSnapshot} {snapshot : DeviceSnapshot}
    {allow : Bool} :
    (snapshot.endpointId ≠ "" ∧ devices.any (conflictsWith snapshot allow) = true) ↔
      ¬ NoConflict devices snapshot allow := by
  unfold NoConflict
  push Not
  refine and_congr_right fun _ => ?_
  simp only [List.any_eq_true, conflictsWith, decide_eq_true_eq, ne_eq, key_eq_iff]
  refine exists_congr fun c => and_congr_right fun _ => ?_
  constructor
  · rintro ⟨hk, he, ha⟩
    exact ⟨he, by tauto, fun h => ha.resolve_left (by simp [h])⟩
  · rintro ⟨he, hk, ha⟩
    refine ⟨by tauto, he, ?_⟩
    cases allow with
    | false => exact .inl (by simp)
    | true => exact .inr (ha rfl)

/-- **`upsert_locked` does one of four things.** -/
theorem upsertLocked_spec (devices : List DeviceSnapshot) (snapshot : DeviceSnapshot)
    (allow : Bool) :
    Upserted devices snapshot allow (upsertLocked devices snapshot allow).1
      (upsertLocked devices snapshot allow).2.status := by
  unfold upsertLocked
  by_cases hc : NoConflict devices snapshot allow
  · rw [if_neg (by rw [any_conflictsWith]; exact not_not_intro hc)]
    cases hs : lookup DeviceSnapshot.key snapshot.key devices with
    | none => exact .inserted hc (lookup_eq_none.1 hs)
    | some stored =>
      simp only
      split_ifs with h₁ h₂ h₃ h₃
      · exact .changeRejected hc hs h₁.1 h₁.2.1 h₁.2.2
      · exact absurd h₃.1 h₂.1
      · have := Upserted.refreshed hc hs (.inr (.inl h₂.2))
        rwa [if_neg h₃, mergedEndpoint, if_pos h₂.2] at this
      · have := Upserted.refreshed hc hs (.inl h₃.1)
        rwa [if_pos h₃, mergedEndpoint, if_neg h₃.2, DeviceSnapshot.withEndpoint_self] at this
      · -- the stored endpoint is the snapshot's, or both are empty
        have hm : snapshot.withEndpoint (mergedEndpoint stored snapshot) = snapshot := by
          unfold mergedEndpoint
          split_ifs with h₄
          · have : stored.endpointId = "" := by by_contra h; exact h₂ ⟨h, h₄⟩
            rw [this, ← h₄, DeviceSnapshot.withEndpoint_self]
          · exact DeviceSnapshot.withEndpoint_self _
        have := Upserted.refreshed hc hs (by tauto)
        rwa [if_neg h₃, hm] at this
  · rw [if_pos (any_conflictsWith.2 hc)]
    exact .conflict hc

/-- A filter that rejects the key of the snapshot does not see the upsert. -/
theorem Upserted.filter_eq {devices devices' : List DeviceSnapshot} {snapshot : DeviceSnapshot}
    {allow : Bool} {status : DeviceUpsertStatus}
    (h : Upserted devices snapshot allow devices' status) {p : DeviceSnapshot → Bool}
    (hp : ∀ d, d.key = snapshot.key → p d = false) : devices'.filter p = devices.filter p := by
  cases h with
  | conflict => rfl
  | changeRejected => rfl
  | inserted => rw [List.filter_append, List.filter_singleton, hp snapshot rfl]; simp
  | @refreshed _ stored =>
    refine filter_updateFirst (fun d hd => ⟨hp d (of_decide_eq_true hd), ?_⟩) _
    exact hp (snapshot.withEndpoint (mergedEndpoint stored snapshot)) rfl

theorem upsertLocked_of_conflict {devices : List DeviceSnapshot} {snapshot : DeviceSnapshot}
    {allow : Bool} (h : ¬ NoConflict devices snapshot allow) :
    upsertLocked devices snapshot allow = (devices, ⟨.endpointConflict⟩) := by
  rw [upsertLocked, if_pos (any_conflictsWith.2 h)]

/-- Without a conflict, an upsert that agrees with the stored endpoint is
    accepted. -/
theorem upsertLocked_accepted {devices : List DeviceSnapshot} {snapshot : DeviceSnapshot}
    {allow : Bool} (hc : NoConflict devices snapshot allow)
    (hs : ∀ d ∈ devices, d.key = snapshot.key →
      d.endpointId = "" ∨ d.endpointId = snapshot.endpointId) :
    (upsertLocked devices snapshot allow).2.accepted = true := by
  have hu := upsertLocked_spec devices snapshot allow
  unfold DeviceUpsertResult.accepted
  generalize (upsertLocked devices snapshot allow).1 = devices' at hu
  generalize (upsertLocked devices snapshot allow).2.status = status at hu ⊢
  cases hu with
  | conflict h => exact absurd hc h
  | inserted => rfl
  | changeRejected _ hst hne _ hd =>
    obtain ⟨hmem, hkey⟩ := lookup_mem hst
    exact absurd ((hs _ hmem hkey).resolve_left hne).symm hd
  | refreshed => split_ifs <;> rfl

/-- An upsert whose endpoint is free and agrees with the stored one is
    accepted: the snapshot becomes the record of its key. -/
theorem mem_upsertLocked {devices : List DeviceSnapshot} {snapshot : DeviceSnapshot} {allow : Bool}
    (hk : Distinct DeviceSnapshot.key devices) (hc : NoConflict devices snapshot allow)
    (hs : ∀ d ∈ devices, d.key = snapshot.key →
      d.endpointId = "" ∨ d.endpointId = snapshot.endpointId) (x : DeviceSnapshot) :
    x ∈ (upsertLocked devices snapshot allow).1 ↔
      (x ∈ devices ∧ x.key ≠ snapshot.key) ∨ x = snapshot := by
  have hu := upsertLocked_spec devices snapshot allow
  generalize (upsertLocked devices snapshot allow).1 = devices' at hu ⊢
  generalize (upsertLocked devices snapshot allow).2.status = status at hu
  cases hu with
  | conflict h => exact absurd hc h
  | changeRejected _ hst hne _ hd =>
    obtain ⟨hmem, hkey⟩ := lookup_mem hst
    exact absurd ((hs _ hmem hkey).resolve_left hne).symm hd
  | inserted _ hn =>
    rw [List.mem_append, List.mem_singleton]
    exact or_congr_left ⟨fun hx => ⟨hx, hn x hx⟩, And.left⟩
  | @refreshed _ stored hst =>
    obtain ⟨hmem, hkey⟩ := lookup_mem hst
    have hm : snapshot.withEndpoint (mergedEndpoint stored snapshot) = snapshot := by
      unfold mergedEndpoint
      split_ifs with hempty
      · have : stored.endpointId = snapshot.endpointId := by
          rcases hs stored hmem hkey with h | h
          · rw [h, hempty]
          · exact h
        rw [this, DeviceSnapshot.withEndpoint_self]
      · exact DeviceSnapshot.withEndpoint_self _
    rw [hm, mem_updateFirst hk]
    refine or_congr_right ⟨?_, fun hx => ⟨stored, hmem, hkey, hx⟩⟩
    rintro ⟨-, -, -, hx⟩
    exact hx

/-! ## The operations -/

namespace DeviceManager

def upsert (m : DeviceManager) (snapshot : DeviceSnapshot) : DeviceManager × DeviceUpsertResult :=
  let r := upsertLocked m.devices snapshot false
  (⟨r.1⟩, r.2)

/-- `mark_offline(adapter, id, reason)`. -/
def markOffline (m : DeviceManager) (adapter id reason : String) : DeviceManager :=
  ⟨updateFirst (fun d => d.adapter = adapter ∧ d.id = id) (DeviceSnapshot.offline reason) m.devices⟩

/-- `mark_offline(id, reason)`, which does nothing when several adapters own
    the id. -/
def markOfflineById (m : DeviceManager) (id reason : String) : DeviceManager :=
  match scanUnique (fun d : DeviceSnapshot => d.id = id) m.devices with
  | .one _ => ⟨updateFirst (fun d => d.id = id) (DeviceSnapshot.offline reason) m.devices⟩
  | _ => m

/-- `get(adapter, id)`. -/
def get (m : DeviceManager) (adapter id : String) : Option DeviceSnapshot :=
  m.devices.find? fun d => d.adapter = adapter ∧ d.id = id

/-- The only device satisfying `p`, if there is exactly one. -/
def getUnique (m : DeviceManager) (p : DeviceSnapshot → Bool) : Option DeviceSnapshot :=
  match scanUnique p m.devices with
  | .one d => some d
  | _ => none

/-- `get(id)`. -/
def getById (m : DeviceManager) (id : String) : Option DeviceSnapshot :=
  m.getUnique fun d => d.id = id

def findBySerialNumber (m : DeviceManager) (serialNumber : String) : Option DeviceSnapshot :=
  if serialNumber = "" then none else m.getUnique fun d => d.identity.serialNumber = serialNumber

def list (m : DeviceManager) : List DeviceSnapshot := m.devices

theorem getUnique_eq_some {m : DeviceManager} {p : DeviceSnapshot → Bool} {d : DeviceSnapshot} :
    m.getUnique p = some d ↔ scanUnique p m.devices = .one d := by
  unfold getUnique
  cases scanUnique p m.devices <;> simp

end DeviceManager

/-! ## The invariant -/

/-- Stored keys are distinct, and all holders of a non-empty endpoint belong
    to the same adapter. -/
structure Consistent (devices : List DeviceSnapshot) : Prop where
  keys : Distinct DeviceSnapshot.key devices
  owners : ∀ d ∈ devices, ∀ e ∈ devices, d.endpointId ≠ "" → e.endpointId = d.endpointId →
    e.adapter = d.adapter

theorem consistent_nil : Consistent [] := ⟨distinct_nil, by simp⟩

namespace Consistent
variable {devices devices' : List DeviceSnapshot} {s : DeviceSnapshot}

theorem sublist (h : Consistent devices) (hs : devices'.Sublist devices) : Consistent devices' :=
  ⟨h.keys.sublist hs, fun d hd e he => h.owners d (hs.subset hd) e (hs.subset he)⟩

theorem of_bindings (h : Consistent devices) (hb : devices'.map (fun d => (d.key, d.endpointId)) =
      devices.map fun d => (d.key, d.endpointId)) : Consistent devices' := by
  have hkeys : devices'.map DeviceSnapshot.key = devices.map DeviceSnapshot.key := by
    have := congrArg (List.map Prod.fst) hb
    simpa [List.map_map, Function.comp_def] using this
  have hmem : ∀ d ∈ devices', ∃ d₀ ∈ devices, d₀.key = d.key ∧ d₀.endpointId = d.endpointId := by
    intro d hd
    have : (d.key, d.endpointId) ∈ devices.map fun d => (d.key, d.endpointId) :=
      hb ▸ List.mem_map_of_mem hd
    obtain ⟨d₀, h₀, he⟩ := List.mem_map.1 this
    exact ⟨d₀, h₀, Prod.ext_iff.1 he⟩
  refine ⟨?_, fun d hd e he hne heq => ?_⟩
  · have := h.keys; unfold Distinct at this ⊢; rwa [hkeys]
  · obtain ⟨d₀, hd₀, hdk, hde⟩ := hmem d hd
    obtain ⟨e₀, he₀, hek, hee⟩ := hmem e he
    rw [← DeviceSnapshot.adapter_of_key hdk, ← DeviceSnapshot.adapter_of_key hek]
    exact h.owners d₀ hd₀ e₀ he₀ (hde ▸ hne) (by rw [hde, hee, heq])

theorem updateFirst_offline (h : Consistent devices) (p : DeviceSnapshot → Bool) (reason : String) :
    Consistent (updateFirst p (DeviceSnapshot.offline reason) devices) :=
  h.of_bindings (map_updateFirst (fun d : DeviceSnapshot => (d.key, d.endpointId))
    (f := DeviceSnapshot.offline reason) (fun _ _ => rfl) devices)

/-- A device may be added when its endpoint has no holder of another
    adapter. -/
theorem concat (h : Consistent devices) (hn : ∀ d ∈ devices, d.key ≠ s.key)
    (hs : s.endpointId ≠ "" → ∀ d ∈ devices, d.endpointId = s.endpointId → d.adapter = s.adapter) :
    Consistent (devices ++ [s]) := by
  refine ⟨h.keys.concat hn, fun d hd e he hne heq => ?_⟩
  rcases List.mem_append.1 hd with hd' | hd' <;> rcases List.mem_append.1 he with he' | he'
  · exact h.owners d hd' e he' hne heq
  · obtain rfl := List.mem_singleton.1 he'
    exact (hs (heq ▸ hne) d hd' heq.symm).symm
  · obtain rfl := List.mem_singleton.1 hd'
    exact hs hne e he' heq
  · rw [List.mem_singleton.1 hd', List.mem_singleton.1 he']

theorem replace (h : Consistent devices)
    (hs : s.endpointId ≠ "" → ∀ d ∈ devices, d.endpointId = s.endpointId → d.adapter = s.adapter) :
    Consistent (updateFirst (fun d => d.key = s.key) (fun _ => s) devices) := by
  have hmem : ∀ x ∈ updateFirst (fun d => d.key = s.key) (fun _ => s) devices,
      x ∈ devices ∨ x = s := by
    intro x hx
    rcases (mem_updateFirst h.keys).1 hx with ⟨hx, -⟩ | ⟨-, -, -, rfl⟩
    exacts [.inl hx, .inr rfl]
  refine ⟨h.keys.updateFirst fun a ha => by simpa using (of_decide_eq_true ha).symm, ?_⟩
  intro d hd e he hne heq
  rcases hmem d hd with hd' | rfl <;> rcases hmem e he with he' | rfl
  · exact h.owners d hd' e he' hne heq
  · exact (hs (heq ▸ hne) d hd' heq.symm).symm
  · exact hs hne e he' heq
  · rfl

/-- **`upsert_locked` keeps the invariant**, with or without same-adapter
    conflicts allowed. -/
theorem upserted (h : Consistent devices) {allow : Bool} {status : DeviceUpsertStatus}
    (hu : Upserted devices s allow devices' status) : Consistent devices' := by
  -- an accepted non-empty endpoint has no holder of another adapter
  have hown : NoConflict devices s allow → s.endpointId ≠ "" → ∀ d ∈ devices,
      d.endpointId = s.endpointId → d.adapter = s.adapter := fun hc hne d hd he =>
    (hc hne d hd he).elim DeviceSnapshot.adapter_of_key And.right
  cases hu with
  | conflict => exact h
  | changeRejected => exact h
  | inserted hc hn => exact h.concat hn (hown hc)
  | @refreshed hc stored hs =>
    obtain ⟨hmem, hkey⟩ := lookup_mem hs
    refine h.replace (s := s.withEndpoint (mergedEndpoint stored s)) fun hne d hd he => ?_
    simp only [DeviceSnapshot.endpointId_withEndpoint, mergedEndpoint] at hne he
    split_ifs at hne he with hempty
    · exact (h.owners stored hmem d hd hne he).trans (DeviceSnapshot.adapter_of_key hkey)
    · exact hown hc hempty d hd he

end Consistent

end Axent
