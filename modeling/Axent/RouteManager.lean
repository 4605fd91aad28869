/-
  Route resolution (`src/core/route_manager.cpp`): from a logical endpoint, a
  provider-local device id or a serial number to a physical device.

  A resolution reads the registry once and fails closed: with two candidates
  there is no target, and only an online device is a target.

  `resolve_after_discovery` says what an endpoint resolves to after a
  discovery batch, for every way the batch may claim it.
-/
import Axent.Discovery

namespace Axent

open Lib DeviceManager

structure RouteTarget where
  adapter : String := ""
  deviceId : String := ""
  endpointId : String := ""
  endpointDeliveryMode : EndpointDeliveryMode := .localProjection
  deriving DecidableEq, Repr

/-- The physical device of a target. -/
def RouteTarget.key (t : RouteTarget) : DeviceKey := (t.adapter, t.deviceId)

inductive RouteResolutionStatus where
  | found
  | notFound
  | unavailable
  | conflict
  deriving DecidableEq, Repr

structure RouteResolution where
  status : RouteResolutionStatus := .notFound
  target : Option RouteTarget := none
  deriving DecidableEq, Repr

/-- A stored device as a target. -/
def DeviceSnapshot.routeTarget (d : DeviceSnapshot) : RouteTarget :=
  ⟨d.adapter, d.id, d.endpointId, d.endpointDeliveryMode⟩

/-! ## The resolutions -/

namespace RouteManager

/-- `resolve_endpoint_route`. -/
def resolveEndpointRoute (devices : DeviceManager) (endpointId : String) : RouteResolution :=
  if endpointId = "" then ⟨.notFound, none⟩
  else
    match scanUnique (fun d : DeviceSnapshot => d.endpointId = endpointId) devices.list with
    | .many => ⟨.conflict, none⟩
    | .none => ⟨.notFound, none⟩
    | .one d => if d.connection.online then ⟨.found, some d.routeTarget⟩ else ⟨.unavailable, none⟩

/-- `resolve_endpoint`. -/
def resolveEndpoint (devices : DeviceManager) (endpointId : String) : Option RouteTarget :=
  let resolution := resolveEndpointRoute devices endpointId
  if resolution.status = .found then resolution.target else none

/-- A device that an unspecified selector may mean. -/
def matchesSelector (selector : String) (d : DeviceSnapshot) : Bool :=
  d.id = selector ∨ d.identity.serialNumber = selector

/-- The route to the device a lookup found, which must be online. -/
def onlineTarget (device : Option DeviceSnapshot) : Option RouteTarget :=
  match device with
  | some d => if d.connection.online then some d.routeTarget else none
  | none => none

/-- `resolve_device(device_id)`: the union of device ids and serial numbers. -/
def resolveDevice (devices : DeviceManager) (deviceId : String) : Option RouteTarget :=
  if deviceId = "" then none
  else onlineTarget (devices.getUnique (matchesSelector deviceId))

/-- `resolve_device(selector, selector_kind)`. -/
def resolveDeviceKind (devices : DeviceManager) (selector : String) :
    DeviceSelectorKind → Option RouteTarget
  | .unspecified => resolveDevice devices selector
  | .providerLocalId => onlineTarget (devices.getById selector)
  | .serialNumber => onlineTarget (devices.findBySerialNumber selector)

def listDevices (devices : DeviceManager) : List DeviceSnapshot := devices.list

end RouteManager

open RouteManager

/-! ## Resolving an endpoint -/

section
variable {m m' : DeviceManager} {e : String} {d : DeviceSnapshot}

/-- The devices holding an endpoint. -/
def holders (m : DeviceManager) (e : String) : List DeviceSnapshot :=
  m.devices.filter fun d => d.endpointId = e

theorem mem_holders : d ∈ holders m e ↔ d ∈ m.devices ∧ d.endpointId = e := by
  simp [holders]

/-- **An endpoint is resolved from its holders.** -/
theorem resolveEndpointRoute_eq (he : e ≠ "") :
    resolveEndpointRoute m e =
      match Unique.ofList (holders m e) with
      | .many => ⟨.conflict, none⟩
      | .none => ⟨.notFound, none⟩
      | .one d =>
        if d.connection.online then ⟨.found, some d.routeTarget⟩ else ⟨.unavailable, none⟩ := by
  rw [resolveEndpointRoute, if_neg he, scanUnique_eq]
  rfl

theorem resolveEndpointRoute_congr (he : e ≠ "") (h : holders m' e = holders m e) :
    resolveEndpointRoute m' e = resolveEndpointRoute m e := by
  rw [resolveEndpointRoute_eq he, resolveEndpointRoute_eq he, h]

theorem resolveEndpointRoute_one (he : e ≠ "") (h : holders m e = [d]) :
    resolveEndpointRoute m e =
      if d.connection.online then ⟨.found, some d.routeTarget⟩ else ⟨.unavailable, none⟩ := by
  rw [resolveEndpointRoute_eq he, h]
  rfl

theorem resolveEndpointRoute_many (he : e ≠ "") {d' : DeviceSnapshot} (hd : d ∈ holders m e)
    (hd' : d' ∈ holders m e) (hne : d ≠ d') : resolveEndpointRoute m e = ⟨.conflict, none⟩ := by
  rw [resolveEndpointRoute_eq he, Unique.ofList_eq_many hd hd' hne]

theorem resolveEndpointRoute_found (h : (resolveEndpointRoute m e).status = .found) :
    ∃ d, holders m e = [d] ∧ d.connection.online = true ∧
      resolveEndpointRoute m e = ⟨.found, some d.routeTarget⟩ := by
  by_cases he : e = ""
  · simp [resolveEndpointRoute, he] at h
  rw [resolveEndpointRoute_eq he] at h ⊢
  cases hu : Unique.ofList (holders m e) with
  | none => rw [hu] at h; simp at h
  | many => rw [hu] at h; simp at h
  | one d =>
    rw [hu] at h
    simp only at h ⊢
    split_ifs at h ⊢ with hon
    exact ⟨d, Unique.ofList_eq_one.1 hu, hon, rfl⟩

end

/-! ## Endpoints after discovery -/

section
variable {m : DeviceManager} {adapter : String} {discovered : List DeviceSnapshot} {e : String}
  (hA : ∀ r ∈ discovered, r.adapter = adapter) (hm : Reachable m) (reason : String)
include hA hm

/-- An endpoint that another adapter holds keeps its holders. -/
theorem holders_reconcileDiscovery_other {d : DeviceSnapshot} (hd : d ∈ m.devices)
    (hde : d.endpointId = e) (hda : d.adapter ≠ adapter) (he : e ≠ "") :
    holders (m.reconcileDiscovery adapter discovered reason).1 e = holders m e := by
  have hothers := filter_reconcileDiscovery hA hm.consistent reason
  -- before and after, no device of the batch's adapter holds the endpoint
  have hnot : ∀ {n : DeviceManager}, Consistent n.devices → d ∈ n.devices →
      holders n e = (n.devices.filter fun x => x.adapter ≠ adapter).filter
        fun x => x.endpointId = e := by
    intro n hn hdn
    rw [holders, List.filter_filter]
    refine List.filter_congr fun x hx => ?_
    by_cases hxe : x.endpointId = e
    · have : x.adapter = d.adapter := hn.owners d hdn x hx (hde ▸ he) (hxe.trans hde.symm)
      simp [hxe, this, hda]
    · simp [hxe]
  have hd' : d ∈ (m.reconcileDiscovery adapter discovered reason).1.devices := by
    have : d ∈ m.devices.filter fun x => x.adapter ≠ adapter := by simp [hd, hda]
    rw [← hothers] at this
    exact (List.mem_filter.1 this).1
  have hafter := hnot (hm.apply (.reconcileDiscovery adapter discovered reason)).consistent hd'
  rw [hnot hm.consistent hd, ← hothers]
  exact hafter

/-- Who holds an endpoint of the adapter after the batch: a claimant, or an
    absent device whose endpoint nobody took over, which is offline. -/
theorem mem_holders_reconcileDiscovery (hf : Free m.devices adapter e) (he : e ≠ "")
    {x : DeviceSnapshot} (hx : x ∈ holders (m.reconcileDiscovery adapter discovered reason).1 e) :
    Claims m.devices discovered x.key e ∨
      (x.connection.online = false ∧ ¬ ∃ k, TakesOver m.devices discovered adapter k e) := by
  have hc := hm.consistent
  have hp := merged_progress hA hc
  obtain ⟨hx, hxe⟩ := mem_holders.1 hx
  obtain ⟨d, hd, rfl⟩ := mem_reconcileDiscovery.1 hx
  rw [markMissing_endpointId] at hxe
  subst hxe
  rw [markMissing_key]
  by_cases hcur : Current discovered d.key
  · exact .inl (hp.claims_of_mem hc hd hcur he)
  · have ha : d.adapter = adapter := (hp.free_iff _).2 hf d hd rfl
    rw [markMissing_absent ha hcur]
    exact .inr ⟨rfl, ((mem_merged_absent hA hc ha hcur).1 hd).2⟩

theorem exists_holder_of_claims (hf : Free m.devices adapter e) {k : DeviceKey}
    (hcl : Claims m.devices discovered k e) :
    ∃ x ∈ holders (m.reconcileDiscovery adapter discovered reason).1 e, x.key = k := by
  obtain ⟨x, hx, hxk, hxe⟩ := exists_mem_merged_of_claims hA hm.consistent hcl hf
  refine ⟨_, mem_holders.2 ⟨mem_reconcileDiscovery.2 ⟨x, hx, rfl⟩, ?_⟩, ?_⟩
  · exact (markMissing_endpointId ..).trans hxe
  · exact (markMissing_key ..).trans hxk

theorem holders_of_claimed_once (hf : Free m.devices adapter e) {k : DeviceKey}
    (hcl : Claims m.devices discovered k e)
    (huniq : ∀ k', Claims m.devices discovered k' e → k' = k) :
    ∃ x, x.key = k ∧ holders (m.reconcileDiscovery adapter discovered reason).1 e = [x] := by
  obtain ⟨x, hx, hxk⟩ := exists_holder_of_claims hA hm reason hf hcl
  have hkeys := (hm.apply (.reconcileDiscovery adapter discovered reason)).consistent.keys
  have honly : ∀ y ∈ holders (m.reconcileDiscovery adapter discovered reason).1 e, y = x := by
    intro y hy
    rcases mem_holders_reconcileDiscovery hA hm reason hf hcl.2.1 hy with hy' | ⟨-, ht⟩
    · exact hkeys.eq (mem_holders.1 hy).1 (mem_holders.1 hx).1 ((huniq _ hy').trans hxk.symm)
    · exact absurd ⟨k, hcl, huniq, hf⟩ ht
  have hnodup : (holders (m.reconcileDiscovery adapter discovered reason).1 e).Nodup :=
    List.Nodup.of_map _ (hkeys.filter _)
  have hperm := (List.perm_ext_iff_of_nodup hnodup (List.nodup_singleton x)).2 fun y =>
    ⟨fun hy => List.mem_singleton.2 (honly y hy), fun hy => List.mem_singleton.1 hy ▸ hx⟩
  exact ⟨x, hxk, List.perm_singleton.1 hperm⟩

end

/-- **Endpoint routing after discovery fails closed.**  An endpoint of another
    adapter resolves as before.  Otherwise the only claimant is the only
    holder, and it is found when it is online; two claimants conflict; and
    without a claimant nothing is found. -/
theorem resolve_after_discovery {m : DeviceManager} (hm : Reachable m) (adapter : String)
    (discovered : List DeviceSnapshot) (hA : ∀ r ∈ discovered, r.adapter = adapter)
    (reason : String) {e : String} (he : e ≠ "") :
    ((∃ d ∈ m.devices, d.endpointId = e ∧ d.adapter ≠ adapter) →
      resolveEndpointRoute (m.reconcileDiscovery adapter discovered reason).1 e =
        resolveEndpointRoute m e) ∧
    ((∀ d ∈ m.devices, d.endpointId = e → d.adapter = adapter) →
      (∀ k, Claims m.devices discovered k e → (∀ k', Claims m.devices discovered k' e → k' = k) →
        ∃ x ∈ (m.reconcileDiscovery adapter discovered reason).1.devices,
          x.key = k ∧ x.endpointId = e ∧
          (∀ y ∈ (m.reconcileDiscovery adapter discovered reason).1.devices,
            y.endpointId = e → y = x) ∧
          resolveEndpointRoute (m.reconcileDiscovery adapter discovered reason).1 e =
            if x.connection.online then ⟨.found, some x.routeTarget⟩ else ⟨.unavailable, none⟩) ∧
      (∀ k k', Claims m.devices discovered k e → Claims m.devices discovered k' e → k ≠ k' →
        resolveEndpointRoute (m.reconcileDiscovery adapter discovered reason).1 e =
          ⟨.conflict, none⟩) ∧
      ((∀ k, ¬ Claims m.devices discovered k e) →
        (resolveEndpointRoute (m.reconcileDiscovery adapter discovered reason).1 e).status ≠
          .found)) := by
  refine ⟨?_, fun hf => ⟨?_, ?_, ?_⟩⟩
  · rintro ⟨d, hd, hde, hda⟩
    exact resolveEndpointRoute_congr he
      (holders_reconcileDiscovery_other hA hm reason hd hde hda he)
  · intro k hcl huniq
    obtain ⟨x, hxk, hx⟩ := holders_of_claimed_once hA hm reason hf hcl huniq
    obtain ⟨hmem, hxe⟩ := mem_holders.1 (hx ▸ List.mem_singleton_self x)
    refine ⟨x, hmem, hxk, hxe, fun y hy hye => ?_, resolveEndpointRoute_one he hx⟩
    exact List.mem_singleton.1 (hx ▸ mem_holders.2 ⟨hy, hye⟩)
  · intro k k' hcl hcl' hne
    obtain ⟨x, hx, rfl⟩ := exists_holder_of_claims hA hm reason hf hcl
    obtain ⟨x', hx', rfl⟩ := exists_holder_of_claims hA hm reason hf hcl'
    exact resolveEndpointRoute_many he hx hx' fun h => hne (h ▸ rfl)
  · intro hno hfound
    obtain ⟨x, hx, hon, -⟩ := resolveEndpointRoute_found hfound
    rcases mem_holders_reconcileDiscovery hA hm reason hf he (hx ▸ List.mem_singleton_self x) with
      hcl | ⟨hoff, -⟩
    · exact hno _ hcl
    · rw [hoff] at hon
      exact Bool.false_ne_true hon

/-- Two keys of one batch claim the endpoint of a third: it has no target. -/
theorem resolve_after_discovery_two_claims :
    Reachable (run [.upsert ⟨"d1", "axtp", {}, {}, {}, "ep", .localProjection⟩]) ∧
    resolveEndpointRoute ((run [.upsert ⟨"d1", "axtp", {}, {}, {}, "ep", .localProjection⟩])
      |>.reconcileDiscovery "axtp" [⟨"d2", "axtp", {}, { online := true }, {}, "ep", .localProjection⟩,
        ⟨"d3", "axtp", {}, { online := true }, {}, "ep", .localProjection⟩] "gone").1 "ep" =
      ⟨.conflict, none⟩ := by
  have hA : ∀ r ∈ ([⟨"d2", "axtp", {}, { online := true }, {}, "ep", .localProjection⟩,
      ⟨"d3", "axtp", {}, { online := true }, {}, "ep", .localProjection⟩] : List DeviceSnapshot),
      r.adapter = "axtp" := by decide
  have hm : Reachable (run [.upsert ⟨"d1", "axtp", {}, {}, {}, "ep", .localProjection⟩]) :=
    ⟨_, rfl⟩
  obtain ⟨-, hfree⟩ := resolve_after_discovery hm "axtp" _ hA "gone" (e := "ep") (by decide)
  refine ⟨hm, (hfree (by decide)).2.1 ("axtp", "d2") ("axtp", "d3") ?_ ?_ (by decide)⟩
  · exact (claimedEndpoint_iff hA (by decide)).1 (by decide +kernel)
  · exact (claimedEndpoint_iff hA (by decide)).1 (by decide +kernel)

end Axent
