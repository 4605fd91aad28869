/-
  The device contexts of the `AxtpAdapter` manager
  (`src/adapters/axtp_adapter.cpp`).

  The manager keeps one leaf adapter for each physical device.
  `device_context_for` makes it on first use, under the creation mutex;
  `reset_session_for_device` retires it: it marks the identity and the context,
  waits for the operations on the context, resets the leaf and takes the context
  out of the map.  A step of `ManagerStep` is one locked section of one of these
  calls, or the call of the leaf's reset.  A call that decides its result in a
  locked section returns it there.

  The results of HID enumerations are arbitrary.  What the leaf does is in the
  other modules; here it is only counted.
-/
import Axent.Lib.Keyed
import Axent.Lib.Run
import Mathlib.Data.List.Count
import Mathlib.Data.String.Basic

namespace Axent.Axtp

open Lib Function

/-! ## Descriptors -/

inductive TransportKind where
  | unknown
  | hid
  | webSocket
  | tcp
  | axdp
  | tea
  | mock
  deriving DecidableEq, Repr

structure TransportSelector where
  kind : TransportKind := .unknown
  vendorId : UInt16 := 0
  productId : UInt16 := 0
  usagePage : UInt16 := 0
  usage : UInt16 := 0
  path : String := ""
  serialNumber : String := ""
  deriving DecidableEq, Repr

structure TransportDescriptor where
  id : String := ""
  kind : TransportKind := .unknown
  online : Bool := false
  vendorId : UInt16 := 0
  productId : UInt16 := 0
  usagePage : UInt16 := 0
  usage : UInt16 := 0
  interfaceNumber : ℤ := -1
  path : String := ""
  serialNumber : String := ""
  manufacturer : String := ""
  product : String := ""
  busType : String := ""
  deriving DecidableEq, Repr

/-- The value of a digit that `parse_hex4` allows. -/
def hexDigit (c : Char) : Option ℕ :=
  if '0' ≤ c ∧ c ≤ '9' then some (c.toNat - '0'.toNat)
  else if 'a' ≤ c ∧ c ≤ 'f' then some (c.toNat - 'a'.toNat + 10)
  else none

/-- `parse_hex4`. -/
def parseHex4 (value : List Char) : Option UInt16 :=
  if value.length ≠ 4 then none
  else (value.mapM hexDigit).map fun digits =>
    UInt16.ofNat (digits.foldl (fun n d => 16 * n + d) 0)

/-- The part of a text before the first colon and the part after it. -/
def splitColon (text : List Char) : Option (List Char × List Char) :=
  match text.dropWhile (· ≠ ':') with
  | [] => none
  | _ :: rest => some (text.takeWhile (· ≠ ':'), rest)

/-- The suffix of a device id is a path and not a serial number. -/
def looksLikePath (suffix : List Char) : Bool :=
  "IOService:".toList.isPrefixOf suffix || "DevSrvsID:".toList.isPrefixOf suffix ||
    suffix.contains '/' || suffix.contains '\\'

/-- `populate_selector_identity_from_device_id`. -/
def populateSelectorIdentity (deviceId : String) (descriptor : TransportDescriptor) :
    Option TransportDescriptor := do
  guard ("hid:".toList.isPrefixOf deviceId.toList)
  let (vendor, rest) ← splitColon (deviceId.toList.drop 4)
  let (product, suffix) ← splitColon rest
  guard (suffix ≠ [])
  let vendorId ← parseHex4 vendor
  let productId ← parseHex4 product
  let descriptor := { descriptor with vendorId := vendorId, productId := productId }
  if looksLikePath suffix then some { descriptor with path := String.ofList suffix }
  else some { descriptor with serialNumber := String.ofList suffix }

/-- What a HID enumeration gives, after `project_hid_devices`. -/
structure DiscoveryProjection where
  descriptors : Std.TreeMap String TransportDescriptor := ∅
  ambiguousDeviceIds : List String := []

/-! ## The manager -/

/-- `DeviceContext`; `deviceId` is the key that it was made for. -/
structure DeviceContext where
  deviceId : String
  descriptor : TransportDescriptor
  inFlight : ℕ := 0
  retired : Bool := false

/-- A call of a thread, between two of its locked sections. -/
inductive ManagerCall where
  /-- in `device_context_for`, after the first section -/
  | creating (deviceId : String) (descriptor : Option TransportDescriptor)
      (cachePopulated : Bool)
  /-- in `device_context_for`, after the enumeration -/
  | enumerated (deviceId : String) (descriptor : Option TransportDescriptor)
      (cachePopulated : Bool)
  /-- in `device_context_for`, constructing the leaf -/
  | emplacing (deviceId : String) (descriptor : TransportDescriptor)
  /-- in `reset_session_for_device`, waiting for the operations -/
  | draining (deviceId : String) (context : ℕ)
  /-- in `reset_session_for_device`, after the wait -/
  | drained (deviceId : String) (context : ℕ)
  /-- in the leaf's `reset_session_for_device` -/
  | resetting (deviceId : String) (context : ℕ)
  /-- in `reset_session_for_device`, after the leaf's reset -/
  | cleaning (deviceId : String) (context : ℕ)

/-- The id for which `device_context_for` makes a context. -/
def ManagerCall.creates : ManagerCall → Option String
  | creating deviceId _ _ | enumerated deviceId _ _ | emplacing deviceId _ => some deviceId
  | _ => none

/-- The context that `reset_session_for_device` retires. -/
def ManagerCall.retires : ManagerCall → Option (String × ℕ)
  | draining deviceId k | drained deviceId k | resetting deviceId k | cleaning deviceId k =>
    some (deviceId, k)
  | _ => none

/-- The manager.  `contexts` lists all contexts ever made, `operations` the
    contexts of the `DeviceContextOperation`s that were admitted and still
    exist, and `creationMutex` names the thread that holds
    `device_creation_mutex_` between two sections. -/
structure Manager where
  hasHidTransport : Bool := true
  selector : TransportSelector := {}
  contexts : List DeviceContext := []
  deviceContexts : String → Option ℕ := fun _ => none
  retiringDeviceIds : String → Bool := fun _ => false
  transportDescriptors : Std.TreeMap String TransportDescriptor := ∅
  ambiguousDeviceIds : List String := []
  fixedSelectorDeviceId : String := ""
  creationMutex : Option ℕ := none
  calls : ℕ → Option ManagerCall := fun _ => none
  operations : List ℕ := []

namespace Manager

/-- A new manager. -/
def init (hasHidTransport : Bool) (selector : TransportSelector) : Manager where
  hasHidTransport := hasHidTransport
  selector := selector

def setCall (s : Manager) (n : ℕ) (call : Option ManagerCall) : Manager :=
  { s with calls := update s.calls n call }

def modifyContext (s : Manager) (k : ℕ) (f : DeviceContext → DeviceContext) : Manager :=
  { s with contexts := s.contexts.modify k f }

/-- How the first section of `device_context_for` ends. -/
inductive Lookup where
  | none
  | existing (context : ℕ)
  | create

/-- The first section of `device_context_for`. -/
def lookup (s : Manager) (deviceId : String) (create : Bool) : Lookup :=
  if s.retiringDeviceIds deviceId then .none
  else if deviceId ∈ s.ambiguousDeviceIds then .none
  else
    match s.deviceContexts deviceId with
    | some k => .existing k
    | none => if create then .create else .none

theorem lookup_existing {s : Manager} {deviceId : String} {create : Bool} {k : ℕ}
    (h : s.lookup deviceId create = .existing k) :
    s.deviceContexts deviceId = some k ∧ s.retiringDeviceIds deviceId = false := by
  unfold lookup at h
  cases hk : s.deviceContexts deviceId with
  | some k' =>
    rw [hk] at h
    dsimp only at h
    split_ifs at h with hr
    cases h
    exact ⟨rfl, eq_false_of_ne_true hr⟩
  | none =>
    rw [hk] at h
    split_ifs at h

theorem lookup_create {s : Manager} {deviceId : String} {create : Bool}
    (h : s.lookup deviceId create = .create) : s.deviceContexts deviceId = none := by
  unfold lookup at h
  cases hk : s.deviceContexts deviceId with
  | some k =>
    rw [hk] at h
    split_ifs at h
  | none => rfl

/-- An existing context with the descriptor that is known for its device. -/
def refreshDescriptor (s : Manager) (deviceId : String) (k : ℕ) : Manager :=
  match s.transportDescriptors[deviceId]? with
  | some d => s.modifyContext k fun c => { c with descriptor := d }
  | none => s

/-- `device_context_for` asks for an enumeration. -/
def enumerates (s : Manager) (deviceId : String) (descriptor : Option TransportDescriptor) :
    Bool :=
  s.hasHidTransport && descriptor.isNone && "hid:".toList.isPrefixOf deviceId.toList &&
    s.selector.kind = .hid

/-- The descriptor that an enumeration gives for the device. -/
def enumerate (s : Manager) (deviceId : String) (projection : DiscoveryProjection) :
    Manager × Option (Option TransportDescriptor) :=
  let s := { s with ambiguousDeviceIds := projection.ambiguousDeviceIds }
  if deviceId ∈ projection.ambiguousDeviceIds then
    ({ s with transportDescriptors := s.transportDescriptors.erase deviceId }, none)
  else
    match projection.descriptors[deviceId]? with
    | some d =>
      ({ s with transportDescriptors := s.transportDescriptors.insert deviceId d },
        some (some d))
    | none => (s, some none)

/-- A descriptor for a device that no enumeration has shown. -/
def inferDescriptor (selector : TransportSelector) (deviceId : String) :
    Option TransportDescriptor :=
  let descriptor : TransportDescriptor :=
    { id := deviceId
      kind := selector.kind
      online := true
      path := selector.path
      serialNumber := selector.serialNumber
      vendorId := selector.vendorId
      productId := selector.productId
      usagePage := selector.usagePage
      usage := selector.usage }
  let exact := do
    if selector.path = "" ∧ selector.serialNumber = "" then
      let descriptor ← populateSelectorIdentity deviceId descriptor
      guard (¬ (selector.vendorId ≠ 0 ∧ selector.vendorId ≠ descriptor.vendorId ∨
        selector.productId ≠ 0 ∧ selector.productId ≠ descriptor.productId))
      some descriptor
    else some descriptor
  exact.filter fun d => ¬ (d.path = "" ∧ d.serialNumber = "")

/-- The end of `device_context_for` before the leaf is constructed: the
    descriptor of the new context, and `fixed_selector_device_id_`. -/
def chooseDescriptor (s : Manager) (deviceId : String) (descriptor : Option TransportDescriptor)
    (cachePopulated : Bool) : Manager × Option TransportDescriptor :=
  match descriptor with
  | some d => (s, if d.online then some d else none)
  | none =>
    if cachePopulated then (s, none)
    else if s.selector.serialNumber = "" ∧ s.selector.path = "" then
      (s, inferDescriptor s.selector deviceId)
    else if s.fixedSelectorDeviceId ≠ "" ∧ s.fixedSelectorDeviceId ≠ deviceId then (s, none)
    else ({ s with fixedSelectorDeviceId := deviceId }, inferDescriptor s.selector deviceId)

/-- The last section of `device_context_for`; `emplace` keeps an entry that is
    there. -/
def emplace (s : Manager) (deviceId : String) (descriptor : TransportDescriptor) : Manager :=
  { s with
    contexts := s.contexts ++ [{ deviceId := deviceId, descriptor := descriptor }]
    deviceContexts := update s.deviceContexts deviceId
      (some ((s.deviceContexts deviceId).getD s.contexts.length)) }

/-- The first section of `reset_session_for_device`, if it retires a context. -/
def retire (s : Manager) (deviceId : String) (k : ℕ) : Manager :=
  { s.modifyContext k fun c => { c with retired := true } with
    retiringDeviceIds := update s.retiringDeviceIds deviceId true }

/-- The last section of `reset_session_for_device`. -/
def cleanUp (s : Manager) (deviceId : String) (k : ℕ) : Manager :=
  { s with
    deviceContexts := if s.deviceContexts deviceId = some k then
        update s.deviceContexts deviceId none
      else s.deviceContexts
    retiringDeviceIds := update s.retiringDeviceIds deviceId false
    fixedSelectorDeviceId := if s.fixedSelectorDeviceId = deviceId then ""
      else s.fixedSelectorDeviceId }

/-- The constructor of `DeviceContextOperation`, if it acquires the context. -/
def beginOperation (s : Manager) (k : ℕ) : Manager :=
  { s.modifyContext k fun c => { c with inFlight := c.inFlight + 1 } with
    operations := k :: s.operations }

/-- The destructor of a `DeviceContextOperation` that has acquired the context. -/
def endOperation (s : Manager) (k : ℕ) : Manager :=
  { s.modifyContext k fun c => { c with inFlight := c.inFlight - 1 } with
    operations := s.operations.erase k }

/-- The locked section of `discover`. -/
def discover (s : Manager) (projection : DiscoveryProjection) : Manager :=
  { s with
    ambiguousDeviceIds := projection.ambiguousDeviceIds
    transportDescriptors :=
      if !projection.descriptors.isEmpty ∨ s.transportDescriptors.isEmpty ∨
          projection.ambiguousDeviceIds ≠ [] then projection.descriptors
      else s.transportDescriptors
    contexts := s.contexts.mapIdx fun k c =>
      if s.deviceContexts c.deviceId = some k then
        { c with descriptor := projection.descriptors[c.deviceId]?.getD c.descriptor }
      else c }

end Manager

inductive ManagerEvent where
  | internal
  /-- `device_context_for` decides what it returns -/
  | contextFor (deviceId : String) (context : Option ℕ)
  /-- `find_device_context` -/
  | found (deviceId : String) (context : Option ℕ)
  /-- a `DeviceContextOperation` acquired the context -/
  | admitted (context : ℕ)
  | refused (context : ℕ)
  /-- an operation that was admitted has ended -/
  | ended (context : ℕ)
  /-- the context is marked as retired -/
  | retired (deviceId : String) (context : ℕ)
  /-- the leaf's own reset is called -/
  | leafReset (context : ℕ)
  /-- the context has left the map -/
  | left (deviceId : String) (context : ℕ)
  deriving DecidableEq

/-- One step of one thread. -/
inductive ManagerStep : Manager → ManagerEvent → Manager → Prop
  -- device_context_for
  | lookupNone {s : Manager} {deviceId : String} {create : Bool}
      (h : deviceId = "" ∨ s.creationMutex = none ∧ s.lookup deviceId create = .none) :
      ManagerStep s (.contextFor deviceId none) s
  | lookupExisting {s : Manager} {deviceId : String} {create : Bool} {k : ℕ}
      (hm : s.creationMutex = none) (hd : deviceId ≠ "")
      (h : s.lookup deviceId create = .existing k) :
      ManagerStep s (.contextFor deviceId (some k)) (s.refreshDescriptor deviceId k)
  | lookupCreate {s : Manager} {n : ℕ} {deviceId : String} (hm : s.creationMutex = none)
      (hn : s.calls n = none) (hd : deviceId ≠ "") (h : s.lookup deviceId true = .create) :
      ManagerStep s .internal
        { s.setCall n (some (.creating deviceId s.transportDescriptors[deviceId]?
            (!s.transportDescriptors.isEmpty))) with
          creationMutex := some n }
  | enumerateAmbiguous {s s' : Manager} {n : ℕ} {deviceId : String}
      {descriptor : Option TransportDescriptor} {cachePopulated : Bool}
      {projection : DiscoveryProjection}
      (hn : s.calls n = some (.creating deviceId descriptor cachePopulated))
      (he : s.enumerates deviceId descriptor = true)
      (h : s.enumerate deviceId projection = (s', none)) :
      ManagerStep s (.contextFor deviceId none) { s'.setCall n none with creationMutex := none }
  | enumerate {s s' : Manager} {n : ℕ} {deviceId : String}
      {descriptor descriptor' : Option TransportDescriptor} {cachePopulated : Bool}
      {projection : DiscoveryProjection}
      (hn : s.calls n = some (.creating deviceId descriptor cachePopulated))
      (he : s.enumerates deviceId descriptor = true)
      (h : s.enumerate deviceId projection = (s', some descriptor')) :
      ManagerStep s .internal (s'.setCall n (some (.enumerated deviceId descriptor'
        cachePopulated)))
  | enumerateSkip {s : Manager} {n : ℕ} {deviceId : String}
      {descriptor : Option TransportDescriptor} {cachePopulated : Bool}
      (hn : s.calls n = some (.creating deviceId descriptor cachePopulated))
      (he : s.enumerates deviceId descriptor = false) :
      ManagerStep s .internal (s.setCall n (some (.enumerated deviceId descriptor
        cachePopulated)))
  | chooseNone {s s' : Manager} {n : ℕ} {deviceId : String}
      {descriptor : Option TransportDescriptor} {cachePopulated : Bool}
      (hn : s.calls n = some (.enumerated deviceId descriptor cachePopulated))
      (h : s.chooseDescriptor deviceId descriptor cachePopulated = (s', none)) :
      ManagerStep s (.contextFor deviceId none) { s'.setCall n none with creationMutex := none }
  | choose {s s' : Manager} {n : ℕ} {deviceId : String}
      {descriptor : Option TransportDescriptor} {cachePopulated : Bool} {d : TransportDescriptor}
      (hn : s.calls n = some (.enumerated deviceId descriptor cachePopulated))
      (h : s.chooseDescriptor deviceId descriptor cachePopulated = (s', some d)) :
      ManagerStep s .internal (s'.setCall n (some (.emplacing deviceId d)))
  | emplace {s : Manager} {n : ℕ} {deviceId : String} {d : TransportDescriptor}
      (hn : s.calls n = some (.emplacing deviceId d)) :
      ManagerStep s (.contextFor deviceId (some s.contexts.length))
        { (s.emplace deviceId d).setCall n none with creationMutex := none }
  -- find_device_context and discover
  | find (s : Manager) (deviceId : String) :
      ManagerStep s (.found deviceId (s.deviceContexts deviceId)) s
  | discover (s : Manager) (projection : DiscoveryProjection) :
      ManagerStep s .internal (s.discover projection)
  -- operations on a context
  | acquire {s : Manager} {k : ℕ} {c : DeviceContext} (hk : s.contexts[k]? = some c)
      (hr : c.retired = false) : ManagerStep s (.admitted k) (s.beginOperation k)
  | refuse {s : Manager} {k : ℕ} {c : DeviceContext} (hk : s.contexts[k]? = some c)
      (hr : c.retired = true) : ManagerStep s (.refused k) s
  | finish {s : Manager} {k : ℕ} (hk : k ∈ s.operations) :
      ManagerStep s (.ended k) (s.endOperation k)
  -- reset_session_for_device
  | resetNothing {s : Manager} {deviceId : String} (hm : s.creationMutex = none)
      (h : s.deviceContexts deviceId = none ∨ s.retiringDeviceIds deviceId = true) :
      ManagerStep s .internal s
  | retire {s : Manager} {n k : ℕ} {deviceId : String} (hm : s.creationMutex = none)
      (hn : s.calls n = none) (hk : s.deviceContexts deviceId = some k)
      (hr : s.retiringDeviceIds deviceId = false) :
      ManagerStep s (.retired deviceId k)
        ((s.retire deviceId k).setCall n (some (.draining deviceId k)))
  | drain {s : Manager} {n k : ℕ} {deviceId : String} {c : DeviceContext}
      (hn : s.calls n = some (.draining deviceId k)) (hk : s.contexts[k]? = some c)
      (hc : c.inFlight = 0) :
      ManagerStep s .internal (s.setCall n (some (.drained deviceId k)))
  | leafReset {s : Manager} {n k : ℕ} {deviceId : String}
      (hn : s.calls n = some (.drained deviceId k)) :
      ManagerStep s (.leafReset k) (s.setCall n (some (.resetting deviceId k)))
  | leafReturn {s : Manager} {n k : ℕ} {deviceId : String}
      (hn : s.calls n = some (.resetting deviceId k)) :
      ManagerStep s .internal (s.setCall n (some (.cleaning deviceId k)))
  | cleanUp {s : Manager} {n k : ℕ} {deviceId : String} (hm : s.creationMutex = none)
      (hn : s.calls n = some (.cleaning deviceId k)) :
      ManagerStep s (.left deviceId k) ((s.cleanUp deviceId k).setCall n none)

/-! ## The retirement protocol -/

section
variable {t : List ManagerEvent} {s s' : Manager} {e : ManagerEvent} {deviceId : String}
  {n k : ℕ} {c c' : DeviceContext} {call : ManagerCall}

/-- A context without its descriptor. -/
def DeviceContext.status (c : DeviceContext) : String × ℕ × Bool :=
  (c.deviceId, c.inFlight, c.retired)

/-- The states agree but for what is known about descriptors. -/
structure SameContexts (s s' : Manager) : Prop where
  contexts : s'.contexts.map (·.status) = s.contexts.map (·.status)
  deviceContexts : s'.deviceContexts = s.deviceContexts
  retiring : s'.retiringDeviceIds = s.retiringDeviceIds
  mutex : s'.creationMutex = s.creationMutex
  calls : s'.calls = s.calls
  operations : s'.operations = s.operations

theorem SameContexts.refl (s : Manager) : SameContexts s s := ⟨rfl, rfl, rfl, rfl, rfl, rfl⟩

theorem SameContexts.of_getElem? (h : SameContexts s s') (hk : s'.contexts[k]? = some c') :
    ∃ c, s.contexts[k]? = some c ∧ c'.status = c.status := by
  have hget := congrArg (·[k]?) h.contexts
  simp only [List.getElem?_map, hk, Option.map_some] at hget
  obtain ⟨c, hc, heq⟩ := Option.map_eq_some_iff.1 hget.symm
  exact ⟨c, hc, heq.symm⟩

theorem sameContexts_refreshDescriptor (s : Manager) (deviceId : String) (k : ℕ) :
    SameContexts s (s.refreshDescriptor deviceId k) := by
  unfold Manager.refreshDescriptor
  split
  · refine ⟨List.ext_getElem? fun j => ?_, rfl, rfl, rfl, rfl, rfl⟩
    simp only [Manager.modifyContext, List.getElem?_map, List.getElem?_modify,
      Option.map_eq_map, Option.map_map]
    congr 1
    funext c
    dsimp only [Function.comp]
    split_ifs <;> rfl
  · exact .refl s

theorem sameContexts_enumerate {projection : DiscoveryProjection}
    {r : Option (Option TransportDescriptor)} (h : s.enumerate deviceId projection = (s', r)) :
    SameContexts s s' := by
  unfold Manager.enumerate at h
  dsimp only at h
  split at h
  · cases h
    exact ⟨rfl, rfl, rfl, rfl, rfl, rfl⟩
  · split at h <;> cases h <;> exact ⟨rfl, rfl, rfl, rfl, rfl, rfl⟩

theorem sameContexts_chooseDescriptor {descriptor d : Option TransportDescriptor}
    {cachePopulated : Bool} (h : s.chooseDescriptor deviceId descriptor cachePopulated = (s', d)) :
    SameContexts s s' := by
  unfold Manager.chooseDescriptor at h
  split at h
  · cases h
    exact .refl s
  · split_ifs at h <;> cases h <;> exact ⟨rfl, rfl, rfl, rfl, rfl, rfl⟩

theorem sameContexts_discover (s : Manager) (projection : DiscoveryProjection) :
    SameContexts s (s.discover projection) := by
  refine ⟨?_, rfl, rfl, rfl, rfl, rfl⟩
  refine List.ext_getElem? fun j => ?_
  simp only [Manager.discover, List.getElem?_map, List.getElem?_mapIdx, Option.map_map]
  congr 1
  funext c
  dsimp only [Function.comp]
  split_ifs <;> rfl

/-- The invariant of the manager. -/
structure ManagerInv (t : List ManagerEvent) (s : Manager) : Prop where
  filed : ∀ deviceId k, s.deviceContexts deviceId = some k →
    ∃ c, s.contexts[k]? = some c ∧ c.deviceId = deviceId
  live : ∀ (k : ℕ) c, s.contexts[k]? = some c → c.retired = false →
    s.deviceContexts c.deviceId = some k
  retiring : ∀ (k : ℕ) c, s.contexts[k]? = some c → c.retired = true →
    s.deviceContexts c.deviceId = some k → s.retiringDeviceIds c.deviceId = true
  creates : ∀ n call deviceId, s.calls n = some call → call.creates = some deviceId →
    s.creationMutex = some n ∧ s.deviceContexts deviceId = none
  retires : ∀ n call deviceId k, s.calls n = some call → call.retires = some (deviceId, k) →
    s.deviceContexts deviceId = some k ∧ ∃ c, s.contexts[k]? = some c ∧ c.retired = true
  owner : ∀ n n' call call' p, s.calls n = some call → call.retires = some p →
    s.calls n' = some call' → call'.retires = some p → n = n'
  drained : ∀ n deviceId (k : ℕ) c, s.calls n = some (.drained deviceId k) →
    s.contexts[k]? = some c → c.inFlight = 0
  inFlight : ∀ (k : ℕ) c, s.contexts[k]? = some c → c.inFlight = s.operations.count k
  operations : ∀ k ∈ s.operations, k < s.contexts.length
  ended : ∀ k, t.count (.admitted k) = t.count (.ended k) + s.operations.count k
  reset : ∀ k, .leafReset k ∈ t → ∃ c, s.contexts[k]? = some c ∧ c.retired = true
  fresh : ∀ n deviceId k,
    s.calls n = some (.draining deviceId k) ∨ s.calls n = some (.drained deviceId k) →
      .leafReset k ∉ t
  once : ∀ k, t.count (.leafReset k) ≤ 1

/-! ## What a step does -/

/-- What a step does to the context `k`. -/
inductive ContextMove (s : Manager) (s' : Manager) (k : ℕ) (c' : DeviceContext) : Prop
  | keep {c : DeviceContext} (hk : s.contexts[k]? = some c) (hid : c'.deviceId = c.deviceId)
      (hr : c'.retired = c.retired) (hf : c'.inFlight = c.inFlight)
      (ho : s'.operations.count k = s.operations.count k)
  | admitted {c : DeviceContext} (hk : s.contexts[k]? = some c) (hid : c'.deviceId = c.deviceId)
      (hr : c'.retired = c.retired) (hf : c'.inFlight = c.inFlight + 1)
      (ho : s'.operations.count k = s.operations.count k + 1) (hlive : c.retired = false)
  | ended {c : DeviceContext} (hk : s.contexts[k]? = some c) (hid : c'.deviceId = c.deviceId)
      (hr : c'.retired = c.retired) (hf : c'.inFlight = c.inFlight - 1)
      (ho : s'.operations.count k = s.operations.count k - 1)
  | retired {c : DeviceContext} (hk : s.contexts[k]? = some c) (hid : c'.deviceId = c.deviceId)
      (hr : c'.retired = true) (hf : c'.inFlight = c.inFlight)
      (ho : s'.operations.count k = s.operations.count k)
      (hmark : ∃ deviceId, s.deviceContexts deviceId = some k ∧
        s'.retiringDeviceIds deviceId = true)
  | new (hk : k = s.contexts.length) (hr : c'.retired = false) (hf : c'.inFlight = 0)
      (ho : s'.operations = s.operations)
      (hd : s.deviceContexts c'.deviceId = none → s'.deviceContexts c'.deviceId = some k)
      (hn : ∃ n d, s.calls n = some (.emplacing c'.deviceId d) ∧ s'.calls n = none)

theorem ManagerStep.contextMove (h : ManagerStep s e s') (hk : s'.contexts[k]? = some c') :
    ContextMove s s' k c' := by
  have hsame {s₁ : Manager} (hs : SameContexts s s₁) (hk : s₁.contexts[k]? = some c')
      (ho : s'.operations = s₁.operations) : ContextMove s s' k c' := by
    obtain ⟨c, hc, heq⟩ := hs.of_getElem? hk
    obtain ⟨hid, hf, hr⟩ := Prod.mk.inj heq |>.imp_right Prod.mk.inj
    exact .keep hc hid hr hf (by rw [ho, hs.operations])
  cases h with
  | lookupExisting => exact hsame (sameContexts_refreshDescriptor s _ _) hk rfl
  | enumerateAmbiguous _ _ hs | enumerate _ _ hs => exact hsame (sameContexts_enumerate hs) hk rfl
  | chooseNone _ hs | choose _ hs => exact hsame (sameContexts_chooseDescriptor hs) hk rfl
  | discover projection => exact hsame (sameContexts_discover s projection) hk rfl
  | emplace hn =>
    rcases getElem?_concat_cases hk with hk | ⟨rfl, rfl⟩
    · exact .keep hk rfl rfl rfl rfl
    · exact .new rfl rfl rfl rfl (fun hnone => by simp [Manager.emplace, Manager.setCall, hnone])
        ⟨_, _, hn, update_self ..⟩
  | acquire hj hlive =>
    obtain ⟨c, hc, ⟨rfl, rfl⟩ | ⟨hne, rfl⟩⟩ := getElem?_modify_cases hk
    · cases hj.symm.trans hc
      exact .admitted hc rfl rfl rfl List.count_cons_self hlive
    · exact .keep hc rfl rfl rfl (List.count_cons_of_ne hne.symm)
  | finish =>
    obtain ⟨c, hc, ⟨rfl, rfl⟩ | ⟨hne, rfl⟩⟩ := getElem?_modify_cases hk
    · exact .ended hc rfl rfl rfl List.count_erase_self
    · exact .keep hc rfl rfl rfl (List.count_erase_of_ne hne)
  | retire _ _ hd =>
    obtain ⟨c, hc, ⟨rfl, rfl⟩ | ⟨hne, rfl⟩⟩ := getElem?_modify_cases hk
    · exact .retired hc rfl rfl rfl rfl ⟨_, hd, update_self ..⟩
    · exact .keep hc rfl rfl rfl rfl
  | _ => exact .keep hk rfl rfl rfl rfl

theorem ManagerStep.length_le (h : ManagerStep s e s') :
    s.contexts.length ≤ s'.contexts.length := by
  have hsame {s₁ : Manager} (hs : SameContexts s s₁) (heq : s'.contexts = s₁.contexts) :
      s.contexts.length ≤ s'.contexts.length := by
    have hlength := congrArg List.length hs.contexts
    rw [List.length_map, List.length_map] at hlength
    rw [heq, hlength]
  cases h with
  | lookupExisting => exact hsame (sameContexts_refreshDescriptor s _ _) rfl
  | enumerateAmbiguous _ _ hs | enumerate _ _ hs => exact hsame (sameContexts_enumerate hs) rfl
  | chooseNone _ hs | choose _ hs => exact hsame (sameContexts_chooseDescriptor hs) rfl
  | discover projection => exact hsame (sameContexts_discover s projection) rfl
  | emplace => simp [Manager.emplace, Manager.setCall]
  | acquire | finish | retire => exact (List.length_modify ..).ge
  | _ => exact le_rfl

/-- A context keeps its id, and stays retired. -/
theorem ManagerStep.context (h : ManagerStep s e s') (hk : s.contexts[k]? = some c) :
    ∃ c', s'.contexts[k]? = some c' ∧ c'.deviceId = c.deviceId ∧
      (c.retired = true → c'.retired = true) := by
  have hlt := (List.getElem?_eq_some_iff.1 hk).1
  have hk' := List.getElem?_eq_getElem (hlt.trans_le h.length_le)
  refine ⟨_, hk', ?_⟩
  cases h.contextMove hk' with
  | keep hc hid hr | admitted hc hid hr | ended hc hid hr =>
    cases hk.symm.trans hc
    exact ⟨hid, hr.trans⟩
  | retired hc hid hr =>
    cases hk.symm.trans hc
    exact ⟨hid, fun _ => hr⟩
  | new hc => exact absurd hc hlt.ne

/-- How a thread comes to its call. -/
inductive CallMove (s : Manager) (e : ManagerEvent) (s' : Manager) (n : ℕ)
    (call : ManagerCall) : Prop
  | keep (hn : s.calls n = some call)
  | create (hm : s'.creationMutex = some n) (hr : call.retires = none)
      (hc : ∀ deviceId, call.creates = some deviceId → s'.deviceContexts deviceId = none)
  | goOn {old : ManagerCall} (hn : s.calls n = some old) (hc : call.creates = old.creates)
      (hr : call.retires = old.retires)
      (hwait : ∀ deviceId k, call = .draining deviceId k ∨ call = .drained deviceId k →
        old = .draining deviceId k ∧ e = .internal ∧
          ∀ c, s'.contexts[k]? = some c → c.inFlight = 0)
  | retire {deviceId : String} {k : ℕ} (hcall : call = .draining deviceId k)
      (he : e = .retired deviceId k) (hd : s.deviceContexts deviceId = some k)
      (hr : s.retiringDeviceIds deviceId = false)
      (hothers : ∀ m ≠ n, s'.calls m = s.calls m)

theorem ManagerStep.callMove (h : ManagerStep s e s') (hn : s'.calls n = some call) :
    CallMove s e s' n call := by
  have hset {calls : ℕ → Option ManagerCall} {m : ℕ} {x : Option ManagerCall}
      (hcalls : calls = s.calls) (hn : update calls m x n = some call)
      (hnew : m = n → x = some call → CallMove s e s' n call) : CallMove s e s' n call := by
    rw [hcalls, update_apply] at hn
    split_ifs at hn with hm
    · exact hnew hm.symm hn
    · exact .keep hn
  cases h with
  | lookupExisting => exact .keep ((sameContexts_refreshDescriptor s _ _).calls ▸ hn)
  | lookupCreate _ _ _ hl =>
    refine hset rfl hn ?_
    rintro rfl ⟨⟩
    refine .create rfl rfl ?_
    rintro _ ⟨⟩
    exact Manager.lookup_create hl
  | enumerateAmbiguous _ _ hs =>
    refine hset (sameContexts_enumerate hs).calls hn ?_
    rintro rfl ⟨⟩
  | enumerate hn' _ hs =>
    refine hset (sameContexts_enumerate hs).calls hn ?_
    rintro rfl ⟨⟩
    exact .goOn hn' rfl rfl (by rintro _ _ (⟨⟨⟩⟩ | ⟨⟨⟩⟩))
  | enumerateSkip hn' =>
    refine hset rfl hn ?_
    rintro rfl ⟨⟩
    exact .goOn hn' rfl rfl (by rintro _ _ (⟨⟨⟩⟩ | ⟨⟨⟩⟩))
  | chooseNone _ hs =>
    refine hset (sameContexts_chooseDescriptor hs).calls hn ?_
    rintro rfl ⟨⟩
  | choose hn' hs =>
    refine hset (sameContexts_chooseDescriptor hs).calls hn ?_
    rintro rfl ⟨⟩
    exact .goOn hn' rfl rfl (by rintro _ _ (⟨⟨⟩⟩ | ⟨⟨⟩⟩))
  | emplace | cleanUp =>
    refine hset rfl hn ?_
    rintro rfl ⟨⟩
  | retire _ _ hk hr =>
    refine hset rfl hn ?_
    rintro rfl ⟨⟩
    exact .retire rfl rfl hk hr fun m hm => update_of_ne hm ..
  | drain hn' hk hc =>
    refine hset rfl hn ?_
    rintro rfl ⟨⟩
    refine .goOn hn' rfl rfl ?_
    rintro _ _ (⟨⟨⟩⟩ | ⟨⟨⟩⟩)
    exact ⟨rfl, rfl, fun c hk' => by cases hk.symm.trans hk'; exact hc⟩
  | leafReset hn' | leafReturn hn' =>
    refine hset rfl hn ?_
    rintro rfl ⟨⟩
    exact .goOn hn' rfl rfl (by rintro _ _ (⟨⟨⟩⟩ | ⟨⟨⟩⟩))
  | _ => exact .keep hn

/-- A context comes into the map when it is made, and what is marked stays so. -/
theorem ManagerStep.filed_of (h : ManagerStep s e s') (hi : ManagerInv t s)
    (hd : s'.deviceContexts deviceId = some k) :
    (s.contexts[k]? = none ∧ ∃ c, s'.contexts[k]? = some c ∧ c.deviceId = deviceId) ∨
      s.deviceContexts deviceId = some k ∧
        (s.retiringDeviceIds deviceId = true → s'.retiringDeviceIds deviceId = true) := by
  have hsame {s₁ : Manager} (hs : SameContexts s s₁) (hmap : s'.deviceContexts = s₁.deviceContexts)
      (hretiring : s'.retiringDeviceIds = s₁.retiringDeviceIds) :
      s.deviceContexts deviceId = some k ∧
        (s.retiringDeviceIds deviceId = true → s'.retiringDeviceIds deviceId = true) := by
    rw [← hs.deviceContexts, ← hmap, hretiring, hs.retiring]
    exact ⟨hd, id⟩
  cases h with
  | lookupExisting => exact .inr (hsame (sameContexts_refreshDescriptor s _ _) rfl rfl)
  | enumerateAmbiguous _ _ hs | enumerate _ _ hs =>
    exact .inr (hsame (sameContexts_enumerate hs) rfl rfl)
  | chooseNone _ hs | choose _ hs =>
    exact .inr (hsame (sameContexts_chooseDescriptor hs) rfl rfl)
  | @emplace n id d hn =>
    have hnone := (hi.creates n _ id hn rfl).2
    simp only [Manager.emplace, Manager.setCall, hnone, Option.getD_none, update_apply] at hd
    split_ifs at hd with hid
    · cases hd
      exact .inl ⟨by simp, _, List.getElem?_concat_length, hid.symm⟩
    · exact .inr ⟨hd, fun hr => hr⟩
  | @retire n j id =>
    refine .inr ⟨hd, fun hr => ?_⟩
    change update s.retiringDeviceIds id true deviceId = true
    rw [update_apply]
    split_ifs
    · rfl
    · exact hr
  | @cleanUp n j id _ hn =>
    have hj := (hi.retires n _ id j hn rfl).1
    simp only [Manager.cleanUp, Manager.setCall, hj, if_true, update_apply] at hd
    split_ifs at hd with hne
    exact .inr ⟨hd, (update_of_ne hne ..).trans⟩
  | _ => exact .inr ⟨hd, id⟩

/-- A context stays in the map until its reset takes it out. -/
theorem ManagerStep.filed_keep (h : ManagerStep s e s') (hi : ManagerInv t s)
    (hd : s.deviceContexts deviceId = some k) :
    s'.deviceContexts deviceId = some k ∨ e = .left deviceId k ∧
      ∃ n, s.calls n = some (.cleaning deviceId k) ∧ s'.calls n = none := by
  cases h with
  | lookupExisting =>
    exact .inl ((congrFun (sameContexts_refreshDescriptor s _ _).deviceContexts _).trans hd)
  | enumerateAmbiguous _ _ hs | enumerate _ _ hs =>
    exact .inl ((congrFun (sameContexts_enumerate hs).deviceContexts _).trans hd)
  | chooseNone _ hs | choose _ hs =>
    exact .inl ((congrFun (sameContexts_chooseDescriptor hs).deviceContexts _).trans hd)
  | @emplace n id d hn =>
    have hne : deviceId ≠ id := by
      rintro rfl
      cases hd.symm.trans (hi.creates n _ deviceId hn rfl).2
    exact .inl ((update_of_ne hne ..).trans hd)
  | @cleanUp n j id _ hn =>
    have hj := (hi.retires n _ id j hn rfl).1
    rcases eq_or_ne deviceId id with rfl | hne
    · cases hd.symm.trans hj
      exact .inr ⟨rfl, n, hn, update_self ..⟩
    · refine .inl ?_
      simp only [Manager.cleanUp, Manager.setCall, hj, if_true]
      exact (update_of_ne hne ..).trans hd
  | _ => exact .inl hd

theorem ManagerStep.mutex (h : ManagerStep s e s') (hi : ManagerInv t s)
    (hn : s'.calls n = some call) (hm : s.creationMutex = some n) :
    s'.creationMutex = some n := by
  -- a thread that gives the mutex back has no call any more
  have hgive {calls : ℕ → Option ManagerCall} {m : ℕ} {old : ManagerCall} {id : String}
      (ho : s.calls m = some old) (hc : old.creates = some id)
      (hn : update calls m none n = some call) : False := by
    cases hm.symm.trans (hi.creates m old id ho hc).1
    rw [update_self] at hn
    cases hn
  cases h with
  | lookupExisting => exact (sameContexts_refreshDescriptor s _ _).mutex.trans hm
  | lookupCreate hfree => cases hm.symm.trans hfree
  | enumerateAmbiguous ho | chooseNone ho | emplace ho => exact (hgive ho rfl hn).elim
  | enumerate _ _ hs => exact (sameContexts_enumerate hs).mutex.trans hm
  | choose _ hs => exact (sameContexts_chooseDescriptor hs).mutex.trans hm
  | _ => exact hm

theorem ManagerStep.operations (h : ManagerStep s e s') :
    (∃ k c, e = .admitted k ∧ s.contexts[k]? = some c ∧ s'.operations = k :: s.operations) ∨
      (∃ k ∈ s.operations, e = .ended k ∧ s'.operations = s.operations.erase k) ∨
      s'.operations = s.operations ∧ ∀ k, e ≠ .admitted k ∧ e ≠ .ended k := by
  cases h with
  | acquire hk => exact .inl ⟨_, _, rfl, hk, rfl⟩
  | finish hk => exact .inr (.inl ⟨_, hk, rfl, rfl⟩)
  | lookupExisting =>
    exact .inr (.inr ⟨(sameContexts_refreshDescriptor s _ _).operations, by simp⟩)
  | enumerateAmbiguous _ _ hs | enumerate _ _ hs =>
    exact .inr (.inr ⟨(sameContexts_enumerate hs).operations, by simp⟩)
  | chooseNone _ hs | choose _ hs =>
    exact .inr (.inr ⟨(sameContexts_chooseDescriptor hs).operations, by simp⟩)
  | _ => exact .inr (.inr ⟨rfl, by simp⟩)

/-! ## Every step keeps the invariant -/

theorem ManagerStep.creates (h : ManagerStep s e s') (hi : ManagerInv t s)
    (hn : s'.calls n = some call) (hc : call.creates = some deviceId) :
    s'.creationMutex = some n ∧ s'.deviceContexts deviceId = none := by
  have hold {old : ManagerCall} (ho : s.calls n = some old) (hc : old.creates = some deviceId) :
      s'.creationMutex = some n ∧ s'.deviceContexts deviceId = none := by
    obtain ⟨hm, hd⟩ := hi.creates n old deviceId ho hc
    refine ⟨h.mutex hi hn hm, ?_⟩
    by_contra hne
    obtain ⟨k, hk⟩ := Option.ne_none_iff_exists'.1 hne
    rcases h.filed_of hi hk with ⟨hnone, c, hc', rfl⟩ | ⟨hk, -⟩
    · cases h.contextMove hc' with
      | keep hk | admitted hk | ended hk | retired hk => cases hnone.symm.trans hk
      | new _ _ _ _ _ hnew =>
        -- only the thread that holds the mutex makes a context
        obtain ⟨m, d, hm', hm''⟩ := hnew
        cases hm.symm.trans (hi.creates m _ _ hm' rfl).1
        cases hn.symm.trans hm''
    · cases hd.symm.trans hk
  cases h.callMove hn with
  | keep ho => exact hold ho hc
  | create hm _ hcreates => exact ⟨hm, hcreates _ hc⟩
  | goOn ho hc' => exact hold ho (hc'.symm.trans hc)
  | retire hcall => cases hcall ▸ hc

/-- The context is retired and still in the map. -/
def Manager.Retiring (s : Manager) (deviceId : String) (k : ℕ) : Prop :=
  s.deviceContexts deviceId = some k ∧
    ∃ c, s.contexts[k]? = some c ∧ c.deviceId = deviceId ∧ c.retired = true

theorem ManagerStep.marked (h : ManagerStep s (.retired deviceId k) s') (hi : ManagerInv t s) :
    s'.Retiring deviceId k := by
  cases h with
  | retire _ _ hk =>
    obtain ⟨c, hc, hid⟩ := hi.filed deviceId k hk
    refine ⟨hk, { c with retired := true }, ?_, hid, rfl⟩
    simp [Manager.retire, Manager.modifyContext, Manager.setCall, hc]

theorem ManagerStep.retires (h : ManagerStep s e s') (hi : ManagerInv t s)
    (hn : s'.calls n = some call) (hp : call.retires = some (deviceId, k)) :
    s'.deviceContexts deviceId = some k ∧ ∃ c, s'.contexts[k]? = some c ∧ c.retired = true := by
  have hold {old : ManagerCall} (ho : s.calls n = some old)
      (hp : old.retires = some (deviceId, k)) :
      s'.deviceContexts deviceId = some k ∧ ∃ c, s'.contexts[k]? = some c ∧ c.retired = true := by
    obtain ⟨hd, c, hc, hr⟩ := hi.retires n old deviceId k ho hp
    obtain ⟨c', hc', -, hr'⟩ := h.context hc
    refine ⟨?_, c', hc', hr' hr⟩
    rcases h.filed_keep hi hd with hd | ⟨-, m, hm, hm'⟩
    · exact hd
    · obtain rfl := hi.owner n m _ _ _ ho hp hm rfl
      cases hn.symm.trans hm'
  cases h.callMove hn with
  | keep ho => exact hold ho hp
  | create _ hr => cases hr.symm.trans hp
  | goOn ho _ hr => exact hold ho (hr.symm.trans hp)
  | retire hcall he =>
    subst hcall he
    cases hp
    obtain ⟨hd, c, hc, -, hr⟩ := h.marked hi
    exact ⟨hd, c, hc, hr⟩

/-- The identity of a context that is being retired is marked. -/
theorem ManagerInv.marked (hi : ManagerInv t s) (hn : s.calls n = some call)
    (hp : call.retires = some (deviceId, k)) : s.retiringDeviceIds deviceId = true := by
  obtain ⟨hd, c, hc, hr⟩ := hi.retires n call deviceId k hn hp
  obtain ⟨c', hc', rfl⟩ := hi.filed deviceId k hd
  cases hc.symm.trans hc'
  exact hi.retiring k c hc hr hd

theorem ManagerInv.unmarked (hi : ManagerInv t s) (hd : s.deviceContexts deviceId = some k)
    (hr : s.retiringDeviceIds deviceId = false) (hc : s.contexts[k]? = some c) :
    c.retired ≠ true := by
  intro hr'
  obtain ⟨c', hc', rfl⟩ := hi.filed deviceId k hd
  cases hc.symm.trans hc'
  cases hr.symm.trans (hi.retiring k c hc hr' hd)

theorem ManagerStep.owner (h : ManagerStep s e s') (hi : ManagerInv t s) {m : ℕ}
    {call' : ManagerCall} {p : String × ℕ} (hn : s'.calls n = some call)
    (hp : call.retires = some p) (hm : s'.calls m = some call') (hp' : call'.retires = some p) :
    n = m := by
  -- a thread retires the context already, or begins to while no other thread does
  have hcases {n : ℕ} {call : ManagerCall} (hn : s'.calls n = some call)
      (hp : call.retires = some p) :
      (∃ old, s.calls n = some old ∧ old.retires = some p) ∨
        s.retiringDeviceIds p.1 = false ∧ ∀ m ≠ n, s'.calls m = s.calls m := by
    cases h.callMove hn with
    | keep ho => exact .inl ⟨call, ho, hp⟩
    | create _ hr => cases hr.symm.trans hp
    | goOn ho _ hr => exact .inl ⟨_, ho, hr.symm.trans hp⟩
    | retire hcall _ _ hr hothers =>
      subst hcall
      cases hp
      exact .inr ⟨hr, hothers⟩
  rcases hcases hn hp with ⟨o, ho, hpo⟩ | ⟨hfree, hothers⟩
  · rcases hcases hm hp' with ⟨o', ho', hpo'⟩ | ⟨hfree, -⟩
    · exact hi.owner n m o o' p ho hpo ho' hpo'
    · cases hfree.symm.trans (hi.marked ho hpo)
  · by_contra hne
    rw [hothers m (Ne.symm hne)] at hm
    cases hfree.symm.trans (hi.marked hm hp')

theorem ManagerStep.drained (h : ManagerStep s e s') (hi : ManagerInv t s)
    (hn : s'.calls n = some (.drained deviceId k)) (hk : s'.contexts[k]? = some c') :
    c'.inFlight = 0 := by
  cases h.callMove hn with
  | keep hn =>
    cases h.contextMove hk with
    | keep hc _ _ hf | retired hc _ _ hf => exact hf.trans (hi.drained n deviceId k _ hn hc)
    | admitted hc _ _ _ _ hlive =>
      -- a context with a drained reset is retired
      obtain ⟨-, c₀, hc₀, hr₀⟩ := hi.retires n _ deviceId k hn rfl
      cases hc.symm.trans hc₀
      cases hlive.symm.trans hr₀
    | ended hc _ _ hf => rw [hf, hi.drained n deviceId k _ hn hc]
    | new _ _ hf => exact hf
  | create _ hr => cases hr
  | goOn _ _ _ hwait => exact (hwait deviceId k (.inr rfl)).2.2 c' hk
  | retire hcall => cases hcall

theorem ManagerStep.inFlight (h : ManagerStep s e s') (hi : ManagerInv t s)
    (hk : s'.contexts[k]? = some c') : c'.inFlight = s'.operations.count k := by
  cases h.contextMove hk with
  | keep hc _ _ hf ho | admitted hc _ _ hf ho | ended hc _ _ hf ho | retired hc _ _ hf ho =>
    rw [hf, ho, hi.inFlight k _ hc]
  | new hc _ hf ho =>
    rw [hf, ho, hc]
    refine (List.count_eq_zero_of_not_mem fun hmem => ?_).symm
    exact absurd (hi.operations _ hmem) (Nat.lt_irrefl _)

theorem ManagerStep.ended (h : ManagerStep s e s') (hi : ManagerInv t s) (k : ℕ) :
    (t ++ [e]).count (.admitted k) = (t ++ [e]).count (.ended k) + s'.operations.count k := by
  have hold := hi.ended k
  rcases h.operations with ⟨j, c, rfl, -, ho⟩ | ⟨j, hj, rfl, ho⟩ | ⟨ho, he⟩
  · rcases eq_or_ne k j with rfl | hne
    · simp [ho]
      omega
    · simp [ho, List.count_cons_of_ne hne.symm, hne.symm]
      omega
  · rcases eq_or_ne k j with rfl | hne
    · have hpos := List.count_pos_iff.2 hj
      simp [ho, List.count_erase_self]
      omega
    · simp [ho, List.count_erase_of_ne hne, hne.symm]
      omega
  · simp [ho, he k, hold]

theorem ManagerStep.leafReset_of (h : ManagerStep s (.leafReset k) s') :
    ∃ n deviceId, s.calls n = some (.drained deviceId k) ∧
      s'.calls n = some (.resetting deviceId k) := by
  cases h with
  | leafReset hn => exact ⟨_, _, hn, update_self ..⟩

theorem ManagerStep.fresh (h : ManagerStep s e s') (hi : ManagerInv t s)
    (hwaits : s'.calls n = some (.draining deviceId k) ∨ s'.calls n = some (.drained deviceId k)) :
    .leafReset k ∉ t ++ [e] := by
  obtain ⟨call, hcall, hn⟩ : ∃ call, (call = .draining deviceId k ∨ call = .drained deviceId k) ∧
      s'.calls n = some call := by
    rcases hwaits with hn | hn
    · exact ⟨_, .inl rfl, hn⟩
    · exact ⟨_, .inr rfl, hn⟩
  have hp : call.retires = some (deviceId, k) := by
    rcases hcall with rfl | rfl <;> rfl
  rw [List.mem_append, List.mem_singleton]
  rintro (hmem | rfl)
  · cases h.callMove hn with
    | keep hn =>
      refine hi.fresh n deviceId k ?_ hmem
      rcases hcall with rfl | rfl
      · exact .inl hn
      · exact .inr hn
    | create _ hr => cases hr.symm.trans hp
    | goOn hn _ _ hwait =>
      obtain ⟨rfl, -⟩ := hwait deviceId k hcall
      exact hi.fresh n deviceId k (.inl hn) hmem
    | retire hcall' _ hd hr =>
      subst hcall'
      cases hp
      obtain ⟨c, hc, hr'⟩ := hi.reset k hmem
      exact hi.unmarked hd hr hc hr'
  · -- the thread that has called the reset is the only one that retires the context
    obtain ⟨m, id, hm, hm'⟩ := h.leafReset_of
    obtain ⟨old, ho, hpo⟩ : ∃ old, s.calls n = some old ∧ old.retires = some (deviceId, k) := by
      cases h.callMove hn with
      | keep ho => exact ⟨call, ho, hp⟩
      | create _ hr => cases hr.symm.trans hp
      | goOn ho _ hr => exact ⟨_, ho, hr.symm.trans hp⟩
      | retire _ he => cases he
    obtain ⟨c₁, hk₁, hid₁⟩ := hi.filed id k (hi.retires m _ id k hm rfl).1
    obtain ⟨c₂, hk₂, hid₂⟩ := hi.filed deviceId k (hi.retires n old deviceId k ho hpo).1
    cases hk₁.symm.trans hk₂
    obtain rfl : id = deviceId := hid₁.symm.trans hid₂
    obtain rfl := hi.owner n m _ _ _ ho hpo hm rfl
    cases hn.symm.trans hm'
    rcases hcall with ⟨⟨⟩⟩ | ⟨⟨⟩⟩

theorem ManagerStep.inv (h : ManagerStep s e s') (hi : ManagerInv t s) :
    ManagerInv (t ++ [e]) s' := by
  refine ⟨fun id k hk => ?_, fun k c hk hr => ?_, fun k c hk hr hd => ?_,
    fun _ _ _ => h.creates hi, fun _ _ _ _ => h.retires hi, fun _ _ _ _ _ => h.owner hi,
    fun _ _ _ _ => h.drained hi, fun _ _ => h.inFlight hi, fun k hk => ?_, h.ended hi,
    fun k hk => ?_, fun _ _ _ => h.fresh hi, fun k => ?_⟩
  · rcases h.filed_of hi hk with ⟨-, hnew⟩ | ⟨hk, -⟩
    · exact hnew
    · obtain ⟨c, hc, hid⟩ := hi.filed id k hk
      obtain ⟨c', hc', hid', -⟩ := h.context hc
      exact ⟨c', hc', hid'.trans hid⟩
  · cases h.contextMove hk with
    | keep hc hid hr' | admitted hc hid hr' | ended hc hid hr' =>
      have hlive := hr'.symm.trans hr
      rw [hid]
      rcases h.filed_keep hi (hi.live k _ hc hlive) with hd | ⟨-, n, hn, -⟩
      · exact hd
      · obtain ⟨-, c₀, hc₀, hr₀⟩ := hi.retires n _ _ k hn rfl
        cases hc.symm.trans hc₀
        cases hlive.symm.trans hr₀
    | retired _ _ hr' => cases hr.symm.trans hr'
    | new _ _ _ _ hd hn =>
      obtain ⟨n, d, hn, -⟩ := hn
      exact hd (hi.creates n _ _ hn rfl).2
  · rcases h.filed_of hi hd with ⟨hnone, -⟩ | ⟨hd, hkeep⟩
    · cases h.contextMove hk with
      | keep hc | admitted hc | ended hc | retired hc => cases hnone.symm.trans hc
      | new _ hr' => cases hr.symm.trans hr'
    · cases h.contextMove hk with
      | keep hc hid hr' | admitted hc hid hr' | ended hc hid hr' =>
        refine hkeep ?_
        rw [hid] at hd ⊢
        exact hi.retiring k _ hc (hr'.symm.trans hr) hd
      | retired hc hid _ _ _ hmark =>
        obtain ⟨id, hd', hmark⟩ := hmark
        obtain ⟨c₀, hc₀, rfl⟩ := hi.filed id k hd'
        cases hc.symm.trans hc₀
        exact hid ▸ hmark
      | new _ hr' => cases hr.symm.trans hr'
  · refine lt_of_lt_of_le ?_ h.length_le
    rcases h.operations with ⟨j, c, -, hj, ho⟩ | ⟨j, -, -, ho⟩ | ⟨ho, -⟩
    · rw [ho] at hk
      rcases List.mem_cons.1 hk with rfl | hk
      · exact (List.getElem?_eq_some_iff.1 hj).1
      · exact hi.operations k hk
    · exact hi.operations k (List.mem_of_mem_erase (ho ▸ hk))
    · exact hi.operations k (ho ▸ hk)
  · obtain ⟨c, hc, hr⟩ : ∃ c, s.contexts[k]? = some c ∧ c.retired = true := by
      rcases List.mem_append.1 hk with hk | hk
      · exact hi.reset k hk
      · cases List.mem_singleton.1 hk
        obtain ⟨n, id, hn, -⟩ := h.leafReset_of
        exact (hi.retires n _ id k hn rfl).2
    obtain ⟨c', hc', -, hr'⟩ := h.context hc
    exact ⟨c', hc', hr' hr⟩
  · rw [List.count_append, List.count_singleton]
    split_ifs with he
    · cases beq_iff_eq.1 he
      obtain ⟨n, id, hn, -⟩ := h.leafReset_of
      rw [List.count_eq_zero_of_not_mem (hi.fresh n id k (.inr hn))]
    · exact hi.once k


theorem manager_inv {hasHidTransport : Bool} {selector : TransportSelector}
    (h : Run ManagerStep (.init hasHidTransport selector) t s) : ManagerInv t s := by
  refine h.inv (I := ManagerInv) ?_ fun hi hs => hs.inv hi
  refine ⟨?_, ?_, ?_, ?_, ?_, ?_, ?_, ?_, ?_, fun _ => rfl, ?_, ?_, fun _ => Nat.zero_le _⟩
  · rintro _ _ ⟨⟩
  · rintro _ _ ⟨⟩
  · rintro _ _ ⟨⟩
  · rintro _ _ _ ⟨⟩
  · rintro _ _ _ _ ⟨⟩
  · rintro _ _ _ _ _ ⟨⟩
  · rintro _ _ _ _ ⟨⟩
  · rintro _ _ ⟨⟩
  · rintro _ ⟨⟩
  · rintro _ ⟨⟩
  · rintro _ _ _ _ ⟨⟩

theorem ManagerStep.retiring (h : ManagerStep s e s') (hi : ManagerInv t s)
    (hr : s.Retiring deviceId k) (he : e ≠ .left deviceId k) : s'.Retiring deviceId k := by
  obtain ⟨hk, c, hc, hid, hretired⟩ := hr
  obtain ⟨c', hc', hid', hr'⟩ := h.context hc
  refine ⟨?_, c', hc', hid'.trans hid, hr' hretired⟩
  exact (h.filed_keep hi hk).resolve_right fun hleft => he hleft.1

/-- While a retired context is in the map, `device_context_for` gives nothing. -/
theorem ManagerStep.contextFor_retiring (hi : ManagerInv t s) {j : ℕ} (hr : s.Retiring deviceId k)
    (h : ManagerStep s (.contextFor deviceId (some j)) s') : False := by
  obtain ⟨hk, c, hc, rfl, hretired⟩ := hr
  generalize he : ManagerEvent.contextFor c.deviceId (some j) = e at h
  cases h with
  | lookupExisting _ _ hl =>
    cases he
    have hfree := (Manager.lookup_existing hl).2
    rw [hi.retiring k c hc hretired hk] at hfree
    cases hfree
  | @emplace n id d hn =>
    cases he
    have hnone := (hi.creates n _ _ hn rfl).2
    rw [hk] at hnone
    cases hnone
  | _ => cases he

theorem ManagerStep.handed (h : ManagerStep s e s') (hi : ManagerInv t s)
    (he : e = .contextFor deviceId (some k) ∨ e = .found deviceId (some k)) :
    ∃ c, s'.contexts[k]? = some c ∧ c.deviceId = deviceId := by
  have hfiled (hk : s.deviceContexts deviceId = some k) :
      ∃ c, s'.contexts[k]? = some c ∧ c.deviceId = deviceId := by
    obtain ⟨c, hc, hid⟩ := hi.filed deviceId k hk
    obtain ⟨c', hc', hid', -⟩ := h.context hc
    exact ⟨c', hc', hid'.trans hid⟩
  cases h with
  | lookupExisting _ _ hl =>
    rcases he with ⟨⟨⟩⟩ | ⟨⟨⟩⟩
    exact hfiled (Manager.lookup_existing hl).1
  | @emplace n id d hn =>
    rcases he with ⟨⟨⟩⟩ | ⟨⟨⟩⟩
    exact ⟨_, List.getElem?_concat_length, rfl⟩
  | find id =>
    rcases he with ⟨⟨⟩⟩ | he
    obtain ⟨rfl, hk⟩ := ManagerEvent.found.inj he
    exact hfiled hk
  | _ => rcases he with ⟨⟨⟩⟩ | ⟨⟨⟩⟩

/-- **The retirement protocol of the device contexts**, in every run of the
    manager: of the contexts handed out for a device at most one is not retired,
    and it is in the map; the leaf's reset is called at most once for a context,
    when all operations admitted on it have ended; none is admitted after the
    context was marked; and until the context has left the map
    `device_context_for` gives nothing for its device. -/
theorem device_contexts_retire {hasHidTransport : Bool} {selector : TransportSelector}
    (h : Run ManagerStep (.init hasHidTransport selector) t s) :
    (∀ deviceId k, .contextFor deviceId (some k) ∈ t ∨ .found deviceId (some k) ∈ t →
      ∃ c, s.contexts[k]? = some c ∧ c.deviceId = deviceId) ∧
    (∀ (k : ℕ) c, s.contexts[k]? = some c → c.retired = false →
      s.deviceContexts c.deviceId = some k) ∧
    (∀ k, t.count (.leafReset k) ≤ 1) ∧
    (∀ t₁ t₂ k, t = t₁ ++ .leafReset k :: t₂ →
      t₁.count (.admitted k) = t₁.count (.ended k)) ∧
    (∀ t₁ t₂ deviceId k, t = t₁ ++ .retired deviceId k :: t₂ → .admitted k ∉ t₂) ∧
    ∀ t₁ t₂ t₃ deviceId k, t = t₁ ++ .retired deviceId k :: (t₂ ++ t₃) →
      .left deviceId k ∉ t₂ → ∀ k', .contextFor deviceId (some k') ∉ t₂ := by
  -- the state right after a context was marked
  have hmarked {t₁ t₂ : List ManagerEvent} {deviceId : String} {k : ℕ}
      (ht : t = t₁ ++ .retired deviceId k :: t₂) : ∃ s₁, Run ManagerStep s₁ t₂ s ∧
        ManagerInv (t₁ ++ [.retired deviceId k]) s₁ ∧ s₁.Retiring deviceId k := by
    subst ht
    obtain ⟨s₀, h₀, h⟩ := h.cut
    obtain ⟨s₁, hs, h⟩ := h.first
    have hi := manager_inv h₀
    exact ⟨s₁, h, hs.inv hi, hs.marked hi⟩
  refine ⟨fun deviceId k hk => ?_, (manager_inv h).live, (manager_inv h).once, ?_, ?_, ?_⟩
  · obtain ⟨e, he, hmem⟩ : ∃ e, (e = .contextFor deviceId (some k) ∨
        e = .found deviceId (some k)) ∧ e ∈ t := by
      rcases hk with hk | hk
      · exact ⟨_, .inl rfl, hk⟩
      · exact ⟨_, .inr rfl, hk⟩
    obtain ⟨t₁, t₂, rfl⟩ := List.append_of_mem hmem
    obtain ⟨s₀, h₀, h⟩ := h.cut
    obtain ⟨s₁, hs, h⟩ := h.first
    refine h.keeps (P := fun s => ∃ c, s.contexts[k]? = some c ∧ c.deviceId = deviceId) ?_
      (hs.handed (manager_inv h₀) he)
    rintro s e s' ⟨c, hc, hid⟩ hs
    obtain ⟨c', hc', hid', -⟩ := hs.context hc
    exact ⟨c', hc', hid'.trans hid⟩
  · rintro t₁ t₂ k rfl
    obtain ⟨s₀, h₀, h⟩ := h.cut
    obtain ⟨s₁, hs, -⟩ := h.first
    have hi := manager_inv h₀
    cases hs with
    | @leafReset n _ deviceId hn =>
      obtain ⟨-, c, hc, -⟩ := hi.retires n _ deviceId k hn rfl
      have hzero := hi.drained n deviceId k c hn hc
      rw [hi.inFlight k c hc] at hzero
      rw [hi.ended k, hzero, Nat.add_zero]
  · intro t₁ t₂ deviceId k ht hadm
    obtain ⟨s₁, h₁, -, -, c, hc, -, hr⟩ := hmarked ht
    obtain ⟨t₃, t₄, rfl⟩ := List.append_of_mem hadm
    obtain ⟨s₂, h₂, h⟩ := h₁.cut
    obtain ⟨s₃, hs, -⟩ := h.first
    obtain ⟨c', hc', hr'⟩ := h₂.keeps
      (P := fun s => ∃ c, s.contexts[k]? = some c ∧ c.retired = true)
      (fun ⟨c, hc, hr⟩ hs => by
        obtain ⟨c', hc', -, hr'⟩ := hs.context hc
        exact ⟨c', hc', hr' hr⟩) ⟨c, hc, hr⟩
    cases hs with
    | acquire hk hlive =>
      rw [hc'] at hk
      cases hk
      rw [hr'] at hlive
      cases hlive
  · intro t₁ t₂ t₃ deviceId k ht hleft k' hmem
    obtain ⟨s₁, h₁, hi, hret⟩ := hmarked ht
    obtain ⟨t₄, t₅, rfl⟩ := List.append_of_mem hmem
    obtain ⟨s₂, h₂, h⟩ := Run.cut (t := t₄) (by rwa [List.append_assoc] at h₁)
    obtain ⟨s₃, hs, -⟩ := h.first
    have hkept : ManagerInv (t₁ ++ [.retired deviceId k] ++ t₄) s₂ ∧
        (.left deviceId k ∉ t₄ → s₂.Retiring deviceId k) := by
      refine h₂.inv (I := fun t' s => ManagerInv (t₁ ++ [.retired deviceId k] ++ t') s ∧
        (.left deviceId k ∉ t' → s.Retiring deviceId k))
        ⟨by rwa [List.append_nil], fun _ => hret⟩ ?_
      rintro t' s e s' ⟨hi, hret⟩ hs
      rw [← List.append_assoc]
      refine ⟨hs.inv hi, fun hnot => hs.retiring hi (hret fun h => hnot ?_) fun h => hnot ?_⟩
      · exact List.mem_append_left _ h
      · exact List.mem_append_right _ (List.mem_singleton.2 h.symm)
    exact ManagerStep.contextFor_retiring hkept.1
      (hkept.2 fun h => hleft (List.mem_append_left _ h)) hs

/-- A context is made, used by an operation, retired while the operation is in
    flight, and replaced. -/
theorem device_contexts_retire_replaced :
    ∃ t s, Run ManagerStep (.init false { serialNumber := "S1" }) t s ∧
      s.deviceContexts "d1" = some 1 ∧ t.count (.leafReset 0) = 1 ∧ .refused 0 ∈ t ∧
      ∀ t₁ t₂, t = t₁ ++ .retired "d1" 0 :: t₂ → .admitted 0 ∉ t₂ := by
  have h := Run.one (@ManagerStep.lookupCreate (.init false { serialNumber := "S1" }) 0 "d1" rfl rfl
    (by decide) rfl)
  have h := h.snoc (.enumerateSkip (n := 0) rfl rfl)
  have h := h.snoc (.choose (n := 0) rfl rfl)
  have h := h.snoc (.emplace (n := 0) rfl)
  have h := h.snoc (.acquire (k := 0) rfl rfl)
  have h := h.snoc (@.retire _ 1 0 "d1" rfl rfl rfl rfl)
  have h := h.snoc (.refuse (k := 0) rfl rfl)
  have h := h.snoc (.finish (k := 0) List.mem_cons_self)
  have h := h.snoc (.drain (n := 1) rfl rfl rfl)
  have h := h.snoc (.leafReset (n := 1) rfl)
  have h := h.snoc (.leafReturn (n := 1) rfl)
  have h := h.snoc (.cleanUp (n := 1) rfl rfl)
  have h := h.snoc (@.lookupCreate _ 0 "d1" rfl rfl (by decide) rfl)
  have h := h.snoc (.enumerateSkip (n := 0) rfl rfl)
  have h := h.snoc (.choose (n := 0) rfl rfl)
  have h := h.snoc (.emplace (n := 0) rfl)
  refine ⟨_, _, h, rfl, by decide, by decide, fun t₁ t₂ ht => ?_⟩
  exact (device_contexts_retire h).2.2.2.2.1 t₁ t₂ "d1" 0 ht

end

end Axent.Axtp
