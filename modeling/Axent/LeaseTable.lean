/-
  The leases of a host (`HostLeaseRegistry` and the lease containers of
  `AxentHost::Impl`, `src/host/axent_host.cpp`).

  `LeaseTable` holds the activity counters, the session leases, the media owner
  of each device, the number of the next session, and the `MaintenanceLease`
  handles of the clients.  Its functions are the sections of the host's calls
  that change any of these; `TableStep` is one such section, together with the
  `ActivityReservation` that an acquisition in progress holds.  The number of
  the next session, an `int` in the code, is taken not to overflow.

  `TableInv` says that the containers agree: the counters count the leases and
  the reservation, the maintenance flags are those of the handles, and the
  media owners are the media leases.
-/
import Mathlib.Data.List.Nodup
import Axent.Lib.Keyed
import Axent.MaintenanceLease
import Axent.Types

namespace Axent

open Lib Function

/-! ## The registry of activities -/

/-- `HostLeaseRegistry::DeviceState`. -/
structure DeviceLeases where
  control : ℕ := 0
  media : ℕ := 0
  maintenance : Bool := false
  deriving DecidableEq, Repr

namespace DeviceLeases

/-- The counter of media or control activities. -/
def count (s : DeviceLeases) (media : Bool) : ℕ := if media then s.media else s.control

def setCount (s : DeviceLeases) (media : Bool) (n : ℕ) : DeviceLeases :=
  if media then { s with media := n } else { s with control := n }

def isUnused (s : DeviceLeases) : Bool := s.control = 0 ∧ s.media = 0 ∧ s.maintenance = false

@[simp] theorem count_setCount (s : DeviceLeases) (m m' : Bool) (n : ℕ) :
    (s.setCount m n).count m' = if m' = m then n else s.count m' := by
  cases m <;> cases m' <;> rfl

@[simp] theorem maintenance_setCount (s : DeviceLeases) (m : Bool) (n : ℕ) :
    (s.setCount m n).maintenance = s.maintenance := by
  cases m <;> rfl

theorem isUnused_iff {s : DeviceLeases} : s.isUnused = true ↔ s = {} := by
  obtain ⟨c, m, f⟩ := s
  simp [isUnused]

/-- No activity of either kind. -/
def Idle (s : DeviceLeases) : Prop := ∀ m, s.count m = 0

theorem idle_iff {s : DeviceLeases} : s.Idle ↔ s.control = 0 ∧ s.media = 0 :=
  ⟨fun h => ⟨h false, h true⟩, fun h m => by cases m; exacts [h.1, h.2]⟩

end DeviceLeases

structure HostLeaseRegistry where
  devices : String → Option DeviceLeases := fun _ => none

namespace HostLeaseRegistry

/-- The state of a device; a device without an entry is unused. -/
def state (r : HostLeaseRegistry) (deviceId : String) : DeviceLeases := (r.devices deviceId).getD {}

def set (r : HostLeaseRegistry) (deviceId : String) (s : DeviceLeases) : HostLeaseRegistry :=
  ⟨update r.devices deviceId (some s)⟩

/-- `erase_if_unused`, after the entry became `s`. -/
def setOrErase (r : HostLeaseRegistry) (deviceId : String) (s : DeviceLeases) :
    HostLeaseRegistry :=
  ⟨update r.devices deviceId (if s.isUnused then none else some s)⟩

/-- `acquire_activity`; a device that is refused has an entry already. -/
def acquireActivity (r : HostLeaseRegistry) (deviceId : String) (media : Bool) :
    Except String HostLeaseRegistry :=
  let s := r.state deviceId
  if s.maintenance then .error "maintenance lease busy"
  else .ok (r.set deviceId (s.setCount media (s.count media + 1)))

def releaseActivity (r : HostLeaseRegistry) (deviceId : String) (media : Bool) :
    HostLeaseRegistry :=
  match r.devices deviceId with
  | none => r
  | some s =>
    r.setOrErase deviceId
      (if s.count media ≠ 0 then s.setCount media (s.count media - 1) else s)

def acquireMaintenance (r : HostLeaseRegistry) (deviceId : String) :
    Except String HostLeaseRegistry :=
  let s := r.state deviceId
  if s.maintenance ∨ s.control ≠ 0 ∨ s.media ≠ 0 then
    .error "device is busy with an active control, media, or maintenance lease"
  else .ok (r.set deviceId { s with maintenance := true })

def releaseMaintenance (r : HostLeaseRegistry) (deviceId : String) : HostLeaseRegistry :=
  match r.devices deviceId with
  | none => r
  | some s => r.setOrErase deviceId { s with maintenance := false }

theorem state_set (r : HostLeaseRegistry) (d : String) (s : DeviceLeases) :
    (r.set d s).state = update r.state d s := by
  funext d'
  by_cases h : d' = d
  · subst h; simp [state, set]
  · simp [state, set, h]

theorem state_setOrErase (r : HostLeaseRegistry) (d : String) (s : DeviceLeases) :
    (r.setOrErase d s).state = update r.state d s := by
  funext d'
  by_cases h : d' = d
  · subst h
    by_cases hs : s.isUnused = true
    · simp only [state, setOrErase, update_self, hs, if_true, Option.getD_none]
      exact (DeviceLeases.isUnused_iff.1 hs).symm
    · simp [state, setOrErase, hs]
  · simp [state, setOrErase, h]

theorem acquireActivity_ok {r r' : HostLeaseRegistry} {d : String} {m : Bool}
    (h : r.acquireActivity d m = .ok r') :
    (r.state d).maintenance = false ∧
      r'.state = update r.state d
        ((r.state d).setCount m ((r.state d).count m + 1)) := by
  simp only [acquireActivity] at h
  split_ifs at h with hm
  cases h
  exact ⟨by simpa using hm, state_set _ _ _⟩

theorem state_releaseActivity (r : HostLeaseRegistry) (d : String) (m : Bool) :
    (r.releaseActivity d m).state =
      update r.state d ((r.state d).setCount m ((r.state d).count m - 1)) := by
  unfold releaseActivity
  cases hd : r.devices d with
  | none =>
    have hs : r.state d = {} := by simp [state, hd]
    have hzero : (r.state d).setCount m ((r.state d).count m - 1) = r.state d := by
      rw [hs]; cases m <;> rfl
    rw [hzero, update_eq_self]
  | some s =>
    have hs : r.state d = s := by simp [state, hd]
    rw [state_setOrErase, hs]
    split_ifs with h0
    · rfl
    · obtain ⟨c, n, f⟩ := s
      cases m <;> simp_all [DeviceLeases.count, DeviceLeases.setCount]

/-- The counters and the flags where one counter was set. -/
theorem setCount_of_update {r r' : HostLeaseRegistry} {d : String} {m : Bool} {n : ℕ}
    (h : r'.state = update r.state d ((r.state d).setCount m n)) (x : String) :
    (∀ m', (r'.state x).count m' = if (d, m) = (x, m') then n else (r.state x).count m') ∧
      (r'.state x).maintenance = (r.state x).maintenance := by
  rw [h]
  rcases eq_or_ne x d with rfl | hne
  · simp [eq_comm]
  · simp [hne, hne.symm]

theorem acquireMaintenance_ok {r r' : HostLeaseRegistry} {d : String}
    (h : r.acquireMaintenance d = .ok r') :
    (r.state d).maintenance = false ∧ (r.state d).Idle ∧
      r'.state = update r.state d { r.state d with maintenance := true } := by
  simp only [acquireMaintenance] at h
  split_ifs at h with hm
  cases h
  push Not at hm
  exact ⟨by simpa using hm.1, DeviceLeases.idle_iff.2 hm.2, state_set _ _ _⟩

theorem state_releaseMaintenance (r : HostLeaseRegistry) (d : String) :
    (r.releaseMaintenance d).state =
      update r.state d { r.state d with maintenance := false } := by
  unfold releaseMaintenance
  cases hd : r.devices d with
  | none =>
    have hs : r.state d = {} := by simp [state, hd]
    rw [hs]
    exact (update_eq_self_iff.2 hs.symm).symm
  | some s =>
    have hs : r.state d = s := by simp [state, hd]
    rw [state_setOrErase, hs]

end HostLeaseRegistry

/-! ## The table -/

/-- The answer of `acquire_session`. -/
structure SessionLease where
  acquired : Bool := false
  sessionId : String := ""
  deviceId : String := ""
  clientId : String := ""
  media : Bool := false
  reason : String := ""
  status : ControlStatus := .ok
  deriving DecidableEq, Repr

structure SessionAcquireRequest where
  clientId : String := ""
  deviceId : String := ""
  media : Bool := false
  deriving DecidableEq, Repr

/-- The release function of a maintenance lease: it clears the flag of
    `deviceId`.  The ticket tells the leases apart; the code has no such
    number. -/
structure MaintenanceRelease where
  ticket : ℕ
  deviceId : String
  deriving DecidableEq, Repr

/-- The id that `DeviceSessionManager::open` gives to session `n`. -/
def sessionName (n : ℕ) : String := "devsess-" ++ n.repr

theorem sessionName_inj {n n' : ℕ} : sessionName n = sessionName n' ↔ n = n' := by
  refine ⟨fun h => ?_, fun h => h ▸ rfl⟩
  rw [sessionName, sessionName, String.append_right_inj, Nat.repr_eq_ofList_toDigits,
    Nat.repr_eq_ofList_toDigits, String.ofList_inj] at h
  -- the digits determine the number
  rw [← Nat.ofDigitChars_ten_toDigits (n := n), h, Nat.ofDigitChars_ten_toDigits]

/-- The containers.  `nextId` is the counter of the session manager, `granted`
    the number of maintenance leases granted so far. -/
structure LeaseTable where
  registry : HostLeaseRegistry := {}
  leases : List SessionLease := []
  mediaOwner : String → Option String := fun _ => none
  nextId : ℕ := 1
  handles : ℕ → MaintenanceLease MaintenanceRelease := fun _ => {}
  granted : ℕ := 0

/-- What a client does with its `MaintenanceLease` objects. -/
inductive HandleCall where
  | moveConstruct (handle other : ℕ)
  | moveAssign (handle other : ℕ)
  | reset (handle : ℕ)
  | destroy (handle : ℕ)
  deriving DecidableEq, Repr

namespace LeaseTable

/-- `lease_for_session_locked`. -/
def lookup (t : LeaseTable) (sessionId : String) : Option SessionLease :=
  Lib.lookup SessionLease.sessionId sessionId t.leases

/-- `has_lease_for_device_locked`. -/
def hasLeaseForDevice (t : LeaseTable) (deviceId : String) : Bool :=
  t.leases.any fun l => l.deviceId = deviceId

/-- `acquire_activity` by an acquisition, which then holds a reservation. -/
def reserve (t : LeaseTable) (deviceId : String) (media : Bool) : Except String LeaseTable :=
  (t.registry.acquireActivity deviceId media).map fun r => { t with registry := r }

/-- `~ActivityReservation` of a reservation that was not committed. -/
def cancelReservation (t : LeaseTable) (deviceId : String) (media : Bool) : LeaseTable :=
  { t with registry := t.registry.releaseActivity deviceId media }

/-- The lease that the next acquisition gets. -/
def nextLease (t : LeaseTable) (request : SessionAcquireRequest) : SessionLease where
  acquired := true
  sessionId := sessionName t.nextId
  deviceId := request.deviceId
  clientId := request.clientId
  media := request.media

/-- The new session of `acquire_session`. -/
def openSession (t : LeaseTable) (request : SessionAcquireRequest) : LeaseTable :=
  let lease := t.nextLease request
  { t with
    nextId := t.nextId + 1
    leases := t.leases.filter (fun l => l.sessionId ≠ lease.sessionId) ++ [lease]
    mediaOwner :=
      if request.media then update t.mediaOwner request.deviceId (some lease.sessionId)
      else t.mediaOwner }

/-- What `release_session` does with the containers. -/
def release (t : LeaseTable) (sessionId : String) : LeaseTable :=
  match t.lookup sessionId with
  | none => t
  | some l =>
    { t with
      mediaOwner :=
        if l.media ∧ t.mediaOwner l.deviceId = some sessionId then
          update t.mediaOwner l.deviceId none
        else t.mediaOwner
      leases := t.leases.filter fun l => l.sessionId ≠ sessionId
      registry := t.registry.releaseActivity l.deviceId l.media }

/-- `Impl::reset`; the registry and the handles of the clients stay. -/
def reset (t : LeaseTable) : LeaseTable :=
  { t with
    registry := t.leases.foldl (fun r l => r.releaseActivity l.deviceId l.media) t.registry
    leases := []
    mediaOwner := fun _ => none
    nextId := 1 }

/-- `acquire_maintenance`, and the handle that gets the lease. -/
def grantMaintenance (t : LeaseTable) (deviceId : String) (handle : ℕ) :
    Except String LeaseTable :=
  (t.registry.acquireMaintenance deviceId).map fun r =>
    { t with
      registry := r
      handles := update t.handles handle
        (.grantMaintenance deviceId (some ⟨t.granted, deviceId⟩))
      granted := t.granted + 1 }

/-- The release functions in `releases` run. -/
def runReleases (t : LeaseTable) (releases : List MaintenanceRelease) : LeaseTable :=
  { t with registry := releases.foldl (fun r f => r.releaseMaintenance f.deviceId) t.registry }

/-- A call on the handles, and the release functions that it ran. -/
def callHandle (t : LeaseTable) : HandleCall → LeaseTable × List MaintenanceRelease
  | .moveConstruct handle other =>
    let moved := (t.handles other).moveConstruct
    ({ t with handles := update (update t.handles other moved.2) handle moved.1 },
      [])
  | .moveAssign handle other =>
    if handle = other then (t, [])
    else
      let moved := (t.handles handle).moveAssign (t.handles other)
      ({ t.runReleases moved.2.2 with
          handles := update (update t.handles other moved.2.1) handle moved.1 },
        moved.2.2)
  | .reset handle =>
    let done := (t.handles handle).reset
    ({ t.runReleases done.2 with handles := update t.handles handle done.1 }, done.2)
  | .destroy handle =>
    ({ t.runReleases (t.handles handle).destroy with
        handles := update t.handles handle {} },
      (t.handles handle).destroy)

/-- A new handle is constructed where there was none. -/
def Constructs (t : LeaseTable) : HandleCall → Prop
  | .moveConstruct handle other => (t.handles handle).state = none ∧ handle ≠ other
  | _ => True

/-- Handle `i` lets go of its lease. -/
def letGo (t : LeaseTable) (i : ℕ) : LeaseTable :=
  { t.runReleases (t.handles i).destroy with handles := update t.handles i {} }

/-- Handle `i` takes over what handle `j` holds. -/
def move (t : LeaseTable) (i j : ℕ) : LeaseTable :=
  { t with handles := update (update t.handles j {}) i (t.handles j) }

/-- A call on a handle lets go of a lease, moves one, or does both. -/
theorem callHandle_eq (t : LeaseTable) (call : HandleCall) :
    t.callHandle call =
      match call with
      | .moveConstruct i j => (t.move i j, [])
      | .moveAssign i j =>
        if i = j then (t, []) else ((t.letGo i).move i j, (t.handles i).destroy)
      | .reset i => (t.letGo i, (t.handles i).destroy)
      | .destroy i => (t.letGo i, (t.handles i).destroy) := by
  cases call with
  | moveConstruct i j => rfl
  | destroy i => rfl
  | reset i => simp only [callHandle, MaintenanceLease.reset_eq]; rfl
  | moveAssign i j =>
    simp only [callHandle, MaintenanceLease.moveAssign, MaintenanceLease.reset_eq]
    split_ifs with hij
    · rfl
    · simp only [move, letGo, runReleases, update_of_ne (Ne.symm hij), Prod.mk.injEq,
        and_true, LeaseTable.mk.injEq, true_and]
      rw [update_comm hij, update_idem]

end LeaseTable

/-- An activity reserved by an acquisition in progress: the device and whether
    it is a media activity. -/
abbrev Reservation := Option (String × Bool)

/-- One section of a call that changes the table. -/
inductive TableStep : LeaseTable → Reservation → List MaintenanceRelease → LeaseTable →
    Reservation → Prop
  | same (t : LeaseTable) (r : Reservation) : TableStep t r [] t r
  | reserve {t t' : LeaseTable} {d : String} {m : Bool} (h : t.reserve d m = .ok t') :
      TableStep t none [] t' (some (d, m))
  | cancelReservation (t : LeaseTable) (d : String) (m : Bool) :
      TableStep t (some (d, m)) [] (t.cancelReservation d m) none
  | openSession (t : LeaseTable) (request : SessionAcquireRequest)
      (h : request.media = true → t.mediaOwner request.deviceId = none) :
      TableStep t (some (request.deviceId, request.media)) [] (t.openSession request) none
  | release (t : LeaseTable) (sessionId : String) :
      TableStep t none [] (t.release sessionId) none
  | reset (t : LeaseTable) : TableStep t none [] t.reset none
  | grantMaintenance {t t' : LeaseTable} {d : String} {handle : ℕ} (r : Reservation)
      (hh : (t.handles handle).state = none) (h : t.grantMaintenance d handle = .ok t') :
      TableStep t r [] t' r
  | callHandle (t : LeaseTable) (r : Reservation) (call : HandleCall) (h : t.Constructs call) :
      TableStep t r (t.callHandle call).2 (t.callHandle call).1 r

/-! ## The invariant -/

/-- An activity of the table or of the reservation. -/
def LeaseTable.activities (t : LeaseTable) (r : Reservation) : List (String × Bool) :=
  t.leases.map (fun l => (l.deviceId, l.media)) ++ r.toList

/-- Handle `i` holds the unreleased lease with release function `f`. -/
def LeaseTable.Holds (t : LeaseTable) (i : ℕ) (f : MaintenanceRelease) : Prop :=
  (t.handles i).state = some { deviceId := f.deviceId, release := some f }

structure TableInv (t : LeaseTable) (r : Reservation) : Prop where
  counters : ∀ d m, (t.registry.state d).count m = (t.activities r).count (d, m)
  exclusive : ∀ d, (t.registry.state d).maintenance = true → (t.registry.state d).Idle
  sessions : Distinct SessionLease.sessionId t.leases
  named : ∀ l ∈ t.leases, ∃ n < t.nextId, l.sessionId = sessionName n
  owners : ∀ d s, t.mediaOwner d = some s ↔
    ∃ l ∈ t.leases, l.sessionId = s ∧ l.deviceId = d ∧ l.media = true
  handles : ∀ i, (t.handles i).state ≠ none → ∃ f, t.Holds i f ∧ f.ticket < t.granted
  flags : ∀ d, (t.registry.state d).maintenance = true ↔ ∃ i f, t.Holds i f ∧ f.deviceId = d
  single : ∀ i j f f', t.Holds i f → t.Holds j f' → f.deviceId = f'.deviceId → i = j

theorem TableInv.init : TableInv {} none where
  counters := by intro d m; cases m <;> rfl
  exclusive := by intro d h; cases h
  sessions := distinct_nil
  named := by intro l hl; cases hl
  owners := by intro d s; simp
  handles := by intro i h; exact absurd rfl h
  flags := by
    intro d
    refine iff_of_false (by intro h; cases h) ?_
    rintro ⟨i, f, h, -⟩
    cases h
  single := by intro i j f f' h; cases h

/-! ## Every section keeps the invariant -/

section
variable {t t' : LeaseTable} {r : Reservation} {d : String} {m : Bool} {f : MaintenanceRelease}
  {i : ℕ}

@[simp] theorem LeaseTable.activities_none (t : LeaseTable) :
    t.activities none = t.leases.map fun l => (l.deviceId, l.media) := by
  simp [LeaseTable.activities]

theorem LeaseTable.count_activities_some (t : LeaseTable) (a x : String × Bool) :
    (t.activities (some a)).count x = (t.activities none).count x + if a = x then 1 else 0 := by
  simp [LeaseTable.activities, List.count_append, List.count_singleton]

theorem TableInv.registry_update (hi : TableInv t r) {g : HostLeaseRegistry} {n : DeviceLeases}
    (hg : g.state = update t.registry.state d n)
    (hflag : n.maintenance = (t.registry.state d).maintenance)
    (hidle : n.maintenance = true → n.Idle) :
    (∀ x, (g.state x).maintenance = true → (g.state x).Idle) ∧
      ∀ x, (g.state x).maintenance = (t.registry.state x).maintenance := by
  rw [hg]
  constructor
  · intro x hx
    rcases eq_or_ne x d with rfl | hne
    · simp only [update_self] at hx ⊢
      exact hidle hx
    · simp only [update_of_ne hne] at hx ⊢
      exact hi.exclusive x hx
  · intro x
    rcases eq_or_ne x d with rfl | hne
    · rw [update_self, hflag]
    · rw [update_of_ne hne]

theorem TableInv.reserve (hi : TableInv t none) (h : t.reserve d m = .ok t') :
    TableInv t' (some (d, m)) := by
  unfold LeaseTable.reserve at h
  cases hg : t.registry.acquireActivity d m with
  | error e => rw [hg] at h; cases h
  | ok g =>
    rw [hg] at h
    cases h
    obtain ⟨hfree, hstate⟩ := HostLeaseRegistry.acquireActivity_ok hg
    obtain ⟨hexclusive, hflags⟩ := hi.registry_update hstate (by simp) (by simp [hfree])
    refine { hi with counters := ?_, exclusive := hexclusive, flags := ?_ }
    · intro x m'
      show (g.state x).count m' = (t.activities _).count _
      rw [(HostLeaseRegistry.setCount_of_update hstate x).1, LeaseTable.count_activities_some,
        ← hi.counters]
      split_ifs with hx
      · cases hx
        rfl
      · rfl
    · intro x
      show (g.state x).maintenance = true ↔ _
      rw [hflags]
      exact hi.flags x

theorem TableInv.releaseActivity (hi : TableInv t r) (d : String) (m : Bool)
    (rest : List (String × Bool))
    (hcount : ∀ x m', (t.activities r).count (x, m') =
      rest.count (x, m') + if (d, m) = (x, m') then 1 else 0) :
    (∀ x m', ((t.registry.releaseActivity d m).state x).count m' = rest.count (x, m')) ∧
      (∀ x, ((t.registry.releaseActivity d m).state x).maintenance = true →
        ((t.registry.releaseActivity d m).state x).Idle) ∧
      ∀ x, ((t.registry.releaseActivity d m).state x).maintenance =
        (t.registry.state x).maintenance := by
  have hstate := t.registry.state_releaseActivity d m
  refine ⟨fun x m' => ?_, hi.registry_update hstate (by simp) ?_⟩
  · have hx := (hi.counters x m').trans (hcount x m')
    rw [(HostLeaseRegistry.setCount_of_update hstate x).1]
    split_ifs at hx ⊢ with he
    · cases he
      omega
    · exact hx
  · intro hflag
    have hzero := hi.exclusive d (by simpa using hflag) m
    rw [hi.counters, hcount] at hzero
    simp at hzero

theorem TableInv.cancelReservation (hi : TableInv t (some (d, m))) :
    TableInv (t.cancelReservation d m) none := by
  obtain ⟨hcounters, hexclusive, hflags⟩ :=
    hi.releaseActivity d m _ fun x m' => t.count_activities_some (d, m) (x, m')
  refine { hi with counters := hcounters, exclusive := hexclusive, flags := ?_ }
  intro x
  show ((t.registry.releaseActivity d m).state x).maintenance = true ↔ _
  rw [hflags]
  exact hi.flags x

theorem TableInv.fresh (hi : TableInv t r) {l : SessionLease} (hl : l ∈ t.leases) :
    l.sessionId ≠ sessionName t.nextId := by
  obtain ⟨n, hn, hname⟩ := hi.named l hl
  rw [hname, Ne, sessionName_inj]
  exact hn.ne

theorem TableInv.leases_openSession (hi : TableInv t r) (request : SessionAcquireRequest) :
    (t.openSession request).leases = t.leases ++ [t.nextLease request] := by
  have hkeep : t.leases.filter (fun l => l.sessionId ≠ (t.nextLease request).sessionId) =
      t.leases := List.filter_eq_self.2 fun l hl => decide_eq_true (hi.fresh hl)
  show t.leases.filter _ ++ _ = _
  rw [hkeep]

theorem TableInv.openSession {request : SessionAcquireRequest}
    (hi : TableInv t (some (request.deviceId, request.media)))
    (h : request.media = true → t.mediaOwner request.deviceId = none) :
    TableInv (t.openSession request) none where
  counters := by
    intro d m
    rw [LeaseTable.activities_none, hi.leases_openSession, List.map_append, List.count_append]
    have hd := (hi.counters d m).trans (t.count_activities_some _ (d, m))
    rw [LeaseTable.activities_none] at hd
    rw [show (t.openSession request).registry = t.registry from rfl, hd]
    simp [LeaseTable.nextLease, List.count_singleton]
  exclusive := hi.exclusive
  sessions := by
    rw [hi.leases_openSession]
    exact hi.sessions.concat fun l hl => hi.fresh hl
  named := by
    rw [hi.leases_openSession]
    intro l hl
    rcases List.mem_append.1 hl with hl | hl
    · obtain ⟨n, hn, hname⟩ := hi.named l hl
      exact ⟨n, hn.trans (Nat.lt_succ_self _), hname⟩
    · rw [List.mem_singleton.1 hl]
      exact ⟨t.nextId, Nat.lt_succ_self _, rfl⟩
  owners := by
    intro d s
    simp only [hi.leases_openSession, List.mem_append, List.mem_singleton, or_and_right, exists_or,
      exists_eq_left, ← hi.owners d s]
    show (if request.media then _ else _ : String → Option String) d = some s ↔ _
    cases hm : request.media with
    | false => simp [LeaseTable.nextLease, hm]
    | true =>
      have hnone := h hm
      rcases eq_or_ne request.deviceId d with rfl | hne
      · simp [LeaseTable.nextLease, hm, hnone]
      · simp [LeaseTable.nextLease, hm, hne, update_of_ne hne.symm]
  handles := hi.handles
  flags := hi.flags
  single := hi.single

theorem TableInv.release (hi : TableInv t none) (sessionId : String) :
    TableInv (t.release sessionId) none := by
  unfold LeaseTable.release
  cases hl : t.lookup sessionId with
  | none => exact hi
  | some l =>
    obtain ⟨hmem, hid⟩ := lookup_mem hl
    subst hid
    -- the counters count the lease that goes once
    obtain ⟨hcounters, hexclusive, hflags⟩ := hi.releaseActivity l.deviceId l.media
      ((t.leases.filter fun b => b.sessionId ≠ l.sessionId).map
        fun l => (l.deviceId, l.media)) (by
        intro x m
        rw [LeaseTable.activities_none, ((hi.sessions.perm_cons_filter hmem).map _).count_eq,
          List.map_cons, List.count_cons]
        simp [beq_iff_eq])
    have howner : l.media = true → t.mediaOwner l.deviceId = some l.sessionId := fun hm =>
      (hi.owners _ _).2 ⟨l, hmem, rfl, rfl, hm⟩
    refine
      { counters := fun x m => by rw [LeaseTable.activities_none]; exact hcounters x m
        exclusive := hexclusive
        sessions := hi.sessions.filter _
        named := fun b hb => hi.named b (List.mem_filter.1 hb).1
        owners := fun d s => ?_
        handles := hi.handles
        flags := fun x => ?_
        single := hi.single }
    · have hfilter : (∃ b ∈ t.leases.filter (fun b => b.sessionId ≠ l.sessionId),
          b.sessionId = s ∧ b.deviceId = d ∧ b.media = true) ↔
          t.mediaOwner d = some s ∧ s ≠ l.sessionId := by
        rw [hi.owners]
        simp only [List.mem_filter, decide_eq_true_eq]
        constructor
        · rintro ⟨b, ⟨hb, hne⟩, rfl, hd, hm⟩
          exact ⟨⟨b, hb, rfl, hd, hm⟩, hne⟩
        · rintro ⟨⟨b, hb, rfl, hd, hm⟩, hne⟩
          exact ⟨b, ⟨hb, hne⟩, rfl, hd, hm⟩
      refine Iff.trans ?_ hfilter.symm
      dsimp only
      split_ifs with hcond
      · rcases eq_or_ne d l.deviceId with rfl | hne
        · rw [update_self, hcond.2]
          simp only [reduceCtorEq, Option.some.injEq, false_iff, not_and, not_not]
          exact fun h => h.symm
        · rw [update_of_ne hne, iff_self_and]
          rintro hs rfl
          obtain ⟨b, hb, hsid, hd, -⟩ := (hi.owners _ _).1 hs
          exact hne (by rw [← hd, hi.sessions.eq hb hmem hsid])
      · rw [iff_self_and]
        rintro hs rfl
        obtain ⟨b, hb, hsid, -, hm⟩ := (hi.owners _ _).1 hs
        rw [hi.sessions.eq hb hmem hsid] at hm
        exact hcond ⟨hm, howner hm⟩
    · show ((t.registry.releaseActivity l.deviceId l.media).state x).maintenance = true ↔ _
      rw [hflags]
      exact hi.flags x

theorem state_foldl_releaseActivity (leases : List SessionLease) (g : HostLeaseRegistry)
    (x : String) :
    let g' := leases.foldl (fun g l => g.releaseActivity l.deviceId l.media) g
    (∀ m, (g'.state x).count m =
        (g.state x).count m - (leases.map fun l => (l.deviceId, l.media)).count (x, m)) ∧
      (g'.state x).maintenance = (g.state x).maintenance := by
  induction leases generalizing g with
  | nil => simp
  | cons l leases ih =>
    obtain ⟨hcount, hflag⟩ := ih (g.releaseActivity l.deviceId l.media)
    obtain ⟨hset, hkept⟩ := HostLeaseRegistry.setCount_of_update
      (g.state_releaseActivity l.deviceId l.media) x
    refine ⟨fun m => ?_, hflag.trans hkept⟩
    rw [List.foldl_cons, hcount m, hset, List.map_cons, List.count_cons]
    simp only [beq_iff_eq]
    split_ifs with hx
    · cases hx
      omega
    · rfl

theorem TableInv.reset (hi : TableInv t none) : TableInv t.reset none := by
  have hfold := state_foldl_releaseActivity t.leases t.registry
  have hzero (x : String) : ((t.reset).registry.state x).Idle := by
    intro m
    show ((t.leases.foldl (fun g l => g.releaseActivity l.deviceId l.media)
      t.registry).state x).count m = 0
    rw [(hfold x).1, hi.counters, LeaseTable.activities_none, Nat.sub_self]
  exact
    { counters := fun d m => hzero d m
      exclusive := fun d _ => hzero d
      sessions := distinct_nil
      named := fun l hl => by cases hl
      owners := fun d s => by simp [LeaseTable.reset]
      handles := hi.handles
      flags := fun d => by
        show ((t.leases.foldl (fun g l => g.releaseActivity l.deviceId l.media)
          t.registry).state d).maintenance = true ↔ _
        rw [(hfold d).2]
        exact hi.flags d
      single := hi.single }

theorem LeaseTable.holds_inj {f' : MaintenanceRelease} (h : t.Holds i f) (h' : t.Holds i f') :
    f = f' := by
  have hstate := Option.some.inj (h.symm.trans h')
  exact Option.some.inj (congrArg MaintenanceLeaseState.release hstate)

theorem grantMaintenance_ok {handle : ℕ} (h : t.grantMaintenance d handle = .ok t') :
    ∃ g, t.registry.acquireMaintenance d = .ok g ∧
      t' = { t with
        registry := g
        handles := update t.handles handle
          (.grantMaintenance d (some ⟨t.granted, d⟩))
        granted := t.granted + 1 } := by
  unfold LeaseTable.grantMaintenance at h
  cases hg : t.registry.acquireMaintenance d with
  | error e => rw [hg] at h; cases h
  | ok g => rw [hg] at h; cases h; exact ⟨g, rfl, rfl⟩

theorem holds_grant {handle : ℕ} (h : t.grantMaintenance d handle = .ok t') :
    t'.Holds i f ↔ if i = handle then f = ⟨t.granted, d⟩ else t.Holds i f := by
  obtain ⟨g, -, rfl⟩ := grantMaintenance_ok h
  unfold LeaseTable.Holds
  split_ifs with hi
  · subst hi
    simp only [update_self, MaintenanceLease.grantMaintenance, Option.some.injEq,
      MaintenanceLeaseState.mk.injEq, and_true]
    constructor
    · rintro ⟨-, he⟩
      exact he.symm
    · rintro rfl
      exact ⟨rfl, rfl⟩
  · simp only [update_of_ne hi]

theorem TableInv.grantMaintenance (hi : TableInv t r) {handle : ℕ}
    (hh : (t.handles handle).state = none) (h : t.grantMaintenance d handle = .ok t') :
    TableInv t' r := by
  have hholds := fun i f => holds_grant (i := i) (f := f) h
  obtain ⟨g, hg, rfl⟩ := grantMaintenance_ok h
  obtain ⟨hfree, hidle, hstate⟩ := HostLeaseRegistry.acquireMaintenance_ok hg
  have hnone (f : MaintenanceRelease) : ¬ t.Holds handle f := by
    intro hf
    rw [LeaseTable.Holds, hh] at hf
    cases hf
  have hcount (x : String) (m : Bool) : (g.state x).count m = (t.registry.state x).count m := by
    rw [hstate]
    rcases eq_or_ne x d with rfl | hne
    · rw [update_self]; rfl
    · rw [update_of_ne hne]
  have hflag (x : String) : (g.state x).maintenance = true ↔
      x = d ∨ (t.registry.state x).maintenance = true := by
    rw [hstate]
    rcases eq_or_ne x d with rfl | hne
    · simp
    · simp [hne]
  refine
    { counters := fun x m => (hcount x m).trans (hi.counters x m)
      exclusive := ?_
      sessions := hi.sessions
      named := hi.named
      owners := hi.owners
      handles := ?_
      flags := ?_
      single := ?_ }
  · intro x hx m
    refine (hcount x m).trans ?_
    rcases (hflag x).1 hx with rfl | hx
    · exact hidle m
    · exact hi.exclusive x hx m
  · intro i hne
    rcases eq_or_ne i handle with rfl | hih
    · exact ⟨⟨t.granted, d⟩, (hholds i _).2 (by rw [if_pos rfl]), Nat.lt_succ_self _⟩
    · simp only [update_of_ne hih] at hne
      obtain ⟨f, hf, hlt⟩ := hi.handles i hne
      exact ⟨f, (hholds i f).2 (by rwa [if_neg hih]), hlt.trans (Nat.lt_succ_self _)⟩
  · intro x
    refine (hflag x).trans ?_
    rw [hi.flags]
    constructor
    · rintro (rfl | ⟨i, f, hf, rfl⟩)
      · exact ⟨handle, ⟨t.granted, x⟩, (hholds _ _).2 (by rw [if_pos rfl]), rfl⟩
      · have hih : i ≠ handle := fun e => hnone f (e ▸ hf)
        exact ⟨i, f, (hholds i f).2 (by rwa [if_neg hih]), rfl⟩
    · rintro ⟨i, f, hf, rfl⟩
      rw [hholds] at hf
      split_ifs at hf with hih
      · exact .inl (congrArg MaintenanceRelease.deviceId hf)
      · exact .inr ⟨i, f, hf, rfl⟩
  · -- the device was free before, so no other handle holds it
    have hother (j : ℕ) (f : MaintenanceRelease) (hf : t.Holds j f) : f.deviceId ≠ d := by
      intro hd
      have hset := (hi.flags d).2 ⟨j, f, hf, hd⟩
      rw [hfree] at hset
      cases hset
    intro i j f f' hf hf' hd
    rw [hholds] at hf hf'
    split_ifs at hf hf' with hih hjh hjh
    · rw [hih, hjh]
    · subst hf
      exact absurd hd.symm (hother j f' hf')
    · subst hf'
      exact absurd hd (hother i f hf)
    · exact hi.single i j f f' hf hf' hd

theorem holds_letGo {j : ℕ} : (t.letGo i).Holds j f ↔ j ≠ i ∧ t.Holds j f := by
  unfold LeaseTable.Holds LeaseTable.letGo
  rcases eq_or_ne j i with rfl | hne
  · simp
  · simp [hne]

theorem holds_move {j k : ℕ} :
    (t.move i j).Holds k f ↔ if k = i then t.Holds j f else k ≠ j ∧ t.Holds k f := by
  unfold LeaseTable.Holds LeaseTable.move
  split_ifs with hki
  · subst hki
    simp only [update_self]
  · rcases eq_or_ne k j with rfl | hne
    · simp [update_of_ne hki]
    · simp [update_of_ne hki, hne]

/-- What a handle's release does: nothing, or the function it holds runs. -/
theorem TableInv.destroy_eq (hi : TableInv t r) (i : ℕ) :
    ((t.handles i).destroy = [] ∧ ∀ f, ¬ t.Holds i f) ∨
      ∃ f, t.Holds i f ∧ (t.handles i).destroy = [f] := by
  by_cases hs : (t.handles i).state = none
  · refine .inl ⟨by simp [MaintenanceLease.destroy, hs], fun f hf => ?_⟩
    rw [LeaseTable.Holds, hs] at hf
    cases hf
  · obtain ⟨f, hf, -⟩ := hi.handles i hs
    refine .inr ⟨f, hf, ?_⟩
    rw [LeaseTable.Holds] at hf
    simp [MaintenanceLease.destroy, hf, MaintenanceLeaseState.runRelease]

theorem TableInv.letGo (hi : TableInv t r) (i : ℕ) : TableInv (t.letGo i) r := by
  have hhandles : ∀ j, ((t.letGo i).handles j).state ≠ none →
      ∃ f, (t.letGo i).Holds j f ∧ f.ticket < t.granted := by
    intro j hj
    have hne : j ≠ i := by
      rintro rfl
      simp [LeaseTable.letGo] at hj
    obtain ⟨f, hf, hlt⟩ := hi.handles j (by simpa [LeaseTable.letGo, hne] using hj)
    exact ⟨f, holds_letGo.2 ⟨hne, hf⟩, hlt⟩
  have hsingle : ∀ j k f f', (t.letGo i).Holds j f → (t.letGo i).Holds k f' →
      f.deviceId = f'.deviceId → j = k := by
    intro j k f f' hf hf' hd
    exact hi.single j k f f' (holds_letGo.1 hf).2 (holds_letGo.1 hf').2 hd
  rcases hi.destroy_eq i with ⟨hnil, hnone⟩ | ⟨f, hf, hone⟩
  · have hreg : (t.letGo i).registry = t.registry := by
      simp [LeaseTable.letGo, LeaseTable.runReleases, hnil]
    refine { hi with counters := ?_, exclusive := ?_, handles := hhandles, flags := ?_,
                     single := hsingle }
    · rw [hreg]; exact hi.counters
    · rw [hreg]; exact hi.exclusive
    · intro d
      rw [hreg, hi.flags]
      constructor
      · rintro ⟨j, f, hf, hd⟩
        exact ⟨j, f, holds_letGo.2 ⟨fun e => hnone f (e ▸ hf), hf⟩, hd⟩
      · rintro ⟨j, f, hf, hd⟩
        exact ⟨j, f, (holds_letGo.1 hf).2, hd⟩
  · have hreg : (t.letGo i).registry.state = update t.registry.state f.deviceId
        { t.registry.state f.deviceId with maintenance := false } := by
      simp only [LeaseTable.letGo, LeaseTable.runReleases, hone, List.foldl_cons, List.foldl_nil]
      exact t.registry.state_releaseMaintenance f.deviceId
    have hcount (x : String) (m : Bool) :
        ((t.letGo i).registry.state x).count m = (t.registry.state x).count m := by
      rw [hreg]
      rcases eq_or_ne x f.deviceId with rfl | hne
      · rw [update_self]; rfl
      · rw [update_of_ne hne]
    have hflag (x : String) : ((t.letGo i).registry.state x).maintenance = true ↔
        x ≠ f.deviceId ∧ (t.registry.state x).maintenance = true := by
      rw [hreg]
      rcases eq_or_ne x f.deviceId with rfl | hne
      · simp
      · simp [hne]
    refine { hi with counters := ?_, exclusive := ?_, handles := hhandles, flags := ?_,
                     single := hsingle }
    · intro x m
      exact (hcount x m).trans (hi.counters x m)
    · intro x hx m
      exact (hcount x m).trans (hi.exclusive x ((hflag x).1 hx).2 m)
    · intro x
      rw [hflag, hi.flags]
      constructor
      · rintro ⟨hne, j, f', hf', rfl⟩
        refine ⟨j, f', holds_letGo.2 ⟨?_, hf'⟩, rfl⟩
        rintro rfl
        exact hne (by rw [LeaseTable.holds_inj hf' hf])
      · rintro ⟨j, f', hf', rfl⟩
        obtain ⟨hne, hf'⟩ := holds_letGo.1 hf'
        exact ⟨fun hd => hne (hi.single j i f' f hf' hf hd), j, f', hf', rfl⟩

theorem exists_holds_move {j : ℕ} (he : (t.handles i).state = none) (f : MaintenanceRelease) :
    (∃ k, (t.move i j).Holds k f) ↔ ∃ k, t.Holds k f := by
  constructor
  · rintro ⟨k, hf⟩
    rw [holds_move] at hf
    split_ifs at hf with hki
    · exact ⟨j, hf⟩
    · exact ⟨k, hf.2⟩
  · rintro ⟨k, hf⟩
    by_cases hkj : k = j
    · subst hkj
      exact ⟨i, holds_move.2 (by rwa [if_pos rfl])⟩
    · have hki : k ≠ i := by
        rintro rfl
        rw [LeaseTable.Holds, he] at hf
        cases hf
      exact ⟨k, holds_move.2 (by rw [if_neg hki]; exact ⟨hkj, hf⟩)⟩

theorem holds_move_single {j k k' : ℕ} {f' : MaintenanceRelease}
    (hsingle : ∀ k k', t.Holds k f → t.Holds k' f' → k = k') (hf : (t.move i j).Holds k f)
    (hf' : (t.move i j).Holds k' f') : k = k' := by
  rw [holds_move] at hf hf'
  split_ifs at hf hf' with hk hk' hk'
  · rw [hk, hk']
  · exact absurd (hsingle _ _ hf hf'.2).symm hf'.1
  · exact absurd (hsingle _ _ hf.2 hf') hf.1
  · exact hsingle _ _ hf.2 hf'.2

theorem TableInv.move (hi : TableInv t r) {j : ℕ} (he : (t.handles i).state = none) :
    TableInv (t.move i j) r := by
  refine { hi with handles := ?_, flags := ?_, single := ?_ }
  · intro k hk
    by_cases hki : k = i
    · subst hki
      obtain ⟨f, hf, hlt⟩ := hi.handles j (by simpa [LeaseTable.move] using hk)
      exact ⟨f, holds_move.2 (by rwa [if_pos rfl]), hlt⟩
    · have hkj : k ≠ j := by
        rintro rfl
        simp [LeaseTable.move, update_of_ne hki] at hk
      obtain ⟨f, hf, hlt⟩ := hi.handles k
        (by simpa [LeaseTable.move, update_of_ne hki, hkj] using hk)
      exact ⟨f, holds_move.2 (by rw [if_neg hki]; exact ⟨hkj, hf⟩), hlt⟩
  · intro d
    refine (hi.flags d).trans ⟨?_, ?_⟩
    · rintro ⟨k, f, hf, hd⟩
      obtain ⟨k', hf'⟩ := (exists_holds_move he f).2 ⟨k, hf⟩
      exact ⟨k', f, hf', hd⟩
    · rintro ⟨k, f, hf, hd⟩
      obtain ⟨k', hf'⟩ := (exists_holds_move he f).1 ⟨k, hf⟩
      exact ⟨k', f, hf', hd⟩
  · intro k k' f f' hf hf' hd
    exact holds_move_single (fun k k' h h' => hi.single k k' f f' h h' hd) hf hf'

/-- **Every section keeps the containers in agreement.** -/
theorem TableStep.inv {t t' : LeaseTable} {r r' : Reservation} {releases : List MaintenanceRelease}
    (hi : TableInv t r) (h : TableStep t r releases t' r') : TableInv t' r' := by
  cases h with
  | same => exact hi
  | reserve h => exact hi.reserve h
  | cancelReservation d m => exact hi.cancelReservation
  | openSession request h => exact hi.openSession h
  | release sessionId => exact hi.release sessionId
  | reset => exact hi.reset
  | grantMaintenance r hh h => exact hi.grantMaintenance hh h
  | callHandle r call h =>
    rw [LeaseTable.callHandle_eq]
    cases call with
    | moveConstruct i j => exact hi.move h.1
    | reset i => exact hi.letGo i
    | destroy i => exact hi.letGo i
    | moveAssign i j =>
      dsimp only
      split_ifs
      · exact hi
      · exact (hi.letGo i).move (by simp [LeaseTable.letGo])

/-! ## Every maintenance lease is released once -/

/-- The tickets whose release function ran are `released`; every other lease
    that was granted is held by one handle. -/
structure TicketInv (released : List ℕ) (t : LeaseTable) : Prop where
  granted : ∀ k, k < t.granted ↔ k ∈ released ∨ ∃ i f, t.Holds i f ∧ f.ticket = k
  once : released.Nodup
  unreleased : ∀ i f, t.Holds i f → f.ticket ∉ released
  single : ∀ i j f f', t.Holds i f → t.Holds j f' → f.ticket = f'.ticket → i = j

theorem TicketInv.init : TicketInv [] {} where
  granted := by
    intro k
    refine iff_of_false (Nat.not_lt_zero k) ?_
    rintro (h | ⟨i, f, h, -⟩) <;> cases h
  once := List.nodup_nil
  unreleased := by intro i f h; cases h
  single := by intro i j f f' h; cases h

variable {released : List ℕ}

theorem TicketInv.of_handles (hk : TicketInv released t) (hh : t'.handles = t.handles)
    (hg : t'.granted = t.granted) : TicketInv released t' := by
  have hholds (i : ℕ) (f : MaintenanceRelease) : t'.Holds i f ↔ t.Holds i f := by
    rw [LeaseTable.Holds, LeaseTable.Holds, hh]
  constructor
  · simpa only [hholds, hg] using hk.granted
  · exact hk.once
  · simpa only [hholds] using hk.unreleased
  · simpa only [hholds] using hk.single

theorem TicketInv.grantMaintenance (hk : TicketInv released t) {handle : ℕ}
    (hh : (t.handles handle).state = none) (h : t.grantMaintenance d handle = .ok t') :
    TicketInv released t' := by
  have hholds := fun i f => holds_grant (i := i) (f := f) h
  have hgranted : t'.granted = t.granted + 1 := by
    obtain ⟨g, -, rfl⟩ := grantMaintenance_ok h
    rfl
  have hnone (f : MaintenanceRelease) : ¬ t.Holds handle f := by
    intro hf
    rw [LeaseTable.Holds, hh] at hf
    cases hf
  have hold {i : ℕ} {f : MaintenanceRelease} (hf : t.Holds i f) : f.ticket < t.granted :=
    (hk.granted _).2 (.inr ⟨i, f, hf, rfl⟩)
  have hnew : t.granted ∉ released := fun hmem =>
    lt_irrefl _ ((hk.granted t.granted).2 (.inl hmem))
  refine ⟨fun k => ?_, hk.once, fun i f hf => ?_, fun i j f f' hf hf' hticket => ?_⟩
  · rw [hgranted, Nat.lt_succ_iff_lt_or_eq, hk.granted]
    constructor
    · rintro ((hmem | ⟨i, f, hf, hticket⟩) | rfl)
      · exact .inl hmem
      · have hih : i ≠ handle := fun e => hnone f (e ▸ hf)
        exact .inr ⟨i, f, (hholds i f).2 (by rwa [if_neg hih]), hticket⟩
      · exact .inr ⟨handle, ⟨t.granted, d⟩, (hholds _ _).2 (by rw [if_pos rfl]), rfl⟩
    · rintro (hmem | ⟨i, f, hf, rfl⟩)
      · exact .inl (.inl hmem)
      · rw [hholds] at hf
        split_ifs at hf with hih
        · exact .inr (congrArg MaintenanceRelease.ticket hf)
        · exact .inl (.inr ⟨i, f, hf, rfl⟩)
  · rw [hholds] at hf
    split_ifs at hf with hih
    · rw [hf]; exact hnew
    · exact hk.unreleased i f hf
  · rw [hholds] at hf hf'
    split_ifs at hf hf' with hih hjh hjh
    · rw [hih, hjh]
    · subst hf
      exact absurd (hold hf') (by rw [← hticket]; exact lt_irrefl _)
    · subst hf'
      exact absurd (hold hf) (by rw [hticket]; exact lt_irrefl _)
    · exact hk.single i j f f' hf hf' hticket

theorem TicketInv.letGo (hk : TicketInv released t) (hi : TableInv t r) (i : ℕ) :
    TicketInv (released ++ (t.handles i).destroy.map MaintenanceRelease.ticket) (t.letGo i) := by
  rcases hi.destroy_eq i with ⟨hnil, hnone⟩ | ⟨f, hf, hone⟩
  · have hholds (j : ℕ) (f : MaintenanceRelease) : (t.letGo i).Holds j f ↔ t.Holds j f := by
      rw [holds_letGo, and_iff_right_iff_imp]
      rintro hf rfl
      exact hnone f hf
    rw [hnil, List.map_nil, List.append_nil]
    constructor
    · show ∀ k, k < t.granted ↔ _
      simpa only [hholds] using hk.granted
    · exact hk.once
    · simpa only [hholds] using hk.unreleased
    · simpa only [hholds] using hk.single
  · rw [hone, List.map_singleton]
    refine ⟨fun k => ?_, ?_, fun j f' hf' => ?_, fun j k f₁ f₂ h₁ h₂ => ?_⟩
    · show k < t.granted ↔ _
      rw [hk.granted, List.mem_append, List.mem_singleton]
      constructor
      · rintro (hmem | ⟨j, f', hf', rfl⟩)
        · exact .inl (.inl hmem)
        · rcases eq_or_ne j i with rfl | hne
          · exact .inl (.inr (by rw [LeaseTable.holds_inj hf' hf]))
          · exact .inr ⟨j, f', holds_letGo.2 ⟨hne, hf'⟩, rfl⟩
      · rintro ((hmem | rfl) | ⟨j, f', hf', rfl⟩)
        · exact .inl hmem
        · exact .inr ⟨i, f, hf, rfl⟩
        · exact .inr ⟨j, f', (holds_letGo.1 hf').2, rfl⟩
    · refine List.Nodup.append hk.once (List.nodup_singleton _) ?_
      intro k hmem hlast
      rw [List.mem_singleton.1 hlast] at hmem
      exact hk.unreleased i f hf hmem
    · obtain ⟨hne, hf'⟩ := holds_letGo.1 hf'
      rw [List.mem_append, List.mem_singleton, not_or]
      exact ⟨hk.unreleased j f' hf', fun hticket => hne (hk.single j i f' f hf' hf hticket)⟩
    · exact hk.single j k f₁ f₂ (holds_letGo.1 h₁).2 (holds_letGo.1 h₂).2

theorem TicketInv.move (hk : TicketInv released t) {j : ℕ} (he : (t.handles i).state = none) :
    TicketInv released (t.move i j) := by
  refine ⟨fun k => ?_, hk.once, fun k f hf => ?_, fun k k' f f' hf hf' hticket => ?_⟩
  · refine (hk.granted k).trans (or_congr Iff.rfl ⟨?_, ?_⟩)
    · rintro ⟨i', f, hf, hticket⟩
      obtain ⟨k', hf'⟩ := (exists_holds_move he f).2 ⟨i', hf⟩
      exact ⟨k', f, hf', hticket⟩
    · rintro ⟨i', f, hf, hticket⟩
      obtain ⟨k', hf'⟩ := (exists_holds_move he f).1 ⟨i', hf⟩
      exact ⟨k', f, hf', hticket⟩
  · obtain ⟨k', hf'⟩ := (exists_holds_move he f).1 ⟨k, hf⟩
    exact hk.unreleased k' f hf'
  · exact holds_move_single (fun k k' h h' => hk.single k k' f f' h h' hticket) hf hf'

/-- **Every section keeps count of the releases.** -/
theorem TableStep.tickets {t t' : LeaseTable} {r r' : Reservation}
    {releases : List MaintenanceRelease} (hi : TableInv t r) (hk : TicketInv released t)
    (h : TableStep t r releases t' r') :
    TicketInv (released ++ releases.map MaintenanceRelease.ticket) t' := by
  have hnone {t'' : LeaseTable} (h'' : TicketInv released t'') :
      TicketInv (released ++ ([] : List MaintenanceRelease).map MaintenanceRelease.ticket) t'' := by
    rwa [List.map_nil, List.append_nil]
  cases h with
  | callHandle r call h =>
    rw [LeaseTable.callHandle_eq]
    cases call with
    | moveConstruct i j => exact hnone (hk.move h.1)
    | reset i => exact hk.letGo hi i
    | destroy i => exact hk.letGo hi i
    | moveAssign i j =>
      dsimp only
      split_ifs
      · exact hnone hk
      · exact (hk.letGo hi i).move (by simp [LeaseTable.letGo])
  | grantMaintenance r hh h => exact hnone (hk.grantMaintenance hh h)
  | same => exact hnone hk
  | reserve h =>
    refine hnone ?_
    unfold LeaseTable.reserve at h
    cases hg : t.registry.acquireActivity _ _ with
    | error e => rw [hg] at h; cases h
    | ok g => rw [hg] at h; cases h; exact hk.of_handles rfl rfl
  | cancelReservation d m => exact hnone (hk.of_handles rfl rfl)
  | openSession request h => exact hnone (hk.of_handles rfl rfl)
  | release sessionId =>
    refine hnone ?_
    unfold LeaseTable.release
    split
    · exact hk
    · exact hk.of_handles rfl rfl
  | reset => exact hnone (hk.of_handles rfl rfl)

end

end Axent
