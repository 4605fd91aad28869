/-
  `MaintenanceLease` (`src/firmware/firmware_update_service.cpp`): a handle that
  runs a release function when it lets go of its device.

  A handle is empty or owns a state.  Handles are moved, reset and destroyed;
  each of these functions gives the handles afterwards and the release
  functions that ran, of type `ρ`, in order.
-/
import Mathlib.Logic.Function.Basic

namespace Axent

/-- `MaintenanceLease::State`; a null release function is `none`. -/
structure MaintenanceLeaseState (ρ : Type) where
  deviceId : String
  release : Option ρ
  released : Bool := false
  deriving DecidableEq, Repr

/-- `~State`, and the release in `reset`: the release functions that run. -/
def MaintenanceLeaseState.runRelease {ρ : Type} (s : MaintenanceLeaseState ρ) : List ρ :=
  if s.released then [] else s.release.toList

/-- The handle; `none` is a null `state_`. -/
structure MaintenanceLease (ρ : Type) where
  state : Option (MaintenanceLeaseState ρ) := none
  deriving DecidableEq, Repr

namespace MaintenanceLease
variable {ρ : Type}

/-- `MaintenanceLeaseProvider::grant_maintenance`. -/
def grantMaintenance (deviceId : String) (release : Option ρ) : MaintenanceLease ρ :=
  { state := some { deviceId := deviceId, release := release } }

/-- `operator bool`. -/
def isHeld (l : MaintenanceLease ρ) : Bool := l.state.any fun s => !s.released

/-- `reset`: after the release function ran, `released` keeps the destructor
    of the state from running it again. -/
def reset (l : MaintenanceLease ρ) : MaintenanceLease ρ × List ρ :=
  match l.state with
  | none => (l, [])
  | some s =>
    ({ state := none }, s.runRelease ++ { s with released := true }.runRelease)

/-- `~MaintenanceLease`. -/
def destroy (l : MaintenanceLease ρ) : List ρ :=
  match l.state with
  | none => []
  | some s => s.runRelease

/-- The move constructor: the new handle and what is left of `other`. -/
def moveConstruct (other : MaintenanceLease ρ) : MaintenanceLease ρ × MaintenanceLease ρ :=
  (other, { state := none })

/-- The move assignment of `other` to a different handle: both handles and the
    release functions that ran. -/
def moveAssign (l other : MaintenanceLease ρ) :
    MaintenanceLease ρ × MaintenanceLease ρ × List ρ :=
  (other, { state := none }, l.reset.2)

/-- Letting go of a handle, by `reset`, move assignment or destruction, runs
    the same release functions. -/
theorem reset_eq (l : MaintenanceLease ρ) : l.reset = ({ state := none }, l.destroy) := by
  obtain ⟨_ | s⟩ := l
  · rfl
  · simp [reset, destroy, MaintenanceLeaseState.runRelease]

end MaintenanceLease

end Axent
