import MobileStation.Text.Number

/-!
# States of the mobile station

The main state, the service offered while idle, the update status of the subscriber, and the machine
that holds the first two.

Main statement: `restore_snapshot` (a machine outside the idle state, or in it, is restored from its
snapshot with its state and substate).
-/

namespace MobileStation

/-! ## Main states -/

/-- The main state. Of the twenty-six numbered states, six are not used. -/
inductive MainState where
  | null
  | locationUpdatingInitiated
  | waitForOutgoingConnection
  | connectionActive
  | imsiDetachInitiated
  | processServicePrompt
  | waitForNetworkCommand
  | locationUpdatingReject
  | waitForRadioLocationUpdate
  | waitForRadioConnection
  | waitForRadioDetach
  | waitForReestablish
  | waitForRadioActive
  | idle
  | waitForAdditionalConnection
  | groupCallActive
  | waitForRadioGroupCall
  | locationUpdatingPending
  | imsiDetachPending
  | releaseNotAllowed
  deriving DecidableEq, Inhabited

namespace MainState

/-- Number of the state. -/
def code : MainState → Nat
  | null => 0
  | locationUpdatingInitiated => 3
  | waitForOutgoingConnection => 5
  | connectionActive => 6
  | imsiDetachInitiated => 7
  | processServicePrompt => 8
  | waitForNetworkCommand => 9
  | locationUpdatingReject => 10
  | waitForRadioLocationUpdate => 13
  | waitForRadioConnection => 14
  | waitForRadioDetach => 15
  | waitForReestablish => 17
  | waitForRadioActive => 18
  | idle => 19
  | waitForAdditionalConnection => 20
  | groupCallActive => 21
  | waitForRadioGroupCall => 22
  | locationUpdatingPending => 23
  | imsiDetachPending => 24
  | releaseNotAllowed => 25

/-- All states, in the order of their numbers. -/
def all : List MainState :=
  [null, locationUpdatingInitiated, waitForOutgoingConnection, connectionActive,
    imsiDetachInitiated, processServicePrompt, waitForNetworkCommand, locationUpdatingReject,
    waitForRadioLocationUpdate, waitForRadioConnection, waitForRadioDetach, waitForReestablish,
    waitForRadioActive, idle, waitForAdditionalConnection, groupCallActive, waitForRadioGroupCall,
    locationUpdatingPending, imsiDetachPending, releaseNotAllowed]

/-- The state with this number. -/
def ofCode? (n : Nat) : Option MainState := all.find? (·.code == n)

theorem ofCode?_code (s : MainState) : ofCode? s.code = some s := by
  cases s <;> rfl

/-- The bit of the state in a set of states. -/
def mask (s : MainState) : Nat := 1 <<< s.code

/-- The state in words. -/
def text : MainState → String
  | null => "MM null"
  | locationUpdatingInitiated => "location updating initiated"
  | waitForOutgoingConnection => "wait for outgoing MM connection"
  | connectionActive => "MM connection active"
  | imsiDetachInitiated => "IMSI detach initiated"
  | processServicePrompt => "process CM service prompt"
  | waitForNetworkCommand => "wait for network command"
  | locationUpdatingReject => "location updating reject"
  | waitForRadioLocationUpdate => "wait for RR connection (location updating)"
  | waitForRadioConnection => "wait for RR connection (MM connection)"
  | waitForRadioDetach => "wait for RR connection (IMSI detach)"
  | waitForReestablish => "wait for reestablish"
  | waitForRadioActive => "wait for RR connection active"
  | idle => "MM idle"
  | waitForAdditionalConnection => "wait for additional outgoing MM connection"
  | groupCallActive => "MM connection active (group call)"
  | waitForRadioGroupCall => "wait for RR connection (group call)"
  | locationUpdatingPending => "location updating pending"
  | imsiDetachPending => "IMSI detach pending"
  | releaseNotAllowed => "RR connection release not allowed"

end MainState

/-! ## Idle substates -/

/-- The service offered while idle. -/
inductive IdleSubstate where
  | normalService
  | attemptingToUpdate
  | limitedService
  | noImsi
  | noCellAvailable
  | locationUpdateNeeded
  | plmnSearch
  | plmnSearchNormalService
  | groupCallNormalService
  | groupCallLimitedService
  deriving DecidableEq, Inhabited

namespace IdleSubstate

/-- Number of the substate. -/
def code : IdleSubstate → Nat
  | normalService => 1
  | attemptingToUpdate => 2
  | limitedService => 3
  | noImsi => 4
  | noCellAvailable => 5
  | locationUpdateNeeded => 6
  | plmnSearch => 7
  | plmnSearchNormalService => 8
  | groupCallNormalService => 9
  | groupCallLimitedService => 10

/-- All substates, in the order of their numbers. -/
def all : List IdleSubstate :=
  [normalService, attemptingToUpdate, limitedService, noImsi, noCellAvailable,
    locationUpdateNeeded, plmnSearch, plmnSearchNormalService, groupCallNormalService,
    groupCallLimitedService]

/-- The substate with this number. -/
def ofCode? (n : Nat) : Option IdleSubstate := all.find? (·.code == n)

theorem ofCode?_code (s : IdleSubstate) : ofCode? s.code = some s := by
  cases s <;> rfl

/-- The bit of the substate in a set of substates. -/
def mask (s : IdleSubstate) : Nat := 1 <<< s.code

/-- The substate in words. -/
def text : IdleSubstate → String
  | normalService => "normal service"
  | attemptingToUpdate => "attempting to update"
  | limitedService => "limited service"
  | noImsi => "no IMSI"
  | noCellAvailable => "no cell available"
  | locationUpdateNeeded => "location updating needed"
  | plmnSearch => "PLMN search"
  | plmnSearchNormalService => "PLMN search (normal)"
  | groupCallNormalService => "receiving group call (normal)"
  | groupCallLimitedService => "receiving group call (limited)"

end IdleSubstate

/-! ## Update status -/

/-- How the last location update ended. -/
inductive UpdateStatus where
  | updated
  | notUpdated
  | roamingNotAllowed
  deriving DecidableEq, Inhabited

namespace UpdateStatus

/-- All statuses. -/
def all : List UpdateStatus := [updated, notUpdated, roamingNotAllowed]

/-- The status in words. -/
def text : UpdateStatus → String
  | updated => "U1-UPDATED"
  | notUpdated => "U2-NOT-UPDATED"
  | roamingNotAllowed => "U3-ROAMING-NOT-ALLOWED"

/-- The status with this text. -/
def ofText? (text : String) : Option UpdateStatus := all.find? (·.text == text)

end UpdateStatus

/-! ## Snapshots and transitions -/

/-- Why codes do not make up a state. -/
inductive StateError where
  /-- No main state has this number. -/
  | invalidState (code : Nat)
  /-- No substate has this number, or there must be none. -/
  | invalidSubstate (code : Nat)
  deriving DecidableEq

/-- Wording of the error. -/
def StateError.message : StateError → String
  | invalidState code => s!"Invalid MM state code {code}"
  | invalidSubstate code => s!"Invalid idle substate code {code}"

/-- Reads the number of a main state. -/
def MainState.ofCode (n : Nat) : Except StateError MainState :=
  match MainState.ofCode? n with
  | some s => .ok s
  | none => .error (.invalidState n)

/-- Reads the number of a substate. -/
def IdleSubstate.ofCode (n : Nat) : Except StateError IdleSubstate :=
  match IdleSubstate.ofCode? n with
  | some s => .ok s
  | none => .error (.invalidSubstate n)

/-- The numbers of a main state and, when idle, its substate. -/
structure Snapshot where
  state : Nat
  substate : Option Nat
  deriving DecidableEq

/-- A change of the machine. The substates are those visible, so none outside the idle state. -/
structure Transition where
  oldState : MainState
  newState : MainState
  oldSubstate : Option IdleSubstate
  newSubstate : Option IdleSubstate
  deriving DecidableEq

/-! ## The machine -/

/-- The main state with its substate. -/
structure StateMachine where
  /-- The main state. -/
  state : MainState
  /-- The last substate, in force while the main state is idle. -/
  lastSubstate : IdleSubstate
  /-- The substate that was in force when the idle state was last left. -/
  departureSubstate : IdleSubstate
  deriving DecidableEq

namespace StateMachine

/-- Idle, searching for a network. -/
def start : StateMachine := ⟨.idle, .plmnSearch, .plmnSearch⟩

/-- The main state is idle. -/
def isIdle (m : StateMachine) : Bool := m.state = .idle

/-- The substate, none outside the idle state. -/
def substate (m : StateMachine) : Option IdleSubstate :=
  if m.state = .idle then some m.lastSubstate else none

/-- Moves to a main state. A substate is taken over only in the idle state, and the departure
substate is noted when the idle state is left. -/
def enter (m : StateMachine) (state : MainState) (substate : Option IdleSubstate) :
    StateMachine where
  state := state
  lastSubstate := if state = .idle then substate.getD m.lastSubstate else m.lastSubstate
  departureSubstate :=
    if m.state = .idle ∧ state ≠ .idle then m.lastSubstate else m.departureSubstate

/-- The change from `m` to `after`, none if state and substate are the same. -/
def transition? (m after : StateMachine) : Option Transition :=
  if m.state = after.state ∧ m.substate = after.substate then none
  else some ⟨m.state, after.state, m.substate, after.substate⟩

/-- The numbers of state and substate. -/
def snapshot (m : StateMachine) : Snapshot :=
  ⟨m.state.code, m.substate.map IdleSubstate.code⟩

/-- The machine of a snapshot. There must be a substate in the idle state and none elsewhere. -/
def restore (s : Snapshot) : Except StateError StateMachine := do
  let state ← MainState.ofCode s.state
  let substate ←
    match decide (state = .idle), s.substate with
    | true, some code => IdleSubstate.ofCode code
    | true, none => throw (.invalidSubstate 0)
    | false, some code => throw (.invalidSubstate code)
    | false, none => pure .plmnSearch
  return ⟨state, substate, substate⟩

/-- State and substate in words. -/
def text (m : StateMachine) : String :=
  match m.substate with
  | some substate => m.state.text ++ ", " ++ substate.text
  | none => m.state.text

theorem restore_snapshot (m : StateMachine) :
    ∃ m', restore m.snapshot = .ok m' ∧ m'.state = m.state ∧ m'.substate = m.substate := by
  obtain ⟨state, last, departure⟩ := m
  cases state <;> cases last <;> exact ⟨_, rfl, rfl, rfl⟩

end StateMachine

end MobileStation
