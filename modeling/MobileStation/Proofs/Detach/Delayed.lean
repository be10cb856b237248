import MobileStation.Proofs.Detach.Resumed

/-!
# A delayed detach is not lost

A detach that is asked for while the radio link is being opened, or a location update is under way,
has to wait. The rules have it wait in every state that they do not name otherwise; of these a
station enters only four, and none of them is the idle state. The state is left by a change of state
only, and that hands the detach back.

Main statements: `isEntered_perform` (the states that a station can be in),
`delaying_of_delayDetach` (the states in which a detach waits) and `delayed_detach_kept` (a detach
that waits is still waiting after a step, or comes back into the queue).
-/

namespace MobileStation

/-! ## States that are entered -/

/-- A procedure enters the state, or a station starts in it. The other states belong to procedures
that a station does not have. -/
def MainState.isEntered : MainState → Bool
  | idle => true
  | locationUpdatingInitiated => true
  | locationUpdatingReject => true
  | waitForRadioLocationUpdate => true
  | waitForOutgoingConnection => true
  | waitForAdditionalConnection => true
  | waitForRadioConnection => true
  | connectionActive => true
  | waitForNetworkCommand => true
  | waitForRadioDetach => true
  | imsiDetachInitiated => true
  | _ => false

/-- The states in which a detach waits for the procedure that is running. -/
def MainState.delaying : List MainState :=
  [.waitForRadioLocationUpdate, .locationUpdatingInitiated, .locationUpdatingReject,
    .waitForRadioConnection]

namespace Station

/-- Every course leads from a state that is entered to one that is. -/
theorem CourseOf.isEntered {m : StateMachine} {c : Course} {i : Input} (h : CourseOf m c i)
    (hm : m.state.isEntered = true) : (c.next.state m.state).isEntered = true := by
  refine h.of_tables (P := fun state c => state.isEntered = true →
    (c.next.state state).isEntered = true) ?_ ?_ ?_ ?_ ?_ hm
  · exact fun _ => id
  · intro procedure
    cases procedure <;> decide
  · intro procedure hother
    cases procedure <;> first | exact absurd rfl hother | decide
  · intro state
    cases state <;> decide
  · intro procedure
    cases procedure <;> decide

theorem isEntered_perform {s : Station} (h : s.machine.state.isEntered = true) (a : Action) :
    (s.perform a).machine.state.isEntered = true := by
  cases hhandled : a.handled? s with
  | none =>
    rw [machine_of_not_handled hhandled]
    exact h
  | some r =>
    obtain ⟨c, hcourse, htakes⟩ := perform_takes hhandled
    rw [htakes.leads.state]
    exact hcourse.isEntered h

/-- Of the states that are entered, a detach waits in those four. -/
theorem delaying_of_delayDetach {m : StateMachine} (hentered : m.state.isEntered = true)
    (h : m.eventProcedure? .imsiDetach = some .delayDetach) : m.state ∈ MainState.delaying := by
  obtain ⟨state, last, departure⟩ := m
  cases state with
  | idle =>
    -- In the idle state there is nothing to wait for, whatever the substate.
    cases last <;> cases h
  | _ =>
    first
      | (cases h; done)
      | (cases hentered; done)
      | simp [MainState.delaying]

/-! ## Waiting -/

/-- A detach waits only in a state whose procedure it has to wait for. -/
def DetachWaits (s : Station) : Prop :=
  s.detachDelayed = true → s.machine.state ∈ MainState.delaying

/-- What becomes of a detach that waits in `s` on the way to `t`. -/
inductive DetachKept (s t : Station) : Prop where
  /-- It goes on waiting, and nothing is queued. -/
  | waits (hmachine : t.machine = s.machine) (hdelayed : t.detachDelayed = true)
      (hqueues : t.queues = s.queues)
  /-- It comes back, as one event behind those that are waiting already. -/
  | returns (hdelayed : t.detachDelayed = false)
      (hqueues : t.queues = { s.queues with events := s.queues.events ++ [.imsiDetach] })

/-- An action that handles an input keeps a detach that waits. A served input has left its queue. -/
def KeepsDetach (s : Station) (a : Action) : Prop :=
  ∀ t i, a.handled? s = some (t, i) → s.detachDelayed = true → DetachKept t (s.perform a)

theorem handle_detachKept {s : Station} (h : s.detachDelayed = true) (i : Input) :
    DetachKept s (s.handle i).station := by
  by_cases hdelays : s.Delays i
  · rw [handle_of_delays hdelays]
    exact .waits rfl rfl rfl
  · cases handle_resumes hdelays with
    | stays hmachine hdelayed hqueues => exact .waits hmachine (hdelayed.trans h) hqueues
    | moves hdelayed hqueues =>
      have hback : s.delayedEvents = [.imsiDetach] := by simp [delayedEvents, h]
      exact .returns hdelayed (hback ▸ hqueues)

/-- A station that handles an input is left with a waiting detach only where one waits. -/
theorem handle_detachWaits {s : Station} (h : s.DetachWaits)
    (hentered : s.machine.state.isEntered = true) (i : Input) :
    (s.handle i).station.DetachWaits := by
  intro hdelayed
  by_cases hdelays : s.Delays i
  · rw [handle_of_delays hdelays]
    exact delaying_of_delayDetach hentered hdelays.2
  · cases handle_resumes hdelays with
    | stays hmachine hkept _ =>
      rw [hmachine]
      exact h (hkept ▸ hdelayed)
    | moves hnone _ => rw [hnone] at hdelayed; cases hdelayed

theorem detachDelayed_expire (s : Station) (timer : TimerName) :
    (s.expire timer).detachDelayed = s.detachDelayed := by
  simp only [expire]
  split <;> rfl

/-- An action that handles nothing leaves the flag alone. -/
theorem detachDelayed_of_not_handled {s : Station} {a : Action} (h : a.handled? s = none) :
    (s.perform a).detachDelayed = s.detachDelayed := by
  cases a with
  | handle input => cases h
  | queue input => cases input <;> rfl
  | serve => rw [perform_serve_of_not_handled h]
  | tick now => exact foldl_expire_of_expire detachDelayed_expire _ _
  | _ => rfl

theorem detachWaits_perform {s : Station} (h : s.DetachWaits)
    (hentered : s.machine.state.isEntered = true) (a : Action) : (s.perform a).DetachWaits := by
  cases hhandled : a.handled? s with
  | none =>
    unfold DetachWaits
    rw [detachDelayed_of_not_handled hhandled, machine_of_not_handled hhandled]
    exact h
  | some r =>
    obtain ⟨t, i⟩ := r
    have hqueues := queues_of_handled hhandled
    rw [perform_of_handled hhandled]
    refine handle_detachWaits ?_ ?_ i
    · rw [hqueues]
      exact h
    · rw [hqueues]
      exact hentered

theorem keepsDetach (s : Station) (a : Action) : s.KeepsDetach a := by
  intro t i hhandled hdelayed
  have hqueues := queues_of_handled hhandled
  rw [perform_of_handled hhandled]
  refine handle_detachKept ?_ i
  rw [hqueues]
  exact hdelayed

/-! ## Runs -/

/-- A station that has gone through a run is in a state that is entered, and a detach waits there
only if it has to. -/
theorem detachWaits_run (config : Config) (subscriber : Subscriber) (actions : List Action) :
    ((ofSubscriber config subscriber).run actions).machine.state.isEntered = true ∧
      ((ofSubscriber config subscriber).run actions).DetachWaits := by
  refine invariant_run (P := fun s => s.machine.state.isEntered = true ∧ s.DetachWaits) ?_
    ?_ actions
  · intro s a ⟨hentered, hwaits⟩
    exact ⟨isEntered_perform hentered a, detachWaits_perform hwaits hentered a⟩
  · exact ⟨rfl, fun hdelayed => nomatch (show false = true from hdelayed)⟩

/-- Whatever happens to a station, a delayed detach waits only while a radio link is opened for a
location update or a connection, or a location update is under way. While it waits, every input
leaves the state and the detach as they are, or brings the detach back into the event queue. -/
theorem delayed_detach_kept (config : Config) (subscriber : Subscriber) (actions : List Action) :
    Throughout DetachWaits (ofSubscriber config subscriber) actions ∧
      EveryStep KeepsDetach (ofSubscriber config subscriber) actions := by
  constructor
  · rw [throughout_iff]
    exact fun n => (detachWaits_run config subscriber _).2
  · rw [everyStep_iff]
    exact fun before a _ _ => keepsDetach _ a

/-- A detach during an attach waits until the radio link is lost. -/
example :
    let s := (ofConfig
      { imei := "356938035643809"
        imeisv := "3569380356438091"
        sim := some { imsi := "262420000000001" } }).run
      [.cell (.campedIn ⟨⟨262, 42, false⟩, 7⟩), .handle (.event .newLocationArea),
        .handle (.event .imsiDetach)]
    let t := s.perform (.handle (.rr { type := .releaseIndication }))
    s.detachDelayed = true ∧ s.machine.state = .waitForRadioLocationUpdate ∧
      t.detachDelayed = false ∧ t.queues.events = [.imsiDetach] := by
  decide +kernel

end Station

end MobileStation
