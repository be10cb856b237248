import MobileStation.Proofs.Connections.Delivery
import MobileStation.Proofs.Supervision.Undisturbed

/-!
# Call traffic

Calls, supplementary services and short messages share the main state and the radio link with
location updates and detaches. Their procedures enter states too, and an entry may start T3212; but
none of the states they enter is the idle one, and the timers they touch are T3230 and T3240. So the
registration is left alone, but for the failed attempts, which a request for a service clears. A
location update or a detach that is under way is not interrupted either.

Main statements: `registration_handle` (what an input of call traffic leaves of the registration),
`machine_handle_of_underWay` (it does not interrupt what is under way) and
`registration_of_traffic`.
-/

namespace MobileStation

/-! ## The registration -/

/-- The timers of location updates and detaches. -/
def TimerName.ofRegistration : List TimerName := [t3210, t3211, t3212, t3213, t3220]

/-- The registration of a station: what it keeps of the subscriber, the cell and the network, the
location update, and the timers of location updates and detaches. -/
structure Registration where
  subscriber : Subscriber
  cell : ServingCell
  names : NetworkNames
  update : LocationUpdate
  periodicInterval : UInt32
  timers : List Timer
  deriving DecidableEq

/-- The registration without failed attempts. -/
def Registration.clearAttempts (r : Registration) : Registration := { r with update.attempts := 0 }

/-- The registration of the station. -/
def Station.registration (s : Station) : Registration where
  subscriber := s.subscriber
  cell := s.cell
  names := s.names
  update := s.update
  periodicInterval := s.periodicInterval
  timers := TimerName.ofRegistration.map s.timers.get

/-- The input is call traffic. -/
inductive Input.IsTraffic : Input → Prop
  /-- A primitive of connection management. -/
  | cm (p : CmPrimitive) : IsTraffic (.cm p)
  /-- The news that the channel changed. -/
  | sync (p : RrPrimitive) (htype : p.type = .syncIndication) : IsTraffic (.rr p)
  /-- A message of the network for one of the protocols of connection management. -/
  | message (i : Input) (first : UInt8) (rest : Octets) (protocol : CmProtocol)
      (hnetwork : i.network? = some (first :: rest))
      (hprotocol : Octets.low first = protocol.protocol.code) : IsTraffic i

namespace Station

/-! ## Local updates -/

/-- What another timer is does not show among those of the registration. -/
theorem timers_ofRegistration_set (t : TimerSet) {name : TimerName}
    (h : name ∉ TimerName.ofRegistration) (timer : Timer) :
    TimerName.ofRegistration.map (t.set name timer).get = TimerName.ofRegistration.map t.get := by
  refine List.map_congr_left fun x hx => ?_
  have hne : x ≠ name := fun heq => h (heq ▸ hx)
  rw [TimerSet.get_set, if_neg hne]

theorem registration_stopTimer (s : Station) {name : TimerName}
    (h : name ∉ TimerName.ofRegistration) : (s.stopTimer name).registration = s.registration := by
  simp only [registration, stopTimer, TimerSet.stop, timers_ofRegistration_set _ h]

theorem registration_startTimer (s : Station) {name : TimerName}
    (h : name ∉ TimerName.ofRegistration) (seconds : Nat) :
    (s.startTimer name seconds).registration = s.registration := by
  simp only [registration, startTimer, TimerSet.start]
  split
  · rw [timers_ofRegistration_set _ h]
  · rfl

/-- T3212 is started in the idle state alone, so that entering another state resumes at most a
detach. -/
theorem enter_of_ne_idle (s : Station) {state : MainState} (h : state ≠ .idle)
    (substate : Option IdleSubstate) :
    s.enter state substate =
      { s with machine := s.machine.enter state substate }.resumeDetach := by
  unfold enter armPeriodicTimer
  rw [if_neg (by simp [updatesPeriodically, StateMachine.substate, h])]

theorem registration_enter (s : Station) {state : MainState} (h : state ≠ .idle)
    (substate : Option IdleSubstate) : (s.enter state substate).registration = s.registration := by
  rw [s.enter_of_ne_idle h]
  unfold resumeDetach
  split <;> rfl

theorem registration_sendMessage (s : Station) (m : Message) :
    (s.sendMessage m).station.registration = s.registration := by
  unfold sendMessage
  split <;> rfl

theorem registration_awaitNetwork (s : Station) :
    s.awaitNetwork.registration = s.registration :=
  calc s.awaitNetwork.registration
      = s.startReleaseTimer.registration := registration_enter _ (by decide) _
    _ = s.registration := s.registration_startTimer (by decide) _

theorem registration_awaitService (s : Station) {state : MainState} (h : state ≠ .idle) :
    (s.awaitService state).registration = s.registration :=
  calc (s.awaitService state).registration
      = (s.startTimer .t3230 s.config.timers.t3230.toNat).registration := registration_enter _ h _
    _ = s.registration := s.registration_startTimer (by decide) _

theorem registration_settle (s : Station) : s.settle.registration = s.registration := by
  unfold settle
  split
  · exact s.registration_awaitNetwork
  · exact s.registration_enter (by decide) _

/-! ## Primitives from above -/

/-- Whether a service is granted, refused or cannot be asked for: the attempts are cleared, and
nothing else. -/
theorem registration_requestService (s : Station) (p : CmPrimitive) (route : Route)
    {next : Station → Station} (hnext : ∀ u, (next u).registration = u.registration) :
    (s.requestService p route next).station.registration = s.registration.clearAttempts := by
  simp only [requestService]
  split
  · rfl
  · split
    · rfl
    · split
      · rfl
      · rfl
      · rw [station_done, hnext]
        rfl

theorem registration_releaseRequested (s : Station) (p : CmPrimitive) :
    (s.releaseRequested p).station.registration = s.registration := by
  simp only [releaseRequested]
  split
  · -- The last connection takes its request back.
    rw [withdrawRequest, registration_sendMessage, registration_awaitNetwork]
    exact registration_stopTimer _ (by decide)
  · rfl

theorem registration_cmProcedure (s : Station) (p : CmPrimitive) (procedure : CmProcedure) :
    (procedure.run s p).station.registration =
      if procedure.requests then s.registration.clearAttempts else s.registration := by
  -- A request clears the attempts, whatever becomes of it. T3230 and T3240, which these procedures
  -- set, are not part of the registration.
  cases procedure with
  | requestFromIdle =>
    exact s.registration_requestService p _ fun u => u.registration_enter (by decide) _
  | requestFirst =>
    exact s.registration_requestService p _ fun u => u.registration_awaitService (by decide)
  | requestAdditional =>
    exact s.registration_requestService p _ fun u => u.registration_awaitService (by decide)
  | refuseBusy => rfl
  | forwardData =>
    show (s.forwardData p).station.registration = s.registration
    unfold forwardData
    split <;> rfl
  | releaseActive => exact registration_settle _
  | releaseWaiting => rfl
  | releaseRequested => exact s.registration_releaseRequested p

theorem CmProcedure.type_of_requests {procedure : CmProcedure} (h : procedure.requests = true) :
    procedure.type = .establishRequest := by
  cases procedure with
  | requestFromIdle | requestFirst | requestAdditional => rfl
  | _ => cases h

theorem registration_handleCm (s : Station) (p : CmPrimitive) :
    (s.handleCm p).station.registration = s.registration ∨
      p.type = .establishRequest ∧
        (s.handleCm p).station.registration = s.registration.clearAttempts := by
  simp only [handleCm]
  split
  · next procedure hprocedure =>
    have hkept := (s.updateTransaction p).registration_cmProcedure p procedure
    by_cases hrequests : procedure.requests = true
    · refine .inr ⟨?_, by rw [hkept, if_pos hrequests]; rfl⟩
      rw [type_of_cmProcedure? hprocedure, CmProcedure.type_of_requests hrequests]
    · exact .inl (by rw [hkept, if_neg hrequests]; rfl)
  · exact .inl rfl

/-! ## The radio link and the network -/

theorem registration_confirmService (s : Station) :
    s.confirmService.station.registration = s.registration := by
  have hactive : ((s.stopTimer .t3230).enter .connectionActive none).registration =
      s.registration :=
    (registration_enter _ (by decide) _).trans (s.registration_stopTimer (by decide))
  simp only [confirmService, station_done]
  unfold confirmPending
  split <;> exact hactive

theorem registration_indicateSync (s : Station) (p : RrPrimitive) :
    (s.indicateSync p).station.registration = s.registration := by
  have hstopped : (s.stopTimer .t3230).registration = s.registration :=
    s.registration_stopTimer (by decide)
  exact hstopped

theorem registration_joinLink (s : Station) : s.joinLink.registration = s.registration := by
  unfold joinLink
  split
  · exact (registration_enter _ (by decide) _).trans (s.registration_stopTimer (by decide))
  · rfl

theorem registration_receiveCm (s : Station) (protocol : CmProtocol) (header : Header)
    (data : Octets) : (s.receiveCm protocol header data).station.registration = s.registration := by
  simp only [receiveCm]
  split
  · exact s.registration_joinLink
  · split
    · rfl
    · exact registration_joinLink _

/-- The news that the channel changed is for a service that was asked for, or for calls. -/
theorem procedure_of_sync {m : StateMachine} {p : RrPrimitive} {procedure : RrProcedure}
    (htype : p.type = .syncIndication) (h : m.rrProcedure? p = some procedure) :
    procedure = .confirmService ∨ procedure = .indicateSync :=
  Rule.keyed_of_select?
    (P := fun key procedure =>
      key = .syncIndication → procedure = .confirmService ∨ procedure = .indicateSync)
    (by decide) h htype

theorem registration_handleRr_of_sync (s : Station) {p : RrPrimitive}
    (htype : p.type = .syncIndication) :
    (s.handleRr p).station.registration = s.registration := by
  unfold handleRr
  split
  · next procedure hprocedure =>
    rcases procedure_of_sync htype hprocedure with rfl | rfl
    · exact s.registration_confirmService
    · exact s.registration_indicateSync p
  · rfl

/-- A message whose first octet names a protocol of connection management is handed to that
protocol, unless its header is incomplete. -/
theorem receiveMessage_of_protocol (s : Station) {protocol : CmProtocol} {first : UInt8}
    (hprotocol : Octets.low first = protocol.protocol.code) (rest : Octets) :
    (s.receiveMessage (first :: rest)).station = s ∨
      ∃ header, s.receiveMessage (first :: rest) =
        s.receiveCm protocol header (first :: rest) := by
  cases rest with
  | nil => exact .inl rfl
  | cons second rest =>
    refine .inr ⟨⟨first, second⟩, ?_⟩
    rw [receiveMessage_eq, Received.read_connection hprotocol]

/-! ## Inputs -/

/-- Call traffic leaves the registration as it is, but for the failed attempts, which a request for
a service may clear. -/
theorem registration_handle (s : Station) {i : Input} (h : i.IsTraffic) :
    (s.handle i).station.registration = s.registration ∨
      (∃ p, i = .cm p ∧ p.type = .establishRequest) ∧
        (s.handle i).station.registration = s.registration.clearAttempts := by
  -- Of all the traffic only a new request clears the attempts.
  cases h with
  | cm p =>
    rcases s.registration_handleCm p with hkept | ⟨htype, hcleared⟩
    · exact .inl hkept
    · exact .inr ⟨⟨p, rfl, htype⟩, hcleared⟩
  | sync p htype => exact .inl (s.registration_handleRr_of_sync htype)
  | message _ first rest protocol hnetwork hprotocol =>
    refine .inl ?_
    rw [s.handle_of_network? hnetwork]
    rcases s.receiveMessage_of_protocol hprotocol rest with hbroken | ⟨header, hhanded⟩
    · rw [hbroken]
    · rw [hhanded, registration_receiveCm]

/-- While a location update or a detach is under way, a service is refused, and no other primitive
from above has a rule. -/
theorem cmProcedure_of_underWay {m : StateMachine} (hstate : m.state ∈ MainState.underWay)
    {p : CmPrimitive} {procedure : CmProcedure} (h : m.cmProcedure? p = some procedure) :
    procedure = .refuseBusy := by
  have htable : ∀ state ∈ MainState.underWay, state ∈ procedure.states →
      procedure = .refuseBusy := by
    cases procedure <;> decide
  exact htable _ hstate (state_mem_of_cmProcedure? h)

/-- While a location update or a detach is under way, the news that the channel changed has no
rule. -/
theorem not_sync_of_underWay {m : StateMachine} (hstate : m.state ∈ MainState.underWay)
    {p : RrPrimitive} (htype : p.type = .syncIndication) : m.rrProcedure? p = none := by
  refine Option.eq_none_iff_forall_ne_some.mpr fun procedure hprocedure => ?_
  have hmem := state_mem_of_rrProcedure? hprocedure
  have htable : ∀ procedure : RrProcedure, procedure = .confirmService ∨ procedure = .indicateSync →
      ∀ state ∈ MainState.underWay, state ∉ procedure.states := by
    rintro _ (rfl | rfl) <;> decide
  exact htable procedure (procedure_of_sync htype hprocedure) _ hstate hmem

/-- A message that is handed on changes the state only where the link was held for the network. -/
theorem machine_receiveCm {s : Station} (h : ¬ s.HoldsLink) (protocol : CmProtocol)
    (header : Header) (data : Octets) :
    (s.receiveCm protocol header data).station.machine = s.machine := by
  have hstays (u : Station) (hmachine : u.machine = s.machine) :
      u.joinLink.machine = s.machine := by
    rw [joinLink, if_neg (by rw [hmachine]; exact h), hmachine]
  simp only [receiveCm]
  split
  · exact hstays s rfl
  · split
    · rfl
    · exact hstays _ rfl

theorem not_holdsLink_of_underWay {s : Station} (h : s.machine.state ∈ MainState.underWay) :
    ¬ s.HoldsLink := by
  rintro (hstate | hstate) <;> rw [hstate] at h <;> exact absurd h (by decide)

/-- Call traffic does not interrupt a location update or a detach. -/
theorem machine_handle_of_underWay {s : Station} (hstate : s.machine.state ∈ MainState.underWay)
    {i : Input} (h : i.IsTraffic) : (s.handle i).station.machine = s.machine := by
  -- While an update or a detach is under way, protocols are refused and a sync has no rule, so
  -- nothing moves.
  cases h with
  | cm p =>
    show (s.handleCm p).station.machine = s.machine
    simp only [handleCm]
    split
    · next procedure hprocedure =>
      rw [cmProcedure_of_underWay hstate hprocedure]
      rfl
    · rfl
  | sync p htype =>
    show (s.handleRr p).station.machine = s.machine
    rw [handleRr, not_sync_of_underWay hstate htype]
    rfl
  | message _ first rest protocol hnetwork hprotocol =>
    rw [s.handle_of_network? hnetwork]
    rcases s.receiveMessage_of_protocol hprotocol rest with hbroken | ⟨header, hhanded⟩
    · rw [hbroken]
    · rw [hhanded, machine_receiveCm (not_holdsLink_of_underWay hstate)]

/-- Call traffic, in every state: a primitive from above, the news that the channel changed, or a
message for a protocol of connection management leaves the registration as it is, with its timers,
whether it is carried through or not. Only the failed attempts may be cleared, by a request for a
service. While a location update or a detach is under way, the main state is left alone too. -/
theorem registration_of_traffic (s : Station) {i : Input} (h : i.IsTraffic) :
    let t := (s.handle i).station
    (t.registration = s.registration ∨
      (∃ p, i = .cm p ∧ p.type = .establishRequest) ∧
        t.registration = s.registration.clearAttempts) ∧
      (s.machine.state ∈ MainState.underWay → t.machine = s.machine) :=
  ⟨s.registration_handle h, fun hstate => machine_handle_of_underWay hstate h⟩

/-- The network calls while it has the request for a location update: the call is opened, and the
update goes on with its timer running. -/
theorem registration_of_traffic_of_call :
    let s := (ofConfig
      { imei := "356938035643809"
        imeisv := "3569380356438091"
        sim := some { imsi := "262420000000001" } }).run
      [.cell (.campedIn ⟨⟨262, 42, false⟩, 7⟩),
        .handle (.event .newLocationArea),
        .handle (.rr { type := .establishConfirm })]
    let t := (s.handle (.message [3, 5])).station
    Input.IsTraffic (.message [3, 5]) ∧ t.connections ≠ s.connections ∧
      t.machine = s.machine ∧ t.machine.state = .locationUpdatingInitiated ∧
      t.registration = s.registration ∧ t.timers.isRunning .t3210 = true := by
  intro s t
  have htraffic : Input.IsTraffic (.message [3, 5]) := .message _ 3 [5] .cc rfl rfl
  obtain ⟨hkept, hmachine⟩ := s.registration_of_traffic htraffic
  refine ⟨htraffic, by decide +kernel, hmachine (by decide +kernel), by decide +kernel, ?_,
    by decide +kernel⟩
  rcases hkept with hsame | ⟨⟨p, hrequest, _⟩, _⟩
  · exact hsame
  · cases hrequest

end Station

end MobileStation
