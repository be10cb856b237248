import MobileStation.Proofs.Supervision.Procedures
import MobileStation.Proofs.Update.Carries

/-!
# Messages during a location update or a detach

A location update or a detach that is under way is ended by its own answers. The rules hand most
other messages to their procedures in every state, so that each of these procedures has to leave
alone what is under way. All do but the one for a rejected service request, which settles the
connections even where there was no request.

Main statements: `state_of_serviceReject` (where a rejected service request leads a station without
connections) and `keepsProcedure_iff` (no other message disturbs what is under way).
-/

namespace MobileStation

/-- The states in which a location update or a detach is under way. -/
def MainState.underWay : List MainState :=
  [.waitForRadioLocationUpdate, .locationUpdatingInitiated, .locationUpdatingReject,
    .waitForRadioDetach, .imsiDetachInitiated]

/-- The messages that end what is under way. -/
def MainState.answers : MainState → List MessageType
  | locationUpdatingInitiated => [.locationUpdatingAccept, .locationUpdatingReject]
  | imsiDetachInitiated => [.authenticationReject]
  | _ => []

theorem MainState.cmServiceReject_not_mem_answers (state : MainState) :
    .cmServiceReject ∉ state.answers := by
  cases state <;> decide

namespace Station

/-- The message is read as the reject of a service request, and so is its cause. -/
theorem isServiceReject_iff {data : Octets} :
    IsServiceReject data ↔ ∃ body cause, Received.read data = .mobility .cmServiceReject body ∧
      Message.decodeCause body = .ok cause := by
  constructor
  · rintro ⟨header, body, cause, hread, hprotocol, hskip, htype, hcause⟩
    exact ⟨body, cause, by simp [Received.read, hread, hprotocol, hskip, htype], hcause⟩
  · rintro ⟨body, cause, hread, hcause⟩
    -- A message is only read as a reject if protocol, skip indicator and type are those of one.
    unfold Received.read at hread
    split at hread
    · cases hread
    · next header rest hheader =>
      split at hread
      · next hprotocol =>
        split at hread
        · cases hread
        · next hskip =>
          split at hread
          · cases hread
          · next type htype =>
            obtain ⟨rfl, rfl⟩ := Received.mobility.inj hread
            exact ⟨header, rest, cause, hheader, hprotocol, by simpa using hskip, htype, hcause⟩
      · split at hread <;> cases hread
      · cases hread

/-- The message is an answer to what is under way. -/
def AnsweredBy (s : Station) (data : Octets) : Prop :=
  ∃ type body, Received.read data = .mobility type body ∧ type ∈ s.machine.state.answers

/-- Without a connection, the message leaves the main state of a location update or a detach as it
is, unless it is an answer. -/
def KeepsProcedure (s : Station) (data : Octets) : Prop :=
  s.machine.state ∈ MainState.underWay → s.connections.isEmpty = true →
    s.AnsweredBy data ∨ (s.handle (.message data)).station.machine.state = s.machine.state

/-- The network rejects a service request that was not made, while a location update or a detach is
under way. -/
structure Derails (s : Station) (data : Octets) : Prop where
  state : s.machine.state ∈ MainState.underWay
  none : s.connections.isEmpty = true
  reject : IsServiceReject data

theorem pendingSupervised_of_isEmpty {s : Station} (h : s.connections.isEmpty = true) :
    s.PendingSupervised := by
  have hnone : s.connections.connections = [] := by simpa [ConnectionTable.isEmpty] using h
  intro hpending
  simp [ConnectionTable.pendingCount, hnone] at hpending

/-- Without connections there is none to go on with after a rejected service request. -/
theorem state_of_serviceReject {s : Station} {data : Octets} (hnone : s.connections.isEmpty = true)
    (h : IsServiceReject data) :
    (s.handle (.message data)).station.machine.state = .waitForNetworkCommand := by
  obtain ⟨body, cause, hread, hcause⟩ := isServiceReject_iff.mp h
  have hends : ¬ s.noteContact.servesOn cause := by
    have hempty : s.connections.connections = [] := by
      simpa [ConnectionTable.isEmpty] using hnone
    rintro ⟨_, hleft⟩
    simp [ConnectionTable.release, ConnectionTable.isEmpty, hempty] at hleft
  have hturns := s.noteContact.turns_receiveServiceReject hcause
  rw [if_neg hends] at hturns
  rw [handle_of_mobility .receiveServiceReject rfl hread rfl]
  exact hturns.state

/-- While a location update or a detach is under way, a procedure for a message that is no answer
enters no state, unless it is one of the two that release connections. -/
theorem target_of_underWay {state : MainState} (hstate : state ∈ MainState.underWay)
    {procedure : MessageProcedure} (hruns : state ∈ procedure.states)
    (hanswer : procedure.type ∉ state.answers)
    (hother : procedure ∉ [.receiveAbort, .receiveServiceReject]) {turn : Turn}
    (hturn : turn ∈ procedure.turns state) : turn.target state = state := by
  have htable : ∀ procedure ∈ MessageProcedure.all,
      procedure ∉ [.receiveAbort, .receiveServiceReject] → ∀ state ∈ MainState.underWay,
        state ∈ procedure.states → procedure.type ∉ state.answers →
          ∀ turn ∈ procedure.turns state, turn.target state = state := by decide +kernel
  exact htable procedure procedure.mem_all hother state hstate hruns hanswer turn hturn

/-- An abort of connections is refused where there is none, and leaves the state as it is. -/
theorem state_receiveAbort_of_isEmpty {s : Station} (hnone : s.connections.isEmpty = true)
    (body : Octets) : (s.receiveAbort body).station.machine.state = s.machine.state := by
  cases hcause : Message.decodeCause body with
  | error e =>
    simp only [receiveAbort, hcause]
    rfl
  | ok cause =>
    have hturns := s.turns_receiveAbort hcause
    rw [if_pos (by simp [connected, hnone])] at hturns
    exact hturns.state

/-- A message that is neither an answer nor the reject of a service request leaves the state of what
is under way as it is. -/
theorem state_of_other {s : Station} {data : Octets} (hstate : s.machine.state ∈ MainState.underWay)
    (hnone : s.connections.isEmpty = true) (hanswer : ¬ s.AnsweredBy data)
    (hreject : ¬ IsServiceReject data) :
    (s.handle (.message data)).station.machine.state = s.machine.state := by
  have hhandles := s.handles (.message data)
  generalize s.machine.handler (.message data) = handler at hhandles
  generalize s.handle (.message data) = o at hhandles ⊢
  cases hhandles with
  | message _ _ type body procedure hnetwork hread hprocedure =>
    obtain rfl := Option.some.inj hnetwork
    obtain rfl := type_of_messageProcedure hprocedure
    by_cases hother : procedure ∈ [.receiveAbort, .receiveServiceReject]
    · simp only [List.mem_cons, List.not_mem_nil, or_false] at hother
      rcases hother with rfl | rfl
      · -- Without a connection there is nothing to abort.
        have hcontact : s.noteContact.connections.isEmpty = true := by simpa using hnone
        exact (state_receiveAbort_of_isEmpty hcontact body).trans (by simp)
      · -- A cause that cannot be read rejects nothing.
        cases hcause : Message.decodeCause body with
        | error e => simp [MessageProcedure.run, receiveServiceReject, hcause]
        | ok cause =>
          exact absurd (isServiceReject_iff.mpr ⟨body, cause, hread, hcause⟩) hreject
    · have hcontact : s.noteContact.PendingSupervised :=
        pendingSupervised_of_isEmpty (by simpa using hnone)
      obtain ⟨turn, hmem, hturns⟩ := turns_messageProcedure hcontact body procedure
      have hsame : s.noteContact.machine = s.machine := by simp
      rw [hsame] at hmem
      rw [hturns.state, hsame]
      exact target_of_underWay hstate (state_mem_of_messageProcedure hprocedure)
        (fun hmem => hanswer ⟨_, body, hread, hmem⟩) hother hmem
  | connection _ _ protocol header hnetwork =>
    obtain rfl := Option.some.inj hnetwork
    obtain ⟨turn, hmem, hturns⟩ := s.turns_receiveCm protocol header data
    have htable : ∀ state ∈ MainState.underWay, ∀ turn ∈ Turn.joins state,
        turn.target state = state := by decide
    rw [hturns.state]
    exact htable _ hstate turn hmem
  | aside _ _ hturns => exact hturns.state

/-- Of all messages only the reject of a service request leads a station without connections away
from a location update or a detach, other than by an answer. -/
theorem keepsProcedure_iff (s : Station) (data : Octets) :
    s.KeepsProcedure data ↔ ¬ s.Derails data := by
  constructor
  · rintro hkeeps ⟨hstate, hnone, hreject⟩
    rcases hkeeps hstate hnone with ⟨type, body, hread, hanswer⟩ | hsame
    · obtain ⟨_, _, hread', _⟩ := isServiceReject_iff.mp hreject
      obtain ⟨rfl, _⟩ := Received.mobility.inj (hread.symm.trans hread')
      exact s.machine.state.cmServiceReject_not_mem_answers hanswer
    · -- The wait for the network is none of the states that are under way.
      rw [state_of_serviceReject hnone hreject] at hsame
      rw [← hsame] at hstate
      exact absurd hstate (by decide)
  · intro hkeeps hstate hnone
    by_cases hanswer : s.AnsweredBy data
    · exact .inl hanswer
    · exact .inr (state_of_other hstate hnone hanswer fun hreject =>
        hkeeps ⟨hstate, hnone, hreject⟩)

/-- The network rejects a service request that was never made while it has the request for a
location update: the update is forgotten, with its timer running. -/
theorem update_derailed_by_service_reject :
    ¬ ((ofConfig
        { imei := "356938035643809"
          imeisv := "3569380356438091"
          sim := some { imsi := "262420000000001" } }).run
      [.cell (.campedIn ⟨⟨262, 42, false⟩, 7⟩),
        .handle (.event .newLocationArea),
        .handle (.rr { type := .establishConfirm })]).KeepsProcedure [0x05, 0x22, 0x11] := by
  intro hkeeps
  rcases hkeeps (by decide +kernel) (by decide +kernel) with ⟨type, body, hread, hanswer⟩ | hsame
  · have hreject : Received.read [0x05, 0x22, 0x11] = .mobility .cmServiceReject [0x11] := by decide
    obtain ⟨rfl, _⟩ := Received.mobility.inj (hread.symm.trans hreject)
    exact MainState.cmServiceReject_not_mem_answers _ hanswer
  · revert hsame
    decide +kernel

end Station

end MobileStation
