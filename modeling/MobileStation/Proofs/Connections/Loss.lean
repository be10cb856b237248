import MobileStation.Proofs.Connections.Reference
import MobileStation.Proofs.Steps.Inputs

/-!
# Loss of the radio link

When the radio link is lost, a station that can release its connections releases them all and tells
their owners. Connections can be released in four states, and every procedure for an input keeps
within them as long as a connection is left. The exception is the network itself: a message for an
unknown connection opens one in whatever state the station is, and in most states nothing releases
it when the link is lost.

Main statements: `linkLossEnds_iff` (the loss of the link ends the connections of a station exactly
if it can release them) and `linkLossEnds_throughout_iff` (the runs throughout which it does).
-/

namespace MobileStation

/-- The loss of the radio link releases the connections in the states in which their owners can
release them. -/
theorem MainState.lossProcedure_eq_loseConnections_iff {state : MainState} :
    state.lossProcedure = .loseConnections ↔ state.releases = true := by
  cases state <;> decide

namespace Station

/-- Whenever the radio link is lost now, no connection is left, and the owner of each is told of its
end exactly once. -/
def LinkLossEnds (s : Station) : Prop :=
  ∀ p : RrPrimitive, p.type = .releaseIndication ∨ p.type = .abortIndication →
    let t := (s.handle (.rr p)).station
    t.connections.connections = [] ∧
      ∀ c ∈ s.connections.connections, ∃ q,
        ((toldBetween s t).filter fun q => q.type.isEnd && q.reference == c.reference) = [q] ∧
          q.protocol = c.protocol

/-- The station is in a state in which its connections can be released, if it has any. -/
def Releasable (s : Station) : Prop :=
  s.connections.isEmpty = false → s.machine.state.releases = true

/-- The states in which the network can open a connection: those in which connections can be
released, and those in which the station holds a link for the network. -/
def opensHere (s : Station) : Bool :=
  s.machine.state.releases || s.machine.state = .waitForNetworkCommand ||
    s.machine.state = .releaseNotAllowed

/-- The action handles a message for connection management in a state in which the network should
open no connection. -/
def OpensAside (s : Station) (a : Action) : Prop :=
  ∃ t i data protocol header, a.handled? s = some (t, i) ∧ i.network? = some data ∧
    Received.read data = .connection protocol header ∧ s.opensHere = false

/-! ## Stations that can release their connections -/

theorem Releasable.of_isEmpty {s : Station} (h : s.connections.isEmpty = true) : s.Releasable :=
  fun hsome => absurd h (by simp [hsome])

theorem Releasable.of_state {s : Station} (h : s.machine.state.releases = true) : s.Releasable :=
  fun _ => h

theorem Releasable.of_frame {s t : Station} (h : s.Releasable)
    (hmachine : t.machine = s.machine) (htable : t.connections = s.connections) :
    t.Releasable := by
  intro hsome
  rw [hmachine]
  exact h (htable ▸ hsome)

/-- Outside the states of release there is no connection. -/
theorem Releasable.isEmpty {s : Station} (h : s.Releasable)
    (hstate : s.machine.state.releases = false) : s.connections.isEmpty = true := by
  by_contra hsome
  have hreleases := h (by simpa using hsome)
  simp [hstate] at hreleases

/-- A step that leaves alone that there is no connection. -/
theorem Releasable.of_quiet {s t : Station} (h : s.Releasable)
    (hstate : s.machine.state.releases = false) (hquiet : s.Settled → Quiet s t) :
    t.Releasable := by
  have hempty := h.isEmpty hstate
  refine .of_isEmpty ?_
  rw [(hquiet (settled_of_isEmpty hempty)).table]
  exact hempty

/-- A step of a procedure that runs outside the states of release alone. -/
theorem Releasable.of_quiet_within {s t : Station} (h : s.Releasable) {states : List MainState}
    (hstate : s.machine.state ∈ states) (hnone : ∀ state ∈ states, state.releases = false)
    (hquiet : s.Settled → Quiet s t) : t.Releasable :=
  h.of_quiet (hnone _ hstate) hquiet

/-- A step that leaves alone the connections, on courses on which the state stays. -/
theorem Releasable.of_takes {s t : Station} (h : s.Releasable) {courses : List Course}
    (htakes : TakesOneOf s t courses) (hstays : ∀ c ∈ courses, c.next = .stays)
    (hquiet : Quiet s t) : t.Releasable := by
  obtain ⟨c, hmem, hcourse⟩ := htakes
  have hleads := hcourse.leads
  rw [hstays c hmem] at hleads
  exact h.of_frame hleads.1 hquiet.table

/-! ## Procedures -/

theorem isEmpty_release_all (s : Station) (cause : UInt8) (isError : Bool) :
    (s.releaseConnections .all cause isError).connections.isEmpty = true := by
  simp [releaseConnections, sendAllCm, ConnectionTable.release, ConnectionTable.isEmpty,
    ConnectionTable.ReleaseFilter.selects]

theorem releasable_settle (s : Station) : s.settle.Releasable := by
  unfold settle
  split
  · next hempty => exact .of_isEmpty (by simpa [awaitNetwork, startReleaseTimer, startTimer])
  · exact .of_state (by simp [MainState.releases])

theorem releasable_withdrawRequest {s : Station} (h : s.connections.isEmpty = true) :
    s.withdrawRequest.station.Releasable :=
  .of_isEmpty (by simpa [withdrawRequest, awaitNetwork, startReleaseTimer, startTimer])

theorem Releasable.requestService {s : Station} (h : s.Releasable) (p : CmPrimitive)
    (route : Route) {next : Station → Station}
    (hnext : ∀ u, (next u).machine.state.releases = true) :
    (s.requestService p route next).station.Releasable := by
  simp only [Station.requestService]
  split
  · exact h.of_frame rfl rfl
  · split
    · exact h.of_frame rfl rfl
    · split
      · exact h.of_frame rfl rfl
      · exact h.of_frame rfl rfl
      · exact .of_state (hnext _)

theorem Releasable.forwardData {s : Station} (h : s.Releasable) (p : CmPrimitive) :
    (s.forwardData p).station.Releasable := by
  unfold Station.forwardData
  split <;> exact h.of_frame rfl rfl

theorem Releasable.releaseRequested {s : Station} (p : CmPrimitive)
    (hstate : s.machine.state.releases = true) : (s.releaseRequested p).station.Releasable := by
  simp only [Station.releaseRequested]
  split
  · next hempty => exact releasable_withdrawRequest hempty
  · exact .of_state hstate

/-- A procedure for a primitive from above keeps within the states of release. -/
theorem Releasable.cmProcedure {s : Station} (h : s.Releasable) (p : CmPrimitive)
    {procedure : CmProcedure} (hstate : s.machine.state ∈ procedure.states) :
    (procedure.run s p).station.Releasable := by
  -- Where a procedure stays in its state, the table of states tells that a loss releases there.
  have hreleases (hall : ∀ state ∈ procedure.states, state.releases = true) :
      s.machine.state.releases = true := hall _ hstate
  cases procedure with
  | requestFromIdle => exact h.requestService p _ fun u => by simp [MainState.releases]
  | requestFirst =>
    exact h.requestService p _ fun u => by simp [awaitService, startTimer, MainState.releases]
  | requestAdditional =>
    exact h.requestService p _ fun u => by simp [awaitService, startTimer, MainState.releases]
  | refuseBusy => exact h.of_frame rfl rfl
  | forwardData => exact h.forwardData p
  | releaseActive => exact releasable_settle _
  | releaseWaiting => exact .of_state (hreleases (by decide))
  | releaseRequested => exact Releasable.releaseRequested p (hreleases (by decide))

theorem releasable_beginService (s : Station) : s.beginService.station.Releasable := by
  unfold beginService
  split
  · next hempty => exact releasable_withdrawRequest hempty
  · exact .of_state (by simp [awaitService, startTimer, MainState.releases])

theorem releasable_confirmService (s : Station) : s.confirmService.station.Releasable := by
  have hstate : s.confirmService.station.machine.state = .connectionActive :=
    s.takes_confirmService.leads
  exact .of_state (by rw [hstate]; rfl)

/-- Any other procedure than for a message keeps within the states of release. -/
theorem Releasable.rrProcedure {s : Station} (h : s.Releasable) (p : RrPrimitive)
    {procedure : RrProcedure} (hstate : s.machine.state ∈ procedure.states)
    (hother : procedure ≠ .receiveMessage) : (procedure.run s p).station.Releasable := by
  cases procedure with
  | acceptLink => exact h.of_quiet_within hstate (by decide) fun hs => hs.quiet_enter _ _
  | detachSent => exact h.of_quiet_within hstate (by decide) fun hs => hs.quiet_awaitDetach
  | endDetach => exact h.of_quiet_within hstate (by decide) fun hs => hs.quiet_endDetach
  | beginUpdate => exact h.of_quiet_within hstate (by decide) fun hs => hs.quiet_beginUpdate
  | loseUpdateLink => exact h.of_quiet_within hstate (by decide) fun hs => hs.quiet_loseUpdateLink p
  | completeReject => exact h.of_quiet_within hstate (by decide) fun hs => hs.quiet_completeReject
  | beginService => exact s.releasable_beginService
  | receiveMessage => exact absurd rfl hother
  | confirmService => exact s.releasable_confirmService
  | indicateSync => exact h.of_frame rfl rfl
  -- The loss itself: whatever was in the table is released.
  | loseConnections =>
    refine .of_isEmpty ?_
    show (Station.returnIdle _).connections.isEmpty = true
    rw [(returnIdle_frame _).2.1]
    exact isEmpty_release_all _ _ _
  | loseLink => exact h.of_quiet_within hstate (by decide) fun hs => hs.quiet_loseLink

theorem Releasable.receiveAuthenticationReject {s : Station} (h : s.Releasable) :
    s.receiveAuthenticationReject.station.Releasable := by
  have hquiet := s.quiet_receiveAuthenticationReject
  by_cases hdetach : s.machine.state = .imsiDetachInitiated
  · exact h.of_quiet (by rw [hdetach]; rfl) fun _ => hquiet
  · have htakes := s.takes_receiveAuthenticationReject
    rw [if_neg hdetach] at htakes
    exact h.of_takes htakes (by decide) hquiet

theorem Releasable.receiveAbort {s : Station} (h : s.Releasable) (body : Octets) :
    (s.receiveAbort body).station.Releasable := by
  simp only [Station.receiveAbort]
  split
  · exact h
  · split
    · exact h.of_frame (by simp [sendStatus]) (by simp [sendStatus])
    · split
      · refine .of_isEmpty ?_
        simp only [station_done, returnIdle_frame]
        exact (s.stopTimer .t3230).isEmpty_release_all CmCause.normalRelease false
      · exact .of_isEmpty (isEmpty_release_all _ _ _)

theorem Releasable.receiveServiceAccept {s : Station} (h : s.Releasable) :
    s.receiveServiceAccept.station.Releasable := by
  unfold Station.receiveServiceAccept
  split
  · exact s.releasable_confirmService
  · exact h

theorem Releasable.receiveServiceReject {s : Station} (h : s.Releasable) (body : Octets) :
    (s.receiveServiceReject body).station.Releasable := by
  simp only [Station.receiveServiceReject]
  split
  · exact h
  · split <;> exact releasable_settle _

/-- A procedure for a message keeps within the states of release. -/
theorem Releasable.messageProcedure {s : Station} (h : s.Releasable) (body : Octets)
    {procedure : MessageProcedure} (hstate : s.machine.state ∈ procedure.states) :
    (procedure.run s body).station.Releasable := by
  -- A procedure stays in its state, or runs where there are no connections, or settles what becomes
  -- of them.
  cases procedure with
  | receiveTmsiReallocation =>
    exact h.of_takes (s.takes_receiveTmsiReallocation body) (by decide)
      (s.quiet_receiveTmsiReallocation body)
  | receiveAuthenticationRequest =>
    exact h.of_takes (s.takes_receiveAuthenticationRequest body) (by decide)
      (s.quiet_receiveAuthenticationRequest body)
  | receiveAuthenticationReject => exact h.receiveAuthenticationReject
  | receiveIdentityRequest =>
    exact h.of_takes (s.takes_receiveIdentityRequest body) (by decide)
      (s.quiet_receiveIdentityRequest body)
  | receiveAbort => exact h.receiveAbort body
  | receiveInformation =>
    exact h.of_takes (.of_takes (s.takes_receiveInformation body) (List.mem_singleton_self _))
      (by decide) (s.quiet_receiveInformation body)
  | receiveUpdateAccept =>
    exact h.of_quiet_within hstate (by decide) fun hs => hs.quiet_receiveUpdateAccept body
  | receiveUpdateReject =>
    exact h.of_quiet_within hstate (by decide) fun hs => hs.quiet_receiveUpdateReject body
  | receiveServiceAccept => exact h.receiveServiceAccept
  | receiveServiceReject => exact h.receiveServiceReject body
  | receiveStatus =>
    exact h.of_takes (.of_takes (s.takes_receiveStatus body) (List.mem_singleton_self _))
      (by decide) (s.quiet_receiveStatus body)

theorem Releasable.detachOverLink (s : Station) : s.detachOverLink.station.Releasable := by
  have hempty := (s.stopTimer .t3230).isEmpty_release_all CmCause.normalRelease false
  simp only [Station.detachOverLink]
  refine .of_isEmpty ?_
  split
  · -- Whether the indication can be sent or not, no connection is left.
    unfold Outcome.andThen
    split <;> simpa [awaitDetach, startTimer] using hempty
  · simpa [awaitNetwork, startReleaseTimer, startTimer] using hempty

/-- A procedure for an event keeps within the states of release. -/
theorem Releasable.eventProcedure {s : Station} (h : s.Releasable) (e : Event)
    {procedure : EventProcedure} (hstate : s.machine.state ∈ procedure.states) :
    (procedure.run s e).station.Releasable := by
  cases procedure with
  | normalUpdate => exact h.of_quiet_within hstate (by decide) fun hs => hs.quiet_normalUpdate
  | periodicUpdate => exact h.of_quiet_within hstate (by decide) fun hs => hs.quiet_startUpdate _
  | tryUpdate => exact h.of_quiet_within hstate (by decide) fun hs => hs.quiet_tryUpdate
  | timeoutUpdate =>
    -- The expiry of T3210 is only acted upon while the answer is awaited; otherwise the state stays.
    by_cases hupdating : s.machine.state = .locationUpdatingInitiated
    · exact h.of_quiet (by rw [hupdating]; rfl) fun _ => s.quiet_timeoutUpdate
    · have htakes := s.takes_timeoutUpdate
      rw [if_neg hupdating] at htakes
      exact h.of_takes htakes (by decide) s.quiet_timeoutUpdate
  | selectCell => exact h.of_quiet_within hstate (by decide) fun hs => hs.quiet_selectCell
  | startDetach => exact h.of_quiet_within hstate (by decide) fun hs => hs.quiet_startDetach
  | endDetach => exact h.of_quiet_within hstate (by decide) fun hs => hs.quiet_endDetach
  | detachOverLink => exact Releasable.detachOverLink s
  | delayDetach => exact h.of_frame rfl rfl
  | applySystemInformation =>
    cases e with
    | systemInformation info chance =>
      exact h.of_frame (by simp [EventProcedure.run]) (by simp [EventProcedure.run])
    | _ => exact h
  | abortLink => exact h.of_quiet_within hstate (by decide) fun hs => hs.quiet_abortLink
  | timeoutService => exact releasable_settle _
  | answerAuthentication =>
    cases e with
    | authenticationResponse sres =>
      exact h.of_takes (s.takes_sendMessage _) (by simp [Course.stay]) (s.quiet_sendMessage _)
    | _ => exact h
  | nothing => exact h

/-! ## Messages for connection management -/

theorem state_joinLink (s : Station) :
    s.joinLink.machine.state =
      if s.machine.state = .waitForNetworkCommand ∨ s.machine.state = .releaseNotAllowed then
        .connectionActive
      else s.machine.state := by
  unfold joinLink
  split <;> simp

/-- Without a connection, a message for connection management opens one, whatever the state. -/
theorem receiveCm_of_isEmpty {s : Station} (hwell : s.connections.WellFormed)
    (h : s.connections.isEmpty = true) (protocol : CmProtocol) (header : Header) (data : Octets) :
    (s.receiveCm protocol header data).station.connections.isEmpty = false ∧
      (s.receiveCm protocol header data).station.machine.state = s.joinLink.machine.state := by
  have hunknown : s.connections.findByKey? protocol header.transaction = none := by
    simp [ConnectionTable.findByKey?, List.isEmpty_iff.mp h]
  have hroom : s.connections.connections.length < s.connections.capacity := by
    simp [List.isEmpty_iff.mp h, hwell.capacity]
  simp only [receiveCm, hunknown, openConnection_of_room hwell hunknown hroom]
  constructor
  · simp [sendCm, send, joinLink_frame, ConnectionTable.isEmpty]
  · simp [sendCm, send, state_joinLink, takeReference]

/-- A message for connection management keeps within the states of release exactly if the station is
in one or holds a link for the network. -/
theorem releasable_receiveCm_iff {s : Station} (hwell : s.connections.WellFormed)
    (h : s.Releasable) (protocol : CmProtocol) (header : Header) (data : Octets) :
    (s.receiveCm protocol header data).station.Releasable ↔ s.opensHere = true := by
  cases hstate : s.machine.state.releases with
  | true =>
    refine iff_of_true (.of_state ?_) (by simp [opensHere, hstate])
    obtain ⟨c, hmem, hcourse⟩ := s.takes_receiveCm protocol header data
    simp only [List.mem_cons, List.not_mem_nil, or_false] at hmem
    rcases hmem with rfl | rfl
    · rw [hcourse.leads.1]
      exact hstate
    · have hactive : _ = MainState.connectionActive := hcourse.leads
      rw [hactive]
      rfl
  | false =>
    obtain ⟨hsome, hjoin⟩ := receiveCm_of_isEmpty hwell (h.isEmpty hstate) protocol header data
    rw [state_joinLink] at hjoin
    unfold Releasable
    rw [hjoin]
    by_cases hlink : s.machine.state = .waitForNetworkCommand ∨ s.machine.state = .releaseNotAllowed
    · rw [if_pos hlink]
      refine iff_of_true (fun _ => rfl) ?_
      rcases hlink with hlink | hlink <;> simp [opensHere, hlink]
    · rw [if_neg hlink]
      -- The connection is open, but the state is none in which it can be released.
      refine iff_of_false (fun hreleases => ?_) ?_
      · simp [hstate] at hreleases
        simp [hsome] at hreleases
      · simpa [opensHere, hstate] using hlink

/-! ## Steps -/

theorem isEmpty_updateTransaction (s : Station) (p : CmPrimitive) :
    (s.updateTransaction p).connections.isEmpty = s.connections.isEmpty := by
  unfold updateTransaction ConnectionTable.modifyByReference ConnectionTable.isEmpty
  cases s.connections.connections with
  | nil => rfl
  | cons c rest =>
    unfold ConnectionTable.modifyFirst
    split <;> rfl

/-- An input that is no message for connection management keeps within the states of release. -/
theorem Releasable.handle {s : Station} (h : s.Releasable) (i : Input)
    (hother : ∀ data protocol header, i.network? = some data →
      Received.read data ≠ .connection protocol header) : (s.handle i).station.Releasable := by
  have hmessage {data : Octets} (hnetwork : i.network? = some data) :
      (s.receiveMessage data).station.Releasable := by
    have hstatus (u : Station) (hu : u.Releasable) (cause : RejectCause) :
        (u.sendStatus cause).station.Releasable :=
      hu.of_frame (by simp [sendStatus]) (by simp [sendStatus])
    have hcontact : s.noteContact.Releasable := h.of_frame (by simp) (by simp)
    rw [receiveMessage_eq]
    cases hread : Received.read data with
    | broken e => exact h
    | skipped => exact h
    | unknown => exact hstatus s h _
    | mobility type body =>
      dsimp only
      split
      · next procedure hprocedure =>
        exact hcontact.messageProcedure body
          (by simpa using state_mem_of_messageProcedure hprocedure)
      · exact hstatus _ hcontact _
    | connection protocol header => exact absurd hread (hother data protocol header hnetwork)
  -- A message that opens a connection is excluded. All other inputs are covered by their
  -- procedures.
  cases i with
  | cm p =>
    have hlooked : (s.updateTransaction p).Releasable := by
      intro hsome
      exact h (s.isEmpty_updateTransaction p ▸ hsome)
    simp only [Station.handle, handleCm]
    split
    · next hprocedure => exact hlooked.cmProcedure p (state_mem_of_cmProcedure? hprocedure)
    · exact hlooked
  | registration p =>
    have htakes := s.takes_handleRegistration p
    exact h.of_takes (.of_takes htakes (List.mem_singleton_self _)) (by decide)
      (s.quiet_handleRegistration p)
  | rr p =>
    by_cases htype : p.type = .dataIndication
    · have hnetwork : (Input.rr p).network? = some p.payload := by simp [Input.network?, htype]
      show (s.handle (.rr p)).station.Releasable
      rw [s.handle_of_network? hnetwork]
      exact hmessage hnetwork
    · simp only [Station.handle, handleRr]
      split
      · next procedure hprocedure =>
        refine h.rrProcedure p (state_mem_of_rrProcedure? hprocedure) ?_
        rintro rfl
        exact htype (rrProcedure?_eq_receiveMessage_iff.mp hprocedure)
      · exact h
  | message data => exact hmessage rfl
  | event e =>
    simp only [Station.handle, handleEvent]
    split
    · next hprocedure => exact h.eventProcedure e (state_mem_of_eventProcedure? hprocedure)
    · exact h

/-- An action keeps within the states of release if and only if no message for connection management
is handled elsewhere. -/
theorem releasable_perform_iff {s : Station} (hs : s.Orderly) (h : s.Releasable) (a : Action) :
    (s.perform a).Releasable ↔ ¬ s.OpensAside a := by
  cases hhandled : a.handled? s with
  | none =>
    refine iff_of_true ?_ ?_
    · by_cases hexit : a = .exit
      · subst hexit
        exact .of_isEmpty rfl
      · obtain ⟨hmachine, htable, _⟩ := perform_frame hhandled hexit
        exact h.of_frame hmachine htable
    · rintro ⟨t, i, data, protocol, header, hsome, _⟩
      rw [hhandled] at hsome
      cases hsome
  | some r =>
    obtain ⟨t, i⟩ := r
    have hqueues := queues_of_handled hhandled
    have hmachine : t.machine = s.machine := by rw [hqueues]
    have htable : t.connections = s.connections := by rw [hqueues]
    have ht : t.Releasable := h.of_frame hmachine htable
    rw [perform_of_handled hhandled]
    -- Only a message for a protocol can open a connection in a state that does not release it.
    by_cases hmessage : ∃ data protocol header, i.network? = some data ∧
        Received.read data = .connection protocol header
    · obtain ⟨data, protocol, header, hnetwork, hread⟩ := hmessage
      have haside : s.OpensAside a ↔ s.opensHere = false := by
        constructor
        · rintro ⟨_, _, _, _, _, _, _, _, haside⟩
          exact haside
        · intro haside
          exact ⟨t, i, data, protocol, header, hhandled, hnetwork, hread, haside⟩
      have hhere : t.opensHere = s.opensHere := by rw [opensHere, opensHere, hmachine]
      have hiff := releasable_receiveCm_iff (htable ▸ hs.wellFormed) ht protocol header data
      rw [t.handle_of_network? hnetwork, receiveMessage_eq, hread, haside, hiff, hhere,
        Bool.not_eq_false]
    · refine iff_of_true (ht.handle i ?_) ?_
      · intro data protocol header hnetwork hread
        exact hmessage ⟨data, protocol, header, hnetwork, hread⟩
      · rintro ⟨t', i', data, protocol, header, hsome, hnetwork, hread, _⟩
        rw [hhandled] at hsome
        obtain ⟨rfl, rfl⟩ := Prod.mk.inj (Option.some.inj hsome)
        exact hmessage ⟨data, protocol, header, hnetwork, hread⟩

/-! ## The loss of the link -/

/-- Where connections cannot be released, the loss of the link leaves them alone. -/
theorem table_of_loss {s : Station} {p : RrPrimitive}
    (hloss : p.type = .releaseIndication ∨ p.type = .abortIndication)
    (hstate : s.machine.state.releases = false) :
    (s.handle (.rr p)).station.connections = s.connections := by
  have hsettled : s.Settled := by
    refine .of_state ?_
    cases hs : s.machine.state <;> simp_all [MainState.releases, MainState.establishes]
  rw [handle_loss hloss]
  -- In such a state the loss is handled in one of four ways, none of which touches a connection.
  have hprocedure : s.machine.state.lossProcedure ∈
      [.endDetach, .loseUpdateLink, .completeReject, .loseLink] := by
    cases hs : s.machine.state <;> simp_all [MainState.releases, MainState.lossProcedure]
  simp only [List.mem_cons, List.not_mem_nil, or_false] at hprocedure
  rcases hprocedure with h | h | h | h <;> rw [h]
  · exact hsettled.quiet_endDetach.table
  · exact (hsettled.quiet_loseUpdateLink p).table
  · exact hsettled.quiet_completeReject.table
  · exact hsettled.quiet_loseLink.table

/-- The loss of the link ends the connections of a station exactly if it can release them. -/
theorem linkLossEnds_iff {s : Station} (hs : s.Orderly) : s.LinkLossEnds ↔ s.Releasable := by
  constructor
  · intro hends hsome
    -- In a state that does not release, one loss of the link is enough to show a connection that
    -- survives it.
    by_contra hstate
    have hloss : RrPrimitiveType.releaseIndication = .releaseIndication ∨
        RrPrimitiveType.releaseIndication = .abortIndication := .inl rfl
    have hempty := (hends ⟨.releaseIndication, 0, []⟩ hloss).1
    rw [table_of_loss hloss (by simpa using hstate)] at hempty
    simp [ConnectionTable.isEmpty, hempty] at hsome
  · intro h p hloss t
    have hempty : t.connections.connections = [] := by
      rw [← List.isEmpty_iff]
      cases hstate : s.machine.state.releases with
      | true =>
        have hprocedure := MainState.lossProcedure_eq_loseConnections_iff.mpr hstate
        have hrun : t = s.loseConnections.station := by
          show (s.handle (.rr p)).station = _
          rw [handle_loss hloss, hprocedure]
          rfl
        rw [hrun, loseConnections, station_done, (returnIdle_frame _).2.1]
        exact isEmpty_release_all _ _ _
      | false =>
        show (s.handle (.rr p)).station.connections.connections.isEmpty = true
        rw [table_of_loss hloss hstate]
        exact h.isEmpty hstate
    refine ⟨hempty, fun c hc => ?_⟩
    obtain ⟨change, sent, hfollows, hallowed⟩ := s.handle_follows (.rr p)
    have hgone : ¬ t.connections.hasReference c.reference = true := by
      simp [ConnectionTable.hasReference, ConnectionTable.findByReference?, hempty]
    -- That each owner is told follows from the account of the step.
    rcases (accounted_of_follows hs hfollows hallowed).gone c hc hgone with ⟨q, hcm, _⟩ | htold
    · cases hcm
    · exact htold

/-! ## Runs -/

/-- The loss of the radio link ends every connection throughout exactly those runs in which no
message for connection management is handled outside the states that can take a connection. -/
theorem linkLossEnds_throughout_iff (config : Config) (subscriber : Subscriber)
    (actions : List Action) :
    Throughout LinkLossEnds (ofSubscriber config subscriber) actions ↔
      EveryStep (fun s a => ¬ s.OpensAside a) (ofSubscriber config subscriber) actions := by
  have hstart : (ofSubscriber config subscriber).Releasable := .of_isEmpty rfl
  refine throughout_iff_everyStep (I := Orderly) (fun _ a hs => hs.perform a) ?_
    (orderly_ofSubscriber config subscriber)
    ((linkLossEnds_iff (orderly_ofSubscriber config subscriber)).mpr hstart)
  intro s a _ hs hends
  rw [linkLossEnds_iff (hs.perform a)]
  exact releasable_perform_iff hs ((linkLossEnds_iff hs).mp hends) a

/-- A call that the network opens during a location update survives the loss of the link. -/
theorem call_survives_link_loss :
    ¬ ((ofConfig
        { imei := "356938035643809"
          imeisv := "3569380356438091"
          sim := some { imsi := "262420000000001" } }).run
      [.cell (.campedIn ⟨⟨262, 42, false⟩, 7⟩),
        .handle (.event .newLocationArea),
        .handle (.rr { type := .establishConfirm }),
        .handle (.message [0x03, 0x05])]).LinkLossEnds := by
  intro hends
  have hempty := (hends { type := .releaseIndication } (.inl rfl)).1
  revert hempty
  decide +kernel

end Station

end MobileStation
