import MobileStation.Proofs.Codec.Reading
import MobileStation.Proofs.Registration.Coherent
import MobileStation.Proofs.Registration.Started

/-!
# Everything that is sent can be written

A message can be written if the identity in it can. Which identity the station shows is chosen by
flags that many procedures change, and without a SIM the identity of the subscriber cannot be
written. It is not shown then: to be attached or to have a usable SIM takes a SIM, and without one
an idle station is in a substate that starts no location update.

Main statements: `NeedsSim.exists_identity` (a station with a SIM can always identify itself),
`handle_breaksOff` (a message that cannot be read is the only one that stops a procedure) and
`writesAll_run` (nothing is left half done for want of a message).
-/

namespace MobileStation

/-! ## Procedures that break off -/

/-- If the procedure broke off at a message, the error has `P`. -/
def Outcome.BreaksOff (P : CodecError → Prop) (o : Outcome) : Prop :=
  ∀ e, o.failure = some (.codec e) → P e

namespace Outcome.BreaksOff

variable {P : CodecError → Prop}

theorem done (s : Station) : (Outcome.done s).BreaksOff P := nofun

theorem failed {s : Station} {e : CodecError} (h : P e) :
    (Outcome.failed s (.codec e)).BreaksOff P := by
  rintro _ ⟨⟩
  exact h

theorem connection (s : Station) (e : ConnectionError) :
    (Outcome.failed s (.connection e)).BreaksOff P := nofun

theorem andThen {o : Outcome} {next : Station → Outcome} (h : o.BreaksOff P)
    (hnext : ∀ s, (next s).BreaksOff P) : (o.andThen next).BreaksOff P := by
  unfold Outcome.andThen
  split
  · exact hnext _
  · exact h

end Outcome.BreaksOff

namespace Station

open Outcome

variable {P : CodecError → Prop}

theorem breaksOff_sendMessage (s : Station) {m : Message} (h : ∃ data, m.encode = .ok data) :
    (s.sendMessage m).BreaksOff P := by
  obtain ⟨data, hencode⟩ := h
  rw [sendMessage_of_encode _ hencode]
  exact .done _

theorem breaksOff_sendStatus (s : Station) (cause : RejectCause) :
    (s.sendStatus cause).BreaksOff P :=
  s.breaksOff_sendMessage ⟨_, rfl⟩

/-! ## Identities -/

/-- The station can identify itself: the equipment always, and the subscriber where a SIM is usable
or the subscriber attached. -/
structure Identified (s : Station) : Prop where
  imei : ∃ value, (MobileIdentity.imei s.subscriber.imei).encode = .ok value
  imeisv : ∃ value, (MobileIdentity.imeisv s.subscriber.imeisv).encode = .ok value
  imsi : s.subscriber.simValid = true ∨ s.subscriber.attached = true →
    ∃ value, (MobileIdentity.imsi s.subscriber.imsi).encode = .ok value

/-- What identifies the subscriber can be written if the permanent identity can. -/
theorem exists_identity_of_imsi {s : Station}
    (h : ∃ value, (MobileIdentity.imsi s.subscriber.imsi).encode = .ok value) :
    ∃ value, s.subscriber.identity.encode = .ok value := by
  unfold Subscriber.identity
  split
  · exact ⟨_, rfl⟩
  · exact h

/-- No procedure writes the identity of the equipment. -/
theorem Writes.imeisv {s : Station} {i : Input} {r : Record} (h : s.Writes i r) :
    r.subscriber.imeisv = s.subscriber.imeisv := by
  -- An accept and a final reject write the most, but nothing writes the equipment.
  cases h with
  | accept _ data body accept hstate hnetwork hread hdecode =>
    unfold applyAcceptedIdentity
    split
    · rw [record_sendMessage]
      rfl
    · rw [record_sendMessage]
      rfl
    · rfl
  | reject p hloss hstate hfinal =>
    have hidentity (cause : RejectCause) :
        (s.rejectIdentity cause).subscriber.imeisv = s.subscriber.imeisv := by
      unfold rejectIdentity
      split <;> rfl
    have hforbid (u : Subscriber) (plmn : Plmn) : (u.forbid plmn).imeisv = u.imeisv := by
      unfold Subscriber.forbid
      split <;> rfl
    show (s.rejectFinally s.update.rejectCause).subscriber.imeisv = _
    unfold rejectFinally forbidRejected
    split
    · exact (hforbid _ _).trans (hidentity _)
    · split <;> exact hidentity _
  | _ => rfl

theorem imeisv_run {config : Config} {actions : List Action}
    (hwrites : ∀ u, .subscriber u ∉ actions) :
    ((ofConfig config).run actions).subscriber.imeisv = config.imeisv := by
  refine invariant_run_of_mem (P := fun s => s.subscriber.imeisv = config.imeisv) ?_ ?_
  · intro s a ha h
    cases hhandled : a.handled? s with
    | none =>
      rw [subscriber_of_not_handled hhandled (by rintro u rfl; exact hwrites u ha)]
      exact h
    | some r => exact (writes_of_handled hhandled).imeisv.trans h
  · show (Subscriber.ofConfig config).imeisv = config.imeisv
    unfold Subscriber.ofConfig
    split <;> rfl

/-- A station whose configuration has a SIM can identify its subscriber. -/
theorem NeedsSim.exists_imsi {config : Config} {s : Station} (h : s.NeedsSim config)
    (hwritable : config.Writable) (hsim : config.sim.isSome = true) :
    ∃ value, (MobileIdentity.imsi s.subscriber.imsi).encode = .ok value := by
  obtain ⟨sim, hsome⟩ := Option.isSome_iff_exists.mp hsim
  have himsi : s.subscriber.imsi = sim.imsi := by
    rw [h.configured.imsi, Subscriber.ofConfig, hsome]
  rw [himsi]
  exact hwritable.imsi sim hsome

theorem NeedsSim.identified {config : Config} {s : Station} (h : s.NeedsSim config)
    (hvalid : config.validate = .ok ()) (himeisv : s.subscriber.imeisv = config.imeisv) :
    s.Identified := by
  have hwritable := Config.writable_of_validate hvalid
  refine ⟨?_, himeisv ▸ Config.exists_encode_imeisv hvalid, ?_⟩
  · have himei : (Subscriber.ofConfig config).imei = config.imei := by
      unfold Subscriber.ofConfig
      split <;> rfl
    rw [h.configured.imei, himei]
    exact hwritable.imei
  · intro hshown
    refine h.exists_imsi hwritable ?_
    -- The identity is shown while the SIM is usable or the station attached, and either way there is
    -- a SIM.
    rcases hshown with husable | hattached
    · rw [Option.isSome_iff_ne_none]
      intro hnone
      exact Bool.false_ne_true ((h.configured.withoutSim hnone).1.symm.trans husable)
    · exact h.attached hattached

/-- An event that makes or tries a location update finds a station with a SIM. -/
theorem NeedsSim.isSome_sim {config : Config} {s : Station} (h : s.NeedsSim config) {e : Event}
    {procedure : EventProcedure} (hprocedure : s.machine.eventProcedure? e = some procedure)
    (hupdate : procedure = .normalUpdate ∨ procedure = .periodicUpdate ∨ procedure = .tryUpdate) :
    config.sim.isSome = true := by
  rw [Option.isSome_iff_ne_none]
  intro hnone
  have hsubstate (hidle : s.machine.isIdle = true) :
      s.machine.lastSubstate = .plmnSearch ∨ s.machine.lastSubstate = .noImsi :=
    (h.configured.withoutSim hnone).2 (by simpa [StateMachine.isIdle] using hidle)
  -- Without one the substate is one whose rules make and try none.
  have hstart (hnew : procedure = .normalUpdate ∨ procedure = .periodicUpdate) : False := by
    obtain ⟨hidle, hstarts⟩ := idle_of_startUpdate hprocedure hnew
    rcases hsubstate hidle with hlast | hlast <;> simp [hlast, IdleSubstate.startsUpdate] at hstarts
  rcases hupdate with hnormal | hperiodic | htry
  · exact hstart (.inl hnormal)
  · exact hstart (.inr hperiodic)
  · obtain ⟨hidle, hretries⟩ := idle_of_tryUpdate (htry ▸ hprocedure)
    rcases hsubstate hidle with hlast | hlast <;>
      simp [hlast, IdleSubstate.takesRetry] at hretries

/-! ## Connections -/

theorem Identified.exists_serviceRequest {s : Station} (h : s.Identified) (p : CmPrimitive) :
    ∃ data, (s.serviceRequest p).encode = .ok data := by
  by_cases hsim : s.subscriber.simValid = true
  · obtain ⟨value, hencode⟩ := exists_identity_of_imsi (h.imsi (.inl hsim))
    exact Message.exists_encode_of_identity
      (by simp [serviceRequest, Message.identity?, hsim]) hencode
  · obtain ⟨value, hencode⟩ := h.imei
    exact Message.exists_encode_of_identity
      (by simp [serviceRequest, Message.identity?, hsim]) hencode

/-- A request for a service breaks off at no message. -/
theorem Identified.breaksOff_requestService {s : Station} (h : s.Identified) (p : CmPrimitive)
    (route : Route) (next : Station → Station) : (s.requestService p route next).BreaksOff P := by
  obtain ⟨data, hencode⟩ := h.exists_serviceRequest p
  have hrequest : ({ s with update.attempts := 0 }.serviceRequest p).encode = .ok data := hencode
  simp only [requestService, hrequest]
  split
  · exact .done _
  · split
    · exact .done _
    · exact .connection _ _
    · exact .done _

theorem breaksOff_withdrawRequest (s : Station) : s.withdrawRequest.BreaksOff P :=
  breaksOff_sendMessage _ ⟨_, rfl⟩

theorem Identified.breaksOff_cmProcedure {s : Station} (h : s.Identified) (p : CmPrimitive)
    (procedure : CmProcedure) : (procedure.run s p).BreaksOff P := by
  cases procedure with
  | requestFromIdle => exact h.breaksOff_requestService p _ _
  | requestFirst => exact h.breaksOff_requestService p _ _
  | requestAdditional => exact h.breaksOff_requestService p _ _
  | refuseBusy => exact .done _
  | forwardData =>
    simp only [CmProcedure.run, forwardData]
    split <;> exact .done _
  | releaseActive => exact .done _
  | releaseWaiting => exact .done _
  | releaseRequested =>
    simp only [CmProcedure.run, releaseRequested]
    split
    · exact breaksOff_withdrawRequest _
    · exact .done _

/-! ## Location updates and detach -/

theorem breaksOff_tryUpdate {s : Station}
    (h : ∃ value, s.subscriber.identity.encode = .ok value) : s.tryUpdate.BreaksOff P := by
  obtain ⟨value, hidentity⟩ := h
  obtain ⟨data, hencode⟩ :
      ∃ data, (Message.locationUpdatingRequest s.updateRequest).encode = .ok data :=
    Message.exists_encode_of_identity rfl hidentity
  unfold tryUpdate
  split
  · exact .done _
  · split
    · simp only [requestUpdate, hencode]
      exact .done _
    · exact .done _

theorem breaksOff_startUpdate {s : Station}
    (h : ∃ value, s.subscriber.identity.encode = .ok value) (kind : UpdateKind) :
    (s.startUpdate kind).BreaksOff P := by
  simp only [startUpdate]
  split
  · exact .done _
  · exact breaksOff_tryUpdate h

theorem Identified.breaksOff_selectCell {s : Station} (h : s.Identified) :
    s.selectCell.BreaksOff P := by
  cases hsim : s.subscriber.simValid with
  | false =>
    rw [selectCell_of_not_simValid hsim]
    exact .done _
  | true =>
    rcases s.selectCell_cases with hcase | hcase <;> rw [hcase]
    · refine breaksOff_startUpdate ?_ _
      rw [show s.returnIdle.subscriber = s.subscriber by simp]
      exact exists_identity_of_imsi (h.imsi (.inl hsim))
    · exact .done _

/-- The network is told of a detach only by an attached subscriber. -/
theorem Identified.exists_detachIndication {s : Station} (h : s.Identified)
    (hrequired : s.detachRequired = true) : ∃ data, s.detachIndication.encode = .ok data := by
  simp only [detachRequired, Bool.and_eq_true] at hrequired
  obtain ⟨value, hencode⟩ := exists_identity_of_imsi (h.imsi (.inr hrequired.2))
  exact Message.exists_encode_of_identity rfl hencode

theorem Identified.breaksOff_startDetach {s : Station} (h : s.Identified) :
    s.startDetach.BreaksOff P := by
  unfold startDetach
  split
  · next hrequired =>
    obtain ⟨data, hencode⟩ := h.exists_detachIndication hrequired
    simp only [hencode]
    exact .done _
  · exact .done _

theorem Identified.breaksOff_detachOverLink {s : Station} (h : s.Identified) :
    s.detachOverLink.BreaksOff P := by
  simp only [detachOverLink]
  split
  · next hrequired =>
    exact (breaksOff_sendMessage _ (h.exists_detachIndication hrequired)).andThen fun _ => .done _
  · exact .done _

/-- An event never breaks off. -/
theorem NeedsSim.breaksOff_eventProcedure {config : Config} {s : Station} (h : s.NeedsSim config)
    (hwritable : config.Writable) (hidentified : s.Identified) {e : Event}
    {procedure : EventProcedure} (hprocedure : s.machine.eventProcedure? e = some procedure) :
    (procedure.run s e).BreaksOff P := by
  -- An update is only started with a SIM, so there is an identity to write.
  have hidentity (hupdate : procedure = .normalUpdate ∨ procedure = .periodicUpdate ∨
      procedure = .tryUpdate) : ∃ value, s.subscriber.identity.encode = .ok value :=
    exists_identity_of_imsi (h.exists_imsi hwritable (h.isSome_sim hprocedure hupdate))
  cases procedure with
  | normalUpdate => exact breaksOff_startUpdate (hidentity (.inl rfl)) _
  | periodicUpdate => exact breaksOff_startUpdate (hidentity (.inr (.inl rfl))) _
  | tryUpdate => exact breaksOff_tryUpdate (hidentity (.inr (.inr rfl)))
  | timeoutUpdate =>
    simp only [EventProcedure.run, timeoutUpdate]
    split <;> exact .done _
  | selectCell => exact hidentified.breaksOff_selectCell
  | startDetach => exact hidentified.breaksOff_startDetach
  | detachOverLink => exact hidentified.breaksOff_detachOverLink
  | applySystemInformation =>
    simp only [EventProcedure.run]
    split <;> exact .done _
  | answerAuthentication =>
    simp only [EventProcedure.run]
    split
    · exact breaksOff_sendMessage _ ⟨_, rfl⟩
    · exact .done _
  | _ => exact .done _

/-! ## Messages of the network -/

theorem breaksOff_applyAcceptedIdentity (s : Station) (identity : Option MobileIdentity) :
    (s.applyAcceptedIdentity identity).BreaksOff P := by
  unfold applyAcceptedIdentity
  split
  · exact breaksOff_sendMessage _ ⟨_, rfl⟩
  · exact breaksOff_sendMessage _ ⟨_, rfl⟩
  · exact .done _

theorem Identified.breaksOff_receiveIdentityRequest {s : Station} (h : s.Identified)
    (body : Octets) :
    (s.receiveIdentityRequest body).BreaksOff fun e => e.isWriting = false := by
  simp only [receiveIdentityRequest]
  split
  · next e hdecode => exact .failed (IdentityRequest.reads_decode body e hdecode)
  · split
    · exact breaksOff_sendStatus _ _
    · next hsim =>
      split
      · exact breaksOff_sendStatus _ _
      · -- The identity that is asked for is one of those that can be written.
        refine breaksOff_sendMessage _ ?_
        suffices hidentity : ∀ type, ∃ value, (identityOf s.subscriber type).encode = .ok value by
          obtain ⟨value, hencode⟩ := hidentity _
          exact Message.exists_encode_of_identity rfl hencode
        intro type
        rcases type with _ | (_ | _ | _ | _ | _)
        · exact ⟨_, rfl⟩
        · exact ⟨_, rfl⟩
        · exact h.imsi (.inl (by simpa using hsim))
        · exact h.imei
        · exact h.imeisv
        · exact ⟨_, rfl⟩

/-- A message of the network breaks off only because it cannot be read. -/
theorem Identified.breaksOff_messageProcedure {s : Station} (h : s.Identified) (body : Octets)
    (procedure : MessageProcedure) :
    (procedure.run s body).BreaksOff fun e => e.isWriting = false := by
  -- A procedure may break off because it cannot read the message, but what it answers can be
  -- written.
  cases procedure with
  | receiveTmsiReallocation =>
    simp only [MessageProcedure.run, receiveTmsiReallocation]
    split
    · exact s.breaksOff_sendStatus _
    · next e hdecode => exact .failed (TmsiReallocationCommand.reads_decode body _ hdecode)
    · exact breaksOff_sendMessage _ ⟨_, rfl⟩
    · exact breaksOff_sendMessage _ ⟨_, rfl⟩
    · exact s.breaksOff_sendStatus _
  | receiveAuthenticationRequest =>
    simp only [MessageProcedure.run, receiveAuthenticationRequest]
    split
    · next e hdecode => exact .failed (AuthenticationRequest.reads_decode body e hdecode)
    · split
      · exact .done _
      · exact s.breaksOff_sendStatus _
  | receiveAuthenticationReject =>
    simp only [MessageProcedure.run, receiveAuthenticationReject]
    split <;> exact .done _
  | receiveIdentityRequest => exact h.breaksOff_receiveIdentityRequest body
  | receiveAbort =>
    simp only [MessageProcedure.run, receiveAbort]
    split
    · next e hdecode => exact .failed (Message.reads_decodeCause body e hdecode)
    · split
      · exact s.breaksOff_sendStatus _
      · split <;> exact .done _
  | receiveInformation =>
    simp only [MessageProcedure.run, receiveInformation]
    split
    · next e hdecode => exact .failed (MmInformation.reads_decode body e hdecode)
    · exact .done _
  | receiveUpdateAccept =>
    simp only [MessageProcedure.run, receiveUpdateAccept]
    split
    · next e hdecode => exact .failed (LocationUpdatingAccept.reads_decode body e hdecode)
    · exact (breaksOff_applyAcceptedIdentity _ _).andThen fun _ => .done _
  | receiveUpdateReject =>
    simp only [MessageProcedure.run, receiveUpdateReject]
    split
    · next e hdecode => exact .failed (Message.reads_decodeCause body e hdecode)
    · exact .done _
  | receiveServiceAccept =>
    simp only [MessageProcedure.run, receiveServiceAccept]
    split <;> exact .done _
  | receiveServiceReject =>
    simp only [MessageProcedure.run, receiveServiceReject]
    split
    · next e hdecode => exact .failed (Message.reads_decodeCause body e hdecode)
    · split <;> exact .done _
  | receiveStatus =>
    simp only [MessageProcedure.run, receiveStatus]
    split
    · next e hdecode => exact .failed (Message.reads_decodeCause body e hdecode)
    · exact .done _

theorem breaksOff_receiveCm (s : Station) (protocol : CmProtocol) (header : Header)
    (data : Octets) : (s.receiveCm protocol header data).BreaksOff P := by
  simp only [receiveCm]
  split
  · exact .done _
  · split
    · exact .connection _ _
    · exact .done _

theorem Identified.noteContact {s : Station} (h : s.Identified) : s.noteContact.Identified := by
  have hsubscriber : s.noteContact.subscriber = s.subscriber := by simp
  exact ⟨hsubscriber ▸ h.imei, hsubscriber ▸ h.imeisv, hsubscriber ▸ h.imsi⟩

theorem Identified.breaksOff_receiveMessage {s : Station} (h : s.Identified) (data : Octets) :
    (s.receiveMessage data).BreaksOff fun e => e.isWriting = false := by
  rw [receiveMessage_eq]
  split
  · exact .failed rfl
  · exact .done _
  · exact s.breaksOff_sendStatus _
  · split
    · exact h.noteContact.breaksOff_messageProcedure _ _
    · exact breaksOff_sendStatus _ _
  · exact s.breaksOff_receiveCm _ _ _

/-! ## Inputs -/

/-- A primitive from below that carries no message never breaks off. -/
theorem breaksOff_rrProcedure (s : Station) (p : RrPrimitive) {procedure : RrProcedure}
    (hother : procedure ≠ .receiveMessage) : (procedure.run s p).BreaksOff P := by
  cases procedure with
  | receiveMessage => exact absurd rfl hother
  | beginService =>
    simp only [RrProcedure.run, beginService]
    split
    · exact s.breaksOff_withdrawRequest
    · exact .done _
  | loseUpdateLink =>
    simp only [RrProcedure.run, loseUpdateLink]
    split <;> exact .done _
  | completeReject =>
    simp only [RrProcedure.run, completeReject]
    split <;> exact .done _
  | _ => exact .done _

/-- Only a message of the network stops a procedure, and only because it cannot be read. -/
theorem NeedsSim.handle_breaksOff {config : Config} {s : Station} (h : s.NeedsSim config)
    (hvalid : config.validate = .ok ()) (himeisv : s.subscriber.imeisv = config.imeisv)
    (i : Input) :
    (s.handle i).BreaksOff fun e => e.isWriting = false ∧ ∃ data, i.network? = some data := by
  have hidentified := h.identified hvalid himeisv
  have hmessage {data : Octets} (hnetwork : i.network? = some data) :
      (s.handle i).BreaksOff fun e => e.isWriting = false ∧ ∃ data, i.network? = some data := by
    rw [s.handle_of_network? hnetwork]
    intro e hfailure
    exact ⟨hidentified.breaksOff_receiveMessage data e hfailure, data, hnetwork⟩
  -- Only a message may break off the handling. It comes as an input of its own or over the radio
  -- link.
  cases i with
  | cm p =>
    have hupdated : (s.updateTransaction p).Identified :=
      ⟨hidentified.imei, hidentified.imeisv, hidentified.imsi⟩
    simp only [handle, handleCm]
    split
    · exact hupdated.breaksOff_cmProcedure p _
    · exact .done _
  | registration p => cases p <;> exact .done _
  | rr p =>
    by_cases hdata : p.type = .dataIndication
    · exact hmessage (if_pos hdata)
    · simp only [handle, handleRr]
      split
      · next procedure hprocedure =>
        refine s.breaksOff_rrProcedure p ?_
        rintro rfl
        exact hdata (rrProcedure?_eq_receiveMessage_iff.mp hprocedure)
      · exact .done _
  | message data => exact hmessage rfl
  | event e =>
    simp only [handle, handleEvent]
    split
    · next procedure hprocedure =>
      exact h.breaksOff_eventProcedure (Config.writable_of_validate hvalid) hidentified hprocedure
    · exact .done _

/-! ## Nothing is left half done -/

/-- The station writes every message that the input calls for. -/
structure WritesAll (s : Station) (i : Input) : Prop where
  /-- No procedure breaks off because a message cannot be written. -/
  written : ∀ text, (s.handle i).failure ≠ some (.codec (.element (.invalidDigits text)))
  /-- A procedure that breaks off at a message does so at one of the network. -/
  read : ∀ e, (s.handle i).failure = some (.codec e) → ∃ data, i.network? = some data
  /-- A location update does not come to be wanted without being asked for. -/
  update : s.update.wanted = false → (s.handle i).station.update.wanted = true →
    RequestsUpdate s (s.handle i).station
  /-- Connections are not released for a detach without the network being told of it, where it wants
  to be. -/
  detach : i = .event .imsiDetach → s.machine.eventProcedure? .imsiDetach = some .detachOverLink →
    s.detachRequired = true →
      ∃ data, s.detachIndication.encode = .ok data ∧
        .rr (.send data) ∈ sentBetween s (s.handle i).station ∧
        (s.handle i).station.machine.state = .imsiDetachInitiated

/-- A detach over a radio link that is up, told to the network. -/
theorem detachOverLink_told {s : Station} {data : Octets} (hrequired : s.detachRequired = true)
    (hencode : s.detachIndication.encode = .ok data) :
    .rr (.send data) ∈ sentBetween s s.detachOverLink.station ∧
      s.detachOverLink.station.machine.state = .imsiDetachInitiated := by
  -- The calls are released first, so their indications stand in front of the detach.
  let released := (s.stopTimer .t3230).releaseConnections .all CmCause.normalRelease false
  have hreleased : released.detachIndication.encode = .ok data := hencode
  have hrun : s.detachOverLink = .done (released.sendRr (.send data)).awaitDetach := by
    simp only [detachOverLink]
    rw [if_pos (show released.detachRequired = true from hrequired),
      sendMessage_of_encode _ hreleased]
    rfl
  have houtbox : (released.sendRr (.send data)).awaitDetach.outbox = s.outbox ++
      ((s.connections.releasePrimitives .all CmCause.normalRelease false).map .cm ++
        [.rr (.send data)]) := by
    rw [awaitDetach, (enter_frame _ _ _).2.2.2.2.2, ← List.append_assoc]
    rfl
  rw [hrun, station_done, sentBetween_of_outbox houtbox]
  exact ⟨by simp, by simp [awaitDetach]⟩

theorem NeedsSim.writesAll {config : Config} {s : Station} (h : s.NeedsSim config)
    (hvalid : config.validate = .ok ()) (himeisv : s.subscriber.imeisv = config.imeisv)
    (i : Input) : s.WritesAll i := by
  have hbreaks := h.handle_breaksOff hvalid himeisv i
  refine ⟨?_, fun e hfailure => (hbreaks e hfailure).2, ?_, ?_⟩
  · intro text hfailure
    cases (hbreaks _ hfailure).1
  · intro hunwanted hwanted
    obtain ⟨e, rfl, hstarts⟩ := (handle_starts_iff hunwanted i).mp hwanted
    refine hstarts.requests ?_
    intro error hfailure
    -- An event brings no message that could not be read.
    obtain ⟨_, data, hnetwork⟩ := hbreaks error hfailure
    cases hnetwork
  · rintro rfl hprocedure hrequired
    obtain ⟨data, hencode⟩ := (h.identified hvalid himeisv).exists_detachIndication hrequired
    have hrun : s.handle (.event .imsiDetach) = s.detachOverLink := by
      simp only [handle, handleEvent, hprocedure]
      rfl
    rw [hrun]
    exact ⟨data, hencode, detachOverLink_told hrequired hencode⟩

/-- After every run of a station with a checked configuration in which nobody writes the subscriber,
the station writes every message that an input calls for: a location update that is started is asked
for, and a detach over the radio link is told to the network before it goes on. -/
theorem writesAll_run {config : Config} (hvalid : config.validate = .ok ()) {actions : List Action}
    (hwrites : ∀ u, .subscriber u ∉ actions) (a : Action) (t : Station) (i : Input)
    (hhandled : a.handled? ((ofConfig config).run actions) = some (t, i)) : t.WritesAll i := by
  have hrun : ((ofConfig config).run actions).NeedsSim config := needsSim_run hwrites
  have himeisv : ((ofConfig config).run actions).subscriber.imeisv = config.imeisv :=
    imeisv_run hwrites
  have hqueues := queues_of_handled hhandled
  have ht : t.NeedsSim config := by
    rw [hqueues]
    obtain ⟨hattached, ⟨himsi, himei, hentered, hshown, hwithout⟩, hidle⟩ := hrun
    exact ⟨hattached, ⟨himsi, himei, hentered, hshown, hwithout⟩, hidle⟩
  refine ht.writesAll hvalid ?_ i
  rw [hqueues]
  exact himeisv

/-- Without a SIM the identity of the subscriber could not be written, but no location update is
started where one would need it. -/
theorem writesAll_without_sim :
    let config : Config := { imei := "356938035643809", imeisv := "3569380356438091" }
    let actions : List Action := [.cell (.campedIn ⟨⟨262, 42, false⟩, 7⟩)]
    let s := (ofConfig config).run actions
    config.validate = .ok () ∧ (∀ u, .subscriber u ∉ actions) ∧
      s.subscriber.identity.encode = .error (.invalidDigits "") ∧
      s.WritesAll (.event .newLocationArea) := by
  intro config actions s
  have hvalid : config.validate = .ok () := by decide +kernel
  have hwrites : ∀ u, .subscriber u ∉ actions := by simp [actions]
  exact ⟨hvalid, hwrites, by decide +kernel,
    writesAll_run hvalid hwrites (.handle (.event .newLocationArea)) s _ rfl⟩

end Station

end MobileStation
