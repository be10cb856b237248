import MobileStation.Proofs.Steps.Dismissed
import MobileStation.Proofs.Update.Reject
import MobileStation.Proofs.Update.Wanted

/-!
# The records of the subscriber and the cell

What a station keeps of its registration is written by few procedures: answers of the network, the
loss of the SIM, and system information. `Writes` lists what an input can leave of it, together with
the circumstances in which it does; everything said about the registration is read off that list.

Main statement: `handle_writes` (an input leaves one of the listed records).
-/

namespace MobileStation

/-- What a station keeps of its registration. -/
structure Record where
  subscriber : Subscriber
  cell : ServingCell
  /-- The cause of the last rejected location update. -/
  rejectCause : RejectCause
  deriving DecidableEq

namespace Station

/-- The records of the station. -/
def record (s : Station) : Record := ⟨s.subscriber, s.cell, s.update.rejectCause⟩

/-- Handling the input may leave this record. -/
inductive Writes (s : Station) : Input → Record → Prop
  /-- The record is left alone. -/
  | keep (i : Input) : Writes s i s.record
  /-- The network accepts the location update that it was asked for. -/
  | accept (i : Input) (data body : Octets) (accept : LocationUpdatingAccept)
      (hstate : s.machine.state = .locationUpdatingInitiated) (hnetwork : i.network? = some data)
      (hread : Received.read data = .mobility .locationUpdatingAccept body)
      (hdecode : LocationUpdatingAccept.decode body = .ok accept) :
      Writes s i ((s.registerIn accept.lai).applyAcceptedIdentity accept.identity).station.record
  /-- The network rejects the location update that it was asked for. -/
  | refuse (i : Input) (data body : Octets) (cause : RejectCause)
      (hstate : s.machine.state = .locationUpdatingInitiated) (hnetwork : i.network? = some data)
      (hread : Received.read data = .mobility .locationUpdatingReject body)
      (hdecode : Message.decodeCause body = .ok cause) :
      Writes s i { s with update.rejectCause := cause }.record
  /-- The network gives out a temporary identity. -/
  | assign (i : Input) (lai : Lai) (tmsi : UInt32) :
      Writes s i ((s.storeLai lai).assignTmsi tmsi).record
  /-- The network takes the temporary identity away. -/
  | unassign (i : Input) (lai : Lai) : Writes s i (s.storeLai lai).removeTmsi.record
  /-- The network asks for authentication under a key. -/
  | key (i : Input) (sequence : UInt8) (h : sequence ≤ 7) :
      Writes s i { s with subscriber.keySequence := sequence }.record
  /-- The registration is forgotten. -/
  | forget (i : Input) (status : UpdateStatus) (h : status ≠ .updated) :
      Writes s i (s.deregister status).record
  /-- The registration is forgotten, and the SIM is not used any more. -/
  | forgetSim (i : Input) (status : UpdateStatus) (h : status ≠ .updated) :
      Writes s i ({ s with subscriber.simValid := false }.deregister status).record
  /-- The subscriber is detached. -/
  | detach (i : Input) :
      Writes s i
        { s with subscriber := { s.subscriber with simValid := false, attached := false } }.record
  /-- The radio link is lost after a final reject. -/
  | reject (p : RrPrimitive) (hloss : p.type = .releaseIndication ∨ p.type = .abortIndication)
      (hstate : s.machine.state = .locationUpdatingReject)
      (hfinal : isFinalReject s.update.rejectCause = true) :
      Writes s (.rr p) (s.rejectFinally s.update.rejectCause).record
  /-- System information is received. -/
  | inform (info : SystemInformation) (chance : Nat) :
      Writes s (.event (.systemInformation info chance))
        ⟨{ s.subscriber with attachAllowed := info.attachAllowed },
          s.cell.applySystemInformation info, s.update.rejectCause⟩

theorem Writes.of_eq {s : Station} {i : Input} {r : Record} (h : r = s.record) : s.Writes i r :=
  h ▸ .keep i

/-! ## Updates that leave the record alone -/

@[simp] theorem record_send (s : Station) (o : Output) : (s.send o).record = s.record := rfl

@[simp] theorem record_releaseConnections (s : Station) (filter : ConnectionTable.ReleaseFilter)
    (cause : UInt8) (isError : Bool) :
    (s.releaseConnections filter cause isError).record = s.record := rfl

@[simp] theorem record_sendMessage (s : Station) (m : Message) :
    (s.sendMessage m).station.record = s.record := by
  unfold sendMessage
  split <;> rfl

@[simp] theorem record_enter (s : Station) (state : MainState) (substate : Option IdleSubstate) :
    (s.enter state substate).record = s.record := by
  simp [record]

@[simp] theorem record_returnIdle (s : Station) : s.returnIdle.record = s.record := by
  simp [record]

@[simp] theorem record_noteContact (s : Station) : s.noteContact.record = s.record := by
  simp [record]

@[simp] theorem record_awaitNetwork (s : Station) : s.awaitNetwork.record = s.record :=
  record_enter _ _ _

@[simp] theorem record_awaitService (s : Station) (state : MainState) :
    (s.awaitService state).record = s.record :=
  record_enter _ _ _

@[simp] theorem record_settle (s : Station) : s.settle.record = s.record := by
  unfold settle
  split <;> simp

/-! ## Connections -/

theorem record_requestService (s : Station) (p : CmPrimitive) (route : Route)
    {next : Station → Station} (hnext : ∀ u : Station, (next u).record = u.record) :
    (s.requestService p route next).station.record = s.record := by
  simp only [requestService]
  split
  · rfl
  · split
    · rfl
    · split
      · rfl
      · rfl
      · rw [station_done, hnext]
        rfl

/-- Primitives from above leave the record alone. -/
theorem record_cmProcedure (s : Station) (p : CmPrimitive) (procedure : CmProcedure) :
    (procedure.run s p).station.record = s.record := by
  cases procedure with
  | requestFromIdle => exact s.record_requestService p _ fun u => u.record_enter _ _
  | requestFirst => exact s.record_requestService p _ fun u => u.record_awaitService _
  | requestAdditional => exact s.record_requestService p _ fun u => u.record_awaitService _
  | refuseBusy => rfl
  | forwardData =>
    simp only [CmProcedure.run, forwardData]
    split <;> rfl
  | releaseActive => exact record_settle _
  | releaseWaiting => rfl
  | releaseRequested =>
    simp only [CmProcedure.run, releaseRequested]
    split
    · simp only [withdrawRequest, record_sendMessage, record_awaitNetwork]
      rfl
    · rfl

theorem record_confirmService (s : Station) : s.confirmService.station.record = s.record := by
  simp only [confirmService, station_done]
  unfold confirmPending
  split
  · exact record_enter _ _ _
  · exact record_enter _ _ _

theorem record_joinLink (s : Station) : s.joinLink.record = s.record := by
  unfold joinLink
  split
  · exact record_enter _ _ _
  · rfl

theorem record_receiveCm (s : Station) (protocol : CmProtocol) (header : Header) (data : Octets) :
    (s.receiveCm protocol header data).station.record = s.record := by
  simp only [receiveCm]
  split
  · exact record_joinLink _
  · split
    · rfl
    · exact record_joinLink _

/-! ## Location updates -/

theorem record_tryUpdate (s : Station) : s.tryUpdate.station.record = s.record := by
  unfold tryUpdate requestUpdate
  split
  · rfl
  · split
    · split
      · rfl
      · exact record_enter _ _ _
    · rfl

theorem record_startUpdate (s : Station) (kind : UpdateKind) :
    (s.startUpdate kind).station.record = s.record := by
  simp only [startUpdate]
  split
  · rfl
  · exact record_tryUpdate _

theorem record_selectCell (s : Station) : s.selectCell.station.record = s.record := by
  rcases s.selectCell_cases with hcase | hcase <;> rw [hcase]
  · exact (record_startUpdate _ _).trans s.record_returnIdle
  · exact s.record_returnIdle

theorem record_retryLater (s : Station) : s.retryLater.record = s.record := by
  unfold retryLater
  split <;> rfl

/-- A failed location update leaves the registration, or forgets it. -/
theorem record_failUpdate (s : Station) :
    s.failUpdate.station.record = s.record ∨
      s.failUpdate.station.record = (s.deregister .notUpdated).record := by
  have hlater (t : Station) : t.retryLater.returnIdle.record = t.record := by
    rw [record_returnIdle, record_retryLater]
  have hcounted : (s.stopTimer .t3210).countAttempt.record = s.record := by
    unfold countAttempt
    split <;> rfl
  simp only [failUpdate, station_done, hlater]
  split
  · exact .inl hcounted
  · refine .inr ?_
    simp only [record, Record.mk.injEq] at hcounted ⊢
    simp only [deregister, hcounted, and_self]

/-- What a failed location update leaves of a station that differs in no record. -/
theorem writes_failUpdate {s t : Station} (h : t.record = s.record) (i : Input) :
    s.Writes i t.failUpdate.station.record := by
  have hforgotten : (t.deregister .notUpdated).record = (s.deregister .notUpdated).record := by
    simp only [record, Record.mk.injEq] at h ⊢
    simp only [deregister, h, and_self]
  rcases t.record_failUpdate with hkept | hforgot
  · rw [hkept, h]
    exact .keep i
  · rw [hforgot, hforgotten]
    exact .forget i .notUpdated (by decide)

theorem writes_loseUpdateLink (s : Station) (p q : RrPrimitive) :
    s.Writes (.rr q) (s.loseUpdateLink p).station.record := by
  simp only [loseUpdateLink]
  split
  · exact .of_eq (record_returnIdle _)
  · exact writes_failUpdate (by rfl) _

theorem writes_timeoutUpdate (s : Station) (i : Input) :
    s.Writes i s.timeoutUpdate.station.record := by
  unfold timeoutUpdate
  split
  · exact writes_failUpdate (by rfl) i
  · exact .keep i

/-- The loss of the link after a reject that is not final is a failed attempt. -/
theorem writes_completeReject {s : Station} (hstate : s.machine.state = .locationUpdatingReject)
    {p : RrPrimitive} (hloss : p.type = .releaseIndication ∨ p.type = .abortIndication) :
    s.Writes (.rr p) s.completeReject.station.record := by
  simp only [completeReject]
  split
  · next hfinal =>
    rw [station_done, record_returnIdle]
    exact .reject p hloss hstate hfinal
  · exact writes_failUpdate (by rfl) _

theorem cell_rejectIdentity (s : Station) (cause : RejectCause) :
    (s.rejectIdentity cause).cell = s.cell := by
  unfold rejectIdentity
  split <;> rfl

/-- The record of the subscriber behind a final reject. A reject of the network forbids it. -/
theorem subscriber_rejectFinally (s : Station) (cause : RejectCause) :
    ∃ u : Subscriber, u.status = .roamingNotAllowed ∧ u.laiValid = false ∧ u.tmsiValid = false ∧
      u.keySequence = noKey ∧ u.attached = s.subscriber.attached ∧
      u.forbidden = s.subscriber.forbidden ∧
      (s.rejectFinally cause).subscriber =
        if cause = .plmnNotAllowed then u.forbid s.cell.lai.plmn else u := by
  -- All that the final causes have in common; only the network may be forbidden on top of it.
  refine ⟨((s.rejectIdentity cause).deregister .roamingNotAllowed).subscriber, rfl, rfl, rfl, rfl,
    ?_, ?_, ?_⟩
  · unfold rejectIdentity
    split <;> rfl
  · unfold rejectIdentity
    split <;> rfl
  · unfold rejectFinally forbidRejected
    split
    · simp [deregister, send, cell_rejectIdentity]
    · split <;> rfl

/-- The record of the cell behind a final reject. A reject of the area forbids it. -/
theorem cell_rejectFinally (s : Station) (cause : RejectCause) :
    (s.rejectFinally cause).cell =
      if cause = .locationAreaNotAllowed then s.cell.forbid s.cell.lai else s.cell := by
  unfold rejectFinally forbidRejected
  split
  · next hnetwork =>
    rw [if_neg (by rw [hnetwork]; decide)]
    exact s.cell_rejectIdentity cause
  · split <;> simp [deregister, send, cell_rejectIdentity]

/-- What a final reject leaves does not depend on anything but the record. -/
theorem record_rejectFinally {s t : Station} (h : t.record = s.record) (cause : RejectCause) :
    (t.rejectFinally cause).record = (s.rejectFinally cause).record := by
  have hidentity : (t.rejectIdentity cause).record = (s.rejectIdentity cause).record := by
    obtain ⟨hsubscriber, hcell, hcause⟩ := Record.mk.inj h
    unfold rejectIdentity
    split
    · simp only [record, hsubscriber, hcell, hcause]
    · exact h
  obtain ⟨hsubscriber, hcell, hcause⟩ := Record.mk.inj hidentity
  unfold rejectFinally forbidRejected
  split
  · simp only [record, deregister, send, hsubscriber, hcell, hcause]
  · split <;> simp only [record, deregister, send, hsubscriber, hcell, hcause]

theorem record_applySystemInformation (s : Station) (info : SystemInformation) (chance : Nat) :
    (s.applySystemInformation info chance).record =
      ⟨{ s.subscriber with attachAllowed := info.attachAllowed },
        s.cell.applySystemInformation info, s.update.rejectCause⟩ := by
  simp only [applySystemInformation, changePeriodicInterval]
  split
  · split
    · split <;> rfl
    · rfl
  · split <;> rfl

/-! ## Detach -/

theorem writes_endDetach (s : Station) (i : Input) : s.Writes i s.endDetach.station.record := by
  simp only [endDetach, station_done, record_returnIdle]
  exact .detach i

theorem writes_startDetach (s : Station) (i : Input) :
    s.Writes i s.startDetach.station.record := by
  unfold startDetach
  split
  · split
    · exact .keep i
    · exact .of_eq (record_enter _ _ _)
  · exact s.writes_endDetach i

theorem record_awaitDetach (s : Station) : s.awaitDetach.record = s.record := record_enter _ _ _

theorem record_detachOverLink (s : Station) : s.detachOverLink.station.record = s.record := by
  simp only [detachOverLink]
  split
  · unfold Outcome.andThen
    split
    · rw [station_done, record_awaitDetach, record_sendMessage]
      rfl
    · rw [record_sendMessage]
      rfl
  · exact record_awaitNetwork _

/-! ## Messages -/

theorem record_receiveServiceReject (s : Station) (body : Octets) :
    (s.receiveServiceReject body).station.record = s.record ∨
      (s.receiveServiceReject body).station.record = (s.deregister .notUpdated).record ∨
      (s.receiveServiceReject body).station.record =
        ({ s with subscriber.simValid := false }.deregister .notUpdated).record := by
  simp only [receiveServiceReject]
  -- The cause is unreadable, one that ends the registration, with or without the SIM, or one that
  -- only ends the service.
  split
  · exact .inl rfl
  · split
    · simp only [station_done, record_settle, record_releaseConnections]
      split
      · exact .inr (.inr rfl)
      · exact .inr (.inl rfl)
    · simp only [station_done, record_settle, record_releaseConnections]
      exact .inl rfl

theorem record_receiveAbort (s : Station) (body : Octets) :
    (s.receiveAbort body).station.record = s.record ∨
      (s.receiveAbort body).station.record =
        ({ s with subscriber.simValid := false }.deregister .roamingNotAllowed).record := by
  simp only [receiveAbort]
  split
  · exact .inl rfl
  · split
    · exact .inl (record_sendMessage _ _)
    · split
      · exact .inr (record_returnIdle _)
      · exact .inl rfl

theorem record_receiveAuthenticationReject (s : Station) :
    s.receiveAuthenticationReject.station.record =
      ({ s with subscriber.simValid := false }.deregister .roamingNotAllowed).record := by
  simp only [receiveAuthenticationReject]
  split
  · exact record_returnIdle _
  · rfl

theorem keySequence_le {body : Octets} {request : AuthenticationRequest}
    (h : AuthenticationRequest.decode body = .ok request) : request.keySequence ≤ 7 := by
  unfold AuthenticationRequest.decode at h
  split at h
  · cases h
  · next o rest =>
    split at h
    · rw [← Except.ok.inj h, UInt8.le_iff_toNat_le]
      simp only [UInt8.toNat_ofNat']
      have hmasked : o.toNat % 8 < 8 := Nat.mod_lt _ (by decide)
      change o.toNat % 8 % 256 ≤ 7
      omega
    · cases h

/-- What the identity in an accept does to the record does not depend on anything else. -/
theorem record_applyAcceptedIdentity {s t : Station} (h : t.record = s.record)
    (identity : Option MobileIdentity) :
    (t.applyAcceptedIdentity identity).station.record =
      (s.applyAcceptedIdentity identity).station.record := by
  obtain ⟨hsubscriber, hcell, hcause⟩ := Record.mk.inj h
  unfold applyAcceptedIdentity
  split
  · rw [record_sendMessage, record_sendMessage]
    simp only [assignTmsi, record, hsubscriber, hcell, hcause]
  · rw [record_sendMessage, record_sendMessage]
    simp only [removeTmsi, record, hsubscriber, hcell, hcause]
  · exact h

/-- What an accept leaves, once it was read. -/
theorem record_receiveUpdateAccept {s : Station} {body : Octets} {accept : LocationUpdatingAccept}
    (h : LocationUpdatingAccept.decode body = .ok accept) :
    (s.receiveUpdateAccept body).station.record =
      ((s.registerIn accept.lai).applyAcceptedIdentity accept.identity).station.record := by
  simp only [receiveUpdateAccept, h]
  unfold Outcome.andThen
  split
  · rw [station_done, record_awaitNetwork, record_send, record_send]
    exact record_applyAcceptedIdentity (by rfl) _
  · exact record_applyAcceptedIdentity (by rfl) _

/-- An accepted location update leaves a stored area, and lifts the ban of that area. -/
theorem record_accepted (s : Station) (lai : Lai) (identity : Option MobileIdentity) :
    let r := ((s.registerIn lai).applyAcceptedIdentity identity).station.record
    r.subscriber.laiValid = true ∧ r.subscriber.keySequence = s.subscriber.keySequence ∧
      r.subscriber.forbidden = s.subscriber.forbidden ∧ r.cell = s.cell.allow lai := by
  unfold applyAcceptedIdentity
  split
  · rw [record_sendMessage]
    exact ⟨rfl, rfl, rfl, rfl⟩
  · rw [record_sendMessage]
    exact ⟨rfl, rfl, rfl, rfl⟩
  · exact ⟨rfl, rfl, rfl, rfl⟩

theorem writes_receiveTmsiReallocation (s : Station) (body : Octets) (i : Input) :
    s.Writes i (s.receiveTmsiReallocation body).station.record := by
  unfold receiveTmsiReallocation
  split
  · exact .of_eq (record_sendMessage _ _)
  · exact .keep i
  · rw [record_sendMessage]
    exact .assign i _ _
  · rw [record_sendMessage]
    exact .unassign i _
  · exact .of_eq (record_sendMessage _ _)

theorem writes_receiveAuthenticationRequest (s : Station) (body : Octets) (i : Input) :
    s.Writes i (s.receiveAuthenticationRequest body).station.record := by
  unfold receiveAuthenticationRequest
  split
  · exact .keep i
  · next request hdecode =>
    split
    · exact .key i _ (keySequence_le hdecode)
    · exact .of_eq (record_sendMessage _ _)

theorem record_receiveIdentityRequest (s : Station) (body : Octets) :
    (s.receiveIdentityRequest body).station.record = s.record := by
  simp only [receiveIdentityRequest, sendStatus]
  split
  · rfl
  · split
    · exact record_sendMessage _ _
    · split <;> exact record_sendMessage _ _

/-- A procedure for a message leaves one of the listed records. -/
theorem writes_messageProcedure {s : Station} {i : Input} {data body : Octets}
    {type : MessageType} {procedure : MessageProcedure} (hnetwork : i.network? = some data)
    (hread : Received.read data = .mobility type body)
    (hprocedure : s.machine.messageProcedure type = .ok procedure) :
    s.Writes i (procedure.run s body).station.record := by
  -- Each procedure leaves the record alone or writes it in its own way, and that may depend on the
  -- cause that the message gives.
  cases procedure with
  | receiveTmsiReallocation => exact s.writes_receiveTmsiReallocation body i
  | receiveAuthenticationRequest => exact s.writes_receiveAuthenticationRequest body i
  | receiveAuthenticationReject =>
    exact s.record_receiveAuthenticationReject ▸ .forgetSim i _ (by decide)
  | receiveIdentityRequest => exact .of_eq (s.record_receiveIdentityRequest body)
  | receiveAbort =>
    rcases s.record_receiveAbort body with h | h
    · exact .of_eq h
    · exact h ▸ .forgetSim i _ (by decide)
  | receiveInformation =>
    simp only [MessageProcedure.run, receiveInformation]
    split <;> exact .keep i
  | receiveUpdateAccept =>
    have hstate := state_mem_of_messageProcedure hprocedure
    rw [type_of_messageProcedure hprocedure] at hread
    cases hdecode : LocationUpdatingAccept.decode body with
    | error e =>
      simp only [MessageProcedure.run, receiveUpdateAccept, hdecode]
      exact .keep i
    | ok accept =>
      simp only [MessageProcedure.run, record_receiveUpdateAccept hdecode]
      exact .accept i data body accept (List.mem_singleton.mp hstate) hnetwork hread hdecode
  | receiveUpdateReject =>
    have hstate := state_mem_of_messageProcedure hprocedure
    rw [type_of_messageProcedure hprocedure] at hread
    simp only [MessageProcedure.run, receiveUpdateReject]
    split
    · exact .keep i
    · next cause hdecode =>
      rw [station_done, record_enter]
      exact .refuse i data body cause (List.mem_singleton.mp hstate) hnetwork hread hdecode
  | receiveServiceAccept =>
    simp only [MessageProcedure.run, receiveServiceAccept]
    split
    · exact .of_eq s.record_confirmService
    · exact .keep i
  | receiveServiceReject =>
    rcases s.record_receiveServiceReject body with h | h | h
    · exact .of_eq h
    · exact h ▸ .forget i _ (by decide)
    · exact h ▸ .forgetSim i _ (by decide)
  | receiveStatus =>
    simp only [MessageProcedure.run, receiveStatus]
    split <;> exact .keep i

/-- What an input can leave does not depend on the timers and the queues. -/
theorem Writes.of_frame {s : Station} {i : Input} {r : Record} (timers : TimerSet)
    (queues : Queues) (h : { s with timers := timers, queues := queues }.Writes i r) :
    s.Writes i r := by
  -- No write looks at the timers or the queues.
  cases h with
  | keep => exact .keep i
  | accept _ data body accept hstate hnetwork hread hdecode =>
    rw [record_applyAcceptedIdentity (s := s.registerIn accept.lai) (by rfl)]
    exact .accept i data body accept hstate hnetwork hread hdecode
  | refuse _ data body cause hstate hnetwork hread hdecode =>
    exact .refuse i data body cause hstate hnetwork hread hdecode
  | assign _ lai tmsi => exact .assign i lai tmsi
  | unassign _ lai => exact .unassign i lai
  | key _ sequence hle => exact .key i sequence hle
  | forget _ status hne => exact .forget i status hne
  | forgetSim _ status hne => exact .forgetSim i status hne
  | detach => exact .detach i
  | reject p hloss hstate hfinal =>
    rw [record_rejectFinally (s := s) (by rfl)]
    exact .reject p hloss hstate hfinal
  | inform info chance => exact .inform info chance

/-! ## Inputs -/

theorem writes_receiveMessage {s : Station} {i : Input} {data : Octets}
    (hnetwork : i.network? = some data) : s.Writes i (s.receiveMessage data).station.record := by
  rw [receiveMessage_eq]
  cases hread : Received.read data with
  | broken e => exact .keep i
  | skipped => exact .keep i
  | unknown => exact .of_eq (s.record_sendMessage _)
  | connection protocol header => exact .of_eq (s.record_receiveCm protocol header data)
  | mobility type body =>
    dsimp only
    cases hprocedure : s.machine.messageProcedure type with
    | error cause =>
      refine .of_eq ?_
      exact (record_sendMessage _ _).trans s.record_noteContact
    | ok procedure =>
      -- Noting the contact comes before the procedure, and is not seen by the record.
      have hcontact : s.noteContact.machine.messageProcedure type = .ok procedure := by
        rwa [(s.noteContact_frame).1]
      have hwrites : s.noteContact.Writes i (procedure.run s.noteContact body).station.record :=
        writes_messageProcedure hnetwork hread hcontact
      rw [s.noteContact_eq] at hwrites ⊢
      exact hwrites.of_frame s.noteContact.timers s.queues

/-- A procedure for a primitive from below leaves one of the listed records. -/
theorem writes_rrProcedure {s : Station} {p : RrPrimitive} {procedure : RrProcedure}
    (hprocedure : s.machine.rrProcedure? p = some procedure) :
    s.Writes (.rr p) (procedure.run s p).station.record := by
  have hstate := state_mem_of_rrProcedure? hprocedure
  cases procedure with
  | acceptLink => exact .of_eq (s.record_enter _ _)
  | detachSent => exact .of_eq s.record_awaitDetach
  | endDetach => exact s.writes_endDetach _
  | beginUpdate => exact .of_eq (record_enter _ _ _)
  | loseUpdateLink => exact s.writes_loseUpdateLink p p
  | completeReject =>
    have hreject : s.machine.state = .locationUpdatingReject := List.mem_singleton.mp hstate
    rw [rrProcedure?_eq, hreject] at hprocedure
    refine writes_completeReject hreject ?_
    -- The end of the wait for a release is told in two ways.
    cases htype : p.type <;> simp_all
  | beginService =>
    simp only [RrProcedure.run, beginService]
    split
    · exact .of_eq ((record_sendMessage _ _).trans s.record_awaitNetwork)
    · exact .of_eq (s.record_awaitService _)
  | receiveMessage =>
    have htype := rrProcedure?_eq_receiveMessage_iff.mp hprocedure
    exact writes_receiveMessage (by simp [Input.network?, htype])
  | confirmService => exact .of_eq s.record_confirmService
  | indicateSync => exact .keep _
  | loseConnections => exact .of_eq (record_returnIdle _)
  | loseLink => exact .of_eq (record_returnIdle _)

/-- A procedure for an event leaves one of the listed records. -/
theorem writes_eventProcedure (s : Station) (e : Event) (procedure : EventProcedure) :
    s.Writes (.event e) (procedure.run s e).station.record := by
  cases procedure with
  | normalUpdate => exact .of_eq (s.record_startUpdate _)
  | periodicUpdate => exact .of_eq (s.record_startUpdate _)
  | tryUpdate => exact .of_eq s.record_tryUpdate
  | timeoutUpdate => exact s.writes_timeoutUpdate _
  | selectCell => exact .of_eq s.record_selectCell
  | startDetach => exact s.writes_startDetach _
  | endDetach => exact s.writes_endDetach _
  | detachOverLink => exact .of_eq s.record_detachOverLink
  | delayDetach => exact .keep _
  | applySystemInformation =>
    cases e with
    | systemInformation info chance =>
      exact (s.record_applySystemInformation info chance) ▸ .inform info chance
    | _ => exact .keep _
  | abortLink => exact .of_eq (record_returnIdle _)
  | timeoutService => exact .of_eq (record_settle _)
  | answerAuthentication =>
    cases e with
    | authenticationResponse sres => exact .of_eq (s.record_sendMessage _)
    | _ => exact .keep _
  | nothing => exact .keep _

/-- Handling an input leaves one of the listed records. -/
theorem handle_writes (s : Station) (i : Input) : s.Writes i (s.handle i).station.record := by
  -- Protocols cannot write anything; the network and the events do.
  cases i with
  | cm p =>
    simp only [handle, handleCm]
    split
    · exact .of_eq (record_cmProcedure (s.updateTransaction p) p _)
    · exact .keep _
  | registration p => cases p <;> exact .keep _
  | rr p =>
    simp only [handle, handleRr]
    split
    · next procedure hprocedure => exact writes_rrProcedure hprocedure
    · exact .keep _
  | message data => exact writes_receiveMessage rfl
  | event e =>
    simp only [handle, handleEvent]
    split
    · exact s.writes_eventProcedure e _
    · exact .keep _

/-- An action that handles an input leaves one of the records that the input can leave. -/
theorem writes_of_handled {s t : Station} {a : Action} {i : Input}
    (h : a.handled? s = some (t, i)) : s.Writes i (s.perform a).record := by
  have hwrites := t.handle_writes i
  rw [perform_of_handled h]
  rw [queues_of_handled h] at hwrites ⊢
  exact hwrites.of_frame s.timers t.queues

/-! ## Other actions -/

theorem record_expire (s : Station) (timer : TimerName) : (s.expire timer).record = s.record := by
  simp only [expire]
  split <;> rfl

theorem record_tick (s : Station) (now : Nat) : (s.tick now).record = s.record :=
  foldl_expire_of_expire record_expire _ _

/-- An action that handles nothing leaves the record alone, unless it writes it. -/
theorem record_of_not_handled {s : Station} {a : Action} (h : a.handled? s = none)
    (hcell : ∀ c, a ≠ .cell c) (hsubscriber : ∀ u, a ≠ .subscriber u) :
    (s.perform a).record = s.record := by
  cases a with
  | handle input => cases h
  | queue input => cases input <;> rfl
  | serve =>
    rw [perform_serve_of_not_handled h]
  | tick now => exact s.record_tick now
  | cell c => exact absurd rfl (hcell c)
  | subscriber u => exact absurd rfl (hsubscriber u)
  | _ => rfl

end Station

end MobileStation
