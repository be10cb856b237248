import MobileStation.Proofs.Connections.Change

/-!
# What the procedures do to the connections

One lemma for each procedure tells which change of the connections it makes. Most make none; the
others confirm, release, open, request or drop connections. The four ways of handling an input
collect them.

Main statement: `handle_follows` (every input brings one of the changes that are allowed for it).
-/

namespace MobileStation

namespace Station

/-! ## Local updates -/

/-- No connection is being established, or none is pending. -/
def Settled (s : Station) : Prop :=
  s.machine.state.establishes = true → s.connections.pendingCount = 0

theorem Settled.of_state {s : Station} (h : s.machine.state.establishes = false) : s.Settled :=
  fun hstate => absurd hstate (by simp [h])

theorem Settled.of_count {s : Station} (h : s.connections.pendingCount = 0) : s.Settled :=
  fun _ => h

theorem Settled.of_eq {s t : Station} (h : s.Settled)
    (hstate : t.machine.state = s.machine.state) (htable : t.connections = s.connections) :
    t.Settled :=
  fun ht => htable ▸ h (hstate ▸ ht)

theorem Settled.count_eq_zero {s : Station} (h : s.Settled) (hs : s.PendingSupervised) :
    s.connections.pendingCount = 0 := by
  by_contra hpending
  exact hpending (h (hs hpending))

/-- A step out of a settled state that leaves the connections alone and tells nothing. -/
theorem Settled.quiet {s t : Station} (h : s.Settled) (sent : List Output)
    (htable : t.connections = s.connections) (houtbox : t.outbox = s.outbox ++ sent)
    (hquiet : notices sent = []) : Quiet s t := by
  refine ⟨htable, ⟨sent, houtbox, hquiet⟩, ?_⟩
  intro hs
  have hcount : s.connections.pendingCount = 0 := h.count_eq_zero hs
  exact .of_count_eq_zero (htable ▸ hcount)

theorem quiet_send (s : Station) {o : Output} (h : notices [o] = []) : Quiet s (s.send o) :=
  ⟨rfl, ⟨[o], rfl, h⟩, id⟩

theorem quiet_sendRr (s : Station) (p : RrPrimitive) : Quiet s (s.sendRr p) := s.quiet_send rfl

theorem quiet_sendMessage (s : Station) (m : Message) : Quiet s (s.sendMessage m).station := by
  unfold sendMessage
  split
  · exact s.quiet_sendRr _
  · exact .refl s

theorem quiet_sendStatus (s : Station) (cause : RejectCause) :
    Quiet s (s.sendStatus cause).station :=
  s.quiet_sendMessage _

theorem Settled.quiet_enter {s : Station} (h : s.Settled) (state : MainState)
    (substate : Option IdleSubstate) : Quiet s (s.enter state substate) :=
  h.quiet [] (by simp) (by simp) rfl

/-- Entering a state of establishment supervises whatever is pending. -/
theorem quiet_enter_establishing (s : Station) {state : MainState}
    (h : state.establishes = true) (substate : Option IdleSubstate) :
    Quiet s (s.enter state substate) :=
  ⟨by simp, ⟨[], by simp, rfl⟩, fun _ _ => by simpa using h⟩

theorem Settled.quiet_returnIdle {s : Station} (h : s.Settled) : Quiet s s.returnIdle :=
  h.quiet [] (by simp) (by simp) rfl

theorem Settled.quiet_awaitNetwork {s : Station} (h : s.Settled) : Quiet s s.awaitNetwork :=
  h.quiet [] (by simp [awaitNetwork, startReleaseTimer, startTimer])
    (by simp [awaitNetwork, startReleaseTimer, startTimer]) rfl

/-- Connections are released, and with them every pending one. -/
theorem proceeds_release (s : Station) (filter : ConnectionTable.ReleaseFilter) (cause : UInt8)
    (isError : Bool) : Proceeds s (s.releaseConnections filter cause isError) := by
  refine ⟨.release filter cause isError, _, ⟨rfl, rfl, notices_release .., ?_⟩, .release ..⟩
  intro _ _
  exact .of_count_eq_zero (ConnectionTable.pendingCount_release ..)

theorem settled_release (s : Station) (filter : ConnectionTable.ReleaseFilter) (cause : UInt8)
    (isError : Bool) : (s.releaseConnections filter cause isError).Settled :=
  .of_count (ConnectionTable.pendingCount_release ..)

/-! ## Location updates -/

theorem Settled.quiet_requestUpdate {s : Station} (h : s.Settled) :
    Quiet s s.requestUpdate.station := by
  unfold requestUpdate
  split
  · exact .refl s
  · exact (h.quiet_enter _ _).trans (quiet_sendRr _ _)

theorem Settled.quiet_tryUpdate {s : Station} (h : s.Settled) : Quiet s s.tryUpdate.station := by
  unfold tryUpdate
  split
  · exact .refl s
  · split
    · exact h.quiet_requestUpdate
    · exact .of_frame rfl rfl rfl

theorem Settled.quiet_startUpdate {s : Station} (h : s.Settled) (kind : UpdateKind) :
    Quiet s (s.startUpdate kind).station := by
  simp only [startUpdate]
  split
  · exact .refl s
  · exact Quiet.after (Settled.quiet_tryUpdate (h.of_eq rfl rfl)) rfl rfl rfl

theorem Settled.quiet_normalUpdate {s : Station} (h : s.Settled) :
    Quiet s s.normalUpdate.station :=
  h.quiet_startUpdate _

theorem Settled.quiet_selectCell {s : Station} (h : s.Settled) :
    Quiet s s.selectCell.station := by
  have hidle : Quiet s s.returnIdle := h.quiet_returnIdle
  have hupdate : Quiet s s.returnIdle.normalUpdate.station :=
    hidle.trans (Settled.of_state (by simp [MainState.establishes])).quiet_normalUpdate
  simp only [selectCell]
  split
  · exact hupdate
  · exact hupdate
  · split
    · exact hupdate
    · exact hidle
  · exact hidle

theorem Settled.quiet_beginUpdate {s : Station} (h : s.Settled) :
    Quiet s s.beginUpdate.station :=
  h.quiet [] (by simp [beginUpdate, startTimer]) (by simp [beginUpdate, startTimer]) rfl

theorem Settled.quiet_failUpdate {s : Station} (h : s.Settled) : Quiet s s.failUpdate.station :=
  h.quiet [] (by simp) (by simp) rfl

theorem Settled.quiet_loseUpdateLink {s : Station} (h : s.Settled) (p : RrPrimitive) :
    Quiet s (s.loseUpdateLink p).station := by
  simp only [loseUpdateLink]
  split
  · exact h.quiet [] (by simp [startTimer]) (by simp [startTimer]) rfl
  · exact h.quiet [] (by simp) (by simp) rfl

theorem quiet_timeoutUpdate (s : Station) : Quiet s s.timeoutUpdate.station := by
  unfold timeoutUpdate
  split
  · -- The supervision of the update runs only in a state that establishes nothing.
    next hrunning =>
    have h : s.Settled := .of_state (by simp [hrunning.2, MainState.establishes])
    exact (s.quiet_sendRr _).trans (Settled.quiet_failUpdate h)
  · exact .refl s

theorem quiet_applyAcceptedIdentity (s : Station) (identity : Option MobileIdentity) :
    Quiet s (s.applyAcceptedIdentity identity).station := by
  unfold applyAcceptedIdentity
  split
  · exact (quiet_sendMessage _ _).after rfl rfl rfl
  · exact (quiet_sendMessage _ _).after rfl rfl rfl
  · exact .refl s

theorem Settled.quiet_receiveUpdateAccept {s : Station} (h : s.Settled) (body : Octets) :
    Quiet s (s.receiveUpdateAccept body).station := by
  simp only [receiveUpdateAccept]
  split
  · exact .refl s
  · -- The new identity is answered first; only then does the station report the registration.
    refine Quiet.andThen ?_ ?_
    · exact (quiet_applyAcceptedIdentity _ _).after rfl rfl rfl
    · refine ((quiet_send _ rfl).trans (quiet_send _ rfl)).trans (Settled.quiet_awaitNetwork ?_)
      exact h.of_eq (by simp [send, registerIn, stopTimer]) (by simp [send, registerIn, stopTimer])

theorem Settled.quiet_receiveUpdateReject {s : Station} (h : s.Settled) (body : Octets) :
    Quiet s (s.receiveUpdateReject body).station := by
  simp only [receiveUpdateReject]
  split
  · exact .refl s
  · exact h.quiet [] (by simp [startReleaseTimer, startTimer, stopTimer])
      (by simp [startReleaseTimer, startTimer, stopTimer]) rfl

theorem Settled.quiet_completeReject {s : Station} (h : s.Settled) :
    Quiet s s.completeReject.station := by
  simp only [completeReject]
  split
  · exact h.quiet [.plmnSearch (rejectEvent s.update.rejectCause)]
      (by simp [send, deregister]) (by simp [send, deregister]) rfl
  · exact h.quiet [.plmnSearch (rejectEvent s.update.rejectCause)]
      (by simp [send]) (by simp [send]) rfl

/-! ## Common procedures -/

theorem quiet_receiveTmsiReallocation (s : Station) (body : Octets) :
    Quiet s (s.receiveTmsiReallocation body).station := by
  unfold receiveTmsiReallocation
  split
  · exact s.quiet_sendStatus _
  · exact .refl s
  · exact (quiet_sendMessage _ _).after rfl rfl rfl
  · exact (quiet_sendMessage _ _).after rfl rfl rfl
  · exact s.quiet_sendStatus _

theorem quiet_receiveAuthenticationRequest (s : Station) (body : Octets) :
    Quiet s (s.receiveAuthenticationRequest body).station := by
  unfold receiveAuthenticationRequest
  split
  · exact .refl s
  · split
    · exact (quiet_send _ rfl).after rfl rfl rfl
    · exact s.quiet_sendStatus _

theorem quiet_receiveAuthenticationReject (s : Station) :
    Quiet s s.receiveAuthenticationReject.station := by
  simp only [receiveAuthenticationReject]
  split
  · next hdetach =>
    have hstate : s.machine.state = .imsiDetachInitiated := hdetach
    have h : s.Settled := .of_state (by rw [hstate]; rfl)
    exact h.quiet [.rr (.abort RrCause.normalAbort)]
      (by simp [sendRr, send, deregister, stopTimer])
      (by simp [sendRr, send, deregister, stopTimer]) rfl
  · exact .of_frame rfl rfl rfl

theorem quiet_receiveIdentityRequest (s : Station) (body : Octets) :
    Quiet s (s.receiveIdentityRequest body).station := by
  simp only [receiveIdentityRequest]
  split
  · exact .refl s
  · split
    · exact s.quiet_sendStatus _
    · split
      · exact s.quiet_sendStatus _
      · exact s.quiet_sendMessage _

theorem proceeds_receiveAbort (s : Station) (body : Octets) :
    Proceeds s (s.receiveAbort body).station := by
  simp only [receiveAbort]
  split
  · exact (Quiet.refl s).proceeds
  · split
    · exact (s.quiet_sendStatus _).proceeds
    · have hrelease : Proceeds s ((s.stopTimer .t3230).releaseConnections .all
          CmCause.normalRelease false) :=
        (proceeds_release ..).after rfl rfl rfl
      split
      · refine hrelease.then (Quiet.after (Settled.quiet_returnIdle ?_) rfl rfl rfl)
        exact .of_count (s.connections.pendingCount_release .all)
      · exact hrelease

theorem quiet_receiveInformation (s : Station) (body : Octets) :
    Quiet s (s.receiveInformation body).station := by
  unfold receiveInformation
  split
  · exact .refl s
  · exact .of_frame rfl rfl rfl

theorem quiet_receiveStatus (s : Station) (body : Octets) :
    Quiet s (s.receiveStatus body).station := by
  unfold receiveStatus
  split <;> exact .refl s

/-! ## Detach -/

theorem Settled.quiet_endDetach {s : Station} (h : s.Settled) : Quiet s s.endDetach.station := by
  refine h.quiet
    [.plmnSearch .simRemoved, .cellSelection .simRemoved, .registration .deregisterIndication]
    ?_ ?_ rfl
  · simp [endDetach, send, stopTimer]
  · simp [endDetach, send, stopTimer]

theorem Settled.quiet_startDetach {s : Station} (h : s.Settled) :
    Quiet s s.startDetach.station := by
  unfold startDetach
  split
  · split
    · exact .refl s
    · exact (h.quiet_enter _ _).trans (quiet_sendRr _ _)
  · exact h.quiet_endDetach

theorem Settled.quiet_awaitDetach {s : Station} (h : s.Settled) : Quiet s s.awaitDetach :=
  h.quiet [] (by simp [awaitDetach, startTimer]) (by simp [awaitDetach, startTimer]) rfl

theorem proceeds_detachOverLink (s : Station) : Proceeds s s.detachOverLink.station := by
  simp only [detachOverLink]
  have hrelease : Proceeds s ((s.stopTimer .t3230).releaseConnections .all
      CmCause.normalRelease false) :=
    (proceeds_release ..).after rfl rfl rfl
  have hsettled := (s.stopTimer .t3230).settled_release .all CmCause.normalRelease false
  split
  · refine hrelease.then (Quiet.andThen (quiet_sendMessage _ _) (Settled.quiet_awaitDetach ?_))
    exact hsettled.of_eq (by simp) (by simp)
  · exact hrelease.then hsettled.quiet_awaitNetwork

theorem quiet_delayDetach (s : Station) : Quiet s s.delayDetach.station := .of_frame rfl rfl rfl

/-! ## Requests and releases from above -/

theorem quiet_sendCm (s : Station) {p : CmPrimitive} (h : p.type.isNotice = false) :
    Quiet s (s.sendCm p) :=
  s.quiet_send (by simp [notices, Output.cm?, h])

/-- A refusal after updates of other fields leaves the connections alone. -/
theorem answers_refuse {s t : Station} (hstate : t.machine.state = s.machine.state)
    (htable : t.connections = s.connections) (houtbox : t.outbox = s.outbox) (p : CmPrimitive)
    (cause : UInt8) : Answers s p (t.refuse p cause) := by
  refine ⟨.refuse p cause, [.cm (p.refusal cause)], ⟨htable, ?_, rfl, ?_⟩, .refuse cause⟩
  · exact congrArg (· ++ _) houtbox
  · intro _ hs
    exact (Quiet.of_frame hstate htable houtbox).supervised hs

/-- A request is refused while another connection is pending. -/
theorem count_eq_zero_of_refusal? {s : Station} {p : CmPrimitive} (h : s.refusal? p = none) :
    s.connections.pendingCount = 0 := by
  unfold refusal? at h
  split at h
  · cases h
  · next hpending =>
    rw [ConnectionTable.pendingCount_eq_zero_iff]
    simpa using hpending

/-- A service request that is not refused is sent, and its connection waits for the answer. -/
theorem answers_requestService (s : Station) {p : CmPrimitive} (htype : p.type = .establishRequest)
    (route : Route) {next : Station → Station}
    (hnext : ∀ u, (next u).connections = u.connections ∧ (next u).outbox = u.outbox ∧
      (next u).machine.state.establishes = true) :
    Answers s p (s.requestService p route next).station := by
  simp only [requestService]
  split
  · next cause _ => refine answers_refuse ?_ ?_ ?_ p cause <;> rfl
  · next hallowed =>
    have hfree : s.connections.pendingCount = 0 := count_eq_zero_of_refusal? hallowed
    split
    · -- The request cannot be written.
      refine (Quiet.of_frame ?_ ?_ ?_).answers p <;> rfl
    · next data hencode =>
      split
      · refine answers_refuse ?_ ?_ ?_ p CmCause.busy <;> rfl
      · -- The table is full or the reference in use: the request fails without an answer.
        refine (Quiet.of_frame ?_ ?_ ?_).answers p <;> rfl
      · next table hadd =>
        obtain ⟨_, _, _, rfl⟩ := ConnectionTable.add_eq_ok_iff.mp hadd
        obtain ⟨htable, houtbox, hstate⟩ := hnext _
        exact ⟨.request p, [.rr (route.primitive (causeOf p) data)],
          ⟨htable, houtbox, rfl, fun _ _ _ => hstate⟩,
          .request _ route _ data htype hfree hadd hencode (List.mem_singleton_self _)⟩

theorem awaitService_frame (s : Station) {state : MainState} (h : state.establishes = true) :
    (s.awaitService state).connections = s.connections ∧
      (s.awaitService state).outbox = s.outbox ∧
      (s.awaitService state).machine.state.establishes = true := by
  simp [awaitService, startTimer, h]

theorem answers_forwardData (s : Station) (p : CmPrimitive) :
    Answers s p (s.forwardData p).station := by
  unfold forwardData
  split
  · exact (s.quiet_sendRr _).answers p
  · exact answers_refuse rfl rfl rfl p _

/-- A release request drops its connection and then settles what is left. -/
theorem answers_drop {s t : Station} {p : CmPrimitive} (htype : p.type = .releaseRequest)
    (hstate : s.machine.state.releases = true) (h : Quiet (s.dropConnection p) t) :
    Answers s p t := by
  obtain ⟨sent, houtbox, hquiet⟩ := h.sent
  refine ⟨.drop p.reference, sent, ⟨h.table, houtbox, hquiet, ?_⟩, .drop htype hstate⟩
  intro _ hs
  refine h.supervised ?_
  -- What is pending after the drop was pending before it, in the same state.
  intro hpending
  have hle : (s.connections.remove p.reference).pendingCount ≤ s.connections.pendingCount :=
    s.connections.pendingCount_remove_le p.reference
  have hbefore : s.connections.pendingCount ≠ 0 := by
    intro hzero
    rw [hzero] at hle
    exact hpending (Nat.le_zero.mp hle)
  exact hs hbefore

theorem Settled.quiet_settle {s : Station} (h : s.Settled) : Quiet s s.settle := by
  unfold settle
  split
  · exact h.quiet_awaitNetwork
  · exact h.quiet_enter _ _

theorem Settled.quiet_withdrawRequest {s : Station} (h : s.Settled) :
    Quiet s s.withdrawRequest.station :=
  h.quiet_awaitNetwork.trans (quiet_sendMessage _ _)

theorem settled_of_isEmpty {s : Station} (h : s.connections.isEmpty = true) : s.Settled :=
  .of_count (ConnectionTable.pendingCount_of_isEmpty h)

theorem answers_releaseRequested {s : Station} {p : CmPrimitive}
    (htype : p.type = .releaseRequest) (hstate : s.machine.state.releases = true) :
    Answers s p (s.releaseRequested p).station := by
  refine answers_drop htype hstate ?_
  simp only [releaseRequested]
  split
  · next hempty =>
    exact Quiet.after (settled_of_isEmpty (s := (s.dropConnection p).stopTimer .t3230)
      hempty).quiet_withdrawRequest rfl rfl rfl
  · exact .refl _

/-- What is done with a primitive from above changes the connections as the primitive asks. -/
theorem answers_cmProcedure {s : Station} {p : CmPrimitive} {procedure : CmProcedure}
    (h : s.machine.cmProcedure? p = some procedure) :
    Answers s p (procedure.run s p).station := by
  have htype : p.type = procedure.type := type_of_cmProcedure? h
  have hstate : s.machine.state ∈ procedure.states := state_mem_of_cmProcedure? h
  -- The rules say in which states a procedure runs, and with that whether a connection may be
  -- pending.
  cases procedure with
  | requestFromIdle =>
    refine s.answers_requestService htype _ ?_
    intro u
    simp [MainState.establishes]
  | requestFirst => exact s.answers_requestService htype _ fun u => u.awaitService_frame rfl
  | requestAdditional => exact s.answers_requestService htype _ fun u => u.awaitService_frame rfl
  | refuseBusy => exact answers_refuse rfl rfl rfl p _
  | forwardData => exact s.answers_forwardData p
  | releaseActive =>
    have hactive : s.machine.state = .connectionActive := by
      simpa [CmProcedure.states] using hstate
    refine answers_drop htype (by rw [hactive]; rfl) (Settled.quiet_settle ?_)
    exact .of_state (by simp [dropConnection, hactive, MainState.establishes])
  | releaseWaiting =>
    refine answers_drop htype ?_ (.refl _)
    simp only [CmProcedure.states, List.mem_cons, List.not_mem_nil, or_false] at hstate
    rcases hstate with hwait | hwait <;> rw [hwait] <;> rfl
  | releaseRequested =>
    have hwait : s.machine.state = .waitForOutgoingConnection := by
      simpa [CmProcedure.states] using hstate
    exact answers_releaseRequested htype (by rw [hwait]; rfl)

/-! ## Answers of the network -/

theorem quiet_beginService (s : Station) : Quiet s s.beginService.station := by
  unfold beginService
  split
  · next hempty => exact (settled_of_isEmpty hempty).quiet_withdrawRequest
  · exact Quiet.after (quiet_enter_establishing _ rfl none) rfl rfl rfl

theorem confirmPending_frame (s : Station) :
    s.confirmPending.machine = s.machine ∧
      s.confirmPending.connections = Change.confirm.apply s.connections ∧
      s.confirmPending.outbox = s.outbox ++ (Change.confirm.told s.connections).map .cm := by
  unfold confirmPending
  cases hpending : s.connections.pending? with
  | some c => simp [Change.apply, Change.told, sendCm, send, hpending]
  | none =>
    simp [Change.apply, Change.told, hpending, ConnectionTable.modifyPending_of_none hpending]

/-- The pending connection, if there is one, is put into use and its owner told. -/
theorem proceeds_confirmService (s : Station) : Proceeds s s.confirmService.station := by
  have hframe := ((s.stopTimer .t3230).enter .connectionActive none).confirmPending_frame
  simp only [enter_frame] at hframe
  obtain ⟨_, htable, houtbox⟩ := hframe
  refine ⟨.confirm, _, ⟨htable, houtbox, ?_, ?_⟩, .confirm⟩
  · rw [notices_map_cm]
    refine List.filter_eq_self.mpr ?_
    intro p hp
    obtain ⟨c, _, rfl⟩ := Option.map_eq_some_iff.mp (Option.mem_toList.mp hp)
    rfl
  · -- The station leaves the states of establishment: nothing may be left pending.
    intro hone _
    refine .of_count_eq_zero ?_
    rw [confirmService, station_done, htable]
    exact ConnectionTable.pendingCount_modifyPending hone

theorem proceeds_receiveServiceAccept (s : Station) :
    Proceeds s s.receiveServiceAccept.station := by
  unfold receiveServiceAccept
  split
  · exact s.proceeds_confirmService
  · exact (Quiet.refl s).proceeds

theorem proceeds_release_settle (s : Station) (filter : ConnectionTable.ReleaseFilter)
    (cause : UInt8) (isError : Bool) :
    Proceeds s (s.releaseConnections filter cause isError).settle :=
  (s.proceeds_release ..).then (s.settled_release _ _ _).quiet_settle

theorem proceeds_receiveServiceReject (s : Station) (body : Octets) :
    Proceeds s (s.receiveServiceReject body).station := by
  simp only [receiveServiceReject]
  split
  · exact (Quiet.refl s).proceeds
  · split
    · split <;> exact (proceeds_release_settle ..).after rfl rfl rfl
    · exact (proceeds_release_settle ..).after rfl rfl rfl

theorem proceeds_timeoutService (s : Station) : Proceeds s s.timeoutService.station :=
  s.proceeds_release_settle _ _ _

theorem quiet_indicateSync (s : Station) (p : RrPrimitive) :
    Quiet s (s.indicateSync p).station := by
  refine ⟨rfl, ⟨_, rfl, ?_⟩, id⟩
  -- Every connection is told, but of no beginning and no end.
  rw [notices_map_cm, List.filter_eq_nil_iff]
  intro q hq
  obtain ⟨c, _, rfl⟩ := List.mem_map.mp hq
  simp [Connection.primitive, CmPrimitiveType.isNotice]

theorem proceeds_loseConnections (s : Station) : Proceeds s s.loseConnections.station :=
  ((proceeds_release ..).then (settled_release _ _ _ _).quiet_returnIdle).after rfl rfl rfl

/-! ## Messages of the network -/

/-- What is done with a mobility management message changes the connections spontaneously, if at
all. -/
theorem proceeds_messageProcedure {s : Station} {procedure : MessageProcedure} (body : Octets)
    (h : s.machine.state ∈ procedure.states) : Proceeds s (procedure.run s body).station := by
  cases procedure with
  | receiveTmsiReallocation => exact (s.quiet_receiveTmsiReallocation body).proceeds
  | receiveAuthenticationRequest => exact (s.quiet_receiveAuthenticationRequest body).proceeds
  | receiveAuthenticationReject => exact s.quiet_receiveAuthenticationReject.proceeds
  | receiveIdentityRequest => exact (s.quiet_receiveIdentityRequest body).proceeds
  | receiveAbort => exact s.proceeds_receiveAbort body
  | receiveInformation => exact (s.quiet_receiveInformation body).proceeds
  | receiveUpdateAccept =>
    -- While an update is under way no connection can be pending, so another state may be entered.
    have hs : s.Settled := .of_state (by rw [List.mem_singleton.mp h]; rfl)
    exact (hs.quiet_receiveUpdateAccept body).proceeds
  | receiveUpdateReject =>
    have hs : s.Settled := .of_state (by rw [List.mem_singleton.mp h]; rfl)
    exact (hs.quiet_receiveUpdateReject body).proceeds
  | receiveServiceAccept => exact s.proceeds_receiveServiceAccept
  | receiveServiceReject => exact s.proceeds_receiveServiceReject body
  | receiveStatus => exact (s.quiet_receiveStatus body).proceeds

theorem proceeds_receiveMm (s : Station) (header : Header) (body : Octets) :
    Proceeds s (s.receiveMm header body).station := by
  simp only [receiveMm]
  split
  · exact (Quiet.refl s).proceeds
  · split
    · exact (s.quiet_sendStatus _).proceeds
    · have hcontact : Quiet s s.noteContact := .of_frame (by simp) (by simp) (by simp)
      split
      · next hprocedure =>
        exact hcontact.then (proceeds_messageProcedure body
          (state_mem_of_messageProcedure hprocedure))
      · exact (hcontact.trans (quiet_sendStatus _ _)).proceeds

theorem quiet_joinLink (s : Station) : Quiet s s.joinLink := by
  unfold joinLink
  split
  · next hstate =>
    have h : s.Settled := .of_state (by rcases hstate with h | h <;> rw [h] <;> rfl)
    exact Quiet.after (h.of_eq (t := s.stopTimer .t3240) rfl rfl |>.quiet_enter _ _) rfl rfl rfl
  · exact .refl s

theorem joinLink_frame (s : Station) :
    s.joinLink.connections = s.connections ∧ s.joinLink.outbox = s.outbox := by
  unfold joinLink
  split <;> simp [stopTimer]

/-- The network opens a connection in use with a reference and a key of its own. -/
theorem openConnection_eq_ok {s : Station} {protocol : CmProtocol} {transaction : UInt8}
    {table : ConnectionTable} {p : CmPrimitive}
    (h : s.openConnection protocol transaction = .ok (table, p)) :
    ∃ c : Connection, c.state = .dedicated ∧ s.connections.add c = .ok table ∧
      p = c.primitive .establishIndication := by
  simp only [openConnection] at h
  -- The connection is there if the table takes it, and that is all that can fail.
  cases hadd : s.connections.add
    { protocol := protocol, transaction := transaction, reference := s.freeReference,
      state := .dedicated } with
  | error e =>
    rw [hadd] at h
    cases h
  | ok added =>
    rw [hadd] at h
    obtain ⟨rfl, rfl⟩ := Prod.mk.inj (Except.ok.inj h)
    exact ⟨_, rfl, hadd, rfl⟩

/-- A message for a connection that is not known opens it, and the owner is told. -/
theorem proceeds_receiveCm (s : Station) (protocol : CmProtocol) (header : Header)
    (data : Octets) : Proceeds s (s.receiveCm protocol header data).station := by
  simp only [receiveCm]
  split
  · exact (s.quiet_joinLink.trans (quiet_sendCm _ rfl)).proceeds
  · split
    · exact Quiet.proceeds (.of_frame rfl rfl rfl)
    · next table p hopen =>
      obtain ⟨c, hstate, hadd, rfl⟩ := openConnection_eq_ok hopen
      obtain ⟨_, _, _, rfl⟩ := ConnectionTable.add_eq_ok_iff.mp hadd
      -- The connection is in the table before the state changes: `u` is the station in between.
      let u := { s.takeReference s.freeReference with
        connections := { s.connections with connections := s.connections.connections ++ [c] } }
      have hcount : u.connections.pendingCount = s.connections.pendingCount := by
        simp [u, ConnectionTable.pendingCount, Connection.isPending, hstate]
      refine ⟨.opened c data, [.cm { c.primitive .establishIndication with payload := data }],
        ⟨?_, ?_, rfl, ?_⟩, .opened c _ data hstate hadd⟩
      · exact u.joinLink_frame.1
      · exact congrArg (· ++ _) u.joinLink_frame.2
      · intro _ hs
        refine u.quiet_joinLink.supervised ?_
        intro hpending
        exact hs (hcount ▸ hpending)

theorem proceeds_receiveMessage (s : Station) (data : Octets) :
    Proceeds s (s.receiveMessage data).station := by
  unfold receiveMessage
  split
  · exact (Quiet.refl s).proceeds
  · split
    · exact s.proceeds_receiveMm _ _
    · split
      · exact s.proceeds_receiveCm _ _ _
      · exact (s.quiet_sendStatus _).proceeds
    · exact (s.quiet_sendStatus _).proceeds

/-! ## Primitives from below and events -/

theorem Settled.quiet_loseLink {s : Station} (h : s.Settled) : Quiet s s.loseLink.station :=
  Quiet.after (h.of_eq (t := s.stopTimer .t3240) rfl rfl).quiet_returnIdle rfl rfl rfl

theorem Settled.quiet_abortLink {s : Station} (h : s.Settled) : Quiet s s.abortLink.station :=
  h.quiet [.rr (.abort RrCause.timerAbort)] (by simp [abortLink, sendRr, send])
    (by simp [abortLink, sendRr, send]) rfl

/-- What is done with a primitive from below changes the connections spontaneously, if at all. -/
theorem proceeds_rrProcedure {s : Station} (p : RrPrimitive) {procedure : RrProcedure}
    (h : s.machine.state ∈ procedure.states) : Proceeds s (procedure.run s p).station := by
  -- Most procedures run only in states in which no connection is being established.
  have hsettled (hnone : ∀ state ∈ procedure.states, state.establishes = false) : s.Settled :=
    .of_state (hnone _ h)
  cases procedure with
  | acceptLink => exact ((hsettled (by decide)).quiet_enter _ _).proceeds
  | detachSent => exact (hsettled (by decide)).quiet_awaitDetach.proceeds
  | endDetach => exact (hsettled (by decide)).quiet_endDetach.proceeds
  | beginUpdate => exact (hsettled (by decide)).quiet_beginUpdate.proceeds
  | loseUpdateLink => exact ((hsettled (by decide)).quiet_loseUpdateLink p).proceeds
  | completeReject => exact (hsettled (by decide)).quiet_completeReject.proceeds
  | beginService => exact s.quiet_beginService.proceeds
  | receiveMessage => exact s.proceeds_receiveMessage _
  | confirmService => exact s.proceeds_confirmService
  | indicateSync => exact (s.quiet_indicateSync p).proceeds
  | loseConnections => exact s.proceeds_loseConnections
  | loseLink => exact (hsettled (by decide)).quiet_loseLink.proceeds

/-- What is done with an event changes the connections spontaneously, if at all. -/
theorem proceeds_eventProcedure {s : Station} (e : Event) {procedure : EventProcedure}
    (h : s.machine.state ∈ procedure.states) : Proceeds s (procedure.run s e).station := by
  -- Most events have rules only where no connection can be pending.
  have hsettled (hnone : ∀ state ∈ procedure.states, state.establishes = false) : s.Settled :=
    .of_state (hnone _ h)
  cases procedure with
  | normalUpdate => exact (hsettled (by decide)).quiet_normalUpdate.proceeds
  | periodicUpdate => exact ((hsettled (by decide)).quiet_startUpdate _).proceeds
  | tryUpdate => exact (hsettled (by decide)).quiet_tryUpdate.proceeds
  | timeoutUpdate => exact s.quiet_timeoutUpdate.proceeds
  | selectCell => exact (hsettled (by decide)).quiet_selectCell.proceeds
  | startDetach => exact (hsettled (by decide)).quiet_startDetach.proceeds
  | endDetach => exact (hsettled (by decide)).quiet_endDetach.proceeds
  | detachOverLink => exact s.proceeds_detachOverLink
  | delayDetach => exact s.quiet_delayDetach.proceeds
  | applySystemInformation =>
    cases e with
    | systemInformation info chance =>
      exact (Quiet.of_frame (by simp [EventProcedure.run]) (by simp [EventProcedure.run])
        (by simp [EventProcedure.run])).proceeds
    | _ => exact (Quiet.refl s).proceeds
  | abortLink => exact (hsettled (by decide)).quiet_abortLink.proceeds
  | timeoutService => exact s.proceeds_timeoutService
  | answerAuthentication =>
    cases e with
    | authenticationResponse sres => exact (s.quiet_sendMessage _).proceeds
    | _ => exact (Quiet.refl s).proceeds
  | nothing => exact (Quiet.refl s).proceeds

/-! ## Inputs -/

/-- The station when an input is looked up: a primitive from above has rewritten the transaction of
its connection. -/
def lookedUp (s : Station) : Input → Station
  | .cm p => s.updateTransaction p
  | _ => s

theorem quiet_handleRegistration (s : Station) (p : RegistrationPrimitive) :
    Quiet s (s.handleRegistration p).station := by
  cases p with
  | registerRequest => exact s.quiet_send rfl
  | deregisterRequest => exact (s.quiet_send rfl).trans (quiet_send _ rfl)
  | registerConfirm => exact .refl s
  | deregisterIndication => exact .refl s

/-- Every input brings one of the changes that are allowed for it. -/
theorem handle_follows (s : Station) (i : Input) :
    ∃ change sent, Follows (s.lookedUp i) (s.handle i).station change sent ∧
      change.Allowed (s.lookedUp i) sent i := by
  -- A protocol gets an answer, everything else proceeds on its own. Both have a change of the table
  -- and the primitives that go with it.
  cases i with
  | cm p =>
    show Answers _ p (s.handleCm p).station
    simp only [handleCm]
    split
    · next hprocedure => exact answers_cmProcedure hprocedure
    · exact (Quiet.refl _).answers p
  | registration p => exact (s.quiet_handleRegistration p).proceeds
  | rr p =>
    show Proceeds s (s.handleRr p).station
    unfold handleRr
    split
    · next hprocedure => exact proceeds_rrProcedure p (state_mem_of_rrProcedure? hprocedure)
    · exact (Quiet.refl s).proceeds
  | message data => exact s.proceeds_receiveMessage data
  | event e =>
    show Proceeds s (s.handleEvent e).station
    unfold handleEvent
    split
    · next hprocedure => exact proceeds_eventProcedure e (state_mem_of_eventProcedure? hprocedure)
    · exact (Quiet.refl s).proceeds

end Station

end MobileStation
