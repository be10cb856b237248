import MobileStation.Proofs.Service.Emergency

/-!
# Emergency calls of an idle station

An idle station chose its substate when it became idle, and six substates can be chosen. In five of
them a request for an emergency call goes ahead, if the identity that is shown with it can be
written; in the sixth, where a location update is needed, it is refused as if another request were
under way.

Main statements: `chosen_run` (the substates of an idle station) and `emergency_goesAhead_iff` (the
idle stations that ask the network for an emergency call).
-/

namespace MobileStation

/-! ## Substates that are chosen -/

/-- The substate is one that a station chooses when it becomes idle, or starts in. -/
def IdleSubstate.isChosen : IdleSubstate → Bool
  | normalService => true
  | attemptingToUpdate => true
  | limitedService => true
  | noImsi => true
  | locationUpdateNeeded => true
  | plmnSearch => true
  | _ => false

namespace Station

/-- An idle station is in a substate that can be chosen. -/
def Chosen (s : Station) : Prop :=
  s.machine.state = .idle → s.machine.lastSubstate.isChosen = true

theorem isChosen_idleSubstate (s : Station) : s.idleSubstate.isChosen = true := by
  unfold idleSubstate
  repeat' split
  all_goals rfl

theorem chosen_returnIdle (s : Station) : s.returnIdle.Chosen := by
  intro _
  rw [lastSubstate_returnIdle]
  exact s.isChosen_idleSubstate

theorem Chosen.of_machine {s t : Station} (h : s.Chosen) (hmachine : t.machine = s.machine) :
    t.Chosen := by
  intro hidle
  rw [hmachine] at hidle ⊢
  exact h hidle

theorem chosen_of_state {s : Station} {state : MainState} (h : s.machine.state = state)
    (hstate : state ≠ .idle) : s.Chosen :=
  fun hidle => absurd (h.symm.trans hidle) hstate

/-! ## Procedures that return to the idle state -/

theorem chosen_failUpdate (s : Station) : s.failUpdate.station.Chosen := chosen_returnIdle _

theorem chosen_startUpdate {s : Station} (h : s.Chosen) (kind : UpdateKind) :
    (s.startUpdate kind).station.Chosen := by
  rcases s.takes_startUpdate kind with hrequest | ⟨hmachine, _, _⟩
  · have hstate : (s.startUpdate kind).station.machine.state = .waitForRadioLocationUpdate :=
      hrequest.leads
    exact chosen_of_state hstate (by decide)
  · exact h.of_machine hmachine

theorem chosen_selectCell (s : Station) : s.selectCell.station.Chosen := by
  have hupdate : s.returnIdle.normalUpdate.station.Chosen :=
    chosen_startUpdate s.chosen_returnIdle _
  simp only [selectCell]
  split
  · exact hupdate
  · exact hupdate
  · split
    · exact hupdate
    · exact s.chosen_returnIdle
  · exact s.chosen_returnIdle

/-- A procedure for a primitive from below that may return to the idle state. -/
theorem chosen_rrProcedure {s : Station} (p : RrPrimitive) {procedure : RrProcedure} {c : Course}
    (hc : c ∈ procedure.courses s.machine.state) (hidles : c.next = .idles)
    (hother : procedure ≠ .receiveMessage) : (procedure.run s p).station.Chosen := by
  cases procedure with
  | loseUpdateLink =>
    simp only [RrProcedure.run, loseUpdateLink]
    split
    · exact chosen_returnIdle _
    · exact chosen_failUpdate _
  | completeReject =>
    simp only [RrProcedure.run, completeReject]
    split
    · exact chosen_returnIdle _
    · exact chosen_failUpdate _
  | loseConnections => exact chosen_returnIdle _
  | loseLink => exact chosen_returnIdle _
  | receiveMessage => exact absurd rfl hother
  | _ =>
    -- No other procedure has a course that returns to the idle state.
    simp only [RrProcedure.courses, List.mem_cons, List.not_mem_nil, or_false] at hc
    rcases hc with rfl | rfl <;> cases hidles

/-- A procedure for an event that may return to the idle state. -/
theorem chosen_eventProcedure {s : Station} (h : s.Chosen) (e : Event)
    {procedure : EventProcedure} {c : Course} (hc : c ∈ procedure.courses s.machine.state)
    (hidles : c.next = .idles) : (procedure.run s e).station.Chosen := by
  cases procedure with
  | timeoutUpdate =>
    simp only [EventProcedure.run, timeoutUpdate]
    split
    · exact chosen_failUpdate _
    · exact h
  | selectCell => exact s.chosen_selectCell
  | abortLink => exact chosen_returnIdle _
  | _ =>
    simp only [EventProcedure.courses, List.mem_cons, List.not_mem_nil, or_false] at hc
    rcases hc with rfl | rfl | rfl <;> cases hidles

/-- On every other course the substate is the old one, or that of a station without a SIM. -/
theorem Chosen.takes {s t : Station} (h : s.Chosen) {c : Course} (htakes : Takes s t c)
    (hidles : c.next ≠ .idles) (henters : c.next ≠ .enters .idle) : t.Chosen := by
  have hleads := htakes.leads
  -- Entering the idle state is the only course that could choose another substate.
  cases hnext : c.next with
  | stays =>
    rw [hnext] at hleads
    exact h.of_machine hleads.1
  | enters state =>
    rw [hnext] at hleads
    refine chosen_of_state hleads ?_
    rintro rfl
    exact henters hnext
  | idles => exact absurd hnext hidles
  | idlesWithoutSim =>
    rw [hnext] at hleads
    intro _
    rw [hleads.2]
    rfl

theorem next_ne_idles_of_cm {procedure : CmProcedure} {c : Course} (hc : c ∈ procedure.courses) :
    c.next ≠ .idles := by
  have htable : ∀ c ∈ procedure.courses, c.next ≠ .idles := by cases procedure <;> decide
  exact htable c hc

theorem next_ne_idles_of_message {state : MainState} {c : Course} (hc : c ∈ messageCourses state) :
    c.next ≠ .idles := by
  have htable : ∀ c ∈ messageCourses state, c.next ≠ .idles := by cases state <;> decide
  exact htable c hc

theorem Chosen.handle {s : Station} (h : s.Chosen) (i : Input) : (s.handle i).station.Chosen := by
  obtain ⟨c, hmem, htakes⟩ := s.handle_takes i
  have hcourse := courseOf_of_mem hmem
  have henters := hcourse.enters_ne.1
  -- A course does not tell which substate it returns to, so there the procedure is looked at.
  by_cases hidles : c.next = .idles
  · cases hcourse with
    | stay i hc _ =>
      rw [hc] at hidles
      cases hidles
    | cm p procedure _ hc => exact absurd hidles (next_ne_idles_of_cm hc)
    | message i data _ hc => exact absurd hidles (next_ne_idles_of_message hc)
    | rr p procedure hprocedure hother hc =>
      simp only [Station.handle, handleRr, hprocedure]
      exact chosen_rrProcedure p hc hidles hother
    | event e procedure hprocedure hc =>
      simp only [Station.handle, handleEvent, hprocedure]
      exact chosen_eventProcedure h e hc hidles
  · exact h.takes htakes hidles henters

theorem Chosen.perform {s : Station} (h : s.Chosen) (a : Action) : (s.perform a).Chosen := by
  cases hhandled : a.handled? s with
  | some r =>
    obtain ⟨t, i⟩ := r
    have hqueues := queues_of_handled hhandled
    rw [perform_of_handled hhandled]
    exact (h.of_machine (t := t) (by rw [hqueues])).handle i
  | none => exact h.of_machine (machine_of_not_handled hhandled)

/-- After every run an idle station is in one of the substates that are chosen. -/
theorem chosen_run (config : Config) (actions : List Action) :
    ((ofConfig config).run actions).Chosen :=
  invariant_run (fun _ a h => h.perform a) (fun _ => rfl) actions

/-! ## The identity that is shown -/

/-- The identity in a service request. Without a usable SIM it is that of the equipment. -/
def shownIdentity (s : Station) : MobileIdentity :=
  if s.subscriber.simValid then s.subscriber.identity else .imei s.subscriber.imei

end Station

/-- The digits that the subscriber may have to show can be written. -/
structure Subscriber.Presentable (u : Subscriber) : Prop where
  imei : MobileIdentity.IsDigits u.imei
  imsi : u.simValid = true → MobileIdentity.IsDigits u.imsi

namespace Station

theorem isWritable_shownIdentity {s : Station} (h : s.subscriber.Presentable) :
    s.shownIdentity.IsWritable := by
  unfold shownIdentity
  split
  · next hsim =>
    unfold Subscriber.identity
    split
    · simp [MobileIdentity.IsWritable, MobileIdentity.digits?]
    · simpa [MobileIdentity.IsWritable, MobileIdentity.digits?] using h.imsi hsim
  · simpa [MobileIdentity.IsWritable, MobileIdentity.digits?] using h.imei

theorem presentable_ofConfig {config : Config} (hvalid : config.validate = .ok ()) :
    (Subscriber.ofConfig config).Presentable := by
  obtain ⟨himei, himsi⟩ := Config.writable_of_validate hvalid
  have hequipment : MobileIdentity.IsDigits config.imei :=
    MobileIdentity.exists_encodeDigits_iff.mp himei
  unfold Subscriber.ofConfig
  split
  · exact ⟨hequipment, nofun⟩
  · next sim hsim =>
    exact ⟨hequipment, fun _ => MobileIdentity.exists_encodeDigits_iff.mp (himsi sim hsim)⟩

/-- Nothing but a write can bring in digits that cannot be written. -/
theorem presentable_perform {s : Station} {a : Action} (h : s.subscriber.Presentable)
    (hwrites : ∀ u, a = .subscriber u → u.Presentable) :
    (s.perform a).subscriber.Presentable := by
  cases hhandled : a.handled? s with
  | some r =>
    obtain ⟨c, _, htakes⟩ := perform_takes hhandled
    have hkept := htakes.kept
    refine ⟨hkept.imei ▸ h.imei, fun hsim => ?_⟩
    rw [hkept.imsi]
    exact h.imsi (hkept.sim hsim)
  | none =>
    -- Without an input only a write changes the identities.
    by_cases hwrite : ∃ u, a = .subscriber u
    · obtain ⟨u, rfl⟩ := hwrite
      exact hwrites u rfl
    · rw [subscriber_of_not_handled hhandled fun u hu => hwrite ⟨u, hu⟩]
      exact h

theorem presentable_run {config : Config} (hvalid : config.validate = .ok ())
    {actions : List Action} (hwrites : ∀ u, .subscriber u ∈ actions → u.Presentable) :
    ((ofConfig config).run actions).subscriber.Presentable :=
  invariant_run_of_mem (P := fun s => s.subscriber.Presentable)
    (fun _ _ ha h => presentable_perform h fun u hu => hwrites u (hu ▸ ha))
    (presentable_ofConfig hvalid)

/-! ## The request -/

/-- The network is asked for an emergency call, and for nothing else, with a request for a radio
link; nobody else is told anything. -/
structure GoesAhead (s : Station) (o : Outcome) : Prop where
  done : o.failure = none
  asks : ∃ data request, sentBetween s o.station = [.rr (.establish .emergency data)] ∧
    Message.decode .cmServiceRequest data = .ok (.cmServiceRequest request) ∧
    request.service = .emergencyCall
  waits : o.station.machine.state = .waitForRadioConnection

/-- In the idle state an emergency call is let through in every substate but one. -/
theorem cmProcedure?_of_idle {m : StateMachine} {q : CmPrimitive} (hidle : m.state = .idle)
    (hchosen : m.lastSubstate.isChosen = true) (htype : q.type = .establishRequest)
    (hprotocol : q.protocol = .cc) :
    m.cmProcedure? q = some
      (if m.lastSubstate = .locationUpdateNeeded then .refuseBusy else .requestFromIdle) := by
  obtain ⟨state, last, departure⟩ := m
  subst hidle
  rw [StateMachine.cmProcedure?, htype, hprotocol]
  cases last <;> first | rfl | cases hchosen

theorem causeOf_of_isEmergency {q : CmPrimitive} (h : isEmergency q = true) :
    causeOf q = .emergency := by
  simp [causeOf, protocol_of_isEmergency h, h]

theorem refusal?_of_isEmergency {s : Station} {q : CmPrimitive} (h : isEmergency q = true)
    (hpending : s.connections.pending? = none) : s.refusal? q = none := by
  simp [refusal?, hpending, h]

/-- A service request can be written if the identity in it can. -/
theorem exists_encode_serviceRequest_iff {s : Station} {q : CmPrimitive} :
    (∃ data, (s.serviceRequest q).encode = .ok data) ↔ s.shownIdentity.IsWritable := by
  rw [Message.exists_encode_iff]
  simp [serviceRequest, Message.identity?, shownIdentity]

/-- Where nothing else stands in the way, the request goes ahead exactly if it can be written. -/
theorem requestFromIdle_goesAhead_iff {s : Station} {q : CmPrimitive}
    (hemergency : isEmergency q = true) (hpending : s.connections.pending? = none)
    {table : ConnectionTable} (hadd : s.connections.add (requestedConnection q) = .ok table) :
    s.GoesAhead (s.requestFromIdle q) ↔ s.shownIdentity.IsWritable := by
  have hallowed := refusal?_of_isEmergency hemergency hpending
  rw [← exists_encode_serviceRequest_iff (q := q)]
  constructor
  · intro h
    cases hencode : (s.serviceRequest q).encode with
    | ok data => exact ⟨data, rfl⟩
    | error e =>
      -- A request that cannot be written is reported as such, and `h` says that it is not.
      have hfailed : (s.requestFromIdle q).failure = some (.codec e) := by
        simp only [requestFromIdle, requestService]
        split
        · next hrefused => cases hallowed.symm.trans hrefused
        · split
          · next hfound => cases hencode.symm.trans hfound; rfl
          · next hfound => cases hencode.symm.trans hfound
      rw [h.done] at hfailed
      cases hfailed
  · rintro ⟨data, hencode⟩
    let u : Station := { s with update.attempts := 0, connections := table }
    have hdone : s.requestFromIdle q =
        .done ((u.sendRr (.establish (causeOf q) data)).enter .waitForRadioConnection none) :=
      requestService_eq_done .newLink _ hallowed hencode hadd
    have hsent : sentBetween s
        ((u.sendRr (.establish (causeOf q) data)).enter .waitForRadioConnection none) =
        [.rr (.establish (causeOf q) data)] :=
      sentBetween_sendRr (enter_frame _ _ _).2.2.2.2.2 rfl
    rw [hdone]
    have hread := Message.decode_encode hencode (by simp [Message.names, serviceRequest])
    refine ⟨rfl, ⟨data, _, ?_, hread, ?_⟩, ?_⟩
    · rw [station_done, hsent, causeOf_of_isEmergency hemergency]
    · exact serviceOf_of_isEmergency hemergency
    · simp

/-- Where a location update is needed, the request is refused as if another one were under way. -/
theorem not_goesAhead_of_refuseBusy {s : Station} (hidle : s.machine.state = .idle)
    (q : CmPrimitive) : ¬ s.GoesAhead (s.refuseBusy q) := by
  intro h
  have hstate : s.machine.state = .waitForRadioConnection := h.waits
  simp [hidle] at hstate

/-! ## Runs -/

/-- An idle station with nothing pending and room for a connection goes ahead with an emergency call
under a new name exactly if no location update is needed first, and, where a subscriber was written
whose digits cannot be, if the identity that is shown can be written all the same. -/
theorem emergency_goesAhead_iff {config : Config} (hvalid : config.validate = .ok ())
    {actions : List Action} {s : Station} (hrun : (ofConfig config).run actions = s)
    (hidle : s.machine.state = .idle) (hpending : s.connections.pending? = none)
    (hroom : s.connections.connections.length < s.connections.capacity) {q : CmPrimitive}
    (htype : q.type = .establishRequest) (hemergency : isEmergency q = true)
    (hreference : q.reference ∉ s.connections.references)
    (hkey : (.cc, q.transaction) ∉ s.connections.keys) :
    s.GoesAhead (s.handle (.cm q)) ↔
      s.machine.lastSubstate ≠ .locationUpdateNeeded ∧
        ((∃ u, .subscriber u ∈ actions ∧ ¬ u.Presentable) → s.shownIdentity.IsWritable) := by
  have hchosen : s.Chosen := hrun ▸ chosen_run config actions
  have hprotocol : q.protocol = .cc := protocol_of_isEmergency hemergency
  have hunused : ∀ c ∈ s.connections.connections, c.reference ≠ q.reference :=
    fun c hc heq => hreference (heq ▸ List.mem_map_of_mem hc)
  have hprocedure := cmProcedure?_of_idle hidle (hchosen hidle) htype hprotocol
  by_cases hneeded : s.machine.lastSubstate = .locationUpdateNeeded
  · rw [if_pos hneeded] at hprocedure
    have hhandle : s.handle (.cm q) = s.refuseBusy q := by
      simp only [handle, handleCm, updateTransaction_of_unused hunused, hprocedure]
      rfl
    rw [hhandle]
    exact iff_of_false (not_goesAhead_of_refuseBusy hidle q) fun h => h.1 hneeded
  · rw [if_neg hneeded] at hprocedure
    have hhandle : s.handle (.cm q) = s.requestFromIdle q := by
      simp only [handle, handleCm, updateTransaction_of_unused hunused, hprocedure]
      rfl
    have hadd := (ConnectionTable.add_eq_ok_iff (c := requestedConnection q)).mpr
      ⟨hroom, hunused, by rw [← hprotocol] at hkey; exact hkey, rfl⟩
    rw [hhandle, requestFromIdle_goesAhead_iff hemergency hpending hadd]
    refine ⟨fun h => ⟨hneeded, fun _ => h⟩, fun h => ?_⟩
    by_cases hwritten : ∃ u, .subscriber u ∈ actions ∧ ¬ u.Presentable
    · exact h.2 hwritten
    · -- Otherwise every subscriber that the station has had can be presented.
      have hwrites : ∀ u, .subscriber u ∈ actions → u.Presentable := by
        intro u hu
        by_contra hnot
        exact hwritten ⟨u, hu, hnot⟩
      exact isWritable_shownIdentity (hrun ▸ presentable_run hvalid hwrites)

/-- A station without a SIM that has not found a network. -/
theorem emergency_goesAhead_without_sim :
    let s := ofConfig { imei := "356938035643809", imeisv := "3569380356438091" }
    s.GoesAhead (s.handle (.cm
      { type := .establishRequest, protocol := .cc, reference := 1, transaction := 8,
        emergency := true })) :=
  (emergency_goesAhead_iff (by decide +kernel) (run_nil _) rfl rfl (by decide) rfl rfl
    (by decide) (by decide)).mpr ⟨by decide, by simp⟩

/-- After the first random access failure of a location update the station is idle, with the update
still to be made, and refuses an emergency call. -/
theorem emergency_refused_before_update :
    let config : Config :=
      { imei := "356938035643809"
        imeisv := "3569380356438091"
        sim := some { imsi := "262420000000001" } }
    let s := (ofConfig config).run
      [.cell (.campedIn ⟨⟨262, 42, false⟩, 7⟩),
        .handle (.event .newLocationArea),
        .handle (.rr { type := .releaseIndication, cause := RrCause.randomAccessFailure })]
    let q : CmPrimitive :=
      { type := .establishRequest, protocol := .cc, reference := 1, transaction := 8,
        emergency := true }
    config.validate = .ok () ∧ s.machine.state = .idle ∧ s.connections.connections = [] ∧
      sentBetween s (s.handle (.cm q)).station =
        [.cm
          { type := .releaseIndication, protocol := .cc, reference := 1, transaction := 8,
            cause := CmCause.busy }] ∧
      ¬ s.GoesAhead (s.handle (.cm q)) := by
  refine ⟨by decide +kernel, by decide +kernel, by decide +kernel, by decide +kernel, ?_⟩
  rintro ⟨_, _, hwaits⟩
  exact absurd hwaits (by decide +kernel)

end Station

end MobileStation
