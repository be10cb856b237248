import MobileStation.Proofs.Steps.Inputs

/-!
# Rejected location updates

The network rejects a location update, and the station keeps the cause until the radio link is
released; only then is the cause acted upon. The station leaves the state of the reject for the
idle state in two more ways, and on those the cause is dropped: it gives up waiting for the release
and aborts the link, or the network aborts the connections for illegal equipment.

Main statements: `actedUpon_completeReject` (the release of the link acts upon the cause) and
`rejects_actedUpon_iff` (the runs in which every cause is acted upon).
-/

namespace MobileStation

/-- The report of a rejected location update among the outputs. -/
def Output.isRejectReport : Output → Bool
  | plmnSearch event => event.isReject
  | _ => false

/-- A station that sent `sent` since the reject has acted upon its cause. -/
structure ActedUpon (cause : RejectCause) (sent : List Output) (t : Station) : Prop where
  /-- The search for networks was told once. -/
  reported : sent.filter Output.isRejectReport =
    [.plmnSearch
      (if cause.code = 13 then .roamingNotAllowed
      else if cause.code ∈ [2, 3, 6] then .invalidSim
      else .registrationFailed cause)]
  /-- A cause about the identity makes the SIM unusable. -/
  sim : cause.code ∈ [2, 3, 6] → t.subscriber.simValid = false
  /-- A final cause ends the registration. -/
  forgotten : cause.code ∈ [2, 3, 6, 11, 12, 13] →
    t.subscriber.laiValid = false ∧ t.subscriber.tmsiValid = false ∧ t.subscriber.keySequence = 7
  /-- A cause about the network forbids it. -/
  network : cause.code = 11 → t.subscriber.isForbidden t.cell.lai.plmn = true
  /-- A cause about the location area forbids it. -/
  area : cause.code = 12 → t.cell.isForbidden t.cell.lai = true

namespace Station

/-- Whenever a run takes the station from the state of a reject to the idle state, the cause has
been acted upon: `stay` is what happened in the state of the reject, and `a` what ended it. -/
def RejectsActedUpon (s : Station) (actions : List Action) : Prop :=
  ∀ before stay a rest, actions = before ++ (stay ++ a :: rest) →
    let entered := s.run before
    let left := entered.run stay
    Throughout (fun t => t.machine.state = .locationUpdatingReject) entered stay →
      (left.perform a).machine.state = .idle →
        ActedUpon left.update.rejectCause (entered.emitted (stay ++ [a])) (left.perform a)

/-- The message aborts all connections for illegal equipment. -/
def IsIdentityAbort (data : Octets) : Prop :=
  ∃ body, Received.read data = .mobility .abort body ∧
    Message.decodeCause body = .ok .illegalMe

/-- The action ends the wait for the release of the link after a reject: the wait has lasted too
long, or the network aborts connections for illegal equipment. -/
def DropsReject (s : Station) (a : Action) : Prop :=
  s.machine.state = .locationUpdatingReject ∧
    ∃ t i, a.handled? s = some (t, i) ∧
      (i = .event (.timeout .t3240) ∨
        s.connections.isEmpty = false ∧ ∃ data, i.network? = some data ∧ IsIdentityAbort data)

/-! ## Reports -/

theorem Output.isSignal_of_isRejectReport {o : Output} (h : o.isRejectReport = true) :
    o.isSignal = true := by
  cases o <;> first | exact h | cases h

/-- A course without a report reports nothing. -/
theorem filter_isRejectReport_of_sends {s t : Station} {signals : List Signal}
    (h : Sends s t signals) (hnone : .reject ∉ signals) :
    (sentBetween s t).filter Output.isRejectReport = [] := by
  obtain ⟨sent, houtbox, hmatches⟩ := h.exists_matches
  rw [sentBetween_of_outbox houtbox, List.filter_eq_nil_iff]
  intro o ho hreport
  obtain ⟨signal, hsignal, hmatch⟩ := hmatches o ho (Output.isSignal_of_isRejectReport hreport)
  have hreject : signal = .reject := by
    cases o with
    | plmnSearch event => cases signal <;> first | rfl | exact hmatch.elim
    | _ => cases hreport
  exact hnone (hreject ▸ hsignal)

/-! ## The release of the link -/

theorem isFinalReject_iff {cause : RejectCause} :
    isFinalReject cause = true ↔ cause.code ∈ [2, 3, 6, 11, 12, 13] := by
  obtain ⟨code⟩ := cause
  simp [isFinalReject, RejectCause.isIdentityReject, RejectCause.imsiUnknownInHlr,
    RejectCause.illegalMs, RejectCause.illegalMe, RejectCause.plmnNotAllowed,
    RejectCause.locationAreaNotAllowed, RejectCause.roamingNotAllowed, or_assoc]

theorem isIdentityReject_iff {cause : RejectCause} :
    cause.isIdentityReject = true ↔ cause.code ∈ [2, 3, 6] := by
  obtain ⟨code⟩ := cause
  simp [RejectCause.isIdentityReject, RejectCause.imsiUnknownInHlr, RejectCause.illegalMs,
    RejectCause.illegalMe, or_assoc]

/-- The report of a cause, told by its number. -/
theorem rejectEvent_eq (cause : RejectCause) :
    rejectEvent cause =
      if cause.code = 13 then .roamingNotAllowed
      else if cause.code ∈ [2, 3, 6] then .invalidSim
      else .registrationFailed cause := by
  have hroaming : cause = .roamingNotAllowed ↔ cause.code = 13 := by
    obtain ⟨code⟩ := cause
    simp [RejectCause.roamingNotAllowed]
  simp only [rejectEvent, hroaming, isIdentityReject_iff]

theorem isForbidden_forbid (u : Subscriber) (plmn : Plmn) :
    (u.forbid plmn).isForbidden plmn = true := by
  unfold Subscriber.forbid
  split
  · assumption
  · simp [Subscriber.isForbidden]

theorem isForbidden_cell_forbid (c : ServingCell) (lai : Lai) :
    (c.forbid lai).isForbidden lai = true := by
  unfold ServingCell.forbid
  split
  · assumption
  · simp [ServingCell.isForbidden]

/-- Forbidding a network leaves the SIM and the registration of the subscriber alone. -/
theorem forbidRejected_subscriber (s : Station) (cause : RejectCause) :
    (s.forbidRejected cause).subscriber.simValid = s.subscriber.simValid ∧
      (s.forbidRejected cause).subscriber.laiValid = s.subscriber.laiValid ∧
      (s.forbidRejected cause).subscriber.tmsiValid = s.subscriber.tmsiValid ∧
      (s.forbidRejected cause).subscriber.keySequence = s.subscriber.keySequence := by
  have hforbid (u : Subscriber) (plmn : Plmn) :
      (u.forbid plmn).simValid = u.simValid ∧ (u.forbid plmn).laiValid = u.laiValid ∧
        (u.forbid plmn).tmsiValid = u.tmsiValid ∧
        (u.forbid plmn).keySequence = u.keySequence := by
    unfold Subscriber.forbid
    split <;> simp
  unfold forbidRejected
  split
  · exact hforbid _ _
  · split <;> simp

/-- A station that has acted upon a final cause. -/
def rejectFinally (s : Station) (cause : RejectCause) : Station :=
  (((s.rejectIdentity cause).deregister .roamingNotAllowed).send
    (.plmnSearch (rejectEvent cause))).forbidRejected cause

theorem outbox_rejectFinally (s : Station) (cause : RejectCause) :
    (s.rejectFinally cause).outbox = s.outbox ++ [.plmnSearch (rejectEvent cause)] := by
  simp [rejectFinally, send, deregister]

theorem sim_rejectFinally (s : Station) {cause : RejectCause} (h : cause.code ∈ [2, 3, 6]) :
    (s.rejectFinally cause).subscriber.simValid = false := by
  rw [rejectFinally, (forbidRejected_subscriber _ _).1]
  simp [deregister, send, Subscriber.invalidate, rejectIdentity, isIdentityReject_iff.mpr h]

theorem registration_rejectFinally (s : Station) (cause : RejectCause) :
    (s.rejectFinally cause).subscriber.laiValid = false ∧
      (s.rejectFinally cause).subscriber.tmsiValid = false ∧
      (s.rejectFinally cause).subscriber.keySequence = 7 := by
  simp only [rejectFinally, forbidRejected_subscriber]
  exact ⟨rfl, rfl, rfl⟩

theorem network_rejectFinally (s : Station) {cause : RejectCause} (h : cause.code = 11) :
    (s.rejectFinally cause).subscriber.isForbidden (s.rejectFinally cause).cell.lai.plmn =
      true := by
  have hcause : cause = .plmnNotAllowed := congrArg RejectCause.mk h
  rw [rejectFinally, forbidRejected, if_pos hcause]
  exact isForbidden_forbid _ _

theorem area_rejectFinally (s : Station) {cause : RejectCause} (h : cause.code = 12) :
    (s.rejectFinally cause).cell.isForbidden (s.rejectFinally cause).cell.lai = true := by
  have hcause : cause = .locationAreaNotAllowed := congrArg RejectCause.mk h
  have hother : cause ≠ .plmnNotAllowed := by rw [hcause]; decide
  have hlai (c : ServingCell) (lai : Lai) : (c.forbid lai).lai = c.lai := by
    unfold ServingCell.forbid
    split <;> rfl
  rw [rejectFinally, forbidRejected, if_neg hother, if_pos hcause, hlai]
  exact isForbidden_cell_forbid _ _

/-- What the release of the link sends after a reject. -/
theorem outbox_completeReject (s : Station) :
    s.completeReject.station.outbox =
      s.outbox ++ [.plmnSearch (rejectEvent s.update.rejectCause)] := by
  simp only [completeReject]
  split
  · simp only [station_done, returnIdle_frame]
    exact s.outbox_rejectFinally _
  · simp [send]

/-- The release of the link acts upon the cause. -/
theorem actedUpon_completeReject (s : Station) :
    ActedUpon s.update.rejectCause (sentBetween s s.completeReject.station)
      s.completeReject.station := by
  have hreported : (sentBetween s s.completeReject.station).filter Output.isRejectReport =
      [.plmnSearch (rejectEvent s.update.rejectCause)] := by
    have hreport : Output.isRejectReport (.plmnSearch (rejectEvent s.update.rejectCause)) = true :=
      isReject_rejectEvent _
    rw [sentBetween_of_outbox s.outbox_completeReject, List.filter_cons_of_pos hreport,
      List.filter_nil]
  rw [rejectEvent_eq] at hreported
  cases hfinal : isFinalReject s.update.rejectCause with
  | true =>
    have hstation : s.completeReject.station =
        { s.rejectFinally s.update.rejectCause with update.wanted := false }.returnIdle := by
      simp only [completeReject, hfinal, if_true]
      rfl
    have hsubscriber : s.completeReject.station.subscriber =
        (s.rejectFinally s.update.rejectCause).subscriber := by
      rw [hstation, (returnIdle_frame _).2.2.1]
    have hcell : s.completeReject.station.cell = (s.rejectFinally s.update.rejectCause).cell := by
      rw [hstation, (returnIdle_frame _).2.2.2.1]
    refine ⟨hreported, ?_, ?_, ?_, ?_⟩
    · rw [hsubscriber]
      exact s.sim_rejectFinally
    · rw [hsubscriber]
      exact fun _ => s.registration_rejectFinally _
    · rw [hsubscriber, hcell]
      exact s.network_rejectFinally
    · rw [hcell]
      exact s.area_rejectFinally
  | false =>
    -- Any other cause is reported, and nothing else is asked for.
    have hother : s.update.rejectCause.code ∉ [2, 3, 6, 11, 12, 13] := by
      rw [← isFinalReject_iff, hfinal]
      exact Bool.false_ne_true
    simp only [List.mem_cons, List.not_mem_nil, or_false, not_or] at hother
    exact ⟨hreported, by simp [hother], by simp [hother], by simp [hother], by simp [hother]⟩

/-! ## Ways out of the state of a reject -/

theorem messageProcedure_abort (m : StateMachine) :
    m.messageProcedure .abort = .ok .receiveAbort := rfl

theorem receiveAbort_idle_iff {s : Station} (hbusy : s.machine.state ≠ .idle) (body : Octets) :
    (s.receiveAbort body).station.machine.state = .idle ↔
      s.connections.isEmpty = false ∧ Message.decodeCause body = .ok .illegalMe := by
  simp only [receiveAbort]
  split
  · next hcause => simp [hbusy, hcause]
  · next cause hcause =>
    split
    · next hempty => simp [hbusy, hempty, sendStatus]
    · next hsome =>
      split
      · next hillegal => simp [hsome, hcause, hillegal]
      · next hlegal =>
        have hstate : ((s.stopTimer .t3230).releaseConnections .all CmCause.normalRelease
            false).machine.state ≠ .idle := hbusy
        simp [hstate, hcause, hlegal]

/-- Other procedures for messages stay out of the idle state after a reject. -/
theorem messageProcedure_reject {procedure : MessageProcedure} (hother : procedure ≠ .receiveAbort)
    (hstate : .locationUpdatingReject ∈ procedure.states) :
    ∀ c ∈ procedure.courses .locationUpdatingReject,
      c.next.state .locationUpdatingReject ≠ .idle := by
  cases procedure <;> first | exact absurd rfl hother | revert hstate; decide

/-- A message takes the station out of the state of a reject into the idle state only if it aborts
the connections for illegal equipment, and there are some. -/
theorem receiveMessage_reject_idle_iff {s : Station}
    (hreject : s.machine.state = .locationUpdatingReject) (data : Octets) :
    (s.receiveMessage data).station.machine.state = .idle ↔
      s.connections.isEmpty = false ∧ IsIdentityAbort data := by
  have hbusy : s.machine.state ≠ .idle := by rw [hreject]; decide
  -- All but an abort leave the station busy.
  have hstays {t : Station} (ht : t.machine.state ≠ .idle)
      (hother : ∀ body, Received.read data ≠ .mobility .abort body) :
      t.machine.state = .idle ↔ s.connections.isEmpty = false ∧ IsIdentityAbort data := by
    refine iff_of_false ht ?_
    rintro ⟨_, body, hread, _⟩
    exact hother body hread
  rw [receiveMessage_eq]
  cases hread : Received.read data with
  | broken e => exact hstays hbusy (by simp [hread])
  | skipped => exact hstays hbusy (by simp [hread])
  | unknown => exact hstays (by simpa [sendStatus] using hbusy) (by simp [hread])
  | connection protocol header =>
    refine hstays ?_ (by simp [hread])
    obtain ⟨c, hmem, htakes⟩ := s.takes_receiveCm protocol header data
    have hcourses : ∀ c ∈ [Course.stay, ⟨.enters .connectionActive, []⟩],
        c.next.state .locationUpdatingReject ≠ .idle := by decide
    dsimp only
    rw [htakes.leads.state, hreject]
    exact hcourses c hmem
  | mobility type body =>
    dsimp only
    cases hprocedure : s.machine.messageProcedure type with
    | error cause =>
      refine hstays (by simpa [sendStatus] using hbusy) ?_
      rw [hread]
      rintro _ ⟨⟩
      rw [messageProcedure_abort] at hprocedure
      cases hprocedure
    | ok procedure =>
      dsimp only
      -- Of the messages that have a rule here, the abort alone may end the wait, and whether it
      -- does depends on its cause.
      by_cases habort : procedure = .receiveAbort
      · have htype := type_of_messageProcedure hprocedure
        subst habort
        subst htype
        show ((s.noteContact.receiveAbort body).station.machine.state = .idle ↔ _)
        rw [receiveAbort_idle_iff (by simpa using hbusy)]
        simp [IsIdentityAbort, hread, MessageProcedure.type]
      · refine hstays ?_ ?_
        · have hstate := state_mem_of_messageProcedure hprocedure
          obtain ⟨c, hmem, htakes⟩ := s.noteContact.takes_messageProcedure body procedure
          rw [htakes.leads.state]
          simp only [noteContact_frame, hreject] at hmem hstate ⊢
          exact messageProcedure_reject habort hstate c hmem
        · rw [hread]
          rintro _ ⟨⟩
          rw [messageProcedure_abort] at hprocedure
          exact habort (Except.ok.inj hprocedure).symm

/-! ## Steps in the state of a reject -/

/-- A report is sent only where the station becomes idle. -/
theorem CourseOf.idles_of_reject {m : StateMachine} {c : Course} {i : Input}
    (h : CourseOf m c i) (hreject : .reject ∈ c.sent) : c.next = .idles := by
  refine h.of_tables (P := fun _ c => .reject ∈ c.sent → c.next = .idles) ?_ ?_ ?_ ?_ ?_ hreject
  · exact fun _ => by decide
  · intro procedure
    cases procedure <;> decide
  · intro procedure hother
    cases procedure <;> first | exact absurd rfl hother | decide
  · intro state
    cases state <;> decide
  · intro procedure
    cases procedure <;> decide

/-- An action after which the station is not idle reports nothing. -/
theorem filter_emits_of_not_idle {s : Station} {a : Action}
    (h : (s.perform a).machine.state ≠ .idle) :
    (s.emits a).filter Output.isRejectReport = [] := by
  cases hhandled : a.handled? s with
  | none => rw [emits_of_not_handled hhandled, List.filter_nil]
  | some r =>
    obtain ⟨c, hcourse, htakes⟩ := perform_takes hhandled
    refine filter_isRejectReport_of_sends htakes.toSends ?_
    intro hreject
    have hidles := hcourse.idles_of_reject hreject
    refine h ?_
    rw [htakes.leads.state, hidles]
    rfl

theorem filter_emitted_of_throughout {s : Station} {stay : List Action}
    (h : Throughout (fun t => t.machine.state = .locationUpdatingReject) s stay) :
    (s.emitted stay).filter Output.isRejectReport = [] := by
  induction stay generalizing s with
  | nil => rfl
  | cons a rest ih =>
    obtain ⟨_, hrest⟩ := h
    have hstate : (s.perform a).machine.state = .locationUpdatingReject :=
      throughout_iff.mp hrest 0
    rw [emitted, List.filter_append, ih hrest, filter_emits_of_not_idle (by rw [hstate]; decide)]
    rfl

/-- Short of dropping the cause, only the loss of the link takes the station from the state of a
reject to the idle state. -/
theorem loss_of_idle {s t : Station} {a : Action} {i : Input}
    (hreject : s.machine.state = .locationUpdatingReject) (hhandled : a.handled? s = some (t, i))
    (hidle : (s.perform a).machine.state = .idle) (hkeeps : ¬ s.DropsReject a) :
    ∃ p, i = .rr p ∧ (p.type = .releaseIndication ∨ p.type = .abortIndication) := by
  obtain ⟨c, hcourse, htakes⟩ := perform_takes hhandled
  have hnext : c.next.state .locationUpdatingReject = .idle := by
    rw [← hreject, ← htakes.leads.state]
    exact hidle
  -- What led to the idle state is one of the courses, and those that do are few.
  cases hcourse with
  | stay _ hc _ =>
    subst hc
    cases hnext
  | cm p procedure hp hc =>
    have hstate := state_mem_of_cmProcedure? hp
    rw [hreject] at hstate
    have htable : ∀ procedure : CmProcedure, .locationUpdatingReject ∈ procedure.states →
        ∀ c ∈ procedure.courses, c.next.state .locationUpdatingReject ≠ .idle := by
      intro procedure
      cases procedure <;> decide
    exact absurd hnext (htable procedure hstate c hc)
  | rr p procedure hp hother hc =>
    refine ⟨p, rfl, ?_⟩
    rw [rrProcedure?_eq, hreject] at hp
    cases htype : p.type <;> simp_all
  | message _ data hnetwork hc =>
    -- A message that ends the wait is an abort, which drops the cause.
    refine absurd ⟨hreject, t, i, hhandled, .inr ?_⟩ hkeeps
    have hqueues := queues_of_handled hhandled
    have ht : t.machine.state = .locationUpdatingReject := by rw [hqueues]; exact hreject
    have htable : t.connections = s.connections := by rw [hqueues]
    rw [perform_of_handled hhandled, t.handle_of_network? hnetwork,
      receiveMessage_reject_idle_iff ht, htable] at hidle
    exact ⟨hidle.1, data, hnetwork, hidle.2⟩
  | event e procedure hp hc =>
    have hstate := state_mem_of_eventProcedure? hp
    rw [hreject] at hstate hc
    have htable : ∀ procedure : EventProcedure, .locationUpdatingReject ∈ procedure.states →
        ∀ c ∈ procedure.courses .locationUpdatingReject,
          c.next.state .locationUpdatingReject = .idle → procedure = .abortLink := by
      intro procedure
      cases procedure <;> decide
    have habort := htable procedure hstate c hc hnext
    have htag := tag_mem_of_eventProcedure? hp
    rw [habort] at htag
    -- So does the expiry of T3240.
    refine absurd ⟨hreject, t, _, hhandled, .inl ?_⟩ hkeeps
    cases e <;> simp_all [Event.tag, EventProcedure.tags]

/-- The loss of the link in the state of a reject acts upon the cause. -/
theorem actedUpon_of_loss {s t : Station} {a : Action} {p : RrPrimitive}
    (hreject : s.machine.state = .locationUpdatingReject)
    (hhandled : a.handled? s = some (t, .rr p))
    (hloss : p.type = .releaseIndication ∨ p.type = .abortIndication) :
    ActedUpon s.update.rejectCause (s.emits a) (s.perform a) := by
  have hqueues := queues_of_handled hhandled
  have ht : t.machine.state = .locationUpdatingReject := by rw [hqueues]; exact hreject
  have hcause : t.update.rejectCause = s.update.rejectCause := by rw [hqueues]
  have hrun : t.handle (.rr p) = t.completeReject := by
    rw [handle_loss hloss, ht]
    rfl
  rw [emits_of_handled hhandled, perform_of_handled hhandled, hrun, ← hcause]
  exact t.actedUpon_completeReject

/-- An action that drops the cause makes the station idle and reports nothing. -/
theorem idle_of_dropsReject {s : Station} {a : Action} (h : s.DropsReject a) :
    (s.perform a).machine.state = .idle ∧ (s.emits a).filter Output.isRejectReport = [] := by
  obtain ⟨hreject, t, i, hhandled, hways⟩ := h
  have hqueues := queues_of_handled hhandled
  have ht : t.machine.state = .locationUpdatingReject := by rw [hqueues]; exact hreject
  rw [emits_of_handled hhandled, perform_of_handled hhandled]
  -- Either way the release of the radio link is not waited for.
  rcases hways with rfl | ⟨hsome, data, hnetwork, habort⟩
  · have hrun : t.handle (.event (.timeout .t3240)) = t.abortLink := by
      simp only [handle, handleEvent, eventProcedure?_release, ht]
      rfl
    rw [hrun]
    have htakes := t.takes_abortLink
    exact ⟨htakes.leads.1, filter_isRejectReport_of_sends htakes.toSends (by decide)⟩
  · have htable : t.connections = s.connections := by rw [hqueues]
    rw [t.handle_of_network? hnetwork]
    refine ⟨(receiveMessage_reject_idle_iff ht data).mpr ⟨htable ▸ hsome, habort⟩, ?_⟩
    obtain ⟨c, hmem, htakes⟩ := t.takes_receiveMessage data
    refine filter_isRejectReport_of_sends htakes.toSends ?_
    rw [ht] at hmem
    have hcourses : ∀ c ∈ messageCourses .locationUpdatingReject, .reject ∉ c.sent := by decide
    exact hcourses c hmem

/-! ## Runs -/

/-- Every cause of a rejected location update is acted upon in exactly those runs in which the
station never leaves the state of the reject by giving up the wait for the release of the link, or
by an abort of connections for illegal equipment. -/
theorem rejects_actedUpon_iff (config : Config) (subscriber : Subscriber)
    (actions : List Action) :
    RejectsActedUpon (ofSubscriber config subscriber) actions ↔
      EveryStep (fun s a => ¬ s.DropsReject a) (ofSubscriber config subscriber) actions := by
  rw [everyStep_iff]
  constructor
  · intro h before a rest heq hdrops
    obtain ⟨hidle, hnone⟩ := idle_of_dropsReject hdrops
    have hacted := h before [] a rest heq hdrops.1 hidle
    have hreported := hacted.reported
    rw [List.nil_append, emitted, emitted, List.append_nil] at hreported
    rw [hnone] at hreported
    cases hreported
  · intro h before stay a rest heq entered left hstay hidle
    have hreject : left.machine.state = .locationUpdatingReject := throughout_run hstay
    have hkeeps : ¬ left.DropsReject a := by
      have hstep := h (before ++ stay) a rest (by rw [heq, List.append_assoc])
      rwa [run_append] at hstep
    cases hhandled : a.handled? left with
    | none =>
      rw [machine_of_not_handled hhandled, hreject] at hidle
      cases hidle
    | some r =>
      obtain ⟨t, i⟩ := r
      obtain ⟨p, rfl, hloss⟩ := loss_of_idle hreject hhandled hidle hkeeps
      have hacted := actedUpon_of_loss hreject hhandled hloss
      -- Nothing was reported before the last step.
      have hreported : (entered.emitted (stay ++ [a])).filter Output.isRejectReport =
          (left.emits a).filter Output.isRejectReport := by
        rw [emitted_append, List.filter_append, filter_emitted_of_throughout hstay]
        simp [emitted, left]
      exact ⟨hreported ▸ hacted.reported, hacted.sim, hacted.forgotten, hacted.network,
        hacted.area⟩

/-- The cause of a reject is dropped when the network does not release the radio link: the station
aborts it and is idle, and the SIM that the network declared unknown is still in use. -/
theorem cause_dropped_on_timeout :
    ¬ RejectsActedUpon
      (ofConfig
        { imei := "356938035643809"
          imeisv := "3569380356438091"
          sim := some { imsi := "262420000000001" } })
      [.cell (.campedIn ⟨⟨262, 42, false⟩, 7⟩),
        .handle (.event .newLocationArea),
        .handle (.rr { type := .establishConfirm }),
        .handle (.message [0x05, 0x04, 0x02]),
        .tick 10000,
        .serve] := by
  intro h
  have hacted := h
    [.cell (.campedIn ⟨⟨262, 42, false⟩, 7⟩),
      .handle (.event .newLocationArea),
      .handle (.rr { type := .establishConfirm }),
      .handle (.message [0x05, 0x04, 0x02])]
    [.tick 10000] .serve [] rfl
    ⟨by decide +kernel, by show _ = MainState.locationUpdatingReject; decide +kernel⟩
    (by decide +kernel)
  have hsim := hacted.sim (by decide +kernel)
  revert hsim
  decide +kernel

end Station

end MobileStation
