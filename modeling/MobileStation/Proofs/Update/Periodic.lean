import MobileStation.Proofs.Supervision.Undisturbed
import MobileStation.Proofs.Update.Arming
import MobileStation.Proofs.Update.Reject

/-!
# Periodic location updates

Two kinds of inputs stop the periodic updates: a message in the idle state stops T3212, and the
event of a timer is used up by a location update that the cell does not allow. Everything else keeps
them going.

Main statements: `handle_periodicGoesOn_iff` (exactly the listed inputs stop periodic updates) and
`periodicGoesOn_throughout_iff` (the runs in which they never stop).
-/

namespace MobileStation.Station

/-! ## Events -/

/-- Procedures for events keep periodic updates going that go on, but for the retry of a location
update. -/
theorem periodicGoesOn_eventProcedure {s : Station} (h : s.PeriodicGoesOn) (e : Event)
    {procedure : EventProcedure} (hother : procedure ≠ .tryUpdate) :
    (procedure.run s e).station.PeriodicGoesOn := by
  cases procedure with
  | tryUpdate => exact absurd rfl hother
  | normalUpdate => exact periodicGoesOn_startUpdate h _
  | periodicUpdate => exact periodicGoesOn_startUpdate h _
  | timeoutUpdate =>
    simp only [EventProcedure.run, timeoutUpdate]
    split
    · exact periodicGoesOn_failUpdate _
    · exact h
  | selectCell => exact s.periodicGoesOn_selectCell
  | startDetach => exact s.arms_startDetach.goesOn h
  | endDetach => exact periodicGoesOn_returnIdle _
  | detachOverLink => exact s.arms_detachOverLink.goesOn h
  | delayDetach => exact (periodicGoesOn_of_view (s := s) rfl).mpr h
  | applySystemInformation =>
    cases e with
    | systemInformation info chance => exact periodicGoesOn_applySystemInformation h info chance
    | _ => exact h
  | abortLink => exact periodicGoesOn_returnIdle _
  | timeoutService => exact periodicGoesOn_settle _
  | answerAuthentication =>
    cases e with
    | authenticationResponse sres =>
      exact (periodicGoesOn_of_view (periodicView_sendMessage _ _)).mpr h
    | _ => exact h
  | nothing => exact h

/-- An expiry of T3212 stops the periodic updates where the cell allows no location update, unless
T3212 is running again. -/
theorem periodicGoesOn_expiry_iff {s : Station} :
    (s.handleEvent (.timeout .t3212)).station.PeriodicGoesOn ↔
      ¬ (s.Periodic ∧ s.update.wanted = false ∧ s.updateAllowed = false ∧
        ¬ s.Attends .t3212) := by
  -- T3212 is not running any more when its expiry is handled, so this cannot be shown from the
  -- state before as for the other events.
  by_cases hperiodic : s.Periodic
  · have hprocedure : s.machine.eventProcedure? (.timeout .t3212) = some .periodicUpdate := by
      obtain ⟨hidle, hlast⟩ := idle_of_periodic hperiodic
      -- Which rule applies is a matter of the state and its substate alone.
      generalize s.machine = m at hidle hlast
      obtain ⟨state, last, departure⟩ := m
      dsimp only at hidle hlast
      subst hidle
      rcases hlast with rfl | rfl <;> rfl
    have hrun : s.handleEvent (.timeout .t3212) = s.startUpdate .periodic := by
      simp only [handleEvent, hprocedure, EventProcedure.run, periodicUpdate]
    rw [hrun, periodicGoesOn_startUpdate_iff]
    simp [hperiodic]
  · refine iff_of_true ?_ fun hstops => hperiodic hstops.1
    -- Where nothing is periodic there is nothing to go on, whichever rule applies.
    have hvacuous : s.PeriodicGoesOn := fun h => absurd h hperiodic
    unfold handleEvent
    split
    · next procedure hprocedure =>
      refine periodicGoesOn_eventProcedure hvacuous _ ?_
      rintro rfl
      exact absurd (tag_mem_of_eventProcedure? hprocedure) (by decide)
    · exact hvacuous

/-- A retry stops the periodic updates where the cell allows no location update and T3212 is not
running. -/
theorem periodicGoesOn_retry_iff {s : Station} (h : s.PeriodicGoesOn) {timer : TimerName}
    (htimer : timer = .t3211 ∨ timer = .t3213) :
    (s.handleEvent (.timeout timer)).station.PeriodicGoesOn ↔
      ¬ (s.Periodic ∧ s.update.wanted = true ∧ s.updateAllowed = false ∧
        ¬ s.Attends .t3212) := by
  have hprocedure := eventProcedure?_retry s.machine htimer
  by_cases htakes : s.machine.takesRetry = true
  · have hrun : s.handleEvent (.timeout timer) = s.tryUpdate := by
      simp only [handleEvent, hprocedure, if_pos htakes, EventProcedure.run]
    rw [hrun]
    -- An update that is not wanted any more is not tried, and the step does nothing.
    by_cases hwanted : s.update.wanted = true
    · rw [periodicGoesOn_tryUpdate_iff hwanted]
      simp only [hwanted, true_and, not_and, not_not]
      exact ⟨fun hgoes hperiodic hnot => hgoes hnot hperiodic,
        fun hgoes hnot hperiodic => hgoes hperiodic hnot⟩
    · refine iff_of_true ?_ fun hstops => hwanted hstops.2.1
      unfold tryUpdate
      rw [if_pos (by simpa using hwanted)]
      exact h
  · have hrun : s.handleEvent (.timeout timer) = .done s := by
      simp only [handleEvent, hprocedure, if_neg htakes]
    rw [hrun]
    refine iff_of_true h fun hstops => htakes ?_
    -- Where updates are periodic, the substate is one of two, and both take retries.
    obtain ⟨hidle, hlast⟩ := idle_of_periodic hstops.1
    rcases hlast with hlast | hlast <;>
      simp [StateMachine.takesRetry, StateMachine.isIdle, hidle, hlast, IdleSubstate.takesRetry]

/-- Every other event keeps periodic updates going. -/
theorem periodicGoesOn_handleEvent {s : Station} (h : s.PeriodicGoesOn) {e : Event}
    (hother : e.tag ∉ EventProcedure.tags .tryUpdate) :
    (s.handleEvent e).station.PeriodicGoesOn := by
  unfold handleEvent
  split
  · next procedure hprocedure =>
    refine periodicGoesOn_eventProcedure h e ?_
    rintro rfl
    exact hother (tag_mem_of_eventProcedure? hprocedure)
  · exact h

/-! ## Messages -/

/-- A message stops the periodic updates: it counts as contact with the network, which stops T3212,
and does not end in the entry of a state. -/
structure StopsByContact (s : Station) (data : Octets) : Prop where
  contact : ∃ type body, Received.read data = .mobility type body
  /-- No expiry of T3212 waits. -/
  unqueued : .timeout .t3212 ∉ s.queues.events
  unwanted : s.update.wanted = false
  /-- The message rejects no service request, after which the connections are settled. -/
  unsettled : ¬ IsServiceReject data
  /-- The message aborts no connections for illegal equipment, after which the station returns to
  the idle state. -/
  unaborted : ¬ (s.connections.isEmpty = false ∧ IsIdentityAbort data)

theorem periodicView_noteContact (s : Station) :
    s.noteContact.periodicView =
      (s.machine, false, s.queues.events, s.update.wanted, s.periodicInterval) := by
  rw [← s.periodicView_stopPeriodicTimer]
  simp only [noteContact]
  split
  · simp [periodicView, startReleaseTimer, startTimer, TimerSet.isRunning_start_of_ne]
  · rfl

/-- After contact with the network an expiry that waits keeps periodic updates going, or a location
update that is wanted. -/
theorem periodicGoesOn_noteContact_iff {s : Station} :
    s.noteContact.PeriodicGoesOn ↔
      (s.Periodic → .timeout .t3212 ∈ s.queues.events ∨ s.update.wanted = true) := by
  have hview := s.periodicView_noteContact
  simp only [periodicView, Prod.mk.injEq] at hview
  obtain ⟨hmachine, hrunning, hevents, hwanted, hinterval⟩ := hview
  simp only [PeriodicGoesOn, Periodic, updatesPeriodically, Attends, hmachine, hrunning, hevents,
    hwanted, hinterval, Bool.false_eq_true, false_or]

/-- Outside the idle state messages lead to no periodic updates: where they end in the idle state,
the SIM is unusable. -/
theorem periodicGoesOn_receiveMessage_of_busy {s : Station} (hbusy : s.machine.state ≠ .idle)
    (data : Octets) : (s.receiveMessage data).station.PeriodicGoesOn := by
  obtain ⟨c, hmem, htakes⟩ := s.takes_receiveMessage data
  -- A message either leaves a busy station busy or, if it is about the identity, idle without a
  -- SIM.
  have htable : ∀ state, state ≠ .idle → ∀ c ∈ messageCourses state,
      c.next.state state ≠ .idle ∨ c.next = .idlesWithoutSim := by
    intro state
    cases state <;> decide
  rcases htable _ hbusy c hmem with hstill | hnext
  · refine periodicGoesOn_of_busy ?_
    rw [htakes.leads.state]
    exact hstill
  · have hleads := htakes.leads
    rw [hnext] at hleads
    intro hperiodic
    rcases (idle_of_periodic hperiodic).2 with hlast | hlast <;> cases hleads.2.symm.trans hlast

/-- In the idle state messages leave alone what periodic updates depend on once T3212 is stopped,
but for the two that lead out of the state or to it anew. -/
theorem periodicView_messageProcedure {s : Station} (hidle : s.machine.state = .idle)
    (hstopped : s.timers.isRunning .t3212 = false) (hs : s.PendingSupervised) {body : Octets}
    {procedure : MessageProcedure} (hruns : .idle ∈ procedure.states)
    (hsettles : procedure = .receiveServiceReject → ∀ cause, Message.decodeCause body ≠ .ok cause)
    (haborts : procedure = .receiveAbort →
      ¬ (s.connections.isEmpty = false ∧ Message.decodeCause body = .ok .illegalMe)) :
    (procedure.run s body).station.periodicView = s.periodicView := by
  cases procedure with
  | receiveTmsiReallocation =>
    simp only [MessageProcedure.run, receiveTmsiReallocation, sendStatus]
    split <;> rfl
  | receiveAuthenticationRequest =>
    simp only [MessageProcedure.run, receiveAuthenticationRequest, sendStatus]
    split
    · rfl
    · split
      · rfl
      · exact periodicView_sendMessage _ _
  | receiveAuthenticationReject =>
    -- T3212 is stopped once more.
    have hstill : (s.stopTimer .t3212).periodicView = s.periodicView := by
      rw [periodicView_stopPeriodicTimer, periodicView, hstopped]
    simp only [MessageProcedure.run, receiveAuthenticationReject]
    rw [if_neg]
    · exact hstill
    · show s.machine.state ≠ .imsiDetachInitiated
      rw [hidle]
      decide
  | receiveIdentityRequest =>
    simp only [MessageProcedure.run, receiveIdentityRequest, sendStatus]
    split
    · rfl
    · split
      · exact periodicView_sendMessage _ _
      · split <;> exact periodicView_sendMessage _ _
  | receiveAbort =>
    simp only [MessageProcedure.run, receiveAbort, sendStatus]
    split
    · rfl
    · next cause hcause =>
      split
      · exact periodicView_sendMessage _ _
      · next hsome =>
        rw [if_neg]
        · exact s.periodicView_stopTimer (by decide)
        · rintro rfl
          exact haborts rfl ⟨by simpa using hsome, hcause⟩
  | receiveInformation =>
    simp only [MessageProcedure.run, receiveInformation]
    split <;> rfl
  | receiveUpdateAccept => exact absurd hruns (by decide)
  | receiveUpdateReject => exact absurd hruns (by decide)
  | receiveServiceAccept =>
    -- No service was asked for in the idle state.
    have hnone : s.connections.pending?.isSome = false := by
      have hcount : s.connections.pendingCount = 0 := by
        by_contra hpending
        have hestablishes := hs hpending
        rw [hidle] at hestablishes
        cases hestablishes
      rw [ConnectionTable.pendingCount_eq_zero_iff.mp hcount]
      rfl
    simp only [MessageProcedure.run, receiveServiceAccept, hnone, Bool.false_eq_true, if_false]
    rfl
  | receiveServiceReject =>
    simp only [MessageProcedure.run, receiveServiceReject]
    split
    · rfl
    · next cause hcause => exact absurd hcause (hsettles rfl cause)
  | receiveStatus =>
    simp only [MessageProcedure.run, receiveStatus]
    split <;> rfl

/-- A reject of a service request that can be read ends in the entry of a state. -/
theorem periodicGoesOn_receiveServiceReject {s : Station} {body : Octets} {cause : RejectCause}
    (h : Message.decodeCause body = .ok cause) :
    (s.receiveServiceReject body).station.PeriodicGoesOn := by
  simp only [receiveServiceReject, h]
  split <;> exact periodicGoesOn_settle _

/-- An abort of connections for illegal equipment ends in the entry of the idle state. -/
theorem periodicGoesOn_receiveAbort {s : Station} {body : Octets}
    (hsome : s.connections.isEmpty = false) (h : Message.decodeCause body = .ok .illegalMe) :
    (s.receiveAbort body).station.PeriodicGoesOn := by
  simp only [receiveAbort, h, hsome, Bool.false_eq_true, if_false, if_true]
  exact periodicGoesOn_returnIdle _

/-- In the idle state a message that counts as contact either ends in the entry of a state, or does
no more than stop T3212. -/
theorem periodicGoesOn_contact_iff {s : Station} (hs : s.PendingSupervised)
    (hidle : s.machine.state = .idle) {data body : Octets} {type : MessageType}
    (hread : Received.read data = .mobility type body) :
    (s.receiveMessage data).station.PeriodicGoesOn ↔
      IsServiceReject data ∨ s.connections.isEmpty = false ∧ IsIdentityAbort data ∨
        s.noteContact.PeriodicGoesOn := by
  have hcontact : s.noteContact.machine = s.machine ∧
      s.noteContact.connections = s.connections := by simp
  have hkept : s.noteContact.PendingSupervised := by
    simpa [PendingSupervised] using hs
  have hstopped : s.noteContact.timers.isRunning .t3212 = false :=
    congrArg (fun view => view.2.1) s.periodicView_noteContact
  have hreject : IsServiceReject data ↔
      type = .cmServiceReject ∧ ∃ cause, Message.decodeCause body = .ok cause := by
    simp [isServiceReject_iff, hread]
  have habort : IsIdentityAbort data ↔
      type = .abort ∧ Message.decodeCause body = .ok .illegalMe := by
    simp [IsIdentityAbort, hread]
  rw [hreject, habort, receiveMessage_eq, hread]
  dsimp only
  cases hprocedure : s.machine.messageProcedure type with
  | error cause =>
    -- Both of the messages that lead on are known in every state.
    have hunknown : type ≠ .cmServiceReject ∧ type ≠ .abort := by
      constructor <;> rintro rfl <;> cases hprocedure
    simp only [hunknown.1, hunknown.2, false_and, and_false, false_or]
    exact periodicGoesOn_of_view (periodicView_sendMessage _ _)
  | ok procedure =>
    obtain rfl := type_of_messageProcedure hprocedure
    have hruns : .idle ∈ procedure.states := hidle ▸ state_mem_of_messageProcedure hprocedure
    dsimp only
    by_cases hleads : (procedure = .receiveServiceReject ∧
          ∃ cause, Message.decodeCause body = .ok cause) ∨
        procedure = .receiveAbort ∧ s.connections.isEmpty = false ∧
          Message.decodeCause body = .ok .illegalMe
    · rcases hleads with ⟨rfl, cause, hcause⟩ | ⟨rfl, hsome, hcause⟩
      · exact iff_of_true (periodicGoesOn_receiveServiceReject hcause) (.inl ⟨rfl, cause, hcause⟩)
      · exact iff_of_true (periodicGoesOn_receiveAbort (by simpa using hsome) hcause)
          (.inr (.inl ⟨hsome, rfl, hcause⟩))
    · obtain ⟨hsettles, haborts⟩ := not_or.mp hleads
      have hview : (procedure.run s.noteContact body).station.periodicView =
          s.noteContact.periodicView :=
        periodicView_messageProcedure (hcontact.1 ▸ hidle) hstopped hkept hruns
          (fun heq cause hcause => hsettles ⟨heq, cause, hcause⟩)
          fun heq h => haborts ⟨heq, by simpa using h⟩
      rw [periodicGoesOn_of_view hview]
      refine ⟨fun h => .inr (.inr h), ?_⟩
      rintro (⟨htype, hcause⟩ | ⟨hsome, htype, hcause⟩ | h)
      · exact absurd ⟨MessageProcedure.eq_of_type htype, hcause⟩ hsettles
      · exact absurd ⟨MessageProcedure.eq_of_type htype, hsome, hcause⟩ haborts
      · exact h

/-- A message that does not count as contact leaves periodic updates alone. -/
theorem periodicGoesOn_other {s : Station} (h : s.PeriodicGoesOn) (hidle : s.machine.state = .idle)
    {data : Octets} (hother : ∀ type body, Received.read data ≠ .mobility type body) :
    (s.receiveMessage data).station.PeriodicGoesOn := by
  rw [receiveMessage_eq]
  cases hread : Received.read data with
  | broken e => exact h
  | skipped => exact h
  | unknown => exact (periodicGoesOn_of_view (periodicView_sendMessage _ _)).mpr h
  | mobility type body => exact absurd hread (hother type body)
  | connection protocol header =>
    -- Only a link that the station holds for the network is joined.
    have hjoin (t : Station) (ht : t.machine = s.machine) : t.joinLink = t := by
      unfold joinLink
      rw [if_neg (by simp [ht, hidle])]
    refine (periodicGoesOn_of_view ?_).mpr h
    simp only [receiveCm]
    split
    · rw [hjoin s rfl]
      rfl
    · split
      · rfl
      · next table p _ =>
        have hopened : { s.takeReference s.freeReference with connections := table }.joinLink =
            { s.takeReference s.freeReference with connections := table } := hjoin _ rfl
        rw [station_done, hopened]
        rfl

/-- A message stops the periodic updates in exactly the listed way. -/
theorem periodicGoesOn_receiveMessage_iff {s : Station} (hs : s.PendingSupervised)
    (h : s.PeriodicGoesOn) (data : Octets) :
    (s.receiveMessage data).station.PeriodicGoesOn ↔
      ¬ (s.Periodic ∧ s.StopsByContact data) := by
  by_cases hidle : s.machine.state = .idle
  -- Only a message of mobility management is a contact that stops T3212.
  · by_cases hmobility : ∃ type body, Received.read data = .mobility type body
    · obtain ⟨type, body, hread⟩ := hmobility
      rw [periodicGoesOn_contact_iff hs hidle hread, periodicGoesOn_noteContact_iff]
      constructor
      · rintro (hservice | habort | hkept) ⟨hperiodic, hstops⟩
        · exact hstops.unsettled hservice
        · exact hstops.unaborted habort
        · rcases hkept hperiodic with hqueued | hwanted
          · exact hstops.unqueued hqueued
          · rw [hstops.unwanted] at hwanted
            cases hwanted
      · intro hkeeps
        by_contra hnot
        simp only [not_or, Classical.not_imp, Bool.not_eq_true] at hnot
        obtain ⟨hservice, habort, hperiodic, hqueued, hwanted⟩ := hnot
        exact hkeeps ⟨hperiodic, ⟨⟨type, body, hread⟩, hqueued, hwanted, hservice, habort⟩⟩
    · have hother : ∀ type body, Received.read data ≠ .mobility type body :=
        fun type body hread => hmobility ⟨type, body, hread⟩
      exact iff_of_true (periodicGoesOn_other h hidle hother) fun hstops =>
        hmobility hstops.2.contact
  · exact iff_of_true (periodicGoesOn_receiveMessage_of_busy hidle data) fun hstops =>
      hidle (idle_of_periodic hstops.1).1

/-! ## Inputs -/

/-- Handling the input stops the periodic updates of a station that has them. -/
inductive StopsPeriodic (s : Station) : Input → Prop
  /-- A message stops T3212. -/
  | contact (i : Input) (data : Octets) (hnetwork : i.network? = some data)
      (hstops : s.StopsByContact data) : StopsPeriodic s i
  /-- T3212 has run out, and the cell does not allow the location update. -/
  | expiry (hwanted : s.update.wanted = false) (hallowed : s.updateAllowed = false)
      (hattends : ¬ s.Attends .t3212) : StopsPeriodic s (.event (.timeout .t3212))
  /-- A location update is to be tried again, and the cell does not allow it. -/
  | retry (timer : TimerName) (htimer : timer = .t3211 ∨ timer = .t3213)
      (hwanted : s.update.wanted = true) (hallowed : s.updateAllowed = false)
      (hattends : ¬ s.Attends .t3212) : StopsPeriodic s (.event (.timeout timer))

theorem stopsPeriodic_of_network? {s : Station} {i : Input} {data : Octets}
    (h : i.network? = some data) : s.StopsPeriodic i ↔ s.StopsByContact data := by
  constructor
  · intro hstops
    cases hstops with
    | contact _ other hnetwork hstops => exact Option.some.inj (hnetwork.symm.trans h) ▸ hstops
    | expiry => cases h
    | retry => cases h
  · exact .contact i data h

/-- Only messages and the expiries of three timers stop the periodic updates. -/
theorem not_stopsPeriodic {s : Station} {i : Input} (hnetwork : i.network? = none)
    (hother : ∀ timer ∈ [TimerName.t3211, .t3212, .t3213], i ≠ .event (.timeout timer)) :
    ¬ s.StopsPeriodic i := by
  intro hstops
  cases hstops with
  | contact _ data hsome => simp [hnetwork] at hsome
  | expiry => exact hother .t3212 (by simp) rfl
  | retry timer htimer =>
    refine hother timer ?_ rfl
    rcases htimer with rfl | rfl <;> simp

/-- Handling an event stops the periodic updates in exactly the listed ways. -/
theorem handleEvent_periodicGoesOn_iff {s : Station} {e : Event}
    (h : s.PeriodicGoesOn ∨ e = .timeout .t3212) :
    (s.handleEvent e).station.PeriodicGoesOn ↔ ¬ (s.Periodic ∧ s.StopsPeriodic (.event e)) := by
  -- The expiry of T3212 is the one event that finds it stopped.
  by_cases hexpiry : e = .timeout .t3212
  · subst hexpiry
    rw [periodicGoesOn_expiry_iff]
    refine not_congr (and_congr_right fun _ => ?_)
    constructor
    · rintro ⟨hwanted, hallowed, hattends⟩
      exact .expiry hwanted hallowed hattends
    · intro hstops
      cases hstops with
      | contact _ _ hnetwork => cases hnetwork
      | expiry hwanted hallowed hattends => exact ⟨hwanted, hallowed, hattends⟩
      | retry _ htimer => rcases htimer with htimer | htimer <;> cases htimer
  · have hgoesOn := h.resolve_right hexpiry
    by_cases hretry : ∃ timer : TimerName, e = .timeout timer ∧ (timer = .t3211 ∨ timer = .t3213)
    · obtain ⟨timer, rfl, htimer⟩ := hretry
      rw [periodicGoesOn_retry_iff hgoesOn htimer]
      refine not_congr (and_congr_right fun _ => ?_)
      constructor
      · rintro ⟨hwanted, hallowed, hattends⟩
        exact .retry timer htimer hwanted hallowed hattends
      · intro hstops
        cases hstops with
        | contact _ _ hnetwork => cases hnetwork
        | expiry => exact absurd rfl hexpiry
        | retry _ _ hwanted hallowed hattends => exact ⟨hwanted, hallowed, hattends⟩
    -- Any other event lets the updates go on, and is none of those that stop them.
    · refine iff_of_true (periodicGoesOn_handleEvent hgoesOn ?_) fun hstops =>
        not_stopsPeriodic rfl ?_ hstops.2
      · intro htag
        cases e <;> simp_all [Event.tag, EventProcedure.tags]
      · rintro timer htimer heq
        obtain rfl := Input.event.inj heq
        simp only [List.mem_cons, List.not_mem_nil, or_false] at htimer
        rcases htimer with rfl | rfl | rfl
        · exact hretry ⟨_, rfl, .inl rfl⟩
        · exact hexpiry rfl
        · exact hretry ⟨_, rfl, .inr rfl⟩

/-- Handling an input stops the periodic updates in exactly the listed ways. -/
theorem handle_periodicGoesOn_iff {s : Station} (hs : s.PendingSupervised) {i : Input}
    (h : s.PeriodicGoesOn ∨ i = .event (.timeout .t3212)) :
    (s.handle i).station.PeriodicGoesOn ↔ ¬ (s.Periodic ∧ s.StopsPeriodic i) := by
  -- Messages come in two ways, but are handled alike.
  cases hnetwork : i.network? with
  | some data =>
    have hgoesOn : s.PeriodicGoesOn := by
      refine h.resolve_right ?_
      rintro rfl
      cases hnetwork
    rw [s.handle_of_network? hnetwork, periodicGoesOn_receiveMessage_iff hs hgoesOn,
      stopsPeriodic_of_network? hnetwork]
  | none =>
    cases i with
    | cm p =>
      refine iff_of_true ?_ fun hstops => not_stopsPeriodic hnetwork (by simp) hstops.2
      have hgoesOn : (s.updateTransaction p).PeriodicGoesOn :=
        (periodicGoesOn_of_view (s := s) rfl).mpr (h.resolve_right (by simp))
      simp only [handle, handleCm]
      split
      · exact (arms_cmProcedure _ p _).goesOn hgoesOn
      · exact hgoesOn
    | registration p =>
      refine iff_of_true ?_ fun hstops => not_stopsPeriodic hnetwork (by simp) hstops.2
      have hgoesOn := h.resolve_right (by simp)
      cases p <;> exact (periodicGoesOn_of_view (s := s) rfl).mpr hgoesOn
    | rr p =>
      refine iff_of_true ?_ fun hstops => not_stopsPeriodic hnetwork (by simp) hstops.2
      have hgoesOn := h.resolve_right (by simp)
      simp only [handle, handleRr]
      split
      · next procedure hprocedure =>
        refine (s.arms_rrProcedure p ?_).goesOn hgoesOn
        rintro rfl
        simp [Input.network?, rrProcedure?_eq_receiveMessage_iff.mp hprocedure] at hnetwork
      · exact hgoesOn
    | message data => cases hnetwork
    | event e => exact handleEvent_periodicGoesOn_iff (h.imp_right Input.event.inj)

/-! ## Runs -/

/-- The action stops the periodic updates. -/
def EndsPeriodic (s : Station) (a : Action) : Prop :=
  s.Periodic ∧
    ((∃ t i, a.handled? s = some (t, i) ∧ t.StopsPeriodic i) ∨
      a = .exit ∧ s.update.wanted = false)

/-- An action that handles no input keeps the interval of the periodic updates. -/
theorem interval_of_not_handled {s : Station} {a : Action} (h : a.handled? s = none) :
    (s.perform a).periodicInterval = s.periodicInterval := by
  have hexpire (u : Station) (timer : TimerName) :
      (u.expire timer).periodicInterval = u.periodicInterval := by
    simp only [expire]
    split <;> rfl
  cases a with
  | handle input => cases h
  | queue input => cases input <;> rfl
  | serve =>
    rw [perform_serve_of_not_handled h]
  | tick now => exact foldl_expire_of_expire hexpire _ _
  | _ => rfl

theorem exit_periodicGoesOn_iff {s : Station} :
    s.exit.PeriodicGoesOn ↔ ¬ (s.Periodic ∧ s.update.wanted = false) := by
  have hperiodic : s.exit.Periodic ↔ s.Periodic := Iff.rfl
  have hattends : ¬ s.exit.Attends .t3212 := by
    simp [Attends, exit, TimerSet.stopAll, TimerSet.isRunning, Timer.stop, Timer.isRunning]
  have hwanted : s.exit.update.wanted = s.update.wanted := rfl
  simp [PeriodicGoesOn, hperiodic, hattends, hwanted]

/-- An action stops the periodic updates in exactly the listed ways. -/
theorem perform_periodicGoesOn_iff {s : Station} (hs : s.Orderly) (h : s.PeriodicGoesOn)
    (a : Action) : (s.perform a).PeriodicGoesOn ↔ ¬ s.EndsPeriodic a := by
  cases hhandled : a.handled? s with
  | none =>
    by_cases hexit : a = .exit
    · subst hexit
      have hends : s.EndsPeriodic .exit ↔ s.Periodic ∧ s.update.wanted = false := by
        simp [EndsPeriodic, Action.handled?]
      rw [hends]
      exact exit_periodicGoesOn_iff
    · refine iff_of_true ?_ (by simp [EndsPeriodic, hhandled, hexit])
      obtain ⟨hmachine, _, hwanted⟩ := perform_frame hhandled hexit
      have hperiodic : (s.perform a).Periodic ↔ s.Periodic := by
        simp only [Periodic, updatesPeriodically, hmachine, interval_of_not_handled hhandled]
      intro hthere
      rw [hwanted]
      exact (h (hperiodic.mp hthere)).imp_left (attends_perform hhandled hexit)
  | some r =>
    obtain ⟨t, i⟩ := r
    have hexit : a ≠ .exit := by
      rintro rfl
      cases hhandled
    have hqueues := queues_of_handled hhandled
    have hkept : t.PendingSupervised ∧ (t.Periodic ↔ s.Periodic) ∧ t.update = s.update := by
      rw [hqueues]
      exact ⟨hs.supervised, Iff.rfl, rfl⟩
    have hends : s.EndsPeriodic a ↔ t.Periodic ∧ t.StopsPeriodic i := by
      simp [EndsPeriodic, hhandled, hexit, hkept.2.1]
    rw [hends, perform_of_handled hhandled]
    refine handle_periodicGoesOn_iff hkept.1 ?_
    -- Taking the input from its queue loses at most the expiry that is being handled.
    by_cases hexpiry : i = .event (.timeout .t3212)
    · exact .inr hexpiry
    · refine .inl ?_
      intro hthere
      rw [hkept.2.2]
      exact (h (hkept.2.1.mp hthere)).imp_left fun hattends =>
        (attends_of_handled hhandled hattends).resolve_right hexpiry

/-- Periodic updates go on throughout exactly those runs in which no action stops them. -/
theorem periodicGoesOn_throughout_iff (config : Config) (subscriber : Subscriber)
    (actions : List Action) :
    Throughout PeriodicGoesOn (ofSubscriber config subscriber) actions ↔
      EveryStep (fun s a => ¬ s.EndsPeriodic a) (ofSubscriber config subscriber) actions :=
  throughout_iff_everyStep (fun _ a hs => hs.perform a)
    (fun _ a _ hs h => perform_periodicGoesOn_iff hs h a)
    (orderly_ofSubscriber config subscriber)
    fun hperiodic => by
      rcases (idle_of_periodic hperiodic).2 with hlast | hlast <;> cases hlast

/-- T3212 runs out in a cell that is barred for a while: the update is given up, and nothing will
start another one when the bar is lifted. -/
theorem periodic_update_given_up :
    ¬ ((ofConfig
        { imei := "356938035643809"
          imeisv := "3569380356438091"
          sim := some
            { imsi := "262420000000001"
              lai := some ⟨⟨262, 42, false⟩, 7⟩
              updated := true }
          t3212 := 360 }).run
      [.cell (.campedIn ⟨⟨262, 42, false⟩, 7⟩),
        .handle (.event .newLocationArea),
        .handle (.event (.systemInformation
          { t3212 := 360, si3 := true, cellBarred := true } 0)),
        .tick 360000,
        .serve]).PeriodicGoesOn := by
  intro hgoesOn
  have hwanted := hgoesOn ⟨by decide +kernel, by decide +kernel⟩
  revert hwanted
  unfold Attends
  decide +kernel

end MobileStation.Station
