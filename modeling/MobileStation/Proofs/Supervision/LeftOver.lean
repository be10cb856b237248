import MobileStation.Proofs.Supervision.Waits

/-!
# Timers that are left over

A supervision timer should run only while the station waits for what it supervises. Most ways out of
a wait stop its timer; some do not, and the timer that is left over ends whatever wait comes next.

Main statements: `LeavesTimer.not_timersFit` and `timersFit_or_leavesTimer` (exactly the listed
inputs leave a timer over) and `timersFit_throughout_iff` (the runs in which none is left over).
-/

namespace MobileStation

/-- A state has one timer at most that supervises it. -/
theorem TimerName.eq_of_supervised {x y : TimerName} {state : MainState}
    (hx : state ∈ x.supervised) (hy : state ∈ y.supervised) : x = y := by
  have htable : ∀ x ∈ all, ∀ y ∈ all, ∀ state ∈ x.supervised, state ∈ y.supervised → x = y := by
    decide
  exact htable x x.mem_all y y.mem_all state hx hy

namespace Station

/-- A supervision timer runs only while the station waits for what it supervises. -/
structure TimersFit (s : Station) : Prop where
  update : s.timers.isRunning .t3210 = true → s.machine.state = .locationUpdatingInitiated
  detach : s.timers.isRunning .t3220 = true → s.machine.state = .imsiDetachInitiated
  service : s.timers.isRunning .t3230 = true →
    s.machine.state = .waitForOutgoingConnection ∨ s.machine.state = .waitForAdditionalConnection
  release : s.timers.isRunning .t3240 = true →
    s.machine.state = .waitForNetworkCommand ∨ s.machine.state = .locationUpdatingReject

/-- Handling the input leaves a timer running whose wait is over. -/
inductive LeavesTimer (s : Station) : Input → Prop
  /-- The first random access failure ends a location update. -/
  | accessFailure (p : RrPrimitive)
      (hloss : p.type = .releaseIndication ∨ p.type = .abortIndication)
      (hcause : p.cause = RrCause.randomAccessFailure) (hfirst : s.update.accessFailed = false)
      (hrunning : s.timers.isRunning .t3210 = true) : LeavesTimer s (.rr p)
  /-- The link is released after a location update was rejected. -/
  | rejectReleased (p : RrPrimitive)
      (hloss : p.type = .releaseIndication ∨ p.type = .abortIndication)
      (hstate : s.machine.state = .locationUpdatingReject)
      (hrunning : s.timers.isRunning .t3240 = true) : LeavesTimer s (.rr p)
  /-- A service request is rejected: during a location update or a detach, or with a connection
  left for which the link is needed. -/
  | serviceReject (i : Input) (data body : Octets) (cause : RejectCause)
      (hnetwork : i.network? = some data)
      (hread : Received.read data = .mobility .cmServiceReject body)
      (hcause : Message.decodeCause body = .ok cause)
      (hrunning : s.timers.isRunning .t3210 = true ∨ s.timers.isRunning .t3220 = true ∨
        s.timers.isRunning .t3240 = true ∧ s.servesOn cause) : LeavesTimer s i
  /-- The network aborts connections for illegal equipment outside a service request. -/
  | abort (i : Input) (data body : Octets) (hnetwork : i.network? = some data)
      (hread : Received.read data = .mobility .abort body)
      (hcause : Message.decodeCause body = .ok .illegalMe)
      (hsome : s.connections.isEmpty = false)
      (hrunning : s.timers.isRunning .t3210 = true ∨ s.timers.isRunning .t3220 = true ∨
        s.timers.isRunning .t3240 = true) : LeavesTimer s i
  /-- The network refuses the subscriber during a detach. -/
  | authenticationReject (i : Input) (data body : Octets) (hnetwork : i.network? = some data)
      (hread : Received.read data = .mobility .authenticationReject body)
      (hrunning : s.timers.isRunning .t3220 = true) : LeavesTimer s i
  /-- An earlier expiry of T3230 ends a service request that is supervised anew. -/
  | serviceTimeout (hrunning : s.timers.isRunning .t3230 = true) :
      LeavesTimer s (.event (.timeout .t3230))
  /-- An earlier expiry of T3240 ends a wait for the network that is supervised anew. -/
  | releaseTimeout (hrunning : s.timers.isRunning .t3240 = true) :
      LeavesTimer s (.event (.timeout .t3240))
  /-- A detach goes over the link that the station holds for the network. -/
  | detach (data : Octets) (hstate : s.machine.state = .waitForNetworkCommand)
      (hrequired : s.detachRequired = true) (hencode : s.detachIndication.encode = .ok data)
      (hrunning : s.timers.isRunning .t3240 = true) : LeavesTimer s (.event .imsiDetach)

/-- The action leaves a timer over. -/
def LeavesTimerOver (s : Station) (a : Action) : Prop :=
  ∃ t i, a.handled? s = some (t, i) ∧ t.LeavesTimer i

theorem timersFit_iff {s : Station} :
    s.TimersFit ↔ ∀ x : TimerName, x.supervises = true → s.timers.isRunning x = true →
      s.machine.state ∈ x.supervised := by
  constructor
  · rintro ⟨hupdate, hdetach, hservice, hrelease⟩ x hx hrunning
    cases x <;> simp_all [TimerName.supervised, TimerName.supervises]
  · intro h
    exact
      { update := fun hrunning => by simpa [TimerName.supervised] using h .t3210 rfl hrunning
        detach := fun hrunning => by simpa [TimerName.supervised] using h .t3220 rfl hrunning
        service := fun hrunning => by simpa [TimerName.supervised] using h .t3230 rfl hrunning
        release := fun hrunning => by simpa [TimerName.supervised] using h .t3240 rfl hrunning }

end Station

/-! ## Turns -/

/-- The turn starts timers for its wait alone, and stops that of the wait it ends. -/
def Turn.fits (turn : Turn) (state : MainState) : Bool :=
  turn.starts.all (fun x => x.supervised.contains (turn.target state)) &&
    TimerName.all.all fun x =>
      !x.supervised.contains state || turn.stops.contains x ||
        x.supervised.contains (turn.target state)

theorem Turn.fits_stay (state : MainState) : Turn.stay.fits state = true := by
  simp only [fits, stay, target, Option.getD_none, List.all_nil, Bool.true_and, List.all_eq_true]
  intro x _
  cases x.supervised.contains state <;> rfl

/-- Timers fit after a turn that starts timers for its wait alone, or one is left over: it runs for
a wait that the turn ends, and is not stopped. -/
theorem Turns.timersFit_or {s t : Station} {turn : Turn} (h : Turns s t turn) (hs : s.TimersFit)
    (hstarts : ∀ x ∈ turn.starts, turn.target s.machine.state ∈ x.supervised) :
    t.TimersFit ∨ ∃ x : TimerName, s.timers.isRunning x = true ∧
      s.machine.state ∈ x.supervised ∧ x ∉ turn.stops ∧
        turn.target s.machine.state ∉ x.supervised := by
  -- If no timer is left running in a state that it does not supervise, each of those that run was
  -- started in the turn or ran before it.
  by_contra hnot
  obtain ⟨hunfit, hnone⟩ := not_or.mp hnot
  refine hunfit (Station.timersFit_iff.mpr ?_)
  intro x hx hrunning
  rw [h.running x hx] at hrunning
  rw [h.state]
  simp only [List.contains_eq_mem, Bool.or_eq_true, decide_eq_true_eq, Bool.and_eq_true,
    Bool.not_eq_true', decide_eq_false_iff_not] at hrunning
  rcases hrunning with hstarted | ⟨hkept, hbefore⟩
  · exact hstarts x hstarted
  · by_contra htarget
    exact hnone ⟨x, hbefore, Station.timersFit_iff.mp hs x hx hbefore, hkept, htarget⟩

theorem Turns.timersFit {s t : Station} {turn : Turn} (h : Turns s t turn)
    (hfits : turn.fits s.machine.state = true) (hs : s.TimersFit) : t.TimersFit := by
  simp only [Turn.fits, Bool.and_eq_true, List.all_eq_true, List.contains_eq_mem,
    decide_eq_true_eq, Bool.or_eq_true, Bool.not_eq_true', decide_eq_false_iff_not] at hfits
  refine (h.timersFit_or hs hfits.1).resolve_right ?_
  rintro ⟨x, _, hstate, hstops, htarget⟩
  rcases hfits.2 x x.mem_all with (hnone | hstop) | hthere
  · exact hnone hstate
  · exact hstops hstop
  · exact htarget hthere

/-- The turn enters a state that a supervision timer does not belong to, and does not stop it. -/
def Turn.leaves (turn : Turn) (x : TimerName) : Bool :=
  x.supervises && turn.next.any (fun state => !x.supervised.contains state) &&
    !turn.stops.contains x

theorem Turns.not_timersFit {s t : Station} {turn : Turn} (h : Turns s t turn) {x : TimerName}
    (hrunning : s.timers.isRunning x = true) (hleaves : turn.leaves x = true) :
    ¬ t.TimersFit := by
  simp only [Turn.leaves, Bool.and_eq_true, Option.any_eq_true, Bool.not_eq_true',
    List.contains_eq_mem, decide_eq_false_iff_not] at hleaves
  obtain ⟨⟨hx, state, hnext, hends⟩, hstops⟩ := hleaves
  intro ht
  have hstate : t.machine.state = state := by
    rw [h.state, Turn.target, hnext]
    rfl
  -- The timer still runs, so if it fitted, it would supervise the new state.
  refine hends ?_
  rw [← hstate]
  refine Station.timersFit_iff.mp ht x hx ?_
  rw [h.running x hx, hrunning]
  simp [hstops]

namespace Station

theorem servesOn_noteContact (s : Station) (cause : RejectCause) :
    s.noteContact.servesOn cause ↔ s.servesOn cause := by
  simp [servesOn]

/-! ## Inputs that leave a timer over -/

/-- Each of the listed inputs leaves a timer over. -/
theorem LeavesTimer.not_timersFit {s : Station} {i : Input} (hs : s.TimersFit)
    (h : s.LeavesTimer i) : ¬ (s.handle i).station.TimersFit := by
  cases h with
  | accessFailure p hloss hcause hfirst hrunning =>
    have hturns := s.turns_loseUpdateLink p
    rw [if_pos ⟨hcause, hfirst⟩] at hturns
    rw [handle_loss hloss, hs.update hrunning]
    exact hturns.not_timersFit hrunning rfl
  | rejectReleased p hloss hstate hrunning =>
    have hturns := s.turns_completeReject
    rw [handle_loss hloss, hstate]
    -- Whether the cause is final or not, T3240 is not stopped.
    split at hturns
    · exact hturns.not_timersFit hrunning rfl
    · exact hturns.not_timersFit hrunning rfl
  | serviceReject i data body cause hnetwork hread hcause hrunning =>
    have hturns := (s.turns_noteContact.trans
      (s.noteContact.turns_receiveServiceReject hcause)).stay_andThen
    rw [handle_of_mobility .receiveServiceReject hnetwork hread rfl]
    simp only [servesOn_noteContact] at hturns
    split at hturns
    · rcases hrunning with hrunning | hrunning | ⟨hrunning, _⟩
      · exact hturns.not_timersFit hrunning rfl
      · exact hturns.not_timersFit hrunning rfl
      · exact hturns.not_timersFit hrunning rfl
    · next hnone =>
      rcases hrunning with hrunning | hrunning | ⟨_, hleft⟩
      · exact hturns.not_timersFit hrunning rfl
      · exact hturns.not_timersFit hrunning rfl
      · exact absurd hleft hnone
  | abort i data body hnetwork hread hcause hsome hrunning =>
    have hturns := (s.turns_noteContact.trans
      (s.noteContact.turns_receiveAbort hcause)).stay_andThen
    have hconnected : ¬ s.noteContact.connected = false := by simp [connected, hsome]
    rw [if_neg hconnected, if_pos rfl] at hturns
    rw [handle_of_mobility .receiveAbort hnetwork hread rfl]
    -- The station goes idle, and only T3230 is stopped.
    rcases hrunning with hrunning | hrunning | hrunning
    · exact hturns.not_timersFit hrunning rfl
    · exact hturns.not_timersFit hrunning rfl
    · exact hturns.not_timersFit hrunning rfl
  | authenticationReject i data body hnetwork hread hrunning =>
    have hturns := (s.turns_noteContact.trans
      s.noteContact.turns_receiveAuthenticationReject).stay_andThen
    have hstate : s.noteContact.machine.state = .imsiDetachInitiated := by
      simpa using hs.detach hrunning
    rw [if_pos hstate] at hturns
    rw [handle_of_mobility .receiveAuthenticationReject hnetwork hread rfl]
    exact hturns.not_timersFit hrunning rfl
  | serviceTimeout hrunning =>
    have hturns := s.turns_release_settle .pendingOnly CmCause.timerExpiry false
    have hwait : s.machine.state ∈ TimerName.guards .t3230 := by
      rcases hs.service hrunning with hstate | hstate <;> rw [hstate] <;> decide
    simp only [handle, handleEvent, eventProcedure?_of_guards hwait]
    split at hturns
    · exact hturns.not_timersFit hrunning rfl
    · exact hturns.not_timersFit hrunning rfl
  | releaseTimeout hrunning =>
    simp only [handle, handleEvent, eventProcedure?_release, if_pos (hs.release hrunning)]
    exact s.turns_abortLink.not_timersFit hrunning rfl
  | detach data hstate hrequired hencode hrunning =>
    have hturns := s.turns_detachOverLink
    rw [if_pos hrequired, hencode, if_pos (by rfl)] at hturns
    have hprocedure := eventProcedure?_detachOverLink (m := s.machine) (by rw [hstate]; decide)
    simp only [handle, handleEvent, hprocedure]
    exact hturns.not_timersFit hrunning rfl

/-! ## All other inputs -/

/-- The procedures that may leave a timer over. -/
def leavingHandlers : List Handler :=
  [.rr .loseUpdateLink, .rr .completeReject, .message .receiveServiceReject,
    .message .receiveAbort, .message .receiveAuthenticationReject, .event .timeoutService,
    .event .abortLink, .event .detachOverLink]

/-- A primitive that ends a location update tells of the loss of the link. -/
theorem loss_of_rrProcedure? {m : StateMachine} {p : RrPrimitive} {procedure : RrProcedure}
    (h : m.rrProcedure? p = some procedure)
    (hends : procedure ∈ [.loseUpdateLink, .completeReject]) :
    p.type = .releaseIndication ∨ p.type = .abortIndication :=
  Rule.keyed_of_select? (P := fun key procedure => procedure ∈ [.loseUpdateLink, .completeReject] →
    key = .releaseIndication ∨ key = .abortIndication) (by decide) h hends

/-- The only timer that supervises a state in which the handler can run. -/
theorem eq_of_handler {h : Handler} {x : TimerName} (y : TimerName)
    (htable : ∀ x ∈ TimerName.all, ∀ state ∈ h.states, state ∈ x.supervised → x = y)
    {state : MainState} (hruns : state ∈ h.states) (hwait : state ∈ x.supervised) : x = y :=
  htable x x.mem_all state hruns hwait

section

variable {s : Station} {i : Input}

theorem loseUpdateLink_fits_or (hs : s.TimersFit) (hi : s.machine.handler i = .rr .loseUpdateLink) :
    (s.handle i).station.TimersFit ∨ s.LeavesTimer i := by
  obtain ⟨p, rfl, hprocedure, hrun⟩ := handle_of_handler_rr hi
  have hturns := s.turns_loseUpdateLink p
  rw [hrun]
  -- The first random access failure in a row is not counted and leaves T3210 as it is. Any other
  -- failure stops it.
  split at hturns
  · next hfirst =>
    refine (hturns.timersFit_or hs (by simp [Turn.idles])).imp_right ?_
    rintro ⟨x, hrunning, hwait, _, _⟩
    obtain rfl := eq_of_handler .t3210 (by decide) (state_mem_of_handler hi) hwait
    have hloss := loss_of_rrProcedure? hprocedure (by simp)
    exact .accessFailure p hloss hfirst.1 hfirst.2 hrunning
  · refine .inl ((hturns.timersFit_or hs (by simp [Turn.idles])).resolve_right ?_)
    rintro ⟨x, _, hwait, hstops, _⟩
    obtain rfl := eq_of_handler .t3210 (by decide) (state_mem_of_handler hi) hwait
    exact hstops (List.mem_singleton_self _)

theorem completeReject_fits_or (hs : s.TimersFit) (hi : s.machine.handler i = .rr .completeReject) :
    (s.handle i).station.TimersFit ∨ s.LeavesTimer i := by
  obtain ⟨p, rfl, hprocedure, hrun⟩ := handle_of_handler_rr hi
  have hstate : s.machine.state = .locationUpdatingReject :=
    List.mem_singleton.mp (state_mem_of_handler hi)
  have hleft {turn : Turn} (hturns : Turns s s.completeReject.station turn)
      (hstarts : turn.starts = []) :
      s.completeReject.station.TimersFit ∨ s.LeavesTimer (.rr p) := by
    refine (hturns.timersFit_or hs (by simp [hstarts])).imp_right ?_
    rintro ⟨x, hrunning, hwait, _, _⟩
    obtain rfl := eq_of_handler .t3240 (by decide) (state_mem_of_handler hi) hwait
    exact .rejectReleased p (loss_of_rrProcedure? hprocedure (by simp)) hstate hrunning
  have hturns := s.turns_completeReject
  rw [hrun]
  -- Whichever way the update ends, T3240 is not stopped.
  split at hturns
  · exact hleft hturns rfl
  · exact hleft hturns rfl

/-- A rejected service request stops T3230 alone, and starts T3240 if no connection is left. -/
theorem serviceReject_fits_or (hs : s.TimersFit)
    (hi : s.machine.handler i = .message .receiveServiceReject) :
    (s.handle i).station.TimersFit ∨ s.LeavesTimer i := by
  obtain ⟨data, body, hnetwork, hread, hrun⟩ := handle_of_handler_message hi
  rw [hrun]
  show (s.noteContact.receiveServiceReject body).station.TimersFit ∨ _
  cases hcause : Message.decodeCause body with
  | error e =>
    simp only [receiveServiceReject, hcause]
    exact .inl (s.turns_noteContact.timersFit (Turn.fits_stay _) hs)
  | ok cause =>
    have hturns := (s.turns_noteContact.trans
      (s.noteContact.turns_receiveServiceReject hcause)).stay_andThen
    simp only [servesOn_noteContact] at hturns
    split at hturns
    · next hleft =>
      refine (hturns.timersFit_or hs (by simp)).imp_right ?_
      rintro ⟨x, hrunning, hwait, hstops, _⟩
      refine .serviceReject i data body cause hnetwork hread hcause ?_
      cases x with
      | t3210 => exact .inl hrunning
      | t3220 => exact .inr (.inl hrunning)
      | t3230 => exact absurd (List.mem_singleton_self _) hstops
      | t3240 => exact .inr (.inr ⟨hrunning, hleft⟩)
      | _ => simp [TimerName.supervised] at hwait
    · refine (hturns.timersFit_or hs (by simp [Turn.target, TimerName.supervised])).imp_right ?_
      rintro ⟨x, hrunning, hwait, hstops, hends⟩
      refine .serviceReject i data body cause hnetwork hread hcause ?_
      cases x with
      | t3210 => exact .inl hrunning
      | t3220 => exact .inr (.inl hrunning)
      | t3230 => exact absurd (List.mem_singleton_self _) hstops
      | t3240 =>
        -- T3240 supervises the state that is entered.
        exact absurd (List.mem_cons_self ..) hends
      | _ => simp [TimerName.supervised] at hwait

/-- The abort of the connections stops T3230 alone, and leaves the state for illegal equipment. -/
theorem abort_fits_or (hs : s.TimersFit) (hi : s.machine.handler i = .message .receiveAbort) :
    (s.handle i).station.TimersFit ∨ s.LeavesTimer i := by
  obtain ⟨data, body, hnetwork, hread, hrun⟩ := handle_of_handler_message hi
  rw [hrun]
  show (s.noteContact.receiveAbort body).station.TimersFit ∨ _
  cases hcause : Message.decodeCause body with
  | error e =>
    simp only [receiveAbort, hcause]
    exact .inl (s.turns_noteContact.timersFit (Turn.fits_stay _) hs)
  | ok cause =>
    have hturns := (s.turns_noteContact.trans
      (s.noteContact.turns_receiveAbort hcause)).stay_andThen
    split at hturns
    · exact .inl (hturns.timersFit (Turn.fits_stay _) hs)
    · next hsome =>
      split at hturns
      · next hme =>
        subst hme
        refine (hturns.timersFit_or hs (by simp [Turn.idles])).imp_right ?_
        rintro ⟨x, hrunning, hwait, hstops, _⟩
        refine .abort i data body hnetwork hread hcause (by simpa [connected] using hsome) ?_
        cases x with
        | t3210 => exact .inl hrunning
        | t3220 => exact .inr (.inl hrunning)
        | t3230 => exact absurd (List.mem_singleton_self _) hstops
        | t3240 => exact .inr (.inr hrunning)
        | _ => simp [TimerName.supervised] at hwait
      · -- For any other cause the wait goes on, and so may its timer.
        refine .inl ((hturns.timersFit_or hs (by simp)).resolve_right ?_)
        rintro ⟨x, _, hwait, _, hends⟩
        exact hends hwait

/-- A refused subscriber leaves a detach, whose timer is not stopped. -/
theorem authenticationReject_fits_or (hs : s.TimersFit)
    (hi : s.machine.handler i = .message .receiveAuthenticationReject) :
    (s.handle i).station.TimersFit ∨ s.LeavesTimer i := by
  obtain ⟨data, body, hnetwork, hread, hrun⟩ := handle_of_handler_message hi
  rw [hrun]
  have hturns := (s.turns_noteContact.trans
    s.noteContact.turns_receiveAuthenticationReject).stay_andThen
  -- A detach that is under way is ended, and T3220 is not stopped. Elsewhere the state stays.
  split at hturns
  · next hdetach =>
    have hstate : s.machine.state = .imsiDetachInitiated := by simpa using hdetach
    refine (hturns.timersFit_or hs (by simp [Turn.idles])).imp_right ?_
    rintro ⟨x, hrunning, hwait, _, _⟩
    obtain rfl : x = .t3220 := TimerName.eq_of_supervised hwait (by rw [hstate]; decide)
    exact .authenticationReject i data body hnetwork hread hrunning
  · exact .inl (hturns.timersFit (Turn.fits_stay _) hs)

theorem timeoutService_fits_or (hs : s.TimersFit)
    (hi : s.machine.handler i = .event .timeoutService) :
    (s.handle i).station.TimersFit ∨ s.LeavesTimer i := by
  obtain ⟨e, rfl, htag, hrun⟩ := handle_of_handler_event hi
  obtain rfl := Event.eq_timeout_of_tag (List.mem_singleton.mp htag)
  have hleft {turn : Turn} (hturns : Turns s s.timeoutService.station turn)
      (hstarts : ∀ x ∈ turn.starts, turn.target s.machine.state ∈ x.supervised) :
      s.timeoutService.station.TimersFit ∨ s.LeavesTimer (.event (.timeout .t3230)) := by
    refine (hturns.timersFit_or hs hstarts).imp_right ?_
    rintro ⟨x, hrunning, hwait, _, _⟩
    obtain rfl := eq_of_handler .t3230 (by decide) (state_mem_of_handler hi) hwait
    exact .serviceTimeout hrunning
  have hturns := s.turns_release_settle .pendingOnly CmCause.timerExpiry false
  rw [hrun]
  -- The service goes on with the other connections, or the release is waited for. T3230 may be
  -- running again when its expiry is handled, and is not stopped.
  split at hturns
  · exact hleft hturns (by simp)
  · exact hleft hturns (by simp [Turn.target, TimerName.supervised])

theorem abortLink_fits_or (hs : s.TimersFit) (hi : s.machine.handler i = .event .abortLink) :
    (s.handle i).station.TimersFit ∨ s.LeavesTimer i := by
  obtain ⟨e, rfl, htag, hrun⟩ := handle_of_handler_event hi
  obtain rfl := Event.eq_timeout_of_tag (List.mem_singleton.mp htag)
  rw [hrun]
  refine (s.turns_abortLink.timersFit_or hs (by simp [Turn.idles])).imp_right ?_
  rintro ⟨x, hrunning, hwait, _, _⟩
  obtain rfl := eq_of_handler .t3240 (by decide) (state_mem_of_handler hi) hwait
  exact .releaseTimeout hrunning

/-- A detach over the link stops T3230 alone, and leaves the state if its message can be sent. -/
theorem detachOverLink_fits_or (hs : s.TimersFit)
    (hi : s.machine.handler i = .event .detachOverLink) :
    (s.handle i).station.TimersFit ∨ s.LeavesTimer i := by
  obtain ⟨e, rfl, htag, hrun⟩ := handle_of_handler_event hi
  obtain rfl := Event.eq_imsiDetach_of_tag (List.mem_singleton.mp htag)
  have htimer {x : TimerName} (hwait : s.machine.state ∈ x.supervised) :
      x = .t3230 ∨ x = .t3240 ∧ s.machine.state = .waitForNetworkCommand := by
    have htable : ∀ x ∈ TimerName.all, ∀ state ∈ EventProcedure.states .detachOverLink,
        state ∈ x.supervised → x = .t3230 ∨ x = .t3240 ∧ state = .waitForNetworkCommand := by
      decide
    exact htable x x.mem_all _ (state_mem_of_handler hi) hwait
  have hturns := s.turns_detachOverLink
  rw [hrun]
  split at hturns
  · next hrequired =>
    split at hturns
    · next hencodes =>
      refine (hturns.timersFit_or hs (by simp [Turn.target, TimerName.supervised])).imp_right ?_
      rintro ⟨x, hrunning, hwait, hstops, _⟩
      rcases htimer hwait with rfl | ⟨rfl, hnetwork⟩
      · exact absurd (List.mem_singleton_self _) hstops
      · cases hencode : s.detachIndication.encode with
        | error e => simp [hencode, Except.isOk, Except.toBool] at hencodes
        | ok data => exact .detach data hnetwork hrequired hencode hrunning
    · -- Without its message the detach leaves the station in its wait.
      refine .inl ((hturns.timersFit_or hs (by simp)).resolve_right ?_)
      rintro ⟨x, _, hwait, _, hends⟩
      exact hends hwait
  · refine .inl ((hturns.timersFit_or hs
      (by simp [Turn.target, TimerName.supervised])).resolve_right ?_)
    rintro ⟨x, _, hwait, hstops, hends⟩
    rcases htimer hwait with rfl | ⟨rfl, _⟩
    · exact hstops (List.mem_singleton_self _)
    · exact hends (List.mem_cons_self ..)

/-- Timers fit after an input, or it is one of those that leave a timer over. -/
theorem timersFit_or_leavesTimer (hpending : s.PendingSupervised) (hs : s.TimersFit) (i : Input) :
    (s.handle i).station.TimersFit ∨ s.LeavesTimer i := by
  -- Eight procedures may leave a timer behind. The tables of turns show by evaluation that all
  -- others do not.
  by_cases hi : s.machine.handler i ∈ leavingHandlers
  · simp only [leavingHandlers, List.mem_cons, List.not_mem_nil, or_false] at hi
    rcases hi with hi | hi | hi | hi | hi | hi | hi | hi
    · exact loseUpdateLink_fits_or hs hi
    · exact completeReject_fits_or hs hi
    · exact serviceReject_fits_or hs hi
    · exact abort_fits_or hs hi
    · exact authenticationReject_fits_or hs hi
    · exact timeoutService_fits_or hs hi
    · exact abortLink_fits_or hs hi
    · exact detachOverLink_fits_or hs hi
  · obtain ⟨turn, hfits, hturns⟩ := turns_of_tables hpending leavingHandlers hi
      (P := fun state turn => turn.fits state = true) (by decide +kernel)
    exact .inl (hturns.timersFit hfits hs)

end

/-! ## Runs -/

/-- An action that handles no input starts no supervision timer. -/
theorem timersFit_perform {s : Station} {a : Action} (hhandled : a.handled? s = none)
    (hs : s.TimersFit) : (s.perform a).TimersFit := by
  have hmachine := machine_of_not_handled hhandled
  -- Without an input no timer is started and the state stays.
  have hrunning (x : TimerName) (h : (s.perform a).timers.isRunning x = true) :
      s.timers.isRunning x = true := by
    cases a with
    | handle input => cases hhandled
    | queue input => simpa [perform] using h
    | serve =>
      rwa [perform_serve_of_not_handled hhandled] at h
    | tick now =>
      have htick : (s.timers.tick now).isRunning x = true := by simpa [perform] using h
      rw [TimerSet.isRunning_tick, Bool.and_eq_true] at htick
      exact htick.1
    | exit =>
      simp [perform, exit, TimerSet.stopAll, TimerSet.isRunning, Timer.stop,
        Timer.isRunning] at h
    | _ => exact h
  rw [timersFit_iff] at hs ⊢
  intro x hx h
  rw [hmachine]
  exact hs x hx (hrunning x h)

/-- An action leaves a timer over in exactly the listed ways. -/
theorem perform_timersFit_iff {s : Station} (hs : s.Orderly) (h : s.TimersFit) (a : Action) :
    (s.perform a).TimersFit ↔ ¬ s.LeavesTimerOver a := by
  cases hhandled : a.handled? s with
  | none => exact iff_of_true (timersFit_perform hhandled h) (by simp [LeavesTimerOver, hhandled])
  | some r =>
    obtain ⟨t, i⟩ := r
    have hleaves : s.LeavesTimerOver a ↔ t.LeavesTimer i := by
      simp [LeavesTimerOver, hhandled]
    have hkept : t.PendingSupervised ∧ t.TimersFit := by
      rw [queues_of_handled hhandled]
      exact ⟨hs.supervised, ⟨h.update, h.detach, h.service, h.release⟩⟩
    rw [hleaves, perform_of_handled hhandled]
    -- A timer that an input leaves over does not fit. Any other input leaves them fitting.
    constructor
    · intro hfit hleft
      exact hleft.not_timersFit hkept.2 hfit
    · exact (timersFit_or_leavesTimer hkept.1 hkept.2 i).resolve_right

/-- Supervision timers run for their waits alone throughout exactly those runs in which no action
leaves one over. -/
theorem timersFit_throughout_iff (config : Config) (subscriber : Subscriber)
    (actions : List Action) :
    Throughout TimersFit (ofSubscriber config subscriber) actions ↔
      EveryStep (fun s a => ¬ s.LeavesTimerOver a) (ofSubscriber config subscriber) actions :=
  throughout_iff_everyStep (fun _ a hs => hs.perform a)
    (fun _ a _ hs h => perform_timersFit_iff hs h a) (orderly_ofSubscriber config subscriber)
    ⟨nofun, nofun, nofun, nofun⟩

/-- The network rejects a location update and releases the link: the station is idle, and T3240 is
running still. -/
theorem timer_left_over_by_reject :
    ¬ ((ofConfig
        { imei := "356938035643809"
          imeisv := "3569380356438091"
          sim := some { imsi := "262420000000001" } }).run
      [.cell (.campedIn ⟨⟨262, 42, false⟩, 7⟩),
        .handle (.event .newLocationArea),
        .handle (.rr { type := .establishConfirm }),
        .handle (.message [0x05, 0x04, 0x11]),
        .handle (.rr { type := .releaseIndication })]).TimersFit := by
  intro hfit
  have hwait := hfit.release (by decide +kernel)
  revert hwait
  decide +kernel

end Station

end MobileStation
