import MobileStation.Proofs.Supervision.Waits

/-!
# Dead ends of connection management

While the station waits for the answer to a service request T3230 is in charge, and while
connections are in use there is one. Otherwise nothing but the network or the user could lead the
station on. Three inputs take the last connection or the timer away and leave the station where it
is: the abort of all connections, a detach whose message cannot be written, and the start of
ciphering after the last connection was given up.

Main statements: `handle_goesOn_iff` (the inputs that lead into a dead end) and
`serviceGoesOn_throughout_iff` (the runs that meet none).
-/

namespace MobileStation

namespace Station

/-- Connection management goes on: a service request is supervised, and connections that are in use
are there. -/
structure ServiceGoesOn (s : Station) : Prop where
  supervised :
    s.machine.state ∈ [.waitForOutgoingConnection, .waitForAdditionalConnection] →
      s.timers.isRunning .t3230 = true ∨ .timeout .t3230 ∈ s.queues.events
  connected : s.machine.state = .connectionActive → s.connections.isEmpty = false

/-- It is the connections or the running timer alone that keep the station from a dead end. -/
def Exposed (s : Station) : Prop :=
  s.machine.state = .connectionActive ∨
    s.machine.state ∈ [.waitForOutgoingConnection, .waitForAdditionalConnection] ∧
      .timeout .t3230 ∉ s.queues.events

/-- Handling the input leads connection management into a dead end. -/
inductive Strands (s : Station) : Input → Prop
  /-- The network aborts the connections, for any other cause than illegal equipment. -/
  | abort (i : Input) (data body : Octets) (cause : RejectCause) (hnetwork : i.network? = some data)
      (hread : Received.read data = .mobility .abort body)
      (hcause : Message.decodeCause body = .ok cause) (hother : cause ≠ .illegalMe)
      (hsome : s.connections.isEmpty = false) (hexposed : s.Exposed) : Strands s i
  /-- The network has to be told of a detach, but the message cannot be written. -/
  | detach (e : CodecError) (hrequired : s.detachRequired = true)
      (hencode : s.detachIndication.encode = .error e) (hexposed : s.Exposed) :
      Strands s (.event .imsiDetach)
  /-- Ciphering starts for a service request whose connection was given up. -/
  | sync (p : RrPrimitive) (htype : p.type = .syncIndication)
      (hstate : s.machine.state ∈ [.waitForOutgoingConnection, .waitForAdditionalConnection])
      (hnone : s.connections.isEmpty = true) : Strands s (.rr p)

/-- The action leads connection management into a dead end. -/
def StrandsService (s : Station) (a : Action) : Prop :=
  (∃ t i, a.handled? s = some (t, i) ∧ t.Strands i) ∨
    a = .exit ∧ s.machine.state ∈
      [.waitForOutgoingConnection, .waitForAdditionalConnection, .connectionActive]

/-- Connections that are in use are there. -/
def InUse (s : Station) : Prop := s.machine.state = .connectionActive → s.connected = true

theorem serviceGoesOn_iff {s : Station} : s.ServiceGoesOn ↔ s.Guarded .t3230 ∧ s.InUse := by
  have hconnected : s.connected = true ↔ s.connections.isEmpty = false := by simp [connected]
  constructor
  · intro h
    exact ⟨h.supervised, fun hstate => hconnected.mpr (h.connected hstate)⟩
  · rintro ⟨hguarded, huse⟩
    exact ⟨hguarded, fun hstate => hconnected.mp (huse hstate)⟩

end Station

/-- After the turn connections that are in use are there. -/
def Turn.holds (turn : Turn) (state : MainState) : Bool :=
  turn.target state ≠ .connectionActive || turn.connected = .sets true ||
    state = .connectionActive && turn.connected = .keeps

theorem Turn.holds_stay (state : MainState) : Turn.stay.holds state = true := by
  by_cases h : state = .connectionActive <;> simp [holds, stay, target, h]

theorem Turns.inUse {s t : Station} {turn : Turn} (h : Turns s t turn)
    (hholds : turn.holds s.machine.state = true) (hs : s.InUse) : t.InUse := by
  intro hactive
  rw [h.state] at hactive
  have hconnected := h.connected
  simp only [Turn.holds, hactive, ne_eq, not_true_eq_false, decide_false, Bool.false_or,
    Bool.or_eq_true, Bool.and_eq_true, decide_eq_true_eq] at hholds
  rcases hholds with hsets | ⟨hbefore, hkeeps⟩
  · rw [hsets] at hconnected
    exact hconnected
  · rw [hkeeps] at hconnected
    exact Eq.trans hconnected (hs hbefore)

/-- A turn that leaves the station where it is, without T3230 and without a connection. -/
theorem Turns.dropped_goesOn_iff {s t : Station}
    (h : Turns s t { stops := [.t3230], connected := .sets false }) :
    t.ServiceGoesOn ↔ ¬ s.Exposed := by
  have hstate : t.machine.state = s.machine.state := h.state
  have hstopped : t.timers.isRunning .t3230 = false := h.running .t3230 rfl
  have hnone : t.connected = false := h.connected
  rw [Station.serviceGoesOn_iff, Station.Guarded, Station.InUse, Station.Attends, h.waiting, hstate,
    hstopped, hnone]
  simp only [Station.Exposed, Bool.false_eq_true, false_or, imp_false, not_or, not_and, not_not]
  exact and_comm

namespace Station

/-! ## One input -/

/-- The handlers that can take the last connection or the timer away. -/
def endsService : List Handler := .rr .confirmService :: abandonsService

/-- Every other input keeps connection management going. -/
theorem goesOn_of_other {s : Station} (hs : s.PendingSupervised) {i : Input} (huse : s.InUse)
    (hguarded : s.Guarded .t3230 ∨ i = .event (.timeout .t3230))
    (hi : s.machine.handler i ∉ endsService) : (s.handle i).station.ServiceGoesOn := by
  have hkept : (s.handle i).station.InUse := by
    obtain ⟨turn, hholds, hturns⟩ := turns_of_tables hs endsService hi
      (P := fun state turn => turn.holds state = true) (by decide +kernel)
    exact hturns.inUse hholds huse
  refine serviceGoesOn_iff.mpr ⟨?_, hkept⟩
  by_cases hstill : s.Guarded .t3230
  · exact hstill.handle hs fun _ hmem => hi (List.mem_cons_of_mem _ hmem)
  · -- The expiry that was left is being handled, and ends the wait.
    obtain rfl := hguarded.resolve_left hstill
    obtain ⟨hwait, _⟩ := Classical.not_imp.mp hstill
    exact fun hthere => absurd hthere (handle_timeout_leaves hwait nofun)

/-- Connection management goes on after a turn that leaves it for another procedure. -/
theorem ServiceGoesOn.of_next {s t : Station} {turn : Turn} {state : MainState} (h : Turns s t turn)
    (hnext : turn.next = some state) (hother : state ∉
      [.waitForOutgoingConnection, .waitForAdditionalConnection, .connectionActive]) :
    t.ServiceGoesOn := by
  have hstate : t.machine.state = state := by
    rw [h.state, Turn.target, hnext]
    rfl
  simp only [List.mem_cons, List.not_mem_nil, or_false, not_or] at hother
  obtain ⟨houtgoing, hadditional, hactive⟩ := hother
  exact ⟨by simp [hstate, houtgoing, hadditional], by simp [hstate, hactive]⟩

theorem ServiceGoesOn.of_stay {s t : Station} (hs : s.ServiceGoesOn) (h : Turns s t .stay) :
    t.ServiceGoesOn := by
  rw [serviceGoesOn_iff] at hs ⊢
  obtain ⟨hguarded, huse⟩ := hs
  exact ⟨h.guarded (Turn.guards_stay _ _) hguarded, h.inUse (Turn.holds_stay _) huse⟩

/-- The abort of the connections leads into a dead end unless it is for illegal equipment. -/
theorem abort_goesOn_iff {s : Station} (h : s.ServiceGoesOn) {i : Input}
    (hi : s.machine.handler i = .message .receiveAbort) :
    (s.handle i).station.ServiceGoesOn ↔ ¬ s.Strands i := by
  obtain ⟨data, body, hnetwork, hread, hrun⟩ := handle_of_handler_message hi
  -- Of the ways into a dead end only that of an abort is by a message.
  have hstrands : s.Strands i ↔ ∃ cause, Message.decodeCause body = .ok cause ∧
      cause ≠ .illegalMe ∧ s.connections.isEmpty = false ∧ s.Exposed := by
    constructor
    · rintro (⟨_, data', body', cause, hnetwork', hread', hcause, hother, hsome, hexposed⟩ |
        ⟨_, _, _, _⟩ | ⟨p, htype, _, _⟩)
      · obtain rfl := Option.some.inj (hnetwork.symm.trans hnetwork')
        obtain ⟨_, rfl⟩ := Received.mobility.inj (hread.symm.trans hread')
        exact ⟨cause, hcause, hother, hsome, hexposed⟩
      · cases hnetwork
      · simp [Input.network?, htype] at hnetwork
    · rintro ⟨cause, hcause, hother, hsome, hexposed⟩
      exact .abort i data body cause hnetwork hread hcause hother hsome hexposed
  rw [hstrands, hrun]
  show (s.noteContact.receiveAbort body).station.ServiceGoesOn ↔ _
  cases hcause : Message.decodeCause body with
  | error e =>
    have hsame : s.noteContact.receiveAbort body = .failed s.noteContact (.codec e) := by
      simp only [receiveAbort, hcause]
    rw [hsame]
    exact iff_of_true (h.of_stay s.turns_noteContact) (by simp)
  | ok cause =>
    have hturns := (s.turns_noteContact.trans
      (s.noteContact.turns_receiveAbort hcause)).stay_andThen
    have hcontact : s.noteContact.connected = s.connected := by simp [connected]
    rw [hcontact] at hturns
    have hsome : s.connections.isEmpty = false ↔ ¬ s.connected = false := by simp [connected]
    simp only [Except.ok.injEq, exists_eq_left', hsome]
    split at hturns
    · next hempty => exact iff_of_true (h.of_stay hturns) (by simp [hempty])
    · next hempty =>
      split at hturns
      · next hme => exact iff_of_true (.of_next hturns rfl (by decide)) (by simp [hme])
      · next hother => simp [hturns.dropped_goesOn_iff, hother, hempty]

/-- A detach over the link leads into a dead end if its message cannot be written. -/
theorem detach_goesOn_iff {s : Station} {i : Input}
    (hi : s.machine.handler i = .event .detachOverLink) :
    (s.handle i).station.ServiceGoesOn ↔ ¬ s.Strands i := by
  obtain ⟨e, rfl, htag, hrun⟩ := handle_of_handler_event hi
  obtain rfl := Event.eq_imsiDetach_of_tag (List.mem_singleton.mp htag)
  have hstrands : s.Strands (.event .imsiDetach) ↔ s.detachRequired = true ∧
      (∃ e, s.detachIndication.encode = .error e) ∧ s.Exposed := by
    constructor
    · intro h
      cases h with
      | abort _ _ _ _ hnetwork => cases hnetwork
      | detach e hrequired hencode hexposed => exact ⟨hrequired, ⟨e, hencode⟩, hexposed⟩
    · rintro ⟨hrequired, ⟨e, hencode⟩, hexposed⟩
      exact .detach e hrequired hencode hexposed
  have hturns := s.turns_detachOverLink
  rw [hstrands, hrun]
  show s.detachOverLink.station.ServiceGoesOn ↔ _
  split at hturns
  · next hrequired =>
    cases hencode : s.detachIndication.encode with
    | error e =>
      -- Connections and timer are gone already when the message turns out not to be writable.
      rw [hencode, if_neg (by simp [Except.isOk, Except.toBool])] at hturns
      simp [hturns.dropped_goesOn_iff, hrequired]
    | ok data =>
      rw [hencode, if_pos (by rfl)] at hturns
      exact iff_of_true (.of_next hturns rfl (by decide)) (by simp)
  · next hrequired => exact iff_of_true (.of_next hturns rfl (by decide)) (by simp [hrequired])

/-- The start of ciphering leads into a dead end if no connection is left. -/
theorem sync_goesOn_iff {s : Station} {i : Input}
    (hi : s.machine.handler i = .rr .confirmService) :
    (s.handle i).station.ServiceGoesOn ↔ ¬ s.Strands i := by
  obtain ⟨p, rfl, hprocedure, hrun⟩ := handle_of_handler_rr hi
  have htype : p.type = .syncIndication := by
    rw [rrProcedure?_eq] at hprocedure
    cases htype : p.type <;> cases hstate : s.machine.state <;>
      simp [htype, hstate, MainState.lossProcedure] at hprocedure ⊢
  -- The other way to be stranded needs a message, and this input carries none.
  have hstrands : s.Strands (.rr p) ↔ s.connections.isEmpty = true := by
    constructor
    · intro h
      cases h with
      | abort _ _ _ _ hnetwork => simp [Input.network?, htype] at hnetwork
      | sync _ _ _ hnone => exact hnone
    · exact .sync p htype (state_mem_of_rrProcedure? hprocedure)
  have hturns := s.turns_confirmService
  have hstate : s.confirmService.station.machine.state = .connectionActive := hturns.state
  have hconnected : s.confirmService.station.connected = s.connected := hturns.connected
  rw [hstrands, hrun]
  show s.confirmService.station.ServiceGoesOn ↔ _
  -- No timer guards an active connection, so what counts is that there is one.
  rw [serviceGoesOn_iff, InUse, Guarded, hstate, hconnected]
  simp [connected, TimerName.guards, TimerName.supervised]

/-- Handling an input leads connection management into a dead end in exactly the listed ways. -/
theorem handle_goesOn_iff {s : Station} (hs : s.PendingSupervised) {i : Input} (huse : s.InUse)
    (hguarded : s.Guarded .t3230 ∨ i = .event (.timeout .t3230)) :
    (s.handle i).station.ServiceGoesOn ↔ ¬ s.Strands i := by
  by_cases hi : s.machine.handler i ∈ endsService
  · have hcases := hi
    simp only [endsService, abandonsService, List.mem_cons, List.not_mem_nil, or_false] at hcases
    rcases hcases with hsync | habort | hdetach
    · exact sync_goesOn_iff hsync
    · refine abort_goesOn_iff (serviceGoesOn_iff.mpr ⟨?_, huse⟩) habort
      -- An abort is a message, and no expiry.
      refine hguarded.resolve_right ?_
      rintro rfl
      obtain ⟨_, _, hnetwork, _⟩ := handle_of_handler_message habort
      cases hnetwork
    · exact detach_goesOn_iff hdetach
  · -- Each way into a dead end is by one of the three handlers.
    refine iff_of_true (goesOn_of_other hs huse hguarded hi) ?_
    intro hstrands
    refine hi ?_
    cases hstrands with
    | abort _ data body cause hnetwork hread =>
      rw [StateMachine.handler_of_mobility .receiveAbort hnetwork hread rfl]
      decide
    | detach e hrequired hencode hexposed =>
      have hstate : s.machine.state ∈ EventProcedure.detachOverLink.states := by
        rcases hexposed with hactive | ⟨hwait, _⟩
        · simp [hactive, EventProcedure.states]
        · simp only [List.mem_cons, List.not_mem_nil, or_false] at hwait
          rcases hwait with hwait | hwait <;> simp [hwait, EventProcedure.states]
      have hprocedure := eventProcedure?_detachOverLink hstate
      simp [StateMachine.handler, hprocedure, endsService, abandonsService]
    | sync p htype hstate hnone =>
      have hprocedure : s.machine.rrProcedure? p = some .confirmService := by
        rw [rrProcedure?_eq, htype]
        simp only [List.mem_cons, List.not_mem_nil, or_false] at hstate
        rcases hstate with hstate | hstate <;> rw [hstate]
      simp [StateMachine.handler, htype, hprocedure, endsService]

/-! ## Runs -/

theorem exit_goesOn_iff {s : Station} :
    s.exit.ServiceGoesOn ↔ s.machine.state ∉
      [.waitForOutgoingConnection, .waitForAdditionalConnection, .connectionActive] := by
  have hstate : s.exit.machine.state = s.machine.state := rfl
  have hstopped : s.exit.timers.isRunning .t3230 = false := by
    simp [exit, TimerSet.stopAll, TimerSet.isRunning, Timer.stop, Timer.isRunning]
  have hgone : s.exit.queues.events = [] ∧ s.exit.connected = false := ⟨rfl, rfl⟩
  rw [serviceGoesOn_iff, Guarded, InUse, Attends, hstate, hstopped, hgone.1, hgone.2]
  simp [TimerName.guards, TimerName.supervised, and_assoc]

/-- An action leads connection management into a dead end in exactly the listed ways. -/
theorem perform_goesOn_iff {s : Station} (hs : s.Orderly) (h : s.ServiceGoesOn) (a : Action) :
    (s.perform a).ServiceGoesOn ↔ ¬ s.StrandsService a := by
  obtain ⟨hguarded, huse⟩ := serviceGoesOn_iff.mp h
  cases hhandled : a.handled? s with
  | none =>
    -- The exit stops the timers and forgets the connections, but keeps the state. Nothing else that
    -- handles no input touches the state or the table.
    by_cases hexit : a = .exit
    · subst hexit
      have hstrands : s.StrandsService .exit ↔ s.machine.state ∈
          [.waitForOutgoingConnection, .waitForAdditionalConnection, .connectionActive] := by
        simp [StrandsService, Action.handled?]
      rw [hstrands]
      exact exit_goesOn_iff
    · obtain ⟨hmachine, htable, _⟩ := perform_frame hhandled hexit
      have hkeeps : ¬ s.StrandsService a := by simp [StrandsService, hhandled, hexit]
      refine iff_of_true (serviceGoesOn_iff.mpr ⟨?_, ?_⟩) hkeeps
      · exact hguarded.perform hs nofun hexit fun t i hsome => by simp [hhandled] at hsome
      · unfold InUse connected
        rwa [hmachine, htable]
  | some r =>
    obtain ⟨t, i⟩ := r
    have hexit : a ≠ .exit := by
      rintro rfl
      cases hhandled
    have hstrands : s.StrandsService a ↔ t.Strands i := by
      simp [StrandsService, hhandled, hexit]
    -- Taking the input changes the queues alone.
    have hkept : t.PendingSupervised ∧ t.InUse := by
      rw [queues_of_handled hhandled]
      exact ⟨hs.supervised, huse⟩
    rw [hstrands, perform_of_handled hhandled]
    exact handle_goesOn_iff hkept.1 hkept.2 (hguarded.of_handled hhandled)

/-- Connection management goes on throughout exactly those runs in which no action leads it into a
dead end. -/
theorem serviceGoesOn_throughout_iff (config : Config) (subscriber : Subscriber)
    (actions : List Action) :
    Throughout ServiceGoesOn (ofSubscriber config subscriber) actions ↔
      EveryStep (fun s a => ¬ s.StrandsService a) (ofSubscriber config subscriber) actions :=
  throughout_iff_everyStep (fun _ a hs => hs.perform a)
    (fun _ a _ hs h => perform_goesOn_iff hs h a) (orderly_ofSubscriber config subscriber)
    ⟨fun hwait => by simp [ofSubscriber, StateMachine.start] at hwait, nofun⟩

/-- The network opens a link and a connection and aborts it: the station is left with connections in
use, and has none. -/
theorem aborted_connection_strands :
    ¬ ((ofConfig
        { imei := "356938035643809"
          imeisv := "3569380356438091"
          sim := some { imsi := "262420000000001" } }).run
      [.handle (.rr { type := .establishIndication }),
        .handle (.message [0x03, 0x05]),
        .handle (.message [0x05, 0x29, 0x11])]).ServiceGoesOn := by
  intro hgoesOn
  have hsome := hgoesOn.connected (by decide +kernel)
  revert hsome
  decide +kernel

end Station

end MobileStation
