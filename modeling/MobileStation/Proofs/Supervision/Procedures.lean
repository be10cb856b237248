import MobileStation.Proofs.Connections.Loss
import MobileStation.Proofs.Supervision.Turn

/-!
# Which turns the handlers take

What handles an input is one of a few dozen handlers: a procedure that the rules select, the handing
on of a message to connection management, or nothing that a turn is about. Each handler has a short
table of turns. Where it depends on the station which of them is taken, the lemma for the procedure
says so.

Main statements: `handle_turns` (an input takes one of the turns of its handler) and
`turns_of_tables` (what the tables say of all handlers but a few holds of the turn of every
input that none of these handles).
-/

namespace MobileStation

/-! ## Handlers -/

/-- What handles an input. -/
inductive Handler where
  /-- A procedure for a primitive from above. -/
  | cm (procedure : CmProcedure)
  /-- A procedure for a primitive from below that carries no message. -/
  | rr (procedure : RrProcedure)
  /-- A procedure for a mobility management message. -/
  | message (procedure : MessageProcedure)
  /-- A message is handed on to connection management. -/
  | connection
  /-- A procedure for an event. -/
  | event (procedure : EventProcedure)
  /-- No rule is for the input, a message is refused, or the input is about registration. -/
  | aside
  deriving DecidableEq

/-- What handles a message of the network. -/
def StateMachine.messageHandler (m : StateMachine) (data : Octets) : Handler :=
  match Received.read data with
  | .mobility type _ =>
    match m.messageProcedure type with
    | .ok procedure => .message procedure
    | .error _ => .aside
  | .connection _ _ => .connection
  | _ => .aside

/-- What handles an input. -/
def StateMachine.handler (m : StateMachine) : Input → Handler
  | .cm p => ((m.cmProcedure? p).map Handler.cm).getD .aside
  | .rr p =>
    if p.type = .dataIndication then m.messageHandler p.payload
    else ((m.rrProcedure? p).map Handler.rr).getD .aside
  | .message data => m.messageHandler data
  | .event e => ((m.eventProcedure? e).map Handler.event).getD .aside
  | .registration _ => .aside

/-- A message is handled alike, whether it comes alone or in its primitive. -/
theorem StateMachine.handler_of_network? (m : StateMachine) {i : Input} {data : Octets}
    (h : i.network? = some data) : m.handler i = m.messageHandler data := by
  cases i with
  | message d => rw [Option.some.inj h]; rfl
  | rr p =>
    obtain ⟨htype, hpayload⟩ : p.type = .dataIndication ∧ p.payload = data := by
      simpa [Input.network?] using h
    simp only [handler, htype, hpayload, if_true]
  | _ => cases h

namespace Handler

/-- The states in which something can handle an input. -/
def states : Handler → List MainState
  | cm procedure => procedure.states
  | rr procedure => procedure.states
  | message procedure => procedure.states
  | connection => MainState.all
  | event procedure => procedure.states
  | aside => MainState.all

/-- All handlers. -/
def all : List Handler :=
  [.requestFromIdle, .requestFirst, .requestAdditional, .refuseBusy, .forwardData, .releaseActive,
      .releaseWaiting, .releaseRequested].map cm ++
    [.acceptLink, .detachSent, .endDetach, .beginUpdate, .loseUpdateLink, .completeReject,
      .beginService, .receiveMessage, .confirmService, .indicateSync, .loseConnections,
      .loseLink].map rr ++
    MessageProcedure.all.map message ++
    [.normalUpdate, .periodicUpdate, .tryUpdate, .timeoutUpdate, .selectCell, .startDetach,
      .endDetach, .detachOverLink, .delayDetach, .applySystemInformation, .abortLink,
      .timeoutService, .answerAuthentication, .nothing].map event ++
    [connection, aside]

theorem mem_all (h : Handler) : h ∈ all := by
  cases h with
  | cm procedure => cases procedure <;> decide
  | rr procedure => cases procedure <;> decide
  | message procedure => cases procedure <;> decide
  | connection => decide
  | event procedure => cases procedure <;> decide
  | aside => decide

end Handler

/-- A message is handled by the procedure for its type. -/
theorem StateMachine.handler_of_mobility {m : StateMachine} {i : Input} {data body : Octets}
    {type : MessageType} (procedure : MessageProcedure) (hnetwork : i.network? = some data)
    (hread : Received.read data = .mobility type body)
    (h : m.messageProcedure type = .ok procedure) : m.handler i = .message procedure := by
  rw [m.handler_of_network? hnetwork, messageHandler, hread]
  simp only [h]

/-- A message goes to the procedure for its type, as contact with the network. -/
theorem Station.handle_of_mobility {s : Station} {i : Input} {data body : Octets}
    {type : MessageType} (procedure : MessageProcedure) (hnetwork : i.network? = some data)
    (hread : Received.read data = .mobility type body)
    (h : s.machine.messageProcedure type = .ok procedure) :
    s.handle i = procedure.run s.noteContact body := by
  rw [s.handle_of_network? hnetwork, receiveMessage_eq, hread]
  simp only [h]

/-- Over a link that is up a detach is handled at once. -/
theorem eventProcedure?_detachOverLink {m : StateMachine}
    (h : m.state ∈ EventProcedure.detachOverLink.states) :
    m.eventProcedure? .imsiDetach = some .detachOverLink := by
  obtain ⟨state⟩ := m
  simp only [EventProcedure.states, List.mem_cons, List.not_mem_nil, or_false] at h
  rcases h with rfl | rfl | rfl | rfl | rfl | rfl | rfl <;> rfl

/-- What a handler does with an input. -/
inductive Handles (s : Station) : Handler → Input → Outcome → Prop
  | cm (p : CmPrimitive) (procedure : CmProcedure)
      (h : s.machine.cmProcedure? p = some procedure) :
      Handles s (.cm procedure) (.cm p) (procedure.run (s.updateTransaction p) p)
  | rr (p : RrPrimitive) (procedure : RrProcedure)
      (h : s.machine.rrProcedure? p = some procedure) (hother : procedure ≠ .receiveMessage) :
      Handles s (.rr procedure) (.rr p) (procedure.run s p)
  | message (i : Input) (data : Octets) (type : MessageType) (body : Octets)
      (procedure : MessageProcedure) (hnetwork : i.network? = some data)
      (hread : Received.read data = .mobility type body)
      (h : s.machine.messageProcedure type = .ok procedure) :
      Handles s (.message procedure) i (procedure.run s.noteContact body)
  | connection (i : Input) (data : Octets) (protocol : CmProtocol) (header : Header)
      (hnetwork : i.network? = some data)
      (hread : Received.read data = .connection protocol header) :
      Handles s .connection i (s.receiveCm protocol header data)
  | event (e : Event) (procedure : EventProcedure)
      (h : s.machine.eventProcedure? e = some procedure) :
      Handles s (.event procedure) (.event e) (procedure.run s e)
  | aside (i : Input) (o : Outcome) (h : Turns s o.station .stay) : Handles s .aside i o

namespace Station

/-- What is done with a message. -/
theorem handles_message (s : Station) {i : Input} {data : Octets} (h : i.network? = some data) :
    Handles s (s.machine.messageHandler data) i (s.receiveMessage data) := by
  rw [receiveMessage_eq, StateMachine.messageHandler]
  cases hread : Received.read data with
  | broken e => exact .aside _ _ (.refl s)
  | skipped => exact .aside _ _ (.refl s)
  | unknown => exact .aside _ _ (s.turns_sendMessage _)
  | mobility type body =>
    dsimp only
    -- A message of mobility management is contact with the network, whether or not there is a rule
    -- for it.
    cases hprocedure : s.machine.messageProcedure type with
    | ok procedure => exact .message _ _ type _ _ h hread hprocedure
    | error cause =>
      have hall := s.turns_noteContact.trans (turns_sendMessage _ (.mmStatus cause))
      exact .aside _ _ hall.stay_andThen
  | connection protocol header => exact .connection _ _ _ _ h hread

/-- What is done with an input. -/
theorem handles (s : Station) (i : Input) : Handles s (s.machine.handler i) i (s.handle i) := by
  cases i with
  | cm p =>
    -- The transaction that is taken over first changes no connection into none.
    have hsame : (s.updateTransaction p).watched = s.watched := by
      simp only [watched, connected, isEmpty_updateTransaction]
      rfl
    have hmachine : (s.updateTransaction p).machine = s.machine := rfl
    simp only [StateMachine.handler, handle, handleCm, hmachine]
    cases hprocedure : s.machine.cmProcedure? p with
    | some procedure => exact .cm p procedure hprocedure
    | none => exact .aside _ _ (.of_watched hsame)
  | registration p => exact .aside _ _ (.of_watched (by cases p <;> rfl))
  | rr p =>
    by_cases htype : p.type = .dataIndication
    · have hnetwork : (Input.rr p).network? = some p.payload := by simp [Input.network?, htype]
      rw [s.handle_of_network? hnetwork, s.machine.handler_of_network? hnetwork]
      exact s.handles_message hnetwork
    · simp only [StateMachine.handler, if_neg htype, handle, handleRr]
      cases hprocedure : s.machine.rrProcedure? p with
      | some procedure =>
        refine .rr p procedure hprocedure ?_
        rintro rfl
        exact htype (rrProcedure?_eq_receiveMessage_iff.mp hprocedure)
      | none => exact .aside _ _ (.refl s)
  | message data => exact s.handles_message rfl
  | event e =>
    simp only [StateMachine.handler, handle, handleEvent]
    cases hprocedure : s.machine.eventProcedure? e with
    | some procedure => exact .event e procedure hprocedure
    | none => exact .aside _ _ (.refl s)

end Station

theorem Handles.state_mem {s : Station} {h : Handler} {i : Input} {o : Outcome}
    (hhandles : Handles s h i o) : s.machine.state ∈ h.states := by
  cases hhandles with
  | cm p procedure hprocedure => exact state_mem_of_cmProcedure? hprocedure
  | rr p procedure hprocedure => exact state_mem_of_rrProcedure? hprocedure
  | message i data type body procedure _ _ hprocedure =>
    exact state_mem_of_messageProcedure hprocedure
  | connection => exact MainState.mem_all _
  | event e procedure hprocedure => exact state_mem_of_eventProcedure? hprocedure
  | aside => exact MainState.mem_all _

/-- An event that comes once, by its kind. -/
theorem Event.eq_imsiDetach_of_tag {e : Event} (h : e.tag = .imsiDetach) : e = .imsiDetach := by
  cases e <;> cases h
  rfl

theorem Event.eq_timeout_of_tag {e : Event} {x : TimerName} (h : e.tag = .timeout x) :
    e = .timeout x := by
  cases e <;> cases h
  rfl

namespace Station

variable {s : Station} {i : Input}

/-- What a procedure for a primitive from below handles. -/
theorem handle_of_handler_rr {procedure : RrProcedure} (h : s.machine.handler i = .rr procedure) :
    ∃ p, i = .rr p ∧ s.machine.rrProcedure? p = some procedure ∧
      s.handle i = procedure.run s p := by
  have hhandles := s.handles i
  rw [h] at hhandles
  generalize s.handle i = o at hhandles ⊢
  cases hhandles with
  | rr p _ hprocedure => exact ⟨p, rfl, hprocedure, rfl⟩

/-- What a procedure for a message handles. -/
theorem handle_of_handler_message {procedure : MessageProcedure}
    (h : s.machine.handler i = .message procedure) :
    ∃ data body, i.network? = some data ∧ Received.read data = .mobility procedure.type body ∧
      s.handle i = procedure.run s.noteContact body := by
  have hhandles := s.handles i
  rw [h] at hhandles
  generalize s.handle i = o at hhandles ⊢
  cases hhandles with
  | message _ data type body _ hnetwork hread hprocedure =>
    obtain rfl := type_of_messageProcedure hprocedure
    exact ⟨data, body, hnetwork, hread, rfl⟩

/-- What a procedure for an event handles. -/
theorem handle_of_handler_event {procedure : EventProcedure}
    (h : s.machine.handler i = .event procedure) :
    ∃ e, i = .event e ∧ e.tag ∈ procedure.tags ∧ s.handle i = procedure.run s e := by
  have hhandles := s.handles i
  rw [h] at hhandles
  generalize s.handle i = o at hhandles ⊢
  cases hhandles with
  | event e _ hprocedure => exact ⟨e, rfl, tag_mem_of_eventProcedure? hprocedure, rfl⟩

theorem state_mem_of_handler {h : Handler} (hi : s.machine.handler i = h) :
    s.machine.state ∈ h.states := by
  rw [← hi]
  exact (s.handles i).state_mem

end Station

/-! ## Tables -/

/-- The station waits for the network without a connection, or goes on with those that are left. -/
def Turn.settles (stops : List TimerName) : List Turn :=
  [{ next := some .connectionActive, stops := stops, connected := .sets true },
    { next := some .waitForNetworkCommand, stops := stops, starts := [.t3240],
      connected := .varies }]

/-- The station returns to the idle state. -/
def Turn.idles (stops : List TimerName) : Turn :=
  { next := some .idle, stops := stops, wanted := .varies }

/-- A wanted location update is requested, or not. -/
def Turn.updates : List Turn :=
  [{ wanted := .varies },
    { next := some .waitForRadioLocationUpdate, wanted := .sets true }]

/-- The turns of a procedure for a primitive from above. -/
def CmProcedure.turns : CmProcedure → List Turn
  | requestFromIdle =>
    [.stay, { next := some .waitForRadioConnection, connected := .sets true }]
  | requestFirst =>
    [.stay,
      { next := some .waitForOutgoingConnection, starts := [.t3230], connected := .sets true }]
  | requestAdditional =>
    [.stay,
      { next := some .waitForAdditionalConnection, starts := [.t3230], connected := .sets true }]
  | refuseBusy => [.stay]
  | forwardData => [.stay]
  | releaseActive => Turn.settles []
  | releaseWaiting => [{ connected := .varies }]
  | releaseRequested =>
    [{ connected := .varies },
      { next := some .waitForNetworkCommand, stops := [.t3230], starts := [.t3240],
        connected := .varies }]

/-- The turns of a procedure for a primitive from below. -/
def RrProcedure.turns : RrProcedure → List Turn
  | acceptLink => [{ next := some .waitForNetworkCommand }]
  | detachSent => [{ next := some .imsiDetachInitiated, starts := [.t3220] }]
  | endDetach => [.idles [.t3220]]
  | beginUpdate => [{ next := some .locationUpdatingInitiated, starts := [.t3210] }]
  | loseUpdateLink => [.idles [], .idles [.t3210]]
  | completeReject => [.idles [], .idles [.t3210]]
  | beginService =>
    [{ next := some .waitForOutgoingConnection, starts := [.t3230] },
      { next := some .waitForNetworkCommand, starts := [.t3240] }]
  | receiveMessage => []
  | confirmService => [{ next := some .connectionActive, stops := [.t3230] }]
  | indicateSync => [{ stops := [.t3230] }]
  | loseConnections => [{ Turn.idles [.t3230] with connected := .sets false }]
  | loseLink => [.idles [.t3240]]

/-- The turns of a procedure for a message, in a given state. A service is accepted only in the
states in which a connection can be pending. -/
def MessageProcedure.turns (state : MainState) : MessageProcedure → List Turn
  | receiveTmsiReallocation => [.stay]
  | receiveAuthenticationRequest => [.stay]
  | receiveAuthenticationReject =>
    if state = .imsiDetachInitiated then [.idles []] else [.stay]
  | receiveIdentityRequest => [.stay]
  | receiveAbort =>
    [.stay, { Turn.idles [.t3230] with connected := .sets false },
      { stops := [.t3230], connected := .sets false }]
  | receiveInformation => [.stay]
  | receiveUpdateAccept =>
    [.stay,
      { next := some .waitForNetworkCommand, stops := [.t3210], starts := [.t3240],
        wanted := .sets false }]
  | receiveUpdateReject =>
    [.stay, { next := some .locationUpdatingReject, stops := [.t3210], starts := [.t3240] }]
  | receiveServiceAccept =>
    if state.establishes then
      [.stay, { next := some .connectionActive, stops := [.t3230], connected := .sets true }]
    else [.stay]
  | receiveServiceReject => .stay :: Turn.settles [.t3230]
  | receiveStatus => [.stay]

/-- The turns of a message that is handed on, in a given state: the connection may use a link that
the station held for the network. -/
def Turn.joins (state : MainState) : List Turn :=
  if state = .waitForNetworkCommand ∨ state = .releaseNotAllowed then
    [.stay, { next := some .connectionActive, stops := [.t3240], connected := .sets true }]
  else [.stay, { connected := .sets true }]

/-- The turns of a procedure for an event, in a given state. -/
def EventProcedure.turns (state : MainState) : EventProcedure → List Turn
  | normalUpdate => Turn.updates
  | periodicUpdate => Turn.updates
  | tryUpdate => Turn.updates
  | timeoutUpdate =>
    if state = .locationUpdatingInitiated then [.stay, .idles [.t3210]] else [.stay]
  | selectCell =>
    [.idles [], { next := some .waitForRadioLocationUpdate, wanted := .sets true }]
  | startDetach => [.stay, { next := some .waitForRadioDetach }, .idles [.t3220]]
  | endDetach => [.idles [.t3220]]
  | detachOverLink =>
    [{ next := some .imsiDetachInitiated, stops := [.t3230], starts := [.t3220],
        connected := .sets false },
      { stops := [.t3230], connected := .sets false },
      { next := some .waitForNetworkCommand, stops := [.t3230], starts := [.t3240],
        connected := .sets false }]
  | delayDetach => [.stay]
  | applySystemInformation => [.stay]
  | abortLink => [.idles []]
  | timeoutService => Turn.settles []
  | answerAuthentication => [.stay]
  | nothing => [.stay]

/-- The turns of a handler, in a given state. -/
def Handler.turns (state : MainState) : Handler → List Turn
  | cm procedure => procedure.turns
  | rr procedure => procedure.turns
  | message procedure => procedure.turns state
  | connection => Turn.joins state
  | event procedure => procedure.turns state
  | aside => [.stay]

/-- The station returns to the idle state after a turn and updates of what it is not about. -/
theorem Turns.idles {s t u : Station} {turn : Turn} (h : Turns s t turn)
    (hsame : u.watched = t.watched) : Turns s u.returnIdle (turn.andThen (.idles [])) :=
  h.trans (u.turns_returnIdle.after hsame)

theorem TurnsOneOf.of_ite {s t : Station} {p : Prop} [Decidable p] {first second : Turn}
    (h : Turns s t (if p then first else second)) : TurnsOneOf s t [first, second] := by
  split at h
  · exact .of_turns h (by simp)
  · exact .of_turns h (by simp)

namespace Station

/-! ## Connections of the protocols above -/

/-- A connection that was added is there. -/
theorem connected_of_add {t table : ConnectionTable} {c : Connection} (h : t.add c = .ok table) :
    table.isEmpty = false := by
  obtain ⟨_, _, _, rfl⟩ := ConnectionTable.add_eq_ok_iff.mp h
  simp [ConnectionTable.isEmpty]

theorem connected_of_mem {s : Station} {c : Connection} (h : c ∈ s.connections.connections) :
    s.connected = true := by
  simpa [connected, ConnectionTable.isEmpty] using List.ne_nil_of_mem h

/-- A service request adds a connection, or the station stays. -/
theorem turns_requestService (s : Station) (p : CmPrimitive) (route : Route)
    {next : Station → Station} {turn : Turn} (hnext : ∀ u : Station, Turns u (next u) turn) :
    TurnsOneOf s (s.requestService p route next).station
      [.stay, ({ connected := .sets true } : Turn).andThen turn] := by
  simp only [requestService]
  split
  · exact .of_turns (.of_watched rfl) (by simp)
  · split
    · exact .of_turns (.of_watched rfl) (by simp)
    · next data _ =>
      split
      · exact .of_turns (.of_watched rfl) (by simp)
      · exact .of_turns (.of_watched rfl) (by simp)
      · next table hadd =>
        -- Before the next state is entered, the new connection is in the table.
        have hadded : Turns s ({ s with update.attempts := 0, connections := table }.sendRr
            (route.primitive (causeOf p) data)) { connected := .sets true } := by
          refine .of_connected rfl ?_
          simp [connected, sendRr, send, connected_of_add hadd]
        exact .of_turns (hadded.trans (hnext _)) (by simp)

theorem turns_withdrawRequest (s : Station) :
    Turns s s.withdrawRequest.station
      { next := some .waitForNetworkCommand, starts := [.t3240] } :=
  s.turns_awaitNetwork.trans (turns_sendMessage _ _)

/-- Connections are released, and the station goes on with those that are left. -/
theorem turns_release_settle (s : Station) (filter : ConnectionTable.ReleaseFilter)
    (cause : UInt8) (isError : Bool) :
    Turns s (s.releaseConnections filter cause isError).settle
      (if (s.connections.release filter).isEmpty = false then
        { next := some .connectionActive, connected := .sets true }
      else { next := some .waitForNetworkCommand, starts := [.t3240], connected := .varies }) := by
  have hsettle := (s.turns_release filter cause isError).trans (turns_settle _)
  -- Where the station settles depends on whether any connection is left, and the release decides
  -- that.
  have hleft : (s.releaseConnections filter cause isError).connected = true ↔
      (s.connections.release filter).isEmpty = false := by
    simp [connected, releaseConnections, sendAllCm]
  simp only [hleft] at hsettle
  split
  · next h =>
    rw [if_pos h] at hsettle
    exact hsettle
  · next h =>
    rw [if_neg h] at hsettle
    exact hsettle

theorem turns_dropConnection (s : Station) (p : CmPrimitive) :
    Turns s (s.dropConnection p) { connected := .varies } :=
  .of_connections rfl

/-- The pending connection is put into use, so that no connection comes or goes. -/
theorem turns_confirmPending (s : Station) : Turns s s.confirmPending .stay := by
  obtain ⟨hmachine, htable, _⟩ := s.confirmPending_frame
  -- A connection that is confirmed stays in the table, which is all that is watched of it.
  have hempty : s.confirmPending.connections.isEmpty = s.connections.isEmpty := by
    rw [htable]
    simp only [Change.apply, ConnectionTable.isEmpty, ConnectionTable.modifyPending]
    cases s.connections.connections with
    | nil => rfl
    | cons c rest =>
      unfold ConnectionTable.modifyFirst
      split <;> rfl
  have hsame : s.confirmPending.timers = s.timers ∧ s.confirmPending.queues = s.queues ∧
      s.confirmPending.update = s.update := by
    unfold confirmPending
    split <;> exact ⟨rfl, rfl, rfl⟩
  exact .of_watched (by simp [watched, connected, hmachine, hempty, hsame])

theorem turns_confirmService (s : Station) :
    Turns s s.confirmService.station { next := some .connectionActive, stops := [.t3230] } :=
  ((s.turns_stopTimer .t3230).trans (turns_enter _ _ _)).trans (turns_confirmPending _)

/-- The radio link for a service request is of use only if the connection is wanted still. -/
theorem turns_beginService (s : Station) :
    Turns s s.beginService.station
      (if s.connected = true then { next := some .waitForOutgoingConnection, starts := [.t3230] }
        else { next := some .waitForNetworkCommand, starts := [.t3240] }) := by
  unfold beginService
  split
  · next hempty =>
    rw [if_neg (by simp [connected, hempty])]
    exact s.turns_withdrawRequest
  · next hsome =>
    rw [if_pos (by simpa [connected] using hsome)]
    exact s.turns_awaitService _

theorem turns_abortLink (s : Station) : Turns s s.abortLink.station (.idles []) :=
  (turns_returnIdle _).after rfl

theorem turns_loseConnections (s : Station) :
    Turns s s.loseConnections.station { Turn.idles [.t3230] with connected := .sets false } :=
  ((s.turns_stopTimer .t3230).trans (turns_release_all _ _ _)).trans (turns_returnIdle _)

/-- A procedure for a primitive from above takes one of its turns. -/
theorem turns_cmProcedure (s : Station) (p : CmPrimitive) (procedure : CmProcedure) :
    TurnsOneOf s (procedure.run s p).station procedure.turns := by
  -- Every release begins by dropping its connection. The procedures differ in what they do then.
  have hdrop := s.turns_dropConnection p
  cases procedure with
  | requestFromIdle => exact s.turns_requestService p .newLink fun u => u.turns_enter _ _
  | requestFirst => exact s.turns_requestService p .openLink fun u => u.turns_awaitService _
  | requestAdditional => exact s.turns_requestService p .openLink fun u => u.turns_awaitService _
  | refuseBusy => exact .of_turns (.of_watched rfl) (by simp [CmProcedure.turns])
  | forwardData =>
    refine .of_turns (.of_watched ?_) (List.mem_singleton_self _)
    show (s.forwardData p).station.watched = s.watched
    unfold forwardData
    split <;> rfl
  | releaseActive => exact (TurnsOneOf.of_ite (turns_settle _)).andThen hdrop
  | releaseWaiting => exact .of_turns hdrop (by simp [CmProcedure.turns])
  | releaseRequested =>
    simp only [CmProcedure.run, releaseRequested]
    split
    · exact .of_turns ((hdrop.trans (turns_stopTimer _ .t3230)).trans (turns_withdrawRequest _))
        (by decide)
    · exact .of_turns hdrop (by decide)

/-! ## Location updates -/

theorem turns_countAttempt (s : Station) : Turns s s.countAttempt .stay :=
  .of_watched (by simp [watched, connected])

theorem turns_retryLater (s : Station) : Turns s s.retryLater { wanted := .varies } := by
  have hkeeps : Turns s s { wanted := .varies } := .of_update rfl
  unfold retryLater
  split
  · exact hkeeps.trans (s.turns_startTimer_aside _ rfl _)
  · exact .of_update rfl

/-- A location update that failed stops its supervision. -/
theorem turns_failUpdate (s : Station) : Turns s s.failUpdate.station (.idles [.t3210]) := by
  have hcounted := (s.turns_stopTimer .t3210).trans (turns_countAttempt _)
  have hfailed (u : Station) : Turns u u.retryLater.returnIdle (.idles []) :=
    u.turns_retryLater.trans (turns_returnIdle _)
  simp only [failUpdate]
  split
  · exact hcounted.trans (hfailed _)
  · exact hcounted.trans ((hfailed (deregister _ .notUpdated)).after rfl)

/-- The first random access failure leaves the supervision of the update alone. -/
theorem turns_loseUpdateLink (s : Station) (p : RrPrimitive) :
    Turns s (s.loseUpdateLink p).station
      (if p.cause = RrCause.randomAccessFailure ∧ s.update.accessFailed = false then .idles []
        else .idles [.t3210]) := by
  simp only [loseUpdateLink, Bool.not_eq_true']
  split
  · have hdelayed : Turns s ({ s with update.accessFailed := true }.startTimer .t3213
        s.config.timers.t3213.toNat) .stay :=
      (turns_startTimer_aside _ _ rfl _).after rfl
    exact hdelayed.trans (turns_returnIdle _)
  · exact (turns_failUpdate _).after rfl

/-- The end of a reject leaves the supervision of the link alone. -/
theorem turns_completeReject (s : Station) :
    Turns s s.completeReject.station
      (if isFinalReject s.update.rejectCause = true then .idles [] else .idles [.t3210]) := by
  simp only [completeReject]
  split
  -- The reject is acted upon: none of this is watched but the wish.
  · have hforgotten : Turns s
        { (((s.rejectIdentity s.update.rejectCause).deregister .roamingNotAllowed).send
            (.plmnSearch (rejectEvent s.update.rejectCause))).forbidRejected
              s.update.rejectCause with update.wanted := false } { wanted := .varies } := by
      refine ⟨?_, ?_, ?_, ?_, trivial⟩
      · simp [Turn.target, send, deregister]
      · intro x _
        simp [send, deregister]
      · intro x
        simp [send, deregister]
      · simp [Fate.Leads, connected, send, deregister]
    exact hforgotten.trans (turns_returnIdle _)
  · exact (turns_failUpdate _).after rfl

/-- A location update that timed out fails, and an expiry that comes too late has no effect. -/
theorem turns_timeoutUpdate (s : Station) :
    Turns s s.timeoutUpdate.station
      (if s.update.wanted = true ∧ s.machine.state = .locationUpdatingInitiated then
        .idles [.t3210]
      else .stay) := by
  unfold timeoutUpdate
  split
  · exact (turns_failUpdate _).after rfl
  · exact .refl s

theorem turns_tryUpdate (s : Station) : TurnsOneOf s s.tryUpdate.station Turn.updates := by
  have hgivenUp (t : Station) (hsame : { t with update := s.update }.watched = s.watched) :
      TurnsOneOf s t Turn.updates :=
    .of_turns (.of_update hsame) (by decide)
  unfold tryUpdate requestUpdate
  split
  · exact hgivenUp s rfl
  · next hwanted =>
    split
    · split
      · exact hgivenUp s rfl
      · -- The request is made because the update is wanted, and it stays so.
        have henters := s.turns_enter .waitForRadioLocationUpdate none
        have hkept := Eq.trans henters.wanted (by simpa using hwanted)
        exact .of_turns ((henters.wants hkept).before rfl) (by decide)
    · exact hgivenUp _ rfl

theorem turns_startUpdate (s : Station) (kind : UpdateKind) :
    TurnsOneOf s (s.startUpdate kind).station Turn.updates := by
  have hwish : Turns s { s with update :=
      { s.update with wanted := true, kind := kind, attempts := 0, accessFailed := false } }
      { wanted := .varies } := .of_update rfl
  simp only [startUpdate]
  split
  · exact .of_turns (.of_update rfl) (by decide)
  · exact ((turns_tryUpdate _).andThen hwish).mono (by decide)

theorem turns_selectCell (s : Station) :
    TurnsOneOf s s.selectCell.station
      [.idles [], { next := some .waitForRadioLocationUpdate, wanted := .sets true }] := by
  have hidle := s.turns_returnIdle
  -- The idle state is entered anew, and from there an update may start.
  have hupdate : TurnsOneOf s s.returnIdle.normalUpdate.station
      [.idles [], { next := some .waitForRadioLocationUpdate, wanted := .sets true }] :=
    ((turns_startUpdate _ _).andThen hidle).mono (by decide)
  simp only [selectCell]
  split
  · exact hupdate
  · exact hupdate
  · split
    · exact hupdate
    · exact .of_turns hidle (by decide)
  · exact .of_turns hidle (by decide)

theorem turns_beginUpdate (s : Station) :
    Turns s s.beginUpdate.station
      { next := some .locationUpdatingInitiated, starts := [.t3210] } :=
  (s.turns_startTimer (by decide) _).trans (turns_enter _ _ _)

/-! ## Detach -/

theorem turns_endDetach (s : Station) : Turns s s.endDetach.station (.idles [.t3220]) :=
  (s.turns_stopTimer .t3220).idles (by rfl)

theorem turns_startDetach (s : Station) :
    TurnsOneOf s s.startDetach.station
      [.stay, { next := some .waitForRadioDetach }, .idles [.t3220]] := by
  unfold startDetach
  split
  · split
    · exact .refl (by simp)
    · exact .of_turns ((s.turns_enter .waitForRadioDetach none).before rfl) (by simp)
  · exact .of_turns s.turns_endDetach (by simp)

/-- A detach over the link releases all connections, whatever becomes of its message. -/
theorem turns_detachOverLink (s : Station) :
    Turns s s.detachOverLink.station
      (if s.detachRequired = true then
        if s.detachIndication.encode.isOk = true then
          { next := some .imsiDetachInitiated, stops := [.t3230], starts := [.t3220],
            connected := .sets false }
        else { stops := [.t3230], connected := .sets false }
      else
        { next := some .waitForNetworkCommand, stops := [.t3230], starts := [.t3240],
          connected := .sets false }) := by
  have hreleased := (s.turns_stopTimer .t3230).trans
    (turns_release_all _ CmCause.normalRelease false)
  have hsame : ((s.stopTimer .t3230).releaseConnections .all CmCause.normalRelease
        false).detachRequired = s.detachRequired ∧
      ((s.stopTimer .t3230).releaseConnections .all CmCause.normalRelease
        false).detachIndication = s.detachIndication := ⟨rfl, rfl⟩
  simp only [detachOverLink, hsame]
  split
  -- If the indication cannot be written, the procedure breaks off after the release.
  · cases hencode : s.detachIndication.encode with
    | error e =>
      rw [sendMessage_of_not_encode _ hencode, if_neg (by simp [Except.isOk, Except.toBool])]
      exact hreleased
    | ok data =>
      rw [sendMessage_of_encode _ hencode, if_pos (by rfl)]
      have hsent := hreleased.trans (turns_send _ (.rr (.send data)))
      exact hsent.trans (turns_awaitDetach _)
  · exact hreleased.trans (turns_awaitNetwork _)

/-! ## Messages of the network -/

theorem turns_receiveTmsiReallocation (s : Station) (body : Octets) :
    Turns s (s.receiveTmsiReallocation body).station .stay := by
  unfold receiveTmsiReallocation
  split
  · exact s.turns_sendMessage _
  · exact .refl s
  · exact (turns_sendMessage _ _).after rfl
  · exact (turns_sendMessage _ _).after rfl
  · exact s.turns_sendMessage _

theorem turns_receiveAuthenticationRequest (s : Station) (body : Octets) :
    Turns s (s.receiveAuthenticationRequest body).station .stay := by
  unfold receiveAuthenticationRequest
  split
  · exact .refl s
  · split
    · exact .of_watched rfl
    · exact s.turns_sendMessage _

theorem turns_receiveIdentityRequest (s : Station) (body : Octets) :
    Turns s (s.receiveIdentityRequest body).station .stay := by
  simp only [receiveIdentityRequest]
  split
  · exact .refl s
  · split
    · exact s.turns_sendMessage _
    · split
      · exact s.turns_sendMessage _
      · exact s.turns_sendMessage _

/-- A refused subscriber cannot complete a detach, whose supervision is left alone. -/
theorem turns_receiveAuthenticationReject (s : Station) :
    Turns s s.receiveAuthenticationReject.station
      (if s.machine.state = .imsiDetachInitiated then .idles [] else .stay) := by
  have hstop : Turns s (s.stopTimer .t3212) .stay := s.turns_stopTimer_aside _ rfl
  simp only [receiveAuthenticationReject]
  split
  · next hdetach =>
    have hstate : s.machine.state = .imsiDetachInitiated := hdetach
    rw [if_pos hstate]
    exact hstop.idles (by rfl)
  · next hdetach =>
    have hstate : ¬ s.machine.state = .imsiDetachInitiated := hdetach
    rw [if_neg hstate]
    exact hstop.before rfl

/-- The abort of all connections, with a cause that can be read. -/
theorem turns_receiveAbort (s : Station) {body : Octets} {cause : RejectCause}
    (h : Message.decodeCause body = .ok cause) :
    Turns s (s.receiveAbort body).station
      (if s.connected = false then .stay
      else if cause = .illegalMe then { Turn.idles [.t3230] with connected := .sets false }
      else { stops := [.t3230], connected := .sets false }) := by
  have hreleased := (s.turns_stopTimer .t3230).trans
    (turns_release_all _ CmCause.normalRelease false)
  have hempty : s.connections.isEmpty = true ↔ s.connected = false := by simp [connected]
  simp only [receiveAbort, h, hempty]
  split
  · exact s.turns_sendMessage _
  · split
    · exact hreleased.idles (by rfl)
    · exact hreleased

theorem turnsOneOf_receiveAbort (s : Station) (body : Octets) :
    TurnsOneOf s (s.receiveAbort body).station
      [.stay, { Turn.idles [.t3230] with connected := .sets false },
        { stops := [.t3230], connected := .sets false }] := by
  cases hcause : Message.decodeCause body with
  | error e =>
    simp only [receiveAbort, hcause]
    exact .refl (by simp)
  | ok cause =>
    have hturns := s.turns_receiveAbort hcause
    split at hturns
    · exact .of_turns hturns (by simp)
    · split at hturns
      · exact .of_turns hturns (by simp)
      · exact .of_turns hturns (by simp)

theorem turns_receiveUpdateAccept (s : Station) (body : Octets) :
    TurnsOneOf s (s.receiveUpdateAccept body).station
      [.stay,
        { next := some .waitForNetworkCommand, stops := [.t3210], starts := [.t3240],
          wanted := .sets false }] := by
  simp only [receiveUpdateAccept]
  split
  · exact .refl (by simp)
  · next accept _ =>
    have hstopped := (s.turns_stopTimer_aside .t3212 rfl).trans
      (turns_stopTimer _ .t3210)
    have hstored (u : Station) : Turns u (u.registerIn accept.lai) { wanted := .sets false } :=
      ⟨rfl, fun _ _ => rfl, fun _ => Iff.rfl, rfl, rfl⟩
    obtain ⟨t, happly, _⟩ := sends_applyAcceptedIdentity
      (((s.stopTimer .t3212).stopTimer .t3210).registerIn accept.lai) accept.identity
    have hkept := applyAcceptedIdentity_frame
      (((s.stopTimer .t3212).stopTimer .t3210).registerIn accept.lai) accept.identity
    rw [happly] at hkept ⊢
    -- What is stored and told to others is not watched.
    have hanswered : Turns (((s.stopTimer .t3212).stopTimer .t3210).registerIn accept.lai)
        ((t.send (.plmnSearch .registered)).send (.registration .registerConfirm)) .stay :=
      .of_watched (by simp_all [watched, connected, send])
    have hall := ((hstopped.trans (hstored _)).trans hanswered).trans (turns_awaitNetwork _)
    exact .of_turns hall (by decide)

theorem turns_receiveUpdateReject (s : Station) (body : Octets) :
    TurnsOneOf s (s.receiveUpdateReject body).station
      [.stay,
        { next := some .locationUpdatingReject, stops := [.t3210], starts := [.t3240] }] := by
  simp only [receiveUpdateReject]
  split
  · exact .refl (by simp)
  · next cause _ =>
    have hstopped := (s.turns_stopTimer_aside .t3212 rfl).trans
      (turns_stopTimer _ .t3210)
    have hwaits (u v : Station) (hsame : u.watched = v.watched) :
        Turns v (u.startReleaseTimer.enter .locationUpdatingReject none)
          { next := some .locationUpdatingReject, starts := [.t3240] } :=
      ((u.turns_startTimer (by decide) _).trans (turns_enter _ _ _)).after hsame
    exact .of_turns (hstopped.trans (hwaits _ _ rfl)) (by decide)

/-- A service is accepted only in the states in which a connection can be pending. -/
theorem turns_receiveServiceAccept {s : Station} (hs : s.PendingSupervised) :
    TurnsOneOf s s.receiveServiceAccept.station
      (if s.machine.state.establishes = true then
        [.stay, { next := some .connectionActive, stops := [.t3230], connected := .sets true }]
      else [.stay]) := by
  unfold receiveServiceAccept
  split
  · next hpending =>
    obtain ⟨c, hc⟩ := Option.isSome_iff_exists.mp hpending
    -- Where a connection is pending, the state is one that establishes it.
    have hcount : s.connections.pendingCount ≠ 0 := by
      rw [Ne, ConnectionTable.pendingCount_eq_zero_iff, hc]
      exact nofun
    have hconnected : s.connected = true := connected_of_mem (List.mem_of_find?_eq_some hc)
    have hconfirms := s.turns_confirmService
    rw [if_pos (hs hcount)]
    exact .of_turns (hconfirms.connects (Eq.trans hconfirms.connected hconnected)) (by simp)
  · exact .refl (by split <;> simp)

/-- A connection is left after a service request was rejected: the cause does not end them all, and
one is not pending. -/
def servesOn (s : Station) (cause : RejectCause) : Prop :=
  ¬ (cause = .imsiUnknownInVlr ∨ cause = .illegalMe) ∧
    (s.connections.release .pendingOnly).isEmpty = false

instance (s : Station) (cause : RejectCause) : Decidable (s.servesOn cause) :=
  inferInstanceAs (Decidable (_ ∧ _))

/-- A rejected service request, with a cause that can be read: only the supervision of service
requests is stopped, whatever the station was waiting for. -/
theorem turns_receiveServiceReject (s : Station) {body : Octets} {cause : RejectCause}
    (h : Message.decodeCause body = .ok cause) :
    Turns s (s.receiveServiceReject body).station
      (if s.servesOn cause then
        { next := some .connectionActive, stops := [.t3230], connected := .sets true }
      else
        { next := some .waitForNetworkCommand, stops := [.t3230], starts := [.t3240],
          connected := .varies }) := by
  have hsettle (u : Station) (hsame : u.watched = (s.stopTimer .t3230).watched)
      (filter : ConnectionTable.ReleaseFilter) (isError : Bool) :
      Turns s (u.releaseConnections filter CmCause.normalRelease isError).settle
        (if (u.connections.release filter).isEmpty = false then
          { next := some .connectionActive, stops := [.t3230], connected := .sets true }
        else
          { next := some .waitForNetworkCommand, stops := [.t3230], starts := [.t3240],
            connected := .varies }) := by
    have hboth := (s.turns_stopTimer .t3230).trans
      ((u.turns_release_settle filter CmCause.normalRelease isError).after hsame)
    split
    · next hleft =>
      rw [if_pos hleft] at hboth
      exact hboth
    · next hleft =>
      rw [if_neg hleft] at hboth
      exact hboth
  simp only [receiveServiceReject, h]
  split
  · next hall =>
    -- Every connection is released.
    have hnone (t : ConnectionTable) : ¬ (t.release .all).isEmpty = false := by
      simp [ConnectionTable.release, ConnectionTable.isEmpty,
        ConnectionTable.ReleaseFilter.selects]
    have hends : ¬ s.servesOn cause := fun hleft => hleft.1 hall
    rw [if_neg hends]
    split
    · have hturns := hsettle { (s.stopTimer .t3230).deregister .notUpdated with
        subscriber.simValid := false } rfl .all true
      rwa [if_neg (hnone _)] at hturns
    · have hturns := hsettle ((s.stopTimer .t3230).deregister .notUpdated) rfl .all true
      rwa [if_neg (hnone _)] at hturns
  · next hpending =>
    have hturns := hsettle (s.stopTimer .t3230) rfl .pendingOnly false
    have hleft : s.servesOn cause ↔
        ((s.stopTimer .t3230).connections.release .pendingOnly).isEmpty = false :=
      and_iff_right hpending
    simp only [hleft]
    exact hturns

theorem turnsOneOf_receiveServiceReject (s : Station) (body : Octets) :
    TurnsOneOf s (s.receiveServiceReject body).station (.stay :: Turn.settles [.t3230]) := by
  cases hcause : Message.decodeCause body with
  | error e =>
    simp only [receiveServiceReject, hcause]
    exact .refl (by simp)
  | ok cause => exact (TurnsOneOf.of_ite (s.turns_receiveServiceReject hcause)).mono (by decide)

/-- A procedure for a message takes one of its turns. -/
theorem turns_messageProcedure {s : Station} (hs : s.PendingSupervised) (body : Octets)
    (procedure : MessageProcedure) :
    TurnsOneOf s (procedure.run s body).station (procedure.turns s.machine.state) := by
  -- Most procedures have a single turn whatever the message says; for the others the message picks
  -- one of the list.
  cases procedure with
  | receiveTmsiReallocation =>
    exact .of_turns (s.turns_receiveTmsiReallocation body) (List.mem_singleton_self _)
  | receiveAuthenticationRequest =>
    exact .of_turns (s.turns_receiveAuthenticationRequest body) (List.mem_singleton_self _)
  | receiveAuthenticationReject =>
    refine .of_turns s.turns_receiveAuthenticationReject ?_
    simp only [MessageProcedure.turns]
    split <;> simp
  | receiveIdentityRequest =>
    exact .of_turns (s.turns_receiveIdentityRequest body) (List.mem_singleton_self _)
  | receiveAbort => exact s.turnsOneOf_receiveAbort body
  | receiveInformation =>
    refine .of_turns (.of_watched ?_) (List.mem_singleton_self _)
    show (s.receiveInformation body).station.watched = s.watched
    unfold receiveInformation
    split <;> rfl
  | receiveUpdateAccept => exact s.turns_receiveUpdateAccept body
  | receiveUpdateReject => exact s.turns_receiveUpdateReject body
  | receiveServiceAccept => exact turns_receiveServiceAccept hs
  | receiveServiceReject => exact s.turnsOneOf_receiveServiceReject body
  | receiveStatus =>
    refine .of_turns (.of_watched ?_) (List.mem_singleton_self _)
    show (s.receiveStatus body).station.watched = s.watched
    unfold receiveStatus
    split <;> rfl

theorem turns_joinLink (s : Station) :
    Turns s s.joinLink
      (if s.machine.state = .waitForNetworkCommand ∨ s.machine.state = .releaseNotAllowed then
        { next := some .connectionActive, stops := [.t3240] }
      else .stay) := by
  unfold joinLink
  split
  · exact (s.turns_stopTimer .t3240).trans (turns_enter _ _ _)
  · exact .refl s

/-- A message is handed on over a connection that is there, known before or not. -/
theorem turnsOneOf_joinLink {s t : Station} (h : Turns s t { connected := .sets true })
    (p : CmPrimitive) : TurnsOneOf s (t.joinLink.sendCm p) (Turn.joins s.machine.state) := by
  have hstate : t.machine.state = s.machine.state := h.state
  have hall := (h.trans t.turns_joinLink).trans (turns_send _ (.cm p))
  rw [hstate] at hall
  refine .of_turns hall ?_
  unfold Turn.joins
  split <;> decide

/-- A message that is handed on has a connection, unless it cannot be opened. -/
theorem turns_receiveCm (s : Station) (protocol : CmProtocol) (header : Header) (data : Octets) :
    TurnsOneOf s (s.receiveCm protocol header data).station (Turn.joins s.machine.state) := by
  simp only [receiveCm]
  split
  · next c hknown =>
    have hthere := connected_of_mem (List.mem_of_find?_eq_some hknown)
    exact turnsOneOf_joinLink (.of_connected rfl hthere) _
  · split
    · -- The connection cannot be opened, and the message is lost.
      refine .of_turns (.of_watched rfl) ?_
      unfold Turn.joins
      split <;> decide
    · next table p hopen =>
      obtain ⟨c, _, hadd, _⟩ := openConnection_eq_ok hopen
      have hopened : Turns s { s.takeReference s.freeReference with connections := table }
          { connected := .sets true } := by
        refine .of_connected rfl ?_
        simp [connected, connected_of_add hadd]
      exact turnsOneOf_joinLink hopened _

/-! ## Inputs -/

/-- A procedure for a primitive from below takes one of its turns. -/
theorem turns_rrProcedure (s : Station) (p : RrPrimitive) {procedure : RrProcedure}
    (hother : procedure ≠ .receiveMessage) :
    TurnsOneOf s (procedure.run s p).station procedure.turns := by
  cases procedure with
  | acceptLink => exact .of_turns (s.turns_enter _ _) (List.mem_singleton_self _)
  | detachSent => exact .of_turns s.turns_awaitDetach (List.mem_singleton_self _)
  | endDetach => exact .of_turns s.turns_endDetach (List.mem_singleton_self _)
  | beginUpdate => exact .of_turns s.turns_beginUpdate (List.mem_singleton_self _)
  | loseUpdateLink => exact .of_ite (s.turns_loseUpdateLink p)
  | completeReject => exact .of_ite s.turns_completeReject
  | beginService => exact .of_ite s.turns_beginService
  | receiveMessage => exact absurd rfl hother
  | confirmService => exact .of_turns s.turns_confirmService (List.mem_singleton_self _)
  -- The connections are told first, which is not watched.
  | indicateSync =>
    have hstopped := (s.turns_stopTimer .t3230).before (u := (s.indicateSync p).station) rfl
    exact .of_turns hstopped (List.mem_singleton_self _)
  | loseConnections => exact .of_turns s.turns_loseConnections (List.mem_singleton_self _)
  | loseLink =>
    exact .of_turns ((s.turns_stopTimer .t3240).trans (turns_returnIdle _))
      (List.mem_singleton_self _)

theorem turns_applySystemInformation (s : Station) (info : SystemInformation) (chance : Nat) :
    Turns s (s.applySystemInformation info chance) .stay := by
  -- T3212 is the only timer that is touched, and it supervises no state.
  have hchange (u : Station) (seconds : UInt32) :
      Turns u (u.changePeriodicInterval seconds chance) .stay := by
    refine turns_of_aside .t3212 rfl ?_ (by simp [watched, connected])
    intro x hne
    simp only [changePeriodicInterval]
    split
    · simp
    · simp [startTimer, u.timers.isRunning_start_of_ne hne]
  simp only [applySystemInformation]
  split
  · split
    · exact (hchange _ _).after rfl
    · exact .of_watched rfl
  · split
    · exact ((turns_stopTimer_aside _ .t3212 rfl).after rfl).before rfl
    · exact .of_watched rfl

/-- A procedure for an event takes one of its turns. -/
theorem turns_eventProcedure (s : Station) (e : Event) (procedure : EventProcedure) :
    TurnsOneOf s (procedure.run s e).station (procedure.turns s.machine.state) := by
  cases procedure with
  | normalUpdate => exact s.turns_startUpdate _
  | periodicUpdate => exact s.turns_startUpdate _
  | tryUpdate => exact s.turns_tryUpdate
  | timeoutUpdate =>
    refine .of_turns s.turns_timeoutUpdate ?_
    -- Whether the expiry of T3210 is acted upon depends on the state and on the wish.
    by_cases hstate : s.machine.state = .locationUpdatingInitiated <;>
      cases s.update.wanted <;> simp [EventProcedure.turns, hstate]
  | selectCell => exact s.turns_selectCell
  | startDetach => exact s.turns_startDetach
  | endDetach => exact .of_turns s.turns_endDetach (List.mem_singleton_self _)
  | detachOverLink =>
    have hturns := s.turns_detachOverLink
    split at hturns
    · exact (TurnsOneOf.of_ite hturns).mono (by simp [EventProcedure.turns])
    · exact .of_turns hturns (by simp [EventProcedure.turns])
  | delayDetach => exact .of_turns (.of_watched rfl) (List.mem_singleton_self _)
  | applySystemInformation =>
    cases e with
    | systemInformation info chance =>
      exact .of_turns (s.turns_applySystemInformation info chance) (List.mem_singleton_self _)
    | _ => exact .refl (List.mem_singleton_self _)
  | abortLink => exact .of_turns s.turns_abortLink (List.mem_singleton_self _)
  | timeoutService => exact .of_ite (s.turns_release_settle _ _ _)
  | answerAuthentication =>
    cases e with
    | authenticationResponse sres =>
      exact .of_turns (s.turns_sendMessage _) (List.mem_singleton_self _)
    | _ => exact .refl (List.mem_singleton_self _)
  | nothing => exact .refl (List.mem_singleton_self _)

/-- A handler takes one of its turns. -/
theorem turns_of_handles {s : Station} (hs : s.PendingSupervised) {h : Handler} {i : Input}
    {o : Outcome} (hhandles : Handles s h i o) :
    TurnsOneOf s o.station (h.turns s.machine.state) := by
  -- One table of turns for each kind of handler. Renaming a transaction and noting the contact come
  -- before it and are no turns of their own.
  cases hhandles with
  | cm p procedure =>
    refine (turns_cmProcedure _ p procedure).after ?_
    simp only [watched, connected, isEmpty_updateTransaction]
    rfl
  | rr p procedure _ hother => exact s.turns_rrProcedure p hother
  | message i data type body procedure =>
    have hcontact : s.noteContact.PendingSupervised := by simpa [PendingSupervised] using hs
    obtain ⟨turn, hmem, hturns⟩ := turns_messageProcedure hcontact body procedure
    have hstate : s.noteContact.machine.state = s.machine.state := by simp
    rw [hstate] at hmem
    exact .of_turns (s.turns_noteContact.trans hturns).stay_andThen hmem
  | connection i data protocol header => exact s.turns_receiveCm protocol header data
  | event e procedure => exact s.turns_eventProcedure e procedure
  | aside i o hturns => exact .of_turns hturns (List.mem_singleton_self _)

/-- An input takes one of the turns of its handler. -/
theorem handle_turns {s : Station} (hs : s.PendingSupervised) (i : Input) :
    TurnsOneOf s (s.handle i).station ((s.machine.handler i).turns s.machine.state) :=
  turns_of_handles hs (s.handles i)

/-- What the tables say of every turn of every handler but a few holds of the turn of an input that
none of those few handles. -/
theorem turns_of_tables {s : Station} (hs : s.PendingSupervised) {i : Input}
    {P : MainState → Turn → Prop} (except : List Handler) (hi : s.machine.handler i ∉ except)
    (table : ∀ h ∈ Handler.all, h ∉ except → ∀ state ∈ h.states, ∀ turn ∈ h.turns state,
      P state turn) :
    ∃ turn, P s.machine.state turn ∧ Turns s (s.handle i).station turn := by
  obtain ⟨turn, hmem, hturns⟩ := handle_turns hs i
  exact ⟨turn, table _ (Handler.mem_all _) hi _ (s.handles i).state_mem _ hmem, hturns⟩

end Station

end MobileStation
