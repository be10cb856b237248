import MobileStation.Station.Rules

/-!
# What the rules select

The first rule that fits an input decides. Read the other way round, a procedure that was selected
tells the kind of the input and the states in which it can run. The facts about single rules are
checked through the tables; those that depend on the order of the rules follow from the selection
itself.

Main statements: `keyed_of_select?` and `state_mem_of_select?` for any table, and for the four
tables what they say of each procedure.
-/

namespace MobileStation

/-! ## Any table -/

theorem MainState.mem_all (state : MainState) : state ∈ all := by
  cases state <;> decide

/-- The main states that a scope covers, at least with some substate. -/
def Scope.states : Scope → List MainState
  | everywhere => MainState.all
  | idle => [.idle]
  | idleIn _ => [.idle]
  | notIdle => MainState.all.filter (· ≠ .idle)
  | within states => states

theorem Scope.mem_states_of_covers {scope : Scope} {m : StateMachine}
    (h : scope.covers m = true) : m.state ∈ scope.states := by
  cases scope with
  | everywhere => exact m.state.mem_all
  | idle => simpa [covers, StateMachine.isIdle, states] using h
  | idleIn substates =>
    simp only [covers, StateMachine.isIdle, Bool.and_eq_true, decide_eq_true_eq] at h
    simp [states, h.1]
  | notIdle => simpa [covers, StateMachine.isIdle, states, MainState.mem_all] using h
  | within list => simpa [covers, states] using h

/-- The scope covers the idle state alone, with substates that `P` holds of. -/
def Scope.idlesWith (P : IdleSubstate → Bool) : Scope → Bool
  | idleIn substates => substates.all P
  | _ => false

theorem Scope.idle_of_covers {P : IdleSubstate → Bool} {scope : Scope} {m : StateMachine}
    (h : scope.idlesWith P = true) (hcovers : scope.covers m = true) :
    m.isIdle = true ∧ P m.lastSubstate = true := by
  cases scope with
  | idleIn substates =>
    simp only [covers, Bool.and_eq_true, List.contains_iff_mem] at hcovers
    exact ⟨hcovers.1, List.all_eq_true.mp h _ hcovers.2⟩
  | _ => cases h

namespace Rule

variable {Key Procedure : Type} [BEq Key] [LawfulBEq Key]

/-- A selected procedure is that of a rule with the key that covers the state. -/
theorem exists_of_select? {rules : List (Rule Key Procedure)} {m : StateMachine} {key : Key}
    {procedure : Procedure} (h : select? rules m key = some procedure) :
    ∃ r ∈ rules, r.key = key ∧ r.scope.covers m = true ∧ r.procedure = procedure := by
  obtain ⟨r, hfind, hprocedure⟩ := Option.map_eq_some_iff.mp h
  have hfits := List.find?_some hfind
  simp only [Bool.and_eq_true, beq_iff_eq] at hfits
  exact ⟨r, List.mem_of_find?_eq_some hfind, hfits.1, hfits.2, hprocedure⟩

/-- A selected procedure has every relation to the key that all rules of the table have. -/
theorem keyed_of_select? {rules : List (Rule Key Procedure)} {P : Key → Procedure → Prop}
    (table : ∀ r ∈ rules, P r.key r.procedure) {m : StateMachine} {key : Key}
    {procedure : Procedure} (h : select? rules m key = some procedure) : P key procedure := by
  obtain ⟨r, hmem, rfl, _, rfl⟩ := exists_of_select? h
  exact table r hmem

/-- A selected procedure runs in one of the states that the table gives it. -/
theorem state_mem_of_select? {rules : List (Rule Key Procedure)}
    {states : Procedure → List MainState}
    (table : ∀ r ∈ rules, ∀ state ∈ r.scope.states, state ∈ states r.procedure)
    {m : StateMachine} {key : Key} {procedure : Procedure}
    (h : select? rules m key = some procedure) : m.state ∈ states procedure := by
  obtain ⟨r, hmem, _, hcovers, rfl⟩ := exists_of_select? h
  exact table r hmem _ (Scope.mem_states_of_covers hcovers)

end Rule

/-! ## Primitives from above -/

/-- The type of the primitives that a procedure is for. -/
def CmProcedure.type : CmProcedure → CmPrimitiveType
  | requestFromIdle => .establishRequest
  | requestFirst => .establishRequest
  | requestAdditional => .establishRequest
  | refuseBusy => .establishRequest
  | forwardData => .dataRequest
  | releaseActive => .releaseRequest
  | releaseWaiting => .releaseRequest
  | releaseRequested => .releaseRequest

/-- The states in which a procedure for a primitive from above can run. -/
def CmProcedure.states : CmProcedure → List MainState
  | requestFromIdle => [.idle]
  | requestFirst => [.releaseNotAllowed]
  | requestAdditional => [.connectionActive]
  | refuseBusy => MainState.all
  | forwardData => [.connectionActive, .waitForAdditionalConnection]
  | releaseActive => [.connectionActive]
  | releaseWaiting => [.waitForAdditionalConnection, .waitForRadioConnection]
  | releaseRequested => [.waitForOutgoingConnection]

theorem type_of_cmProcedure? {m : StateMachine} {p : CmPrimitive} {procedure : CmProcedure}
    (h : m.cmProcedure? p = some procedure) : p.type = procedure.type :=
  Rule.keyed_of_select? (P := fun key procedure => key.1 = procedure.type) (by decide) h

theorem state_mem_of_cmProcedure? {m : StateMachine} {p : CmPrimitive} {procedure : CmProcedure}
    (h : m.cmProcedure? p = some procedure) : m.state ∈ procedure.states :=
  Rule.state_mem_of_select? (by decide) h

/-- The states in which a connection can be released from above. -/
def MainState.releases : MainState → Bool
  | connectionActive => true
  | waitForAdditionalConnection => true
  | waitForOutgoingConnection => true
  | waitForRadioConnection => true
  | _ => false

/-- Where a connection can be released, a release request does so. -/
theorem cmProcedure?_of_releases {m : StateMachine} {p : CmPrimitive}
    (htype : p.type = .releaseRequest) (hstate : m.state.releases = true) :
    m.cmProcedure? p = some .releaseActive ∨ m.cmProcedure? p = some .releaseWaiting ∨
      m.cmProcedure? p = some .releaseRequested := by
  -- The table is looked up for each state and protocol; the primitive's other fields play no part.
  obtain ⟨type, protocol⟩ := p
  obtain ⟨state⟩ := m
  subst htype
  cases state <;> cases hstate <;> cases protocol <;>
    first | exact .inl rfl | exact .inr (.inl rfl) | exact .inr (.inr rfl)

/-! ## Primitives from below -/

/-- What is done when the radio link is lost in a state. -/
def MainState.lossProcedure : MainState → RrProcedure
  | waitForRadioDetach => .endDetach
  | imsiDetachInitiated => .endDetach
  | locationUpdatingInitiated => .loseUpdateLink
  | waitForRadioLocationUpdate => .loseUpdateLink
  | locationUpdatingReject => .completeReject
  | waitForRadioConnection => .loseConnections
  | waitForOutgoingConnection => .loseConnections
  | waitForAdditionalConnection => .loseConnections
  | connectionActive => .loseConnections
  | _ => .loseLink

/-- What is done with a primitive from below, told by its type. -/
theorem rrProcedure?_eq (m : StateMachine) (p : RrPrimitive) :
    m.rrProcedure? p =
      match p.type, m.state with
      | .establishIndication, .idle => some .acceptLink
      | .establishConfirm, .waitForRadioDetach => some .detachSent
      | .establishConfirm, .waitForRadioLocationUpdate => some .beginUpdate
      | .establishConfirm, .waitForRadioConnection => some .beginService
      | .dataIndication, _ => some .receiveMessage
      | .syncIndication, .waitForOutgoingConnection => some .confirmService
      | .syncIndication, .waitForAdditionalConnection => some .confirmService
      | .syncIndication, .connectionActive => some .indicateSync
      | .releaseIndication, state => some state.lossProcedure
      | .abortIndication, state => some state.lossProcedure
      | _, _ => none := by
  obtain ⟨type⟩ := p
  obtain ⟨state⟩ := m
  cases type <;> cases state <;> rfl

/-- Exactly the primitives that carry a message are handed on as one. -/
theorem rrProcedure?_eq_receiveMessage_iff {m : StateMachine} {p : RrPrimitive} :
    m.rrProcedure? p = some .receiveMessage ↔ p.type = .dataIndication := by
  have hloss : m.state.lossProcedure ≠ .receiveMessage := by
    cases m.state <;> decide
  rw [rrProcedure?_eq]
  split <;> simp_all

/-- The states in which a procedure for a primitive from below can run. -/
def RrProcedure.states : RrProcedure → List MainState
  | acceptLink => [.idle]
  | detachSent => [.waitForRadioDetach]
  | endDetach => [.waitForRadioDetach, .imsiDetachInitiated]
  | beginUpdate => [.waitForRadioLocationUpdate]
  | loseUpdateLink => [.locationUpdatingInitiated, .waitForRadioLocationUpdate]
  | completeReject => [.locationUpdatingReject]
  | beginService => [.waitForRadioConnection]
  | receiveMessage => MainState.all
  | confirmService => [.waitForOutgoingConnection, .waitForAdditionalConnection]
  | indicateSync => [.connectionActive]
  | loseConnections =>
    [.waitForRadioConnection, .waitForOutgoingConnection, .waitForAdditionalConnection,
      .connectionActive]
  | loseLink => MainState.all.filter fun state => state.lossProcedure = .loseLink

theorem MainState.mem_states_lossProcedure (state : MainState) :
    state ∈ state.lossProcedure.states := by
  cases state <;> decide

theorem state_mem_of_rrProcedure? {m : StateMachine} {p : RrPrimitive} {procedure : RrProcedure}
    (h : m.rrProcedure? p = some procedure) : m.state ∈ procedure.states := by
  rw [rrProcedure?_eq] at h
  split at h <;> cases h
  -- Three of the cases leave the state open: data, and the two ways of losing the link.
  case h_5 => exact MainState.mem_all _
  case h_9 => exact MainState.mem_states_lossProcedure _
  case h_10 => exact MainState.mem_states_lossProcedure _
  all_goals
    next hstate => simp [RrProcedure.states, hstate]

/-! ## Messages of the network -/

/-- The type of the messages that a procedure is for. -/
def MessageProcedure.type : MessageProcedure → MessageType
  | receiveTmsiReallocation => .tmsiReallocationCommand
  | receiveAuthenticationRequest => .authenticationRequest
  | receiveAuthenticationReject => .authenticationReject
  | receiveIdentityRequest => .identityRequest
  | receiveAbort => .abort
  | receiveInformation => .mmInformation
  | receiveUpdateAccept => .locationUpdatingAccept
  | receiveUpdateReject => .locationUpdatingReject
  | receiveServiceAccept => .cmServiceAccept
  | receiveServiceReject => .cmServiceReject
  | receiveStatus => .mmStatus

/-- Each type of messages has one procedure. -/
theorem MessageProcedure.eq_of_type {p q : MessageProcedure} (h : p.type = q.type) : p = q := by
  cases p <;> cases q <;> first | rfl | cases h

/-- The states in which a procedure for a message can run. -/
def MessageProcedure.states : MessageProcedure → List MainState
  | receiveUpdateAccept => [.locationUpdatingInitiated]
  | receiveUpdateReject => [.locationUpdatingInitiated]
  | _ => MainState.all

theorem select?_of_messageProcedure {m : StateMachine} {type : MessageType}
    {procedure : MessageProcedure} (h : m.messageProcedure type = .ok procedure) :
    Rule.select? messageRules m type = some procedure := by
  unfold StateMachine.messageProcedure at h
  split at h
  · next found hfound =>
    rw [hfound, Except.ok.inj h]
  · cases h

theorem type_of_messageProcedure {m : StateMachine} {type : MessageType}
    {procedure : MessageProcedure} (h : m.messageProcedure type = .ok procedure) :
    type = procedure.type :=
  Rule.keyed_of_select? (P := fun key procedure => key = procedure.type) (by decide)
    (select?_of_messageProcedure h)

theorem state_mem_of_messageProcedure {m : StateMachine} {type : MessageType}
    {procedure : MessageProcedure} (h : m.messageProcedure type = .ok procedure) :
    m.state ∈ procedure.states :=
  Rule.state_mem_of_select? (by decide) (select?_of_messageProcedure h)

/-! ## Events -/

/-- The kinds of events that a procedure is for. -/
def EventProcedure.tags : EventProcedure → List EventTag
  | normalUpdate => [.newLocationArea]
  | periodicUpdate => [.timeout .t3212]
  | tryUpdate => [.timeout .t3211, .timeout .t3213]
  | timeoutUpdate => [.timeout .t3210]
  | selectCell => [.newLocationArea]
  | startDetach => [.imsiDetach]
  | endDetach => [.imsiDetach, .timeout .t3220]
  | detachOverLink => [.imsiDetach]
  | delayDetach => [.imsiDetach]
  | applySystemInformation => [.systemInformation]
  | abortLink => [.timeout .t3240]
  | timeoutService => [.timeout .t3230]
  | answerAuthentication => [.authenticationResponse]
  | nothing => [.timeout .t3212, .imsiDetach]

/-- The states in which a procedure for an event can run. -/
def EventProcedure.states : EventProcedure → List MainState
  | normalUpdate => [.idle]
  | periodicUpdate => [.idle]
  | tryUpdate => [.idle]
  | selectCell => [.idle]
  | startDetach => [.idle]
  | endDetach => [.idle, .imsiDetachInitiated]
  | abortLink => [.waitForNetworkCommand, .locationUpdatingReject]
  | timeoutService => [.waitForOutgoingConnection, .waitForAdditionalConnection]
  | detachOverLink =>
    [.waitForOutgoingConnection, .connectionActive, .processServicePrompt, .waitForReestablish,
      .waitForAdditionalConnection, .groupCallActive, .waitForNetworkCommand]
  | _ => MainState.all

theorem tag_mem_of_eventProcedure? {m : StateMachine} {e : Event} {procedure : EventProcedure}
    (h : m.eventProcedure? e = some procedure) : e.tag ∈ procedure.tags :=
  Rule.keyed_of_select? (P := fun tag procedure => tag ∈ procedure.tags) (by decide) h

theorem state_mem_of_eventProcedure? {m : StateMachine} {e : Event} {procedure : EventProcedure}
    (h : m.eventProcedure? e = some procedure) : m.state ∈ procedure.states :=
  Rule.state_mem_of_select? (by decide) h

/-- The idle substates in which a location update is tried again. -/
def IdleSubstate.takesRetry : IdleSubstate → Bool
  | normalService => true
  | attemptingToUpdate => true
  | locationUpdateNeeded => true
  | plmnSearchNormalService => true
  | _ => false

/-- The state is one in which a location update is tried again. -/
def StateMachine.takesRetry (m : StateMachine) : Bool := m.isIdle && m.lastSubstate.takesRetry

/-- The events of the retry timers have an effect only in those states. -/
theorem eventProcedure?_retry (m : StateMachine) {timer : TimerName}
    (h : timer = .t3211 ∨ timer = .t3213) :
    m.eventProcedure? (.timeout timer) = if m.takesRetry then some .tryUpdate else none := by
  by_cases hidle : m.state = .idle
  · -- In the idle state the last substate decides.
    obtain ⟨state, last, departure⟩ := m
    subst hidle
    rcases h with rfl | rfl <;> cases last <;> rfl
  · -- Elsewhere a selected procedure would have to be one of the idle state.
    have hnone : ∀ procedure, m.eventProcedure? (.timeout timer) ≠ some procedure := by
      intro procedure hsome
      have htag := tag_mem_of_eventProcedure? hsome
      have hstate := state_mem_of_eventProcedure? hsome
      rcases h with rfl | rfl <;> cases procedure <;>
        simp_all [Event.tag, EventProcedure.tags, EventProcedure.states]
    rw [if_neg (by simp [StateMachine.takesRetry, StateMachine.isIdle, hidle])]
    exact Option.eq_none_iff_forall_ne_some.mpr hnone

/-- The idle substates in which a location update is started if none is wanted yet. -/
def IdleSubstate.startsUpdate : IdleSubstate → Bool
  | normalService => true
  | attemptingToUpdate => true
  | limitedService => true
  | locationUpdateNeeded => true
  | _ => false

/-- A new location update is started in those substates alone. -/
theorem idle_of_startUpdate {m : StateMachine} {e : Event} {procedure : EventProcedure}
    (h : m.eventProcedure? e = some procedure)
    (hupdate : procedure = .normalUpdate ∨ procedure = .periodicUpdate) :
    m.isIdle = true ∧ m.lastSubstate.startsUpdate = true := by
  obtain ⟨r, hmem, _, hcovers, rfl⟩ := Rule.exists_of_select? h
  have htable : ∀ r ∈ eventRules, r.procedure = .normalUpdate ∨ r.procedure = .periodicUpdate →
      r.scope.idlesWith IdleSubstate.startsUpdate = true := by decide
  exact Scope.idle_of_covers (htable r hmem hupdate) hcovers

/-- A wanted location update is tried again in those substates alone. -/
theorem idle_of_tryUpdate {m : StateMachine} {e : Event}
    (h : m.eventProcedure? e = some .tryUpdate) :
    m.isIdle = true ∧ m.lastSubstate.takesRetry = true := by
  obtain ⟨r, hmem, _, hcovers, htry⟩ := Rule.exists_of_select? h
  have htable : ∀ r ∈ eventRules, r.procedure = .tryUpdate →
      r.scope.idlesWith IdleSubstate.takesRetry = true := by decide
  exact Scope.idle_of_covers (htable r hmem htry) hcovers

/-- The end of the supervision of the radio link has an effect only while the station waits for the
network. -/
theorem eventProcedure?_release (m : StateMachine) :
    m.eventProcedure? (.timeout .t3240) =
      if m.state = .waitForNetworkCommand ∨ m.state = .locationUpdatingReject then some .abortLink
      else none := by
  obtain ⟨state⟩ := m
  cases state <;> rfl

end MobileStation
