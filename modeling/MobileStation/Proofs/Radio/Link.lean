import MobileStation.Proofs.Steps.Inputs

/-!
# The radio link

Radio resource management offers one link. It is asked for, comes up, carries messages and goes
down, and a `Link` follows this through a run from what the station hears and what it sends. As
long as radio resource management keeps to the order of its primitives, the main state tells the
state of the link, with one exception: a detach that ends without the release of the link, and an
abort for illegal equipment, leave the link up under an idle station without a usable SIM.

Main statements: `agrees_linkAfter` (a step that does not stray uses the link as it may, and keeps
the main state in agreement with it), `not_usesLink_of_strays` and `link_used_iff` (the runs in
which the station uses the link correctly).
-/

namespace MobileStation

/-! ## The link -/

/-- The state of the radio link, as it follows from the primitives. -/
structure Link where
  /-- The link can carry messages. -/
  up : Bool := false
  /-- The link was asked for, and the answer is outstanding. -/
  requested : Bool := false
  deriving DecidableEq

namespace Link

/-- The link when the station has heard of an input. -/
def hears (l : Link) : Input → Link
  | .rr p =>
    match p.type with
    | .establishConfirm => ⟨true, false⟩
    | .establishIndication => ⟨true, l.requested⟩
    | .releaseIndication => ⟨false, false⟩
    | .abortIndication => ⟨false, false⟩
    | _ => l
  | _ => l

/-- The input is one that radio resource management gives in this state of the link. -/
def admits (l : Link) : Input → Bool
  | .rr p =>
    match p.type with
    | .establishConfirm => l.requested
    | .establishIndication => !l.up && !l.requested
    | .dataIndication => l.up
    | .syncIndication => l.up
    | .releaseIndication => l.up || l.requested
    | .abortIndication => l.up || l.requested
    | _ => true
  | .message _ => l.up
  | _ => true

/-- A primitive of this type may be sent in this state of the link. -/
def permits (l : Link) : RrPrimitiveType → Bool
  | .establishRequest => !l.up && !l.requested
  | .dataRequest => l.up
  | .abortRequest => l.up
  | _ => true

/-- The link when a primitive of this type was sent. -/
def issues (l : Link) : RrPrimitiveType → Link
  | .establishRequest => ⟨l.up, true⟩
  | .abortRequest => ⟨false, l.requested⟩
  | _ => l

/-- Primitives of these types may be sent one after the other. -/
def permitsAll (l : Link) : List RrPrimitiveType → Bool
  | [] => true
  | type :: rest => l.permits type && (l.issues type).permitsAll rest

/-- The link when primitives of these types were sent. -/
def issuesAll (l : Link) (types : List RrPrimitiveType) : Link := types.foldl issues l

end Link

/-- The type of a primitive to radio resource management. -/
def Output.rrType? : Output → Option RrPrimitiveType
  | rr p => some p.type
  | _ => none

/-- The types of the primitives among the outputs that go to radio resource management. -/
def rrTypes (sent : List Output) : List RrPrimitiveType := sent.filterMap Output.rrType?

/-! ## Runs with a link -/

namespace Station

/-- The link when the station has heard of what an action handles. -/
def hearing (l : Link) (s : Station) (a : Action) : Link :=
  ((a.handled? s).map fun r => l.hears r.2).getD l

/-- The link after an action. -/
def linkAfter (l : Link) (s : Station) (a : Action) : Link :=
  (hearing l s a).issuesAll (rrTypes (s.emits a))

/-- `Q` holds of every step of a run: of the action, in the states of the station and of the link
that it finds. -/
def EveryLinkedStep (Q : Link → Station → Action → Prop) (l : Link) (s : Station) :
    List Action → Prop
  | [] => True
  | a :: rest => Q l s a ∧ EveryLinkedStep Q (linkAfter l s a) (s.perform a) rest

instance EveryLinkedStep.decidable {Q : Link → Station → Action → Prop}
    [∀ l s a, Decidable (Q l s a)] :
    ∀ l s actions, Decidable (EveryLinkedStep Q l s actions)
  | _, _, [] => inferInstanceAs (Decidable True)
  | l, s, a :: rest =>
    have := decidable (Q := Q) (linkAfter l s a) (s.perform a) rest
    inferInstanceAs (Decidable (_ ∧ _))

/-- Radio resource management keeps to the order of its primitives in this step. -/
def RrBehaves (l : Link) (s : Station) (a : Action) : Prop :=
  (a.handled? s).all (fun r => l.admits r.2) = true

/-- The station sends only what the link allows in this step. -/
def UsesLink (l : Link) (s : Station) (a : Action) : Prop :=
  (hearing l s a).permitsAll (rrTypes (s.emits a)) = true

instance (l : Link) (s : Station) (a : Action) : Decidable (RrBehaves l s a) :=
  inferInstanceAs (Decidable (_ = _))

instance (l : Link) (s : Station) (a : Action) : Decidable (UsesLink l s a) :=
  inferInstanceAs (Decidable (_ = _))

/-- The action has the station send without a link, or ask for a link that is up: it handles the
answer of the SIM while the link is down, or a request for an emergency call in the idle state while
the link is up, and the station goes ahead with the call. -/
def StraysFromLink (l : Link) (s : Station) (a : Action) : Prop :=
  ∃ t i, a.handled? s = some (t, i) ∧
    ((∃ sres, i = .event (.authenticationResponse sres) ∧ l.up = false) ∨
      ∃ p, i = .cm p ∧ p.type = .establishRequest ∧ isEmergency p = true ∧ l.up = true ∧
        s.machine.state = .idle ∧ (s.perform a).machine.state = .waitForRadioConnection)

end Station

/-! ## The main state and the link -/

/-- The link that goes with a main state. -/
def Link.fits (l : Link) : MainState → Bool
  | .idle => !l.up && !l.requested
  | .waitForRadioLocationUpdate => !l.up && l.requested
  | .waitForRadioConnection => !l.up && l.requested
  | .waitForRadioDetach => !l.up && l.requested
  | .locationUpdatingInitiated => l.up && !l.requested
  | .waitForOutgoingConnection => l.up && !l.requested
  | .waitForAdditionalConnection => l.up && !l.requested
  | .connectionActive => l.up && !l.requested
  | .imsiDetachInitiated => l.up && !l.requested
  | .waitForNetworkCommand => l.up && !l.requested
  | .locationUpdatingReject => l.up && !l.requested
  | _ => false

/-- The machine and the link go together. The link can be left up under an idle station without a
usable SIM. -/
def Link.Agrees (l : Link) (m : StateMachine) : Prop :=
  l.fits m.state = true ∨ m.state = .idle ∧ m.lastSubstate = .noImsi ∧ l = ⟨true, false⟩

/-- The type of the primitive that is a signal to radio resource management. -/
def Signal.rrType? : Signal → Option RrPrimitiveType
  | establish _ => some .establishRequest
  | send _ => some .dataRequest
  | forward => some .dataRequest
  | abort => some .abortRequest
  | reject => none

/-- The types of the primitives to radio resource management on a course. -/
def Course.rrTypes (c : Course) : List RrPrimitiveType := c.sent.filterMap Signal.rrType?

/-- A course that sends only what the link allows, and leads to a state that goes with the link
then. -/
def Course.usesLink (c : Course) (l : Link) : Bool :=
  l.permitsAll c.rrTypes &&
    match c.next with
    | .stays => l.issuesAll c.rrTypes = l
    | .enters state => (l.issuesAll c.rrTypes).fits state
    | .idles => (l.issuesAll c.rrTypes).fits .idle
    | .idlesWithoutSim => !(l.issuesAll c.rrTypes).requested

namespace Link

theorem Agrees.of_fits {l : Link} {m : StateMachine} (h : l.fits m.state = true) : l.Agrees m :=
  .inl h

/-- With a link that is up, nothing is outstanding. -/
theorem Agrees.eq_of_up {l : Link} {m : StateMachine} (h : l.Agrees m) (hup : l.up = true) :
    l = ⟨true, false⟩ := by
  obtain ⟨up, requested⟩ := l
  rcases h with hfits | ⟨_, _, heq⟩
  · obtain ⟨state⟩ := m
    cases state <;> simp_all [fits]
  · exact heq

end Link

theorem rrType?_of_matches {signal : Signal} {o : Output} (h : signal.Matches o) :
    o.rrType? = signal.rrType? := by
  cases signal <;> cases o <;>
    first | exact h.elim | simp_all [Signal.Matches, Signal.rrType?, Output.rrType?]

theorem rrTypes_of_matches {signals : List Signal} {outputs : List Output}
    (h : List.Forall₂ Signal.Matches signals outputs) :
    rrTypes outputs = signals.filterMap Signal.rrType? := by
  induction h with
  | nil => rfl
  | cons hhead _ ih =>
    rw [rrTypes] at ih ⊢
    rw [List.filterMap_cons, List.filterMap_cons, rrType?_of_matches hhead, ih]

/-- The primitives that are sent on a course have the types of its signals. -/
theorem rrTypes_of_sends {s t : Station} {signals : List Signal} (h : Sends s t signals) :
    rrTypes (s.sentBetween t) = signals.filterMap Signal.rrType? := by
  -- What is no signal goes elsewhere.
  have hfilter :
      rrTypes ((s.sentBetween t).filter Output.isSignal) = rrTypes (s.sentBetween t) := by
    rw [rrTypes, rrTypes, List.filterMap_filter]
    refine List.filterMap_congr fun o _ => ?_
    cases o <;> first | rfl | exact ite_self _
  rw [← hfilter]
  exact rrTypes_of_matches (Station.matches_sentBetween h)

namespace Station

/-- A course that uses the link leads to a machine that goes with it. -/
theorem agrees_of_takes {s t : Station} {c : Course} {l : Link} (h : Takes s t c)
    (huses : c.usesLink l = true) (hstays : c.next = .stays → l.Agrees s.machine) :
    l.permitsAll (rrTypes (s.sentBetween t)) = true ∧
      (l.issuesAll (rrTypes (s.sentBetween t))).Agrees t.machine := by
  have htypes : rrTypes (s.sentBetween t) = c.rrTypes := rrTypes_of_sends h.toSends
  have hleads := h.leads
  rw [htypes]
  simp only [Course.usesLink, Bool.and_eq_true] at huses
  refine ⟨huses.1, ?_⟩
  have hnext := huses.2
  -- A course names the state that it enters, and the link fits that state; a course that stays has
  -- to leave the link as it is.
  cases hc : c.next with
  | stays =>
    rw [hc] at hnext hleads
    rw [decide_eq_true_eq.mp hnext, hleads.1]
    exact hstays hc
  | enters state =>
    rw [hc] at hnext hleads
    refine .of_fits ?_
    rw [show t.machine.state = state from hleads]
    exact hnext
  | idles =>
    rw [hc] at hnext hleads
    refine .of_fits ?_
    rw [hleads.1]
    exact hnext
  | idlesWithoutSim =>
    rw [hc] at hnext hleads
    cases hlink : l.issuesAll c.rrTypes with
    | mk up requested =>
      obtain rfl : requested = false := by simpa [hlink] using hnext
      -- Without a SIM the idle state may be entered with the link still up.
      cases up with
      | true => exact .inr ⟨hleads.1, hleads.2, rfl⟩
      | false =>
        refine .of_fits ?_
        rw [hleads.1]
        rfl

/-! ## Tables -/

/-- With a link that is up, every course of a message uses it. -/
theorem usesLink_messageCourses (state : MainState) :
    ∀ c ∈ messageCourses state, c.usesLink ⟨true, false⟩ = true := by
  cases state <;> decide

/-- Above a link that goes with the state, every course of a primitive from above uses it. -/
theorem usesLink_cmProcedure (procedure : CmProcedure) :
    ∀ state ∈ procedure.states, ∀ up requested, (Link.mk up requested).fits state = true →
      ∀ c ∈ procedure.courses, c.usesLink ⟨up, requested⟩ = true := by
  cases procedure <;> decide

/-- In the idle state a primitive from above changes nothing, or asks for a link. -/
theorem idle_cmProcedure (procedure : CmProcedure) (h : .idle ∈ procedure.states) :
    ∀ c ∈ procedure.courses, c = .stay ∨ procedure = .requestFromIdle ∧
      c = ⟨.enters .waitForRadioConnection, [.establish .cmServiceRequest]⟩ := by
  revert h
  cases procedure <;> decide

/-- Above a link that goes with the state, every course of an event uses it, short of the answer of
the SIM. -/
theorem usesLink_eventProcedure {procedure : EventProcedure}
    (h : procedure ≠ .answerAuthentication) :
    ∀ state ∈ procedure.states, ∀ up requested, (Link.mk up requested).fits state = true →
      ∀ c ∈ procedure.courses state, c.usesLink ⟨up, requested⟩ = true := by
  cases procedure <;> first | exact absurd rfl h | decide

end Station

/-- The link when a procedure for a primitive from below begins: the loss of the link takes it down,
and every other primitive finds it up. -/
def RrProcedure.link : RrProcedure → Link
  | endDetach => ⟨false, false⟩
  | loseUpdateLink => ⟨false, false⟩
  | completeReject => ⟨false, false⟩
  | loseConnections => ⟨false, false⟩
  | loseLink => ⟨false, false⟩
  | _ => ⟨true, false⟩

theorem MainState.link_lossProcedure (state : MainState) :
    state.lossProcedure.link = ⟨false, false⟩ := by
  cases state <;> rfl

/-- Every course of a primitive from below uses the link. -/
theorem Station.usesLink_rrProcedure {procedure : RrProcedure} (h : procedure ≠ .receiveMessage) :
    ∀ state ∈ procedure.states, ∀ c ∈ procedure.courses state,
      c.usesLink procedure.link = true := by
  cases procedure <;> first | exact absurd rfl h | decide

/-- Where a primitive from below lets the state stay, the state goes with the link. -/
theorem Station.fits_of_stays {procedure : RrProcedure} (h : procedure ≠ .receiveMessage) :
    ∀ state ∈ procedure.states, ∀ c ∈ procedure.courses state, c.next = .stays →
      procedure.link.fits state = true := by
  cases procedure <;> first | exact absurd rfl h | decide

/-- The procedure can ask for a radio link from the idle state. -/
def EventProcedure.asksForLink : EventProcedure → Bool
  | normalUpdate => true
  | periodicUpdate => true
  | tryUpdate => true
  | selectCell => true
  | startDetach => true
  | _ => false

/-- Above a link that is up, every other course of an event in the idle state uses it. -/
theorem Station.usesLink_eventProcedure_idle {procedure : EventProcedure}
    (h : procedure.asksForLink = false) (hstate : .idle ∈ procedure.states) :
    ∀ c ∈ procedure.courses .idle, c.usesLink ⟨true, false⟩ = true := by
  revert hstate
  cases procedure <;> first | exact absurd h (by decide) | decide

/-- The scope leaves out an idle substate. -/
def Scope.avoids (substate : IdleSubstate) : Scope → Bool
  | idleIn substates => !substates.contains substate
  | _ => false

theorem Scope.lastSubstate_ne_of_avoids {scope : Scope} {substate : IdleSubstate}
    (h : scope.avoids substate = true) {m : StateMachine} (hcovers : scope.covers m = true) :
    m.lastSubstate ≠ substate := by
  cases scope with
  | idleIn substates =>
    rintro rfl
    simp_all [avoids, covers]
  | _ => cases h

/-- Without a usable SIM no event has the station ask for a link. -/
theorem asksForLink_noImsi {m : StateMachine} {e : Event} {procedure : EventProcedure}
    (h : m.eventProcedure? e = some procedure) (hsubstate : m.lastSubstate = .noImsi) :
    procedure.asksForLink = false := by
  obtain ⟨r, hr, _, hcovers, rfl⟩ := Rule.exists_of_select? h
  have htable : ∀ r ∈ eventRules, r.procedure.asksForLink = true →
      r.scope.avoids .noImsi = true := by decide
  by_contra hasks
  have havoids := htable r hr (by simpa using hasks)
  exact Scope.lastSubstate_ne_of_avoids havoids hcovers hsubstate

namespace Link

/-! ## Hearing a primitive -/

theorem hears_of_network? (l : Link) {i : Input} {data : Octets} (h : i.network? = some data) :
    l.hears i = l := by
  cases i with
  | rr p =>
    have htype : p.type = .dataIndication := by
      by_contra hother
      simp [Input.network?, hother] at h
    simp only [hears, htype]
  | _ => rfl

/-- A message of the network comes over a link that is up. -/
theorem up_of_network? {l : Link} {i : Input} {data : Octets} (h : i.network? = some data)
    (hadmits : l.admits i = true) : l.up = true := by
  cases i with
  | message d => exact hadmits
  | rr p =>
    have htype : p.type = .dataIndication := by
      by_contra hother
      simp [Input.network?, hother] at h
    simpa only [admits, htype] using hadmits
  | _ => cases h

/-- While an answer is outstanding, the station waits for it. -/
theorem Agrees.waits {l : Link} {m : StateMachine} (h : l.Agrees m)
    (hrequested : l.requested = true) :
    m.state = .waitForRadioLocationUpdate ∨ m.state = .waitForRadioConnection ∨
      m.state = .waitForRadioDetach := by
  rcases h with hfits | ⟨_, _, rfl⟩
  · obtain ⟨state⟩ := m
    cases state <;> simp_all [fits]
  · cases hrequested

/-- Without a link, and without an outstanding answer, the station is idle. -/
theorem Agrees.idle {l : Link} {m : StateMachine} (h : l.Agrees m) (hdown : l.up = false)
    (hnone : l.requested = false) : m.state = .idle := by
  rcases h with hfits | ⟨hidle, _⟩
  · obtain ⟨state⟩ := m
    cases state <;> simp_all [fits]
  · exact hidle

/-- A primitive from below that has a procedure finds the link, or brings it, as the procedure has
it. -/
theorem hears_of_rrProcedure? {l : Link} {m : StateMachine} {p : RrPrimitive}
    {procedure : RrProcedure} (h : l.Agrees m) (hadmits : l.admits (.rr p) = true)
    (hp : m.rrProcedure? p = some procedure) (hother : procedure ≠ .receiveMessage) :
    l.hears (.rr p) = procedure.link := by
  rw [rrProcedure?_eq] at hp
  simp only [admits] at hadmits
  -- The link only reports what fits it: the network opens it while it is down, it is confirmed after
  -- it was asked for, and it is used while it is up.
  cases htype : p.type with
  | establishIndication =>
    simp only [htype, Bool.and_eq_true, Bool.not_eq_true'] at hadmits hp
    rw [h.idle hadmits.1 hadmits.2] at hp
    simp only [hears, htype, hadmits.2]
    cases hp
    rfl
  | establishConfirm =>
    simp only [htype] at hadmits hp
    simp only [hears, htype]
    rcases h.waits hadmits with hstate | hstate | hstate <;> rw [hstate] at hp <;> cases hp <;> rfl
  | releaseIndication =>
    simp only [htype] at hp
    cases hp
    simp only [hears, htype, MainState.link_lossProcedure]
  | abortIndication =>
    simp only [htype] at hp
    cases hp
    simp only [hears, htype, MainState.link_lossProcedure]
  | syncIndication =>
    simp only [htype] at hp hadmits
    simp only [hears, htype, h.eq_of_up hadmits]
    split at hp <;> first | (cases hp; rfl) | simp_all
  | dataIndication =>
    simp only [htype] at hp
    exact absurd (Option.some.inj hp).symm hother
  | establishRequest => simp [htype] at hp
  | abortRequest => simp [htype] at hp
  | dataRequest => simp [htype] at hp

/-- A primitive from below that has no procedure leaves the link as it is. -/
theorem hears_of_not_rrProcedure? {l : Link} {m : StateMachine} {p : RrPrimitive}
    (h : l.Agrees m) (hadmits : l.admits (.rr p) = true) (hp : m.rrProcedure? p = none) :
    l.hears (.rr p) = l := by
  rw [rrProcedure?_eq] at hp
  simp only [admits] at hadmits
  -- A report that has no rule changes nothing. Those that would change the link always have one.
  cases htype : p.type with
  | establishIndication =>
    simp only [htype, Bool.and_eq_true, Bool.not_eq_true'] at hadmits hp
    rw [h.idle hadmits.1 hadmits.2] at hp
    cases hp
  | establishConfirm =>
    simp only [htype] at hadmits hp
    rcases h.waits hadmits with hstate | hstate | hstate <;> rw [hstate] at hp <;> cases hp
  | releaseIndication => simp [htype] at hp
  | abortIndication => simp [htype] at hp
  | _ => simp only [hears, htype]

end Link

namespace Station

/-! ## One action -/

/-- A request in the idle state without a usable SIM gets through only for an emergency call. -/
theorem isEmergency_of_requestFromIdle {s : Station} {p : CmPrimitive}
    (hidle : s.machine.state = .idle) (hsubstate : s.machine.lastSubstate = .noImsi)
    (hmoved : (s.requestFromIdle p).station.machine.state ≠ .idle) : isEmergency p = true := by
  by_contra hother
  have hoffers : ({ s with update.attempts := 0 } : Station).offersService = false := by
    simp [offersService, StateMachine.substate, hidle, hsubstate]
  have hrefused : ∃ cause, ({ s with update.attempts := 0 } : Station).refusal? p = some cause := by
    unfold refusal?
    split
    · exact ⟨_, rfl⟩
    · simp [hother, hoffers]
  obtain ⟨cause, hcause⟩ := hrefused
  simp only [requestFromIdle, requestService, hcause] at hmoved
  exact hmoved hidle

/-- Above a link that the machine goes with, a course of a primitive from above uses it, unless it
strays. -/
theorem usesLink_of_cmProcedure? {l : Link} {s t : Station} {a : Action} {p : CmPrimitive}
    {procedure : CmProcedure} {c : Course} (h : l.Agrees s.machine)
    (hhandled : a.handled? s = some (t, .cm p)) (hstrays : ¬ StraysFromLink l s a)
    (hp : s.machine.cmProcedure? p = some procedure) (hc : c ∈ procedure.courses)
    (htakes : Takes s (s.perform a) c) : c.usesLink l = true := by
  have hstate := state_mem_of_cmProcedure? hp
  rcases h with hfits | ⟨hidle, hsubstate, rfl⟩
  · obtain ⟨up, requested⟩ := l
    exact usesLink_cmProcedure procedure _ hstate up requested hfits c hc
  · -- In the idle state there are two procedures, and only one of them sends anything.
    rw [hidle] at hstate
    rcases idle_cmProcedure procedure hstate c hc with rfl | ⟨rfl, rfl⟩
    · rfl
    · have hwaits : (s.perform a).machine.state = .waitForRadioConnection := htakes.leads
      have hemergency : isEmergency p = true := by
        have hqueues := queues_of_handled hhandled
        have hmachine : (t.updateTransaction p).machine = s.machine := by rw [hqueues]; rfl
        have hrun : (s.perform a) = ((t.updateTransaction p).requestFromIdle p).station := by
          rw [perform_of_handled hhandled]
          simp only [handle, handleCm, hmachine, hp]
          rfl
        refine isEmergency_of_requestFromIdle (s := t.updateTransaction p) ?_ ?_ ?_
        · rw [hmachine]
          exact hidle
        · rw [hmachine]
          exact hsubstate
        · rw [← hrun, hwaits]
          decide
      refine absurd ⟨t, _, hhandled, .inr ⟨p, rfl, ?_, hemergency, rfl, hidle, hwaits⟩⟩ hstrays
      exact type_of_cmProcedure? hp

/-- Above a link that the machine goes with, a course of an event uses it, unless it strays. -/
theorem usesLink_of_eventProcedure? {l : Link} {s t : Station} {a : Action} {e : Event}
    {procedure : EventProcedure} {c : Course} (h : l.Agrees s.machine)
    (hhandled : a.handled? s = some (t, .event e)) (hstrays : ¬ StraysFromLink l s a)
    (hp : s.machine.eventProcedure? e = some procedure)
    (hc : c ∈ procedure.courses s.machine.state) : c.usesLink l = true := by
  have hstate := state_mem_of_eventProcedure? hp
  by_cases hanswer : procedure = .answerAuthentication
  · -- The answer of the SIM comes in any state, so it is the link that decides.
    subst hanswer
    have hup : l.up = true := by
      by_contra hdown
      refine hstrays ⟨t, _, hhandled, .inl ?_⟩
      have htag := tag_mem_of_eventProcedure? hp
      cases e <;> simp_all [Event.tag, EventProcedure.tags]
    have htable : ∀ c ∈ [Course.stay, ⟨.stays, [.send .authenticationResponse]⟩],
        c.usesLink ⟨true, false⟩ = true := by decide
    rw [h.eq_of_up hup]
    exact htable c hc
  · rcases h with hfits | ⟨hidle, hsubstate, rfl⟩
    · obtain ⟨up, requested⟩ := l
      exact usesLink_eventProcedure hanswer _ hstate up requested hfits c hc
    · rw [hidle] at hstate hc
      exact usesLink_eventProcedure_idle (asksForLink_noImsi hp hsubstate) hstate c hc

/-- Every course of an input uses the link, unless the action strays from it. -/
theorem usesLink_of_courseOf {l : Link} {s t : Station} {a : Action} {i : Input} {c : Course}
    (h : l.Agrees s.machine) (hhandled : a.handled? s = some (t, i))
    (hadmits : l.admits i = true) (hstrays : ¬ StraysFromLink l s a)
    (hcourse : CourseOf s.machine c i) (htakes : Takes s (s.perform a) c) :
    c.usesLink (l.hears i) = true ∧ (c.next = .stays → (l.hears i).Agrees s.machine) := by
  cases hcourse with
  | stay i hc hrr =>
    subst hc
    -- An input without a rule leaves the link as it was.
    have hears : l.hears i = l := by
      cases i with
      | rr p => exact Link.hears_of_not_rrProcedure? h hadmits (hrr p rfl)
      | _ => rfl
    rw [hears]
    exact ⟨decide_eq_true rfl, fun _ => h⟩
  | cm p procedure hp hc =>
    exact ⟨usesLink_of_cmProcedure? h hhandled hstrays hp hc htakes, fun _ => h⟩
  | rr p procedure hp hother hc =>
    have hstate := state_mem_of_rrProcedure? hp
    rw [Link.hears_of_rrProcedure? h hadmits hp hother]
    refine ⟨usesLink_rrProcedure hother _ hstate c hc, ?_⟩
    intro hstays
    exact .of_fits (fits_of_stays hother _ hstate c hc hstays)
  | message i data hnetwork hc =>
    have hup : l.up = true := Link.up_of_network? hnetwork hadmits
    rw [Link.hears_of_network? l hnetwork]
    refine ⟨?_, fun _ => h⟩
    rw [h.eq_of_up hup]
    exact usesLink_messageCourses _ c hc
  | event e procedure hp hc =>
    exact ⟨usesLink_of_eventProcedure? h hhandled hstrays hp hc, fun _ => h⟩

/-- An action that does not stray uses the link, and leaves a machine that goes with it. -/
theorem agrees_linkAfter {l : Link} {s : Station} {a : Action} (h : l.Agrees s.machine)
    (hbehaves : RrBehaves l s a) (hstrays : ¬ StraysFromLink l s a) :
    UsesLink l s a ∧ (linkAfter l s a).Agrees (s.perform a).machine := by
  cases hhandled : a.handled? s with
  | none =>
    have hlink : hearing l s a = l := by simp [hearing, hhandled]
    rw [UsesLink, linkAfter, hlink, emits_of_not_handled hhandled, machine_of_not_handled hhandled]
    exact ⟨rfl, h⟩
  | some r =>
    obtain ⟨t, i⟩ := r
    have hlink : hearing l s a = l.hears i := by simp [hearing, hhandled]
    have hadmits : l.admits i = true := by simpa [RrBehaves, hhandled] using hbehaves
    obtain ⟨c, hcourse, htakes⟩ := perform_takes hhandled
    -- What the input does to the link comes first, then what the course sends.
    obtain ⟨huses, hstays⟩ := usesLink_of_courseOf h hhandled hadmits hstrays hcourse htakes
    rw [UsesLink, linkAfter, hlink]
    exact agrees_of_takes htakes huses hstays

/-- An action that strays from the link sends what the link does not allow. -/
theorem not_usesLink_of_strays {l : Link} {s : Station} {a : Action} (h : StraysFromLink l s a) :
    ¬ UsesLink l s a := by
  obtain ⟨t, i, hhandled, hways⟩ := h
  have hlink : hearing l s a = l.hears i := by simp [hearing, hhandled]
  rw [UsesLink, hlink, emits_of_handled hhandled]
  -- An answer is sent with no link, or a link is asked for that is there.
  rcases hways with ⟨sres, rfl, hdown⟩ | ⟨p, rfl, htype, hemergency, hup, hidle, hwaits⟩
  · have hprocedure : t.machine.eventProcedure? (.authenticationResponse sres) =
        some .answerAuthentication := rfl
    have hrun : t.handle (.event (.authenticationResponse sres)) =
        t.sendMessage (.authenticationResponse sres) := by
      simp only [handle, handleEvent, hprocedure]
      rfl
    have hsent := (t.takes_sendMessage_of_encode (m := .authenticationResponse sres) rfl).toSends
    have htypes :
        rrTypes (sentBetween t (t.handle (.event (.authenticationResponse sres))).station) =
          [.dataRequest] := by
      rw [hrun, rrTypes_of_sends hsent]
      rfl
    rw [htypes]
    simp [Link.permitsAll, Link.permits, Link.hears, hdown]
  · obtain ⟨c, hcourse, htakes⟩ := perform_takes hhandled
    have hnext : c.next.state .idle = .waitForRadioConnection := by
      rw [← hidle, ← htakes.leads.state]
      exact hwaits
    -- Of the courses from the idle state only one waits for the link.
    have hrequest : c = ⟨.enters .waitForRadioConnection, [.establish .cmServiceRequest]⟩ := by
      cases hcourse with
      | stay _ hc _ =>
        subst hc
        cases hnext
      | message _ _ hnetwork _ => cases hnetwork
      | cm p procedure hp hc =>
        have hstate := state_mem_of_cmProcedure? hp
        rw [hidle] at hstate
        rcases idle_cmProcedure procedure hstate c hc with rfl | ⟨_, rfl⟩
        · cases hnext
        · rfl
    have htypes := rrTypes_of_sends htakes.toSends
    rw [hrequest] at htypes
    have hemits : sentBetween t (t.handle (.cm p)).station = sentBetween s (s.perform a) :=
      (emits_of_handled hhandled).symm
    rw [hemits, htypes]
    simp [Link.permitsAll, Link.permits, Link.hears, Signal.rrType?, hup]

/-! ## Runs -/

/-- The main state and the link go together along every run in which radio resource management
keeps to the order of its primitives, as far as no action strays. -/
theorem link_used_iff_of_agrees {l : Link} {s : Station} {actions : List Action}
    (h : l.Agrees s.machine) (hbehaves : EveryLinkedStep RrBehaves l s actions) :
    EveryLinkedStep UsesLink l s actions ↔
      EveryLinkedStep (fun l s a => ¬ StraysFromLink l s a) l s actions := by
  -- The agreement of link and state carries the induction, up to the first step that strays.
  induction actions generalizing l s with
  | nil => exact Iff.rfl
  | cons a rest ih =>
    obtain ⟨hfirst, hrest⟩ := hbehaves
    by_cases hstrays : StraysFromLink l s a
    · refine iff_of_false ?_ ?_
      · rintro ⟨huses, _⟩
        exact not_usesLink_of_strays hstrays huses
      · rintro ⟨hkeeps, _⟩
        exact hkeeps hstrays
    · obtain ⟨huses, hagrees⟩ := agrees_linkAfter h hfirst hstrays
      exact and_congr (iff_of_true huses hstrays) (ih hagrees hrest)

/-- As long as radio resource management keeps to the order of its primitives, the station sends
only what the radio link allows in exactly those runs in which it handles no answer of the SIM while
the link is down, and makes no emergency call from the idle state while the link is still up. -/
theorem link_used_iff (config : Config) (subscriber : Subscriber) (actions : List Action)
    (hbehaves : EveryLinkedStep RrBehaves {} (ofSubscriber config subscriber) actions) :
    EveryLinkedStep UsesLink {} (ofSubscriber config subscriber) actions ↔
      EveryLinkedStep (fun l s a => ¬ StraysFromLink l s a) {} (ofSubscriber config subscriber)
        actions :=
  link_used_iff_of_agrees (.of_fits rfl) hbehaves

/-- A call that the network opens and ends, with an authentication that the SIM answers in time. -/
theorem link_used_iff_authenticated_call :
    let start := ofConfig
      { imei := "356938035643809"
        imeisv := "3569380356438091"
        sim := some { imsi := "262420000000001" } }
    let actions : List Action :=
      [.handle (.rr { type := .establishIndication }),
        .handle (.message (0x05 :: 0x12 :: 0x00 :: List.replicate 16 0x11)),
        .handle (.event (.authenticationResponse ⟨[1, 2, 3, 4], rfl⟩)),
        .handle (.rr { type := .releaseIndication })]
    EveryLinkedStep RrBehaves {} start actions ∧
      (EveryLinkedStep UsesLink {} start actions ↔
        EveryLinkedStep (fun l s a => ¬ StraysFromLink l s a) {} start actions) :=
  ⟨by decide +kernel, link_used_iff _ _ _ (by decide +kernel)⟩

/-- An abort for illegal equipment leaves the link up, and an emergency call asks for it again. -/
example :
    let start := ofConfig
      { imei := "356938035643809"
        imeisv := "3569380356438091"
        sim := some { imsi := "262420000000001" } }
    let actions : List Action :=
      [.handle (.rr { type := .establishIndication }),
        .handle (.message [0x03, 0x05]),
        .handle (.message [0x05, 0x29, 0x06]),
        .handle (.cm
          { type := .establishRequest
            protocol := .cc
            reference := 7
            transaction := 0
            emergency := true })]
    EveryLinkedStep RrBehaves {} start actions ∧ ¬ EveryLinkedStep UsesLink {} start actions := by
  decide +kernel

/-- The answer of the SIM is sent after the link is gone. -/
theorem answer_sent_without_link :
    let start := ofConfig
      { imei := "356938035643809"
        imeisv := "3569380356438091"
        sim := some { imsi := "262420000000001" } }
    let actions : List Action :=
      [.handle (.rr { type := .establishIndication }),
        .handle (.message (0x05 :: 0x12 :: 0x00 :: List.replicate 16 0x11)),
        .handle (.rr { type := .releaseIndication }),
        .handle (.event (.authenticationResponse ⟨[1, 2, 3, 4], rfl⟩))]
    EveryLinkedStep RrBehaves {} start actions ∧ ¬ EveryLinkedStep UsesLink {} start actions := by
  decide +kernel

end Station

end MobileStation
