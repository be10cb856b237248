import MobileStation.Proofs.Service.Configured
import MobileStation.Proofs.Service.Requests

/-!
# What a station without a usable SIM asks for

Whether a station asks for a location update or a service depends on its update status, its idle
substate and the cell; the SIM is not looked at. Where these let it ask for more than an emergency
call, the station is exposed.

Main statement: `asked_of_handle` (handling an input asks for an emergency call at most, unless the
station is exposed).
-/

namespace MobileStation

/-! ## Courses that ask for nothing -/

/-- The procedure may start a location update. -/
def EventProcedure.updates : EventProcedure → Bool
  | normalUpdate => true
  | periodicUpdate => true
  | tryUpdate => true
  | selectCell => true
  | _ => false

theorem EventProcedure.asksNothing_of_not_updates {procedure : EventProcedure}
    (h : ¬ procedure.updates = true) (state : MainState) :
    ∀ c ∈ procedure.courses state, ∀ signal ∈ c.sent, signal.asksNothing = true := by
  revert h
  cases procedure <;> cases state <;> decide

theorem RrProcedure.asksNothing (procedure : RrProcedure) (state : MainState) :
    ∀ c ∈ procedure.courses state, ∀ signal ∈ c.sent, signal.asksNothing = true := by
  cases procedure <;> cases state <;> decide

namespace Station

/-! ## Exposed stations -/

/-- The station is idle and would make a location update here, the one that is wanted or a new
one. -/
def readyToUpdate (s : Station) : Bool :=
  s.machine.isIdle && s.updateAllowed &&
    if s.update.wanted then s.machine.lastSubstate.takesRetry
    else s.machine.lastSubstate.startsUpdate

/-- The station passes for updated, and has room for one more connection beside those in use. -/
def readyToServe (s : Station) : Bool :=
  s.machine.state = .connectionActive && s.subscriber.isUpdated &&
    s.connections.connections.length < s.connections.capacity

/-- Nothing but the SIM could keep the station from asking for more than an emergency call. -/
def isExposed (s : Station) : Bool := s.readyToUpdate || s.readyToServe

/-! ## What the procedures ask for -/

theorem notMem_sentBetween {s t : Station} (h : t.outbox = s.outbox) {o : Output} :
    o ∉ sentBetween s t := by
  have hnone : sentBetween s t = [] := sentBetween_of_outbox (by simp [h])
  rw [hnone]
  exact List.not_mem_nil

/-- What is sent by a step that sends one primitive to radio resource management. -/
theorem sentBetween_sendRr {s t u : Station} {p : RrPrimitive}
    (hlast : u.outbox = (t.sendRr p).outbox) (h : t.outbox = s.outbox) :
    sentBetween s u = [.rr p] :=
  sentBetween_of_outbox (by rw [hlast, sendRr, send, h])

/-- A refusal is told to the protocol above alone. -/
theorem notMem_refuse {s t : Station} (h : t.outbox = s.outbox) (q : CmPrimitive) (cause : UInt8)
    {p : RrPrimitive} : .rr p ∉ sentBetween s (t.refuse q cause) := by
  have hrefused : sentBetween s (t.refuse q cause) = [.cm (q.refusal cause)] :=
    sentBetween_of_outbox (by rw [refuse, sendCm, send, h]; rfl)
  simp [hrefused]

theorem sent_forwardData {s : Station} {q : CmPrimitive} {p : RrPrimitive}
    (hp : .rr p ∈ sentBetween s (s.forwardData q).station) : p = .send q.payload := by
  unfold forwardData at hp
  split at hp
  · rw [station_done, sentBetween_sendRr rfl rfl] at hp
    simpa using hp
  · exact absurd hp (notMem_refuse rfl _ _)

theorem Route.payload_primitive (route : Route) (cause : EstablishmentCause) (data : Octets) :
    (route.primitive cause data).payload = data := by
  cases route <;> rfl

/-- A service request that leaves the station was not refused, and there was room for it. -/
theorem asked_requestService {s : Station} {q : CmPrimitive} {route : Route}
    {next : Station → Station} (hnext : ∀ u : Station, (next u).outbox = u.outbox)
    {p : RrPrimitive} (hp : .rr p ∈ sentBetween s (s.requestService q route next).station) :
    s.refusal? q = none ∧ s.connections.connections.length < s.connections.capacity ∧
      Asked.read? p.payload = some (.service (some (serviceOf q))) := by
  simp only [requestService] at hp
  split at hp
  · exact absurd hp (notMem_refuse rfl _ _)
  · next hrefusal =>
    split at hp
    · exact absurd hp (notMem_sentBetween rfl)
    · next data hencode =>
      split at hp
      · exact absurd hp (notMem_refuse rfl _ _)
      · exact absurd hp (notMem_sentBetween rfl)
      · next table hadd =>
        -- Only this way is anything sent.
        let u : Station := { s with update.attempts := 0, connections := table }
        have hsent : sentBetween s (next (u.sendRr (route.primitive (causeOf q) data))) =
            [.rr (route.primitive (causeOf q) data)] := sentBetween_sendRr (hnext _) rfl
        have hprimitive : p = route.primitive (causeOf q) data := by
          rw [station_done, hsent] at hp
          simpa using hp
        rw [hprimitive, Route.payload_primitive]
        exact ⟨hrefusal, (ConnectionTable.add_eq_ok_iff.mp hadd).1, Asked.read?_of_service hencode⟩

theorem refusal?_eq_none {s : Station} {q : CmPrimitive} (h : s.refusal? q = none) :
    isEmergency q = true ∨ s.offersService = true := by
  unfold refusal? at h
  split at h
  · cases h
  · split at h
    · next hallowed => simpa using hallowed
    · cases h

theorem protocol_of_isEmergency {q : CmPrimitive} (h : isEmergency q = true) :
    q.protocol = .cc := by
  simp only [isEmergency, Bool.and_eq_true, decide_eq_true_eq] at h
  exact h.1

theorem serviceOf_of_isEmergency {q : CmPrimitive} (h : isEmergency q = true) :
    serviceOf q = .emergencyCall := by
  simp [serviceOf, protocol_of_isEmergency h, h]

/-- A wanted location update that leaves the station is allowed by the cell. -/
theorem sent_tryUpdate {s : Station} {p : RrPrimitive}
    (hp : .rr p ∈ sentBetween s s.tryUpdate.station) :
    s.update.wanted = true ∧ s.updateAllowed = true := by
  unfold tryUpdate at hp
  split at hp
  · exact absurd hp (notMem_sentBetween rfl)
  · next hwanted =>
    split at hp
    · next hallowed => exact ⟨by simpa using hwanted, hallowed⟩
    · exact absurd hp (notMem_sentBetween rfl)

/-- A new location update that leaves the station is allowed by the cell. -/
theorem sent_startUpdate {s : Station} {kind : UpdateKind} {p : RrPrimitive}
    (hp : .rr p ∈ sentBetween s (s.startUpdate kind).station) :
    s.update.wanted = false ∧ s.updateAllowed = true := by
  simp only [startUpdate] at hp
  split at hp
  · exact absurd hp (notMem_sentBetween rfl)
  · next hwanted =>
    let update :=
      { s.update with wanted := true, kind := kind, attempts := 0, accessFailed := false }
    have hallowed : Station.updateAllowed { s with update := update } = true :=
      (sent_tryUpdate (s := { s with update := update }) hp).2
    exact ⟨by simpa using hwanted, hallowed⟩

/-- Without a usable SIM no cell is registered in. -/
theorem selectCell_of_not_simValid {s : Station} (h : s.subscriber.simValid = false) :
    s.selectCell = .done s.returnIdle := by
  have hsubstate : s.returnIdle.machine.substate = some .noImsi := by
    simp [StateMachine.substate, StateMachine.enter, idleSubstate_of_not_simValid h]
  simp only [selectCell, hsubstate]

/-! ## What is asked for without a usable SIM -/

/-- Nothing is asked for on courses whose signals ask for nothing. -/
theorem read?_of_takes {s t : Station} {courses : List Course} (h : TakesOneOf s t courses)
    (hnothing : ∀ c ∈ courses, ∀ signal ∈ c.sent, signal.asksNothing = true) {p : RrPrimitive}
    (hp : .rr p ∈ sentBetween s t) : Asked.read? p.payload = none := by
  obtain ⟨c, hmem, htakes⟩ := h
  obtain ⟨sent, houtbox, hmatches⟩ := htakes.exists_matches
  rw [sentBetween_of_outbox houtbox] at hp
  obtain ⟨signal, hsignal, hmatch⟩ := hmatches _ hp rfl
  exact Asked.read?_of_matches hmatch (hnothing c hmem signal hsignal)

/-- A service that is asked for is an emergency call, unless the station passes for updated and
connections are in use. -/
theorem asked_of_cm {config : Config} {s : Station} (h : s.Configured config)
    (hsim : s.subscriber.simValid = false) {q : CmPrimitive} {procedure : CmProcedure}
    (hprocedure : s.machine.cmProcedure? q = some procedure) {p : RrPrimitive}
    (hp : .rr p ∈ sentBetween s (procedure.run s q).station) {asked : Asked}
    (hasked : Asked.read? p.payload = some asked) :
    asked.isEmergency = true ∨ s.readyToServe = true ∨
      (q.type = .dataRequest ∧ p = .send q.payload) := by
  have hstate := state_mem_of_cmProcedure? hprocedure
  -- A request that was not refused is for an emergency call, or services are offered.
  have hservice (hallowed : s.refusal? q = none)
      (hread : Asked.read? p.payload = some (.service (some (serviceOf q)))) :
      asked.isEmergency = true ∨ s.offersService = true := by
    refine (refusal?_eq_none hallowed).imp_left ?_
    intro hemergency
    rw [hread, serviceOf_of_isEmergency hemergency] at hasked
    rw [← Option.some.inj hasked]
    rfl
  have hnothing (courses : List Course) (htakes : TakesOneOf s (procedure.run s q).station courses)
      (hcourses : ∀ c ∈ courses, ∀ signal ∈ c.sent, signal.asksNothing = true) :
      asked.isEmergency = true ∨ s.readyToServe = true ∨
        (q.type = .dataRequest ∧ p = .send q.payload) := by
    rw [read?_of_takes htakes hcourses hp] at hasked
    cases hasked
  have htakes := s.takes_cmProcedure q procedure
  cases procedure with
  | requestFromIdle =>
    obtain ⟨hallowed, _, hread⟩ := asked_requestService (fun u => by simp) hp
    have hidle : s.machine.state = .idle := by simpa [CmProcedure.states] using hstate
    have hoffers := h.offersService_eq_false hsim hidle
    exact .inl ((hservice hallowed hread).resolve_right (by simp [hoffers]))
  | requestFirst => exact absurd (by simpa [CmProcedure.states] using hstate) h.entered
  | requestAdditional =>
    obtain ⟨hallowed, hroom, hread⟩ :=
      asked_requestService (fun u => by simp [awaitService, startTimer]) hp
    refine (hservice hallowed hread).imp_right fun hoffers => .inl ?_
    have hactive : s.machine.state = .connectionActive := by
      simpa [CmProcedure.states] using hstate
    simp only [offersService, Bool.and_eq_true] at hoffers
    simp [readyToServe, hactive, hoffers.1, hroom]
  | forwardData =>
    exact .inr (.inr ⟨type_of_cmProcedure? hprocedure, sent_forwardData hp⟩)
  | refuseBusy => exact hnothing _ htakes (by decide)
  | releaseActive => exact hnothing _ htakes (by decide)
  | releaseWaiting => exact hnothing _ htakes (by decide)
  | releaseRequested => exact hnothing _ htakes (by decide)

/-- A location update that is asked for is one that the station is ready for. -/
theorem asked_of_event {s : Station} (hsim : s.subscriber.simValid = false) {e : Event}
    {procedure : EventProcedure} (hprocedure : s.machine.eventProcedure? e = some procedure)
    {p : RrPrimitive} (hp : .rr p ∈ sentBetween s (procedure.run s e).station) {asked : Asked}
    (hasked : Asked.read? p.payload = some asked) : s.readyToUpdate = true := by
  have hstart (hupdate : procedure = .normalUpdate ∨ procedure = .periodicUpdate)
      (hsent : s.update.wanted = false ∧ s.updateAllowed = true) : s.readyToUpdate = true := by
    obtain ⟨hidle, hsubstate⟩ := idle_of_startUpdate hprocedure hupdate
    simp [readyToUpdate, hidle, hsubstate, hsent]
  -- Only the procedures of an update ask for anything; the others send nothing that could be read
  -- as a request.
  by_cases hupdates : procedure.updates = true
  · cases procedure with
    | normalUpdate => exact hstart (.inl rfl) (sent_startUpdate hp)
    | periodicUpdate => exact hstart (.inr rfl) (sent_startUpdate hp)
    | tryUpdate =>
      obtain ⟨hwanted, hallowed⟩ := sent_tryUpdate hp
      obtain ⟨hidle, hsubstate⟩ := idle_of_tryUpdate hprocedure
      simp [readyToUpdate, hidle, hsubstate, hwanted, hallowed]
    | selectCell =>
      rw [EventProcedure.run, selectCell_of_not_simValid hsim] at hp
      exact absurd hp (notMem_sentBetween (by simp))
    | _ => cases hupdates
  · rw [read?_of_takes (s.takes_eventProcedure e procedure)
      (EventProcedure.asksNothing_of_not_updates hupdates _) hp] at hasked
    cases hasked

theorem readyToServe_updateTransaction (s : Station) (q : CmPrimitive) :
    (s.updateTransaction q).readyToServe = s.readyToServe := by
  have hlength : (s.updateTransaction q).connections.connections.length =
      s.connections.connections.length := by
    have hmap := ConnectionTable.map_modifyFirst (g := Connection.reference)
      (p := (·.reference == q.reference)) (f := fun c => { c with transaction := q.transaction })
      (fun _ => rfl) s.connections.connections
    show (ConnectionTable.modifyFirst _ _ _).length = _
    simpa using congrArg List.length hmap
  simp only [readyToServe, hlength]
  rfl

/-- What is asked for by handling an input is an emergency call, unless the station is exposed. -/
theorem asked_of_handle {config : Config} {s : Station} (h : s.Configured config)
    (hsim : s.subscriber.simValid = false) {i : Input} {p : RrPrimitive}
    (hp : .rr p ∈ sentBetween s (s.handle i).station) {asked : Asked}
    (hasked : Asked.read? p.payload = some asked) :
    asked.isEmergency = true ∨ s.isExposed = true ∨
      ∃ q, i = .cm q ∧ q.type = .dataRequest ∧ p = .send q.payload := by
  have hnothing (courses : List Course) (htakes : TakesOneOf s (s.handle i).station courses)
      (hcourses : ∀ c ∈ courses, ∀ signal ∈ c.sent, signal.asksNothing = true) : False := by
    rw [read?_of_takes htakes hcourses hp] at hasked
    cases hasked
  cases i with
  | cm q =>
    -- The transaction that is taken over first is part of the connections alone.
    have hupdated : (s.updateTransaction q).Configured config :=
      ⟨h.imsi, h.imei, h.entered, h.shown, h.withoutSim⟩
    simp only [handle, handleCm] at hp
    split at hp
    · next procedure hprocedure =>
      rcases asked_of_cm hupdated hsim hprocedure hp hasked with hemergency | hready | hdata
      · exact .inl hemergency
      · rw [readyToServe_updateTransaction] at hready
        exact .inr (.inl (by simp [isExposed, hready]))
      · exact .inr (.inr ⟨q, rfl, hdata⟩)
    · exact absurd hp (notMem_sentBetween rfl)
  | registration r =>
    exact (hnothing [.stay] (.of_takes (s.takes_handleRegistration r) (by simp)) (by decide)).elim
  | rr r =>
    cases hprocedure : s.machine.rrProcedure? r with
    | some procedure =>
      have htakes := s.handle_takes (.rr r)
      simp only [StateMachine.courses, hprocedure] at htakes
      exact (hnothing _ htakes (procedure.asksNothing _)).elim
    | none =>
      simp only [handle, handleRr, hprocedure] at hp
      exact absurd hp (notMem_sentBetween rfl)
  | message data =>
    exact (hnothing _ (s.takes_receiveMessage data)
      (RrProcedure.asksNothing .receiveMessage _)).elim
  | event e =>
    simp only [handle, handleEvent] at hp
    split at hp
    · next procedure hprocedure =>
      have hready := asked_of_event hsim hprocedure hp hasked
      exact .inr (.inl (by simp [isExposed, hready]))
    · exact absurd hp (notMem_sentBetween rfl)

end Station

end MobileStation
