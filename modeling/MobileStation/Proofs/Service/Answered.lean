import MobileStation.Proofs.Connections.Account

/-!
# Answers to a request for a connection

A request for a connection is sent to the network, or turned down, or it breaks off; which of these
it is shows in what leaves the station, and in all but the first everything stays as it was. That is
so of the procedures. But the transaction of a request is written over that of the connection with
its reference before any procedure is selected, and no answer takes this back.

Main statements: `exists_gives` (the procedures answer every request), `Gives.unique` (in one way)
and `answers_establish_iff` (the requests that are answered as they should be).
-/

namespace MobileStation.Station

/-! ## Answers -/

/-- How a request for a connection is answered. -/
inductive RequestAnswer where
  /-- The network is asked with this message, which is carried so. -/
  | asked (route : Route) (data : Octets)
  /-- The protocol above is turned down with this cause. -/
  | refused (cause : UInt8)
  /-- The request breaks off. -/
  | failed (error : StationError)
  deriving DecidableEq

/-- A request leaves alone the state with its substate, the timers, the subscriber, what is waiting
and the connections. -/
structure Untouched (s t : Station) : Prop where
  machine : t.machine = s.machine
  timers : t.timers = s.timers
  subscriber : t.subscriber = s.subscriber
  queues : t.queues = s.queues
  connections : t.connections = s.connections

/-- A station that was asked for a connection gives this answer. -/
inductive Gives (s : Station) (p : CmPrimitive) (o : Outcome) : RequestAnswer → Prop
  /-- The service request is the only output, with a request for a radio link if the station is
  idle, and the connection is added behind the others. -/
  | asked (route : Route) (data : Octets) (hdone : o.failure = none)
      (hroute : route = .newLink ↔ s.machine.state = .idle)
      (hencode : (s.serviceRequest p).encode = .ok data)
      (hsent : o.station.outbox = s.outbox ++ [.rr (route.primitive (causeOf p) data)])
      (hadded : o.station.connections =
        { s.connections with
          connections := s.connections.connections ++ [requestedConnection p] }) :
      Gives s p o (.asked route data)
  /-- The release indication is the only output. -/
  | refused (cause : UInt8) (hdone : o.failure = none) (hcause : cause = 17 ∨ cause = 21)
      (hsent : o.station.outbox = s.outbox ++ [.cm (p.refusal cause)])
      (huntouched : Untouched s o.station) : Gives s p o (.refused cause)
  | failed (error : StationError) (hfailed : o.failure = some error)
      (hsent : o.station.outbox = s.outbox) (huntouched : Untouched s o.station) :
      Gives s p o (.failed error)

/-- A request is answered in one way at most: the answer can be told from what was sent. -/
theorem Gives.unique {s : Station} {p : CmPrimitive} {o : Outcome} {a b : RequestAnswer}
    (h : Gives s p o a) (h' : Gives s p o b) : a = b := by
  -- The answers differ in what is sent or in the failure, so no two kinds of them fit one outcome.
  cases h with
  | asked route data hdone hroute hencode hsent _ =>
    cases h' with
    | asked route' data' _ hroute' hencode' _ _ =>
      have hdata : data = data' := Except.ok.inj (hencode.symm.trans hencode')
      have hsame : route = .newLink ↔ route' = .newLink := hroute.trans hroute'.symm
      have hroutes : route = route' := by cases route <;> cases route' <;> simp_all
      rw [hdata, hroutes]
    | refused cause _ _ hsent' _ => simp [hsent] at hsent'
    | failed error hfailed _ _ => simp [hdone] at hfailed
  | refused cause hdone _ hsent _ =>
    cases h' with
    | asked route data _ _ _ hsent' _ => simp [hsent] at hsent'
    | refused cause' _ _ hsent' _ =>
      have hcauses : cause = cause' := by
        simpa [hsent, CmPrimitive.refusal] using hsent'
      rw [hcauses]
    | failed error hfailed _ _ => simp [hdone] at hfailed
  | failed error hfailed _ _ =>
    cases h' with
    | asked _ _ hdone _ _ _ _ => simp [hdone] at hfailed
    | refused _ hdone _ _ _ => simp [hdone] at hfailed
    | failed error' hfailed' _ _ =>
      rw [Option.some.inj (hfailed.symm.trans hfailed')]

/-- Whatever the answer, the connections are those of before, and perhaps the new one. -/
theorem Gives.connections {s : Station} {p : CmPrimitive} {o : Outcome} {a : RequestAnswer}
    (h : Gives s p o a) :
    o.station.connections.connections = s.connections.connections ∨
      o.station.connections.connections =
        s.connections.connections ++ [requestedConnection p] := by
  cases h with
  | asked _ _ _ _ _ _ hadded => exact .inr (by rw [hadded])
  | refused _ _ _ _ huntouched => exact .inl (by rw [huntouched.connections])
  | failed _ _ _ huntouched => exact .inl (by rw [huntouched.connections])

/-! ## Procedures -/

/-- A request that is not sent is refused for one of two causes. -/
theorem cause_of_refusal? {s : Station} {p : CmPrimitive} {cause : UInt8}
    (h : s.refusal? p = some cause) : cause = 17 ∨ cause = 21 := by
  unfold refusal? at h
  split at h
  · exact .inl (Option.some.inj h).symm
  · split at h
    · cases h
    · exact .inr (Option.some.inj h).symm

/-- Where the request is sent, what is done next neither sends anything nor touches a connection. -/
theorem exists_gives_requestService {s : Station} (p : CmPrimitive) {route : Route}
    (hroute : route = .newLink ↔ s.machine.state = .idle) {next : Station → Station}
    (hnext : ∀ u, (next u).connections = u.connections ∧ (next u).outbox = u.outbox) :
    ∃ answer, Gives s p (s.requestService p route next) answer := by
  -- The request is refused, cannot be written, finds no place in the table, or is made.
  simp only [requestService]
  split
  · next cause hrefused =>
    exact ⟨_, .refused cause rfl (cause_of_refusal? hrefused) rfl ⟨rfl, rfl, rfl, rfl, rfl⟩⟩
  · split
    · next error _ =>
      exact ⟨_, .failed (.codec error) rfl rfl ⟨rfl, rfl, rfl, rfl, rfl⟩⟩
    · next data hencode =>
      split
      · exact ⟨_, .refused 17 rfl (.inl rfl) rfl ⟨rfl, rfl, rfl, rfl, rfl⟩⟩
      · next error _ _ =>
        exact ⟨_, .failed (.connection error) rfl rfl ⟨rfl, rfl, rfl, rfl, rfl⟩⟩
      · next table hadd =>
        obtain ⟨_, _, _, rfl⟩ := ConnectionTable.add_eq_ok_iff.mp hadd
        refine ⟨_, .asked route data rfl hroute hencode ?_ ?_⟩
        · rw [station_done, (hnext _).2]
          rfl
        · rw [station_done, (hnext _).1]
          rfl

/-- There is a rule for a request in every state: the last one turns it down. -/
theorem exists_cmProcedure?_of_establish (m : StateMachine) {p : CmPrimitive}
    (htype : p.type = .establishRequest) : ∃ procedure, m.cmProcedure? p = some procedure := by
  rw [← Option.isSome_iff_exists, StateMachine.cmProcedure?, Rule.select?, Option.isSome_map,
    List.find?_isSome]
  refine ⟨⟨(.establishRequest, p.protocol), .everywhere, .refuseBusy⟩, ?_, ?_⟩
  · cases p.protocol <;> simp [cmRules, Rule.everyProtocol, CmProtocol.all]
  · simp [htype, Scope.covers]

/-- The procedure that is selected for a request answers it. -/
theorem exists_gives {s : Station} {p : CmPrimitive} {procedure : CmProcedure}
    (htype : p.type = .establishRequest) (h : s.machine.cmProcedure? p = some procedure) :
    ∃ answer, Gives s p (procedure.run s p) answer := by
  have hstate := state_mem_of_cmProcedure? h
  have hprocedure := (type_of_cmProcedure? h).symm.trans htype
  -- Only in the idle state there is no link to send the request over.
  have hopen (hbusy : s.machine.state ≠ .idle) :
      Route.openLink = .newLink ↔ s.machine.state = .idle :=
    iff_of_false (by decide) hbusy
  have hwaits (state : MainState) (u : Station) :
      (u.awaitService state).connections = u.connections ∧
        (u.awaitService state).outbox = u.outbox := by
    simp [awaitService, startTimer]
  cases procedure with
  | requestFromIdle =>
    have hidle : s.machine.state = .idle := List.mem_singleton.mp hstate
    have henters (u : Station) :
        (u.enter .waitForRadioConnection none).connections = u.connections ∧
          (u.enter .waitForRadioConnection none).outbox = u.outbox := by simp
    exact exists_gives_requestService p (iff_of_true rfl hidle) henters
  | requestFirst =>
    have hlink : s.machine.state = .releaseNotAllowed := List.mem_singleton.mp hstate
    exact exists_gives_requestService p (hopen (by rw [hlink]; decide)) (hwaits _)
  | requestAdditional =>
    have hactive : s.machine.state = .connectionActive := List.mem_singleton.mp hstate
    exact exists_gives_requestService p (hopen (by rw [hactive]; decide)) (hwaits _)
  | refuseBusy => exact ⟨_, .refused 17 rfl (.inl rfl) rfl ⟨rfl, rfl, rfl, rfl, rfl⟩⟩
  | _ => cases hprocedure

/-! ## The transaction of a request -/

/-- The request names no connection by another transaction than its own. -/
def KnowsTransaction (s : Station) (p : CmPrimitive) : Prop :=
  ∀ c ∈ s.connections.connections, c.reference = p.reference → c.transaction = p.transaction

theorem retransacted_eq_self_iff {p : CmPrimitive} {c : Connection} :
    retransacted p c = c ↔ (c.reference = p.reference → c.transaction = p.transaction) := by
  obtain ⟨protocol, transaction, reference, state⟩ := c
  by_cases href : reference = p.reference
  · simp [retransacted, href, eq_comm]
  · simp [retransacted, href]

/-- The transaction is written over exactly where the request knows another one. -/
theorem knowsTransaction_iff {s : Station} {p : CmPrimitive} :
    s.KnowsTransaction p ↔
      s.connections.connections.map (retransacted p) = s.connections.connections := by
  have hid : s.connections.connections.map (retransacted p) = s.connections.connections ↔
      ∀ c ∈ s.connections.connections, retransacted p c = c := by
    conv_lhs => rhs; rw [← List.map_id s.connections.connections]
    exact List.map_inj_left
  simp only [hid, retransacted_eq_self_iff, KnowsTransaction]

theorem updateTransaction_eq_self {s : Station} (hs : s.Orderly) {p : CmPrimitive}
    (h : s.KnowsTransaction p) : s.updateTransaction p = s := by
  have htable : (s.updateTransaction p).connections = s.connections := by
    have hlist := (connections_updateTransaction hs p).trans (knowsTransaction_iff.mp h)
    exact congrArg (fun l => { s.connections with connections := l }) hlist
  exact congrArg (fun t => { s with connections := t }) htable

/-- A request whose answer leaves the connections alone has written over nothing. -/
theorem KnowsTransaction.of_gives {s : Station} (hs : s.Orderly) {p : CmPrimitive}
    {o : Outcome} {answer found : RequestAnswer} (h : Gives s p o answer)
    (hfound : Gives (s.updateTransaction p) p o found) : s.KnowsTransaction p := by
  have hlooked := hfound.connections
  rw [connections_updateTransaction hs] at hlooked
  rw [knowsTransaction_iff]
  -- Both answers add at most one connection, and the lengths tell whether they did.
  rcases h.connections with hkept | hadded
  · rcases hlooked with hlist | hlist
    · exact hlist.symm.trans hkept
    · have hlength := congrArg List.length (hlist.symm.trans hkept)
      simp at hlength
  · rcases hlooked with hlist | hlist
    · have hlength := congrArg List.length (hlist.symm.trans hadded)
      simp at hlength
    · exact List.append_cancel_right (hlist.symm.trans hadded)

/-- A request is answered as it should be exactly if it knows the transaction it names. -/
theorem exists_gives_handle_iff {s : Station} (hs : s.Orderly) {p : CmPrimitive}
    (htype : p.type = .establishRequest) :
    (∃ answer, Gives s p (s.handle (.cm p)) answer) ↔ s.KnowsTransaction p := by
  obtain ⟨procedure, hprocedure⟩ :=
    exists_cmProcedure?_of_establish (s.updateTransaction p).machine htype
  have hhandle : s.handle (.cm p) = procedure.run (s.updateTransaction p) p := by
    simp only [handle, handleCm, hprocedure]
  -- There is always an answer to the request, counted from the renamed connections. It is one to
  -- the request as it came if nothing was renamed.
  obtain ⟨found, hfound⟩ := exists_gives htype hprocedure
  rw [hhandle]
  constructor
  · rintro ⟨answer, hanswer⟩
    exact .of_gives hs hanswer hfound
  · intro hknows
    rw [updateTransaction_eq_self hs hknows] at hfound ⊢
    exact ⟨found, hfound⟩

/-! ## Runs -/

/-- In every state that a run leads to, a request for a connection is sent to the network, turned
down, or breaks off, in exactly one of these ways, and leaves the connections there are as they
were, exactly if it names none of them by another transaction. -/
theorem answers_establish_iff (config : Config) (subscriber : Subscriber) (actions : List Action)
    {p : CmPrimitive} (htype : p.type = .establishRequest) :
    let s := (ofSubscriber config subscriber).run actions
    (∃! answer, Gives s p (s.handle (.cm p)) answer) ↔ s.KnowsTransaction p := by
  intro s
  rw [← exists_gives_handle_iff (orderly_run config subscriber actions) htype]
  constructor
  · rintro ⟨answer, hanswer, _⟩
    exact ⟨answer, hanswer⟩
  · rintro ⟨answer, hanswer⟩
    exact ⟨answer, hanswer, fun other hother => hother.unique hanswer⟩

/-- A second request beside a call. -/
theorem answers_establish_beside_call :
    let s := (ofConfig
      { imei := "356938035643809"
        imeisv := "3569380356438091"
        sim := some
          { imsi := "262420000000001", lai := some ⟨⟨262, 42, false⟩, 7⟩, updated := true } }).run
      [.cell (.campedIn ⟨⟨262, 42, false⟩, 7⟩),
        .handle (.event .newLocationArea),
        .handle (.cm
          { type := .establishRequest, protocol := .cc, reference := 1, transaction := 8 }),
        .handle (.rr { type := .establishConfirm }),
        .handle (.message [0x05, 0x21])]
    let p : CmPrimitive :=
      { type := .establishRequest, protocol := .sms, reference := 2, transaction := 0 }
    p.type = .establishRequest ∧ s.connections.connections.length = 1 ∧
      ∃! answer, Gives s p (s.handle (.cm p)) answer := by
  refine ⟨rfl, by decide +kernel, ?_⟩
  refine (answers_establish_iff _ (Subscriber.ofConfig _) _ rfl).mpr ?_
  unfold KnowsTransaction
  decide +kernel

/-- A request under the reference of one that is pending is turned down, but leaves its transaction
behind in the connection that is pending. -/
theorem refused_request_renames_pending :
    let s := (ofConfig
      { imei := "356938035643809"
        imeisv := "3569380356438091"
        sim := some
          { imsi := "262420000000001", lai := some ⟨⟨262, 42, false⟩, 7⟩, updated := true } }).run
      [.cell (.campedIn ⟨⟨262, 42, false⟩, 7⟩),
        .handle (.event .newLocationArea),
        .handle (.cm
          { type := .establishRequest, protocol := .cc, reference := 1, transaction := 8 })]
    let p : CmPrimitive :=
      { type := .establishRequest, protocol := .cc, reference := 1, transaction := 9 }
    ¬ ∃! answer, Gives s p (s.handle (.cm p)) answer := by
  rintro s p ⟨answer, hanswer, _⟩
  have hs : s.Orderly := orderly_run _ _ _
  have hknows : s.KnowsTransaction p := (exists_gives_handle_iff hs rfl).mp ⟨answer, hanswer⟩
  revert hknows
  unfold KnowsTransaction
  decide +kernel

end MobileStation.Station
