import MobileStation.Proofs.Connections.Pending
import MobileStation.Proofs.Service.Asking

/-!
# Emergency calls without a usable SIM

A station without a usable SIM should ask the network for emergency calls alone. It does, unless it
is exposed; and an exposed station does ask for more, because the identities of a checked
configuration can be written and there is always a name left for one more connection. Two ways to
lose the SIM leave a station exposed: a detach that ends while the update status is that of an
updated station, and a refusal of the subscriber in the idle state.

Main statements: `onlyEmergencies_iff` (the states in which a station without a usable SIM asks for
emergency calls alone) and `call_without_sim` (a run to a state in which it asks for more).
-/

namespace MobileStation.Station

/-- The primitive hands on a message of a protocol above, which the station does not read. -/
def HandsOn (s : Station) (a : Action) (p : RrPrimitive) : Prop :=
  ∃ t q, a.handled? s = some (t, .cm q) ∧ q.type = .dataRequest ∧ p = .send q.payload

/-- Whatever happens next, the station asks the network for nothing but an emergency call. -/
def OnlyEmergencies (s : Station) : Prop :=
  ∀ a p, .rr p ∈ s.emits a → ¬ s.HandsOn a p →
    ∀ asked, Asked.read? p.payload = some asked → asked.isEmergency = true

/-! ## Stations that are exposed -/

/-- A request for a location update that can be written leaves the station. -/
theorem asks_requestUpdate {s : Station} {value : Octets}
    (h : s.subscriber.identity.encode = .ok value) :
    ∃ p, .rr p ∈ sentBetween s s.requestUpdate.station ∧
      Asked.read? p.payload = some .update := by
  obtain ⟨data, hencode⟩ :
      ∃ data, (Message.locationUpdatingRequest s.updateRequest).encode = .ok data :=
    Message.exists_encode_of_identity rfl h
  refine ⟨.establish .locationUpdate data, ?_, Asked.read?_of_update hencode⟩
  simp only [requestUpdate, hencode, station_done]
  rw [sentBetween_sendRr (s := s) rfl (enter_frame s _ _).2.2.2.2.2]
  exact List.mem_singleton_self _

/-- A station that is ready for a location update has a SIM to identify it with. -/
theorem Configured.exists_identity {config : Config} {s : Station} (h : s.Configured config)
    (hwritable : config.Writable) (hready : s.readyToUpdate = true) :
    ∃ value, s.subscriber.identity.encode = .ok value := by
  unfold Subscriber.identity
  split
  · exact ⟨_, rfl⟩
  · cases hsim : config.sim with
    | some sim =>
      have himsi : s.subscriber.imsi = sim.imsi := by
        rw [h.imsi, Subscriber.ofConfig, hsim]
      rw [himsi]
      exact hwritable.imsi sim hsim
    | none =>
      -- Without one the substate is not among those of a location update.
      simp only [readyToUpdate, StateMachine.isIdle, Bool.and_eq_true, decide_eq_true_eq] at hready
      obtain ⟨⟨hidle, _⟩, hsubstate⟩ := hready
      exfalso
      rcases (h.withoutSim hsim).2 hidle with hlast | hlast <;> rw [hlast] at hsubstate <;>
        split at hsubstate <;> cases hsubstate

/-- A request for anything but an emergency call. -/
theorem not_onlyEmergencies {s : Station} {i : Input} {p : RrPrimitive}
    (hp : .rr p ∈ sentBetween s (s.handle i).station)
    (hown : ∀ q, i = .cm q → q.type ≠ .dataRequest) {asked : Asked}
    (hasked : Asked.read? p.payload = some asked) (hother : asked.isEmergency = false) :
    ¬ s.OnlyEmergencies := by
  intro honly
  have hemergency := honly (.handle i) p hp ?_ asked hasked
  · simp [hother] at hemergency
  · rintro ⟨t, q, hhandled, htype, _⟩
    obtain ⟨_, hinput⟩ := Prod.mk.inj (Option.some.inj hhandled)
    exact hown q hinput htype

theorem handle_retry {s : Station} (hretry : s.machine.takesRetry = true)
    (hwanted : s.update.wanted = true) (hallowed : s.updateAllowed = true) :
    s.handle (.event (.timeout .t3211)) = s.requestUpdate := by
  simp [handle, handleEvent, eventProcedure?_retry _ (.inl rfl), hretry, EventProcedure.run,
    tryUpdate, hwanted, hallowed]

theorem eventProcedure?_of_startsUpdate {m : StateMachine} (hidle : m.isIdle = true)
    (hsubstate : m.lastSubstate.startsUpdate = true) :
    m.eventProcedure? .newLocationArea = some .normalUpdate := by
  obtain ⟨state, last, departure⟩ := m
  have hstate : state = .idle := by simpa [StateMachine.isIdle] using hidle
  subst hstate
  cases last <;> first | rfl | cases hsubstate

theorem not_onlyEmergencies_of_readyToUpdate {config : Config} {s : Station}
    (h : s.Configured config) (hwritable : config.Writable) (hready : s.readyToUpdate = true) :
    ¬ s.OnlyEmergencies := by
  obtain ⟨value, hidentity⟩ := h.exists_identity hwritable hready
  simp only [readyToUpdate, Bool.and_eq_true] at hready
  obtain ⟨⟨hidle, hallowed⟩, hsubstate⟩ := hready
  cases hwanted : s.update.wanted with
  | true =>
    -- The wanted update is tried again when a retry timer runs out.
    rw [hwanted, if_pos rfl] at hsubstate
    obtain ⟨p, hp, hasked⟩ := asks_requestUpdate hidentity
    have hretry : s.machine.takesRetry = true := by
      simp [StateMachine.takesRetry, hidle, hsubstate]
    rw [← handle_retry hretry hwanted hallowed] at hp
    exact not_onlyEmergencies hp (fun _ heq => by cases heq) hasked rfl
  | false =>
    -- A new update is started in a new location area.
    rw [hwanted, if_neg Bool.false_ne_true] at hsubstate
    let kind : UpdateKind := if s.attachRequired then .imsiAttach else .normal
    let u : Station :=
      { s with
        update :=
          { s.update with wanted := true, kind := kind, attempts := 0, accessFailed := false } }
    obtain ⟨p, hp, hasked⟩ := asks_requestUpdate (s := u) hidentity
    have hallowedAfter : u.updateAllowed = true := hallowed
    have hhandle : s.handle (.event .newLocationArea) = u.requestUpdate := by
      simp only [handle, handleEvent, eventProcedure?_of_startsUpdate hidle hsubstate,
        EventProcedure.run, normalUpdate, startUpdate, hwanted]
      show u.tryUpdate = u.requestUpdate
      simp [tryUpdate, hallowedAfter, u]
    have hsent : .rr p ∈ sentBetween s (s.handle (.event .newLocationArea)).station := by
      rw [hhandle]
      exact hp
    exact not_onlyEmergencies hsent (fun _ heq => by cases heq) hasked rfl

/-- The connections leave a reference and a transaction of each protocol unused. -/
theorem exists_unused {t : ConnectionTable} (h : t.WellFormed) (protocol : CmProtocol) :
    ∃ reference transaction, (∀ c ∈ t.connections, c.reference ≠ reference) ∧
      (protocol, transaction) ∉ t.keys := by
  have hlength := h.bounded
  have hreferences : t.references.length < 33 := by
    simp only [ConnectionTable.references, List.length_map]
    omega
  have hkeys : t.keys.length < 33 := by
    simp only [ConnectionTable.keys, List.length_map]
    omega
  -- There are more numbers than places in the table, and different numbers make different
  -- references.
  obtain ⟨i, _, hreference⟩ := exists_notMem (f := UInt32.ofNat) hreferences (by
    intro i hi j hj heq
    have hnat := congrArg UInt32.toNat heq
    simp only [UInt32.toNat_ofNat'] at hnat
    omega)
  obtain ⟨j, _, hkey⟩ := exists_notMem (f := fun n => (protocol, UInt8.ofNat n)) hkeys (by
    intro i hi j hj heq
    have hnat := congrArg (fun key => key.2.toNat) heq
    simp only [UInt8.toNat_ofNat'] at hnat
    omega)
  refine ⟨UInt32.ofNat i, UInt8.ofNat j, ?_, hkey⟩
  intro c hc heq
  exact hreference (heq ▸ List.mem_map_of_mem hc)

/-- A primitive with an unused reference rewrites the transaction of no connection. -/
theorem updateTransaction_of_unused {s : Station} {q : CmPrimitive}
    (h : ∀ c ∈ s.connections.connections, c.reference ≠ q.reference) :
    s.updateTransaction q = s := by
  have hnone : s.connections.connections.countP (·.reference == q.reference) = 0 := by
    rw [List.countP_eq_zero]
    intro c hc
    simpa using h c hc
  have htable : s.connections.modifyByReference q.reference
      (fun c => { c with transaction := q.transaction }) = s.connections := by
    rw [ConnectionTable.modifyByReference,
      ConnectionTable.modifyFirst_eq_map (by rw [hnone]; exact Nat.zero_le 1),
      List.map_congr_left fun c hc => if_neg (List.countP_eq_zero.mp hnone c hc), List.map_id']
  rw [updateTransaction, htable]

/-- A service request that is neither refused nor breaks off is sent, and its connection is
pending. -/
theorem requestService_eq_done {s : Station} {q : CmPrimitive} (route : Route)
    (next : Station → Station) (hallowed : s.refusal? q = none) {data : Octets}
    (hencode : (s.serviceRequest q).encode = .ok data) {table : ConnectionTable}
    (hadd : s.connections.add (requestedConnection q) = .ok table) :
    s.requestService q route next =
      .done (next ({ s with update.attempts := 0, connections := table }.sendRr
        (route.primitive (causeOf q) data))) := by
  simp only [requestService]
  -- No other way out of the procedure is open.
  split
  · next hrefused => cases hallowed.symm.trans hrefused
  · split
    · next hfailed => cases hencode.symm.trans hfailed
    · next _ hwritten =>
      obtain rfl := Except.ok.inj (hencode.symm.trans hwritten)
      split
      · next htaken => cases hadd.symm.trans htaken
      · next _ htaken => cases hadd.symm.trans htaken
      · next found hfound =>
        obtain rfl := Except.ok.inj (hadd.symm.trans hfound)
        rfl

/-- A service request that is not refused leaves the station if there is room for it. -/
theorem asks_requestService {s : Station} {q : CmPrimitive} (route : Route)
    {next : Station → Station} (hnext : ∀ u : Station, (next u).outbox = u.outbox)
    (hallowed : s.refusal? q = none) {data : Octets}
    (hencode : (s.serviceRequest q).encode = .ok data) {table : ConnectionTable}
    (hadd : s.connections.add (requestedConnection q) = .ok table) :
    ∃ p, .rr p ∈ sentBetween s (s.requestService q route next).station ∧
      Asked.read? p.payload = some (.service (some (serviceOf q))) := by
  refine ⟨route.primitive (causeOf q) data, ?_, ?_⟩
  · let u : Station := { s with update.attempts := 0, connections := table }
    have hsent : sentBetween s (next (u.sendRr (route.primitive (causeOf q) data))) =
        [.rr (route.primitive (causeOf q) data)] := sentBetween_sendRr (hnext _) rfl
    rw [requestService_eq_done route next hallowed hencode hadd, station_done, hsent]
    exact List.mem_singleton_self _
  · rw [Route.payload_primitive]
    exact Asked.read?_of_service hencode

theorem cmProcedure?_of_connectionActive {m : StateMachine} {q : CmPrimitive}
    (hstate : m.state = .connectionActive) (htype : q.type = .establishRequest) :
    m.cmProcedure? q = some .requestAdditional := by
  obtain ⟨state, last, departure⟩ := m
  subst hstate
  rw [StateMachine.cmProcedure?, htype]
  cases q.protocol <;> rfl

theorem not_onlyEmergencies_of_readyToServe {config : Config} {s : Station}
    (h : s.Configured config) (hwritable : config.Writable) (horderly : s.Orderly)
    (hsim : s.subscriber.simValid = false) (hready : s.readyToServe = true) :
    ¬ s.OnlyEmergencies := by
  simp only [readyToServe, Bool.and_eq_true, decide_eq_true_eq] at hready
  obtain ⟨⟨hactive, hupdated⟩, hroom⟩ := hready
  obtain ⟨reference, transaction, hreference, hkey⟩ := exists_unused horderly.wellFormed .cc
  -- An ordinary call, by names that are not in use.
  let q : CmPrimitive :=
    { type := .establishRequest, protocol := .cc, reference := reference,
      transaction := transaction }
  -- Nothing is pending in this state, so the request is not refused as one too many.
  have hnone : s.connections.pending? = none := by
    rw [← ConnectionTable.pendingCount_eq_zero_iff]
    by_contra hpending
    have hestablishes := horderly.supervised hpending
    simp [hactive, MainState.establishes] at hestablishes
  have hallowed : s.refusal? q = none := by
    simp [refusal?, hnone, offersService, hupdated, StateMachine.substate, hactive]
  -- Without a usable SIM the equipment identifies itself.
  have himei : s.subscriber.imei = config.imei := by
    rw [h.imei, Subscriber.ofConfig]
    split <;> rfl
  obtain ⟨value, hvalue⟩ := hwritable.imei
  have hidentity : (MobileIdentity.imei s.subscriber.imei).encode = .ok value := himei ▸ hvalue
  obtain ⟨data, hencode⟩ : ∃ data, (s.serviceRequest q).encode = .ok data := by
    have hshown : (if s.subscriber.simValid then s.subscriber.identity
        else .imei s.subscriber.imei).encode = .ok value := by
      simpa [hsim] using hidentity
    exact Message.exists_encode_of_identity rfl hshown
  have hadd := (ConnectionTable.add_eq_ok_iff (c := requestedConnection q)).mpr
    ⟨hroom, hreference, hkey, rfl⟩
  obtain ⟨p, hp, hasked⟩ : ∃ p, .rr p ∈ sentBetween s (s.requestAdditional q).station ∧
      Asked.read? p.payload = some (.service (some (serviceOf q))) :=
    asks_requestService .openLink (fun u => by simp [awaitService, startTimer]) hallowed hencode
      hadd
  have hhandle : s.handle (.cm q) = s.requestAdditional q := by
    simp only [handle, handleCm, updateTransaction_of_unused (q := q) hreference,
      cmProcedure?_of_connectionActive (q := q) hactive rfl]
    rfl
  rw [← hhandle] at hp
  exact not_onlyEmergencies hp (by rintro _ ⟨⟩ ⟨⟩) hasked rfl

/-! ## Runs -/

/-- A station that has the subscriber of a checked configuration, and lost its SIM, asks for
emergency calls alone in exactly the states in which it is not exposed. -/
theorem onlyEmergencies_iff {config : Config} (hvalid : config.validate = .ok ())
    {actions : List Action} (hwrites : ∀ u, .subscriber u ∉ actions)
    (hsim : ((ofConfig config).run actions).subscriber.simValid = false) :
    ((ofConfig config).run actions).OnlyEmergencies ↔
      ((ofConfig config).run actions).isExposed = false := by
  have hconfigured : ((ofConfig config).run actions).Configured config := configured_run hwrites
  have horderly := orderly_run config (Subscriber.ofConfig config) actions
  have hwritable := Config.writable_of_validate hvalid
  constructor
  · intro honly
    by_contra hexposed
    rw [Bool.not_eq_false, isExposed, Bool.or_eq_true] at hexposed
    rcases hexposed with hready | hready
    · exact not_onlyEmergencies_of_readyToUpdate hconfigured hwritable hready honly
    · exact not_onlyEmergencies_of_readyToServe hconfigured hwritable horderly hsim hready honly
  · intro hexposed a p hp hown asked hasked
    cases hhandled : a.handled? ((ofConfig config).run actions) with
    | none =>
      rw [emits_of_not_handled hhandled] at hp
      cases hp
    | some r =>
      obtain ⟨t, i⟩ := r
      obtain ⟨himsi, himei, hentered, hshown, hwithout⟩ := hconfigured
      have hqueues := queues_of_handled hhandled
      -- The queues are no part of what the station is judged by.
      have ht : t.Configured config := by
        rw [hqueues]
        exact ⟨himsi, himei, hentered, hshown, hwithout⟩
      have htsim : t.subscriber.simValid = false := by rw [hqueues]; exact hsim
      have htexposed : t.isExposed = false := by rw [hqueues]; exact hexposed
      rw [emits_of_handled hhandled] at hp
      rcases asked_of_handle ht htsim hp hasked with hemergency | hready | ⟨q, rfl, hdata⟩
      · exact hemergency
      · rw [htexposed] at hready
        cases hready
      · exact absurd ⟨t, q, hhandled, hdata⟩ hown

/-- A station that was not updated keeps to emergency calls after a detach. -/
theorem onlyEmergencies_after_detach :
    ((ofConfig
      { imei := "356938035643809"
        imeisv := "3569380356438091"
        sim := some { imsi := "262420000000001" } }).run
      [.handle (.event .imsiDetach),
        .handle (.rr { type := .establishIndication }),
        .handle (.message [0x03, 0x05])]).OnlyEmergencies :=
  (onlyEmergencies_iff (by decide +kernel) (by simp) (by decide +kernel)).mpr (by decide +kernel)

/-- A station that was refused in the idle state stays in the substate of normal service, where it
would update its location. -/
example :
    ((ofConfig
      { imei := "356938035643809"
        imeisv := "3569380356438091"
        sim := some
          { imsi := "262420000000001"
            lai := some ⟨⟨262, 42, false⟩, 7⟩
            updated := true } }).run
      [.cell (.campedIn ⟨⟨262, 42, false⟩, 7⟩),
        .handle (.event .newLocationArea),
        .handle (.message [0x05, 0x11])]).readyToUpdate = true := by
  decide +kernel

/-- A station that was updated and detached before the network opened a link asks for an ordinary
call as soon as the network has opened a connection. -/
theorem call_without_sim :
    let config : Config :=
      { imei := "356938035643809"
        imeisv := "3569380356438091"
        sim := some { imsi := "262420000000001", updated := true } }
    let s := (ofConfig config).run
      [.handle (.event .imsiDetach),
        .handle (.rr { type := .establishIndication }),
        .handle (.message [0x03, 0x05])]
    config.validate = .ok () ∧ s.subscriber.simValid = false ∧ ¬ s.OnlyEmergencies := by
  refine ⟨by decide +kernel, by decide +kernel, ?_⟩
  exact not_onlyEmergencies
    (i := .cm { type := .establishRequest, protocol := .cc, reference := 7, transaction := 0 })
    (p := .send [0x05, 0x24, 0x71, 0x03, 0x33, 0x19, 0xA2, 0x08, 0x3A, 0x65, 0x39, 0x08, 0x53,
      0x46, 0x83, 0x90])
    (by decide +kernel) (by rintro _ ⟨⟩ ⟨⟩)
    (show Asked.read? _ = some (.service (some .mobileOriginatingCall)) by decide +kernel) rfl

end MobileStation.Station
