import MobileStation.Proofs.Update.Carries

/-!
# The wanted location update

A location update that is wanted keeps every other request for one away, so it must not be
forgotten: it has to be under way, or be tried again when a timer runs out. There are four ways in
which an input forgets it, and each is a step after which nothing will bring it back.

Main statements: `handle_supervised_iff` (the inputs that forget a location update) and
`updateSupervised_throughout_iff` (the runs throughout which none is forgotten).
-/

namespace MobileStation

namespace Station

/-! ## Starting and trying -/

/-- Trying a location update is supervised, unless the request for it cannot be written. -/
theorem tryUpdate_supervised_iff {s : Station} (hstate : s.machine.state.updates = false)
    (hretries : ¬ s.Retries) :
    s.tryUpdate.station.UpdateSupervised ↔ s.tryUpdate.failure = none := by
  rw [updateSupervised_iff]
  unfold tryUpdate requestUpdate
  -- No update is wanted, the cell serves one, or the update is given up.
  split
  · next hwanted =>
    refine iff_of_true ?_ rfl
    intro h
    rw [station_done] at h
    simp [h] at hwanted
  · next hwanted =>
    split
    · split
      · -- The request cannot be written: the station is left as it was, wanting the update.
        refine iff_of_false ?_ ?_
        · intro h
          rcases h (by simpa using hwanted) with hupdates | hretry
          · simp [hstate] at hupdates
          · exact hretries hretry
        · intro hnone
          cases hnone
      · exact iff_of_true (fun _ => .inl (by simp [sendRr, send, MainState.updates])) rfl
    · refine iff_of_true ?_ rfl
      intro hnotWanted
      cases hnotWanted

theorem retries_tryUpdate (s : Station) : s.tryUpdate.station.Retries ↔ s.Retries := by
  unfold tryUpdate requestUpdate
  split
  · exact Iff.rfl
  · split
    · split
      · exact Iff.rfl
      · exact (retries_of_frame rfl rfl).trans (s.retries_enter .waitForRadioLocationUpdate none)
    · exact retries_of_frame rfl rfl

theorem startUpdate_supervised_iff {s : Station} (hstate : s.machine.state.updates = false)
    (hretries : ¬ s.Retries) (hwanted : s.update.wanted = false) (kind : UpdateKind) :
    (s.startUpdate kind).station.UpdateSupervised ↔ (s.startUpdate kind).failure = none := by
  rw [startUpdate, if_neg (by simp [hwanted])]
  -- The kind and the wish are written first; neither touches the state or the timers.
  refine tryUpdate_supervised_iff ?_ ?_
  · exact hstate
  · exact hretries

theorem retries_startUpdate (s : Station) (kind : UpdateKind) :
    (s.startUpdate kind).station.Retries ↔ s.Retries := by
  simp only [startUpdate]
  split
  · exact Iff.rfl
  · exact (retries_tryUpdate _).trans (retries_of_frame rfl rfl)

theorem selectCell_cases (s : Station) :
    s.selectCell = s.returnIdle.normalUpdate ∨ s.selectCell = .done s.returnIdle := by
  simp only [selectCell]
  split
  · exact .inl rfl
  · exact .inl rfl
  · split
    · exact .inl rfl
    · exact .inr rfl
  · exact .inr rfl

theorem selectCell_supervised_iff {s : Station} (hretries : ¬ s.Retries)
    (hwanted : s.update.wanted = false) :
    s.selectCell.station.UpdateSupervised ↔ s.selectCell.failure = none := by
  have hidle : s.returnIdle.update.wanted = false := by simp [hwanted]
  rcases s.selectCell_cases with hcase | hcase <;> rw [hcase]
  · refine startUpdate_supervised_iff (by simp [MainState.updates]) ?_ hidle _
    rwa [retries_returnIdle]
  · refine iff_of_true ?_ rfl
    rw [updateSupervised_iff]
    intro h
    simp [hwanted] at h

theorem retries_selectCell (s : Station) : s.selectCell.station.Retries ↔ s.Retries := by
  rcases s.selectCell_cases with hcase | hcase <;> rw [hcase]
  · exact (retries_startUpdate _ _).trans s.retries_returnIdle
  · exact s.retries_returnIdle

/-! ## Forgotten location updates -/

/-- Handling the input forgets a location update that is wanted, in a station without the prospect
of a retry: the request for the update cannot be written, the event of a retry timer meets a state
in which it has no effect, the radio link is aborted while the station waits for it to be released
after a reject, or a service request is rejected while the update is under way. -/
def ForgetsUpdate (s : Station) : Input → Prop
  | .event .newLocationArea => (s.handle (.event .newLocationArea)).failure ≠ none
  | .event (.timeout timer) =>
    match timer with
    | .t3212 => (s.handle (.event (.timeout timer))).failure ≠ none
    | .t3211 | .t3213 =>
      (s.handle (.event (.timeout timer))).failure ≠ none ∨
        s.update.wanted = true ∧ s.machine.state.updates = false ∧ s.machine.takesRetry = false
    | .t3240 =>
      s.update.wanted = true ∧ s.machine.state = .locationUpdatingReject ∧
        s.subscriber.simValid = true
    | _ => False
  | .message data =>
    s.update.wanted = true ∧ s.machine.state.updates = true ∧ IsServiceReject data
  | .rr p =>
    p.type = .dataIndication ∧ s.update.wanted = true ∧ s.machine.state.updates = true ∧
      IsServiceReject p.payload
  | _ => False

/-- The action forgets a location update that is wanted. -/
def AbandonsUpdate (s : Station) (a : Action) : Prop :=
  (∃ t i, a.handled? s = some (t, i) ∧ ¬ t.Retries ∧ t.ForgetsUpdate i) ∨
    a = .exit ∧ s.update.wanted = true ∧ s.machine.state.updates = false

/-! ## One input -/

theorem retries_handleEvent {s : Station} (h : s.Retries) (e : Event) :
    (s.handleEvent e).station.Retries := by
  unfold handleEvent
  split
  · next procedure hprocedure =>
    have hstate := state_mem_of_eventProcedure? hprocedure
    -- What is about the update may start a timer of its own, but stops none of those that run.
    cases hconcerns : procedure.concernsUpdate with
    | false => exact (carries_eventProcedure e hstate hconcerns).retries h
    | true =>
      cases procedure with
      | normalUpdate => exact (s.retries_startUpdate _).mpr h
      | periodicUpdate => exact (s.retries_startUpdate _).mpr h
      | tryUpdate => exact s.retries_tryUpdate.mpr h
      | selectCell => exact s.retries_selectCell.mpr h
      | abortLink => exact (s.calm_eventProcedure e rfl).steady.retries h
      | _ => cases hconcerns
  · exact h

/-- Handling an input takes no prospect of a retry away. -/
theorem retries_handle {s : Station} (h : s.Retries) (i : Input) :
    (s.handle i).station.Retries := by
  cases i with
  | cm p => exact (s.carries_handleCm p).retries h
  | registration p => cases p <;> exact h
  | rr p =>
    show (s.handleRr p).station.Retries
    unfold handleRr
    split
    · exact (s.steady_rrProcedure p _).retries h
    · exact h
  | message data => exact (s.steady_receiveMessage data).retries h
  | event e => exact retries_handleEvent h e

/-- A message forgets a location update exactly if it rejects a service request. -/
theorem receiveMessage_supervised_iff {s : Station} (hs : s.PendingSupervised)
    (hretries : ¬ s.Retries) (hwanted : s.UpdateSupervised) (data : Octets) :
    (s.receiveMessage data).station.UpdateSupervised ↔
      ¬ (s.update.wanted = true ∧ s.machine.state.updates = true ∧ IsServiceReject data) := by
  by_cases hreject : IsServiceReject data
  · -- No rule keeps the reject away from a location update, and it always leaves its states.
    obtain ⟨header, body, cause, hread, hprotocol, hskip, htype, hcause⟩ := id hreject
    have hreceive : s.receiveMessage data = s.noteContact.receiveServiceReject body := by
      simp only [receiveMessage, hread, hprotocol, receiveMm, hskip, htype]
      rfl
    obtain ⟨hstate, hupdate, hretry⟩ := s.noteContact.receiveServiceReject_updates hcause
    rw [hreceive, updateSupervised_iff, hstate, hupdate, hretry, retries_noteContact]
    rw [updateSupervised_iff] at hwanted
    simp only [noteContact_frame]
    constructor
    · rintro h ⟨hwant, _, _⟩
      rcases h hwant with hnone | hretry
      · cases hnone
      · exact hretries hretry
    · intro h hwant
      rcases hwanted hwant with hupdates | hretry
      · exact absurd ⟨hwant, hupdates, hreject⟩ h
      · exact .inr hretry
  · refine iff_of_true ((carries_receiveMessage hs hreject).supervised hwanted) ?_
    intro h
    exact hreject h.2.2

/-- A location update is not wanted outside its states without the prospect of a retry. -/
theorem UpdateSupervised.wanted_eq_false {s : Station} (h : s.UpdateSupervised)
    (hstate : s.machine.state.updates = false) (hretries : ¬ s.Retries) :
    s.update.wanted = false := by
  rw [updateSupervised_iff] at h
  by_contra hwanted
  rcases h (by simpa using hwanted) with hupdates | hretry
  · simp [hstate] at hupdates
  · exact hretries hretry

/-- An event that may start a location update forgets it exactly if the request cannot be written.
-/
theorem start_supervised_iff {s : Station} (hretries : ¬ s.Retries) (hwanted : s.UpdateSupervised)
    {e : Event} (htag : e.tag = .newLocationArea ∨ e.tag = .timeout .t3212) :
    (s.handleEvent e).station.UpdateSupervised ↔ (s.handleEvent e).failure = none := by
  unfold handleEvent
  split
  · next procedure hprocedure =>
    have hstate := state_mem_of_eventProcedure? hprocedure
    have htags := tag_mem_of_eventProcedure? hprocedure
    -- Updates are started in the idle state, where one that is wanted would have its retry.
    have hnone (hidle : ∀ state ∈ procedure.states, state.updates = false) :
        s.machine.state.updates = false ∧ s.update.wanted = false :=
      ⟨hidle _ hstate, hwanted.wanted_eq_false (hidle _ hstate) hretries⟩
    cases procedure with
    | normalUpdate =>
      obtain ⟨hupdates, hwant⟩ := hnone (by decide)
      exact startUpdate_supervised_iff hupdates hretries hwant _
    | periodicUpdate =>
      obtain ⟨hupdates, hwant⟩ := hnone (by decide)
      exact startUpdate_supervised_iff hupdates hretries hwant _
    | selectCell => exact selectCell_supervised_iff hretries (hnone (by decide)).2
    | nothing => exact iff_of_true hwanted rfl
    | _ => rcases htag with htag | htag <;> simp [htag, EventProcedure.tags] at htags
  · exact iff_of_true hwanted rfl

/-- The event of a retry timer forgets a location update if the request cannot be written, or if the
event has no effect while none is under way. -/
theorem retry_supervised_iff {s : Station} (hretries : ¬ s.Retries) {timer : TimerName}
    (htimer : timer = .t3211 ∨ timer = .t3213) :
    (s.handleEvent (.timeout timer)).station.UpdateSupervised ↔
      ¬ ((s.handleEvent (.timeout timer)).failure ≠ none ∨
        s.update.wanted = true ∧ s.machine.state.updates = false ∧
          s.machine.takesRetry = false) := by
  unfold handleEvent
  rw [eventProcedure?_retry _ htimer]
  by_cases htakes : s.machine.takesRetry = true
  · -- The update is tried from an idle state.
    have hidle : s.machine.state.updates = false := by
      simp only [StateMachine.takesRetry, StateMachine.isIdle, Bool.and_eq_true,
        decide_eq_true_eq] at htakes
      rw [htakes.1]
      rfl
    simp only [htakes, if_true, EventProcedure.run]
    rw [tryUpdate_supervised_iff hidle hretries]
    simp
  · -- The event is dropped, and with it the last prospect of a retry.
    have hstay : (if s.machine.takesRetry = true then some EventProcedure.tryUpdate else none) =
        none := if_neg htakes
    simp only [hstay]
    rw [updateSupervised_iff]
    simp [hretries, htakes, Outcome.done]

/-- Supervision of the radio link that ends after a reject forgets a location update. -/
theorem abortLink_supervised_iff {s : Station} (hretries : ¬ s.Retries)
    (hwanted : s.UpdateSupervised) :
    (s.handleEvent (.timeout .t3240)).station.UpdateSupervised ↔
      ¬ (s.update.wanted = true ∧ s.machine.state = .locationUpdatingReject ∧
        s.subscriber.simValid = true) := by
  unfold handleEvent
  rw [eventProcedure?_release]
  by_cases hstate : s.machine.state = .waitForNetworkCommand ∨
      s.machine.state = .locationUpdatingReject
  · simp only [hstate, if_true, EventProcedure.run, abortLink, station_done]
    have hsend : (s.sendRr (.abort RrCause.timerAbort)).Retries ↔ s.Retries :=
      retries_of_frame rfl rfl
    rw [updateSupervised_iff, retries_returnIdle, hsend]
    rcases hstate with hstate | hstate
    · have hwant : s.update.wanted = false :=
        hwanted.wanted_eq_false (by rw [hstate]; rfl) hretries
      simp [hwant, sendRr, send]
    · -- The idle state gives the update up only for want of a usable SIM.
      simp [hstate, hretries, sendRr, send, MainState.updates]
  · have hstay : (if s.machine.state = .waitForNetworkCommand ∨
        s.machine.state = .locationUpdatingReject then some EventProcedure.abortLink else none) =
        none := if_neg hstate
    simp only [hstay]
    refine iff_of_true hwanted ?_
    intro h
    exact hstate (.inr h.2.1)

/-- The kinds of events that start or try a location update, or drop the link under one. -/
def updateTags : List EventTag :=
  [.newLocationArea, .timeout .t3211, .timeout .t3212, .timeout .t3213, .timeout .t3240]

/-- Every other event carries a location update on. -/
theorem carries_handleEvent {s : Station} {e : Event} (h : e.tag ∉ updateTags) :
    Carries s (s.handleEvent e).station := by
  unfold handleEvent
  split
  · next procedure hprocedure =>
    refine carries_eventProcedure e (state_mem_of_eventProcedure? hprocedure) ?_
    have htags := tag_mem_of_eventProcedure? hprocedure
    have hmem : procedure.concernsUpdate = true → ∀ tag ∈ procedure.tags, tag ∈ updateTags := by
      cases procedure <;> decide
    by_contra hconcerns
    exact h (hmem (by simpa using hconcerns) _ htags)
  · exact .refl s

/-- The events that forget a location update. -/
theorem handleEvent_supervised_iff {s : Station} (hretries : ¬ s.Retries) {e : Event}
    (hwanted : (∀ timer : TimerName, timer.isRetry = true → e ≠ .timeout timer) →
      s.UpdateSupervised) :
    (s.handleEvent e).station.UpdateSupervised ↔ ¬ s.ForgetsUpdate (.event e) := by
  -- The station of a served retry event may have lost its last prospect by taking the event out of
  -- the queue, so that for these events alone nothing is known of the station before.
  have hother (htag : e.tag ∉ updateTags) (hs : s.UpdateSupervised) :
      (s.handleEvent e).station.UpdateSupervised ↔ ¬ False :=
    iff_of_true ((carries_handleEvent htag).supervised hs) id
  cases e with
  | newLocationArea =>
    have hfirst : s.UpdateSupervised := hwanted fun _ _ heq => by cases heq
    exact (start_supervised_iff hretries hfirst (.inl rfl)).trans not_not.symm
  | timeout timer =>
    have hfirst (h : timer.isRetry = false) : s.UpdateSupervised := by
      refine hwanted ?_
      intro other hretry heq
      rw [Event.timeout.inj heq, hretry] at h
      cases h
    cases timer with
    | t3211 => exact retry_supervised_iff hretries (.inl rfl)
    | t3213 => exact retry_supervised_iff hretries (.inr rfl)
    | t3212 => exact (start_supervised_iff hretries (hfirst rfl) (.inr rfl)).trans not_not.symm
    | t3240 => exact abortLink_supervised_iff hretries (hfirst rfl)
    | _ => exact hother (by decide) (hfirst rfl)
  | _ => exact hother (by simp [Event.tag, updateTags]) (hwanted fun _ _ heq => by cases heq)

/-- The primitives from below that forget a location update. -/
theorem handleRr_supervised_iff {s : Station} (hs : s.PendingSupervised) (hretries : ¬ s.Retries)
    (hwanted : s.UpdateSupervised) (p : RrPrimitive) :
    (s.handleRr p).station.UpdateSupervised ↔ ¬ s.ForgetsUpdate (.rr p) := by
  -- Of what the radio link reports, only a message can end an update.
  by_cases hdata : p.type = .dataIndication
  · have hreceive : s.handleRr p = s.receiveMessage p.payload := by
      rw [handleRr, rrProcedure?_eq_receiveMessage_iff.mpr hdata]
      rfl
    rw [hreceive, receiveMessage_supervised_iff hs hretries hwanted]
    exact not_congr (and_iff_right hdata).symm
  · have hcarries : Carries s (s.handleRr p).station := by
      unfold handleRr
      split
      · next procedure hprocedure =>
        refine carries_rrProcedure p (state_mem_of_rrProcedure? hprocedure) ?_
        rintro rfl
        exact hdata (rrProcedure?_eq_receiveMessage_iff.mp hprocedure)
      · exact .refl s
    refine iff_of_true (hcarries.supervised hwanted) ?_
    intro h
    exact hdata h.1

/-- Handling an input forgets a location update in exactly the listed ways. -/
theorem handle_supervised_iff {s : Station} (hs : s.PendingSupervised) {i : Input}
    (hwanted : (∀ timer : TimerName, timer.isRetry = true → i ≠ .event (.timeout timer)) →
      s.UpdateSupervised) :
    (s.handle i).station.UpdateSupervised ↔ ¬ (¬ s.Retries ∧ s.ForgetsUpdate i) := by
  by_cases hretries : s.Retries
  · -- No input takes the prospect of a retry away.
    refine iff_of_true (updateSupervised_iff.mpr fun _ => .inr (retries_handle hretries i)) ?_
    intro h
    exact h.1 hretries
  · rw [and_iff_right hretries]
    cases i with
    | cm p => exact iff_of_true ((s.carries_handleCm p).supervised (hwanted nofun)) id
    | registration p =>
      refine iff_of_true ?_ id
      cases p <;> exact hwanted nofun
    | rr p =>
      exact handleRr_supervised_iff hs hretries (hwanted nofun) p
    | message data => exact receiveMessage_supervised_iff hs hretries (hwanted nofun) data
    | event e =>
      refine handleEvent_supervised_iff hretries ?_
      intro h
      refine hwanted ?_
      intro timer hretry heq
      exact h timer hretry (Input.event.inj heq)

/-! ## Runs -/

/-- An action that handles no input leaves the prospect of a retry, unless the station drops all it
holds. -/
theorem retries_perform {s : Station} {a : Action} (hhandled : a.handled? s = none)
    (hexit : a ≠ .exit) (h : s.Retries) : (s.perform a).Retries := by
  cases a with
  | handle input => cases hhandled
  | queue input => exact retries_queue h input
  | serve =>
    rwa [perform_serve_of_not_handled hhandled]
  | tick now => exact (s.retries_tick now).mpr h
  | exit => exact absurd rfl hexit
  | _ => exact h

/-- An action that handles no input leaves a wanted location update supervised, unless the station
drops all it holds. -/
theorem carries_perform {s : Station} {a : Action} (hhandled : a.handled? s = none)
    (hexit : a ≠ .exit) : Carries s (s.perform a) := by
  obtain ⟨hmachine, _, hwanted⟩ := perform_frame hhandled hexit
  refine Steady.carries_of_state ⟨?_, retries_perform hhandled hexit⟩ (by rw [hmachine])
  intro h
  rwa [hwanted] at h

theorem exit_supervised_iff {s : Station} :
    s.exit.UpdateSupervised ↔ ¬ (s.update.wanted = true ∧ s.machine.state.updates = false) := by
  have hframe : s.exit.machine = s.machine ∧ s.exit.update = s.update := ⟨rfl, rfl⟩
  rw [updateSupervised_iff, hframe.1, hframe.2]
  simp [s.not_retries_exit]

/-- An input that is taken from its queue leaves the prospect of a retry, unless it is the event of
a retry timer. -/
theorem retries_of_handled {s t : Station} {a : Action} {i : Input}
    (hhandled : a.handled? s = some (t, i))
    (hother : ∀ timer : TimerName, timer.isRetry = true → i ≠ .event (.timeout timer))
    (h : s.Retries) : t.Retries := by
  cases a with
  | handle input =>
    obtain ⟨rfl, rfl⟩ := Prod.mk.inj (Option.some.inj hhandled)
    exact h
  | serve =>
    obtain ⟨⟨input, rest⟩, hnext, heq⟩ := Option.map_eq_some_iff.mp hhandled
    obtain ⟨rfl, rfl⟩ := Prod.mk.inj heq
    -- A retry that waited in the queue is still there, unless it was the one that was taken.
    obtain ⟨timer, hretry, hprospect⟩ := h
    refine ⟨timer, hretry, ?_⟩
    rcases hprospect with hrunning | hwaits
    · exact .inl hrunning
    · exact .inr ((mem_events_of_nextInput? hnext hwaits).resolve_right (hother timer hretry))
  | _ => cases hhandled

/-- An action forgets a location update in exactly the listed ways. -/
theorem perform_supervised_iff {s : Station} (hs : s.Orderly) (h : s.UpdateSupervised)
    (a : Action) : (s.perform a).UpdateSupervised ↔ ¬ s.AbandonsUpdate a := by
  cases hhandled : a.handled? s with
  | none =>
    by_cases hexit : a = .exit
    · subst hexit
      have habandons : s.AbandonsUpdate .exit ↔
          s.update.wanted = true ∧ s.machine.state.updates = false := by
        simp [AbandonsUpdate, Action.handled?]
      rw [habandons]
      exact exit_supervised_iff
    · refine iff_of_true ((carries_perform hhandled hexit).supervised h) ?_
      rintro (⟨t, i, hsome, _⟩ | ⟨hdrop, _⟩)
      · rw [hhandled] at hsome
        cases hsome
      · exact hexit hdrop
  | some r =>
    obtain ⟨t, i⟩ := r
    have hexit : a ≠ .exit := by
      rintro rfl
      cases hhandled
    have habandons : s.AbandonsUpdate a ↔ ¬ t.Retries ∧ t.ForgetsUpdate i := by
      simp [AbandonsUpdate, hhandled, hexit]
    have hqueues := queues_of_handled hhandled
    rw [habandons, perform_of_handled hhandled]
    refine handle_supervised_iff ?_ ?_
    · rw [hqueues]
      exact hs.supervised
    · intro hother
      -- Only the queues differ, and of them only the event that is being handled.
      rw [updateSupervised_iff] at h ⊢
      have hkept : t.machine = s.machine ∧ t.update = s.update := by
        rw [hqueues]
        exact ⟨rfl, rfl⟩
      rw [hkept.1, hkept.2]
      intro hwanted
      exact (h hwanted).imp_right (retries_of_handled hhandled hother)

/-- A wanted location update is under way or will be tried again throughout exactly those runs in
which no action abandons it. -/
theorem updateSupervised_throughout_iff (config : Config) (subscriber : Subscriber)
    (actions : List Action) :
    Throughout UpdateSupervised (ofSubscriber config subscriber) actions ↔
      EveryStep (fun s a => ¬ s.AbandonsUpdate a) (ofSubscriber config subscriber) actions :=
  throughout_iff_everyStep (fun _ a hs => hs.perform a)
    (fun _ a _ hs h => perform_supervised_iff hs h a) (orderly_ofSubscriber config subscriber)
    nofun

/-- A location update that was rejected is forgotten when the network does not release the radio
link: the station aborts it, is idle, and still wants the update that nothing will start again. -/
theorem rejected_update_forgotten :
    ¬ ((ofConfig
        { imei := "356938035643809"
          imeisv := "3569380356438091"
          sim := some { imsi := "262420000000001" } }).run
      [.cell (.campedIn ⟨⟨262, 42, false⟩, 7⟩),
        .handle (.event .newLocationArea),
        .handle (.rr { type := .establishConfirm }),
        .handle (.message [0x05, 0x04, 0x11]),
        .tick 10000,
        .serve]).UpdateSupervised := by
  unfold UpdateSupervised
  decide +kernel

end Station

end MobileStation
