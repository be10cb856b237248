import MobileStation.Proofs.Connections.Pending
import MobileStation.Proofs.Supervision.Procedures

/-!
# Supervised waits

While the station waits for an answer of the network, the timer of the wait is running, or has run
out and its event waits. Handling that event ends the wait. Every turn leaves such a wait guarded,
except where the connections are aborted or detached under a service request.

Main statements: `handle_timeout_leaves` (an expiry that is handled ends the wait),
`Guarded.perform` (every action leaves a wait guarded) and `waits_supervised` (location updates,
rejects and detaches are supervised after every run).
-/

namespace MobileStation

/-- The waits that a timer is to end. The network may open a radio link without T3240 being
started, so that the wait for its next command is none of them. -/
def TimerName.guards (x : TimerName) : List MainState :=
  x.supervised.filter (· ≠ .waitForNetworkCommand)

/-- What is done when the timer of a wait runs out. -/
def TimerName.ending : TimerName → EventProcedure
  | t3210 => .timeoutUpdate
  | t3220 => .endDetach
  | t3230 => .timeoutService
  | _ => .abortLink

theorem TimerName.supervises_of_mem_guards {x : TimerName} {state : MainState}
    (h : state ∈ x.guards) : x.supervises = true := by
  have hmem : state ∈ x.supervised := (List.mem_filter.mp h).1
  simpa [supervises] using List.ne_nil_of_mem hmem

/-- An expiry is acted upon in every wait that the timer is to end. -/
theorem eventProcedure?_of_guards {m : StateMachine} {x : TimerName} (h : m.state ∈ x.guards) :
    m.eventProcedure? (.timeout x) = some x.ending := by
  obtain ⟨state⟩ := m
  dsimp only at h
  have htable : ∀ x ∈ TimerName.all, ∀ state ∈ x.guards,
      (x, state) ∈ [(.t3210, .locationUpdatingInitiated), (.t3220, .imsiDetachInitiated),
        (.t3230, .waitForOutgoingConnection), (.t3230, .waitForAdditionalConnection),
        (.t3240, .locationUpdatingReject)] := by decide
  have hmem := htable x x.mem_all state h
  simp only [List.mem_cons, Prod.mk.injEq, List.not_mem_nil, or_false] at hmem
  rcases hmem with ⟨rfl, rfl⟩ | ⟨rfl, rfl⟩ | ⟨rfl, rfl⟩ | ⟨rfl, rfl⟩ | ⟨rfl, rfl⟩ <;> rfl

namespace Station

/-! ## Guards -/

/-- The timer is running, or has run out and its event waits. -/
def Attends (s : Station) (x : TimerName) : Prop :=
  s.timers.isRunning x = true ∨ .timeout x ∈ s.queues.events

/-- A wait that the timer is to end has its attention. -/
def Guarded (s : Station) (x : TimerName) : Prop := s.machine.state ∈ x.guards → s.Attends x

/-- A location update that was asked for is wanted until it is answered. -/
def UpdateBacked (s : Station) : Prop :=
  s.machine.state ∈ [.waitForRadioLocationUpdate, .locationUpdatingInitiated] →
    s.update.wanted = true

end Station

/-- After the turn the timer attends to its waits: it is started for them, or it was not stopped
during one. -/
def Turn.guards (turn : Turn) (state : MainState) (x : TimerName) : Bool :=
  turn.target state ∉ x.guards || turn.starts.contains x ||
    state ∈ x.guards && !turn.stops.contains x

/-- After the turn a location update that is asked for is wanted. -/
def Turn.backs (turn : Turn) (state : MainState) : Bool :=
  turn.target state ∉ [.waitForRadioLocationUpdate, .locationUpdatingInitiated] ||
    turn.wanted = .sets true ||
    state ∈ [.waitForRadioLocationUpdate, .locationUpdatingInitiated] && turn.wanted = .keeps

theorem Turns.guarded {s t : Station} {turn : Turn} {x : TimerName} (h : Turns s t turn)
    (hguards : turn.guards s.machine.state x = true) (hs : s.Guarded x) : t.Guarded x := by
  intro hwait
  have hx : x.supervises = true := TimerName.supervises_of_mem_guards hwait
  rw [h.state] at hwait
  unfold Station.Attends
  rw [h.running x hx, h.waiting x]
  simp only [Turn.guards, hwait, not_true_eq_false, decide_false, Bool.false_or, Bool.or_eq_true,
    Bool.and_eq_true, decide_eq_true_eq, Bool.not_eq_true'] at hguards
  rcases hguards with hstarts | ⟨hbefore, hstops⟩
  · exact .inl (by rw [hstarts, Bool.true_or])
  · -- The wait was on before, and its timer is left as it was.
    refine (hs hbefore).imp_left ?_
    intro hrunning
    rw [hstops, hrunning]
    simp

theorem Turns.backed {s t : Station} {turn : Turn} (h : Turns s t turn)
    (hbacks : turn.backs s.machine.state = true) (hs : s.UpdateBacked) : t.UpdateBacked := by
  intro hasked
  rw [h.state] at hasked
  have hwanted := h.wanted
  simp only [Turn.backs, hasked, not_true_eq_false, decide_false, Bool.false_or, Bool.or_eq_true,
    Bool.and_eq_true, decide_eq_true_eq] at hbacks
  rcases hbacks with hsets | ⟨hbefore, hkeeps⟩
  · rw [hsets] at hwanted
    exact hwanted
  · rw [hkeeps] at hwanted
    exact Eq.trans hwanted (hs hbefore)

theorem Turn.guards_stay (state : MainState) (x : TimerName) :
    Turn.stay.guards state x = true := by
  by_cases h : state ∈ x.guards <;> simp [guards, stay, target, h]

namespace Station

/-! ## Inputs -/

/-- What takes the supervision of a service request away without ending the wait. -/
def abandonsService : List Handler := [.message .receiveAbort, .event .detachOverLink]

/-- An input leaves a wait guarded, unless it takes the supervision of a service request away. -/
theorem Guarded.handle {s : Station} {x : TimerName} (h : s.Guarded x) (hs : s.PendingSupervised)
    {i : Input} (hi : x = .t3230 → s.machine.handler i ∉ abandonsService) :
    (s.handle i).station.Guarded x := by
  by_cases hx : x = .t3230
  · subst hx
    obtain ⟨turn, hguards, hturns⟩ := turns_of_tables hs abandonsService (hi rfl)
      (P := fun state turn => turn.guards state .t3230 = true) (by decide +kernel)
    exact hturns.guarded hguards h
  · obtain ⟨turn, hguards, hturns⟩ := turns_of_tables hs (i := i) [] (by simp)
      (P := fun state turn => ∀ x ∈ TimerName.all, x ≠ .t3230 → turn.guards state x = true)
      (by decide +kernel)
    exact hturns.guarded (hguards x x.mem_all hx) h

/-- An input leaves a location update wanted that is asked for. -/
theorem UpdateBacked.handle {s : Station} (h : s.UpdateBacked) (hs : s.PendingSupervised)
    (i : Input) : (s.handle i).station.UpdateBacked := by
  obtain ⟨turn, hbacks, hturns⟩ := turns_of_tables hs (i := i) [] (by simp)
    (P := fun state turn => turn.backs state = true) (by decide +kernel)
  exact hturns.backed hbacks h

/-- An expiry that is handled ends the wait. -/
theorem handle_timeout_leaves {s : Station} {x : TimerName} (h : s.machine.state ∈ x.guards)
    (hwanted : x = .t3210 → s.UpdateBacked) :
    (s.handle (.event (.timeout x))).station.machine.state ∉ x.guards := by
  have hprocedure := eventProcedure?_of_guards h
  have hrun : (s.handle (.event (.timeout x))).station = (x.ending.run s (.timeout x)).station := by
    simp only [Station.handle, handleEvent, hprocedure]
  rw [hrun]
  by_cases hx : x = .t3210
  · -- Of a location update that is not wanted the expiry would be ignored.
    subst hx
    have hstate : s.machine.state = .locationUpdatingInitiated := by
      simpa [TimerName.guards, TimerName.supervised] using h
    have hturns := s.turns_timeoutUpdate
    rw [if_pos ⟨hwanted rfl (by simp [hstate]), hstate⟩] at hturns
    show s.timeoutUpdate.station.machine.state ∉ _
    rw [hturns.state]
    show MainState.idle ∉ TimerName.guards .t3210
    decide
  · obtain ⟨turn, hmem, hturns⟩ := s.turns_eventProcedure (.timeout x) x.ending
    have htable : ∀ x ∈ TimerName.all, x ≠ .t3210 → ∀ state ∈ x.guards,
        ∀ turn ∈ x.ending.turns state, turn.target state ∉ x.guards := by decide +kernel
    rw [hturns.state]
    exact htable x x.mem_all hx _ h _ hmem

/-! ## Actions -/

theorem attends_queue {s : Station} {x : TimerName} (h : s.Attends x) (i : Input) :
    (s.queue i).Attends x := by
  refine h.imp ?_ ?_
  · intro hrunning
    simpa using hrunning
  · intro hwaits
    cases i <;> simp [queue, queueEvent, hwaits]

/-- The passing of time turns a running timer into its event. -/
theorem attends_tick {s : Station} {x : TimerName} (h : s.Attends x) (now : Nat) :
    (s.tick now).Attends x := by
  have hframe := s.tick_frame now
  rcases h with hrunning | hwaits
  -- A timer that runs out is stopped, but its expiry is queued.
  · cases hdue : (s.timers.get x).isDue now with
    | true =>
      refine .inr ?_
      simp only [hframe, List.mem_append]
      exact .inr (List.mem_map_of_mem (TimerSet.mem_due.mpr hdue))
    | false =>
      refine .inl ?_
      simp only [hframe]
      rw [TimerSet.isRunning_tick, hrunning, hdue]
      rfl
  · exact .inr (by simp [hwaits])

/-- An action that handles no input takes no attention away, unless the station drops all it
holds. -/
theorem attends_perform {s : Station} {a : Action} (hhandled : a.handled? s = none)
    (hexit : a ≠ .exit) {x : TimerName} (h : s.Attends x) : (s.perform a).Attends x := by
  cases a with
  | handle input => cases hhandled
  | queue input => exact attends_queue h input
  | serve =>
    rwa [perform_serve_of_not_handled hhandled]
  | tick now => exact attends_tick h now
  | exit => exact absurd rfl hexit
  | _ => exact h

/-- An input that leaves its queue takes no attention away, unless it is the expiry itself. -/
theorem attends_of_handled {s t : Station} {a : Action} {i : Input}
    (hhandled : a.handled? s = some (t, i)) {x : TimerName} (h : s.Attends x) :
    t.Attends x ∨ i = .event (.timeout x) := by
  cases a with
  | handle input =>
    obtain ⟨rfl, rfl⟩ := Prod.mk.inj (Option.some.inj hhandled)
    exact .inl h
  | serve =>
    obtain ⟨⟨input, rest⟩, hnext, heq⟩ := Option.map_eq_some_iff.mp hhandled
    obtain ⟨rfl, rfl⟩ := Prod.mk.inj heq
    rcases h with hrunning | hwaits
    · exact .inl (.inl hrunning)
    · exact (mem_events_of_nextInput? hnext hwaits).imp_left .inr
  | _ => cases hhandled

/-- A wait stays guarded when an input leaves its queue, unless it is the expiry itself. -/
theorem Guarded.of_handled {s t : Station} {x : TimerName} (h : s.Guarded x) {a : Action}
    {i : Input} (hhandled : a.handled? s = some (t, i)) :
    t.Guarded x ∨ i = .event (.timeout x) := by
  have hmachine : t.machine = s.machine := by rw [queues_of_handled hhandled]
  by_cases hwait : s.machine.state ∈ x.guards
  · exact (attends_of_handled hhandled (h hwait)).imp_left fun hattends _ => hattends
  · refine .inl ?_
    intro hthere
    exact absurd (hmachine ▸ hthere) hwait

/-- Every action leaves a wait guarded, unless the station drops all it holds or an input takes the
supervision of a service request away. -/
theorem Guarded.perform {s : Station} {x : TimerName} (h : s.Guarded x) (hs : s.Orderly)
    (hwanted : x = .t3210 → s.UpdateBacked) {a : Action} (hexit : a ≠ .exit)
    (hother : ∀ t i, a.handled? s = some (t, i) → x = .t3230 →
      s.machine.handler i ∉ abandonsService) : (s.perform a).Guarded x := by
  cases hhandled : a.handled? s with
  | none =>
    have hmachine : (s.perform a).machine = s.machine := (perform_frame hhandled hexit).1
    intro hwait
    rw [hmachine] at hwait
    exact attends_perform hhandled hexit (h hwait)
  | some r =>
    obtain ⟨t, i⟩ := r
    have hqueues := queues_of_handled hhandled
    have hmachine : t.machine = s.machine := by rw [hqueues]
    have hkept : t.PendingSupervised ∧ (x = .t3210 → t.UpdateBacked) := by
      rw [hqueues]
      exact ⟨hs.supervised, hwanted⟩
    rw [perform_of_handled hhandled]
    by_cases hguarded : t.Guarded x
    · exact hguarded.handle hkept.1 (by rw [hmachine]; exact hother t i hhandled)
    · -- The wait has lost its guard with the event that is handled now.
      obtain rfl := (h.of_handled hhandled).resolve_left hguarded
      obtain ⟨hwait, _⟩ := Classical.not_imp.mp hguarded
      exact fun hstill => absurd hstill (handle_timeout_leaves hwait hkept.2)

theorem UpdateBacked.perform {s : Station} (h : s.UpdateBacked) (hs : s.Orderly) {a : Action}
    (hexit : a ≠ .exit) : (s.perform a).UpdateBacked := by
  cases hhandled : a.handled? s with
  | none =>
    obtain ⟨hmachine, _, hwanted⟩ := perform_frame hhandled hexit
    unfold UpdateBacked
    rwa [hmachine, hwanted]
  | some r =>
    obtain ⟨t, i⟩ := r
    have hqueues := queues_of_handled hhandled
    have hkept : t.UpdateBacked ∧ t.PendingSupervised := by
      rw [hqueues]
      exact ⟨h, hs.supervised⟩
    rw [perform_of_handled hhandled]
    exact hkept.1.handle hkept.2 i

/-! ## Runs -/

/-- The waits for the answers to location updates and detaches are guarded. -/
structure Waits (s : Station) : Prop where
  orderly : s.Orderly
  backed : s.UpdateBacked
  guarded : ∀ x : TimerName, x ≠ .t3230 → s.Guarded x

theorem Waits.perform {s : Station} (h : s.Waits) {a : Action} (hexit : a ≠ .exit) :
    (s.perform a).Waits where
  orderly := h.orderly.perform a
  backed := h.backed.perform h.orderly hexit
  guarded x hx :=
    (h.guarded x hx).perform h.orderly (fun _ => h.backed) hexit fun _ _ _ heq => absurd heq hx

theorem waits_ofSubscriber (config : Config) (subscriber : Subscriber) :
    (ofSubscriber config subscriber).Waits where
  orderly := orderly_ofSubscriber config subscriber
  backed h := by simp [ofSubscriber, StateMachine.start] at h
  guarded x _ h := by
    have hnone : ∀ x ∈ TimerName.all, MainState.idle ∉ x.guards := by decide
    exact absurd h (hnone x x.mem_all)

/-- After every run in which the station does not drop all it holds, a location update under way is
wanted and its timer is running or has run out, and so is the timer of a rejected update whose link
is to be released, and that of a detach. -/
theorem waits_supervised (config : Config) (subscriber : Subscriber) {actions : List Action}
    (hexit : .exit ∉ actions) :
    let s := (ofSubscriber config subscriber).run actions
    (s.machine.state = .locationUpdatingInitiated →
        s.update.wanted = true ∧
          (s.timers.isRunning .t3210 = true ∨ .timeout .t3210 ∈ s.queues.events)) ∧
      (s.machine.state = .locationUpdatingReject →
        s.timers.isRunning .t3240 = true ∨ .timeout .t3240 ∈ s.queues.events) ∧
      (s.machine.state = .imsiDetachInitiated →
        s.timers.isRunning .t3220 = true ∨ .timeout .t3220 ∈ s.queues.events) := by
  intro s
  -- The three waits are preserved together, with the table of connections, by every step but the
  -- exit.
  have h : s.Waits := by
    refine invariant_run_of_mem ?_ (waits_ofSubscriber config subscriber)
    intro t a ha ht
    exact ht.perform (ne_of_mem_of_not_mem ha hexit)
  refine ⟨?_, ?_, ?_⟩
  · intro hstate
    exact ⟨h.backed (by simp [hstate]), h.guarded .t3210 (by decide) (by rw [hstate]; decide)⟩
  · intro hstate
    exact h.guarded .t3240 (by decide) (by rw [hstate]; decide)
  · intro hstate
    exact h.guarded .t3220 (by decide) (by rw [hstate]; decide)

/-- A location update whose timer has run out, before the expiry is handled. -/
theorem waits_supervised_update :
    let actions : List Action :=
      [.cell (.campedIn ⟨⟨262, 42, false⟩, 7⟩),
        .handle (.event .newLocationArea),
        .handle (.rr { type := .establishConfirm }),
        .tick 20000]
    let s := (ofConfig
      { imei := "356938035643809"
        imeisv := "3569380356438091"
        sim := some { imsi := "262420000000001" } }).run actions
    .exit ∉ actions ∧ s.machine.state = .locationUpdatingInitiated ∧ s.update.wanted = true ∧
      (s.timers.isRunning .t3210 = true ∨ .timeout .t3210 ∈ s.queues.events) := by
  intro actions s
  have hexit : .exit ∉ actions := by decide
  have hstate : s.machine.state = .locationUpdatingInitiated := by decide +kernel
  exact ⟨hexit, hstate, (waits_supervised _ _ hexit).1 hstate⟩

end Station

end MobileStation
