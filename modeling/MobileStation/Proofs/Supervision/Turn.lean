import MobileStation.Proofs.Update.Retry

/-!
# Turns

A turn is what a step does to the waits of a station for the network: which main state is entered,
which timers are stopped and started, and whether the station is left with a connection and with the
wish for a location update. The invariants about supervision are read off the turns alone.

Main statements: `Turns.trans` (one turn after another makes up a turn), and one lemma for each
local update, such as `turns_enter`, `turns_returnIdle` and `turns_settle`.
-/

namespace MobileStation

/-! ## Supervision timers -/

/-- The states in which a timer supervises an answer of the network. -/
def TimerName.supervised : TimerName → List MainState
  | t3210 => [.locationUpdatingInitiated]
  | t3220 => [.imsiDetachInitiated]
  | t3230 => [.waitForOutgoingConnection, .waitForAdditionalConnection]
  | t3240 => [.waitForNetworkCommand, .locationUpdatingReject]
  | _ => []

/-- The timer supervises an answer of the network. -/
def TimerName.supervises (x : TimerName) : Bool := !x.supervised.isEmpty

/-! ## Turns -/

/-- What a step does to a property of the station. -/
inductive Fate where
  /-- The property is as it was. -/
  | keeps
  /-- The property gets this value. -/
  | sets (value : Bool)
  /-- The property may get either value. -/
  | varies
  deriving DecidableEq

/-- A property goes from one value to the other. -/
def Fate.Leads (before after : Bool) : Fate → Prop
  | keeps => after = before
  | sets value => after = value
  | varies => True

/-- One fate after another. -/
def Fate.andThen (first : Fate) : Fate → Fate
  | keeps => first
  | sets value => sets value
  | varies => varies

theorem Fate.Leads.trans {a b c : Bool} {first second : Fate} (h : first.Leads a b)
    (h' : second.Leads b c) : (first.andThen second).Leads a c := by
  cases second with
  | keeps =>
    have hsame : c = b := h'
    rw [hsame]
    exact h
  | sets value => exact h'
  | varies => trivial

/-- How the main state goes on, the timers that are stopped and started, and what becomes of the
connections and of the wish for a location update. -/
structure Turn where
  /-- The state that is entered, if any. -/
  next : Option MainState := none
  stops : List TimerName := []
  starts : List TimerName := []
  connected : Fate := .keeps
  wanted : Fate := .keeps
  deriving DecidableEq

namespace Turn

/-- Nothing happens. -/
def stay : Turn := {}

/-- The main state that is reached from a given one. -/
def target (turn : Turn) (state : MainState) : MainState := turn.next.getD state

/-- One turn after another. -/
def andThen (first second : Turn) : Turn where
  next := second.next.or first.next
  stops := first.stops ++ second.stops
  starts := first.starts.filter (fun x => !second.stops.contains x) ++ second.starts
  connected := first.connected.andThen second.connected
  wanted := first.wanted.andThen second.wanted

end Turn

/-- The station has a connection. -/
def Station.connected (s : Station) : Bool := !s.connections.isEmpty

/-- The station takes this turn from `s` to `t`. Of the timers those count that supervise an answer
of the network, and no expiry is queued or lost on the way. -/
structure Turns (s t : Station) (turn : Turn) : Prop where
  state : t.machine.state = turn.target s.machine.state
  running : ∀ x : TimerName, x.supervises = true →
    t.timers.isRunning x =
      (turn.starts.contains x || !turn.stops.contains x && s.timers.isRunning x)
  waiting : ∀ x : TimerName, .timeout x ∈ t.queues.events ↔ .timeout x ∈ s.queues.events
  connected : turn.connected.Leads s.connected t.connected
  wanted : turn.wanted.Leads s.update.wanted t.update.wanted

/-- The station takes one of these turns from `s` to `t`. -/
def TurnsOneOf (s t : Station) (turns : List Turn) : Prop := ∃ turn ∈ turns, Turns s t turn

/-- All that a turn is about. -/
def Station.watched (s : Station) : MainState × TimerSet × List Event × Bool × Bool :=
  (s.machine.state, s.timers, s.queues.events, s.connected, s.update.wanted)

namespace Turns

variable {s t u : Station} {turn : Turn}

/-- A step that leaves alone all that a turn is about. -/
theorem of_watched (h : t.watched = s.watched) : Turns s t .stay := by
  simp only [Station.watched, Prod.mk.injEq] at h
  obtain ⟨hstate, htimers, hevents, hconnected, hwanted⟩ := h
  exact
    { state := hstate
      running := fun x _ => by rw [htimers]; rfl
      waiting := fun x => by rw [hevents]
      connected := hconnected
      wanted := hwanted }

theorem refl (s : Station) : Turns s s .stay := of_watched rfl

/-- A step that at most changes what is known of location updates. -/
theorem of_update (h : { t with update := s.update }.watched = s.watched) :
    Turns s t { wanted := .varies } := by
  obtain ⟨hstate, hrunning, hwaiting, hconnected, _⟩ := of_watched h
  exact ⟨hstate, hrunning, hwaiting, hconnected, trivial⟩

/-- A step that at most changes the connections. -/
theorem of_connections (h : { t with connections := s.connections }.watched = s.watched) :
    Turns s t { connected := .varies } := by
  obtain ⟨hstate, hrunning, hwaiting, _, hwanted⟩ := of_watched h
  exact ⟨hstate, hrunning, hwaiting, trivial, hwanted⟩

/-- A turn that leaves the station with a connection. -/
theorem connects (h : Turns s t turn) (hconnected : t.connected = true) :
    Turns s t { turn with connected := .sets true } :=
  ⟨h.state, h.running, h.waiting, hconnected, h.wanted⟩

/-- A step that changes only the connections, and leaves one. -/
theorem of_connected (h : { t with connections := s.connections }.watched = s.watched)
    (hconnected : t.connected = true) : Turns s t { connected := .sets true } :=
  (of_connections h).connects hconnected

/-- A turn that leaves the station with a location update to make. -/
theorem wants (h : Turns s t turn) (hwanted : t.update.wanted = true) :
    Turns s t { turn with wanted := .sets true } :=
  ⟨h.state, h.running, h.waiting, h.connected, hwanted⟩

/-- One turn after another makes up a turn. -/
theorem trans {first second : Turn} (h : Turns s t first) (h' : Turns t u second) :
    Turns s u (first.andThen second) where
  state := by
    rw [h'.state, h.state]
    simp only [Turn.target, Turn.andThen]
    cases second.next <;> rfl
  running x hx := by
    -- A timer runs at the end if the second turn starts it, or if it does not stop what the first
    -- turn left running.
    rw [h'.running x hx, h.running x hx]
    simp only [Turn.andThen, List.contains_eq_mem, List.mem_append, List.mem_filter]
    by_cases hstops : x ∈ second.stops <;> by_cases hstarts : x ∈ second.starts <;>
      by_cases hfirst : x ∈ first.starts <;> simp [hstops, hstarts, hfirst]
  waiting x := (h'.waiting x).trans (h.waiting x)
  connected := h.connected.trans h'.connected
  wanted := h.wanted.trans h'.wanted

/-- A turn after updates of what it is not about. -/
theorem after (h : Turns t u turn) (hsame : t.watched = s.watched) : Turns s u turn := by
  simp only [Station.watched, Prod.mk.injEq] at hsame
  obtain ⟨hstate, htimers, hevents, hconnected, hwanted⟩ := hsame
  obtain ⟨state, running, waiting, connected, wanted⟩ := h
  rw [hstate] at state
  simp only [htimers] at running
  simp only [hevents] at waiting
  rw [hconnected] at connected
  rw [hwanted] at wanted
  exact ⟨state, running, waiting, connected, wanted⟩

/-- A turn after one that does nothing. -/
theorem stay_andThen (h : Turns s t (Turn.stay.andThen turn)) : Turns s t turn := by
  have hfate (fate : Fate) : Fate.keeps.andThen fate = fate := by cases fate <;> rfl
  have hsame : Turn.stay.andThen turn = turn := by
    simp [Turn.andThen, Turn.stay, hfate]
  rwa [hsame] at h

/-- Updates of what a turn is not about after it. -/
theorem before (h : Turns s t turn) (hsame : u.watched = t.watched) : Turns s u turn := by
  simp only [Station.watched, Prod.mk.injEq] at hsame
  obtain ⟨hstate, htimers, hevents, hconnected, hwanted⟩ := hsame
  obtain ⟨state, running, waiting, connected, wanted⟩ := h
  rw [← hstate] at state
  simp only [← htimers] at running
  simp only [← hevents] at waiting
  rw [← hconnected] at connected
  rw [← hwanted] at wanted
  exact ⟨state, running, waiting, connected, wanted⟩

end Turns

namespace TurnsOneOf

variable {s t u : Station} {turns : List Turn}

/-- A turn that is taken for sure. -/
theorem of_turns {turn : Turn} (h : Turns s t turn) (hmem : turn ∈ turns) : TurnsOneOf s t turns :=
  ⟨turn, hmem, h⟩

theorem refl (hmem : Turn.stay ∈ turns) : TurnsOneOf s s turns := ⟨_, hmem, .refl s⟩

theorem mono (h : TurnsOneOf s t turns) {others : List Turn}
    (hsub : ∀ turn ∈ turns, turn ∈ others) : TurnsOneOf s t others := by
  obtain ⟨turn, hmem, hturns⟩ := h
  exact ⟨turn, hsub turn hmem, hturns⟩

/-- One of several turns after updates of what they are not about. -/
theorem after (h : TurnsOneOf t u turns) (hsame : t.watched = s.watched) :
    TurnsOneOf s u turns := by
  obtain ⟨turn, hmem, hturns⟩ := h
  exact ⟨turn, hmem, hturns.after hsame⟩

/-- One of several turns after a turn. -/
theorem andThen (h : TurnsOneOf t u turns) {first : Turn} (hfirst : Turns s t first) :
    TurnsOneOf s u (turns.map first.andThen) := by
  obtain ⟨turn, hmem, hturns⟩ := h
  exact ⟨_, List.mem_map.mpr ⟨turn, hmem, rfl⟩, hfirst.trans hturns⟩

end TurnsOneOf

namespace Station

/-! ## Timers -/

theorem turns_startTimer (s : Station) {name : TimerName} (h : name ≠ .t3212) (seconds : Nat) :
    Turns s (s.startTimer name seconds) { starts := [name] } where
  state := rfl
  running x _ := by
    by_cases hname : x = name
    · subst hname
      simp [startTimer, s.timers.isRunning_start h]
    · simp [startTimer, s.timers.isRunning_start_of_ne hname, hname]
  waiting _ := Iff.rfl
  connected := rfl
  wanted := rfl

theorem turns_stopTimer (s : Station) (name : TimerName) :
    Turns s (s.stopTimer name) { stops := [name] } where
  state := rfl
  running x _ := by
    by_cases hname : x = name
    · subst hname
      simp [stopTimer, TimerSet.isRunning, TimerSet.stop, TimerSet.get_set, Timer.stop,
        Timer.isRunning]
    · simp [stopTimer, hname]
  waiting _ := Iff.rfl
  connected := rfl
  wanted := rfl

/-- Timers that supervise nothing do not count. -/
theorem turns_of_aside {s t : Station} (name : TimerName) (hname : name.supervises = false)
    (htimers : ∀ x, x ≠ name → t.timers.isRunning x = s.timers.isRunning x)
    (hsame : { t with timers := s.timers }.watched = s.watched) : Turns s t .stay := by
  obtain ⟨hstate, running, hwaiting, hconnected, hwanted⟩ := Turns.of_watched hsame
  refine ⟨hstate, ?_, hwaiting, hconnected, hwanted⟩
  intro x hx
  have hne : x ≠ name := by
    rintro rfl
    simp [hname] at hx
  rw [htimers x hne]
  rfl

theorem turns_startTimer_aside (s : Station) (name : TimerName) (h : name.supervises = false)
    (seconds : Nat) : Turns s (s.startTimer name seconds) .stay :=
  turns_of_aside name h (fun _ hne => s.timers.isRunning_start_of_ne hne _ _) rfl

theorem turns_stopTimer_aside (s : Station) (name : TimerName) (h : name.supervises = false) :
    Turns s (s.stopTimer name) .stay :=
  turns_of_aside name h (fun _ hne => s.timers.isRunning_stop_of_ne hne) rfl

/-! ## Changes of state -/

theorem turns_send (s : Station) (o : Output) : Turns s (s.send o) .stay := .of_watched rfl

theorem turns_sendMessage (s : Station) (m : Message) :
    Turns s (s.sendMessage m).station .stay :=
  .of_watched (by simp [watched, connected])

/-- A delayed detach comes back into the queue, but no expiry does. -/
theorem turns_resumeDetach (s : Station) : Turns s s.resumeDetach .stay where
  state := by simp [Turn.target, Turn.stay]
  running x _ := by simp [Turn.stay]
  waiting x := by
    unfold resumeDetach
    split <;> simp [queueEvent]
  connected := by simp [Turn.stay, Fate.Leads, connected]
  wanted := by simp [Turn.stay, Fate.Leads]

theorem turns_armPeriodicTimer (s : Station) : Turns s s.armPeriodicTimer .stay := by
  unfold armPeriodicTimer
  split
  · exact s.turns_startTimer_aside _ rfl _
  · exact .refl s

theorem turns_enter (s : Station) (state : MainState) (substate : Option IdleSubstate) :
    Turns s (s.enter state substate) { next := some state } := by
  have hmachine : Turns s { s with machine := s.machine.enter state substate }
      { next := some state } :=
    ⟨rfl, fun _ _ => rfl, fun _ => Iff.rfl, rfl, rfl⟩
  exact (hmachine.trans (turns_resumeDetach _)).trans (turns_armPeriodicTimer _)

/-- Without a usable SIM the idle state wants no location update. -/
theorem turns_returnIdle (s : Station) :
    Turns s s.returnIdle { next := some .idle, wanted := .varies } := by
  have hwish : Turns s (if s.subscriber.simValid then s else s.abandonUpdate)
      { wanted := .varies } := by
    split
    · exact .of_update rfl
    · have hforgotten : Turns s { s with update.wanted := false } { wanted := .varies } :=
        .of_update rfl
      exact hforgotten.trans (turns_stopTimer_aside _ _ rfl)
  exact hwish.trans (turns_enter _ _ _)

/-! ## Waiting for the network -/

theorem turns_awaitNetwork (s : Station) :
    Turns s s.awaitNetwork { next := some .waitForNetworkCommand, starts := [.t3240] } :=
  (s.turns_startTimer (by decide) _).trans (turns_enter _ _ _)

theorem turns_awaitService (s : Station) (state : MainState) :
    Turns s (s.awaitService state) { next := some state, starts := [.t3230] } :=
  (s.turns_startTimer (by decide) _).trans (turns_enter _ _ _)

theorem turns_awaitDetach (s : Station) :
    Turns s s.awaitDetach { next := some .imsiDetachInitiated, starts := [.t3220] } :=
  (s.turns_startTimer (by decide) _).trans (turns_enter _ _ _)

/-- Contact with the network starts T3240 anew where it is running. -/
theorem turns_noteContact (s : Station) : Turns s s.noteContact .stay := by
  have hstop : Turns s (s.stopTimer .t3212) .stay := s.turns_stopTimer_aside _ rfl
  simp only [noteContact]
  split
  · next hrunning =>
    have hstart : Turns (s.stopTimer .t3212) (s.stopTimer .t3212).startReleaseTimer
        { starts := [.t3240] } := turns_startTimer _ (by decide) _
    have hboth := hstop.trans hstart
    refine ⟨hboth.state, ?_, hboth.waiting, hboth.connected, hboth.wanted⟩
    intro x hx
    rw [hboth.running x hx]
    -- T3240 is started anew, but only where it was running: as far as a turn can tell, it is kept.
    by_cases hname : x = .t3240
    · subst hname
      have hbefore : s.timers.isRunning .t3240 = true := by
        simpa [stopTimer] using hrunning
      simp [hbefore, Turn.andThen, Turn.stay]
    · simp [Turn.andThen, Turn.stay, hname]
  · exact hstop

/-! ## Connections -/

theorem turns_release (s : Station) (filter : ConnectionTable.ReleaseFilter) (cause : UInt8)
    (isError : Bool) :
    Turns s (s.releaseConnections filter cause isError) { connected := .varies } :=
  .of_connections rfl

theorem turns_release_all (s : Station) (cause : UInt8) (isError : Bool) :
    Turns s (s.releaseConnections .all cause isError) { connected := .sets false } where
  state := rfl
  running _ _ := rfl
  waiting _ := Iff.rfl
  connected := by
    simp [Fate.Leads, connected, releaseConnections, sendAllCm, ConnectionTable.release,
      ConnectionTable.isEmpty, ConnectionTable.ReleaseFilter.selects]
  wanted := rfl

/-- The station waits for the network without a connection, and otherwise goes on with those it
has. -/
theorem turns_settle (s : Station) :
    Turns s s.settle
      (if s.connected = true then { next := some .connectionActive, connected := .sets true }
        else { next := some .waitForNetworkCommand, starts := [.t3240] }) := by
  unfold settle
  split
  · next hempty =>
    rw [if_neg (by simp [connected, hempty])]
    exact s.turns_awaitNetwork
  · next hsome =>
    have hconnected : s.connected = true := by simpa [connected] using hsome
    rw [if_pos hconnected]
    have henters := s.turns_enter .connectionActive none
    exact henters.connects (Eq.trans henters.connected hconnected)

end Station

end MobileStation
