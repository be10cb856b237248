import MobileStation.Mailbox
import MobileStation.Proofs.Frame

/-!
# Runs of a station

What can happen to a station, one action at a time, and the runs that are made of such actions. An
input is either handled at once or waits in its queue until it is served; the round of work that
empties the queues is a run of its own, and so is everything that happens behind a mailbox.

Main statements: `work_eq_run` and `deliver_eq_run` (work and deliveries are runs), `invariant_run`
(what every action preserves holds after every run), `throughout_iff_everyStep` (a property that
exactly the good steps preserve holds throughout exactly the runs of good steps).
-/

namespace MobileStation

/-! ## Actions -/

/-- What can happen to a station. -/
inductive Action where
  /-- An input is handled at once. -/
  | handle (input : Input)
  /-- An input is put into its queue. -/
  | queue (input : Input)
  /-- The next of the waiting inputs is handled. -/
  | serve
  /-- The clock is read. -/
  | clock (now : Nat)
  /-- The clock is read and timers run out. -/
  | tick (now : Nat)
  /-- The data of the serving cell is written. -/
  | cell (cell : ServingCell)
  /-- The data of the subscriber is written. -/
  | subscriber (subscriber : Subscriber)
  /-- What was sent is taken. -/
  | takeOutputs
  /-- A connection reference is given out. -/
  | newReference
  /-- The station drops all it holds. -/
  | exit
  deriving DecidableEq

/-- The input that an action handles, with the station that handles it: a served input has left its
queue. -/
def Action.handled? (s : Station) : Action → Option (Station × Input)
  | handle input => some (s, input)
  | serve => (Station.nextInput? s.queues).map fun r => ({ s with queues := r.2 }, r.1)
  | _ => none

namespace Station

/-- Handles the next of the waiting inputs, if there is one. -/
def serve (s : Station) : Station :=
  match nextInput? s.queues with
  | some (input, rest) => ({ s with queues := rest }.handle input).station
  | none => s

/-- The station after an action. -/
def perform (s : Station) : Action → Station
  | .handle input => (s.handle input).station
  | .queue input => s.queue input
  | .serve => s.serve
  | .clock now => { s with now := now }
  | .tick now => s.tick now
  | .cell cell => { s with cell := cell }
  | .subscriber subscriber => { s with subscriber := subscriber }
  | .takeOutputs => s.takeOutputs.2
  | .newReference => s.newReference.2
  | .exit => s.exit

/-- An action that handles an input leaves what the handling leaves. -/
theorem perform_of_handled {s t : Station} {a : Action} {i : Input}
    (h : a.handled? s = some (t, i)) : s.perform a = (t.handle i).station := by
  cases a with
  | handle input =>
    obtain ⟨rfl, rfl⟩ := Prod.mk.inj (Option.some.inj h)
    rfl
  | serve =>
    obtain ⟨⟨input, rest⟩, hnext, heq⟩ := Option.map_eq_some_iff.mp h
    obtain ⟨rfl, rfl⟩ := Prod.mk.inj heq
    simp only [perform, serve, hnext]
  | _ => cases h

/-- A station that handles an input differs from what it was at most in its queues. -/
theorem queues_of_handled {s t : Station} {a : Action} {i : Input}
    (h : a.handled? s = some (t, i)) : t = { s with queues := t.queues } := by
  cases a with
  | handle input =>
    obtain ⟨rfl, rfl⟩ := Prod.mk.inj (Option.some.inj h)
    rfl
  | serve =>
    obtain ⟨⟨input, rest⟩, hnext, heq⟩ := Option.map_eq_some_iff.mp h
    obtain ⟨rfl, rfl⟩ := Prod.mk.inj heq
    rfl
  | _ => cases h

/-- Taking the next input leaves all other events waiting. -/
theorem mem_events_of_nextInput? {q rest : Queues} {i : Input} (h : nextInput? q = some (i, rest))
    {e : Event} (he : e ∈ q.events) : e ∈ rest.events ∨ i = .event e := by
  -- The other queues are served first and leave the events as they are.
  unfold nextInput? at h
  split at h
  · cases h
    exact .inl he
  · cases h
    exact .inl he
  · cases h
    exact .inl he
  · cases h
    rcases List.mem_cons.mp he with rfl | hrest
    · exact .inr rfl
    · exact .inl hrest
  · cases h

/-- With no input waiting there is nothing to serve. -/
theorem serve_of_nextInput?_eq_none {s : Station} (h : nextInput? s.queues = none) :
    s.serve = s := by
  simp only [serve, h]

theorem perform_serve_of_not_handled {s : Station} (h : Action.serve.handled? s = none) :
    s.perform .serve = s :=
  serve_of_nextInput?_eq_none (Option.map_eq_none_iff.mp h)

/-- An action that handles no input leaves the state, the connections and the wish for a location
update alone, unless the station drops all it holds. -/
theorem perform_frame {s : Station} {a : Action} (hhandled : a.handled? s = none)
    (hexit : a ≠ .exit) :
    (s.perform a).machine = s.machine ∧ (s.perform a).connections = s.connections ∧
      (s.perform a).update.wanted = s.update.wanted := by
  cases a with
  | handle input => cases hhandled
  | queue input => simp [perform]
  | serve =>
    rw [perform_serve_of_not_handled hhandled]
    exact ⟨rfl, rfl, rfl⟩
  | tick now => simp [perform]
  | exit => exact absurd rfl hexit
  | _ => exact ⟨rfl, rfl, rfl⟩

/-! ## Runs -/

/-- The station after a run. -/
def run (s : Station) (actions : List Action) : Station := actions.foldl perform s

@[simp] theorem run_nil (s : Station) : s.run [] = s := rfl

@[simp] theorem run_cons (s : Station) (a : Action) (actions : List Action) :
    s.run (a :: actions) = (s.perform a).run actions := rfl

theorem run_append (s : Station) (first second : List Action) :
    s.run (first ++ second) = (s.run first).run second :=
  List.foldl_append

/-- Serving a station that has nothing to serve changes nothing, however often it is tried. -/
theorem run_replicate_serve {s : Station} (h : nextInput? s.queues = none) (n : Nat) :
    s.run (List.replicate n .serve) = s := by
  induction n with
  | zero => rfl
  | succ n ih =>
    rw [List.replicate_succ, run_cons]
    show s.serve.run (List.replicate n .serve) = s
    rw [serve_of_nextInput?_eq_none h, ih]

/-- Draining the queues is serving as often as the limit allows. -/
theorem station_drain (limit : Nat) (s : Station) (handled : Nat) :
    (drain limit ⟨s, handled⟩).station = s.run (List.replicate limit .serve) := by
  induction limit generalizing s handled with
  | zero => rfl
  | succ limit ih =>
    cases hnext : nextInput? s.queues with
    | none =>
      -- The round ends early; the serves that are left over change nothing.
      rw [run_replicate_serve hnext]
      simp only [drain, hnext]
    | some r =>
      obtain ⟨input, rest⟩ := r
      have hserve : s.serve = ({ s with queues := rest }.handle input).station := by
        simp only [serve, hnext]
      rw [List.replicate_succ, run_cons]
      show _ = s.serve.run _
      rw [hserve, ← ih _ (handled + 1)]
      simp only [drain, hnext]

/-- The actions of a round of work: the clock is read, and the waiting inputs are served. -/
def round (s : Station) (now : Nat) : List Action :=
  .clock now :: List.replicate s.workload .serve

/-- A round of work is a run. -/
theorem work_eq_run (s : Station) (now : Nat) : (s.work now).station = s.run (s.round now) :=
  station_drain _ _ _

end Station

/-- Handling what waits behind a mailbox is a run. -/
theorem Mailbox.process_eq_run (m : Mailbox) (now : Nat) :
    (m.process now).2.station = m.station.run (m.station.round now ++ [.takeOutputs]) := by
  rw [Station.run_append, ← Station.work_eq_run]
  rfl

/-- What a delivery does to the station behind a mailbox is a run. -/
theorem Mailbox.deliver_eq_run (m : Mailbox) (now : Nat) (d : Delivery) :
    ∃ actions, (m.deliver now d).2.station = m.station.run actions := by
  unfold Mailbox.deliver
  split
  · exact ⟨[], rfl⟩
  · have haccept : ∃ actions, accept m.station d = m.station.run actions := by
      cases d with
      | input input => exact ⟨[.queue input], rfl⟩
      | cell cell =>
        -- A new serving cell is written first, and then announced as an event of its own.
        exact ⟨[.cell (m.station.cell.reselect cell), .queue (.event .newLocationArea)], rfl⟩
    obtain ⟨actions, haccept⟩ := haccept
    refine ⟨actions ++ ((accept m.station d).round now ++ [.takeOutputs]), ?_⟩
    rw [Mailbox.process_eq_run, Station.run_append m.station actions, ← haccept]

/-- What the passing of time does to the station behind a mailbox is a run. -/
theorem Mailbox.tick_eq_run (m : Mailbox) (now : Nat) :
    ∃ actions, (m.tick now).2.station = m.station.run actions := by
  unfold Mailbox.tick
  split
  · exact ⟨[], rfl⟩
  · refine ⟨.tick now :: ((m.station.tick now).round now ++ [.takeOutputs]), ?_⟩
    rw [Mailbox.process_eq_run, Station.run_cons]
    rfl

/-! ## Properties of runs -/

namespace Station

/-- What holds at first and is preserved by every action of a run holds after it. -/
theorem invariant_run_of_mem {P : Station → Prop} {actions : List Action}
    (step : ∀ s, ∀ a ∈ actions, P s → P (s.perform a)) {s : Station} (init : P s) :
    P (s.run actions) := by
  induction actions generalizing s with
  | nil => exact init
  | cons a rest ih =>
    have hfirst := step s a (List.mem_cons_self ..) init
    exact ih (fun t b hb => step t b (List.mem_cons_of_mem _ hb)) hfirst

/-- What holds at first and is preserved by every action holds after every run. -/
theorem invariant_run {P : Station → Prop} (step : ∀ s a, P s → P (s.perform a)) {s : Station}
    (init : P s) (actions : List Action) : P (s.run actions) :=
  invariant_run_of_mem (fun s a _ => step s a) init

/-- `P` holds of every state of a run, the first one included. -/
def Throughout (P : Station → Prop) (s : Station) : List Action → Prop
  | [] => P s
  | a :: rest => P s ∧ Throughout P (s.perform a) rest

/-- `Q` holds of every step of a run: of the action, in the state that it finds. -/
def EveryStep (Q : Station → Action → Prop) (s : Station) : List Action → Prop
  | [] => True
  | a :: rest => Q s a ∧ EveryStep Q (s.perform a) rest

instance EveryStep.decidable {Q : Station → Action → Prop} [∀ s a, Decidable (Q s a)] :
    ∀ s actions, Decidable (EveryStep Q s actions)
  | _, [] => inferInstanceAs (Decidable True)
  | s, a :: rest =>
    have := decidable (Q := Q) (s.perform a) rest
    inferInstanceAs (Decidable (_ ∧ _))

/-- `Q` holds of some step of a run: of the action, in the state that it finds. -/
def SomeStep (Q : Station → Action → Prop) (s : Station) : List Action → Prop
  | [] => False
  | a :: rest => Q s a ∨ SomeStep Q (s.perform a) rest

/-- `P` holds throughout a run if and only if it holds after each of its beginnings. -/
theorem throughout_iff {P : Station → Prop} {s : Station} {actions : List Action} :
    Throughout P s actions ↔ ∀ n, P (s.run (actions.take n)) := by
  induction actions generalizing s with
  | nil => simp [Throughout]
  | cons a rest ih =>
    constructor
    · rintro ⟨hfirst, hrest⟩ n
      cases n with
      | zero => exact hfirst
      | succ n => exact ih.mp hrest n
    · intro h
      exact ⟨h 0, ih.mpr fun n => h (n + 1)⟩

/-- What holds throughout a run holds after it. -/
theorem throughout_run {P : Station → Prop} {s : Station} {actions : List Action}
    (h : Throughout P s actions) : P (s.run actions) := by
  have hlast := throughout_iff.mp h actions.length
  rwa [List.take_length] at hlast

theorem throughout_append {P : Station → Prop} {s : Station} {before after : List Action} :
    Throughout P s (before ++ after) ↔
      Throughout P s before ∧ Throughout P (s.run before) after := by
  induction before generalizing s with
  | nil =>
    refine ⟨fun h => ⟨throughout_iff.mp h 0, h⟩, fun h => h.2⟩
  | cons a rest ih =>
    simp only [List.cons_append, Throughout, ih, run_cons, and_assoc]

/-- Every step of a run has `Q` if and only if `Q` holds of each action in the state that the
actions before it lead to. -/
theorem everyStep_iff {Q : Station → Action → Prop} {s : Station} {actions : List Action} :
    EveryStep Q s actions ↔
      ∀ before a rest, actions = before ++ a :: rest → Q (s.run before) a := by
  induction actions generalizing s with
  | nil => simp [EveryStep]
  | cons a rest ih =>
    rw [EveryStep, ih]
    constructor
    · rintro ⟨hfirst, hrest⟩ before b after heq
      -- The step in question is the first one or one of the rest.
      cases before with
      | nil =>
        obtain ⟨rfl, _⟩ := List.cons.inj heq
        exact hfirst
      | cons c before =>
        obtain ⟨rfl, htail⟩ := List.cons.inj heq
        exact hrest before b after htail
    · intro h
      exact ⟨h [] a rest rfl, fun before b after heq => h (a :: before) b after (by rw [heq]; rfl)⟩

theorem EveryStep.imp {Q R : Station → Action → Prop} {s : Station} {actions : List Action}
    (h : EveryStep Q s actions) (himp : ∀ s a, Q s a → R s a) : EveryStep R s actions := by
  induction actions generalizing s with
  | nil => trivial
  | cons a rest ih => exact ⟨himp s a h.1, ih h.2⟩

theorem everyStep_append {Q : Station → Action → Prop} {s : Station} {before after : List Action} :
    EveryStep Q s (before ++ after) ↔
      EveryStep Q s before ∧ EveryStep Q (s.run before) after := by
  induction before generalizing s with
  | nil => simp [EveryStep]
  | cons a rest ih =>
    simp only [List.cons_append, EveryStep, ih, run_cons, and_assoc]

/-- What holds throughout a run holds where each of its steps begins, and where one more does. -/
theorem everyStep_of_throughout {P : Station → Prop} {s : Station} {actions : List Action}
    (h : Throughout P s actions) (a : Action) :
    EveryStep (fun t _ => P t) s (actions ++ [a]) := by
  induction actions generalizing s with
  | nil => exact ⟨h, trivial⟩
  | cons b rest ih => exact ⟨h.1, ih h.2⟩

theorem someStep_append {Q : Station → Action → Prop} {s : Station} {before after : List Action} :
    SomeStep Q s (before ++ after) ↔ SomeStep Q s before ∨ SomeStep Q (s.run before) after := by
  induction before generalizing s with
  | nil => simp [SomeStep]
  | cons a rest ih =>
    simp only [List.cons_append, SomeStep, ih, run_cons, or_assoc]

/-- What holds at first and is preserved by the steps with `Q` holds after a run of such steps. -/
theorem invariant_run_of_everyStep {P : Station → Prop} {Q : Station → Action → Prop}
    (step : ∀ s a, Q s a → P s → P (s.perform a)) {s : Station} {actions : List Action}
    (h : EveryStep Q s actions) (init : P s) : P (s.run actions) := by
  induction actions generalizing s with
  | nil => exact init
  | cons a rest ih => exact ih h.2 (step s a h.1 init)

/-- If, under an invariant `I`, exactly the steps with `Q` preserve `P`, then `P` holds throughout
exactly those runs whose steps all have `Q`. -/
theorem throughout_iff_everyStep {I P : Station → Prop} {Q : Station → Action → Prop}
    (keep : ∀ s a, I s → I (s.perform a)) {actions : List Action}
    (step : ∀ s, ∀ a ∈ actions, I s → P s → (P (s.perform a) ↔ Q s a)) {s : Station}
    (hI : I s) (hP : P s) : Throughout P s actions ↔ EveryStep Q s actions := by
  -- The induction carries `I` along the whole run, but `P` only as far as the steps have `Q`.
  induction actions generalizing s with
  | nil => exact iff_of_true hP trivial
  | cons a rest ih =>
    have hstep := step s a (List.mem_cons_self ..) hI hP
    have hih : P (s.perform a) → (Throughout P (s.perform a) rest ↔
        EveryStep Q (s.perform a) rest) :=
      ih (fun t b hb => step t b (List.mem_cons_of_mem _ hb)) (keep s a hI)
    constructor
    · rintro ⟨_, hrest⟩
      have hnext : P (s.perform a) := throughout_iff.mp hrest 0
      exact ⟨hstep.mp hnext, (hih hnext).mp hrest⟩
    · rintro ⟨hgood, hrest⟩
      exact ⟨hP, (hih (hstep.mpr hgood)).mpr hrest⟩

end Station

end MobileStation
