import MobileStation.Proofs.Detach.Resumed
import MobileStation.Proofs.Registration.Started

/-!
# Changes of the cell outside the idle state

A new location area is announced once. Outside the idle state the announcement has no effect, and
the return to the idle state chooses a substate but starts nothing: the new area is registered in
only if something else asks for it.

Main statements: `wanted_of_asked` (a request that is sent while the queues are emptied leaves the
update wanted), `CellChange.Happens.remembered_iff` (what becomes of one change) and
`cellChanges_remembered_iff` (the runs in which no change is forgotten).
-/

namespace MobileStation

/-- The action is one of a round of work. -/
def Action.works : Action → Bool
  | serve => true
  | clock _ => true
  | _ => false

namespace Station

/-! ## Emptying the queues -/

/-- Events are handled when nothing else waits. -/
theorem eq_of_nextInput?_event {q rest : Queues} {e : Event}
    (h : nextInput? q = some (.event e, rest)) :
    q.cm = [] ∧ q.registration = [] ∧ q.rr = [] ∧ rest = { q with events := rest.events } := by
  unfold nextInput? at h
  split at h <;> cases h
  exact ⟨rfl, rfl, rfl, rfl⟩

/-- A location update has been asked for, and no input waits but events. -/
structure AwaitsLink (s : Station) : Prop where
  state : s.machine.state = .waitForRadioLocationUpdate
  wanted : s.update.wanted = true
  cm : s.queues.cm = []
  registration : s.queues.registration = []
  rr : s.queues.rr = []

/-- No event ends the wait for the radio link of a location update. -/
theorem handle_event_of_waiting {s : Station}
    (hstate : s.machine.state = .waitForRadioLocationUpdate) (e : Event) :
    (s.handle (.event e)).station.machine.state = .waitForRadioLocationUpdate ∧
      (s.handle (.event e)).station.update = s.update := by
  simp only [handle, handleEvent]
  split
  · next procedure hprocedure =>
    have hmem := state_mem_of_eventProcedure? hprocedure
    rw [hstate] at hmem
    cases procedure with
    | timeoutUpdate =>
      -- The timer of the answer is that of an earlier update.
      have hlate : s.timeoutUpdate = .done s := if_neg (by simp [hstate])
      simp only [EventProcedure.run, hlate]
      exact ⟨hstate, rfl⟩
    | delayDetach => exact ⟨hstate, rfl⟩
    | applySystemInformation =>
      simp only [EventProcedure.run]
      split
      · exact ⟨by simpa using hstate, by simp⟩
      · exact ⟨hstate, rfl⟩
    | answerAuthentication =>
      simp only [EventProcedure.run]
      split
      · exact ⟨by simpa [answerAuthentication] using hstate, by simp [answerAuthentication]⟩
      · exact ⟨hstate, rfl⟩
    | nothing => exact ⟨hstate, rfl⟩
    | _ => exact absurd hmem (by decide)
  · exact ⟨hstate, rfl⟩

/-- A round of work goes on waiting for the link. -/
theorem AwaitsLink.perform {s : Station} (h : s.AwaitsLink) {a : Action} (ha : a.works = true) :
    (s.perform a).AwaitsLink := by
  cases a with
  | clock now => exact ⟨h.state, h.wanted, h.cm, h.registration, h.rr⟩
  | serve =>
    cases hnext : nextInput? s.queues with
    | none =>
      show s.serve.AwaitsLink
      rw [serve_of_nextInput?_eq_none hnext]
      exact h
    | some r =>
      obtain ⟨i, rest⟩ := r
      -- Whatever is waiting is an event, for the other queues are empty.
      obtain ⟨e, rfl, hrest⟩ : ∃ e, i = .event e ∧ rest.cm = [] ∧ rest.registration = [] ∧
          rest.rr = [] := by
        obtain ⟨_, _, hcm, hregistration, hrr⟩ := h
        unfold nextInput? at hnext
        split at hnext <;> cases hnext <;> simp_all
      let t : Station := { s with queues := rest }
      have hserve : s.perform .serve = (t.handle (.event e)).station :=
        perform_of_handled (by simp [Action.handled?, hnext, t])
      obtain ⟨hstate, hupdate⟩ := handle_event_of_waiting (s := t) h.state e
      obtain ⟨added, hqueues⟩ := t.queues_handle (.event e)
      rw [hserve]
      exact ⟨hstate, by rw [hupdate]; exact h.wanted, by rw [hqueues]; exact hrest.1,
        by rw [hqueues]; exact hrest.2.1, by rw [hqueues]; exact hrest.2.2⟩
  | _ => cases ha

/-- A round of work asks for a location update when nothing waits any more but events. -/
theorem AsksUpdate.awaitsLink {s : Station} {a : Action} (h : s.AsksUpdate a)
    (ha : a.works = true) : (s.perform a).AwaitsLink := by
  obtain ⟨t, e, hhandled⟩ := h.exists_event
  obtain ⟨_, _, hstate, hwanted, _⟩ := asksUpdate_iff.mp h
  cases a with
  | serve =>
    obtain ⟨⟨_, rest⟩, hnext, heq⟩ := Option.map_eq_some_iff.mp hhandled
    obtain ⟨rfl, rfl⟩ := Prod.mk.inj heq
    -- Events are served last, so that the other queues were empty when this one was.
    obtain ⟨hcm, hregistration, hrr, hrest⟩ := eq_of_nextInput?_event hnext
    obtain ⟨added, hqueues⟩ := ({ s with queues := rest } : Station).queues_handle (.event e)
    have hkept : (s.perform .serve).queues =
        { s.queues with events := rest.events ++ added } := by
      rw [perform_of_handled hhandled, hqueues, hrest]
    exact ⟨hstate, hwanted, by rw [hkept]; exact hcm, by rw [hkept]; exact hregistration,
      by rw [hkept]; exact hrr⟩
  | clock now => cases hhandled
  | _ => cases ha

/-- A location update is asked for in this location area. -/
def AsksIn (lai : Lai) (s : Station) (a : Action) : Prop := s.AsksUpdate a ∧ s.cell.lai = lai

/-- If a location update is asked for while the queues are emptied, it is wanted afterwards. -/
theorem wanted_of_asked {s : Station} {lai : Lai} {serves : List Action}
    (hworks : ∀ a ∈ serves, a.works = true) (h : SomeStep (AsksIn lai) s serves) :
    (s.run serves).update.wanted = true := by
  induction serves generalizing s with
  | nil => cases h
  | cons a rest ih =>
    have hrest : ∀ b ∈ rest, b.works = true := fun b hb => hworks b (List.mem_cons_of_mem _ hb)
    rcases h with hasks | hlater
    · have hwaits := hasks.1.awaitsLink (hworks a (List.mem_cons_self ..))
      exact (invariant_run_of_mem (fun t b hb ht => ht.perform (hrest b hb)) hwaits).wanted
    · exact ih hrest hlater

/-! ## One change -/

theorem not_asksIn_of_busy {s : Station} (h : s.machine.state ≠ .idle) (lai : Lai) (a : Action) :
    ¬ AsksIn lai s a :=
  fun hasks => h (asksUpdate_iff.mp hasks.1).idle

theorem not_asksIn_of_throughout {s : Station} {lai : Lai} {actions : List Action}
    (h : Throughout (fun t => t.machine.state ≠ .idle) s actions) :
    ¬ SomeStep (AsksIn lai) s actions := by
  induction actions generalizing s with
  | nil => exact id
  | cons a rest ih =>
    rintro (hasks | hlater)
    · exact not_asksIn_of_busy h.1 lai a hasks
    · exact ih h.2 hlater

end Station

/-- What happens around a change of the serving cell. -/
structure CellChange where
  /-- The cell that is reselected. -/
  new : ServingCell
  /-- What happens until the new location area is announced. -/
  between : List Action
  /-- The announcement is handled. -/
  notice : Action
  /-- What happens until the station returns to the idle state. -/
  wait : List Action
  /-- The return to the idle state. -/
  back : Action
  /-- The inputs that wait are served. -/
  serves : List Action

namespace CellChange

open Station

/-- All of it, in order. -/
def actions (c : CellChange) (s : Station) : List Action :=
  .cell (s.cell.reselect c.new) ::
    (c.between ++ c.notice :: (c.wait ++ c.back :: c.serves))

/-- The station in the new cell. -/
def moved (c : CellChange) (s : Station) : Station := s.reselect c.new

/-- The station to which the new location area is announced. -/
def told (c : CellChange) (s : Station) : Station := (c.moved s).run c.between

/-- The station that is to return to the idle state. -/
def leaving (c : CellChange) (s : Station) : Station := ((c.told s).perform c.notice).run c.wait

/-- The station that has returned to the idle state. -/
def returned (c : CellChange) (s : Station) : Station := (c.leaving s).perform c.back

/-- The station when no input waits any more. -/
def settled (c : CellChange) (s : Station) : Station := (c.returned s).run c.serves

/-- The cell changes to one of another location area than the stored one. The station is told so
outside the idle state, and returns to it with a usable SIM and in a cell of that area that allows a
location update. -/
structure Happens (c : CellChange) (s : Station) : Prop where
  elsewhere : s.subscriber.isRegisteredIn c.new.lai = false
  announced : ∃ t, c.notice.handled? (c.told s) = some (t, .event .newLocationArea)
  busy : (c.told s).machine.state ≠ .idle
  waits : Throughout (fun t => t.machine.state ≠ .idle) ((c.told s).perform c.notice) c.wait
  idle : (c.returned s).machine.state = .idle
  sim : (c.returned s).subscriber.simValid = true
  area : (c.returned s).cell.lai = c.new.lai
  allowed : (c.returned s).updateAllowed = true
  works : ∀ a ∈ c.serves, a.works = true
  quiet : (c.settled s).isQuiet = true

/-- A location update was asked for in the new area, or is wanted when no input waits any more. -/
def Remembered (c : CellChange) (s : Station) : Prop :=
  SomeStep (AsksIn c.new.lai) s (c.actions s) ∨ (c.settled s).update.wanted = true

/-- A location update was asked for in the new area before it was announced; or one was wanted then
already and was not given up since; or an event that was still waiting after the return starts one,
which is not given up either. -/
def TakenUp (c : CellChange) (s : Station) : Prop :=
  SomeStep (AsksIn c.new.lai) (c.moved s) c.between ∨
    Throughout (fun t => t.update.wanted = true) (c.told s)
      (c.notice :: (c.wait ++ c.back :: c.serves)) ∨
    ∃ before start after, c.serves = before ++ start :: after ∧
      ((c.returned s).run before).StartsBy start ∧
      Throughout (fun t => t.update.wanted = true)
        (((c.returned s).run before).perform start) after

/-- What is asked for around the change is asked for before the announcement or after the return. -/
theorem Happens.asks_iff {c : CellChange} {s : Station} (h : c.Happens s) :
    SomeStep (AsksIn c.new.lai) s (c.actions s) ↔
      SomeStep (AsksIn c.new.lai) (c.moved s) c.between ∨
        SomeStep (AsksIn c.new.lai) (c.returned s) c.serves := by
  -- A request needs the idle state: it is not made by the change itself, nor while the station is
  -- busy. What is left is before the notice and after the return.
  have hchange : ¬ AsksIn c.new.lai s (.cell (s.cell.reselect c.new)) := by
    rintro ⟨hasks, _⟩
    obtain ⟨t, e, hhandled⟩ := hasks.exists_event
    cases hhandled
  have hnotice : ¬ AsksIn c.new.lai (c.told s) c.notice := not_asksIn_of_busy h.busy _ _
  have hwait : ¬ SomeStep (AsksIn c.new.lai) ((c.told s).perform c.notice) c.wait :=
    not_asksIn_of_throughout h.waits
  have hback : ¬ AsksIn c.new.lai (c.leaving s) c.back :=
    not_asksIn_of_busy (throughout_run h.waits) _ _
  have hmoved : s.perform (.cell (s.cell.reselect c.new)) = c.moved s := rfl
  have htold : (c.moved s).run c.between = c.told s := rfl
  have hleaving : ((c.told s).perform c.notice).run c.wait = c.leaving s := rfl
  have hreturned : (c.leaving s).perform c.back = c.returned s := rfl
  rw [actions, SomeStep, hmoved, someStep_append, htold, SomeStep, someStep_append, hleaving,
    SomeStep, hreturned]
  simp only [hchange, hnotice, hwait, hback, false_or]

/-- From the announcement to the return no location update is started: one that is wanted afterwards
was wanted all the time. -/
theorem Happens.wanted_iff {c : CellChange} {s : Station} (h : c.Happens s) :
    Throughout (fun t => t.update.wanted = true) (c.returned s) c.serves ↔
      Throughout (fun t => t.update.wanted = true) (c.told s)
        (c.notice :: (c.wait ++ c.back :: c.serves)) := by
  have hsplit : c.notice :: (c.wait ++ c.back :: c.serves) =
      (c.notice :: c.wait ++ [c.back]) ++ c.serves := by simp
  have hreturned : (c.told s).run (c.notice :: c.wait ++ [c.back]) = c.returned s := by
    rw [run_append]
    rfl
  have hbusy : Throughout (fun t => t.machine.state ≠ .idle) (c.told s) (c.notice :: c.wait) :=
    ⟨h.busy, h.waits⟩
  rw [hsplit, throughout_append, hreturned]
  -- While the station is busy the wish is not dropped, so it was there all the time if it is there
  -- in the end.
  refine ⟨fun hserves => ⟨?_, hserves⟩, fun hall => hall.2⟩
  refine wanted_throughout_of_busy (everyStep_of_throughout hbusy c.back) ?_
  rw [hreturned]
  exact throughout_iff.mp hserves 0

/-- A change is remembered exactly if it is taken up. -/
theorem Happens.remembered_iff {c : CellChange} {s : Station} (h : c.Happens s) :
    c.Remembered s ↔ c.TakenUp s := by
  have hserves : SomeStep (AsksIn c.new.lai) (c.returned s) c.serves →
      (c.settled s).update.wanted = true := wanted_of_asked h.works
  rw [Remembered, TakenUp, h.asks_iff, or_assoc, or_iff_right_of_imp hserves, settled,
    wanted_run_iff, WantedSince, h.wanted_iff]

end CellChange

namespace Station

/-! ## Runs -/

/-- No change of the cell is forgotten in the run. -/
def CellChangesRemembered (s : Station) (actions : List Action) : Prop :=
  ∀ before (c : CellChange) rest, actions = before ++ (c.actions (s.run before) ++ rest) →
    c.Happens (s.run before) → c.Remembered (s.run before)

/-- Every change of the cell in the run is taken up by something else than the return to the idle
state. -/
def CellChangesTakenUp (s : Station) (actions : List Action) : Prop :=
  ∀ before (c : CellChange) rest, actions = before ++ (c.actions (s.run before) ++ rest) →
    c.Happens (s.run before) → c.TakenUp (s.run before)

/-- Changes of the cell outside the idle state are not forgotten in exactly those runs in which each
is taken up by something else: a request in the new area before it was announced, an update that was
wanted already when it was announced and is not given up, or an event that was still waiting at the
return to the idle state and starts one. The announcement and the return as such start none. -/
theorem cellChanges_remembered_iff (s : Station) (actions : List Action) :
    s.CellChangesRemembered actions ↔ s.CellChangesTakenUp actions := by
  constructor
  · intro h before c rest heq hhappens
    exact hhappens.remembered_iff.mp (h before c rest heq hhappens)
  · intro h before c rest heq hhappens
    exact hhappens.remembered_iff.mpr (h before c rest heq hhappens)

/-- The cell changes during a call. When the call is over, the station is idle in the substate in
which a location update is needed, and none is asked for. -/
theorem cell_change_forgotten :
    ¬ CellChangesRemembered
      (ofConfig
        { imei := "356938035643809"
          imeisv := "3569380356438091"
          sim := some
            { imsi := "262420000000001"
              lai := some ⟨⟨262, 42, false⟩, 7⟩
              updated := true } })
      [.cell (.campedIn ⟨⟨262, 42, false⟩, 7⟩),
        .handle (.event .newLocationArea),
        .handle (.rr { type := .establishIndication }),
        .handle (.message [0x03, 0x05]),
        .cell (.campedIn ⟨⟨262, 42, false⟩, 8⟩),
        .handle (.event .newLocationArea),
        .handle (.rr { type := .releaseIndication })] := by
  intro h
  have hremembered := h
    [.cell (.campedIn ⟨⟨262, 42, false⟩, 7⟩),
      .handle (.event .newLocationArea),
      .handle (.rr { type := .establishIndication }),
      .handle (.message [0x03, 0x05])]
    { new := .campedIn ⟨⟨262, 42, false⟩, 8⟩
      between := []
      notice := .handle (.event .newLocationArea)
      wait := []
      back := .handle (.rr { type := .releaseIndication })
      serves := [] }
    [] (by decide +kernel)
    { elsewhere := by decide +kernel
      announced := ⟨_, rfl⟩
      busy := by decide +kernel
      waits := by unfold Throughout; decide +kernel
      idle := by decide +kernel
      sim := by decide +kernel
      area := by decide +kernel
      allowed := by decide +kernel
      works := List.forall_mem_nil _
      quiet := by decide +kernel }
  revert hremembered
  simp only [CellChange.Remembered, CellChange.actions, List.nil_append, SomeStep, AsksIn,
    AsksUpdate]
  decide +kernel

end Station

end MobileStation
