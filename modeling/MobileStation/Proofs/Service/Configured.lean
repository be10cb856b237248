import MobileStation.Proofs.Steps.Inputs

/-!
# Stations with the subscriber of their configuration

As long as nobody writes the subscriber, a station knows the subscriber of its configuration, and it
may lose a usable SIM but never gains one. Losing it does not touch the update status in every case.
A station that passes for updated without a usable SIM shows in the idle state that it has none.

Main statements: `Configured.perform` (every action but a write of the subscriber keeps this),
`configured_run`, and `Configured.offersService_eq_false` (an idle station without a usable SIM
offers no service).
-/

namespace MobileStation.Station

/-- What holds of a station that has the subscriber of its configuration. -/
structure Configured (config : Config) (s : Station) : Prop where
  imsi : s.subscriber.imsi = (Subscriber.ofConfig config).imsi
  imei : s.subscriber.imei = (Subscriber.ofConfig config).imei
  /-- This state is never entered. -/
  entered : s.machine.state ≠ .releaseNotAllowed
  /-- An idle station that passes for updated without a usable SIM shows that it has none. -/
  shown : s.machine.state = .idle → s.subscriber.isUpdatedWithoutSim = true →
    s.machine.lastSubstate = .noImsi
  /-- Without a SIM from the start the station offers no service. -/
  withoutSim : config.sim = none → s.subscriber.simValid = false ∧
    (s.machine.state = .idle →
      s.machine.lastSubstate = .plmnSearch ∨ s.machine.lastSubstate = .noImsi)

/-- The idle state is entered by returning to it, and one state is not entered at all. -/
theorem CourseOf.enters_ne {m : StateMachine} {c : Course} {i : Input} (h : CourseOf m c i) :
    c.next ≠ .enters .idle ∧ c.next ≠ .enters .releaseNotAllowed := by
  refine h.of_tables (P := fun _ c => c.next ≠ .enters .idle ∧
    c.next ≠ .enters .releaseNotAllowed) ?_ ?_ ?_ ?_ ?_
  · exact fun _ => by decide
  · intro procedure
    cases procedure <;> decide
  · intro procedure hother
    cases procedure <;> first | exact absurd rfl hother | decide
  · intro state
    cases state <;> decide
  · intro procedure
    cases procedure <;> decide

theorem configured_ofConfig (config : Config) : Configured config (ofConfig config) := by
  refine ⟨rfl, rfl, nofun, ?_, ?_⟩
  · intro _ hhidden
    have hsim : (Subscriber.ofConfig config).isUpdatedWithoutSim = false := by
      unfold Subscriber.ofConfig
      split
      · rfl
      · simp [Subscriber.isUpdatedWithoutSim]
    exact absurd hhidden (by simp [ofConfig, ofSubscriber, hsim])
  · intro hnone
    have hsim : (Subscriber.ofConfig config).simValid = false := by
      simp [Subscriber.ofConfig, hnone, Subscriber.withoutSim]
    exact ⟨hsim, fun _ => .inl rfl⟩

namespace Configured

variable {config : Config} {s t : Station}

/-- A station stays so on every course. -/
theorem takes (h : s.Configured config) {c : Course} {i : Input}
    (hcourse : CourseOf s.machine c i) (htakes : Takes s t c) : t.Configured config := by
  have hkept := htakes.kept
  have hleads := htakes.leads
  obtain ⟨hnotIdle, hnotEntered⟩ := hcourse.enters_ne
  have hsim (hnone : config.sim = none) : t.subscriber.simValid = false := by
    by_contra hvalid
    have hbefore := hkept.sim (by simpa using hvalid)
    simp [(h.withoutSim hnone).1] at hbefore
  have himsi := hkept.imsi.trans h.imsi
  have himei := hkept.imei.trans h.imei
  cases hnext : c.next with
  | stays =>
    rw [hnext] at hleads
    obtain ⟨hmachine, hhidden⟩ := hleads
    refine ⟨himsi, himei, hmachine ▸ h.entered, ?_, ?_⟩
    · intro hidle hupdated
      rw [hmachine] at hidle ⊢
      exact h.shown hidle (hhidden hupdated)
    · intro hnone
      rw [hmachine]
      exact ⟨hsim hnone, (h.withoutSim hnone).2⟩
  | enters state =>
    rw [hnext] at hleads hnotIdle hnotEntered
    change t.machine.state = state at hleads
    -- The idle state is not entered this way, so there is no substate to look at.
    have hbusy : t.machine.state ≠ .idle := by
      rintro hidle
      exact hnotIdle (by rw [← hleads, hidle])
    refine ⟨himsi, himei, ?_, fun hidle => absurd hidle hbusy,
      fun hnone => ⟨hsim hnone, fun hidle => absurd hidle hbusy⟩⟩
    rintro hentered
    exact hnotEntered (by rw [← hleads, hentered])
  | idles =>
    rw [hnext] at hleads
    obtain ⟨hidle, hshown⟩ := hleads
    refine ⟨himsi, himei, by rw [hidle]; decide, ?_, ?_⟩
    · intro _ hupdated
      simp only [Subscriber.isUpdatedWithoutSim, Bool.and_eq_true, Bool.not_eq_true'] at hupdated
      exact hshown hupdated.2
    · intro hnone
      exact ⟨hsim hnone, fun _ => .inr (hshown (hsim hnone))⟩
  | idlesWithoutSim =>
    rw [hnext] at hleads
    obtain ⟨hidle, hshown⟩ := hleads
    exact ⟨himsi, himei, by rw [hidle]; decide, fun _ _ => hshown,
      fun hnone => ⟨hsim hnone, fun _ => .inr hshown⟩⟩

/-- Every action keeps it that does not write the subscriber. -/
theorem perform (h : s.Configured config) {a : Action} (hwrites : ∀ u, a ≠ .subscriber u) :
    (s.perform a).Configured config := by
  cases hhandled : a.handled? s with
  | some r =>
    obtain ⟨c, hcourse, htakes⟩ := perform_takes hhandled
    exact h.takes hcourse htakes
  | none =>
    have hmachine := machine_of_not_handled hhandled
    have hsubscriber := subscriber_of_not_handled hhandled hwrites
    refine ⟨hsubscriber ▸ h.imsi, hsubscriber ▸ h.imei, hmachine ▸ h.entered, ?_, ?_⟩
    · rw [hmachine, hsubscriber]
      exact h.shown
    · rw [hmachine, hsubscriber]
      exact h.withoutSim

/-- An idle station without a usable SIM offers no service. -/
theorem offersService_eq_false (h : s.Configured config) (hsim : s.subscriber.simValid = false)
    (hidle : s.machine.state = .idle) : s.offersService = false := by
  cases hupdated : s.subscriber.isUpdated with
  | false => simp [offersService, hupdated]
  | true =>
    have hshown := h.shown hidle (by simp [Subscriber.isUpdatedWithoutSim, hupdated, hsim])
    simp [offersService, StateMachine.substate, hidle, hshown]

end Configured

theorem configured_run {config : Config} {actions : List Action}
    (hwrites : ∀ u, .subscriber u ∉ actions) :
    ((ofConfig config).run actions).Configured config := by
  refine invariant_run_of_mem ?_ (configured_ofConfig config)
  intro s a ha h
  refine h.perform ?_
  rintro u rfl
  exact hwrites u ha

end MobileStation.Station
