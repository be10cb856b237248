import MobileStation.Proofs.Registration.Request

/-!
# The record of the subscriber fits together

The stored area, the temporary identity, the key and the update status are written by different
procedures, and each leaves them in agreement. The attach flag is set by an accepted location update
alone, and without a SIM none is ever asked for.

Main statement: `coherent_run` (the record fits together after every run in which nobody writes the
subscriber).
-/

namespace MobileStation

namespace Subscriber

/-- What is kept about the subscriber fits together. -/
structure Coherent (u : Subscriber) : Prop where
  /-- An updated subscriber has a stored area. -/
  updated : u.status = .updated → u.laiValid = true
  /-- A temporary identity is one of the stored area. -/
  temporary : u.tmsiValid = true → u.laiValid = true
  key : u.keySequence ≤ 7
  /-- No network is forbidden twice. -/
  forbidden : u.forbidden.Nodup

end Subscriber

/-- A SIM that has a temporary identity, or passes for updated, has a stored area. -/
def Config.SimStored (c : Config) : Prop :=
  ∀ sim, c.sim = some sim → sim.tmsi.isSome = true ∨ sim.updated = true → sim.lai.isSome = true

/-! ## The start -/

theorem Config.keySequence_le_of_validate {c : Config} (h : c.validate = .ok ())
    {sim : SimSettings} (hsim : c.sim = some sim) : sim.keySequence ≤ 7 :=
  ((Config.checks_of_validate h).2.2 sim hsim).2

theorem Subscriber.coherent_ofConfig {c : Config} (hvalid : c.validate = .ok ())
    (hstored : c.SimStored) : (ofConfig c).Coherent := by
  unfold ofConfig
  split
  · exact ⟨nofun, nofun, (by decide : noKey ≤ 7), List.nodup_nil⟩
  · next sim hsim =>
    refine ⟨?_, ?_, Config.keySequence_le_of_validate hvalid hsim, List.nodup_nil⟩
    · intro hupdated
      refine hstored sim hsim (.inr ?_)
      by_contra hnot
      simp [hnot] at hupdated
    · intro htmsi
      exact hstored sim hsim (.inl htmsi)

/-! ## What an input leaves -/

/-- A network that is forbidden already is not forbidden once more. -/
theorem Subscriber.Coherent.forbid {u : Subscriber} (h : u.Coherent) (plmn : Plmn) :
    (u.forbid plmn).Coherent := by
  unfold Subscriber.forbid
  split
  · exact h
  · next hnew =>
    have hnot : plmn ∉ u.forbidden := by simpa [isForbidden] using hnew
    refine ⟨h.updated, h.temporary, h.key, ?_⟩
    simpa using h.forbidden.concat hnot

namespace Station

/-- A record that an input leaves fits together if the one before did. -/
theorem Writes.coherent {s : Station} {i : Input} {r : Record} (h : s.Writes i r)
    (hs : s.subscriber.Coherent) : r.subscriber.Coherent := by
  -- Each write either stores an area, forgets the registration with everything that hangs on it, or
  -- touches nothing of it.
  cases h with
  | keep => exact hs
  | accept _ data body accept hstate hnetwork hread hdecode =>
    obtain ⟨hlai, hkey, hforbidden, _⟩ := s.record_accepted accept.lai accept.identity
    exact ⟨fun _ => hlai, fun _ => hlai, by rw [hkey]; exact hs.key, hforbidden ▸ hs.forbidden⟩
  | refuse _ data body cause hstate hnetwork hread hdecode => exact hs
  | assign _ lai tmsi => exact ⟨fun _ => rfl, fun _ => rfl, hs.key, hs.forbidden⟩
  | unassign _ lai => exact ⟨fun _ => rfl, fun _ => rfl, hs.key, hs.forbidden⟩
  | key _ sequence hle => exact ⟨hs.updated, hs.temporary, hle, hs.forbidden⟩
  | forget _ status hne =>
    exact ⟨fun hupdated => absurd hupdated hne, nofun, (by decide : noKey ≤ 7), hs.forbidden⟩
  | forgetSim _ status hne =>
    exact ⟨fun hupdated => absurd hupdated hne, nofun, (by decide : noKey ≤ 7), hs.forbidden⟩
  | detach => exact ⟨hs.updated, hs.temporary, hs.key, hs.forbidden⟩
  | reject p hloss hstate hfinal =>
    obtain ⟨u, hstatus, _, htmsi, hkey, _, hforbidden, hsubscriber⟩ :=
      s.subscriber_rejectFinally s.update.rejectCause
    have hu : u.Coherent :=
      ⟨by simp [hstatus], by simp [htmsi], by rw [hkey]; decide, hforbidden ▸ hs.forbidden⟩
    show (s.rejectFinally s.update.rejectCause).subscriber.Coherent
    rw [hsubscriber]
    split
    · exact hu.forbid _
    · exact hu
  | inform info chance => exact ⟨hs.updated, hs.temporary, hs.key, hs.forbidden⟩

/-- The attach flag is set by an accepted location update alone. -/
theorem Writes.attached {s : Station} {i : Input} {r : Record} (h : s.Writes i r)
    (hattached : r.subscriber.attached = true) :
    s.subscriber.attached = true ∨ s.machine.state = .locationUpdatingInitiated := by
  -- Only an accept attaches.
  cases h with
  | accept _ data body accept hstate hnetwork hread hdecode => exact .inr hstate
  | detach => cases hattached
  | reject p hloss hstate hfinal =>
    obtain ⟨u, _, _, _, _, hu, _, hsubscriber⟩ := s.subscriber_rejectFinally s.update.rejectCause
    refine .inl (hu ▸ ?_)
    change (s.rejectFinally s.update.rejectCause).subscriber.attached = true at hattached
    rw [hsubscriber] at hattached
    have hforbid (plmn : Plmn) : (u.forbid plmn).attached = u.attached := by
      unfold Subscriber.forbid
      split <;> rfl
    split at hattached
    · rwa [hforbid] at hattached
    · exact hattached
  | _ => exact .inl hattached

/-! ## Stations without a SIM -/

/-- Without a SIM from the start no location update is ever asked for: an idle station shows that it
has none, or is searching for a network. -/
theorem Configured.not_asksUpdate {config : Config} {s : Station} (h : s.Configured config)
    (hnone : config.sim = none) (a : Action) : ¬ s.AsksUpdate a := by
  intro hasks
  have hrequest := asksUpdate_iff.mp hasks
  obtain ⟨data, hsent, hencode⟩ := hrequest.sent
  obtain ⟨hsim, hsubstate⟩ := h.withoutSim hnone
  cases hhandled : a.handled? s with
  | none =>
    rw [← emits, emits_of_not_handled hhandled] at hsent
    cases hsent
  | some r =>
    obtain ⟨t, i⟩ := r
    have hqueues := queues_of_handled hhandled
    have ht : t.Configured config ∧ t.machine = s.machine ∧ t.subscriber = s.subscriber := by
      rw [hqueues]
      exact ⟨⟨h.imsi, h.imei, h.entered, h.shown, h.withoutSim⟩, rfl, rfl⟩
    have hp : .rr (.establish .locationUpdate data) ∈ sentBetween t (t.handle i).station := by
      rw [← emits_of_handled hhandled, emits, hsent]
      exact List.mem_singleton_self _
    have hread : Asked.read? data = some .update := Asked.read?_of_update hencode
    rcases asked_of_handle ht.1 (by rw [ht.2.2]; exact hsim) hp hread with
      hemergency | hexposed | ⟨q, _, _, hsend⟩
    · cases hemergency
    · -- Neither of the two substates makes or tries a location update.
      have hidle := hrequest.idle
      simp only [isExposed, readyToUpdate, readyToServe, ht.2.1, hidle, Bool.or_eq_true,
        Bool.and_eq_true] at hexposed
      rcases hsubstate hidle with hlast | hlast <;>
        simp [hlast, IdleSubstate.takesRetry, IdleSubstate.startsUpdate] at hexposed
    · cases congrArg RrPrimitive.type hsend

/-! ## Runs -/

/-- What a station does only with the SIM of its configuration. -/
structure NeedsSim (config : Config) (s : Station) : Prop where
  attached : s.subscriber.attached = true → config.sim.isSome = true
  configured : s.Configured config
  /-- Without a SIM no location update is under way. -/
  idle : config.sim = none → s.machine.state.updateStage = 3

theorem needsSim_ofConfig (config : Config) : NeedsSim config (ofConfig config) := by
  refine ⟨?_, configured_ofConfig config, fun _ => rfl⟩
  have hattached : (Subscriber.ofConfig config).attached = false := by
    unfold Subscriber.ofConfig
    split <;> rfl
  intro h
  cases hattached.symm.trans h

theorem NeedsSim.perform {config : Config} {s : Station} (h : s.NeedsSim config) {a : Action}
    (hwrites : ∀ u, a ≠ .subscriber u) : (s.perform a).NeedsSim config := by
  refine ⟨?_, h.configured.perform hwrites, ?_⟩
  · cases hhandled : a.handled? s with
    | none =>
      rw [subscriber_of_not_handled hhandled hwrites]
      exact h.attached
    | some r =>
      intro hattached
      rcases (writes_of_handled hhandled).attached hattached with hbefore | hupdating
      · exact h.attached hbefore
      · -- The location update that is accepted was asked for.
        rw [Option.isSome_iff_ne_none]
        intro hnone
        have hstage := h.idle hnone
        rw [hupdating] at hstage
        cases hstage
  · intro hnone
    have hstage := stage_perform (h.configured.not_asksUpdate hnone a)
    rw [h.idle hnone] at hstage
    exact Nat.le_antisymm (MainState.updateStage_le _) hstage

theorem needsSim_run {config : Config} {actions : List Action}
    (hwrites : ∀ u, .subscriber u ∉ actions) : ((ofConfig config).run actions).NeedsSim config := by
  refine invariant_run_of_mem ?_ (needsSim_ofConfig config)
  intro s a ha h
  refine h.perform ?_
  rintro u rfl
  exact hwrites u ha

/-- What is kept about the subscriber fits together, and only a SIM can be attached. -/
structure RecordCoherent (config : Config) (s : Station) : Prop where
  subscriber : s.subscriber.Coherent
  attached : s.subscriber.attached = true → config.sim.isSome = true
  configured : s.Configured config
  /-- Without a SIM no location update is under way. -/
  idle : config.sim = none → s.machine.state.updateStage = 3

theorem RecordCoherent.needsSim {config : Config} {s : Station} (h : s.RecordCoherent config) :
    s.NeedsSim config :=
  ⟨h.attached, h.configured, h.idle⟩

theorem RecordCoherent.perform {config : Config} {s : Station} (h : s.RecordCoherent config)
    {a : Action} (hwrites : ∀ u, a ≠ .subscriber u) : (s.perform a).RecordCoherent config := by
  obtain ⟨hattached, hconfigured, hidle⟩ := h.needsSim.perform hwrites
  refine ⟨?_, hattached, hconfigured, hidle⟩
  cases hhandled : a.handled? s with
  | none =>
    rw [subscriber_of_not_handled hhandled hwrites]
    exact h.subscriber
  | some r => exact (writes_of_handled hhandled).coherent h.subscriber

/-- After every run in which nobody writes the subscriber, the record of a station whose SIM was
stored as a whole fits together: an updated station has a stored area, and so has one with a
temporary identity; the key is one of eight; only a station with a SIM is attached; and no network
is forbidden twice. -/
theorem coherent_run {config : Config} (hvalid : config.validate = .ok ())
    (hstored : config.SimStored) {actions : List Action}
    (hwrites : ∀ u, .subscriber u ∉ actions) :
    let u := ((ofConfig config).run actions).subscriber
    u.Coherent ∧ (u.attached = true → config.sim.isSome = true) := by
  intro u
  have h : ((ofConfig config).run actions).RecordCoherent config := by
    -- What the record says of the registration is preserved together with what was configured: that
    -- a SIM is there is only known from the configuration.
    refine invariant_run_of_mem ?_ ⟨Subscriber.coherent_ofConfig hvalid hstored, ?_,
      configured_ofConfig config, fun _ => rfl⟩
    · intro s a ha h
      refine h.perform ?_
      rintro u rfl
      exact hwrites u ha
    · have hattached : (Subscriber.ofConfig config).attached = false := by
        unfold Subscriber.ofConfig
        split <;> rfl
      intro h
      cases hattached.symm.trans h
  exact ⟨h.subscriber, h.attached⟩

/-- A stored SIM that moves to another area, is authenticated there and is accepted with a new
temporary identity. -/
theorem coherent_after_move :
    let config : Config :=
      { imei := "356938035643809"
        imeisv := "3569380356438091"
        sim := some
          { imsi := "262420000000001"
            tmsi := some 1
            lai := some ⟨⟨262, 42, false⟩, 7⟩
            updated := true } }
    let actions : List Action :=
      [.cell (.campedIn ⟨⟨262, 42, false⟩, 8⟩),
        .handle (.event .newLocationArea),
        .handle (.rr { type := .establishConfirm }),
        .handle (.message (0x05 :: 0x12 :: 0x03 :: List.replicate 16 0x11)),
        .handle (.message
          [0x05, 0x02, 0x62, 0xF2, 0x24, 0x00, 0x08, 0x17, 0x05, 0xF4, 0x01, 0x02, 0x03, 0x04])]
    let u := ((ofConfig config).run actions).subscriber
    config.validate = .ok () ∧ config.SimStored ∧ (∀ u, .subscriber u ∉ actions) ∧
      u.status = .updated ∧ u.lai.lac = 8 ∧ u.tmsi = 0x01020304 ∧ u.keySequence = 3 ∧
      u.Coherent ∧ (u.attached = true → config.sim.isSome = true) := by
  intro config actions u
  have hvalid : config.validate = .ok () := by decide +kernel
  have hstored : config.SimStored := by
    rintro _ ⟨⟩ _
    rfl
  have hwrites : ∀ u, .subscriber u ∉ actions := by simp [actions]
  exact ⟨hvalid, hstored, hwrites, by decide +kernel, by decide +kernel, by decide +kernel,
    by decide +kernel, coherent_run hvalid hstored hwrites⟩

end Station

end MobileStation
