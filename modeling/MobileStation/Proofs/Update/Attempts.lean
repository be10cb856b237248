import MobileStation.Proofs.Registration.Started
import MobileStation.Proofs.Update.Reject

/-!
# The attempts of a location update

Whatever an input does, it does one of a few things to the location update: it spares it, drops it,
starts or retries it, takes it from one stage to the next, or makes the attempt fail. A failed
attempt is counted, and the last one that is allowed gives the update up together with the
registration.

Main statements: `tries_failUpdate` (the end of an attempt that failed) and `handle_tries` (what the
handling of an input does to a location update).
-/

namespace MobileStation

namespace Station

/-! ## What happens to a location update -/

/-- The input is a primitive from above that asks for a service. -/
def asksService (s : Station) : Input → Bool
  | .cm p => (s.machine.cmProcedure? p).any CmProcedure.requests
  | _ => false

/-- The input may decide about the location update: it brings a retry, or an update is under way, or
none is wanted and the station could start one. -/
def HasTurn (s : Station) (i : Input) : Prop :=
  i.isRetry = true ∨ s.machine.state.updates = true ∨ s.update.wanted = false ∧ ¬ s.Resigned

/-- A step counts the attempts if they stay within their bound, and if a station that has none left
and is updated all the same was so before. -/
structure Counts (s t : Station) : Prop where
  bounded : s.update.attempts ≤ LocationUpdate.maxAttempts →
    t.update.attempts ≤ LocationUpdate.maxAttempts
  exhausted : t.update.attempts = LocationUpdate.maxAttempts → t.subscriber.isUpdated = true →
    s.update.attempts = LocationUpdate.maxAttempts ∧ s.subscriber.isUpdated = true

/-- A step that clears the attempts. -/
theorem Counts.of_cleared {s t : Station} (h : t.update.attempts = 0) : Counts s t := by
  refine ⟨fun _ => by omega, ?_⟩
  intro hspent
  rw [h] at hspent
  cases hspent

/-- A step that leaves the attempts alone, and does not make the station updated. -/
theorem Counts.of_kept {s t : Station} (h : t.update.attempts = s.update.attempts)
    (hupdated : t.subscriber.isUpdated = true → s.subscriber.isUpdated = true) : Counts s t := by
  refine ⟨fun _ => by omega, ?_⟩
  intro hspent hafter
  exact ⟨h ▸ hspent, hupdated hafter⟩

/-- What a step counts depends on the update and the subscriber before it. -/
theorem Counts.of_frame {s t u : Station} (h : Counts u t) (hupdate : u.update = s.update)
    (hsubscriber : u.subscriber = s.subscriber) : Counts s t := by
  obtain ⟨hbounded, hexhausted⟩ := h
  rw [hupdate] at hbounded hexhausted
  rw [hsubscriber] at hexhausted
  exact ⟨hbounded, hexhausted⟩

/-- What the handling of an input does to a location update. -/
inductive Tries (s : Station) (i : Input) (t : Station) : Prop where
  /-- It is left as it is, or given up for want of a usable SIM. -/
  | spares (resets : Bool) (hresets : resets = true → s.asksService i = true) (h : Spares resets s t)
  /-- None is wanted any more. -/
  | drops (hturn : s.HasTurn i) (hwanted : t.update.wanted = false)
      (hstate : t.machine.state.updates = false) (hprospects : t.prospects = s.prospects)
      (hcounts : Counts s t)
  /-- A new one is wanted. It is asked for, unless the request cannot be written. -/
  | starts (hunwanted : s.update.wanted = false) (hactive : ¬ s.Resigned)
      (hwanted : t.update.wanted = true)
      (hstate : t.machine.state = .waitForRadioLocationUpdate ∨ t.machine.state = .idle)
      (hfresh : t.update.attempts = 0 ∧ t.update.accessFailed = false)
      (hprospects : t.prospects = s.prospects)
  /-- It is asked for once more. -/
  | retries (hretry : i.isRetry = true) (hstate : t.machine.state = .waitForRadioLocationUpdate)
      (hwanted : s.update.wanted = true) (hupdate : t.update = s.update)
      (hsubscriber : t.subscriber = s.subscriber) (hprospects : t.prospects = s.prospects)
  /-- It gets to its next stage. -/
  | advances
      (hstage : s.machine.state = .waitForRadioLocationUpdate ∧
          t.machine.state = .locationUpdatingInitiated ∧
            t.update.accessFailed = s.update.accessFailed ∨
        s.machine.state = .locationUpdatingInitiated ∧
          t.machine.state = .locationUpdatingReject)
      (hwanted : t.update.wanted = s.update.wanted)
      (hattempts : t.update.attempts = s.update.attempts)
      (hsubscriber : t.subscriber = s.subscriber) (hprospects : t.prospects = s.prospects)
  /-- The attempt fails and there will be another one: the first failure of the random access alone
  is not counted. -/
  | fails (hupdates : s.machine.state.updates = true) (hstate : t.machine.state = .idle)
      (hwanted : t.update.wanted = s.update.wanted ∨ t.Resigned)
      (hattempts : s.machine.state ≠ .locationUpdatingReject ∧
          t.update.attempts = s.update.attempts ∧ s.update.accessFailed = false ∧
            t.update.accessFailed = true ∨
        t.update.attempts = s.update.attempts + 1 ∧
          t.update.attempts < LocationUpdate.maxAttempts)
      (hprospects : t.prospects ≤ s.prospects + 1)
      (hupdated : t.subscriber.isUpdated = true → s.subscriber.isUpdated = true)

namespace Tries

variable {s t u : Station} {i : Input}

theorem of_spares (h : Spares false s t) : Tries s i t := .spares false nofun h

theorem of_calm (h : Calm false s t) : Tries s i t := .of_spares h.spares

theorem refl (s : Station) : Tries s i s := of_calm (.refl s)

/-- What happens after a step that is not about the update. -/
theorem after (h : Tries u i t) (hcalm : Calm false s u) (hcm : ∀ p, i ≠ .cm p)
    (hstate : u.machine.state = s.machine.state) (hupdate : u.update = s.update)
    (hsubscriber : u.subscriber = s.subscriber) : Tries s i t := by
  have hspares := hcalm.spares
  have hprospects := hspares.prospects
  have hresigned : ¬ u.Resigned → ¬ s.Resigned := mt hspares.resigned
  cases h with
  | spares resets hresets h =>
    cases resets with
    | false => exact .of_spares (hspares.trans h)
    | true =>
      -- Only a request of connection management clears the attempts.
      have hasks := hresets rfl
      cases i with
      | cm p => exact absurd rfl (hcm p)
      | _ => cases hasks
  -- Whose turn it is is read off the state before, which the first step has left as it was.
  | drops hturn hwanted hafter hkept hcounts =>
    refine .drops ?_ hwanted hafter (hkept.trans hprospects) ?_
    · rcases hturn with hretry | hupdates | ⟨hunwanted, hactive⟩
      · exact .inl hretry
      · exact .inr (.inl (hstate ▸ hupdates))
      · exact .inr (.inr ⟨hupdate ▸ hunwanted, hresigned hactive⟩)
    · exact hcounts.of_frame hupdate hsubscriber
  | starts hunwanted hactive hwanted hafter hfresh hkept =>
    exact .starts (hupdate ▸ hunwanted) (hresigned hactive) hwanted hafter hfresh
      (hkept.trans hprospects)
  | retries hretry hafter hwanted hsame hsub hkept =>
    exact .retries hretry hafter (hupdate ▸ hwanted) (hsame.trans hupdate)
      (hsub.trans hsubscriber) (hkept.trans hprospects)
  | advances hstage hwanted hattempts hsub hkept =>
    rw [hstate, hupdate] at hstage
    rw [hupdate] at hwanted hattempts
    exact .advances hstage hwanted hattempts (hsub.trans hsubscriber) (hkept.trans hprospects)
  | fails hupdates hafter hwanted hattempts hkept hupdated =>
    rw [hstate] at hupdates hattempts
    rw [hupdate] at hwanted hattempts
    rw [hsubscriber] at hupdated
    rw [hprospects] at hkept
    exact .fails hupdates hafter hwanted hattempts hkept hupdated

end Tries

/-! ## Starting and trying -/

theorem updates_of_idle {s : Station} (h : s.machine.state = .idle) :
    s.machine.state.updates = false := by
  rw [h]
  rfl

/-- A wanted location update is left wanted where its request cannot be written, is asked for, or is
given up where the cell does not allow it. -/
theorem tryUpdate_cases {s : Station} (h : s.update.wanted = true) :
    s.tryUpdate.station = s ∨
      (s.tryUpdate.station.machine.state = .waitForRadioLocationUpdate ∧
        s.tryUpdate.station.update = s.update ∧
        s.tryUpdate.station.subscriber = s.subscriber ∧
        s.tryUpdate.station.prospects = s.prospects) ∨
      s.tryUpdate.station = { s with update.wanted := false } := by
  rw [tryUpdate, if_neg (by simp [h])]
  unfold requestUpdate
  -- The request is not allowed, cannot be written, or is made.
  split
  · split
    · exact .inl rfl
    · refine .inr (.inl ⟨by simp [sendRr, send], by simp [sendRr, send], by simp [sendRr, send], ?_⟩)
      exact (prospects_of_frame rfl rfl).trans (s.prospects_enter _ _)
  · exact .inr (.inr rfl)

theorem tries_tryUpdate {s : Station} (hidle : s.machine.state = .idle) {i : Input}
    (hretry : i.isRetry = true) : Tries s i s.tryUpdate.station := by
  cases hwanted : s.update.wanted with
  | false =>
    have hdone : s.tryUpdate = .done s := if_pos (by simp [hwanted])
    rw [hdone]
    exact .refl s
  | true =>
    rcases tryUpdate_cases hwanted with hsame | ⟨hstate, hupdate, hsub, hkept⟩ | hdropped
    · rw [hsame]
      exact .refl s
    · exact .retries hretry hstate hwanted hupdate hsub hkept
    · rw [hdropped]
      exact .drops (.inl hretry) rfl (updates_of_idle hidle) rfl (.of_kept rfl id)

theorem tries_startUpdate {s : Station} (hidle : s.machine.state = .idle) (hactive : ¬ s.Resigned)
    (i : Input) (kind : UpdateKind) : Tries s i (s.startUpdate kind).station := by
  cases hwanted : s.update.wanted with
  | true =>
    have hdone : s.startUpdate kind = .done s := if_pos hwanted
    rw [hdone]
    exact .refl s
  | false =>
    let fresh : Station :=
      { s with
        update :=
          { s.update with wanted := true, kind := kind, attempts := 0, accessFailed := false } }
    have hstarted : s.startUpdate kind = fresh.tryUpdate := if_neg (by simp [hwanted])
    rw [hstarted]
    rcases tryUpdate_cases (s := fresh) rfl with hsame | ⟨hstate, hupdate, _, hkept⟩ | hdropped
    · -- The request cannot be written: the update is wanted, and nothing is sent.
      rw [hsame]
      exact .starts hwanted hactive rfl (.inr hidle) ⟨rfl, rfl⟩ rfl
    · refine .starts hwanted hactive ?_ (.inl hstate) ⟨?_, ?_⟩ hkept
      · rw [hupdate]
      · rw [hupdate]
      · rw [hupdate]
    · rw [hdropped]
      exact .drops (.inr (.inr ⟨hwanted, hactive⟩)) rfl (updates_of_idle hidle) rfl
        (.of_cleared rfl)

theorem tries_selectCell {s : Station} (hidle : s.machine.state = .idle) (e : Event) :
    Tries s (.event e) s.selectCell.station := by
  have hreturned : Calm false s s.returnIdle := .returnIdle s
  cases hsim : s.subscriber.simValid with
  | false =>
    -- Without a usable SIM the substate is one in which nothing is started.
    have hsubstate : s.returnIdle.machine.substate = some .noImsi := by
      rw [StateMachine.substate, if_pos (by simp), lastSubstate_returnIdle]
      simp [idleSubstate, hsim]
    have hdone : s.selectCell = .done s.returnIdle := by
      simp only [selectCell, hsubstate]
    rw [hdone]
    exact .of_calm hreturned
  | true =>
    rcases s.selectCell_cases with hcase | hcase <;> rw [hcase]
    · have hactive : ¬ s.returnIdle.Resigned := by
        intro h
        have hnone := h.sim
        simp [hsim] at hnone
      refine (tries_startUpdate (by simp) hactive _ _).after hreturned (by simp) ?_ ?_ ?_
      · simp [hidle]
      · simp [hsim]
      · simp
    · exact .of_calm hreturned

/-! ## Stages and failures -/

theorem tries_beginUpdate {s : Station} (h : s.machine.state = .waitForRadioLocationUpdate)
    (i : Input) : Tries s i s.beginUpdate.station := by
  refine .advances (.inl ⟨h, ?_, ?_⟩) ?_ ?_ ?_ ?_
  · simp [beginUpdate]
  · simp [beginUpdate, startTimer]
  · simp [beginUpdate, startTimer]
  · simp [beginUpdate, startTimer]
  · simp [beginUpdate, startTimer]
  · exact (prospects_enter _ _ _).trans (prospects_startTimer rfl _)

/-- The return to the idle state keeps a wanted update, or gives it up for want of a usable SIM. -/
theorem wanted_returnIdle (s : Station) :
    s.returnIdle.update.wanted = s.update.wanted ∨ s.returnIdle.Resigned := by
  have hspares : Spares false s s.returnIdle := .returnIdle s
  cases hafter : s.returnIdle.update.wanted with
  | true => exact .inl (hspares.wanted hafter).symm
  | false =>
    cases hbefore : s.update.wanted with
    | true => exact .inr (hspares.lost hbefore hafter)
    | false => exact .inl rfl

theorem prospects_countAttempt (s : Station) (name : TimerName) (h : name.isRetry = false) :
    (s.stopTimer name).countAttempt.prospects = s.prospects := by
  refine Eq.trans ?_ (prospects_stopTimer (s := s) h)
  exact prospects_of_frame (by simp) (by simp)

/-- After a failed attempt that was not the last one T3211 is started. -/
theorem failUpdate_again {s : Station}
    (h : s.update.attempts + 1 < LocationUpdate.maxAttempts) :
    ∃ (t : Station) (seconds : Nat),
      s.failUpdate.station = (t.startTimer .t3211 seconds).returnIdle ∧
        t.update = { s.update with attempts := s.update.attempts + 1 } ∧
        t.prospects = s.prospects ∧
        (t.subscriber.isUpdated = true → s.subscriber.isUpdated = true) := by
  let counted := (s.stopTimer .t3210).countAttempt
  have hcounted : counted.update = { s.update with attempts := s.update.attempts + 1 } := by
    have hleft : (s.stopTimer .t3210).update.attempts < LocationUpdate.maxAttempts :=
      Nat.lt_of_succ_lt h
    simp only [counted, countAttempt, if_pos hleft]
    rfl
  have hsubscriber : counted.subscriber = s.subscriber := by simp [counted, stopTimer]
  -- What becomes of the registration does not touch the attempts, so both ways go on alike.
  let kept :=
    if counted.stillRegistered && counted.update.attempts < LocationUpdate.maxAttempts then counted
    else counted.deregister .notUpdated
  have hkept : kept.update = counted.update ∧ kept.prospects = counted.prospects ∧
      (kept.subscriber.isUpdated = true → counted.subscriber.isUpdated = true) := by
    simp only [kept]
    split
    · exact ⟨rfl, rfl, id⟩
    · refine ⟨rfl, rfl, ?_⟩
      intro hupdated
      cases hupdated
  obtain ⟨hsame, hopen, hupdated⟩ := hkept
  refine ⟨kept, kept.config.timers.t3211.toNat, ?_, hsame.trans hcounted,
    hopen.trans (s.prospects_countAttempt _ rfl), hsubscriber ▸ hupdated⟩
  show kept.retryLater.returnIdle = _
  rw [retryLater, if_pos (by rw [hsame, hcounted]; exact h)]

/-- After the last attempt the location update is given up, and so is the registration. -/
theorem failUpdate_last {s : Station}
    (h : ¬ s.update.attempts + 1 < LocationUpdate.maxAttempts) :
    ∃ t : Station, s.failUpdate.station = t.returnIdle ∧ t.update.wanted = false ∧
      (s.update.attempts ≤ LocationUpdate.maxAttempts →
        t.update.attempts ≤ LocationUpdate.maxAttempts) ∧
      t.subscriber.isUpdated = false ∧ t.prospects = s.prospects := by
  let counted := (s.stopTimer .t3210).countAttempt
  have hspent : ¬ counted.update.attempts < LocationUpdate.maxAttempts ∧
      (s.update.attempts ≤ LocationUpdate.maxAttempts →
        counted.update.attempts ≤ LocationUpdate.maxAttempts) := by
    simp only [counted, countAttempt]
    split
    · exact ⟨h, fun _ => by assumption⟩
    · exact ⟨by assumption, id⟩
  let given := counted.deregister .notUpdated
  refine ⟨{ given with update.wanted := false }, ?_, rfl, hspent.2, rfl,
    s.prospects_countAttempt .t3210 rfl⟩
  -- The registration is given up as well when no attempt is left, even in the last registered area.
  have hgiven : (if counted.stillRegistered && counted.update.attempts <
      LocationUpdate.maxAttempts then counted else given) = given :=
    if_neg (by simp [hspent.1])
  have hdropped : given.retryLater = { given with update.wanted := false } := if_neg hspent.1
  rw [← hdropped, ← hgiven]
  rfl

/-- A failed attempt is counted, and will be followed by another one, or was the last one. -/
theorem tries_failUpdate {s u : Station} (hupdates : s.machine.state.updates = true)
    (hwanted : u.update.wanted = s.update.wanted)
    (hattempts : u.update.attempts = s.update.attempts)
    (hsubscriber : u.subscriber = s.subscriber) (hprospects : u.prospects = s.prospects)
    (i : Input) : Tries s i u.failUpdate.station := by
  by_cases hleft : u.update.attempts + 1 < LocationUpdate.maxAttempts
  · -- T3211 is at most one more prospect of a retry: it may have been running already.
    obtain ⟨t, seconds, hfailed, hupdate, hkept, hupdated⟩ := failUpdate_again hleft
    have hspares : Spares false (t.startTimer .t3211 seconds)
        (t.startTimer .t3211 seconds).returnIdle := .returnIdle _
    have hspent : (t.startTimer .t3211 seconds).update.attempts = s.update.attempts + 1 := by
      show t.update.attempts = _
      rw [hupdate, hattempts]
    rw [hfailed]
    refine .fails hupdates (by simp) ?_ (.inr ⟨?_, ?_⟩) ?_ ?_
    · have hwant : (t.startTimer .t3211 seconds).update.wanted = s.update.wanted := by
        show t.update.wanted = _
        rw [hupdate, hwanted]
      rw [← hwant]
      exact wanted_returnIdle _
    · simp [hspent]
    · simp only [returnIdle_frame, hspent, ← hattempts]
      exact hleft
    · rw [prospects_returnIdle, ← hprospects, ← hkept]
      exact t.prospects_startTimer_le _ _
    · intro h
      rw [← hsubscriber]
      exact hupdated (hspares.updated h)
  · obtain ⟨t, hfailed, hgone, hbounded, hforgotten, hkept⟩ := failUpdate_last hleft
    rw [hfailed]
    refine .drops (.inr (.inl hupdates)) (by simp [hgone]) (by simp [MainState.updates])
      (t.prospects_returnIdle.trans (hkept.trans hprospects)) ⟨?_, ?_⟩
    · intro hmax
      simpa using hbounded (hattempts ▸ hmax)
    · intro _ hupdated
      simp [hforgotten] at hupdated

/-- The first random access failure delays the update, and any other loss of the link is a failed
attempt. -/
theorem tries_loseUpdateLink {s : Station} (hupdates : s.machine.state.updates = true)
    (hother : s.machine.state ≠ .locationUpdatingReject) (p : RrPrimitive) (i : Input) :
    Tries s i (s.loseUpdateLink p).station := by
  simp only [loseUpdateLink]
  split
  · next haccess =>
    -- The attempt is not counted, but the flag is set: this happens once for each attempt.
    let delayed := { s with update.accessFailed := true }.startTimer .t3213
      s.config.timers.t3213.toNat
    have hspares : Spares false delayed delayed.returnIdle := .returnIdle delayed
    have hfirst : s.update.accessFailed = false := by simpa using haccess.2
    refine .fails hupdates ?_ delayed.wanted_returnIdle (.inl ⟨hother, ?_, hfirst, ?_⟩) ?_
      hspares.updated
    · simp
    · simp [startTimer]
    · exact hspares.accessFailed
    · exact (Nat.le_of_eq delayed.prospects_returnIdle).trans (prospects_startTimer_le _ _ _)
  · let cleared := { s with update.accessFailed := false }
    exact tries_failUpdate (u := cleared) hupdates rfl rfl rfl rfl i

theorem tries_timeoutUpdate (s : Station) (i : Input) : Tries s i s.timeoutUpdate.station := by
  unfold timeoutUpdate
  split
  · next h =>
    have hupdates : s.machine.state.updates = true := by rw [h.2]; rfl
    let aborted := s.sendRr (.abort RrCause.timerAbort)
    exact tries_failUpdate (u := aborted) hupdates rfl rfl rfl rfl i
  · exact .refl s

/-- Acting upon a final cause keeps the attempts or clears them, and forgets the registration. -/
theorem rejectFinally_counts (s : Station) (cause : RejectCause) :
    Counts s (s.rejectFinally cause) ∧ (s.rejectFinally cause).subscriber.isUpdated = false := by
  have hforbid (u : Subscriber) (plmn : Plmn) : (u.forbid plmn).isUpdated = u.isUpdated := by
    unfold Subscriber.forbid
    split <;> rfl
  have hforgotten : (s.rejectFinally cause).subscriber.isUpdated = false := by
    unfold rejectFinally forbidRejected
    split
    · exact (hforbid _ _).trans rfl
    · split <;> rfl
  -- The attempts are cleared or kept. After a reject the station is not updated, so the second part
  -- has nothing to say.
  refine ⟨⟨?_, ?_⟩, hforgotten⟩
  · have hkept (u : Station) : (u.forbidRejected cause).update = u.update := by
      unfold forbidRejected
      split
      · rfl
      · split <;> rfl
    intro hmax
    rw [rejectFinally, hkept]
    show (s.rejectIdentity cause).update.attempts ≤ _
    unfold rejectIdentity
    split
    · exact Nat.zero_le _
    · exact hmax
  · intro _ hupdated
    rw [hforgotten] at hupdated
    cases hupdated

/-- A final cause ends the update, and any other one is a failed attempt. -/
theorem tries_completeReject {s : Station} (hupdates : s.machine.state.updates = true) (i : Input) :
    Tries s i s.completeReject.station := by
  simp only [completeReject]
  split
  · let rejected := s.rejectFinally s.update.rejectCause
    obtain ⟨⟨hbounded, _⟩, hforgotten⟩ := s.rejectFinally_counts s.update.rejectCause
    have hkept : rejected.prospects = s.prospects := by
      refine prospects_of_frame ?_ ?_
      · simp [rejected, rejectFinally, send, deregister]
      · simp [rejected, rejectFinally, send, deregister]
    -- The causes that end the update. The wish is dropped when they have been acted upon, and only
    -- then does the station return to the idle state.
    let given := { rejected with update.wanted := false }
    have hspares : Spares false given given.returnIdle := .returnIdle given
    show Tries s i given.returnIdle
    refine .drops (.inr (.inl hupdates)) ?_ ?_ (given.prospects_returnIdle.trans hkept) ⟨?_, ?_⟩
    · simp [given]
    · simp [MainState.updates]
    · intro hmax
      have hsame : given.returnIdle.update.attempts = rejected.update.attempts := by simp [given]
      rw [hsame]
      exact hbounded hmax
    · intro _ hupdated
      exact absurd ((hspares.updated hupdated).symm.trans hforgotten) (by decide)
  · let told := s.send (.plmnSearch (rejectEvent s.update.rejectCause))
    exact tries_failUpdate (u := told) hupdates rfl rfl rfl rfl i

/-! ## Answers of the network -/

/-- The timers that an answer stops are no retry timers. -/
theorem prospects_stopTimers (s : Station) :
    ((s.stopTimer .t3212).stopTimer .t3210).prospects = s.prospects := by
  have hfirst : (s.stopTimer .t3212).prospects = s.prospects := prospects_stopTimer rfl
  exact Eq.trans (prospects_stopTimer rfl) hfirst

/-- An accept ends the update. Its acknowledgement can always be written. -/
theorem tries_receiveUpdateAccept {s : Station}
    (hstate : s.machine.state = .locationUpdatingInitiated) (body : Octets) (i : Input) :
    Tries s i (s.receiveUpdateAccept body).station := by
  have hupdates : s.machine.state.updates = true := by rw [hstate]; rfl
  unfold receiveUpdateAccept
  split
  · exact .refl s
  · next accept _ =>
    let registered := ((s.stopTimer .t3212).stopTimer .t3210).registerIn accept.lai
    -- The new identity is taken before anything is answered, and taking it never fails.
    have hwritten : (registered.applyAcceptedIdentity accept.identity).failure = none := by
      unfold applyAcceptedIdentity
      split <;> rfl
    let known := (registered.applyAcceptedIdentity accept.identity).station
    obtain ⟨_, _, hupdate, htimers, hqueues⟩ :=
      registered.applyAcceptedIdentity_frame accept.identity
    let told := (known.send (.plmnSearch .registered)).send (.registration .registerConfirm)
    have hafter : told.awaitNetwork.update = registered.update := by
      rw [← hupdate]
      simp [awaitNetwork, startReleaseTimer, startTimer, told, known, send]
    have hkept : told.awaitNetwork.prospects = s.prospects := by
      have hcalm : Calm false told told.awaitNetwork := told.calm_awaitNetwork
      refine hcalm.spares.prospects.trans ((prospects_of_frame htimers hqueues).trans ?_)
      exact s.prospects_stopTimers
    show Tries s i ((registered.applyAcceptedIdentity accept.identity).andThen _).station
    simp only [Outcome.andThen, hwritten]
    show Tries s i told.awaitNetwork
    refine .drops (.inr (.inl hupdates)) ?_ ?_ hkept (.of_cleared ?_)
    · rw [hafter]
      rfl
    · simp [awaitNetwork, MainState.updates]
    · rw [hafter]
      rfl

theorem tries_receiveUpdateReject {s : Station}
    (hstate : s.machine.state = .locationUpdatingInitiated) (body : Octets) (i : Input) :
    Tries s i (s.receiveUpdateReject body).station := by
  unfold receiveUpdateReject
  split
  · exact .refl s
  · refine .advances (.inr ⟨hstate, ?_⟩) ?_ ?_ ?_ ?_
    · simp
    · simp [startReleaseTimer, startTimer, stopTimer]
    · simp [startReleaseTimer, startTimer, stopTimer]
    · simp [startReleaseTimer, startTimer, stopTimer]
    · refine (prospects_enter _ _ _).trans ((prospects_startTimer rfl _).trans ?_)
      exact s.prospects_stopTimers

/-! ## Inputs -/

theorem tries_receiveMessage (s : Station) (data : Octets) {i : Input} (hcm : ∀ p, i ≠ .cm p) :
    Tries s i (s.receiveMessage data).station := by
  rcases s.calm_receiveMessage data with hcalm | ⟨procedure, body, hother, hstate, heq⟩
  · exact .of_calm hcalm
  · -- The two procedures that are about an update run only while the network is to answer.
    have hinitiated : s.machine.state = .locationUpdatingInitiated := by
      cases procedure <;> first | exact List.mem_singleton.mp hstate | cases hother
    have hcontact : s.noteContact.machine.state = .locationUpdatingInitiated := by
      rw [s.noteContact_frame.1, hinitiated]
    rw [heq]
    refine Tries.after ?_ s.calm_noteContact hcm (by simp) (by simp) (by simp)
    cases procedure with
    | receiveUpdateAccept => exact tries_receiveUpdateAccept hcontact body i
    | receiveUpdateReject => exact tries_receiveUpdateReject hcontact body i
    | _ => cases hother

theorem tries_rrProcedure {s : Station} {p : RrPrimitive} {procedure : RrProcedure}
    (h : s.machine.rrProcedure? p = some procedure) :
    Tries s (.rr p) (procedure.run s p).station := by
  have hstate := state_mem_of_rrProcedure? h
  cases hcalm : procedure.isCalm with
  | true => exact .of_calm (s.calm_rrProcedure p hcalm)
  | false =>
    -- What concerns the update is only found in the states of an update.
    have hupdates : (∀ state ∈ procedure.states, state.updates = true) →
        s.machine.state.updates = true := fun hall => hall _ hstate
    cases procedure with
    | beginUpdate => exact tries_beginUpdate (List.mem_singleton.mp hstate) _
    | loseUpdateLink =>
      refine tries_loseUpdateLink (hupdates (by decide)) ?_ p _
      intro hreject
      rw [hreject] at hstate
      revert hstate
      decide
    | completeReject => exact tries_completeReject (hupdates (by decide)) _
    | receiveMessage => exact s.tries_receiveMessage p.payload (by simp)
    | _ => cases hcalm

/-- A new location update is started only where the station has not given up updating. -/
theorem not_resigned_of_startUpdate {s : Station} {e : Event} {procedure : EventProcedure}
    (h : s.machine.eventProcedure? e = some procedure)
    (hupdate : procedure = .normalUpdate ∨ procedure = .periodicUpdate) :
    s.machine.state = .idle ∧ ¬ s.Resigned := by
  obtain ⟨hidle, hsubstate⟩ := idle_of_startUpdate h hupdate
  have hstate : s.machine.state = .idle := of_decide_eq_true hidle
  refine ⟨hstate, ?_⟩
  intro hresigned
  rw [hresigned.substate hstate] at hsubstate
  cases hsubstate

theorem spares_applySystemInformation (s : Station) (info : SystemInformation) (chance : Nat) :
    Spares false s (s.applySystemInformation info chance) := by
  refine .of_frame (by simp) (by simp) (s.prospects_applySystemInformation info chance) ?_
  simp only [applySystemInformation, changePeriodicInterval]
  split
  · split
    · split <;> exact ⟨id, id⟩
    · exact ⟨id, id⟩
  · split <;> exact ⟨id, id⟩

theorem tries_eventProcedure {s : Station} {e : Event} {procedure : EventProcedure}
    (h : s.machine.eventProcedure? e = some procedure) :
    Tries s (.event e) (procedure.run s e).station := by
  have hstate := state_mem_of_eventProcedure? h
  have htag := tag_mem_of_eventProcedure? h
  cases hcalm : procedure.isCalm with
  | true => exact .of_calm (s.calm_eventProcedure e hcalm)
  | false =>
    cases procedure with
    | normalUpdate =>
      obtain ⟨hidle, hactive⟩ := not_resigned_of_startUpdate h (.inl rfl)
      exact tries_startUpdate hidle hactive _ _
    | periodicUpdate =>
      obtain ⟨hidle, hactive⟩ := not_resigned_of_startUpdate h (.inr rfl)
      exact tries_startUpdate hidle hactive _ _
    | tryUpdate =>
      refine tries_tryUpdate (List.mem_singleton.mp hstate) ?_
      cases e with
      | timeout timer =>
        -- Of all expiries only those of the retry timers try the update again.
        have hretry : timer = .t3211 ∨ timer = .t3213 := by
          simpa [Event.tag, EventProcedure.tags] using htag
        rcases hretry with rfl | rfl <;> rfl
      | _ => simp [Event.tag, EventProcedure.tags] at htag
    | timeoutUpdate => exact s.tries_timeoutUpdate _
    | selectCell => exact tries_selectCell (List.mem_singleton.mp hstate) e
    | applySystemInformation =>
      cases e with
      | systemInformation info chance =>
        exact .of_spares (s.spares_applySystemInformation info chance)
      | _ => exact .refl s
    | _ => cases hcalm

/-- What the handling of an input does to a location update. -/
theorem handle_tries (s : Station) (i : Input) : Tries s i (s.handle i).station := by
  cases i with
  | cm p =>
    have hnamed : Calm false s (s.updateTransaction p) := .of_frame rfl rfl rfl
    simp only [handle, handleCm]
    split
    · next procedure hprocedure =>
      have hcalm : Calm procedure.requests s (procedure.run (s.updateTransaction p) p).station :=
        (calm_cmProcedure _ p procedure).after rfl rfl rfl
      refine .spares procedure.requests ?_ hcalm.spares
      intro hrequests
      -- The transaction is written before the rule is looked up, and the rule does not depend on
      -- it.
      have hfound : s.machine.cmProcedure? p = some procedure := hprocedure
      rw [asksService, hfound]
      exact hrequests
    · exact .of_calm hnamed
  | registration p => cases p <;> exact .of_calm (.of_frame rfl rfl rfl)
  | rr p =>
    simp only [handle, handleRr]
    split
    · next procedure hprocedure => exact tries_rrProcedure hprocedure
    · exact .refl s
  | message data => exact s.tries_receiveMessage data (by simp)
  | event e =>
    simp only [handle, handleEvent]
    split
    · next procedure hprocedure => exact tries_eventProcedure hprocedure
    · exact .refl s

end Station

end MobileStation
