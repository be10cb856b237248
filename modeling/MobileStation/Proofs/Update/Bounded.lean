import MobileStation.Proofs.Registration.Request
import MobileStation.Proofs.Update.Attempts

/-!
# Location updates are not tried for ever

A location update that fails is tried again, but every failure costs an attempt, but for the first
random access failure in a row. No retry timer is running while an update is under way, so that no
failure is answered by more than one request; what is left of the attempts bounds the requests that
can still be made.

The bound is eight because an attempt is worth two requests: `requestsLeft` counts them by the stage
of the update. It goes down with each request, and nothing adds to it but what starts an update or
clears the attempts.

Main statements: `givesUpInTime_perform_iff` (what preserves the bound of the attempts),
`retriesInTurn_perform` (retries come one at a time), `requestsLeft_perform` (each request takes
from what is left) and `updates_bounded`.
-/

namespace MobileStation

namespace Station

/-! ## The count of the attempts -/

namespace Tries

variable {s t : Station} {i : Input}

theorem counts (h : Tries s i t) : Counts s t := by
  -- Only a failure adds to the attempts. The last one is among the cases in which the update is
  -- dropped.
  cases h with
  | spares resets _ h =>
    rcases h.attempts with hkept | ⟨_, hzero⟩
    · exact .of_kept hkept h.updated
    · exact .of_cleared hzero
  | drops _ _ _ _ hcounts => exact hcounts
  | starts _ _ _ _ hfresh _ => exact .of_cleared hfresh.1
  | retries _ _ _ hupdate hsubscriber _ =>
    exact .of_kept (by rw [hupdate]) (by rw [hsubscriber]; exact id)
  | advances _ _ hattempts hsubscriber _ =>
    exact .of_kept hattempts (by rw [hsubscriber]; exact id)
  | fails _ _ _ hattempts _ hupdated =>
    rcases hattempts with ⟨_, hkept, _⟩ | ⟨_, hleft⟩
    · exact .of_kept hkept hupdated
    · exact ⟨fun _ => Nat.le_of_lt hleft, fun hspent _ => by omega⟩

/-- An update that is wanted has attempts left. -/
theorem left (h : Tries s i t)
    (hs : s.update.wanted = true → s.update.attempts < LocationUpdate.maxAttempts) :
    t.update.wanted = true → t.update.attempts < LocationUpdate.maxAttempts := by
  intro hwanted
  cases h with
  | spares resets _ h =>
    rcases h.attempts with hkept | ⟨_, hzero⟩
    · rw [hkept]
      exact hs (h.wanted hwanted)
    · rw [hzero]
      decide
  | drops _ hgone _ _ _ =>
    rw [hgone] at hwanted
    cases hwanted
  | starts _ _ _ _ hfresh _ =>
    rw [hfresh.1]
    decide
  | retries _ _ hbefore hupdate _ _ =>
    rw [hupdate]
    exact hs hbefore
  | advances _ hkept hattempts _ _ =>
    rw [hattempts]
    exact hs (hkept ▸ hwanted)
  -- The wish outlives a failure only while there is another attempt.
  | fails _ _ hkept hattempts _ _ =>
    rcases hattempts with ⟨_, hsame, _⟩ | ⟨_, hleft⟩
    · rcases hkept with hkept | hresigned
      · rw [hsame]
        exact hs (hkept ▸ hwanted)
      · rw [hresigned.unwanted] at hwanted
        cases hwanted
    · exact hleft

end Tries

/-- The action clears the attempts: a service is asked for, or T3212 runs out while the station is
attempting to update. -/
def resetsAttempts (s : Station) : Action → Bool
  | .tick now =>
    .t3212 ∈ s.timers.due now && s.machine.substate = some .attemptingToUpdate
  | a => (a.handled? s).any fun r => r.1.asksService r.2

theorem resetsAttempts_of_handled {s t : Station} {a : Action} {i : Input}
    (h : a.handled? s = some (t, i)) : s.resetsAttempts a = t.asksService i := by
  cases a with
  | tick now => cases h
  | _ => simp only [resetsAttempts, h, Option.any_some]

theorem update_foldl_expire (s : Station) (due : List TimerName) :
    (due.foldl expire s).update =
      if .t3212 ∈ due ∧ s.machine.substate = some .attemptingToUpdate then
        { s.update with attempts := 0 }
      else s.update := by
  induction due generalizing s with
  | nil => simp
  | cons timer rest ih =>
    rw [List.foldl_cons, ih, (s.expire_frame timer).1]
    by_cases hsubstate : s.machine.substate = some .attemptingToUpdate
    · by_cases htimer : timer = .t3212
      · simp [expire, hsubstate, htimer, queueEvent]
      · simp [expire, hsubstate, htimer, queueEvent, Ne.symm htimer]
    · simp [expire, hsubstate, queueEvent]

/-- An action that handles nothing leaves the update alone, or clears the attempts. -/
theorem update_of_not_handled {s : Station} {a : Action} (h : a.handled? s = none) :
    (s.perform a).update = s.update ∨
      s.resetsAttempts a = true ∧ (s.perform a).update = { s.update with attempts := 0 } := by
  cases a with
  | handle input => cases h
  | queue input => exact .inl (by simp [perform])
  | serve =>
    rw [perform_serve_of_not_handled h]
    exact .inl rfl
  -- T3212 is the only timer whose expiry is acted upon before it is handled.
  | tick now =>
    have htick : (s.tick now).update = _ := update_foldl_expire _ _
    by_cases hresets : .t3212 ∈ s.timers.due now ∧ s.machine.substate = some .attemptingToUpdate
    · exact .inr ⟨by simpa [resetsAttempts] using hresets, htick.trans (if_pos hresets)⟩
    · exact .inl (htick.trans (if_neg hresets))
  | _ => exact .inl rfl

/-- The action writes that the subscriber is updated, while there are no attempts left. -/
def registersExhausted (s : Station) : Action → Bool
  | .subscriber subscriber =>
    s.update.attempts = LocationUpdate.maxAttempts && subscriber.isUpdated
  | _ => false

theorem counts_perform {s : Station} {a : Action} (h : s.registersExhausted a = false) :
    Counts s (s.perform a) := by
  cases hhandled : a.handled? s with
  | some r =>
    obtain ⟨t, i⟩ := r
    have hqueues := queues_of_handled hhandled
    rw [perform_of_handled hhandled]
    exact (t.handle_tries i).counts.of_frame (by rw [hqueues]) (by rw [hqueues])
  | none =>
    rcases update_of_not_handled hhandled with hsame | ⟨_, hcleared⟩
    · refine ⟨by rw [hsame]; exact id, ?_⟩
      intro hspent hupdated
      rw [hsame] at hspent
      refine ⟨hspent, ?_⟩
      -- Without an input only a write can make the station updated, and the hypothesis is about
      -- this write.
      by_cases hwrites : ∃ u, a = .subscriber u
      · obtain ⟨u, rfl⟩ := hwrites
        have hregisters : s.registersExhausted (.subscriber u) = true := by
          rw [registersExhausted, Bool.and_eq_true, decide_eq_true_eq]
          exact ⟨hspent, hupdated⟩
        exact absurd (hregisters.symm.trans h) (by decide)
      · rwa [subscriber_of_not_handled hhandled fun u heq => hwrites ⟨u, heq⟩] at hupdated
    · exact .of_cleared (by rw [hcleared])

/-- The attempts stay within their bound, and an update that is wanted has some left. -/
structure AttemptsBounded (s : Station) : Prop where
  bounded : s.update.attempts ≤ LocationUpdate.maxAttempts
  left : s.update.wanted = true → s.update.attempts < LocationUpdate.maxAttempts

/-- Whatever happens, the attempts stay bounded. -/
theorem attemptsBounded_perform {s : Station} (a : Action) (h : s.AttemptsBounded) :
    (s.perform a).AttemptsBounded := by
  cases hhandled : a.handled? s with
  | some r =>
    obtain ⟨t, i⟩ := r
    have hupdate : t.update = s.update := by rw [queues_of_handled hhandled]
    have htries := t.handle_tries i
    obtain ⟨hbounded, hleft⟩ := h
    rw [← hupdate] at hbounded hleft
    rw [perform_of_handled hhandled]
    exact ⟨htries.counts.bounded hbounded, htries.left hleft⟩
  | none =>
    rcases update_of_not_handled hhandled with hsame | ⟨_, hcleared⟩
    · obtain ⟨hbounded, hleft⟩ := h
      rw [← hsame] at hbounded hleft
      exact ⟨hbounded, hleft⟩
    -- With the attempts cleared there is nothing to show.
    · have hzero : (s.perform a).update.attempts = 0 := by rw [hcleared]
      exact ⟨by omega, fun _ => hzero ▸ (by decide)⟩

/-- With no attempts left the station is not updated, and wants no location update. -/
def GivesUpInTime (s : Station) : Prop :=
  s.update.attempts ≤ LocationUpdate.maxAttempts ∧
    (s.update.attempts = LocationUpdate.maxAttempts →
      s.subscriber.status ≠ .updated ∧ s.update.wanted = false)

theorem givesUpInTime_iff {s : Station} (h : s.AttemptsBounded) :
    s.GivesUpInTime ↔
      (s.update.attempts = LocationUpdate.maxAttempts → s.subscriber.status ≠ .updated) := by
  constructor
  · intro hs hspent
    exact (hs.2 hspent).1
  · intro hs
    refine ⟨h.bounded, fun hspent => ⟨hs hspent, ?_⟩⟩
    cases hwanted : s.update.wanted with
    | false => rfl
    | true =>
      have hleft := h.left hwanted
      omega

/-- Exactly a write that makes a station updated which has no attempts left breaks the rule. -/
theorem givesUpInTime_perform_iff {s : Station} {a : Action} (hbounded : s.AttemptsBounded)
    (h : s.GivesUpInTime) : (s.perform a).GivesUpInTime ↔ s.registersExhausted a = false := by
  -- The bound itself always holds, so only the status of the subscriber is in question.
  rw [givesUpInTime_iff (attemptsBounded_perform a hbounded)]
  rw [givesUpInTime_iff hbounded] at h
  constructor
  · intro hafter
    cases a with
    | subscriber subscriber =>
      by_contra hregisters
      rw [Bool.not_eq_false, registersExhausted, Bool.and_eq_true, decide_eq_true_eq] at hregisters
      exact hafter hregisters.1 (of_decide_eq_true hregisters.2)
    | _ => rfl
  · intro hother hspent hstatus
    obtain ⟨hbefore, hupdated⟩ := (counts_perform hother).exhausted hspent (decide_eq_true hstatus)
    exact h hbefore (of_decide_eq_true hupdated)

theorem givesUpInTime_throughout_iff (config : Config) (subscriber : Subscriber)
    (actions : List Action) :
    Throughout GivesUpInTime (ofSubscriber config subscriber) actions ↔
      EveryStep (fun s a => s.registersExhausted a = false) (ofSubscriber config subscriber)
        actions := by
  have hinit : (ofSubscriber config subscriber).AttemptsBounded := ⟨Nat.zero_le _, nofun⟩
  refine throughout_iff_everyStep (fun s a => attemptsBounded_perform a) ?_ hinit ?_
  · intro s a _ hbounded h
    exact givesUpInTime_perform_iff hbounded h
  · exact ⟨Nat.zero_le _, nofun⟩

/-! ## Retries one at a time -/

/-- Retries come one at a time: none is in prospect while a location update is under way, and where
one is, the update is wanted or will not be started again. -/
structure RetriesInTurn (s : Station) : Prop where
  single : s.prospects ≤ 1
  apart : s.machine.state.updates = true → s.prospects = 0 ∧ s.update.wanted = true
  useful : s.prospects ≠ 0 → s.update.wanted = true ∨ s.Resigned

/-- An input that may decide about the update finds no other retry in prospect. -/
theorem RetriesInTurn.prospects_eq_zero {s : Station} {i : Input} (h : s.RetriesInTurn)
    (hretry : i.isRetry = true → s.prospects = 0) (hturn : s.HasTurn i) : s.prospects = 0 := by
  rcases hturn with hbrings | hupdates | ⟨hunwanted, hactive⟩
  · exact hretry hbrings
  · exact (h.apart hupdates).1
  · by_contra hopen
    rcases h.useful hopen with hwanted | hresigned
    · rw [hunwanted] at hwanted
      cases hwanted
    · exact hactive hresigned

theorem Tries.retriesInTurn {s t : Station} {i : Input} (h : Tries s i t) (hs : s.RetriesInTurn)
    (hretry : i.isRetry = true → s.prospects = 0) : t.RetriesInTurn := by
  cases h with
  | spares resets _ h =>
    refine ⟨by rw [h.prospects]; exact hs.single, ?_, ?_⟩
    · intro hupdates
      obtain ⟨hstate, hkept⟩ := h.stage hupdates
      rw [h.prospects, hkept]
      exact hs.apart (hstate ▸ hupdates)
    · intro hopen
      -- An update that was wanted may have been lost with the SIM. Its retry is then of no use.
      rw [h.prospects] at hopen
      rcases hs.useful hopen with hwanted | hresigned
      · cases hafter : t.update.wanted with
        | true => exact .inl rfl
        | false => exact .inr (h.lost hwanted hafter)
      · exact .inr (h.resigned hresigned)
  | drops hturn _ hstate hprospects _ =>
    have hnone := hprospects.trans (hs.prospects_eq_zero hretry hturn)
    exact ⟨by omega, fun h => absurd h (by simp [hstate]), fun h => absurd hnone h⟩
  | starts hunwanted hactive hwanted _ _ hprospects =>
    have hnone := hprospects.trans (hs.prospects_eq_zero hretry (.inr (.inr ⟨hunwanted, hactive⟩)))
    exact ⟨by omega, fun _ => ⟨hnone, hwanted⟩, fun h => absurd hnone h⟩
  | retries hbrings _ hwanted hupdate _ hprospects =>
    have hnone := hprospects.trans (hretry hbrings)
    exact ⟨by omega, fun _ => ⟨hnone, hupdate ▸ hwanted⟩, fun h => absurd hnone h⟩
  | advances hstage hwanted _ _ hprospects =>
    have hupdates : s.machine.state.updates = true := by
      rcases hstage with ⟨hstate, _⟩ | ⟨hstate, _⟩ <;> rw [hstate] <;> rfl
    obtain ⟨hnone, hwant⟩ := hs.apart hupdates
    have hafter := hprospects.trans hnone
    exact ⟨by omega, fun _ => ⟨hafter, hwanted.trans hwant⟩, fun h => absurd hafter h⟩
  | fails hupdates hstate hwanted _ hprospects _ =>
    -- No retry was in prospect before the failure, so the one it asks for is the only one.
    obtain ⟨hnone, hwant⟩ := hs.apart hupdates
    refine ⟨by omega, ?_, ?_⟩
    · intro h
      rw [hstate] at h
      cases h
    · intro _
      rcases hwanted with hkept | hresigned
      · exact .inl (hkept.trans hwant)
      · exact .inr hresigned

/-! ## What is left of the attempts -/

/-- What the failed attempts have cost in requests: two each, and one for a random access failure
that was not counted. -/
def spent (s : Station) : Nat := 2 * s.update.attempts + s.update.accessFailed.toNat

/-- How many requests for a location update can still be made. -/
def requestsLeft (s : Station) : Nat :=
  match s.machine.state with
  | .waitForRadioLocationUpdate => 7 - s.spent
  | .locationUpdatingInitiated => 7 - s.spent
  | .locationUpdatingReject => 6 - 2 * s.update.attempts
  | _ => if s.prospects = 0 then 0 else 8 - s.spent

theorem requestsLeft_of_elsewhere {s : Station} (h : s.machine.state.updates = false) :
    s.requestsLeft = if s.prospects = 0 then 0 else 8 - s.spent := by
  unfold requestsLeft
  split <;> first | rfl | simp_all [MainState.updates]

/-- Until a reject, the update that is under way may still meet a random access failure. -/
theorem requestsLeft_of_updates {s : Station} (h : s.machine.state.updates = true) :
    s.requestsLeft = 7 - s.spent ∧ s.machine.state ≠ .locationUpdatingReject ∨
      s.requestsLeft = 6 - 2 * s.update.attempts ∧
        s.machine.state = .locationUpdatingReject := by
  unfold requestsLeft
  cases hcase : s.machine.state <;> simp_all [MainState.updates]

/-- No more requests can be made than the attempts allow. -/
theorem requestsLeft_le_unspent (s : Station) : s.requestsLeft ≤ 8 - s.spent := by
  cases hupdates : s.machine.state.updates with
  | false =>
    rw [requestsLeft_of_elsewhere hupdates]
    split <;> omega
  | true =>
    have haccess := s.update.accessFailed.toNat_le
    rcases requestsLeft_of_updates hupdates with ⟨hcase, _⟩ | ⟨hcase, _⟩
    · omega
    · simp only [hcase, spent]
      omega

/-- A failed attempt leaves one request less than could be made while it was under way. -/
theorem unspent_le_of_failure {s t : Station} (hupdates : s.machine.state.updates = true)
    (hattempts : s.machine.state ≠ .locationUpdatingReject ∧
        t.update.attempts = s.update.attempts ∧ s.update.accessFailed = false ∧
          t.update.accessFailed = true ∨
      t.update.attempts = s.update.attempts + 1 ∧
        t.update.attempts < LocationUpdate.maxAttempts) :
    8 - t.spent ≤ s.requestsLeft := by
  rcases hattempts with ⟨hother, hsame, hfirst, hfailed⟩ | ⟨hcounted, _⟩
  · -- A random access failure costs one request, and is not what ends an update that was rejected.
    rcases requestsLeft_of_updates hupdates with ⟨hcase, _⟩ | ⟨_, hreject⟩
    · simp only [hcase, spent, hsame, hfirst, hfailed, Bool.toNat_true, Bool.toNat_false]
      omega
    · exact absurd hreject hother
  · have haccess := s.update.accessFailed.toNat_le
    rcases requestsLeft_of_updates hupdates with ⟨hcase, _⟩ | ⟨hcase, _⟩
    · simp only [hcase, spent, hcounted]
      omega
    · simp only [hcase, spent, hcounted]
      omega

/-- While an update is under way, the retries in prospect do not count. -/
theorem requestsLeft_congr {s t : Station} (hstate : t.machine.state = s.machine.state)
    (hattempts : t.update.attempts = s.update.attempts)
    (haccess : t.update.accessFailed = s.update.accessFailed)
    (hprospects : s.machine.state.updates = false → t.prospects = s.prospects) :
    t.requestsLeft = s.requestsLeft := by
  have hspent : t.spent = s.spent := by rw [spent, spent, hattempts, haccess]
  cases hupdates : s.machine.state.updates with
  | false =>
    rw [requestsLeft_of_elsewhere hupdates, requestsLeft_of_elsewhere (hstate ▸ hupdates),
      hprospects hupdates, hspent]
  | true =>
    unfold requestsLeft
    rw [hstate, hspent, hattempts]
    cases hcase : s.machine.state <;> simp_all [MainState.updates]

/-! ## One input -/

/-- How many requests for a location update are sent on the way from `s` to `t`. -/
def requestsBetween (s t : Station) : Nat := (sentBetween s t).countP Output.asksUpdate

theorem RequestsNoUpdate.requests {s t : Station} (h : RequestsNoUpdate s t) :
    requestsBetween s t = 0 := by
  refine List.countP_eq_zero.mpr ?_
  intro o ho
  simp [h.silent o ho]

/-- A step sends at most one request, and one that sends it leads from the idle state to the wait
for the radio link. -/
theorem MayRequestUpdate.requests {s t : Station} (h : MayRequestUpdate s t) :
    requestsBetween s t = 0 ∨
      requestsBetween s t = 1 ∧ s.machine.state = .idle ∧
        t.machine.state = .waitForRadioLocationUpdate ∧ t.update.wanted = true := by
  rcases h with hasks | hsilent
  · obtain ⟨data, hsent, _⟩ := hasks.sent
    refine .inr ⟨?_, hasks.idle, hasks.waits, hasks.wanted⟩
    rw [requestsBetween, hsent]
    rfl
  · exact .inl hsilent.requests

theorem MayRequestUpdate.requests_eq_zero {s t : Station} (h : MayRequestUpdate s t)
    (hstate : t.machine.state ≠ .waitForRadioLocationUpdate) : requestsBetween s t = 0 := by
  rcases h.requests with hnone | ⟨_, _, hwaits, _⟩
  · exact hnone
  · exact absurd hwaits hstate

/-- A step that spares the update and its attempts sends no request, and leaves as many. -/
theorem requestsLeft_of_spares {s t : Station} {resets : Bool} (h : Spares resets s t)
    (hmay : MayRequestUpdate s t) (hs : s.RetriesInTurn)
    (hattempts : t.update.attempts = s.update.attempts) :
    t.requestsLeft + requestsBetween s t ≤ s.requestsLeft := by
  have hquiet : requestsBetween s t = 0 := by
    rcases hmay.requests with hnone | ⟨_, hidle, hwaits, _⟩
    · exact hnone
    · have hstate := (h.stage (by rw [hwaits]; rfl)).1
      rw [hidle, hwaits] at hstate
      cases hstate
  rw [hquiet, Nat.add_zero]
  cases hupdates : t.machine.state.updates with
  | true =>
    have hstate := (h.stage hupdates).1
    rw [requestsLeft_congr hstate hattempts h.accessFailed fun _ => h.prospects]
  | false =>
    have hspent : t.spent = s.spent := by rw [spent, spent, hattempts, h.accessFailed]
    rw [requestsLeft_of_elsewhere hupdates, h.prospects, hspent]
    split
    · exact Nat.zero_le _
    · next hopen =>
      -- With a retry in prospect, no update was under way before either.
      have helsewhere : s.machine.state.updates = false := by
        cases hcase : s.machine.state.updates with
        | false => rfl
        | true => exact absurd (hs.apart hcase).1 hopen
      rw [requestsLeft_of_elsewhere helsewhere, if_neg hopen]

/-- A request takes from what is left, and no other step adds to it while the update is wanted and
the attempts are not cleared. -/
theorem Tries.requestsLeft_le {s t : Station} {i : Input} (h : Tries s i t)
    (hmay : MayRequestUpdate s t) (hs : s.RetriesInTurn)
    (hleft : s.update.attempts < LocationUpdate.maxAttempts) (hwanted : s.update.wanted = true)
    (hafter : t.update.wanted = true) (hkeeps : s.asksService i = false) :
    t.requestsLeft + requestsBetween s t ≤
      if i.isRetry then 8 - s.spent else s.requestsLeft := by
  have hbudget : s.requestsLeft ≤ if i.isRetry then 8 - s.spent else s.requestsLeft := by
    split
    · exact s.requestsLeft_le_unspent
    · exact Nat.le_refl _
  cases h with
  | spares resets hresets h =>
    have hattempts : t.update.attempts = s.update.attempts := by
      rcases h.attempts with hsame | ⟨hcleared, _⟩
      · exact hsame
      · exact absurd ((hresets hcleared).symm.trans hkeeps) (by decide)
    exact (requestsLeft_of_spares h hmay hs hattempts).trans hbudget
  | drops _ hgone _ _ _ =>
    rw [hgone] at hafter
    cases hafter
  | starts hunwanted _ _ _ _ _ =>
    rw [hunwanted] at hwanted
    cases hwanted
  | retries hbrings hstate _ hupdate _ _ =>
    -- The one step that sends a request, where a retry has just been taken from the prospects.
    have hbound : s.spent ≤ 7 := by
      have haccess := s.update.accessFailed.toNat_le
      simp only [LocationUpdate.maxAttempts] at hleft
      unfold spent
      omega
    have hspent : t.spent = s.spent := by rw [spent, spent, hupdate]
    have hwaits : t.requestsLeft = 7 - t.spent := by rw [requestsLeft, hstate]
    rw [hbrings, hwaits, hspent, if_pos rfl]
    rcases hmay.requests with hnone | ⟨hone, _⟩ <;> omega
  | advances hstage _ hattempts _ _ =>
    refine le_trans ?_ hbudget
    rcases hstage with ⟨hfirst, hsecond, haccess⟩ | ⟨hfirst, hsecond⟩
    · have hspent : t.spent = s.spent := by rw [spent, spent, hattempts, haccess]
      rw [hmay.requests_eq_zero (by rw [hsecond]; decide), requestsLeft, requestsLeft, hfirst,
        hsecond, hspent]
      exact Nat.le_refl _
    · -- The cause of the reject is acted upon later, as an attempt that has failed.
      have haccess := s.update.accessFailed.toNat_le
      rw [hmay.requests_eq_zero (by rw [hsecond]; decide), requestsLeft, requestsLeft, hfirst,
        hsecond, hattempts]
      simp only [spent]
      omega
  | fails hupdates hstate _ hattempts _ _ =>
    rw [hmay.requests_eq_zero (by rw [hstate]; decide), Nat.add_zero]
    exact t.requestsLeft_le_unspent.trans
      ((unspent_le_of_failure hupdates hattempts).trans hbudget)

/-- A location update that is started can be asked for eight times. -/
theorem Tries.requestsLeft_start {s t : Station} {i : Input} (h : Tries s i t)
    (hmay : MayRequestUpdate s t) (hs : s.RetriesInTurn)
    (hretry : i.isRetry = true → s.prospects = 0) (hunwanted : s.update.wanted = false)
    (hwanted : t.update.wanted = true) : t.requestsLeft + requestsBetween s t ≤ 8 := by
  -- Of all that can become of the update, only its start makes it wanted.
  have hnew : ¬ t.update.wanted = s.update.wanted := by simp [hunwanted, hwanted]
  cases h with
  | spares resets _ h => exact absurd ((h.wanted hwanted).symm.trans hunwanted) (by decide)
  | drops _ hgone _ _ _ => exact absurd (hgone.symm.trans hwanted) (by decide)
  | starts _ hactive _ hstate hfresh hprospects =>
    have hnone := hprospects.trans (hs.prospects_eq_zero hretry (.inr (.inr ⟨hunwanted, hactive⟩)))
    have hspent : t.spent = 0 := by simp [spent, hfresh]
    rcases hstate with hwaits | hidle
    · have hleft : t.requestsLeft = 7 := by rw [requestsLeft, hwaits, hspent]
      rcases hmay.requests with hquiet | ⟨hone, _⟩ <;> omega
    · have hleft : t.requestsLeft = 0 := by
        rw [requestsLeft_of_elsewhere (updates_of_idle hidle), if_pos hnone]
      rcases hmay.requests with hquiet | ⟨hone, _⟩ <;> omega
  | retries _ _ _ hupdate _ _ => exact absurd (by rw [hupdate]) hnew
  | advances _ hkept _ _ _ => exact absurd hkept hnew
  | fails _ _ hkept _ _ _ =>
    rcases hkept with hsame | hresigned
    · exact absurd hsame hnew
    · exact absurd (hresigned.unwanted.symm.trans hwanted) (by decide)

end Station

/-! ## One action -/

/-- The action brings the event of a retry timer that has not run out. -/
def Action.forgesRetry : Action → Bool
  | handle input => input.isRetry
  | queue input => input.isRetry
  | _ => false

namespace Station

/-- The action writes that the SIM is usable again, while a retry is in prospect for an update that
was given up for want of one. -/
def revivesSim (s : Station) : Action → Bool
  | .subscriber subscriber =>
    !s.subscriber.simValid && subscriber.simValid && !s.update.wanted && s.prospects ≠ 0
  | _ => false

/-- The action neither forges the event of a retry nor revives the SIM under one. -/
def LeavesRetriesAlone (s : Station) (a : Action) : Prop :=
  a.forgesRetry = false ∧ s.revivesSim a = false

instance (s : Station) (a : Action) : Decidable (s.LeavesRetriesAlone a) :=
  inferInstanceAs (Decidable (_ ∧ _))

/-- The input that is handled has left its queue, and with it the prospect of its retry. -/
theorem prospects_of_handled {s t : Station} {a : Action} {i : Input}
    (h : a.handled? s = some (t, i)) (hforged : a.forgesRetry = false) :
    s.prospects = t.prospects + i.isRetry.toNat := by
  cases a with
  | handle input =>
    obtain ⟨rfl, rfl⟩ := Prod.mk.inj (Option.some.inj h)
    have hother : input.isRetry = false := hforged
    simp [hother]
  | serve =>
    obtain ⟨⟨input, rest⟩, hnext, heq⟩ := Option.map_eq_some_iff.mp h
    obtain ⟨rfl, rfl⟩ := Prod.mk.inj heq
    exact prospects_of_nextInput? hnext
  | _ => cases h

theorem prospects_of_not_handled {s : Station} {a : Action} (h : a.handled? s = none)
    (hforged : a.forgesRetry = false) (hexit : a ≠ .exit) :
    (s.perform a).prospects = s.prospects := by
  cases a with
  | handle input => cases h
  | queue input =>
    have hother : input.isRetry = false := hforged
    simp [perform, prospects_queue, hother]
  | serve => rw [perform_serve_of_not_handled h]
  | tick now => exact s.prospects_tick now
  | exit => exact absurd rfl hexit
  | _ => rfl

theorem retriesInTurn_of_handled {s t : Station} {a : Action} {i : Input}
    (h : a.handled? s = some (t, i)) (hforged : a.forgesRetry = false) (hs : s.RetriesInTurn) :
    t.RetriesInTurn ∧
      (i.isRetry = true → t.prospects = 0 ∧ t.machine.state.updates = false) := by
  have hqueues := queues_of_handled h
  have hprospects := prospects_of_handled h hforged
  have hmachine : t.machine = s.machine := by rw [hqueues]
  have hupdate : t.update = s.update := by rw [hqueues]
  have hsubscriber : t.subscriber = s.subscriber := by rw [hqueues]
  have hsingle := hs.single
  -- An input that is taken from a queue takes its retry with it, so what is in prospect cannot
  -- grow.
  refine ⟨⟨by omega, ?_, ?_⟩, ?_⟩
  · intro hupdates
    obtain ⟨hnone, hwanted⟩ := hs.apart (hmachine ▸ hupdates)
    exact ⟨by omega, hupdate ▸ hwanted⟩
  · intro hopen
    rcases hs.useful (by omega) with hwanted | hresigned
    · exact .inl (hupdate ▸ hwanted)
    · exact .inr ⟨hsubscriber ▸ hresigned.sim, hupdate ▸ hresigned.unwanted,
        hmachine ▸ hresigned.substate⟩
  · intro hretry
    have hone : i.isRetry.toNat = 1 := by rw [hretry]; rfl
    refine ⟨by omega, ?_⟩
    cases hupdates : t.machine.state.updates with
    | false => rfl
    | true =>
      have hnone := (hs.apart (hmachine ▸ hupdates)).1
      omega

/-- Only a write makes the SIM usable, and none does so while a retry is in prospect. -/
theorem resigned_of_not_handled {s : Station} {a : Action} (h : a.handled? s = none)
    (hexit : a ≠ .exit) (hrevives : s.revivesSim a = false) (hs : s.Resigned)
    (hopen : s.prospects ≠ 0) : (s.perform a).Resigned := by
  obtain ⟨hmachine, _, hwanted⟩ := perform_frame h hexit
  refine ⟨?_, hwanted ▸ hs.unwanted, hmachine ▸ hs.substate⟩
  by_cases hwrites : ∃ u, a = .subscriber u
  · obtain ⟨u, rfl⟩ := hwrites
    show u.simValid = false
    simpa [revivesSim, hs.sim, hs.unwanted, hopen] using hrevives
  · rw [subscriber_of_not_handled h fun u heq => hwrites ⟨u, heq⟩]
    exact hs.sim

/-- Retries stay one at a time, unless their events are forged or the SIM is revived under one. -/
theorem retriesInTurn_perform {s : Station} {a : Action} (ha : s.LeavesRetriesAlone a)
    (hs : s.RetriesInTurn) : (s.perform a).RetriesInTurn := by
  obtain ⟨hforged, hrevives⟩ := ha
  cases hhandled : a.handled? s with
  | some r =>
    obtain ⟨t, i⟩ := r
    obtain ⟨ht, hretry⟩ := retriesInTurn_of_handled hhandled hforged hs
    rw [perform_of_handled hhandled]
    exact (t.handle_tries i).retriesInTurn ht fun h => (hretry h).1
  | none =>
    -- The exit empties the queues and stops the timers, and no retry survives it. Nothing else
    -- removes one without an input.
    by_cases hexit : a = .exit
    · rw [hexit]
      have hnone : (s.perform .exit).prospects = 0 := s.prospects_exit
      exact ⟨by omega, fun h => ⟨hnone, (hs.apart h).2⟩, fun h => absurd hnone h⟩
    · obtain ⟨hmachine, _, hwanted⟩ := perform_frame hhandled hexit
      have hprospects := prospects_of_not_handled hhandled hforged hexit
      refine ⟨by rw [hprospects]; exact hs.single, ?_, ?_⟩
      · rw [hmachine, hprospects, hwanted]
        exact hs.apart
      · rw [hprospects, hwanted]
        intro hopen
        rcases hs.useful hopen with hwant | hresigned
        · exact .inl hwant
        · exact .inr (resigned_of_not_handled hhandled hexit hrevives hresigned hopen)

/-- How many requests for a location update are sent in a run. -/
def requestsIn (s : Station) (actions : List Action) : Nat :=
  (s.emitted actions).countP Output.asksUpdate

@[simp] theorem requestsIn_nil (s : Station) : s.requestsIn [] = 0 := rfl

@[simp] theorem requestsIn_cons (s : Station) (a : Action) (actions : List Action) :
    s.requestsIn (a :: actions) = requestsBetween s (s.perform a) +
      (s.perform a).requestsIn actions :=
  List.countP_append

theorem requestsIn_append (s : Station) (first second : List Action) :
    s.requestsIn (first ++ second) = s.requestsIn first + (s.run first).requestsIn second := by
  rw [requestsIn, emitted_append, List.countP_append]
  rfl

theorem requestsBetween_of_handled {s t : Station} {a : Action} {i : Input}
    (h : a.handled? s = some (t, i)) :
    requestsBetween s (s.perform a) = requestsBetween t (t.handle i).station := by
  have hemits := emits_of_handled h
  rw [emits] at hemits
  rw [requestsBetween, hemits, requestsBetween]

theorem requestsBetween_of_not_handled {s : Station} {a : Action} (h : a.handled? s = none) :
    requestsBetween s (s.perform a) = 0 := by
  have hemits := emits_of_not_handled h
  rw [emits] at hemits
  rw [requestsBetween, hemits]
  rfl

/-- The prospect of a retry that is handled was counted before. -/
theorem requestsLeft_of_handled {s t : Station} {a : Action} {i : Input}
    (h : a.handled? s = some (t, i)) (hforged : a.forgesRetry = false) (hs : s.RetriesInTurn) :
    (if i.isRetry then 8 - t.spent else t.requestsLeft) ≤ s.requestsLeft := by
  have hqueues := queues_of_handled h
  have hprospects := prospects_of_handled h hforged
  have hmachine : t.machine = s.machine := by rw [hqueues]
  have hupdate : t.update = s.update := by rw [hqueues]
  cases hcase : i.isRetry with
  | true =>
    -- The retry that is being handled was in prospect before, and no update can have been under
    -- way.
    have hidle : s.machine.state.updates = false :=
      hmachine ▸ ((retriesInTurn_of_handled h hforged hs).2 hcase).2
    have hopen : s.prospects ≠ 0 := by
      rw [hprospects, hcase]
      exact Nat.succ_ne_zero _
    have hspent : t.spent = s.spent := by rw [spent, spent, hupdate]
    rw [requestsLeft_of_elsewhere hidle, if_neg hopen, hspent]
    exact Nat.le_refl _
  | false =>
    rw [hcase] at hprospects
    rw [if_neg (by decide), requestsLeft_congr (s := s) (by rw [hmachine]) (by rw [hupdate])
      (by rw [hupdate]) fun _ => hprospects.symm]

theorem requestsLeft_of_not_handled {s : Station} {a : Action} (h : a.handled? s = none)
    (hforged : a.forgesRetry = false) (hkeeps : s.resetsAttempts a = false) :
    (s.perform a).requestsLeft ≤ s.requestsLeft := by
  have hupdate : (s.perform a).update = s.update := by
    rcases update_of_not_handled h with hsame | ⟨hresets, _⟩
    · exact hsame
    · exact absurd (hresets.symm.trans hkeeps) (by decide)
  have hmachine := machine_of_not_handled h
  by_cases hexit : a = .exit
  · -- The timers of the retries are gone, and what waits with them.
    subst hexit
    cases hupdates : s.machine.state.updates with
    | true =>
      rw [requestsLeft_congr (by rw [hmachine]) (by rw [hupdate]) (by rw [hupdate]) fun h =>
        absurd (h.symm.trans hupdates) (by decide)]
    | false =>
      have hnone : (s.perform .exit).prospects = 0 := s.prospects_exit
      rw [requestsLeft_of_elsewhere (hmachine ▸ hupdates), if_pos hnone]
      exact Nat.zero_le _
  · have hprospects := prospects_of_not_handled h hforged hexit
    rw [requestsLeft_congr (by rw [hmachine]) (by rw [hupdate]) (by rw [hupdate])
      fun _ => hprospects]

/-- While a location update stays wanted and its attempts are not cleared, each request takes from
what is left. -/
theorem requestsLeft_perform {s : Station} {a : Action} (hforged : a.forgesRetry = false)
    (hs : s.RetriesInTurn) (hbounded : s.AttemptsBounded) (hwanted : s.update.wanted = true)
    (hafter : (s.perform a).update.wanted = true) (hkeeps : s.resetsAttempts a = false) :
    requestsBetween s (s.perform a) + (s.perform a).requestsLeft ≤ s.requestsLeft := by
  cases hhandled : a.handled? s with
  | some r =>
    obtain ⟨t, i⟩ := r
    have hupdate : t.update = s.update := by rw [queues_of_handled hhandled]
    have hservice : t.asksService i = false := by
      rwa [resetsAttempts_of_handled hhandled] at hkeeps
    obtain ⟨ht, _⟩ := retriesInTurn_of_handled hhandled hforged hs
    -- A retry pays with the prospect that it had in the queue, the rest with what the handling
    -- leaves.
    have hbudget := requestsLeft_of_handled hhandled hforged hs
    rw [perform_of_handled hhandled] at hafter
    have hstep := (t.handle_tries i).requestsLeft_le (t.handle_mayRequest i) ht
      (hupdate ▸ hbounded.left hwanted) (hupdate ▸ hwanted) hafter hservice
    rw [requestsBetween_of_handled hhandled, perform_of_handled hhandled]
    omega
  | none =>
    rw [requestsBetween_of_not_handled hhandled, Nat.zero_add]
    exact requestsLeft_of_not_handled hhandled hforged hkeeps

/-! ## Runs -/

theorem retriesInTurn_run {s : Station} {actions : List Action} (hs : s.RetriesInTurn)
    (hactions : EveryStep LeavesRetriesAlone s actions) : (s.run actions).RetriesInTurn :=
  invariant_run_of_everyStep (fun _ _ => retriesInTurn_perform) hactions hs

theorem attemptsBounded_run {s : Station} (actions : List Action) (hs : s.AttemptsBounded) :
    (s.run actions).AttemptsBounded :=
  invariant_run (fun _ a => attemptsBounded_perform a) hs actions

/-- The action leaves the location update wanted, and does not clear the attempts. -/
def GoesOnTrying (s : Station) (a : Action) : Prop :=
  (s.perform a).update.wanted = true ∧ s.resetsAttempts a = false

instance (s : Station) (a : Action) : Decidable (s.GoesOnTrying a) :=
  inferInstanceAs (Decidable (_ ∧ _))

/-- What is left bounds the requests of a run. -/
theorem requestsIn_le {s : Station} {actions : List Action} (hs : s.RetriesInTurn)
    (hbounded : s.AttemptsBounded) (hwanted : s.update.wanted = true)
    (hactions : EveryStep LeavesRetriesAlone s actions) (htries : EveryStep GoesOnTrying s actions) :
    s.requestsIn actions + (s.run actions).requestsLeft ≤ s.requestsLeft ∧
      (s.run actions).update.wanted = true := by
  induction actions generalizing s with
  | nil => exact ⟨by simp, hwanted⟩
  | cons a rest ih =>
    obtain ⟨hafter, hkeeps⟩ := htries.1
    obtain ⟨hrest, hend⟩ := ih (retriesInTurn_perform hactions.1 hs)
      (attemptsBounded_perform a hbounded) hafter hactions.2 htries.2
    have hfirst := requestsLeft_perform hactions.1.1 hs hbounded hwanted hafter hkeeps
    rw [requestsIn_cons, run_cons]
    exact ⟨by omega, hend⟩

/-- The action that gives the update up or clears the attempts sends no request. -/
theorem requestsBetween_of_ends {s : Station} {a : Action} (h : ¬ s.GoesOnTrying a) :
    requestsBetween s (s.perform a) = 0 := by
  rcases (s.perform_mayRequest a).requests with hnone | ⟨_, _, _, hwanted⟩
  · exact hnone
  · cases hhandled : a.handled? s with
    | none => exact requestsBetween_of_not_handled hhandled
    | some r =>
      obtain ⟨t, i⟩ := r
      -- A request that is made needs a wish and attempts that were not cleared. If they were, a
      -- request of connection management did it, and that sends no update.
      cases hservice : t.asksService i with
      | false =>
        rw [← resetsAttempts_of_handled hhandled] at hservice
        exact absurd ⟨hwanted, hservice⟩ h
      | true =>
        rw [requestsBetween_of_handled hhandled]
        cases i with
        | cm p => exact (handle_requestsNo (i := .cm p) fun _ => nofun).requests
        | _ => cases hservice

/-- The requests of a location update, from its start until it is given up or its attempts are
cleared. -/
theorem requestsIn_start_le {s : Station} {start last : Action} {actions : List Action}
    (hs : s.RetriesInTurn) (hbounded : s.AttemptsBounded) (hstart : s.StartsBy start)
    (hactions : EveryStep LeavesRetriesAlone s (start :: (actions ++ [last])))
    (htries : EveryStep GoesOnTrying (s.perform start) actions) :
    s.requestsIn (start :: (actions ++ [last])) ≤ 8 := by
  obtain ⟨hfirst, hrest⟩ := hactions
  obtain ⟨hmiddle, hend, _⟩ := everyStep_append.mp hrest
  have hstarted : (s.perform start).RetriesInTurn := retriesInTurn_perform hfirst hs
  have hcounted := attemptsBounded_perform start hbounded
  -- The start opens the account, the actions draw on it, and the last one may end it.
  have hbegins : requestsBetween s (s.perform start) + (s.perform start).requestsLeft ≤ 8 ∧
      (s.perform start).update.wanted = true := by
    obtain ⟨t, e, hhandled, hstarts⟩ := id hstart
    have hwanted := (perform_starts_iff hstarts.unwanted).mpr hstart
    have hunwanted : t.update.wanted = false := by
      rw [queues_of_handled hhandled]
      exact hstarts.unwanted
    obtain ⟨ht, hretry⟩ := retriesInTurn_of_handled hhandled hfirst.1 hs
    refine ⟨?_, hwanted⟩
    rw [requestsBetween_of_handled hhandled]
    rw [perform_of_handled hhandled] at hwanted ⊢
    have hleft := (t.handle_tries (.event e)).requestsLeft_start (t.handle_mayRequest _) ht
      (fun h => (hretry h).1) hunwanted hwanted
    omega
  obtain ⟨hspends, hwanted⟩ := requestsIn_le hstarted hcounted hbegins.2 hmiddle htries
  have hends : requestsBetween ((s.perform start).run actions)
      (((s.perform start).run actions).perform last) ≤
        ((s.perform start).run actions).requestsLeft := by
    by_cases hlast : ((s.perform start).run actions).GoesOnTrying last
    · have hspent := requestsLeft_perform hend.1 (retriesInTurn_run hstarted hmiddle)
        (attemptsBounded_run actions hcounted) hwanted hlast.1 hlast.2
      omega
    · rw [requestsBetween_of_ends hlast]
      exact Nat.zero_le _
  rw [requestsIn_cons, requestsIn_append, requestsIn_cons, requestsIn_nil]
  omega

/-- The attempts of a location update are bounded, and so are its requests. The station has given
the update and its registration up when no attempts are left, unless the subscriber is written as
updated then. From its start until it is given up or its attempts are cleared, a location update is
asked for at most eight times, as long as the events of the retry timers come from the passing of
time and the SIM is not revived while a retry is in prospect that is no longer wanted. -/
theorem updates_bounded (config : Config) (subscriber : Subscriber) :
    let s := ofSubscriber config subscriber
    (∀ actions, Throughout GivesUpInTime s actions ↔
        EveryStep (fun t a => t.registersExhausted a = false) s actions) ∧
      ∀ before start actions last,
        EveryStep LeavesRetriesAlone s (before ++ start :: (actions ++ [last])) →
          (s.run before).StartsBy start →
            EveryStep GoesOnTrying ((s.run before).perform start) actions →
              (s.run before).requestsIn (start :: (actions ++ [last])) ≤ 8 := by
  intro s
  have hinit : s.RetriesInTurn := ⟨Nat.zero_le _, nofun, fun h => absurd rfl h⟩
  have hbounded : s.AttemptsBounded := ⟨Nat.zero_le _, nofun⟩
  refine ⟨givesUpInTime_throughout_iff config subscriber, ?_⟩
  intro before start actions last hactions hstart htries
  obtain ⟨hbefore, hafter⟩ := everyStep_append.mp hactions
  exact requestsIn_start_le (retriesInTurn_run hinit hbefore) (attemptsBounded_run before hbounded)
    hstart hafter htries

/-- The radio link is lost because the random access failed. -/
def accessFails : Action :=
  .handle (.rr { type := .releaseIndication, cause := RrCause.randomAccessFailure })

/-- A failed attempt, at its longest: the random access fails, fails once more after T3213, and
T3211 runs out. -/
def failingAttempt (now : Nat) : List Action :=
  [accessFails, .tick (now + 4000), .serve, accessFails, .tick (now + 19000), .serve]

/-- All eight requests are made where the random access fails every time. -/
theorem eight_requests_made :
    let s := ofConfig
      { imei := "356938035643809"
        imeisv := "3569380356438091"
        sim := some { imsi := "262420000000001" } }
    let camped := s.run [.cell (.campedIn ⟨⟨262, 42, false⟩, 7⟩)]
    let start : Action := .handle (.event .newLocationArea)
    let actions := failingAttempt 0 ++ failingAttempt 19000 ++ failingAttempt 38000 ++
      [accessFails, .tick 61000, .serve]
    camped.StartsBy start ∧ EveryStep GoesOnTrying (camped.perform start) actions ∧
      camped.requestsIn (start :: (actions ++ [accessFails])) = 8 ∧
        camped.requestsIn (start :: (actions ++ [accessFails])) ≤ 8 := by
  intro s camped start actions
  have hstart : camped.StartsBy start :=
    (perform_starts_iff (by decide +kernel)).mp (by decide +kernel)
  have htries : EveryStep GoesOnTrying (camped.perform start) actions := by decide +kernel
  refine ⟨hstart, htries, by decide +kernel, ?_⟩
  exact (updates_bounded _ _).2 [.cell (.campedIn ⟨⟨262, 42, false⟩, 7⟩)] start actions accessFails
    (by decide +kernel) hstart htries

/-- A retry of an update that was given up without a SIM meets a new update once the SIM is usable
again. When the network rejects the new update and does not release the link, the old retry leads to
a ninth request; and a station whose attempts have all failed can be written as updated. -/
theorem nine_requests_made_after_revival :
    let config : Config :=
      { imei := "356938035643809"
        imeisv := "3569380356438091"
        sim := some { imsi := "262420000000001" } }
    let subscriber := Subscriber.ofConfig config
    let linkReleased : List Action :=
      [.handle (.rr { type := .establishIndication }),
        .handle (.rr { type := .releaseIndication })]
    let before : List Action :=
      [.cell (.campedIn ⟨⟨262, 42, false⟩, 7⟩), .handle (.event .newLocationArea),
        .handle (.rr { type := .releaseIndication }),
        .subscriber { subscriber with simValid := false }] ++ linkReleased ++
      [.subscriber subscriber] ++ linkReleased
    let start : Action := .handle (.event .newLocationArea)
    let actions : List Action :=
      [.handle (.rr { type := .establishConfirm }), .handle (.message [0x05, 0x04, 0x11]),
        .tick 10000, .serve, .tick 15000, .serve] ++
      failingAttempt 15000 ++ failingAttempt 34000 ++ failingAttempt 53000 ++
      [accessFails, .tick 76000, .serve]
    let found := (ofConfig config).run before
    let exhausted := (found.perform start).run (actions ++ [accessFails])
    let written := exhausted.perform (.subscriber { exhausted.subscriber with status := .updated })
    (∀ a ∈ before ++ start :: actions, a.forgesRetry = false) ∧
      found.StartsBy start ∧ EveryStep GoesOnTrying (found.perform start) actions ∧
      found.requestsIn (start :: actions) = 9 ∧
      written.update.attempts = 4 ∧ written.subscriber.status = .updated := by
  intro config subscriber linkReleased before start actions found exhausted written
  have hstart : found.StartsBy start :=
    (perform_starts_iff (by decide +kernel)).mp (by decide +kernel)
  exact ⟨by decide +kernel, hstart, by decide +kernel, by decide +kernel, by decide +kernel,
    by decide +kernel⟩

end Station

end MobileStation
