import MobileStation.Proofs.Registration.Request

/-!
# Forbidden networks and areas

A rejected location update may forbid the network or the area of the cell, and a location update is
asked for only where neither is forbidden. What is forbidden stays so: no input lifts the ban of a
network, and only an accepted location update lifts that of its area.

Main statements: `isForbidden_network_run` and `isForbidden_area_run` (bans last), and
`updates_only_where_allowed` (where location updates are asked for, and for how long they are not).
-/

namespace MobileStation

theorem Subscriber.forbidden_forbid (u : Subscriber) (plmn : Plmn) :
    (u.forbid plmn).forbidden =
      if plmn ∈ u.forbidden then u.forbidden else u.forbidden ++ [plmn] := by
  simp only [forbid, isForbidden, List.contains_iff_mem]
  split <;> rfl

theorem ServingCell.forbidden_forbid (c : ServingCell) (lai : Lai) :
    (c.forbid lai).forbidden =
      if lai ∈ c.forbidden then c.forbidden else c.forbidden ++ [lai] := by
  simp only [forbid, isForbidden, List.contains_iff_mem]
  split <;> rfl

/-- Forbidding an entry of a list keeps the others. -/
theorem mem_of_forbidden {α : Type} [DecidableEq α] {x : α} {forbidden : List α}
    (h : x ∈ forbidden) (other : α) :
    x ∈ if other ∈ forbidden then forbidden else forbidden ++ [other] := by
  split
  · exact h
  · exact List.mem_append_left _ h

namespace Station

/-! ## What becomes of the lists -/

/-- The input brings the accept of the location update that is under way. -/
def Accepts (s : Station) (i : Input) (accept : LocationUpdatingAccept) : Prop :=
  s.machine.state = .locationUpdatingInitiated ∧
    ∃ data body, i.network? = some data ∧
      Received.read data = .mobility .locationUpdatingAccept body ∧
      LocationUpdatingAccept.decode body = .ok accept

/-- What becomes of the lists of forbidden networks and areas in a record that an input leaves. -/
inductive ListsChange (s : Station) (i : Input) (r : Record) : Prop
  /-- They stay as they are. -/
  | keep (hnetworks : r.subscriber.forbidden = s.subscriber.forbidden)
      (hareas : r.cell.forbidden = s.cell.forbidden)
  /-- The ban of an area is lifted by an accept. -/
  | accept (accept : LocationUpdatingAccept) (haccepts : s.Accepts i accept)
      (hnetworks : r.subscriber.forbidden = s.subscriber.forbidden)
      (hareas : r.cell.forbidden = (s.cell.allow accept.lai).forbidden)
  /-- The network or the area of the cell is forbidden by a completed reject. -/
  | reject (p : RrPrimitive) (hinput : i = .rr p)
      (hloss : p.type = .releaseIndication ∨ p.type = .abortIndication)
      (hstate : s.machine.state = .locationUpdatingReject)
      (hnetworks : r.subscriber.forbidden =
        if s.update.rejectCause = .plmnNotAllowed then
          (s.subscriber.forbid s.cell.lai.plmn).forbidden
        else s.subscriber.forbidden)
      (hareas : r.cell =
        if s.update.rejectCause = .locationAreaNotAllowed then s.cell.forbid s.cell.lai
        else s.cell)

/-- The list of forbidden networks behind a final reject. -/
theorem networks_rejectFinally (s : Station) (cause : RejectCause) :
    (s.rejectFinally cause).subscriber.forbidden =
      if cause = .plmnNotAllowed then (s.subscriber.forbid s.cell.lai.plmn).forbidden
      else s.subscriber.forbidden := by
  obtain ⟨u, _, _, _, _, _, hforbidden, hsubscriber⟩ := s.subscriber_rejectFinally cause
  rw [hsubscriber]
  split
  · rw [Subscriber.forbidden_forbid, Subscriber.forbidden_forbid, hforbidden]
  · exact hforbidden

theorem Writes.lists {s : Station} {i : Input} {r : Record} (h : s.Writes i r) :
    s.ListsChange i r := by
  cases h with
  | accept _ data body accept hstate hnetwork hread hdecode =>
    obtain ⟨_, _, hforbidden, hcell⟩ := s.record_accepted accept.lai accept.identity
    exact .accept accept ⟨hstate, data, body, hnetwork, hread, hdecode⟩ hforbidden
      (congrArg ServingCell.forbidden hcell)
  | reject p hloss hstate hfinal =>
    exact .reject p rfl hloss hstate (s.networks_rejectFinally _) (s.cell_rejectFinally _)
  | _ => exact .keep rfl rfl

/-! ## Bans last -/

/-- Nobody but the station itself touches the lists: the subscriber is not written, and the cell is
only reselected. -/
def LeavesLists (s : Station) (a : Action) : Prop :=
  (∀ u, a ≠ .subscriber u) ∧ ∀ c, a = .cell c → ∃ new, c = s.cell.reselect new

/-- The action handles an accept that names the area. -/
def AcceptsIn (s : Station) (lai : Lai) (a : Action) : Prop :=
  ∃ t i accept, a.handled? s = some (t, i) ∧ s.Accepts i accept ∧ accept.lai = lai

/-- A reselection of the cell is no write of the lists. -/
theorem leavesLists_reselect (s : Station) (new : ServingCell) :
    s.LeavesLists (.cell (s.cell.reselect new)) := by
  constructor
  · rintro u ⟨⟩
  · rintro c ⟨⟩
    exact ⟨new, rfl⟩

theorem not_acceptsIn_cell {s : Station} {lai : Lai} {c : ServingCell} :
    ¬ s.AcceptsIn lai (.cell c) := by
  rintro ⟨_, _, _, hhandled, _⟩
  cases hhandled

/-- An action that handles nothing leaves the lists alone. -/
theorem lists_of_not_handled {s : Station} {a : Action} (hhandled : a.handled? s = none)
    (h : s.LeavesLists a) :
    (s.perform a).subscriber.forbidden = s.subscriber.forbidden ∧
      (s.perform a).cell.forbidden = s.cell.forbidden := by
  by_cases hcell : ∃ c, a = .cell c
  · obtain ⟨c, rfl⟩ := hcell
    obtain ⟨new, rfl⟩ := h.2 c rfl
    exact ⟨rfl, rfl⟩
  · have hrecord : (s.perform a).record = s.record :=
      record_of_not_handled hhandled (fun c hc => hcell ⟨c, hc⟩) h.1
    obtain ⟨hsubscriber, hcell, _⟩ := Record.mk.inj hrecord
    rw [hsubscriber, hcell]
    exact ⟨rfl, rfl⟩

/-- No action lifts the ban of a network. -/
theorem isForbidden_network_perform {s : Station} {a : Action} {plmn : Plmn}
    (hleaves : s.LeavesLists a) (h : s.subscriber.isForbidden plmn = true) :
    (s.perform a).subscriber.isForbidden plmn = true := by
  simp only [Subscriber.isForbidden, List.contains_iff_mem] at h ⊢
  cases hhandled : a.handled? s with
  | none => rwa [(lists_of_not_handled hhandled hleaves).1]
  | some r =>
    have hlists := (writes_of_handled hhandled).lists
    show plmn ∈ (s.perform a).record.subscriber.forbidden
    -- Networks are never taken off the list; an accept only takes off areas.
    cases hlists with
    | keep hnetworks _ => rwa [hnetworks]
    | accept _ _ hnetworks _ => rwa [hnetworks]
    | reject p _ _ _ hnetworks _ =>
      rw [hnetworks]
      split
      · rw [Subscriber.forbidden_forbid]
        exact mem_of_forbidden h _
      · exact h

/-- Only an accept that names the area lifts its ban. -/
theorem isForbidden_area_perform {s : Station} {a : Action} {lai : Lai}
    (hleaves : s.LeavesLists a) (h : s.cell.isForbidden lai = true) :
    (s.perform a).cell.isForbidden lai = true ∨ s.AcceptsIn lai a := by
  simp only [ServingCell.isForbidden, List.contains_iff_mem] at h ⊢
  cases hhandled : a.handled? s with
  | none =>
    rw [(lists_of_not_handled hhandled hleaves).2]
    exact .inl h
  | some r =>
    obtain ⟨t, i⟩ := r
    have hlists := (writes_of_handled hhandled).lists
    show lai ∈ (s.perform a).record.cell.forbidden ∨ _
    cases hlists with
    | keep _ hareas => exact .inl (hareas ▸ h)
    | accept accept haccepts _ hareas =>
      -- An accept takes the area that it names off the list, and no other one.
      by_cases hnamed : accept.lai = lai
      · exact .inr ⟨t, i, accept, hhandled, haccepts, hnamed⟩
      · refine .inl ?_
        rw [hareas]
        exact List.mem_filter.mpr ⟨h, by simpa using Ne.symm hnamed⟩
    | reject p _ _ _ _ hareas =>
      rw [hareas]
      split
      · rw [ServingCell.forbidden_forbid]
        exact .inl (mem_of_forbidden h _)
      · exact .inl h

theorem isForbidden_network_run {s : Station} {actions : List Action} {plmn : Plmn}
    (hleaves : EveryStep LeavesLists s actions) (h : s.subscriber.isForbidden plmn = true) :
    (s.run actions).subscriber.isForbidden plmn = true :=
  invariant_run_of_everyStep (P := fun s => s.subscriber.isForbidden plmn = true)
    (fun _ _ hstep hs => isForbidden_network_perform hstep hs) hleaves h

theorem isForbidden_area_run {s : Station} {actions : List Action} {lai : Lai}
    (hleaves : EveryStep (fun s a => s.LeavesLists a ∧ ¬ s.AcceptsIn lai a) s actions)
    (h : s.cell.isForbidden lai = true) : (s.run actions).cell.isForbidden lai = true :=
  invariant_run_of_everyStep (P := fun s => s.cell.isForbidden lai = true)
    (fun _ _ hstep hs => (isForbidden_area_perform hstep.1 hs).resolve_right hstep.2) hleaves h

/-! ## Where location updates are asked for -/

/-- The action asks for a location update once, and is allowed to. -/
structure AsksWhereAllowed (s : Station) (a : Action) : Prop where
  sent : ∃ data, s.emits a = [.rr (.establish .locationUpdate data)]
  idle : s.machine.state = .idle
  waits : (s.perform a).machine.state = .waitForRadioLocationUpdate
  wanted : (s.perform a).update.wanted = true
  camped : s.cell.camping = .normally
  network : s.subscriber.isForbidden s.cell.lai.plmn = false
  area : s.cell.isForbidden s.cell.lai = false
  barring :
    s.cell.accessBarred s.subscriber.accessClasses s.subscriber.barringOverride = false

theorem AsksUpdate.whereAllowed {s : Station} {a : Action} (h : s.AsksUpdate a) :
    s.AsksWhereAllowed a := by
  have hrequest := asksUpdate_iff.mp h
  obtain ⟨data, hsent, _⟩ := hrequest.sent
  have hallowed := hrequest.allowed
  simp only [updateAllowed, Bool.and_eq_true, Bool.not_eq_true', ServingCell.campedNormally,
    decide_eq_true_eq] at hallowed
  obtain ⟨⟨⟨hcamped, hnetwork⟩, harea⟩, hbarring⟩ := hallowed
  exact ⟨⟨data, hsent⟩, hrequest.idle, hrequest.waits, hrequest.wanted, hcamped, hnetwork, harea,
    hbarring⟩

/-- The action completes the reject of a location update: it handles the loss of the radio link. -/
def CompletesReject (s : Station) (a : Action) : Prop :=
  s.machine.state = .locationUpdatingReject ∧
    ∃ t p, a.handled? s = some (t, .rr p) ∧
      (p.type = .releaseIndication ∨ p.type = .abortIndication)

theorem CompletesReject.actedUpon {s : Station} {a : Action} (h : s.CompletesReject a) :
    ActedUpon s.update.rejectCause (s.emits a) (s.perform a) := by
  obtain ⟨hreject, t, p, hhandled, hloss⟩ := h
  exact actedUpon_of_loss hreject hhandled hloss

/-- Location updates are asked for only where they are allowed, one at a time. No action lifts the
ban of a network, only an accept that names an area lifts its ban, and a change of the cell keeps
all bans. So once a reject of a network or an area is completed, no location update is asked for
while the station is served there, in no run that goes on without such an accept. -/
theorem updates_only_where_allowed (s : Station) (a : Action) :
    (s.AsksUpdate a → s.AsksWhereAllowed a) ∧
      (s.LeavesLists a →
        (∀ plmn, s.subscriber.isForbidden plmn = true →
          (s.perform a).subscriber.isForbidden plmn = true) ∧
        ∀ lai, s.cell.isForbidden lai = true →
          (s.perform a).cell.isForbidden lai = true ∨ s.AcceptsIn lai a) ∧
      (∀ new, (s.cell.reselect new).forbidden = s.cell.forbidden) ∧
      (s.CompletesReject a → ∀ before b,
        let rejected := (s.perform a).cell.lai
        let later := (s.perform a).run before
        (s.update.rejectCause.code = 11 → EveryStep LeavesLists (s.perform a) before →
          later.cell.lai.plmn = rejected.plmn → ¬ later.AsksUpdate b) ∧
        (s.update.rejectCause.code = 12 →
          EveryStep (fun t c => t.LeavesLists c ∧ ¬ t.AcceptsIn rejected c) (s.perform a) before →
          later.cell.lai = rejected → ¬ later.AsksUpdate b)) := by
  refine ⟨AsksUpdate.whereAllowed, ?_, fun _ => rfl, ?_⟩
  · intro hleaves
    exact ⟨fun plmn h => isForbidden_network_perform hleaves h,
      fun lai h => isForbidden_area_perform hleaves h⟩
  · intro hcompletes before b rejected later
    -- The reject puts the network or the area on its list, where it stays. A request would
    -- contradict that.
    have hacted := hcompletes.actedUpon
    constructor
    · intro hcode hleaves hserved hasks
      have hlasts := isForbidden_network_run hleaves (hacted.network hcode)
      rw [← hserved, hasks.whereAllowed.network] at hlasts
      cases hlasts
    · intro hcode hleaves hserved hasks
      have hlasts := isForbidden_area_run hleaves (hacted.area hcode)
      have hallowed := hasks.whereAllowed.area
      rw [hserved, hlasts] at hallowed
      cases hallowed

/-- A station whose area was rejected moves to the next area and back: it is not updated again. -/
theorem updates_only_where_allowed_after_move :
    let actions : List Action :=
      [.cell (.campedIn ⟨⟨262, 42, false⟩, 7⟩),
        .handle (.event .newLocationArea),
        .handle (.rr { type := .establishConfirm }),
        .handle (.message [0x05, 0x04, 0x0C])]
    let s := (ofConfig
      { imei := "356938035643809"
        imeisv := "3569380356438091"
        sim := some { imsi := "262420000000001" } }).run actions
    let release : Action := .handle (.rr { type := .releaseIndication })
    let moved := (s.perform release).cell.reselect (.campedIn ⟨⟨262, 42, false⟩, 8⟩)
    let back := moved.reselect (.campedIn ⟨⟨262, 42, false⟩, 7⟩)
    s.CompletesReject release ∧ s.update.rejectCause = .locationAreaNotAllowed ∧
      ¬ ((s.perform release).run [.cell moved, .cell back]).AsksUpdate
        (.handle (.event .newLocationArea)) := by
  intro actions s release moved back
  have hcompletes : s.CompletesReject release :=
    ⟨by decide +kernel, s, { type := .releaseIndication }, rfl, .inl rfl⟩
  have hcause : s.update.rejectCause = .locationAreaNotAllowed := by decide +kernel
  refine ⟨hcompletes, hcause, ?_⟩
  refine ((updates_only_where_allowed s release).2.2.2 hcompletes _ _).2 ?_ ?_
    (by decide +kernel)
  · rw [hcause]
    rfl
  · exact ⟨⟨leavesLists_reselect _ _, not_acceptsIn_cell⟩,
      ⟨leavesLists_reselect _ _, not_acceptsIn_cell⟩, trivial⟩

end Station

end MobileStation
