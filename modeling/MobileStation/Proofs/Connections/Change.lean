import MobileStation.Proofs.Connections.Table
import MobileStation.Proofs.Frame
import MobileStation.Proofs.Rules

/-!
# Changes of the connections

Whatever a station does, its connections change in one of seven ways, and each way has its own
primitives to the owners. `Follows` relates two stations by such a change, `Quiet` by none, and
`Change.Allowed` says which changes an input may bring.

Main statements: `Quiet.then` and `Proceeds.then` (quiet steps around a change leave the change as
it is).
-/

namespace MobileStation

/-! ## What the owners are told -/

/-- The primitive sent to connection management. -/
def Output.cm? : Output → Option CmPrimitive
  | cm p => some p
  | _ => none

/-- The primitive tells of the beginning or the end of a connection. -/
def CmPrimitiveType.isNotice : CmPrimitiveType → Bool
  | establishIndication => true
  | establishConfirm => true
  | releaseIndication => true
  | errorIndication => true
  | _ => false

/-- The primitives among the outputs that tell of the beginning or the end of a connection. -/
def notices (sent : List Output) : List CmPrimitive :=
  (sent.filterMap Output.cm?).filter (·.type.isNotice)

@[simp] theorem notices_nil : notices [] = [] := rfl

@[simp] theorem notices_append (first second : List Output) :
    notices (first ++ second) = notices first ++ notices second := by
  simp [notices]

/-- Of primitives to connection management all those are notices whose type says so. -/
theorem notices_map_cm (ps : List CmPrimitive) :
    notices (ps.map Output.cm) = ps.filter (·.type.isNotice) := by
  rw [notices, List.filterMap_map]
  exact congrArg _ (List.filterMap_some ..)

/-- All primitives of a release are notices. -/
@[simp] theorem notices_release (t : ConnectionTable) (filter : ConnectionTable.ReleaseFilter)
    (cause : UInt8) (isError : Bool) :
    notices ((t.releasePrimitives filter cause isError).map Output.cm) =
      t.releasePrimitives filter cause isError := by
  rw [notices_map_cm, List.filter_eq_self]
  intro p hp
  obtain ⟨c, _, rfl⟩ := List.mem_map.mp hp
  cases isError <;> rfl

/-! ## Changes -/

/-- The release indication that turns a primitive down. -/
def CmPrimitive.refusal (p : CmPrimitive) (cause : UInt8) : CmPrimitive where
  type := .releaseIndication
  protocol := p.protocol
  reference := p.reference
  transaction := p.transaction
  cause := cause

/-- What is done to the connections. -/
inductive Change where
  /-- They stay as they are. -/
  | keep
  /-- They stay, and a primitive from above is turned down. -/
  | refuse (p : CmPrimitive) (cause : UInt8)
  /-- One is asked for. -/
  | request (p : CmPrimitive)
  /-- One is opened by the network, with this message. -/
  | opened (c : Connection) (data : Octets)
  /-- The pending one is put into use. -/
  | confirm
  /-- Some are released. -/
  | release (filter : ConnectionTable.ReleaseFilter) (cause : UInt8) (isError : Bool)
  /-- One is given up by its owner. -/
  | drop (reference : UInt32)

namespace Change

/-- The connections after the change. -/
def apply (t : ConnectionTable) : Change → ConnectionTable
  | keep => t
  | refuse _ _ => t
  | request p => { t with connections := t.connections ++ [Station.requestedConnection p] }
  | opened c _ => { t with connections := t.connections ++ [c] }
  | confirm => t.modifyPending fun c => { c with state := .dedicated }
  | release filter _ _ => t.release filter
  | drop reference => t.remove reference

/-- What the owners are told of the change. -/
def told (t : ConnectionTable) : Change → List CmPrimitive
  | keep => []
  | refuse p cause => [p.refusal cause]
  | request _ => []
  | opened c data => [{ c.primitive .establishIndication with payload := data }]
  | confirm => (t.pending?.map (·.primitive .establishConfirm)).toList
  | release filter cause isError => t.releasePrimitives filter cause isError
  | drop _ => []

/-- The changes that a station makes of its own accord, or because of the network. -/
inductive Spontaneous (t : ConnectionTable) : Change → Prop
  | keep : Spontaneous t .keep
  | opened (c : Connection) (table : ConnectionTable) (data : Octets)
      (hstate : c.state = .dedicated) (hadd : t.add c = .ok table) :
      Spontaneous t (.opened c data)
  | confirm : Spontaneous t .confirm
  | release (filter : ConnectionTable.ReleaseFilter) (cause : UInt8) (isError : Bool) :
      Spontaneous t (.release filter cause isError)

/-- The changes that a primitive from above may bring to a station that then sends `sent`. -/
inductive Requested (s : Station) (p : CmPrimitive) (sent : List Output) : Change → Prop
  | keep : Requested s p sent .keep
  | refuse (cause : UInt8) : Requested s p sent (.refuse p cause)
  | request (table : ConnectionTable) (route : Station.Route) (cause : EstablishmentCause)
      (data : Octets) (htype : p.type = .establishRequest)
      (hfree : s.connections.pendingCount = 0)
      (hadd : s.connections.add (Station.requestedConnection p) = .ok table)
      (hencode : (s.serviceRequest p).encode = .ok data)
      (hsent : .rr (route.primitive cause data) ∈ sent) : Requested s p sent (.request p)
  | drop (htype : p.type = .releaseRequest) (hstate : s.machine.state.releases = true) :
      Requested s p sent (.drop p.reference)

/-- The changes that an input may bring. -/
def Allowed (s : Station) (sent : List Output) (change : Change) : Input → Prop
  | .cm p => change.Requested s p sent
  | _ => change.Spontaneous s.connections

end Change

/-! ## Supervision -/

/-- The states in which a connection is being established. -/
def MainState.establishes : MainState → Bool
  | waitForRadioConnection => true
  | waitForOutgoingConnection => true
  | waitForAdditionalConnection => true
  | _ => false

theorem MainState.establishes_iff {state : MainState} :
    state.establishes = true ↔
      state ∈ [waitForRadioConnection, waitForOutgoingConnection, waitForAdditionalConnection] := by
  cases state <;> decide

/-- A connection is pending only while one is being established. -/
def Station.PendingSupervised (s : Station) : Prop :=
  s.connections.pendingCount ≠ 0 → s.machine.state.establishes = true

theorem Station.PendingSupervised.of_count_eq_zero {s : Station}
    (h : s.connections.pendingCount = 0) : s.PendingSupervised :=
  fun hpending => absurd h hpending

/-! ## Steps -/

/-- A step that leaves the connections alone and tells their owners nothing. -/
structure Quiet (s t : Station) : Prop where
  table : t.connections = s.connections
  sent : ∃ sent, t.outbox = s.outbox ++ sent ∧ notices sent = []
  supervised : s.PendingSupervised → t.PendingSupervised

/-- A step that makes one change of the connections and sends `sent`. -/
structure Follows (s t : Station) (change : Change) (sent : List Output) : Prop where
  table : t.connections = change.apply s.connections
  outbox : t.outbox = s.outbox ++ sent
  told : notices sent = change.told s.connections
  supervised : s.connections.pendingCount ≤ 1 → s.PendingSupervised → t.PendingSupervised

/-- Nothing happens. -/
theorem Quiet.refl (s : Station) : Quiet s s := ⟨rfl, ⟨[], by simp, rfl⟩, id⟩

/-- A step that leaves alone the state, the connections and what was sent. -/
theorem Quiet.of_frame {s t : Station} (hstate : t.machine.state = s.machine.state)
    (htable : t.connections = s.connections) (houtbox : t.outbox = s.outbox) : Quiet s t :=
  ⟨htable, ⟨[], by simp [houtbox]⟩, fun h hpending => hstate ▸ h (htable ▸ hpending)⟩

theorem Quiet.trans {s t u : Station} (first : Quiet s t) (second : Quiet t u) : Quiet s u := by
  obtain ⟨sent, houtbox, hquiet⟩ := first.sent
  obtain ⟨sent', houtbox', hquiet'⟩ := second.sent
  refine ⟨second.table.trans first.table, ⟨sent ++ sent', ?_, ?_⟩, ?_⟩
  · rw [houtbox', houtbox, List.append_assoc]
  · rw [notices_append, hquiet, hquiet', List.append_nil]
  · intro hs
    exact second.supervised (first.supervised hs)

/-- A quiet step after updates of other fields. -/
theorem Quiet.after {s t u : Station} (h : Quiet t u)
    (hstate : t.machine.state = s.machine.state) (htable : t.connections = s.connections)
    (houtbox : t.outbox = s.outbox) : Quiet s u :=
  (Quiet.of_frame hstate htable houtbox).trans h

/-- Quiet procedures one after the other. -/
theorem Quiet.andThen {s : Station} {o : Outcome} {next : Station → Outcome}
    (first : Quiet s o.station) (second : Quiet o.station (next o.station).station) :
    Quiet s (o.andThen next).station := by
  unfold Outcome.andThen
  split
  · exact first.trans second
  · -- A procedure that fails keeps what it did before it failed.
    exact first

/-- A step that makes a change which the station makes of its own accord. -/
def Proceeds (s t : Station) : Prop :=
  ∃ change sent, Follows s t change sent ∧ change.Spontaneous s.connections

/-- A step that makes a change which a primitive from above asks for. -/
def Answers (s : Station) (p : CmPrimitive) (t : Station) : Prop :=
  ∃ change sent, Follows s t change sent ∧ change.Requested s p sent

/-- A quiet step keeps the connections. -/
theorem Quiet.follows {s t : Station} (h : Quiet s t) : ∃ sent, Follows s t .keep sent := by
  obtain ⟨sent, houtbox, hquiet⟩ := h.sent
  exact ⟨sent, h.table, houtbox, hquiet, fun _ => h.supervised⟩

theorem Quiet.proceeds {s t : Station} (h : Quiet s t) : Proceeds s t := by
  obtain ⟨sent, hfollows⟩ := h.follows
  exact ⟨.keep, sent, hfollows, .keep⟩

theorem Quiet.answers {s t : Station} (h : Quiet s t) (p : CmPrimitive) : Answers s p t := by
  obtain ⟨sent, hfollows⟩ := h.follows
  exact ⟨.keep, sent, hfollows, .keep⟩

/-- A quiet step before a change leaves the change as it is. -/
theorem Quiet.then {s t u : Station} (first : Quiet s t) (second : Proceeds t u) :
    Proceeds s u := by
  obtain ⟨before, houtbox, hquiet⟩ := first.sent
  obtain ⟨change, sent, hfollows, hchange⟩ := second
  refine ⟨change, before ++ sent, ⟨?_, ?_, ?_, ?_⟩, first.table ▸ hchange⟩
  · rw [hfollows.table, first.table]
  · rw [hfollows.outbox, houtbox, List.append_assoc]
  · rw [notices_append, hquiet, hfollows.told, first.table, List.nil_append]
  · intro hone hs
    exact hfollows.supervised (first.table ▸ hone) (first.supervised hs)

/-- A change after updates of other fields. -/
theorem Proceeds.after {s t u : Station} (h : Proceeds t u)
    (hstate : t.machine.state = s.machine.state) (htable : t.connections = s.connections)
    (houtbox : t.outbox = s.outbox) : Proceeds s u :=
  (Quiet.of_frame hstate htable houtbox).then h

/-- A quiet step after a change leaves the change as it is. -/
theorem Proceeds.then {s t u : Station} (first : Proceeds s t) (second : Quiet t u) :
    Proceeds s u := by
  obtain ⟨change, sent, hfollows, hchange⟩ := first
  obtain ⟨after, houtbox, hquiet⟩ := second.sent
  refine ⟨change, sent ++ after, ⟨?_, ?_, ?_, ?_⟩, hchange⟩
  · rw [second.table, hfollows.table]
  · rw [houtbox, hfollows.outbox, List.append_assoc]
  · rw [notices_append, hquiet, hfollows.told, List.append_nil]
  · intro hone hs
    exact second.supervised (hfollows.supervised hone hs)

end MobileStation
