import MobileStation.Proofs.Connections.Pending

/-!
# The account of the connections

No connection appears or disappears without its owner being told. What a change does to the
references of a table and what it tells of them agree; the step of a station inherits this from its
change.

Main statements: `released_or_dropped` and `gone_of_told` (connections that are gone),
`requested_or_opened` (connections that are new), `confirmed_apply` (connections that came into
use), and `handle_accounted` (every input, in every state that a run leads to).
-/

namespace MobileStation

/-- The primitive tells of the end of a connection. -/
def CmPrimitiveType.isEnd (type : CmPrimitiveType) : Bool :=
  type = .releaseIndication || type = .errorIndication

theorem CmPrimitiveType.isNotice_of_isEnd {type : CmPrimitiveType} (h : type.isEnd = true) :
    type.isNotice = true := by
  cases type <;> first | rfl | cases h

/-- The connection with this reference is in use. -/
def ConnectionTable.inUse (t : ConnectionTable) (r : UInt32) : Bool :=
  t.connections.any fun c => c.reference == r && c.state = .dedicated

namespace Change

open ConnectionTable

variable {t : ConnectionTable} {change : Change}

/-! ## What a change does and what it tells -/

/-- A connection that is gone was released or dropped. -/
theorem released_or_dropped {c : Connection} (hc : c ∈ t.connections)
    (hgone : ¬ (change.apply t).hasReference c.reference = true) :
    (∃ filter cause isError, change = .release filter cause isError ∧ filter.selects c = true) ∨
      change = .drop c.reference := by
  rw [not_hasReference_iff] at hgone
  cases change with
  | keep => exact absurd rfl (hgone c hc)
  | refuse p cause => exact absurd rfl (hgone c hc)
  | request p => exact absurd rfl (hgone c (List.mem_append_left _ hc))
  | opened d data => exact absurd rfl (hgone c (List.mem_append_left _ hc))
  | confirm =>
    -- The connection may have changed, but its reference is still there.
    have hmem : c.reference ∈ (Change.confirm.apply t).references := by
      rw [apply, references_confirm]
      exact List.mem_map_of_mem hc
    obtain ⟨d, hd, heq⟩ := List.mem_map.mp hmem
    exact absurd heq (hgone d hd)
  | release filter cause isError =>
    refine .inl ⟨filter, cause, isError, rfl, ?_⟩
    by_contra hkept
    exact absurd rfl (hgone c (List.mem_filter.mpr ⟨hc, by simpa using hkept⟩))
  | drop r =>
    refine .inr ?_
    by_contra hother
    have hkept : ¬ (c.reference == r) = true := by
      rw [beq_iff_eq]
      rintro rfl
      exact hother rfl
    have hmem : c ∈ t.connections.eraseP (·.reference == r) :=
      (List.mem_eraseP_of_neg (p := (·.reference == r)) hkept).mpr hc
    exact absurd rfl (hgone c hmem)

/-- Except for the one put into use, the connections after a change are old ones and the one that
was asked for or opened. -/
theorem mem_apply {c : Connection} (hc : c ∈ (change.apply t).connections) :
    c ∈ t.connections ∨ (∃ p, change = .request p ∧ c = Station.requestedConnection p) ∨
      (∃ data, change = .opened c data) ∨ change = .confirm := by
  -- Only a request, an opening and a confirmation put anything into the table that was not there.
  cases change with
  | keep => exact .inl hc
  | refuse p cause => exact .inl hc
  | request p =>
    rcases List.mem_append.mp hc with hold | hadded
    · exact .inl hold
    · exact .inr (.inl ⟨p, rfl, List.mem_singleton.mp hadded⟩)
  | opened d data =>
    rcases List.mem_append.mp hc with hold | hadded
    · exact .inl hold
    · exact .inr (.inr (.inl ⟨data, by rw [List.mem_singleton.mp hadded]⟩))
  | confirm => exact .inr (.inr (.inr rfl))
  | release filter cause isError => exact .inl (List.mem_of_mem_filter hc)
  | drop r => exact .inl (List.mem_of_mem_eraseP hc)

/-- A connection that is new was asked for or opened. -/
theorem requested_or_opened {c : Connection} (hc : c ∈ (change.apply t).connections)
    (hnew : ¬ t.hasReference c.reference = true) :
    (∃ p, change = .request p ∧ c = Station.requestedConnection p) ∨
      ∃ data, change = .opened c data := by
  rw [not_hasReference_iff] at hnew
  rcases mem_apply hc with hold | hrequest | hopened | rfl
  · exact absurd rfl (hnew c hold)
  · exact .inl hrequest
  · exact .inr hopened
  · have hmem : c.reference ∈ (Change.confirm.apply t).references := List.mem_map_of_mem hc
    rw [apply, references_confirm] at hmem
    obtain ⟨d, hd, heq⟩ := List.mem_map.mp hmem
    exact absurd heq (hnew d hd)

/-- A release names each of its connections once. -/
theorem releasePrimitives_filter_reference (h : t.WellFormed) {c : Connection}
    (hc : c ∈ t.connections) {filter : ReleaseFilter} (hselects : filter.selects c = true)
    (cause : UInt8) (isError : Bool) :
    ∃ p, (t.releasePrimitives filter cause isError).filter (·.reference == c.reference) = [p] ∧
      p.type.isEnd = true ∧ p.protocol = c.protocol := by
  refine ⟨{ c.primitive (if isError then .errorIndication else .releaseIndication) with
    cause := cause }, ?_, by cases isError <;> rfl, rfl⟩
  have hone : (t.connections.filter filter.selects).filter (·.reference == c.reference) = [c] := by
    rw [List.filter_comm, h.filter_reference hc]
    simp [hselects]
  rw [releasePrimitives, List.filter_map]
  exact congrArg (List.map _) hone

/-- Whoever a change names in a release is gone, or was turned down. -/
theorem gone_of_told (h : t.WellFormed) {p : CmPrimitive} (hp : p ∈ change.told t)
    (hend : p.type.isEnd = true) :
    (t.hasReference p.reference = true ∧ ¬ (change.apply t).hasReference p.reference = true) ∨
      ∃ q cause, change = .refuse q cause ∧ p.reference = q.reference := by
  cases change with
  | keep => cases hp
  | refuse q cause => exact .inr ⟨q, cause, rfl, by rw [List.mem_singleton.mp hp]; rfl⟩
  | request q => cases hp
  | opened c data =>
    rw [List.mem_singleton.mp hp] at hend
    cases hend
  | confirm =>
    obtain ⟨c, _, rfl⟩ := Option.map_eq_some_iff.mp (Option.mem_toList.mp hp)
    cases hend
  | release filter cause isError =>
    -- What is left has other references, since a reference tells its connection.
    obtain ⟨c, hmem, rfl⟩ := List.mem_map.mp hp
    obtain ⟨hc, hselects⟩ := List.mem_filter.mp hmem
    refine .inl ⟨hasReference_iff.mpr ⟨c, hc, rfl⟩, ?_⟩
    rw [not_hasReference_iff]
    intro d hd heq
    obtain ⟨hd, hkept⟩ := List.mem_filter.mp hd
    obtain rfl : d = c := h.eq_of_reference hd hc heq
    simp [hselects] at hkept
  | drop r => cases hp

/-! ## Confirmations -/

/-- Only a confirmation puts a pending connection into use. -/
theorem inUse_eq_false (h : t.WellFormed) (hchange : change ≠ .confirm)
    (hfresh : ∀ d data, change = .opened d data → ∀ c ∈ t.connections, c.reference ≠ d.reference)
    {c : Connection} (hc : c ∈ t.connections) (hpending : c.isPending = true) :
    (change.apply t).inUse c.reference = false := by
  rw [Bool.eq_false_iff]
  intro huse
  -- A connection in use that has the reference is `c` itself, or one that came with the change.
  obtain ⟨d, hd, huse⟩ := List.any_eq_true.mp huse
  simp only [Bool.and_eq_true, beq_iff_eq, decide_eq_true_eq] at huse
  obtain ⟨heq, hstate⟩ := huse
  rcases mem_apply hd with hold | ⟨p, _, rfl⟩ | ⟨data, hopened⟩ | hconfirm
  · obtain rfl : d = c := h.eq_of_reference hold hc heq
    simp [Connection.isPending, hstate] at hpending
  · cases hstate
  · exact hfresh d data hopened c hc heq.symm
  · exact hchange hconfirm

/-- Only a confirmation is told as one. -/
theorem type_ne_of_told (hchange : change ≠ .confirm) {p : CmPrimitive} (hp : p ∈ change.told t) :
    p.type ≠ .establishConfirm := by
  cases change with
  | confirm => exact absurd rfl hchange
  | refuse q cause =>
    rw [List.mem_singleton.mp hp]
    exact nofun
  | opened c data =>
    rw [List.mem_singleton.mp hp]
    exact nofun
  | release filter cause isError =>
    obtain ⟨c, _, rfl⟩ := List.mem_map.mp hp
    cases isError <;> exact nofun
  | _ => cases hp

/-- A confirmation puts every pending connection into use. -/
theorem inUse_confirm (hone : t.pendingCount ≤ 1) {c : Connection} (hc : c ∈ t.connections)
    (hpending : c.isPending = true) : (Change.confirm.apply t).inUse c.reference = true := by
  rw [apply, modifyPending_eq hone]
  refine List.any_eq_true.mpr ⟨_, List.mem_map_of_mem hc, ?_⟩
  simp [hpending]

/-- Exactly the owners of the connections that are put into use are told of it. -/
theorem confirmed_apply (h : t.WellFormed) (hone : t.pendingCount ≤ 1)
    (hfresh : ∀ d data, change = .opened d data →
      ∀ c ∈ t.connections, c.reference ≠ d.reference) :
    ((change.told t).filter fun p => p.type = .establishConfirm).map (·.reference) =
      (t.connections.filter fun c => c.isPending && (change.apply t).inUse c.reference).map
        (·.reference) := by
  by_cases hchange : change = .confirm
  · -- Both sides are the pending connection, if there is one.
    subst hchange
    have hsame : (t.connections.filter fun c => c.isPending &&
        (Change.confirm.apply t).inUse c.reference) = t.pending?.toList := by
      rw [pending?, ← filter_eq_toList_find? hone]
      refine List.filter_congr ?_
      intro c hc
      by_cases hpending : c.isPending = true
      · rw [hpending, inUse_confirm hone hc hpending]
        rfl
      · simp [hpending]
    rw [hsame, told]
    cases t.pending? <;> rfl
  · -- Nothing is put into use, and nothing is told as if it were.
    have hnone : (t.connections.filter fun c => c.isPending &&
        (change.apply t).inUse c.reference) = [] := by
      rw [List.filter_eq_nil_iff]
      intro c hc
      by_cases hpending : c.isPending = true
      · simp [inUse_eq_false h hchange hfresh hc hpending]
      · simp [hpending]
    have htold : ((change.told t).filter fun p => p.type = .establishConfirm) = [] := by
      rw [List.filter_eq_nil_iff]
      intro p hp
      simp [type_ne_of_told hchange hp]
    rw [hnone, htold]
    rfl

end Change

namespace Change.Allowed

variable {s : Station} {sent : List Output} {i : Input}

/-! ## Which input a change belongs to -/

theorem of_refuse {q : CmPrimitive} {cause : UInt8} (h : (refuse q cause).Allowed s sent i) :
    i = .cm q := by
  cases i <;> cases h
  rfl

theorem of_drop {r : UInt32} (h : (drop r).Allowed s sent i) :
    ∃ p, i = .cm p ∧ p.type = .releaseRequest ∧ p.reference = r := by
  cases i with
  | cm p =>
    cases h with
    | drop htype _ => exact ⟨p, rfl, htype, rfl⟩
  | _ => cases h

theorem of_request {p : CmPrimitive} (h : (request p).Allowed s sent i) :
    i = .cm p ∧ p.type = .establishRequest ∧ ∃ data route cause,
      (s.serviceRequest p).encode = .ok data ∧
        .rr (Station.Route.primitive route cause data) ∈ sent := by
  cases i with
  | cm q =>
    cases h with
    | request table route cause data htype _ _ hencode hsent =>
      exact ⟨rfl, htype, data, route, cause, hencode, hsent⟩
  | _ => cases h

theorem of_opened {c : Connection} {data : Octets} (h : (opened c data).Allowed s sent i) :
    c.state = .dedicated ∧ ∀ d ∈ s.connections.connections, d.reference ≠ c.reference := by
  have hspontaneous : (opened c data).Spontaneous s.connections := by
    cases i with
    | cm p => cases h
    | _ => exact h
  cases hspontaneous with
  | opened _ table _ hstate hadd => exact ⟨hstate, (ConnectionTable.add_eq_ok_iff.mp hadd).2.1⟩

end Change.Allowed

namespace Station

/-! ## The account of a step -/

/-- What a station sent on the way from `s` to `t`. -/
def sentBetween (s t : Station) : List Output := t.outbox.drop s.outbox.length

/-- What connection management was told on the way from `s` to `t`. -/
def toldBetween (s t : Station) : List CmPrimitive := (sentBetween s t).filterMap Output.cm?

/-- Every connection that the input `i` made appear, disappear or come into use on the way from `s`
to `t` was told of to its owner. -/
structure Accounted (s : Station) (i : Input) (t : Station) : Prop where
  /-- What was sent before was not touched. -/
  appended : s.outbox <+: t.outbox
  /-- A connection that is gone is named in exactly one release or error indication, unless its
  owner gave it up. -/
  gone : ∀ c ∈ s.connections.connections, ¬ t.connections.hasReference c.reference = true →
    (∃ p, i = .cm p ∧ p.type = .releaseRequest ∧ p.reference = c.reference) ∨
      ∃ p, ((toldBetween s t).filter fun p => p.type.isEnd && p.reference == c.reference) = [p] ∧
        p.protocol = c.protocol
  /-- A connection that is new waits for the answer to the service request that was sent for it, or
  is in use and announced by the only establishment indication. -/
  new : ∀ c ∈ t.connections.connections, ¬ s.connections.hasReference c.reference = true →
    (c.state = .pending ∧ ∃ p, i = .cm p ∧ p.type = .establishRequest ∧
        p.reference = c.reference ∧ ∃ data route cause, (s.serviceRequest p).encode = .ok data ∧
          .rr (Route.primitive route cause data) ∈ sentBetween s t) ∨
      (c.state = .dedicated ∧ ∃ p,
        ((toldBetween s t).filter fun p => p.type = .establishIndication) = [p] ∧
          p.reference = c.reference)
  /-- The establishment confirmations name the connections that came into use, each once. -/
  confirmed :
    ((toldBetween s t).filter fun p => p.type = .establishConfirm).map (·.reference) =
      (s.connections.connections.filter fun c =>
        c.isPending && t.connections.inUse c.reference).map (·.reference)
  /-- A release or error indication names a connection that is gone, or answers the primitive that
  was handled. -/
  named : ∀ p ∈ toldBetween s t, p.type.isEnd = true →
    (s.connections.hasReference p.reference = true ∧
        ¬ t.connections.hasReference p.reference = true) ∨
      ∃ q, i = .cm q ∧ p.reference = q.reference

/-- What was sent in a step that follows a change. -/
theorem sentBetween_eq {s t : Station} {change : Change} {sent : List Output}
    (h : Follows s t change sent) : sentBetween s t = sent := by
  rw [sentBetween, h.outbox, List.drop_left]

/-- A step tells what its change tells, as far as beginnings and ends of connections go. -/
theorem filter_toldBetween {s t : Station} {change : Change} {sent : List Output}
    (h : Follows s t change sent) {q : CmPrimitive → Bool}
    (hq : ∀ p, q p = true → p.type.isNotice = true) :
    (toldBetween s t).filter q = (change.told s.connections).filter q := by
  rw [← h.told, notices, toldBetween, sentBetween_eq h, List.filter_filter]
  refine List.filter_congr ?_
  intro p _
  by_cases hp : q p = true
  · simp [hp, hq p hp]
  · simp [hp]

/-- A step that makes an allowed change is accounted for. -/
theorem accounted_of_follows {s t : Station} {i : Input} {change : Change} {sent : List Output}
    (hs : s.Orderly) (h : Follows s t change sent) (hallowed : change.Allowed s sent i) :
    Accounted s i t where
  appended := ⟨sent, h.outbox.symm⟩
  gone := by
    intro c hc hgone
    rw [h.table] at hgone
    -- A connection that is gone was released, and its owner told, or was dropped because its owner
    -- wanted it.
    rcases Change.released_or_dropped hc hgone with
      ⟨filter, cause, isError, rfl, hselects⟩ | rfl
    · obtain ⟨p, hone, hend, hprotocol⟩ :=
        Change.releasePrimitives_filter_reference hs.wellFormed hc hselects cause isError
      refine .inr ⟨p, ?_, hprotocol⟩
      rw [filter_toldBetween h fun q hq => CmPrimitiveType.isNotice_of_isEnd (by simp_all),
        ← List.filter_filter, Change.told, hone]
      simp [hend]
    · exact .inl hallowed.of_drop
  new := by
    intro c hc hnew
    rw [h.table] at hc
    -- A new one was asked for by a protocol or opened by the network.
    rcases Change.requested_or_opened hc hnew with ⟨p, rfl, rfl⟩ | ⟨data, rfl⟩
    · obtain ⟨hinput, htype, data, route, cause, hencode, hsent⟩ := hallowed.of_request
      refine .inl ⟨rfl, p, hinput, htype, rfl, data, route, cause, hencode, ?_⟩
      rwa [sentBetween_eq h]
    · refine .inr ⟨hallowed.of_opened.1, { c.primitive .establishIndication with payload := data },
        ?_, rfl⟩
      rw [filter_toldBetween h fun q hq => by simp_all [CmPrimitiveType.isNotice]]
      rfl
  confirmed := by
    rw [filter_toldBetween h fun q hq => by simp_all [CmPrimitiveType.isNotice], h.table]
    refine Change.confirmed_apply hs.wellFormed hs.onePending ?_
    rintro d data rfl
    exact hallowed.of_opened.2
  named := by
    intro p hp hend
    have hmem : p ∈ (toldBetween s t).filter (·.type.isEnd) := List.mem_filter.mpr ⟨hp, hend⟩
    rw [filter_toldBetween h fun q hq => CmPrimitiveType.isNotice_of_isEnd hq] at hmem
    rw [h.table]
    -- An end that is told is that of a connection which is gone, or refuses a request that never
    -- became one.
    rcases Change.gone_of_told hs.wellFormed (List.mem_of_mem_filter hmem) hend with
      hgone | ⟨q, cause, rfl, heq⟩
    · exact .inl hgone
    · exact .inr ⟨q, hallowed.of_refuse, heq⟩

/-- A connection with another transaction, if it has the reference of the primitive. -/
def retransacted (p : CmPrimitive) (c : Connection) : Connection :=
  if c.reference = p.reference then { c with transaction := p.transaction } else c

theorem retransacted_frame (p : CmPrimitive) (c : Connection) :
    (retransacted p c).reference = c.reference ∧ (retransacted p c).protocol = c.protocol ∧
      (retransacted p c).state = c.state := by
  unfold retransacted
  split <;> simp

theorem connections_updateTransaction {s : Station} (hs : s.Orderly) (p : CmPrimitive) :
    (s.updateTransaction p).connections.connections =
      s.connections.connections.map (retransacted p) :=
  congrArg ConnectionTable.connections (hs.wellFormed.modifyByReference_eq _ _)

/-- Rewriting the transaction of a connection changes nothing that is accounted for. -/
theorem Accounted.of_updateTransaction {s t : Station} {i : Input} {p : CmPrimitive}
    (hs : s.Orderly) (h : Accounted (s.updateTransaction p) i t) : Accounted s i t := by
  have hconnections := connections_updateTransaction hs p
  have hmem {c : Connection} (hc : c ∈ s.connections.connections) :
      retransacted p c ∈ (s.updateTransaction p).connections.connections :=
    hconnections ▸ List.mem_map_of_mem hc
  -- Renaming changes transactions alone: references and states of connection, which the account is
  -- about, are kept.
  have hreference (r : UInt32) :
      (s.updateTransaction p).connections.hasReference r = s.connections.hasReference r := by
    rw [Bool.eq_iff_iff, ConnectionTable.hasReference_iff, ConnectionTable.hasReference_iff,
      hconnections]
    simp [retransacted_frame]
  refine ⟨h.appended, ?_, ?_, ?_, ?_⟩
  · intro c hc hgone
    have htold := h.gone _ (hmem hc) (by rwa [(retransacted_frame p c).1])
    simp only [retransacted_frame] at htold
    exact htold
  · intro c hc hnew
    exact h.new c hc (by rwa [hreference])
  · refine h.confirmed.trans ?_
    rw [hconnections, List.filter_map, List.map_map]
    simp only [Function.comp_def, Connection.isPending, retransacted_frame]
  · intro q hq hend
    have hnamed := h.named q hq hend
    rwa [hreference] at hnamed

/-- Every input, in every state that a run leads to, is accounted for. -/
theorem handle_accounted (config : Config) (subscriber : Subscriber) (actions : List Action)
    (i : Input) :
    let s := (ofSubscriber config subscriber).run actions
    Accounted s i (s.handle i).station := by
  intro s
  have hs : s.Orderly := orderly_run config subscriber actions
  obtain ⟨change, sent, hfollows, hallowed⟩ := s.handle_follows i
  have haccounted : Accounted (s.lookedUp i) i (s.handle i).station :=
    accounted_of_follows (hs.lookedUp i) hfollows hallowed
  cases i with
  | cm p =>
    -- The account starts from the rewritten table, and is carried back to the one before.
    exact haccounted.of_updateTransaction hs
  | _ => exact haccounted

end Station

end MobileStation
