import Mathlib.Algebra.Group.Nat.Defs
import MobileStation.Proofs.Connections.Pending

/-!
# References for new connections

A connection that the network opens gets a reference that no other connection has. The search for it
counts up from the reference that was given out last, over the end of the 32 bits if need be, and
passes over zero and the references in use. The search has no limit of its own: it ends because the
candidates differ from one another for longer than there are references to pass over.

Main statements: `Search.unique` (a search ends in one way), `search_freeReference` (it ends within
two candidates more than there are connections, where the station looks for it) and
`newReference_found`.
-/

namespace MobileStation

/-! ## The search -/

namespace ConnectionTable

/-- The reference can be given to a new connection: it is not zero, and no connection has it. -/
def IsFree (t : ConnectionTable) (r : UInt32) : Prop :=
  r ≠ 0 ∧ ∀ c ∈ t.connections, c.reference ≠ r

/-- The search that begins with the candidate `r` examines so many candidates, the last of which is
its result. Behind the largest reference it goes on with zero. -/
inductive Search (t : ConnectionTable) : (r : UInt32) → (examined : Nat) → (result : UInt32) → Prop
  | hit (r : UInt32) (h : t.IsFree r) : Search t r 1 r
  | miss (r : UInt32) (examined : Nat) (result : UInt32) (h : ¬ t.IsFree r)
      (hrest : Search t (r + 1) examined result) : Search t r (examined + 1) result

variable {t : ConnectionTable}

theorem Search.isFree {r result : UInt32} {examined : Nat} (h : t.Search r examined result) :
    t.IsFree result := by
  induction h with
  | hit r h => exact h
  | miss r examined result h hrest ih => exact ih

/-- A search ends in one way. -/
theorem Search.unique {r result result' : UInt32} {examined examined' : Nat}
    (h : t.Search r examined result) (h' : t.Search r examined' result') :
    examined = examined' ∧ result = result' := by
  induction h generalizing examined' with
  | hit r hfree =>
    cases h' with
    | hit => exact ⟨rfl, rfl⟩
    | miss _ _ _ hnot => exact absurd hfree hnot
  | miss r examined result hnot hrest ih =>
    cases h' with
    | hit _ hfree => exact absurd hfree hnot
    | miss _ examined' _ _ hrest' =>
      obtain ⟨rfl, rfl⟩ := ih hrest'
      exact ⟨rfl, rfl⟩

/-- The search ends with the first candidate that is free. -/
theorem search_of_first {r : UInt32} {i : Nat} (hfree : t.IsFree (r + UInt32.ofNat i))
    (hbefore : ∀ j < i, ¬ t.IsFree (r + UInt32.ofNat j)) :
    t.Search r (i + 1) (r + UInt32.ofNat i) := by
  have hzero (r : UInt32) : r + UInt32.ofNat 0 = r := UInt32.add_zero r
  have hnext (r : UInt32) (j : Nat) : r + UInt32.ofNat (j + 1) = r + 1 + UInt32.ofNat j := by
    rw [UInt32.ofNat_add, UInt32.add_assoc, UInt32.add_comm (UInt32.ofNat j)]
    rfl
  -- The induction is on the distance to the first free number. The counter moves with it, and wraps
  -- around.
  induction i generalizing r with
  | zero =>
    rw [hzero] at hfree ⊢
    exact .hit r hfree
  | succ i ih =>
    have hfirst := hbefore 0 (by omega)
    rw [hzero] at hfirst
    rw [hnext] at hfree ⊢
    refine .miss r _ _ hfirst (ih hfree ?_)
    intro j hj
    rw [← hnext]
    exact hbefore (j + 1) (by omega)

/-- Of two candidates more than there are connections, one is free: they differ from one another,
and only zero and the references in use are not free. -/
theorem exists_isFree (h : t.connections.length + 2 ≤ 2 ^ 32) (r : UInt32) :
    ∃ i < t.connections.length + 2, t.IsFree (r + UInt32.ofNat i) := by
  -- Zero counts as used, hence the second number to spare.
  have hlength : (0 :: t.references).length < t.connections.length + 2 := by
    simp only [List.length_cons, references, List.length_map]
    omega
  have hinj : ∀ i < t.connections.length + 2, ∀ j < t.connections.length + 2,
      r + UInt32.ofNat i = r + UInt32.ofNat j → i = j := by
    intro i hi j hj heq
    have hnat := congrArg UInt32.toNat ((UInt32.add_right_inj _).mp heq)
    simp only [UInt32.toNat_ofNat'] at hnat
    omega
  obtain ⟨i, hi, hunused⟩ := exists_notMem hlength hinj
  rw [List.mem_cons, not_or] at hunused
  refine ⟨i, hi, hunused.1, ?_⟩
  intro c hc heq
  exact hunused.2 (heq ▸ List.mem_map_of_mem hc)

end ConnectionTable

namespace Station

/-! ## The free reference -/

theorem isFree_iff (s : Station) (r : UInt32) :
    (r ≠ 0 && !s.connections.hasReference r) = true ↔ s.connections.IsFree r := by
  have hunused : (!s.connections.hasReference r) = true ↔
      ∀ c ∈ s.connections.connections, c.reference ≠ r := by
    rw [← ConnectionTable.not_hasReference_iff, Bool.not_eq_true', Bool.not_eq_true]
  rw [Bool.and_eq_true, hunused, decide_eq_true_eq, ConnectionTable.IsFree]

/-- With room for it in 32 bits, the search from the next reference ends, and the candidates that
the station looks through are enough for it. -/
theorem search_freeReference {s : Station} (h : s.connections.connections.length + 2 ≤ 2 ^ 32) :
    ∃ examined ≤ s.connections.connections.length + 2,
      s.connections.Search s.nextReference examined s.freeReference := by
  have hfits : ∃ r ∈ s.referenceCandidates, (r ≠ 0 && !s.connections.hasReference r) = true := by
    obtain ⟨i, hi, hfree⟩ := ConnectionTable.exists_isFree h s.nextReference
    exact ⟨_, List.mem_map_of_mem (List.mem_range.mpr hi), (s.isFree_iff _).mpr hfree⟩
  obtain ⟨r, hr⟩ := Option.isSome_iff_exists.mp (List.find?_isSome.mpr hfits)
  have hreference : s.freeReference = r := by rw [freeReference, hr, Option.getD_some]
  -- The first candidate that fits stands behind others that do not.
  obtain ⟨hfree, i, hi, hcandidate, hbefore⟩ := List.find?_eq_some_iff_getElem.mp hr
  simp only [referenceCandidates, List.length_map, List.length_range] at hi
  simp only [referenceCandidates, List.getElem_map, List.getElem_range] at hcandidate hbefore
  refine ⟨i + 1, hi, ?_⟩
  rw [hreference, ← hcandidate]
  rw [isFree_iff, ← hcandidate] at hfree
  refine ConnectionTable.search_of_first hfree ?_
  intro j hj
  have hnot := hbefore j hj
  rwa [Bool.not_eq_true', ← Bool.not_eq_true, isFree_iff] at hnot

/-- With room for it in 32 bits, the reference of a new connection is not zero and not in use. -/
theorem freeReference_unused {s : Station} (h : s.connections.connections.length + 2 ≤ 2 ^ 32) :
    s.freeReference ≠ 0 ∧ ∀ c ∈ s.connections.connections, c.reference ≠ s.freeReference := by
  obtain ⟨examined, -, hsearch⟩ := search_freeReference h
  exact hsearch.isFree

/-! ## Opening a connection -/

/-- The connection that the network opens with a message. -/
def openedConnection (s : Station) (protocol : CmProtocol) (transaction : UInt8) : Connection where
  protocol := protocol
  transaction := transaction
  reference := s.freeReference
  state := .dedicated

/-- A full table refuses the connection, whatever its name. -/
theorem openConnection_of_full {s : Station}
    (h : s.connections.capacity ≤ s.connections.connections.length) (protocol : CmProtocol)
    (transaction : UInt8) :
    s.openConnection protocol transaction = .error (.exhausted s.connections.capacity) := by
  simp only [openConnection, ConnectionTable.add, if_pos h]
  rfl

/-- With room for it, a connection with an unused name is opened. -/
theorem openConnection_of_room {s : Station} {protocol : CmProtocol} {transaction : UInt8}
    (hs : s.connections.WellFormed)
    (hnone : s.connections.findByKey? protocol transaction = none)
    (hroom : s.connections.connections.length < s.connections.capacity) :
    s.openConnection protocol transaction = .ok
      ({ s.connections with
          connections :=
            s.connections.connections ++ [s.openedConnection protocol transaction] },
        (s.openedConnection protocol transaction).primitive .establishIndication) := by
  have hbounded := hs.bounded
  have hunused := s.freeReference_unused (by omega)
  -- The key is not in the table, for it was looked up before.
  have hkey : (protocol, transaction) ∉ s.connections.keys := by
    intro hmem
    obtain ⟨c, hc, heq⟩ := List.mem_map.mp hmem
    obtain ⟨rfl, rfl⟩ := Prod.mk.inj heq
    have hnot := List.find?_eq_none.mp hnone c hc
    simp [Connection.hasKey] at hnot
  have hadd : s.connections.add (s.openedConnection protocol transaction) = .ok _ :=
    ConnectionTable.add_eq_ok_iff.mpr ⟨hroom, hunused.2, hkey, rfl⟩
  show (s.connections.add (s.openedConnection protocol transaction) >>= fun table =>
    .ok (table, (s.openedConnection protocol transaction).primitive .establishIndication)) = _
  rw [hadd]
  rfl

/-- A message for connection management is lost only where there are 32 connections already. -/
theorem failure_receiveCm {s : Station} (hs : s.connections.WellFormed) (protocol : CmProtocol)
    (header : Header) (data : Octets) :
    (s.receiveCm protocol header data).failure = none ∨
      (s.receiveCm protocol header data).failure = some (.connection (.exhausted 32)) := by
  cases hfind : s.connections.findByKey? protocol header.transaction with
  | some c =>
    simp only [receiveCm, hfind]
    exact .inl rfl
  | none =>
    by_cases hroom : s.connections.connections.length < s.connections.capacity
    · simp only [receiveCm, hfind, openConnection_of_room hs hfind hroom]
      exact .inl rfl
    · simp only [receiveCm, hfind, openConnection_of_full (Nat.not_lt.mp hroom), hs.capacity]
      exact .inr rfl

/-! ## Runs -/

/-- After every run, and wherever the search for a reference is set to begin, it ends within two
candidates more than there are connections. What it finds is given out: a reference that is not zero
and not in use. Nothing changes but where the next search begins. So a connection that the network
opens can be refused for want of room alone, not because its name is in use. -/
theorem newReference_found (config : Config) (subscriber : Subscriber) (actions : List Action)
    (counter : UInt32) :
    let s := { (ofSubscriber config subscriber).run actions with nextReference := counter }
    let reference := s.newReference.1
    (∃ examined ≤ s.connections.connections.length + 2, ∀ n r,
        s.connections.Search counter n r ↔ n = examined ∧ r = reference) ∧
      reference ≠ 0 ∧ (∀ c ∈ s.connections.connections, c.reference ≠ reference) ∧
      s.newReference.2 = { s with nextReference := reference + 1 } ∧
      ∀ protocol header data,
        (s.receiveCm protocol header data).failure = none ∨
          (s.receiveCm protocol header data).failure = some (.connection (.exhausted 32)) := by
  intro s reference
  have horderly := orderly_run config subscriber actions
  have hwell : s.connections.WellFormed := horderly.wellFormed
  have hbounded := hwell.bounded
  obtain ⟨examined, hexamined, hsearch⟩ := search_freeReference (s := s) (by omega)
  refine ⟨⟨examined, hexamined, ?_⟩, hsearch.isFree.1, hsearch.isFree.2, rfl, ?_⟩
  · intro n r
    -- The search is deterministic, so it takes just as many steps as there are numbers to pass.
    constructor
    · intro hother
      exact hother.unique hsearch
    · rintro ⟨rfl, rfl⟩
      exact hsearch
  · exact failure_receiveCm hwell

end Station

end MobileStation
