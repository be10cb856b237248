import Mathlib.Data.Finset.Card
import Mathlib.Data.List.Nodup
import MobileStation.Connection

/-!
# The table of connections

What the operations on the table do to the references, the keys and the pending connections.

Main statements: `add_eq_ok_iff` (when a connection can be added), `WellFormed` and how each
operation keeps it, `modifyByReference_eq` and `modifyPending_eq` (a change of one connection, told
for all).
-/

namespace MobileStation

/-- Of more different values than are in use, one is not. -/
theorem exists_notMem {α : Type} [DecidableEq α] {f : Nat → α} {n : Nat} {used : List α}
    (hlength : used.length < n) (hinj : ∀ i < n, ∀ j < n, f i = f j → i = j) :
    ∃ i < n, f i ∉ used := by
  have hcard : used.toFinset.card < ((Finset.range n).image f).card := by
    rw [Finset.card_image_of_injOn (by simpa [Set.InjOn] using hinj), Finset.card_range]
    exact Nat.lt_of_le_of_lt (List.toFinset_card_le used) hlength
  obtain ⟨a, ha, hnew⟩ := Finset.exists_mem_notMem_of_card_lt_card hcard
  obtain ⟨i, hi, rfl⟩ := Finset.mem_image.mp ha
  exact ⟨i, Finset.mem_range.mp hi, by simpa using hnew⟩

namespace ConnectionTable

/-! ## References, keys and pending connections -/

/-- The references in use, oldest connection first. -/
def references (t : ConnectionTable) : List UInt32 := t.connections.map (·.reference)

/-- How the network names the connections. -/
def keys (t : ConnectionTable) : List (CmProtocol × UInt8) :=
  t.connections.map fun c => (c.protocol, c.transaction)

/-- Number of connections whose request the network has not yet accepted. -/
def pendingCount (t : ConnectionTable) : Nat := t.connections.countP (·.isPending)

/-- No reference is in use twice, and there are at most 32 connections. -/
structure WellFormed (t : ConnectionTable) : Prop where
  capacity : t.capacity = 32
  bounded : t.connections.length ≤ 32
  distinct : t.references.Nodup

theorem hasReference_iff {t : ConnectionTable} {r : UInt32} :
    t.hasReference r = true ↔ ∃ c ∈ t.connections, c.reference = r := by
  simp [hasReference, findByReference?, List.find?_isSome]

theorem not_hasReference_iff {t : ConnectionTable} {r : UInt32} :
    ¬ t.hasReference r = true ↔ ∀ c ∈ t.connections, c.reference ≠ r := by
  simp [hasReference_iff]

theorem pendingCount_eq_zero_iff {t : ConnectionTable} :
    t.pendingCount = 0 ↔ t.pending? = none := by
  simp [pendingCount, pending?, List.countP_eq_zero]

theorem pendingCount_of_isEmpty {t : ConnectionTable} (h : t.isEmpty = true) :
    t.pendingCount = 0 := by
  rw [isEmpty, List.isEmpty_iff] at h
  simp [pendingCount, h]

/-- The reference tells a connection of a well-formed table. -/
theorem WellFormed.eq_of_reference {t : ConnectionTable} (h : t.WellFormed) {c d : Connection}
    (hc : c ∈ t.connections) (hd : d ∈ t.connections) (heq : c.reference = d.reference) : c = d :=
  List.inj_on_of_nodup_map h.distinct hc hd heq

theorem WellFormed.nodup {t : ConnectionTable} (h : t.WellFormed) : t.connections.Nodup :=
  h.distinct.of_map

/-- A reference names at most one connection. -/
theorem WellFormed.countP_reference_le {t : ConnectionTable} (h : t.WellFormed) (r : UInt32) :
    t.connections.countP (·.reference == r) ≤ 1 := by
  have hcount := List.nodup_iff_count_le_one.mp h.distinct r
  rwa [references, List.count, List.countP_map] at hcount

/-- Looking for the reference of a connection finds that connection alone. -/
theorem WellFormed.filter_reference {t : ConnectionTable} (h : t.WellFormed) {c : Connection}
    (hc : c ∈ t.connections) : t.connections.filter (·.reference == c.reference) = [c] := by
  have hsame : t.connections.filter (·.reference == c.reference) =
      t.connections.filter (· == c) := by
    refine List.filter_congr ?_
    intro d hd
    rw [Bool.eq_iff_iff, beq_iff_eq, beq_iff_eq]
    constructor
    · intro heq
      exact h.eq_of_reference hd hc heq
    · rintro rfl
      rfl
  rw [hsame, List.filter_beq, List.count_eq_one_of_mem h.nodup hc, List.replicate_one]

/-! ## Adding -/

/-- A connection can be added if there is room and neither its reference nor its key is in use. -/
theorem add_eq_ok_iff {t t' : ConnectionTable} {c : Connection} :
    t.add c = .ok t' ↔
      t.connections.length < t.capacity ∧ (∀ d ∈ t.connections, d.reference ≠ c.reference) ∧
        (c.protocol, c.transaction) ∉ t.keys ∧
        t' = { t with connections := t.connections ++ [c] } := by
  have hkeys : (t.findByKey? c.protocol c.transaction).isSome = true ↔
      (c.protocol, c.transaction) ∈ t.keys := by
    simp [findByKey?, keys, List.find?_isSome, Connection.hasKey]
  unfold add
  -- The checks in their order: room, reference, key.
  split
  · next hfull => simp; omega
  · next hroom =>
    split
    · next hused =>
      obtain ⟨d, hd, heq⟩ := hasReference_iff.mp hused
      simp only [reduceCtorEq, false_iff]
      intro h
      exact h.2.1 d hd heq
    · next hfree =>
      have hfresh := not_hasReference_iff.mp hfree
      split
      · next htaken =>
        simp only [reduceCtorEq, false_iff]
        intro h
        exact h.2.2.1 (hkeys.mp htaken)
      · next hnew =>
        have hkey : (c.protocol, c.transaction) ∉ t.keys := fun h => hnew (hkeys.mpr h)
        simp only [Except.ok.injEq]
        constructor
        · rintro rfl
          exact ⟨by omega, hfresh, hkey, rfl⟩
        · rintro ⟨_, _, _, rfl⟩
          rfl

theorem WellFormed.add {t t' : ConnectionTable} {c : Connection} (h : t.WellFormed)
    (hadd : t.add c = .ok t') : t'.WellFormed := by
  obtain ⟨hroom, hfresh, _, rfl⟩ := add_eq_ok_iff.mp hadd
  have hcapacity := h.capacity
  refine ⟨hcapacity, ?_, ?_⟩
  · simp only [List.length_append, List.length_singleton]
    omega
  · simp only [references, List.map_append, List.map_cons, List.map_nil]
    refine List.nodup_append.mpr ⟨h.distinct, by simp, ?_⟩
    intro r hr s hs
    obtain ⟨d, hd, rfl⟩ := List.mem_map.mp hr
    rw [List.mem_singleton.mp hs]
    exact hfresh d hd

/-- A connection that can be added has a key of its own. -/
theorem keys_nodup_iff_of_add {t t' : ConnectionTable} {c : Connection} (hadd : t.add c = .ok t') :
    t'.keys.Nodup ↔ t.keys.Nodup := by
  obtain ⟨_, _, hkey, rfl⟩ := add_eq_ok_iff.mp hadd
  simp only [keys, List.map_append, List.map_cons, List.map_nil] at hkey ⊢
  constructor
  · intro h
    exact (List.nodup_append.mp h).1
  · intro h
    refine List.nodup_append.mpr ⟨h, by simp, ?_⟩
    intro k hk k' hk'
    rw [List.mem_singleton.mp hk']
    rintro rfl
    exact hkey hk

/-! ## Dropping -/

/-- Dropping connections keeps a table well formed. -/
theorem WellFormed.sublist {t : ConnectionTable} (h : t.WellFormed) {rest : List Connection}
    (hrest : rest.Sublist t.connections) : { t with connections := rest }.WellFormed where
  capacity := h.capacity
  bounded := Nat.le_trans hrest.length_le h.bounded
  distinct := h.distinct.sublist (hrest.map _)

theorem eraseP_eq_filter {p : Connection → Bool} {l : List Connection} (h : l.countP p ≤ 1) :
    l.eraseP p = l.filter fun c => !p c := by
  induction l with
  | nil => rfl
  | cons c rest ih =>
    rw [List.countP_cons] at h
    by_cases hc : p c = true
    · -- `c` is the one element with `p`, so that the filter keeps all of `rest`.
      have hothers : ∀ d ∈ rest, ¬ p d = true := by
        rw [if_pos hc] at h
        exact List.countP_eq_zero.mp (by omega)
      rw [List.eraseP_cons_of_pos hc, List.filter_cons_of_neg (by simp [hc]),
        List.filter_eq_self.mpr fun d hd => by simp [hothers d hd]]
    · rw [List.eraseP_cons_of_neg hc, List.filter_cons_of_pos (by simp [hc]), ih (by omega)]

/-- Removing a reference leaves the connections with other references. -/
theorem WellFormed.remove_eq {t : ConnectionTable} (h : t.WellFormed) (r : UInt32) :
    t.remove r = { t with connections := t.connections.filter (·.reference != r) } := by
  rw [remove, eraseP_eq_filter (h.countP_reference_le r)]
  rfl

theorem WellFormed.remove {t : ConnectionTable} (h : t.WellFormed) (r : UInt32) :
    (t.remove r).WellFormed :=
  h.sublist List.eraseP_sublist

theorem WellFormed.release {t : ConnectionTable} (h : t.WellFormed) (filter : ReleaseFilter) :
    (t.release filter).WellFormed :=
  h.sublist List.filter_sublist

theorem pendingCount_remove_le (t : ConnectionTable) (r : UInt32) :
    (t.remove r).pendingCount ≤ t.pendingCount :=
  List.eraseP_sublist.countP_le

/-- Every release drops the pending connections. -/
theorem pendingCount_release (t : ConnectionTable) (filter : ReleaseFilter) :
    (t.release filter).pendingCount = 0 := by
  simp only [pendingCount, release, List.countP_eq_zero, List.mem_filter]
  rintro c ⟨_, hc⟩
  cases filter with
  | all => simp [ReleaseFilter.selects] at hc
  | pendingOnly => simpa [ReleaseFilter.selects] using hc

/-! ## Changing one connection -/

theorem map_modifyFirst {β : Type} {g : Connection → β} {f : Connection → Connection}
    (hf : ∀ c, g (f c) = g c) (p : Connection → Bool) (l : List Connection) :
    (modifyFirst p f l).map g = l.map g := by
  induction l with
  | nil => rfl
  | cons c rest ih =>
    unfold modifyFirst
    split
    · simp [hf]
    · simp [ih]

/-- Putting the pending connection into use leaves the keys. -/
theorem keys_confirm (t : ConnectionTable) :
    (t.modifyPending fun c => { c with state := .dedicated }).keys = t.keys :=
  map_modifyFirst (g := fun c => (c.protocol, c.transaction))
    (f := fun c => { c with state := .dedicated }) (fun _ => rfl) _ _

/-- Putting the pending connection into use leaves the references. -/
theorem references_confirm (t : ConnectionTable) :
    (t.modifyPending fun c => { c with state := .dedicated }).references = t.references :=
  map_modifyFirst (g := (·.reference)) (f := fun c => { c with state := .dedicated })
    (fun _ => rfl) _ _

/-- Changing a connection, but not its reference, keeps a table well formed. -/
theorem WellFormed.modifyFirst {t : ConnectionTable} (h : t.WellFormed)
    {f : Connection → Connection} (hf : ∀ c, (f c).reference = c.reference)
    (p : Connection → Bool) :
    { t with connections := modifyFirst p f t.connections }.WellFormed where
  capacity := h.capacity
  bounded := by
    have hlength := congrArg List.length (map_modifyFirst hf p t.connections)
    simp only [List.length_map] at hlength
    exact hlength ▸ h.bounded
  distinct := by
    rw [references, map_modifyFirst hf]
    exact h.distinct

theorem modifyFirst_eq_map {p : Connection → Bool} {l : List Connection} (h : l.countP p ≤ 1)
    (f : Connection → Connection) :
    modifyFirst p f l = l.map fun c => if p c then f c else c := by
  induction l with
  | nil => rfl
  | cons c rest ih =>
    rw [List.countP_cons] at h
    by_cases hc : p c = true
    · -- `c` is the one element with `p`, so that the map leaves all of `rest`.
      have hothers : ∀ d ∈ rest, (if p d then f d else d) = d := by
        rw [if_pos hc] at h
        intro d hd
        exact if_neg (List.countP_eq_zero.mp (by omega) d hd)
      simp only [ConnectionTable.modifyFirst, List.map_cons, if_pos hc]
      rw [List.map_congr_left hothers, List.map_id']
    · simp only [ConnectionTable.modifyFirst, List.map_cons, if_neg hc]
      rw [ih (by omega)]

/-- Changing the connection of a reference changes that connection alone. -/
theorem WellFormed.modifyByReference_eq {t : ConnectionTable} (h : t.WellFormed) (r : UInt32)
    (f : Connection → Connection) :
    t.modifyByReference r f =
      { t with connections := t.connections.map fun c => if c.reference = r then f c else c } := by
  simp only [modifyByReference, modifyFirst_eq_map (h.countP_reference_le r), beq_iff_eq]

/-- A single pending connection is changed alone. -/
theorem modifyPending_eq {t : ConnectionTable} (h : t.pendingCount ≤ 1)
    (f : Connection → Connection) :
    t.modifyPending f =
      { t with connections := t.connections.map fun c => if c.isPending then f c else c } := by
  rw [modifyPending, modifyFirst_eq_map h]

/-- Of at most one fitting connection the first is the only one. -/
theorem filter_eq_toList_find? {p : Connection → Bool} {l : List Connection}
    (h : l.countP p ≤ 1) : l.filter p = (l.find? p).toList := by
  rw [List.countP_eq_length_filter] at h
  rw [← List.head?_filter]
  match hl : l.filter p, h with
  | [], _ => rfl
  | [c], _ => rfl

/-- Changing a connection, but not whether it is pending, leaves the number of pending ones. -/
theorem pendingCount_modifyFirst {f : Connection → Connection}
    (hf : ∀ c, (f c).isPending = c.isPending) (p : Connection → Bool) (t : ConnectionTable) :
    { t with connections := ConnectionTable.modifyFirst p f t.connections }.pendingCount =
      t.pendingCount := by
  have hmap := congrArg (List.countP id) (map_modifyFirst hf p t.connections)
  simpa [pendingCount, List.countP_map, Function.comp_def] using hmap

/-- Without a pending connection there is none to change. -/
theorem modifyPending_of_none {t : ConnectionTable} (h : t.pending? = none)
    (f : Connection → Connection) : t.modifyPending f = t := by
  have hnone := List.countP_eq_zero.mp (pendingCount_eq_zero_iff.mpr h)
  rw [modifyPending_eq (by rw [pendingCount_eq_zero_iff.mpr h]; omega)]
  rw [List.map_congr_left fun c hc => if_neg (hnone c hc), List.map_id']

/-- A single pending connection that is put into use leaves none pending. -/
theorem pendingCount_modifyPending {t : ConnectionTable} (h : t.pendingCount ≤ 1) :
    (t.modifyPending fun c => { c with state := .dedicated }).pendingCount = 0 := by
  rw [modifyPending_eq h, pendingCount, List.countP_eq_zero]
  intro d hd
  obtain ⟨c, _, rfl⟩ := List.mem_map.mp hd
  split
  · simp [Connection.isPending]
  · assumption

end ConnectionTable

end MobileStation
