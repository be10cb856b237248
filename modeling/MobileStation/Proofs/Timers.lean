import Mathlib.Algebra.Group.Nat.Defs
import MobileStation.Timer

/-!
# Timers of a set

What the operations on a set of timers do to one of them. A timer runs out at the first tick at or
after its deadline, and is stopped by it. Over a whole sequence of operations its starts and its
expiries go into one account: a start that is not refused pays for a single expiry, and the deadline
that the timer runs to is the one that was set last.

Main statements: `fires` (what a tick reports and what it leaves), `accounts_perform` and
`accounts_run` (the account of one operation and of a sequence), `fits_run_iff` (whether a clock can
tell the deadlines of a sequence), `fires_when_due`.
-/

namespace MobileStation

theorem TimerName.mem_all (x : TimerName) : x ∈ all := by
  cases x <;> decide

/-! ## The account of a timer -/

namespace Timer

theorem isRunning_of_deadline {t : Timer} {d : Nat} (h : t.deadline = some d) :
    t.isRunning = true :=
  Option.isSome_of_eq_some h

/-- A timer is due once its deadline has come. -/
theorem isDue_iff {t : Timer} {now : Nat} :
    t.isDue now = true ↔ ∃ d, t.deadline = some d ∧ d ≤ now := by
  unfold isDue
  cases t.deadline <;> simp

/-- What became of a timer in the meantime. It was started so many times and ran out so many times,
and no expiry was without a start: one that is not yet used up keeps the timer running. If it runs,
then to the deadline that was set last, or else to the one it had before. -/
structure Accounts (before after : Timer) (starts expiries : Nat) (set? : Option Nat) : Prop where
  counted : after.expiries = before.expiries + UInt32.ofNat expiries
  spent : expiries + after.isRunning.toNat ≤ starts + before.isRunning.toNat
  last : ∀ d, after.deadline = some d → set?.or before.deadline = some d

namespace Accounts

variable {a b c : Timer} {starts starts' expiries expiries' : Nat} {set? set?' : Option Nat}

theorem refl (t : Timer) : Accounts t t 0 0 none where
  counted := (UInt32.add_zero _).symm
  spent := Nat.le_refl _
  last := fun _ h => h

theorem trans (h : Accounts a b starts expiries set?) (h' : Accounts b c starts' expiries' set?') :
    Accounts a c (starts + starts') (expiries + expiries') (set?'.or set?) where
  counted := by rw [h'.counted, h.counted, UInt32.ofNat_add, UInt32.add_assoc]
  spent := by
    have hfirst := h.spent
    have hsecond := h'.spent
    omega
  last := by
    intro d hd
    rw [Option.or_assoc]
    obtain hset | ⟨hnone, hbefore⟩ := Option.or_eq_some_iff.mp (h'.last d hd)
    · rw [hset, Option.some_or]
    · rw [hnone, Option.none_or, h.last d hbefore]

theorem start (t : Timer) (now interval : Nat) :
    Accounts t (t.start now interval) 1 0 (some (now + interval)) where
  counted := (UInt32.add_zero _).symm
  spent := by
    have hruns : (t.start now interval).isRunning.toNat = 1 := rfl
    omega
  last := fun _ h => h

theorem stop (t : Timer) : Accounts t t.stop 0 0 none where
  counted := (UInt32.add_zero _).symm
  spent := by
    have hstops : t.stop.isRunning.toNat = 0 := rfl
    omega
  last := nofun

theorem setRemaining (t : Timer) (now rest : Nat) :
    Accounts t (t.setRemaining now rest) 0 0 (if t.isRunning then some (now + rest) else none) where
  counted := (UInt32.add_zero _).symm
  spent := by
    have hkept : (t.setRemaining now rest).isRunning = t.isRunning := Option.isSome_map
    simp [hkept]
  last := by
    intro d hd
    obtain ⟨deadline, hdeadline, rfl⟩ := Option.map_eq_some_iff.mp hd
    rw [if_pos (isRunning_of_deadline hdeadline), Option.some_or]

/-- A timer runs out only while it runs, and stops with that. -/
theorem expire (t : Timer) (now : Nat) :
    Accounts t (t.expire now) 0 (t.isDue now).toNat none := by
  unfold Timer.expire
  split
  · next hdue =>
    obtain ⟨d, hdeadline, -⟩ := isDue_iff.mp hdue
    rw [hdue]
    refine ⟨rfl, ?_, nofun⟩
    simp [isRunning, hdeadline]
  · next hnot =>
    rw [Bool.not_eq_true] at hnot
    rw [hnot]
    exact .refl t

end Accounts

end Timer

namespace TimerSet

/-! ## Which timers run -/

theorem get_start (s : TimerSet) (a b : TimerName) (now interval : Nat) :
    (s.start a now interval).get b =
      if b = a ∧ s.canStart a interval = true then (s.get b).start now interval else s.get b := by
  unfold start
  split
  · next hcan =>
    rw [get_set]
    by_cases h : b = a
    · subst h
      rw [if_pos rfl, if_pos ⟨rfl, hcan⟩]
    · rw [if_neg h, if_neg fun hboth => h hboth.1]
  · next hrefused => rw [if_neg fun hboth => hrefused hboth.2]

theorem get_stop (s : TimerSet) (a b : TimerName) :
    (s.stop a).get b = if b = a then (s.get b).stop else s.get b := by
  rw [stop, get_set]
  by_cases h : b = a
  · subst h
    rfl
  · rw [if_neg h, if_neg h]

theorem get_setRemaining (s : TimerSet) (a b : TimerName) (now rest : Nat) :
    (s.setRemaining a now rest).get b =
      if b = a then (s.get b).setRemaining now rest else s.get b := by
  rw [setRemaining, get_set]
  by_cases h : b = a
  · subst h
    rfl
  · rw [if_neg h, if_neg h]

@[simp] theorem isRunning_stop_of_ne (s : TimerSet) {a b : TimerName} (h : b ≠ a) :
    (s.stop a).isRunning b = s.isRunning b := by
  rw [isRunning, get_stop, if_neg h, isRunning]

@[simp] theorem isRunning_setRemaining (s : TimerSet) (a b : TimerName) (now rest : Nat) :
    (s.setRemaining a now rest).isRunning b = s.isRunning b := by
  rw [isRunning, get_setRemaining]
  split
  · exact Option.isSome_map
  · rfl

theorem isRunning_start_of_ne (s : TimerSet) {a b : TimerName} (h : b ≠ a) (now interval : Nat) :
    (s.start a now interval).isRunning b = s.isRunning b := by
  rw [isRunning, get_start, if_neg fun hboth => h hboth.1, isRunning]

theorem isRunning_start_of_canStart {s : TimerSet} {a : TimerName} {interval : Nat}
    (h : s.canStart a interval = true) (now : Nat) :
    (s.start a now interval).isRunning a = true := by
  rw [isRunning, get_start, if_pos ⟨rfl, h⟩]
  rfl

/-- Every timer but T3212 runs once it has been started. -/
theorem isRunning_start (s : TimerSet) {a : TimerName} (h : a ≠ .t3212) (now interval : Nat) :
    (s.start a now interval).isRunning a = true :=
  isRunning_start_of_canStart (by simp [canStart, h]) now

/-- T3212 runs once it was started, for any time but none. -/
theorem isRunning_start_periodic (s : TimerSet) (now : Nat) {interval : Nat}
    (h : interval ≠ 0) : (s.start .t3212 now interval).isRunning .t3212 = true := by
  cases hrunning : s.isRunning .t3212 with
  | true =>
    have hkept : s.canStart .t3212 interval = false := by simp [canStart, hrunning]
    rw [start, hkept, if_neg Bool.false_ne_true, hrunning]
  | false => exact isRunning_start_of_canStart (by simp [canStart, h, hrunning]) now

/-- A timer that runs out was running. -/
theorem isRunning_of_isDue {s : TimerSet} {a : TimerName} {now : Nat}
    (h : (s.get a).isDue now = true) : s.isRunning a = true := by
  obtain ⟨d, hdeadline, -⟩ := Timer.isDue_iff.mp h
  exact Timer.isRunning_of_deadline hdeadline

/-- A running timer that a tick stops has run out. -/
theorem isRunning_tick (s : TimerSet) (now : Nat) (a : TimerName) :
    (s.tick now).isRunning a = (s.isRunning a && !(s.get a).isDue now) := by
  simp only [isRunning, tick, get_map, Timer.expire, Timer.isRunning]
  split
  · next h => simp [h]
  · next h => simp [h]

/-! ## A tick -/

theorem mem_due {s : TimerSet} {now : Nat} {a : TimerName} :
    a ∈ s.due now ↔ (s.get a).isDue now = true := by
  simp only [due, List.mem_filter, a.mem_all, true_and]

theorem nodup_due (s : TimerSet) (now : Nat) : (s.due now).Nodup :=
  List.Nodup.sublist List.filter_sublist (by decide)

theorem map_timer_expiries (s : TimerSet) (now : Nat) :
    (s.expiries now).map Expiry.timer = s.due now := by
  rw [expiries, List.map_map]
  exact List.map_id _

/-- The earliest deadline is ahead if and only if every deadline is. -/
theorem nextDeadline_ahead_iff {s : TimerSet} {now : Nat} :
    (∀ d, s.nextDeadline = some d → now < d) ↔ ∀ t d, (s.get t).deadline = some d → now < d := by
  constructor
  · intro hnext t d hd
    have hmem : d ∈ TimerName.all.filterMap fun t => (s.get t).deadline :=
      List.mem_filterMap.mpr ⟨t, t.mem_all, hd⟩
    -- A timer that runs makes one of the deadlines, so there is a least one.
    cases hmin : s.nextDeadline with
    | none =>
      rw [List.min?_eq_none_iff.mp hmin] at hmem
      cases hmem
    | some m =>
      have hle : m ≤ d := (List.min?_eq_some_iff.mp hmin).2 d hmem
      have hahead := hnext m hmin
      omega
  · intro hall d hd
    obtain ⟨t, -, ht⟩ := List.mem_filterMap.mp (List.min?_eq_some_iff.mp hd).1
    exact hall t d ht

/-- A tick reports exactly the timers that are due, each once and in the order of their numbers, and
stops and counts those; no other timer is touched. It reports nothing exactly if the earliest
deadline, should there be one, is still ahead. -/
structure Fires (s : TimerSet) (now : Nat) : Prop where
  due : ∀ t, t ∈ (s.expiries now).map Expiry.timer ↔ ∃ d, (s.get t).deadline = some d ∧ d ≤ now
  once : ((s.expiries now).map Expiry.timer).Nodup
  inOrder : ((s.expiries now).map Expiry.timer).Sublist TimerName.all
  stops : ∀ e ∈ s.expiries now, (s.tick now).get e.timer =
    { s.get e.timer with deadline := none, expiries := (s.get e.timer).expiries + 1 }
  counts : ∀ e ∈ s.expiries now, e.count = ((s.tick now).get e.timer).expiries
  keeps : ∀ t, t ∉ (s.expiries now).map Expiry.timer → (s.tick now).get t = s.get t
  nothing : s.expiries now = [] ↔ ∀ d, s.nextDeadline = some d → now < d

theorem fires (s : TimerSet) (now : Nat) : Fires s now where
  due := by
    intro t
    rw [map_timer_expiries, mem_due, Timer.isDue_iff]
  once := by
    rw [map_timer_expiries]
    exact s.nodup_due now
  inOrder := by
    rw [map_timer_expiries]
    exact List.filter_sublist
  stops := by
    intro e he
    have hdue : e.timer ∈ s.due now := s.map_timer_expiries now ▸ List.mem_map_of_mem he
    rw [tick, get_map, Timer.expire, if_pos (mem_due.mp hdue)]
  counts := by
    intro e he
    obtain ⟨t, -, rfl⟩ := List.mem_map.mp he
    rfl
  keeps := by
    intro t ht
    rw [map_timer_expiries, mem_due] at ht
    rw [tick, get_map, Timer.expire, if_neg ht]
  -- Nothing fires before the next deadline, and at that something does.
  nothing := by
    rw [nextDeadline_ahead_iff, ← List.map_eq_nil_iff, map_timer_expiries,
      List.eq_nil_iff_forall_not_mem]
    constructor
    · intro hnone t d hd
      have hnot := hnone t
      rw [mem_due, Timer.isDue_iff] at hnot
      exact Nat.lt_of_not_le fun hle => hnot ⟨d, hd, hle⟩
    · intro hall t ht
      obtain ⟨d, hd, hle⟩ := Timer.isDue_iff.mp (mem_due.mp ht)
      have hahead := hall t d hd
      omega

/-! ## Operations -/

/-- What the owner of the timers can do with them. -/
inductive Operation where
  | start (name : TimerName) (now interval : Nat)
  | stop (name : TimerName)
  | stopAll
  | setRemaining (name : TimerName) (now rest : Nat)
  | tick (now : Nat)
  deriving DecidableEq

/-- The timers after an operation. -/
def perform (s : TimerSet) : Operation → TimerSet
  | .start name now interval => s.start name now interval
  | .stop name => s.stop name
  | .stopAll => s.stopAll
  | .setRemaining name now rest => s.setRemaining name now rest
  | .tick now => s.tick now

/-- What the owner learns from an operation. -/
def report (s : TimerSet) : Operation → List Expiry
  | .tick now => s.expiries now
  | _ => []

/-- How often an operation reports the timer. -/
def expiriesOf (s : TimerSet) (t : TimerName) (op : Operation) : Nat :=
  ((s.report op).map Expiry.timer).count t

/-- The operation starts the timer and is not refused. -/
def starts (s : TimerSet) (t : TimerName) : Operation → Bool
  | .start name _ interval => t = name && s.canStart name interval
  | _ => false

/-- The deadline that an operation sets for the timer: by a start that is not refused, or by moving
the deadline of a running timer. -/
def newDeadline? (s : TimerSet) (t : TimerName) : Operation → Option Nat
  | .start name now interval =>
    if t = name ∧ s.canStart name interval = true then some (now + interval) else none
  | .setRemaining name now rest =>
    if t = name ∧ s.isRunning name = true then some (now + rest) else none
  | _ => none

theorem expiriesOf_tick (s : TimerSet) (t : TimerName) (now : Nat) :
    s.expiriesOf t (.tick now) = ((s.get t).isDue now).toNat := by
  show ((s.expiries now).map Expiry.timer).count t = _
  rw [map_timer_expiries, (s.nodup_due now).count]
  cases hdue : (s.get t).isDue now with
  | true => exact if_pos (mem_due.mpr hdue)
  | false =>
    refine if_neg ?_
    rw [mem_due, hdue]
    exact Bool.false_ne_true

/-- The account of one operation. -/
theorem accounts_perform (s : TimerSet) (t : TimerName) (op : Operation) :
    Timer.Accounts (s.get t) ((s.perform op).get t) (s.starts t op).toNat (s.expiriesOf t op)
      (s.newDeadline? t op) := by
  -- An operation on one timer is seen by this timer alone; stopping all and the clock are seen by
  -- each.
  cases op with
  | start name now interval =>
    show Timer.Accounts (s.get t) ((s.start name now interval).get t)
      (t = name && s.canStart name interval).toNat 0 (if _ then _ else _)
    rw [get_start]
    by_cases hstarts : t = name ∧ s.canStart name interval = true
    · rw [if_pos hstarts, if_pos hstarts, decide_eq_true hstarts.1, hstarts.2]
      exact .start (s.get t) now interval
    · have hrefused : (t = name && s.canStart name interval) = false := by simpa using hstarts
      rw [if_neg hstarts, if_neg hstarts, hrefused]
      exact .refl (s.get t)
  | stop name =>
    show Timer.Accounts (s.get t) ((s.stop name).get t) 0 0 none
    rw [get_stop]
    split
    · exact .stop (s.get t)
    · exact .refl (s.get t)
  | stopAll =>
    show Timer.Accounts (s.get t) (s.stopAll.get t) 0 0 none
    rw [stopAll, get_map]
    exact .stop (s.get t)
  | setRemaining name now rest =>
    show Timer.Accounts (s.get t) ((s.setRemaining name now rest).get t) 0 0 (if _ then _ else _)
    rw [get_setRemaining]
    by_cases h : t = name
    · subst h
      rw [if_pos rfl]
      simp only [true_and]
      exact .setRemaining (s.get t) now rest
    · rw [if_neg h, if_neg fun hboth => h hboth.1]
      exact .refl (s.get t)
  | tick now =>
    show Timer.Accounts (s.get t) ((s.tick now).get t) 0 (s.expiriesOf t (.tick now)) none
    rw [expiriesOf_tick, tick, get_map]
    exact .expire (s.get t) now

/-- A timer remembers the latest of its deadlines, and an operation sets at most one more. -/
theorem latest_perform (s : TimerSet) (t : TimerName) (op : Operation) :
    ((s.perform op).get t).latest =
      (s.newDeadline? t op).elim (s.get t).latest (max (s.get t).latest) := by
  cases op with
  | start name now interval =>
    show ((s.start name now interval).get t).latest = Option.elim (if _ then _ else _) _ _
    rw [get_start]
    split
    · rfl
    · rfl
  | stop name =>
    show ((s.stop name).get t).latest = _
    rw [get_stop]
    split
    · rfl
    · rfl
  | stopAll =>
    show (s.stopAll.get t).latest = _
    rw [stopAll, get_map]
    rfl
  | setRemaining name now rest =>
    show ((s.setRemaining name now rest).get t).latest = Option.elim (if _ then _ else _) _ _
    rw [get_setRemaining]
    by_cases h : t = name
    · subst h
      rw [if_pos rfl]
      -- A timer that is stopped stays so, and no deadline is set for it.
      cases hrunning : s.isRunning t with
      | true =>
        rw [if_pos ⟨rfl, rfl⟩]
        exact if_pos hrunning
      | false =>
        rw [if_neg fun hboth => Bool.false_ne_true hboth.2]
        exact if_neg fun hruns => Bool.false_ne_true (hrunning.symm.trans hruns)
    · rw [if_neg h, if_neg fun hboth => h hboth.1]
      rfl
  | tick now =>
    show ((s.tick now).get t).latest = (s.get t).latest
    rw [tick, get_map, Timer.expire]
    split
    · rfl
    · rfl

/-! ## Sequences of operations -/

/-- The timers after a sequence of operations. -/
def run (s : TimerSet) (ops : List Operation) : TimerSet := ops.foldl perform s

theorem run_cons (s : TimerSet) (op : Operation) (rest : List Operation) :
    s.run (op :: rest) = (s.perform op).run rest := rfl

theorem run_append (s : TimerSet) (ops ops' : List Operation) :
    s.run (ops ++ ops') = (s.run ops).run ops' :=
  List.foldl_append

/-- How often the timer is reported in a sequence of operations. -/
def expiriesIn (t : TimerName) (s : TimerSet) : List Operation → Nat
  | [] => 0
  | op :: rest => s.expiriesOf t op + expiriesIn t (s.perform op) rest

/-- How often the timer is started in a sequence of operations, refused starts left out. -/
def startsIn (t : TimerName) (s : TimerSet) : List Operation → Nat
  | [] => 0
  | op :: rest => (s.starts t op).toNat + startsIn t (s.perform op) rest

/-- The deadline that a sequence of operations sets for the timer last. -/
def lastDeadline? (t : TimerName) (s : TimerSet) : List Operation → Option Nat
  | [] => none
  | op :: rest => (lastDeadline? t (s.perform op) rest).or (s.newDeadline? t op)

/-- The account of a sequence of operations. -/
theorem accounts_run (s : TimerSet) (t : TimerName) (ops : List Operation) :
    Timer.Accounts (s.get t) ((s.run ops).get t) (startsIn t s ops) (expiriesIn t s ops)
      (lastDeadline? t s ops) := by
  induction ops generalizing s with
  | nil => exact .refl _
  | cons op rest ih => exact (s.accounts_perform t op).trans (ih (s.perform op))

/-! ## A clock with an end -/

theorem fits_iff {s : TimerSet} {horizon : Nat} :
    s.fits horizon = true ↔ ∀ t, (s.get t).latest ≤ horizon := by
  rw [fits, List.all_eq_true]
  constructor
  · intro h t
    exact of_decide_eq_true (h t t.mem_all)
  · intro h t _
    exact decide_eq_true (h t)

theorem fits_perform_iff {s : TimerSet} {op : Operation} {horizon : Nat} :
    (s.perform op).fits horizon = true ↔
      s.fits horizon = true ∧ ∀ t d, s.newDeadline? t op = some d → d ≤ horizon := by
  rw [fits_iff, fits_iff, ← forall_and]
  apply forall_congr'
  intro t
  rw [latest_perform]
  cases s.newDeadline? t op with
  | none => simp
  | some d =>
    rw [Option.elim_some, Nat.max_le]
    simp

/-- The clock can tell every deadline after a sequence of operations exactly if it could before, and
can tell each that an operation of the sequence sets. -/
theorem fits_run_iff {s : TimerSet} {ops : List Operation} {horizon : Nat} :
    (s.run ops).fits horizon = true ↔
      s.fits horizon = true ∧
        ∀ before op after, ops = before ++ op :: after →
          ∀ t d, (s.run before).newDeadline? t op = some d → d ≤ horizon := by
  induction ops generalizing s with
  | nil => simp [run]
  | cons op rest ih =>
    rw [run_cons, ih, fits_perform_iff, and_assoc]
    refine and_congr_right fun _ => ?_
    constructor
    · rintro ⟨hfirst, hrest⟩ before op' after heq
      -- The operation is the first one, or one of the rest.
      cases before with
      | nil =>
        obtain ⟨rfl, -⟩ := List.cons.inj heq
        exact hfirst
      | cons first before =>
        obtain ⟨rfl, htail⟩ := List.cons.inj heq
        exact hrest before op' after htail
    · intro hall
      refine ⟨hall [] op rest rfl, ?_⟩
      intro before op' after heq
      exact hall (op :: before) op' after (by rw [heq, List.cons_append])

/-- Whatever deadline the operation sets, it is not behind `time`. -/
def Operation.EndsBy (op : Operation) (time : Nat) : Prop :=
  ∀ (s : TimerSet) (t : TimerName) (d : Nat), s.newDeadline? t op = some d → d ≤ time

theorem Operation.EndsBy.start {now interval time : Nat} (h : now + interval ≤ time)
    (name : TimerName) : EndsBy (.start name now interval) time := by
  intro s t d hd
  simp only [newDeadline?, Option.ite_none_right_eq_some] at hd
  obtain ⟨-, hd⟩ := hd
  cases hd
  exact h

theorem Operation.EndsBy.setRemaining {now rest time : Nat} (h : now + rest ≤ time)
    (name : TimerName) : EndsBy (.setRemaining name now rest) time := by
  intro s t d hd
  simp only [newDeadline?, Option.ite_none_right_eq_some] at hd
  obtain ⟨-, hd⟩ := hd
  cases hd
  exact h

theorem Operation.EndsBy.stop (name : TimerName) (time : Nat) : EndsBy (.stop name) time := by
  intro s t d hd
  cases hd

theorem Operation.EndsBy.mono {op : Operation} {time later : Nat} (h : op.EndsBy time)
    (hlater : time ≤ later) : op.EndsBy later :=
  fun s t d hd => Nat.le_trans (h s t d hd) hlater

/-- Operations that end in time leave nothing that the clock cannot tell. -/
theorem fits_run {s : TimerSet} {ops : List Operation} {horizon : Nat}
    (h : s.fits horizon = true) (hops : ∀ op ∈ ops, op.EndsBy horizon) :
    (s.run ops).fits horizon = true := by
  refine fits_run_iff.mpr ⟨h, ?_⟩
  intro before op after heq t d hd
  exact hops op (by simp [heq]) _ t d hd

/-! ## Firing -/

/-- After any sequence of operations on timers that were stopped at first, a tick fires what is due.
Each timer has run out as often as it says, for the first 2^32 times, and never more often than it
was started, a start that it is still running from not counted. Wherever a tick of the sequence
reported a timer, a deadline had been set for it, and the one that was set last had come. -/
theorem fires_when_due (ops : List Operation) :
    (∀ now, Fires (stopped.run ops) now) ∧
    (∀ t, let expiries := expiriesIn t stopped ops
      (expiries < 2 ^ 32 → ((stopped.run ops).get t).expiries.toNat = expiries) ∧
        expiries + ((stopped.run ops).isRunning t).toNat ≤ startsIn t stopped ops) ∧
    ∀ before now after, ops = before ++ .tick now :: after →
      ∀ e ∈ (stopped.run before).expiries now,
        ∃ d, lastDeadline? e.timer stopped before = some d ∧ d ≤ now := by
  have hstopped (t : TimerName) : stopped.get t = .stopped := by cases t <;> rfl
  refine ⟨fires _, ?_, ?_⟩
  · intro t expiries
    have haccounts := stopped.accounts_run t ops
    rw [hstopped] at haccounts
    constructor
    · intro hsmall
      -- The counter of a timer starts again behind 2^32 expiries.
      have hcounted : ((stopped.run ops).get t).expiries = UInt32.ofNat expiries := by
        rw [haccounts.counted]
        exact UInt32.zero_add _
      rw [hcounted, UInt32.toNat_ofNat']
      exact Nat.mod_eq_of_lt hsmall
    · exact haccounts.spent
  · intro before now after _ e he
    -- A timer that is reported was running, and its account tells the deadline that it ran to.
    have hreported : e.timer ∈ ((stopped.run before).expiries now).map Expiry.timer :=
      List.mem_map_of_mem he
    obtain ⟨d, hd, hdue⟩ := ((fires _ now).due e.timer).mp hreported
    have hlast := (stopped.accounts_run e.timer before).last d hd
    rw [hstopped] at hlast
    exact ⟨d, by simpa [Timer.stopped] using hlast, hdue⟩

/-- T3212 is refused an interval of zero and a restart, and its deadline is moved forward. T3240 is
restarted, and runs out after it. -/
theorem fires_when_due_after_restart :
    let before : List Operation :=
      [.start .t3212 0 0, .start .t3212 0 50, .start .t3240 0 10, .start .t3212 5 90,
        .start .t3240 5 40, .setRemaining .t3212 5 30, .tick 20]
    (stopped.run before).expiries 40 = [⟨.t3212, 1⟩] ∧
    (stopped.run before).nextDeadline = some 35 ∧
    (∃ d, lastDeadline? .t3212 stopped before = some d ∧ d ≤ 40) ∧
    expiriesIn .t3212 stopped (before ++ [.tick 40, .tick 60]) = 1 ∧
    startsIn .t3212 stopped (before ++ [.tick 40, .tick 60]) = 1 ∧
    startsIn .t3240 stopped (before ++ [.tick 40, .tick 60]) = 2 ∧
    ((stopped.run (before ++ [.tick 40, .tick 60])).get .t3212).expiries.toNat = 1 := by
  intro before
  have hall := fires_when_due (before ++ [.tick 40, .tick 60])
  refine ⟨by decide, by decide, ?_, by decide, by decide, by decide, ?_⟩
  · exact hall.2.2 before 40 [.tick 60] rfl ⟨.t3212, 1⟩ (by decide)
  · exact (hall.2.1 .t3212).1 (by decide)

end TimerSet

end MobileStation
