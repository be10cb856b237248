import MobileStation.Station.Work

/-!
# What the local updates leave alone

Changes of state and the small updates that procedures are made of touch few fields of a station.
Each lemma lists the fields that one of them leaves alone, and what becomes of the main state where
the update sets it.

Main statements: `enter_frame` and `returnIdle_frame` (changes of state), `failUpdate_frame` (the
end of a location update that failed).
-/

namespace MobileStation.Station

@[simp] theorem station_done (s : Station) : (Outcome.done s).station = s := rfl

@[simp] theorem station_failed (s : Station) (e : StationError) :
    (Outcome.failed s e).station = s := rfl

/-- Sending a message touches the outbox alone. -/
@[simp] theorem sendMessage_frame (s : Station) (m : Message) :
    (s.sendMessage m).station.machine = s.machine ∧
      (s.sendMessage m).station.connections = s.connections ∧
      (s.sendMessage m).station.subscriber = s.subscriber ∧
      (s.sendMessage m).station.update = s.update ∧
      (s.sendMessage m).station.timers = s.timers ∧
      (s.sendMessage m).station.queues = s.queues := by
  unfold sendMessage
  split <;> simp [sendRr, send]

/-! ## Changes of state -/

@[simp] theorem resumeDetach_frame (s : Station) :
    s.resumeDetach.machine = s.machine ∧ s.resumeDetach.connections = s.connections ∧
      s.resumeDetach.subscriber = s.subscriber ∧ s.resumeDetach.cell = s.cell ∧
      s.resumeDetach.update = s.update ∧ s.resumeDetach.timers = s.timers ∧
      s.resumeDetach.outbox = s.outbox := by
  unfold resumeDetach
  split <;> simp [queueEvent]

@[simp] theorem armPeriodicTimer_frame (s : Station) :
    s.armPeriodicTimer.machine = s.machine ∧ s.armPeriodicTimer.connections = s.connections ∧
      s.armPeriodicTimer.subscriber = s.subscriber ∧ s.armPeriodicTimer.cell = s.cell ∧
      s.armPeriodicTimer.update = s.update ∧ s.armPeriodicTimer.queues = s.queues ∧
      s.armPeriodicTimer.outbox = s.outbox := by
  unfold armPeriodicTimer
  split <;> simp [startTimer]

/-- Entering a state touches the machine, the timers and the event queue. -/
@[simp] theorem enter_frame (s : Station) (state : MainState) (substate : Option IdleSubstate) :
    (s.enter state substate).machine = s.machine.enter state substate ∧
      (s.enter state substate).connections = s.connections ∧
      (s.enter state substate).subscriber = s.subscriber ∧
      (s.enter state substate).cell = s.cell ∧
      (s.enter state substate).update = s.update ∧
      (s.enter state substate).outbox = s.outbox := by
  simp [enter]

@[simp] theorem state_enter (m : StateMachine) (state : MainState)
    (substate : Option IdleSubstate) : (m.enter state substate).state = state := rfl

/-- Returning to the idle state gives up a location update only for want of a usable SIM. -/
@[simp] theorem returnIdle_frame (s : Station) :
    s.returnIdle.machine = s.machine.enter .idle (some s.idleSubstate) ∧
      s.returnIdle.connections = s.connections ∧ s.returnIdle.subscriber = s.subscriber ∧
      s.returnIdle.cell = s.cell ∧
      s.returnIdle.update =
        { s.update with wanted := s.update.wanted && s.subscriber.simValid } ∧
      s.returnIdle.outbox = s.outbox := by
  unfold returnIdle
  split
  · next hsim => simp [hsim]
  · -- Without a usable SIM the update is given up before the idle state is entered.
    next hsim => simp [hsim, abandonUpdate, stopTimer]

/-! ## Location updates -/

@[simp] theorem countAttempt_frame (s : Station) :
    s.countAttempt.machine = s.machine ∧ s.countAttempt.connections = s.connections ∧
      s.countAttempt.subscriber = s.subscriber ∧ s.countAttempt.timers = s.timers ∧
      s.countAttempt.queues = s.queues ∧ s.countAttempt.outbox = s.outbox ∧
      s.countAttempt.update.wanted = s.update.wanted := by
  unfold countAttempt
  split <;> simp

@[simp] theorem retryLater_frame (s : Station) :
    s.retryLater.machine = s.machine ∧ s.retryLater.connections = s.connections ∧
      s.retryLater.subscriber = s.subscriber ∧ s.retryLater.queues = s.queues ∧
      s.retryLater.outbox = s.outbox := by
  unfold retryLater
  split <;> simp [startTimer]

/-- A location update that failed leaves the station idle. -/
@[simp] theorem failUpdate_frame (s : Station) :
    s.failUpdate.station.machine.state = .idle ∧
      s.failUpdate.station.connections = s.connections ∧
      s.failUpdate.station.outbox = s.outbox := by
  simp only [failUpdate]
  split <;> simp [deregister, stopTimer]

@[simp] theorem applyAcceptedIdentity_frame (s : Station) (identity : Option MobileIdentity) :
    (s.applyAcceptedIdentity identity).station.machine = s.machine ∧
      (s.applyAcceptedIdentity identity).station.connections = s.connections ∧
      (s.applyAcceptedIdentity identity).station.update = s.update ∧
      (s.applyAcceptedIdentity identity).station.timers = s.timers ∧
      (s.applyAcceptedIdentity identity).station.queues = s.queues := by
  unfold applyAcceptedIdentity
  split <;> simp [assignTmsi, removeTmsi]

@[simp] theorem rejectIdentity_frame (s : Station) (cause : RejectCause) :
    (s.rejectIdentity cause).machine = s.machine ∧
      (s.rejectIdentity cause).connections = s.connections ∧
      (s.rejectIdentity cause).timers = s.timers ∧ (s.rejectIdentity cause).queues = s.queues ∧
      (s.rejectIdentity cause).outbox = s.outbox := by
  unfold rejectIdentity
  split <;> simp

@[simp] theorem forbidRejected_frame (s : Station) (cause : RejectCause) :
    (s.forbidRejected cause).machine = s.machine ∧
      (s.forbidRejected cause).connections = s.connections ∧
      (s.forbidRejected cause).timers = s.timers ∧ (s.forbidRejected cause).queues = s.queues ∧
      (s.forbidRejected cause).outbox = s.outbox := by
  unfold forbidRejected
  split
  · simp
  · split <;> simp

/-! ## System information and contact -/

@[simp] theorem changePeriodicInterval_frame (s : Station) (seconds : UInt32) (chance : Nat) :
    (s.changePeriodicInterval seconds chance).machine = s.machine ∧
      (s.changePeriodicInterval seconds chance).connections = s.connections ∧
      (s.changePeriodicInterval seconds chance).update = s.update ∧
      (s.changePeriodicInterval seconds chance).queues = s.queues ∧
      (s.changePeriodicInterval seconds chance).outbox = s.outbox := by
  unfold changePeriodicInterval
  split <;> simp [startTimer]

/-- System information touches the cell, the subscriber and the periodic timer. -/
@[simp] theorem applySystemInformation_frame (s : Station) (info : SystemInformation)
    (chance : Nat) :
    (s.applySystemInformation info chance).machine = s.machine ∧
      (s.applySystemInformation info chance).connections = s.connections ∧
      (s.applySystemInformation info chance).update = s.update ∧
      (s.applySystemInformation info chance).queues = s.queues ∧
      (s.applySystemInformation info chance).outbox = s.outbox := by
  simp only [applySystemInformation]
  split
  · split <;> simp
  · split <;> simp [stopTimer]

/-- Contact with the network touches the timers alone. -/
@[simp] theorem noteContact_frame (s : Station) :
    s.noteContact.machine = s.machine ∧ s.noteContact.connections = s.connections ∧
      s.noteContact.subscriber = s.subscriber ∧ s.noteContact.cell = s.cell ∧
      s.noteContact.update = s.update ∧ s.noteContact.queues = s.queues ∧
      s.noteContact.outbox = s.outbox := by
  simp only [noteContact]
  split <;> simp [stopTimer, startReleaseTimer, startTimer]

/-! ## Queues and time -/

@[simp] theorem queue_frame (s : Station) (i : Input) :
    (s.queue i).machine = s.machine ∧ (s.queue i).connections = s.connections ∧
      (s.queue i).subscriber = s.subscriber ∧ (s.queue i).update = s.update ∧
      (s.queue i).timers = s.timers := by
  cases i <;> simp [queue, queueEvent]

@[simp] theorem expire_frame (s : Station) (timer : TimerName) :
    (s.expire timer).machine = s.machine ∧ (s.expire timer).connections = s.connections ∧
      (s.expire timer).subscriber = s.subscriber ∧ (s.expire timer).timers = s.timers ∧
      (s.expire timer).update.wanted = s.update.wanted ∧
      (s.expire timer).queues =
        { s.queues with events := s.queues.events ++ [.timeout timer] } := by
  simp only [expire]
  split <;> simp [queueEvent]

theorem foldl_expire_frame (s : Station) (due : List TimerName) :
    (due.foldl expire s).machine = s.machine ∧ (due.foldl expire s).connections = s.connections ∧
      (due.foldl expire s).subscriber = s.subscriber ∧ (due.foldl expire s).timers = s.timers ∧
      (due.foldl expire s).update.wanted = s.update.wanted ∧
      (due.foldl expire s).queues =
        { s.queues with events := s.queues.events ++ due.map .timeout } := by
  -- Each expiry adds its event behind those of the timers before it.
  induction due generalizing s with
  | nil => simp
  | cons timer rest ih => simp [ih (s.expire timer)]

/-- What no single expiry touches is left alone by any number of them. -/
theorem foldl_expire_of_expire {α : Type} {view : Station → α}
    (h : ∀ (t : Station) (timer : TimerName), view (t.expire timer) = view t) (s : Station)
    (due : List TimerName) : view (due.foldl expire s) = view s := by
  induction due generalizing s with
  | nil => rfl
  | cons timer rest ih => rw [List.foldl_cons, ih, h]

/-- The passing of time touches the timers, the event queue and the attempts. -/
@[simp] theorem tick_frame (s : Station) (now : Nat) :
    (s.tick now).machine = s.machine ∧ (s.tick now).connections = s.connections ∧
      (s.tick now).subscriber = s.subscriber ∧ (s.tick now).timers = s.timers.tick now ∧
      (s.tick now).update.wanted = s.update.wanted ∧
      (s.tick now).queues =
        { s.queues with events := s.queues.events ++ (s.timers.due now).map .timeout } :=
  foldl_expire_frame _ _

end MobileStation.Station
