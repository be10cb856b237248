import MobileStation.Proofs.Connections.Account
import MobileStation.Proofs.Steps.Procedures

/-!
# What an action does and emits

A message of the network is read once for what it is about, and then handled. An action handles an
input or nothing; one that handles nothing emits nothing and leaves the main state alone.

Main statements: `receiveMessage_eq` (the handling of a message, by what it is about),
`perform_takes` (an action that handles an input takes one of its courses) and
`emits_of_not_handled`.
-/

namespace MobileStation

/-! ## Messages of the network -/

/-- The message of the network that an input brings. -/
def Input.network? : Input → Option Octets
  | .message data => some data
  | .rr p => if p.type = .dataIndication then some p.payload else none
  | _ => none

/-- What a message of the network is about. -/
inductive Received where
  /-- The header is incomplete. -/
  | broken (error : HeaderError)
  /-- A mobility management message that is to be skipped. -/
  | skipped
  /-- The protocol or the type of the message is not known. -/
  | unknown
  /-- A mobility management message. -/
  | mobility (type : MessageType) (body : Octets)
  /-- A message for connection management. -/
  | connection (protocol : CmProtocol) (header : Header)
  deriving DecidableEq

/-- Reads what a message is about. -/
def Received.read (data : Octets) : Received :=
  match Header.read data with
  | .error e => .broken e
  | .ok (header, body) =>
    match header.protocol? with
    | some .mobilityManagement =>
      if header.skipIndicator ≠ 0 then .skipped
      else
        match header.messageType with
        | .error _ => .unknown
        | .ok type => .mobility type body
    | some protocol =>
      match CmProtocol.ofProtocol? protocol with
      | some protocol => .connection protocol header
      | none => .unknown
    | none => .unknown

namespace Station

theorem handle_of_network? (s : Station) {i : Input} {data : Octets}
    (h : i.network? = some data) : s.handle i = s.receiveMessage data := by
  cases i with
  | message d => rw [Option.some.inj h]; rfl
  | rr p =>
    obtain ⟨htype, hpayload⟩ : p.type = .dataIndication ∧ p.payload = data := by
      simpa [Input.network?] using h
    simp only [handle, handleRr, rrProcedure?_eq_receiveMessage_iff.mpr htype]
    rw [← hpayload]
    rfl
  | _ => cases h

/-- The loss of the radio link is handled as the state has it. -/
theorem handle_loss {s : Station} {p : RrPrimitive}
    (hloss : p.type = .releaseIndication ∨ p.type = .abortIndication) :
    s.handle (.rr p) = s.machine.state.lossProcedure.run s p := by
  have hprocedure : s.machine.rrProcedure? p = some s.machine.state.lossProcedure := by
    rw [rrProcedure?_eq]
    rcases hloss with htype | htype <;> rw [htype]
  simp only [handle, handleRr, hprocedure]

/-- The handling of a message, by what it is about. -/
theorem receiveMessage_eq (s : Station) (data : Octets) :
    s.receiveMessage data =
      match Received.read data with
      | .broken e => .failed s (.codec (.header e))
      | .skipped => .done s
      | .unknown => s.sendStatus .messageTypeNotImplemented
      | .mobility type body =>
        match s.machine.messageProcedure type with
        | .ok procedure => procedure.run s.noteContact body
        | .error cause => s.noteContact.sendStatus cause
      | .connection protocol header => s.receiveCm protocol header data := by
  -- Both read the header in the same order, so each case of the one is a case of the other.
  unfold receiveMessage Received.read
  cases Header.read data with
  | error e => rfl
  | ok r =>
    obtain ⟨header, body⟩ := r
    dsimp only
    cases header.protocol? with
    | none => rfl
    | some protocol =>
      cases protocol with
      | mobilityManagement =>
        simp only [receiveMm, noteContact_frame]
        by_cases hskip : header.skipIndicator ≠ 0
        · simp only [if_pos hskip]
        · simp only [if_neg hskip]
          cases header.messageType <;> rfl
      | _ => rfl

/-! ## Courses of an input -/

/-- Where a course of an input comes from. -/
inductive CourseOf (m : StateMachine) (c : Course) : Input → Prop
  /-- No rule is for the input in this state. -/
  | stay (i : Input) (h : c = .stay) (hrr : ∀ p, i = .rr p → m.rrProcedure? p = none) :
      CourseOf m c i
  | cm (p : CmPrimitive) (procedure : CmProcedure) (h : m.cmProcedure? p = some procedure)
      (hc : c ∈ procedure.courses) : CourseOf m c (.cm p)
  | rr (p : RrPrimitive) (procedure : RrProcedure) (h : m.rrProcedure? p = some procedure)
      (hother : procedure ≠ .receiveMessage) (hc : c ∈ procedure.courses m.state) :
      CourseOf m c (.rr p)
  | message (i : Input) (data : Octets) (h : i.network? = some data)
      (hc : c ∈ messageCourses m.state) : CourseOf m c i
  | event (e : Event) (procedure : EventProcedure) (h : m.eventProcedure? e = some procedure)
      (hc : c ∈ procedure.courses m.state) : CourseOf m c (.event e)

theorem courseOf_of_mem {m : StateMachine} {i : Input} {c : Course} (h : c ∈ m.courses i) :
    CourseOf m c i := by
  cases i with
  | cm p =>
    simp only [StateMachine.courses] at h
    cases hprocedure : m.cmProcedure? p with
    | some procedure => exact .cm p procedure hprocedure (by simpa [hprocedure] using h)
    | none => exact .stay _ (by simpa [hprocedure] using h) (fun _ heq => by cases heq)
  | registration p => exact .stay _ (List.mem_singleton.mp h) (fun _ heq => by cases heq)
  | rr p =>
    simp only [StateMachine.courses] at h
    cases hprocedure : m.rrProcedure? p with
    | some procedure =>
      have hc : c ∈ procedure.courses m.state := by simpa [hprocedure] using h
      -- A message over the radio link takes the courses of messages, not those of the primitive
      -- that brought it.
      by_cases hmessage : procedure = .receiveMessage
      · subst hmessage
        have htype := rrProcedure?_eq_receiveMessage_iff.mp hprocedure
        exact .message _ p.payload (by simp [Input.network?, htype]) hc
      · exact .rr p procedure hprocedure hmessage hc
    | none =>
      refine .stay _ (by simpa [hprocedure] using h) ?_
      rintro _ ⟨⟩
      exact hprocedure
  | message data => exact .message _ data rfl h
  | event e =>
    simp only [StateMachine.courses] at h
    cases hprocedure : m.eventProcedure? e with
    | some procedure => exact .event e procedure hprocedure (by simpa [hprocedure] using h)
    | none => exact .stay _ (by simpa [hprocedure] using h) (fun _ heq => by cases heq)

/-- What the tables say of all courses in all states holds of every course of an input. -/
theorem CourseOf.of_tables {m : StateMachine} {c : Course} {i : Input} (h : CourseOf m c i)
    {P : MainState → Course → Prop} (stay : ∀ state, P state .stay)
    (cm : ∀ procedure : CmProcedure, ∀ state ∈ procedure.states, ∀ c ∈ procedure.courses,
      P state c)
    (rr : ∀ procedure : RrProcedure, procedure ≠ .receiveMessage →
      ∀ state ∈ procedure.states, ∀ c ∈ procedure.courses state, P state c)
    (message : ∀ state, ∀ c ∈ messageCourses state, P state c)
    (event : ∀ procedure : EventProcedure, ∀ state ∈ procedure.states,
      ∀ c ∈ procedure.courses state, P state c) : P m.state c := by
  -- A procedure only runs in the states that its rules name, so it is enough to look at these.
  cases h with
  | stay i hc _ => exact hc ▸ stay _
  | cm p procedure hp hc => exact cm procedure _ (state_mem_of_cmProcedure? hp) c hc
  | rr p procedure hp hother hc =>
    exact rr procedure hother _ (state_mem_of_rrProcedure? hp) c hc
  | message i data _ hc => exact message _ c hc
  | event e procedure hp hc => exact event procedure _ (state_mem_of_eventProcedure? hp) c hc

/-! ## Actions -/

/-- What a station sends in an action. -/
def emits (s : Station) (a : Action) : List Output := sentBetween s (s.perform a)

/-- What a station sends in a run. -/
def emitted (s : Station) : List Action → List Output
  | [] => []
  | a :: rest => s.emits a ++ (s.perform a).emitted rest

theorem emitted_append (s : Station) (first second : List Action) :
    s.emitted (first ++ second) = s.emitted first ++ (s.run first).emitted second := by
  induction first generalizing s with
  | nil => rfl
  | cons a rest ih => simp only [List.cons_append, emitted, ih, run_cons, List.append_assoc]

theorem sentBetween_of_outbox {s t : Station} {sent : List Output}
    (h : t.outbox = s.outbox ++ sent) : sentBetween s t = sent := by
  rw [sentBetween, h, List.drop_left]

/-- What is sent on a course are its signals. -/
theorem matches_sentBetween {s t : Station} {signals : List Signal} (h : Sends s t signals) :
    List.Forall₂ Signal.Matches signals ((sentBetween s t).filter Output.isSignal) := by
  obtain ⟨sent, houtbox, hmatches⟩ := h.sent
  rwa [sentBetween_of_outbox houtbox]

theorem outbox_expire (s : Station) (timer : TimerName) : (s.expire timer).outbox = s.outbox := by
  simp only [expire]
  split <;> rfl

theorem outbox_tick (s : Station) (now : Nat) : (s.tick now).outbox = s.outbox :=
  foldl_expire_of_expire outbox_expire _ _

/-- An action that handles nothing emits nothing. -/
theorem emits_of_not_handled {s : Station} {a : Action} (h : a.handled? s = none) :
    s.emits a = [] := by
  have hkept (t : Station) (ht : t.outbox = s.outbox) : sentBetween s t = [] :=
    sentBetween_of_outbox (by rw [ht, List.append_nil])
  cases a with
  | handle input => cases h
  | queue input => exact hkept _ (by cases input <;> rfl)
  | serve =>
    rw [emits, perform_serve_of_not_handled h]
    exact hkept _ rfl
  | tick now => exact hkept _ (s.outbox_tick now)
  | takeOutputs => exact List.drop_nil
  | _ => exact hkept _ rfl

/-- An action that handles nothing leaves the main state alone. -/
theorem machine_of_not_handled {s : Station} {a : Action} (h : a.handled? s = none) :
    (s.perform a).machine = s.machine := by
  by_cases hexit : a = .exit
  · rw [hexit]
    rfl
  · exact (perform_frame h hexit).1

/-- An action that handles nothing leaves the subscriber alone, unless it writes it. -/
theorem subscriber_of_not_handled {s : Station} {a : Action} (h : a.handled? s = none)
    (hwrites : ∀ u, a ≠ .subscriber u) : (s.perform a).subscriber = s.subscriber := by
  cases a with
  | handle input => cases h
  | queue input => simp [perform]
  | serve =>
    rw [perform_serve_of_not_handled h]
  | tick now => simp [perform]
  | subscriber u => exact absurd rfl (hwrites u)
  | _ => rfl

/-- What an action emits that handles an input. -/
theorem emits_of_handled {s t : Station} {a : Action} {i : Input}
    (h : a.handled? s = some (t, i)) : s.emits a = sentBetween t (t.handle i).station := by
  rw [emits, perform_of_handled h, sentBetween, sentBetween, queues_of_handled h]

/-- An action that handles an input takes one of the courses of the input. -/
theorem perform_takes {s t : Station} {a : Action} {i : Input}
    (h : a.handled? s = some (t, i)) :
    ∃ c, CourseOf s.machine c i ∧ Takes s (s.perform a) c := by
  have hqueues := queues_of_handled h
  have hmachine : t.machine = s.machine := by rw [hqueues]
  obtain ⟨c, hmem, htakes⟩ := t.handle_takes i
  rw [perform_of_handled h, ← hmachine]
  exact ⟨c, courseOf_of_mem hmem,
    htakes.after_frame hmachine (by rw [hqueues]) (by rw [hqueues])⟩

end Station

end MobileStation
