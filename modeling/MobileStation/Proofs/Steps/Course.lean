import Mathlib.Data.List.Forall2
import MobileStation.Proofs.Frame
import MobileStation.Proofs.Rules

/-!
# Courses

A procedure takes one of a few courses. A course tells how the main state goes on and which signals
leave the station: what is sent to radio resource management, and the reports of a rejected location
update. What else a procedure does to the station is left open, except that it does not change who
the subscriber is and never makes an unusable SIM usable.

Main statements: `Sends.trans` (signals of steps one after the other), `Sends.takes` (signals and
the state that is reached make up a course), `Sends.exists_matches` (every signal that left is one
of the course).
-/

namespace MobileStation

/-! ## Signals -/

/-- The event tells of a rejected location update. -/
def PlmnSearchEvent.isReject : PlmnSearchEvent → Bool
  | registrationFailed _ => true
  | roamingNotAllowed => true
  | invalidSim => true
  | _ => false

/-- What leaves the station for radio resource management, and the reports of a rejected update. -/
inductive Signal where
  /-- A request for a radio link that carries a message of this type. -/
  | establish (type : MessageType)
  /-- A message of this type over the link. -/
  | send (type : MessageType)
  /-- A message of a protocol above over the link. -/
  | forward
  /-- A request to abort the link. -/
  | abort
  /-- A report to the search for networks that a location update was rejected. -/
  | reject
  deriving DecidableEq

/-- The output is such a signal. -/
def Signal.Matches : Signal → Output → Prop
  | establish type, .rr p =>
    p.type = .establishRequest ∧ ∃ m : Message, m.type = type ∧ m.encode = .ok p.payload
  | send type, .rr p =>
    p.type = .dataRequest ∧ ∃ m : Message, m.type = type ∧ m.encode = .ok p.payload
  | forward, .rr p => p.type = .dataRequest
  | abort, .rr p => p.type = .abortRequest ∧ p.payload = []
  | reject, .plmnSearch event => event.isReject = true
  | _, _ => False

/-- The output is a signal of some kind. -/
def Output.isSignal : Output → Bool
  | rr _ => true
  | plmnSearch event => event.isReject
  | _ => false

/-! ## The subscriber -/

namespace Subscriber

/-- The subscriber is who it was, and a SIM that was unusable is so still. -/
structure Kept (before after : Subscriber) : Prop where
  imsi : after.imsi = before.imsi
  imei : after.imei = before.imei
  sim : after.simValid = true → before.simValid = true

theorem Kept.refl (u : Subscriber) : u.Kept u := ⟨rfl, rfl, id⟩

theorem Kept.of_eq {u v : Subscriber} (h : v = u) : u.Kept v := h ▸ .refl u

theorem Kept.trans {u v w : Subscriber} (first : u.Kept v) (second : v.Kept w) : u.Kept w :=
  ⟨second.imsi.trans first.imsi, second.imei.trans first.imei, first.sim ∘ second.sim⟩

/-- The station passes for updated, but has no usable SIM. -/
def isUpdatedWithoutSim (u : Subscriber) : Bool := u.isUpdated && !u.simValid

end Subscriber

/-! ## Courses -/

/-- How the main state goes on. -/
inductive Next where
  /-- The state stays, and no station comes to pass for updated without a usable SIM. -/
  | stays
  /-- The station enters this state. -/
  | enters (state : MainState)
  /-- The station returns to the idle state. -/
  | idles
  /-- The station returns to the idle state for want of a usable SIM. -/
  | idlesWithoutSim
  deriving DecidableEq

/-- The state of `t` is what it should be behind `s`. -/
def Next.Leads (s t : Station) : Next → Prop
  | stays => t.machine = s.machine ∧
      (t.subscriber.isUpdatedWithoutSim = true → s.subscriber.isUpdatedWithoutSim = true)
  | enters state => t.machine.state = state
  | idles => t.machine.state = .idle ∧
      (t.subscriber.simValid = false → t.machine.lastSubstate = .noImsi)
  | idlesWithoutSim => t.machine.state = .idle ∧ t.machine.lastSubstate = .noImsi

/-- The main state that is reached from a given one. -/
def Next.state (old : MainState) : Next → MainState
  | stays => old
  | enters state => state
  | idles => .idle
  | idlesWithoutSim => .idle

theorem Next.Leads.state {s t : Station} {next : Next} (h : next.Leads s t) :
    t.machine.state = next.state s.machine.state := by
  cases next with
  | stays => exact congrArg StateMachine.state h.1
  | enters state => exact h
  | idles => exact h.1
  | idlesWithoutSim => exact h.1

/-- How the main state goes on, and the signals sent on the way. -/
structure Course where
  next : Next
  sent : List Signal := []
  deriving DecidableEq

/-- Nothing is sent, and the state stays. -/
def Course.stay : Course := ⟨.stays, []⟩

/-- The station sends these signals on the way from `s` to `t`. -/
structure Sends (s t : Station) (signals : List Signal) : Prop where
  sent : ∃ sent, t.outbox = s.outbox ++ sent ∧
    List.Forall₂ Signal.Matches signals (sent.filter Output.isSignal)
  kept : s.subscriber.Kept t.subscriber

/-- The station takes this course from `s` to `t`. -/
structure Takes (s t : Station) (c : Course) : Prop extends Sends s t c.sent where
  leads : c.next.Leads s t

/-- The station takes one of these courses from `s` to `t`. -/
def TakesOneOf (s t : Station) (courses : List Course) : Prop := ∃ c ∈ courses, Takes s t c

/-! ## Signals one after the other -/

/-- A step that leaves alone what was sent. -/
theorem Sends.of_outbox {s t : Station} (houtbox : t.outbox = s.outbox)
    (hkept : s.subscriber.Kept t.subscriber) : Sends s t [] :=
  ⟨⟨[], by simp [houtbox], .nil⟩, hkept⟩

theorem Sends.refl (s : Station) : Sends s s [] := .of_outbox rfl (.refl _)

theorem Sends.trans {s t u : Station} {first second : List Signal} (hfirst : Sends s t first)
    (hsecond : Sends t u second) : Sends s u (first ++ second) := by
  obtain ⟨sent, houtbox, hmatches⟩ := hfirst.sent
  obtain ⟨sent', houtbox', hmatches'⟩ := hsecond.sent
  refine ⟨⟨sent ++ sent', by rw [houtbox', houtbox, List.append_assoc], ?_⟩,
    hfirst.kept.trans hsecond.kept⟩
  rw [List.filter_append]
  exact List.rel_append hmatches hmatches'

/-- Signals after updates of other fields. -/
theorem Sends.after {s t u : Station} {signals : List Signal} (h : Sends t u signals)
    (houtbox : t.outbox = s.outbox) (hkept : s.subscriber.Kept t.subscriber) :
    Sends s u signals :=
  (Sends.of_outbox houtbox hkept).trans h

/-- Updates of other fields after signals. -/
theorem Sends.before {s t u : Station} {signals : List Signal} (h : Sends s t signals)
    (houtbox : u.outbox = t.outbox) (hkept : t.subscriber.Kept u.subscriber) :
    Sends s u signals := by
  simpa using h.trans (Sends.of_outbox houtbox hkept)

/-! ## Taking a course -/

/-- Signals and the state that is reached make up a course. -/
theorem Sends.takes {s t : Station} {signals : List Signal} (h : Sends s t signals) {next : Next}
    (hnext : next.Leads s t) : Takes s t ⟨next, signals⟩ :=
  ⟨h, hnext⟩

/-- A station that leaves alone its state and its subscriber stays. -/
theorem Sends.stays {s t : Station} {signals : List Signal} (h : Sends s t signals)
    (hmachine : t.machine = s.machine) (hsubscriber : t.subscriber = s.subscriber) :
    Takes s t ⟨.stays, signals⟩ :=
  h.takes ⟨hmachine, fun ht => hsubscriber ▸ ht⟩

theorem Takes.of_frame {s t : Station} (hmachine : t.machine = s.machine)
    (houtbox : t.outbox = s.outbox) (hsubscriber : t.subscriber = s.subscriber) :
    Takes s t .stay :=
  (Sends.of_outbox houtbox (.of_eq hsubscriber)).stays hmachine hsubscriber

theorem Takes.refl (s : Station) : Takes s s .stay := .of_frame rfl rfl rfl

/-- Updates of fields that a course is not about. -/
theorem Takes.before_frame {s t u : Station} {c : Course} (h : Takes s t c)
    (hmachine : u.machine = t.machine) (houtbox : u.outbox = t.outbox)
    (hsubscriber : u.subscriber = t.subscriber) : Takes s u c := by
  refine ⟨h.toSends.before houtbox (.of_eq hsubscriber), ?_⟩
  have hleads := h.leads
  cases hnext : c.next <;> rw [hnext] at hleads <;>
    simpa only [Next.Leads, hmachine, hsubscriber] using hleads

/-- Signals after a state was entered. -/
theorem Takes.andStays {s t u : Station} {state : MainState} {first second : List Signal}
    (h : Takes s t ⟨.enters state, first⟩) (hlast : Takes t u ⟨.stays, second⟩) :
    Takes s u ⟨.enters state, first ++ second⟩ := by
  have hmachine : u.machine = t.machine := hlast.leads.1
  refine (h.toSends.trans hlast.toSends).takes ?_
  show u.machine.state = state
  rw [hmachine]
  exact h.leads

/-- Signals before a course. Where the state moves on, it does not matter what was done to it
before. -/
theorem Sends.andTakes {s t u : Station} {first second : List Signal} {next : Next}
    (h : Sends s t first) (hlast : Takes t u ⟨next, second⟩) (hmoves : next ≠ .stays) :
    Takes s u ⟨next, first ++ second⟩ := by
  refine (h.trans hlast.toSends).takes ?_
  have hleads := hlast.leads
  cases next with
  | stays => exact absurd rfl hmoves
  | _ => exact hleads

/-- A course after updates of fields that it is not about. -/
theorem Takes.after_frame {s t u : Station} {c : Course} (h : Takes t u c)
    (hmachine : t.machine = s.machine) (houtbox : t.outbox = s.outbox)
    (hsubscriber : t.subscriber = s.subscriber) : Takes s u c := by
  refine ⟨h.toSends.after houtbox (.of_eq hsubscriber), ?_⟩
  have hleads := h.leads
  cases hnext : c.next with
  | stays =>
    rw [hnext] at hleads
    exact ⟨hleads.1.trans hmachine, fun hu => hsubscriber ▸ hleads.2 hu⟩
  | _ =>
    rw [hnext] at hleads
    exact hleads

/-! ## Taking one of several courses -/

namespace TakesOneOf

variable {s t u : Station} {courses : List Course}

/-- A course that is taken for sure. -/
theorem of_takes {c : Course} (h : Takes s t c) (hmem : c ∈ courses) : TakesOneOf s t courses :=
  ⟨c, hmem, h⟩

theorem refl (hmem : Course.stay ∈ courses) : TakesOneOf s s courses := ⟨_, hmem, .refl s⟩

theorem mono (h : TakesOneOf s t courses) {others : List Course}
    (hsub : ∀ c ∈ courses, c ∈ others) : TakesOneOf s t others := by
  obtain ⟨c, hmem, htakes⟩ := h
  exact ⟨c, hsub c hmem, htakes⟩

/-- One of the courses after updates of fields that they are not about. -/
theorem after_frame (h : TakesOneOf t u courses) (hmachine : t.machine = s.machine)
    (houtbox : t.outbox = s.outbox) (hsubscriber : t.subscriber = s.subscriber) :
    TakesOneOf s u courses := by
  obtain ⟨c, hmem, htakes⟩ := h
  exact ⟨c, hmem, htakes.after_frame hmachine houtbox hsubscriber⟩

/-- One of several courses that all move the state on, after updates that send nothing. -/
theorem after (h : TakesOneOf t u courses) (hfirst : Sends s t [])
    (hmoves : ∀ c ∈ courses, c.next ≠ .stays) : TakesOneOf s u courses := by
  obtain ⟨⟨next, sent⟩, hmem, htakes⟩ := h
  exact ⟨_, hmem, hfirst.andTakes htakes (hmoves _ hmem)⟩

end TakesOneOf

/-! ## What left the station -/

/-- Every output of a course is one of its signals. -/
theorem Signal.exists_matches {signals : List Signal} {outputs : List Output}
    (h : List.Forall₂ Signal.Matches signals outputs) {o : Output} (ho : o ∈ outputs) :
    ∃ signal ∈ signals, signal.Matches o := by
  induction h with
  | nil => cases ho
  | cons hhead _ ih =>
    rcases List.mem_cons.mp ho with rfl | hrest
    · exact ⟨_, List.mem_cons_self .., hhead⟩
    · obtain ⟨signal, hsignals, hmatch⟩ := ih hrest
      exact ⟨signal, List.mem_cons_of_mem _ hsignals, hmatch⟩

/-- Every signal that left the station is one of the course. -/
theorem Sends.exists_matches {s t : Station} {signals : List Signal} (h : Sends s t signals) :
    ∃ sent, t.outbox = s.outbox ++ sent ∧
      ∀ o ∈ sent, o.isSignal = true → ∃ signal ∈ signals, signal.Matches o := by
  obtain ⟨sent, houtbox, hmatches⟩ := h.sent
  refine ⟨sent, houtbox, ?_⟩
  intro o ho hsignal
  exact Signal.exists_matches hmatches (List.mem_filter.mpr ⟨ho, hsignal⟩)

/-! ## Parts of procedures -/

namespace Station

theorem sends_send (s : Station) {o : Output} {signal : Signal} (hsignal : o.isSignal = true)
    (hmatches : signal.Matches o) : Sends s (s.send o) [signal] := by
  refine ⟨⟨[o], rfl, ?_⟩, .refl _⟩
  rw [List.filter_cons_of_pos hsignal]
  exact .cons hmatches .nil

theorem sends_of_not_signal (s : Station) {o : Output} (h : o.isSignal = false) :
    Sends s (s.send o) [] := by
  refine ⟨⟨[o], rfl, ?_⟩, .refl _⟩
  rw [List.filter_cons_of_neg (by simp [h])]
  exact .nil

/-- Primitives to connection management are no signals. -/
theorem sends_sendAllCm (s : Station) (ps : List CmPrimitive) : Sends s (s.sendAllCm ps) [] := by
  refine ⟨⟨ps.map .cm, rfl, ?_⟩, .refl _⟩
  have hnone : (ps.map Output.cm).filter Output.isSignal = [] := by
    rw [List.filter_eq_nil_iff]
    intro o ho
    obtain ⟨p, _, rfl⟩ := List.mem_map.mp ho
    exact Bool.false_ne_true
  rw [hnone]
  exact .nil

theorem sends_abort (s : Station) (cause : UInt8) : Sends s (s.sendRr (.abort cause)) [.abort] :=
  s.sends_send rfl ⟨rfl, rfl⟩

theorem takes_establish (s : Station) (cause : EstablishmentCause) {m : Message} {data : Octets}
    (h : m.encode = .ok data) :
    Takes s (s.sendRr (.establish cause data)) ⟨.stays, [.establish m.type]⟩ := by
  have hsent : Sends s (s.sendRr (.establish cause data)) [.establish m.type] :=
    s.sends_send rfl ⟨rfl, m, rfl, h⟩
  exact hsent.stays rfl rfl

theorem takes_send (s : Station) {m : Message} {data : Octets} (h : m.encode = .ok data) :
    Takes s (s.sendRr (.send data)) ⟨.stays, [.send m.type]⟩ := by
  have hsent : Sends s (s.sendRr (.send data)) [.send m.type] :=
    s.sends_send rfl ⟨rfl, m, rfl, h⟩
  exact hsent.stays rfl rfl

theorem sendMessage_of_encode (s : Station) {m : Message} {data : Octets}
    (h : m.encode = .ok data) : s.sendMessage m = .done (s.sendRr (.send data)) := by
  simp only [sendMessage, h]

theorem sendMessage_of_not_encode (s : Station) {m : Message} {e : CodecError}
    (h : m.encode = .error e) : s.sendMessage m = .failed s (.codec e) := by
  simp only [sendMessage, h]

/-- A message that can be written is sent. -/
theorem takes_sendMessage_of_encode (s : Station) {m : Message} {data : Octets}
    (h : m.encode = .ok data) :
    Takes s (s.sendMessage m).station ⟨.stays, [.send m.type]⟩ := by
  rw [s.sendMessage_of_encode h]
  exact s.takes_send h

/-- A message is sent, or cannot be written. -/
theorem takes_sendMessage (s : Station) (m : Message) :
    TakesOneOf s (s.sendMessage m).station [.stay, ⟨.stays, [.send m.type]⟩] := by
  cases h : m.encode with
  | error e =>
    rw [s.sendMessage_of_not_encode h]
    exact .refl (by simp)
  | ok data => exact .of_takes (s.takes_sendMessage_of_encode h) (by simp)

theorem takes_sendStatus (s : Station) (cause : RejectCause) :
    Takes s (s.sendStatus cause).station ⟨.stays, [.send .mmStatus]⟩ :=
  s.takes_sendMessage_of_encode rfl

theorem takes_sendCm (s : Station) (p : CmPrimitive) : Takes s (s.sendCm p) .stay :=
  (s.sends_of_not_signal rfl).stays rfl rfl

theorem takes_release (s : Station) (filter : ConnectionTable.ReleaseFilter) (cause : UInt8)
    (isError : Bool) : Takes s (s.releaseConnections filter cause isError) .stay := by
  have hsent : Sends s (s.releaseConnections filter cause isError) [] :=
    (sends_sendAllCm _ _).after rfl (.refl _)
  exact hsent.stays rfl rfl

theorem sends_enter (s : Station) (state : MainState) (substate : Option IdleSubstate) :
    Sends s (s.enter state substate) [] :=
  .of_outbox (by simp) (.of_eq (by simp))

theorem takes_enter (s : Station) (state : MainState) :
    Takes s (s.enter state none) ⟨.enters state, []⟩ :=
  (s.sends_enter state none).takes (by simp [Next.Leads])

theorem lastSubstate_returnIdle (s : Station) :
    s.returnIdle.machine.lastSubstate = s.idleSubstate := by
  simp [StateMachine.enter]

/-- Without a usable SIM the idle state is entered as such. -/
theorem idleSubstate_of_not_simValid {s : Station} (h : s.subscriber.simValid = false) :
    s.idleSubstate = .noImsi := by
  simp [idleSubstate, h]

theorem leads_returnIdle (s u : Station) : Next.idles.Leads s u.returnIdle := by
  refine ⟨by simp, ?_⟩
  intro hsim
  rw [lastSubstate_returnIdle]
  exact idleSubstate_of_not_simValid (by simpa using hsim)

theorem leads_returnIdle_of_not_simValid (s : Station) {u : Station}
    (h : u.subscriber.simValid = false) : Next.idlesWithoutSim.Leads s u.returnIdle := by
  refine ⟨by simp, ?_⟩
  rw [lastSubstate_returnIdle]
  exact idleSubstate_of_not_simValid h

/-- Signals before the station returns to the idle state without a usable SIM. -/
theorem takes_returnIdle_of_not_simValid {s u : Station} {signals : List Signal}
    (h : Sends s u signals) (hsim : u.subscriber.simValid = false) :
    Takes s u.returnIdle ⟨.idlesWithoutSim, signals⟩ :=
  (h.before (by simp) (.of_eq (by simp))).takes (leads_returnIdle_of_not_simValid s hsim)

theorem sends_returnIdle (s : Station) : Sends s s.returnIdle [] :=
  .of_outbox (by simp) (.of_eq (by simp))

theorem takes_returnIdle (s : Station) : Takes s s.returnIdle ⟨.idles, []⟩ :=
  s.sends_returnIdle.takes (s.leads_returnIdle s)

end Station

end MobileStation
