import MobileStation.Proofs.Connections.Reference
import MobileStation.Proofs.Steps.Inputs
import MobileStation.Proofs.Update.Retry

/-!
# Messages for the connections

A message of a connection management protocol goes to one owner, as it was received. The two halves
of its first octet name the connection: the protocol, and the transaction with the flag of the
sender turned round. A connection that is not known is opened, under a reference that is not in use,
as long as there is room; the next message of the same transaction finds it.

Main statements: `receiveCm_delivers` (what becomes of a message) and `cm_message_delivered`.
-/

namespace MobileStation

/-! ## The name of the connection -/

/-- The transaction that a message is about, as the station counts it: the upper half of its first
octet, with the flag of the sender turned round. -/
def Octets.transaction (first : UInt8) : UInt8 := UInt8.ofNat (high first ^^^ 8)

theorem Header.transaction_eq (h : Header) :
    h.transaction = Octets.transaction h.protocolOctet := by
  have hturned : ∀ n < 16, (n + 8) % 16 = n ^^^ 8 := by decide
  have hless : Octets.high h.protocolOctet < 16 := by
    have hoctet := h.protocolOctet.toNat_lt
    unfold Octets.high
    omega
  rw [Header.transaction, Octets.transaction, hturned _ hless]

/-- Two octets are enough to tell the connection of a message. -/
theorem Received.read_connection {protocol : CmProtocol} {first : UInt8}
    (h : Octets.low first = protocol.protocol.code) (second : UInt8) (rest : Octets) :
    Received.read (first :: second :: rest) = .connection protocol ⟨first, second⟩ := by
  have hprotocol : Header.protocol? ⟨first, second⟩ = some protocol.protocol := by
    rw [Header.protocol?, Header.discriminator, h]
    cases protocol <;> rfl
  simp only [Received.read, Header.read, hprotocol]
  cases protocol <;> rfl

namespace Station

/-! ## Handing on -/

/-- The station holds the radio link for the network, or has just given it up. -/
def HoldsLink (s : Station) : Prop :=
  s.machine.state = .waitForNetworkCommand ∨ s.machine.state = .releaseNotAllowed

/-- The message goes to the owner of the connection, in a primitive of this type and as it was
received, and nothing else is sent. If the station held the link for the network, the connection
takes it up and its release is no longer supervised. -/
structure HandsOver (s : Station) (o : Outcome) (c : Connection) (type : CmPrimitiveType)
    (data : Octets) : Prop where
  failure : o.failure = none
  outbox : o.station.outbox = s.outbox ++ [.cm { c.primitive type with payload := data }]
  joins : s.HoldsLink →
    o.station.machine.state = .connectionActive ∧ o.station.timers.isRunning .t3240 = false
  stays : ¬ s.HoldsLink → o.station.machine = s.machine ∧ o.station.timers = s.timers

/-- What becomes of a message for the connection that the network names so. -/
inductive Delivers (s : Station) (protocol : CmProtocol) (transaction : UInt8) (data : Octets)
    (o : Outcome) : Prop where
  /-- The connection is known: the first of that name gets the message. -/
  | known (c : Connection) (hfound : s.connections.findByKey? protocol transaction = some c)
      (hhands : HandsOver s o c .dataIndication data)
      (hconnections : o.station.connections = s.connections)
  /-- The connection is not known, and there is room for it: it is opened. -/
  | opened (c : Connection) (hnone : s.connections.findByKey? protocol transaction = none)
      (hroom : s.connections.connections.length < 32)
      (hname : c.protocol = protocol ∧ c.transaction = transaction ∧ c.state = .dedicated)
      (hreference : c.reference ≠ 0 ∧ ∀ d ∈ s.connections.connections, d.reference ≠ c.reference)
      (hhands : HandsOver s o c .establishIndication data)
      (hconnections : o.station.connections =
        { s.connections with connections := s.connections.connections ++ [c] })
  /-- The connection is not known, and there is no room for it: the message is lost. -/
  | exhausted (hnone : s.connections.findByKey? protocol transaction = none)
      (hfull : 32 ≤ s.connections.connections.length)
      (hfailure : o.failure = some (.connection (.exhausted 32)))
      (houtbox : o.station.outbox = s.outbox)
      (hconnections : o.station.connections = s.connections)
      (hmachine : o.station.machine = s.machine)

theorem handsOver_joinLink {s u : Station} (houtbox : u.outbox = s.outbox)
    (hmachine : u.machine = s.machine) (htimers : u.timers = s.timers) (c : Connection)
    (type : CmPrimitiveType) (data : Octets) :
    HandsOver s (.done (u.joinLink.sendCm { c.primitive type with payload := data })) c type
      data where
  failure := rfl
  outbox := by
    show u.joinLink.outbox ++ _ = _
    rw [u.joinLink_frame.2, houtbox]
  -- While the link is held for the network only, the message makes it one of calls.
  joins := by
    intro hholds
    show u.joinLink.machine.state = _ ∧ u.joinLink.timers.isRunning .t3240 = false
    rw [joinLink, if_pos (by rw [hmachine]; exact hholds)]
    refine ⟨by simp, ?_⟩
    rw [isRunning_enter_of_ne _ _ _ (by decide)]
    rfl
  stays := by
    intro hnot
    show u.joinLink.machine = _ ∧ u.joinLink.timers = _
    rw [joinLink, if_neg (by rw [hmachine]; exact hnot)]
    exact ⟨hmachine, htimers⟩

theorem receiveCm_delivers {s : Station} (hs : s.connections.WellFormed) (protocol : CmProtocol)
    (header : Header) (data : Octets) :
    Delivers s protocol header.transaction data (s.receiveCm protocol header data) := by
  have hcapacity := hs.capacity
  have hbounded := hs.bounded
  cases hfind : s.connections.findByKey? protocol header.transaction with
  | some c =>
    have hhanded := handsOver_joinLink (s := s) (u := s) rfl rfl rfl c .dataIndication data
    simp only [receiveCm, hfind]
    exact .known c hfind hhanded s.joinLink_frame.1
  | none =>
    -- With no connection for the message, one is opened, unless the table is full.
    by_cases hroom : s.connections.connections.length < s.connections.capacity
    -- The new reference is unused and the key is free, so nothing but the room can fail.
    · let c := s.openedConnection protocol header.transaction
      let u := { s.takeReference s.freeReference with
        connections := { s.connections with connections := s.connections.connections ++ [c] } }
      have hhanded := handsOver_joinLink (s := s) (u := u) rfl rfl rfl c .establishIndication data
      have hreference := s.freeReference_unused (by omega)
      simp only [receiveCm, hfind, openConnection_of_room hs hfind hroom]
      exact .opened c hfind (by omega) ⟨rfl, rfl, rfl⟩ hreference hhanded u.joinLink_frame.1
    · have hfull : s.connections.capacity ≤ s.connections.connections.length := by omega
      simp only [receiveCm, hfind, openConnection_of_full hfull]
      exact .exhausted hfind (by omega) (by rw [hcapacity]; rfl) rfl rfl rfl

/-- A connection that a message was handed on to is found by the next message of that name. -/
theorem Delivers.findByKey?_eq {s : Station} {protocol : CmProtocol} {transaction : UInt8}
    {data : Octets} {o : Outcome} (h : Delivers s protocol transaction data o)
    (hdone : o.failure = none) :
    ∃ c type, HandsOver s o c type data ∧
      o.station.connections.findByKey? protocol transaction = some c := by
  cases h with
  | known c hfound hhands hconnections => exact ⟨c, _, hhands, hconnections ▸ hfound⟩
  | opened c hnone _ hname _ hhands hconnections =>
    refine ⟨c, _, hhands, ?_⟩
    have hkey : c.hasKey protocol transaction = true := by simp [Connection.hasKey, hname]
    rw [hconnections, ConnectionTable.findByKey?, List.find?_append]
    rw [ConnectionTable.findByKey?] at hnone
    simp [hnone, hkey]
  | exhausted _ _ hfailure => simp [hfailure] at hdone

/-! ## Runs -/

/-- After any run, a message of at least two octets whose first octet names a connection management
protocol is handed on to the connection of its transaction, opens it, or is lost because there are
32 connections already. Once one message has got through, the next with the same first octet goes to
the same connection. -/
theorem cm_message_delivered (config : Config) (subscriber : Subscriber) (actions : List Action)
    (protocol : CmProtocol) (first second : UInt8) (rest : Octets)
    (hprotocol : Octets.low first = protocol.protocol.code) :
    let s := (ofSubscriber config subscriber).run actions
    let data := first :: second :: rest
    let o := s.handle (.message data)
    Delivers s protocol (Octets.transaction first) data o ∧
      ∀ second' rest', o.failure = none →
        let data' := first :: second' :: rest'
        ∃ c type, HandsOver s o c type data ∧
          HandsOver o.station (o.station.handle (.message data')) c .dataIndication data' ∧
          (o.station.handle (.message data')).station.connections = o.station.connections := by
  intro s data o
  have hread (t : Station) (second : UInt8) (rest : Octets) :
      t.handle (.message (first :: second :: rest)) =
        t.receiveCm protocol ⟨first, second⟩ (first :: second :: rest) := by
    rw [handle, receiveMessage_eq, Received.read_connection hprotocol]
  have hdelivers (t : Station) (ht : t.connections.WellFormed) (second : UInt8) (rest : Octets) :
      Delivers t protocol (Octets.transaction first) (first :: second :: rest)
        (t.handle (.message (first :: second :: rest))) := by
    rw [hread, ← Header.transaction_eq ⟨first, second⟩]
    exact receiveCm_delivers ht _ _ _
  have hs : s.Orderly := orderly_run config subscriber actions
  have hfirst := hdelivers s hs.wellFormed second rest
  refine ⟨hfirst, ?_⟩
  intro second' rest' hdone data'
  obtain ⟨c, type, hhands, hfound⟩ := hfirst.findByKey?_eq hdone
  refine ⟨c, type, hhands, ?_⟩
  have hafter : o.station.Orderly := hs.perform (.handle (.message data))
  -- The second message finds the connection of the first, so only one of the three ways is open.
  cases hdelivers o.station hafter.wellFormed second' rest' with
  | known d hfound' hhands' hconnections =>
    obtain rfl := Option.some.inj (hfound.symm.trans hfound')
    exact ⟨hhands', hconnections⟩
  | opened _ hnone => cases hfound.symm.trans hnone
  | exhausted hnone => cases hfound.symm.trans hnone

/-- The network calls: the first message opens the connection with reference 1 and takes up the
link, and the second one goes to the same reference. -/
theorem cm_message_delivered_to_call :
    let s := (ofConfig
      { imei := "356938035643809"
        imeisv := "3569380356438091"
        sim := some { imsi := "262420000000001" } }).run
      [.handle (.rr { type := .establishIndication })]
    let o := s.handle (.message [3, 5])
    Octets.low 3 = CmProtocol.cc.protocol.code ∧
      Delivers s .cc 8 [3, 5] o ∧ o.failure = none ∧ o.station.machine.state = .connectionActive ∧
      (o.station.handle (.message [3, 58])).station.outbox =
        [.cm
            { type := .establishIndication
              protocol := .cc
              reference := 1
              transaction := 8
              payload := [3, 5] },
          .cm
            { type := .dataIndication
              protocol := .cc
              reference := 1
              transaction := 8
              payload := [3, 58] }] := by
  intro s o
  have hprotocol : Octets.low 3 = CmProtocol.cc.protocol.code := rfl
  refine ⟨hprotocol, ?_, by decide +kernel, by decide +kernel, by decide +kernel⟩
  exact (cm_message_delivered _ _ _ .cc 3 5 [] hprotocol).1

end Station

end MobileStation
