import MobileStation.Station.LocationUpdate

/-!
# Detach

The station tells the network that the subscriber leaves, where the network wants to know, and then
treats the SIM as removed.
-/

namespace MobileStation.Station

/-- The network wants to be told of the detach. -/
def detachRequired (s : Station) : Bool := s.subscriber.attachAllowed && s.subscriber.attached

/-- The message that tells the network. -/
def detachIndication (s : Station) : Message :=
  .imsiDetachIndication ⟨s.config.classmark1, s.subscriber.identity⟩

/-- Ends the detach: the SIM is unusable until it is inserted again. -/
def endDetach (s : Station) : Outcome :=
  let s := s.stopTimer .t3220
  let s := { s with subscriber := { s.subscriber with simValid := false, attached := false } }
  .done (((s.send (.plmnSearch .simRemoved)).send (.cellSelection .simRemoved)).send
    (.registration .deregisterIndication)).returnIdle

/-- Detaches from the idle state: asks for a radio link that carries the indication, or ends at once
if the network need not be told. -/
def startDetach (s : Station) : Outcome :=
  if s.detachRequired then
    match s.detachIndication.encode with
    | .error e => .failed s (.codec e)
    | .ok data =>
      .done ((s.enter .waitForRadioDetach none).sendRr (.establish .otherSignalling data))
  else s.endDetach

/-- Waits for the network to release the radio link after the indication. -/
def awaitDetach (s : Station) : Station :=
  (s.startTimer .t3220 s.config.timers.t3220.toNat).enter .imsiDetachInitiated none

/-- The radio link is up and has carried the indication. -/
def detachSent (s : Station) : Outcome := .done s.awaitDetach

/-- Detaches over a radio link that is up: every connection is released first. -/
def detachOverLink (s : Station) : Outcome :=
  let s := (s.stopTimer .t3230).releaseConnections .all CmCause.normalRelease false
  if s.detachRequired then
    (s.sendMessage s.detachIndication).andThen fun s => .done s.awaitDetach
  else .done s.awaitNetwork

/-- Notes that a detach has to wait for the running procedure. -/
def delayDetach (s : Station) : Outcome := .done { s with detachDelayed := true }

end MobileStation.Station
