import ToxTunnel.Interleaving

/-!
The offsets that a resume request carries, compared with the server's own after
the link was cut and re-established. Either side's driver goes on emitting what
its queue has retained, beside the strand that builds or handles the request.
-/

namespace ToxTunnel.ResumeGap
open Interleaving

section Model

inductive Party where
  | client | server
  deriving DecidableEq

def Party.other : Party → Party
  | .client => .server
  | .server => .client

inductive ResumeStatus where
  | ok | targetUnreachable | rulesDenied | tooOld | unknown
  deriving DecidableEq

/-- `queued` records how many payload bytes the link had taken before the request. -/
inductive Packet where
  | data (bytes : Nat)
  | resumeRequest (recv sent queued : Nat)
  | resumeAck (recv sent : Nat) (status : ResumeStatus)
  deriving DecidableEq

/-- One side of the tunnel; `isOpen` while it is there and takes DATA. `unsettled`
records the bytes that are counted as emitted and not yet taken by the link. -/
structure Side where
  isOpen : Bool := true
  retained : Nat := 0
  driving : Bool := false
  emitted : Nat := 0
  received : Nat := 0
  unsettled : Nat := 0
  deriving DecidableEq

/-- The packets in flight in one direction, and records of the payload bytes that were
taken, dropped by a cut, and delivered to a side that was no longer open. -/
structure Link where
  queue : List Packet := []
  accepted : Nat := 0
  dropped : Nat := 0
  discarded : Nat := 0
  deriving DecidableEq

/-- A gap check: its result and the answer, the bytes dropped so far in either direction,
those that the server was ahead of the client's reading, and the request's `sent` and
`queued`. -/
structure Report where
  gap : Bool
  status : ResumeStatus
  droppedToServer : Nat
  droppedToClient : Nat
  ahead : Nat
  sent : Nat
  queued : Nat
  deriving DecidableEq

structure Session where
  up : Bool := true
  client : Side := {}
  server : Side := {}
  toServer : Link := {}
  toClient : Link := {}
  reports : List Report := []
  deriving DecidableEq

def Session.side (session : Session) : Party → Side
  | .client => session.client
  | .server => session.server

def Session.withSide (party : Party) (side : Side) (session : Session) : Session :=
  match party with
  | .client => { session with client := side }
  | .server => { session with server := side }

/-- The link that a party sends on. -/
def Session.link (session : Session) : Party → Link
  | .client => session.toServer
  | .server => session.toClient

def Session.withLink (party : Party) (link : Link) (session : Session) : Session :=
  match party with
  | .client => { session with toServer := link }
  | .server => { session with toClient := link }

def payload : Packet → Nat
  | .data bytes => bytes
  | _ => 0

def inFlight (queue : List Packet) : Nat := (queue.map payload).sum

def Link.push (packet : Packet) (link : Link) : Link :=
  { link with queue := link.queue ++ [packet], accepted := link.accepted + payload packet }

def Link.cut (link : Link) : Link :=
  { link with queue := [], dropped := link.dropped + inFlight link.queue }

structure ResumeConfig where
  enabled : Bool := false
  closeOnGap : Bool := false

/-- What the environment decides: does the link take the packet, is the held tunnel
resumable, is its outbound side aborted during the reconciliation. -/
structure Answer where
  takes : Bool := true
  resumable : Bool := true
  aborted : Bool := false
  deriving DecidableEq

def resumeOffsetsHaveGap (localSend peerRecv localRecv peerSend : Nat) : Bool :=
  decide (peerRecv < localSend) || decide (localRecv < peerSend)

def sendResumeAck (answer : Answer) (recv sent : Nat) (status : ResumeStatus)
    (session : Session) : Session :=
  if session.up && answer.takes then
    { session with toClient := session.toClient.push (.resumeAck recv sent status) }
  else session

def removeTunnel (session : Session) : Session :=
  { session with server := { session.server with isOpen := false } }

/-- The offset reconciliation of a request with the held tunnel. -/
def reconcile (config : ResumeConfig) (answer : Answer) (recv sent queued : Nat)
    (session : Session) : Report :=
  let sRecv := session.server.received
  let sSent := session.server.emitted
  let gap := resumeOffsetsHaveGap sSent recv sRecv sent
  { gap, sent, queued
    status :=
      if gap && config.closeOnGap then .tooOld else if answer.aborted then .tooOld else .ok
    droppedToServer := session.toServer.dropped
    droppedToClient := session.toClient.dropped
    ahead := session.toClient.accepted + session.server.unsettled -
      (session.toClient.dropped + recv) }

def handleResumeRequest (config : ResumeConfig) (answer : Answer) (recv sent queued : Nat)
    (session : Session) : Session :=
  if !config.enabled then sendResumeAck answer 0 0 .unknown session
  else if !session.server.isOpen then sendResumeAck answer 0 0 .tooOld session
  else if !answer.resumable then removeTunnel (sendResumeAck answer 0 0 .tooOld session)
  else
    let report := reconcile config answer recv sent queued session
    let acked := sendResumeAck answer session.server.received session.server.emitted report.status
      { session with reports := session.reports ++ [report] }
    if report.status = .ok then acked else removeTunnel acked

def handleTunnelData (party : Party) (bytes : Nat) (session : Session) : Session :=
  let side := session.side party
  let link := session.link party.other
  if side.isOpen then session.withSide party { side with received := side.received + bytes }
  else session.withLink party.other { link with discarded := link.discarded + bytes }

/-- A declined client fails its tunnel. -/
def handleResumeAck (status : ResumeStatus) (session : Session) : Session :=
  if status = .ok then session
  else { session with client := { session.client with isOpen := false } }

def receive (config : ResumeConfig) (answer : Answer) (party : Party) (session : Session) :
    Packet → Session
  | .data bytes => handleTunnelData party bytes session
  | .resumeRequest recv sent queued =>
      match party with
      | .client => session
      | .server => handleResumeRequest config answer recv sent queued session
  | .resumeAck _ _ status =>
      match party with
      | .client => handleResumeAck status session
      | .server => session

inductive ResumeAct where
  | write (party : Party) (bytes : Nat)
  | drive (party : Party) (bytes : Nat)
  | attempt (party : Party) (bytes : Nat)
  | commit (party : Party) (bytes : Nat)
  | rollBack (party : Party) (bytes : Nat)
  | deliver (party : Party)
  | readCounters
  | sendRequest (recv sent : Nat)
  | cut
  | reconnect
  deriving DecidableEq

def execGap (config : ResumeConfig) (answer : Answer) (session : Session) :
    ResumeAct → Session × List ResumeAct
  | .write party bytes =>
      let side := session.side party
      (session.withSide party { side with retained := side.retained + bytes }, [])
  | .drive party bytes =>
      let side := session.side party
      -- The frame is counted as emitted before the send.
      if side.isOpen ∧ side.driving = false ∧ 0 < bytes ∧ bytes ≤ side.retained then
        (session.withSide party
          { side with
            driving := true
            emitted := side.emitted + bytes
            unsettled := side.unsettled + bytes }, [.attempt party bytes])
      else (session, [])
  | .attempt party bytes =>
      let side := session.side party
      if session.up && answer.takes then
        ((session.withLink party ((session.link party).push (.data bytes))).withSide party
          { side with unsettled := side.unsettled - bytes }, [.commit party bytes])
      else (session, [.rollBack party bytes])
  | .commit party bytes =>
      let side := session.side party
      (session.withSide party
        { side with retained := side.retained - bytes, driving := false }, [])
  | .rollBack party bytes =>
      let side := session.side party
      (session.withSide party
        { side with
          driving := false
          emitted := side.emitted - bytes
          unsettled := side.unsettled - bytes }, [])
  | .deliver party =>
      let link := session.link party.other
      match link.queue with
      | [] => (session, [])
      | packet :: rest =>
          (receive config answer party (session.withLink party.other { link with queue := rest })
            packet, [])
  | .readCounters =>
      (session, if session.client.isOpen then
        [.sendRequest session.client.received session.client.emitted] else [])
  | .sendRequest recv sent =>
      (if session.up && answer.takes then
        { session with
          toServer := session.toServer.push (.resumeRequest recv sent session.toServer.accepted) }
      else session, [])
  | .cut =>
      ({ session with
        up := false
        toServer := session.toServer.cut
        toClient := session.toClient.cut }, [])
  | .reconnect => ({ session with up := true }, [])

inductive ResumeOp where
  | write (party : Party) (bytes : Nat)
  | drive (party : Party) (bytes : Nat)
  | deliver (party : Party)
  | requestResume
  | cut
  | reconnect
  deriving DecidableEq

def startGap : ResumeOp → List ResumeAct
  | .write party bytes => [.write party bytes]
  | .drive party bytes => [.drive party bytes]
  | .deliver party => [.deliver party]
  | .requestResume => [.readCounters]
  | .cut => [.cut]
  | .reconnect => [.reconnect]

def gapProgram (config : ResumeConfig) : Program Session ResumeAct ResumeOp Answer where
  start := startGap
  exec := execGap config

def FreshSession (session : Session) : Prop := session = {}

end Model

section Accounts
variable {session after : Session} {others : Multiset ResumeAct}

@[simp] theorem withSide_side (party other : Party) (side : Side) (session : Session) :
    (session.withSide party side).side other =
      if other = party then side else session.side other := by
  cases party <;> cases other <;> rfl

@[simp] theorem withSide_link (party other : Party) (side : Side) (session : Session) :
    (session.withSide party side).link other = session.link other := by
  cases party <;> cases other <;> rfl

@[simp] theorem withLink_side (party other : Party) (link : Link) (session : Session) :
    (session.withLink party link).side other = session.side other := by
  cases party <;> cases other <;> rfl

@[simp] theorem withLink_link (party other : Party) (link : Link) (session : Session) :
    (session.withLink party link).link other =
      if other = party then link else session.link other := by
  cases party <;> cases other <;> rfl

@[simp] theorem inFlight_nil : inFlight [] = 0 := rfl

@[simp] theorem inFlight_cons (packet : Packet) (queue : List Packet) :
    inFlight (packet :: queue) = payload packet + inFlight queue := by
  simp [inFlight]

@[simp] theorem inFlight_push (packet : Packet) (link : Link) :
    inFlight (link.push packet).queue = inFlight link.queue + payload packet := by
  simp [inFlight, Link.push]

/-- Every byte the link has taken was received, dropped, discarded, or is in flight. -/
def Link.Flows (link : Link) (received : Nat) : Prop :=
  link.accepted = received + link.dropped + link.discarded + inFlight link.queue

theorem Link.Flows.push {link : Link} {received : Nat} (flows : link.Flows received)
    (packet : Packet) : (link.push packet).Flows received := by
  have grown := inFlight_push packet link
  simp only [Link.Flows, Link.push] at flows grown ⊢
  omega

theorem Link.Flows.cut {link : Link} {received : Nat} (flows : link.Flows received) :
    link.cut.Flows received := by
  simp only [Link.Flows, Link.cut, inFlight_nil] at flows ⊢
  omega

/-- Two sessions that count the same bytes, up to packets without any. -/
structure Alike (before after : Session) : Prop where
  received : ∀ party, (after.side party).received = (before.side party).received
  emitted : ∀ party, (after.side party).emitted = (before.side party).emitted
  unsettled : ∀ party, (after.side party).unsettled = (before.side party).unsettled
  accepted : ∀ party, (after.link party).accepted = (before.link party).accepted
  flows : ∀ party received, (before.link party).Flows received → (after.link party).Flows received
  toServer : after.toServer = before.toServer
  isOpen : after.server.isOpen = true → before.server.isOpen = true

theorem Alike.refl (session : Session) : Alike session session := by
  constructor <;> intros <;> first | rfl | assumption

theorem Alike.trans {first second third : Session} (one : Alike first second)
    (two : Alike second third) : Alike first third := by
  constructor
  · intro party
    rw [two.received, one.received]
  · intro party
    rw [two.emitted, one.emitted]
  · intro party
    rw [two.unsettled, one.unsettled]
  · intro party
    rw [two.accepted, one.accepted]
  · intro party received flows
    exact two.flows party received (one.flows party received flows)
  · rw [two.toServer, one.toServer]
  · intro still
    exact one.isOpen (two.isOpen still)

theorem alike_ack (answer : Answer) (recv sent : Nat) (status : ResumeStatus)
    (session : Session) : Alike session (sendResumeAck answer recv sent status session) := by
  rw [sendResumeAck]
  split
  · constructor
    · intro party
      cases party <;> rfl
    · intro party
      cases party <;> rfl
    · intro party
      cases party <;> rfl
    · intro party
      cases party <;> rfl
    · intro party received flows
      cases party with
      | client => exact flows
      | server => exact flows.push _
    · rfl
    · exact id
  · exact Alike.refl session

theorem alike_close (party : Party) (session : Session) :
    Alike session (session.withSide party { session.side party with isOpen := false }) := by
  constructor
  · intro other
    cases party <;> cases other <;> rfl
  · intro other
    cases party <;> cases other <;> rfl
  · intro other
    cases party <;> cases other <;> rfl
  · intro other
    rw [withSide_link]
  · intro other received flows
    rw [withSide_link]
    exact flows
  · cases party <;> rfl
  · intro still
    cases party with
    | client => exact still
    | server => cases still

theorem alike_fail (status : ResumeStatus) (session : Session) :
    Alike session (handleResumeAck status session) := by
  rw [handleResumeAck]
  split
  · exact Alike.refl session
  · exact alike_close .client session

theorem alike_reports (reports : List Report) (session : Session) :
    Alike session { session with reports := reports } := by
  constructor <;> intros <;> first | rfl | assumption

theorem alike_handle (config : ResumeConfig) (answer : Answer) (recv sent queued : Nat)
    (session : Session) :
    Alike session (handleResumeRequest config answer recv sent queued session) := by
  simp only [handleResumeRequest]
  split
  · exact alike_ack answer 0 0 .unknown session
  split
  · exact alike_ack answer 0 0 .tooOld session
  split
  · exact (alike_ack answer 0 0 .tooOld session).trans (alike_close .server _)
  · have acked := (alike_reports
      (session.reports ++ [reconcile config answer recv sent queued session]) session).trans
      (alike_ack answer session.server.received session.server.emitted
        (reconcile config answer recv sent queued session).status _)
    split
    · exact acked
    · exact acked.trans (alike_close .server _)

/-- The bytes of a frame that is counted and not yet taken, or not yet taken back. -/
def attempting (party : Party) : ResumeAct → Nat
  | .attempt sender bytes | .rollBack sender bytes => if sender = party then bytes else 0
  | _ => 0

/-- What a side counts as emitted is what its link has taken and what it is sending. -/
structure Balanced (session : Session) (bag : Multiset ResumeAct) : Prop where
  flows : ∀ party, (session.link party).Flows (session.side party.other).received
  attempts : ∀ party, weigh (attempting party) bag = (session.side party).unsettled
  counted : ∀ party, (session.side party).emitted =
    (session.link party).accepted + (session.side party).unsettled

theorem Balanced.alike {bag : Multiset ResumeAct} (balanced : Balanced session bag)
    (same : Alike session after) : Balanced after bag := by
  constructor
  · intro party
    rw [same.received]
    exact same.flows party _ (balanced.flows party)
  · intro party
    rw [same.unsettled]
    exact balanced.attempts party
  · intro party
    rw [same.emitted, same.accepted, same.unsettled]
    exact balanced.counted party

theorem withLink_self (party : Party) (session : Session) :
    session.withLink party (session.link party) = session := by
  cases party <;> rfl

theorem withSide_self (party : Party) (session : Session) :
    session.withSide party (session.side party) = session := by
  cases party <;> rfl

theorem ne_other (party : Party) : party.other ≠ party := by
  cases party <;> simp [Party.other]

theorem other_other (party : Party) : party.other.other = party := by
  cases party <;> rfl

theorem eq_other {party receiver : Party} (apart : party ≠ receiver) : party = receiver.other := by
  cases party <;> cases receiver <;> first | rfl | exact absurd rfl apart

/-- A sender's step that goes on counting what its link has taken and what it is sending. -/
theorem Balanced.sends {bag bag' : Multiset ResumeAct} (balanced : Balanced session bag)
    (sender : Party) (side : Side) (link : Link)
    (received : side.received = (session.side sender).received)
    (flows : link.Flows (session.side sender.other).received)
    (counted : side.emitted = link.accepted + side.unsettled)
    (mine : weigh (attempting sender) bag' = side.unsettled)
    (rest : ∀ party, party ≠ sender →
      weigh (attempting party) bag' = weigh (attempting party) bag) :
    Balanced ((session.withLink sender link).withSide sender side) bag' := by
  constructor
  · intro party
    have before := balanced.flows party
    rw [withSide_link, withSide_side, withLink_link, withLink_side]
    by_cases same : party = sender
    · rw [if_pos same, same, if_neg (ne_other sender)]
      exact flows
    · rw [if_neg same]
      by_cases back : party.other = sender
      · rw [if_pos back, received, ← back]
        exact before
      · rw [if_neg back]
        exact before
  · intro party
    rw [withSide_side, withLink_side]
    by_cases same : party = sender
    · rw [if_pos same, same]
      exact mine
    · rw [if_neg same, rest party same]
      exact balanced.attempts party
  · intro party
    rw [withSide_side, withSide_link, withLink_link, withLink_side]
    by_cases same : party = sender
    · rw [if_pos same, if_pos same]
      exact counted
    · rw [if_neg same, if_neg same]
      exact balanced.counted party

theorem Balanced.counts {sender : Party} {side : Side} {bag bag' : Multiset ResumeAct}
    (balanced : Balanced session bag) (received : side.received = (session.side sender).received)
    (counted : side.emitted = (session.link sender).accepted + side.unsettled)
    (mine : weigh (attempting sender) bag' = side.unsettled)
    (rest : ∀ party, party ≠ sender →
      weigh (attempting party) bag' = weigh (attempting party) bag) :
    Balanced (session.withSide sender side) bag' := by
  have sent := balanced.sends sender side (session.link sender) received (balanced.flows sender)
    counted mine rest
  rw [withLink_self] at sent
  exact sent

theorem Balanced.pushes {packet : Packet} {bag : Multiset ResumeAct}
    (balanced : Balanced session bag) (sender : Party) (empty : payload packet = 0) :
    Balanced (session.withLink sender ((session.link sender).push packet)) bag := by
  have counted := balanced.counted sender
  have sent := balanced.sends sender (session.side sender) ((session.link sender).push packet) rfl
    ((balanced.flows sender).push packet) (by simpa only [Link.push, empty, Nat.add_zero] using counted)
    (balanced.attempts sender) fun _ _ => rfl
  rw [← withLink_side sender sender ((session.link sender).push packet), withSide_self] at sent
  exact sent

theorem Balanced.pops {sender : Party} {packet : Packet} {rest : List Packet}
    {bag : Multiset ResumeAct} (balanced : Balanced session bag)
    (queued : (session.link sender).queue = packet :: rest) (empty : payload packet = 0) :
    Balanced (session.withLink sender { session.link sender with queue := rest }) bag := by
  have flows := balanced.flows sender
  simp only [Link.Flows, queued, inFlight_cons, empty, zero_add] at flows
  have sent := balanced.sends sender (session.side sender)
    { session.link sender with queue := rest } rfl flows (balanced.counted sender)
    (balanced.attempts sender) fun _ _ => rfl
  rw [← withLink_side sender sender { session.link sender with queue := rest },
    withSide_self] at sent
  exact sent

theorem data_counters (receiver party : Party) (bytes : Nat) (session : Session) :
    ((handleTunnelData receiver bytes session).side party).emitted = (session.side party).emitted ∧
      ((handleTunnelData receiver bytes session).side party).unsettled =
        (session.side party).unsettled ∧
      ((handleTunnelData receiver bytes session).link party).accepted =
        (session.link party).accepted := by
  simp only [handleTunnelData]
  split
  · by_cases same : party = receiver
    · subst same
      simp
    · simp [same]
  · by_cases same : party = receiver.other
    · subst same
      simp
    · simp [same]

/-- A payload that has left the queue is received, or discarded by a side that is not open. -/
theorem data_flows {receiver : Party} {bytes : Nat}
    (flows : (session.link receiver.other).accepted = (session.side receiver).received + bytes +
      (session.link receiver.other).dropped + (session.link receiver.other).discarded +
      inFlight (session.link receiver.other).queue) :
    ((handleTunnelData receiver bytes session).link receiver.other).Flows
      ((handleTunnelData receiver bytes session).side receiver).received := by
  simp only [handleTunnelData]
  split
  · simp only [Link.Flows, withSide_link, withSide_side, if_true]
    omega
  · simp only [Link.Flows, withLink_link, withLink_side, if_true]
    omega

theorem data_flows_back {receiver : Party} {bytes : Nat}
    (flows : (session.link receiver).Flows (session.side receiver.other).received) :
    ((handleTunnelData receiver bytes session).link receiver).Flows
      ((handleTunnelData receiver bytes session).side receiver.other).received := by
  simp only [handleTunnelData]
  split
  · rw [withSide_link, withSide_side, if_neg (ne_other receiver)]
    exact flows
  · rw [withLink_link, withLink_side, if_neg (ne_other receiver).symm]
    exact flows

theorem Balanced.takes {receiver : Party} {bytes : Nat} {rest : List Packet}
    {bag : Multiset ResumeAct} (balanced : Balanced session bag)
    (queued : (session.link receiver.other).queue = .data bytes :: rest) :
    Balanced (handleTunnelData receiver bytes
      (session.withLink receiver.other { session.link receiver.other with queue := rest })) bag := by
  have arriving := balanced.flows receiver.other
  constructor
  · intro party
    by_cases same : party = receiver
    · subst same
      apply data_flows_back
      have before := balanced.flows party
      rw [withLink_link, withLink_side, if_neg (ne_other party).symm]
      exact before
    · obtain rfl := eq_other same
      rw [other_other] at arriving ⊢
      apply data_flows
      simp only [Link.Flows, queued, inFlight_cons, payload] at arriving
      simp only [withLink_link, withLink_side, if_true]
      omega
  · intro party
    rw [(data_counters receiver party bytes _).2.1, withLink_side]
    exact balanced.attempts party
  · intro party
    obtain ⟨emitted, unsettled, accepted⟩ := data_counters receiver party bytes
      (session.withLink receiver.other { session.link receiver.other with queue := rest })
    have counted := balanced.counted party
    rw [emitted, unsettled, accepted, withLink_side, withLink_link]
    by_cases same : party = receiver.other
    · subst same
      simpa using counted
    · rw [if_neg same]
      exact counted

theorem Balanced.receives {config : ResumeConfig} {answer : Answer} {receiver : Party}
    {packet : Packet} {rest : List Packet} {bag : Multiset ResumeAct}
    (balanced : Balanced session bag)
    (queued : (session.link receiver.other).queue = packet :: rest) :
    Balanced (receive config answer receiver
      (session.withLink receiver.other { session.link receiver.other with queue := rest }) packet)
      bag := by
  cases packet with
  | data bytes => exact balanced.takes queued
  | resumeRequest recv sent accepted =>
      have popped := balanced.pops queued rfl
      cases receiver with
      | client => exact popped
      | server => exact popped.alike (alike_handle config answer recv sent accepted _)
  | resumeAck recv sent status =>
      have popped := balanced.pops queued rfl
      cases receiver with
      | client => exact popped.alike (alike_fail status _)
      | server => exact popped

theorem attempting_others {sender party : Party} {act : ResumeAct} {bytes : Nat}
    (own : act = .attempt sender bytes ∨ act = .rollBack sender bytes) (apart : party ≠ sender) :
    attempting party act = 0 := by
  rcases own with rfl | rfl
  · simp [attempting, apart.symm]
  · simp [attempting, apart.symm]

theorem exec_balanced (config : ResumeConfig) (answer : Answer) (session : Session)
    (act : ResumeAct) (others : Multiset ResumeAct) (balanced : Balanced session (act ::ₘ others)) :
    Balanced (execGap config answer session act).1
      (↑(execGap config answer session act).2 + others) := by
  have attempts := balanced.attempts
  simp only [weigh_cons] at attempts
  -- The actions with no frame under way leave the weights of the bag.
  have idle : (∀ party, attempting party act = 0) → Balanced session others := by
    intro none
    refine ⟨balanced.flows, ?_, balanced.counted⟩
    intro party
    have weight := attempts party
    rw [none party, zero_add] at weight
    exact weight
  cases act with
  | write sender bytes =>
      have before := idle fun _ => rfl
      simp only [execGap, Multiset.coe_nil, zero_add]
      exact before.counts rfl (before.counted sender) (before.attempts sender) fun _ _ => rfl
  | drive sender bytes =>
      have before := idle fun _ => rfl
      simp only [execGap]
      split
      · have counted := before.counted sender
        have weight := before.attempts sender
        refine before.counts rfl ?_ ?_ ?_
        · dsimp only
          omega
        · simp only [weigh_add, Multiset.coe_singleton, weigh_singleton, attempting, if_true]
          omega
        · intro party apart
          rw [weigh_add, Multiset.coe_singleton, weigh_singleton,
            attempting_others (.inl rfl) apart, zero_add]
      · simpa using before
  | attempt sender bytes =>
      have counted := balanced.counted sender
      have weight := attempts sender
      simp only [attempting, if_true] at weight
      simp only [execGap]
      split
      · refine balanced.sends sender _ _ rfl ((balanced.flows sender).push _) ?_ ?_ ?_
        · simp only [Link.push, payload]
          omega
        · simp only [weigh_add, Multiset.coe_singleton, weigh_singleton, attempting]
          omega
        · intro party apart
          rw [weigh_add, weigh_cons, attempting_others (.inl rfl) apart]
          rfl
      · refine ⟨balanced.flows, ?_, balanced.counted⟩
        intro party
        rw [← attempts party, weigh_add]
        rfl
  | commit sender bytes =>
      have before := idle fun _ => rfl
      simp only [execGap, Multiset.coe_nil, zero_add]
      exact before.counts rfl (before.counted sender) (before.attempts sender) fun _ _ => rfl
  | rollBack sender bytes =>
      have counted := balanced.counted sender
      have weight := attempts sender
      simp only [attempting, if_true] at weight
      simp only [execGap, Multiset.coe_nil, zero_add]
      refine balanced.counts rfl ?_ ?_ ?_
      · dsimp only
        omega
      · dsimp only
        omega
      · intro party apart
        rw [weigh_cons, attempting_others (.inr rfl) apart, zero_add]
  | deliver receiver =>
      have before := idle fun _ => rfl
      simp only [execGap]
      split
      · simpa using before
      next packet rest queued =>
        simp only [Multiset.coe_nil, zero_add]
        exact before.receives queued
  | readCounters =>
      have before := idle fun _ => rfl
      simp only [execGap]
      split
      · refine ⟨before.flows, ?_, before.counted⟩
        intro party
        rw [weigh_add, ← before.attempts party]
        exact zero_add _
      · simpa using before
  | sendRequest recv sent =>
      have before := idle fun _ => rfl
      simp only [execGap, Multiset.coe_nil, zero_add]
      split
      · exact before.pushes .client rfl
      · exact before
  | cut =>
      have before := idle fun _ => rfl
      simp only [execGap, Multiset.coe_nil, zero_add]
      constructor
      · intro party
        cases party with
        | client => exact (before.flows .client).cut
        | server => exact (before.flows .server).cut
      · intro party
        cases party with
        | client => exact before.attempts .client
        | server => exact before.attempts .server
      · intro party
        cases party with
        | client => exact before.counted .client
        | server => exact before.counted .server
  | reconnect =>
      have before := idle fun _ => rfl
      simp only [execGap, Multiset.coe_nil, zero_add]
      constructor
      · intro party
        cases party with
        | client => exact before.flows .client
        | server => exact before.flows .server
      · intro party
        cases party with
        | client => exact before.attempts .client
        | server => exact before.attempts .server
      · intro party
        cases party with
        | client => exact before.counted .client
        | server => exact before.counted .server

theorem reach_balanced {config : ResumeConfig} {reachable : Config Session ResumeAct}
    (reached : Reach (gapProgram config) always FreshSession reachable) :
    Balanced reachable.shared reachable.bag := by
  apply Reach.bag_invariant Balanced _ _ _ reached
  · rintro _ rfl
    constructor <;> intro party <;> cases party <;> rfl
  · intro session bag op balanced _
    refine ⟨balanced.flows, ?_, balanced.counted⟩
    intro party
    have none : weigh (attempting party) ↑(startGap op) = 0 := by cases op <;> rfl
    simp only [gapProgram, weigh_add, none, zero_add]
    exact balanced.attempts party
  · intro answer session act others balanced _
    exact exec_balanced config answer session act others balanced

end Accounts

section Order
variable {session after : Session} {others : Multiset ResumeAct}

/-- A request in the queue knows the bytes that the link had taken before it: the base
and what is ahead of it in the queue. -/
def Placed : Nat → List Packet → Prop
  | _, [] => True
  | base, packet :: rest =>
      (∀ recv sent queued, packet = .resumeRequest recv sent queued → queued = base) ∧
        Placed (base + payload packet) rest

theorem placed_push {base : Nat} {queue : List Packet} {packet : Packet}
    (placed : Placed base queue)
    (last : ∀ recv sent queued, packet = .resumeRequest recv sent queued →
      queued = base + inFlight queue) :
    Placed base (queue ++ [packet]) := by
  induction queue generalizing base with
  | nil => exact ⟨last, trivial⟩
  | cons first rest ih =>
      refine ⟨placed.1, ih placed.2 ?_⟩
      intro recv sent queued same
      rw [last recv sent queued same, inFlight_cons]
      omega

/-- The bytes of the client that have left its link. -/
def departed (session : Session) : Nat :=
  session.server.received + session.toServer.dropped + session.toServer.discarded

structure Ordered (session : Session) (bag : Multiset ResumeAct) : Prop where
  placed : Placed (departed session) session.toServer.queue
  read : ∀ recv sent queued, .resumeRequest recv sent queued ∈ session.toServer.queue →
    recv ≤ session.client.received
  reading : ∀ recv sent, .sendRequest recv sent ∈ bag → recv ≤ session.client.received
  whole : session.server.isOpen = true → session.toServer.discarded = 0

theorem Ordered.still {bag : Multiset ResumeAct} (ordered : Ordered session bag)
    (toServer : after.toServer = session.toServer)
    (received : after.server.received = session.server.received)
    (grown : session.client.received ≤ after.client.received)
    (isOpen : after.server.isOpen = true → session.server.isOpen = true) : Ordered after bag := by
  constructor
  · rw [departed, toServer, received]
    exact ordered.placed
  · rw [toServer]
    intro recv sent queued member
    exact (ordered.read recv sent queued member).trans grown
  · intro recv sent member
    exact (ordered.reading recv sent member).trans grown
  · intro opened
    rw [toServer]
    exact ordered.whole (isOpen opened)

theorem Ordered.calls {calls : List ResumeAct} (ordered : Ordered session others)
    (none : ∀ recv sent, .sendRequest recv sent ∉ calls) : Ordered session (↑calls + others) := by
  refine ⟨ordered.placed, ordered.read, ?_, ordered.whole⟩
  intro recv sent member
  rcases Multiset.mem_add.mp member with new | old
  · exact absurd (Multiset.mem_coe.mp new) (none recv sent)
  · exact ordered.reading recv sent old

theorem Ordered.alike {bag : Multiset ResumeAct} (ordered : Ordered session bag)
    (same : Alike session after) : Ordered after bag := by
  have server := same.received .server
  have client := same.received .client
  simp only [Session.side] at server client
  constructor
  · rw [departed, same.toServer, server]
    exact ordered.placed
  · rw [same.toServer, client]
    exact ordered.read
  · rw [client]
    exact ordered.reading
  · intro still
    rw [same.toServer]
    exact ordered.whole (same.isOpen still)

theorem Ordered.receives {config : ResumeConfig} {answer : Answer} {packet : Packet}
    {rest : List Packet} {bag : Multiset ResumeAct} (ordered : Ordered session bag)
    (queued : session.toServer.queue = packet :: rest) :
    Ordered (receive config answer .server
      { session with toServer := { session.toServer with queue := rest } } packet) bag := by
  have placed := ordered.placed
  have read := ordered.read
  rw [queued] at placed read
  have rest_read : ∀ recv sent queued, .resumeRequest recv sent queued ∈ rest →
      recv ≤ session.client.received := by
    intro recv sent accepted member
    exact read recv sent accepted (List.mem_cons_of_mem _ member)
  have popped : payload packet = 0 →
      Ordered { session with toServer := { session.toServer with queue := rest } } bag := by
    intro empty
    have tail := placed.2
    rw [empty, Nat.add_zero] at tail
    exact ⟨tail, rest_read, ordered.reading, ordered.whole⟩
  cases packet with
  | data bytes =>
      have tail := placed.2
      simp only [departed, payload] at tail
      simp only [receive, handleTunnelData]
      by_cases still : session.server.isOpen = true
      · rw [if_pos (by exact still)]
        refine ⟨?_, rest_read, ordered.reading, ordered.whole⟩
        simp only [departed, Session.withSide, Session.side]
        rw [show session.server.received + bytes + session.toServer.dropped +
          session.toServer.discarded = session.server.received + session.toServer.dropped +
            session.toServer.discarded + bytes by omega]
        exact tail
      · rw [if_neg (by exact still)]
        refine ⟨?_, rest_read, ordered.reading, fun opened => absurd opened still⟩
        simp only [departed, Session.withLink, Session.link, Party.other]
        rw [← Nat.add_assoc]
        exact tail
  | resumeRequest recv sent accepted =>
      exact (popped rfl).alike (alike_handle config answer recv sent accepted _)
  | resumeAck recv sent status => exact popped rfl

theorem exec_ordered (config : ResumeConfig) (answer : Answer) (session : Session)
    (act : ResumeAct) (others : Multiset ResumeAct)
    (flows : session.toServer.Flows session.server.received)
    (ordered : Ordered session (act ::ₘ others)) :
    Ordered (execGap config answer session act).1
      (↑(execGap config answer session act).2 + others) := by
  have rest : ∀ recv sent, .sendRequest recv sent ∈ others → recv ≤ session.client.received :=
    fun recv sent member => ordered.reading recv sent (Multiset.mem_cons_of_mem member)
  have before : Ordered session others := ⟨ordered.placed, ordered.read, rest, ordered.whole⟩
  cases act with
  | write sender bytes | commit sender bytes | rollBack sender bytes =>
      apply Ordered.calls
      · cases sender <;> exact before.still rfl rfl (Nat.le_refl _) id
      · simp [execGap]
  | drive sender bytes =>
      simp only [execGap]
      split
      · apply Ordered.calls
        · cases sender <;> exact before.still rfl rfl (Nat.le_refl _) id
        · simp
      · exact before.calls (by simp)
  | attempt sender bytes =>
      simp only [execGap]
      split
      · apply Ordered.calls
        · cases sender with
          | client =>
              refine ⟨placed_push before.placed (by simp), ?_, rest, before.whole⟩
              intro recv sent queued member
              rcases List.mem_append.mp member with older | new
              · exact before.read recv sent queued older
              · simp at new
          | server => exact before.still rfl rfl (Nat.le_refl _) id
        · simp
      · exact before.calls (by simp)
  | deliver receiver =>
      simp only [execGap]
      split
      · exact before.calls (by simp)
      next packet later queued =>
        apply Ordered.calls
        · cases receiver with
          | client =>
              have popped : Ordered (session.withLink .server
                { session.toClient with queue := later }) others :=
                before.still rfl rfl (Nat.le_refl _) id
              cases packet with
              | data bytes =>
                  simp only [receive, handleTunnelData]
                  split
                  · exact before.still rfl rfl (Nat.le_add_right _ _) id
                  · exact before.still rfl rfl (Nat.le_refl _) id
              | resumeRequest recv sent accepted => exact popped
              | resumeAck recv sent status => exact popped.alike (alike_fail status _)
          | server => exact before.receives queued
        · simp
  | readCounters =>
      simp only [execGap]
      refine ⟨before.placed, before.read, ?_, before.whole⟩
      intro recv sent member
      rcases Multiset.mem_add.mp member with new | old
      · split at new
        · simp only [Multiset.coe_singleton, Multiset.mem_singleton,
            ResumeAct.sendRequest.injEq] at new
          exact Nat.le_of_eq new.1
        · cases new
      · exact rest recv sent old
  | sendRequest recv sent =>
      have mine := ordered.reading recv sent (Multiset.mem_cons_self _ _)
      simp only [execGap]
      apply Ordered.calls
      · split
        · refine ⟨placed_push before.placed ?_, ?_, rest, before.whole⟩
          · intro _ _ queued same
            simp only [Packet.resumeRequest.injEq] at same
            rw [← same.2.2, flows]
            rfl
          · intro first second queued member
            rcases List.mem_append.mp member with older | new
            · exact before.read first second queued older
            · simp only [List.mem_singleton, Packet.resumeRequest.injEq] at new
              rw [new.1]
              exact mine
        · exact before
      · simp
  | cut =>
      apply Ordered.calls
      · refine ⟨trivial, ?_, rest, before.whole⟩
        intro recv sent queued member
        cases member
      · simp [execGap]
  | reconnect =>
      apply Ordered.calls
      · exact before.still rfl rfl (Nat.le_refl _) id
      · simp [execGap]

theorem reach_ordered {config : ResumeConfig} {reachable : Config Session ResumeAct}
    (reached : Reach (gapProgram config) always FreshSession reachable) :
    Ordered reachable.shared reachable.bag := by
  have knowing := reached.knowing Balanced fun _ before => reach_balanced before
  apply Reach.bag_invariant Ordered _ _ _ knowing
  · rintro _ rfl
    constructor
    · exact trivial
    · intro recv sent queued member
      cases member
    · intro recv sent member
      exact absurd member (Multiset.notMem_zero _)
    · intro _
      rfl
  · intro session bag op ordered _
    refine ⟨ordered.placed, ordered.read, ?_, ordered.whole⟩
    intro recv sent member
    rcases Multiset.mem_add.mp member with new | old
    · cases op <;> simp [gapProgram, startGap] at new
    · exact ordered.reading recv sent old
  · intro answer session act others ordered allowed
    exact exec_ordered config answer session act others (allowed.2.flows .client) ordered

end Order

section Reports
variable {session after : Session} {act : ResumeAct}

/-- The gap check tells a stream with a hole from one without. -/
def Report.Exact (report : Report) : Prop :=
  report.gap = true ↔ 0 < report.droppedToServer + report.droppedToClient

instance (report : Report) : Decidable report.Exact :=
  inferInstanceAs (Decidable (report.gap = true ↔
    0 < report.droppedToServer + report.droppedToClient))

/-- Bytes to the client were dropped, so that any check says so; or none at all, while
the server was not ahead of the client's reading and the link had taken what the client
had counted; or bytes to the server, and fewer slipped by behind the reading than were
dropped, unless the server was ahead. -/
def Report.Timely (report : Report) : Prop :=
  0 < report.droppedToClient ∨
    (report.droppedToServer = 0 ∧ report.ahead = 0 ∧ report.sent ≤ report.queued) ∨
    (0 < report.droppedToServer ∧
      (0 < report.ahead ∨ report.queued < report.sent + report.droppedToServer))

/-- The server is past the client's reading by what was dropped and what it is ahead; the
client's count is past the server by what was dropped less what slipped by. -/
theorem reconcile_exact {bag : Multiset ResumeAct} (balanced : Balanced session bag)
    (config : ResumeConfig) (answer : Answer) (recv sent queued : Nat)
    (placed : queued = departed session) (whole : session.toServer.discarded = 0)
    (read : recv ≤ session.client.received) :
    (reconcile config answer recv sent queued session).Exact ↔
      (reconcile config answer recv sent queued session).Timely := by
  have flows : session.toClient.accepted = session.client.received + session.toClient.dropped +
    session.toClient.discarded + inFlight session.toClient.queue := balanced.flows .server
  have counted : session.server.emitted =
    session.toClient.accepted + session.server.unsettled := balanced.counted .server
  rw [departed, whole, Nat.add_zero] at placed
  simp only [Report.Exact, Report.Timely, reconcile, resumeOffsetsHaveGap, Bool.or_eq_true,
    decide_eq_true_eq]
  omega

theorem ack_reports (answer : Answer) (recv sent : Nat) (status : ResumeStatus)
    (session : Session) : (sendResumeAck answer recv sent status session).reports =
      session.reports := by
  rw [sendResumeAck]
  split <;> rfl

theorem handle_reports (config : ResumeConfig) (answer : Answer) (recv sent queued : Nat)
    (session : Session) :
    ∀ report ∈ (handleResumeRequest config answer recv sent queued session).reports,
      report ∈ session.reports ∨
        session.server.isOpen = true ∧
          report = reconcile config answer recv sent queued session := by
  intro report member
  simp only [handleResumeRequest] at member
  split at member
  · rw [ack_reports] at member
    exact .inl member
  split at member
  · rw [ack_reports] at member
    exact .inl member
  next still =>
    split at member
    · left
      simp only [removeTunnel, ack_reports] at member
      exact member
    · have made : report ∈
          session.reports ++ [reconcile config answer recv sent queued session] := by
        split at member
        · rw [ack_reports] at member
          exact member
        · simp only [removeTunnel, ack_reports] at member
          exact member
      rcases List.mem_append.mp made with before | new
      · exact .inl before
      · exact .inr ⟨by simpa using still, List.mem_singleton.mp new⟩

theorem withSide_reports (party : Party) (side : Side) (session : Session) :
    (session.withSide party side).reports = session.reports := by
  cases party <;> rfl

theorem withLink_reports (party : Party) (link : Link) (session : Session) :
    (session.withLink party link).reports = session.reports := by
  cases party <;> rfl

theorem exec_reports (config : ResumeConfig) (answer : Answer) (session : Session)
    (act : ResumeAct) :
    ∀ report ∈ (execGap config answer session act).1.reports, report ∈ session.reports ∨
      ∃ recv sent queued rest,
        session.toServer.queue = .resumeRequest recv sent queued :: rest ∧
          session.server.isOpen = true ∧
          report = reconcile config answer recv sent queued session := by
  intro report member
  cases act with
  | deliver receiver =>
      simp only [execGap] at member
      split at member
      · exact .inl member
      next packet rest queue =>
        cases packet with
        | data bytes =>
            left
            simp only [receive, handleTunnelData] at member
            split at member
            · rw [withSide_reports, withLink_reports] at member
              exact member
            · rw [withLink_reports, withLink_reports] at member
              exact member
        | resumeRequest recv sent queued =>
            cases receiver with
            | client => exact .inl member
            | server =>
                rcases handle_reports config answer recv sent queued _ report member with
                  before | ⟨still, made⟩
                · exact .inl before
                · exact .inr ⟨recv, sent, queued, rest, queue, still, made⟩
        | resumeAck recv sent status =>
            left
            cases receiver with
            | client =>
                simp only [receive, handleResumeAck] at member
                split at member <;> exact member
            | server => exact member
  | write sender bytes | commit sender bytes | rollBack sender bytes =>
      left
      simp only [execGap, withSide_reports] at member
      exact member
  | drive sender bytes =>
      left
      simp only [execGap] at member
      split at member
      · rw [withSide_reports] at member
        exact member
      · exact member
  | attempt sender bytes =>
      left
      simp only [execGap] at member
      split at member
      · rw [withSide_reports, withLink_reports] at member
        exact member
      · exact member
  | sendRequest recv sent =>
      left
      simp only [execGap] at member
      split at member <;> exact member
  | readCounters | cut | reconnect => exact .inl member

/-- In every run, a gap check tells whether payload bytes were dropped just when it is
timely. -/
theorem gap_exact_iff {config : ResumeConfig} {reachable : Config Session ResumeAct}
    (reached : Reach (gapProgram config) always FreshSession reachable) :
    ∀ report ∈ reachable.shared.reports, report.Exact ↔ report.Timely := by
  have knowing := reached.knowing (fun session bag => Balanced session bag ∧ Ordered session bag)
    fun _ before => ⟨reach_balanced before, reach_ordered before⟩
  apply Reach.bag_invariant
    (fun session _ => ∀ report ∈ session.reports, report.Exact ↔ report.Timely) _ _ _ knowing
  · rintro _ rfl report member
    cases member
  · intro session bag op known _
    exact known
  · intro answer session act others known allowed report member
    obtain ⟨balanced, ordered⟩ := allowed.2
    rcases exec_reports config answer session act report member with
      before | ⟨recv, sent, queued, rest, queue, still, rfl⟩
    · exact known report before
    · have placed := ordered.placed
      have read := ordered.read recv sent queued
      rw [queue] at placed read
      exact reconcile_exact balanced config answer recv sent queued
        (placed.1 recv sent queued rfl) (ordered.whole still) (read List.mem_cons_self)

/-- A frame to the client is lost in the cut, and the check says so. -/
theorem gap_exact_iff_lost :
    ∃ reachable, Reach (gapProgram { enabled := true }) always FreshSession reachable ∧
      (∃ report ∈ reachable.shared.reports, report.gap = true ∧ report.droppedToClient = 3) ∧
      ∀ report ∈ reachable.shared.reports, report.Exact ↔ report.Timely := by
  let schedule : List (Event ResumeOp Answer) :=
    [.call (.write .server 3), .run 0 {}, .call (.drive .server 3), .run 1 {}, .run 1 {}, .run 1 {},
      .call .cut, .run 2 {}, .call .reconnect, .run 3 {}, .call .requestResume, .run 4 {}, .run 4 {},
      .call (.deliver .server), .run 5 {}]
  have run := Reach.exists_of_replay (gapProgram { enabled := true }) always FreshSession {}
    schedule (fun reachable => decide (∃ report ∈ reachable.shared.reports,
      report.gap = true ∧ report.droppedToClient = 3)) rfl (by decide)
  obtain ⟨reachable, reached, met⟩ := run
  exact ⟨reachable, reached, of_decide_eq_true met, gap_exact_iff reached⟩

/-- Nothing was lost, and the tunnel is closed for a frame that the server emitted after
the reconnect. A frame was lost, and the tunnel goes on because as many bytes slipped by
between the client's reading and its request. -/
theorem gap_inexact :
    (∃ reachable, Reach (gapProgram { enabled := true, closeOnGap := true }) always FreshSession
        reachable ∧
      ∃ report ∈ reachable.shared.reports, ¬ report.Exact ∧ report.status = .tooOld ∧
        report.droppedToServer = 0 ∧ report.droppedToClient = 0) ∧
    ∃ reachable, Reach (gapProgram { enabled := true, closeOnGap := true }) always FreshSession
        reachable ∧
      ∃ report ∈ reachable.shared.reports, ¬ report.Exact ∧ report.status = .ok ∧
        report.droppedToServer = 3 := by
  constructor
  · let schedule : List (Event ResumeOp Answer) :=
      [.call (.write .server 3), .run 0 {}, .call .cut, .run 1 {}, .call .reconnect, .run 2 {},
        .call (.drive .server 3), .run 3 {}, .run 3 {}, .run 3 {}, .call .requestResume, .run 4 {},
        .run 4 {}, .call (.deliver .server), .run 5 {}]
    have run := Reach.exists_of_replay (gapProgram { enabled := true, closeOnGap := true }) always
      FreshSession {} schedule (fun reachable => decide (∃ report ∈ reachable.shared.reports,
        ¬ report.Exact ∧ report.status = .tooOld ∧ report.droppedToServer = 0 ∧
          report.droppedToClient = 0)) rfl (by decide)
    obtain ⟨reachable, reached, met⟩ := run
    exact ⟨reachable, reached, of_decide_eq_true met⟩
  · let schedule : List (Event ResumeOp Answer) :=
      [.call (.write .client 6), .run 0 {}, .call (.drive .client 3), .run 1 {}, .run 1 {},
        .run 1 {}, .call .cut, .run 2 {}, .call .reconnect, .run 3 {}, .call .requestResume,
        .run 4 {}, .call (.drive .client 3), .run 5 {}, .run 5 {}, .run 5 {}, .run 4 {},
        .call (.deliver .server), .run 6 {}, .call (.deliver .server), .run 7 {}]
    have run := Reach.exists_of_replay (gapProgram { enabled := true, closeOnGap := true }) always
      FreshSession {} schedule (fun reachable => decide (∃ report ∈ reachable.shared.reports,
        ¬ report.Exact ∧ report.status = .ok ∧ report.droppedToServer = 3)) rfl (by decide)
    obtain ⟨reachable, reached, met⟩ := run
    exact ⟨reachable, reached, of_decide_eq_true met⟩

end Reports

end ToxTunnel.ResumeGap
