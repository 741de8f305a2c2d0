import ToxTunnel.AckLedger
import ToxTunnel.LastingFacts
import ToxTunnel.ResumeGap
import ToxTunnel.StreamIntegrity

/-!
Both ends of a tunnel, each in any interleaving of its threads, and the link between
them, which keeps its frames in order and loses none while it is up. What an end takes
up is a first part of what the other one accepted, and every byte that is credited was
received: a peer that runs this code never acknowledges what it did not get.
-/

namespace ToxTunnel.TunnelPair
open Interleaving TunnelState TunnelSteps CohortFifo EmissionDriver StreamIntegrity
open ResumeGap (Party)

section Model

def payloadOf : Frame → Bytes
  | .tunnelData payload => payload
  | _ => []

def creditOf : Frame → Nat
  | .tunnelAck bytesAcked => bytesAcked
  | _ => 0

/-- The DATA in some frames, and the bytes their ACKs are for. -/
def dataOf (frames : List Frame) : Bytes := frames.flatMap payloadOf

def creditIn (frames : List Frame) : Nat := (frames.map creditOf).sum

/-- A frame as the other end decodes it. -/
def decoded : Frame → Inbound
  | .tunnelOpen host port => .tunnelOpen host port
  | .tunnelData payload => .tunnelData payload
  | .tunnelClose => .tunnelClose
  | .tunnelAck bytesAcked => .tunnelAck (UInt32.ofNat bytesAcked)
  | .tunnelError code description => .tunnelError code description
  | .pong => .pong

/-- The frame that the link has when an action is done: the transport took it. -/
def transmitted (choice : Choice) : Act → List Frame
  | .send (.transportAnswer outgoing) =>
      if choice.outcome = .sent then [outgoing.frame] else []
  | _ => []

def fromPeer : Op → Bool
  | .handleFrame _ _ => true
  | _ => false

/-- One end as far as it is its own: `sent` has the frames that the link took of it, `got`
those of its peer that came off the link for it. -/
structure Half where
  config : Config Tunnel Act
  sent : List Frame := []
  got : List Frame := []

def Half.take (own : UInt16) (half : Half) (frame : Frame) : Half :=
  { half with
    config := half.config.call (tunnelProgram own) (.handleFrame own (decoded frame))
    got := half.got ++ [frame] }

inductive HalfEvent where
  | call (op : Op)
  | run (thread : Nat) (choice : Choice)
  deriving DecidableEq

def Half.advance (own : UInt16) (half : Half) : HalfEvent → Option Half
  | .call op =>
      if fromPeer op then none
      else some { half with config := half.config.call (tunnelProgram own) op }
  | .run thread choice =>
      match half.config.threads[thread]? with
      | some (action :: rest) =>
          some { half with
            config := half.config.run (tunnelProgram own) thread choice action rest
            sent := half.sent ++ transmitted choice action }
      | _ => none

/-- The frames on the link are those that one end sent and the other has not taken up. -/
structure Pair where
  client : Half
  server : Half

def Pair.half (pair : Pair) : Party → Half
  | .client => pair.client
  | .server => pair.server

def Pair.withHalf (party : Party) (half : Half) (pair : Pair) : Pair :=
  match party with
  | .client => { pair with client := half }
  | .server => { pair with server := half }

inductive PairEvent where
  | own (party : Party) (event : HalfEvent)
  | deliver (party : Party)
  | discard (party : Party)
  deriving DecidableEq

/-- What is next on the link to a party. -/
def Pair.next (pair : Pair) (party : Party) : Option Frame :=
  (pair.half party.other).sent[(pair.half party).got.length]?

def Pair.advance (own : UInt16) (pair : Pair) : PairEvent → Option Pair
  | .own party event =>
      ((pair.half party).advance own event).map fun half => pair.withHalf party half
  | .deliver party =>
      (pair.next party).map fun frame =>
        pair.withHalf party ((pair.half party).take own frame)
  | .discard party =>
      -- The manager has dropped the tunnel, which may be Connected with a deferred close.
      (pair.next party).map fun frame =>
        pair.withHalf party { pair.half party with got := (pair.half party).got ++ [frame] }

inductive Paired (own : UInt16) : Pair → Prop where
  | start (client server : Tunnel) : Fresh client → Fresh server →
      Paired own ⟨{ config := .begin client }, { config := .begin server }⟩
  | step (pair next : Pair) (event : PairEvent) :
      Paired own pair → pair.advance own event = some next → Paired own next

def Pair.replay (own : UInt16) : Pair → List PairEvent → Option Pair
  | pair, [] => some pair
  | pair, event :: rest => (pair.advance own event).bind fun next => next.replay own rest

theorem Paired.replay {own : UInt16} {events : List PairEvent} {pair last : Pair}
    (paired : Paired own pair) (replayed : pair.replay own events = some last) :
    Paired own last := by
  induction events generalizing pair with
  | nil =>
      cases replayed
      exact paired
  | cons event rest ih =>
      obtain ⟨next, advanced, replayed⟩ := Option.bind_eq_some_iff.mp replayed
      exact ih (.step pair next event paired advanced) replayed

@[simp] theorem dataOf_append (first second : List Frame) :
    dataOf (first ++ second) = dataOf first ++ dataOf second := List.flatMap_append

@[simp] theorem dataOf_one (frame : Frame) : dataOf [frame] = payloadOf frame := by
  simp [dataOf]

@[simp] theorem creditIn_append (first second : List Frame) :
    creditIn (first ++ second) = creditIn first + creditIn second := by
  simp [creditIn]

@[simp] theorem creditIn_nil : creditIn [] = 0 := rfl

@[simp] theorem creditIn_one (frame : Frame) : creditIn [frame] = creditOf frame := by
  simp [creditIn]

end Model

section Projection
variable {own : UInt16} {pair next : Pair} {half after : Half}

/-- What a step of the pair is for one of its ends. -/
inductive Half.Step (own : UInt16) (half : Half) : Half → Prop where
  | same : Step own half half
  | advance (event : HalfEvent) (after : Half) :
      half.advance own event = some after → Step own half after
  | take (frame : Frame) : Step own half (half.take own frame)
  | discard (frame : Frame) : Step own half { half with got := half.got ++ [frame] }

/-- What an end may come to when its peer is any. -/
inductive Half.Reached (own : UInt16) : Half → Prop where
  | start (tunnel : Tunnel) : Fresh tunnel → Reached own { config := .begin tunnel }
  | step (half after : Half) : Reached own half → Half.Step own half after → Reached own after

@[simp] theorem withHalf_self (party : Party) (half : Half) :
    (pair.withHalf party half).half party = half := by
  cases party <;> rfl

theorem withHalf_apart {party other : Party} (apart : other ≠ party) (half : Half) :
    (pair.withHalf party half).half other = pair.half other := by
  cases party <;> cases other <;> first | rfl | exact absurd rfl apart

theorem other_apart (party : Party) : party.other ≠ party := by
  cases party <;> exact Party.noConfusion

@[simp] theorem other_other (party : Party) : party.other.other = party := by
  cases party <;> rfl

/-- A step is one end's own, or the other end has its next frame taken off the link. -/
theorem advance_cases {event : PairEvent} (advanced : pair.advance own event = some next) :
    ∃ party after, next = pair.withHalf party after ∧
      ((after.got = (pair.half party).got ∧
          ∃ event, (pair.half party).advance own event = some after) ∨
        ∃ frame, pair.next party = some frame ∧
          (after = (pair.half party).take own frame ∨
            after = { pair.half party with got := (pair.half party).got ++ [frame] })) := by
  cases event with
  | own party event =>
      obtain ⟨after, moved, rfl⟩ := Option.map_eq_some_iff.mp advanced
      refine ⟨party, after, rfl, .inl ⟨?_, event, moved⟩⟩
      cases event with
      | call op =>
          simp only [Half.advance, Option.ite_none_left_eq_some, Option.some.injEq] at moved
          rw [← moved.2]
      | run thread choice =>
          simp only [Half.advance] at moved
          split at moved
          · cases moved
            rfl
          · cases moved
  | deliver party =>
      obtain ⟨frame, found, rfl⟩ := Option.map_eq_some_iff.mp advanced
      exact ⟨party, _, rfl, .inr ⟨frame, found, .inl rfl⟩⟩
  | discard party =>
      obtain ⟨frame, found, rfl⟩ := Option.map_eq_some_iff.mp advanced
      exact ⟨party, _, rfl, .inr ⟨frame, found, .inr rfl⟩⟩

theorem advance_half {event : PairEvent} (advanced : pair.advance own event = some next)
    (party : Party) : Half.Step own (pair.half party) (next.half party) := by
  obtain ⟨mover, after, rfl, moved⟩ := advance_cases advanced
  by_cases here : party = mover
  · subst here
    rw [withHalf_self]
    rcases moved with ⟨-, event, moved⟩ | ⟨frame, -, rfl | rfl⟩
    · exact .advance event after moved
    · exact .take frame
    · exact .discard frame
  · rw [withHalf_apart here]
    exact .same

theorem Paired.reaches (paired : Paired own pair) (party : Party) :
    Half.Reached own (pair.half party) := by
  induction paired with
  | start client server fresh_client fresh_server =>
      cases party with
      | client => exact .start client fresh_client
      | server => exact .start server fresh_server
  | step pair next event _ advanced ih => exact .step _ _ ih (advance_half advanced party)

theorem Half.Step.sent (step : Half.Step own half after) : half.sent <+: after.sent := by
  cases step with
  | advance event after moved =>
      cases event with
      | call op =>
          simp only [Half.advance, Option.ite_none_left_eq_some, Option.some.injEq] at moved
          rw [← moved.2]
      | run thread choice =>
          simp only [Half.advance] at moved
          split at moved
          · cases moved
            exact List.prefix_append _ _
          · cases moved
  | _ => exact List.prefix_rfl

/-- The link keeps the order: what an end took up is a first part of what its peer sent. -/
theorem Paired.in_order (paired : Paired own pair) (party : Party) :
    (pair.half party).got <+: (pair.half party.other).sent := by
  induction paired with
  | start => cases party <;> exact List.nil_prefix
  | step pair next event _ advanced ih =>
      have sent := (advance_half advanced party.other).sent
      obtain ⟨mover, after, rfl, moved⟩ := advance_cases advanced
      by_cases here : party = mover
      · subst here
        rw [withHalf_apart (other_apart party)] at sent ⊢
        rw [withHalf_self]
        -- The next frame on the link is the first that was not taken up.
        have taken : ∀ frame, pair.next party = some frame →
            (pair.half party).got ++ [frame] <+: (pair.half party.other).sent := by
          intro frame found
          obtain ⟨rest, same⟩ := ih
          rw [Pair.next, ← same, List.getElem?_append_right (Nat.le_refl _), Nat.sub_self] at found
          obtain ⟨later, rfl⟩ := List.head?_eq_some_iff.mp
            (List.head?_eq_getElem?.trans found)
          rw [← same]
          exact ⟨later, by simp⟩
        rcases moved with ⟨kept, -⟩ | ⟨frame, found, rfl | rfl⟩
        · rw [kept]
          exact ih
        · exact taken frame found
        · exact taken frame found
      · rw [withHalf_apart here]
        exact ih.trans sent

theorem Half.Reached.reach (reached : Half.Reached own half) :
    Reach (tunnelProgram own) always Fresh half.config := by
  induction reached with
  | start tunnel fresh => exact .start tunnel fresh
  | step half after _ step ih =>
      cases step with
      | same => exact ih
      | discard => exact ih
      | take frame => exact .call half.config _ ih trivial
      | advance event after moved =>
          cases event with
          | call op =>
              simp only [Half.advance, Option.ite_none_left_eq_some, Option.some.injEq] at moved
              rw [← moved.2]
              exact .call half.config op ih trivial
          | run thread choice =>
              simp only [Half.advance] at moved
              split at moved
              · next action rest found =>
                  cases moved
                  exact .run half.config thread choice action rest ih found fun _ _ => trivial
              · cases moved

/-- The invariant rule for one end. What is known of every reachable tunnel may be used. -/
theorem Half.Reached.invariant (known : Tunnel → Multiset Act → Prop)
    (invariant : Tunnel → Multiset Act → List Frame → List Frame → Prop)
    (holds : ∀ config, Reach (tunnelProgram own) always Fresh config →
      known config.shared config.bag)
    (starts : ∀ tunnel, Fresh tunnel → invariant tunnel 0 [] [])
    (calls : ∀ tunnel bag op sent got, fromPeer op = false → invariant tunnel bag sent got →
      invariant tunnel (↑(TunnelSteps.start own op) + bag) sent got)
    (runs : ∀ choice tunnel act others sent got, known tunnel (act ::ₘ others) →
      invariant tunnel (act ::ₘ others) sent got →
      invariant (exec choice tunnel act).1 (↑(exec choice tunnel act).2 + others)
        (sent ++ transmitted choice act) got)
    (takes : ∀ tunnel bag frame sent got, invariant tunnel bag sent got →
      invariant tunnel (↑(TunnelSteps.start own (.handleFrame own (decoded frame))) + bag) sent
        (got ++ [frame]))
    (discards : ∀ tunnel bag frame sent got, invariant tunnel bag sent got →
      invariant tunnel bag sent (got ++ [frame]))
    (reached : Half.Reached own half) :
    invariant half.config.shared half.config.bag half.sent half.got := by
  induction reached with
  | start tunnel fresh => exact starts tunnel fresh
  | step half after before step ih =>
      cases step with
      | same => exact ih
      | discard frame => exact discards _ _ _ _ _ ih
      | take frame =>
          have taken := takes _ _ frame _ _ ih
          show invariant _ (half.config.call _ _).bag _ _
          rw [bag_call]
          exact taken
      | advance event after moved =>
          cases event with
          | call op =>
              simp only [Half.advance, Option.ite_none_left_eq_some, Option.some.injEq] at moved
              rw [← moved.2]
              have called := calls _ _ op _ _ (by simpa using moved.1) ih
              show invariant _ (half.config.call _ _).bag _ _
              rw [bag_call]
              exact called
          | run thread choice =>
              simp only [Half.advance] at moved
              split at moved
              · next action rest found =>
                  cases moved
                  obtain ⟨others, same, made⟩ :=
                    bag_run (tunnelProgram own) half.config thread choice action rest found
                  have here := holds half.config before.reach
                  rw [same] at here ih
                  have ran := runs choice _ action others _ _ here ih
                  show invariant _ (half.config.run _ thread choice action rest).bag _ _
                  rw [made]
                  exact ran
              · cases moved

end Projection

section Sender
variable {own : UInt16} {tunnel after : Tunnel} {act : Act} {made : List Act}
  {others : Multiset Act} {sent frames : List Frame}

/-- DATA that is about to be handed over, or was and is not answered yet. -/
def offered : Act → Bytes
  | .driver (.authorizeData payload _) | .driver (.countEmitted payload _)
  | .send (.outboundSnapshot (.data payload _)) | .send (.handToTransport (.data payload _))
  | .send (.transportAnswer (.data payload _)) => payload
  | _ => []

/-- Up to an abort the link has just what was answered Sent. At any time it has a first
part of what was accepted, also with what is on offer behind it. -/
structure Offers (tunnel : Tunnel) (bag : Multiset Act) (sent : List Frame) : Prop where
  settled : tunnel.fifo.abortPublished = false → dataOf sent = sentData tunnel.log
  accepted : dataOf sent <+: acceptedData tunnel.log
  next : ∀ act ∈ bag, dataOf sent ++ offered act <+: acceptedData tunnel.log

theorem offered_free (free : holds act = false) : offered act = [] := by
  unfold offered
  split <;> first | rfl | cases free

theorem transmitted_free (choice : Choice) (free : holds act = false) :
    dataOf (transmitted choice act) = [] := by
  unfold transmitted
  split
  · next outgoing =>
      split
      · cases outgoing <;> first | rfl | cases free
      · rfl
  · rfl

theorem Offers.still (offers : Offers tunnel (act ::ₘ others) sent)
    (log : sentData after.log = sentData tunnel.log)
    (grows : acceptedData tunnel.log <+: acceptedData after.log)
    (aborts : after.fifo.abortPublished = false → tunnel.fifo.abortPublished = false)
    (offer : ∀ new ∈ made, offered new = [] ∨ offered new = offered act)
    (nothing : dataOf frames = []) : Offers after (↑made + others) (sent ++ frames) := by
  have same : dataOf (sent ++ frames) = dataOf sent := by
    rw [dataOf_append, nothing, List.append_nil]
  constructor
  · intro running
    rw [same, log]
    exact offers.settled (aborts running)
  · rw [same]
    exact offers.accepted.trans grows
  · intro new member
    rw [same]
    rcases Multiset.mem_add.mp member with fresh | kept
    · rcases offer new (Multiset.mem_coe.mp fresh) with none | carried
      · rw [none, List.append_nil]
        exact offers.accepted.trans grows
      · rw [carried]
        exact (offers.next act (Multiset.mem_cons_self _ _)).trans grows
    · exact (offers.next new (Multiset.mem_cons_of_mem kept)).trans grows

theorem Offers.answered {payload : Bytes} (arm : Bool)
    (offers : Offers tunnel (act ::ₘ others) sent) (offer : offered act = payload)
    (alone : ∀ act ∈ others, holds act = false) (frames : List Frame)
    (carried : dataOf frames = payload ∨ dataOf frames = [] ∧ tunnel.fifo.abortPublished = true) :
    Offers (tunnel.note (.answered (.tunnelData payload) .sent))
      (↑[Act.driver (.commitData payload true arm)] + others) (sent ++ frames) := by
  have grown : dataOf (sent ++ frames) <+: acceptedData tunnel.log := by
    rw [dataOf_append]
    rcases carried with same | ⟨none, _⟩
    · rw [same, ← offer]
      exact offers.next act (Multiset.mem_cons_self _ _)
    · rw [none, List.append_nil]
      exact offers.accepted
  refine ⟨fun running => ?_, grown, fun new member => ?_⟩
  · rcases carried with same | ⟨_, aborted⟩
    · rw [dataOf_append, same, offers.settled running]
      rfl
    · exact absurd (aborted.symm.trans running) Bool.true_eq_false.mp
  · have none : offered new = [] := by
      rcases Multiset.mem_add.mp member with fresh | kept
      · rw [List.mem_singleton.mp (Multiset.mem_coe.mp fresh)]
        rfl
      · exact offered_free (alone new kept)
    rw [none, List.append_nil]
    exact grown

theorem select_offers {arm : Bool} {after : Tunnel × List Act}
    (streams : Streams (core tunnel) (keep holds (.driver (.selectFrame arm) ::ₘ others)))
    (selected : Selection tunnel arm after)
    (offers : Offers tunnel (.driver (.selectFrame arm) ::ₘ others) sent) :
    Offers after.1 (↑after.2 + others) sent := by
  rw [keep_cons_of_kept rfl] at streams
  have settled : Settled (core tunnel) := streams.2.owner.2.2
  rw [← List.append_nil sent]
  cases selected with
  | data front rest queue =>
      -- An abort empties the FIFO, so no abort was published before the selection.
      have running : tunnel.fifo.abortPublished = false := by
        by_contra aborted
        have emptied : tunnel.fifo.cohorts = [] := streams.1.emptied (by simpa [core] using aborted)
        rw [emptied] at queue
        cases queue
      have leads : Leads (front.rest.take front.cap) (popDrained tunnel.fifo.cohorts) := by
        rw [queue]
        exact List.take_prefix _ _
      have whole := settled.popped running
      simp only [core, sentData_filter, acceptedData_filter] at whole
      refine ⟨?_, ?_, fun new member => ?_⟩
      · rw [List.append_nil]
        exact offers.settled
      · rw [List.append_nil]
        exact offers.accepted
      · rw [List.append_nil]
        rcases Multiset.mem_add.mp member with fresh | kept
        · rw [List.mem_singleton.mp (Multiset.mem_coe.mp fresh), offers.settled running]
          show _ ++ _ <+: acceptedData tunnel.log
          rw [← whole]
          exact (List.prefix_append_right_inj _).mpr (leads_unsent leads)
        · exact offers.next new (Multiset.mem_cons_of_mem kept)
  | drained =>
      obtain ⟨⟨half, same⟩, none⟩ := finishDrain_touches (popped tunnel)
      rw [same]
      exact offers.still rfl List.prefix_rfl id
        (fun new member => .inl (offered_free (none new member))) rfl
  | _ =>
      refine offers.still rfl List.prefix_rfl id (fun new member => .inl ?_) rfl
      simp only [sendFrameToToxTyped, List.mem_singleton, List.not_mem_nil] at member
      try rw [member]
      try rfl

theorem driver_offers (choice : Choice) (act : DriverAct)
    (streams : Streams (core tunnel) (keep holds (.driver act ::ₘ others)))
    (offers : Offers tunnel (.driver act ::ₘ others) sent) :
    Offers (execDriver choice tunnel act).1 (↑(execDriver choice tunnel act).2 + others) sent := by
  -- No action of the driver puts a frame on the link.
  rw [← List.append_nil sent]
  cases act with
  | selectFrame arm =>
      rw [List.append_nil]
      exact select_offers streams (selectFrame_selection choice tunnel arm) offers
  | commitData payload answer arm =>
      have same := driver_abortPublished choice tunnel (.commitData payload answer arm)
      cases answer with
      | true =>
          exact offers.still rfl List.prefix_rfl same.symm.trans (by simp [execDriver, offered]) rfl
      | false =>
          simp only [execDriver, Bool.false_eq_true, if_false]
          obtain ⟨timerArmed, timerEpoch, waits, armed⟩ :=
            uncounted_touches tunnel payload choice.expiresLate
          rw [armed]
          split <;> exact offers.still rfl List.prefix_rfl id (by simp [offered]) rfl
  | _ =>
      simp only [execDriver]
      (repeat' split) <;> exact offers.still rfl List.prefix_rfl id (by simp [offered]) rfl

theorem send_offers (choice : Choice) (act : SendAct) (owned : holds (.send act) = true)
    (alone : ∀ act ∈ others, holds act = false)
    (closed : tunnel.life.gateClosed = true → tunnel.fifo.abortPublished = true)
    (offers : Offers tunnel (.send act ::ₘ others) sent) :
    Offers (execSend choice tunnel act).1 (↑(execSend choice tunnel act).2 + others)
      (sent ++ transmitted choice (.send act)) := by
  cases act with
  | outboundSnapshot outgoing =>
      cases outgoing with
      | data payload arm =>
          simp only [execSend]
          split
          · next gate => exact offers.answered arm rfl alone [] (.inr ⟨rfl, closed gate⟩)
          · split
            · exact offers.still rfl List.prefix_rfl id (by simp [Outgoing.deliver, offered]) rfl
            · exact offers.still rfl List.prefix_rfl id (by simp [offered]) rfl
      | close | error =>
          simp only [execSend]
          (repeat' split) <;>
            exact offers.still rfl List.prefix_rfl id (by simp [Outgoing.deliver, offered]) rfl
      | _ => cases owned
  | handToTransport outgoing =>
      cases outgoing with
      | data | close | error =>
          exact offers.still rfl List.prefix_rfl id (by simp [execSend, offered]) rfl
      | _ => cases owned
  | transportAnswer outgoing =>
      cases outgoing with
      | data payload arm =>
          cases outcome : choice.outcome with
          | sent =>
              simp only [execSend, transmitted, outcome, if_true]
              exact offers.answered arm rfl alone _ (.inl (List.append_nil payload))
          | sendqFull | permanentFail =>
              simp only [execSend, transmitted, outcome]
              exact offers.still rfl List.prefix_rfl id (by simp [Outgoing.deliver, offered]) rfl
      | close | error =>
          refine offers.still rfl List.prefix_rfl id
            (by simp [execSend, Outgoing.deliver, offered]) ?_
          simp only [transmitted]
          split <;> rfl
      | _ => cases owned

theorem gate_aborted {guard : Guard Tunnel Act Op Choice} {config : Config Tunnel Act}
    (reached : Reach (tunnelProgram own) guard Fresh config)
    (closed : config.shared.life.gateClosed = true) :
    config.shared.fifo.abortPublished = true := by
  revert closed
  refine reached.bag_invariant
    (fun tunnel _ => tunnel.life.gateClosed = true → tunnel.fifo.abortPublished = true) ?_ ?_ ?_
  · rintro tunnel ⟨tunnelId, size, timeout, sender, tcpConn, rfl⟩ closed
    cases closed
  · exact fun _ _ _ known _ => known
  · intro choice tunnel act others known _ closed
    have lasting := (LastingFacts.exec_lasting choice tunnel act).aborted
    by_cases moving : AckLedger.moves act = true
    · cases act with
      | close act =>
          cases act with
          | sealGate => rfl
          | _ => cases moving
      | send act =>
          cases act with
          | outboundSnapshot outgoing =>
              refine lasting (known ?_)
              revert closed
              simp only [tunnelProgram, exec, execSend]
              (repeat' split) <;> exact id
          | _ => exact lasting (known closed)
      | peer act =>
          cases act with
          | countReceived | takeAckCredit => exact lasting (known closed)
          | ackVerdict credit outcome =>
              cases outcome <;> exact lasting (known closed)
          | _ => cases moving
      | _ => cases moving
    · have unseen := (AckLedger.unseen_of_quiet own choice tunnel act (by simpa using moving)).1
      have same : (exec choice tunnel act).1.life.gateClosed = tunnel.life.gateClosed :=
        congrArg AckLedger.Ledger.sealed unseen
      exact lasting (known (same ▸ closed))

theorem exec_offers (choice : Choice) (act : Act)
    (streams : Streams (core tunnel) (keep holds (act ::ₘ others)))
    (closed : tunnel.life.gateClosed = true → tunnel.fifo.abortPublished = true)
    (offers : Offers tunnel (act ::ₘ others) sent) :
    Offers (exec choice tunnel act).1 (↑(exec choice tunnel act).2 + others)
      (sent ++ transmitted choice act) := by
  by_cases stirring : stirs act = true
  · cases act with
    | driver act =>
        rw [show transmitted choice (.driver act) = [] from rfl, List.append_nil]
        exact driver_offers choice act streams offers
    | send act =>
        have owned : holds (.send act) = true := by
          cases act <;> exact stirring
        rw [keep_cons_of_kept owned] at streams
        -- Only the owner of the driver is between the FIFO and the transport.
        have alone : ∀ act ∈ others, holds act = false := by
          intro act member
          by_contra held
          have kept := mem_keep.mpr ⟨member, by simpa using held⟩
          rw [streams.2.owner.1] at kept
          exact Multiset.notMem_zero act kept
        exact send_offers choice act owned alone closed offers
    | frame act =>
        cases act with
        | claimTerminalError wire origin =>
            simp only [exec, execFrame]
            split
            · exact offers.still rfl List.prefix_rfl (fun running => by cases running) (by simp) rfl
            · refine offers.still rfl List.prefix_rfl (fun running => by cases running) ?_ rfl
              intro new member
              refine .inl (offered_free ?_)
              revert new
              cases origin <;> dsimp only <;> (repeat' split) <;> exact none_kept rfl
        | _ => cases stirring
    | close act =>
        cases act with
        | publishAbort | sealGate =>
            simp only [exec, execClose]
            split <;> exact offers.still rfl List.prefix_rfl (fun running => by cases running)
              (by simp [offered]) rfl
        | _ => cases stirring
    | tcp act =>
        cases act with
        | sendAppend data policy caller =>
            have appending := sendAppend_appending choice tunnel data policy caller
            simp only [exec]
            generalize execTcp choice tunnel _ = after at appending
            have free := appending_not_holding appending
            cases appending with
            | refused =>
                exact offers.still rfl List.prefix_rfl id
                  (fun new member => .inl (offered_free (free new member))) rfl
            | queued =>
                exact offers.still rfl (List.prefix_append _ _) id
                  (fun new member => .inl (offered_free (free new member))) rfl
        | _ => cases stirring
    | env act =>
        cases act with
        | configureCoalesce =>
            simp only [exec, execEnv]
            refine offers.still rfl List.prefix_rfl id
              (fun new member => .inl (offered_free ?_)) rfl
            have called := mem_of_mem_ite_nil member
            rw [List.mem_singleton.mp called]
            rfl
        | _ => cases stirring
    | word => cases stirring
    | opening => cases stirring
    | peer => cases stirring
  · obtain ⟨same, free, none⟩ :=
      unseen_of_quiet tunnel.tunnelId choice tunnel act (by simpa using stirring)
    have log : (exec choice tunnel act).1.log.filter streamEvent = tunnel.log.filter streamEvent :=
      congrArg Core.log same
    apply offers.still
    · rw [← sentData_filter, log, sentData_filter]
    · rw [← acceptedData_filter (exec choice tunnel act).1.log, log, acceptedData_filter]
    · intro running
      exact (congrArg Core.aborted same).symm.trans running
    · exact fun new member => .inl (offered_free (none new member))
    · exact transmitted_free choice free

theorem Offers.called {bag : Multiset Act} (offers : Offers tunnel bag sent)
    (free : ∀ act ∈ made, holds act = false) : Offers tunnel (↑made + bag) sent where
  settled := offers.settled
  accepted := offers.accepted
  next act member := by
    rcases Multiset.mem_add.mp member with new | kept
    · rw [offered_free (free act (Multiset.mem_coe.mp new)), List.append_nil]
      exact offers.accepted
    · exact offers.next act kept

theorem Half.Reached.offers {half : Half} (reached : Half.Reached own half) :
    Offers half.config.shared half.config.bag half.sent := by
  refine reached.invariant
    (fun tunnel bag => Streams (core tunnel) (keep holds bag) ∧
      (tunnel.life.gateClosed = true → tunnel.fifo.abortPublished = true))
    (fun tunnel bag sent _ => Offers tunnel bag sent)
    (fun _ reached => ⟨reach_streams reached, gate_aborted reached⟩) ?_ ?_ ?_ ?_ ?_
  · rintro tunnel ⟨tunnelId, size, timeout, sender, tcpConn, rfl⟩
    exact ⟨fun _ => rfl, List.nil_prefix, by simp⟩
  · exact fun _ _ op _ _ _ offers => offers.called (start_not_holding op)
  · exact fun choice _ act _ _ _ known offers => exec_offers choice act known.1 known.2 offers
  · exact fun _ _ _ _ _ offers => offers.called (start_not_holding _)
  · exact fun _ _ _ _ _ offers => offers

end Sender

section Counts
variable {own : UInt16} {tunnel : Tunnel} {act : Act} {others bag : Multiset Act}
  {sent got : List Frame}

/-- DATA taken up and not counted yet. -/
def receiving : Act → Nat
  | .peer (.handleData payload) | .peer (.countReceived payload) => payload.length
  | _ => 0

/-- What an ACK taken up asks for and has not been credited with. -/
def crediting : Act → Nat
  | .peer (.handleAck bytesAcked) | .peer (.loadEmitted bytesAcked)
  | .peer (.creditAck bytesAcked _) => bytesAcked
  | _ => 0

/-- The handlers of DATA and of ACKs, up to their counts. -/
def taking : Act → Bool
  | .peer (.handleData _) | .peer (.countReceived _) => true
  | .peer (.handleAck _) | .peer (.loadEmitted _) | .peer (.creditAck _ _) => true
  | _ => false

theorem taking_none (other : taking act = false) : receiving act = 0 ∧ crediting act = 0 := by
  constructor
  · unfold receiving
    split <;> first | rfl | cases other
  · unfold crediting
    split <;> first | rfl | cases other

theorem untaken {made : List Act} (apart : ∀ act ∈ made, taking act = false) :
    weigh receiving ↑made = 0 ∧ weigh crediting ↑made = 0 :=
  ⟨weigh_eq_zero fun act member => (taking_none (apart act member)).1,
    weigh_eq_zero fun act member => (taking_none (apart act member)).2⟩

/-- The counts of the bytes received and of those the peer acknowledged. -/
def counts (tunnel : Tunnel) : Nat × Nat := (tunnel.receive.total, tunnel.window.acked)

theorem refused_apart (data : Bytes) (caller : SendCaller) :
    ∀ new ∈ caller.refused data, taking new = false := by
  intro new member
  rw [SendCaller.mem_refused member]
  rfl

theorem admitted_apart (data : Bytes) (caller : SendCaller) :
    ∀ new ∈ caller.admitted data, taking new = false := by
  intro new member
  obtain ⟨resume, rfl⟩ := SendCaller.mem_admitted member
  rfl

theorem driver_apart (choice : Choice) (tunnel : Tunnel) (act : DriverAct) :
    Unseen (tunnelProgram own) counts taking choice tunnel (.driver act) := by
  unfold Unseen
  simp only [tunnelProgram]
  cases act with
  | selectFrame arm =>
      have selected := selectFrame_selection choice tunnel arm
      dsimp only [exec, execDriver]
      generalize selectFrame choice tunnel arm = after at selected
      cases selected with
      | drained =>
          obtain ⟨⟨half, same⟩, _⟩ := finishDrain_touches (popped tunnel)
          refine ⟨by rw [same]; rfl, rfl, ?_⟩
          unfold finishDrain
          dsimp only
          (repeat' split) <;> exact none_kept rfl
      | _ => exact ⟨rfl, rfl, none_kept rfl⟩
  | commitData payload answer arm =>
      dsimp only [exec, execDriver]
      split
      · refine ⟨?_, rfl, none_kept rfl⟩
        unfold consumeFront
        split <;> rfl
      · obtain ⟨timerArmed, timerEpoch, waits, same⟩ :=
          uncounted_touches tunnel payload choice.expiresLate
        rw [same]
        split <;> exact ⟨rfl, rfl, none_kept rfl⟩
  | _ =>
      dsimp only [exec, execDriver]
      (repeat' split) <;> exact ⟨rfl, rfl, none_kept rfl⟩

theorem close_apart (choice : Choice) (tunnel : Tunnel) (act : CloseAct) :
    Unseen (tunnelProgram own) counts taking choice tunnel (.close act) := by
  unfold Unseen
  simp only [tunnelProgram]
  cases act with
  | closeDuringHandshake =>
      obtain ⟨opening, closing, same, _⟩ := cancelOpenRetryLocked_touches tunnel
      simp only [exec, execClose, same]
      split <;> exact ⟨rfl, rfl, none_kept rfl⟩
  | forceClose release onlyFrom markTimeout =>
      obtain ⟨state, opening, closing, same, _⟩ := claimTerminal_touches tunnel onlyFrom
      dsimp only [exec, execClose]
      rw [same]
      (repeat' split) <;> exact ⟨rfl, rfl, none_kept rfl⟩
  | _ =>
      dsimp only [exec, execClose]
      (repeat' split) <;> exact ⟨rfl, rfl, none_kept rfl⟩

theorem tcp_apart (choice : Choice) (tunnel : Tunnel) (act : TcpAct) :
    Unseen (tunnelProgram own) counts taking choice tunnel (.tcp act) := by
  unfold Unseen
  simp only [tunnelProgram]
  cases act with
  | sendAppend data policy caller =>
      have appending := sendAppend_appending choice tunnel data policy caller
      simp only [exec]
      generalize execTcp choice tunnel _ = after at appending
      cases appending with
      | refused =>
          refine ⟨rfl, rfl, fun new member => ?_⟩
          rcases List.mem_cons.mp member with rfl | member
          · rfl
          · exact refused_apart _ _ new member
      | queued =>
          refine ⟨rfl, rfl, fun new member => ?_⟩
          rcases List.mem_append.mp member with member | member
          · simp only [List.mem_cons, List.not_mem_nil, or_false] at member
            rcases member with rfl | rfl <;> rfl
          · exact admitted_apart _ _ new member
  | _ =>
      dsimp only [exec, execTcp]
      (repeat' split) <;> first
        | exact ⟨rfl, rfl, none_kept rfl⟩
        | exact ⟨rfl, rfl, refused_apart _ _⟩

theorem exec_apart (own : UInt16) (choice : Choice) (tunnel : Tunnel) (act : Act)
    (other : taking act = false) :
    Unseen (tunnelProgram own) counts taking choice tunnel act := by
  cases act with
  | driver act => exact driver_apart choice tunnel act
  | close act => exact close_apart choice tunnel act
  | tcp act => exact tcp_apart choice tunnel act
  | word act =>
      cases act <;> dsimp only [Unseen, tunnelProgram, exec, execWord] <;> (repeat' split) <;>
        exact ⟨rfl, rfl, none_kept rfl⟩
  | send act =>
      cases act with
      | outboundSnapshot outgoing | handToTransport outgoing | transportAnswer outgoing =>
          cases outgoing <;> dsimp only [Unseen, tunnelProgram, exec, execSend] <;>
            (repeat' split) <;> exact ⟨rfl, rfl, none_kept rfl⟩
  | opening act =>
      cases act with
      | openVerdict attempt origin outcome =>
          exact ⟨rfl, rfl, openVerdict_none rfl tunnel origin outcome⟩
      | _ =>
          dsimp only [Unseen, tunnelProgram, exec, execOpen]
          (repeat' split) <;> exact ⟨rfl, rfl, none_kept rfl⟩
  | frame act =>
      cases act with
      | claimTerminalError wire origin =>
          dsimp only [Unseen, tunnelProgram, exec, execFrame]
          split
          · exact ⟨rfl, rfl, none_kept rfl⟩
          · refine ⟨rfl, rfl, ?_⟩
            cases origin <;> dsimp only <;> (repeat' split) <;> exact none_kept rfl
      | _ =>
          dsimp only [Unseen, tunnelProgram, exec, execFrame]
          (repeat' split) <;> exact ⟨rfl, rfl, none_kept rfl⟩
  | peer act =>
      cases act with
      | handleData | countReceived | handleAck | loadEmitted | creditAck => cases other
      | _ =>
          dsimp only [Unseen, tunnelProgram, exec, execPeer]
          (repeat' split) <;> exact ⟨rfl, rfl, none_kept rfl⟩
  | env act =>
      cases act <;> dsimp only [Unseen, tunnelProgram, exec, execEnv] <;> (repeat' split) <;>
        exact ⟨rfl, rfl, none_kept rfl⟩

/-- What is counted was taken up, and what is credited was asked for. -/
structure Taken (tunnel : Tunnel) (bag : Multiset Act) (got : List Frame) : Prop where
  received : tunnel.receive.total + weigh receiving bag ≤ (dataOf got).length
  acked : tunnel.window.acked + weigh crediting bag ≤ creditIn got

theorem exec_taken (choice : Choice) (act : Act) (taken : Taken tunnel (act ::ₘ others) got) :
    Taken (exec choice tunnel act).1 (↑(exec choice tunnel act).2 + others) got := by
  obtain ⟨received, acked⟩ := taken
  rw [weigh_cons] at received acked
  by_cases takes : taking act = true
  · cases act with
    | peer act =>
        cases act with
        | handleData payload =>
            simp only [exec, execPeer]
            simp only [receiving, crediting] at received acked
            split <;> constructor <;> simp [receiving, crediting] <;> omega
        | countReceived payload =>
            simp only [receiving, crediting] at received acked
            constructor <;> simp [exec, execPeer, receiving, crediting] <;> omega
        | handleAck bytesAcked =>
            simp only [receiving, crediting] at received acked
            simp only [exec, execPeer]
            split <;> constructor <;> simp [receiving, crediting] <;> omega
        | loadEmitted bytesAcked =>
            simp only [receiving, crediting] at received acked
            constructor <;> simp [exec, execPeer, receiving, crediting] <;> omega
        | creditAck bytesAcked emitted =>
            simp only [receiving, crediting] at received acked
            constructor <;> simp [exec, execPeer, receiving, crediting] <;> omega
        | _ => cases takes
    | _ => cases takes
  · have other : taking act = false := by simpa using takes
    obtain ⟨same, -, none⟩ := exec_apart tunnel.tunnelId choice tunnel act other
    have total : (exec choice tunnel act).1.receive.total = tunnel.receive.total :=
      congrArg Prod.fst same
    have acks : (exec choice tunnel act).1.window.acked = tunnel.window.acked :=
      congrArg Prod.snd same
    have none : ∀ new ∈ (exec choice tunnel act).2, taking new = false := none
    obtain ⟨receives, credits⟩ := untaken none
    constructor
    · rw [total, weigh_add, receives]
      omega
    · rw [acks, weigh_add, credits]
      omega

/-- Every byte that an ACK frame on the link is for was counted as received. -/
def Acknowledges (tunnel : Tunnel) (bag : Multiset Act) (sent : List Frame) : Prop :=
  creditIn sent + tunnel.receive.sinceAck + weigh AckLedger.inFlight bag ≤ tunnel.receive.total

theorem credit_free (choice : Choice) (other : AckLedger.crediting act = false) :
    creditIn (transmitted choice act) = 0 := by
  unfold transmitted
  split
  · next outgoing =>
      split
      · cases outgoing <;> first | rfl | cases other
      · rfl
  · rfl

theorem exec_acknowledges (choice : Choice) (act : Act)
    (acks : Acknowledges tunnel (act ::ₘ others) sent) :
    Acknowledges (exec choice tunnel act).1 (↑(exec choice tunnel act).2 + others)
      (sent ++ transmitted choice act) := by
  unfold Acknowledges at acks ⊢
  rw [weigh_cons] at acks
  rw [creditIn_append, weigh_add]
  by_cases moving : AckLedger.moves act = true
  · cases act with
    | send act =>
        cases act with
        | outboundSnapshot outgoing | handToTransport outgoing =>
            cases outgoing with
            | ack credit =>
                have carried := AckLedger.ackValue_le credit
                simp only [AckLedger.inFlight] at acks
                simp only [exec, execSend, transmitted]
                (repeat' split) <;> simp [Outgoing.deliver, AckLedger.inFlight] <;> omega
            | _ => cases moving
        | transportAnswer outgoing =>
            cases outgoing with
            | ack credit =>
                have carried := AckLedger.ackValue_le credit
                simp only [AckLedger.inFlight] at acks
                cases outcome : choice.outcome <;>
                  simp [exec, execSend, transmitted, outcome, Outgoing.deliver, Outgoing.frame,
                    AckLedger.inFlight, creditOf] <;> omega
            | _ => cases moving
    | peer act =>
        cases act with
        | countReceived payload =>
            simp only [AckLedger.inFlight] at acks
            simp [exec, execPeer, transmitted, AckLedger.inFlight] at acks ⊢
            omega
        | takeAckCredit =>
            simp only [AckLedger.inFlight] at acks
            simp only [exec, execPeer, transmitted]
            split <;> simp [AckLedger.inFlight] at acks ⊢ <;> omega
        | ackVerdict credit outcome =>
            cases outcome with
            | sent =>
                simp only [AckLedger.inFlight] at acks
                simp only [exec, execPeer, transmitted]
                split <;> simp [AckLedger.inFlight] at acks ⊢ <;> omega
            | sendqFull | permanentFail =>
                simp only [AckLedger.inFlight] at acks
                simp [exec, execPeer, transmitted, AckLedger.inFlight] at acks ⊢
                omega
        | _ => cases moving
    | close act =>
        cases act with
        | sealGate =>
            simp only [AckLedger.inFlight] at acks
            simp only [exec, execClose, transmitted]
            split <;> simp [AckLedger.inFlight, publishAbortLocked] at acks ⊢ <;> omega
        | _ => cases moving
    | _ => cases moving
  · obtain ⟨same, free, none⟩ :=
      AckLedger.unseen_of_quiet tunnel.tunnelId choice tunnel act (by simpa using moving)
    have total : (exec choice tunnel act).1.receive.total = tunnel.receive.total :=
      congrArg AckLedger.Ledger.received same
    have since : (exec choice tunnel act).1.receive.sinceAck = tunnel.receive.sinceAck :=
      congrArg AckLedger.Ledger.sinceAck same
    have flying : weigh AckLedger.inFlight ↑(exec choice tunnel act).2 = 0 :=
      weigh_eq_zero fun new member => (AckLedger.weightless new (none new member)).1
    rw [total, since, flying, credit_free choice free]
    omega

end Counts

section Results
variable {own : UInt16} {half : Half} {pair : Pair}

theorem start_apart (own : UInt16) (op : Op) (called : fromPeer op = false) :
    ∀ act ∈ TunnelSteps.start own op, taking act = false := by
  cases op with
  | handleFrame => cases called
  | _ => exact none_kept rfl

theorem taken_up (own : UInt16) (frame : Frame) :
    weigh receiving ↑(TunnelSteps.start own (.handleFrame own (decoded frame))) =
        (payloadOf frame).length ∧
      weigh crediting ↑(TunnelSteps.start own (.handleFrame own (decoded frame))) ≤
        creditOf frame := by
  cases frame with
  | tunnelAck bytesAcked =>
      refine ⟨by simp [TunnelSteps.start, handleFrame, decoded, payloadOf, receiving], ?_⟩
      -- The frame has 32 bits for the count.
      simpa [TunnelSteps.start, handleFrame, decoded, creditOf, crediting]
        using Nat.mod_le bytesAcked _
  | _ => simp [TunnelSteps.start, handleFrame, decoded, payloadOf, creditOf, receiving, crediting]

theorem Half.Reached.taken (reached : Half.Reached own half) :
    Taken half.config.shared half.config.bag half.got := by
  refine reached.invariant (fun _ _ => True) (fun tunnel bag _ got => Taken tunnel bag got)
    (fun _ _ => trivial) ?_ ?_ ?_ ?_ ?_
  · rintro tunnel ⟨tunnelId, size, timeout, sender, tcpConn, rfl⟩
    exact ⟨Nat.le_refl _, Nat.le_refl _⟩
  · intro tunnel bag op _ got called taken
    obtain ⟨receives, credits⟩ := untaken (start_apart own op called)
    constructor
    · rw [weigh_add, receives, Nat.zero_add]
      exact taken.received
    · rw [weigh_add, credits, Nat.zero_add]
      exact taken.acked
  · exact fun choice _ act _ _ _ _ taken => exec_taken choice act taken
  · intro tunnel bag frame _ got taken
    obtain ⟨receives, credits⟩ := taken_up own frame
    have received := taken.received
    have acked := taken.acked
    constructor
    · rw [weigh_add, receives, dataOf_append, List.length_append, dataOf_one]
      omega
    · rw [weigh_add, creditIn_append, creditIn_one]
      omega
  · intro tunnel bag frame _ got taken
    have received := taken.received
    have acked := taken.acked
    constructor
    · rw [dataOf_append, List.length_append]
      omega
    · rw [creditIn_append]
      omega

theorem Half.Reached.acknowledges (reached : Half.Reached own half) :
    Acknowledges half.config.shared half.config.bag half.sent := by
  have called : ∀ tunnel bag op sent, Acknowledges tunnel bag sent →
      Acknowledges tunnel (↑(TunnelSteps.start own op) + bag) sent := by
    intro tunnel bag op sent acks
    have weightless : weigh AckLedger.inFlight ↑(TunnelSteps.start own op) = 0 :=
      weigh_eq_zero fun act member =>
        (AckLedger.weightless act (AckLedger.start_not_crediting own op act member)).1
    unfold Acknowledges
    rw [weigh_add, weightless, Nat.zero_add]
    exact acks
  refine reached.invariant (fun _ _ => True) (fun tunnel bag sent _ => Acknowledges tunnel bag sent)
    (fun _ _ => trivial) ?_ ?_ ?_ ?_ ?_
  · rintro tunnel ⟨tunnelId, size, timeout, sender, tcpConn, rfl⟩
    exact Nat.le_refl _
  · exact fun tunnel bag op sent _ _ acks => called tunnel bag op sent acks
  · exact fun choice _ act _ _ _ _ acks => exec_acknowledges choice act acks
  · exact fun tunnel bag _ sent _ acks => called tunnel bag _ sent acks
  · exact fun _ _ _ _ _ acks => acks

/-- A tunnel that can be used as either end. -/
def wired : Tunnel := { tunnelId := 7, life := { sender := true, tcpConn := true } }

theorem wired_fresh : Fresh wired := ⟨7, _, _, true, true, rfl⟩

/-- Whatever both ends do, and in any order, an end takes up a first part of the bytes
that the other one accepted. -/
theorem taken_prefix_of_accepted (paired : Paired own pair) (party : Party) :
    dataOf (pair.half party.other).got <+: acceptedData (pair.half party).config.shared.log := by
  have order := paired.in_order party.other
  rw [other_other] at order
  obtain ⟨rest, same⟩ := order
  have first : dataOf (pair.half party.other).got <+: dataOf (pair.half party).sent := by
    rw [← same, dataOf_append]
    exact List.prefix_append _ _
  exact first.trans (paired.reaches party).offers.accepted

/-- The client sends two DATA frames; the server takes up the first, the second is on the
link. -/
theorem taken_prefix_of_accepted_two :
    ∃ pair, Paired 7 pair ∧ dataOf (pair.half .server).got = [1, 2] ∧
      pair.next .server = some (.tunnelData [3, 4, 5]) ∧
      dataOf (pair.half .server).got <+: acceptedData (pair.half .client).config.shared.log := by
  let schedule : List PairEvent := List.flatten
    [[.own .client (.call .tryPublishConnected)], List.replicate 3 (.own .client (.run 0 {})),
     [.own .client (.call (.sendDataToTox [1, 2]))],
     List.replicate 16 (.own .client (.run 1 { policy := .bypass })),
     [.own .client (.call (.sendDataToTox [3, 4, 5]))],
     List.replicate 16 (.own .client (.run 2 { policy := .bypass })), [.deliver .server]]
  have run : ((⟨{ config := .begin wired }, { config := .begin wired }⟩ : Pair).replay 7
      schedule).any (fun pair => decide (dataOf (pair.half .server).got = [1, 2] ∧
        pair.next .server = some (.tunnelData [3, 4, 5]))) = true := by
    decide
  obtain ⟨pair, replayed, met⟩ := (Option.any_eq_true _ _).mp run
  have paired : Paired 7 pair := .replay (.start wired wired wired_fresh wired_fresh) replayed
  obtain ⟨taken, waiting⟩ := of_decide_eq_true met
  exact ⟨pair, paired, taken, waiting, taken_prefix_of_accepted paired .client⟩

/-- Every byte that an end is credited with, or is about to be, was received by the other
one, beside those it has not acknowledged yet; and what was received had been accepted. -/
theorem credit_received (paired : Paired own pair) (party : Party) :
    (pair.half party).config.shared.window.acked + weigh crediting (pair.half party).config.bag +
          (pair.half party.other).config.shared.receive.sinceAck +
          weigh AckLedger.inFlight (pair.half party.other).config.bag ≤
        (pair.half party.other).config.shared.receive.total ∧
      (pair.half party.other).config.shared.receive.total +
          weigh receiving (pair.half party.other).config.bag ≤
        (acceptedData (pair.half party).config.shared.log).length := by
  have credited : creditIn (pair.half party).got ≤ creditIn (pair.half party.other).sent := by
    obtain ⟨rest, same⟩ := paired.in_order party
    rw [← same, creditIn_append]
    exact Nat.le_add_right _ _
  have accepted := (taken_prefix_of_accepted paired party).length_le
  have acked := (paired.reaches party).taken.acked
  have received := (paired.reaches party.other).taken.received
  have acknowledged := (paired.reaches party.other).acknowledges
  unfold Acknowledges at acknowledged
  exact ⟨by omega, by omega⟩

/-- The server acknowledges the byte, and the client is credited with it. -/
theorem credit_received_one :
    ∃ pair, Paired 7 pair ∧ (pair.half .client).config.shared.window.acked = 1 ∧
      1 ≤ (pair.half .server).config.shared.receive.total := by
  let schedule : List PairEvent := List.flatten
    [[.own .client (.call .tryPublishConnected)], List.replicate 3 (.own .client (.run 0 {})),
     [.own .server (.call .tryPublishConnected)], List.replicate 3 (.own .server (.run 0 {})),
     [.own .client (.call (.sendDataToTox [1]))],
     List.replicate 16 (.own .client (.run 1 { policy := .bypass })), [.deliver .server],
     List.replicate 4 (.own .server (.run 1 {})), [.own .server (.call .notifyTcpWritable)],
     List.replicate 6 (.own .server (.run 2 {})), [.deliver .client],
     List.replicate 4 (.own .client (.run 2 {}))]
  have run : ((⟨{ config := .begin wired }, { config := .begin wired }⟩ : Pair).replay 7
      schedule).any (fun pair => decide ((pair.half .client).config.shared.window.acked = 1)) =
        true := by
    decide
  obtain ⟨pair, replayed, met⟩ := (Option.any_eq_true _ _).mp run
  have paired : Paired 7 pair := .replay (.start wired wired wired_fresh wired_fresh) replayed
  have acked : (pair.half .client).config.shared.window.acked = 1 := of_decide_eq_true met
  have received := (credit_received paired .client).1
  rw [acked] at received
  have some_byte : 1 ≤ (pair.half Party.client.other).config.shared.receive.total := by omega
  exact ⟨pair, paired, acked, some_byte⟩

end Results

end ToxTunnel.TunnelPair
