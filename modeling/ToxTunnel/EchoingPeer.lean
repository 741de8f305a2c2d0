import ToxTunnel.FriendSendGate

/-!
The friend gate and a peer that answers every PING with its own payload. A plain
PONG answers a plain PING then, so the gate never hears more of them than it has
sent, whatever a reconnect drops on the way.
-/

namespace ToxTunnel.EchoingPeer
open Interleaving FriendSendGate

section Model
variable {Key : Type} [DecidableEq Key]

/-- The gate, and the ordered channel of PONGs back from each friend. -/
structure EchoWorld (Key : Type) where
  gate : World Key
  replies : Key → List Pong := fun _ => []

/-- `make_pong_for` at the peer. -/
def answer : Packet → List Pong
  | .data _ => []
  | .fence fence => [.echo fence.epoch fence.seq]
  | .keepalive => [.empty]

/-- The peer receives the oldest packet of its channel and answers it. -/
def EchoWorld.deliver (world : EchoWorld Key) (key : Key) : EchoWorld Key where
  gate := world.gate.deliver key
  replies :=
    match world.gate.channel key with
    | [] => world.replies
    | packet :: _ => Function.update world.replies key (world.replies key ++ answer packet)

/-- The oldest PONG of the friend that the number names arrives. -/
def EchoWorld.reply (world : EchoWorld Key) (number : Nat) : EchoWorld Key :=
  match world.gate.roster number with
  | none => world
  | some key =>
      match world.replies key with
      | [] => world
      | pong :: rest =>
          { gate := world.gate.receive number pong
            replies := Function.update world.replies key rest }

/-- The connection is lost with what is on its way in both directions. -/
def EchoWorld.reset (world : EchoWorld Key) (key : Key) : EchoWorld Key where
  gate := world.gate.reset key
  replies := Function.update world.replies key []

def EchoWorld.removeFriend (world : EchoWorld Key) (number : Nat) : EchoWorld Key :=
  match world.gate.roster number with
  | none => world
  | some key =>
      { gate := world.gate.removeFriend number
        replies := Function.update world.replies key [] }

inductive EchoOp (Key : Type) where
  | sendData (number size : Nat)
  | sendKeepalive (number : Nat)
  | reply (number : Nat)
  | connected (number : Nat)
  | tick (key : Key)
  | deliver (key : Key)
  | reset (key : Key)
  | addFriend (number : Nat) (key : Key)
  | removeFriend (number : Nat)
  deriving DecidableEq

/-- A reset may come at any time, so also right before `connected`. -/
def applyEcho (choice : GateChoice) (world : EchoWorld Key) : EchoOp Key → EchoWorld Key
  | .sendData number size => { world with gate := world.gate.sendData choice number size }
  | .sendKeepalive number => { world with gate := world.gate.sendKeepalive choice number }
  | .reply number => world.reply number
  | .connected number => { world with gate := world.gate.connected number }
  | .tick key => { world with gate := world.gate.tick choice key }
  | .deliver key => world.deliver key
  | .reset key => world.reset key
  | .addFriend number key => { world with gate := world.gate.addFriend number key }
  | .removeFriend number => world.removeFriend number

def echoProgram : Program (EchoWorld Key) (EchoOp Key) (EchoOp Key) GateChoice where
  start op := [op]
  exec choice world op := (applyEcho choice world op, [])

def FreshEcho (world : EchoWorld Key) : Prop := ∃ seed, world = { gate := { seed := seed } }

end Model

section Counts
variable {Key : Type} [DecidableEq Key] {world : World Key}

/-- Plain PINGs sent and plain PONGs received; a ledger yet to come has neither. -/
def pinged : Option Ledger → Nat
  | none => 0
  | some ledger => ledger.emptyPingsSent

def ponged : Option Ledger → Nat
  | none => 0
  | some ledger => ledger.emptyPongsReceived

@[simp] theorem pinged_some (ledger : Ledger) : pinged (some ledger) = ledger.emptyPingsSent := rfl

@[simp] theorem ponged_some (ledger : Ledger) : ponged (some ledger) = ledger.emptyPongsReceived :=
  rfl

theorem transmit_count (number : Nat) (packet : Packet) (key : Key) :
    ((world.transmit number packet).channel key).count .keepalive =
      (world.channel key).count .keepalive +
        if packet = .keepalive ∧ world.roster number = some key then 1 else 0 := by
  unfold World.transmit
  split
  next unknown => simp [unknown]
  next other route =>
    by_cases same : key = other
    · subst same
      cases packet <;> simp [route, List.count_append]
    · simp [Function.update_of_ne same, route, Ne.symm same]

theorem sendFence_count (world : World Key) (key : Key) (ledger : Ledger) (accepts : Bool) (other : Key) :
    ((world.sendFence key ledger accepts).channel other).count .keepalive =
      (world.channel other).count .keepalive := by
  unfold World.sendFence
  split
  · exact (transmit_count _ _ other).trans (by simp)
  · rfl

theorem ledgerFor_counts {number : Nat} {found : World Key} {key : Key} {ledger : Ledger}
    (looked : world.ledgerFor number = some (found, key, ledger)) (other : Key) :
    found.channel = world.channel ∧ ponged (found.ledgers other) = ponged (world.ledgers other) ∧
      pinged (found.ledgers other) = pinged (world.ledgers other) := by
  have channel : found.channel = world.channel := by
    unfold World.ledgerFor at looked
    split at looked
    · cases looked
    · dsimp only at looked
      split at looked <;> cases looked <;> rfl
  obtain ⟨-, -, -, ledgers, -, old⟩ := ledgerFor_fields looked
  refine ⟨channel, ?_⟩
  rw [ledgers]
  by_cases same : other = key
  · subst same
    rw [Function.update_self]
    rcases old with ⟨before, was, rfl⟩ | ⟨absent, epoch, rfl⟩
    · rw [was]
      exact ⟨rfl, rfl⟩
    · rw [absent]
      exact ⟨rfl, rfl⟩
  · rw [Function.update_of_ne same]
    exact ⟨rfl, rfl⟩

end Counts

section Run
variable {Key : Type} [DecidableEq Key] {world : EchoWorld Key}

/-- Every plain PONG that came or may still come has a plain PING of its own. -/
structure Balanced (world : EchoWorld Key) : Prop where
  cached : ∀ number key, world.gate.numberToKey number = some key →
    world.gate.roster number = some key
  counted : ∀ key, ponged (world.gate.ledgers key) + (world.replies key).count .empty +
    (world.gate.channel key).count .keepalive ≤ pinged (world.gate.ledgers key)

/-- The books of one friend change, and no more comes in than goes out. -/
theorem Balanced.moved (balanced : Balanced world) {after : EchoWorld Key} (key : Key)
    (cached : ∀ number other, after.gate.numberToKey number = some other →
      after.gate.roster number = some other)
    (others : ∀ other, other ≠ key → after.gate.ledgers other = world.gate.ledgers other ∧
      after.replies other = world.replies other ∧
      (after.gate.channel other).count .keepalive = (world.gate.channel other).count .keepalive)
    (here : ponged (after.gate.ledgers key) + (after.replies key).count .empty +
      (after.gate.channel key).count .keepalive ≤ pinged (after.gate.ledgers key)) :
    Balanced after := by
  refine ⟨cached, ?_⟩
  intro other
  by_cases same : other = key
  · subst same
    exact here
  · obtain ⟨ledgers, replies, channel⟩ := others other same
    rw [ledgers, replies, channel]
    exact balanced.counted other

theorem Balanced.looked (balanced : Balanced world) {number : Nat} {found : World Key} {key : Key}
    {ledger : Ledger} (looked : world.gate.ledgerFor number = some (found, key, ledger)) :
    Balanced { world with gate := found } := by
  refine ⟨(ledgerFor_cached balanced.cached looked).2, ?_⟩
  intro other
  obtain ⟨channel, received, sent⟩ := ledgerFor_counts looked other
  rw [channel, received, sent]
  exact balanced.counted other

theorem Balanced.put (balanced : Balanced world) {key : Key} {ledger : Ledger} (next : Ledger)
    (there : world.gate.ledgers key = some ledger)
    (received : next.emptyPongsReceived ≤ ledger.emptyPongsReceived)
    (sent : next.emptyPingsSent = ledger.emptyPingsSent) :
    Balanced { world with gate := world.gate.put key next } := by
  refine balanced.moved key ?_ ?_ ?_
  · exact balanced.cached
  · intro other apart
    exact ⟨Function.update_of_ne apart .., rfl, rfl⟩
  · have counted := balanced.counted key
    simp only [there, ponged_some, pinged_some] at counted
    simp only [World.put, Function.update_self, ponged_some, pinged_some]
    omega

theorem Balanced.fence (balanced : Balanced world) {key : Key} {ledger : Ledger}
    (there : world.gate.ledgers key = some ledger) (accepts : Bool) :
    Balanced { world with gate := world.gate.sendFence key ledger accepts } := by
  obtain ⟨roster, cache, ledgers⟩ := sendFence_fields world.gate key ledger accepts
  have counts := sendFence_count world.gate key ledger accepts
  have cached : ∀ number other,
      (world.gate.sendFence key ledger accepts).numberToKey number = some other →
        (world.gate.sendFence key ledger accepts).roster number = some other := by
    rw [roster, cache]
    exact balanced.cached
  apply balanced.moved key cached
  · intro other apart
    refine ⟨?_, rfl, counts other⟩
    rcases ledgers with same | fenced
    · exact congrFun same other
    · rw [fenced, Function.update_of_ne apart]
  · have counted := balanced.counted key
    rw [there] at counted
    rw [counts key]
    rcases ledgers with same | fenced
    · rw [same, there]
      exact counted
    · rw [fenced, Function.update_self]
      exact counted

theorem Balanced.sent (balanced : Balanced world) (number : Nat) (packet : Packet)
    (other : packet ≠ .keepalive) :
    Balanced { world with gate := world.gate.transmit number packet } := by
  obtain ⟨roster, cache, ledgers⟩ := transmit_fields world.gate number packet
  constructor
  · rw [roster, cache]
    exact balanced.cached
  · intro key
    rw [ledgers, transmit_count, if_neg (fun keepalive => other keepalive.1)]
    exact balanced.counted key

theorem sendData_balanced (balanced : Balanced world) (choice : GateChoice) (number size : Nat) :
    Balanced { world with gate := world.gate.sendData choice number size } := by
  unfold World.sendData
  split
  · exact balanced
  next found key ledger looked =>
    have settled := balanced.looked looked
    have there : found.ledgers key = some ledger := by
      rw [(ledgerFor_fields looked).2.2.2.1, Function.update_self]
    split
    · have sent := settled.sent number (.data size) nofun
      have kept : (found.transmit number (.data size)).ledgers key = some ledger := by
        rw [(transmit_fields found number (.data size)).2.2, there]
      have put := sent.put { ledger with emitted := ledger.emitted + size } kept
        (Nat.le_refl _) rfl
      dsimp only
      split
      · exact put.fence (Function.update_self ..) choice.acceptsFence
      · exact put
    · exact settled

theorem sendKeepalive_balanced (balanced : Balanced world) (choice : GateChoice) (number : Nat) :
    Balanced { world with gate := world.gate.sendKeepalive choice number } := by
  obtain ⟨roster, cache, ledgers⟩ := transmit_fields world.gate number .keepalive
  unfold World.sendKeepalive
  split
  · split
    · exact balanced
    next found key ledger looked =>
      have cached : ∀ other named, (world.gate.transmit number .keepalive).numberToKey other =
          some named → (world.gate.transmit number .keepalive).roster other = some named := by
        rw [roster, cache]
        exact balanced.cached
      obtain ⟨route, settled⟩ := ledgerFor_cached cached looked
      rw [roster] at route
      have there : found.ledgers key = some ledger := by
        rw [(ledgerFor_fields looked).2.2.2.1, Function.update_self]
      apply balanced.moved key settled
      · intro other apart
        obtain ⟨channel, -, -⟩ := ledgerFor_counts looked other
        refine ⟨?_, rfl, ?_⟩
        · refine (Function.update_of_ne apart ..).trans ?_
          rw [(ledgerFor_fields looked).2.2.2.1, Function.update_of_ne apart, ledgers]
        · simp only [World.put, channel, transmit_count, route]
          simp [Ne.symm apart]
      · obtain ⟨channel, received, sent⟩ := ledgerFor_counts looked key
        have counted := balanced.counted key
        rw [there, ledgers] at received sent
        rw [ponged_some] at received
        rw [pinged_some] at sent
        simp only [World.put, Function.update_self, channel, transmit_count, route, and_self,
          if_true, ponged_some, pinged_some]
        omega
  · exact balanced

theorem onReceived_pinged (ledger : Ledger) (pong : Pong) :
    (ledger.onReceived pong).emptyPingsSent = ledger.emptyPingsSent ∧
      (ledger.onReceived pong).emptyPongsReceived =
        ledger.emptyPongsReceived + List.count .empty [pong] := by
  unfold Ledger.onReceived
  split
  · dsimp only
    split <;> exact ⟨rfl, rfl⟩
  · split
    · exact ⟨rfl, rfl⟩
    · split <;> exact ⟨rfl, rfl⟩
  · exact ⟨rfl, rfl⟩

theorem reply_balanced (balanced : Balanced world) (number : Nat) :
    Balanced (world.reply number) := by
  unfold EchoWorld.reply
  split
  · exact balanced
  next key route =>
    split
    · exact balanced
    next pong rest queued =>
      have counted := balanced.counted key
      rw [queued, List.count_cons] at counted
      unfold World.receive
      split
      next =>
        refine balanced.moved key ?_ ?_ ?_
        · exact balanced.cached
        · intro other apart
          exact ⟨rfl, Function.update_of_ne apart .., rfl⟩
        · simp only [Function.update_self]
          omega
      next found named ledger looked =>
        obtain ⟨same, cached⟩ := ledgerFor_cached balanced.cached looked
        rw [route] at same
        cases same
        have ledgers := (ledgerFor_fields looked).2.2.2.1
        obtain ⟨channel, received, sent⟩ := ledgerFor_counts looked key
        obtain ⟨pings, pongs⟩ := onReceived_pinged ledger pong
        apply balanced.moved key cached
        · intro other apart
          refine ⟨?_, Function.update_of_ne apart .., by simp only [World.put, channel]⟩
          simp only [World.put, Function.update_of_ne apart, ledgers]
        · rw [ledgers, Function.update_self] at received sent
          rw [ponged_some] at received
          rw [pinged_some] at sent
          rw [List.count_singleton] at pongs
          simp only [World.put, Function.update_self, channel, ponged_some, pinged_some, pings, pongs]
          omega

theorem deliver_balanced (balanced : Balanced world) (key : Key) : Balanced (world.deliver key) := by
  unfold EchoWorld.deliver World.deliver
  cases queued : world.gate.channel key with
  | nil => exact balanced
  | cons packet rest =>
      refine balanced.moved key ?_ ?_ ?_
      · exact balanced.cached
      · intro other apart
        exact ⟨rfl, Function.update_of_ne apart .., by simp only [Function.update_of_ne apart]⟩
      · have counted := balanced.counted key
        rw [queued, List.count_cons] at counted
        simp only [Function.update_self, List.count_append]
        cases packet <;> simp [answer] at counted ⊢ <;> omega

theorem reset_balanced (balanced : Balanced world) (key : Key) : Balanced (world.reset key) := by
  refine balanced.moved key ?_ ?_ ?_
  · exact balanced.cached
  · intro other apart
    exact ⟨rfl, Function.update_of_ne apart .., by
      simp only [EchoWorld.reset, World.reset, Function.update_of_ne apart]⟩
  · have counted := balanced.counted key
    simp only [EchoWorld.reset, World.reset, Function.update_self, List.count_nil]
    omega

theorem applyEcho_balanced (balanced : Balanced world) (choice : GateChoice) (op : EchoOp Key) :
    Balanced (applyEcho choice world op) := by
  cases op with
  | sendData number size => exact sendData_balanced balanced choice number size
  | sendKeepalive number => exact sendKeepalive_balanced balanced choice number
  | reply number => exact reply_balanced balanced number
  | deliver key => exact deliver_balanced balanced key
  | reset key => exact reset_balanced balanced key
  | connected number =>
      simp only [applyEcho, World.connected]
      split
      · exact balanced
      next found key ledger looked =>
        have there : found.ledgers key = some ledger := by
          rw [(ledgerFor_fields looked).2.2.2.1, Function.update_self]
        refine (balanced.looked looked).put _ there ?_ ?_
        · unfold Ledger.rearm
          split
          · exact Nat.le_refl _
          · exact Nat.min_le_left _ _
        · unfold Ledger.rearm
          split <;> rfl
  | tick key =>
      simp only [applyEcho, World.tick]
      split
      · exact balanced
      next ledger there =>
        (repeat' split)
        · exact balanced
        · exact balanced
        · exact balanced.put _ there (Nat.le_refl _) rfl
        · exact balanced.fence there choice.acceptsFence
        · exact balanced
  | addFriend number key =>
      simp only [applyEcho, World.addFriend]
      split
      · refine ⟨?_, balanced.counted⟩
        intro other named known
        change Function.update world.gate.numberToKey number none other = some named at known
        change Function.update world.gate.roster number (some key) other = some named
        by_cases same : other = number
        · subst same
          rw [Function.update_self] at known
          cases known
        · rw [Function.update_of_ne same] at known ⊢
          exact balanced.cached other named known
      · exact balanced
  | removeFriend number =>
      simp only [applyEcho, EchoWorld.removeFriend]
      split
      · exact balanced
      next key route =>
        simp only [World.removeFriend, route]
        refine ⟨?_, (reset_balanced balanced key).counted⟩
        intro other named known
        change Function.update world.gate.numberToKey number none other = some named at known
        change Function.update world.gate.roster number none other = some named
        by_cases same : other = number
        · subst same
          rw [Function.update_self] at known
          cases known
        · rw [Function.update_of_ne same] at known ⊢
          exact balanced.cached other named known

theorem reach_balanced {state : Config (EchoWorld Key) (EchoOp Key)}
    (reached : Reach echoProgram always FreshEcho state) : Balanced state.shared := by
  apply Reach.bag_invariant (fun world _ => Balanced world) _ _ _ reached
  · rintro world ⟨seed, rfl⟩
    exact ⟨nofun, fun _ => Nat.le_refl _⟩
  · intro world bag op balanced _
    exact balanced
  · intro choice world op others balanced _
    exact applyEcho_balanced balanced choice op

theorem onReceived_gated {ledger : Ledger} {pong : Pong} (gated : ledger.phase ≠ .legacy)
    (paid : pong = .empty → ledger.emptyPongsReceived < ledger.emptyPingsSent) :
    (ledger.onReceived pong).phase ≠ .legacy := by
  unfold Ledger.onReceived
  split
  · have paid := paid rfl
    dsimp only
    split
    next surplus =>
      have beyond : ledger.emptyPingsSent < ledger.emptyPongsReceived + 1 := surplus.2.2
      omega
    next => exact gated
  · split
    · exact gated
    · split
      · exact gated
      · unfold Ledger.credit
        dsimp only
        split
        · simp
        · exact gated
  · exact gated

/-- In every run with an echoing peer no ledger hears more plain PONGs than it sent
plain PINGs, so whatever PONG arrives next, in whatever order and however late, it
makes no ledger Legacy. -/
theorem echoing_peer_gated {state : Config (EchoWorld Key) (EchoOp Key)}
    (reached : Reach echoProgram always FreshEcho state) :
    (∀ key ledger, state.shared.gate.ledgers key = some ledger →
      ledger.emptyPongsReceived ≤ ledger.emptyPingsSent) ∧
    ∀ number key next, (state.shared.reply number).gate.ledgers key = some next →
      (∀ ledger, state.shared.gate.ledgers key = some ledger → ledger.phase ≠ .legacy) →
      next.phase ≠ .legacy := by
  have balanced := reach_balanced reached
  constructor
  · intro key ledger there
    have counted := balanced.counted key
    rw [there, ponged_some, pinged_some] at counted
    omega
  · intro number key next there before
    unfold EchoWorld.reply at there
    split at there
    · exact before next there
    next friend route =>
      split at there
      · exact before next there
      next pong rest queued =>
        unfold World.receive at there
        split at there
        · exact before next there
        next found named ledger looked =>
          obtain ⟨same, -⟩ := ledgerFor_cached balanced.cached looked
          rw [route] at same
          cases same
          have ledgers := (ledgerFor_fields looked).2.2.2.1
          have old := (ledgerFor_fields looked).2.2.2.2.2
          by_cases own : key = friend
          · subst own
            simp only [World.put, Function.update_self, Option.some.injEq] at there
            subst there
            obtain ⟨-, received, sent⟩ := ledgerFor_counts looked key
            rw [ledgers, Function.update_self] at received sent
            apply onReceived_gated
            · rcases old with ⟨was, known, rfl⟩ | ⟨-, epoch, rfl⟩
              · exact before was known
              · simp
            · rintro rfl
              have counted := balanced.counted key
              rw [queued, List.count_cons_self, ← received, ← sent, ponged_some, pinged_some]
                at counted
              omega
          · simp only [World.put, Function.update_of_ne own, ledgers] at there
            exact before next there

/-- A plain PING, 3000 bytes with a fence, a reconnect, and a plain PING again; both
channels deliver what they hold. -/
theorem echoing_peer_gated_reconnected :
    ∃ state : Config (EchoWorld Nat) (EchoOp Nat), ∃ ledger,
      Reach echoProgram always FreshEcho state ∧
      state.shared.gate.ledgers 7 = some ledger ∧ ledger.phase = .bootstrap ∧
      ledger.emptyPongsReceived = 1 ∧ ledger.emptyPongsReceived ≤ ledger.emptyPingsSent := by
  let ops : List (EchoOp Nat) :=
    [.addFriend 0 7, .sendKeepalive 0, .sendData 0 3000, .deliver 7, .deliver 7, .deliver 7,
      .reply 0, .reply 0, .sendKeepalive 0, .reset 7, .connected 0, .sendKeepalive 0, .deliver 7]
  let schedule : List (Event (EchoOp Nat) GateChoice) := List.flatten
    [ops.map .call, (List.range 13).map fun thread => .run thread {}]
  have run := Reach.exists_of_replay echoProgram always FreshEcho { gate := { seed := 5 } } schedule
    (fun state => decide ((state.shared.gate.ledgers 7).map
      (fun ledger => (ledger.phase, ledger.emptyPongsReceived)) = some (.bootstrap, 1))) ⟨5, rfl⟩
    (by decide)
  obtain ⟨state, reached, met⟩ := run
  obtain ⟨ledger, there, fields⟩ := Option.map_eq_some_iff.mp (of_decide_eq_true met)
  rw [Prod.mk.injEq] at fields
  exact ⟨state, ledger, reached, there, fields.1, fields.2, (echoing_peer_gated reached).1 7 ledger there⟩

end Run

end ToxTunnel.EchoingPeer
