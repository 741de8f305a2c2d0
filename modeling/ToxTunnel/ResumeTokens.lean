import ToxTunnel.Strand
import Mathlib.Data.List.Perm.Basic

/-!
Resume requests after a reconnect: one token per tunnel id, consumed by the
server's reply or by the response deadline. Session changes, request rounds and
replies run on the inbound strand; the deadline handler runs beside it.
-/

namespace ToxTunnel.ResumeTokens
open Interleaving

section Model

/-- `number` counts the tokens, and `tunnel` is the object behind the weak pointer. -/
structure ResumeToken where
  number : Nat
  id : UInt16
  generation : Nat
  tunnel : Nat
  deadline : Nat
  deriving DecidableEq

inductive Job where
  | friendConnection (connected : Bool)
  | switchEndpoint
  | resumeRequests
  | resumeAck (captured : Nat) (id : UInt16) (ok : Bool)
  deriving DecidableEq

inductive Verdict where
  | resumed | aborted | declined | overdue
  deriving DecidableEq

/-- A request, and the session it was made in. -/
structure Request where
  token : ResumeToken
  session : Nat
  deriving DecidableEq

/-- What a reply or a deadline did, to which object and in which session. -/
structure Settlement where
  token : ResumeToken
  tunnel : Nat
  session : Nat
  verdict : Verdict
  deriving DecidableEq

/-- `armed` is the deadline timer. The last two fields record what happened. -/
structure ResumeClient where
  running : Bool := true
  generation : Nat := 0
  tunnels : List (UInt16 × Nat) := []
  objects : Nat := 0
  tokens : List ResumeToken := []
  armed : Option Nat := none
  strand : List Job := []
  now : Nat := 0
  requests : List Request := []
  settled : List Settlement := []
  deriving DecidableEq

/-- The environment's answers: to the yes-or-no question of an action, and the order
in which the manager lists its ids. -/
structure Answer where
  yes : Bool := true
  order : List UInt16 := []
  deriving DecidableEq

inductive ResumeAct where
  | onFriendConnection (connected : Bool)
  | onFailover
  | onResumeAck (id : UInt16) (ok : Bool)
  | serve
  | changeSession (connected : Bool)
  | postRequests
  | switchEndpoint
  | sendRequests
  | clearTokens (generation : Nat)
  | snapshotIds (generation : Nat)
  | nextRequest (generation : Nat) (ids : List UInt16)
  | checkSeal (generation : Nat) (id : UInt16) (tunnel : Nat) (rest : List UInt16)
  | recordToken (generation : Nat) (id : UInt16) (tunnel : Nat) (rest : List UInt16)
  | handleAck (captured : Nat) (id : UInt16) (ok : Bool)
  | lookUp (captured : Nat) (id : UInt16) (ok : Bool)
  | consume (captured : Nat) (id : UInt16) (tunnel : Nat) (ok : Bool)
  | reply (token : ResumeToken) (tunnel : Nat) (ok : Bool)
  | timerFires
  | readClock
  | collect (reading : Nat)
  | readGeneration (expired : List ResumeToken)
  | settle (current : Nat) (expired : List ResumeToken)
  | closeOverdue (current : Nat) (token : ResumeToken) (rest : List ResumeToken)
  | openTunnel (id : UInt16)
  | closeTunnel (id : UInt16)
  | stop
  | dropTokens
  | pass (seconds : Nat)
  deriving DecidableEq

def kResumeResponseDeadline : Nat := 10

def ResumeClient.post (job : Job) (client : ResumeClient) : ResumeClient :=
  { client with strand := client.strand ++ [job] }

def armResumeDeadlineTimerLocked (client : ResumeClient) : ResumeClient :=
  { client with armed := (client.tokens.map ResumeToken.deadline).min? }

def without (id : UInt16) (tokens : List ResumeToken) : List ResumeToken :=
  tokens.filter fun token => !decide (token.id = id)

def ResumeClient.record (generation : Nat) (id : UInt16) (tunnel : Nat) (client : ResumeClient) :
    ResumeClient :=
  let token : ResumeToken :=
    ⟨client.requests.length, id, generation, tunnel, client.now + kResumeResponseDeadline⟩
  { client with
    tokens := token :: without id client.tokens
    requests := client.requests ++ [⟨token, client.generation⟩] }

def ResumeClient.settle (token : ResumeToken) (tunnel : Nat) (verdict : Verdict)
    (client : ResumeClient) : ResumeClient :=
  { client with settled := client.settled ++ [⟨token, tunnel, client.generation, verdict⟩] }

def startJob : Job → ResumeAct
  | .friendConnection connected => .changeSession connected
  | .switchEndpoint => .switchEndpoint
  | .resumeRequests => .sendRequests
  | .resumeAck captured id ok => .handleAck captured id ok

/-- The questions: is the friend or the failover's target another than the active one,
is the tunnel connected, is its outbound side aborted, is the weak pointer alive. -/
def execResume (answer : Answer) (client : ResumeClient) :
    ResumeAct → ResumeClient × List ResumeAct
  | .onFriendConnection connected => (client.post (.friendConnection connected), [])
  | .onFailover => (client.post .switchEndpoint, [])
  | .onResumeAck id ok =>
      (if answer.yes then client.post (.resumeAck client.generation id ok) else client, [])
  | .serve =>
      match client.strand with
      | [] => (client, [])
      | job :: later => ({ client with strand := later }, [startJob job])
  | .changeSession connected =>
      if answer.yes then
        ({ client with generation := client.generation + 1 },
          if connected then [.postRequests] else [])
      else (client, [])
  | .postRequests => (if client.running then client.post .resumeRequests else client, [])
  | .switchEndpoint =>
      (if answer.yes then { client with generation := client.generation + 1 } else client, [])
  | .sendRequests => (client, [.clearTokens client.generation])
  | .clearTokens generation => ({ client with tokens := [] }, [.snapshotIds generation])
  | .snapshotIds generation =>
      let ids := client.tunnels.map Prod.fst
      (client, [.nextRequest generation (if answer.order.Perm ids then answer.order else ids)])
  | .nextRequest _ [] => (armResumeDeadlineTimerLocked client, [])
  | .nextRequest generation (id :: rest) =>
      match client.tunnels.lookup id with
      | none => (client, [.nextRequest generation rest])
      | some tunnel =>
          (client,
            [if answer.yes then .checkSeal generation id tunnel rest else .nextRequest generation rest])
  | .checkSeal generation id tunnel rest =>
      (client, [if answer.yes then .nextRequest generation rest
        else .recordToken generation id tunnel rest])
  | .recordToken generation id tunnel rest =>
      (client.record generation id tunnel, [.nextRequest generation rest])
  | .handleAck captured id ok =>
      (client, if captured = client.generation then [.lookUp captured id ok] else [])
  | .lookUp captured id ok =>
      match client.tunnels.lookup id with
      | none => (client, [])
      | some tunnel => (client, [.consume captured id tunnel ok])
  | .consume captured id tunnel ok =>
      match client.tokens.find? fun token => token.id = id with
      | none => (client, [])
      | some token =>
          (armResumeDeadlineTimerLocked { client with tokens := without id client.tokens },
            if token.generation = captured ∧ token.tunnel = tunnel then [.reply token tunnel ok]
            else [])
  | .reply token tunnel ok =>
      (client.settle token tunnel
        (if ok then if answer.yes then .aborted else .resumed else .declined), [])
  | .timerFires =>
      match client.armed with
      | none => (client, [])
      | some due =>
          if due ≤ client.now then ({ client with armed := none }, [.readClock]) else (client, [])
  | .readClock => (client, [.collect client.now])
  | .collect reading =>
      let expired := client.tokens.filter fun token => token.deadline ≤ reading
      let left := client.tokens.filter fun token => !decide (token.deadline ≤ reading)
      (armResumeDeadlineTimerLocked { client with tokens := left }, [.readGeneration expired])
  | .readGeneration expired => (client, [.settle client.generation expired])
  | .settle _ [] => (client, [])
  | .settle current (token :: rest) =>
      (client, [if token.generation = current ∧ answer.yes then .closeOverdue current token rest
        else .settle current rest])
  | .closeOverdue current token rest =>
      (client.settle token token.tunnel .overdue, [.settle current rest])
  | .openTunnel id =>
      (if (client.tunnels.lookup id).isSome then client
        else { client with
          tunnels := (id, client.objects) :: client.tunnels
          objects := client.objects + 1 }, [])
  | .closeTunnel id =>
      ({ client with tunnels := client.tunnels.filter fun entry => !decide (entry.1 = id) }, [])
  | .stop => if client.running then ({ client with running := false }, [.dropTokens]) else (client, [])
  | .dropTokens => ({ client with tokens := [], armed := none }, [])
  | .pass seconds => ({ client with now := client.now + seconds }, [])

inductive ResumeOp where
  | friendConnection (connected : Bool)
  | failover
  | resumeAck (id : UInt16) (ok : Bool)
  | serve
  | timerFires
  | openTunnel (id : UInt16)
  | closeTunnel (id : UInt16)
  | stop
  | pass (seconds : Nat)
  deriving DecidableEq

def startResume : ResumeOp → List ResumeAct
  | .friendConnection connected => [.onFriendConnection connected]
  | .failover => [.onFailover]
  | .resumeAck id ok => [.onResumeAck id ok]
  | .serve => [.serve]
  | .timerFires => [.timerFires]
  | .openTunnel id => [.openTunnel id]
  | .closeTunnel id => [.closeTunnel id]
  | .stop => [.stop]
  | .pass seconds => [.pass seconds]

def resumeProgram : Program ResumeClient ResumeAct ResumeOp Answer where
  start := startResume
  exec := execResume

def FreshClient (client : ResumeClient) : Prop := client = {}

/-- The actions of a job on the strand. -/
def onStrand : ResumeAct → Bool
  | .changeSession _ | .postRequests | .switchEndpoint | .sendRequests | .clearTokens _
  | .snapshotIds _ | .nextRequest _ _ | .checkSeal _ _ _ _ | .recordToken _ _ _ _
  | .handleAck _ _ _ | .lookUp _ _ _ | .consume _ _ _ _ | .reply _ _ _ => true
  | _ => false

/-- The strand takes a job when the one before has ended. -/
def strandSerial : Guard ResumeClient ResumeAct ResumeOp Answer := fun _ others move =>
  match move with
  | .act _ act => act = .serve → ¬ Has onStrand others
  | .call _ => True

/-- The generation that a deadline handler has read, and the tokens it has left. -/
def holding : ResumeAct → Option (Nat × List ResumeToken)
  | .settle current expired => some (current, expired)
  | .closeOverdue current token rest => some (current, token :: rest)
  | _ => none

/-- A deadline handler that has found its tokens to be of the session. -/
def deciding (generation : Nat) (act : ResumeAct) : Bool :=
  (holding act).any fun held =>
    decide (held.1 = generation) && held.2.any fun token => decide (token.generation = generation)

def changes (answer : Answer) : ResumeAct → Bool
  | .changeSession _ | .switchEndpoint => answer.yes
  | _ => false

/-- The session changes when no deadline handler is closing tunnels of it. -/
def deadlineFirst : Guard ResumeClient ResumeAct ResumeOp Answer := fun client others move =>
  match move with
  | .act answer act => changes answer act = true → ¬ Has (deciding client.generation) others
  | .call _ => True

end Model

attribute [local simp] execResume

section Places
variable {client : ResumeClient} {act : ResumeAct} {others : Multiset ResumeAct}

theorem reach_single {guard : Guard ResumeClient ResumeAct ResumeOp Answer}
    (serial : ∀ client others move, guard client others move → strandSerial client others move)
    {config : Config ResumeClient ResumeAct}
    (reached : Reach resumeProgram guard FreshClient config) : Single onStrand config.bag := by
  apply Reach.single onStrand (fun act => act = .serve) _ _ _ _ reached
  · intro op act member
    cases op <;> simp_all [resumeProgram, startResume, onStrand]
  · intro answer client act others allowed serving
    exact serial client others _ allowed serving
  · rintro answer client _ rfl
    simp only [resumeProgram, execResume]
    split
    · exact Nat.zero_le _
    next job later _ => cases job <;> exact Nat.le_refl _
  · intro answer client act going
    cases act with
    | serve => contradiction
    | nextRequest generation ids =>
        cases ids with
        | nil => exact Nat.zero_le _
        | cons id rest =>
            simp only [resumeProgram, execResume]
            split
            · exact Nat.le_refl _
            split <;> exact Nat.le_refl _
    | settle current expired =>
        cases expired with
        | nil => exact Nat.zero_le _
        | cons token rest =>
            simp only [resumeProgram, execResume]
            split <;> exact Nat.le_refl _
    | changeSession connected =>
        simp only [resumeProgram, execResume]
        split
        · cases connected <;> simp [onStrand]
        · exact Nat.zero_le _
    | consume captured id tunnel ok =>
        simp only [resumeProgram, execResume]
        split
        · exact Nat.zero_le _
        split <;> simp [onStrand]
    | checkSeal | handleAck | lookUp | timerFires | stop =>
        simp only [resumeProgram, execResume]
        (repeat' split) <;> simp [onStrand]
    | _ => simp [resumeProgram, onStrand]

/-- The tokens that an action has taken out of the table. -/
def inHand : ResumeAct → List ResumeToken
  | .reply token _ _ => [token]
  | .readGeneration expired | .settle _ expired => expired
  | .closeOverdue _ token rest => token :: rest
  | _ => []

def numbers (tokens : List ResumeToken) : List Nat := tokens.map ResumeToken.number

def carrying (number : Nat) (act : ResumeAct) : Nat := (numbers (inHand act)).count number

def resting (number : Nat) (client : ResumeClient) : Nat :=
  (numbers client.tokens).count number +
    (numbers (client.settled.map Settlement.token)).count number

def issued (number : Nat) (client : ResumeClient) : Nat :=
  if number < client.requests.length then 1 else 0

theorem count_without (number : Nat) (id : UInt16) (tokens : List ResumeToken) :
    (numbers (without id tokens)).count number ≤ (numbers tokens).count number :=
  List.Sublist.count_le number (List.filter_sublist.map _)

theorem count_consumed (number : Nat) {id : UInt16} {tokens : List ResumeToken}
    {token : ResumeToken} (found : tokens.find? (fun token => token.id = id) = some token) :
    (numbers [token]).count number + (numbers (without id tokens)).count number ≤
      (numbers tokens).count number := by
  induction tokens with
  | nil => cases found
  | cons first rest ih =>
      by_cases same : first.id = id
      · rw [List.find?_cons_of_pos (by simpa using same)] at found
        cases found
        have fewer := count_without number token.id rest
        simp only [← same, numbers, without, List.filter_cons, decide_true, Bool.not_true,
          Bool.false_eq_true, if_false, List.map_cons, List.map_nil, List.count_cons,
          List.count_nil] at fewer ⊢
        omega
      · rw [List.find?_cons_of_neg (by simpa using same)] at found
        have fewer := ih found
        simp only [numbers, without, List.filter_cons, same, decide_false, Bool.not_false, if_true,
          List.map_cons, List.map_nil, List.count_cons, List.count_nil] at fewer ⊢
        omega

theorem count_expired (number reading : Nat) (tokens : List ResumeToken) :
    (numbers (tokens.filter fun token => token.deadline ≤ reading)).count number +
        (numbers (tokens.filter fun token => !decide (token.deadline ≤ reading))).count number =
      (numbers tokens).count number := by
  induction tokens with
  | nil => rfl
  | cons first rest ih =>
      simp only [numbers] at ih
      by_cases due : first.deadline ≤ reading
      · simp only [numbers, List.filter_cons, due, decide_true, Bool.not_true, Bool.false_eq_true,
          if_true, if_false, List.map_cons, List.count_cons]
        omega
      · simp only [numbers, List.filter_cons, due, decide_false, Bool.not_false,
          Bool.false_eq_true, if_true, if_false, List.map_cons, List.count_cons]
        omega

/-- A token is in the table, in one hand, or settled; no step makes another of it. -/
theorem exec_places (number : Nat) (answer : Answer) (client : ResumeClient) (act : ResumeAct) :
    weigh (carrying number) ↑(execResume answer client act).2 +
        resting number (execResume answer client act).1 + issued number client ≤
      carrying number act + resting number client +
        issued number (execResume answer client act).1 := by
  have moved : ∀ (after : ResumeClient) (calls : List ResumeAct),
      after.requests = client.requests →
      weigh (carrying number) ↑calls + resting number after ≤
        carrying number act + resting number client →
      weigh (carrying number) ↑calls + resting number after + issued number client ≤
        carrying number act + resting number client + issued number after := by
    intro after calls requests fewer
    simp only [issued, requests]
    omega
  have kept : ∀ (after : ResumeClient) (calls : List ResumeAct), after.tokens = client.tokens →
      after.settled = client.settled → after.requests = client.requests →
      weigh (carrying number) ↑calls ≤ carrying number act →
      weigh (carrying number) ↑calls + resting number after + issued number client ≤
        carrying number act + resting number client + issued number after := by
    intro after calls tokens settled requests light
    apply moved after calls requests
    simp only [resting, tokens, settled]
    omega
  cases act with
  | recordToken generation id tunnel rest =>
      have fewer := count_without number id client.tokens
      simp only [numbers] at fewer
      simp only [execResume, ResumeClient.record, resting, issued, numbers, carrying, inHand,
        List.map_cons, List.map_nil, List.count_cons, List.count_nil, List.length_append,
        List.length_cons, List.length_nil, Multiset.coe_singleton, weigh_singleton, beq_iff_eq]
      by_cases older : number < client.requests.length
      · rw [if_pos older, if_neg (by omega), if_pos (by omega)]
        omega
      · by_cases same : client.requests.length = number
        · rw [if_neg older, if_pos same, if_pos (by omega)]
          omega
        · rw [if_neg older, if_neg same, if_neg (by omega)]
          omega
  | clearTokens | dropTokens =>
      refine moved _ _ rfl ?_
      simp only [execResume, resting, numbers, carrying, inHand, List.map_nil, List.count_nil,
        Multiset.coe_singleton, Multiset.coe_nil, weigh_singleton, weigh_zero]
      omega
  | consume captured id tunnel ok =>
      simp only [execResume]
      split
      · exact kept _ _ rfl rfl rfl (Nat.zero_le _)
      next token found =>
        have fewer := count_consumed number found
        simp only [numbers] at fewer
        refine moved _ _ rfl ?_
        split
        · simp only [armResumeDeadlineTimerLocked, resting, numbers, carrying, inHand,
            Multiset.coe_singleton, weigh_singleton, List.map_nil, List.count_nil]
          omega
        · simp only [armResumeDeadlineTimerLocked, resting, numbers, carrying, inHand,
            Multiset.coe_nil, weigh_zero, List.map_nil, List.count_nil]
          omega
  | collect reading =>
      have apart := count_expired number reading client.tokens
      simp only [numbers] at apart
      refine moved _ _ rfl ?_
      simp only [execResume, armResumeDeadlineTimerLocked, resting, numbers, carrying, inHand,
        Multiset.coe_singleton, weigh_singleton, List.map_nil, List.count_nil]
      omega
  | reply token tunnel ok =>
      refine moved _ _ rfl ?_
      simp only [execResume, ResumeClient.settle, resting, numbers, carrying, inHand, List.map_append,
        List.count_append, List.map_cons, List.map_nil, Multiset.coe_nil, weigh_zero]
      omega
  | closeOverdue current token rest =>
      refine moved _ _ rfl ?_
      simp only [execResume, ResumeClient.settle, resting, numbers, carrying, inHand, List.map_append,
        List.count_append, List.map_cons, List.map_nil, List.count_cons, List.count_nil,
        Multiset.coe_singleton, weigh_singleton]
      omega
  | settle current expired =>
      cases expired with
      | nil => exact kept _ _ rfl rfl rfl (Nat.zero_le _)
      | cons token rest =>
          simp only [execResume]
          split
          · exact kept _ _ rfl rfl rfl (by simp [carrying, inHand])
          · refine kept _ _ rfl rfl rfl ?_
            simp [carrying, inHand, numbers, List.count_cons]
  | serve =>
      simp only [execResume]
      split
      · exact kept _ _ rfl rfl rfl (Nat.zero_le _)
      next job later _ => cases job <;> exact kept _ _ rfl rfl rfl (Nat.zero_le _)
  | changeSession connected =>
      simp only [execResume]
      split
      · cases connected <;> exact kept _ _ rfl rfl rfl (Nat.zero_le _)
      · exact kept _ _ rfl rfl rfl (Nat.zero_le _)
  | nextRequest generation ids =>
      cases ids with
      | nil => exact kept _ _ rfl rfl rfl (Nat.zero_le _)
      | cons id rest =>
          simp only [execResume]
          (repeat' split) <;> exact kept _ _ rfl rfl rfl (Nat.zero_le _)
  | onResumeAck | postRequests | switchEndpoint | checkSeal | handleAck | lookUp | timerFires
  | openTunnel | stop =>
      simp only [execResume]
      (repeat' split) <;> exact kept _ _ rfl rfl rfl (Nat.zero_le _)
  | onFriendConnection | onFailover | sendRequests | snapshotIds | readClock | readGeneration
  | closeTunnel | pass => exact kept _ _ rfl rfl rfl (by simp [carrying, inHand, numbers])

/-- Of every request at most one token is about, and none before it is made. -/
theorem reach_places {config : Config ResumeClient ResumeAct}
    (reached : Reach resumeProgram always FreshClient config) (number : Nat) :
    weigh (carrying number) config.bag + resting number config.shared ≤
      issued number config.shared := by
  apply Reach.bag_invariant (fun client bag =>
    weigh (carrying number) bag + resting number client ≤ issued number client) _ _ _ reached
  · rintro _ rfl
    exact Nat.zero_le _
  · intro client bag op placed _
    have none : weigh (carrying number) ↑(startResume op) = 0 := by cases op <;> rfl
    simp only [resumeProgram, weigh_add, none, zero_add]
    exact placed
  · intro answer client act others placed _
    have moved := exec_places number answer client act
    rw [weigh_cons] at placed
    rw [weigh_add]
    simp only [resumeProgram]
    omega

end Places

section Sessions
variable {client : ResumeClient} {act : ResumeAct} {others : Multiset ResumeAct}

theorem exec_generation (answer : Answer) (client : ResumeClient) (act : ResumeAct) :
    (execResume answer client act).1.generation =
      if changes answer act = true then client.generation + 1 else client.generation := by
  cases act with
  | changeSession | switchEndpoint =>
      by_cases other : answer.yes = true <;> simp [changes, other]
  | nextRequest generation ids =>
      cases ids with
      | nil => rfl
      | cons id rest =>
          simp only [execResume, changes, Bool.false_eq_true, if_false]
          split <;> rfl
  | settle current expired => cases expired <;> rfl
  | onResumeAck | serve | postRequests | lookUp | consume | openTunnel | stop =>
      simp only [execResume, changes, Bool.false_eq_true, if_false]
      split <;> rfl
  | timerFires =>
      simp only [execResume, changes, Bool.false_eq_true, if_false]
      (repeat' split) <;> rfl
  | _ => rfl

theorem generation_of_still {answer : Answer} (still : changes answer act = false) :
    (execResume answer client act).1.generation = client.generation := by
  rw [exec_generation, still]
  rfl

/-- What the pending actions know of the session: it stays true of the others when the
session changes, and goes on from an action to its code. -/
theorem Reach.stamped {guard : Guard ResumeClient ResumeAct ResumeOp Answer}
    (stamped : Nat → ResumeAct → Prop)
    (starts : ∀ op, ∀ act ∈ startResume op, ∀ session, stamped session act)
    (changed : ∀ answer client act others, Single onStrand (act ::ₘ others) →
      guard client others (.act answer act) → changes answer act = true →
      ∀ other ∈ others, stamped client.generation other → stamped (client.generation + 1) other)
    (expands : ∀ answer client act, stamped client.generation act →
      ∀ new ∈ (execResume answer client act).2,
        stamped (execResume answer client act).1.generation new)
    (serial : ∀ client others move, guard client others move → strandSerial client others move)
    {config : Config ResumeClient ResumeAct}
    (reached : Reach resumeProgram guard FreshClient config) :
    ∀ act ∈ config.bag, stamped config.shared.generation act := by
  have single := reached.knowing (fun _ bag => Single onStrand bag)
    fun _ before => reach_single serial before
  apply Reach.bag_invariant
    (fun client bag => ∀ act ∈ bag, stamped client.generation act) _ _ _ single
  · intro client _ act member
    exact absurd member (Multiset.notMem_zero act)
  · intro client bag op known _ act member
    rcases Multiset.mem_add.mp member with new | old
    · exact starts op act (Multiset.mem_coe.mp new) _
    · exact known act old
  · intro answer client act others known allowed other member
    rcases Multiset.mem_add.mp member with new | old
    · exact expands answer client act (known act (Multiset.mem_cons_self _ _)) other
        (Multiset.mem_coe.mp new)
    · have before := known other (Multiset.mem_cons_of_mem old)
      simp only [resumeProgram, exec_generation]
      split
      next changing =>
        exact changed answer client act others allowed.2 allowed.1 changing other old before
      · exact before

/-- The jobs of the strand know the session they run in. -/
def InSession (session : Nat) : ResumeAct → Prop
  | .clearTokens generation | .snapshotIds generation | .nextRequest generation _
  | .checkSeal generation _ _ _ | .recordToken generation _ _ _ => generation = session
  | .lookUp captured _ _ | .consume captured _ _ _ => captured = session
  | .reply token tunnel _ => token.generation = session ∧ tunnel = token.tunnel
  | _ => True

theorem inSession_of_off {session : Nat} (off : onStrand act = false) : InSession session act := by
  cases act <;> simp_all [InSession, onStrand]

theorem exec_inSession (answer : Answer) (client : ResumeClient) (act : ResumeAct)
    (known : InSession client.generation act) :
    ∀ new ∈ (execResume answer client act).2,
      InSession (execResume answer client act).1.generation new := by
  intro new member
  cases act with
  | serve =>
      simp only [execResume] at member
      split at member
      · cases member
      next job later _ =>
        rw [List.mem_singleton.mp member]
        cases job <;> trivial
  | changeSession connected =>
      simp only [execResume] at member
      split at member
      · cases connected with
        | true =>
            rw [List.mem_singleton.mp member]
            trivial
        | false => cases member
      · cases member
  | nextRequest generation ids =>
      cases ids with
      | nil => cases member
      | cons id rest =>
          rw [generation_of_still rfl]
          simp only [execResume] at member
          split at member
          · rw [List.mem_singleton.mp member]
            exact known
          · rw [List.mem_singleton.mp member]
            split <;> exact known
  | checkSeal generation id tunnel rest =>
      rw [List.mem_singleton.mp member]
      split <;> exact known
  | handleAck captured id ok =>
      simp only [execResume] at member
      split at member
      next same =>
        rw [List.mem_singleton.mp member]
        exact same
      · cases member
  | lookUp captured id ok =>
      rw [generation_of_still rfl]
      simp only [execResume] at member
      split at member
      · cases member
      · rw [List.mem_singleton.mp member]
        exact known
  | consume captured id tunnel ok =>
      rw [generation_of_still rfl]
      simp only [execResume] at member
      split at member
      · cases member
      next token _ =>
        split at member
        next same =>
          rw [List.mem_singleton.mp member]
          exact ⟨same.1.trans known, same.2.symm⟩
        · cases member
  | settle current expired =>
      cases expired with
      | nil => cases member
      | cons token rest =>
          rw [List.mem_singleton.mp member]
          split <;> trivial
  | timerFires | stop =>
      simp only [execResume] at member
      (repeat' split at member) <;> simp_all [InSession]
  | sendRequests =>
      rw [List.mem_singleton.mp member]
      exact rfl
  | clearTokens | snapshotIds | recordToken =>
      rw [List.mem_singleton.mp member]
      exact known
  | readClock | collect | readGeneration | closeOverdue =>
      rw [List.mem_singleton.mp member]
      trivial
  | _ => cases member

theorem reach_inSession {guard : Guard ResumeClient ResumeAct ResumeOp Answer}
    (serial : ∀ client others move, guard client others move → strandSerial client others move)
    {config : Config ResumeClient ResumeAct}
    (reached : Reach resumeProgram guard FreshClient config) :
    ∀ act ∈ config.bag, InSession config.shared.generation act := by
  refine Reach.stamped InSession ?_ ?_ exec_inSession serial reached
  · intro op act member session
    cases op <;> rw [List.mem_singleton.mp member] <;> trivial
  · intro answer client act others single _ changing other member _
    have mine : onStrand act = true := by cases act <;> first | rfl | cases changing
    apply inSession_of_off
    cases on_strand : onStrand other with
    | false => rfl
    | true => exact absurd ⟨other, member, on_strand⟩ (single.alone mine)

/-- A deadline handler that goes on to close a tunnel has read the session it closes it in. -/
def Decided (session : Nat) : ResumeAct → Prop
  | .settle current expired => (∃ token ∈ expired, token.generation = current) → current = session
  | .closeOverdue current token _ => token.generation = current ∧ current = session
  | _ => True

theorem exec_decided (answer : Answer) (client : ResumeClient) (act : ResumeAct)
    (known : Decided client.generation act) :
    ∀ new ∈ (execResume answer client act).2,
      Decided (execResume answer client act).1.generation new := by
  intro new member
  cases act with
  | settle current expired =>
      cases expired with
      | nil => cases member
      | cons token rest =>
          rw [List.mem_singleton.mp member, generation_of_still rfl]
          split
          next own =>
            exact ⟨own.1, known ⟨token, List.mem_cons_self, own.1⟩⟩
          · rintro ⟨other, inside, own⟩
            exact known ⟨other, List.mem_cons_of_mem _ inside, own⟩
  | readGeneration expired =>
      rw [List.mem_singleton.mp member]
      intro _
      rfl
  | closeOverdue current token rest =>
      rw [List.mem_singleton.mp member]
      intro _
      exact known.2
  | serve =>
      simp only [execResume] at member
      split at member
      · cases member
      next job later _ =>
        rw [List.mem_singleton.mp member]
        cases job <;> trivial
  | changeSession connected =>
      simp only [execResume] at member
      split at member
      · cases connected <;> simp_all [Decided]
      · cases member
  | nextRequest generation ids =>
      cases ids with
      | nil => cases member
      | cons id rest =>
          simp only [execResume] at member
          split at member
          · rw [List.mem_singleton.mp member]
            trivial
          · rw [List.mem_singleton.mp member]
            split <;> trivial
  | checkSeal =>
      rw [List.mem_singleton.mp member]
      split <;> trivial
  | handleAck | lookUp | consume | timerFires | stop =>
      simp only [execResume] at member
      (repeat' split at member) <;> simp_all [Decided]
  | sendRequests | clearTokens | snapshotIds | recordToken | readClock | collect =>
      rw [List.mem_singleton.mp member]
      trivial
  | _ => cases member

theorem reach_decided {config : Config ResumeClient ResumeAct}
    (reached : Reach resumeProgram (strandSerial.and deadlineFirst) FreshClient config) :
    ∀ act ∈ config.bag, Decided config.shared.generation act := by
  refine Reach.stamped Decided ?_ ?_ exec_decided (fun _ _ _ allowed => allowed.1) reached
  · intro op act member session
    cases op <;> rw [List.mem_singleton.mp member] <;> trivial
  · intro answer client act others _ allowed changing other member known
    have idle : deciding client.generation other = false := by
      cases is_deciding : deciding client.generation other with
      | false => rfl
      | true => exact absurd ⟨other, member, is_deciding⟩ (allowed.2 changing)
    cases other with
    | settle current expired =>
        rintro ⟨token, inside, own⟩
        have same := known ⟨token, inside, own⟩
        subst same
        simp only [deciding, holding, Option.any_some, decide_true, Bool.true_and,
          List.any_eq_false, decide_eq_true_eq] at idle
        exact absurd own (idle token inside)
    | closeOverdue current token rest =>
        obtain ⟨own, rfl⟩ := known
        simp [deciding, holding, own] at idle
    | _ => trivial

end Sessions

section Settlements
variable {client : ResumeClient} {act : ResumeAct} {others : Multiset ResumeAct}

/-- A request was made with this token, in the session of its stamp. -/
def Asked (client : ResumeClient) (token : ResumeToken) : Prop :=
  ⟨token, token.generation⟩ ∈ client.requests

structure Recorded (client : ResumeClient) (bag : Multiset ResumeAct) : Prop where
  tokens : ∀ token ∈ client.tokens, Asked client token
  inHand : ∀ act ∈ bag, ∀ token ∈ inHand act, Asked client token
  settled : ∀ settlement ∈ client.settled, Asked client settlement.token
  numbered : client.requests.map (fun request => request.token.number) =
    List.range client.requests.length

theorem exec_recorded (answer : Answer) (client : ResumeClient) (act : ResumeAct)
    (others : Multiset ResumeAct) (session : InSession client.generation act)
    (recorded : Recorded client (act ::ₘ others)) :
    Recorded (execResume answer client act).1 (↑(execResume answer client act).2 + others) := by
  have mine := recorded.inHand act (Multiset.mem_cons_self _ _)
  have pending : ∀ calls : List ResumeAct,
      (∀ call ∈ calls, ∀ token ∈ inHand call, Asked client token) →
      ∀ call ∈ (↑calls + others : Multiset ResumeAct), ∀ token ∈ inHand call,
        Asked client token := by
    intro calls known call member
    rcases Multiset.mem_add.mp member with new | old
    · exact known call (Multiset.mem_coe.mp new)
    · exact recorded.inHand call (Multiset.mem_cons_of_mem old)
  have kept : ∀ (after : ResumeClient) (calls : List ResumeAct),
      after.requests = client.requests → after.tokens ⊆ client.tokens →
      after.settled = client.settled →
      (∀ call ∈ calls, ∀ token ∈ inHand call, Asked client token) →
      Recorded after (↑calls + others) := by
    intro after calls requests tokens settled known
    constructor
    · intro token member
      rw [Asked, requests]
      exact recorded.tokens token (tokens member)
    · intro call member token inside
      rw [Asked, requests]
      exact pending calls known call member token inside
    · rw [settled]
      intro settlement member
      rw [Asked, requests]
      exact recorded.settled settlement member
    · rw [requests]
      exact recorded.numbered
  have settles : ∀ (token : ResumeToken) (tunnel : Nat) (verdict : Verdict)
      (calls : List ResumeAct), Asked client token →
      (∀ call ∈ calls, ∀ token ∈ inHand call, Asked client token) →
      Recorded (client.settle token tunnel verdict) (↑calls + others) := by
    intro token tunnel verdict calls asked known
    constructor
    · exact recorded.tokens
    · exact pending calls known
    · intro settlement member
      rcases List.mem_append.mp member with before | new
      · exact recorded.settled settlement before
      · rw [List.mem_singleton.mp new]
        exact asked
    · exact recorded.numbered
  cases act with
  | recordToken generation id tunnel rest =>
      have grown : ∀ token, Asked client token →
          Asked (client.record generation id tunnel) token := by
        intro token asked
        exact List.mem_append_left _ asked
      constructor
      · intro token member
        rcases List.mem_cons.mp member with rfl | old
        · apply List.mem_append_right
          rw [show generation = client.generation from session]
          exact List.mem_singleton_self _
        · exact grown token (recorded.tokens token (List.mem_of_mem_filter old))
      · intro call member token inside
        apply grown
        exact pending [.nextRequest generation rest] (by simp [inHand]) call member token inside
      · intro settlement member
        exact grown _ (recorded.settled settlement member)
      · simp [ResumeClient.record, recorded.numbered, List.range_succ]
  | consume captured id tunnel ok =>
      simp only [execResume]
      split
      · exact kept _ _ rfl (List.Subset.refl _) rfl (by simp)
      next token found =>
        refine kept _ _ rfl (fun _ => List.mem_of_mem_filter) rfl ?_
        split
        · have asked := recorded.tokens token (List.mem_of_find?_eq_some found)
          simpa [inHand] using asked
        · simp
  | collect reading =>
      refine kept _ _ rfl (fun _ => List.mem_of_mem_filter) rfl ?_
      intro call member token inside
      rw [List.mem_singleton.mp member] at inside
      exact recorded.tokens token (List.mem_of_mem_filter inside)
  | reply token tunnel ok => exact settles token tunnel _ [] (mine token (by simp [inHand])) (by simp)
  | closeOverdue current token rest =>
      refine settles token _ _ _ (mine token (by simp [inHand])) ?_
      intro call member other inside
      rw [List.mem_singleton.mp member] at inside
      exact mine other (List.mem_cons_of_mem _ inside)
  | readGeneration expired =>
      refine kept _ _ rfl (List.Subset.refl _) rfl ?_
      intro call member token inside
      rw [List.mem_singleton.mp member] at inside
      exact mine token inside
  | settle current expired =>
      cases expired with
      | nil => exact kept _ _ rfl (List.Subset.refl _) rfl (by simp)
      | cons token rest =>
          refine kept _ _ rfl (List.Subset.refl _) rfl ?_
          intro call member other inside
          rw [List.mem_singleton.mp member] at inside
          split at inside
          · exact mine other inside
          · exact mine other (List.mem_cons_of_mem _ inside)
  | clearTokens | dropTokens =>
      exact kept _ _ rfl (List.nil_subset _) rfl (by simp [inHand])
  | serve =>
      simp only [execResume]
      split
      · exact kept _ _ rfl (List.Subset.refl _) rfl (by simp)
      next job later _ =>
        cases job <;> exact kept _ _ rfl (List.Subset.refl _) rfl (by simp [startJob, inHand])
  | nextRequest generation ids =>
      cases ids with
      | nil => exact kept _ _ rfl (List.Subset.refl _) rfl (by simp)
      | cons id rest =>
          simp only [execResume]
          (repeat' split) <;>
            exact kept _ _ rfl (List.Subset.refl _) rfl (by simp [inHand])
  | onResumeAck | changeSession | postRequests | switchEndpoint | checkSeal | handleAck | lookUp
  | timerFires | openTunnel | stop =>
      simp only [execResume]
      (repeat' split) <;> exact kept _ _ rfl (List.Subset.refl _) rfl (by simp [inHand])
  | onFriendConnection | onFailover | sendRequests | snapshotIds | readClock | closeTunnel
  | pass => exact kept _ _ rfl (List.Subset.refl _) rfl (by simp [inHand])

theorem reach_recorded {guard : Guard ResumeClient ResumeAct ResumeOp Answer}
    (serial : ∀ client others move, guard client others move → strandSerial client others move)
    {config : Config ResumeClient ResumeAct}
    (reached : Reach resumeProgram guard FreshClient config) :
    Recorded config.shared config.bag := by
  have knowing := reached.knowing
    (fun client bag => ∀ act ∈ bag, InSession client.generation act)
    fun _ before => reach_inSession serial before
  apply Reach.bag_invariant Recorded _ _ _ knowing
  · rintro _ rfl
    constructor <;> simp
  · intro client bag op recorded _
    constructor
    · exact recorded.tokens
    · intro act member token inside
      rcases Multiset.mem_add.mp member with new | old
      · cases op <;> rw [List.mem_singleton.mp (Multiset.mem_coe.mp new)] at inside <;> cases inside
      · exact recorded.inHand act old token inside
    · exact recorded.settled
    · exact recorded.numbered
  · intro answer client act others recorded allowed
    exact exec_recorded answer client act others (allowed.2 act (Multiset.mem_cons_self _ _)) recorded

/-- A settlement is a reply's or a deadline's, and is of the session of its moment. -/
def Settles (client : ResumeClient) (act : ResumeAct) (settlement : Settlement) : Prop :=
  settlement.session = client.generation ∧
    ((∃ ok, act = .reply settlement.token settlement.tunnel ok) ∧ settlement.verdict ≠ .overdue ∨
      (∃ current rest, act = .closeOverdue current settlement.token rest) ∧
        settlement.tunnel = settlement.token.tunnel ∧ settlement.verdict = .overdue)

theorem exec_settled (answer : Answer) (client : ResumeClient) (act : ResumeAct) :
    ∀ settlement ∈ (execResume answer client act).1.settled,
      settlement ∈ client.settled ∨ Settles client act settlement := by
  intro settlement member
  cases act with
  | reply token tunnel ok =>
      rcases List.mem_append.mp member with before | new
      · exact .inl before
      · right
        rw [List.mem_singleton.mp new]
        refine ⟨rfl, .inl ⟨⟨ok, rfl⟩, ?_⟩⟩
        dsimp only
        (repeat' split) <;> simp
  | closeOverdue current token rest =>
      rcases List.mem_append.mp member with before | new
      · exact .inl before
      · right
        rw [List.mem_singleton.mp new]
        exact ⟨rfl, .inr ⟨⟨current, rest, rfl⟩, rfl, rfl⟩⟩
  | nextRequest generation ids =>
      cases ids with
      | nil => exact .inl member
      | cons id rest =>
          simp only [execResume] at member
          split at member <;> exact .inl member
  | settle current expired => cases expired <;> exact .inl member
  | onResumeAck | serve | changeSession | postRequests | switchEndpoint | lookUp | consume
  | openTunnel | stop =>
      simp only [execResume] at member
      split at member <;> exact .inl member
  | timerFires =>
      simp only [execResume] at member
      (repeat' split at member) <;> exact .inl member
  | _ => exact .inl member

/-- A settlement acts on its request's object, in the session the request was made in. -/
def Settlement.Apt (settlement : Settlement) : Prop :=
  settlement.tunnel = settlement.token.tunnel ∧ settlement.session = settlement.token.generation

/-- Replies are apt in every run: they are handled on the strand, as session changes are. -/
theorem reach_replies_apt {guard : Guard ResumeClient ResumeAct ResumeOp Answer}
    (serial : ∀ client others move, guard client others move → strandSerial client others move)
    {config : Config ResumeClient ResumeAct}
    (reached : Reach resumeProgram guard FreshClient config) :
    ∀ settlement ∈ config.shared.settled, settlement.verdict ≠ .overdue → settlement.Apt := by
  have knowing := reached.knowing
    (fun client bag => ∀ act ∈ bag, InSession client.generation act)
    fun _ before => reach_inSession serial before
  apply Reach.bag_invariant
    (fun client _ => ∀ settlement ∈ client.settled, settlement.verdict ≠ .overdue → settlement.Apt)
    _ _ _ knowing
  · rintro _ rfl settlement member
    cases member
  · intro client bag op apt _
    exact apt
  · intro answer client act others apt allowed settlement member replied
    rcases exec_settled answer client act settlement member with before | ⟨now, made⟩
    · exact apt settlement before replied
    · rcases made with ⟨⟨ok, rfl⟩, _⟩ | ⟨_, _, late⟩
      · have session := allowed.2 _ (Multiset.mem_cons_self _ _)
        exact ⟨session.2, now.trans session.1.symm⟩
      · exact absurd late replied

/-- Deadlines are apt when the session does not change under a handler that is closing. -/
theorem reach_deadlines_apt {config : Config ResumeClient ResumeAct}
    (reached : Reach resumeProgram (strandSerial.and deadlineFirst) FreshClient config) :
    ∀ settlement ∈ config.shared.settled, settlement.verdict = .overdue → settlement.Apt := by
  have knowing := reached.knowing (fun client bag => ∀ act ∈ bag, Decided client.generation act)
    fun _ before => reach_decided before
  apply Reach.bag_invariant
    (fun client _ => ∀ settlement ∈ client.settled, settlement.verdict = .overdue → settlement.Apt)
    _ _ _ knowing
  · rintro _ rfl settlement member
    cases member
  · intro client bag op apt _
    exact apt
  · intro answer client act others apt allowed settlement member late
    rcases exec_settled answer client act settlement member with before | ⟨now, made⟩
    · exact apt settlement before late
    · rcases made with ⟨_, replied⟩ | ⟨⟨current, rest, rfl⟩, same, _⟩
      · exact absurd late replied
      · have decided := allowed.2 _ (Multiset.mem_cons_self _ _)
        exact ⟨same, now.trans (decided.1.trans decided.2).symm⟩

theorem reach_settled_once {guard : Guard ResumeClient ResumeAct ResumeOp Answer}
    {config : Config ResumeClient ResumeAct}
    (reached : Reach resumeProgram guard FreshClient config) :
    (config.shared.settled.map fun settlement => settlement.token.number).Nodup := by
  rw [List.nodup_iff_count_le_one]
  intro number
  have placed := reach_places reached.unguarded number
  have one : issued number config.shared ≤ 1 := by
    rw [issued]
    split <;> omega
  simp only [resting, numbers, List.map_map] at placed
  have same : (List.map (fun settlement => settlement.token.number) config.shared.settled) =
    List.map (ResumeToken.number ∘ Settlement.token) config.shared.settled := rfl
  rw [same]
  omega

end Settlements

section Results

/-- What a reply or a deadline acts on is the object of a request made in the session
of the moment; requests are told apart by their numbers, and each is settled at most
once. -/
structure Answered (client : ResumeClient) : Prop where
  asked : ∀ settlement ∈ client.settled,
    settlement.tunnel = settlement.token.tunnel ∧
      ⟨settlement.token, settlement.session⟩ ∈ client.requests
  numbered : (client.requests.map fun request => request.token.number).Nodup
  once : (client.settled.map fun settlement => settlement.token.number).Nodup

theorem replies_answer {config : Config ResumeClient ResumeAct}
    (reached : Reach resumeProgram (strandSerial.and deadlineFirst) FreshClient config) :
    Answered config.shared := by
  have recorded := reach_recorded (fun _ _ _ allowed => allowed.1) reached
  constructor
  · intro settlement member
    have apt : settlement.Apt := by
      by_cases late : settlement.verdict = .overdue
      · exact reach_deadlines_apt reached settlement member late
      · exact reach_replies_apt (fun _ _ _ allowed => allowed.1) reached settlement member late
    refine ⟨apt.1, ?_⟩
    rw [apt.2]
    exact recorded.settled settlement member
  · rw [recorded.numbered]
    exact List.nodup_range
  · exact reach_settled_once reached

instance : strandSerial.Checked := fun _ others move =>
  match move with
  | .act _ act => inferInstanceAs (Decidable (act = .serve → ¬ Has onStrand others))
  | .call _ => .isTrue trivial

instance : (strandSerial.and deadlineFirst).Checked := fun client others move =>
  match move with
  | .act answer act => inferInstanceAs (Decidable ((act = .serve → ¬ Has onStrand others) ∧
      (changes answer act = true → ¬ Has (deciding client.generation) others)))
  | .call _ => .isTrue ⟨trivial, trivial⟩

/-- Of two requests one is answered and one is overdue. -/
theorem replies_answer_both :
    ∃ config, Reach resumeProgram (strandSerial.and deadlineFirst) FreshClient config ∧
      config.shared.settled.map Settlement.verdict = [.resumed, .overdue] ∧
      Answered config.shared := by
  let schedule : List (Event ResumeOp Answer) :=
    [.call (.openTunnel 7), .run 0 {}, .call (.openTunnel 8), .run 1 {},
      .call (.friendConnection true), .run 2 {}, .call .serve, .run 3 {}, .run 3 {}, .run 3 {},
      .call .serve, .run 4 {}, .run 4 {}, .run 4 {}, .run 4 {}, .run 4 {}, .run 4 ⟨false, []⟩,
      .run 4 {}, .run 4 {}, .run 4 ⟨false, []⟩, .run 4 {}, .run 4 {}, .call (.resumeAck 7 true),
      .run 5 {}, .call .serve, .run 6 {}, .run 6 {}, .run 6 {}, .run 6 {}, .run 6 ⟨false, []⟩,
      .call (.pass 10), .run 7 {}, .call .timerFires, .run 8 {}, .run 8 {}, .run 8 {}, .run 8 {},
      .run 8 {}, .run 8 {}]
  have run := Reach.exists_of_replay resumeProgram (strandSerial.and deadlineFirst) FreshClient {}
    schedule (fun config => decide (config.shared.settled.map Settlement.verdict =
      [.resumed, .overdue])) rfl (by decide)
  obtain ⟨config, reached, met⟩ := run
  exact ⟨config, reached, of_decide_eq_true met, replies_answer reached⟩

/-- The deadline of the first session's request closes the tunnel in the third session,
after the third session's request for it has been answered. -/
theorem deadline_closes_resumed :
    ∃ config, Reach resumeProgram strandSerial FreshClient config ∧
      config.shared.settled.map Settlement.verdict = [.resumed, .overdue] ∧
      config.shared.settled.map Settlement.tunnel = [0, 0] ∧ ¬ Answered config.shared := by
  let schedule : List (Event ResumeOp Answer) :=
    [.call (.openTunnel 7), .run 0 {}, .call (.friendConnection true), .run 1 {}, .call .serve,
      .run 2 {}, .run 2 {}, .run 2 {}, .call .serve, .run 3 {}, .run 3 {}, .run 3 {}, .run 3 {},
      .run 3 {}, .run 3 ⟨false, []⟩, .run 3 {}, .run 3 {}, .call (.pass 10), .run 4 {},
      .call .timerFires, .run 5 {}, .run 5 {}, .run 5 {}, .run 5 {}, .run 5 {},
      .call (.friendConnection false), .run 6 {}, .call .serve, .run 7 {}, .run 7 {},
      .call (.friendConnection true), .run 8 {}, .call .serve, .run 9 {}, .run 9 {}, .run 9 {},
      .call .serve, .run 10 {}, .run 10 {}, .run 10 {}, .run 10 {}, .run 10 {},
      .run 10 ⟨false, []⟩, .run 10 {}, .run 10 {}, .call (.resumeAck 7 true), .run 11 {},
      .call .serve, .run 12 {}, .run 12 {}, .run 12 {}, .run 12 {}, .run 12 ⟨false, []⟩,
      .run 5 {}]
  have run := Reach.exists_of_replay resumeProgram strandSerial FreshClient {} schedule
    (fun config => decide (config.shared.settled.map Settlement.verdict = [.resumed, .overdue] ∧
      config.shared.settled.map Settlement.tunnel = [0, 0] ∧
      ∃ settlement ∈ config.shared.settled,
        ⟨settlement.token, settlement.session⟩ ∉ config.shared.requests)) rfl (by decide)
  obtain ⟨config, reached, met⟩ := run
  obtain ⟨verdicts, same, settlement, member, unasked⟩ := of_decide_eq_true met
  refine ⟨config, reached, verdicts, same, ?_⟩
  intro answered
  exact unasked (answered.asked settlement member).2

end Results

end ToxTunnel.ResumeTokens
