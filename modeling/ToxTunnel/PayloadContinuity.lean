import ToxTunnel.Interleaving
import ToxTunnel.Socks5Handshake

/-!
The life of one proxied connection, from accept to the tunnel that serves it.
The read loop runs from accept on and is never stopped at the handoff, the
tunnel takes bytes only while Connected, and the bytes read past the handshake
are injected by the tunnel's Connected callback on another thread. Reads that
complete in between are lost or overtake the injected bytes.
-/

namespace ToxTunnel.PayloadContinuity
open Interleaving TunnelState Socks5Handshake

section Model

inductive TunnelOpenOutcome where
  | connected | denied | unreachable | refused | failed
  deriving DecidableEq

def socks5ReplyFor : TunnelOpenOutcome → UInt8
  | .connected => kReplySuccess
  | .denied => kReplyConnNotAllowed
  | .unreachable => kReplyHostUnreachable
  | .refused => kReplyConnRefused
  | .failed => kReplyGeneralFailure

def httpStatusFor : TunnelOpenOutcome → Bytes
  | .connected => ascii "200 Connection Established"
  | .denied => ascii "403 Forbidden"
  | .unreachable | .refused | .failed => ascii "502 Bad Gateway"

/-- Who owns the connection's `on_data` callback. -/
inductive Handler where
  | session | detached | tunnel
  deriving DecidableEq

/-- Whether a call of `on_tcp_data_received` comes from the socket or from the
Connected callback. -/
inductive Source where
  | socket | initial
  deriving DecidableEq

inductive ProxyObs where
  | replied (bytes : Bytes)
  | closing
  | opening (destination : Destination)
  | handed (source : Source) (data : Bytes)
  | dropped (source : Source) (data : Bytes)
  deriving DecidableEq

/-- One accepted connection. `stream` is everything the client will ever send,
`received` how much of it the read loop has delivered. -/
structure Proxy where
  stream : Bytes
  received : Nat := 0
  readClosed : Bool := false
  strandBusy : Bool := false
  handler : Handler := .session
  session : Session := {}
  tunnelState : State := .none
  bookConnected : Bool := false
  bookResolved : Bool := false
  replySent : Bool := false
  initialPayload : Bytes := []
  log : List ProxyObs := []
  deriving DecidableEq

@[simps]
def Proxy.note (proxy : Proxy) (obs : ProxyObs) : Proxy := { proxy with log := obs :: proxy.log }

/-- The bytes of the accepted calls, oldest first. The log is newest first. -/
def handedIn : List ProxyObs → Bytes
  | [] => []
  | .handed _ data :: older => handedIn older ++ data
  | _ :: older => handedIn older

def Proxy.handed (proxy : Proxy) : Bytes := handedIn proxy.log

/-- What `open_socks5_tunnel` runs into before `TunnelImpl::open`. -/
inductive OpenObstacle where
  | serverOffline | noTunnelIds | atCapacity | stopping | none
  deriving DecidableEq

/-- The environment's part of a step: how much a read returns, how the open
goes, and how the peer's error is classified. -/
structure Answer where
  length : Nat := 0
  obstacle : OpenObstacle := .none
  openSent : Bool := true
  outcome : TunnelOpenOutcome := .failed
  deriving DecidableEq

inductive ProxyAct where
  | deliver
  | readEnds
  | openAnswer
  | handleAck
  | connectedCallback
  | injectInitial
  | startRead
  | tcpDataReceived (source : Source) (data : Bytes)
  | takeTcpData (source : Source) (data : Bytes)
  | leaveState (target : State)
  | terminalCallback
  deriving DecidableEq

/-- The completion the session passed to `open_tunnel`. -/
def Proxy.reply (proxy : Proxy) (outcome : TunnelOpenOutcome) : Proxy :=
  let answered := match proxy.session.protocol with
    | .socks5 => proxy.note (.replied (encodeSocks5Reply (socks5ReplyFor outcome)))
    | .httpConnect => proxy.note (.replied (httpReply (httpStatusFor outcome)))
    | .unknown => proxy
  if outcome = .connected then answered else answered.note .closing

/-- The reply gate. -/
def Proxy.replyOnce (proxy : Proxy) (outcome : TunnelOpenOutcome) : Proxy :=
  if proxy.replySent then proxy else ({ proxy with replySent := true }).reply outcome

/-- `open_socks5_tunnel` up to the claim of Connecting. Nobody else can reach the
tunnel before that, and the strand is held throughout. -/
def openSocks5Tunnel (answer : Answer) (proxy : Proxy) (destination : Destination) :
    Proxy × List ProxyAct :=
  match answer.obstacle with
  | .serverOffline | .noTunnelIds => ((proxy.reply .failed).note .closing, [])
  | .atCapacity =>
      (({ proxy with handler := .tunnel }.replyOnce .failed).note .closing, [])
  | .stopping =>
      (({ proxy with handler := .tunnel, tunnelState := .closed }.replyOnce .failed).note .closing, [])
  | .none =>
      if 255 < destination.host.length then
        (({ proxy with handler := .tunnel, tunnelState := .closed }.replyOnce .failed).note .closing, [])
      else
        ({ proxy with handler := .tunnel, tunnelState := .connecting, strandBusy := true }.note
          (.opening destination), [.openAnswer])

/-- The replies and the close of one `try_advance`. -/
def Proxy.noteAdvance (proxy : Proxy) (advance : Advance) : Proxy :=
  let replied := advance.replies.foldl (fun proxy reply => proxy.note (.replied reply)) proxy
  if advance.close then replied.note .closing else replied

/-- The session's `on_data`, with `handoff_to_tunnel` when it has parsed all. -/
def sessionData (answer : Answer) (proxy : Proxy) (chunk : Bytes) : Proxy × List ProxyAct :=
  let advance := proxy.session.onData chunk
  let noted := { proxy with session := advance.session }.noteAdvance advance
  match advance.handoff with
  | none => (noted, [])
  | some destination =>
      openSocks5Tunnel answer { noted with
        handler := .detached
        initialPayload := advance.session.buffer
        session := { advance.session with buffer := [] } } destination

def Proxy.nextChunk (proxy : Proxy) (answer : Answer) : Bytes :=
  (proxy.stream.drop proxy.received).take answer.length

/-- The end of the read completion that made the call. -/
def Proxy.finishCall (proxy : Proxy) : Source → Proxy
  | .socket => { proxy with strandBusy := false }
  | .initial => proxy

def Proxy.live (proxy : Proxy) : Bool :=
  proxy.tunnelState == .connecting || proxy.tunnelState == .connected ||
    proxy.tunnelState == .disconnecting

def execProxy (answer : Answer) (proxy : Proxy) : ProxyAct → Proxy × List ProxyAct
  | .deliver =>
      -- A closing connection may still deliver what it had read, so `closing` does not stop this.
      if proxy.strandBusy || proxy.readClosed then (proxy, [])
      else
        let chunk := proxy.nextChunk answer
        let read := { proxy with received := proxy.received + chunk.length }
        if chunk = [] then (proxy, [])
        else match proxy.handler with
          | .session => sessionData answer read chunk
          | .detached => (read.note (.dropped .socket chunk), [])
          | .tunnel => ({ read with strandBusy := true }, [.tcpDataReceived .socket chunk])
  | .readEnds => (if proxy.strandBusy then proxy else { proxy with readClosed := true }, [])
  | .openAnswer =>
      let returned := { proxy with strandBusy := false }
      if answer.openSent then (returned, [])
      else
        -- `open` rolled back and the manager force-closes the tunnel.
        (({ returned with tunnelState := .closed }.replyOnce .failed).note .closing, [])
  | .handleAck =>
      if proxy.tunnelState = .connecting then
        ({ proxy with tunnelState := .connected }, [.connectedCallback])
      else (proxy, [])
  | .connectedCallback =>
      if proxy.bookResolved || proxy.bookConnected then (proxy, [])
      else
        (({ proxy with bookConnected := true, bookResolved := true }).replyOnce .connected,
          [.injectInitial, .startRead])
  | .injectInitial =>
      -- Only this callback uses the holder, so it is emptied when its bytes are taken out.
      if proxy.initialPayload = [] then (proxy, [])
      else ({ proxy with initialPayload := [] }, [.tcpDataReceived .initial proxy.initialPayload])
  | .startRead => (proxy, [])
  | .tcpDataReceived source data =>
      if proxy.tunnelState = .connected then (proxy, [.takeTcpData source data])
      else ((proxy.note (.dropped source data)).finishCall source, [])
  | .takeTcpData source data => ((proxy.note (.handed source data)).finishCall source, [])
  | .leaveState target =>
      if proxy.live && target != .connecting && target != .connected then
        ({ proxy with tunnelState := target }, if target.terminal then [.terminalCallback] else [])
      else (proxy, [])
  | .terminalCallback =>
      (({ proxy with bookResolved := true }.replyOnce answer.outcome).note .closing, [])

/-- What happens around a proxied connection. -/
inductive ProxyOp where
  | socketReads | socketEnds | ackFrame | tunnelLeaves (target : State)
  deriving DecidableEq

def startProxy : ProxyOp → List ProxyAct
  | .socketReads => [.deliver]
  | .socketEnds => [.readEnds]
  | .ackFrame => [.handleAck]
  | .tunnelLeaves target => [.leaveState target]

def proxyProgram : Program Proxy ProxyAct ProxyOp Answer where
  start := startProxy
  exec := execProxy

/-- A connection just accepted, whose client will send `stream`. -/
def Accepted (stream : Bytes) (proxy : Proxy) : Prop := proxy = { stream := stream }

end Model

section Condition

def injecting : ProxyAct → Bool
  | .tcpDataReceived .initial _ | .takeTcpData .initial _ => true
  | _ => false

/-- After the handoff no read completes before the tunnel has left Connecting
and, as long as it is Connected, before the initial payload is in. -/
def readsAfterInjection : Guard Proxy ProxyAct ProxyOp Answer
  | proxy, others, .act _ .deliver => proxy.handler = .tunnel →
      proxy.tunnelState ≠ .connecting ∧
        (proxy.tunnelState = .connected → proxy.initialPayload = [] ∧ ¬ Has injecting others)
  | _, _, _ => True

instance : readsAfterInjection.Checked := fun _ _ _ => by
  unfold readsAfterInjection
  split <;> infer_instance

end Condition

section Stages

/-- The part of the state the payload depends on. -/
structure Core where
  stream : Bytes
  received : Nat
  handler : Handler
  session : Session
  tunnelState : State
  initialPayload : Bytes
  strandBusy : Bool
  handed : Bytes

@[simps]
def Proxy.core (proxy : Proxy) : Core where
  stream := proxy.stream
  received := proxy.received
  handler := proxy.handler
  session := proxy.session
  tunnelState := proxy.tunnelState
  initialPayload := proxy.initialPayload
  strandBusy := proxy.strandBusy
  handed := proxy.handed

/-- Bytes on their way through `on_tcp_data_received`. -/
structure Piece where
  taken : Bool
  source : Source
  bytes : Bytes

def pieceOf : ProxyAct → Option Piece
  | .tcpDataReceived source data => some ⟨false, source, data⟩
  | .takeTcpData source data => some ⟨true, source, data⟩
  | _ => none

/-- A piece that is past the `is_connected` check. -/
def Piece.going (piece : Piece) : Option Bytes := if piece.taken then some piece.bytes else none

def pieces (bag : Multiset ProxyAct) : Multiset Piece := bag.filterMap pieceOf

/-- The Connected callback up to the injection. -/
def announcing : ProxyAct → Bool
  | .connectedCallback | .injectInitial => true
  | _ => false

/-- Actions that only a handed-over connection has. -/
def afterHandoff (act : ProxyAct) : Bool :=
  announcing act || (pieceOf act).isSome || decide (act = .openAnswer)

/-- Where a proxied connection is, and where the bytes read so far are. -/
inductive Stage (handshake payload : Bytes) (core : Core) (bag : Multiset ProxyAct) : Prop where
  | parsing : core.handler = .session → core.tunnelState = .none → core.handed = [] →
      Waits handshake core.session (core.stream.take core.received) → ¬ Has afterHandoff bag →
      Stage handshake payload core bag
  | opening : core.handler = .tunnel → core.tunnelState = .connecting → core.handed = [] →
      handshake ++ core.initialPayload = core.stream.take core.received → pieces bag = 0 →
      ¬ Has announcing bag → Stage handshake payload core bag
  | relaying (piece : Option Piece) : core.handler = .tunnel → core.tunnelState = .connected →
      pieces bag = ↑piece.toList →
      handshake ++ (core.handed ++ piece.elim [] Piece.bytes ++ core.initialPayload) =
        core.stream.take core.received →
      (core.initialPayload ≠ [] → core.handed = [] ∧ piece = none) →
      Stage handshake payload core bag
  | finished (going : Option Bytes) : core.handler ≠ .session → core.tunnelState ≠ .connecting →
      core.tunnelState ≠ .connected → (pieces bag).filterMap Piece.going = ↑going.toList →
      core.handed ++ going.getD [] <+: payload → Stage handshake payload core bag

/-- Actions that run inside a read completion. -/
def onStrand : ProxyAct → Nat
  | .openAnswer | .tcpDataReceived .socket _ | .takeTcpData .socket _ => 1
  | _ => 0

structure Relays (handshake payload : Bytes) (core : Core) (bag : Multiset ProxyAct) : Prop where
  stream : core.stream = handshake ++ payload
  strand : weigh onStrand bag = if core.strandBusy then 1 else 0
  stage : Stage handshake payload core bag

variable {handshake payload : Bytes} {core : Core} {act : ProxyAct} {new : List ProxyAct}
  {others bag : Multiset ProxyAct}

theorem pieces_cons_none (idle : pieceOf act = none) (bag : Multiset ProxyAct) :
    pieces (act ::ₘ bag) = pieces bag :=
  Multiset.filterMap_cons_none _ _ idle

theorem pieces_cons_some {piece : Piece} (holds : pieceOf act = some piece)
    (bag : Multiset ProxyAct) : pieces (act ::ₘ bag) = piece ::ₘ pieces bag :=
  Multiset.filterMap_cons_some _ _ _ holds

theorem pieces_add (new : List ProxyAct) (bag : Multiset ProxyAct) :
    pieces (↑new + bag) = ↑(new.filterMap pieceOf) + pieces bag := by
  rw [pieces, Multiset.filterMap_add, Multiset.filterMap_coe, pieces]

theorem mem_pieces {piece : Piece} (member : piece ∈ pieces bag) :
    ∃ act ∈ bag, pieceOf act = some piece :=
  (Multiset.mem_filterMap pieceOf bag).mp member

theorem pieces_eq_zero (early : ¬ Has afterHandoff bag) : pieces bag = 0 := by
  rw [pieces, Multiset.eq_zero_iff_forall_notMem]
  intro piece member
  obtain ⟨act, pending, found⟩ := mem_pieces member
  exact early ⟨act, pending, by simp [afterHandoff, found]⟩

theorem pieceOf_some {piece : Piece} (found : pieceOf act = some piece) :
    onStrand act = 1 ∨ injecting act = true := by
  cases act with
  | tcpDataReceived source | takeTcpData source => cases source <;> simp [onStrand, injecting]
  | _ => cases found

theorem Stage.pop (stage : Stage handshake payload core (act ::ₘ others))
    (idle : pieceOf act = none) :
    Stage handshake payload core others ∧ (announcing act = true → core.tunnelState ≠ .connecting) ∧
      (afterHandoff act = true → core.handler ≠ .session) := by
  cases stage with
  | parsing handler state handed waits early =>
      rw [has_cons, not_or] at early
      refine ⟨.parsing handler state handed waits early.2, fun _ => ?_, fun late => absurd late early.1⟩
      simp [state]
  | opening handler state handed read none_there silent =>
      rw [has_cons, not_or] at silent
      rw [pieces_cons_none idle] at none_there
      refine ⟨.opening handler state handed read none_there silent.2,
        fun announced => absurd announced silent.1, fun _ => ?_⟩
      simp [handler]
  | relaying piece handler state owned read first =>
      rw [pieces_cons_none idle] at owned
      exact ⟨.relaying piece handler state owned read first, fun _ => by simp [state],
        fun _ => by simp [handler]⟩
  | finished going handler not_yet ended owned handed =>
      rw [pieces_cons_none idle] at owned
      exact ⟨.finished going handler not_yet ended owned handed, fun _ => not_yet, fun _ => handler⟩

theorem Stage.push (stage : Stage handshake payload core others)
    (idle : new.filterMap pieceOf = [])
    (announced : new.any announcing = true → core.tunnelState ≠ .connecting)
    (late : new.any afterHandoff = true → core.handler ≠ .session) :
    Stage handshake payload core (↑new + others) := by
  have same : pieces (↑new + others) = pieces others := by
    rw [pieces_add, idle]
    exact zero_add _
  cases stage with
  | parsing handler state handed waits early =>
      refine .parsing handler state handed waits ?_
      rw [has_add]
      rintro (found | found)
      · exact late found handler
      · exact early found
  | opening handler state handed read none_there silent =>
      refine .opening handler state handed read (same.trans none_there) ?_
      rw [has_add]
      rintro (found | found)
      · exact announced found state
      · exact silent found
  | relaying piece handler state owned read first =>
      exact .relaying piece handler state (same.trans owned) read first
  | finished going handler not_yet ended owned handed =>
      exact .finished going handler not_yet ended (by rw [same]; exact owned) handed

theorem Stage.unheld (stage : Stage handshake payload core bag) {busy : Bool} :
    Stage handshake payload { core with strandBusy := busy } bag := by
  cases stage with
  | parsing handler state handed waits early => exact .parsing handler state handed waits early
  | opening handler state handed read nothing silent =>
      exact .opening handler state handed read nothing silent
  | relaying piece handler state owned read first =>
      exact .relaying piece handler state owned read first
  | finished going handler not_yet ended owned handed =>
      exact .finished going handler not_yet ended owned handed

theorem arrived_payload {bytes : Bytes} (stream : core.stream = handshake ++ payload)
    (read : handshake ++ bytes = core.stream.take core.received) : bytes <+: payload := by
  have arrived : handshake ++ bytes <+: handshake ++ payload := by
    rw [read, ← stream]
    exact List.take_prefix _ _
  exact (List.prefix_append_right_inj handshake).mp arrived

theorem Stage.handed_arrived (stage : Stage handshake payload core bag)
    (stream : core.stream = handshake ++ payload) : core.handed <+: payload := by
  cases stage with
  | parsing _ _ handed => simp [handed]
  | opening _ _ handed => simp [handed]
  | relaying piece _ _ _ read =>
      have arrived := arrived_payload stream read
      rw [List.append_assoc] at arrived
      exact (List.prefix_append _ _).trans arrived
  | finished going _ _ _ _ handed => exact (List.prefix_append _ _).trans handed

theorem Stage.handed_over_of_live {proxy : Proxy}
    (stage : Stage handshake payload proxy.core bag) (live : proxy.live = true) :
    proxy.core.handler ≠ .session := by
  cases stage with
  | parsing _ state => simp_all [Proxy.live]
  | opening handler =>
      rw [handler]
      simp
  | relaying _ handler =>
      rw [handler]
      simp
  | finished _ handler => exact handler

/-- A tunnel that leaves Connecting or Connected is never served again. -/
theorem Stage.leave (stage : Stage handshake payload core bag)
    (stream : core.stream = handshake ++ payload) (handed_over : core.handler ≠ .session)
    {target : State} (not_yet : target ≠ .connecting) (ended : target ≠ .connected) :
    Stage handshake payload { core with tunnelState := target } bag := by
  cases stage with
  | parsing handler => exact absurd handler handed_over
  | opening handler state handed read none_there =>
      refine .finished none handed_over not_yet ended ?_ ?_
      · rw [none_there]
        rfl
      · simp [handed]
  | relaying piece handler state owned read =>
      refine .finished (piece.bind Piece.going) handed_over not_yet ended ?_ ?_
      · rw [owned]
        cases piece with
        | none => rfl
        | some piece =>
            rw [Option.toList_some, Multiset.filterMap_coe]
            cases going : piece.going <;> simp [going]
      · refine List.IsPrefix.trans ?_ (arrived_payload stream read)
        cases piece with
        | none => simp
        | some piece => cases taken : piece.taken <;> simp [Piece.going, taken]
  | finished going _ _ _ owned handed => exact .finished going handed_over not_yet ended owned handed

end Stages

section Steps
variable {handshake payload : Bytes} {proxy after : Proxy} {act : ProxyAct} {new : List ProxyAct}
  {others : Multiset ProxyAct}

theorem handed_note (proxy : Proxy) (obs : ProxyObs) (other : ∀ source data, obs ≠ .handed source data) :
    (proxy.note obs).handed = proxy.handed := by
  cases obs with
  | handed source data => exact absurd rfl (other source data)
  | _ => rfl

theorem core_note (proxy : Proxy) (obs : ProxyObs) (other : ∀ source data, obs ≠ .handed source data) :
    (proxy.note obs).core = proxy.core := by
  simp [Proxy.core, handed_note proxy obs other]

theorem core_reply (proxy : Proxy) (outcome : TunnelOpenOutcome) :
    (proxy.reply outcome).core = proxy.core := by
  unfold Proxy.reply
  cases proxy.session.protocol <;> dsimp only <;> split <;> simp [core_note]

theorem core_replyOnce (proxy : Proxy) (outcome : TunnelOpenOutcome) :
    (proxy.replyOnce outcome).core = proxy.core := by
  unfold Proxy.replyOnce
  split
  · rfl
  · rw [core_reply]
    rfl

theorem core_replies (proxy : Proxy) (replies : List Bytes) :
    (replies.foldl (fun proxy reply => proxy.note (.replied reply)) proxy).core = proxy.core := by
  induction replies generalizing proxy with
  | nil => rfl
  | cons reply replies ih =>
      rw [List.foldl_cons, ih, core_note _ _ (by simp)]

theorem core_noteAdvance (proxy : Proxy) (advance : Advance) :
    (proxy.noteAdvance advance).core = proxy.core := by
  unfold Proxy.noteAdvance
  split
  · rw [core_note _ _ (by simp), core_replies]
  · rw [core_replies]

theorem Relays.idle (relays : Relays handshake payload proxy.core (act ::ₘ others))
    (idle : pieceOf act = none) (off : onStrand act = 0) (same : after.core = proxy.core)
    (new_idle : new.filterMap pieceOf = []) (new_off : weigh onStrand ↑new = 0)
    (announced : new.any announcing = true → announcing act = true)
    (late : new.any afterHandoff = true → afterHandoff act = true) :
    Relays handshake payload after.core (↑new + others) := by
  obtain ⟨popped, announces, follows⟩ := relays.stage.pop idle
  have strand := relays.strand
  rw [weigh_cons, off, zero_add] at strand
  rw [same]
  refine ⟨relays.stream, ?_, popped.push new_idle (announces ∘ announced) (follows ∘ late)⟩
  rw [weigh_add, new_off, zero_add, strand]

theorem Relays.free (relays : Relays handshake payload proxy.core (act ::ₘ others))
    (off : onStrand act = 0) (resting : proxy.strandBusy = false) : weigh onStrand others = 0 := by
  have strand := relays.strand
  rw [weigh_cons, off, zero_add, Proxy.core_strandBusy, resting] at strand
  exact strand

theorem Relays.alone (relays : Relays handshake payload proxy.core (act ::ₘ others))
    (on : onStrand act = 1) : weigh onStrand others = 0 := by
  have strand := relays.strand
  rw [weigh_cons, on] at strand
  split at strand <;> omega

theorem openSocks5Tunnel_relays {answer : Answer} {destination : Destination}
    (stream : proxy.stream = handshake ++ payload) (state : proxy.tunnelState = .none)
    (detached : proxy.handler = .detached) (handed : proxy.handed = [])
    (read : handshake ++ proxy.initialPayload = proxy.stream.take proxy.received)
    (resting : proxy.strandBusy = false) (free : weigh onStrand others = 0)
    (early : ¬ Has afterHandoff others) :
    Relays handshake payload (openSocks5Tunnel answer proxy destination).1.core
      (↑(openSocks5Tunnel answer proxy destination).2 + others) := by
  have nothing := pieces_eq_zero early
  have failed : ∀ core : Core, core.stream = proxy.stream → core.strandBusy = proxy.strandBusy →
      core.handler ≠ .session → core.tunnelState ≠ .connecting → core.tunnelState ≠ .connected →
      core.handed = proxy.handed →
      Relays handshake payload core (↑([] : List ProxyAct) + others) := by
    intro core same busy handler not_yet ended none_handed
    refine ⟨same.trans stream, ?_, .finished none handler not_yet ended ?_ ?_⟩
    · rw [weigh_add, free, busy, resting]
      rfl
    · rw [pieces_add, nothing]
      rfl
    · simp [none_handed, handed]
  unfold openSocks5Tunnel
  cases answer.obstacle with
  | serverOffline | noTunnelIds =>
      dsimp only
      rw [core_note _ _ (by simp), core_reply]
      apply failed <;> simp [detached, state]
  | atCapacity | stopping =>
      dsimp only
      rw [core_note _ _ (by simp), core_replyOnce]
      apply failed <;> first | rfl | simp [state]
  | none =>
      dsimp only
      split
      · dsimp only
        rw [core_note _ _ (by simp), core_replyOnce]
        apply failed <;> first | rfl | simp
      · dsimp only
        rw [core_note _ _ (by simp)]
        refine ⟨stream, ?_, .opening rfl rfl handed read ?_ ?_⟩
        · rw [weigh_add, free]
          rfl
        · rw [pieces_add, nothing]
          rfl
        · rw [has_add]
          rintro (found | ⟨act, member, found⟩)
          · simp [announcing] at found
          · exact early ⟨act, member, by simp [afterHandoff, found]⟩

theorem take_nextChunk (proxy : Proxy) (answer : Answer) :
    proxy.stream.take (proxy.received + (proxy.nextChunk answer).length) =
      proxy.stream.take proxy.received ++ proxy.nextChunk answer := by
  rw [List.take_add]
  congr 1
  rw [Proxy.nextChunk, List.length_take, ← List.take_take, List.take_length]

theorem sessionData_relays {answer : Answer} {chunk : Bytes} (valid : ValidHandshake handshake)
    (stream : proxy.stream = handshake ++ payload) (session : proxy.handler = .session)
    (state : proxy.tunnelState = .none) (handed : proxy.handed = []) {before : Bytes}
    (read : proxy.stream.take proxy.received = before ++ chunk)
    (waits : Waits handshake proxy.session before)
    (resting : proxy.strandBusy = false) (free : weigh onStrand others = 0)
    (early : ¬ Has afterHandoff others) :
    Relays handshake payload (sessionData answer proxy chunk).1.core
      (↑(sessionData answer proxy chunk).2 + others) := by
  have arrived : before ++ chunk <+: handshake ++ payload := by
    rw [← read, ← stream]
    exact List.take_prefix _ _
  have fits := onData_fits valid waits arrived
  unfold Advance.Fits at fits
  have noted := core_noteAdvance
    { proxy with session := (proxy.session.onData chunk).session } (proxy.session.onData chunk)
  unfold sessionData
  dsimp only
  cases handoff : (proxy.session.onData chunk).handoff with
  | none =>
      rw [handoff] at fits
      dsimp only
      rw [noted]
      refine ⟨stream, ?_, .parsing session state handed ?_ (by simpa using early)⟩
      · simp [free, resting]
      · exact read.symm ▸ fits
  | some destination =>
      rw [handoff] at fits
      dsimp only
      generalize Proxy.noteAdvance _ _ = after at noted ⊢
      simp only [Proxy.core, Core.mk.injEq] at noted
      obtain ⟨same_stream, same_received, -, -, same_state, -, same_busy, same_handed⟩ := noted
      refine openSocks5Tunnel_relays ?_ ?_ rfl ?_ ?_ ?_ free early
      · exact same_stream.trans stream
      · exact same_state.trans state
      · exact same_handed.trans handed
      · show handshake ++ _ = after.stream.take after.received
        rw [same_stream, same_received, read]
        exact fits
      · exact same_busy.trans resting

theorem deliver_relays {answer : Answer} (valid : ValidHandshake handshake)
    (relays : Relays handshake payload proxy.core (.deliver ::ₘ others))
    (allowed : readsAfterInjection proxy others (.act answer .deliver)) :
    Relays handshake payload (execProxy answer proxy .deliver).1.core
      (↑(execProxy answer proxy .deliver).2 + others) := by
  simp only [execProxy]
  split
  · exact relays.idle rfl rfl rfl rfl rfl (by simp) (by simp)
  next closed =>
    split
    · exact relays.idle rfl rfl rfl rfl rfl (by simp) (by simp)
    next some_bytes =>
      have resting : proxy.strandBusy = false := by simp_all
      have free := relays.free rfl resting
      have read := take_nextChunk proxy answer
      obtain ⟨stage, -, -⟩ := relays.stage.pop rfl
      cases stage with
      | parsing session state handed waits early =>
          simp only [Proxy.core_handler] at session
          rw [session]
          exact sessionData_relays valid relays.stream rfl state handed read waits resting free early
      | opening handler state => exact absurd state (allowed handler).1
      | relaying piece handler state owned flowing first =>
          simp only [Proxy.core_handler] at handler
          rw [handler]
          dsimp only
          obtain ⟨injected, not_injecting⟩ := (allowed handler).2 state
          -- The strand is free and nothing is being injected, so no piece is on its way.
          have alone : piece = none := by
            cases piece with
            | none => rfl
            | some piece =>
                have there : piece ∈ pieces others := by
                  rw [owned]
                  exact Multiset.mem_singleton_self piece
                obtain ⟨act, member, found⟩ := mem_pieces there
                have light : onStrand act ≤ weigh onStrand others := weight_le_weigh member
                rcases pieceOf_some found with on | injects
                · omega
                · exact absurd ⟨act, member, injects⟩ not_injecting
          subst alone
          refine ⟨relays.stream, ?_, .relaying
              (some ⟨false, .socket, proxy.nextChunk answer⟩) rfl state ?_ ?_ ?_⟩
          · rw [weigh_add, free]
            rfl
          · rw [pieces_add, owned]
            rfl
          · show handshake ++ (proxy.handed ++ proxy.nextChunk answer ++ proxy.initialPayload) =
              proxy.stream.take (proxy.received + (proxy.nextChunk answer).length)
            have flowed : handshake ++ proxy.handed = proxy.stream.take proxy.received := by
              simpa [injected] using flowing
            rw [read, ← flowed, injected, List.append_nil, List.append_assoc]
          · exact fun left => absurd injected left
      | finished going handler not_yet ended owned handed =>
          simp only [Proxy.core_handler] at handler
          cases which : proxy.handler with
          | session => exact absurd which handler
          | detached =>
              dsimp only
              rw [core_note _ _ (by simp)]
              refine ⟨relays.stream, ?_, .finished going ?_ not_yet ended (by simpa using owned) handed⟩
              · simp [free, resting]
              · simp
          | tunnel =>
              refine ⟨relays.stream, ?_, .finished going ?_ not_yet ended ?_ handed⟩
              · rw [weigh_add, free]
                rfl
              · simp
              · rw [pieces_add, Multiset.filterMap_add, owned]
                exact zero_add _

theorem openAnswer_relays {answer : Answer}
    (relays : Relays handshake payload proxy.core (.openAnswer ::ₘ others)) :
    Relays handshake payload (execProxy answer proxy .openAnswer).1.core
      (↑(execProxy answer proxy .openAnswer).2 + others) := by
  have free := relays.alone rfl
  obtain ⟨stage, -, follows⟩ := relays.stage.pop rfl
  simp only [execProxy]
  split
  · rw [Multiset.coe_nil, zero_add]
    exact ⟨relays.stream, by simp [free], stage.unheld⟩
  · rw [core_note _ _ (by simp), core_replyOnce, Multiset.coe_nil, zero_add]
    exact ⟨relays.stream, by simp [free],
      (stage.leave relays.stream (follows rfl) (by simp) (by simp)).unheld⟩

theorem onStrand_take (source : Source) (data : Bytes) :
    onStrand (.takeTcpData source data) = if source = .socket then 1 else 0 := by
  cases source <;> rfl

theorem Relays.returned {source : Source} (obs : ProxyObs)
    (relays : Relays handshake payload proxy.core (act ::ₘ others))
    (on : onStrand act = if source = .socket then 1 else 0) :
    weigh onStrand others = if ((proxy.note obs).finishCall source).strandBusy then 1 else 0 := by
  cases source with
  | socket => simpa [Proxy.finishCall] using relays.alone on
  | initial =>
      have strand := relays.strand
      rw [weigh_cons, on, if_neg (by simp), zero_add] at strand
      exact strand

theorem core_finishCall (proxy : Proxy) (source : Source) : (proxy.finishCall source).core =
    { proxy.core with strandBusy := (proxy.finishCall source).strandBusy } := by
  cases source <;> rfl

/-- A piece is in nobody's hands before the handoff and while Connecting. -/
theorem tcpDataReceived_relays {answer : Answer} {source : Source} {data : Bytes}
    (relays : Relays handshake payload proxy.core (.tcpDataReceived source data ::ₘ others)) :
    Relays handshake payload (execProxy answer proxy (.tcpDataReceived source data)).1.core
      (↑(execProxy answer proxy (.tcpDataReceived source data)).2 + others) := by
  have strand := relays.strand
  simp only [execProxy]
  cases relays.stage with
  | parsing _ _ _ _ early => exact absurd (by simp [afterHandoff, pieceOf]) early
  | opening _ _ _ _ nothing => simp [pieces, pieceOf] at nothing
  | relaying piece handler state owned read first =>
      simp only [Proxy.core_tunnelState] at state
      rw [if_pos state]
      obtain ⟨rfl, alone⟩ := filterMap_owner owned rfl
      refine ⟨relays.stream, ?_, .relaying (some ⟨true, source, data⟩) handler state ?_ read ?_⟩
      · rw [← strand, weigh_add, weigh_cons]
        cases source <;> rfl
      · rw [pieces_add, pieces, alone]
        rfl
      · intro left
        cases (first left).2
  | finished going handler not_yet ended owned handed =>
      simp only [Proxy.core_tunnelState] at ended
      rw [if_neg ended, core_finishCall, core_note _ _ (by simp), Multiset.coe_nil, zero_add]
      refine ⟨relays.stream, ?_, .finished going handler not_yet ended ?_ handed⟩
      · exact relays.returned _ (by cases source <;> rfl)
      · rw [← owned, pieces_cons_some rfl, Multiset.filterMap_cons_none _ _ rfl]

theorem takeTcpData_relays {answer : Answer} {source : Source} {data : Bytes}
    (relays : Relays handshake payload proxy.core (.takeTcpData source data ::ₘ others)) :
    Relays handshake payload (execProxy answer proxy (.takeTcpData source data)).1.core
      (↑(execProxy answer proxy (.takeTcpData source data)).2 + others) := by
  have strand := relays.returned (.handed source data) (onStrand_take source data)
  simp only [execProxy]
  rw [core_finishCall, Multiset.coe_nil, zero_add]
  cases relays.stage with
  | parsing _ _ _ _ early => exact absurd (by simp [afterHandoff, pieceOf]) early
  | opening _ _ _ _ nothing => simp [pieces, pieceOf] at nothing
  | relaying piece handler state owned read first =>
      obtain ⟨rfl, alone⟩ := filterMap_owner owned rfl
      refine ⟨relays.stream, strand, .relaying none handler state alone ?_ ?_⟩
      · show handshake ++ (proxy.handed ++ data ++ [] ++ proxy.initialPayload) =
          proxy.core.stream.take proxy.core.received
        rw [← read]
        simp
      · intro left
        cases (first left).2
  | finished going handler not_yet ended owned handed =>
      rw [pieces_cons_some rfl] at owned
      obtain ⟨rfl, alone⟩ := filterMap_owner owned rfl
      refine ⟨relays.stream, strand, .finished none handler not_yet ended alone ?_⟩
      show proxy.handed ++ data ++ [] <+: payload
      simpa using handed

/-- The ACK of the open: Connected is published and the callback is still to run. -/
theorem ack_relays (relays : Relays handshake payload proxy.core (.handleAck ::ₘ others))
    (state : proxy.tunnelState = .connecting) :
    Relays handshake payload { proxy with tunnelState := .connected }.core
      (↑[ProxyAct.connectedCallback] + others) := by
  obtain ⟨stage, -, -⟩ := relays.stage.pop rfl
  refine ⟨relays.stream, by simpa [onStrand] using relays.strand, ?_⟩
  cases stage with
  | parsing _ fresh => simp [state] at fresh
  | opening handler _ handed read nothing =>
      refine .relaying none handler rfl ?_ ?_ ?_
      · rw [pieces_add, nothing]
        rfl
      · show handshake ++ (proxy.core.handed ++ [] ++ proxy.initialPayload) =
          proxy.core.stream.take proxy.core.received
        rw [← read, handed]
        simp
      · exact fun _ => ⟨handed, rfl⟩
  | relaying _ _ connected => simp [state] at connected
  | finished _ _ not_yet => exact absurd state not_yet

theorem inject_relays (relays : Relays handshake payload proxy.core (.injectInitial ::ₘ others))
    (left : proxy.initialPayload ≠ []) :
    Relays handshake payload { proxy with initialPayload := [] }.core
      (↑[ProxyAct.tcpDataReceived .initial proxy.initialPayload] + others) := by
  obtain ⟨stage, announces, follows⟩ := relays.stage.pop rfl
  refine ⟨relays.stream, by simpa [onStrand] using relays.strand, ?_⟩
  cases stage with
  | parsing handler => exact absurd handler (follows rfl)
  | opening _ state => exact absurd state (announces rfl)
  | relaying piece handler state owned read first =>
      obtain ⟨handed, rfl⟩ := first left
      refine .relaying (some ⟨false, .initial, proxy.initialPayload⟩) handler state ?_ ?_ ?_
      · rw [pieces_add, owned]
        rfl
      · show handshake ++ (proxy.handed ++ proxy.initialPayload ++ []) =
          proxy.core.stream.take proxy.core.received
        rw [← read]
        simp
      · exact fun again => absurd rfl again
  | finished going handler not_yet ended owned handed =>
      refine .finished going handler not_yet ended ?_ handed
      rw [pieces_add, Multiset.filterMap_add, owned]
      exact zero_add _

theorem exec_relays (answer : Answer) (valid : ValidHandshake handshake)
    (relays : Relays handshake payload proxy.core (act ::ₘ others))
    (allowed : readsAfterInjection proxy others (.act answer act)) :
    Relays handshake payload (execProxy answer proxy act).1.core
      (↑(execProxy answer proxy act).2 + others) := by
  cases act with
  | deliver => exact deliver_relays valid relays allowed
  | openAnswer => exact openAnswer_relays relays
  | tcpDataReceived source data => exact tcpDataReceived_relays relays
  | takeTcpData source data => exact takeTcpData_relays relays
  | readEnds =>
      refine relays.idle rfl rfl ?_ rfl rfl (by simp [execProxy]) (by simp [execProxy])
      simp only [execProxy]
      split <;> rfl
  | startRead => exact relays.idle rfl rfl rfl rfl rfl (by simp [execProxy]) (by simp [execProxy])
  | terminalCallback =>
      refine relays.idle rfl rfl ?_ rfl rfl (by simp [execProxy]) (by simp [execProxy])
      simp only [execProxy]
      rw [core_note _ _ (by simp), core_replyOnce]
      rfl
  | connectedCallback =>
      simp only [execProxy]
      split
      · exact relays.idle rfl rfl rfl rfl rfl (by simp) (by simp)
      · exact relays.idle rfl rfl (core_replyOnce _ _) rfl rfl (fun _ => rfl) (fun _ => rfl)
  | handleAck =>
      simp only [execProxy]
      split
      next state => exact ack_relays relays state
      next => exact relays.idle rfl rfl rfl rfl rfl (by simp) (by simp)
  | injectInitial =>
      simp only [execProxy]
      split
      · exact relays.idle rfl rfl rfl rfl rfl (by simp) (by simp)
      next left => exact inject_relays relays left
  | leaveState target =>
      simp only [execProxy]
      split
      next leaves =>
        obtain ⟨stage, -, -⟩ := relays.stage.pop rfl
        simp only [Bool.and_eq_true, bne_iff_ne, ne_eq] at leaves
        obtain ⟨⟨live, not_yet⟩, ended⟩ := leaves
        have handed_over : proxy.core.handler ≠ .session := stage.handed_over_of_live live
        have left := stage.leave relays.stream handed_over not_yet ended
        refine ⟨relays.stream, ?_, ?_⟩
        · cases target.terminal <;> simpa [onStrand] using relays.strand
        · apply left.push <;> cases target.terminal <;> simp [pieceOf, announcing, afterHandoff]
      next => exact relays.idle rfl rfl rfl rfl rfl (by simp) (by simp)

end Steps

section Runs
variable {handshake payload : Bytes} {config : Config Proxy ProxyAct}

theorem reach_relays (valid : ValidHandshake handshake)
    (reached : Reach proxyProgram readsAfterInjection (Accepted (handshake ++ payload)) config) :
    Relays handshake payload config.shared.core config.bag := by
  refine reached.bag_invariant (fun proxy bag => Relays handshake payload proxy.core bag) ?_ ?_ ?_
  · rintro proxy rfl
    exact ⟨rfl, rfl, .parsing rfl rfl rfl (.fresh handshake) (not_has_zero _)⟩
  · intro proxy bag op relays _
    refine ⟨relays.stream, ?_, relays.stage.push ?_ ?_ ?_⟩
    · rw [weigh_add, ← relays.strand]
      cases op <;> exact zero_add _
    · cases op <;> rfl
    · cases op <;> simp [proxyProgram, startProxy, announcing]
    · cases op <;> simp [proxyProgram, startProxy, afterHandoff, announcing, pieceOf]
  · intro answer proxy act others relays allowed
    exact exec_relays answer valid relays allowed

/-- In every such run the tunnel is handed the payload from its first byte on,
with nothing left out and nothing overtaken. -/
theorem handed_prefix_payload (valid : ValidHandshake handshake)
    (reached : Reach proxyProgram readsAfterInjection (Accepted (handshake ++ payload)) config) :
    config.shared.handed <+: payload :=
  (reach_relays valid reached).stage.handed_arrived (reach_relays valid reached).stream

/-- A SOCKS5 client that asks for 127.0.0.1:80. -/
def localHandshake : Bytes := [5, 1, 0] ++ [5, 1, 0, 1, 127, 0, 0, 1, 0, 80]

theorem localHandshake_valid : ValidHandshake localHandshake :=
  .socks5 [5, 1, 0] [5, 1, 0, 1, 127, 0, 0, 1, 0, 80] [0] ⟨ascii "127.0.0.1", 80⟩
    (by decide) (by decide) (by decide)

/-- Two payload bytes come with the request, the third one after the injection. -/
theorem handed_prefix_payload_pipelined :
    ∃ config, Reach proxyProgram readsAfterInjection (Accepted (localHandshake ++ [1, 2, 3])) config ∧
      config.shared.handed = [1, 2, 3] ∧ config.shared.handed <+: [1, 2, 3] := by
  let schedule : List (Event ProxyOp Answer) := List.flatten
    [[.call .socketReads, .run 0 { length := 2 }],
     [.call .socketReads, .run 1 { length := 13 }, .run 1 {}], [.call .ackFrame],
     List.replicate 6 (.run 2 {}),
     [.call .socketReads, .run 3 { length := 1 }, .run 3 {}, .run 3 {}]]
  have run := Reach.exists_of_replay proxyProgram readsAfterInjection
    (Accepted (localHandshake ++ [1, 2, 3])) { stream := localHandshake ++ [1, 2, 3] } schedule
    (fun config => decide (config.shared.handed = [1, 2, 3])) rfl (by decide)
  obtain ⟨config, reached, met⟩ := run
  exact ⟨config, reached, of_decide_eq_true met,
    handed_prefix_payload localHandshake_valid reached⟩

/-- The first payload byte is read while the tunnel is Connecting and dropped,
the second one is read after the ACK and handed on. -/
theorem payload_dropped_reachable :
    ∃ config, Reach proxyProgram always (Accepted (localHandshake ++ [1, 2])) config ∧
      config.shared.handed = [2] ∧ ¬ config.shared.handed <+: [1, 2] := by
  let schedule : List (Event ProxyOp Answer) := List.flatten
    [[.call .socketReads, .run 0 { length := 13 }, .run 0 {}],
     [.call .socketReads, .run 1 { length := 1 }, .run 1 {}], [.call .ackFrame],
     List.replicate 4 (.run 2 {}),
     [.call .socketReads, .run 3 { length := 1 }, .run 3 {}, .run 3 {}]]
  have run := Reach.exists_of_replay proxyProgram always
    (Accepted (localHandshake ++ [1, 2])) { stream := localHandshake ++ [1, 2] } schedule
    (fun config => decide (config.shared.handed = [2] ∧ ¬ config.shared.handed <+: [1, 2]))
    rfl (by decide)
  obtain ⟨config, reached, met⟩ := run
  exact ⟨config, reached, of_decide_eq_true met⟩

end Runs

end ToxTunnel.PayloadContinuity
