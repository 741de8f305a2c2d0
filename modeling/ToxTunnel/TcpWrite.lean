import ToxTunnel.TunnelSteps

/-!
The write side of `TcpConnection` and the deferred TUNNEL_ACK that hangs on it.
`write` decides about backpressure on the caller's thread and posts the enqueue to
the strand; the watermark that later calls `on_writable` is decided by the enqueue.
Completions that run in between lower the counter, so a refused write may be
enqueued without the watermark, and nothing releases its ACK any more.
-/

namespace ToxTunnel.TcpWrite
open Interleaving TunnelState TunnelSteps

section Model

inductive ConnectionState where
  | disconnected | connecting | connected | disconnecting
  deriving DecidableEq

/-- `WriteBuffer`. `refused` is what `write` returned for it; the code does not keep it. -/
structure WriteBuffer where
  bytes : Bytes
  refused : Bool
  deriving DecidableEq

def WriteBuffer.size (buffer : WriteBuffer) : Nat := buffer.bytes.length

/-- Handlers queued on `strand_`. -/
inductive Posted where
  | enqueueWrite (buffer : WriteBuffer)
  | writeCompleted
  deriving DecidableEq

inductive LinkObs where
  | wrote (data : Bytes) (accepted : Bool)
  | enqueued (buffer : WriteBuffer)
  | socketWritten (data : Bytes)
  | writable
  | creditTaken (credit : Nat)
  | acked (bytesAcked : Nat)
  deriving DecidableEq

/-- One tunnel's ACK accumulator and the connection it writes to. -/
structure Link where
  tunnelState : State := .connected
  sinceAck : Nat := 0
  ackThreshold : Nat := 0
  retryArmed : Bool := false
  state : ConnectionState := .connected
  sendShutdownRequested : Bool := false
  bufferBytes : Nat := 0
  maxBuffer : Nat := 0
  hitWatermark : Bool := false
  writeInProgress : Bool := false
  queue : List WriteBuffer := []
  inFlight : Option WriteBuffer := none
  completing : Bool := false
  posted : List Posted := []
  strandBusy : Bool := false
  log : List LinkObs := []
  deriving DecidableEq

@[simps]
def Link.note (link : Link) (obs : LinkObs) : Link := { link with log := obs :: link.log }

/-- Who called `send_ack`. -/
inductive AckCaller where
  | frame | writable | timer
  deriving DecidableEq

inductive LinkAct where
  | handleData (payload : Bytes)
  | countReceived (payload : Bytes)
  | write (payload : Bytes)
  | writePost (payload : Bytes) (full : Bool)
  | writeReturned (accepted : Bool)
  | maybeSendAck
  | sendAck (caller : AckCaller)
  | takeAckCredit (caller : AckCaller)
  | ackAnswer (credit : Nat) (caller : AckCaller)
  | armAckRetry (caller : AckCaller)
  | ackReturned (flushed : Bool) (caller : AckCaller)
  | socketCompletes
  | strandNext
  | writeCompleted
  | callOnWritable
  | settleWatermark (flushed : Bool)
  | doWrite
  | setMaxWriteBufferSize (bytes : Nat)
  | ackTimerFired
  deriving DecidableEq

/-- `do_write` on an open connection: the front buffer goes to the socket. -/
def doWriteLocked (link : Link) : Link :=
  match link.queue with
  | [] => { link with writeInProgress := false }
  | front :: rest => { link with writeInProgress := true, queue := rest, inFlight := some front }

def enqueueWriteLocked (link : Link) (buffer : WriteBuffer) : Link :=
  if buffer.size = 0 then link
  else
    let total := link.bufferBytes + buffer.size
    let queued := { link with
      bufferBytes := total
      hitWatermark := link.hitWatermark || decide (link.maxBuffer ≤ total)
      queue := link.queue ++ [buffer] }.note (.enqueued buffer)
    if link.writeInProgress then queued else doWriteLocked queued

/-- The `state_` check of `write` and of the posted enqueue. -/
def Link.writeOpen (link : Link) : Bool :=
  (link.state == .connected || link.state == .disconnecting) && !link.sendShutdownRequested

def Link.ackOpen (link : Link) : Bool :=
  link.tunnelState == .connected || link.tunnelState == .disconnecting

def execLink (choice : SendOutcome) (link : Link) : LinkAct → Link × List LinkAct
  | .handleData payload =>
      if !link.ackOpen || payload.isEmpty then (link, [])
      else (link, [.countReceived payload])
  | .countReceived payload =>
      ({ link with sinceAck := link.sinceAck + payload.length }, [.write payload])
  | .write payload =>
      if !link.writeOpen then (link.note (.wrote payload false), [.writeReturned false])
      else if payload.isEmpty then (link.note (.wrote payload true), [.writeReturned true])
      else
        let full := decide (link.maxBuffer < link.bufferBytes + payload.length)
        (link.note (.wrote payload !full), [.writePost payload full, .writeReturned !full])
  | .writePost payload full =>
      ({ link with posted := link.posted ++ [.enqueueWrite { bytes := payload, refused := full }] }, [])
  | .writeReturned accepted => (link, if accepted then [.maybeSendAck] else [])
  | .maybeSendAck =>
      (link, if link.ackThreshold ≤ link.sinceAck then [.sendAck .frame] else [])
  | .sendAck caller =>
      if !link.ackOpen then (link, [.ackReturned true caller])
      else (link, [.takeAckCredit caller])
  | .takeAckCredit caller =>
      let taken := { link with sinceAck := 0 }.note (.creditTaken link.sinceAck)
      (taken, if link.sinceAck = 0 then [.ackReturned true caller]
        else [.ackAnswer link.sinceAck caller])
  | .ackAnswer credit caller =>
      match choice with
      | .sendqFull => ({ link with sinceAck := link.sinceAck + credit }, [.armAckRetry caller])
      | .permanentFail => (link, [.ackReturned true caller])
      | .sent =>
          (link.note (.acked (ackValue credit)),
            if credit - ackValue credit = 0 then [.ackReturned true caller]
            else [.ackAnswer (credit - ackValue credit) caller])
  | .armAckRetry caller =>
      (if link.sinceAck = 0 then link else { link with retryArmed := true },
        [.ackReturned false caller])
  | .ackReturned flushed caller =>
      (link, match caller with
        | .writable => [.settleWatermark flushed]
        | _ => [])
  | .socketCompletes =>
      if link.inFlight.isNone || link.completing then (link, [])
      else ({ link with completing := true, posted := link.posted ++ [.writeCompleted] }, [])
  | .strandNext =>
      -- The strand runs one handler at a time, in the order they were posted.
      if link.strandBusy then (link, [])
      else match link.posted with
        | [] => (link, [])
        | .enqueueWrite buffer :: rest =>
            let popped := { link with posted := rest }
            (if popped.writeOpen then enqueueWriteLocked popped buffer else popped, [])
        | .writeCompleted :: rest =>
            ({ link with posted := rest, strandBusy := true }, [.writeCompleted])
  | .writeCompleted =>
      match link.inFlight with
      | none => (link, [.doWrite])
      | some buffer =>
          let remaining := link.bufferBytes - buffer.size
          ({ link with bufferBytes := remaining, inFlight := none, completing := false }.note
              (.socketWritten buffer.bytes),
            if link.hitWatermark && decide (remaining ≤ link.maxBuffer / 2) then [.callOnWritable]
            else [.doWrite])
  | .callOnWritable => (link.note .writable, [.sendAck .writable])
  | .settleWatermark flushed =>
      (if flushed then { link with hitWatermark := false } else link, [.doWrite])
  | .doWrite => ({ doWriteLocked link with strandBusy := false }, [])
  | .setMaxWriteBufferSize bytes => ({ link with maxBuffer := bytes }, [])
  | .ackTimerFired =>
      if link.retryArmed then ({ link with retryArmed := false }, [.sendAck .timer])
      else (link, [])

/-- What happens around the connection: DATA frames, the strand's worker, the
socket, the retry timer and the setter. -/
inductive LinkOp where
  | handleData (payload : Bytes)
  | strandNext
  | socketCompletes
  | setMaxWriteBufferSize (bytes : Nat)
  | ackTimerFired
  deriving DecidableEq

def startLink : LinkOp → List LinkAct
  | .handleData payload => [.handleData payload]
  | .strandNext => [.strandNext]
  | .socketCompletes => [.socketCompletes]
  | .setMaxWriteBufferSize bytes => [.setMaxWriteBufferSize bytes]
  | .ackTimerFired => [.ackTimerFired]

def linkProgram : Program Link LinkAct LinkOp SendOutcome where
  start := startLink
  exec := execLink

/-- A tunnel and its connection, both open, before the first write. -/
def FreshLink (link : Link) : Prop :=
  ∃ (ackThreshold maxBuffer : Nat) (halfClosed : Bool),
    link = { ackThreshold, maxBuffer, tunnelState := if halfClosed then .disconnecting else .connected }

end Model

section Kinds

/-- The enqueue of a write that returned false. -/
def refusedEnqueue : LinkObs → Bool
  | .enqueued buffer => buffer.refused
  | _ => false

def isWritable : LinkObs → Bool
  | .writable => true
  | _ => false

def isTaken : LinkObs → Bool
  | .creditTaken _ => true
  | _ => false

/-- A refused write was enqueued and no event of the kind `ends` came after it.
The log is newest first. -/
def owing (ends : LinkObs → Bool) : List LinkObs → Bool
  | [] => false
  | obs :: older =>
      if refusedEnqueue obs then true else if ends obs then false else owing ends older

theorem answered_of_not_owing {ends : LinkObs → Bool} {newer older : List LinkObs} {obs : LinkObs}
    (settled : owing ends (newer ++ obs :: older) = false) (refused : refusedEnqueue obs = true) :
    ∃ answer ∈ newer, ends answer = true := by
  induction newer with
  | nil => simp [owing, refused] at settled
  | cons first newer ih =>
      rw [List.cons_append, owing] at settled
      split at settled
      · cases settled
      · split at settled
        · next answers => exact ⟨first, List.mem_cons_self, answers⟩
        · obtain ⟨answer, member, answers⟩ := ih settled
          exact ⟨answer, List.mem_cons_of_mem first member, answers⟩

def calling : LinkAct → Bool
  | .callOnWritable => true
  | _ => false

/-- `notify_tcp_writable` before its exchange of the accumulator. -/
def taking : LinkAct → Bool
  | .sendAck .writable | .takeAckCredit .writable => true
  | _ => false

/-- The completion handler from its call of `on_writable` to the watermark. -/
def answering : LinkAct → Bool
  | .sendAck .writable | .takeAckCredit .writable | .ackAnswer _ .writable
  | .armAckRetry .writable | .ackReturned _ .writable | .settleWatermark _ => true
  | _ => false

/-- The completion handler after its buffer is accounted for. -/
def landed (act : LinkAct) : Bool := calling act || answering act || decide (act = .doWrite)

/-- Actions that run inside a handler of the strand. -/
def onStrand (act : LinkAct) : Nat := if landed act || decide (act = .writeCompleted) then 1 else 0

end Kinds

section Invariant

structure Watched (link : Link) (bag : Multiset LinkAct) : Prop where
  open_ends : link.writeOpen = true ∧ link.ackOpen = true
  strand : weigh onStrand bag = if link.strandBusy then 1 else 0
  idle : link.writeInProgress = false → link.inFlight = none
  counted : link.bufferBytes = (link.queue.map WriteBuffer.size).sum +
    link.inFlight.elim 0 WriteBuffer.size
  accounted : Has landed bag → link.inFlight = none
  awaited : owing isWritable link.log = true →
    (link.hitWatermark = true ∧ 0 < link.bufferBytes) ∨ Has calling bag
  answered : Has answering bag → owing isWritable link.log = false
  released : owing isTaken link.log = true → owing isWritable link.log = true ∨ Has taking bag

/-- A refused write is enqueued at the limit again, or the watermark is still set. -/
def watermarkCatches : Guard Link LinkAct LinkOp SendOutcome
  | link, _, .act _ .strandNext => ∀ buffer, link.posted.head? = some (.enqueueWrite buffer) →
      link.strandBusy = false → buffer.refused = true →
        link.maxBuffer ≤ link.bufferBytes + buffer.size ∨ link.hitWatermark = true
  | _, _, _ => True

instance : watermarkCatches.Checked := fun link _ move => by
  unfold watermarkCatches
  split
  · cases link.posted.head? with
    | none => exact .isTrue (by simp)
    | some posted =>
        cases posted with
        | writeCompleted => exact .isTrue (by simp)
        | enqueueWrite buffer =>
            exact decidable_of_iff (link.strandBusy = false → buffer.refused = true →
              link.maxBuffer ≤ link.bufferBytes + buffer.size ∨ link.hitWatermark = true) (by simp)
  · exact .isTrue trivial

end Invariant

section Steps
variable {link after : Link} {act : LinkAct} {new : List LinkAct} {others : Multiset LinkAct}

theorem has_onStrand {kind : LinkAct → Bool} (part : ∀ act, kind act = true → onStrand act = 1)
    {bag : Multiset LinkAct} (silent : weigh onStrand bag = 0) : ¬ Has kind bag := by
  rintro ⟨act, member, found⟩
  have heavy : onStrand act ≤ weigh onStrand bag := weight_le_weigh member
  rw [part act found, silent] at heavy
  omega

theorem landed_onStrand (act : LinkAct) (found : landed act = true) : onStrand act = 1 := by
  simp [onStrand, found]

theorem calling_landed {act : LinkAct} (found : calling act = true) : landed act = true := by
  simp [landed, found]

theorem answering_landed {act : LinkAct} (found : answering act = true) : landed act = true := by
  simp [landed, found]

theorem taking_answering {act : LinkAct} (found : taking act = true) : answering act = true := by
  unfold taking at found
  split at found <;> first | rfl | cases found

theorem Watched.aside (watched : Watched link (act ::ₘ others))
    (ends : after.writeOpen = link.writeOpen ∧ after.ackOpen = link.ackOpen)
    (parts : after.strandBusy = link.strandBusy ∧ after.writeInProgress = link.writeInProgress ∧
      after.inFlight = link.inFlight ∧ after.bufferBytes = link.bufferBytes ∧
      after.queue = link.queue ∧ after.hitWatermark = link.hitWatermark)
    (writable : owing isWritable after.log = owing isWritable link.log)
    (taken : owing isTaken after.log = true → owing isTaken link.log = true)
    (off : onStrand act = 0) (none_new : weigh onStrand (↑new : Multiset LinkAct) = 0) :
    Watched after (↑new + others) := by
  obtain ⟨busy, progress, flight, bytes, queue, watermark⟩ := parts
  have split_bag : ∀ kind : LinkAct → Bool, (∀ act, kind act = true → landed act = true) →
      (Has kind (↑new + others) ↔ Has kind (act ::ₘ others)) := by
    intro kind part
    have heavy : ∀ act, kind act = true → onStrand act = 1 := fun act found =>
      landed_onStrand act (part act found)
    have quiet : kind act = false := by
      cases found : kind act with
      | false => rfl
      | true =>
          rw [heavy act found] at off
          cases off
    have silent : new.any kind = false := by
      have absent := has_onStrand heavy none_new
      simpa [Has] using absent
    rw [has_add, has_cons, quiet, silent]
  have landings := split_bag landed fun _ => id
  have calls := split_bag calling fun _ => calling_landed
  have answers := split_bag answering fun _ => answering_landed
  have takes := split_bag taking fun _ found => answering_landed (taking_answering found)
  refine ⟨?_, ?_, ?_, ?_, ?_, ?_, ?_, ?_⟩
  · rw [ends.1, ends.2]
    exact watched.open_ends
  · have strand := watched.strand
    rw [weigh_cons, off, zero_add] at strand
    rw [weigh_add, none_new, zero_add, strand, busy]
  · rw [progress, flight]
    exact watched.idle
  · rw [bytes, queue, flight]
    exact watched.counted
  · rw [landings, flight]
    exact watched.accounted
  · rw [writable, watermark, bytes, calls]
    exact watched.awaited
  · rw [answers, writable]
    exact watched.answered
  · intro owed
    rw [writable, takes]
    exact watched.released (taken owed)

theorem Watched.alone (watched : Watched link (act ::ₘ others)) (mine : onStrand act = 1) :
    link.strandBusy = true ∧ weigh onStrand others = 0 := by
  have strand := watched.strand
  rw [weigh_cons, mine] at strand
  split at strand
  · next busy => exact ⟨busy, by omega⟩
  · omega

theorem Watched.handler (alone : weigh onStrand others = 0)
    (open_ends : after.writeOpen = true ∧ after.ackOpen = true)
    (strand : weigh onStrand (↑new : Multiset LinkAct) = if after.strandBusy then 1 else 0)
    (idle : after.writeInProgress = false → after.inFlight = none)
    (counted : after.bufferBytes = (after.queue.map WriteBuffer.size).sum +
      after.inFlight.elim 0 WriteBuffer.size)
    (accounted : new.any landed = true → after.inFlight = none)
    (awaited : owing isWritable after.log = true →
      (after.hitWatermark = true ∧ 0 < after.bufferBytes) ∨ new.any calling = true)
    (answered : new.any answering = true → owing isWritable after.log = false)
    (released : owing isTaken after.log = true →
      owing isWritable after.log = true ∨ new.any taking = true) :
    Watched after (↑new + others) := by
  have silent : ∀ kind : LinkAct → Bool, (∀ act, kind act = true → landed act = true) →
      (Has kind (↑new + others) ↔ new.any kind = true) := by
    intro kind part
    have absent : ¬ Has kind others :=
      has_onStrand (fun act found => landed_onStrand act (part act found)) alone
    rw [has_add]
    exact or_iff_left absent
  refine ⟨open_ends, ?_, idle, counted, ?_, ?_, ?_, ?_⟩
  · rw [weigh_add, alone, add_zero, strand]
  · rw [silent landed fun _ => id]
    exact accounted
  · rw [silent calling fun _ => calling_landed]
    exact awaited
  · rw [silent answering fun _ => answering_landed]
    exact answered
  · rw [silent taking fun _ found => answering_landed (taking_answering found)]
    exact released

/-- Between `on_writable` and the watermark only the handler's next action changes. -/
theorem Watched.answers {next : LinkAct} (watched : Watched link (act ::ₘ others))
    (now : answering act = true) (then_ : answering next = true) (log : List LinkObs)
    (writable : owing isWritable log = owing isWritable link.log)
    (taken : owing isTaken log = true → owing isTaken link.log = true)
    (still : taking act = true → owing isTaken log = true → taking next = true)
    (sinceAck : Nat) (retryArmed : Bool) :
    Watched { link with sinceAck, retryArmed, log } (↑[next] + others) := by
  have mine := landed_onStrand act (answering_landed now)
  obtain ⟨busy, alone⟩ := watched.alone mine
  have none_in_flight := watched.accounted ((has_cons _ _ _).mpr (.inl (answering_landed now)))
  have settled := watched.answered ((has_cons _ _ _).mpr (.inl now))
  have settled_now : owing isWritable log = false := writable.trans settled
  refine Watched.handler alone watched.open_ends ?_ watched.idle watched.counted
    (fun _ => none_in_flight) ?_ (fun _ => settled_now) ?_
  · have weight : weigh onStrand (↑[next] : Multiset LinkAct) = onStrand next :=
      weigh_singleton onStrand next
    rw [weight, landed_onStrand next (answering_landed then_), if_pos busy]
  · intro owed
    rw [settled_now] at owed
    cases owed
  · intro owed
    rcases watched.released (taken owed) with waiting | pending
    · rw [settled] at waiting
      cases waiting
    · rw [has_cons] at pending
      rcases pending with this | other
      · exact .inr (by simp [still this owed])
      · exact absurd other (has_onStrand
          (fun act found => landed_onStrand act (answering_landed (taking_answering found))) alone)

theorem Watched.waits_for (watched : Watched link (act ::ₘ others))
    (alone : weigh onStrand others = 0) (other : calling act = false)
    (owed : owing isWritable link.log = true) : link.hitWatermark = true ∧ 0 < link.bufferBytes := by
  rcases watched.awaited owed with waiting | pending
  · exact waiting
  · rw [has_cons, other] at pending
    exact absurd (pending.resolve_left (by simp))
      (has_onStrand (fun act found => landed_onStrand act (calling_landed found)) alone)

theorem Watched.releases_for (watched : Watched link (act ::ₘ others))
    (alone : weigh onStrand others = 0) (other : taking act = false)
    (owed : owing isTaken link.log = true) : owing isWritable link.log = true := by
  rcases watched.released owed with waiting | pending
  · exact waiting
  · rw [has_cons, other] at pending
    exact absurd (pending.resolve_left (by simp)) (has_onStrand
      (fun act found => landed_onStrand act (answering_landed (taking_answering found))) alone)

theorem doWriteLocked_counted (flight : link.inFlight = none)
    (counted : link.bufferBytes = (link.queue.map WriteBuffer.size).sum) :
    (doWriteLocked link).bufferBytes =
      ((doWriteLocked link).queue.map WriteBuffer.size).sum +
        (doWriteLocked link).inFlight.elim 0 WriteBuffer.size ∧
    ((doWriteLocked link).writeInProgress = false → (doWriteLocked link).inFlight = none) := by
  unfold doWriteLocked
  split
  · next empty =>
      rw [empty] at counted
      exact ⟨by simp [flight, counted, empty], fun _ => flight⟩
  · next front rest queue =>
      rw [queue] at counted
      refine ⟨?_, by simp⟩
      simp [counted, add_comm]

theorem doWriteLocked_keeps (link : Link) :
    (doWriteLocked link).log = link.log ∧ (doWriteLocked link).hitWatermark = link.hitWatermark ∧
      (doWriteLocked link).bufferBytes = link.bufferBytes ∧
      (doWriteLocked link).strandBusy = link.strandBusy ∧
      (doWriteLocked link).writeOpen = link.writeOpen ∧
      (doWriteLocked link).ackOpen = link.ackOpen := by
  unfold doWriteLocked
  split <;> exact ⟨rfl, rfl, rfl, rfl, rfl, rfl⟩

theorem enqueue_watched {buffer : WriteBuffer} (watched : Watched link others)
    (alone : weigh onStrand others = 0)
    (caught : buffer.refused = true →
      link.maxBuffer ≤ link.bufferBytes + buffer.size ∨ link.hitWatermark = true) :
    Watched (enqueueWriteLocked link buffer) others := by
  have uncalled : ¬ Has calling others :=
    has_onStrand (fun act found => landed_onStrand act (calling_landed found)) alone
  have untaken : ¬ Has taking others := has_onStrand
    (fun act found => landed_onStrand act (answering_landed (taking_answering found))) alone
  have unlanded : ¬ Has landed others := has_onStrand landed_onStrand alone
  have unanswered : ¬ Has answering others :=
    has_onStrand (fun act found => landed_onStrand act (answering_landed found)) alone
  unfold enqueueWriteLocked
  split
  · exact watched
  · next filled =>
      have positive : 0 < buffer.size := Nat.pos_of_ne_zero filled
      set queued := Link.note { link with
        bufferBytes := link.bufferBytes + buffer.size
        hitWatermark := link.hitWatermark || decide (link.maxBuffer ≤ link.bufferBytes + buffer.size)
        queue := link.queue ++ [buffer] } (.enqueued buffer) with queued_eq
      have awaited : owing isWritable queued.log = true →
          queued.hitWatermark = true ∧ 0 < queued.bufferBytes := by
        intro owed
        refine ⟨?_, Nat.add_pos_right _ positive⟩
        cases refused : buffer.refused with
        | true =>
            rcases caught refused with full | still
            · simp [queued_eq, full]
            · simp [queued_eq, still]
        | false =>
            simp only [queued_eq, Link.note_log, owing, refusedEnqueue, refused, isWritable,
              Bool.false_eq_true, if_false] at owed
            rcases watched.awaited owed with ⟨marked, _⟩ | pending
            · simp [queued_eq, marked]
            · exact absurd pending uncalled
      have released : owing isTaken queued.log = true → owing isWritable queued.log = true := by
        intro owed
        cases refused : buffer.refused with
        | true => simp [queued_eq, owing, refusedEnqueue, refused]
        | false =>
            simp only [queued_eq, Link.note_log, owing, refusedEnqueue, refused, isTaken, isWritable,
              Bool.false_eq_true, if_false] at owed ⊢
            exact (watched.released owed).resolve_right untaken
      split
      · refine ⟨watched.open_ends, watched.strand, watched.idle, ?_, fun pending => absurd pending
          unlanded, fun owed => .inl (awaited owed), fun pending => absurd pending unanswered,
          fun owed => .inl (released owed)⟩
        have counted := watched.counted
        simp only [Link.note, List.map_append, List.map_cons, List.map_nil,
          List.sum_append, List.sum_cons, List.sum_nil]
        omega
      · next resting =>
          have flight : link.inFlight = none := watched.idle (by simpa using resting)
          have total : queued.bufferBytes = (queued.queue.map WriteBuffer.size).sum := by
            have counted := watched.counted
            rw [flight] at counted
            simp [queued_eq, counted]
          have quiet : queued.inFlight = none := flight
          obtain ⟨counted, idle⟩ := doWriteLocked_counted quiet total
          obtain ⟨log, watermark, bytes, busy, writes, acks⟩ := doWriteLocked_keeps queued
          refine ⟨?_, ?_, idle, counted, fun pending => absurd pending unlanded, ?_,
            fun pending => absurd pending unanswered, ?_⟩
          · rw [writes, acks]
            exact watched.open_ends
          · rw [busy]
            exact watched.strand
          · rw [log, watermark, bytes]
            exact fun owed => .inl (awaited owed)
          · rw [log]
            exact fun owed => .inl (released owed)

theorem ackAnswer_watched {credit : Nat} {caller : AckCaller} (choice : SendOutcome)
    (watched : Watched link (.ackAnswer credit caller ::ₘ others)) :
    Watched (execLink choice link (.ackAnswer credit caller)).1
      (↑(execLink choice link (.ackAnswer credit caller)).2 + others) := by
  simp only [execLink]
  cases caller with
  | writable =>
      cases choice with
      | sendqFull | permanentFail =>
          exact watched.answers rfl rfl link.log rfl id (fun taking _ => by cases taking)
            _ link.retryArmed
      | sent =>
          dsimp only
          split <;>
            exact watched.answers rfl rfl (.acked (ackValue credit) :: link.log) rfl id
              (fun taking _ => by cases taking) link.sinceAck link.retryArmed
  | frame | timer =>
      cases choice with
      | sendqFull | permanentFail =>
          exact watched.aside ⟨rfl, rfl⟩ ⟨rfl, rfl, rfl, rfl, rfl, rfl⟩ rfl id rfl rfl
      | sent =>
          dsimp only
          split <;> exact watched.aside ⟨rfl, rfl⟩ ⟨rfl, rfl, rfl, rfl, rfl, rfl⟩ rfl id rfl rfl

theorem strandNext_watched (choice : SendOutcome)
    (allowed : watermarkCatches link others (.act choice .strandNext))
    (watched : Watched link (.strandNext ::ₘ others)) :
    Watched (execLink choice link .strandNext).1
      (↑(execLink choice link .strandNext).2 + others) := by
  have strand := watched.strand
  rw [weigh_cons, show onStrand .strandNext = 0 from rfl, zero_add] at strand
  have rest_watched : Watched link others := by
    have dropped : Watched link (↑([] : List LinkAct) + others) :=
      watched.aside ⟨rfl, rfl⟩ ⟨rfl, rfl, rfl, rfl, rfl, rfl⟩ rfl id rfl rfl
    rwa [show (↑([] : List LinkAct) : Multiset LinkAct) + others = others from zero_add others]
      at dropped
  simp only [execLink]
  split
  · exact watched.aside ⟨rfl, rfl⟩ ⟨rfl, rfl, rfl, rfl, rfl, rfl⟩ rfl id rfl rfl
  · next free =>
      have free : link.strandBusy = false := by simpa using free
      have alone : weigh onStrand others = 0 := by simpa [free] using strand
      split
      · exact watched.aside ⟨rfl, rfl⟩ ⟨rfl, rfl, rfl, rfl, rfl, rfl⟩ rfl id rfl rfl
      · next buffer rest posted =>
          have popped : Watched { link with posted := rest } others :=
            ⟨rest_watched.open_ends, rest_watched.strand, rest_watched.idle,
              rest_watched.counted, rest_watched.accounted, rest_watched.awaited,
              rest_watched.answered, rest_watched.released⟩
          have caught := allowed buffer (by rw [posted]; rfl) free
          rw [if_pos popped.open_ends.1]
          have enqueued := enqueue_watched popped alone caught
          rwa [show (↑([] : List LinkAct) : Multiset LinkAct) + others = others from
            zero_add others]
      · next rest posted =>
          refine Watched.handler alone rest_watched.open_ends rfl rest_watched.idle
            rest_watched.counted (fun mine => by cases mine) ?_ (fun mine => by cases mine) ?_
          · intro owed
            exact (rest_watched.awaited owed).imp_right fun pending => absurd pending
              (has_onStrand (fun act found => landed_onStrand act (calling_landed found)) alone)
          · intro owed
            exact (rest_watched.released owed).imp_right fun pending => absurd pending
              (has_onStrand (fun act found => landed_onStrand act
                (answering_landed (taking_answering found))) alone)

theorem writeCompleted_watched (choice : SendOutcome)
    (watched : Watched link (.writeCompleted ::ₘ others)) :
    Watched (execLink choice link .writeCompleted).1
      (↑(execLink choice link .writeCompleted).2 + others) := by
  obtain ⟨busy, alone⟩ := watched.alone rfl
  have awaited := watched.waits_for alone rfl
  have released := watched.releases_for alone rfl
  simp only [execLink]
  split
  · next flight =>
      exact Watched.handler alone watched.open_ends (by rw [busy]; rfl) watched.idle
        watched.counted (fun _ => flight) (fun owed => .inl (awaited owed))
        (fun mine => by cases mine) (fun owed => .inl (released owed))
  · next buffer flight =>
      have counted := watched.counted
      rw [flight, Option.elim_some] at counted
      have remaining : link.bufferBytes - buffer.size =
          (link.queue.map WriteBuffer.size).sum := by omega
      split
      · exact Watched.handler alone watched.open_ends (by rw [Link.note_strandBusy, busy]; rfl)
          (fun _ => rfl) remaining (fun _ => rfl) (fun _ => .inr rfl)
          (fun mine => by cases mine) (fun owed => .inl (released owed))
      · next above =>
          refine Watched.handler alone watched.open_ends (by rw [Link.note_strandBusy, busy]; rfl)
            (fun _ => rfl) remaining (fun _ => rfl) (fun owed => .inl ?_)
            (fun mine => by cases mine) (fun owed => .inl (released owed))
          -- The last buffer of a marked queue always takes the other branch.
          obtain ⟨marked, _⟩ := awaited owed
          refine ⟨marked, ?_⟩
          simp only [marked, Bool.true_and, decide_eq_true_eq, not_le] at above
          exact Nat.lt_of_le_of_lt (Nat.zero_le _) above

theorem settleWatermark_watched {flushed : Bool} (choice : SendOutcome)
    (watched : Watched link (.settleWatermark flushed ::ₘ others)) :
    Watched (execLink choice link (.settleWatermark flushed)).1
      (↑(execLink choice link (.settleWatermark flushed)).2 + others) := by
  obtain ⟨busy, alone⟩ := watched.alone rfl
  have none_in_flight := watched.accounted ((has_cons _ _ _).mpr (.inl rfl))
  have settled := watched.answered ((has_cons _ _ _).mpr (.inl rfl))
  have released := watched.releases_for alone rfl
  simp only [execLink]
  split <;>
    exact Watched.handler alone watched.open_ends (by rw [busy]; rfl) watched.idle
      watched.counted (fun _ => none_in_flight) (fun owed => absurd owed (by simp [settled]))
      (fun _ => settled) (fun owed => .inl (released owed))

theorem doWrite_watched (choice : SendOutcome)
    (watched : Watched link (.doWrite ::ₘ others)) :
    Watched (execLink choice link .doWrite).1 (↑(execLink choice link .doWrite).2 + others) := by
  obtain ⟨busy, alone⟩ := watched.alone rfl
  have none_in_flight := watched.accounted ((has_cons _ _ _).mpr (.inl rfl))
  have total := watched.counted
  rw [none_in_flight] at total
  obtain ⟨counted, idle⟩ := doWriteLocked_counted none_in_flight total
  obtain ⟨log, watermark, bytes, _, writes, acks⟩ := doWriteLocked_keeps link
  refine Watched.handler alone ?_ rfl idle counted (fun mine => by cases mine) ?_
    (fun mine => by cases mine) ?_
  · have ends := watched.open_ends
    rw [← writes, ← acks] at ends
    exact ends
  · intro owed
    have owed : owing isWritable (doWriteLocked link).log = true := owed
    rw [log] at owed
    have waiting := watched.waits_for alone rfl owed
    rw [← watermark, ← bytes] at waiting
    exact .inl waiting
  · intro owed
    have owed : owing isTaken (doWriteLocked link).log = true := owed
    rw [log] at owed
    have waiting := watched.releases_for alone rfl owed
    rw [← log] at waiting
    exact .inl waiting

theorem link_watched (choice : SendOutcome) (act : LinkAct)
    (allowed : watermarkCatches link others (.act choice act))
    (watched : Watched link (act ::ₘ others)) :
    Watched (execLink choice link act).1 (↑(execLink choice link act).2 + others) := by
  cases act with
  | handleData payload =>
      simp only [execLink]
      split <;> exact watched.aside ⟨rfl, rfl⟩ ⟨rfl, rfl, rfl, rfl, rfl, rfl⟩ rfl id rfl rfl
  | countReceived payload | writePost payload full | setMaxWriteBufferSize bytes =>
      exact watched.aside ⟨rfl, rfl⟩ ⟨rfl, rfl, rfl, rfl, rfl, rfl⟩ rfl id rfl rfl
  | write payload =>
      simp only [execLink]
      (repeat' split) <;>
        exact watched.aside ⟨rfl, rfl⟩ ⟨rfl, rfl, rfl, rfl, rfl, rfl⟩ rfl id rfl rfl
  | writeReturned accepted =>
      simp only [execLink]
      split <;> exact watched.aside ⟨rfl, rfl⟩ ⟨rfl, rfl, rfl, rfl, rfl, rfl⟩ rfl id rfl rfl
  | maybeSendAck =>
      simp only [execLink]
      split <;> exact watched.aside ⟨rfl, rfl⟩ ⟨rfl, rfl, rfl, rfl, rfl, rfl⟩ rfl id rfl rfl
  | sendAck caller =>
      have live := watched.open_ends.2
      simp only [execLink, live, Bool.not_true, Bool.false_eq_true, if_false]
      cases caller with
      | writable =>
          exact watched.answers rfl rfl link.log rfl id (fun _ _ => rfl) link.sinceAck link.retryArmed
      | frame | timer =>
          exact watched.aside ⟨rfl, rfl⟩ ⟨rfl, rfl, rfl, rfl, rfl, rfl⟩ rfl id rfl rfl
  | takeAckCredit caller =>
      simp only [execLink]
      cases caller with
      | writable =>
          split <;>
            exact watched.answers rfl rfl (.creditTaken link.sinceAck :: link.log) rfl
              (fun owed => by cases owed) (fun _ owed => by cases owed) 0 link.retryArmed
      | frame | timer =>
          split <;> exact watched.aside ⟨rfl, rfl⟩ ⟨rfl, rfl, rfl, rfl, rfl, rfl⟩ rfl
            (fun owed => by cases owed) rfl rfl
  | ackAnswer credit caller => exact ackAnswer_watched choice watched
  | armAckRetry caller =>
      simp only [execLink]
      cases caller with
      | writable =>
          split <;> exact watched.answers rfl rfl link.log rfl id (fun taking _ => by cases taking)
            link.sinceAck _
      | frame | timer =>
          split <;> exact watched.aside ⟨rfl, rfl⟩ ⟨rfl, rfl, rfl, rfl, rfl, rfl⟩ rfl id rfl rfl
  | ackReturned flushed caller =>
      cases caller with
      | writable =>
          exact watched.answers rfl rfl link.log rfl id (fun taking _ => by cases taking)
            link.sinceAck link.retryArmed
      | frame | timer =>
          exact watched.aside ⟨rfl, rfl⟩ ⟨rfl, rfl, rfl, rfl, rfl, rfl⟩ rfl id rfl rfl
  | socketCompletes =>
      simp only [execLink]
      split <;> exact watched.aside ⟨rfl, rfl⟩ ⟨rfl, rfl, rfl, rfl, rfl, rfl⟩ rfl id rfl rfl
  | ackTimerFired =>
      simp only [execLink]
      split <;> exact watched.aside ⟨rfl, rfl⟩ ⟨rfl, rfl, rfl, rfl, rfl, rfl⟩ rfl id rfl rfl
  | strandNext => exact strandNext_watched choice allowed watched
  | writeCompleted => exact writeCompleted_watched choice watched
  | callOnWritable =>
      obtain ⟨busy, alone⟩ := watched.alone rfl
      have none_in_flight := watched.accounted ((has_cons _ _ _).mpr (.inl rfl))
      refine Watched.handler alone watched.open_ends (by simp [execLink, busy]; rfl) watched.idle
        watched.counted (fun _ => none_in_flight) ?_ (fun _ => rfl) (fun _ => .inr rfl)
      intro owed
      cases owed
  | settleWatermark flushed => exact settleWatermark_watched choice watched
  | doWrite => exact doWrite_watched choice watched

theorem Watched.called (watched : Watched link others)
    (none_new : weigh onStrand (↑new : Multiset LinkAct) = 0) : Watched link (↑new + others) := by
  have same : ∀ kind : LinkAct → Bool, (∀ act, kind act = true → landed act = true) →
      (Has kind (↑new + others) ↔ Has kind others) := by
    intro kind part
    have absent := has_onStrand (fun act found => landed_onStrand act (part act found)) none_new
    have silent : new.any kind = false := by simpa [Has] using absent
    simp [has_add, silent]
  refine ⟨watched.open_ends, ?_, watched.idle, watched.counted, ?_, ?_, ?_, ?_⟩
  · rw [weigh_add, none_new, zero_add, watched.strand]
  · rw [same landed fun _ => id]
    exact watched.accounted
  · rw [same calling fun _ => calling_landed]
    exact watched.awaited
  · rw [same answering fun _ => answering_landed]
    exact watched.answered
  · rw [same taking fun _ found => answering_landed (taking_answering found)]
    exact watched.released

end Steps

section Runs
variable {config : Config Link LinkAct}

theorem reach_watched (reached : Reach linkProgram watermarkCatches FreshLink config) :
    Watched config.shared config.bag := by
  refine reached.bag_invariant Watched ?_ ?_ ?_
  · rintro link ⟨ackThreshold, maxBuffer, halfClosed, rfl⟩
    constructor <;> simp [Link.writeOpen, Link.ackOpen, owing]
  · intro link bag op watched _
    cases op <;> exact watched.called rfl
  · intro choice link act others watched allowed
    exact link_watched choice act allowed watched

/-- In every such run, when the socket has nothing left to write and no handler
runs on the strand, each refused write has had its `on_writable` after its enqueue,
and the ACK credit was taken after it. -/
theorem refused_write_released (reached : Reach linkProgram watermarkCatches FreshLink config)
    (drained : config.shared.queue = [] ∧ config.shared.inFlight = none)
    (resting : config.shared.strandBusy = false) {newer older : List LinkObs} {buffer : WriteBuffer}
    (enqueued : config.shared.log = newer ++ .enqueued buffer :: older)
    (refused : buffer.refused = true) :
    .writable ∈ newer ∧ ∃ credit, .creditTaken credit ∈ newer := by
  have watched := reach_watched reached
  have alone : weigh onStrand config.bag = 0 := by simpa [resting] using watched.strand
  have empty : config.shared.bufferBytes = 0 := by
    have counted := watched.counted
    rw [drained.1, drained.2] at counted
    exact counted
  have called : owing isWritable config.shared.log = false := by
    by_contra owed
    rcases watched.awaited (by simpa using owed) with ⟨_, positive⟩ | pending
    · omega
    · exact has_onStrand (fun act found => landed_onStrand act (calling_landed found)) alone pending
  have taken : owing isTaken config.shared.log = false := by
    by_contra owed
    rcases watched.released (by simpa using owed) with waiting | pending
    · rw [called] at waiting
      cases waiting
    · exact has_onStrand (fun act found => landed_onStrand act
        (answering_landed (taking_answering found))) alone pending
  rw [enqueued] at called taken
  constructor
  · obtain ⟨answer, member, writable⟩ := answered_of_not_owing called refused
    cases answer <;> first | exact member | cases writable
  · obtain ⟨answer, member, credit⟩ := answered_of_not_owing taken refused
    cases answer <;> first | exact ⟨_, member⟩ | cases credit

/-- A refused write that meets the limit again when it is enqueued. -/
theorem refused_write_released_caught :
    ∃ (config : Config Link LinkAct) (newer older : List LinkObs) (buffer : WriteBuffer),
      Reach linkProgram watermarkCatches FreshLink config ∧
      config.shared.log = newer ++ .enqueued buffer :: older ∧ buffer.refused = true ∧
      .writable ∈ newer := by
  let schedule : List (Event LinkOp SendOutcome) := List.flatten
    [[.call (.handleData (List.replicate 8 0))], List.replicate 10 (.run 0 .sent),
     [.call .strandNext, .run 1 .sent], [.call (.handleData (List.replicate 5 1))],
     List.replicate 5 (.run 2 .sent), [.call .strandNext, .run 3 .sent],
     [.call .socketCompletes, .run 4 .sent, .call .strandNext], List.replicate 9 (.run 5 .sent),
     [.call .socketCompletes, .run 6 .sent, .call .strandNext], List.replicate 3 (.run 7 .sent)]
  have run := Reach.exists_of_replay linkProgram watermarkCatches FreshLink
    { ackThreshold := 1, maxBuffer := 10 } schedule
    (fun config => decide (config.shared.queue = [] ∧ config.shared.inFlight = none ∧
      config.shared.strandBusy = false ∧
      .enqueued { bytes := List.replicate 5 1, refused := true } ∈ config.shared.log))
    ⟨1, 10, false, rfl⟩ (by decide)
  obtain ⟨config, reached, met⟩ := run
  obtain ⟨queue, flight, resting, logged⟩ := of_decide_eq_true met
  obtain ⟨newer, older, split⟩ := List.append_of_mem logged
  exact ⟨config, newer, older, _, reached, split, rfl,
    (refused_write_released reached ⟨queue, flight⟩ resting split rfl).1⟩

/-- The queue drains between the decision of a write and its enqueue: the write
was refused, the watermark stays low, and nobody calls `on_writable`. -/
theorem refused_write_stranded_reachable :
    ∃ config, Reach linkProgram always FreshLink config ∧ config.bag = 0 ∧
      config.shared.posted = [] ∧ config.shared.queue = [] ∧ config.shared.inFlight = none ∧
      config.shared.strandBusy = false ∧ config.shared.retryArmed = false ∧
      .wrote (List.replicate 5 1) false ∈ config.shared.log ∧ .writable ∉ config.shared.log ∧
      config.shared.sinceAck = 5 ∧ config.shared.ackThreshold ≤ config.shared.sinceAck := by
  let schedule : List (Event LinkOp SendOutcome) := List.flatten
    [[.call (.handleData (List.replicate 8 0))], List.replicate 10 (.run 0 .sent),
     [.call .strandNext, .run 1 .sent], [.call (.handleData (List.replicate 5 1))],
     List.replicate 3 (.run 2 .sent), [.call .socketCompletes, .run 3 .sent, .call .strandNext],
     List.replicate 3 (.run 4 .sent), List.replicate 2 (.run 2 .sent),
     [.call .strandNext, .run 5 .sent], [.call .socketCompletes, .run 6 .sent, .call .strandNext],
     List.replicate 3 (.run 7 .sent)]
  have run := Reach.exists_of_replay linkProgram always FreshLink
    { ackThreshold := 1, maxBuffer := 10 } schedule
    (fun config => decide (config.bag = 0 ∧
      config.shared.posted = [] ∧ config.shared.queue = [] ∧ config.shared.inFlight = none ∧
      config.shared.strandBusy = false ∧ config.shared.retryArmed = false ∧
      .wrote (List.replicate 5 1) false ∈ config.shared.log ∧ .writable ∉ config.shared.log ∧
      config.shared.sinceAck = 5 ∧ config.shared.ackThreshold ≤ config.shared.sinceAck))
    ⟨1, 10, false, rfl⟩ (by decide)
  obtain ⟨config, reached, met⟩ := run
  exact ⟨config, reached, of_decide_eq_true met⟩

end Runs

end ToxTunnel.TcpWrite
