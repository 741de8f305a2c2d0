import ToxTunnel.TcpWrite

/-!
`TcpConnection` with both directions, from an adopted socket to its close.
Public calls post their work; `start_read` and `cancel_peer_close_watch` run at
once when the caller is on the strand. The strand runs the posted handlers and the
completions of the socket's operations one at a time, in order. A handler is
one step, cut where it calls back into the consumer.
-/

namespace ToxTunnel.TcpConnection
open Interleaving TunnelState
open TcpWrite (ConnectionState)

section Model

/-- `WriteBuffer`: an owned vector, or a view of a buffer owned elsewhere. -/
inductive WriteBuffer where
  | data (bytes : Bytes)
  | view (bytes : Bytes)
  deriving DecidableEq

def WriteBuffer.bytes : WriteBuffer → Bytes
  | .data bytes | .view bytes => bytes

def WriteBuffer.size (buffer : WriteBuffer) : Nat := buffer.bytes.length

inductive ErrorCode where
  | eof | connectionReset | operationAborted | wouldBlock | noBufferSpace | ioError | other
  deriving DecidableEq

/-- Which path ran `do_close`; the code does not keep it. -/
inductive Cause where
  | graceful | forced | writeError | readEnd | fault
  deriving DecidableEq

/-- Handlers queued on `strand_`, completions included. -/
inductive Task where
  | enqueueWrite (buffer : WriteBuffer)
  | close
  | shutdownSend
  | forceClose (reset : Bool)
  | startRead
  | watchPeerClose
  | cancelPeerCloseWatch
  | doRead
  | connected
  | writeCompleted (buffer : WriteBuffer) (failed : Bool)
  | readCompleted (data : Bytes) (error : Option ErrorCode)
  | waitCompleted (error : Option ErrorCode)
  deriving DecidableEq

inductive Obs where
  | writePosted (buffer : WriteBuffer)
  | writeReturned (accepted : Bool)
  | shutdownPosted
  | enqueued (buffer : WriteBuffer)
  | handed (buffer : WriteBuffer)
  | written (buffer : WriteBuffer)
  | writable
  | sendShutdown
  | closing
  | socketClosed (cause : Cause) (abortive : Bool)
  | disconnected (error : Option ErrorCode)
  | ownerClosed
  | errorNotified
  | watchPosted
  | startPosted
  | readStarted
  | delivered (data : Bytes)
  | finHeld (holdback : Bytes)
  | readEof
  deriving DecidableEq

/-- The members of the write path. `outstanding` are the buffers inside
`async_write`. -/
structure SendSide where
  bufferBytes : Int := 0
  maxBuffer : Nat := 1024 * 1024
  hitWatermark : Bool := false
  writeInProgress : Bool := false
  queue : List WriteBuffer := []
  outstanding : List WriteBuffer := []
  shutdownRequested : Bool := false
  shutdownDone : Bool := false
  deriving DecidableEq

inductive PeerEnd where
  | fin | reset
  deriving DecidableEq

/-- The members of the read path, and behind them the kernel: the peer's stream
so far, the part of it nobody has read, and how it ended. `reads` and `waits`
are the operations the socket has not completed. -/
structure ReadSide where
  closed : Bool := false
  inFlight : Bool := false
  paused : Bool := false
  watchActive : Bool := false
  watchInFlight : Bool := false
  holdback : Bytes := []
  closePending : Bool := false
  stream : Bytes := []
  arrived : Bytes := []
  peerEnd : Option PeerEnd := none
  reads : Nat := 0
  waits : Nat := 0
  deriving DecidableEq

structure Conn where
  state : ConnectionState := .connected
  socketOpen : Bool := true
  send : SendSide := {}
  read : ReadSide := {}
  posted : List Task := []
  strandBusy : Bool := false
  log : List Obs := []
  deriving DecidableEq

/-- The log is newest first. -/
@[simps]
def Conn.note (conn : Conn) (obs : Obs) : Conn := { conn with log := obs :: conn.log }

def Conn.post (conn : Conn) (task : Task) : Conn := { conn with posted := conn.posted ++ [task] }

/-- The calls whose place among the others a statement looks at. -/
def Conn.noteCall (conn : Conn) : Task → Conn
  | .shutdownSend => conn.note .shutdownPosted
  | .watchPeerClose => conn.note .watchPosted
  | .startRead => conn.note .startPosted
  | _ => conn

/-- A call that a consumer makes from inside a callback. On the strand these run at
once instead of being posted. -/
inductive Inside where
  | nothing | startRead | cancelPeerCloseWatch
  deriving DecidableEq

/-- What the socket and the consumer's callbacks answer. -/
structure Choice where
  inside : Inside := .nothing
  flushed : Bool := true
  throws : Bool := false
  eofHook : Bool := true
  shutdownFails : Bool := false
  lingerFails : Bool := false
  writeFails : Bool := false
  readFails : Bool := false
  joinsEnd : Bool := false
  wouldBlock : Bool := false
  waitFails : Bool := false
  availableFails : Bool := false
  arrivesLate : Bool := false
  modeFails : Bool := false
  count : Nat := 0
  deriving DecidableEq

def kPeerCloseHoldbackCap : Nat := 64 * 1024

def queuedBytes (buffers : List WriteBuffer) : Nat := (buffers.map WriteBuffer.size).sum

def doClose (conn : Conn) (cause : Cause) (error : Option ErrorCode) (abortive : Bool := false) :
    Conn :=
  if conn.state = .disconnected then conn
  else
    let shut := if conn.socketOpen then
      { conn with socketOpen := false }.note (.socketClosed cause abortive) else conn
    ({ shut with
      state := .disconnected
      send := { shut.send with
        bufferBytes := shut.send.bufferBytes - queuedBytes shut.send.queue
        queue := []
        writeInProgress := false
        shutdownRequested := true
        shutdownDone := true }
      read := { shut.read with closed := true } }.note (.disconnected error)).note .ownerClosed

def closeOnCallbackFault (conn : Conn) : Conn :=
  if conn.state = .disconnected then conn
  else doClose { conn with state := .disconnecting } .fault (some .ioError)

def doForceClose (choice : Choice) (conn : Conn) (reset : Bool) : Conn :=
  if conn.state = .disconnected then conn
  else
    let abortive := reset && conn.socketOpen && !choice.lingerFails
    doClose { conn with send := { conn.send with
      bufferBytes := conn.send.bufferBytes - queuedBytes conn.send.queue, queue := [] } }
      .forced (some .operationAborted) abortive

def maybeShutdownSendLocked (choice : Choice) (conn : Conn) : Conn :=
  if !conn.send.shutdownRequested || conn.send.shutdownDone || conn.send.writeInProgress ||
      !conn.send.queue.isEmpty || !conn.socketOpen then conn
  else if choice.shutdownFails then (conn.note .sendShutdown).note .errorNotified
  else { conn with send := { conn.send with shutdownDone := true } }.note .sendShutdown

def doWrite (choice : Choice) (conn : Conn) : Conn :=
  match conn.send.queue with
  | [] =>
      let drained := maybeShutdownSendLocked choice
        { conn with send := { conn.send with writeInProgress := false } }
      if drained.state = .disconnecting then doClose drained .graceful none else drained
  | front :: rest =>
      { conn with send := { conn.send with
        writeInProgress := true, queue := rest
        outstanding := conn.send.outstanding ++ [front] } }.note (.handed front)

def enqueueWriteLocked (choice : Choice) (conn : Conn) (buffer : WriteBuffer) : Conn :=
  if buffer.size = 0 then conn
  else
    let total := conn.send.bufferBytes + buffer.size
    let queued := { conn with send := { conn.send with
      bufferBytes := total
      hitWatermark := conn.send.hitWatermark || decide ((conn.send.maxBuffer : Int) ≤ total)
      queue := conn.send.queue ++ [buffer] } }.note (.enqueued buffer)
    if queued.send.writeInProgress then queued else doWrite choice queued

def doRead (conn : Conn) : Conn :=
  if conn.state ≠ .connected ∨ conn.read.closed ∨ conn.read.paused ∨ conn.read.inFlight then conn
  else { conn with read := { conn.read with inFlight := true, reads := conn.read.reads + 1 } }

/-- `do_watch_peer_close` up to its `async_wait`. -/
def doWatchPeerClose (conn : Conn) : Conn :=
  if !conn.read.watchActive ∨ conn.state ≠ .connected ∨ conn.read.closed ∨ conn.read.inFlight ∨
      conn.read.watchInFlight then conn
  else { conn with read := { conn.read with watchInFlight := true, waits := conn.read.waits + 1 } }

/-- A synchronous `read_some` of at most `want` bytes. -/
def readSome (choice : Choice) (read : ReadSide) (want : Nat) :
    ReadSide × Bytes × Option ErrorCode :=
  if choice.wouldBlock then (read, [], some .wouldBlock)
  else if choice.readFails then (read, [], some .other)
  else match read.arrived, read.peerEnd with
    | [], none => (read, [], some .wouldBlock)
    | [], some .fin => (read, [], some .eof)
    | [], some .reset => (read, [], some .connectionReset)
    | arrived, _ =>
        let size := min want (choice.count + 1)
        ({ read with arrived := arrived.drop size }, arrived.take size, none)

/-- What the wait handler makes of a readable socket. -/
inductive Verdict where
  | again (read : ReadSide)
  | overflow
  | ended (read : ReadSide) (error : Option ErrorCode)

/-- The bytes that `read_some` returned are banked, whatever its error. -/
def bank (read : ReadSide) (got : Bytes) : Option ErrorCode → Verdict
  | none | some .wouldBlock => .again { read with holdback := read.holdback ++ got }
  | some .eof => .ended { read with holdback := read.holdback ++ got } none
  | some error => .ended { read with holdback := read.holdback ++ got } (some error)

def judgeReadable (choice : Choice) (read : ReadSide) : Verdict :=
  -- A failed available() counts as a clean end, and so does a socket that cannot be probed.
  if choice.availableFails then .ended read none
  else if !read.arrived.isEmpty && !choice.arrivesLate then
    if kPeerCloseHoldbackCap ≤ read.holdback.length then .overflow
    else
      let room := kPeerCloseHoldbackCap - read.holdback.length
      let (after, got, error) := readSome choice read (min read.arrived.length room)
      bank after got error
  else if choice.modeFails then .ended read none
  else
    let (after, got, error) := readSome choice read 1
    bank after got error

/-- The end of the wait handler, behind its verdict. -/
def finishWatch (conn : Conn) (error : Option ErrorCode) : Conn :=
  let stood := { conn with read := { conn.read with watchActive := false } }
  if error = none ∧ conn.read.holdback ≠ [] then
    { stood with read := { stood.read with closePending := true, closed := true } }.note
      (.finHeld conn.read.holdback)
  else doClose { stood with state := .disconnecting, read := { stood.read with holdback := [] } }
    .readEnd error

/-- The end of `start_read`'s handler, behind the holdback. -/
def finishStartRead (choice : Choice) (conn : Conn) : Conn :=
  if conn.read.closePending then
    let taken := { conn with read := { conn.read with closePending := false } }
    if taken.state ≠ .connected then taken
    else if choice.eofHook then taken.note .readEof
    else doClose { taken with state := .disconnecting } .readEnd none
  else doRead conn

/-- The end of the read handler, behind `on_data_`. -/
def finishRead (choice : Choice) (conn : Conn) : Option ErrorCode → Conn
  | none => doRead conn
  | some .eof =>
      let ended := { conn with read := { conn.read with closed := true } }
      if choice.eofHook then ended.note .readEof
      else if ended.state = .connected then
        doClose { ended with state := .disconnecting } .readEnd (some .eof)
      else ended
  | some error =>
      let told := if error = .connectionReset ∨ error = .operationAborted then conn
        else conn.note .errorNotified
      if told.state = .connected then
        doClose { told with state := .disconnecting } .readEnd (some error)
      else told

inductive Callback where
  | onConnect
  | onWritable
  | onHoldback
  | onData (error : Option ErrorCode)
  | onReplay (outer : Callback)
  deriving DecidableEq

inductive Act where
  | write (buffer : WriteBuffer)
  | writeGate (buffer : WriteBuffer)
  | writeMeasure (buffer : WriteBuffer)
  | writePost (buffer : WriteBuffer) (full : Bool)
  | post (task : Task)
  | pauseRead
  | resumeRead
  | setMaxWriteBufferSize (bytes : Nat)
  | strandNext
  | callOnConnect
  | callOnWritable
  | holdbackReturned
  | dataReturned (error : Option ErrorCode)
  | replayReturned (outer : Callback)
  | writeCompletes
  | readCompletes
  | waitCompletes
  | peerSends (data : Bytes)
  | peerEnds (ended : PeerEnd) (discards : Bool)
  deriving DecidableEq

def Callback.cut : Callback → Act
  | .onConnect => .callOnConnect
  | .onWritable => .callOnWritable
  | .onHoldback => .holdbackReturned
  | .onData error => .dataReturned error
  | .onReplay outer => .replayReturned outer

/-- One handler of the strand, up to the consumer callback it waits for. -/
def runTask (choice : Choice) (conn : Conn) : Task → Conn × List Act
  | .enqueueWrite buffer =>
      if conn.state ≠ .connected ∧ conn.state ≠ .disconnecting then (conn, [])
      else if conn.send.shutdownRequested then (conn, [])
      else (enqueueWriteLocked choice conn buffer, [])
  | .close =>
      if conn.state = .disconnected then (conn, [])
      else
        let leaving := { conn with state := .disconnecting }.note .closing
        (if !leaving.send.writeInProgress && leaving.send.queue.isEmpty then
          doClose leaving .graceful none else leaving, [])
  | .shutdownSend =>
      if conn.state = .disconnected then (conn, [])
      else (maybeShutdownSendLocked choice
        { conn with send := { conn.send with shutdownRequested := true } }, [])
  | .forceClose reset => (doForceClose choice conn reset, [])
  | .startRead =>
      let taken := { conn with read := { conn.read with watchActive := false } }
      if taken.state ≠ .connected then (taken, [])
      else
        let started := taken.note .readStarted
        if taken.read.holdback = [] then (finishStartRead choice started, [])
        else ({ started with read := { started.read with holdback := [] } }.note
          (.delivered taken.read.holdback), [.holdbackReturned])
  | .watchPeerClose =>
      (doWatchPeerClose { conn with read := { conn.read with watchActive := true } }, [])
  | .cancelPeerCloseWatch => ({ conn with read := { conn.read with watchActive := false } }, [])
  | .doRead => (doRead conn, [])
  | .connected => (conn, [.callOnConnect])
  | .writeCompleted buffer failed =>
      let refunded := conn.send.bufferBytes - buffer.size
      if failed then
        let told := { conn with send := { conn.send with
          writeInProgress := false, bufferBytes := refunded } }.note .errorNotified
        let leaving := if told.state = .connected then { told with state := .disconnecting }
          else told
        (doClose leaving .writeError (some .other), [])
      else
        let settled := { conn with send := { conn.send with bufferBytes := refunded } }.note
          (.written buffer)
        if settled.send.hitWatermark ∧ refunded ≤ (settled.send.maxBuffer / 2 : Nat) then
          (settled.note .writable, [.callOnWritable])
        else (doWrite choice settled, [])
  | .readCompleted data error =>
      let landed := { conn with read := { conn.read with inFlight := false } }
      if data ≠ [] ∧ error ≠ some .operationAborted then
        (landed.note (.delivered data), [.dataReturned error])
      else (finishRead choice landed error, [])
  | .waitCompleted error =>
      let landed := { conn with read := { conn.read with watchInFlight := false } }
      if error = some .operationAborted ∨ !landed.read.watchActive ∨ landed.state ≠ .connected then
        (landed, [])
      else match error with
        | some error => (finishWatch landed (some error), [])
        | none =>
            match judgeReadable choice landed.read with
            | .again read => (doWatchPeerClose { landed with read := read }, [])
            | .overflow =>
                (doClose { landed with
                  state := .disconnecting
                  read := { landed.read with watchActive := false, holdback := [] } }
                  .readEnd (some .noBufferSpace), [])
            | .ended read error => (finishWatch { landed with read := read } error, [])

/-- `async_read_some` completes: the next bytes, the end, or both at once. -/
def completeRead (choice : Choice) (socketOpen : Bool) (read : ReadSide) :
    Option (ReadSide × Bytes × Option ErrorCode) :=
  if read.reads = 0 then none
  else
    let popped := { read with reads := read.reads - 1 }
    if !socketOpen then some (popped, [], some .operationAborted)
    else if choice.readFails then some (popped, [], some .other)
    else
      let ending := read.peerEnd.map fun
        | .fin => ErrorCode.eof
        | .reset => .connectionReset
      match read.arrived with
      | [] => ending.map fun error => (popped, [], some error)
      | arrived =>
          let size := choice.count + 1
          some ({ popped with arrived := arrived.drop size }, arrived.take size,
            if choice.joinsEnd && (arrived.drop size).isEmpty then ending else none)

def startReadInside (choice : Choice) (conn : Conn) (callback : Callback) : Conn × List Act :=
  let after := runTask choice (conn.note .startPosted) .startRead
  (after.1, [if after.2.isEmpty then callback.cut else .replayReturned callback])

/-- A callback makes one of the calls that run at once, or returns. -/
def runCallback (choice : Choice) (conn : Conn) (callback : Callback) (returned : Conn × List Act) :
    Conn × List Act :=
  match choice.inside with
  | .nothing => returned
  | .startRead => startReadInside choice conn callback
  | .cancelPeerCloseWatch =>
      ({ conn with read := { conn.read with watchActive := false } }, [callback.cut])

def Conn.free (conn : Conn) : Conn × List Act := ({ conn with strandBusy := false }, [])

def exec (choice : Choice) (conn : Conn) : Act → Conn × List Act
  | .write buffer =>
      if conn.state ≠ .connected ∧ conn.state ≠ .disconnecting then
        (conn.note (.writeReturned false), [])
      else (conn, [.writeGate buffer])
  | .writeGate buffer =>
      if conn.send.shutdownRequested then (conn.note (.writeReturned false), [])
      else if buffer.size = 0 then (conn.note (.writeReturned true), [])
      else (conn, [.writeMeasure buffer])
  | .writeMeasure buffer =>
      (conn, [.writePost buffer
        (decide ((conn.send.maxBuffer : Int) < conn.send.bufferBytes + buffer.size))])
  | .writePost buffer full =>
      (((conn.post (.enqueueWrite buffer)).note (.writePosted buffer)).note
        (.writeReturned !full), [])
  | .post task => ((conn.post task).noteCall task, [])
  | .pauseRead => ({ conn with read := { conn.read with paused := true } }, [])
  | .resumeRead =>
      ({ conn with read := { conn.read with paused := false } },
        if conn.read.paused then [.post .doRead] else [])
  | .setMaxWriteBufferSize bytes =>
      ({ conn with send := { conn.send with maxBuffer := bytes } }, [])
  | .strandNext =>
      if conn.strandBusy then (conn, [])
      else match conn.posted with
        | [] => (conn, [])
        | task :: rest =>
            let after := runTask choice { conn with posted := rest } task
            ({ after.1 with strandBusy := !after.2.isEmpty }, after.2)
  | .callOnConnect => runCallback choice conn .onConnect conn.free
  | .callOnWritable =>
      runCallback choice conn .onWritable
        (if choice.throws then (closeOnCallbackFault conn).free
        else (doWrite choice (if choice.flushed then
          { conn with send := { conn.send with hitWatermark := false } } else conn)).free)
  | .holdbackReturned =>
      runCallback choice conn .onHoldback
        (finishStartRead choice (if choice.throws then closeOnCallbackFault conn else conn)).free
  | .dataReturned error =>
      runCallback choice conn (.onData error)
        (if choice.throws then (closeOnCallbackFault conn).free
        else (finishRead choice conn error).free)
  | .replayReturned outer =>
      runCallback choice conn (.onReplay outer)
        (finishStartRead choice (if choice.throws then closeOnCallbackFault conn else conn),
          [outer.cut])
  | .writeCompletes =>
      match conn.send.outstanding with
      | [] => (conn, [])
      | buffer :: rest =>
          ({ conn with send := { conn.send with outstanding := rest } }.post
            (.writeCompleted buffer (choice.writeFails || !conn.socketOpen)), [])
  | .readCompletes =>
      match completeRead choice conn.socketOpen conn.read with
      | none => (conn, [])
      | some (read, data, error) => ({ conn with read := read }.post (.readCompleted data error), [])
  | .waitCompletes =>
      if conn.read.waits = 0 then (conn, [])
      else
        let error := if !conn.socketOpen then some ErrorCode.operationAborted
          else if choice.waitFails then some .other else none
        ({ conn with read := { conn.read with waits := conn.read.waits - 1 } }.post
          (.waitCompleted error), [])
  | .peerSends data =>
      if conn.read.peerEnd.isSome then (conn, [])
      else ({ conn with read := { conn.read with
        stream := conn.read.stream ++ data, arrived := conn.read.arrived ++ data } }, [])
  | .peerEnds ended discards =>
      if conn.read.peerEnd.isSome then (conn, [])
      else ({ conn with read := { conn.read with
        peerEnd := some ended
        arrived := if ended = .reset ∧ discards then [] else conn.read.arrived } }, [])

/-- The public calls, and what the socket, the peer and the strand's workers do. -/
inductive Op where
  | write (data : Bytes)
  | writeVector (data : Bytes)
  | writeView (data : Bytes)
  | shutdownSend
  | close
  | forceClose
  | abort
  | startRead
  | watchPeerClose
  | cancelPeerCloseWatch
  | pauseRead
  | resumeRead
  | setMaxWriteBufferSize (bytes : Nat)
  | strandNext
  | writeCompletes
  | readCompletes
  | waitCompletes
  | peerSends (data : Bytes)
  | peerEnds (ended : PeerEnd) (discards : Bool)
  deriving DecidableEq

def start : Op → List Act
  | .write data => [.write (.data data)]
  | .writeVector data => [.write (.data data)]
  | .writeView data => [.write (.view data)]
  | .shutdownSend => [.post .shutdownSend]
  | .close => [.post .close]
  | .forceClose => [.post (.forceClose false)]
  | .abort => [.post (.forceClose true)]
  | .startRead => [.post .startRead]
  | .watchPeerClose => [.post .watchPeerClose]
  | .cancelPeerCloseWatch => [.post .cancelPeerCloseWatch]
  | .pauseRead => [.pauseRead]
  | .resumeRead => [.resumeRead]
  | .setMaxWriteBufferSize bytes => [.setMaxWriteBufferSize bytes]
  | .strandNext => [.strandNext]
  | .writeCompletes => [.writeCompletes]
  | .readCompletes => [.readCompletes]
  | .waitCompletes => [.waitCompletes]
  | .peerSends data => [.peerSends data]
  | .peerEnds ended discards => [.peerEnds ended discards]

def connectionProgram : Program Conn Act Op Choice where
  start := start
  exec := exec

/-- An adopted socket, or one whose connect handler is about to call back: connected,
nothing read or written. -/
def Adopted (conn : Conn) : Prop :=
  ∃ maxBuffer, conn = { send := { maxBuffer } } ∨
    conn = { send := { maxBuffer }, posted := [.connected] }

end Model

end ToxTunnel.TcpConnection
