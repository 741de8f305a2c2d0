import ToxTunnel.TcpWritePath

/-!
The read path of a connection: the peer-close watch reads ahead into the holdback
until `start_read` takes the socket over, and the read loop goes on from there.
Two readers never meet, because a watch that starts late finds the first read in
flight, or a `start_read` behind it on the strand.
-/

namespace ToxTunnel.TcpReadPath
open Interleaving TcpConnection
open TunnelState (Bytes)
open TcpWrite (ConnectionState)

section View

def readEvent : Obs → Bool
  | .watchPosted | .startPosted | .readStarted | .delivered _ | .finHeld _ | .readEof => true
  | _ => false

def readTask : Task → Bool
  | .startRead | .watchPeerClose | .cancelPeerCloseWatch | .doRead | .readCompleted _ _
  | .waitCompleted _ => true
  | _ => false

def isReadDone : Task → Bool
  | .readCompleted _ _ => true
  | _ => false

def isWaitDone : Task → Bool
  | .waitCompleted _ => true
  | _ => false

def isStart : Task → Bool
  | .startRead => true
  | _ => false

def isDoRead : Task → Bool
  | .doRead => true
  | _ => false

/-- What `on_data_` was given, in order; the log is newest first. -/
def deliveredBytes : List Obs → Bytes
  | [] => []
  | .delivered data :: older => deliveredBytes older ++ data
  | _ :: older => deliveredBytes older

/-- What completed reads have brought to the strand. -/
def landedBytes : List Task → Bytes
  | [] => []
  | .readCompleted data _ :: rest => data ++ landedBytes rest
  | _ :: rest => landedBytes rest

/-- No watch is queued behind the first `start_read`. -/
def watchFirst : List Task → Bool
  | [] => true
  | .startRead :: rest => decide (.watchPeerClose ∉ rest)
  | _ :: rest => watchFirst rest

/-- With these handlers ahead, no completed wait finds the watch active. `waiting`
says that a wait may be outstanding by then. -/
def calm (active waiting inFlight : Bool) : List Task → Bool
  | [] => !(active && waiting)
  | .startRead :: rest | .cancelPeerCloseWatch :: rest => calm false waiting inFlight rest
  | .watchPeerClose :: rest => calm true (waiting || !inFlight) inFlight rest
  | .waitCompleted _ :: rest => !active && calm active waiting inFlight rest
  | .readCompleted _ _ :: rest => calm active waiting false rest
  | _ :: rest => calm active waiting inFlight rest

/-- The part of a connection that the read path depends on. -/
structure Reader where
  state : ConnectionState
  socketOpen : Bool
  read : ReadSide
  tasks : List Task
  events : List Obs

def reader (conn : Conn) : Reader where
  state := conn.state
  socketOpen := conn.socketOpen
  read := conn.read
  tasks := conn.posted.filter readTask
  events := conn.log.filter readEvent

theorem reader_note (conn : Conn) {obs : Obs} (seen : readEvent obs = true) :
    reader (conn.note obs) = { reader conn with events := obs :: (reader conn).events } := by
  simp [reader, seen]

theorem reader_unseen (conn : Conn) {obs : Obs} (unseen : readEvent obs = false) :
    reader (conn.note obs) = reader conn := by
  simp [reader, unseen]

/-- `do_close` as the read path sees it. -/
def Reader.close (reader : Reader) : Reader :=
  { reader with
    state := .disconnected, socketOpen := false, read := { reader.read with closed := true } }

/-- What the write side does to it: at most the connection closes. -/
inductive Left (before : Reader) : Reader → Prop where
  | same : Left before before
  | leaving : before.state ≠ .disconnected →
      Left before { before with state := .disconnecting }
  | closed : before.state ≠ .disconnected → Left before before.close

variable {conn : Conn} {choice : Choice}

theorem reader_doClose (cause : Cause) (error : Option ErrorCode) (abortive : Bool)
    (live : conn.state ≠ .disconnected) :
    reader (doClose conn cause error abortive) = (reader conn).close := by
  unfold doClose
  rw [if_neg live]
  by_cases opened : conn.socketOpen = true
  · simp [reader, Reader.close, opened, readEvent]
  · simp [reader, Reader.close, opened, readEvent]

theorem doClose_left (cause : Cause) (error : Option ErrorCode) (abortive : Bool) :
    Left (reader conn) (reader (doClose conn cause error abortive)) := by
  by_cases ended : conn.state = .disconnected
  · rw [doClose, if_pos ended]
    exact .same
  · rw [reader_doClose cause error abortive ended]
    exact .closed ended

theorem reader_leave (cause : Cause) (error : Option ErrorCode) :
    reader (doClose { conn with state := .disconnecting } cause error) = (reader conn).close := by
  rw [reader_doClose cause error false]
  · rfl
  · simp

theorem Left.of_reader {before after : Conn} (same : reader after = reader before) :
    Left (reader before) (reader after) := by
  rw [same]
  exact .same

theorem maybeShutdown_reader (choice : Choice) :
    reader (maybeShutdownSendLocked choice conn) = reader conn := by
  unfold maybeShutdownSendLocked
  split
  · rfl
  · split
    · simp [reader, readEvent]
    · simp [reader, readEvent]

theorem doWrite_left (choice : Choice) : Left (reader conn) (reader (doWrite choice conn)) := by
  unfold doWrite
  split
  · have same := @maybeShutdown_reader
      { conn with send := { conn.send with writeInProgress := false } } choice
    dsimp only
    split
    · have closes := @doClose_left (maybeShutdownSendLocked choice
        { conn with send := { conn.send with writeInProgress := false } }) .graceful none false
      rw [same] at closes
      exact closes
    · rw [same]
      exact .same
  · apply Left.of_reader
    simp [reader, readEvent]

theorem enqueueWrite_left (choice : Choice) (buffer : WriteBuffer) :
    Left (reader conn) (reader (enqueueWriteLocked choice conn buffer)) := by
  unfold enqueueWriteLocked
  split
  · exact .same
  · dsimp only
    split
    · apply Left.of_reader
      simp [reader, readEvent]
    · have writes := @doWrite_left ({ conn with send := { conn.send with
        bufferBytes := conn.send.bufferBytes + buffer.size
        hitWatermark := conn.send.hitWatermark ||
          decide ((conn.send.maxBuffer : Int) ≤ conn.send.bufferBytes + buffer.size)
        queue := conn.send.queue ++ [buffer] } }.note (.enqueued buffer)) choice
      have same : reader ({ conn with send := { conn.send with
          bufferBytes := conn.send.bufferBytes + buffer.size
          hitWatermark := conn.send.hitWatermark ||
            decide ((conn.send.maxBuffer : Int) ≤ conn.send.bufferBytes + buffer.size)
          queue := conn.send.queue ++ [buffer] } }.note (.enqueued buffer)) = reader conn := by
        simp [reader, readEvent]
      rw [same] at writes
      exact writes

theorem doForceClose_left (choice : Choice) (reset : Bool) :
    Left (reader conn) (reader (doForceClose choice conn reset)) := by
  unfold doForceClose
  split
  · exact .same
  · exact @doClose_left { conn with send := { conn.send with
      bufferBytes := conn.send.bufferBytes - queuedBytes conn.send.queue, queue := [] } } _ _ _

theorem runTask_left (choice : Choice) {task : Task} (aside : readTask task = false) :
    Left (reader conn) (reader (runTask choice conn task).1) := by
  cases task with
  | enqueueWrite buffer =>
      simp only [runTask]
      split
      · exact .same
      · split
        · exact .same
        · exact enqueueWrite_left choice buffer
  | close =>
      simp only [runTask]
      split
      · exact .same
      · next live =>
          have noted : reader ({ conn with state := .disconnecting }.note .closing) =
              { reader conn with state := .disconnecting } := by
            simp [reader, readEvent]
          split
          · rw [reader_doClose _ _ _ (by simp), noted]
            exact .closed live
          · rw [noted]
            exact .leaving live
  | shutdownSend =>
      simp only [runTask]
      split
      · exact .same
      · apply Left.of_reader
        rw [maybeShutdown_reader]
        rfl
  | forceClose reset => exact doForceClose_left choice reset
  | connected => exact .same
  | writeCompleted buffer failed =>
      have settled : reader ({ conn with send := { conn.send with
          bufferBytes := conn.send.bufferBytes - buffer.size } }.note (.written buffer)) =
          reader conn := by
        simp [reader, readEvent]
      cases failed with
      | true =>
          simp only [runTask, if_true]
          by_cases connected : conn.state = .connected
          · have live : (reader conn).state ≠ .disconnected := by simp [reader, connected]
            have closes : (reader conn).close = reader (runTask choice conn
                (.writeCompleted buffer true)).1 := by
              simp only [runTask, if_true, Conn.note_state, connected]
              rw [reader_leave]
              simp [reader, Reader.close, readEvent]
            simp only [runTask, if_true] at closes
            rw [← closes]
            exact .closed live
          · simp only [Conn.note_state, connected, if_false]
            have closes := @doClose_left ({ conn with send := { conn.send with
              writeInProgress := false
              bufferBytes := conn.send.bufferBytes - buffer.size } }.note .errorNotified)
              .writeError (some .other) false
            have told : reader ({ conn with send := { conn.send with
                writeInProgress := false
                bufferBytes := conn.send.bufferBytes - buffer.size } }.note .errorNotified) =
                reader conn := by
              simp [reader, readEvent]
            rw [told] at closes
            exact closes
      | false =>
          simp only [runTask, Bool.false_eq_true, if_false]
          split
          · apply Left.of_reader
            simp [reader, readEvent]
          · have writes := @doWrite_left ({ conn with send := { conn.send with
              bufferBytes := conn.send.bufferBytes - buffer.size } }.note (.written buffer)) choice
            rw [settled] at writes
            exact writes
  | _ => cases aside

end View

attribute [local simp] landedBytes deliveredBytes watchFirst calm

section Queue
variable {tasks : List Task} {task : Task} {active waiting inFlight : Bool}

theorem landedBytes_append (first second : List Task) :
    landedBytes (first ++ second) = landedBytes first ++ landedBytes second := by
  induction first with
  | nil => rfl
  | cons task rest ih => cases task <;> simp [ih]

theorem landedBytes_none (none : tasks.countP isReadDone = 0) : landedBytes tasks = [] := by
  induction tasks with
  | nil => rfl
  | cons task rest ih =>
      rw [List.countP_cons] at none
      cases task with
      | readCompleted data error => simp [isReadDone] at none
      | _ => exact ih (Nat.eq_zero_of_add_eq_zero none).1

theorem watchFirst_of_none (none : .watchPeerClose ∉ tasks) : watchFirst tasks = true := by
  induction tasks with
  | nil => rfl
  | cons task rest ih =>
      have later : .watchPeerClose ∉ rest := fun member => none (List.mem_cons_of_mem _ member)
      cases task with
      | startRead => simpa using later
      | _ => exact ih later

theorem watchFirst_tail (first : watchFirst (task :: tasks) = true) : watchFirst tasks = true := by
  cases task with
  | startRead =>
      apply watchFirst_of_none
      simpa using first
  | _ => exact first

theorem watchFirst_append (first : watchFirst tasks = true)
    (order : task = .watchPeerClose → .startRead ∉ tasks) : watchFirst (tasks ++ [task]) = true := by
  induction tasks with
  | nil => cases task <;> simp
  | cons head rest ih =>
      have later := ih (watchFirst_tail first) fun same member =>
        order same (List.mem_cons_of_mem _ member)
      cases head with
      | startRead =>
          have other : Task.watchPeerClose ≠ task := fun same => order same.symm List.mem_cons_self
          simpa [other] using first
      | _ => exact later

theorem fenced_tail (apart : isStart task = false) (order : fenced isStart isDoRead (task :: tasks) = true) :
    isDoRead task = false ∧ fenced isStart isDoRead tasks = true := by
  simpa [fenced, apart] using order

theorem fenced_post (order : fenced isStart isDoRead tasks = true)
    (behind : isDoRead task = true → .startRead ∈ tasks) :
    fenced isStart isDoRead (tasks ++ [task]) = true := by
  induction tasks with
  | nil =>
      have plain : isDoRead task = false := by
        by_contra reads
        simpa using behind (by simpa using reads)
      simp [fenced, plain]
  | cons head rest ih =>
      by_cases starts : isStart head = true
      · simp only [fenced, starts, Bool.true_or, Bool.and_true] at order
        simp [fenced, starts, order]
      · obtain ⟨apart, later⟩ := fenced_tail (by simpa using starts) order
        have goes := ih later fun reads => by
          rcases List.mem_cons.mp (behind reads) with same | member
          · rw [← same] at starts
            exact absurd rfl starts
          · exact member
        simp [fenced, apart, goes]

theorem calm_mono {active' waiting' inFlight' : Bool} (quieter : active' = true → active = true)
    (fewer : waiting' = true → waiting = true) (reads : inFlight = true → inFlight' = true)
    (before : calm active waiting inFlight tasks = true) :
    calm active' waiting' inFlight' tasks = true := by
  induction tasks generalizing active waiting inFlight active' waiting' inFlight' with
  | nil =>
      revert quieter fewer before
      simp only [calm]
      cases active <;> cases waiting <;> cases active' <;> cases waiting' <;> simp
  | cons task rest ih =>
      cases task with
      | startRead | cancelPeerCloseWatch => exact ih id fewer reads before
      | watchPeerClose =>
          refine ih id ?_ reads before
          revert fewer reads
          cases waiting <;> cases waiting' <;> cases inFlight <;> cases inFlight' <;> simp
      | waitCompleted error =>
          simp only [calm, Bool.and_eq_true, Bool.not_eq_true'] at before ⊢
          refine ⟨?_, ih quieter fewer reads before.2⟩
          by_contra on
          have was := quieter (by simpa using on)
          rw [before.1] at was
          cases was
      | readCompleted data error => exact ih quieter fewer id before
      | _ => exact ih quieter fewer reads before

theorem calm_of_none (none : .watchPeerClose ∉ tasks) : calm false waiting inFlight tasks = true := by
  induction tasks generalizing waiting inFlight with
  | nil => rfl
  | cons task rest ih =>
      have later : .watchPeerClose ∉ rest := fun member => none (List.mem_cons_of_mem _ member)
      cases task with
      | watchPeerClose => exact absurd List.mem_cons_self none
      | waitCompleted error => simp [ih later]
      | _ => exact ih later

theorem calm_of_reading (waits : tasks.countP isWaitDone = 0) (reads : tasks.countP isReadDone = 0) :
    calm active false true tasks = true := by
  induction tasks generalizing active with
  | nil => simp
  | cons task rest ih =>
      rw [List.countP_cons] at waits reads
      have later := @ih
      cases task with
      | waitCompleted error => simp [isWaitDone] at waits
      | readCompleted data error => simp [isReadDone] at reads
      | _ => exact ih (Nat.eq_zero_of_add_eq_zero waits).1 (Nat.eq_zero_of_add_eq_zero reads).1

/-- A `start_read` behind the watch stands it down before its wait completes. -/
theorem calm_of_start (waits : tasks.countP isWaitDone = 0) (first : watchFirst tasks = true)
    (starts : .startRead ∈ tasks) : calm active waiting inFlight tasks = true := by
  induction tasks generalizing active waiting inFlight with
  | nil => cases starts
  | cons task rest ih =>
      rw [List.countP_cons] at waits
      have none := (Nat.eq_zero_of_add_eq_zero waits).1
      cases task with
      | startRead =>
          apply calm_of_none
          simpa using first
      | waitCompleted error => simp [isWaitDone] at waits
      | _ => exact ih none (watchFirst_tail first) (by simpa using starts)

theorem calm_append (apart : task ≠ .watchPeerClose ∧ isWaitDone task = false)
    (before : calm active waiting inFlight tasks = true) :
    calm active waiting inFlight (tasks ++ [task]) = true := by
  induction tasks generalizing active waiting inFlight with
  | nil =>
      cases task with
      | watchPeerClose => exact absurd rfl apart.1
      | waitCompleted error => cases apart.2
      | startRead | cancelPeerCloseWatch => rfl
      | _ => exact before
  | cons head rest ih =>
      cases head with
      | waitCompleted error =>
          simp only [calm, Bool.and_eq_true] at before
          simp [before.1, ih before.2]
      | _ => exact ih before

theorem calm_wait (error : Option ErrorCode) (before : calm active true inFlight tasks = true) :
    calm active waiting inFlight (tasks ++ [.waitCompleted error]) = true := by
  induction tasks generalizing active waiting inFlight with
  | nil =>
      have off : active = false := by simpa using before
      simp [off]
  | cons head rest ih =>
      cases head with
      | watchPeerClose =>
          simp only [List.cons_append, calm, Bool.true_or] at before ⊢
          exact ih before
      | waitCompleted other =>
          simp only [calm, Bool.and_eq_true] at before
          simp [before.1, ih before.2]
      | _ => exact ih before

end Queue

section Invariant

/-- The watch has not run: nothing was read ahead. -/
structure Unwatched (r : Reader) : Prop where
  inactive : r.read.watchActive = false
  unarmed : r.read.watchInFlight = false
  empty : r.read.holdback = []
  settled : r.read.closePending = false
  unseen : ∀ held, .finHeld held ∉ r.events

/-- A FIN seen behind held-back bytes: they are still held, or delivered. -/
structure FinKept (r : Reader) (held : Bytes) : Prop where
  closed : r.read.closed = true
  unread : r.read.inFlight = false
  unarmed : r.read.watchInFlight = false
  kept : (r.read.holdback = held ∧ held ≠ [] ∧ r.read.closePending = true ∧
    .readEof ∉ r.events) ∨ .delivered held ∈ r.events

/-- What was delivered, is held back, or has landed on the strand. -/
def Reader.received (r : Reader) : Bytes :=
  deliveredBytes r.events ++ r.read.holdback ++ landedBytes r.tasks

structure Core (r : Reader) : Prop where
  order : r.received <+: r.read.stream
  whole : r.socketOpen = true → r.received ++ r.read.arrived = r.read.stream ∨
    (r.read.arrived = [] ∧ r.read.peerEnd.isSome = true)
  opened : r.state ≠ .disconnected → r.socketOpen = true
  aborted : ∀ data, .readCompleted data (some .operationAborted) ∈ r.tasks → data = []
  reads : r.read.reads + r.tasks.countP isReadDone = r.read.inFlight.toNat
  waits : r.read.waits + r.tasks.countP isWaitDone = r.read.watchInFlight.toNat
  called : .readStarted ∈ r.events → .startPosted ∈ r.events
  calledFirst : ∀ older, .readStarted :: older <:+ r.events → .startPosted ∈ older
  startedFirst : ∀ data older, .delivered data :: older <:+ r.events → .readStarted ∈ older
  quiet : .readStarted ∉ r.events → r.read.inFlight = false ∧ .readEof ∉ r.events
  emptied : .readStarted ∈ r.events → r.read.holdback = []
  paused : r.read.paused = true → .startPosted ∈ r.events
  once : r.tasks.count .watchPeerClose ≤ 1
  watched : .watchPeerClose ∈ r.tasks → .watchPosted ∈ r.events ∧ Unwatched r
  unwatched : .watchPosted ∉ r.events → Unwatched r
  first : watchFirst r.tasks = true
  closedWhy : r.state = .connected → r.read.closed = true →
    .readEof ∈ r.events ∨ r.read.closePending = true
  kept : ∀ held, .finHeld held ∈ r.events → FinKept r held
  told : ∀ held, .finHeld held ∈ r.events → r.state = .connected →
    r.read.closePending = true ∨ .readEof ∈ r.events
  eofOnce : ∀ held, .finHeld held ∈ r.events →
    r.events.count .readEof + r.read.closePending.toNat ≤ 1
  pendingHeld : r.read.closePending = true → ∃ held, .finHeld held ∈ r.events
  eofLast : ∀ older, .readEof :: older <:+ r.events →
    ∀ held, .finHeld held ∈ r.events → .delivered held ∈ older

/-- A `start_read` that was called has run, or is on its way. -/
def Pending (r : Reader) : Prop :=
  .startPosted ∈ r.events → r.state = .connected → .readStarted ∈ r.events ∨ .startRead ∈ r.tasks

/-- Until reading starts, no `do_read` is ahead of the first `start_read`. -/
def Fenced (r : Reader) : Prop :=
  r.state = .connected → .readStarted ∉ r.events → fenced isStart isDoRead r.tasks = true

/-- The read loop owns the socket: no wait that completes finds the watch active. -/
def Calm (r : Reader) : Prop :=
  .readStarted ∈ r.events → r.state = .connected →
    calm r.read.watchActive (decide (0 < r.read.waits)) r.read.inFlight r.tasks = true

/-- The read loop goes on: a read is out, or somebody will look again. -/
def Flowing (r : Reader) (someone : Prop) : Prop :=
  .readStarted ∈ r.events → r.state = .connected → .readEof ∉ r.events → r.read.paused = false →
    r.read.inFlight = true ∨ .doRead ∈ r.tasks ∨ someone

/-- A FIN behind delivered bytes waits for its report. -/
def Replaying (r : Reader) (someone : Prop) : Prop :=
  .readStarted ∈ r.events → r.state = .connected → r.read.closePending = true → someone

variable {r after : Reader} {someone : Prop}

theorem Left.connected (left : Left r after) (connected : after.state = .connected) : after = r := by
  cases left with
  | same => rfl
  | leaving _ | closed _ => cases connected

theorem Core.left (left : Left r after) (core : Core r) : Core after := by
  cases left with
  | same => exact core
  | leaving live =>
      exact { core with
        opened := fun _ => core.opened live
        closedWhy := nofun
        told := nofun
        watched := fun member => ⟨(core.watched member).1, { (core.watched member).2 with }⟩
        unwatched := fun none => { core.unwatched none with }
        kept := fun held member => { core.kept held member with } }
  | closed live =>
      exact { core with
        whole := nofun
        opened := fun alive => absurd rfl alive
        closedWhy := nofun
        told := nofun
        watched := fun member => ⟨(core.watched member).1, { (core.watched member).2 with }⟩
        unwatched := fun none => { core.unwatched none with }
        kept := fun held member => { core.kept held member with closed := rfl } }

/-- What `do_close` leaves, from any state of the read side with nothing held back. -/
theorem Core.close (core : Core r) : Core r.close :=
  { core with
    whole := nofun
    opened := fun alive => absurd rfl alive
    closedWhy := nofun
    told := nofun
    watched := fun member => ⟨(core.watched member).1, { (core.watched member).2 with }⟩
    unwatched := fun none => { core.unwatched none with }
    kept := fun held member => { core.kept held member with closed := rfl } }

theorem Pending.left (left : Left r after) (pending : Pending r) : Pending after := by
  intro called connected
  obtain rfl := left.connected connected
  exact pending called connected

theorem Fenced.left (left : Left r after) (order : Fenced r) : Fenced after := by
  intro connected
  obtain rfl := left.connected connected
  exact order connected

theorem Calm.left (left : Left r after) (calm : Calm r) : Calm after := by
  intro begun connected
  obtain rfl := left.connected connected
  exact calm begun connected

theorem Flowing.left (left : Left r after) (flowing : Flowing r someone) : Flowing after someone := by
  intro begun connected
  obtain rfl := left.connected connected
  exact flowing begun connected

theorem Replaying.left (left : Left r after) (replaying : Replaying r someone) :
    Replaying after someone := by
  intro begun connected
  obtain rfl := left.connected connected
  exact replaying begun connected

/-- The queue once handlers at its front have run. -/
structure Behind (tasks rest : List Task) : Prop where
  sub : ∀ task ∈ rest, task ∈ tasks
  watches : rest.count .watchPeerClose ≤ tasks.count .watchPeerClose
  first : watchFirst tasks = true → watchFirst rest = true

theorem Behind.refl (tasks : List Task) : Behind tasks tasks :=
  ⟨fun _ => id, Nat.le_refl _, id⟩

theorem Behind.tail (task : Task) (rest : List Task) : Behind (task :: rest) rest :=
  ⟨fun _ => List.mem_cons_of_mem _, List.count_le_count_cons, watchFirst_tail⟩

/-- Handlers that leave the queue without having read anything. -/
structure Fewer (tasks rest : List Task) : Prop extends Behind tasks rest where
  landed : landedBytes rest = landedBytes tasks
  reads : rest.countP isReadDone = tasks.countP isReadDone
  waits : rest.countP isWaitDone = tasks.countP isWaitDone

theorem Fewer.tail {task : Task} (reads : isReadDone task = false) (waits : isWaitDone task = false)
    (rest : List Task) : Fewer (task :: rest) rest := by
  refine { Behind.tail task rest with landed := ?_, reads := ?_, waits := ?_ }
  · cases task with
    | readCompleted data error => cases reads
    | _ => rfl
  · simp [reads]
  · simp [waits]

theorem Core.drop {rest : List Task} (fewer : Fewer r.tasks rest) (core : Core r) :
    Core { r with tasks := rest } :=
  { core with
    order := by
      have order := core.order
      simp only [Reader.received] at order ⊢
      rw [fewer.landed]
      exact order
    whole := by
      have whole := core.whole
      simp only [Reader.received] at whole ⊢
      rw [fewer.landed]
      exact whole
    aborted := fun data member => core.aborted data (fewer.sub _ member)
    reads := by
      have reads := core.reads
      rw [← fewer.reads] at reads
      exact reads
    waits := by
      have waits := core.waits
      rw [← fewer.waits] at waits
      exact waits
    once := fewer.watches.trans core.once
    watched := fun member =>
      ⟨(core.watched (fewer.sub _ member)).1, { (core.watched (fewer.sub _ member)).2 with }⟩
    unwatched := fun none => { core.unwatched none with }
    first := fewer.first core.first
    kept := fun held member => { core.kept held member with } }

/-- `do_read` submits a read. -/
def Reader.arm (r : Reader) : Reader :=
  { r with read := { r.read with inFlight := true, reads := r.read.reads + 1 } }

def canRead (r : Reader) : Prop :=
  r.state = .connected ∧ r.read.closed = false ∧ r.read.paused = false ∧ r.read.inFlight = false

theorem reader_doRead (conn : Conn) :
    (¬ canRead (reader conn) ∧ reader (doRead conn) = reader conn) ∨
      (canRead (reader conn) ∧ reader (doRead conn) = (reader conn).arm) := by
  unfold doRead
  by_cases blocked : conn.state ≠ .connected ∨ conn.read.closed ∨ conn.read.paused ∨
      conn.read.inFlight
  · left
    rw [if_pos blocked]
    refine ⟨?_, rfl⟩
    rintro ⟨connected, opened, unpaused, free⟩
    simp only [reader] at connected opened unpaused free
    simp [connected, opened, unpaused, free] at blocked
  · right
    rw [if_neg blocked]
    simp only [not_or, not_not, Bool.not_eq_true] at blocked
    exact ⟨blocked, rfl⟩

theorem Core.arm (core : Core r) (can : canRead r) (begun : .readStarted ∈ r.events) :
    Core r.arm :=
  { core with
    reads := by
      have counted := core.reads
      simp only [can.2.2.2, Bool.toNat_false, Nat.add_eq_zero_iff] at counted
      simp [Reader.arm, counted]
    quiet := fun none => absurd begun none
    watched := fun member => ⟨(core.watched member).1, { (core.watched member).2 with }⟩
    unwatched := fun none => { core.unwatched none with }
    kept := fun held member => by
      have closed := (core.kept held member).closed
      rw [can.2.1] at closed
      cases closed }

theorem doRead_core {conn : Conn} (core : Core (reader conn))
    (begun : .readStarted ∈ (reader conn).events) : Core (reader (doRead conn)) := by
  rcases reader_doRead conn with ⟨-, same⟩ | ⟨can, armed⟩
  · rw [same]
    exact core
  · rw [armed]
    exact core.arm can begun

theorem doRead_calm {conn : Conn} (calm : Calm (reader conn)) : Calm (reader (doRead conn)) := by
  rcases reader_doRead conn with ⟨-, same⟩ | ⟨can, armed⟩
  · rw [same]
    exact calm
  · rw [armed]
    intro begun connected
    exact calm_mono id id (fun _ => rfl) (calm begun connected)

/-- Behind `do_read` a read is out unless the peer has ended or reading is paused. -/
theorem doRead_flowing {conn : Conn} (core : Core (reader conn))
    (settled : (reader conn).read.closePending = false) :
    Flowing (reader (doRead conn)) someone := by
  intro begun connected unended unpaused
  rcases reader_doRead conn with ⟨cannot, same⟩ | ⟨can, armed⟩
  · rw [same] at begun connected unended unpaused ⊢
    by_contra none
    simp only [not_or, Bool.not_eq_true] at none
    refine cannot ⟨connected, ?_, unpaused, none.1⟩
    by_contra closed
    rcases core.closedWhy connected (by simpa using closed) with ended | pending
    · exact unended ended
    · rw [settled] at pending
      cases pending
  · rw [armed]
    exact .inl rfl

theorem suffix_of_other {event other : Obs} {older events : List Obs} (apart : event ≠ other)
    (suffix : event :: older <:+ other :: events) : event :: older <:+ events := by
  rcases List.suffix_cons_iff.mp suffix with same | earlier
  · cases same
    exact absurd rfl apart
  · exact earlier

theorem Core.standDown (core : Core r) :
    Core { r with read := { r.read with watchActive := false } } :=
  { core with
    watched := fun member =>
      ⟨(core.watched member).1, { (core.watched member).2 with inactive := rfl }⟩
    unwatched := fun none => { core.unwatched none with inactive := rfl }
    kept := fun held member => { core.kept held member with } }

theorem Core.mark {event : Obs} (core : Core r)
    (mark : event = .startPosted ∨ event = .watchPosted ∨ event = .readStarted)
    (starts : event = .readStarted → .startPosted ∈ r.events ∧ r.read.holdback = []) :
    Core { r with events := event :: r.events } := by
  have bytes : deliveredBytes (event :: r.events) = deliveredBytes r.events := by
    rcases mark with rfl | rfl | rfl <;> rfl
  have eof : .readEof ≠ event := by rcases mark with rfl | rfl | rfl <;> simp
  have fin : ∀ held, .finHeld held ≠ event := by
    intro held
    rcases mark with rfl | rfl | rfl <;> simp
  have data : ∀ got, .delivered got ≠ event := by
    intro got
    rcases mark with rfl | rfl | rfl <;> simp
  have held_before : ∀ held, .finHeld held ∈ event :: r.events → .finHeld held ∈ r.events :=
    fun held member => List.mem_of_ne_of_mem (fin held) member
  have began : .readStarted ∈ event :: r.events → .readStarted ∈ r.events ∨ event = .readStarted := by
    intro member
    rcases List.mem_cons.mp member with same | before
    · exact .inr same.symm
    · exact .inl before
  exact { core with
    order := by
      have order := core.order
      simp only [Reader.received] at order ⊢
      rw [bytes]
      exact order
    whole := by
      have whole := core.whole
      simp only [Reader.received] at whole ⊢
      rw [bytes]
      exact whole
    called := fun member => List.mem_cons_of_mem _ <| by
      rcases began member with before | now
      · exact core.called before
      · exact (starts now).1
    calledFirst := fun older suffix => by
      rcases List.suffix_cons_iff.mp suffix with now | earlier
      · cases now
        exact (starts rfl).1
      · exact core.calledFirst older earlier
    startedFirst := fun got older suffix =>
      core.startedFirst got older (suffix_of_other (data got) suffix)
    quiet := fun none => by
      have before := core.quiet fun member => none (List.mem_cons_of_mem _ member)
      exact ⟨before.1, fun member => before.2 (List.mem_of_ne_of_mem eof member)⟩
    emptied := fun member => by
      rcases began member with before | now
      · exact core.emptied before
      · exact (starts now).2
    paused := fun on => List.mem_cons_of_mem _ (core.paused on)
    watched := fun member => ⟨List.mem_cons_of_mem _ (core.watched member).1,
      { (core.watched member).2 with
        unseen := fun held seen => (core.watched member).2.unseen held (held_before held seen) }⟩
    unwatched := fun none => by
      have before := core.unwatched fun member => none (List.mem_cons_of_mem _ member)
      exact { before with unseen := fun held seen => before.unseen held (held_before held seen) }
    closedWhy := fun connected closed =>
      (core.closedWhy connected closed).imp_left (List.mem_cons_of_mem _)
    kept := fun held seen => by
      have before := core.kept held (held_before held seen)
      exact { before with
        kept := before.kept.imp
          (fun ⟨same, filled, pending, unended⟩ =>
            ⟨same, filled, pending, fun member => unended (List.mem_of_ne_of_mem eof member)⟩)
          (List.mem_cons_of_mem _) }
    told := fun held seen connected =>
      (core.told held (held_before held seen) connected).imp_right (List.mem_cons_of_mem _)
    eofOnce := fun held seen => by
      rw [List.count_cons_of_ne eof.symm]
      exact core.eofOnce held (held_before held seen)
    pendingHeld := fun pending => by
      obtain ⟨held, seen⟩ := core.pendingHeld pending
      exact ⟨held, List.mem_cons_of_mem _ seen⟩
    eofLast := fun older suffix held seen =>
      core.eofLast older (suffix_of_other eof suffix) held (held_before held seen) }

/-- The events once the handler of `start_read` may have noted that reading starts. -/
def Opening (events older : List Obs) : Prop := older = events ∨ older = .readStarted :: events

theorem Opening.mem {events older : List Obs} (opening : Opening events older) {event : Obs}
    (apart : event ≠ .readStarted) : event ∈ older ↔ event ∈ events := by
  rcases opening with rfl | rfl
  · rfl
  · simp [apart]

theorem Opening.suffix {events older earlier : List Obs} (opening : Opening events older)
    {event : Obs} (apart : event ≠ .readStarted) (suffix : event :: earlier <:+ older) :
    event :: earlier <:+ events := by
  rcases opening with rfl | rfl
  · exact suffix
  · exact suffix_of_other apart suffix

theorem Opening.bytes {events older : List Obs} (opening : Opening events older) :
    deliveredBytes older = deliveredBytes events := by
  rcases opening with rfl | rfl
  · rfl
  · rfl

theorem Opening.count {events older : List Obs} (opening : Opening events older) :
    older.count .readEof = events.count .readEof := by
  rcases opening with rfl | rfl
  · rfl
  · exact List.count_cons_of_ne (by simp)

theorem Core.deliver {data : Bytes} {older : List Obs} {rest : List Task} {flight : Bool}
    (core : Core r) (opening : Opening r.events older) (begun : .readStarted ∈ older)
    (called : .startPosted ∈ r.events) (behind : Behind r.tasks rest)
    (same : deliveredBytes r.events ++ data ++ landedBytes rest = r.received)
    (given : data = r.read.holdback ∨ r.read.holdback = [])
    (reads : r.read.reads + rest.countP isReadDone = flight.toNat)
    (fewer : flight = true → r.read.inFlight = true)
    (waits : rest.countP isWaitDone = r.tasks.countP isWaitDone) :
    Core { r with
      events := .delivered data :: older, tasks := rest
      read := { r.read with holdback := [], inFlight := flight } } := by
  have seen_before : ∀ event, event ≠ .readStarted → event ≠ .delivered data →
      event ∈ Obs.delivered data :: older → event ∈ r.events :=
    fun event apart other member =>
      (opening.mem apart).mp (List.mem_of_ne_of_mem other member)
  have held_before : ∀ fin, .finHeld fin ∈ Obs.delivered data :: older → .finHeld fin ∈ r.events :=
    fun fin => seen_before _ (by simp) (by simp)
  have later : ∀ event, event ≠ .readStarted → event ∈ r.events →
      event ∈ Obs.delivered data :: older :=
    fun event apart member => List.mem_cons_of_mem _ ((opening.mem apart).mpr member)
  exact { core with
    order := by
      have order := core.order
      rw [← same] at order
      simpa [Reader.received, opening.bytes] using order
    whole := by
      have whole := core.whole
      rw [← same] at whole
      simpa [Reader.received, opening.bytes] using whole
    aborted := fun data member => core.aborted data (behind.sub _ member)
    reads := reads
    waits := by
      have counted := core.waits
      rw [← waits] at counted
      exact counted
    called := fun _ => later _ (by simp) called
    calledFirst := fun earlier suffix => by
      have suffix := suffix_of_other (by simp) suffix
      rcases opening with rfl | rfl
      · exact core.calledFirst earlier suffix
      · rcases List.suffix_cons_iff.mp suffix with now | before
        · cases now
          exact called
        · exact core.calledFirst earlier before
    startedFirst := fun got earlier suffix => by
      rcases List.suffix_cons_iff.mp suffix with now | before
      · cases now
        exact begun
      · exact core.startedFirst got earlier (opening.suffix (by simp) before)
    quiet := fun none => absurd (List.mem_cons_of_mem _ begun) none
    emptied := fun _ => rfl
    paused := fun on => later _ (by simp) (core.paused on)
    once := behind.watches.trans core.once
    watched := fun member => by
      obtain ⟨posted, before⟩ := core.watched (behind.sub _ member)
      exact ⟨later _ (by simp) posted, { before with
        empty := rfl
        unseen := fun fin seen => before.unseen fin (held_before fin seen) }⟩
    unwatched := fun none => by
      have before := core.unwatched fun member => none (later _ (by simp) member)
      exact { before with
        empty := rfl
        unseen := fun fin seen => before.unseen fin (held_before fin seen) }
    first := behind.first core.first
    closedWhy := fun connected closed =>
      (core.closedWhy connected closed).imp_left (later _ (by simp))
    kept := fun fin seen => by
      have before := core.kept fin (held_before fin seen)
      refine { before with unread := ?_, kept := .inr ?_ }
      · by_contra on
        have was := fewer (by simpa using on)
        rw [before.unread] at was
        cases was
      · rcases before.kept with ⟨is_held, filled, -, -⟩ | delivered
        · rcases given with now | none
          · rw [now, is_held]
            exact List.mem_cons_self
          · rw [none] at is_held
            exact absurd is_held.symm filled
        · exact later _ (by simp) delivered
    told := fun fin seen connected =>
      (core.told fin (held_before fin seen) connected).imp_right (later _ (by simp))
    eofOnce := fun fin seen => by
      rw [List.count_cons_of_ne (by simp), opening.count]
      exact core.eofOnce fin (held_before fin seen)
    pendingHeld := fun pending => by
      obtain ⟨fin, seen⟩ := core.pendingHeld pending
      exact ⟨fin, later _ (by simp) seen⟩
    eofLast := fun earlier suffix fin seen => by
      have before := opening.suffix (by simp) (suffix_of_other (by simp) suffix)
      exact core.eofLast earlier before fin (held_before fin seen) }

theorem Core.land {error : Option ErrorCode} {rest : List Task} (core : Core r)
    (here : r.tasks = .readCompleted [] error :: rest) :
    Core { r with tasks := rest, read := { r.read with inFlight := false } } := by
  have behind : Behind r.tasks rest := here ▸ Behind.tail _ rest
  have landed : landedBytes r.tasks = landedBytes rest := by simp [here]
  have counted := core.reads
  rw [here, List.countP_cons] at counted
  have bound : r.read.inFlight.toNat ≤ 1 := Bool.toNat_le _
  exact { core with
    order := by
      have order := core.order
      simp only [Reader.received, landed] at order
      exact order
    whole := by
      have whole := core.whole
      simp only [Reader.received, landed] at whole
      exact whole
    aborted := fun data member => core.aborted data (behind.sub _ member)
    reads := by
      simp only [isReadDone, if_true] at counted
      simp only [Bool.toNat_false]
      omega
    waits := by
      have waits := core.waits
      rw [here, List.countP_cons] at waits
      exact waits
    quiet := fun none => ⟨rfl, (core.quiet none).2⟩
    once := behind.watches.trans core.once
    watched := fun member =>
      ⟨(core.watched (behind.sub _ member)).1, { (core.watched (behind.sub _ member)).2 with }⟩
    unwatched := fun none => { core.unwatched none with }
    first := behind.first core.first
    kept := fun held seen => { core.kept held seen with unread := rfl } }

theorem Core.report {closed : Bool} (core : Core r) (begun : .readStarted ∈ r.events)
    (ends : (closed = true ∧ ∀ held, .finHeld held ∉ r.events) ∨
      (closed = r.read.closed ∧ r.read.closePending = true)) :
    Core { r with
      events := .readEof :: r.events
      read := { r.read with closed := closed, closePending := false } } := by
  have held_before : ∀ held, .finHeld held ∈ Obs.readEof :: r.events → .finHeld held ∈ r.events :=
    fun held member => List.mem_of_ne_of_mem (by simp) member
  have given : ∀ held, .finHeld held ∈ r.events → .delivered held ∈ r.events := by
    intro held seen
    rcases (core.kept held seen).kept with ⟨same, filled, -, -⟩ | delivered
    · rw [core.emptied begun] at same
      exact absurd same.symm filled
    · exact delivered
  exact { core with
    called := fun _ => List.mem_cons_of_mem _ (core.called begun)
    calledFirst := fun older suffix => core.calledFirst older (suffix_of_other (by simp) suffix)
    startedFirst := fun got older suffix =>
      core.startedFirst got older (suffix_of_other (by simp) suffix)
    quiet := fun none => absurd (List.mem_cons_of_mem _ begun) none
    emptied := fun _ => core.emptied begun
    paused := fun on => List.mem_cons_of_mem _ (core.paused on)
    watched := fun member => ⟨List.mem_cons_of_mem _ (core.watched member).1,
      { (core.watched member).2 with
        settled := rfl
        unseen := fun held seen => (core.watched member).2.unseen held (held_before held seen) }⟩
    unwatched := fun none => by
      have before := core.unwatched fun member => none (List.mem_cons_of_mem _ member)
      exact { before with
        settled := rfl
        unseen := fun held seen => before.unseen held (held_before held seen) }
    closedWhy := fun _ _ => .inl List.mem_cons_self
    kept := fun held seen => by
      have before := core.kept held (held_before held seen)
      refine { before with
        closed := ?_
        kept := .inr (List.mem_cons_of_mem _ (given held (held_before held seen))) }
      rcases ends with ⟨shut, -⟩ | ⟨same, -⟩
      · exact shut
      · exact same.trans before.closed
    told := fun _ _ _ => .inr List.mem_cons_self
    eofOnce := fun held seen => by
      have once := core.eofOnce held (held_before held seen)
      rcases ends with ⟨-, none⟩ | ⟨-, pending⟩
      · exact absurd (held_before held seen) (none held)
      · rw [pending] at once
        rw [List.count_cons_self]
        simpa using once
    pendingHeld := nofun
    eofLast := fun older suffix held seen => by
      rcases List.suffix_cons_iff.mp suffix with now | earlier
      · cases now
        exact given held (held_before held seen)
      · exact core.eofLast older earlier held (held_before held seen) }

theorem Core.settle (core : Core r) (begun : .readStarted ∈ r.events)
    (ended : r.state ≠ .connected) :
    Core { r with read := { r.read with closePending := false } } :=
  { core with
    watched := fun member => ⟨(core.watched member).1, { (core.watched member).2 with settled := rfl }⟩
    unwatched := fun none => { core.unwatched none with settled := rfl }
    closedWhy := fun connected => absurd connected ended
    kept := fun held seen => by
      have before := core.kept held seen
      refine { before with kept := .inr ?_ }
      rcases before.kept with ⟨same, filled, -, -⟩ | delivered
      · rw [core.emptied begun] at same
        exact absurd same.symm filled
      · exact delivered
    told := fun _ _ connected => absurd connected ended
    eofOnce := fun held seen => (Nat.le_add_right _ _).trans (core.eofOnce held seen)
    pendingHeld := nofun }

theorem Core.shut (core : Core r) (ended : r.state ≠ .connected) :
    Core { r with read := { r.read with closed := true } } :=
  { core with
    watched := fun member => ⟨(core.watched member).1, { (core.watched member).2 with }⟩
    unwatched := fun none => { core.unwatched none with }
    closedWhy := fun connected => absurd connected ended
    kept := fun held seen => { core.kept held seen with closed := rfl } }

/-- The watch is under way: it has run once and seen no FIN behind bytes. -/
structure Watching (r : Reader) : Prop where
  ran : .watchPosted ∈ r.events
  gone : .watchPeerClose ∉ r.tasks
  unseen : ∀ held, .finHeld held ∉ r.events

theorem Core.watching {error : Option ErrorCode} {rest : List Task} (core : Core r)
    (here : r.tasks = .waitCompleted error :: rest) : Watching r := by
  have armed : r.read.watchInFlight = true := by
    have counted := core.waits
    rw [here, List.countP_cons] at counted
    by_contra free
    simp only [Bool.not_eq_true] at free
    simp [isWaitDone, free] at counted
  have not_fresh : ¬ Unwatched r := by
    intro fresh
    rw [fresh.unarmed] at armed
    cases armed
  constructor
  · by_contra none
    exact not_fresh (core.unwatched none)
  · exact fun member => not_fresh (core.watched member).2
  · intro held seen
    rw [(core.kept held seen).unarmed] at armed
    cases armed

theorem Core.waited {error : Option ErrorCode} {rest : List Task} (core : Core r)
    (here : r.tasks = .waitCompleted error :: rest) :
    Core { r with tasks := rest, read := { r.read with watchInFlight := false } } := by
  obtain ⟨ran, gone, unseen⟩ := core.watching here
  have behind : Behind r.tasks rest := here ▸ Behind.tail _ rest
  have landed : landedBytes r.tasks = landedBytes rest := by simp [here]
  have counted := core.waits
  rw [here, List.countP_cons] at counted
  have bound : r.read.watchInFlight.toNat ≤ 1 := Bool.toNat_le _
  exact { core with
    order := by
      have order := core.order
      simp only [Reader.received, landed] at order
      exact order
    whole := by
      have whole := core.whole
      simp only [Reader.received, landed] at whole
      exact whole
    aborted := fun data member => core.aborted data (behind.sub _ member)
    reads := by
      have reads := core.reads
      rw [here, List.countP_cons] at reads
      exact reads
    waits := by
      simp only [isWaitDone, if_true] at counted
      simp only [Bool.toNat_false]
      omega
    once := behind.watches.trans core.once
    watched := fun member => absurd (behind.sub _ member) gone
    unwatched := fun none => absurd ran none
    first := behind.first core.first
    kept := fun held seen => absurd seen (unseen held) }

/-- `do_watch_peer_close` submits a wait. -/
def Reader.await (r : Reader) : Reader :=
  { r with read := { r.read with watchInFlight := true, waits := r.read.waits + 1 } }

def canWait (r : Reader) : Prop :=
  r.read.watchActive = true ∧ r.state = .connected ∧ r.read.closed = false ∧
    r.read.inFlight = false ∧ r.read.watchInFlight = false

theorem reader_doWatch (conn : Conn) :
    reader (doWatchPeerClose conn) = reader conn ∨
      (canWait (reader conn) ∧ reader (doWatchPeerClose conn) = (reader conn).await) := by
  unfold doWatchPeerClose
  split
  · exact .inl rfl
  · next free =>
      right
      simp only [Bool.not_eq_true', not_or, not_not, Bool.not_eq_false, Bool.not_eq_true] at free
      exact ⟨free, rfl⟩

theorem Core.await (core : Core r) (watching : Watching r) (can : canWait r) : Core r.await :=
  { core with
    waits := by
      have counted := core.waits
      simp only [can.2.2.2.2, Bool.toNat_false, Nat.add_eq_zero_iff] at counted
      simp [Reader.await, counted]
    watched := fun member => absurd member watching.gone
    unwatched := fun none => absurd watching.ran none
    kept := fun held seen => absurd seen (watching.unseen held) }

theorem Core.watch {rest : List Task} (core : Core r) (here : r.tasks = .watchPeerClose :: rest) :
    Core { r with tasks := rest, read := { r.read with watchActive := true } } ∧
      Watching { r with tasks := rest, read := { r.read with watchActive := true } } := by
  have member : .watchPeerClose ∈ r.tasks := here ▸ List.mem_cons_self
  obtain ⟨ran, fresh⟩ := core.watched member
  have gone : .watchPeerClose ∉ rest := by
    intro again
    have once := core.once
    rw [here, List.count_cons_self] at once
    have more := List.count_pos_iff.mpr again
    omega
  have dropped : Core { r with tasks := rest } := core.drop (here ▸ Fewer.tail rfl rfl rest)
  refine ⟨?_, ran, gone, fresh.unseen⟩
  exact { dropped with
    watched := fun again => absurd again gone
    unwatched := fun none => absurd ran none
    kept := fun held seen => absurd seen (fresh.unseen held) }

theorem Core.bank {got arrived : Bytes} (core : Core r) (watching : Watching r)
    (unread : .readStarted ∉ r.events) (opened : r.socketOpen = true)
    (split : r.read.arrived = got ++ arrived) :
    Core { r with read := { r.read with
      holdback := r.read.holdback ++ got, arrived := arrived } } := by
  have idle := (core.quiet unread).1
  have counted := core.reads
  rw [idle] at counted
  have none : landedBytes r.tasks = [] :=
    landedBytes_none (Nat.eq_zero_of_add_eq_zero counted).2
  have whole := core.whole opened
  simp only [Reader.received, none, List.append_nil] at whole
  have again : deliveredBytes r.events ++ (r.read.holdback ++ got) ++ arrived = r.read.stream ∨
      (arrived = [] ∧ r.read.peerEnd.isSome = true ∧ got = []) := by
    rcases whole with complete | ⟨empty, ended⟩
    · left
      rw [← complete, split]
      simp
    · right
      rw [split, List.append_eq_nil_iff] at empty
      exact ⟨empty.2, ended, empty.1⟩
  exact { core with
    order := by
      have order := core.order
      simp only [Reader.received, none, List.append_nil] at order ⊢
      rcases again with complete | ⟨-, -, nothing⟩
      · exact ⟨arrived, complete⟩
      · rw [nothing, List.append_nil]
        exact order
    whole := fun _ => by
      simp only [Reader.received, none, List.append_nil]
      exact again.imp_right fun ended => ⟨ended.1, ended.2.1⟩
    emptied := fun begun => absurd begun unread
    watched := fun member => absurd member watching.gone
    unwatched := fun absent => absurd watching.ran absent
    kept := fun held seen => absurd seen (watching.unseen held) }

theorem Core.hold (core : Core r) (watching : Watching r) (unread : .readStarted ∉ r.events)
    (unarmed : r.read.watchInFlight = false) (filled : r.read.holdback ≠ []) :
    Core { r with
      events := .finHeld r.read.holdback :: r.events
      read := { r.read with watchActive := false, closePending := true, closed := true } } := by
  obtain ⟨idle, unended⟩ := core.quiet unread
  have unended : .readEof ∉ Obs.finHeld r.read.holdback :: r.events :=
    fun member => unended (List.mem_of_ne_of_mem (by simp) member)
  exact { core with
    called := fun member => absurd (List.mem_of_ne_of_mem (by simp) member) unread
    calledFirst := fun older suffix => core.calledFirst older (suffix_of_other (by simp) suffix)
    startedFirst := fun got older suffix =>
      core.startedFirst got older (suffix_of_other (by simp) suffix)
    quiet := fun _ => ⟨idle, unended⟩
    emptied := fun member => absurd (List.mem_of_ne_of_mem (by simp) member) unread
    paused := fun on => List.mem_cons_of_mem _ (core.paused on)
    watched := fun member => absurd member watching.gone
    unwatched := fun none => absurd (List.mem_cons_of_mem _ watching.ran) none
    closedWhy := fun _ _ => .inr rfl
    kept := fun held seen => by
      rcases List.mem_cons.mp seen with same | before
      · cases same
        exact ⟨rfl, idle, unarmed, .inl ⟨rfl, filled, rfl, unended⟩⟩
      · exact absurd before (watching.unseen held)
    told := fun _ _ _ => .inl rfl
    eofOnce := fun _ _ => by
      rw [List.count_eq_zero_of_not_mem unended]
      exact Nat.le_refl _
    pendingHeld := fun _ => ⟨_, List.mem_cons_self⟩
    eofLast := fun older suffix => absurd (suffix.subset List.mem_cons_self) unended }

theorem Core.discard (core : Core r) (watching : Watching r) (unread : .readStarted ∉ r.events) :
    Core ({ r with read := { r.read with watchActive := false, holdback := [] } } : Reader).close := by
  have idle := (core.quiet unread).1
  have counted := core.reads
  rw [idle] at counted
  have none : landedBytes r.tasks = [] :=
    landedBytes_none (Nat.eq_zero_of_add_eq_zero counted).2
  exact { core with
    order := by
      have order := core.order
      simp only [Reader.received, none, List.append_nil, Reader.close] at order ⊢
      exact (List.prefix_append _ _).trans order
    whole := nofun
    opened := fun alive => absurd rfl alive
    emptied := fun _ => rfl
    watched := fun member => absurd member watching.gone
    unwatched := fun absent => absurd watching.ran absent
    closedWhy := nofun
    kept := fun held seen => absurd seen (watching.unseen held)
    told := nofun }

end Invariant

end ToxTunnel.TcpReadPath
