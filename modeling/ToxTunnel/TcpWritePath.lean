import ToxTunnel.TcpConnection

/-!
The write path of a connection. Writes are enqueued, handed to the socket and
completed in one order, the counter is the bytes in the queue and in the socket,
the send half ends behind the writes that came before the request, and every
path into Disconnected goes once through `do_close`.
-/

namespace ToxTunnel.TcpWritePath
open Interleaving TcpConnection
open TcpWrite (ConnectionState)

section Logs

def enqueuedOf : Obs → Option WriteBuffer
  | .enqueued buffer => some buffer
  | _ => none

def handedOf : Obs → Option WriteBuffer
  | .handed buffer => some buffer
  | _ => none

def writtenOf : Obs → Option WriteBuffer
  | .written buffer => some buffer
  | _ => none

/-- The buffers of the events of one kind, oldest first. -/
def picked (kind : Obs → Option WriteBuffer) (log : List Obs) : List WriteBuffer :=
  (log.filterMap kind).reverse

def bytesOf (buffers : List WriteBuffer) : TunnelState.Bytes :=
  (buffers.map WriteBuffer.bytes).flatten

/-- The writes posted before the first `shutdown_send`, oldest first. -/
def postedFirst : List Obs → List WriteBuffer
  | [] => []
  | .writePosted buffer :: older =>
      if .shutdownPosted ∈ older then postedFirst older else postedFirst older ++ [buffer]
  | _ :: older => postedFirst older

/-- The writes on the strand's queue before the first shutdown on it. -/
def pendingFirst : List Task → List WriteBuffer
  | [] => []
  | .enqueueWrite buffer :: rest => buffer :: pendingFirst rest
  | .shutdownSend :: _ => []
  | _ :: rest => pendingFirst rest

/-- The buffers whose completion is posted and has not run. -/
def landing : List Task → List WriteBuffer
  | [] => []
  | .writeCompleted buffer _ :: rest => buffer :: landing rest
  | _ :: rest => landing rest

def hooksOf : Obs → Bool
  | .disconnected _ => true
  | _ => false

theorem picked_some {kind : Obs → Option WriteBuffer} {obs : Obs} {buffer : WriteBuffer}
    (log : List Obs) (found : kind obs = some buffer) :
    picked kind (obs :: log) = picked kind log ++ [buffer] := by
  rw [picked, List.filterMap_cons_some found, List.reverse_cons]
  rfl

theorem picked_none {kind : Obs → Option WriteBuffer} {obs : Obs} (log : List Obs)
    (nothing : kind obs = none) : picked kind (obs :: log) = picked kind log := by
  rw [picked, List.filterMap_cons_none nothing]
  rfl

theorem landing_append (first second : List Task) :
    landing (first ++ second) = landing first ++ landing second := by
  induction first with
  | nil => rfl
  | cons task rest ih =>
      cases task <;> simp [landing, ih]

theorem pendingFirst_append {posted : List Task} (task : Task) :
    pendingFirst (posted ++ [task]) =
      if .shutdownSend ∈ posted then pendingFirst posted
      else pendingFirst posted ++ pendingFirst [task] := by
  induction posted with
  | nil => simp [pendingFirst]
  | cons first rest ih =>
      cases first with
      | shutdownSend => simp [pendingFirst]
      | enqueueWrite buffer =>
          rw [List.cons_append, pendingFirst, ih]
          by_cases shut : Task.shutdownSend ∈ rest
          · simp [shut, pendingFirst]
          · simp [shut, pendingFirst]
      | _ =>
          rw [List.cons_append, pendingFirst, ih]
          · by_cases shut : Task.shutdownSend ∈ rest
            · simp [shut, pendingFirst]
            · simp [shut, pendingFirst]
          all_goals simp

theorem queuedBytes_append (first second : List WriteBuffer) :
    queuedBytes (first ++ second) = queuedBytes first + queuedBytes second := by
  simp [queuedBytes]

/-- What the log tells about the send half and about the close. -/
structure History (log : List Obs) : Prop where
  shut : ∀ older, .sendShutdown :: older <:+ log →
    picked handedOf log = picked handedOf older ∧
      picked writtenOf older = picked enqueuedOf older ∧
      postedFirst older <+: picked writtenOf older
  graceful : ∀ older abortive, .socketClosed .graceful abortive :: older <:+ log →
    picked writtenOf older = picked enqueuedOf older
  readEnds : ∀ older abortive, .socketClosed .readEnd abortive :: older <:+ log →
    .closing ∉ older

theorem History.note {log : List Obs} {obs : Obs} (history : History log)
    (handing : handedOf obs ≠ none → .sendShutdown ∉ log)
    (shutting : obs = .sendShutdown → picked writtenOf log = picked enqueuedOf log ∧
      postedFirst log <+: picked writtenOf log)
    (drained : ∀ abortive, obs = .socketClosed .graceful abortive →
      picked writtenOf log = picked enqueuedOf log)
    (ended : ∀ abortive, obs = .socketClosed .readEnd abortive → .closing ∉ log) :
    History (obs :: log) := by
  constructor
  · intro older suffix
    rcases List.suffix_cons_iff.mp suffix with same | earlier
    · cases same
      obtain ⟨all, first⟩ := shutting rfl
      exact ⟨picked_none _ rfl, all, first⟩
    · obtain ⟨none_later, all, first⟩ := history.shut older earlier
      refine ⟨?_, all, first⟩
      cases hands : handedOf obs with
      | none => rw [picked_none _ hands, none_later]
      | some buffer =>
          have shut_before : Obs.sendShutdown ∈ log := earlier.subset List.mem_cons_self
          exact absurd shut_before (handing (by simp [hands]))
  · intro older abortive suffix
    rcases List.suffix_cons_iff.mp suffix with same | earlier
    · cases same
      exact drained abortive rfl
    · exact history.graceful older abortive earlier
  · intro older abortive suffix
    rcases List.suffix_cons_iff.mp suffix with same | earlier
    · cases same
      exact ended abortive rfl
    · exact history.readEnds older abortive earlier

end Logs

section Invariant

/-- The part of a connection that the write path depends on. -/
structure Wire where
  state : ConnectionState
  bufferBytes : Int
  writeInProgress : Bool
  queue : List WriteBuffer
  outstanding : List WriteBuffer
  shutdownRequested : Bool
  shutdownDone : Bool
  posted : List Task
  log : List Obs

def wire (conn : Conn) : Wire where
  state := conn.state
  bufferBytes := conn.send.bufferBytes
  writeInProgress := conn.send.writeInProgress
  queue := conn.send.queue
  outstanding := conn.send.outstanding
  shutdownRequested := conn.send.shutdownRequested
  shutdownDone := conn.send.shutdownDone
  posted := conn.posted
  log := conn.log

/-- The buffers the socket has, completed or not. -/
def Wire.flying (wire : Wire) : List WriteBuffer := wire.outstanding ++ landing wire.posted

/-- How often a connection in this state has called its close hooks. -/
def endings : ConnectionState → Nat
  | .disconnected => 1
  | _ => 0

theorem endings_live {state : ConnectionState} (live : state ≠ .disconnected) :
    endings state = 0 := by
  cases state <;> first | rfl | exact absurd rfl live

/-- What holds of a connection in any state. -/
structure Accounted (wire : Wire) : Prop where
  phase : wire.state ≠ .connecting
  counted : wire.bufferBytes = (queuedBytes wire.queue + queuedBytes wire.flying : Nat)
  part : picked handedOf wire.log <+: picked enqueuedOf wire.log
  dead : wire.state = .disconnected → wire.queue = [] ∧ wire.shutdownDone = true
  sized : ∀ buffer, .enqueueWrite buffer ∈ wire.posted → 0 < buffer.size
  issued : .sendShutdown ∈ wire.log → wire.shutdownRequested = true ∧ wire.queue = []
  history : History wire.log
  told : wire.log.countP hooksOf = endings wire.state
  owner : wire.log.count .ownerClosed = endings wire.state

/-- What holds until the connection is Disconnected. -/
structure Flowing (wire : Wire) : Prop where
  order : picked handedOf wire.log ++ wire.queue = picked enqueuedOf wire.log
  flown : picked writtenOf wire.log ++ wire.flying = picked handedOf wire.log
  single : wire.flying.length ≤ 1
  asked : wire.shutdownRequested = true →
    picked enqueuedOf wire.log = postedFirst wire.log ∧ .shutdownPosted ∈ wire.log
  unasked : wire.shutdownRequested = false →
    picked enqueuedOf wire.log ++ pendingFirst wire.posted = postedFirst wire.log ∧
      (.shutdownPosted ∈ wire.log ↔ .shutdownSend ∈ wire.posted)
  closing : wire.state = .disconnecting ↔ .closing ∈ wire.log

/-- Between two writes, before `do_write` looks at the queue again. -/
structure Moving (wire : Wire) : Prop where
  accounted : Accounted wire
  flows : wire.state ≠ .disconnected → Flowing wire

structure Sound (wire : Wire) : Prop extends Moving wire where
  idle : wire.state ≠ .disconnected → wire.writeInProgress = false →
    wire.flying = [] ∧ wire.queue = []

/-- An event that the write path does not count. -/
def silent : Obs → Bool
  | .writeReturned _ | .writable | .errorNotified | .watchPosted | .startPosted | .readStarted
  | .delivered _ | .finHeld _ | .readEof => true
  | _ => false

variable {conn : Conn}

theorem Accounted.silent {obs : Obs} (plain : silent obs = true) (accounted : Accounted (wire conn)) :
    Accounted (wire (conn.note obs)) := by
  obtain ⟨phase, counted, part, dead, sized, issued, history, told, owner⟩ := accounted
  cases obs <;> simp only [TcpWritePath.silent, Bool.false_eq_true] at plain
  all_goals
    constructor
    · exact phase
    · exact counted
    · exact part
    · exact dead
    · exact sized
    · intro noted
      exact issued (List.mem_of_ne_of_mem (by simp) noted)
    · exact history.note (by simp [handedOf]) nofun nofun nofun
    · simpa [wire, hooksOf] using told
    · simpa [wire] using owner

theorem Flowing.silent {obs : Obs} (plain : silent obs = true) (flowing : Flowing (wire conn)) :
    Flowing (wire (conn.note obs)) := by
  obtain ⟨order, flown, single, asked, unasked, closing⟩ := flowing
  cases obs <;> simp only [TcpWritePath.silent, Bool.false_eq_true] at plain
  all_goals
    constructor
    · exact order
    · exact flown
    · exact single
    · intro requested
      exact ⟨(asked requested).1, List.mem_cons_of_mem _ (asked requested).2⟩
    · intro free
      obtain ⟨all, asks⟩ := unasked free
      exact ⟨all, by simpa [wire] using asks⟩
    · simpa [wire] using closing

theorem Moving.silent {obs : Obs} (plain : silent obs = true) (moving : Moving (wire conn)) :
    Moving (wire (conn.note obs)) :=
  ⟨moving.accounted.silent plain, fun live => (moving.flows live).silent plain⟩

theorem Sound.silent {obs : Obs} (plain : silent obs = true) (sound : Sound (wire conn)) :
    Sound (wire (conn.note obs)) :=
  ⟨sound.toMoving.silent plain, sound.idle⟩

theorem Sound.of_dead {wire : Wire} (accounted : Accounted wire)
    (dead : wire.state = .disconnected) : Sound wire :=
  ⟨⟨accounted, fun live => absurd dead live⟩, fun live => absurd dead live⟩

/-- `do_close`: what is still queued leaves the counter, what the socket has stays in it. -/
theorem doClose_sound {cause : Cause} {error : Option ErrorCode} {abortive : Bool}
    (accounted : Accounted (wire conn)) (live : conn.state ≠ .disconnected)
    (drained : cause = .graceful → picked writtenOf conn.log = picked enqueuedOf conn.log)
    (ended : cause = .readEnd → .closing ∉ conn.log) :
    Sound (wire (doClose conn cause error abortive)) := by
  obtain ⟨phase, counted, part, dead, sized, issued, history, told, owner⟩ := accounted
  have untold : conn.log.countP hooksOf = 0 := told.trans (endings_live live)
  have unowned : conn.log.count .ownerClosed = 0 := owner.trans (endings_live live)
  have closed_history : History (.socketClosed cause abortive :: conn.log) := by
    apply history.note
    · simp [handedOf]
    · nofun
    · intro kind same
      cases same
      exact drained rfl
    · intro kind same
      cases same
      exact ended rfl
  have ends : ∀ log, History log → History (.ownerClosed :: .disconnected error :: log) := by
    intro log before
    have told_history : History (.disconnected error :: log) :=
      before.note (by simp [handedOf]) nofun nofun nofun
    exact told_history.note (by simp [handedOf]) nofun nofun nofun
  have hooks : ∀ log, log.countP hooksOf = 0 →
      (Obs.ownerClosed :: .disconnected error :: log).countP hooksOf = 1 := by
    intro log none
    rw [List.countP_cons, List.countP_cons, none]
    rfl
  simp only [wire, Wire.flying] at counted
  apply Sound.of_dead
  · by_cases opened : conn.socketOpen = true
    · simp only [doClose, if_neg live, if_pos opened]
      constructor
      · simp [wire]
      · simp only [wire, Wire.flying, Conn.note_send, Conn.note_posted, queuedBytes, List.map_nil,
          List.sum_nil] at counted ⊢
        omega
      · exact part
      · exact fun _ => ⟨rfl, rfl⟩
      · exact sized
      · exact fun _ => ⟨rfl, rfl⟩
      · exact ends _ closed_history
      · apply hooks
        rw [Conn.note_log, List.countP_cons, untold]
        rfl
      · simp [wire, unowned, endings]
    · simp only [doClose, if_neg live, if_neg opened]
      constructor
      · simp [wire]
      · simp only [wire, Wire.flying, Conn.note_send, Conn.note_posted, queuedBytes, List.map_nil,
          List.sum_nil] at counted ⊢
        omega
      · exact part
      · exact fun _ => ⟨rfl, rfl⟩
      · exact sized
      · exact fun _ => ⟨rfl, rfl⟩
      · exact ends _ history
      · exact hooks _ untold
      · simp [wire, unowned, endings]
  · simp [wire, doClose, live]

theorem Flowing.all_written (flowing : Flowing (wire conn)) (landed : (wire conn).flying = [])
    (empty : conn.send.queue = []) : picked writtenOf conn.log = picked enqueuedOf conn.log := by
  have flown := flowing.flown
  have order := flowing.order
  rw [landed, List.append_nil] at flown
  rw [show (wire conn).queue = [] from empty, List.append_nil] at order
  exact flown.trans order

/-- The FIN goes out behind everything that was written before the request. -/
theorem sendShutdown_sound (done : Bool) (sound : Sound (wire conn))
    (live : conn.state ≠ .disconnected) (requested : conn.send.shutdownRequested = true)
    (idle : conn.send.writeInProgress = false) :
    Sound (wire ({ conn with send := { conn.send with shutdownDone := done } }.note
      .sendShutdown)) := by
  obtain ⟨landed, empty⟩ := sound.idle live idle
  obtain ⟨⟨⟨phase, counted, part, dead, sized, issued, history, told, owner⟩, flows⟩, still⟩ := sound
  have flowing := flows live
  have all := flowing.all_written landed empty
  have first := (flowing.asked requested).1
  obtain ⟨order, flown, single, asked, unasked, closing⟩ := flowing
  refine ⟨⟨?_, fun _ => ?_⟩, still⟩
  · constructor
    · exact phase
    · exact counted
    · exact part
    · exact fun ended => absurd ended live
    · exact sized
    · exact fun _ => ⟨requested, empty⟩
    · apply history.note
      · simp [handedOf]
      · intro _
        have same : postedFirst conn.log = picked writtenOf conn.log := first.symm.trans all.symm
        exact ⟨all, [], (List.append_nil _).trans same⟩
      · nofun
      · nofun
    · change (Obs.sendShutdown :: conn.log).countP hooksOf = endings conn.state
      rw [List.countP_cons]
      exact told
    · change (Obs.sendShutdown :: conn.log).count .ownerClosed = endings conn.state
      rw [List.count_cons]
      exact owner
  · constructor
    · exact order
    · exact flown
    · exact single
    · exact fun _ => ⟨first, List.mem_cons_of_mem _ (asked requested).2⟩
    · intro free
      cases requested.symm.trans free
    · simpa [wire] using closing

theorem maybeShutdown_sound (choice : Choice) (sound : Sound (wire conn)) :
    Sound (wire (maybeShutdownSendLocked choice conn)) ∧
      (maybeShutdownSendLocked choice conn).state = conn.state ∧
      (maybeShutdownSendLocked choice conn).send.queue = conn.send.queue ∧
      (wire (maybeShutdownSendLocked choice conn)).flying = (wire conn).flying := by
  unfold maybeShutdownSendLocked
  split
  · exact ⟨sound, rfl, rfl, rfl⟩
  · next ready =>
      simp only [Bool.or_eq_true, Bool.not_eq_true', not_or, Bool.not_eq_false,
        Bool.not_eq_true] at ready
      obtain ⟨⟨⟨⟨requested, not_done⟩, idle⟩, -⟩, -⟩ := ready
      have live : conn.state ≠ .disconnected := by
        intro ended
        have done := (sound.accounted.dead ended).2
        rw [show (wire conn).shutdownDone = false from not_done] at done
        cases done
      split
      · have shut := sendShutdown_sound conn.send.shutdownDone sound live requested idle
        exact ⟨shut.silent rfl, rfl, rfl, rfl⟩
      · exact ⟨sendShutdown_sound true sound live requested idle, rfl, rfl, rfl⟩

theorem Moving.stopped (moving : Moving (wire conn))
    (landed : conn.state ≠ .disconnected → (wire conn).flying = []) (empty : conn.send.queue = []) :
    Sound (wire { conn with send := { conn.send with writeInProgress := false } }) := by
  obtain ⟨⟨phase, counted, part, dead, sized, issued, history, told, owner⟩, flows⟩ := moving
  refine ⟨⟨⟨phase, counted, part, dead, sized, issued, history, told, owner⟩, fun live => ?_⟩,
    fun live _ => ⟨landed live, empty⟩⟩
  obtain ⟨order, flown, single, asked, unasked, closing⟩ := flows live
  exact ⟨order, flown, single, asked, unasked, closing⟩

theorem handed_sound {front : WriteBuffer} {rest : List WriteBuffer} (moving : Moving (wire conn))
    (landed : conn.state ≠ .disconnected → (wire conn).flying = [])
    (queue : conn.send.queue = front :: rest) :
    Sound (wire ({ conn with send := { conn.send with
      writeInProgress := true, queue := rest
      outstanding := conn.send.outstanding ++ [front] } }.note (.handed front))) := by
  obtain ⟨⟨phase, counted, part, dead, sized, issued, history, told, owner⟩, flows⟩ := moving
  have live : conn.state ≠ .disconnected := by
    intro ended
    cases queue.symm.trans (dead ended).1
  have unshut : .sendShutdown ∉ conn.log := by
    intro noted
    cases queue.symm.trans (issued noted).2
  obtain ⟨order, flown, single, asked, unasked, closing⟩ := flows live
  obtain ⟨none_out, none_landing⟩ := List.append_eq_nil_iff.mp (landed live)
  simp only [wire] at none_out none_landing
  have hands : picked handedOf (.handed front :: conn.log) = picked handedOf conn.log ++ [front] :=
    picked_some conn.log rfl
  have shifted : picked handedOf (.handed front :: conn.log) ++ rest =
      picked enqueuedOf conn.log := by
    have before : picked handedOf conn.log ++ conn.send.queue = picked enqueuedOf conn.log := order
    rw [hands, ← before, queue, List.append_assoc, List.singleton_append]
  refine ⟨⟨?_, fun _ => ?_⟩, nofun⟩
  · constructor
    · exact phase
    · simp only [wire, Wire.flying, queue, none_out, none_landing, List.nil_append, queuedBytes,
        List.map_cons, List.map_nil, List.sum_cons, List.sum_nil, Conn.note_send, Conn.note_posted,
        List.append_nil] at counted ⊢
      omega
    · exact ⟨rest, shifted⟩
    · exact fun ended => absurd ended live
    · exact sized
    · exact fun noted => absurd (List.mem_of_ne_of_mem (by simp) noted) unshut
    · exact history.note (fun _ => unshut) nofun nofun nofun
    · change (Obs.handed front :: conn.log).countP hooksOf = endings conn.state
      rw [List.countP_cons]
      exact told
    · change (Obs.handed front :: conn.log).count .ownerClosed = endings conn.state
      rw [List.count_cons]
      exact owner
  · have flies : (wire ({ conn with send := { conn.send with
        writeInProgress := true, queue := rest
        outstanding := conn.send.outstanding ++ [front] } }.note (.handed front))).flying =
        [front] := by
      simp [wire, Wire.flying, none_out, none_landing]
    constructor
    · exact shifted
    · rw [flies]
      have before := flown
      rw [landed live, List.append_nil] at before
      exact (congrArg (· ++ [front]) before).trans hands.symm
    · rw [flies]
      exact le_rfl
    · exact fun requested => ⟨(asked requested).1, List.mem_cons_of_mem _ (asked requested).2⟩
    · intro free
      obtain ⟨all, asks⟩ := unasked free
      exact ⟨all, by simpa [wire] using asks⟩
    · simpa [wire] using closing

theorem doWrite_sound (choice : Choice) (moving : Moving (wire conn))
    (landed : conn.state ≠ .disconnected → (wire conn).flying = []) :
    Sound (wire (doWrite choice conn)) := by
  unfold doWrite
  split
  · next queue =>
      obtain ⟨shut, state, empty, flying⟩ := maybeShutdown_sound choice (moving.stopped landed queue)
      dsimp only at state empty flying ⊢
      generalize maybeShutdownSendLocked choice _ = drained at shut state empty flying ⊢
      split
      · next leaving =>
          have alive : drained.state ≠ .disconnected := by simp [leaving]
          have nothing := flying.trans (landed (state ▸ alive))
          have all := (shut.flows alive).all_written nothing (empty.trans queue)
          exact doClose_sound shut.accounted alive (fun _ => all) nofun
      · exact shut
  · next front rest queue => exact handed_sound moving landed queue

end Invariant

section Tasks
variable {conn : Conn}

theorem Accounted.leaving (accounted : Accounted (wire conn)) (live : conn.state ≠ .disconnected) :
    Accounted (wire { conn with state := .disconnecting }) := by
  obtain ⟨phase, counted, part, dead, sized, issued, history, told, owner⟩ := accounted
  refine ⟨nofun, counted, part, nofun, sized, issued, history, ?_, ?_⟩
  · exact told.trans (endings_live live)
  · exact owner.trans (endings_live live)

/-- A handler that the order of writes does not depend on. -/
def aside : Task → Bool
  | .enqueueWrite _ | .shutdownSend | .writeCompleted _ _ => false
  | _ => true

/-- The connection with one more handler at the front of its strand. -/
def withTask (conn : Conn) (task : Task) : Conn := { conn with posted := task :: conn.posted }

theorem Accounted.popped {task : Task} (accounted : Accounted (wire (withTask conn task)))
    (same : landing (task :: conn.posted) = landing conn.posted) : Accounted (wire conn) := by
  obtain ⟨phase, counted, part, dead, sized, issued, history, told, owner⟩ := accounted
  refine ⟨phase, ?_, part, dead, fun buffer member => sized buffer (List.mem_cons_of_mem _ member),
    issued, history, told, owner⟩
  simp only [wire, withTask, Wire.flying, same] at counted ⊢
  exact counted

theorem popped_aside {task : Task} (plain : aside task = true)
    (sound : Sound (wire (withTask conn task))) : Sound (wire conn) := by
  have same : landing (task :: conn.posted) = landing conn.posted := by
    cases task <;> first | rfl | cases plain
  have kept : (wire (withTask conn task)).flying = (wire conn).flying := by
    simp only [wire, withTask, Wire.flying, same]
  obtain ⟨⟨accounted, flows⟩, idle⟩ := sound
  refine ⟨⟨accounted.popped same, fun live => ?_⟩, fun live stopped => kept ▸ idle live stopped⟩
  obtain ⟨order, flown, single, asked, unasked, closing⟩ := flows live
  rw [kept] at flown single
  refine ⟨order, flown, single, asked, fun free => ?_, closing⟩
  obtain ⟨all, asks⟩ := unasked free
  cases task <;> first | exact ⟨all, by simpa [wire, withTask] using asks⟩ | cases plain

theorem popped_dropped {buffer : WriteBuffer} (sound : Sound (wire (withTask conn (.enqueueWrite buffer))))
    (dropped : conn.state ≠ .disconnected → conn.send.shutdownRequested = true) :
    Sound (wire conn) := by
  obtain ⟨⟨accounted, flows⟩, idle⟩ := sound
  refine ⟨⟨accounted.popped rfl, fun live => ?_⟩, idle⟩
  obtain ⟨order, flown, single, asked, unasked, closing⟩ := flows live
  exact ⟨order, flown, single, asked, fun free => (by cases (dropped live).symm.trans free), closing⟩

theorem enqueue_sound (choice : Choice) {buffer : WriteBuffer}
    (sound : Sound (wire (withTask conn (.enqueueWrite buffer))))
    (live : conn.state ≠ .disconnected) (open_half : conn.send.shutdownRequested = false) :
    Sound (wire (enqueueWriteLocked choice conn buffer)) := by
  obtain ⟨⟨⟨phase, counted, part, dead, sized, issued, history, told, owner⟩, flows⟩, idle⟩ := sound
  have some_bytes : 0 < buffer.size := sized buffer List.mem_cons_self
  obtain ⟨order, flown, single, asked, unasked, closing⟩ := flows live
  obtain ⟨all, asks⟩ := unasked open_half
  have unshut : .sendShutdown ∉ conn.log := by
    intro noted
    cases open_half.symm.trans (issued noted).1
  have joins : picked enqueuedOf (.enqueued buffer :: conn.log) =
      picked enqueuedOf conn.log ++ [buffer] := picked_some conn.log rfl
  have queued : picked handedOf conn.log ++ (conn.send.queue ++ [buffer]) =
      picked enqueuedOf (.enqueued buffer :: conn.log) := by
    rw [joins, ← List.append_assoc]
    exact congrArg (· ++ [buffer]) order
  have moving : Moving (wire ({ conn with send := { conn.send with
      bufferBytes := conn.send.bufferBytes + buffer.size
      hitWatermark := conn.send.hitWatermark ||
        decide ((conn.send.maxBuffer : Int) ≤ conn.send.bufferBytes + buffer.size)
      queue := conn.send.queue ++ [buffer] } }.note (.enqueued buffer))) := by
    refine ⟨⟨phase, ?_, ⟨_, queued⟩, fun ended => absurd ended live,
      fun other member => sized other (List.mem_cons_of_mem _ member),
      fun noted => absurd (List.mem_of_ne_of_mem (by simp) noted) unshut,
      history.note (by simp [handedOf]) nofun nofun nofun, ?_, ?_⟩, fun _ => ?_⟩
    · simp only [wire, withTask, Wire.flying, landing, Conn.note_send, Conn.note_posted,
        queuedBytes_append] at counted ⊢
      simp only [counted, queuedBytes, List.map_cons, List.map_nil, List.sum_cons, List.sum_nil]
      omega
    · change (Obs.enqueued buffer :: conn.log).countP hooksOf = endings conn.state
      rw [List.countP_cons]
      exact told
    · change (Obs.enqueued buffer :: conn.log).count .ownerClosed = endings conn.state
      rw [List.count_cons]
      exact owner
    · refine ⟨queued, flown, single, fun requested => ?_, fun _ => ⟨?_, ?_⟩, ?_⟩
      · cases open_half.symm.trans requested
      · change picked enqueuedOf (.enqueued buffer :: conn.log) ++ pendingFirst conn.posted =
          postedFirst conn.log
        rw [joins, List.append_assoc]
        exact all
      · simpa [wire, withTask] using asks
      · simpa [wire, withTask] using closing
  unfold enqueueWriteLocked
  rw [if_neg (by omega)]
  dsimp only
  split
  · next busy =>
      refine ⟨moving, fun _ stopped => ?_⟩
      cases busy.symm.trans stopped
  · next stopped =>
      exact doWrite_sound choice moving fun _ => (idle live ((Bool.not_eq_true _).mp stopped)).1

theorem shutdown_sound (choice : Choice) (sound : Sound (wire (withTask conn .shutdownSend)))
    (live : conn.state ≠ .disconnected) :
    Sound (wire (maybeShutdownSendLocked choice
      { conn with send := { conn.send with shutdownRequested := true } })) := by
  obtain ⟨⟨⟨phase, counted, part, dead, sized, issued, history, told, owner⟩, flows⟩, idle⟩ := sound
  obtain ⟨order, flown, single, asked, unasked, closing⟩ := flows live
  apply (maybeShutdown_sound choice _).1
  refine ⟨⟨⟨phase, counted, part, dead,
    fun buffer member => sized buffer (List.mem_cons_of_mem _ member),
    fun noted => ⟨rfl, (issued noted).2⟩, history, told, owner⟩, fun _ => ?_⟩, idle⟩
  refine ⟨order, flown, single, fun _ => ?_, nofun, closing⟩
  cases requested : conn.send.shutdownRequested with
  | true => exact asked requested
  | false =>
      obtain ⟨all, asks⟩ := unasked requested
      exact ⟨(List.append_nil _).symm.trans all, asks.mpr List.mem_cons_self⟩

/-- The socket is done with a buffer: nothing else of a live connection is in it. -/
theorem completed_flying {buffer : WriteBuffer} {failed : Bool}
    (sound : Sound (wire (withTask conn (.writeCompleted buffer failed))))
    (live : conn.state ≠ .disconnected) :
    (wire conn).flying = [] ∧ conn.send.writeInProgress = true := by
  have single := (sound.flows live).single
  have nothing : (wire conn).flying = [] := by
    simp only [wire, withTask, Wire.flying, landing, List.length_append, List.length_cons] at single
    apply List.append_eq_nil_iff.mpr
    constructor
    · exact List.eq_nil_of_length_eq_zero (by simp only [wire]; omega)
    · exact List.eq_nil_of_length_eq_zero (by simp only [wire]; omega)
  refine ⟨nothing, ?_⟩
  by_contra stopped
  have landed := (sound.idle live ((Bool.not_eq_true _).mp stopped)).1
  simp [wire, withTask, Wire.flying, landing] at landed

theorem completed_counted {buffer : WriteBuffer} {failed : Bool}
    (sound : Sound (wire (withTask conn (.writeCompleted buffer failed)))) :
    conn.send.bufferBytes - buffer.size =
      (queuedBytes conn.send.queue + queuedBytes (wire conn).flying : Nat) := by
  have counted := sound.accounted.counted
  simp only [wire, withTask, Wire.flying, landing, queuedBytes_append] at counted ⊢
  simp only [counted, queuedBytes, List.map_cons, List.sum_cons]
  omega

theorem written_moving {buffer : WriteBuffer}
    (sound : Sound (wire (withTask conn (.writeCompleted buffer false)))) :
    Moving (wire ({ conn with send := { conn.send with
      bufferBytes := conn.send.bufferBytes - buffer.size } }.note (.written buffer))) := by
  have refunded := completed_counted sound
  have flight := completed_flying sound
  obtain ⟨⟨⟨phase, counted, part, dead, sized, issued, history, told, owner⟩, flows⟩, idle⟩ := sound
  refine ⟨⟨phase, refunded, part, dead,
    fun other member => sized other (List.mem_cons_of_mem _ member),
    fun noted => issued (List.mem_of_ne_of_mem (by simp) noted),
    history.note (by simp [handedOf]) nofun nofun nofun, ?_, ?_⟩, fun live => ?_⟩
  · change (Obs.written buffer :: conn.log).countP hooksOf = endings conn.state
    rw [List.countP_cons]
    exact told
  · change (Obs.written buffer :: conn.log).count .ownerClosed = endings conn.state
    rw [List.count_cons]
    exact owner
  · obtain ⟨order, flown, single, asked, unasked, closing⟩ := flows live
    obtain ⟨nothing, -⟩ := flight live
    obtain ⟨none_out, none_landing⟩ := List.append_eq_nil_iff.mp nothing
    have was : (wire (withTask conn (.writeCompleted buffer false))).flying = [buffer] := by
      simp only [wire] at none_out none_landing
      simp [wire, withTask, Wire.flying, landing, none_out, none_landing]
    rw [was] at flown
    refine ⟨order, ?_, ?_, fun requested => ?_, fun free => ?_, ?_⟩
    · change picked writtenOf (.written buffer :: conn.log) ++ (wire conn).flying =
        picked handedOf conn.log
      rw [picked_some conn.log rfl, nothing, List.append_nil]
      exact flown
    · change (wire conn).flying.length ≤ 1
      rw [nothing]
      exact Nat.zero_le 1
    · exact ⟨(asked requested).1, List.mem_cons_of_mem _ (asked requested).2⟩
    · obtain ⟨all, asks⟩ := unasked free
      exact ⟨all, by simpa [wire, withTask] using asks⟩
    · simpa [wire, withTask] using closing

theorem writeFailed_sound (choice : Choice) {buffer : WriteBuffer}
    (sound : Sound (wire (withTask conn (.writeCompleted buffer true)))) :
    Sound (wire (runTask choice conn (.writeCompleted buffer true)).1) := by
  have refunded := completed_counted sound
  obtain ⟨⟨⟨phase, counted, part, dead, sized, issued, history, told, owner⟩, -⟩, -⟩ := sound
  have accounted : Accounted (wire ({ conn with send := { conn.send with
      writeInProgress := false
      bufferBytes := conn.send.bufferBytes - buffer.size } }.note .errorNotified)) := by
    refine ⟨phase, refunded, part, dead,
      fun other member => sized other (List.mem_cons_of_mem _ member),
      fun noted => issued (List.mem_of_ne_of_mem (by simp) noted),
      history.note (by simp [handedOf]) nofun nofun nofun, ?_, ?_⟩
    · change (Obs.errorNotified :: conn.log).countP hooksOf = endings conn.state
      rw [List.countP_cons]
      exact told
    · change (Obs.errorNotified :: conn.log).count .ownerClosed = endings conn.state
      rw [List.count_cons]
      exact owner
  simp only [runTask, if_pos]
  by_cases ended : conn.state = .disconnected
  · have still : conn.state ≠ .connected := by simp [ended]
    simp only [Conn.note_state, if_neg still, doClose, if_pos ended]
    exact Sound.of_dead accounted ended
  · split
    · next connected =>
        apply doClose_sound
        · exact accounted.leaving ended
        · simp
        · nofun
        · nofun
    · exact doClose_sound accounted ended nofun nofun

theorem close_sound (sound : Sound (wire conn)) (choice : Choice) :
    Sound (wire (runTask choice conn .close).1) := by
  simp only [runTask]
  split
  · exact sound
  · next live =>
      obtain ⟨⟨⟨phase, counted, part, dead, sized, issued, history, told, owner⟩, flows⟩, idle⟩ := sound
      have accounted : Accounted (wire ({ conn with state := .disconnecting }.note .closing)) := by
        refine ⟨nofun, counted, part, nofun, sized,
          fun noted => issued (List.mem_of_ne_of_mem (by simp) noted),
          history.note (by simp [handedOf]) nofun nofun nofun, ?_, ?_⟩
        · change (Obs.closing :: conn.log).countP hooksOf = 0
          rw [List.countP_cons]
          exact told.trans (endings_live live)
        · change (Obs.closing :: conn.log).count .ownerClosed = 0
          rw [List.count_cons]
          exact owner.trans (endings_live live)
      obtain ⟨order, flown, single, asked, unasked, closing⟩ := flows live
      have flowing : Flowing (wire ({ conn with state := .disconnecting }.note .closing)) := by
        refine ⟨order, flown, single, fun requested => ?_, fun free => ?_, ?_⟩
        · exact ⟨(asked requested).1, List.mem_cons_of_mem _ (asked requested).2⟩
        · obtain ⟨all, asks⟩ := unasked free
          exact ⟨all, by simpa [wire] using asks⟩
        · simp [wire]
      dsimp only
      split
      · next drained =>
          simp only [Conn.note_send, Bool.and_eq_true, Bool.not_eq_true',
            List.isEmpty_iff] at drained
          have landed := (idle live drained.1).1
          exact doClose_sound accounted nofun
            (fun _ => flowing.all_written landed drained.2) nofun
      · exact ⟨⟨accounted, fun _ => flowing⟩, fun _ => idle live⟩

theorem forceClose_sound (choice : Choice) (sound : Sound (wire conn)) (reset : Bool) :
    Sound (wire (doForceClose choice conn reset)) := by
  unfold doForceClose
  split
  · exact sound
  · next live =>
      obtain ⟨phase, counted, part, dead, sized, issued, history, told, owner⟩ := sound.accounted
      apply doClose_sound
      · refine ⟨phase, ?_, part, fun ended => absurd ended live, sized,
          fun noted => ⟨(issued noted).1, rfl⟩, history, told, owner⟩
        simp only [wire, Wire.flying, queuedBytes, List.map_nil, List.sum_nil] at counted ⊢
        omega
      · exact live
      · nofun
      · nofun

theorem readEnd_sound (sound : Sound (wire conn)) (connected : conn.state = .connected)
    (read : ReadSide) (error : Option ErrorCode) :
    Sound (wire (doClose { conn with state := .disconnecting, read := read } .readEnd error)) := by
  have live : conn.state ≠ .disconnected := by simp [connected]
  have closing := (sound.flows live).closing
  apply doClose_sound
  · exact sound.accounted.leaving live
  · nofun
  · nofun
  · intro _ left
    cases connected.symm.trans (closing.mpr left)

theorem fault_sound (sound : Sound (wire conn)) : Sound (wire (closeOnCallbackFault conn)) := by
  unfold closeOnCallbackFault
  split
  · exact sound
  · next live => exact doClose_sound (sound.accounted.leaving live) nofun nofun nofun

theorem doRead_sound (sound : Sound (wire conn)) : Sound (wire (doRead conn)) := by
  unfold doRead
  split <;> exact sound

theorem doWatch_sound (sound : Sound (wire conn)) : Sound (wire (doWatchPeerClose conn)) := by
  unfold doWatchPeerClose
  split <;> exact sound

theorem finishStartRead_sound (choice : Choice) (sound : Sound (wire conn)) :
    Sound (wire (finishStartRead choice conn)) := by
  unfold finishStartRead
  split
  · dsimp only
    split
    · exact sound
    · next connected =>
        split
        · exact Sound.silent rfl sound
        · exact readEnd_sound sound (not_not.mp connected) _ none
  · exact doRead_sound sound

theorem finishRead_sound (choice : Choice) (sound : Sound (wire conn)) (error : Option ErrorCode) :
    Sound (wire (finishRead choice conn error)) := by
  unfold finishRead
  split
  · exact doRead_sound sound
  · dsimp only
    split
    · exact Sound.silent rfl sound
    · split
      · next connected => exact readEnd_sound sound connected _ _
      · exact sound
  · dsimp only
    split
    · split
      · next connected => exact readEnd_sound sound connected _ _
      · exact sound
    · split
      · next connected => exact readEnd_sound (Sound.silent rfl sound) connected _ _
      · exact Sound.silent rfl sound

theorem finishWatch_sound (sound : Sound (wire conn)) (connected : conn.state = .connected)
    (error : Option ErrorCode) : Sound (wire (finishWatch conn error)) := by
  unfold finishWatch
  dsimp only
  split
  · exact Sound.silent rfl sound
  · exact readEnd_sound sound connected _ _

/-- Inside a consumer callback of the strand's handler. -/
def onStrand : Act → Nat
  | .callOnConnect | .callOnWritable | .holdbackReturned | .dataReturned _ | .replayReturned _ => 1
  | _ => 0

/-- Behind the callback the handler goes on with `do_write`. -/
def resumesWrite : Callback → Bool
  | .onWritable => true
  | .onReplay outer => resumesWrite outer
  | _ => false

def beforeWrite : Act → Bool
  | .callOnWritable => true
  | .replayReturned outer => resumesWrite outer
  | _ => false

/-- What one handler leaves: the connection, and the callback it waits for. -/
structure Ran (after : Conn × List Act) : Prop where
  sound : Sound (wire after.1)
  cut : after.2 = [] ∨ ∃ act, after.2 = [act] ∧ onStrand act = 1
  drained : ∀ act ∈ after.2, beforeWrite act = true → after.1.state ≠ .disconnected →
    (wire after.1).flying = []

theorem Ran.of_sound {after : Conn} (sound : Sound (wire after)) : Ran (after, []) :=
  ⟨sound, .inl rfl, nofun⟩

/-- What a read-side handler leaves alone. -/
structure Aside (conn after : Conn) : Prop where
  flying : (wire after).flying = (wire conn).flying
  ended : conn.state = .disconnected → after.state = .disconnected
  busy : after.strandBusy = conn.strandBusy

theorem doClose_aside (cause : Cause) (error : Option ErrorCode) (abortive : Bool) :
    Aside conn (doClose conn cause error abortive) := by
  unfold doClose
  by_cases ended : conn.state = .disconnected
  · rw [if_pos ended]
    exact ⟨rfl, id, rfl⟩
  · rw [if_neg ended]
    by_cases opened : conn.socketOpen = true
    · simp only [if_pos opened]
      exact ⟨rfl, fun _ => rfl, rfl⟩
    · simp only [if_neg opened]
      exact ⟨rfl, fun _ => rfl, rfl⟩

theorem fault_aside : Aside conn (closeOnCallbackFault conn) := by
  unfold closeOnCallbackFault
  split
  · exact ⟨rfl, id, rfl⟩
  · next live =>
      obtain ⟨flying, -, busy⟩ :=
        @doClose_aside { conn with state := .disconnecting } .fault (some .ioError) false
      exact ⟨flying, fun ended => absurd ended live, busy⟩

theorem finishStartRead_aside (choice : Choice) : Aside conn (finishStartRead choice conn) := by
  by_cases pending : conn.read.closePending = true
  · simp only [finishStartRead, if_pos pending]
    by_cases connected : conn.state = .connected
    · rw [if_neg (not_not.mpr connected)]
      split
      · exact ⟨rfl, id, rfl⟩
      · obtain ⟨flying, -, busy⟩ := @doClose_aside
          { conn with state := .disconnecting, read := { conn.read with closePending := false } }
          .readEnd none false
        refine ⟨flying, fun ended => ?_, busy⟩
        cases connected.symm.trans ended
    · rw [if_pos connected]
      exact ⟨rfl, id, rfl⟩
  · simp only [finishStartRead, if_neg pending, doRead]
    split
    · exact ⟨rfl, id, rfl⟩
    · exact ⟨rfl, id, rfl⟩

theorem startRead_aside (choice : Choice) : Aside conn (runTask choice conn .startRead).1 := by
  simp only [runTask]
  split
  · exact ⟨rfl, id, rfl⟩
  · split
    · obtain ⟨flying, ended, busy⟩ := @finishStartRead_aside
        ({ conn with read := { conn.read with watchActive := false } }.note .readStarted) choice
      exact ⟨flying, ended, busy⟩
    · exact ⟨rfl, id, rfl⟩

theorem startRead_ran (choice : Choice) (sound : Sound (wire conn)) :
    Ran (runTask choice conn .startRead) := by
  simp only [runTask]
  split
  · exact .of_sound sound
  · split
    · exact .of_sound (finishStartRead_sound choice (Sound.silent rfl sound))
    · have replayed : Sound (wire ((conn.note .readStarted).note (.delivered conn.read.holdback))) :=
        Sound.silent rfl (Sound.silent rfl sound)
      exact ⟨replayed, .inr ⟨_, rfl, rfl⟩, by simp [beforeWrite]⟩

theorem runTask_ran (choice : Choice) {task : Task} (sound : Sound (wire (withTask conn task))) :
    Ran (runTask choice conn task) := by
  cases task with
  | enqueueWrite buffer =>
      have phase := sound.accounted.phase
      simp only [runTask]
      split
      · next shut =>
          apply Ran.of_sound
          apply popped_dropped sound
          intro live
          cases state : conn.state <;> simp_all [wire, withTask]
      · next alive =>
          have live : conn.state ≠ .disconnected := by
            intro ended
            simp [ended] at alive
          split
          · next requested => exact .of_sound (popped_dropped sound fun _ => requested)
          · next free =>
              exact .of_sound (enqueue_sound choice sound live ((Bool.not_eq_true _).mp free))
  | close =>
      have popped := popped_aside rfl sound
      have closed := close_sound popped choice
      simp only [runTask] at closed ⊢
      split
      · exact .of_sound popped
      · next live =>
          rw [if_neg live] at closed
          exact .of_sound closed
  | shutdownSend =>
      simp only [runTask]
      split
      · next ended =>
          apply Ran.of_sound
          exact Sound.of_dead (sound.accounted.popped rfl) ended
      · next live => exact .of_sound (shutdown_sound choice sound live)
  | forceClose reset => exact .of_sound (forceClose_sound choice (popped_aside rfl sound) reset)
  | startRead => exact startRead_ran choice (popped_aside rfl sound)
  | connected => exact ⟨popped_aside rfl sound, .inr ⟨_, rfl, rfl⟩, by simp [runTask, beforeWrite]⟩
  | watchPeerClose => exact .of_sound (doWatch_sound (popped_aside rfl sound))
  | cancelPeerCloseWatch => exact .of_sound (popped_aside rfl sound)
  | doRead => exact .of_sound (doRead_sound (popped_aside rfl sound))
  | writeCompleted buffer failed =>
      cases failed with
      | true => exact ⟨writeFailed_sound choice sound, .inl rfl, nofun⟩
      | false =>
          have moving := written_moving sound
          have flight := completed_flying sound
          simp only [runTask, Bool.false_eq_true, if_false]
          split
          · -- The callback runs before `do_write`, with the write still marked in progress.
            refine ⟨⟨moving.silent rfl, fun live stopped => ?_⟩, .inr ⟨_, rfl, rfl⟩,
              fun _ _ _ live => (flight live).1⟩
            cases (flight live).2.symm.trans stopped
          · exact .of_sound (doWrite_sound choice moving fun live => (flight live).1)
  | readCompleted data error =>
      have popped := popped_aside rfl sound
      simp only [runTask]
      split
      · exact ⟨Sound.silent rfl popped, .inr ⟨_, rfl, rfl⟩, by simp [beforeWrite]⟩
      · apply Ran.of_sound
        apply finishRead_sound
        exact popped
  | waitCompleted error =>
      have popped := popped_aside rfl sound
      simp only [runTask]
      split
      · exact .of_sound popped
      · next watching =>
          simp only [not_or, not_not] at watching
          have connected : conn.state = .connected := watching.2.2
          have finished : ∀ read error, Sound (wire (finishWatch { conn with read := read } error)) := by
            intro read error
            apply finishWatch_sound
            · exact popped
            · exact connected
          split
          · exact .of_sound (finished _ _)
          · split
            · exact .of_sound (doWatch_sound popped)
            · exact .of_sound (readEnd_sound popped connected _ _)
            · exact .of_sound (finished _ _)

end Tasks

section Runs
variable {conn : Conn} {bag : Multiset Act}

/-- Calls post anything but a write or the completion of one. -/
def posts : Act → Bool
  | .post (.enqueueWrite _) | .post (.writeCompleted _ _) => false
  | _ => true

/-- A write between its empty check and its post. -/
def carries : Act → Option WriteBuffer
  | .writeMeasure buffer | .writePost buffer _ => some buffer
  | _ => none

structure Guarded (conn : Conn) (bag : Multiset Act) : Prop where
  sound : Sound (wire conn)
  strand : weigh onStrand bag = if conn.strandBusy then 1 else 0
  drained : ∀ act ∈ bag, beforeWrite act = true → conn.state ≠ .disconnected →
    (wire conn).flying = []
  posted : ∀ act ∈ bag, posts act = true
  carried : ∀ act ∈ bag, ∀ buffer, carries act = some buffer → 0 < buffer.size

theorem post_aside {task : Task} (plain : aside task = true) (sound : Sound (wire conn)) :
    Sound (wire (conn.post task)) ∧ (wire (conn.post task)).flying = (wire conn).flying := by
  have lands : landing [task] = [] := by
    cases task <;> first | rfl | cases plain
  have flies : (wire (conn.post task)).flying = (wire conn).flying := by
    simp only [wire, Conn.post, Wire.flying, landing_append, lands, List.append_nil]
  refine ⟨?_, flies⟩
  obtain ⟨⟨⟨phase, counted, part, dead, sized, issued, history, told, owner⟩, flows⟩, idle⟩ := sound
  refine ⟨⟨⟨phase, flies ▸ counted, part, dead, ?_, issued, history, told, owner⟩, fun live => ?_⟩,
    fun live stopped => flies ▸ idle live stopped⟩
  · intro buffer member
    rcases List.mem_append.mp member with earlier | new
    · exact sized buffer earlier
    · rw [List.mem_singleton] at new
      subst new
      cases plain
  · obtain ⟨order, flown, single, asked, unasked, closing⟩ := flows live
    refine ⟨order, flies ▸ flown, flies ▸ single, asked, fun free => ?_, closing⟩
    obtain ⟨all, asks⟩ := unasked free
    have pends : pendingFirst (conn.posted ++ [task]) = pendingFirst conn.posted := by
      rw [pendingFirst_append]
      split
      · rfl
      · cases task <;> first | exact List.append_nil _ | cases plain
    have other : Task.shutdownSend ≠ task := by
      rintro rfl
      cases plain
    exact ⟨(congrArg _ pends).trans all, asks.trans (by simp [wire, Conn.post, other])⟩

/-- `shutdown_send` takes its place behind the writes posted before it. -/
theorem post_shutdown (sound : Sound (wire conn)) :
    Sound (wire ((conn.post .shutdownSend).note .shutdownPosted)) ∧
      (wire ((conn.post .shutdownSend).note .shutdownPosted)).flying = (wire conn).flying := by
  have flies : (wire ((conn.post .shutdownSend).note .shutdownPosted)).flying =
      (wire conn).flying := by
    simp [wire, Conn.post, Wire.flying, landing_append, landing]
  refine ⟨?_, flies⟩
  obtain ⟨⟨⟨phase, counted, part, dead, sized, issued, history, told, owner⟩, flows⟩, idle⟩ := sound
  refine ⟨⟨⟨phase, flies ▸ counted, part, dead, ?_,
    fun noted => issued (List.mem_of_ne_of_mem (by simp) noted),
    history.note (by simp [handedOf]) nofun nofun nofun, ?_, ?_⟩, fun live => ?_⟩,
    fun live stopped => flies ▸ idle live stopped⟩
  · intro buffer member
    rcases List.mem_append.mp member with earlier | new
    · exact sized buffer earlier
    · simp at new
  · change (Obs.shutdownPosted :: conn.log).countP hooksOf = endings conn.state
    rw [List.countP_cons]
    exact told
  · change (Obs.shutdownPosted :: conn.log).count .ownerClosed = endings conn.state
    rw [List.count_cons]
    exact owner
  · obtain ⟨order, flown, single, asked, unasked, closing⟩ := flows live
    refine ⟨order, flies ▸ flown, flies ▸ single,
      fun requested => ⟨(asked requested).1, List.mem_cons_self⟩, fun free => ?_, ?_⟩
    · obtain ⟨all, asks⟩ := unasked free
      have pends : pendingFirst (conn.posted ++ [.shutdownSend]) = pendingFirst conn.posted := by
        rw [pendingFirst_append]
        split
        · rfl
        · exact List.append_nil _
      exact ⟨(congrArg _ pends).trans all, by simp [wire, Conn.post]⟩
    · simpa [wire, Conn.post] using closing

theorem post_write {buffer : WriteBuffer} (some_bytes : 0 < buffer.size) (sound : Sound (wire conn)) :
    Sound (wire ((conn.post (.enqueueWrite buffer)).note (.writePosted buffer))) ∧
      (wire ((conn.post (.enqueueWrite buffer)).note (.writePosted buffer))).flying =
        (wire conn).flying := by
  have flies : (wire ((conn.post (.enqueueWrite buffer)).note (.writePosted buffer))).flying =
      (wire conn).flying := by
    simp [wire, Conn.post, Wire.flying, landing_append, landing]
  refine ⟨?_, flies⟩
  obtain ⟨⟨⟨phase, counted, part, dead, sized, issued, history, told, owner⟩, flows⟩, idle⟩ := sound
  refine ⟨⟨⟨phase, flies ▸ counted, part, dead, ?_,
    fun noted => issued (List.mem_of_ne_of_mem (by simp) noted),
    history.note (by simp [handedOf]) nofun nofun nofun, ?_, ?_⟩, fun live => ?_⟩,
    fun live stopped => flies ▸ idle live stopped⟩
  · intro other member
    rcases List.mem_append.mp member with earlier | new
    · exact sized other earlier
    · simp only [List.mem_singleton, Task.enqueueWrite.injEq] at new
      exact new ▸ some_bytes
  · change (Obs.writePosted buffer :: conn.log).countP hooksOf = endings conn.state
    rw [List.countP_cons]
    exact told
  · change (Obs.writePosted buffer :: conn.log).count .ownerClosed = endings conn.state
    rw [List.count_cons]
    exact owner
  · obtain ⟨order, flown, single, asked, unasked, closing⟩ := flows live
    refine ⟨order, flies ▸ flown, flies ▸ single, fun requested => ?_, fun free => ?_, ?_⟩
    · obtain ⟨all, before⟩ := asked requested
      have before : Obs.shutdownPosted ∈ conn.log := before
      have first : postedFirst (.writePosted buffer :: conn.log) = postedFirst conn.log := by
        rw [postedFirst, if_pos before]
      exact ⟨all.trans first.symm, List.mem_cons_of_mem _ before⟩
    · obtain ⟨all, asks⟩ := unasked free
      have asks : Obs.shutdownPosted ∈ conn.log ↔ Task.shutdownSend ∈ conn.posted := asks
      refine ⟨?_, by simpa [wire, Conn.post] using asks⟩
      change picked enqueuedOf conn.log ++ pendingFirst (conn.posted ++ [.enqueueWrite buffer]) =
        postedFirst (.writePosted buffer :: conn.log)
      rw [pendingFirst_append, postedFirst]
      by_cases before : Obs.shutdownPosted ∈ conn.log
      · rw [if_pos (asks.mp before), if_pos before]
        exact all
      · rw [if_neg fun later => before (asks.mpr later), if_neg before, ← List.append_assoc]
        exact congrArg (· ++ [buffer]) all
    · simpa [wire, Conn.post] using closing

/-- The socket completes a write: the buffer moves to the strand's queue. -/
theorem post_completed {buffer : WriteBuffer} {rest : List WriteBuffer} {failed : Bool}
    (out : conn.send.outstanding = buffer :: rest) (sound : Sound (wire conn)) :
    Sound (wire ({ conn with send := { conn.send with outstanding := rest } }.post
        (.writeCompleted buffer failed))) ∧
      ((wire conn).flying = [] → False) := by
  obtain ⟨⟨⟨phase, counted, part, dead, sized, issued, history, told, owner⟩, flows⟩, idle⟩ := sound
  have was : (wire conn).flying = buffer :: rest ++ landing conn.posted := by
    simp [wire, Wire.flying, out]
  have now : (wire ({ conn with send := { conn.send with outstanding := rest } }.post
      (.writeCompleted buffer failed))).flying = rest ++ (landing conn.posted ++ [buffer]) := by
    simp [wire, Conn.post, Wire.flying, landing_append, landing]
  refine ⟨⟨⟨⟨phase, ?_, part, dead, ?_, issued, history, told, owner⟩, fun live => ?_⟩,
    fun live stopped => ?_⟩, ?_⟩
  · have sums : queuedBytes (rest ++ (landing conn.posted ++ [buffer])) =
        queuedBytes (wire conn).flying := by
      rw [was]
      simp only [queuedBytes, List.map_append, List.map_cons, List.map_nil, List.sum_append,
        List.sum_cons, List.sum_nil]
      omega
    rw [now, sums]
    exact counted
  · intro other member
    rcases List.mem_append.mp member with earlier | new
    · exact sized other earlier
    · simp at new
  · obtain ⟨order, flown, single, asked, unasked, closing⟩ := flows live
    -- Only one buffer is in the socket, so the order of completions does not show.
    have alone : rest = [] ∧ landing conn.posted = [] := by
      rw [was] at single
      simp only [List.cons_append, List.length_cons, List.length_append] at single
      exact ⟨List.eq_nil_of_length_eq_zero (by omega), List.eq_nil_of_length_eq_zero (by omega)⟩
    have kept : rest ++ (landing conn.posted ++ [buffer]) = (wire conn).flying := by
      rw [was, alone.1, alone.2]
      rfl
    refine ⟨order, ?_, ?_, asked, fun free => ?_, closing⟩
    · rw [now, kept]
      exact flown
    · rw [now, kept]
      exact single
    · obtain ⟨all, asks⟩ := unasked free
      have pends : pendingFirst (conn.posted ++ [.writeCompleted buffer failed]) =
          pendingFirst conn.posted := by
        rw [pendingFirst_append]
        split
        · rfl
        · exact List.append_nil _
      exact ⟨(congrArg _ pends).trans all, asks.trans (by simp [wire, Conn.post])⟩
  · have landed := (idle live stopped).1
    rw [was] at landed
    cases landed
  · intro landed
    rw [was] at landed
    cases landed

theorem light_plain {act : Act} (light : onStrand act = 0) : beforeWrite act = false := by
  cases act with
  | callOnWritable | replayReturned _ => cases light
  | _ => rfl

theorem no_callback {others : Multiset Act} (off : weigh onStrand others = 0) {act : Act}
    (member : act ∈ others) : beforeWrite act = false := by
  have heavy : onStrand act ≤ weigh onStrand others := weight_le_weigh member
  rw [off] at heavy
  exact light_plain (Nat.le_zero.mp heavy)

theorem callback_plain {act : Act} (inside : onStrand act = 1) :
    posts act = true ∧ carries act = none := by
  cases act <;> first | exact ⟨rfl, rfl⟩ | cases inside

theorem Guarded.off {after : Conn} {act : Act} {new : List Act} {others : Multiset Act}
    (guarded : Guarded conn (act ::ₘ others)) (sound : Sound (wire after))
    (busy : after.strandBusy = conn.strandBusy) (light : onStrand act = 0)
    (weightless : ∀ act ∈ new, onStrand act = 0 ∧ posts act = true)
    (live : after.state = conn.state)
    (flies : (wire conn).flying = [] → (wire after).flying = [])
    (carried : ∀ act ∈ new, ∀ buffer, carries act = some buffer → 0 < buffer.size) :
    Guarded after (↑new + others) := by
  obtain ⟨-, strand, drained, posted, sized⟩ := guarded
  have new_light : weigh onStrand ↑new = 0 :=
    weigh_eq_zero fun act member => (weightless act (Multiset.mem_coe.mp member)).1
  rw [weigh_cons, light, Nat.zero_add] at strand
  refine ⟨sound, ?_, ?_, ?_, ?_⟩
  · rw [weigh_add, new_light, busy, strand, Nat.zero_add]
  · intro other member writes alive
    rcases Multiset.mem_add.mp member with fresh | kept
    · rw [light_plain (weightless other (Multiset.mem_coe.mp fresh)).1] at writes
      cases writes
    · exact flies (drained other (Multiset.mem_cons_of_mem kept) writes (live ▸ alive))
  · intro other member
    rcases Multiset.mem_add.mp member with fresh | kept
    · exact (weightless other (Multiset.mem_coe.mp fresh)).2
    · exact posted other (Multiset.mem_cons_of_mem kept)
  · intro other member
    rcases Multiset.mem_add.mp member with fresh | kept
    · exact carried other (Multiset.mem_coe.mp fresh)
    · exact sized other (Multiset.mem_cons_of_mem kept)

theorem Guarded.back {after : Conn} {act : Act} {others : Multiset Act}
    (guarded : Guarded conn (act ::ₘ others)) (inside : onStrand act = 1)
    (sound : Sound (wire after)) :
    Guarded { after with strandBusy := false } (↑([] : List Act) + others) := by
  obtain ⟨-, strand, drained, posted, sized⟩ := guarded
  rw [weigh_cons, inside] at strand
  have off : weigh onStrand others = 0 := by
    split at strand <;> omega
  rw [Multiset.coe_nil, zero_add]
  refine ⟨sound, off, fun other kept writes => ?_,
    fun other kept => posted other (Multiset.mem_cons_of_mem kept),
    fun other kept => sized other (Multiset.mem_cons_of_mem kept)⟩
  rw [no_callback off kept] at writes
  cases writes

theorem cut_inside (callback : Callback) :
    onStrand callback.cut = 1 ∧ beforeWrite callback.cut = resumesWrite callback := by
  cases callback <;> exact ⟨rfl, rfl⟩

theorem Guarded.onward {after : Conn} {act next : Act} {others : Multiset Act}
    (guarded : Guarded conn (act ::ₘ others)) (inside : onStrand act = 1)
    (sound : Sound (wire after)) (aside : Aside conn after) (goes : onStrand next = 1)
    (same : beforeWrite next = beforeWrite act) : Guarded after (↑[next] + others) := by
  obtain ⟨-, strand, drained, posted, sized⟩ := guarded
  have plain := callback_plain goes
  rw [weigh_cons, inside] at strand
  have off : weigh onStrand others = 0 := by
    split at strand <;> omega
  rw [Multiset.coe_singleton]
  refine ⟨sound, ?_, ?_, ?_, ?_⟩
  · rw [weigh_add, weigh_singleton, goes, aside.busy]
    exact strand
  · intro other member writes alive
    rcases Multiset.mem_add.mp member with fresh | kept
    · rw [Multiset.mem_singleton.mp fresh, same] at writes
      rw [aside.flying]
      exact drained act (Multiset.mem_cons_self _ _) writes fun ended => alive (aside.ended ended)
    · rw [no_callback off kept] at writes
      cases writes
  · intro other member
    rcases Multiset.mem_add.mp member with fresh | kept
    · rw [Multiset.mem_singleton.mp fresh]
      exact plain.1
    · exact posted other (Multiset.mem_cons_of_mem kept)
  · intro other member buffer held
    rcases Multiset.mem_add.mp member with fresh | kept
    · rw [Multiset.mem_singleton.mp fresh, plain.2] at held
      cases held
    · exact sized other (Multiset.mem_cons_of_mem kept) buffer held

theorem callback_guarded (choice : Choice) (callback : Callback) (returned : Conn × List Act)
    {others : Multiset Act} (guarded : Guarded conn (callback.cut ::ₘ others))
    (returns : Guarded returned.1 (↑returned.2 + others)) :
    Guarded (runCallback choice conn callback returned).1
      (↑(runCallback choice conn callback returned).2 + others) := by
  obtain ⟨inside, writes⟩ := cut_inside callback
  unfold runCallback
  split
  · exact returns
  · have ran := @startRead_ran (conn.note .startPosted) choice (Sound.silent rfl guarded.sound)
    obtain ⟨flying, ended, busy⟩ := @startRead_aside (conn.note .startPosted) choice
    simp only [startReadInside]
    split
    · exact guarded.onward inside ran.sound ⟨flying, ended, busy⟩ inside rfl
    · exact guarded.onward inside ran.sound ⟨flying, ended, busy⟩ rfl writes.symm
  · exact guarded.onward inside guarded.sound ⟨rfl, id, rfl⟩ inside rfl

theorem strand_guarded (choice : Choice) {others : Multiset Act}
    (guarded : Guarded conn (.strandNext ::ₘ others)) :
    Guarded (exec choice conn .strandNext).1 (↑(exec choice conn .strandNext).2 + others) := by
  have same : Guarded conn (↑([] : List Act) + others) :=
    guarded.off guarded.sound rfl rfl (by simp) rfl id (by simp)
  simp only [exec]
  split
  · exact same
  · next free =>
      split
      · exact same
      · next task rest queue =>
          obtain ⟨sound, strand, drained, posted, sized⟩ := guarded
          have off : weigh onStrand others = 0 := by
            rw [weigh_cons, if_neg free] at strand
            exact (Nat.eq_zero_of_add_eq_zero strand).2
          have split_queue : wire (withTask { conn with posted := rest } task) = wire conn := by
            simp [wire, withTask, queue]
          have ran : Ran (runTask choice { conn with posted := rest } task) :=
            runTask_ran choice (split_queue ▸ sound)
          obtain ⟨ran_sound, cut, ran_drained⟩ := ran
          have calls : ∀ act ∈ (runTask choice { conn with posted := rest } task).2,
              onStrand act = 1 := by
            intro act fresh
            rcases cut with none | ⟨only, one, inside⟩
            · rw [none] at fresh
              cases fresh
            · rw [one, List.mem_singleton] at fresh
              exact fresh ▸ inside
          refine ⟨ran_sound, ?_, ?_, ?_, ?_⟩
          · rw [weigh_add, off]
            rcases cut with none | ⟨act, one, inside⟩
            · simp [none]
            · simp [one, inside]
          · intro other member writes alive
            rcases Multiset.mem_add.mp member with fresh | kept
            · exact ran_drained other (Multiset.mem_coe.mp fresh) writes alive
            · rw [no_callback off kept] at writes
              cases writes
          · intro other member
            rcases Multiset.mem_add.mp member with fresh | kept
            · exact (callback_plain (calls other (Multiset.mem_coe.mp fresh))).1
            · exact posted other (Multiset.mem_cons_of_mem kept)
          · intro other member buffer held
            rcases Multiset.mem_add.mp member with fresh | kept
            · rw [(callback_plain (calls other (Multiset.mem_coe.mp fresh))).2] at held
              cases held
            · exact sized other (Multiset.mem_cons_of_mem kept) buffer held

theorem exec_guarded (choice : Choice) (act : Act) {others : Multiset Act}
    (guarded : Guarded conn (act ::ₘ others)) :
    Guarded (exec choice conn act).1 (↑(exec choice conn act).2 + others) := by
  have sound := guarded.sound
  have same : onStrand act = 0 → Guarded conn (↑([] : List Act) + others) := fun light =>
    guarded.off sound rfl light (by simp) rfl id (by simp)
  cases act with
  | write buffer =>
      simp only [exec]
      split
      · exact guarded.off (Sound.silent rfl sound) rfl rfl (by simp) rfl id (by simp)
      · exact guarded.off sound rfl rfl (by simp [onStrand, posts]) rfl id (by simp [carries])
  | writeGate buffer =>
      simp only [exec]
      split
      · exact guarded.off (Sound.silent rfl sound) rfl rfl (by simp) rfl id (by simp)
      · split
        · exact guarded.off (Sound.silent rfl sound) rfl rfl (by simp) rfl id (by simp)
        · next some_bytes =>
            exact guarded.off sound rfl rfl (by simp [onStrand, posts]) rfl id
              (by simp [carries]; omega)
  | writeMeasure buffer =>
      have some_bytes := guarded.carried _ (Multiset.mem_cons_self _ _) buffer rfl
      exact guarded.off sound rfl rfl (by simp [exec, onStrand, posts]) rfl id
        (by simpa [exec, carries] using some_bytes)
  | writePost buffer full =>
      have some_bytes := guarded.carried _ (Multiset.mem_cons_self _ _) buffer rfl
      obtain ⟨posted, flies⟩ := post_write some_bytes sound
      exact guarded.off (Sound.silent rfl posted) rfl rfl (by simp [exec]) rfl
        (fun landed => flies.trans landed) (by simp [exec])
  | post task =>
      have plain := guarded.posted _ (Multiset.mem_cons_self _ _)
      by_cases shut : task = .shutdownSend
      · subst shut
        obtain ⟨posted, flies⟩ := post_shutdown sound
        exact guarded.off posted rfl rfl (by simp [exec]) rfl (fun landed => flies.trans landed)
          (by simp [exec])
      · have apart : aside task = true := by
          cases task <;> first | rfl | exact absurd rfl shut | cases plain
        obtain ⟨posted, flies⟩ := post_aside apart sound
        have noted : Sound (wire ((conn.post task).noteCall task)) := by
          unfold Conn.noteCall
          split
          · exact absurd rfl shut
          · exact Sound.silent rfl posted
          · exact Sound.silent rfl posted
          · exact posted
        have same : ((conn.post task).noteCall task).strandBusy = conn.strandBusy ∧
            ((conn.post task).noteCall task).state = conn.state ∧
            (wire ((conn.post task).noteCall task)).flying = (wire (conn.post task)).flying := by
          unfold Conn.noteCall
          split <;> exact ⟨rfl, rfl, rfl⟩
        exact guarded.off noted same.1 rfl (by simp [exec]) same.2.1
          (fun landed => same.2.2.trans (flies.trans landed)) (by simp [exec])
  | pauseRead => exact guarded.off sound rfl rfl (by simp [exec]) rfl id (by simp [exec])
  | resumeRead =>
      by_cases was_paused : conn.read.paused = true
      · simp only [exec, if_pos was_paused]
        exact guarded.off sound rfl rfl (by simp [onStrand, posts]) rfl id (by simp [carries])
      · simp only [exec, if_neg was_paused]
        exact guarded.off sound rfl rfl (by simp) rfl id (by simp)
  | setMaxWriteBufferSize bytes =>
      exact guarded.off sound rfl rfl (by simp [exec]) rfl id (by simp [exec])
  | strandNext => exact strand_guarded choice guarded
  | callOnConnect => exact callback_guarded choice .onConnect _ guarded (guarded.back rfl sound)
  | callOnWritable =>
      apply callback_guarded choice .onWritable _ guarded
      split
      · exact guarded.back rfl (fault_sound sound)
      · have landed := guarded.drained _ (Multiset.mem_cons_self _ _) rfl
        apply guarded.back rfl
        apply doWrite_sound
        · split <;> exact sound.toMoving
        · split <;> exact landed
  | holdbackReturned =>
      apply callback_guarded choice .onHoldback _ guarded
      apply guarded.back rfl
      apply finishStartRead_sound
      split
      · exact fault_sound sound
      · exact sound
  | dataReturned error =>
      apply callback_guarded choice (.onData error) _ guarded
      split
      · exact guarded.back rfl (fault_sound sound)
      · exact guarded.back rfl (finishRead_sound choice sound error)
  | replayReturned outer =>
      obtain ⟨inside, writes⟩ := cut_inside outer
      apply callback_guarded choice (.onReplay outer) _ guarded
      split
      · obtain ⟨flying, ended, busy⟩ := @fault_aside conn
        obtain ⟨flying', ended', busy'⟩ := @finishStartRead_aside (closeOnCallbackFault conn) choice
        exact guarded.onward rfl (finishStartRead_sound choice (fault_sound sound))
          ⟨flying'.trans flying, ended' ∘ ended, busy'.trans busy⟩ inside writes
      · exact guarded.onward rfl (finishStartRead_sound choice sound)
          (finishStartRead_aside choice) inside writes
  | writeCompletes =>
      simp only [exec]
      split
      · exact same rfl
      · next buffer rest out =>
          obtain ⟨moved, airborne⟩ := post_completed out sound
          exact guarded.off moved rfl rfl (by simp) rfl (fun landed => absurd landed airborne)
            (by simp)
  | readCompletes =>
      simp only [exec]
      split
      · exact same rfl
      · next read data error _ =>
          obtain ⟨posted, flies⟩ :=
            @post_aside { conn with read := read } (.readCompleted data error) rfl sound
          exact guarded.off posted rfl rfl (by simp) rfl (fun landed => flies.trans landed) (by simp)
  | waitCompletes =>
      simp only [exec]
      split
      · exact same rfl
      · obtain ⟨posted, flies⟩ := @post_aside
          { conn with read := { conn.read with waits := conn.read.waits - 1 } }
          (.waitCompleted (if !conn.socketOpen then some .operationAborted
            else if choice.waitFails then some .other else none)) rfl sound
        exact guarded.off posted rfl rfl (by simp) rfl (fun landed => flies.trans landed) (by simp)
  | peerSends data =>
      simp only [exec]
      split
      · exact same rfl
      · exact guarded.off sound rfl rfl (by simp) rfl id (by simp)
  | peerEnds ended discards =>
      simp only [exec]
      split
      · exact same rfl
      · exact guarded.off sound rfl rfl (by simp) rfl id (by simp)

variable {config : Config Conn Act}

theorem adopted_sound (adopted : Adopted conn) : Sound (wire conn) := by
  have history : History [] := by
    constructor <;> simp
  obtain ⟨maxBuffer, rfl | rfl⟩ := adopted
  all_goals exact ⟨⟨⟨nofun, rfl, List.prefix_refl _, nofun, nofun, nofun, history, rfl, rfl⟩,
    fun _ => ⟨rfl, rfl, Nat.zero_le 1, nofun, fun _ => ⟨rfl, by simp [wire]⟩, by simp [wire]⟩⟩,
    fun _ _ => ⟨rfl, rfl⟩⟩

theorem start_plain (op : Op) :
    ∀ act ∈ start op, onStrand act = 0 ∧ posts act = true ∧ carries act = none := by
  cases op <;> simp [start, onStrand, posts, carries]

theorem reach_guarded {guard : Guard Conn Act Op Choice}
    (reached : Reach connectionProgram guard Adopted config) :
    Guarded config.shared config.bag := by
  apply Reach.bag_invariant Guarded _ _ _ reached
  · intro conn adopted
    have idle : conn.strandBusy = false := by
      obtain ⟨maxBuffer, rfl | rfl⟩ := adopted <;> rfl
    exact ⟨adopted_sound adopted, by simp [idle], by simp, by simp, by simp⟩
  · intro conn bag op guarded _
    have plain := start_plain op
    obtain ⟨sound, strand, drained, posted, sized⟩ := guarded
    have light : weigh onStrand ↑(start op) = 0 :=
      weigh_eq_zero fun act member => (plain act (Multiset.mem_coe.mp member)).1
    refine ⟨sound, ?_, ?_, ?_, ?_⟩
    · change weigh onStrand (↑(start op) + bag) = _
      rw [weigh_add, light, Nat.zero_add, strand]
    · intro act member writes alive
      rcases Multiset.mem_add.mp member with fresh | kept
      · rw [light_plain (plain act (Multiset.mem_coe.mp fresh)).1] at writes
        cases writes
      · exact drained act kept writes alive
    · intro act member
      rcases Multiset.mem_add.mp member with fresh | kept
      · exact (plain act (Multiset.mem_coe.mp fresh)).2.1
      · exact posted act kept
    · intro act member buffer held
      rcases Multiset.mem_add.mp member with fresh | kept
      · rw [(plain act (Multiset.mem_coe.mp fresh)).2.2] at held
        cases held
      · exact sized act kept buffer held
  · intro choice conn act others guarded _
    exact exec_guarded choice act guarded

/-- The contract of the write path. `flying` is what the socket has of it. -/
structure WritePathIntact (conn : Conn) : Prop where
  inOrder : bytesOf (picked handedOf conn.log) <+: bytesOf (picked enqueuedOf conn.log)
  finLast : ∀ older, .sendShutdown :: older <:+ conn.log →
    picked handedOf conn.log = picked handedOf older ∧
      picked writtenOf older = picked enqueuedOf older ∧
      postedFirst older <+: picked writtenOf older
  counted : conn.send.bufferBytes =
    (queuedBytes conn.send.queue + queuedBytes (wire conn).flying : Nat)
  graceful : ∀ older abortive, .socketClosed .graceful abortive :: older <:+ conn.log →
    picked writtenOf older = picked enqueuedOf older
  unforced : ∀ older abortive, .socketClosed .readEnd abortive :: older <:+ conn.log →
    .closing ∉ older
  closedOnce : conn.state = .disconnected →
    conn.log.countP hooksOf = 1 ∧ conn.log.count .ownerClosed = 1
  closedFirst : conn.state ≠ .disconnected →
    conn.log.countP hooksOf = 0 ∧ conn.log.count .ownerClosed = 0

theorem bytesOf_append (first second : List WriteBuffer) :
    bytesOf (first ++ second) = bytesOf first ++ bytesOf second := by
  simp [bytesOf]

/-- Every order of calls, completions and reads keeps the write path intact. -/
theorem write_path_intact (reached : Reach connectionProgram always Adopted config) :
    WritePathIntact config.shared := by
  have accounted := (reach_guarded reached).sound.accounted
  obtain ⟨rest, split⟩ := accounted.part
  have split : picked handedOf config.shared.log ++ rest = picked enqueuedOf config.shared.log :=
    split
  constructor
  · rw [← split, bytesOf_append]
    exact List.prefix_append _ _
  · exact accounted.history.shut
  · exact accounted.counted
  · exact accounted.history.graceful
  · exact accounted.history.readEnds
  · intro ended
    have told := accounted.told
    have owner := accounted.owner
    rw [show (wire config.shared).state = .disconnected from ended] at told owner
    exact ⟨told, owner⟩
  · intro live
    exact ⟨accounted.told.trans (endings_live live), accounted.owner.trans (endings_live live)⟩

/-- Two writes, a shutdown behind them and a graceful close: the FIN goes out
when the second write has completed, and the close follows it. -/
theorem write_path_intact_drained :
    ∃ config, Reach connectionProgram always Adopted config ∧ WritePathIntact config.shared ∧
      config.shared.state = .disconnected ∧
      bytesOf (picked writtenOf config.shared.log) = [1, 2, 3] ∧
      .sendShutdown ∈ config.shared.log ∧ .socketClosed .graceful false ∈ config.shared.log := by
  let schedule : List (Event Op Choice) := List.flatten
    [[.call (.write [1, 2])], List.replicate 4 (.run 0 {}),
     [.call (.writeView [3])], List.replicate 4 (.run 1 {}),
     [.call .shutdownSend, .run 2 {}, .call .close, .run 3 {}],
     [.call .strandNext, .run 4 {}, .call .strandNext, .run 5 {}, .call .strandNext, .run 6 {},
      .call .strandNext, .run 7 {}],
     [.call .writeCompletes, .run 8 {}, .call .strandNext, .run 9 {}],
     [.call .writeCompletes, .run 10 {}, .call .strandNext, .run 11 {}]]
  have run := Reach.exists_of_replay connectionProgram always Adopted {} schedule
    (fun config => decide (config.shared.state = .disconnected ∧
      bytesOf (picked writtenOf config.shared.log) = [1, 2, 3] ∧
      .sendShutdown ∈ config.shared.log ∧ .socketClosed .graceful false ∈ config.shared.log))
    ⟨_, .inl rfl⟩ (by decide)
  obtain ⟨config, reached, met⟩ := run
  obtain ⟨ended, bytes, shut, closed⟩ := of_decide_eq_true met
  exact ⟨config, reached, write_path_intact reached, ended, bytes, shut, closed⟩

end Runs

end ToxTunnel.TcpWritePath
