import ToxTunnel.TcpReadPath

/-!
Runs of the read path. `watch_peer_close` is called at most once and before
`start_read`, reads are paused only once reading was asked for, and the consumer
does not throw: then the peer's bytes reach it in order and reading never stalls.
-/

namespace ToxTunnel.TcpReadPath
open Interleaving TcpConnection
open TunnelState (Bytes)
open TcpWrite (ConnectionState)

section Kernel
variable {r : Reader} {task : Task}

theorem landedBytes_other (apart : isReadDone task = false) (tasks : List Task) :
    landedBytes (tasks ++ [task]) = landedBytes tasks := by
  rw [landedBytes_append]
  cases task with
  | readCompleted data error => cases apart
  | _ => simp [landedBytes]

theorem mem_queue {tasks : List Task} {other : Task} (apart : other ≠ task)
    (member : other ∈ tasks ++ [task]) : other ∈ tasks := by
  rcases List.mem_append.mp member with before | now
  · exact before
  · exact absurd (List.mem_singleton.mp now) apart

theorem Core.queue (core : Core r) (reads : isReadDone task = false)
    (waits : isWaitDone task = false)
    (watch : task = .watchPeerClose →
      .watchPosted ∈ r.events ∧ Unwatched r ∧ .watchPeerClose ∉ r.tasks ∧ .startRead ∉ r.tasks) :
    Core { r with tasks := r.tasks ++ [task] } :=
  { core with
    order := by
      have order := core.order
      simp only [Reader.received] at order ⊢
      rw [landedBytes_other reads]
      exact order
    whole := by
      have whole := core.whole
      simp only [Reader.received] at whole ⊢
      rw [landedBytes_other reads]
      exact whole
    aborted := fun data member => by
      apply core.aborted data
      apply mem_queue _ member
      rintro rfl
      cases reads
    reads := by
      have counted := core.reads
      simp only [List.countP_append, List.countP_singleton, reads]
      exact counted
    waits := by
      have counted := core.waits
      simp only [List.countP_append, List.countP_singleton, waits]
      exact counted
    once := by
      have once := core.once
      rw [List.count_append]
      by_cases same : task = .watchPeerClose
      · have none := List.count_eq_zero_of_not_mem (watch same).2.2.1
        simp [same, none]
      · have none : [task].count .watchPeerClose = 0 :=
          List.count_eq_zero_of_not_mem (by simpa using Ne.symm same)
        rw [none]
        exact once
    watched := fun member => by
      by_cases same : task = .watchPeerClose
      · exact ⟨(watch same).1, { (watch same).2.1 with }⟩
      · obtain ⟨posted, fresh⟩ := core.watched (mem_queue (Ne.symm same) member)
        exact ⟨posted, { fresh with }⟩
    unwatched := fun none => { core.unwatched none with }
    first := watchFirst_append core.first fun same => (watch same).2.2.2
    kept := fun held seen => { core.kept held seen with } }

theorem completeRead_spec {choice : Choice} {opened : Bool} {read after : ReadSide} {data : Bytes}
    {error : Option ErrorCode} (completes : completeRead choice opened read = some (after, data, error)) :
    0 < read.reads ∧ (error = some .operationAborted → data = []) ∧ (opened = false → data = []) ∧
      ∃ arrived, read.arrived = data ++ arrived ∧
        after = { read with reads := read.reads - 1, arrived := arrived } := by
  unfold completeRead at completes
  split at completes
  · cases completes
  · next some_out =>
      refine ⟨Nat.pos_of_ne_zero some_out, ?_⟩
      dsimp only at completes
      split at completes
      · cases completes
        exact ⟨fun _ => rfl, fun _ => rfl, _, rfl, rfl⟩
      · next alive =>
          have shut : opened = false → data = [] := fun closed => by simp [closed] at alive
          split at completes
          · cases completes
            exact ⟨nofun, fun _ => rfl, _, rfl, rfl⟩
          · cases arrived : read.arrived with
            | nil =>
                simp only [arrived, Option.map_eq_some_iff, Prod.mk.injEq] at completes
                obtain ⟨ending, -, rfl, rfl, rfl⟩ := completes
                exact ⟨fun _ => rfl, fun _ => rfl, [], rfl, by simp [← arrived]⟩
            | cons byte more =>
                simp only [arrived, Option.some.injEq, Prod.mk.injEq] at completes
                obtain ⟨rfl, rfl, ends⟩ := completes
                refine ⟨fun aborted => ?_, shut, _, (List.take_append_drop _ _).symm, rfl⟩
                rw [aborted] at ends
                split at ends
                · cases ended : read.peerEnd with
                  | none => simp [ended] at ends
                  | some ending => cases ending <;> simp [ended] at ends
                · cases ends

theorem Core.readDone {data arrived : Bytes} {error : Option ErrorCode} (core : Core r)
    (out : 0 < r.read.reads) (aborted : error = some .operationAborted → data = [])
    (shut : r.socketOpen = false → data = []) (split : r.read.arrived = data ++ arrived) :
    Core { r with
      tasks := r.tasks ++ [.readCompleted data error]
      read := { r.read with reads := r.read.reads - 1, arrived := arrived } } := by
  have landed : landedBytes (r.tasks ++ [.readCompleted data error]) = landedBytes r.tasks ++ data := by
    simp [landedBytes_append, landedBytes]
  have counted := core.reads
  have bound : r.read.inFlight.toNat ≤ 1 := Bool.toNat_le _
  have apart : ∀ {other}, isReadDone other = false → other ∈ r.tasks ++ [.readCompleted data error] →
      other ∈ r.tasks := fun plain member => mem_queue (by rintro rfl; cases plain) member
  exact { core with
    order := by
      have order := core.order
      by_cases opened : r.socketOpen = true
      · rcases core.whole opened with complete | ⟨empty, -⟩
        · simp only [Reader.received, landed] at complete ⊢
          refine ⟨arrived, ?_⟩
          rw [← complete, split]
          simp
        · rw [split, List.append_eq_nil_iff] at empty
          simp only [Reader.received, landed] at order ⊢
          rw [empty.1, List.append_nil]
          exact order
      · simp only [Reader.received, landed] at order ⊢
        rw [shut (by simpa using opened), List.append_nil]
        exact order
    whole := fun opened => by
      rcases core.whole opened with complete | ⟨empty, ended⟩
      · left
        simp only [Reader.received, landed] at complete ⊢
        rw [← complete, split]
        simp
      · right
        rw [split, List.append_eq_nil_iff] at empty
        exact ⟨empty.2, ended⟩
    aborted := fun got member => by
      rcases List.mem_append.mp member with before | now
      · exact core.aborted got before
      · cases List.mem_singleton.mp now
        exact aborted rfl
    reads := by
      simp only [List.countP_append, List.countP_singleton, isReadDone, if_true]
      omega
    waits := by
      have waits := core.waits
      simp only [List.countP_append, List.countP_singleton, isWaitDone]
      exact waits
    once := by
      have once := core.once
      simpa [List.count_append] using once
    watched := fun member => by
      obtain ⟨posted, fresh⟩ := core.watched (apart rfl member)
      exact ⟨posted, { fresh with }⟩
    unwatched := fun none => { core.unwatched none with }
    first := watchFirst_append core.first (by rintro ⟨⟩)
    kept := fun held seen => { core.kept held seen with } }

theorem Core.waitDone {error : Option ErrorCode} (core : Core r) (out : 0 < r.read.waits) :
    Core { r with
      tasks := r.tasks ++ [.waitCompleted error]
      read := { r.read with waits := r.read.waits - 1 } } := by
  have landed : landedBytes (r.tasks ++ [.waitCompleted error]) = landedBytes r.tasks :=
    landedBytes_other rfl _
  have counted := core.waits
  have waited : ∀ {other}, isWaitDone other = false → other ∈ r.tasks ++ [.waitCompleted error] →
      other ∈ r.tasks := fun plain member => mem_queue (by rintro rfl; cases plain) member
  exact { core with
    order := by
      have order := core.order
      simp only [Reader.received] at order ⊢
      rw [landed]
      exact order
    whole := by
      have whole := core.whole
      simp only [Reader.received] at whole ⊢
      rw [landed]
      exact whole
    aborted := fun data member => core.aborted data (waited rfl member)
    reads := by
      have reads := core.reads
      simp only [List.countP_append, List.countP_singleton, isReadDone]
      exact reads
    waits := by
      simp only [List.countP_append, List.countP_singleton, isWaitDone, if_true]
      omega
    once := by
      have once := core.once
      simpa [List.count_append] using once
    watched := fun member => by
      obtain ⟨posted, fresh⟩ := core.watched (waited rfl member)
      exact ⟨posted, { fresh with }⟩
    unwatched := fun none => { core.unwatched none with }
    first := watchFirst_append core.first nofun
    kept := fun held seen => { core.kept held seen with } }

theorem Core.sends (core : Core r) (alive : r.read.peerEnd.isSome = false) (data : Bytes) :
    Core { r with read := { r.read with
      stream := r.read.stream ++ data, arrived := r.read.arrived ++ data } } :=
  { core with
    order := core.order.trans (List.prefix_append _ _)
    whole := fun opened => by
      rcases core.whole opened with complete | ⟨-, ended⟩
      · left
        rw [← complete, List.append_assoc]
        rfl
      · rw [alive] at ended
        cases ended
    watched := fun member => ⟨(core.watched member).1, { (core.watched member).2 with }⟩
    unwatched := fun none => { core.unwatched none with }
    kept := fun held seen => { core.kept held seen with } }

theorem Core.ends (core : Core r) (alive : r.read.peerEnd.isSome = false) (ended : PeerEnd)
    (discards : Bool) :
    Core { r with read := { r.read with
      peerEnd := some ended
      arrived := if ended = .reset ∧ discards then [] else r.read.arrived } } :=
  { core with
    whole := fun opened => by
      by_cases lost : ended = .reset ∧ discards
      · exact .inr ⟨if_pos lost, rfl⟩
      · left
        rcases core.whole opened with complete | ⟨-, gone⟩
        · change r.received ++ (if _ then _ else _) = r.read.stream
          rw [if_neg lost]
          exact complete
        · rw [alive] at gone
          cases gone
    watched := fun member => ⟨(core.watched member).1, { (core.watched member).2 with }⟩
    unwatched := fun none => { core.unwatched none with }
    kept := fun held seen => { core.kept held seen with } }

theorem Core.pause {paused : Bool} (core : Core r) (asked : paused = true → .startPosted ∈ r.events) :
    Core { r with read := { r.read with paused := paused } } :=
  { core with
    paused := asked
    watched := fun member => ⟨(core.watched member).1, { (core.watched member).2 with }⟩
    unwatched := fun none => { core.unwatched none with }
    kept := fun held seen => { core.kept held seen with } }

end Kernel

section Handlers
variable {conn : Conn} {choice : Choice} {r after : Reader} {someone again : Prop}

structure Steady (r : Reader) : Prop where
  core : Core r
  pending : Pending r
  order : Fenced r
  calm : Calm r
  asked : .startRead ∈ r.tasks → .startPosted ∈ r.events

theorem Left.tasks (left : Left r after) : after.tasks = r.tasks := by
  cases left <;> rfl

theorem Left.events (left : Left r after) : after.events = r.events := by
  cases left <;> rfl

theorem Steady.left (left : Left r after) (steady : Steady r) : Steady after where
  core := steady.core.left left
  pending := steady.pending.left left
  order := steady.order.left left
  calm := steady.calm.left left
  asked := by
    rw [left.tasks, left.events]
    exact steady.asked

/-- Once reading has started or the connection has ended, only the core and the
watch are left to look at. -/
theorem Steady.of_begun (core : Core r) (calm : Calm r)
    (begun : r.state = .connected → .readStarted ∈ r.events)
    (asked : .startRead ∈ r.tasks → .startPosted ∈ r.events) : Steady r where
  core := core
  pending := fun _ connected => .inl (begun connected)
  order := fun connected none => absurd (begun connected) none
  calm := calm
  asked := asked

theorem Calm.of_ended (ended : r.state ≠ .connected) : Calm r :=
  fun _ connected => absurd connected ended

theorem Flowing.of_ended (ended : r.state ≠ .connected) : Flowing r someone :=
  fun _ connected => absurd connected ended

theorem Replaying.of_ended (ended : r.state ≠ .connected) : Replaying r someone :=
  fun _ connected => absurd connected ended

theorem Replaying.of_settled (settled : r.read.closePending = false) : Replaying r someone := by
  intro _ _ pending
  rw [settled] at pending
  cases pending

theorem reader_closed_state (r : Reader) : r.close.state ≠ .connected := by
  simp [Reader.close]

/-- What a handler that started to read leaves once its callbacks have returned. -/
structure Resumed (before after : Reader) (someone again : Prop) : Prop where
  core : Core after
  calm : Calm after
  flowing : Flowing after someone
  replaying : Replaying after again
  tasks : after.tasks = before.tasks
  grows : ∀ event ∈ before.events, event ∈ after.events
  fins : ∀ held, .finHeld held ∈ after.events → .finHeld held ∈ before.events

theorem Resumed.of_closed (core : Core r) : Resumed r r.close someone again where
  core := core.close
  calm := .of_ended (reader_closed_state r)
  flowing := .of_ended (reader_closed_state r)
  replaying := .of_ended (reader_closed_state r)
  tasks := rfl
  grows := fun _ => id
  fins := fun _ => id

theorem doRead_resumed (core : Core (reader conn)) (calm : Calm (reader (doRead conn)))
    (begun : .readStarted ∈ (reader conn).events)
    (settled : (reader conn).read.closePending = false) :
    Resumed (reader conn) (reader (doRead conn)) someone again := by
  have same : (reader (doRead conn)).read.closePending = false ∧
      (reader (doRead conn)).tasks = (reader conn).tasks ∧
      (reader (doRead conn)).events = (reader conn).events := by
    rcases reader_doRead conn with ⟨-, same⟩ | ⟨-, armed⟩
    · rw [same]
      exact ⟨settled, rfl, rfl⟩
    · rw [armed]
      exact ⟨settled, rfl, rfl⟩
  exact {
    core := doRead_core core begun
    calm := calm
    flowing := doRead_flowing core settled
    replaying := .of_settled same.1
    tasks := same.2.1
    grows := fun _ member => same.2.2 ▸ member
    fins := fun _ member => same.2.2 ▸ member }

theorem finishStartRead_resumed (core : Core (reader conn))
    (calm : (reader conn).read.closePending = false → Calm (reader (doRead conn)))
    (quiet : (reader conn).read.closePending = true → Calm (reader conn))
    (begun : .readStarted ∈ (reader conn).events) :
    Resumed (reader conn) (reader (finishStartRead choice conn)) someone again := by
  unfold finishStartRead
  by_cases pending : conn.read.closePending = true
  · rw [if_pos pending]
    dsimp only
    by_cases connected : conn.state = .connected
    · rw [if_neg (by simpa using connected)]
      split
      · have reported := core.report begun (.inr ⟨rfl, pending⟩)
        rw [reader_note _ rfl]
        exact {
          core := reported
          calm := fun _ => quiet pending begun
          flowing := fun _ _ unended => absurd List.mem_cons_self unended
          replaying := .of_settled rfl
          tasks := rfl
          grows := fun _ => List.mem_cons_of_mem _
          fins := fun _ member => List.mem_of_ne_of_mem (by simp) member }
      · rw [@reader_leave { conn with read := { conn.read with closePending := false } }]
        have closed := core.close.settle begun (reader_closed_state _)
        exact {
          core := closed
          calm := .of_ended (reader_closed_state _)
          flowing := .of_ended (reader_closed_state _)
          replaying := .of_settled rfl
          tasks := rfl
          grows := fun _ => id
          fins := fun _ => id }
    · rw [if_pos connected]
      exact {
        core := core.settle begun connected
        calm := .of_ended connected
        flowing := .of_ended connected
        replaying := .of_settled rfl
        tasks := rfl
        grows := fun _ => id
        fins := fun _ => id }
  · rw [if_neg pending]
    have settled : (reader conn).read.closePending = false := Bool.not_eq_true _ ▸ pending
    exact doRead_resumed core (calm settled) begun settled

theorem finishRead_resumed (error : Option ErrorCode) (core : Core (reader conn))
    (calm : Calm (reader conn)) (begun : .readStarted ∈ (reader conn).events)
    (settled : (reader conn).read.closePending = false)
    (lone : ∀ held, .finHeld held ∉ (reader conn).events) :
    Resumed (reader conn) (reader (finishRead choice conn error)) someone again := by
  unfold finishRead
  split
  · exact doRead_resumed core (doRead_calm calm) begun settled
  · dsimp only
    have shut : Core { reader conn with
        read := { (reader conn).read with closed := true } } ∨ conn.state = .connected := by
      by_cases connected : conn.state = .connected
      · exact .inr connected
      · exact .inl (core.shut connected)
    split
    · have reported := core.report begun (.inl ⟨rfl, lone⟩)
      rw [← settled] at reported
      rw [reader_note _ rfl]
      exact {
        core := reported
        calm := fun _ => calm begun
        flowing := fun _ _ unended => absurd List.mem_cons_self unended
        replaying := .of_settled settled
        tasks := rfl
        grows := fun _ => List.mem_cons_of_mem _
        fins := fun _ member => List.mem_of_ne_of_mem (by simp) member }
    · split
      · rw [@reader_leave { conn with read := { conn.read with closed := true } }]
        exact .of_closed core
      · next ended =>
          exact {
            core := shut.resolve_right ended
            calm := .of_ended ended
            flowing := .of_ended ended
            replaying := .of_ended ended
            tasks := rfl
            grows := fun _ => id
            fins := fun _ => id }
  · next error _ =>
      have told : reader (if error = .connectionReset ∨ error = .operationAborted then conn
          else conn.note .errorNotified) = reader conn := by
        split
        · rfl
        · exact reader_unseen conn rfl
      have state := congrArg Reader.state told
      simp only [reader] at state
      dsimp only
      rw [state]
      split
      · rw [reader_leave, told]
        exact .of_closed core
      · next ended =>
          rw [told]
          exact {
            core := core
            calm := calm
            flowing := .of_ended ended
            replaying := .of_ended ended
            tasks := rfl
            grows := fun _ => id
            fins := fun _ => id }

/-- The queue with a handler at its front. -/
@[simps]
def Reader.front (r : Reader) (task : Task) : Reader := { r with tasks := task :: r.tasks }

/-- `start_read` overtakes a watch that has not run. -/
structure Late (r : Reader) : Prop where
  empty : r.read.holdback = []
  settled : r.read.closePending = false
  free : r.read.inFlight = false
  waits : r.read.waits = 0
  waited : r.tasks.countP isWaitDone = 0
  reads : r.tasks.countP isReadDone = 0
  opened : r.state = .connected → r.read.closed = false
  paused : r.read.paused = true → .startRead ∈ r.tasks

/-- The handler of `start_read` finds a queue it leaves calm. -/
def Clear (r : Reader) : Prop :=
  calm false (decide (0 < r.read.waits)) r.read.inFlight r.tasks = true ∨ Late r

theorem Steady.clear_posted (steady : Steady (r.front .startRead)) : Clear r := by
  have first := steady.core.first
  left
  apply calm_of_none
  simpa [Reader.front, watchFirst] using first

theorem Steady.clear_inside (steady : Steady r) (connected : r.state = .connected) : Clear r := by
  have core := steady.core
  by_cases queued : .watchPeerClose ∈ r.tasks
  · have unwatched := (core.watched queued).2
    by_cases begun : .readStarted ∈ r.events
    · left
      exact calm_mono nofun id id (steady.calm begun connected)
    · right
      obtain ⟨free, unended⟩ := core.quiet begun
      have waits := core.waits
      have reads := core.reads
      rw [unwatched.unarmed, Bool.toNat_false, Nat.add_eq_zero_iff] at waits
      rw [free, Bool.toNat_false, Nat.add_eq_zero_iff] at reads
      refine ⟨unwatched.empty, unwatched.settled, free, waits.1, waits.2, reads.2, fun _ => ?_,
        fun paused => ?_⟩
      · by_contra closed
        rcases core.closedWhy connected (by simpa using closed) with ended | pending
        · exact unended ended
        · rw [unwatched.settled] at pending
          cases pending
      · exact (steady.pending (core.paused paused) connected).resolve_left begun
  · left
    exact calm_of_none queued

theorem Late.calm {conn : Conn} (late : Late r) (core : Core r) (connected : r.state = .connected)
    (same : reader conn = { r with
      events := (reader conn).events, read := { r.read with watchActive := false } }) :
    Calm (reader (doRead conn)) := by
  intro _ _
  rcases reader_doRead conn with ⟨cannot, stays⟩ | ⟨-, armed⟩
  · have paused : r.read.paused = true := by
      by_contra unpaused
      apply cannot
      rw [same]
      exact ⟨connected, late.opened connected, by simpa using unpaused, late.free⟩
    rw [stays, same]
    exact calm_of_start late.waited core.first (late.paused paused)
  · rw [armed, same]
    have quiet := @calm_of_reading r.tasks false late.waited late.reads
    simpa [Reader.arm, late.waits] using quiet

/-- What the handler of `start_read` does, posted or run inside a callback. -/
structure Started (before : Reader) (out : Conn × List Act) : Prop where
  resumed : Resumed before (reader out.1) (out.2 ≠ []) (out.2 ≠ [])
  cut : out.2 = [] ∨ out.2 = [.holdbackReturned]
  begun : (reader out.1).state = .connected ∨ out.2 ≠ [] → .readStarted ∈ (reader out.1).events

/-- The reader as the handler of `start_read` goes on with it. -/
def Reader.begin (r : Reader) : Reader :=
  { r with
    events := .readStarted :: r.events, read := { r.read with watchActive := false } }

theorem startRead_finishes {started : Conn} (core : Core r) (called : .startPosted ∈ r.events)
    (clear : Clear r) (connected : r.state = .connected) (empty : r.read.holdback = [])
    (noted : reader started = r.begin) : Started r (finishStartRead choice started, []) := by
  have marked : Core (reader started) := by
    rw [noted]
    exact (core.standDown).mark (.inr (.inr rfl)) fun _ => ⟨called, empty⟩
  have calms : calm false (decide (0 < r.read.waits)) r.read.inFlight r.tasks = true →
      Calm (reader started) := by
    intro old
    rw [noted]
    exact fun _ _ => old
  have begun : .readStarted ∈ (reader started).events := by
    rw [noted]
    exact List.mem_cons_self
  have resumed : Resumed (reader started) (reader (finishStartRead choice started)) False False := by
    apply finishStartRead_resumed marked _ _ begun
    · intro _
      rcases clear with old | late
      · exact doRead_calm (calms old)
      · apply late.calm core connected
        rw [noted]
        rfl
    · intro pending
      rcases clear with old | late
      · exact calms old
      · rw [noted] at pending
        exact absurd (pending.symm.trans late.settled) nofun
  have grows := resumed.grows
  have fins := resumed.fins
  have tasks := resumed.tasks
  rw [noted] at grows fins tasks
  refine ⟨{
    core := resumed.core
    calm := resumed.calm
    flowing := fun ran alive open_ unpaused =>
      (resumed.flowing ran alive open_ unpaused).imp_right (Or.imp_right False.elim)
    replaying := fun ran alive pending => (resumed.replaying ran alive pending).elim
    tasks := tasks
    grows := fun event member => grows event (List.mem_cons_of_mem _ member)
    fins := fun held member => List.mem_of_ne_of_mem (by simp) (fins held member) }, .inl rfl, ?_⟩
  exact fun _ => grows _ List.mem_cons_self

theorem startRead_replays {after : Conn} (core : Core r) (called : .startPosted ∈ r.events)
    (clear : Clear r) (filled : r.read.holdback ≠ [])
    (noted : reader after = { r.begin with
      events := .delivered r.read.holdback :: r.begin.events
      read := { r.begin.read with holdback := [] } }) : Started r (after, [.holdbackReturned]) := by
  have unread : .readStarted ∉ r.events := fun begun => filled (core.emptied begun)
  have free := (core.quiet unread).1
  have counted := core.reads
  rw [free, Bool.toNat_false, Nat.add_eq_zero_iff] at counted
  have landed : landedBytes r.tasks = [] := landedBytes_none counted.2
  refine ⟨{
    core := ?_
    calm := ?_
    flowing := fun _ _ _ _ => .inr (.inr (List.cons_ne_nil _ _))
    replaying := fun _ _ _ => List.cons_ne_nil _ _
    tasks := ?_
    grows := ?_
    fins := ?_ }, .inr rfl, fun _ => ?_⟩
  · dsimp only
    rw [noted]
    exact core.standDown.deliver (.inr rfl) List.mem_cons_self called (.refl _)
      (by simp [Reader.begin, Reader.received, landed]) (.inl rfl) core.reads id rfl
  · dsimp only
    rw [noted]
    rcases clear with old | late
    · exact fun _ _ => old
    · exact absurd late.empty filled
  · have tasks := congrArg Reader.tasks noted
    exact tasks
  · intro event member
    dsimp only
    rw [noted]
    exact List.mem_cons_of_mem _ (List.mem_cons_of_mem _ member)
  · intro held member
    dsimp only at member
    rw [noted] at member
    exact List.mem_of_ne_of_mem (by simp) (List.mem_of_ne_of_mem (by simp) member)
  · dsimp only
    rw [noted]
    exact List.mem_cons_of_mem _ List.mem_cons_self

theorem startRead_started (core : Core (reader conn))
    (called : .startPosted ∈ (reader conn).events)
    (clear : (reader conn).state = .connected → Clear (reader conn)) :
    Started (reader conn) (runTask choice conn .startRead) := by
  simp only [runTask]
  by_cases connected : conn.state = .connected
  · rw [if_neg (by simpa using connected)]
    have noted := @reader_note { conn with read := { conn.read with watchActive := false } }
      .readStarted rfl
    by_cases empty : conn.read.holdback = []
    · rw [if_pos empty]
      exact startRead_finishes core called (clear connected) connected empty noted
    · rw [if_neg empty]
      apply startRead_replays core called (clear connected) empty
      rw [reader_note _ rfl]
      exact congrArg (fun begun : Reader => { begun with
        events := .delivered conn.read.holdback :: begun.events
        read := { begun.read with holdback := [] } }) noted
  · rw [if_pos connected]
    refine ⟨{
      core := core.standDown
      calm := .of_ended connected
      flowing := .of_ended connected
      replaying := .of_ended connected
      tasks := rfl
      grows := fun _ => id
      fins := fun _ => id }, .inl rfl, ?_⟩
    rintro (alive | cut)
    · exact absurd alive connected
    · exact absurd rfl cut

theorem landing_begun {data : Bytes} {error : Option ErrorCode}
    (core : Core (r.front (.readCompleted data error))) :
    .readStarted ∈ r.events ∧ (∀ held, .finHeld held ∉ r.events) ∧ r.read.closePending = false := by
  have armed : r.read.inFlight = true := by
    have counted := core.reads
    by_contra free
    have free : r.read.inFlight = false := by simpa using free
    simp [isReadDone, free] at counted
  have unseen : ∀ held, .finHeld held ∉ r.events := by
    intro held seen
    have free : r.read.inFlight = false := (core.kept held seen).unread
    rw [armed] at free
    cases free
  refine ⟨?_, unseen, ?_⟩
  · by_contra none
    have free : r.read.inFlight = false := (core.quiet none).1
    rw [armed] at free
    cases free
  · by_contra pending
    have pending : r.read.closePending = true := by simpa using pending
    obtain ⟨held, seen⟩ := core.pendingHeld pending
    exact unseen held seen

theorem readCompleted_resumed {data : Bytes} {error : Option ErrorCode}
    (core : Core ((reader conn).front (.readCompleted data error)))
    (calm : Calm ((reader conn).front (.readCompleted data error))) :
    Resumed (reader conn) (reader (runTask choice conn (.readCompleted data error)).1)
        ((runTask choice conn (.readCompleted data error)).2 ≠ []) False ∧
      ((runTask choice conn (.readCompleted data error)).2 = [] ∨
        (runTask choice conn (.readCompleted data error)).2 = [.dataReturned error]) := by
  obtain ⟨begun, unseen, settled⟩ := landing_begun core
  have empty : (reader conn).read.holdback = [] := core.emptied begun
  simp only [runTask]
  split
  · next given =>
      rw [reader_note _ rfl]
      refine ⟨{
        core := ?_
        calm := fun _ => calm begun
        flowing := fun _ _ _ _ => .inr (.inr (List.cons_ne_nil _ _))
        replaying := .of_settled settled
        tasks := rfl
        grows := fun _ => List.mem_cons_of_mem _
        fins := fun _ member => List.mem_of_ne_of_mem (by simp) member }, .inr rfl⟩
      have counted := core.reads
      have bound : (reader conn).read.inFlight.toNat ≤ 1 := Bool.toNat_le _
      have given : Core { reader conn with
          events := .delivered data :: (reader conn).events
          read := { (reader conn).read with holdback := [], inFlight := false } } := by
        apply core.deliver (.inl rfl) begun (core.called begun) (.tail _ _) _ (.inr empty)
        · simp only [Reader.front_read, Reader.front_tasks, List.countP_cons, isReadDone,
            if_true] at counted
          simp only [Bool.toNat_false, Reader.front_read]
          omega
        · rintro ⟨⟩
        · simp [isWaitDone]
        · simp [Reader.received, landedBytes, empty]
      rw [← empty] at given
      exact given
  · next nothing =>
      have none : data = [] := by
        by_contra some_data
        have aborted : error = some .operationAborted := by
          by_contra other
          exact nothing ⟨some_data, other⟩
        subst aborted
        exact some_data (core.aborted data List.mem_cons_self)
      subst none
      refine ⟨?_, .inl rfl⟩
      have resumed := @finishRead_resumed { conn with read := { conn.read with inFlight := false } }
        choice ([] ≠ ([] : List Act)) False error (core.land rfl) calm begun settled unseen
      exact { resumed with }

/-- A watch handler adds at most the FIN it saw. -/
def AddsFin (events later : List Obs) : Prop :=
  later = events ∨ ∃ held, later = .finHeld held :: events

theorem AddsFin.mem {events later : List Obs} (adds : AddsFin events later) {event : Obs}
    (apart : ∀ held, event ≠ .finHeld held) : event ∈ later ↔ event ∈ events := by
  rcases adds with rfl | ⟨held, rfl⟩
  · rfl
  · simp [apart held]

structure Watched (before after : Reader) : Prop where
  core : Core after
  tasks : after.tasks = before.tasks
  state : after.state = .connected → before.state = .connected
  adds : AddsFin before.events after.events

theorem finishWatch_watched (error : Option ErrorCode) (core : Core (reader conn))
    (watching : Watching (reader conn)) (unread : .readStarted ∉ (reader conn).events)
    (unarmed : (reader conn).read.watchInFlight = false) :
    Watched (reader conn) (reader (finishWatch conn error)) := by
  unfold finishWatch
  dsimp only
  split
  · next held =>
      rw [reader_note _ rfl]
      exact ⟨core.hold watching unread unarmed held.2, rfl, id, .inr ⟨_, rfl⟩⟩
  · rw [@reader_leave { conn with read := { conn.read with
      watchActive := false, holdback := [] } }]
    exact ⟨core.discard watching unread, rfl, nofun, .inl rfl⟩

/-- `got` moved from the socket into the holdback. -/
def Banked (read after : ReadSide) : Prop :=
  ∃ got arrived, read.arrived = got ++ arrived ∧
    after = { read with holdback := read.holdback ++ got, arrived := arrived }

theorem Banked.refl (read : ReadSide) : Banked read read := ⟨[], read.arrived, rfl, by simp⟩

theorem readSome_spec (choice : Choice) (read : ReadSide) (want : Nat) :
    ∃ arrived, read.arrived = (readSome choice read want).2.1 ++ arrived ∧
      (readSome choice read want).1 = { read with arrived := arrived } := by
  unfold readSome
  split
  · exact ⟨_, rfl, rfl⟩
  · split
    · exact ⟨_, rfl, rfl⟩
    · split
      · next empty _ => exact ⟨[], empty, by simp [← empty]⟩
      · next empty _ => exact ⟨[], empty, by simp [← empty]⟩
      · next empty _ => exact ⟨[], empty, by simp [← empty]⟩
      · exact ⟨_, (List.take_append_drop _ _).symm, rfl⟩

/-- The reads of a wait handler go to the holdback whatever its verdict. -/
def Keeps (read : ReadSide) : Verdict → Prop
  | .again after | .ended after _ => Banked read after
  | .overflow => True

theorem bank_keeps {read after : ReadSide} {got arrived : Bytes} (split : read.arrived = got ++ arrived)
    (same : after = { read with arrived := arrived }) (error : Option ErrorCode) :
    Keeps read (TcpConnection.bank after got error) := by
  have banked : Banked read { after with holdback := after.holdback ++ got } := by
    subst same
    exact ⟨got, arrived, split, rfl⟩
  unfold TcpConnection.bank
  split <;> exact banked

theorem judgeReadable_keeps (choice : Choice) (read : ReadSide) :
    Keeps read (judgeReadable choice read) := by
  have reads : ∀ want, Keeps read (TcpConnection.bank (readSome choice read want).1
      (readSome choice read want).2.1 (readSome choice read want).2.2) := by
    intro want
    obtain ⟨arrived, split, same⟩ := readSome_spec choice read want
    exact bank_keeps split same _
  unfold judgeReadable
  split
  · exact .refl read
  · split
    · split
      · trivial
      · exact reads _
    · split
      · exact .refl read
      · exact reads 1

theorem waitCompleted_watched {error : Option ErrorCode}
    (core : Core ((reader conn).front (.waitCompleted error)))
    (calm : Calm ((reader conn).front (.waitCompleted error)))
    (steady_socket : conn.state = .connected → conn.socketOpen = true) :
    (runTask choice conn (.waitCompleted error)).2 = [] ∧
      (reader (runTask choice conn (.waitCompleted error)).1 =
          { reader conn with read := { (reader conn).read with watchInFlight := false } } ∨
        (.readStarted ∉ (reader conn).events ∧
          Watched (reader conn) (reader (runTask choice conn (.waitCompleted error)).1))) := by
  have waited : Core { reader conn with
      read := { (reader conn).read with watchInFlight := false } } := core.waited rfl
  have watching : Watching (reader conn) := by
    have watching := core.watching rfl
    exact ⟨watching.ran, fun member => watching.gone (List.mem_cons_of_mem _ member), watching.unseen⟩
  simp only [runTask]
  split
  · exact ⟨rfl, .inl rfl⟩
  · next on =>
      simp only [not_or, not_not, Bool.not_eq_true', Bool.not_eq_false] at on
      obtain ⟨-, active, connected⟩ := on
      have unread : .readStarted ∉ (reader conn).events := by
        intro begun
        have quiet := calm begun connected
        simp only [Reader.front_tasks, TcpReadPath.calm, Reader.front_read, Bool.and_eq_true,
          Bool.not_eq_true'] at quiet
        exact absurd (active.symm.trans quiet.1) (by rintro ⟨⟩)
      have finished : ∀ read error, Banked { conn.read with watchInFlight := false } read →
          Watched (reader conn) (reader (finishWatch { conn with read := read } error)) := by
        rintro read error ⟨got, arrived, split, rfl⟩
        have banked := waited.bank { watching with } unread (steady_socket connected) split
        have watched := @finishWatch_watched { conn with read := { conn.read with
          watchInFlight := false, holdback := conn.read.holdback ++ got, arrived := arrived } }
          error banked { watching with } unread rfl
        exact { watched with }
      split
      · exact ⟨rfl, .inr ⟨unread, finished _ _ (.refl _)⟩⟩
      · have kept := judgeReadable_keeps choice { conn.read with watchInFlight := false }
        split
        · next after verdict =>
            rw [verdict] at kept
            obtain ⟨got, arrived, split, rfl⟩ := kept
            have banked := waited.bank { watching with } unread (steady_socket connected) split
            rcases @reader_doWatch { conn with read := { conn.read with
                watchInFlight := false, holdback := conn.read.holdback ++ got
                arrived := arrived } } with same | ⟨can, armed⟩
            · rw [same]
              exact ⟨rfl, .inr ⟨unread, banked, rfl, id, .inl rfl⟩⟩
            · rw [armed]
              exact ⟨rfl, .inr ⟨unread, banked.await { watching with } can, rfl, id, .inl rfl⟩⟩
        · rw [@reader_leave { conn with read := { conn.read with
            watchInFlight := false, watchActive := false, holdback := [] } }]
          exact ⟨rfl, .inr ⟨unread, waited.discard { watching with } unread, rfl, by rintro ⟨⟩, .inl rfl⟩⟩
        · next after error verdict =>
            rw [verdict] at kept
            exact ⟨rfl, .inr ⟨unread, finished _ _ kept⟩⟩

end Handlers

section Runs
variable {conn : Conn} {choice : Choice} {r before after : Reader} {someone again : Prop}
  {act : Act} {new : List Act} {others bag : Multiset Act}

/-- Goes on with `do_read`, or ends the reading. -/
def resumes : Act → Bool
  | .post .doRead | .holdbackReturned | .dataReturned _ | .replayReturned _ => true
  | _ => false

/-- Goes on behind the holdback. -/
def replays : Act → Bool
  | .holdbackReturned | .replayReturned _ => true
  | _ => false

def readsBehind : Callback → Bool
  | .onData _ => true
  | .onReplay outer => readsBehind outer
  | _ => false

/-- The read handler is inside `on_data_`. -/
def reading : Act → Bool
  | .dataReturned _ => true
  | .replayReturned outer => readsBehind outer
  | _ => false

/-- A handler that has started to read is inside a callback. -/
def underRead : Act → Bool
  | .holdbackReturned | .dataReturned _ | .replayReturned _ => true
  | _ => false

def asksRead : Act → Bool
  | .pauseRead | .resumeRead | .post .doRead => true
  | _ => false

def completes : Act → Bool
  | .post (.readCompleted _ _) | .post (.waitCompleted _) => true
  | _ => false

/-- What the pending actions show of the past. -/
structure Bagged (events : List Obs) (bag : Multiset Act) : Prop where
  begun : Has underRead bag → .readStarted ∈ events
  called : Has asksRead bag → .startPosted ∈ events
  lone : ∀ held, .finHeld held ∈ events → ¬ Has reading bag
  callable : ¬ Has completes bag

structure Handed (r : Reader) (bag : Multiset Act) : Prop extends Steady r where
  flowing : Flowing r (Has resumes bag)
  replaying : Replaying r (Has replays bag)
  bagged : Bagged r.events bag

/-- An action that has nothing to do with reading. -/
def plain (act : Act) : Bool := !resumes act && !asksRead act && !completes act

theorem resumes_false (idle : resumes act = false) :
    replays act = false ∧ underRead act = false ∧ reading act = false := by
  cases act with
  | holdbackReturned | dataReturned _ | replayReturned _ => cases idle
  | _ => exact ⟨rfl, rfl, rfl⟩

theorem plain_iff : plain act = true ↔
    resumes act = false ∧ asksRead act = false ∧ completes act = false := by
  simp [plain, and_assoc]

theorem any_plain {kind : Act → Bool} (plains : ∀ act ∈ new, plain act = true)
    (off : ∀ act, plain act = true → kind act = false) : new.any kind = false := by
  apply List.any_eq_false.mpr
  intro act member
  rw [off act (plains act member)]
  exact Bool.false_ne_true

theorem Bagged.tail (bagged : Bagged r.events (act ::ₘ others)) : Bagged r.events others where
  begun := fun some_act => bagged.begun ((has_cons _ _ _).mpr (.inr some_act))
  called := fun some_act => bagged.called ((has_cons _ _ _).mpr (.inr some_act))
  lone := fun held seen some_act =>
    bagged.lone held seen ((has_cons _ _ _).mpr (.inr some_act))
  callable := fun some_act => bagged.callable ((has_cons _ _ _).mpr (.inr some_act))

theorem Bagged.later {events later : List Obs} (bagged : Bagged events bag)
    (grows : ∀ event ∈ events, event ∈ later)
    (fins : ∀ held, .finHeld held ∈ later → .finHeld held ∈ events) : Bagged later bag where
  begun := fun some_act => grows _ (bagged.begun some_act)
  called := fun some_act => grows _ (bagged.called some_act)
  lone := fun held seen => bagged.lone held (fins held seen)
  callable := bagged.callable

theorem Bagged.onward {events later : List Obs} (bagged : Bagged events others)
    (grows : ∀ event ∈ events, event ∈ later)
    (fins : ∀ held, .finHeld held ∈ later → .finHeld held ∈ events)
    (begun : new.any underRead = true → .readStarted ∈ later)
    (called : new.any asksRead = true → .startPosted ∈ later)
    (lone : ∀ held, .finHeld held ∈ events → new.any reading = false)
    (callable : new.any completes = false) : Bagged later (↑new + others) where
  begun := fun some_act => by
    rcases (has_add _ _ _).mp some_act with fresh | kept
    · exact begun fresh
    · exact grows _ (bagged.begun kept)
  called := fun some_act => by
    rcases (has_add _ _ _).mp some_act with fresh | kept
    · exact called fresh
    · exact grows _ (bagged.called kept)
  lone := fun held seen some_act => by
    rcases (has_add _ _ _).mp some_act with fresh | kept
    · rw [lone held (fins held seen)] at fresh
      cases fresh
    · exact bagged.lone held (fins held seen) kept
  callable := fun some_act => by
    rcases (has_add _ _ _).mp some_act with fresh | kept
    · rw [callable] at fresh
      cases fresh
    · exact bagged.callable kept

theorem Bagged.plain (bagged : Bagged r.events others) (plains : ∀ act ∈ new, plain act = true) :
    Bagged r.events (↑new + others) := by
  have off : ∀ act, TcpReadPath.plain act = true → underRead act = false ∧ asksRead act = false ∧
      reading act = false ∧ completes act = false := by
    intro act is_plain
    obtain ⟨idle, asks, done⟩ := plain_iff.mp is_plain
    obtain ⟨-, under, reads⟩ := resumes_false idle
    exact ⟨under, asks, reads, done⟩
  have none : ∀ {kind : Act → Bool}, new.any kind = false → new.any kind = true →
      Obs.readStarted ∈ r.events ∧ Obs.startPosted ∈ r.events := by
    intro kind off on
    rw [off] at on
    cases on
  apply bagged.onward (fun _ => id) (fun _ => id)
  · exact fun on => (none (any_plain plains fun act is_plain => (off act is_plain).1) on).1
  · exact fun on => (none (any_plain plains fun act is_plain => (off act is_plain).2.1) on).2
  · exact fun _ _ => any_plain plains fun act is_plain => (off act is_plain).2.2.1
  · exact any_plain plains fun act is_plain => (off act is_plain).2.2.2

theorem Handed.spend (handed : Handed r (act ::ₘ others)) (idle : resumes act = false)
    (plains : ∀ act ∈ new, plain act = true) : Handed r (↑new + others) where
  toSteady := handed.toSteady
  flowing := fun begun connected unended unpaused => by
    refine (handed.flowing begun connected unended unpaused).imp_right (Or.imp_right fun goes => ?_)
    rw [has_cons, idle] at goes
    exact (has_add _ _ _).mpr (.inr (goes.resolve_left Bool.false_ne_true))
  replaying := fun begun connected pending => by
    have goes := handed.replaying begun connected pending
    rw [has_cons, (resumes_false idle).1] at goes
    exact (has_add _ _ _).mpr (.inr (goes.resolve_left Bool.false_ne_true))
  bagged := handed.bagged.tail.plain plains

theorem Handed.left (handed : Handed r bag) (left : Left r after) : Handed after bag where
  toSteady := handed.toSteady.left left
  flowing := handed.flowing.left left
  replaying := handed.replaying.left left
  bagged := left.events ▸ handed.bagged

theorem Handed.resume (bagged : Bagged before.events others)
    (asked : .startRead ∈ before.tasks → .startPosted ∈ before.events)
    (resumed : Resumed before after someone again)
    (begun : after.state = .connected ∨ new.any underRead = true → .readStarted ∈ after.events)
    (goes : someone → Has resumes (↑new + others)) (replayed : again → Has replays (↑new + others))
    (called : new.any asksRead = false)
    (lone : ∀ held, .finHeld held ∈ before.events → new.any reading = false)
    (callable : new.any completes = false) : Handed after (↑new + others) where
  toSteady := .of_begun resumed.core resumed.calm (fun connected => begun (.inl connected))
    fun member => resumed.grows _ (asked (resumed.tasks ▸ member))
  flowing := fun ran connected unended unpaused =>
    (resumed.flowing ran connected unended unpaused).imp_right (Or.imp_right goes)
  replaying := fun ran connected pending => replayed (resumed.replaying ran connected pending)
  bagged := by
    apply bagged.onward resumed.grows resumed.fins _ _ lone callable
    · exact fun on => begun (.inr on)
    · intro on
      rw [called] at on
      cases on

theorem callback_under (callback : Callback) :
    asksRead callback.cut = false ∧ completes callback.cut = false ∧
      reading callback.cut = readsBehind callback := by
  cases callback <;> exact ⟨rfl, rfl, rfl⟩

theorem not_has_strand {kind : Act → Bool} (off : weigh TcpWritePath.onStrand others = 0)
    (inside : ∀ act, kind act = true → TcpWritePath.onStrand act = 1) : ¬ Has kind others := by
  rintro ⟨act, member, of_kind⟩
  have heavy : TcpWritePath.onStrand act ≤ weigh TcpWritePath.onStrand others :=
    weight_le_weigh member
  rw [inside act of_kind, off] at heavy
  cases heavy

theorem replays_inside (act : Act) (again : replays act = true) :
    TcpWritePath.onStrand act = 1 := by
  cases act <;> first | rfl | cases again

theorem reading_inside (act : Act) (reads : reading act = true) :
    TcpWritePath.onStrand act = 1 := by
  cases act <;> first | rfl | cases reads

theorem runTask_plain {task : Task} (aside : readTask task = false) :
    ∀ act ∈ (runTask choice conn task).2, plain act = true := by
  cases task with
  | connected => simp [runTask, plain, resumes, asksRead, completes]
  | writeCompleted buffer failed =>
      simp only [runTask]
      split
      · simp
      · split
        · simp [plain, resumes, asksRead, completes]
        · simp
  | enqueueWrite | shutdownSend | forceClose | close =>
      simp only [runTask]
      repeat' split
      all_goals simp
  | _ => cases aside

theorem Handed.start {out : Conn × List Act} (bagged : Bagged before.events others)
    (asked : .startRead ∈ before.tasks → .startPosted ∈ before.events)
    (started : Started before out) : Handed (reader out.1) (↑out.2 + others) := by
  obtain ⟨after, cuts⟩ := out
  obtain ⟨resumed, cut, begun⟩ := started
  dsimp only at resumed cut begun ⊢
  rcases cut with rfl | rfl
  · apply Handed.resume bagged asked resumed _ (absurd rfl) (absurd rfl) rfl (fun _ _ => rfl) rfl
    rintro (connected | under)
    · exact begun (.inl connected)
    · cases under
  · apply Handed.resume bagged asked resumed _ _ _ rfl (fun _ _ => rfl) rfl
    · exact fun _ => begun (.inr (List.cons_ne_nil _ _))
    · exact fun _ => (has_add _ _ _).mpr (.inl rfl)
    · exact fun _ => (has_add _ _ _).mpr (.inl rfl)

theorem Handed.startInside {callback : Callback} (bagged : Bagged before.events others)
    (asked : .startRead ∈ before.tasks → .startPosted ∈ before.events)
    (under : underRead callback.cut = true → .readStarted ∈ before.events)
    (lone : ∀ held, .finHeld held ∈ before.events → readsBehind callback = false)
    {out : Conn × List Act} (started : Started before out) :
    Handed (reader out.1)
      (↑[if out.2.isEmpty then callback.cut else .replayReturned callback] + others) := by
  obtain ⟨after, cuts⟩ := out
  obtain ⟨resumed, cut, begun⟩ := started
  obtain ⟨asks, done, reads⟩ := callback_under callback
  dsimp only at resumed cut begun ⊢
  rcases cut with rfl | rfl
  · apply Handed.resume bagged asked resumed _ (absurd rfl) (absurd rfl)
    · simp [asks]
    · simpa [reads] using lone
    · simp [done]
    · rintro (connected | is_under)
      · exact begun (.inl connected)
      · exact resumed.grows _ (under (by simpa using is_under))
  · apply Handed.resume bagged asked resumed _ _ _ rfl _ rfl
    · exact fun _ => begun (.inr (List.cons_ne_nil _ _))
    · exact fun _ => (has_add _ _ _).mpr (.inl rfl)
    · exact fun _ => (has_add _ _ _).mpr (.inl rfl)
    · simpa [reading] using lone

theorem Handed.standDown (handed : Handed r bag) :
    Handed { r with read := { r.read with watchActive := false } } bag :=
  { handed with
    core := handed.core.standDown
    calm := fun begun connected => calm_mono nofun id id (handed.calm begun connected)
    pending := handed.pending
    order := handed.order
    asked := handed.asked }

theorem callback_handed {callback : Callback} {returned : Conn × List Act}
    (handed : Handed (reader conn) (callback.cut ::ₘ others))
    (returns : Handed (reader returned.1) (↑returned.2 + others)) :
    Handed (reader (runCallback choice conn callback returned).1)
      (↑(runCallback choice conn callback returned).2 + others) := by
  unfold runCallback
  cases choice.inside with
  | nothing => exact returns
  | cancelPeerCloseWatch => exact handed.standDown
  | startRead =>
      have core := handed.core.mark (.inl rfl) nofun
      have noted : reader (conn.note .startPosted) = { reader conn with
          events := .startPosted :: (reader conn).events } := reader_note conn rfl
      have bagged : Bagged (reader (conn.note .startPosted)).events others := by
        rw [noted]
        apply handed.bagged.tail.later
        · exact fun _ => List.mem_cons_of_mem _
        · exact fun _ member => List.mem_of_ne_of_mem (by simp) member
      have started : Started (reader (conn.note .startPosted))
          (runTask choice (conn.note .startPosted) .startRead) := by
        apply startRead_started
        · rw [noted]
          exact core
        · rw [noted]
          exact List.mem_cons_self
        · rw [noted]
          intro connected
          exact (handed.clear_inside connected).imp_right fun late => { late with }
      refine Handed.startInside bagged ?_ ?_ ?_ started
      · rw [noted]
        exact fun _ => List.mem_cons_self
      · intro under
        rw [noted]
        exact List.mem_cons_of_mem _ (handed.bagged.begun ((has_cons _ _ _).mpr (.inl under)))
      · intro held seen
        rw [noted] at seen
        have lone := handed.bagged.lone held (List.mem_of_ne_of_mem (by simp) seen)
        rw [has_cons, (callback_under callback).2.2] at lone
        simpa using fun reads => lone (.inl reads)

theorem Handed.settled {error : Option ErrorCode} (handed : Handed r (.dataReturned error ::ₘ others)) :
    (∀ held, .finHeld held ∉ r.events) ∧ r.read.closePending = false := by
  have unseen : ∀ held, .finHeld held ∉ r.events := fun held seen =>
    handed.bagged.lone held seen ((has_cons _ _ _).mpr (.inl rfl))
  refine ⟨unseen, ?_⟩
  by_contra pending
  obtain ⟨held, seen⟩ := handed.core.pendingHeld (by simpa using pending)
  exact unseen held seen

theorem cut_handed (callback : Callback) (calm : choice.throws = false)
    (handed : Handed (reader conn) (callback.cut ::ₘ others)) :
    Handed (reader (exec choice conn callback.cut).1)
      (↑(exec choice conn callback.cut).2 + others) := by
  have bagged := handed.bagged.tail
  cases callback with
  | onConnect =>
      apply callback_handed handed
      exact handed.spend rfl (by simp [Conn.free])
  | onWritable =>
      apply callback_handed handed
      rw [calm]
      have spent : Handed (reader conn) (↑([] : List Act) + others) := handed.spend rfl (by simp)
      by_cases flushed : choice.flushed = true
      · rw [flushed]
        exact spent.left (@doWrite_left { conn with send := { conn.send with
          hitWatermark := false } } choice)
      · rw [if_neg flushed]
        exact spent.left (doWrite_left choice)
  | onHoldback =>
      apply callback_handed handed
      rw [calm]
      have begun := handed.bagged.begun ((has_cons _ _ _).mpr (.inl rfl))
      have resumed : Resumed (reader conn) (reader (finishStartRead choice conn)) False False :=
        finishStartRead_resumed handed.core (fun _ => doRead_calm handed.calm)
          (fun _ => handed.calm) begun
      exact Handed.resume bagged handed.asked resumed (fun _ => resumed.grows _ begun) False.elim
        False.elim rfl (fun _ _ => rfl) rfl
  | onData error =>
      apply callback_handed handed
      rw [calm]
      have begun := handed.bagged.begun ((has_cons _ _ _).mpr (.inl rfl))
      obtain ⟨unseen, settled⟩ := handed.settled
      have resumed : Resumed (reader conn) (reader (finishRead choice conn error)) False False :=
        finishRead_resumed error handed.core handed.calm begun settled unseen
      exact Handed.resume bagged handed.asked resumed (fun _ => resumed.grows _ begun) False.elim
        False.elim rfl (fun _ _ => rfl) rfl
  | onReplay outer =>
      apply callback_handed handed
      rw [calm]
      have begun := handed.bagged.begun ((has_cons _ _ _).mpr (.inl rfl))
      have resumed : Resumed (reader conn) (reader (finishStartRead choice conn)) False False :=
        finishStartRead_resumed handed.core (fun _ => doRead_calm handed.calm)
          (fun _ => handed.calm) begun
      obtain ⟨asks, done, reads⟩ := callback_under outer
      apply Handed.resume bagged handed.asked resumed (fun _ => resumed.grows _ begun) False.elim
        False.elim
      · simp [asks]
      · intro held seen
        have lone := handed.bagged.lone held seen
        rw [has_cons] at lone
        have off : readsBehind outer = false := by
          by_contra on
          have on : readsBehind outer = true := by simpa using on
          exact lone (.inl on)
        simp [reads, off]
      · simp [done]

theorem reader_front {task : Task} {rest : List Task} (next : conn.posted = task :: rest)
    (reads : readTask task = true) :
    reader conn = (reader { conn with posted := rest }).front task := by
  simp [reader, Reader.front, next, reads]

theorem reader_aside {task : Task} {rest : List Task} (next : conn.posted = task :: rest)
    (aside : readTask task = false) : reader { conn with posted := rest } = reader conn := by
  simp [reader, next, aside]

theorem Handed.pop {task : Task} (handed : Handed (r.front task) others)
    (starts : isStart task = false) (reads : isDoRead task = false)
    (core : Core after) (tasks : after.tasks = r.tasks)
    (state : after.state = .connected → r.state = .connected)
    (adds : AddsFin r.events after.events) (calm : Calm after)
    (stays : .readStarted ∈ r.events → r.read.inFlight = true → after.read.inFlight = true)
    (pauses : .readStarted ∈ r.events → after.read.paused = r.read.paused)
    (settles : .readStarted ∈ r.events → after.read.closePending = r.read.closePending)
    (lone : ∀ held, .finHeld held ∈ after.events → ¬ Has reading others) :
    Handed after others := by
  have started : .readStarted ∈ after.events ↔ .readStarted ∈ r.events := adds.mem nofun
  have posted : .startPosted ∈ after.events ↔ .startPosted ∈ r.events := adds.mem nofun
  have ended : .readEof ∈ after.events ↔ .readEof ∈ r.events := adds.mem nofun
  constructor
  · refine ⟨core, ?_, ?_, calm, ?_⟩
    · intro called connected
      rw [tasks, started]
      apply (handed.pending (posted.mp called) (state connected)).imp id
      intro member
      apply List.mem_of_ne_of_mem _ member
      rintro rfl
      cases starts
    · intro connected unread
      rw [tasks]
      rw [started] at unread
      exact (fenced_tail starts (handed.order (state connected) unread)).2
    · intro member
      rw [tasks] at member
      exact posted.mpr (handed.asked (List.mem_cons_of_mem _ member))
  · intro begun connected unended unpaused
    rw [started] at begun
    rw [ended] at unended
    rcases handed.flowing begun (state connected) unended (pauses begun ▸ unpaused) with
      armed | queued | someone
    · exact .inl (stays begun armed)
    · right
      left
      rw [tasks]
      apply List.mem_of_ne_of_mem _ queued
      rintro rfl
      cases reads
    · exact .inr (.inr someone)
  · intro begun connected pending
    rw [started] at begun
    rw [settles begun] at pending
    exact handed.replaying begun (state connected) pending
  · exact {
      begun := fun under => started.mpr (handed.bagged.begun under)
      called := fun asks => posted.mpr (handed.bagged.called asks)
      lone := lone
      callable := handed.bagged.callable }

theorem watch_handed (choice : Choice)
    (handed : Handed ((reader conn).front .watchPeerClose) others) :
    Handed (reader (runTask choice conn .watchPeerClose).1) others := by
  obtain ⟨core, watching⟩ := handed.core.watch rfl
  have calm : .readStarted ∈ (reader conn).events → (reader conn).state = .connected →
      TcpReadPath.calm true (decide (0 < (reader conn).read.waits) || !(reader conn).read.inFlight)
        (reader conn).read.inFlight (reader conn).tasks = true := handed.calm
  simp only [runTask]
  rcases @reader_doWatch { conn with read := { conn.read with watchActive := true } } with
    same | ⟨can, armed⟩
  · rw [same]
    apply handed.pop rfl rfl core rfl id (.inl rfl) _ (fun _ => id) (fun _ => rfl) (fun _ => rfl)
      handed.bagged.lone
    intro begun connected
    exact calm_mono id (fun waits => (Bool.or_eq_true _ _).mpr (.inl waits)) id (calm begun connected)
  · rw [armed]
    apply handed.pop rfl rfl (core.await watching can) rfl id (.inl rfl) _ (fun _ => id)
      (fun _ => rfl) (fun _ => rfl) handed.bagged.lone
    intro begun connected
    have free : (reader conn).read.inFlight = false := can.2.2.2.1
    have calm := calm begun connected
    rw [free, Bool.not_false, Bool.or_true] at calm
    exact calm_mono id (fun _ => rfl) Bool.noConfusion calm

theorem cancel_handed (choice : Choice)
    (handed : Handed ((reader conn).front .cancelPeerCloseWatch) others) :
    Handed (reader (runTask choice conn .cancelPeerCloseWatch).1) others := by
  have dropped : Core (reader conn) := handed.core.drop (.tail rfl rfl _)
  exact handed.pop rfl rfl dropped.standDown rfl id (.inl rfl) handed.calm (fun _ => id)
    (fun _ => rfl) (fun _ => rfl) handed.bagged.lone

theorem waited_handed {error : Option ErrorCode}
    (handed : Handed ((reader conn).front (.waitCompleted error)) others)
    (free : ¬ Has reading others) :
    (runTask choice conn (.waitCompleted error)).2 = [] ∧
      Handed (reader (runTask choice conn (.waitCompleted error)).1) others := by
  have opened : conn.state = .connected → conn.socketOpen = true := by
    intro connected
    apply handed.core.opened
    simp [reader, connected]
  obtain ⟨none, same | ⟨unread, watched⟩⟩ := waitCompleted_watched handed.core handed.calm opened
  · refine ⟨none, ?_⟩
    rw [same]
    apply handed.pop rfl rfl (handed.core.waited rfl) rfl id (.inl rfl) _ (fun _ => id)
      (fun _ => rfl) (fun _ => rfl) handed.bagged.lone
    intro begun connected
    have calm := handed.calm begun connected
    simp only [Reader.front_tasks, TcpReadPath.calm, Bool.and_eq_true] at calm
    exact calm.2
  · refine ⟨none, ?_⟩
    apply handed.pop rfl rfl watched.core watched.tasks watched.state watched.adds _
      (fun begun => absurd begun unread) (fun begun => absurd begun unread)
      (fun begun => absurd begun unread) (fun _ _ => free)
    intro begun
    exact absurd ((watched.adds.mem fun _ => Obs.noConfusion).mp begun) unread

theorem Handed.alone (handed : Handed r others) : Handed r (↑([] : List Act) + others) := by
  rw [Multiset.coe_nil, Multiset.zero_add]
  exact handed

theorem Handed.ended (core : Core r) (ended : r.state ≠ .connected)
    (asked : .startRead ∈ r.tasks → .startPosted ∈ r.events) (bagged : Bagged r.events bag) :
    Handed r bag where
  toSteady := .of_begun core (.of_ended ended) (fun connected => absurd connected ended) asked
  flowing := .of_ended ended
  replaying := .of_ended ended
  bagged := bagged

theorem doRead_handed (handed : Handed ((reader conn).front .doRead) others)
    (free : ¬ Has replays others) :
    Handed (reader (doRead conn)) (↑([] : List Act) + others) := by
  have core : Core (reader conn) := handed.core.drop (.tail rfl rfl _)
  have asked : .startRead ∈ (reader conn).tasks → .startPosted ∈ (reader conn).events :=
    fun member => handed.asked (List.mem_cons_of_mem _ member)
  have bagged : Bagged (reader conn).events others := handed.bagged
  by_cases connected : (reader conn).state = .connected
  · have begun : .readStarted ∈ (reader conn).events := by
      by_contra unread
      have order := handed.order connected unread
      simp [fenced, isStart, isDoRead] at order
    have settled : (reader conn).read.closePending = false := by
      by_contra pending
      exact free (handed.replaying begun connected (by simpa using pending))
    have resumed : Resumed (reader conn) (reader (doRead conn)) False False :=
      doRead_resumed core (doRead_calm handed.calm) begun settled
    exact Handed.resume bagged asked resumed (fun _ => resumed.grows _ begun) False.elim
      False.elim rfl (fun _ _ => rfl) rfl
  · rcases reader_doRead conn with ⟨-, same⟩ | ⟨can, -⟩
    · rw [same]
      exact (Handed.ended core connected asked handed.bagged).alone
    · exact absurd can.1 connected

theorem start_handed (handed : Handed ((reader conn).front .startRead) others) :
    Handed (reader (runTask choice conn .startRead).1)
      (↑(runTask choice conn .startRead).2 + others) := by
  have called : .startPosted ∈ (reader conn).events := handed.asked List.mem_cons_self
  have bagged : Bagged (reader conn).events others := handed.bagged
  have core : Core (reader conn) := handed.core.drop (.tail rfl rfl _)
  apply Handed.start bagged fun _ => called
  exact startRead_started core called fun _ => handed.toSteady.clear_posted

theorem read_handed {data : Bytes} {error : Option ErrorCode}
    (handed : Handed ((reader conn).front (.readCompleted data error)) others) :
    Handed (reader (runTask choice conn (.readCompleted data error)).1)
      (↑(runTask choice conn (.readCompleted data error)).2 + others) := by
  obtain ⟨begun, unseen, -⟩ := landing_begun handed.core
  have asked : .startRead ∈ (reader conn).tasks → .startPosted ∈ (reader conn).events :=
    fun member => handed.asked (List.mem_cons_of_mem _ member)
  have bagged : Bagged (reader conn).events others := handed.bagged
  obtain ⟨resumed, cut⟩ := @readCompleted_resumed conn choice data error handed.core handed.calm
  generalize runTask choice conn (.readCompleted data error) = out at resumed cut ⊢
  obtain ⟨after, cuts⟩ := out
  dsimp only at resumed cut ⊢
  rcases cut with rfl | rfl
  · exact Handed.resume bagged asked resumed (fun _ => resumed.grows _ begun) (absurd rfl)
      False.elim rfl (fun _ _ => rfl) rfl
  · exact Handed.resume bagged asked resumed (fun _ => resumed.grows _ begun)
      (fun _ => (has_add _ _ _).mpr (.inl rfl)) False.elim rfl
      (fun held seen => absurd seen (unseen held)) rfl

theorem strandNext_handed (handed : Handed (reader conn) (.strandNext ::ₘ others))
    (strand : weigh TcpWritePath.onStrand others = if conn.strandBusy then 1 else 0) :
    Handed (reader (exec choice conn .strandNext).1)
      (↑(exec choice conn .strandNext).2 + others) := by
  have same : Handed (reader conn) (↑([] : List Act) + others) := handed.spend rfl (by simp)
  simp only [exec]
  split
  · exact same
  · next free =>
      rw [if_neg free] at strand
      have quiet : ¬ Has reading others := not_has_strand strand reading_inside
      have settled : ¬ Has replays others := not_has_strand strand replays_inside
      split
      · exact same
      · next task rest next =>
          have alone : Handed (reader conn) others := by
            rw [Multiset.coe_nil, Multiset.zero_add] at same
            exact same
          by_cases reads : readTask task = true
          · rw [reader_front next reads] at alone
            cases task with
            | startRead => exact start_handed alone
            | watchPeerClose => exact (watch_handed choice alone).alone
            | cancelPeerCloseWatch => exact (cancel_handed choice alone).alone
            | doRead => exact doRead_handed alone settled
            | readCompleted data error => exact read_handed alone
            | waitCompleted error =>
                obtain ⟨none, waited⟩ := @waited_handed { conn with posted := rest } choice _ error
                  alone quiet
                rw [none]
                exact waited.alone
            | _ => cases reads
          · have aside : readTask task = false := by simpa using reads
            rw [← reader_aside next aside] at handed
            exact (handed.spend rfl (runTask_plain aside)).left (runTask_left choice aside)

theorem reader_post (conn : Conn) {task : Task} (reads : readTask task = true) :
    reader (conn.post task) = { reader conn with tasks := (reader conn).tasks ++ [task] } := by
  simp [reader, Conn.post, reads]

def noted : Task → List Obs
  | .startRead => [.startPosted]
  | .watchPeerClose => [.watchPosted]
  | _ => []

theorem noted_mem {task : Task} {event : Obs} {events : List Obs}
    (apart : event ≠ .startPosted ∧ event ≠ .watchPosted) :
    event ∈ noted task ++ events ↔ event ∈ events := by
  cases task <;> simp [noted, apart]

theorem Core.noted {task : Task} (core : Core r) :
    Core { r with events := TcpReadPath.noted task ++ r.events } := by
  cases task with
  | startRead => exact core.mark (.inl rfl) nofun
  | watchPeerClose => exact core.mark (.inr (.inl rfl)) nofun
  | _ => exact core

theorem Handed.queue {task : Task} (handed : Handed r bag) (reads : isReadDone task = false)
    (waits : isWaitDone task = false)
    (watch : task = .watchPeerClose → .watchPosted ∉ r.events ∧ .startPosted ∉ r.events)
    (behind : isDoRead task = true → .startPosted ∈ r.events) :
    Handed { r with tasks := r.tasks ++ [task], events := noted task ++ r.events } bag := by
  have began : .readStarted ∈ noted task ++ r.events ↔ .readStarted ∈ r.events :=
    noted_mem (by simp)
  have ended : .readEof ∈ noted task ++ r.events ↔ .readEof ∈ r.events := noted_mem (by simp)
  have fins : ∀ held, .finHeld held ∈ noted task ++ r.events ↔ .finHeld held ∈ r.events :=
    fun held => noted_mem (by simp)
  have grows : ∀ event ∈ r.events, event ∈ noted task ++ r.events :=
    fun _ => List.mem_append_right _
  constructor
  · constructor
    · have core : Core { r with events := noted task ++ r.events } := handed.core.noted
      apply core.queue reads waits
      rintro rfl
      obtain ⟨unwatched, unasked⟩ := watch rfl
      have fresh := handed.core.unwatched unwatched
      refine ⟨List.mem_cons_self, { fresh with unseen := ?_ }, ?_, ?_⟩
      · exact fun held seen => fresh.unseen held ((fins held).mp seen)
      · exact fun member => unwatched (handed.core.watched member).1
      · exact fun member => unasked (handed.asked member)
    · intro called connected
      by_cases same : task = .startRead
      · subst same
        exact .inr (List.mem_append_right _ List.mem_cons_self)
      · have called : .startPosted ∈ r.events := by
          cases task with
          | startRead => exact absurd rfl same
          | _ => simpa [noted] using called
        exact (handed.pending called connected).imp began.mpr (List.mem_append_left _)
    · intro connected unread
      have unread : .readStarted ∉ r.events := fun begun => unread (began.mpr begun)
      apply fenced_post (handed.order connected unread)
      intro goes
      exact (handed.pending (behind goes) connected).resolve_left unread
    · intro begun connected
      have begun := began.mp begun
      refine calm_append ⟨?_, waits⟩ (handed.calm begun connected)
      exact fun same => (watch same).2 (handed.core.called begun)
    · intro member
      by_cases same : task = .startRead
      · subst same
        exact List.mem_cons_self
      · exact grows _ (handed.asked (mem_queue (Ne.symm same) member))
  · intro begun connected unended unpaused
    have goes := handed.flowing (began.mp begun) connected (fun seen => unended (ended.mpr seen))
      unpaused
    exact goes.imp_right (Or.imp_left (List.mem_append_left _))
  · exact fun begun => handed.replaying (began.mp begun)
  · exact handed.bagged.later grows fun held => (fins held).mp

theorem reader_posted (conn : Conn) (task : Task) (reads : readTask task = true) :
    reader ((conn.post task).noteCall task) = { reader conn with
      tasks := (reader conn).tasks ++ [task], events := noted task ++ (reader conn).events } := by
  cases task with
  | startRead =>
      have marked := reader_note (conn.post .startRead) (rfl : readEvent .startPosted = true)
      rw [reader_post conn rfl] at marked
      exact marked
  | watchPeerClose =>
      have marked := reader_note (conn.post .watchPeerClose) (rfl : readEvent .watchPosted = true)
      rw [reader_post conn rfl] at marked
      exact marked
  | cancelPeerCloseWatch | doRead | readCompleted _ _ | waitCompleted _ =>
      exact reader_post conn rfl
  | _ => cases reads

theorem reader_posted_aside (conn : Conn) (task : Task) (aside : readTask task = false) :
    reader ((conn.post task).noteCall task) = reader conn := by
  have same : reader (conn.post task) = reader conn := by simp [reader, Conn.post, aside]
  cases task with
  | shutdownSend =>
      rw [Conn.noteCall, reader_unseen _ rfl]
      exact same
  | enqueueWrite _ | close | forceClose _ | connected | writeCompleted _ _ => exact same
  | _ => cases aside

theorem post_handed (task : Task) (handed : Handed (reader conn) (.post task ::ₘ others))
    (order : task = .watchPeerClose → .watchPosted ∉ conn.log ∧ .startPosted ∉ conn.log) :
    Handed (reader ((conn.post task).noteCall task)) (↑([] : List Act) + others) := by
  have called : isDoRead task = true → .startPosted ∈ (reader conn).events := by
    intro reads
    apply handed.bagged.called
    cases task with
    | doRead => exact (has_cons _ _ _).mpr (.inl rfl)
    | _ => cases reads
  have plain : isReadDone task = false ∧ isWaitDone task = false := by
    have callable := handed.bagged.callable
    rw [has_cons] at callable
    cases task with
    | readCompleted _ _ | waitCompleted _ => exact absurd (.inl rfl) callable
    | _ => exact ⟨rfl, rfl⟩
  have watch : task = .watchPeerClose →
      .watchPosted ∉ (reader conn).events ∧ .startPosted ∉ (reader conn).events := by
    intro same
    obtain ⟨unwatched, unasked⟩ := order same
    exact ⟨fun member => unwatched (List.mem_filter.mp member).1,
      fun member => unasked (List.mem_filter.mp member).1⟩
  by_cases again : task = .doRead
  · subst again
    rw [reader_posted conn .doRead rfl]
    have queued := handed.queue plain.1 plain.2 watch called
    refine ⟨queued.toSteady, ?_, ?_, queued.bagged.tail.plain (by simp)⟩
    · intro _ _ _ _
      exact .inr (.inl (List.mem_append_right _ List.mem_cons_self))
    · intro begun connected pending
      have goes := queued.replaying begun connected pending
      rw [has_cons] at goes
      exact (has_add _ _ _).mpr (.inr (goes.resolve_left Bool.false_ne_true))
  · have idle : resumes (.post task) = false := by
      cases task with
      | doRead => exact absurd rfl again
      | _ => rfl
    have spent : Handed (reader conn) (↑([] : List Act) + others) := handed.spend idle (by simp)
    by_cases reads : readTask task = true
    · rw [reader_posted conn task reads]
      exact spent.queue plain.1 plain.2 watch called
    · rw [reader_posted_aside conn task (by simpa using reads)]
      exact spent

theorem readCompletes_handed (handed : Handed (reader conn) bag) :
    Handed (reader (exec choice conn .readCompletes).1) bag := by
  simp only [exec]
  split
  · exact handed
  · next read data error completes =>
      obtain ⟨out, aborted, shut, arrived, split, rfl⟩ := completeRead_spec completes
      rw [reader_post _ rfl]
      have core := handed.core.readDone out aborted shut split
      exact { handed with
        core := core
        pending := fun called connected =>
          (handed.pending called connected).imp_right (List.mem_append_left _)
        order := fun connected unread => fenced_post (handed.order connected unread) (by rintro ⟨⟩)
        calm := fun begun connected => calm_append ⟨by rintro ⟨⟩, rfl⟩ (handed.calm begun connected)
        asked := fun member => by
          rcases List.mem_append.mp member with before | now
          · exact handed.asked before
          · cases List.mem_singleton.mp now
        flowing := fun begun connected unended unpaused =>
          (handed.flowing begun connected unended unpaused).imp_right
            (Or.imp_left (List.mem_append_left _)) }

theorem waitCompletes_handed (handed : Handed (reader conn) bag) :
    Handed (reader (exec choice conn .waitCompletes).1) bag := by
  simp only [exec]
  split
  · exact handed
  · next out =>
      rw [reader_post _ rfl]
      have out : 0 < (reader conn).read.waits := Nat.pos_of_ne_zero out
      exact { handed with
        core := handed.core.waitDone out
        pending := fun called connected =>
          (handed.pending called connected).imp_right (List.mem_append_left _)
        order := fun connected unread => fenced_post (handed.order connected unread) (by rintro ⟨⟩)
        calm := fun begun connected => by
          have calm := handed.calm begun connected
          rw [decide_eq_true out] at calm
          exact calm_wait _ calm
        asked := fun member => by
          rcases List.mem_append.mp member with before | now
          · exact handed.asked before
          · cases List.mem_singleton.mp now
        flowing := fun begun connected unended unpaused =>
          (handed.flowing begun connected unended unpaused).imp_right
            (Or.imp_left (List.mem_append_left _)) }

theorem exec_handed (act : Act) (calm : choice.throws = false)
    (order : act = .post .watchPeerClose → .watchPosted ∉ conn.log ∧ .startPosted ∉ conn.log)
    (strand : act = .strandNext → weigh TcpWritePath.onStrand others = if conn.strandBusy then 1 else 0)
    (handed : Handed (reader conn) (act ::ₘ others)) :
    Handed (reader (exec choice conn act).1) (↑(exec choice conn act).2 + others) := by
  have spent : resumes act = false → Handed (reader conn) (↑([] : List Act) + others) :=
    fun idle => handed.spend idle (by simp)
  cases act with
  | write buffer =>
      simp only [exec]
      split
      · rw [reader_unseen conn rfl]
        exact spent rfl
      · exact handed.spend rfl (by simp [plain, resumes, asksRead, completes])
  | writeGate buffer =>
      simp only [exec]
      split
      · rw [reader_unseen conn rfl]
        exact spent rfl
      · split
        · rw [reader_unseen conn rfl]
          exact spent rfl
        · exact handed.spend rfl (by simp [plain, resumes, asksRead, completes])
  | writeMeasure buffer => exact handed.spend rfl (by simp [exec, plain, resumes, asksRead, completes])
  | writePost buffer full =>
      simp only [exec]
      rw [reader_unseen _ rfl, reader_unseen _ rfl]
      have same : reader (conn.post (.enqueueWrite buffer)) = reader conn := by
        simp [reader, Conn.post, readTask]
      rw [same]
      exact spent rfl
  | post task => exact post_handed task handed fun same => order (congrArg Act.post same)
  | pauseRead =>
      have called := handed.bagged.called ((has_cons _ _ _).mpr (.inl rfl))
      exact { spent rfl with
        core := handed.core.pause fun _ => called
        pending := handed.pending
        order := handed.order
        calm := handed.calm
        flowing := fun _ _ _ unpaused => by cases unpaused }
  | resumeRead =>
      have called := handed.bagged.called ((has_cons _ _ _).mpr (.inl rfl))
      have core : Core (reader (exec choice conn .resumeRead).1) :=
        handed.core.pause fun on => absurd on Bool.false_ne_true
      simp only [exec]
      by_cases paused : conn.read.paused = true
      · rw [if_pos paused]
        have goes : Has resumes (↑[Act.post .doRead] + others) := (has_add _ _ _).mpr (.inl rfl)
        refine ⟨⟨core, handed.pending, handed.order, handed.calm, handed.asked⟩,
          fun _ _ _ _ => .inr (.inr goes), ?_, ?_⟩
        · intro begun connected pending
          have again := (spent rfl).replaying begun connected pending
          rw [Multiset.coe_nil, Multiset.zero_add] at again
          exact (has_add _ _ _).mpr (.inr again)
        · exact handed.bagged.tail.onward (fun _ => id) (fun _ => id) (by rintro ⟨⟩)
            (fun _ => called) (fun _ _ => rfl) rfl
      · rw [if_neg paused]
        have unpaused : (reader conn).read.paused = false := by simpa [reader] using paused
        exact { spent rfl with
          core := core
          pending := handed.pending
          order := handed.order
          calm := handed.calm
          flowing := fun begun connected unended _ =>
            (spent rfl).flowing begun connected unended unpaused }
  | setMaxWriteBufferSize bytes => exact spent rfl
  | strandNext => exact strandNext_handed handed (strand rfl)
  | callOnConnect => exact cut_handed .onConnect calm handed
  | callOnWritable => exact cut_handed .onWritable calm handed
  | holdbackReturned => exact cut_handed .onHoldback calm handed
  | dataReturned error => exact cut_handed (.onData error) calm handed
  | replayReturned outer => exact cut_handed (.onReplay outer) calm handed
  | writeCompletes =>
      simp only [exec]
      split
      · exact spent rfl
      · have same : ∀ sent buffer failed, reader ({ conn with send := sent }.post
            (.writeCompleted buffer failed)) = reader conn := by
          intro sent buffer failed
          simp [reader, Conn.post, readTask]
        rw [same]
        exact spent rfl
  | readCompletes =>
      have none : (exec choice conn .readCompletes).2 = [] := by
        simp only [exec]
        split <;> rfl
      rw [none]
      exact readCompletes_handed (spent rfl)
  | waitCompletes =>
      have none : (exec choice conn .waitCompletes).2 = [] := by
        simp only [exec]
        split <;> rfl
      rw [none]
      exact waitCompletes_handed (spent rfl)
  | peerSends data =>
      simp only [exec]
      split
      · exact spent rfl
      · next alive =>
          have alive : (reader conn).read.peerEnd.isSome = false := by
            simpa [reader] using alive
          exact { spent rfl with
            core := handed.core.sends alive data
            pending := handed.pending
            order := handed.order
            calm := handed.calm }
  | peerEnds ended discards =>
      simp only [exec]
      split
      · exact spent rfl
      · next alive =>
          have alive : (reader conn).read.peerEnd.isSome = false := by
            simpa [reader] using alive
          exact { spent rfl with
            core := handed.core.ends alive ended discards
            pending := handed.pending
            order := handed.order
            calm := handed.calm }

def pausing : Op → Bool
  | .pauseRead | .resumeRead => true
  | _ => false

def watching : Act → Bool
  | .post .watchPeerClose => true
  | _ => false

/-- The watch is asked for at most once and before reading, reading is paused only once
it was asked for, and the consumer does not throw. -/
def orderly : Guard Conn Act Op Choice := fun conn _ move =>
  match move with
  | .call op => pausing op = true → .startPosted ∈ conn.log
  | .act choice act => choice.throws = false ∧
      (watching act = true → .watchPosted ∉ conn.log ∧ .startPosted ∉ conn.log)

instance : orderly.Checked := fun _ _ move =>
  match move with
  | .call _ => inferInstanceAs (Decidable (_ → _))
  | .act _ _ => inferInstanceAs (Decidable (_ ∧ _))

variable {config : Config Conn Act}

theorem adopted_reader (adopted : Adopted conn) :
    reader conn = ⟨.connected, true, {}, [], []⟩ := by
  obtain ⟨maxBuffer, rfl | rfl⟩ := adopted
  · rfl
  · rfl

theorem adopted_handed (adopted : Adopted conn) : Handed (reader conn) 0 := by
  rw [adopted_reader adopted]
  have fresh : Unwatched ⟨.connected, true, {}, [], []⟩ := ⟨rfl, rfl, rfl, rfl, by rintro _ ⟨⟩⟩
  have core : Core ⟨.connected, true, {}, [], []⟩ := by
    constructor <;> simp [Reader.received, deliveredBytes, landedBytes, watchFirst, fresh]
  refine ⟨⟨core, by rintro ⟨⟩, fun _ _ => rfl, by rintro ⟨⟩, by rintro ⟨⟩⟩, by rintro ⟨⟩, by rintro ⟨⟩, ?_⟩
  constructor <;> simp

theorem start_plain (op : Op) : (TcpConnection.start op).any underRead = false ∧
    (TcpConnection.start op).any reading = false ∧ (TcpConnection.start op).any completes = false ∧
    ((TcpConnection.start op).any asksRead = true → pausing op = true) := by
  cases op <;> simp [TcpConnection.start, underRead, reading, completes, asksRead, pausing]

theorem Handed.call (op : Op) (handed : Handed r bag)
    (order : pausing op = true → .startPosted ∈ r.events) :
    Handed r (↑(TcpConnection.start op) + bag) := by
  obtain ⟨under, reads, done, asks⟩ := start_plain op
  refine ⟨handed.toSteady, ?_, ?_, ?_⟩
  · intro begun connected unended unpaused
    exact (handed.flowing begun connected unended unpaused).imp_right
      (Or.imp_right fun goes => (has_add _ _ _).mpr (.inr goes))
  · intro begun connected pending
    exact (has_add _ _ _).mpr (.inr (handed.replaying begun connected pending))
  · apply handed.bagged.onward (fun _ => id) (fun _ => id) _ (fun on => order (asks on))
      (fun _ _ => reads) done
    intro on
    rw [under] at on
    cases on

theorem reach_handed (reached : Reach connectionProgram orderly Adopted config) :
    Handed (reader config.shared) config.bag := by
  have known := reached.knowing TcpWritePath.Guarded fun _ => TcpWritePath.reach_guarded
  apply Reach.bag_invariant (fun conn bag => Handed (reader conn) bag) _ _ _ known
  · exact fun conn => adopted_handed
  · intro conn bag op handed allowed
    apply handed.call op
    intro pauses
    exact List.mem_filter.mpr ⟨allowed.1 pauses, rfl⟩
  · intro choice conn act others handed allowed
    obtain ⟨⟨calm, order⟩, guarded⟩ := allowed
    have guarded : TcpWritePath.Guarded conn (act ::ₘ others) := guarded
    apply exec_handed act calm _ _ handed
    · rintro rfl
      exact order rfl
    · rintro rfl
      have strand := guarded.strand
      rw [weigh_cons] at strand
      exact (Nat.zero_add _).symm.trans strand

/-- Nothing runs on the strand, is queued on it or is being posted by a `resume_read`. -/
structure StrandIdle (conn : Conn) (bag : Multiset Act) : Prop where
  free : conn.strandBusy = false
  empty : conn.posted = []
  unposted : .post .doRead ∉ bag

structure ReadPathIntact (conn : Conn) (bag : Multiset Act) : Prop where
  inOrder : deliveredBytes conn.log <+: conn.read.stream
  afterStart : ∀ data older, .delivered data :: older <:+ conn.log →
    .readStarted ∈ older ∧ .startPosted ∈ older
  holdbackFirst : conn.read.holdback ≠ [] → conn.read.reads = 0 ∧ ∀ data, .delivered data ∉ conn.log
  oneRead : conn.read.reads ≤ 1
  finOnce : ∀ held, .finHeld held ∈ conn.log → conn.log.count .readEof ≤ 1
  finAfter : ∀ held, .finHeld held ∈ conn.log →
    ∀ older, .readEof :: older <:+ conn.log → .delivered held ∈ older
  finReported : ∀ held, .finHeld held ∈ conn.log → .readStarted ∈ conn.log →
    conn.state = .connected → conn.strandBusy = false → conn.log.count .readEof = 1
  flows : conn.state = .connected → .readStarted ∈ conn.log → .readEof ∉ conn.log →
    conn.read.paused = false → StrandIdle conn bag → 0 < conn.read.reads

theorem deliveredBytes_filter (log : List Obs) :
    deliveredBytes (log.filter readEvent) = deliveredBytes log := by
  induction log with
  | nil => rfl
  | cons obs older ih =>
      cases obs with
      | delivered data =>
          rw [List.filter_cons_of_pos rfl, deliveredBytes, deliveredBytes, ih]
      | watchPosted | startPosted | readStarted | finHeld _ | readEof =>
          rw [List.filter_cons_of_pos rfl]
          exact ih
      | _ => exact ih

theorem mem_events {obs : Obs} (read : readEvent obs = true) :
    obs ∈ (reader conn).events ↔ obs ∈ conn.log := by
  simp [reader, read]

theorem suffix_events {obs : Obs} {older : List Obs} (read : readEvent obs = true)
    (suffix : obs :: older <:+ conn.log) : obs :: older.filter readEvent <:+ (reader conn).events := by
  have kept := suffix.filter readEvent
  rw [List.filter_cons_of_pos read] at kept
  exact kept

theorem count_events {obs : Obs} (read : readEvent obs = true) :
    (reader conn).events.count obs = conn.log.count obs :=
  List.count_filter read

theorem Core.delivered_started (core : Core r) {data : Bytes} (given : .delivered data ∈ r.events) :
    .readStarted ∈ r.events := by
  obtain ⟨newer, older, split⟩ := List.append_of_mem given
  have suffix : .delivered data :: older <:+ r.events := ⟨newer, split.symm⟩
  exact suffix.subset (List.mem_cons_of_mem _ (core.startedFirst data older suffix))

/-- A FIN behind delivered bytes is reported before the strand is free again. -/
theorem Handed.fin_reported {held : Bytes} (handed : Handed r bag)
    (seen : .finHeld held ∈ r.events) (begun : .readStarted ∈ r.events)
    (connected : r.state = .connected) (settled : ¬ Has replays bag) :
    r.events.count .readEof = 1 := by
  have none : r.read.closePending = false := by
    by_contra pending
    exact settled (handed.replaying begun connected (by simpa using pending))
  have told : .readEof ∈ r.events := by
    apply (handed.core.told held seen connected).resolve_left
    rw [none]
    exact Bool.false_ne_true
  have once := handed.core.eofOnce held seen
  have some_told := List.count_pos_iff.mpr told
  omega

/-- A watch before `start_read`, pauses behind it and every order of completions, local
closes and what the peer does: the stream arrives whole, and reading does not stall. -/
theorem read_path_intact (reached : Reach connectionProgram orderly Adopted config) :
    ReadPathIntact config.shared config.bag := by
  have handed := reach_handed reached
  have strand := (TcpWritePath.reach_guarded reached).strand
  have core := handed.core
  have counted : config.shared.read.reads + (reader config.shared).tasks.countP isReadDone =
      config.shared.read.inFlight.toNat := core.reads
  have bound : config.shared.read.inFlight.toNat ≤ 1 := Bool.toNat_le _
  constructor
  · rw [← deliveredBytes_filter]
    have order := core.order
    simp only [Reader.received, List.append_assoc] at order
    exact (List.prefix_append _ _).trans order
  · intro data older suffix
    have started := core.startedFirst data _ (suffix_events rfl suffix)
    obtain ⟨newer, before, split⟩ := List.append_of_mem started
    have called := core.calledFirst before (.trans ⟨newer, split.symm⟩
      (.trans (List.suffix_cons _ _) (suffix_events rfl suffix)))
    refine ⟨(List.mem_filter.mp started).1, ?_⟩
    apply List.mem_of_mem_filter
    rw [split]
    exact List.mem_append_right _ (List.mem_cons_of_mem _ called)
  · intro filled
    have unread : .readStarted ∉ (reader config.shared).events :=
      fun begun => filled (core.emptied begun)
    have free : config.shared.read.inFlight = false := (core.quiet unread).1
    rw [free, Bool.toNat_false] at counted
    refine ⟨by omega, ?_⟩
    intro data given
    exact unread (core.delivered_started ((mem_events rfl).mpr given))
  · omega
  · intro held seen
    have once := core.eofOnce held ((mem_events rfl).mpr seen)
    rw [count_events rfl] at once
    omega
  · intro held seen older suffix
    have given := core.eofLast _ (suffix_events rfl suffix) held ((mem_events rfl).mpr seen)
    exact (List.mem_filter.mp given).1
  · intro held seen begun connected free
    rw [free] at strand
    rw [← count_events rfl]
    exact handed.fin_reported ((mem_events rfl).mpr seen) ((mem_events rfl).mpr begun) connected
      (not_has_strand strand replays_inside)
  · intro connected begun unended unpaused idle
    rw [idle.free] at strand
    have none : (reader config.shared).tasks = [] := by simp [reader, idle.empty]
    rcases handed.flowing ((mem_events rfl).mpr begun) connected
      (fun ended => unended ((mem_events rfl).mp ended)) unpaused with armed | queued | goes
    · have armed : config.shared.read.inFlight = true := armed
      rw [armed, none, Bool.toNat_true, List.countP_nil] at counted
      omega
    · rw [none] at queued
      cases queued
    · obtain ⟨act, member, goes⟩ := goes
      have heavy : TcpWritePath.onStrand act ≤ weigh TcpWritePath.onStrand config.bag :=
        weight_le_weigh member
      rw [strand] at heavy
      cases act with
      | post task =>
          cases task with
          | doRead => exact absurd member idle.unposted
          | _ => cases goes
      | holdbackReturned | dataReturned _ | replayReturned _ => cases heavy
      | _ => cases goes

/-- A target that answers and closes before its tunnel is published: the bytes are held
back, then delivered, and the FIN behind them is reported. -/
theorem read_path_intact_replayed :
    ∃ config, Reach connectionProgram orderly Adopted config ∧
      ReadPathIntact config.shared config.bag ∧ config.shared.state = .connected ∧
      deliveredBytes config.shared.log = [1, 2] ∧ .finHeld [1, 2] ∈ config.shared.log ∧
      config.shared.log.head? = some .readEof := by
  let schedule : List (Event Op Choice) :=
    [.call .watchPeerClose, .run 0 {}, .call .strandNext, .run 1 {},
     .call (.peerSends [1, 2]), .run 2 {}, .call .waitCompletes, .run 3 {},
     .call .strandNext, .run 4 { count := 1 }, .call (.peerEnds .fin false), .run 5 {},
     .call .waitCompletes, .run 6 {}, .call .strandNext, .run 7 {},
     .call .startRead, .run 8 {}, .call .strandNext, .run 9 {}, .run 9 {}]
  have run := Reach.exists_of_replay connectionProgram orderly Adopted {} schedule
    (fun config => decide (config.shared.state = .connected ∧
      deliveredBytes config.shared.log = [1, 2] ∧ .finHeld [1, 2] ∈ config.shared.log ∧
      config.shared.log.head? = some .readEof))
    ⟨_, .inl rfl⟩ (by decide)
  obtain ⟨config, reached, met⟩ := run
  exact ⟨config, reached, read_path_intact reached, of_decide_eq_true met⟩

end Runs

end ToxTunnel.TcpReadPath
