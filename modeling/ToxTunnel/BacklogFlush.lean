import ToxTunnel.EmissionDriver

/-!
The backlog between the local socket and `send_data_to_tox`. A flush copies a
chunk out of `pending_tcp_input_`, offers it without a lock, and moves its cursor
only afterwards, so a second flush in that gap offers the same bytes again. In
every run without such an overlap the accepted bytes are a prefix of what the
socket delivered and the rest is in the backlog.
-/

namespace ToxTunnel.BacklogFlush
open Interleaving TunnelState TunnelSteps EmissionDriver

section Streams

/-- What the TCP side handed to `send_data_to_tox`, in the order it was accepted. -/
def handedData : List Obs → Bytes
  | [] => []
  | .accepted true data :: older => handedData older ++ data
  | _ :: older => handedData older

/-- The chunks given to `on_tcp_data_received`. -/
def receivedData : List Obs → Bytes
  | [] => []
  | .tcpInput data :: older => receivedData older ++ data
  | _ :: older => receivedData older

structure Feed where
  input : Bytes
  consumed : Nat
  handed : Bytes
  received : Bytes

def Feed.rest (feed : Feed) : Bytes := feed.input.drop feed.consumed

def feed (tunnel : Tunnel) : Feed where
  input := tunnel.backlog.input
  consumed := tunnel.backlog.consumed
  handed := handedData tunnel.log
  received := receivedData tunnel.log

/-- A chunk inside `on_tcp_data_received`: before its look at the backlog, and
after it found the backlog empty. -/
inductive Arrival where
  | arrived (data : Bytes)
  | offered (data : Bytes)

def Arrival.data : Arrival → Bytes
  | .arrived data | .offered data => data

/-- A flush past its copy: before and after the chunk was accepted. -/
inductive Flush where
  | copied (data : Bytes)
  | taken (size : Nat)

/-- How far the cursor is behind. -/
def Flush.behind : Flush → Nat
  | .copied _ => 0
  | .taken size => size

/-- The bytes a `send_data_to_tox` in progress was called with, and its caller. -/
def offering : TcpAct → Option (Bytes × SendCaller)
  | .sendDataToTox data caller | .sendCheckAbort data caller | .sendReadWindow data caller
  | .sendReserve data _ caller | .sendDecide data caller | .sendAppend data _ caller =>
      some (data, caller)
  | _ => none

/-- What a `send_data_to_tox` in progress is to its caller. -/
def callerArrival (data : Bytes) : SendCaller → Option Arrival
  | .tcpData => some (.offered data)
  | _ => none

def callerFlush (data : Bytes) : SendCaller → Option Flush
  | .flush _ => some (.copied data)
  | _ => none

def tcpArrival : TcpAct → Option Arrival
  | .stashOrSend data => some (.arrived data)
  | .stashRefused data => some (.offered data)
  | act => (offering act).bind fun (data, caller) => callerArrival data caller

def tcpFlush : TcpAct → Option Flush
  | .flushAdvance size _ => some (.taken size)
  | act => (offering act).bind fun (data, caller) => callerFlush data caller

def arrivalOf : Act → Option Arrival
  | .tcp act => tcpArrival act
  | _ => none

def flushOf : Act → Option Flush
  | .tcp act => tcpFlush act
  | _ => none

/-- Part of `on_tcp_data_received` or of a flush. -/
def involved : Act → Bool
  | .tcp act => (tcpArrival act).isSome || (tcpFlush act).isSome
  | _ => false

end Streams

section Quiet
variable (own : UInt16)

/-- The actions of the socket side that the backlog depends on. -/
def feeds : Act → Bool
  | .tcp (.onTcpDataReceived _) | .tcp (.flushPendingTcpInput _)
  | .tcp (.sendAppend _ _ _) => true
  | .tcp act => involved (.tcp act)
  | _ => false

theorem word_unseen (choice : Choice) (tunnel : Tunnel) (act : WordAct)
    (quiet : feeds (.word act) = false) :
    Unseen (tunnelProgram own) feed involved choice tunnel (.word act) := by
  unfold Unseen
  simp only [tunnelProgram]
  cases act <;> dsimp only [exec, execWord] <;> (repeat' split) <;>
    exact ⟨rfl, rfl, none_kept rfl⟩

theorem send_unseen (choice : Choice) (tunnel : Tunnel) (act : SendAct)
    (quiet : feeds (.send act) = false) :
    Unseen (tunnelProgram own) feed involved choice tunnel (.send act) := by
  unfold Unseen
  simp only [tunnelProgram]
  cases act with
  | outboundSnapshot outgoing | handToTransport outgoing | transportAnswer outgoing =>
      cases outgoing <;> dsimp only [exec, execSend] <;> (repeat' split) <;>
        exact ⟨rfl, rfl, none_kept rfl⟩

theorem opening_unseen (choice : Choice) (tunnel : Tunnel) (act : OpenAct)
    (quiet : feeds (.opening act) = false) :
    Unseen (tunnelProgram own) feed involved choice tunnel (.opening act) := by
  unfold Unseen
  simp only [tunnelProgram]
  cases act with
  | openVerdict attempt origin outcome =>
      exact ⟨rfl, rfl, openVerdict_none rfl tunnel origin outcome⟩
  | _ =>
      dsimp only [exec, execOpen]
      (repeat' split) <;> exact ⟨rfl, rfl, none_kept rfl⟩

theorem frame_unseen (choice : Choice) (tunnel : Tunnel) (act : FrameAct)
    (quiet : feeds (.frame act) = false) :
    Unseen (tunnelProgram own) feed involved choice tunnel (.frame act) := by
  unfold Unseen
  simp only [tunnelProgram]
  cases act <;> dsimp only [exec, execFrame] <;> (repeat' split) <;>
    exact ⟨rfl, rfl, none_kept rfl⟩

theorem driver_unseen (choice : Choice) (tunnel : Tunnel) (act : DriverAct)
    (quiet : feeds (.driver act) = false) :
    Unseen (tunnelProgram own) feed involved choice tunnel (.driver act) := by
  unfold Unseen
  simp only [tunnelProgram]
  cases act with
  | selectFrame arm =>
      have selected := selectFrame_selection choice tunnel arm
      dsimp only [exec, execDriver]
      generalize selectFrame choice tunnel arm = after at selected
      cases selected with
      | drained =>
          unfold finishDrain
          dsimp only
          (repeat' split) <;> exact ⟨rfl, rfl, none_kept rfl⟩
      | _ => exact ⟨rfl, rfl, none_kept rfl⟩
  | commitData payload sent arm =>
      dsimp only [exec, execDriver]
      split
      · exact ⟨rfl, rfl, none_kept rfl⟩
      · obtain ⟨timerArmed, timerEpoch, waits, same⟩ :=
          uncounted_touches tunnel payload choice.expiresLate
        rw [same]
        split <;> exact ⟨rfl, rfl, none_kept rfl⟩
  | _ =>
      dsimp only [exec, execDriver]
      (repeat' split) <;> exact ⟨rfl, rfl, none_kept rfl⟩

theorem close_unseen (choice : Choice) (tunnel : Tunnel) (act : CloseAct)
    (quiet : feeds (.close act) = false) :
    Unseen (tunnelProgram own) feed involved choice tunnel (.close act) := by
  unfold Unseen
  simp only [tunnelProgram]
  cases act with
  | closeDuringHandshake =>
      obtain ⟨opening, closing, same, _⟩ := cancelOpenRetryLocked_touches tunnel
      simp only [exec, execClose, same]
      split <;> exact ⟨rfl, rfl, none_kept rfl⟩
  | forceClose release onlyFrom markTimeout =>
      obtain ⟨state, opening, closing, same, _⟩ := claimTerminal_touches tunnel onlyFrom
      simp only [exec, execClose, same]
      (repeat' split) <;> exact ⟨rfl, rfl, none_kept rfl⟩
  | takeResources claim release =>
      refine ⟨?_, rfl, fun made member => ?_⟩
      · dsimp only [exec, execClose]
        split <;> rfl
      · rcases takeResources_calls choice tunnel claim release made member with ⟨rfl, _⟩ | ⟨_, called⟩
        · rfl
        · simp only [takeResourcesCalls, List.mem_cons, List.not_mem_nil, or_false] at called
          rcases called with rfl | rfl | rfl | rfl | rfl | rfl | rfl <;> rfl
  | _ =>
      dsimp only [exec, execClose]
      (repeat' split) <;> exact ⟨rfl, rfl, none_kept rfl⟩

theorem peer_unseen (choice : Choice) (tunnel : Tunnel) (act : PeerAct)
    (quiet : feeds (.peer act) = false) :
    Unseen (tunnelProgram own) feed involved choice tunnel (.peer act) := by
  unfold Unseen
  simp only [tunnelProgram]
  cases act <;> dsimp only [exec, execPeer] <;> (repeat' split) <;>
    exact ⟨rfl, rfl, none_kept rfl⟩

theorem tcp_unseen (choice : Choice) (tunnel : Tunnel) (act : TcpAct)
    (quiet : feeds (.tcp act) = false) :
    Unseen (tunnelProgram own) feed involved choice tunnel (.tcp act) := by
  unfold Unseen
  simp only [tunnelProgram]
  cases act with
  | sendDataToTox data caller | sendCheckAbort data caller | sendReadWindow data caller
  | sendReserve data _ caller | sendDecide data caller =>
      cases caller with
      | direct =>
          dsimp only [exec, execTcp] <;> (try split) <;> exact ⟨rfl, rfl, none_kept rfl⟩
      | tcpData | flush => cases quiet
  | stashOrSend | stashRefused | onTcpDataReceived | flushPendingTcpInput | flushAdvance
  | sendAppend => cases quiet
  | _ =>
      dsimp only [exec, execTcp]
      (repeat' split) <;> exact ⟨rfl, rfl, none_kept rfl⟩

theorem env_unseen (choice : Choice) (tunnel : Tunnel) (act : EnvAct)
    (quiet : feeds (.env act) = false) :
    Unseen (tunnelProgram own) feed involved choice tunnel (.env act) := by
  unfold Unseen
  simp only [tunnelProgram]
  cases act <;> dsimp only [exec, execEnv] <;> (repeat' split) <;>
    exact ⟨rfl, rfl, none_kept rfl⟩

theorem unseen_of_quiet (choice : Choice) (tunnel : Tunnel) (act : Act) (quiet : feeds act = false) :
    Unseen (tunnelProgram own) feed involved choice tunnel act := by
  cases act with
  | word act => exact word_unseen own choice tunnel act quiet
  | send act => exact send_unseen own choice tunnel act quiet
  | opening act => exact opening_unseen own choice tunnel act quiet
  | frame act => exact frame_unseen own choice tunnel act quiet
  | driver act => exact driver_unseen own choice tunnel act quiet
  | close act => exact close_unseen own choice tunnel act quiet
  | peer act => exact peer_unseen own choice tunnel act quiet
  | tcp act => exact tcp_unseen own choice tunnel act quiet
  | env act => exact env_unseen own choice tunnel act quiet

end Quiet

section Invariant

/-- The backlog against the chunk that is coming in and the flush in progress. -/
structure Exact (feed : Feed) (arrival : Option Arrival) (flush : Option Flush) : Prop where
  bounded : feed.consumed ≤ feed.input.length
  offered : ∀ data, arrival = some (.offered data) → feed.rest = []
  copied : ∀ data, flush = some (.copied data) → data <+: feed.rest
  taken : ∀ size, flush = some (.taken size) → size ≤ feed.rest.length
  balance : feed.handed ++ feed.rest.drop (flush.elim 0 Flush.behind) ++
    arrival.elim [] Arrival.data = feed.received

/-- At most one chunk is coming in and at most one flush is past its copy. -/
def Fed (feed : Feed) (bag : Multiset Act) : Prop :=
  ∃ arrival flush, bag.filterMap arrivalOf = ↑arrival.toList ∧
    bag.filterMap flushOf = ↑flush.toList ∧ Exact feed arrival flush

/-- The socket delivers one chunk at a time and to a Connected tunnel, and no
flush copies a chunk while another one has not moved the cursor past its own. -/
def flushesApart : Guard Tunnel Act Op Choice
  | tunnel, others, .act _ (.tcp (.onTcpDataReceived _)) =>
      tunnel.life.state = .connected ∧ ∀ act ∈ others, (arrivalOf act).isNone = true
  | tunnel, others, .act _ (.tcp (.flushPendingTcpInput _)) =>
      tunnel.backlog.pending ≠ 0 → tunnel.window.used < tunnel.window.effective →
        ∀ act ∈ others, (flushOf act).isNone = true
  | _, _, _ => True

instance : flushesApart.Checked := fun tunnel others move => by
  unfold flushesApart
  split <;> infer_instance

end Invariant

section Steps
variable {before after : Feed} {act : Act} {new : List Act} {others : Multiset Act}

theorem Fed.arriving (fed : Fed before (act ::ₘ others)) {arrival : Arrival}
    (holds : arrivalOf act = some arrival) (idle : flushOf act = none) :
    ∃ flush, others.filterMap arrivalOf = 0 ∧ others.filterMap flushOf = ↑flush.toList ∧
      Exact before (some arrival) flush := by
  obtain ⟨owner, flush, arrivals, flushes, fits⟩ := fed
  obtain ⟨rfl, none_left⟩ := filterMap_owner arrivals holds
  rw [Multiset.filterMap_cons_none _ _ idle] at flushes
  exact ⟨flush, none_left, flushes, fits⟩

theorem Fed.flushing (fed : Fed before (act ::ₘ others)) {flush : Flush}
    (holds : flushOf act = some flush) (idle : arrivalOf act = none) :
    ∃ arrival, others.filterMap arrivalOf = ↑arrival.toList ∧ others.filterMap flushOf = 0 ∧
      Exact before arrival (some flush) := by
  obtain ⟨arrival, owner, arrivals, flushes, fits⟩ := fed
  obtain ⟨rfl, none_left⟩ := filterMap_owner flushes holds
  rw [Multiset.filterMap_cons_none _ _ idle] at arrivals
  exact ⟨arrival, arrivals, none_left, fits⟩

theorem Fed.apart (fed : Fed before (act ::ₘ others)) (idle : arrivalOf act = none)
    (still : flushOf act = none) : Fed before others := by
  obtain ⟨arrival, flush, arrivals, flushes, fits⟩ := fed
  rw [Multiset.filterMap_cons_none _ _ idle] at arrivals
  rw [Multiset.filterMap_cons_none _ _ still] at flushes
  exact ⟨arrival, flush, arrivals, flushes, fits⟩

theorem Fed.beside (fed : Fed before others) (idle : arrivalOf act = none)
    (still : flushOf act = none) : Fed before (act ::ₘ others) := by
  obtain ⟨arrival, flush, arrivals, flushes, fits⟩ := fed
  refine ⟨arrival, flush, ?_, ?_, fits⟩
  · rw [Multiset.filterMap_cons_none _ _ idle, arrivals]
  · rw [Multiset.filterMap_cons_none _ _ still, flushes]

theorem Fed.arrival_becomes (arrival : Option Arrival) {flush : Option Flush}
    (alone : others.filterMap arrivalOf = 0) (flushes : others.filterMap flushOf = ↑flush.toList)
    (arrives : new.filterMap arrivalOf = arrival.toList) (still : new.filterMap flushOf = [])
    (fits : Exact after arrival flush) : Fed after (↑new + others) := by
  refine ⟨arrival, flush, ?_, ?_, fits⟩
  · rw [Multiset.filterMap_add, Multiset.filterMap_coe, arrives, alone, add_zero]
  · rw [Multiset.filterMap_add, Multiset.filterMap_coe, still, flushes]
    exact zero_add _

theorem Fed.flush_becomes {arrival : Option Arrival} (flush : Option Flush)
    (arrivals : others.filterMap arrivalOf = ↑arrival.toList) (alone : others.filterMap flushOf = 0)
    (idle : new.filterMap arrivalOf = []) (flushes : new.filterMap flushOf = flush.toList)
    (fits : Exact after arrival flush) : Fed after (↑new + others) := by
  refine ⟨arrival, flush, ?_, ?_, fits⟩
  · rw [Multiset.filterMap_add, Multiset.filterMap_coe, idle, arrivals]
    exact zero_add _
  · rw [Multiset.filterMap_add, Multiset.filterMap_coe, flushes, alone, add_zero]

theorem Fed.unchanged (fed : Fed before others) (idle : new.filterMap arrivalOf = [])
    (still : new.filterMap flushOf = []) : Fed before (↑new + others) := by
  obtain ⟨arrival, flush, arrivals, flushes, fits⟩ := fed
  refine ⟨arrival, flush, ?_, ?_, fits⟩
  · rw [Multiset.filterMap_add, Multiset.filterMap_coe, idle, arrivals]
    exact zero_add _
  · rw [Multiset.filterMap_add, Multiset.filterMap_coe, still, flushes]
    exact zero_add _

section Exact
variable {feed : Feed} {arrival : Option Arrival} {flush : Option Flush}

theorem behind_le (fits : Exact feed arrival flush) :
    flush.elim 0 Flush.behind ≤ feed.rest.length := by
  cases flush with
  | none => exact Nat.zero_le _
  | some flush =>
      cases flush with
      | copied => exact Nat.zero_le _
      | taken size => exact fits.taken size rfl

theorem Exact.receive (fits : Exact feed none flush) (data : Bytes) :
    Exact { feed with received := feed.received ++ data } (some (.arrived data)) flush where
  bounded := fits.bounded
  offered := by simp
  copied := fits.copied
  taken := fits.taken
  balance := by
    have balance := fits.balance
    simp only [Option.elim_none, List.append_nil] at balance
    simp only [Option.elim_some, Arrival.data, ← balance]
    rfl

theorem Exact.stash {chunk : Arrival} (fits : Exact feed (some chunk) flush) :
    Exact { feed with input := feed.input ++ chunk.data } none flush := by
  have grown : Feed.rest { feed with input := feed.input ++ chunk.data } =
      feed.rest ++ chunk.data := List.drop_append_of_le_length fits.bounded
  refine ⟨?_, by simp, ?_, ?_, ?_⟩
  · rw [List.length_append]
    exact fits.bounded.trans (Nat.le_add_right _ _)
  · intro data copied
    rw [grown]
    exact (fits.copied data copied).trans (List.prefix_append _ _)
  · intro size taken
    rw [grown, List.length_append]
    exact (fits.taken size taken).trans (Nat.le_add_right _ _)
  · rw [grown, List.drop_append_of_le_length (behind_le fits), ← fits.balance]
    simp

theorem Exact.offer {data : Bytes} (fits : Exact feed (some (.arrived data)) flush)
    (empty : feed.rest = []) : Exact feed (some (.offered data)) flush where
  bounded := fits.bounded
  offered := fun _ _ => empty
  copied := fits.copied
  taken := fits.taken
  balance := fits.balance

theorem Exact.accept {data : Bytes} (fits : Exact feed (some (.offered data)) flush) :
    Exact { feed with handed := feed.handed ++ data } none flush where
  bounded := fits.bounded
  offered := by simp
  copied := fits.copied
  taken := fits.taken
  balance := by
    have balance := fits.balance
    have empty := fits.offered data rfl
    rw [empty] at balance
    have still : Feed.rest { feed with handed := feed.handed ++ data } = [] := empty
    rw [still, ← balance]
    simp [Arrival.data]

theorem Exact.copy (fits : Exact feed arrival none) (size : Nat) :
    Exact feed arrival (some (.copied (feed.rest.take size))) where
  bounded := fits.bounded
  offered := fits.offered
  copied := by
    rintro data ⟨rfl⟩
    exact List.take_prefix _ _
  taken := by simp
  balance := fits.balance

theorem Exact.refuse (fits : Exact feed arrival flush) (exactly : flush.elim 0 Flush.behind = 0) :
    Exact feed arrival none where
  bounded := fits.bounded
  offered := fits.offered
  copied := by simp
  taken := by simp
  balance := by
    have balance := fits.balance
    rw [exactly] at balance
    exact balance

/-- The copied chunk is accepted; the cursor is now behind by its size. -/
theorem Exact.take {data : Bytes} (fits : Exact feed arrival (some (.copied data))) :
    Exact { feed with handed := feed.handed ++ data } arrival (some (.taken data.length)) where
  bounded := fits.bounded
  offered := fits.offered
  copied := by simp
  taken := by
    rintro size ⟨rfl⟩
    exact (fits.copied data rfl).length_le
  balance := by
    obtain ⟨later, split⟩ := fits.copied data rfl
    have balance := fits.balance
    have rest : Feed.rest { feed with handed := feed.handed ++ data } = feed.rest := rfl
    rw [rest, ← balance, ← split]
    simp [Flush.behind]

theorem advance_rest (backlog : Backlog) (size : Nat) :
    (advanceBacklogLocked backlog size).rest = backlog.rest.drop size ∧
      (advanceBacklogLocked backlog size).consumed ≤
        (advanceBacklogLocked backlog size).input.length := by
  unfold advanceBacklogLocked Backlog.rest
  dsimp only
  rw [List.drop_drop]
  split
  · next through =>
      rw [List.drop_eq_nil_of_le through]
      simp
  · next remains =>
      split
      · simp
      · exact ⟨rfl, (not_le.mp remains).le⟩

theorem Exact.advance {tunnel : Tunnel} {size : Nat}
    (fits : Exact (BacklogFlush.feed tunnel) arrival (some (.taken size))) :
    Exact (BacklogFlush.feed { tunnel with backlog := advanceBacklogLocked tunnel.backlog size })
      arrival none := by
  obtain ⟨rest, bounded⟩ := advance_rest tunnel.backlog size
  have caught_up : Feed.rest (BacklogFlush.feed
      { tunnel with backlog := advanceBacklogLocked tunnel.backlog size }) =
      (BacklogFlush.feed tunnel).rest.drop size := rest
  refine ⟨bounded, ?_, by simp, by simp, ?_⟩
  · intro data offered
    rw [caught_up, fits.offered data offered, List.drop_nil]
  · rw [caught_up]
    exact fits.balance

end Exact

section Calls
variable {tunnel : Tunnel} {data : Bytes} {caller : SendCaller}

theorem Fed.replaced {next : Act} (fed : Fed before (act ::ₘ others))
    (arrival : arrivalOf next = arrivalOf act) (flush : flushOf next = flushOf act) :
    Fed before (↑[next] + others) := by
  obtain ⟨arrivals, flushes, arriving, flushing, fits⟩ := fed
  rw [Multiset.filterMap_cons, ← arrival, ← Multiset.filterMap_cons] at arriving
  rw [Multiset.filterMap_cons, ← flush, ← Multiset.filterMap_cons] at flushing
  exact ⟨arrivals, flushes, arriving, flushing, fits⟩

theorem offering_parts {act : TcpAct} (now : offering act = some (data, caller)) :
    arrivalOf (.tcp act) = callerArrival data caller ∧ flushOf (.tcp act) = callerFlush data caller := by
  cases act <;> cases now <;> exact ⟨rfl, rfl⟩

/-- A `send_data_to_tox` on its way goes on with the same bytes for the same caller. -/
theorem Fed.offering {act next : TcpAct} (fed : Fed before (.tcp act ::ₘ others))
    (now : offering act = some (data, caller)) (later : offering next = some (data, caller)) :
    Fed before (↑[Act.tcp next] + others) := by
  obtain ⟨arrival, flush⟩ := offering_parts now
  obtain ⟨next_arrival, next_flush⟩ := offering_parts later
  exact fed.replaced (next_arrival.trans arrival.symm) (next_flush.trans flush.symm)

theorem Fed.refused {act : TcpAct} (fed : Fed before (.tcp act ::ₘ others))
    (now : BacklogFlush.offering act = some (data, caller)) :
    Fed before (↑(caller.refused data) + others) := by
  obtain ⟨arrival, flush⟩ := offering_parts now
  cases caller with
  | direct => exact (fed.apart arrival flush).unchanged rfl rfl
  | tcpData => exact fed.replaced arrival.symm flush.symm
  | flush resume =>
      obtain ⟨arrivals, coming, alone, fits⟩ := fed.flushing flush arrival
      exact Fed.flush_becomes none coming alone rfl rfl (fits.refuse rfl)

/-- It returns true: the bytes are handed over, and a flush still has to move its cursor. -/
theorem Fed.accepted {act : TcpAct} (fed : Fed (feed tunnel) (.tcp act ::ₘ others))
    (now : BacklogFlush.offering act = some (data, caller)) (drain : DrainPolicy) (arm : Bool) :
    Fed { feed tunnel with handed := handedData (.accepted caller.fromTcp data :: tunnel.log) }
      (↑([Act.tcp (.countSent data.length), .driver (.runEmissionDriver drain arm)] ++
        caller.admitted data) + others) := by
  obtain ⟨arrival, flush⟩ := offering_parts now
  cases caller with
  | direct => exact (fed.apart arrival flush).unchanged rfl rfl
  | tcpData =>
      obtain ⟨flushes, alone, going, fits⟩ := fed.arriving arrival flush
      exact Fed.arrival_becomes none alone going rfl rfl fits.accept
  | flush resume =>
      obtain ⟨arrivals, coming, alone, fits⟩ := fed.flushing flush arrival
      exact Fed.flush_becomes (some (.taken data.length)) coming alone rfl rfl fits.take

theorem tcp_fed (choice : Choice) (act : TcpAct) (feeding : feeds (.tcp act) = true)
    (allowed : flushesApart tunnel others (.act choice (.tcp act)))
    (fed : Fed (feed tunnel) (.tcp act ::ₘ others)) :
    Fed (feed (execTcp choice tunnel act).1) (↑(execTcp choice tunnel act).2 + others) := by
  cases act with
  | onTcpDataReceived data =>
      obtain ⟨connected, alone⟩ := allowed
      obtain ⟨arrival, flush, arrivals, flushes, fits⟩ := fed.apart rfl rfl
      obtain ⟨rfl, nothing⟩ := filterMap_unowned arrivals alone
      simp only [execTcp, connected, bne_self_eq_false, Bool.false_eq_true, if_false]
      exact Fed.arrival_becomes (some (.arrived data)) nothing flushes rfl rfl (fits.receive data)
  | stashOrSend data =>
      obtain ⟨flush, alone, going, fits⟩ := fed.arriving rfl rfl
      simp only [execTcp]
      split
      · have stashed : Fed { feed tunnel with input := tunnel.backlog.input ++ data }
            (↑([] : List Act) + others) := Fed.arrival_becomes none alone going rfl rfl fits.stash
        split <;> exact stashed
      · next empty =>
          have nothing : (feed tunnel).rest = [] := by
            have drained : tunnel.backlog.pending = 0 := by simpa using empty
            exact List.drop_eq_nil_of_le (Nat.sub_eq_zero_iff_le.mp drained)
          exact Fed.arrival_becomes (some (.offered data)) alone going rfl rfl (fits.offer nothing)
  | stashRefused data =>
      obtain ⟨flush, alone, going, fits⟩ := fed.arriving rfl rfl
      have stashed : Fed { feed tunnel with input := tunnel.backlog.input ++ data }
          (↑([] : List Act) + others) := Fed.arrival_becomes none alone going rfl rfl fits.stash
      simp only [execTcp]
      split <;> exact stashed
  | flushPendingTcpInput resume =>
      have untouched := fed.apart rfl rfl
      simp only [execTcp]
      split
      · split <;> exact untouched.unchanged rfl rfl
      · exact untouched.unchanged rfl rfl
      · next chunk copied =>
          unfold flushChunkLocked at copied
          split at copied
          · cases copied
          · next pending =>
              split at copied
              · cases copied
              · next open_window =>
                  cases copied
                  have alone := allowed pending (not_le.mp open_window)
                  obtain ⟨arrival, flush, arrivals, flushes, fits⟩ := untouched
                  obtain ⟨rfl, nothing⟩ := filterMap_unowned flushes alone
                  exact Fed.flush_becomes (some (.copied _)) arrivals nothing rfl rfl (fits.copy _)
  | flushAdvance size resume =>
      obtain ⟨arrival, coming, alone, fits⟩ := fed.flushing rfl rfl
      exact Fed.flush_becomes none coming alone rfl rfl fits.advance
  | sendDataToTox data caller | sendCheckAbort data caller =>
      simp only [execTcp]
      split
      · exact fed.refused rfl
      · exact fed.offering rfl rfl
  | sendReadWindow data caller | sendDecide data caller => exact fed.offering rfl rfl
  | sendReserve data window caller =>
      simp only [execTcp]
      split
      · exact fed.refused rfl
      · exact fed.offering rfl rfl
  | sendAppend data policy caller =>
      have appending := sendAppend_appending choice tunnel data policy caller
      generalize execTcp choice tunnel _ = after at appending ⊢
      cases appending with
      | refused =>
          have refund : Fed (feed tunnel) (Act.tcp (.refundWindow data.length) ::ₘ
              (↑(caller.refused data) + others)) := (fed.refused rfl).beside rfl rfl
          rwa [← Multiset.cons_add] at refund
      | queued cap timerArmed timerEpoch waits drain arm => exact fed.accepted rfl drain arm
  | onTcpReadEof | eofLoadState | eofCheckBacklog | eofDecide | maybeFinishPendingTcpEof
  | refundWindow | countSent => cases feeding

end Calls

end Steps

section Runs
variable {own : UInt16} {config : Config Tunnel Act}

theorem fed_keep {feed : Feed} {bag : Multiset Act} : Fed feed (keep involved bag) ↔ Fed feed bag := by
  have arrivals : (keep involved bag).filterMap arrivalOf = bag.filterMap arrivalOf :=
    filterMap_keep (fun act apart => by cases act <;> simp_all [involved, arrivalOf]) bag
  have flushes : (keep involved bag).filterMap flushOf = bag.filterMap flushOf :=
    filterMap_keep (fun act apart => by cases act <;> simp_all [involved, flushOf]) bag
  unfold Fed
  rw [arrivals, flushes]

theorem start_not_involved (op : Op) : ∀ act ∈ start own op, involved act = false := by
  cases op with
  | handleFrame tunnelId frame =>
      cases frame <;> simp only [start, handleFrame] <;> (try split) <;> exact none_kept rfl
  | _ => exact none_kept rfl

theorem reach_fed (reached : Reach (tunnelProgram own) flushesApart Fresh config) :
    Fed (feed config.shared) config.bag := by
  rw [← fed_keep]
  refine reached.view_invariant feed involved (fun _ _ => True) Fed (fun _ _ => trivial) ?_
    start_not_involved ?_
  · rintro tunnel ⟨tunnelId, size, timeout, sender, tcpConn, rfl⟩
    refine ⟨none, none, rfl, rfl, ?_⟩
    constructor <;> simp [feed, Feed.rest, handedData, receivedData]
  · intro choice tunnel act others seen _ allowed fed
    have feeding : feeds act = true := by
      by_contra quiet
      exact seen (unseen_of_quiet own choice tunnel act (by simpa using quiet))
    rw [fed_keep] at fed ⊢
    cases act with
    | tcp act => exact tcp_fed choice act feeding allowed fed
    | _ => cases feeding

/-- In every such run what the socket side got accepted is a prefix of what it
received, byte for byte, and outside a receive or a flush the backlog is the rest. -/
theorem accepted_then_backlog_eq_received
    (reached : Reach (tunnelProgram own) flushesApart Fresh config) :
    handedData config.shared.log <+: receivedData config.shared.log ∧
      ((∀ act ∈ config.bag, involved act = false) →
        handedData config.shared.log ++ config.shared.backlog.rest =
          receivedData config.shared.log) := by
  obtain ⟨arrival, flush, arrivals, flushes, fits⟩ := reach_fed reached
  constructor
  · refine ⟨_, (List.append_assoc _ _ _).symm.trans fits.balance⟩
  · intro quiet
    have idle : ∀ act ∈ config.bag, (arrivalOf act).isNone = true ∧ (flushOf act).isNone = true := by
      intro act member
      have apart := quiet act member
      cases act <;> simp_all [involved, arrivalOf, flushOf]
    obtain ⟨rfl, _⟩ := filterMap_unowned arrivals fun act member => (idle act member).1
    obtain ⟨rfl, _⟩ := filterMap_unowned flushes fun act member => (idle act member).2
    have balance := fits.balance
    simp only [Option.elim_none, List.append_nil, List.drop_zero] at balance
    exact balance

/-- A window of four bytes, a refused chunk, and the ACK that lets it through. -/
theorem accepted_then_backlog_eq_received_refilled :
    ∃ config, Reach (tunnelProgram 7) flushesApart Fresh config ∧
      receivedData config.shared.log = [1, 2, 3, 4, 5, 6] ∧ config.shared.log.any (· = .tcpPaused) ∧
      handedData config.shared.log ++ config.shared.backlog.rest =
        receivedData config.shared.log := by
  let schedule : List (Event Op Choice) := List.flatten
    [[.call .tryPublishConnected], List.replicate 3 (.run 0 {}),
     [.call (.onTcpDataReceived [1, 2, 3])], List.replicate 18 (.run 1 { policy := .bypass }),
     [.call (.onTcpDataReceived [4, 5, 6])], List.replicate 7 (.run 2 {}),
     [.call (.handleFrame 7 (.tunnelAck 3))], List.replicate 25 (.run 3 { policy := .bypass })]
  have run := Reach.exists_of_replay (tunnelProgram 7) flushesApart Fresh
    { tunnelId := 7, life := { sender := true, tcpConn := true }, window := { size := 4 } } schedule
    (fun config => decide (config.bag = 0 ∧ receivedData config.shared.log = [1, 2, 3, 4, 5, 6] ∧
      config.shared.log.any (· = .tcpPaused)))
    ⟨7, 4, _, true, true, rfl⟩ (by decide)
  obtain ⟨config, reached, met⟩ := run
  obtain ⟨quiet, received, paused⟩ := of_decide_eq_true met
  refine ⟨config, reached, received, paused, ?_⟩
  exact (accepted_then_backlog_eq_received reached).2 (by simp [quiet])

/-- A second ACK, handled while the chunk of the first one's flush is at the
transport, has the same chunk accepted again. -/
theorem accepted_twice_reachable :
    ∃ config, Reach (tunnelProgram 7) always Fresh config ∧
      receivedData config.shared.log = [1, 2, 3, 4, 5, 6] ∧
      handedData config.shared.log = [1, 2, 3, 4, 5, 6, 4, 5, 6] ∧
      ¬ handedData config.shared.log <+: receivedData config.shared.log := by
  let schedule : List (Event Op Choice) := List.flatten
    [[.call .tryPublishConnected], List.replicate 3 (.run 0 {}),
     [.call (.onTcpDataReceived [1, 2, 3])], List.replicate 18 (.run 1 { policy := .bypass }),
     [.call (.onTcpDataReceived [4, 5, 6])], List.replicate 7 (.run 2 {}),
     [.call (.handleFrame 7 (.tunnelAck 3))], List.replicate 19 (.run 3 { policy := .bypass }),
     [.call (.handleFrame 7 (.tunnelAck 3))], List.replicate 12 (.run 4 { policy := .bypass })]
  have run := Reach.exists_of_replay (tunnelProgram 7) always Fresh
    { tunnelId := 7, life := { sender := true, tcpConn := true }, window := { size := 4 } } schedule
    (fun config => decide (receivedData config.shared.log = [1, 2, 3, 4, 5, 6] ∧
      handedData config.shared.log = [1, 2, 3, 4, 5, 6, 4, 5, 6]))
    ⟨7, 4, _, true, true, rfl⟩ (by decide)
  obtain ⟨config, reached, met⟩ := run
  obtain ⟨received, handed⟩ := of_decide_eq_true met
  refine ⟨config, reached, received, handed, ?_⟩
  rw [received, handed]
  decide

end Runs

end ToxTunnel.BacklogFlush
