import ToxTunnel.Interleaving
import Mathlib.Data.List.Pairwise
import Mathlib.Logic.Function.Basic

/-!
`FriendSendGate`: per friend, the DATA that toxcore accepted and the DATA known to
have been delivered. Delivery is learned from echoes of fences, PINGs that carry the
ledger's epoch and a sequence number. Every entry point runs under the adapter's
mutex, so one call is one step; the channel to the friend is a part of the state.
-/

namespace ToxTunnel.FriendSendGate
open Interleaving

section Epochs

/-- The finalizer of splitmix64. -/
def finalize (word : BitVec 64) : BitVec 64 :=
  let first := (word ^^^ (word >>> 30)) * 0xBF58476D1CE4E5B9#64
  let second := (first ^^^ (first >>> 27)) * 0x94D049BB133111EB#64
  second ^^^ (second >>> 31)

/-- `next_ledger_epoch` for the given count of ledgers created. -/
def ledgerEpoch (seed : BitVec 64) (created : Nat) : BitVec 64 :=
  finalize (seed + 0x9E3779B97F4A7C15#64 * BitVec.ofNat 64 created)

theorem mul_injective {factor inverse : BitVec 64} (unit : factor * inverse = 1#64) :
    Function.Injective fun word : BitVec 64 => word * factor := by
  intro first second same
  have same : first * factor = second * factor := same
  calc first = first * factor * inverse := by rw [BitVec.mul_assoc, unit, BitVec.mul_one]
    _ = second * factor * inverse := by rw [same]
    _ = second := by rw [BitVec.mul_assoc, unit, BitVec.mul_one]

/-- A word can be read back from its xor with its own shift, as repeated shifts
run out of bits. -/
theorem xorShift_injective {shift : Nat} (wide : 64 ≤ 3 * shift) :
    Function.Injective fun word : BitVec 64 => word ^^^ (word >>> shift) := by
  have back : ∀ word : BitVec 64, (word ^^^ (word >>> shift)) ^^^
      ((word ^^^ (word >>> shift)) >>> shift) ^^^
      ((word ^^^ (word >>> shift)) >>> (shift + shift)) = word := by
    intro word
    ext bit small
    simp only [BitVec.getElem_xor, BitVec.getElem_ushiftRight, BitVec.getLsbD_xor,
      BitVec.getLsbD_ushiftRight]
    have gone : word.getLsbD (shift + (shift + shift + bit)) = false :=
      BitVec.getLsbD_of_ge _ _ (by omega)
    rw [gone, show shift + (shift + bit) = shift + shift + bit by omega]
    cases word.getLsbD (shift + bit) <;> cases word.getLsbD (shift + shift + bit) <;> simp
  intro first second same
  have same : first ^^^ (first >>> shift) = second ^^^ (second >>> shift) := same
  rw [← back first, same, back second]

theorem finalize_injective : Function.Injective finalize := by
  have first : Function.Injective fun word : BitVec 64 => word ^^^ (word >>> 30) :=
    xorShift_injective (by omega)
  have second : Function.Injective fun word : BitVec 64 => word ^^^ (word >>> 27) :=
    xorShift_injective (by omega)
  have third : Function.Injective fun word : BitVec 64 => word ^^^ (word >>> 31) :=
    xorShift_injective (by omega)
  have factor : Function.Injective fun word : BitVec 64 => word * 0xBF58476D1CE4E5B9#64 :=
    mul_injective (show _ * 0x96de1b173f119089#64 = 1#64 by decide)
  have factor' : Function.Injective fun word : BitVec 64 => word * 0x94D049BB133111EB#64 :=
    mul_injective (show _ * 0x319642b2d24d8ec3#64 = 1#64 by decide)
  exact (third.comp (factor'.comp (second.comp (factor.comp first))))

theorem ledgerEpoch_injective (seed : BitVec 64) {first second : Nat} (small : first < 2 ^ 64)
    (small' : second < 2 ^ 64) (same : ledgerEpoch seed first = ledgerEpoch seed second) :
    first = second := by
  have sum := finalize_injective same
  have product := (BitVec.add_right_inj _).mp sum
  have factor : Function.Injective fun word : BitVec 64 => word * 0x9E3779B97F4A7C15#64 :=
    mul_injective (show _ * 0xf1de83e19937733d#64 = 1#64 by decide)
  rw [BitVec.mul_comm, BitVec.mul_comm _ (BitVec.ofNat 64 second)] at product
  have words := congrArg BitVec.toNat (factor product)
  rwa [BitVec.toNat_ofNat, BitVec.toNat_ofNat, Nat.mod_eq_of_lt small, Nat.mod_eq_of_lt small']
    at words

end Epochs

section Model
variable {Key : Type} [DecidableEq Key]

inductive GatePhase where
  | bootstrap | active | legacy
  deriving DecidableEq

/-- Fences that share one snapshot of the emitted bytes. -/
structure Range where
  lo : Nat
  hi : Nat
  snapshot : Nat
  deriving DecidableEq

structure Ledger where
  friendNumber : Nat
  epoch : BitVec 64
  nextSeq : Nat := 1
  emitted : Nat := 0
  delivered : Nat := 0
  lastFenced : Nat := 0
  entries : List Range := []
  phase : GatePhase := .bootstrap
  firstFenced : Bool := false
  emptyPingsSent : Nat := 0
  emptyPongsReceived : Nat := 0
  deriving DecidableEq

/-- A fence on the wire. The mark, the bytes emitted before it, is not sent. -/
structure Fence where
  epoch : BitVec 64
  seq : Nat
  mark : Nat
  deriving DecidableEq

inductive Packet where
  | data (size : Nat)
  | fence (fence : Fence)
  | keepalive
  deriving DecidableEq

/-- What a PONG on tunnel id 0 carries: nothing, a fence payload, or neither. -/
inductive Pong where
  | empty
  | echo (epoch : BitVec 64) (seq : Nat)
  | unknown
  deriving DecidableEq

/-- What the clock, the estimator and toxcore decide in one call. -/
structure GateChoice where
  budget : Nat := 10976
  probing : Bool := false
  accepts : Bool := true
  acceptsFence : Bool := true
  wantsFence : Bool := false
  timedOut : Bool := false
  deriving DecidableEq

/-- The gate, toxcore's friend list, the ordered channel to each friend, and the
fences that the peers have received. `ordinal` counts the ledgers of the gate. -/
structure World (Key : Type) where
  seed : BitVec 64
  created : Nat := 0
  ledgers : Key → Option Ledger := fun _ => none
  ordinal : Key → Nat := fun _ => 0
  numberToKey : Nat → Option Key := fun _ => none
  roster : Nat → Option Key := fun _ => none
  channel : Key → List Packet := fun _ => []
  heard : List Fence := []

def kMinFenceIntervalBytes : Nat := 2 * 1372
def kFencesPerBudget : Nat := 4
def maxLedgerEntries : Nat := 64

def fenceInterval (budget : Nat) : Nat := max kMinFenceIntervalBytes (budget / kFencesPerBudget)

/-- Every second one of the entries between the ends. -/
def everyOther {α : Type} : List α → List α
  | _ :: kept :: rest => kept :: everyOther rest
  | _ => []

/-- Thin the middle of a full list, never the ends. -/
def thin : List Range → List Range
  | [] => []
  | front :: rest =>
      match rest.getLast? with
      | none => [front, front]
      | some back => front :: (everyOther rest.dropLast ++ [back])

def extendEntries (entries : List Range) (seq emitted : Nat) : List Range :=
  match entries.getLast? with
  | some back =>
      if back.snapshot = emitted then entries.dropLast ++ [{ back with hi := seq }]
      else entries ++ [⟨seq, seq, emitted⟩]
  | none => [⟨seq, seq, emitted⟩]

def Ledger.recordFence (ledger : Ledger) (seq : Nat) : Ledger :=
  let entries := extendEntries ledger.entries seq ledger.emitted
  { ledger with
    entries := if entries.length > maxLedgerEntries then thin entries else entries
    lastFenced := ledger.emitted
    firstFenced := true }

def Ledger.enterLegacy (ledger : Ledger) : Ledger :=
  { ledger with phase := .legacy, entries := [] }

/-- The first entry that holds the sequence number, and the entries after it. -/
def settle (seq : Nat) : List Range → Option (Range × List Range)
  | [] => none
  | range :: rest =>
      if range.lo ≤ seq ∧ seq ≤ range.hi then some (range, rest) else settle seq rest

def Ledger.credit (ledger : Ledger) (matched : Range) : Ledger :=
  { ledger with
    delivered := max ledger.delivered matched.snapshot
    phase := if ledger.phase = .bootstrap then .active else ledger.phase }

def Ledger.onReceived (ledger : Ledger) : Pong → Ledger
  | .empty =>
      let ledger := { ledger with emptyPongsReceived := ledger.emptyPongsReceived + 1 }
      if ledger.phase = .bootstrap ∧ ledger.entries ≠ [] ∧
          ledger.emptyPingsSent < ledger.emptyPongsReceived then ledger.enterLegacy
      else ledger
  | .echo epoch seq =>
      if epoch ≠ ledger.epoch then ledger
      else match settle seq ledger.entries with
        | none => ledger
        | some (matched, rest) => { ledger with entries := rest }.credit matched
  | .unknown => ledger

/-- A reconnect: detect again whether the peer echoes. The accounting is kept. -/
def Ledger.rearm (ledger : Ledger) : Ledger :=
  if ledger.phase = .bootstrap then ledger
  else
    { ledger with
      phase := .bootstrap
      firstFenced := false
      emptyPongsReceived := min ledger.emptyPongsReceived ledger.emptyPingsSent }

def World.put (world : World Key) (key : Key) (ledger : Ledger) : World Key :=
  { world with ledgers := Function.update world.ledgers key (some ledger) }

/-- toxcore's queue for the friend that the number names. -/
def World.transmit (world : World Key) (number : Nat) (packet : Packet) : World Key :=
  match world.roster number with
  | none => world
  | some key =>
      { world with channel := Function.update world.channel key (world.channel key ++ [packet]) }

/-- `ledger_for`: the key is cached by number, and a new key gets a new epoch. -/
def World.ledgerFor (world : World Key) (number : Nat) : Option (World Key × Key × Ledger) :=
  match (world.numberToKey number).or (world.roster number) with
  | none => none
  | some key =>
      let world :=
        { world with numberToKey := Function.update world.numberToKey number (some key) }
      match world.ledgers key with
      | some ledger =>
          let ledger := { ledger with friendNumber := number }
          some (world.put key ledger, key, ledger)
      | none =>
          let ledger : Ledger :=
            { friendNumber := number, epoch := ledgerEpoch world.seed (world.created + 1) }
          some ({ world with
            created := world.created + 1
            ordinal := Function.update world.ordinal key (world.created + 1) }.put key ledger,
            key, ledger)

def World.sendFence (world : World Key) (key : Key) (ledger : Ledger) (accepts : Bool) :
    World Key :=
  if accepts then
    (world.transmit ledger.friendNumber
      (.fence ⟨ledger.epoch, ledger.nextSeq, ledger.emitted⟩)).put key
      ({ ledger with nextSeq := ledger.nextSeq + 1 }.recordFence ledger.nextSeq)
  else world

def admits (choice : GateChoice) (ledger : Ledger) (size : Nat) : Bool :=
  ledger.phase = .legacy ||
    (!choice.probing && (ledger.emitted - ledger.delivered == 0 ||
      decide (ledger.emitted - ledger.delivered + size ≤ choice.budget)))

/-- `send_lossless_packet_typed` for a DATA packet: admission, toxcore's answer and
`on_accepted` in one critical section. -/
def World.sendData (world : World Key) (choice : GateChoice) (number size : Nat) : World Key :=
  match world.ledgerFor number with
  | none => world
  | some (world, key, ledger) =>
      if admits choice ledger size && choice.accepts then
        let ledger := { ledger with emitted := ledger.emitted + size }
        let world := (world.transmit number (.data size)).put key ledger
        if ledger.phase ≠ .legacy ∧
            fenceInterval choice.budget ≤ ledger.emitted - ledger.lastFenced then
          world.sendFence key ledger choice.acceptsFence
        else world
      else world

def World.sendKeepalive (world : World Key) (choice : GateChoice) (number : Nat) : World Key :=
  if choice.accepts then
    match (world.transmit number .keepalive).ledgerFor number with
    | none => world
    | some (world, key, ledger) =>
        world.put key { ledger with emptyPingsSent := ledger.emptyPingsSent + 1 }
  else world

def World.receive (world : World Key) (number : Nat) (pong : Pong) : World Key :=
  match world.ledgerFor number with
  | none => world
  | some (world, key, ledger) => world.put key (ledger.onReceived pong)

/-- `on_connection_status`; a disconnect leaves the accounting alone. -/
def World.connected (world : World Key) (number : Nat) : World Key :=
  match world.ledgerFor number with
  | none => world
  | some (world, key, ledger) => world.put key ledger.rearm

/-- The body of `on_tick` for one ledger. -/
def World.tick (world : World Key) (choice : GateChoice) (key : Key) : World Key :=
  match world.ledgers key with
  | none => world
  | some ledger =>
      if ledger.phase = .legacy then world
      else if world.numberToKey ledger.friendNumber ≠ some key then world
      else if ledger.phase = .bootstrap ∧ ledger.firstFenced = true ∧ choice.timedOut = true then
        world.put key ledger.enterLegacy
      else if choice.wantsFence then world.sendFence key ledger choice.acceptsFence
      else world

def Packet.hear (packet : Packet) (heard : List Fence) : List Fence :=
  match packet with
  | .fence received => received :: heard
  | _ => heard

/-- The peer receives the oldest packet of its channel. -/
def World.deliver (world : World Key) (key : Key) : World Key :=
  match world.channel key with
  | [] => world
  | packet :: rest =>
      { world with
        channel := Function.update world.channel key rest
        heard := packet.hear world.heard }

def World.reset (world : World Key) (key : Key) : World Key :=
  { world with channel := Function.update world.channel key [] }

def World.forgetFriendNumber (world : World Key) (number : Nat) : World Key :=
  { world with numberToKey := Function.update world.numberToKey number none }

/-- `tox_friend_add` gives out a free number. -/
def World.addFriend (world : World Key) (number : Nat) (key : Key) : World Key :=
  if world.roster number = none then
    { world with roster := Function.update world.roster number (some key) }.forgetFriendNumber number
  else world

/-- `tox_friend_delete` ends the friend's connection. -/
def World.removeFriend (world : World Key) (number : Nat) : World Key :=
  match world.roster number with
  | none => world
  | some key =>
      ({ world with roster := Function.update world.roster number none }.reset key).forgetFriendNumber
        number

inductive GateOp (Key : Type) where
  | sendData (number size : Nat)
  | sendKeepalive (number : Nat)
  | receive (number : Nat) (pong : Pong)
  | connected (number : Nat)
  | tick (key : Key)
  | deliver (key : Key)
  | reset (key : Key)
  | addFriend (number : Nat) (key : Key)
  | removeFriend (number : Nat)
  deriving DecidableEq

def applyOp (choice : GateChoice) (world : World Key) : GateOp Key → World Key
  | .sendData number size => world.sendData choice number size
  | .sendKeepalive number => world.sendKeepalive choice number
  | .receive number pong => world.receive number pong
  | .connected number => world.connected number
  | .tick key => world.tick choice key
  | .deliver key => world.deliver key
  | .reset key => world.reset key
  | .addFriend number key => world.addFriend number key
  | .removeFriend number => world.removeFriend number

/-- Every call holds the adapter's mutex, so it is one step. -/
def gateProgram : Program (World Key) (GateOp Key) (GateOp Key) GateChoice where
  start op := [op]
  exec choice world op := (applyOp choice world op, [])

def FreshWorld (world : World Key) : Prop := ∃ seed, world = { seed := seed }

end Model

section Accounting

/-- The DATA bytes of a stretch of the channel. -/
def dataBytes : List Packet → Nat
  | [] => 0
  | .data size :: rest => size + dataBytes rest
  | _ :: rest => dataBytes rest

@[simp] theorem dataBytes_append (first second : List Packet) :
    dataBytes (first ++ second) = dataBytes first + dataBytes second := by
  induction first with
  | nil => simp [dataBytes]
  | cons packet rest ih => cases packet <;> simp [dataBytes, ih, Nat.add_assoc]

/-- Of every fence in the channel: what is queued behind it was emitted after it. -/
def Marked (emitted : Nat) : List Packet → Prop
  | [] => True
  | .fence fence :: rest => fence.mark + dataBytes rest ≤ emitted ∧ Marked emitted rest
  | _ :: rest => Marked emitted rest

/-- A fence of this ledger that the peer has received or will receive. -/
def Known (ledger : Ledger) (channel : List Packet) (heard : List Fence) (fence : Fence) : Prop :=
  .fence fence ∈ channel ∨ (fence ∈ heard ∧ fence.epoch = ledger.epoch)

/-- Strictly increasing in sequence and in snapshot. -/
def Increasing (entries : List Range) : Prop :=
  entries.Pairwise fun earlier later => earlier.hi < later.lo ∧ earlier.snapshot < later.snapshot

structure Entered (ledger : Ledger) : Prop where
  increasing : Increasing ledger.entries
  shaped : ∀ range ∈ ledger.entries, range.lo ≤ range.hi ∧ range.snapshot ≤ ledger.emitted
  newest : ∀ range ∈ ledger.entries.getLast?, range.hi + 1 = ledger.nextSeq

structure Sound (ledger : Ledger) (channel : List Packet) (heard : List Fence) : Prop where
  covered : ledger.delivered + dataBytes channel ≤ ledger.emitted
  entered : Entered ledger
  own : ∀ fence, .fence fence ∈ channel → fence.epoch = ledger.epoch
  matched : ∀ fence, Known ledger channel heard fence → fence.seq < ledger.nextSeq ∧
    ∀ range ∈ ledger.entries, range.lo ≤ fence.seq → fence.seq ≤ range.hi →
      range.snapshot ≤ fence.mark
  marked : Marked ledger.emitted channel
  passed : ∀ fence ∈ heard, fence.epoch = ledger.epoch →
    fence.mark + dataBytes channel ≤ ledger.emitted

variable {ledger : Ledger} {channel : List Packet} {heard : List Fence}

theorem everyOther_sublist {α : Type} (list : List α) : (everyOther list).Sublist list := by
  induction list using everyOther.induct with
  | case1 dropped kept rest ih => exact ((ih.cons_cons kept).cons dropped)
  | case2 list short => 
      unfold everyOther
      split
      · exact absurd rfl (short _ _ _)
      · exact List.nil_sublist _

theorem thin_sublist {entries : List Range} (several : 1 < entries.length) :
    (thin entries).Sublist entries ∧ (thin entries).getLast? = entries.getLast? := by
  cases entries with
  | nil => cases several
  | cons front rest =>
      cases last : rest.getLast? with
      | none =>
          rw [List.getLast?_eq_none_iff] at last
          subst last
          simp at several
      | some back =>
          obtain ⟨init, rfl⟩ := List.getLast?_eq_some_iff.mp last
          simp only [thin, last, List.dropLast_concat]
          constructor
          · exact ((everyOther_sublist init).append (List.Sublist.refl _)).cons_cons front
          · rw [← List.cons_append, List.getLast?_concat, ← List.cons_append, List.getLast?_concat]

theorem Entered.bounded (entered : Entered ledger) {back : Range}
    (last : ledger.entries.getLast? = some back) {range : Range} (member : range ∈ ledger.entries) :
    range = back ∨ (range.hi < back.lo ∧ range.snapshot < back.snapshot) := by
  obtain ⟨init, split⟩ := List.getLast?_eq_some_iff.mp last
  have increasing := entered.increasing
  rw [Increasing, split, List.pairwise_append] at increasing
  rw [split, List.mem_append, List.mem_singleton] at member
  rcases member with older | same
  · exact .inr (increasing.2.2 range older back (List.mem_singleton_self _))
  · exact .inl same

theorem Entered.sent (entered : Entered ledger) {range : Range} (member : range ∈ ledger.entries) :
    range.hi < ledger.nextSeq := by
  cases last : ledger.entries.getLast? with
  | none =>
      rw [List.getLast?_eq_none_iff] at last
      rw [last] at member
      cases member
  | some back =>
      have newest := entered.newest back last
      have shaped := (entered.shaped back (List.mem_of_getLast? last)).1
      rcases entered.bounded last member with rfl | ⟨earlier, -⟩ <;> omega

theorem mem_extendEntries (entered : Entered ledger) {range : Range}
    (member : range ∈ extendEntries ledger.entries ledger.nextSeq ledger.emitted) :
    range ∈ ledger.entries ∨ (range.snapshot = ledger.emitted ∧ range.hi = ledger.nextSeq ∧
      (range.lo = ledger.nextSeq ∨
        ∃ back ∈ ledger.entries, range.lo = back.lo ∧ back.snapshot = ledger.emitted ∧
          back.hi + 1 = ledger.nextSeq)) := by
  unfold extendEntries at member
  split at member
  next back last =>
    obtain ⟨init, split⟩ := List.getLast?_eq_some_iff.mp last
    split at member
    next same =>
      rw [split, List.dropLast_concat, List.mem_append, List.mem_singleton] at member
      rcases member with older | rfl
      · left
        rw [split]
        exact List.mem_append_left _ older
      · right
        exact ⟨same, rfl, .inr ⟨back, List.mem_of_getLast? last, rfl, same,
          entered.newest back last⟩⟩
    next =>
      rw [List.mem_append, List.mem_singleton] at member
      rcases member with older | rfl
      · exact .inl older
      · exact .inr ⟨rfl, rfl, .inl rfl⟩
  next =>
    rw [List.mem_singleton] at member
    subst member
    exact .inr ⟨rfl, rfl, .inl rfl⟩

theorem extended_increasing (entered : Entered ledger) :
    Increasing (extendEntries ledger.entries ledger.nextSeq ledger.emitted) := by
  have increasing := entered.increasing
  unfold extendEntries
  split
  next back last =>
    obtain ⟨init, split⟩ := List.getLast?_eq_some_iff.mp last
    split
    next same =>
      rw [split, List.dropLast_concat]
      rw [Increasing, split, List.pairwise_append] at increasing
      rw [Increasing, List.pairwise_append]
      refine ⟨increasing.1, List.pairwise_singleton _ _, ?_⟩
      intro range member newest is_newest
      rw [List.mem_singleton] at is_newest
      subst is_newest
      exact increasing.2.2 range member back (List.mem_singleton_self _)
    next other =>
      have behind : back.snapshot < ledger.emitted := by
        have shaped := (entered.shaped back (List.mem_of_getLast? last)).2
        omega
      rw [Increasing, List.pairwise_append]
      refine ⟨increasing, List.pairwise_singleton _ _, ?_⟩
      intro range member newest is_newest
      rw [List.mem_singleton] at is_newest
      subst is_newest
      refine ⟨entered.sent member, ?_⟩
      rcases entered.bounded last member with rfl | ⟨-, earlier⟩
      · exact behind
      · exact earlier.trans behind
  next => exact List.pairwise_singleton _ _

theorem extendEntries_last (entries : List Range) (seq emitted : Nat) :
    ∃ back, (extendEntries entries seq emitted).getLast? = some back ∧ back.hi = seq := by
  unfold extendEntries
  split
  · split
    · exact ⟨_, List.getLast?_concat, rfl⟩
    · exact ⟨_, List.getLast?_concat, rfl⟩
  · exact ⟨_, rfl, rfl⟩

theorem recorded_entries (ledger : Ledger) (seq : Nat) :
    (ledger.recordFence seq).entries.Sublist (extendEntries ledger.entries seq ledger.emitted) ∧
      (ledger.recordFence seq).entries.getLast? =
        (extendEntries ledger.entries seq ledger.emitted).getLast? := by
  unfold Ledger.recordFence
  dsimp only
  split
  next full => exact thin_sublist (Nat.lt_of_lt_of_le (by decide) (Nat.le_of_lt full))
  next => exact ⟨List.Sublist.refl _, rfl⟩

/-- The ledger after a fence that toxcore accepted. -/
def Ledger.fenced (ledger : Ledger) : Ledger :=
  { ledger with nextSeq := ledger.nextSeq + 1 }.recordFence ledger.nextSeq

theorem fenced_entered (entered : Entered ledger) : Entered ledger.fenced := by
  obtain ⟨sublist, last⟩ := recorded_entries { ledger with nextSeq := ledger.nextSeq + 1 } ledger.nextSeq
  constructor
  · exact (extended_increasing entered).sublist sublist
  · intro range member
    rcases mem_extendEntries entered (sublist.subset member) with older | ⟨same, top, low⟩
    · exact entered.shaped range older
    · refine ⟨?_, same.le⟩
      rcases low with fresh | ⟨back, there, low, -, high⟩
      · omega
      · have shaped := (entered.shaped back there).1
        omega
  · intro range is_last
    obtain ⟨back, found, top⟩ := extendEntries_last ledger.entries ledger.nextSeq ledger.emitted
    have is_last : (ledger.fenced).entries.getLast? = some range := is_last
    rw [Ledger.fenced, last, found] at is_last
    cases is_last
    rw [top]
    rfl

theorem marked_snoc {emitted : Nat} {channel : List Packet} (packet : Packet)
    (marked : Marked emitted channel)
    (placed : ∀ fence, packet = .fence fence → fence.mark ≤ emitted + dataBytes [packet]) :
    Marked (emitted + dataBytes [packet]) (channel ++ [packet]) := by
  induction channel with
  | nil =>
      cases packet with
      | fence fence => exact ⟨placed fence rfl, trivial⟩
      | data | keepalive => trivial
  | cons first rest ih =>
      cases first with
      | fence fence =>
          refine ⟨?_, ih marked.2⟩
          have behind := marked.1
          change fence.mark + dataBytes (rest ++ [packet]) ≤ _
          rw [dataBytes_append]
          omega
      | data | keepalive => exact ih marked

theorem sound_emit (size : Nat) (sound : Sound ledger channel heard) :
    Sound { ledger with emitted := ledger.emitted + size } (channel ++ [.data size]) heard := by
  obtain ⟨covered, entered, own, matched, marked, passed⟩ := sound
  constructor
  · rw [dataBytes_append]
    simp only [dataBytes]
    omega
  · refine ⟨entered.increasing, ?_, entered.newest⟩
    intro range member
    have shaped := entered.shaped range member
    exact ⟨shaped.1, shaped.2.trans (Nat.le_add_right _ _)⟩
  · intro fence member
    exact own fence (by simpa using member)
  · intro fence known
    exact matched fence (by simpa [Known] using known)
  · exact marked_snoc (.data size) marked (by simp)
  · intro fence member same
    have passed := passed fence member same
    rw [dataBytes_append]
    simp only [dataBytes]
    omega

theorem sound_keepalive (sound : Sound ledger channel heard) :
    Sound ledger (channel ++ [.keepalive]) heard := by
  obtain ⟨covered, entered, own, matched, marked, passed⟩ := sound
  have same : dataBytes (channel ++ [.keepalive]) = dataBytes channel := by simp [dataBytes]
  constructor
  · rw [same]
    exact covered
  · exact entered
  · intro fence member
    exact own fence (by simpa using member)
  · intro fence known
    exact matched fence (by simpa [Known] using known)
  · exact marked_snoc .keepalive marked (by simp)
  · rw [same]
    exact passed

theorem sound_fence (sound : Sound ledger channel heard) :
    Sound ledger.fenced
      (channel ++ [.fence ⟨ledger.epoch, ledger.nextSeq, ledger.emitted⟩]) heard := by
  obtain ⟨covered, entered, own, matched, marked, passed⟩ := sound
  have same : dataBytes (channel ++ [.fence ⟨ledger.epoch, ledger.nextSeq, ledger.emitted⟩]) =
      dataBytes channel := by simp [dataBytes]
  obtain ⟨sublist, -⟩ := recorded_entries { ledger with nextSeq := ledger.nextSeq + 1 } ledger.nextSeq
  constructor
  · rw [same]
    exact covered
  · exact fenced_entered entered
  · intro fence member
    rw [List.mem_append, List.mem_singleton] at member
    rcases member with older | new
    · exact own fence older
    · cases new
      rfl
  · intro fence known
    have old_or_new : Known ledger channel heard fence ∨
        fence = ⟨ledger.epoch, ledger.nextSeq, ledger.emitted⟩ := by
      rcases known with queued | received
      · rw [List.mem_append, List.mem_singleton] at queued
        rcases queued with older | new
        · exact .inl (.inl older)
        · cases new
          exact .inr rfl
      · exact .inl (.inr received)
    rcases old_or_new with older | rfl
    · obtain ⟨sent, matched⟩ := matched fence older
      refine ⟨Nat.lt_succ_of_lt sent, ?_⟩
      intro range member low high
      rcases mem_extendEntries entered (sublist.subset member) with
        kept | ⟨snapshot, -, fresh | ⟨back, there, low', snapshot', top⟩⟩
      · exact matched range kept low high
      · omega
      · rw [snapshot, ← snapshot']
        exact matched back there (low' ▸ low) (by omega)
    · refine ⟨Nat.lt_succ_self _, ?_⟩
      intro range member low high
      rcases mem_extendEntries entered (sublist.subset member) with kept | ⟨snapshot, -⟩
      · have sent := entered.sent kept
        dsimp only at high
        omega
      · exact snapshot.le
  · have placed := marked_snoc (.fence ⟨ledger.epoch, ledger.nextSeq, ledger.emitted⟩) marked
      (by simp [dataBytes])
    exact placed
  · rw [same]
    exact passed

theorem Sound.shrink (sound : Sound ledger channel heard) {after : Ledger}
    (epoch : after.epoch = ledger.epoch) (nextSeq : after.nextSeq = ledger.nextSeq)
    (emitted : after.emitted = ledger.emitted) (suffix : after.entries <:+ ledger.entries)
    (covered : after.delivered + dataBytes channel ≤ ledger.emitted) : Sound after channel heard := by
  obtain ⟨-, entered, own, matched, marked, passed⟩ := sound
  constructor
  · rw [emitted]
    exact covered
  · constructor
    · exact entered.increasing.sublist suffix.sublist
    · rw [emitted]
      exact fun range member => entered.shaped range (suffix.subset member)
    · rw [nextSeq]
      intro range last
      apply entered.newest
      obtain ⟨settled, split⟩ := suffix
      obtain ⟨init, ends⟩ := List.getLast?_eq_some_iff.mp last
      rw [← split, ends, ← List.append_assoc]
      exact List.getLast?_concat
  · rw [epoch]
    exact own
  · intro fence known
    rw [Known, epoch] at known
    obtain ⟨sent, matched⟩ := matched fence known
    rw [nextSeq]
    exact ⟨sent, fun range member => matched range (suffix.subset member)⟩
  · rw [emitted]
    exact marked
  · rw [epoch, emitted]
    exact passed

theorem settle_some {seq : Nat} {entries rest : List Range} {range : Range}
    (found : settle seq entries = some (range, rest)) :
    range ∈ entries ∧ rest <:+ entries ∧ range.lo ≤ seq ∧ seq ≤ range.hi := by
  induction entries with
  | nil => cases found
  | cons first others ih =>
      unfold settle at found
      split at found
      next within =>
        cases found
        exact ⟨List.mem_cons_self, List.suffix_cons _ _, within⟩
      next =>
        obtain ⟨member, suffix, within⟩ := ih found
        exact ⟨List.mem_cons_of_mem _ member, suffix.trans (List.suffix_cons _ _), within⟩

/-- A PONG credits only what was emitted before a fence that the peer received. -/
theorem sound_received (sound : Sound ledger channel heard) (pong : Pong)
    (echoed : ∀ seq, pong = .echo ledger.epoch seq → ledger.entries ≠ [] →
      ∃ fence ∈ heard, fence.epoch = ledger.epoch ∧ fence.seq = seq) :
    Sound (ledger.onReceived pong) channel heard := by
  have covered := sound.covered
  cases pong with
  | unknown => exact sound
  | empty =>
      simp only [Ledger.onReceived]
      split
      · exact sound.shrink rfl rfl rfl List.nil_suffix covered
      · exact sound.shrink rfl rfl rfl List.suffix_rfl covered
  | echo epoch seq =>
      simp only [Ledger.onReceived]
      split
      · exact sound
      next same =>
        have same : epoch = ledger.epoch := by simpa using same
        split
        · exact sound
        next matched rest found =>
          obtain ⟨member, suffix, low, high⟩ := settle_some found
          subst same
          obtain ⟨fence, received, own, is_seq⟩ := echoed seq rfl (List.ne_nil_of_mem member)
          -- The entry counts no more than the fence had before it.
          have counted := (sound.matched fence (.inr ⟨received, own⟩)).2 matched member
            (by omega) (by omega)
          have passed := sound.passed fence received own
          refine sound.shrink rfl rfl rfl suffix ?_
          change max ledger.delivered matched.snapshot + _ ≤ _
          omega

theorem sound_deliver {packet : Packet} {rest : List Packet}
    (sound : Sound ledger (packet :: rest) heard) :
    Sound ledger rest (packet.hear heard) := by
  obtain ⟨covered, entered, own, matched, marked, passed⟩ := sound
  have fewer : dataBytes rest ≤ dataBytes (packet :: rest) := by
    cases packet <;> simp [dataBytes]
  constructor
  · exact (Nat.add_le_add_left fewer _).trans covered
  · exact entered
  · exact fun fence member => own fence (List.mem_cons_of_mem _ member)
  · intro fence known
    apply matched fence
    rcases known with queued | ⟨received, same⟩
    · exact .inl (List.mem_cons_of_mem _ queued)
    · cases packet with
      | fence head =>
          rcases List.mem_cons.mp received with rfl | older
          · exact .inl List.mem_cons_self
          · exact .inr ⟨older, same⟩
      | data | keepalive => exact .inr ⟨received, same⟩
  · cases packet with
    | fence head => exact marked.2
    | data | keepalive => exact marked
  · intro fence received same
    have older : fence ∈ heard → fence.mark + dataBytes rest ≤ ledger.emitted := fun member =>
      (Nat.add_le_add_left fewer _).trans (passed fence member same)
    cases packet with
    | fence head =>
        rcases List.mem_cons.mp received with rfl | member
        · exact marked.1
        · exact older member
    | data | keepalive => exact older received

theorem sound_reset (sound : Sound ledger channel heard) : Sound ledger [] heard := by
  obtain ⟨covered, entered, own, matched, marked, passed⟩ := sound
  constructor
  · exact (Nat.add_le_add_left (Nat.zero_le _) _).trans covered
  · exact entered
  · exact fun fence member => absurd member List.not_mem_nil
  · intro fence known
    exact matched fence (.inr (known.resolve_left List.not_mem_nil))
  · trivial
  · intro fence member same
    exact (Nat.add_le_add_left (Nat.zero_le _) _).trans (passed fence member same)

theorem sound_foreign (sound : Sound ledger channel heard) {fence : Fence}
    (foreign : fence.epoch ≠ ledger.epoch) : Sound ledger channel (fence :: heard) := by
  obtain ⟨covered, entered, own, matched, marked, passed⟩ := sound
  have older : ∀ other ∈ fence :: heard, other.epoch = ledger.epoch → other ∈ heard := by
    intro other member same
    rcases List.mem_cons.mp member with rfl | older
    · exact absurd same foreign
    · exact older
  constructor
  · exact covered
  · exact entered
  · exact own
  · intro other known
    exact matched other (known.imp id fun ⟨member, same⟩ => ⟨older other member same, same⟩)
  · exact marked
  · exact fun other member same => passed other (older other member same) same

/-- A new ledger has no entries, and no fence of its epoch was ever sent. -/
theorem sound_new (number : Nat) {epoch : BitVec 64}
    (channel_idle : ∀ packet ∈ channel, packet = .keepalive)
    (foreign : ∀ fence ∈ heard, fence.epoch ≠ epoch) :
    Sound { friendNumber := number, epoch := epoch } channel heard := by
  have quiet : dataBytes channel = 0 ∧ Marked 0 channel := by
    induction channel with
    | nil => exact ⟨rfl, trivial⟩
    | cons packet rest ih =>
        rw [channel_idle packet List.mem_cons_self]
        exact ih fun packet member => channel_idle packet (List.mem_cons_of_mem _ member)
  have no_fence : ∀ fence, Packet.fence fence ∉ channel := by
    intro fence member
    cases channel_idle _ member
  constructor
  · exact (Nat.zero_add _).trans_le quiet.1.le
  · exact ⟨List.Pairwise.nil, fun range member => absurd member List.not_mem_nil,
      fun range last => by cases last⟩
  · exact fun fence member => absurd member (no_fence fence)
  · rintro fence (queued | ⟨member, same⟩)
    · exact absurd queued (no_fence fence)
    · exact absurd same (foreign fence member)
  · exact quiet.2
  · exact fun fence member same => absurd same (foreign fence member)

theorem onReceived_delivered (ledger : Ledger) (pong : Pong) :
    ledger.delivered ≤ (ledger.onReceived pong).delivered ∧
      (ledger.onReceived pong).epoch = ledger.epoch := by
  cases pong with
  | unknown => exact ⟨Nat.le_refl _, rfl⟩
  | empty =>
      simp only [Ledger.onReceived]
      split <;> exact ⟨Nat.le_refl _, rfl⟩
  | echo epoch seq =>
      simp only [Ledger.onReceived]
      split
      · exact ⟨Nat.le_refl _, rfl⟩
      · split
        · exact ⟨Nat.le_refl _, rfl⟩
        · exact ⟨Nat.le_max_left _ _, rfl⟩

end Accounting

section Fields
variable {Key : Type} [DecidableEq Key] {world : World Key}

theorem transmit_fields (world : World Key) (number : Nat) (packet : Packet) :
    (world.transmit number packet).roster = world.roster ∧
      (world.transmit number packet).numberToKey = world.numberToKey ∧
      (world.transmit number packet).ledgers = world.ledgers := by
  unfold World.transmit
  split
  · exact ⟨rfl, rfl, rfl⟩
  · exact ⟨rfl, rfl, rfl⟩

theorem sendFence_fields (world : World Key) (key : Key) (ledger : Ledger) (accepts : Bool) :
    (world.sendFence key ledger accepts).roster = world.roster ∧
      (world.sendFence key ledger accepts).numberToKey = world.numberToKey ∧
      ((world.sendFence key ledger accepts).ledgers = world.ledgers ∨
        (world.sendFence key ledger accepts).ledgers =
          Function.update world.ledgers key (some ledger.fenced)) := by
  unfold World.sendFence
  split
  · obtain ⟨roster, cache, ledgers⟩ := transmit_fields world ledger.friendNumber
      (.fence ⟨ledger.epoch, ledger.nextSeq, ledger.emitted⟩)
    refine ⟨roster, cache, .inr ?_⟩
    rw [World.put, ledgers]
    rfl
  · exact ⟨rfl, rfl, .inl rfl⟩

theorem ledgerFor_fields {number : Nat} {found : World Key} {key : Key} {ledger : Ledger}
    (looked : world.ledgerFor number = some (found, key, ledger)) :
    (world.numberToKey number).or (world.roster number) = some key ∧
      found.roster = world.roster ∧
      found.numberToKey = Function.update world.numberToKey number (some key) ∧
      found.ledgers = Function.update world.ledgers key (some ledger) ∧
      ledger.friendNumber = number ∧
      ((∃ old, world.ledgers key = some old ∧ ledger = { old with friendNumber := number }) ∨
        (world.ledgers key = none ∧ ∃ epoch, ledger = { friendNumber := number, epoch })) := by
  unfold World.ledgerFor at looked
  split at looked
  · cases looked
  next named =>
    dsimp only at looked
    split at looked
    next old there =>
      cases looked
      exact ⟨named, rfl, rfl, rfl, rfl, .inl ⟨old, there, rfl⟩⟩
    next absent =>
      cases looked
      exact ⟨named, rfl, rfl, rfl, rfl, .inr ⟨absent, _, rfl⟩⟩

/-- A cached name is the one on the friend list, and a look-up keeps it so. -/
theorem ledgerFor_cached {number : Nat} {found : World Key} {key : Key} {ledger : Ledger}
    (cached : ∀ other key, world.numberToKey other = some key → world.roster other = some key)
    (looked : world.ledgerFor number = some (found, key, ledger)) :
    world.roster number = some key ∧
      ∀ other key, found.numberToKey other = some key → found.roster other = some key := by
  obtain ⟨name, roster, cache, -⟩ := ledgerFor_fields looked
  have route : world.roster number = some key := by
    cases known : world.numberToKey number with
    | none =>
        rw [known] at name
        exact name
    | some named =>
        rw [known] at name
        cases name
        exact cached number _ known
  refine ⟨route, ?_⟩
  intro other named known
  rw [cache] at known
  rw [roster]
  by_cases same : other = number
  · subst same
    rw [Function.update_self] at known
    cases known
    exact route
  · rw [Function.update_of_ne same] at known
    exact cached other named known

end Fields

section Run
variable {Key : Type} [DecidableEq Key] {world after : World Key}

/-- Each ledger is sound for its own channel, and no two share an epoch. -/
structure Accounted (world : World Key) : Prop where
  sound : ∀ key ledger, world.ledgers key = some ledger →
    Sound ledger (world.channel key) world.heard
  orphan : ∀ key, world.ledgers key = none → ∀ packet ∈ world.channel key, packet = .keepalive
  epochs : ∀ key ledger, world.ledgers key = some ledger →
    ledger.epoch = ledgerEpoch world.seed (world.ordinal key) ∧ world.ordinal key ≤ world.created
  distinct : ∀ key other, (world.ledgers key).isSome → (world.ledgers other).isSome →
    world.ordinal key = world.ordinal other → key = other
  few : world.created < 2 ^ 64
  owned : ∀ fence ∈ world.heard, ∃ key ledger,
    world.ledgers key = some ledger ∧ fence.epoch = ledger.epoch
  cached : ∀ number key, world.numberToKey number = some key → world.roster number = some key

/-- No ledger is lost, and the bytes it has credited are related as given. -/
def Keeps (related : Nat → Nat → Prop) (world after : World Key) : Prop :=
  ∀ key ledger, world.ledgers key = some ledger → ∃ next, after.ledgers key = some next ∧
    next.epoch = ledger.epoch ∧ related ledger.delivered next.delivered

omit [DecidableEq Key] in
theorem Keeps.of_ledgers (same : after.ledgers = world.ledgers) : Keeps (· = ·) world after := by
  intro key ledger found
  rw [same]
  exact ⟨ledger, found, rfl, rfl⟩

omit [DecidableEq Key] in
theorem Keeps.trans {first second third : World Key} (left : Keeps (· = ·) first second)
    {related : Nat → Nat → Prop} (right : Keeps related second third) :
    Keeps related first third := by
  intro key ledger found
  obtain ⟨middle, found, epoch, same⟩ := left key ledger found
  obtain ⟨next, found, epoch', more⟩ := right key middle found
  exact ⟨next, found, epoch'.trans epoch, same ▸ more⟩

theorem Keeps.put {related : Nat → Nat → Prop} (reflexive : ∀ count, related count count)
    {key : Key} {ledger next : Ledger} (found : world.ledgers key = some ledger)
    (epoch : next.epoch = ledger.epoch) (more : related ledger.delivered next.delivered) :
    Keeps related world (world.put key next) := by
  intro other current there
  by_cases same : other = key
  · subst same
    rw [found] at there
    cases there
    exact ⟨next, Function.update_self _ _ _, epoch, more⟩
  · exact ⟨current, (Function.update_of_ne same _ _).trans there, rfl, reflexive _⟩

theorem Accounted.put (accounted : Accounted world) {key : Key} {ledger next : Ledger}
    {channel : List Packet} (found : world.ledgers key = some ledger)
    (epoch : next.epoch = ledger.epoch) (sound : Sound next channel world.heard) :
    Accounted ({ world with channel := Function.update world.channel key channel }.put key next) := by
  have elsewhere : ∀ other, other ≠ key →
      Function.update world.ledgers key (some next) other = world.ledgers other :=
    fun other differs => Function.update_of_ne differs _ _
  have some_iff : ∀ other, (Function.update world.ledgers key (some next) other).isSome =
      (world.ledgers other).isSome := by
    intro other
    by_cases same : other = key
    · subst same
      simp [found]
    · rw [elsewhere other same]
  constructor
  · intro other current there
    change Function.update world.ledgers key (some next) other = some current at there
    change Sound current (Function.update world.channel key channel other) world.heard
    by_cases same : other = key
    · subst same
      rw [Function.update_self] at there
      cases there
      rw [Function.update_self]
      exact sound
    · rw [elsewhere other same] at there
      rw [Function.update_of_ne same]
      exact accounted.sound other current there
  · intro other none_there
    change Function.update world.ledgers key (some next) other = none at none_there
    change ∀ packet ∈ Function.update world.channel key channel other, packet = .keepalive
    by_cases same : other = key
    · subst same
      simp at none_there
    · rw [elsewhere other same] at none_there
      rw [Function.update_of_ne same]
      exact accounted.orphan other none_there
  · intro other current there
    change Function.update world.ledgers key (some next) other = some current at there
    by_cases same : other = key
    · subst same
      rw [Function.update_self] at there
      cases there
      rw [epoch]
      exact accounted.epochs other ledger found
    · rw [elsewhere other same] at there
      exact accounted.epochs other current there
  · intro first second first_there second_there
    change (Function.update world.ledgers key (some next) first).isSome at first_there
    change (Function.update world.ledgers key (some next) second).isSome at second_there
    rw [some_iff] at first_there second_there
    exact accounted.distinct first second first_there second_there
  · exact accounted.few
  · intro fence member
    obtain ⟨other, current, there, same_epoch⟩ := accounted.owned fence member
    by_cases same : other = key
    · subst same
      rw [found] at there
      cases there
      exact ⟨other, next, Function.update_self _ _ _, same_epoch.trans epoch.symm⟩
    · exact ⟨other, current, (elsewhere other same).trans there, same_epoch⟩
  · exact accounted.cached

theorem Accounted.update (accounted : Accounted world) {key : Key} {ledger next : Ledger}
    (found : world.ledgers key = some ledger) (epoch : next.epoch = ledger.epoch)
    (sound : Sound next (world.channel key) world.heard) : Accounted (world.put key next) := by
  have put := accounted.put found epoch sound
  rw [Function.update_eq_self] at put
  exact put

omit [DecidableEq Key] in
theorem Accounted.congr (accounted : Accounted world) (seed : after.seed = world.seed)
    (created : after.created = world.created) (ledgers : after.ledgers = world.ledgers)
    (ordinal : after.ordinal = world.ordinal) (channel : after.channel = world.channel)
    (heard : after.heard = world.heard)
    (cached : ∀ number key, after.numberToKey number = some key → after.roster number = some key) :
    Accounted after := by
  obtain ⟨sound, orphan, epochs, distinct, few, owned, -⟩ := accounted
  constructor
  · rw [ledgers, channel, heard]
    exact sound
  · rw [ledgers, channel]
    exact orphan
  · rw [ledgers, seed, ordinal, created]
    exact epochs
  · rw [ledgers, ordinal]
    exact distinct
  · rw [created]
    exact few
  · rw [ledgers, heard]
    exact owned
  · exact cached

/-- A new ledger: its epoch is nobody's, so no fence can be mistaken for its own. -/
theorem Accounted.create (accounted : Accounted world) {key : Key} (number : Nat)
    (unknown : world.ledgers key = none) (room : world.created + 1 < 2 ^ 64) :
    Accounted ({ world with
      created := world.created + 1
      ordinal := Function.update world.ordinal key (world.created + 1) }.put key
        { friendNumber := number, epoch := ledgerEpoch world.seed (world.created + 1) }) := by
  obtain ⟨sound, orphan, epochs, distinct, few, owned, cached⟩ := accounted
  have elsewhere : ∀ other ledger, world.ledgers other = some ledger → other ≠ key := by
    rintro other ledger there rfl
    rw [unknown] at there
    cases there
  have older : ∀ other ledger, world.ledgers other = some ledger →
      world.ordinal other < world.created + 1 := fun other ledger there =>
    Nat.lt_succ_of_le (epochs other ledger there).2
  have foreign : ∀ fence ∈ world.heard, fence.epoch ≠ ledgerEpoch world.seed (world.created + 1) := by
    intro fence member same
    obtain ⟨other, ledger, there, own⟩ := owned fence member
    have small := older other ledger there
    rw [own, (epochs other ledger there).1] at same
    have equal := ledgerEpoch_injective world.seed (by omega) room same
    omega
  constructor
  · intro other ledger there
    change Function.update world.ledgers key _ other = some ledger at there
    by_cases same : other = key
    · subst same
      rw [Function.update_self] at there
      cases there
      exact sound_new number (orphan other unknown) foreign
    · rw [Function.update_of_ne same] at there
      exact sound other ledger there
  · intro other none_there
    change Function.update world.ledgers key _ other = none at none_there
    by_cases same : other = key
    · subst same
      simp at none_there
    · rw [Function.update_of_ne same] at none_there
      exact orphan other none_there
  · intro other ledger there
    change Function.update world.ledgers key _ other = some ledger at there
    change ledger.epoch = ledgerEpoch world.seed (Function.update world.ordinal key _ other) ∧
      Function.update world.ordinal key _ other ≤ world.created + 1
    by_cases same : other = key
    · subst same
      rw [Function.update_self] at there
      cases there
      rw [Function.update_self]
      exact ⟨rfl, Nat.le_refl _⟩
    · rw [Function.update_of_ne same] at there
      rw [Function.update_of_ne same]
      exact ⟨(epochs other ledger there).1, (older other ledger there).le⟩
  · intro first second first_there second_there equal
    change (Function.update world.ledgers key _ first).isSome at first_there
    change (Function.update world.ledgers key _ second).isSome at second_there
    change Function.update world.ordinal key _ first = Function.update world.ordinal key _ second
      at equal
    by_cases first_same : first = key <;> by_cases second_same : second = key
    · rw [first_same, second_same]
    · rw [Function.update_of_ne second_same] at second_there equal
      rw [first_same, Function.update_self] at equal
      obtain ⟨ledger, there⟩ := Option.isSome_iff_exists.mp second_there
      have small := older second ledger there
      omega
    · rw [Function.update_of_ne first_same] at first_there equal
      rw [second_same, Function.update_self] at equal
      obtain ⟨ledger, there⟩ := Option.isSome_iff_exists.mp first_there
      have small := older first ledger there
      omega
    · rw [Function.update_of_ne first_same] at first_there equal
      rw [Function.update_of_ne second_same] at second_there equal
      exact distinct first second first_there second_there equal
  · exact room
  · intro fence member
    obtain ⟨other, ledger, there, own⟩ := owned fence member
    exact ⟨other, ledger, (Function.update_of_ne (elsewhere other ledger there) _ _).trans there, own⟩
  · exact cached

/-- What `ledger_for` answers: the friend's ledger, found or created. -/
theorem ledgerFor_accounted (accounted : Accounted world) (room : world.created + 1 < 2 ^ 64)
    {number : Nat} {key : Key} {ledger : Ledger}
    (found : world.ledgerFor number = some (after, key, ledger)) :
    Accounted after ∧ Keeps (· = ·) world after ∧ after.ledgers key = some ledger ∧
      after.roster number = some key ∧ ledger.friendNumber = number ∧
      after.heard = world.heard ∧
      ((∃ old, world.ledgers key = some old ∧ ledger.epoch = old.epoch) ∨ ledger.entries = []) := by
  unfold World.ledgerFor at found
  split at found
  · cases found
  next named is_key =>
    have route : world.roster number = some named := by
      cases cached : world.numberToKey number with
      | none => simpa [cached] using is_key
      | some other =>
          rw [accounted.cached number other cached]
          simpa [cached] using is_key
    have remembered : Accounted
        { world with numberToKey := Function.update world.numberToKey number (some named) } := by
      refine accounted.congr rfl rfl rfl rfl rfl rfl ?_
      intro other key there
      by_cases same : other = number
      · subst same
        change Function.update world.numberToKey other (some named) other = some key at there
        rw [Function.update_self] at there
        cases there
        exact route
      · change Function.update world.numberToKey number (some named) other = some key at there
        rw [Function.update_of_ne same] at there
        exact accounted.cached other key there
    dsimp only at found
    split at found
    next old there =>
      cases found
      have sound := remembered.sound key old there
      refine ⟨remembered.update there rfl ?_, ?_, Function.update_self _ _ _, route, rfl, rfl,
        .inl ⟨old, there, rfl⟩⟩
      · exact sound.shrink rfl rfl rfl List.suffix_rfl sound.covered
      · exact Keeps.put (fun _ => rfl) there rfl rfl
    next unknown =>
      cases found
      refine ⟨remembered.create number unknown room, ?_, Function.update_self _ _ _, route, rfl, rfl,
        .inr rfl⟩
      intro other current there
      have differs : other ≠ key := by
        rintro rfl
        rw [unknown] at there
        cases there
      exact ⟨current, (Function.update_of_ne differs _ _).trans there, rfl, rfl⟩

theorem transmit_eq {number : Nat} {key : Key} (route : world.roster number = some key)
    (packet : Packet) : world.transmit number packet =
      { world with channel := Function.update world.channel key (world.channel key ++ [packet]) } := by
  rw [World.transmit, route]

theorem sendFence_accounted (accounted : Accounted world) {key : Key} {ledger : Ledger}
    (found : world.ledgers key = some ledger) (route : world.roster ledger.friendNumber = some key)
    (accepts : Bool) :
    Accounted (world.sendFence key ledger accepts) ∧
      Keeps (· = ·) world (world.sendFence key ledger accepts) := by
  unfold World.sendFence
  cases accepts with
  | false => exact ⟨accounted, .of_ledgers rfl⟩
  | true =>
      rw [if_pos rfl, transmit_eq route]
      constructor
      · exact accounted.put found rfl (sound_fence (accounted.sound key ledger found))
      · exact (Keeps.of_ledgers rfl).trans (Keeps.put (fun _ => rfl) found rfl rfl)

theorem sendData_accounted (accounted : Accounted world) (room : world.created + 1 < 2 ^ 64)
    (choice : GateChoice) (number size : Nat) :
    Accounted (world.sendData choice number size) ∧
      Keeps (· = ·) world (world.sendData choice number size) := by
  unfold World.sendData
  split
  · exact ⟨accounted, .of_ledgers rfl⟩
  next current key ledger found =>
    obtain ⟨accounted, kept, there, route, number_is, -⟩ := ledgerFor_accounted accounted room found
    split
    · dsimp only
      rw [transmit_eq route]
      have sound := sound_emit size (accounted.sound key ledger there)
      have emitted := accounted.put there (by rfl) sound
      have same : Keeps (· = ·) current ({ current with
          channel := Function.update current.channel key (current.channel key ++ [Packet.data size]) }.put key
            { ledger with emitted := ledger.emitted + size }) :=
        (Keeps.of_ledgers rfl).trans (Keeps.put (fun _ => rfl) there rfl rfl)
      split
      · have fenced := sendFence_accounted emitted (Function.update_self _ _ _)
          (by rw [← number_is] at route; exact route) choice.acceptsFence
        exact ⟨fenced.1, kept.trans (same.trans fenced.2)⟩
      · exact ⟨emitted, kept.trans same⟩
    · exact ⟨accounted, kept⟩

theorem Accounted.rechannel (accounted : Accounted world) {key : Key} {packets : List Packet}
    {heard : List Fence}
    (mine : ∀ ledger, world.ledgers key = some ledger → Sound ledger packets heard)
    (orphan : world.ledgers key = none → ∀ packet ∈ packets, packet = .keepalive)
    (others : ∀ other ledger, other ≠ key → world.ledgers other = some ledger →
      Sound ledger (world.channel other) heard)
    (owned : ∀ fence ∈ heard, ∃ key ledger,
      world.ledgers key = some ledger ∧ fence.epoch = ledger.epoch) :
    Accounted { world with
      channel := Function.update world.channel key packets
      heard := heard } := by
  refine ⟨?_, ?_, accounted.epochs, accounted.distinct, accounted.few, owned, accounted.cached⟩
  · intro other ledger there
    change Sound ledger (Function.update world.channel key packets other) heard
    by_cases same : other = key
    · subst same
      rw [Function.update_self]
      exact mine ledger there
    · rw [Function.update_of_ne same]
      exact others other ledger same there
  · intro other none_there
    change ∀ packet ∈ Function.update world.channel key packets other, packet = .keepalive
    by_cases same : other = key
    · subst same
      rw [Function.update_self]
      exact orphan none_there
    · rw [Function.update_of_ne same]
      exact accounted.orphan other none_there

theorem transmit_keepalive (accounted : Accounted world) (number : Nat) :
    Accounted (world.transmit number .keepalive) := by
  unfold World.transmit
  split
  · exact accounted
  next key route =>
    apply accounted.rechannel
    · exact fun ledger there => sound_keepalive (accounted.sound key ledger there)
    · intro unknown packet member
      rw [List.mem_append, List.mem_singleton] at member
      exact member.elim (accounted.orphan key unknown packet) id
    · exact fun other ledger _ there => accounted.sound other ledger there
    · exact accounted.owned

theorem reset_accounted (accounted : Accounted world) (key : Key) : Accounted (world.reset key) := by
  apply accounted.rechannel
  · exact fun ledger there => sound_reset (accounted.sound key ledger there)
  · exact fun _ packet member => absurd member List.not_mem_nil
  · exact fun other ledger _ there => accounted.sound other ledger there
  · exact accounted.owned

/-- A fence that arrives belongs to the ledger of its channel and to no other one. -/
theorem deliver_accounted (accounted : Accounted world) (key : Key) :
    Accounted (world.deliver key) := by
  unfold World.deliver
  split
  · exact accounted
  next packet rest queued =>
    have sound : ∀ ledger, world.ledgers key = some ledger →
        Sound ledger (packet :: rest) world.heard := by
      intro ledger there
      rw [← queued]
      exact accounted.sound key ledger there
    apply accounted.rechannel
    · exact fun ledger there => sound_deliver (sound ledger there)
    · intro unknown other member
      apply accounted.orphan key unknown other
      rw [queued]
      exact List.mem_cons_of_mem _ member
    · intro other ledger differs there
      cases packet with
      | data | keepalive => exact accounted.sound other ledger there
      | fence fence =>
          apply sound_foreign (accounted.sound other ledger there)
          cases mine : world.ledgers key with
          | none =>
              have idle := accounted.orphan key mine (.fence fence) (by simp [queued])
              cases idle
          | some owner =>
              intro same
              have own := (sound owner mine).own fence List.mem_cons_self
              obtain ⟨epoch, known⟩ := accounted.epochs key owner mine
              obtain ⟨epoch', known'⟩ := accounted.epochs other ledger there
              have few := accounted.few
              apply differs
              apply accounted.distinct other key (by simp [there]) (by simp [mine])
              apply ledgerEpoch_injective world.seed (by omega) (by omega)
              rw [← epoch, ← epoch', ← own, ← same]
    · intro fence member
      cases packet with
      | data | keepalive => exact accounted.owned fence member
      | fence head =>
          rcases List.mem_cons.mp member with rfl | older
          · cases mine : world.ledgers key with
            | none =>
                have idle := accounted.orphan key mine (.fence fence) (by simp [queued])
                cases idle
            | some owner =>
                exact ⟨key, owner, mine, (sound owner mine).own fence List.mem_cons_self⟩
          · exact accounted.owned fence older

/-- PONGs echo fences that some peer received: possibly long ago, again, or from
another friend. A payload may also be of no ledger of this process. There are fewer
than 2^64 ledgers, as `std::map` cannot hold more. -/
def fencesEchoed : Guard (World Key) (GateOp Key) (GateOp Key) GateChoice
  | world, _, .act _ (.receive _ (.echo epoch seq)) =>
      world.created + 1 < 2 ^ 64 ∧
        ((∃ fence ∈ world.heard, fence.epoch = epoch ∧ fence.seq = seq) ∨
          ∀ count < world.created + 1, ledgerEpoch world.seed count ≠ epoch)
  | world, _, .act _ _ => world.created + 1 < 2 ^ 64
  | _, _, _ => True

instance : Guard.Checked (fencesEchoed : Guard (World Key) (GateOp Key) (GateOp Key) GateChoice) :=
  fun world _ move => by
  unfold fencesEchoed
  split <;> infer_instance

theorem sendKeepalive_accounted (accounted : Accounted world) (room : world.created + 1 < 2 ^ 64)
    (choice : GateChoice) (number : Nat) :
    Accounted (world.sendKeepalive choice number) ∧
      Keeps (· = ·) world (world.sendKeepalive choice number) := by
  unfold World.sendKeepalive
  split
  · split
    · exact ⟨accounted, .of_ledgers rfl⟩
    next current key ledger found =>
      have sent := transmit_keepalive accounted number
      have ledgers : (world.transmit number .keepalive).ledgers = world.ledgers ∧
          (world.transmit number .keepalive).created = world.created := by
        unfold World.transmit
        split <;> exact ⟨rfl, rfl⟩
      rw [← ledgers.2] at room
      obtain ⟨accounted, kept, there, -⟩ := ledgerFor_accounted sent room found
      have sound := accounted.sound key ledger there
      constructor
      · exact accounted.update there (by rfl)
          (sound.shrink rfl rfl rfl List.suffix_rfl sound.covered)
      · exact ((Keeps.of_ledgers ledgers.1).trans kept).trans
          (Keeps.put (fun _ => rfl) there rfl rfl)
  · exact ⟨accounted, .of_ledgers rfl⟩

theorem rearm_fields (ledger : Ledger) :
    ledger.rearm.epoch = ledger.epoch ∧ ledger.rearm.nextSeq = ledger.nextSeq ∧
      ledger.rearm.emitted = ledger.emitted ∧ ledger.rearm.entries = ledger.entries ∧
      ledger.rearm.delivered = ledger.delivered := by
  unfold Ledger.rearm
  split <;> exact ⟨rfl, rfl, rfl, rfl, rfl⟩

theorem connected_accounted (accounted : Accounted world) (room : world.created + 1 < 2 ^ 64)
    (number : Nat) :
    Accounted (world.connected number) ∧ Keeps (· = ·) world (world.connected number) := by
  unfold World.connected
  split
  · exact ⟨accounted, .of_ledgers rfl⟩
  next current key ledger found =>
    obtain ⟨accounted, kept, there, -⟩ := ledgerFor_accounted accounted room found
    obtain ⟨epoch, nextSeq, emitted, entries, delivered⟩ := rearm_fields ledger
    have sound := accounted.sound key ledger there
    constructor
    · apply accounted.update there epoch
      apply sound.shrink epoch nextSeq emitted (entries ▸ List.suffix_rfl)
      rw [delivered]
      exact sound.covered
    · exact kept.trans (Keeps.put (fun _ => rfl) there epoch delivered.symm)

theorem tick_accounted (accounted : Accounted world) (choice : GateChoice) (key : Key) :
    Accounted (world.tick choice key) ∧ Keeps (· = ·) world (world.tick choice key) := by
  unfold World.tick
  split
  · exact ⟨accounted, .of_ledgers rfl⟩
  next ledger there =>
    split
    · exact ⟨accounted, .of_ledgers rfl⟩
    · split
      · exact ⟨accounted, .of_ledgers rfl⟩
      next named =>
        split
        · have sound := accounted.sound key ledger there
          exact ⟨accounted.update there (by rfl)
              (sound.shrink rfl rfl rfl List.nil_suffix sound.covered),
            Keeps.put (fun _ => rfl) there rfl rfl⟩
        · split
          · have named : world.numberToKey ledger.friendNumber = some key := by simpa using named
            exact sendFence_accounted accounted there (accounted.cached _ _ named) _
          · exact ⟨accounted, .of_ledgers rfl⟩

theorem receive_accounted (accounted : Accounted world) (room : world.created + 1 < 2 ^ 64)
    (number : Nat) (pong : Pong)
    (echoed : ∀ epoch seq, pong = .echo epoch seq →
      (∃ fence ∈ world.heard, fence.epoch = epoch ∧ fence.seq = seq) ∨
        ∀ count < world.created + 1, ledgerEpoch world.seed count ≠ epoch) :
    Accounted (world.receive number pong) ∧ Keeps (· ≤ ·) world (world.receive number pong) := by
  unfold World.receive
  split
  · refine ⟨accounted, fun key ledger there => ⟨ledger, there, rfl, Nat.le_refl _⟩⟩
  next current key ledger found =>
    obtain ⟨settled, kept, there, -, -, heard, known⟩ := ledgerFor_accounted accounted room found
    obtain ⟨more, epoch⟩ := onReceived_delivered ledger pong
    constructor
    · apply settled.update there epoch
      apply sound_received (settled.sound key ledger there)
      intro seq is_echo some_entries
      rw [heard]
      rcases known with ⟨old, old_there, old_epoch⟩ | none_entered
      · rcases echoed ledger.epoch seq is_echo with received | foreign
        · exact received
        · obtain ⟨same, bound⟩ := accounted.epochs key old old_there
          exact absurd (same.symm.trans old_epoch.symm) (foreign _ (Nat.lt_succ_of_le bound))
      · exact absurd none_entered some_entries
    · exact kept.trans (Keeps.put Nat.le_refl there epoch more)

omit [DecidableEq Key] in
theorem addFriend_accounted (accounted : Accounted world) (number : Nat) (key : Key) :
    Accounted (world.addFriend number key) := by
  unfold World.addFriend
  split
  · refine accounted.congr rfl rfl rfl rfl rfl rfl ?_
    intro other named cached
    change Function.update world.numberToKey number none other = some named at cached
    change Function.update world.roster number (some key) other = some named
    by_cases same : other = number
    · subst same
      simp at cached
    · rw [Function.update_of_ne same] at cached ⊢
      exact accounted.cached other named cached
  · exact accounted

theorem removeFriend_accounted (accounted : Accounted world) (number : Nat) :
    Accounted (world.removeFriend number) := by
  unfold World.removeFriend
  split
  · exact accounted
  next key route =>
    refine (reset_accounted accounted key).congr rfl rfl rfl rfl rfl rfl ?_
    intro other named cached
    change Function.update world.numberToKey number none other = some named at cached
    change Function.update world.roster number none other = some named
    by_cases same : other = number
    · subst same
      simp at cached
    · rw [Function.update_of_ne same] at cached ⊢
      exact accounted.cached other named cached

/-- Whether a call is the arrival of a PONG. -/
def isPong : GateOp Key → Bool
  | .receive _ _ => true
  | _ => false

theorem applyOp_accounted (accounted : Accounted world) {others : Multiset (GateOp Key)}
    {choice : GateChoice} {op : GateOp Key} (allowed : fencesEchoed world others (.act choice op)) :
    Accounted (applyOp choice world op) ∧ Keeps (· ≤ ·) world (applyOp choice world op) ∧
      (isPong op = false → Keeps (· = ·) world (applyOp choice world op)) := by
  have unchanged : ∀ {next : World Key}, Accounted next ∧ Keeps (· = ·) world next →
      Accounted next ∧ Keeps (· ≤ ·) world next ∧ (isPong op = false → Keeps (· = ·) world next) := by
    intro next ⟨sound, same⟩
    refine ⟨sound, ?_, fun _ => same⟩
    intro key ledger there
    obtain ⟨after, found, epoch, equal⟩ := same key ledger there
    exact ⟨after, found, epoch, equal.le⟩
  cases op with
  | receive number pong =>
      have room : world.created + 1 < 2 ^ 64 := by
        cases pong with
        | echo => exact allowed.1
        | empty | unknown => exact allowed
      obtain ⟨sound, more⟩ := receive_accounted accounted room number pong (by
        rintro epoch seq rfl
        exact allowed.2)
      exact ⟨sound, more, by simp [isPong]⟩
  | sendData number size => exact unchanged (sendData_accounted accounted allowed choice number size)
  | sendKeepalive number => exact unchanged (sendKeepalive_accounted accounted allowed choice number)
  | connected number => exact unchanged (connected_accounted accounted allowed number)
  | tick key => exact unchanged (tick_accounted accounted choice key)
  | deliver key =>
      apply unchanged
      refine ⟨deliver_accounted accounted key, .of_ledgers ?_⟩
      simp only [applyOp, World.deliver]
      split <;> rfl
  | reset key => exact unchanged ⟨reset_accounted accounted key, .of_ledgers rfl⟩
  | addFriend number key =>
      apply unchanged
      refine ⟨addFriend_accounted accounted number key, .of_ledgers ?_⟩
      simp only [applyOp, World.addFriend]
      split <;> rfl
  | removeFriend number =>
      apply unchanged
      refine ⟨removeFriend_accounted accounted number, .of_ledgers ?_⟩
      simp only [applyOp, World.removeFriend]
      split <;> rfl

theorem reach_accounted {config : Config (World Key) (GateOp Key)}
    (reached : Reach gateProgram fencesEchoed FreshWorld config) : Accounted config.shared := by
  apply Reach.bag_invariant (fun world _ => Accounted world) _ _ _ reached
  · rintro world ⟨seed, rfl⟩
    constructor <;> simp
  · intro world bag op accounted _
    exact accounted
  · intro choice world op others accounted allowed
    exact (applyOp_accounted accounted allowed).1

/-- Of every ledger in every run: it has credited no more than it emitted, and the
DATA in the channel is not yet credited; its entries increase in sequence and in
snapshot. Whatever call comes next, the ledger stays, its credit does not go down,
and unless the call is the arrival of a PONG (so also when the entries are thinned)
it does not change. -/
theorem never_over_credited {config : Config (World Key) (GateOp Key)}
    (reached : Reach gateProgram fencesEchoed FreshWorld config) {key : Key} {ledger : Ledger}
    (there : config.shared.ledgers key = some ledger) :
    ledger.delivered ≤ ledger.emitted ∧
    dataBytes (config.shared.channel key) ≤ ledger.emitted - ledger.delivered ∧
    (ledger.entries.Pairwise fun earlier later =>
      earlier.hi < later.lo ∧ earlier.snapshot < later.snapshot) ∧
    (∀ range ∈ ledger.entries, range.lo ≤ range.hi) ∧
    ∀ others choice op, fencesEchoed config.shared others (.act choice op) →
      ∃ next, (applyOp choice config.shared op).ledgers key = some next ∧
        next.epoch = ledger.epoch ∧ ledger.delivered ≤ next.delivered ∧
        (isPong op = false → next.delivered = ledger.delivered) := by
  have accounted := reach_accounted reached
  have sound := accounted.sound key ledger there
  have covered := sound.covered
  refine ⟨by omega, by omega, sound.entered.increasing,
    fun range member => (sound.entered.shaped range member).1, ?_⟩
  intro others choice op allowed
  obtain ⟨-, more, same⟩ := applyOp_accounted accounted allowed
  obtain ⟨next, found, epoch, grown⟩ := more key ledger there
  refine ⟨next, found, epoch, grown, ?_⟩
  intro quiet
  obtain ⟨next', found', -, equal⟩ := same quiet key ledger there
  rw [found] at found'
  cases found'
  exact equal.symm

/-- A fence behind 3000 bytes is echoed, twice; then 100 more bytes are on their way. -/
theorem never_over_credited_echoed :
    ∃ config : Config (World Nat) (GateOp Nat), ∃ ledger,
      Reach gateProgram fencesEchoed FreshWorld config ∧
      config.shared.ledgers 7 = some ledger ∧ ledger.delivered = 3000 ∧
      dataBytes (config.shared.channel 7) = 100 ∧
      dataBytes (config.shared.channel 7) ≤ ledger.emitted - ledger.delivered := by
  let echo : GateOp Nat := .receive 0 (.echo (ledgerEpoch 5 1) 1)
  let ops : List (GateOp Nat) :=
    [.addFriend 0 7, .sendData 0 3000, .deliver 7, .deliver 7, echo, echo, .sendData 0 100]
  let schedule : List (Event (GateOp Nat) GateChoice) := List.flatten
    [ops.map .call, (List.range 7).map fun thread => .run thread {}]
  have run := Reach.exists_of_replay gateProgram fencesEchoed FreshWorld { seed := 5 } schedule
    (fun config => decide ((config.shared.ledgers 7).map Ledger.delivered = some 3000 ∧
      dataBytes (config.shared.channel 7) = 100)) ⟨5, rfl⟩ (by decide)
  obtain ⟨config, reached, met⟩ := run
  obtain ⟨delivered, queued⟩ := of_decide_eq_true met
  obtain ⟨ledger, there, credited⟩ := Option.map_eq_some_iff.mp delivered
  exact ⟨config, ledger, reached, there, credited, queued,
    (never_over_credited reached there).2.1⟩

end Run

end ToxTunnel.FriendSendGate
