import ToxTunnel.FrameCodec
import ToxTunnel.FriendSendGate

/-!
The lock-free hints of the friend gate: for each friend number, the DATA that the
ledger would accept when it was last published. They only ever lag behind a ledger
that has become stricter since, so a packet refused by its hint would be refused by
the ledger.
-/

namespace ToxTunnel.FriendGateHint
open Interleaving CheckedBytes FrameCodec FriendSendGate

section Model
variable {Key : Type} [DecidableEq Key]

structure GateConfig where
  floorBytes : Nat := 8 * 1372
  maxBytes : Nat := 4 * 1024 * 1024
  floor_le_max : floorBytes ≤ maxBytes := by decide
  -- What is left of a budget is stored as a signed 64-bit integer.
  signed : maxBytes < 2 ^ 63 := by decide

/-- The rest of a ledger: `target` is what the rate and the RTT samples come to, once
there are any. -/
structure Estimate where
  target : Option Nat := none
  probing : Bool := false
  deriving DecidableEq

def budget (config : GateConfig) (ledger : Ledger) (estimate : Estimate) : Nat :=
  if ledger.phase ≠ .active then config.floorBytes
  else match estimate.target with
    | none => config.floorBytes
    | some bytes => if config.maxBytes ≤ bytes then config.maxBytes else max config.floorBytes bytes

def kHintSlots : Nat := 4096

/-- The gate with its estimates, its hints (no entry is `kOpen`), and the keys on
toxcore's friend list. -/
structure HintWorld (Key : Type) where
  gate : World Key
  estimates : Key → Estimate := fun _ => {}
  hints : Nat → Option Int := fun _ => none
  friends : List Key := []

/-- New samples, the clock, and what they decide. -/
structure HintChoice where
  gate : GateChoice := {}
  target : Option Nat := none
  aged : Bool := false
  startsProbe : Bool := false
  probeReleased : Bool := false
  deriving DecidableEq

/-- The parts of a lossless packet the gate looks at. -/
structure Peek where
  rawType : UInt8
  tunnelId : UInt16
  payload : Bytes
  deriving DecidableEq

def peek : Bytes → Option Peek
  | lossless :: rawType :: idHigh :: idLow :: lengthHigh :: lengthLow :: rest =>
      let length := lengthHigh.toNat <<< 8 ||| lengthLow.toNat
      if lossless ≠ kLosslessPacketByte ∨ rest.length < length then none
      else some ⟨rawType, UInt16.ofNat (idHigh.toNat <<< 8 ||| idLow.toNat), rest.take length⟩
  | _ => none

/-- What `admit` would accept right now. -/
def room (config : GateConfig) (ledger : Ledger) (estimate : Estimate) : Option Int :=
  if ledger.phase = .legacy then none
  else if estimate.probing then some (-1)
  else if 0 < ledger.emitted - ledger.delivered then
    if budget config ledger estimate ≤ ledger.emitted - ledger.delivered then some 0
    else some (budget config ledger estimate - (ledger.emitted - ledger.delivered))
  else none

def HintWorld.publishHint (config : GateConfig) (world : HintWorld Key) (key : Key) :
    HintWorld Key :=
  match world.gate.ledgers key with
  | none => world
  | some ledger =>
      if kHintSlots ≤ ledger.friendNumber then world
      else
        { world with
          hints := Function.update world.hints ledger.friendNumber
            (room config ledger (world.estimates key)) }

/-- The admission of DATA, with the ledger's own budget. -/
def admitsNow (config : GateConfig) (ledger : Ledger) (estimate : Estimate) (size : Nat) : Bool :=
  admits { budget := budget config ledger estimate, probing := estimate.probing } ledger size

def HintWorld.admit (config : GateConfig) (world : HintWorld Key) (number : Nat) (packet : Bytes) :
    Bool :=
  match peek packet with
  | none => true
  | some peeked =>
      if peeked.rawType ≠ FrameType.tunnelData.raw then true
      else match world.gate.ledgerFor number with
        | none => true
        | some (_, key, ledger) => admitsNow config ledger (world.estimates key) packet.length

def HintWorld.fastReject (world : HintWorld Key) (number : Nat) (packet : Bytes) : Bool :=
  if kHintSlots ≤ number ∨ packet.length < 2 ∨ packet[0]? ≠ some kLosslessPacketByte ∨
      packet[1]? ≠ some FrameType.tunnelData.raw then false
  else match world.hints number with
    | none => false
    | some room => !decide ((packet.length : Int) ≤ room)

/-- DATA that is refused publishes the hint; DATA that is accepted does not. -/
def HintWorld.sendData (config : GateConfig) (world : HintWorld Key) (choice : HintChoice)
    (number size : Nat) : HintWorld Key :=
  match world.gate.ledgerFor number with
  | none => world
  | some (gate, key, ledger) =>
      let estimate := world.estimates key
      let choice :=
        { choice.gate with
          budget := budget config ledger estimate
          probing := estimate.probing }
      if admits choice ledger size then
        { world with gate := world.gate.sendData choice number size }
      else { world with gate }.publishHint config key

/-- Whether a PONG credits the ledger or ends its detection. -/
def reports (ledger : Ledger) : Pong → Bool
  | .empty => decide (ledger.phase = .bootstrap ∧ ledger.entries ≠ [] ∧
      ledger.emptyPingsSent < ledger.emptyPongsReceived + 1)
  | .echo epoch seq => decide (epoch = ledger.epoch) && (settle seq ledger.entries).isSome
  | .unknown => false

def Estimate.received (estimate : Estimate) (choice : HintChoice) : Pong → Estimate
  | .empty => { estimate with probing := false }
  | .echo _ _ => { estimate with target := choice.target }
  | .unknown => estimate

def HintWorld.receive (config : GateConfig) (world : HintWorld Key) (choice : HintChoice)
    (number : Nat) (pong : Pong) : HintWorld Key :=
  let after := { world with gate := world.gate.receive number pong }
  match world.gate.ledgerFor number with
  | none => after
  | some (_, key, ledger) =>
      if reports ledger pong then
        { after with
          estimates := Function.update world.estimates key
            ((world.estimates key).received choice pong) }.publishHint config key
      else after

/-- An old rate is forgotten; a probe starts on demand and ends on an empty pipe. -/
def Estimate.ticked (estimate : Estimate) (choice : HintChoice) (ledger : Ledger) : Estimate where
  target := if choice.aged then none else estimate.target
  probing :=
    if estimate.probing then !(choice.probeReleased && ledger.delivered == ledger.emitted)
    else decide (ledger.phase = .active) && choice.startsProbe

def HintWorld.tick (config : GateConfig) (world : HintWorld Key) (choice : HintChoice) (key : Key) :
    HintWorld Key :=
  match world.gate.ledgers key with
  | none => world
  | some ledger =>
      let estimate := world.estimates key
      if ledger.phase = .legacy then world
      else if world.gate.numberToKey ledger.friendNumber ≠ some key then world
      else if ledger.phase = .bootstrap ∧ ledger.firstFenced = true ∧ choice.gate.timedOut = true then
        { world with
          gate := world.gate.tick choice.gate key
          estimates := Function.update world.estimates key { estimate with probing := false }
        }.publishHint config key
      else
        let world :=
          { world with
            estimates := Function.update world.estimates key (estimate.ticked choice ledger)
          }.publishHint config key
        { world with gate := world.gate.tick choice.gate key }

def HintWorld.forgetHint (world : HintWorld Key) (number : Nat) : HintWorld Key :=
  { world with hints := Function.update world.hints number none }

/-- `tox_friend_add` refuses a key that is on the friend list. -/
def HintWorld.addFriend (world : HintWorld Key) (number : Nat) (key : Key) : HintWorld Key :=
  if key ∈ world.friends ∨ world.gate.roster number ≠ none then world
  else
    { world with
      gate := world.gate.addFriend number key
      friends := key :: world.friends }.forgetHint number

def HintWorld.removeFriend (world : HintWorld Key) (number : Nat) : HintWorld Key :=
  match world.gate.roster number with
  | none => world
  | some key =>
      { world with
        gate := world.gate.removeFriend number
        friends := world.friends.filter fun other => other ≠ key }.forgetHint number

def applyHinted (config : GateConfig) (choice : HintChoice) (world : HintWorld Key) :
    GateOp Key → HintWorld Key
  | .sendData number size => world.sendData config choice number size
  | .sendKeepalive number => { world with gate := world.gate.sendKeepalive choice.gate number }
  | .receive number pong => world.receive config choice number pong
  | .connected number => { world with gate := world.gate.connected number }
  | .tick key => world.tick config choice key
  | .deliver key => { world with gate := world.gate.deliver key }
  | .reset key => { world with gate := world.gate.reset key }
  | .addFriend number key => world.addFriend number key
  | .removeFriend number => world.removeFriend number

/-- Every call but `fast_reject` holds the adapter's mutex, so it is one step. -/
def hintProgram (config : GateConfig) :
    Program (HintWorld Key) (GateOp Key) (GateOp Key) HintChoice where
  start op := [op]
  exec choice world op := (applyHinted config choice world op, [])

def FreshHints (world : HintWorld Key) : Prop := ∃ seed, world = { gate := { seed := seed } }

end Model

section Ledgers
variable {config : GateConfig} {ledger : Ledger} {estimate : Estimate}

/-- The books of a ledger never run below zero. -/
structure Tidy (ledger : Ledger) : Prop where
  covered : ledger.delivered ≤ ledger.emitted
  snapshots : ∀ range ∈ ledger.entries, range.snapshot ≤ ledger.emitted

/-- Whatever the second ledger admits, the first one would admit. -/
def Stricter (config : GateConfig) (before : Ledger) (estimate : Estimate) (after : Ledger) : Prop :=
  ∀ size, admitsNow config after estimate size = true → admitsNow config before estimate size = true

theorem budget_congr {other : Ledger} (phase : other.phase = ledger.phase) :
    budget config other estimate = budget config ledger estimate := by
  simp only [budget, phase]

theorem floor_le_budget : config.floorBytes ≤ budget config ledger estimate := by
  have ordered := config.floor_le_max
  unfold budget
  split
  · exact Nat.le_refl _
  · split
    · exact Nat.le_refl _
    · split
      · exact ordered
      · exact Nat.le_max_left _ _

theorem admitted_le_room {size : Nat} {left : Int} (closed : room config ledger estimate = some left)
    (admitted : admitsNow config ledger estimate size = true) : (size : Int) ≤ left := by
  simp only [admitsNow, admits, Bool.or_eq_true, decide_eq_true_eq, Bool.and_eq_true,
    Bool.not_eq_true', beq_iff_eq, decide_eq_true_eq] at admitted
  unfold room at closed
  split at closed
  · cases closed
  · next gated =>
      rcases admitted with legacy | ⟨idle, fits⟩
      · exact absurd legacy gated
      · rw [idle] at closed
        simp only [Bool.false_eq_true, if_false] at closed
        split at closed
        · next pending =>
            have fits := fits.resolve_left (by omega)
            split at closed <;> cases closed <;> omega
        · cases closed

theorem stricter_emitted {after : Ledger} (phase : after.phase = ledger.phase)
    (emitted : ledger.emitted ≤ after.emitted) (delivered : after.delivered = ledger.delivered) :
    Stricter config ledger estimate after := by
  intro size admitted
  simp only [admitsNow, admits, Bool.or_eq_true, decide_eq_true_eq, Bool.and_eq_true,
    Bool.not_eq_true', beq_iff_eq, decide_eq_true_eq, budget_congr phase, phase, delivered]
    at admitted ⊢
  rcases admitted with legacy | ⟨idle, fits⟩
  · exact .inl legacy
  · refine .inr ⟨idle, ?_⟩
    omega

theorem stricter_bootstrap {after : Ledger} (phase : after.phase = .bootstrap)
    (emitted : after.emitted = ledger.emitted) (delivered : after.delivered = ledger.delivered) :
    Stricter config ledger estimate after := by
  intro size admitted
  have floor : config.floorBytes ≤ budget config ledger estimate := floor_le_budget
  have lowered : budget config after estimate = config.floorBytes := by simp [budget, phase]
  simp only [admitsNow, admits, Bool.or_eq_true, decide_eq_true_eq, Bool.and_eq_true,
    Bool.not_eq_true', beq_iff_eq, decide_eq_true_eq, lowered, phase, emitted, delivered,
    reduceCtorEq, false_or] at admitted ⊢
  refine .inr ⟨admitted.1, ?_⟩
  omega

theorem stricter_rearm : Stricter config ledger estimate ledger.rearm := by
  unfold Ledger.rearm
  split
  · exact fun _ => id
  · exact stricter_bootstrap rfl rfl rfl

theorem Tidy.rearm (tidy : Tidy ledger) : Tidy ledger.rearm := by
  unfold Ledger.rearm
  split
  · exact tidy
  · exact ⟨tidy.covered, tidy.snapshots⟩

theorem Tidy.emitted (tidy : Tidy ledger) (size : Nat) :
    Tidy { ledger with emitted := ledger.emitted + size } :=
  ⟨Nat.le_add_right_of_le tidy.covered,
    fun range member => Nat.le_add_right_of_le (tidy.snapshots range member)⟩

theorem extendEntries_snapshots {entries : List Range} {seq emitted : Nat}
    (bounded : ∀ range ∈ entries, range.snapshot ≤ emitted) :
    ∀ range ∈ extendEntries entries seq emitted, range.snapshot ≤ emitted := by
  unfold extendEntries
  split
  next back last =>
    split
    next same =>
      simp only [List.mem_append, List.mem_singleton]
      rintro range (older | rfl)
      · exact bounded range (List.dropLast_subset _ older)
      · exact same.le
    next =>
      simp only [List.mem_append, List.mem_singleton]
      rintro range (older | rfl)
      · exact bounded range older
      · exact Nat.le_refl _
  next =>
    simp only [List.mem_singleton]
    rintro range rfl
    exact Nat.le_refl _

theorem Tidy.fenced (tidy : Tidy ledger) : Tidy ledger.fenced := by
  refine ⟨tidy.covered, ?_⟩
  intro range member
  obtain ⟨sublist, -⟩ := recorded_entries { ledger with nextSeq := ledger.nextSeq + 1 } ledger.nextSeq
  exact extendEntries_snapshots tidy.snapshots range (sublist.subset member)

theorem onReceived_quiet {pong : Pong} (quiet : reports ledger pong = false) :
    (ledger.onReceived pong).phase = ledger.phase ∧
      (ledger.onReceived pong).emitted = ledger.emitted ∧
      (ledger.onReceived pong).delivered = ledger.delivered := by
  cases pong with
  | empty =>
      simp only [reports, decide_eq_false_iff_not] at quiet
      simp only [Ledger.onReceived, if_neg quiet, and_self]
  | echo epoch seq =>
      unfold Ledger.onReceived
      split
      next pong => cases pong
      next other same =>
        cases same
        by_cases own : epoch = ledger.epoch
        · simp only [reports, own, decide_true, Bool.true_and, Option.isSome_eq_false_iff,
            Option.isNone_iff_eq_none] at quiet
          simp [own, quiet]
        · simp [own]
      next pong => cases pong
  | unknown => exact ⟨rfl, rfl, rfl⟩

theorem onReceived_friendNumber (pong : Pong) :
    (ledger.onReceived pong).friendNumber = ledger.friendNumber := by
  unfold Ledger.onReceived
  split
  · dsimp only
    split <;> rfl
  · split
    · rfl
    · split <;> rfl
  · rfl

theorem Tidy.received (tidy : Tidy ledger) (pong : Pong) : Tidy (ledger.onReceived pong) := by
  unfold Ledger.onReceived
  split
  · dsimp only
    split
    · exact ⟨tidy.covered, nofun⟩
    · exact ⟨tidy.covered, tidy.snapshots⟩
  · split
    · exact tidy
    · split
      · exact tidy
      next matched rest settled =>
        obtain ⟨member, suffix, -⟩ := settle_some settled
        constructor
        · exact Nat.max_le.mpr ⟨tidy.covered, tidy.snapshots _ member⟩
        · exact fun range later => tidy.snapshots _ (suffix.subset later)
  · exact tidy

end Ledgers

section Run
variable {Key : Type} [DecidableEq Key] {config : GateConfig} {world : HintWorld Key}

/-- A hint covers the ledger of the key that its number names. -/
structure Hinted (config : GateConfig) (world : HintWorld Key) : Prop where
  listed : ∀ number key, world.gate.roster number = some key → key ∈ world.friends
  unique : ∀ first second key, world.gate.roster first = some key →
    world.gate.roster second = some key → first = second
  cached : ∀ number key, world.gate.numberToKey number = some key →
    world.gate.roster number = some key
  tidy : ∀ key ledger, world.gate.ledgers key = some ledger → Tidy ledger
  covers : ∀ number left, world.hints number = some left → number < kHintSlots ∧
    ∃ key ledger, world.gate.numberToKey number = some key ∧
      world.gate.ledgers key = some ledger ∧
      ∀ size, admitsNow config ledger (world.estimates key) size = true → (size : Int) ≤ left

theorem Hinted.stricter (hinted : Hinted config world) (gate : World Key) {key : Key}
    {old next : Ledger} (roster : gate.roster = world.gate.roster)
    (cache : gate.numberToKey = world.gate.numberToKey)
    (ledgers : gate.ledgers = Function.update world.gate.ledgers key (some next))
    (there : world.gate.ledgers key = some old) (tidy : Tidy old → Tidy next)
    (stricter : Stricter config old (world.estimates key) next) :
    Hinted config { world with gate } := by
  constructor
  · rw [roster]
    exact hinted.listed
  · rw [roster]
    exact hinted.unique
  · rw [roster, cache]
    exact hinted.cached
  · intro other ledger found
    rw [ledgers] at found
    by_cases same : other = key
    · subst same
      rw [Function.update_self] at found
      cases found
      exact tidy (hinted.tidy _ _ there)
    · rw [Function.update_of_ne same] at found
      exact hinted.tidy other ledger found
  · intro number left closed
    obtain ⟨slot, other, ledger, named, found, covers⟩ := hinted.covers number left closed
    refine ⟨slot, other, ?_⟩
    rw [cache, ledgers]
    by_cases same : other = key
    · subst same
      rw [there] at found
      cases found
      exact ⟨next, named, Function.update_self .., fun size admitted =>
        covers size (stricter size admitted)⟩
    · exact ⟨ledger, named, by rw [Function.update_of_ne same, found], covers⟩

theorem Hinted.published (hinted : Hinted config world) (gate : World Key) {key : Key}
    {next : Ledger} (roster : gate.roster = world.gate.roster)
    (cache : gate.numberToKey = world.gate.numberToKey)
    (ledgers : gate.ledgers = Function.update world.gate.ledgers key (some next)) (tidy : Tidy next)
    (named : gate.numberToKey next.friendNumber = some key) (estimate : Estimate) :
    Hinted config ({ world with
      gate, estimates := Function.update world.estimates key estimate }.publishHint config key) := by
  have there : gate.ledgers key = some next := by rw [ledgers, Function.update_self]
  have books : ∀ other ledger, gate.ledgers other = some ledger → Tidy ledger := by
    intro other ledger found
    rw [ledgers] at found
    by_cases same : other = key
    · subst same
      rw [Function.update_self] at found
      cases found
      exact tidy
    · rw [Function.update_of_ne same] at found
      exact hinted.tidy other ledger found
  -- The other hints: their numbers name other keys.
  have others : ∀ number left, number ≠ next.friendNumber → world.hints number = some left →
      number < kHintSlots ∧ ∃ key' ledger, gate.numberToKey number = some key' ∧
        gate.ledgers key' = some ledger ∧
        ∀ size, admitsNow config ledger (Function.update world.estimates key estimate key') size = true →
          (size : Int) ≤ left := by
    intro number left distinct closed
    obtain ⟨slot, other, ledger, name, found, covers⟩ := hinted.covers number left closed
    have apart : other ≠ key := by
      rintro rfl
      rw [cache] at named
      exact distinct (hinted.unique _ _ _ (hinted.cached _ _ name) (hinted.cached _ _ named))
    refine ⟨slot, other, ledger, by rw [cache, name], ?_, ?_⟩
    · rw [ledgers, Function.update_of_ne apart, found]
    · rw [Function.update_of_ne apart]
      exact covers
  unfold HintWorld.publishHint
  simp only [there]
  split
  · next far =>
      refine ⟨roster ▸ hinted.listed, roster ▸ hinted.unique, ?_, books, ?_⟩
      · rw [roster, cache]
        exact hinted.cached
      · intro number left closed
        refine others number left ?_ closed
        rintro rfl
        have slot := (hinted.covers _ _ closed).1
        omega
  · next near =>
      refine ⟨roster ▸ hinted.listed, roster ▸ hinted.unique, ?_, books, ?_⟩
      · rw [roster, cache]
        exact hinted.cached
      · intro number left closed
        by_cases same : number = next.friendNumber
        · subst same
          simp only [Function.update_self] at closed
          refine ⟨Nat.not_le.mp near, key, next, named, there, ?_⟩
          intro size admitted
          simp only [Function.update_self] at admitted
          exact admitted_le_room closed admitted
        · simp only [Function.update_of_ne same] at closed
          exact others number left same closed

omit [DecidableEq Key] in
theorem publishHint_gate (config : GateConfig) (world : HintWorld Key) (key : Key) :
    (world.publishHint config key).gate = world.gate := by
  unfold HintWorld.publishHint
  split
  · rfl
  · split <;> rfl

theorem Hinted.looked (hinted : Hinted config world) {number : Nat} {found : World Key} {key : Key}
    {ledger : Ledger} (looked : world.gate.ledgerFor number = some (found, key, ledger)) :
    Hinted config { world with gate := found } := by
  obtain ⟨name, roster, cache, ledgers, friendNumber, old⟩ := ledgerFor_fields looked
  constructor
  · rw [roster]
    exact hinted.listed
  · rw [roster]
    exact hinted.unique
  · exact (ledgerFor_cached hinted.cached looked).2
  · intro other ledger' there
    rw [ledgers] at there
    by_cases same : other = key
    · subst same
      rw [Function.update_self] at there
      cases there
      rcases old with ⟨before, was, rfl⟩ | ⟨-, epoch, rfl⟩
      · have tidy := hinted.tidy _ _ was
        exact ⟨tidy.covered, tidy.snapshots⟩
      · exact ⟨Nat.le_refl _, nofun⟩
    · rw [Function.update_of_ne same] at there
      exact hinted.tidy other ledger' there
  · intro other left closed
    obtain ⟨slot, key', ledger', named, there, covers⟩ := hinted.covers other left closed
    refine ⟨slot, key', ?_⟩
    have kept : found.numberToKey other = some key' := by
      rw [cache]
      by_cases same : other = number
      · subst same
        rw [named] at name
        rw [Function.update_self]
        exact name.symm
      · rw [Function.update_of_ne same, named]
    by_cases same : key' = key
    · subst same
      rcases old with ⟨before, was, rfl⟩ | ⟨absent, -⟩
      · rw [was] at there
        cases there
        exact ⟨_, kept, (congrFun ledgers key').trans (Function.update_self ..), covers⟩
      · rw [absent] at there
        cases there
    · exact ⟨ledger', kept, by rw [ledgers, Function.update_of_ne same, there], covers⟩

omit [DecidableEq Key] in
theorem Hinted.congr (hinted : Hinted config world) {gate : World Key}
    (roster : gate.roster = world.gate.roster) (cache : gate.numberToKey = world.gate.numberToKey)
    (ledgers : gate.ledgers = world.gate.ledgers) : Hinted config { world with gate } := by
  constructor
  · exact roster ▸ hinted.listed
  · exact roster ▸ hinted.unique
  · rw [roster, cache]
    exact hinted.cached
  · exact ledgers ▸ hinted.tidy
  · rw [cache, ledgers]
    exact hinted.covers

omit [DecidableEq Key] in
theorem Hinted.forgotten (hinted : Hinted config world) {gate : World Key} {friends : List Key}
    {number : Nat} (listed : ∀ other key, gate.roster other = some key → key ∈ friends)
    (unique : ∀ first second key, gate.roster first = some key → gate.roster second = some key →
      first = second)
    (roster : ∀ other, other ≠ number → gate.roster other = world.gate.roster other)
    (cache : gate.numberToKey = Function.update world.gate.numberToKey number none)
    (ledgers : gate.ledgers = world.gate.ledgers) :
    Hinted config ({ world with gate, friends }.forgetHint number) := by
  refine ⟨listed, unique, ?_, ledgers ▸ hinted.tidy, ?_⟩
  · intro other key cached
    change gate.numberToKey other = some key at cached
    rw [cache] at cached
    by_cases same : other = number
    · subst same
      rw [Function.update_self] at cached
      cases cached
    · rw [Function.update_of_ne same] at cached
      exact (roster other same).trans (hinted.cached other key cached)
  · intro other left closed
    change Function.update world.hints number none other = some left at closed
    by_cases same : other = number
    · subst same
      rw [Function.update_self] at closed
      cases closed
    · rw [Function.update_of_ne same] at closed
      obtain ⟨slot, key, ledger, named, there, covers⟩ := hinted.covers other left closed
      refine ⟨slot, key, ledger, ?_, by rw [← there]; exact congrFun ledgers key, covers⟩
      exact (congrFun cache other).trans ((Function.update_of_ne same ..).trans named)

theorem sendData_hinted (hinted : Hinted config world) (choice : HintChoice) (number size : Nat) :
    Hinted config (world.sendData config choice number size) := by
  unfold HintWorld.sendData
  split
  · exact hinted
  next found key ledger looked =>
    have settled := hinted.looked looked
    obtain ⟨name, -, cache, ledgers, friendNumber, -⟩ := ledgerFor_fields looked
    have there : found.ledgers key = some ledger := by rw [ledgers, Function.update_self]
    dsimp only
    split
    next admitted =>
      unfold World.sendData
      simp only [looked, admitted, Bool.true_and]
      split
      · obtain ⟨roster, kept, same⟩ := transmit_fields found number (.data size)
        have put : ((found.transmit number (.data size)).put key
            { ledger with emitted := ledger.emitted + size }).ledgers =
              Function.update found.ledgers key
                (some { ledger with emitted := ledger.emitted + size }) := by
          rw [World.put, same]
        split
        · obtain ⟨roster', kept', fenced⟩ := sendFence_fields
            ((found.transmit number (.data size)).put key
              { ledger with emitted := ledger.emitted + size }) key
            { ledger with emitted := ledger.emitted + size } choice.gate.acceptsFence
          rw [put, Function.update_idem] at fenced
          rcases fenced with same' | fenced
          · refine settled.stricter _ (roster'.trans roster) (kept'.trans kept) same' there ?_ ?_
            · exact fun tidy => tidy.emitted size
            · exact stricter_emitted rfl (Nat.le_add_right _ _) rfl
          · refine settled.stricter _ (roster'.trans roster) (kept'.trans kept) fenced there ?_ ?_
            · exact fun tidy => (tidy.emitted size).fenced
            · exact stricter_emitted rfl (Nat.le_add_right _ _) rfl
        · refine settled.stricter _ roster kept put there ?_ ?_
          · exact fun tidy => tidy.emitted size
          · exact stricter_emitted rfl (Nat.le_add_right _ _) rfl
      · exact settled
    next refused =>
      have named : found.numberToKey ledger.friendNumber = some key := by
        rw [cache, friendNumber, Function.update_self]
      have published := settled.published found rfl rfl
        (by rw [← there, Function.update_eq_self]) (settled.tidy key ledger there) named
        (world.estimates key)
      rwa [Function.update_eq_self] at published

theorem receive_hinted (hinted : Hinted config world) (choice : HintChoice) (number : Nat)
    (pong : Pong) : Hinted config (world.receive config choice number pong) := by
  unfold HintWorld.receive World.receive
  split
  next unknown => simpa only [unknown] using hinted
  next found key ledger looked =>
    have settled := hinted.looked looked
    obtain ⟨name, -, cache, ledgers, friendNumber, -⟩ := ledgerFor_fields looked
    have there : found.ledgers key = some ledger := by rw [ledgers, Function.update_self]
    simp only [looked]
    split
    next reported =>
      have named : found.numberToKey (ledger.onReceived pong).friendNumber = some key := by
        rw [onReceived_friendNumber, friendNumber, cache, Function.update_self]
      exact settled.published (found.put key (ledger.onReceived pong)) rfl rfl rfl
        ((settled.tidy key ledger there).received pong) named _
    next quiet =>
      obtain ⟨phase, emitted, delivered⟩ := onReceived_quiet (Bool.eq_false_of_not_eq_true quiet)
      exact settled.stricter (found.put key (ledger.onReceived pong)) rfl rfl rfl there
        (fun tidy => tidy.received pong) (stricter_emitted phase emitted.ge delivered)

theorem tick_hinted (hinted : Hinted config world) (choice : HintChoice) (key : Key) :
    Hinted config (world.tick config choice key) := by
  unfold HintWorld.tick
  split
  · exact hinted
  next ledger there =>
    dsimp only
    split
    · exact hinted
    next gated =>
      split
      · exact hinted
      next stale =>
        have named : world.gate.numberToKey ledger.friendNumber = some key := by simpa using stale
        have tidy := hinted.tidy key ledger there
        split
        next timedOut =>
          have ticked : world.gate.tick choice.gate key = world.gate.put key ledger.enterLegacy := by
            unfold World.tick
            rw [there]
            dsimp only
            rw [if_neg gated, if_neg stale, if_pos timedOut]
          rw [ticked]
          exact hinted.published (world.gate.put key ledger.enterLegacy) rfl rfl rfl
            ⟨tidy.covered, nofun⟩ named _
        next waiting =>
          have published := hinted.published world.gate rfl rfl
            (by rw [← there, Function.update_eq_self]) tidy named
            ((world.estimates key).ticked choice ledger)
          rw [publishHint_gate]
          have ticked : world.gate.tick choice.gate key = world.gate ∨
              world.gate.tick choice.gate key =
                world.gate.sendFence key ledger choice.gate.acceptsFence := by
            unfold World.tick
            rw [there]
            dsimp only
            rw [if_neg gated, if_neg stale, if_neg waiting]
            split
            · exact .inr rfl
            · exact .inl rfl
          rcases ticked with same | fence
          · exact published.congr (by rw [same, publishHint_gate]) (by rw [same, publishHint_gate])
              (by rw [same, publishHint_gate])
          · obtain ⟨roster, cache, ledgers⟩ := sendFence_fields world.gate key ledger
              choice.gate.acceptsFence
            rw [← fence] at roster cache ledgers
            rcases ledgers with same | fenced
            · exact published.congr (by rw [roster, publishHint_gate])
                (by rw [cache, publishHint_gate]) (by rw [same, publishHint_gate])
            · refine published.stricter _ (by rw [roster, publishHint_gate])
                (by rw [cache, publishHint_gate]) (by rw [fenced, publishHint_gate])
                (by rw [publishHint_gate, there]) (fun tidy => tidy.fenced) ?_
              exact stricter_emitted rfl (Nat.le_refl _) rfl

theorem applyHinted_hinted (hinted : Hinted config world) (choice : HintChoice) (op : GateOp Key) :
    Hinted config (applyHinted config choice world op) := by
  cases op with
  | sendData number size => exact sendData_hinted hinted choice number size
  | receive number pong => exact receive_hinted hinted choice number pong
  | tick key => exact tick_hinted hinted choice key
  | sendKeepalive number =>
      simp only [applyHinted, World.sendKeepalive]
      split
      · obtain ⟨roster, cache, ledgers⟩ := transmit_fields world.gate number .keepalive
        have sent := hinted.congr roster cache ledgers
        split
        · exact hinted
        next found key ledger looked =>
          have there : found.ledgers key = some ledger := by
            rw [(ledgerFor_fields looked).2.2.2.1, Function.update_self]
          exact (sent.looked looked).stricter _ rfl rfl rfl there
            (fun tidy => ⟨tidy.covered, tidy.snapshots⟩) (stricter_emitted rfl (Nat.le_refl _) rfl)
      · exact hinted
  | connected number =>
      simp only [applyHinted, World.connected]
      split
      · exact hinted
      next found key ledger looked =>
        have there : found.ledgers key = some ledger := by
          rw [(ledgerFor_fields looked).2.2.2.1, Function.update_self]
        exact (hinted.looked looked).stricter _ rfl rfl rfl there (fun tidy => tidy.rearm)
          stricter_rearm
  | deliver key =>
      simp only [applyHinted, World.deliver]
      split
      · exact hinted
      · exact hinted.congr rfl rfl rfl
  | reset key => exact hinted.congr rfl rfl rfl
  | addFriend number key =>
      simp only [applyHinted, HintWorld.addFriend]
      split
      · exact hinted
      next free =>
        rw [not_or, not_not] at free
        have roster : (world.gate.addFriend number key).roster =
            Function.update world.gate.roster number (some key) := by
          simp only [World.addFriend, free.2, if_true]
          rfl
        have fresh : ∀ other, world.gate.roster other ≠ some key :=
          fun other taken => free.1 (hinted.listed other key taken)
        refine hinted.forgotten ?_ ?_ ?_ ?_ ?_
        · intro other key' named
          rw [roster] at named
          by_cases same : other = number
          · subst same
            rw [Function.update_self] at named
            cases named
            exact List.mem_cons_self
          · rw [Function.update_of_ne same] at named
            exact List.mem_cons_of_mem _ (hinted.listed other key' named)
        · intro first second key' one two
          rw [roster] at one two
          by_cases here : first = number <;> by_cases there : second = number
          · rw [here, there]
          · rw [here, Function.update_self] at one
            rw [Function.update_of_ne there] at two
            cases one
            exact absurd two (fresh second)
          · rw [there, Function.update_self] at two
            rw [Function.update_of_ne here] at one
            cases two
            exact absurd one (fresh first)
          · rw [Function.update_of_ne here] at one
            rw [Function.update_of_ne there] at two
            exact hinted.unique first second key' one two
        · intro other apart
          rw [roster, Function.update_of_ne apart]
        · simp only [World.addFriend, free.2, if_true]
          rfl
        · simp only [World.addFriend, free.2, if_true]
          rfl
  | removeFriend number =>
      simp only [applyHinted, HintWorld.removeFriend]
      split
      · exact hinted
      next key route =>
        have roster : (world.gate.removeFriend number).roster =
            Function.update world.gate.roster number none := by
          simp only [World.removeFriend, route]
          rfl
        have kept : ∀ other key', (world.gate.removeFriend number).roster other = some key' →
            other ≠ number ∧ world.gate.roster other = some key' := by
          intro other key' named
          rw [roster] at named
          by_cases same : other = number
          · subst same
            rw [Function.update_self] at named
            cases named
          · rw [Function.update_of_ne same] at named
            exact ⟨same, named⟩
        refine hinted.forgotten ?_ ?_ ?_ ?_ ?_
        · intro other key' named
          obtain ⟨apart, before⟩ := kept other key' named
          refine List.mem_filter.mpr ⟨hinted.listed other key' before, ?_⟩
          apply decide_eq_true
          rintro rfl
          exact apart (hinted.unique other number key' before route)
        · intro first second key' one two
          exact hinted.unique first second key' (kept first key' one).2 (kept second key' two).2
        · intro other apart
          rw [roster, Function.update_of_ne apart]
        · simp only [World.removeFriend, route]
          rfl
        · simp only [World.removeFriend, route]
          rfl

theorem reach_hinted {state : Config (HintWorld Key) (GateOp Key)}
    (reached : Reach (hintProgram config) always FreshHints state) : Hinted config state.shared := by
  apply Reach.bag_invariant (fun world _ => Hinted config world) _ _ _ reached
  · rintro world ⟨seed, rfl⟩
    exact ⟨nofun, nofun, nofun, nofun, nofun⟩
  · intro world bag op hinted _
    exact hinted
  · intro choice world op others hinted _
    exact applyHinted_hinted hinted choice op

theorem ledgerFor_known {gate : World Key} {number : Nat} {key : Key} {ledger : Ledger}
    (named : gate.numberToKey number = some key) (there : gate.ledgers key = some ledger) :
    ∃ found, gate.ledgerFor number = some (found, key, { ledger with friendNumber := number }) := by
  simp only [World.ledgerFor, named, Option.some_or, there]
  exact ⟨_, rfl⟩

/-- In every state of the gate, a well-formed DATA packet that the lock-free check
refuses would be refused by the ledger. -/
theorem fast_reject_sound {state : Config (HintWorld Key) (GateOp Key)}
    (reached : Reach (hintProgram config) always FreshHints state) {number : Nat} {packet : Bytes}
    {peeked : Peek} (wellFormed : peek packet = some peeked)
    (data : peeked.rawType = FrameType.tunnelData.raw)
    (refused : state.shared.fastReject number packet = true) :
    state.shared.admit config number packet = false := by
  have hinted := reach_hinted reached
  unfold HintWorld.fastReject at refused
  split at refused
  · cases refused
  · split at refused
    · cases refused
    next left closed =>
      obtain ⟨-, key, ledger, named, there, covers⟩ := hinted.covers number left closed
      obtain ⟨found, looked⟩ := ledgerFor_known named there
      simp only [ HintWorld.admit, wellFormed, data, ne_eq, not_true_eq_false, if_false, looked]
      rw [Bool.not_eq_true', decide_eq_false_iff_not] at refused
      apply Bool.eq_false_of_not_eq_true
      intro admitted
      exact refused (covers packet.length admitted)

/-- 100 bytes behind 10970 are refused; then seven bytes do not fit the hint. -/
theorem fast_reject_sound_refused :
    ∃ state : Config (HintWorld Nat) (GateOp Nat),
      Reach (hintProgram {}) always FreshHints state ∧
      state.shared.fastReject 0 [0xA0, 0x02, 0, 1, 0, 1, 9] = true ∧
      state.shared.admit {} 0 [0xA0, 0x02, 0, 1, 0, 1, 9] = false := by
  let ops : List (GateOp Nat) := [.addFriend 0 7, .sendData 0 10970, .sendData 0 100]
  let schedule : List (Event (GateOp Nat) HintChoice) := List.flatten
    [ops.map .call, (List.range 3).map fun thread => .run thread {}]
  have run := Reach.exists_of_replay (hintProgram {}) always FreshHints { gate := { seed := 5 } }
    schedule (fun state => state.shared.fastReject 0 [0xA0, 0x02, 0, 1, 0, 1, 9]) ⟨5, rfl⟩
    (by decide)
  obtain ⟨state, reached, refused⟩ := run
  exact ⟨state, reached, refused,
    fast_reject_sound reached
      (show peek [0xA0, 0x02, 0, 1, 0, 1, 9] = some ⟨0x02, 1, [9]⟩ by decide) rfl refused⟩

end Run

end ToxTunnel.FriendGateHint
