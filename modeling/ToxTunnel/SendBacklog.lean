import ToxTunnel.FriendGateHint

/-!
The backlog that the friend gate lets through. A packet is admitted into an empty pipe or
within the budget; so what is not echoed yet was admitted within the budget of now, but for
what was let through before the budget went down or while the friend was not gated.
-/

namespace ToxTunnel.SendBacklog
open Interleaving CheckedBytes FrameCodec FriendSendGate FriendGateHint

section Model
variable {Key : Type} [DecidableEq Key]

/-- The DATA that was accepted up to the last time the friend was ungated or its budget went
down, and the largest packet accepted. -/
structure Meter where
  early : Nat := 0
  largest : Nat := 0
  deriving DecidableEq

def emittedOf : Option Ledger → Nat
  | some ledger => ledger.emitted
  | none => 0

/-- Whether a step leaves Legacy, or leaves less of a budget. -/
def reduces (config : GateConfig) (before after : HintWorld Key) (key : Key) : Bool :=
  match before.gate.ledgers key, after.gate.ledgers key with
  | some old, some new =>
      old.phase = .legacy ||
        decide (budget config new (after.estimates key) < budget config old (before.estimates key))
  | _, _ => false

def Meter.step (config : GateConfig) (before after : HintWorld Key) (key : Key) (meter : Meter) :
    Meter where
  early :=
    if reduces config before after key then emittedOf (after.gate.ledgers key) else meter.early
  largest :=
    max meter.largest
      (emittedOf (after.gate.ledgers key) - emittedOf (before.gate.ledgers key))

/-- The gate, with a meter for each friend that only watches. -/
def meteredProgram (config : GateConfig) :
    Program (HintWorld Key × (Key → Meter)) (GateOp Key) (GateOp Key) HintChoice where
  start op := [op]
  exec choice state op :=
    let after := applyHinted config choice state.1 op
    ((after, fun key => (state.2 key).step config state.1 after key), [])

def FreshMeters (state : HintWorld Key × (Key → Meter)) : Prop :=
  FreshHints state.1 ∧ state.2 = fun _ => {}

end Model

section Steps
variable {Key : Type} [DecidableEq Key] {config : GateConfig} {before after : HintWorld Key}

/-- What one call does to the books of a ledger: nothing, or more is credited; or one packet
is admitted, by the budget that stays. -/
inductive Booked (config : GateConfig) (estimate after : Estimate) (old new : Ledger) : Prop where
  | credited (emitted : new.emitted = old.emitted) (delivered : old.delivered ≤ new.delivered)
  | sent (size : Nat) (phase : new.phase = old.phase) (kept : after = estimate)
      (delivered : new.delivered = old.delivered) (emitted : new.emitted = old.emitted + size)
      (admitted : admitsNow config old estimate size = true)

/-- A ledger with the books that this one has, or with empty ones where there is none yet. -/
def Was : Option Ledger → Ledger → Prop
  | some old, ledger =>
      ledger.phase = old.phase ∧ ledger.emitted = old.emitted ∧ ledger.delivered = old.delivered
  | none, ledger => ledger.phase = .bootstrap ∧ ledger.emitted = 0 ∧ ledger.delivered = 0

/-- Of every ledger after a call: what was booked since before it. -/
def Books (config : GateConfig) (before after : HintWorld Key) : Prop :=
  ∀ key new, after.gate.ledgers key = some new →
    ∃ old, Was (before.gate.ledgers key) old ∧
      Booked config (before.estimates key) (after.estimates key) old new

omit [DecidableEq Key] in
theorem Books.of_ledgers (same : after.gate.ledgers = before.gate.ledgers) :
    Books config before after := by
  intro key new found
  rw [same] at found
  refine ⟨new, ?_, .credited rfl (Nat.le_refl _)⟩
  rw [found]
  exact ⟨rfl, rfl, rfl⟩

theorem Books.put {key : Key} {old new : Ledger}
    (ledgers : after.gate.ledgers = Function.update before.gate.ledgers key (some new))
    (was : Was (before.gate.ledgers key) old)
    (booked : Booked config (before.estimates key) (after.estimates key) old new) :
    Books config before after := by
  intro other ledger found
  rw [ledgers] at found
  by_cases same : other = key
  · subst same
    rw [Function.update_self] at found
    cases found
    exact ⟨old, was, booked⟩
  · rw [Function.update_of_ne same] at found
    refine ⟨ledger, ?_, .credited rfl (Nat.le_refl _)⟩
    rw [found]
    exact ⟨rfl, rfl, rfl⟩

theorem looked_was {gate found : World Key} {number : Nat} {key : Key} {ledger : Ledger}
    (looked : gate.ledgerFor number = some (found, key, ledger)) :
    Was (gate.ledgers key) ledger ∧
      found.ledgers = Function.update gate.ledgers key (some ledger) := by
  obtain ⟨_, _, _, ledgers, _, ⟨old, there, rfl⟩ | ⟨absent, epoch, rfl⟩⟩ := ledgerFor_fields looked
  · rw [there]
    exact ⟨⟨rfl, rfl, rfl⟩, ledgers⟩
  · rw [absent]
    exact ⟨⟨rfl, rfl, rfl⟩, ledgers⟩

theorem Books.looked {number : Nat} {found : World Key} {key : Key} {ledger new : Ledger}
    (looked : before.gate.ledgerFor number = some (found, key, ledger))
    (ledgers : after.gate.ledgers = Function.update found.ledgers key (some new))
    (emitted : new.emitted = ledger.emitted) (delivered : ledger.delivered ≤ new.delivered) :
    Books config before after := by
  obtain ⟨was, there⟩ := looked_was looked
  rw [there, Function.update_idem] at ledgers
  exact .put ledgers was (.credited emitted delivered)

theorem onReceived_emitted (ledger : Ledger) (pong : Pong) :
    (ledger.onReceived pong).emitted = ledger.emitted := by
  unfold Ledger.onReceived
  split
  · dsimp only
    split <;> rfl
  · split
    · rfl
    · split <;> rfl
  · rfl

theorem sendData_books (world : HintWorld Key) (choice : HintChoice) (number size : Nat) :
    Books config world (world.sendData config choice number size) := by
  unfold HintWorld.sendData
  split
  · exact .of_ledgers rfl
  · next found key ledger looked =>
      obtain ⟨was, there⟩ := looked_was looked
      have idle : found.ledgers = Function.update found.ledgers key (some ledger) := by
        rw [there, Function.update_idem]
      dsimp only
      split
      · next admitted =>
          unfold World.sendData
          simp only [looked, admitted, Bool.true_and]
          split
          · obtain ⟨_, _, same⟩ := transmit_fields found number (.data size)
            have put : ((found.transmit number (.data size)).put key
                { ledger with emitted := ledger.emitted + size }).ledgers =
                  Function.update world.gate.ledgers key
                    (some { ledger with emitted := ledger.emitted + size }) := by
              rw [World.put, same, there, Function.update_idem]
            split
            · obtain ⟨_, _, fenced⟩ := sendFence_fields
                ((found.transmit number (.data size)).put key
                  { ledger with emitted := ledger.emitted + size }) key
                { ledger with emitted := ledger.emitted + size } choice.gate.acceptsFence
              rw [put, Function.update_idem] at fenced
              rcases fenced with kept | fenced
              · exact .put kept was (.sent size rfl rfl rfl rfl admitted)
              · exact .put fenced was (.sent size rfl rfl rfl rfl admitted)
            · exact .put put was (.sent size rfl rfl rfl rfl admitted)
          · exact .looked looked idle rfl (Nat.le_refl _)
      · apply Books.looked looked _ rfl (Nat.le_refl _)
        rw [publishHint_gate]
        exact idle

theorem receive_books (world : HintWorld Key) (choice : HintChoice) (number : Nat) (pong : Pong) :
    Books config world (world.receive config choice number pong) := by
  unfold HintWorld.receive World.receive
  split
  · next unknown =>
      simp only [unknown]
      exact .of_ledgers rfl
  · next found key ledger looked =>
      simp only [looked]
      split
      · apply Books.looked looked _ (onReceived_emitted ledger pong)
          (onReceived_delivered ledger pong).1
        rw [publishHint_gate]
        rfl
      · exact Books.looked looked rfl (onReceived_emitted ledger pong)
          (onReceived_delivered ledger pong).1

theorem gateTick_ledgers (gate : World Key) (choice : GateChoice) (key : Key) :
    (gate.tick choice key).ledgers = gate.ledgers ∨
      ∃ old new, gate.ledgers key = some old ∧
        (gate.tick choice key).ledgers = Function.update gate.ledgers key (some new) ∧
        new.emitted = old.emitted ∧ new.delivered = old.delivered := by
  unfold World.tick
  split
  · exact .inl rfl
  · next ledger there =>
      split
      · exact .inl rfl
      · split
        · exact .inl rfl
        · split
          · exact .inr ⟨ledger, ledger.enterLegacy, there, rfl, rfl, rfl⟩
          · split
            · obtain ⟨_, _, same | fenced⟩ := sendFence_fields gate key ledger choice.acceptsFence
              · exact .inl same
              · exact .inr ⟨ledger, ledger.fenced, there, fenced, rfl, rfl⟩
            · exact .inl rfl

theorem tick_books (world : HintWorld Key) (choice : HintChoice) (key : Key) :
    Books config world (world.tick config choice key) := by
  have gate : (world.tick config choice key).gate = world.gate ∨
      (world.tick config choice key).gate = world.gate.tick choice.gate key := by
    unfold HintWorld.tick
    split
    · exact .inl rfl
    · dsimp only
      split
      · exact .inl rfl
      · split
        · exact .inl rfl
        · split
          · rw [publishHint_gate]
            exact .inr rfl
          · rw [publishHint_gate]
            exact .inr rfl
  rcases gate with same | ticked
  · exact .of_ledgers (congrArg World.ledgers same)
  · rcases gateTick_ledgers world.gate choice.gate key with same | ⟨old, new, there, put, books⟩
    · exact .of_ledgers ((congrArg World.ledgers ticked).trans same)
    · have was : Was (world.gate.ledgers key) old := by
        rw [there]
        exact ⟨rfl, rfl, rfl⟩
      exact .put ((congrArg World.ledgers ticked).trans put) was (.credited books.1 books.2.ge)

theorem applyHinted_books (world : HintWorld Key) (choice : HintChoice) (op : GateOp Key) :
    Books config world (applyHinted config choice world op) := by
  cases op with
  | sendData number size => exact sendData_books world choice number size
  | receive number pong => exact receive_books world choice number pong
  | tick key => exact tick_books world choice key
  | sendKeepalive number =>
      simp only [applyHinted, World.sendKeepalive]
      split
      · obtain ⟨_, _, same⟩ := transmit_fields world.gate number .keepalive
        split
        · exact .of_ledgers rfl
        · next found key ledger looked =>
            obtain ⟨was, there⟩ := looked_was looked
            rw [same] at was there
            have put : (found.put key
                { ledger with emptyPingsSent := ledger.emptyPingsSent + 1 }).ledgers =
                  Function.update world.gate.ledgers key
                    (some { ledger with emptyPingsSent := ledger.emptyPingsSent + 1 }) := by
              rw [World.put, there, Function.update_idem]
            exact Books.put put was (.credited rfl (Nat.le_refl _))
      · exact .of_ledgers rfl
  | connected number =>
      simp only [applyHinted, World.connected]
      split
      · exact .of_ledgers rfl
      · next found key ledger looked =>
          obtain ⟨_, _, emitted, _, delivered⟩ := rearm_fields ledger
          exact Books.looked looked rfl emitted delivered.ge
  | deliver key =>
      simp only [applyHinted, World.deliver]
      split
      · exact .of_ledgers rfl
      · exact .of_ledgers rfl
  | reset key => exact .of_ledgers rfl
  | addFriend number key =>
      simp only [applyHinted, HintWorld.addFriend]
      split
      · exact .of_ledgers rfl
      · next free =>
          rw [not_or, not_not] at free
          simp only [World.addFriend, free.2, if_true]
          exact .of_ledgers rfl
  | removeFriend number =>
      simp only [applyHinted, HintWorld.removeFriend]
      split
      · exact .of_ledgers rfl
      · next key route =>
          simp only [World.removeFriend, route]
          exact .of_ledgers rfl

end Steps

section Bound
variable {Key : Type} [DecidableEq Key] {config : GateConfig}

/-- Of what was accepted since the budget last went down, no more than the budget, or than
one packet, is not echoed yet. -/
def Within (config : GateConfig) (world : HintWorld Key) (meters : Key → Meter) : Prop :=
  ∀ key ledger, world.gate.ledgers key = some ledger → ledger.phase ≠ .legacy →
    ledger.emitted ≤ max (meters key).early ledger.delivered +
      max (budget config ledger (world.estimates key)) (meters key).largest

/-- What the ledger admits fits the budget, or is one packet in an empty pipe. -/
theorem admitted_le {ledger : Ledger} {estimate : Estimate} {size : Nat}
    (gated : ledger.phase ≠ .legacy) (admitted : admitsNow config ledger estimate size = true) :
    ledger.emitted - ledger.delivered + size ≤ max size (budget config ledger estimate) := by
  simp only [admitsNow, admits, gated, decide_false, Bool.false_or, Bool.and_eq_true,
    Bool.not_eq_true', Bool.or_eq_true, beq_iff_eq, decide_eq_true_eq] at admitted
  rcases admitted.2 with empty | fits
  · rw [empty, Nat.zero_add]
    exact Nat.le_max_left _ _
  · exact fits.trans (Nat.le_max_right _ _)

theorem budget_le_max (ledger : Ledger) (estimate : Estimate) :
    budget config ledger estimate ≤ config.maxBytes := by
  have ordered := config.floor_le_max
  unfold budget
  split
  · exact ordered
  · split
    · exact ordered
    · split
      · exact Nat.le_refl _
      · next below => exact Nat.max_le.mpr ⟨ordered, (Nat.lt_of_not_le below).le⟩

omit [DecidableEq Key] in
theorem reduces_false {before after : HintWorld Key} {key : Key} {new : Ledger}
    (there : after.gate.ledgers key = some new)
    (kept : reduces config before after key = false) {old : Ledger}
    (found : before.gate.ledgers key = some old) :
    old.phase ≠ .legacy ∧
      budget config old (before.estimates key) ≤ budget config new (after.estimates key) := by
  simpa [reduces, found, there] using kept

omit [DecidableEq Key] in
theorem Within.step {before after : HintWorld Key} {meters : Key → Meter}
    (within : Within config before meters) (books : Books config before after) :
    Within config after fun key => (meters key).step config before after key := by
  intro key new there gated
  obtain ⟨old, was, booked⟩ := books key new there
  dsimp only [Meter.step]
  rw [there]
  simp only [emittedOf]
  by_cases reduced : reduces config before after key = true
  · rw [if_pos reduced]
    omega
  · rw [if_neg reduced]
    cases found : before.gate.ledgers key with
    | none =>
        -- The first packet of a new ledger goes into an empty pipe.
        rw [Nat.sub_zero]
        omega
    | some ledger =>
        rw [found] at was
        obtain ⟨phase, emitted, delivered⟩ := was
        obtain ⟨oldGated, grown⟩ := reduces_false there (Bool.eq_false_of_not_eq_true reduced) found
        have held := within key ledger found oldGated
        dsimp only
        cases booked with
        | credited same more => omega
        | sent size still kept credited sum admitted =>
            have fits := admitted_le (phase ▸ oldGated) admitted
            have stays : budget config old (before.estimates key) =
                budget config new (after.estimates key) := by
              rw [kept]
              exact (budget_congr still).symm
            omega

theorem reach_within {state : Config (HintWorld Key × (Key → Meter)) (GateOp Key)}
    (reached : Reach (meteredProgram config) always FreshMeters state) :
    Within config state.shared.1 state.shared.2 := by
  apply Reach.bag_invariant
    (fun (state : HintWorld Key × (Key → Meter)) _ => Within config state.1 state.2) _ _ _ reached
  · rintro ⟨world, meters⟩ ⟨⟨seed, rfl⟩, rfl⟩ key ledger there
    cases there
  · intro state bag op within _
    exact within
  · intro choice state op others within _
    exact within.step (applyHinted_books state.1 choice op)

/-- In every state of the gate: a DATA packet to a gated friend is admitted only if the backlog
with it is at most that packet or the budget, which is never above the maximum; and what is
not echoed is at most the budget or one packet, besides what was accepted before the budget
went down or the friend was gated. -/
theorem backlog_bounded {state : Config (HintWorld Key × (Key → Meter)) (GateOp Key)}
    (reached : Reach (meteredProgram config) always FreshMeters state) :
    (∀ number packet peeked found key ledger, peek packet = some peeked →
        peeked.rawType = FrameType.tunnelData.raw →
        state.shared.1.gate.ledgerFor number = some (found, key, ledger) →
        ledger.phase ≠ .legacy → HintWorld.admit config state.shared.1 number packet = true →
        ledger.emitted - ledger.delivered + packet.length ≤
            max packet.length (budget config ledger (state.shared.1.estimates key)) ∧
          budget config ledger (state.shared.1.estimates key) ≤ config.maxBytes) ∧
      ∀ key ledger, state.shared.1.gate.ledgers key = some ledger → ledger.phase ≠ .legacy →
        ledger.emitted - ledger.delivered ≤
            max (budget config ledger (state.shared.1.estimates key))
                (state.shared.2 key).largest +
              ((state.shared.2 key).early - ledger.delivered) ∧
          ledger.emitted - ledger.delivered ≤
            max config.maxBytes (state.shared.2 key).largest +
              ((state.shared.2 key).early - ledger.delivered) := by
  constructor
  · intro number packet peeked found key ledger wellFormed data looked gated admitted
    simp only [ HintWorld.admit, wellFormed, data, ne_eq, not_true_eq_false, if_false, looked]
      at admitted
    exact ⟨admitted_le gated admitted, budget_le_max ledger _⟩
  · intro key ledger there gated
    have held := reach_within reached key ledger there gated
    have most := @budget_le_max config ledger (state.shared.1.estimates key)
    omega

/-- Seven packets of 1373 bytes to a friend that did not echo yet: an eighth is over the
floor, one of 1365 bytes reaches it. -/
theorem backlog_bounded_bootstrap :
    ∃ state : Config (HintWorld Nat × (Nat → Meter)) (GateOp Nat), ∃ ledger,
      Reach (meteredProgram {}) always FreshMeters state ∧
      state.shared.1.gate.ledgers 7 = some ledger ∧ ledger.emitted = 10976 ∧
      ledger.emitted - ledger.delivered ≤
        max (budget {} ledger (state.shared.1.estimates 7)) (state.shared.2 7).largest +
          ((state.shared.2 7).early - ledger.delivered) := by
  let ops : List (GateOp Nat) :=
    .addFriend 0 7 :: List.replicate 8 (.sendData 0 1373) ++ [.sendData 0 1365]
  let schedule : List (Event (GateOp Nat) HintChoice) := List.flatten
    [ops.map .call, (List.range 10).map fun thread => .run thread {}]
  have run := Reach.exists_of_replay (meteredProgram {}) always FreshMeters
    ({ gate := { seed := 5 } }, fun _ => {}) schedule
    (fun state => decide ((state.shared.1.gate.ledgers 7).map
      (fun ledger => (ledger.emitted, ledger.phase)) = some (10976, .bootstrap)))
    ⟨⟨5, rfl⟩, rfl⟩ (by decide)
  obtain ⟨state, reached, met⟩ := run
  obtain ⟨ledger, there, sent⟩ := Option.map_eq_some_iff.mp (of_decide_eq_true met)
  cases phase : ledger.phase with
  | bootstrap =>
      have gated : ledger.phase ≠ .legacy := by simp [phase]
      exact ⟨state, ledger, reached, there, congrArg Prod.fst sent,
        ((backlog_bounded reached).2 7 ledger there gated).1⟩
  | active => simp [phase] at sent
  | legacy => simp [phase] at sent

end Bound

end ToxTunnel.SendBacklog
