import ToxTunnel.Interleaving

/-!
The accept loop of `TcpListener` on an io_context with several threads. The
count check, the in-flight claim and the arming of `do_accept` are steps of
their own, and so are the loads and the compare-exchange of
`on_connection_closed`. A posted handler is a pending action like any other.
-/

namespace ToxTunnel.TcpListener
open Interleaving

section Model

/-- `outstanding` counts the `async_accept` operations the acceptor holds, and
`hooks` the accepted connections whose `on_closed` has not fired. -/
structure Listener where
  acceptorOpen : Bool := true
  isBound : Bool := true
  connectionCount : Nat := 0
  maxConnections : Nat := 1000
  accepting : Bool := false
  acceptInFlight : Bool := false
  outstanding : Nat := 0
  hooks : Nat := 0
  deriving DecidableEq

/-- The error code an accept completes with. -/
inductive Completion where
  | accepted | failed | aborted
  deriving DecidableEq

inductive Act where
  | startAccept
  | beginAccepting
  | doAccept
  | loadMax
  | loadCount (max : Nat)
  | claim
  | asyncAccept
  | acceptReady (result : Completion)
  | onAccept (result : Completion)
  | releaseFailed (result : Completion)
  | releaseAccepted
  | handOff
  | onClosed
  | loadActive
  | decrement (prev : Nat)
  | checkAccepting
  | checkCount
  | checkMax (count : Nat)
  | storeMax (max : Nat)
  | checkAcceptingFor (max : Nat)
  | checkCountFor (max : Nat)
  | stop
  | stopAccepting
  | closeAcceptor
  deriving DecidableEq

/-- Whether a weak compare-exchange fails although the value matches. -/
structure Choice where
  spurious : Bool := false
  deriving DecidableEq

def exec (choice : Choice) (listener : Listener) : Act → Listener × List Act
  | .startAccept =>
      (listener, if listener.accepting ∨ ¬ listener.isBound then [] else [.beginAccepting])
  | .beginAccepting => ({ listener with accepting := true }, [.doAccept])
  | .doAccept => (listener, if listener.accepting then [.loadMax] else [])
  | .loadMax => (listener, [.loadCount listener.maxConnections])
  | .loadCount max => (listener, if max ≤ listener.connectionCount then [] else [.claim])
  | .claim =>
      if listener.acceptInFlight then (listener, [])
      else ({ listener with acceptInFlight := true }, [.asyncAccept])
  | .asyncAccept =>
      -- On a closed acceptor the operation completes at once, with an error.
      if listener.acceptorOpen then ({ listener with outstanding := listener.outstanding + 1 }, [])
      else (listener, [.onAccept .failed])
  | .acceptReady result =>
      if listener.outstanding = 0 then (listener, [])
      else ({ listener with outstanding := listener.outstanding - 1 }, [.onAccept result])
  | .onAccept .accepted =>
      ({ listener with connectionCount := listener.connectionCount + 1 }, [.releaseAccepted])
  | .onAccept result => (listener, [.releaseFailed result])
  | .releaseFailed result =>
      ({ listener with acceptInFlight := false },
        if result = .aborted then [] else [.doAccept])
  | .releaseAccepted => ({ listener with acceptInFlight := false }, [.handOff])
  | .handOff =>
      -- A handler that throws has its connection closed; the loop goes on either way.
      ({ listener with hooks := listener.hooks + 1 }, [.doAccept])
  | .onClosed =>
      if listener.hooks = 0 then (listener, [])
      else ({ listener with hooks := listener.hooks - 1 }, [.loadActive])
  | .loadActive => (listener, [.decrement listener.connectionCount])
  | .decrement prev =>
      if prev = 0 then (listener, [.checkAccepting])
      else if listener.connectionCount = prev ∧ choice.spurious = false then
        ({ listener with connectionCount := prev - 1 }, [.checkAccepting])
      else (listener, [.decrement listener.connectionCount])
  | .checkAccepting => (listener, if listener.accepting then [.checkCount] else [])
  | .checkCount => (listener, [.checkMax listener.connectionCount])
  | .checkMax count => (listener, if count < listener.maxConnections then [.doAccept] else [])
  | .storeMax max => ({ listener with maxConnections := max }, [.checkAcceptingFor max])
  | .checkAcceptingFor max => (listener, if listener.accepting then [.checkCountFor max] else [])
  | .checkCountFor max => (listener, if listener.connectionCount < max then [.doAccept] else [])
  | .stop =>
      (listener, if listener.accepting ∨ listener.acceptorOpen then [.stopAccepting] else [])
  | .stopAccepting => ({ listener with accepting := false }, [.closeAcceptor])
  | .closeAcceptor =>
      ({ listener with acceptorOpen := false, outstanding := 0 },
        List.replicate listener.outstanding (.onAccept .aborted))

/-- Calls of the listener, the closing of an accepted connection, and the
acceptor completing an outstanding operation. -/
inductive Op where
  | startAccept
  | stop
  | setMaxConnections (max : Nat)
  | onConnectionClosed
  | connectionCloses
  | peerConnects
  | acceptFails
  deriving DecidableEq

def start : Op → List Act
  | .startAccept => [.startAccept]
  | .stop => [.stop]
  | .setMaxConnections max => [.storeMax max]
  | .onConnectionClosed => [.loadActive]
  | .connectionCloses => [.onClosed]
  | .peerConnects => [.acceptReady .accepted]
  | .acceptFails => [.acceptReady .failed]

def listenerProgram : Program Listener Act Op Choice where
  start := start
  exec := exec

/-- A listener as constructed, with its limit configured. -/
def Fresh (listener : Listener) : Prop :=
  ∃ bound max, listener = { isBound := bound, maxConnections := max }

end Model

attribute [local simp] exec

section Kinds

/-- From the claim until its release. -/
def holding : Act → Nat
  | .asyncAccept | .onAccept _ | .releaseFailed _ | .releaseAccepted => 1
  | _ => 0

/-- Accepts that may still be counted. -/
def admitting : Act → Nat
  | .asyncAccept | .onAccept _ => 1
  | _ => 0

/-- Reads of the limit that are not the limit. -/
def stale (limit : Nat) : Act → Bool
  | .loadCount max | .storeMax max | .checkAcceptingFor max | .checkCountFor max =>
      decide (max ≠ limit)
  | _ => false

/-- On the way to another look at the count. -/
def resuming (limit : Nat) : Act → Bool
  | .doAccept | .loadMax | .loadCount _ | .claim | .handOff | .checkAccepting | .checkCount => true
  | .checkMax count => decide (count < limit)
  | _ => false

def starting : Act → Bool
  | .startAccept | .beginAccepting => true
  | _ => false

def stopping : Act → Bool
  | .stop | .stopAccepting | .closeAcceptor => true
  | _ => false

def closing : Act → Bool
  | .closeAcceptor => true
  | _ => false

def aborting : Act → Bool
  | .acceptReady .aborted | .onAccept .aborted | .releaseFailed .aborted => true
  | _ => false

/-- The limit stays what it is, and a listener is started while no stop has
begun, and stopped while no start is under way. -/
def orderly : Guard Listener Act Op Choice := fun listener others move =>
  match move with
  | .call (.setMaxConnections max) => max = listener.maxConnections
  | .call .startAccept => listener.acceptorOpen = true ∧ ¬ Has stopping others
  | .call .stop => ¬ Has starting others
  | _ => True

instance : orderly.Checked := by
  intro listener others move
  unfold orderly
  split <;> infer_instance

/-- Whoever claims the accept finds the count below the limit still. -/
def claimsFresh : Guard Listener Act Op Choice := fun listener _ move =>
  match move with
  | .act _ .claim =>
      listener.acceptInFlight = true ∨ listener.connectionCount < listener.maxConnections
  | _ => True

instance : claimsFresh.Checked := by
  intro listener others move
  unfold claimsFresh
  split <;> infer_instance

instance : (orderly.and claimsFresh).Checked := fun _ _ _ => instDecidableAnd

end Kinds

section Invariants

/-- One accept at a time, a stop that is final, and a look at the count ahead
whenever the loop is paused below the limit. -/
structure Paced (listener : Listener) (bag : Multiset Act) : Prop where
  claim : listener.outstanding + weigh holding bag = listener.acceptInFlight.toNat
  limit : ¬ Has (stale listener.maxConnections) bag
  stopped : listener.acceptorOpen = false ∨ Has stopping bag → ¬ Has starting bag
  closed : listener.acceptorOpen = false ∨ Has closing bag → listener.accepting = false
  aborted : Has aborting bag → listener.acceptorOpen = false
  resumes : listener.accepting = true → listener.connectionCount < listener.maxConnections →
    listener.acceptInFlight = true ∨ Has (resuming listener.maxConnections) bag

theorem closing_stops {bag : Multiset Act} (closes : Has closing bag) : Has stopping bag := by
  obtain ⟨act, member, of_kind⟩ := closes
  refine ⟨act, member, ?_⟩
  cases act with
  | closeAcceptor => rfl
  | _ => cases of_kind

variable {choice : Choice} {listener : Listener} {act : Act} {others : Multiset Act}

theorem claim_step (paced : Paced listener (act ::ₘ others)) :
    (exec choice listener act).1.outstanding +
        weigh holding (↑(exec choice listener act).2 + others) =
      (exec choice listener act).1.acceptInFlight.toNat := by
  have claim := paced.claim
  rw [weigh_cons] at claim
  rw [weigh_add]
  cases act with
  | onAccept result => cases result <;> simpa [holding] using claim
  | releaseFailed result =>
      cases flag : listener.acceptInFlight <;> cases result <;>
        simp [holding, flag] at claim ⊢ <;> omega
  | releaseAccepted =>
      cases flag : listener.acceptInFlight <;> simp [holding, flag] at claim ⊢ <;> omega
  | closeAcceptor =>
      have cancelled : weigh holding (↑(List.replicate listener.outstanding
          (Act.onAccept .aborted)) : Multiset Act) = listener.outstanding := by
        simp [weigh, holding]
      simp only [exec, cancelled]
      simpa [holding] using claim
  | _ =>
      simp only [exec]
      repeat' split
      all_goals simp_all [holding]
      all_goals try omega

theorem limit_step (paced : Paced listener (act ::ₘ others)) :
    (exec choice listener act).1.maxConnections = listener.maxConnections ∧
      ¬ Has (stale listener.maxConnections) (↑(exec choice listener act).2 + others) := by
  have limit := paced.limit
  rw [has_cons, not_or] at limit
  rw [has_add, not_or]
  obtain ⟨here, others⟩ := limit
  cases act with
  | storeMax max =>
      have same : max = listener.maxConnections := by simpa [stale] using here
      simp [stale, same, others]
  | onAccept result => cases result <;> simp [stale, others]
  | _ =>
      simp only [exec]
      repeat' split
      all_goals simp_all [stale]

theorem starting_step (choice : Choice) (listener : Listener) (act : Act)
    (starts : ¬ Has starting (act ::ₘ others)) :
    ¬ Has starting (↑(exec choice listener act).2 + others) := by
  rw [has_cons, not_or] at starts
  rw [has_add, not_or]
  refine ⟨?_, starts.2⟩
  cases act with
  | onAccept result => cases result <;> simp [starting]
  | startAccept => exact absurd rfl starts.1
  | _ =>
      simp only [exec]
      repeat' split
      all_goals simp [starting]

theorem stopping_step (choice : Choice) (listener : Listener) (act : Act)
    (stops : (exec choice listener act).1.acceptorOpen = false ∨
      Has stopping (↑(exec choice listener act).2 + others)) :
    listener.acceptorOpen = false ∨ Has stopping (act ::ₘ others) := by
  rw [has_add] at stops
  rw [has_cons]
  by_cases here : stopping act = true
  · exact .inr (.inl here)
  · rcases stops with shut | new | old
    · left
      rw [← shut]
      cases act with
      | onAccept result => cases result <;> rfl
      | closeAcceptor => exact absurd rfl here
      | _ =>
          simp only [exec]
          repeat' split
          all_goals rfl
    · exfalso
      cases act with
      | onAccept result => cases result <;> simp [stopping] at new
      | stop | stopAccepting | closeAcceptor => exact here rfl
      | _ =>
          simp only [exec] at new
          repeat' split at new
          all_goals simp [stopping] at new
    · exact .inr (.inr old)

/-- The compare-exchange changes the count at most, and is followed by the next try
or by the look at the limit. -/
theorem exec_decrement (choice : Choice) (listener : Listener) (prev : Nat) :
    ∃ count next, exec choice listener (.decrement prev) =
        ({ listener with connectionCount := count }, [next]) ∧
      aborting next = false ∧ closing next = false := by
  by_cases zero : prev = 0
  · exact ⟨_, _, by rw [exec, if_pos zero], rfl, rfl⟩
  · by_cases swaps : listener.connectionCount = prev ∧ choice.spurious = false
    · exact ⟨_, _, by rw [exec, if_neg zero, if_pos swaps], rfl, rfl⟩
    · exact ⟨_, _, by rw [exec, if_neg zero, if_neg swaps], rfl, rfl⟩

theorem closed_step (paced : Paced listener (act ::ₘ others))
    (closes : (exec choice listener act).1.acceptorOpen = false ∨
      Has closing (↑(exec choice listener act).2 + others)) :
    (exec choice listener act).1.accepting = false := by
  have closed := paced.closed
  have stopped := paced.stopped
  simp only [has_cons, has_add] at closed stopped closes
  cases act with
  | stopAccepting => rfl
  | closeAcceptor => exact closed (.inr (.inl rfl))
  | beginAccepting =>
      -- A start under way means no stop has begun.
      refine absurd (Or.inl rfl) (stopped ?_)
      rcases closes with shut | new | old
      · exact .inl shut
      · simp [closing] at new
      · exact .inr (.inr (closing_stops old))
  | onAccept result => cases result <;> simp_all [closing]
  | decrement prev =>
      obtain ⟨count, next, run, -, other⟩ := exec_decrement choice listener prev
      rw [run] at closes ⊢
      simp_all [closing]
  | _ =>
      simp only [exec] at closes ⊢
      repeat' split at closes
      all_goals simp_all [closing]

theorem aborted_step (paced : Paced listener (act ::ₘ others))
    (aborts : Has aborting (↑(exec choice listener act).2 + others)) :
    (exec choice listener act).1.acceptorOpen = false := by
  have aborted := paced.aborted
  simp only [has_cons, has_add] at aborted aborts
  cases act with
  | closeAcceptor => rfl
  | acceptReady result =>
      cases result <;> simp only [exec] at aborts ⊢ <;> split at aborts <;>
        simp_all [aborting]
  | onAccept result => cases result <;> simp_all [aborting]
  | releaseFailed result => cases result <;> simp_all [aborting]
  | decrement prev =>
      obtain ⟨count, next, run, other, -⟩ := exec_decrement choice listener prev
      rw [run] at aborts ⊢
      simp_all [aborting]
  | _ =>
      simp only [exec] at aborts ⊢
      repeat' split at aborts
      all_goals simp_all [aborting]

theorem resumes_step (paced : Paced listener (act ::ₘ others))
    (accepts : (exec choice listener act).1.accepting = true)
    (room : (exec choice listener act).1.connectionCount <
      (exec choice listener act).1.maxConnections) :
    (exec choice listener act).1.acceptInFlight = true ∨
      Has (resuming (exec choice listener act).1.maxConnections)
        (↑(exec choice listener act).2 + others) := by
  have resumes := paced.resumes
  have limit := paced.limit
  simp only [has_cons, has_add] at resumes limit ⊢
  cases act with
  | loadCount max =>
      have same : max = listener.maxConnections := by simpa [stale] using not_or.mp limit |>.1
      subst same
      have below : ¬ listener.maxConnections ≤ listener.connectionCount := Nat.not_le.mpr room
      simp [below, resuming]
  | claim =>
      by_cases flag : listener.acceptInFlight = true
      · simp [flag]
      · simp [flag]
  | checkCount =>
      right
      left
      simp only [exec, resuming, List.any_cons, List.any_nil, Bool.or_false, decide_eq_true_eq]
      exact room
  | onAccept result =>
      cases result with
      | accepted =>
          have before := resumes accepts (Nat.lt_of_succ_lt room)
          simpa [resuming] using before
      | failed | aborted => simpa [resuming] using resumes accepts room
  | storeMax max =>
      have same : max = listener.maxConnections := by simpa [stale] using not_or.mp limit |>.1
      subst same
      simpa [resuming] using resumes accepts room
  | releaseFailed result =>
      cases result with
      | aborted =>
          -- Only a stop aborts an accept.
          have shut := paced.aborted (by simp [aborting])
          have off := paced.closed (.inl shut)
          exact absurd (off.symm.trans accepts) (by decide)
      | accepted | failed => simp [resuming]
  | _ =>
      simp only [exec] at accepts room ⊢
      repeat' split
      all_goals simp_all [resuming]

theorem exec_paced (paced : Paced listener (act ::ₘ others)) :
    Paced (exec choice listener act).1 (↑(exec choice listener act).2 + others) := by
  obtain ⟨same, limit⟩ := @limit_step choice listener act others paced
  constructor
  · exact claim_step paced
  · rw [same]
    exact limit
  · intro stops
    exact starting_step choice listener act (paced.stopped (stopping_step choice listener act stops))
  · exact closed_step paced
  · exact aborted_step paced
  · exact resumes_step paced

theorem start_paced (op : Op) (allowed : orderly listener others (.call op))
    (paced : Paced listener others) : Paced listener (↑(start op) + others) := by
  obtain ⟨claim, limit, stopped, closed, aborted, resumes⟩ := paced
  constructor
  · rw [weigh_add]
    cases op <;> simpa [start, holding] using claim
  · cases op with
    | setMaxConnections max =>
        have same : max = listener.maxConnections := allowed
        simpa [start, stale, same] using limit
    | _ => simpa [start, stale] using limit
  · cases op with
    | startAccept =>
        intro stops
        obtain ⟨opened, none⟩ := allowed
        simp [start, stopping, opened, none] at stops
    | stop =>
        intro _
        have none : ¬ Has starting others := allowed
        simpa [start, starting] using none
    | _ => simpa [start, starting, stopping] using stopped
  · cases op <;> simpa [start, closing] using closed
  · cases op <;> simpa [start, aborting] using aborted
  · intro accepts room
    rcases resumes accepts room with flag | here
    · exact .inl flag
    · exact .inr ((has_add _ _ _).mpr (.inr here))

theorem fresh_paced (fresh : Fresh listener) : Paced listener 0 := by
  obtain ⟨bound, max, rfl⟩ := fresh
  constructor <;> simp

variable {guard : Guard Listener Act Op Choice} {config : Config Listener Act}

theorem reach_paced (reached : Reach listenerProgram orderly Fresh config) :
    Paced config.shared config.bag :=
  reached.bag_invariant Paced (fun _ fresh => fresh_paced fresh)
    (fun _ _ op paced allowed => start_paced op allowed paced)
    (fun _ _ _ _ paced _ => exec_paced paced)

/-- A listener that accepts below its limit, with nothing left to run, has an
accept in flight. -/
theorem accept_outstanding (reached : Reach listenerProgram orderly Fresh config)
    (quiet : config.quiet) (accepts : config.shared.accepting = true)
    (room : config.shared.connectionCount < config.shared.maxConnections) :
    0 < config.shared.outstanding := by
  obtain ⟨claim, -, -, -, -, resumes⟩ := reach_paced reached
  have empty : config.bag = 0 := quiet
  rw [empty] at claim resumes
  have flag : config.shared.acceptInFlight = true :=
    (resumes accepts room).resolve_right (not_has_zero _)
  rw [flag, weigh_zero, Nat.add_zero] at claim
  rw [claim]
  decide

/-- Every accept under way still has its place below the limit. -/
def Admitted (listener : Listener) (bag : Multiset Act) : Prop :=
  listener.connectionCount + listener.outstanding + weigh admitting bag ≤ listener.maxConnections

theorem exec_admitted (paced : Paced listener (act ::ₘ others))
    (allowed : claimsFresh listener others (.act choice act))
    (admitted : Admitted listener (act ::ₘ others)) :
    Admitted (exec choice listener act).1 (↑(exec choice listener act).2 + others) := by
  obtain ⟨same, -⟩ := @limit_step choice listener act others paced
  have claim := paced.claim
  unfold Admitted at admitted ⊢
  rw [weigh_cons] at admitted claim
  rw [weigh_add, same]
  cases act with
  | claim =>
      by_cases flag : listener.acceptInFlight = true
      · simpa [admitting, flag] using admitted
      · -- Nobody else holds the claim, so there is no accept under way but this one.
        have below := allowed.resolve_left flag
        have lighter : weigh admitting others ≤ weigh holding others :=
          weigh_le_weigh (fun act => by cases act <;> simp [admitting, holding]) others
        simp [admitting, holding, flag] at claim ⊢
        omega
  | onAccept result => cases result <;> simp [admitting] at admitted ⊢ <;> omega
  | closeAcceptor =>
      have cancelled : weigh admitting (↑(List.replicate listener.outstanding
          (Act.onAccept .aborted)) : Multiset Act) = listener.outstanding := by
        simp [weigh, admitting]
      simp [admitting, cancelled] at admitted ⊢
      omega
  | _ =>
      simp only [exec]
      repeat' split
      all_goals simp_all [admitting]
      all_goals try omega

theorem reach_admitted (reached : Reach listenerProgram (orderly.and claimsFresh) Fresh config) :
    Admitted config.shared config.bag := by
  have known := reached.knowing Paced fun _ before =>
    reach_paced (before.weaken fun _ _ _ both => both.1)
  apply known.bag_invariant Admitted
  · rintro state ⟨bound, max, rfl⟩
    exact Nat.zero_le _
  · intro state bag op admitted _
    unfold Admitted at admitted ⊢
    rw [weigh_add]
    cases op <;> simpa [listenerProgram, start, admitting] using admitted
  · intro choice state act others admitted allowed
    exact exec_admitted allowed.2 allowed.1.2 admitted

end Invariants

section Limit
variable {config : Config Listener Act}

/-- While every claim finds the count still below the limit, the limit holds, and
a quiet listener with room has an accept in flight. -/
theorem limit_kept (reached : Reach listenerProgram (orderly.and claimsFresh) Fresh config) :
    config.shared.connectionCount ≤ config.shared.maxConnections ∧
      (config.quiet → config.shared.accepting = true →
        config.shared.connectionCount < config.shared.maxConnections →
        0 < config.shared.outstanding) := by
  have admitted : config.shared.connectionCount + config.shared.outstanding +
      weigh admitting config.bag ≤ config.shared.maxConnections := reach_admitted reached
  constructor
  · omega
  · exact accept_outstanding (reached.weaken fun _ _ _ both => both.1)

/-- The limit of one is reached, the connection closes, and the loop resumes. -/
theorem limit_kept_resumed :
    ∃ config, Reach listenerProgram (orderly.and claimsFresh) Fresh config ∧
      config.quiet ∧ config.shared.hooks = 0 ∧
      config.shared.connectionCount ≤ 1 ∧ 0 < config.shared.outstanding := by
  let schedule : List (Event Op Choice) := List.flatten
    [[.call .startAccept], List.replicate 7 (.run 0 {}),
     [.call .peerConnects], List.replicate 7 (.run 1 {}),
     [.call .connectionCloses], List.replicate 11 (.run 2 {})]
  have run := Reach.exists_of_replay listenerProgram (orderly.and claimsFresh) Fresh
    { maxConnections := 1 } schedule
    (fun config => decide (config.bag = 0 ∧ config.shared.hooks = 0 ∧
      config.shared.accepting = true ∧ config.shared.connectionCount = 0 ∧
      config.shared.maxConnections = 1))
    ⟨true, 1, rfl⟩ (by decide)
  obtain ⟨config, reached, met⟩ := run
  obtain ⟨quiet, hooks, accepts, none, limit⟩ := of_decide_eq_true met
  obtain ⟨kept, outstanding⟩ := limit_kept reached
  refine ⟨config, reached, quiet, hooks, ?_, ?_⟩
  · rw [limit] at kept
    exact kept
  · apply outstanding quiet accepts
    rw [none, limit]
    decide

/-- With a limit of one, the connection closes right after it was accepted. The
`do_accept` of the accept handler and the one posted by the close both find no
connection; the handler's claims only after the other one's accept completed. -/
theorem stale_claim_exceeds_limit :
    ∃ config, Reach listenerProgram orderly Fresh config ∧
      config.shared.maxConnections < config.shared.connectionCount := by
  let schedule : List (Event Op Choice) := List.flatten
    [[.call .startAccept], List.replicate 7 (.run 0 {}),
     [.call .peerConnects], List.replicate 4 (.run 1 {}),
     [.call .connectionCloses], List.replicate 6 (.run 2 {}),
     List.replicate 3 (.run 1 {}), List.replicate 5 (.run 2 {}),
     [.call .peerConnects], List.replicate 3 (.run 3 {}),
     List.replicate 2 (.run 1 {}),
     [.call .peerConnects], List.replicate 2 (.run 4 {})]
  have run := Reach.exists_of_replay listenerProgram orderly Fresh
    { maxConnections := 1 } schedule
    (fun config => decide (config.shared.maxConnections < config.shared.connectionCount))
    ⟨true, 1, rfl⟩ (by decide)
  obtain ⟨config, reached, exceeds⟩ := run
  exact ⟨config, reached, of_decide_eq_true exceeds⟩

end Limit

end ToxTunnel.TcpListener
