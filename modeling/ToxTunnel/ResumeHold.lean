import Mathlib.Data.UInt
import Mathlib.Logic.Function.Basic
import ToxTunnel.Interleaving

/-!
The tunnel managers of the server: live ones, and ones held for a resume after
their friend went away. The tasks that move a manager from one map to the other
run on one strand, one after the other; a tunnel may end on any thread at any time.
-/

namespace ToxTunnel.ResumeHold
open Interleaving

section Model

inductive TeardownMode where
  | graceful
  | abandon
  deriving DecidableEq

/-- A manager object: the friend its handlers were built for, and its number. -/
structure ManagerRef where
  friend : UInt32
  number : Nat
  deriving DecidableEq

structure HeldManager where
  manager : ManagerRef
  pruneTimer : Nat
  deriving DecidableEq

/-- One run of `setup_tunnel_manager`: the hold it found and the live manager it left. -/
structure Setup where
  friend : UInt32
  hold : Option HeldManager
  live : Option ManagerRef
  deriving DecidableEq

/-- What the expiry handler of a timer took out of the map. -/
structure Eviction where
  friend : UInt32
  timer : Nat
  hold : HeldManager
  deriving DecidableEq

/-- Both maps and the tunnels of each manager. The lists from `opened` on are a
record of what happened, newest first; nothing reads them. -/
structure Server where
  managers : UInt32 → Option ManagerRef := fun _ => none
  heldManagers : UInt32 → Option HeldManager := fun _ => none
  tunnels : ManagerRef → List Nat := fun _ => []
  built : Nat := 0
  timers : Nat := 0
  opened : List (ManagerRef × Nat) := []
  closed : List (ManagerRef × Nat) := []
  abandoned : List ManagerRef := []
  holds : List (UInt32 × HeldManager) := []
  setups : List Setup := []
  evictions : List Eviction := []

inductive ConnectedManagerAction where
  | keepExisting
  | resurrect
  | createFresh

def classifyConnectedEvent (liveManagerPresent heldManagerPresent resumeEnabled : Bool) :
    ConnectedManagerAction :=
  if liveManagerPresent then .keepExisting
  else if resumeEnabled && heldManagerPresent then .resurrect
  else .createFresh

/-- `thenOpen` tells that `handle_tunnel_open` called the setup and goes on after it. -/
inductive ServerAct where
  | friendConnected (friend : UInt32)
  | friendDisconnected (friend : UInt32)
  | keepaliveVerdict (friend : UInt32) (judged : ManagerRef)
  | pruneTimerFired (friend : UInt32) (timer : Nat)
  | handleTunnelOpen (friend : UInt32)
  | removeTunnel (manager : ManagerRef) (tunnel : Nat)
  | setupTunnelManager (friend : UInt32) (thenOpen : Bool)
  | takeHeld (friend : UInt32) (hold : Option HeldManager) (thenOpen : Bool)
  | installHeld (friend : UInt32) (hold : Option HeldManager) (manager : ManagerRef)
      (thenOpen : Bool)
  | buildFresh (friend : UInt32) (hold : Option HeldManager) (thenOpen : Bool)
  | installFresh (friend : UInt32) (hold : Option HeldManager) (manager : ManagerRef)
      (thenOpen : Bool)
  | findRebuilt (friend : UInt32)
  | addTunnel (manager : ManagerRef)
  | teardownTunnelManager (friend : UInt32) (mode : TeardownMode)
  | closeAll (manager : ManagerRef) (mode : TeardownMode)
  | closeAllLocal (friend : UInt32) (manager : ManagerRef) (thenOpen : Bool)
  | closeTunnel (manager : ManagerRef) (tunnel : Nat)
  deriving DecidableEq

/-- Answers from outside this component: whether the manager is judged dead still,
whether the wait ended by a cancel, and whether there is room for a tunnel. -/
structure Answer where
  peerDead : Bool := true
  cancelled : Bool := false
  added : Bool := true

/-- What runs after a setup. -/
def resumeOpen (friend : UInt32) (thenOpen : Bool) : List ServerAct :=
  if thenOpen then [.findRebuilt friend] else []

/-- `try_emplace`: a live manager wins. -/
def tryEmplace (server : Server) (friend : UInt32) (hold : Option HeldManager)
    (manager : ManagerRef) : Server :=
  if (server.managers friend).isNone then
    { server with
      managers := Function.update server.managers friend (some manager)
      setups := ⟨friend, hold, some manager⟩ :: server.setups }
  else { server with setups := ⟨friend, hold, server.managers friend⟩ :: server.setups }

/-- The swap of a manager's map of tunnels against an empty one. -/
def swapTunnels (server : Server) (manager : ManagerRef) : Server :=
  { server with
    tunnels := Function.update server.tunnels manager []
    abandoned := manager :: server.abandoned }

def execServer (resumeEnabled : Bool) (answer : Answer) (server : Server) :
    ServerAct → Server × List ServerAct
  | .friendConnected friend => (server, [.setupTunnelManager friend false])
  | .friendDisconnected friend => (server, [.teardownTunnelManager friend .graceful])
  | .keepaliveVerdict friend judged =>
      -- Only if the judged manager is still this friend's live one.
      if answer.peerDead ∧ server.managers friend = some judged then
        (server, [.teardownTunnelManager friend .abandon])
      else (server, [])
  | .pruneTimerFired friend timer =>
      if answer.cancelled then (server, [])
      else
        match server.heldManagers friend with
        | none => (server, [])
        | some hold =>
            -- A timer that no hold owns has lapsed and equals none of theirs.
            if hold.pruneTimer ≠ timer then (server, [])
            else
              ({ server with
                  heldManagers := Function.update server.heldManagers friend none
                  evictions := ⟨friend, timer, hold⟩ :: server.evictions },
                [.closeAll hold.manager .graceful])
  | .handleTunnelOpen friend =>
      match server.managers friend with
      | some manager => (server, [.addTunnel manager])
      | none => (server, [.setupTunnelManager friend true])
  | .removeTunnel manager tunnel =>
      if tunnel ∈ server.tunnels manager then
        ({ server with
            tunnels := Function.update server.tunnels manager
              ((server.tunnels manager).filter fun other => other ≠ tunnel) },
          [.closeTunnel manager tunnel])
      else (server, [])
  | .setupTunnelManager friend thenOpen =>
      match classifyConnectedEvent (server.managers friend).isSome
          (server.heldManagers friend).isSome resumeEnabled with
      | .keepExisting =>
          ({ server with
              setups := ⟨friend, server.heldManagers friend, server.managers friend⟩ ::
                server.setups },
            resumeOpen friend thenOpen)
      | .resurrect => (server, [.takeHeld friend (server.heldManagers friend) thenOpen])
      | .createFresh => (server, [.buildFresh friend (server.heldManagers friend) thenOpen])
  | .takeHeld friend hold thenOpen =>
      -- Looked up again; a hold that has vanished falls through to a fresh manager.
      match server.heldManagers friend with
      | some held =>
          ({ server with heldManagers := Function.update server.heldManagers friend none },
            [.installHeld friend hold held.manager thenOpen])
      | none => (server, [.buildFresh friend hold thenOpen])
  | .installHeld friend hold manager thenOpen =>
      (tryEmplace server friend hold manager,
        if (server.managers friend).isNone then resumeOpen friend thenOpen
        else [.closeAllLocal friend manager thenOpen])
  | .buildFresh friend hold thenOpen =>
      ({ server with built := server.built + 1 },
        [.installFresh friend hold ⟨friend, server.built⟩ thenOpen])
  | .installFresh friend hold manager thenOpen =>
      (tryEmplace server friend hold manager, resumeOpen friend thenOpen)
  | .findRebuilt friend =>
      match server.managers friend with
      | some manager => (server, [.addTunnel manager])
      | none => (server, [])
  | .addTunnel manager =>
      if answer.added then
        ({ server with
            tunnels := Function.update server.tunnels manager
              (server.opened.length :: server.tunnels manager)
            opened := (manager, server.opened.length) :: server.opened }, [])
      else (server, [])
  | .teardownTunnelManager friend mode =>
      match server.managers friend with
      | none => (server, [])
      | some manager =>
          if resumeEnabled ∧ server.tunnels manager ≠ [] then
            ({ server with
                heldManagers :=
                  Function.update server.heldManagers friend (some ⟨manager, server.timers⟩)
                managers := Function.update server.managers friend none
                timers := server.timers + 1
                holds := (friend, ⟨manager, server.timers⟩) :: server.holds },
              [.pruneTimerFired friend server.timers])
          else
            ({ server with
                managers := Function.update server.managers friend none
                timers := server.timers + 1 },
              [.closeAll manager mode])
  | .closeAll manager _ =>
      (swapTunnels server manager, (server.tunnels manager).map (.closeTunnel manager))
  | .closeAllLocal friend manager thenOpen =>
      (swapTunnels server manager,
        (server.tunnels manager).map (.closeTunnel manager) ++ resumeOpen friend thenOpen)
  | .closeTunnel manager tunnel =>
      ({ server with closed := (manager, tunnel) :: server.closed }, [])

/-- What arrives from outside: friend events and frames on the strand, a verdict that
the keepalive posts to it, and a tunnel that ends by itself. -/
inductive ServerOp where
  | friendConnected (friend : UInt32)
  | friendDisconnected (friend : UInt32)
  | keepaliveVerdict (friend : UInt32) (judged : ManagerRef)
  | tunnelOpen (friend : UInt32)
  | removeTunnel (manager : ManagerRef) (tunnel : Nat)
  deriving DecidableEq

def startServer : ServerOp → List ServerAct
  | .friendConnected friend => [.friendConnected friend]
  | .friendDisconnected friend => [.friendDisconnected friend]
  | .keepaliveVerdict friend judged => [.keepaliveVerdict friend judged]
  | .tunnelOpen friend => [.handleTunnelOpen friend]
  | .removeTunnel manager tunnel => [.removeTunnel manager tunnel]

def serverProgram (resumeEnabled : Bool) : Program Server ServerAct ServerOp Answer where
  start := startServer
  exec := execServer resumeEnabled

def FreshServer (server : Server) : Prop := server = {}

/-- The steps that only a task of the strand takes once it has begun. -/
def inTask : ServerAct → Bool
  | .setupTunnelManager .. | .takeHeld .. | .installHeld .. | .buildFresh .. | .installFresh ..
  | .findRebuilt _ | .addTunnel _ | .teardownTunnelManager .. | .closeAll ..
  | .closeAllLocal .. => true
  | _ => false

/-- What the strand starts with when the task before has ended. -/
def begins : ServerAct → Bool
  | .friendConnected _ | .friendDisconnected _ | .keepaliveVerdict .. | .pruneTimerFired ..
  | .handleTunnelOpen _ => true
  | _ => false

/-- The strand runs one task at a time. -/
def onStrand : Guard Server ServerAct ServerOp Answer
  | _, others, .act _ action => begins action = true → ¬Has inTask others
  | _, _, .call _ => True

instance : onStrand.Checked := fun _ _ move => by
  unfold onStrand
  split <;> infer_instance

end Model

section Strand
variable {server after : Server} {others : Multiset ServerAct} {act : ServerAct}

/-- A manager that belongs to a friend and was never closed. -/
structure Kept (server : Server) (friend : UInt32) (manager : ManagerRef) : Prop where
  own : manager.friend = friend
  built : manager.number < server.built
  intact : manager ∉ server.abandoned

/-- Live or held under its own friend. -/
def InPlace (server : Server) (manager : ManagerRef) : Prop :=
  server.managers manager.friend = some manager ∨
    ∃ hold, server.heldManagers manager.friend = some hold ∧ hold.manager = manager

theorem not_inPlace {manager : ManagerRef} (free : server.managers manager.friend = none)
    (unheld : server.heldManagers manager.friend = none) : ¬InPlace server manager := by
  rintro (live | ⟨hold, held, -⟩)
  · rw [free] at live
    cases live
  · rw [unheld] at held
    cases held

/-- What the step that a task takes next may rely on. -/
def Fits (server : Server) : ServerAct → Prop
  | .takeHeld friend hold _ =>
      server.managers friend = none ∧ server.heldManagers friend = hold ∧ hold ≠ none
  | .installHeld friend hold manager _ =>
      server.managers friend = none ∧ server.heldManagers friend = none ∧
        Kept server friend manager ∧ hold.map HeldManager.manager = some manager
  | .buildFresh friend hold _ =>
      server.managers friend = none ∧ server.heldManagers friend = none ∧ hold = none
  | .installFresh friend hold manager _ =>
      server.managers friend = none ∧ server.heldManagers friend = none ∧
        Kept server friend manager ∧ hold = none
  | .addTunnel manager => server.managers manager.friend = some manager
  | .closeAll manager _ => manager.number < server.built ∧ ¬InPlace server manager
  | .closeAllLocal .. => False
  | _ => True

/-- At most one task is under way, and its next step finds what it relies on. -/
def Tasked (server : Server) (bag : Multiset ServerAct) : Prop :=
  keep inTask bag = 0 ∨ ∃ act, keep inTask bag = {act} ∧ Fits server act

theorem Tasked.alone (tasked : Tasked server (act ::ₘ others)) (inside : inTask act = true) :
    keep inTask others = 0 ∧ Fits server act := by
  rw [Tasked, keep_cons_of_kept inside] at tasked
  obtain none_left | ⟨only, same, fits⟩ := tasked
  · exact absurd none_left (Multiset.cons_ne_zero)
  · obtain ⟨rfl, rest⟩ | ⟨-, rest, -, impossible⟩ := Multiset.cons_eq_cons.mp same
    · exact ⟨rest, fits⟩
    · exact absurd impossible.symm Multiset.cons_ne_zero

theorem idle_of_none (none_there : ¬Has inTask others) : keep inTask others = 0 := by
  apply Multiset.filter_eq_nil.mpr
  intro other there inside
  exact none_there ⟨other, there, inside⟩

theorem Tasked.rest {new : List ServerAct} (idle : keep inTask others = 0)
    (outside : ∀ other ∈ new, inTask other = false) : Tasked after (↑new + others) := by
  left
  rw [keep_add_of_not outside, idle]

theorem Tasked.next {new : ServerAct} (idle : keep inTask others = 0) (inside : inTask new = true)
    (fits : Fits after new) : Tasked after (↑[new] + others) := by
  right
  refine ⟨new, ?_, fits⟩
  rw [Multiset.coe_singleton, Multiset.singleton_add, keep_cons_of_kept inside, idle]
  rfl

theorem Tasked.beside {new : List ServerAct} (tasked : Tasked server (act ::ₘ others))
    (outside : inTask act = false) (new_outside : ∀ other ∈ new, inTask other = false)
    (fits : ∀ other, Fits server other → Fits after other) : Tasked after (↑new + others) := by
  rw [Tasked, keep_cons_of_not outside] at tasked
  rw [Tasked, keep_add_of_not new_outside]
  obtain none_left | ⟨only, same, fit⟩ := tasked
  · exact .inl none_left
  · exact .inr ⟨only, same, fits only fit⟩

end Strand

section Places
variable {resumeEnabled : Bool} {server : Server} {others : Multiset ServerAct}
  {friend : UInt32} {manager : ManagerRef} {hold : HeldManager}

/-- Where the managers of the friends are. -/
structure Placed (resumeEnabled : Bool) (server : Server) : Prop where
  exclusive : ∀ friend, server.managers friend = none ∨ server.heldManagers friend = none
  live : ∀ friend manager, server.managers friend = some manager → Kept server friend manager
  held : ∀ friend hold, server.heldManagers friend = some hold →
    resumeEnabled = true ∧ Kept server friend hold.manager
  unbuilt : ∀ manager ∈ server.abandoned, manager.number < server.built

theorem Placed.not_held (placed : Placed resumeEnabled server)
    (live : server.managers friend = some manager) : server.heldManagers friend = none := by
  obtain gone | gone := placed.exclusive friend
  · rw [live] at gone
    cases gone
  · exact gone

theorem Placed.not_live (placed : Placed resumeEnabled server)
    (held : server.heldManagers friend = some hold) : server.managers friend = none := by
  obtain gone | gone := placed.exclusive friend
  · exact gone
  · rw [held] at gone
    cases gone

theorem Placed.adds (placed : Placed resumeEnabled server)
    (live : server.managers friend = some manager) : Fits server (.addTunnel manager) := by
  rw [Fits, (placed.live friend manager live).own]
  exact live

theorem tryEmplace_free {found : Option HeldManager} (free : server.managers friend = none) :
    tryEmplace server friend found manager =
      { server with
        managers := Function.update server.managers friend (some manager)
        setups := ⟨friend, found, some manager⟩ :: server.setups } :=
  if_pos (by rw [free]; rfl)

theorem Placed.installed (placed : Placed resumeEnabled server) {found : Option HeldManager}
    (free : server.managers friend = none) (unheld : server.heldManagers friend = none)
    (kept : Kept server friend manager) :
    Placed resumeEnabled (tryEmplace server friend found manager) := by
  rw [tryEmplace_free free]
  constructor
  · intro other
    by_cases same : other = friend
    · exact .inr (same ▸ unheld)
    · simp only [Function.update_of_ne same]
      exact placed.exclusive other
  · intro other manager' live
    by_cases same : other = friend
    · subst same
      simp only [Function.update_self, Option.some.injEq] at live
      subst live
      exact ⟨kept.own, kept.built, kept.intact⟩
    · simp only [Function.update_of_ne same] at live
      obtain ⟨own, built, intact⟩ := placed.live other manager' live
      exact ⟨own, built, intact⟩
  · intro other hold' held
    obtain ⟨enabled, own, built, intact⟩ := placed.held other hold' held
    exact ⟨enabled, own, built, intact⟩
  · exact placed.unbuilt

theorem Placed.parked (placed : Placed resumeEnabled server) (enabled : resumeEnabled = true)
    (live : server.managers friend = some manager) :
    Placed resumeEnabled
      { server with
        heldManagers :=
          Function.update server.heldManagers friend (some ⟨manager, server.timers⟩)
        managers := Function.update server.managers friend none
        timers := server.timers + 1
        holds := (friend, ⟨manager, server.timers⟩) :: server.holds } := by
  obtain ⟨own, built, intact⟩ := placed.live friend manager live
  constructor
  · intro other
    by_cases same : other = friend
    · exact .inl (same ▸ Function.update_self ..)
    · simp only [Function.update_of_ne same]
      exact placed.exclusive other
  · intro other manager' live'
    by_cases same : other = friend
    · subst same
      simp at live'
    · simp only [Function.update_of_ne same] at live'
      obtain ⟨own, built, intact⟩ := placed.live other manager' live'
      exact ⟨own, built, intact⟩
  · intro other hold' held'
    by_cases same : other = friend
    · subst same
      simp only [Function.update_self, Option.some.injEq] at held'
      subst held'
      exact ⟨enabled, own, built, intact⟩
    · simp only [Function.update_of_ne same] at held'
      obtain ⟨enabled, own, built, intact⟩ := placed.held other hold' held'
      exact ⟨enabled, own, built, intact⟩
  · exact placed.unbuilt

theorem Placed.emptied (placed : Placed resumeEnabled server) {after : Server}
    (managers : ∀ friend manager, after.managers friend = some manager →
      server.managers friend = some manager)
    (heldManagers : ∀ friend hold, after.heldManagers friend = some hold →
      server.heldManagers friend = some hold)
    (built : server.built ≤ after.built) (abandoned : after.abandoned = server.abandoned) :
    Placed resumeEnabled after := by
  constructor
  · intro friend
    cases live : after.managers friend with
    | none => exact .inl rfl
    | some manager =>
        right
        cases held : after.heldManagers friend with
        | none => rfl
        | some hold =>
            have gone := placed.not_held (managers friend manager live)
            rw [heldManagers friend hold held] at gone
            cases gone
  · intro friend manager live
    obtain ⟨own, number, intact⟩ := placed.live friend manager (managers friend manager live)
    exact ⟨own, number.trans_le built, abandoned ▸ intact⟩
  · intro friend hold held
    obtain ⟨enabled, own, number, intact⟩ :=
      placed.held friend hold (heldManagers friend hold held)
    exact ⟨enabled, own, number.trans_le built, abandoned ▸ intact⟩
  · intro manager there
    rw [abandoned] at there
    exact (placed.unbuilt manager there).trans_le built

theorem Placed.unmoved (placed : Placed resumeEnabled server) {after : Server}
    (managers : after.managers = server.managers)
    (heldManagers : after.heldManagers = server.heldManagers)
    (built : server.built ≤ after.built) (abandoned : after.abandoned = server.abandoned) :
    Placed resumeEnabled after :=
  placed.emptied (fun _ _ live => managers ▸ live) (fun _ _ held => heldManagers ▸ held) built
    abandoned

theorem Placed.closed (placed : Placed resumeEnabled server) (built : manager.number < server.built)
    (neither : ¬InPlace server manager) :
    Placed resumeEnabled (swapTunnels server manager) := by
  constructor
  · exact placed.exclusive
  · intro friend manager' live
    obtain ⟨own, number, intact⟩ := placed.live friend manager' live
    refine ⟨own, number, ?_⟩
    simp only [swapTunnels, List.mem_cons, not_or]
    refine ⟨?_, intact⟩
    rintro rfl
    exact neither (.inl (own ▸ live))
  · intro friend hold held
    obtain ⟨enabled, own, number, intact⟩ := placed.held friend hold held
    refine ⟨enabled, own, number, ?_⟩
    simp only [swapTunnels, List.mem_cons, not_or]
    refine ⟨?_, intact⟩
    rintro rfl
    exact neither (.inr ⟨hold, own ▸ held, rfl⟩)
  · intro manager' there
    simp only [swapTunnels, List.mem_cons] at there
    obtain rfl | there := there
    · exact built
    · exact placed.unbuilt manager' there

theorem classify_createFresh {live held enabled : Bool}
    (fresh : classifyConnectedEvent live held enabled = .createFresh) :
    live = false ∧ (enabled = false ∨ held = false) := by
  cases live <;> cases held <;> cases enabled <;> simp_all [classifyConnectedEvent]

theorem classify_resurrect {live held enabled : Bool}
    (revived : classifyConnectedEvent live held enabled = .resurrect) :
    live = false ∧ held = true := by
  cases live <;> cases held <;> cases enabled <;> simp_all [classifyConnectedEvent]

theorem classify_keepExisting {live held enabled : Bool}
    (kept : classifyConnectedEvent live held enabled = .keepExisting) : live = true := by
  cases live <;> cases held <;> cases enabled <;> simp_all [classifyConnectedEvent]

theorem resumeOpen_tasked {after : Server} {thenOpen : Bool} (idle : keep inTask others = 0) :
    Tasked after (↑(resumeOpen friend thenOpen) + others) := by
  cases thenOpen with
  | true => exact .next idle rfl trivial
  | false => exact .rest idle nofun

theorem installed_tasked {found : Option HeldManager} {thenOpen : Bool}
    (idle : keep inTask others = 0)
    (free : server.managers friend = none) :
    Tasked (tryEmplace server friend found manager)
      (↑(if (server.managers friend).isNone then resumeOpen friend thenOpen
        else [.closeAllLocal friend manager thenOpen]) + others) := by
  rw [free]
  exact resumeOpen_tasked idle

abbrev PlacedAfter (resumeEnabled : Bool) (others : Multiset ServerAct)
    (next : Server × List ServerAct) : Prop :=
  Placed resumeEnabled next.1 ∧ Tasked next.1 (↑next.2 + others)

theorem pruneTimerFired_placed {friend : UInt32} {timer : Nat} (answer : Answer)
    (placed : Placed resumeEnabled server)
    (allowed : onStrand server others (.act answer (.pruneTimerFired friend timer))) :
    PlacedAfter resumeEnabled others
      (execServer resumeEnabled answer server (.pruneTimerFired friend timer)) := by
  have idle := idle_of_none (allowed rfl)
  simp only [execServer]
  split
  · exact ⟨placed, .rest idle nofun⟩
  split
  next => exact ⟨placed, .rest idle nofun⟩
  next hold held =>
    split
    · exact ⟨placed, .rest idle nofun⟩
    · obtain ⟨-, own, built, -⟩ := placed.held friend hold held
      constructor
      · refine placed.emptied (fun _ _ live => live) ?_ (Nat.le_refl _) rfl
        intro other hold' held'
        by_cases same : other = friend
        · simp [same] at held'
        · simpa only [Function.update_of_ne same] using held'
      · refine .next idle rfl ⟨built, not_inPlace ?_ ?_⟩
        · rw [own]
          exact placed.not_live held
        · rw [own]
          exact Function.update_self ..

theorem setupTunnelManager_placed {friend : UInt32} {thenOpen : Bool} (answer : Answer)
    (placed : Placed resumeEnabled server)
    (tasked : Tasked server (.setupTunnelManager friend thenOpen ::ₘ others)) :
    PlacedAfter resumeEnabled others
      (execServer resumeEnabled answer server (.setupTunnelManager friend thenOpen)) := by
  obtain ⟨idle, -⟩ := tasked.alone rfl
  simp only [execServer]
  split
  next => exact ⟨placed.unmoved rfl rfl (Nat.le_refl _) rfl, resumeOpen_tasked idle⟩
  next revived =>
    obtain ⟨free, held⟩ := classify_resurrect revived
    refine ⟨placed, .next idle rfl ⟨?_, rfl, ?_⟩⟩
    · exact Option.not_isSome_iff_eq_none.mp (Bool.not_eq_true _ ▸ free)
    · exact Option.isSome_iff_ne_none.mp held
  next fresh =>
    obtain ⟨free, unheld⟩ := classify_createFresh fresh
    have free := Option.not_isSome_iff_eq_none.mp (Bool.not_eq_true _ ▸ free)
    have unheld : server.heldManagers friend = none := by
      apply Option.eq_none_iff_forall_ne_some.mpr
      intro hold held
      rw [(placed.held friend hold held).1, held] at unheld
      simp at unheld
    exact ⟨placed, .next idle rfl ⟨free, unheld, unheld⟩⟩

theorem takeHeld_placed {friend : UInt32} {hold : Option HeldManager} {thenOpen : Bool}
    (answer : Answer) (placed : Placed resumeEnabled server)
    (tasked : Tasked server (.takeHeld friend hold thenOpen ::ₘ others)) :
    PlacedAfter resumeEnabled others
      (execServer resumeEnabled answer server (.takeHeld friend hold thenOpen)) := by
  obtain ⟨idle, free, rfl, there⟩ := tasked.alone rfl
  simp only [execServer]
  split
  next held found =>
    obtain ⟨-, own, built, intact⟩ := placed.held friend held found
    constructor
    · refine placed.emptied (fun _ _ live => live) ?_ (Nat.le_refl _) rfl
      intro other hold' held'
      by_cases same : other = friend
      · simp [same] at held'
      · simpa only [Function.update_of_ne same] using held'
    · refine .next idle rfl ⟨free, Function.update_self .., ⟨own, built, intact⟩, ?_⟩
      rw [found]
      rfl
  next gone => exact absurd gone there

theorem teardownTunnelManager_placed {friend : UInt32} {mode : TeardownMode} (answer : Answer)
    (placed : Placed resumeEnabled server)
    (tasked : Tasked server (.teardownTunnelManager friend mode ::ₘ others)) :
    PlacedAfter resumeEnabled others
      (execServer resumeEnabled answer server (.teardownTunnelManager friend mode)) := by
  obtain ⟨idle, -⟩ := tasked.alone rfl
  simp only [execServer]
  split
  next => exact ⟨placed, .rest idle nofun⟩
  next manager live =>
    split
    next held =>
      refine ⟨placed.parked held.1 live, .rest idle ?_⟩
      simp [inTask]
    next =>
      obtain ⟨own, built, -⟩ := placed.live friend manager live
      constructor
      · refine placed.emptied ?_ (fun _ _ held => held) (Nat.le_refl _) rfl
        intro other manager' live'
        by_cases same : other = friend
        · simp [same] at live'
        · simpa only [Function.update_of_ne same] using live'
      · refine .next idle rfl ⟨built, not_inPlace ?_ ?_⟩
        · rw [own]
          exact Function.update_self ..
        · rw [own]
          exact placed.not_held live

theorem exec_placed (answer : Answer) (act : ServerAct) (placed : Placed resumeEnabled server)
    (tasked : Tasked server (act ::ₘ others))
    (allowed : onStrand server others (.act answer act)) :
    PlacedAfter resumeEnabled others (execServer resumeEnabled answer server act) := by
  cases act with
  | friendConnected friend | friendDisconnected friend =>
      exact ⟨placed, .next (idle_of_none (allowed rfl)) rfl trivial⟩
  | keepaliveVerdict friend judged =>
      have idle := idle_of_none (allowed rfl)
      simp only [execServer]
      split
      · exact ⟨placed, .next idle rfl trivial⟩
      · exact ⟨placed, .rest idle nofun⟩
  | pruneTimerFired friend timer => exact pruneTimerFired_placed answer placed allowed
  | handleTunnelOpen friend =>
      have idle := idle_of_none (allowed rfl)
      simp only [execServer]
      split
      next manager live =>
        exact ⟨placed, .next idle rfl (placed.adds live)⟩
      next => exact ⟨placed, .next idle rfl trivial⟩
  | removeTunnel manager tunnel =>
      simp only [execServer]
      split
      · refine ⟨placed.unmoved rfl rfl (Nat.le_refl _) rfl, tasked.beside rfl (by simp [inTask]) ?_⟩
        intro other fits
        cases other with
        | installHeld | installFresh =>
            obtain ⟨free, unheld, ⟨own, built, intact⟩, found⟩ := fits
            exact ⟨free, unheld, ⟨own, built, intact⟩, found⟩
        | _ => exact fits
      · exact ⟨placed, tasked.beside rfl nofun fun _ fits => fits⟩
  | setupTunnelManager friend thenOpen => exact setupTunnelManager_placed answer placed tasked
  | takeHeld friend hold thenOpen => exact takeHeld_placed answer placed tasked
  | installHeld friend hold manager thenOpen =>
      obtain ⟨idle, free, unheld, kept, -⟩ := tasked.alone rfl
      exact ⟨placed.installed free unheld kept, installed_tasked idle free⟩
  | buildFresh friend hold thenOpen =>
      obtain ⟨idle, free, unheld, found⟩ := tasked.alone rfl
      refine ⟨placed.unmoved rfl rfl (Nat.le_succ _) rfl, .next idle rfl ⟨free, unheld, ?_, found⟩⟩
      refine ⟨rfl, Nat.lt_succ_self _, ?_⟩
      intro there
      exact (placed.unbuilt _ there).false
  | installFresh friend hold manager thenOpen =>
      obtain ⟨idle, free, unheld, kept, -⟩ := tasked.alone rfl
      exact ⟨placed.installed free unheld kept, resumeOpen_tasked idle⟩
  | findRebuilt friend =>
      obtain ⟨idle, -⟩ := tasked.alone rfl
      simp only [execServer]
      split
      next manager live =>
        exact ⟨placed, .next idle rfl (placed.adds live)⟩
      next => exact ⟨placed, .rest idle nofun⟩
  | addTunnel manager =>
      obtain ⟨idle, -⟩ := tasked.alone rfl
      simp only [execServer]
      split
      · exact ⟨placed.unmoved rfl rfl (Nat.le_refl _) rfl, .rest idle nofun⟩
      · exact ⟨placed, .rest idle nofun⟩
  | teardownTunnelManager friend mode => exact teardownTunnelManager_placed answer placed tasked
  | closeAll manager mode =>
      obtain ⟨idle, built, neither⟩ := tasked.alone rfl
      refine ⟨placed.closed built neither, .rest idle ?_⟩
      intro other there
      obtain ⟨tunnel, -, rfl⟩ := List.mem_map.mp there
      rfl
  | closeAllLocal friend manager thenOpen => exact (tasked.alone rfl).2.elim
  | closeTunnel manager tunnel =>
      refine ⟨placed.unmoved rfl rfl (Nat.le_refl _) rfl, tasked.beside rfl nofun ?_⟩
      intro other fits
      cases other with
      | installHeld | installFresh =>
          obtain ⟨free, unheld, ⟨own, built, intact⟩, found⟩ := fits
          exact ⟨free, unheld, ⟨own, built, intact⟩, found⟩
      | _ => exact fits

theorem reach_placed {config : Config Server ServerAct}
    (reached : Reach (serverProgram resumeEnabled) onStrand FreshServer config) :
    Placed resumeEnabled config.shared ∧ Tasked config.shared config.bag := by
  apply Reach.bag_invariant (fun server bag => Placed resumeEnabled server ∧ Tasked server bag)
    _ _ _ reached
  · rintro server rfl
    exact ⟨⟨fun _ => .inl rfl, nofun, nofun, nofun⟩, .inl rfl⟩
  · rintro server bag op ⟨placed, tasked⟩ -
    refine ⟨placed, ?_⟩
    rw [Tasked, keep_add_of_not]
    · exact tasked
    · cases op <;> simp [serverProgram, startServer, inTask]
  · rintro answer server act others ⟨placed, tasked⟩ allowed
    exact exec_placed answer act placed tasked allowed

end Places

section Accounts
variable {resumeEnabled : Bool} {server after : Server} {act : ServerAct} {new : List ServerAct}
  {others : Multiset ServerAct}

/-- The task under way has the manager in its hands. -/
def Hands (manager : ManagerRef) : ServerAct → Prop
  | .installHeld _ _ other _ | .closeAll other _ | .closeAllLocal _ other _ => other = manager
  | _ => False

def Accounted (server : Server) (bag : Multiset ServerAct) : Prop :=
  ∀ manager, server.tunnels manager ≠ [] →
    InPlace server manager ∨ ∃ act ∈ bag, Hands manager act

theorem Accounted.step (accounted : Accounted server (act ::ₘ others))
    (grown : ∀ manager, after.tunnels manager ≠ [] →
      server.tunnels manager ≠ [] ∨ InPlace after manager)
    (moved : ∀ manager, after.tunnels manager ≠ [] → InPlace server manager ∨ Hands manager act →
      InPlace after manager ∨ ∃ next ∈ new, Hands manager next) :
    Accounted after (↑new + others) := by
  intro manager some_left
  have spawned (there : InPlace after manager ∨ ∃ next ∈ new, Hands manager next) :
      InPlace after manager ∨ ∃ next ∈
      (↑new + others : Multiset ServerAct), Hands manager next := by
    obtain there | ⟨next, is_new, hands⟩ := there
    · exact .inl there
    · exact .inr ⟨next, Multiset.mem_add.mpr (.inl (Multiset.mem_coe.mpr is_new)), hands⟩
  obtain before | there := grown manager some_left
  · obtain there | ⟨other, member, hands⟩ := accounted manager before
    · exact spawned (moved manager some_left (.inl there))
    · obtain rfl | rest := Multiset.mem_cons.mp member
      · exact spawned (moved manager some_left (.inr hands))
      · exact .inr ⟨other, Multiset.mem_add.mpr (.inr rest), hands⟩
  · exact .inl there

theorem Accounted.same (accounted : Accounted server (act ::ₘ others))
    (tunnels : ∀ manager, after.tunnels manager ≠ [] → server.tunnels manager ≠ [])
    (managers : after.managers = server.managers)
    (heldManagers : after.heldManagers = server.heldManagers)
    (empty_handed : ∀ manager, ¬Hands manager act) : Accounted after (↑new + others) := by
  refine accounted.step (fun manager some_left => .inl (tunnels manager some_left)) ?_
  intro manager _ there
  left
  rw [InPlace, managers, heldManagers]
  exact there.resolve_right (empty_handed manager)

theorem InPlace.tryEmplaced {friend : UInt32} {found : Option HeldManager}
    {manager other : ManagerRef} (there : InPlace server other)
    (free : server.managers friend = none) :
    InPlace (tryEmplace server friend found manager) other := by
  rw [tryEmplace_free free]
  obtain live | held := there
  · left
    have elsewhere : other.friend ≠ friend := by
      intro same
      rw [same, free] at live
      cases live
    simpa only [Function.update_of_ne elsewhere] using live
  · exact .inr held

theorem tryEmplace_inPlace {friend : UInt32} {found : Option HeldManager} {manager : ManagerRef}
    (free : server.managers friend = none) (own : manager.friend = friend) :
    InPlace (tryEmplace server friend found manager) manager := by
  rw [tryEmplace_free free]
  left
  rw [own]
  exact Function.update_self ..

theorem Accounted.kept {new : List ServerAct} (accounted : Accounted server (act ::ₘ others))
    (empty_handed : ∀ manager, ¬Hands manager act) : Accounted server (↑new + others) :=
  accounted.same (fun _ some_left => some_left) rfl rfl empty_handed

theorem pruneTimerFired_accounted {friend : UInt32} {timer : Nat} (answer : Answer)
    (accounted : Accounted server (.pruneTimerFired friend timer ::ₘ others)) :
    Accounted (execServer resumeEnabled answer server (.pruneTimerFired friend timer)).1
      (↑(execServer resumeEnabled answer server (.pruneTimerFired friend timer)).2 + others) := by
  simp only [execServer]
  split
  · exact accounted.kept nofun
  split
  · exact accounted.kept nofun
  next hold held =>
    split
    · exact accounted.kept nofun
    · refine accounted.step (fun _ some_left => .inl some_left) ?_
      rintro manager - ((live | ⟨hold', held', same⟩) | hands)
      · exact .inl (.inl live)
      · by_cases evicted : manager.friend = friend
        · rw [evicted, held, Option.some.injEq] at held'
          subst held'
          exact .inr ⟨_, List.mem_singleton_self _, same⟩
        · left
          right
          exact ⟨hold', (Function.update_of_ne evicted ..).trans held', same⟩
      · exact hands.elim

theorem takeHeld_accounted {friend : UInt32} {hold : Option HeldManager} {thenOpen : Bool}
    (answer : Answer)
    (accounted : Accounted server (.takeHeld friend hold thenOpen ::ₘ others)) :
    Accounted (execServer resumeEnabled answer server (.takeHeld friend hold thenOpen)).1
      (↑(execServer resumeEnabled answer server (.takeHeld friend hold thenOpen)).2 + others) := by
  simp only [execServer]
  split
  next held found =>
    refine accounted.step (fun _ some_left => .inl some_left) ?_
    rintro manager - ((live | ⟨hold', held', same⟩) | hands)
    · exact .inl (.inl live)
    · by_cases taken : manager.friend = friend
      · rw [taken, found, Option.some.injEq] at held'
        subst held'
        exact .inr ⟨_, List.mem_singleton_self _, same⟩
      · left
        right
        exact ⟨hold', (Function.update_of_ne taken ..).trans held', same⟩
    · exact hands.elim
  next => exact accounted.kept nofun

theorem addTunnel_accounted {manager : ManagerRef} (answer : Answer)
    (tasked : Tasked server (.addTunnel manager ::ₘ others))
    (accounted : Accounted server (.addTunnel manager ::ₘ others)) :
    Accounted (execServer resumeEnabled answer server (.addTunnel manager)).1
      (↑(execServer resumeEnabled answer server (.addTunnel manager)).2 + others) := by
  obtain ⟨-, live⟩ := tasked.alone rfl
  simp only [execServer]
  split
  · refine accounted.step ?_ ?_
    · intro other some_left
      by_cases same : other = manager
      · exact .inr (.inl (same ▸ live))
      · simp only [Function.update_of_ne same] at some_left
        exact .inl some_left
    · rintro other - (there | hands)
      · exact .inl there
      · exact hands.elim
  · exact accounted.kept nofun

theorem teardownTunnelManager_accounted {friend : UInt32} {mode : TeardownMode} (answer : Answer)
    (placed : Placed resumeEnabled server)
    (accounted : Accounted server (.teardownTunnelManager friend mode ::ₘ others)) :
    Accounted (execServer resumeEnabled answer server (.teardownTunnelManager friend mode)).1
      (↑(execServer resumeEnabled answer server (.teardownTunnelManager friend mode)).2 + others) := by
  simp only [execServer]
  split
  · exact accounted.kept nofun
  next manager live =>
    have own := (placed.live friend manager live).own
    have left_there {other : ManagerRef} (live' : server.managers other.friend = some other)
        (different : other ≠ manager) : other.friend ≠ friend := by
      intro same
      rw [same, live, Option.some.injEq] at live'
      exact different live'.symm
    have unheld {other : ManagerRef} {hold : HeldManager}
        (held : server.heldManagers other.friend = some hold) : other.friend ≠ friend := by
      intro same
      rw [same, placed.not_held live] at held
      cases held
    split
    · refine accounted.step (fun _ some_left => .inl some_left) ?_
      rintro other - ((live' | ⟨hold, held, same⟩) | hands)
      · left
        by_cases different : other = manager
        · subst different
          right
          refine ⟨⟨other, server.timers⟩, ?_, rfl⟩
          rw [own]
          exact Function.update_self ..
        · left
          exact (Function.update_of_ne (left_there live' different) ..).trans live'
      · left
        right
        exact ⟨hold, (Function.update_of_ne (unheld held) ..).trans held, same⟩
      · exact hands.elim
    · refine accounted.step (fun _ some_left => .inl some_left) ?_
      rintro other - ((live' | ⟨hold, held, same⟩) | hands)
      · by_cases different : other = manager
        · exact .inr ⟨_, List.mem_singleton_self _, different.symm⟩
        · left
          left
          exact (Function.update_of_ne (left_there live' different) ..).trans live'
      · exact .inl (.inr ⟨hold, held, same⟩)
      · exact hands.elim

theorem exec_accounted (answer : Answer) (act : ServerAct) (placed : Placed resumeEnabled server)
    (tasked : Tasked server (act ::ₘ others)) (accounted : Accounted server (act ::ₘ others)) :
    Accounted (execServer resumeEnabled answer server act).1
      (↑(execServer resumeEnabled answer server act).2 + others) := by
  cases act with
  | friendConnected friend | friendDisconnected friend => exact accounted.kept nofun
  | keepaliveVerdict friend judged =>
      simp only [execServer]
      split <;> exact accounted.kept nofun
  | pruneTimerFired friend timer => exact pruneTimerFired_accounted answer accounted
  | handleTunnelOpen friend =>
      simp only [execServer]
      split <;> exact accounted.kept nofun
  | removeTunnel manager tunnel =>
      simp only [execServer]
      split
      next there =>
        refine accounted.same ?_ rfl rfl nofun
        intro other some_left
        by_cases same : other = manager
        · rw [same]
          exact List.ne_nil_of_mem there
        · simpa only [Function.update_of_ne same] using some_left
      next => exact accounted.kept nofun
  | setupTunnelManager friend thenOpen =>
      simp only [execServer]
      split
      · exact accounted.same (fun _ some_left => some_left) rfl rfl nofun
      · exact accounted.kept nofun
      · exact accounted.kept nofun
  | takeHeld friend hold thenOpen => exact takeHeld_accounted answer accounted
  | installHeld friend hold manager thenOpen =>
      obtain ⟨-, free, -, kept', -⟩ := tasked.alone rfl
      refine accounted.step (fun other some_left => .inl ?_) ?_
      · simpa only [execServer, tryEmplace_free free] using some_left
      · rintro other - (there | rfl)
        · exact .inl (there.tryEmplaced free)
        · exact .inl (tryEmplace_inPlace free kept'.own)
  | buildFresh friend hold thenOpen =>
      exact accounted.same (fun _ some_left => some_left) rfl rfl nofun
  | installFresh friend hold manager thenOpen =>
      obtain ⟨-, free, -⟩ := tasked.alone rfl
      refine accounted.step (fun other some_left => .inl ?_) ?_
      · simpa only [execServer, tryEmplace_free free] using some_left
      · rintro other - (there | hands)
        · exact .inl (there.tryEmplaced free)
        · exact hands.elim
  | findRebuilt friend =>
      simp only [execServer]
      split <;> exact accounted.kept nofun
  | addTunnel manager => exact addTunnel_accounted answer tasked accounted
  | teardownTunnelManager friend mode => exact teardownTunnelManager_accounted answer placed accounted
  | closeAll manager mode =>
      refine accounted.step ?_ ?_
      · intro other some_left
        by_cases same : other = manager
        · simp [execServer, swapTunnels, same] at some_left
        · simp only [execServer, swapTunnels, Function.update_of_ne same] at some_left
          exact .inl some_left
      · rintro other some_left (there | rfl)
        · exact .inl there
        · simp [execServer, swapTunnels] at some_left
  | closeAllLocal friend manager thenOpen => exact (tasked.alone rfl).2.elim
  | closeTunnel manager tunnel =>
      exact accounted.same (fun _ some_left => some_left) rfl rfl nofun

theorem reach_accounted {config : Config Server ServerAct}
    (reached : Reach (serverProgram resumeEnabled) onStrand FreshServer config) :
    Accounted config.shared config.bag := by
  have reached := reached.knowing
    (fun server bag => Placed resumeEnabled server ∧ Tasked server bag)
    fun config before => reach_placed before
  apply Reach.bag_invariant Accounted _ _ _ reached
  · rintro server rfl manager some_left
    exact absurd rfl some_left
  · intro server bag op accounted _ manager some_left
    obtain there | ⟨act, member, hands⟩ := accounted manager some_left
    · exact .inl there
    · exact .inr ⟨act, Multiset.mem_add.mpr (.inr member), hands⟩
  · intro answer server act others accounted allowed
    exact exec_accounted answer act allowed.2.1 allowed.2.2 accounted

end Accounts

section Records
variable {resumeEnabled : Bool} {server : Server} {others : Multiset ServerAct}

/-- Every tunnel that was opened is still there, is being closed or was closed. -/
def Remembered (server : Server) (bag : Multiset ServerAct) : Prop :=
  ∀ entry ∈ server.opened, entry.2 ∈ server.tunnels entry.1 ∨
    .closeTunnel entry.1 entry.2 ∈ bag ∨ entry ∈ server.closed

theorem exec_remembered (answer : Answer) (act : ServerAct)
    (remembered : Remembered server (act ::ₘ others)) :
    Remembered (execServer resumeEnabled answer server act).1
      (↑(execServer resumeEnabled answer server act).2 + others) := by
  have kept {after : Server} {new : List ServerAct} (not_closing : ∀ manager tunnel,
      act ≠ .closeTunnel manager tunnel) (tunnels : after.tunnels = server.tunnels)
      (opened : after.opened = server.opened) (closed : after.closed = server.closed) :
      Remembered after (↑new + others) := by
    intro entry was_opened
    rw [opened] at was_opened
    rw [tunnels, closed]
    obtain there | closing | was_closed := remembered entry was_opened
    · exact .inl there
    · obtain same | rest := Multiset.mem_cons.mp closing
      · exact absurd same.symm (not_closing _ _)
      · exact .inr (.inl (Multiset.mem_add.mpr (.inr rest)))
    · exact .inr (.inr was_closed)
  have swapped (manager : ManagerRef) (tail : List ServerAct) (not_closing : ∀ manager tunnel,
      act ≠ .closeTunnel manager tunnel) : Remembered (swapTunnels server manager)
        (↑((server.tunnels manager).map (ServerAct.closeTunnel manager) ++ tail) + others) := by
    intro entry was_opened
    obtain there | closing | was_closed := remembered entry was_opened
    · by_cases same : entry.1 = manager
      · subst same
        right
        left
        apply Multiset.mem_add.mpr
        left
        exact List.mem_append_left _ (List.mem_map_of_mem there)
      · left
        simpa only [swapTunnels, Function.update_of_ne same] using there
    · obtain same | rest := Multiset.mem_cons.mp closing
      · exact absurd same.symm (not_closing _ _)
      · exact .inr (.inl (Multiset.mem_add.mpr (.inr rest)))
    · exact .inr (.inr was_closed)
  cases act with
  | friendConnected | friendDisconnected | buildFresh => exact kept nofun rfl rfl rfl
  | keepaliveVerdict | handleTunnelOpen | findRebuilt | setupTunnelManager | takeHeld =>
      simp only [execServer]
      split <;> exact kept nofun rfl rfl rfl
  | pruneTimerFired friend timer =>
      simp only [execServer]
      split
      · exact kept nofun rfl rfl rfl
      split
      · exact kept nofun rfl rfl rfl
      split <;> exact kept nofun rfl rfl rfl
  | installHeld | installFresh =>
      simp only [execServer, tryEmplace]
      split <;> exact kept nofun rfl rfl rfl
  | teardownTunnelManager friend mode =>
      simp only [execServer]
      split
      · exact kept nofun rfl rfl rfl
      split <;> exact kept nofun rfl rfl rfl
  | closeAll manager mode =>
      have closing := swapped manager [] nofun
      rw [List.append_nil] at closing
      exact closing
  | closeAllLocal friend manager thenOpen => exact swapped manager _ nofun
  | addTunnel manager =>
      simp only [execServer]
      split
      · intro entry was_opened
        obtain rfl | before := List.mem_cons.mp was_opened
        · left
          simp
        · obtain there | closing | was_closed := remembered entry before
          · left
            by_cases same : entry.1 = manager
            · simp only [same, Function.update_self]
              exact List.mem_cons_of_mem _ (same ▸ there)
            · simpa only [Function.update_of_ne same] using there
          · obtain same | rest := Multiset.mem_cons.mp closing
            · cases same
            · exact .inr (.inl (Multiset.mem_add.mpr (.inr rest)))
          · exact .inr (.inr was_closed)
      · exact kept nofun rfl rfl rfl
  | removeTunnel manager tunnel =>
      simp only [execServer]
      split
      · intro entry was_opened
        obtain there | closing | was_closed := remembered entry was_opened
        · by_cases same : entry = (manager, tunnel)
          · subst same
            exact .inr (.inl (Multiset.mem_add.mpr (.inl (Multiset.mem_coe.mpr (by simp)))))
          · left
            by_cases here : entry.1 = manager
            · have other : entry.2 ≠ tunnel := fun there => same (Prod.ext here there)
              simp only [here, Function.update_self, List.mem_filter, decide_eq_true_eq]
              exact ⟨here ▸ there, other⟩
            · simpa only [Function.update_of_ne here] using there
        · obtain same | rest := Multiset.mem_cons.mp closing
          · cases same
          · exact .inr (.inl (Multiset.mem_add.mpr (.inr rest)))
        · exact .inr (.inr was_closed)
      · exact kept nofun rfl rfl rfl
  | closeTunnel manager tunnel =>
      intro entry was_opened
      obtain there | closing | was_closed := remembered entry was_opened
      · exact .inl there
      · obtain same | rest := Multiset.mem_cons.mp closing
        · cases same
          exact .inr (.inr (List.mem_cons_self))
        · exact .inr (.inl (Multiset.mem_add.mpr (.inr rest)))
      · exact .inr (.inr (List.mem_cons_of_mem _ was_closed))

theorem reach_remembered {config : Config Server ServerAct}
    (reached : Reach (serverProgram resumeEnabled) onStrand FreshServer config) :
    Remembered config.shared config.bag := by
  apply Reach.bag_invariant Remembered _ _ _ reached
  · rintro server rfl
    exact nofun
  · intro server bag op remembered _ entry was_opened
    obtain there | closing | was_closed := remembered entry was_opened
    · exact .inl there
    · exact .inr (.inl (Multiset.mem_add.mpr (.inr closing)))
    · exact .inr (.inr was_closed)
  · intro answer server act others remembered _
    exact exec_remembered answer act remembered

/-- A setup that found a hold left its manager live, an eviction took the hold of the
handler's own timer, and no two holds have the same timer. -/
structure Recorded (server : Server) : Prop where
  setups : ∀ setup ∈ server.setups, ∀ hold, setup.hold = some hold →
    setup.live = some hold.manager
  evictions : ∀ eviction ∈ server.evictions,
    (eviction.friend, eviction.hold) ∈ server.holds ∧ eviction.hold.pruneTimer = eviction.timer
  held : ∀ friend hold, server.heldManagers friend = some hold → (friend, hold) ∈ server.holds
  used : ∀ entry ∈ server.holds, entry.2.pruneTimer < server.timers
  distinct : (server.holds.map fun entry => entry.2.pruneTimer).Nodup

theorem Recorded.emplaced (recorded : Recorded server) {friend : UInt32}
    {found : Option HeldManager} {manager : ManagerRef} (free : server.managers friend = none)
    (same : ∀ hold, found = some hold → hold.manager = manager) :
    Recorded (tryEmplace server friend found manager) := by
  rw [tryEmplace_free free]
  refine ⟨?_, recorded.evictions, recorded.held, recorded.used, recorded.distinct⟩
  intro setup there hold
  obtain rfl | before := List.mem_cons.mp there
  · intro is_found
    rw [same hold is_found]
  · exact recorded.setups setup before hold

theorem exec_recorded (answer : Answer) (act : ServerAct) (placed : Placed resumeEnabled server)
    (tasked : Tasked server (act ::ₘ others)) (recorded : Recorded server) :
    Recorded (execServer resumeEnabled answer server act).1 := by
  have kept {tunnels opened closed abandoned built} : Recorded
      { server with
        tunnels := tunnels, opened := opened, closed := closed, abandoned := abandoned
        built := built } :=
    ⟨recorded.setups, recorded.evictions, recorded.held, recorded.used, recorded.distinct⟩
  have dropped {friend other : UInt32} {hold : HeldManager} (held :
      Function.update server.heldManagers friend none other = some hold) :
      (other, hold) ∈ server.holds := by
    by_cases same : other = friend
    · simp [same] at held
    · rw [Function.update_of_ne same] at held
      exact recorded.held other hold held
  cases act with
  | friendConnected | friendDisconnected => exact recorded
  | keepaliveVerdict | handleTunnelOpen | findRebuilt =>
      simp only [execServer]
      split <;> exact recorded
  | buildFresh | closeAll | closeAllLocal | closeTunnel => exact kept
  | removeTunnel | addTunnel =>
      simp only [execServer]
      split
      · exact kept
      · exact recorded
  | pruneTimerFired friend timer =>
      simp only [execServer]
      split
      · exact recorded
      split
      · exact recorded
      next hold held =>
        split
        · exact recorded
        next owned =>
          refine ⟨recorded.setups, ?_, fun _ _ => dropped, recorded.used, recorded.distinct⟩
          intro eviction there
          obtain rfl | before := List.mem_cons.mp there
          · exact ⟨recorded.held friend hold held, not_not.mp owned⟩
          · exact recorded.evictions eviction before
  | setupTunnelManager friend thenOpen =>
      simp only [execServer]
      split
      next existing =>
        obtain ⟨manager, live⟩ := Option.isSome_iff_exists.mp (classify_keepExisting existing)
        refine ⟨?_, recorded.evictions, recorded.held, recorded.used, recorded.distinct⟩
        intro setup there hold
        obtain rfl | before := List.mem_cons.mp there
        · intro found
          rw [placed.not_held live] at found
          cases found
        · exact recorded.setups setup before hold
      · exact recorded
      · exact recorded
  | takeHeld friend hold thenOpen =>
      simp only [execServer]
      split
      · exact ⟨recorded.setups, recorded.evictions, fun _ _ => dropped, recorded.used,
          recorded.distinct⟩
      · exact recorded
  | installHeld friend hold manager thenOpen =>
      obtain ⟨-, free, -, -, found⟩ := tasked.alone rfl
      refine recorded.emplaced free ?_
      rintro hold rfl
      exact Option.some.inj found
  | installFresh friend hold manager thenOpen =>
      obtain ⟨-, free, -, -, rfl⟩ := tasked.alone rfl
      exact recorded.emplaced free nofun
  | teardownTunnelManager friend mode =>
      simp only [execServer]
      split
      · exact recorded
      next manager live =>
        split
        · constructor
          · exact recorded.setups
          · intro eviction there
            obtain ⟨was_held, own⟩ := recorded.evictions eviction there
            exact ⟨List.mem_cons_of_mem _ was_held, own⟩
          · intro other hold held
            by_cases same : other = friend
            · subst same
              simp only [Function.update_self, Option.some.injEq] at held
              rw [held]
              exact List.mem_cons_self
            · simp only [Function.update_of_ne same] at held
              exact List.mem_cons_of_mem _ (recorded.held other hold held)
          · intro entry there
            obtain rfl | before := List.mem_cons.mp there
            · exact Nat.lt_succ_self _
            · exact (recorded.used entry before).trans (Nat.lt_succ_self _)
          · refine List.nodup_cons.mpr ⟨?_, recorded.distinct⟩
            intro again
            obtain ⟨entry, there, same⟩ := List.mem_map.mp again
            have used := recorded.used entry there
            rw [same] at used
            exact used.false
        · refine ⟨recorded.setups, recorded.evictions, recorded.held, ?_, recorded.distinct⟩
          intro entry there
          exact (recorded.used entry there).trans (Nat.lt_succ_self _)

theorem reach_recorded {config : Config Server ServerAct}
    (reached : Reach (serverProgram resumeEnabled) onStrand FreshServer config) :
    Recorded config.shared := by
  have reached := reached.knowing
    (fun server bag => Placed resumeEnabled server ∧ Tasked server bag)
    fun config before => reach_placed before
  apply Reach.bag_invariant (fun server _ => Recorded server) _ _ _ reached
  · rintro server rfl
    exact ⟨nofun, nofun, nofun, nofun, .nil⟩
  · intro server bag op recorded _
    exact recorded
  · intro answer server act others recorded allowed
    exact exec_recorded answer act allowed.2.1 allowed.2.2 recorded

/-- A manager with tunnels that is in neither map is in the hands of the task under
way, which is about to close its tunnels or to make it live again. -/
def Leaves (server : Server) (manager : ManagerRef) : ServerAct → Prop
  | .closeAll other _ => other = manager
  | .installHeld friend _ other _ =>
      other = manager ∧ manager.friend = friend ∧ server.managers friend = none
  | _ => False

/-- On every run: a friend is in at most one map, under a manager of its own that was
never closed; a manager with tunnels is in a map, or the task under way closes them or
makes it live again; every tunnel is there, being closed or closed; a setup that found
a hold left the held manager live; and an expired timer took out its own hold only. -/
theorem managers_owned {config : Config Server ServerAct}
    (reached : Reach (serverProgram resumeEnabled) onStrand FreshServer config) :
    (∀ friend, config.shared.managers friend = none ∨
      config.shared.heldManagers friend = none) ∧
    (∀ manager ∈ config.shared.abandoned, ¬InPlace config.shared manager) ∧
    (∀ manager, config.shared.tunnels manager ≠ [] → InPlace config.shared manager ∨
      ∃ act ∈ config.bag, Leaves config.shared manager act) ∧
    (∀ manager tunnel, (manager, tunnel) ∈ config.shared.opened →
      tunnel ∈ config.shared.tunnels manager ∨ .closeTunnel manager tunnel ∈ config.bag ∨
        (manager, tunnel) ∈ config.shared.closed) ∧
    (∀ setup ∈ config.shared.setups, ∀ hold, setup.hold = some hold →
      setup.live = some hold.manager) ∧
    (config.shared.holds.map fun entry => entry.2.pruneTimer).Nodup ∧
    ∀ eviction ∈ config.shared.evictions,
      (eviction.friend, eviction.hold) ∈ config.shared.holds ∧
        eviction.hold.pruneTimer = eviction.timer := by
  obtain ⟨placed, tasked⟩ := reach_placed reached
  have accounted := reach_accounted reached
  have recorded := reach_recorded reached
  refine ⟨placed.exclusive, ?_, ?_, ?_, recorded.setups, recorded.distinct, recorded.evictions⟩
  · rintro manager closed (live | ⟨hold, held, rfl⟩)
    · exact (placed.live _ manager live).intact closed
    · exact (placed.held _ hold held).2.intact closed
  · intro manager some_left
    obtain there | ⟨act, member, hands⟩ := accounted manager some_left
    · exact .inl there
    · refine .inr ⟨act, member, ?_⟩
      obtain ⟨others, pending⟩ := Multiset.exists_cons_of_mem member
      rw [pending] at tasked
      cases act with
      | installHeld friend found other thenOpen =>
          obtain ⟨-, free, -, kept, -⟩ := tasked.alone rfl
          obtain rfl : other = manager := hands
          exact ⟨rfl, kept.own, free⟩
      | closeAll other mode => exact hands
      | closeAllLocal friend other thenOpen => exact (tasked.alone rfl).2.elim
      | _ => exact hands.elim
  · intro manager tunnel was_opened
    exact reach_remembered reached (manager, tunnel) was_opened

/-- A friend goes away twice and comes back once in between. The first hold's timer
fires after the second hold was made, and finds it still there. -/
theorem managers_owned_stale :
    ∃ config, Reach (serverProgram true) onStrand FreshServer config ∧
      config.shared.heldManagers 7 = some ⟨⟨7, 0⟩, 1⟩ ∧
      config.shared.setups.head?.map Setup.live = some (some ⟨7, 0⟩) ∧
      (config.shared.managers 7 = none ∨ config.shared.heldManagers 7 = none) := by
  let schedule : List (Event ServerOp Answer) :=
    [.call (.tunnelOpen 7), .run 0 {}, .run 0 {}, .run 0 {}, .run 0 {}, .run 0 {}, .run 0 {},
      .call (.friendDisconnected 7), .run 1 {}, .run 1 {},
      .call (.friendConnected 7), .run 2 {}, .run 2 {}, .run 2 {}, .run 2 {},
      .call (.friendDisconnected 7), .run 3 {}, .run 3 {}, .run 1 {}]
  obtain ⟨config, reached, shape⟩ :=
    Reach.exists_of_replay (serverProgram true) onStrand FreshServer {} schedule
      (fun config => decide (config.shared.heldManagers 7 = some ⟨⟨7, 0⟩, 1⟩ ∧
        config.shared.setups.head?.map Setup.live = some (some ⟨7, 0⟩))) rfl (by decide)
  obtain ⟨held, live⟩ := of_decide_eq_true shape
  exact ⟨config, reached, held, live, (managers_owned reached).1 7⟩

end Records

end ToxTunnel.ResumeHold
