import Mathlib.Logic.Function.Basic
import ToxTunnel.Interleaving

/-!
`PidFileGuard` in any number of processes and threads. Each system call of a constructor and
of a destructor is a step, and so is each look at the process's own set of claimed
directories, which a mutex guards. A process may die between any two steps.
-/

namespace ToxTunnel.PidGuard
open Interleaving

section Model

inductive Status where
  | acquired
  | alreadyLocked
  | failed
  deriving DecidableEq

/-- How far the life of a guard has come. -/
inductive Stage where
  | absent
  | building
  | standing
  | leaving
  | gone
  deriving DecidableEq

structure PidFileGuard where
  process : Nat := 0
  dataDir : String := ""
  claimKey : String := ""
  status : Status := .failed
  holderPid : Nat := 0
  error : String := ""
  lockFd : Bool := false
  stage : Stage := .absent
  deriving DecidableEq

/-- The pid that a pid file gives when it is read, and the guard that wrote it, if any. -/
structure PidFile where
  writer : Option Nat
  recorded : Option Nat
  deriving DecidableEq

/-- The guards there have ever been, the claimed directories of each process, and for each
directory the process that has the lock, and the pid file. -/
structure System where
  guards : Nat → PidFileGuard
  claimedDirs : Nat → String → Bool
  lock : Nat → Option Nat
  pidFile : Nat → Option PidFile
  crashed : Nat → Bool

/-- `weakly_canonical`, the directory that a path leads to, and the pids. -/
structure Place where
  weaklyCanonical : String → String
  directory : String → Nat
  pid : Nat → Nat

/-- What a system call answers: the text of its error, and whether that is a denied lock. -/
structure Chance where
  failure : Option String := none
  denied : Bool := false

inductive GuardAct where
  | construct (guard process : Nat) (dataDir : String)
  | claim (guard : Nat)
  | openLock (guard : Nat)
  | setLock (guard : Nat)
  | closeRefused (guard : Nat) (reason : Option String)
  | readHolder (guard : Nat)
  | createDir (guard : Nat)
  | stagePid (guard : Nat)
  | renamePid (guard : Nat)
  | acquire (guard : Nat)
  | destruct (guard : Nat)
  | readPid (guard : Nat)
  | unlinkPid (guard : Nat)
  | releaseLock (guard : Nat)
  | releaseClaim (guard : Nat)
  | crash (process : Nat)
  deriving DecidableEq

/-- The guard whose constructor or destructor the action belongs to. -/
def GuardAct.owner : GuardAct → Option Nat
  | .construct guard _ _ | .claim guard | .openLock guard | .setLock guard
  | .closeRefused guard _ | .readHolder guard | .createDir guard | .stagePid guard
  | .renamePid guard | .acquire guard | .destruct guard | .readPid guard | .unlinkPid guard
  | .releaseLock guard | .releaseClaim guard => some guard
  | .crash _ => none

def System.setGuard (system : System) (guard : Nat) (changed : PidFileGuard) : System :=
  { system with guards := Function.update system.guards guard changed }

def System.setClaim (system : System) (process : Nat) (key : String) (claimed : Bool) : System :=
  let dirs := Function.update (system.claimedDirs process) key claimed
  { system with claimedDirs := Function.update system.claimedDirs process dirs }

/-- The process closes a descriptor of the lock file. -/
def System.dropLock (system : System) (directory process : Nat) : System :=
  if system.lock directory = some process then
    { system with lock := Function.update system.lock directory none }
  else system

/-- A path concatenation, which adds no second separator. -/
def lockPath (dataDir : String) : String :=
  if dataDir = "" ∨ dataDir.toList.getLast? = some '/' then dataDir ++ "toxtunnel.lock"
  else dataDir ++ "/toxtunnel.lock"

/-- `read_pid_file`; the reading may fail. -/
def readPidFile (chance : Chance) (file : Option PidFile) : Option Nat :=
  if chance.failure.isSome then none else file.bind PidFile.recorded

variable (place : Place)

/-- The constructor before it touches anything that is shared. -/
def beginGuard (chance : Chance) (process : Nat) (dataDir : String) : PidFileGuard :=
  if dataDir = "" then
    { process, dataDir, error := "data_dir is empty", stage := .standing }
  else match chance.failure with
    | some reason =>
        { process, dataDir, error := "cannot create " ++ dataDir ++ ": " ++ reason,
          stage := .standing }
    | none => { process, dataDir, stage := .building }

/-- A step of a process that is alive. -/
def execAlive (chance : Chance) (system : System) : GuardAct → System × List GuardAct
  | .construct guard process dataDir =>
      let made := beginGuard chance process dataDir
      (system.setGuard guard made, if made.stage = .building then [.claim guard] else [])
  | .claim guard =>
      let self := system.guards guard
      let key := place.weaklyCanonical self.dataDir
      if system.claimedDirs self.process key then
        (system.setGuard guard { self with
          status := .alreadyLocked
          holderPid := place.pid self.process
          error := "this process already owns " ++ self.dataDir
          stage := .standing }, [])
      else ((system.setClaim self.process key true).setGuard guard { self with claimKey := key },
        [.openLock guard])
  | .openLock guard =>
      let self := system.guards guard
      match chance.failure with
      | some reason =>
          (system.setGuard guard { self with
            error := "cannot open " ++ lockPath self.dataDir ++ ": " ++ reason },
            [.releaseClaim guard])
      | none => (system, [.setLock guard])
  | .setLock guard =>
      let self := system.guards guard
      let directory := place.directory self.dataDir
      match chance.failure with
      | some reason => (system, [.closeRefused guard (if chance.denied then none else some reason)])
      | none =>
          if system.lock directory = none ∨ system.lock directory = some self.process then
            ({ system with
                lock := Function.update system.lock directory (some self.process) }.setGuard guard
              { self with lockFd := true }, [.createDir guard])
          else (system, [.closeRefused guard none])
  | .closeRefused guard reason =>
      let self := system.guards guard
      let closed := system.dropLock (place.directory self.dataDir) self.process
      match reason with
      | none => (closed, [.readHolder guard])
      | some reason =>
          (closed.setGuard guard { self with
            error := "cannot lock " ++ lockPath self.dataDir ++ ": " ++ reason },
            [.releaseClaim guard])
  | .readHolder guard =>
      let self := system.guards guard
      let file := system.pidFile (place.directory self.dataDir)
      (system.setGuard guard { self with
        status := .alreadyLocked
        holderPid := (readPidFile chance file).getD 0
        error := "another toxtunnel already owns " ++ self.dataDir }, [.releaseClaim guard])
  | .createDir guard =>
      let self := system.guards guard
      match chance.failure with
      | some reason =>
          (system.setGuard guard { self with
            error := "cannot create " ++ self.dataDir ++ ": " ++ reason }, [.releaseLock guard])
      | none => (system, [.stagePid guard])
  | .stagePid guard =>
      let self := system.guards guard
      match chance.failure with
      | some reason => (system.setGuard guard { self with error := reason }, [.releaseLock guard])
      | none => (system, [.renamePid guard])
  | .renamePid guard =>
      let self := system.guards guard
      match chance.failure with
      | some reason => (system.setGuard guard { self with error := reason }, [.releaseLock guard])
      | none =>
          let directory := place.directory self.dataDir
          let file := some ⟨some guard, some (place.pid self.process)⟩
          ({ system with pidFile := Function.update system.pidFile directory file },
            [.acquire guard])
  | .acquire guard =>
      let self := system.guards guard
      (system.setGuard guard { self with status := .acquired, stage := .standing }, [])
  | .destruct guard =>
      let self := system.guards guard
      (system.setGuard guard { self with stage := .leaving },
        if self.status = .acquired then [.readPid guard] else [.releaseLock guard])
  | .readPid guard =>
      let self := system.guards guard
      let recorded := readPidFile chance (system.pidFile (place.directory self.dataDir))
      (system, if recorded = some (place.pid self.process) then [.unlinkPid guard]
        else [.releaseLock guard])
  | .unlinkPid guard =>
      let directory := place.directory (system.guards guard).dataDir
      match chance.failure with
      | some _ => (system, [.releaseLock guard])
      | none => ({ system with pidFile := Function.update system.pidFile directory none },
          [.releaseLock guard])
  | .releaseLock guard =>
      let self := system.guards guard
      if self.lockFd then
        ((system.dropLock (place.directory self.dataDir) self.process).setGuard guard
          { self with lockFd := false }, [.releaseClaim guard])
      else (system, [.releaseClaim guard])
  | .releaseClaim guard =>
      let self := system.guards guard
      let after := if self.stage = .building then Stage.standing else .gone
      let erased := if self.claimKey = "" then system
        else system.setClaim self.process self.claimKey false
      (erased.setGuard guard { self with claimKey := "", stage := after }, [])
  | .crash process =>
      ({ system with
          crashed := Function.update system.crashed process true
          lock := fun directory =>
            if system.lock directory = some process then none else system.lock directory }, [])

/-- The process that runs an action. -/
def actor (system : System) : GuardAct → Option Nat
  | .construct _ process _ => some process
  | .crash _ => none
  | act => act.owner.map fun guard => (system.guards guard).process

/-- A dead process runs nothing any more. -/
def execGuard (chance : Chance) (system : System) (act : GuardAct) : System × List GuardAct :=
  match actor system act with
  | some process =>
      if system.crashed process then (system, []) else execAlive place chance system act
  | none => execAlive place chance system act

inductive GuardOp where
  | construct (guard process : Nat) (dataDir : String)
  | destroy (guard : Nat)
  | crash (process : Nat)

def guardProgram : Program System GuardAct GuardOp Chance where
  start op := match op with
    | .construct guard process dataDir => [.construct guard process dataDir]
    | .destroy guard => [.destruct guard]
    | .crash process => [.crash process]
  exec := execGuard place

/-- A guard is constructed once, and destroyed once, after its constructor has ended. -/
def proper : Guard System GuardAct GuardOp Chance := fun system bag move =>
  match move with
  | .call (.construct guard _ _) =>
      (system.guards guard).stage = .absent ∧ ∀ act ∈ bag, act.owner ≠ some guard
  | .call (.destroy guard) =>
      (system.guards guard).stage = .standing ∧ ∀ act ∈ bag, act.owner ≠ some guard
  | _ => True

instance : proper.Checked := fun system bag move => by
  unfold proper
  split <;> infer_instance

/-- No guard yet. The pid files may be what earlier daemons have left. -/
def Fresh (system : System) : Prop :=
  (∀ guard, system.guards guard = {}) ∧ (∀ process key, system.claimedDirs process key = false) ∧
    ∀ directory, system.lock directory = none

end Model

section Holdings
variable {place : Place} {system after : System} {guard other : Nat}

@[simp] theorem setGuard_self (system : System) (guard : Nat) (changed : PidFileGuard) :
    (system.setGuard guard changed).guards guard = changed := Function.update_self ..

theorem setGuard_other (system : System) (changed : PidFileGuard) (apart : other ≠ guard) :
    (system.setGuard guard changed).guards other = system.guards other :=
  Function.update_of_ne apart ..

theorem claimedDirs_setClaim (system : System) (process : Nat) (key : String) (claimed : Bool)
    (one : Nat) (name : String) :
    (system.setClaim process key claimed).claimedDirs one name =
      if one = process ∧ name = key then claimed else system.claimedDirs one name := by
  simp only [System.setClaim, Function.update_apply]
  split
  · subst one
    simp [Function.update_apply]
  · simp [*]

/-- What a guard holds, and where. -/
structure Holding where
  process : Nat
  dataDir : String
  claimKey : String
  lockFd : Bool

def System.holding (system : System) (guard : Nat) : Holding :=
  let self := system.guards guard
  ⟨self.process, self.dataDir, self.claimKey, self.lockFd⟩

def System.Alive (system : System) (guard : Nat) : Prop :=
  system.crashed (system.holding guard).process = false

/-- The claims are those of the guards, and no two guards of a process claim one directory. -/
structure Claims (place : Place) (system : System) : Prop where
  claim : ∀ guard, system.Alive guard → (system.holding guard).claimKey ≠ "" →
    (system.holding guard).claimKey =
        place.weaklyCanonical (system.holding guard).dataDir ∧
      system.claimedDirs (system.holding guard).process (system.holding guard).claimKey = true
  alone : ∀ guard other, system.Alive guard → (system.holding guard).claimKey ≠ "" →
    (system.holding other).process = (system.holding guard).process →
    (system.holding other).claimKey = (system.holding guard).claimKey → other = guard
  claimed : ∀ process key, system.crashed process = false →
    system.claimedDirs process key = true → key ≠ "" ∧
      ∃ guard, (system.holding guard).process = process ∧ (system.holding guard).claimKey = key

/-- The locks are those of the guards, and a guard claims what it has locked. -/
structure Locks (place : Place) (system : System) : Prop where
  lock : ∀ guard, system.Alive guard → (system.holding guard).lockFd = true →
    (system.holding guard).claimKey ≠ "" ∧
      system.lock (place.directory (system.holding guard).dataDir) =
        some (system.holding guard).process
  locked : ∀ directory process, system.lock directory = some process →
    system.crashed process = false ∧ ∃ guard, (system.holding guard).process = process ∧
      place.directory (system.holding guard).dataDir = directory ∧
      (system.holding guard).lockFd = true

structure Held (place : Place) (system : System) : Prop extends
  Claims place system, Locks place system

theorem Held.relabel (held : Held place system) (same : after.holding = system.holding)
    (claims : after.claimedDirs = system.claimedDirs) (locks : after.lock = system.lock)
    (dead : after.crashed = system.crashed) : Held place after := by
  obtain ⟨⟨claim, alone, claimed⟩, ⟨lock, locked⟩⟩ := held
  simp only [System.Alive, ← same, ← claims, ← locks, ← dead] at claim alone claimed lock locked
  exact ⟨⟨claim, alone, claimed⟩, ⟨lock, locked⟩⟩

theorem holding_setGuard (system : System) (guard : Nat) (changed : PidFileGuard) :
    (system.setGuard guard changed).holding = Function.update system.holding guard
      ⟨changed.process, changed.dataDir, changed.claimKey, changed.lockFd⟩ := by
  funext other
  by_cases same : other = guard
  · subst same
    simp [System.holding]
  · rw [Function.update_of_ne same, System.holding, setGuard_other system changed same]
    rfl

/-- Two names of a directory have one key, and a key is not empty. -/
structure OneKey (place : Place) : Prop where
  same : ∀ path other, place.directory path = place.directory other →
    place.weaklyCanonical path = place.weaklyCanonical other
  named : ∀ path, path ≠ "" → place.weaklyCanonical path ≠ ""

theorem Held.exclusive (held : Held place system) (oneKey : OneKey place)
    (alive : system.Alive guard) (alive' : system.Alive other)
    (locked : (system.holding guard).lockFd = true) (locked' : (system.holding other).lockFd = true)
    (same : place.directory (system.holding other).dataDir =
      place.directory (system.holding guard).dataDir) : other = guard := by
  obtain ⟨named, owner⟩ := held.lock guard alive locked
  obtain ⟨named', owner'⟩ := held.lock other alive' locked'
  have process : (system.holding other).process = (system.holding guard).process := by
    rw [same, owner] at owner'
    exact (Option.some.inj owner').symm
  have key : (system.holding other).claimKey = (system.holding guard).claimKey := by
    rw [(held.claim other alive' named').1, (held.claim guard alive named).1]
    exact oneKey.same _ _ same
  exact held.alone guard other alive named process key

/-- A guard that has a claim but not the lock may close the lock file: its process has no
lock on it. -/
theorem Held.close_harmless (held : Held place system) (oneKey : OneKey place)
    (alive : system.Alive guard) (claims : (system.holding guard).claimKey ≠ "")
    (unlocked : (system.holding guard).lockFd = false) :
    system.dropLock (place.directory (system.holding guard).dataDir)
      (system.holding guard).process = system := by
  refine if_neg fun owner => ?_
  obtain ⟨_, holder, process, directory, locked⟩ := held.locked _ _ owner
  have alive' : system.Alive holder := by
    rw [System.Alive, process]
    exact alive
  have named := (held.lock holder alive' locked).1
  have key : (system.holding holder).claimKey = (system.holding guard).claimKey := by
    rw [(held.claim holder alive' named).1, (held.claim guard alive claims).1]
    exact oneKey.same _ _ directory
  rw [held.alone guard holder alive claims process key, unlocked] at locked
  cases locked

theorem Held.empty_handed (held : Held place system)
    (none_before : (system.holding guard).claimKey = "" ∧ (system.holding guard).lockFd = false)
    (none_after : (after.holding guard).claimKey = "" ∧ (after.holding guard).lockFd = false)
    (others : ∀ other, other ≠ guard → after.holding other = system.holding other)
    (claims : after.claimedDirs = system.claimedDirs) (locks : after.lock = system.lock)
    (dead : after.crashed = system.crashed) : Held place after where
  claim := by
    intro holder alive named
    have apart : holder ≠ guard := by
      rintro rfl
      exact named none_after.1
    simp only [System.Alive, others holder apart, claims, dead] at alive named ⊢
    exact held.claim holder alive named
  alone := by
    intro holder rival alive named process key
    have apart : holder ≠ guard := by
      rintro rfl
      exact named none_after.1
    have apart' : rival ≠ guard := by
      rintro rfl
      exact named (key ▸ none_after.1)
    simp only [System.Alive, others holder apart, others rival apart', dead]
      at alive named process key
    exact held.alone holder rival alive named process key
  claimed := by
    intro process key alive there
    rw [dead] at alive
    rw [claims] at there
    obtain ⟨named, holder, here, same⟩ := held.claimed process key alive there
    have apart : holder ≠ guard := by
      rintro rfl
      exact named (same ▸ none_before.1)
    exact ⟨named, holder, by rw [others holder apart]; exact here,
      by rw [others holder apart]; exact same⟩
  lock := by
    intro holder alive locked
    have apart : holder ≠ guard := by
      rintro rfl
      rw [none_after.2] at locked
      cases locked
    simp only [System.Alive, others holder apart, locks, dead] at alive locked ⊢
    exact held.lock holder alive locked
  locked := by
    intro directory process owner
    rw [locks] at owner
    obtain ⟨alive, holder, here, same, locked⟩ := held.locked directory process owner
    have apart : holder ≠ guard := by
      rintro rfl
      rw [none_before.2] at locked
      cases locked
    exact ⟨by rw [dead]; exact alive, holder, by rw [others holder apart]; exact here,
      by rw [others holder apart]; exact same, by rw [others holder apart]; exact locked⟩

theorem Claims.relabel (claims : Claims place system)
    (fields : ∀ guard, (after.holding guard).process = (system.holding guard).process ∧
      (after.holding guard).dataDir = (system.holding guard).dataDir ∧
      (after.holding guard).claimKey = (system.holding guard).claimKey)
    (dirs : after.claimedDirs = system.claimedDirs) (dead : after.crashed = system.crashed) :
    Claims place after where
  claim := by
    intro holder alive named
    obtain ⟨process, dataDir, key⟩ := fields holder
    simp only [System.Alive, process, dataDir, key, dirs, dead] at alive named ⊢
    exact claims.claim holder alive named
  alone := by
    intro holder rival alive named process key
    obtain ⟨process', -, key'⟩ := fields holder
    obtain ⟨process'', -, key''⟩ := fields rival
    simp only [System.Alive, process', key', process'', key'', dead] at alive named process key
    exact claims.alone holder rival alive named process key
  claimed := by
    intro process key alive there
    rw [dead] at alive
    rw [dirs] at there
    obtain ⟨named, holder, process', key'⟩ := claims.claimed process key alive there
    exact ⟨named, holder, (fields holder).1.trans process', (fields holder).2.2.trans key'⟩

theorem Held.lock_taken (held : Held place system) (self : Holding)
    (before : system.holding guard = self) (named : self.claimKey ≠ "")
    (alive : system.crashed self.process = false)
    (here : after.holding guard = { self with lockFd := true })
    (others : ∀ other, other ≠ guard → after.holding other = system.holding other)
    (claims : after.claimedDirs = system.claimedDirs) (dead : after.crashed = system.crashed)
    (open_ : system.lock (place.directory self.dataDir) = none ∨
      system.lock (place.directory self.dataDir) = some self.process)
    (locks : after.lock =
      Function.update system.lock (place.directory self.dataDir) (some self.process)) :
    Held place after := by
  have fields : ∀ other, (after.holding other).process = (system.holding other).process ∧
      (after.holding other).dataDir = (system.holding other).dataDir ∧
      (after.holding other).claimKey = (system.holding other).claimKey := by
    intro other
    by_cases same : other = guard
    · rw [same, here, before]
      exact ⟨rfl, rfl, rfl⟩
    · rw [others other same]
      exact ⟨rfl, rfl, rfl⟩
  refine ⟨held.toClaims.relabel fields claims dead, ⟨?_, ?_⟩⟩
  · intro holder alive' locked
    by_cases same : holder = guard
    · subst same
      rw [here, locks]
      exact ⟨named, Function.update_self ..⟩
    · simp only [System.Alive, others holder same, dead] at alive' locked ⊢
      obtain ⟨claims', owner⟩ := held.lock holder alive' locked
      refine ⟨claims', ?_⟩
      rw [locks]
      by_cases there : place.directory (system.holding holder).dataDir =
          place.directory self.dataDir
      · -- The lock was free or this process's own.
        rw [there, Function.update_self]
        rw [there] at owner
        rcases open_ with free | own
        · rw [free] at owner
          cases owner
        · exact own.symm.trans owner
      · rw [Function.update_of_ne there]
        exact owner
  · intro directory process owner
    rw [locks] at owner
    by_cases there : directory = place.directory self.dataDir
    · subst there
      rw [Function.update_self] at owner
      obtain rfl := Option.some.inj owner
      exact ⟨by rw [dead]; exact alive, guard, by rw [here], by rw [here], by rw [here]⟩
    · rw [Function.update_of_ne there] at owner
      obtain ⟨alive', holder, process', same, locked⟩ := held.locked directory process owner
      have apart : holder ≠ guard := by
        rintro rfl
        rw [before] at same
        exact there same.symm
      exact ⟨by rw [dead]; exact alive', holder, by rw [others holder apart]; exact process',
        by rw [others holder apart]; exact same, by rw [others holder apart]; exact locked⟩

theorem Held.lock_dropped (held : Held place system) (oneKey : OneKey place) (self : Holding)
    (before : system.holding guard = self) (locked : self.lockFd = true)
    (alive : system.crashed self.process = false)
    (here : after.holding guard = { self with lockFd := false })
    (others : ∀ other, other ≠ guard → after.holding other = system.holding other)
    (claims : after.claimedDirs = system.claimedDirs) (dead : after.crashed = system.crashed)
    (locks : after.lock = Function.update system.lock (place.directory self.dataDir) none) :
    Held place after := by
  subst before
  have fields : ∀ other, (after.holding other).process = (system.holding other).process ∧
      (after.holding other).dataDir = (system.holding other).dataDir ∧
      (after.holding other).claimKey = (system.holding other).claimKey := by
    intro other
    by_cases same : other = guard
    · rw [same, here]
      exact ⟨rfl, rfl, rfl⟩
    · rw [others other same]
      exact ⟨rfl, rfl, rfl⟩
  refine ⟨held.toClaims.relabel fields claims dead, ⟨?_, ?_⟩⟩
  · intro holder alive' locked'
    have apart : holder ≠ guard := by
      rintro rfl
      rw [here] at locked'
      cases locked'
    simp only [System.Alive, others holder apart, dead] at alive' locked' ⊢
    obtain ⟨named, owner⟩ := held.lock holder alive' locked'
    have elsewhere : place.directory (system.holding holder).dataDir ≠
        place.directory (system.holding guard).dataDir :=
      fun same => apart (held.exclusive oneKey alive alive' locked locked' same)
    rw [locks, Function.update_of_ne elsewhere]
    exact ⟨named, owner⟩
  · intro directory process owner
    have elsewhere : directory ≠ place.directory (system.holding guard).dataDir := by
      rintro rfl
      rw [locks, Function.update_self] at owner
      cases owner
    rw [locks, Function.update_of_ne elsewhere] at owner
    obtain ⟨alive', holder, process', same, locked'⟩ := held.locked directory process owner
    have apart : holder ≠ guard := by
      rintro rfl
      exact elsewhere same.symm
    exact ⟨by rw [dead]; exact alive', holder, by rw [others holder apart]; exact process',
      by rw [others holder apart]; exact same, by rw [others holder apart]; exact locked'⟩

theorem Locks.relabel (locks : Locks place system)
    (unlocked : (system.holding guard).lockFd = false)
    (unlocked' : (after.holding guard).lockFd = false)
    (others : ∀ other, other ≠ guard → after.holding other = system.holding other)
    (same : after.lock = system.lock) (dead : after.crashed = system.crashed) :
    Locks place after where
  lock := by
    intro holder alive locked
    have apart : holder ≠ guard := by
      rintro rfl
      rw [unlocked'] at locked
      cases locked
    simp only [System.Alive, others holder apart, same, dead] at alive locked ⊢
    exact locks.lock holder alive locked
  locked := by
    intro directory process owner
    rw [same] at owner
    obtain ⟨alive, holder, here, there, locked⟩ := locks.locked directory process owner
    have apart : holder ≠ guard := by
      rintro rfl
      rw [unlocked] at locked
      cases locked
    exact ⟨by rw [dead]; exact alive, holder, by rw [others holder apart]; exact here,
      by rw [others holder apart]; exact there, by rw [others holder apart]; exact locked⟩

theorem Held.claim_taken (held : Held place system) {self : Holding} {key : String}
    (before : system.holding guard = self) (none_before : self.claimKey = "")
    (unlocked : self.lockFd = false) (is_key : key = place.weaklyCanonical self.dataDir)
    (named : key ≠ "") (free : system.claimedDirs self.process key = false)
    (alive : system.crashed self.process = false)
    (here : after.holding guard = { self with claimKey := key })
    (others : ∀ other, other ≠ guard → after.holding other = system.holding other)
    (claims : ∀ process name, after.claimedDirs process name =
      if process = self.process ∧ name = key then true else system.claimedDirs process name)
    (locks : after.lock = system.lock) (dead : after.crashed = system.crashed) :
    Held place after := by
  subst before
  refine ⟨⟨?_, ?_, ?_⟩, held.toLocks.relabel unlocked (by rw [here]; exact unlocked) others
    locks dead⟩
  · intro holder alive' named'
    by_cases same : holder = guard
    · subst same
      rw [here, claims]
      exact ⟨is_key, by simp⟩
    · simp only [System.Alive, others holder same, dead] at alive' named' ⊢
      obtain ⟨is_key', claimed⟩ := held.claim holder alive' named'
      refine ⟨is_key', ?_⟩
      rw [claims]
      split
      · rfl
      · exact claimed
  · -- A rival with the same key would have had it in the set of claims.
    have rivals : ∀ rival, rival ≠ guard → (system.holding rival).process =
        (system.holding guard).process → (system.holding rival).claimKey ≠ key := by
      intro rival apart process same
      have alive' : system.Alive rival := by
        rw [System.Alive, process]
        exact alive
      have claimed := (held.claim rival alive' (same ▸ named)).2
      rw [process, same, free] at claimed
      cases claimed
    intro holder rival alive' named' process same
    by_cases first : holder = guard
    · subst first
      by_contra apart
      rw [others rival apart, here] at process same
      exact rivals rival apart process same
    · by_cases second : rival = guard
      · subst second
        rw [others holder first, here] at process same
        exact absurd same.symm (rivals holder first process.symm)
      · simp only [System.Alive, others holder first, others rival second, dead]
          at alive' named' process same
        exact held.alone holder rival alive' named' process same
  · intro process name alive' there
    rw [dead] at alive'
    rw [claims] at there
    by_cases mine : process = (system.holding guard).process ∧ name = key
    · obtain ⟨rfl, rfl⟩ := mine
      exact ⟨named, guard, by rw [here], by rw [here]⟩
    · rw [if_neg mine] at there
      obtain ⟨named', holder, process', same⟩ := held.claimed process name alive' there
      have apart : holder ≠ guard := by
        rintro rfl
        exact named' (same ▸ none_before)
      exact ⟨named', holder, by rw [others holder apart]; exact process',
        by rw [others holder apart]; exact same⟩

theorem Held.claim_erased (held : Held place system) (self : Holding)
    (before : system.holding guard = self) (named : self.claimKey ≠ "")
    (unlocked : self.lockFd = false) (alive : system.crashed self.process = false)
    (here : after.holding guard = { self with claimKey := "" })
    (others : ∀ other, other ≠ guard → after.holding other = system.holding other)
    (claims : ∀ process name, after.claimedDirs process name =
      if process = self.process ∧ name = self.claimKey then false
      else system.claimedDirs process name)
    (locks : after.lock = system.lock) (dead : after.crashed = system.crashed) :
    Held place after := by
  subst before
  refine ⟨⟨?_, ?_, ?_⟩, held.toLocks.relabel unlocked (by rw [here]; exact unlocked) others
    locks dead⟩
  · intro holder alive' named'
    have apart : holder ≠ guard := by
      rintro rfl
      exact named' (by rw [here])
    simp only [System.Alive, others holder apart, dead] at alive' named' ⊢
    obtain ⟨is_key, claimed⟩ := held.claim holder alive' named'
    refine ⟨is_key, ?_⟩
    rw [claims, if_neg]
    · exact claimed
    · rintro ⟨process, same⟩
      exact apart (held.alone guard holder alive named process same)
  · intro holder rival alive' named' process same
    have apart : holder ≠ guard := by
      rintro rfl
      exact named' (by rw [here])
    have apart' : rival ≠ guard := by
      rintro rfl
      rw [here] at same
      exact named' same.symm
    simp only [System.Alive, others holder apart, others rival apart', dead]
      at alive' named' process same
    exact held.alone holder rival alive' named' process same
  · intro process name alive' there
    rw [dead] at alive'
    rw [claims] at there
    by_cases mine : process = (system.holding guard).process ∧
        name = (system.holding guard).claimKey
    · rw [if_pos mine] at there
      cases there
    · rw [if_neg mine] at there
      obtain ⟨named', holder, process', same⟩ := held.claimed process name alive' there
      have apart : holder ≠ guard := by
        rintro rfl
        exact mine ⟨process'.symm, same.symm⟩
      exact ⟨named', holder, by rw [others holder apart]; exact process',
        by rw [others holder apart]; exact same⟩

theorem Held.crash (held : Held place system) (process : Nat)
    (same : after.holding = system.holding) (claims : after.claimedDirs = system.claimedDirs)
    (dead : after.crashed = Function.update system.crashed process true)
    (locks : after.lock = fun directory =>
      if system.lock directory = some process then none else system.lock directory) :
    Held place after := by
  have survives : ∀ one, after.crashed one = false → one ≠ process ∧ system.crashed one = false := by
    intro one alive
    rw [dead] at alive
    have apart : one ≠ process := by
      rintro rfl
      rw [Function.update_self] at alive
      cases alive
    rw [Function.update_of_ne apart] at alive
    exact ⟨apart, alive⟩
  refine ⟨⟨?_, ?_, ?_⟩, ⟨?_, ?_⟩⟩
  · intro holder alive named
    rw [System.Alive, same] at alive
    rw [same] at named
    rw [same, claims]
    exact held.claim holder (survives _ alive).2 named
  · intro holder rival alive named process' key
    rw [System.Alive, same] at alive
    rw [same] at named process' key
    exact held.alone holder rival (survives _ alive).2 named process' key
  · intro one key alive there
    rw [claims] at there
    rw [same]
    exact held.claimed one key (survives one alive).2 there
  · intro holder alive locked
    rw [System.Alive, same] at alive
    rw [same] at locked
    obtain ⟨apart, alive⟩ := survives _ alive
    obtain ⟨named, owner⟩ := held.lock holder alive locked
    rw [same, locks]
    refine ⟨named, ?_⟩
    show (if _ then none else _) = _
    rw [if_neg, owner]
    rw [owner]
    exact fun other => apart (Option.some.inj other)
  · intro directory one owner
    rw [locks] at owner
    simp only at owner
    split at owner
    next => cases owner
    next apart =>
      obtain ⟨alive, holder⟩ := held.locked directory one owner
      refine ⟨?_, by rw [same]; exact holder⟩
      rw [dead, Function.update_of_ne]
      · exact alive
      · rintro rfl
        exact apart owner

end Holdings

section Stages
variable {place : Place} {system after : System} {guard : Nat} {act : GuardAct}
  {others : Multiset GuardAct}

/-- The pid file is the one that the guard wrote. -/
def Owns (place : Place) (system : System) (guard : Nat) : Prop :=
  let self := system.guards guard
  system.pidFile (place.directory self.dataDir) = some ⟨some guard, some (place.pid self.process)⟩

def PidFileGuard.Building (self : PidFileGuard) : Prop :=
  self.stage = .building ∧ self.status ≠ .acquired ∧ self.dataDir ≠ ""

/-- What a guard holds when one of its actions is about to run. -/
def Ready (self : PidFileGuard) (owns : Prop) : GuardAct → Prop
  | .construct _ _ _ => self.stage = .absent
  | .claim _ => self.Building ∧ self.claimKey = "" ∧ self.lockFd = false
  | .openLock _ | .setLock _ | .closeRefused _ _ | .readHolder _ =>
      self.Building ∧ self.claimKey ≠ "" ∧ self.lockFd = false
  | .createDir _ | .stagePid _ | .renamePid _ => self.Building ∧ self.lockFd = true
  | .acquire _ => self.Building ∧ self.lockFd = true ∧ owns
  | .destruct _ => self.stage = .standing
  | .readPid _ | .unlinkPid _ => self.stage = .leaving ∧ self.lockFd = true
  | .releaseLock _ => self.Building ∨ self.stage = .leaving
  | .releaseClaim _ => (self.Building ∨ self.stage = .leaving) ∧ self.lockFd = false
  | .crash _ => True

/-- A pending action finds its guard ready for it, unless the process has died. -/
def Fits (place : Place) (system : System) : GuardAct → Prop
  | .construct guard _ _ => (system.guards guard).stage = .absent
  | act => ∀ guard, act.owner = some guard → system.Alive guard →
      Ready (system.guards guard) (Owns place system guard) act

/-- What a guard holds when none of its code is running. -/
structure Rests (place : Place) (system : System) (guard : Nat) : Prop where
  absent : (system.guards guard).stage = .absent →
    (system.guards guard).claimKey = "" ∧ (system.guards guard).lockFd = false
  acquired : system.Alive guard → (system.guards guard).stage = .standing →
    (system.guards guard).status = .acquired →
      (system.guards guard).lockFd = true ∧ Owns place system guard
  refused : system.Alive guard → (system.guards guard).stage = .standing →
    (system.guards guard).status ≠ .acquired →
      (system.guards guard).claimKey = "" ∧ (system.guards guard).lockFd = false
  gone : system.Alive guard → (system.guards guard).stage = .gone →
    (system.guards guard).claimKey = "" ∧ (system.guards guard).lockFd = false

structure Guarded (place : Place) (system : System) (bag : Multiset GuardAct) : Prop where
  held : Held place system
  alone : (bag.filterMap GuardAct.owner).Nodup
  fits : ∀ act ∈ bag, Fits place system act
  rests : ∀ guard, Rests place system guard

/-- A step touches the pid file of no other guard that has its lock. -/
structure Frame (place : Place) (guard : Nat) (system after : System) : Prop where
  guards : ∀ other, other ≠ guard → after.guards other = system.guards other
  crashed : after.crashed = system.crashed
  files : ∀ other, other ≠ guard → system.Alive other → (system.guards other).lockFd = true →
    Owns place system other → Owns place after other

theorem Frame.alive (frame : Frame place guard system after) {other : Nat} (apart : other ≠ guard) :
    after.Alive other ↔ system.Alive other := by
  simp only [System.Alive, System.holding, frame.guards other apart, frame.crashed]

theorem Frame.fits (frame : Frame place guard system after) {act : GuardAct}
    (apart : act.owner ≠ some guard) (fits : Fits place system act) : Fits place after act := by
  have ready : ∀ other, act.owner = some other → system.Alive other →
      Ready (system.guards other) (Owns place system other) act →
      Ready (after.guards other) (Owns place after other) act := by
    intro other owner alive ready
    have distinct : other ≠ guard := by
      rintro rfl
      exact apart owner
    rw [frame.guards other distinct]
    cases act with
    | acquire one =>
        obtain ⟨building, locked, owns⟩ := ready
        exact ⟨building, locked, frame.files other distinct alive locked owns⟩
    | _ => exact ready
  cases act with
  | construct one process dataDir =>
      have distinct : one ≠ guard := fun same => apart (same ▸ rfl)
      show (after.guards one).stage = .absent
      rw [frame.guards one distinct]
      exact fits
  | _ =>
      intro other owner alive
      have distinct : other ≠ guard := by
        rintro rfl
        exact apart owner
      have alive := (frame.alive distinct).mp alive
      exact ready other owner alive (fits other owner alive)

theorem Frame.rests (frame : Frame place guard system after) {other : Nat} (apart : other ≠ guard)
    (rests : Rests place system other) : Rests place after other := by
  have same := frame.guards other apart
  refine ⟨?_, ?_, ?_, ?_⟩
  · rw [same]
    exact rests.absent
  · intro alive standing acquired
    rw [same] at standing acquired ⊢
    have alive := (frame.alive apart).mp alive
    obtain ⟨locked, owns⟩ := rests.acquired alive standing acquired
    exact ⟨locked, frame.files other apart alive locked owns⟩
  · intro alive
    rw [same]
    exact rests.refused ((frame.alive apart).mp alive)
  · intro alive
    rw [same]
    exact rests.gone ((frame.alive apart).mp alive)

theorem Guarded.step (guarded : Guarded place system (act ::ₘ others))
    (owner : act.owner = some guard) {acts : List GuardAct} (held : Held place after)
    (frame : Frame place guard system after) (few : acts.length ≤ 1)
    (own : ∀ next ∈ acts, next.owner = some guard ∧ Fits place after next)
    (rests : Rests place after guard) : Guarded place after (↑acts + others) := by
  obtain ⟨_, alone, fits, rest⟩ := guarded
  rw [Multiset.filterMap_cons_some _ _ _ owner, Multiset.nodup_cons] at alone
  have apart : ∀ other ∈ others, other.owner ≠ some guard := by
    intro other member same
    exact alone.1 ((Multiset.mem_filterMap _ _).mpr ⟨other, member, same⟩)
  refine ⟨held, ?_, ?_, ?_⟩
  · match acts, few with
    | [], _ => simpa using alone.2
    | [next], _ =>
        have mine := (own next List.mem_cons_self).1
        rw [Multiset.coe_singleton, Multiset.singleton_add,
          Multiset.filterMap_cons_some _ _ _ mine, Multiset.nodup_cons]
        exact alone
  · intro next member
    rcases Multiset.mem_add.mp member with new | old
    · exact (own next (Multiset.mem_coe.mp new)).2
    · exact frame.fits (apart next old) (fits next (Multiset.mem_cons_of_mem old))
  · intro other
    by_cases same : other = guard
    · exact same ▸ rests
    · exact frame.rests same (rest other)

theorem Guarded.dropped (guarded : Guarded place system (act ::ₘ others)) :
    Guarded place system others where
  held := guarded.held
  alone := by
    have alone := guarded.alone
    cases owner : act.owner with
    | none => rwa [Multiset.filterMap_cons_none _ _ owner] at alone
    | some guard =>
        rw [Multiset.filterMap_cons_some _ _ _ owner, Multiset.nodup_cons] at alone
        exact alone.2
  fits := fun other member => guarded.fits other (Multiset.mem_cons_of_mem member)
  rests := guarded.rests

theorem Frame.of_files (guards : ∀ other, other ≠ guard → after.guards other = system.guards other)
    (crashed : after.crashed = system.crashed) (files : after.pidFile = system.pidFile) :
    Frame place guard system after where
  guards := guards
  crashed := crashed
  files := by
    intro other apart _ _ owns
    rw [Owns, guards other apart, files]
    exact owns

theorem fits_of_ready (owner : act.owner = some guard)
    (ready : Ready (system.guards guard) (Owns place system guard) act) :
    Fits place system act := by
  cases act with
  | construct one process dataDir =>
      obtain rfl := Option.some.inj owner
      exact ready
  | _ =>
      intro other same _
      obtain rfl := Option.some.inj (same.symm.trans owner)
      exact ready

theorem Fits.ready (fits : Fits place system act) (owner : act.owner = some guard)
    (alive : system.Alive guard) :
    Ready (system.guards guard) (Owns place system guard) act := by
  cases act with
  | construct one process dataDir =>
      obtain rfl := Option.some.inj owner
      exact fits
  | _ => exact fits guard owner alive

/-- Of a guard whose code is running, nothing is said between its actions. -/
theorem Rests.busy (busy : (system.guards guard).stage = .building ∨
    (system.guards guard).stage = .leaving) : Rests place system guard where
  absent := by
    intro absent
    rcases busy with busy | busy <;> rw [busy] at absent <;> cases absent
  acquired := by
    intro _ standing
    rcases busy with busy | busy <;> rw [busy] at standing <;> cases standing
  refused := by
    intro _ standing
    rcases busy with busy | busy <;> rw [busy] at standing <;> cases standing
  gone := by
    intro _ gone
    rcases busy with busy | busy <;> rw [busy] at gone <;> cases gone

theorem Rests.empty (refused : (system.guards guard).status ≠ .acquired ∨
      (system.guards guard).stage ≠ .standing)
    (empty : (system.guards guard).claimKey = "" ∧ (system.guards guard).lockFd = false) :
    Rests place system guard where
  absent := fun _ => empty
  acquired := by
    intro _ standing acquired
    rcases refused with refused | elsewhere
    · exact absurd acquired refused
    · exact absurd standing elsewhere
  refused := fun _ _ _ => empty
  gone := fun _ _ => empty

theorem Guarded.relabelled (guarded : Guarded place system (act ::ₘ others))
    (owner : act.owner = some guard) {changed : PidFileGuard} {acts : List GuardAct}
    (process : changed.process = (system.guards guard).process)
    (dataDir : changed.dataDir = (system.guards guard).dataDir)
    (claimKey : changed.claimKey = (system.guards guard).claimKey)
    (lockFd : changed.lockFd = (system.guards guard).lockFd) (few : acts.length ≤ 1)
    (own : ∀ next ∈ acts, next.owner = some guard ∧
      Fits place (system.setGuard guard changed) next)
    (rests : Rests place (system.setGuard guard changed) guard) :
    Guarded place (system.setGuard guard changed) (↑acts + others) := by
  have same : (system.setGuard guard changed).holding = system.holding := by
    rw [holding_setGuard, process, dataDir, claimKey, lockFd]
    exact Function.update_eq_self guard system.holding
  exact guarded.step owner (guarded.held.relabel same rfl rfl rfl)
    (.of_files (fun other apart => setGuard_other system changed apart) rfl rfl) few own rests

theorem Guarded.unchanged (guarded : Guarded place system (act ::ₘ others))
    (owner : act.owner = some guard) {acts : List GuardAct} (few : acts.length ≤ 1)
    (own : ∀ next ∈ acts, next.owner = some guard ∧ Fits place system next) :
    Guarded place system (↑acts + others) :=
  guarded.step owner guarded.held (.of_files (fun _ _ => rfl) rfl rfl) few own
    (guarded.rests guard)

theorem one_follows {next : GuardAct} (owner : next.owner = some guard)
    (ready : Ready (system.guards guard) (Owns place system guard) next) :
    ∀ one ∈ [next], one.owner = some guard ∧ Fits place system one := by
  intro one member
  obtain rfl := List.mem_singleton.mp member
  exact ⟨owner, fits_of_ready owner ready⟩

theorem Guarded.fails (guarded : Guarded place system (act ::ₘ others))
    (owner : act.owner = some guard) (building : (system.guards guard).Building) {error : String}
    {next : GuardAct} (next_owner : next.owner = some guard)
    (ready : ∀ owns, Ready { system.guards guard with error } owns next) :
    Guarded place (system.setGuard guard { system.guards guard with error })
      (↑[next] + others) := by
  refine guarded.relabelled owner rfl rfl rfl rfl (Nat.le_refl _) (one_follows next_owner ?_)
    (.busy (.inl ?_))
  · rw [setGuard_self]
    exact ready _
  · rw [setGuard_self]
    exact building.1

theorem none_follows : ∀ one ∈ ([] : List GuardAct), one.owner = some guard ∧
    Fits place system one := by
  intro one member
  cases member

end Stages

section Steps
variable {place : Place} {system : System} {guard : Nat} {others : Multiset GuardAct}

/-- What the invariant says after a step. -/
def Kept (place : Place) (others : Multiset GuardAct) (after : System × List GuardAct) : Prop :=
  Guarded place after.1 (↑after.2 + others)

theorem beginGuard_spec (chance : Chance) (process : Nat) (dataDir : String) :
    let made := beginGuard chance process dataDir
    (made.claimKey = "" ∧ made.lockFd = false) ∧ made.status ≠ .acquired ∧
      (made.stage = .standing ∨ made.stage = .building ∧ made.dataDir ≠ "") := by
  unfold beginGuard
  split
  · exact ⟨⟨rfl, rfl⟩, Status.noConfusion, .inl rfl⟩
  · rename_i named
    split
    · exact ⟨⟨rfl, rfl⟩, Status.noConfusion, .inl rfl⟩
    · exact ⟨⟨rfl, rfl⟩, Status.noConfusion, .inr ⟨rfl, named⟩⟩

theorem construct_kept {process : Nat} {dataDir : String} (chance : Chance)
    (guarded : Guarded place system (.construct guard process dataDir ::ₘ others)) :
    Kept place others (execAlive place chance system (.construct guard process dataDir)) := by
  have absent : (system.guards guard).stage = .absent :=
    guarded.fits (.construct guard process dataDir) (Multiset.mem_cons_self _ _)
  obtain ⟨empty, refused, stage⟩ := beginGuard_spec chance process dataDir
  show Guarded place (system.setGuard guard (beginGuard chance process dataDir))
    (↑(if _ then [GuardAct.claim guard] else [] : List GuardAct) + others)
  have made := setGuard_self system guard (beginGuard chance process dataDir)
  have held : Held place (system.setGuard guard (beginGuard chance process dataDir)) := by
    apply guarded.held.empty_handed ((guarded.rests guard).absent absent)
    · rw [holding_setGuard, Function.update_self]
      exact empty
    · intro other apart
      rw [holding_setGuard, Function.update_of_ne apart]
    all_goals rfl
  have frame : Frame place guard system
      (system.setGuard guard (beginGuard chance process dataDir)) :=
    .of_files (fun other apart => setGuard_other system _ apart) rfl rfl
  rcases stage with standing | ⟨building, named⟩
  · rw [if_neg (by rw [standing]; exact Stage.noConfusion)]
    refine guarded.step rfl held frame (Nat.zero_le _) none_follows (.empty (.inl ?_) ?_)
    · rwa [made]
    · rwa [made]
  · rw [if_pos building]
    refine guarded.step rfl held frame (Nat.le_refl _) (one_follows rfl ?_) (.busy (.inl ?_))
    · rw [made]
      exact ⟨⟨building, refused, named⟩, empty⟩
    · rwa [made]

theorem claim_kept (oneKey : OneKey place) (chance : Chance)
    (guarded : Guarded place system (.claim guard ::ₘ others)) (alive : system.Alive guard) :
    Kept place others (execAlive place chance system (.claim guard)) := by
  obtain ⟨⟨building, refused, named⟩, empty, unlocked⟩ :=
    (guarded.fits (.claim guard) (Multiset.mem_cons_self _ _)).ready rfl alive
  rw [Kept, execAlive]
  split
  next =>
    refine guarded.relabelled rfl rfl rfl rfl rfl (Nat.zero_le _) none_follows (.empty (.inl ?_) ?_)
    · rw [setGuard_self]
      exact Status.noConfusion
    · rw [setGuard_self]
      exact ⟨empty, unlocked⟩
  next free =>
    have held : Held place ((system.setClaim (system.guards guard).process
        (place.weaklyCanonical (system.guards guard).dataDir) true).setGuard guard
        { system.guards guard with
          claimKey := place.weaklyCanonical (system.guards guard).dataDir }) := by
      refine guarded.held.claim_taken rfl empty unlocked rfl (oneKey.named _ named)
        (Bool.eq_false_of_not_eq_true free) alive ?_ ?_ ?_ rfl rfl
      · rw [holding_setGuard, Function.update_self]
        rfl
      · intro other apart
        rw [holding_setGuard, Function.update_of_ne apart]
        rfl
      · exact claimedDirs_setClaim system _ _ true
    refine guarded.step rfl held ?_ (Nat.le_refl _) (one_follows rfl ?_) (.busy (.inl ?_))
    · exact .of_files (fun other apart => setGuard_other _ _ apart) rfl rfl
    · rw [setGuard_self]
      exact ⟨⟨building, refused, named⟩, oneKey.named _ named, unlocked⟩
    · rw [setGuard_self]
      exact building

theorem setLock_kept (chance : Chance)
    (guarded : Guarded place system (.setLock guard ::ₘ others)) (alive : system.Alive guard) :
    Kept place others (execAlive place chance system (.setLock guard)) := by
  have ready := (guarded.fits (.setLock guard) (Multiset.mem_cons_self _ _)).ready rfl alive
  have ⟨building, claims, unlocked⟩ := ready
  rw [Kept, execAlive]
  split
  next => exact guarded.unchanged rfl (Nat.le_refl _) (one_follows rfl ready)
  next =>
    split
    next open_ =>
      refine guarded.step rfl (guarded.held.lock_taken (system.holding guard) rfl claims alive
        ?_ ?_ rfl rfl open_ rfl) ?_ (Nat.le_refl _) (one_follows rfl ?_) (.busy (.inl ?_))
      · rw [holding_setGuard, Function.update_self]
        rfl
      · intro other apart
        rw [holding_setGuard, Function.update_of_ne apart]
        rfl
      · exact .of_files (fun other apart => setGuard_other _ _ apart) rfl rfl
      · rw [setGuard_self]
        exact ⟨building, rfl⟩
      · rw [setGuard_self]
        exact building.1
    next => exact guarded.unchanged rfl (Nat.le_refl _) (one_follows rfl ready)

theorem closeRefused_kept (oneKey : OneKey place) {reason : Option String} (chance : Chance)
    (guarded : Guarded place system (.closeRefused guard reason ::ₘ others))
    (alive : system.Alive guard) :
    Kept place others (execAlive place chance system (.closeRefused guard reason)) := by
  have ready :=
    (guarded.fits (.closeRefused guard reason) (Multiset.mem_cons_self _ _)).ready rfl alive
  have ⟨building, claims, unlocked⟩ := ready
  have closed : system.dropLock (place.directory (system.guards guard).dataDir)
      (system.guards guard).process = system :=
    guarded.held.close_harmless oneKey alive claims unlocked
  cases reason with
  | none =>
      rw [Kept, execAlive]
      simp only [closed]
      exact guarded.unchanged rfl (Nat.le_refl _) (one_follows rfl ready)
  | some reason =>
      rw [Kept, execAlive]
      simp only [closed]
      exact guarded.fails rfl building rfl fun _ => ⟨.inl building, unlocked⟩

/-- The guard that has the lock writes over no file of another guard that has one. -/
theorem Guarded.other_files {bag : Multiset GuardAct} (guarded : Guarded place system bag)
    (oneKey : OneKey place) (alive : system.Alive guard)
    (locked : (system.guards guard).lockFd = true) (file : Option PidFile) :
    let directory := place.directory (system.guards guard).dataDir
    let changed := { system with pidFile := Function.update system.pidFile directory file }
    ∀ other, other ≠ guard → system.Alive other → (system.guards other).lockFd = true →
      Owns place system other → Owns place changed other := by
  intro directory changed other apart alive' locked' owns
  have elsewhere : place.directory (system.guards other).dataDir ≠ directory :=
    fun same => apart (guarded.held.exclusive oneKey alive alive' locked locked' same)
  exact (Function.update_of_ne elsewhere _ _).trans owns

theorem renamePid_kept (oneKey : OneKey place) (chance : Chance)
    (guarded : Guarded place system (.renamePid guard ::ₘ others)) (alive : system.Alive guard) :
    Kept place others (execAlive place chance system (.renamePid guard)) := by
  obtain ⟨building, locked⟩ :=
    (guarded.fits (.renamePid guard) (Multiset.mem_cons_self _ _)).ready rfl alive
  rw [Kept, execAlive]
  split
  next =>
    exact guarded.fails rfl building rfl fun _ => .inl building
  next =>
    refine guarded.step rfl (guarded.held.relabel rfl rfl rfl rfl) ⟨fun _ _ => rfl, rfl, ?_⟩
      (Nat.le_refl _) (one_follows rfl ⟨building, locked, ?_⟩) (.busy (.inl building.1))
    · exact guarded.other_files oneKey alive locked _
    · exact Function.update_self ..

theorem unlinkPid_kept (oneKey : OneKey place) (chance : Chance)
    (guarded : Guarded place system (.unlinkPid guard ::ₘ others)) (alive : system.Alive guard) :
    Kept place others (execAlive place chance system (.unlinkPid guard)) := by
  obtain ⟨leaving, locked⟩ :=
    (guarded.fits (.unlinkPid guard) (Multiset.mem_cons_self _ _)).ready rfl alive
  rw [Kept, execAlive]
  split
  next => exact guarded.unchanged rfl (Nat.le_refl _) (one_follows rfl (.inr leaving))
  next =>
    exact guarded.step rfl (guarded.held.relabel rfl rfl rfl rfl)
      ⟨fun _ _ => rfl, rfl, guarded.other_files oneKey alive locked none⟩ (Nat.le_refl _)
      (one_follows rfl (.inr leaving)) (.busy (.inr leaving))

theorem releaseLock_kept (oneKey : OneKey place) (chance : Chance)
    (guarded : Guarded place system (.releaseLock guard ::ₘ others)) (alive : system.Alive guard) :
    Kept place others (execAlive place chance system (.releaseLock guard)) := by
  have busy := (guarded.fits (.releaseLock guard) (Multiset.mem_cons_self _ _)).ready rfl alive
  have stage : (system.guards guard).stage = .building ∨ (system.guards guard).stage = .leaving :=
    busy.imp_left And.left
  rw [Kept, execAlive]
  split
  next locked =>
    have owner := (guarded.held.lock guard alive locked).2
    have dropped : system.dropLock (place.directory (system.guards guard).dataDir)
        (system.guards guard).process = { system with
          lock := Function.update system.lock
            (place.directory (system.guards guard).dataDir) none } :=
      if_pos owner
    simp only [dropped]
    refine guarded.step rfl (guarded.held.lock_dropped oneKey (system.holding guard) rfl locked
      alive ?_ ?_ rfl rfl rfl) ?_ (Nat.le_refl _) (one_follows rfl ?_) (.busy ?_)
    · rw [holding_setGuard, Function.update_self]
      rfl
    · intro other apart
      rw [holding_setGuard, Function.update_of_ne apart]
      rfl
    · exact .of_files (fun other apart => setGuard_other _ _ apart) rfl rfl
    · rw [setGuard_self]
      exact ⟨busy, rfl⟩
    · rw [setGuard_self]
      exact stage
  next unlocked =>
    exact guarded.unchanged rfl (Nat.le_refl _)
      (one_follows rfl ⟨busy, Bool.eq_false_of_not_eq_true unlocked⟩)

theorem releaseClaim_kept (chance : Chance)
    (guarded : Guarded place system (.releaseClaim guard ::ₘ others))
    (alive : system.Alive guard) :
    Kept place others (execAlive place chance system (.releaseClaim guard)) := by
  obtain ⟨busy, unlocked⟩ :=
    (guarded.fits (.releaseClaim guard) (Multiset.mem_cons_self _ _)).ready rfl alive
  let after := if (system.guards guard).stage = .building then Stage.standing else .gone
  -- A constructor that fails has not acquired; a destructor leaves no guard that stands.
  have refused : (system.guards guard).status ≠ .acquired ∨ after ≠ .standing := by
    rcases busy with building | leaving
    · exact .inl building.2.1
    · right
      show (if _ then Stage.standing else Stage.gone) ≠ _
      rw [leaving]
      exact Stage.noConfusion
  have rests : ∀ erased : System, Rests place (erased.setGuard guard
      { system.guards guard with claimKey := "", stage := after }) guard := by
    intro erased
    apply Rests.empty
    · rw [setGuard_self]
      exact refused
    · rw [setGuard_self]
      exact ⟨rfl, unlocked⟩
  by_cases empty : (system.guards guard).claimKey = ""
  · have same : execAlive place chance system (.releaseClaim guard) =
        (system.setGuard guard { system.guards guard with claimKey := "", stage := after }, []) := by
      simp only [execAlive, if_pos empty]
      rfl
    rw [Kept, same]
    exact guarded.relabelled rfl rfl rfl empty.symm rfl (Nat.zero_le _) none_follows (rests system)
  · have same : execAlive place chance system (.releaseClaim guard) =
        ((system.setClaim (system.guards guard).process
            (system.guards guard).claimKey false).setGuard guard
          { system.guards guard with claimKey := "", stage := after }, []) := by
      simp only [execAlive, if_neg empty]
      rfl
    rw [Kept, same]
    refine guarded.step rfl ?_ ?_ (Nat.zero_le _) none_follows (rests _)
    · refine guarded.held.claim_erased (system.holding guard) rfl empty unlocked alive
        ?_ ?_ ?_ rfl rfl
      · rw [holding_setGuard, Function.update_self]
        rfl
      · intro other apart
        rw [holding_setGuard, Function.update_of_ne apart]
        rfl
      · exact claimedDirs_setClaim system _ _ false
    · exact .of_files (fun other apart => setGuard_other _ _ apart) rfl rfl

theorem openLock_kept (chance : Chance)
    (guarded : Guarded place system (.openLock guard ::ₘ others)) (alive : system.Alive guard) :
    Kept place others (execAlive place chance system (.openLock guard)) := by
  have ready := (guarded.fits (.openLock guard) (Multiset.mem_cons_self _ _)).ready rfl alive
  have ⟨building, claims, unlocked⟩ := ready
  rw [Kept, execAlive]
  split
  next => exact guarded.fails rfl building rfl fun _ => ⟨.inl building, unlocked⟩
  next => exact guarded.unchanged rfl (Nat.le_refl _) (one_follows rfl ready)

theorem readHolder_kept (chance : Chance)
    (guarded : Guarded place system (.readHolder guard ::ₘ others)) (alive : system.Alive guard) :
    Kept place others (execAlive place chance system (.readHolder guard)) := by
  obtain ⟨⟨stage, refused, named⟩, claims, unlocked⟩ :=
    (guarded.fits (.readHolder guard) (Multiset.mem_cons_self _ _)).ready rfl alive
  refine guarded.relabelled rfl rfl rfl rfl rfl (Nat.le_refl _) (one_follows rfl ?_)
    (.busy (.inl ?_))
  · rw [setGuard_self]
    exact ⟨.inl ⟨stage, Status.noConfusion, named⟩, unlocked⟩
  · rw [setGuard_self]
    exact stage

theorem createDir_kept (chance : Chance)
    (guarded : Guarded place system (.createDir guard ::ₘ others)) (alive : system.Alive guard) :
    Kept place others (execAlive place chance system (.createDir guard)) := by
  have ready := (guarded.fits (.createDir guard) (Multiset.mem_cons_self _ _)).ready rfl alive
  rw [Kept, execAlive]
  split
  next => exact guarded.fails rfl ready.1 rfl fun _ => .inl ready.1
  next => exact guarded.unchanged rfl (Nat.le_refl _) (one_follows rfl ready)

theorem stagePid_kept (chance : Chance)
    (guarded : Guarded place system (.stagePid guard ::ₘ others)) (alive : system.Alive guard) :
    Kept place others (execAlive place chance system (.stagePid guard)) := by
  have ready := (guarded.fits (.stagePid guard) (Multiset.mem_cons_self _ _)).ready rfl alive
  rw [Kept, execAlive]
  split
  next => exact guarded.fails rfl ready.1 rfl fun _ => .inl ready.1
  next => exact guarded.unchanged rfl (Nat.le_refl _) (one_follows rfl ready)

theorem acquire_kept (chance : Chance)
    (guarded : Guarded place system (.acquire guard ::ₘ others)) (alive : system.Alive guard) :
    Kept place others (execAlive place chance system (.acquire guard)) := by
  obtain ⟨building, locked, owns⟩ :=
    (guarded.fits (.acquire guard) (Multiset.mem_cons_self _ _)).ready rfl alive
  refine guarded.relabelled rfl rfl rfl rfl rfl (Nat.zero_le _) none_follows ⟨?_, ?_, ?_, ?_⟩
  · intro absent
    rw [setGuard_self] at absent
    cases absent
  · intro _ _ _
    rw [Owns, setGuard_self]
    exact ⟨locked, owns⟩
  · intro _ _ refused
    rw [setGuard_self] at refused
    exact absurd rfl refused
  · intro _ gone
    rw [setGuard_self] at gone
    cases gone

theorem destruct_kept (chance : Chance)
    (guarded : Guarded place system (.destruct guard ::ₘ others)) (alive : system.Alive guard) :
    Kept place others (execAlive place chance system (.destruct guard)) := by
  have standing : (system.guards guard).stage = .standing :=
    (guarded.fits (.destruct guard) (Multiset.mem_cons_self _ _)).ready rfl alive
  rw [Kept, execAlive]
  refine guarded.relabelled rfl rfl rfl rfl rfl ?_ ?_ (.busy (.inr ?_))
  · split <;> exact Nat.le_refl _
  · split
    next acquired =>
      apply one_follows rfl
      rw [setGuard_self]
      exact ⟨rfl, ((guarded.rests guard).acquired alive standing acquired).1⟩
    next =>
      apply one_follows rfl
      rw [setGuard_self]
      exact .inr rfl
  · rw [setGuard_self]

theorem readPid_kept (chance : Chance)
    (guarded : Guarded place system (.readPid guard ::ₘ others)) (alive : system.Alive guard) :
    Kept place others (execAlive place chance system (.readPid guard)) := by
  have ready := (guarded.fits (.readPid guard) (Multiset.mem_cons_self _ _)).ready rfl alive
  rw [Kept, execAlive]
  dsimp only
  split
  next => exact guarded.unchanged rfl (Nat.le_refl _) (one_follows rfl ready)
  next => exact guarded.unchanged rfl (Nat.le_refl _) (one_follows rfl (.inr ready.1))

/-- A process dies. What its guards were is no longer promised of anyone. -/
theorem crash_kept {process : Nat} (chance : Chance)
    (guarded : Guarded place system (.crash process ::ₘ others)) :
    Kept place others (execAlive place chance system (.crash process)) := by
  let after := (execAlive place chance system (.crash process)).1
  have survives : ∀ guard, after.Alive guard → system.Alive guard := by
    intro guard alive
    by_cases same : (system.guards guard).process = process
    · have dead : after.crashed (system.guards guard).process = true := by
        rw [same]
        exact Function.update_self ..
      exact absurd (dead.symm.trans alive) Bool.noConfusion
    · exact (Function.update_of_ne same _ _).symm.trans alive
  show Guarded place after (0 + others)
  rw [zero_add]
  refine ⟨guarded.held.crash process rfl rfl rfl rfl, guarded.dropped.alone, ?_, ?_⟩
  · intro act member
    have fits := guarded.dropped.fits act member
    cases act with
    | construct => exact fits
    | _ => exact fun guard owner alive => fits guard owner (survives guard alive)
  · intro guard
    have rests := guarded.rests guard
    exact ⟨rests.absent, fun alive => rests.acquired (survives guard alive),
      fun alive => rests.refused (survives guard alive),
      fun alive => rests.gone (survives guard alive)⟩

theorem execAlive_kept (oneKey : OneKey place) (chance : Chance) {act : GuardAct}
    (guarded : Guarded place system (act ::ₘ others))
    (alive : ∀ process, actor system act = some process → system.crashed process = false) :
    Kept place others (execAlive place chance system act) := by
  cases act with
  | construct => exact construct_kept chance guarded
  | claim guard => exact claim_kept oneKey chance guarded (alive _ rfl)
  | openLock guard => exact openLock_kept chance guarded (alive _ rfl)
  | setLock guard => exact setLock_kept chance guarded (alive _ rfl)
  | closeRefused guard reason => exact closeRefused_kept oneKey chance guarded (alive _ rfl)
  | readHolder guard => exact readHolder_kept chance guarded (alive _ rfl)
  | createDir guard => exact createDir_kept chance guarded (alive _ rfl)
  | stagePid guard => exact stagePid_kept chance guarded (alive _ rfl)
  | renamePid guard => exact renamePid_kept oneKey chance guarded (alive _ rfl)
  | acquire guard => exact acquire_kept chance guarded (alive _ rfl)
  | destruct guard => exact destruct_kept chance guarded (alive _ rfl)
  | readPid guard => exact readPid_kept chance guarded (alive _ rfl)
  | unlinkPid guard => exact unlinkPid_kept oneKey chance guarded (alive _ rfl)
  | releaseLock guard => exact releaseLock_kept oneKey chance guarded (alive _ rfl)
  | releaseClaim guard => exact releaseClaim_kept chance guarded (alive _ rfl)
  | crash process => exact crash_kept chance guarded

theorem execGuard_kept (oneKey : OneKey place) (chance : Chance) {act : GuardAct}
    (guarded : Guarded place system (act ::ₘ others)) :
    Kept place others (execGuard place chance system act) := by
  unfold execGuard
  cases runs : actor system act with
  | none =>
      apply execAlive_kept oneKey chance guarded
      intro process same
      rw [runs] at same
      cases same
  | some process =>
      dsimp only
      split
      next =>
        show Guarded place system (0 + others)
        rw [zero_add]
        exact guarded.dropped
      next alive =>
        apply execAlive_kept oneKey chance guarded
        intro one same
        obtain rfl := Option.some.inj (runs.symm.trans same)
        exact Bool.eq_false_of_not_eq_true alive

theorem Fresh.guarded (fresh : Fresh system) : Guarded place system 0 := by
  obtain ⟨guards, dirs, locks⟩ := fresh
  have empty : ∀ guard, system.holding guard = ⟨0, "", "", false⟩ := by
    intro guard
    rw [System.holding, guards]
  refine ⟨⟨⟨?_, ?_, ?_⟩, ⟨?_, ?_⟩⟩, ?_, ?_, ?_⟩
  · intro guard _ named
    rw [empty] at named
    exact absurd rfl named
  · intro guard _ _ named
    rw [empty] at named
    exact absurd rfl named
  · intro process key _ claimed
    rw [dirs] at claimed
    cases claimed
  · intro guard _ locked
    rw [empty] at locked
    cases locked
  · intro directory process owner
    rw [locks] at owner
    cases owner
  · exact Multiset.nodup_zero
  · intro act member
    exact absurd member (Multiset.notMem_zero act)
  · intro guard
    apply Rests.empty <;> rw [guards]
    · exact .inl Status.noConfusion
    · exact ⟨rfl, rfl⟩

theorem Guarded.called {bag : Multiset GuardAct} (guarded : Guarded place system bag)
    {act : GuardAct} (owner : act.owner = some guard) (idle : ∀ one ∈ bag, one.owner ≠ some guard)
    (fits : Fits place system act) : Guarded place system (act ::ₘ bag) where
  held := guarded.held
  alone := by
    rw [Multiset.filterMap_cons_some _ _ _ owner, Multiset.nodup_cons]
    refine ⟨?_, guarded.alone⟩
    intro member
    obtain ⟨one, pending, same⟩ := (Multiset.mem_filterMap _ _).mp member
    exact idle one pending same
  fits := by
    intro one member
    rcases Multiset.mem_cons.mp member with rfl | pending
    · exact fits
    · exact guarded.fits one pending
  rests := guarded.rests

theorem reach_guarded (oneKey : OneKey place) {config : Config System GuardAct}
    (reached : Reach (guardProgram place) proper Fresh config) :
    Guarded place config.shared config.bag := by
  refine Reach.bag_invariant (Guarded place) (fun _ fresh => fresh.guarded) ?_ ?_ reached
  · intro state bag op guarded allowed
    cases op with
    | construct guard process dataDir =>
        have fits : Fits place state (.construct guard process dataDir) := allowed.1
        exact guarded.called rfl allowed.2 fits
    | destroy guard =>
        have fits : Fits place state (.destruct guard) := fits_of_ready rfl allowed.1
        exact guarded.called rfl allowed.2 fits
    | crash process =>
        refine ⟨guarded.held, ?_, ?_, guarded.rests⟩
        · show ((GuardAct.crash process ::ₘ bag).filterMap GuardAct.owner).Nodup
          rw [Multiset.filterMap_cons_none _ _ rfl]
          exact guarded.alone
        · intro one member
          rcases Multiset.mem_cons.mp member with rfl | pending
          · intro guard owner
            cases owner
          · exact guarded.fits one pending
  · intro chance state act others guarded _
    exact execGuard_kept oneKey chance guarded

end Steps

section Success
variable {place : Place} {system next : System} {guard process : Nat} {dataDir : String}
  {act after : GuardAct}

/-- Of a guard that stands, and that has acquired its directory. -/
def System.Daemon (system : System) (guard : Nat) : Prop :=
  system.Alive guard ∧ (system.guards guard).stage = .standing ∧
    (system.guards guard).status = .acquired

/-- The code from the action on may end with the guard of a directory standing, and acquired. -/
def Succeeds (place : Place) (guard process : Nat) (dataDir : String) (system : System)
    (act : GuardAct) : Prop :=
  ∃ last, Solo (guardProgram place) system [act] last ∧ last.Daemon guard ∧
    (last.guards guard).process = process ∧ (last.guards guard).dataDir = dataDir

theorem Succeeds.step {runner : Nat} (runs : actor system act = some runner)
    (alive : system.crashed runner = false)
    (exec : execAlive place {} system act = (next, [after]))
    (succeeds : Succeeds place guard process dataDir next after) :
    Succeeds place guard process dataDir system act := by
  obtain ⟨last, solo, ends⟩ := succeeds
  refine ⟨last, .step {} system act [] last ?_, ends⟩
  have same : (guardProgram place).exec {} system act = (next, [after]) := by
    show execGuard place {} system act = _
    simp only [execGuard, runs, alive]
    exact exec
  rw [same]
  exact solo

theorem acquire_succeeds (alive : system.Alive guard) :
    Succeeds place guard (system.guards guard).process (system.guards guard).dataDir system
      (.acquire guard) := by
  let acquired := { system.guards guard with status := .acquired, stage := .standing }
  have same : (guardProgram place).exec {} system (.acquire guard) =
      (system.setGuard guard acquired, []) := by
    show execGuard place {} system (.acquire guard) = _
    have alive' : system.crashed (system.guards guard).process = false := alive
    simp only [execGuard, actor, GuardAct.owner, Option.map_some, alive']
    rfl
  have solo : Solo (guardProgram place) system [.acquire guard] (system.setGuard guard acquired) := by
    apply Solo.step {}
    rw [same]
    exact .done _
  refine ⟨_, solo, ?_⟩
  rw [System.Daemon, System.Alive, System.holding, setGuard_self]
  exact ⟨⟨alive, rfl, rfl⟩, rfl, rfl⟩

theorem publish_succeeds (alive : system.Alive guard) :
    Succeeds place guard (system.guards guard).process (system.guards guard).dataDir system
      (.createDir guard) := by
  have renamed : Succeeds place guard (system.guards guard).process (system.guards guard).dataDir
      system (.renamePid guard) := .step rfl alive rfl (acquire_succeeds alive)
  have staged : Succeeds place guard (system.guards guard).process (system.guards guard).dataDir
      system (.stagePid guard) := .step rfl alive rfl renamed
  exact .step rfl alive rfl staged

theorem lock_succeeds (alive : system.Alive guard)
    (open_ : system.lock (place.directory (system.guards guard).dataDir) = none) :
    Succeeds place guard (system.guards guard).process (system.guards guard).dataDir system
      (.openLock guard) := by
  let self := system.guards guard
  let locks := Function.update system.lock (place.directory self.dataDir) (some self.process)
  let locked := { system with lock := locks }.setGuard guard { self with lockFd := true }
  have taken : execAlive place {} system (.setLock guard) = (locked, [.createDir guard]) :=
    if_pos (.inl open_)
  have alive' : locked.Alive guard := by
    rw [System.Alive, holding_setGuard, Function.update_self]
    exact alive
  have publishes : Succeeds place guard self.process self.dataDir locked (.createDir guard) := by
    have publishes : Succeeds place guard (locked.guards guard).process
        (locked.guards guard).dataDir locked (.createDir guard) := publish_succeeds alive'
    rw [setGuard_self] at publishes
    exact publishes
  have sets : Succeeds place guard self.process self.dataDir system (.setLock guard) :=
    .step rfl alive taken publishes
  exact .step rfl alive rfl sets

theorem construct_succeeds (alive : system.crashed process = false) (named : dataDir ≠ "")
    (free : system.claimedDirs process (place.weaklyCanonical dataDir) = false)
    (open_ : system.lock (place.directory dataDir) = none) :
    Succeeds place guard process dataDir system (.construct guard process dataDir) := by
  let made : PidFileGuard := { process, dataDir, stage := .building }
  let key := place.weaklyCanonical dataDir
  have begins : execAlive place {} system (.construct guard process dataDir) =
      (system.setGuard guard made, [.claim guard]) := by
    simp only [execAlive, beginGuard, if_neg named]
    rfl
  have claims : execAlive place {} (system.setGuard guard made) (.claim guard) =
      (((system.setGuard guard made).setClaim process key true).setGuard guard
        { made with claimKey := key }, [.openLock guard]) := by
    simp only [execAlive, setGuard_self]
    exact if_neg (Bool.eq_false_iff.mp free)
  let claimed := ((system.setGuard guard made).setClaim process key true).setGuard guard
    { made with claimKey := key }
  have alive' : claimed.Alive guard := by
    rw [System.Alive, holding_setGuard, Function.update_self]
    exact alive
  have open_' : claimed.lock (place.directory (claimed.guards guard).dataDir) = none := by
    rw [setGuard_self]
    exact open_
  have locks : Succeeds place guard process dataDir claimed (.openLock guard) := by
    have locks := lock_succeeds alive' open_'
    rw [setGuard_self] at locks
    exact locks
  have process_made : ((system.setGuard guard made).guards guard).process = process := by
    rw [setGuard_self]
  have claiming : Succeeds place guard process dataDir (system.setGuard guard made)
      (.claim guard) := .step (congrArg some process_made) alive claims locks
  exact .step rfl alive begins claiming

/-- Of a guard whose constructor has given up. -/
def System.Refused (system : System) (guard : Nat) : Prop :=
  system.Alive guard ∧ (system.guards guard).stage = .standing ∧
    (system.guards guard).status ≠ .acquired

/-- Of a guard that runs its constructor or its destructor, or that has acquired its directory. -/
def System.Busy (system : System) (guard : Nat) : Prop :=
  system.Alive guard ∧ ((system.guards guard).stage = .building ∨
    (system.guards guard).stage = .leaving ∨ system.Daemon guard)

theorem Rests.busy_of_holding (rests : Rests place system guard) (alive : system.Alive guard)
    (holds : ¬ ((system.guards guard).claimKey = "" ∧ (system.guards guard).lockFd = false)) :
    system.Busy guard := by
  refine ⟨alive, ?_⟩
  cases stage : (system.guards guard).stage with
  | absent => exact absurd (rests.absent stage) holds
  | building => exact .inl rfl
  | standing =>
      by_cases acquired : (system.guards guard).status = .acquired
      · exact .inr (.inr ⟨alive, stage, acquired⟩)
      · exact absurd (rests.refused alive stage acquired) holds
  | leaving => exact .inr (.inl rfl)
  | gone => exact absurd (rests.gone alive stage) holds

/-- With no busy guard in its way, the construction of a guard may succeed. -/
theorem Guarded.later_succeeds {bag : Multiset GuardAct} (guarded : Guarded place system bag)
    (guard : Nat) (alive : system.crashed process = false)
    (named : dataDir ≠ "")
    (clear : ∀ other, system.Busy other →
      place.directory (system.guards other).dataDir ≠ place.directory dataDir ∧
        ((system.guards other).process = process →
          (system.guards other).claimKey ≠ place.weaklyCanonical dataDir)) :
    Succeeds place guard process dataDir system (.construct guard process dataDir) := by
  apply construct_succeeds alive named
  · rw [← Bool.not_eq_true]
    intro claimed
    obtain ⟨key_named, holder, same, key⟩ := guarded.held.claimed process _ alive claimed
    have alive' : system.Alive holder := by
      rw [System.Alive, same]
      exact alive
    have busy := (guarded.rests holder).busy_of_holding alive' fun empty =>
      key_named (key.symm.trans empty.1)
    exact (clear holder busy).2 same key
  · rw [Option.eq_none_iff_forall_ne_some]
    intro owner locked
    obtain ⟨alive', holder, same, directory, has⟩ := guarded.held.locked _ owner locked
    have alive' : system.Alive holder := by
      rw [System.Alive, same]
      exact alive'
    have busy := (guarded.rests holder).busy_of_holding alive' fun empty =>
      Bool.noConfusion (has.symm.trans empty.2)
    exact (clear holder busy).1 directory

/-- One daemon in each directory. A guard that has acquired its directory has the lock, and its
own pid file is in place; of a directory there is at most one. A guard that was refused holds
nothing, the claims and the locks are those of the guards, and where no busy guard is in the
way, another construction may end with the directory acquired. -/
theorem one_daemon (oneKey : OneKey place) {config : Config System GuardAct}
    (reached : Reach (guardProgram place) proper Fresh config) :
    let system := config.shared
    (∀ guard other, system.Daemon guard → system.Daemon other →
      place.directory (system.guards other).dataDir =
        place.directory (system.guards guard).dataDir → other = guard) ∧
    (∀ guard, system.Daemon guard → Owns place system guard ∧
      system.lock (place.directory (system.guards guard).dataDir) =
        some (system.guards guard).process) ∧
    (∀ guard, system.Refused guard →
      (system.guards guard).claimKey = "" ∧ (system.guards guard).lockFd = false) ∧
    (∀ process key, system.crashed process = false → (system.claimedDirs process key = true ↔
      key ≠ "" ∧ ∃ guard, (system.guards guard).process = process ∧
        (system.guards guard).claimKey = key)) ∧
    (∀ directory process, system.lock directory = some process ↔
      system.crashed process = false ∧ ∃ guard, (system.guards guard).process = process ∧
        place.directory (system.guards guard).dataDir = directory ∧
          (system.guards guard).lockFd = true) ∧
    (∀ guard process dataDir, (system.guards guard).stage = .absent →
      (∀ act ∈ config.bag, act.owner ≠ some guard) → system.crashed process = false →
      dataDir ≠ "" → (∀ other, system.Busy other →
        place.directory (system.guards other).dataDir ≠ place.directory dataDir ∧
          ((system.guards other).process = process →
            (system.guards other).claimKey ≠ place.weaklyCanonical dataDir)) →
      ∃ later, Later (guardProgram place) proper config later ∧ later.shared.Daemon guard ∧
        (later.shared.guards guard).process = process ∧
          (later.shared.guards guard).dataDir = dataDir) := by
  have guarded := reach_guarded oneKey reached
  have held := guarded.held
  refine ⟨?_, ?_, ?_, ?_, ?_, ?_⟩
  · rintro guard other ⟨alive, standing, acquired⟩ ⟨alive', standing', acquired'⟩ same
    have locked := ((guarded.rests guard).acquired alive standing acquired).1
    have locked' := ((guarded.rests other).acquired alive' standing' acquired').1
    exact held.exclusive oneKey alive alive' locked locked' same
  · rintro guard ⟨alive, standing, acquired⟩
    obtain ⟨locked, owns⟩ := (guarded.rests guard).acquired alive standing acquired
    exact ⟨owns, (held.lock guard alive locked).2⟩
  · rintro guard ⟨alive, standing, refused⟩
    exact (guarded.rests guard).refused alive standing refused
  · intro process key alive
    refine ⟨held.claimed process key alive, ?_⟩
    rintro ⟨named, guard, rfl, rfl⟩
    exact (held.claim guard alive named).2
  · intro directory process
    refine ⟨held.locked directory process, ?_⟩
    rintro ⟨alive, guard, rfl, rfl, locked⟩
    exact (held.lock guard alive locked).2
  · intro guard process dataDir absent idle alive named clear
    obtain ⟨last, solo, daemon⟩ := guarded.later_succeeds guard alive named clear
    let op := GuardOp.construct guard process dataDir
    have called : Later (guardProgram place) proper config (config.call (guardProgram place) op) :=
      .call config op .here ⟨absent, idle⟩
    obtain ⟨later, runs, rfl⟩ := Later.solo (fun _ _ _ _ => trivial) solo called
      (List.getElem?_concat_length ..) rfl
    exact ⟨later, runs, daemon⟩

/-- One directory under two names. -/
def onePlace : Place where
  weaklyCanonical path := if path = "" then "" else "/var/lib/toxtunnel"
  directory path := if path = "" then 0 else 1
  pid process := 4000 + process

def emptySystem : System :=
  ⟨fun _ => {}, fun _ _ => false, fun _ => none, fun _ => none, fun _ => false⟩

theorem onePlace_oneKey : OneKey onePlace where
  same := by
    intro path other same
    simp only [onePlace] at same ⊢
    split at same <;> split at same <;> simp_all
  named := by
    intro path named
    simp [onePlace, named]

/-- A second process is refused the directory of a daemon. -/
theorem second_process_refused :
    ∃ config, Reach (guardProgram onePlace) proper Fresh config ∧
      config.shared.lock 1 = some 1 ∧ config.shared.pidFile 1 = some ⟨some 0, some 4001⟩ ∧
      (config.shared.guards 1).error = "another toxtunnel already owns /var/lib/toxtunnel" ∧
      ((config.shared.guards 1).claimKey = "" ∧ (config.shared.guards 1).lockFd = false) := by
  let first : Event GuardOp Chance := .run 0 {}
  let second : Event GuardOp Chance := .run 1 {}
  let construct (guard : Nat) : Event GuardOp Chance :=
    .call (.construct guard (guard + 1) "/var/lib/toxtunnel")
  obtain ⟨config, reached, holds⟩ := Reach.exists_of_replay (guardProgram onePlace) proper Fresh
    emptySystem (construct 0 :: List.replicate 8 first ++ construct 1 :: List.replicate 7 second)
    (fun config => decide (
      (config.shared.crashed (config.shared.guards 0).process = false ∧
        (config.shared.guards 0).stage = .standing ∧ (config.shared.guards 0).status = .acquired) ∧
      (config.shared.crashed (config.shared.guards 1).process = false ∧
        (config.shared.guards 1).stage = .standing ∧ (config.shared.guards 1).status ≠ .acquired) ∧
      (config.shared.guards 0).process = 1 ∧
      (config.shared.guards 0).dataDir = "/var/lib/toxtunnel" ∧
      (config.shared.guards 1).error = "another toxtunnel already owns /var/lib/toxtunnel"))
    ⟨fun _ => rfl, fun _ _ => rfl, fun _ => rfl⟩ (by decide)
  obtain ⟨daemon, refused, process, dataDir, error⟩ := of_decide_eq_true holds
  obtain ⟨-, owned, empty, -⟩ := one_daemon onePlace_oneKey reached
  obtain ⟨owns, locked⟩ := owned 0 daemon
  rw [Owns] at owns
  simp only [process, dataDir] at owns locked
  exact ⟨config, reached, locked, owns, error, empty 1 refused⟩

end Success
end ToxTunnel.PidGuard
