import Mathlib.Logic.Function.Basic
import ToxTunnel.Interleaving

/-!
`atomic_write_file` in any number of calls at once, over a file system that other calls change
between any two of its system calls. A call stages its contents in a file of a name that was
free, and renames that file over its target.
-/

namespace ToxTunnel.AtomicWrite
open Interleaving

section Model

inductive Entry where
  | file (id : Nat)
  | directory
  | other
  deriving DecidableEq

def Entry.isDirectory : Entry → Bool
  | .directory => true
  | _ => false

/-- Where a call is. `returned none` is success. -/
inductive Position where
  | createDirectories
  | checkTarget
  | removeDir
  | nameTmp
  | openTmp
  | write
  | fsync
  | close
  | rename
  | syncParent
  | closeFailed (error : String)
  | unlinkTmp (error : String)
  | returned (error : Option String)
  deriving DecidableEq

structure Call where
  process : Nat
  thread : String
  path : String
  contents : List UInt8
  position : Position := .createDirectories
  attempt : Nat := 0
  tmp : String := ""
  fd : Option Nat := none
  written : Nat := 0
  deriving DecidableEq

/-- The file system, and the calls there have been. The last field is a record of the refused
`unlink`s, which no call reads. -/
structure System where
  calls : Nat → Option Call
  callCount : Nat
  entries : String → Option Entry
  files : Nat → List UInt8
  fileCount : Nat
  tmpCounter : Nat → Nat
  unlinkFailed : Nat → Bool

/-- The directory entry that a path names, under one spelling, and the pids. -/
structure Platform where
  canonical : String → String
  pid : Nat → Nat

/-- What a system call answers. A write that does not fail takes `count` bytes, if it is given
as many. `missing` is the length of the path of a directory that is yet to be made. -/
structure Chance where
  failed : Bool := false
  errno : String := ""
  interrupted : Bool := false
  count : Nat := 0
  missing : Option Nat := none

/-- `parent_dir_of`, from the end of the path. -/
def parentDirOf (path : String) : String :=
  let named := path.toList.reverse.dropWhile fun char => char == '/'
  match named.dropWhile fun char => char != '/' with
  | [] => ""
  | [_] => "/"
  | _ :: above => String.ofList above.reverse

def uniqueTmpSuffix (pid : Nat) (thread : String) (counter : Nat) : String :=
  toString pid ++ "." ++ thread ++ "." ++ toString counter

def stagingPath (path suffix : String) : String := path ++ ".tmp." ++ suffix

def System.setCall (system : System) (id : Nat) (call : Call) : System :=
  { system with calls := Function.update system.calls id (some call) }

def System.setEntry (system : System) (location : String) (entry : Option Entry) : System :=
  { system with entries := Function.update system.entries location entry }

/-- `rename`: a directory does not replace anything else, nor is it replaced. -/
def System.renamed (system : System) (source target : String) : Option System :=
  match system.entries source with
  | none => none
  | some moved =>
      if (system.entries target).any fun old => old.isDirectory != moved.isDirectory then none
      else some ((system.setEntry source none).setEntry target (some moved))

/-- `open` with `O_CREAT | O_EXCL` where there is no entry. -/
def System.created (system : System) (location : String) : System :=
  { system.setEntry location (some (.file system.fileCount)) with
    files := Function.update system.files system.fileCount []
    fileCount := system.fileCount + 1 }

def System.appended (system : System) (file : Nat) (bytes : List UInt8) : System :=
  { system with files := Function.update system.files file (system.files file ++ bytes) }

variable (platform : Platform)

/-- One system call of a call, with the code up to the next one. -/
def advance (chance : Chance) (system : System) (id : Nat) (self : Call) : System :=
  let go (position : Position) : System := system.setCall id { self with position }
  let target := platform.canonical self.path
  let staged := platform.canonical self.tmp
  match self.position with
  | .createDirectories =>
      let parent := parentDirOf self.path
      if parent = "" then go .checkTarget
      else match chance.missing with
        | some length =>
            let location := platform.canonical (String.ofList (parent.toList.take length))
            if system.entries location = none then system.setEntry location (some .directory)
            else system
        | none =>
            if chance.failed then go (.returned (some ("create_directories: " ++ chance.errno)))
            else go .checkTarget
  | .checkTarget =>
      if chance.failed = false ∧ system.entries target = some .directory then go .removeDir
      else go .nameTmp
  | .removeDir =>
      if chance.failed = false ∧ system.entries target = some .directory then
        (system.setEntry target none).setCall id { self with position := .nameTmp }
      else go .nameTmp
  | .nameTmp =>
      if self.attempt < 8 then
        let counter := system.tmpCounter self.process
        let suffix := uniqueTmpSuffix (platform.pid self.process) self.thread counter
        { system with
          tmpCounter := Function.update system.tmpCounter self.process ((counter + 1) % 2 ^ 64)
          }.setCall id { self with
            attempt := self.attempt + 1
            tmp := stagingPath self.path suffix
            position := .openTmp }
      else go (.returned (some ("open tmp '" ++ self.tmp ++
        "': could not create a unique staging file")))
  | .openTmp =>
      if chance.failed then
        go (.returned (some ("open tmp '" ++ self.tmp ++ "': " ++ chance.errno)))
      else if (system.entries staged).isSome then go .nameTmp
      else (system.created staged).setCall id { self with
        fd := some system.fileCount
        position := .write }
  | .write =>
      let rest := self.contents.drop self.written
      let count := min chance.count rest.length
      if rest = [] then go .fsync
      else if chance.failed && chance.interrupted then system
      else if chance.failed || count == 0 then
        go (.closeFailed ("write tmp '" ++ self.tmp ++ "': " ++ chance.errno))
      else match self.fd with
        | some file => (system.appended file (rest.take count)).setCall id { self with
            written := self.written + count }
        | none => system
  | .fsync =>
      if chance.failed then go (.closeFailed ("fsync tmp: " ++ chance.errno)) else go .close
  | .close =>
      if chance.failed then go (.unlinkTmp ("close tmp: " ++ chance.errno)) else go .rename
  | .rename =>
      let refused := go (.unlinkTmp ("rename to '" ++ self.path ++ "': " ++ chance.errno))
      if chance.failed then refused
      else match system.renamed staged target with
        | some moved => moved.setCall id { self with position := .syncParent }
        | none => refused
  -- Whether the directory could be opened and synced is not looked at.
  | .syncParent => go (.returned none)
  | .closeFailed error => go (.unlinkTmp error)
  | .unlinkTmp error =>
      let removed := match system.entries staged with
        | some entry => !chance.failed && !entry.isDirectory
        | none => false
      if removed then
        (system.setEntry staged none).setCall id { self with position := .returned (some error) }
      else
        { system with unlinkFailed := Function.update system.unlinkFailed id true }.setCall id
          { self with position := .returned (some error) }
  | .returned _ => system

inductive WriteAct where
  | begin (process : Nat) (thread path : String) (contents : List UInt8)
  | advance (id : Nat)
  deriving DecidableEq

def System.finished (system : System) (id : Nat) : Bool :=
  match system.calls id with
  | some call => match call.position with
      | .returned _ => true
      | _ => false
  | none => true

def execWrite (chance : Chance) (system : System) : WriteAct → System × List WriteAct
  | .begin process thread path contents =>
      let call : Call := { process, thread, path, contents }
      ({ system.setCall system.callCount call with callCount := system.callCount + 1 },
        [.advance system.callCount])
  | .advance id =>
      match system.calls id with
      | some call =>
          let after := advance platform chance system id call
          (after, if after.finished id then [] else [.advance id])
      | none => (system, [])

structure WriteOp where
  process : Nat
  thread : String
  path : String
  contents : List UInt8

def writeProgram : Program System WriteAct WriteOp Chance where
  start op := [.begin op.process op.thread op.path op.contents]
  exec := execWrite platform

/-- The calls are some of the given ones. -/
def among (made : WriteOp → Prop) : Guard System WriteAct WriteOp Chance :=
  fun _ _ move => match move with
    | .call op => made op
    | .act _ _ => True

instance (made : WriteOp → Prop) [DecidablePred made] : (among made).Checked :=
  fun system bag move => by
    unfold among
    split <;> infer_instance

/-- No call has been made yet. -/
def Fresh (system : System) : Prop :=
  (∀ id, system.calls id = none) ∧
    ∀ location file, system.entries location = some (.file file) → file < system.fileCount

end Model

section Phases
variable {platform : Platform} {targets : String → Prop} {start system after : System}
  {id other : Nat} {self next : Call}

/-- What was asked for. -/
def Call.op (self : Call) : WriteOp := ⟨self.process, self.thread, self.path, self.contents⟩

/-- A call is about a target, and stages its contents at none. -/
def Aims (platform : Platform) (targets : String → Prop) (op : WriteOp) : Prop :=
  targets op.path ∧ ∀ counter other, targets other →
    platform.canonical (stagingPath op.path
      (uniqueTmpSuffix (platform.pid op.process) op.thread counter)) ≠ platform.canonical other

/-- No target is the staging path of a call that is made. -/
def Separate (platform : Platform) (made : WriteOp → Prop) (targets : String → Prop) : Prop :=
  ∀ op, made op → Aims platform targets op

/-- The contents of the call are in place. -/
def Call.Published (self : Call) : Prop :=
  self.position = .syncParent ∨ self.position = .returned none

/-- Where the entries of the file that a call has staged may be. -/
def Leads (platform : Platform) (refused : Bool) (self : Call) (location : String) : Prop :=
  match self.position with
  | .write | .fsync | .close | .rename | .closeFailed _ | .unlinkTmp _ =>
      location = platform.canonical self.tmp
  | .syncParent | .returned none => location = platform.canonical self.path
  | .returned (some _) => location = platform.canonical self.tmp ∧ refused = true
  | _ => False

def Position.early : Position → Bool
  | .createDirectories | .checkTarget | .removeDir | .nameTmp | .openTmp => true
  | _ => false

def Position.staging : Position → Bool
  | .write | .fsync | .close | .rename | .closeFailed _ | .unlinkTmp _ => true
  | _ => false

def Position.whole : Position → Bool
  | .fsync | .close | .rename | .syncParent | .returned none => true
  | _ => false

/-- What a call has staged, and how much of it. -/
structure Phase (platform : Platform) (system : System) (call : Call) : Prop where
  early : call.position.early = true → call.fd = none ∧ call.written = 0
  staged : call.position.staging = true → ∃ file, call.fd = some file ∧
    system.entries (platform.canonical call.tmp) = some (.file file)
  part : call.position = .write → ∀ file, call.fd = some file →
    system.files file = call.contents.take call.written
  whole : call.position.whole = true → ∃ file, call.fd = some file ∧
    system.files file = call.contents

/-- The staging path of a call is no target. -/
def Apart (platform : Platform) (targets : String → Prop) (self : Call) : Prop :=
  self.position = .openTmp ∨ self.fd ≠ none →
    ∀ path, targets path → platform.canonical self.tmp ≠ platform.canonical path

structure Consistent (platform : Platform) (targets : String → Prop) (start system : System) :
    Prop where
  called : ∀ id call, system.calls id = some call → id < system.callCount ∧
    Aims platform targets call.op
  apart : ∀ id call, system.calls id = some call → Apart platform targets call
  phase : ∀ id call, system.calls id = some call → Phase platform system call
  fresh : ∀ id call file, system.calls id = some call → call.fd = some file →
    start.fileCount ≤ file ∧ file < system.fileCount
  alone : ∀ id other call rival file, system.calls id = some call →
    system.calls other = some rival → call.fd = some file → rival.fd = some file → other = id
  owned : ∀ location file, system.entries location = some (.file file) →
    file < system.fileCount ∧
      (file < start.fileCount ∧ start.entries location = some (.file file) ∨
        ∃ id call, system.calls id = some call ∧ call.fd = some file ∧
          Leads platform (system.unlinkFailed id) call location)
  old : ∀ file, file < start.fileCount → system.files file = start.files file
  grown : start.fileCount ≤ system.fileCount

theorem Consistent.leads (consistent : Consistent platform targets start system)
    (found : system.calls id = some self) {file : Nat} (staged : self.fd = some file)
    {location : String} (entry : system.entries location = some (.file file)) :
    Leads platform (system.unlinkFailed id) self location := by
  obtain ⟨-, old | ⟨owner, call, found', staged', leads⟩⟩ := consistent.owned location file entry
  · exact absurd old.1 (Nat.not_lt.mpr (consistent.fresh id self file found staged).1)
  · obtain rfl := consistent.alone id owner self call file found found' staged staged'
    obtain rfl := Option.some.inj (found.symm.trans found')
    exact leads

/-- What one step of a call does to the others: it writes to the file that it stages, and the
only entry of another file that it takes away is that of its target, as it is renamed. -/
structure Stepped (platform : Platform) (targets : String → Prop) (system after : System)
    (id : Nat) (call next : Call) : Prop where
  calls : after.calls = Function.update system.calls id (some next)
  count : after.callCount = system.callCount
  same : next.op = call.op
  fd : next.fd = call.fd ∨ call.fd = none ∧ next.fd = some system.fileCount ∧
    after.fileCount = system.fileCount + 1
  grown : system.fileCount ≤ after.fileCount
  files : ∀ file, next.fd ≠ some file → after.files file = system.files file
  kept : ∀ location file, system.entries location = some (.file file) →
    (call.fd = some file → call.Published) →
      after.entries location = some (.file file) ∨ next.position = .syncParent ∧
        location = platform.canonical call.path ∧
          ∃ new, next.fd = some new ∧ after.entries location = some (.file new)
  new : ∀ location file, next.fd ≠ some file → after.entries location = some (.file file) →
    system.entries location = some (.file file)
  leads : ∀ location file, next.fd = some file → after.entries location = some (.file file) →
    Leads platform (after.unlinkFailed id) next location
  refusals : ∀ other, other ≠ id → after.unlinkFailed other = system.unlinkFailed other
  phase : Phase platform after next
  apart : Apart platform targets next
  shows : next.Published → call.Published ∨
    ∃ file, after.entries (platform.canonical next.path) = some (.file file) ∧
      after.files file = next.contents
  lasting : call.Published → next.Published

theorem Phase.frame (phase : Phase platform system self)
    (files : ∀ file, self.fd = some file → after.files file = system.files file)
    (entries : ∀ file, self.fd = some file →
      system.entries (platform.canonical self.tmp) = some (.file file) →
      after.entries (platform.canonical self.tmp) = some (.file file)) :
    Phase platform after self := by
  refine ⟨phase.early, ?_, ?_, ?_⟩
  · intro staging
    obtain ⟨file, staged, entry⟩ := phase.staged staging
    exact ⟨file, staged, entries file staged entry⟩
  · intro writing file staged
    exact (files file staged).trans (phase.part writing file staged)
  · intro whole
    obtain ⟨file, staged, bytes⟩ := phase.whole whole
    exact ⟨file, staged, (files file staged).trans bytes⟩

/-- The call that takes the step is another one from then on; the other calls are as they were. -/
theorem Stepped.call_cases (stepped : Stepped platform targets system after id self next)
    {call : Call} (found : after.calls other = some call) :
    other = id ∧ call = next ∨ other ≠ id ∧ system.calls other = some call := by
  rw [stepped.calls] at found
  by_cases same : other = id
  · subst same
    rw [Function.update_self] at found
    exact .inl ⟨rfl, (Option.some.inj found).symm⟩
  · rw [Function.update_of_ne same] at found
    exact .inr ⟨same, found⟩

theorem Stepped.found (stepped : Stepped platform targets system after id self next) :
    after.calls id = some next := by
  rw [stepped.calls, Function.update_self]

theorem Stepped.fd_apart (stepped : Stepped platform targets system after id self next)
    (consistent : Consistent platform targets start system) (found : system.calls id = some self)
    {rival : Call} (apart : other ≠ id) (found' : system.calls other = some rival) {file : Nat}
    (staged : rival.fd = some file) : self.fd ≠ some file ∧ next.fd ≠ some file := by
  have before : self.fd ≠ some file := fun own =>
    apart (consistent.alone id other self rival file found found' own staged)
  refine ⟨before, ?_⟩
  rcases stepped.fd with same | ⟨_, opened, _⟩
  · rwa [same]
  · rw [opened]
    intro own
    obtain rfl := Option.some.inj own
    exact Nat.lt_irrefl _ (consistent.fresh other rival _ found' staged).2

theorem Stepped.kept_apart (stepped : Stepped platform targets system after id self next)
    (consistent : Consistent platform targets start system) (found : system.calls id = some self)
    {rival : Call} (apart : other ≠ id) (found' : system.calls other = some rival) {file : Nat}
    (staged : rival.fd = some file)
    (entry : system.entries (platform.canonical rival.tmp) = some (.file file)) :
    after.entries (platform.canonical rival.tmp) = some (.file file) := by
  have distinct := stepped.fd_apart consistent found apart found' staged
  rcases stepped.kept _ file entry fun own => absurd own distinct.1 with kept | ⟨_, location, _⟩
  · exact kept
  · have elsewhere := consistent.apart other rival found' (.inr (by simp [staged])) self.path
      (consistent.called id self found).2.1
    exact absurd location elsewhere

theorem Stepped.fd_fresh (stepped : Stepped platform targets system after id self next)
    (consistent : Consistent platform targets start system) (found : system.calls id = some self)
    {file : Nat} (staged : next.fd = some file) :
    start.fileCount ≤ file ∧ file < after.fileCount := by
  rcases stepped.fd with same | ⟨_, opened, count⟩
  · rw [same] at staged
    obtain ⟨lower, upper⟩ := consistent.fresh id self file found staged
    exact ⟨lower, Nat.lt_of_lt_of_le upper stepped.grown⟩
  · rw [opened] at staged
    obtain rfl := Option.some.inj staged
    exact ⟨consistent.grown, by rw [count]; exact Nat.lt_succ_self _⟩

theorem Consistent.step (consistent : Consistent platform targets start system)
    (found : system.calls id = some self)
    (stepped : Stepped platform targets system after id self next) :
    Consistent platform targets start after where
  called := by
    intro other call found'
    rcases stepped.call_cases found' with ⟨rfl, rfl⟩ | ⟨_, found'⟩
    · rw [stepped.count, stepped.same]
      exact consistent.called other self found
    · rw [stepped.count]
      exact consistent.called other call found'
  apart := by
    intro other call found'
    rcases stepped.call_cases found' with ⟨rfl, rfl⟩ | ⟨_, found'⟩
    · exact stepped.apart
    · exact consistent.apart other call found'
  phase := by
    intro other call found'
    rcases stepped.call_cases found' with ⟨rfl, rfl⟩ | ⟨apart, found'⟩
    · exact stepped.phase
    · refine (consistent.phase other call found').frame ?_ ?_
      · intro file staged
        exact stepped.files file (stepped.fd_apart consistent found apart found' staged).2
      · intro file staged entry
        exact stepped.kept_apart consistent found apart found' staged entry
  fresh := by
    intro other call file found' staged
    rcases stepped.call_cases found' with ⟨rfl, rfl⟩ | ⟨_, found'⟩
    · exact stepped.fd_fresh consistent found staged
    · obtain ⟨lower, upper⟩ := consistent.fresh other call file found' staged
      exact ⟨lower, Nat.lt_of_lt_of_le upper stepped.grown⟩
  alone := by
    intro one other call rival file found' found'' staged staged'
    rcases stepped.call_cases found' with ⟨rfl, rfl⟩ | ⟨apart, found'⟩
    · rcases stepped.call_cases found'' with ⟨rfl, _⟩ | ⟨apart', found''⟩
      · rfl
      · exact absurd staged (stepped.fd_apart consistent found apart' found'' staged').2
    · rcases stepped.call_cases found'' with ⟨rfl, rfl⟩ | ⟨_, found''⟩
      · exact absurd staged' (stepped.fd_apart consistent found apart found' staged).2
      · exact consistent.alone one other call rival file found' found'' staged staged'
  owned := by
    intro location file entry
    by_cases own : next.fd = some file
    · refine ⟨(stepped.fd_fresh consistent found own).2, .inr ⟨id, next, ?_, own, ?_⟩⟩
      · rw [stepped.calls, Function.update_self]
      · exact stepped.leads location file own entry
    · obtain ⟨upper, owner⟩ := consistent.owned location file (stepped.new location file own entry)
      refine ⟨Nat.lt_of_lt_of_le upper stepped.grown, owner.imp_right ?_⟩
      rintro ⟨other, call, found', staged, leads⟩
      have apart : other ≠ id := by
        rintro rfl
        obtain rfl := Option.some.inj (found.symm.trans found')
        rcases stepped.fd with same | ⟨unopened, _, _⟩
        · exact own (same.trans staged)
        · rw [unopened] at staged
          cases staged
      refine ⟨other, call, ?_, staged, ?_⟩
      · rw [stepped.calls, Function.update_of_ne apart]
        exact found'
      · rw [stepped.refusals other apart]
        exact leads
  old := by
    intro file lower
    have others : next.fd ≠ some file := fun own =>
      Nat.not_lt.mpr (stepped.fd_fresh consistent found own).1 lower
    rw [stepped.files file others]
    exact consistent.old file lower
  grown := Nat.le_trans consistent.grown stepped.grown

end Phases

section Steps
variable {platform : Platform} {targets : String → Prop} {start system after : System}
  {id : Nat} {self next : Call}

theorem unpublished_of_early (early : self.position.early = true) : ¬ self.Published := by
  rintro (shown | shown) <;> rw [shown] at early <;> cases early

theorem unpublished_of_staging (staging : self.position.staging = true) : ¬ self.Published := by
  rintro (shown | shown) <;> rw [shown] at staging <;> cases staging

theorem Consistent.quiet (consistent : Consistent platform targets start system)
    (found : system.calls id = some self)
    (calls : after.calls = Function.update system.calls id (some next))
    (count : after.callCount = system.callCount)
    (entries : ∀ location file, after.entries location = some (.file file) ↔
      system.entries location = some (.file file))
    (files : after.files = system.files) (fileCount : after.fileCount = system.fileCount)
    (refusals : after.unlinkFailed = system.unlinkFailed)
    (same : next.op = self.op) (fd : next.fd = self.fd)
    (leads : ∀ location, Leads platform (system.unlinkFailed id) self location →
      Leads platform (system.unlinkFailed id) next location)
    (phase : Phase platform system next) (apart : Apart platform targets next)
    (published : next.Published ↔ self.Published) :
    Stepped platform targets system after id self next where
  calls := calls
  count := count
  same := same
  fd := .inl fd
  grown := Nat.le_of_eq fileCount.symm
  files := fun file _ => congrFun files file
  kept := fun location file entry _ => .inl ((entries location file).mpr entry)
  new := fun location file _ entry => (entries location file).mp entry
  leads := by
    intro location file staged entry
    rw [fd] at staged
    rw [refusals]
    exact leads location (consistent.leads found staged ((entries location file).mp entry))
  refusals := fun other _ => congrFun refusals other
  phase := phase.frame (fun file _ => congrFun files file)
    (fun file _ entry => (entries _ file).mpr entry)
  apart := apart
  shows := fun shown => .inl (published.mp shown)
  lasting := published.mpr

theorem Consistent.goes (consistent : Consistent platform targets start system)
    (found : system.calls id = some self) (position : Position) (later : position ≠ .openTmp)
    (leads : ∀ location, Leads platform (system.unlinkFailed id) self location →
      Leads platform (system.unlinkFailed id) { self with position } location)
    (phase : Phase platform system { self with position })
    (published : Call.Published { self with position } ↔ self.Published) :
    Stepped platform targets system (system.setCall id { self with position }) id self
      { self with position } := by
  refine consistent.quiet found rfl rfl (fun _ _ => Iff.rfl) rfl rfl rfl rfl rfl leads
    phase ?_ published
  rintro (opening | staged)
  · exact absurd opening later
  · exact consistent.apart id self found (.inr staged)

theorem Consistent.stays (consistent : Consistent platform targets start system)
    (found : system.calls id = some self) :
    Stepped platform targets system system id self self := by
  refine consistent.quiet found ?_ rfl (fun _ _ => Iff.rfl) rfl rfl rfl rfl rfl
    (fun _ leads => leads) (consistent.phase id self found) (consistent.apart id self found) Iff.rfl
  rw [← found, Function.update_eq_self]

theorem Consistent.creates (consistent : Consistent platform targets start system)
    (found : system.calls id = some self) (opening : self.position = .openTmp)
    (free : system.entries (platform.canonical self.tmp) = none)
    (here : next = { self with fd := some system.fileCount, position := .write }) :
    Stepped platform targets system
      ((system.created (platform.canonical self.tmp)).setCall id next) id self next := by
  subst here
  obtain ⟨unopened, unwritten⟩ := (consistent.phase id self found).early (by rw [opening]; rfl)
  have others : ∀ location file, location ≠ platform.canonical self.tmp →
      ((system.created (platform.canonical self.tmp)).entries location = some (.file file) ↔
        system.entries location = some (.file file)) := by
    intro location file apart
    show Function.update _ _ _ _ = _ ↔ _
    rw [Function.update_of_ne apart]
  have here : (system.created (platform.canonical self.tmp)).entries
      (platform.canonical self.tmp) = some (.file system.fileCount) := Function.update_self ..
  have empty : (system.created (platform.canonical self.tmp)).files system.fileCount = [] :=
    Function.update_self ..
  constructor
  case calls => rfl
  case count => rfl
  case same => rfl
  case fd => exact .inr ⟨unopened, rfl, rfl⟩
  case grown => exact Nat.le_succ _
  case files =>
    intro file other
    have apart : file ≠ system.fileCount := fun same => other (same ▸ rfl)
    exact Function.update_of_ne apart _ _
  case kept =>
    intro location file entry _
    refine .inl ((others location file ?_).mpr entry)
    rintro rfl
    rw [free] at entry
    cases entry
  case new =>
    intro location file other entry
    by_cases same : location = platform.canonical self.tmp
    · subst same
      exact absurd (Entry.file.inj (Option.some.inj (here.symm.trans entry)) ▸ rfl) other
    · exact (others location file same).mp entry
  case leads =>
    intro location file staged entry
    obtain rfl := Option.some.inj staged
    by_contra elsewhere
    exact Nat.lt_irrefl _ (consistent.owned location _ ((others location _ elsewhere).mp entry)).1
  case refusals => exact fun _ _ => rfl
  case phase =>
    refine ⟨?_, fun _ => ⟨_, rfl, here⟩, ?_, ?_⟩
    · intro early
      cases early
    · intro _ file staged
      obtain rfl := Option.some.inj staged
      exact empty.trans (by rw [unwritten, List.take_zero])
    · intro whole
      cases whole
  case apart => exact fun _ => consistent.apart id self found (.inl opening)
  case shows => rintro (shown | shown) <;> cases shown
  case lasting => rintro (shown | shown) <;> rw [opening] at shown <;> cases shown

theorem Consistent.appends (consistent : Consistent platform targets start system)
    (found : system.calls id = some self) (writing : self.position = .write) {file : Nat}
    (staged : self.fd = some file) (count : Nat)
    (here : next = { self with written := self.written + count }) :
    Stepped platform targets system
      ((system.appended file ((self.contents.drop self.written).take count)).setCall id next)
      id self next := by
  subst here
  have bytes := (consistent.phase id self found).part writing file staged
  have entry : system.entries (platform.canonical self.tmp) = some (.file file) := by
    obtain ⟨other, staged', entry⟩ :=
      (consistent.phase id self found).staged (by rw [writing]; rfl)
    rw [staged] at staged'
    exact Option.some.inj staged' ▸ entry
  constructor
  case calls => rfl
  case count => rfl
  case same => rfl
  case fd => exact .inl rfl
  case grown => exact Nat.le_refl _
  case files =>
    intro other apart
    have apart : other ≠ file := fun same => apart (same ▸ staged)
    exact Function.update_of_ne apart _ _
  case kept => exact fun _ _ entry _ => .inl entry
  case new => exact fun _ _ _ entry => entry
  case leads =>
    intro location other staged' entry'
    have leads := consistent.leads found staged' entry'
    unfold Leads at leads ⊢
    exact leads
  case refusals => exact fun _ _ => rfl
  case phase =>
    refine ⟨?_, fun _ => ⟨file, staged, entry⟩, ?_, ?_⟩
    · intro early
      rw [writing] at early
      cases early
    · intro _ other staged'
      obtain rfl := Option.some.inj (staged.symm.trans staged')
      show Function.update _ _ _ _ = _
      rw [Function.update_self, bytes, ← List.take_add]
    · intro whole
      rw [writing] at whole
      cases whole
  case apart => exact fun _ => consistent.apart id self found (.inr (by simp [staged]))
  case shows => exact .inl
  case lasting => exact fun shown => shown

theorem renamed_spec {source target : String} {file : Nat} {moved : System}
    (entry : system.entries source = some (.file file))
    (done : system.renamed source target = some moved) :
    moved = (system.setEntry source none).setEntry target (some (.file file)) := by
  simp only [System.renamed, entry] at done
  split at done
  · cases done
  · exact (Option.some.inj done).symm

theorem Consistent.renames (consistent : Consistent platform targets start system)
    (found : system.calls id = some self) (moving : self.position = .rename) {moved : System}
    (done : system.renamed (platform.canonical self.tmp) (platform.canonical self.path) =
      some moved) (here : next = { self with position := .syncParent }) :
    Stepped platform targets system (moved.setCall id next) id self next := by
  subst here
  have phase := consistent.phase id self found
  obtain ⟨file, staged, entry⟩ := phase.staged (by rw [moving]; rfl)
  obtain ⟨_, staged', bytes⟩ := phase.whole (by rw [moving]; rfl)
  obtain rfl := Option.some.inj (staged.symm.trans staged')
  have apart := consistent.apart id self found (.inr (by simp [staged])) self.path
    (consistent.called id self found).2.1
  obtain rfl := renamed_spec entry done
  have entries : ∀ location,
      ((system.setEntry (platform.canonical self.tmp) none).setEntry
        (platform.canonical self.path) (some (.file file))).entries location =
      if location = platform.canonical self.path then some (.file file)
      else if location = platform.canonical self.tmp then none else system.entries location := by
    intro location
    simp only [System.setEntry, Function.update_apply]
  constructor
  case calls => rfl
  case count => rfl
  case same => rfl
  case fd => exact .inl rfl
  case grown => exact Nat.le_refl _
  case files => exact fun _ _ => rfl
  case kept =>
    intro location other entry' apart'
    have elsewhere : location ≠ platform.canonical self.tmp := by
      rintro rfl
      rw [entry] at entry'
      obtain rfl := Entry.file.inj (Option.some.inj entry')
      exact unpublished_of_staging (by rw [moving]; rfl) (apart' staged)
    by_cases target : location = platform.canonical self.path
    · refine .inr ⟨rfl, target, file, staged, (entries location).trans ?_⟩
      rw [if_pos target]
    · refine .inl ((entries location).trans ?_)
      rw [if_neg target, if_neg elsewhere]
      exact entry'
  case new =>
    intro location other apart' entry'
    rw [System.setCall, entries] at entry'
    split at entry'
    · exact absurd (Entry.file.inj (Option.some.inj entry') ▸ staged) apart'
    · split at entry'
      · cases entry'
      · exact entry'
  case leads =>
    intro location other staged' entry'
    obtain rfl := Option.some.inj (staged.symm.trans staged')
    rw [System.setCall, entries] at entry'
    split at entry'
    next target => exact target
    next =>
      split at entry'
      next => cases entry'
      next elsewhere =>
        have leads := consistent.leads found staged entry'
        rw [Leads, moving] at leads
        exact absurd leads elsewhere
  case refusals => exact fun _ _ => rfl
  case phase =>
    refine ⟨?_, ?_, ?_, fun _ => ⟨file, staged, bytes⟩⟩
    · intro early
      cases early
    · intro staging
      cases staging
    · intro writing
      cases writing
  case apart => exact fun _ => consistent.apart id self found (.inr (by simp [staged]))
  case shows =>
    intro _
    refine .inr ⟨file, (entries _).trans ?_, bytes⟩
    rw [if_pos rfl]
  case lasting => rintro (shown | shown) <;> rw [moving] at shown <;> cases shown

theorem phase_failed (error : String) :
    Phase platform system { self with position := .returned (some error) } := by
  refine ⟨?_, ?_, ?_, ?_⟩ <;> intro impossible <;> cases impossible

theorem unpublished_of_leaving {error : String} (leaving : self.position = .unlinkTmp error) :
    ¬ self.Published := by
  rintro (shown | shown) <;> rw [leaving] at shown <;> cases shown

theorem Consistent.unlinks (consistent : Consistent platform targets start system)
    (found : system.calls id = some self) {error : String}
    (leaving : self.position = .unlinkTmp error)
    (here : next = { self with position := .returned (some error) }) :
    Stepped platform targets system
      ((system.setEntry (platform.canonical self.tmp) none).setCall id next) id self next := by
  subst here
  obtain ⟨file, staged, entry⟩ :=
    (consistent.phase id self found).staged (by rw [leaving]; rfl)
  have entries : ∀ location,
      (system.setEntry (platform.canonical self.tmp) none).entries location =
      if location = platform.canonical self.tmp then none else system.entries location := by
    intro location
    simp only [System.setEntry, Function.update_apply]
  have new : ∀ location other,
      (system.setEntry (platform.canonical self.tmp) none).entries location = some (.file other) →
        location ≠ platform.canonical self.tmp ∧ system.entries location = some (.file other) := by
    intro location other entry'
    rw [entries] at entry'
    split at entry'
    next => cases entry'
    next elsewhere => exact ⟨elsewhere, entry'⟩
  constructor
  case calls => rfl
  case count => rfl
  case same => rfl
  case fd => exact .inl rfl
  case grown => exact Nat.le_refl _
  case files => exact fun _ _ => rfl
  case kept =>
    intro location other entry' apart
    refine .inl ((entries location).trans ?_)
    rw [if_neg]
    · exact entry'
    · rintro rfl
      rw [entry] at entry'
      obtain rfl := Entry.file.inj (Option.some.inj entry')
      exact unpublished_of_leaving leaving (apart staged)
  case new => exact fun location other _ entry' => (new location other entry').2
  case leads =>
    intro location other staged' entry'
    obtain ⟨elsewhere, entry'⟩ := new location other entry'
    have leads := consistent.leads found staged' entry'
    rw [Leads, leaving] at leads
    exact absurd leads elsewhere
  case refusals => exact fun _ _ => rfl
  case phase => exact phase_failed error
  case apart => exact fun _ => consistent.apart id self found (.inr (by simp [staged]))
  case shows => rintro (shown | shown) <;> cases shown
  case lasting => exact fun shown => absurd shown (unpublished_of_leaving leaving)

theorem Consistent.abandons (consistent : Consistent platform targets start system)
    (found : system.calls id = some self) {error : String}
    (leaving : self.position = .unlinkTmp error)
    (here : next = { self with position := .returned (some error) }) :
    Stepped platform targets system
      ({ system with unlinkFailed := Function.update system.unlinkFailed id true }.setCall id next)
      id self next := by
  subst here
  obtain ⟨file, staged, _⟩ := (consistent.phase id self found).staged (by rw [leaving]; rfl)
  constructor
  case calls => rfl
  case count => rfl
  case same => rfl
  case fd => exact .inl rfl
  case grown => exact Nat.le_refl _
  case files => exact fun _ _ => rfl
  case kept => exact fun _ _ entry _ => .inl entry
  case new => exact fun _ _ _ entry => entry
  case leads =>
    intro location other staged' entry
    have leads := consistent.leads found staged' entry
    rw [Leads, leaving] at leads
    exact ⟨leads, Function.update_self ..⟩
  case refusals => exact fun _ apart => Function.update_of_ne apart _ _
  case phase => exact phase_failed error
  case apart => exact fun _ => consistent.apart id self found (.inr (by simp [staged]))
  case shows => rintro (shown | shown) <;> cases shown
  case lasting => exact fun shown => absurd shown (unpublished_of_leaving leaving)

theorem leads_of_early (early : self.position.early = true) {refused : Bool} {location : String} :
    ¬ Leads platform refused self location := by
  intro leads
  unfold Leads at leads
  cases at_ : self.position <;> rw [at_] at early leads <;> first | exact leads | cases early

theorem leads_of_staging (staging : self.position.staging = true) {refused : Bool}
    {location : String} :
    Leads platform refused self location ↔ location = platform.canonical self.tmp := by
  unfold Leads
  cases at_ : self.position <;> rw [at_] at staging <;> first | exact Iff.rfl | cases staging

theorem Position.of_early {position : Position} (early : position.early = true) :
    position.staging = false ∧ position.whole = false := by
  cases position <;> first | exact ⟨rfl, rfl⟩ | exact absurd early Bool.noConfusion

theorem phase_early (early : self.position.early = true)
    (nothing : self.fd = none ∧ self.written = 0) : Phase platform system self := by
  obtain ⟨unstaged, unwritten⟩ := Position.of_early early
  refine ⟨fun _ => nothing, ?_, ?_, ?_⟩
  · intro staging
    rw [unstaged] at staging
    cases staging
  · intro writing
    rw [writing] at early
    cases early
  · intro whole
    rw [unwritten] at whole
    cases whole

theorem setEntry_of_no_file {location : String} {entry : Option Entry}
    (before : ∀ file, system.entries location ≠ some (.file file))
    (after : ∀ file, entry ≠ some (.file file)) (other : String) (file : Nat) :
    (system.setEntry location entry).entries other = some (.file file) ↔
      system.entries other = some (.file file) := by
  simp only [System.setEntry, Function.update_apply]
  split
  next same => exact iff_of_false (after file) (same ▸ before file)
  next => exact Iff.rfl

theorem Consistent.makes (consistent : Consistent platform targets start system)
    (found : system.calls id = some self) {location : String}
    (absent : system.entries location = none) :
    Stepped platform targets system (system.setEntry location (some .directory)) id self self := by
  refine consistent.quiet found ?_ rfl ?_ rfl rfl rfl rfl rfl (fun _ leads => leads)
    (consistent.phase id self found) (consistent.apart id self found) Iff.rfl
  · show system.calls = _
    rw [← found, Function.update_eq_self]
  · apply setEntry_of_no_file
    · intro file entry
      rw [absent] at entry
      cases entry
    · intro file entry
      cases entry

theorem Consistent.goes_early (consistent : Consistent platform targets start system)
    (found : system.calls id = some self) (early : self.position.early = true)
    (position : Position) (later : position ≠ .openTmp) (early' : position.early = true) :
    Stepped platform targets system (system.setCall id { self with position }) id self
      { self with position } := by
  refine consistent.goes found position later ?_ ?_ ?_
  · exact fun _ leads => absurd leads (leads_of_early early)
  · exact phase_early early' ((consistent.phase id self found).early early)
  · exact iff_of_false (unpublished_of_early early') (unpublished_of_early early)

theorem Consistent.removes (consistent : Consistent platform targets start system)
    (found : system.calls id = some self) (removing : self.position = .removeDir)
    {location : String} (directory : system.entries location = some .directory) :
    Stepped platform targets system
      ((system.setEntry location none).setCall id { self with position := .nameTmp }) id self
      { self with position := .nameTmp } := by
  have early : self.position.early = true := by rw [removing]; rfl
  have nothing := (consistent.phase id self found).early early
  refine consistent.quiet found rfl rfl ?_ rfl rfl rfl rfl rfl ?_
    (phase_early rfl nothing) ?_ ?_
  · apply setEntry_of_no_file
    · intro file entry
      rw [directory] at entry
      cases entry
    · intro file entry
      cases entry
  · exact fun _ leads => absurd leads (leads_of_early early)
  · rintro (opening | staged)
    · cases opening
    · exact absurd nothing.1 staged
  · exact iff_of_false (unpublished_of_early rfl) (unpublished_of_early early)

theorem Consistent.names (consistent : Consistent platform targets start system)
    (found : system.calls id = some self) (naming : self.position = .nameTmp) (attempt : Nat)
    (counter : Nat) (counters : Nat → Nat) (here : next = { self with
      attempt := attempt
      tmp := stagingPath self.path
        (uniqueTmpSuffix (platform.pid self.process) self.thread counter)
      position := .openTmp }) :
    Stepped platform targets system ({ system with tmpCounter := counters }.setCall id next) id
      self next := by
  subst here
  have early : self.position.early = true := by rw [naming]; rfl
  refine consistent.quiet found rfl rfl (fun _ _ => Iff.rfl) rfl rfl rfl rfl rfl ?_
    (phase_early rfl ((consistent.phase id self found).early early)) ?_ ?_
  · exact fun _ leads => absurd leads (leads_of_early early)
  · intro _ path target
    exact (consistent.called id self found).2.2 counter path target
  · exact iff_of_false (unpublished_of_early rfl) (unpublished_of_early early)

theorem Consistent.fails_early (consistent : Consistent platform targets start system)
    (found : system.calls id = some self) (early : self.position.early = true) (error : String) :
    Stepped platform targets system
      (system.setCall id { self with position := .returned (some error) }) id self
      { self with position := .returned (some error) } := by
  refine consistent.goes found _ Position.noConfusion ?_ (phase_failed error) ?_
  · exact fun _ leads => absurd leads (leads_of_early early)
  · refine iff_of_false ?_ (unpublished_of_early early)
    rintro (shown | shown) <;> cases shown

theorem Consistent.goes_staged (consistent : Consistent platform targets start system)
    (found : system.calls id = some self) (staging : self.position.staging = true)
    (position : Position) (staging' : position.staging = true) (later : position ≠ .write)
    (whole : position.whole = true → ∃ file, self.fd = some file ∧
      system.files file = self.contents) :
    Stepped platform targets system (system.setCall id { self with position }) id self
      { self with position } := by
  refine consistent.goes found position ?_ ?_ ⟨?_, ?_, ?_, whole⟩ ?_
  · rintro rfl
    cases staging'
  · intro location leads
    exact (leads_of_staging staging').mpr ((leads_of_staging staging).mp leads)
  · intro early
    exact absurd ((Position.of_early early).1.symm.trans staging') Bool.noConfusion
  · exact fun _ => (consistent.phase id self found).staged staging
  · exact fun writing => absurd writing later
  · exact iff_of_false (unpublished_of_staging staging') (unpublished_of_staging staging)

theorem advance_stepped (consistent : Consistent platform targets start system)
    (found : system.calls id = some self) (chance : Chance) :
    ∃ next, Stepped platform targets system (advance platform chance system id self) id self
      next := by
  have phase := consistent.phase id self found
  cases at_ : self.position with
  | createDirectories =>
      have early : self.position.early = true := by rw [at_]; rfl
      have going := consistent.goes_early found early .checkTarget Position.noConfusion rfl
      simp only [advance, at_]
      split
      next => exact ⟨_, going⟩
      next =>
        split
        next length _ =>
          split
          next absent => exact ⟨self, consistent.makes found absent⟩
          next => exact ⟨self, consistent.stays found⟩
        next =>
          split
          next => exact ⟨_, consistent.fails_early found early _⟩
          next => exact ⟨_, going⟩
  | checkTarget =>
      have early : self.position.early = true := by rw [at_]; rfl
      simp only [advance, at_]
      split
      next => exact ⟨_, consistent.goes_early found early .removeDir Position.noConfusion rfl⟩
      next => exact ⟨_, consistent.goes_early found early .nameTmp Position.noConfusion rfl⟩
  | removeDir =>
      have early : self.position.early = true := by rw [at_]; rfl
      simp only [advance, at_]
      split
      next directory => exact ⟨_, consistent.removes found at_ directory.2⟩
      next => exact ⟨_, consistent.goes_early found early .nameTmp Position.noConfusion rfl⟩
  | nameTmp =>
      have early : self.position.early = true := by rw [at_]; rfl
      simp only [advance, at_]
      split
      next => exact ⟨_, consistent.names found at_ _ _ _ rfl⟩
      next => exact ⟨_, consistent.fails_early found early _⟩
  | openTmp =>
      have early : self.position.early = true := by rw [at_]; rfl
      simp only [advance, at_]
      split
      next => exact ⟨_, consistent.fails_early found early _⟩
      next =>
        split
        next => exact ⟨_, consistent.goes_early found early .nameTmp Position.noConfusion rfl⟩
        next free =>
          have free := Option.not_isSome_iff_eq_none.mp free
          exact ⟨_, consistent.creates found at_ free rfl⟩
  | write =>
      have staging : self.position.staging = true := by rw [at_]; rfl
      obtain ⟨file, staged, _⟩ := phase.staged staging
      simp only [advance, at_]
      split
      next done =>
        have bytes := phase.part at_ file staged
        rw [List.take_of_length_le (List.drop_eq_nil_iff.mp done)] at bytes
        exact ⟨_, consistent.goes_staged found staging .fsync rfl Position.noConfusion
          fun _ => ⟨file, staged, bytes⟩⟩
      next =>
        split
        next => exact ⟨self, consistent.stays found⟩
        next =>
          split
          next =>
            exact ⟨_, consistent.goes_staged found staging (.closeFailed _) rfl
              Position.noConfusion fun impossible => by cases impossible⟩
          next =>
            split
            next other staged' => exact ⟨_, consistent.appends found at_ staged' _ (by rw [at_])⟩
            next => exact ⟨self, consistent.stays found⟩
  | fsync =>
      have staging : self.position.staging = true := by rw [at_]; rfl
      have whole := phase.whole (by rw [at_]; rfl)
      simp only [advance, at_]
      split
      next =>
        exact ⟨_, consistent.goes_staged found staging (.closeFailed _) rfl Position.noConfusion
          fun impossible => by cases impossible⟩
      next =>
        exact ⟨_, consistent.goes_staged found staging .close rfl Position.noConfusion
          fun _ => whole⟩
  | close =>
      have staging : self.position.staging = true := by rw [at_]; rfl
      have whole := phase.whole (by rw [at_]; rfl)
      simp only [advance, at_]
      split
      next =>
        exact ⟨_, consistent.goes_staged found staging (.unlinkTmp _) rfl Position.noConfusion
          fun impossible => by cases impossible⟩
      next =>
        exact ⟨_, consistent.goes_staged found staging .rename rfl Position.noConfusion
          fun _ => whole⟩
  | rename =>
      have staging : self.position.staging = true := by rw [at_]; rfl
      have refused := fun error => consistent.goes_staged found staging (.unlinkTmp error) rfl
        Position.noConfusion fun impossible => by cases impossible
      simp only [advance, at_]
      split
      next => exact ⟨_, refused _⟩
      next =>
        split
        next moved done => exact ⟨_, consistent.renames found at_ done rfl⟩
        next => exact ⟨_, refused _⟩
  | syncParent =>
      have whole := phase.whole (by rw [at_]; rfl)
      simp only [advance, at_]
      refine ⟨_, consistent.goes found (.returned none) Position.noConfusion ?_ ?_ ?_⟩
      · intro location leads
        rw [Leads, at_] at leads
        exact leads
      · refine ⟨?_, ?_, ?_, fun _ => whole⟩ <;> intro impossible <;> cases impossible
      · exact iff_of_true (.inr rfl) (.inl at_)
  | closeFailed error =>
      have staging : self.position.staging = true := by rw [at_]; rfl
      simp only [advance, at_]
      exact ⟨_, consistent.goes_staged found staging (.unlinkTmp error) rfl Position.noConfusion
        (fun impossible => by cases impossible)⟩
  | unlinkTmp error =>
      simp only [advance, at_]
      split
      next =>
        split
        next => exact ⟨_, consistent.unlinks found at_ rfl⟩
        next => exact ⟨_, consistent.abandons found at_ rfl⟩
      next => exact ⟨_, consistent.abandons found at_ rfl⟩
  | returned error =>
      simp only [advance, at_]
      exact ⟨self, consistent.stays found⟩

end Steps

section Runs
variable {platform : Platform} {made : WriteOp → Prop} {targets : String → Prop}
  {start system : System} {config : Config System WriteAct}

/-- The calls that are about to begin have targets too. -/
def Aimed (platform : Platform) (targets : String → Prop) (bag : Multiset WriteAct) : Prop :=
  ∀ process thread path contents, .begin process thread path contents ∈ bag →
    Aims platform targets ⟨process, thread, path, contents⟩

theorem Fresh.consistent (fresh : Fresh start) : Consistent platform targets start start := by
  obtain ⟨none_called, entries⟩ := fresh
  have impossible : ∀ {id call}, start.calls id = some call → False := by
    intro id call found
    rw [none_called] at found
    cases found
  exact ⟨fun _ _ found => (impossible found).elim, fun _ _ found => (impossible found).elim,
    fun _ _ found => (impossible found).elim, fun _ _ _ found => (impossible found).elim,
    fun _ _ _ _ _ found => (impossible found).elim,
    fun location file entry =>
      ⟨entries location file entry, .inl ⟨entries location file entry, entry⟩⟩,
    fun _ _ => rfl, Nat.le_refl _⟩

theorem begin_cases (platform : Platform) (chance : Chance) {process : Nat} {thread path : String}
    {contents : List UInt8} {id : Nat} {call : Call}
    (found : (execWrite platform chance system
      (.begin process thread path contents)).1.calls id = some call) :
    id = system.callCount ∧ call = { process, thread, path, contents } ∨
      id ≠ system.callCount ∧ system.calls id = some call := by
  have calls : (execWrite platform chance system (.begin process thread path contents)).1.calls =
      Function.update system.calls system.callCount
        (some { process, thread, path, contents }) := rfl
  rw [calls] at found
  by_cases same : id = system.callCount
  · subst same
    rw [Function.update_self] at found
    exact .inl ⟨rfl, (Option.some.inj found).symm⟩
  · rw [Function.update_of_ne same] at found
    exact .inr ⟨same, found⟩

theorem Consistent.begins (consistent : Consistent platform targets start system)
    {process : Nat} {thread path : String} {contents : List UInt8}
    (target : Aims platform targets ⟨process, thread, path, contents⟩) (chance : Chance) :
    Consistent platform targets start
      (execWrite platform chance system (.begin process thread path contents)).1 := by
  refine ⟨?_, ?_, ?_, ?_, ?_, ?_, consistent.old, consistent.grown⟩
  · intro id call found
    rcases begin_cases platform chance found with ⟨rfl, rfl⟩ | ⟨_, found⟩
    · exact ⟨Nat.lt_succ_self _, target⟩
    · obtain ⟨lower, target'⟩ := consistent.called id call found
      exact ⟨Nat.lt_succ_of_lt lower, target'⟩
  · intro id call found
    rcases begin_cases platform chance found with ⟨rfl, rfl⟩ | ⟨_, found⟩
    · rintro (opening | staged)
      · cases opening
      · exact absurd rfl staged
    · exact consistent.apart id call found
  · intro id call found
    rcases begin_cases platform chance found with ⟨rfl, rfl⟩ | ⟨_, found⟩
    · exact phase_early rfl ⟨rfl, rfl⟩
    · exact (consistent.phase id call found).frame (fun _ _ => rfl) (fun _ _ entry => entry)
  · intro id call file found staged
    rcases begin_cases platform chance found with ⟨rfl, rfl⟩ | ⟨_, found⟩
    · cases staged
    · exact consistent.fresh id call file found staged
  · intro id other call rival file found found' staged staged'
    rcases begin_cases platform chance found with ⟨rfl, rfl⟩ | ⟨_, found⟩
    · cases staged
    · rcases begin_cases platform chance found' with ⟨rfl, rfl⟩ | ⟨_, found'⟩
      · cases staged'
      · exact consistent.alone id other call rival file found found' staged staged'
  · intro location file entry
    obtain ⟨lower, owner⟩ := consistent.owned location file entry
    refine ⟨lower, owner.imp_right ?_⟩
    rintro ⟨id, call, found, staged, leads⟩
    refine ⟨id, call, ?_, staged, leads⟩
    have apart : id ≠ system.callCount := Nat.ne_of_lt (consistent.called id call found).1
    exact (Function.update_of_ne apart _ _).trans found

/-- An action is the begin of a call, or one step of a call, or nothing at all. -/
theorem exec_stepped (consistent : Consistent platform targets start system) (chance : Chance)
    (id : Nat) :
    (execWrite platform chance system (.advance id)).1 = system ∨
      ∃ self next, system.calls id = some self ∧ Stepped platform targets system
        (execWrite platform chance system (.advance id)).1 id self next := by
  cases found : system.calls id with
  | none =>
      left
      simp only [execWrite, found]
  | some self =>
      right
      obtain ⟨next, stepped⟩ := advance_stepped consistent found chance
      refine ⟨self, next, rfl, ?_⟩
      simp only [execWrite, found]
      exact stepped

theorem exec_consistent (consistent : Consistent platform targets start system) (chance : Chance)
    {act : WriteAct} (aimed : ∀ process thread path contents,
      act = .begin process thread path contents →
        Aims platform targets ⟨process, thread, path, contents⟩) :
    Consistent platform targets start (execWrite platform chance system act).1 := by
  cases act with
  | begin process thread path contents =>
      exact consistent.begins (aimed process thread path contents rfl) chance
  | advance id =>
      rcases exec_stepped consistent chance id with same | ⟨self, next, found, stepped⟩
      · rw [same]
        exact consistent
      · exact consistent.step found stepped

theorem exec_aimed {act one : WriteAct} (chance : Chance)
    (member : one ∈ (execWrite platform chance system act).2) : ∃ id, one = .advance id := by
  cases act with
  | begin => exact ⟨_, List.mem_singleton.mp member⟩
  | advance id =>
      simp only [execWrite] at member
      split at member
      · dsimp only at member
        split at member
        · cases member
        · exact ⟨id, List.mem_singleton.mp member⟩
      · cases member

theorem reach_consistent (separate : Separate platform made targets) (fresh : Fresh start)
    (reached : Reach (writeProgram platform) (among made) (· = start) config) :
    Consistent platform targets start config.shared := by
  have both : Consistent platform targets start config.shared ∧
      Aimed platform targets config.bag := by
    refine Reach.bag_invariant
      (fun state bag => Consistent platform targets start state ∧ Aimed platform targets bag) ?_ ?_ ?_ reached
    · rintro state rfl
      exact ⟨fresh.consistent, fun _ _ _ _ member => absurd member (Multiset.notMem_zero _)⟩
    · rintro state bag op ⟨consistent, aimed⟩ target
      refine ⟨consistent, ?_⟩
      intro process thread path contents member
      rcases Multiset.mem_add.mp member with new | old
      · have same := List.mem_singleton.mp (Multiset.mem_coe.mp new)
        cases same
        exact separate op target
      · exact aimed process thread path contents old
    · rintro chance state act others ⟨consistent, aimed⟩ _
      refine ⟨exec_consistent consistent chance ?_, ?_⟩
      · rintro process thread path contents rfl
        exact aimed process thread path contents (Multiset.mem_cons_self _ _)
      · intro process thread path contents member
        rcases Multiset.mem_add.mp member with new | old
        · obtain ⟨id, impossible⟩ := exec_aimed chance (Multiset.mem_coe.mp new)
          cases impossible
        · exact aimed process thread path contents (Multiset.mem_cons_of_mem old)
  exact both.1

/-- The target has what it had at the start, or the full contents of a call that is done with
it. -/
def Whole (platform : Platform) (start system : System) (path : String) : Prop :=
  ∀ file, system.entries (platform.canonical path) = some (.file file) →
    start.entries (platform.canonical path) = some (.file file) ∧
        system.files file = start.files file ∨
      ∃ id call, system.calls id = some call ∧ call.Published ∧
        platform.canonical call.path = platform.canonical path ∧
          system.files file = call.contents

def Regular (platform : Platform) (system : System) (path : String) : Prop :=
  ∃ file, system.entries (platform.canonical path) = some (.file file)

/-- The contents are to be seen under the target. -/
def Shown (platform : Platform) (system : System) (call : Call) : Prop :=
  ∃ file, system.entries (platform.canonical call.path) = some (.file file) ∧
    system.files file = call.contents

theorem published_of_target {call : Call} {refused : Bool} {path : String}
    (apart : Apart platform targets call) (staged : call.fd ≠ none) (target : targets path)
    (leads : Leads platform refused call (platform.canonical path)) :
    call.Published ∧ platform.canonical call.path = platform.canonical path := by
  have elsewhere : platform.canonical path ≠ platform.canonical call.tmp :=
    (apart (.inr staged) path target).symm
  unfold Leads at leads
  split at leads
  next at_ => exact absurd leads elsewhere
  next at_ => exact absurd leads elsewhere
  next at_ => exact absurd leads elsewhere
  next at_ => exact absurd leads elsewhere
  next at_ => exact absurd leads elsewhere
  next at_ => exact absurd leads elsewhere
  next at_ => exact ⟨.inl at_, leads.symm⟩
  next at_ => exact ⟨.inr at_, leads.symm⟩
  next at_ => exact absurd leads.1 elsewhere
  next => exact leads.elim

theorem Consistent.target_whole (consistent : Consistent platform targets start system)
    {path : String} (target : targets path) : Whole platform start system path := by
  intro file entry
  obtain ⟨_, ⟨lower, old⟩ | ⟨id, call, found, staged, leads⟩⟩ := consistent.owned _ file entry
  · exact .inl ⟨old, consistent.old file lower⟩
  · have staged' : call.fd ≠ none := by simp [staged]
    obtain ⟨published, same⟩ :=
      published_of_target (consistent.apart id call found) staged' target leads
    obtain ⟨_, staged'', bytes⟩ := (consistent.phase id call found).whole (by
      rcases published with at_ | at_ <;> rw [at_] <;> rfl)
    obtain rfl := Option.some.inj (staged.symm.trans staged'')
    exact .inr ⟨id, call, found, published, same, bytes⟩

/-- The file at a target may be that of the call that takes a step only when it is done. -/
theorem Consistent.own_target (consistent : Consistent platform targets start system)
    {path : String} (target : targets path) {file : Nat}
    (entry : system.entries (platform.canonical path) = some (.file file)) {id : Nat} {self : Call}
    (found : system.calls id = some self) (own : self.fd = some file) : self.Published :=
  (published_of_target (consistent.apart id self found) (by simp [own]) target
    (consistent.leads found own entry)).1

/-- A step that changes a target, or the file there, is the step that puts the call's own file
there, or a later one. -/
theorem Stepped.published_of_change {after : System} {id : Nat} {self next : Call}
    (stepped : Stepped platform targets system after id self next)
    (consistent : Consistent platform targets start system)
    (found : system.calls id = some self) {path : String} (target : targets path) {file : Nat}
    (entry : system.entries (platform.canonical path) = some (.file file))
    (changes : after.entries (platform.canonical path) ≠ some (.file file) ∨
      after.files file ≠ system.files file) : next.Published := by
  have own : self.fd = some file → self.Published := consistent.own_target target entry found
  rcases changes with moved | written
  · rcases stepped.kept _ file entry own with kept | ⟨published, _⟩
    · exact absurd kept moved
    · exact .inl published
  · have staged : next.fd = some file := by
      by_contra other
      exact written (stepped.files file other)
    rcases stepped.fd with same | ⟨_, opened, _⟩
    · exact stepped.lasting (own (same.symm.trans staged))
    · -- A file that is only now created is not at the target yet.
      obtain rfl := Option.some.inj (opened.symm.trans staged)
      exact absurd (consistent.owned _ _ entry).1 (Nat.lt_irrefl _)

theorem exec_regular (consistent : Consistent platform targets start system) {path : String} (target : targets path)
    (chance : Chance) (act : WriteAct) (regular : Regular platform system path) :
    Regular platform (execWrite platform chance system act).1 path := by
  cases act with
  | begin => exact regular
  | advance id =>
      rcases exec_stepped consistent chance id with same | ⟨self, next, found, stepped⟩
      · rw [same]
        exact regular
      · obtain ⟨file, entry⟩ := regular
        have own : self.fd = some file → self.Published :=
          consistent.own_target target entry found
        rcases stepped.kept _ file entry own with kept | ⟨_, _, new, _, there⟩
        · exact ⟨file, kept⟩
        · exact ⟨new, there⟩

def System.Done (system : System) (id : Nat) : Prop :=
  ∃ call, system.calls id = some call ∧ call.Published

theorem exec_done (consistent : Consistent platform targets start system) (chance : Chance) (act : WriteAct)
    {id : Nat} (done : system.Done id) : (execWrite platform chance system act).1.Done id := by
  obtain ⟨call, found, published⟩ := done
  cases act with
  | begin process thread path contents =>
      have apart : id ≠ system.callCount :=
        Nat.ne_of_lt (consistent.called id call found).1
      exact ⟨call, (Function.update_of_ne apart _ _).trans found, published⟩
  | advance other =>
      rcases exec_stepped consistent chance other with same | ⟨self, next, found', stepped⟩
      · rw [same]
        exact ⟨call, found, published⟩
      · rw [System.Done, stepped.calls]
        by_cases same : id = other
        · subst same
          obtain rfl := Option.some.inj (found.symm.trans found')
          exact ⟨next, Function.update_self .., stepped.lasting published⟩
        · exact ⟨call, (Function.update_of_ne same _ _).trans found, published⟩

/-- The contents of a call that is done were to be seen at some moment of the run. -/
theorem shown_before (separate : Separate platform made targets) (fresh : Fresh start)
    (reached : Reach (writeProgram platform) (among made) (· = start) config) {id : Nat}
    {call : Call} (found : config.shared.calls id = some call) (published : call.Published) :
    ∃ moment, Reach (writeProgram platform) (among made) (· = start) moment ∧
      Later (writeProgram platform) (among made) moment config ∧
        Shown platform moment.shared call := by
  induction reached generalizing call with
  | start state first =>
      subst first
      rw [Config.begin, fresh.1] at found
      cases found
  | call config op _ allowed ih =>
      obtain ⟨moment, reached, later, shown⟩ := ih found published
      exact ⟨moment, reached, .call config op later allowed, shown⟩
  | run config thread chance act rest before pending allowed ih =>
      have consistent := reach_consistent separate fresh before
      have here := Reach.run config thread chance act rest before pending allowed
      have longer : ∀ {old : Call}, config.shared.calls id = some old → old.Published →
          old.path = call.path ∧ old.contents = call.contents → ∃ moment,
            Reach (writeProgram platform) (among made) (· = start) moment ∧
              Later (writeProgram platform) (among made) moment
                (config.run (writeProgram platform) thread chance act rest) ∧
                Shown platform moment.shared call := by
        rintro old found ready ⟨path, contents⟩
        obtain ⟨moment, reached, later, shown⟩ := ih found ready
        refine ⟨moment, reached, .run config thread chance act rest later pending allowed, ?_⟩
        rw [Shown, ← path, ← contents]
        exact shown
      cases act with
      | begin process name path contents =>
          rcases begin_cases platform chance found with ⟨_, rfl⟩ | ⟨_, found'⟩
          · rcases published with impossible | impossible <;> cases impossible
          · exact longer found' published ⟨rfl, rfl⟩
      | advance other =>
          rcases exec_stepped consistent chance other with
            same | ⟨self, next, found', stepped⟩
          · have found' : config.shared.calls id = some call := by
              rw [← same]
              exact found
            exact longer found' published ⟨rfl, rfl⟩
          · rcases stepped.call_cases found with ⟨rfl, rfl⟩ | ⟨_, found'⟩
            · rcases stepped.shows published with ready | shown
              · exact longer found' ready ⟨(congrArg WriteOp.path stepped.same).symm,
                  (congrArg WriteOp.contents stepped.same).symm⟩
              · exact ⟨_, here, .here, shown⟩
            · exact longer found' published ⟨rfl, rfl⟩

/-- `atomic_write_file` is all or nothing, as long as no target is the staging path of a call
that is made.
A target has its contents from the start, or those of one call, in full, and never ceases to be
a file. A call that has returned success has shown its contents. A call that changes a target
returns no error from then on. What a failed call has staged is gone, unless `unlink` was
refused. No two calls stage one file, and a step writes to no file but the call's own. -/
theorem all_or_nothing (separate : Separate platform made targets) (fresh : Fresh start)
    (reached : Reach (writeProgram platform) (among made) (· = start) config) :
    (∀ path, targets path → Whole platform start config.shared path ∧
      ∀ later, Later (writeProgram platform) (among made) config later →
        Regular platform config.shared path → Regular platform later.shared path) ∧
    (∀ id call, config.shared.calls id = some call → call.position = .returned none →
      ∃ moment, Reach (writeProgram platform) (among made) (· = start) moment ∧
        Later (writeProgram platform) (among made) moment config ∧
          Shown platform moment.shared call) ∧
    (∀ thread chance id rest, config.threads[thread]? = some (.advance id :: rest) →
      let after := config.run (writeProgram platform) thread chance (.advance id) rest
      ∀ path file, targets path →
        config.shared.entries (platform.canonical path) = some (.file file) →
        after.shared.entries (platform.canonical path) ≠ some (.file file) ∨
          after.shared.files file ≠ config.shared.files file →
        ∀ last, Later (writeProgram platform) (among made) after last →
          ∃ call, last.shared.calls id = some call ∧
            ∀ error, call.position ≠ .returned (some error)) ∧
    (∀ id call error file location, config.shared.calls id = some call →
      call.position = .returned (some error) → call.fd = some file →
        config.shared.entries location = some (.file file) →
          location = platform.canonical call.tmp ∧ config.shared.unlinkFailed id = true) ∧
    (∀ id other call rival file, config.shared.calls id = some call →
      config.shared.calls other = some rival → call.fd = some file → rival.fd = some file →
        other = id) ∧
    (∀ thread chance id rest, config.threads[thread]? = some (.advance id :: rest) →
      let after := config.run (writeProgram platform) thread chance (.advance id) rest
      ∀ file, after.shared.files file ≠ config.shared.files file →
        ∃ call, after.shared.calls id = some call ∧ call.fd = some file) := by
  have consistent := reach_consistent separate fresh reached
  have known : ∀ config, Reach (writeProgram platform) (among made) (· = start) config →
      Consistent platform targets start config.shared :=
    fun config reached => reach_consistent separate fresh reached
  refine ⟨?_, ?_, ?_, ?_, consistent.alone, ?_⟩
  · intro path target
    refine ⟨consistent.target_whole target, ?_⟩
    intro later after regular
    refine Later.keeps (fun state _ => Consistent platform targets start state)
      (fun state => Regular platform state path) known ?_ reached regular after
    intro chance state act others consistent regular
    exact exec_regular consistent target chance act regular
  · intro id call found done
    exact shown_before separate fresh reached found (.inr done)
  · intro thread chance id rest pending after path file target entry changes last later
    have reached' : Reach (writeProgram platform) (among made) (· = start) after :=
      .run config thread chance (.advance id) rest reached pending fun _ _ => trivial
    have done : after.shared.Done id := by
      rcases exec_stepped consistent chance id with same | ⟨self, next, found, stepped⟩
      · have same : after.shared = config.shared := same
        rw [same] at changes
        rcases changes with moved | written
        · exact absurd entry moved
        · exact absurd rfl written
      · have published := stepped.published_of_change consistent found target entry changes
        exact ⟨next, stepped.found, published⟩
    obtain ⟨call, found, published⟩ := Later.keeps
      (fun state _ => Consistent platform targets start state) (fun state => state.Done id) known
      (fun chance state act others consistent done =>
        exec_done consistent chance act done) reached' done later
    refine ⟨call, found, ?_⟩
    intro error failed
    rcases published with at_ | at_ <;> rw [failed] at at_ <;> cases at_
  · intro id call error file location found failed staged entry
    have leads := consistent.leads found staged entry
    rw [Leads, failed] at leads
    exact leads
  · intro thread chance id rest pending after file changes
    rcases exec_stepped consistent chance id with same | ⟨self, next, found, stepped⟩
    · have same : after.shared = config.shared := same
      rw [same] at changes
      exact absurd rfl changes
    · refine ⟨next, stepped.found, ?_⟩
      by_contra other
      exact changes (stepped.files file other)

/-- A disk without links. -/
def plainDisk : Platform where
  canonical path := path
  pid process := 4000 + process

def oneFile : System where
  calls _ := none
  callCount := 0
  entries location :=
    if location = "/d" then some .directory
    else if location = "/d/save" then some (.file 0) else none
  files _ := [1, 2]
  fileCount := 1
  tmpCounter _ := 0
  unlinkFailed _ := false

theorem oneFile_fresh : Fresh oneFile := by
  refine ⟨fun _ => rfl, ?_⟩
  intro location file entry
  simp only [oneFile] at entry ⊢
  split at entry
  · cases entry
  · split at entry
    · obtain rfl := Entry.file.inj (Option.some.inj entry)
      exact Nat.zero_lt_one
    · cases entry

theorem plainDisk_separate (path : String) :
    Separate plainDisk (fun op => op.path = path) fun other => other = path := by
  rintro op rfl
  refine ⟨rfl, ?_⟩
  rintro counter _ rfl same
  have lengths := congrArg String.length same
  have five : ".tmp.".length = 5 := rfl
  simp only [plainDisk, stagingPath, String.length_append, five] at lengths
  omega

def System.returned (system : System) (id : Nat) (error : Option String) : Bool :=
  (system.calls id).any fun call => decide (call.position = .returned error)

theorem returned_iff {id : Nat} {error : Option String} : system.returned id error = true ↔
    ∃ call, system.calls id = some call ∧ call.position = .returned error := by
  simp [System.returned, Option.any_eq_true]

/-- Two calls on one target: the first is cut short, and fails, and the second is shown. -/
theorem first_fails_second_shown :
    ∃ config, Reach (writeProgram plainDisk) (among fun op => op.path = "/d/save") (· = oneFile)
      config ∧ Whole plainDisk oneFile config.shared "/d/save" ∧
      (∃ first, config.shared.calls 0 = some first ∧
        first.position = .returned (some "fsync tmp: Input/output error")) ∧
      ∃ second moment, config.shared.calls 1 = some second ∧
        Later (writeProgram plainDisk) (among fun op => op.path = "/d/save") moment config ∧
          Shown plainDisk moment.shared second := by
  let first (chance : Chance) : Event WriteOp Chance := .run 0 chance
  let second (chance : Chance) : Event WriteOp Chance := .run 1 chance
  obtain ⟨config, reached, holds⟩ := Reach.exists_of_replay (writeProgram plainDisk)
    (among fun op => op.path = "/d/save") (· = oneFile) oneFile
    [.call ⟨0, "7", "/d/save", [7, 8, 9]⟩, .call ⟨0, "8", "/d/save", [4, 5]⟩,
      first {}, second {}, first {}, second {}, first {}, second {}, first {}, second {},
      first {}, second {}, first { count := 2 }, second { count := 9 },
      first { failed := true, interrupted := true }, second {}, first { count := 2 }, first {},
      second {}, first { failed := true, errno := "Input/output error" }, second {}, second {},
      first {}, second {}, first {}]
    (fun config => config.shared.returned 0 (some "fsync tmp: Input/output error") &&
      config.shared.returned 1 none)
    rfl (by decide)
  obtain ⟨failed, succeeded⟩ := Bool.and_eq_true_iff.mp holds
  obtain ⟨call, found, done⟩ := returned_iff.mp succeeded
  obtain ⟨whole, shows, -⟩ := all_or_nothing (plainDisk_separate "/d/save") oneFile_fresh reached
  obtain ⟨moment, _, later, shown⟩ := shows 1 call found done
  exact ⟨config, reached, (whole "/d/save" rfl).1, returned_iff.mp failed, call, moment, found,
    later, shown⟩

/-- The target of the second call is the staging path of the first, and it has half of what the
first call writes. -/
theorem staging_path_torn :
    ∃ config, Reach (writeProgram plainDisk) always (· = oneFile) config ∧
      config.shared.callCount = 2 ∧ ∃ first second file,
        config.shared.calls 0 = some first ∧ config.shared.calls 1 = some second ∧
          oneFile.entries (plainDisk.canonical second.path) = none ∧
            config.shared.entries (plainDisk.canonical second.path) = some (.file file) ∧
              config.shared.files file ≠ first.contents ∧
                config.shared.files file ≠ second.contents := by
  let first (chance : Chance) : Event WriteOp Chance := .run 0 chance
  let second (chance : Chance) : Event WriteOp Chance := .run 1 chance
  let firstCall : WriteOp := ⟨0, "7", "/d/save", [7, 8]⟩
  let secondCall : WriteOp := ⟨0, "8", "/d/save.tmp.4000.7.0", [4, 5]⟩
  obtain ⟨config, reached, holds⟩ := Reach.exists_of_replay (writeProgram plainDisk) always
    (· = oneFile) oneFile
    [.call firstCall, .call secondCall, first {}, second {}, first {}, first {}, first {},
      first {}, first { count := 1 }]
    (fun config => decide (config.shared.callCount = 2 ∧
      (config.shared.calls 0).map Call.contents = some [7, 8] ∧
      (config.shared.calls 1).map (fun call => (call.path, call.contents)) =
        some ("/d/save.tmp.4000.7.0", [4, 5]) ∧
      config.shared.entries "/d/save.tmp.4000.7.0" = some (.file 1) ∧
      config.shared.files 1 = [7]))
    rfl (by decide)
  obtain ⟨count, written, aimed, entry, bytes⟩ := of_decide_eq_true holds
  obtain ⟨one, found, whole⟩ := Option.map_eq_some_iff.mp written
  obtain ⟨other, found', fields⟩ := Option.map_eq_some_iff.mp aimed
  obtain ⟨path, whole'⟩ := Prod.mk.inj fields
  refine ⟨config, reached, count, one, other, 1, found, found', ?_, ?_, ?_, ?_⟩
  · rw [path]
    decide
  · rw [path]
    exact entry
  · rw [whole, bytes]
    decide
  · rw [whole', bytes]
    decide

end Runs

end ToxTunnel.AtomicWrite
