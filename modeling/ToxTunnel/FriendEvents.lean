import Mathlib.Data.List.Basic
import Mathlib.Logic.Function.Basic

/-!
The adapter's friend events: queued by the toxcore callbacks, delivered by
`dispatch_pending_events` after the task pass. A friend is told by the order in
which it was added; friend numbers are toxcore's and are used again.
-/

namespace ToxTunnel.FriendEvents

section Model

inductive Transport where
  | none | tcp | udp
  deriving DecidableEq

def Transport.connected (transport : Transport) : Bool := transport != .none

/-- What toxcore reports of one friend. -/
inductive Report where
  | status (transport : Transport)
  | lossless (data : List UInt8)
  | lossy (data : List UInt8)
  | message (text : String)
  deriving DecidableEq

inductive EventKind where
  | connection (connected : Bool)
  | losslessPacket (data : List UInt8)
  | lossyPacket (data : List UInt8)
  | message (text : String)
  deriving DecidableEq

/-- `about` is the friend that the event came from. -/
structure CallbackEvent where
  number : Nat
  kind : EventKind
  about : Nat
  deriving DecidableEq

/-- `owner` is who was given the number when the event is delivered under it. -/
structure Delivery where
  event : CallbackEvent
  owner : Option Nat
  deriving DecidableEq

/-- `live` and `owner` are toxcore's friend list: the numbers in use, and who was
given a number last. `reported` records the reports and `known` counts the friends. -/
structure Adapter where
  live : Nat → Bool := fun _ => false
  owner : Nat → Option Nat := fun _ => none
  known : Nat := 0
  transport : Nat → Transport := fun _ => .none
  pending : List CallbackEvent := []
  batch : List CallbackEvent := []
  delivered : List Delivery := []
  reported : List (Nat × Report) := []

def enqueueEvent (event : CallbackEvent) (adapter : Adapter) : Adapter :=
  { adapter with pending := adapter.pending ++ [event] }

def onFriendConnectionStatus (number about : Nat) (status : Transport) (adapter : Adapter) :
    Adapter :=
  let previous := adapter.transport number
  let noted := { adapter with transport := Function.update adapter.transport number status }
  -- A change of the transport only is no event.
  if status.connected = previous.connected then noted
  else enqueueEvent ⟨number, .connection status.connected, about⟩ noted

/-- The trampoline that toxcore calls for a report. -/
def onReport (number about : Nat) (adapter : Adapter) : Report → Adapter
  | .status status => onFriendConnectionStatus number about status adapter
  | .lossless data => enqueueEvent ⟨number, .losslessPacket data, about⟩ adapter
  | .lossy data => enqueueEvent ⟨number, .lossyPacket data, about⟩ adapter
  | .message text => enqueueEvent ⟨number, .message text, about⟩ adapter

def Report.isStatus : Report → Bool
  | .status _ => true
  | _ => false

/-- toxcore reports of the friends it was told of, and no status of a deleted one. -/
def receive (adapter : Adapter) (report : Nat × Report) : Option Adapter :=
  match adapter.owner report.1 with
  | none => none
  | some about =>
      if report.2.isStatus && !adapter.live report.1 then none
      else
        let after := onReport report.1 about adapter report.2
        some { after with reported := after.reported ++ [(about, report.2)] }

def removeFriend (number : Nat) (adapter : Adapter) : Adapter :=
  if adapter.live number then
    { adapter with
      live := Function.update adapter.live number false
      transport := Function.update adapter.transport number .none }
  -- `tox_friend_delete` fails.
  else adapter

/-- toxcore gives the new friend a number that is not in use. -/
def addFriend (number : Nat) (adapter : Adapter) : Option Adapter :=
  if adapter.live number then none
  else some
    { adapter with
      live := Function.update adapter.live number true
      owner := Function.update adapter.owner number (some adapter.known)
      known := adapter.known + 1 }

/-- The queue is taken as a whole; `deliverNext` is one turn of the loop over it. -/
def dispatchPendingEvents (adapter : Adapter) : Option Adapter :=
  if adapter.batch = [] then some { adapter with batch := adapter.pending, pending := [] }
  else none

def deliverNext (adapter : Adapter) : Option Adapter :=
  match adapter.batch with
  | [] => none
  | event :: rest =>
      some { adapter with
        batch := rest
        delivered := adapter.delivered ++ [⟨event, adapter.owner event.number⟩] }

/-- One pass of the loop iterates, runs the marshalled calls and dispatches; a
callback may make such calls too. A failed addition changes nothing. -/
inductive AdapterStep where
  | report (report : Nat × Report)
  | removeFriend (number : Nat)
  | addFriend (number : Nat)
  | dispatchPendingEvents
  | deliverNext
  deriving DecidableEq

def step (adapter : Adapter) : AdapterStep → Option Adapter
  | .report report => receive adapter report
  | .removeFriend number => some (removeFriend number adapter)
  | .addFriend number => addFriend number adapter
  | .dispatchPendingEvents => dispatchPendingEvents adapter
  | .deliverNext => deliverNext adapter

def run : Adapter → List AdapterStep → Option Adapter
  | adapter, [] => some adapter
  | adapter, first :: rest => (step adapter first).bind fun next => run next rest

end Model

section Purpose

/-- The events that a friend's reports call for. -/
def eventsOf : Bool → List Report → List EventKind
  | _, [] => []
  | connected, .status status :: rest =>
      if status.connected = connected then eventsOf connected rest
      else .connection status.connected :: eventsOf status.connected rest
  | connected, .lossless data :: rest => .losslessPacket data :: eventsOf connected rest
  | connected, .lossy data :: rest => .lossyPacket data :: eventsOf connected rest
  | connected, .message text :: rest => .message text :: eventsOf connected rest

def connectedAfter : Bool → List Report → Bool
  | connected, [] => connected
  | _, .status status :: rest => connectedAfter status.connected rest
  | connected, .lossless _ :: rest => connectedAfter connected rest
  | connected, .lossy _ :: rest => connectedAfter connected rest
  | connected, .message _ :: rest => connectedAfter connected rest

theorem eventsOf_append (connected : Bool) (first second : List Report) :
    eventsOf connected (first ++ second) =
      eventsOf connected first ++ eventsOf (connectedAfter connected first) second := by
  induction first generalizing connected with
  | nil => rfl
  | cons report rest ih =>
      cases report with
      | status status =>
          simp only [List.cons_append, eventsOf, connectedAfter]
          by_cases same : status.connected = connected
          · rw [if_pos same, if_pos same, ih, same]
          · rw [if_neg same, if_neg same, ih, List.cons_append]
      | lossless data | lossy data | message data =>
          simp only [List.cons_append, eventsOf, connectedAfter, ih]

theorem connectedAfter_append (connected : Bool) (first second : List Report) :
    connectedAfter connected (first ++ second) =
      connectedAfter (connectedAfter connected first) second := by
  induction first generalizing connected with
  | nil => rfl
  | cons report rest ih => cases report <;> exact ih _

/-- Strict alternation, beginning with `expected`. -/
def Alternates : Bool → List Bool → Prop
  | _, [] => True
  | expected, first :: rest => first = expected ∧ Alternates (!expected) rest

theorem Alternates.of_prefix {part whole : List Bool} {expected : Bool} (first : part <+: whole)
    (alternates : Alternates expected whole) : Alternates expected part := by
  induction part generalizing whole expected with
  | nil => trivial
  | cons head rest ih =>
      obtain ⟨others, rfl⟩ := first
      exact ⟨alternates.1, ih (List.prefix_append rest others) alternates.2⟩

def EventKind.edge : EventKind → Option Bool
  | .connection connected => some connected
  | _ => none

def connections (events : List EventKind) : List Bool := events.filterMap EventKind.edge

theorem events_alternate (connected : Bool) (reports : List Report) :
    Alternates (!connected) (connections (eventsOf connected reports)) := by
  induction reports generalizing connected with
  | nil => trivial
  | cons report rest ih =>
      cases report with
      | status status =>
          simp only [eventsOf]
          by_cases same : status.connected = connected
          · rw [if_pos same]
            exact ih connected
          · rw [if_neg same]
            have flipped : status.connected = !connected := by
              cases connected <;> simpa using same
            rw [flipped]
            exact ⟨rfl, ih (!connected)⟩
      | lossless data | lossy data | message data => exact ih connected

end Purpose

section Views

def Adapter.undelivered (adapter : Adapter) : List CallbackEvent := adapter.batch ++ adapter.pending

/-- Everything that was queued, in the order of the queue. -/
def Adapter.queued (adapter : Adapter) : List CallbackEvent :=
  adapter.delivered.map Delivery.event ++ adapter.undelivered

def eventsAbout (who : Nat) (events : List CallbackEvent) : List EventKind :=
  (events.filter fun event => event.about == who).map CallbackEvent.kind

def Adapter.deliveredTo (who : Nat) (adapter : Adapter) : List EventKind :=
  eventsAbout who (adapter.delivered.map Delivery.event)

def reportsOf (who : Nat) (reported : List (Nat × Report)) : List Report :=
  (reported.filter fun report => report.1 == who).map Prod.snd

theorem eventsAbout_append (who : Nat) (first second : List CallbackEvent) :
    eventsAbout who (first ++ second) = eventsAbout who first ++ eventsAbout who second := by
  simp [eventsAbout]

theorem eventsAbout_self (event : CallbackEvent) : eventsAbout event.about [event] = [event.kind] := by
  simp [eventsAbout]

theorem reportsOf_append (who : Nat) (first second : List (Nat × Report)) :
    reportsOf who (first ++ second) = reportsOf who first ++ reportsOf who second := by
  simp [reportsOf]

theorem reportsOf_self (who : Nat) (report : Report) : reportsOf who [(who, report)] = [report] := by
  simp [reportsOf]

theorem reportsOf_other {who about : Nat} (other : about ≠ who) (report : Report) :
    reportsOf who [(about, report)] = [] := by
  simp [reportsOf, other]

theorem queued_enqueue (event : CallbackEvent) (adapter : Adapter) :
    (enqueueEvent event adapter).queued = adapter.queued ++ [event] := by
  simp [Adapter.queued, Adapter.undelivered, enqueueEvent]

theorem queued_dispatch {adapter after : Adapter}
    (stepped : dispatchPendingEvents adapter = some after) : after.queued = adapter.queued := by
  simp only [dispatchPendingEvents] at stepped
  split at stepped
  next none_left =>
    cases stepped
    simp [Adapter.queued, Adapter.undelivered, none_left]
  · cases stepped

theorem queued_deliver {adapter after : Adapter} (stepped : deliverNext adapter = some after) :
    after.queued = adapter.queued := by
  simp only [deliverNext] at stepped
  split at stepped
  · cases stepped
  next event rest turn =>
    cases stepped
    simp [Adapter.queued, Adapter.undelivered, turn]

end Views

section Friends
variable {adapter after : Adapter}

/-- What the adapter has of each friend is what toxcore reported of it. -/
structure Faithful (adapter : Adapter) : Prop where
  events : ∀ who, eventsAbout who adapter.queued = eventsOf false (reportsOf who adapter.reported)
  tracked : ∀ number who, adapter.owner number = some who → adapter.live number = true →
    connectedAfter false (reportsOf who adapter.reported) = (adapter.transport number).connected
  dead : ∀ number, adapter.live number = false → adapter.transport number = .none
  fresh : ∀ number who, adapter.owner number = some who → who < adapter.known
  alone : ∀ first second who, adapter.owner first = some who → adapter.owner second = some who →
    first = second
  unheard : ∀ who, adapter.known ≤ who → reportsOf who adapter.reported = []
  known : ∀ event ∈ adapter.queued, event.about < adapter.known

theorem queued_report (number about : Nat) (adapter : Adapter) (report : Report)
    (tracked : report.isStatus = true →
      connectedAfter false (reportsOf about adapter.reported) = (adapter.transport number).connected) :
    ∃ events, (onReport number about adapter report).queued = adapter.queued ++ events ∧
      (∀ event ∈ events, event.about = about ∧ event.number = number) ∧
      eventsAbout about events =
        eventsOf (connectedAfter false (reportsOf about adapter.reported)) [report] := by
  cases report with
  | status status =>
      rw [tracked rfl]
      simp only [onReport, onFriendConnectionStatus, eventsOf]
      split
      · exact ⟨[], by simp [Adapter.queued, Adapter.undelivered], by simp, rfl⟩
      · exact ⟨_, queued_enqueue _ _, by simp, eventsAbout_self _⟩
  | lossless data | lossy data | message data =>
      exact ⟨_, queued_enqueue _ _, by simp, eventsAbout_self _⟩

theorem report_frame (number about : Nat) (adapter : Adapter) (report : Report) :
    (onReport number about adapter report).live = adapter.live ∧
    (onReport number about adapter report).owner = adapter.owner ∧
    (onReport number about adapter report).known = adapter.known ∧
    (onReport number about adapter report).delivered = adapter.delivered ∧
    (onReport number about adapter report).reported = adapter.reported := by
  cases report with
  | status status =>
      simp only [onReport, onFriendConnectionStatus, enqueueEvent]
      split <;> simp
  | lossless data | lossy data | message data => simp [onReport, enqueueEvent]

theorem report_transport (number about : Nat) (adapter : Adapter) (report : Report) :
    (∀ other, other ≠ number →
      (onReport number about adapter report).transport other = adapter.transport other) ∧
    ((onReport number about adapter report).transport number).connected =
      connectedAfter (adapter.transport number).connected [report] ∧
    (report.isStatus = false →
      (onReport number about adapter report).transport = adapter.transport) := by
  cases report with
  | status status =>
      simp only [onReport, onFriendConnectionStatus, enqueueEvent]
      split <;> simp +contextual [Function.update_of_ne, connectedAfter, Report.isStatus]
  | lossless data | lossy data | message data =>
      simp [onReport, enqueueEvent, connectedAfter]

theorem receive_faithful {report : Nat × Report} (faithful : Faithful adapter)
    (stepped : receive adapter report = some after) : Faithful after := by
  obtain ⟨number, report⟩ := report
  simp only [receive] at stepped
  split at stepped
  · cases stepped
  next about given =>
    split at stepped
    · cases stepped
    next allowed =>
      have alive : report.isStatus = true → adapter.live number = true := by
        intro status
        simpa [status] using allowed
      obtain ⟨live, owner, known, _, reported⟩ := report_frame number about adapter report
      obtain ⟨others, mine, still⟩ := report_transport number about adapter report
      obtain ⟨events, queued, from_here, told⟩ := queued_report number about adapter report
        fun status => faithful.tracked number about given (alive status)
      simp only [Option.some.injEq] at stepped
      subst stepped
      constructor
      · intro who
        show eventsAbout who (onReport number about adapter report).queued = _
        rw [queued, eventsAbout_append, faithful.events who, reported, reportsOf_append]
        by_cases same : about = who
        · subst same
          rw [reportsOf_self, eventsOf_append, told]
        · rw [reportsOf_other same, List.append_nil]
          have none_here : eventsAbout who events = [] := by
            simp only [eventsAbout, List.map_eq_nil_iff, List.filter_eq_nil_iff, beq_iff_eq]
            intro event member away
            exact same ((from_here event member).1.symm.trans away)
          rw [none_here, List.append_nil]
      · intro other who
        rw [owner, live, reported, reportsOf_append]
        intro owned running
        have before := faithful.tracked other who owned running
        by_cases same : other = number
        · subst same
          rw [given, Option.some.injEq] at owned
          subst owned
          rw [reportsOf_self, connectedAfter_append, before, mine]
        · have away : about ≠ who := by
            rintro rfl
            exact same (faithful.alone other number about owned given)
          rw [reportsOf_other away, List.append_nil, before, others other same]
      · intro other
        rw [live]
        intro off
        by_cases same : other = number
        · subst same
          have silent : report.isStatus = false := by
            cases status : report.isStatus with
            | false => rfl
            | true =>
                have on := alive status
                rw [off] at on
                cases on
          rw [still silent]
          exact faithful.dead other off
        · rw [others other same]
          exact faithful.dead other off
      · rw [owner, known]
        exact faithful.fresh
      · rw [owner]
        exact faithful.alone
      · intro who
        rw [known, reported, reportsOf_append]
        intro unknown
        have here := faithful.fresh number about given
        rw [faithful.unheard who unknown, reportsOf_other (by omega), List.append_nil]
      · intro event
        show event ∈ (onReport number about adapter report).queued → _
        rw [queued, known, List.mem_append]
        rintro (before | new)
        · exact faithful.known event before
        · rw [(from_here event new).1]
          exact faithful.fresh number about given

theorem remove_faithful (number : Nat) (faithful : Faithful adapter) :
    Faithful (removeFriend number adapter) := by
  simp only [removeFriend]
  split
  · exact { faithful with
      tracked := by
        intro other who owned running
        by_cases same : other = number
        · subst same
          simp at running
        · simp only [Function.update_of_ne same] at running ⊢
          exact faithful.tracked other who owned running
      dead := by
        intro other off
        by_cases same : other = number
        · subst same
          simp
        · simp only [Function.update_of_ne same] at off ⊢
          exact faithful.dead other off }
  · exact faithful

theorem add_faithful {number : Nat} (faithful : Faithful adapter)
    (stepped : addFriend number adapter = some after) : Faithful after := by
  simp only [addFriend] at stepped
  split at stepped
  · cases stepped
  next free =>
    have free : adapter.live number = false := by simpa using free
    simp only [Option.some.injEq] at stepped
    subst stepped
    constructor
    · exact faithful.events
    · intro other who owned running
      by_cases same : other = number
      · subst same
        simp only [Function.update_self, Option.some.injEq] at owned
        subst owned
        -- The number was in no use, so nothing is left of its last status.
        rw [faithful.unheard _ (Nat.le_refl _), faithful.dead other free]
        rfl
      · simp only [Function.update_of_ne same] at owned running
        exact faithful.tracked other who owned running
    · intro other off
      by_cases same : other = number
      · subst same
        exact faithful.dead other free
      · simp only [Function.update_of_ne same] at off
        exact faithful.dead other off
    · intro other who owned
      by_cases same : other = number
      · subst same
        simp only [Function.update_self, Option.some.injEq] at owned
        simp only
        omega
      · simp only [Function.update_of_ne same] at owned
        exact Nat.lt_succ_of_lt (faithful.fresh other who owned)
    · intro first second who
      simp only [Function.update_apply]
      split <;> split
      · simp +contextual [*]
      · rintro owned other
        cases owned
        exact absurd (faithful.fresh second _ other) (Nat.lt_irrefl _)
      · rintro other owned
        cases owned
        exact absurd (faithful.fresh first _ other) (Nat.lt_irrefl _)
      · exact faithful.alone first second who
    · intro who unknown
      exact faithful.unheard who (Nat.le_of_succ_le unknown)
    · intro event member
      exact Nat.lt_succ_of_lt (faithful.known event member)

theorem step_faithful {taken : AdapterStep} (faithful : Faithful adapter)
    (stepped : step adapter taken = some after) : Faithful after := by
  cases taken with
  | report report => exact receive_faithful faithful stepped
  | removeFriend number =>
      cases stepped
      exact remove_faithful number faithful
  | addFriend number => exact add_faithful faithful stepped
  | dispatchPendingEvents =>
      have same := queued_dispatch stepped
      simp only [step, dispatchPendingEvents] at stepped
      split at stepped
      · cases stepped
        exact { faithful with
          events := by rw [same]; exact faithful.events
          known := by rw [same]; exact faithful.known }
      · cases stepped
  | deliverNext =>
      have same := queued_deliver stepped
      simp only [step, deliverNext] at stepped
      split at stepped
      · cases stepped
      · cases stepped
        exact { faithful with
          events := by rw [same]; exact faithful.events
          known := by rw [same]; exact faithful.known }

theorem run_faithful {steps : List AdapterStep} (faithful : Faithful adapter)
    (ran : run adapter steps = some after) : Faithful after := by
  induction steps generalizing adapter with
  | nil =>
      cases ran
      exact faithful
  | cons first rest ih =>
      obtain ⟨next, stepped, goes_on⟩ := Option.bind_eq_some_iff.mp ran
      exact ih (step_faithful faithful stepped) goes_on

theorem fresh_faithful : Faithful {} := by
  constructor <;> simp [Adapter.queued, Adapter.undelivered, eventsAbout, reportsOf, eventsOf]

end Friends

section Numbers
variable {adapter after : Adapter}

/-- What was delivered went out under the number of the friend it was about, and
what is queued still would. -/
def OwnNumbers (adapter : Adapter) : Prop :=
  (∀ delivery ∈ adapter.delivered, delivery.owner = some delivery.event.about) ∧
  ∀ event ∈ adapter.undelivered, adapter.owner event.number = some event.about

/-- No addition is given a number under which an event is still queued. -/
def AddsApart (adapter : Adapter) : AdapterStep → Prop
  | .addFriend number => ∀ event ∈ adapter.undelivered, event.number ≠ number
  | _ => True

def AddedApart : Adapter → List AdapterStep → Prop
  | _, [] => True
  | adapter, first :: rest =>
      AddsApart adapter first ∧
        match step adapter first with
        | none => True
        | some next => AddedApart next rest

instance (adapter : Adapter) (taken : AdapterStep) : Decidable (AddsApart adapter taken) := by
  cases taken <;> simp only [AddsApart] <;> infer_instance

instance decidableAddedApart :
    (steps : List AdapterStep) → (adapter : Adapter) → Decidable (AddedApart adapter steps)
  | [], _ => .isTrue trivial
  | first :: rest, adapter =>
      have : Decidable (match step adapter first with
          | none => True
          | some next => AddedApart next rest) :=
        match step adapter first with
        | none => .isTrue trivial
        | some next => decidableAddedApart rest next
      inferInstanceAs (Decidable (_ ∧ _))

theorem receive_numbers {report : Nat × Report} (stepped : receive adapter report = some after) :
    OwnNumbers after ↔ OwnNumbers adapter := by
  obtain ⟨number, report⟩ := report
  simp only [receive] at stepped
  split at stepped
  · cases stepped
  next about given =>
    split at stepped
    · cases stepped
    simp only [Option.some.injEq] at stepped
    subst stepped
    have enqueued : ∀ before kind, before.owner = adapter.owner →
        (OwnNumbers (enqueueEvent ⟨number, kind, about⟩ before) ↔ OwnNumbers before) := by
      intro before kind owner
      simp only [OwnNumbers, Adapter.undelivered, enqueueEvent, ← List.append_assoc,
        List.forall_mem_append, List.forall_mem_singleton, owner, given, and_true]
    cases report with
    | status status =>
        simp only [onReport, onFriendConnectionStatus]
        split
        · rfl
        · exact enqueued _ _ rfl
    | lossless data | lossy data | message data => exact enqueued _ _ rfl

theorem add_numbers {number : Nat} (faithful : Faithful adapter)
    (stepped : addFriend number adapter = some after) :
    OwnNumbers after ↔ OwnNumbers adapter ∧ ∀ event ∈ adapter.undelivered, event.number ≠ number := by
  simp only [addFriend] at stepped
  split at stepped
  · cases stepped
  simp only [Option.some.injEq] at stepped
  subst stepped
  have known : ∀ event ∈ adapter.undelivered, event.about < adapter.known := by
    intro event member
    exact faithful.known event (List.mem_append.mpr (.inr member))
  constructor
  · rintro ⟨delivered, own⟩
    have apart : ∀ event ∈ adapter.undelivered, event.number ≠ number := by
      intro event member same
      have given := own event member
      simp only [same, Function.update_self, Option.some.injEq] at given
      exact absurd (known event member) (by omega)
    refine ⟨⟨delivered, ?_⟩, apart⟩
    intro event member
    have given := own event member
    simpa only [Function.update_of_ne (apart event member)] using given
  · rintro ⟨⟨delivered, own⟩, apart⟩
    refine ⟨delivered, ?_⟩
    intro event member
    simp only [Function.update_of_ne (apart event member)]
    exact own event member

theorem deliver_numbers (stepped : deliverNext adapter = some after) :
    OwnNumbers after ↔ OwnNumbers adapter := by
  simp only [deliverNext] at stepped
  split at stepped
  · cases stepped
  next event rest turn =>
    cases stepped
    simp only [OwnNumbers, Adapter.undelivered, turn, List.cons_append, List.forall_mem_append,
      List.forall_mem_cons]
    tauto

theorem step_numbers {taken : AdapterStep} (faithful : Faithful adapter)
    (stepped : step adapter taken = some after) :
    OwnNumbers after ↔ OwnNumbers adapter ∧ AddsApart adapter taken := by
  cases taken with
  | report report => simpa only [AddsApart, and_true] using receive_numbers stepped
  | removeFriend number =>
      cases stepped
      simp only [AddsApart, and_true, removeFriend]
      split <;> rfl
  | addFriend number => exact add_numbers faithful stepped
  | dispatchPendingEvents =>
      simp only [step, dispatchPendingEvents] at stepped
      split at stepped
      next none_left =>
        cases stepped
        simp [OwnNumbers, Adapter.undelivered, AddsApart, none_left]
      · cases stepped
  | deliverNext => simpa only [AddsApart, and_true] using deliver_numbers stepped

theorem run_numbers {steps : List AdapterStep} (faithful : Faithful adapter)
    (ran : run adapter steps = some after) :
    OwnNumbers after ↔ OwnNumbers adapter ∧ AddedApart adapter steps := by
  induction steps generalizing adapter with
  | nil =>
      cases ran
      simp [AddedApart]
  | cons first rest ih =>
      obtain ⟨next, stepped, goes_on⟩ := Option.bind_eq_some_iff.mp ran
      rw [ih (step_faithful faithful stepped) goes_on, step_numbers faithful stepped, and_assoc]
      simp only [AddedApart, stepped]

end Numbers

section Results

/-- The events of each friend alternate and come in the order of its reports, and
none comes under a number that was given to another friend since. -/
structure KeepsIdentity (adapter : Adapter) : Prop where
  alternate : ∀ who, Alternates true (connections (adapter.deliveredTo who))
  inOrder : ∀ who, adapter.deliveredTo who <+: eventsOf false (reportsOf who adapter.reported)
  attributed : ∀ delivery ∈ adapter.delivered, delivery.owner = some delivery.event.about

theorem delivered_in_order {adapter : Adapter} (faithful : Faithful adapter) (who : Nat) :
    adapter.deliveredTo who <+: eventsOf false (reportsOf who adapter.reported) := by
  rw [← faithful.events who, Adapter.queued, eventsAbout_append]
  exact List.prefix_append _ _

theorem delivered_alternate {adapter : Adapter} (faithful : Faithful adapter) (who : Nat) :
    Alternates true (connections (adapter.deliveredTo who)) :=
  Alternates.of_prefix ((delivered_in_order faithful who).filterMap _) (events_alternate false _)

/-- Every run whose additions are apart from the queued events keeps the friends'
identity, and where everything has been delivered, no other run does. -/
theorem events_keep_identity {steps : List AdapterStep} {adapter : Adapter}
    (ran : run {} steps = some adapter) :
    (AddedApart {} steps → KeepsIdentity adapter) ∧
    (adapter.undelivered = [] → (KeepsIdentity adapter ↔ AddedApart {} steps) ∧
      ∀ who, adapter.deliveredTo who = eventsOf false (reportsOf who adapter.reported)) := by
  have faithful := run_faithful fresh_faithful ran
  have numbers := run_numbers fresh_faithful ran
  have at_first : OwnNumbers {} := by simp [OwnNumbers, Adapter.undelivered]
  have holds : AddedApart {} steps → KeepsIdentity adapter := by
    intro apart
    exact ⟨delivered_alternate faithful, delivered_in_order faithful,
      (numbers.mpr ⟨at_first, apart⟩).1⟩
  refine ⟨holds, ?_⟩
  intro settled
  refine ⟨⟨?_, holds⟩, ?_⟩
  · intro keeps
    refine (numbers.mp ⟨keeps.attributed, ?_⟩).2
    rw [settled]
    simp
  · intro who
    rw [← faithful.events who, Adapter.queued, settled, List.append_nil]
    rfl

def reusedAfterDispatch : List AdapterStep :=
  [.addFriend 0, .report (0, .status .tcp), .report (0, .lossless [1]), .dispatchPendingEvents,
    .deliverNext, .deliverNext, .removeFriend 0, .addFriend 0, .report (0, .status .udp),
    .dispatchPendingEvents, .deliverNext]

/-- A friend connects and sends a packet, both are delivered, and its number goes
to another friend. -/
theorem events_keep_identity_reused :
    ∃ adapter, run {} reusedAfterDispatch = some adapter ∧
      adapter.deliveredTo 0 = [.connection true, .losslessPacket [1]] ∧
      adapter.deliveredTo 1 = [.connection true] ∧ KeepsIdentity adapter := by
  have apart : AddedApart {} reusedAfterDispatch := by decide
  have ran : ∃ adapter, run {} reusedAfterDispatch = some adapter ∧
      adapter.deliveredTo 0 = [.connection true, .losslessPacket [1]] ∧
      adapter.deliveredTo 1 = [.connection true] := ⟨_, rfl, rfl, rfl⟩
  obtain ⟨adapter, ran, first, second⟩ := ran
  exact ⟨adapter, ran, first, second, (events_keep_identity ran).1 apart⟩

def reusedBeforeDispatch : List AdapterStep :=
  [.addFriend 0, .report (0, .status .tcp), .report (0, .lossless [1]), .removeFriend 0,
    .addFriend 0, .dispatchPendingEvents, .deliverNext, .deliverNext]

/-- The friend is removed and its number given away between the iteration that
queued its events and the dispatch: the new friend is told to have connected, and
is handed the old one's packet. -/
theorem number_reused_before_dispatch :
    ∃ adapter, run {} reusedBeforeDispatch = some adapter ∧
      adapter.delivered =
        [⟨⟨0, .connection true, 0⟩, some 1⟩, ⟨⟨0, .losslessPacket [1], 0⟩, some 1⟩] ∧
      ¬ KeepsIdentity adapter := by
  have reused : ∃ adapter, run {} reusedBeforeDispatch = some adapter ∧ adapter.delivered =
      [⟨⟨0, .connection true, 0⟩, some 1⟩, ⟨⟨0, .losslessPacket [1], 0⟩, some 1⟩] :=
    ⟨_, rfl, rfl⟩
  obtain ⟨adapter, ran, delivered⟩ := reused
  refine ⟨adapter, ran, delivered, ?_⟩
  intro keeps
  have attributed := keeps.attributed
  simp [delivered] at attributed

end Results

end ToxTunnel.FriendEvents
