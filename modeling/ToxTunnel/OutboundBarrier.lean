import ToxTunnel.OutboundQueue

/-!
The outbound order barrier: a frame whose send was reported done before another
send starts is never overtaken by it. The in-flight flag stands for the frame that
a drain has popped, so the order rests on one drain at a time.
-/

namespace ToxTunnel.OutboundBarrier
open Interleaving TunnelState OutboundQueue

section Statement

/-- The send of `first` had returned true when the send of `second` started, and
the queue was not cleared in between. The log is newest first. -/
def ReturnedBefore (first second : Nat) (log : List QueueObs) : Prop :=
  ∃ newer older, log = newer ++ .started second :: older ∧
    .returned first true ∈ older.takeWhile (· ≠ .cleared)

/-- Nothing is accepted before a frame it has to wait for, and nothing twice. -/
structure BarrierKept (manager : Manager) : Prop where
  ordered : ∀ first second newer older, manager.log = newer ++ .accepted first :: older →
    ReturnedBefore first second older → .accepted second ∉ older
  waiting : ∀ first second, ReturnedBefore first second manager.log →
    first ∈ manager.pending.map Parked.ticket → .accepted second ∉ manager.log
  once : ∀ ticket, manager.log.count (.accepted ticket) ≤ 1

end Statement

section Invariant

/-- A send that may still park its frame or have it accepted. -/
def sending (ticket : Nat) : QueueAct → Nat
  | .snapshot _ parked | .barrier _ parked | .queue parked | .recheck _ parked
  | .offer _ parked | .answered _ parked .sendqFull | .answered _ parked .permanentFail =>
      if parked.ticket = ticket then 1 else 0
  | _ => 0

/-- A send that has passed the barrier. -/
def passed (ticket : Nat) : QueueAct → Nat
  | .recheck _ parked | .offer _ parked | .answered _ parked .sendqFull
  | .answered _ parked .permanentFail => if parked.ticket = ticket then 1 else 0
  | _ => 0

/-- A drain that has popped the frame. -/
def held (ticket : Nat) : QueueAct → Nat
  | .drainRecheck _ parked | .drainOffer _ parked | .drainRequeue _ parked =>
      if parked.ticket = ticket then 1 else 0
  | _ => 0

/-- A drain between its pop and the release of the in-flight flag. -/
def inFlight : QueueAct → Nat
  | .drainRecheck _ _ | .drainOffer _ _ | .drainRequeue _ _ | .drainRelease => 1
  | _ => 0

def queued (manager : Manager) (ticket : Nat) : Nat := (manager.pending.map Parked.ticket).count ticket

/-- Where a frame is: with its sender, in the queue, with a drain, or accepted. -/
def copies (manager : Manager) (bag : Multiset QueueAct) (ticket : Nat) : Nat :=
  weigh (sending ticket) bag + weigh (held ticket) bag + queued manager ticket +
    manager.log.count (.accepted ticket)

/-- `ReturnedBefore` without regard to clears. -/
def Precedes (first second : Nat) : List QueueObs → Prop
  | [] => False
  | .started ticket :: older =>
      (ticket = second ∧ .returned first true ∈ older) ∨ Precedes first second older
  | _ :: older => Precedes first second older

def Ordered : List QueueObs → Prop
  | [] => True
  | .accepted first :: older =>
      (∀ second, Precedes first second older → .accepted second ∉ older) ∧ Ordered older
  | _ :: older => Ordered older

/-- A frame that has to wait for one that is parked or popped. -/
structure Behind (manager : Manager) (bag : Multiset QueueAct) (first second : Nat) : Prop where
  passed : weigh (passed second) bag = 0
  held : weigh (held second) bag = 0
  accepted : .accepted second ∉ manager.log
  queued : first ∈ manager.pending.map Parked.ticket → second ∈ manager.pending.map Parked.ticket →
    List.Sublist [first, second] (manager.pending.map Parked.ticket)

structure Single (manager : Manager) (bag : Multiset QueueAct) : Prop where
  copied : ∀ ticket, copies manager bag ticket ≤ if ticket < manager.tickets then 1 else 0
  settled : ∀ ticket, .returned ticket true ∈ manager.log →
    ticket < manager.tickets ∧ weigh (sending ticket) bag = 0
  answered : ∀ path parked, .answered path parked .sent ∈ bag →
    .accepted parked.ticket ∈ manager.log

structure Queueing (manager : Manager) (bag : Multiset QueueAct) : Prop where
  single : Single manager bag
  flight : weigh inFlight bag = if manager.drainInFlight then 1 else 0
  behind : ∀ first second, Precedes first second manager.log →
    0 < weigh (held first) bag + queued manager first → Behind manager bag first second
  ordered : Ordered manager.log

/-- A drain pops only while no other one is between its pop and its release. -/
def oneDrainInFlight : Guard Manager QueueAct QueueOp SendOutcome
  | manager, others, .act _ (.drainPop armedEpoch) =>
      armedEpoch = manager.drainEpoch → manager.muted = false → manager.pending ≠ [] →
        weigh inFlight others = 0
  | _, _, _ => True

instance : oneDrainInFlight.Checked := fun manager others move => by
  induction move using Move.casesOn with
  | call op => exact instDecidableTrue
  | act choice act =>
      induction act using QueueAct.casesOn with
      | drainPop armedEpoch =>
          exact inferInstanceAs (Decidable (armedEpoch = manager.drainEpoch →
            manager.muted = false → manager.pending ≠ [] → weigh inFlight others = 0))
      | _ => exact instDecidableTrue

end Invariant

/-- An observation that the order does not depend on. -/
def silent : QueueObs → Bool
  | .returned _ false | .cleared => true
  | _ => false

/-- A step that moves no frame forward: at most it loses some. -/
structure Quiet (manager after : Manager) (act : QueueAct) (new : List QueueAct) : Prop where
  tickets : after.tickets = manager.tickets
  pending : after.pending = manager.pending ∨ after.pending = []
  sending : ∀ ticket, weigh (sending ticket) ↑new ≤ sending ticket act
  passed : ∀ ticket, weigh (passed ticket) ↑new ≤ passed ticket act
  held : ∀ ticket, weigh (held ticket) ↑new ≤ held ticket act
  answers : ∀ path parked, .answered path parked .sent ∉ new
  log : ∃ notes, after.log = notes ++ manager.log ∧ ∀ obs ∈ notes, silent obs = true

attribute [local simp] sending passed held inFlight

section Steps
variable {manager after : Manager} {others : Multiset QueueAct} {act : QueueAct}
  {new : List QueueAct}

theorem precedes_append {notes : List QueueObs} (quiet : ∀ obs ∈ notes, silent obs = true)
    (first second : Nat) (log : List QueueObs) :
    Precedes first second (notes ++ log) ↔ Precedes first second log := by
  induction notes with
  | nil => rfl
  | cons obs notes ih =>
      have rest := ih fun obs member => quiet obs (List.mem_cons_of_mem _ member)
      have head := quiet obs List.mem_cons_self
      cases obs <;> simp_all [silent, Precedes]

theorem ordered_append {notes : List QueueObs} (quiet : ∀ obs ∈ notes, silent obs = true)
    (log : List QueueObs) : Ordered (notes ++ log) ↔ Ordered log := by
  induction notes with
  | nil => rfl
  | cons obs notes ih =>
      have rest := ih fun obs member => quiet obs (List.mem_cons_of_mem _ member)
      have head := quiet obs List.mem_cons_self
      cases obs <;> simp_all [silent, Ordered]

theorem mem_append_silent {notes log : List QueueObs} (quiet : ∀ obs ∈ notes, silent obs = true)
    {obs : QueueObs} (loud : silent obs = false) : obs ∈ notes ++ log ↔ obs ∈ log := by
  rw [List.mem_append]
  constructor
  · rintro (noted | member)
    · rw [quiet obs noted] at loud
      cases loud
    · exact member
  · exact .inr

theorem count_append_silent {notes log : List QueueObs} (quiet : ∀ obs ∈ notes, silent obs = true)
    {obs : QueueObs} (loud : silent obs = false) : (notes ++ log).count obs = log.count obs := by
  have none_noted : notes.count obs = 0 := by
    rw [List.count_eq_zero]
    intro noted
    rw [quiet obs noted] at loud
    cases loud
  rw [List.count_append, none_noted, Nat.zero_add]

theorem Quiet.queued (quiet : Quiet manager after act new) (ticket : Nat) :
    queued after ticket ≤ queued manager ticket := by
  unfold OutboundBarrier.queued
  rcases quiet.pending with same | empty
  · rw [same]
  · simp [empty]

theorem Quiet.single (quiet : Quiet manager after act new)
    (single : Single manager (act ::ₘ others)) : Single after (↑new + others) := by
  obtain ⟨notes, log, silenced⟩ := quiet.log
  constructor
  · intro ticket
    have copied := single.copied ticket
    have fewer := quiet.queued ticket
    have sent := quiet.sending ticket
    have popped := quiet.held ticket
    have counted : (notes ++ manager.log).count (.accepted ticket) =
        manager.log.count (.accepted ticket) := count_append_silent silenced rfl
    simp only [copies, weigh_cons, weigh_add, quiet.tickets, log, counted] at copied ⊢
    omega
  · intro ticket returned
    rw [log, mem_append_silent silenced rfl] at returned
    obtain ⟨known, gone⟩ := single.settled ticket returned
    have sent := quiet.sending ticket
    rw [weigh_cons] at gone
    rw [weigh_add, quiet.tickets]
    exact ⟨known, by omega⟩
  · intro path parked pending
    rw [Multiset.mem_add, Multiset.mem_coe] at pending
    rw [log, mem_append_silent silenced rfl]
    rcases pending with fresh | kept
    · exact absurd fresh (quiet.answers path parked)
    · exact single.answered path parked (Multiset.mem_cons_of_mem kept)

theorem Quiet.behind (quiet : Quiet manager after act new) {first second : Nat}
    (behind : Behind manager (act ::ₘ others) first second) :
    Behind after (↑new + others) first second := by
  obtain ⟨notes, log, silenced⟩ := quiet.log
  have sent := quiet.passed second
  have popped := quiet.held second
  have passed := behind.passed
  have held := behind.held
  rw [weigh_cons] at passed held
  constructor
  · rw [weigh_add]
    omega
  · rw [weigh_add]
    omega
  · rw [log, mem_append_silent silenced rfl]
    exact behind.accepted
  · rcases quiet.pending with same | empty
    · rw [same]
      exact behind.queued
    · simp [empty]

theorem Quiet.queueing (quiet : Quiet manager after act new)
    (queueing : Queueing manager (act ::ₘ others))
    (flight : weigh inFlight (↑new + others) = if after.drainInFlight then 1 else 0) :
    Queueing after (↑new + others) := by
  obtain ⟨notes, log, silenced⟩ := quiet.log
  constructor
  · exact quiet.single queueing.single
  · exact flight
  · intro first second precedes live
    rw [log, precedes_append silenced] at precedes
    apply quiet.behind
    apply queueing.behind first second precedes
    have fewer := quiet.queued first
    have popped := quiet.held first
    rw [weigh_add] at live
    rw [weigh_cons]
    omega
  · rw [log, ordered_append silenced]
    exact queueing.ordered

theorem Precedes.returned {first second : Nat} {log : List QueueObs}
    (precedes : Precedes first second log) : .returned first true ∈ log := by
  induction log with
  | nil => cases precedes
  | cons obs log ih =>
      cases obs with
      | started ticket =>
          rcases precedes with ⟨-, returned⟩ | older
          · exact List.mem_cons_of_mem _ returned
          · exact List.mem_cons_of_mem _ (ih older)
      | accepted | returned | cleared => exact List.mem_cons_of_mem _ (ih precedes)

theorem held_le_inFlight (ticket : Nat) (bag : Multiset QueueAct) :
    weigh (held ticket) bag ≤ weigh inFlight bag := by
  induction bag using Multiset.induction with
  | empty => exact Nat.le_refl _
  | cons act bag ih =>
      have part : held ticket act ≤ inFlight act := by
        cases act <;> simp only [held, inFlight] <;> (try split) <;> omega
      rw [weigh_cons, weigh_cons]
      exact Nat.add_le_add part ih

theorem passed_le_sending (ticket : Nat) (act : QueueAct) :
    passed ticket act ≤ sending ticket act := by
  cases act with
  | answered path parked outcome => cases outcome <;> simp
  | _ => simp

theorem mem_tickets {manager : Manager} {ticket : Nat} :
    ticket ∈ manager.pending.map Parked.ticket ↔ 0 < queued manager ticket :=
  List.count_pos_iff.symm

theorem Queueing.congr {bag : Multiset QueueAct} (queueing : Queueing manager bag)
    (pending : after.pending = manager.pending) (log : after.log = manager.log)
    (tickets : after.tickets = manager.tickets)
    (flight : after.drainInFlight = manager.drainInFlight) : Queueing after bag := by
  obtain ⟨⟨copied, settled, answered⟩, flying, behind, ordered⟩ := queueing
  constructor
  · constructor
    · simpa only [copies, queued, pending, log, tickets] using copied
    · simpa only [log, tickets] using settled
    · simpa only [log] using answered
  · rw [flight]
    exact flying
  · intro first second precedes live
    rw [log] at precedes
    rw [queued, pending] at live
    obtain ⟨none_passed, none_held, none_accepted, sublist⟩ := behind first second precedes live
    exact ⟨none_passed, none_held, by rwa [log], by rwa [pending]⟩
  · rw [log]
    exact ordered

theorem Queueing.reported {bag : Multiset QueueAct} (queueing : Queueing manager bag)
    {ticket : Nat} (known : ticket < manager.tickets) (gone : weigh (sending ticket) bag = 0) :
    Queueing (manager.note (.returned ticket true)) bag := by
  obtain ⟨⟨copied, settled, answered⟩, flying, behind, ordered⟩ := queueing
  constructor
  · constructor
    · intro other
      have copied := copied other
      simpa [copies, queued] using copied
    · intro other returned
      rw [Manager.note_log, List.mem_cons] at returned
      rcases returned with same | older
      · cases same
        exact ⟨known, gone⟩
      · exact settled other older
    · intro path parked pending
      exact List.mem_cons_of_mem _ (answered path parked pending)
  · exact flying
  · intro first second precedes live
    obtain ⟨none_passed, none_held, none_accepted, sublist⟩ := behind first second precedes live
    exact ⟨none_passed, none_held, by simpa using none_accepted, sublist⟩
  · exact ordered

theorem parked_queueing {parked : Parked} (queueing : Queueing manager (act ::ₘ others))
    (mine : sending parked.ticket act = 1)
    (only : ∀ ticket, sending ticket act ≤ if parked.ticket = ticket then 1 else 0)
    (grounded : inFlight act = 0) :
    Queueing { manager with pending := manager.pending ++ [parked] } others := by
  obtain ⟨⟨copied, settled, answered⟩, flying, behind, ordered⟩ := queueing
  have queued_snoc : ∀ ticket, queued { manager with pending := manager.pending ++ [parked] } ticket =
      queued manager ticket + if parked.ticket = ticket then 1 else 0 := by
    intro ticket
    simp [queued, List.count_append, List.count_singleton]
  constructor
  · constructor
    · intro ticket
      have copied := copied ticket
      have only := only ticket
      rw [copies, queued_snoc]
      simp only [copies, weigh_cons] at copied
      by_cases same : parked.ticket = ticket
      · subst same
        rw [if_pos rfl]
        dsimp only
        omega
      · rw [if_neg same]
        dsimp only
        omega
    · intro ticket returned
      obtain ⟨known, gone⟩ := settled ticket returned
      rw [weigh_cons] at gone
      exact ⟨known, by omega⟩
    · intro path other pending
      exact answered path other (Multiset.mem_cons_of_mem pending)
  · rw [weigh_cons, grounded, Nat.zero_add] at flying
    exact flying
  · intro first second precedes live
    have not_mine : parked.ticket ≠ first := by
      rintro rfl
      have gone := (settled _ precedes.returned).2
      rw [weigh_cons, mine] at gone
      omega
    rw [queued_snoc, if_neg not_mine, Nat.add_zero] at live
    obtain ⟨none_passed, none_held, none_accepted, sublist⟩ := behind first second precedes (by
      rw [weigh_cons]
      omega)
    rw [weigh_cons] at none_passed none_held
    refine ⟨by omega, by omega, none_accepted, ?_⟩
    intro first_queued second_queued
    simp only [List.map_append, List.map_cons, List.map_nil, List.mem_append,
      List.mem_singleton] at first_queued second_queued ⊢
    have ahead : first ∈ manager.pending.map Parked.ticket :=
      first_queued.resolve_right fun same => not_mine same.symm
    rcases second_queued with older | same
    · exact (sublist ahead older).trans (List.sublist_append_left _ _)
    · rw [same]
      exact (List.singleton_sublist.mpr ahead).append (List.Sublist.refl _)
  · exact ordered

theorem armed_fields (manager : Manager) :
    manager.armPendingDrainTimerLocked.pending = manager.pending ∧
      manager.armPendingDrainTimerLocked.log = manager.log ∧
      manager.armPendingDrainTimerLocked.tickets = manager.tickets ∧
      manager.armPendingDrainTimerLocked.drainInFlight = manager.drainInFlight := by
  unfold Manager.armPendingDrainTimerLocked
  split <;> exact ⟨rfl, rfl, rfl, rfl⟩

theorem Queueing.armed {bag : Multiset QueueAct} (queueing : Queueing manager bag) :
    Queueing manager.armPendingDrainTimerLocked bag := by
  obtain ⟨pending, log, tickets, flight⟩ := armed_fields manager
  exact queueing.congr pending log tickets flight

theorem Single.known {ticket : Nat} (single : Single manager (act ::ₘ others))
    (mine : sending ticket act = 1) :
    ticket < manager.tickets ∧ weigh (sending ticket) others = 0 ∧
      queued manager ticket = 0 ∧ manager.log.count (.accepted ticket) = 0 := by
  have copied := single.copied ticket
  simp only [copies, weigh_cons, mine] at copied
  split at copied <;> omega

theorem refused_quiet {ticket : Nat} : Quiet manager (manager.note (.returned ticket false)) act [] where
  tickets := rfl
  pending := .inl rfl
  sending := by simp
  passed := by simp
  held := by simp
  answers := by simp
  log := ⟨[.returned ticket false], rfl, by simp [silent]⟩

theorem refused_queueing {ticket : Nat} (queueing : Queueing manager (act ::ₘ others))
    (grounded : inFlight act = 0) :
    Queueing (manager.note (.returned ticket false)) (↑([] : List QueueAct) + others) := by
  apply refused_quiet.queueing queueing
  have flight := queueing.flight
  rw [weigh_cons, grounded] at flight
  simpa using flight

theorem parkLocked_queueing {parked : Parked} (queueing : Queueing manager (act ::ₘ others))
    (mine : sending parked.ticket act = 1)
    (only : ∀ ticket, sending ticket act ≤ if parked.ticket = ticket then 1 else 0)
    (grounded : inFlight act = 0) :
    Queueing (manager.parkLocked parked) (↑([] : List QueueAct) + others) := by
  unfold Manager.parkLocked
  split
  · exact refused_queueing queueing grounded
  · obtain ⟨known, gone, -⟩ := queueing.single.known mine
    rw [Multiset.coe_nil, zero_add]
    apply (parked_queueing queueing mine only grounded).armed.reported
    · rw [(armed_fields _).2.2.1]
      exact known
    · exact gone

theorem passed_queueing {parked : Parked} {path next : SendPath}
    (queueing : Queueing manager (.barrier path parked ::ₘ others))
    (idle : manager.outboundQueueBusy = false)
    (fresh : new = [.recheck next parked] ∨ new = [.offer next parked]) :
    Queueing manager (↑new + others) := by
  obtain ⟨⟨copied, settled, answered⟩, flying, behind, ordered⟩ := queueing
  simp only [Manager.outboundQueueBusy, Bool.or_eq_false_iff, Bool.not_eq_false',
    List.isEmpty_iff] at idle
  have none_flying : weigh inFlight others = 0 := by simpa [idle.2] using flying
  have same : ∀ ticket, weigh (sending ticket) ↑new = sending ticket (.barrier path parked) ∧
      weigh (held ticket) ↑new = 0 ∧ weigh inFlight ↑new = 0 := by
    intro ticket
    rcases fresh with rfl | rfl <;> simp
  constructor
  · constructor
    · intro ticket
      have copied := copied ticket
      simp only [copies, weigh_cons, weigh_add, (same ticket).1, (same ticket).2.1, held] at copied ⊢
      omega
    · intro ticket returned
      rw [weigh_add, (same ticket).1]
      simpa using settled ticket returned
    · intro path' parked' pending
      apply answered path' parked'
      rcases fresh with rfl | rfl <;> simp_all
  · rw [weigh_add, (same 0).2.2, none_flying, idle.2]
    rfl
  · intro first second precedes live
    -- Nothing is parked or popped that this frame could overtake.
    have grounded := held_le_inFlight first others
    simp only [weigh_add, (same first).2.1, queued, idle.1, List.map_nil, List.count_nil] at live
    omega
  · exact ordered

theorem barrierLocked_queueing {parked : Parked} {path : SendPath}
    (queueing : Queueing manager (.barrier path parked ::ₘ others)) :
    Queueing (barrierLocked manager path parked).1
      (↑(barrierLocked manager path parked).2 + others) := by
  unfold barrierLocked
  cases path with
  | span =>
      dsimp only
      split
      · exact refused_queueing queueing rfl
      next idle => exact passed_queueing queueing (by simpa using idle) (.inr rfl)
  | frame =>
      dsimp only
      split
      · exact refused_queueing queueing rfl
      · split
        · exact parkLocked_queueing queueing (by simp) (by simp) rfl
        next idle => exact passed_queueing queueing (by simpa using idle) (.inl rfl)
  | typed =>
      dsimp only
      split
      · exact refused_queueing queueing rfl
      next idle =>
        simp only [Bool.or_eq_true, not_or, Bool.not_eq_true] at idle
        exact passed_queueing queueing idle.2 (.inl rfl)

theorem answeredLocked_queueing {parked : Parked} {path : SendPath} {outcome : SendOutcome}
    (queueing : Queueing manager (.answered path parked outcome ::ₘ others)) :
    Queueing (answeredLocked manager path parked outcome) (↑([] : List QueueAct) + others) := by
  unfold answeredLocked
  split
  · -- The frame is accepted already, so nobody else has it.
    have accepted := queueing.single.answered path parked (Multiset.mem_cons_self _ _)
    have copied := queueing.single.copied parked.ticket
    have counted : 0 < manager.log.count (.accepted parked.ticket) := List.count_pos_iff.mpr accepted
    simp only [copies, weigh_cons] at copied
    have dropped : Quiet manager manager (.answered path parked .sent) [] :=
      ⟨rfl, .inl rfl, by simp, by simp, by simp, by simp, ⟨[], rfl, by simp⟩⟩
    have flight := queueing.flight
    apply (dropped.queueing queueing (by simpa using flight)).reported
    · split at copied <;> omega
    · rw [Multiset.coe_nil, zero_add]
      split at copied <;> omega
  · split
    · exact refused_queueing queueing rfl
    · exact parkLocked_queueing queueing (by simp) (by simp) rfl
  · exact refused_queueing queueing rfl

theorem started_queueing (queueing : Queueing manager (act ::ₘ others))
    (idle : ∀ ticket, sending ticket act = 0 ∧ held ticket act = 0 ∧ inFlight act = 0)
    (mine : ∀ ticket, weigh (sending ticket) ↑new ≤ if ticket = manager.tickets then 1 else 0)
    (rest : ∀ ticket, weigh (passed ticket) ↑new = 0 ∧ weigh (held ticket) ↑new = 0 ∧
      weigh inFlight ↑new = 0)
    (answers : ∀ path parked, .answered path parked .sent ∉ new) :
    Queueing ({ manager with tickets := manager.tickets + 1 }.note (.started manager.tickets))
      (↑new + others) := by
  obtain ⟨⟨copied, settled, answered⟩, flying, behind, ordered⟩ := queueing
  have unknown : copies manager (act ::ₘ others) manager.tickets = 0 := by
    have copied := copied manager.tickets
    rw [if_neg (Nat.lt_irrefl _)] at copied
    omega
  constructor
  · constructor
    · intro ticket
      have copied := copied ticket
      have mine := mine ticket
      simp only [copies, queued, Manager.note_pending, Manager.note_log, Manager.note_tickets,
        weigh_cons, weigh_add, List.count_cons, reduceCtorEq, beq_iff_eq, if_false,
        (idle ticket).1, (idle ticket).2.1, (rest ticket).2.1] at copied unknown ⊢
      by_cases same : ticket = manager.tickets
      · subst same
        rw [if_pos (Nat.lt_succ_self _)]
        rw [if_pos rfl] at mine
        omega
      · rw [if_neg same] at mine
        split at copied <;> split <;> omega
    · intro ticket returned
      have older : .returned ticket true ∈ manager.log := by simpa using returned
      obtain ⟨known, gone⟩ := settled ticket older
      have mine := mine ticket
      rw [if_neg (Nat.ne_of_lt known)] at mine
      rw [weigh_cons] at gone
      rw [weigh_add]
      exact ⟨Nat.lt_succ_of_lt known, by omega⟩
    · intro path parked pending
      rw [Multiset.mem_add, Multiset.mem_coe] at pending
      rcases pending with fresh | kept
      · exact absurd fresh (answers path parked)
      · exact List.mem_cons_of_mem _ (answered path parked (Multiset.mem_cons_of_mem kept))
  · rw [weigh_cons, (idle 0).2.2, Nat.zero_add] at flying
    rw [weigh_add, (rest 0).2.2, Nat.zero_add]
    exact flying
  · intro first second precedes live
    have live : 0 < weigh (held first) (act ::ₘ others) + queued manager first := by
      rw [weigh_add, (rest first).2.1] at live
      rw [weigh_cons, (idle first).2.1]
      exact live
    rcases precedes with ⟨same, -⟩ | older
    · -- The frame that has just been started is nowhere yet.
      subst same
      simp only [copies, weigh_cons] at unknown
      have none_accepted : .accepted manager.tickets ∉ manager.log :=
        List.count_eq_zero.mp (by omega)
      have none_queued : manager.tickets ∉ manager.pending.map Parked.ticket := by
        rw [mem_tickets]
        omega
      have fewer : ∀ bag : Multiset QueueAct,
          weigh (passed manager.tickets) bag ≤ weigh (sending manager.tickets) bag := by
        intro bag
        induction bag using Multiset.induction with
        | empty => exact Nat.le_refl _
        | cons act bag ih =>
            rw [weigh_cons, weigh_cons]
            exact Nat.add_le_add (passed_le_sending _ act) ih
      have fewer := fewer others
      constructor
      · rw [weigh_add, (rest _).1]
        omega
      · rw [weigh_add, (rest _).2.1]
        omega
      · simpa using none_accepted
      · intro _ second_queued
        exact absurd second_queued none_queued
    · obtain ⟨none_passed, none_held, none_accepted, sublist⟩ := behind first second older live
      rw [weigh_cons] at none_passed none_held
      constructor
      · rw [weigh_add, (rest _).1]
        omega
      · rw [weigh_add, (rest _).2.1]
        omega
      · simpa using none_accepted
      · exact sublist
  · exact ordered

theorem accepted_queueing {ticket : Nat} (queueing : Queueing manager (act ::ₘ others))
    (mine : (sending ticket act = 1 ∧ passed ticket act = 1 ∧ held ticket act = 0) ∨
      (sending ticket act = 0 ∧ held ticket act = 1))
    (rest : ∀ other, weigh (sending other) ↑new = 0 ∧ weigh (passed other) ↑new = 0 ∧
      weigh (held other) ↑new = 0)
    (only : ∀ path parked, .answered path parked .sent ∈ new → parked.ticket = ticket)
    (flight : weigh inFlight ↑new = inFlight act) :
    Queueing (manager.note (.accepted ticket)) (↑new + others) := by
  obtain ⟨⟨copied, settled, answered⟩, flying, behind, ordered⟩ := queueing
  -- Whatever has to wait for this frame has not been accepted.
  have first_here : ∀ second, Precedes ticket second manager.log →
      .accepted second ∉ manager.log := by
    intro second precedes
    rcases mine with ⟨sent, -⟩ | ⟨-, popped⟩
    · have gone := (settled ticket precedes.returned).2
      rw [weigh_cons, sent] at gone
      omega
    · exact (behind ticket second precedes (by rw [weigh_cons, popped]; omega)).accepted
  constructor
  · constructor
    · intro other
      have copied := copied other
      simp only [copies, queued, Manager.note_pending, Manager.note_log, Manager.note_tickets,
        weigh_cons, weigh_add, List.count_cons, (rest other).1, (rest other).2.2] at copied ⊢
      by_cases same : ticket = other
      · subst same
        rw [if_pos (by simp)]
        omega
      · rw [if_neg (by simpa using same)]
        omega
    · intro other returned
      have older : .returned other true ∈ manager.log := by simpa using returned
      obtain ⟨known, gone⟩ := settled other older
      rw [weigh_cons] at gone
      rw [weigh_add, (rest other).1]
      exact ⟨known, by omega⟩
    · intro path parked pending
      rw [Multiset.mem_add, Multiset.mem_coe] at pending
      rcases pending with fresh | kept
      · rw [only path parked fresh]
        exact List.mem_cons_self
      · exact List.mem_cons_of_mem _ (answered path parked (Multiset.mem_cons_of_mem kept))
  · rw [weigh_cons] at flying
    rw [weigh_add, flight]
    exact flying
  · intro first second precedes live
    rw [weigh_add, (rest first).2.2] at live
    obtain ⟨none_passed, none_held, none_accepted, sublist⟩ := behind first second precedes (by
      rw [weigh_cons]
      exact lt_of_lt_of_le live (by simp [queued]))
    have not_mine : ticket ≠ second := by
      rintro rfl
      rw [weigh_cons] at none_passed none_held
      omega
    rw [weigh_cons] at none_passed none_held
    constructor
    · rw [weigh_add, (rest second).2.1]
      omega
    · rw [weigh_add, (rest second).2.2]
      omega
    · simpa [not_mine.symm] using none_accepted
    · exact sublist
  · exact ⟨first_here, ordered⟩

theorem popped_queueing {armedEpoch : Nat} {parked : Parked} {rest : List Parked}
    (queueing : Queueing manager (.drainPop armedEpoch ::ₘ others))
    (pending : manager.pending = parked :: rest) (alone : weigh inFlight others = 0) :
    Queueing { manager with pending := rest, drainInFlight := true }
      (↑[QueueAct.drainRecheck armedEpoch parked] + others) := by
  obtain ⟨⟨copied, settled, answered⟩, flying, behind, ordered⟩ := queueing
  have queued_cons : ∀ ticket, queued manager ticket =
      (rest.map Parked.ticket).count ticket + if parked.ticket = ticket then 1 else 0 := by
    intro ticket
    simp [queued, pending, List.count_cons]
  constructor
  · constructor
    · intro ticket
      have copied := copied ticket
      simp only [copies, queued_cons, weigh_cons, sending, held] at copied
      simp only [copies, queued, Multiset.coe_singleton, weigh_add, weigh_singleton, sending, held]
      omega
    · intro ticket returned
      simpa using settled ticket returned
    · intro path other member
      apply answered path other
      simpa using member
  · simp [alone]
  · intro first second precedes live
    have none_held : ∀ ticket, weigh (held ticket) others = 0 := by
      intro ticket
      have fewer := held_le_inFlight ticket others
      omega
    have live_before : 0 < weigh (held first) (.drainPop armedEpoch ::ₘ others) +
        queued manager first := by
      simp only [Multiset.coe_singleton, weigh_add, weigh_singleton, held, none_held, queued] at live
      rw [queued_cons]
      omega
    obtain ⟨none_passed, -, none_accepted, sublist⟩ := behind first second precedes live_before
    have first_queued : first ∈ manager.pending.map Parked.ticket := by
      rw [mem_tickets]
      simpa [none_held] using live_before
    -- The head waits for nothing in the queue, as every frame is in it once.
    have second_later : second ≠ parked.ticket := by
      rintro rfl
      have twice := sublist first_queued (by simp [pending])
      have copied := copied parked.ticket
      have counted := twice.count_le parked.ticket
      have mine : 0 < queued manager first := mem_tickets.mp first_queued
      rw [copies] at copied
      by_cases same : first = parked.ticket
      · subst same
        simp only [List.count_cons_self, List.count_nil] at counted
        change _ ≤ queued manager parked.ticket at counted
        split at copied <;> omega
      · rw [pending, List.map_cons] at twice
        cases twice with
        | cons _ shorter =>
            have later := shorter.subset (List.mem_cons_of_mem _ List.mem_cons_self)
            have again : 0 < (rest.map Parked.ticket).count parked.ticket :=
              List.count_pos_iff.mpr later
            rw [queued_cons, if_pos rfl] at copied
            split at copied <;> omega
        | cons_cons => exact same rfl
    constructor
    · simpa using none_passed
    · simp [none_held, second_later.symm]
    · exact none_accepted
    · intro first_rest second_rest
      have both := sublist first_queued (by simp [pending, second_rest])
      have first_later : first ≠ parked.ticket := by
        rintro rfl
        have copied := copied parked.ticket
        have again : 0 < (rest.map Parked.ticket).count parked.ticket :=
          List.count_pos_iff.mpr first_rest
        rw [copies, queued_cons, if_pos rfl] at copied
        split at copied <;> omega
      rw [pending, List.map_cons] at both
      cases both with
      | cons _ shorter => exact shorter
      | cons_cons => exact absurd rfl first_later
  · exact ordered

theorem requeued_queueing {armedEpoch : Nat} {parked : Parked}
    (queueing : Queueing manager (.drainRequeue armedEpoch parked ::ₘ others)) :
    Queueing { manager with pending := parked :: manager.pending, drainArmed := false }
      (↑[QueueAct.drainRelease] + others) := by
  obtain ⟨⟨copied, settled, answered⟩, flying, behind, ordered⟩ := queueing
  have queued_cons : ∀ ticket,
      queued { manager with pending := parked :: manager.pending, drainArmed := false } ticket =
        queued manager ticket + if parked.ticket = ticket then 1 else 0 := by
    intro ticket
    simp [queued, List.count_cons]
  constructor
  · constructor
    · intro ticket
      have copied := copied ticket
      simp only [copies, weigh_cons, sending, held] at copied
      simp only [copies, queued_cons, Multiset.coe_singleton, weigh_add, weigh_singleton, sending,
        held]
      omega
    · intro ticket returned
      simpa using settled ticket returned
    · intro path other member
      apply answered path other
      simpa using member
  · simpa using flying
  · intro first second precedes live
    rw [queued_cons] at live
    obtain ⟨none_passed, none_held, none_accepted, sublist⟩ := behind first second precedes (by
      simp only [Multiset.coe_singleton, weigh_add, weigh_singleton, weigh_cons, held] at live ⊢
      omega)
    have not_mine : parked.ticket ≠ second := by
      rintro rfl
      simp at none_held
    constructor
    · simpa using none_passed
    · simpa [not_mine] using none_held
    · exact none_accepted
    · intro first_queued second_queued
      simp only [List.map_cons, List.mem_cons] at first_queued second_queued ⊢
      have second_later := second_queued.resolve_left fun same => not_mine same.symm
      rcases first_queued with same | older
      · rw [same]
        exact (List.singleton_sublist.mpr second_later).cons_cons _
      · exact (sublist older second_later).cons _
  · exact ordered

theorem drainPopLocked_queueing {armedEpoch : Nat}
    (queueing : Queueing manager (.drainPop armedEpoch ::ₘ others))
    (alone : armedEpoch = manager.drainEpoch → manager.muted = false → manager.pending ≠ [] →
      weigh inFlight others = 0) :
    Queueing (drainPopLocked manager armedEpoch).1
      (↑(drainPopLocked manager armedEpoch).2 + others) := by
  have flight := queueing.flight
  simp only [weigh_cons, inFlight, Nat.zero_add] at flight
  have stops : ∀ after : Manager, after.tickets = manager.tickets → after.log = manager.log →
      after.drainInFlight = manager.drainInFlight →
      after.pending = manager.pending ∨ after.pending = [] →
      Queueing after (↑([] : List QueueAct) + others) := by
    intro after tickets log same pending
    have quiet : Quiet manager after (.drainPop armedEpoch) [] :=
      ⟨tickets, pending, by simp, by simp, by simp, by simp, ⟨[], log, by simp⟩⟩
    apply quiet.queueing queueing
    simpa [same] using flight
  unfold drainPopLocked
  split
  · exact stops _ rfl rfl rfl (.inl rfl)
  next current =>
    split
    · exact stops _ rfl rfl rfl (.inr rfl)
    next loud =>
      split
      · exact stops _ rfl rfl rfl (.inl rfl)
      next parked rest pending =>
        apply popped_queueing queueing pending
        exact alone (by simpa using current) (by simpa using loud) (by simp [pending])

theorem drainRequeueLocked_queueing {armedEpoch : Nat} {parked : Parked}
    (queueing : Queueing manager (.drainRequeue armedEpoch parked ::ₘ others)) :
    Queueing (drainRequeueLocked manager armedEpoch parked)
      (↑[QueueAct.drainRelease] + others) := by
  unfold drainRequeueLocked
  split
  · have quiet : Quiet manager { manager with drainArmed := false }
        (.drainRequeue armedEpoch parked) [.drainRelease] :=
      ⟨rfl, .inl rfl, by simp, by simp, by simp, by simp,
        ⟨[], rfl, by simp⟩⟩
    apply quiet.queueing queueing
    simpa using queueing.flight
  · exact (requeued_queueing queueing).armed

theorem begin_queueing {path : SendPath} {wire : List UInt8} {outcome : SendOutcome}
    (queueing : Queueing manager (.begin path wire ::ₘ others)) :
    Queueing (execQueue outcome manager (.begin path wire)).1
      (↑(execQueue outcome manager (.begin path wire)).2 + others) := by
  have begun : ∀ act, (∀ ticket, sending ticket act ≤ if ticket = manager.tickets then 1 else 0) →
      (∀ ticket, passed ticket act = 0 ∧ held ticket act = 0 ∧ inFlight act = 0) →
      (∀ path parked, act ≠ .answered path parked .sent) →
      Queueing ({ manager with tickets := manager.tickets + 1 }.note (.started manager.tickets))
        (↑[act] + others) := by
    intro act mine rest other
    apply started_queueing queueing
    · simp
    · simpa using mine
    · simpa using rest
    · simpa using fun path parked same => other path parked same.symm
  have held_back : Queueing
      ({ manager with tickets := manager.tickets + 1 }.note (.started manager.tickets))
      (.snapshot path ⟨manager.tickets, wire⟩ ::ₘ others) := by
    have begun := begun (.snapshot path ⟨manager.tickets, wire⟩) (by simp [eq_comm])
      (by simp) (by simp)
    simpa using begun
  cases path with
  | span =>
      apply begun
      · simp [eq_comm]
      · simp
      · simp
  | frame | typed =>
      simp only [execQueue]
      split
      · exact refused_queueing held_back rfl
      · simpa using held_back

theorem still_queueing (queueing : Queueing manager (act ::ₘ others))
    (quiet : Quiet manager after act new) (flight : after.drainInFlight = manager.drainInFlight)
    (flying : weigh inFlight ↑new = inFlight act) : Queueing after (↑new + others) := by
  apply quiet.queueing queueing
  rw [weigh_add, flying, flight, ← weigh_cons]
  exact queueing.flight

theorem released_queueing (queueing : Queueing manager (.drainRelease ::ₘ others)) :
    Queueing { manager with drainInFlight := false } (↑([] : List QueueAct) + others) := by
  have flight := queueing.flight
  have quiet : Quiet manager { manager with drainInFlight := false } .drainRelease [] :=
    ⟨rfl, .inl rfl, by simp, by simp, by simp, by simp, ⟨[], rfl, by simp⟩⟩
  apply quiet.queueing queueing
  rw [weigh_cons, inFlight] at flight
  split at flight
  · simpa using flight
  · omega

theorem exec_queueing (outcome : SendOutcome) (act : QueueAct)
    (queueing : Queueing manager (act ::ₘ others))
    (allowed : oneDrainInFlight manager others (.act outcome act)) :
    Queueing (execQueue outcome manager act).1 (↑(execQueue outcome manager act).2 + others) := by
  cases act with
  | begin path wire => exact begin_queueing queueing
  | barrier path parked => exact barrierLocked_queueing queueing
  | answered path parked outcome => exact answeredLocked_queueing queueing
  | drainPop armedEpoch => exact drainPopLocked_queueing queueing allowed
  | drainRequeue armedEpoch parked => exact drainRequeueLocked_queueing queueing
  | drainRelease => exact released_queueing queueing
  | queue parked =>
      simp only [execQueue]
      split
      · exact refused_queueing queueing rfl
      · exact parkLocked_queueing queueing (by simp) (by simp) rfl
  | beginQueue wire =>
      apply started_queueing queueing
      · simp
      · simp [execQueue, eq_comm]
      · simp [execQueue]
      · simp [execQueue]
  | snapshot path parked | recheck path parked =>
      simp only [execQueue]
      split
      · exact refused_queueing queueing rfl
      · apply still_queueing queueing _ rfl
        · simp
        · constructor <;> simp
  | offer path parked =>
      cases outcome with
      | sent =>
          apply accepted_queueing queueing <;>
            simp [execQueue]
      | sendqFull | permanentFail =>
          apply still_queueing queueing _ rfl
          · simp [execQueue]
          · constructor <;> simp [execQueue]
  | drainOffer armedEpoch parked =>
      cases outcome with
      | sent =>
          apply accepted_queueing queueing
          · simp
          · simp [execQueue, ← Multiset.cons_coe]
          · simp [execQueue]
          · simp [execQueue, ← Multiset.cons_coe]
      | sendqFull | permanentFail =>
          apply still_queueing queueing _ rfl
          · simp [execQueue, ← Multiset.cons_coe]
          · constructor <;> simp [execQueue, ← Multiset.cons_coe]
  | timerExpires =>
      simp only [execQueue]
      split <;> apply still_queueing queueing
      · constructor <;> simp
      · rfl
      · simp
      · constructor <;> simp
      · rfl
      · simp
  | drain armedEpoch | drainRecheck armedEpoch parked =>
      simp only [execQueue]
      repeat' split
      all_goals apply still_queueing queueing _ rfl
      all_goals first
        | simp
        | constructor <;> simp
  | clear =>
      have quiet : Quiet manager (execQueue outcome manager .clear).1 .clear [.cancelTimer] :=
        ⟨rfl, .inr rfl, by simp, by simp, by simp, by simp,
          ⟨[.cleared], rfl, by simp [silent]⟩⟩
      exact still_queueing queueing quiet rfl (by simp [execQueue])
  | _ =>
      apply still_queueing queueing
      · constructor <;> simp [execQueue, ← Multiset.cons_coe]
      · rfl
      · simp [execQueue, ← Multiset.cons_coe]

theorem called_queueing {bag : Multiset QueueAct} (queueing : Queueing manager bag) (op : QueueOp) :
    Queueing manager (↑(startQueue op) + bag) := by
  have idle : ∀ ticket, weigh (sending ticket) ↑(startQueue op) = 0 ∧
      weigh (passed ticket) ↑(startQueue op) = 0 ∧ weigh (held ticket) ↑(startQueue op) = 0 ∧
      weigh inFlight ↑(startQueue op) = 0 := by
    intro ticket
    cases op <;> simp [startQueue]
  obtain ⟨⟨copied, settled, answered⟩, flying, behind, ordered⟩ := queueing
  constructor
  · constructor
    · intro ticket
      obtain ⟨none_sending, -, none_held, -⟩ := idle ticket
      rw [copies, weigh_add, weigh_add, none_sending, none_held, Nat.zero_add, Nat.zero_add]
      exact copied ticket
    · intro ticket returned
      rw [weigh_add, (idle ticket).1, Nat.zero_add]
      exact settled ticket returned
    · intro path parked pending
      apply answered path parked
      rw [Multiset.mem_add] at pending
      exact pending.resolve_left (by cases op <;> simp [startQueue])
  · rw [weigh_add, (idle 0).2.2.2, Nat.zero_add]
    exact flying
  · intro first second precedes live
    rw [weigh_add, (idle first).2.2.1, Nat.zero_add] at live
    obtain ⟨none_passed, none_held, none_accepted, sublist⟩ := behind first second precedes live
    constructor
    · rw [weigh_add, (idle second).2.1, none_passed]
    · rw [weigh_add, (idle second).2.2.1, none_held]
    · exact none_accepted
    · exact sublist
  · exact ordered

end Steps

section Results
variable {config : Config Manager QueueAct}

theorem reach_queueing (reached : Reach queueProgram oneDrainInFlight FreshManager config) :
    Queueing config.shared config.bag := by
  apply Reach.bag_invariant Queueing _ _ _ reached
  · intro manager fresh
    subst fresh
    constructor
    · constructor <;> simp [copies, queued]
    · rfl
    · intro first second precedes
      cases precedes
    · trivial
  · intro manager bag op queueing _
    exact called_queueing queueing op
  · intro outcome manager act others queueing allowed
    exact exec_queueing outcome act queueing allowed

theorem ReturnedBefore.precedes {first second : Nat} {log : List QueueObs}
    (before : ReturnedBefore first second log) : Precedes first second log := by
  obtain ⟨newer, older, rfl, returned⟩ := before
  induction newer with
  | nil => exact .inl ⟨rfl, (List.takeWhile_subset _) returned⟩
  | cons obs newer ih =>
      cases obs with
      | started ticket => exact .inr ih
      | accepted | returned | cleared => exact ih

theorem Ordered.older {newer older : List QueueObs} (ordered : Ordered (newer ++ older)) :
    Ordered older := by
  induction newer with
  | nil => exact ordered
  | cons obs newer ih =>
      apply ih
      cases obs with
      | accepted ticket => exact ordered.2
      | started | returned | cleared => exact ordered

/-- In every run in which one drain at a time has a frame in flight, no frame
is accepted before one it has to wait for, and none is accepted twice. -/
theorem barrier_kept (reached : Reach queueProgram oneDrainInFlight FreshManager config) :
    BarrierKept config.shared := by
  have queueing := reach_queueing reached
  constructor
  · intro first second newer older split before
    have ordered := queueing.ordered
    rw [split] at ordered
    exact ordered.older.1 second before.precedes
  · intro first second before parked
    rw [mem_tickets] at parked
    exact (queueing.behind first second before.precedes (by omega)).accepted
  · intro ticket
    have copied := queueing.single.copied ticket
    rw [copies] at copied
    split at copied <;> omega

/-- A refused frame is drained while a second send waits behind it. -/
theorem barrier_kept_drained :
    ∃ config, Reach queueProgram oneDrainInFlight FreshManager config ∧
      ReturnedBefore 0 1 config.shared.log ∧ .accepted 0 ∈ config.shared.log ∧
      .accepted 1 ∈ config.shared.log ∧ BarrierKept config.shared := by
  let schedule : List (Event QueueOp SendOutcome) := List.flatten
    [[.call (.setSendHandler true), .run 0 .sent, .call (.send .frame [1])],
     List.replicate 6 (.run 1 .sendqFull), [.call (.send .frame [2])],
     List.replicate 3 (.run 2 .sent), [.call .timerExpires], List.replicate 11 (.run 3 .sent)]
  have run := Reach.exists_of_replay queueProgram oneDrainInFlight FreshManager {} schedule
    (fun config => decide (config.shared.log = [.accepted 1, .accepted 0, .returned 1 true,
      .started 1, .returned 0 true, .started 0])) rfl (by decide)
  obtain ⟨config, reached, met⟩ := run
  have log := of_decide_eq_true met
  refine ⟨config, reached, ?_, ?_, ?_, barrier_kept reached⟩
  · rw [log]
    exact ⟨[.accepted 1, .accepted 0, .returned 1 true], [.returned 0 true, .started 0], rfl,
      by decide⟩
  · rw [log]
    decide
  · rw [log]
    decide

/-- A drain of the cleared queue is still in the transport when frame 1 is parked
and popped by a second drain. The first one's release lowers the in-flight flag,
and frame 2 is sent past frame 1. -/
theorem barrier_broken_reachable :
    ∃ config, Reach queueProgram always FreshManager config ∧ ¬ BarrierKept config.shared := by
  let schedule : List (Event QueueOp SendOutcome) := List.flatten
    [[.call (.setSendHandler true), .run 0 .sent, .call (.send .frame [1])],
     List.replicate 6 (.run 1 .sendqFull), [.call .timerExpires], List.replicate 4 (.run 2 .sent),
     [.call .clearPendingOutbound, .run 3 .sent, .run 3 .sent, .call (.send .frame [2])],
     List.replicate 3 (.run 4 .sent), [.call .timerExpires], List.replicate 4 (.run 5 .sent),
     [.run 2 .sent, .run 2 .sent, .call (.send .frame [3])], List.replicate 6 (.run 6 .sent),
     [.run 5 .sent]]
  have run := Reach.exists_of_replay queueProgram always FreshManager {} schedule
    (fun config => decide (config.shared.log = [.accepted 1, .returned 2 true, .accepted 2,
      .started 2, .accepted 0, .returned 1 true, .started 1, .cleared, .returned 0 true,
      .started 0])) rfl (by decide)
  obtain ⟨config, reached, met⟩ := run
  refine ⟨config, reached, ?_⟩
  intro kept
  apply kept.ordered 1 2 [] _ (of_decide_eq_true met)
  · exact ⟨[.returned 2 true, .accepted 2], [.accepted 0, .returned 1 true, .started 1, .cleared,
      .returned 0 true, .started 0], rfl, by decide⟩
  · decide

end Results

end ToxTunnel.OutboundBarrier
