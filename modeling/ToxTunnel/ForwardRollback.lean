import ToxTunnel.ForwardReload

/-!
A reload next to others that hold endpoints: which added rules find theirs free. An old
listener that comes back for a refused rule holds its endpoint from then on, also against
the added rules whose turn is still to come.
-/

namespace ToxTunnel.ForwardRollback
open DaemonConfig ForwardReload
open ConfigReload (diffForwards same_symm)

section Marks

variable {rule added old : ForwardRule} {removed refused passed : List ForwardRule}
  {before after : List Bool}

/-- What the rollback compares: a removed rule comes back for one with the same. -/
def portAndTarget (rule : ForwardRule) : UInt16 × String × UInt16 :=
  (rule.localPort, rule.remoteHost, rule.remotePort)

/-- A removed rule is tried again once more rules of its port and target were refused than
removed ones stand before it. -/
def marksOf (refused : List ForwardRule) : List ForwardRule → List ForwardRule → List Bool
  | _, [] => []
  | passed, old :: rest =>
      decide ((passed.map portAndTarget).count (portAndTarget old) <
          (refused.map portAndTarget).count (portAndTarget old)) ::
        marksOf refused (passed ++ [old]) rest

def marked : List ForwardRule → List Bool → List ForwardRule
  | old :: rest, mark :: more => if mark then old :: marked rest more else marked rest more
  | _, _ => []

/-- The removed rules whose endpoints are given back once these rules were refused. -/
def givenBack (removed refused : List ForwardRule) : List ForwardRule :=
  marked removed (marksOf refused [] removed)

theorem rebinds_iff : rebinds old added = true ↔ portAndTarget old = portAndTarget added := by
  simp [rebinds, portAndTarget]

theorem count_refused (refused : List ForwardRule) (added : ForwardRule)
    (value : UInt16 × String × UInt16) :
    ((refused ++ [added]).map portAndTarget).count value =
      (refused.map portAndTarget).count value + if portAndTarget added = value then 1 else 0 := by
  simp [List.count_singleton]

theorem marksOf_none (passed removed : List ForwardRule) :
    marksOf [] passed removed = removed.map fun _ => false := by
  induction removed generalizing passed with
  | nil => rfl
  | cons old rest ih => simp [marksOf, ih]

/-- A refused rule whose counterparts are all spoken for marks none, and where one more
stands before the rest, it marks none of them. -/
theorem marksOf_spent
    (spent : (refused.map portAndTarget).count (portAndTarget added) <
      (passed.map portAndTarget).count (portAndTarget added)) :
    marksOf (refused ++ [added]) passed removed = marksOf refused passed removed := by
  induction removed generalizing passed with
  | nil => rfl
  | cons old rest ih =>
      have later : (refused.map portAndTarget).count (portAndTarget added) <
          ((passed ++ [old]).map portAndTarget).count (portAndTarget added) := by
        rw [count_refused]
        exact Nat.lt_add_right _ spent
      rw [marksOf, marksOf, ih later, count_refused]
      by_cases same : portAndTarget added = portAndTarget old
      · rw [same] at spent
        simp only [same, if_true]
        congr 2
        apply propext
        omega
      · simp [same]

theorem counterpart_marks
    (open' : (passed.map portAndTarget).count (portAndTarget added) ≤
      (refused.map portAndTarget).count (portAndTarget added)) :
    (counterpart added removed (marksOf refused passed removed) = none →
        marksOf (refused ++ [added]) passed removed = marksOf refused passed removed) ∧
      ∀ old after,
        counterpart added removed (marksOf refused passed removed) = some (old, after) →
          after = marksOf (refused ++ [added]) passed removed := by
  induction removed generalizing passed with
  | nil => simp [counterpart, marksOf]
  | cons first rest ih =>
      simp only [marksOf, counterpart, count_refused]
      by_cases same : portAndTarget added = portAndTarget first
      · have matched : rebinds first added = true := rebinds_iff.mpr same.symm
        rw [same] at open'
        by_cases due : (passed.map portAndTarget).count (portAndTarget first) <
            (refused.map portAndTarget).count (portAndTarget first)
        · have rest_open : ((passed ++ [first]).map portAndTarget).count (portAndTarget added) ≤
              (refused.map portAndTarget).count (portAndTarget added) := by
            rw [count_refused, if_pos same.symm, same]
            exact due
          have more : (passed.map portAndTarget).count (portAndTarget first) <
              (refused.map portAndTarget).count (portAndTarget first) + 1 :=
            Nat.lt_succ_of_lt due
          obtain ⟨kept, found⟩ := ih rest_open
          simp only [due, same, if_true, more, matched, decide_true, Bool.not_true,
            Bool.false_and, Bool.false_eq_true, if_false, Option.map_eq_none_iff,
            Option.map_eq_some_iff]
          constructor
          · intro none
            rw [kept none]
          · rintro old after ⟨⟨deeper, marks⟩, later, ⟨⟩⟩
            rw [found deeper marks later]
        · have met : (passed.map portAndTarget).count (portAndTarget first) <
              (refused.map portAndTarget).count (portAndTarget first) + 1 :=
            Nat.lt_succ_of_le open'
          have spent : (refused.map portAndTarget).count (portAndTarget added) <
              ((passed ++ [first]).map portAndTarget).count (portAndTarget added) := by
            rw [count_refused, if_pos same.symm, same]
            exact Nat.lt_succ_of_le (Nat.le_of_not_lt due)
          simp only [due, same, if_true, met, matched, decide_false, Bool.not_false,
            Bool.true_and, decide_true, marksOf_spent spent]
          constructor
          · intro none
            cases none
          · intro old after found
            cases found
            rfl
      · have unmatched : rebinds first added = false := by
          apply Bool.eq_false_of_not_eq_true
          intro matched
          exact same (rebinds_iff.mp matched).symm
        have rest_open : ((passed ++ [first]).map portAndTarget).count (portAndTarget added) ≤
            (refused.map portAndTarget).count (portAndTarget added) := by
          rw [count_refused, if_neg fun eq => same eq.symm]
          exact open'
        obtain ⟨kept, found⟩ := ih rest_open
        simp only [same, if_false, unmatched, Bool.and_false, Bool.false_eq_true, Nat.add_zero,
          Option.map_eq_none_iff, Option.map_eq_some_iff]
        constructor
        · intro none
          rw [kept none]
        · rintro old after ⟨⟨deeper, marks⟩, later, ⟨⟩⟩
          rw [found deeper marks later]

theorem counterpart_marked (found : counterpart added removed before = some (old, after))
    (rule : ForwardRule) :
    rule ∈ marked removed after ↔ rule ∈ marked removed before ∨ rule = old := by
  induction removed generalizing before after with
  | nil => cases found
  | cons first rest ih =>
      cases before with
      | nil => cases found
      | cons mark more =>
          rw [counterpart] at found
          by_cases taken : (!mark && rebinds first added) = true
          · rw [if_pos taken] at found
            cases found
            have unmarked : mark = false := by simpa using (Bool.and_eq_true_iff.mp taken).1
            simp [marked, unmarked, or_comm]
          · rw [if_neg taken] at found
            obtain ⟨⟨deeper, marks⟩, later, same⟩ := Option.map_eq_some_iff.mp found
            cases same
            have member := ih later
            by_cases set : mark = true
            · simp [marked, set, member, or_assoc]
            · simp [marked, set, member]

end Marks

section Endpoints

abbrev Endpoint := String × UInt16

def endpoint (rule : ForwardRule) : Endpoint := (rule.effectiveLocalAddress, rule.localPort)

/-- An endpoint can be bound exactly when nothing else holds it: nobody outside, and no
listener that is up. -/
def Exclusive (outside : Endpoint → Bool) (bind : Bind) : Prop :=
  ∀ attempt listening rule, bind attempt listening rule = none ↔
    outside (endpoint rule) = false ∧
      ∀ listener ∈ listening, endpoint listener.rule ≠ endpoint rule

/-- What an added rule finds held at its turn: what outsiders and kept rules hold, what the
rules before it asked for, and what was given back to removed rules. -/
def taken (held : Endpoint → Bool) (removed earlier refused : List ForwardRule)
    (place : Endpoint) : Bool :=
  held place || earlier.any (endpoint · = place) ||
    (givenBack removed refused).any (endpoint · = place)

/-- The added rules that find their endpoint held, after those before them. -/
def refusals (held : Endpoint → Bool) (removed : List ForwardRule) :
    List ForwardRule → List ForwardRule → List ForwardRule → List ForwardRule
  | _, refused, [] => refused
  | earlier, refused, rule :: rest =>
      refusals held removed (earlier ++ [rule])
        (if taken held removed earlier refused (endpoint rule) then refused ++ [rule]
          else refused) rest

/-- What outsiders hold, and what the rules that are kept hold. -/
def heldThroughout (outside : Endpoint → Bool) (client : Forwarding)
    (forwards : List ForwardRule) (place : Endpoint) : Bool :=
  outside place || (keptPairs client forwards).any (endpoint ·.2 = place)

theorem same_endpoint {rule other : ForwardRule} (same : rule.same other = true) :
    endpoint rule = endpoint other := by
  have parts := of_decide_eq_true same
  rw [endpoint, endpoint, parts.1, parts.2.2.2]

/-- What the state knows of the endpoints: those that are held now are the ones the inputs
name, and the marks are the ones that the refusals so far call for. -/
structure Accounted (outside held : Endpoint → Bool) (removed earlier refused : List ForwardRule)
    (state : Applying) : Prop where
  marks : state.restoreAttempted = marksOf refused [] removed
  holds : ∀ place, (outside place = true ∨
      ∃ listener ∈ state.listeners, endpoint listener.rule = place) ↔
    taken held removed earlier refused place = true

variable {outside held : Endpoint → Bool} {removed earlier refused : List ForwardRule}
  {state after : Applying} {bind : Bind} {rule : ForwardRule}

theorem taken_iff {place : Endpoint} :
    taken held removed earlier refused place = true ↔ held place = true ∨
      (∃ other ∈ earlier, endpoint other = place) ∨
      ∃ old ∈ givenBack removed refused, endpoint old = place := by
  simp [taken, or_assoc]

theorem Exclusive.outcome (exclusive : Exclusive outside bind) (attempt : Nat)
    (listening : List Listener) (rule : ForwardRule) :
    bind attempt listening rule ≠ none ↔ outside (endpoint rule) = true ∨
      ∃ listener ∈ listening, endpoint listener.rule = endpoint rule := by
  rw [ne_eq, exclusive attempt listening rule]
  by_cases out : outside (endpoint rule) = true
  · simp [out]
  · simp [out]

theorem Exclusive.after_try (exclusive : Exclusive outside bind) (attempt opened : Nat)
    (listening : List Listener) (rule : ForwardRule) (place : Endpoint) :
    (outside place = true ∨ ∃ listener ∈ listening ++
        ForwardReload.listen opened (boundBy [⟨rule, bind attempt listening rule⟩]),
        endpoint listener.rule = place) ↔
      (outside place = true ∨ ∃ listener ∈ listening, endpoint listener.rule = place) ∨
        endpoint rule = place := by
  cases outcome : bind attempt listening rule with
  | none => simp [boundBy, ForwardReload.listen, or_and_right, exists_or, or_assoc]
  | some error =>
      have failed : bind attempt listening rule ≠ none := by simp [outcome]
      have held := (exclusive.outcome attempt listening rule).mp failed
      simp only [boundBy, Option.isNone_some, Bool.false_eq_true, not_false_eq_true,
        List.filter_cons_of_neg, List.filter_nil, List.map_nil, ForwardReload.listen,
        List.append_nil]
      constructor
      · exact .inl
      · rintro (still | rfl)
        · exact still
        · exact held

theorem taken_append {place : Endpoint} :
    taken held removed (earlier ++ [rule]) refused place = true ↔
      taken held removed earlier refused place = true ∨ endpoint rule = place := by
  simp only [taken_iff, List.mem_append, List.mem_singleton, or_and_right, exists_or,
    exists_eq_left]
  grind

theorem taken_replaced {old : ForwardRule} {place : Endpoint}
    (found : counterpart rule removed (marksOf refused [] removed) =
      some (old, marksOf (refused ++ [rule]) [] removed)) :
    taken held removed earlier (refused ++ [rule]) place = true ↔
      taken held removed earlier refused place = true ∨ endpoint old = place := by
  simp only [taken_iff, givenBack, counterpart_marked found, or_and_right, exists_or,
    exists_eq_left]
  grind

/-- One added rule, whatever came of it, leaves the endpoints and the marks accounted for. -/
theorem Accounted.tried (accounted : Accounted outside held removed earlier refused state)
    (exclusive : Exclusive outside bind) :
    Accounted outside held removed (earlier ++ [rule])
      (if taken held removed earlier refused (endpoint rule) then refused ++ [rule] else refused)
      (addForward bind removed state rule) := by
  obtain ⟨fate, follows, marks⟩ := addForward_fate bind removed state rule
  have first : bind state.attempts state.listeners rule ≠ none ↔
      taken held removed earlier refused (endpoint rule) = true := by
    rw [exclusive.outcome, accounted.holds]
  rw [accounted.marks] at marks
  obtain ⟨spent, again⟩ := @counterpart_marks rule removed refused [] (Nat.zero_le _)
  cases fate with
  | bound =>
      have outcome : bind state.attempts state.listeners rule = none := by
        simpa [ForwardReload.listen, boundBy] using follows.outcomes 0 _ rfl
      have free : taken held removed earlier refused (endpoint rule) = false := by
        apply Bool.eq_false_of_not_eq_true
        intro met
        exact first.mpr met outcome
      rw [free, if_neg Bool.false_ne_true]
      constructor
      · exact marks
      · intro place
        have now := exclusive.after_try state.attempts state.opened state.listeners rule place
        rw [outcome] at now
        rw [follows.listeners, taken_append, ← accounted.holds]
        exact now
  | refused error =>
      have outcome : bind state.attempts state.listeners rule = some error := by
        simpa [ForwardReload.listen, boundBy] using follows.outcomes 0 _ rfl
      have met := first.mp (by simp [outcome])
      obtain ⟨nothing, marks⟩ := marks
      rw [met, if_pos rfl]
      constructor
      · rw [marks, spent nothing]
      · intro place
        have now := exclusive.after_try state.attempts state.opened state.listeners rule place
        rw [outcome] at now
        have returned : givenBack removed (refused ++ [rule]) = givenBack removed refused := by
          rw [givenBack, spent nothing, givenBack]
        rw [follows.listeners, taken, returned, ← taken, taken_append, ← accounted.holds]
        exact now
  | replaced error old result =>
      have outcome : bind state.attempts state.listeners rule = some error := by
        simpa [ForwardReload.listen, boundBy] using follows.outcomes 0 _ rfl
      have restored : bind (state.attempts + 1) state.listeners old = result := by
        simpa [ForwardReload.listen, boundBy, Fate.tries] using follows.outcomes 1 _ rfl
      have met := first.mp (by simp [outcome])
      have found := again old _ marks
      rw [met, if_pos rfl]
      constructor
      · exact found
      · intro place
        have now := exclusive.after_try (state.attempts + 1) state.opened state.listeners old place
        rw [restored] at now
        have listed : (addForward bind removed state rule).listeners = state.listeners ++
            ForwardReload.listen state.opened (boundBy [⟨old, result⟩]) := follows.listeners
        rw [listed, taken_append, taken_replaced (found ▸ marks), ← accounted.holds, now]
        have held := (accounted.holds (endpoint rule)).mpr met
        constructor
        · exact .inl
        · rintro (still | rfl)
          · exact still
          · exact .inl held

theorem Accounted.run (accounted : Accounted outside held removed earlier refused state)
    (exclusive : Exclusive outside bind) (added : List ForwardRule) :
    Accounted outside held removed (earlier ++ added)
      (refusals held removed earlier refused added)
      (added.foldl (addForward bind removed) state) := by
  induction added generalizing earlier refused state with
  | nil =>
      rw [List.append_nil]
      exact accounted
  | cons rule rest ih =>
      have one : Accounted outside held removed (earlier ++ [rule]) _
          (addForward bind removed state rule) := accounted.tried exclusive
      have later := ih one
      rwa [List.append_assoc] at later

end Endpoints

section Reloads

variable {outside : Endpoint → Bool} {bind : Bind} {next : Config} {client : Forwarding}
  {warnings : String} {earlier later : List ForwardRule} {rule : ForwardRule}

/-- Nobody but a removed rule can be at the endpoint of this added rule: no outsider, no kept
rule, and no other added rule asks for it. -/
structure Free (outside : Endpoint → Bool) (client : Forwarding)
    (forwards earlier later : List ForwardRule) (rule : ForwardRule) : Prop where
  unheld : heldThroughout outside client forwards (endpoint rule) = false
  alone : ∀ other ∈ earlier ++ later, endpoint other ≠ endpoint rule

/-- A listener for the rule is up. -/
def Live (client : Forwarding) (rule : ForwardRule) : Prop :=
  ∃ live ∈ client.forwardRules, live.same rule = true

theorem live_iff (paired : Paired client) :
    Live client rule ↔ ∃ listener ∈ client.listeners, listener.rule.same rule = true := by
  have pairs := paired.pairs
  unfold Live
  generalize client.listeners = listeners at pairs ⊢
  generalize client.forwardRules = rules at pairs ⊢
  induction pairs with
  | nil => simp
  | cons met _ ih =>
      simp only [List.mem_cons, or_and_right, exists_or, exists_eq_left, ih]
      apply or_congr_left
      constructor
      · exact same_trans met
      · exact same_trans (same_symm met)

theorem boundBy_tries {removed : List ForwardRule} {fate : Fate} {found : ForwardRule}
    (allowed : fate.Allowed removed rule) (member : found ∈ boundBy (fate.tries rule)) :
    fate = .bound ∧ found = rule ∨ found ∈ removed := by
  cases fate with
  | bound => exact .inl ⟨rfl, List.mem_singleton.mp member⟩
  | refused error => cases member
  | replaced error old outcome =>
      cases outcome with
      | none =>
          cases List.mem_singleton.mp member
          exact .inr allowed.1
      | some text => cases member

theorem boundBy_triesOf {removed added : List ForwardRule} {fates : List Fate}
    (allowed : List.Forall₂ (fun rule fate => fate.Allowed removed rule) added fates)
    {found : ForwardRule} (member : found ∈ boundBy (triesOf added fates)) :
    found ∈ added ∨ found ∈ removed := by
  induction allowed with
  | nil => cases member
  | @cons rule fate rest later fits _ ih =>
      rw [triesOf, boundBy_append] at member
      rcases List.mem_append.mp member with here | below
      · rcases boundBy_tries fits here with ⟨_, rfl⟩ | old
        · exact .inl List.mem_cons_self
        · exact .inr old
      · rcases ih below with member | member
        · exact .inl (List.mem_cons_of_mem rule member)
        · exact .inr member

theorem stopped_accounted (paired : Paired client) (forwards : List ForwardRule) :
    Accounted outside (heldThroughout outside client forwards)
      (diffForwards client.forwardRules forwards).removed [] []
      (stoppedState client forwards) := by
  constructor
  · exact (marksOf_none [] _).symm
  · intro place
    have met : ∀ pair ∈ keptPairs client forwards, endpoint pair.1.rule = endpoint pair.2 := by
      intro pair member
      apply same_endpoint
      exact (List.forall₂_iff_zip.mp paired.pairs).2 (List.mem_filter.mp member).1
    have returned : givenBack (diffForwards client.forwardRules forwards).removed [] = [] := by
      rw [givenBack, marksOf_none]
      generalize (diffForwards client.forwardRules forwards).removed = removed
      induction removed with
      | nil => rfl
      | cons rule rest ih => exact ih
    simp only [taken_iff, returned, heldThroughout, stoppedState, Bool.or_eq_true,
      List.any_eq_true, decide_eq_true_eq, List.mem_map, exists_exists_and_eq_and,
      List.not_mem_nil, false_and, exists_false, or_false]
    apply or_congr_right
    apply exists_congr
    intro pair
    apply and_congr_right
    intro member
    rw [met pair member]

theorem added_named {rules forwards : List ForwardRule} (member : rule ∈ (diffForwards rules forwards).added) :
    rule ∈ forwards :=
  (List.mem_filter.mp member).1

theorem removed_unnamed {rules forwards : List ForwardRule} {old : ForwardRule}
    (gone : old ∈ (diffForwards rules forwards).removed) (named : rule ∈ forwards) :
    old.same rule = false := by
  have unnamed := (List.mem_filter.mp gone).2
  apply Bool.eq_false_of_not_eq_true
  intro same
  have met : forwards.any (·.same old) = true :=
    List.any_eq_true.mpr ⟨rule, named, same_symm same⟩
  simp [met] at unnamed

/-- At its turn, the rule finds its endpoint held only by a removed rule that came back. -/
theorem taken_free {held : Endpoint → Bool} {removed refused : List ForwardRule}
    (unheld : held (endpoint rule) = false)
    (alone : ∀ other ∈ earlier, endpoint other ≠ endpoint rule) :
    taken held removed earlier refused (endpoint rule) = false ↔
      ∀ old ∈ givenBack removed refused, endpoint old ≠ endpoint rule := by
  have none : ¬∃ other ∈ earlier, endpoint other = endpoint rule := by
    rintro ⟨other, member, same⟩
    exact alone other member same
  rw [← Bool.not_eq_true, taken_iff]
  simp [unheld, none]

theorem fate_bound_iff {state after : Applying} {fate : Fate}
    (tried : Follows bind state (fate.tries rule) after) :
    fate = .bound ↔ bind state.attempts state.listeners rule = none := by
  cases fate with
  | bound => simpa [ForwardReload.listen, boundBy] using tried.outcomes 0 _ rfl
  | refused error =>
      have outcome : bind state.attempts state.listeners rule = some error := by
        simpa [ForwardReload.listen, boundBy] using tried.outcomes 0 _ rfl
      simp [outcome]
  | replaced error old result =>
      have outcome : bind state.attempts state.listeners rule = some error := by
        simpa [ForwardReload.listen, boundBy] using tried.outcomes 0 _ rfl
      simp [outcome]

/-- A listener for the rule can only be the one that the rule's own attempt opened. -/
theorem live_once {forwards : List ForwardRule} (paired : Paired client)
    (named : rule ∈ forwards) (free : Free outside client forwards earlier later rule)
    {before after : List Fate} {fate : Fate} {state tried final : Applying}
    (allowed : List.Forall₂
      (fun rule fate => fate.Allowed (diffForwards client.forwardRules forwards).removed rule)
      earlier before)
    (first : Follows bind (stoppedState client forwards) (triesOf earlier before) state)
    (fits : fate.Allowed (diffForwards client.forwardRules forwards).removed rule)
    (turn : Follows bind state (fate.tries rule) tried)
    (allowed' : List.Forall₂
      (fun rule fate => fate.Allowed (diffForwards client.forwardRules forwards).removed rule)
      later after)
    (last : Follows bind tried (triesOf later after) final) :
    (∃ listener ∈ final.listeners, listener.rule.same rule = true) ↔ fate = .bound := by
  have aside : ∀ other ∈ earlier ++ later, other.same rule = false := by
    intro other member
    apply Bool.eq_false_of_not_eq_true
    intro same
    exact free.alone other member (same_endpoint same)
  have gone : ∀ old ∈ (diffForwards client.forwardRules forwards).removed,
      old.same rule = false := fun old member => removed_unnamed member named
  have kept : ∀ listener ∈ (stoppedState client forwards).listeners,
      listener.rule.same rule = false := by
    intro listener member
    apply Bool.eq_false_of_not_eq_true
    intro same
    obtain ⟨pair, found, rfl⟩ := List.mem_map.mp member
    have met := (List.forall₂_iff_zip.mp paired.pairs).2 (List.mem_filter.mp found).1
    have unheld := free.unheld
    simp only [heldThroughout, Bool.or_eq_false_iff, List.any_eq_false, decide_eq_true_eq] at unheld
    exact unheld.2 pair found ((same_endpoint met).symm.trans (same_endpoint same))
  rw [last.listeners, turn.listeners, first.listeners]
  constructor
  · rintro ⟨listener, member, same⟩
    have opened {start : Nat} {rules : List ForwardRule} (found : listener ∈ ForwardReload.listen start rules) :
        listener.rule ∈ rules := by
      have mapped := List.mem_map_of_mem (f := Listener.rule) found
      rwa [listen_rules] at mapped
    simp only [List.mem_append, or_assoc] at member
    rcases member with member | member | member | member
    · simp [kept listener member] at same
    · rcases boundBy_triesOf allowed (opened member) with added | old
      · simp [aside _ (List.mem_append_left later added)] at same
      · simp [gone _ old] at same
    · rcases boundBy_tries fits (opened member) with ⟨bound, _⟩ | old
      · exact bound
      · simp [gone _ old] at same
    · rcases boundBy_triesOf allowed' (opened member) with added | old
      · simp [aside _ (List.mem_append_right earlier added)] at same
      · simp [gone _ old] at same
  · rintro rfl
    refine ⟨⟨state.opened, rule⟩, ?_, ConfigReload.same_self rule⟩
    simp [Fate.tries, boundBy, ForwardReload.listen]

/-- An added rule that nobody but a removed rule can be in the way of is live after the
reload exactly when no removed rule was given its endpoint back before its turn. -/
theorem free_rule_live_iff (serves : Serves client) (exclusive : Exclusive outside bind)
    (accepted : (reload bind next client).1 = .ok warnings)
    (added : (diffForwards client.forwardRules (next.client.getD {}).forwards).added =
      earlier ++ rule :: later)
    (free : Free outside client (next.client.getD {}).forwards earlier later rule) :
    Live (reload bind next client).2 rule ↔
      ∀ old ∈ givenBack
          (diffForwards client.forwardRules (next.client.getD {}).forwards).removed
          (refusals (heldThroughout outside client (next.client.getD {}).forwards)
            (diffForwards client.forwardRules (next.client.getD {}).forwards).removed
            [] [] earlier),
        endpoint old ≠ endpoint rule := by
  have paired := serves.paired
  obtain ⟨_, consistent⟩ := reload_steps paired accepted
  rw [live_iff consistent.paired]
  obtain ⟨_, ⟨_, unchanged, _⟩ | ⟨_, listeners, _⟩⟩ := reload_ok accepted
  · rw [unchanged] at added
    simp at added
  have named : rule ∈ (next.client.getD {}).forwards :=
    added_named (added ▸ List.mem_append_right earlier List.mem_cons_self)
  have alone : ∀ other ∈ earlier, endpoint other ≠ endpoint rule := by
    intro other member
    exact free.alone other (List.mem_append_left later member)
  -- What was bound before the rule, for it, and after it.
  obtain ⟨before, allowed, first⟩ := foldl_addForward_fates bind
    (diffForwards client.forwardRules (next.client.getD {}).forwards).removed earlier
    (stoppedState client (next.client.getD {}).forwards)
  have start : Accounted outside _ _ [] [] _ :=
    stopped_accounted paired (next.client.getD {}).forwards
  have turn := start.run exclusive earlier
  rw [listeners, applyDiff_stopped bind _ paired, added, List.foldl_append, List.foldl_cons]
  generalize earlier.foldl (addForward bind
    (diffForwards client.forwardRules (next.client.getD {}).forwards).removed)
    (stoppedState client (next.client.getD {}).forwards) = state at turn first ⊢
  obtain ⟨fate, tried, marks⟩ := addForward_fate bind
    (diffForwards client.forwardRules (next.client.getD {}).forwards).removed state rule
  obtain ⟨after, allowed', last⟩ := foldl_addForward_fates bind
    (diffForwards client.forwardRules (next.client.getD {}).forwards).removed later
    (addForward bind (diffForwards client.forwardRules (next.client.getD {}).forwards).removed
      state rule)
  rw [live_once paired named free allowed first marks.allowed tried allowed' last,
    fate_bound_iff tried, ← taken_free free.unheld alone, ← Bool.not_eq_true]
  have refused := (exclusive.outcome state.attempts state.listeners rule).trans
    (turn.holds (endpoint rule))
  exact not_iff_not.mp (by rw [not_not]; exact refused)

def exclusiveBind (outside : Endpoint → Bool) : Bind := fun _ listening rule =>
  if outside (endpoint rule) || listening.any (endpoint ·.rule = endpoint rule) then
    some "Address already in use"
  else none

theorem exclusiveBind_exclusive (outside : Endpoint → Bool) :
    Exclusive outside (exclusiveBind outside) := by
  intro attempt listening rule
  simp [exclusiveBind]

/-- An address that is not the machine's: whatever port, it cannot be had. -/
def foreign (place : Endpoint) : Bool := place.1 = "192.0.2.1"

def apiForward : ForwardRule := { webForward with remoteHost := "api" }

theorem web_serves : Serves webClient :=
  .started (show createListeners (exclusiveBind foreign) (clientOf [webForward]) = .ok webClient by
    decide)

/-- The new rule for the port comes first: the old listener cannot come back. -/
theorem api_first_live :
    Live (reload (exclusiveBind foreign) (clientOf [apiForward, mistyped]) webClient).2
      apiForward := by
  have accepted : (reload (exclusiveBind foreign) (clientOf [apiForward, mistyped])
      webClient).1 = .ok ("192.0.2.1:8080: Address already in use; previous listener on " ++
        "127.0.0.1:8080 was stopped and could not be restored (Address already in use)") := by
    decide
  have added : (diffForwards webClient.forwardRules
      ((clientOf [apiForward, mistyped]).client.getD {}).forwards).added =
        [] ++ apiForward :: [mistyped] := by
    decide
  have free : Free foreign webClient ((clientOf [apiForward, mistyped]).client.getD {}).forwards
      [] [mistyped] apiForward := ⟨by decide, by decide⟩
  exact (free_rule_live_iff web_serves (exclusiveBind_exclusive foreign) accepted added free).mpr
    (by decide)

/-- The same two rules the other way round: the mistyped one fails, the old listener comes
back for it and is in the way of the rule that takes over its port. -/
theorem api_second_refused :
    ¬∀ (outside : Endpoint → Bool) (bind : Bind) (next : Config) (client : Forwarding)
      (warnings : String) (earlier later : List ForwardRule) (rule : ForwardRule),
      Serves client → Exclusive outside bind → (reload bind next client).1 = .ok warnings →
      (diffForwards client.forwardRules (next.client.getD {}).forwards).added =
        earlier ++ rule :: later →
      Free outside client (next.client.getD {}).forwards earlier later rule →
      Live (reload bind next client).2 rule := by
  intro live
  have accepted : (reload (exclusiveBind foreign) (clientOf [mistyped, apiForward])
      webClient).1 = .ok ("192.0.2.1:8080: Address already in use; previous listener on " ++
        "127.0.0.1:8080 restored; 127.0.0.1:8080: Address already in use") := by
    decide
  have free : Free foreign webClient ((clientOf [mistyped, apiForward]).client.getD {}).forwards
      [mistyped] [] apiForward := ⟨by decide, by decide⟩
  obtain ⟨rule, member, same⟩ := live foreign (exclusiveBind foreign)
    (clientOf [mistyped, apiForward]) webClient _ [mistyped] [] apiForward web_serves
    (exclusiveBind_exclusive foreign) accepted (by decide) free
  have rules : (reload (exclusiveBind foreign) (clientOf [mistyped, apiForward])
      webClient).2.forwardRules = [webForward] := by
    decide
  rw [rules] at member
  cases List.mem_singleton.mp member
  exact absurd same (by decide)

end Reloads

end ToxTunnel.ForwardRollback
