import ToxTunnel.ConfigReload

/-!
`TunnelClient::reload` over its two parallel vectors: `listeners_` and `forward_rules_`.
The vectors are erased from and appended to by index; what keeps a port with its target is
that both are always changed at one place. Each attempt to bind has an outcome of its own.
-/

namespace ToxTunnel.ForwardReload
open DaemonConfig ConfigReload
open AccessRules (bind_ok)

section Model

/-- A `TcpListener` with the rule that its accept callback has captured. -/
structure Listener where
  serial : Nat
  rule : ForwardRule
  deriving DecidableEq

/-- The outcome of a bind: which attempt of the reload it is, what is listened on, and what
is asked for. -/
abbrev Bind := Nat → List Listener → ForwardRule → Option String

/-- The state of a client that its reload changes. `opened` counts its listeners. -/
structure Forwarding where
  config : Config
  listeners : List Listener := []
  forwardRules : List ForwardRule := []
  opened : Nat := 0
  level : LogLevel
  deriving DecidableEq

/-- The vectors while a diff is applied, and the notes on the failed rules. -/
structure Applying where
  listeners : List Listener
  forwardRules : List ForwardRule
  opened : Nat
  attempts : Nat := 0
  restoreAttempted : List Bool
  notes : List String := []
  deriving DecidableEq

/-- The loop over the vectors for one removed rule: as many passes as there are rules, each
of which erases at the index or moves it on. -/
def stopRemoved (removed : ForwardRule) : Nat → Nat → Applying → Applying
  | 0, _, state => state
  | passes + 1, index, state =>
      match state.forwardRules[index]? with
      | none => state
      | some rule =>
          if rule.same removed then
            stopRemoved removed passes index
              { state with
                listeners := state.listeners.eraseIdx index
                forwardRules := state.forwardRules.eraseIdx index }
          else stopRemoved removed passes (index + 1) state

def bindAndRegister (bind : Bind) (state : Applying) (rule : ForwardRule) :
    Applying × Option String :=
  match bind state.attempts state.listeners rule with
  | some error => ({ state with attempts := state.attempts + 1 }, some error)
  | none =>
      ({ state with
          attempts := state.attempts + 1
          listeners := state.listeners ++ [⟨state.opened, rule⟩]
          forwardRules := state.forwardRules ++ [rule]
          opened := state.opened + 1 }, none)

/-- A removed rule that a failed one replaced: the same port, the same target. -/
def rebinds (old added : ForwardRule) : Bool :=
  decide (old.localPort = added.localPort ∧ old.remoteHost = added.remoteHost ∧
    old.remotePort = added.remotePort)

/-- The first counterpart that was not tried, and the marks with its own set. -/
def counterpart (added : ForwardRule) : List ForwardRule → List Bool →
    Option (ForwardRule × List Bool)
  | old :: rest, attempted :: more =>
      if !attempted && rebinds old added then some (old, true :: more)
      else (counterpart added rest more).map fun (found, marks) => (found, attempted :: marks)
  | _, _ => none

def addForward (bind : Bind) (removed : List ForwardRule) (state : Applying)
    (added : ForwardRule) : Applying :=
  match bindAndRegister bind state added with
  | (bound, none) => bound
  | (refused, some error) =>
      let note := localEndpointLabel added ++ ": " ++ error
      match counterpart added removed refused.restoreAttempted with
      | none => { refused with notes := refused.notes ++ [note] }
      | some (old, marks) =>
          let label := localEndpointLabel old
          match bindAndRegister bind { refused with restoreAttempted := marks } old with
          | (restored, none) =>
              { restored with
                notes := restored.notes ++ [note ++ "; previous listener on " ++ label ++ " restored"] }
          | (failed, some error) =>
              { failed with
                notes := failed.notes ++ [note ++ "; previous listener on " ++ label ++
                  " was stopped and could not be restored (" ++ error ++ ")"] }

def applyDiff (bind : Bind) (diff : ForwardDiff) (client : Forwarding) : Applying :=
  let stopped := diff.removed.foldl
    (fun state removed => stopRemoved removed state.forwardRules.length 0 state)
    { listeners := client.listeners
      forwardRules := client.forwardRules
      opened := client.opened
      restoreAttempted := diff.removed.map fun _ => false }
  diff.added.foldl (addForward bind diff.removed) stopped

/-- The texts of the forwards that cannot be listened on at the start. -/
def createFailures (bind : Bind) : Nat → List Listener → List ForwardRule → List String
  | _, _, [] => []
  | attempts, bound, rule :: rest =>
      match bind attempts bound rule with
      | some error =>
          (localEndpointLabel rule ++ ": " ++ error) ::
            createFailures bind (attempts + 1) bound rest
      | none => createFailures bind (attempts + 1) (bound ++ [⟨attempts, rule⟩]) rest

/-- New listeners are numbered on from those that were opened. -/
def listen (opened : Nat) : List ForwardRule → List Listener
  | [] => []
  | rule :: rest => ⟨opened, rule⟩ :: listen (opened + 1) rest

/-- A client starts with all its forwards or not at all. -/
def createListeners (bind : Bind) (config : Config) : Except String Forwarding :=
  let forwards := (config.client.getD {}).forwards
  let failures := createFailures bind 0 [] forwards
  if failures = [] then
    pure
      { config
        listeners := listen 0 forwards
        forwardRules := forwards
        opened := forwards.length
        level := config.logging.level }
  else throw ("cannot listen on configured forward port(s): " ++ "; ".intercalate failures)

def isPipeMode (client : Forwarding) : Bool :=
  ((client.config.client.getD {}).pipeTarget).isSome

/-- The warnings of a reload, or its error; and the client after it. -/
def reload (bind : Bind) (next : Config) (client : Forwarding) :
    Except String String × Forwarding :=
  match checkReloadable client.config next with
  | .error text => (.error text, client)
  | .ok _ =>
      let forwards := (next.client.getD {}).forwards
      let diff := diffForwards client.forwardRules forwards
      let level :=
        if client.config.logging.level ≠ next.logging.level then next.logging.level
        else client.level
      if isPipeMode client then
        if diff ≠ {} then
          (.error "client is in pipe mode; forwards cannot be reloaded (restart to switch modes)",
            client)
        else (.ok "", { client with config := next, level })
      else
        let applied := applyDiff bind diff client
        (.ok ("; ".intercalate applied.notes),
          { config := next
            listeners := applied.listeners
            forwardRules := applied.forwardRules.map (refreshProvenance forwards)
            opened := applied.opened
            level })

end Model

section Pairs

/-- The listeners are those of the rules, index by index, each with a number of its own. -/
structure Paired (client : Forwarding) : Prop where
  pairs : List.Forall₂ (fun listener rule => listener.rule.same rule = true) client.listeners
    client.forwardRules
  distinct : (client.listeners.map Listener.serial).Nodup
  older : ∀ listener ∈ client.listeners, listener.serial < client.opened

/-- The pairs after a pass: those before the index, and those behind it that are left. -/
theorem stopRemoved_pairs (removed : ForwardRule) (state : Applying)
    (front back : List (Listener × ForwardRule))
    (listeners : state.listeners = (front ++ back).map Prod.fst)
    (rules : state.forwardRules = (front ++ back).map Prod.snd) :
    let left := front ++ back.filter fun pair => !pair.2.same removed
    stopRemoved removed back.length front.length state =
      { state with listeners := left.map Prod.fst, forwardRules := left.map Prod.snd } := by
  induction back generalizing front state with
  | nil =>
      simp only [List.append_nil, List.length_nil, List.filter_nil, stopRemoved] at *
      rw [← listeners, ← rules]
  | cons pair back ih =>
      have here : state.forwardRules[front.length]? = some pair.2 := by simp [rules]
      simp only [List.length_cons, stopRemoved, here]
      by_cases gone : pair.2.same removed = true
      · rw [if_pos gone, ih _ front]
        · simp [gone]
        · simp [listeners, List.eraseIdx_append_of_length_le]
        · simp [rules, List.eraseIdx_append_of_length_le]
      · rw [if_neg gone]
        have moved := ih state (front ++ [pair]) (by simp [listeners]) (by simp [rules])
        simp only [List.length_append, List.length_singleton] at moved
        simpa [gone] using moved

theorem same_trans {rule middle other : ForwardRule} (first : rule.same middle = true)
    (second : middle.same other = true) : rule.same other = true := by
  simp only [ForwardRule.same, decide_eq_true_eq] at *
  exact ⟨first.1.trans second.1, first.2.1.trans second.2.1, first.2.2.1.trans second.2.2.1,
    first.2.2.2.trans second.2.2.2⟩

theorem foldl_stopRemoved (removed : List ForwardRule) (state : Applying)
    (pairs : List (Listener × ForwardRule)) (listeners : state.listeners = pairs.map Prod.fst)
    (rules : state.forwardRules = pairs.map Prod.snd) :
    let left := pairs.filter fun pair => !removed.any (pair.2.same ·)
    removed.foldl (fun state rule => stopRemoved rule state.forwardRules.length 0 state) state =
      { state with listeners := left.map Prod.fst, forwardRules := left.map Prod.snd } := by
  induction removed generalizing pairs state with
  | nil =>
      simp only [List.foldl_nil, List.any_nil, Bool.not_false, List.filter_true]
      rw [← listeners, ← rules]
  | cons rule rest ih =>
      have stopped := stopRemoved_pairs rule state [] pairs listeners rules
      simp only [List.nil_append, List.length_nil] at stopped
      have passes : state.forwardRules.length = pairs.length := by simp [rules]
      simp only [List.foldl_cons, passes, stopped]
      rw [ih _ (pairs.filter fun pair => !pair.2.same rule) rfl rfl]
      simp [List.filter_filter, Bool.and_comm]

/-- The pairs of the rules that the new forwards name as well. -/
def keptPairs (client : Forwarding) (forwards : List ForwardRule) :
    List (Listener × ForwardRule) :=
  (client.listeners.zip client.forwardRules).filter fun pair => forwards.any (·.same pair.2)

theorem zip_fst {listeners : List Listener} {rules : List ForwardRule}
    (length : listeners.length = rules.length) :
    (listeners.zip rules).map Prod.fst = listeners :=
  List.map_fst_zip length.le

theorem zip_snd {listeners : List Listener} {rules : List ForwardRule}
    (length : listeners.length = rules.length) :
    (listeners.zip rules).map Prod.snd = rules :=
  List.map_snd_zip length.ge

theorem removed_any {rules forwards : List ForwardRule} {rule : ForwardRule}
    (member : rule ∈ rules) :
    (diffForwards rules forwards).removed.any (rule.same ·) = !forwards.any (·.same rule) := by
  apply Bool.eq_iff_iff.mpr
  simp only [diffForwards, List.any_eq_true, List.mem_filter, Bool.not_eq_true']
  constructor
  · rintro ⟨gone, ⟨_, unnamed⟩, same⟩
    by_contra named
    obtain ⟨next, found, matched⟩ := List.any_eq_true.mp (eq_true_of_ne_false named)
    have reached : forwards.any (·.same gone) = true :=
      List.any_eq_true.mpr ⟨next, found, same_trans matched same⟩
    exact Bool.false_ne_true (unnamed.symm.trans reached)
  · intro unnamed
    exact ⟨rule, ⟨member, unnamed⟩, same_self rule⟩

end Pairs

section Tries

/-- An attempt to bind, and what came of it. -/
structure Try where
  rule : ForwardRule
  outcome : Option String

def boundBy (tries : List Try) : List ForwardRule :=
  (tries.filter (·.outcome.isNone)).map Try.rule

/-- `after` is what the attempts make of `before`, each made next to what was listened on
by then. -/
structure Follows (bind : Bind) (before : Applying) (tries : List Try) (after : Applying) :
    Prop where
  attempts : after.attempts = before.attempts + tries.length
  opened : after.opened = before.opened + (boundBy tries).length
  listeners : after.listeners = before.listeners ++ listen before.opened (boundBy tries)
  forwardRules : after.forwardRules = before.forwardRules ++ boundBy tries
  outcomes : ∀ place attempt, tries[place]? = some attempt →
    bind (before.attempts + place)
        (before.listeners ++ listen before.opened (boundBy (tries.take place))) attempt.rule =
      attempt.outcome

variable {bind : Bind} {before middle after : Applying} {first second : List Try}

theorem boundBy_append (first second : List Try) :
    boundBy (first ++ second) = boundBy first ++ boundBy second := by
  simp [boundBy]

theorem listen_append (opened : Nat) (first second : List ForwardRule) :
    listen opened (first ++ second) =
      listen opened first ++ listen (opened + first.length) second := by
  induction first generalizing opened with
  | nil => simp [listen]
  | cons rule rest ih =>
      simp only [List.cons_append, listen, ih, List.length_cons]
      congr 3
      omega

theorem listen_rules (opened : Nat) (rules : List ForwardRule) :
    (listen opened rules).map Listener.rule = rules := by
  induction rules generalizing opened with
  | nil => rfl
  | cons rule rest ih => simp [listen, ih]

theorem listen_serial {opened : Nat} {rules : List ForwardRule} {listener : Listener}
    (member : listener ∈ listen opened rules) :
    opened ≤ listener.serial ∧ listener.serial < opened + rules.length := by
  induction rules generalizing opened with
  | nil => cases member
  | cons rule rest ih =>
      rcases List.mem_cons.mp member with rfl | later
      · simp
      · have bounds := ih later
        simp only [List.length_cons]
        omega

theorem Follows.none (state : Applying) : Follows bind state [] state := by
  constructor <;> simp [boundBy, listen]

theorem Follows.trans (head : Follows bind before first middle)
    (tail : Follows bind middle second after) : Follows bind before (first ++ second) after := by
  constructor
  · rw [tail.attempts, head.attempts, List.length_append, Nat.add_assoc]
  · rw [tail.opened, head.opened, boundBy_append, List.length_append, Nat.add_assoc]
  · rw [tail.listeners, head.listeners, head.opened, boundBy_append, listen_append,
      List.append_assoc]
  · rw [tail.forwardRules, head.forwardRules, boundBy_append, List.append_assoc]
  · intro place attempt found
    by_cases early : place < first.length
    · rw [List.getElem?_append_left early] at found
      rw [List.take_append_of_le_length early.le]
      exact head.outcomes place attempt found
    · have late : first.length ≤ place := Nat.le_of_not_lt early
      rw [List.getElem?_append_right late] at found
      have outcome := tail.outcomes (place - first.length) attempt found
      rw [head.attempts, head.listeners, head.opened] at outcome
      have position : before.attempts + first.length + (place - first.length) =
          before.attempts + place := by omega
      rw [List.take_append, List.take_of_length_le late, boundBy_append, listen_append,
        ← List.append_assoc, ← position]
      exact outcome

theorem bindAndRegister_follows (bind : Bind) (state : Applying) (rule : ForwardRule) :
    Follows bind state [⟨rule, (bindAndRegister bind state rule).2⟩]
      (bindAndRegister bind state rule).1 := by
  have only (outcome : Option String)
      (tried : bind state.attempts state.listeners rule = outcome) :
      ∀ place attempt, [Try.mk rule outcome][place]? = some attempt →
        bind (state.attempts + place) (state.listeners ++
          listen state.opened (boundBy ([Try.mk rule outcome].take place))) attempt.rule =
          attempt.outcome := by
    intro place attempt found
    cases place with
    | zero =>
        cases found
        simpa [boundBy, listen] using tried
    | succ place => cases found
  unfold bindAndRegister
  split
  · next error tried =>
      exact ⟨rfl, rfl, by simp [boundBy, listen], by simp [boundBy], only _ tried⟩
  · next tried => exact ⟨rfl, rfl, rfl, rfl, only _ tried⟩

theorem Follows.of_marks {marks : List Bool}
    (follows : Follows bind { before with restoreAttempted := marks } first after) :
    Follows bind before first after :=
  ⟨follows.attempts, follows.opened, follows.listeners, follows.forwardRules, follows.outcomes⟩

theorem Follows.with_notes (follows : Follows bind before first after) (notes : List String) :
    Follows bind before first { after with notes } :=
  ⟨follows.attempts, follows.opened, follows.listeners, follows.forwardRules, follows.outcomes⟩

end Tries

section Fates

/-- What came of an added rule: it bound; it was refused; or it was refused, and a removed
rule was tried again in its place. -/
inductive Fate where
  | bound
  | refused (error : String)
  | replaced (error : String) (old : ForwardRule) (outcome : Option String)

def Fate.tries (added : ForwardRule) : Fate → List Try
  | .bound => [⟨added, none⟩]
  | .refused error => [⟨added, some error⟩]
  | .replaced error old outcome => [⟨added, some error⟩, ⟨old, outcome⟩]

/-- How a fate goes with the marks before it and after it. -/
def Fate.Marks (removed : List ForwardRule) (added : ForwardRule) (before after : List Bool) :
    Fate → Prop
  | .bound => after = before
  | .refused _ => counterpart added removed before = none ∧ after = before
  | .replaced _ old _ => counterpart added removed before = some (old, after)

theorem addForward_fate (bind : Bind) (removed : List ForwardRule) (state : Applying)
    (added : ForwardRule) :
    ∃ fate : Fate, Follows bind state (fate.tries added) (addForward bind removed state added) ∧
      fate.Marks removed added state.restoreAttempted
        (addForward bind removed state added).restoreAttempted := by
  have tried := bindAndRegister_follows bind state added
  have marks : (bindAndRegister bind state added).1.restoreAttempted = state.restoreAttempted := by
    unfold bindAndRegister
    split <;> rfl
  unfold addForward
  split
  · next bound outcome =>
      rw [outcome] at tried marks
      exact ⟨.bound, tried, marks⟩
  · next refused error outcome =>
      rw [outcome] at tried marks
      simp only at marks
      dsimp only
      split
      · next nothing =>
          rw [marks] at nothing
          exact ⟨.refused error, tried.with_notes _, nothing, marks⟩
      · next old after found =>
          rw [marks] at found
          have again := (bindAndRegister_follows bind { refused with restoreAttempted := after }
            old).of_marks
          have kept : (bindAndRegister bind { refused with restoreAttempted := after }
              old).1.restoreAttempted = after := by
            unfold bindAndRegister
            split <;> rfl
          split
          · next restored outcome =>
              rw [outcome] at again kept
              exact ⟨.replaced error old none, (tried.trans again).with_notes _, kept ▸ found⟩
          · next failed text outcome =>
              rw [outcome] at again kept
              exact ⟨.replaced error old (some text), (tried.trans again).with_notes _,
                kept ▸ found⟩

end Fates

section Consistency

theorem counterpart_mem {added old : ForwardRule} {removed : List ForwardRule}
    {before after : List Bool} (found : counterpart added removed before = some (old, after)) :
    old ∈ removed ∧ rebinds old added = true := by
  induction removed generalizing before after with
  | nil => cases found
  | cons rule rest ih =>
      cases before with
      | nil => cases found
      | cons attempted more =>
          rw [counterpart] at found
          by_cases first : (!attempted && rebinds rule added) = true
          · rw [if_pos first] at found
            cases found
            exact ⟨List.mem_cons_self, (Bool.and_eq_true_iff.mp first).2⟩
          · rw [if_neg first] at found
            obtain ⟨⟨deeper, marks⟩, later, same⟩ := Option.map_eq_some_iff.mp found
            cases same
            obtain ⟨member, matched⟩ := ih later
            exact ⟨List.mem_cons_of_mem rule member, matched⟩

/-- What is tried again in the place of an added rule was removed, and had its port and its
target. -/
def Fate.Allowed (removed : List ForwardRule) (added : ForwardRule) : Fate → Prop
  | .bound => True
  | .refused _ => True
  | .replaced _ old _ => old ∈ removed ∧ rebinds old added = true

theorem Fate.Marks.allowed {removed : List ForwardRule} {added : ForwardRule}
    {before after : List Bool} {fate : Fate} (marks : fate.Marks removed added before after) :
    fate.Allowed removed added := by
  cases fate with
  | bound => trivial
  | refused error => trivial
  | replaced error old outcome => exact counterpart_mem marks

def triesOf : List ForwardRule → List Fate → List Try
  | rule :: rest, fate :: later => fate.tries rule ++ triesOf rest later
  | _, _ => []

theorem foldl_addForward_fates (bind : Bind) (removed added : List ForwardRule)
    (state : Applying) :
    ∃ fates, List.Forall₂ (fun rule fate => fate.Allowed removed rule) added fates ∧
      Follows bind state (triesOf added fates) (added.foldl (addForward bind removed) state) := by
  induction added generalizing state with
  | nil => exact ⟨[], .nil, .none state⟩
  | cons rule rest ih =>
      obtain ⟨fate, follows, marks⟩ := addForward_fate bind removed state rule
      obtain ⟨fates, allowed, later⟩ := ih (addForward bind removed state rule)
      exact ⟨fate :: fates, .cons marks.allowed allowed, follows.trans later⟩

/-- The attempts of a reload, in order. -/
def Forwarding.tries (client : Forwarding) (forwards : List ForwardRule) (fates : List Fate) :
    List Try :=
  triesOf (diffForwards client.forwardRules forwards).added fates

/-- What a reload makes of a client: the listeners that were kept, then one for each attempt
that bound, index by index with their rules. -/
structure Consistent (bind : Bind) (forwards : List ForwardRule) (client : Forwarding)
    (fates : List Fate) (after : Forwarding) : Prop where
  paired : Paired after
  allowed : List.Forall₂
    (fun added fate => fate.Allowed (diffForwards client.forwardRules forwards).removed added)
    (diffForwards client.forwardRules forwards).added fates
  outcomes : ∀ place attempt, (client.tries forwards fates)[place]? = some attempt →
    bind place
        ((keptPairs client forwards).map Prod.fst ++
          listen client.opened (boundBy ((client.tries forwards fates).take place)))
        attempt.rule = attempt.outcome
  listeners : after.listeners = (keptPairs client forwards).map Prod.fst ++
    listen client.opened (boundBy (client.tries forwards fates))
  rules : List.Forall₂ (fun live rule => live.same rule = true) after.forwardRules
    ((keptPairs client forwards).map Prod.snd ++ boundBy (client.tries forwards fates))

theorem refreshProvenance_same (forwards : List ForwardRule) (live : ForwardRule) :
    (refreshProvenance forwards live).same live = true := by
  unfold refreshProvenance
  split
  · exact same_self live
  · next rule found =>
      have matched : rule.same live = true := by simpa using List.find?_some found
      split
      · exact same_self live
      · have address := (of_decide_eq_true matched).2.2.2
        exact decide_eq_true ⟨rfl, rfl, rfl, address⟩

theorem refreshed_same (forwards rules : List ForwardRule) :
    List.Forall₂ (fun live rule => live.same rule = true)
      (rules.map (refreshProvenance forwards)) rules := by
  apply List.forall₂_map_left_iff.mpr
  apply List.forall₂_same.mpr
  intro rule _
  exact refreshProvenance_same forwards rule

/-- The vectors once the removed rules were stopped. -/
def stoppedState (client : Forwarding) (forwards : List ForwardRule) : Applying :=
  { listeners := (keptPairs client forwards).map Prod.fst
    forwardRules := (keptPairs client forwards).map Prod.snd
    opened := client.opened
    restoreAttempted := (diffForwards client.forwardRules forwards).removed.map fun _ => false }

theorem applyDiff_stopped (bind : Bind) {client : Forwarding} (forwards : List ForwardRule)
    (paired : Paired client) :
    applyDiff bind (diffForwards client.forwardRules forwards) client =
      (diffForwards client.forwardRules forwards).added.foldl
        (addForward bind (diffForwards client.forwardRules forwards).removed)
        (stoppedState client forwards) := by
  have length := paired.pairs.length_eq
  have left : (client.listeners.zip client.forwardRules).filter (fun pair =>
      !(diffForwards client.forwardRules forwards).removed.any (pair.2.same ·)) =
      keptPairs client forwards := by
    apply List.filter_congr
    intro pair member
    rw [removed_any (List.of_mem_zip member).2, Bool.not_not]
  rw [applyDiff, foldl_stopRemoved _ _ (client.listeners.zip client.forwardRules)
    (zip_fst length).symm (zip_snd length).symm, left]
  rfl

theorem listen_serials (opened : Nat) (rules : List ForwardRule) :
    (listen opened rules).map Listener.serial = List.range' opened rules.length := by
  induction rules generalizing opened with
  | nil => rfl
  | cons rule rest ih => simp [listen, ih, List.range'_succ]

theorem listen_paired (opened : Nat) (rules : List ForwardRule) :
    List.Forall₂ (fun listener rule => listener.rule.same rule = true) (listen opened rules)
      rules := by
  induction rules generalizing opened with
  | nil => exact .nil
  | cons rule rest ih => exact .cons (same_self rule) (ih (opened + 1))

theorem kept_pairs {client : Forwarding} (paired : Paired client) (forwards : List ForwardRule) :
    List.Forall₂ (fun listener rule => listener.rule.same rule = true)
      ((keptPairs client forwards).map Prod.fst) ((keptPairs client forwards).map Prod.snd) := by
  apply List.forall₂_map_left_iff.mpr
  apply List.forall₂_map_right_iff.mpr
  apply List.forall₂_same.mpr
  intro pair member
  exact (List.forall₂_iff_zip.mp paired.pairs).2 (List.mem_filter.mp member).1

theorem kept_sublist {client : Forwarding} (paired : Paired client)
    (forwards : List ForwardRule) :
    ((keptPairs client forwards).map Prod.fst).Sublist client.listeners := by
  have sub := (List.filter_sublist (l := client.listeners.zip client.forwardRules)
    (p := fun pair => forwards.any (·.same pair.2))).map Prod.fst
  rw [zip_fst paired.pairs.length_eq] at sub
  exact sub

theorem forall₂_same_trans {listeners : List Listener} {rules others : List ForwardRule}
    (first : List.Forall₂ (fun listener rule => listener.rule.same rule = true) listeners rules)
    (second : List.Forall₂ (fun other rule => other.same rule = true) others rules) :
    List.Forall₂ (fun listener rule => listener.rule.same rule = true) listeners others := by
  induction first generalizing others with
  | nil =>
      cases second
      exact .nil
  | cons met _ ih =>
      cases second with
      | cons again later => exact .cons (same_trans met (same_symm again)) (ih later)

theorem paired_after {client after : Forwarding} {forwards bound : List ForwardRule}
    (paired : Paired client)
    (listeners : after.listeners =
      (keptPairs client forwards).map Prod.fst ++ listen client.opened bound)
    (rules : List.Forall₂ (fun live rule => live.same rule = true) after.forwardRules
      ((keptPairs client forwards).map Prod.snd ++ bound))
    (opened : after.opened = client.opened + bound.length) : Paired after := by
  have older : ∀ listener ∈ (keptPairs client forwards).map Prod.fst,
      listener.serial < client.opened := by
    intro listener member
    exact paired.older listener ((kept_sublist paired forwards).subset member)
  constructor
  · rw [listeners]
    apply forall₂_same_trans _ rules
    exact List.rel_append (kept_pairs paired forwards) (listen_paired client.opened bound)
  · rw [listeners, List.map_append, listen_serials]
    apply List.nodup_append.mpr
    refine ⟨((kept_sublist paired forwards).map _).nodup paired.distinct, List.nodup_range', ?_⟩
    intro serial member other fresh same
    obtain ⟨listener, found, rfl⟩ := List.mem_map.mp member
    have early := older listener found
    have late := (List.mem_range'_1.mp fresh).1
    omega
  · intro listener member
    rw [opened]
    rw [listeners] at member
    rcases List.mem_append.mp member with kept | fresh
    · exact Nat.lt_add_right _ (older listener kept)
    · exact (listen_serial fresh).2

theorem kept_all {client : Forwarding} {forwards : List ForwardRule}
    (unchanged : diffForwards client.forwardRules forwards = {}) :
    keptPairs client forwards = client.listeners.zip client.forwardRules := by
  apply List.filter_eq_self.mpr
  intro pair member
  have running := (List.of_mem_zip member).2
  have marked : (diffForwards client.forwardRules forwards).removed.any (pair.2.same ·) =
      !forwards.any (·.same pair.2) := removed_any running
  rw [unchanged] at marked
  simpa using marked.symm

theorem reload_ok {bind : Bind} {next : Config} {client : Forwarding} {warnings : String}
    (reloaded : (reload bind next client).1 = .ok warnings) :
    checkReloadable client.config next = .ok () ∧
      ((isPipeMode client = true ∧
          diffForwards client.forwardRules (next.client.getD {}).forwards = {} ∧
          (reload bind next client).2.listeners = client.listeners ∧
          (reload bind next client).2.forwardRules = client.forwardRules ∧
          (reload bind next client).2.opened = client.opened) ∨
        (isPipeMode client = false ∧
          let applied := applyDiff bind
            (diffForwards client.forwardRules (next.client.getD {}).forwards) client
          (reload bind next client).2.listeners = applied.listeners ∧
          (reload bind next client).2.forwardRules =
            applied.forwardRules.map (refreshProvenance (next.client.getD {}).forwards) ∧
          (reload bind next client).2.opened = applied.opened)) := by
  unfold reload at *
  cases check : checkReloadable client.config next with
  | error text =>
      rw [check] at reloaded
      cases reloaded
  | ok done =>
      rw [check] at reloaded
      refine ⟨rfl, ?_⟩
      by_cases pipe : isPipeMode client = true
      · by_cases unchanged :
          diffForwards client.forwardRules (next.client.getD {}).forwards = {}
        · exact .inl ⟨pipe, unchanged, by simp [pipe, unchanged]⟩
        · simp [pipe, unchanged] at reloaded
      · exact .inr ⟨Bool.eq_false_of_not_eq_true pipe, by simp [pipe]⟩

theorem reload_error {bind : Bind} {next : Config} {client : Forwarding} {text : String}
    (reloaded : (reload bind next client).1 = .error text) :
    (reload bind next client).2 = client := by
  unfold reload at *
  cases check : checkReloadable client.config next with
  | error text => rfl
  | ok done =>
      rw [check] at reloaded
      by_cases pipe : isPipeMode client = true
      · by_cases unchanged :
          diffForwards client.forwardRules (next.client.getD {}).forwards = {}
        · simp [pipe, unchanged] at reloaded
        · simp [pipe, unchanged]
      · simp [pipe] at reloaded

/-- Each reload that is accepted leaves the kept listeners and those of its attempts. -/
theorem reload_steps {bind : Bind} {next : Config} {client : Forwarding} {warnings : String}
    (paired : Paired client) (reloaded : (reload bind next client).1 = .ok warnings) :
    ∃ fates, Consistent bind (next.client.getD {}).forwards client fates
      (reload bind next client).2 := by
  obtain ⟨_, pipe | ports⟩ := reload_ok reloaded
  · obtain ⟨_, unchanged, listeners, rules, opened⟩ := pipe
    have kept := kept_all unchanged
    have length := paired.pairs.length_eq
    have all : client.listeners = (keptPairs client (next.client.getD {}).forwards).map Prod.fst := by
      rw [kept, zip_fst length]
    refine ⟨[], ?_⟩
    have nothing : client.tries (next.client.getD {}).forwards [] = [] := by
      rw [Forwarding.tries, unchanged]
      rfl
    constructor
    · exact ⟨listeners ▸ rules ▸ paired.pairs, listeners ▸ paired.distinct,
        listeners ▸ opened ▸ paired.older⟩
    · rw [unchanged]
      exact .nil
    · intro place attempt found
      rw [nothing] at found
      cases found
    · rw [nothing, listeners]
      exact all.trans (List.append_nil _).symm
    · rw [nothing, rules, kept, zip_snd length, boundBy, List.filter_nil, List.map_nil,
        List.append_nil]
      apply List.forall₂_same.mpr
      intro rule _
      exact same_self rule
  · obtain ⟨_, listeners, rules, opened⟩ := ports
    obtain ⟨fates, allowed, follows⟩ := foldl_addForward_fates bind
      (diffForwards client.forwardRules (next.client.getD {}).forwards).removed
      (diffForwards client.forwardRules (next.client.getD {}).forwards).added
      (stoppedState client (next.client.getD {}).forwards)
    rw [← applyDiff_stopped bind _ paired] at follows
    rw [follows.listeners] at listeners
    rw [follows.opened] at opened
    have live := refreshed_same (next.client.getD {}).forwards
      (applyDiff bind (diffForwards client.forwardRules (next.client.getD {}).forwards)
        client).forwardRules
    rw [← rules, follows.forwardRules] at live
    refine ⟨fates, paired_after paired listeners live opened, allowed, ?_, listeners, live⟩
    intro place attempt found
    have outcome := follows.outcomes place attempt found
    have position : (stoppedState client (next.client.getD {}).forwards).attempts + place =
        place := Nat.zero_add place
    rwa [position] at outcome

end Consistency

section Settings

/-- A configuration up to the three settings that a reload may change. -/
def fixedSettings (config : Config) : Config :=
  { config with
    logging := { config.logging with level := .info }
    server := config.server.map fun server => { server with rulesFile := none }
    client := config.client.map fun client => { client with forwards := [] } }

/-- The Tox section as the network sees it. -/
def withEffectiveTox (config : Config) : Config :=
  { config with tox := config.effectiveToxConfig }

/-- The old fields of a server say what its Tox section says, as they do in every
configuration that was loaded; a client's are not looked at. -/
def InStep (config : Config) : Prop :=
  config.mode = .client ∨ syncLegacyServerToxFields config = config

theorem effectiveToxConfig_inStep {config : Config} (inStep : InStep config) :
    config.effectiveToxConfig = config.tox := by
  unfold Config.effectiveToxConfig
  split
  · next server mode block =>
      rcases inStep with client | synced
      · cases mode.symm.trans client
      · obtain ⟨port, udp, nodes⟩ := synced_fields block synced
        rw [port, udp, nodes]
        simp
  · rfl

theorem keep_ok {Value : Type} [DecidableEq Value] {fieldName : String} {current next : Value} :
    keep fieldName current next = .ok () ↔ current = next :=
  check_ok

theorem checkServerReloadable_ok {current next : ServerConfig}
    (accepted : checkServerReloadable current next = .ok ()) :
    { current with rulesFile := none } = { next with rulesFile := none } := by
  obtain ⟨_, port, accepted⟩ := bind_ok accepted
  obtain ⟨_, udp, accepted⟩ := bind_ok accepted
  obtain ⟨_, nodes, disclose⟩ := bind_ok accepted
  rw [keep_ok.mp port, keep_ok.mp udp, keep_ok.mp nodes, keep_ok.mp disclose]

theorem checkClientReloadable_ok {current next : ClientConfig}
    (accepted : checkClientReloadable current next = .ok ()) :
    { current with forwards := [] } = { next with forwards := [] } := by
  obtain ⟨_, server, accepted⟩ := bind_ok accepted
  obtain ⟨_, others, accepted⟩ := bind_ok accepted
  obtain ⟨_, failover, accepted⟩ := bind_ok accepted
  obtain ⟨_, pipe, socks5⟩ := bind_ok accepted
  rw [keep_ok.mp server, keep_ok.mp others, keep_ok.mp failover, keep_ok.mp pipe,
    keep_ok.mp socks5]

theorem blocks_agree {Block : Type} {current next : Option Block} {change : Block → Block}
    (present : current.isSome = next.isSome)
    (agree : ∀ block ∈ current, ∀ other ∈ next, change block = change other) :
    current.map change = next.map change := by
  cases current with
  | none =>
      cases next with
      | none => rfl
      | some block => cases present
  | some block =>
      cases next with
      | none => cases present
      | some other => exact congrArg some (agree block rfl other rfl)

theorem checkTail_ok {current next : Config}
    (accepted : (do
      keep "tox" current.effectiveToxConfig next.effectiveToxConfig
      keep "client" current.client.isSome next.client.isSome
      match current.client, next.client with
      | some current, some next => checkClientReloadable current next
      | _, _ => pure () : Except String Unit) = .ok ()) :
    current.effectiveToxConfig = next.effectiveToxConfig ∧
      current.client.map (fun client => { client with forwards := [] }) =
        next.client.map (fun client => { client with forwards := [] }) := by
  obtain ⟨_, tox, accepted⟩ := bind_ok accepted
  obtain ⟨_, client, accepted⟩ := bind_ok accepted
  refine ⟨keep_ok.mp tox, blocks_agree (keep_ok.mp client) ?_⟩
  intro block found other found'
  rw [Option.mem_def.mp found, Option.mem_def.mp found'] at accepted
  exact checkClientReloadable_ok accepted

theorem checkReloadable_settings {current next : Config}
    (accepted : checkReloadable current next = .ok ()) :
    fixedSettings (withEffectiveTox current) = fixedSettings (withEffectiveTox next) := by
  obtain ⟨_, mode, accepted⟩ := bind_ok accepted
  obtain ⟨_, dataDir, accepted⟩ := bind_ok accepted
  obtain ⟨_, logFile, accepted⟩ := bind_ok accepted
  obtain ⟨_, service, accepted⟩ := bind_ok accepted
  obtain ⟨_, metrics, accepted⟩ := bind_ok accepted
  obtain ⟨_, inspect, accepted⟩ := bind_ok accepted
  obtain ⟨_, tunnel, accepted⟩ := bind_ok accepted
  obtain ⟨_, flowControl, accepted⟩ := bind_ok accepted
  obtain ⟨_, watchdog, accepted⟩ := bind_ok accepted
  obtain ⟨_, server, accepted⟩ := bind_ok accepted
  have ⟨servers, tail⟩ :
      (∀ block ∈ current.server, ∀ other ∈ next.server,
        { block with rulesFile := none } = { other with rulesFile := none }) ∧
      current.effectiveToxConfig = next.effectiveToxConfig ∧
        current.client.map (fun client => { client with forwards := [] }) =
          next.client.map (fun client => { client with forwards := [] }) := by
    dsimp only at accepted
    split at accepted
    · next block other found found' =>
        obtain ⟨_, same, accepted⟩ := bind_ok accepted
        refine ⟨?_, checkTail_ok accepted⟩
        rw [found, found']
        rintro _ ⟨⟩ _ ⟨⟩
        exact checkServerReloadable_ok same
    · next missing =>
        refine ⟨?_, checkTail_ok accepted⟩
        intro block found other found'
        exact (missing block other found found').elim
  have blocks := blocks_agree (keep_ok.mp server) servers
  simp only [fixedSettings, withEffectiveTox, keep_ok.mp mode, keep_ok.mp dataDir,
    keep_ok.mp logFile, keep_ok.mp service, keep_ok.mp metrics, keep_ok.mp inspect,
    keep_ok.mp tunnel, keep_ok.mp flowControl, keep_ok.mp watchdog, tail.1, blocks, tail.2]

theorem checkReloadable_written {current next : Config}
    (accepted : checkReloadable current next = .ok ()) (currentStep : InStep current)
    (nextStep : InStep next) : fixedSettings current = fixedSettings next := by
  have same := checkReloadable_settings accepted
  rw [withEffectiveTox, effectiveToxConfig_inStep currentStep, withEffectiveTox,
    effectiveToxConfig_inStep nextStep] at same
  exact same

end Settings

section Runs

/-- A client that started and was reloaded any number of times. -/
inductive Serves : Forwarding → Prop
  | started {bind : Bind} {config : Config} {client : Forwarding}
      (created : createListeners bind config = .ok client) : Serves client
  | reloaded {bind : Bind} {next : Config} {client : Forwarding} (serves : Serves client) :
      Serves (reload bind next client).2

theorem createListeners_paired {bind : Bind} {config : Config} {client : Forwarding}
    (created : createListeners bind config = .ok client) : Paired client := by
  unfold createListeners at created
  dsimp only at created
  split at created
  · cases created
    refine ⟨listen_paired 0 _, ?_, ?_⟩
    · simp only [listen_serials]
      exact List.nodup_range'
    · intro listener member
      exact (listen_serial member).2.trans_eq (Nat.zero_add _)
  · cases created

theorem Serves.paired {client : Forwarding} (serves : Serves client) : Paired client := by
  induction serves with
  | started created => exact createListeners_paired created
  | @reloaded bind next client _ ih =>
      cases outcome : (reload bind next client).1 with
      | error text =>
          rw [reload_error outcome]
          exact ih
      | ok warnings =>
          obtain ⟨fates, consistent⟩ := reload_steps ih outcome
          exact consistent.paired

/-- A reload that returns an error changed nothing; one that is accepted keeps the listeners
of the rules in both lists, and opens one for each attempt that bound; and the configuration
changed in the three settings only, the Tox section being compared by its effective values,
which are the written ones where a server's old fields are in step. -/
theorem reload_consistent {bind : Bind} {next : Config} {client : Forwarding}
    (serves : Serves client) :
    (∀ text, (reload bind next client).1 = .error text → (reload bind next client).2 = client) ∧
      (∀ warnings, (reload bind next client).1 = .ok warnings →
        ∃ fates, Consistent bind (next.client.getD {}).forwards client fates
          (reload bind next client).2) ∧
      (checkReloadable client.config next = .ok () →
        fixedSettings (withEffectiveTox client.config) =
            fixedSettings (withEffectiveTox next) ∧
          (InStep client.config → InStep next →
            fixedSettings client.config = fixedSettings next)) := by
  refine ⟨?_, ?_, ?_⟩
  · intro text failed
    exact reload_error failed
  · intro warnings accepted
    exact reload_steps serves.paired accepted
  · intro accepted
    exact ⟨checkReloadable_settings accepted, checkReloadable_written accepted⟩

/-- A port whose address was mistyped: only the old one can be bound. -/
def onlyLoopback : Bind := fun _ listening rule =>
  if rule.effectiveLocalAddress = "127.0.0.1" ∧
      ∀ listener ∈ listening, listener.rule.localPort ≠ rule.localPort then none
  else some "Cannot assign requested address"

def webForward : ForwardRule := { localPort := 8080, remoteHost := "web", remotePort := 80 }

def mistyped : ForwardRule := { webForward with localAddress := some "192.0.2.1" }

def clientOf (forwards : List ForwardRule) : Config :=
  { mode := .client, client := some { forwards } }

def webClient : Forwarding :=
  { config := clientOf [webForward]
    listeners := [⟨0, webForward⟩]
    forwardRules := [webForward]
    opened := 1
    level := .info }

theorem mistyped_address_consistent :
    ∃ fates, Consistent onlyLoopback [mistyped] webClient fates
      (reload onlyLoopback (clientOf [mistyped]) webClient).2 := by
  have created : createListeners onlyLoopback (clientOf [webForward]) = .ok webClient := by
    decide
  have accepted : (reload onlyLoopback (clientOf [mistyped]) webClient).1 =
      .ok ("192.0.2.1:8080: Cannot assign requested address; " ++
        "previous listener on 127.0.0.1:8080 restored") := by
    decide
  exact (reload_consistent (.started created)).2.1 _ accepted

/-- A server whose port stands in its old field, next to the same with the port in both. -/
theorem old_port_accepted :
    ¬∀ current next, checkReloadable current next = .ok () →
      fixedSettings current = fixedSettings next := by
  intro agree
  have same := agree { server := some { tcpPort := 4000 } }
    { tox := { tcpPort := 4000 }, server := some { tcpPort := 4000 } } (by decide)
  exact absurd same (by decide)

end Runs

end ToxTunnel.ForwardReload
