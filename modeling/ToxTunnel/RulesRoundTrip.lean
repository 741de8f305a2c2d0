import ToxTunnel.AccessRules
import ToxTunnel.YamlTree

/-!
What saved rules are when they are loaded again: the rules come back with their keys, allow
and deny targets, and without their rate limits; the defaults of the limits do not come back.
-/

namespace ToxTunnel.RulesRoundTrip
open GlobLanguage RateLimits AccessRules YamlTree

section Tree
variable (scalars : Scalars Text)

/-- A conversion whose faults are reported by one text. -/
def reported {Value : Type} (read : Node Text → Except Fault Value) (node : Node Text) :
    Except String Value :=
  (read node).mapError fun _ => "bad conversion"

/-- The library over trees. The items of a map are no nodes of its own; a conversion of one
fails, as one of null does. -/
def treeYaml : Yaml (Node Text) where
  isSequence := Node.isSequence
  isMap := Node.isMap
  lookup node key := (node.lookup (text key)).toOption.join
  elements
    | .sequence items => items
    | .map entries => entries.map fun _ => .null
    | _ => []
  mark _ := none
  asText := reported scalars.text
  asUInt16 := reported scalars.u16.as
  asUInt32 := reported scalars.u32.as
  asUInt64 := reported scalars.u64.as
  badConversion _ := "bad conversion"

def encodeTarget (target : TargetSpec) : Node Text :=
  fields
    [always (text "host") (.scalar target.host),
      whenever (target.ports ≠ []) (text "ports")
        (.sequence (target.ports.map scalars.u16.encode))]

def encodeRule (rule : FriendRule) : Node Text :=
  fields
    [always (text "friend") (.scalar rule.friendPk),
      whenever (rule.allow ≠ []) (text "allow")
        (.sequence (rule.allow.map (encodeTarget scalars))),
      whenever (rule.deny ≠ []) (text "deny") (.sequence (rule.deny.map (encodeTarget scalars)))]

/-- The document that `to_yaml` emits. -/
def toYaml (engine : RulesEngine) : Node Text :=
  .sequence (engine.rules.map (encodeRule scalars))

end Tree

section Written
variable {scalars : Scalars Text}

@[simp] theorem tree_lookup (entries : List (Text × Option (Node Text))) (key : String) :
    (treeYaml scalars).lookup (fields entries) key = find (text key) (written entries) := rfl

theorem asVector_written {Value : Type} {read : Node Text → Except String Value}
    {write : Value → Node Text} (faithful : ∀ value, read (write value) = .ok value)
    (values : List Value) :
    asVector (treeYaml scalars) read (.sequence (values.map write)) = .ok values :=
  mapM_written faithful values

variable (scalars) in
theorem optionalKey_written {Value : Type} {read : Node Text → Except String Value}
    {write : Value → Node Text} (faithful : ∀ value, read (write value) = .ok value)
    (values : List Value) (node : Node Text) (key : String) [Decidable (values ≠ [])]
    (found : (treeYaml scalars).lookup node key =
      if values ≠ [] then some (.sequence (values.map write)) else none) :
    ∃ listed, optionalKey (treeYaml scalars) (asVector (treeYaml scalars) read) node key =
      .ok listed ∧ listed.getD [] = values := by
  unfold optionalKey
  rw [found]
  by_cases filled : values ≠ []
  · refine ⟨some values, ?_, rfl⟩
    simp only [if_pos filled, asVector_written faithful values]
    rfl
  · exact ⟨none, by rw [if_neg filled], (not_not.mp filled).symm⟩

theorem port_written (port : UInt16) :
    (treeYaml scalars).asUInt16 (scalars.u16.encode port) = .ok port := by
  simp [treeYaml, reported, Except.mapError]

theorem target_written (target : TargetSpec) :
    asTargetSpec (treeYaml scalars) (encodeTarget scalars target) = .ok target := by
  have shape : (treeYaml scalars).isMap (encodeTarget scalars target) = true := rfl
  have host : (treeYaml scalars).lookup (encodeTarget scalars target) "host" =
      some (.scalar target.host) := by
    simp [encodeTarget, always]
  have name : (treeYaml scalars).asText (.scalar target.host) = .ok target.host := rfl
  have apart : text "host" ≠ text "ports" := by decide
  obtain ⟨ports, read, same⟩ :=
    optionalKey_written scalars (@port_written scalars) target.ports (encodeTarget scalars target)
      "ports"
      (by simp [encodeTarget, always, whenever, apart])
  simp [asTargetSpec, shape, host, name, read, same, bind, Except.bind, pure, Except.pure]

theorem rule_written (rule : FriendRule) :
    asFriendRule (treeYaml scalars) (encodeRule scalars rule) =
      .ok { rule with rateLimit := {} } := by
  have shape : (treeYaml scalars).isMap (encodeRule scalars rule) = true := rfl
  have key : (treeYaml scalars).lookup (encodeRule scalars rule) "friend" =
      some (.scalar rule.friendPk) := by
    simp [encodeRule, always]
  have name : (treeYaml scalars).asText (.scalar rule.friendPk) = .ok rule.friendPk := rfl
  have friendAllow : text "friend" ≠ text "allow" := by decide
  have friendDeny : text "friend" ≠ text "deny" := by decide
  have allowDeny : text "allow" ≠ text "deny" := by decide
  obtain ⟨allow, readAllow, sameAllow⟩ :=
    optionalKey_written scalars (@target_written scalars) rule.allow (encodeRule scalars rule) "allow"
      (by simp [encodeRule, always, whenever, friendAllow, allowDeny.symm])
  obtain ⟨deny, readDeny, sameDeny⟩ :=
    optionalKey_written scalars (@target_written scalars) rule.deny (encodeRule scalars rule) "deny"
      (by simp [encodeRule, always, whenever, friendDeny, allowDeny])
  have limit : optionalKey (treeYaml scalars) (asRateLimitOverride (treeYaml scalars))
      (encodeRule scalars rule) "rate_limit" = .ok none := by
    have friend : text "friend" ≠ text "rate_limit" := by decide
    have allow : text "allow" ≠ text "rate_limit" := by decide
    have deny : text "deny" ≠ text "rate_limit" := by decide
    simp [optionalKey, encodeRule, always, whenever, friend, allow, deny]
  simp [asFriendRule, shape, key, name, readAllow, readDeny, sameAllow, sameDeny, limit, bind,
    Except.bind, pure, Except.pure]

theorem parsePublicKey_uppered (hex : Text) :
    parsePublicKey (uppered hex) = parsePublicKey hex := by
  have length : (uppered hex).length = hex.length := List.length_map _
  simp only [parsePublicKey, hexToBytes, length, hexPairs_uppered]

/-- What the loader checked of a rule holds of it. -/
structure Checked (rule : FriendRule) : Prop where
  length : rule.friendPk.length = kPublicKeyHexLen
  key : ∃ bytes, parsePublicKey rule.friendPk = .ok bytes ∧ bytesToHex bytes = rule.friendPk
  allow : (rule.allow.any fun target => target.ports.contains 0) = false
  deny : (rule.deny.any fun target => target.ports.contains 0) = false

theorem loadRule_checked {node : Node Text} {rule : FriendRule}
    (loaded : loadRule (treeYaml scalars) node = .ok rule) : Checked rule := by
  unfold loadRule at loaded
  split at loaded
  · cases loaded
  next written _ =>
    split at loaded
    · cases loaded
    next length =>
      split at loaded
      · cases loaded
      next bytes parsed =>
        split at loaded
        · cases loaded
        next allow =>
          split at loaded
          · cases loaded
          next deny =>
            cases loaded
            have upper := bytesToHex_parsed parsed
            constructor
            · simpa [upper, uppered] using length
            · refine ⟨bytes, ?_, rfl⟩
              simpa only [upper, parsePublicKey_uppered] using parsed
            · simpa using allow
            · simpa using deny

theorem rule_reloaded {rule : FriendRule} (checked : Checked rule) :
    loadRule (treeYaml scalars) (encodeRule scalars rule) = .ok { rule with rateLimit := {} } := by
  obtain ⟨bytes, parsed, same⟩ := checked.key
  simp only [loadRule, rule_written, checked.length, parsed, same, checked.allow, checked.deny,
    ne_eq, not_true_eq_false, if_false, Bool.false_eq_true]

end Written

section Documents
variable {scalars : Scalars Text}

theorem loadRules_checked {nodes : List (Node Text)} {rules : List FriendRule}
    (loaded : nodes.mapM (loadRule (treeYaml scalars)) = .ok rules) :
    ∀ rule ∈ rules, Checked rule := by
  induction nodes generalizing rules with
  | nil =>
      cases loaded
      simp
  | cons node rest ih =>
      rw [List.mapM_cons] at loaded
      obtain ⟨first, readFirst, loaded⟩ := bind_ok loaded
      obtain ⟨others, readOthers, loaded⟩ := bind_ok loaded
      cases loaded
      intro rule mem
      rcases List.mem_cons.mp mem with rfl | mem
      · exact loadRule_checked readFirst
      · exact ih readOthers rule mem

theorem fromNode_checked {node : Node Text} {engine : RulesEngine}
    (loaded : fromNode (treeYaml scalars) node = .ok engine) :
    ∀ rule ∈ engine.rules, Checked rule := by
  obtain ⟨defaults, _, loaded⟩ := bind_ok loaded
  split at loaded
  · cases loaded
    simp
  next nodes _ =>
    obtain ⟨rules, read, loaded⟩ := bind_ok loaded
    cases loaded
    exact loadRules_checked read

def limitless (rule : FriendRule) : FriendRule := { rule with rateLimit := {} }

theorem loadRules_reloaded {rules : List FriendRule} (checked : ∀ rule ∈ rules, Checked rule) :
    (rules.map (encodeRule scalars)).mapM (loadRule (treeYaml scalars)) =
      .ok (rules.map limitless) := by
  induction rules with
  | nil => rfl
  | cons rule rest ih =>
      have others := ih fun rule mem => checked rule (.tail _ mem)
      simp only [List.map_cons, List.mapM_cons, rule_reloaded (checked rule (.head _)), others]
      rfl

theorem toYaml_reloaded {engine : RulesEngine} (checked : ∀ rule ∈ engine.rules, Checked rule) :
    fromNode (treeYaml scalars) (toYaml scalars engine) =
      .ok { rules := engine.rules.map limitless } := by
  have defaults : documentDefaults (treeYaml scalars) (toYaml scalars engine) = .ok {} := rfl
  have nodes : ruleNodes (treeYaml scalars) (toYaml scalars engine) =
      some (engine.rules.map (encodeRule scalars)) := rfl
  simp only [fromNode, defaults, nodes, loadRules_reloaded checked]
  rfl

/-- No rule and no default sets a limit. -/
def Unlimited (engine : RulesEngine) : Prop :=
  (∀ rule ∈ engine.rules, rule.rateLimit = {}) ∧ engine.rateLimitDefaults = {}

theorem limitless_eq_iff (rules : List FriendRule) :
    rules.map limitless = rules ↔ ∀ rule ∈ rules, rule.rateLimit = {} := by
  constructor
  · intro same rule mem
    rw [← same] at mem
    obtain ⟨written, _, rfl⟩ := List.mem_map.mp mem
    rfl
  · intro free
    have each : ∀ rule ∈ rules, limitless rule = id rule := by
      intro rule mem
      rw [limitless, ← free rule mem]
      rfl
    rw [List.map_congr_left each, List.map_id]

theorem rules_round_trip_iff {node : Node Text} {engine : RulesEngine}
    (loaded : fromNode (treeYaml scalars) node = .ok engine) :
    fromNode (treeYaml scalars) (toYaml scalars engine) = .ok engine ↔ Unlimited engine := by
  obtain ⟨rules, defaults⟩ := engine
  rw [toYaml_reloaded (fromNode_checked loaded), Except.ok.injEq, RulesEngine.mk.injEq,
    limitless_eq_iff, eq_comm (a := ({} : RateLimitSpec))]
  rfl

/-- A friend that may reach one port, and no other host. -/
def onePort : Node Text :=
  .sequence
    [fields
      [always (text "friend")
          (.scalar (text "aaaaaaaaaaaaaaaaaaaaaaaaaaaaaaaaaaaaaaaaaaaaaaaaaaaaaaaaaaaaaaaa")),
        always (text "allow") (.sequence
          [fields
            [always (text "host") (.scalar (text "10.0.0.1")),
              always (text "ports") (.sequence [.scalar (text "22")])]])]]

def onePortEngine : RulesEngine :=
  { rules :=
      [{ friendPk := text "AAAAAAAAAAAAAAAAAAAAAAAAAAAAAAAAAAAAAAAAAAAAAAAAAAAAAAAAAAAAAAAA"
         allow := [{ host := text "10.0.0.1", ports := [22] }] }] }

theorem one_port_round_trip :
    fromNode (treeYaml byteScalars) (toYaml byteScalars onePortEngine) = .ok onePortEngine := by
  have loaded : fromNode (treeYaml byteScalars) onePort = .ok onePortEngine := by rfl
  apply (rules_round_trip_iff loaded).mpr
  constructor
  · intro rule mem
    cases List.mem_singleton.mp mem
    rfl
  · rfl

/-- A limit for one friend. -/
def limited : Node Text :=
  .sequence
    [fields
      [always (text "friend")
          (.scalar (text "AAAAAAAAAAAAAAAAAAAAAAAAAAAAAAAAAAAAAAAAAAAAAAAAAAAAAAAAAAAAAAAA")),
        always (text "rate_limit") (fields [always (text "open_burst") (.scalar (text "5"))])]]

theorem limit_lost :
    ¬∀ (scalars : Scalars Text) (node : Node Text) (engine : RulesEngine),
      fromNode (treeYaml scalars) node = .ok engine →
        fromNode (treeYaml scalars) (toYaml scalars engine) = .ok engine := by
  intro kept
  have loaded : fromNode (treeYaml byteScalars) limited = .ok
      { rules :=
          [{ friendPk := text "AAAAAAAAAAAAAAAAAAAAAAAAAAAAAAAAAAAAAAAAAAAAAAAAAAAAAAAAAAAAAAAA"
             rateLimit := { openBurst := some 5 } }] } := by rfl
  have same := kept byteScalars _ _ loaded
  rw [toYaml_reloaded (fromNode_checked loaded), Except.ok.injEq, RulesEngine.mk.injEq] at same
  exact absurd same.1 (by decide)

end Documents

end ToxTunnel.RulesRoundTrip
