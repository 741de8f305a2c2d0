import ToxTunnel.AccessRules
import ToxTunnel.YamlReads

/-!
The parsing of a fetched list of bootstrap nodes. Every value in it is the list's: the
parsing ends as it should exactly when the entries it comes to have values it can convert,
and none that it takes has port 0.
-/

namespace ToxTunnel.NodeList
open AccessRules YamlTree
open RateLimits (Text text)

section Parsing
variable (scalars : Scalars Text)

structure BootstrapNode where
  ip : Text
  port : UInt16
  publicKey : List UInt8
  deriving DecidableEq

/-- A text under the name that is not empty. -/
def readHost (entry : Node Text) (name : Text) : Except Fault (Option Text) := do
  match ← entry.optional name scalars.text with
  | some host => pure (if host = [] then none else some host)
  | none => pure none

def readHosts (entry : Node Text) : Except Fault (Option Text) := do
  match ← readHost scalars entry (text "ipv4") with
  | some host => pure (some host)
  | none => readHost scalars entry (text "ipv6")

/-- The key is parsed before the port is converted. -/
def readEndpoint (entry : Node Text) (ip : Text) : Except Fault (Option BootstrapNode) := do
  match ← entry.lookup (text "port"), ← entry.lookup (text "public_key") with
  | some port, some key =>
      match parsePublicKey (← scalars.text key) with
      | .error _ => pure none
      | .ok publicKey => pure (some { ip, port := ← scalars.u16.as port, publicKey })
  | _, _ => pure none

/-- `none` is an entry that is passed over. -/
def readNode (entry : Node Text) : Except Fault (Option BootstrapNode) := do
  if entry.isMap = false then return none
  let statusUdp ← entry.fieldD (text "status_udp") scalars.bool.as false
  if statusUdp = false then return none
  match ← readHosts scalars entry with
  | none => return none
  | some ip => readEndpoint scalars entry ip

/-- The entries in their order, until there are as many nodes as were asked for. -/
def readNodes (maxNodes : Nat) (nodes : List BootstrapNode) :
    List (Node Text) → Except Fault (List BootstrapNode)
  | [] => .ok nodes
  | entry :: rest =>
      if nodes.length ≥ maxNodes then .ok nodes
      else match readNode scalars entry with
        | .error fault => .error fault
        | .ok none => readNodes maxNodes nodes rest
        | .ok (some node) => readNodes maxNodes (nodes ++ [node]) rest

/-- What is under "nodes", or the document itself. -/
def nodesNode (root : Node Text) : Except Fault (Node Text) :=
  if root.isMap then (fun found => found.getD root) <$> root.lookup (text "nodes") else .ok root

/-- The tree that the YAML parser made of the text, or what it threw. -/
def parseNodesJson (maxNodes : Nat) (loaded : Except String (Node Text)) :
    Except Fault (Except String (List BootstrapNode)) := do
  match loaded with
  | .error what => return .error ("failed to parse nodes JSON: " ++ what)
  | .ok root =>
      match ← nodesNode root with
      | .sequence entries =>
          let nodes ← readNodes scalars maxNodes [] entries
          if nodes = [] then
            return .error "nodes JSON did not contain any usable UDP nodes"
          return .ok nodes
      | _ => return .error "nodes JSON root must contain a nodes array"

end Parsing

section Entries
variable (scalars : Scalars Text)

def offersUdp (entry : Node Text) : Bool :=
  ((entry.child? (text "status_udp")).bind fun child => (scalars.bool.as child).toOption) =
    some true

def hostAt (entry : Node Text) (name : Text) : Option Text :=
  (scalars.said name entry).bind fun host => if host = [] then none else some host

def hostOf (entry : Node Text) : Option Text :=
  (hostAt scalars entry (text "ipv4")).or (hostAt scalars entry (text "ipv6"))

/-- A port other than 0. -/
def portOf (entry : Node Text) : Option UInt16 :=
  (entry.child? (text "port")).bind fun child =>
    (scalars.u16.as child).toOption.bind fun port => if port = 0 then none else some port

def keyOf (entry : Node Text) : Option (List UInt8) :=
  (scalars.said (text "public_key") entry).bind fun key => (parsePublicKey key).toOption

def usableEndpoint (entry : Node Text) (ip : Text) : Option BootstrapNode :=
  (portOf scalars entry).bind fun port =>
    (keyOf scalars entry).map fun publicKey => { ip, port, publicKey }

/-- The node of a well-formed entry. -/
def usableNode (entry : Node Text) : Option BootstrapNode :=
  if offersUdp scalars entry then (hostOf scalars entry).bind (usableEndpoint scalars entry)
  else none

def isPort (node : Node Text) : Bool :=
  (scalars.u16.as node).toOption.any fun port => port ≠ 0

/-- The second address is only looked at where the first one is of no use. -/
def harmlessHosts (entry : Node Text) : Bool :=
  entry.allBelow Node.isText (text "ipv4") &&
    ((hostAt scalars entry (text "ipv4")).isSome || entry.allBelow Node.isText (text "ipv6"))

/-- The port is only looked at where the key is one. -/
def harmlessEndpoint (entry : Node Text) : Bool :=
  (entry.child? (text "port")).isNone ||
    (entry.allBelow Node.isText (text "public_key") &&
      ((keyOf scalars entry).isNone || entry.allBelow (isPort scalars) (text "port")))

/-- What the parsing comes to in the entry is of the type it is converted to, and the port of
a node that is taken is not 0. -/
def harmless (entry : Node Text) : Bool :=
  entry.allBelow scalars.bool.reads (text "status_udp") &&
    (!offersUdp scalars entry ||
      (harmlessHosts scalars entry &&
        ((hostOf scalars entry).isNone || harmlessEndpoint scalars entry)))

variable {scalars} {entry : Node Text}

theorem readHost_eq_ok (map : entry.isMap = true) {name : Text} {result : Option Text} :
    readHost scalars entry name = .ok result ↔
      entry.allBelow Node.isText name = true ∧ hostAt scalars entry name = result := by
  simp only [readHost, bind_eq_ok, optional_text_eq_ok map, and_assoc, exists_and_left,
    exists_eq_left', hostAt]
  refine and_congr_right fun _ => ?_
  cases scalars.said name entry with
  | none => simp
  | some host => simp

theorem readHosts_eq_ok (map : entry.isMap = true) {result : Option Text} :
    readHosts scalars entry = .ok result ↔
      harmlessHosts scalars entry = true ∧ hostOf scalars entry = result := by
  simp only [readHosts, bind_eq_ok, readHost_eq_ok map, and_assoc, exists_and_left,
    exists_eq_left', harmlessHosts, hostOf, Bool.and_eq_true]
  refine and_congr_right fun _ => ?_
  cases hostAt scalars entry (text "ipv4") with
  | some host => simp
  | none => simp [readHost_eq_ok map]

/-- A conversion was thrown, or the port is 0. -/
def Harmful : Except Fault (Option BootstrapNode) → Prop
  | .error _ => True
  | .ok (some node) => node.port = 0
  | .ok none => False

theorem readEndpoint_outcome (map : entry.isMap = true) (ip : Text) :
    if harmlessEndpoint scalars entry = true then
      readEndpoint scalars entry ip = .ok (usableEndpoint scalars entry ip)
    else Harmful (readEndpoint scalars entry ip) := by
  simp only [readEndpoint, lookup_map map, usableEndpoint, harmlessEndpoint, portOf, keyOf,
    Scalars.said, Node.allBelow]
  cases entry.child? (text "port") with
  | none => simp [bind, Except.bind, pure, Except.pure]
  | some port =>
    cases entry.child? (text "public_key") with
    | none => simp [bind, Except.bind, pure, Except.pure]
    | some key =>
      have isText : (scalars.text key).isOk = key.isText := isOk_text key
      cases written : scalars.text key with
      | error fault =>
          rw [written] at isText
          simp [← isText, written, bind, Except.bind, Harmful, Except.isOk, Except.toBool]
      | ok hex =>
          rw [written] at isText
          cases parsed : parsePublicKey hex with
          | error why =>
              simp [← isText, parsed, written, bind, Except.bind, pure, Except.pure, Except.isOk,
                Except.toBool, Except.toOption]
          | ok publicKey =>
              cases read : scalars.u16.as port with
              | error fault =>
                  simp [parsed, written, read, isPort, bind, Except.bind, Harmful, Except.toOption]
              | ok value =>
                  by_cases zero : value = 0
                  · simp [parsed, written, read, zero, isPort, bind, Except.bind, pure,
                      Except.pure, Harmful, Except.toOption]
                  · simp [← isText, parsed, written, read, zero, isPort, bind, Except.bind, pure,
                      Except.pure, Except.isOk, Except.toBool, Except.toOption]

theorem not_map {node : Node Text} (other : node.isMap = false) :
    harmless scalars node = true ∧ usableNode scalars node = none := by
  simp [harmless, usableNode, offersUdp, Node.allBelow, child_not_map other]

theorem error_of_never_ok {Value : Type} {read : Except Fault Value}
    (never : ∀ value, read ≠ .ok value) : ∃ fault, read = .error fault := by
  cases read with
  | error fault => exact ⟨fault, rfl⟩
  | ok value => exact absurd rfl (never value)

theorem readUdp_outcome (map : entry.isMap = true) :
    if (harmlessHosts scalars entry &&
        ((hostOf scalars entry).isNone || harmlessEndpoint scalars entry)) = true then
      (readHosts scalars entry >>= fun
        | none => pure none
        | some ip => readEndpoint scalars entry ip) =
        .ok ((hostOf scalars entry).bind (usableEndpoint scalars entry))
    else Harmful (readHosts scalars entry >>= fun
        | none => pure none
        | some ip => readEndpoint scalars entry ip) := by
  by_cases hosts : harmlessHosts scalars entry = true
  · rw [(readHosts_eq_ok map).mpr ⟨hosts, rfl⟩]
    cases host : hostOf scalars entry with
    | none => simp [hosts, bind, Except.bind]
    | some ip => simpa [hosts, bind, Except.bind] using readEndpoint_outcome map ip
  · obtain ⟨fault, thrown⟩ : ∃ fault, readHosts scalars entry = .error fault :=
      error_of_never_ok fun _ read => hosts ((readHosts_eq_ok map).mp read).1
    simp [hosts, thrown, bind, Except.bind, Harmful]

theorem readNode_outcome (entry : Node Text) :
    if harmless scalars entry = true then
      readNode scalars entry = .ok (usableNode scalars entry)
    else Harmful (readNode scalars entry) := by
  by_cases map : entry.isMap = true
  · have udp (offered : Bool) :
        entry.fieldD (text "status_udp") scalars.bool.as false = .ok offered ↔ _ :=
      fieldD_eq_ok (isOk_as scalars.bool) map
    by_cases reads : entry.allBelow scalars.bool.reads (text "status_udp") = true
    · have read := (udp _).mpr ⟨reads, rfl⟩
      have offered : ((entry.child? (text "status_udp")).bind fun child =>
          (scalars.bool.as child).toOption).getD false = offersUdp scalars entry := by
        unfold offersUdp
        cases (entry.child? (text "status_udp")).bind fun child =>
          (scalars.bool.as child).toOption <;> simp
      rw [offered] at read
      simp only [readNode, map, harmless, usableNode, read, reads, Bool.true_and]
      cases offersUdp scalars entry with
      | false => simp [bind, Except.bind]
      | true => simpa [bind, Except.bind] using readUdp_outcome map
    · obtain ⟨fault, thrown⟩ := error_of_never_ok fun offered read => reads ((udp offered).mp read).1
      simp [readNode, map, thrown, harmless, reads, bind, Except.bind, Harmful]
  · have other := Bool.eq_false_of_not_eq_true map
    rw [if_pos (not_map other).1, (not_map other).2]
    simp [readNode, other]

end Entries

section Lists
variable {scalars : Scalars Text} {maxNodes : Nat}

/-- The entries that the parsing comes to: those up to the last node that is asked for. -/
def visited (scalars : Scalars Text) : Nat → List (Node Text) → List (Node Text)
  | 0, _ => []
  | _ + 1, [] => []
  | wanted + 1, entry :: rest =>
      entry :: visited scalars (if (usableNode scalars entry).isSome then wanted else wanted + 1)
        rest

theorem parsePublicKey_length {hex : Text} {bytes : List UInt8}
    (parsed : parsePublicKey hex = .ok bytes) : bytes.length = kPublicKeyBytes := by
  have size : hex.length = kPublicKeyHexLen := by
    unfold parsePublicKey at parsed
    split at parsed
    next => cases parsed
    next long => exact not_not.mp long
  have digits : (bytesToHex bytes).length = (uppered hex).length := by
    rw [bytesToHex_parsed parsed]
  have twice : (bytesToHex bytes).length = bytes.length * 2 := by
    simp [bytesToHex, List.length_flatMap]
  rw [twice, uppered, List.length_map, size] at digits
  exact Nat.eq_of_mul_eq_mul_right Nat.two_pos digits

theorem hostAt_filled {entry : Node Text} {name ip : Text}
    (found : hostAt scalars entry name = some ip) : ip ≠ [] := by
  obtain ⟨host, _, given⟩ := Option.bind_eq_some_iff.mp found
  split at given
  next => cases given
  next filled =>
    cases given
    exact filled

theorem usableNode_wellFormed {entry : Node Text} {node : BootstrapNode}
    (usable : usableNode scalars entry = some node) :
    node.ip ≠ [] ∧ node.port ≠ 0 ∧ node.publicKey.length = kPublicKeyBytes := by
  unfold usableNode at usable
  split at usable
  next =>
    obtain ⟨ip, host, rest⟩ := Option.bind_eq_some_iff.mp usable
    obtain ⟨port, given, rest⟩ := Option.bind_eq_some_iff.mp rest
    obtain ⟨publicKey, key, rfl⟩ := Option.map_eq_some_iff.mp rest
    refine ⟨?_, ?_, ?_⟩
    · rcases Option.or_eq_some_iff.mp host with found | ⟨_, found⟩
      · exact hostAt_filled found
      · exact hostAt_filled found
    · obtain ⟨child, _, read⟩ := Option.bind_eq_some_iff.mp given
      obtain ⟨value, _, kept⟩ := Option.bind_eq_some_iff.mp read
      split at kept
      next => cases kept
      next nonzero =>
        cases kept
        exact nonzero
    · obtain ⟨hex, _, read⟩ := Option.bind_eq_some_iff.mp key
      cases parsed : parsePublicKey hex with
      | error why => simp [parsed, Except.toOption] at read
      | ok bytes =>
          have same : bytes = publicKey := by simpa [parsed, Except.toOption] using read
          exact same ▸ parsePublicKey_length parsed
  next => cases usable

theorem readNodes_harmless {entries : List (Node Text)} {nodes : List BootstrapNode}
    {wanted : Nat} (room : nodes.length + wanted = maxNodes)
    (safe : ∀ entry ∈ visited scalars wanted entries, harmless scalars entry = true) :
    readNodes scalars maxNodes nodes entries =
      .ok (nodes ++ (entries.filterMap (usableNode scalars)).take wanted) := by
  induction entries generalizing nodes wanted with
  | nil => simp [readNodes]
  | cons entry rest ih =>
      cases wanted with
      | zero =>
          have full : nodes.length ≥ maxNodes := by omega
          simp [readNodes, full]
      | succ wanted =>
          have free : ¬nodes.length ≥ maxNodes := by omega
          have outcome := @readNode_outcome scalars entry
          rw [visited] at safe
          rw [if_pos (safe entry (.head _))] at outcome
          rw [readNodes, if_neg free, outcome, List.filterMap_cons]
          cases usable : usableNode scalars entry with
          | none =>
              simp only [usable, Option.isSome_none, Bool.false_eq_true, if_false] at safe
              exact ih room fun entry mem => safe entry (.tail _ mem)
          | some node =>
              simp only [usable, Option.isSome_some, if_true] at safe
              have fewer : (nodes ++ [node]).length + wanted = maxNodes := by
                rw [List.length_append, List.length_singleton]
                omega
              have later := ih fewer fun entry mem => safe entry (.tail _ mem)
              rw [List.append_assoc] at later
              exact later

theorem readNodes_keeps {entries : List (Node Text)} {nodes final : List BootstrapNode}
    (read : readNodes scalars maxNodes nodes entries = .ok final) : nodes <+: final := by
  induction entries generalizing nodes with
  | nil =>
      cases read
      exact List.prefix_rfl
  | cons entry rest ih =>
      rw [readNodes] at read
      split at read
      · cases read
        exact List.prefix_rfl
      · split at read
        · cases read
        · exact ih read
        · exact (List.prefix_append _ _).trans (ih read)

/-- One entry that is not harmless is enough for the parsing to throw or to take a node with
port 0. -/
theorem readNodes_harmed {entries : List (Node Text)} {nodes final : List BootstrapNode}
    {wanted : Nat} (room : nodes.length + wanted = maxNodes)
    (read : readNodes scalars maxNodes nodes entries = .ok final)
    (ports : ∀ node ∈ final, node.port ≠ 0) :
    ∀ entry ∈ visited scalars wanted entries, harmless scalars entry = true := by
  induction entries generalizing nodes wanted with
  | nil => cases wanted <;> simp [visited]
  | cons entry rest ih =>
      cases wanted with
      | zero => simp [visited]
      | succ wanted =>
          have free : ¬nodes.length ≥ maxNodes := by omega
          rw [readNodes, if_neg free] at read
          have outcome := @readNode_outcome scalars entry
          by_cases safe : harmless scalars entry = true
          · rw [if_pos safe] at outcome
            rw [outcome] at read
            rw [visited]
            intro other mem
            rcases List.mem_cons.mp mem with rfl | mem
            · exact safe
            · cases usable : usableNode scalars entry with
              | none =>
                  rw [usable] at read mem
                  exact ih room read other mem
              | some node =>
                  rw [usable] at read mem
                  have fewer : (nodes ++ [node]).length + wanted = maxNodes := by
                    rw [List.length_append, List.length_singleton]
                    omega
                  exact ih fewer read other mem
          · rw [if_neg safe] at outcome
            cases taken : readNode scalars entry with
            | error fault => simp [taken] at read
            | ok result =>
                rw [taken] at outcome read
                cases result with
                | none => exact outcome.elim
                | some node =>
                    have kept := (readNodes_keeps read).subset
                      (List.mem_append_right nodes (List.mem_singleton_self node))
                    exact absurd outcome (ports node kept)

end Lists

section Documents
variable {scalars : Scalars Text} {maxNodes : Nat}

/-- The array of nodes of a document that has one. -/
def listedEntries : Except String (Node Text) → Option (List (Node Text))
  | .error _ => none
  | .ok root =>
      match (root.child? (text "nodes")).getD root with
      | .sequence entries => some entries
      | _ => none

/-- An error or a list is returned; the list has no more nodes than were asked for, each with
an address, a port and a key; and it has the first usable nodes of the document. -/
def ParsesTotally (scalars : Scalars Text) (maxNodes : Nat)
    (loaded : Except String (Node Text)) : Prop :=
  ∃ result, parseNodesJson scalars maxNodes loaded = .ok result ∧
    (∀ nodes, result = .ok nodes → nodes.length ≤ maxNodes ∧
      ∀ node ∈ nodes, node.ip ≠ [] ∧ node.port ≠ 0 ∧ node.publicKey.length = kPublicKeyBytes) ∧
    ∀ entries, listedEntries loaded = some entries →
      result.toOption.getD [] = (entries.filterMap (usableNode scalars)).take maxNodes

theorem nodesNode_eq (root : Node Text) :
    nodesNode root = .ok ((root.child? (text "nodes")).getD root) := by
  cases root <;> rfl

theorem parse_listed {loaded : Except String (Node Text)} {entries : List (Node Text)}
    (listed : listedEntries loaded = some entries) :
    parseNodesJson scalars maxNodes loaded =
      (readNodes scalars maxNodes [] entries).map fun nodes =>
        if nodes = [] then .error "nodes JSON did not contain any usable UDP nodes"
        else .ok nodes := by
  cases loaded with
  | error what => cases listed
  | ok root =>
      simp only [listedEntries] at listed
      simp only [parseNodesJson, nodesNode_eq, bind, Except.bind]
      cases shape : (root.child? (text "nodes")).getD root with
      | sequence nodes =>
          rw [shape, Option.some.injEq] at listed
          subst listed
          cases read : readNodes scalars maxNodes [] nodes with
          | error fault => simp [read, Except.map]
          | ok taken =>
              by_cases empty : taken = []
              · simp [read, empty, Except.map]
              · simp [read, empty, Except.map]
      | _ => simp [shape] at listed

theorem parse_unlisted {loaded : Except String (Node Text)} (other : listedEntries loaded = none) :
    ∃ error, parseNodesJson scalars maxNodes loaded = .ok (.error error) := by
  cases loaded with
  | error what => exact ⟨_, rfl⟩
  | ok root =>
      simp only [listedEntries] at other
      simp only [parseNodesJson, nodesNode_eq, bind, Except.bind]
      cases shape : (root.child? (text "nodes")).getD root with
      | sequence nodes => simp [shape] at other
      | _ => exact ⟨_, rfl⟩

theorem parses_totally_iff (scalars : Scalars Text) (maxNodes : Nat)
    (loaded : Except String (Node Text)) :
    ParsesTotally scalars maxNodes loaded ↔
      ∀ entries, listedEntries loaded = some entries →
        ∀ entry ∈ visited scalars maxNodes entries, harmless scalars entry = true := by
  constructor
  · rintro ⟨result, parsed, sound, _⟩ entries listed
    rw [parse_listed listed] at parsed
    cases read : readNodes scalars maxNodes [] entries with
    | error fault => simp [read, Except.map] at parsed
    | ok nodes =>
        rw [read, Except.map, Except.ok.injEq] at parsed
        refine readNodes_harmed (Nat.zero_add _) read fun node mem => ?_
        have filled : nodes ≠ [] := List.ne_nil_of_mem mem
        rw [if_neg filled] at parsed
        exact ((sound nodes parsed.symm).2 node mem).2.1
  · intro safe
    cases listed : listedEntries loaded with
    | none =>
        obtain ⟨error, parsed⟩ := parse_unlisted listed
        refine ⟨_, parsed, fun nodes same => ?_, fun entries same => ?_⟩
        · cases same
        · rw [listed] at same
          cases same
    | some entries =>
        have read := @readNodes_harmless scalars maxNodes entries [] _ (Nat.zero_add _)
          (safe entries listed)
        have parsed := @parse_listed scalars maxNodes _ _ listed
        rw [read, List.nil_append, Except.map] at parsed
        refine ⟨_, parsed, fun nodes same => ?_, fun others same => ?_⟩
        · split at same
          next => cases same
          next =>
            cases same
            refine ⟨List.length_take_le _ _, fun node mem => ?_⟩
            obtain ⟨entry, _, usable⟩ := List.mem_filterMap.mp (List.mem_of_mem_take mem)
            exact usableNode_wellFormed usable
        · rw [listed, Option.some.injEq] at same
          subst same
          split
          next empty => simpa [Except.toOption] using empty.symm
          next => rfl

/-- A good entry, and one whose "status_udp" is a number. -/
def numberForBool : Node Text :=
  fields
    [always (text "nodes") (.sequence
      [fields
        [always (text "ipv4") (.scalar (text "192.0.2.1")),
          always (text "port") (.scalar (text "33445")),
          always (text "public_key") (.scalar (List.replicate 64 65)),
          always (text "status_udp") (.scalar (text "true"))],
        fields [always (text "status_udp") (.scalar (text "1"))]])]

/-- The good entry is lost with the other one: the conversion is thrown. -/
theorem number_for_bool_thrown :
    parseNodesJson byteScalars 8 (.ok numberForBool) = .error .badConversion ∧
      ¬ParsesTotally byteScalars 8 (.ok numberForBool) := by
  have thrown : parseNodesJson byteScalars 8 (.ok numberForBool) = .error .badConversion := by rfl
  refine ⟨thrown, fun ⟨result, parsed, _⟩ => ?_⟩
  rw [thrown] at parsed
  cases parsed

end Documents

end ToxTunnel.NodeList
