import ToxTunnel.GlobLanguage
import ToxTunnel.RateLimits

/-!
`RulesEngine`: the matching of host patterns, the evaluation of a request
against the rules of a friend, and the loader that builds the rules from a YAML
document. The YAML library is a parameter.
-/

namespace ToxTunnel.AccessRules
open GlobLanguage RateLimits

section Hosts

/-- '*' -/
def star : UInt8 := 42

def lowered (host : Text) : Text := host.map tolower

def hostMatches (host pattern : Text) : Bool :=
  if pattern = [] then false
  else if pattern = [star] then true
  else
    let hostLower := lowered host
    let patternLower := lowered pattern
    if patternLower = hostLower then true
    else if star ∈ patternLower then
      let wildcardPos := patternLower.idxOf star
      let front := patternLower.take wildcardPos
      let suffix := patternLower.drop (wildcardPos + 1)
      if front ≠ [] ∧ (hostLower.length < front.length ∨
          hostLower.take front.length ≠ front) then false
      else if suffix ≠ [] ∧ (hostLower.length < suffix.length ∨
          hostLower.drop (hostLower.length - suffix.length) ≠ suffix) then false
      else true
    else false

theorem splitsAt_idxOf {pattern : Text} (starred : star ∈ pattern) :
    SplitsAt star pattern (pattern.take (pattern.idxOf star))
      (pattern.drop (pattern.idxOf star + 1)) := by
  have inside := List.idxOf_lt_length_of_mem starred
  constructor
  · have cut := List.take_append_drop (pattern.idxOf star) pattern
    rw [List.drop_eq_getElem_cons inside, List.getElem_idxOf inside] at cut
    exact cut.symm
  · intro early
    exact lt_irrefl _ ((List.mem_take_iff_idxOf_lt starred).mp early)

theorem front_check (host front : Text) :
    ¬ (front ≠ [] ∧ (host.length < front.length ∨ host.take front.length ≠ front)) ↔
      front <+: host := by
  rw [List.prefix_iff_eq_take]
  constructor
  · intro passed
    by_cases none : front = []
    · simp [none]
    · by_contra differ
      exact passed ⟨none, .inr (Ne.symm differ)⟩
  · rintro same ⟨_, short | differ⟩
    · have := congrArg List.length same
      simp only [List.length_take] at this
      omega
    · exact differ same.symm

theorem suffix_check (host suffix : Text) :
    ¬ (suffix ≠ [] ∧ (host.length < suffix.length ∨
      host.drop (host.length - suffix.length) ≠ suffix)) ↔ suffix <:+ host := by
  rw [List.suffix_iff_eq_drop]
  constructor
  · intro passed
    by_cases none : suffix = []
    · simp [none]
    · by_contra differ
      exact passed ⟨none, .inr (Ne.symm differ)⟩
  · rintro same ⟨_, short | differ⟩
    · have := congrArg List.length same
      simp only [List.length_drop] at this
      omega
    · exact differ same.symm

@[simp] theorem lowered_star : lowered [star] = [star] := by decide

theorem hostMatches_literal {host pattern : Text} (nonempty : pattern ≠ [])
    (literal : star ∉ lowered pattern) :
    hostMatches host pattern = true ↔ lowered host = lowered pattern := by
  have plain : pattern ≠ [star] := by
    rintro rfl
    exact literal (by simp)
  simp [hostMatches, nonempty, plain, literal, eq_comm]

/-- With a '*' the text before the first one has to begin the host, and all the
text behind it, further stars included, to end it. -/
theorem hostMatches_starred {host pattern front rest : Text}
    (split : SplitsAt star (lowered pattern) front rest) :
    hostMatches host pattern = true ↔ front <+: lowered host ∧ rest <:+ lowered host := by
  have starred : star ∈ lowered pattern := by simp [split.shape]
  have nonempty : pattern ≠ [] := by
    rintro rfl
    simp [lowered] at starred
  obtain ⟨rfl, rfl⟩ := split.unique (splitsAt_idxOf starred)
  unfold hostMatches
  rw [if_neg nonempty]
  by_cases bare : pattern = [star]
  · subst bare
    simp
  rw [if_neg bare]
  dsimp only
  by_cases same : lowered pattern = lowered host
  · rw [if_pos same, ← same]
    simp only [true_iff]
    exact ⟨List.take_prefix _ _, List.drop_suffix _ _⟩
  rw [if_neg same, if_pos starred, ← front_check, ← suffix_check]
  split
  · simp_all
  · split <;> simp_all

/-- The claim of a host pattern: the language of the pattern, case apart. -/
def InLanguage (host pattern : Text) : Prop := Glob star (lowered pattern) (lowered host)

instance (host pattern : Text) : Decidable (InLanguage host pattern) :=
  inferInstanceAs (Decidable (Glob _ _ _))

/-- The text before the first star and the text behind it do not share letters
of the host, and a second star does not let in a host that does not end with the
text behind the first one, that star included. -/
def Faithful (host pattern : Text) : Prop :=
  ∀ front rest, SplitsAt star (lowered pattern) front rest →
    ¬ Overlapped front rest (lowered host) ∧
      (star ∈ rest → InLanguage host pattern → rest <:+ lowered host)

/-- At most one star, and no end of the text before it begins the text behind it. -/
def SingleStar (pattern : Text) : Prop :=
  ∀ front rest, SplitsAt star (lowered pattern) front rest →
    star ∉ rest ∧
      ∀ before shared after, front = before ++ shared → rest = shared ++ after → shared = []

theorem lowered_of_lower {word : Text} (lower : ∀ char ∈ word, tolower char = char) :
    lowered word = word := by
  simpa [lowered] using List.map_congr_left lower

/-- What holds of the 256 bytes, one after another, holds of any byte. -/
theorem byte_forall {holds : UInt8 → Prop}
    (all : ∀ number : Fin 256, holds (UInt8.ofNat number)) (byte : UInt8) : holds byte := by
  have same : UInt8.ofNat byte.toNat = byte := UInt8.ofNat_toNat
  exact same ▸ all ⟨byte.toNat, byte.toNat_lt⟩

theorem tolower_tolower (char : UInt8) : tolower (tolower char) = tolower char := by
  revert char
  exact byte_forall (by decide +kernel)

theorem lower_of_mem_lowered {pattern : Text} :
    ∀ char ∈ lowered pattern, tolower char = char := by
  intro char inside
  obtain ⟨letter, _, rfl⟩ := List.mem_map.mp inside
  exact tolower_tolower letter

theorem hostMatches_faithful {host pattern : Text} (nonempty : pattern ≠ []) :
    (hostMatches host pattern = true ↔ InLanguage host pattern) ↔ Faithful host pattern := by
  by_cases starred : star ∈ lowered pattern
  · have split := splitsAt_idxOf starred
    generalize (lowered pattern).take _ = front at split
    generalize (lowered pattern).drop _ = rest at split
    have only : Faithful host pattern ↔ ¬ Overlapped front rest (lowered host) ∧
        (star ∈ rest → InLanguage host pattern → rest <:+ lowered host) := by
      constructor
      · intro faithful
        exact faithful front rest split
      · rintro safe front' rest' split'
        obtain ⟨rfl, rfl⟩ := split.unique split'
        exact safe
    rw [only, hostMatches_starred split]
    constructor
    · intro agree
      constructor
      · intro overlapped
        apply split.not_glob_of_overlapped overlapped
        apply agree.mp
        obtain ⟨before, shared, after, _, rfl, rfl, same⟩ := overlapped
        rw [same]
        exact ⟨List.prefix_append _ after, by simp⟩
      · intro _ found
        exact (agree.mpr found).2
    · rintro ⟨apart, ends⟩
      constructor
      · rintro ⟨begins, closes⟩
        rcases overlapped_or_apart begins closes with overlapped | ⟨skipped, same⟩
        · exact absurd overlapped apart
        · exact (split.glob _).mpr ⟨skipped, rest, same, glob_self rest⟩
      · intro found
        obtain ⟨skipped, tail, same, later⟩ := (split.glob _).mp found
        refine ⟨⟨_, same.symm⟩, ?_⟩
        by_cases more : star ∈ rest
        · exact ends more found
        · rw [glob_literal more] at later
          subst later
          exact ⟨front ++ skipped, by rw [same, List.append_assoc]⟩
  · rw [hostMatches_literal nonempty starred, InLanguage, glob_literal starred]
    simp only [true_iff]
    intro front rest split
    exact absurd (by simp [split.shape]) starred

/-- Exactly which hosts of a pattern are matched as the pattern's language says,
and exactly which patterns say so for every host. -/
theorem hostMatches_glob_iff (pattern : Text) (nonempty : pattern ≠ []) :
    (∀ host, (hostMatches host pattern = true ↔ InLanguage host pattern) ↔
      Faithful host pattern) ∧
    ((∀ host, hostMatches host pattern = true ↔ InLanguage host pattern) ↔
      SingleStar pattern) := by
  refine ⟨fun host => hostMatches_faithful nonempty, ?_⟩
  constructor
  · intro agree front rest split
    have faithful := fun host => (hostMatches_faithful nonempty).mp (agree host) front rest split
    have lower : ∀ char ∈ front ++ star :: rest, tolower char = char := by
      rw [← split.shape]
      exact lower_of_mem_lowered
    constructor
    · intro more
      -- The host without any star: every star stands for nothing.
      have bare : lowered ((lowered pattern).filter (· ≠ star)) =
          (lowered pattern).filter (· ≠ star) :=
        lowered_of_lower fun char inside => lower_of_mem_lowered char (List.mem_of_mem_filter inside)
      have found : InLanguage ((lowered pattern).filter (· ≠ star)) pattern := by
        rw [InLanguage, bare]
        exact glob_stripped _
      have ends := (faithful _).2 more found
      rw [bare] at ends
      simpa using List.of_mem_filter (ends.subset more)
    · intro before shared after begins follows
      by_contra some
      subst begins follows
      have whole : lowered (before ++ shared ++ after) = before ++ shared ++ after := by
        apply lowered_of_lower
        intro char inside
        apply lower
        simp only [List.mem_append, List.mem_cons] at inside ⊢
        tauto
      exact (faithful (before ++ shared ++ after)).1
        ⟨before, shared, after, some, rfl, rfl, whole⟩
  · intro single host
    apply (hostMatches_faithful nonempty).mpr
    intro front rest split
    obtain ⟨last, alone⟩ := single front rest split
    constructor
    · rintro ⟨before, shared, after, some, begins, follows, _⟩
      exact some (alone before shared after begins follows)
    · intro more
      exact absurd more last

theorem hostMatches_glob_iff_example :
    (hostMatches (text "Sub.Example.com") (text "*.example.COM") = true ↔
      InLanguage (text "Sub.Example.com") (text "*.example.COM")) ↔
        Faithful (text "Sub.Example.com") (text "*.example.COM") :=
  (hostMatches_glob_iff (text "*.example.COM") (by decide)).1 _

/-- The host that the source's own comment lists is not matched, and a host too
short for both ends of its pattern is. -/
theorem hostMatches_not_glob :
    (hostMatches (text "192.168.1.100") (text "192.168.*.*") = false ∧
      InLanguage (text "192.168.1.100") (text "192.168.*.*")) ∧
    hostMatches (text "aba") (text "ab*ba") = true ∧ ¬ InLanguage (text "aba") (text "ab*ba") := by
  decide

end Hosts

section Keys

def kPublicKeyBytes : Nat := 32
def kPublicKeyHexLen : Nat := kPublicKeyBytes * 2

/-- The byte itself outside of 'a'..'z', as in the "C" locale. -/
def toupper (char : UInt8) : UInt8 := if 97 ≤ char ∧ char ≤ 122 then char - 32 else char

def uppered (key : Text) : Text := key.map toupper

/-- `none` stands for -1. -/
def hexCharValue (char : UInt8) : Option UInt8 :=
  if 48 ≤ char ∧ char ≤ 57 then some (char - 48)
  else if 97 ≤ char ∧ char ≤ 102 then some (10 + (char - 97))
  else if 65 ≤ char ∧ char ≤ 70 then some (10 + (char - 65))
  else none

/-- The digits "0123456789ABCDEF". -/
def hexDigit (value : UInt8) : UInt8 := if value < 10 then 48 + value else 65 + (value - 10)

def bytesToHex (bytes : List UInt8) : Text :=
  bytes.flatMap fun (byte : UInt8) => [hexDigit ((byte >>> 4) &&& 0x0F), hexDigit (byte &&& 0x0F)]

/-- The pairs of digits, from the first one on. -/
def hexPairs : Text → Option (List UInt8)
  | high :: low :: rest => do
      let high ← hexCharValue high
      let low ← hexCharValue low
      return ((high <<< 4) ||| low) :: (← hexPairs rest)
  | _ => some []

def hexToBytes (hex : Text) (outLen : Nat) : Option (List UInt8) :=
  if hex.length ≠ outLen * 2 then none else hexPairs hex

def parsePublicKey (hex : Text) : Except String (List UInt8) :=
  if hex.length ≠ kPublicKeyHexLen then
    .error ("public key hex must be exactly " ++ toString kPublicKeyHexLen ++
      " characters, got " ++ toString hex.length)
  else match hexToBytes hex kPublicKeyBytes with
    | none => .error "public key contains invalid hex characters"
    | some bytes => .ok bytes

theorem hexCharValue_digit {char value : UInt8} (found : hexCharValue char = some value) :
    value.toNat < 16 ∧ hexDigit value = toupper char := by
  have all : ∀ char, (hexCharValue char).all (fun value =>
      value.toNat < 16 && hexDigit value == toupper char) = true :=
    byte_forall (by decide +kernel)
  have digit := all char
  rw [found] at digit
  simpa using digit

theorem hexCharValue_toupper (char : UInt8) : hexCharValue (toupper char) = hexCharValue char := by
  revert char
  exact byte_forall (by decide +kernel)

theorem hexPairs_uppered (hex : Text) : hexPairs (uppered hex) = hexPairs hex := by
  induction hex using hexPairs.induct with
  | case1 high low rest ih =>
      simp only [uppered, List.map_cons, hexPairs, hexCharValue_toupper] at ih ⊢
      rw [ih]
  | case2 hex short =>
      match hex with
      | [] | [_] => rfl
      | first :: second :: rest => exact absurd rfl (short first second rest)

theorem nibbles {high low : UInt8} (high_small : high.toNat < 16) (low_small : low.toNat < 16) :
    (((high <<< 4) ||| low) >>> 4) &&& 0x0F = high ∧ ((high <<< 4) ||| low) &&& 0x0F = low := by
  have all : ∀ one other : Fin 16,
      (((UInt8.ofNat one <<< 4) ||| UInt8.ofNat other) >>> 4) &&& 0x0F = UInt8.ofNat one ∧
        ((UInt8.ofNat one <<< 4) ||| UInt8.ofNat other) &&& 0x0F = UInt8.ofNat other := by
    decide
  have both := all ⟨high.toNat, high_small⟩ ⟨low.toNat, low_small⟩
  simpa using both

theorem hexPairs_written {hex : Text} {bytes : List UInt8} (even : 2 ∣ hex.length)
    (read : hexPairs hex = some bytes) : bytesToHex bytes = uppered hex := by
  induction hex using hexPairs.induct generalizing bytes with
  | case1 high low rest ih =>
      simp only [hexPairs, Option.bind_eq_bind, Option.bind_eq_some_iff, Option.pure_def,
        Option.some.injEq] at read
      obtain ⟨one, one_is, other, other_is, tail, tail_is, rfl⟩ := read
      have high_digit := hexCharValue_digit one_is
      have low_digit := hexCharValue_digit other_is
      have halves := nibbles high_digit.1 low_digit.1
      have shorter : 2 ∣ rest.length := by
        simp only [List.length_cons] at even
        omega
      have rest_is := ih shorter tail_is
      simp only [bytesToHex, uppered, List.flatMap_cons, List.map_cons, halves.1, halves.2,
        high_digit.2, low_digit.2, List.cons_append, List.nil_append] at rest_is ⊢
      rw [rest_is]
  | case2 hex short =>
      cases hex with
      | nil =>
          cases read
          rfl
      | cons first rest =>
          cases rest with
          | nil => simp at even
          | cons second more => exact absurd rfl (short first second more)

theorem bytesToHex_parsed {hex : Text} {bytes : List UInt8}
    (parsed : parsePublicKey hex = .ok bytes) : bytesToHex bytes = uppered hex := by
  unfold parsePublicKey at parsed
  split at parsed
  · cases parsed
  · rename_i long
    have long : hex.length = kPublicKeyHexLen := not_not.mp long
    split at parsed
    · cases parsed
    · rename_i found
      cases parsed
      unfold hexToBytes at found
      split at found
      · cases found
      · exact hexPairs_written (by rw [long]; decide) found

theorem toupper_toupper (char : UInt8) : toupper (toupper char) = toupper char := by
  revert char
  exact byte_forall (by decide +kernel)

@[simp] theorem uppered_uppered (key : Text) : uppered (uppered key) = uppered key := by
  simp [uppered, Function.comp_def, toupper_toupper]

end Keys

section Rules

structure TargetSpec where
  host : Text
  ports : List UInt16 := []
  deriving DecidableEq

structure FriendRule where
  friendPk : Text
  allow : List TargetSpec := []
  deny : List TargetSpec := []
  rateLimit : RateLimitOverride := {}
  deriving DecidableEq

/-- The source address and port of a request are not judged. -/
structure AccessRequest where
  friendPk : Text
  targetHost : Text
  targetPort : UInt16
  deriving DecidableEq

inductive AccessResult where
  | allowed | denied | default
  deriving DecidableEq

structure RulesEngine where
  rules : List FriendRule := []
  rateLimitDefaults : RateLimitSpec := {}

def portAllowed (port : UInt16) (allowedPorts : List UInt16) : Bool :=
  allowedPorts.isEmpty || allowedPorts.contains port

def targetMatches (request : AccessRequest) (spec : TargetSpec) : Bool :=
  hostMatches request.targetHost spec.host && portAllowed request.targetPort spec.ports

def findFriendRule (engine : RulesEngine) (friendPk : Text) : Option FriendRule :=
  engine.rules.find? fun rule => rule.friendPk == uppered friendPk

def evaluate (engine : RulesEngine) (request : AccessRequest) : AccessResult :=
  match findFriendRule engine request.friendPk with
  | none => .default
  | some rule =>
      if rule.deny.any (targetMatches request) then .denied
      else if rule.allow.any (targetMatches request) then .allowed
      else .default

end Rules

section Loader

/-- The YAML library: the kinds of nodes, the lookup of a key of a map, the
nodes an iteration visits, the conversions of scalars with the text of the
exception they throw, and the text of the one that a refused conversion throws. -/
structure Yaml (Node : Type) where
  isSequence : Node → Bool
  isMap : Node → Bool
  lookup : Node → String → Option Node
  elements : Node → List Node
  mark : Node → Option (Nat × Nat)
  asText : Node → Except String Text
  asUInt16 : Node → Except String UInt16
  asUInt32 : Node → Except String UInt32
  asUInt64 : Node → Except String UInt64
  badConversion : Node → String

variable {Node : Type} (yaml : Yaml Node)

def asVector {Value : Type} (convert : Node → Except String Value) (node : Node) :
    Except String (List Value) :=
  if yaml.isSequence node then (yaml.elements node).mapM convert
  else .error (yaml.badConversion node)

/-- A key that may be left out. -/
def optionalKey {Value : Type} (convert : Node → Except String Value) (node : Node)
    (key : String) : Except String (Option Value) :=
  match yaml.lookup node key with
  | none => .ok none
  | some value => some <$> convert value

def asTargetSpec (node : Node) : Except String TargetSpec :=
  if !yaml.isMap node then .error (yaml.badConversion node)
  else match yaml.lookup node "host" with
    | none => .error (yaml.badConversion node)
    | some host => do
        let host ← yaml.asText host
        let ports ← optionalKey yaml (asVector yaml yaml.asUInt16) node "ports"
        return { host := host, ports := ports.getD [] }

def parseRateLimitMode (mode : Text) : Option InboundThrottle.RateLimitMode :=
  if mode = text "off" then some .off
  else if mode = text "report" then some .report
  else if mode = text "enforce" then some .enforce
  else none

/-- The mode of the block `node`, when it names one. -/
def optionalMode (node : Node) : Except String (Option InboundThrottle.RateLimitMode) := do
  match ← optionalKey yaml yaml.asText node "mode" with
  | none => return none
  | some written => match parseRateLimitMode written with
    | none => .error (yaml.badConversion node)
    | some mode => return some mode

def asRateLimitOverride (node : Node) : Except String RateLimitOverride :=
  if !yaml.isMap node then .error (yaml.badConversion node)
  else do
    let mode ← optionalMode yaml node
    let openPerSec ← optionalKey yaml yaml.asUInt32 node "open_per_sec"
    let openBurst ← optionalKey yaml yaml.asUInt32 node "open_burst"
    let bytesPerSec ← optionalKey yaml yaml.asUInt64 node "bytes_per_sec"
    let bytesBurst ← optionalKey yaml yaml.asUInt64 node "bytes_burst"
    let maxConcurrentTunnels ← optionalKey yaml yaml.asUInt32 node "max_concurrent_tunnels"
    return { mode := mode, openPerSec := openPerSec, openBurst := openBurst,
             bytesPerSec := bytesPerSec, bytesBurst := bytesBurst,
             maxConcurrentTunnels := maxConcurrentTunnels }

/-- The same fields, resolved: a block that names no mode enforces. -/
def asRateLimitSpec (node : Node) : Except String RateLimitSpec := do
  let written ← asRateLimitOverride yaml node
  return { mode := written.mode.getD .enforce
           openPerSec := written.openPerSec.getD 0
           openBurst := written.openBurst.getD 0
           bytesPerSec := written.bytesPerSec.getD 0
           bytesBurst := written.bytesBurst.getD 0
           maxConcurrentTunnels := written.maxConcurrentTunnels.getD 0
           defaultsPresent := true }

def asFriendRule (node : Node) : Except String FriendRule :=
  if !yaml.isMap node then .error (yaml.badConversion node)
  else match (yaml.lookup node "friend").or (yaml.lookup node "friend_pk") with
    | none => .error (yaml.badConversion node)
    | some friendNode => do
        let friendPk ← yaml.asText friendNode
        let allow ← optionalKey yaml (asVector yaml (asTargetSpec yaml)) node "allow"
        let deny ← optionalKey yaml (asVector yaml (asTargetSpec yaml)) node "deny"
        let rateLimit ← optionalKey yaml (asRateLimitOverride yaml) node "rate_limit"
        return { friendPk := friendPk, allow := allow.getD [], deny := deny.getD [],
                 rateLimit := rateLimit.getD {} }

def position (node : Node) : String :=
  match yaml.mark node with
  | none => ""
  | some (line, column) =>
      " (line " ++ toString (line + 1) ++ ", column " ++ toString (column + 1) ++ ")"

/-- One rule as it was written, checked, with its key in upper case. -/
def loadRule (node : Node) : Except String FriendRule :=
  match asFriendRule yaml node with
  | .error what => .error ("Failed to parse rule: " ++ what ++ position yaml node)
  | .ok rule =>
      if rule.friendPk.length ≠ kPublicKeyHexLen then
        .error ("Invalid public key length: expected " ++ toString kPublicKeyHexLen ++ ", got " ++
          toString rule.friendPk.length ++ position yaml node)
      else match parsePublicKey rule.friendPk with
        | .error why => .error ("Invalid public key: " ++ why ++ position yaml node)
        | .ok key =>
            if rule.allow.any fun target => target.ports.contains 0 then
              .error ("Invalid port 0 in allow rule" ++ position yaml node)
            else if rule.deny.any fun target => target.ports.contains 0 then
              .error ("Invalid port 0 in deny rule" ++ position yaml node)
            else .ok { rule with friendPk := bytesToHex key }

/-- The nodes of the rules, in any of the document's three formats. -/
def ruleNodes (node : Node) : Option (List Node) :=
  if yaml.isSequence node then some (yaml.elements node)
  else if yaml.isMap node then
    match yaml.lookup node "rules" with
    | some rules => some (yaml.elements rules)
    | none => (yaml.lookup node "friend").map fun _ => [node]
  else none

/-- Only a document that is a map carries defaults. -/
def documentDefaults (node : Node) : Except String RateLimitSpec :=
  if yaml.isMap node then
    match optionalKey yaml (asRateLimitSpec yaml) node "rate_limit_defaults" with
    | .error what => .error ("Failed to parse rules: " ++ what)
    | .ok written => .ok (written.getD {})
  else .ok {}

def fromNode (node : Node) : Except String RulesEngine := do
  let defaults ← documentDefaults yaml node
  match ruleNodes yaml node with
  | none => return { rateLimitDefaults := defaults }
  | some nodes => return { rules := ← nodes.mapM (loadRule yaml), rateLimitDefaults := defaults }

/-- The entries of a document as they are written. -/
def writtenRules (node : Node) : Except String (List FriendRule) :=
  ((ruleNodes yaml node).getD []).mapM (asFriendRule yaml)

variable {yaml}

def FriendRule.canonical (rule : FriendRule) : FriendRule :=
  { rule with friendPk := uppered rule.friendPk }

theorem bind_ok {Fault Value Result : Type} {before : Except Fault Value}
    {next : Value → Except Fault Result} {result : Result}
    (done : (before >>= next) = .ok result) :
    ∃ value, before = .ok value ∧ next value = .ok result := by
  cases before with
  | error => cases done
  | ok value => exact ⟨value, rfl, done⟩

theorem loadRule_written {node : Node} {rule : FriendRule} (loaded : loadRule yaml node = .ok rule) :
    ∃ written, asFriendRule yaml node = .ok written ∧
      rule = written.canonical := by
  unfold loadRule at loaded
  split at loaded
  · cases loaded
  · rename_i written read
    refine ⟨written, read, ?_⟩
    split at loaded
    · cases loaded
    · split at loaded
      · cases loaded
      · rename_i key parsed
        split at loaded
        · cases loaded
        · split at loaded <;> cases loaded
          simp only [FriendRule.canonical, bytesToHex_parsed parsed]

theorem loadRules_written {nodes : List Node} {rules : List FriendRule}
    (loaded : nodes.mapM (loadRule yaml) = .ok rules) :
    ∃ written, nodes.mapM (asFriendRule yaml) = .ok written ∧
      rules = written.map FriendRule.canonical := by
  induction nodes generalizing rules with
  | nil =>
      cases loaded
      exact ⟨[], rfl, rfl⟩
  | cons node rest ih =>
      rw [List.mapM_cons] at loaded
      obtain ⟨rule, first, loaded⟩ := bind_ok loaded
      obtain ⟨tail, others, loaded⟩ := bind_ok loaded
      cases loaded
      obtain ⟨written, read, rfl⟩ := loadRule_written first
      obtain ⟨more, read_more, rfl⟩ := ih others
      refine ⟨written :: more, ?_, rfl⟩
      simp only [List.mapM_cons, read, read_more, bind, Except.bind, pure, Except.pure]

/-- The rules of an accepted document are its entries, with their keys in upper
case. -/
theorem fromNode_written {node : Node} {engine : RulesEngine}
    (loaded : fromNode yaml node = .ok engine) :
    ∃ written, writtenRules yaml node = .ok written ∧
      engine.rules = written.map FriendRule.canonical := by
  obtain ⟨defaults, _, loaded⟩ := bind_ok loaded
  cases nodes : ruleNodes yaml node with
  | none =>
      simp only [nodes] at loaded
      cases loaded
      exact ⟨[], by simp [writtenRules, nodes, pure, Except.pure], rfl⟩
  | some listed =>
      simp only [nodes] at loaded
      obtain ⟨rules, read, loaded⟩ := bind_ok loaded
      cases loaded
      obtain ⟨written, asked, same⟩ := loadRules_written read
      exact ⟨written, by simpa [writtenRules, nodes] using asked, same⟩

end Loader

section Precedence

def FriendRule.allows (rule : FriendRule) (request : AccessRequest) : Bool :=
  rule.allow.any (targetMatches request)

def FriendRule.denies (rule : FriendRule) (request : AccessRequest) : Bool :=
  rule.deny.any (targetMatches request)

/-- The entries that name a friend, its key in any case. -/
def entriesOf (friendPk : Text) (rules : List FriendRule) : List FriendRule :=
  rules.filter fun rule => uppered rule.friendPk == uppered friendPk

/-- What a ruleset should allow: some entry of the friend does, and none denies. -/
def Permitted (rules : List FriendRule) (request : AccessRequest) : Prop :=
  (∃ rule ∈ entriesOf request.friendPk rules, rule.allows request = true) ∧
    ∀ rule ∈ entriesOf request.friendPk rules, rule.denies request = false

instance (rules : List FriendRule) (request : AccessRequest) : Decidable (Permitted rules request) :=
  inferInstanceAs (Decidable (_ ∧ _))

/-- Where the first entry of the friend does not deny, the later ones have
nothing to add: no deny to its allow, and no allow without a deny otherwise. -/
def FirstDecides (rules : List FriendRule) (request : AccessRequest) : Prop :=
  ∀ first later, entriesOf request.friendPk rules = first :: later →
    first.denies request = false →
    if first.allows request then ∀ rule ∈ later, rule.denies request = false
    else (∃ rule ∈ later, rule.allows request = true) → ∃ rule ∈ later, rule.denies request = true

theorem findFriendRule_head (engine : RulesEngine) (friendPk : Text)
    (canonical : ∀ rule ∈ engine.rules, uppered rule.friendPk = rule.friendPk) :
    findFriendRule engine friendPk = (entriesOf friendPk engine.rules).head? := by
  rw [findFriendRule, entriesOf, ← List.head?_filter]
  congr 1
  apply List.filter_congr
  intro rule inside
  rw [canonical rule inside]

theorem evaluate_allowed_iff (engine : RulesEngine) (request : AccessRequest)
    (canonical : ∀ rule ∈ engine.rules, uppered rule.friendPk = rule.friendPk) :
    evaluate engine request = .allowed ↔
      ∃ first later, entriesOf request.friendPk engine.rules = first :: later ∧
        first.denies request = false ∧ first.allows request = true := by
  rw [evaluate, findFriendRule_head engine _ canonical]
  cases entriesOf request.friendPk engine.rules with
  | nil => simp
  | cons first later =>
      simp only [List.head?_cons]
      show (if first.denies request then AccessResult.denied
        else if first.allows request then .allowed else .default) = .allowed ↔ _
      cases denies : first.denies request <;> cases allows : first.allows request <;> simp_all

theorem permitted_cons {rules : List FriendRule} {request : AccessRequest} {first : FriendRule}
    {later : List FriendRule} (entries : entriesOf request.friendPk rules = first :: later) :
    Permitted rules request ↔
      (first.allows request = true ∨ ∃ rule ∈ later, rule.allows request = true) ∧
        first.denies request = false ∧ ∀ rule ∈ later, rule.denies request = false := by
  simp [Permitted, entries]

theorem firstDecides_cons {rules : List FriendRule} {request : AccessRequest} {first : FriendRule}
    {later : List FriendRule} (entries : entriesOf request.friendPk rules = first :: later) :
    FirstDecides rules request ↔ (first.denies request = false →
      if first.allows request then ∀ rule ∈ later, rule.denies request = false
      else (∃ rule ∈ later, rule.allows request = true) →
        ∃ rule ∈ later, rule.denies request = true) := by
  rw [FirstDecides, entries]
  constructor
  · intro decides
    exact decides first later rfl
  · rintro decides _ _ ⟨⟩
    exact decides

theorem evaluate_permitted_iff (engine : RulesEngine) (request : AccessRequest)
    (canonical : ∀ rule ∈ engine.rules, uppered rule.friendPk = rule.friendPk) :
    (evaluate engine request = .allowed ↔ Permitted engine.rules request) ↔
      FirstDecides engine.rules request := by
  rw [evaluate_allowed_iff engine request canonical]
  cases entries : entriesOf request.friendPk engine.rules with
  | nil => simp [Permitted, FirstDecides, entries]
  | cons first later =>
      rw [permitted_cons entries, firstDecides_cons entries]
      have none_iff : (∀ rule ∈ later, rule.denies request = false) ↔
          ¬ ∃ rule ∈ later, rule.denies request = true := by simp
      have head : (∃ one more, first :: later = one :: more ∧ one.denies request = false ∧
          one.allows request = true) ↔
          first.denies request = false ∧ first.allows request = true := by simp
      rw [head, none_iff]
      generalize (∃ rule ∈ later, rule.denies request = true) = laterDenies
      generalize (∃ rule ∈ later, rule.allows request = true) = laterAllows
      cases first.denies request <;> cases first.allows request <;> simp

theorem entriesOf_canonical (friendPk : Text) (written : List FriendRule) :
    entriesOf friendPk (written.map .canonical) = (entriesOf friendPk written).map .canonical := by
  simp [entriesOf, List.filter_map, Function.comp_def, FriendRule.canonical]

theorem permitted_canonical (written : List FriendRule) (request : AccessRequest) :
    Permitted (written.map .canonical) request ↔ Permitted written request := by
  simp [Permitted, entriesOf_canonical, FriendRule.allows, FriendRule.denies, FriendRule.canonical]

theorem firstDecides_canonical (written : List FriendRule) (request : AccessRequest) :
    FirstDecides (written.map .canonical) request ↔ FirstDecides written request := by
  cases entries : entriesOf request.friendPk written with
  | nil => simp [FirstDecides, entriesOf_canonical, entries]
  | cons first later =>
      have mapped : entriesOf request.friendPk (written.map .canonical) =
          first.canonical :: later.map .canonical := by
        rw [entriesOf_canonical, entries, List.map_cons]
      rw [firstDecides_cons entries, firstDecides_cons mapped]
      simp [FriendRule.allows, FriendRule.denies, FriendRule.canonical]

theorem evaluate_perm {engine : RulesEngine} {request : AccessRequest} {rules : List FriendRule}
    (order : rules.Perm engine.rules)
    (canonical : ∀ rule ∈ engine.rules, uppered rule.friendPk = rule.friendPk)
    (single : (entriesOf request.friendPk engine.rules).length ≤ 1) :
    evaluate { engine with rules := rules } request = evaluate engine request := by
  have entries : (entriesOf request.friendPk rules).Perm (entriesOf request.friendPk engine.rules) :=
    order.filter _
  have same : entriesOf request.friendPk rules = entriesOf request.friendPk engine.rules := by
    cases there : entriesOf request.friendPk engine.rules with
    | nil =>
        rw [there] at entries
        exact entries.eq_nil
    | cons only rest =>
        rw [there] at entries single
        have none : rest = [] := List.length_eq_zero_iff.mp (by simpa using single)
        subst none
        exact List.perm_singleton.mp entries
  have kept : ∀ rule ∈ rules, uppered rule.friendPk = rule.friendPk :=
    fun rule inside => canonical rule (order.subset inside)
  rw [evaluate, evaluate, findFriendRule_head _ _ kept, findFriendRule_head _ _ canonical, same]

/-- The verdict allows what some entry of the friend allows and none denies,
exactly where the first entry settles it. With one entry a friend it always
does, and no order of the entries changes any verdict. -/
theorem deny_precedence_iff {Node : Type} {yaml : Yaml Node} {node : Node} {engine : RulesEngine}
    (loaded : fromNode yaml node = .ok engine) :
    ∃ written, writtenRules yaml node = .ok written ∧ ∀ request,
      ((evaluate engine request = .allowed ↔ Permitted written request) ↔
        FirstDecides written request) ∧
      ((entriesOf request.friendPk written).length ≤ 1 →
        FirstDecides written request ∧
        ∀ rules, rules.Perm engine.rules →
          evaluate { engine with rules := rules } request = evaluate engine request) := by
  obtain ⟨written, read, same⟩ := fromNode_written loaded
  refine ⟨written, read, fun request => ?_⟩
  have canonical : ∀ rule ∈ engine.rules, uppered rule.friendPk = rule.friendPk := by
    intro rule inside
    rw [same] at inside
    obtain ⟨before, _, rfl⟩ := List.mem_map.mp inside
    exact uppered_uppered before.friendPk
  have exact_iff := evaluate_permitted_iff engine request canonical
  rw [same, permitted_canonical, firstDecides_canonical] at exact_iff
  refine ⟨exact_iff, fun single => ⟨?_, ?_⟩⟩
  · intro first later entries _
    rw [entries] at single
    have none : later = [] := List.length_eq_zero_iff.mp (by simpa using single)
    subst none
    split <;> simp
  · intro rules order
    apply evaluate_perm order canonical
    rw [same, entriesOf_canonical, List.length_map]
    exact single

/-- A document as the library reads it; its scalars are texts. -/
inductive Document where
  | scalar (value : String)
  | sequence (items : List Document)
  | mapping (pairs : List (String × Document))

def documentYaml : Yaml Document where
  isSequence | .sequence _ => true | _ => false
  isMap | .mapping _ => true | _ => false
  lookup | .mapping pairs, key => pairs.lookup key | _, _ => none
  elements | .sequence items => items | _ => []
  mark _ := none
  asText | .scalar value => .ok (text value) | _ => .error "bad conversion"
  asUInt16 _ := .error "bad conversion"
  asUInt32 _ := .error "bad conversion"
  asUInt64 _ := .error "bad conversion"
  badConversion _ := "bad conversion"

/-- Two entries for one friend, the second in lower case: the first allows every
host, the second denies one. -/
def splitRules : Document :=
  .sequence [
    .mapping [("friend", .scalar "AAAAAAAAAAAAAAAAAAAAAAAAAAAAAAAAAAAAAAAAAAAAAAAAAAAAAAAAAAAAAAAA"),
      ("allow", .sequence [.mapping [("host", .scalar "*")]])],
    .mapping [("friend", .scalar "aaaaaaaaaaaaaaaaaaaaaaaaaaaaaaaaaaaaaaaaaaaaaaaaaaaaaaaaaaaaaaaa"),
      ("deny", .sequence [.mapping [("host", .scalar "10.*")]])]]

def innerRequest : AccessRequest :=
  ⟨text "AAAAAAAAAAAAAAAAAAAAAAAAAAAAAAAAAAAAAAAAAAAAAAAAAAAAAAAAAAAAAAAA", text "10.0.0.1", 22⟩

/-- The engine and the entries of `splitRules`, with the verdict on the request
and whether the entries permit it. -/
theorem splitRules_loaded :
    ∃ engine written, fromNode documentYaml splitRules = .ok engine ∧
      writtenRules documentYaml splitRules = .ok written ∧
      evaluate engine innerRequest = .allowed ∧ ¬ Permitted written innerRequest := by
  have facts : ((fromNode documentYaml splitRules).bind fun engine =>
      (writtenRules documentYaml splitRules).map fun written =>
        (evaluate engine innerRequest, decide (Permitted written innerRequest))).toOption =
      some (.allowed, false) := by
    decide
  cases loaded : fromNode documentYaml splitRules with
  | error => simp [loaded, Except.bind, Except.toOption] at facts
  | ok engine =>
      cases read : writtenRules documentYaml splitRules with
      | error => simp [loaded, read, Except.bind, Except.map, Except.toOption] at facts
      | ok written =>
          simp only [loaded, read, Except.bind, Except.map, Except.toOption, Option.some.injEq,
            Prod.mk.injEq, decide_eq_false_iff_not] at facts
          exact ⟨engine, written, rfl, rfl, facts⟩

theorem deny_precedence_iff_split :
    ∃ engine written, fromNode documentYaml splitRules = .ok engine ∧
      writtenRules documentYaml splitRules = .ok written ∧
      ((evaluate engine innerRequest = .allowed ↔ Permitted written innerRequest) ↔
        FirstDecides written innerRequest) := by
  obtain ⟨engine, _, loaded, _⟩ := splitRules_loaded
  obtain ⟨written, read, exact_iff⟩ := deny_precedence_iff loaded
  exact ⟨engine, written, loaded, read, (exact_iff innerRequest).1⟩

/-- The deny of the second entry is not consulted. -/
theorem second_entry_ignored :
    ¬ ∀ engine written request, fromNode documentYaml splitRules = .ok engine →
      writtenRules documentYaml splitRules = .ok written →
      (evaluate engine request = .allowed ↔ Permitted written request) := by
  intro claim
  obtain ⟨engine, written, loaded, read, allowed, denied⟩ := splitRules_loaded
  exact denied ((claim engine written innerRequest loaded read).mp allowed)

end Precedence

end ToxTunnel.AccessRules
