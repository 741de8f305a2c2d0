import ToxTunnel.AccessRules
import ToxTunnel.AddressLiteral
import ToxTunnel.EndpointGrammar

/-!
The two guards that keep the SOCKS5 listener on a loopback address: the configuration looks at
the text of the host, the listener at the address that asio makes of it. asio and the resolver
are parameters.
-/

namespace ToxTunnel.LoopbackGuards
open AccessRules
open AddressLiteral (Address Literal MappedFront loopbackFront loopbackGroups)
open RateLimits (Text text tolower)

section Guards

/-- The host without one pair of brackets around it. -/
def unbracketed (host : Text) : Text :=
  if 2 ≤ host.length ∧ host.head? = some 91 ∧ host.getLast? = some 93 then
    (host.drop 1).dropLast
  else host

def isLoopbackHost (host : Text) : Bool :=
  if host = [] then false
  else
    let h := unbracketed host
    if h = text "0.0.0.0" ∨ h = text "::" then false
    else if h = text "::1" then true
    else if (7 < h.length ∧ (h.take 7 = text "::ffff:" ∨ h.take 7 = text "::FFFF:")) ∧
        4 ≤ (h.drop 7).length ∧ (h.drop 7).take 4 = text "127." then true
    else if 4 ≤ h.length ∧ h.take 4 = text "127." then true
    else decide (lowered h = text "localhost")

inductive StartError where
  | alreadyRunning
  | invalidHost (why : String)
  | nonLoopback (address : Address)
  deriving DecidableEq

/-- `Socks5Listener::start` up to the acceptor: the address to bind. -/
def startAddress (makeAddress : Text → Option Address) (resolve : Text → Except String Address)
    (running : Bool) (host : Text) : Except StartError Address :=
  if running then .error .alreadyRunning
  else
    match makeAddress host with
    | some address =>
        if address.isLoopback then .ok address else .error (.nonLoopback address)
    | none =>
        match resolve host with
        | .error why => .error (.invalidHost why)
        | .ok address =>
            if address.isLoopback then .ok address else .error (.nonLoopback address)

end Guards

section Documented

/-- What of a text a C string holds. -/
def cString (host : Text) : Text := host.takeWhile (· ≠ 0)

/-- `make_address` takes numeric literals only and reads them as they denote, and it takes
the loopback address in its short form. -/
structure Documented (makeAddress : Text → Option Address) : Prop where
  sound : ∀ host address, makeAddress host = some address → Literal (cString host) address
  loopback : makeAddress (text "::1") = some (.v6 loopbackGroups [])

theorem prefix_cString {front host : Text} (clean : 0 ∉ front) :
    front <+: cString host ↔ front <+: host := by
  constructor
  · intro begins
    exact begins.trans (List.takeWhile_prefix _)
  · rintro ⟨rest, rfl⟩
    have kept : ∀ char ∈ front, (decide (char ≠ 0)) = true := by
      intro char inside
      simp only [ne_eq, decide_not, Bool.not_eq_eq_eq_not, Bool.not_true, decide_eq_false_iff_not]
      rintro rfl
      exact clean inside
    rw [cString, List.takeWhile_append_of_pos kept]
    exact List.prefix_append _ _

theorem not_literal {makeAddress : Text → Option Address} (documented : Documented makeAddress)
    {first : UInt8} {rest : Text} (clean : first ≠ 0)
    (strange : AddressLiteral.hexDigit first = none) (other : first ≠ AddressLiteral.colon) :
    makeAddress (first :: rest) = none := by
  cases made : makeAddress (first :: rest) with
  | none => rfl
  | some address =>
      obtain ⟨head, tail, shape, begins⟩ :=
        AddressLiteral.literal_first (documented.sound _ address made)
      have same : cString (first :: rest) = first :: cString rest := by simp [cString, clean]
      obtain ⟨rfl, -⟩ := List.cons.inj (same.symm.trans shape)
      rw [strange] at begins
      exact absurd begins (by simp [other])

end Documented

section Texts

/-- The texts that the configuration takes for a loopback host. -/
inductive LoopbackText (host : Text) : Prop where
  | short : host = text "::1" → LoopbackText host
  | mapped (front : Text) : MappedFront front → front <+: host → LoopbackText host
  | dotted : loopbackFront <+: host → LoopbackText host
  | name : lowered host = text "localhost" → LoopbackText host

theorem take_iff {front host : Text} {length : Nat} (size : front.length = length) :
    length ≤ host.length ∧ host.take length = front ↔ front <+: host := by
  rw [List.prefix_iff_eq_take, size]
  constructor
  · rintro ⟨_, same⟩
    exact same.symm
  · intro same
    refine ⟨?_, same.symm⟩
    have lengths := congrArg List.length same
    rw [List.length_take, size] at lengths
    omega

theorem mappedFront_iff (front : Text) :
    MappedFront front ↔ ∃ start, (start = text "::ffff:" ∨ start = text "::FFFF:") ∧
      front = start ++ text "127." := by
  constructor
  · rintro ⟨group, rfl | rfl, rfl⟩
    · exact ⟨_, .inl rfl, by decide⟩
    · exact ⟨_, .inr rfl, by decide⟩
  · rintro ⟨start, rfl | rfl, rfl⟩
    · exact ⟨_, .inl rfl, by decide⟩
    · exact ⟨_, .inr rfl, by decide⟩

theorem mapped_iff (host : Text) :
    ((7 < host.length ∧ (host.take 7 = text "::ffff:" ∨ host.take 7 = text "::FFFF:")) ∧
      4 ≤ (host.drop 7).length ∧ (host.drop 7).take 4 = text "127.") ↔
      ∃ front, MappedFront front ∧ front <+: host := by
  constructor
  · rintro ⟨⟨_, starts⟩, behind⟩
    obtain ⟨rest, shape⟩ := (take_iff (by decide)).mp behind
    refine ⟨host.take 7 ++ text "127.", (mappedFront_iff _).mpr ⟨_, starts, rfl⟩, rest, ?_⟩
    rw [List.append_assoc, shape, List.take_append_drop]
  · rintro ⟨front, mapped, rest, rfl⟩
    obtain ⟨start, letters, rfl⟩ := (mappedFront_iff front).mp mapped
    have size : start.length = 7 := by rcases letters with rfl | rfl <;> decide
    have short : (text "127.").length = 4 := by decide
    rw [List.append_assoc, List.take_left' size, List.drop_left' size, List.take_left' short]
    refine ⟨⟨?_, letters⟩, ?_, rfl⟩
    · simp only [List.length_append, size, short]
      omega
    · simp [short]

theorem not_loopbackText_any {host : Text} (any : host = text "0.0.0.0" ∨ host = text "::") :
    ¬ LoopbackText host := by
  intro found
  have small : host.length ≤ 7 := by rcases any with rfl | rfl <;> decide
  cases found with
  | short same => rcases any with rfl | rfl <;> exact absurd same (by decide)
  | mapped front mapped begins =>
      have long : 11 ≤ host.length := by
        obtain ⟨group, rfl | rfl, rfl⟩ := mapped <;> exact begins.length_le
      omega
  | dotted begins => rcases any with rfl | rfl <;> exact absurd begins (by decide)
  | name same => rcases any with rfl | rfl <;> exact absurd same (by decide)

theorem not_loopbackText_nil : ¬ LoopbackText [] := by
  intro found
  cases found with
  | short same => exact absurd same (by decide)
  | mapped front mapped begins =>
      obtain ⟨group, _, rfl⟩ := mapped
      cases List.prefix_nil.mp begins
  | dotted begins => exact absurd begins (by decide)
  | name same => exact absurd same (by decide)

theorem isLoopbackHost_iff (host : Text) :
    isLoopbackHost host = true ↔ LoopbackText (unbracketed host) := by
  unfold isLoopbackHost
  by_cases empty : host = []
  · subst empty
    simpa [unbracketed] using not_loopbackText_nil
  rw [if_neg empty]
  generalize unbracketed host = h
  dsimp only
  by_cases any : h = text "0.0.0.0" ∨ h = text "::"
  · simpa [any] using not_loopbackText_any any
  rw [if_neg any]
  by_cases short : h = text "::1"
  · simpa [short] using LoopbackText.short rfl
  rw [if_neg short]
  by_cases mapped : ∃ front, MappedFront front ∧ front <+: h
  · obtain ⟨front, begins⟩ := mapped
    rw [if_pos ((mapped_iff h).mpr ⟨front, begins⟩)]
    simpa using LoopbackText.mapped front begins.1 begins.2
  rw [if_neg (mt (mapped_iff h).mp mapped)]
  have starts : 4 ≤ h.length ∧ h.take 4 = text "127." ↔ loopbackFront <+: h :=
    show _ ↔ text "127." <+: h from take_iff (by decide)
  by_cases dotted : loopbackFront <+: h
  · rw [if_pos (starts.mpr dotted)]
    simpa using LoopbackText.dotted dotted
  rw [if_neg (mt starts.mp dotted), decide_eq_true_eq]
  constructor
  · exact .name
  · intro found
    cases found with
    | short same => exact absurd same short
    | mapped front found begins => exact absurd ⟨front, found, begins⟩ mapped
    | dotted begins => exact absurd begins dotted
    | name same => exact same

/-- The text stands in one pair of brackets, or it is taken as it is. -/
theorem unbracketed_cases (host : Text) :
    (∃ inner, host = 91 :: (inner ++ [93]) ∧ unbracketed host = inner) ∨
      (∀ inner, host ≠ 91 :: (inner ++ [93])) ∧ unbracketed host = host := by
  by_cases bracketed : 2 ≤ host.length ∧ host.head? = some 91 ∧ host.getLast? = some 93
  · left
    obtain ⟨size, first, last⟩ := bracketed
    refine ⟨(host.drop 1).dropLast, ?_, if_pos ⟨size, first, last⟩⟩
    cases host with
    | nil => cases first
    | cons head tail =>
        cases first
        have some_tail : tail ≠ [] := by
          rintro rfl
          simp at size
        rw [List.getLast?_cons_of_ne_nil some_tail] at last
        rw [List.drop_one, List.tail_cons]
        congr 1
        exact (List.dropLast_append_getLast? 93 last).symm
  · right
    refine ⟨?_, if_neg bracketed⟩
    rintro inner rfl
    exact bracketed ⟨by simp, rfl, by rw [← List.cons_append, List.getLast?_concat]⟩

end Texts

section Agreement

/-- The two guards have one verdict on a numeric host, and the configuration takes nothing
but numeric hosts and `localhost`. -/
structure GuardsAgree (makeAddress : Text → Option Address) (host : Text) : Prop where
  verdict : ∀ address, makeAddress host = some address →
    (isLoopbackHost host = true ↔
      ∀ resolve other, startAddress makeAddress resolve false host ≠ .error (.nonLoopback other))
  names : isLoopbackHost host = true →
    (makeAddress host).isSome = true ∨ lowered host = text "localhost"

/-- The hosts on which they differ: a loopback text in brackets, an IPv4-mapped loopback
address, a name that begins like a loopback address, `::1` spelled another way. -/
inductive Apart (makeAddress : Text → Option Address) (host : Text) : Prop where
  | bracketed (inner : Text) : host = 91 :: (inner ++ [93]) → LoopbackText inner →
      Apart makeAddress host
  | mapped (front : Text) : MappedFront front → front <+: host → Apart makeAddress host
  | named : loopbackFront <+: host → makeAddress host = none → Apart makeAddress host
  | spelled (scope : Text) : makeAddress host = some (.v6 loopbackGroups scope) →
      host ≠ text "::1" → Apart makeAddress host

variable {makeAddress : Text → Option Address}

theorem startAddress_numeric {host : Text} {address : Address}
    (numeric : makeAddress host = some address) :
    (∀ resolve other, startAddress makeAddress resolve false host ≠ .error (.nonLoopback other)) ↔
      address.isLoopback = true := by
  have start (resolve : Text → Except String Address) :
      startAddress makeAddress resolve false host =
        if address.isLoopback then .ok address else .error (.nonLoopback address) := by
    simp [startAddress, numeric]
  constructor
  · intro taken
    by_contra other
    refine taken (fun _ => .error "") address ?_
    rw [start, if_neg other]
  · intro loopback resolve other
    rw [start, if_pos loopback]
    exact nofun

theorem bracket_not_numeric (documented : Documented makeAddress) (rest : Text) :
    makeAddress (91 :: rest) = none :=
  not_literal documented (by decide) (by decide) (by decide)

theorem name_not_numeric (documented : Documented makeAddress) {host : Text}
    (name : lowered host = text "localhost") : makeAddress host = none := by
  cases host with
  | nil => cases name
  | cons first rest =>
      have letter : tolower first = 108 := (List.cons.inj name).1
      have either : first = 108 ∨ first = 76 := by
        unfold tolower at letter
        split at letter
        · right
          have moved := congrArg (· - 32) letter
          simpa using moved
        · exact .inl letter
      rcases either with rfl | rfl <;>
        exact not_literal documented (by decide) (by decide) (by decide)

theorem unbracketed_numeric (documented : Documented makeAddress) {host : Text} {address : Address}
    (numeric : makeAddress host = some address) : unbracketed host = host := by
  rcases unbracketed_cases host with ⟨inner, rfl, _⟩ | ⟨_, same⟩
  · rw [bracket_not_numeric documented] at numeric
    cases numeric
  · exact same

theorem mapped_not_loopback (documented : Documented makeAddress) {host front : Text}
    {address : Address} (numeric : makeAddress host = some address) (mapped : MappedFront front)
    (begins : front <+: host) : address.isLoopback = false := by
  have clean : 0 ∉ front := by
    obtain ⟨group, rfl | rfl, rfl⟩ := mapped <;> decide
  exact AddressLiteral.literal_mapped (documented.sound host address numeric) mapped
    ((prefix_cString clean).mpr begins)

theorem dotted_cString {host : Text} (begins : loopbackFront <+: host) :
    loopbackFront <+: cString host := (prefix_cString (by decide)).mpr begins

theorem Apart.differ (documented : Documented makeAddress) {host : Text}
    (apart : Apart makeAddress host) : ¬ GuardsAgree makeAddress host := by
  intro agree
  have plain (first : ∀ rest, host ≠ 91 :: rest) (found : LoopbackText host) :
      isLoopbackHost host = true := by
    rcases unbracketed_cases host with ⟨inner, shape, _⟩ | ⟨_, same⟩
    · exact absurd shape (first _)
    · rw [isLoopbackHost_iff, same]
      exact found
  cases apart with
  | bracketed inner shape found =>
      have taken : isLoopbackHost host = true := by
        rcases unbracketed_cases host with ⟨other, shape', same⟩ | ⟨never, _⟩
        · rw [isLoopbackHost_iff, same]
          have inners : inner ++ [93] = other ++ [93] :=
            (List.cons.inj (shape.symm.trans shape')).2
          rwa [← List.append_cancel_right inners]
        · exact absurd shape (never inner)
      subst shape
      rcases agree.names taken with numeric | name
      · rw [bracket_not_numeric documented] at numeric
        cases numeric
      · cases name
  | mapped front mapped begins =>
      have other (rest : Text) : host ≠ 91 :: rest := by
        rintro rfl
        obtain ⟨group, _, rfl⟩ := mapped
        cases (List.cons_prefix_cons.mp begins).1
      have taken := plain other (.mapped front mapped begins)
      rcases agree.names taken with numeric | name
      · obtain ⟨address, numeric⟩ := Option.isSome_iff_exists.mp numeric
        have loopback := (startAddress_numeric numeric).mp
          ((agree.verdict address numeric).mp taken)
        rw [mapped_not_loopback documented numeric mapped begins] at loopback
        cases loopback
      · obtain ⟨group, _, rfl⟩ := mapped
        obtain ⟨rest, rfl⟩ := begins
        cases name
  | named begins unknown =>
      obtain ⟨rest, rfl⟩ := begins
      have taken := plain (by rintro rest ⟨⟩) (.dotted (List.prefix_append _ _))
      rcases agree.names taken with numeric | name
      · rw [unknown] at numeric
        cases numeric
      · cases name
  | spelled scope numeric other =>
      have taken := (agree.verdict _ numeric).mpr ((startAddress_numeric numeric).mpr rfl)
      rw [isLoopbackHost_iff, unbracketed_numeric documented numeric] at taken
      cases taken with
      | short same => exact other same
      | mapped front mapped begins =>
          have never := mapped_not_loopback documented numeric mapped begins
          cases never
      | dotted begins =>
          exact AddressLiteral.literal_v6_not_dotted (documented.sound host _ numeric)
            (dotted_cString begins)
      | name same =>
          rw [name_not_numeric documented same] at numeric
          cases numeric

theorem guards_agree_iff (documented : Documented makeAddress) (host : Text) :
    GuardsAgree makeAddress host ↔ ¬ Apart makeAddress host := by
  refine ⟨fun agree apart => apart.differ documented agree, fun together => ?_⟩
  constructor
  · intro address numeric
    rw [startAddress_numeric numeric, isLoopbackHost_iff, unbracketed_numeric documented numeric]
    constructor
    · intro taken
      cases taken with
      | short same =>
          rw [same, documented.loopback] at numeric
          cases numeric
          rfl
      | mapped front mapped begins => exact absurd (.mapped front mapped begins) together
      | dotted begins =>
          exact AddressLiteral.literal_loopbackFront (documented.sound host address numeric)
            (dotted_cString begins)
      | name same =>
          rw [name_not_numeric documented same] at numeric
          cases numeric
    · intro loopback
      rcases AddressLiteral.literal_loopback (documented.sound host address numeric) loopback with
        begins | ⟨scope, rfl⟩
      · exact .dotted ((prefix_cString (by decide)).mp begins)
      · by_contra other
        exact together (.spelled scope numeric fun same => other (.short same))
  · intro taken
    rw [isLoopbackHost_iff] at taken
    rcases unbracketed_cases host with ⟨inner, shape, same⟩ | ⟨_, same⟩
    · rw [same] at taken
      exact absurd (.bracketed inner shape taken) together
    · rw [same] at taken
      cases taken with
      | short same =>
          rw [same, documented.loopback]
          exact .inl rfl
      | mapped front mapped begins => exact absurd (.mapped front mapped begins) together
      | dotted begins =>
          left
          by_contra unknown
          exact together (.named begins (by simpa using unknown))
      | name same => exact .inr same

/-- The host of a listen spec is looked at as it is: none of the bracketed texts gets here. -/
theorem unbracketed_listenSpec {spec : Text} {target : Socks5Handshake.Destination}
    (read : EndpointGrammar.parseListenSpec spec = some target) :
    unbracketed target.host = target.host := by
  rcases unbracketed_cases target.host with ⟨inner, shape, _⟩ | ⟨_, same⟩
  · exact absurd shape (EndpointGrammar.listenSpec_host read inner)
  · exact same

/-- Three literals as asio reads them. -/
def knownLiterals (host : Text) : Option Address :=
  if host = text "::1" then some (.v6 loopbackGroups [])
  else if host = text "127.0.0.1" then some (.v4 127 0 0 1)
  else if host = text "::ffff:127.0.0.1" then
    some (.v6 [0, 0, 0, 0, 0, 65535, 32512, 1] [])
  else none

theorem local_dotted : AddressLiteral.Dotted (text "127.0.0.1") 127 0 0 1 :=
  .quad (text "127") (text "0") (text "0") (text "1") 127 0 0 1
    ⟨by decide, by decide⟩ ⟨by decide, by decide⟩ ⟨by decide, by decide⟩ ⟨by decide, by decide⟩

theorem knownLiterals_documented : Documented knownLiterals := by
  constructor
  · intro host address known
    unfold knownLiterals at known
    split_ifs at known with short dotted mapped
    · cases known
      subst short
      have one : AddressLiteral.Groups true (text "1") [1] := .last _ _ ⟨by decide, by decide⟩
      exact .v6 _ _ (.omitted [] (text "1") [] [1] .nothing (.groups _ _ one) (by decide))
    · cases known
      subst dotted
      exact .v4 _ _ _ _ _ local_dotted
    · cases known
      subst mapped
      have groups := AddressLiteral.Groups.more (text "ffff") (text "127.0.0.1") 65535 _
        ⟨by decide, by decide⟩ (.dotted _ 127 0 0 1 rfl local_dotted)
      exact .v6 _ _ (.omitted [] _ [] _ .nothing (.groups _ _ groups) (by decide))
  · decide

theorem local_address_agrees : GuardsAgree knownLiterals (text "127.0.0.1") := by
  refine (guards_agree_iff knownLiterals_documented _).mpr fun apart => ?_
  cases apart with
  | bracketed inner shape found => cases shape
  | mapped front mapped begins =>
      obtain ⟨group, _, rfl⟩ := mapped
      cases (List.cons_prefix_cons.mp begins).1
  | named begins unknown => exact absurd unknown (by decide)
  | spelled scope numeric other =>
      have known : knownLiterals (text "127.0.0.1") = some (.v4 127 0 0 1) := by decide
      rw [known] at numeric
      cases numeric

/-- The configuration takes the IPv4-mapped loopback address, which the listener refuses. -/
theorem mapped_address_differs : ¬ GuardsAgree knownLiterals (text "::ffff:127.0.0.1") := by
  intro agree
  have taken : isLoopbackHost (text "::ffff:127.0.0.1") = true := by decide
  have known : knownLiterals (text "::ffff:127.0.0.1") =
      some (.v6 [0, 0, 0, 0, 0, 65535, 32512, 1] []) := by decide
  have started := (agree.verdict _ known).mp taken (fun _ => .error "")
    (.v6 [0, 0, 0, 0, 0, 65535, 32512, 1] [])
  exact started (by decide)

end Agreement

end ToxTunnel.LoopbackGuards
