import Mathlib.Algebra.GroupWithZero.Nat
import Mathlib.Data.List.TakeWhile
import ToxTunnel.Socks5Handshake

/-!
Texts that name a host and a port: the pipe target of the command line and of the
configuration, whose port `std::stoul` reads, and the target of an HTTP CONNECT, whose port
`from_chars` reads. Both against one grammar.
-/

namespace ToxTunnel.EndpointGrammar
open Socks5Handshake StableParse TunnelState

section Numbers

/-- `isspace` in the "C" locale. -/
def isSpace (char : UInt8) : Bool := char == 32 || (9 ≤ char && char ≤ 13)

/-- `ULONG_MAX`, the longs having 64 bits. -/
def kUlongMax : Nat := 2 ^ 64 - 1

inductive StoulError where
  | invalidArgument | outOfRange
  deriving DecidableEq

def signOf : Bytes → Bool × Bytes
  | 43 :: rest => (false, rest)
  | 45 :: rest => (true, rest)
  | rest => (false, rest)

/-- What a '-' does to an unsigned result. -/
def signed (negative : Bool) (magnitude : Nat) : Nat :=
  if negative then (kUlongMax + 1 - magnitude) % (kUlongMax + 1) else magnitude

/-- `std::stoul`: blanks and a sign may stand before the digits, anything behind them. -/
def stoul (input : Bytes) : Except StoulError Nat :=
  let (negative, rest) := signOf (input.dropWhile isSpace)
  let number := rest.takeWhile isDigit
  if number = [] then .error .invalidArgument
  else if kUlongMax < decimalValue number then .error .outOfRange
  else .ok (signed negative (decimalValue number))

end Numbers

section Parsers

def pipePort (portStr : Bytes) : Except String Nat :=
  match stoul portStr with
  | .error _ => .error "Pipe target port must be numeric"
  | .ok parsed =>
      if parsed = 0 ∨ 65535 < parsed then .error "Pipe target port must be between 1 and 65535"
      else .ok parsed

def parsePipeTarget (spec : Bytes) : Except String Destination :=
  if spec.head? = some 91 then
    match find [93] spec with
    | none => .error "Invalid IPv6 address: missing closing bracket"
    | some bracketEnd =>
        if spec[bracketEnd + 1]? ≠ some 58 then
          .error "Pipe target must be in the form [ipv6]:port"
        else (pipePort (spec.drop (bracketEnd + 2))).map fun port =>
          { host := (spec.drop 1).take (bracketEnd - 1), port := port }
  else
    match findLast 58 spec with
    | none => .error "Pipe target must be in the form host:port or [ipv6]:port"
    | some colon =>
        if colon = 0 ∨ colon = spec.length - 1 then
          .error "Pipe target must be in the form host:port or [ipv6]:port"
        else (pipePort (spec.drop (colon + 1))).map fun port =>
          { host := spec.take colon, port := port }

/-- The shape of `parse_listen_spec` and of the CONNECT target's parser. -/
def hostAndPort (readPort : Bytes → Option Nat) (spec : Bytes) : Option Destination :=
  if spec.head? = some 91 then
    match find (ascii "]") spec with
    | none => none
    | some close =>
        if spec[close + 1]? ≠ some 58 then none
        else (readPort (spec.drop (close + 2))).map fun port =>
          { host := (spec.drop 1).take (close - 1), port := port }
  else
    match findLast 58 spec with
    | none => none
    | some colon =>
        if colon = 0 ∨ spec.length ≤ colon + 1 then none
        else (readPort (spec.drop (colon + 1))).map fun port =>
          { host := spec.take colon, port := port }

/-- `from_chars` over the whole text; a listener may ask for port 0. -/
def listenPort (portText : Bytes) : Option Nat :=
  if portText = [] then none
  else if !portText.all isDigit then none
  else if 65535 < decimalValue portText then none
  else some (decimalValue portText)

def parseListenSpec (spec : Bytes) : Option Destination := hostAndPort listenPort spec

theorem parseAuthority_eq (authority : Bytes) :
    parseAuthority authority = hostAndPort parsePort authority := rfl

end Parsers

section Grammar

/-- Decimal digits only that denote a port. -/
structure IsPort (number : Bytes) (port : Nat) : Prop where
  digits : ∀ char ∈ number, isDigit char = true
  value : decimalValue number = port
  range : 1 ≤ port ∧ port ≤ 65535

/-- `host:port` or `[host]:port`. A text that begins with a bracket is of the second form. -/
inductive Endpoint : Bytes → Destination → Prop where
  | plain (host digits : Bytes) (port : Nat) : host ≠ [] → host.head? ≠ some 91 →
      IsPort digits port → Endpoint (host ++ 58 :: digits) ⟨host, port⟩
  | bracketed (host digits : Bytes) (port : Nat) : host ≠ [] → 93 ∉ host →
      IsPort digits port → Endpoint (91 :: (host ++ 93 :: 58 :: digits)) ⟨host, port⟩

/-- Where the text is cut, whatever stands for the port. -/
inductive Cut : Bytes → Bytes → Bytes → Prop where
  | plain (host portText : Bytes) : host ≠ [] → host.head? ≠ some 91 → 58 ∉ portText →
      Cut (host ++ 58 :: portText) host portText
  | bracketed (host portText : Bytes) : 93 ∉ host →
      Cut (91 :: (host ++ 93 :: 58 :: portText)) host portText

/-- A port for `stoul`: blanks, a sign, the digits and any text that no digit begins. A '-'
counts down from 2^64. -/
inductive LoosePort : Bytes → Nat → Prop where
  | reads (blanks sign digits rest : Bytes) (port : Nat) :
      (∀ char ∈ blanks, isSpace char = true) → (∀ char ∈ digits, isDigit char = true) →
      digits ≠ [] → (∀ char ∈ rest.head?, isDigit char = false) →
      decimalValue digits ≤ kUlongMax →
      (sign = [] ∨ sign = [43]) ∧ port = decimalValue digits ∨
        sign = [45] ∧ port = (kUlongMax + 1 - decimalValue digits) % (kUlongMax + 1) →
      1 ≤ port → port ≤ 65535 → LoosePort (blanks ++ (sign ++ (digits ++ rest))) port

end Grammar

section Reading

theorem digit_plain {char : UInt8} (digit : isDigit char = true) :
    isSpace char = false ∧ char ≠ 43 ∧ char ≠ 45 := by
  simp only [isDigit, Bool.and_eq_true, decide_eq_true_eq, UInt8.le_iff_toNat_le] at digit
  have low : 48 ≤ char.toNat := digit.1
  refine ⟨?_, ?_, ?_⟩
  · simp only [isSpace, Bool.or_eq_false_iff, beq_eq_false_iff_ne, Bool.and_eq_false_iff,
      decide_eq_false_iff_not, UInt8.le_iff_toNat_le, not_le]
    refine ⟨?_, .inr (Nat.lt_of_lt_of_le (by decide) low)⟩
    rintro rfl
    exact absurd low (by decide)
  · rintro rfl
    exact absurd low (by decide)
  · rintro rfl
    exact absurd low (by decide)

theorem takeWhile_front {front rest : Bytes} {inside : UInt8 → Bool}
    (all : ∀ char ∈ front, inside char = true)
    (stops : ∀ char ∈ rest.head?, inside char = false) :
    (front ++ rest).takeWhile inside = front := by
  rw [List.takeWhile_append_of_pos all]
  cases rest with
  | nil => simp
  | cons next later => simp [stops next rfl]

theorem dropWhile_front {front rest : Bytes} {inside : UInt8 → Bool}
    (all : ∀ char ∈ front, inside char = true)
    (stops : ∀ char ∈ rest.head?, inside char = false) :
    (front ++ rest).dropWhile inside = rest := by
  rw [List.dropWhile_append_of_pos all]
  cases rest with
  | nil => rfl
  | cons next later => simp [stops next rfl]

theorem head_dropWhile {text : Bytes} {inside : UInt8 → Bool} :
    ∀ char ∈ (text.dropWhile inside).head?, inside char = false := by
  intro char first
  have stopped := List.head?_dropWhile_not inside text
  rw [Option.mem_def.mp first] at stopped
  simpa using stopped

theorem signOf_split (text : Bytes) :
    ∃ sign, text = sign ++ (signOf text).2 ∧
      ((sign = [] ∨ sign = [43]) ∧ (signOf text).1 = false ∨
        sign = [45] ∧ (signOf text).1 = true) := by
  unfold signOf
  split
  · exact ⟨[43], rfl, .inl ⟨.inr rfl, rfl⟩⟩
  · exact ⟨[45], rfl, .inr ⟨rfl, rfl⟩⟩
  · exact ⟨[], rfl, .inl ⟨.inl rfl, rfl⟩⟩

theorem signOf_digits {digits rest : Bytes} (some_digits : digits ≠ [])
    (all : ∀ char ∈ digits, isDigit char = true) :
    signOf (digits ++ rest) = (false, digits ++ rest) := by
  cases digits with
  | nil => exact absurd rfl some_digits
  | cons first more =>
      obtain ⟨_, plus, minus⟩ := digit_plain (all first (List.mem_cons_self ..))
      rw [List.cons_append]
      unfold signOf
      split
      next same => exact absurd (List.cons.inj same).1 plus
      next same => exact absurd (List.cons.inj same).1 minus
      next => rfl

theorem pipePort_loose {portText : Bytes} {port : Nat} (loose : LoosePort portText port) :
    pipePort portText = .ok port := by
  obtain ⟨blanks, sign, digits, rest, port, blank, all, some_digits, stops, small, value, low,
    high⟩ := loose
  have first_digit : ∀ char ∈ (digits ++ rest).head?, isSpace char = false := by
    cases digits with
    | nil => exact absurd rfl some_digits
    | cons first more =>
        intro char here
        cases here
        exact (digit_plain (all first (List.mem_cons_self ..))).1
  have first_plain : ∀ char ∈ (sign ++ (digits ++ rest)).head?, isSpace char = false := by
    rcases value with ⟨rfl | rfl, _⟩ | ⟨rfl, _⟩
    · exact first_digit
    · intro char here
      cases here
      rfl
    · intro char here
      cases here
      rfl
  have number : (digits ++ rest).takeWhile isDigit = digits := takeWhile_front all stops
  have read : stoul (blanks ++ (sign ++ (digits ++ rest))) = .ok port := by
    unfold stoul
    rw [dropWhile_front blank first_plain]
    rcases value with ⟨rfl | rfl, rfl⟩ | ⟨rfl, rfl⟩
    · rw [List.nil_append, signOf_digits some_digits all]
      simp [number, some_digits, Nat.not_lt.mpr small, signed]
    · simp [signOf, number, some_digits, Nat.not_lt.mpr small, signed]
    · simp [signOf, number, some_digits, Nat.not_lt.mpr small, signed]
  rw [pipePort, read]
  exact if_neg (by omega)

theorem loose_of_pipePort {portText : Bytes} {port : Nat} (read : pipePort portText = .ok port) :
    LoosePort portText port := by
  unfold pipePort at read
  split at read
  · cases read
  next parsed found =>
    split_ifs at read with outside
    cases read
    unfold stoul at found
    obtain ⟨sign, split, value⟩ := signOf_split (portText.dropWhile isSpace)
    generalize signOf (portText.dropWhile isSpace) = outcome at split value found
    obtain ⟨negative, rest⟩ := outcome
    simp only at split value found
    split_ifs at found with none large
    have whole : portText = portText.takeWhile isSpace ++
        (sign ++ (rest.takeWhile isDigit ++ rest.dropWhile isDigit)) := by
      rw [List.takeWhile_append_dropWhile, ← split, List.takeWhile_append_dropWhile]
    have result := Except.ok.inj found
    rw [whole]
    refine LoosePort.reads _ sign _ _ port ?_ ?_ none head_dropWhile (Nat.not_lt.mp large) ?_
      (by omega) (by omega)
    · exact fun char inside => List.mem_takeWhile_imp inside
    · exact fun char inside => List.mem_takeWhile_imp inside
    · rcases value with ⟨plain, rfl⟩ | ⟨minus, rfl⟩
      · exact .inl ⟨plain, result.symm⟩
      · exact .inr ⟨minus, result.symm⟩

end Reading

section Cutting

theorem find_front {front rest : Bytes} {char : UInt8} (first : char ∉ front) :
    find [char] (front ++ char :: rest) = some front.length := by
  induction front with
  | nil => simp [find]
  | cons head tail ih =>
      obtain ⟨other, later⟩ := not_or.mp (mt List.mem_cons.mpr first)
      have behind : ¬ [char] <+: head :: (tail ++ char :: rest) := by
        simpa [List.cons_prefix_cons] using other
      rw [List.cons_append, find, if_neg behind, ih later]
      rfl

theorem find_split {text : Bytes} {char : UInt8} {position : Nat}
    (found : find [char] text = some position) :
    ∃ front rest, text = front ++ char :: rest ∧ char ∉ front ∧ position = front.length := by
  induction text generalizing position with
  | nil => cases found
  | cons head tail ih =>
      rw [find] at found
      split at found
      next here =>
        cases found
        obtain ⟨rfl, -⟩ := List.cons_prefix_cons.mp here
        exact ⟨[], tail, rfl, List.not_mem_nil, rfl⟩
      next behind =>
        have other : char ≠ head := by
          rintro rfl
          exact behind (by simp)
        obtain ⟨before, earlier, rfl⟩ := Option.map_eq_some_iff.mp found
        obtain ⟨front, rest, rfl, first, rfl⟩ := ih earlier
        exact ⟨head :: front, rest, rfl, List.not_mem_cons_of_ne_of_not_mem other first, rfl⟩

theorem findLast_front {front rest : Bytes} {char : UInt8} (last : char ∉ rest) :
    findLast char (front ++ char :: rest) = some front.length := by
  have turned : (front ++ char :: rest).reverse = rest.reverse ++ char :: front.reverse := by simp
  rw [findLast, turned, find_front (by simpa using last)]
  simp only [Option.map_some, List.length_append, List.length_cons, List.length_reverse,
    Option.some.injEq]
  omega

theorem findLast_split {text : Bytes} {char : UInt8} {position : Nat}
    (found : findLast char text = some position) :
    ∃ front rest, text = front ++ char :: rest ∧ char ∉ rest ∧ position = front.length := by
  obtain ⟨back, first, rfl⟩ := Option.map_eq_some_iff.mp found
  obtain ⟨later, before, turned, last, rfl⟩ := find_split first
  refine ⟨before.reverse, later.reverse, ?_, by simpa using last, ?_⟩
  · rw [← List.reverse_reverse text, turned]
    simp
  · have size := congrArg List.length turned
    simp only [List.length_reverse, List.length_append, List.length_cons] at size ⊢
    omega

/-- Host and port text, as both parsers cut them. -/
def located (spec : Bytes) : Option (Bytes × Bytes) :=
  if spec.head? = some 91 then
    match find [93] spec with
    | none => none
    | some bracketEnd =>
        if spec[bracketEnd + 1]? ≠ some 58 then none
        else some ((spec.drop 1).take (bracketEnd - 1), spec.drop (bracketEnd + 2))
  else
    match findLast 58 spec with
    | none => none
    | some colon => if colon = 0 then none else some (spec.take colon, spec.drop (colon + 1))

theorem located_of_cut {spec host portText : Bytes} (cut : Cut spec host portText) :
    located spec = some (host, portText) := by
  cases cut with
  | plain host portText some_host plain last =>
      have head : (host ++ 58 :: portText).head? ≠ some 91 := by
        rwa [List.head?_append_of_ne_nil _ some_host]
      rw [located, if_neg head, findLast_front last]
      simp [some_host]
  | bracketed host portText inside =>
      have early : (93 : UInt8) ∉ 91 :: host := by simpa using inside
      have close : find [93] ((91 :: host) ++ 93 :: 58 :: portText) = some (91 :: host).length :=
        find_front early
      rw [List.cons_append] at close
      simp [located, close]

theorem cut_of_located {spec host portText : Bytes} (found : located spec = some (host, portText)) :
    Cut spec host portText := by
  unfold located at found
  split at found
  next bracket =>
    split at found
    · cases found
    next bracketEnd close =>
      split_ifs at found with behind
      obtain ⟨front, rest, rfl, early, rfl⟩ := find_split close
      cases front with
      | nil => simp at bracket
      | cons head inside =>
          cases bracket
          have colon : rest.head? = some 58 := by
            rw [not_not, List.getElem?_append_right (Nat.le_succ _)] at behind
            simpa [List.head?_eq_getElem?] using behind
          obtain ⟨rest, rfl⟩ : ∃ portText, rest = 58 :: portText := by
            cases rest with
            | nil => cases colon
            | cons next portText =>
                cases colon
                exact ⟨portText, rfl⟩
          obtain ⟨rfl, rfl⟩ : inside = host ∧ rest = portText := by simpa using found
          exact .bracketed inside rest fun early_inside => early (List.mem_cons_of_mem _ early_inside)
  next plain =>
    split at found
    · cases found
    next colon last =>
      split_ifs at found with first
      obtain ⟨front, rest, rfl, only, rfl⟩ := findLast_split last
      obtain ⟨rfl, rfl⟩ : front = host ∧ rest = portText := by simpa using found
      have some_front : front ≠ [] := fun none => first (List.length_eq_zero_iff.mpr none)
      refine .plain front rest some_front ?_ only
      rwa [List.head?_append_of_ne_nil _ some_front] at plain

end Cutting

section Agreement

/-- A parser that cuts the text and has the port read. -/
def viaPort (readPort : Bytes → Option Nat) (spec : Bytes) : Option Destination :=
  (located spec).bind fun (host, portText) =>
    (readPort portText).map fun port => { host := host, port := port }

theorem viaPort_iff {readPort : Bytes → Option Nat} {spec : Bytes} {target : Destination} :
    viaPort readPort spec = some target ↔
      ∃ portText, Cut spec target.host portText ∧ readPort portText = some target.port := by
  constructor
  · intro found
    obtain ⟨⟨host, portText⟩, cut, found⟩ := Option.bind_eq_some_iff.mp found
    obtain ⟨port, read, rfl⟩ := Option.map_eq_some_iff.mp found
    exact ⟨portText, cut_of_located cut, read⟩
  · rintro ⟨portText, cut, read⟩
    simp [viaPort, located_of_cut cut, read]

theorem toOption_map {Fault Value Result : Type} (outcome : Except Fault Value)
    (change : Value → Result) : (outcome.map change).toOption = outcome.toOption.map change := by
  cases outcome <;> rfl

theorem parsePipeTarget_via (spec : Bytes) :
    (parsePipeTarget spec).toOption = viaPort (fun portText => (pipePort portText).toOption) spec := by
  by_cases bracket : spec.head? = some 91
  · rw [parsePipeTarget, viaPort, located, if_pos bracket, if_pos bracket]
    cases find [93] spec with
    | none => rfl
    | some bracketEnd =>
        by_cases colon : spec[bracketEnd + 1]? = some 58
        · simp [colon, toOption_map]
        · simp [colon]
          rfl
  · rw [parsePipeTarget, viaPort, located, if_neg bracket, if_neg bracket]
    cases findLast 58 spec with
    | none => rfl
    | some colon =>
        by_cases first : colon = 0
        · simp [first]
          rfl
        · by_cases bare : colon = spec.length - 1
          · have nothing : spec.drop (colon + 1) = [] := List.drop_eq_nil_of_le (by omega)
            dsimp only
            rw [if_pos (.inr bare), if_neg first, Option.bind_some, nothing]
            rfl
          · simp [first, bare, toOption_map]

theorem hostAndPort_via {readPort : Bytes → Option Nat} (nothing : readPort [] = none)
    (spec : Bytes) : hostAndPort readPort spec = viaPort readPort spec := by
  by_cases bracket : spec.head? = some 91
  · rw [hostAndPort, viaPort, located, if_pos bracket, if_pos bracket]
    cases close : find [93] spec with
    | none => simp [show find (ascii "]") spec = none from close]
    | some bracketEnd =>
        by_cases colon : spec[bracketEnd + 1]? = some 58
        · simp [show find (ascii "]") spec = some bracketEnd from close, colon]
        · simp [show find (ascii "]") spec = some bracketEnd from close, colon]
  · rw [hostAndPort, viaPort, located, if_neg bracket, if_neg bracket]
    cases findLast 58 spec with
    | none => rfl
    | some colon =>
        by_cases first : colon = 0
        · simp [first]
        · by_cases bare : spec.length ≤ colon + 1
          · have behind : spec.drop (colon + 1) = [] := List.drop_eq_nil_of_le bare
            dsimp only
            rw [if_neg first, Option.bind_some, if_pos (.inr bare)]
            dsimp only
            rw [behind, nothing]
            rfl
          · simp [first, bare]

theorem listenSpec_host {spec : Bytes} {target : Destination}
    (read : parseListenSpec spec = some target) (inner : Bytes) :
    target.host ≠ 91 :: (inner ++ [93]) := by
  rw [parseListenSpec, hostAndPort_via rfl, viaPort_iff] at read
  obtain ⟨portText, cut, _⟩ := read
  generalize target.host = host at cut
  rintro rfl
  cases cut with
  | plain _ _ _ plain => exact plain rfl
  | bracketed _ _ inside => exact inside (by simp)

theorem parsePipeTarget_iff (spec : Bytes) (target : Destination) :
    parsePipeTarget spec = .ok target ↔
      ∃ portText, Cut spec target.host portText ∧ LoosePort portText target.port := by
  have option (outcome : Except String Destination) :
      outcome = .ok target ↔ outcome.toOption = some target := by
    cases outcome <;> simp [Except.toOption]
  rw [option, parsePipeTarget_via, viaPort_iff]
  constructor
  · rintro ⟨portText, cut, read⟩
    refine ⟨portText, cut, loose_of_pipePort ?_⟩
    cases outcome : pipePort portText with
    | error text => simp [outcome, Except.toOption] at read
    | ok port => simpa [outcome, Except.toOption] using read
  · rintro ⟨portText, cut, loose⟩
    exact ⟨portText, cut, by rw [pipePort_loose loose]; rfl⟩

theorem parsePort_iff (number : Bytes) (port : Nat) :
    parsePort number = some port ↔ IsPort number port := by
  unfold parsePort
  constructor
  · intro read
    split_ifs at read with empty other
    have inside : (if decimalValue number = 0 ∨ 65535 < decimalValue number then Option.none
        else some (decimalValue number)) = some port := read
    split_ifs at inside with outside
    cases inside
    have all : ∀ char ∈ number, isDigit char = true := by simpa using other
    exact ⟨all, rfl, by omega⟩
  · rintro ⟨all, rfl, low, high⟩
    have some_digits : number ≠ [] := by
      rintro rfl
      exact absurd low (by decide)
    have digits : number.all isDigit = true := List.all_eq_true.mpr all
    have inside : ¬ (decimalValue number = 0 ∨ 65535 < decimalValue number) := by omega
    simp [some_digits, digits, inside]

theorem parseAuthority_iff (authority : Bytes) (target : Destination) :
    parseAuthority authority = some target ↔
      ∃ portText, Cut authority target.host portText ∧ IsPort portText target.port := by
  simp only [parseAuthority_eq, hostAndPort_via (show parsePort [] = none from rfl), viaPort_iff,
    parsePort_iff]

theorem digit_not_colon {number : Bytes} (all : ∀ char ∈ number, isDigit char = true) :
    58 ∉ number := fun colon => absurd (all 58 colon) (by decide)

theorem endpoint_iff (spec : Bytes) (target : Destination) :
    Endpoint spec target ↔
      target.host ≠ [] ∧ ∃ portText, Cut spec target.host portText ∧ IsPort portText target.port := by
  constructor
  · intro formed
    cases formed with
    | plain host digits port some_host plain number =>
        exact ⟨some_host, digits, .plain host digits some_host plain
          (digit_not_colon number.digits), number⟩
    | bracketed host digits port some_host inside number =>
        exact ⟨some_host, digits, .bracketed host digits inside, number⟩
  · obtain ⟨host, port⟩ := target
    rintro ⟨some_host, portText, cut, number⟩
    cases cut with
    | plain _ _ _ plain => exact .plain host portText port some_host plain number
    | bracketed _ _ inside => exact .bracketed host portText port some_host inside number

theorem IsPort.loose {number : Bytes} {port : Nat} (digits : IsPort number port) :
    LoosePort number port := by
  have some_digits : number ≠ [] := by
    rintro rfl
    have := digits.value
    have := digits.range.1
    simp [decimalValue] at *
    omega
  have small : decimalValue number ≤ kUlongMax := by
    rw [digits.value]
    exact Nat.le_trans digits.range.2 (by decide)
  have read := LoosePort.reads [] [] number [] port (by simp) digits.digits some_digits (by simp)
    small (.inl ⟨.inl rfl, digits.value.symm⟩) digits.range.1 digits.range.2
  simpa using read

/-- Both parsers accept the texts of the grammar and no others, with the same host and port. -/
structure Agree (spec : Bytes) : Prop where
  pipe : (∃ target, parsePipeTarget spec = .ok target) ↔ ∃ target, Endpoint spec target
  connect : (∃ target, parseAuthority spec = some target) ↔ ∃ target, Endpoint spec target
  same : ∀ target other, parsePipeTarget spec = .ok target → parseAuthority spec = some other →
    target = other ∧ Endpoint spec target

/-- Brackets around nothing, or a port that `stoul` reads though not all of it is digits. -/
def Tolerated (spec : Bytes) : Prop :=
  ∃ host portText port, Cut spec host portText ∧ LoosePort portText port ∧
    (host = [] ∨ ∃ char ∈ portText, isDigit char = false)

theorem none_of_digits {text : Bytes} {outside : UInt8 → Bool}
    (all : ∀ char ∈ text, isDigit char = true) (other : ∀ char ∈ text, outside char = true)
    (apart : ∀ char, isDigit char = true → outside char = false) : text = [] := by
  cases text with
  | nil => rfl
  | cons first rest =>
      have digit := all first (List.mem_cons_self ..)
      have strange := other first (List.mem_cons_self ..)
      rw [apart first digit] at strange
      cases strange

theorem LoosePort.strict {number : Bytes} {port : Nat} (loose : LoosePort number port)
    (all : ∀ char ∈ number, isDigit char = true) : IsPort number port := by
  obtain ⟨blanks, sign, digits, rest, port, blank, _, _, stops, _, value, low, high⟩ := loose
  have no_blanks : blanks = [] :=
    none_of_digits (fun char inside => all char (List.mem_append_left _ inside)) blank
      fun char digit => (digit_plain digit).1
  subst no_blanks
  rw [List.nil_append] at all ⊢
  have no_rest : rest = [] := by
    cases rest with
    | nil => rfl
    | cons next later =>
        have digit := all next (by simp)
        rw [stops next rfl] at digit
        cases digit
  subst no_rest
  rcases value with ⟨rfl | rfl, value⟩ | ⟨rfl, value⟩
  · rw [List.nil_append, List.append_nil] at all ⊢
    exact ⟨all, value.symm, low, high⟩
  · exact absurd (all 43 (by simp)) (by decide)
  · exact absurd (all 45 (by simp)) (by decide)

theorem Cut.unique {spec host portText other text : Bytes} (cut : Cut spec host portText)
    (cut' : Cut spec other text) : host = other ∧ portText = text := by
  have same := (located_of_cut cut).symm.trans (located_of_cut cut')
  simpa using same

theorem parsers_agree_iff (spec : Bytes) : Agree spec ↔ ¬ Tolerated spec := by
  constructor
  · rintro agree ⟨host, portText, port, cut, loose, wrong⟩
    have accepted := (parsePipeTarget_iff spec ⟨host, port⟩).mpr ⟨portText, cut, loose⟩
    obtain ⟨target, formed⟩ := agree.pipe.mp ⟨_, accepted⟩
    obtain ⟨some_host, digits, cut', number⟩ := (endpoint_iff spec target).mp formed
    obtain ⟨same, rfl⟩ := cut.unique cut'
    rcases wrong with none | ⟨char, inside, other⟩
    · exact some_host (same.symm.trans none)
    · exact absurd (number.digits char inside) (by simp [other])
  · intro strict
    -- What the pipe target's parser accepts is a text of the grammar.
    have exact_pipe (target : Destination) (accepted : parsePipeTarget spec = .ok target) :
        Endpoint spec target := by
      obtain ⟨portText, cut, loose⟩ := (parsePipeTarget_iff spec target).mp accepted
      refine (endpoint_iff spec target).mpr ⟨?_, portText, cut, loose.strict ?_⟩
      · intro none
        exact strict ⟨_, _, _, cut, loose, .inl none⟩
      · intro char inside
        by_contra other
        exact strict ⟨_, _, _, cut, loose, .inr ⟨char, inside, by simpa using other⟩⟩
    have exact_connect (target : Destination) (accepted : parseAuthority spec = some target) :
        Endpoint spec target := by
      obtain ⟨portText, cut, digits⟩ := (parseAuthority_iff spec target).mp accepted
      refine (endpoint_iff spec target).mpr ⟨?_, portText, cut, digits⟩
      intro none
      exact strict ⟨_, _, _, cut, digits.loose, .inl none⟩
    constructor
    · constructor
      · rintro ⟨target, accepted⟩
        exact ⟨target, exact_pipe target accepted⟩
      · rintro ⟨target, formed⟩
        obtain ⟨_, digits, cut, number⟩ := (endpoint_iff spec target).mp formed
        exact ⟨target, (parsePipeTarget_iff spec target).mpr ⟨digits, cut, number.loose⟩⟩
    · constructor
      · rintro ⟨target, accepted⟩
        exact ⟨target, exact_connect target accepted⟩
      · rintro ⟨target, formed⟩
        obtain ⟨_, digits, cut, number⟩ := (endpoint_iff spec target).mp formed
        exact ⟨target, (parseAuthority_iff spec target).mpr ⟨digits, cut, number⟩⟩
    · intro target other accepted accepted'
      refine ⟨?_, exact_pipe target accepted⟩
      obtain ⟨portText, cut, number⟩ := (parseAuthority_iff spec other).mp accepted'
      have also := (parsePipeTarget_iff spec other).mpr ⟨portText, cut, number.loose⟩
      rw [also] at accepted
      exact (Except.ok.inj accepted).symm

/-- `web:80x` is accepted by the pipe target's parser and refused by the other one. -/
theorem trailing_text_tolerated : ¬ Agree (ascii "web:80x") := by
  intro agree
  obtain ⟨target, formed⟩ := agree.pipe.mp ⟨⟨ascii "web", 80⟩, rfl⟩
  obtain ⟨other, accepted⟩ := agree.connect.mpr ⟨target, formed⟩
  have refused : parseAuthority (ascii "web:80x") = none := by decide
  rw [refused] at accepted
  cases accepted

end Agreement

end ToxTunnel.EndpointGrammar
