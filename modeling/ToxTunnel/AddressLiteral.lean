import ToxTunnel.GlobLanguage

/-!
Texts of numeric IP addresses: four decimal numbers with dots between them, and the
colon-separated hexadecimal groups of IPv6 with one run of zero groups left out, a dotted
address in place of the last two groups and a scope behind a '%'.
-/

namespace ToxTunnel.AddressLiteral
open GlobLanguage

abbrev Text := List UInt8

inductive Address where
  | v4 (first second third fourth : UInt8)
  | v6 (groups : List UInt16) (scope : Text)
  deriving DecidableEq

/-- `::1` -/
def loopbackGroups : List UInt16 := [0, 0, 0, 0, 0, 0, 0, 1]

/-- 127.0.0.0/8, and `::1` whatever its scope. -/
def Address.isLoopback : Address → Bool
  | .v4 first _ _ _ => first == 127
  | .v6 groups _ => groups == loopbackGroups

section Grammar

/-- '.' -/
def dot : UInt8 := 46

/-- ':' -/
def colon : UInt8 := 58

/-- '%' -/
def percent : UInt8 := 37

def decimalDigit (char : UInt8) : Option Nat :=
  if 48 ≤ char ∧ char ≤ 57 then some (char.toNat - 48) else none

def hexDigit (char : UInt8) : Option Nat :=
  if 48 ≤ char ∧ char ≤ 57 then some (char.toNat - 48)
  else if 97 ≤ char ∧ char ≤ 102 then some (char.toNat - 87)
  else if 65 ≤ char ∧ char ≤ 70 then some (char.toNat - 55)
  else none

/-- The number that digits of a base denote. -/
def numeral (base : Nat) (digit : UInt8 → Option Nat) : Nat → Text → Option Nat
  | value, [] => some value
  | value, char :: rest =>
      (digit char).bind fun low => numeral base digit (base * value + low) rest

/-- One to three decimal digits. -/
structure Octet (text : Text) (value : UInt8) : Prop where
  size : 1 ≤ text.length ∧ text.length ≤ 3
  value : numeral 10 decimalDigit 0 text = some value.toNat

inductive Dotted : Text → UInt8 → UInt8 → UInt8 → UInt8 → Prop where
  | quad (one two three four : Text) (first second third fourth : UInt8) :
      Octet one first → Octet two second → Octet three third → Octet four fourth →
      Dotted (one ++ dot :: (two ++ dot :: (three ++ dot :: four))) first second third fourth

/-- One to four hexadecimal digits. -/
structure HexGroup (text : Text) (value : UInt16) : Prop where
  size : 1 ≤ text.length ∧ text.length ≤ 4
  value : numeral 16 hexDigit 0 text = some value.toNat

def pair (high low : UInt8) : UInt16 := 256 * high.toUInt16 + low.toUInt16

/-- Groups with colons between them; only the end of an address may be dotted. -/
inductive Groups (ending : Bool) : Text → List UInt16 → Prop where
  | last (text : Text) (value : UInt16) : HexGroup text value → Groups ending text [value]
  | dotted (text : Text) (first second third fourth : UInt8) : ending = true →
      Dotted text first second third fourth →
      Groups ending text [pair first second, pair third fourth]
  | more (text rest : Text) (value : UInt16) (values : List UInt16) : HexGroup text value →
      Groups ending rest values → Groups ending (text ++ colon :: rest) (value :: values)

/-- What stands on one side of the omitted groups. -/
inductive Side (ending : Bool) : Text → List UInt16 → Prop where
  | nothing : Side ending [] []
  | groups (text : Text) (values : List UInt16) : Groups ending text values →
      Side ending text values

inductive Colons : Text → List UInt16 → Prop where
  | full (text : Text) (values : List UInt16) : Groups true text values → values.length = 8 →
      Colons text values
  | omitted (left right : Text) (before after : List UInt16) : Side false left before →
      Side true right after → before.length + after.length < 8 →
      Colons (left ++ colon :: colon :: right)
        (before ++ (List.replicate (8 - before.length - after.length) 0 ++ after))

inductive Literal : Text → Address → Prop where
  | v4 (text : Text) (first second third fourth : UInt8) :
      Dotted text first second third fourth → Literal text (.v4 first second third fourth)
  | v6 (text : Text) (groups : List UInt16) : Colons text groups → Literal text (.v6 groups [])
  | zoned (text scope : Text) (groups : List UInt16) : Colons text groups →
      Literal (text ++ percent :: scope) (.v6 groups scope)

end Grammar

section Digits

theorem numeral_all {base : Nat} {digit : UInt8 → Option Nat} {value result : Nat} {text : Text}
    (read : numeral base digit value text = some result) :
    ∀ char ∈ text, (digit char).isSome = true := by
  induction text generalizing value with
  | nil => simp
  | cons first rest ih =>
      obtain ⟨low, here, later⟩ := Option.bind_eq_some_iff.mp read
      intro char inside
      rcases List.mem_cons.mp inside with rfl | inside
      · rw [here]
        rfl
      · exact ih later char inside

theorem Octet.digits {text : Text} {value : UInt8} (octet : Octet text value) :
    ∀ char ∈ text, (decimalDigit char).isSome = true := numeral_all octet.value

theorem HexGroup.digits {text : Text} {value : UInt16} (group : HexGroup text value) :
    ∀ char ∈ text, (hexDigit char).isSome = true := numeral_all group.value

theorem hexDigit_of_decimal {char : UInt8} (digit : (decimalDigit char).isSome = true) :
    (hexDigit char).isSome = true := by
  unfold decimalDigit at digit
  split at digit
  next inside => simp [hexDigit, inside]
  next => cases digit

theorem not_mem_of_digits {digit : UInt8 → Option Nat} {text : Text} {char : UInt8}
    (all : ∀ char ∈ text, (digit char).isSome = true) (other : digit char = none) :
    char ∉ text := by
  intro inside
  have found := all char inside
  rw [other] at found
  cases found

end Digits

section Beginnings

theorem Dotted.split {text : Text} {first second third fourth : UInt8}
    (dotted : Dotted text first second third fourth) :
    ∃ one rest, SplitsAt dot text one rest ∧ Octet one first := by
  obtain ⟨one, two, three, four, _, _, _, _, octet, _, _, _⟩ := dotted
  refine ⟨one, _, ⟨rfl, not_mem_of_digits octet.digits rfl⟩, octet⟩

theorem octet_first {text : Text} {value : UInt8} (octet : Octet text value) :
    ∃ first rest, text = first :: rest ∧ (decimalDigit first).isSome = true := by
  cases text with
  | nil => exact absurd octet.size.1 (by decide)
  | cons first rest => exact ⟨first, rest, rfl, octet.digits first (List.mem_cons_self ..)⟩

theorem group_first {text : Text} {value : UInt16} (group : HexGroup text value) :
    ∃ first rest, text = first :: rest ∧ (hexDigit first).isSome = true := by
  cases text with
  | nil => exact absurd group.size.1 (by decide)
  | cons first rest => exact ⟨first, rest, rfl, group.digits first (List.mem_cons_self ..)⟩

theorem groups_first {ending : Bool} {text : Text} {values : List UInt16}
    (groups : Groups ending text values) :
    ∃ first rest, text = first :: rest ∧ (hexDigit first).isSome = true := by
  cases groups with
  | last text value group => exact group_first group
  | dotted text first second third fourth _ dotted =>
      obtain ⟨one, rest, split, octet⟩ := dotted.split
      obtain ⟨first, more, rfl, digit⟩ := octet_first octet
      exact ⟨first, more ++ dot :: rest, split.shape, hexDigit_of_decimal digit⟩
  | more text rest value values group =>
      obtain ⟨first, more, rfl, digit⟩ := group_first group
      exact ⟨first, more ++ colon :: rest, rfl, digit⟩

/-- Of two groups or more that are not one dotted address, the first ends with a colon. -/
theorem groups_colon {ending : Bool} {text : Text} {values : List UInt16}
    (groups : Groups ending text values) (several : 2 < values.length) :
    ∃ front rest, SplitsAt colon text front rest ∧ ∀ char ∈ front, (hexDigit char).isSome = true := by
  cases groups with
  | last text value group => exact absurd several (by simp)
  | dotted text first second third fourth _ dotted => exact absurd several (by simp)
  | more text rest value values group =>
      exact ⟨text, rest, ⟨rfl, not_mem_of_digits group.digits rfl⟩, group.digits⟩

/-- An IPv6 address has a colon, with nothing but hexadecimal digits before the first. -/
theorem colons_split {text : Text} {groups : List UInt16} (formed : Colons text groups) :
    ∃ front rest, SplitsAt colon text front rest ∧
      ∀ char ∈ front, (hexDigit char).isSome = true := by
  cases formed with
  | full text values found eight => exact groups_colon found (by omega)
  | omitted left right before after side _ _ =>
      cases side with
      | nothing => exact ⟨[], _, ⟨rfl, List.not_mem_nil⟩, by simp⟩
      | groups text values found =>
          cases found with
          | last text value group =>
              exact ⟨left, _, ⟨rfl, not_mem_of_digits group.digits rfl⟩, group.digits⟩
          | dotted text first second third fourth never => cases never
          | more text rest value values group =>
              refine ⟨text, rest ++ colon :: colon :: right, ⟨?_, ?_⟩, group.digits⟩
              · simp
              · exact not_mem_of_digits group.digits rfl

theorem literal_first {text : Text} {address : Address} (literal : Literal text address) :
    ∃ first rest, text = first :: rest ∧ ((hexDigit first).isSome = true ∨ first = colon) := by
  have of_colons {text : Text} {groups : List UInt16} (formed : Colons text groups) :
      ∃ first rest, text = first :: rest ∧ ((hexDigit first).isSome = true ∨ first = colon) := by
    obtain ⟨front, rest, split, digits⟩ := colons_split formed
    cases front with
    | nil => exact ⟨colon, rest, split.shape, .inr rfl⟩
    | cons first more =>
        exact ⟨first, more ++ colon :: rest, split.shape, .inl (digits first (List.mem_cons_self ..))⟩
  cases literal with
  | v4 text first second third fourth dotted =>
      obtain ⟨one, rest, split, octet⟩ := dotted.split
      obtain ⟨first, more, rfl, digit⟩ := octet_first octet
      exact ⟨first, more ++ dot :: rest, split.shape, .inl (hexDigit_of_decimal digit)⟩
  | v6 text groups formed => exact of_colons formed
  | zoned text scope groups formed =>
      obtain ⟨first, rest, rfl, begins⟩ := of_colons formed
      exact ⟨first, rest ++ percent :: scope, rfl, begins⟩

end Beginnings

section Loopback

/-- "127." -/
def loopbackFront : Text := [49, 50, 55, 46]

theorem prefix_before {front text rest : Text} {char : UInt8} (begins : front <+: text ++ char :: rest)
    (other : char ∉ front) : front <+: text := by
  induction front generalizing text with
  | nil => exact List.nil_prefix
  | cons first more ih =>
      obtain ⟨unlike, later⟩ := not_or.mp (mt List.mem_cons.mpr other)
      cases text with
      | nil => exact absurd (List.cons_prefix_cons.mp begins).1.symm unlike
      | cons head tail =>
          obtain ⟨rfl, behind⟩ := List.cons_prefix_cons.mp begins
          exact List.cons_prefix_cons.mpr ⟨rfl, ih behind later⟩

theorem digit_bounds {char : UInt8} {value : Nat} (digit : decimalDigit char = some value) :
    value ≤ 9 ∧ char.toNat = 48 + value := by
  unfold decimalDigit at digit
  split at digit
  next inside =>
    simp only [UInt8.le_iff_toNat_le] at inside
    have low : 48 ≤ char.toNat := inside.1
    have high : char.toNat ≤ 57 := inside.2
    cases digit
    omega
  next => cases digit

theorem octet_127 {text : Text} (octet : Octet text 127) : text = [49, 50, 55] := by
  obtain ⟨⟨low, high⟩, read⟩ := octet
  have total : (127 : UInt8).toNat = 127 := rfl
  rw [total] at read
  match text with
  | [] => exact absurd low (by decide)
  | [one] =>
      obtain ⟨first, one_is, read⟩ := Option.bind_eq_some_iff.mp read
      have := digit_bounds one_is
      have sum := Option.some.inj read
      omega
  | [one, two] =>
      obtain ⟨first, one_is, read⟩ := Option.bind_eq_some_iff.mp read
      obtain ⟨second, two_is, read⟩ := Option.bind_eq_some_iff.mp read
      have := digit_bounds one_is
      have := digit_bounds two_is
      have sum := Option.some.inj read
      omega
  | [one, two, three] =>
      obtain ⟨first, one_is, read⟩ := Option.bind_eq_some_iff.mp read
      obtain ⟨second, two_is, read⟩ := Option.bind_eq_some_iff.mp read
      obtain ⟨third, three_is, read⟩ := Option.bind_eq_some_iff.mp read
      have := digit_bounds one_is
      have := digit_bounds two_is
      have := digit_bounds three_is
      have sum := Option.some.inj read
      have one_char : one = 49 := UInt8.toNat_inj.mp (by show one.toNat = 49; omega)
      have two_char : two = 50 := UInt8.toNat_inj.mp (by show two.toNat = 50; omega)
      have three_char : three = 55 := UInt8.toNat_inj.mp (by show three.toNat = 55; omega)
      rw [one_char, two_char, three_char]
  | _ :: _ :: _ :: _ :: _ =>
      simp only [List.length_cons] at high
      omega

theorem dotted_127_iff {text : Text} {first second third fourth : UInt8}
    (dotted : Dotted text first second third fourth) : first = 127 ↔ loopbackFront <+: text := by
  obtain ⟨one, rest, split, octet⟩ := dotted.split
  constructor
  · rintro rfl
    rw [octet_127 octet] at split
    exact ⟨rest, split.shape.symm⟩
  · rintro ⟨more, shape⟩
    have other : SplitsAt dot text [49, 50, 55] more := ⟨shape.symm, by decide⟩
    obtain ⟨rfl, -⟩ := split.unique other
    have read := octet.value
    have number : numeral 10 decimalDigit 0 [49, 50, 55] = some 127 := by decide
    rw [number] at read
    exact UInt8.toNat_inj.mp (Option.some.inj read).symm

theorem colons_not_dotted {text : Text} {groups : List UInt16} (formed : Colons text groups)
    (more : Text) :
    ¬ loopbackFront <+: text ++ more := by
  intro begins
  obtain ⟨front, rest, split, digits⟩ := colons_split formed
  rw [split.shape, List.append_assoc, List.cons_append] at begins
  obtain ⟨tail, rfl⟩ := prefix_before begins (by decide)
  exact absurd (digits dot (List.mem_append_left tail (by decide))) (by decide)

theorem literal_v6_not_dotted {text scope : Text} {groups : List UInt16}
    (literal : Literal text (.v6 groups scope)) : ¬ loopbackFront <+: text := by
  intro begins
  cases literal with
  | v6 text groups formed => exact colons_not_dotted formed [] (by simpa using begins)
  | zoned text scope groups formed => exact colons_not_dotted formed _ begins

theorem literal_loopbackFront {text : Text} {address : Address} (literal : Literal text address)
    (begins : loopbackFront <+: text) : address.isLoopback = true := by
  cases address with
  | v4 first second third fourth =>
      cases literal with
      | v4 text first second third fourth dotted =>
          rw [(dotted_127_iff dotted).mpr begins]
          rfl
  | v6 groups scope => exact absurd begins (literal_v6_not_dotted literal)

theorem literal_loopback {text : Text} {address : Address} (literal : Literal text address)
    (loopback : address.isLoopback = true) :
    loopbackFront <+: text ∨ ∃ scope, address = .v6 loopbackGroups scope := by
  cases literal with
  | v4 text first second third fourth dotted =>
      exact .inl ((dotted_127_iff dotted).mp (beq_iff_eq.mp loopback))
  | v6 text groups formed =>
      rw [show groups = loopbackGroups from beq_iff_eq.mp loopback]
      exact .inr ⟨[], rfl⟩
  | zoned text scope groups formed =>
      rw [show groups = loopbackGroups from beq_iff_eq.mp loopback]
      exact .inr ⟨scope, rfl⟩

/-- "::" with the group ffff behind it, in one case, and a dotted address of 127.0.0.0/8. -/
def MappedFront (front : Text) : Prop :=
  ∃ group, (group = [102, 102, 102, 102] ∨ group = [70, 70, 70, 70]) ∧
    front = colon :: colon :: (group ++ colon :: loopbackFront)

theorem groups_ffff {text group more : Text} {values : List UInt16}
    (groups : Groups true text values)
    (same : text = group ++ colon :: more)
    (letters : group = [102, 102, 102, 102] ∨ group = [70, 70, 70, 70]) :
    (65535 : UInt16) ∈ values := by
  have group_free : colon ∉ group := by rcases letters with rfl | rfl <;> decide
  have split : SplitsAt colon text group more := ⟨same, group_free⟩
  cases groups with
  | last text value found =>
      have inside : colon ∈ text := by simp [same]
      exact absurd (found.digits colon inside) (by decide)
  | dotted text first second third fourth _ dotted =>
      obtain ⟨one, rest, shape, octet⟩ := dotted.split
      obtain ⟨head, tail, rfl, digit⟩ := octet_first octet
      have heads := congrArg List.head? (shape.shape.symm.trans same)
      rcases letters with rfl | rfl
      · cases heads
        exact absurd digit (by decide)
      · cases heads
        exact absurd digit (by decide)
  | more front rest value values found =>
      obtain ⟨rfl, rfl⟩ := split.unique ⟨rfl, not_mem_of_digits found.digits rfl⟩
      have number : numeral 16 hexDigit 0 group = some 65535 := by
        rcases letters with rfl | rfl <;> decide
      have read := found.value
      rw [number] at read
      have full : value = 65535 := UInt16.toNat_inj.mp (Option.some.inj read).symm
      rw [full]
      exact List.mem_cons_self ..

theorem colons_mapped {text front more : Text} {groups : List UInt16} (formed : Colons text groups)
    (mapped : MappedFront front) (begins : text = front ++ more) : groups ≠ loopbackGroups := by
  obtain ⟨group, letters, rfl⟩ := mapped
  have first : text.head? = some colon := by rw [begins]; rfl
  intro loopback
  cases formed with
  | full text values found =>
      obtain ⟨head, rest, rfl, digit⟩ := groups_first found
      cases first
      exact absurd digit (by decide)
  | omitted left right before after side behind =>
      cases side with
      | groups text values found =>
          obtain ⟨head, rest, rfl, digit⟩ := groups_first found
          cases first
          exact absurd digit (by decide)
      | nothing =>
          have rest : right = group ++ colon :: (loopbackFront ++ more) := by simpa using begins
          have ffff : (65535 : UInt16) ∈ after := by
            cases behind with
            | nothing => rcases letters with rfl | rfl <;> cases rest
            | groups text values found => exact groups_ffff found rest letters
          have inside : (65535 : UInt16) ∈ loopbackGroups := by
            rw [← loopback]
            exact List.mem_append_right _ (List.mem_append_right _ ffff)
          exact absurd inside (by decide)

theorem literal_mapped {text front : Text} {address : Address} (literal : Literal text address)
    (mapped : MappedFront front) (begins : front <+: text) : address.isLoopback = false := by
  have of_colons {text : Text} {groups : List UInt16} (formed : Colons text groups)
      (more : Text) (begins : front <+: text ++ percent :: more ∨ front <+: text) :
      (groups == loopbackGroups) = false := by
    have free : percent ∉ front := by
      obtain ⟨group, rfl | rfl, rfl⟩ := mapped <;> decide
    obtain ⟨rest, shape⟩ : front <+: text := begins.elim (prefix_before · free) id
    exact beq_eq_false_iff_ne.mpr (colons_mapped formed mapped shape.symm)
  cases literal with
  | v4 text first second third fourth dotted =>
      obtain ⟨one, rest, split, octet⟩ := dotted.split
      obtain ⟨head, tail, rfl, digit⟩ := octet_first octet
      obtain ⟨group, letters, rfl⟩ := mapped
      rw [split.shape] at begins
      obtain ⟨rfl, -⟩ := List.cons_prefix_cons.mp begins
      exact absurd digit (by decide)
  | v6 text groups formed => exact of_colons formed [] (.inr begins)
  | zoned text scope groups formed => exact of_colons formed _ (.inl begins)

end Loopback

end ToxTunnel.AddressLiteral
