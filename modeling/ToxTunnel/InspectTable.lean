import Mathlib.Data.List.DropRight
import ToxTunnel.IdentityCodecs

/-!
`inspect tunnels`: the JSON that the daemon writes of its tunnels, and the table that the
command line reads out of it. The reader ends on every text; it gives back the daemon's
tunnels exactly when no text in them has a ']' or a control byte that it does not unescape.
-/

namespace ToxTunnel.InspectTable
open EndpointGrammar IdentityCodecs Socks5Handshake StableParse
open RateLimits (Text text)

section Writer

/-- The lower-case digit of a nibble. -/
def lowerDigit (nibble : UInt8) : UInt8 := if nibble < 10 then 48 + nibble else 87 + nibble

/-- '"' -/
def quote : UInt8 := 34

/-- '\' -/
def backslash : UInt8 := 92

/-- ']' -/
def bracket : UInt8 := 93

def escapeByte (byte : UInt8) : Text :=
  if byte = quote then [backslash, quote]
  else if byte = backslash then [backslash, backslash]
  else if byte = 10 then [backslash, 110]
  else if byte = 13 then [backslash, 114]
  else if byte = 9 then [backslash, 116]
  else if byte < 0x20 then
    [backslash, 117, 48, 48, lowerDigit (byte >>> 4), lowerDigit (byte &&& 0x0F)]
  else [byte]

def jsonEscape (value : Text) : Text := value.flatMap escapeByte

inductive Value where
  | string (value : Text)
  | number (value : Nat)

def valueText : Value → Text
  | .string value => quote :: (jsonEscape value ++ [quote])
  | .number value => digits 10 value

abbrev Field := Text × Value

def fieldText (field : Field) : Text := quote :: (field.1 ++ quote :: 58 :: valueText field.2)

/-- `append_kv_string` and `append_kv_num`, with a comma before all but the first. -/
def appendAll : Bool → List Field → Text
  | _, [] => []
  | first, field :: rest =>
      (if first then [] else [44]) ++ fieldText field ++ appendAll false rest

structure TunnelSnapshot where
  id : UInt16
  targetHost : Text
  targetPort : UInt16
  state : Text
  bytesIn : UInt64
  bytesOut : UInt64
  idleSeconds : Int

structure InspectProviders where
  mode : Option Text := none
  version : Option Text := none
  friendsOnline : Option Nat := none
  friendPkPrefix : Option (UInt16 → Text) := none
  snapshot : Option (List TunnelSnapshot) := none

def TunnelSnapshot.target (tunnel : TunnelSnapshot) : Text :=
  tunnel.targetHost ++ 58 :: digits 10 tunnel.targetPort.toNat

/-- The empty text where there is no provider. -/
def prefixOf (providers : InspectProviders) (tunnel : TunnelSnapshot) : Text :=
  match providers.friendPkPrefix with
  | none => []
  | some friendPkPrefix => friendPkPrefix tunnel.id

/-- Up to the state. -/
def namingFields (providers : InspectProviders) (tunnel : TunnelSnapshot) : List Field :=
  (text "id", .number tunnel.id.toNat) ::
    ((if prefixOf providers tunnel = [] then []
      else [(text "friend_pk_prefix", .string (prefixOf providers tunnel))]) ++
    [(text "target", .string tunnel.target), (text "state", .string tunnel.state)])

def countingFields (tunnel : TunnelSnapshot) : List Field :=
  [(text "bytes_in", .number tunnel.bytesIn.toNat),
    (text "bytes_out", .number tunnel.bytesOut.toNat)] ++
  if 0 < tunnel.idleSeconds then [(text "idle_seconds", .number tunnel.idleSeconds.toNat)] else []

def tunnelFields (providers : InspectProviders) (tunnel : TunnelSnapshot) : List Field :=
  namingFields providers tunnel ++ countingFields tunnel

/-- '{', the fields and '}', with a comma before all but the first. -/
def objectsText : Bool → List (List Field) → Text
  | _, [] => []
  | first, fields :: rest =>
      (if first then [] else [44]) ++ 123 :: (appendAll true fields ++ [125]) ++
        objectsText false rest

def headerFields (providers : InspectProviders) : List Field :=
  (providers.mode.map fun mode => (text "mode", Value.string mode)).toList ++
    (providers.version.map fun version => (text "version", Value.string version)).toList ++
    (providers.friendsOnline.map fun friends => (text "friends_online", Value.number friends)).toList

def headerText (providers : InspectProviders) : Text :=
  123 :: appendAll true (headerFields providers) ++
    if headerFields providers = [] then [] else [44]

def renderTunnelsJson (providers : InspectProviders) : Text :=
  headerText providers ++ text "\"tunnels\":[" ++
    objectsText true ((providers.snapshot.getD []).map (tunnelFields providers)) ++ [bracket, 125]

end Writer

section Reader

/-- What is left of the text stands for the position in it. -/
def skipWs (rest : Text) : Text := rest.dropWhile isSpace

def consume (char : UInt8) (rest : Text) : Bool × Text :=
  match skipWs rest with
  | [] => (false, [])
  | first :: behind => if first = char then (true, behind) else (false, first :: behind)

def unescape (char : UInt8) : UInt8 :=
  if char = 110 then 10 else if char = 116 then 9 else char

/-- Up to the closing quote, or to the end. A last backslash stands for itself. -/
def stringBody : Text → Text × Text
  | [] => ([], [])
  | [char] => if char = quote then ([], []) else ([char], [])
  | char :: next :: rest =>
      if char = quote then ([], next :: rest)
      else if char = backslash then
        let (out, behind) := stringBody rest
        (unescape next :: out, behind)
      else
        let (out, behind) := stringBody (next :: rest)
        (char :: out, behind)

def parseString (rest : Text) : Option Text × Text :=
  match skipWs rest with
  | [] => (none, [])
  | first :: behind =>
      if first = quote then
        let (out, after) := stringBody behind
        (some out, after)
      else (none, first :: behind)

/-- A ',', a '}' or a ']' ends it. -/
def inScalar (char : UInt8) : Bool := char != 44 && char != 125 && char != bracket

def parseScalar (rest : Text) : Option Text × Text :=
  let start := skipWs rest
  let out := (start.takeWhile inScalar).rdropWhile isSpace
  (if out = [] then none else some out, start.dropWhile inScalar)

def parseValue (rest : Text) : Option Text × Text :=
  if (skipWs rest).head? = some quote then parseString (skipWs rest) else parseScalar (skipWs rest)

structure Row where
  id : Text := []
  target : Text := []
  state : Text := []
  bytesIn : Text := []
  bytesOut : Text := []
  idle : Text := []
  pk : Text := []
  deriving DecidableEq

def Row.set (row : Row) (key value : Text) : Row :=
  if key = text "id" then { row with id := value }
  else if key = text "target" then { row with target := value }
  else if key = text "state" then { row with state := value }
  else if key = text "bytes_in" then { row with bytesIn := value }
  else if key = text "bytes_out" then { row with bytesOut := value }
  else if key = text "idle_seconds" then { row with idle := value }
  else if key = text "friend_pk_prefix" then { row with pk := value }
  else row

/-- The inner loop; `none` when it has not ended within so many rounds. -/
def readFields : Nat → Text → Row → Option (Row × Text)
  | 0, _, _ => none
  | rounds + 1, rest, row =>
      if rest = [] ∨ rest.head? = some 125 then some (row, rest)
      else match parseString rest with
        | (none, behind) => some (row, behind)
        | (some key, behind) =>
            match parseValue (consume 58 behind).2 with
            | (none, behind) => some (row, behind)
            | (some value, behind) =>
                readFields rounds (consume 44 behind).2 (row.set key value)

/-- The outer loop. -/
def readRows : Nat → Text → Option (List Row)
  | 0, _ => none
  | rounds + 1, rest =>
      if rest = [] then some []
      else match consume 123 (skipWs rest) with
        | (false, _) => some []
        | (true, behind) => do
            let (row, behind) ← readFields rounds behind {}
            let rows ← readRows rounds (consume 44 (consume 125 behind).2).2
            return row :: rows

/-- What is printed: the text as it is, or the rows. -/
inductive Table where
  | raw (json : Text)
  | rows (rows : List Row)
  deriving DecidableEq

/-- The text from the '[' on, and how far it is to the next ']'. -/
def findArray (json : Text) : Option (Text × Nat) := do
  let pos ← find (text "\"tunnels\"") json
  let gap ← find [91] (json.drop pos)
  let length ← find [bracket] (json.drop (pos + gap))
  return (json.drop (pos + gap), length)

def renderTunnelsTable (rounds : Nat) (json : Text) : Option Table :=
  match findArray json with
  | none => some (.raw json)
  | some (array, length) =>
      (readRows rounds ((array.drop 1).take (length - 1))).map .rows

end Reader

section Ending

theorem skipWs_length (rest : Text) : (skipWs rest).length ≤ rest.length :=
  (List.dropWhile_sublist _).length_le

theorem consume_length (char : UInt8) (rest : Text) :
    (consume char rest).2.length ≤ rest.length := by
  have shorter := skipWs_length rest
  unfold consume
  cases skipped : skipWs rest with
  | nil => simp
  | cons first behind =>
      rw [skipped, List.length_cons] at shorter
      simp only
      split
      · exact Nat.le_of_succ_le shorter
      · exact shorter

theorem consume_taken {char : UInt8} {rest behind : Text}
    (taken : consume char rest = (true, behind)) : behind.length < rest.length := by
  have shorter := skipWs_length rest
  unfold consume at taken
  cases skipped : skipWs rest with
  | nil => simp [skipped] at taken
  | cons first after =>
      rw [skipped] at taken shorter
      simp only at taken
      split at taken
      next =>
        cases taken
        exact shorter
      next => cases taken

theorem stringBody_quote (rest : Text) : stringBody (quote :: rest) = ([], rest) := by
  cases rest <;> simp [stringBody]

theorem stringBody_escape (char : UInt8) (rest : Text) :
    stringBody (backslash :: char :: rest) =
      (unescape char :: (stringBody rest).1, (stringBody rest).2) := by
  have other : backslash ≠ quote := by decide
  rw [stringBody, if_neg other, if_pos rfl]

theorem stringBody_plain {char : UInt8} (open_ : char ≠ quote) (plain : char ≠ backslash)
    (rest : Text) :
    stringBody (char :: rest) = (char :: (stringBody rest).1, (stringBody rest).2) := by
  cases rest with
  | nil => simp [stringBody, open_]
  | cons next rest => rw [stringBody, if_neg open_, if_neg plain]

theorem stringBody_length (rest : Text) : (stringBody rest).2.length ≤ rest.length := by
  induction rest using stringBody.induct with
  | case1 => exact Nat.le_refl 0
  | case2 => simp [stringBody]
  | case3 char other => simp [stringBody, other]
  | case4 next rest =>
      rw [stringBody_quote]
      exact Nat.le_succ _
  | case5 next rest out behind _ _ ih =>
      rw [stringBody_escape]
      exact Nat.le_succ_of_le (Nat.le_succ_of_le ih)
  | case6 char next rest other plain out behind _ ih =>
      rw [stringBody_plain other plain]
      exact Nat.le_succ_of_le ih

theorem parseString_length {rest behind key : Text} (read : parseString rest = (some key, behind)) :
    behind.length < rest.length := by
  have shorter := skipWs_length rest
  unfold parseString at read
  cases skipped : skipWs rest with
  | nil => simp [skipped] at read
  | cons first after =>
      rw [skipped] at read shorter
      simp only at read
      split at read
      next =>
        cases read
        exact Nat.lt_of_le_of_lt (stringBody_length after) shorter
      next => cases read

theorem parseString_le (rest : Text) : (parseString rest).2.length ≤ rest.length := by
  cases read : parseString rest with
  | mk value behind =>
      cases value with
      | some key => exact Nat.le_of_lt (parseString_length read)
      | none =>
          have shorter := skipWs_length rest
          unfold parseString at read
          cases skipped : skipWs rest with
          | nil =>
              simp only [skipped, Prod.mk.injEq, true_and] at read
              simp [← read]
          | cons first after =>
              rw [skipped] at read shorter
              simp only at read
              split at read
              next => cases read
              next =>
                cases read
                exact shorter

theorem parseValue_length (rest : Text) : (parseValue rest).2.length ≤ rest.length := by
  have shorter := skipWs_length rest
  unfold parseValue
  split
  · exact Nat.le_trans (parseString_le (skipWs rest)) shorter
  · have left : ((skipWs (skipWs rest)).dropWhile inScalar).length ≤
        (skipWs (skipWs rest)).length := (List.dropWhile_sublist _).length_le
    exact Nat.le_trans left (Nat.le_trans (skipWs_length (skipWs rest)) shorter)

/-- One round of the inner loop either ends it or comes nearer to the end of the text. -/
theorem readFields_round (rest : Text) (row : Row) :
    (∃ behind, behind.length ≤ rest.length ∧
      ∀ rounds, readFields (rounds + 1) rest row = some (row, behind)) ∨
    ∃ next behind, behind.length < rest.length ∧
      ∀ rounds, readFields (rounds + 1) rest row = readFields rounds behind next := by
  by_cases ended : rest = [] ∨ rest.head? = some 125
  · exact .inl ⟨rest, Nat.le_refl _, fun rounds => by rw [readFields, if_pos ended]⟩
  cases opened : parseString rest with
  | mk key behind =>
      cases key with
      | none =>
          have shorter := parseString_le rest
          rw [opened] at shorter
          exact .inl ⟨behind, shorter, fun rounds => by rw [readFields, if_neg ended, opened]⟩
      | some key =>
          have shorter := parseString_length opened
          have colon := consume_length 58 behind
          have value_shorter := parseValue_length (consume 58 behind).2
          cases read : parseValue (consume 58 behind).2 with
          | mk value after =>
              rw [read] at value_shorter
              cases value with
              | none =>
                  refine .inl ⟨after, by simp only at value_shorter; omega, fun rounds => ?_⟩
                  rw [readFields, if_neg ended, opened]
                  simp only [read]
              | some value =>
                  have comma := consume_length 44 after
                  refine .inr ⟨row.set key value, (consume 44 after).2,
                    by simp only at value_shorter; omega, fun rounds => ?_⟩
                  rw [readFields, if_neg ended, opened]
                  simp only [read]

/-- The number of rounds does not matter when it exceeds the length of the text. -/
theorem readFields_ends (rest : Text) (row : Row) :
    ∃ read behind, behind.length ≤ rest.length ∧
      ∀ rounds, rest.length < rounds → readFields rounds rest row = some (read, behind) := by
  induction size : rest.length using Nat.strongRecOn generalizing rest row with
  | ind length ih =>
      subst size
      rcases readFields_round rest row with ⟨behind, shorter, stops⟩ | ⟨next, behind, shorter, steps⟩
      · refine ⟨row, behind, shorter, fun rounds enough => ?_⟩
        obtain ⟨fewer, rfl⟩ := Nat.exists_eq_succ_of_ne_zero (Nat.ne_of_gt (Nat.zero_lt_of_lt enough))
        exact stops fewer
      · obtain ⟨read, after, least, ends⟩ := ih behind.length shorter behind next rfl
        refine ⟨read, after, by omega, fun rounds enough => ?_⟩
        obtain ⟨fewer, rfl⟩ := Nat.exists_eq_succ_of_ne_zero (Nat.ne_of_gt (Nat.zero_lt_of_lt enough))
        rw [steps]
        exact ends fewer (by omega)

theorem readRows_ends (rest : Text) :
    ∃ rows, ∀ rounds, rest.length < rounds → readRows rounds rest = some rows := by
  induction size : rest.length using Nat.strongRecOn generalizing rest with
  | ind length ih =>
      subst size
      by_cases ended : rest = []
      · refine ⟨[], fun rounds enough => ?_⟩
        obtain ⟨fewer, rfl⟩ := Nat.exists_eq_succ_of_ne_zero (Nat.ne_of_gt (Nat.zero_lt_of_lt enough))
        rw [readRows, if_pos ended]
      cases opened : consume 123 (skipWs rest) with
      | mk taken behind =>
          cases taken with
          | false =>
              refine ⟨[], fun rounds enough => ?_⟩
              obtain ⟨fewer, rfl⟩ :=
                Nat.exists_eq_succ_of_ne_zero (Nat.ne_of_gt (Nat.zero_lt_of_lt enough))
              rw [readRows, if_neg ended, opened]
          | true =>
              have shorter : behind.length < rest.length :=
                Nat.lt_of_lt_of_le (consume_taken opened) (skipWs_length rest)
              obtain ⟨row, after, least, fields⟩ := readFields_ends behind {}
              have closing := consume_length 125 after
              have comma := consume_length 44 (consume 125 after).2
              obtain ⟨rows, later⟩ :=
                ih (consume 44 (consume 125 after).2).2.length (by omega) _ rfl
              refine ⟨row :: rows, fun rounds enough => ?_⟩
              obtain ⟨fewer, rfl⟩ :=
                Nat.exists_eq_succ_of_ne_zero (Nat.ne_of_gt (Nat.zero_lt_of_lt enough))
              rw [readRows, if_neg ended, opened]
              simp [fields fewer (by omega), later fewer (by omega)]

theorem findArray_length {json array : Text} {length : Nat}
    (found : findArray json = some (array, length)) : array.length ≤ json.length := by
  unfold findArray at found
  obtain ⟨pos, _, found⟩ := Option.bind_eq_some_iff.mp found
  obtain ⟨gap, _, found⟩ := Option.bind_eq_some_iff.mp found
  obtain ⟨close, _, found⟩ := Option.bind_eq_some_iff.mp found
  cases found
  exact (List.drop_sublist _ _).length_le

/-- Whatever the text, the reader ends, and within as many rounds as the text is long. -/
theorem renderTunnelsTable_ends (json : Text) :
    ∃ table, ∀ rounds, json.length < rounds → renderTunnelsTable rounds json = some table := by
  unfold renderTunnelsTable
  cases found : findArray json with
  | none => exact ⟨.raw json, fun _ _ => rfl⟩
  | some place =>
      obtain ⟨array, length⟩ := place
      have shorter := findArray_length found
      obtain ⟨rows, ends⟩ := readRows_ends ((array.drop 1).take (length - 1))
      have within : ((array.drop 1).take (length - 1)).length ≤ array.length := by
        rw [List.length_take, List.length_drop]
        omega
      refine ⟨.rows rows, fun rounds enough => ?_⟩
      exact congrArg (Option.map Table.rows) (ends rounds (by omega))

end Ending

section Unescaping

/-- What a byte becomes on its way through the writer and the reader. -/
def passedByte (byte : UInt8) : Text :=
  if byte = 13 then [114]
  else if byte < 0x20 ∧ byte ≠ 9 ∧ byte ≠ 10 then
    [117, 48, 48, lowerDigit (byte >>> 4), lowerDigit (byte &&& 0x0F)]
  else [byte]

def passed (value : Text) : Text := value.flatMap passedByte

/-- A byte that is not a control byte, or is a tabulator or a newline. -/
def Plain (byte : UInt8) : Prop := 32 ≤ byte ∨ byte = 9 ∨ byte = 10

instance (byte : UInt8) : Decidable (Plain byte) :=
  inferInstanceAs (Decidable (32 ≤ byte ∨ byte = 9 ∨ byte = 10))

/-- '[' or ']' -/
def Square (char : UInt8) : Prop := char = 91 ∨ char = bracket

instance (char : UInt8) : Decidable (Square char) :=
  inferInstanceAs (Decidable (char = 91 ∨ char = bracket))

theorem Square.ne {char other : UInt8} (square : Square char) (round : ¬ Square other) :
    char ≠ other := fun same => round (same ▸ square)

theorem lowerDigit_plain {nibble : UInt8} (small : nibble.toNat < 16) :
    lowerDigit nibble ≠ quote ∧ lowerDigit nibble ≠ backslash ∧ ¬ Square (lowerDigit nibble) ∧
      32 ≤ lowerDigit nibble := by
  have all : ∀ digit : Fin 16, lowerDigit (UInt8.ofNat digit) ≠ quote ∧
      lowerDigit (UInt8.ofNat digit) ≠ backslash ∧ ¬ Square (lowerDigit (UInt8.ofNat digit)) ∧
      32 ≤ lowerDigit (UInt8.ofNat digit) := by
    decide
  have same : UInt8.ofNat nibble.toNat = nibble := UInt8.ofNat_toNat
  exact same ▸ all ⟨nibble.toNat, small⟩

theorem nibbles_small (byte : UInt8) :
    (byte >>> 4).toNat < 16 ∧ (byte &&& 0x0F).toNat < 16 := by
  have small := byte.toNat_lt
  have high : (byte >>> 4).toNat = byte.toNat / 16 := by
    simp [Nat.shiftRight_eq_div_pow]
  exact ⟨by omega, (halves byte).2.1⟩

theorem stringBody_escapeByte (byte : UInt8) (rest : Text) :
    stringBody (escapeByte byte ++ rest) =
      (passedByte byte ++ (stringBody rest).1, (stringBody rest).2) := by
  unfold escapeByte
  split_ifs with quoted escaped newline returned tab control
  · subst quoted
    rw [List.cons_append, List.singleton_append, stringBody_escape]
    rfl
  · subst escaped
    rw [List.cons_append, List.singleton_append, stringBody_escape]
    rfl
  · subst newline
    rw [List.cons_append, List.singleton_append, stringBody_escape]
    rfl
  · subst returned
    rw [List.cons_append, List.singleton_append, stringBody_escape]
    rfl
  · subst tab
    rw [List.cons_append, List.singleton_append, stringBody_escape]
    rfl
  · -- 'u' stands for itself, and so do the four digits.
    obtain ⟨high, high', -, -⟩ := lowerDigit_plain (nibbles_small byte).1
    obtain ⟨low, low', -, -⟩ := lowerDigit_plain (nibbles_small byte).2
    have digits : passedByte byte =
        [117, 48, 48, lowerDigit (byte >>> 4), lowerDigit (byte &&& 0x0F)] := by
      rw [passedByte, if_neg returned, if_pos ⟨control, tab, newline⟩]
    simp only [List.cons_append, List.nil_append]
    rw [stringBody_escape, stringBody_plain (by decide) (by decide),
      stringBody_plain (by decide) (by decide), stringBody_plain high high',
      stringBody_plain low low', digits]
    rfl
  · have itself : passedByte byte = [byte] := by
      rw [passedByte, if_neg returned, if_neg fun both => control both.1]
    rw [List.singleton_append, stringBody_plain quoted escaped, itself]
    rfl

theorem stringBody_jsonEscape (value rest : Text) :
    stringBody (jsonEscape value ++ rest) =
      (passed value ++ (stringBody rest).1, (stringBody rest).2) := by
  induction value with
  | nil => rfl
  | cons byte value ih =>
      have first : jsonEscape (byte :: value) = escapeByte byte ++ jsonEscape value := rfl
      have whole : passed (byte :: value) = passedByte byte ++ passed value := rfl
      rw [first, List.append_assoc, stringBody_escapeByte, ih, whole, List.append_assoc]

theorem passedByte_plain (byte : UInt8) : ∀ out ∈ passedByte byte, Plain out := by
  unfold passedByte
  split_ifs with returned control
  · intro out member
    rw [List.mem_singleton.mp member]
    exact .inl (by decide)
  · have high := (lowerDigit_plain (nibbles_small byte).1).2.2.2
    have low := (lowerDigit_plain (nibbles_small byte).2).2.2.2
    intro out member
    simp only [List.mem_cons, List.not_mem_nil, or_false] at member
    rcases member with rfl | rfl | rfl | rfl | rfl
    · exact .inl (by decide)
    · exact .inl (by decide)
    · exact .inl (by decide)
    · exact .inl high
    · exact .inl low
  · intro out member
    rw [List.mem_singleton.mp member]
    by_cases low : byte < 32
    · by_cases tab : byte = 9
      · exact .inr (.inl tab)
      · by_cases newline : byte = 10
        · exact .inr (.inr newline)
        · exact absurd ⟨low, tab, newline⟩ control
    · exact .inl (UInt8.not_lt.mp low)

theorem passedByte_of_plain {byte : UInt8} (plain : Plain byte) : passedByte byte = [byte] := by
  rcases plain with high | rfl | rfl
  · have visible : ¬ byte < 0x20 := UInt8.not_lt.mpr high
    have other : byte ≠ 13 := by
      rintro rfl
      exact absurd high (by decide)
    rw [passedByte, if_neg other, if_neg fun both => visible both.1]
  · rfl
  · rfl

theorem passed_eq_iff (value : Text) : passed value = value ↔ ∀ byte ∈ value, Plain byte := by
  constructor
  · intro same byte member
    rw [← same] at member
    obtain ⟨source, _, inside⟩ := List.mem_flatMap.mp member
    exact passedByte_plain source byte inside
  · intro plain
    induction value with
    | nil => rfl
    | cons byte value ih =>
        obtain ⟨here, later⟩ := List.forall_mem_cons.mp plain
        have rest : value.flatMap passedByte = value := ih later
        rw [passed, List.flatMap_cons, passedByte_of_plain here, rest]
        rfl

theorem square_escapeByte {char byte : UInt8} (square : Square char) :
    char ∈ escapeByte byte ↔ byte = char := by
  have escape : char ≠ backslash := square.ne (by decide)
  unfold escapeByte
  split_ifs with quoted escaped newline returned tab control
  · subst quoted
    have other : char ≠ quote := square.ne (by decide)
    simp [escape, other, other.symm]
  · subst escaped
    simp [escape, escape.symm]
  · subst newline
    simp [escape, square.ne (show ¬ Square 110 by decide),
      (square.ne (show ¬ Square 10 by decide)).symm]
  · subst returned
    simp [escape, square.ne (show ¬ Square 114 by decide),
      (square.ne (show ¬ Square 13 by decide)).symm]
  · subst tab
    simp [escape, square.ne (show ¬ Square 116 by decide),
      (square.ne (show ¬ Square 9 by decide)).symm]
  · have high := square.ne (lowerDigit_plain (nibbles_small byte).1).2.2.1
    have low := square.ne (lowerDigit_plain (nibbles_small byte).2).2.2.1
    have other : byte ≠ char := by
      rintro rfl
      rcases square with rfl | rfl <;> exact absurd control (by decide)
    simp [escape, high, low, other, square.ne (show ¬ Square 117 by decide),
      square.ne (show ¬ Square 48 by decide)]
  · simp [eq_comm]

theorem square_jsonEscape {char : UInt8} (square : Square char) {value : Text} :
    char ∈ jsonEscape value ↔ char ∈ value := by
  simp [jsonEscape, List.mem_flatMap, square_escapeByte square]

end Unescaping

section Fields
variable {rest behind : Text} {row : Row}

/-- The inner loop ends so, given enough rounds. -/
def FieldsRead (rest : Text) (row : Row) (result : Row × Text) : Prop :=
  ∃ least, ∀ rounds, least ≤ rounds → readFields rounds rest row = some result

def RowsRead (rest : Text) (rows : List Row) : Prop :=
  ∃ least, ∀ rounds, least ≤ rounds → readRows rounds rest = some rows

/-- What the reader makes of a value. -/
def readValue : Value → Text
  | .string value => passed value
  | .number value => digits 10 value

def Row.setField (row : Row) (field : Field) : Row := row.set field.1 (readValue field.2)

/-- What may stand behind a value. -/
def Stops (behind : Text) : Prop :=
  behind = [] ∨ behind.head? = some 44 ∨ behind.head? = some 125

/-- A key has neither quotes nor backslashes, nor square brackets. -/
def PlainKey (key : Text) : Prop :=
  ∀ char ∈ key, char ≠ quote ∧ char ≠ backslash ∧ ¬ Square char

instance (key : Text) : Decidable (PlainKey key) := List.decidableBAll _ key

theorem skipWs_stays {char : UInt8} (visible : isSpace char = false) (rest : Text) :
    skipWs (char :: rest) = char :: rest := by
  simp [skipWs, visible]

theorem consume_this {char : UInt8} (visible : isSpace char = false) (rest : Text) :
    consume char (char :: rest) = (true, rest) := by
  simp [consume, skipWs_stays visible]

theorem stringBody_key {key : Text} (plain : PlainKey key) (rest : Text) :
    stringBody (key ++ quote :: rest) = (key, rest) := by
  induction key with
  | nil => exact stringBody_quote rest
  | cons char key ih =>
      obtain ⟨⟨open_, escape, -⟩, later⟩ := List.forall_mem_cons.mp plain
      rw [List.cons_append, stringBody_plain open_ escape, ih later]

theorem parseString_quoted (rest : Text) :
    parseString (quote :: rest) = (some (stringBody rest).1, (stringBody rest).2) := by
  rw [parseString, skipWs_stays (by decide)]
  simp

theorem parseValue_string (rest : Text) :
    parseValue (quote :: rest) = (some (stringBody rest).1, (stringBody rest).2) := by
  have stays : skipWs (quote :: rest) = quote :: rest := skipWs_stays (by decide) rest
  rw [parseValue, stays, List.head?_cons, if_pos rfl, parseString_quoted]

theorem digit_scalar {char : UInt8} (digit : isDigit char = true) :
    isSpace char = false ∧ inScalar char = true ∧ char ≠ quote ∧ ¬ Square char := by
  have ne : ∀ stop : UInt8, isDigit stop = false → char ≠ stop := by
    rintro stop other rfl
    rw [digit] at other
    cases other
  refine ⟨(digit_plain digit).1, ?_, ne quote (by decide), ?_⟩
  · simp [inScalar, ne 44 (by decide), ne 125 (by decide), ne bracket (by decide)]
  · exact not_or.mpr ⟨ne 91 (by decide), ne bracket (by decide)⟩

theorem parseValue_number (value : Nat) (stops : Stops behind) :
    parseValue (digits 10 value ++ behind) = (some (digits 10 value), behind) := by
  have all := digits_digit value
  have filled : digits 10 value ≠ [] := by
    simp [digits, Nat.toDigits_ne_nil]
  obtain ⟨first, more, shape⟩ := List.exists_cons_of_ne_nil filled
  have head := digit_scalar (all first (by rw [shape]; exact List.mem_cons_self))
  have start : skipWs (digits 10 value ++ behind) = digits 10 value ++ behind := by
    rw [shape]
    exact skipWs_stays head.1 _
  have unquoted : (digits 10 value ++ behind).head? ≠ some quote := by
    rw [shape]
    simpa using head.2.2.1
  have inside : ∀ char ∈ digits 10 value, inScalar char = true :=
    fun char member => (digit_scalar (all char member)).2.1
  have stopped : ∀ char ∈ behind.head?, inScalar char = false := by
    rcases stops with rfl | comma | brace
    · exact nofun
    · simp [comma, inScalar]
    · simp [brace, inScalar]
  have trimmed : (digits 10 value).rdropWhile isSpace = digits 10 value := by
    refine List.rdropWhile_eq_self_iff.mpr fun some_digits => ?_
    simp [(digit_scalar (all _ (List.getLast_mem some_digits))).1]
  rw [parseValue, start, if_neg unquoted, parseScalar, start, takeWhile_front inside stopped,
    dropWhile_front inside stopped, trimmed, if_neg filled]

theorem parseValue_written (value : Value) (stops : Stops behind) :
    parseValue (valueText value ++ behind) = (some (readValue value), behind) := by
  cases value with
  | string value =>
      rw [valueText, List.cons_append, parseValue_string, List.append_assoc,
        stringBody_jsonEscape, List.singleton_append, stringBody_quote, List.append_nil]
      rfl
  | number value => exact parseValue_number value stops

theorem fieldText_append (key : Text) (value : Value) (behind : Text) :
    fieldText (key, value) ++ behind =
      quote :: (key ++ quote :: 58 :: (valueText value ++ behind)) := by
  simp [fieldText]

theorem FieldsRead.stop (ended : rest = [] ∨ rest.head? = some 125) :
    FieldsRead rest row (row, rest) := by
  refine ⟨1, fun rounds enough => ?_⟩
  obtain ⟨fewer, rfl⟩ := Nat.exists_eq_add_of_le' enough
  rw [readFields, if_pos ended]

theorem FieldsRead.step {key value after : Text} {result : Row × Text} (plain : PlainKey key)
    (read : parseValue rest = (some value, after))
    (later : FieldsRead (consume 44 after).2 (row.set key value) result) :
    FieldsRead (quote :: (key ++ quote :: 58 :: rest)) row result := by
  obtain ⟨least, later⟩ := later
  refine ⟨least + 1, fun rounds enough => ?_⟩
  obtain ⟨fewer, rfl⟩ := Nat.exists_eq_add_of_le' (Nat.le_trans (Nat.le_add_left 1 least) enough)
  have going : ¬ (quote :: (key ++ quote :: 58 :: rest) = [] ∨
      (quote :: (key ++ quote :: 58 :: rest)).head? = some 125) := by
    simp [quote]
  rw [readFields, if_neg going, parseString_quoted, stringBody_key plain]
  simp only [consume_this (show isSpace 58 = false by decide), read]
  exact later fewer (Nat.le_of_succ_le_succ enough)

theorem FieldsRead.field {field : Field} {result : Row × Text} (plain : PlainKey field.1)
    (stops : Stops behind)
    (later : FieldsRead (consume 44 behind).2 (row.setField field) result) :
    FieldsRead (fieldText field ++ behind) row result := by
  rw [fieldText_append]
  exact .step plain (parseValue_written field.2 stops) later

theorem appendAll_next (field : Field) (fields : List Field) :
    appendAll false (field :: fields) = 44 :: appendAll true (field :: fields) := rfl

theorem consume_stop (stops : behind.head? = some 125) : (consume 44 behind).2 = behind := by
  cases behind with
  | nil => rfl
  | cons char later =>
      obtain rfl : char = 125 := by simpa using stops
      rfl

theorem FieldsRead.written {fields : List Field} (filled : fields ≠ [])
    (plain : ∀ field ∈ fields, PlainKey field.1) (row : Row) (behind : Text) :
    FieldsRead (appendAll true fields ++ 125 :: behind) row
      (fields.foldl Row.setField row, 125 :: behind) := by
  induction fields generalizing row with
  | nil => exact absurd rfl filled
  | cons field rest ih =>
      obtain ⟨here, later⟩ := List.forall_mem_cons.mp plain
      cases rest with
      | nil =>
          have text : appendAll true [field] = fieldText field := by simp [appendAll]
          rw [text]
          refine .field here (.inr (.inr rfl)) ?_
          rw [consume_stop rfl]
          exact .stop (.inr rfl)
      | cons next more =>
          have text : appendAll true (field :: next :: more) =
              fieldText field ++ 44 :: appendAll true (next :: more) := by
            simp [appendAll]
          rw [text, List.append_assoc, List.cons_append]
          refine .field here (.inr (.inl rfl)) ?_
          rw [consume_this (by decide)]
          exact ih (List.cons_ne_nil next more) later (row.setField field)

/-- What is in front of the first ']'. -/
def cutText (text : Text) : Text := text.takeWhile (· != bracket)

theorem cutText_clean {text : Text} (clean : bracket ∉ text) (behind : Text) :
    cutText (text ++ behind) = text ++ cutText behind := by
  refine List.takeWhile_append_of_pos fun char member => ?_
  have other : char ≠ bracket := fun same => clean (same ▸ member)
  simpa using other

theorem cutText_at {text : Text} (clean : bracket ∉ text) (behind : Text) :
    cutText (text ++ bracket :: behind) = text := by
  rw [cutText_clean clean]
  simp [cutText]

theorem cutText_dirty {text : Text} (dirty : bracket ∈ text) (behind : Text) :
    cutText (text ++ behind) = cutText text := by
  obtain ⟨front, back, rfl, clean⟩ := List.eq_append_cons_of_mem dirty
  rw [List.append_assoc, List.cons_append, cutText_at clean, cutText_at clean]

theorem digits_square {char : UInt8} (square : Square char) (value : Nat) :
    char ∉ digits 10 value :=
  fun member => (digit_scalar (digits_digit value char member)).2.2.2 square

theorem PlainKey.square {key : Text} (plain : PlainKey key) {char : UInt8} (square : Square char) :
    char ∉ key := fun member => (plain char member).2.2 square

theorem square_fieldText {field : Field} (plain : PlainKey field.1) {char : UInt8}
    (square : Square char) :
    char ∈ fieldText field ↔ ∃ value, field.2 = .string value ∧ char ∈ value := by
  obtain ⟨key, value⟩ := field
  have key_clean : char ∉ key := plain.square square
  have quote_clean : char ≠ quote := square.ne (by decide)
  have colon_clean : char ≠ 58 := square.ne (by decide)
  cases value with
  | string value => simp [fieldText, valueText, key_clean, quote_clean, colon_clean,
      square_jsonEscape square]
  | number value => simp [fieldText, valueText, key_clean, quote_clean, colon_clean,
      digits_square square]

theorem FieldsRead.cut_string {key value : Text} (plain : PlainKey key)
    (dirty : bracket ∈ value) (row : Row) :
    ∃ out, FieldsRead (cutText (fieldText (key, .string value))) row (row.set key out, []) := by
  obtain ⟨front, back, rfl, clean⟩ := List.eq_append_cons_of_mem dirty
  have key_clean : bracket ∉ key := plain.square (.inr rfl)
  have quote_clean : bracket ≠ quote := by decide
  have colon_clean : bracket ≠ 58 := by decide
  have cut : cutText (fieldText (key, .string (front ++ bracket :: back))) =
      quote :: (key ++ quote :: 58 :: quote :: jsonEscape front) := by
    have shape : fieldText (key, .string (front ++ bracket :: back)) =
        (quote :: (key ++ quote :: 58 :: quote :: jsonEscape front)) ++
          bracket :: (jsonEscape back ++ [quote]) := by
      have escaped : jsonEscape (front ++ bracket :: back) =
          jsonEscape front ++ bracket :: jsonEscape back := by
        have itself : escapeByte bracket = [bracket] := by decide
        simp [jsonEscape, itself]
      simp [fieldText, valueText, escaped]
    rw [shape, cutText_at]
    simp [key_clean, quote_clean, colon_clean, square_jsonEscape (.inr rfl), clean]
  have body : stringBody (jsonEscape front) = (passed front, []) := by
    have read := stringBody_jsonEscape front []
    simpa [stringBody] using read
  refine ⟨passed front, ?_⟩
  rw [cut]
  have read : parseValue (quote :: jsonEscape front) = (some (passed front), []) := by
    rw [parseValue_string, body]
  exact .step plain read (.stop (.inl rfl))

theorem set_bytesOut {key value : Text} (other : key ≠ text "bytes_out") :
    (row.set key value).bytesOut = row.bytesOut := by
  unfold Row.set
  rw [if_neg other]
  split_ifs <;> rfl

theorem FieldsRead.cut {fields : List Field} (dirty : bracket ∈ appendAll true fields)
    (plain : ∀ field ∈ fields, PlainKey field.1 ∧ field.1 ≠ text "bytes_out") (row : Row) :
    ∃ read : Row, read.bytesOut = row.bytesOut ∧
      FieldsRead (cutText (appendAll true fields)) row (read, []) := by
  induction fields generalizing row with
  | nil => exact absurd dirty List.not_mem_nil
  | cons field rest ih =>
      obtain ⟨⟨here, other⟩, later⟩ := List.forall_mem_cons.mp plain
      have text : appendAll true (field :: rest) = fieldText field ++ appendAll false rest := by
        simp [appendAll]
      by_cases first : bracket ∈ fieldText field
      · rw [text, cutText_dirty first]
        obtain ⟨key, value⟩ := field
        obtain ⟨value, rfl, inside⟩ := (square_fieldText here (.inr rfl)).mp first
        obtain ⟨out, read⟩ := FieldsRead.cut_string here inside row
        exact ⟨_, set_bytesOut other, read⟩
      · rw [text, cutText_clean first]
        have behind : bracket ∈ appendAll false rest := by
          rw [text, List.mem_append] at dirty
          exact dirty.resolve_left first
        cases rest with
        | nil => exact absurd behind List.not_mem_nil
        | cons next more =>
            have comma_clean : bracket ∉ [(44 : UInt8)] := by decide
            rw [appendAll_next] at behind ⊢
            have inside : bracket ∈ appendAll true (next :: more) :=
              (List.mem_cons.mp behind).resolve_left (by decide)
            obtain ⟨read, same, reads⟩ := ih inside later (row.setField field)
            refine ⟨read, same.trans (set_bytesOut other), ?_⟩
            have cut : cutText (44 :: appendAll true (next :: more)) =
                44 :: cutText (appendAll true (next :: more)) :=
              cutText_clean comma_clean _
            rw [cut]
            refine .field here (.inr (.inl rfl)) ?_
            rw [consume_this (by decide)]
            exact reads

end Fields

section Rows

theorem RowsRead.nil : RowsRead [] [] := by
  refine ⟨1, fun rounds enough => ?_⟩
  obtain ⟨fewer, rfl⟩ := Nat.exists_eq_add_of_le' enough
  rw [readRows, if_pos rfl]

theorem RowsRead.row {behind after : Text} {row : Row} {rows : List Row}
    (fields : FieldsRead behind {} (row, after))
    (later : RowsRead (consume 44 (consume 125 after).2).2 rows) :
    RowsRead (123 :: behind) (row :: rows) := by
  obtain ⟨least, fields⟩ := fields
  obtain ⟨least', later⟩ := later
  refine ⟨max least least' + 1, fun rounds enough => ?_⟩
  obtain ⟨fewer, rfl⟩ := Nat.exists_eq_add_of_le' (Nat.le_trans (Nat.le_add_left 1 _) enough)
  have both : max least least' ≤ fewer := Nat.le_of_succ_le_succ enough
  have visible : isSpace 123 = false := by decide
  rw [readRows, if_neg (List.cons_ne_nil _ _), skipWs_stays visible, consume_this visible]
  simp [fields fewer (Nat.le_trans (Nat.le_max_left _ _) both),
    later fewer (Nat.le_trans (Nat.le_max_right _ _) both)]

variable (providers : InspectProviders)

/-- The columns that say which tunnel it is, and what it has carried. -/
structure Shown where
  id : Text
  target : Text
  state : Text
  bytesIn : Text
  bytesOut : Text
  deriving DecidableEq

def Row.shown (row : Row) : Shown := ⟨row.id, row.target, row.state, row.bytesIn, row.bytesOut⟩

/-- What the daemon has to report of a tunnel. -/
def TunnelSnapshot.reported (tunnel : TunnelSnapshot) : Shown :=
  ⟨digits 10 tunnel.id.toNat, tunnel.target, tunnel.state, digits 10 tunnel.bytesIn.toNat,
    digits 10 tunnel.bytesOut.toNat⟩

/-- No ']' anywhere, and no control bytes in the target and in the state but tabulators and
newlines. -/
structure Readable (tunnel : TunnelSnapshot) : Prop where
  host : bracket ∉ tunnel.targetHost ∧ ∀ byte ∈ tunnel.targetHost, Plain byte
  state : bracket ∉ tunnel.state ∧ ∀ byte ∈ tunnel.state, Plain byte
  peer : bracket ∉ prefixOf providers tunnel

theorem namingFields_plain (tunnel : TunnelSnapshot) :
    ∀ field ∈ namingFields providers tunnel,
      PlainKey field.1 ∧ field.1 ≠ text "bytes_out" := by
  unfold namingFields
  split
  · simp only [List.nil_append, List.forall_mem_cons]
    decide
  · simp only [List.cons_append, List.nil_append, List.forall_mem_cons]
    decide

theorem countingFields_plain (tunnel : TunnelSnapshot) :
    ∀ field ∈ countingFields tunnel, PlainKey field.1 := by
  unfold countingFields
  split
  · simp only [List.cons_append, List.nil_append, List.forall_mem_cons]
    decide
  · simp only [List.cons_append, List.nil_append, List.forall_mem_cons]
    decide

theorem tunnelFields_plain (tunnel : TunnelSnapshot) :
    ∀ field ∈ tunnelFields providers tunnel, PlainKey field.1 := by
  intro field member
  rcases List.mem_append.mp member with naming | counting
  · exact (namingFields_plain providers tunnel field naming).1
  · exact countingFields_plain tunnel field counting

theorem tunnelFields_row (tunnel : TunnelSnapshot) :
    ((tunnelFields providers tunnel).foldl Row.setField {}).shown =
      ⟨digits 10 tunnel.id.toNat, passed tunnel.target, passed tunnel.state,
        digits 10 tunnel.bytesIn.toNat, digits 10 tunnel.bytesOut.toNat⟩ := by
  unfold tunnelFields namingFields countingFields
  split
  · split <;> rfl
  · split <;> rfl

theorem target_passed (tunnel : TunnelSnapshot) :
    passed tunnel.target = tunnel.target ↔ ∀ byte ∈ tunnel.targetHost, Plain byte := by
  have port : ∀ byte ∈ (58 : UInt8) :: digits 10 tunnel.targetPort.toNat, Plain byte := by
    refine List.forall_mem_cons.mpr ⟨.inl (by decide), fun byte member => .inl ?_⟩
    have digit := digits_digit _ byte member
    simp only [isDigit, Bool.and_eq_true, decide_eq_true_eq] at digit
    exact UInt8.le_trans (by decide) digit.1
  rw [passed_eq_iff, TunnelSnapshot.target, List.forall_mem_append]
  exact and_iff_left port

theorem target_bracket (tunnel : TunnelSnapshot) :
    bracket ∈ tunnel.target ↔ bracket ∈ tunnel.targetHost := by
  have colon_clean : bracket ≠ 58 := by decide
  simp [TunnelSnapshot.target, colon_clean, digits_square (.inr rfl)]

theorem appendAll_append (first : Bool) (front back : List Field) :
    appendAll first (front ++ back) =
      appendAll first front ++ appendAll (first && front.isEmpty) back := by
  induction front generalizing first with
  | nil => simp [appendAll]
  | cons field rest ih => simp [appendAll, ih]

theorem square_appendAll (first : Bool) {fields : List Field}
    (plain : ∀ field ∈ fields, PlainKey field.1) {char : UInt8} (square : Square char) :
    char ∈ appendAll first fields ↔
      ∃ field ∈ fields, ∃ value, field.2 = .string value ∧ char ∈ value := by
  induction fields generalizing first with
  | nil => simp [appendAll]
  | cons field rest ih =>
      obtain ⟨here, later⟩ := List.forall_mem_cons.mp plain
      have comma_clean : char ∉ if first = true then [] else [(44 : UInt8)] := by
        cases first with
        | true => exact List.not_mem_nil
        | false => simpa using square.ne (show ¬ Square 44 by decide)
      simp [appendAll, comma_clean, square_fieldText here square, ih false later]

theorem bracket_naming (tunnel : TunnelSnapshot) :
    bracket ∈ appendAll true (namingFields providers tunnel) ↔
      bracket ∈ tunnel.targetHost ∨ bracket ∈ tunnel.state ∨
        bracket ∈ prefixOf providers tunnel := by
  rw [square_appendAll true
    (fun field member => (namingFields_plain providers tunnel field member).1) (.inr rfl)]
  unfold namingFields
  split
  next empty => simp [empty, target_bracket]
  next filled =>
    simp [target_bracket]
    tauto

theorem bracket_counting (tunnel : TunnelSnapshot) :
    bracket ∉ appendAll false (countingFields tunnel) := by
  rw [square_appendAll false (countingFields_plain tunnel) (.inr rfl)]
  unfold countingFields
  split <;> simp

theorem appendAll_tunnel (tunnel : TunnelSnapshot) :
    appendAll true (tunnelFields providers tunnel) =
      appendAll true (namingFields providers tunnel) ++
        appendAll false (countingFields tunnel) := by
  rw [tunnelFields, appendAll_append]
  rfl

theorem cut_objects (fields : List Field) (rest : List (List Field))
    (clean : bracket ∉ appendAll true fields) :
    cutText (objectsText true (fields :: rest)) =
      123 :: (appendAll true fields ++ 125 :: cutText (objectsText false rest)) := by
  have shape : objectsText true (fields :: rest) =
      (123 :: (appendAll true fields ++ [125])) ++ objectsText false rest := by
    simp [objectsText]
  have brace_clean : bracket ≠ 123 := by decide
  have brace_clean' : bracket ≠ 125 := by decide
  rw [shape, cutText_clean (by simp [clean, brace_clean, brace_clean'])]
  simp

theorem cut_objects_dirty (fields : List Field) (rest : List (List Field))
    (dirty : bracket ∈ appendAll true fields) :
    cutText (objectsText true (fields :: rest)) = 123 :: cutText (appendAll true fields) := by
  have shape : objectsText true (fields :: rest) =
      [123] ++ (appendAll true fields ++ (125 :: objectsText false rest)) := by
    simp [objectsText]
  rw [shape, cutText_clean (by decide), cutText_dirty dirty]
  rfl

theorem next_object (rest : List (List Field)) :
    (consume 44 (cutText (objectsText false rest))).2 = cutText (objectsText true rest) := by
  cases rest with
  | nil => rfl
  | cons fields rest =>
      have comma : objectsText false (fields :: rest) = [44] ++ objectsText true (fields :: rest) := by
        simp [objectsText]
      rw [comma, cutText_clean (by decide)]
      rw [List.singleton_append, consume_this (by decide)]

theorem bracket_tunnel (tunnel : TunnelSnapshot) :
    bracket ∈ appendAll true (tunnelFields providers tunnel) ↔
      bracket ∈ tunnel.targetHost ∨ bracket ∈ tunnel.state ∨
        bracket ∈ prefixOf providers tunnel := by
  rw [appendAll_tunnel, List.mem_append, bracket_naming]
  exact or_iff_left (bracket_counting tunnel)

/-- A tunnel whose text is cut: a row that has lost its byte count, and none behind it. -/
theorem cut_row (tunnel : TunnelSnapshot) (rest : List (List Field))
    (dirty : bracket ∈ appendAll true (tunnelFields providers tunnel)) :
    ∃ row : Row, row.bytesOut = [] ∧
      RowsRead (cutText (objectsText true (tunnelFields providers tunnel :: rest))) [row] := by
  have naming : bracket ∈ appendAll true (namingFields providers tunnel) :=
    (bracket_naming providers tunnel).mpr ((bracket_tunnel providers tunnel).mp dirty)
  obtain ⟨row, lost, read⟩ := FieldsRead.cut naming (namingFields_plain providers tunnel) {}
  refine ⟨row, lost, ?_⟩
  rw [cut_objects_dirty _ _ dirty, appendAll_tunnel, cutText_dirty naming]
  exact .row read .nil

theorem whole_row (tunnel : TunnelSnapshot) (rest : List (List Field)) {rows : List Row}
    (clean : bracket ∉ appendAll true (tunnelFields providers tunnel))
    (later : RowsRead (cutText (objectsText true rest)) rows) :
    RowsRead (cutText (objectsText true (tunnelFields providers tunnel :: rest)))
      ((tunnelFields providers tunnel).foldl Row.setField {} :: rows) := by
  have filled : tunnelFields providers tunnel ≠ [] := List.cons_ne_nil _ _
  have read := FieldsRead.written filled (tunnelFields_plain providers tunnel) {}
    (cutText (objectsText false rest))
  rw [cut_objects _ _ clean]
  refine .row read ?_
  rw [consume_this (by decide), next_object]
  exact later

theorem rows_read (tunnels : List TunnelSnapshot) :
    ∃ rows, RowsRead (cutText (objectsText true (tunnels.map (tunnelFields providers)))) rows ∧
      (rows.map Row.shown = tunnels.map TunnelSnapshot.reported ↔
        ∀ tunnel ∈ tunnels, Readable providers tunnel) := by
  induction tunnels with
  | nil => exact ⟨[], RowsRead.nil, by simp⟩
  | cons tunnel rest ih =>
      obtain ⟨rows, reads, exact_rest⟩ := ih
      rw [List.map_cons]
      by_cases dirty : bracket ∈ appendAll true (tunnelFields providers tunnel)
      · obtain ⟨row, lost, read⟩ := cut_row providers tunnel _ dirty
        refine ⟨[row], read, iff_of_false ?_ ?_⟩
        · -- The count is a number, and the row has none.
          intro same
          have first := congrArg Shown.bytesOut (List.cons.inj same).1
          have none : row.bytesOut = digits 10 tunnel.bytesOut.toNat := first
          rw [lost] at none
          exact Nat.toDigits_ne_nil (List.map_eq_nil_iff.mp none.symm)
        · intro readable
          obtain ⟨host, state, peer⟩ := readable tunnel List.mem_cons_self
          rcases (bracket_tunnel providers tunnel).mp dirty with there | there | there
          · exact host.1 there
          · exact state.1 there
          · exact peer there
      · refine ⟨_, whole_row providers tunnel _ dirty reads, ?_⟩
        have clean := mt (bracket_tunnel providers tunnel).mpr dirty
        simp only [not_or] at clean
        rw [List.map_cons, List.map_cons, List.cons.injEq, exact_rest, List.forall_mem_cons,
          tunnelFields_row]
        refine and_congr_left fun _ => ?_
        constructor
        · intro same
          have target : passed tunnel.target = tunnel.target := congrArg Shown.target same
          have state : passed tunnel.state = tunnel.state := congrArg Shown.state same
          exact ⟨⟨clean.1, (target_passed tunnel).mp target⟩,
            ⟨clean.2.1, (passed_eq_iff _).mp state⟩, clean.2.2⟩
        · rintro ⟨⟨-, host⟩, ⟨-, state⟩, -⟩
          rw [(target_passed tunnel).mpr host, (passed_eq_iff _).mpr state]
          rfl

end Rows

section Replies
variable {providers : InspectProviders}

theorem find_known {needle : Text} (front behind : Text) :
    ∃ pos, find needle (front ++ (needle ++ behind)) = some pos ∧ pos ≤ front.length := by
  induction front with
  | nil =>
      cases shape : needle ++ behind with
      | nil =>
          have empty : needle = [] := (List.append_eq_nil_iff.mp shape).1
          exact ⟨0, by simp [find, empty], Nat.le_refl 0⟩
      | cons first rest =>
          have here : needle <+: first :: rest := ⟨behind, shape⟩
          exact ⟨0, by rw [List.nil_append, find, if_pos here], Nat.le_refl 0⟩
  | cons char front ih =>
      obtain ⟨pos, found, early⟩ := ih
      rw [List.cons_append, find]
      split
      · exact ⟨0, rfl, Nat.zero_le _⟩
      · exact ⟨pos + 1, by rw [found]; rfl, Nat.succ_le_succ early⟩

/-- The mode and the version that the daemon reports have no '[': the mode is "server" or
"client", the version is that of the build. -/
structure PlainHeader (providers : InspectProviders) : Prop where
  mode : ∀ mode ∈ providers.mode, 91 ∉ mode
  version : ∀ version ∈ providers.version, 91 ∉ version

theorem headerFields_plain (providers : InspectProviders) :
    ∀ field ∈ headerFields providers, PlainKey field.1 := by
  have mode : PlainKey (text "mode") := by decide
  have version : PlainKey (text "version") := by decide
  have friends : PlainKey (text "friends_online") := by decide
  unfold headerFields
  cases providers.mode <;> cases providers.version <;> cases providers.friendsOnline <;>
    simp [mode, version, friends]

theorem headerText_plain (header : PlainHeader providers) :
    91 ∉ headerText providers ++ text "\"tunnels\":" := by
  have square : Square 91 := .inl rfl
  have fields : 91 ∉ appendAll true (headerFields providers) := by
    rw [square_appendAll true (headerFields_plain providers) square]
    rintro ⟨field, member, value, shape, inside⟩
    simp only [headerFields, List.mem_append, Option.mem_toList,
      Option.map_eq_some_iff] at member
    rcases member with (⟨mode, given, rfl⟩ | ⟨version, given, rfl⟩) | ⟨friends, given, rfl⟩
    · cases shape
      exact header.mode _ given inside
    · cases shape
      exact header.version _ given inside
    · cases shape
  have comma : (91 : UInt8) ∉ if headerFields providers = [] then ([] : Text) else [44] := by
    split <;> decide
  have key : (91 : UInt8) ∉ text "\"tunnels\":" := by decide
  simp [headerText, fields, comma, key]

theorem cutText_stop (front behind : Text) : cutText (front ++ bracket :: behind) = cutText front := by
  by_cases dirty : bracket ∈ front
  · exact cutText_dirty dirty _
  · rw [cutText_at dirty]
    have whole := cutText_clean dirty []
    simpa [cutText] using whole.symm

theorem findArray_reply (header : PlainHeader providers) (objects : Text) :
    ∃ array length,
      findArray (headerText providers ++ text "\"tunnels\":[" ++ objects ++ [bracket, 125]) =
          some (array, length) ∧
        (array.drop 1).take (length - 1) = cutText objects := by
  let front := headerText providers ++ text "\"tunnels\":"
  let array := 91 :: (objects ++ [bracket, 125])
  have key : text "\"tunnels\":[" = text "\"tunnels\":" ++ [91] := by decide
  have shape : headerText providers ++ text "\"tunnels\":[" ++ objects ++ [bracket, 125] =
      front ++ array := by
    simp [front, array, key]
  have plain : 91 ∉ front := headerText_plain header
  obtain ⟨pos, found, early⟩ : ∃ pos, find (text "\"tunnels\"") (front ++ array) = some pos ∧
      pos ≤ front.length := by
    have colon : text "\"tunnels\":" = text "\"tunnels\"" ++ [58] := by decide
    have inside : front ++ array =
        headerText providers ++ (text "\"tunnels\"" ++ (58 :: array)) := by
      simp [front, colon]
    obtain ⟨pos, found, early⟩ := @find_known (text "\"tunnels\"") (headerText providers) (58 :: array)
    refine ⟨pos, inside ▸ found, Nat.le_trans early ?_⟩
    simp [front]
  have later : (front ++ array).drop pos = front.drop pos ++ array :=
    List.drop_append_of_le_length early
  have opening : find [91] ((front ++ array).drop pos) = some (front.length - pos) := by
    have unopened : 91 ∉ front.drop pos := fun member => plain (List.mem_of_mem_drop member)
    rw [later, find_front unopened, List.length_drop]
  obtain ⟨inner, rest, split, clean⟩ : ∃ inner rest, objects ++ [bracket, 125] =
      inner ++ bracket :: rest ∧ bracket ∉ inner := List.eq_append_cons_of_mem (by simp)
  have closing : find [bracket] array = some (inner.length + 1) := by
    have unclosed : bracket ∉ 91 :: inner := by simpa using ⟨by decide, clean⟩
    have met := @find_front (91 :: inner) rest bracket unclosed
    rwa [List.cons_append, ← split] at met
  have start : (front ++ array).drop (pos + (front.length - pos)) = array := by
    rw [Nat.add_sub_cancel' early, List.drop_left]
  refine ⟨array, inner.length + 1, ?_, ?_⟩
  · rw [shape, findArray]
    simp [found, opening, start, closing]
  · have cut : cutText objects = inner := by
      rw [← cutText_stop objects [125], ← cutText_at clean rest]
      exact congrArg cutText split
    rw [cut, Nat.add_sub_cancel]
    show (objects ++ [bracket, 125]).take inner.length = inner
    rw [split, List.take_left]

/-- The reader ends on every text. On a reply it reads rows, which show the daemon's tunnels
exactly when every tunnel is readable. -/
theorem table_shows_tunnels (header : PlainHeader providers) {tunnels : List TunnelSnapshot}
    (given : providers.snapshot = some tunnels) :
    (∀ json, ∃ table, ∀ rounds, json.length < rounds →
      renderTunnelsTable rounds json = some table) ∧
    ∃ rows, (∀ rounds, (renderTunnelsJson providers).length < rounds →
        renderTunnelsTable rounds (renderTunnelsJson providers) = some (.rows rows)) ∧
      (rows.map Row.shown = tunnels.map TunnelSnapshot.reported ↔
        ∀ tunnel ∈ tunnels, Readable providers tunnel) := by
  refine ⟨renderTunnelsTable_ends, ?_⟩
  obtain ⟨rows, ⟨least, read⟩, shows⟩ := rows_read providers tunnels
  obtain ⟨array, length, found, body⟩ := findArray_reply header
    (objectsText true (tunnels.map (tunnelFields providers)))
  have reply : renderTunnelsJson providers = headerText providers ++ text "\"tunnels\":[" ++
      objectsText true (tunnels.map (tunnelFields providers)) ++ [bracket, 125] := by
    rw [renderTunnelsJson, given]
    rfl
  obtain ⟨table, ends⟩ := renderTunnelsTable_ends (renderTunnelsJson providers)
  refine ⟨rows, fun rounds enough => ?_, shows⟩
  have many : renderTunnelsTable (max least rounds) (renderTunnelsJson providers) =
      some (.rows rows) := by
    have rows_are : readRows (max least rounds) ((array.drop 1).take (length - 1)) = some rows := by
      rw [body]
      exact read _ (Nat.le_max_left least rounds)
    rw [renderTunnelsTable, reply, found]
    exact congrArg (Option.map Table.rows) rows_are
  rw [ends rounds enough, ← many, ends _ (Nat.lt_of_lt_of_le enough (Nat.le_max_right _ _))]

/-- A target host with a quote, a backslash and a newline. -/
def quotedProviders : InspectProviders where
  mode := some (text "server")
  friendsOnline := some 1
  friendPkPrefix := some fun _ => text "AABB"
  snapshot := some [⟨7, [34, 92, 10], 443, text "Connected", 12, 3, 0⟩]

set_option maxRecDepth 2000 in
theorem quoted_target_shown :
    ∃ rows, renderTunnelsTable ((renderTunnelsJson quotedProviders).length + 1)
        (renderTunnelsJson quotedProviders) = some (.rows rows) ∧
      rows.map Row.shown =
        [⟨text "7", [34, 92, 10] ++ text ":443", text "Connected", text "12", text "3"⟩] := by
  have header : PlainHeader quotedProviders := by
    constructor
    · rintro mode ⟨⟩
      decide
    · exact nofun
  obtain ⟨-, rows, read, shows⟩ := table_shows_tunnels header
    (show quotedProviders.snapshot = some [_] from rfl)
  have enough := Nat.lt_add_one (renderTunnelsJson quotedProviders).length
  refine ⟨rows, read _ enough, (shows.mpr ?_).trans (by decide)⟩
  rintro tunnel member
  obtain rfl := List.mem_singleton.mp member
  exact ⟨⟨by decide, by decide⟩, ⟨by decide, by decide⟩, by decide⟩

/-- A first tunnel to "a]", and a second one. -/
def hidingProviders : InspectProviders where
  snapshot := some [⟨1, [97, 93], 80, text "Connected", 5, 6, 0⟩,
    ⟨2, text "b", 80, text "Connected", 7, 8, 0⟩]

/-- The second tunnel is not shown, and the first without its counts. -/
theorem second_tunnel_hidden :
    renderTunnelsTable 200 (renderTunnelsJson hidingProviders) =
      some (.rows [{ id := text "1", target := text "a" }]) := by
  decide

end Replies
end ToxTunnel.InspectTable
