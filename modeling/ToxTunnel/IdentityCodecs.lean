import ToxTunnel.EndpointGrammar
import ToxTunnel.NodeList
import ToxTunnel.ServerIdentity

/-!
The texts of identities: hexadecimal bytes, Tox ids with their checksum, and bootstrap nodes
written as `ip:port:key` or `[ip]:port:key`. What is written is read back, but for a node
whose address begins with a bracket and has no colon.
-/

namespace ToxTunnel.IdentityCodecs
open AccessRules EndpointGrammar NodeList ServerIdentity Socks5Handshake StableParse
open RateLimits (Text text)

section Hex

/-- '0' to '9', 'a' to 'f' and 'A' to 'F'. -/
def IsHexDigit (char : UInt8) : Prop :=
  48 ≤ char ∧ char ≤ 57 ∨ 97 ≤ char ∧ char ≤ 102 ∨ 65 ≤ char ∧ char ≤ 70

theorem hexCharValue_isSome (char : UInt8) : (hexCharValue char).isSome ↔ IsHexDigit char := by
  unfold hexCharValue IsHexDigit
  split_ifs with digit lower upper
  · simp [digit]
  · simp [lower]
  · simp [upper]
  · simp [digit, lower, upper]

theorem hexCharValue_hexDigit {value : UInt8} (small : value.toNat < 16) :
    hexCharValue (hexDigit value) = some value := by
  have all : ∀ digit : Fin 16, hexCharValue (hexDigit (UInt8.ofNat digit)) =
      some (UInt8.ofNat digit) := by
    decide
  have same : UInt8.ofNat value.toNat = value := UInt8.ofNat_toNat
  exact same ▸ all ⟨value.toNat, small⟩

theorem halves (byte : UInt8) :
    ((byte >>> 4) &&& 0x0F).toNat < 16 ∧ (byte &&& 0x0F).toNat < 16 ∧
      (((byte >>> 4) &&& 0x0F) <<< 4) ||| (byte &&& 0x0F) = byte := by
  have high : ((byte >>> 4) &&& 0x0F).toNat = byte.toNat / 16 := by
    have small := byte.toNat_lt
    have masked : byte.toNat / 16 &&& 2 ^ 4 - 1 = byte.toNat / 16 % 2 ^ 4 :=
      Nat.and_two_pow_sub_one_eq_mod _ 4
    simp [Nat.shiftRight_eq_div_pow] at masked ⊢
    omega
  have low : (byte &&& 0x0F).toNat = byte.toNat % 16 := Nat.and_two_pow_sub_one_eq_mod _ 4
  have small := byte.toNat_lt
  refine ⟨by omega, by omega, UInt8.toNat_inj.mp ?_⟩
  have shifted : (byte.toNat / 16) <<< 4 % 2 ^ 8 = (byte.toNat / 16) <<< 4 := by
    rw [Nat.shiftLeft_eq]
    omega
  calc ((((byte >>> 4) &&& 0x0F) <<< 4) ||| (byte &&& 0x0F)).toNat
      = (byte.toNat / 16) <<< 4 % 2 ^ 8 ||| byte.toNat % 16 := by
        rw [UInt8.toNat_or, UInt8.toNat_shiftLeft, high, low]
        rfl
    _ = (byte.toNat / 16) <<< 4 + byte.toNat % 16 := by
        rw [shifted, Nat.shiftLeft_add_eq_or_of_lt (by omega)]
    _ = byte.toNat := by
        rw [Nat.shiftLeft_eq]
        omega

theorem bytesToHex_cons (byte : UInt8) (rest : List UInt8) :
    bytesToHex (byte :: rest) =
      hexDigit ((byte >>> 4) &&& 0x0F) :: hexDigit (byte &&& 0x0F) :: bytesToHex rest := rfl

theorem hexPairs_bytesToHex (bytes : List UInt8) : hexPairs (bytesToHex bytes) = some bytes := by
  induction bytes with
  | nil => rfl
  | cons byte rest ih =>
      obtain ⟨high, low, whole⟩ := halves byte
      simp only [bytesToHex_cons, hexPairs, hexCharValue_hexDigit high,
        hexCharValue_hexDigit low, ih, Option.bind_eq_bind, Option.bind_some, Option.pure_def,
        whole]

theorem bytesToHex_length (bytes : List UInt8) : (bytesToHex bytes).length = bytes.length * 2 := by
  simp [bytesToHex, List.length_flatMap]

theorem hexToBytes_bytesToHex (bytes : List UInt8) :
    hexToBytes (bytesToHex bytes) bytes.length = some bytes := by
  rw [hexToBytes, if_neg (not_not.mpr (bytesToHex_length bytes)), hexPairs_bytesToHex]

theorem hexPairs_isSome {hex : Text} (even : 2 ∣ hex.length) :
    (hexPairs hex).isSome ↔ ∀ char ∈ hex, IsHexDigit char := by
  induction hex using hexPairs.induct with
  | case1 high low rest ih =>
      have shorter : 2 ∣ rest.length := by
        simp only [List.length_cons] at even
        omega
      have rest_is := ih shorter
      rw [List.forall_mem_cons, List.forall_mem_cons, ← rest_is, ← hexCharValue_isSome,
        ← hexCharValue_isSome]
      cases one : hexCharValue high <;> cases other : hexCharValue low <;>
        cases tail : hexPairs rest <;> simp [hexPairs, one, other, tail]
  | case2 hex short =>
      rcases hex with _ | ⟨first, _ | ⟨second, rest⟩⟩
      · simp [hexPairs]
      · simp at even
      · exact absurd rfl (short first second rest)

theorem hexToBytes_isSome (hex : Text) (outLen : Nat) :
    (hexToBytes hex outLen).isSome ↔
      hex.length = 2 * outLen ∧ ∀ char ∈ hex, IsHexDigit char := by
  unfold hexToBytes
  split
  next other =>
    refine ⟨fun read => absurd read (by simp), fun shape => absurd ?_ other⟩
    rw [shape.1, Nat.mul_comm]
  next size =>
    have size : hex.length = outLen * 2 := not_not.mp size
    rw [hexPairs_isSome ⟨outLen, by rw [size, Nat.mul_comm]⟩]
    exact ⟨fun digits => ⟨by rw [size, Nat.mul_comm], digits⟩, fun shape => shape.2⟩

end Hex

section Checksums

/-- The loop of `compute_checksum`, from an index on. -/
def checksumLoop : Nat → UInt8 × UInt8 → List UInt8 → UInt8 × UInt8
  | _, checksum, [] => checksum
  | index, (even, odd), byte :: rest =>
      checksumLoop (index + 1)
        (if index % 2 = 0 then (even ^^^ byte, odd) else (even, odd ^^^ byte)) rest

theorem checksumLoop_eq (data : List UInt8) (blocks : Nat) (even odd : UInt8) :
    checksumLoop (2 * blocks) (even, odd) data =
      (even ^^^ (computeChecksum data).1, odd ^^^ (computeChecksum data).2) := by
  induction data using computeChecksum.induct generalizing blocks even odd with
  | case1 first second rest _ _ _ ih =>
      have here : 2 * blocks % 2 = 0 := by omega
      have behind : (2 * blocks + 1) % 2 ≠ 0 := by omega
      rw [checksumLoop, if_pos here, checksumLoop, if_neg behind]
      rw [show 2 * blocks + 1 + 1 = 2 * (blocks + 1) by omega, ih, computeChecksum]
      simp [UInt8.xor_assoc]
  | case2 first =>
      have here : 2 * blocks % 2 = 0 := by omega
      rw [checksumLoop, if_pos here, checksumLoop, computeChecksum]
      simp
  | case3 => simp [checksumLoop, computeChecksum]

theorem compute_checksum_loop (data : List UInt8) :
    checksumLoop 0 (0, 0) data = computeChecksum data := by
  have loop := checksumLoop_eq data 0 0 0
  simpa using loop

theorem computeChecksum_changed {data : List UInt8} {position : Nat} {byte : UInt8}
    (inside : position < data.length) (changed : data[position] ≠ byte) :
    computeChecksum (data.set position byte) ≠ computeChecksum data := by
  induction data using computeChecksum.induct generalizing position with
  | case1 first second rest _ _ _ ih =>
      match position with
      | 0 =>
          intro same
          simp only [List.set_cons_zero, computeChecksum, Prod.mk.injEq,
            UInt8.xor_left_inj] at same
          exact changed same.1.symm
      | 1 =>
          intro same
          simp only [List.set_cons_succ, List.set_cons_zero, computeChecksum, Prod.mk.injEq,
            UInt8.xor_left_inj] at same
          exact changed same.2.symm
      | position + 2 =>
          have shorter : position < rest.length := by simpa using inside
          have other := ih shorter changed
          intro same
          simp only [List.set_cons_succ, computeChecksum, Prod.mk.injEq,
            UInt8.xor_right_inj] at same
          exact other (Prod.ext same.1 same.2)
  | case2 first =>
      obtain rfl : position = 0 := by simpa using inside
      simpa [computeChecksum] using Ne.symm changed
  | case3 => exact absurd inside (Nat.not_lt_zero position)

theorem isChecksumValid_sized {bytes : List UInt8} (valid : isChecksumValid bytes = true) :
    bytes.length = kToxIdBytes := by
  have actual := congrArg List.length (eq_of_beq valid)
  rw [List.length_drop] at actual
  simp only [List.length_cons, List.length_nil] at actual
  show bytes.length = 38
  omega

theorem checksum_detects {bytes : List UInt8} (valid : isChecksumValid bytes = true)
    {position : Nat} (inside : position < bytes.length) {byte : UInt8}
    (changed : bytes[position] ≠ byte) : isChecksumValid (bytes.set position byte) = false := by
  have actual := eq_of_beq valid
  refine Bool.eq_false_of_not_eq_true fun still => ?_
  have actual' := eq_of_beq still
  by_cases payload : position < 36
  · -- The checksum stays and what it is of changes.
    rw [List.drop_set_of_lt payload] at actual'
    have within : position < (bytes.take 36).length := by
      rw [List.length_take]
      omega
    have differs : (bytes.take 36)[position] ≠ byte := by simpa using changed
    have other := computeChecksum_changed within differs
    rw [List.take_set] at actual'
    rw [actual] at actual'
    simp only [List.cons.injEq, and_true] at actual'
    exact other (Prod.ext actual'.1.symm actual'.2.symm)
  · -- The checksum changes and what it is of stays.
    have outside : 36 ≤ position := Nat.not_lt.mp payload
    rw [List.take_set_of_le outside, ← actual] at actual'
    have same : bytes.set position byte = bytes := by
      rw [← List.take_append_drop 36 (bytes.set position byte), actual',
        List.take_set_of_le outside, List.take_append_drop]
    have read : (bytes.set position byte)[position]? = some byte := by
      rw [List.getElem?_set_self inside]
    rw [same, List.getElem?_eq_getElem inside] at read
    exact changed (Option.some.inj read)

theorem fromHex_toHex {bytes : List UInt8} (valid : isChecksumValid bytes = true) :
    fromHex (bytesToHex bytes) = .ok bytes := by
  have sized := isChecksumValid_sized valid
  have long : (bytesToHex bytes).length = kToxIdHexLen := by
    rw [bytesToHex_length, sized]
    rfl
  rw [fromHex, if_neg (not_not.mpr long), ← sized, hexToBytes_bytesToHex]
  exact if_pos valid

theorem fromHex_rejects {hex : Text} {bytes : List UInt8}
    (read : hexToBytes hex kToxIdBytes = some bytes) (invalid : isChecksumValid bytes = false) :
    fromHex hex = .error "Tox ID checksum is invalid" := by
  have long : hex.length = kToxIdHexLen := by
    rw [((hexToBytes_isSome hex kToxIdBytes).mp (by rw [read]; rfl)).1]
    rfl
  rw [fromHex, if_neg (not_not.mpr long), read]
  simp [invalid]

end Checksums

section Nodes

/-- The address, and what is behind its ':'. -/
def addressPart (str : Text) : Except Text (Text × Text) :=
  if str.head? = some 91 then
    match find [93] str with
    | none => .error (text "unterminated '[' in IPv6 address")
    | some bracketEnd =>
        if str[bracketEnd + 1]? ≠ some 58 then
          .error (text "expected ':' after IPv6 address bracket")
        else .ok ((str.drop 1).take (bracketEnd - 1), str.drop (bracketEnd + 2))
  else
    match find [58] str with
    | none => .error (text "expected format 'ip:port:public_key'")
    | some colon => .ok (str.take colon, str.drop (colon + 1))

def portPart (portText : Text) : Except Text UInt16 :=
  match listenPort portText with
  | none => .error (text "invalid port number: " ++ portText)
  | some port => if port = 0 then .error (text "port must be non-zero") else .ok (UInt16.ofNat port)

def keyPart (key : Text) : Except Text (List UInt8) :=
  match parsePublicKey key with
  | .error reason => .error (text ("invalid bootstrap public key: " ++ reason))
  | .ok publicKey => .ok publicKey

/-- The port and the key. An empty address is refused before they are read. -/
def behindAddress (ip remaining : Text) : Except Text BootstrapNode :=
  match find [58] remaining with
  | none => .error (text "expected format 'ip:port:public_key'")
  | some colon =>
      if ip = [] then .error (text "IP address is empty")
      else do
        let port ← portPart (remaining.take colon)
        let publicKey ← keyPart (remaining.drop (colon + 1))
        return { ip, port, publicKey }

/-- `BootstrapNode::parse`. -/
def parseNode (str : Text) : Except Text BootstrapNode :=
  if str = [] then .error (text "bootstrap node string is empty")
  else do
    let (ip, remaining) ← addressPart str
    behindAddress ip remaining

/-- `BootstrapNode::to_string`. -/
def nodeToString (node : BootstrapNode) : Text :=
  (if 58 ∈ node.ip then 91 :: (node.ip ++ [93]) else node.ip) ++
    58 :: (digits 10 node.port.toNat ++ 58 :: bytesToHex node.publicKey)

/-- What is behind the address. -/
structure Endpoints (behind : Text) (port : UInt16) (publicKey : List UInt8) : Prop where
  shape : ∃ portText key, behind = portText ++ 58 :: key ∧
    listenPort portText = some port.toNat ∧ parsePublicKey key = .ok publicKey
  usable : port ≠ 0

/-- The texts that are accepted, each with its node. -/
inductive NodeText : Text → BootstrapNode → Prop where
  | plain (ip behind : Text) (port : UInt16) (publicKey : List UInt8) :
      ip ≠ [] → 58 ∉ ip → ip.head? ≠ some 91 → Endpoints behind port publicKey →
      NodeText (ip ++ 58 :: behind) ⟨ip, port, publicKey⟩
  | bracketed (ip behind : Text) (port : UInt16) (publicKey : List UInt8) :
      ip ≠ [] → 93 ∉ ip → Endpoints behind port publicKey →
      NodeText (91 :: (ip ++ 93 :: 58 :: behind)) ⟨ip, port, publicKey⟩

theorem listenPort_some {number : Text} {port : Nat} (read : listenPort number = some port) :
    (∀ char ∈ number, isDigit char = true) ∧ port ≤ 65535 := by
  unfold listenPort at read
  split_ifs at read with empty other high
  cases read
  exact ⟨by simpa using other, Nat.not_lt.mp high⟩

theorem portPart_ok {number : Text} {port : UInt16} :
    portPart number = .ok port ↔ listenPort number = some port.toNat ∧ port ≠ 0 := by
  unfold portPart
  cases read : listenPort number with
  | none => simp
  | some value =>
      have small : value < UInt16.size := Nat.lt_succ_of_le (listenPort_some read).2
      have back : (UInt16.ofNat value).toNat = value := UInt16.toNat_ofNat_of_lt' small
      constructor
      · intro made
        simp only at made
        split at made
        next => cases made
        next usable =>
          cases made
          refine ⟨by rw [back], ?_⟩
          intro zero
          exact usable (by rw [← back, zero]; rfl)
      · rintro ⟨same, usable⟩
        cases same
        have positive : port.toNat ≠ 0 := fun zero => usable (UInt16.toNat_inj.mp zero)
        simp [positive]

theorem keyPart_ok {key : Text} {publicKey : List UInt8} :
    keyPart key = .ok publicKey ↔ parsePublicKey key = .ok publicKey := by
  unfold keyPart
  cases parsePublicKey key <;> simp

theorem addressPart_ok {str ip remaining : Text} :
    addressPart str = .ok (ip, remaining) ↔
      str = ip ++ 58 :: remaining ∧ 58 ∉ ip ∧ str.head? ≠ some 91 ∨
        str = 91 :: (ip ++ 93 :: 58 :: remaining) ∧ 93 ∉ ip := by
  unfold addressPart
  constructor
  · intro read
    split at read
    next opened =>
      obtain ⟨rest, rfl⟩ : ∃ rest, str = 91 :: rest := by
        cases str with
        | nil => cases opened
        | cons first rest => exact ⟨rest, by cases opened; rfl⟩
      split at read
      next => cases read
      next bracketEnd found =>
        obtain ⟨front, behind, shape, first, rfl⟩ := find_split found
        cases front with
        | nil => cases shape
        | cons head inner =>
            rw [List.cons_append] at shape
            obtain ⟨rfl, rfl⟩ := List.cons.inj shape
            have closed : (91 :: (inner ++ 93 :: behind))[(91 :: inner).length + 1]? =
                behind[0]? := by
              rw [List.length_cons, List.getElem?_cons_succ,
                List.getElem?_append_right (Nat.le_succ _)]
              simp
            rw [closed] at read
            cases behind with
            | nil => cases read
            | cons next later =>
                split at read
                next => cases read
                next colon =>
                  obtain rfl : next = 58 := by simpa using colon
                  cases read
                  right
                  simpa using first
    next plain =>
      split at read
      next => cases read
      next colon found =>
        obtain ⟨front, behind, rfl, first, rfl⟩ := find_split found
        cases read
        left
        simpa [first] using plain
  · rintro (⟨rfl, first, plain⟩ | ⟨rfl, first⟩)
    · rw [if_neg plain, find_front first]
      simp
    · have found : find [93] (91 :: (ip ++ 93 :: 58 :: remaining)) = some (ip.length + 1) :=
        @find_front (91 :: ip) (58 :: remaining) 93 (by simp [first])
      simp [found]

theorem parseNode_via (str : Text) (node : BootstrapNode) :
    parseNode str = .ok node ↔
      str ≠ [] ∧ ∃ ip remaining, addressPart str = .ok (ip, remaining) ∧
        behindAddress ip remaining = .ok node := by
  unfold parseNode
  split
  next empty => simp [empty]
  next filled =>
    cases read : addressPart str with
    | error reason => simp [bind, Except.bind]
    | ok parts =>
        obtain ⟨ip, remaining⟩ := parts
        simp [bind, Except.bind, filled]

theorem behindAddress_ok {ip remaining : Text} {node : BootstrapNode} :
    behindAddress ip remaining = .ok node ↔
      ip ≠ [] ∧ node.ip = ip ∧ Endpoints remaining node.port node.publicKey := by
  constructor
  · intro read
    unfold behindAddress at read
    split at read
    next => cases read
    next colon found =>
      obtain ⟨portText, key, rfl, first, rfl⟩ := find_split found
      split at read
      next => cases read
      next filled =>
        rw [List.take_left] at read
        have behind : (portText ++ 58 :: key).drop (portText.length + 1) = key := by simp
        rw [behind] at read
        cases port : portPart portText with
        | error reason => simp [port, bind, Except.bind] at read
        | ok value =>
            cases publicKey : keyPart key with
            | error reason => simp [port, publicKey, bind, Except.bind] at read
            | ok bytes =>
                simp only [port, publicKey, bind, Except.bind, pure, Except.pure,
                  Except.ok.injEq] at read
                subst read
                obtain ⟨listened, usable⟩ := portPart_ok.mp port
                exact ⟨filled, rfl,
                  ⟨⟨portText, key, rfl, listened, keyPart_ok.mp publicKey⟩, usable⟩⟩
  · rintro ⟨filled, rfl, ⟨⟨portText, key, rfl, listened, parsed⟩, usable⟩⟩
    have colonless : 58 ∉ portText := digit_not_colon (listenPort_some listened).1
    have port : portPart portText = .ok node.port := portPart_ok.mpr ⟨listened, usable⟩
    have publicKey : keyPart key = .ok node.publicKey := keyPart_ok.mpr parsed
    unfold behindAddress
    rw [find_front colonless]
    simp [filled, port, publicKey, bind, Except.bind, pure, Except.pure]

theorem parseNode_iff (str : Text) (node : BootstrapNode) :
    parseNode str = .ok node ↔ NodeText str node := by
  rw [parseNode_via]
  constructor
  · rintro ⟨_, ip, remaining, read, rest⟩
    obtain ⟨filled, rfl, ends⟩ := behindAddress_ok.mp rest
    rcases addressPart_ok.mp read with ⟨rfl, colonless, opening⟩ | ⟨rfl, closed⟩
    · have plain : node.ip.head? ≠ some 91 := by
        rwa [List.head?_append_of_ne_nil _ filled] at opening
      exact .plain node.ip remaining node.port node.publicKey filled colonless plain ends
    · exact .bracketed node.ip remaining node.port node.publicKey filled closed ends
  · intro formed
    cases formed with
    | plain ip behind port publicKey filled colonless plain ends =>
        have opening : (ip ++ 58 :: behind).head? ≠ some 91 := by
          rwa [List.head?_append_of_ne_nil _ filled]
        refine ⟨by simp, ip, behind, addressPart_ok.mpr (.inl ⟨rfl, colonless, opening⟩), ?_⟩
        exact behindAddress_ok.mpr ⟨filled, rfl, ends⟩
    | bracketed ip behind port publicKey filled closed ends =>
        refine ⟨by simp, ip, behind, addressPart_ok.mpr (.inr ⟨rfl, closed⟩), ?_⟩
        exact behindAddress_ok.mpr ⟨filled, rfl, ends⟩

theorem toDigits_range {number : Nat} {letter : Char} (inside : letter ∈ Nat.toDigits 10 number) :
    48 ≤ letter.toNat ∧ letter.toNat ≤ 57 := by
  have digit := Nat.isDigit_of_mem_toDigits (by decide) (by decide) inside
  simp only [Char.isDigit, Bool.and_eq_true, decide_eq_true_eq, UInt32.le_iff_toNat_le] at digit
  exact digit

theorem digits_digit (number : Nat) : ∀ char ∈ digits 10 number, isDigit char = true := by
  intro char member
  obtain ⟨letter, inside, rfl⟩ := List.mem_map.mp member
  obtain ⟨low, high⟩ := toDigits_range inside
  have same : (UInt8.ofNat letter.toNat).toNat = letter.toNat :=
    UInt8.toNat_ofNat_of_lt' (Nat.lt_of_le_of_lt high (by decide))
  simp only [isDigit, Bool.and_eq_true, decide_eq_true_eq, UInt8.le_iff_toNat_le, same]
  exact ⟨low, high⟩

theorem decimalValue_letters {letters : List Char} (all : ∀ letter ∈ letters, letter.toNat ≤ 57)
    (value : Nat) :
    (letters.map fun char => UInt8.ofNat char.toNat).foldl
        (fun value byte => 10 * value + (byte.toNat - 48)) value =
      Nat.ofDigitChars 10 letters value := by
  induction letters generalizing value with
  | nil => rfl
  | cons letter rest ih =>
      obtain ⟨here, later⟩ := List.forall_mem_cons.mp all
      have same : (UInt8.ofNat letter.toNat).toNat = letter.toNat :=
        UInt8.toNat_ofNat_of_lt' (Nat.lt_of_le_of_lt here (by decide))
      rw [List.map_cons, List.foldl_cons, ih later, same, Nat.ofDigitChars_cons]
      rfl

theorem decimalValue_digits (number : Nat) : decimalValue (digits 10 number) = number := by
  have letters : ∀ letter ∈ Nat.toDigits 10 number, letter.toNat ≤ 57 :=
    fun letter inside => (toDigits_range inside).2
  rw [decimalValue, digits, decimalValue_letters letters, Nat.ofDigitChars_ten_toDigits]

theorem listenPort_digits (port : UInt16) :
    listenPort (digits 10 port.toNat) = some port.toNat := by
  have filled : digits 10 port.toNat ≠ [] := by
    simp [digits, Nat.toDigits_ne_nil]
  have all : (digits 10 port.toNat).all isDigit = true :=
    List.all_eq_true.mpr (digits_digit port.toNat)
  have small : ¬ 65535 < port.toNat := Nat.not_lt.mpr (Nat.le_of_lt_succ port.toNat_lt)
  rw [listenPort, if_neg filled, decimalValue_digits]
  simp [all, small]

theorem parsePublicKey_bytesToHex {publicKey : List UInt8}
    (sized : publicKey.length = kPublicKeyBytes) :
    parsePublicKey (bytesToHex publicKey) = .ok publicKey := by
  have long : (bytesToHex publicKey).length = kPublicKeyHexLen := by
    rw [bytesToHex_length, sized]
    rfl
  rw [parsePublicKey, if_neg (not_not.mpr long), ← sized, hexToBytes_bytesToHex]

theorem NodeText.sized {str : Text} {node : BootstrapNode} (formed : NodeText str node) :
    node.ip ≠ [] ∧ node.port ≠ 0 ∧ node.publicKey.length = kPublicKeyBytes ∧
      (58 ∉ node.ip ∧ node.ip.head? ≠ some 91 ∨ 93 ∉ node.ip) := by
  have sized : ∀ {behind : Text} {port : UInt16} {publicKey : List UInt8},
      Endpoints behind port publicKey → port ≠ 0 ∧ publicKey.length = kPublicKeyBytes := by
    rintro behind port publicKey ⟨⟨portText, key, -, -, parsed⟩, usable⟩
    exact ⟨usable, parsePublicKey_length parsed⟩
  cases formed with
  | plain ip behind port publicKey filled colonless plain ends =>
      exact ⟨filled, (sized ends).1, (sized ends).2, .inl ⟨colonless, plain⟩⟩
  | bracketed ip behind port publicKey filled closed ends =>
      exact ⟨filled, (sized ends).1, (sized ends).2, .inr closed⟩

theorem endpoints_written {port : UInt16} {publicKey : List UInt8} (usable : port ≠ 0)
    (sized : publicKey.length = kPublicKeyBytes) :
    Endpoints (digits 10 port.toNat ++ 58 :: bytesToHex publicKey) port publicKey :=
  ⟨⟨_, _, rfl, listenPort_digits port, parsePublicKey_bytesToHex sized⟩, usable⟩

theorem not_nodeText {node : BootstrapNode} {behind : Text} (colonless : 58 ∉ node.ip)
    (opening : node.ip.head? = some 91) : ¬ NodeText (node.ip ++ 58 :: behind) node := by
  intro formed
  have first : find [58] (node.ip ++ 58 :: behind) = some node.ip.length := find_front colonless
  generalize node.ip ++ 58 :: behind = str at formed first
  cases formed with
  | plain ip rest port publicKey filled colonless plain ends => exact plain opening
  | bracketed ip rest port publicKey filled closed ends =>
      have later : find [58] (91 :: (ip ++ 93 :: 58 :: rest)) = some (ip.length + 2) := by
        have found := @find_front (91 :: (ip ++ [93])) rest 58 (by simpa using colonless)
        simpa using found
      rw [later] at first
      simp at first

/-- A node that was parsed is read back from its text, unless its address begins with a
bracket and is not put between brackets. -/
theorem parseNode_toString_iff {str : Text} {node : BootstrapNode}
    (parsed : parseNode str = .ok node) :
    parseNode (nodeToString node) = .ok node ↔ 58 ∈ node.ip ∨ node.ip.head? ≠ some 91 := by
  obtain ⟨filled, usable, sized, address⟩ := ((parseNode_iff str node).mp parsed).sized
  have ends := endpoints_written usable sized
  rw [parseNode_iff, nodeToString]
  by_cases colon : 58 ∈ node.ip
  · have closed : 93 ∉ node.ip := address.resolve_left fun plain => plain.1 colon
    rw [if_pos colon]
    refine iff_of_true ?_ (.inl colon)
    have formed := NodeText.bracketed node.ip _ node.port node.publicKey filled closed ends
    simpa using formed
  · rw [if_neg colon]
    by_cases opening : node.ip.head? = some 91
    · refine iff_of_false ?_ (by simp [colon, opening])
      exact not_nodeText colon opening
    · exact iff_of_true (.plain node.ip _ node.port node.publicKey filled colon opening ends)
        (.inr opening)

/-- The codecs of bytes and of ids are exact. A node is read back exactly when its address has
a colon or does not begin with a bracket. -/
theorem codecs_exact (bytes : List UInt8) (hex : Text) (outLen : Nat) (str : Text)
    (node : BootstrapNode) :
    hexToBytes (bytesToHex bytes) bytes.length = some bytes ∧
      ((hexToBytes hex outLen).isSome ↔
        hex.length = 2 * outLen ∧ ∀ char ∈ hex, IsHexDigit char) ∧
      (bytes.length = kToxIdBytes → isChecksumValid bytes = true →
        fromHex (bytesToHex bytes) = .ok bytes ∧
        ∀ (position : Nat) (byte : UInt8), position < kToxIdBytes →
          bytes[position]? ≠ some byte →
          isChecksumValid (bytes.set position byte) = false ∧
          ∀ hex, hexToBytes hex kToxIdBytes = some (bytes.set position byte) →
            fromHex hex = .error "Tox ID checksum is invalid") ∧
      (parseNode str = .ok node →
        (parseNode (nodeToString node) = .ok node ↔ 58 ∈ node.ip ∨ node.ip.head? ≠ some 91)) := by
  refine ⟨hexToBytes_bytesToHex bytes, hexToBytes_isSome hex outLen, ?_, parseNode_toString_iff⟩
  intro sized valid
  refine ⟨fromHex_toHex valid, fun position byte inside changed => ?_⟩
  have within : position < bytes.length := sized ▸ inside
  have other : bytes[position] ≠ byte := by
    rwa [List.getElem?_eq_getElem within, ne_eq, Option.some.injEq] at changed
  have invalid := checksum_detects valid within other
  exact ⟨invalid, fun hex read => fromHex_rejects read invalid⟩

/-- The id of zeros with one bit changed, and "[a:b]:080:" with a key of zeros. -/
theorem codecs_at_zeros :
    fromHex (bytesToHex ((List.replicate 38 0).set 35 1)) = .error "Tox ID checksum is invalid" ∧
      parseNode (nodeToString ⟨[97, 58, 98], 80, List.replicate 32 0⟩) =
        .ok ⟨[97, 58, 98], 80, List.replicate 32 0⟩ := by
  have exact_codecs := codecs_exact (List.replicate 38 0) [] 0
    ([91, 97, 58, 98, 93, 58, 48, 56, 48, 58] ++ List.replicate 64 48)
    ⟨[97, 58, 98], 80, List.replicate 32 0⟩
  have parsed : parseNode ([91, 97, 58, 98, 93, 58, 48, 56, 48, 58] ++ List.replicate 64 48) =
      .ok ⟨[97, 58, 98], 80, List.replicate 32 0⟩ := by decide
  have changed := (exact_codecs.2.2.1 (by decide) (by decide)).2 35 1 (by decide) (by decide)
  exact ⟨changed.2 _ (hexToBytes_bytesToHex _), (exact_codecs.2.2.2 parsed).mpr (.inl (by decide))⟩

/-- "[[x]:80:" and a key of zeros. -/
theorem bracket_lost :
    parseNode ([91, 91, 120, 93, 58, 56, 48, 58] ++ List.replicate 64 48) =
        .ok ⟨[91, 120], 80, List.replicate 32 0⟩ ∧
      parseNode (nodeToString ⟨[91, 120], 80, List.replicate 32 0⟩) =
        .error (text "unterminated '[' in IPv6 address") := by
  constructor
  · decide
  · decide

end Nodes
end ToxTunnel.IdentityCodecs
