import ToxTunnel.FrameRoundTrip
import ToxTunnel.Socks5Handshake
import ToxTunnel.TunnelSteps

/-!
The grammar of the two SOCKS5 messages, as far as the parsers take it, and the way of a
destination from the request to the server: `TunnelImpl::open` refuses it, or the OPEN
frame carries it unchanged.
-/

namespace ToxTunnel.Socks5Grammar
open Socks5Handshake StableParse TunnelState TunnelSteps FrameCodec FrameRoundTrip

section Grammar

inductive GreetingMessage : Bytes → Bytes → Prop where
  | methods (methods : Bytes) : methods ≠ [] → methods.length ≤ 255 →
      GreetingMessage (kVersion :: UInt8.ofNat methods.length :: methods) methods

def portOf (high low : UInt8) : Nat := 256 * high.toNat + low.toNat

/-- CONNECT to an IPv4 address, a domain name or an IPv6 address. -/
inductive RequestMessage : Bytes → Destination → Prop where
  | ipv4 (address : Bytes) (high low : UInt8) : address.length = 4 →
      RequestMessage (kVersion :: kCmdConnect :: 0 :: kAtypIPv4 :: (address ++ [high, low]))
        ⟨dottedHost address, portOf high low⟩
  | domain (name : Bytes) (high low : UInt8) : name ≠ [] → name.length ≤ 255 →
      RequestMessage (kVersion :: kCmdConnect :: 0 :: kAtypDomain :: UInt8.ofNat name.length ::
        (name ++ [high, low])) ⟨name, portOf high low⟩
  | ipv6 (address : Bytes) (high low : UInt8) : address.length = 16 →
      RequestMessage (kVersion :: kCmdConnect :: 0 :: kAtypIPv6 :: (address ++ [high, low]))
        ⟨groupedHost address, portOf high low⟩

end Grammar

section Acceptance

theorem toNat_length {bytes : Bytes} (short : bytes.length ≤ 255) :
    (UInt8.ofNat bytes.length).toNat = bytes.length := by
  rw [UInt8.toNat_ofNat']
  exact Nat.mod_eq_of_lt (by omega)

theorem length_ne_zero {bytes : Bytes} (some_bytes : bytes ≠ []) (short : bytes.length ≤ 255) :
    UInt8.ofNat bytes.length ≠ 0 := by
  intro zero
  have same := toNat_length short
  rw [zero] at same
  exact some_bytes (List.eq_nil_of_length_eq_zero same.symm)

theorem portAt_behind (front : Bytes) (high low : UInt8) (behind : Bytes) :
    portAt (front ++ high :: low :: behind) front.length = portOf high low := by
  simp [portAt, portOf]

theorem greeting_accepted {message methods : Bytes} (formed : GreetingMessage message methods) :
    Accepts parseSocks5Greeting message methods := by
  obtain ⟨_, some_methods, short⟩ := formed
  have count := toNat_length short
  simp only [Accepts, parseSocks5Greeting, count, length_ne_zero some_methods short, ne_eq,
    not_true_eq_false, if_false, lt_irrefl, List.take_length, List.length_cons]
  congr 1
  omega

theorem request_accepted {message : Bytes} {destination : Destination}
    (formed : RequestMessage message destination) :
    Accepts parseSocks5Request message destination := by
  cases formed with
  | ipv4 address high low four =>
      have port := portAt_behind address high low []
      rw [four] at port
      simp only [Accepts, parseSocks5Request, ne_eq, not_true_eq_false, if_false, if_true,
        finishRequest, List.length_append, List.length_cons, List.length_nil, four, port,
        List.take_left' four]
      rfl
  | domain name high low some_name short =>
      have count := toNat_length short
      have port := portAt_behind (UInt8.ofNat name.length :: name) high low []
      rw [List.length_cons, List.cons_append] at port
      have other : kAtypDomain ≠ kAtypIPv4 := by decide
      simp only [Accepts, parseSocks5Request, ne_eq, not_true_eq_false, if_false, if_true, other,
        length_ne_zero some_name short, count, finishRequest, List.length_append, List.length_cons,
        List.length_nil, List.take_left, Nat.add_comm 1 name.length, port, lt_irrefl,
        Nat.zero_add]
      congr 1
      omega
  | ipv6 address high low sixteen =>
      have port := portAt_behind address high low []
      rw [sixteen] at port
      have other : kAtypIPv6 ≠ kAtypIPv4 := by decide
      have another : kAtypIPv6 ≠ kAtypDomain := by decide
      simp only [Accepts, parseSocks5Request, ne_eq, not_true_eq_false, if_false, if_true, other,
        another, finishRequest, List.length_append, List.length_cons, List.length_nil, sixteen,
        port, List.take_left' sixteen]
      rfl

end Acceptance

section Exactness

/-- An input begins with a message that is accepted as a whole. -/
def Begins (Formed : Bytes → Value → Prop) (input : Bytes) (value : Value) (consumed : Nat) :
    Prop :=
  ∃ message, message <+: input ∧ Formed message value ∧ consumed = message.length

theorem begins_ok {Fault Value : Type} {parse : Bytes → Outcome Fault Value}
    {Formed : Bytes → Value → Prop} (stable : Stable parse)
    (accepted : ∀ {message value}, Formed message value → Accepts parse message value)
    {input : Bytes} {value : Value} {consumed : Nat} (begins : Begins Formed input value consumed) :
    parse input = .ok value consumed := by
  obtain ⟨message, ⟨rest, rfl⟩, formed, rfl⟩ := begins
  exact (stable message value _ (accepted formed)).2 rest

theorem greeting_begins {input methods : Bytes} {consumed : Nat}
    (succeeds : parseSocks5Greeting input = .ok methods consumed) :
    Begins GreetingMessage input methods consumed := by
  match input with
  | [] | [_] => cases succeeds
  | version :: nmethods :: rest =>
      simp only [parseSocks5Greeting] at succeeds
      split_ifs at succeeds with other empty short
      cases succeeds
      have enough : nmethods.toNat ≤ rest.length := not_lt.mp short
      have count : (rest.take nmethods.toNat).length = nmethods.toNat :=
        List.length_take_of_le enough
      have byte : UInt8.ofNat (rest.take nmethods.toNat).length = nmethods := by
        rw [count, UInt8.ofNat_toNat]
      have small := UInt8.toNat_lt nmethods
      have positive : nmethods.toNat ≠ 0 := fun zero => empty (UInt8.toNat_inj.mp zero)
      have formed := GreetingMessage.methods (rest.take nmethods.toNat)
        (List.ne_nil_of_length_pos (by omega)) (by omega)
      rw [byte] at formed
      refine ⟨_, ?_, formed, ?_⟩
      · rw [not_not.mp other, List.cons_prefix_cons, List.cons_prefix_cons]
        exact ⟨rfl, rfl, List.take_prefix _ _⟩
      · simp only [List.length_cons, count]
        omega

theorem address_and_port {rest : Bytes} {length : Nat} (enough : length + 2 ≤ rest.length) :
    ∃ address high low behind, rest = address ++ high :: low :: behind ∧
      address.length = length := by
  have left : 2 ≤ (rest.drop length).length := by
    rw [List.length_drop]
    omega
  match split : rest.drop length with
  | [] | [_] =>
      rw [split] at left
      simp at left
  | high :: low :: behind =>
      refine ⟨rest.take length, high, low, behind, ?_, List.length_take_of_le (by omega)⟩
      rw [← split, List.take_append_drop]

theorem ip_begins {address behind host : Bytes} {atyp high low : UInt8} {length consumed : Nat}
    {destination : Destination} (size : address.length = length)
    (formed : RequestMessage (kVersion :: kCmdConnect :: 0 :: atyp :: (address ++ [high, low]))
      ⟨host, portOf high low⟩)
    (succeeds : finishRequest (address ++ high :: low :: behind) host length =
      .ok destination consumed) :
    Begins RequestMessage
      (kVersion :: kCmdConnect :: 0 :: atyp :: (address ++ high :: low :: behind))
      destination consumed := by
  have port := portAt_behind address high low behind
  rw [size] at port
  rw [finishRequest, port] at succeeds
  cases succeeds
  refine ⟨_, ?_, formed, ?_⟩
  · simp
  · simp only [List.length_cons, List.length_append, List.length_nil, size]
    omega

theorem request_begins {input : Bytes} {destination : Destination} {consumed : Nat}
    (succeeds : parseSocks5Request input = .ok destination consumed) :
    Begins RequestMessage input destination consumed := by
  match input with
  | [] | [_] | [_, _] | [_, _, _] => cases succeeds
  | version :: cmd :: reserved :: atyp :: rest =>
      simp only [parseSocks5Request] at succeeds
      split_ifs at succeeds with other dirty unsupported ipv4 short domain ipv6 short
      · obtain ⟨address, high, low, behind, rfl, size⟩ := address_and_port (not_lt.mp short)
        rw [not_not.mp other, not_not.mp dirty, not_not.mp unsupported, ipv4]
        rw [List.take_left' size] at succeeds
        exact ip_begins size (.ipv4 address high low size) succeeds
      · cases rest with
        | nil => cases succeeds
        | cons nameLen behind =>
            simp only at succeeds
            split_ifs at succeeds with empty short
            obtain ⟨name, high, low, after, rfl, size⟩ := address_and_port (not_lt.mp short)
            have small := UInt8.toNat_lt nameLen
            have positive : nameLen.toNat ≠ 0 := fun zero => empty (UInt8.toNat_inj.mp zero)
            have byte : UInt8.ofNat name.length = nameLen := by rw [size, UInt8.ofNat_toNat]
            have formed := RequestMessage.domain name high low
              (List.ne_nil_of_length_pos (by omega)) (by omega)
            rw [byte] at formed
            have port := portAt_behind (nameLen :: name) high low after
            rw [List.length_cons, size, List.cons_append, Nat.add_comm] at port
            rw [List.take_left' size, finishRequest, port] at succeeds
            cases succeeds
            rw [not_not.mp other, not_not.mp dirty, not_not.mp unsupported, domain]
            refine ⟨_, ?_, formed, ?_⟩
            · simp
            · simp only [List.length_cons, List.length_append, List.length_nil, size]
              omega
      · obtain ⟨address, high, low, behind, rfl, size⟩ := address_and_port (not_lt.mp short)
        rw [not_not.mp other, not_not.mp dirty, not_not.mp unsupported, ipv6]
        rw [List.take_left' size] at succeeds
        exact ip_begins size (.ipv6 address high low size) succeeds

end Exactness

section Verdicts

theorem greeting_rejects (input : Bytes) (fault : Unit)
    (rejected : parseSocks5Greeting input = .malformed fault) (more : Bytes) :
    parseSocks5Greeting (input ++ more) = .malformed fault := by
  match input with
  | [] | [_] => cases rejected
  | version :: nmethods :: rest =>
      simp only [List.cons_append, parseSocks5Greeting] at rejected ⊢
      split_ifs at rejected with other empty
      · rw [if_pos other]
      · rw [if_neg other, if_pos empty]

theorem request_rejects (input : Bytes) (fault : UInt8)
    (rejected : parseSocks5Request input = .malformed fault) (more : Bytes) :
    parseSocks5Request (input ++ more) = .malformed fault := by
  match input with
  | [] | [_] | [_, _] | [_, _, _] => cases rejected
  | version :: cmd :: reserved :: atyp :: rest =>
      simp only [List.cons_append, parseSocks5Request] at rejected ⊢
      split_ifs at rejected with other dirty unsupported ipv4 short domain ipv6 short
      · rw [if_pos other]
        exact rejected
      · rw [if_neg other, if_pos dirty]
        exact rejected
      · rw [if_neg other, if_neg dirty, if_pos unsupported]
        exact rejected
      · cases rejected
      · cases rest with
        | nil => cases rejected
        | cons nameLen name =>
            simp only [List.cons_append] at rejected ⊢
            split_ifs at rejected with empty short
            · rw [if_neg other, if_neg dirty, if_neg unsupported, if_neg ipv4, if_pos domain,
                if_pos empty]
              exact rejected
            · cases rejected
      · cases rejected
      · rw [if_neg other, if_neg dirty, if_neg unsupported, if_neg ipv4, if_neg domain,
          if_neg ipv6]
        exact rejected

theorem parseSocks5Greeting_final : Final parseSocks5Greeting :=
  parseSocks5Greeting_stable.final greeting_rejects

theorem parseSocks5Request_final : Final parseSocks5Request :=
  parseSocks5Request_stable.final request_rejects

end Verdicts

section Destinations

theorem port_fits {message : Bytes} {destination : Destination}
    (formed : RequestMessage message destination) : destination.port < 65536 := by
  have bound (high low : UInt8) : portOf high low < 65536 := by
    have := UInt8.toNat_lt high
    have := UInt8.toNat_lt low
    unfold portOf
    omega
  cases formed with
  | ipv4 address high low => exact bound high low
  | domain name high low => exact bound high low
  | ipv6 address high low => exact bound high low

/-- The server reads the destination out of the OPEN frame. -/
def Delivered (tunnelId : UInt16) (destination : Destination) : Prop :=
  ∃ decoded payload,
    deserialize (serialize (makeTunnelOpen tunnelId destination.host
      (UInt16.ofNat destination.port))) = .ok (.ok decoded) ∧
    asTunnelOpen decoded = .ok (some payload) ∧
    payload.host = destination.host ∧ payload.port.toNat = destination.port

theorem delivered_of_short {destination : Destination} (short : destination.host.length ≤ maxHostLen)
    (fits : destination.port < 65536) (tunnelId : UInt16) : Delivered tunnelId destination := by
  obtain ⟨decoded, read, _, recovered⟩ := frame_recovered
    (.tunnelOpen tunnelId destination.host (UInt16.ofNat destination.port)) [] short
  rw [List.append_nil] at read
  refine ⟨decoded, _, read, recovered, rfl, ?_⟩
  rw [UInt16.toNat_ofNat']
  exact Nat.mod_eq_of_lt fits

/-- `open` takes nothing on, or claims the tunnel for a host that the frame can carry. -/
theorem openCall_delivers {destination : Destination} (fits : destination.port < 65536)
    (tunnel : Tunnel) (tunnelId : UInt16) :
    execOpen tunnel (.openCall destination.host (UInt16.ofNat destination.port)) = (tunnel, []) ∨
      execOpen tunnel (.openCall destination.host (UInt16.ofNat destination.port)) =
        (tunnel, [.opening (.openClaim destination.host (UInt16.ofNat destination.port))]) ∧
      Delivered tunnelId destination := by
  by_cases refused : (tunnel.life.state != .none || decide (255 < destination.host.length)) = true
  · exact .inl (if_pos refused)
  · right
    have short : destination.host.length ≤ maxHostLen := by
      simp only [Bool.or_eq_true, decide_eq_true_eq, not_or] at refused
      exact not_lt.mp refused.2
    exact ⟨if_neg refused, delivered_of_short short fits tunnelId⟩

end Destinations

section Results

/-- The parsers accept the inputs that begin with a message of the grammar, with its length
and its fields; a verdict is final and a proper part of a message gets none; and a
destination they accept is refused by `open` or read unchanged by the server. -/
theorem socks5_exact :
    (∀ input methods consumed, parseSocks5Greeting input = .ok methods consumed ↔
      Begins GreetingMessage input methods consumed) ∧
    (∀ input destination consumed, parseSocks5Request input = .ok destination consumed ↔
      Begins RequestMessage input destination consumed) ∧
    Final parseSocks5Greeting ∧ Final parseSocks5Request ∧
    (∀ message methods part, GreetingMessage message methods → part <+: message →
      part ≠ message → parseSocks5Greeting part = .needMore) ∧
    (∀ message destination part, RequestMessage message destination → part <+: message →
      part ≠ message → parseSocks5Request part = .needMore) ∧
    ∀ input destination consumed, parseSocks5Request input = .ok destination consumed →
      ∀ (tunnel : Tunnel) (tunnelId : UInt16),
        let port := UInt16.ofNat destination.port
        execOpen tunnel (.openCall destination.host port) = (tunnel, []) ∨
          execOpen tunnel (.openCall destination.host port) =
            (tunnel, [.opening (.openClaim destination.host port)]) ∧
          Delivered tunnelId destination := by
  refine ⟨?_, ?_, parseSocks5Greeting_final, parseSocks5Request_final, ?_, ?_, ?_⟩
  · intro input methods consumed
    exact ⟨greeting_begins, begins_ok parseSocks5Greeting_stable greeting_accepted⟩
  · intro input destination consumed
    exact ⟨request_begins, begins_ok parseSocks5Request_stable request_accepted⟩
  · intro message methods part formed arrived proper
    exact parseSocks5Greeting_stable.needMore_of_part parseSocks5Greeting_final
      (greeting_accepted formed) arrived proper
  · intro message destination part formed arrived proper
    exact parseSocks5Request_stable.needMore_of_part parseSocks5Request_final
      (request_accepted formed) arrived proper
  · intro input destination consumed succeeds tunnel tunnelId
    obtain ⟨message, _, formed, _⟩ := request_begins succeeds
    exact openCall_delivers (port_fits formed) tunnel tunnelId

end Results

end ToxTunnel.Socks5Grammar
