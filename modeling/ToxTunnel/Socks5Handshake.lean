import Mathlib.Data.List.GetD
import ToxTunnel.StableParse
import ToxTunnel.TunnelState

/-!
The SOCKS5 and HTTP CONNECT handshakes of `socks5_listener.cpp`: the three
parsers, and the session that calls them again each time the socket delivers
bytes. All three parsers are stable, so a valid handshake is consumed exactly,
however the socket cuts it, and what is left in the buffer is payload.
-/

namespace ToxTunnel.Socks5Handshake
open StableParse TunnelState

section Parsers

def kVersion : UInt8 := 0x05
def kAuthNone : UInt8 := 0x00
def kAuthNoAcceptable : UInt8 := 0xFF
def kCmdConnect : UInt8 := 0x01
def kAtypIPv4 : UInt8 := 0x01
def kAtypDomain : UInt8 := 0x03
def kAtypIPv6 : UInt8 := 0x04
def kReplySuccess : UInt8 := 0x00
def kReplyGeneralFailure : UInt8 := 0x01
def kReplyConnNotAllowed : UInt8 := 0x02
def kReplyHostUnreachable : UInt8 := 0x04
def kReplyConnRefused : UInt8 := 0x05
def kReplyCmdNotSupported : UInt8 := 0x07
def kReplyAtypNotSupported : UInt8 := 0x08

def ascii (text : String) : Bytes := text.toList.map fun char => UInt8.ofNat char.toNat

/-- Host and port of a request. -/
structure Destination where
  host : Bytes
  port : Nat
  deriving DecidableEq

/-- The value of an accepted greeting is the list of methods it offers. -/
def parseSocks5Greeting : Bytes → Outcome Unit Bytes
  | version :: nmethods :: rest =>
      if version ≠ kVersion then .malformed ()
      else if nmethods = 0 then .malformed ()
      else if rest.length < nmethods.toNat then .needMore
      else .ok (rest.take nmethods.toNat) (2 + nmethods.toNat)
  | _ => .needMore

def digits (base number : Nat) : Bytes :=
  (Nat.toDigits base number).map fun char => UInt8.ofNat char.toNat

def dottedHost (address : Bytes) : Bytes :=
  (address.map fun byte => digits 10 byte.toNat).intersperse (ascii ".") |>.flatten

def hexGroups : Bytes → List Bytes
  | high :: low :: rest => digits 16 (256 * high.toNat + low.toNat) :: hexGroups rest
  | _ => []

def groupedHost (address : Bytes) : Bytes := ((hexGroups address).intersperse (ascii ":")).flatten

def portAt (data : Bytes) (offset : Nat) : Nat :=
  256 * (data.getD offset 0).toNat + (data.getD (offset + 1) 0).toNat

/-- The end of `parse_socks5_request`, with offsets counted behind the four
leading bytes. -/
def finishRequest (rest : Bytes) (host : Bytes) (portOffset : Nat) : Outcome UInt8 Destination :=
  .ok { host := host, port := portAt rest portOffset } (4 + portOffset + 2)

/-- The fault is the reply code to send. -/
def parseSocks5Request : Bytes → Outcome UInt8 Destination
  | version :: cmd :: reserved :: atyp :: rest =>
      if version ≠ kVersion then .malformed kReplyGeneralFailure
      else if reserved ≠ 0 then .malformed kReplyGeneralFailure
      else if cmd ≠ kCmdConnect then .malformed kReplyCmdNotSupported
      else if atyp = kAtypIPv4 then
        if rest.length < 4 + 2 then .needMore
        else finishRequest rest (dottedHost (rest.take 4)) 4
      else if atyp = kAtypDomain then
        match rest with
        | [] => .needMore
        | nameLen :: name =>
            if nameLen = 0 then .malformed kReplyGeneralFailure
            else if name.length < nameLen.toNat + 2 then .needMore
            else finishRequest (nameLen :: name) (name.take nameLen.toNat) (1 + nameLen.toNat)
      else if atyp = kAtypIPv6 then
        if rest.length < 16 + 2 then .needMore
        else finishRequest rest (groupedHost (rest.take 16)) 16
      else .malformed kReplyAtypNotSupported
  | _ => .needMore

def encodeSocks5Reply (replyCode : UInt8) : Bytes :=
  [kVersion, replyCode, 0x00, kAtypIPv4, 0x00, 0x00, 0x00, 0x00, 0x00, 0x00]

def isDigit (byte : UInt8) : Bool := 48 ≤ byte && byte ≤ 57

def decimalValue (text : Bytes) : Nat := text.foldl (fun value byte => 10 * value + (byte.toNat - 48)) 0

/-- `from_chars` over the whole text, and the range check behind it. -/
def parsePort (text : Bytes) : Option Nat :=
  if text = [] then none
  else if !text.all isDigit then none
  else
    let parsed := decimalValue text
    if parsed = 0 ∨ 65535 < parsed then none else some parsed

/-- `rfind` of one character. -/
def findLast (byte : UInt8) (text : Bytes) : Option Nat :=
  (find [byte] text.reverse).map fun back => text.length - 1 - back

/-- The CONNECT target: `[host]:port` or `host:port`. -/
def parseAuthority (authority : Bytes) : Option Destination :=
  if authority.head? = some 91 then
    match find (ascii "]") authority with
    | none => none
    | some closeBracket =>
        if authority[closeBracket + 1]? ≠ some 58 then none
        else (parsePort (authority.drop (closeBracket + 2))).map fun port =>
          { host := (authority.drop 1).take (closeBracket - 1), port := port }
  else
    match findLast 58 authority with
    | none => none
    | some colon =>
        if colon = 0 ∨ authority.length ≤ colon + 1 then none
        else (parsePort (authority.drop (colon + 1))).map fun port =>
          { host := authority.take colon, port := port }

def parseRequestLine (requestLine : Bytes) : Option Destination :=
  if ¬ ascii "CONNECT " <+: requestLine then none
  else
    let target := requestLine.drop 8
    match find (ascii " ") target with
    | none => none
    | some space =>
        if ¬ ascii "HTTP/" <+: target.drop (space + 1) then none
        else parseAuthority (target.take space)

def headerCap : Nat := 8192

def parseHttpConnect (data : Bytes) : Outcome Unit Destination :=
  match find (ascii "\r\n\r\n") data with
  | none => if headerCap < data.length then .malformed () else .needMore
  | some headerEnd =>
      let headers := data.take headerEnd
      let requestLine := headers.take ((find (ascii "\r\n") headers).getD headers.length)
      match parseRequestLine requestLine with
      | none => .malformed ()
      | some destination => .ok destination (headerEnd + 4)

theorem parseSocks5Greeting_stable : Stable parseSocks5Greeting := by
  intro input methods consumed succeeds
  match input with
  | [] | [_] => cases succeeds
  | version :: nmethods :: rest =>
      simp only [parseSocks5Greeting] at succeeds
      split_ifs at succeeds with other empty short
      cases succeeds
      have enough : nmethods.toNat ≤ rest.length := not_lt.mp short
      refine ⟨by simp only [List.length_cons]; omega, fun more => ?_⟩
      have still : ¬ (rest ++ more).length < nmethods.toNat := by
        rw [List.length_append]
        omega
      simp only [List.cons_append, parseSocks5Greeting, if_neg other, if_neg empty, if_neg still,
        List.take_append_of_le_length enough]

theorem portAt_append {data : Bytes} {offset : Nat} (more : Bytes)
    (inside : offset + 1 < data.length) : portAt (data ++ more) offset = portAt data offset := by
  rw [portAt, portAt, List.getD_append _ _ _ _ (by omega), List.getD_append _ _ _ _ inside]

theorem finishRequest_append {rest : Bytes} {portOffset : Nat} (host more : Bytes)
    (inside : portOffset + 2 ≤ rest.length) :
    finishRequest (rest ++ more) host portOffset = finishRequest rest host portOffset := by
  rw [finishRequest, finishRequest, portAt_append more (by omega)]

/-- What the address branches share: `needed` bytes behind the header are there. -/
theorem finishRequest_spec {rest host : Bytes} {portOffset consumed : Nat} {destination : Destination}
    (enough : portOffset + 2 ≤ rest.length)
    (succeeds : finishRequest rest host portOffset = .ok destination consumed) :
    consumed ≤ rest.length + 4 ∧
      ∀ more, finishRequest (rest ++ more) host portOffset = .ok destination consumed := by
  refine ⟨?_, fun more => (finishRequest_append host more enough).trans succeeds⟩
  cases succeeds
  omega

theorem parseSocks5Request_stable : Stable parseSocks5Request := by
  intro input destination consumed succeeds
  match input with
  | [] | [_] | [_, _] | [_, _, _] => cases succeeds
  | version :: cmd :: reserved :: atyp :: rest =>
      simp only [parseSocks5Request] at succeeds
      simp only [List.cons_append, List.length_cons, parseSocks5Request, List.length_append]
      split_ifs at succeeds with other dirty unsupported ipv4 short domain ipv6 short
      · obtain ⟨within, same⟩ := finishRequest_spec (not_lt.mp short) succeeds
        refine ⟨within, fun more => ?_⟩
        rw [if_neg other, if_neg dirty, if_neg unsupported, if_pos ipv4, if_neg (by omega),
          List.take_append_of_le_length (by omega)]
        exact same more
      · cases rest with
        | nil => cases succeeds
        | cons nameLen name =>
            simp only at succeeds
            split_ifs at succeeds with empty short
            have enough : 1 + nameLen.toNat + 2 ≤ (nameLen :: name).length := by
              rw [List.length_cons]
              omega
            obtain ⟨within, same⟩ := finishRequest_spec enough succeeds
            refine ⟨within, fun more => ?_⟩
            rw [if_neg other, if_neg dirty, if_neg unsupported, if_neg ipv4, if_pos domain]
            simp only [List.cons_append, List.length_append]
            rw [if_neg empty, if_neg (by omega), List.take_append_of_le_length (by omega)]
            exact same more
      · obtain ⟨within, same⟩ := finishRequest_spec (not_lt.mp short) succeeds
        refine ⟨within, fun more => ?_⟩
        rw [if_neg other, if_neg dirty, if_neg unsupported, if_neg ipv4, if_neg domain,
          if_pos ipv6, if_neg (by omega), List.take_append_of_le_length (by omega)]
        exact same more

theorem parseHttpConnect_stable : Stable parseHttpConnect := by
  intro input destination consumed succeeds
  simp only [parseHttpConnect] at succeeds
  cases found : find (ascii "\r\n\r\n") input with
  | none =>
      simp only [found] at succeeds
      split_ifs at succeeds
  | some headerEnd =>
      have bound : headerEnd + 4 ≤ input.length := find_bound found
      simp only [found] at succeeds
      split at succeeds
      · cases succeeds
      next line =>
        cases succeeds
        refine ⟨bound, fun more => ?_⟩
        simp only [parseHttpConnect, find_append more found]
        rw [List.take_append_of_le_length (by omega), line]

end Parsers

section Session

inductive Protocol where
  | unknown | socks5 | httpConnect
  deriving DecidableEq

inductive Socks5Phase where
  | greeting | request | streaming
  deriving DecidableEq

structure Session where
  protocol : Protocol := .unknown
  phase : Socks5Phase := .greeting
  buffer : Bytes := []
  deriving DecidableEq

/-- What one call of `try_advance` did: the replies it wrote, whether it closed
the connection, and the destination if it handed the connection over. -/
structure Advance where
  session : Session
  replies : List Bytes := []
  close : Bool := false
  handoff : Option Destination := none
  deriving DecidableEq

def httpReply (statusLine : Bytes) : Bytes := ascii "HTTP/1.1 " ++ statusLine ++ ascii "\r\n\r\n"

/-- `reject_and_close`. -/
def Session.reject (session : Session) (socks5Reply : UInt8) (statusLine : Bytes) : Advance :=
  let replies := match session.protocol with
    | .socks5 => [encodeSocks5Reply socks5Reply]
    | .httpConnect => [httpReply statusLine]
    | .unknown => []
  { session := session, replies := replies, close := true }

def Session.drop (session : Session) (consumed : Nat) : Session :=
  { session with buffer := session.buffer.drop consumed }

def Session.sniff (session : Session) : Session :=
  match session.protocol, session.buffer with
  | .unknown, first :: _ =>
      { session with protocol := if first = kVersion then .socks5 else .httpConnect }
  | _, _ => session

def advanceRequest (session : Session) : Advance :=
  match parseSocks5Request session.buffer with
  | .needMore => { session := session }
  | .malformed replyCode =>
      { session := session, replies := [encodeSocks5Reply replyCode], close := true }
  | .ok destination consumed =>
      { session := { session.drop consumed with phase := .streaming }, handoff := some destination }

def advanceGreeting (session : Session) : Advance :=
  match parseSocks5Greeting session.buffer with
  | .needMore => { session := session }
  | .malformed _ => session.reject kReplyGeneralFailure (ascii "400 Bad Request")
  | .ok methods consumed =>
      let rest := session.drop consumed
      if kAuthNone ∈ methods then
        -- The only round of the loop that continues: the request may be in the buffer already.
        let next := advanceRequest { rest with phase := .request }
        { next with replies := [kVersion, kAuthNone] :: next.replies }
      else { session := rest, replies := [[kVersion, kAuthNoAcceptable]], close := true }

def advanceHttp (session : Session) : Advance :=
  match parseHttpConnect session.buffer with
  | .needMore => { session := session }
  | .malformed _ => session.reject kReplyGeneralFailure (ascii "400 Bad Request")
  | .ok destination consumed => { session := session.drop consumed, handoff := some destination }

def tryAdvance (unsniffed : Session) : Advance :=
  let session := unsniffed.sniff
  match session.protocol with
  | .unknown => { session := session }
  | .socks5 =>
      match session.phase with
      | .greeting => advanceGreeting session
      | .request => advanceRequest session
      | .streaming => { session := session }
  | .httpConnect => advanceHttp session

/-- The session's `on_data` callback. -/
def Session.onData (session : Session) (chunk : Bytes) : Advance :=
  tryAdvance { session with buffer := session.buffer ++ chunk }

/-- A client's handshake: a greeting that offers no authentication and a CONNECT
request, or an HTTP CONNECT header. -/
inductive ValidHandshake : Bytes → Prop where
  | socks5 (greeting request methods : Bytes) (destination : Destination) :
      Accepts parseSocks5Greeting greeting methods → kAuthNone ∈ methods →
      Accepts parseSocks5Request request destination → ValidHandshake (greeting ++ request)
  | http (header : Bytes) (destination : Destination) :
      header.head? ≠ some kVersion → Accepts parseHttpConnect header destination →
      ValidHandshake header

/-- The session has seen `read`, a part of a stream that begins with
`handshake`, and still waits. -/
inductive Waits : Bytes → Session → Bytes → Prop where
  | fresh (handshake : Bytes) : Waits handshake {} []
  | greeting (greeting request methods : Bytes) (destination : Destination) (read : Bytes) :
      Accepts parseSocks5Greeting greeting methods → kAuthNone ∈ methods →
      Accepts parseSocks5Request request destination →
      Waits (greeting ++ request) { protocol := .socks5, buffer := read } read
  | request (greeting request : Bytes) (destination : Destination) (buffer : Bytes) :
      Accepts parseSocks5Request request destination →
      Waits (greeting ++ request) { protocol := .socks5, phase := .request, buffer := buffer }
        (greeting ++ buffer)
  | http (header : Bytes) (destination : Destination) (read : Bytes) :
      Accepts parseHttpConnect header destination →
      Waits header { protocol := .httpConnect, buffer := read } read

/-- What a delivery of bytes may do: keep the session waiting, or hand over
with just the payload left in the buffer. -/
def Advance.Fits (handshake read : Bytes) (advance : Advance) : Prop :=
  match advance.handoff with
  | none => Waits handshake advance.session read
  | some _ => handshake ++ advance.session.buffer = read

theorem advanceRequest_fits {greeting request buffer payload : Bytes} {destination : Destination}
    (accepts : Accepts parseSocks5Request request destination)
    (arrived : buffer <+: request ++ payload) :
    (advanceRequest { protocol := .socks5, phase := .request, buffer := buffer }).Fits
      (greeting ++ request) (greeting ++ buffer) := by
  simp only [advanceRequest]
  split
  · exact .request greeting request destination buffer accepts
  · exact .request greeting request destination buffer accepts
  next found consumed succeeds =>
    obtain ⟨tail, rfl, rfl, -⟩ :=
      parseSocks5Request_stable.ok_on_stream accepts arrived succeeds
    simp [Advance.Fits, Session.drop]

theorem advanceGreeting_fits {greeting request methods read payload : Bytes}
    {destination : Destination} (greets : Accepts parseSocks5Greeting greeting methods)
    (no_auth : kAuthNone ∈ methods) (accepts : Accepts parseSocks5Request request destination)
    (arrived : read <+: greeting ++ request ++ payload) :
    (advanceGreeting { protocol := .socks5, buffer := read }).Fits (greeting ++ request) read := by
  simp only [advanceGreeting]
  split
  · exact .greeting greeting request methods destination read greets no_auth accepts
  · exact .greeting greeting request methods destination read greets no_auth accepts
  next found consumed succeeds =>
    rw [List.append_assoc] at arrived
    obtain ⟨tail, rfl, rfl, rfl⟩ :=
      parseSocks5Greeting_stable.ok_on_stream greets arrived succeeds
    rw [if_pos no_auth]
    simp only [Session.drop, List.drop_left]
    exact advanceRequest_fits accepts ((List.prefix_append_right_inj greeting).mp arrived)

theorem advanceHttp_fits {header read payload : Bytes} {destination : Destination}
    (accepts : Accepts parseHttpConnect header destination) (arrived : read <+: header ++ payload) :
    (advanceHttp { protocol := .httpConnect, buffer := read }).Fits header read := by
  simp only [advanceHttp]
  split
  · exact .http header destination read accepts
  · exact .http header destination read accepts
  next found consumed succeeds =>
    obtain ⟨tail, rfl, rfl, -⟩ := parseHttpConnect_stable.ok_on_stream accepts arrived succeeds
    simp [Advance.Fits, Session.drop]

theorem head_arrived {message payload rest : Bytes} {first : UInt8} (some_bytes : message ≠ [])
    (arrived : first :: rest <+: message ++ payload) : message.head? = some first := by
  cases message with
  | nil => exact absurd rfl some_bytes
  | cons byte later =>
      rw [List.cons_append, List.cons_prefix_cons] at arrived
      rw [arrived.1, List.head?_cons]

theorem sniff_socks5 (rest : Bytes) :
    Session.sniff { buffer := kVersion :: rest } =
      { protocol := .socks5, buffer := kVersion :: rest } := by
  simp [Session.sniff]

theorem sniff_http {first : UInt8} (rest : Bytes) (other : first ≠ kVersion) :
    Session.sniff { buffer := first :: rest } =
      { protocol := .httpConnect, buffer := first :: rest } := by
  simp [Session.sniff, other]

theorem greeting_head {greeting methods : Bytes}
    (greets : Accepts parseSocks5Greeting greeting methods) :
    greeting.head? = some kVersion := by
  match greeting with
  | [] | [_] => cases greets
  | version :: nmethods :: rest =>
      simp only [Accepts, parseSocks5Greeting] at greets
      split_ifs at greets with other
      simpa using other

theorem header_ne_nil {header : Bytes} {destination : Destination}
    (accepts : Accepts parseHttpConnect header destination) : header ≠ [] := by
  rintro rfl
  cases accepts

/-- However the socket cuts a valid handshake, the session consumes just it. -/
theorem onData_fits {handshake payload read chunk : Bytes} {session : Session}
    (valid : ValidHandshake handshake) (waits : Waits handshake session read)
    (arrived : read ++ chunk <+: handshake ++ payload) :
    (session.onData chunk).Fits handshake (read ++ chunk) := by
  cases waits with
  | fresh =>
      cases chunk with
      | nil => exact .fresh handshake
      | cons first rest =>
          simp only [Session.onData, List.nil_append] at arrived ⊢
          cases valid with
          | socks5 greeting request methods destination greets no_auth accepts =>
              have opens := greeting_head greets
              have some_bytes : greeting ≠ [] := by
                rintro rfl
                cases opens
              have starts := arrived
              rw [List.append_assoc] at starts
              rw [head_arrived some_bytes starts, Option.some.injEq] at opens
              subst opens
              rw [tryAdvance, sniff_socks5]
              exact advanceGreeting_fits greets no_auth accepts arrived
          | http header destination other accepts =>
              rw [head_arrived (header_ne_nil accepts) arrived, ne_eq, Option.some.injEq] at other
              rw [tryAdvance, sniff_http rest other]
              exact advanceHttp_fits accepts arrived
  | greeting greeting request methods destination _ greets no_auth accepts =>
      exact advanceGreeting_fits greets no_auth accepts arrived
  | request greeting request destination buffer accepts =>
      rw [List.append_assoc] at arrived ⊢
      rw [List.append_assoc, List.prefix_append_right_inj] at arrived
      exact advanceRequest_fits accepts arrived
  | http _ destination _ accepts => exact advanceHttp_fits accepts arrived

end Session

end ToxTunnel.Socks5Handshake
