import ToxTunnel.Socks5Handshake

/-!
A client's whole stream against the chunks in which the socket delivers it.
While a session waits, its state is a function of the bytes it has read, so
the cuts do not show. A rejection only posts the close: the session stays
hooked to the socket and parses whatever comes next as a new handshake, and
then the cuts do show.
-/

namespace ToxTunnel.HandshakeChunks
open StableParse TunnelState Socks5Handshake

/-- What a session did with its chunks: every reply byte, whether it asked for
a close, and what it handed over with the bytes that go to the new owner. -/
structure Transcript where
  replies : Bytes := []
  rejected : Bool := false
  handoff : Option (Destination × Bytes) := none
  deriving DecidableEq

/-- `handoff_to_tunnel` takes the buffer and clears `on_data`, so the chunks
not yet delivered go to the new owner too. -/
def transcript : Session → List Bytes → Transcript
  | _, [] => {}
  | session, chunk :: later =>
      let advance := session.onData chunk
      match advance.handoff with
      | some destination =>
          { replies := advance.replies.flatten
            rejected := advance.close
            handoff := some (destination, advance.session.buffer ++ later.flatten) }
      | none =>
          let rest := transcript advance.session later
          { rest with
            replies := advance.replies.flatten ++ rest.replies
            rejected := advance.close || rest.rejected }

def stillHooked : Session → List Bytes → Option Session
  | session, [] => some session
  | session, chunk :: later =>
      let advance := session.onData chunk
      match advance.handoff with
      | some _ => none
      | none => stillHooked advance.session later

/-- The bytes a parser runs over when the socket delivers `chunk`. -/
def interprets (session : Session) (chunk : Bytes) : Bytes :=
  let grown := Session.sniff { session with buffer := session.buffer ++ chunk }
  match grown.protocol, grown.phase with
  | .unknown, _ | .socks5, .streaming => []
  | _, _ => grown.buffer

/-- `async_read_some` delivers at least one byte. -/
def Splits (stream : Bytes) (chunks : List Bytes) : Prop := chunks.flatten = stream ∧ [] ∉ chunks

/-- The stream begins with a handshake for `destination`, and `payload` is the
rest of it. -/
inductive Opens : Bytes → Destination → Bytes → Prop where
  | socks5 (stream methods : Bytes) (greeting request : Nat) (destination : Destination) :
      parseSocks5Greeting stream = .ok methods greeting → kAuthNone ∈ methods →
      parseSocks5Request (stream.drop greeting) = .ok destination request →
      Opens stream destination ((stream.drop greeting).drop request)
  | http (stream : Bytes) (header : Nat) (destination : Destination) :
      stream.head? ≠ some kVersion → parseHttpConnect stream = .ok destination header →
      Opens stream destination (stream.drop header)

/-- One of the rejection exits is taken on these bytes. -/
def Refused (read : Bytes) : Prop :=
  if read.head? = some kVersion then
    match parseSocks5Greeting read with
    | .needMore => False
    | .malformed _ => True
    | .ok methods greeting =>
        kAuthNone ∉ methods ∨ ∃ reply, parseSocks5Request (read.drop greeting) = .malformed reply
  else parseHttpConnect read = .malformed ()

/-- Nothing the session does depends on the cuts, and a rejection is its last act. -/
structure CutFree (stream : Bytes) : Prop where
  same : ∀ first second, Splits stream first → Splits stream second →
    transcript {} first = transcript {} second
  payload : ∀ chunks, Splits stream chunks → ∀ destination payload,
    (transcript {} chunks).handoff = some (destination, payload) → Opens stream destination payload
  silent : ∀ earlier chunk later, Splits stream (earlier ++ chunk :: later) →
    (transcript {} earlier).rejected →
      transcript {} (earlier ++ chunk :: later) = transcript {} earlier ∧
      ∀ session, stillHooked {} earlier = some session → interprets session chunk = []

section Whole

def whole (read : Bytes) : Advance := ({} : Session).onData read

theorem whole_socks5 (rest : Bytes) : whole (kVersion :: rest) =
    advanceGreeting { protocol := .socks5, buffer := kVersion :: rest } := by
  rw [whole, Session.onData, tryAdvance]
  simp only [List.nil_append, sniff_socks5]

theorem whole_http {first : UInt8} (rest : Bytes) (other : first ≠ kVersion) :
    whole (first :: rest) = advanceHttp { protocol := .httpConnect, buffer := first :: rest } := by
  rw [whole, Session.onData, tryAdvance]
  simp only [List.nil_append, sniff_http rest other]

/-- The state of a waiting session, and nothing else, decides what it does next. -/
inductive Waiting (read : Bytes) : Advance → Prop where
  | nothing : read = [] → Waiting read { session := {} }
  | greeting : read.head? = some kVersion → parseSocks5Greeting read = .needMore →
      Waiting read { session := { protocol := .socks5, buffer := read } }
  | request (methods : Bytes) (greeting : Nat) : read.head? = some kVersion →
      parseSocks5Greeting read = .ok methods greeting → kAuthNone ∈ methods →
      parseSocks5Request (read.drop greeting) = .needMore →
      Waiting read
        { session := { protocol := .socks5, phase := .request, buffer := read.drop greeting }
          replies := [[kVersion, kAuthNone]] }
  | http : read ≠ [] → read.head? ≠ some kVersion → parseHttpConnect read = .needMore →
      Waiting read { session := { protocol := .httpConnect, buffer := read } }

inductive HandedOver (read : Bytes) : Destination → Advance → Prop where
  | socks5 (methods : Bytes) (greeting request : Nat) (destination : Destination) :
      read.head? = some kVersion → parseSocks5Greeting read = .ok methods greeting →
      kAuthNone ∈ methods → parseSocks5Request (read.drop greeting) = .ok destination request →
      HandedOver read destination
        { session :=
            { protocol := .socks5, phase := .streaming
              buffer := (read.drop greeting).drop request }
          replies := [[kVersion, kAuthNone]], handoff := some destination }
  | http (header : Nat) (destination : Destination) : read ≠ [] → read.head? ≠ some kVersion →
      parseHttpConnect read = .ok destination header →
      HandedOver read destination
        { session := { protocol := .httpConnect, buffer := read.drop header }
          handoff := some destination }

/-- A refused session: the socket stays hooked to a parser. -/
structure TurnedAway (advance : Advance) : Prop where
  closes : advance.close = true
  keeps : advance.handoff = none
  hooked : ∀ chunk ≠ [], interprets advance.session chunk ≠ []

theorem not_refused_nil : ¬ Refused [] := by
  change ¬ parseHttpConnect [] = .malformed ()
  decide

theorem whole_cases (read : Bytes) :
    (¬ Refused read ∧ Waiting read (whole read)) ∨
      (¬ Refused read ∧ ∃ destination, HandedOver read destination (whole read)) ∨
      (Refused read ∧ TurnedAway (whole read)) := by
  cases read with
  | nil => exact .inl ⟨not_refused_nil, .nothing rfl⟩
  | cons first rest =>
      by_cases socks : first = kVersion
      · subst socks
        have opens : (kVersion :: rest).head? = some kVersion := rfl
        rw [whole_socks5]
        simp only [Refused, if_pos opens, advanceGreeting]
        cases greets : parseSocks5Greeting (kVersion :: rest) with
        | needMore => exact .inl ⟨not_false, .greeting opens greets⟩
        | malformed fault =>
            refine .inr (.inr ⟨trivial, rfl, rfl, fun chunk some_bytes => ?_⟩)
            simp [interprets, Session.reject, Session.sniff]
        | ok methods greeting =>
            by_cases no_auth : kAuthNone ∈ methods
            · simp only [if_pos no_auth, advanceRequest, Session.drop]
              cases asks : parseSocks5Request ((kVersion :: rest).drop greeting) with
              | needMore =>
                  exact .inl ⟨by simp [no_auth], .request methods greeting opens greets no_auth asks⟩
              | malformed reply =>
                  refine .inr (.inr ⟨.inr ⟨reply, rfl⟩, rfl, rfl, fun chunk some_bytes => ?_⟩)
                  simp [interprets, Session.sniff, some_bytes]
              | ok destination request =>
                  exact .inr (.inl ⟨by simp [no_auth], destination,
                    .socks5 methods greeting request destination opens greets no_auth asks⟩)
            · simp only [if_neg no_auth]
              refine .inr (.inr ⟨.inl no_auth, rfl, rfl, fun chunk some_bytes => ?_⟩)
              simp [interprets, Session.drop, Session.sniff, some_bytes]
      · have other : (first :: rest).head? ≠ some kVersion := by simpa using socks
        rw [whole_http rest socks]
        simp only [Refused, if_neg other, advanceHttp]
        cases asks : parseHttpConnect (first :: rest) with
        | needMore => exact .inl ⟨by simp, .http (List.cons_ne_nil _ _) other asks⟩
        | malformed fault =>
            refine .inr (.inr ⟨rfl, rfl, rfl, fun chunk some_bytes => ?_⟩)
            simp [interprets, Session.reject, Session.sniff]
        | ok destination header =>
            exact .inr (.inl ⟨by simp, destination,
              .http header destination (List.cons_ne_nil _ _) other asks⟩)

theorem head_append {read more : Bytes} (some_bytes : read ≠ []) :
    (read ++ more).head? = read.head? := by
  cases read with
  | nil => exact absurd rfl some_bytes
  | cons first rest => rfl

theorem whole_of_head {read : Bytes} (opens : read.head? = some kVersion) :
    whole read = advanceGreeting { protocol := .socks5, buffer := read } := by
  cases read with
  | nil => cases opens
  | cons first rest =>
      cases opens
      exact whole_socks5 rest

theorem whole_of_other {read : Bytes} (some_bytes : read ≠ [])
    (other : read.head? ≠ some kVersion) :
    whole read = advanceHttp { protocol := .httpConnect, buffer := read } := by
  cases read with
  | nil => exact absurd rfl some_bytes
  | cons first rest => exact whole_http rest (by simpa using other)

theorem ne_nil_of_head {read : Bytes} (opens : read.head? = some kVersion) : read ≠ [] := by
  rintro rfl
  cases opens

/-- What a waiting session does with the next chunk is what one chunk of
everything does, less the replies already sent. -/
theorem whole_append {read : Bytes} (waiting : Waiting read (whole read)) (chunk : Bytes) :
    whole (read ++ chunk) =
      { (whole read).session.onData chunk with
        replies := (whole read).replies ++ ((whole read).session.onData chunk).replies } := by
  generalize stopped : whole read = advance at waiting ⊢
  cases waiting with
  | nothing empty =>
      subst empty
      rfl
  | greeting opens short =>
      rw [whole_of_head ((head_append (ne_nil_of_head opens)).trans opens)]
      rfl
  | request methods greeting opens greets no_auth short =>
      obtain ⟨within, later⟩ := parseSocks5Greeting_stable read methods greeting greets
      rw [whole_of_head ((head_append (ne_nil_of_head opens)).trans opens)]
      simp only [advanceGreeting, later chunk, if_pos no_auth, Session.drop,
        List.drop_append_of_le_length within]
      rfl
  | http some_bytes other short =>
      rw [whole_of_other (by simp [some_bytes]) (by rwa [head_append some_bytes])]
      rfl

theorem whole_handed_append {read : Bytes} {destination : Destination}
    (handed : HandedOver read destination (whole read)) (more : Bytes) :
    whole (read ++ more) =
      { whole read with
        session := { (whole read).session with buffer := (whole read).session.buffer ++ more } } := by
  generalize stopped : whole read = advance at handed ⊢
  cases handed with
  | socks5 methods greeting request destination opens greets no_auth asks =>
      obtain ⟨within, later⟩ := parseSocks5Greeting_stable read methods greeting greets
      obtain ⟨inside, still⟩ := parseSocks5Request_stable _ destination request asks
      rw [whole_of_head ((head_append (ne_nil_of_head opens)).trans opens)]
      simp only [advanceGreeting, later more, if_pos no_auth, Session.drop,
        List.drop_append_of_le_length within, advanceRequest, still more,
        List.drop_append_of_le_length inside]
  | http header destination some_bytes other asks =>
      obtain ⟨within, later⟩ := parseHttpConnect_stable read destination header asks
      rw [whole_of_other (by simp [some_bytes]) (by rwa [head_append some_bytes])]
      simp only [advanceHttp, later more, Session.drop, List.drop_append_of_le_length within]

end Whole

section Cuts

/-- The transcript of a stream that arrives in one chunk. -/
def outcome (stream : Bytes) : Transcript :=
  { replies := (whole stream).replies.flatten
    rejected := (whole stream).close
    handoff := (whole stream).handoff.map fun destination =>
      (destination, (whole stream).session.buffer) }

/-- No proper beginning of the stream takes a rejection exit. -/
def RefusedOnlyWhole (stream : Bytes) : Prop :=
  ∀ read rest, stream = read ++ rest → rest ≠ [] → ¬ Refused read

theorem RefusedOnlyWhole.of_append {read more : Bytes} (last : RefusedOnlyWhole (read ++ more)) :
    RefusedOnlyWhole read := by
  rintro early rest rfl some_bytes
  apply last early (rest ++ more) (List.append_assoc ..)
  simp [some_bytes]

theorem Waiting.quiet {read : Bytes} {advance : Advance} (waiting : Waiting read advance) :
    advance.close = false ∧ advance.handoff = none := by
  cases waiting <;> exact ⟨rfl, rfl⟩

theorem HandedOver.gives {read : Bytes} {destination : Destination} {advance : Advance}
    (handed : HandedOver read destination advance) :
    advance.close = false ∧ advance.handoff = some destination := by
  cases handed <;> exact ⟨rfl, rfl⟩

theorem HandedOver.opens {read : Bytes} {destination : Destination} {advance : Advance}
    (handed : HandedOver read destination advance) :
    Opens read destination advance.session.buffer := by
  cases handed with
  | socks5 methods greeting request destination opens greets no_auth asks =>
      exact .socks5 read methods greeting request destination greets no_auth asks
  | http header destination some_bytes other asks => exact .http read header destination other asks

/-- Induction on the chunks still to come; `read` is what came before. -/
theorem transcript_waiting {read : Bytes} {chunks : List Bytes}
    (waiting : Waiting read (whole read)) (some_bytes : [] ∉ chunks)
    (last : RefusedOnlyWhole (read ++ chunks.flatten)) :
    { transcript (whole read).session chunks with
      replies := (whole read).replies.flatten ++
        (transcript (whole read).session chunks).replies } =
      outcome (read ++ chunks.flatten) := by
  induction chunks generalizing read with
  | nil =>
      obtain ⟨open_still, kept⟩ := waiting.quiet
      simp [transcript, outcome, open_still, kept]
  | cons chunk later ih =>
      obtain ⟨chunk_ne, later_ne⟩ : [] ≠ chunk ∧ [] ∉ later := by simpa using some_bytes
      have resumed := whole_append waiting chunk
      rw [List.flatten_cons, ← List.append_assoc] at last ⊢
      rcases whole_cases (read ++ chunk) with
        ⟨-, still⟩ | ⟨-, destination, handed⟩ | ⟨refused, turned⟩
      · have rest := ih still later_ne last
        obtain ⟨open_still, kept⟩ := still.quiet
        rw [← rest]
        rw [resumed] at open_still kept ⊢
        simp only at open_still kept ⊢
        simp only [transcript, kept, open_still, Bool.false_or, List.flatten_append,
          List.append_assoc]
      · obtain ⟨open_still, given⟩ := handed.gives
        rw [outcome, whole_handed_append handed later.flatten]
        rw [resumed] at open_still given ⊢
        simp only at open_still given ⊢
        simp only [transcript, given, open_still, List.flatten_append, Option.map_some]
      · -- The rejection exit is the end of the stream, so nothing is left to deliver.
        have nothing : later = [] := by
          by_contra more
          refine last (read ++ chunk) later.flatten rfl ?_ refused
          intro empty
          cases later with
          | nil => exact more rfl
          | cons next others =>
              rw [List.flatten_cons, List.append_eq_nil_iff] at empty
              exact later_ne (by simp [empty.1])
        subst nothing
        obtain ⟨closes, keeps, -⟩ := turned
        rw [List.flatten_nil, List.append_nil, outcome]
        rw [resumed] at closes keeps ⊢
        simp only at closes keeps ⊢
        simp [transcript, keeps, closes, List.flatten_append]

theorem transcript_eq_outcome {stream : Bytes} {chunks : List Bytes}
    (splits : Splits stream chunks) (last : RefusedOnlyWhole stream) :
    transcript {} chunks = outcome stream := by
  obtain ⟨rfl, some_bytes⟩ := splits
  exact @transcript_waiting [] chunks (.nothing rfl) some_bytes last

theorem outcome_opens {stream payload : Bytes} {destination : Destination}
    (given : (outcome stream).handoff = some (destination, payload)) :
    Opens stream destination payload := by
  rcases whole_cases stream with ⟨-, waiting⟩ | ⟨-, found, handed⟩ | ⟨-, turned⟩
  · simp [outcome, waiting.quiet.2] at given
  · simp only [outcome, handed.gives.2, Option.map_some, Option.some.injEq, Prod.mk.injEq] at given
    obtain ⟨rfl, rfl⟩ := given
    exact handed.opens
  · simp [outcome, turned.keeps] at given

theorem refused_of_outcome {stream : Bytes} (rejected : (outcome stream).rejected) :
    Refused stream := by
  rcases whole_cases stream with ⟨-, waiting⟩ | ⟨-, found, handed⟩ | ⟨refused, -⟩
  · simp [outcome, waiting.quiet.1] at rejected
  · simp [outcome, handed.gives.1] at rejected
  · exact refused

/-- The whole contract holds of exactly the streams that do not run on behind
a rejection exit. -/
theorem cutFree_iff (stream : Bytes) : CutFree stream ↔ RefusedOnlyWhole stream := by
  constructor
  · rintro contract read rest rfl some_bytes refused
    have read_ne : read ≠ [] := by
      rintro rfl
      exact not_refused_nil refused
    rcases whole_cases read with ⟨not_refused, -⟩ | ⟨not_refused, -⟩ | ⟨-, turned⟩
    · exact not_refused refused
    · exact not_refused refused
    · have splits : Splits (read ++ rest) ([read] ++ rest :: []) :=
        ⟨by simp, by simp [read_ne.symm, some_bytes.symm]⟩
      obtain ⟨closes, keeps, hooked⟩ := turned
      have silent := contract.silent [read] rest [] splits
      have same : ({} : Session).onData read = whole read := rfl
      simp only [transcript, stillHooked, same, closes, keeps, Bool.true_or, Option.some.injEq,
        forall_eq'] at silent
      exact hooked rest some_bytes (silent trivial).2
  · intro last
    constructor
    · intro first second cut again
      rw [transcript_eq_outcome cut last, transcript_eq_outcome again last]
    · intro chunks cut destination payload given
      rw [transcript_eq_outcome cut last] at given
      exact outcome_opens given
    · rintro earlier chunk later ⟨rfl, some_bytes⟩ rejected
      simp only [List.mem_append, List.mem_cons, not_or] at some_bytes
      obtain ⟨earlier_ne, chunk_ne, -⟩ := some_bytes
      rw [List.flatten_append] at last
      rw [transcript_eq_outcome ⟨rfl, earlier_ne⟩ last.of_append] at rejected
      have refused := refused_of_outcome rejected
      exact absurd refused (last _ _ rfl (by simp [Ne.symm chunk_ne]))

/-- A greeting without "no authentication", and a second handshake behind it. -/
def secondGreeting : Bytes := [5, 1, 2, 5, 1, 0, 5, 1, 0, 1, 127, 0, 0, 1, 0, 80]

/-- In one chunk it is rejected; cut behind the first greeting, it is rejected
and then handed over. -/
theorem secondGreeting_not_cutFree : ¬ CutFree secondGreeting := by
  intro contract
  have same := contract.same [secondGreeting] [secondGreeting.take 3, secondGreeting.drop 3]
    ⟨by decide, by decide⟩ ⟨by decide, by decide⟩
  have handed := congrArg (fun record => record.handoff.isSome) same
  revert handed
  decide

end Cuts

end ToxTunnel.HandshakeChunks
