import ToxTunnel.StateEdges

/-!
The course of the OPEN handshake of a tunnel that is opened once. At most one
attempt is under way, and it is under way exactly while the phase is Sending;
an attempt that failed for good is the last one; and an OPEN answered Sent is
recorded as Sent, or its verdict is still to come.
-/

namespace ToxTunnel.OpenCourse
open Interleaving TunnelState TunnelSteps EmissionDriver StateEdges

section Handshake

def openSent : Obs → Bool
  | .answered (.tunnelOpen _ _) .sent => true
  | _ => false

structure Handshake where
  state : State
  phase : OpenPhase
  abandonRequested : Bool
  closeOwed : Bool
  attempts : Nat
  opened : Bool

def handshake (tunnel : Tunnel) : Handshake where
  state := tunnel.life.state
  phase := tunnel.opening.phase
  abandonRequested := tunnel.opening.abandonRequested
  closeOwed := tunnel.opening.closeOwed
  attempts := tunnel.opening.attempts
  opened := tunnel.log.any openSent

/-- The OPEN attempt under way, from its target read to its verdict. -/
def flying : Act → Nat
  | .opening (.readTarget _ _) | .send (.outboundSnapshot (.tunnelOpen _ _ _ _))
  | .send (.handToTransport (.tunnelOpen _ _ _ _)) | .send (.transportAnswer (.tunnelOpen _ _ _ _))
  | .opening (.openVerdict _ _ _) => 1
  | _ => 0

/-- The attempt has been counted. -/
def counted : Act → Bool
  | .send (.outboundSnapshot (.tunnelOpen _ _ _ _)) | .send (.handToTransport (.tunnelOpen _ _ _ _))
  | .send (.transportAnswer (.tunnelOpen _ _ _ _)) | .opening (.openVerdict _ _ _) => true
  | _ => false

def sentVerdict : Act → Bool
  | .opening (.openVerdict _ _ .sent) => true
  | _ => false

/-- The edges a permanently failed OPEN takes. -/
def failing : Act → Bool
  | .word (.transitionStateIf _ _ .openRolledBack) | .word (.transitionStateIf _ _ .openFailed) => true
  | _ => false

def resetting : Act → Bool
  | .opening .clearTarget | .opening .resetOpenPhase => true
  | _ => false

/-- The failed OPEN being resolved: its edge, then the reset of the phase. -/
def resolving : Act → Nat
  | .word (.transitionStateIf _ _ .openRolledBack) | .word (.transitionStateIf _ _ .openFailed)
  | .opening .resetOpenPhase => 1
  | _ => 0

def stopping : Act → Bool
  | .close .closeDuringHandshake => true
  | _ => false

def closingEdge : Act → Bool
  | .word (.transitionStateIf _ _ .closedInHandshake) => true
  | _ => false

def steers : Act → Bool
  | .opening (.readTarget _ _) | .send (.outboundSnapshot (.tunnelOpen _ _ _ _))
  | .send (.handToTransport (.tunnelOpen _ _ _ _)) | .send (.transportAnswer (.tunnelOpen _ _ _ _))
  | .opening (.openVerdict _ _ _) | .word (.transitionStateIf _ _ .openRolledBack)
  | .word (.transitionStateIf _ _ .openFailed) | .word (.transitionStateIf _ _ .closedInHandshake)
  | .opening .clearTarget | .opening .resetOpenPhase | .close .closeDuringHandshake => true
  | _ => false

/-- Actions that move the handshake or start one that does. -/
def courses : Act → Bool
  | .word (.transitionState _) | .word (.transitionStateIf _ _ _) | .word .landError
  | .opening (.openClaim _ _) | .opening (.attemptOpenSend _ _) | .opening (.readTarget _ _)
  | .opening (.openVerdict _ _ _) | .opening .clearTarget | .opening .resetOpenPhase
  | .close .closeLoadState | .close .closeDuringHandshake | .close (.forceClose _ _ _) => true
  | .send (.outboundSnapshot outgoing) | .send (.handToTransport outgoing)
  | .send (.transportAnswer outgoing) =>
      match outgoing with
      | .tunnelOpen _ _ _ _ => true
      | _ => false
  | _ => false

theorem refused_steers (data : Bytes) (caller : SendCaller) :
    ∀ act ∈ caller.refused data, steers act = false := by
  intro act member
  rw [SendCaller.mem_refused member]
  rfl

theorem handshake_note (tunnel : Tunnel) (obs : Obs) (other : openSent obs = false) :
    handshake (tunnel.note obs) = handshake tunnel := by
  simp [handshake, other]

variable (own : UInt16)

theorem unseen_of_quiet (choice : Choice) (tunnel : Tunnel) (act : Act)
    (quiet : courses act = false) :
    Unseen (tunnelProgram own) handshake steers choice tunnel act := by
  simp only [Unseen, tunnelProgram]
  cases act with
  | word act => cases act <;> simp only [courses, Bool.true_eq_false] at quiet <;>
      dsimp only [exec, execWord] <;> (repeat' split) <;>
        exact ⟨rfl, rfl, none_kept rfl⟩
  | send act => cases act with
    | outboundSnapshot outgoing | handToTransport outgoing | transportAnswer outgoing =>
        cases outgoing <;> simp only [courses, Bool.true_eq_false] at quiet <;>
          dsimp only [exec, execSend] <;> (repeat' split) <;>
          exact ⟨rfl, rfl, none_kept rfl⟩
  | opening act => cases act <;> simp only [courses, Bool.true_eq_false] at quiet <;>
      dsimp only [exec, execOpen] <;> (repeat' split) <;> exact ⟨rfl, rfl, none_kept rfl⟩
  | frame act => cases act <;> dsimp only [exec, execFrame] <;> (repeat' split) <;>
      exact ⟨rfl, rfl, none_kept rfl⟩
  | driver act => cases act with
    | selectFrame arm =>
        have selected := selectFrame_selection choice tunnel arm
        dsimp only [exec, execDriver]
        generalize selectFrame choice tunnel arm = after at selected
        cases selected with
        | drained =>
            obtain ⟨⟨half, same⟩, _⟩ := finishDrain_touches (popped tunnel)
            refine ⟨by rw [same]; rfl, rfl, ?_⟩
            unfold finishDrain
            dsimp only
            (repeat' split) <;> first | exact ⟨rfl, rfl, none_kept rfl⟩ | simp [steers]
        | _ => exact ⟨rfl, rfl, none_kept rfl⟩
    | commitData payload sent arm =>
        dsimp only [exec, execDriver]
        split
        · exact ⟨rfl, rfl, none_kept rfl⟩
        · obtain ⟨timerArmed, timerEpoch, waits, same⟩ :=
            uncounted_touches tunnel payload choice.expiresLate
          rw [same]
          split <;> exact ⟨rfl, rfl, none_kept rfl⟩
    | _ =>
        dsimp only [exec, execDriver]
        (repeat' split) <;>
          exact ⟨rfl, rfl, none_kept rfl⟩
  | close act => cases act with
    | takeResources claim release =>
        refine ⟨?_, rfl, ?_⟩
        · dsimp only [exec, execClose]
          split <;> rfl
        · exact takeResources_none rfl (fun _ => rfl) choice tunnel claim release
    | _ =>
        simp only [courses, Bool.true_eq_false] at quiet <;>
          dsimp only [exec, execClose] <;> (repeat' split) <;>
          exact ⟨rfl, rfl, none_kept rfl⟩
  | peer act => cases act <;> dsimp only [exec, execPeer] <;> (repeat' split) <;>
      exact ⟨rfl, rfl, none_kept rfl⟩
  | tcp act => cases act with
    | sendAppend data policy caller =>
        have appending := sendAppend_appending choice tunnel data policy caller
        dsimp only [exec]
        generalize execTcp choice tunnel _ = after at appending
        cases appending with
        | refused =>
            refine ⟨rfl, rfl, ?_⟩
            intro act member
            rcases List.mem_cons.mp member with rfl | member
            · rfl
            · exact refused_steers data caller act member
        | queued =>
            refine ⟨rfl, rfl, ?_⟩
            intro act member
            rcases List.mem_append.mp member with member | member
            · simp only [List.mem_cons, List.not_mem_nil, or_false] at member
              rcases member with rfl | rfl <;> rfl
            · obtain ⟨resume, rfl⟩ := SendCaller.mem_admitted member
              rfl
    | sendDataToTox data caller | sendCheckAbort data caller | sendReserve data window caller =>
        dsimp only [exec, execTcp]
        split
        · exact ⟨rfl, rfl, refused_steers data caller⟩
        · exact ⟨rfl, rfl, none_kept rfl⟩
    | _ =>
        dsimp only [exec, execTcp]
        (repeat' split) <;>
          exact ⟨rfl, rfl, none_kept rfl⟩
  | env act => cases act <;> dsimp only [exec, execEnv] <;> (repeat' split) <;>
      exact ⟨rfl, rfl, none_kept rfl⟩

end Handshake

section Course

structure Course (course : Handshake) (bag : Multiset Act) : Prop where
  flight : weigh flying bag = if course.phase = .sending then 1 else 0
  recorded : course.opened = true ↔ course.phase = .sent ∨ Has sentVerdict bag
  tried : Has counted bag → 0 < course.attempts
  failed : Has failing bag → course.phase = .failed ∧ 0 < course.attempts
  reset : Has resetting bag → 0 < course.attempts ∧ course.state ≠ .connecting ∧
    course.phase ≠ .sending ∧ course.phase ≠ .sent
  single : weigh resolving bag ≤ 1
  begun : course.phase ≠ .pending → course.state ≠ .none ∨ 0 < course.attempts
  worded : course.phase = .sending → course.state ≠ .none
  deferred : course.closeOwed = true → course.phase = .sending ∧ course.abandonRequested = true
  stopped : Has stopping bag → course.state ≠ .none ∨ 0 < course.attempts

variable {course : Handshake} {bag : Multiset Act}

theorem not_sentVerdict {act : Act} (light : flying act = 0) : sentVerdict act = false := by
  unfold sentVerdict
  split
  · cases light
  · rfl

theorem not_counted {act : Act} (light : flying act = 0) : counted act = false := by
  unfold counted
  split <;> first | rfl | cases light

theorem Course.drop {act : Act} (known : Course course (act ::ₘ bag)) (light : flying act = 0) :
    Course course bag where
  flight := by simpa [light] using known.flight
  recorded := by simpa [not_sentVerdict light] using known.recorded
  tried := fun pending => known.tried ((has_cons _ _ _).mpr (.inr pending))
  failed := fun pending => known.failed ((has_cons _ _ _).mpr (.inr pending))
  reset := fun pending => known.reset ((has_cons _ _ _).mpr (.inr pending))
  single := by
    have single := known.single
    rw [weigh_cons] at single
    omega
  begun := known.begun
  worded := known.worded
  deferred := known.deferred
  stopped := fun pending => known.stopped ((has_cons _ _ _).mpr (.inr pending))

theorem Course.insert {act : Act} (known : Course course bag) (light : flying act = 0)
    (calm : resolving act = 0) (not_failing : failing act = false)
    (not_resetting : resetting act = false)
    (stops : stopping act = true → course.state ≠ .none ∨ 0 < course.attempts) :
    Course course (act ::ₘ bag) where
  flight := by simpa [light] using known.flight
  recorded := by simpa [not_sentVerdict light] using known.recorded
  tried := by simpa [not_counted light] using known.tried
  failed := by simpa [not_failing] using known.failed
  reset := by simpa [not_resetting] using known.reset
  single := by simpa [calm] using known.single
  begun := known.begun
  worded := known.worded
  deferred := known.deferred
  stopped := by
    rw [has_cons]
    rintro (own | pending)
    · exact stops own
    · exact known.stopped pending

/-- No edge but the two of the handshake leads to Connecting or to None. -/
theorem Course.moved {next : State} (known : Course course bag) (forward : next ≠ .connecting)
    (onward : next ≠ .none) : Course { course with state := next } bag where
  flight := known.flight
  recorded := known.recorded
  tried := known.tried
  failed := known.failed
  reset := fun pending =>
    ⟨(known.reset pending).1, forward, (known.reset pending).2.2⟩
  single := known.single
  begun := fun _ => .inl onward
  worded := fun _ => onward
  deferred := known.deferred
  stopped := fun _ => .inl onward

theorem Course.not_flying (known : Course course bag) (idle : course.phase ≠ .sending) :
    ¬ Has sentVerdict bag ∧ weigh flying bag = 0 := by
  have none_flies : weigh flying bag = 0 := by
    rw [known.flight, if_neg idle]
  refine ⟨?_, none_flies⟩
  rintro ⟨act, member, sent⟩
  have heavy : flying act ≤ weigh flying bag := weight_le_weigh member
  rw [none_flies] at heavy
  have light := not_sentVerdict (Nat.le_zero.mp heavy)
  rw [light] at sent
  cases sent

/-- Cancelling the OPEN: a pending attempt is called off, one under way is owed
a CLOSE. -/
theorem Course.cancelled {tunnel : Tunnel} (known : Course (handshake tunnel) bag)
    (late : tunnel.life.state ≠ .none ∨ 0 < tunnel.opening.attempts) :
    Course (handshake (cancelOpenRetryLocked tunnel).1) bag := by
  obtain ⟨flight, recorded, tried, failed, reset, single, _, worded, deferred, _⟩ := known
  simp only [handshake] at flight recorded tried failed reset worded deferred
  cases same : tunnel.opening.phase <;> simp only [cancelOpenRetryLocked, same] <;>
    constructor <;> simp_all [handshake]

theorem openClaim_course (tunnel : Tunnel) (host : Bytes) (port : UInt16)
    (first : tunnel.opening.attempts = 0) (known : Course (handshake tunnel) bag) :
    Course (handshake (execOpen tunnel (.openClaim host port)).1) bag := by
  simp only [execOpen]
  split
  · exact known
  · next fresh =>
      have fresh : tunnel.life.state = .none := by simpa using fresh
      obtain ⟨flight, recorded, tried, failed, reset, single, begun, worded, deferred, stopped⟩ := known
      simp only [handshake, fresh, first, ne_eq, not_true, lt_irrefl, or_false, and_false,
        false_and, imp_false, not_not] at flight recorded tried failed reset begun worded deferred
      constructor <;> simp_all [handshake]

theorem attemptOpenSend_course (tunnel : Tunnel) (attempt : Nat) (origin : OpenOrigin)
    (known : Course (handshake tunnel) bag) :
    Course (handshake (execOpen tunnel (.attemptOpenSend attempt origin)).1)
      (↑((execOpen tunnel (.attemptOpenSend attempt origin)).2.filter steers) + bag) := by
  simp only [execOpen]
  split
  · exact (zero_add bag).symm ▸ known
  · next starts =>
      simp only [Bool.or_eq_true, bne_iff_ne, not_or, ne_eq, Decidable.not_not] at starts
      obtain ⟨pending, connecting⟩ := starts
      have idle := known.not_flying (by simp [handshake, pending])
      obtain ⟨_, recorded, tried, failed, reset, single, _, _, deferred, _⟩ := known
      simp only [handshake, pending, connecting] at recorded tried failed reset deferred
      have only : ([.opening (.readTarget attempt origin)] : List Act).filter steers =
          [.opening (.readTarget attempt origin)] := rfl
      rw [only, Multiset.coe_singleton, Multiset.singleton_add]
      constructor <;>
        simp_all [handshake, flying, counted, sentVerdict, failing, resetting, resolving, stopping]

theorem Course.advance {before : Act} (known : Course course (before ::ₘ bag)) (next : Act)
    (attempts : Nat) (opened : Bool) (told : opened = (course.opened || sentVerdict next))
    (tried : 0 < attempts) (flies : flying before = 1) (flew : flying next = 1)
    (unsent : sentVerdict before = false) (calm : resolving next = 0)
    (not_failing : failing next = false) (not_resetting : resetting next = false) :
    Course { course with attempts, opened } (next ::ₘ bag) := by
  obtain ⟨flight, recorded, _, failed, reset, single, begun, worded, deferred, stopped⟩ := known
  rw [weigh_cons, flies] at flight
  have sending : course.phase = .sending := by
    by_contra idle
    rw [if_neg idle] at flight
    omega
  rw [if_pos sending] at flight
  have alone : ¬ Has sentVerdict bag := by
    rintro ⟨act, member, sent⟩
    have heavy : flying act ≤ weigh flying bag := weight_le_weigh member
    have light : sentVerdict act = false := not_sentVerdict (by omega)
    rw [light] at sent
    cases sent
  constructor
  · rw [weigh_cons, flew, if_pos sending]
    exact flight
  · dsimp only
    rw [told, Bool.or_eq_true, recorded, has_cons, has_cons, unsent, sending]
    simp [alone]
  · exact fun _ => tried
  · rw [has_cons, not_failing]
    rintro (never | pending)
    · cases never
    · exact ⟨(failed ((has_cons _ _ _).mpr (.inr pending))).1, tried⟩
  · rw [has_cons, not_resetting]
    rintro (never | pending)
    · cases never
    · exact ⟨tried, (reset ((has_cons _ _ _).mpr (.inr pending))).2⟩
  · rw [weigh_cons] at single ⊢
    omega
  · exact fun _ => .inr tried
  · exact worded
  · exact deferred
  · exact fun _ => .inr tried

theorem readTarget_course (tunnel : Tunnel) (attempt : Nat) (origin : OpenOrigin)
    (known : Course (handshake tunnel) (.opening (.readTarget attempt origin) ::ₘ bag)) :
    Course (handshake (execOpen tunnel (.readTarget attempt origin)).1)
      (↑((execOpen tunnel (.readTarget attempt origin)).2.filter steers) + bag) :=
  known.advance (.send (.outboundSnapshot (.tunnelOpen tunnel.life.host tunnel.life.port attempt
    origin))) (tunnel.opening.attempts + 1) (tunnel.log.any openSent)
    (by simp [handshake, sentVerdict]) (Nat.succ_pos _) rfl rfl rfl rfl rfl rfl

theorem answered_course (tunnel : Tunnel) (act : SendAct) (host : Bytes) (port : UInt16)
    (attempt : Nat) (origin : OpenOrigin) (outcome : SendOutcome)
    (sending : act = .outboundSnapshot (.tunnelOpen host port attempt origin) ∨
      act = .transportAnswer (.tunnelOpen host port attempt origin))
    (known : Course (handshake tunnel) (.send act ::ₘ bag)) :
    Course (handshake (tunnel.note (.answered (.tunnelOpen host port) outcome)))
      (.opening (.openVerdict attempt origin outcome) ::ₘ bag) := by
  have counts : 0 < (handshake tunnel).attempts := by
    rcases sending with rfl | rfl <;> exact known.tried ((has_cons _ _ _).mpr (.inl rfl))
  have flies : flying (.send act) = 1 := by
    rcases sending with rfl | rfl <;> rfl
  have noted : (tunnel.note (.answered (.tunnelOpen host port) outcome)).log.any openSent =
      ((handshake tunnel).opened || sentVerdict (.opening (.openVerdict attempt origin outcome))) := by
    cases outcome <;> simp [handshake, openSent, sentVerdict]
  have unsent : sentVerdict (.send act) = false := by
    rcases sending with rfl | rfl <;> rfl
  exact known.advance (.opening (.openVerdict attempt origin outcome)) _ _ noted counts flies rfl
    unsent rfl rfl rfl

theorem send_course (choice : Choice) (tunnel : Tunnel) (act : SendAct)
    (opens : courses (.send act) = true)
    (known : Course (handshake tunnel) (.send act ::ₘ bag)) :
    Course (handshake (execSend choice tunnel act).1)
      (↑((execSend choice tunnel act).2.filter steers) + bag) := by
  have counts : counted (.send act) = true → 0 < (handshake tunnel).attempts := fun found =>
    known.tried ((has_cons _ _ _).mpr (.inl found))
  cases act with
  | outboundSnapshot outgoing =>
      cases outgoing with
      | tunnelOpen host port attempt origin =>
          simp only [execSend]
          split
          · exact answered_course tunnel _ host port attempt origin .sent (.inl rfl) known
          · split
            · exact answered_course tunnel _ host port attempt origin .permanentFail (.inl rfl) known
            · exact known.advance (.send (.handToTransport (.tunnelOpen host port attempt origin)))
                _ _ (by simp [handshake, sentVerdict]) (counts rfl) rfl rfl rfl rfl rfl rfl
      | _ => cases opens
  | handToTransport outgoing =>
      cases outgoing with
      | tunnelOpen host port attempt origin =>
          have noted : (tunnel.note (.handed (.tunnelOpen host port))).log.any openSent =
              ((handshake tunnel).opened || false) := by
            simp [handshake, openSent]
          exact known.advance (.send (.transportAnswer (.tunnelOpen host port attempt origin)))
            _ _ noted (counts rfl) rfl rfl rfl rfl rfl rfl
      | _ => cases opens
  | transportAnswer outgoing =>
      cases outgoing with
      | tunnelOpen host port attempt origin =>
          exact answered_course tunnel _ host port attempt origin choice.outcome (.inr rfl) known
      | _ => cases opens

theorem openVerdict_steers (tunnel : Tunnel) (attempt : Nat) (origin : OpenOrigin)
    (outcome : SendOutcome) :
    (execOpen tunnel (.openVerdict attempt origin outcome)).2.filter steers = [] ∨
      ((execOpen tunnel (.openVerdict attempt origin outcome)).1.opening.phase = .failed ∧
        ∃ edge, (execOpen tunnel (.openVerdict attempt origin outcome)).2.filter steers = [edge] ∧
          failing edge = true) := by
  cases asked : tunnel.opening.abandonRequested with
  | true =>
      left
      cases origin <;> cases outcome <;> cases owed : tunnel.opening.closeOwed <;>
        simp [execOpen, asked, owed, steers]
  | false =>
      cases outcome with
      | permanentFail =>
          right
          refine ⟨by simp [execOpen, asked], ?_⟩
          cases origin <;> cases owed : tunnel.opening.closeOwed <;>
            simp only [execOpen, asked, owed] <;> exact ⟨_, rfl, rfl⟩
      | sent | sendqFull =>
          left
          cases origin <;> cases owed : tunnel.opening.closeOwed <;>
            simp [execOpen, asked, owed, steers]

theorem failing_weights {act : Act} (fails : failing act = true) :
    flying act = 0 ∧ resetting act = false ∧ resolving act = 1 ∧ stopping act = false := by
  unfold failing at fails
  split at fails
  · exact ⟨rfl, rfl, rfl, rfl⟩
  · exact ⟨rfl, rfl, rfl, rfl⟩
  · cases fails

theorem openVerdict_course (tunnel : Tunnel) (attempt : Nat) (origin : OpenOrigin)
    (outcome : SendOutcome)
    (known : Course (handshake tunnel) (.opening (.openVerdict attempt origin outcome) ::ₘ bag)) :
    Course (handshake (execOpen tunnel (.openVerdict attempt origin outcome)).1)
      (↑((execOpen tunnel (.openVerdict attempt origin outcome)).2.filter steers) + bag) := by
  have tried : 0 < tunnel.opening.attempts := known.tried ((has_cons _ _ _).mpr (.inl rfl))
  have calls := openVerdict_steers tunnel attempt origin outcome
  obtain ⟨flight, recorded, _, failed, reset, single, _, _, _, _⟩ := known
  simp only [weigh_cons, flying] at flight
  have sending : tunnel.opening.phase = .sending := by
    by_contra idle
    rw [if_neg (by simpa [handshake] using idle)] at flight
    omega
  rw [if_pos (by simpa [handshake] using sending)] at flight
  have landed : weigh flying bag = 0 := by omega
  have none_sent : ¬ Has sentVerdict bag := by
    rintro ⟨act, member, sent⟩
    have heavy : flying act ≤ weigh flying bag := weight_le_weigh member
    have light : sentVerdict act = false := not_sentVerdict (by omega)
    rw [light] at sent
    cases sent
  have none_fails : ¬ Has failing bag := by
    intro pending
    have phase := (failed ((has_cons _ _ _).mpr (.inr pending))).1
    simp [handshake, sending] at phase
  have none_resets : ¬ Has resetting bag := by
    intro pending
    exact (reset ((has_cons _ _ _).mpr (.inr pending))).2.2.1 sending
  have none_resolves : weigh resolving bag = 0 := by
    apply weigh_eq_zero
    intro act member
    unfold resolving
    split
    · exact absurd ⟨_, member, rfl⟩ none_fails
    · exact absurd ⟨_, member, rfl⟩ none_fails
    · exact absurd ⟨_, member, rfl⟩ none_resets
    · rfl
  have landed_phase : (execOpen tunnel (.openVerdict attempt origin outcome)).1.opening.phase ≠
      .sending := by
    simp only [execOpen]
    (repeat' split) <;> simp
  have sent_phase : (execOpen tunnel (.openVerdict attempt origin outcome)).1.opening.phase = .sent ↔
      outcome = .sent := by
    simp only [execOpen]
    cases outcome <;> (repeat' split) <;> simp_all
  have recorded_now : tunnel.log.any openSent = true ↔ outcome = .sent := by
    have before := recorded
    simp only [handshake, sending, has_cons, none_sent, or_false, reduceCtorEq, false_or] at before
    rw [before]
    cases outcome <;> simp [sentVerdict]
  have base : Course (handshake (execOpen tunnel (.openVerdict attempt origin outcome)).1) bag := by
    constructor
    · rw [landed]
      exact (if_neg landed_phase).symm
    · show tunnel.log.any openSent = true ↔ _
      rw [recorded_now, ← sent_phase]
      simp [handshake, none_sent]
    · exact fun _ => tried
    · exact fun pending => absurd pending none_fails
    · exact fun pending => absurd pending none_resets
    · omega
    · exact fun _ => .inr tried
    · exact fun flies => absurd flies landed_phase
    · intro owed
      cases owed
    · exact fun _ => .inr tried
  rcases calls with none_new | ⟨phase, edge, one, fails⟩
  · rw [none_new, Multiset.coe_nil, zero_add]
    exact base
  · obtain ⟨light, calm, weight, _⟩ := failing_weights fails
    rw [one, Multiset.coe_singleton, Multiset.singleton_add]
    refine { base with
      flight := by rw [weigh_cons, light, zero_add]; exact base.flight
      recorded := by rw [has_cons, not_sentVerdict light]; simpa using base.recorded
      tried := fun _ => tried
      failed := fun _ => ⟨phase, tried⟩
      reset := by rw [has_cons, calm]; simpa using base.reset
      single := by rw [weigh_cons, weight, none_resolves]
      stopped := fun _ => .inr tried }

theorem resetOpenPhase_course (tunnel : Tunnel)
    (known : Course (handshake tunnel) (.opening .resetOpenPhase ::ₘ bag)) :
    Course (handshake (execOpen tunnel .resetOpenPhase).1) bag := by
  obtain ⟨tried, left, idle, unsent⟩ := known.reset ((has_cons _ _ _).mpr (.inl rfl))
  obtain ⟨none_sent, landed⟩ := (known.drop rfl).not_flying idle
  have single := known.single
  simp only [weigh_cons, resolving] at single
  have none_fails : ¬ Has failing bag := by
    rintro ⟨act, member, fails⟩
    have heavy : resolving act ≤ weigh resolving bag := weight_le_weigh member
    rw [(failing_weights fails).2.2.1] at heavy
    omega
  have shut : tunnel.log.any openSent = false := by
    by_contra opened
    rcases known.recorded.mp (by simpa [handshake] using opened) with sent | pending
    · exact unsent sent
    · exact none_sent (by simpa [sentVerdict] using pending)
  constructor
  · rw [landed]
    rfl
  · simp [handshake, execOpen, shut, none_sent]
  · exact fun _ => tried
  · exact fun pending => absurd pending none_fails
  · intro _
    exact ⟨tried, left, by simp [handshake, execOpen], by simp [handshake, execOpen]⟩
  · omega
  · intro moved
    exact absurd rfl moved
  · intro sending
    cases sending
  · intro owed
    exact absurd (known.deferred owed).1 idle
  · exact fun _ => .inr tried

/-- A compare-and-set of the state word. The one edge to None is the rollback of
an OPEN that failed for good. -/
theorem transitionStateIf_course (tunnel : Tunnel) (expected desired : State) (won : Won)
    (edge : wonEdge (.word (.transitionStateIf expected desired won)) = true)
    (known : Course (handshake tunnel) (.word (.transitionStateIf expected desired won) ::ₘ bag)) :
    Course (handshake (execWord tunnel (.transitionStateIf expected desired won)).1)
      (↑((execWord tunnel (.transitionStateIf expected desired won)).2.filter steers) + bag) := by
  have before := known.drop rfl
  simp only [execWord]
  split
  · exact (zero_add bag).symm ▸ before
  · next here =>
      cases won with
      | openRolledBack =>
          simp only [wonEdge, Bool.and_eq_true, beq_iff_eq] at edge
          obtain ⟨rfl, rfl⟩ := edge
          obtain ⟨phase, tried⟩ := known.failed ((has_cons _ _ _).mpr (.inl rfl))
          have single := known.single
          simp only [weigh_cons, resolving] at single
          have phase : tunnel.opening.phase = .failed := phase
          have none_fails : ¬ Has failing bag := by
            rintro ⟨act, member, fails⟩
            have heavy : resolving act ≤ weigh resolving bag := weight_le_weigh member
            rw [(failing_weights fails).2.2.1] at heavy
            omega
          have new : ([Act.word (.notifyStateChange .none)] ++ TunnelSteps.maybeNotifyIdReleasable ++
              [Act.opening .clearTarget, Act.opening .resetOpenPhase]).filter steers =
              [Act.opening .clearTarget, Act.opening .resetOpenPhase] := rfl
          dsimp only
          rw [new]
          obtain ⟨flight, recorded, _, _, _, _, _, _, deferred, _⟩ := before
          simp only [handshake, phase] at flight recorded deferred
          constructor
          · have light : weigh flying (↑[Act.opening .clearTarget, Act.opening .resetOpenPhase] :
                Multiset Act) = 0 := rfl
            simpa [handshake, phase, light] using flight
          · simpa [handshake, phase, sentVerdict] using recorded
          · exact fun _ => tried
          · simpa [failing] using fun pending => absurd pending none_fails
          · intro _
            exact ⟨tried, by simp [handshake], by simp [handshake, phase], by simp [handshake, phase]⟩
          · have one : weigh resolving (↑[Act.opening .clearTarget, Act.opening .resetOpenPhase] :
                Multiset Act) = 1 := rfl
            rw [weigh_add, one]
            exact single
          · exact fun _ => .inr tried
          · simp [handshake, phase]
          · intro owed
            cases (deferred owed).1
          · exact fun _ => .inr tried
      | nothing =>
          have forward : desired ≠ .connecting ∧ desired ≠ .none := by
            simp only [wonEdge, Bool.or_eq_true, Bool.and_eq_true, beq_iff_eq] at edge
            rcases edge with ⟨_, rfl⟩ | ⟨_, rfl⟩ <;> simp
          exact (zero_add bag).symm ▸ before.moved forward.1 forward.2
      | openFailed | closedInHandshake =>
          have forward : desired ≠ .connecting ∧ desired ≠ .none := by
            simp only [wonEdge, Bool.and_eq_true, beq_iff_eq] at edge
            rw [edge.2]
            simp
          exact (zero_add bag).symm ▸ before.moved forward.1 forward.2

theorem claimTerminal_handshake (tunnel : Tunnel) (onlyFrom : Option State) :
    (claimTerminal tunnel onlyFrom).1 = tunnel ∨
      ∃ claimed, claimed.life.state ≠ .none ∧
        (handshake claimed = handshake tunnel ∨
          handshake claimed = { handshake tunnel with state := .closed }) ∧
        handshake (claimTerminal tunnel onlyFrom).1 = handshake (cancelOpenRetryLocked claimed).1 := by
  unfold claimTerminal
  dsimp only
  generalize decided : (!tunnel.life.state.terminal &&
    (onlyFrom.isNone || onlyFrom == some tunnel.life.state)) = claimed
  cases claimed with
  | false =>
      simp only [Bool.false_eq_true, if_false, Bool.not_false, Bool.and_true, Bool.false_and]
      split
      · exact .inl rfl
      · next unasked =>
          have anything : onlyFrom = none := by simpa using unasked
          subst anything
          have ended : tunnel.life.state.terminal = true := by simpa using decided
          refine .inr ⟨tunnel, ?_, .inl rfl, rfl⟩
          intro fresh
          rw [fresh] at ended
          cases ended
  | true =>
      simp only [if_true, Bool.not_true, Bool.and_false, Bool.false_eq_true, if_false, Bool.true_and]
      refine .inr ⟨{ tunnel with life := { tunnel.life with state := .closed } }, by simp, .inr rfl, ?_⟩
      split <;> rfl

theorem close_course (choice : Choice) (tunnel : Tunnel) (act : CloseAct) (moves : courses (.close act) = true)
    (known : Course (handshake tunnel) (keep steers (.close act ::ₘ bag))) :
    Course (handshake (execClose choice tunnel act).1)
      (↑((execClose choice tunnel act).2.filter steers) + keep steers bag) := by
  cases act with
  | closeLoadState =>
      rw [keep_cons_of_not rfl] at known
      simp only [execClose]
      split
      · next connecting =>
          have same : handshake (tunnel.note (.closeCalled .connecting)) = handshake tunnel :=
            handshake_note tunnel _ rfl
          rw [same]
          refine known.insert rfl rfl rfl rfl ?_
          intro _
          exact .inl (by simp [handshake, connecting])
      · rw [handshake_note tunnel _ rfl]
        exact (zero_add (keep steers bag)).symm ▸ known
      · exact (zero_add (keep steers bag)).symm ▸ known
  | closeDuringHandshake =>
      rw [keep_cons_of_kept rfl] at known
      have late := known.stopped ((has_cons _ _ _).mpr (.inl rfl))
      have after := (known.drop rfl).cancelled late
      have one : (execClose choice tunnel .closeDuringHandshake).2.filter steers =
          [.word (.transitionStateIf .connecting .closed .closedInHandshake)] := by
        simp only [execClose]
        split <;> rfl
      rw [one]
      exact after.insert rfl rfl rfl rfl (by intro never; cases never)
  | forceClose release onlyFrom markTimeout =>
      rw [keep_cons_of_not rfl] at known
      have none_kept : (execClose choice tunnel (.forceClose release onlyFrom markTimeout)).2.filter steers =
          [] := by
        simp only [execClose]
        (repeat' split) <;> rfl
      have state : (execClose choice tunnel (.forceClose release onlyFrom markTimeout)).1 =
          (claimTerminal tunnel onlyFrom).1 := by
        simp only [execClose]
        split <;> rfl
      rw [none_kept, state, Multiset.coe_nil, zero_add]
      rcases claimTerminal_handshake tunnel onlyFrom with same | ⟨claimed, late, from_here, same⟩
      · rw [same]
        exact known
      · rw [same]
        refine Course.cancelled ?_ (.inl late)
        rcases from_here with here | closed
        · rw [here]
          exact known
        · rw [closed]
          exact known.moved (by simp) (by simp)
  | _ => cases moves

/-- What the caller of `open` promises: a tunnel is opened once, and not again
after its OPEN failed. -/
def openedOnce : Guard Tunnel Act Op Choice := fun tunnel _ move =>
  match move with
  | .act _ (.opening (.openClaim _ _)) => tunnel.opening.attempts = 0
  | _ => True

instance : openedOnce.Checked := by
  intro tunnel bag move
  induction move using Move.casesOn with
  | call op => exact instDecidableTrue
  | act choice act =>
      induction act using Act.casesOn with
      | opening act =>
          induction act using OpenAct.casesOn with
          | openClaim host port => exact inferInstanceAs (Decidable (tunnel.opening.attempts = 0))
          | _ => exact instDecidableTrue
      | _ => exact instDecidableTrue

theorem exec_course (choice : Choice) (tunnel : Tunnel) (act : Act) (others : Multiset Act)
    (moves : courses act = true) (edge : wonEdge act = true)
    (once : openedOnce tunnel others (.act choice act))
    (known : Course (handshake tunnel) (keep steers (act ::ₘ others))) :
    Course (handshake (exec choice tunnel act).1)
      (keep steers (↑(exec choice tunnel act).2 + others)) := by
  rw [keep_add]
  cases act with
  | word act =>
      cases act with
      | transitionState next =>
          rw [keep_cons_of_not rfl] at known
          simp only [exec, execWord]
          split
          · exact (zero_add (keep steers others)).symm ▸ known
          · have forward : next ≠ .connecting ∧ next ≠ .none := by
              cases next <;> simp_all [wonEdge, State.terminal]
            exact (zero_add (keep steers others)).symm ▸ known.moved forward.1 forward.2
      | transitionStateIf expected desired won =>
          cases won with
          | nothing =>
              rw [keep_cons_of_not rfl] at known
              exact transitionStateIf_course tunnel expected desired .nothing edge
                (known.insert rfl rfl rfl rfl (by intro never; cases never))
          | openRolledBack | openFailed | closedInHandshake =>
              rw [keep_cons_of_kept rfl] at known
              exact transitionStateIf_course tunnel expected desired _ edge known
      | landError =>
          rw [keep_cons_of_not rfl] at known
          simp only [exec, execWord]
          split
          · exact (zero_add (keep steers others)).symm ▸ known
          · exact (zero_add (keep steers others)).symm ▸ known.moved (by simp) (by simp)
      | _ => cases moves
  | send act =>
      have kept : steers (.send act) = true := by
        cases act with
        | outboundSnapshot outgoing | handToTransport outgoing | transportAnswer outgoing =>
            cases outgoing <;> first | rfl | cases moves
      rw [keep_cons_of_kept kept] at known
      exact send_course choice tunnel act moves known
  | opening act =>
      cases act with
      | openClaim host port =>
          rw [keep_cons_of_not rfl] at known
          have none_kept : (execOpen tunnel (.openClaim host port)).2.filter steers = [] := by
            simp only [execOpen]
            split <;> rfl
          simp only [exec]
          rw [none_kept, Multiset.coe_nil, zero_add]
          exact openClaim_course tunnel host port once known
      | attemptOpenSend attempt origin =>
          rw [keep_cons_of_not rfl] at known
          exact attemptOpenSend_course tunnel attempt origin known
      | readTarget attempt origin =>
          rw [keep_cons_of_kept rfl] at known
          exact readTarget_course tunnel attempt origin known
      | openVerdict attempt origin outcome =>
          rw [keep_cons_of_kept rfl] at known
          exact openVerdict_course tunnel attempt origin outcome known
      | clearTarget =>
          rw [keep_cons_of_kept rfl] at known
          exact (zero_add (keep steers others)).symm ▸ known.drop rfl
      | resetOpenPhase =>
          rw [keep_cons_of_kept rfl] at known
          exact (zero_add (keep steers others)).symm ▸ resetOpenPhase_course tunnel known
      | _ => cases moves
  | close act => exact close_course choice tunnel act moves known
  | frame => cases moves
  | driver => cases moves
  | peer => cases moves
  | tcp => cases moves
  | env => cases moves

theorem step_course (choice : Choice) (tunnel : Tunnel) (act : Act) (others : Multiset Act)
    (edge : wonEdge act = true) (once : openedOnce tunnel others (.act choice act))
    (known : Course (handshake tunnel) (keep steers (act ::ₘ others))) :
    Course (handshake (exec choice tunnel act).1)
      (keep steers (↑(exec choice tunnel act).2 + others)) := by
  by_cases moves : courses act = true
  · exact exec_course choice tunnel act others moves edge once known
  · obtain ⟨same, not_kept, none_kept⟩ := unseen_of_quiet 0 choice tunnel act (by simpa using moves)
    have same : handshake (exec choice tunnel act).1 = handshake tunnel := same
    have calm : ∀ made ∈ (exec choice tunnel act).2, steers made = false := none_kept
    rw [keep_cons_of_not not_kept] at known
    rw [same, keep_add_of_not calm]
    exact known

theorem fresh_course {tunnel : Tunnel} (fresh : Fresh tunnel) : Course (handshake tunnel) 0 := by
  obtain ⟨tunnelId, size, timeout, sender, tcpConn, rfl⟩ := fresh
  constructor <;> simp [handshake]

theorem start_not_steering (own : UInt16) (op : Op) : ∀ act ∈ start own op, steers act = false := by
  cases op with
  | handleFrame tunnelId frame =>
      cases frame <;> simp only [start, handleFrame] <;> (try split) <;> exact none_kept rfl
  | _ => exact none_kept rfl

theorem reach_course {own : UInt16} {guard : Guard Tunnel Act Op Choice} {config : Config Tunnel Act}
    (once : ∀ tunnel others choice act, guard tunnel others (.act choice act) →
      openedOnce tunnel others (.act choice act))
    (reached : Reach (tunnelProgram own) guard Fresh config) :
    Course (handshake config.shared) (keep steers config.bag) := by
  refine (reached.knowing (fun _ bag => ∀ act ∈ bag, wonEdge act = true)
    (fun config reached => reach_wonEdges reached)).bag_invariant
    (fun tunnel bag => Course (handshake tunnel) (keep steers bag)) ?_ ?_ ?_
  · intro tunnel fresh
    exact fresh_course fresh
  · intro tunnel bag op known _
    exact (keep_add_of_not (start_not_steering own op) bag).symm ▸ known
  · intro choice tunnel act others known allowed
    exact step_course choice tunnel act others (allowed.2 act (Multiset.mem_cons_self act others))
      (once tunnel others choice act allowed.1) known

end Course

section Barred

/-- No OPEN was answered Sent, none is under way, and none can start any more. -/
structure Barred (course : Handshake) : Prop where
  shut : course.opened = false
  idle : course.phase ≠ .sending
  unsent : course.phase ≠ .sent
  stopped : course.phase = .abandoned ∨ course.phase = .failed ∨
    (0 < course.attempts ∧ course.state ≠ .connecting)
  begun : course.state ≠ .none ∨ 0 < course.attempts

variable {course : Handshake} {bag : Multiset Act}

theorem Barred.moved {next : State} (barred : Barred course) (forward : next ≠ .connecting)
    (onward : next ≠ .none ∨ 0 < course.attempts) : Barred { course with state := next } where
  shut := barred.shut
  idle := barred.idle
  unsent := barred.unsent
  stopped := by
    rcases barred.stopped with abandoned | failed | ⟨tried, _⟩
    · exact .inl abandoned
    · exact .inr (.inl failed)
    · exact .inr (.inr ⟨tried, forward⟩)
  begun := onward

theorem Barred.cancelled {tunnel : Tunnel} (barred : Barred (handshake tunnel)) :
    Barred (handshake (cancelOpenRetryLocked tunnel).1) := by
  obtain ⟨shut, idle, unsent, stopped, begun⟩ := barred
  simp only [handshake] at shut idle unsent stopped begun
  cases same : tunnel.opening.phase <;> simp only [cancelOpenRetryLocked, same] <;>
    constructor <;> simp_all [handshake]

/-- A barred handshake has no attempt under way. -/
theorem Barred.not_flying {act : Act} (barred : Barred course) (known : Course course (act ::ₘ bag)) :
    flying act = 0 := by
  have landed := (known.not_flying barred.idle).2
  rw [weigh_cons] at landed
  omega

theorem Barred.verdict (tunnel : Tunnel) (attempt : Nat) (origin : OpenOrigin) (outcome : SendOutcome)
    (known : Course (handshake tunnel) (.opening (.openVerdict attempt origin outcome) ::ₘ bag))
    (refused : outcome ≠ .sent) (asked : tunnel.opening.abandonRequested = true) :
    Barred (handshake (execOpen tunnel (.openVerdict attempt origin outcome)).1) := by
  have after := openVerdict_course tunnel attempt origin outcome known
  have tried : 0 < tunnel.opening.attempts := known.tried ((has_cons _ _ _).mpr (.inl rfl))
  have phase : (execOpen tunnel (.openVerdict attempt origin outcome)).1.opening.phase =
      .abandoned := by
    simp [execOpen, refused, asked]
  constructor
  · by_contra opened
    rcases after.recorded.mp (by simpa using opened) with sent | pending
    · rw [show (handshake (execOpen tunnel (.openVerdict attempt origin outcome)).1).phase = _
        from phase] at sent
      cases sent
    · exact (after.not_flying (by rw [show (handshake (execOpen tunnel
        (.openVerdict attempt origin outcome)).1).phase = _ from phase]; simp)).1 pending
  · simp [handshake, phase]
  · simp [handshake, phase]
  · exact .inl phase
  · exact .inr tried

theorem exec_barred (choice : Choice) (tunnel : Tunnel) (act : Act) (others : Multiset Act)
    (edge : wonEdge act = true) (once : openedOnce tunnel others (.act choice act))
    (known : Course (handshake tunnel) (keep steers (act ::ₘ others)))
    (barred : Barred (handshake tunnel)) : Barred (handshake (exec choice tunnel act).1) := by
  by_cases moves : courses act = true
  · cases act with
    | word act =>
        cases act with
        | transitionState next =>
            simp only [exec, execWord]
            split
            · exact barred
            · have forward : next ≠ .connecting ∧ next ≠ .none := by
                cases next <;> simp_all [wonEdge, State.terminal]
              exact barred.moved forward.1 (.inl forward.2)
        | transitionStateIf expected desired won =>
            simp only [exec, execWord]
            split
            · exact barred
            · cases won with
              | openRolledBack =>
                  simp only [wonEdge, Bool.and_eq_true, beq_iff_eq] at edge
                  obtain ⟨rfl, rfl⟩ := edge
                  rw [keep_cons_of_kept rfl] at known
                  have tried := (known.failed ((has_cons _ _ _).mpr (.inl rfl))).2
                  exact barred.moved (by simp) (.inr tried)
              | nothing | openFailed | closedInHandshake =>
                  have forward : desired ≠ .connecting ∧ desired ≠ .none := by
                    cases desired <;> simp_all [wonEdge]
                  exact barred.moved forward.1 (.inl forward.2)
        | landError =>
            simp only [exec, execWord]
            split
            · exact barred
            · exact barred.moved (by simp) (.inl (by simp))
        | _ => cases moves
    | send act =>
        have kept : steers (.send act) = true ∧ flying (.send act) = 1 := by
          cases act with
          | outboundSnapshot outgoing | handToTransport outgoing | transportAnswer outgoing =>
              cases outgoing <;> first | exact ⟨rfl, rfl⟩ | cases moves
        rw [keep_cons_of_kept kept.1] at known
        exact absurd (barred.not_flying known) (by rw [kept.2]; simp)
    | opening act =>
        cases act with
        | openClaim host port =>
            simp only [exec, execOpen]
            split
            · exact barred
            · next fresh =>
                have first : tunnel.opening.attempts = 0 := once
                have fresh : tunnel.life.state = .none := by simpa using fresh
                rcases barred.begun with moved | tried
                · exact absurd fresh moved
                · exact absurd first (Nat.pos_iff_ne_zero.mp tried)
        | attemptOpenSend attempt origin =>
            simp only [exec, execOpen]
            split
            · exact barred
            · next starts =>
                simp only [Bool.or_eq_true, bne_iff_ne, not_or, ne_eq, Decidable.not_not] at starts
                have stopped := barred.stopped
                simp [handshake, starts.1, starts.2] at stopped
        | readTarget attempt origin =>
            rw [keep_cons_of_kept rfl] at known
            cases barred.not_flying known
        | openVerdict attempt origin outcome =>
            rw [keep_cons_of_kept rfl] at known
            cases barred.not_flying known
        | clearTarget => exact barred
        | resetOpenPhase =>
            rw [keep_cons_of_kept rfl] at known
            obtain ⟨tried, left, _, _⟩ := known.reset ((has_cons _ _ _).mpr (.inl rfl))
            exact ⟨barred.shut, by simp [handshake, exec, execOpen],
              by simp [handshake, exec, execOpen], .inr (.inr ⟨tried, left⟩), .inr tried⟩
        | _ => cases moves
    | close act =>
        cases act with
        | closeLoadState =>
            simp only [exec, execClose]
            split
            · rw [handshake_note tunnel _ rfl]
              exact barred
            · rw [handshake_note tunnel _ rfl]
              exact barred
            · exact barred
        | closeDuringHandshake => exact barred.cancelled
        | forceClose release onlyFrom markTimeout =>
            have state : (exec choice tunnel (.close (.forceClose release onlyFrom markTimeout))).1 =
                (claimTerminal tunnel onlyFrom).1 := by
              simp only [exec, execClose]
              split <;> rfl
            rw [state]
            rcases claimTerminal_handshake tunnel onlyFrom with same | ⟨claimed, _, from_here, same⟩
            · rw [same]
              exact barred
            · rw [same]
              apply Barred.cancelled
              rcases from_here with here | closed
              · rw [here]
                exact barred
              · rw [closed]
                exact barred.moved (by simp) (.inl (by simp))
        | _ => cases moves
    | frame => cases moves
    | driver => cases moves
    | peer => cases moves
    | tcp => cases moves
    | env => cases moves
  · have same : handshake (exec choice tunnel act).1 = handshake tunnel :=
      (unseen_of_quiet 0 choice tunnel act (by simpa using moves)).1
    rw [same]
    exact barred

end Barred

end ToxTunnel.OpenCourse
