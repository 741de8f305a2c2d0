import Mathlib.Algebra.BigOperators.Group.List.Basic
import Mathlib.Algebra.Order.Ring.Int
import Mathlib.Tactic.Linarith

/-!
A lazily refilled token bucket in integer arithmetic. `unit` ticks at a rate of
one earn one token. The cursor is the time up to which ticks have been turned
into tokens; 0 says that nothing was measured yet. The credit of a bucket, its
tokens and the ticks behind them taken together, bounds what can be taken from
both sides.
-/

namespace ToxTunnel.TokenBucket

structure Meter where
  tokens : Int
  cursor : Int
  deriving DecidableEq

section Refill
variable (unit rate burst : Int)

def refill (now : Int) (meter : Meter) : Meter :=
  if meter.cursor = 0 then { meter with cursor := now }
  else if rate ≤ 0 ∨ burst ≤ 0 then { meter with cursor := now }
  else
    let elapsed := now - meter.cursor
    if elapsed ≤ 0 then meter
    else if burst * unit / rate ≤ elapsed then ⟨burst, now⟩
    else if burst ≤ meter.tokens then { meter with cursor := now }
    else
      let add := rate * elapsed / unit
      if add ≤ 0 then meter
      else if min (meter.tokens + add) burst = burst then ⟨burst, now⟩
      else ⟨meter.tokens + add, meter.cursor + add * unit / rate⟩

def Meter.since (meter : Meter) (now : Int) : Int :=
  if meter.cursor = 0 then 0 else now - meter.cursor

/-- What the bucket holds at `now`, in ticks of a `unit`th of a token. -/
def Meter.credit (meter : Meter) (now : Int) : Int :=
  meter.tokens * unit + rate * meter.since now

/-- A bucket that was last looked at no later than `now`. -/
structure Meter.Held (meter : Meter) (now : Int) : Prop where
  floor : 0 ≤ meter.tokens
  ceiling : meter.tokens ≤ burst
  measured : 0 ≤ meter.cursor
  behind : meter.cursor ≤ now

end Refill

section OneRefill
variable {unit rate burst now : Int} {meter : Meter}

theorem Meter.Held.later {later : Int} (held : meter.Held burst now) (after : now ≤ later) :
    meter.Held burst later := { held with behind := le_trans held.behind after }

theorem Meter.Held.since_nonneg (held : meter.Held burst now) : 0 ≤ meter.since now := by
  simp only [Meter.since]
  split
  · exact le_refl 0
  · exact sub_nonneg.mpr held.behind

theorem Meter.since_later (meter : Meter) {later : Int} (after : now ≤ later) :
    meter.since later ≤ meter.since now + (later - now) := by
  simp only [Meter.since]
  split <;> omega

/-- What a refill does: time only passes, the bucket is topped up, or `add`
tokens are paid with the ticks they cost, rounded down. -/
inductive Refilled (unit rate burst now : Int) (before : Meter) : Meter → Prop
  | untouched (none : before.cursor = 0) :
      Refilled unit rate burst now before ⟨before.tokens, now⟩
  | disengaged (some : before.cursor ≠ 0) (off : rate ≤ 0 ∨ burst ≤ 0) :
      Refilled unit rate burst now before ⟨before.tokens, now⟩
  | early (some : before.cursor ≠ 0) (on : 0 < rate ∧ 0 < burst) (still : now ≤ before.cursor) :
      Refilled unit rate burst now before before
  | saturated (some : before.cursor ≠ 0) (on : 0 < rate ∧ 0 < burst) (moved : before.cursor < now)
      (long : burst * unit / rate ≤ now - before.cursor) :
      Refilled unit rate burst now before ⟨burst, now⟩
  | full (some : before.cursor ≠ 0) (on : 0 < rate ∧ 0 < burst) (moved : before.cursor < now)
      (brim : burst ≤ before.tokens) :
      Refilled unit rate burst now before ⟨before.tokens, now⟩
  | less (some : before.cursor ≠ 0) (on : 0 < rate ∧ 0 < burst) (moved : before.cursor < now)
      (room : before.tokens < burst) (short : rate * (now - before.cursor) < unit) :
      Refilled unit rate burst now before before
  | brimmed (some : before.cursor ≠ 0) (on : 0 < rate ∧ 0 < burst) (moved : before.cursor < now)
      (earned : burst ≤ before.tokens + rate * (now - before.cursor) / unit) :
      Refilled unit rate burst now before ⟨burst, now⟩
  | paid (some : before.cursor ≠ 0) (on : 0 < rate ∧ 0 < burst) (moved : before.cursor < now)
      (add : Int) (earned : add = rate * (now - before.cursor) / unit) (positive : 0 < add)
      (room : before.tokens + add < burst) :
      Refilled unit rate burst now before ⟨before.tokens + add, before.cursor + add * unit / rate⟩

theorem refill_refilled (rate burst now : Int) (meter : Meter) (positive : 0 < unit) :
    Refilled unit rate burst now meter (refill unit rate burst now meter) := by
  unfold refill
  split
  case isTrue none => exact .untouched none
  case isFalse some =>
    split
    case isTrue off => exact .disengaged some off
    case isFalse on =>
      have on : 0 < rate ∧ 0 < burst := by omega
      dsimp only
      split
      case isTrue still => exact .early some on (by omega)
      case isFalse moved =>
        have moved : meter.cursor < now := by omega
        split
        case isTrue long => exact .saturated some on moved long
        case isFalse =>
          split
          case isTrue brim => exact .full some on moved brim
          case isFalse room =>
            split
            case isTrue none =>
              apply Refilled.less some on moved (by omega)
              have := Int.lt_mul_ediv_self_add (x := rate * (now - meter.cursor)) positive
              nlinarith
            case isFalse some' =>
              split
              case isTrue earned => exact .brimmed some on moved (by omega)
              case isFalse room' => exact .paid some on moved _ rfl (by omega) (by omega)

/-- The ticks that whole tokens cost are at most the ticks that passed. -/
theorem paid_le_elapsed (elapsed : Int) (positive : 0 < unit) (fast : 0 < rate) :
    rate * elapsed / unit * unit / rate ≤ elapsed := by
  have whole := Int.ediv_mul_le (rate * elapsed) (ne_of_gt positive)
  have cost := Int.ediv_mul_le (rate * elapsed / unit * unit) (ne_of_gt fast)
  have : rate * elapsed / unit * unit / rate * rate ≤ elapsed * rate := by linarith
  exact le_of_mul_le_mul_right this fast

theorem paid_nonneg (elapsed : Int) (positive : 0 < unit) (fast : 0 < rate) (passed : 0 ≤ elapsed) :
    0 ≤ rate * elapsed / unit * unit / rate := by
  have earned : 0 ≤ rate * elapsed / unit :=
    Int.ediv_nonneg (mul_nonneg fast.le passed) positive.le
  exact Int.ediv_nonneg (mul_nonneg earned positive.le) fast.le

theorem Refilled.held {after : Meter} (refilled : Refilled unit rate burst now meter after)
    (positive : 0 < unit) (held : meter.Held burst now) : after.Held burst now := by
  have floor := held.floor
  have ceiling := held.ceiling
  have measured := held.measured
  have behind := held.behind
  cases refilled with
  | untouched | disengaged | full => exact ⟨floor, ceiling, le_trans measured behind, le_refl now⟩
  | early | less => exact held
  | saturated _ on | brimmed _ on => exact ⟨on.2.le, le_refl burst, le_trans measured behind, le_refl now⟩
  | paid _ on moved add earned gain room =>
      have cost := paid_le_elapsed (now - meter.cursor) positive on.1
      have spent := paid_nonneg (now - meter.cursor) positive on.1 (by omega)
      rw [← earned] at cost spent
      constructor <;> dsimp only <;> omega

/-- However late it comes, a refill leaves at most the capacity, and the ticks
that rounding gave back. -/
theorem Refilled.credit_le_burst {after : Meter} (refilled : Refilled unit rate burst now meter after)
    (positive : 0 < unit) (nonneg : 0 ≤ rate) (held : meter.Held burst now) :
    after.credit unit rate now ≤ burst * unit + rate := by
  have brim : meter.tokens * unit ≤ burst * unit :=
    mul_le_mul_of_nonneg_right held.ceiling positive.le
  have fresh : ∀ tokens : Int, Meter.since ⟨tokens, now⟩ now = 0 := by
    intro tokens
    simp [Meter.since]
  cases refilled with
  | untouched | disengaged | full =>
      simp only [Meter.credit, fresh, mul_zero]
      linarith
  | saturated | brimmed =>
      simp only [Meter.credit, fresh, mul_zero]
      linarith
  | early some on still =>
      have behind := held.behind
      have : meter.since now = 0 := by
        simp only [Meter.since, some, if_false]
        omega
      simp only [Meter.credit, this, mul_zero]
      linarith
  | less some on moved room short =>
      simp only [Meter.credit, Meter.since, some, if_false]
      nlinarith
  | paid some on moved add earned gain room =>
      have whole := Int.lt_ediv_add_one_mul_self (rate * (now - meter.cursor)) positive
      have cost := Int.lt_ediv_add_one_mul_self (add * unit) on.1
      rw [← earned] at whole
      have since : Meter.since ⟨meter.tokens + add, meter.cursor + add * unit / rate⟩ now ≤
          now - (meter.cursor + add * unit / rate) := by
        simp only [Meter.since]
        split
        · have spent := paid_le_elapsed (now - meter.cursor) positive on.1
          rw [← earned] at spent
          omega
        · exact le_refl _
      simp only [Meter.credit]
      nlinarith [mul_le_mul_of_nonneg_left since on.1.le]

/-- A refill gives at most the rounded part of one tick away. -/
theorem Refilled.credit_growth {after : Meter} (refilled : Refilled unit rate burst now meter after)
    (positive : 0 < unit) (nonneg : 0 ≤ rate) (held : meter.Held burst now) :
    after.credit unit rate now ≤ meter.credit unit rate now + rate := by
  have fresh : ∀ tokens : Int, Meter.since ⟨tokens, now⟩ now = 0 := by
    intro tokens
    simp [Meter.since]
  have passed := mul_nonneg nonneg held.since_nonneg
  cases refilled with
  | untouched | disengaged | full =>
      simp only [Meter.credit, fresh]
      simp only [Meter.since] at passed ⊢
      linarith
  | early | less => linarith
  | saturated some on moved long =>
      have cost := Int.lt_ediv_add_one_mul_self (burst * unit) on.1
      have since : meter.since now = now - meter.cursor := by simp [Meter.since, some]
      have floor := mul_nonneg held.floor positive.le
      simp only [Meter.credit, fresh, since]
      nlinarith
  | brimmed some on moved earned =>
      have whole := Int.ediv_mul_le (rate * (now - meter.cursor)) (ne_of_gt positive)
      have since : meter.since now = now - meter.cursor := by simp [Meter.since, some]
      simp only [Meter.credit, fresh, since]
      nlinarith
  | paid some on moved add earned gain room =>
      have cost := Int.lt_ediv_add_one_mul_self (add * unit) on.1
      have since : meter.since now = now - meter.cursor := by simp [Meter.since, some]
      have behind : Meter.since ⟨meter.tokens + add, meter.cursor + add * unit / rate⟩ now ≤
          now - (meter.cursor + add * unit / rate) := by
        simp only [Meter.since]
        split
        · have spent := paid_le_elapsed (now - meter.cursor) positive on.1
          rw [← earned] at spent
          omega
        · exact le_refl _
      simp only [Meter.credit, since]
      nlinarith [mul_le_mul_of_nonneg_left behind on.1.le]

/-- A refill that does not fill the bucket loses nothing of its credit. -/
theorem Refilled.credit_kept {after : Meter} (refilled : Refilled unit rate burst now meter after)
    (positive : 0 < unit) (nonneg : 0 ≤ rate) (held : meter.Held burst now) {later : Int}
    (at_least : now ≤ later) :
    burst ≤ after.tokens ∨ meter.credit unit rate later ≤ after.credit unit rate later := by
  have ahead : ∀ tokens : Int, 0 ≤ rate * Meter.since ⟨tokens, now⟩ later := by
    intro tokens
    apply mul_nonneg nonneg
    simp only [Meter.since]
    split <;> omega
  cases refilled with
  | untouched none =>
      right
      have := ahead meter.tokens
      simp only [Meter.credit, Meter.since, none, if_true, mul_zero] at this ⊢
      linarith
  | disengaged some off =>
      rcases off with slow | tight
      · right
        have still : rate = 0 := le_antisymm slow nonneg
        simp [Meter.credit, still]
      · left
        exact le_trans tight held.floor
  | early | less => exact .inr (le_refl _)
  | saturated | brimmed => exact .inl (le_refl burst)
  | full _ _ _ brim => exact .inl brim
  | paid some on moved add earned gain room =>
      right
      have whole := Int.ediv_mul_le (add * unit) (ne_of_gt on.1)
      have spent := paid_nonneg (now - meter.cursor) positive on.1 (by omega)
      have measured := held.measured
      rw [← earned] at spent
      have moving : meter.cursor + add * unit / rate ≠ 0 := by omega
      simp only [Meter.credit, Meter.since, some, moving, if_false]
      nlinarith

/-- What a refill does not pay out is worth less than a token. -/
theorem Refilled.credit_lt {after : Meter} (refilled : Refilled unit rate burst now meter after)
    (positive : 0 < unit) (nonneg : 0 ≤ rate) (held : meter.Held burst now) :
    burst ≤ after.tokens ∨ meter.credit unit rate now < after.tokens * unit + unit := by
  cases refilled with
  | untouched none =>
      right
      simp only [Meter.credit, Meter.since, none, if_true, mul_zero]
      omega
  | disengaged some off =>
      rcases off with slow | tight
      · right
        have still : rate = 0 := le_antisymm slow nonneg
        simp only [Meter.credit, still, zero_mul]
        omega
      · left
        exact le_trans tight held.floor
  | early some on still =>
      right
      have late : meter.cursor = now := le_antisymm held.behind still
      simp only [Meter.credit, Meter.since, late, sub_self, ite_self, mul_zero]
      omega
  | saturated | brimmed => exact .inl (le_refl burst)
  | full _ _ _ brim => exact .inl brim
  | less some on moved room short =>
      right
      simp only [Meter.credit, Meter.since, some, if_false]
      omega
  | paid some on moved add earned gain room =>
      right
      have whole := Int.lt_ediv_add_one_mul_self (rate * (now - meter.cursor)) positive
      rw [← earned] at whole
      simp only [Meter.credit, Meter.since, some, if_false]
      linarith

/-- A refill of a bucket that has been waiting for the time a full one takes,
rounded down, but has not earned its capacity yet. -/
def RoundsUp (unit rate burst now : Int) (meter : Meter) : Prop :=
  rate * meter.since now < burst * unit ∧ burst * unit / rate ≤ meter.since now

instance (unit rate burst now : Int) (meter : Meter) :
    Decidable (RoundsUp unit rate burst now meter) := inferInstanceAs (Decidable (_ ∧ _))

/-- One refill pays what was earned, and a refill that rounds up pays what will
be earned a tick later. -/
theorem Refilled.tokens_le_credit {after : Meter}
    (refilled : Refilled unit rate burst now meter after) (positive : 0 < unit) (nonneg : 0 ≤ rate)
    (held : meter.Held burst now) {later : Int} (at_least : now ≤ later)
    (settled : now < later ∨ ¬ RoundsUp unit rate burst now meter) :
    after.tokens * unit ≤ meter.credit unit rate later ∨
      burst * unit ≤ meter.credit unit rate later := by
  have longer : meter.since now ≤ meter.since later := by
    simp only [Meter.since]
    split <;> omega
  have grown := mul_le_mul_of_nonneg_left longer nonneg
  have passed := mul_nonneg nonneg held.since_nonneg
  have floor := mul_nonneg held.floor positive.le
  cases refilled with
  | untouched | disengaged | early | full | less =>
      left
      simp only [Meter.credit]
      linarith
  | saturated some on moved long =>
      right
      have since : ∀ time, meter.since time = time - meter.cursor := by simp [Meter.since, some]
      have enough : burst * unit ≤ rate * meter.since later := by
        rcases settled with sooner | exact
        · have cost := Int.lt_ediv_add_one_mul_self (burst * unit) on.1
          have tick : burst * unit / rate + 1 ≤ meter.since later := by
            rw [since]
            omega
          nlinarith [mul_le_mul_of_nonneg_left tick nonneg]
        · by_contra short
          exact exact ⟨by omega, by rw [since]; exact long⟩
      simp only [Meter.credit]
      linarith
  | brimmed some on moved earned =>
      right
      have whole := Int.ediv_mul_le (rate * (now - meter.cursor)) (ne_of_gt positive)
      have since : meter.since now = now - meter.cursor := by simp [Meter.since, some]
      rw [since] at grown
      simp only [Meter.credit]
      nlinarith
  | paid some on moved add earned gain room =>
      left
      have whole := Int.ediv_mul_le (rate * (now - meter.cursor)) (ne_of_gt positive)
      have since : meter.since now = now - meter.cursor := by simp [Meter.since, some]
      rw [← earned] at whole
      rw [since] at grown
      simp only [Meter.credit]
      linarith

end OneRefill

section Ripening
variable {unit rate burst now : Int} {meter : Meter}

/-- At `later` the bucket will hold `need` tokens, whatever looks at it until
then and takes nothing. -/
def Meter.Ripens (unit rate burst later need : Int) (meter : Meter) : Prop :=
  burst ≤ meter.tokens ∨ need * unit ≤ meter.credit unit rate later

theorem Refilled.tokens_le {after : Meter} (refilled : Refilled unit rate burst now meter after)
    (held : meter.Held burst now) : meter.tokens ≤ after.tokens := by
  have ceiling := held.ceiling
  cases refilled with
  | untouched | disengaged | early | full | less => exact le_refl _
  | saturated | brimmed => exact ceiling
  | paid _ _ _ _ _ positive => exact le_add_of_nonneg_right positive.le

theorem Refilled.ripens {after : Meter} {later need : Int}
    (refilled : Refilled unit rate burst now meter after) (positive : 0 < unit) (nonneg : 0 ≤ rate)
    (held : meter.Held burst now) (at_least : now ≤ later)
    (ripens : meter.Ripens unit rate burst later need) : after.Ripens unit rate burst later need := by
  rcases ripens with full | owed
  · exact .inl (le_trans full (refilled.tokens_le held))
  · rcases refilled.credit_kept positive nonneg held at_least with full | kept
    · exact .inl full
    · exact .inr (le_trans owed kept)

/-- The refill at `later` pays what has ripened. -/
theorem Refilled.ripe {after : Meter} {need : Int}
    (refilled : Refilled unit rate burst now meter after) (positive : 0 < unit) (nonneg : 0 ≤ rate)
    (held : meter.Held burst now) (fits : need ≤ burst)
    (ripens : meter.Ripens unit rate burst now need) : need ≤ after.tokens := by
  rcases ripens with full | owed
  · exact le_trans fits (le_trans full (refilled.tokens_le held))
  · rcases refilled.credit_lt positive nonneg held with full | paid
    · exact le_trans fits full
    · by_contra short
      have := mul_le_mul_of_nonneg_right (Int.add_one_le_of_lt (not_le.mp short)) positive.le
      linarith

/-- A clock that reads anything but 0 leaves a measured bucket. -/
theorem Refilled.measured {after : Meter} (refilled : Refilled unit rate burst now meter after)
    (positive : 0 < unit) (held : meter.Held burst now) (reading : now ≠ 0) : after.cursor ≠ 0 := by
  have behind := held.behind
  have ahead := held.measured
  cases refilled with
  | untouched | disengaged | saturated | full | brimmed => exact reading
  | early some | less some => exact some
  | paid some on moved add earned gain room =>
      have spent := paid_nonneg (now - meter.cursor) positive on.1 (by omega)
      rw [← earned] at spent
      dsimp only
      omega

/-- The deficit divided by the rate, rounded up, is long enough. -/
theorem ripens_of_wait {need later : Int} (fast : 0 < rate) (measured : meter.cursor ≠ 0)
    (behind : meter.cursor ≤ now)
    (waited : now + ((need - meter.tokens) * unit + rate - 1) / rate ≤ later) :
    meter.Ripens unit rate burst later need := by
  right
  have whole := Int.lt_ediv_add_one_mul_self ((need - meter.tokens) * unit + rate - 1) fast
  generalize ((need - meter.tokens) * unit + rate - 1) / rate = wait at waited whole
  have passed : wait ≤ later - meter.cursor := by omega
  have earned := mul_le_mul_of_nonneg_left passed fast.le
  simp only [Meter.credit, Meter.since, measured, if_false]
  nlinarith

end Ripening

section Service
variable {unit rate burst : Int}

/-- One look at the bucket: it is refilled, and `taken` tokens are removed. -/
structure Visit where
  now : Int
  taken : Int
  deriving DecidableEq

def Meter.take (meter : Meter) (taken : Int) : Meter := { meter with tokens := meter.tokens - taken }

inductive Served (unit rate burst : Int) : Meter → List Visit → Meter → Prop
  | none (meter : Meter) : Served unit rate burst meter [] meter
  | visit {meter last : Meter} {visit : Visit} {rest : List Visit} (nonneg : 0 ≤ visit.taken)
      (covered : visit.taken ≤ (refill unit rate burst visit.now meter).tokens)
      (later : Served unit rate burst ((refill unit rate burst visit.now meter).take visit.taken)
        rest last) :
      Served unit rate burst meter (visit :: rest) last

def granted (visits : List Visit) : Int := (visits.map (·.taken)).sum

@[simp] theorem granted_nil : granted [] = 0 := rfl

@[simp] theorem granted_cons (visit : Visit) (rest : List Visit) :
    granted (visit :: rest) = visit.taken + granted rest := by
  simp [granted]

/-- The looks come in order of time, from `start` on. -/
def Ordered : Int → List Visit → Prop
  | _, [] => True
  | start, visit :: rest => start ≤ visit.now ∧ Ordered visit.now rest

theorem Ordered.sooner {start later : Int} {visits : List Visit} (ordered : Ordered later visits)
    (before : start ≤ later) : Ordered start visits := by
  cases visits with
  | nil => trivial
  | cons first rest => exact ⟨le_trans before ordered.1, ordered.2⟩

theorem Ordered.le_of_mem {start : Int} {visits : List Visit} {visit : Visit}
    (ordered : Ordered start visits) (inside : visit ∈ visits) : start ≤ visit.now := by
  induction visits generalizing start with
  | nil => cases inside
  | cons first rest ih =>
      rcases List.mem_cons.mp inside with rfl | inside
      · exact ordered.1
      · exact le_trans ordered.1 (ih ordered.2 inside)

theorem Meter.Held.take {meter : Meter} {now taken : Int} (held : meter.Held burst now)
    (nonneg : 0 ≤ taken) (covered : taken ≤ meter.tokens) : (meter.take taken).Held burst now where
  floor := by simp only [Meter.take]; omega
  ceiling := by have := held.ceiling; simp only [Meter.take]; omega
  measured := held.measured
  behind := held.behind

theorem Meter.credit_take (meter : Meter) (taken now : Int) :
    (meter.take taken).credit unit rate now = meter.credit unit rate now - taken * unit := by
  have same : (meter.take taken).since now = meter.since now := rfl
  simp only [Meter.credit, same]
  simp only [Meter.take, sub_mul]
  omega

theorem Meter.credit_later (unit : Int) (meter : Meter) {now later : Int} (nonneg : 0 ≤ rate)
    (after : now ≤ later) :
    meter.credit unit rate later ≤ meter.credit unit rate now + rate * (later - now) := by
  have := mul_le_mul_of_nonneg_left (meter.since_later after) nonneg
  simp only [Meter.credit]
  linarith

/-- What is taken is paid from the credit at the start, the time that passes,
and a tick a refill. -/
theorem Served.granted_le {meter last : Meter} {visits : List Visit}
    (served : Served unit rate burst meter visits last) (positive : 0 < unit) (nonneg : 0 ≤ rate)
    {start finish : Int} (held : meter.Held burst start) (ordered : Ordered start visits)
    (before : start ≤ finish) (within : ∀ visit ∈ visits, visit.now ≤ finish) :
    granted visits * unit ≤
      meter.credit unit rate start + rate * ((finish - start) + visits.length) := by
  induction served generalizing start with
  | none meter =>
      have floor := mul_nonneg held.floor positive.le
      have passed := mul_nonneg nonneg held.since_nonneg
      have span := mul_nonneg nonneg (sub_nonneg.mpr before)
      simp only [granted_nil, zero_mul, List.length_nil, Meter.credit, Nat.cast_zero, add_zero]
      linarith
  | @visit meter last visit rest taking covered _ ih =>
      have refilled := refill_refilled rate burst visit.now meter positive
      have topped := refilled.held positive (held.later ordered.1)
      have rest_le := ih (topped.take taking covered) ordered.2 (within visit List.mem_cons_self)
        (fun other inside => within other (List.mem_cons_of_mem visit inside))
      have growth := refilled.credit_growth positive nonneg (held.later ordered.1)
      have passing := meter.credit_later unit nonneg ordered.1
      rw [Meter.credit_take] at rest_le
      simp only [granted_cons, List.length_cons, Nat.cast_add, Nat.cast_one]
      linarith

/-- Over any stretch of time the bucket grants at most its capacity and what the
rate earns in that time, a tick a refill included. -/
theorem Served.conforms {meter last : Meter} {visits : List Visit}
    (served : Served unit rate burst meter visits last) (positive : 0 < unit) (nonneg : 0 ≤ rate)
    {before start finish : Int} (held : meter.Held burst before) (ordered : Ordered before visits)
    (span : start ≤ finish) (within : ∀ visit ∈ visits, start ≤ visit.now ∧ visit.now ≤ finish) :
    granted visits * unit ≤ burst * unit + rate * ((finish - start) + visits.length) := by
  cases served with
  | none =>
      have capacity := mul_nonneg (le_trans held.floor held.ceiling) positive.le
      have passed := mul_nonneg nonneg (sub_nonneg.mpr span)
      simp only [granted_nil, zero_mul, List.length_nil, Nat.cast_zero, add_zero]
      linarith
  | @visit _ _ visit rest taking covered later =>
      have refilled := refill_refilled rate burst visit.now meter positive
      have topped := refilled.held positive (held.later ordered.1)
      have bounds := within visit List.mem_cons_self
      have full := refilled.credit_le_burst positive nonneg (held.later ordered.1)
      have rest_le := later.granted_le positive nonneg (topped.take taking covered) ordered.2
        bounds.2 (fun other inside => (within other (List.mem_cons_of_mem visit inside)).2)
      have shorter := mul_le_mul_of_nonneg_left (sub_le_sub_left bounds.1 finish) nonneg
      rw [Meter.credit_take] at rest_le
      simp only [granted_cons, List.length_cons, Nat.cast_add, Nat.cast_one]
      linarith

/-- However often the bucket is looked at, no credit is lost but what overflows
a full bucket, and less than one token is still on its way. -/
theorem Served.keeps_up {meter last : Meter} {visits : List Visit} {final : Visit}
    (served : Served unit rate burst meter (visits ++ [final]) last) (positive : 0 < unit)
    (nonneg : 0 ≤ rate) {start : Int} (held : meter.Held burst start)
    (ordered : Ordered start (visits ++ [final])) :
    burst ≤ last.tokens + granted (visits ++ [final]) ∨
      meter.credit unit rate final.now <
        (last.tokens + granted (visits ++ [final])) * unit + unit := by
  induction visits generalizing meter start with
  | nil =>
      cases served with
      | visit taking covered later =>
          cases later
          have refilled := refill_refilled rate burst final.now meter positive
          simpa [Meter.take] using refilled.credit_lt positive nonneg (held.later ordered.1)
  | cons visit rest ih =>
      cases served with
      | visit taking covered later =>
          have refilled := refill_refilled rate burst visit.now meter positive
          have topped := refilled.held positive (held.later ordered.1)
          have after := ordered.2.le_of_mem (by simp : final ∈ rest ++ [final])
          have rest_up := ih later (topped.take taking covered) ordered.2
          simp only [List.cons_append, granted_cons]
          rcases rest_up with full | kept
          · left
            omega
          rw [Meter.credit_take] at kept
          rcases refilled.credit_kept positive nonneg (held.later ordered.1) after with brim | less
          · left
            have waiting := mul_nonneg nonneg (topped.later after).since_nonneg
            have capacity := mul_le_mul_of_nonneg_right brim positive.le
            simp only [Meter.credit] at kept
            by_contra short
            have := mul_le_mul_of_nonneg_right (not_le.mp short) positive.le
            linarith
          · right
            linarith

/-- Looking at the bucket again and again leaves no less than one refill does,
save that one refill may round up what is earned a tick later. -/
theorem Served.refill_le {meter last : Meter} {visits : List Visit} {final : Visit}
    (served : Served unit rate burst meter (visits ++ [final]) last) (positive : 0 < unit)
    (nonneg : 0 ≤ rate) {start once : Int} (held : meter.Held burst start)
    (ordered : Ordered start (visits ++ [final])) (after : start ≤ once)
    (at_most : once ≤ final.now)
    (settled : once < final.now ∨ ¬ RoundsUp unit rate burst once meter) :
    (refill unit rate burst once meter).tokens ≤
      last.tokens + granted (visits ++ [final]) := by
  have refilled := refill_refilled rate burst once meter positive
  have single := refilled.held positive (held.later after)
  have paid := refilled.tokens_le_credit positive nonneg (held.later after) at_most settled
  by_contra more
  have short := mul_le_mul_of_nonneg_right (Int.add_one_le_of_lt (not_le.mp more)) positive.le
  have capacity := mul_le_mul_of_nonneg_right single.ceiling positive.le
  rcases served.keeps_up positive nonneg held ordered with full | kept
  · have := single.ceiling
    omega
  · rcases paid with earned | brim <;> linarith

end Service

end ToxTunnel.TokenBucket
