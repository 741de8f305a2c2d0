import ToxTunnel.FailoverHealth

/-!
What `decide_failover_switch` decides: a server that has been offline for long enough is
left for the first other one online, and the primary is returned to after its grace
period. Lengths of time are compared in nanoseconds here, in whole seconds by the code.
-/

namespace ToxTunnel.FailoverDecision
open FailoverHealth

section Rules

/-- The times of every endpoint are set and in the past. -/
structure Stamped (endpoints : List Endpoint) (now : Nat) : Prop where
  offline : ∀ endpoint ∈ endpoints, endpoint.online = false → endpoint.offlineSince ≠ 0
  online : ∀ endpoint ∈ endpoints, endpoint.online = true → endpoint.onlineSince ≠ 0
  past : ∀ endpoint ∈ endpoints, endpoint.offlineSince ≤ now ∧ endpoint.onlineSince ≤ now

def nanoseconds (seconds : Nat) : Nat := seconds * 1000000000

def OnlineAt (endpoints : List Endpoint) (index : Nat) : Prop :=
  ∃ endpoint, endpoints[index]? = some endpoint ∧ endpoint.online = true

/-- The active server has been offline for the timeout. -/
def Overdue (endpoints : List Endpoint) (activeIndex : Nat) (settings : Settings) (now : Nat) :
    Prop :=
  ∃ active, endpoints[activeIndex]? = some active ∧ active.online = false ∧
    nanoseconds settings.timeoutSeconds ≤ now - active.offlineSince

/-- The first server online other than the active one. -/
def FirstOther (endpoints : List Endpoint) (activeIndex index : Nat) : Prop :=
  index ≠ activeIndex ∧ OnlineAt endpoints index ∧
    ∀ other, other ≠ activeIndex → OnlineAt endpoints other → index ≤ other

def Promotes (endpoints : List Endpoint) (activeIndex : Nat) (settings : Settings) (now : Nat)
    (index : Nat) : Prop :=
  Overdue endpoints activeIndex settings now ∧ FirstOther endpoints activeIndex index

/-- A fallback is active and the primary has been online for the grace period. -/
def Returns (endpoints : List Endpoint) (activeIndex : Nat) (settings : Settings) (now : Nat)
    (index : Nat) : Prop :=
  index = 0 ∧ activeIndex ≠ 0 ∧ activeIndex < endpoints.length ∧
    ∃ primary, endpoints[0]? = some primary ∧ primary.online = true ∧
      nanoseconds settings.preferPrimaryGraceSeconds ≤ now - primary.onlineSince

def Switches (endpoints : List Endpoint) (activeIndex : Nat) (settings : Settings) (now : Nat)
    (index : Nat) : Prop :=
  Promotes endpoints activeIndex settings now index ∨
    (¬∃ other, Promotes endpoints activeIndex settings now other) ∧
      Returns endpoints activeIndex settings now index

end Rules

section Decision
variable {endpoints : List Endpoint} {activeIndex now : Nat} {settings : Settings}

theorem secondsSince_iff {since : Nat} (past : since ≤ now) (seconds : Nat) :
    (seconds : Int) ≤ secondsSince now since ↔ nanoseconds seconds ≤ now - since := by
  have elapsed : (now : Int) - since = ((now - since : Nat) : Int) := by omega
  rw [secondsSince, elapsed, Int.tdiv_eq_ediv_of_nonneg (Int.natCast_nonneg _), nanoseconds]
  omega

theorem onlineAt_lt {index : Nat} (online : OnlineAt endpoints index) : index < endpoints.length := by
  obtain ⟨endpoint, found, _⟩ := online
  exact (List.getElem?_eq_some_iff.mp found).1

theorem lowestIndexOnlineExcept_iff (index : Nat) :
    lowestIndexOnlineExcept endpoints activeIndex = some index ↔
      FirstOther endpoints activeIndex index := by
  have candidate (other : Nat) : (other != activeIndex && (endpoints[other]?).any Endpoint.online) =
      true ↔ other ≠ activeIndex ∧ OnlineAt endpoints other := by
    cases found : endpoints[other]? <;> simp [OnlineAt, found]
  rw [lowestIndexOnlineExcept, List.find?_range_eq_some]
  constructor
  · rintro ⟨chosen, _, earlier⟩
    obtain ⟨apart, online⟩ := (candidate index).mp chosen
    refine ⟨apart, online, fun other different present => ?_⟩
    by_contra before
    have passed := earlier other (not_le.mp before)
    rw [Bool.not_eq_true', Bool.eq_false_iff] at passed
    exact passed ((candidate other).mpr ⟨different, present⟩)
  · rintro ⟨apart, online, lowest⟩
    refine ⟨(candidate index).mpr ⟨apart, online⟩, ?_, fun other before => ?_⟩
    · exact List.mem_range.mpr (onlineAt_lt online)
    · rw [Bool.not_eq_true', Bool.eq_false_iff]
      intro chosen
      obtain ⟨different, present⟩ := (candidate other).mp chosen
      exact absurd (lowest other different present) (not_le.mpr before)

theorem promoteFallback_iff (stamped : Stamped endpoints now) {active : Endpoint}
    (here : endpoints[activeIndex]? = some active) (index : Nat) :
    promoteFallback endpoints activeIndex active settings now = some index ↔
      Promotes endpoints activeIndex settings now index := by
  have member := List.mem_of_getElem? here
  have length := secondsSince_iff (stamped.past active member).1 settings.timeoutSeconds
  have overdue : (active.online = false ∧ active.offlineSince ≠ 0 ∧
      (settings.timeoutSeconds : Int) ≤ secondsSince now active.offlineSince) ↔
        Overdue endpoints activeIndex settings now := by
    constructor
    · rintro ⟨off, _, long⟩
      exact ⟨active, here, off, length.mp long⟩
    · rintro ⟨other, found, off, long⟩
      rw [here] at found
      cases found
      exact ⟨off, stamped.offline active member off, length.mpr long⟩
  by_cases due : Overdue endpoints activeIndex settings now
  · rw [promoteFallback, if_pos (overdue.mpr due), lowestIndexOnlineExcept_iff]
    exact ⟨fun first => ⟨due, first⟩, fun promotes => promotes.2⟩
  · rw [promoteFallback, if_neg (fun long => due (overdue.mp long))]
    constructor
    · intro none
      cases none
    · intro promotes
      exact absurd promotes.1 due

theorem returnToPrimary_iff (stamped : Stamped endpoints now)
    (present : activeIndex < endpoints.length) (index : Nat) :
    returnToPrimary endpoints activeIndex settings now = some index ↔
      Returns endpoints activeIndex settings now index := by
  cases endpoints with
  | nil => cases present
  | cons primary rest =>
      have member : primary ∈ primary :: rest := List.mem_cons_self
      have length :=
        secondsSince_iff (stamped.past primary member).2 settings.preferPrimaryGraceSeconds
      have granted : (activeIndex ≠ 0 ∧ primary.online = true ∧ primary.onlineSince ≠ 0 ∧
          (settings.preferPrimaryGraceSeconds : Int) ≤ secondsSince now primary.onlineSince) ↔
            Returns (primary :: rest) activeIndex settings now 0 := by
        constructor
        · rintro ⟨fallback, on, _, long⟩
          exact ⟨rfl, fallback, present, primary, rfl, on, length.mp long⟩
        · rintro ⟨_, fallback, _, first, found, on, long⟩
          cases found
          exact ⟨fallback, on, stamped.online primary member on, length.mpr long⟩
      by_cases back : Returns (primary :: rest) activeIndex settings now 0
      · rw [returnToPrimary, if_pos (granted.mpr back)]
        constructor
        · rintro same
          cases same
          exact back
        · rintro returns
          rw [returns.1]
      · rw [returnToPrimary, if_neg (fun long => back (granted.mp long))]
        constructor
        · intro none
          cases none
        · intro returns
          have zero := returns.1
          rw [zero] at returns
          exact absurd returns back

theorem decide_iff (stamped : Stamped endpoints now) (index : Nat) :
    decideFailoverSwitch endpoints activeIndex settings now = some index ↔
      Switches endpoints activeIndex settings now index := by
  rw [decideFailoverSwitch]
  cases here : endpoints[activeIndex]? with
  | none =>
      have outside := List.getElem?_eq_none_iff.mp here
      constructor
      · intro none
        cases none
      · rintro (promotes | ⟨_, returns⟩)
        · obtain ⟨active, found, _⟩ := promotes.1
          rw [here] at found
          cases found
        · exact absurd returns.2.2.1 (not_lt.mpr outside)
  | some active =>
      have present := (List.getElem?_eq_some_iff.mp here).1
      by_cases alone : endpoints.length ≤ 1
      · simp only [if_pos alone]
        constructor
        · intro none
          cases none
        · rintro (promotes | ⟨_, returns⟩)
          · have other := onlineAt_lt promotes.2.2.1
            have apart := promotes.2.1
            omega
          · have fallback := returns.2.1
            omega
      · simp only [if_neg alone, Option.or_eq_some_iff, promoteFallback_iff stamped here,
          returnToPrimary_iff stamped present]
        have kept : promoteFallback endpoints activeIndex active settings now = none ↔
            ¬∃ other, Promotes endpoints activeIndex settings now other := by
          rw [Option.eq_none_iff_forall_ne_some, not_exists]
          exact forall_congr' fun other => not_congr (promoteFallback_iff stamped here other)
        rw [kept]
        rfl

/-- A switch leads to an online server, and from there no rule leads on. -/
theorem Switches.settles {index : Nat}
    (switches : Switches endpoints activeIndex settings now index) :
    index ≠ activeIndex ∧ OnlineAt endpoints index ∧
      ∀ next, ¬Switches endpoints index settings now next := by
  have online : OnlineAt endpoints index := by
    rcases switches with promotes | ⟨_, rfl, _, _, primary, found, on, _⟩
    · exact promotes.2.2.1
    · exact ⟨primary, found, on⟩
  have current (next : Nat) : ¬Promotes endpoints index settings now next := by
    rintro ⟨⟨active, found, off, _⟩, _⟩
    obtain ⟨same, present, on⟩ := online
    rw [found] at present
    cases present
    rw [off] at on
    cases on
  rcases switches with promotes | ⟨_, zero, fallback, _⟩
  · refine ⟨promotes.2.1, online, fun next moved => ?_⟩
    -- An online primary would have been the first choice, unless it is the one left.
    rcases moved with again | ⟨_, _, fallback, _, primary, found, on, _⟩
    · exact current next again
    · by_cases left : activeIndex = 0
      · obtain ⟨active, same, off, _⟩ := promotes.1
        rw [left, found] at same
        cases same
        rw [off] at on
        cases on
      · have first := promotes.2.2.2 0 (Ne.symm left) ⟨primary, found, on⟩
        omega
  · refine ⟨fun same => fallback (same ▸ zero), online, fun next moved => ?_⟩
    rcases moved with again | ⟨_, _, other, _⟩
    · exact current next again
    · exact other zero

/-- Over endpoints whose times are set, the decision is the documented rule, its server is
another one in the list and online, and deciding again from there decides nothing. -/
theorem decide_documented (activeIndex : Nat) (settings : Settings)
    (stamped : Stamped endpoints now) (index : Nat) :
    (decideFailoverSwitch endpoints activeIndex settings now = some index ↔
      Switches endpoints activeIndex settings now index) ∧
    (decideFailoverSwitch endpoints activeIndex settings now = some index →
      index < endpoints.length ∧ index ≠ activeIndex ∧ OnlineAt endpoints index ∧
        decideFailoverSwitch endpoints index settings now = none) := by
  refine ⟨decide_iff stamped index, fun decided => ?_⟩
  obtain ⟨apart, online, stays⟩ := ((decide_iff stamped index).mp decided).settles
  refine ⟨onlineAt_lt online, apart, online, ?_⟩
  rw [Option.eq_none_iff_forall_ne_some]
  intro next again
  exact stays next ((decide_iff stamped next).mp again)

def primaryDown : List Endpoint :=
  [{ friendNumber := 0, offlineSince := 1 }, { friendNumber := 1, online := true, onlineSince := 1 }]

/-- The primary has been offline for a minute. -/
theorem primary_down_promotes : Switches primaryDown 0 {} 60000000001 1 ∧
    decideFailoverSwitch primaryDown 1 {} 60000000001 = none := by
  have stamped : Stamped primaryDown 60000000001 := ⟨by decide, by decide, by decide⟩
  have documented := decide_documented 0 {} stamped 1
  have decided : decideFailoverSwitch primaryDown 0 {} 60000000001 = some 1 := by decide
  exact ⟨documented.1.mp decided, (documented.2 decided).2.2.2⟩

end Decision

end ToxTunnel.FailoverDecision
