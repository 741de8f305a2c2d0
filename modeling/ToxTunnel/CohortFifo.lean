import ToxTunnel.TunnelState

/-!
The cohort FIFO as a byte queue. `unsent` is what the queue still holds, in
order; the lemmas say what an append, the removal of drained cohorts and the
commit of a sent frame do to it. Compaction of the back cohort is only allowed
while no driver is active, so a selected payload stays at the front.
-/

namespace ToxTunnel.CohortFifo
open TunnelState

def unsent (cohorts : List Cohort) : Bytes := cohorts.flatMap Cohort.rest

/-- The cursor is inside the cohort and its frame cap is not zero. -/
def Cohort.Sound (cohort : Cohort) : Prop :=
  cohort.consumed ≤ cohort.bytes.length ∧ 0 < cohort.cap

def Sound (cohorts : List Cohort) : Prop := ∀ cohort ∈ cohorts, Cohort.Sound cohort

/-- `payload` is what the driver cut from the front cohort. -/
def Leads (payload : Bytes) : List Cohort → Prop
  | [] => False
  | front :: _ => payload <+: front.rest

@[simp] theorem unsent_nil : unsent [] = [] := rfl

@[simp] theorem unsent_cons (front : Cohort) (rest : List Cohort) :
    unsent (front :: rest) = front.rest ++ unsent rest := rfl

theorem pending_eq_rest_length (cohort : Cohort) : cohort.pending = cohort.rest.length := by
  simp [Cohort.pending, Cohort.rest]

theorem sound_nil : Sound [] := by
  intro cohort member
  cases member

theorem sound_cons {front : Cohort} {rest : List Cohort} :
    Sound (front :: rest) ↔ Cohort.Sound front ∧ Sound rest := by
  simp [Sound]

attribute [local simp] appendCohort popDrained
attribute [elab_as_elim] appendCohort.induct

section Append

theorem compact_rest (driverActive : Bool) (back : Cohort) :
    (back.compact driverActive).rest = back.rest := by
  unfold Cohort.compact
  split
  · simp [Cohort.rest]
  · rfl

theorem compact_sound (driverActive : Bool) (back : Cohort) (sound : Cohort.Sound back) :
    Cohort.Sound (back.compact driverActive) := by
  unfold Cohort.compact
  split
  · exact ⟨Nat.zero_le _, sound.2⟩
  · exact sound

theorem compact_active (back : Cohort) : back.compact true = back := by
  simp [Cohort.compact]

theorem rest_extend (cohort : Cohort) (sound : Cohort.Sound cohort) (data : Bytes) :
    { cohort with bytes := cohort.bytes ++ data : Cohort }.rest = cohort.rest ++ data :=
  List.drop_append_of_le_length sound.1

theorem unsent_append (driverActive : Bool) (data : Bytes) (cap : Nat) (cohorts : List Cohort)
    (sound : Sound cohorts) :
    unsent (appendCohort driverActive data cap cohorts) = unsent cohorts ++ data := by
  induction cohorts using appendCohort.induct driverActive cap with
  | case1 => simp [Cohort.rest]
  | case2 back same =>
      have kept := compact_sound driverActive back (sound back (List.mem_singleton_self back))
      simp only [appendCohort, same, if_true, unsent_cons, unsent_nil, List.append_nil]
      rw [rest_extend _ kept, compact_rest]
  | case3 back differs => simp [differs, Cohort.rest]
  | case4 front next rest ih =>
      have tail := (sound_cons.mp sound).2
      simp only [appendCohort, unsent_cons, ih tail, List.append_assoc]

theorem append_sound (driverActive : Bool) (data : Bytes) (cap : Nat) (cohorts : List Cohort)
    (positive : 0 < cap) (sound : Sound cohorts) :
    Sound (appendCohort driverActive data cap cohorts) := by
  have fresh : Cohort.Sound { cap, bytes := data } := ⟨Nat.zero_le _, positive⟩
  induction cohorts using appendCohort.induct driverActive cap with
  | case1 => exact sound_cons.mpr ⟨fresh, sound_nil⟩
  | case2 back same =>
      have kept := compact_sound driverActive back (sound back (List.mem_singleton_self back))
      simp only [appendCohort, same, if_true]
      refine sound_cons.mpr ⟨⟨?_, kept.2⟩, sound_nil⟩
      have inside := kept.1
      simp only [List.length_append]
      omega
  | case3 back differs =>
      simp only [appendCohort, differs, if_false]
      exact sound_cons.mpr ⟨(sound_cons.mp sound).1, sound_cons.mpr ⟨fresh, sound_nil⟩⟩
  | case4 front next rest ih =>
      have parts := sound_cons.mp sound
      exact sound_cons.mpr ⟨parts.1, ih parts.2⟩

/-- While the driver is active an append leaves the selected payload where it is. -/
theorem leads_append (payload data : Bytes) (cap : Nat) (cohorts : List Cohort)
    (sound : Sound cohorts) (leads : Leads payload cohorts) :
    Leads payload (appendCohort true data cap cohorts) := by
  cases cohorts with
  | nil => cases leads
  | cons front rest =>
      cases rest with
      | cons next rest => exact leads
      | nil =>
          simp only [appendCohort, compact_active]
          split
          · have front_sound := (sound_cons.mp sound).1
            simp only [Leads, rest_extend front front_sound]
            exact leads.trans (List.prefix_append _ _)
          · exact leads

end Append

section Select

theorem unsent_popDrained (cohorts : List Cohort) : unsent (popDrained cohorts) = unsent cohorts := by
  induction cohorts with
  | nil => rfl
  | cons front rest ih =>
      simp only [popDrained]
      split
      · next drained =>
          rw [pending_eq_rest_length, List.length_eq_zero_iff] at drained
          rw [ih, unsent_cons, drained, List.nil_append]
      · rfl

theorem popDrained_sound (cohorts : List Cohort) (sound : Sound cohorts) :
    Sound (popDrained cohorts) := by
  induction cohorts with
  | nil => exact sound
  | cons front rest ih =>
      simp only [popDrained]
      split
      · exact ih (sound_cons.mp sound).2
      · exact sound

theorem popDrained_front (cohorts : List Cohort) {front : Cohort} {rest : List Cohort}
    (found : popDrained cohorts = front :: rest) : 0 < front.pending := by
  induction cohorts with
  | nil => cases found
  | cons first more ih =>
      simp only [popDrained] at found
      split at found
      · exact ih found
      · next kept =>
          cases found
          omega

end Select

section Commit

/-- A commit drops exactly the sent bytes from the front of the queue. -/
theorem consumeFront_spec (fifo : Fifo) (payload : Bytes) (sound : Sound fifo.cohorts)
    (counted : fifo.pending = (unsent fifo.cohorts).length) (leads : Leads payload fifo.cohorts) :
    unsent (consumeFront fifo payload.length).cohorts =
        (unsent fifo.cohorts).drop payload.length ∧
      Sound (consumeFront fifo payload.length).cohorts ∧
      (consumeFront fifo payload.length).pending =
        (unsent (consumeFront fifo payload.length).cohorts).length := by
  cases queue : fifo.cohorts with
  | nil =>
      rw [queue] at leads
      cases leads
  | cons front rest =>
      rw [queue] at leads sound counted
      obtain ⟨front_sound, rest_sound⟩ := sound_cons.mp sound
      have fits : payload.length ≤ front.rest.length := leads.length_le
      have inside : front.consumed + payload.length ≤ front.bytes.length := by
        have cursor := front_sound.1
        simp only [Cohort.rest, List.length_drop] at fits
        omega
      have advanced : front.bytes.drop (front.consumed + payload.length) =
          front.rest.drop payload.length := by
        rw [Cohort.rest, List.drop_drop]
      have dropped : (unsent (front :: rest)).drop payload.length =
          front.rest.drop payload.length ++ unsent rest := by
        rw [unsent_cons, List.drop_append_of_le_length fits]
      have size : fifo.pending - payload.length =
          (front.rest.drop payload.length ++ unsent rest).length := by
        rw [counted, ← dropped, List.length_drop]
      simp only [consumeFront, queue]
      split
      · next emptied =>
          have gone : front.rest.drop payload.length = [] := by
            rw [← advanced, emptied, List.drop_length]
          rw [dropped, gone, List.nil_append]
          rw [gone, List.nil_append] at size
          exact ⟨rfl, rest_sound, size⟩
      · have kept : Cohort.rest { front with consumed := front.consumed + payload.length } =
            front.rest.drop payload.length := advanced
        rw [dropped]
        refine ⟨by rw [unsent_cons, kept], sound_cons.mpr ⟨⟨inside, front_sound.2⟩, rest_sound⟩, ?_⟩
        rw [unsent_cons, kept]
        exact size

theorem leads_unsent {payload : Bytes} {cohorts : List Cohort} (leads : Leads payload cohorts) :
    payload <+: unsent cohorts := by
  cases cohorts with
  | nil => cases leads
  | cons front rest => exact List.IsPrefix.trans leads (List.prefix_append _ _)

end Commit

end ToxTunnel.CohortFifo
