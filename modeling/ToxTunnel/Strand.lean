import ToxTunnel.Interleaving

/-!
A kind of actions of which at most one is pending: the code of a strand, of a
lock's critical section, of a single worker. A new one begins only when no other
is pending, and each goes on with at most one of its kind.
-/

namespace ToxTunnel.Interleaving

universe u
variable {State Act Op Choice : Type u} {kind : Act → Bool}

def Single (kind : Act → Bool) (bag : Multiset Act) : Prop :=
  weigh (fun act => (kind act).toNat) bag ≤ 1

theorem not_has_of_weigh {bag : Multiset Act}
    (light : weigh (fun act => (kind act).toNat) bag = 0) : ¬ Has kind bag := by
  rintro ⟨act, member, of_kind⟩
  have heavy := @weight_le_weigh Act (fun act => (kind act).toNat) act bag member
  simp only [of_kind, Bool.toNat_true] at heavy
  omega

theorem weigh_of_not_has {bag : Multiset Act} (none : ¬ Has kind bag) :
    weigh (fun act => (kind act).toNat) bag = 0 := by
  apply weigh_eq_zero
  intro act member
  cases of_kind : kind act with
  | false => rfl
  | true => exact absurd ⟨act, member, of_kind⟩ none

/-- Beside one action of the kind there is no other. -/
theorem Single.alone {act : Act} {others : Multiset Act} (single : Single kind (act ::ₘ others))
    (mine : kind act = true) : ¬ Has kind others := by
  apply not_has_of_weigh
  rw [Single, weigh_cons, mine, Bool.toNat_true] at single
  omega

theorem Reach.single {program : Program State Act Op Choice} {guard : Guard State Act Op Choice}
    {initial : State → Prop} (kind : Act → Bool) (begins : Act → Prop)
    (calls : ∀ op, ∀ act ∈ program.start op, kind act = false)
    (alone : ∀ choice state act others, guard state others (.act choice act) → begins act →
      ¬ Has kind others)
    (first : ∀ choice state act, begins act →
      weigh (fun act => (kind act).toNat) ↑(program.exec choice state act).2 ≤ 1)
    (goes_on : ∀ choice state act, ¬ begins act →
      weigh (fun act => (kind act).toNat) ↑(program.exec choice state act).2 ≤ (kind act).toNat)
    {config : Config State Act} (reached : Reach program guard initial config) :
    Single kind config.bag := by
  apply Reach.bag_invariant (fun _ bag => Single kind bag) _ _ _ reached
  · intro _ _
    exact Nat.zero_le _
  · intro state bag op single _
    have none : weigh (fun act => (kind act).toNat) ↑(program.start op) = 0 := by
      apply weigh_eq_zero
      intro act member
      rw [calls op act (Multiset.mem_coe.mp member), Bool.toNat_false]
    rw [Single, weigh_add, none, zero_add]
    exact single
  · intro choice state act others single allowed
    rw [Single, weigh_cons] at single
    rw [Single, weigh_add]
    by_cases beginning : begins act
    · rw [weigh_of_not_has (alone choice state act others allowed beginning)]
      exact first choice state act beginning
    · have light := goes_on choice state act beginning
      omega

end ToxTunnel.Interleaving
