import Mathlib.Data.List.Infix

/-!
Glob patterns over any alphabet with a star letter: the star stands for any
string, the empty one included, and every other letter for itself. A pattern
splits at its first star into literal text and the rest.
-/

namespace ToxTunnel.GlobLanguage

universe u
variable {Letter : Type u} {star : Letter}

inductive Glob (star : Letter) : List Letter → List Letter → Prop
  | empty : Glob star [] []
  | skip (skipped : List Letter) {rest tail : List Letter} (later : Glob star rest tail) :
      Glob star (star :: rest) (skipped ++ tail)
  | letter {letter : Letter} {rest tail : List Letter} (plain : letter ≠ star)
      (later : Glob star rest tail) : Glob star (letter :: rest) (letter :: tail)

section Language

@[simp] theorem glob_nil (word : List Letter) : Glob star [] word ↔ word = [] := by
  constructor
  · intro found
    cases found
    rfl
  · rintro rfl
    exact .empty

theorem glob_star (rest word : List Letter) :
    Glob star (star :: rest) word ↔
      ∃ skipped tail, word = skipped ++ tail ∧ Glob star rest tail := by
  constructor
  · intro found
    cases found with
    | skip skipped later => exact ⟨skipped, _, rfl, later⟩
    | letter plain => exact absurd rfl plain
  · rintro ⟨skipped, tail, rfl, later⟩
    exact .skip skipped later

theorem glob_cons {letter : Letter} (plain : letter ≠ star) (rest word : List Letter) :
    Glob star (letter :: rest) word ↔ ∃ tail, word = letter :: tail ∧ Glob star rest tail := by
  constructor
  · intro found
    cases found with
    | skip => exact absurd rfl plain
    | letter _ later => exact ⟨_, rfl, later⟩
  · rintro ⟨tail, rfl, later⟩
    exact .letter plain later

theorem glob_literal_append {text : List Letter} (literal : star ∉ text) (rest word : List Letter) :
    Glob star (text ++ rest) word ↔ ∃ tail, word = text ++ tail ∧ Glob star rest tail := by
  induction text generalizing word with
  | nil => simp
  | cons letter text ih =>
      have plain : letter ≠ star := fun same => literal (same ▸ List.mem_cons_self)
      rw [List.cons_append, glob_cons plain]
      simp only [ih (fun inside => literal (List.mem_cons_of_mem letter inside))]
      constructor
      · rintro ⟨_, rfl, tail, rfl, later⟩
        exact ⟨tail, rfl, later⟩
      · rintro ⟨tail, rfl, later⟩
        exact ⟨text ++ tail, rfl, tail, rfl, later⟩

theorem glob_literal {text : List Letter} (literal : star ∉ text) (word : List Letter) :
    Glob star text word ↔ word = text := by
  simpa using glob_literal_append literal [] word

/-- A pattern's own text, its stars read as letters, is one of its words. -/
theorem glob_self [DecidableEq Letter] (pattern : List Letter) : Glob star pattern pattern := by
  induction pattern with
  | nil => exact .empty
  | cons letter rest ih =>
      by_cases same : letter = star
      · subst same
        exact .skip [letter] ih
      · exact .letter same ih

theorem glob_stripped [DecidableEq Letter] (pattern : List Letter) :
    Glob star pattern (pattern.filter (· ≠ star)) := by
  induction pattern with
  | nil => exact .empty
  | cons letter rest ih =>
      by_cases same : letter = star
      · subst same
        simpa using Glob.skip [] ih
      · simpa [same] using Glob.letter same ih

theorem Glob.letters_le [DecidableEq Letter] {pattern word : List Letter}
    (found : Glob star pattern word) :
    (pattern.filter (· ≠ star)).length ≤ (word.filter (· ≠ star)).length := by
  induction found with
  | empty => exact le_refl _
  | skip skipped _ ih =>
      have more : ∀ tail : List Letter, (tail.filter (· ≠ star)).length ≤
          ((skipped ++ tail).filter (· ≠ star)).length := by
        simp [List.filter_append]
      simpa using le_trans ih (more _)
  | letter plain _ ih => simpa [plain] using ih

/-- The language as a program. -/
def accepts [DecidableEq Letter] (star : Letter) : List Letter → List Letter → Bool
  | [], word => word.isEmpty
  | letter :: rest, word =>
      if letter = star then word.tails.any (accepts star rest)
      else match word with
        | [] => false
        | head :: tail => letter == head && accepts star rest tail

theorem accepts_iff [DecidableEq Letter] (pattern word : List Letter) :
    accepts star pattern word = true ↔ Glob star pattern word := by
  induction pattern generalizing word with
  | nil => simp [accepts]
  | cons letter rest ih =>
      by_cases same : letter = star
      · subst same
        rw [glob_star]
        simp only [accepts, if_true, List.any_eq_true, List.mem_tails, ih]
        constructor
        · rintro ⟨tail, ⟨skipped, rfl⟩, later⟩
          exact ⟨skipped, tail, rfl, later⟩
        · rintro ⟨skipped, tail, rfl, later⟩
          exact ⟨tail, ⟨skipped, rfl⟩, later⟩
      · rw [glob_cons same]
        cases word with
        | nil => simp [accepts, same]
        | cons head tail =>
            simp only [accepts, same, if_false, Bool.and_eq_true, beq_iff_eq, ih]
            constructor
            · rintro ⟨rfl, later⟩
              exact ⟨tail, rfl, later⟩
            · rintro ⟨_, ⟨⟩, later⟩
              exact ⟨rfl, later⟩

instance [DecidableEq Letter] (pattern word : List Letter) : Decidable (Glob star pattern word) :=
  decidable_of_iff _ (accepts_iff pattern word)

end Language

section FirstStar

/-- The pattern is `text`, its first star, and `rest`. -/
structure SplitsAt (star : Letter) (pattern text rest : List Letter) : Prop where
  shape : pattern = text ++ star :: rest
  literal : star ∉ text

theorem SplitsAt.unique {pattern text rest text' rest' : List Letter}
    (one : SplitsAt star pattern text rest) (other : SplitsAt star pattern text' rest') :
    text = text' ∧ rest = rest' := by
  have same : text ++ star :: rest = text' ++ star :: rest' := one.shape.symm.trans other.shape
  rcases List.append_eq_append_iff.mp same with ⟨gap, grown, tail⟩ | ⟨gap, grown, tail⟩
  · cases gap with
    | nil => simp_all
    | cons first gap =>
        have : first = star := by simp_all
        exact absurd (by simp [grown, this]) other.literal
  · cases gap with
    | nil => simp_all
    | cons first gap =>
        have : first = star := by simp_all
        exact absurd (by simp [grown, this]) one.literal

theorem SplitsAt.glob {pattern text rest : List Letter} (split : SplitsAt star pattern text rest)
    (word : List Letter) :
    Glob star pattern word ↔
      ∃ skipped tail, word = text ++ (skipped ++ tail) ∧ Glob star rest tail := by
  rw [split.shape, glob_literal_append split.literal]
  simp only [glob_star]
  constructor
  · rintro ⟨_, rfl, skipped, tail, rfl, later⟩
    exact ⟨skipped, tail, rfl, later⟩
  · rintro ⟨skipped, tail, rfl, later⟩
    exact ⟨skipped ++ tail, rfl, skipped, tail, rfl, later⟩

/-- The word begins with `text` and ends with `rest`, and the two share letters
of it. -/
def Overlapped (text rest word : List Letter) : Prop :=
  ∃ before shared after, shared ≠ [] ∧ text = before ++ shared ∧ rest = shared ++ after ∧
    word = before ++ shared ++ after

/-- A beginning and an end of a word either lie apart or share letters. -/
theorem overlapped_or_apart {text rest word : List Letter} (begins : text <+: word)
    (ends : rest <:+ word) :
    Overlapped text rest word ∨ ∃ skipped, word = text ++ (skipped ++ rest) := by
  obtain ⟨tail, rfl⟩ := begins
  obtain ⟨before, same⟩ := ends
  rcases List.append_eq_append_iff.mp same with ⟨shared, grown, cut⟩ | ⟨skipped, grown, cut⟩
  · by_cases none : shared = []
    · subst none
      right
      exact ⟨[], by simp_all⟩
    · left
      exact ⟨before, shared, tail, none, grown, cut, by rw [grown]⟩
  · right
    exact ⟨skipped, by rw [cut]⟩

theorem SplitsAt.not_glob_of_overlapped [DecidableEq Letter] {pattern text rest word : List Letter}
    (split : SplitsAt star pattern text rest) (overlapped : Overlapped text rest word) :
    ¬ Glob star pattern word := by
  intro found
  obtain ⟨before, shared, after, some, rfl, rfl, rfl⟩ := overlapped
  have enough := found.letters_le
  have all : shared.filter (· ≠ star) = shared := by
    apply List.filter_eq_self.mpr
    intro letter inside
    have : letter ≠ star := by
      rintro rfl
      exact split.literal (List.mem_append_right before inside)
    simpa using this
  have long : 0 < shared.length := List.length_pos_of_ne_nil some
  rw [split.shape] at enough
  have starred : decide (star ≠ star) = false := by simp
  simp only [List.filter_append, List.filter_cons, List.length_append, all, starred,
    Bool.false_eq_true, if_false] at enough
  omega

end FirstStar

end ToxTunnel.GlobLanguage
