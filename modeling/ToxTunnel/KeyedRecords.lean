import Mathlib.Data.List.Basic

/-!
Lists of records with a key each and a handle that may be missing: what it takes that an
entry is placed by its key or taken out and neither keys nor handles occur twice.
-/

namespace ToxTunnel.KeyedRecords

variable {Record Key Handle : Type} [DecidableEq Key]
variable (key : Record → Key) (handle : Record → Option Handle)

/-- Neither the key nor the handle is shared. -/
def Apart (record other : Record) : Prop :=
  key record ≠ key other ∧ ∀ name, handle record = some name → handle other ≠ some name

/-- No key and no handle occurs twice. -/
def Distinct (records : List Record) : Prop := records.Pairwise (Apart key handle)

omit [DecidableEq Key] in
theorem distinct_iff (records : List Record) :
    Distinct key handle records ↔
      (records.map key).Nodup ∧ (records.filterMap handle).Nodup := by
  rw [List.Nodup, List.Nodup, List.pairwise_map, List.pairwise_filterMap,
    ← List.pairwise_and_iff]
  constructor
  · refine List.Pairwise.imp fun {record other} apart => ⟨apart.1, ?_⟩
    rintro name named other' named' rfl
    exact apart.2 name named named'
  · refine List.Pairwise.imp fun {record other} apart => ⟨apart.1, ?_⟩
    exact fun name named named' => apart.2 name named name named' rfl

/-- The first record of the key is changed; where there is none, a fresh one is appended. -/
def place (target : Key) (fresh : Record) (change : Record → Record) : List Record → List Record
  | [] => [fresh]
  | record :: rest =>
      if key record = target then change record :: rest
      else record :: place target fresh change rest

variable {key handle} {target : Key} {fresh : Record} {change : Record → Record}
  {records : List Record}

theorem mem_place {record : Record} (mem : record ∈ place key target fresh change records) :
    record ∈ records ∨ record = fresh ∨
      ∃ old ∈ records, key old = target ∧ record = change old := by
  induction records with
  | nil => exact .inr (.inl (List.mem_singleton.mp mem))
  | cons first rest ih =>
      rw [place] at mem
      split at mem
      next same =>
        rcases List.mem_cons.mp mem with rfl | mem
        · exact .inr (.inr ⟨first, .head _, same, rfl⟩)
        · exact .inl (.tail _ mem)
      next =>
        rcases List.mem_cons.mp mem with rfl | mem
        · exact .inl (.head _)
        · rcases ih mem with mem | rfl | ⟨old, mem, found⟩
          · exact .inl (.tail _ mem)
          · exact .inr (.inl rfl)
          · exact .inr (.inr ⟨old, .tail _ mem, found⟩)

/-- The record has the key, and no record of another key has its handle. -/
def Fits (key : Record → Key) (handle : Record → Option Handle) (target : Key)
    (records : List Record) (record : Record) : Prop :=
  key record = target ∧ ∀ other ∈ records, key other ≠ target →
    ∀ name, handle record = some name → handle other ≠ some name

omit [DecidableEq Key] in
theorem Fits.tail {record first : Record} {rest : List Record}
    (fits : Fits key handle target (first :: rest) record) : Fits key handle target rest record :=
  ⟨fits.1, fun other mem => fits.2 other (.tail _ mem)⟩

theorem Distinct.place (distinct : Distinct key handle records)
    (fresh_fits : Fits key handle target records fresh)
    (change_fits : ∀ old ∈ records, key old = target →
      Fits key handle target records (change old)) :
    Distinct key handle (place key target fresh change records) := by
  induction records with
  | nil => exact List.pairwise_singleton _ _
  | cons first rest ih =>
      obtain ⟨first_apart, rest_distinct⟩ := List.pairwise_cons.mp distinct
      rw [KeyedRecords.place]
      split
      next same =>
        have fits := change_fits first (.head _) same
        refine List.pairwise_cons.mpr ⟨fun other mem => ?_, rest_distinct⟩
        have away : key other ≠ target := same ▸ (first_apart other mem).1.symm
        exact ⟨fits.1 ▸ away.symm, fits.2 other (.tail _ mem) away⟩
      next away =>
        refine List.pairwise_cons.mpr ⟨fun other mem => ?_, ih rest_distinct fresh_fits.tail
          fun old mem same => (change_fits old (.tail _ mem) same).tail⟩
        -- The first record keeps apart from anything that fits a key other than its own.
        have from_fitting : ∀ record, Fits key handle target (first :: rest) record →
            Apart key handle first record := by
          intro record fits
          refine ⟨fun same => away (same.trans fits.1), fun name named named' => ?_⟩
          exact fits.2 first (.head _) away name named' named
        rcases mem_place mem with mem | rfl | ⟨old, old_mem, same, rfl⟩
        · exact first_apart other mem
        · exact from_fitting _ fresh_fits
        · exact from_fitting _ (change_fits old (.tail _ old_mem) same)

omit [DecidableEq Key] in
theorem Distinct.erase (distinct : Distinct key handle records) (gone : Record → Bool) :
    Distinct key handle (records.eraseP gone) :=
  List.Pairwise.sublist List.eraseP_sublist distinct

theorem Distinct.erased (distinct : Distinct key handle records) (target : Key) :
    ∀ record ∈ records.eraseP (fun record => key record = target), key record ≠ target := by
  induction records with
  | nil => simp
  | cons first rest ih =>
      obtain ⟨first_apart, rest_distinct⟩ := List.pairwise_cons.mp distinct
      by_cases same : key first = target
      · intro record mem
        rw [List.eraseP_cons_of_pos (by simpa using same)] at mem
        exact same ▸ (first_apart record mem).1.symm
      · intro record mem
        rw [List.eraseP_cons_of_neg (by simpa using same)] at mem
        rcases List.mem_cons.mp mem with rfl | mem
        · exact same
        · exact ih rest_distinct record mem

omit [DecidableEq Key] in
theorem find?_eq_some_of_unique {holds : Record → Bool}
    (unique : ∀ record ∈ records, ∀ other ∈ records, holds record → holds other → record = other)
    (record : Record) : records.find? holds = some record ↔ record ∈ records ∧ holds record := by
  constructor
  · intro found
    exact ⟨List.mem_of_find?_eq_some found, List.find?_some found⟩
  · rintro ⟨mem, met⟩
    obtain ⟨other, found⟩ := Option.isSome_iff_exists.mp (List.find?_isSome.mpr ⟨record, mem, met⟩)
    rw [found, unique other (List.mem_of_find?_eq_some found) record mem
      (List.find?_some found) met]

omit [DecidableEq Key] in
theorem Distinct.eq_of_shared (distinct : Distinct key handle records) {record other : Record}
    (mem : record ∈ records) (mem' : other ∈ records) (shared : ¬Apart key handle record other) :
    record = other := by
  induction records with
  | nil => cases mem
  | cons first rest ih =>
      obtain ⟨first_apart, rest_distinct⟩ := List.pairwise_cons.mp distinct
      rcases List.mem_cons.mp mem with rfl | mem_rest
      · rcases List.mem_cons.mp mem' with rfl | mem_rest'
        · rfl
        · exact absurd (first_apart other mem_rest') shared
      · rcases List.mem_cons.mp mem' with rfl | mem_rest'
        · have flipped := first_apart record mem_rest
          exact absurd ⟨flipped.1.symm, fun name named named' => flipped.2 name named' named⟩
            shared
        · exact ih rest_distinct mem_rest mem_rest'

theorem Distinct.find_key (distinct : Distinct key handle records) (target : Key)
    (record : Record) :
    records.find? (fun record => key record = target) = some record ↔
      record ∈ records ∧ key record = target := by
  rw [find?_eq_some_of_unique]
  · simp
  · intro one mem other mem' met met'
    have same : key one = key other := by simp_all
    exact distinct.eq_of_shared mem mem' fun apart => apart.1 same

omit [DecidableEq Key] in
theorem Distinct.find_handle [DecidableEq Handle] (distinct : Distinct key handle records)
    (name : Handle) (record : Record) :
    records.find? (fun record => handle record = some name) = some record ↔
      record ∈ records ∧ handle record = some name := by
  rw [find?_eq_some_of_unique]
  · simp
  · intro one mem other mem' met met'
    have named : handle one = some name := by simpa using met
    have named' : handle other = some name := by simpa using met'
    exact distinct.eq_of_shared mem mem' fun apart => apart.2 name named named'

omit [DecidableEq Key] in
theorem Distinct.fits (distinct : Distinct key handle records) {old record : Record}
    (mem : old ∈ records) (same : key old = target) (same_key : key record = target)
    (same_handle : handle record = handle old) : Fits key handle target records record := by
  refine ⟨same_key, fun other other_mem away name named named' => away ?_⟩
  have one : old = other := distinct.eq_of_shared mem other_mem fun apart =>
    apart.2 name (same_handle ▸ named) named'
  exact one ▸ same

omit [DecidableEq Key] in
theorem fits_nameless {record : Record} (same : key record = target)
    (nameless : handle record = none) : Fits key handle target records record :=
  ⟨same, fun _ _ _ name named => by rw [nameless] at named; cases named⟩

end ToxTunnel.KeyedRecords
