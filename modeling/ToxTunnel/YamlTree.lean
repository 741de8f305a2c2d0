import Mathlib.Data.List.Basic

/-!
YAML documents as trees: lookups, conversions that may throw, the building of maps, and
the deletion of entries by their paths. Texts are of any type.
-/

namespace ToxTunnel.YamlTree

section Trees

/-- A key that is neither a text nor null is never looked up. -/
inductive Key (Text : Type) where
  | scalar (text : Text)
  | null
  | other
  deriving DecidableEq

inductive Node (Text : Type) where
  | null
  | scalar (text : Text)
  | sequence (items : List (Node Text))
  | map (entries : List (Key Text × Node Text))

/-- `refused` is a conversion that answers no; the others are thrown. -/
inductive Fault where
  | refused
  | badConversion
  | badSubscript
  | representation (text : String)
  deriving DecidableEq

variable {Text Value : Type}

def Node.isMap : Node Text → Bool
  | .map _ => true
  | _ => false

def Node.isScalar : Node Text → Bool
  | .scalar _ => true
  | _ => false

def Node.isSequence : Node Text → Bool
  | .sequence _ => true
  | _ => false

def Node.isNull : Node Text → Bool
  | .null => true
  | _ => false

end Trees

section Lookup
variable {Text Value : Type} [DecidableEq Text]

/-- The first entry of a name counts. -/
def find (name : Text) : List (Key Text × Node Text) → Option (Node Text)
  | [] => none
  | (key, value) :: rest => if key = .scalar name then some value else find name rest

def Node.lookup (node : Node Text) (name : Text) : Except Fault (Option (Node Text)) :=
  match node with
  | .map entries => .ok (find name entries)
  | .scalar _ => .error .badSubscript
  | _ => .ok none

/-- A key that may be missing. -/
def Node.optional (node : Node Text) (name : Text) (read : Node Text → Except Fault Value) :
    Except Fault (Option Value) := do
  match ← node.lookup name with
  | some child => some <$> read child
  | none => pure none

def Node.fieldD (node : Node Text) (name : Text) (read : Node Text → Except Fault Value)
    (value : Value) : Except Fault Value := do
  match ← node.lookup name with
  | some child => read child
  | none => pure value

/-- A key that a conversion cannot do without. -/
def Node.required (node : Node Text) (name : Text) (read : Node Text → Except Fault Value) :
    Except Fault Value := do
  match ← node.lookup name with
  | some child => read child
  | none => throw .refused

end Lookup

section Conversions
variable {Text Value : Type}

/-- What a conversion insists on. -/
def demand (holds : Prop) [Decidable holds] (fault : Fault) : Except Fault Unit :=
  if holds then pure () else throw fault

@[simp] theorem demand_eq_ok {holds : Prop} [Decidable holds] {fault : Fault} {done : Unit} :
    demand holds fault = .ok done ↔ holds := by
  by_cases given : holds <;> simp [demand, given, pure, Except.pure, throw, throwThe,
    MonadExceptOf.throw]

@[simp] theorem demand_true [Decidable True] (fault : Fault) : demand True fault = .ok () :=
  demand_eq_ok.mpr trivial

@[simp] theorem pure_eq_ok {Error : Type} {value result : Value} :
    (pure value : Except Error Value) = .ok result ↔ value = result := by
  simp [pure, Except.pure]

theorem bind_eq_ok {Error Other : Type} {before : Except Error Other}
    {next : Other → Except Error Value} {result : Value} :
    (before >>= next) = .ok result ↔ ∃ value, before = .ok value ∧ next value = .ok result := by
  cases before with
  | error fault => simp [bind, Except.bind]
  | ok value => simp [bind, Except.bind]

/-- The conversion of a caller: a refusal is thrown. -/
def as (decode : Node Text → Except Fault Value) (node : Node Text) : Except Fault Value :=
  match decode node with
  | .error .refused => .error .badConversion
  | result => result

/-- How values of a type are written and read, and that what is written is read back. -/
structure Codec (Text Value : Type) where
  read : Text → Option Value
  write : Value → Text
  faithful : ∀ value, read (write value) = some value

def Codec.decode (codec : Codec Text Value) : Node Text → Except Fault Value
  | .scalar text =>
      match codec.read text with
      | some value => .ok value
      | none => .error .refused
  | _ => .error .refused

def Codec.encode (codec : Codec Text Value) (value : Value) : Node Text :=
  .scalar (codec.write value)

/-- The conversion of a caller. -/
def Codec.as (codec : Codec Text Value) (node : Node Text) : Except Fault Value :=
  YamlTree.as codec.decode node

@[simp] theorem Codec.decode_encode (codec : Codec Text Value) (value : Value) :
    codec.decode (codec.encode value) = .ok value := by
  simp [Codec.decode, Codec.encode, codec.faithful]

@[simp] theorem Codec.as_encode (codec : Codec Text Value) (value : Value) :
    codec.as (codec.encode value) = .ok value := by
  simp [Codec.as, YamlTree.as]

/-- What a document says of the plain types; `null` is the text that null is read as. -/
structure Scalars (Text : Type) where
  null : Text
  bool : Codec Text Bool
  u16 : Codec Text UInt16
  u32 : Codec Text UInt32
  u64 : Codec Text UInt64

def Scalars.text (scalars : Scalars Text) : Node Text → Except Fault Text
  | .null => .ok scalars.null
  | .scalar text => .ok text
  | _ => .error .badConversion

@[simp] theorem Scalars.text_scalar (scalars : Scalars Text) (text : Text) :
    scalars.text (.scalar text) = .ok text := rfl

/-- The text of a key, where it has one. -/
def Scalars.keyText (scalars : Scalars Text) : Key Text → Option Text
  | .scalar text => some text
  | .null => some scalars.null
  | .other => none

/-- The conversion to a list. -/
def vector (read : Node Text → Except Fault Value) : Node Text → Except Fault (List Value)
  | .sequence items => items.mapM read
  | _ => .error .badConversion

theorem mapM_written {Error Other : Type} {read : Other → Except Error Value}
    {write : Value → Other}
    (faithful : ∀ value, read (write value) = .ok value) (values : List Value) :
    (values.map write).mapM read = .ok values := by
  induction values with
  | nil => rfl
  | cons value rest ih =>
      simp only [List.map_cons, List.mapM_cons, faithful, ih]
      rfl

theorem vector_written {read : Node Text → Except Fault Value} {write : Value → Node Text}
    (faithful : ∀ value, read (write value) = .ok value) (values : List Value) :
    vector read (.sequence (values.map write)) = .ok values :=
  mapM_written faithful values

end Conversions

section Plain
variable {Text Number : Type} (spell : List Char → Text) (letters : Text → List Char)

/-- Decimal digits, for the numbers below a limit. -/
def decimal (toNat : Number → Nat) (ofNat : Nat → Number) (limit : Nat)
    (back : ∀ number, ofNat (toNat number) = number) (small : ∀ number, toNat number < limit)
    (spelled : ∀ word : List Char, (∀ letter ∈ word, letter.toNat < 128) →
      letters (spell word) = word) : Codec Text Number where
  read text :=
    let value := Nat.ofDigitChars 10 (letters text) 0
    if letters text ≠ [] ∧ (letters text).all Char.isDigit ∧ value < limit then
      some (ofNat value)
    else none
  write number := spell (Nat.toDigits 10 (toNat number))
  faithful number := by
    have digits : ∀ letter ∈ Nat.toDigits 10 (toNat number), letter.isDigit = true :=
      fun letter mem => Nat.isDigit_of_mem_toDigits (by decide) (by decide) mem
    have ascii : ∀ letter ∈ Nat.toDigits 10 (toNat number), letter.toNat < 128 := by
      intro letter mem
      have digit := digits letter mem
      simp only [Char.isDigit, Bool.and_eq_true, decide_eq_true_eq, UInt32.le_iff_toNat_le]
        at digit
      exact Nat.lt_of_le_of_lt digit.2 (by decide)
    rw [spelled _ ascii]
    simpa [Nat.ofDigitChars_ten_toDigits, back, small, Nat.toDigits_ne_nil] using digits

/-- "true" and "false", and decimal digits. -/
def plainScalars
    (spelled : ∀ word : List Char, (∀ letter ∈ word, letter.toNat < 128) →
      letters (spell word) = word) : Scalars Text where
  null := spell ['n', 'u', 'l', 'l']
  bool :=
    { read := fun text =>
        if letters text = ['t', 'r', 'u', 'e'] then some true
        else if letters text = ['f', 'a', 'l', 's', 'e'] then some false
        else none
      write := fun value =>
        if value then spell ['t', 'r', 'u', 'e'] else spell ['f', 'a', 'l', 's', 'e']
      faithful := by
        have yes := spelled ['t', 'r', 'u', 'e'] (by simp)
        have no := spelled ['f', 'a', 'l', 's', 'e'] (by simp)
        intro value
        cases value
        · simp [no]
        · simp [yes] }
  u16 := decimal spell letters UInt16.toNat UInt16.ofNat (2 ^ 16) (by simp)
    UInt16.toNat_lt spelled
  u32 := decimal spell letters UInt32.toNat UInt32.ofNat (2 ^ 32) (by simp)
    UInt32.toNat_lt spelled
  u64 := decimal spell letters UInt64.toNat UInt64.ofNat (2 ^ 64) (by simp)
    UInt64.toNat_lt spelled

def stringScalars : Scalars String :=
  plainScalars String.ofList String.toList fun _ _ => String.toList_ofList

/-- A byte for each letter of ASCII. -/
def byteScalars : Scalars (List UInt8) :=
  plainScalars (fun word => word.map fun letter => UInt8.ofNat letter.toNat)
    (fun text => text.map fun byte => Char.ofNat byte.toNat) (by
      intro word ascii
      rw [List.map_map]
      have each : ∀ letter ∈ word, ((fun byte : UInt8 => Char.ofNat byte.toNat) ∘
          fun letter : Char => UInt8.ofNat letter.toNat) letter = id letter := by
        intro letter mem
        have small : letter.toNat < 256 := Nat.lt_trans (ascii letter mem) (by decide)
        simp [Function.comp, Nat.mod_eq_of_lt small]
      rw [List.map_congr_left each, List.map_id])

end Plain

section Building
variable {Text Value : Type} [DecidableEq Text]

/-- The entries that are written, in their order. -/
def written : List (Text × Option (Node Text)) → List (Key Text × Node Text)
  | [] => []
  | (name, some value) :: rest => (.scalar name, value) :: written rest
  | (_, none) :: rest => written rest

def fields (entries : List (Text × Option (Node Text))) : Node Text := .map (written entries)

def always (name : Text) (value : Node Text) : Text × Option (Node Text) := (name, some value)

def whenever (condition : Prop) [Decidable condition] (name : Text) (value : Node Text) :
    Text × Option (Node Text) :=
  (name, if condition then some value else none)

omit [DecidableEq Text] in
@[simp] theorem fields_isMap (entries : List (Text × Option (Node Text))) :
    (fields entries).isMap = true := rfl

omit [DecidableEq Text] in
@[simp] theorem fields_isScalar (entries : List (Text × Option (Node Text))) :
    (fields entries).isScalar = false := rfl

@[simp] theorem find_written_nil (name : Text) : find name (written []) = none := rfl

@[simp] theorem find_written_cons (name other : Text) (value : Option (Node Text))
    (rest : List (Text × Option (Node Text))) :
    find name (written ((other, value) :: rest)) =
      if other = name then value <|> find name (written rest) else find name (written rest) := by
  cases value with
  | none => simp [written]
  | some value => by_cases same : other = name <;> simp [written, find, same]

@[simp] theorem lookup_fields (name : Text) (entries : List (Text × Option (Node Text))) :
    (fields entries).lookup name = .ok (find name (written entries)) := rfl

@[simp] theorem fieldD_fields (name : Text) (entries : List (Text × Option (Node Text)))
    (read : Node Text → Except Fault Value) (value : Value) :
    (fields entries).fieldD name read value =
      (find name (written entries)).elim (.ok value) read := by
  simp only [Node.fieldD, lookup_fields]
  cases find name (written entries) <;> rfl

@[simp] theorem optional_fields (name : Text) (entries : List (Text × Option (Node Text)))
    (read : Node Text → Except Fault Value) :
    (fields entries).optional name read =
      (find name (written entries)).elim (.ok none) fun child => some <$> read child := by
  simp only [Node.optional, lookup_fields]
  cases find name (written entries) <;> rfl

@[simp] theorem required_fields (name : Text) (entries : List (Text × Option (Node Text)))
    (read : Node Text → Except Fault Value) :
    (fields entries).required name read =
      (find name (written entries)).elim (.error .refused) read := by
  simp only [Node.required, lookup_fields]
  cases find name (written entries) <;> rfl

omit [DecidableEq Text] in
/-- A value that is not written when it is the one that a missing entry stands for. -/
theorem elim_unless {read : Node Text → Except Fault Value} {child : Node Text}
    (absent : Value) {value : Value} [Decidable (value = absent)] (faithful : read child = .ok value) :
    (if value = absent then none else some child).elim (.ok absent) read = .ok value := by
  split
  next same => exact congrArg Except.ok same.symm
  next => exact faithful

/-- The first entry of a name goes. -/
def Node.remove (node : Node Text) (name : Text) : Node Text :=
  match node with
  | .map entries => .map (entries.eraseP fun (key, _) => key = .scalar name)
  | node => node

omit [DecidableEq Text] in
theorem written_names {name : Text} {entries : List (Text × Option (Node Text))}
    (apart : ∀ entry ∈ entries, entry.1 ≠ name) :
    ∀ entry ∈ written entries, entry.1 ≠ .scalar name := by
  induction entries with
  | nil => simp [written]
  | cons entry rest ih =>
      obtain ⟨other, value⟩ := entry
      have later := ih fun entry mem => apart entry (.tail _ mem)
      have first : other ≠ name := apart _ (.head _)
      cases value with
      | none => exact later
      | some value =>
          intro entry mem
          rcases List.mem_cons.mp mem with rfl | mem
          · simpa using first
          · exact later entry mem

theorem remove_fields {name : Text} {rest : List (Text × Option (Node Text))}
    (value : Option (Node Text)) (once : ∀ entry ∈ rest, entry.1 ≠ name) :
    (fields ((name, value) :: rest)).remove name = fields rest := by
  cases value with
  | none =>
      simp only [Node.remove, fields, written]
      rw [List.eraseP_of_forall_not]
      intro entry mem
      simpa using written_names once entry mem
  | some value => simp [Node.remove, fields, written]

end Building

section Deletion
variable {Text Value : Type}

/-- The way from a node to one of its children. -/
inductive Step (Text : Type) where
  | entry (key : Key Text)
  | item (index : Nat)
  deriving DecidableEq

/-- What is gone below a child. -/
def under (gone : List (Step Text) → Bool) (step : Step Text) : List (Step Text) → Bool :=
  fun path => gone (step :: path)

mutual

/-- The tree without the entries whose paths are gone. -/
def Node.prune (gone : List (Step Text) → Bool) : Node Text → Node Text
  | .null => .null
  | .scalar text => .scalar text
  | .sequence items => .sequence (pruneItems gone 0 items)
  | .map entries => .map (pruneEntries gone entries)

def pruneItems (gone : List (Step Text) → Bool) (index : Nat) :
    List (Node Text) → List (Node Text)
  | [] => []
  | item :: rest => item.prune (under gone (.item index)) :: pruneItems gone (index + 1) rest

def pruneEntries (gone : List (Step Text) → Bool) :
    List (Key Text × Node Text) → List (Key Text × Node Text)
  | [] => []
  | (key, value) :: rest =>
      if gone [.entry key] then pruneEntries gone rest
      else (key, value.prune (under gone (.entry key))) :: pruneEntries gone rest

end

attribute [local simp] Node.prune

@[simp] theorem prune_isMap (gone : List (Step Text) → Bool) (node : Node Text) :
    (node.prune gone).isMap = node.isMap := by
  cases node <;> simp [Node.prune, Node.isMap]

@[simp] theorem prune_isScalar (gone : List (Step Text) → Bool) (node : Node Text) :
    (node.prune gone).isScalar = node.isScalar := by
  cases node <;> simp [Node.prune, Node.isScalar]

@[simp] theorem prune_isSequence (gone : List (Step Text) → Bool) (node : Node Text) :
    (node.prune gone).isSequence = node.isSequence := by
  cases node <;> simp [Node.prune, Node.isSequence]

@[simp] theorem prune_isNull (gone : List (Step Text) → Bool) (node : Node Text) :
    (node.prune gone).isNull = node.isNull := by
  cases node <;> simp [Node.prune, Node.isNull]

@[simp] theorem text_prune (scalars : Scalars Text) (gone : List (Step Text) → Bool)
    (node : Node Text) : scalars.text (node.prune gone) = scalars.text node := by
  cases node <;> simp [Node.prune, Scalars.text]

@[simp] theorem codec_prune (codec : Codec Text Value) (gone : List (Step Text) → Bool)
    (node : Node Text) : codec.decode (node.prune gone) = codec.decode node := by
  cases node <;> simp [Node.prune, Codec.decode]

@[simp] theorem codec_as_prune (codec : Codec Text Value) (gone : List (Step Text) → Bool)
    (node : Node Text) : codec.as (node.prune gone) = codec.as node := by
  simp [Codec.as, as]

theorem as_congr {decode : Node Text → Except Fault Value} {node other : Node Text}
    (same : decode node = decode other) : as decode node = as decode other := by
  simp only [as, same]

theorem vector_prune {read : Node Text → Except Fault Value} {gone : List (Step Text) → Bool}
    (same : ∀ index item, read (item.prune (under gone (.item index))) = read item)
    (node : Node Text) : vector read (node.prune gone) = vector read node := by
  cases node with
  | sequence items =>
      simp only [Node.prune, vector]
      -- The items keep their places, so the induction is over every place of the first.
      have places : ∀ index, (pruneItems gone index items).mapM read = items.mapM read := by
        induction items with
        | nil => exact fun _ => rfl
        | cons item rest ih =>
            intro index
            simp only [pruneItems, List.mapM_cons, same, ih (index + 1)]
      exact places 0
  | null => simp [Node.prune, vector]
  | scalar text => simp [Node.prune, vector]
  | map entries => simp [Node.prune, vector]

end Deletion

section Kept
variable {Text Value : Type} [DecidableEq Text] {gone : List (Step Text) → Bool}

theorem find_prune {name : Text} (kept : gone [.entry (.scalar name)] = false)
    (entries : List (Key Text × Node Text)) :
    find name (pruneEntries gone entries) =
      (find name entries).map (Node.prune (under gone (.entry (.scalar name)))) := by
  induction entries with
  | nil => rfl
  | cons entry rest ih =>
      obtain ⟨key, value⟩ := entry
      by_cases same : key = .scalar name
      · subst same
        simp [pruneEntries, find, kept]
      · by_cases away : gone [.entry key] = true
        · simpa [pruneEntries, find, away, same] using ih
        · simpa [pruneEntries, find, away, same] using ih

theorem lookup_prune {name : Text} (kept : gone [.entry (.scalar name)] = false)
    (node : Node Text) :
    (node.prune gone).lookup name =
      (Option.map (Node.prune (under gone (.entry (.scalar name))))) <$> node.lookup name := by
  cases node with
  | map entries =>
      simp only [Node.prune, Node.lookup, find_prune kept]
      rfl
  | null => simp [Node.prune, Node.lookup]
  | scalar text => simp [Node.prune, Node.lookup]
  | sequence items => simp [Node.prune, Node.lookup]

theorem optional_prune {name : Text} {read : Node Text → Except Fault Value}
    (kept : gone [.entry (.scalar name)] = false)
    (same : ∀ child, read (child.prune (under gone (.entry (.scalar name)))) = read child)
    (node : Node Text) :
    (node.prune gone).optional name read = node.optional name read := by
  simp only [Node.optional, lookup_prune kept]
  rcases node.lookup name with fault | _ | child
  · rfl
  · rfl
  · exact congrArg (some <$> ·) (same child)

theorem fieldD_prune {name : Text} {read : Node Text → Except Fault Value}
    (kept : gone [.entry (.scalar name)] = false)
    (same : ∀ child, read (child.prune (under gone (.entry (.scalar name)))) = read child)
    (value : Value) (node : Node Text) :
    (node.prune gone).fieldD name read value = node.fieldD name read value := by
  simp only [Node.fieldD, lookup_prune kept]
  rcases node.lookup name with fault | _ | child
  · rfl
  · rfl
  · exact same child

theorem required_prune {name : Text} {read : Node Text → Except Fault Value}
    (kept : gone [.entry (.scalar name)] = false)
    (same : ∀ child, read (child.prune (under gone (.entry (.scalar name)))) = read child)
    (node : Node Text) :
    (node.prune gone).required name read = node.required name read := by
  simp only [Node.required, lookup_prune kept]
  rcases node.lookup name with fault | _ | child
  · rfl
  · rfl
  · exact same child

end Kept

end ToxTunnel.YamlTree
