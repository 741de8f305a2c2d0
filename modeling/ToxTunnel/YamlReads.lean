import ToxTunnel.YamlTree

/-!
When a tree can be read: what a map has, which conversions succeed there and what they
give. Texts are of any type.
-/

namespace ToxTunnel.YamlTree
variable {Text Value : Type} [DecidableEq Text] {scalars : Scalars Text}

/-- What a map has under a name. -/
def Node.child? (node : Node Text) (name : Text) : Option (Node Text) :=
  match node with
  | .map entries => find name entries
  | _ => none

/-- Nothing under the name, or something that passes. -/
def Node.allBelow (node : Node Text) (passes : Node Text → Bool) (name : Text) : Bool :=
  (node.child? name).all passes

/-- A text, or the null that stands for one. -/
def Node.isText : Node Text → Bool
  | .null => true
  | .scalar _ => true
  | _ => false

/-- A text that the codec reads. -/
def Codec.reads (codec : Codec Text Value) : Node Text → Bool
  | .scalar written => (codec.read written).isSome
  | _ => false

/-- The text under a name. -/
def Scalars.said (scalars : Scalars Text) (name : Text) (node : Node Text) : Option Text :=
  (node.child? name).bind fun child => (scalars.text child).toOption

theorem lookup_map {node : Node Text} (map : node.isMap = true) (name : Text) :
    node.lookup name = .ok (node.child? name) := by
  cases node with
  | map entries => rfl
  | _ => cases map

theorem child_not_map {node : Node Text} (other : node.isMap = false) (name : Text) :
    node.child? name = none := by
  cases node with
  | map entries => cases other
  | _ => rfl

omit [DecidableEq Text] in
theorem isOk_text (node : Node Text) : (scalars.text node).isOk = node.isText := by
  cases node <;> rfl

omit [DecidableEq Text] in
theorem isOk_as (codec : Codec Text Value) (node : Node Text) :
    (codec.as node).isOk = codec.reads node := by
  cases node with
  | scalar written =>
      cases read : codec.read written <;>
        simp [Codec.as, YamlTree.as, Codec.decode, Codec.reads, read, Except.isOk, Except.toBool]
  | _ => rfl

theorem optional_eq_ok {read : Node Text → Except Fault Value} {passes : Node Text → Bool}
    (exact : ∀ child, (read child).isOk = passes child) {node : Node Text}
    (map : node.isMap = true) {name : Text} {result : Option Value} :
    node.optional name read = .ok result ↔
      node.allBelow passes name = true ∧
        ((node.child? name).bind fun child => (read child).toOption) = result := by
  simp only [Node.optional, lookup_map map, Node.allBelow, bind, Except.bind]
  cases node.child? name with
  | none => simp
  | some child =>
      simp only [Option.all_some, Option.bind_some, ← exact child]
      cases read child <;> simp [Functor.map, Except.map, Except.isOk, Except.toBool,
        Except.toOption]

theorem fieldD_eq_ok {read : Node Text → Except Fault Value} {passes : Node Text → Bool}
    (exact : ∀ child, (read child).isOk = passes child) {node : Node Text}
    (map : node.isMap = true) {name : Text} {value result : Value} :
    node.fieldD name read value = .ok result ↔
      node.allBelow passes name = true ∧
        (((node.child? name).bind fun child => (read child).toOption).getD value) = result := by
  simp only [Node.fieldD, lookup_map map, Node.allBelow, bind, Except.bind]
  cases node.child? name with
  | none => simp
  | some child =>
      simp only [Option.all_some, Option.bind_some, ← exact child]
      cases read child <;> simp [Except.isOk, Except.toBool, Except.toOption]

theorem optional_text_eq_ok {node : Node Text} (map : node.isMap = true) {name : Text}
    {result : Option Text} :
    node.optional name scalars.text = .ok result ↔
      node.allBelow Node.isText name = true ∧ scalars.said name node = result :=
  optional_eq_ok isOk_text map

theorem said_not_map {node : Node Text} (other : node.isMap = false) (name : Text) :
    scalars.said name node = none := by
  rw [Scalars.said, child_not_map other, Option.bind_none]

end ToxTunnel.YamlTree
