import Mathlib.Data.List.TakeDrop
import Mathlib.Data.Nat.Bitwise

/-!
Byte buffers whose every access is checked. An access outside the buffer is a
fault of its own, apart from whatever a decoder answers, so that a decoder
without faults has read bytes of its input only. Integers are big-endian.
-/

namespace ToxTunnel.CheckedBytes

abbrev Bytes := List UInt8

/-- An access outside the buffer, with the first byte it missed. -/
structure OutOfRange where
  index : Nat
  deriving DecidableEq

abbrev Access := Except OutOfRange

def byteAt (bytes : Bytes) (index : Nat) : Access UInt8 :=
  match bytes[index]? with
  | some byte => .ok byte
  | none => .error ⟨index⟩

def sliceAt (bytes : Bytes) (start length : Nat) : Access Bytes :=
  if start + length ≤ bytes.length then .ok ((bytes.drop start).take length)
  else .error ⟨max start bytes.length⟩

/-- Most significant byte first. -/
def bigEndian (width value : Nat) : Bytes :=
  (List.range width).map fun index => UInt8.ofNat (value >>> (8 * (width - 1 - index)))

def ofBigEndian (bytes : Bytes) : Nat :=
  bytes.foldl (fun value byte => value <<< 8 ||| byte.toNat) 0

def readBigEndian (bytes : Bytes) (start width : Nat) : Access Nat := do
  return ofBigEndian (← sliceAt bytes start width)

section Integers

@[simp] theorem bigEndian_length (width value : Nat) : (bigEndian width value).length = width := by
  simp [bigEndian]

theorem bigEndian_succ (width value : Nat) :
    bigEndian (width + 1) value = UInt8.ofNat (value >>> (8 * width)) :: bigEndian width value := by
  simp only [bigEndian, List.range_succ_eq_map, List.map_cons, List.map_map]
  congr 1
  apply List.map_congr_left
  intro index _
  show UInt8.ofNat _ = UInt8.ofNat _
  rw [show width + 1 - 1 - (index + 1) = width - 1 - index by omega]

theorem shift_byte (value : Nat) (byte : UInt8) :
    value <<< 8 ||| byte.toNat = value * 256 + byte.toNat := by
  rw [← Nat.shiftLeft_add_eq_or_of_lt (by have := byte.toNat_lt; omega), Nat.shiftLeft_eq]

/-- The bytes read in append the value's last digits to what was read before. -/
theorem foldl_bigEndian (width value before : Nat) :
    (bigEndian width value).foldl (fun value byte => value <<< 8 ||| byte.toNat) before =
      before * 256 ^ width + value % 256 ^ width := by
  induction width generalizing before with
  | zero => simp [bigEndian, Nat.mod_one]
  | succ width ih =>
      have digit : (UInt8.ofNat (value >>> (8 * width))).toNat = value / 256 ^ width % 256 := by
        rw [UInt8.toNat_ofNat', Nat.shiftRight_eq_div_pow, Nat.pow_mul]
      rw [bigEndian_succ, List.foldl_cons, ih, shift_byte, digit, Nat.mod_pow_succ, Nat.add_mul,
        Nat.mul_assoc, Nat.mul_comm 256, ← Nat.pow_succ, Nat.add_assoc,
        Nat.mul_comm (256 ^ width) (_ % 256), Nat.add_comm (value % 256 ^ width)]

theorem ofBigEndian_bigEndian {width value : Nat} (fits : value < 256 ^ width) :
    ofBigEndian (bigEndian width value) = value := by
  rw [ofBigEndian, foldl_bigEndian, Nat.zero_mul, Nat.zero_add, Nat.mod_eq_of_lt fits]

end Integers

section Accesses
variable {bytes front middle back : Bytes}

theorem byteAt_head (byte : UInt8) (rest : Bytes) : byteAt (byte :: rest) 0 = .ok byte := rfl

theorem byteAt_append (byte : UInt8) {index : Nat} (here : front.length = index) :
    byteAt (front ++ byte :: back) index = .ok byte := by
  simp [byteAt, ← here]

theorem sliceAt_append {start length : Nat} (here : front.length = start)
    (whole : middle.length = length) :
    sliceAt (front ++ (middle ++ back)) start length = .ok middle := by
  subst here whole
  rw [sliceAt, if_pos (by simp), List.drop_left, List.take_left]

theorem readBigEndian_append {start width value : Nat} (here : front.length = start)
    (fits : value < 256 ^ width) :
    readBigEndian (front ++ (bigEndian width value ++ back)) start width = .ok value := by
  rw [readBigEndian, sliceAt_append here (bigEndian_length width value)]
  exact congrArg Except.ok (ofBigEndian_bigEndian fits)

/-- The access stays inside the buffer. -/
def Faultless {α : Type} (access : Access α) : Prop := ∃ value, access = .ok value

variable {α β : Type}

theorem Faultless.ok (value : α) : Faultless (.ok value) := ⟨value, rfl⟩

theorem Faultless.bind {access : Access α} {next : α → Access β} (first : Faultless access)
    (then_ : ∀ value, access = .ok value → Faultless (next value)) : Faultless (access >>= next) := by
  obtain ⟨value, rfl⟩ := first
  exact then_ value rfl

theorem byteAt_faultless {index : Nat} (inside : index < bytes.length) :
    Faultless (byteAt bytes index) := by
  rw [byteAt, List.getElem?_eq_getElem inside]
  exact .ok _

theorem sliceAt_faultless {start length : Nat} (inside : start + length ≤ bytes.length) :
    Faultless (sliceAt bytes start length) := by
  rw [sliceAt, if_pos inside]
  exact .ok _

theorem readBigEndian_faultless {start width : Nat} (inside : start + width ≤ bytes.length) :
    Faultless (readBigEndian bytes start width) :=
  (sliceAt_faultless inside).bind fun _ _ => .ok _

end Accesses

end ToxTunnel.CheckedBytes
