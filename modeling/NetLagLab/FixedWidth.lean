import Mathlib.Algebra.Order.Group.Nat
import NetLagLab.ByteLines

/-! Numbers of a fixed width in a byte string, and a reader that is told when it leaves its input. A number is stored
with its least significant byte first, or last where the network order is asked for. Nothing in this file refers to a
particular format. -/

namespace FixedWidth

open ByteLines (Bytes)

/-! ### Numbers -/

/-- The bytes of a number, the least significant first. -/
def leBytes : Nat → Nat → Bytes
  | 0, _ => []
  | width + 1, value => UInt8.ofNat (value % 256) :: leBytes width (value / 256)

def leValue : Bytes → Nat
  | [] => 0
  | byte :: rest => byte.toNat + 256 * leValue rest

/-- The value of bytes in network order. -/
def beValue (bytes : Bytes) : Nat := leValue bytes.reverse

def beBytes (width value : Nat) : Bytes := (leBytes width value).reverse

section Numbers

variable {width value : Nat} {bytes : Bytes}

@[simp] theorem length_leBytes (width value : Nat) : (leBytes width value).length = width := by
  induction width generalizing value with
  | zero => simp [leBytes]
  | succ width ih => simp [leBytes, ih]

@[simp] theorem length_beBytes (width value : Nat) : (beBytes width value).length = width := by
  simp [beBytes]

theorem leValue_leBytes (h : value < 256 ^ width) : leValue (leBytes width value) = value := by
  induction width generalizing value with
  | zero =>
      rw [pow_zero] at h
      simp only [leBytes, leValue]
      omega
  | succ width ih =>
      have hhigh : value / 256 < 256 ^ width := by
        rw [pow_succ] at h
        exact Nat.div_lt_of_lt_mul (by omega)
      have hlow : (UInt8.ofNat (value % 256)).toNat = value % 256 := by
        rw [UInt8.toNat_ofNat']
        omega
      rw [leBytes, leValue, ih hhigh, hlow]
      omega

theorem leValue_lt (bytes : Bytes) : leValue bytes < 256 ^ bytes.length := by
  induction bytes with
  | nil => simp [leValue]
  | cons byte bytes ih =>
      have hbyte := byte.toNat_lt
      rw [leValue, List.length_cons, pow_succ]
      omega

theorem leBytes_leValue (bytes : Bytes) : leBytes bytes.length (leValue bytes) = bytes := by
  induction bytes with
  | nil => rfl
  | cons byte bytes ih =>
      have hbyte := byte.toNat_lt
      have hlow : (byte.toNat + 256 * leValue bytes) % 256 = byte.toNat := by omega
      have hhigh : (byte.toNat + 256 * leValue bytes) / 256 = leValue bytes := by omega
      rw [leValue, List.length_cons, leBytes, hlow, hhigh, ih, UInt8.ofNat_toNat]

theorem beValue_beBytes (h : value < 256 ^ width) : beValue (beBytes width value) = value := by
  rw [beValue, beBytes, List.reverse_reverse, leValue_leBytes h]

theorem beBytes_beValue (bytes : Bytes) : beBytes bytes.length (beValue bytes) = bytes := by
  rw [beBytes, beValue, ← List.length_reverse, leBytes_leValue, List.reverse_reverse]

theorem beValue_lt (bytes : Bytes) : beValue bytes < 256 ^ bytes.length := by
  simpa [beValue] using leValue_lt bytes.reverse

end Numbers

/-! ### Slices -/

/-- The bytes at an offset. -/
def slice (bytes : Bytes) (offset size : Nat) : Bytes := (bytes.drop offset).take size

section Slices

variable {bytes first rest : Bytes} {offset size : Nat}

theorem length_slice (h : offset + size ≤ bytes.length) : (slice bytes offset size).length = size := by
  simp only [slice, List.length_take, List.length_drop]
  omega

theorem slice_first (h : first.length = size) : slice (first ++ rest) 0 size = first := by
  rw [slice, List.drop_zero, ← h, List.take_left']
  rfl

theorem slice_all (h : bytes.length = size) : slice bytes 0 size = bytes := by
  rw [slice, List.drop_zero, ← h, List.take_length]

theorem slice_append_left (h : offset + size ≤ first.length) :
    slice (first ++ rest) offset size = slice first offset size := by
  rw [slice, List.drop_append_of_le_length (by omega), List.take_append_of_le_length]
  · rfl
  · rw [List.length_drop]
    omega

theorem slice_skip {length : Nat} (h : first.length = length) (offset size : Nat) :
    slice (first ++ rest) (length + offset) size = slice rest offset size := by
  rw [slice, slice, ← h, List.drop_append, List.drop_eq_nil_of_le (Nat.le_add_right _ _), List.nil_append,
    Nat.add_sub_cancel_left]

/-- Two slices in a row. -/
theorem slice_append_slice (bytes : Bytes) (offset size more : Nat) :
    slice bytes offset size ++ slice bytes (offset + size) more = slice bytes offset (size + more) := by
  rw [slice, slice, slice, List.take_add, List.drop_drop]

theorem leBytes_slice (h : offset + size ≤ bytes.length) :
    leBytes size (leValue (slice bytes offset size)) = slice bytes offset size := by
  calc leBytes size (leValue (slice bytes offset size))
      = leBytes (slice bytes offset size).length (leValue (slice bytes offset size)) := by rw [length_slice h]
    _ = slice bytes offset size := leBytes_leValue _

theorem leValue_slice_lt (bytes : Bytes) (offset size : Nat) : leValue (slice bytes offset size) < 256 ^ size := by
  calc leValue (slice bytes offset size)
      < 256 ^ (slice bytes offset size).length := leValue_lt _
    _ ≤ 256 ^ size := Nat.pow_le_pow_right (by omega) (List.length_take_le _ _)

theorem slice_slice (bytes : Bytes) {start length offset size : Nat} (h : offset + size ≤ length) :
    slice (slice bytes start length) offset size = slice bytes (start + offset) size := by
  rw [slice, slice, slice, List.drop_take, List.drop_drop, List.take_take, Nat.min_eq_left (by omega)]

end Slices

/-! ### Reading -/

/-- What can go wrong in a reader of bytes: it reads outside its input, or it does not come to an end. -/
inductive Fault where
  | outsideInput
  | unfinished
  deriving DecidableEq

abbrev Reading (α : Type) := Except Fault α

/-- The bytes of an object in memory. -/
def memcpy (bytes : Bytes) (offset size : Nat) : Reading Bytes :=
  if offset + size ≤ bytes.length then .ok (slice bytes offset size) else .error .outsideInput

/-- An object is copied if the bytes have it. -/
def copyObject (bytes : Bytes) (offset size : Nat) : Reading (Option Bytes) :=
  if bytes.length < offset ∨ bytes.length - offset < size then .ok none
  else (memcpy bytes offset size).map some

theorem memcpy_eq {bytes : Bytes} {offset size : Nat} (h : offset + size ≤ bytes.length) :
    memcpy bytes offset size = .ok (slice bytes offset size) :=
  if_pos h

theorem copyObject_eq (bytes : Bytes) (offset size : Nat) :
    copyObject bytes offset size = .ok (if offset + size ≤ bytes.length then some (slice bytes offset size) else none) := by
  unfold copyObject
  by_cases h : offset + size ≤ bytes.length
  · rw [if_neg (by omega), memcpy_eq h, if_pos h]
    rfl
  · rw [if_pos (by omega), if_neg h]

end FixedWidth
