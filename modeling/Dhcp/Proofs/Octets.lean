import Dhcp.Octets
import Mathlib.Data.List.DropRight

/-!
# Fields as octets

A field of a datagram is a slice of it. A number fills its slice, and a text is padded with zero
octets. This module says what reading and writing of one field do to each other, and which slice of
joined strings is which.

**The law of numbers** (`uint32_ofNat`, `ofNat_uint32`): a number of 32 bits and its four octets
determine each other, and so do a number of 16 bits and its two.

**The law of padding** (`fit_trim`, `trim_fit`): a slot that was read without its padding is padded
back to what it was, and a string that was padded into a slot is read back cut to the slot and
without the zero octets at its end.
-/

namespace Dhcp.Octets

/-! ## Numbers -/

@[simp] theorem uint32_ofNat (n : UInt32) : UInt32.ofNat (toNat (ofNat 4 n.toNat)) = n := by
  have fits : n.toNat < limit 4 := n.toNat_lt
  rw [toNat_ofNat fits, UInt32.ofNat_toNat]

@[simp] theorem uint16_ofNat (n : UInt16) : UInt16.ofNat (toNat (ofNat 2 n.toNat)) = n := by
  have fits : n.toNat < limit 2 := n.toNat_lt
  rw [toNat_ofNat fits, UInt16.ofNat_toNat]

/-- Four octets are those of the number that they are read as. -/
theorem ofNat_uint32 {data : Octets} (h : data.length = 4) :
    ofNat 4 (UInt32.ofNat data.toNat).toNat = data := by
  have fits : data.toNat < limit 4 := h ▸ toNat_lt data
  rw [UInt32.toNat_ofNat_of_lt' fits, ← h, ofNat_toNat]

theorem ofNat_uint16 {data : Octets} (h : data.length = 2) :
    ofNat 2 (UInt16.ofNat data.toNat).toNat = data := by
  have fits : data.toNat < limit 2 := h ▸ toNat_lt data
  rw [UInt16.toNat_ofNat_of_lt' fits, ← h, ofNat_toNat]

theorem toNat_singleton (b : UInt8) : toNat [b] = b.toNat := by
  simp [toNat]

/-! ## Slices -/

@[simp] theorem length_slice (data : Octets) (offset width : Nat) :
    (data.slice offset width).length = min width (data.length - offset) := by
  simp [slice]

/-- A window behind the first part is one of the second part. -/
theorem slice_append_right {a : Octets} {offset : Nat} (b : Octets) (width : Nat)
    (h : a.length ≤ offset) : slice (a ++ b) offset width = slice b (offset - a.length) width := by
  rw [slice, slice, List.drop_append, List.drop_of_length_le h, List.nil_append]

theorem slice_append_left {a : Octets} {width : Nat} (b : Octets) (h : a.length = width) :
    slice (a ++ b) 0 width = a := by
  rw [slice, List.drop_zero, List.take_append_of_le_length (Nat.le_of_eq h.symm),
    List.take_of_length_le (Nat.le_of_eq h)]

/-- Two slices that touch are one. -/
theorem slice_append_slice (data : Octets) {offset w next : Nat} (v : Nat) (h : next = offset + w) :
    data.slice offset w ++ data.slice next v = data.slice offset (w + v) := by
  rw [slice, slice, slice, List.take_add, List.drop_drop, h]

theorem slice_zero (data : Octets) (width : Nat) : data.slice 0 width = data.take width := rfl

/-- A window of one octet holds that octet. -/
theorem slice_one {data : Octets} {offset : Nat} (h : offset < data.length) :
    data.slice offset 1 = [data.getD offset 0] := by
  rw [slice, List.drop_eq_getElem_cons h, List.take_succ_cons, List.take_zero,
    List.getD_eq_getElem?_getD, List.getElem?_eq_getElem h, Option.getD_some]

/-- The front of a window is a narrower window. -/
theorem take_slice {data : Octets} {offset width n : Nat} (h : n ≤ width) :
    (data.slice offset width).take n = data.slice offset n := by
  rw [slice, slice, List.take_take, Nat.min_eq_left h]

/-! ## Padding -/

theorem trim_eq_rdropWhile (data : Octets) :
    data.trim = data.rdropWhile fun b => decide (b = 0) := rfl

/-- What trimming takes away is zero octets. -/
theorem eq_trim_append (data : Octets) : ∃ n, data = data.trim ++ List.replicate n 0 := by
  let zero : UInt8 → Bool := fun b => decide (b = 0)
  refine ⟨(data.rtakeWhile zero).length, ?_⟩
  have zeros : data.rtakeWhile zero = List.replicate (data.rtakeWhile zero).length 0 := by
    apply List.eq_replicate_of_mem
    intro b hb
    simpa [zero] using List.mem_rtakeWhile_imp hb
  rw [← zeros]
  exact (List.rdropWhile_append_rtakeWhile (p := zero)).symm

/-- Zeros at the end make no difference to what is trimmed. -/
theorem trim_append_zeros (data : Octets) (n : Nat) :
    trim (data ++ List.replicate n 0) = data.trim := by
  induction n with
  | zero => simp
  | succ n ih =>
    rw [List.replicate_succ', ← List.append_assoc, trim_eq_rdropWhile,
      List.rdropWhile_concat_pos _ _ _ (by simp), ← trim_eq_rdropWhile, ih]

@[simp] theorem trim_trim (data : Octets) : data.trim.trim = data.trim := by
  rw [trim_eq_rdropWhile data, trim_eq_rdropWhile, List.rdropWhile_idempotent]

theorem length_trim_le (data : Octets) : data.trim.length ≤ data.length := by
  rw [trim_eq_rdropWhile]
  exact (List.rdropWhile_prefix _ _).length_le

/-- Trimming changes nothing where no zero octet stands at the end. -/
theorem trim_eq_self_iff {data : Octets} : data.trim = data ↔ data.getLast? ≠ some 0 := by
  rw [trim_eq_rdropWhile, List.rdropWhile_eq_self_iff]
  cases data with
  | nil => simp
  | cons b rest => simp [List.getLast?_eq_some_getLast]

/-- A slot that was trimmed is padded back. -/
theorem fit_trim {data : Octets} {width : Nat} (h : data.length = width) :
    data.trim.fit width = data := by
  obtain ⟨n, hn⟩ := eq_trim_append data
  have hlen : data.trim.length + n = width := by
    rw [← h]
    conv_rhs => rw [hn]
    simp
  have hpad : width - data.trim.length = n := by omega
  rw [fit, List.take_of_length_le (by omega), hpad, ← hn]

/-- What is left of a string that was padded into a slot and trimmed. -/
theorem trim_fit (data : Octets) (width : Nat) :
    (data.fit width).trim = trim (data.take width) := by
  rw [fit, trim_append_zeros]

theorem length_take_fit (data : Octets) {width n : Nat} (h : n ≤ width) :
    ((data.fit width).take n).length = n := by
  rw [List.length_take, length_fit, Nat.min_eq_left h]

/-- A string is the front of its slot exactly if the front is as long. -/
theorem take_fit_eq_self_iff {data : Octets} {width n : Nat} (h : n ≤ width) :
    (data.fit width).take n = data ↔ n = data.length := by
  constructor
  · intro same
    rw [← same, length_take_fit data h]
  · intro same
    subst same
    rw [fit, List.take_of_length_le h, List.take_left]

/-- A string survives being cut and trimmed exactly if it is short enough and does not end in a zero
octet. -/
theorem trim_take_eq_self_iff {data : Octets} {width : Nat} :
    trim (data.take width) = data ↔ data.length ≤ width ∧ data.getLast? ≠ some 0 := by
  constructor
  · intro same
    have short : data.length ≤ width := by
      calc data.length = (trim (data.take width)).length := by rw [same]
        _ ≤ (data.take width).length := length_trim_le _
        _ ≤ width := List.length_take_le ..
    rw [List.take_of_length_le short] at same
    exact ⟨short, trim_eq_self_iff.mp same⟩
  · rintro ⟨short, last⟩
    rw [List.take_of_length_le short, trim_eq_self_iff.mpr last]
end Dhcp.Octets
