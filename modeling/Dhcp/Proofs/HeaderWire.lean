import Dhcp.Message.Wire
import Dhcp.Proofs.Octets

/-!
# Headers on the wire

A header that is written and read again is not always the header it was. An operation code that is
built as unknown is read as what it means, the hardware address is cut or padded to the length that
the header tells, and names lose what does not fit their slots and the zero octets at their ends.
`Header.normal` is what is left.

**The laws** (`ofOctets_octets`, `octets_ofOctets`): reading the octets of a header gives its normal
form, and writing a header that was read gives back the octets it was read from, but for the octets
of the hardware slot behind the hardware length, which are zero then.
-/

namespace Dhcp

/-- An operation code keeps its meaning on the wire unless it is built as unknown where it is
known. -/
theorem OpCode.ofOctet_toOctet_iff {op : OpCode} :
    ofOctet op.toOctet = op ↔ op ≠ .unknown 1 ∧ op ≠ .unknown 2 := by
  cases op with
  | bootRequest => simp [toOctet, ofOctet]
  | bootReply => simp [toOctet, ofOctet]
  | unknown octet =>
    by_cases one : octet = 1
    · simp [toOctet, ofOctet, one]
    · by_cases two : octet = 2
      · simp [toOctet, ofOctet, two]
      · simp [toOctet, ofOctet, one, two]

namespace Header

/-- What is left of a header that is written and read again. -/
def normal (h : Header) : Header :=
  { h with
    op := OpCode.ofOctet h.op.toOctet
    chaddr := (h.chaddr.fit hardwareWidth).take h.hlen.toNat
    sname := Octets.trim (h.sname.take 64)
    file := Octets.trim (h.file.take 128) }

/-- The third octet is the length of the hardware address. -/
theorem hlen_ofOctets (data : Octets) : (ofOctets data).hlen = data.getD 2 0 := rfl

/-- A header is read back from its octets in normal form, whatever stands behind them. -/
theorem ofOctets_octets (h : Header) (rest : Octets) : ofOctets (h.octets ++ rest) = h.normal := by
  -- Every field stands behind parts of known lengths, so its slice is peeled off part by part.
  simp (disch := simp) only [octets, ofOctets, normal, List.append_assoc, hardwareWidth,
    Octets.slice_append_right, Octets.slice_append_left, Octets.length_ofNat, Octets.length_fit,
    Ipv4.length_octets, List.length_cons, List.length_nil, Nat.reduceAdd, Nat.reduceSub]
  simp [Ipv4.ofOctets_octets, Octets.trim_fit]

/-- A header is read from its own octets alone. -/
theorem ofOctets_append {head : Octets} (whole : head.length = size) (rest : Octets) :
    ofOctets (head ++ rest) = ofOctets head := by
  have whole : head.length = 240 := whole
  have octet (i : Nat) (hi : i < 240) : (head ++ rest).getD i 0 = head.getD i 0 := by
    rw [List.getD_eq_getElem?_getD, List.getD_eq_getElem?_getD,
      List.getElem?_append_left (by omega)]
  have slice (i w : Nat) (hi : i + w ≤ 240) : Octets.slice (head ++ rest) i w = head.slice i w := by
    rw [Octets.slice, Octets.slice, List.drop_append_of_le_length (by omega),
      List.take_append_of_le_length (by rw [List.length_drop]; omega)]
  simp (disch := decide) only [ofOctets, hardwareWidth, octet, slice]

/-- The octets of the header that stands at the front of a datagram: those of the datagram, but for
the octets of the hardware slot that the hardware length leaves out. -/
theorem octets_ofOctets {data : Octets} (long : size ≤ data.length)
    (short : (data.getD 2 0).toNat ≤ hardwareWidth) :
    (ofOctets data).octets =
      data.take 28 ++ (data.slice 28 (data.getD 2 0).toNat).fit hardwareWidth ++
        data.slice 44 196 := by
  have long : 240 ≤ data.length := long
  have one (i : Nat) (hi : i < 240) : [data.getD i 0] = data.slice i 1 :=
    (Octets.slice_one (Nat.lt_of_lt_of_le hi long)).symm
  have width (i w : Nat) (hi : i + w ≤ 240) : (data.slice i w).length = w := by
    rw [Octets.length_slice]
    omega
  have tags : [data.getD 0 0, data.getD 1 0, data.getD 2 0, data.getD 3 0] = data.slice 0 4 := by
    calc [data.getD 0 0, data.getD 1 0, data.getD 2 0, data.getD 3 0]
        = [data.getD 0 0] ++ [data.getD 1 0] ++ [data.getD 2 0] ++ [data.getD 3 0] := rfl
      _ = data.slice 0 4 := by
        rw [one 0 (by decide), one 1 (by decide), one 2 (by decide), one 3 (by decide)]
        simp only [Octets.slice_append_slice, Nat.reduceAdd]
  have front : data.slice 0 4 ++ data.slice 4 4 ++ data.slice 8 2 ++
      data.slice 10 2 ++ data.slice 12 4 ++ data.slice 16 4 ++ data.slice 20 4 ++
      data.slice 24 4 = data.take 28 := by
    rw [← Octets.slice_zero]
    simp only [Octets.slice_append_slice, Nat.reduceAdd]
  have back : data.slice 44 64 ++ (data.slice 108 128 ++ data.slice 236 4) = data.slice 44 196 := by
    simp only [Octets.slice_append_slice, Nat.reduceAdd]
  simp only [octets, ofOctets, OpCode.toOctet_ofOctet, tags, Octets.take_slice short,
    Octets.ofNat_uint32 (width 4 4 (by decide)), Octets.ofNat_uint16 (width 8 2 (by decide)),
    Octets.ofNat_uint16 (width 10 2 (by decide)), Ipv4.octets_ofOctets (width 12 4 (by decide)),
    Ipv4.octets_ofOctets (width 16 4 (by decide)), Ipv4.octets_ofOctets (width 20 4 (by decide)),
    Ipv4.octets_ofOctets (width 24 4 (by decide)), Octets.fit_trim (width 44 64 (by decide)),
    Octets.fit_trim (width 108 128 (by decide)), Octets.ofNat_uint32 (width 236 4 (by decide))]
  rw [front, List.append_assoc, List.append_assoc, back]

/-! ## Normal headers -/

/-- A header that keeps everything on the wire: its operation code is not built as unknown where it
is known, its hardware length tells the length of its hardware address, and its names fit their
slots and do not end in a zero octet. -/
structure Plain (h : Header) : Prop where
  notRequest : h.op ≠ .unknown 1
  notReply : h.op ≠ .unknown 2
  hlen : h.hlen.toNat = h.chaddr.length
  sname : h.sname.length ≤ 64
  snameEnd : h.sname.getLast? ≠ some 0
  file : h.file.length ≤ 128
  fileEnd : h.file.getLast? ≠ some 0

/-- A header is its own normal form exactly if it is plain. -/
theorem normal_eq_self_iff {h : Header} (short : h.hlen.toNat ≤ hardwareWidth) :
    h.normal = h ↔ h.Plain := by
  have fields : h.normal = h ↔ OpCode.ofOctet h.op.toOctet = h.op ∧
      (h.chaddr.fit hardwareWidth).take h.hlen.toNat = h.chaddr ∧
      Octets.trim (h.sname.take 64) = h.sname ∧ Octets.trim (h.file.take 128) = h.file := by
    cases h
    simp [normal]
  rw [fields, OpCode.ofOctet_toOctet_iff, Octets.take_fit_eq_self_iff short,
    Octets.trim_take_eq_self_iff, Octets.trim_take_eq_self_iff]
  constructor
  · rintro ⟨⟨notRequest, notReply⟩, hlen, ⟨sname, snameEnd⟩, ⟨file, fileEnd⟩⟩
    exact ⟨notRequest, notReply, hlen, sname, snameEnd, file, fileEnd⟩
  · intro plain
    exact ⟨⟨plain.notRequest, plain.notReply⟩, plain.hlen, ⟨plain.sname, plain.snameEnd⟩,
      ⟨plain.file, plain.fileEnd⟩⟩

/-- A header that was read is plain. -/
theorem plain_ofOctets {data : Octets} (long : size ≤ data.length)
    (short : (data.getD 2 0).toNat ≤ hardwareWidth) : (ofOctets data).Plain := by
  have long : 240 ≤ data.length := long
  have fits : (data.getD 2 0).toNat ≤ 16 := short
  have op := OpCode.ofOctet_toOctet_iff.mp (congrArg OpCode.ofOctet
    (OpCode.toOctet_ofOctet (data.getD 0 0)))
  have hlen : (data.getD 2 0).toNat = ((data.slice 28 16).take (data.getD 2 0).toNat).length := by
    rw [List.length_take, Octets.length_slice]
    omega
  have name (offset width : Nat) : (data.slice offset width).trim.length ≤ width ∧
      (data.slice offset width).trim.getLast? ≠ some 0 := by
    refine ⟨?_, Octets.trim_eq_self_iff.mp (Octets.trim_trim _)⟩
    calc (data.slice offset width).trim.length
        ≤ (data.slice offset width).length := Octets.length_trim_le _
      _ ≤ width := by
        rw [Octets.length_slice]
        exact Nat.min_le_left ..
  exact ⟨op.1, op.2, hlen, (name 44 64).1, (name 44 64).2, (name 108 128).1, (name 108 128).2⟩

end Header

end Dhcp
