import Dhcp.Message.Text
import Dhcp.Proofs.LossyText
import Dhcp.Proofs.MessageGrammar
import Mathlib.Algebra.Ring.Nat

/-!
# The lines of a dump

A message is shown to a reader as lines: a title, one for each of the fifteen fields of its header,
a heading, and one for each option in ascending order. Most of what is shown came from the network.
Numbers, addresses and octets are shown as digits and the texts of options between quotation marks,
so none of them can break its line. The two names of the header are shown as they came.

**The law** (`Message.dump_of_datagram`): the text of a message that a datagram holds has one line
feed for each of its lines, and one more for each line feed in the two slots for names. So it is
split into its lines exactly if these slots hold no line feed, whatever the options hold.

**What does not hold** (`Message.dump_forged`): that a datagram cannot forge lines of the dump. A
name with a line feed adds a line, which can look like any line of the dump.

A line ends in a line feed here. What else a terminal may take for the end of a line is not spoken
of.
-/

namespace Dhcp

/-! ## Texts of one line -/

/-- The line feeds in a text. -/
def lineFeeds (s : String) : Nat := s.toList.count '\n'

/-- A text that does not break its line. -/
def OneLine (s : String) : Prop := lineFeeds s = 0

instance (s : String) : Decidable (OneLine s) := inferInstanceAs (Decidable (lineFeeds s = 0))

theorem lineFeeds_append (s t : String) : lineFeeds (s ++ t) = lineFeeds s + lineFeeds t := by
  rw [lineFeeds, String.toList_append, List.count_append]
  rfl

/-- A text is one line exactly if no character of it is a line feed. -/
theorem oneLine_iff {s : String} : OneLine s ↔ '\n' ∉ s.toList := List.count_eq_zero

theorem digitChar_ne (n : Nat) : n.digitChar ≠ '\n' := by simp

/-- The digits of a number are no line feeds. -/
theorem lineFeed_not_mem_toDigits {base : Nat} (large : 1 < base) (n : Nat) :
    '\n' ∉ Nat.toDigits base n := by
  induction n using Nat.strongRecOn with
  | ind n ih =>
    rw [Nat.toDigits_eq_if large]
    split
    · rw [List.mem_singleton]
      exact (digitChar_ne n).symm
    · next several =>
      rw [List.mem_append, List.mem_singleton, not_or]
      have smaller : n / base < n := Nat.div_lt_self (by omega) large
      exact ⟨ih (n / base) smaller, (digitChar_ne _).symm⟩

namespace OneLine

theorem append {s t : String} (hs : OneLine s) (ht : OneLine t) : OneLine (s ++ t) := by
  rw [OneLine, lineFeeds_append, hs, ht]

theorem ofList {cs : List Char} (each : ∀ c ∈ cs, c ≠ '\n') : OneLine (String.ofList cs) := by
  rw [oneLine_iff, String.toList_ofList]
  exact fun mem => each _ mem rfl

/-- Lines with a line between them are one line. -/
theorem intercalate {separator : String} (between : OneLine separator) {parts : List String}
    (each : ∀ s ∈ parts, OneLine s) : OneLine (separator.intercalate parts) := by
  induction parts with
  | nil => rfl
  | cons s parts ih =>
    obtain ⟨first, each⟩ := List.forall_mem_cons.mp each
    cases parts with
    | nil => rwa [String.intercalate_singleton]
    | cons t parts =>
      rw [String.intercalate_cons_cons]
      exact (first.append between).append (ih each)

theorem natural (n : Nat) : OneLine (toString n) := by
  rw [oneLine_iff, Nat.toString_eq_ofList_toDigits, String.toList_ofList]
  exact lineFeed_not_mem_toDigits (by decide) n

/-- Octets in hexadecimal are one line. -/
theorem hex (data : Octets) {separator : String} (between : OneLine separator) :
    OneLine (data.hex separator) := by
  apply between.intercalate
  refine List.forall_mem_map.mpr fun b _ => ?_
  exact .ofList (List.forall_mem_cons.mpr
    ⟨digitChar_ne _, List.forall_mem_singleton.mpr (digitChar_ne _)⟩)

theorem ipv4 (addr : Ipv4) : OneLine addr.text :=
  .intercalate (by decide) (List.forall_mem_map.mpr fun b _ => natural b.toNat)

/-- No character becomes a line feed in upper case. -/
theorem toUpper_ne {c : Char} (h : c ≠ '\n') : c.toUpper ≠ '\n' := by
  intro same
  unfold Char.toUpper at same
  split at same
  · next small =>
    have above : 97 ≤ c.val.toNat := small.1
    have below : c.val.toNat ≤ 122 := small.2
    have code := congrArg (fun d : Char => d.val.toNat) same
    have shift : ('A'.val - 'a'.val).toNat = 4294967264 := by decide
    have feed : '\n'.val.toNat = 10 := by decide
    simp only [UInt32.toNat_add, shift, feed] at code
    omega
  · exact h same

theorem map_toUpper {s : String} (h : OneLine s) : OneLine (s.map Char.toUpper) := by
  rw [oneLine_iff] at *
  rw [String.toList_map, List.mem_map]
  rintro ⟨c, mem, upper⟩
  exact toUpper_ne (fun same => h (same ▸ mem)) upper

/-- No escape contains a line feed, and what needs none is none. -/
theorem ne_of_mem_escape {c d : Char} (mem : d ∈ Text.escape c) : d ≠ '\n' := by
  rintro rfl
  unfold Text.escape at mem
  split at mem
  case h_7 _ _ notFeed _ _ _ =>
    split at mem
    · simp only [List.mem_append] at mem
      rcases mem with (mem | mem) | mem
      · exact absurd mem (by decide)
      · exact lineFeed_not_mem_toDigits (by decide) _ mem
      · exact absurd mem (by decide)
    · exact notFeed (List.mem_singleton.mp mem).symm
  all_goals exact absurd mem (by decide)

/-- Whatever a text contains, it is quoted on one line. -/
theorem quoted (s : String) : OneLine (Text.quoted s) := by
  apply ofList
  refine List.forall_mem_append.mpr ⟨List.forall_mem_cons.mpr ⟨by decide, ?_⟩,
    List.forall_mem_singleton.mpr (by decide)⟩
  intro d mem
  obtain ⟨c, -, escaped⟩ := List.mem_flatMap.mp mem
  exact ne_of_mem_escape escaped

theorem opCode (op : OpCode) : OneLine op.text := by
  cases op with
  | bootRequest => decide
  | bootReply => decide
  | unknown octet => exact (append (by decide) (natural octet.toNat)).append (by decide)

theorem messageType (type : MessageType) : OneLine type.text := by
  have name : OneLine type.name := by
    cases type with
    | unknown octet => exact (append (by decide) (natural octet.toNat)).append (by decide)
    | _ => decide
  unfold MessageType.text
  split
  · exact name.map_toUpper
  · exact append (by decide) name.map_toUpper

theorem name (o : Opt) : OneLine o.name := by
  unfold Opt.name
  split
  · next f _ =>
    have all : ∀ f ∈ Format.all, OneLine f.name := by decide
    exact all f (Format.mem_all f)
  · decide

/-- No value of an option breaks its line: numbers and addresses are digits, octets are digits in
hexadecimal, and texts are quoted. -/
theorem valueText (o : Opt) : OneLine o.valueText := by
  cases o with
  | address use addr => exact ipv4 addr
  | addresses use addrs =>
    exact intercalate (by decide) (List.forall_mem_map.mpr fun addr _ => ipv4 addr)
  | text use value => exact quoted value
  | seconds use secs => exact (natural secs.toNat).append (by decide)
  | messageType value => exact messageType value
  | parameterRequestList codes =>
    exact intercalate (by decide) (List.forall_mem_map.mpr fun code _ => natural code.toNat)
  | maximumMessageSize size => exact (natural size.toNat).append (by decide)
  | clientIdentifier kind id =>
    exact ((append (by decide) (natural kind.toNat)).append (by decide)).append
      (hex id (by decide))
  | raw code data =>
    exact ((natural data.length).append (by decide)).append (hex data (by decide))

/-- The description of an option is one line, whatever its payload is. -/
theorem describe (o : Opt) : OneLine o.describe :=
  ((((name o).append (by decide)).append (natural o.code.toNat)).append (by decide)).append
    (valueText o)

end OneLine

/-! ## Headers -/

/-- Octets that are read as a text, with replacements, have a line feed for each octet of that code.
-/
theorem lineFeeds_lossyText (data : Octets) : lineFeeds data.lossyText = data.count 10 := by
  rw [lineFeeds, Octets.lossyText, String.toList_ofList, Octets.count_lossyChars]

namespace Header

variable (h : Header)

/-- The labels of the header fields are lines. -/
theorem oneLine_label : ∀ field ∈ h.fields, OneLine field.1 := by
  have labels : ∀ label ∈ h.fields.map Prod.fst, OneLine label := by
    simp only [fields, List.map_cons, List.map_nil]
    decide
  exact fun field mem => labels field.1 (List.mem_map_of_mem mem)

/-- Of the values in a header, only the names can break their lines. -/
theorem lineFeeds_values :
    (h.fields.map fun field => lineFeeds field.2).sum = h.sname.count 10 + h.file.count 10 := by
  have none {s : String} (one : OneLine s) : lineFeeds s = 0 := one
  have number (width n : Nat) : OneLine (hexNumber width n) :=
    .append (by decide) (.hex _ (by decide))
  have colons (data : Octets) : OneLine (data.hex ":") := .hex data (by decide)
  have digits (data : Octets) : OneLine (data.hex "") := .hex data (by decide)
  simp only [fields, List.map_cons, List.map_nil, List.sum_cons, List.sum_nil, lineFeeds_lossyText,
    none (.opCode _), none (.natural _), none (number _ _), none (.ipv4 _), none (colons _),
    none (digits _), Nat.zero_add, Nat.add_zero]

/-- Of the fields of a header only its two names can bring line feeds. -/
theorem lineFeeds_fields :
    (h.fields.map fun field => lineFeeds ("  " ++ field.1 ++ ": " ++ field.2)).sum =
      h.sname.count 10 + h.file.count 10 := by
  rw [← h.lineFeeds_values]
  refine congrArg List.sum (List.map_congr_left fun field mem => ?_)
  have label : OneLine ("  " ++ field.1 ++ ": ") :=
    (OneLine.append (by decide) (h.oneLine_label field mem)).append (by decide)
  rw [lineFeeds_append, label, Nat.zero_add]

end Header

/-! ## Texts of several lines -/

/-- Texts that each end a line have a line feed each and those of their own. -/
theorem lineFeeds_join (ls : List String) :
    lineFeeds (String.join (ls.map (· ++ "\n"))) = ls.length + (ls.map lineFeeds).sum := by
  induction ls with
  | nil => rfl
  | cons s ls ih =>
    have own : lineFeeds "\n" = 1 := by decide
    rw [List.map_cons, String.join_cons, lineFeeds_append, lineFeeds_append, ih, own,
      List.length_cons, List.map_cons, List.sum_cons]
    omega

/-- What stands between the line feeds is what stands between those of the single lines. -/
theorem splitOn_join (ls : List String) :
    (String.join (ls.map (· ++ "\n"))).toList.splitOn '\n' =
      (ls.flatMap fun s => s.toList.splitOn '\n') ++ [[]] := by
  induction ls with
  | nil => rfl
  | cons s ls ih =>
    have front : (String.join ((s :: ls).map (· ++ "\n"))).toList =
        s.toList ++ '\n' :: (String.join (ls.map (· ++ "\n"))).toList := by
      rw [List.map_cons, String.join_cons, String.toList_append, String.toList_append,
        List.append_assoc]
      rfl
    rw [front, List.splitOn_append_cons_self, ih, List.flatMap_cons, List.append_assoc]

/-- Lines that do not break are found again. -/
theorem splitOn_join_of_oneLine {ls : List String} (each : ∀ s ∈ ls, OneLine s) :
    (String.join (ls.map (· ++ "\n"))).toList.splitOn '\n' = ls.map String.toList ++ [[]] := by
  have single (s : String) (mem : s ∈ ls) : s.toList.splitOn '\n' = [s.toList] :=
    List.splitOn_eq_singleton (oneLine_iff.mp (each s mem))
  rw [splitOn_join, List.flatMap_congr single, List.map_eq_flatMap]

theorem length_splitOn (l : List Char) (c : Char) : (l.splitOn c).length = l.count c + 1 := by
  induction l with
  | nil => rfl
  | cons d l ih =>
    rw [List.splitOn_cons_eq_if_modifyHead, List.count_cons]
    split
    · rw [List.length_cons, ih]
    · rw [List.length_modifyHead, ih, Nat.add_zero]

/-! ## The text of a message -/

namespace Message

variable (m : Message)

/-- A dump has seventeen lines and one for each option. -/
theorem length_lines : m.lines.length = 17 + m.options.toList.length := by
  simp [lines, Header.fields]
  omega

/-- Only the two names can break their lines. -/
theorem lineFeeds_lines : (m.lines.map lineFeeds).sum = m.sname.count 10 + m.file.count 10 := by
  have title : OneLine "DHCP Message:" := by decide
  have heading : OneLine "  Options:" := by decide
  have options :
      ∀ n ∈ (m.options.toList.map fun o => "    " ++ o.describe).map lineFeeds, n = 0 := by
    rw [List.map_map]
    exact List.forall_mem_map.mpr fun o _ => OneLine.append (by decide) (.describe o)
  calc (m.lines.map lineFeeds).sum
      = lineFeeds "DHCP Message:" + (m.toHeader.fields.map fun field =>
          lineFeeds ("  " ++ field.1 ++ ": " ++ field.2)).sum + (lineFeeds "  Options:" +
          ((m.options.toList.map fun o => "    " ++ o.describe).map lineFeeds).sum) := by
        simp only [lines, List.map_append, List.map_cons, List.sum_append, List.sum_cons,
          List.map_map, Function.comp_def]
    _ = m.sname.count 10 + m.file.count 10 := by
        rw [title, heading, m.toHeader.lineFeeds_fields,
          List.sum_eq_zero_iff_forall_eq_nat.mpr options]
        omega

/-- A dump has a line feed for each of its lines and for each line feed in the names of the header.
-/
theorem lineFeeds_text :
    lineFeeds m.text = m.lines.length + (m.sname.count 10 + m.file.count 10) := by
  rw [text, lineFeeds_join, lineFeeds_lines]

/-- The text is split into its lines exactly if no name breaks its line. -/
theorem splitOn_text_iff :
    m.text.toList.splitOn '\n' = m.lines.map String.toList ++ [[]] ↔
      m.sname.count 10 + m.file.count 10 = 0 := by
  constructor
  · intro same
    have pieces := congrArg List.length same
    rw [length_splitOn, List.length_append, List.length_map, List.length_singleton] at pieces
    have all := m.lineFeeds_text
    unfold lineFeeds at all
    omega
  · intro whole
    rw [← lineFeeds_lines, List.sum_eq_zero_iff_forall_eq_nat] at whole
    exact splitOn_join_of_oneLine fun s mem => whole _ (List.mem_map_of_mem mem)

/-- Padding holds no line feed. -/
theorem count_trim (data : Octets) : data.trim.count 10 = data.count 10 := by
  obtain ⟨n, padded⟩ := Octets.eq_trim_append data
  have zeros : (List.replicate n (0 : UInt8)).count 10 = 0 := by
    rw [List.count_replicate]
    rfl
  calc data.trim.count 10
      = data.trim.count 10 + (List.replicate n (0 : UInt8)).count 10 := by rw [zeros, Nat.add_zero]
    _ = data.count 10 := by rw [← List.count_append, ← padded]

/-- The text of a message that a datagram holds has a title, fifteen fields and a heading, and then
one line for each option. It has one line feed for each of these lines and one for each line feed
among the octets of the two names, and no others: a lossy reading of a name makes none and loses
none. So what stands between the line feeds is exactly these lines, in their order, if and only if
no octet of the slots for names is a line feed. -/
theorem dump_of_datagram {data : Octets} {m : Message} (decoded : decode data = .ok m) :
    m.lines.length = 17 + m.options.toList.length ∧
    m.text.toList.count '\n' = m.lines.length + (data.slice 44 192).count 10 ∧
    (m.text.toList.splitOn '\n' = m.lines.map String.toList ++ [[]] ↔
      10 ∉ data.slice 44 192) := by
  have names : m.sname.count 10 + m.file.count 10 = (data.slice 44 192).count 10 := by
    rw [toHeader_of_decodeWith decoded]
    calc (Header.ofOctets data).sname.count 10 + (Header.ofOctets data).file.count 10
        = (data.slice 44 64).count 10 + (data.slice 108 128).count 10 :=
          congrArg₂ (· + ·) (count_trim _) (count_trim _)
      _ = (data.slice 44 192).count 10 := by
          rw [← List.count_append, Octets.slice_append_slice data 128 rfl]
  refine ⟨m.length_lines, ?_, ?_⟩
  · rw [← names]
    exact m.lineFeeds_text
  · rw [m.splitOn_text_iff, names, List.count_eq_zero]

/-- A host name with a line feed does not break the line of its option. -/
theorem dump_of_datagram_plain :
    let data : Octets := List.replicate 240 0 ++ [12, 2, 10, 104, 53, 1, 3, 255]
    ∃ m, decode data = .ok m ∧
      m.text.toList.splitOn '\n' = m.lines.map String.toList ++ [[]] := by
  intro data
  obtain ⟨m, decoded⟩ : ∃ m, decode data = .ok m := exists_of_readable (by decide +kernel)
  obtain ⟨-, -, split⟩ := dump_of_datagram decoded
  exact ⟨m, decoded, split.mpr (by decide)⟩

/-- A datagram without options whose name for the server holds a line feed and the heading of the
options: the heading is seen before the name of the boot file. -/
theorem dump_forged :
    let name : Octets := Octets.ofText "a\n  Options:"
    let data : Octets := [2, 1, 6] ++ List.replicate 41 0 ++ name.fit 64 ++ List.replicate 128 0 ++
      [0x63, 0x82, 0x53, 0x63, 255]
    ∃ m, decode data = .ok m ∧ m.options.toList = [] ∧ m.text.toList.count '\n' = 18 ∧
      (m.text.toList.splitOn '\n')[14]? = some "  Options:".toList := by
  intro name data
  let m : Message := { Header.ofOctets data with options := .empty }
  have decoded : decode data = .ok m := by decide +kernel
  refine ⟨m, decoded, rfl, ?_, ?_⟩
  · calc m.text.toList.count '\n'
        = m.lines.length + (m.sname.count 10 + m.file.count 10) := m.lineFeeds_text
      _ = 18 := by decide +kernel
  · rw [text, splitOn_join]
    decide +kernel

end Message

end Dhcp
