import Dhcp.Message.Area
import Dhcp.Proofs.OptionMap
import Mathlib.Data.List.Forall2

/-!
# The grammar of an option area

What an option area may hold is said here without reading it: a sequence of items, each a pad octet
or a whole triple, and behind them the end of the data or the octet 255 with anything behind that.
What may stand behind some items instead is said by `Area.Fails`, with the fault it comes to: a code
without a length, a payload that is cut short, or a triple that the registry refuses.

**The laws** (`Area.decode_of_ends`, `Area.decode_of_fails`, `Area.ends_or_fails`): an area whose
triples are all accepted up to a proper end decodes to the last option of each code, one whose
triples are all accepted up to a failing item decodes to the fault of that item, and every area is
one or the other. So the fault that is reported is the leftmost.
-/

namespace Dhcp

/-! ## Items -/

namespace Triple

/-- Triples that can stand in an option area: the code is none of the two that frame the area, and
the length fits the length octet. -/
structure Framed (t : Triple) : Prop where
  notPad : t.code ≠ 0
  notEnd : t.code ≠ 255
  fits : t.payload.length ≤ 255

/-- The octets of a triple. -/
def octets (t : Triple) : Octets := t.code :: UInt8.ofNat t.payload.length :: t.payload

theorem length_octets (t : Triple) : t.octets.length = 2 + t.payload.length := by
  simp only [octets, List.length_cons]
  omega

/-- The length octet holds the length. -/
theorem Framed.toNat_length {t : Triple} (framed : t.Framed) :
    (UInt8.ofNat t.payload.length).toNat = t.payload.length :=
  UInt8.toNat_ofNat_of_lt' (Nat.lt_succ_of_le framed.fits)

end Triple

/-- A piece of an option area. -/
inductive Item where
  | pad
  | triple (t : Triple) (framed : t.Framed)

namespace Item

/-- The octets of an item. -/
def octets : Item → Octets
  | pad => [0]
  | triple t _ => t.octets

/-- The triple that an item is, if it is one. -/
def triple? : Item → Option Triple
  | pad => none
  | triple t _ => some t

/-- The octets of items, one after another. -/
def write (items : List Item) : Octets := items.flatMap octets

/-- The triples among items. -/
def triples (items : List Item) : List Triple := items.filterMap triple?

@[simp] theorem write_nil : write [] = [] := rfl

@[simp] theorem write_cons (item : Item) (items : List Item) :
    write (item :: items) = item.octets ++ write items := rfl

@[simp] theorem write_append (items more : List Item) :
    write (items ++ more) = write items ++ write more := List.flatMap_append

@[simp] theorem triples_nil : triples [] = [] := rfl

@[simp] theorem triples_pad (items : List Item) : triples (pad :: items) = triples items := rfl

@[simp] theorem triples_triple (t : Triple) (framed : t.Framed) (items : List Item) :
    triples (triple t framed :: items) = t :: triples items := rfl

@[simp] theorem triples_append (items more : List Item) :
    triples (items ++ more) = triples items ++ triples more := List.filterMap_append

/-- The octets of items, seen from one of the triples among them. -/
theorem write_at (before : List Item) {t : Triple} (framed : t.Framed) (after : List Item)
    (tail : Octets) :
    write (before ++ triple t framed :: after) ++ tail =
      write before ++ (t.octets ++ (write after ++ tail)) := by
  rw [write_append, write_cons, octets, List.append_assoc, List.append_assoc]

/-- The triples of items can stand in an area, as items hold no others. -/
theorem framed_of_mem {items : List Item} {t : Triple} (mem : t ∈ triples items) : t.Framed := by
  obtain ⟨item, -, same⟩ := List.mem_filterMap.mp mem
  cases item with
  | pad => cases same
  | triple u framed =>
    cases same
    exact framed

end Item

/-! ## Ends and failures -/

/-- A registry makes an option of a triple. -/
def Registry.Accepts (r : Registry) (t : Triple) : Prop :=
  ∃ o, r.decode t.code t.payload = .ok o

namespace Area

/-- What properly ends an option area. -/
inductive Ends : Octets → Prop where
  | data : Ends []
  | marker (rest : Octets) : Ends (255 :: rest)

/-- What stands at the front of an area and fails, with the fault that it is. -/
inductive Fails (r : Registry) : Octets → WireFault → Prop where
  /-- A code has no length behind it. -/
  | noLength {code : UInt8} (notPad : code ≠ 0) (notEnd : code ≠ 255) :
      Fails r [code] (.truncated 1 0)
  /-- Fewer octets are left than the length tells. -/
  | short {code length : UInt8} {rest : Octets} (notPad : code ≠ 0) (notEnd : code ≠ 255)
      (few : rest.length < length.toNat) :
      Fails r (code :: length :: rest) (.truncated length.toNat rest.length)
  /-- The registry refuses a triple. -/
  | refused {t : Triple} {rest : Octets} {fault : WireFault} (framed : t.Framed)
      (refused : r.decode t.code t.payload = .error fault) : Fails r (t.octets ++ rest) fault

/-- The last of the triples with a code. -/
def lastUnder (code : UInt8) (ts : List Triple) : Option Triple :=
  ts.reverse.find? fun t => t.code = code

theorem mem_of_lastUnder {code : UInt8} {ts : List Triple} {t : Triple}
    (last : lastUnder code ts = some t) : t ∈ ts ∧ t.code = code :=
  ⟨List.mem_reverse.mp (List.mem_of_find?_eq_some last), by simpa using List.find?_some last⟩

theorem exists_lastUnder {ts : List Triple} {t : Triple} (mem : t ∈ ts) :
    ∃ u, lastUnder t.code ts = some u := by
  rw [← Option.isSome_iff_exists, lastUnder, List.find?_isSome]
  exact ⟨t, List.mem_reverse.mpr mem, by simp⟩

/-- Among triples with codes of their own, the last with a code is the one that is there. -/
theorem lastUnder_eq_some_iff {ts : List Triple} (distinct : ts.Pairwise fun t u => t.code ≠ u.code)
    {code : UInt8} {t : Triple} : lastUnder code ts = some t ↔ t ∈ ts ∧ t.code = code :=
  find?_reverse_key_eq_some_iff distinct

/-! ## Cutting -/

/-- At the end of an area nothing is read and nothing is wrong. -/
theorem read_of_ends {tail : Octets} (ends : Ends tail) : read tail = ⟨[], none⟩ := by
  cases ends with
  | data => simp [read]
  | marker rest =>
    rw [read.eq_def]
    rfl

theorem read_noLength {code : UInt8} (notPad : code ≠ 0) (notEnd : code ≠ 255) :
    read [code] = ⟨[], some (.truncated 1 0)⟩ := by
  rw [read.eq_def]
  simp [notPad, notEnd]

theorem read_short {code length : UInt8} {rest : Octets} (notPad : code ≠ 0) (notEnd : code ≠ 255)
    (few : rest.length < length.toNat) :
    read (code :: length :: rest) = ⟨[], some (.truncated length.toNat rest.length)⟩ := by
  have left : (rest.take length.toNat).length = rest.length := by
    rw [List.length_take]
    omega
  rw [read]
  simp [notPad, notEnd, left, few]

/-- A triple that stands in front is read first. -/
theorem read_triple {t : Triple} (framed : t.Framed) (rest : Octets) :
    read (t.octets ++ rest) = (read rest).push t := by
  rw [Triple.octets, List.cons_append, List.cons_append, read]
  simp [framed.notPad, framed.notEnd, framed.toNat_length]

/-- Items are cut off one after another, whatever stands behind them. -/
theorem read_write (items : List Item) (tail : Octets) :
    read (Item.write items ++ tail) =
      ⟨Item.triples items ++ (read tail).triples, (read tail).fault?⟩ := by
  induction items with
  | nil => rfl
  | cons item items ih =>
    cases item with
    | pad =>
      have skip : read (0 :: (Item.write items ++ tail)) = read (Item.write items ++ tail) := by
        rw [read.eq_def]
        simp
      exact skip.trans ih
    | triple t framed =>
      rw [Item.write_cons, List.append_assoc, Item.octets, read_triple framed, ih]
      rfl

/-- Items in front of an end are read back exactly. -/
theorem read_write_of_ends (items : List Item) {tail : Octets} (ends : Ends tail) :
    read (Item.write items ++ tail) = ⟨Item.triples items, none⟩ := by
  rw [read_write, read_of_ends ends, List.append_nil]

/-- Every area is a sequence of items with an end or a break of its framing behind them. -/
theorem exists_items (area : Octets) :
    ∃ items tail, area = Item.write items ++ tail ∧
      (Ends tail ∨ ∃ fault, ∀ r, Fails r tail fault) := by
  fun_induction read area with
  | case1 => exact ⟨[], [], rfl, .inl .data⟩
  | case2 rest => exact ⟨[], 255 :: rest, rfl, .inl (.marker rest)⟩
  | case3 rest _ ih =>
    obtain ⟨items, tail, rfl, last⟩ := ih
    exact ⟨.pad :: items, tail, rfl, last⟩
  | case4 code notEnd notPad =>
    exact ⟨[], [code], rfl, .inr ⟨_, fun _ => .noLength notPad notEnd⟩⟩
  | case5 code notEnd notPad length rest payload few =>
    have few : rest.length < length.toNat := by
      simp only [payload, List.length_take] at few
      omega
    exact ⟨[], code :: length :: rest, rfl, .inr ⟨_, fun _ => .short notPad notEnd few⟩⟩
  | case6 code notEnd notPad length rest payload enough ih =>
    obtain ⟨items, tail, behind, last⟩ := ih
    have whole : payload.length = length.toNat := by
      simp only [payload, List.length_take] at enough ⊢
      omega
    have framed : Triple.Framed ⟨code, payload⟩ :=
      ⟨notPad, notEnd, whole ▸ Nat.le_of_lt_succ length.toNat_lt⟩
    refine ⟨.triple ⟨code, payload⟩ framed :: items, tail, ?_, last⟩
    have split : rest = payload ++ (Item.write items ++ tail) := by
      rw [← behind, List.take_append_drop]
    rw [Item.write_cons, List.append_assoc, Item.octets, Triple.octets, whole, UInt8.ofNat_toNat,
      List.cons_append, List.cons_append, ← split]

/-! ## Decoding -/

/-- The options that a registry makes of triples, each of its own. -/
abbrev Decoded (r : Registry) (ts : List Triple) (opts : List Opt) : Prop :=
  List.Forall₂ (fun t o => r.decode t.code t.payload = .ok o) ts opts

variable {r : Registry}

/-- Triples that a registry accepts decode to options, one each. -/
theorem exists_decoded {ts : List Triple} (accepted : ∀ t ∈ ts, r.Accepts t) :
    ∃ opts, Decoded r ts opts := by
  induction ts with
  | nil => exact ⟨[], .nil⟩
  | cons t ts ih =>
    obtain ⟨o, made⟩ := accepted t List.mem_cons_self
    obtain ⟨opts, decoded⟩ := ih fun u mem => accepted u (List.mem_cons_of_mem _ mem)
    exact ⟨o :: opts, .cons made decoded⟩

/-- Collecting puts the decoded options in from left to right. -/
theorem collect_of_decoded {ts : List Triple} {opts : List Opt} (decoded : Decoded r ts opts)
    (os : Options) : collect r ts os = .ok (opts.foldl Options.insert os) := by
  induction decoded generalizing os with
  | nil => rfl
  | cons made _ ih => simp only [collect, made, ih, List.foldl_cons]

/-- A refused triple is the fault, whatever stands behind it. -/
theorem collect_refused {before : List Triple} (accepted : ∀ t ∈ before, r.Accepts t) {t : Triple}
    {fault : WireFault} (refused : r.decode t.code t.payload = .error fault) (after : List Triple)
    (os : Options) : collect r (before ++ t :: after) os = .error fault := by
  induction before generalizing os with
  | nil => simp only [List.nil_append, collect, refused]
  | cons u before ih =>
    obtain ⟨o, made⟩ := accepted u List.mem_cons_self
    simp only [List.cons_append, collect, made]
    exact ih (fun u mem => accepted u (List.mem_cons_of_mem _ mem)) _

/-- The option that is found under a code is what the triple that is found under it decodes to. -/
theorem find?_of_decoded {ts : List Triple} {opts : List Opt} (decoded : Decoded r ts opts)
    (code : UInt8) :
    opts.find? (fun o => o.code = code) =
      (ts.find? fun t => t.code = code).bind fun t => (r.decode t.code t.payload).toOption := by
  induction decoded with
  | nil => rfl
  | @cons t o ts opts made _ ih =>
    have same : o.code = t.code := Registry.code_decode made
    by_cases here : t.code = code
    · have found : o.code = code := same.trans here
      rw [List.find?_cons_of_pos (by simpa using found),
        List.find?_cons_of_pos (by simpa using here), Option.bind_some, made]
      rfl
    · have other : o.code ≠ code := fun found => here (same.symm.trans found)
      rw [List.find?_cons_of_neg (by simpa using other),
        List.find?_cons_of_neg (by simpa using here), ih]

/-- An area of accepted triples up to a proper end decodes to the last option of each code. -/
theorem decode_of_ends {items : List Item} {tail : Octets} (ends : Ends tail)
    (accepted : ∀ t ∈ Item.triples items, r.Accepts t) :
    ∃ os, (read (Item.write items ++ tail)).decode r = .ok os ∧
      ∀ code, os.get? code = (lastUnder code (Item.triples items)).bind fun t =>
        (r.decode t.code t.payload).toOption := by
  obtain ⟨opts, decoded⟩ := exists_decoded accepted
  refine ⟨opts.foldl Options.insert .empty, ?_, ?_⟩
  · simp only [read_write_of_ends items ends, decode, collect_of_decoded decoded]
  · intro code
    rw [Options.get?_foldl_insert, Options.get?_empty, Option.or_none,
      find?_of_decoded (List.forall₂_reverse_iff.mpr decoded), lastUnder]

/-- An area of accepted triples up to a failing item decodes to the fault of that item. -/
theorem decode_of_fails {items : List Item} {tail : Octets} {fault : WireFault}
    (fails : Fails r tail fault) (accepted : ∀ t ∈ Item.triples items, r.Accepts t) :
    (read (Item.write items ++ tail)).decode r = .error fault := by
  obtain ⟨opts, decoded⟩ := exists_decoded accepted
  cases fails with
  | noLength notPad notEnd =>
    simp only [read_write, read_noLength notPad notEnd, List.append_nil, decode,
      collect_of_decoded decoded]
  | short notPad notEnd few =>
    simp only [read_write, read_short notPad notEnd few, List.append_nil, decode,
      collect_of_decoded decoded]
  | refused framed refused =>
    simp only [read_write, read_triple framed, push, decode, collect_refused accepted refused]

/-- Of items, either all triples are accepted or there is a first that is refused. -/
theorem accepts_or_refused (r : Registry) (items : List Item) :
    (∀ t ∈ Item.triples items, r.Accepts t) ∨
      ∃ before t framed after fault, items = before ++ .triple t framed :: after ∧
        (∀ u ∈ Item.triples before, r.Accepts u) ∧ r.decode t.code t.payload = .error fault := by
  induction items with
  | nil => exact .inl nofun
  | cons item items ih =>
    cases item with
    | pad =>
      rcases ih with accepted | ⟨before, t, framed, after, fault, rfl, accepted, refused⟩
      · exact .inl accepted
      · exact .inr ⟨.pad :: before, t, framed, after, fault, rfl, accepted, refused⟩
    | triple u framed =>
      cases made : r.decode u.code u.payload with
      | error fault => exact .inr ⟨[], u, framed, items, fault, rfl, nofun, made⟩
      | ok o =>
        have first : r.Accepts u := ⟨o, made⟩
        rcases ih with accepted | ⟨before, t, framed', after, fault, rfl, accepted, refused⟩
        · exact .inl (List.forall_mem_cons.mpr ⟨first, accepted⟩)
        · exact .inr ⟨.triple u framed :: before, t, framed', after, fault, rfl,
            List.forall_mem_cons.mpr ⟨first, accepted⟩, refused⟩

/-- Behind the accepted items at its front, every area ends or fails. -/
theorem ends_or_fails (r : Registry) (area : Octets) :
    ∃ items tail, area = Item.write items ++ tail ∧ (∀ t ∈ Item.triples items, r.Accepts t) ∧
      (Ends tail ∨ ∃ fault, Fails r tail fault) := by
  obtain ⟨items, tail, rfl, last⟩ := exists_items area
  rcases accepts_or_refused r items with
    accepted | ⟨before, t, framed, after, fault, rfl, accepted, refused⟩
  · exact ⟨items, tail, rfl, accepted, last.imp id fun ⟨fault, fails⟩ => ⟨fault, fails r⟩⟩
  · exact ⟨before, _, Item.write_at before framed after tail, accepted, .inr ⟨fault,
      .refused framed refused⟩⟩

end Area

end Dhcp
