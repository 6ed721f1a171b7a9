import Dhcp.Proofs.MessageGrammar

/-!
# Options laid over a message

Messages are built by putting options in one after another. What is found afterwards is decided by
the last option under each code; in what order options of different codes are put in makes no
difference, and neither does anything in the header.

**The laws** (`option?_withOptions`, `Message.Holds.perm`, `Message.Holds.mem_iff`): an option that
is put in replaces the one under its code and no other, and a message to which nothing but options
of distinct codes were put in has exactly these, whatever their order was.
-/

namespace Dhcp

/-- Two codes frame the option area. -/
theorem Message.isFraming_iff {code : UInt8} :
    isFraming code = true ↔ code = 0 ∨ code = 255 := by
  simp [isFraming]

/-! ## Options put in from left to right -/

namespace Opt

/-- The last of the options with a code, which is the one that stays when they are put into a
message from left to right. The codes that frame the option area are never put in. -/
def lastUnder (code : UInt8) (os : List Opt) : Option Opt :=
  if code = 0 ∨ code = 255 then none else os.reverse.find? fun o => o.code = code

theorem lastUnder_nil (code : UInt8) : lastUnder code [] = none := by
  unfold lastUnder
  split <;> rfl

/-- A single option is the last under its code, unless its code frames the area. -/
theorem lastUnder_singleton (code : UInt8) (o : Opt) :
    lastUnder code [o] = if o.code = code ∧ ¬(code = 0 ∨ code = 255) then some o else none := by
  unfold lastUnder
  by_cases framing : code = 0 ∨ code = 255 <;> by_cases here : o.code = code <;>
    simp [framing, here]

/-- The last under a code is the last of the second list, or else of the first. -/
theorem lastUnder_append (code : UInt8) (os ps : List Opt) :
    lastUnder code (os ++ ps) = (lastUnder code ps).or (lastUnder code os) := by
  unfold lastUnder
  split
  · rfl
  · rw [List.reverse_append, List.find?_append]

/-- Options with codes of their own are all there. -/
theorem lastUnder_eq_some_iff {os : List Opt} (distinct : Options.Distinct os)
    (unframed : ∀ o ∈ os, o.code ≠ 0 ∧ o.code ≠ 255) {code : UInt8} {o : Opt} :
    lastUnder code os = some o ↔ o ∈ os ∧ o.code = code := by
  unfold lastUnder
  split
  · next framing =>
    refine iff_of_false nofun ?_
    rintro ⟨mem, rfl⟩
    exact not_or.mpr (unframed o mem) framing
  · exact find?_reverse_key_eq_some_iff distinct

/-- The order of options with codes of their own does not matter. -/
theorem lastUnder_perm {os ps : List Opt} (distinct : Options.Distinct os) (same : os.Perm ps)
    (code : UInt8) : lastUnder code os = lastUnder code ps := by
  unfold lastUnder
  rw [find?_reverse_key_perm distinct same]

end Opt

namespace Message

variable {m : Message} {o : Opt}

/-! ## Laying options over a message -/

/-- An option that is put in is found under its code and changes nothing under other codes. -/
theorem option?_withOption (unframed : o.code ≠ 0 ∧ o.code ≠ 255) (code : UInt8) :
    (m.withOption o).option? code = if o.code = code then some o else m.option? code := by
  have put : m.withOption o = { m with options := m.options.insert o } :=
    if_neg (by simp [isFraming, unframed.1, unframed.2])
  rw [put]
  exact Options.get?_insert ..

/-- The last of the options under a code is found, or what was there before if there is none. -/
theorem option?_withOptions (m : Message) (os : List Opt) (code : UInt8) :
    (m.withOptions os).option? code = (Opt.lastUnder code os).or (m.option? code) := by
  have one (m : Message) (o : Opt) :
      (m.withOption o).option? code = (Opt.lastUnder code [o]).or (m.option? code) := by
    rw [Opt.lastUnder_singleton]
    by_cases framing : o.code = 0 ∨ o.code = 255
    · have same : m.withOption o = m := if_pos (isFraming_iff.mpr framing)
      rw [same, if_neg fun h => h.2 (h.1 ▸ framing), Option.none_or]
    · have put : m.withOption o = { m with options := m.options.insert o } :=
        if_neg (mt isFraming_iff.mp framing)
      rw [put]
      refine (Options.get?_insert ..).trans ?_
      by_cases here : o.code = code
      · rw [if_pos here, if_pos ⟨here, here ▸ framing⟩, Option.some_or]
      · rw [if_neg here, if_neg fun h => here h.1, Option.none_or]
        rfl
  induction os generalizing m with
  | nil => rw [Opt.lastUnder_nil, Option.none_or]; rfl
  | cons o os ih =>
    have behind : (m.withOptions (o :: os)).option? code =
        (Opt.lastUnder code os).or ((m.withOption o).option? code) := ih (m.withOption o)
    rw [behind, one, ← Option.or_assoc, ← Opt.lastUnder_append, List.singleton_append]

theorem toHeader_withOption (m : Message) (o : Opt) : (m.withOption o).toHeader = m.toHeader := by
  unfold withOption
  split <;> rfl

theorem toHeader_withOptions (m : Message) (os : List Opt) :
    (m.withOptions os).toHeader = m.toHeader := by
  induction os generalizing m with
  | nil => rfl
  | cons o os ih => exact (ih (m.withOption o)).trans (toHeader_withOption m o)

/-! ## Messages that were built from nothing -/

/-- A message in which the options that were put in are found, and no others. -/
def Holds (m : Message) (os : List Opt) : Prop := ∀ code, m.option? code = Opt.lastUnder code os

namespace Holds

variable {os ps : List Opt}

/-- A message without options holds what was put in so far: nothing. -/
theorem empty {m : Message} (none_held : m.options = .empty) : m.Holds [] := by
  intro code
  rw [Opt.lastUnder_nil, option?, none_held]
  rfl

/-- Putting options in lays them over what was put in before. -/
theorem withOptions (holds : m.Holds os) (ps : List Opt) : (m.withOptions ps).Holds (os ++ ps) := by
  intro code
  rw [option?_withOptions, holds code, Opt.lastUnder_append]

/-- Options with codes of their own can be put in in any order. -/
theorem perm (holds : m.Holds os) (distinct : Options.Distinct os) (same : os.Perm ps) :
    m.Holds ps :=
  fun code => (holds code).trans (Opt.lastUnder_perm distinct same code)

variable (holds : m.Holds os) (distinct : Options.Distinct os)
  (unframed : ∀ o ∈ os, o.code ≠ 0 ∧ o.code ≠ 255)

include holds distinct unframed

/-- Under a code is found the option that was put in with it. -/
theorem option?_iff {code : UInt8} : m.option? code = some o ↔ o ∈ os ∧ o.code = code := by
  rw [holds code]
  exact Opt.lastUnder_eq_some_iff distinct unframed

/-- The options of the message are those that were put in. -/
theorem mem_iff : o ∈ m.options.toList ↔ o ∈ os := by
  rw [Options.mem_toList_iff]
  show m.option? o.code = some o ↔ _
  rw [holds.option?_iff distinct unframed, and_iff_left rfl]

end Holds

end Message

end Dhcp
