import Dhcp.Text.Utf8
import Mathlib.Data.List.TakeWhile

/-!
# Which characters a lossy reading can show

Reading octets with replacements shows a character below `U+0080` for each octet below `0x80`, and
for nothing else: a well-formed sequence of several octets stands for a character that needs them,
and an ill-formed piece for the replacement character. So a control cannot be smuggled into a text
in a longer form than its own.

**The law** (`count_lossyChars`): a lossy reading holds as many line feeds as its octets do.
-/

namespace Dhcp.Octets

/-! ## What may follow the first octet -/

/-- What must follow an octet that begins a character of several octets: octets of the range for
continuations, and enough of the number of the character for its length. -/
theorem Continuation.of_continuation? {lead : UInt8} {c : Continuation}
    (h : continuation? lead = some c) :
    0x80 ≤ c.low.toNat ∧ c.high.toNat ≤ 0xBF ∧ 0 < c.count ∧
      (0 < lead.toNat % (64 >>> c.count) ∨ 0x90 ≤ c.low.toNat) := by
  unfold continuation? at h
  simp only [UInt8.lt_iff_toNat_lt, ← UInt8.toNat_inj] at h
  repeat' split at h
  -- Every branch that is left is a range of first octets with numbers of its own.
  all_goals cases h
  all_goals
    simp only [UInt8.reduceToNat, Nat.reduceShiftRight] at *
    omega

/-- What continues a character are the first octets behind its lead. -/
theorem Continuation.run_prefix (c : Continuation) (rest : Octets) : c.run rest <+: rest := by
  cases rest with
  | nil => exact List.prefix_rfl
  | cons b rest =>
    rw [run]
    split
    · exact (List.prefix_cons_inj b).mpr ((List.takeWhile_prefix _).trans (List.take_prefix ..))
    · exact List.nil_prefix

/-- The second octet of a character is in its range, and those behind it are continuations. -/
theorem Continuation.run_cons_eq {c : Continuation} {rest tail : Octets} {b : UInt8}
    (run : c.run rest = b :: tail) : c.low ≤ b ∧ b ≤ c.high ∧ ∀ d ∈ tail, 0x80 ≤ d := by
  cases rest with
  | nil => cases run
  | cons first rest =>
    rw [Continuation.run] at run
    split at run
    · next inside =>
      cases run
      refine ⟨inside.2.1, inside.2.2, fun d mem => ?_⟩
      have range := List.mem_takeWhile_imp mem
      simp only [Bool.and_eq_true, decide_eq_true_eq] at range
      exact range.1
    · cases run

/-! ## Characters of several octets -/

theorem ofNat_eq_lineFeed_iff {n : Nat} : Char.ofNat n = '\n' ↔ n = 10 := by
  constructor
  · intro same
    by_cases valid : n.isValidChar
    · rw [Char.ofNat, dif_pos valid] at same
      exact congrArg Char.toNat same
    · rw [Char.ofNat, dif_neg valid] at same
      exact absurd same (by decide)
  · rintro rfl
    rfl

/-- Reading on makes the number of a character no smaller. -/
theorem le_foldl_number (tail : Octets) (n : Nat) :
    n ≤ tail.foldl (fun n b => n * 64 + b.toNat % 64) n := by
  induction tail generalizing n with
  | nil => exact Nat.le_refl n
  | cons b tail ih =>
    calc n ≤ n * 64 + b.toNat % 64 := by omega
      _ ≤ _ := ih _

/-- A well-formed sequence stands for a character that needs several octets, or for none. -/
theorem character_ne_lineFeed {lead : UInt8} {c : Continuation} (h : continuation? lead = some c)
    {rest : Octets} (whole : (c.run rest).length = c.count) :
    character lead (c.run rest) ≠ '\n' := by
  obtain ⟨low, high, several, large⟩ := Continuation.of_continuation? h
  cases run : c.run rest with
  | nil =>
    rw [run] at whole
    exact absurd whole (Nat.ne_of_lt several)
  | cons b tail =>
    rw [run] at whole
    obtain ⟨above, below, -⟩ := Continuation.run_cons_eq run
    rw [UInt8.le_iff_toNat_le] at above below
    have number : 10 < (lead.toNat % (64 >>> c.count)) * 64 + b.toNat % 64 := by omega
    have larger := Nat.lt_of_lt_of_le number (le_foldl_number tail _)
    rw [character, whole, ne_eq, ofNat_eq_lineFeed_iff]
    exact Nat.ne_of_gt larger

/-! ## Counting -/

/-- What goes on a character holds no line feed. -/
theorem count_run {lead : UInt8} {c : Continuation} (h : continuation? lead = some c)
    (rest : Octets) : (c.run rest).count 10 = 0 := by
  obtain ⟨low, -⟩ := Continuation.of_continuation? h
  rw [List.count_eq_zero]
  cases run : c.run rest with
  | nil => exact List.not_mem_nil
  | cons b tail =>
    obtain ⟨above, -, behind⟩ := Continuation.run_cons_eq run
    rw [UInt8.le_iff_toNat_le] at above
    intro mem
    rcases List.mem_cons.mp mem with rfl | mem
    · exact absurd (low.trans above) (by decide)
    · exact absurd (behind 10 mem) (by decide)

theorem ne_of_notAscii {lead : UInt8} (notAscii : ¬lead < 0x80) : lead ≠ 10 := by
  rintro rfl
  exact notAscii (by decide)

/-- A lossy reading holds as many line feeds as the octets. -/
theorem count_lossyChars (data : Octets) : (lossyChars data).count '\n' = data.count 10 := by
  fun_induction lossyChars data with
  | case1 => rfl
  | case2 lead rest ascii ih =>
    have same : (Char.ofNat lead.toNat == '\n') = (lead == 10) := by
      rw [Bool.eq_iff_iff, beq_iff_eq, beq_iff_eq, ofNat_eq_lineFeed_iff, ← UInt8.toNat_inj]
      rfl
    rw [List.count_cons, List.count_cons, ih, same]
  | case3 lead rest notAscii none ih =>
    rw [List.count_cons_of_ne (by decide), List.count_cons_of_ne (ne_of_notAscii notAscii), ih]
  | case4 lead rest notAscii c some tail char ih =>
    have other : char ≠ '\n' := by
      simp only [char]
      split
      · next whole => exact character_ne_lineFeed some whole
      · decide
    have split : tail ++ rest.drop tail.length = rest :=
      List.prefix_iff_eq_append.mp (c.run_prefix rest)
    rw [List.count_cons_of_ne other, List.count_cons_of_ne (ne_of_notAscii notAscii), ih]
    calc (rest.drop tail.length).count 10
        = tail.count 10 + (rest.drop tail.length).count 10 := by
          rw [count_run some rest, Nat.zero_add]
      _ = rest.count 10 := by rw [← List.count_append, split]

end Dhcp.Octets
