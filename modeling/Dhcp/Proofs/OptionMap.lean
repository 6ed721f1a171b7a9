import Dhcp.Opt.Collection
import Mathlib.Data.List.Basic
import Mathlib.Data.List.Perm.Subperm

/-!
# Options as a map

A collection of options is decided by what is found under each code, whatever the order in which
its options were put in.

**The laws** (`Options.eq_of_get?`, `Options.get?_foldl_insert`): two collections in which the same
is found under every code are equal, and after a sequence of insertions the last option of each code
is found, or what was there before if there was none.
-/

namespace Dhcp

/-- Every code, in ascending order. -/
def everyCode : List UInt8 := (List.range 256).map UInt8.ofNat

theorem mem_everyCode (code : UInt8) : code ∈ everyCode :=
  List.mem_map.mpr ⟨code.toNat, List.mem_range.mpr code.toNat_lt, UInt8.ofNat_toNat⟩

theorem pairwise_everyCode : everyCode.Pairwise (· < ·) := by
  rw [everyCode, List.pairwise_map]
  refine List.pairwise_lt_range.imp_of_mem ?_
  intro i j hi hj lt
  rw [List.mem_range] at hi hj
  rw [UInt8.lt_iff_toNat_lt, UInt8.toNat_ofNat_of_lt' hi, UInt8.toNat_ofNat_of_lt' hj]
  exact lt

/-! ## Lists with distinct keys -/

section Keyed

variable {α : Type} {key : α → UInt8} {l l' : List α}

/-- Among entries with distinct keys, the one that is found under a key is the one that is there. -/
theorem find?_key_eq_some_iff (distinct : l.Pairwise fun a b => key a ≠ key b) {k : UInt8} {a : α} :
    l.find? (fun b => key b = k) = some a ↔ a ∈ l ∧ key a = k := by
  constructor
  · intro found
    exact ⟨List.mem_of_find?_eq_some found, by simpa using List.find?_some found⟩
  · rintro ⟨mem, rfl⟩
    induction l with
    | nil => cases mem
    | cons b l ih =>
      obtain ⟨apart, distinct⟩ := List.pairwise_cons.mp distinct
      rcases List.mem_cons.mp mem with rfl | mem
      · simp
      · have other : key b ≠ key a := apart a mem
        simpa [other] using ih distinct mem

/-- From behind, the same is found. -/
theorem find?_reverse_key_eq_some_iff (distinct : l.Pairwise fun a b => key a ≠ key b) {k : UInt8}
    {a : α} : l.reverse.find? (fun b => key b = k) = some a ↔ a ∈ l ∧ key a = k := by
  have back : l.reverse.Pairwise fun a b => key a ≠ key b :=
    List.pairwise_reverse.mpr (distinct.imp Ne.symm)
  rw [find?_key_eq_some_iff back, List.mem_reverse]

/-- Two lists in ascending order of their keys with the same members are equal. -/
theorem eq_of_key_ascending (hl : l.Pairwise fun a b => key a < key b)
    (hl' : l'.Pairwise fun a b => key a < key b) (same : ∀ a, a ∈ l ↔ a ∈ l') : l = l' := by
  have apart {a b : α} (lt : key a < key b) : a ≠ b := by
    rintro rfl
    exact UInt8.lt_irrefl _ lt
  have perm := (List.perm_ext_iff_of_nodup (hl.imp apart) (hl'.imp apart)).mpr same
  refine perm.eq_of_pairwise ?_ hl hl'
  intro a b _ _ ab ba
  exact absurd ba (UInt8.lt_asymm ab)

/-- The order of entries with distinct keys does not matter for what is found from behind. -/
theorem find?_reverse_key_perm (distinct : l.Pairwise fun a b => key a ≠ key b) (same : l.Perm l')
    (k : UInt8) :
    l.reverse.find? (fun a => key a = k) = l'.reverse.find? fun a => key a = k := by
  have distinct' : l'.Pairwise fun a b => key a ≠ key b :=
    same.pairwise distinct fun apart => apart.symm
  ext a
  rw [find?_reverse_key_eq_some_iff distinct, find?_reverse_key_eq_some_iff distinct', same.mem_iff]

end Keyed

namespace Options

/-! ## Lists with distinct codes -/

/-- Options of which no two have the same code. -/
def Distinct (ps : List Opt) : Prop := ps.Pairwise fun a b => a.code ≠ b.code

/-- Codes in order are distinct. -/
theorem Distinct.of_ascending {ps : List Opt} (h : ps.Pairwise fun a b => a.code < b.code) :
    Distinct ps :=
  h.imp UInt8.ne_of_lt

theorem Distinct.nodup {ps : List Opt} (h : Distinct ps) : ps.Nodup :=
  h.imp fun apart same => apart (congrArg Opt.code same)

/-- Among options with distinct codes, the one that is found under a code is the one that is
there. -/
theorem Distinct.find?_eq_some_iff {ps : List Opt} (h : Distinct ps) {code : UInt8} {o : Opt} :
    ps.find? (fun p => p.code = code) = some o ↔ o ∈ ps ∧ o.code = code :=
  find?_key_eq_some_iff h

/-! ## What is found decides a collection -/

theorem distinct (os : Options) : Distinct os.toList := .of_ascending os.ascending

/-- An option is there exactly if it is found under its code. -/
theorem mem_toList_iff {os : Options} {o : Opt} : o ∈ os.toList ↔ os.get? o.code = some o := by
  rw [get?, os.distinct.find?_eq_some_iff]
  simp

/-- Two collections in which the same is found under every code are equal. -/
theorem eq_of_get? {os ps : Options} (same : ∀ code, os.get? code = ps.get? code) : os = ps := by
  have lists : os.toList = ps.toList := by
    apply eq_of_key_ascending os.ascending ps.ascending
    intro o
    rw [mem_toList_iff, mem_toList_iff, same]
  cases os
  cases ps
  cases lists
  rfl

/-- The options of a collection are what is found under the codes in ascending order. -/
theorem toList_eq_filterMap (os : Options) : os.toList = everyCode.filterMap os.get? := by
  apply eq_of_key_ascending os.ascending
  · rw [List.pairwise_filterMap]
    refine pairwise_everyCode.imp ?_
    intro c d lt o found p found'
    rw [code_of_get? found, code_of_get? found']
    exact lt
  · intro o
    rw [mem_toList_iff, List.mem_filterMap]
    constructor
    · intro found
      exact ⟨o.code, mem_everyCode _, found⟩
    · rintro ⟨code, -, found⟩
      rw [code_of_get? found]
      exact found

/-- There are 254 codes that do not frame the option area, so there are no more options. -/
theorem length_toList_le {os : Options} (unframed : ∀ o ∈ os.toList, o.code ≠ 0 ∧ o.code ≠ 255) :
    os.toList.length ≤ 254 := by
  have codes : (os.toList.map Opt.code).Nodup := List.pairwise_map.mpr os.distinct
  have all : (0 :: 255 :: os.toList.map Opt.code).Nodup := by
    simp only [List.nodup_cons, List.mem_cons, List.mem_map, not_or, not_exists, not_and]
    exact ⟨⟨by decide, fun o mem => (unframed o mem).1⟩, fun o mem => (unframed o mem).2, codes⟩
  have few := (all.subperm fun code _ => mem_everyCode code).length_le
  simp only [everyCode, List.length_cons, List.length_map, List.length_range] at few
  omega

/-! ## Sequences of insertions -/

/-- After a sequence of insertions, the last option of a code is found under it. -/
theorem get?_foldl_insert (opts : List Opt) (os : Options) (code : UInt8) :
    (opts.foldl insert os).get? code =
      (opts.reverse.find? fun o => o.code = code).or (os.get? code) := by
  induction opts generalizing os with
  | nil => simp
  | cons o opts ih =>
    rw [List.foldl_cons, ih, get?_insert, List.reverse_cons, List.find?_append]
    by_cases same : o.code = code <;> simp [same]

@[simp] theorem get?_empty (code : UInt8) : empty.get? code = none := rfl

end Options

end Dhcp
