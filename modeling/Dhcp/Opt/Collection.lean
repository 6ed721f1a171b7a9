import Dhcp.Opt.Basic

/-!
# The options of a message

A message holds at most one option of each code. `Options` keeps them in a list with strictly
ascending codes, which is also the order they are written in, so two collections with the same
options are equal.

**The laws** (`get?_insert`, `get?_erase`): putting an option in or taking one out changes what is
found under its own code and under no other.
-/

namespace Dhcp

/-- Options with distinct codes, in ascending order of the codes. -/
structure Options where
  toList : List Opt
  ascending : toList.Pairwise fun a b => a.code < b.code
deriving DecidableEq

namespace Options

/-- No options. -/
def empty : Options := ⟨[], .nil⟩

/-- The option under a code. -/
def get? (os : Options) (code : UInt8) : Option Opt :=
  os.toList.find? fun o => o.code = code

/-! ## Putting an option in -/

/-- The list with an option in the place of its code. -/
def insertList (o : Opt) : List Opt → List Opt
  | [] => [o]
  | p :: ps =>
    if o.code < p.code then o :: p :: ps
    else if o.code = p.code then o :: ps
    else p :: insertList o ps

theorem mem_insertList {o q : Opt} {ps : List Opt} (h : q ∈ insertList o ps) : q = o ∨ q ∈ ps := by
  induction ps with
  | nil => simpa [insertList] using h
  | cons p ps ih =>
    unfold insertList at h
    split at h
    · simpa using h
    · split at h
      · rcases List.mem_cons.1 h with rfl | h
        · exact .inl rfl
        · exact .inr (List.mem_cons_of_mem _ h)
      · rcases List.mem_cons.1 h with rfl | h
        · exact .inr (List.mem_cons_self ..)
        · rcases ih h with h | h
          · exact .inl h
          · exact .inr (List.mem_cons_of_mem _ h)

/-- Inserting keeps the codes in order. -/
theorem pairwise_insertList {o : Opt} {ps : List Opt}
    (h : ps.Pairwise fun a b => a.code < b.code) :
    (insertList o ps).Pairwise fun a b => a.code < b.code := by
  induction ps with
  | nil => simp [insertList]
  | cons p ps ih =>
    obtain ⟨hp, hps⟩ := List.pairwise_cons.1 h
    unfold insertList
    split
    · next hlt =>
      refine List.pairwise_cons.2 ⟨fun q hq => ?_, h⟩
      rcases List.mem_cons.1 hq with rfl | hq
      · exact hlt
      · exact UInt8.lt_trans hlt (hp q hq)
    · next hnlt =>
      split
      · next heq => exact List.pairwise_cons.2 ⟨fun q hq => heq ▸ hp q hq, hps⟩
      · next hne =>
        refine List.pairwise_cons.2 ⟨fun q hq => ?_, ih hps⟩
        rcases mem_insertList hq with rfl | hq
        · exact UInt8.lt_of_le_of_ne (UInt8.not_lt.1 hnlt) (Ne.symm hne)
        · exact hp q hq

/-- The options with one put in under its code, in the place of the one that was there. -/
def insert (os : Options) (o : Opt) : Options :=
  ⟨insertList o os.toList, pairwise_insertList os.ascending⟩

/-! ## Taking an option out -/

/-- The options without the one under a code. -/
def erase (os : Options) (code : UInt8) : Options :=
  ⟨os.toList.filter fun o => o.code ≠ code, os.ascending.filter _⟩

/-! ## What is found -/

/-- Behind an insertion the option is found under its code, and all else is as it was. -/
theorem find?_insertList (o : Opt) (ps : List Opt) (code : UInt8)
    (h : ps.Pairwise fun a b => a.code < b.code) :
    (insertList o ps).find? (fun q => q.code = code) =
      if o.code = code then some o else ps.find? fun q => q.code = code := by
  induction ps with
  | nil => by_cases hc : o.code = code <;> simp [insertList, hc]
  | cons p ps ih =>
    obtain ⟨hp, hps⟩ := List.pairwise_cons.1 h
    unfold insertList
    split
    · by_cases hc : o.code = code <;> simp [hc]
    · split
      · next heq =>
        by_cases hc : o.code = code
        · simp [hc]
        · have hpc : p.code ≠ code := heq ▸ hc
          simp [hc, hpc]
      · next hne =>
        rw [List.find?_cons, List.find?_cons, ih hps]
        by_cases hpc : p.code = code
        · have hoc : o.code ≠ code := fun hoc => hne (hoc.trans hpc.symm)
          simp [hpc, hoc]
        · simp [hpc]

/-- An option that is put in is found under its code and changes nothing under other codes. -/
theorem get?_insert (os : Options) (o : Opt) (code : UInt8) :
    (os.insert o).get? code = if o.code = code then some o else os.get? code :=
  find?_insertList o os.toList code os.ascending

/-- Nothing is found under a code that was erased, and all else is as it was. -/
theorem get?_erase (os : Options) (gone code : UInt8) :
    (os.erase gone).get? code = if code = gone then none else os.get? code := by
  unfold erase get?
  rw [List.find?_filter]
  by_cases hc : code = gone
  · subst hc
    simp
  · rw [if_neg hc]
    congr 1
    funext q
    by_cases hq : q.code = code
    · simp [hq, hc]
    · simp [hq]

theorem code_of_get? {os : Options} {code : UInt8} {o : Opt} (h : os.get? code = some o) :
    o.code = code := by
  simpa using List.find?_some h

end Options

end Dhcp
