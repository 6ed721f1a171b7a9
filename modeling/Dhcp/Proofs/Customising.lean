import Dhcp.Opt.Registry
import Mathlib.Data.List.Induction

/-!
# Registries after any calls

A registry starts as `empty` or as `standard` and is changed by calls that put a decoder in force for
a code or take the one of a code out of force. `Registry.customise` makes such calls one after
another and keeps what each of them tells.

`Registry.InForce` says without running the calls which decoder a code ends up with: the last call
for the code decides, and where no call is for it the base does. `Decoder.Gives` says what the
decoder in force makes of a payload.

**The law** (`Registry.last_call_decides`): after any calls on any registry, a payload is decoded by
the decoder in force, each call has told the decoder that was in force for its code before it, and a
call for another code makes no difference. Nothing is asked of the decoders: one that makes an
option of a foreign code is overruled, so an option that is decoded always has the code that was
asked for.
-/

namespace Dhcp

/-! ## Calls -/

/-- A call that changes a registry. -/
inductive Registration where
  | register (code : UInt8) (decoder : Decoder)
  | unregister (code : UInt8)

namespace Registration

/-- The code that a call is for. -/
def code : Registration → UInt8
  | register code _ => code
  | unregister code => code

/-- The decoder that a call leaves in force for its code. -/
def leaves : Registration → Option Decoder
  | register _ decoder => some decoder
  | unregister _ => none

end Registration

namespace Registry

/-- Makes a call and tells which decoder was in force for its code before. -/
def change (r : Registry) : Registration → Option Decoder × Registry
  | .register code decoder => r.register code decoder
  | .unregister code => r.unregister code

/-- Makes calls one after another and lists what they tell. -/
def customise (r : Registry) : List Registration → List (Option Decoder) × Registry
  | [] => ([], r)
  | c :: cs =>
    let (replaced, changed) := r.change c
    let (told, last) := changed.customise cs
    (replaced :: told, last)

/-- The decoder that is in force for a code after calls on a base. -/
inductive InForce (base : Registry) (code : UInt8) : List Registration → Option Decoder → Prop where
  | untouched {cs : List Registration} (never : ∀ c ∈ cs, c.code ≠ code) :
      InForce base code cs (base.decoder? code)
  | last {before after : List Registration} {c : Registration} (own : c.code = code)
      (never : ∀ c ∈ after, c.code ≠ code) : InForce base code (before ++ c :: after) c.leaves

end Registry

/-- What a payload under a code gives with a decoder in force for the code, or with none. -/
inductive Decoder.Gives (code : UInt8) (data : Octets) :
    Option Decoder → Except WireFault Opt → Prop where
  | raw : Gives code data none (.ok (.raw code data))
  | refused {decoder : Decoder} {fault : WireFault} (failed : decoder code data = .error fault) :
      Gives code data (some decoder) (.error fault)
  | taken {decoder : Decoder} {o : Opt} (made : decoder code data = .ok o) (own : o.code = code) :
      Gives code data (some decoder) (.ok o)
  | foreign {decoder : Decoder} {o : Opt} (made : decoder code data = .ok o)
      (other : o.code ≠ code) : Gives code data (some decoder) (.ok (.raw code data))

namespace Registry

variable {r s base : Registry} {code : UInt8} {data : Octets} {decoder? : Option Decoder}
  {c : Registration} {cs before after : List Registration} {result : Except WireFault Opt}

/-- Registries that look up alike are equal. -/
theorem eq_of_decoder? (same : ∀ code, r.decoder? code = s.decoder? code) : r = s := by
  cases r
  cases s
  exact congrArg mk (funext same)

/-! ## One call -/

theorem change_fst : (r.change c).1 = r.decoder? c.code := by
  cases c with
  | register code decoder => rfl
  | unregister code => rfl

/-- A call leaves its own decoder under its code, and all other codes as they were. -/
theorem decoder?_change :
    (r.change c).2.decoder? code = if code = c.code then c.leaves else r.decoder? code := by
  cases c with
  | register code decoder => rfl
  | unregister code => rfl

theorem decoder?_change_of_own (own : c.code = code) :
    (r.change c).2.decoder? code = c.leaves := by
  rw [decoder?_change, if_pos own.symm]

theorem decoder?_change_of_other (other : c.code ≠ code) :
    (r.change c).2.decoder? code = r.decoder? code := by
  rw [decoder?_change, if_neg other.symm]

/-! ## Any calls -/

/-- Calls that follow others go on where those have come to. -/
theorem customise_append (r : Registry) (before after : List Registration) :
    r.customise (before ++ after) =
      ((r.customise before).1 ++ ((r.customise before).2.customise after).1,
        ((r.customise before).2.customise after).2) := by
  induction before generalizing r with
  | nil => rfl
  | cons c before ih => simp only [List.cons_append, customise, ih]

theorem length_customise (r : Registry) (cs : List Registration) :
    (r.customise cs).1.length = cs.length := by
  induction cs generalizing r with
  | nil => rfl
  | cons c cs ih => exact congrArg (· + 1) (ih (r.change c).2)

/-- Of the registry that calls are made on, only the decoder of a code matters for the code. -/
theorem decoder?_customise_congr (cs : List Registration)
    (same : r.decoder? code = s.decoder? code) :
    (r.customise cs).2.decoder? code = (s.customise cs).2.decoder? code := by
  induction cs generalizing r s with
  | nil => exact same
  | cons c cs ih =>
    apply @ih (r.change c).2 (s.change c).2
    rw [decoder?_change, decoder?_change, same]

/-- Under a code that no call names the base decides. -/
theorem decoder?_customise_of_never (never : ∀ c ∈ cs, c.code ≠ code) :
    (r.customise cs).2.decoder? code = r.decoder? code := by
  induction cs generalizing r with
  | nil => rfl
  | cons c cs ih =>
    calc ((r.change c).2.customise cs).2.decoder? code
        = (r.change c).2.decoder? code := ih fun d mem => never d (List.mem_cons_of_mem c mem)
      _ = r.decoder? code := decoder?_change_of_other (never c List.mem_cons_self)

/-- A call makes no difference for the other codes, wherever among the calls it stands. -/
theorem decoder?_customise_without (other : c.code ≠ code) :
    (r.customise (before ++ c :: after)).2.decoder? code =
      (r.customise (before ++ after)).2.decoder? code := by
  rw [customise_append, customise_append]
  exact decoder?_customise_congr after (decoder?_change_of_other other)

/-- Each call tells the decoder that the calls before it have left in force for its code. -/
theorem told_customise :
    (r.customise (before ++ c :: after)).1[before.length]? =
      some ((r.customise before).2.decoder? c.code) := by
  have here : (r.customise before).1.length ≤ before.length :=
    Nat.le_of_eq (length_customise r before)
  rw [customise_append, List.getElem?_append_right here, length_customise, Nat.sub_self,
    ← change_fst]
  rfl

/-! ## The last call -/

theorem InForce.snoc_own (cs : List Registration) (own : c.code = code) :
    InForce base code (cs ++ [c]) c.leaves :=
  .last own nofun

/-- A call for another code leaves in force what was. -/
theorem InForce.snoc_other (inForce : InForce base code cs decoder?) (other : c.code ≠ code) :
    InForce base code (cs ++ [c]) decoder? := by
  have extend {ds : List Registration} (never : ∀ d ∈ ds, d.code ≠ code) :
      ∀ d ∈ ds ++ [c], d.code ≠ code := by
    intro d mem
    rcases List.mem_append.mp mem with mem | mem
    · exact never d mem
    · exact List.mem_singleton.mp mem ▸ other
  cases inForce with
  | untouched never => exact .untouched (extend never)
  | last own never =>
    rw [List.append_assoc]
    exact .last own (extend never)

/-- After any calls something is in force for every code. -/
theorem exists_inForce (base : Registry) (code : UInt8) (cs : List Registration) :
    ∃ decoder?, InForce base code cs decoder? := by
  -- From behind, since a call decides only if no later one is for the code.
  induction cs using List.reverseRecOn with
  | nil => exact ⟨_, .untouched nofun⟩
  | append_singleton cs c ih =>
    by_cases own : c.code = code
    · exact ⟨_, InForce.snoc_own cs own⟩
    · obtain ⟨decoder?, inForce⟩ := ih
      exact ⟨decoder?, inForce.snoc_other own⟩

/-- What is in force is what the customised registry looks up. -/
theorem InForce.eq (inForce : InForce base code cs decoder?) :
    (base.customise cs).2.decoder? code = decoder? := by
  cases inForce with
  | untouched never => exact decoder?_customise_of_never never
  | @last before after c own never =>
    rw [customise_append]
    calc (((base.customise before).2.change c).2.customise after).2.decoder? code
        = ((base.customise before).2.change c).2.decoder? code :=
          decoder?_customise_of_never never
      _ = c.leaves := decoder?_change_of_own own

/-- What is in force after calls is what the registry has when they were made. -/
theorem inForce_iff :
    InForce base code cs decoder? ↔ (base.customise cs).2.decoder? code = decoder? := by
  constructor
  · exact InForce.eq
  · rintro rfl
    obtain ⟨found, inForce⟩ := exists_inForce base code cs
    rwa [inForce.eq]

/-! ## Decoding -/

/-- Decoding gives exactly what the decoder of the code gives for the payload. -/
theorem decode_iff_gives :
    r.decode code data = result ↔ Decoder.Gives code data (r.decoder? code) result := by
  unfold decode
  constructor
  · rintro rfl
    cases r.decoder? code with
    | none => exact .raw
    | some decoder =>
      cases made : decoder code data with
      | error fault => simpa only [made] using .refused made
      | ok o =>
        by_cases own : o.code = code
        · simpa only [made, if_pos own] using .taken made own
        · simpa only [made, if_neg own] using .foreign made own
  · intro gives
    cases found : r.decoder? code with
    | none =>
      rw [found] at gives
      cases gives
      rfl
    | some decoder =>
      rw [found] at gives
      cases gives with
      | refused failed => simp only [failed]
      | taken made own => simp only [made, if_pos own]
      | foreign made other => simp only [made, if_neg other]

/-- Of a registry, only the decoder of a code matters when the code is decoded. -/
theorem decode_congr (same : r.decoder? code = s.decoder? code) (data : Octets) :
    r.decode code data = s.decode code data := by
  unfold decode
  rw [same]

/-! ## The registry of the known formats -/

/-- A decoder that is registered for several codes is found under these, and all else is as it was.
-/
theorem decoder?_customise_register (codes : List UInt8) (decoder : Decoder) :
    (r.customise (codes.map fun code => .register code decoder)).2.decoder? code =
      if code ∈ codes then some decoder else r.decoder? code := by
  induction codes generalizing r with
  | nil => rfl
  | cons own codes ih =>
    calc ((r.change (.register own decoder)).2.customise
            (codes.map fun code => .register code decoder)).2.decoder? code
        = if code ∈ codes then some decoder else
            if code = own then some decoder else r.decoder? code := by rw [ih, decoder?_change]; rfl
      _ = if code ∈ own :: codes then some decoder else r.decoder? code := by
        by_cases first : code = own
        · rw [if_pos first, if_pos (List.mem_cons.mpr (.inl first)), ite_self]
        · simp only [List.mem_cons, first, if_false, false_or]

/-- The standard registry has the known decoder for every code of a format and for no other. -/
theorem decoder?_standard : standard.decoder? code =
    if code ∈ Format.all.map Format.code then some decodeKnown else none := by
  have known : (Format.ofCode? code).isSome ↔ code ∈ Format.all.map Format.code := by
    simp only [Format.ofCode?, List.find?_isSome, List.mem_map, decide_eq_true_eq]
  by_cases mem : code ∈ Format.all.map Format.code
  · obtain ⟨f, found⟩ := Option.isSome_iff_exists.mp (known.mpr mem)
    rw [if_pos mem]
    exact congrArg (Option.map fun _ => decodeKnown) found
  · have unknown : Format.ofCode? code = none := by
      rw [← Option.not_isSome_iff_eq_none, known]
      exact mem
    rw [if_neg mem]
    exact congrArg (Option.map fun _ => decodeKnown) unknown

/-- The registry of the known formats comes from the empty one by a call for each format. -/
theorem standard_eq_customise : standard = (empty.customise
    ((Format.all.map Format.code).map fun code => .register code decodeKnown)).2 := by
  apply eq_of_decoder?
  intro code
  rw [decoder?_standard, decoder?_customise_register]
  rfl

/-! ## The law -/

/-- After any calls on any registry, a code has the decoder that the last call for it has left, or
the one of the base, and this decoder alone says what a payload gives; an option that is decoded has
the code that was asked for. Each call tells the decoder that was in force for its code when it was
made, and a code is decoded as if the calls for other codes had not been made. The registry where
none is given is the one that has the decoder of the known formats for each of their codes. -/
theorem last_call_decides :
    (∀ (base : Registry) (cs : List Registration),
      (∀ code, (∃! decoder?, InForce base code cs decoder?) ∧
        ∀ decoder?, InForce base code cs decoder? →
          (base.customise cs).2.isRegistered code = decoder?.isSome ∧
          ∀ data result, (base.customise cs).2.decode code data = result ↔
            Decoder.Gives code data decoder? result) ∧
      (∀ code data o, (base.customise cs).2.decode code data = .ok o → o.code = code) ∧
      (base.customise cs).1.length = cs.length ∧
      ∀ before c after, cs = before ++ c :: after →
        (∀ decoder?, InForce base c.code before decoder? →
          (base.customise cs).1[before.length]? = some decoder?) ∧
        ∀ code ≠ c.code,
          (base.customise cs).2.isRegistered code =
            (base.customise (before ++ after)).2.isRegistered code ∧
          ∀ data, (base.customise cs).2.decode code data =
            (base.customise (before ++ after)).2.decode code data) ∧
    (∀ code, empty.decoder? code = none) ∧
    (∀ code, standard.decoder? code =
      if code ∈ [1, 3, 6, 12, 15, 28, 50, 51, 53, 54, 55, 56, 57, 58, 59, 61, 108, 138] then
        some decodeKnown else none) ∧
    standard = (empty.customise ([1, 3, 6, 12, 15, 28, 50, 51, 53, 54, 55, 56, 57, 58, 59, 61, 108,
      138].map fun code => .register code decodeKnown)).2 ∧
    (default : Registry) = standard := by
  refine ⟨fun base cs => ⟨fun code => ⟨?_, fun decoder? inForce => ⟨?_, fun data result => ?_⟩⟩,
    fun code data o => code_decode, length_customise base cs, ?_⟩, fun code => rfl,
    fun code => decoder?_standard, standard_eq_customise, rfl⟩
  · simp only [inForce_iff, existsUnique_eq']
  · rw [isRegistered, inForce.eq]
  · rw [decode_iff_gives, inForce.eq]
  · rintro before c after rfl
    refine ⟨fun decoder? inForce => ?_, fun code other => ⟨?_, fun data => ?_⟩⟩
    · rw [told_customise, inForce.eq]
    · rw [isRegistered, isRegistered, decoder?_customise_without other.symm]
    · exact decode_congr (decoder?_customise_without other.symm) data

/-- A decoder that makes a notice of a host name is in force for host names and yet overruled. -/
theorem last_call_decides_foreign :
    let notice : Decoder := fun _ _ => .ok (.text .message "a host name")
    let cs : List Registration := [.unregister 12, .register 12 notice, .unregister 6]
    (standard.customise cs).2.isRegistered 12 = true ∧
      (∀ data, (standard.customise cs).2.decode 12 data = .ok (.raw 12 data)) ∧
      (standard.customise cs).1[1]? = some none ∧
      ∀ data, (standard.customise cs).2.decode 1 data =
        (standard.customise [.unregister 12, .register 12 notice]).2.decode 1 data := by
  intro notice cs
  obtain ⟨codes, -, -, calls⟩ := last_call_decides.1 standard cs
  have here : cs = [.unregister 12] ++ .register 12 notice :: [.unregister 6] := rfl
  have last : InForce standard 12 cs (some notice) := here ▸ .last rfl (by decide)
  have before : InForce standard 12 [.unregister 12] none := InForce.snoc_own [] rfl
  obtain ⟨registered, decoded⟩ := (codes 12).2 _ last
  refine ⟨registered, fun data => ?_, (calls _ _ _ here).1 _ before, ?_⟩
  · exact (decoded data _).mpr (.foreign rfl (by decide))
  · exact ((calls [.unregister 12, .register 12 notice] (.unregister 6) [] rfl).2 1 (by decide)).2

end Registry

end Dhcp
