import Dhcp.Host
import Dhcp.Message.Forms
import Dhcp.Proofs.NormalForm

/-!
# Messages that travel whole

What client and server build for each other is read on the other side as it was built. Three things
could prevent that: an option that cannot be written or is read as another one, a header that is not
plain, and a datagram that is longer than what a receiver reads. `Message.Travels` excludes them,
the last by a bound on the number of options, and the ways in which messages are built keep it.

**The law** (`Message.Travels.decodeWith_received`): a message that travels with at most seven
options is written, and what a receiver sees of its datagram is read as the same message.
-/

namespace Dhcp

/-! ## Options -/

/-- No format has a code that frames the area. -/
theorem Format.code_unframed (f : Format) : f.code ≠ 0 ∧ f.code ≠ 255 := by
  cases f with
  | address use => cases use <;> decide
  | addresses use => cases use <;> decide
  | text use => cases use <;> decide
  | seconds use => cases use <;> decide
  | messageType => decide
  | parameterRequestList => decide
  | maximumMessageSize => decide
  | clientIdentifier => decide

/-- No two formats have the same code. -/
theorem Format.code_injective {f g : Format} (same : f.code = g.code) : f = g := by
  have found := Format.ofCode?_eq_some_iff.mpr same
  rw [Format.ofCode?_code] at found
  exact (Option.some.inj found).symm

namespace Opt

/-- An option that is read on the other side as it was written. -/
structure Travels (o : Opt) : Prop where
  writable : o.Writable
  unframed : o.code ≠ 0 ∧ o.code ≠ 255
  plain : o.Plain

/-- A plain option of a format travels if it can be written. -/
theorem Travels.of_format {o : Opt} {f : Format} (known : o.format? = some f)
    (writable : o.Writable) (plain : o.Plain) : o.Travels :=
  ⟨writable, code_of_format? known ▸ f.code_unframed, plain⟩

theorem travels_address (use : AddressUse) (addr : Ipv4) : (address use addr).Travels := by
  apply Travels.of_format rfl
  · refine ⟨rfl, ?_⟩
    rw [payload, addr.length_octets]
    decide
  · trivial

/-- Lists of addresses travel if they are not empty and have at most 63. -/
theorem travels_addresses (use : AddressListUse) {addrs : List Ipv4} (filled : addrs ≠ [])
    (few : addrs.length ≤ 63) : (addresses use addrs).Travels := by
  apply Travels.of_format rfl
  · constructor
    · cases addrs with
      | nil => exact absurd rfl filled
      | cons addr rest => rfl
    · rw [payload, length_flatMap_octets]
      omega
  · trivial

theorem travels_text (use : TextUse) {value : String} (short : (Octets.ofText value).length ≤ 255) :
    (text use value).Travels :=
  .of_format rfl ⟨rfl, short⟩ trivial

theorem travels_seconds (use : SecondsUse) (secs : UInt32) : (seconds use secs).Travels := by
  apply Travels.of_format rfl
  · refine ⟨rfl, ?_⟩
    rw [payload, Octets.length_ofNat]
    decide
  · trivial

theorem travels_messageType {type : MessageType} (named : type ∈ MessageType.named) :
    (messageType type).Travels := by
  apply Travels.of_format rfl
  · refine ⟨rfl, ?_⟩
    show 1 ≤ 255
    decide
  · rintro n - - rfl
    simp [MessageType.named] at named

theorem travels_parameterRequestList {codes : Octets} (short : codes.length ≤ 255) :
    (parameterRequestList codes).Travels :=
  .of_format rfl ⟨rfl, short⟩ trivial

/-- The identifier that is made of a hardware address travels. -/
theorem travels_identifierOfMac (mac : Mac) : (identifierOfMac mac).Travels := by
  have six := mac.length_octets
  apply Travels.of_format rfl
  · constructor
    · unfold identifierOfMac
      cases octets : mac.octets with
      | nil =>
        rw [octets] at six
        cases six
      | cons b rest => rfl
    · show (1 :: mac.octets).length ≤ 255
      rw [List.length_cons, six]
      decide
  · trivial

end Opt

/-! ## Messages -/

/-- Inserting adds one option at most. -/
theorem Options.length_insertList_le (o : Opt) (ps : List Opt) :
    (insertList o ps).length ≤ ps.length + 1 := by
  induction ps with
  | nil => exact Nat.le_refl _
  | cons p ps ih =>
    unfold insertList
    split
    · exact Nat.le_refl _
    · split
      · exact Nat.le_succ _
      · exact Nat.succ_le_succ ih

namespace Message

/-- A message with at most `n` options that is read on the other side as it was written. -/
structure Travels (m : Message) (n : Nat) : Prop where
  header : m.toHeader.Plain
  fits : m.hlen.toNat ≤ hardwareWidth
  options : ∀ o ∈ m.options.toList, o.Travels
  few : m.options.toList.length ≤ n

namespace Travels

variable {m : Message} {n : Nat}

theorem mono (travels : m.Travels n) {k : Nat} (le : n ≤ k) : m.Travels k :=
  ⟨travels.header, travels.fits, travels.options, travels.few.trans le⟩

/-! ### Building -/

/-- Only the operation code, the hardware address and the names of a header matter. -/
theorem of_same (travels : m.Travels n) {k : Message} (op : k.op = m.op) (hlen : k.hlen = m.hlen)
    (chaddr : k.chaddr = m.chaddr) (sname : k.sname = m.sname) (file : k.file = m.file)
    (options : k.options = m.options) : k.Travels n := by
  constructor
  · have plain := travels.header
    exact ⟨op ▸ plain.notRequest, op ▸ plain.notReply, hlen ▸ chaddr ▸ plain.hlen,
      sname ▸ plain.sname, sname ▸ plain.snameEnd, file ▸ plain.file, file ▸ plain.fileEnd⟩
  · exact hlen ▸ travels.fits
  · exact options ▸ travels.options
  · exact options ▸ travels.few

/-- A message that travels does so with one more option that does. -/
theorem withOption (travels : m.Travels n) {o : Opt} (whole : o.Travels) :
    (m.withOption o).Travels (n + 1) := by
  unfold Message.withOption
  split
  · exact travels.mono (Nat.le_succ n)
  · refine ⟨travels.header, travels.fits, ?_, ?_⟩
    · intro p mem
      rcases Options.mem_insertList mem with rfl | mem
      · exact whole
      · exact travels.options p mem
    · calc (Options.insertList o m.options.toList).length
          ≤ m.options.toList.length + 1 := Options.length_insertList_le ..
        _ ≤ n + 1 := Nat.succ_le_succ travels.few

theorem withOptions (travels : m.Travels n) {os : List Opt} (whole : ∀ o ∈ os, o.Travels) :
    (m.withOptions os).Travels (n + os.length) := by
  induction os generalizing m n with
  | nil => exact travels
  | cons o os ih =>
    obtain ⟨first, whole⟩ := List.forall_mem_cons.mp whole
    have behind := ih (travels.withOption first) whole
    rw [List.length_cons, Nat.add_comm os.length, ← Nat.add_assoc]
    exact behind

end Travels

/-- A new message travels. -/
theorem travels_new (op : OpCode) (known : OpCode.ofOctet op.toOctet = op) (xid : UInt32) :
    (new op xid).Travels 0 := by
  obtain ⟨notRequest, notReply⟩ := OpCode.ofOctet_toOctet_iff.mp known
  refine ⟨⟨notRequest, notReply, rfl, Nat.zero_le 64, nofun, Nat.zero_le 128, nofun⟩, ?_, nofun,
    Nat.le_refl 0⟩
  show 6 ≤ 16
  decide

/-- A message that asks travels, with its type as its one option. -/
theorem travels_ask (type : MessageType) (named : type ∈ MessageType.named) (xid : UInt32) :
    (ask type xid).Travels 1 :=
  (travels_new .bootRequest rfl xid).withOption (Opt.travels_messageType named)

/-- The bare reply to a message that travels travels. -/
theorem Travels.reply {m : Message} {n : Nat} (travels : m.Travels n) : (reply m).Travels 0 := by
  obtain ⟨header, -, options, few⟩ := travels_new .bootReply rfl m.xid
  exact ⟨{ header with hlen := travels.header.hlen }, travels.fits, options, few⟩

/-- A grant to a message that travels travels, with two options. -/
theorem Travels.granting {m : Message} {n : Nat} (travels : m.Travels n) {type : MessageType}
    (named : type ∈ MessageType.named) (addr : Ipv4) : (granting m type addr).Travels 2 :=
  ((travels.reply.withOption (Opt.travels_messageType named)).withOption
    (Opt.travels_seconds .leaseTime defaultLeaseTime)).of_same rfl rfl rfl rfl rfl rfl

/-! ### Writing and reading -/

namespace Travels

variable {m : Message} {n : Nat}

theorem encode (travels : m.Travels n) : m.encode = .ok m.octets :=
  encode_eq_ok_iff.mpr ⟨fun o mem => (travels.options o mem).writable, rfl⟩

/-- The length of a message that travels is bounded by the number of its options. -/
theorem length_octets_le (travels : m.Travels n) : m.octets.length ≤ 241 + 257 * n :=
  calc m.octets.length
      ≤ 241 + 257 * m.options.toList.length :=
        Message.length_octets_le fun o mem => (travels.options o mem).writable
    _ ≤ 241 + 257 * n := by
        have few := travels.few
        omega

/-- A receiver sees all of a datagram with at most seven options. -/
theorem received (travels : m.Travels 7) : received m.octets = m.octets := by
  apply List.take_of_length_le
  show m.octets.length ≤ 2048
  exact travels.length_octets_le.trans (by decide)

/-- A packet with a message of at most seven options can be sent. -/
theorem packet_fits (travels : m.Travels 7) (target : Endpoint) :
    (Packet.mk target m.octets).fits = true := by
  apply decide_eq_true
  show m.octets.length ≤ 65507
  exact travels.length_octets_le.trans (by decide)

/-- A receiver reads a message of at most seven options as it was, although it cuts what it reads.
-/
theorem decodeWith_received (travels : m.Travels 7) :
    decodeWith .standard (Dhcp.received m.octets) = .ok m := by
  rw [travels.received]
  apply (decode_octets_eq_self_iff (fun o mem => (travels.options o mem).writable)
    (fun o mem => (travels.options o mem).unframed) travels.fits).mpr
  exact ⟨travels.header, fun o mem => (travels.options o mem).plain⟩

end Travels

end Message

end Dhcp
