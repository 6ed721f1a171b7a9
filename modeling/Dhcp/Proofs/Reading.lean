import Dhcp.Client.Lease
import Dhcp.Proofs.OptionMap

/-!
# What is read from the options of a message

Some readings look under one code for a value of its format; a lease is read by searching all
options for such values, wherever they stand. Since a message has one option under each code, and an
option of a format carries its code, a reading answers with a value exactly if the option that holds
the value is there.

**The laws** (`Lease.ofAck_eq_iff`, `messageType?_eq_some_iff` and those behind it): readings of
both kinds are membership.
-/

namespace Dhcp

namespace Options

/-- Among options with distinct codes, searching for what only those of one code have finds what any
of them has. -/
theorem Distinct.findSome?_eq_some_iff {ps : List Opt} (distinct : Distinct ps) {α : Type}
    {f : Opt → Option α} {code : UInt8} (only : ∀ o a, f o = some a → o.code = code) {a : α} :
    ps.findSome? f = some a ↔ ∃ o ∈ ps, f o = some a := by
  constructor
  · exact List.exists_of_findSome?_eq_some
  · rintro ⟨o, mem, value⟩
    cases found : ps.findSome? f with
    | none =>
      rw [List.findSome?_eq_none_iff.mp found o mem] at value
      cases value
    | some b =>
      obtain ⟨p, other, value'⟩ := List.exists_of_findSome?_eq_some found
      have here := distinct.find?_eq_some_iff.mpr ⟨mem, only o a value⟩
      have there := distinct.find?_eq_some_iff.mpr ⟨other, only p b value'⟩
      cases here.symm.trans there
      exact value'.symm.trans value

variable (os : Options)

/-- Searching for an address finds the one of the option that is there. -/
theorem findSome?_addressOf_iff (use : AddressUse) {addr : Ipv4} :
    os.toList.findSome? (Lease.addressOf use) = some addr ↔ Opt.address use addr ∈ os.toList := by
  have holds {o : Opt} {a : Ipv4} : Lease.addressOf use o = some a ↔ o = .address use a := by
    cases o <;> simp [Lease.addressOf]
  rw [os.distinct.findSome?_eq_some_iff fun o a value => by rw [holds.mp value, Opt.code]]
  simp only [holds, exists_eq_right]

/-- Searching for a list of addresses finds the one of the option that is there. -/
theorem findSome?_addressesOf_iff (use : AddressListUse) {addrs : List Ipv4} :
    os.toList.findSome? (Lease.addressesOf use) = some addrs ↔
      Opt.addresses use addrs ∈ os.toList := by
  have holds {o : Opt} {a : List Ipv4} :
      Lease.addressesOf use o = some a ↔ o = .addresses use a := by
    cases o <;> simp [Lease.addressesOf]
  rw [os.distinct.findSome?_eq_some_iff fun o a value => by rw [holds.mp value, Opt.code]]
  simp only [holds, exists_eq_right]

/-- Searching for a time finds that of the option that is there. -/
theorem findSome?_durationOf_iff (use : SecondsUse) {time : Duration} :
    os.toList.findSome? (Lease.durationOf use) = some time ↔
      ∃ secs, Opt.seconds use secs ∈ os.toList ∧ .ofSeconds secs.toNat = time := by
  have holds {o : Opt} {t : Duration} :
      Lease.durationOf use o = some t ↔
        ∃ secs, o = .seconds use secs ∧ .ofSeconds secs.toNat = t := by
    cases o <;> simp [Lease.durationOf, and_comm, eq_comm]
  have only (o : Opt) (t : Duration) (value : Lease.durationOf use o = some t) :
      o.code = (Format.seconds use).code := by
    obtain ⟨secs, rfl, -⟩ := holds.mp value
    rfl
  rw [os.distinct.findSome?_eq_some_iff only]
  constructor
  · rintro ⟨o, mem, value⟩
    obtain ⟨secs, rfl, time⟩ := holds.mp value
    exact ⟨secs, mem, time⟩
  · rintro ⟨secs, mem, time⟩
    exact ⟨_, mem, holds.mpr ⟨secs, rfl, time⟩⟩

end Options

/-- A lease that is read holds the values of the options that are there, and no others. -/
theorem Lease.ofAck_eq_iff {ack : Message} {lease : Lease} :
    ofAck ack = lease ↔
      ack.yiaddr = lease.address ∧
      (∀ a, Opt.address .subnetMask a ∈ ack.options.toList ↔ lease.subnetMask = some a) ∧
      (∀ as, Opt.addresses .router as ∈ ack.options.toList ↔ lease.routers = some as) ∧
      (∀ as, Opt.addresses .domainNameServer as ∈ ack.options.toList ↔
        lease.nameServers = some as) ∧
      (∀ t, (∃ s, Opt.seconds .leaseTime s ∈ ack.options.toList ∧ .ofSeconds s.toNat = t) ↔
        lease.duration = some t) ∧
      (∀ t, (∃ s, Opt.seconds .renewalTime s ∈ ack.options.toList ∧ .ofSeconds s.toNat = t) ↔
        lease.renewalTime = some t) ∧
      (∀ t, (∃ s, Opt.seconds .rebindingTime s ∈ ack.options.toList ∧ .ofSeconds s.toNat = t) ↔
        lease.rebindingTime = some t) ∧
      ∀ a, Opt.address .serverIdentifier a ∈ ack.options.toList ↔
        lease.serverIdentifier = some a := by
  simp only [← Options.findSome?_addressOf_iff, ← Options.findSome?_addressesOf_iff,
    ← Options.findSome?_durationOf_iff, ← Option.ext_iff]
  cases lease
  simp only [ofAck, Lease.mk.injEq]

namespace Message

variable (m : Message)

theorem messageType?_eq_some_iff_found {m : Message} {type : MessageType} :
    m.messageType? = some type ↔
      m.option? Format.messageType.code = some (.messageType type) := by
  unfold messageType?
  cases m.option? _ with
  | none => simp
  | some o => cases o <;> simp

/-- A message has a type exactly if that stands among its options. -/
theorem messageType?_eq_some_iff {type : MessageType} :
    m.messageType? = some type ↔ Opt.messageType type ∈ m.options.toList := by
  rw [Options.mem_toList_iff]
  exact messageType?_eq_some_iff_found

theorem serverIdentifier?_eq_some_iff_found {m : Message} {server : Ipv4} :
    m.serverIdentifier? = some server ↔
      m.option? (Format.address .serverIdentifier).code =
        some (.address .serverIdentifier server) := by
  unfold serverIdentifier?
  cases m.option? _ with
  | none => simp
  | some o =>
    cases o with
    | address use addr => cases use <;> simp
    | _ => simp

/-- A message names a server exactly if that stands among its options. -/
theorem serverIdentifier?_eq_some_iff {server : Ipv4} :
    m.serverIdentifier? = some server ↔
      Opt.address .serverIdentifier server ∈ m.options.toList := by
  rw [Options.mem_toList_iff]
  exact serverIdentifier?_eq_some_iff_found

theorem requestedAddress?_eq_some_iff_found {m : Message} {addr : Ipv4} :
    m.requestedAddress? = some addr ↔
      m.option? (Format.address .requestedAddress).code =
        some (.address .requestedAddress addr) := by
  unfold requestedAddress?
  cases m.option? _ with
  | none => simp
  | some o =>
    cases o with
    | address use addr => cases use <;> simp
    | _ => simp

/-- A message requests an address exactly if that stands among its options. -/
theorem requestedAddress?_eq_some_iff {addr : Ipv4} :
    m.requestedAddress? = some addr ↔
      Opt.address .requestedAddress addr ∈ m.options.toList := by
  rw [Options.mem_toList_iff]
  exact requestedAddress?_eq_some_iff_found

theorem noticeText?_eq_some_iff_found {m : Message} {notice : String} :
    m.noticeText? = some notice ↔
      m.option? (Format.text .message).code = some (.text .message notice) := by
  unfold noticeText?
  cases m.option? _ with
  | none => simp
  | some o =>
    cases o with
    | text use value => cases use <;> simp
    | _ => simp

/-- A message gives a notice exactly if that stands among its options. -/
theorem noticeText?_eq_some_iff {notice : String} :
    m.noticeText? = some notice ↔ Opt.text .message notice ∈ m.options.toList := by
  rw [Options.mem_toList_iff]
  exact noticeText?_eq_some_iff_found

end Message

end Dhcp
