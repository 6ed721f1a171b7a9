import Dhcp.Message.Forms
import Dhcp.Proofs.NormalForm
import Dhcp.Proofs.Reply

/-!
# Messages under any sequence of edits

A message is made from nothing, by one of the forms of a request, or by reading a datagram, and then
it is edited: options are put in and taken out, header fields are set, a reply is made of it, or it
is written and read again. `Edit` is one such thing and `Message.edit` does it.

`Edit.leaves` says what an edit leaves under a code. Of every edit this is told by the options that
it puts in and by what it keeps of what was there; `option?_edit` is that account, and the laws
below need nothing else of an edit, but for what it does to the hardware address.

**The law** (`Message.edits_keep_form`): whatever was done to a message, it never has an option
whose code frames the option area, its hardware length is the length of its hardware address unless
one of them was assigned, and under each code stands what the last edit left that has to do with it.
-/

namespace Dhcp

/-! ## Edits -/

/-- Something that is done to a message. -/
inductive Edit where
  | setOption (o : Opt)
  | removeOption (code : UInt8)
  | extendOptions (os : List Opt)
  | setMessageType (type : MessageType)
  | setHostName (name : String)
  | setNotice (notice : String)
  | setServerName (name : String)
  | setBootFile (name : String)
  | setHardwareAddress (htype : UInt8) (addr : Octets)
  | setMac (mac : Mac)
  | setBroadcast (on : Bool)
  /-- Go on with a reply to the message. -/
  | reply
  | offer (addr : Ipv4)
  | ack (addr : Ipv4)
  | nak (reason : String)
  /-- Write the message and go on with what is read of it. -/
  | reload (r : Registry)
  /-- Assign fields of the header. -/
  | assign (f : Header → Header)

namespace Message

/-- What is read of a message that is written. -/
def reload (m : Message) (r : Registry) : Except WireFault Message :=
  match m.encode with
  | .error fault => .error fault
  | .ok datagram => decodeWith r datagram

/-- The message that an attempt gives; one that is refused leaves the message as it was. -/
def attempt (m : Message) : Except WireFault Message → Except WireFault (Option Opt) × Message
  | .error fault => (.error fault, m)
  | .ok n => (.ok none, n)

/-- Does what an edit says; the first part is the option that was replaced or taken out, or why the
edit was refused. -/
def edit (m : Message) : Edit → Except WireFault (Option Opt) × Message
  | .setOption o =>
    let (replaced, n) := m.setOption o
    (.ok replaced, n)
  | .removeOption code =>
    let (removed, n) := m.removeOption code
    (.ok removed, n)
  | .extendOptions os => (.ok none, m.withOptions os)
  | .setMessageType type => (.ok none, m.withMessageType type)
  | .setHostName name => (.ok none, m.withHostName name)
  | .setNotice notice => (.ok none, m.withNotice notice)
  | .setServerName name => (.ok none, m.withServerName name)
  | .setBootFile name => (.ok none, m.withBootFile name)
  | .setHardwareAddress htype addr => m.attempt (m.withHardwareAddress htype addr)
  | .setMac mac => (.ok none, m.withMac mac)
  | .setBroadcast on => (.ok none, m.withBroadcast on)
  | .reply => (.ok none, Message.reply m)
  | .offer addr => (.ok none, Message.offer m addr)
  | .ack addr => (.ok none, Message.ack m addr)
  | .nak reason => (.ok none, Message.nak m reason)
  | .reload r => m.attempt (m.reload r)
  | .assign f => (.ok none, { f m.toHeader with options := m.options })

/-- Does what edits say, one after another. -/
def edits (m : Message) (es : List Edit) : Message := es.foldl (fun n e => (n.edit e).2) m

end Message

namespace Edit

/-- The options that an edit puts in. -/
def puts : Edit → List Opt
  | setOption o => [o]
  | extendOptions os => os
  | setMessageType type => [.messageType type]
  | setHostName name => if name.isEmpty then [] else [.text .hostName name]
  | setNotice notice => [.text .message notice]
  | offer _ => [.messageType .offer, .seconds .leaseTime defaultLeaseTime]
  | ack _ => [.messageType .ack, .seconds .leaseTime defaultLeaseTime]
  | nak reason => [.messageType .nak, .text .message reason]
  | _ => []

/-- What an edit keeps under a code, where it puts nothing in. A reply has nothing of the options of
its request, and a message that is read again has what the registry makes of what was written. -/
def keeps (m : Message) (code : UInt8) : Edit → Option Opt
  | removeOption gone => if code = gone then none else m.option? code
  | reply => none
  | offer _ => none
  | ack _ => none
  | nak _ => none
  | reload r =>
    match m.reload r with
    | .error _ => m.option? code
    | .ok _ => (m.option? code).bind fun o => (r.decode code o.payload).toOption
  | _ => m.option? code

/-- What an edit of a message leaves under a code. -/
def leaves (m : Message) (code : UInt8) (e : Edit) : Option Opt :=
  (Opt.lastUnder code e.puts).or (e.keeps m code)

/-- Whether an edit has to do with the option of a code. -/
def affects (code : UInt8) : Edit → Bool
  | removeOption gone => code = gone
  | reply => true
  | offer _ => true
  | ack _ => true
  | nak _ => true
  | reload _ => true
  | e => (Opt.lastUnder code e.puts).isSome

/-- Whether an edit leaves the hardware address to the operations that are for it. -/
def KeepsHardware : Edit → Prop
  | assign f => ∀ h, (f h).hlen = h.hlen ∧ (f h).chaddr = h.chaddr
  | _ => True

section Leaves

variable {m : Message} {code : UInt8} {e : Edit}

/-- An edit that puts nothing in leaves what it keeps. -/
theorem leaves_of_puts_nothing (nothing : e.puts = []) : e.leaves m code = e.keeps m code := by
  rw [leaves, nothing, Opt.lastUnder_nil, Option.none_or]

/-- An edit that does not affect a code leaves what stands there. -/
theorem leaves_of_not_affects (apart : e.affects code = false) :
    e.leaves m code = m.option? code := by
  cases e with
  | removeOption gone =>
    have other : code ≠ gone := by simpa [affects] using apart
    rw [leaves_of_puts_nothing rfl]
    exact if_neg other
  | reply => cases apart
  | offer => cases apart
  | ack => cases apart
  | nak => cases apart
  | reload => cases apart
  | _ =>
    rw [leaves, Option.not_isSome_iff_eq_none.mp (Bool.eq_false_iff.mp apart), Option.none_or]
    rfl

/-- Under a code that frames the option area nothing is put, so an edit keeps it empty. -/
theorem leaves_of_framing (framing : Message.isFraming code = true)
    (clear : m.option? code = none) : e.leaves m code = none := by
  have put : Opt.lastUnder code e.puts = none := if_pos (Message.isFraming_iff.mp framing)
  rw [leaves, put, Option.none_or]
  cases e with
  | removeOption gone => simp only [keeps, clear, ite_self]
  | reply => rfl
  | offer => rfl
  | ack => rfl
  | nak => rfl
  | reload r =>
    simp only [keeps, clear]
    cases m.reload r <;> rfl
  | _ => exact clear

end Leaves

end Edit

namespace Message

variable {m n : Message} {r : Registry} {code : UInt8} {e : Edit}

/-! ## Single edits -/

/-- Setting the host name lays it over the message. -/
theorem withHostName_eq (m : Message) (name : String) :
    m.withHostName name = m.withOptions (Edit.setHostName name).puts := by
  by_cases empty : name.isEmpty <;> simp [withHostName, Edit.puts, withOptions, empty]

/-- An address of more than 16 octets is refused; any other stands in the header with its length. -/
theorem edit_setHardwareAddress (m : Message) (htype : UInt8) (addr : Octets) :
    m.edit (.setHardwareAddress htype addr) =
      if 16 < addr.length then
        (.error (.invalidHardwareLength (UInt8.ofNat (min addr.length 255))), m)
      else
        (.ok none, { m with htype := htype, hlen := UInt8.ofNat addr.length, chaddr := addr }) := by
  by_cases long : 16 < addr.length
  · have refused : m.withHardwareAddress htype addr = .error _ := if_pos long
    rw [if_pos long, edit, refused]
    rfl
  · have taken : m.withHardwareAddress htype addr = .ok _ := if_neg long
    rw [if_neg long, edit, taken]
    rfl

/-- A message that was reloaded was read from what it was written as. -/
theorem exists_datagram_of_reload (back : m.reload r = .ok n) :
    ∃ datagram, m.encode = .ok datagram ∧ decodeWith r datagram = .ok n := by
  unfold reload at back
  split at back
  · cases back
  · next datagram written => exact ⟨datagram, written, back⟩

/-- A refused edit changes nothing. -/
theorem edit_of_refused {fault : WireFault} (refused : (m.edit e).1 = .error fault) :
    (m.edit e).2 = m := by
  have kept (result : Except WireFault Message) (refused : (m.attempt result).1 = .error fault) :
      (m.attempt result).2 = m := by
    cases result with
    | error cause => rfl
    | ok n => cases refused
  cases e with
  | setHardwareAddress htype addr => exact kept _ refused
  | reload r => exact kept _ refused
  | _ => cases refused

/-- An option with a framing code is dropped without a word. -/
theorem edit_setOption_of_framing {o : Opt} (frames : isFraming o.code = true) :
    m.edit (.setOption o) = (.ok none, m) := by
  have nothing : (m.setOption o).1 = none := if_pos frames
  have same : m.withOption o = m := if_pos frames
  calc m.edit (.setOption o)
      = (.ok (m.setOption o).1, m.withOption o) := rfl
    _ = (.ok none, m) := by rw [nothing, same]

/-! ## What is found under a code -/

/-- Under the codes that frame the option area there is nothing. -/
theorem unframed_iff :
    m.Unframed ↔ ∀ code, isFraming code = true → m.option? code = none := by
  constructor
  · intro unframed code frames
    refine Option.eq_none_iff_forall_ne_some.mpr fun o found => ?_
    have apart := unframed o (List.mem_of_find?_eq_some found)
    rw [Options.code_of_get? found] at apart
    exact not_or.mpr apart (isFraming_iff.mp frames)
  · intro clear o mem
    refine not_or.mp fun frames => ?_
    have found : m.option? o.code = some o := Options.mem_toList_iff.mp mem
    cases found.symm.trans (clear o.code (isFraming_iff.mpr frames))

/-- A reload decodes the payload of every option anew. -/
theorem option?_reload (unframed : m.Unframed) (back : m.reload r = .ok n) (code : UInt8) :
    n.option? code = (m.option? code).bind fun o => (r.decode code o.payload).toOption := by
  obtain ⟨datagram, written, decoded⟩ := exists_datagram_of_reload back
  obtain ⟨writable, rfl⟩ := encode_eq_ok_iff.mp written
  have fits : m.hlen.toNat ≤ hardwareWidth := hlen_octets m ▸ (header_of_decodeWith decoded).2
  have accepted := accepts_of_decodeWith_octets writable unframed fits decoded
  obtain ⟨n', decoded', -, found⟩ := decodeWith_octets r writable unframed fits accepted
  cases decoded.symm.trans decoded'
  exact found code

/-- An edit leaves under each code what it says. -/
theorem option?_edit (unframed : m.Unframed) (e : Edit) (code : UInt8) :
    (m.edit e).2.option? code = e.leaves m code := by
  cases e with
  | setOption o => exact option?_withOptions m [o] code
  | removeOption gone =>
    rw [Edit.leaves_of_puts_nothing rfl]
    exact Options.get?_erase ..
  | extendOptions os => exact option?_withOptions m os code
  | setMessageType type => exact option?_withOptions m [.messageType type] code
  | setHostName name =>
    rw [edit, withHostName_eq]
    exact option?_withOptions ..
  | setNotice notice => exact option?_withOptions m [.text .message notice] code
  | reply => rw [Edit.leaves_of_puts_nothing rfl]; rfl
  | offer addr => exact (holds_granting m .offer addr code).trans Option.or_none.symm
  | ack addr => exact (holds_granting m .ack addr code).trans Option.or_none.symm
  | nak reason =>
    have holds := (Holds.empty (m := Message.reply m) rfl).withOptions
      [.messageType .nak, .text .message reason]
    exact (holds code).trans Option.or_none.symm
  | reload r =>
    rw [Edit.leaves_of_puts_nothing rfl, Edit.keeps]
    cases back : m.reload r with
    | error fault =>
      simp only [edit, back]
      rfl
    | ok n =>
      simp only [edit, back]
      exact option?_reload unframed back code
  | setHardwareAddress htype addr =>
    rw [Edit.leaves_of_puts_nothing rfl, edit_setHardwareAddress]
    split <;> rfl
  | _ =>
    rw [Edit.leaves_of_puts_nothing rfl]
    rfl

/-- No edit puts in an option that frames the area. -/
theorem Unframed.edit (unframed : m.Unframed) (e : Edit) : (m.edit e).2.Unframed := by
  refine unframed_iff.mpr fun code frames => ?_
  rw [option?_edit unframed]
  exact Edit.leaves_of_framing frames (unframed_iff.mp unframed code frames)

/-- Putting an option in tells the one that was there, also where there can be none. -/
theorem edit_setOption_fst (unframed : m.Unframed) (o : Opt) :
    (m.edit (.setOption o)).1 = .ok (m.option? o.code) := by
  by_cases frames : isFraming o.code = true
  · have nothing : (m.setOption o).1 = none := if_pos frames
    rw [unframed_iff.mp unframed o.code frames, ← nothing]
    rfl
  · have replaced : (m.setOption o).1 = m.option? o.code := if_neg frames
    rw [← replaced]
    rfl

/-! ## The hardware address -/

/-- The hardware length is the length of the hardware address, which fits its slot. -/
structure HardwareFits (m : Message) : Prop where
  hlen : m.hlen.toNat = m.chaddr.length
  short : m.chaddr.length ≤ 16

theorem HardwareFits.of_same (fits : m.HardwareFits) (hlen : n.hlen = m.hlen)
    (chaddr : n.chaddr = m.chaddr) : n.HardwareFits :=
  ⟨by rw [hlen, chaddr, fits.hlen], chaddr ▸ fits.short⟩

theorem HardwareFits.of_header (fits : m.HardwareFits) (header : n.toHeader = m.toHeader) :
    n.HardwareFits :=
  fits.of_same (congrArg Header.hlen header :) (congrArg Header.chaddr header :)

theorem hardwareFits_new (op : OpCode) (xid : UInt32) : (new op xid).HardwareFits :=
  ⟨rfl, (by decide : 6 ≤ 16)⟩

/-- The hardware address of a message that was read fits. -/
theorem hardwareFits_of_decodeWith {data : Octets} (decoded : decodeWith r data = .ok m) :
    m.HardwareFits := by
  obtain ⟨long, narrow⟩ := header_of_decodeWith decoded
  have header := toHeader_of_decodeWith decoded
  have plain : m.toHeader.Plain := header ▸ Header.plain_ofOctets long narrow
  have hlen : m.hlen = data.getD 2 0 := (congrArg Header.hlen header :)
  exact ⟨plain.hlen, plain.hlen ▸ hlen ▸ narrow⟩

/-- An edit that leaves the hardware address alone, or sets it, leaves one that fits. -/
theorem HardwareFits.edit (fits : m.HardwareFits) {e : Edit} (keeps : e.KeepsHardware) :
    (m.edit e).2.HardwareFits := by
  cases e with
  | setOption o => exact fits.of_header (toHeader_withOption m o)
  | extendOptions os => exact fits.of_header (toHeader_withOptions m os)
  | setMessageType type => exact fits.of_header (toHeader_withOption m _)
  | setHostName name =>
    rw [Message.edit, withHostName_eq]
    exact fits.of_header (toHeader_withOptions ..)
  | setNotice notice => exact fits.of_header (toHeader_withOption m _)
  | setHardwareAddress htype addr =>
    rw [edit_setHardwareAddress]
    split
    · exact fits
    · next long =>
      have short : addr.length ≤ 16 := Nat.le_of_not_lt long
      exact ⟨UInt8.toNat_ofNat_of_lt' (Nat.lt_of_le_of_lt short (by decide)), short⟩
  | setMac mac => exact ⟨mac.length_octets.symm, mac.length_octets.le.trans (by decide)⟩
  | offer addr =>
    have header := toHeader_granting m .offer addr
    exact fits.of_same (congrArg Header.hlen header :) (congrArg Header.chaddr header :)
  | ack addr =>
    have header := toHeader_granting m .ack addr
    exact fits.of_same (congrArg Header.hlen header :) (congrArg Header.chaddr header :)
  | nak reason =>
    have header := toHeader_withOptions (Message.reply m)
      [.messageType .nak, .text .message reason]
    exact fits.of_same (congrArg Header.hlen header :) (congrArg Header.chaddr header :)
  | reload r =>
    cases back : m.reload r with
    | error fault =>
      simp only [Message.edit, back]
      exact fits
    | ok n =>
      obtain ⟨datagram, -, decoded⟩ := exists_datagram_of_reload back
      simp only [Message.edit, back]
      exact hardwareFits_of_decodeWith decoded
  | assign f => exact fits.of_same (keeps m.toHeader).1 (keeps m.toHeader).2
  | _ => exact fits.of_same rfl rfl

/-! ## Sequences of edits -/

variable {es : List Edit}

/-- What each of several edits keeps is kept by all of them. -/
theorem edits_keep {P : Message → Prop} (kept : ∀ {n : Message}, ∀ e ∈ es, P n → P (n.edit e).2)
    (start : P m) : P (m.edits es) := by
  induction es generalizing m with
  | nil => exact start
  | cons e es ih =>
    exact ih (fun e' mem => kept e' (List.mem_cons_of_mem _ mem)) (kept e List.mem_cons_self start)

theorem Unframed.edits (unframed : m.Unframed) (es : List Edit) : (m.edits es).Unframed :=
  edits_keep (fun e _ unframed => unframed.edit e) unframed

theorem HardwareFits.edits (fits : m.HardwareFits) (keeps : ∀ e ∈ es, e.KeepsHardware) :
    (m.edits es).HardwareFits :=
  edits_keep (fun e mem fits => fits.edit (keeps e mem)) fits

/-- Under a code that an edit does not affect stands what stood there. -/
theorem option?_edit_of_not_affects (unframed : m.Unframed) (apart : e.affects code = false) :
    (m.edit e).2.option? code = m.option? code := by
  rw [option?_edit unframed, Edit.leaves_of_not_affects apart]

/-- Under a code that no edit affects stands what stood there. -/
theorem option?_edits_of_not_affects (unframed : m.Unframed)
    (apart : ∀ e ∈ es, e.affects code = false) :
    (m.edits es).option? code = m.option? code := by
  have both := edits_keep (P := fun n => n.Unframed ∧ n.option? code = m.option? code)
    (fun e mem held => ⟨held.1.edit e,
      (option?_edit_of_not_affects held.1 (apart e mem)).trans held.2⟩) ⟨unframed, rfl⟩
  exact both.2

/-- The last edit that has to do with a code decides what stands under it. -/
theorem option?_edits_of_last (unframed : m.Unframed) (before : List Edit) (e : Edit)
    {after : List Edit} (apart : ∀ e' ∈ after, e'.affects code = false) :
    (m.edits (before ++ e :: after)).option? code = e.leaves (m.edits before) code := by
  have unframed' := unframed.edits before
  calc (m.edits (before ++ e :: after)).option? code
      = (((m.edits before).edit e).2.edits after).option? code := by
        rw [edits, List.foldl_append]
        rfl
    _ = ((m.edits before).edit e).2.option? code :=
        option?_edits_of_not_affects (unframed'.edit e) apart
    _ = e.leaves (m.edits before) code := option?_edit unframed' e code

/-! ## Where messages come from -/

/-- A message in one of the forms in which a client begins it, with the options that the form has.
-/
inductive Form : Message → List Opt → Prop where
  | new (op : OpCode) (xid : UInt32) : Form (new op xid) []
  | discover (xid : UInt32) : Form (discover xid) [.messageType .discover]
  | request (xid : UInt32) : Form (request xid) [.messageType .request]
  | decline (addr : Ipv4) (server? : Option Ipv4) (xid : UInt32) :
      Form (decline addr server? xid)
        ([.messageType .decline, .address .requestedAddress addr] ++
          server?.toList.map (.address .serverIdentifier))
  | renew (client : Ipv4) (xid : UInt32) : Form (renew client xid) [.messageType .request]
  | release (client : Ipv4) (xid : UInt32) : Form (release client xid) [.messageType .release]
  | inform (client : Ipv4) (xid : UInt32) : Form (inform client xid) [.messageType .inform]

/-- A message that was not edited yet, with what stands under each code: it has one of the forms, or
it was read, and then it has what the registry makes of the last triple of the code. -/
inductive Origin : Message → (UInt8 → Option Opt) → Prop where
  | form {m : Message} {os : List Opt} (form : Form m os) :
      Origin m fun code => Opt.lastUnder code os
  | read {r : Registry} {data : Octets} {m : Message} (decoded : decodeWith r data = .ok m) :
      Origin m fun code =>
        (Area.lastUnder code (Area.read (data.drop 240)).triples).bind fun t =>
          (r.decode t.code t.payload).toOption

/-- A form is a new message with its options laid over it, but for the address of the client. -/
theorem Form.exists_laid {os : List Opt} (form : Form m os) : ∃ op xid ciaddr,
    m = { (Message.new op xid).withOptions os with ciaddr := ciaddr } := by
  cases form with
  | new op xid => exact ⟨op, xid, .unspecified, rfl⟩
  | discover xid => exact ⟨.bootRequest, xid, .unspecified, rfl⟩
  | request xid => exact ⟨.bootRequest, xid, .unspecified, rfl⟩
  | decline addr server? xid =>
    cases server? with
    | none => exact ⟨.bootRequest, xid, .unspecified, rfl⟩
    | some server => exact ⟨.bootRequest, xid, .unspecified, rfl⟩
  | renew client xid => exact ⟨.bootRequest, xid, client, rfl⟩
  | release client xid => exact ⟨.bootRequest, xid, client, rfl⟩
  | inform client xid => exact ⟨.bootRequest, xid, client, rfl⟩

/-- A form holds the options that were put in, the last of each code. -/
theorem Form.holds {os : List Opt} (form : Form m os) : m.Holds os := by
  obtain ⟨op, xid, ciaddr, rfl⟩ := form.exists_laid
  exact (Holds.empty (m := Message.new op xid) rfl).withOptions os

theorem Form.hardwareFits {os : List Opt} (form : Form m os) : m.HardwareFits := by
  obtain ⟨op, xid, ciaddr, rfl⟩ := form.exists_laid
  exact ((hardwareFits_new op xid).of_header (toHeader_withOptions _ os)).of_same rfl rfl

/-- A message that holds options that were put in has none that frames the area. -/
theorem Holds.unframed {os : List Opt} (holds : m.Holds os) : m.Unframed :=
  unframed_iff.mpr fun code frames => (holds code).trans (if_pos (isFraming_iff.mp frames))

/-- Under a code of a message that was read stands what the last triple with the code decodes to. -/
theorem option?_of_decodeWith {data : Octets} (decoded : decodeWith r data = .ok m)
    (code : UInt8) :
    m.option? code = (Area.lastUnder code (Area.read (data.drop 240)).triples).bind fun t =>
      (r.decode t.code t.payload).toOption := by
  obtain ⟨long, fits⟩ := header_of_decodeWith decoded
  obtain ⟨items, tail, cut, ends, -, -, found⟩ := (decodeWith_eq_ok_iff long fits).mp decoded
  rw [cut.read ends]
  exact found code

/-- A message that was read has no option that frames the area. -/
theorem unframed_of_decodeWith {data : Octets} (decoded : decodeWith r data = .ok m) :
    m.Unframed := by
  obtain ⟨long, fits⟩ := header_of_decodeWith decoded
  obtain ⟨items, -, -, -, -, -, found⟩ := (decodeWith_eq_ok_iff long fits).mp decoded
  intro o mem
  have here := (found o.code).symm.trans (Options.mem_toList_iff.mp mem)
  obtain ⟨t, last, -⟩ := Option.bind_eq_some_iff.mp here
  obtain ⟨mem, same⟩ := Area.mem_of_lastUnder last
  have framed := Item.framed_of_mem mem
  exact same ▸ ⟨framed.notPad, framed.notEnd⟩

namespace Origin

variable {first : UInt8 → Option Opt}

/-- A message has the options of its origin. -/
theorem option? (origin : Origin m first) (code : UInt8) : m.option? code = first code := by
  cases origin with
  | form form => exact form.holds code
  | read decoded => exact option?_of_decodeWith decoded code

/-- No message has options that frame the area, wherever it comes from. -/
theorem unframed (origin : Origin m first) : m.Unframed := by
  cases origin with
  | form form => exact form.holds.unframed
  | read decoded => exact unframed_of_decodeWith decoded

theorem hardwareFits (origin : Origin m first) : m.HardwareFits := by
  cases origin with
  | form form => exact form.hardwareFits
  | read decoded => exact hardwareFits_of_decodeWith decoded

end Origin

/-! ## The form of a message -/

/-- A message that is new, has one of the forms or was read, of any octets and by any registry, and
was then edited in any way, is in order. Every option stands under its own code, and the options are
listed in ascending order of their codes; none has a code that frames the option area. As long as
neither is assigned, the hardware length is the length of the hardware address and at most 16. Under
each code stands what the last edit left that has to do with it, or what stood there at first if
there is none. Another edit tells the option that it replaces or takes out, does not touch options
that it has nothing to do with, and changes nothing if it is refused, which a hardware address is
exactly if it is longer than its slot; an option whose code frames the area is not taken in. -/
theorem edits_keep_form (m : Message) (first : UInt8 → Option Opt) (origin : Origin m first)
    (es : List Edit) :
    let n := m.edits es
    ((∀ code o, n.option? code = some o → o.code = code) ∧
      (∀ o, o ∈ n.options.toList ↔ n.option? o.code = some o) ∧
      n.options.toList.Pairwise (fun o p => o.code < p.code) ∧
      ∀ o ∈ n.options.toList, o.code ≠ 0 ∧ o.code ≠ 255) ∧
    ((∀ e ∈ es, e.KeepsHardware) → n.hlen.toNat = n.chaddr.length ∧ n.chaddr.length ≤ 16) ∧
    (∀ code,
      ((∀ e ∈ es, e.affects code = false) → n.option? code = first code) ∧
      ∀ before e after, es = before ++ e :: after → (∀ e' ∈ after, e'.affects code = false) →
        n.option? code = e.leaves (m.edits before) code) ∧
    (∀ o, (n.edit (.setOption o)).1 = .ok (n.option? o.code) ∧
      (o.code = 0 ∨ o.code = 255 → n.edit (.setOption o) = (.ok none, n))) ∧
    (∀ code, (n.edit (.removeOption code)).1 = .ok (n.option? code)) ∧
    (∀ e code, e.affects code = false → (n.edit e).2.option? code = n.option? code) ∧
    (∀ e fault, (n.edit e).1 = .error fault → (n.edit e).2 = n) ∧
    ∀ htype addr, n.edit (.setHardwareAddress htype addr) =
      if 16 < addr.length then
        (.error (.invalidHardwareLength (UInt8.ofNat (min addr.length 255))), n)
      else
        (.ok none, { n with htype := htype, hlen := UInt8.ofNat addr.length, chaddr := addr }) := by
  intro n
  have unframed : n.Unframed := origin.unframed.edits es
  refine ⟨⟨fun _ _ => Options.code_of_get?, fun _ => Options.mem_toList_iff, n.options.ascending,
    unframed⟩, ?_, fun code => ⟨?_, ?_⟩, fun o => ⟨?_, ?_⟩, fun _ => rfl, ?_, ?_, ?_⟩
  · intro keeps
    have fits := origin.hardwareFits.edits keeps
    exact ⟨fits.hlen, fits.short⟩
  · intro apart
    exact (option?_edits_of_not_affects origin.unframed apart).trans (origin.option? code)
  · rintro before e after rfl apart
    exact option?_edits_of_last origin.unframed before e apart
  · exact edit_setOption_fst unframed o
  · intro frames
    exact edit_setOption_of_framing (isFraming_iff.mpr frames)
  · intro e code apart
    exact option?_edit_of_not_affects unframed apart
  · intro e fault refused
    exact edit_of_refused refused
  · exact edit_setHardwareAddress n

/-- A registry makes an option of another code of a host name, so the host name is kept raw. Then a
request type is put in, and an option of the end code, an address that is too long and an empty host
name are not. -/
theorem edits_keep_form_foreign :
    let r := Registry.standard.set 12 (some fun _ _ => .ok (.text .message "vendor"))
    let data : Octets := List.replicate 240 0 ++ [12, 3, 97, 98, 99, 53, 1, 1, 255]
    let es : List Edit := [.setOption (.raw 255 [1]), .setMessageType .request,
      .setHardwareAddress 6 (List.replicate 17 0), .setHostName "", .removeOption 56]
    ∃ m, decodeWith r data = .ok m ∧
      (m.edits es).option? 12 = some (.raw 12 [97, 98, 99]) ∧
      (m.edits es).option? 53 = some (.messageType .request) ∧
      (m.edits es).option? 255 = none ∧
      (m.edits es).hlen.toNat = (m.edits es).chaddr.length ∧
      ((m.edits es).edit (.removeOption 12)).1 = .ok (some (.raw 12 [97, 98, 99])) := by
  intro r data es
  have readable : (decodeWith r data).toOption.isSome = true := by decide +kernel
  cases decoded : decodeWith r data with
  | error fault => simp [decoded, Except.toOption] at readable
  | ok m =>
    obtain ⟨⟨-, -, -, unframed⟩, hardware, found, -, removed, -⟩ :=
      edits_keep_form m _ (.read decoded) es
    have kept : (m.edits es).option? 12 = some (.raw 12 [97, 98, 99]) :=
      ((found 12).1 (by decide)).trans (by decide +kernel)
    have typed : (m.edits es).option? 53 = some (.messageType .request) :=
      (found 53).2 [.setOption (.raw 255 [1])] (.setMessageType .request) _ rfl (by decide)
    have clear : (m.edits es).option? 255 = none :=
      unframed_iff.mp unframed 255 rfl
    have plain : ∀ e ∈ es, e.KeepsHardware := by
      simp [es, Edit.KeepsHardware]
    exact ⟨m, rfl, kept, typed, clear, (hardware plain).1, (removed 12).trans (by rw [kept])⟩

end Message

end Dhcp
