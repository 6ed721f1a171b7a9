import Dhcp.Client.Operation
import Dhcp.Proofs.Overlay
import Dhcp.Proofs.Reading
import Dhcp.Proofs.Travel
import Dhcp.Server.Handler
import Mathlib.Data.List.Perm.Subperm

/-!
# What the messages of a client hold

The messages of the six operations differ in few things: their type, the addresses in their header,
and which of five options they have beside those that every message of a client has. So they are
described as one header and one list of options, with the operation as a parameter, and everything
else is said of that description.

**The laws** (`exists_plan`, `Tells.travels`, `Tells.ofMessage?`): a client that knows what an
operation needs has a message for it that is as described, such a message travels whole if the texts
and lists that it carries fit options, and a server has exactly one route for it.
-/

namespace Dhcp

/-! ## Operations -/

namespace Operation

/-- The type of the message of an operation. -/
def type : Operation → MessageType
  | .discover => .discover
  | .request _ => .request
  | .decline _ _ => .decline
  | .renew => .request
  | .release => .release
  | .inform => .inform

/-- The transaction of an operation: that of the offer it is about, else a fresh one. -/
def transaction (fresh : UInt32) : Operation → UInt32
  | .request offer => offer.xid
  | .decline offer _ => offer.xid
  | _ => fresh

theorem type_mem_named (op : Operation) : op.type ∈ MessageType.named := by
  cases op with
  | discover => decide
  | request offer => exact (by decide : MessageType.request ∈ MessageType.named)
  | decline offer reason => exact (by decide : MessageType.decline ∈ MessageType.named)
  | renew => decide
  | release => decide
  | inform => decide

end Operation

namespace Client

variable (c : Client) (op : Operation) (fresh : UInt32)

/-- What an operation needs is known. -/
def Knows : Operation → Prop
  | .renew => c.config.clientAddress ≠ none ∧ c.config.server ≠ none
  | .release => c.config.clientAddress ≠ none ∧ c.config.server ≠ none
  | .inform => c.config.clientAddress ≠ none
  | _ => True

/-- The name and the list of codes of the configuration, as triples. -/
def ownTriples : List Triple :=
  (c.config.hostName.toList.map fun name => ⟨12, Octets.ofText name⟩) ++
    [⟨55, c.config.parameterRequestList⟩]

/-- The texts and lists that an operation carries, as triples. -/
def carries : Operation → List Triple
  | .decline _ reason? => reason?.toList.map fun reason => ⟨56, Octets.ofText reason⟩
  | .release => []
  | _ => c.ownTriples

/-- What a client says of itself fits if its host name and its list of parameters do. -/
theorem ownTriples_fit
    (name : ∀ name, c.config.hostName = some name → (Octets.ofText name).length ≤ 255)
    (list : c.config.parameterRequestList.length ≤ 255) :
    ∀ t ∈ c.ownTriples, t.payload.length ≤ 255 := by
  intro t mem
  rcases List.mem_append.mp mem with mem | mem
  · obtain ⟨text, known, rfl⟩ := List.mem_map.mp mem
    exact name text (Option.mem_toList.mp known)
  · cases List.mem_singleton.mp mem
    exact list

/-- The route that a server has for an operation. -/
def routeOf : Operation → Route
  | .discover => .discover
  | .request _ => .request
  | .decline _ _ => .decline
  | .renew => if c.config.clientAddress = some .unspecified then .request else .renew
  | .release => .release
  | .inform => .inform

/-! ## The description of a message -/

/-- The options that a client says of itself and asks with. -/
def announced : List Opt :=
  ((c.config.hostName.filter fun name => ¬name.isEmpty).map (Opt.text .hostName)).toList ++
    (((some c.config.parameterRequestList).filter fun codes => ¬codes = []).map
      Opt.parameterRequestList).toList

/-- The options for what an operation carries. An empty text or list has none. -/
def said : Operation → List Opt
  | .decline _ reason? =>
    ((reason?.filter fun reason => ¬reason.isEmpty).map (Opt.text .message)).toList
  | .release => []
  | _ => c.announced

/-- The options for the address that an operation is about, and for the server it is meant for. -/
def directed : Operation → List Opt
  | .request offer => .address .requestedAddress offer.yiaddr ::
      (offer.offeringServer?.map (Opt.address .serverIdentifier)).toList
  | .decline offer _ => .address .requestedAddress offer.yiaddr ::
      (offer.offeringServer?.map (Opt.address .serverIdentifier)).toList
  | .release => (c.config.server.map (Opt.address .serverIdentifier)).toList
  | _ => []

/-- The options of the message of an operation. -/
def puts : List Opt :=
  [.messageType op.type, Opt.identifierOfMac c.config.mac] ++ c.said op ++ c.directed op

/-- The address of the client in the header of the message of an operation. -/
def headingAddress : Operation → Ipv4
  | .renew => c.config.clientAddress.getD .unspecified
  | .release => c.config.clientAddress.getD .unspecified
  | .inform => c.config.clientAddress.getD .unspecified
  | _ => .unspecified

/-- The address of the server in the header of the message of an operation. -/
def headingServer : Operation → Ipv4
  | .inform => c.config.server.getD .unspecified
  | _ => .unspecified

/-- The header of the message of an operation. -/
def heading : Header :=
  { (Message.new .bootRequest (op.transaction fresh)).toHeader with
    ciaddr := c.headingAddress op
    siaddr := c.headingServer op
    chaddr := c.config.mac.octets }

/-- A message is as the description of an operation tells. -/
structure Tells (m : Message) : Prop where
  header : m.toHeader = c.heading op fresh
  options : m.Holds (c.puts op)

/-! ## The options of the description -/

/-- An option that may be absent adds its code or nothing. -/
theorem codes_toList {α : Type} (x : Option α) (f : α → Opt) (code : UInt8)
    (same : ∀ a, (f a).code = code) : ((x.map f).toList.map Opt.code).Sublist [code] := by
  cases x with
  | none => exact List.nil_sublist _
  | some a =>
    show [(f a).code].Sublist [code]
    rw [same]

/-- No code is used twice, whatever the operation is. -/
theorem codes_puts : ((c.puts op).map Opt.code).Sublist [53, 61, 12, 55, 56, 50, 54] := by
  have announced : (c.announced.map Opt.code).Sublist [12, 55] := by
    rw [announced, List.map_append]
    exact (codes_toList _ (.text .hostName) 12 fun _ => rfl).append
      (codes_toList _ .parameterRequestList 55 fun _ => rfl)
  have server (x : Option Ipv4) :
      ((x.map (Opt.address .serverIdentifier)).toList.map Opt.code).Sublist [54] :=
    codes_toList x (.address .serverIdentifier) 54 fun _ => rfl
  have said : ((c.said op).map Opt.code).Sublist [12, 55, 56] := by
    cases op with
    | decline offer reason? =>
      exact (codes_toList _ (.text .message) 56 fun _ => rfl).trans
        (List.sublist_append_right [12, 55] [56])
    | release => exact List.nil_sublist _
    | _ => exact announced.trans (List.sublist_append_left [12, 55] [56])
  have directed : ((c.directed op).map Opt.code).Sublist [50, 54] := by
    cases op with
    | request offer => exact (server _).cons_cons 50
    | decline offer reason? => exact (server _).cons_cons 50
    | release => exact (server _).cons 50
    | _ => exact List.nil_sublist _
  rw [puts, List.map_append, List.map_append]
  exact ((List.Sublist.refl [53, 61]).append said).append directed

/-- What an operation puts into a message has codes of its own. -/
theorem distinct_puts : Options.Distinct (c.puts op) :=
  List.pairwise_map.mp (List.Nodup.sublist (c.codes_puts op) (by decide))

/-- No option that an operation puts in frames the option area. -/
theorem unframed_puts : ∀ o ∈ c.puts op, o.code ≠ 0 ∧ o.code ≠ 255 := by
  intro o mem
  have known := (c.codes_puts op).subset (List.mem_map_of_mem mem)
  have all : ∀ code ∈ ([53, 61, 12, 55, 56, 50, 54] : List UInt8), code ≠ 0 ∧ code ≠ 255 := by
    simp
  exact all o.code known

theorem length_puts_le : (c.puts op).length ≤ 7 := by
  have within := (c.codes_puts op).length_le
  rwa [List.length_map] at within

/-- An option that is made of a value stands there exactly if the value does and passes its test. -/
theorem mem_toList_filter {α : Type} {x : Option α} {p : α → Bool} {f : α → Opt} {o : Opt} :
    o ∈ ((x.filter p).map f).toList ↔ ∃ a, x = some a ∧ p a = true ∧ f a = o := by
  rw [Option.mem_toList, Option.map_eq_some_iff]
  simp only [Option.filter_eq_some_iff, and_assoc]

/-- A text or list that is said is carried. It travels unless it is too long for an option. -/
theorem mem_said {o : Opt} (mem : o ∈ c.said op) :
    o.toTriple ∈ c.carries op ∧ o.defect? = none ∧ (o.payload.length ≤ 255 → o.Travels) := by
  have announced (mem : o ∈ c.announced) :
      o.toTriple ∈ c.ownTriples ∧ o.defect? = none ∧ (o.payload.length ≤ 255 → o.Travels) := by
    rcases List.mem_append.mp mem with mem | mem
    · obtain ⟨name, known, -, rfl⟩ := mem_toList_filter.mp mem
      refine ⟨List.mem_append_left _ ?_, rfl, Opt.travels_text .hostName⟩
      rw [known]
      exact List.mem_cons_self
    · obtain ⟨codes, known, -, rfl⟩ := mem_toList_filter.mp mem
      cases known
      exact ⟨List.mem_append_right _ List.mem_cons_self, rfl, Opt.travels_parameterRequestList⟩
  cases op with
  | decline offer reason? =>
    obtain ⟨reason, rfl, -, rfl⟩ := mem_toList_filter.mp mem
    exact ⟨List.mem_cons_self, rfl, Opt.travels_text .message⟩
  | release => cases mem
  | _ => exact announced mem

/-- A text or list that is carried is said, unless it is empty. -/
theorem exists_said {t : Triple} (mem : t ∈ c.carries op) (filled : t.payload ≠ []) :
    ∃ o ∈ c.said op, o.toTriple = t := by
  have named {text : String} (filled : Octets.ofText text ≠ []) :
      (decide ¬text.isEmpty = true) = true := by
    rw [decide_eq_true_iff]
    intro empty
    rw [String.isEmpty_iff.mp empty] at filled
    exact filled rfl
  have announced (mem : t ∈ c.ownTriples) : ∃ o ∈ c.announced, o.toTriple = t := by
    rcases List.mem_append.mp mem with mem | mem
    · obtain ⟨name, known, rfl⟩ := List.mem_map.mp mem
      exact ⟨.text .hostName name, List.mem_append_left _ (mem_toList_filter.mpr
        ⟨name, Option.mem_toList.mp known, named filled, rfl⟩), rfl⟩
    · cases List.mem_singleton.mp mem
      exact ⟨.parameterRequestList c.config.parameterRequestList, List.mem_append_right _
        (mem_toList_filter.mpr ⟨_, rfl, decide_eq_true filled, rfl⟩), rfl⟩
  cases op with
  | decline offer reason? =>
    obtain ⟨reason, known, rfl⟩ := List.mem_map.mp mem
    exact ⟨.text .message reason,
      mem_toList_filter.mpr ⟨reason, Option.mem_toList.mp known, named filled, rfl⟩, rfl⟩
  | release => cases mem
  | _ => exact announced mem

/-- All other options travel. -/
theorem mem_puts {o : Opt} (mem : o ∈ c.puts op) : o ∈ c.said op ∨ o.Travels := by
  have server {x : Option Ipv4} (mem : o ∈ (x.map (Opt.address .serverIdentifier)).toList) :
      o.Travels := by
    obtain ⟨server, -, rfl⟩ := Option.map_eq_some_iff.mp (Option.mem_toList.mp mem)
    exact Opt.travels_address .serverIdentifier server
  have asked {addr : Ipv4} {x : Option Ipv4}
      (mem : o ∈ Opt.address .requestedAddress addr ::
        (x.map (Opt.address .serverIdentifier)).toList) : o.Travels := by
    rcases List.mem_cons.mp mem with rfl | mem
    · exact Opt.travels_address .requestedAddress addr
    · exact server mem
  rcases List.mem_append.mp mem with mem | mem
  · rcases List.mem_cons.mp mem with rfl | mem
    · exact .inr (Opt.travels_messageType op.type_mem_named)
    · rcases List.mem_cons.mp mem with rfl | mem
      · exact .inr (Opt.travels_identifierOfMac c.config.mac)
      · exact .inl mem
  · refine .inr ?_
    cases op with
    | request offer => exact asked mem
    | decline offer reason? => exact asked mem
    | release => exact server mem
    | _ => cases mem

/-! ## Building the message -/

section Building

variable {c} {m : Message} {os : List Opt}

/-- Putting in the option for a value that may be left out. -/
theorem withOptions_toList_filter {α : Type} (a : α) (p : α → Prop) [DecidablePred p]
    (f : α → Opt) :
    m.withOptions (((some a).filter fun a => ¬p a).map f).toList =
      if p a then m else m.withOption (f a) := by
  by_cases left : p a <;> simp [Option.filter, left, Message.withOptions]

theorem announce_eq : c.announce m = m.withOptions c.announced := by
  have list (k : Message) := withOptions_toList_filter (m := k) c.config.parameterRequestList
    (· = []) Opt.parameterRequestList
  have name (text : String) := withOptions_toList_filter (m := m) text
    (fun name => name.isEmpty = true) (Opt.text .hostName)
  unfold announce announced
  rw [Message.withOptions, List.foldl_append]
  cases c.config.hostName with
  | none => exact (list m).symm
  | some text =>
    refine (list (m.withHostName text)).symm.trans ?_
    exact congrArg (fun k : Message => k.withOptions _) (name text).symm

/-- Identifying a client sets the hardware address in the header, and nothing else there. -/
theorem toHeader_identify :
    (c.identify m).toHeader =
      { m.toHeader with htype := ethernet, hlen := 6, chaddr := c.config.mac.octets } :=
  Message.toHeader_withOption ..

theorem toHeader_announce : (c.announce m).toHeader = m.toHeader := by
  rw [announce_eq]
  exact Message.toHeader_withOptions ..

theorem holds_ask (type : MessageType) (xid : UInt32) :
    (Message.ask type xid).Holds [.messageType type] :=
  (Message.Holds.empty (m := Message.new .bootRequest xid) rfl).withOptions [.messageType type]

/-- Identifying a client lays its identifier over the message. -/
theorem holds_identify (holds : m.Holds os) :
    (c.identify m).Holds (os ++ [Opt.identifierOfMac c.config.mac]) :=
  Message.Holds.withOptions (m := m.withMac c.config.mac) holds [Opt.identifierOfMac c.config.mac]

/-- Announcing lays what a client announces over the message. -/
theorem holds_announce (holds : m.Holds os) : (c.announce m).Holds (os ++ c.announced) := by
  rw [announce_eq]
  exact holds.withOptions c.announced

/-- The client that is named and says what it asks for, in a message of a type. -/
theorem holds_speak {type : MessageType} (holds : m.Holds [.messageType type]) :
    (c.announce (c.identify m)).Holds
      ([.messageType type, Opt.identifierOfMac c.config.mac] ++ c.announced) :=
  holds_announce (holds_identify holds)

theorem toHeader_speak :
    (c.announce (c.identify m)).toHeader =
      { m.toHeader with htype := ethernet, hlen := 6, chaddr := c.config.mac.octets } :=
  toHeader_announce.trans toHeader_identify

/-- The request for an offer identifies the client and announces what it is, with what is directed at
the offer laid over it. -/
theorem requestFor_eq (offer : Message) :
    c.requestFor offer = (c.announce (c.identify (Message.request offer.xid))).withOptions
      (c.directed (.request offer)) := by
  simp only [requestFor, directed]
  cases offer.offeringServer? <;> rfl

/-- A refusal of an offer is what is directed at the offer, laid over a message that asks. -/
theorem decline_eq (offer : Message) (reason? : Option String) :
    Message.decline offer.yiaddr offer.offeringServer? offer.xid =
      (Message.ask .decline offer.xid).withOptions (c.directed (.decline offer reason?)) := by
  simp only [Message.decline, directed]
  cases offer.offeringServer? <;> rfl

theorem declineOf_eq (offer : Message) (reason? : Option String) :
    c.declineOf offer reason? =
      (c.identify (Message.decline offer.yiaddr offer.offeringServer? offer.xid)).withOptions
        (c.said (.decline offer reason?)) := by
  cases reason? with
  | none => rfl
  | some reason =>
    exact (withOptions_toList_filter reason (fun reason => reason.isEmpty = true)
      (Opt.text .message)).symm

/-- The client is named last in a message that turns an offer down. -/
theorem perm_decline (offer : Message) (reason? : Option String) :
    ([Opt.messageType .decline] ++ c.directed (.decline offer reason?) ++
      [Opt.identifierOfMac c.config.mac] ++ c.said (.decline offer reason?)).Perm
      (c.puts (.decline offer reason?)) := by
  simp only [puts, List.cons_append, List.nil_append, List.append_assoc]
  exact (List.perm_middle.trans (List.perm_append_comm.cons _)).cons _

/-- A client that knows its address does not miss it. -/
theorem needAddress_of_known (known : c.config.clientAddress ≠ none) :
    c.needAddress = .ok (c.config.clientAddress.getD .unspecified) := by
  obtain ⟨addr, known⟩ := Option.ne_none_iff_exists'.mp known
  rw [needAddress, known]
  rfl

theorem needServer_of_known (known : c.config.server ≠ none) :
    c.needServer = .ok (c.config.server.getD .unspecified) := by
  obtain ⟨server, known⟩ := Option.ne_none_iff_exists'.mp known
  rw [needServer, known]
  rfl

end Building

variable {c}

/-- A client that knows what an operation needs has a message for it, and that is as described. -/
theorem exists_plan (knows : c.Knows op) :
    ∃ target m, c.plan op fresh = .ok (target, m) ∧ c.Tells op fresh m := by
  have spoken {m : Message} {type : MessageType} (holds : m.Holds [.messageType type]) :
      (c.announce (c.identify m)).Holds
        ([.messageType type, Opt.identifierOfMac c.config.mac] ++ c.announced ++ []) := by
    rw [List.append_nil]
    exact holds_speak holds
  cases op with
  | discover => exact ⟨_, _, rfl, toHeader_speak, spoken (holds_ask .discover fresh)⟩
  | request offer =>
    refine ⟨c.broadcastTarget, c.requestFor offer, rfl, ?_, ?_⟩
    · rw [requestFor_eq, Message.toHeader_withOptions]
      exact toHeader_speak
    · rw [requestFor_eq]
      exact (holds_speak (holds_ask .request offer.xid)).withOptions _
  | decline offer reason? =>
    have asked := decline_eq (c := c) offer reason?
    refine ⟨c.broadcastTarget, c.declineOf offer reason?, rfl, ?_, ?_⟩
    · rw [declineOf_eq, Message.toHeader_withOptions, toHeader_identify, asked,
        Message.toHeader_withOptions]
      rfl
    · have built := (holds_ask .decline offer.xid).withOptions (c.directed (.decline offer reason?))
      rw [← asked] at built
      have built := (holds_identify (c := c) built).withOptions (c.said (.decline offer reason?))
      rw [← declineOf_eq] at built
      have same := perm_decline (c := c) offer reason?
      exact built.perm ((same.pairwise_iff fun apart => apart.symm).mpr (c.distinct_puts _)) same
  | renew =>
    let bare := Message.renew (c.config.clientAddress.getD .unspecified) fresh
    refine ⟨c.serverTarget (c.config.server.getD .unspecified), c.announce (c.identify bare), ?_,
      toHeader_speak, spoken (m := bare) (holds_ask .request fresh)⟩
    simp only [plan, needAddress_of_known knows.1, needServer_of_known knows.2]
    rfl
  | release =>
    obtain ⟨server, known⟩ := Option.ne_none_iff_exists'.mp knows.2
    let bare := Message.release (c.config.clientAddress.getD .unspecified) fresh
    refine ⟨c.serverTarget server,
      (c.identify bare).withOption (.address .serverIdentifier server), ?_, ?_, ?_⟩
    · simp only [plan, needAddress_of_known knows.1, needServer, known]
      rfl
    · rw [Message.toHeader_withOption]
      exact toHeader_identify
    · rw [puts, directed, known]
      exact (holds_identify (m := bare) (holds_ask .release fresh)).withOptions
        [.address .serverIdentifier server]
  | inform =>
    let bare := Message.inform (c.config.clientAddress.getD .unspecified) fresh
    have header : (c.announce (c.identify bare)).toHeader = _ := toHeader_speak
    have holds := spoken (m := bare) (holds_ask .inform fresh)
    cases known : c.config.server with
    | none =>
      refine ⟨c.broadcastTarget, c.announce (c.identify bare), ?_, ?_, holds⟩
      · simp only [plan, needAddress_of_known knows, known]
        rfl
      · rw [header, heading, headingServer, known]
        rfl
    | some server =>
      refine ⟨c.serverTarget server, { c.announce (c.identify bare) with siaddr := server }, ?_, ?_,
        holds⟩
      · simp only [plan, needAddress_of_known knows, known]
        rfl
      · rw [heading, headingServer, known]
        exact congrArg (fun h : Header => { h with siaddr := server }) header

/-! ## What follows from the description -/

namespace Tells

variable {op fresh} {m : Message} (tells : c.Tells op fresh m)

include tells

/-- The message of an operation has the options that the operation puts in, and no others. -/
theorem mem_options_iff {o : Opt} : o ∈ m.options.toList ↔ o ∈ c.puts op :=
  tells.options.mem_iff (c.distinct_puts op) (c.unframed_puts op)

theorem option?_of_mem {o : Opt} (mem : o ∈ c.puts op) : m.option? o.code = some o :=
  (tells.options.option?_iff (c.distinct_puts op) (c.unframed_puts op)).mpr ⟨mem, rfl⟩

theorem messageType? : m.messageType? = some op.type :=
  m.messageType?_eq_some_iff.mpr (tells.mem_options_iff.mpr List.mem_cons_self)

theorem asks : m.op = .bootRequest := by
  rw [tells.header]
  rfl

/-- The message gives the address of the client where its operation does so. -/
theorem ciaddr : m.ciaddr = c.headingAddress op := by
  rw [tells.header]
  rfl

/-- An operation whose texts and lists fit options has a message that travels. -/
theorem travels (fits : ∀ t ∈ c.carries op, t.payload.length ≤ 255) : m.Travels 7 := by
  have six := c.config.mac.length_octets
  have plain : m.toHeader.Plain := by
    rw [tells.header]
    exact ⟨nofun, nofun, six.symm, Nat.zero_le 64, nofun, Nat.zero_le 128, nofun⟩
  have hlen : m.hlen = 6 := by
    rw [tells.header]
    rfl
  refine ⟨plain, hlen ▸ (by decide : (6 : UInt8).toNat ≤ hardwareWidth), ?_, ?_⟩
  · intro o mem
    rcases c.mem_puts op (tells.mem_options_iff.mp mem) with mem | whole
    · obtain ⟨carried, -, whole⟩ := c.mem_said op mem
      exact whole (fits o.toTriple carried)
    · exact whole
  · have within : m.options.toList ⊆ c.puts op := fun o mem => tells.mem_options_iff.mp mem
    exact (m.options.distinct.nodup.subperm within).length_le.trans
      (c.length_puts_le op)

/-- An operation with a text or a list that fits no option has a message that is not written. -/
theorem encode_overlong (overlong : ∃ t ∈ c.carries op, 255 < t.payload.length) :
    ∃ t ∈ c.carries op, 255 < t.payload.length ∧
      m.encode = .error (.optionTooLong t.code t.payload.length) := by
  obtain ⟨t, carried, long⟩ := overlong
  obtain ⟨o, said, rfl⟩ := c.exists_said op carried (List.ne_nil_of_length_pos (by omega))
  cases written : m.encode with
  | ok data =>
    have mem : o ∈ c.puts op := List.mem_append_left _ (List.mem_append_right _ said)
    have writable := (Message.encode_eq_ok_iff.mp written).1 o (tells.mem_options_iff.mpr mem)
    exact absurd writable.fits (Nat.not_le_of_lt long)
  | error cause =>
    obtain ⟨before, p, after, split, -, refused⟩ := Message.encode_eq_error_iff.mp written
    have mem : p ∈ m.options.toList := split ▸ List.mem_append_right _ List.mem_cons_self
    rcases c.mem_puts op (tells.mem_options_iff.mp mem) with said | whole
    · obtain ⟨carried, shaped, -⟩ := c.mem_said op said
      obtain ⟨long, rfl⟩ := (Opt.encode_eq_error_iff shaped).mp refused
      exact ⟨p.toTriple, carried, long, rfl⟩
    · cases (Opt.encode_of_writable whole.writable).symm.trans refused

/-- A server has one route for the message. -/
theorem ofMessage? (knows : c.Knows op) : Route.ofMessage? m = some (c.routeOf op) := by
  rw [Route.ofMessage?, tells.messageType?, tells.ciaddr]
  cases op with
  | renew =>
    obtain ⟨addr, held⟩ := Option.ne_none_iff_exists'.mp knows.1
    simp only [Operation.type, headingAddress, routeOf, held, Option.getD_some, Option.some.injEq]
  | _ => rfl

end Tells

end Client

end Dhcp
