import Dhcp.Proofs.Dispatch
import Dhcp.Proofs.MessageGrammar
import Dhcp.Proofs.Payload

/-!
# Routing by the octets of a datagram

A server tells requests apart by their message type and by whether they hold an address of their
own. Both can be named on the datagram itself, without decoding it: the type is the one octet in the
last triple under the code 53 that stands before the end of the option stream, and the address is
the four octets from place 12 on. Which of the callbacks is run follows from these five octets by a
table, `Route.ofOctets?`.

**The law** (`Callbacks.handler_decided_by_octets`): every datagram that decodes has exactly one
answer to the question for its type octet, the callback of the table is run, once, and no other, and
nothing is run or queued where the table has no route. So two datagrams that agree on the five
octets are routed alike. A type that is hidden behind the end, that stands before another one, or
whose octet has no name, has no influence.
-/

namespace Dhcp

/-! ## The two fields that decide -/

/-- The octet of the message type that counts in a datagram, if there is one: that of the last
triple with its code before the end of the option stream. -/
def Message.TypeOctet (data : Octets) (type? : Option UInt8) : Prop :=
  ∃ items tail, data.drop 240 = Item.write items ++ tail ∧ Area.Ends tail ∧
    (Area.lastUnder 53 (Item.triples items)).map Triple.payload = type?.map fun octet => [octet]

/-- The route of a request by the octet of its type and the octets of its own address. -/
def Route.ofOctets? (type? : Option UInt8) (client : Octets) : Option Route :=
  match type? with
  | some 1 => some .discover
  | some 3 => some (if client = [0, 0, 0, 0] then .request else .renew)
  | some 4 => some .decline
  | some 7 => some .release
  | some 8 => some .inform
  | _ => none

/-- The standard registry takes exactly the payloads of one octet for a message type. -/
theorem Registry.decode_messageType_eq_ok_iff {payload : Octets} {o : Opt} :
    standard.decode 53 payload = .ok o ↔
      ∃ octet, payload = [octet] ∧ o = .messageType (MessageType.ofOctet octet) := by
  have known : standard.decode 53 payload = Format.messageType.decode payload := by
    rw [decode_standard]
    exact decodeKnown_code .messageType payload
  rw [known]
  constructor
  · intro read
    obtain ⟨found, whole, -⟩ := bind_eq_ok_iff.mp read
    obtain ⟨octet, rfl⟩ := List.length_eq_one_iff.mp (exactly_eq_ok_iff.mp whole).1
    rw [Format.decode_messageType] at read
    exact ⟨octet, rfl, (Except.ok.inj read).symm⟩
  · rintro ⟨octet, rfl, rfl⟩
    exact Format.decode_messageType octet

/-- Four octets are the unspecified address exactly if they are all zero. -/
theorem Ipv4.ofOctets_eq_unspecified_iff {data : Octets} (four : data.length = 4) :
    ofOctets data = unspecified ↔ data = [0, 0, 0, 0] := by
  constructor
  · intro same
    rw [← octets_ofOctets four, same]
    rfl
  · rintro rfl
    rfl

namespace Message

variable {data : Octets} {m : Message}

/-- However a datagram is cut into items, its type octet is the same. -/
theorem TypeOctet.unique {type? other? : Option UInt8} (type : TypeOctet data type?)
    (other : TypeOctet data other?) : other? = type? := by
  obtain ⟨items, tail, cut, ends, last⟩ := type
  obtain ⟨items', tail', cut', ends', last'⟩ := other
  have triples : Item.triples items = Item.triples items' :=
    congrArg Area.triples ((Cut.read cut ends).symm.trans (Cut.read cut' ends'))
  have same : other?.map (fun octet => [octet]) = type?.map fun octet => [octet] := by
    rw [← last, ← last', triples]
  exact Option.map_injective (fun _ _ => List.singleton_inj.mp) same

/-- A datagram that decodes has a type octet, and the message has the type of the octet. -/
theorem exists_typeOctet (decoded : decode data = .ok m) :
    ∃ type?, TypeOctet data type? ∧ m.messageType? = type?.map MessageType.ofOctet := by
  obtain ⟨long, fits⟩ := header_of_decodeWith decoded
  obtain ⟨items, tail, cut, ends, accepted, -, found⟩ :=
    (decodeWith_eq_ok_iff long fits).mp decoded
  cases last : Area.lastUnder 53 (Item.triples items) with
  | none =>
    refine ⟨none, ⟨items, tail, cut, ends, by rw [last]; rfl⟩, ?_⟩
    have absent : m.option? 53 = none := by rw [found, last, Option.bind_none]
    refine Option.eq_none_iff_forall_ne_some.mpr fun type here => ?_
    cases absent.symm.trans (messageType?_eq_some_iff_found.mp here)
  | some t =>
    obtain ⟨mem, code⟩ := Area.mem_of_lastUnder last
    obtain ⟨o, made⟩ := accepted t mem
    rw [code] at made
    obtain ⟨octet, payload, rfl⟩ := Registry.decode_messageType_eq_ok_iff.mp made
    refine ⟨some octet, ⟨items, tail, cut, ends, by rw [last, Option.map_some, payload]; rfl⟩, ?_⟩
    have here : m.option? 53 = some (.messageType (MessageType.ofOctet octet)) := by
      rw [found, last, Option.bind_some, code, made]
      rfl
    exact messageType?_eq_some_iff_found.mpr here

/-- A request that was read holds no address exactly if the four octets are zero. -/
theorem ciaddr_of_decode (decoded : decode data = .ok m) :
    m.ciaddr = .unspecified ↔ data.slice 12 4 = [0, 0, 0, 0] := by
  obtain ⟨long, -⟩ := header_of_decodeWith decoded
  have four : (data.slice 12 4).length = 4 := by
    rw [Octets.length_slice]
    exact Nat.min_eq_left (Nat.le_sub_of_add_le (Nat.le_trans (by decide) long))
  rw [toHeader_of_decodeWith decoded]
  exact Ipv4.ofOctets_eq_unspecified_iff four

end Message

/-! ## The route -/

namespace Route

/-- The octets of the types without a route are without one in the table. -/
theorem ofOctets?_of_unknown {octet : UInt8} (client : Octets)
    (unknown : MessageType.ofOctet octet = .unknown octet) :
    ofOctets? (some octet) client = none := by
  rw [MessageType.ofOctet_eq_unknown_iff, MessageType.mem_named_iff] at unknown
  unfold ofOctets?
  split
  case h_6 => rfl
  all_goals
    rename_i known
    cases known
    exact absurd ⟨by decide, by decide⟩ unknown

/-- The route of a message is that of the octets that its type and its address were read from. -/
theorem ofMessage?_eq_ofOctets? {m : Message} {type? : Option UInt8} {client : Octets}
    (type : m.messageType? = type?.map MessageType.ofOctet)
    (address : m.ciaddr = .unspecified ↔ client = [0, 0, 0, 0]) :
    ofMessage? m = ofOctets? type? client := by
  unfold ofMessage?
  rw [type]
  cases type? with
  | none => rfl
  | some octet =>
    have back := MessageType.toOctet_ofOctet octet
    rw [Option.map_some]
    cases named : MessageType.ofOctet octet with
    | unknown n =>
      rw [named] at back
      obtain rfl : n = octet := back
      exact (ofOctets?_of_unknown client named).symm
    | request =>
      rw [named] at back
      subst back
      simp only [address]
      rfl
    | _ =>
      rw [named] at back
      subst back
      rfl

end Route

namespace Callbacks

/-- A request is given to the callback of the route that the table has for it, if it has one. -/
theorem run_handler_of_octets {α : Type} (cb : Callbacks α) {w : ReplyWriter}
    {type? : Option UInt8} {client : Octets}
    (routed : Route.ofMessage? w.request = Route.ofOctets? type? client) (box : Outbox) :
    (cb.handler w).run w box =
      (Route.ofOctets? type? client).elim (none, box) fun route => cb.called route w box := by
  cases table : Route.ofOctets? type? client with
  | some route => exact cb.run_handler_of_route (routed.trans table) box
  | none =>
    have unheard : cb.handler w = .done none := by simp only [handler, routed, table]
    rw [unheard]
    rfl

/-- For every datagram that decodes there is one type octet, or none, and what a server does about
the message is decided by it and by the four octets of the address of the client: the callback of
the route that the table has for them is called, once, and no other is, and what it gives and sends
is all that comes of the message; where the table has no route, nothing is called and the outbox is
left as it is. So two datagrams with the same type octet and the same four octets are routed alike,
whatever else they hold. -/
theorem handler_decided_by_octets {data : Octets} {m : Message}
    (decoded : Message.decode data = .ok m) :
    ∃ type?, Message.TypeOctet data type? ∧
      (∀ other?, Message.TypeOctet data other? → other? = type?) ∧
      (∀ {α : Type} (cb : Callbacks α) (w : ReplyWriter) (box : Outbox), w.request = m →
        (cb.handler w).run w box =
          (Route.ofOctets? type? (data.slice 12 4)).elim (none, box)
            fun route => cb.called route w box) ∧
      ∀ data' m', Message.decode data' = .ok m' → Message.TypeOctet data' type? →
        data'.slice 12 4 = data.slice 12 4 →
        ∀ {α : Type} (cb : Callbacks α) (w : ReplyWriter) (box : Outbox), w.request = m' →
          (cb.handler w).run w box =
            (Route.ofOctets? type? (data.slice 12 4)).elim (none, box)
              fun route => cb.called route w box := by
  obtain ⟨type?, type, -⟩ := Message.exists_typeOctet decoded
  suffices alike : ∀ data' m', Message.decode data' = .ok m' → Message.TypeOctet data' type? →
      data'.slice 12 4 = data.slice 12 4 →
      ∀ {α : Type} (cb : Callbacks α) (w : ReplyWriter) (box : Outbox), w.request = m' →
        (cb.handler w).run w box =
          (Route.ofOctets? type? (data.slice 12 4)).elim (none, box)
            fun route => cb.called route w box from
    ⟨type?, type, fun _ other => type.unique other, alike data m decoded type rfl, alike⟩
  rintro data' m' decoded' type' address α cb w box rfl
  obtain ⟨other?, here, named⟩ := Message.exists_typeOctet decoded'
  cases type'.unique here
  rw [← address]
  exact cb.run_handler_of_octets
    (Route.ofMessage?_eq_ofOctets? named (Message.ciaddr_of_decode decoded')) box

/-- A request with an earlier type, padding and a third type behind its end, and a reply with
another cookie, another option and no end: the callback for requests is called for both. -/
theorem handler_decided_by_octets_duplicate :
    let data : Octets := List.replicate 240 0 ++ [53, 1, 1, 0, 53, 1, 3, 255, 53, 1, 7]
    let reply : Octets :=
      2 :: List.replicate 235 0 ++ [1, 2, 3, 4] ++ [12, 1, 104, 53, 1, 3]
    ∃ m m', Message.decode data = .ok m ∧ Message.decode reply = .ok m' ∧
      ∀ {α : Type} (cb : Callbacks α) (w : ReplyWriter) (box : Outbox),
        w.request = m ∨ w.request = m' →
          (cb.handler w).run w box =
            (some (.request, ((cb.request w).run w box).1), ((cb.request w).run w box).2) := by
  intro data reply
  obtain ⟨m, decoded⟩ : ∃ m, Message.decode data = .ok m :=
    Message.exists_of_readable (by decide +kernel)
  obtain ⟨m', decoded'⟩ : ∃ m', Message.decode reply = .ok m' :=
    Message.exists_of_readable (by decide +kernel)
  obtain ⟨type?, type, unique, handled, alike⟩ := handler_decided_by_octets decoded
  have last : Message.TypeOctet data (some 3) :=
    ⟨[.triple ⟨53, [1]⟩ ⟨by decide, by decide, by decide⟩, .pad,
      .triple ⟨53, [3]⟩ ⟨by decide, by decide, by decide⟩], _, rfl, .marker [53, 1, 7], by decide⟩
  have last' : Message.TypeOctet reply (some 3) :=
    ⟨[.triple ⟨12, [104]⟩ ⟨by decide, by decide, by decide⟩,
      .triple ⟨53, [3]⟩ ⟨by decide, by decide, by decide⟩], [], rfl, .data, by decide⟩
  cases unique _ last
  refine ⟨m, m', decoded, decoded', ?_⟩
  rintro α cb w box (here | there)
  · exact handled cb w box here
  · exact alike reply m' decoded' last' (by decide) cb w box there

end Callbacks

end Dhcp
