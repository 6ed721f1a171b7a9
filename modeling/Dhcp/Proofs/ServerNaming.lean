import Dhcp.Proofs.Editing
import Dhcp.Proofs.ReplyEcho

/-!
# Who is named as the server of a reply

A reply names a server in the option with the code 54. The caller may supply one, in the message or
among the options that are laid over it, and the address that the server announces is for replies
without one. Whether a server identifier is supplied is decided by looking for one that has the
format of an address, though, while options are replaced by their codes.

**The law** (`ReplyWriter.send_names_server`): of a reply that is taken, the one server identifier
that can be read in the packet is the one that the caller supplied, if it has the format of an
address or no address is announced; and the announced address stands there if nothing was supplied.

**What does not hold** (`ReplyWriter.raw_identifier_replaced`): raw octets under the code that the
caller supplied are not kept where an address is announced, but replaced by it.
-/

namespace Dhcp

/-! ## What stands under a code -/

/-- The payloads that stand under a code in an option area. -/
def Area.payloads (code : UInt8) (area : Octets) : List Octets :=
  ((read area).triples.filter fun t => t.code = code).map Triple.payload

/-- A collection has at most one option under a code. -/
theorem Options.filter_code_toList (os : Options) (code : UInt8) :
    (os.toList.filter fun o => o.code = code) = (os.get? code).toList := by
  have few : (os.get? code).toList.Pairwise fun o p => o.code < p.code := by
    cases os.get? code with
    | none => exact .nil
    | some o => exact List.pairwise_singleton _ o
  apply eq_of_key_ascending (os.ascending.filter _) few
  intro o
  rw [List.mem_filter, Option.mem_toList, mem_toList_iff, decide_eq_true_eq]
  constructor
  · rintro ⟨found, rfl⟩
    exact found
  · intro found
    have same : o.code = code := code_of_get? found
    exact ⟨same ▸ found, same⟩

namespace Message

variable {m : Message}

/-- What is read under a code in a message that was written is the payload of its option. -/
theorem payloads_octets (writable : ∀ o ∈ m.options.toList, o.Writable) (unframed : m.Unframed)
    (code : UInt8) :
    Area.payloads code (m.octets.drop 240) = (m.option? code).toList.map Opt.payload := by
  obtain ⟨items, cut, triples⟩ := exists_cut_octets writable unframed
  rw [Area.payloads, cut.read (.marker []), triples]
  calc ((m.options.toList.map Opt.toTriple).filter fun t => t.code = code).map Triple.payload
      = (m.options.toList.filter fun o => o.code = code).map Opt.payload := by
        rw [List.filter_map, List.map_map]
        rfl
    _ = (m.option? code).toList.map Opt.payload := by
        rw [Options.filter_code_toList]
        rfl

end Message

/-! ## What a caller supplies -/

/-- The option under a code that the caller supplies for a reply: the last that is laid over the
message, or the one that the message has. -/
def Reply.supplied (r : Reply) (request : Message) (code : UInt8) : Option Opt :=
  (Opt.lastUnder code r.extra).or ((r.base request).option? code)

namespace ReplyWriter

variable {r : Reply}

/-! ## Replies without framing codes -/

/-- No usual reply has an option that frames the area, and a message of the caller has none either.
-/
theorem unframed_base (own : ∀ given extra, r = .message given extra → given.Unframed)
    (request : Message) : (r.base request).Unframed := by
  cases r with
  | offer addr extra => exact ((Reply.Usual.offer addr extra).holds_base request).unframed
  | ack addr extra => exact ((Reply.Usual.ack addr extra).holds_base request).unframed
  | nak reason extra => exact ((Reply.Usual.nak reason extra).holds_base request).unframed
  | message given extra => exact own given extra rfl

/-- Making a reply of a message adds no option that frames the area. -/
theorem unframed_compose (w : ReplyWriter) {m : Message} (unframed : m.Unframed)
    (extra : List Opt) : (w.compose m extra).Unframed := by
  rw [Message.unframed_iff]
  intro code frames
  -- The code of the server identifier frames nothing, so naming the server adds no framing code.
  have other : code ≠ 54 := by
    rintro rfl
    cases frames
  have framing : Opt.lastUnder code extra = none := if_pos (Message.isFraming_iff.mp frames)
  rw [(w.stamped_compose m extra).kept code (.inl other), framing, Option.none_or]
  exact Message.unframed_iff.mp unframed code frames

/-! ## Naming -/

/-- A reply that is taken is queued as one packet to the destination of the writer. If the caller
supplied no option under the code of the server identifier, the packet names the server that is
announced, or none if none is. If the caller supplied one and it is an address, or no server is
announced, its payload stands in the packet and nothing else does under the code. If it is not an
address and a server is announced, the announced one is named in its place. No option of a message
of the caller's frames the area, which holds of every message however it was built or read. -/
theorem send_names_server (config : ServerConfig) (request : Message) (source : Endpoint)
    (r : Reply) (own : ∀ given extra, r = .message given extra → given.Unframed) (box : Outbox)
    (taken : ((forRequest config request source).send r box).1 = .ok ()) :
    ∃ data, ((forRequest config request source).send r box).2.packets =
        box.packets ++ [⟨config.destination source, data⟩] ∧
      (r.supplied request 54 = none →
        Area.payloads 54 (data.drop 240) = config.serverAddress.toList.map Ipv4.octets) ∧
      ∀ o, r.supplied request 54 = some o →
        ((config.serverAddress = none ∨ ∃ addr, o = .address .serverIdentifier addr) →
          Area.payloads 54 (data.drop 240) = [o.payload]) ∧
        ∀ server, config.serverAddress = some server →
          (∀ addr, o ≠ .address .serverIdentifier addr) →
          Area.payloads 54 (data.drop 240) = [server.octets] := by
  let w := forRequest config request source
  let m := w.compose (r.base request) r.extra
  obtain ⟨p, made, queued⟩ := packet_of_send taken
  obtain ⟨writable, rfl⟩ := packet_eq_ok_iff.mp made
  have unframed : m.Unframed := w.unframed_compose (unframed_base own request) r.extra
  have read : Area.payloads 54 (m.octets.drop 240) = (m.option? 54).toList.map Opt.payload :=
    Message.payloads_octets writable unframed 54
  have stamped : Stamped config.serverAddress (r.supplied request) m.option? :=
    w.stamped_compose (r.base request) r.extra
  refine ⟨m.octets, congrArg Outbox.packets queued, ?_, fun o supplied => ⟨?_, ?_⟩⟩
  · intro absent
    rw [read]
    cases announced : config.serverAddress with
    | none =>
      rw [stamped.kept 54 (.inr (.inl announced)), absent]
      rfl
    | some server =>
      rw [stamped.named server announced fun addr => by rw [absent]; exact nofun]
      rfl
  · intro apart
    have kept : m.option? 54 = some o := by
      rw [← supplied]
      apply stamped.kept 54
      rcases apart with unannounced | ⟨addr, rfl⟩
      · exact .inr (.inl unannounced)
      · exact .inr (.inr ⟨addr, supplied⟩)
    rw [read, kept]
    rfl
  · intro server announced raw
    have named : m.option? 54 = some (.address .serverIdentifier server) := by
      apply stamped.named server announced
      intro addr same
      exact raw addr (Option.some.inj (supplied.symm.trans same))
    rw [read, named]
    rfl

/-- A message of the caller's has a raw server identifier, over which a typed one is laid. -/
theorem send_names_server_laid :
    let config : ServerConfig := { serverAddress := some ⟨0xC0A80201⟩ }
    let source : Endpoint := .v4 ⟨.unspecified, clientPort⟩
    let given : Message := (Message.discover 3).withOption (.raw 54 [9])
    let r : Reply := .message given [.address .serverIdentifier ⟨0xC0A802FE⟩]
    ∃ data, ((forRequest config (.discover 7) source).send r {}).2.packets =
        [⟨config.destination source, data⟩] ∧
      Area.payloads 54 (data.drop 240) = [[192, 168, 2, 254]] := by
  intro config source given r
  have own : ∀ m extra, r = .message m extra → m.Unframed := by
    intro m extra same
    obtain ⟨rfl, -⟩ := Reply.message.inj same
    show ∀ o ∈ [Opt.messageType .discover, .raw 54 [9]], o.code ≠ 0 ∧ o.code ≠ 255
    decide
  have taken : ((forRequest config (.discover 7) source).send r {}).1 = .ok () := by
    decide +kernel
  obtain ⟨data, queued, -, supplied⟩ :=
    send_names_server config (.discover 7) source r own {} taken
  have last : r.supplied (.discover 7) 54 = some (.address .serverIdentifier ⟨0xC0A802FE⟩) := by
    decide
  exact ⟨data, queued, (supplied _ last).1 (.inr ⟨_, rfl⟩)⟩

/-- The caller lays the octets of an address under the code of the server identifier over an
acknowledgement. It is taken, but another server is named in it. -/
theorem raw_identifier_replaced :
    let config : ServerConfig := { serverAddress := some ⟨0xC0A80201⟩ }
    let w := forRequest config (.discover 7) (.v4 ⟨.unspecified, clientPort⟩)
    let r : Reply := .ack ⟨0xC0A8020A⟩ [.raw 54 [192, 168, 2, 254]]
    r.supplied w.request 54 = some (.raw 54 [192, 168, 2, 254]) ∧ (w.send r {}).1 = .ok () ∧
      (w.send r {}).2.packets.map (fun p => Area.payloads 54 (p.data.drop 240)) =
        [[[192, 168, 2, 1]]] := by
  decide +kernel

end ReplyWriter

end Dhcp
