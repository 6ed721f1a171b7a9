import Dhcp.Proofs.MessageGrammar
import Dhcp.Proofs.Reply

/-!
# What a reply echoes of its request

Of the octets of a request, an offer, an acknowledgement or a refusal shows the hardware type and
length, the transaction, the flags, the relay and the hardware address, and no others. The header of
such a reply is therefore a function of the header of the request, of the address that is given and
of the address that the server announces; the options that the caller lays over the reply have no
part in it, and neither have the options of the request.

**The law** (`ReplyWriter.send_echoes_request`): this holds of the octets that are queued, for every
datagram that holds a request and every registry that it was read with. It does not say when a reply
is queued; that is said where runs of a writer are spoken of.
-/

namespace Dhcp

/-! ## The usual replies -/

/-- A usual reply, with the address it gives and the options it has of its own. -/
inductive Reply.Usual : Reply → Ipv4 → List Opt → Prop where
  | offer (addr : Ipv4) (extra : List Opt) :
      Usual (.offer addr extra) addr
        [.messageType .offer, .seconds .leaseTime defaultLeaseTime]
  | ack (addr : Ipv4) (extra : List Opt) :
      Usual (.ack addr extra) addr
        [.messageType .ack, .seconds .leaseTime defaultLeaseTime]
  | nak (reason : String) (extra : List Opt) :
      Usual (.nak reason extra) .unspecified [.messageType .nak, .text .message reason]

namespace Reply.Usual

variable {r : Reply} {addr : Ipv4} {own : List Opt}

/-- A usual reply is the bare reply to the request with the address and its own options put in. -/
theorem base_eq (usual : r.Usual addr own) (request : Message) :
    r.base request = { (Message.reply request).withOptions own with yiaddr := addr } := by
  cases usual with
  | offer addr extra => rfl
  | ack addr extra => rfl
  | nak reason extra => rfl

/-- A usual reply has the header of a reply, with its address in it. -/
theorem toHeader_base (usual : r.Usual addr own) (request : Message) :
    (r.base request).toHeader = { (Message.reply request).toHeader with yiaddr := addr } := by
  rw [usual.base_eq]
  exact congrArg (fun h : Header => { h with yiaddr := addr }) (Message.toHeader_withOptions ..)

theorem holds_base (usual : r.Usual addr own) (request : Message) :
    (r.base request).Holds own := by
  rw [usual.base_eq]
  exact (Message.Holds.empty (m := Message.reply request) rfl).withOptions own

end Reply.Usual

/-! ## Headers -/

/-- The header of a usual reply to the request that a datagram holds, field by field. -/
def Header.echo (d : Octets) (addr : Ipv4) (server? : Option Ipv4) : Octets :=
  -- operation code, hardware type, hardware length, hops; transaction; seconds; flags
  [2, d.getD 1 0, d.getD 2 0, 0] ++ d.slice 4 4 ++ [0, 0] ++ d.slice 10 2
    -- addresses of the client, for the client, of the server and of the relay
    ++ [0, 0, 0, 0] ++ addr.octets ++ (server?.getD .unspecified).octets ++ d.slice 24 4
    -- hardware address, both names, cookie
    ++ (d.slice 28 (d.getD 2 0).toNat).fit 16 ++ List.replicate 192 0 ++ [0x63, 0x82, 0x53, 0x63]

namespace Message

variable {reg : Registry} {d : Octets} {request : Message}

/-- The octets of a reply that takes from its request what a bare reply takes. -/
theorem octets_reply (decoded : decodeWith reg d = .ok request) (addr : Ipv4)
    (server? : Option Ipv4) :
    Header.octets { (reply request).toHeader with
      op := .bootReply
      xid := request.xid
      yiaddr := addr
      siaddr := server?.getD .unspecified } = Header.echo d addr server? := by
  obtain ⟨long, fits⟩ := header_of_decodeWith decoded
  have header := toHeader_of_decodeWith decoded
  have long : 240 ≤ d.length := long
  have fits : (d.getD 2 0).toNat ≤ 16 := fits
  have width (offset width : Nat) (inside : offset + width ≤ 240) :
      (d.slice offset width).length = width := by
    rw [Octets.length_slice]
    omega
  have zeros : Octets.fit [] 64 ++ Octets.fit [] 128 = List.replicate 192 0 := by
    simp [Octets.fit]
  have clear : Ipv4.octets .unspecified = [0, 0, 0, 0] := by decide
  have still : Octets.ofNat 2 (0 : UInt16).toNat = [0, 0] := by decide
  have cookie : Octets.ofNat 4 magicCookie.toNat = [0x63, 0x82, 0x53, 0x63] := by decide
  simp only [Header.octets, reply, new, header, Header.ofOctets, OpCode.toOctet, Header.echo, clear,
    still, cookie, Octets.ofNat_uint32 (width 4 4 (by decide)),
    Octets.ofNat_uint16 (width 10 2 (by decide)), Ipv4.octets_ofOctets (width 24 4 (by decide)),
    Octets.take_slice fits, hardwareWidth]
  rw [← zeros]
  simp only [List.append_assoc]

end Message

/-! ## Packets -/

namespace ReplyWriter

/-- An offer, an acknowledgement or a refusal that is taken is queued as one packet to the
destination of the writer. Its first 240 octets show of the request its hardware type and length,
its transaction, flags and relay and its hardware address, and otherwise the address that is given,
the address that the server announces and the cookie; no option has any part in them. Behind them
stand, in ascending order, the reply's own options with those of the caller laid over them and the
server named, and the octet that ends them. -/
theorem send_echoes_request (reg : Registry) (d : Octets) (request : Message)
    (decoded : Message.decodeWith reg d = .ok request) (config : ServerConfig) (source : Endpoint)
    (r : Reply) (addr : Ipv4) (own : List Opt) (usual : r.Usual addr own) (box : Outbox)
    (taken : ((forRequest config request source).send r box).1 = .ok ()) :
    ∃ data, ((forRequest config request source).send r box).2.packets =
        box.packets ++ [⟨config.destination source, data⟩] ∧
      data.take 240 = Header.echo d addr config.serverAddress ∧
      ∃ os : Options,
        data.drop 240 = (os.toList.flatMap fun o => o.toTriple.octets) ++ [255] ∧
        Stamped config.serverAddress (fun code => Opt.lastUnder code (own ++ r.extra)) os.get? := by
  let w := forRequest config request source
  rcases w.send_cases r box with ⟨_, -, sent⟩ | ⟨_, -, -, sent⟩ | ⟨data, written, -, sent⟩
  · cases taken.symm.trans (congrArg Prod.fst sent)
  · cases taken.symm.trans (congrArg Prod.fst sent)
  · obtain ⟨-, rfl⟩ := Message.encode_eq_ok_iff.mp written
    let m := w.compose (r.base request) r.extra
    have header : m.toHeader.octets = Header.echo d addr config.serverAddress := by
      rw [w.toHeader_compose, usual.toHeader_base]
      exact Message.octets_reply decoded addr config.serverAddress
    have laid : (fun code => (Opt.lastUnder code r.extra).or ((r.base request).option? code)) =
        fun code => Opt.lastUnder code (own ++ r.extra) := by
      funext code
      rw [usual.holds_base request, Opt.lastUnder_append]
    refine ⟨m.octets, congrArg (fun sent => sent.2.packets) sent, ?_, m.options, m.drop_octets, ?_⟩
    · rw [← header, Message.octets]
      exact List.take_left' (Header.length_octets _)
    · rw [← laid]
      exact w.stamped_compose (r.base request) r.extra

/-- A request with a short hardware address in a filled slot, with a foreign cookie and with options
of its own. The caller lays a pad, a raw server identifier and a shorter lease time over the reply.
-/
theorem send_echoes_request_foreign :
    let d : Octets := [1, 6, 3, 9, 0, 0, 0, 7, 0, 5, 128, 0] ++ List.replicate 12 9 ++
      [10, 0, 0, 1] ++ List.replicate 212 5 ++ [54, 4, 1, 2, 3, 4, 55, 1, 3, 255]
    let config : ServerConfig := { serverAddress := some ⟨0xC0A80001⟩ }
    let source : Endpoint := .v4 ⟨.unspecified, clientPort⟩
    let r : Reply := .ack ⟨0xC0A80064⟩ [.raw 0 [1], .raw 54 [9], .seconds .leaseTime 60]
    ∃ request data, Message.decodeWith .standard d = .ok request ∧
      ((forRequest config request source).send r {}).2.packets =
        [⟨config.destination source, data⟩] ∧
      data.take 44 = [2, 6, 3, 0, 0, 0, 0, 7, 0, 0, 128, 0, 0, 0, 0, 0, 192, 168, 0, 100,
        192, 168, 0, 1, 10, 0, 0, 1, 5, 5, 5, 0, 0, 0, 0, 0, 0, 0, 0, 0, 0, 0, 0, 0] ∧
      ∃ os : Options, data.drop 240 = (os.toList.flatMap fun o => o.toTriple.octets) ++ [255] ∧
        os.get? 0 = none ∧ os.get? 51 = some (.seconds .leaseTime 60) ∧
        os.get? 54 = some (.address .serverIdentifier ⟨0xC0A80001⟩) := by
  intro d config source r
  have taken : ((Message.decodeWith .standard d).toOption.map fun request =>
      ((forRequest config request source).send r {}).1) = some (.ok ()) := by decide +kernel
  cases decoded : Message.decodeWith .standard d with
  | error fault => simp [decoded, Except.toOption] at taken
  | ok request =>
    rw [decoded] at taken
    obtain ⟨data, queued, header, os, options, stamped⟩ := send_echoes_request .standard d request
      decoded config source r _ _ (.ack _ _) {} (Option.some.inj taken)
    refine ⟨request, data, rfl, queued, ?_, os, options, ?_, ?_, ?_⟩
    · calc data.take 44
          = (data.take 240).take 44 := by rw [List.take_take]; rfl
        _ = (Header.echo d ⟨0xC0A80064⟩ config.serverAddress).take 44 := by rw [header]
        _ = _ := by decide +kernel
    · rw [stamped.kept 0 (.inl (by decide))]
      decide
    · rw [stamped.kept 51 (.inl (by decide))]
      decide
    · apply stamped.named _ rfl
      intro addr
      have raw : Opt.lastUnder 54
          ([.messageType .ack, .seconds .leaseTime defaultLeaseTime] ++ r.extra) =
            some (.raw 54 [9]) := by decide
      rw [raw]
      exact nofun

end ReplyWriter

end Dhcp
