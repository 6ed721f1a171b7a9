import Dhcp.Proofs.Inbox
import Dhcp.Proofs.Reply

/-!
# Replies find the client that waits for them

A writer forces the operation code and the transaction of everything that is sent through it. Both
stand in the header, so neither the message that a caller hands to the writer nor the options that
it lays over it have any say in what a client makes of the packet: it is a reply, and it belongs to
the transaction of the request.

**The law** (`Client.receive_first_of_own`): of packets that writers of any requests have queued,
delivered in any order, a client gets the first that was written for the transaction it waits for,
and the others do not disturb it.
-/

namespace Dhcp

namespace ReplyWriter

/-- Sends replies one after another, each through a writer of its own, all into one outbox; the
first part is the outcomes. -/
def sendAll : List (ReplyWriter × Reply) → Outbox → List (Except Fault Unit) × Outbox
  | [], box => ([], box)
  | (w, r) :: calls, box =>
    let (outcome, box) := w.send r box
    let (outcomes, box) := sendAll calls box
    (outcome :: outcomes, box)

/-- The packet that a call queues. -/
def Queues (call : ReplyWriter × Reply) (p : Packet) : Prop := call.1.packet call.2 = .ok p

variable {w : ReplyWriter} {r : Reply} {p : Packet} {calls : List (ReplyWriter × Reply)}
  {packets : List Packet} {box : Outbox}

/-! ## What calls queue -/

/-- The first call is made on the outbox, and the others on what it leaves. -/
theorem sendAll_cons (call : ReplyWriter × Reply) (calls : List (ReplyWriter × Reply))
    (box : Outbox) :
    sendAll (call :: calls) box =
      ((call.1.send call.2 box).1 :: (sendAll calls (call.1.send call.2 box).2).1,
        (sendAll calls (call.1.send call.2 box).2).2) := rfl

/-- Calls that all succeed queue one packet each, in their order. -/
theorem queues_of_sendAll (sent : ∀ outcome ∈ (sendAll calls box).1, outcome = .ok ()) :
    ∃ packets, List.Forall₂ Queues calls packets ∧
      (sendAll calls box).2 = { box with packets := box.packets ++ packets } := by
  induction calls generalizing box with
  | nil => exact ⟨[], .nil, by rw [sendAll, List.append_nil]⟩
  | cons call calls ih =>
    rw [sendAll_cons] at sent ⊢
    obtain ⟨first, behind⟩ := List.forall_mem_cons.mp sent
    obtain ⟨p, made, queued⟩ := packet_of_send first
    obtain ⟨packets, made', queued'⟩ := ih behind
    refine ⟨p :: packets, .cons made made', queued'.trans ?_⟩
    rw [queued, List.append_assoc, List.singleton_append]

/-- Calls whose replies can be written all succeed as long as replies are taken. -/
theorem sendAll_of_queues (made : List.Forall₂ Queues calls packets) (box : Outbox)
    (taking : box.isOpen = true) :
    sendAll calls box =
      (calls.map fun _ => .ok (), { box with packets := box.packets ++ packets }) := by
  induction made generalizing box with
  | nil => rw [sendAll, List.append_nil, List.map_nil]
  | @cons call p calls packets first _ ih =>
    have behind := ih { box with packets := box.packets ++ [p] } taking
    rw [sendAll_cons, send_of_packet first taking, behind, List.append_assoc,
      List.singleton_append, List.map_cons]

/-- Whatever a caller wants to reply, what is read of the packet is a reply of the transaction of
the request. -/
theorem reads_as_reply (made : w.packet r = .ok p) {reg : Registry} {m : Message}
    (read : Message.decodeWith reg p.data = .ok m) :
    m.op = .bootReply ∧ m.xid = w.request.xid := by
  obtain ⟨-, rfl⟩ := packet_eq_ok_iff.mp made
  have header := Message.toHeader_of_decodeWith read
  rw [Message.ofOctets_octets, w.toHeader_compose] at header
  exact ⟨(congrArg Header.op header :), (congrArg Header.xid header :)⟩

end ReplyWriter

namespace Client

variable {c : Client} {xid : UInt32}

/-- What a call queued, if a client reads it at all, is the reply to those that wait for its
transaction and foreign to everybody else. -/
theorem decides_or_foreign {a : ReplyWriter × Packet}
    (made : ∃ r, a.1.packet r = .ok a.2) (short : a.2.data.length ≤ 2048) {m : Message}
    (read : Message.decodeWith c.registry a.2.data = .ok m) :
    m.op = .bootReply ∧ m.xid = a.1.request.xid ∧
      (a.1.request.xid = xid → c.Decides xid a.2.data (.ok m)) ∧
      (a.1.request.xid ≠ xid → c.Foreign xid a.2.data) := by
  obtain ⟨r, made⟩ := made
  obtain ⟨answers, same⟩ := ReplyWriter.reads_as_reply made read
  have whole : received a.2.data = a.2.data := List.take_of_length_le short
  have read' : Message.decodeWith c.registry (received a.2.data) = .ok m := by rw [whole, read]
  refine ⟨answers, same, fun own => ?_, fun other => ?_⟩
  · exact .reply read' answers (same.trans own)
  · exact ⟨m, read', answers, fun own => other (same.symm.trans own)⟩

/-- Writers of any requests send any messages with any options laid over them, and each is queued as
one packet. Of these packets some arrive at a client, in any order, and are short enough and can be
read. The client then gets the first of them that was written for a request of the transaction it
waits for, as a reply of that transaction, and those behind it are left; if there is none, it waits
in vain. Packets that were written for other transactions are neither taken nor do they end the
wait. -/
theorem receive_first_of_own (c : Client) (xid : UInt32) (calls : List (ReplyWriter × Reply))
    (sent : ∀ outcome ∈ (ReplyWriter.sendAll calls {}).1, outcome = .ok ())
    (arrivals : List (ReplyWriter × Packet))
    (written : ∀ a ∈ arrivals,
      a ∈ (calls.map Prod.fst).zip (ReplyWriter.sendAll calls {}).2.packets)
    (short : ∀ a ∈ arrivals, a.2.data.length ≤ 2048)
    (readable : ∀ a ∈ arrivals, ∃ m, Message.decodeWith c.registry a.2.data = .ok m) :
    (ReplyWriter.sendAll calls {}).2.packets.length = calls.length ∧
    (∀ before a after, arrivals = before ++ a :: after →
      (∀ b ∈ before, b.1.request.xid ≠ xid) → a.1.request.xid = xid →
        ∃ m, Message.decodeWith c.registry a.2.data = .ok m ∧ m.op = .bootReply ∧ m.xid = xid ∧
          c.receive xid (arrivals.map fun a => a.2.data) =
            (.ok m, after.map fun a => a.2.data)) ∧
    ((∀ a ∈ arrivals, a.1.request.xid ≠ xid) →
      c.receive xid (arrivals.map fun a => a.2.data) =
        (.error (.timeout c.config.timeout), [])) := by
  obtain ⟨packets, queues, queued⟩ := ReplyWriter.queues_of_sendAll sent
  have collected : (ReplyWriter.sendAll calls {}).2.packets = packets :=
    congrArg Outbox.packets queued
  rw [collected] at written ⊢
  have made : ∀ a ∈ arrivals, ∃ r, a.1.packet r = .ok a.2 := by
    intro a mem
    have origin := written a mem
    rw [List.zip_map_left] at origin
    obtain ⟨⟨call, p⟩, pair, rfl⟩ := List.mem_map.mp origin
    exact ⟨call.2, List.forall₂_zip queues pair⟩
  have foreign : ∀ a ∈ arrivals, a.1.request.xid ≠ xid → c.Foreign xid a.2.data := by
    intro a mem other
    obtain ⟨m, read⟩ := readable a mem
    obtain ⟨-, -, -, foreign⟩ := decides_or_foreign (made a mem) (short a mem) read
    exact foreign other
  refine ⟨queues.length_eq.symm, ?_, ?_⟩
  · rintro before a after rfl others own
    have mem : a ∈ before ++ a :: after := List.mem_append_right _ List.mem_cons_self
    obtain ⟨m, read⟩ := readable a mem
    obtain ⟨answers, same, decides, -⟩ := decides_or_foreign (made a mem) (short a mem) read
    refine ⟨m, read, answers, same.trans own, ?_⟩
    rw [List.map_append, List.map_cons]
    refine (Waits.decided (List.forall_mem_map.mpr ?_) (decides own)).receive
    intro b behind
    exact foreign b (List.mem_append_left _ behind) (others b behind)
  · intro others
    refine (Waits.unanswered (List.forall_mem_map.mpr ?_)).receive
    intro a mem
    exact foreign a mem (others a mem)

/-- A writer is handed a message that is no reply and belongs to another transaction, and another
writer has sent its offer first. The client of the one gets what its writer sent and not the offer
that arrives before and behind it, and a client of a third transaction gets neither. -/
theorem receive_first_of_own_hostile :
    let c : Client := { config := { mac := ⟨[2, 0, 0, 0, 0, 1], rfl⟩ } }
    let writer (xid : UInt32) := ReplyWriter.forRequest {} (Message.discover xid)
      (.v4 ⟨⟨0x0A000001⟩, clientPort⟩)
    let offer : Reply := .offer ⟨0xC0A80064⟩ []
    let hostile : Reply := .message (Message.new (.unknown 9) 99) [.text .message "no"]
    ∃ p q m, (ReplyWriter.sendAll [(writer 1, offer), (writer 2, hostile)] {}).2.packets = [p, q] ∧
      m.op = .bootReply ∧ m.xid = 2 ∧
      c.receive 2 [p.data, q.data, p.data] = (.ok m, [p.data]) ∧
      c.receive 3 [q.data, p.data] = (.error (.timeout c.config.timeout), []) := by
  intro c writer offer hostile
  let offered := (writer 1).compose (Message.offer (Message.discover 1) ⟨0xC0A80064⟩) []
  let forged := (writer 2).compose (Message.new (.unknown 9) 99) [.text .message "no"]
  have asked := Message.travels_ask .discover (by decide) 1
  have offered_travels : offered.Travels 7 :=
    ((asked.granting (by decide) _).compose (writer 1) (List.forall_mem_nil _)).mono
      (by decide)
  have forged_travels : forged.Travels 7 :=
    ((Message.travels_new (.unknown 9) rfl 99).compose (writer 2)
      (List.forall_mem_singleton.mpr (Opt.travels_text .message (by decide)))).mono (by decide)
  let p : Packet := ⟨(writer 1).destination, offered.octets⟩
  let q : Packet := ⟨(writer 2).destination, forged.octets⟩
  have queued : ReplyWriter.sendAll [(writer 1, offer), (writer 2, hostile)] {} =
      ([.ok (), .ok ()], { packets := [p, q] }) :=
    ReplyWriter.sendAll_of_queues (.cons (ReplyWriter.packet_of_travels rfl offered_travels)
      (.cons (ReplyWriter.packet_of_travels rfl forged_travels) .nil)) {} rfl
  have sent : ∀ outcome ∈
      (ReplyWriter.sendAll [(writer 1, offer), (writer 2, hostile)] {}).1, outcome = .ok () := by
    rw [queued]
    simp
  have each {m : Message} (travels : m.Travels 7) :
      m.octets.length ≤ 2048 ∧ ∃ n, Message.decodeWith c.registry m.octets = .ok n :=
    ⟨travels.length_octets_le.trans (by decide),
      m, travels.received ▸ travels.decodeWith_received⟩
  have arrived : ∀ a ∈ [(writer 1, p), (writer 2, q)],
      a.2.data.length ≤ 2048 ∧ ∃ n, Message.decodeWith c.registry a.2.data = .ok n :=
    List.forall_mem_cons.mpr
      ⟨each offered_travels, List.forall_mem_singleton.mpr (each forged_travels)⟩
  have deliver (xid : UInt32) (arrivals : List (ReplyWriter × Packet))
      (among : arrivals ⊆ [(writer 1, p), (writer 2, q)]) :=
    c.receive_first_of_own xid _ sent arrivals (fun a mem => by rw [queued]; exact among mem)
      (fun a mem => (arrived a (among mem)).1) (fun a mem => (arrived a (among mem)).2)
  obtain ⟨-, first, -⟩ := deliver 2 [(writer 1, p), (writer 2, q), (writer 1, p)] (by simp)
  obtain ⟨m, -, answers, same, taken⟩ := first [(writer 1, p)] _ _ rfl
    (List.forall_mem_singleton.mpr (by decide)) rfl
  obtain ⟨-, -, vain⟩ := deliver 3 [(writer 2, q), (writer 1, p)] (by simp)
  refine ⟨p, q, m, by rw [queued], answers, same, taken, vain ?_⟩
  exact List.forall_mem_cons.mpr ⟨by decide, List.forall_mem_singleton.mpr (by decide)⟩

end Client

end Dhcp
