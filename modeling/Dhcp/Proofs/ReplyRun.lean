import Dhcp.Proofs.NormalForm
import Dhcp.Proofs.Reply

/-!
# Runs of a writer

A writer is asked for replies, one after another, and at some point nobody may take replies any
more. What a reply holds is said here of the finished message, field by field and code by code, and
not by the steps in which it is made; `ReplyWriter.makes_iff` says that there is exactly one such
message.

**The law** (`ReplyWriter.run_exact`): over a whole run the outbox receives one packet for each
reply that is taken, in the order of the replies, and nothing for any other. Whether a reply is
taken is decided by the reply and by whether the outbox was closed before; a reply that cannot be
written is refused for that in either case.
-/

namespace Dhcp

/-! ## The message of a reply -/

/-- What a call gives to a writer: the message that the reply starts from, and the options that are
laid over it. -/
inductive Reply.Gives (request : Message) : Reply → Message → List Opt → Prop where
  | offer (addr : Ipv4) (extra : List Opt) :
      Gives request (.offer addr extra) (.offer request addr) extra
  | ack (addr : Ipv4) (extra : List Opt) : Gives request (.ack addr extra) (.ack request addr) extra
  | nak (reason : String) (extra : List Opt) :
      Gives request (.nak reason extra) (.nak request reason) extra
  | message (given : Message) (extra : List Opt) : Gives request (.message given extra) given extra

/-- Every call gives a message and options. -/
theorem Reply.gives_base (request : Message) (r : Reply) :
    r.Gives request (r.base request) r.extra := by
  cases r with
  | offer addr extra => exact .offer addr extra
  | ack addr extra => exact .ack addr extra
  | nak reason extra => exact .nak reason extra
  | message given extra => exact .message given extra

/-- Nothing else is given. -/
theorem Reply.Gives.eq_base {request given : Message} {r : Reply} {extra : List Opt}
    (gives : r.Gives request given extra) : given = r.base request ∧ extra = r.extra := by
  cases gives <;> exact ⟨rfl, rfl⟩

/-- A message is what a given one becomes as a reply in a transaction: the operation code and the
transaction are forced, the address that the server announces, if it announces one, stands in the
header, and of the options, the last that was laid under a code hides what the message had there,
with the server named among them. -/
structure Message.Becomes (given : Message) (extra : List Opt) (xid : UInt32)
    (server? : Option Ipv4) (m : Message) : Prop where
  header : m.toHeader =
    { given.toHeader with
      op := .bootReply
      xid := xid
      siaddr := server?.getD given.siaddr }
  options : Stamped server? (fun code => (Opt.lastUnder code extra).or (given.option? code))
    m.option?

/-- A writer makes of a message the one thing that it becomes. -/
theorem ReplyWriter.becomes_iff {w : ReplyWriter} {given m : Message} {extra : List Opt} :
    given.Becomes extra w.request.xid w.serverAddress m ↔ m = w.compose given extra := by
  constructor
  · intro made
    apply Message.eq_of_option?
    · rw [made.header, w.toHeader_compose]
    · exact made.options.unique (w.stamped_compose given extra)
  · rintro rfl
    exact ⟨w.toHeader_compose given extra, w.stamped_compose given extra⟩

/-! ## Runs -/

/-- What happens to a writer: it is asked for a reply, or nobody takes replies any more. -/
inductive ReplyEvent where
  | reply (r : Reply)
  | close

/-- The reply that is asked for, if one is. -/
def ReplyEvent.reply? : ReplyEvent → Option Reply
  | reply r => some r
  | close => none

namespace ReplyWriter

/-- The replies that are asked for with their outcomes, and the outbox afterwards. -/
def run (w : ReplyWriter) : List ReplyEvent → Outbox → List (Reply × Except Fault Unit) × Outbox
  | [], box => ([], box)
  | .reply r :: events, box =>
    let (outcome, box) := w.send r box
    let (log, box) := w.run events box
    ((r, outcome) :: log, box)
  | .close :: events, box => w.run events box.close

variable (w : ReplyWriter)

theorem run_reply (r : Reply) (events : List ReplyEvent) (box : Outbox) :
    w.run (.reply r :: events) box =
      ((r, (w.send r box).1) :: (w.run events (w.send r box).2).1,
        (w.run events (w.send r box).2).2) := rfl

theorem run_close (events : List ReplyEvent) (box : Outbox) :
    w.run (.close :: events) box = w.run events box.close := rfl

/-- Events that follow others go on with the outbox that those leave. -/
theorem run_append (before after : List ReplyEvent) (box : Outbox) :
    w.run (before ++ after) box =
      ((w.run before box).1 ++ (w.run after (w.run before box).2).1,
        (w.run after (w.run before box).2).2) := by
  induction before generalizing box with
  | nil => rfl
  | cons event before ih =>
    cases event with
    | reply r => rw [List.cons_append, run_reply, run_reply, ih, List.cons_append]
    | close => rw [List.cons_append, run_close, run_close, ih]

/-- The log has one entry for each reply that is asked for, in order. -/
theorem map_fst_run (events : List ReplyEvent) (box : Outbox) :
    (w.run events box).1.map Prod.fst = events.filterMap ReplyEvent.reply? := by
  induction events generalizing box with
  | nil => rfl
  | cons event events ih =>
    cases event with
    | reply r => exact congrArg (r :: ·) (ih _)
    | close => exact ih _

/-- Replies neither open nor close an outbox. -/
theorem isOpen_send (r : Reply) (box : Outbox) : (w.send r box).2.isOpen = box.isOpen := by
  rcases w.send_cases r box with ⟨_, -, sent⟩ | ⟨_, -, -, sent⟩ | ⟨_, -, -, sent⟩ <;> rw [sent]

/-- An outbox is open behind a run exactly if it was before and was not closed in it. -/
theorem isOpen_run (events : List ReplyEvent) (box : Outbox) :
    (w.run events box).2.isOpen = true ↔ box.isOpen = true ∧ .close ∉ events := by
  induction events generalizing box with
  | nil => simp [run]
  | cons event events ih =>
    cases event with
    | reply r =>
      rw [run_reply, ih, w.isOpen_send]
      simp
    | close =>
      rw [run_close, ih]
      simp [Outbox.close]

/-! ## What is queued -/

/-- A packet carries a reply to a request if it goes where it should and holds the octets of what
becomes of the message that the call gives. -/
def Carries (target : Endpoint) (server? : Option Ipv4) (request : Message) (r : Reply)
    (p : Packet) : Prop :=
  p.target = target ∧ ∃ given extra m, r.Gives request given extra ∧
    given.Becomes extra request.xid server? m ∧ m.encode = .ok p.data

/-- One reply adds the packet that carries it, if it is taken, and nothing otherwise. -/
theorem packets_send (r : Reply) (box : Outbox) :
    ∃ queued, (w.send r box).2.packets = box.packets ++ queued ∧
      List.Forall₂ (fun sent p => Carries w.destination w.serverAddress w.request sent.1 p)
        ([(r, (w.send r box).1)].filter fun sent => sent.2 = .ok ()) queued := by
  rcases w.send_cases r box with ⟨_, -, sent⟩ | ⟨_, -, -, sent⟩ | ⟨data, written, -, sent⟩
  · exact ⟨[], by rw [sent, List.append_nil], by rw [sent]; exact .nil⟩
  · exact ⟨[], by rw [sent, List.append_nil], by rw [sent]; exact .nil⟩
  · refine ⟨[⟨w.destination, data⟩], by rw [sent], ?_⟩
    rw [sent]
    exact .cons ⟨rfl, _, _, _, r.gives_base w.request, becomes_iff.mpr rfl, written⟩ .nil

/-- A run adds the packets that carry the replies that are taken, in order. -/
theorem packets_run (events : List ReplyEvent) (box : Outbox) :
    ∃ queued, (w.run events box).2.packets = box.packets ++ queued ∧
      List.Forall₂ (fun sent p => Carries w.destination w.serverAddress w.request sent.1 p)
        ((w.run events box).1.filter fun sent => sent.2 = .ok ()) queued := by
  induction events generalizing box with
  | nil => exact ⟨[], (List.append_nil _).symm, .nil⟩
  | cons event events ih =>
    cases event with
    | close => exact ih box.close
    | reply r =>
      obtain ⟨first, packets, carried⟩ := w.packets_send r box
      obtain ⟨later, packets', carried'⟩ := ih (w.send r box).2
      refine ⟨first ++ later, ?_, ?_⟩
      · rw [run_reply, packets', packets, List.append_assoc]
      · have split : (w.run (.reply r :: events) box).1.filter (fun sent => sent.2 = .ok ()) =
            [(r, (w.send r box).1)].filter (fun sent => sent.2 = .ok ()) ++
              (w.run events (w.send r box).2).1.filter fun sent => sent.2 = .ok () := by
          rw [← List.filter_append]
          rfl
        rw [split]
        exact List.rel_append carried carried'

/-! ## What comes of each reply -/

/-- What comes of a reply is decided by the octets of the message that is made of it and by whether
the outbox is open. -/
theorem outcome_send (r : Reply) (box : Outbox) :
    ∃ given extra m, r.Gives w.request given extra ∧
      given.Becomes extra w.request.xid w.serverAddress m ∧
      (∀ cause, m.encode = .error cause → (w.send r box).1 = .error (.unwritable cause)) ∧
      ∀ data, m.encode = .ok data →
        (box.isOpen = true → (w.send r box).1 = .ok ()) ∧
        (box.isOpen ≠ true → (w.send r box).1 = .error .serverClosed) := by
  refine ⟨_, _, _, r.gives_base w.request, becomes_iff.mpr rfl, ?_, ?_⟩
  · intro cause refused
    rcases w.send_cases r box with ⟨_, same, sent⟩ | ⟨_, written, -⟩ | ⟨_, written, -⟩
    · cases refused.symm.trans same
      rw [sent]
    · cases refused.symm.trans written
    · cases refused.symm.trans written
  · intro data written
    rcases w.send_cases r box with ⟨_, refused, -⟩ | ⟨_, -, shut, sent⟩ | ⟨_, -, opened, sent⟩
    · cases written.symm.trans refused
    · simp [sent, shut]
    · simp [sent, opened]

/-- The place of a reply in the log is the number of replies before it. -/
theorem getElem?_run (before : List ReplyEvent) (r : Reply) (after : List ReplyEvent)
    (box : Outbox) :
    (w.run (before ++ .reply r :: after) box).1[(before.filterMap ReplyEvent.reply?).length]? =
      some (r, (w.send r (w.run before box).2).1) := by
  have place : (before.filterMap ReplyEvent.reply?).length = (w.run before box).1.length := by
    rw [← w.map_fst_run before box, List.length_map]
  rw [run_append, place, List.getElem?_append_right (Nat.le_refl _), Nat.sub_self]
  rfl

/-- A writer is exact over every sequence of replies, whatever messages and options they are made of
and wherever the outbox is closed among them. Each packet that the outbox receives carries one of
the replies that were taken, in their order: it goes where the configuration says, and holds the
octets of what becomes of the given message with the options laid over it, as a reply in the
transaction of the request that names the server of the configuration. A reply that cannot be
written is refused for that, also where the outbox is closed; any other reply is taken exactly if
the outbox was not closed before. -/
theorem run_exact (config : ServerConfig) (request : Message) (source : Endpoint)
    (events : List ReplyEvent) :
    let w := forRequest config request source
    let log := (w.run events {}).1
    let box := (w.run events {}).2
    log.map Prod.fst = events.filterMap ReplyEvent.reply? ∧
    List.Forall₂
      (fun sent p =>
        p.target = (match config.replyMode with
          | .broadcast => .v4 ⟨config.broadcastAddress, config.clientPort⟩
          | .unicast => source) ∧
        ∃ given extra m, sent.1.Gives request given extra ∧
          given.Becomes extra request.xid config.serverAddress m ∧ m.encode = .ok p.data)
      (log.filter fun sent => sent.2 = .ok ()) box.packets ∧
    ∀ before r after, events = before ++ .reply r :: after →
      ∃ given extra m outcome, r.Gives request given extra ∧
        given.Becomes extra request.xid config.serverAddress m ∧
        log[(before.filterMap ReplyEvent.reply?).length]? = some (r, outcome) ∧
        (∀ cause, m.encode = .error cause → outcome = .error (.unwritable cause)) ∧
        ∀ data, m.encode = .ok data →
          (.close ∉ before → outcome = .ok ()) ∧
          (.close ∈ before → outcome = .error .serverClosed) := by
  intro w log box
  refine ⟨w.map_fst_run events {}, ?_, ?_⟩
  · obtain ⟨queued, packets, carried⟩ := w.packets_run events {}
    have all : box.packets = queued := packets
    rw [all]
    exact carried
  · rintro before r after rfl
    obtain ⟨given, extra, m, gives, becomes, refused, written⟩ :=
      w.outcome_send r (w.run before {}).2
    refine ⟨given, extra, m, _, gives, becomes, w.getElem?_run before r after {}, refused, ?_⟩
    intro data encoded
    obtain ⟨taken, untaken⟩ := written data encoded
    have opened : (w.run before {}).2.isOpen = true ↔ .close ∉ before := by
      rw [w.isOpen_run, and_iff_right rfl]
    exact ⟨fun unclosed => taken (opened.mpr unclosed),
      fun closed => untaken fun still => opened.mp still closed⟩

/-- An offer and an acknowledgement are taken, of which the first names the server of the
configuration and the second the one that its caller names, although its options begin with a code
that is no option. Then the outbox is closed: a refusal finds nobody, and a reply that is too long
to be written is still refused for its length. -/
theorem run_exact_closed :
    let config : ServerConfig := { serverAddress := some ⟨0xC0A80001⟩ }
    let request := Message.discover 7
    let source : Endpoint := .v4 ⟨⟨0x0A000001⟩, clientPort⟩
    let offer : Reply := .offer ⟨0xC0A80064⟩ []
    let ack : Reply := .ack ⟨0xC0A80064⟩ [.raw 0 [1], .address .serverIdentifier ⟨0xC0A80009⟩]
    let long : Reply := .message request [.raw 9 (List.replicate 256 0)]
    let events : List ReplyEvent :=
      [.reply offer, .reply ack, .close, .reply (.nak "late" []), .reply long]
    let log := ((forRequest config request source).run events {}).1
    let box := ((forRequest config request source).run events {}).2
    log = [(offer, .ok ()), (ack, .ok ()), (.nak "late" [], .error .serverClosed),
      (long, .error (.unwritable (.optionTooLong 9 256)))] ∧
    ∃ (p q : Packet) (m n : Message), box.packets = [p, q] ∧
      (p.target = .v4 ⟨.everyone, 68⟩ ∧ m.encode = .ok p.data ∧ m.op = .bootReply ∧ m.xid = 7 ∧
        m.siaddr = ⟨0xC0A80001⟩ ∧
        m.option? 54 = some (.address .serverIdentifier ⟨0xC0A80001⟩)) ∧
      q.target = .v4 ⟨.everyone, 68⟩ ∧ n.encode = .ok q.data ∧ n.op = .bootReply ∧ n.xid = 7 ∧
        n.siaddr = ⟨0xC0A80001⟩ ∧ n.option? 0 = none ∧
        n.option? 54 = some (.address .serverIdentifier ⟨0xC0A80009⟩) := by
  intro config request source offer ack long events log box
  obtain ⟨replies, carried, -⟩ := run_exact config request source events
  have outcomes : log.map Prod.snd = [.ok (), .ok (), .error .serverClosed,
      .error (.unwritable (.optionTooLong 9 256))] := by decide +kernel
  have replies : log.map Prod.fst = [offer, ack, .nak "late" [], long] := replies
  have all := List.zip_of_prod replies outcomes
  simp only [List.zip_cons_cons, List.zip_nil_right] at all
  have kept : log.filter (fun sent => sent.2 = .ok ()) = [(offer, .ok ()), (ack, .ok ())] := by
    simp [all]
  refine ⟨all, ?_⟩
  rw [kept] at carried
  obtain ⟨p, _, ⟨target, _, _, m, gives, becomes, encoded⟩, behind, packets⟩ :=
    List.forall₂_cons_left_iff.mp carried
  obtain ⟨q, _, ⟨target', _, _, n, gives', becomes', encoded'⟩, rest, rfl⟩ :=
    List.forall₂_cons_left_iff.mp behind
  cases List.forall₂_nil_left_iff.mp rest
  obtain ⟨rfl, rfl⟩ := gives.eq_base
  obtain ⟨rfl, rfl⟩ := gives'.eq_base
  have unnamed : (Opt.lastUnder 54 offer.extra).or ((offer.base request).option? 54) = none := by
    decide
  have named : (Opt.lastUnder 54 ack.extra).or ((ack.base request).option? 54) =
      some (.address .serverIdentifier ⟨0xC0A80009⟩) := by decide
  have dropped : (Opt.lastUnder 0 ack.extra).or ((ack.base request).option? 0) = none := by decide
  refine ⟨p, q, m, n, packets, ⟨target, encoded, ?_, ?_, ?_, ?_⟩, target', encoded', ?_, ?_, ?_,
    ?_, ?_⟩
  · exact congrArg Header.op becomes.header
  · exact congrArg Header.xid becomes.header
  · exact congrArg Header.siaddr becomes.header
  · exact becomes.options.named _ rfl fun addr => by rw [unnamed]; exact nofun
  · exact congrArg Header.op becomes'.header
  · exact congrArg Header.xid becomes'.header
  · exact congrArg Header.siaddr becomes'.header
  · exact (becomes'.options.kept 0 (.inl (by decide))).trans dropped
  · exact (becomes'.options.kept 54 (.inr (.inr ⟨_, named⟩))).trans named

end ReplyWriter

end Dhcp
