import Dhcp.Proofs.Obtaining
import Mathlib.Data.List.Chain

/-!
# Sessions of a client

A client is called again and again, and between and during its calls datagrams arrive. A session is
the record of this: for each call what the client was, what it could read, what came of the call,
and what was sent and left unread.

What a call may do is said from the call and the client alone: which fact it lacks, where its
packets go and how many there are. `Client.Step.Lawful` says that a step keeps to that.

**The law** (`Client.session_lawful`): in every session every step keeps to that, and the client is
the one that it was at first but for the address and the server that it remembers. These change only
where the client is told them, or where it obtains a lease.
-/

namespace Dhcp

namespace Client

/-! ## What a call may do -/

/-- The fact that an operation needs and the client does not know; the address is asked for
first. -/
def lacks? (c : Client) : Operation → Option Need
  | .renew | .release =>
    if c.config.clientAddress = none then some .clientAddress
    else if c.config.server = none then some .serverAddress
    else none
  | .inform => if c.config.clientAddress = none then some .clientAddress else none
  | _ => none

/-- Where the packet of an operation goes: to the server that the client remembers, where the
operation is meant for it, and else to every server. -/
def target? (c : Client) : Operation → Option Endpoint
  | .renew | .release => c.config.server.map fun server => .v4 ⟨server, c.config.serverPort⟩
  | .inform =>
    some (.v4 ⟨c.config.server.getD c.config.broadcastAddress, c.config.serverPort⟩)
  | _ => some (.v4 ⟨c.config.broadcastAddress, c.config.serverPort⟩)

namespace Call

/-- The fact that a call needs and the client does not know. -/
def lacks? (c : Client) : Call → Option Need
  | .perform operation _ => c.lacks? operation
  | _ => none

/-- Where the packets of a call go. -/
def target? (c : Client) : Call → Option Endpoint
  | .perform operation _ => c.target? operation
  | .obtainLease _ => some (.v4 ⟨c.config.broadcastAddress, c.config.serverPort⟩)
  | .send target _ => some target
  | _ => none

/-- The number of packets that a call sends at most. -/
def most : Call → Nat
  | .perform _ _ => 1
  | .obtainLease _ => 2
  | .send _ _ => 1
  | _ => 0

end Call

/-! ## Sessions -/

/-- A call of a client, with the datagrams that have arrived since the call before, and the network
during the call. -/
structure Turn where
  arrivals : List Octets
  network : Network
  call : Call

/-- What came of a turn. -/
structure Step where
  turn : Turn
  before : Client
  /-- The datagrams that could be read when the client was called. -/
  available : List Octets
  answer : Except Fault Answer
  after : Client
  /-- The packets that the call sent, and the datagrams that it left unread. -/
  traffic : Traffic

/-- The step of a client whose inbox holds datagrams. -/
def step (c : Client) (inbox : List Octets) (turn : Turn) : Step :=
  let available := inbox ++ turn.arrivals
  let (answer, after, traffic) := c.call turn.network { inbox := available } turn.call
  ⟨turn, c, available, answer, after, traffic⟩

/-- The steps of a client that is called again and again. -/
def session (c : Client) (inbox : List Octets) : List Turn → List Step
  | [] => []
  | turn :: turns =>
    let s := c.step inbox turn
    s :: s.after.session s.traffic.inbox turns

/-- A step does what its call may do. -/
structure Step.Lawful (s : Step) : Prop where
  /-- The client remembers what it did before, unless it is told something or obtains a lease. -/
  memory : s.after = s.before ∨
    (∃ server, s.turn.call = .setServer server ∧
      s.after = { s.before with config := { s.before.config with server := some server } }) ∨
    (∃ addr, s.turn.call = .setClientAddress addr ∧
      s.after = { s.before with config := { s.before.config with clientAddress := some addr } }) ∨
    ∃ xid lease server?, s.turn.call = .obtainLease xid ∧ s.answer = .ok (.lease lease) ∧
      s.after =
        { s.before with
          config :=
            { s.before.config with clientAddress := some lease.address, server := server? } }
  /-- A call fails for the fact that it lacks, and for no other fact. -/
  missing : ∀ need, s.answer = .error (.missing need) ↔ s.turn.call.lacks? s.before = some need
  /-- A call that lacks a fact neither sends nor reads. -/
  idle : s.turn.call.lacks? s.before ≠ none → s.traffic = { inbox := s.available }
  few : s.traffic.sent.length ≤ s.turn.call.most
  aimed : ∀ p ∈ s.traffic.sent, s.turn.call.target? s.before = some p.target

/-! ## Operations -/

/-- Where both the address and the server are needed, the address is missed first. -/
theorem need_both_cases (c : Client) (f : Ipv4 → Ipv4 → Endpoint × Message)
    (aimed : ∀ addr server, (f addr server).1 = c.serverTarget server) :
    let planned : Except Fault (Endpoint × Message) := do
      let addr ← c.needAddress
      let server ← c.needServer
      pure (f addr server)
    (∃ need, c.lacks? .renew = some need ∧ planned = .error (.missing need)) ∨
      c.lacks? .renew = none ∧
        ∃ target m, planned = .ok (target, m) ∧ c.target? .renew = some target := by
  intro planned
  cases held : c.config.clientAddress with
  | none =>
    refine .inl ⟨.clientAddress, by simp only [lacks?, held, if_true], ?_⟩
    simp only [planned, needAddress, held]
    rfl
  | some addr =>
    cases known : c.config.server with
    | none =>
      refine .inl ⟨.serverAddress, by simp [lacks?, held, known], ?_⟩
      simp only [planned, needAddress, needServer, held, known]
      rfl
    | some server =>
      refine .inr ⟨by simp [lacks?, held, known], (f addr server).1, (f addr server).2, ?_, ?_⟩
      · simp only [planned, needAddress, needServer, held, known]
        rfl
      · rw [target?, known, aimed]
        rfl

/-- An operation lacks a fact and has no message, or it lacks none and its message has a target. -/
theorem plan_cases (c : Client) (op : Operation) (fresh : UInt32) :
    (∃ need, c.lacks? op = some need ∧ c.plan op fresh = .error (.missing need)) ∨
      c.lacks? op = none ∧
        ∃ target m, c.plan op fresh = .ok (target, m) ∧ c.target? op = some target := by
  cases op with
  | renew =>
    exact c.need_both_cases (fun addr server => (c.serverTarget server,
      c.announce (c.identify (Message.renew addr fresh)))) fun _ _ => rfl
  | release =>
    exact c.need_both_cases (fun addr server => (c.serverTarget server,
      (c.identify (Message.release addr fresh)).withOption (.address .serverIdentifier server)))
      fun _ _ => rfl
  | inform =>
    cases held : c.config.clientAddress with
    | none =>
      refine .inl ⟨.clientAddress, by simp only [lacks?, held, if_true], ?_⟩
      simp only [plan, needAddress, held]
      rfl
    | some addr =>
      refine .inr ⟨by simp [lacks?, held], ?_⟩
      simp only [plan, needAddress, held, target?]
      cases c.config.server with
      | none => exact ⟨_, _, rfl, rfl⟩
      | some server => exact ⟨_, _, rfl, rfl⟩
  | _ => exact .inr ⟨rfl, _, _, rfl, rfl⟩

/-! ## What is sent -/

/-- Between two states of the traffic at most so many packets are sent, all to one target. -/
def Sends (target : Endpoint) (n : Nat) (t t' : Traffic) : Prop :=
  ∃ packets, t'.sent = t.sent ++ packets ∧ packets.length ≤ n ∧ ∀ p ∈ packets, p.target = target

theorem Sends.refl (target : Endpoint) (n : Nat) {t t' : Traffic} (same : t'.sent = t.sent) :
    Sends target n t t' :=
  ⟨[], by rw [same, List.append_nil], Nat.zero_le n, nofun⟩

/-- Packets that are sent one after another add up. -/
theorem Sends.trans {target : Endpoint} {n k : Nat} {t₁ t₂ t₃ : Traffic}
    (first : Sends target n t₁ t₂) (second : Sends target k t₂ t₃) :
    Sends target (n + k) t₁ t₃ := by
  obtain ⟨packets, sent, few, aimed⟩ := first
  obtain ⟨packets', sent', few', aimed'⟩ := second
  refine ⟨packets ++ packets', by rw [sent', sent, List.append_assoc], ?_, ?_⟩
  · rw [List.length_append]
    exact Nat.add_le_add few few'
  · exact List.forall_mem_append.mpr ⟨aimed, aimed'⟩

section Sending

variable (c : Client) (network : Network) (target : Endpoint) (m : Message) (t : Traffic)

/-- Sending a message sends one packet at most, to its target. -/
theorem sends_send : Sends target 1 t (send network target m t).2 := by
  unfold send
  cases m.encode with
  | error cause => exact .refl target 1 rfl
  | ok data =>
    unfold Traffic.send
    dsimp only
    split
    · cases network t.sent.length ⟨target, data⟩ with
      | none => exact .refl target 1 rfl
      | some arrivals => exact ⟨[⟨target, data⟩], rfl, Nat.le_refl 1, by simp⟩
    · exact .refl target 1 rfl

/-- Waiting for the reply to a message sends nothing more. -/
theorem sends_exchange : Sends target 1 t (c.exchange network target m t).2 := by
  have sends := sends_send network target m t
  unfold exchange
  split
  next fault t' sent =>
    rw [sent] at sends
    exact sends
  next t' sent =>
    rw [sent] at sends
    exact sends

end Sending

/-! ## Faults -/

/-- A wait never ends for lack of a fact. -/
theorem Waits.ne_missing {c : Client} {xid : UInt32} {available left : List Octets} {need : Need}
    (waits : c.Waits xid available (.error (.missing need)) left) : False := by
  cases waits with
  | decided foreign decides => cases decides

theorem receive_ne_missing (c : Client) (xid : UInt32) (available : List Octets) (need : Need) :
    (c.receive xid available).1 ≠ .error (.missing need) := by
  intro lacking
  obtain ⟨result, left, waits⟩ := c.exists_waits xid available
  rw [waits.receive] at lacking
  cases lacking
  exact waits.ne_missing

theorem send_ne_missing (network : Network) (target : Endpoint) (m : Message) (t : Traffic)
    (need : Need) : (send network target m t).1 ≠ .error (.missing need) := by
  unfold send
  cases m.encode with
  | error cause => nofun
  | ok data =>
    unfold Traffic.send
    dsimp only
    split
    · cases network t.sent.length ⟨target, data⟩ <;> nofun
    · nofun

/-- An exchange never fails for lack of a fact. -/
theorem exchange_ne_missing (c : Client) (network : Network) (target : Endpoint) (m : Message)
    (t : Traffic) (need : Need) :
    (c.exchange network target m t).1 ≠ .error (.missing need) := by
  have unsent := send_ne_missing network target m t need
  unfold exchange
  split
  next fault t' sent =>
    rw [sent] at unsent
    exact fun same => unsent (by cases same; rfl)
  next t' sent => exact c.receive_ne_missing m.xid t'.inbox need

/-! ## Operations and leases in a network -/

section Performing

variable (c : Client) (network : Network) (t : Traffic)

/-- An operation that lacks a fact fails for it, and neither sends nor reads. -/
theorem run_perform_of_lacks {op : Operation} (fresh : UInt32) {need : Need}
    (lacks : c.lacks? op = some need) :
    (c.perform op fresh).run c network t = (.error (.missing need), t) := by
  rcases c.plan_cases op fresh with ⟨need', lacks', plan⟩ | ⟨known, -⟩
  · cases lacks.symm.trans lacks'
    rw [perform, plan]
    rfl
  · cases lacks.symm.trans known

/-- An operation that lacks nothing sends at most one packet, to its target, and does not fail for
lack of a fact. -/
theorem run_perform_of_known {op : Operation} (fresh : UInt32) (known : c.lacks? op = none) :
    ∃ target, c.target? op = some target ∧
      Sends target 1 t ((c.perform op fresh).run c network t).2 ∧
      ∀ need, ((c.perform op fresh).run c network t).1 ≠ .error (.missing need) := by
  rcases c.plan_cases op fresh with ⟨need, lacks, -⟩ | ⟨-, target, m, plan, aimed⟩
  · cases known.symm.trans lacks
  · rw [c.run_perform_of_plan network t plan]
    exact ⟨target, aimed, c.sends_exchange network target m t,
      c.exchange_ne_missing network target m t⟩

/-- A client settles on a lease, or on a fault other than the lack of a fact. -/
theorem settle_cases (offer m : Message) :
    (∃ lease server?, c.settle offer m = .ok (lease, c.bound lease.address server?)) ∨
      ∃ fault, c.settle offer m = .error fault ∧ ∀ need, fault ≠ .missing need := by
  by_cases isAck : m.messageType? = some .ack
  · exact .inl ⟨_, _, c.settle_of_ack offer isAck⟩
  · by_cases isNak : m.messageType? = some .nak
    · exact .inr ⟨_, c.settle_of_nak offer isNak, nofun⟩
    · exact .inr ⟨_, c.settle_of_other offer isAck isNak, nofun⟩

/-- A client that obtains a lease sends at most two packets, both to every server. It is bound to
the lease, or it remembers what it did before and has not failed for lack of a fact. -/
theorem run_obtainLease (xid : UInt32) :
    ∃ result after t', (c.obtainLease xid).run c network t = ((result, after), t') ∧
      Sends c.broadcastTarget 2 t t' ∧
      ((∃ lease server?, result = .ok lease ∧ after = c.bound lease.address server?) ∨
        ∃ fault, result = .error fault ∧ after = c ∧ ∀ need, fault ≠ .missing need) := by
  have once (op : Operation) (broadcast : c.target? op = some c.broadcastTarget)
      (known : c.lacks? op = none) (t : Traffic) :
      Sends c.broadcastTarget 1 t ((c.perform op xid).run c network t).2 ∧
        ∀ need, ((c.perform op xid).run c network t).1 ≠ .error (.missing need) := by
    obtain ⟨target, aimed, sends, named⟩ := c.run_perform_of_known network t xid known
    cases broadcast.symm.trans aimed
    exact ⟨sends, named⟩
  have first := once .discover rfl rfl t
  rcases discovered : (c.perform .discover xid).run c network t with ⟨fault | offer, t₁⟩
  · rw [discovered] at first
    refine ⟨_, _, _, run_obtainLease_of_fault discovered, first.1.trans (.refl _ 1 rfl), .inr ?_⟩
    exact ⟨fault, rfl, rfl, fun need same => first.2 need (congrArg _ same)⟩
  · rw [discovered] at first
    by_cases isOffer : offer.messageType? = some .offer
    · rw [run_obtainLease_of_offer discovered isOffer]
      have second := once (.request offer) rfl rfl t₁
      rcases requested : (c.perform (.request offer) xid).run c network t₁ with ⟨fault | m, t₂⟩
      · rw [requested] at second
        refine ⟨_, _, _, run_accept_of_fault requested, first.1.trans second.1, .inr ?_⟩
        exact ⟨fault, rfl, rfl, fun need same => second.2 need (congrArg _ same)⟩
      · rw [requested] at second
        rcases c.settle_cases offer m with ⟨lease, server?, settled⟩ | ⟨fault, settled, named⟩
        · exact ⟨_, _, _, run_accept_of_lease requested settled, first.1.trans second.1,
            .inl ⟨lease, server?, rfl, rfl⟩⟩
        · exact ⟨_, _, _, run_accept_of_refusal requested settled, first.1.trans second.1,
            .inr ⟨fault, rfl, rfl, named⟩⟩
    · exact ⟨_, _, _, run_obtainLease_of_other discovered isOffer,
        first.1.trans (.refl _ 1 rfl), .inr ⟨_, rfl, rfl, nofun⟩⟩

end Performing

/-! ## Steps -/

theorem map_eq_error_iff {α β : Type} {f : α → β} {x : Except Fault α} {fault : Fault} :
    x.map f = .error fault ↔ x = .error fault := by
  cases x <;> simp [Except.map]

/-- What a call sends, it sends to its target. -/
theorem aimed_of_sends {target : Endpoint} {n : Nat} {available : List Octets} {t : Traffic}
    (sends : Sends target n { inbox := available } t) :
    t.sent.length ≤ n ∧ ∀ p ∈ t.sent, some target = some p.target := by
  obtain ⟨packets, sent, few, aimed⟩ := sends
  rw [List.nil_append] at sent
  rw [sent]
  exact ⟨few, fun p mem => congrArg some (aimed p mem).symm⟩

section Calls

variable (c : Client) (inbox arrivals : List Octets) (network : Network)

theorem lawful_perform (op : Operation) (xid : UInt32) :
    (c.step inbox ⟨arrivals, network, .perform op xid⟩).Lawful := by
  let start : Traffic := { inbox := inbox ++ arrivals }
  cases lacks : c.lacks? op with
  | some need =>
    have step : c.step inbox ⟨arrivals, network, .perform op xid⟩ =
        ⟨⟨arrivals, network, .perform op xid⟩, c, inbox ++ arrivals, .error (.missing need), c,
          start⟩ := by
      rw [Client.step, call, c.run_perform_of_lacks network start xid lacks]
      rfl
    rw [step]
    refine ⟨.inl rfl, ?_, fun _ => rfl, Nat.zero_le 1, nofun⟩
    intro need'
    show Except.error (Fault.missing need) = .error (.missing need') ↔ c.lacks? op = some need'
    rw [lacks, Except.error.injEq, Fault.missing.injEq, Option.some.injEq]
  | none =>
    obtain ⟨target, aimed, sends, named⟩ := c.run_perform_of_known network start xid lacks
    obtain ⟨few, all⟩ := aimed_of_sends sends
    refine ⟨.inl rfl, ?_, fun lacking => absurd lacks lacking, few, ?_⟩
    · intro need
      refine iff_of_false (fun failed => named need (map_eq_error_iff.mp failed)) ?_
      show c.lacks? op ≠ some need
      rw [lacks]
      nofun
    · intro p mem
      show c.target? op = some p.target
      rw [aimed]
      exact all p mem

theorem lawful_obtainLease (xid : UInt32) :
    (c.step inbox ⟨arrivals, network, .obtainLease xid⟩).Lawful := by
  obtain ⟨result, after, t', run, sends, outcome⟩ :=
    c.run_obtainLease network { inbox := inbox ++ arrivals } xid
  have step : c.step inbox ⟨arrivals, network, .obtainLease xid⟩ =
      ⟨⟨arrivals, network, .obtainLease xid⟩, c, inbox ++ arrivals, result.map .lease, after,
        t'⟩ := by
    rw [Client.step, call, run]
  obtain ⟨few, all⟩ := aimed_of_sends sends
  rw [step]
  refine ⟨?_, ?_, fun lacking => absurd rfl lacking, few, all⟩
  · rcases outcome with ⟨lease, server?, rfl, rfl⟩ | ⟨fault, -, rfl, -⟩
    · exact .inr (.inr (.inr ⟨xid, lease, server?.or c.config.server, rfl, rfl, rfl⟩))
    · exact .inl rfl
  · intro need
    refine iff_of_false ?_ nofun
    rcases outcome with ⟨lease, server?, rfl, -⟩ | ⟨fault, rfl, -, named⟩
    · nofun
    · intro failed
      cases failed
      exact named need rfl

/-- Receiving sends nothing and changes nothing that is remembered. -/
theorem lawful_receive (xid : UInt32) :
    (c.step inbox ⟨arrivals, network, .receive xid⟩).Lawful := by
  refine ⟨.inl rfl, ?_, fun lacking => absurd rfl lacking, Nat.le_refl 0, nofun⟩
  intro need
  refine iff_of_false ?_ nofun
  intro failed
  exact c.receive_ne_missing xid _ need (map_eq_error_iff.mp failed)

/-- Sending a message sends one packet at most and changes nothing that is remembered. -/
theorem lawful_send (target : Endpoint) (m : Message) :
    (c.step inbox ⟨arrivals, network, .send target m⟩).Lawful := by
  obtain ⟨few, all⟩ := aimed_of_sends (sends_send network target m { inbox := inbox ++ arrivals })
  refine ⟨.inl rfl, ?_, fun lacking => absurd rfl lacking, few, all⟩
  intro need
  refine iff_of_false ?_ nofun
  intro failed
  exact send_ne_missing network target m _ need (map_eq_error_iff.mp failed)

/-- Telling a client something neither sends nor reads nor fails. -/
theorem lawful_step (turn : Turn) : (c.step inbox turn).Lawful := by
  obtain ⟨arrivals, network, call⟩ := turn
  cases call with
  | perform op xid => exact c.lawful_perform inbox arrivals network op xid
  | obtainLease xid => exact c.lawful_obtainLease inbox arrivals network xid
  | receive xid => exact c.lawful_receive inbox arrivals network xid
  | send target m => exact c.lawful_send inbox arrivals network target m
  | setServer server =>
    exact ⟨.inr (.inl ⟨server, rfl, rfl⟩), fun need => iff_of_false nofun nofun,
      fun lacking => absurd rfl lacking, Nat.le_refl 0, nofun⟩
  | setClientAddress addr =>
    exact ⟨.inr (.inr (.inl ⟨addr, rfl, rfl⟩)), fun need => iff_of_false nofun nofun,
      fun lacking => absurd rfl lacking, Nat.le_refl 0, nofun⟩

end Calls

/-! ## Every session -/

/-- The client with another memory. -/
def remembering (c : Client) (addr? server? : Option Ipv4) : Client :=
  { c with config := { c.config with clientAddress := addr?, server := server? } }

/-- A step changes nothing of a client but what it remembers. -/
theorem Step.Lawful.after_eq {s : Step} (lawful : s.Lawful) :
    s.after = s.before.remembering s.after.config.clientAddress s.after.config.server := by
  rcases lawful.memory with
    same | ⟨server, -, told⟩ | ⟨addr, -, told⟩ | ⟨xid, lease, server?, -, -, bound⟩
  · rw [same]
    rfl
  · rw [told]
    rfl
  · rw [told]
    rfl
  · rw [bound]
    rfl

/-- In every session the steps answer to the turns, each step begins with the client and the inbox
that the step before it has left, every step does what its call may do, and nothing of the client
ever changes but the address and the server that it remembers. -/
theorem session_lawful (c : Client) (inbox : List Octets) (turns : List Turn) :
    (c.session inbox turns).map Step.turn = turns ∧
    (∀ s ∈ (c.session inbox turns).head?,
      s.before = c ∧ s.available = inbox ++ s.turn.arrivals) ∧
    (c.session inbox turns).IsChain (fun s s' =>
      s'.before = s.after ∧ s'.available = s.traffic.inbox ++ s'.turn.arrivals) ∧
    ∀ s ∈ c.session inbox turns, s.Lawful ∧
      s.after = c.remembering s.after.config.clientAddress s.after.config.server := by
  induction turns generalizing c inbox with
  | nil =>
    rw [session]
    exact ⟨rfl, by simp, .nil, by simp⟩
  | cons turn turns ih =>
    have lawful := c.lawful_step inbox turn
    have framed := lawful.after_eq
    have turned : (c.step inbox turn).turn = turn := rfl
    have begun : (c.step inbox turn).before = c := rfl
    have available : (c.step inbox turn).available = inbox ++ turn.arrivals := rfl
    rw [session]
    -- From here on only these facts about the first step matter.
    generalize c.step inbox turn = s at lawful framed turned begun available ⊢
    obtain ⟨same, head, chain, rest⟩ := ih s.after s.traffic.inbox
    subst turned begun
    refine ⟨congrArg (s.turn :: ·) same, ?_, List.isChain_cons.mpr ⟨head, chain⟩, ?_⟩
    · intro s' mem
      cases Option.mem_some_iff.mp mem
      exact ⟨rfl, available⟩
    · intro s' mem
      rcases List.mem_cons.mp mem with rfl | mem
      · exact ⟨lawful, framed⟩
      · obtain ⟨lawful', framed'⟩ := rest s' mem
        refine ⟨lawful', framed'.trans ?_⟩
        rw [framed]
        rfl

/-- A client that knows nothing lacks its address, then the server, and does not touch the datagram
that waits for it. It looks for servers by broadcast, and once it was told both it renews with the
server. -/
theorem session_lawful_unprepared :
    let c : Client := { config := { mac := ⟨[2, 0, 0, 0, 0, 1], rfl⟩ } }
    let silent : Network := fun _ _ => some []
    let turn (call : Call) : Turn := ⟨[], silent, call⟩
    let turns := [turn (.perform .renew 7), turn (.setClientAddress ⟨0xC0A80064⟩),
      turn (.perform .renew 7), turn (.perform .discover 7), turn (.setServer ⟨0xC0A80001⟩),
      turn (.perform .renew 7)]
    ∃ s₁ s₂ s₃ s₄ s₅ s₆, c.session [[0]] turns = [s₁, s₂, s₃, s₄, s₅, s₆] ∧
      s₁.answer = .error (.missing .clientAddress) ∧
      s₃.answer = .error (.missing .serverAddress) ∧ s₃.traffic = ⟨[[0]], []⟩ ∧
      s₄.traffic.sent.map Packet.target = [.v4 ⟨⟨0xFFFFFFFF⟩, 67⟩] ∧
      s₆.traffic.sent.map Packet.target = [.v4 ⟨⟨0xC0A80001⟩, 67⟩] := by
  intro c silent turn turns
  obtain ⟨-, -, -, lawful⟩ := session_lawful c [[0]] turns
  let s₁ := c.step [[0]] (turn (.perform .renew 7))
  let s₂ := s₁.after.step s₁.traffic.inbox (turn (.setClientAddress ⟨0xC0A80064⟩))
  let s₃ := s₂.after.step s₂.traffic.inbox (turn (.perform .renew 7))
  let s₄ := s₃.after.step s₃.traffic.inbox (turn (.perform .discover 7))
  let s₅ := s₄.after.step s₄.traffic.inbox (turn (.setServer ⟨0xC0A80001⟩))
  let s₆ := s₅.after.step s₅.traffic.inbox (turn (.perform .renew 7))
  have steps : c.session [[0]] turns = [s₁, s₂, s₃, s₄, s₅, s₆] := by
    simp only [turns, session, s₁, s₂, s₃, s₄, s₅, s₆]
  rw [steps] at lawful
  simp only [List.forall_mem_cons] at lawful
  obtain ⟨⟨first, -⟩, -, ⟨third, -⟩, ⟨fourth, -⟩, -, ⟨sixth, -⟩, -⟩ := lawful
  -- A step that sends something sends it to the target of its call.
  have sent {s : Step} (step : s.Lawful) {target : Endpoint} (one : s.traffic.sent.length = 1)
      (aimed : s.turn.call.target? s.before = some target) :
      s.traffic.sent.map Packet.target = [target] := by
    obtain ⟨p, only⟩ := List.length_eq_one_iff.mp one
    have there := step.aimed p (only ▸ List.mem_singleton_self p)
    rw [only, List.map_singleton, Option.some.inj (there.symm.trans aimed)]
  refine ⟨s₁, s₂, s₃, s₄, s₅, s₆, steps, (first.missing _).mpr rfl, (third.missing _).mpr rfl,
    third.idle nofun, sent fourth (by decide +kernel) (by decide +kernel),
    sent sixth (by decide +kernel) (by decide +kernel)⟩

end Client

end Dhcp
