import Dhcp.Client.Exchange
import Dhcp.Proofs.Travel

/-!
# Waiting for a reply

A client that waits for the reply of a transaction takes datagrams until one decides. Replies of
other transactions are silent: they are passed over and change nothing. Everything else decides at
once: a datagram that cannot be read, a message that is no reply, and the reply that is waited for.

**The law** (`Client.receive_insert_foreign`): a message of another transaction that arrives among
others is without influence if it is a reply, wherever it arrives, and also if something has decided
before it. A message of another transaction that is no reply ends the wait if nothing has decided
before it; `Client.receive_ended_by_foreign_request` shows a client that loses its reply that way.
So not all traffic of other transactions leaves a client undisturbed.
-/

namespace Dhcp.Client

variable (c : Client) (xid : UInt32)

/-- A datagram that a client passes over while it waits. -/
def Silent (datagram : Octets) : Prop := c.verdict? xid datagram = none

/-! ## One datagram -/

section Verdict

variable {c xid} {datagram : Octets} {m : Message}

/-- A reply of another transaction is passed over. -/
theorem silent_of_foreign_reply
    (decoded : Message.decodeWith c.registry (received datagram) = .ok m)
    (reply : m.op = .bootReply) (foreign : m.xid ≠ xid) : c.Silent xid datagram := by
  simp [Silent, verdict?, decoded, reply, foreign]

/-- A message that is no reply ends the wait with its operation code. -/
theorem verdict?_of_no_reply
    (decoded : Message.decodeWith c.registry (received datagram) = .ok m)
    (other : m.op ≠ .bootReply) :
    c.verdict? xid datagram = some (.error (.unexpectedOpCode m.op.toOctet)) := by
  simp [verdict?, decoded, other]

end Verdict

/-! ## Sequences of datagrams -/

/-- What is passed over makes no difference to what is received. -/
theorem receive_cons_of_silent {datagram : Octets} (silent : c.Silent xid datagram)
    (rest : List Octets) : c.receive xid (datagram :: rest) = c.receive xid rest := by
  rw [receive, silent]

/-- The first datagram that decides the wait ends it, and the others stay. -/
theorem receive_cons_of_verdict {datagram : Octets} {verdict : Except Fault Message}
    (decides : c.verdict? xid datagram = some verdict) (rest : List Octets) :
    c.receive xid (datagram :: rest) = (verdict, rest) := by
  rw [receive, decides]

/-- Silent datagrams at the front are passed over. -/
theorem receive_append_of_silent {before : List Octets} (silent : ∀ d ∈ before, c.Silent xid d)
    (rest : List Octets) : c.receive xid (before ++ rest) = c.receive xid rest := by
  induction before with
  | nil => rfl
  | cons d before ih =>
    obtain ⟨first, silent⟩ := List.forall_mem_cons.mp silent
    rw [List.cons_append, c.receive_cons_of_silent xid first, ih silent]

/-- Datagrams are all silent, or there is a first among them that decides. -/
theorem silent_or_decided (inbox : List Octets) :
    (∀ d ∈ inbox, c.Silent xid d) ∨
      ∃ before d verdict after, inbox = before ++ d :: after ∧ (∀ e ∈ before, c.Silent xid e) ∧
        c.verdict? xid d = some verdict := by
  induction inbox with
  | nil => exact .inl nofun
  | cons d inbox ih =>
    cases decides : c.verdict? xid d with
    | some verdict => exact .inr ⟨[], d, verdict, inbox, rfl, nofun, decides⟩
    | none =>
      rcases ih with silent | ⟨before, e, verdict, after, rfl, silent, decided⟩
      · exact .inl (List.forall_mem_cons.mpr ⟨decides, silent⟩)
      · exact .inr ⟨d :: before, e, verdict, after, rfl,
          List.forall_mem_cons.mpr ⟨decides, silent⟩, decided⟩

/-- Where something has decided, what arrives later is without influence. -/
theorem receive_append_of_decided {before : List Octets} (decided : ∃ d ∈ before, ¬c.Silent xid d)
    (rest rest' : List Octets) :
    (c.receive xid (before ++ rest)).1 = (c.receive xid (before ++ rest')).1 := by
  rcases c.silent_or_decided xid before with
    silent | ⟨front, d, verdict, back, rfl, silent, decides⟩
  · obtain ⟨d, mem, loud⟩ := decided
    exact absurd (silent d mem) loud
  · have first (rest : List Octets) :
        (c.receive xid (front ++ d :: back ++ rest)).1 = verdict := by
      rw [List.append_assoc, c.receive_append_of_silent xid silent, List.cons_append,
        c.receive_cons_of_verdict xid decides]
    rw [first, first]

/-! ## Foreign messages -/

/-- A message of another transaction that arrives among any datagrams leaves the result of the wait
as it is if it is a reply or if a datagram before it has decided, and otherwise ends the wait with
its operation code. -/
theorem receive_insert_foreign (before after : List Octets) (datagram : Octets) (m : Message)
    (decoded : Message.decodeWith c.registry (received datagram) = .ok m) (foreign : m.xid ≠ xid) :
    ((m.op = .bootReply ∨ ∃ d ∈ before, ¬c.Silent xid d) →
      (c.receive xid (before ++ datagram :: after)).1 = (c.receive xid (before ++ after)).1) ∧
    ((m.op ≠ .bootReply ∧ ∀ d ∈ before, c.Silent xid d) →
      (c.receive xid (before ++ datagram :: after)).1 =
        .error (.unexpectedOpCode m.op.toOctet)) := by
  constructor
  · rintro (reply | decided)
    · have silent := silent_of_foreign_reply decoded reply foreign
      rcases c.silent_or_decided xid before with
        quiet | ⟨front, d, verdict, back, rfl, quiet, decides⟩
      · rw [c.receive_append_of_silent xid quiet, c.receive_append_of_silent xid quiet,
          c.receive_cons_of_silent xid silent]
      · apply receive_append_of_decided
        exact ⟨d, by simp, by simp [Silent, decides]⟩
    · exact c.receive_append_of_decided xid decided _ _
  · rintro ⟨other, silent⟩
    rw [c.receive_append_of_silent xid silent,
      c.receive_cons_of_verdict xid (verdict?_of_no_reply decoded other)]

/-- An offer of another transaction in front of the reply that is waited for. -/
theorem receive_insert_foreign_offer :
    let c : Client := { config := { mac := ⟨[2, 0, 0, 0, 0, 1], rfl⟩ } }
    let stray := Message.offer (Message.discover 2) ⟨0xC0A80065⟩
    let reply := Message.offer (Message.discover 1) ⟨0xC0A80064⟩
    Message.decodeWith c.registry (received stray.octets) = .ok stray ∧ stray.xid ≠ 1 ∧
      stray.op = .bootReply ∧
      (c.receive 1 [stray.octets, reply.octets]).1 = (c.receive 1 [reply.octets]).1 := by
  intro c stray reply
  have asked := Message.travels_ask .discover (by decide) 2
  have decoded : Message.decodeWith c.registry (received stray.octets) = .ok stray :=
    ((asked.granting (by decide) _).mono (by decide)).decodeWith_received
  have foreign : stray.xid ≠ 1 := by decide
  have law := receive_insert_foreign c 1 [] [reply.octets] stray.octets stray decoded foreign
  exact ⟨decoded, foreign, rfl, law.1 (.inl rfl)⟩

/-- A client that would get its reply loses it to a request of another transaction that arrives
first. -/
theorem receive_ended_by_foreign_request :
    let c : Client := { config := { mac := ⟨[2, 0, 0, 0, 0, 1], rfl⟩ } }
    let foreign := Message.discover 2
    let reply := Message.offer (Message.discover 1) ⟨0xC0A80064⟩
    Message.decodeWith c.registry (received foreign.octets) = .ok foreign ∧ foreign.xid ≠ 1 ∧
      (c.receive 1 [reply.octets]).1 = .ok reply ∧
      (c.receive 1 [foreign.octets, reply.octets]).1 = .error (.unexpectedOpCode 1) := by
  intro c foreign reply
  have asked (xid : UInt32) := Message.travels_ask .discover (by decide) xid
  have decoded : Message.decodeWith c.registry (received foreign.octets) = .ok foreign :=
    ((asked 2).mono (by decide)).decodeWith_received
  have answered : Message.decodeWith c.registry (received reply.octets) = .ok reply :=
    (((asked 1).granting (by decide) _).mono (by decide)).decodeWith_received
  refine ⟨decoded, by decide, ?_, ?_⟩
  · have verdict : c.verdict? 1 reply.octets = some (.ok reply) := by
      simp [verdict?, answered, show reply.op = .bootReply from rfl, show reply.xid = 1 from rfl]
    rw [c.receive_cons_of_verdict 1 verdict]
  · have verdict : c.verdict? 1 foreign.octets = some (.error (.unexpectedOpCode 1)) :=
      verdict?_of_no_reply decoded nofun
    rw [c.receive_cons_of_verdict 1 verdict]

end Dhcp.Client
