import Dhcp.Proofs.Reply
import Dhcp.Server.Loop

/-!
# Datagrams of which none disturbs another

A server that takes datagrams one after another keeps nothing from one to the next but the outbox
that all its replies go into. A handler learns of the outbox only whether replies are taken, and
they are taken as long as the loop runs; so what a datagram leads to is decided by the datagram.

A datagram that no handler sees is inert: it holds a message that is no request, or it cannot be
read. Behind one that cannot be read the loop goes on or ends, as the configuration says.

**The law** (`Server.serve_each_alone`): a server that drops what it cannot read does with a
sequence of datagrams what it does with each of them alone, in their order, and inert ones make no
difference to the others. A server that does not drop does the same up to the first datagram that
cannot be read, and ends there with the fault of that datagram.
-/

namespace Dhcp

/-! ## What a run shows -/

namespace Run

variable {α : Type}

/-- The results of the handlers that were run. -/
def results (run : Run α) : List α := run.steps.filterMap Handled.result

/-- The packets that were queued. -/
def packets (run : Run α) : List Packet := run.steps.flatMap Handled.packets

/-- Two runs in which the same handlers gave the same results and the same packets were queued, and
which ended alike. -/
structure Alike (run run' : Run α) : Prop where
  results : run.results = run'.results
  packets : run.packets = run'.packets
  fault : run.fault? = run'.fault?

theorem results_push (h : Handled α) (run : Run α) :
    (run.push h).results = h.result.toList ++ run.results := by
  cases result : h.result <;> simp [results, push, result]

theorem packets_push (h : Handled α) (run : Run α) :
    (run.push h).packets = h.packets ++ run.packets :=
  List.flatMap_cons

/-- Runs that show the same do so behind the same step. -/
theorem Alike.push {run run' : Run α} (alike : run.Alike run') (h : Handled α) :
    (run.push h).Alike (run'.push h) := by
  refine ⟨?_, ?_, alike.fault⟩
  · rw [results_push, results_push, alike.results]
  · rw [packets_push, packets_push, alike.packets]

/-- A step in which nothing is done does not show. -/
theorem alike_push_nothing (run : Run α) : (run.push .nothing).Alike run :=
  ⟨results_push .nothing run, packets_push .nothing run, rfl⟩

end Run

namespace Server

variable {α : Type} (s : Server) (h : Handler α)

/-! ## One datagram -/

/-- A datagram that cannot be read, and why. -/
def Refuses (a : Arrival) (cause : WireFault) : Prop :=
  Message.decodeWith s.registry (a.datagram.take 2048) = .error cause

/-- A datagram that holds a message that is no request. -/
def PassesOver (a : Arrival) : Prop :=
  ∃ m, Message.decodeWith s.registry (a.datagram.take 2048) = .ok m ∧ m.op ≠ .bootRequest

/-- A datagram that no handler sees. -/
def Inert (a : Arrival) : Prop := s.PassesOver a ∨ ∃ cause, s.Refuses a cause

/-- A datagram behind which the loop goes on. -/
def GoesOn (a : Arrival) : Prop := s.config.decodeFailure = .drop ∨ ∀ cause, ¬s.Refuses a cause

/-- What a datagram leads to. -/
def respond (a : Arrival) : Handled α :=
  match Intake.ofDatagram s.registry a.datagram with
  | .request m => s.handle h a.source m
  | _ => .nothing

section Datagram

variable {s} {a : Arrival}

/-- A datagram is refused exactly if it cannot be read. -/
theorem refuses_iff {cause : WireFault} :
    s.Refuses a cause ↔ Intake.ofDatagram s.registry a.datagram = .undecodable cause := by
  have cut : received a.datagram = a.datagram.take 2048 := rfl
  unfold Refuses Intake.ofDatagram
  rw [cut]
  cases Message.decodeWith s.registry (a.datagram.take 2048) with
  | error fault => simp
  | ok m => by_cases asks : m.op = .bootRequest <;> simp [asks]

/-- A datagram is passed over exactly if it holds a message that is no request. -/
theorem passesOver_iff :
    s.PassesOver a ↔ Intake.ofDatagram s.registry a.datagram = .passedOver := by
  have cut : received a.datagram = a.datagram.take 2048 := rfl
  unfold PassesOver Intake.ofDatagram
  rw [cut]
  cases Message.decodeWith s.registry (a.datagram.take 2048) with
  | error fault => simp
  | ok m => by_cases asks : m.op = .bootRequest <;> simp [asks]

/-- A datagram that no handler sees leads to nothing. -/
theorem respond_of_inert (inert : s.Inert a) : s.respond h a = .nothing := by
  rcases inert with other | ⟨cause, refused⟩
  · simp only [respond, passesOver_iff.mp other]
  · simp only [respond, refuses_iff.mp refused]

/-- The loop goes on behind a message that is no request. -/
theorem goesOn_of_passesOver (other : s.PassesOver a) : s.GoesOn a := by
  refine .inr fun cause refused => ?_
  cases (passesOver_iff.mp other).symm.trans (refuses_iff.mp refused)

end Datagram

/-- The loop goes on behind a datagram, or it stops at what it cannot read and cannot read it. -/
theorem goesOn_or_aborts (a : Arrival) :
    s.GoesOn a ∨ s.config.decodeFailure = .abort ∧ ∃ cause, s.Refuses a cause := by
  cases policy : s.config.decodeFailure with
  | drop => exact .inl (.inl policy)
  | abort =>
    by_cases readable : ∀ cause, ¬s.Refuses a cause
    · exact .inl (.inr readable)
    · exact .inr ⟨rfl, by simpa using readable⟩

/-! ## Sequences of datagrams -/

/-- Where the loop goes on, what the first datagram leads to comes first. -/
theorem serve_cons_of_goesOn {a : Arrival} (goesOn : s.GoesOn a) (rest : List Arrival) :
    s.serve h (a :: rest) = (s.serve h rest).push (s.respond h a) := by
  cases intake : Intake.ofDatagram s.registry a.datagram with
  | request m => simp only [serve, respond, intake]
  | passedOver => simp only [serve, respond, intake]
  | undecodable cause =>
    rcases goesOn with drops | readable
    · simp only [serve, respond, intake, drops]
    · exact absurd (refuses_iff.mpr intake) (readable cause)

/-- A loop that stops at what it cannot read does so at once. -/
theorem serve_cons_of_refuses (aborts : s.config.decodeFailure = .abort) {a : Arrival}
    {cause : WireFault} (refused : s.Refuses a cause) (rest : List Arrival) :
    s.serve h (a :: rest) = ⟨[.nothing], some (.malformed cause)⟩ := by
  simp only [serve, refuses_iff.mp refused, aborts]

/-- The loop comes through datagrams behind which it goes on, and does with each what it leads to.
-/
theorem serve_append_of_goesOn {before : List Arrival} (goesOn : ∀ a ∈ before, s.GoesOn a)
    (rest : List Arrival) :
    s.serve h (before ++ rest) =
      ⟨before.map (s.respond h) ++ (s.serve h rest).steps, (s.serve h rest).fault?⟩ := by
  induction before with
  | nil => rfl
  | cons a before ih =>
    obtain ⟨first, goesOn⟩ := List.forall_mem_cons.mp goesOn
    rw [List.cons_append, s.serve_cons_of_goesOn h first, ih goesOn]
    rfl

/-- Where the loop goes on behind every datagram, it does with each what it leads to. -/
theorem serve_of_goesOn {arrivals : List Arrival} (goesOn : ∀ a ∈ arrivals, s.GoesOn a) :
    s.serve h arrivals = ⟨arrivals.map (s.respond h), none⟩ := by
  have all := s.serve_append_of_goesOn h goesOn []
  rwa [List.append_nil, serve, List.append_nil] at all

/-- A datagram that no handler sees and behind which the loop goes on can be taken away. -/
theorem alike_serve_insert {a : Arrival} (inert : s.Inert a) (goesOn : s.GoesOn a)
    (before after : List Arrival) :
    (s.serve h (before ++ a :: after)).Alike (s.serve h (before ++ after)) := by
  induction before with
  | nil =>
    rw [List.nil_append, List.nil_append, s.serve_cons_of_goesOn h goesOn, respond_of_inert h inert]
    exact Run.alike_push_nothing _
  | cons b before ih =>
    rw [List.cons_append, List.cons_append]
    rcases s.goesOn_or_aborts b with behind | ⟨aborts, cause, refused⟩
    · rw [s.serve_cons_of_goesOn h behind, s.serve_cons_of_goesOn h behind]
      exact ih.push _
    · -- The loop ends before it comes to the datagram.
      rw [s.serve_cons_of_refuses h aborts refused, s.serve_cons_of_refuses h aborts refused]
      exact ⟨rfl, rfl, rfl⟩

/-! ## One outbox for all replies -/

/-- The loop of a server whose replies all go into one outbox: the results of the handlers, the
fault that ended the loop, if one did, and the outbox afterwards. -/
def serveInto (s : Server) (h : Handler α) :
    List Arrival → Outbox → (List α × Option Fault) × Outbox
  | [], box => (([], none), box)
  | a :: rest, box =>
    match Intake.ofDatagram s.registry a.datagram with
    | .request m =>
      let w := ReplyWriter.forRequest s.config m a.source
      let (result, box) := (h w).run w box
      let ((results, fault?), box) := s.serveInto h rest box
      ((result :: results, fault?), box)
    | .passedOver => s.serveInto h rest box
    | .undecodable cause =>
      match s.config.decodeFailure with
      | .drop => s.serveInto h rest box
      | .abort => (([], some (.malformed cause)), box)

/-- A loop with one outbox does what a loop does that gives each handler an outbox of its own. -/
theorem serveInto_eq (arrivals : List Arrival) (box : Outbox) (taking : box.isOpen = true) :
    s.serveInto h arrivals box =
      (((s.serve h arrivals).results, (s.serve h arrivals).fault?),
        { box with packets := box.packets ++ (s.serve h arrivals).packets }) := by
  induction arrivals generalizing box with
  | nil => simp [serveInto, serve, Run.results, Run.packets]
  | cons a rest ih =>
    cases intake : Intake.ofDatagram s.registry a.datagram with
    | request m =>
      let w := ReplyWriter.forRequest s.config m a.source
      let own := (h w).run w {}
      have answered : (h w).run w box =
          (own.1, { box with packets := box.packets ++ own.2.packets }) :=
        Answering.run_of_open _ box taking
      have behind := ih { box with packets := box.packets ++ own.2.packets } taking
      simp only [serveInto, serve, intake]
      rw [answered, behind, Run.results_push, Run.packets_push, List.append_assoc]
      rfl
    | passedOver =>
      simp only [serveInto, serve, intake]
      rw [ih box taking, (Run.alike_push_nothing _).results, (Run.alike_push_nothing _).packets]
      rfl
    | undecodable cause =>
      cases policy : s.config.decodeFailure with
      | drop =>
        simp only [serveInto, serve, intake, policy]
        rw [ih box taking, (Run.alike_push_nothing _).results, (Run.alike_push_nothing _).packets]
        rfl
      | abort => simp [serveInto, serve, intake, policy, Run.results, Run.packets, Handled.nothing]

/-! ## Each datagram alone -/

/-- The server that goes on behind what it cannot read. -/
def dropping : Server := { s with config := { s.config with decodeFailure := .drop } }

/-- A server that takes datagrams one after another does with each of them what it does with that
one alone. All replies may go into one outbox, or each handler may have one of its own. A server
that drops what it cannot read does with a sequence of datagrams what it does with each of them
alone, in order; a datagram that cannot be read or is no request leads to nothing, and without it
everything else stays as it is. A server that stops at what it cannot read does with datagrams that
can all be read what a server does that drops; otherwise it does that up to the first datagram that
cannot be read, ends with the fault of that one and does nothing about those behind it. A message
that is no request never ends it, and without one everything else stays as it is. -/
theorem serve_each_alone (arrivals : List Arrival) :
    s.serveInto h arrivals {} =
      (((s.serve h arrivals).results, (s.serve h arrivals).fault?),
        { packets := (s.serve h arrivals).packets }) ∧
    (s.config.decodeFailure = .drop →
      s.serve h arrivals = ⟨arrivals.flatMap fun a => (s.serve h [a]).steps, none⟩ ∧
      ∀ before a after, arrivals = before ++ a :: after → s.Inert a →
        s.serve h [a] = ⟨[.nothing], none⟩ ∧
        (s.serve h arrivals).Alike (s.serve h (before ++ after))) ∧
    (s.config.decodeFailure = .abort →
      ((∀ a ∈ arrivals, ∀ cause, ¬s.Refuses a cause) →
        s.serve h arrivals = s.dropping.serve h arrivals) ∧
      (∀ before a after cause, arrivals = before ++ a :: after →
        (∀ b ∈ before, ∀ cause, ¬s.Refuses b cause) → s.Refuses a cause →
          s.serve h arrivals =
            ⟨(s.dropping.serve h before).steps ++ [.nothing], some (.malformed cause)⟩) ∧
      ∀ before a after, arrivals = before ++ a :: after → s.PassesOver a →
        s.serve h [a] = ⟨[.nothing], none⟩ ∧
        (s.serve h arrivals).Alike (s.serve h (before ++ after))) := by
  have alone {a : Arrival} (goesOn : s.GoesOn a) : s.serve h [a] = ⟨[s.respond h a], none⟩ :=
    s.serve_of_goesOn h (List.forall_mem_singleton.mpr goesOn)
  have inertly {a : Arrival} (inert : s.Inert a) (goesOn : s.GoesOn a) :
      s.serve h [a] = ⟨[.nothing], none⟩ := by
    rw [alone goesOn, respond_of_inert h inert]
  -- How the loop ends makes no difference to what a datagram leads to.
  have dropped (before : List Arrival) :
      s.dropping.serve h before = ⟨before.map (s.respond h), none⟩ :=
    s.dropping.serve_of_goesOn h fun _ _ => .inl rfl
  refine ⟨s.serveInto_eq h arrivals {} rfl, fun drops => ⟨?_, ?_⟩, fun aborts => ⟨?_, ?_, ?_⟩⟩
  · rw [s.serve_of_goesOn h fun _ _ => .inl drops, List.map_eq_flatMap]
    simp only [alone (.inl drops)]
  · rintro before a after rfl inert
    exact ⟨inertly inert (.inl drops), s.alike_serve_insert h inert (.inl drops) before after⟩
  · intro readable
    rw [dropped, s.serve_of_goesOn h fun a mem => .inr (readable a mem)]
  · rintro before a after cause rfl readable refused
    rw [s.serve_append_of_goesOn h fun b mem => .inr (readable b mem),
      s.serve_cons_of_refuses h aborts refused, dropped]
  · rintro before a after rfl other
    have goesOn := goesOn_of_passesOver other
    exact ⟨inertly (.inl other) goesOn, s.alike_serve_insert h (.inl other) goesOn before after⟩

/-- A reply and a request in front of three octets, and a request behind them. A server that stops
does not come to the last request; a server that goes on answers both. -/
theorem serve_each_alone_broken :
    let s : Server := { config := { decodeFailure := .abort } }
    let source : Endpoint := .v4 ⟨⟨0x0A000001⟩, clientPort⟩
    let asks : Arrival := ⟨source, (Message.discover 7).octets⟩
    let answers : Arrival := ⟨source, (Message.offer (Message.discover 8) ⟨0xC0A80065⟩).octets⟩
    let broken : Arrival := ⟨source, [1, 1, 6]⟩
    let h : Handler (Except Fault Unit) := fun _ => .reply (.offer ⟨0xC0A80064⟩ [])
    s.serve h [answers, asks, broken, asks] =
        ⟨(s.dropping.serve h [answers, asks]).steps ++ [.nothing],
          some (.malformed (.truncated 240 3))⟩ ∧
      s.dropping.serve h [answers, asks, broken, asks] =
        ⟨(s.dropping.serve h [answers]).steps ++ (s.dropping.serve h [asks]).steps ++
          (s.dropping.serve h [broken]).steps ++ (s.dropping.serve h [asks]).steps, none⟩ ∧
      s.dropping.serve h [broken] = ⟨[.nothing], none⟩ := by
  intro s source asks answers broken h
  have asked (xid : UInt32) := Message.travels_ask .discover (by decide) xid
  have readable : ∀ a ∈ [answers, asks], ∀ cause, ¬s.Refuses a cause := by
    refine List.forall_mem_cons.mpr ⟨?_, List.forall_mem_singleton.mpr ?_⟩
    · intro cause refused
      have offered : (Message.offer (Message.discover 8) ⟨0xC0A80065⟩).Travels 2 :=
        (asked 8).granting (by decide) _
      cases refused.symm.trans (offered.mono (by decide)).decodeWith_received
    · intro cause refused
      cases refused.symm.trans ((asked 7).mono (by decide)).decodeWith_received
  have refused : s.Refuses broken (.truncated 240 3) := rfl
  obtain ⟨-, -, stops⟩ := s.serve_each_alone h [answers, asks, broken, asks]
  obtain ⟨-, goesOn, -⟩ := s.dropping.serve_each_alone h [answers, asks, broken, asks]
  obtain ⟨each, inert⟩ := goesOn rfl
  obtain ⟨nothing, -⟩ := inert [answers, asks] broken [asks] rfl (.inr ⟨_, refused⟩)
  refine ⟨(stops rfl).2.1 _ _ _ _ rfl readable refused, each.trans ?_, nothing⟩
  simp only [List.flatMap_cons, List.flatMap_nil, List.append_nil, List.append_assoc]

end Server

end Dhcp
