import Dhcp.Proofs.Link
import Dhcp.Proofs.Reply
import Dhcp.Server.Concurrent

/-!
# What a server still does after it has stopped

Handlers run beside the loop of a server, and the loop may stop at any time: by order, also while it
holds a request for which there is no worker, because the socket fails, or because of a datagram
that cannot be read. What handlers were going to do is not cut short by that. They run to their end,
and the sender hands over what they queue before the server ends.

Two accounts are kept along every run. What has been queued was handed over or waits, in the order
of queueing; and what the running handlers have still to do, together with all that is done by those
that begin later, is what will be seen of handlers.

**The law** (`trace_drains`): in every state of every run the workers are as many as they should be;
a server that has ended has handed over every reply of every handler that began, once and in order;
and a server that has stopped ends after a number of steps that does not depend on their order.
-/

namespace Dhcp.Concurrent

variable {α : Type}

/-! ## Interleavings -/

/-- A sequence that is made of all of several sequences, of each in its own order. -/
inductive Shuffle {β : Type} : List (List β) → List β → Prop where
  | nil : Shuffle [] []
  /-- One of the sequences is used up. -/
  | done {before after : List (List β)} {all : List β} (others : Shuffle (before ++ after) all) :
      Shuffle (before ++ [] :: after) all
  /-- The first of one of the sequences comes first. -/
  | cons {before after : List (List β)} {first : β} {rest all : List β}
      (behind : Shuffle (before ++ rest :: after) all) :
      Shuffle (before ++ (first :: rest) :: after) (first :: all)

/-! ## What a handler will do -/

namespace Task

/-- The replies that a handler has still to queue. -/
def replies (task : Task α) : List Packet := (task.rest.run task.writer {}).2.packets

/-- The writer of a handler and the result that it will end with. -/
def outcome (task : Task α) : ReplyWriter × α := (task.writer, (task.rest.run task.writer {}).1)

/-- The steps that a handler has still to take, counted with those in which the sender hands over
its replies. -/
def steps (task : Task α) : Nat := go task.writer task.rest
where
  go (w : ReplyWriter) : Answering α → Nat
    | .done _ => 1
    | .send r next =>
      match w.packet r with
      | .error cause => go w (next (.error (.unwritable cause))) + 1
      | .ok _ => go w (next (.ok ())) + 2

/-- The steps that several handlers have still to take. -/
def stepsOfAll : List (Task α) → Nat
  | [] => 0
  | task :: tasks => task.steps + stepsOfAll tasks

theorem stepsOfAll_append (before after : List (Task α)) :
    stepsOfAll (before ++ after) = stepsOfAll before + stepsOfAll after := by
  induction before with
  | nil => exact (Nat.zero_add _).symm
  | cons task before ih => rw [List.cons_append, stepsOfAll, stepsOfAll, ih, Nat.add_assoc]

section Send

variable {w : ReplyWriter} {r : Reply} {next : Except Fault Unit → Answering α}

/-- A handler whose reply can be written goes on as if it was taken, with the packet in front. -/
theorem run_of_packet {p : Packet} (made : w.packet r = .ok p) :
    (Answering.send r next).run w {} =
      (((next (.ok ())).run w {}).1, { packets := p :: ((next (.ok ())).run w {}).2.packets }) :=
  (Answering.run_send_of_packet made {} rfl).trans (Answering.run_of_open _ _ rfl)

/-- A reply that can be written is the next that a handler queues. -/
theorem replies_of_packet {p : Packet} (made : w.packet r = .ok p) :
    replies ⟨w, .send r next⟩ = p :: replies ⟨w, next (.ok ())⟩ := by
  simp only [replies, run_of_packet made]

theorem outcome_of_packet {p : Packet} (made : w.packet r = .ok p) :
    outcome ⟨w, .send r next⟩ = outcome ⟨w, next (.ok ())⟩ := by
  simp only [outcome, run_of_packet made]

theorem replies_of_refused {cause : WireFault} (refused : w.packet r = .error cause) :
    replies ⟨w, .send r next⟩ = replies ⟨w, next (.error (.unwritable cause))⟩ := by
  simp only [replies, Answering.run_send_of_refused refused]

theorem outcome_of_refused {cause : WireFault} (refused : w.packet r = .error cause) :
    outcome ⟨w, .send r next⟩ = outcome ⟨w, next (.error (.unwritable cause))⟩ := by
  simp only [outcome, Answering.run_send_of_refused refused]

/-- A reply that is queued takes two steps, as it is handed over as well. -/
theorem steps_of_packet {p : Packet} (made : w.packet r = .ok p) :
    steps ⟨w, .send r next⟩ = steps ⟨w, next (.ok ())⟩ + 2 := by
  simp only [steps, steps.go, made]

/-- A reply that cannot be written takes one step. -/
theorem steps_of_refused {cause : WireFault} (refused : w.packet r = .error cause) :
    steps ⟨w, .send r next⟩ = steps ⟨w, next (.error (.unwritable cause))⟩ + 1 := by
  simp only [steps, steps.go, refused]

end Send

end Task

/-! ## What is seen of a run -/

namespace Event

/-- The handler that began. -/
def began? : Event α → Option (Task α)
  | began task => some task
  | _ => none

/-- The handler that ended, by its writer, and its result. -/
def finished? : Event α → Option (ReplyWriter × α)
  | finished w result => some (w, result)
  | _ => none

/-- The reply that was queued. -/
def queued? : Event α → Option Packet
  | queued p => some p
  | _ => none

/-- The reply that was handed to the socket. -/
def handed? : Event α → Option Packet
  | handed p => some p
  | _ => none

end Event

variable {s : Server} {h : Behaviour α} {t u : State α} {e : Event α} {es : List (Event α)}

/-- What is seen of a run is what is seen of its first step and of the others. -/
theorem filterMap_event_cons {β : Type} (f : Event α → Option β) (e : Event α)
    (es : List (Event α)) : (e :: es).filterMap f = (f e).toList ++ es.filterMap f := by
  cases seen : f e <;> simp [seen]

/-! ## Replies -/

/-- A list to which every step adds what is seen of it has grown by what is seen of a run. -/
theorem Trace.grown {β : Type} (list : State α → List β) (f : Event α → Option β)
    (grows : ∀ {t u : State α} {e : Event α}, Step s h t e u → list u = list t ++ (f e).toList)
    (trace : Trace s h t es u) : list u = list t ++ es.filterMap f := by
  induction trace with
  | nil t => exact (List.append_nil _).symm
  | cons step _ ih => rw [ih, grows step, List.append_assoc, filterMap_event_cons]

/-- What has been handed over grows by what is seen to be. -/
theorem Step.handed (step : Step s h t e u) : u.handed = t.handed ++ e.handed?.toList := by
  cases step with
  | hand first => rfl
  | _ => exact (List.append_nil _).symm

/-- Replies are handed over in the order in which they are queued. -/
theorem Step.queued (step : Step s h t e u) :
    u.handed ++ u.queue = t.handed ++ t.queue ++ e.queued?.toList := by
  cases step with
  | reply running packet => exact (List.append_assoc ..).symm
  | hand first => simp [Event.queued?, first]
  | _ => exact (List.append_nil _).symm

/-! ## Handlers -/

/-- What is queued behind a step, with what is queued in it, is an interleaving of what handlers
queue that run before it or begin in it. -/
theorem Step.shuffle (step : Step s h t e u) {later : List (List Packet)} {all : List Packet}
    (behind : Shuffle (u.running.map Task.replies ++ later) all) :
    Shuffle (t.running.map Task.replies ++ (e.began?.toList.map Task.replies ++ later))
      (e.queued?.toList ++ all) := by
  cases step with
  | dispatch => simpa [Event.began?, Event.queued?] using behind
  | reply running packet =>
    simp only [running, List.map_append, List.map_cons, List.append_assoc, List.cons_append,
      Task.replies_of_packet packet] at behind ⊢
    -- What is queued is the first of what the handler had still to queue.
    exact .cons behind
  | refuse running packet =>
    simp only [running, List.map_append, List.map_cons, List.append_assoc, List.cons_append,
      Task.replies_of_refused packet] at behind ⊢
    exact behind
  | finish running =>
    simp only [running, List.map_append, List.map_cons, List.append_assoc,
      List.cons_append] at behind ⊢
    exact .done behind
  | _ => exact behind

/-- Once no handler runs any more, what was queued is an interleaving of all that handlers queue
that ran at first or began. -/
theorem Trace.shuffle (trace : Trace s h t es u) (gone : u.running = []) :
    Shuffle (t.running.map Task.replies ++ (es.filterMap Event.began?).map Task.replies)
      (es.filterMap Event.queued?) := by
  -- The run is taken apart from its front: nothing is left to queue only in its last state.
  induction trace with
  | nil t =>
    rw [gone]
    exact .nil
  | cons step _ ih =>
    rw [filterMap_event_cons, filterMap_event_cons, List.map_append]
    exact step.shuffle (ih gone)

/-- What handlers end with behind a step, with what they end with in it, is what those end with that
run before it or begin in it. -/
theorem Step.outcomes (step : Step s h t e u) {later all : List (ReplyWriter × α)}
    (behind : (u.running.map Task.outcome ++ later).Perm all) :
    (t.running.map Task.outcome ++ (e.began?.toList.map Task.outcome ++ later)).Perm
      (e.finished?.toList ++ all) := by
  cases step with
  | dispatch => simpa [Event.began?, Event.finished?] using behind
  | reply running packet =>
    simp only [running, List.map_append, List.map_cons, Task.outcome_of_packet packet] at behind ⊢
    exact behind
  | refuse running packet =>
    simp only [running, List.map_append, List.map_cons, Task.outcome_of_refused packet] at behind ⊢
    exact behind
  | finish running =>
    simp only [running, List.map_append, List.map_cons, List.append_assoc,
      List.cons_append] at behind ⊢
    exact List.perm_middle.trans (behind.cons _)
  | _ => exact behind

/-- A handler that ran at first or began has ended, with its result, or runs. -/
theorem Trace.outcomes (trace : Trace s h t es u) :
    (t.running.map Task.outcome ++ (es.filterMap Event.began?).map Task.outcome).Perm
      (es.filterMap Event.finished? ++ u.running.map Task.outcome) := by
  induction trace with
  | nil t => simp
  | cons step _ ih =>
    rw [filterMap_event_cons, filterMap_event_cons, List.map_append, List.append_assoc]
    exact step.outcomes ih

/-! ## The end of a run -/

/-- A server that has ended has nothing left to do. -/
def Drained (t : State α) : Prop :=
  ∀ fault?, t.phase = .ended fault? → t.running = [] ∧ t.queue = []

theorem Drained.initial (s : Server) : Drained (State.initial s : State α) := nofun

/-- No step ends a server that has something left to do, or gives one that has ended anything. -/
theorem Drained.step (drained : Drained t) (step : Step s h t e u) : Drained u := by
  cases step with
  | passOver => exact drained
  | drop => exact drained
  | reply running _ =>
    intro fault? ended
    simp [(drained fault? ended).1] at running
  | refuse running _ =>
    intro fault? ended
    simp [(drained fault? ended).1] at running
  | finish running =>
    intro fault? ended
    simp [(drained fault? ended).1] at running
  | hand first =>
    intro fault? ended
    simp [(drained fault? ended).2] at first
  | quit _ gone sent => exact fun _ _ => ⟨gone, sent⟩
  | _ => rintro fault? ⟨⟩

theorem Drained.trace (drained : Drained t) (trace : Trace s h t es u) : Drained u :=
  trace.keeps (fun step drained => drained.step step) drained

namespace Phase

/-- Whether the loop has stopped. -/
def isStopped : Phase → Bool
  | receiving => false
  | waiting _ _ => false
  | collecting _ _ => true
  | closing _ => true
  | ended _ => true

/-- The steps that a loop that has stopped has still to take. -/
def steps (workers : Nat) : Phase → Nat
  | receiving => 0
  | waiting _ _ => 0
  | collecting _ n => workers - n + 2
  | closing _ => 1
  | ended _ => 0

end Phase

/-- The steps that a server whose loop has stopped has still to take. -/
def State.steps (s : Server) (t : State α) : Nat :=
  Task.stepsOfAll t.running + t.queue.length + t.phase.steps s.config.workers

/-- A loop that has stopped does not go on. -/
theorem Step.isStopped (step : Step s h t e u) (stopped : t.phase.isStopped = true) :
    u.phase.isStopped = true := by
  cases step with
  | takeRequest phase _ => simp [phase, Phase.isStopped] at stopped
  | dispatch phase _ _ _ => simp [phase, Phase.isStopped] at stopped
  | reply => exact stopped
  | refuse => exact stopped
  | finish => exact stopped
  | passOver => exact stopped
  | drop => exact stopped
  | hand => exact stopped
  | _ => rfl

/-- Whatever a server does that has stopped, it has one step less to take. -/
theorem Step.steps (step : Step s h t e u) (balanced : Balanced s t)
    (stopped : t.phase.isStopped = true) : u.steps s + 1 = t.steps s := by
  unfold State.steps
  cases step with
  | takeRequest phase _ => simp [phase, Phase.isStopped] at stopped
  | passOver phase _ => simp [phase, Phase.isStopped] at stopped
  | drop phase _ _ => simp [phase, Phase.isStopped] at stopped
  | abort phase _ _ => simp [phase, Phase.isStopped] at stopped
  | fail phase => simp [phase, Phase.isStopped] at stopped
  | stop phase => simp [phase, Phase.isStopped] at stopped
  | giveUp phase => simp [phase, Phase.isStopped] at stopped
  | dispatch phase _ _ _ => simp [phase, Phase.isStopped] at stopped
  | reply running packet =>
    simp only [running, Task.stepsOfAll_append, Task.stepsOfAll, Task.steps_of_packet packet,
      List.length_append, List.length_singleton]
    omega
  | refuse running packet =>
    simp only [running, Task.stepsOfAll_append, Task.stepsOfAll, Task.steps_of_refused packet]
    omega
  | finish running =>
    simp only [running, Task.stepsOfAll_append, Task.stepsOfAll, Task.steps, Task.steps.go]
    omega
  | hand first =>
    simp only [first, List.length_cons]
    omega
  | collect phase worker =>
    -- There is a worker left to collect.
    simp only [Balanced, phase, Phase.collected, worker] at balanced
    simp only [phase, Phase.steps]
    omega
  | close phase =>
    simp only [phase, Phase.steps]
    omega
  | quit phase _ _ => simp only [phase, Phase.steps]

/-- The steps of a server that has stopped are taken from those that it has left. -/
theorem Trace.steps (trace : Trace s h t es u) (balanced : Balanced s t)
    (stopped : t.phase.isStopped = true) :
    u.phase.isStopped = true ∧ es.length + u.steps s = t.steps s := by
  induction trace with
  | nil t => exact ⟨stopped, Nat.zero_add _⟩
  | cons step _ ih =>
    have once := step.steps balanced stopped
    obtain ⟨stopped, rest⟩ := ih (balanced.step step) (step.isStopped stopped)
    refine ⟨stopped, ?_⟩
    rw [List.length_cons]
    omega

/-- A handler that runs can take its next step. -/
theorem exists_step_of_running {task : Task α} {rest : List (Task α)}
    (running : t.running = task :: rest) : ∃ e u, Step s h t e u := by
  obtain ⟨w, todo⟩ := task
  have place : t.running = [] ++ ⟨w, todo⟩ :: rest := running
  cases todo with
  | done result => exact ⟨_, _, .finish place⟩
  | send r next =>
    cases made : w.packet r with
    | error cause => exact ⟨_, _, .refuse place made⟩
    | ok p => exact ⟨_, _, .reply place made⟩

/-- A server that has stopped has ended or can take a step. -/
theorem ended_or_exists_step (balanced : Balanced s t) (stopped : t.phase.isStopped = true) :
    (∃ fault?, t.phase = .ended fault?) ∨ ∃ e u, Step s h t e u := by
  cases running : t.running with
  | cons task rest => exact .inr (exists_step_of_running running)
  | nil =>
    unfold Balanced at balanced
    rw [running] at balanced
    cases phase : t.phase with
    | receiving => simp [phase, Phase.isStopped] at stopped
    | waiting source m => simp [phase, Phase.isStopped] at stopped
    | collecting fault? collected =>
      rw [phase] at balanced
      refine .inr ?_
      cases free : t.free with
      | zero =>
        have all : collected = s.config.workers := by
          simpa [free, Phase.collected] using balanced
        exact ⟨_, _, .close (all ▸ phase)⟩
      | succ free' => exact ⟨_, _, .collect phase free⟩
    | closing fault? =>
      refine .inr ?_
      cases queue : t.queue with
      | nil => exact ⟨_, _, .quit phase running queue⟩
      | cons p rest => exact ⟨_, _, .hand queue⟩
    | ended fault? => exact .inl ⟨fault?, rfl⟩

/-- A server that has stopped has no step left exactly if it has ended. -/
theorem Drained.steps_eq_zero_iff (drained : Drained t) (stopped : t.phase.isStopped = true) :
    t.steps s = 0 ↔ ∃ fault?, t.phase = .ended fault? := by
  unfold State.steps
  constructor
  · intro last
    cases phase : t.phase with
    | receiving => simp [phase, Phase.isStopped] at stopped
    | waiting source m => simp [phase, Phase.isStopped] at stopped
    | collecting fault? collected => simp [phase, Phase.steps] at last
    | closing fault? => simp [phase, Phase.steps] at last
    | ended fault? => exact ⟨fault?, rfl⟩
  · rintro ⟨fault?, ended⟩
    obtain ⟨gone, sent⟩ := drained fault? ended
    simp [gone, sent, ended, Task.stepsOfAll, Phase.steps]

/-- A server that has not stopped can be told to. -/
theorem exists_stop (going : t.phase.isStopped = false) :
    ∃ u, Step s h t (.stopped none) u ∧ u.phase.isStopped = true := by
  cases phase : t.phase with
  | receiving => exact ⟨_, .stop phase, rfl⟩
  | waiting source m => exact ⟨_, .giveUp phase, rfl⟩
  | _ => simp [phase, Phase.isStopped] at going

/-- A server works on at most as many requests at a time as its configuration says, but at least on
one and at most on 65536: its workers are free, run a handler or have been collected, and none is
lost. What has been handed to the socket and what waits for the sender is what has been queued, in
that order. When the server has ended, for whatever reason its loop stopped, every handler that
began has ended with its result, and what was queued has been handed over, each reply once, and is
made of all replies of each handler in its order. The loop can be told to stop as long as it has not
stopped, and then it cannot be held up: there is a number of steps after which the server has ended,
whatever these steps are, and up to then there is a step that it can take. -/
theorem trace_drains (s : Server) (h : Behaviour α) (es : List (Event α)) (t : State α)
    (trace : Trace s h (State.initial s) es t) :
    let limit := max 1 (min s.config.maxInFlight 65536)
    (t.free + t.running.length + t.phase.collected limit = limit ∧ t.running.length ≤ limit) ∧
    (t.handed = es.filterMap Event.handed? ∧
      t.handed ++ t.queue = es.filterMap Event.queued?) ∧
    (∀ fault?, t.phase = .ended fault? →
      t.running = [] ∧
      ((es.filterMap Event.began?).map Task.outcome).Perm (es.filterMap Event.finished?) ∧
      es.filterMap Event.handed? = es.filterMap Event.queued? ∧
      Shuffle ((es.filterMap Event.began?).map Task.replies) (es.filterMap Event.handed?)) ∧
    (t.phase.isStopped = false → ∃ u, Step s h t (.stopped none) u ∧ u.phase.isStopped = true) ∧
    (t.phase.isStopped = true → ∃ n, ∀ es' u, Trace s h t es' u →
      (es'.length < n ∧ ∃ e v, Step s h u e v) ∨
      (es'.length = n ∧ ∃ fault?, u.phase = .ended fault?)) := by
  intro limit
  have balanced : Balanced s t := (Balanced.initial s).trace trace
  have drained : Drained t := (Drained.initial s).trace trace
  have handed : t.handed = es.filterMap Event.handed? :=
    trace.grown State.handed Event.handed? Step.handed
  have queued : t.handed ++ t.queue = es.filterMap Event.queued? :=
    trace.grown (fun t => t.handed ++ t.queue) Event.queued? Step.queued
  refine ⟨⟨balanced, ?_⟩, ⟨handed, queued⟩, ?_, exists_stop, ?_⟩
  · calc t.running.length
        ≤ t.free + t.running.length + t.phase.collected limit := by omega
      _ = limit := balanced
  · intro fault? ended
    obtain ⟨gone, sent⟩ := drained fault? ended
    have same : es.filterMap Event.handed? = es.filterMap Event.queued? := by
      rw [← handed, ← queued, sent, List.append_nil]
    have outcomes := trace.outcomes
    rw [gone, List.map_nil, List.append_nil] at outcomes
    exact ⟨gone, outcomes, same, same ▸ trace.shuffle gone⟩
  · intro stopped
    refine ⟨t.steps s, fun es' u behind => ?_⟩
    obtain ⟨stopped, count⟩ := behind.steps balanced stopped
    have finished := (drained.trace behind).steps_eq_zero_iff (s := s) stopped
    rcases ended_or_exists_step (h := h) (balanced.trace behind) stopped with ended | goes
    · have last := finished.mpr ended
      exact .inr ⟨by omega, ended⟩
    · by_cases last : u.steps s = 0
      · exact .inr ⟨by omega, finished.mp last⟩
      · exact .inl ⟨by omega, goes⟩

/-- A server that may work on nothing at all works on one request at a time. It is told to stop
while a second request waits for the handler of the first, which has queued its offer; that request
is lost, and the offer is handed over before the server ends. -/
theorem trace_drains_waiting :
    let s : Server := { config := { maxInFlight := 0 } }
    let source : Endpoint := .v4 ⟨⟨0x0A000001⟩, clientPort⟩
    let asks : Arrival := ⟨source, (Message.discover 7).octets⟩
    let w := ReplyWriter.forRequest s.config (Message.discover 7) source
    let task : Task (Except Fault Unit) := ⟨w, .reply (.offer ⟨0xC0A80064⟩ [])⟩
    let h : Behaviour (Except Fault Unit) := fun _ a => a = .reply (.offer ⟨0xC0A80064⟩ [])
    ∃ (p : Packet) (t : State (Except Fault Unit)),
      Trace s h (State.initial s)
        [.took asks, .began task, .took asks, .queued p, .stopped none, .finished w (.ok ()),
          .collected, .closed, .handed p, .ended] t ∧
      t.phase = .ended none ∧ t.free + t.running.length + t.phase.collected 1 = 1 ∧
      t.handed = [p] ∧ Shuffle [task.replies] [p] := by
  intro s source asks w task h
  let offer := w.compose (Message.offer (Message.discover 7) ⟨0xC0A80064⟩) []
  let p : Packet := ⟨w.destination, offer.octets⟩
  have asked := Message.travels_ask .discover (by decide) 7
  have offered : offer.Travels 3 :=
    (asked.granting (by decide) _).compose w (List.forall_mem_nil _)
  have intake : Intake.ofDatagram s.registry asks.datagram = .request (Message.discover 7) :=
    Intake.ofDatagram_octets (asked.mono (by decide)) rfl
  have packet : w.packet (.offer ⟨0xC0A80064⟩ []) = .ok p :=
    ReplyWriter.packet_of_travels rfl offered
  have one : s.config.workers = 0 + 1 := rfl
  have trace : Trace s h (State.initial s)
      [.took asks, .began task, .took asks, .queued p, .stopped none, .finished w (.ok ()),
        .collected, .closed, .handed p, .ended] _ :=
    .cons (.takeRequest rfl intake) <| .cons (.dispatch rfl one rfl rfl) <|
    .cons (.takeRequest rfl intake) <| .cons (.reply (List.nil_append _).symm packet) <|
    .cons (.giveUp rfl) <| .cons (.finish (List.nil_append _).symm) <|
    .cons (.collect rfl rfl) <| .cons (.close rfl) <| .cons (.hand rfl) <|
    .cons (.quit rfl rfl rfl) <| .nil _
  obtain ⟨⟨balanced, -⟩, -, drains, -⟩ := trace_drains s h _ _ trace
  obtain ⟨-, -, -, shuffle⟩ := drains none rfl
  exact ⟨p, _, trace, rfl, balanced, rfl, shuffle⟩

end Dhcp.Concurrent
