import Dhcp.Server.Loop

/-!
# Handlers that run beside the loop

`Server.serve` handles one request at a time. This module says what a server does whose handlers run
beside its loop, each on a worker of its own, while a sender takes replies off a queue and hands
them to the socket. `Concurrent.Step` is one thing that happens in such a server. Which of the
things that can happen does happen is left open, so `Concurrent.Trace` holds of every run there can
be, whatever arrives and however the handlers are scheduled. What handlers may do about a request is
a relation, since handlers that share a memory need not do the same about equal requests.

A handler begins only on a free worker. The loop waits for one with the request in hand, and an
order to stop that comes while it waits loses that request. A loop that has stopped collects its
workers one after another, which a handler gives back when it ends, and when it has them all it
queues nothing any more either. The queue ends when it is empty and nobody is left who could queue a
reply, and the server ends with it.

**The law of workers** (`Balanced.trace`): in every state of every run the workers that are free,
run a handler or have been collected are as many as the configuration says.
-/

namespace Dhcp.Concurrent

/-! ## States -/

/-- What the loop of a server is doing; `fault?` is why it stopped, if that was not by order. -/
inductive Phase where
  /-- It waits for a datagram. -/
  | receiving
  /-- It holds a request and waits for a free worker. -/
  | waiting (source : Endpoint) (request : Message)
  /-- It has stopped, and of the workers it has collected some. -/
  | collecting (fault? : Option Fault) (collected : Nat)
  /-- It has all workers and queues nothing any more. -/
  | closing (fault? : Option Fault)
  /-- The server has ended. -/
  | ended (fault? : Option Fault)
deriving DecidableEq

namespace Phase

/-- How many workers the loop has collected. -/
def collected (workers : Nat) : Phase → Nat
  | receiving => 0
  | waiting _ _ => 0
  | collecting _ n => n
  | closing _ => workers
  | ended _ => workers

end Phase

/-- A handler on its worker: the writer of its request, and what it has still to do. -/
structure Task (α : Type) where
  writer : ReplyWriter
  rest : Answering α

/-- What handlers may do about a request. -/
abbrev Behaviour (α : Type) := ReplyWriter → Answering α → Prop

/-- A server in the middle of a run. -/
structure State (α : Type) where
  phase : Phase
  /-- The workers that no handler runs on and that the loop has not collected. -/
  free : Nat
  running : List (Task α)
  /-- The replies that wait for the sender. -/
  queue : List Packet
  /-- The replies that the sender has handed to the socket. -/
  handed : List Packet

/-- A server that has just been started. -/
def State.initial {α : Type} (s : Server) : State α where
  phase := .receiving
  free := s.config.workers
  running := []
  queue := []
  handed := []

/-! ## Steps -/

/-- What can be seen of a step. -/
inductive Event (α : Type) where
  /-- The loop took a datagram. -/
  | took (a : Arrival)
  /-- A handler began. -/
  | began (task : Task α)
  /-- A handler queued a reply. -/
  | queued (p : Packet)
  /-- A reply of a handler could not be written. -/
  | refused (cause : WireFault)
  /-- A handler ended. -/
  | finished (w : ReplyWriter) (result : α)
  /-- The sender handed a reply to the socket. -/
  | handed (p : Packet)
  /-- The loop stopped. -/
  | stopped (fault? : Option Fault)
  /-- The loop collected a worker. -/
  | collected
  /-- The loop had all workers. -/
  | closed
  /-- The server ended. -/
  | ended

/-- One thing that happens in a server. -/
inductive Step {α : Type} (s : Server) (h : Behaviour α) :
    State α → Event α → State α → Prop where
  /-- The loop takes a request. -/
  | takeRequest {t : State α} {a : Arrival} {m : Message}
      (phase : t.phase = .receiving)
      (intake : Intake.ofDatagram s.registry a.datagram = .request m) :
      Step s h t (.took a) { t with phase := .waiting a.source m }
  /-- The loop passes over a message that is no request. -/
  | passOver {t : State α} {a : Arrival}
      (phase : t.phase = .receiving)
      (intake : Intake.ofDatagram s.registry a.datagram = .passedOver) :
      Step s h t (.took a) t
  /-- The loop drops a datagram that is no message. -/
  | drop {t : State α} {a : Arrival} {cause : WireFault}
      (phase : t.phase = .receiving)
      (intake : Intake.ofDatagram s.registry a.datagram = .undecodable cause)
      (policy : s.config.decodeFailure = .drop) :
      Step s h t (.took a) t
  /-- The loop stops because of a datagram that is no message. -/
  | abort {t : State α} {a : Arrival} {cause : WireFault}
      (phase : t.phase = .receiving)
      (intake : Intake.ofDatagram s.registry a.datagram = .undecodable cause)
      (policy : s.config.decodeFailure = .abort) :
      Step s h t (.took a) { t with phase := .collecting (some (.malformed cause)) 0 }
  /-- The loop stops because the socket fails. -/
  | fail {t : State α}
      (phase : t.phase = .receiving) :
      Step s h t (.stopped (some .io)) { t with phase := .collecting (some .io) 0 }
  /-- The loop is told to stop while it waits for a datagram. -/
  | stop {t : State α}
      (phase : t.phase = .receiving) :
      Step s h t (.stopped none) { t with phase := .collecting none 0 }
  /-- The loop is told to stop while it waits for a worker; its request is lost. -/
  | giveUp {t : State α} {source : Endpoint} {m : Message}
      (phase : t.phase = .waiting source m) :
      Step s h t (.stopped none) { t with phase := .collecting none 0 }
  /-- The loop finds a worker, and the handler begins on it. -/
  | dispatch {t : State α} {source : Endpoint} {m : Message} {task : Task α} {free : Nat}
      (phase : t.phase = .waiting source m)
      (worker : t.free = free + 1)
      (writer : task.writer = ReplyWriter.forRequest s.config m source)
      (may : h task.writer task.rest) :
      Step s h t (.began task)
        { t with phase := .receiving, free := free, running := t.running ++ [task] }
  /-- A handler queues a reply. -/
  | reply {t : State α} {before after : List (Task α)} {w : ReplyWriter} {r : Reply}
      {next : Except Fault Unit → Answering α} {p : Packet}
      (running : t.running = before ++ ⟨w, .send r next⟩ :: after)
      (packet : w.packet r = .ok p) :
      Step s h t (.queued p)
        { t with running := before ++ ⟨w, next (.ok ())⟩ :: after, queue := t.queue ++ [p] }
  /-- A handler learns that its reply cannot be written. -/
  | refuse {t : State α} {before after : List (Task α)} {w : ReplyWriter} {r : Reply}
      {next : Except Fault Unit → Answering α} {cause : WireFault}
      (running : t.running = before ++ ⟨w, .send r next⟩ :: after)
      (packet : w.packet r = .error cause) :
      Step s h t (.refused cause)
        { t with running := before ++ ⟨w, next (.error (.unwritable cause))⟩ :: after }
  /-- A handler ends and gives its worker back. -/
  | finish {t : State α} {before after : List (Task α)} {w : ReplyWriter} {result : α}
      (running : t.running = before ++ ⟨w, .done result⟩ :: after) :
      Step s h t (.finished w result)
        { t with running := before ++ after, free := t.free + 1 }
  /-- The sender hands the first reply of the queue to the socket. -/
  | hand {t : State α} {p : Packet} {queue : List Packet}
      (first : t.queue = p :: queue) :
      Step s h t (.handed p) { t with queue := queue, handed := t.handed ++ [p] }
  /-- The loop, having stopped, collects a free worker. -/
  | collect {t : State α} {fault? : Option Fault} {collected free : Nat}
      (phase : t.phase = .collecting fault? collected)
      (worker : t.free = free + 1) :
      Step s h t .collected
        { t with phase := .collecting fault? (collected + 1), free := free }
  /-- The loop has all workers. -/
  | close {t : State α} {fault? : Option Fault}
      (phase : t.phase = .collecting fault? s.config.workers) :
      Step s h t .closed { t with phase := .closing fault? }
  /-- The server ends when nothing is left to send and nobody is left who could queue a reply. -/
  | quit {t : State α} {fault? : Option Fault}
      (phase : t.phase = .closing fault?)
      (gone : t.running = [])
      (sent : t.queue = []) :
      Step s h t .ended { t with phase := .ended fault? }

/-- A run of a server: steps, with what can be seen of each. -/
inductive Trace {α : Type} (s : Server) (h : Behaviour α) :
    State α → List (Event α) → State α → Prop where
  | nil (t : State α) : Trace s h t [] t
  | cons {t u v : State α} {e : Event α} {es : List (Event α)}
      (step : Step s h t e u) (rest : Trace s h u es v) : Trace s h t (e :: es) v

/-- What every step keeps is kept by a run. -/
theorem Trace.keeps {α : Type} {s : Server} {h : Behaviour α} {P : State α → Prop}
    (kept : ∀ {t u : State α} {e : Event α}, Step s h t e u → P t → P u) {t u : State α}
    {es : List (Event α)} (trace : Trace s h t es u) (first : P t) : P u := by
  induction trace with
  | nil => exact first
  | cons step _ ih => exact ih (kept step first)

/-! ## The number of workers -/

/-- Whether a worker is free, runs a handler or has been collected, it is counted once, and there
are as many of them as the configuration says. -/
def Balanced {α : Type} (s : Server) (t : State α) : Prop :=
  t.free + t.running.length + t.phase.collected s.config.workers = s.config.workers

theorem Balanced.initial {α : Type} (s : Server) : Balanced s (State.initial s : State α) := by
  simp [Balanced, State.initial, Phase.collected]

/-- No step loses or adds a worker. -/
theorem Balanced.step {α : Type} {s : Server} {h : Behaviour α} {t u : State α} {e : Event α}
    (balanced : Balanced s t) (step : Step s h t e u) : Balanced s u := by
  unfold Balanced at *
  cases step with
  | takeRequest phase _ => simpa [phase, Phase.collected] using balanced
  | passOver => exact balanced
  | drop => exact balanced
  | abort phase _ _ => simpa [phase, Phase.collected] using balanced
  | fail phase => simpa [phase, Phase.collected] using balanced
  | stop phase => simpa [phase, Phase.collected] using balanced
  | giveUp phase => simpa [phase, Phase.collected] using balanced
  | dispatch phase worker _ _ =>
    simp only [phase, worker, Phase.collected, List.length_append, List.length_singleton]
      at balanced ⊢
    omega
  | reply running _ => simpa [running] using balanced
  | refuse running _ => simpa [running] using balanced
  | finish running =>
    simp only [running, List.length_append, List.length_cons] at balanced ⊢
    omega
  | hand => exact balanced
  | collect phase worker =>
    simp only [phase, worker, Phase.collected] at balanced ⊢
    omega
  | close phase => simpa [phase, Phase.collected] using balanced
  | quit phase _ _ => simpa [phase, Phase.collected] using balanced

/-- No run loses or adds a worker. -/
theorem Balanced.trace {α : Type} {s : Server} {h : Behaviour α} {t u : State α}
    {es : List (Event α)} (balanced : Balanced s t) (trace : Trace s h t es u) :
    Balanced s u :=
  trace.keeps (fun step balanced => balanced.step step) balanced

end Dhcp.Concurrent
