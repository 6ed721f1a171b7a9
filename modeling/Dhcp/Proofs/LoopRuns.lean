import Dhcp.Proofs.Drain
import Dhcp.Proofs.Independence

/-!
# The loops as runs

`Server.serve` and `Server.serveStalled` are functions: they say what a server does with a sequence
of datagrams under one schedule each. In the first, every handler ends before the loop takes the
next datagram; in the second, no handler makes progress before the loop has stopped. A server whose
handlers run beside its loop can follow either schedule, so what holds of all its runs holds of both
loops.

A run is put together from pieces. Of a piece, only the state that it leads to, the datagrams that
its loop takes and the results that handlers end with matter here, and pieces that follow each other
add these up (`Reaches.trans`).

**The laws** (`exists_trace_serve`, `exists_trace_serveStalled`): for every handler and every
sequence of datagrams there is a run that takes datagrams of the sequence in order, ends with the
fault of the loop, and hands over the packets of the loop; its handlers end with the results of the
loop. `Server.exists_serveStalledWith_eq` says that the second loop is the first one on a beginning
of the sequence.
-/

namespace Dhcp

/-! ## What a loop meets -/

namespace Server

/-- What a loop does about a datagram: it takes a request, it goes on behind what no handler sees, or
it stops at what it cannot read. -/
inductive Meets (s : Server) (a : Arrival) : Prop where
  | request {m : Message} (intake : Intake.ofDatagram s.registry a.datagram = .request m) : Meets s a
  | inert (nothing : s.Inert a) (goesOn : s.GoesOn a) : Meets s a
  | stops (aborts : s.config.decodeFailure = .abort) {cause : WireFault}
      (refused : s.Refuses a cause) : Meets s a

/-- There is no other datagram. -/
theorem meets (s : Server) (a : Arrival) : s.Meets a := by
  rcases s.goesOn_or_aborts a with goesOn | ⟨aborts, cause, refused⟩
  · cases intake : Intake.ofDatagram s.registry a.datagram with
    | request m => exact .request intake
    | passedOver => exact .inert (.inl (passesOver_iff.mpr intake)) goesOn
    | undecodable cause => exact .inert (.inr ⟨cause, refuses_iff.mpr intake⟩) goesOn
  · exact .stops aborts refused

variable {α : Type} (s : Server) (h : Handler α) {a : Arrival}

theorem serve_cons_of_inert (nothing : s.Inert a) (goesOn : s.GoesOn a) (rest : List Arrival) :
    s.serve h (a :: rest) = (s.serve h rest).push .nothing := by
  rw [s.serve_cons_of_goesOn h goesOn, respond_of_inert h nothing]

/-- Also where no handler gets on, nothing comes of a datagram that none sees. -/
theorem serveStalledWith_cons_of_inert (nothing : s.Inert a) (goesOn : s.GoesOn a) (free : Nat)
    (rest : List Arrival) :
    s.serveStalledWith h free (a :: rest) = (s.serveStalledWith h free rest).push .nothing := by
  rcases nothing with other | ⟨cause, refused⟩
  · simp only [serveStalledWith, passesOver_iff.mp other]
  · rcases goesOn with drops | readable
    · simp only [serveStalledWith, refuses_iff.mp refused, drops]
    · exact absurd refused (readable cause)

theorem serveStalledWith_cons_of_refuses (aborts : s.config.decodeFailure = .abort)
    {cause : WireFault} (refused : s.Refuses a cause) (free : Nat) (rest : List Arrival) :
    s.serveStalledWith h free (a :: rest) = ⟨[.nothing], some (.malformed cause)⟩ := by
  simp only [serveStalledWith, refuses_iff.mp refused, aborts]

/-- A loop beside which no handler gets on does with a beginning of the datagrams what a loop does
that waits for each handler. It begins no more handlers than there are free workers, and what it
leaves begins with a request for which there is none. -/
theorem exists_serveStalledWith_eq (free : Nat) (arrivals : List Arrival) :
    ∃ before behind, arrivals = before ++ behind ∧
      s.serveStalledWith h free arrivals = s.serve h before ∧
      (s.serve h before).results.length ≤ free ∧
      ∀ a ∈ behind.head?, (s.serve h before).results.length = free ∧
        ∃ m, Intake.ofDatagram s.registry a.datagram = .request m := by
  induction arrivals generalizing free with
  | nil => exact ⟨[], [], rfl, rfl, Nat.zero_le _, nofun⟩
  | cons a rest ih =>
    cases s.meets a with
    | @request m intake =>
      cases free with
      | zero =>
        refine ⟨[], a :: rest, rfl, by simp only [serveStalledWith, serve, intake], Nat.le_refl 0,
          ?_⟩
        rintro _ ⟨⟩
        exact ⟨rfl, m, intake⟩
      | succ free =>
        obtain ⟨before, behind, rfl, same, few, left⟩ := ih free
        refine ⟨a :: before, behind, rfl, by simp only [serveStalledWith, serve, intake, same], ?_⟩
        simp only [serve, intake, Run.results_push, handle, Option.toList_some,
          List.singleton_append, List.length_cons, Nat.add_le_add_iff_right,
          Nat.add_right_cancel_iff]
        exact ⟨few, left⟩
    | inert nothing goesOn =>
      obtain ⟨before, behind, rfl, same, few, left⟩ := ih free
      refine ⟨a :: before, behind, rfl, ?_, ?_⟩
      · rw [s.serveStalledWith_cons_of_inert h nothing goesOn,
          s.serve_cons_of_inert h nothing goesOn, same]
      · rw [s.serve_cons_of_inert h nothing goesOn, (Run.alike_push_nothing _).results]
        exact ⟨few, left⟩
    | stops aborts refused =>
      refine ⟨a :: rest, [], (List.append_nil _).symm, ?_, ?_, nofun⟩
      · rw [s.serveStalledWith_cons_of_refuses h aborts refused,
          s.serve_cons_of_refuses h aborts refused]
      · rw [s.serve_cons_of_refuses h aborts refused]
        exact Nat.zero_le free

end Server

namespace Concurrent

variable {α : Type} {s : Server} {h : Behaviour α} {t u v : State α}

/-- The datagram that the loop took. -/
def Event.took? : Event α → Option Arrival
  | took a => some a
  | _ => none

/-- The behaviour of which a handler is the only one. -/
def Behaviour.of (h : Handler α) : Behaviour α := fun w a => a = h w

/-! ## Pieces of runs -/

/-- Two runs of which the second begins where the first has come to are one. -/
theorem Trace.append {es es' : List (Event α)} (first : Trace s h t es u)
    (second : Trace s h u es' v) : Trace s h t (es ++ es') v := by
  induction first with
  | nil => exact second
  | cons step _ ih => exact .cons step (ih second)

/-- A server comes from one state to another by a run in which its loop takes these datagrams and
handlers end with these results. -/
def Reaches (s : Server) (h : Behaviour α) (t : State α) (taken : List Arrival)
    (results : List α) (u : State α) : Prop :=
  ∃ es, Trace s h t es u ∧ es.filterMap Event.took? = taken ∧
    (es.filterMap Event.finished?).map Prod.snd = results

namespace Reaches

variable {taken taken' : List Arrival} {results results' : List α}

/-- Nothing need happen. -/
theorem refl (t : State α) : Reaches s h t [] [] t := ⟨[], .nil t, rfl, rfl⟩

/-- A piece of one step takes and ends what the step does. -/
theorem of_step {e : Event α} (step : Step s h t e u) :
    Reaches s h t e.took?.toList (e.finished?.toList.map Prod.snd) u :=
  ⟨[e], .cons step (.nil u), filterMap_event_cons .. |>.trans (List.append_nil _), by
    rw [filterMap_event_cons, List.filterMap_nil, List.append_nil]⟩

/-- Pieces that follow each other take and end what both do. -/
theorem trans (first : Reaches s h t taken results u) (second : Reaches s h u taken' results' v) :
    Reaches s h t (taken ++ taken') (results ++ results') v := by
  obtain ⟨es, trace, rfl, rfl⟩ := first
  obtain ⟨es', trace', rfl, rfl⟩ := second
  exact ⟨es ++ es', trace.append trace', List.filterMap_append, by
    rw [List.filterMap_append, List.map_append]⟩

/-- A step in which nothing is taken and no handler ends can be put in front. -/
theorem step_cons {e : Event α} (step : Step s h t e u) (behind : Reaches s h u taken results v)
    (took : e.took? = none) (finished : e.finished? = none) : Reaches s h t taken results v := by
  have piece := (of_step step).trans behind
  rwa [took, finished] at piece

/-- A step in which a datagram is taken can be put in front. -/
theorem took_cons {a : Arrival} (step : Step s h t (.took a) u)
    (behind : Reaches s h u taken results v) : Reaches s h t (a :: taken) results v :=
  (of_step step).trans behind

end Reaches

/-- A loop that waits for datagrams can pass over one that no handler sees, where it goes on behind
it. -/
theorem Step.pass {a : Arrival} (phase : t.phase = .receiving) (nothing : s.Inert a)
    (goesOn : s.GoesOn a) : Step s h t (.took a) t := by
  rcases nothing with other | ⟨cause, refused⟩
  · exact .passOver phase (Server.passesOver_iff.mp other)
  · rcases goesOn with drops | readable
    · exact .drop phase (Server.refuses_iff.mp refused) drops
    · exact absurd refused (readable cause)

/-! ## Handlers that run to their end -/

/-- A handler that runs can run to its end, whatever else runs: it queues its replies, ends with its
result and gives its worker back. -/
theorem reaches_finished (task : Task α) {before after : List (Task α)}
    (running : t.running = before ++ task :: after) :
    Reaches s h t [] [task.outcome.2]
      { t with
        running := before ++ after
        free := t.free + 1
        queue := t.queue ++ task.replies } := by
  obtain ⟨w, rest⟩ := task
  induction rest generalizing t with
  | done result =>
    have piece : Reaches s h t [] [result] _ := .of_step (.finish running)
    have silent : t.queue ++ Task.replies ⟨w, .done result⟩ = t.queue := List.append_nil _
    rw [silent]
    exact piece
  | send r next ih =>
    cases made : w.packet r with
    | error cause =>
      rw [Task.replies_of_refused made, Task.outcome_of_refused made]
      exact .step_cons (.refuse running made) (ih _ rfl) rfl rfl
    | ok p =>
      have queued : t.queue ++ p :: Task.replies ⟨w, next (.ok ())⟩ =
          t.queue ++ [p] ++ Task.replies ⟨w, next (.ok ())⟩ := by
        rw [List.append_assoc, List.singleton_append]
      rw [Task.replies_of_packet made, Task.outcome_of_packet made, queued]
      exact .step_cons (.reply running made) (ih _ rfl) rfl rfl

/-- All handlers that run can run to their end, one after another. -/
theorem reaches_all_finished (tasks : List (Task α)) (running : t.running = tasks) :
    Reaches s h t [] (tasks.map fun task => task.outcome.2)
      { t with
        running := []
        free := t.free + tasks.length
        queue := t.queue ++ tasks.flatMap Task.replies } := by
  induction tasks generalizing t with
  | nil =>
    obtain ⟨phase, free, _, queue, handed⟩ := t
    cases running
    rw [List.flatMap_nil, List.append_nil]
    exact .refl _
  | cons task tasks ih =>
    have place : t.running = [] ++ task :: tasks := running
    have first : Reaches s h t [] [task.outcome.2] _ := reaches_finished task place
    have all := first.trans (ih rfl)
    rw [List.flatMap_cons, ← List.append_assoc, List.length_cons, Nat.add_comm tasks.length,
      ← Nat.add_assoc]
    exact all

/-! ## The end of a server that has stopped -/

/-- A loop that has stopped can collect all free workers. -/
theorem reaches_collected {fault? : Option Fault} {n : Nat}
    (phase : t.phase = .collecting fault? n) :
    Reaches s h t [] [] { t with phase := .collecting fault? (n + t.free), free := 0 } := by
  obtain ⟨_, free, running, queue, handed⟩ := t
  cases phase
  induction free generalizing n with
  | zero => exact .refl _
  | succ free ih =>
    have behind := ih (n := n + 1)
    rw [Nat.add_right_comm n 1 free] at behind
    exact .step_cons (.collect rfl rfl) behind rfl rfl

/-- The sender can hand over all replies that wait. -/
theorem reaches_handed :
    Reaches s h t [] [] { t with queue := [], handed := t.handed ++ t.queue } := by
  obtain ⟨phase, free, running, queue, handed⟩ := t
  induction queue generalizing handed with
  | nil =>
    rw [List.append_nil]
    exact .refl _
  | cons p queue ih =>
    have behind := ih (handed ++ [p])
    rw [List.append_assoc, List.singleton_append] at behind
    exact .step_cons (.hand rfl) behind rfl rfl

/-- A server that has collected all workers can come to its end. -/
theorem reaches_ended_of_collected (fault? : Option Fault) (free : Nat)
    (queue handed : List Packet) :
    Reaches s h (⟨.collecting fault? s.config.workers, free, [], queue, handed⟩ : State α) [] []
      ⟨.ended fault?, free, [], [], handed ++ queue⟩ :=
  .step_cons (.close rfl) (reaches_handed.trans (.of_step (.quit rfl rfl rfl))) rfl rfl

/-- A server whose loop has stopped can come to its end: its handlers run to theirs, the loop
collects all workers, and the sender hands over what was queued. -/
theorem reaches_ended {fault? : Option Fault} (phase : t.phase = .collecting fault? 0)
    (balanced : Balanced s t) :
    Reaches s h t [] (t.running.map fun task => task.outcome.2)
      ⟨.ended fault?, 0, [], [], t.handed ++ (t.queue ++ t.running.flatMap Task.replies)⟩ := by
  have all : 0 + (t.free + t.running.length) = s.config.workers := by
    simpa [Balanced, phase, Phase.collected] using balanced
  have finished : Reaches s h t [] _ _ := reaches_all_finished t.running rfl
  have collected := finished.trans (reaches_collected phase)
  rw [all, List.append_nil, List.append_nil] at collected
  have whole := collected.trans (reaches_ended_of_collected fault? 0 _ t.handed)
  rw [List.append_nil, List.append_nil] at whole
  exact whole

/-! ## The loop that waits for each handler -/

/-- A loop that waits for datagrams while a worker is free can take a request and have it handled
to the end. -/
theorem reaches_handled (s : Server) (h : Handler α) {a : Arrival} {m : Message}
    (intake : Intake.ofDatagram s.registry a.datagram = .request m) (free : Nat)
    (queue handed : List Packet) :
    Reaches s (.of h) ⟨.receiving, free + 1, [], queue, handed⟩ [a]
      (s.handle h a.source m).result.toList
      ⟨.receiving, free + 1, [], queue ++ (s.handle h a.source m).packets, handed⟩ := by
  let w := ReplyWriter.forRequest s.config m a.source
  let task : Task α := ⟨w, h w⟩
  let begun : State α := ⟨.receiving, free, [task], queue, handed⟩
  have place : begun.running = [] ++ task :: [] := rfl
  have begins : Step s (.of h) ⟨.waiting a.source m, free + 1, [], queue, handed⟩ (.began task)
      begun := .dispatch rfl rfl rfl rfl
  have finished : Reaches s (.of h) begun [] [task.outcome.2] _ := reaches_finished task place
  exact .took_cons (.takeRequest rfl intake) (.step_cons begins finished rfl rfl)

/-- Whatever arrives, a loop that waits for datagrams while a worker is free can take it in the way
in which `Server.serve` does, and then stop. -/
theorem reaches_served (s : Server) (h : Handler α) (arrivals : List Arrival) (free : Nat)
    (queue handed : List Packet) :
    Reaches s (.of h) ⟨.receiving, free + 1, [], queue, handed⟩
      (arrivals.take (s.serve h arrivals).steps.length) (s.serve h arrivals).results
      ⟨.collecting (s.serve h arrivals).fault? 0, free + 1, [],
        queue ++ (s.serve h arrivals).packets, handed⟩ := by
  induction arrivals generalizing queue with
  | nil =>
    show Reaches s (.of h) _ [] [] ⟨_, _, _, queue ++ [], _⟩
    rw [List.append_nil]
    exact .step_cons (.stop rfl) (.refl _) rfl rfl
  | cons a rest ih =>
    cases s.meets a with
    | @request m intake =>
      have first := reaches_handled s h intake free queue handed
      have both := first.trans (ih (queue ++ (s.handle h a.source m).packets))
      simp only [Server.serve, intake, Run.results_push, Run.packets_push]
      rw [← List.append_assoc]
      exact both
    | inert nothing goesOn =>
      rw [s.serve_cons_of_inert h nothing goesOn, (Run.alike_push_nothing _).results,
        (Run.alike_push_nothing _).packets]
      exact .took_cons (.pass rfl nothing goesOn) (ih queue)
    | stops aborts refused =>
      rw [s.serve_cons_of_refuses h aborts refused]
      show Reaches s (.of h) _ [a] [] ⟨_, _, _, queue ++ [], _⟩
      rw [List.append_nil]
      exact .took_cons (.abort rfl (Server.refuses_iff.mp refused) aborts) (.refl _)

/-- The loop that handles each request before it takes the next datagram is a run of the server
whose handlers run beside its loop: one that takes the datagrams of the loop, ends with the fault of
the loop, has handed over the packets of the loop, in order, and whose handlers ended with the
results of the loop. -/
theorem exists_trace_serve (s : Server) (h : Handler α) (arrivals : List Arrival) :
    let run := s.serve h arrivals
    ∃ es t, Trace s (.of h) (State.initial s) es t ∧ t.phase = .ended run.fault? ∧
      es.filterMap Event.took? = arrivals.take run.steps.length ∧
      (es.filterMap Event.finished?).map Prod.snd = run.results ∧
      es.filterMap Event.handed? = run.packets := by
  intro run
  obtain ⟨workers, some⟩ : ∃ n, s.config.workers = n + 1 :=
    Nat.exists_eq_succ_of_ne_zero (by rw [ServerConfig.workers]; omega)
  have served : Reaches s (.of h) (State.initial s) (arrivals.take run.steps.length) run.results
      ⟨.collecting run.fault? 0, s.config.workers, [], run.packets, []⟩ := by
    rw [State.initial, some]
    exact reaches_served s h arrivals workers [] []
  have ended := served.trans (reaches_ended rfl (by simp [Balanced, Phase.collected]))
  rw [List.append_nil] at ended
  obtain ⟨es, trace, taken, results⟩ := ended
  have handed : run.packets ++ [] = es.filterMap Event.handed? :=
    trace.grown State.handed Event.handed? Step.handed
  exact ⟨es, _, trace, rfl, taken, results.trans (List.append_nil _),
    handed.symm.trans (List.append_nil _)⟩

/-! ## The loop beside which no handler gets on -/

/-- Whatever arrives, a loop that waits for datagrams can take it in the way in which
`Server.serveStalledWith` does, and then stop, before any handler does anything. The handlers that
have begun by then have all their replies and results before them, and these are the packets and the
results of the loop. -/
theorem reaches_stalled (s : Server) (h : Handler α) (arrivals : List Arrival) (free : Nat)
    (running : List (Task α)) :
    ∃ taken tasks left,
      Reaches s (.of h) ⟨.receiving, free, running, [], []⟩ taken []
        ⟨.collecting (s.serveStalledWith h free arrivals).fault? 0, left, running ++ tasks, [], []⟩ ∧
      taken <+: arrivals ∧ (∀ task ∈ tasks, task.rest = h task.writer) ∧
      tasks.flatMap Task.replies = (s.serveStalledWith h free arrivals).packets ∧
      (tasks.map fun task => task.outcome.2) = (s.serveStalledWith h free arrivals).results := by
  induction arrivals generalizing free running with
  | nil =>
    refine ⟨[], [], free, ?_, List.prefix_rfl, nofun, rfl, rfl⟩
    rw [List.append_nil]
    exact .step_cons (.stop rfl) (.refl _) rfl rfl
  | cons a rest ih =>
    cases s.meets a with
    | @request m intake =>
      cases free with
      | zero =>
        simp only [Server.serveStalledWith, intake]
        refine ⟨[a], [], 0, ?_, ⟨rest, rfl⟩, nofun, rfl, rfl⟩
        rw [List.append_nil]
        exact .took_cons (.takeRequest rfl intake) (.step_cons (.giveUp rfl) (.refl _) rfl rfl)
      | succ free =>
        let w := ReplyWriter.forRequest s.config m a.source
        let task : Task α := ⟨w, h w⟩
        obtain ⟨taken, tasks, left, reaches, front, whole, packets, results⟩ :=
          ih free (running ++ [task])
        have begins : Step s (.of h) ⟨.waiting a.source m, free + 1, running, [], []⟩ (.began task)
            ⟨.receiving, free, running ++ [task], [], []⟩ := .dispatch rfl rfl rfl rfl
        rw [List.append_assoc, List.singleton_append] at reaches
        simp only [Server.serveStalledWith, intake, Run.results_push, Run.packets_push]
        refine ⟨a :: taken, task :: tasks, left, ?_, List.cons_prefix_cons.mpr ⟨rfl, front⟩,
          List.forall_mem_cons.mpr ⟨rfl, whole⟩, ?_, ?_⟩
        · exact .took_cons (.takeRequest rfl intake) (.step_cons begins reaches rfl rfl)
        · rw [List.flatMap_cons, packets]
          rfl
        · rw [List.map_cons, results]
          rfl
    | inert nothing goesOn =>
      obtain ⟨taken, tasks, left, reaches, front, whole, packets, results⟩ := ih free running
      rw [s.serveStalledWith_cons_of_inert h nothing goesOn, (Run.alike_push_nothing _).results,
        (Run.alike_push_nothing _).packets]
      exact ⟨a :: taken, tasks, left, .took_cons (.pass rfl nothing goesOn) reaches,
        List.cons_prefix_cons.mpr ⟨rfl, front⟩, whole, packets, results⟩
    | stops aborts refused =>
      rw [s.serveStalledWith_cons_of_refuses h aborts refused]
      refine ⟨[a], [], free, ?_, ⟨rest, rfl⟩, nofun, rfl, rfl⟩
      rw [List.append_nil]
      exact .took_cons (.abort rfl (Server.refuses_iff.mp refused) aborts) (.refl _)

/-- The loop beside which no handler gets on is a run of the server whose handlers run beside its
loop. In a first part the loop takes datagrams in their order and stops with the fault of the loop,
while every handler that begins still has all that it does before it; in a second part the server comes to its end, having
handed over the packets of the loop, in order, and its handlers end with the results of the loop. -/
theorem exists_trace_serveStalled (s : Server) (h : Handler α) (arrivals : List Arrival) :
    let run := s.serveStalled h arrivals
    ∃ es t es' u, Trace s (.of h) (State.initial s) es t ∧ Trace s (.of h) t es' u ∧
      (t.phase = .collecting run.fault? 0 ∧ es.filterMap Event.took? <+: arrivals ∧
        (∀ task ∈ t.running, task.rest = h task.writer) ∧
        es.filterMap Event.finished? = [] ∧ es.filterMap Event.queued? = []) ∧
      u.phase = .ended run.fault? ∧ es'.filterMap Event.took? = [] ∧
      (es'.filterMap Event.finished?).map Prod.snd = run.results ∧
      (es ++ es').filterMap Event.handed? = run.packets := by
  intro run
  obtain ⟨taken, tasks, left, ⟨es, trace, took, unfinished⟩, front, whole, packets, results⟩ :=
    reaches_stalled s h arrivals s.config.workers []
  have trace : Trace s (.of h) (State.initial s) es _ := trace
  have balanced := (Balanced.initial s).trace trace
  obtain ⟨es', trace', took', finished⟩ := reaches_ended (h := .of h) rfl balanced
  have queued : [] = es.filterMap Event.queued? :=
    trace.grown (fun t => t.handed ++ t.queue) Event.queued? Step.queued
  have handed : [] ++ ([] ++ tasks.flatMap Task.replies) = (es ++ es').filterMap Event.handed? :=
    (trace.append trace').grown State.handed Event.handed? Step.handed
  exact ⟨es, _, es', _, trace, trace', ⟨rfl, took ▸ front, whole,
    List.map_eq_nil_iff.mp unfinished, queued.symm⟩, rfl, took', finished.trans results, handed.symm.trans packets⟩

end Concurrent

end Dhcp
