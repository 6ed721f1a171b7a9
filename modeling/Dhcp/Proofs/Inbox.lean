import Dhcp.Proofs.Waiting

/-!
# What waits take from an inbox

Three kinds of datagrams decide a wait: one that cannot be read, a message that is no reply, and the
reply of the transaction that is waited for. `Client.Decides` says what each of them comes to, and
`Client.Waits` says what a wait comes to among many: the first datagram that decides does so, and
what is behind it is left for the next wait.

**The laws** (`Client.receive_eq_iff`, `Client.receives_in_order`): a client waits exactly as that
says; and waits that follow one another take consecutive pieces of what arrives, each of them the
shortest that ends in a datagram that decides, so that no datagram is taken twice or passed on to a
later wait once it was looked at.
-/

namespace Dhcp.Client

variable (c : Client) (xid : UInt32)

/-! ## What decides -/

/-- A datagram that decides a wait for the reply of a transaction, and what it comes to. A client
reads 2048 octets of it. -/
inductive Decides (datagram : Octets) : Except Fault Message → Prop
  | unreadable {cause : WireFault}
      (refused : Message.decodeWith c.registry (datagram.take 2048) = .error cause) :
      Decides datagram (.error (.malformed cause))
  | noReply {m : Message} {octet : UInt8}
      (read : Message.decodeWith c.registry (datagram.take 2048) = .ok m)
      (other : m.op ≠ .bootReply) (first : datagram[0]? = some octet) :
      Decides datagram (.error (.unexpectedOpCode octet))
  | reply {m : Message} (read : Message.decodeWith c.registry (datagram.take 2048) = .ok m)
      (answers : m.op = .bootReply) (same : m.xid = xid) : Decides datagram (.ok m)

/-- A reply of another transaction. -/
def Foreign (datagram : Octets) : Prop :=
  ∃ m, Message.decodeWith c.registry (datagram.take 2048) = .ok m ∧ m.op = .bootReply ∧
    m.xid ≠ xid

section Datagram

variable {c xid} {datagram : Octets} {result : Except Fault Message}

/-- The octet that is reported of a message that is no reply is the first of its datagram. -/
theorem first_of_received {m : Message}
    (read : Message.decodeWith c.registry (received datagram) = .ok m) :
    datagram[0]? = some m.op.toOctet := by
  have first := Message.getElem?_zero_of_decodeWith read
  rwa [received, List.getElem?_take_of_lt (by decide)] at first

/-- A client gives the verdict on a datagram that the datagram decides. -/
theorem verdict?_eq_some_iff : c.verdict? xid datagram = some result ↔
    c.Decides xid datagram result := by
  constructor
  · intro verdict
    unfold verdict? at verdict
    split at verdict
    next cause refused =>
      cases verdict
      exact .unreadable refused
    next m read =>
      split at verdict
      next other =>
        cases verdict
        exact .noReply read other (first_of_received read)
      next answers =>
        split at verdict
        next same =>
          cases verdict
          exact .reply read (not_not.mp answers) same
        next => cases verdict
  · intro decides
    cases decides with
    | unreadable refused =>
      have refused : Message.decodeWith c.registry (received datagram) = _ := refused
      simp only [verdict?, refused]
    | @noReply m octet read other first =>
      have read : Message.decodeWith c.registry (received datagram) = .ok m := read
      obtain rfl : octet = m.op.toOctet := Option.some.inj (first.symm.trans (first_of_received read))
      exact verdict?_of_no_reply read other
    | @reply m read answers same =>
      have read : Message.decodeWith c.registry (received datagram) = .ok m := read
      simp [verdict?, read, answers, same]

/-- A client passes over a datagram exactly if it decides nothing. -/
theorem silent_iff_undecided :
    c.Silent xid datagram ↔ ∀ result, ¬c.Decides xid datagram result := by
  simp only [← verdict?_eq_some_iff]
  exact Option.eq_none_iff_forall_ne_some

/-- Replies of other transactions are passed over, and nothing else is. -/
theorem silent_iff_foreign : c.Silent xid datagram ↔ c.Foreign xid datagram := by
  constructor
  · intro silent
    have undecided := silent_iff_undecided.mp silent
    cases read : Message.decodeWith c.registry (received datagram) with
    | error cause => exact absurd (.unreadable read) (undecided _)
    | ok m =>
      have answers : m.op = .bootReply := by
        by_contra other
        exact undecided _ (.noReply read other (first_of_received read))
      exact ⟨m, read, answers, fun same => undecided _ (.reply read answers same)⟩
  · rintro ⟨m, read, answers, foreign⟩
    exact silent_of_foreign_reply read answers foreign

/-- A reply of another transaction decides nothing. -/
theorem Foreign.undecided (foreign : c.Foreign xid datagram) :
    ∀ result, ¬c.Decides xid datagram result :=
  silent_iff_undecided.mp (silent_iff_foreign.mpr foreign)

end Datagram

/-! ## What a wait comes to -/

/-- What a wait comes to and what it leaves of the datagrams that are available. -/
inductive Waits : List Octets → Except Fault Message → List Octets → Prop
  | decided {before after : List Octets} {datagram : Octets} {result : Except Fault Message}
      (foreign : ∀ d ∈ before, c.Foreign xid d) (decides : c.Decides xid datagram result) :
      Waits (before ++ datagram :: after) result after
  | unanswered {available : List Octets} (foreign : ∀ d ∈ available, c.Foreign xid d) :
      Waits available (.error (.timeout c.config.timeout)) []

/-- Every wait comes to something. -/
theorem exists_waits (available : List Octets) :
    ∃ result left, c.Waits xid available result left := by
  rcases c.silent_or_decided xid available with
    silent | ⟨before, d, verdict, after, rfl, silent, decides⟩
  · exact ⟨_, [], .unanswered fun d mem => silent_iff_foreign.mp (silent d mem)⟩
  · exact ⟨verdict, after, .decided (fun d mem => silent_iff_foreign.mp (silent d mem))
      (verdict?_eq_some_iff.mp decides)⟩

section Wait

variable {c xid} {available left : List Octets} {result : Except Fault Message}

/-- A client that waits receives what the wait ends in, and leaves what it leaves. -/
theorem Waits.receive (waits : c.Waits xid available result left) :
    c.receive xid available = (result, left) := by
  cases waits with
  | decided foreign decides =>
    rw [c.receive_append_of_silent xid fun d mem => silent_iff_foreign.mpr (foreign d mem),
      c.receive_cons_of_verdict xid (verdict?_eq_some_iff.mpr decides)]
  | unanswered foreign =>
    have passed := c.receive_append_of_silent xid
      (fun d mem => silent_iff_foreign.mpr (foreign d mem)) []
    rwa [List.append_nil] at passed

/-- Receiving and waiting are the same. -/
theorem receive_eq_iff :
    c.receive xid available = (result, left) ↔ c.Waits xid available result left := by
  refine ⟨?_, Waits.receive⟩
  intro taken
  obtain ⟨_, _, waits⟩ := c.exists_waits xid available
  cases waits.receive.symm.trans taken
  exact waits

/-- A message that a wait gives is a reply of the transaction. -/
theorem Waits.reply_of_ok {m : Message} (waits : c.Waits xid available (.ok m) left) :
    m.op = .bootReply ∧ m.xid = xid := by
  cases waits with
  | decided foreign decides =>
    cases decides with
    | reply read answers same => exact ⟨answers, same⟩

end Wait

/-! ## Pieces of what arrives -/

/-- A piece of what arrives ends in a datagram that decides. -/
def EndsIn (piece : List Octets) (result : Except Fault Message) : Prop :=
  ∃ before datagram, piece = before ++ [datagram] ∧ c.Decides xid datagram result

/-- The piece that a wait takes from the front of what is available, and what it comes to: the
shortest piece that ends in a datagram that decides, or everything if there is no such piece. -/
inductive Takes (available : List Octets) : List Octets → Except Fault Message → Prop
  | decided {piece : List Octets} {result : Except Fault Message} (front : piece <+: available)
      (ends : c.EndsIn xid piece result)
      (shortest : ∀ other result', other <+: available → c.EndsIn xid other result' →
        piece.length ≤ other.length) : Takes available piece result
  | unanswered (undecided : ∀ other result, other <+: available → ¬c.EndsIn xid other result) :
      Takes available available (.error (.timeout c.config.timeout))

section Piece

variable {c xid} {available left : List Octets} {result : Except Fault Message}

/-- A front that ends in a datagram that decides reaches beyond foreign replies. -/
theorem EndsIn.lt_length {before rest other : List Octets} {result : Except Fault Message}
    (ends : c.EndsIn xid other result) (foreign : ∀ d ∈ before, c.Foreign xid d)
    (front : other <+: before ++ rest) : before.length < other.length := by
  obtain ⟨earlier, d, rfl, decides⟩ := ends
  by_contra short
  have within : earlier ++ [d] <+: before :=
    List.prefix_of_prefix_length_le front (List.prefix_append ..) (Nat.le_of_not_lt short)
  have mem : d ∈ before := within.subset (List.mem_append_right _ List.mem_cons_self)
  exact (foreign d mem).undecided result decides

/-- What a wait takes and what it leaves are together what was available. -/
theorem Waits.takes (waits : c.Waits xid available result left) :
    ∃ piece, available = piece ++ left ∧ c.Takes xid available piece result := by
  cases waits with
  | @decided before after d _ foreign decides =>
    have split : before ++ d :: left = before ++ [d] ++ left := List.append_cons ..
    refine ⟨before ++ [d], split, .decided ?_ ⟨before, d, rfl, decides⟩ ?_⟩
    · rw [split]
      exact List.prefix_append ..
    · intro other result' front ends
      have beyond := ends.lt_length foreign front
      rwa [List.length_append, List.length_singleton]
  | unanswered foreign =>
    refine ⟨available, (List.append_nil _).symm, .unanswered ?_⟩
    intro other result front ends
    rw [← List.append_nil available] at front
    have beyond := ends.lt_length foreign front
    rw [List.append_nil] at front
    exact absurd front.length_le (Nat.not_le_of_lt beyond)

end Piece

/-! ## Waits that follow one another -/

/-- A wait for the reply of a transaction, with the datagrams that arrive before its time is up. -/
structure Wait where
  xid : UInt32
  arrivals : List Octets

/-- What waits come to that follow one another, and what they leave. -/
def receives : List Wait → List Octets → List (Except Fault Message) × List Octets
  | [], inbox => ([], inbox)
  | w :: waits, inbox =>
    let (result, inbox) := c.receive w.xid (inbox ++ w.arrivals)
    let (results, inbox) := receives waits inbox
    (result :: results, inbox)

/-- The first wait takes from the inbox and what arrives, and the others from what it leaves. -/
theorem receives_cons (w : Wait) (waits : List Wait) (inbox : List Octets) :
    c.receives (w :: waits) inbox =
      ((c.receive w.xid (inbox ++ w.arrivals)).1 ::
          (c.receives waits (c.receive w.xid (inbox ++ w.arrivals)).2).1,
        (c.receives waits (c.receive w.xid (inbox ++ w.arrivals)).2).2) := rfl

/-- Waits that follow one another take consecutive pieces of the datagrams that arrive, in order and
without a gap, and what they leave is the rest. Each wait takes from what the waits before it have
left and from what arrives in its time: the shortest front that ends in a datagram that decides,
which gives its result, or everything, and then it ends for lack of time. A message that a wait
gives is a reply of the transaction that it is for. -/
theorem receives_in_order (waits : List Wait) (inbox : List Octets) :
    (c.receives waits inbox).1.length = waits.length ∧
    ∃ pieces : List (List Octets), pieces.length = waits.length ∧
      inbox ++ waits.flatMap Wait.arrivals = pieces.flatten ++ (c.receives waits inbox).2 ∧
      ∀ before w after, waits = before ++ w :: after →
        ∃ rest piece result,
          inbox ++ before.flatMap Wait.arrivals = (pieces.take before.length).flatten ++ rest ∧
          pieces[before.length]? = some piece ∧
          (c.receives waits inbox).1[before.length]? = some result ∧
          c.Takes w.xid (rest ++ w.arrivals) piece result ∧
          ∀ m, result = .ok m → m.op = .bootReply ∧ m.xid = w.xid := by
  induction waits generalizing inbox with
  | nil =>
    refine ⟨rfl, [], rfl, List.append_nil inbox, ?_⟩
    intro before w after split
    simp at split
  | cons w waits ih =>
    obtain ⟨result, left, waited⟩ := c.exists_waits w.xid (inbox ++ w.arrivals)
    obtain ⟨piece, available, takes⟩ := waited.takes
    obtain ⟨count, pieces, count', stream, each⟩ := ih left
    rw [receives_cons, waited.receive]
    refine ⟨congrArg (· + 1) count, piece :: pieces, congrArg (· + 1) count', ?_, ?_⟩
    · calc inbox ++ (w :: waits).flatMap Wait.arrivals
          = inbox ++ w.arrivals ++ waits.flatMap Wait.arrivals := by
            rw [List.flatMap_cons, List.append_assoc]
        _ = piece ++ (left ++ waits.flatMap Wait.arrivals) := by
            rw [available, List.append_assoc]
        _ = (piece :: pieces).flatten ++ (c.receives waits left).2 := by
            rw [stream, List.flatten_cons, List.append_assoc]
    · intro before w' after split
      cases before with
      | nil =>
        obtain ⟨rfl, rfl⟩ := List.cons.inj split
        refine ⟨inbox, piece, result, List.append_nil _, rfl, rfl, takes, ?_⟩
        rintro m rfl
        exact waited.reply_of_ok
      | cons first before =>
        obtain ⟨rfl, rfl⟩ := List.cons.inj split
        obtain ⟨rest, piece', result', taken, place, place', takes', reply⟩ :=
          each before w' after rfl
        refine ⟨rest, piece', result', ?_, place, place', takes', reply⟩
        calc inbox ++ (w :: before).flatMap Wait.arrivals
            = piece ++ (left ++ before.flatMap Wait.arrivals) := by
              rw [List.flatMap_cons, ← List.append_assoc, available, List.append_assoc]
          _ = ((piece :: pieces).take (w :: before).length).flatten ++ rest := by
              rw [taken, List.length_cons, List.take_succ_cons, List.flatten_cons,
                List.append_assoc]

end Dhcp.Client
