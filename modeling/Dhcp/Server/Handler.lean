import Dhcp.Server.Reply

/-!
# Handlers

A handler works on one request. All it can do to the world is send replies, and all it learns from
it is whether each of them was taken. `Answering` is that as data: a handler either is done with a
result, or sends a reply and goes on with the outcome. So a handler is a function of the request
alone, and running it can only add to the outbox.

Requests are told apart by their message type into routes. A request without an address of its own
asks for a lease and one with an address renews it, though both have the same type.
-/

namespace Dhcp

/-! ## Answering one request -/

/-- What a handler does about a request: it sends replies, one after another, and ends. -/
inductive Answering (α : Type) where
  | done (result : α)
  | send (reply : Reply) (next : Except Fault Unit → Answering α)

namespace Answering

/-- Goes on with the result. -/
def bind {α β : Type} (a : Answering α) (f : α → Answering β) : Answering β :=
  match a with
  | .done result => f result
  | .send reply next => .send reply fun outcome => (next outcome).bind f

/-- Changes the result. -/
def map {α β : Type} (f : α → β) (a : Answering α) : Answering β := a.bind fun x => .done (f x)

/-- Sends one reply; the result is its outcome. -/
def reply (r : Reply) : Answering (Except Fault Unit) := .send r .done

/-- Sends replies in order, whatever becomes of them; the result is the outcomes. -/
def replies : List Reply → Answering (List (Except Fault Unit))
  | [] => .done []
  | r :: rs => .send r fun outcome => (replies rs).map (outcome :: ·)

/-- The result of a handler that replies through a writer, and the outbox afterwards. -/
def run {α : Type} (w : ReplyWriter) : Answering α → Outbox → α × Outbox
  | .done result, box => (result, box)
  | .send reply next, box =>
    let (outcome, box) := w.send reply box
    (next outcome).run w box

end Answering

/-- What a server does about a request; the writer holds the request and where it came from. -/
abbrev Handler (α : Type) := ReplyWriter → Answering α

/-! ## Routes -/

/-- The kinds of request that a server tells apart. -/
inductive Route where
  | discover
  | request
  | renew
  | decline
  | release
  | inform
deriving DecidableEq

namespace Route

/-- The name of a route. -/
def name : Route → String
  | discover => "discover"
  | request => "request"
  | renew => "renew"
  | decline => "decline"
  | release => "release"
  | inform => "inform"

/-- The route of a request. -/
def ofMessage? (m : Message) : Option Route :=
  match m.messageType? with
  | some .discover => some discover
  | some .request => some (if m.ciaddr = .unspecified then request else renew)
  | some .decline => some decline
  | some .release => some release
  | some .inform => some inform
  | _ => none

end Route

/-- A handler for each route; requests for parameters alone may have none. -/
structure Callbacks (α : Type) where
  discover : Handler α
  request : Handler α
  renew : Handler α
  decline : Handler α
  release : Handler α
  inform : Option (Handler α) := none

namespace Callbacks

/-- The handler of a route. -/
def on {α : Type} (c : Callbacks α) : Route → Option (Handler α)
  | .discover => some c.discover
  | .request => some c.request
  | .renew => some c.renew
  | .decline => some c.decline
  | .release => some c.release
  | .inform => c.inform

/-- Handles a request by its route. A request without a route, or whose route has no handler, gets
no reply and gives no result. -/
def handler {α : Type} (c : Callbacks α) : Handler (Option (Route × α)) := fun w =>
  match Route.ofMessage? w.request with
  | none => .done none
  | some route =>
    match c.on route with
    | none => .done none
    | some h => (h w).map fun x => some (route, x)

end Callbacks

end Dhcp
