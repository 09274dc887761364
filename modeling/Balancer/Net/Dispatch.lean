import Balancer.Net.Reactor

/-! `EpollReactor::run`: `epoll_wait` returns a batch of events, and each is delivered type by type to
the callback that the table then has for its descriptor. The periodic callback and the handlers may in
between make any calls of the kernel and of the reactor, and so may the callback of the listening socket. -/

namespace Balancer.Net
open Foundation

/-- A call that changes the open descriptors or the reactor. -/
inductive Call where
  /-- `socket`, `accept4` or `pipe2` hands out a descriptor. -/
  | handOut (fd : Fd)
  | close (fd : Fd)
  | addFd (fd : Fd) (events : Interest) (callback : Callback)
  | modFd (fd : Fd) (events : Interest)
  | delFd (fd : Fd)
  deriving DecidableEq

/-- The open descriptors and the reactor. A connection is named by the number of descriptors that were
handed out before its own. -/
structure Desk where
  opened : FiniteMap Fd Nat
  issued : Nat
  reactor : Reactor
  /-- History: the connection for which each callback was registered. -/
  owners : FiniteMap Fd Nat

namespace Desk

/-- Only a free descriptor is handed out. `add_fd` fails on one that is not open or is registered already. -/
def perform (desk : Desk) : Call → Desk
  | .handOut fd =>
      match desk.opened.find fd with
      | some _ => desk
      | none => { desk with opened := desk.opened.insert fd desk.issued, issued := desk.issued + 1 }
  | .close fd => { desk with opened := desk.opened.erase fd, reactor := desk.reactor.forget fd }
  | .addFd fd events callback =>
      match desk.opened.find fd, desk.reactor.interest.find fd with
      | some connection, none =>
          { desk with
            reactor := desk.reactor.addFd fd events callback
            owners := desk.owners.insert fd connection }
      | _, _ => desk
  | .modFd fd events => { desk with reactor := desk.reactor.modFd fd events }
  | .delFd fd =>
      match desk.reactor.interest.find fd with
      | some _ => { desk with reactor := desk.reactor.delFd fd, owners := desk.owners.erase fd }
      | none => desk

/-- No descriptor is open yet. -/
def initial : Desk := ⟨∅, 0, ⟨∅, ∅⟩, ∅⟩

end Desk

/-- `EPOLLERR` or `EPOLLHUP`, `EPOLLIN` and `EPOLLOUT` of an event. -/
structure Mask where
  error : Bool
  readable : Bool
  writable : Bool
  deriving DecidableEq

/-- What is delivered for an event, in this order. -/
def Mask.types (mask : Mask) : List EventType :=
  (if mask.error then [.error] else []) ++ (if mask.readable then [.read] else []) ++
    if mask.writable then [.write] else []

/-- An event of the batch, with the types that are still to be delivered. -/
structure Ready where
  fd : Fd
  types : List EventType
  /-- History: the connection that was registered when the batch was returned. -/
  owner : Nat
  deriving DecidableEq

structure Loop where
  desk : Desk
  /-- The events of the batch that are not done. -/
  batch : List Ready
  /-- History: how many descriptors had been handed out when the batch was returned. -/
  mark : Nat

inductive LoopTurn where
  /-- `epoll_wait` returns. -/
  | wait (events : List (Fd × Mask))
  /-- The callback that runs makes a call. -/
  | call (call : Call)
  /-- The callback has returned, and the next one is looked up. -/
  | dispatch
  deriving DecidableEq

/-- A call of a callback. -/
structure Delivery where
  fd : Fd
  type : EventType
  /-- The connection that was registered when the batch was returned. -/
  registered : Nat
  /-- The connection whose callback is called. -/
  receiver : Option Nat
  deriving DecidableEq

/-- `epoll_wait` reports only registered descriptors. -/
def Desk.report (desk : Desk) (event : Fd × Mask) : Option Ready :=
  match desk.reactor.interest.find event.1 with
  | some _ => (desk.owners.find event.1).map fun owner => ⟨event.1, event.2.types, owner⟩
  | none => none

namespace Loop

/-- The next call of a callback; an event without a callback is skipped. -/
def next (loop : Loop) : Option Delivery :=
  match loop.batch with
  | [] => none
  | event :: _ =>
    match event.types, loop.desk.reactor.callbacks.find event.fd with
    | type :: _, some _ => some ⟨event.fd, type, event.owner, loop.desk.owners.find event.fd⟩
    | _, _ => none

/-- What is left of the batch. -/
def rest (loop : Loop) : List Ready :=
  match loop.batch with
  | [] => []
  | event :: later =>
    match event.types, loop.desk.reactor.callbacks.find event.fd with
    | _ :: types, some _ => { event with types := types } :: later
    | _, _ => later

def turn (loop : Loop) : LoopTurn → Loop
  | .wait events =>
      if loop.batch = [] then
        { loop with batch := events.filterMap loop.desk.report, mark := loop.desk.issued }
      else loop
  | .call call => { loop with desk := loop.desk.perform call }
  | .dispatch => { loop with batch := loop.rest }

def delivery (loop : Loop) : LoopTurn → Option Delivery
  | .dispatch => loop.next
  | _ => none

def initial : Loop := ⟨.initial, [], 0⟩

end Loop

end Balancer.Net
