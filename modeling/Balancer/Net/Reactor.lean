import Balancer.Net.Kernel

/-! `EpollReactor`: the registered descriptors with their interest, and the
callback table. A descriptor that is closed leaves the interest set at once,
while its callback stays until `delFd` or the next registration. -/

namespace Balancer.Net
open Foundation

inductive EventType where
  | read | write | error | hup
  deriving DecidableEq, Repr

/-- `EPOLLIN` and `EPOLLOUT` bits of a registration. -/
structure Interest where
  readable : Bool
  writable : Bool
  deriving DecidableEq, Repr

def Interest.both : Interest := ⟨true, true⟩

def Interest.out : Interest := ⟨false, true⟩

/-- The callbacks the balancer registers: the two event handlers and the flusher
of an error response. -/
inductive Callback where
  | client | backend | errorResponse
  deriving DecidableEq, Repr

structure Reactor where
  interest : FiniteMap Fd Interest
  callbacks : FiniteMap Fd Callback

namespace Reactor

/-- `EPOLL_CTL_ADD` fails on a registered descriptor, and the callback is kept then. It is taken to fail on no other:
neither for want of memory nor at the limit of watches. -/
def addFd (reactor : Reactor) (fd : Fd) (events : Interest) (callback : Callback) : Reactor :=
  match reactor.interest.find fd with
  | some _ => reactor
  | none =>
      { interest := reactor.interest.insert fd events
        callbacks := reactor.callbacks.insert fd callback }

def modFd (reactor : Reactor) (fd : Fd) (events : Interest) : Reactor :=
  match reactor.interest.find fd with
  | some _ => { reactor with interest := reactor.interest.insert fd events }
  | none => reactor

/-- `EPOLL_CTL_DEL` fails with `ENOENT` or `EBADF` on a descriptor that is not
registered, and the callback stays then. -/
def delFd (reactor : Reactor) (fd : Fd) : Reactor :=
  match reactor.interest.find fd with
  | some _ =>
      { interest := reactor.interest.erase fd, callbacks := reactor.callbacks.erase fd }
  | none => reactor

/-- What closing a descriptor does to the epoll set. -/
def forget (reactor : Reactor) (fd : Fd) : Reactor :=
  { reactor with interest := reactor.interest.erase fd }

end Reactor

end Balancer.Net
