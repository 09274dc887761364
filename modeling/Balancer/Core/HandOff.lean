import Balancer.Foundation.Run

/-! How a configuration that a worker of the thread pool has loaded comes to the reactor: the
periodic callback and the task it posts, step by step. What is done under
`pending_config_mutex_` by one thread waits for the other. -/

namespace Balancer.Core
open Foundation

/-- An object that `load_from_file` has made; every load makes a new one. -/
structure Snapshot (κ : Type) where
  number : Nat
  config : κ

/-- Where the reactor stands in its periodic callback. It has the lock while it applies and resets `pending_config_`; it
tests and sets `config_check_in_progress_` before it posts the task. -/
inductive TickPhase (κ : Type) where
  | rest
  | entered
  | applying (snapshot : Snapshot κ)
  | resetting
  | testing
  | setting
  | posting

/-- Where a task stands: before `check_and_reload`, before `get_config`, before the store under the lock, and before
`config_check_in_progress_` is cleared. -/
inductive TaskPhase (κ : Type) where
  | checking
  | loaded
  | storing (snapshot : Snapshot κ)
  | clearing

/-- `current` is the configuration of the manager, `queued` the number of tasks in the queue of the pool and `tasks` those
that its workers are at. `loaded` and `applied` record what was loaded and applied, in order. -/
structure HandOff (κ : Type) where
  current : Snapshot κ
  pending : Option (Snapshot κ) := none
  inProgress : Bool := false
  tick : TickPhase κ := .rest
  queued : Nat := 0
  tasks : List (TaskPhase κ) := []
  draining : Bool := false
  stopping : Bool := false
  loaded : List (Snapshot κ)
  applied : List (Snapshot κ)

namespace HandOff
variable {κ : Type}

/-- The first configuration is put into effect by `initialize_from_config`. -/
def initial (config : κ) : HandOff κ where
  current := ⟨0, config⟩
  loaded := [⟨0, config⟩]
  applied := [⟨0, config⟩]

variable (handOff : HandOff κ)

def isLocked : Bool :=
  match handOff.tick with
  | .applying _ | .resetting => true
  | _ => false

/-- The next step of the periodic callback, as far as it is about the configuration. -/
def react : HandOff κ :=
  match handOff.tick with
  | .rest => if handOff.draining then handOff else { handOff with tick := .entered }
  | .entered =>
    match handOff.pending with
    | some snapshot => { handOff with tick := .applying snapshot }
    | none => { handOff with tick := .testing }
  | .applying snapshot => { handOff with applied := handOff.applied ++ [snapshot], tick := .resetting }
  | .resetting => { handOff with pending := none, tick := .testing }
  | .testing => { handOff with tick := if handOff.inProgress then .rest else .setting }
  | .setting => { handOff with inProgress := true, tick := .posting }
  | .posting =>
      -- a pool that is stopping drops what is posted
      { handOff with queued := if handOff.stopping then handOff.queued else handOff.queued + 1, tick := .rest }

def take : HandOff κ :=
  match handOff.queued with
  | 0 => handOff
  | queued + 1 => { handOff with queued := queued, tasks := handOff.tasks ++ [.checking] }

/-- The next step of one of the tasks; `found` is what `check_and_reload` finds, if it finds anything. -/
def work (index : Nat) (found : Option κ) : HandOff κ :=
  match handOff.tasks[index]? with
  | none => handOff
  | some .checking =>
    match found with
    | none => { handOff with tasks := handOff.tasks.set index .clearing }
    | some config =>
      let snapshot : Snapshot κ := ⟨handOff.loaded.length, config⟩
      { handOff with
        current := snapshot
        loaded := handOff.loaded ++ [snapshot]
        tasks := handOff.tasks.set index .loaded }
  | some .loaded => { handOff with tasks := handOff.tasks.set index (.storing handOff.current) }
  | some (.storing snapshot) =>
      if handOff.isLocked then handOff
      else { handOff with pending := some snapshot, tasks := handOff.tasks.set index .clearing }
  | some .clearing => { handOff with inProgress := false, tasks := handOff.tasks.eraseIdx index }

end HandOff

inductive HandOffMove (κ : Type) where
  | react
  | take
  | work (index : Nat) (found : Option κ)
  | drain
  | stop

def HandOff.move {κ : Type} (handOff : HandOff κ) : HandOffMove κ → HandOff κ
  | .react => handOff.react
  | .take => handOff.take
  | .work index found => handOff.work index found
  | .drain => { handOff with draining := true }
  | .stop => { handOff with stopping := true }

end Balancer.Core
