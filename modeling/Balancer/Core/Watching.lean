import Balancer.Core.ConfigManager

/-! The configuration file while it is edited, and the thread that loads it, step by step:
`main` loads it and starts the watcher, and `check_and_reload` is called again and again. A
text is read at one moment and the modification time at another. -/

namespace Balancer.Core
open Foundation Http

/-- Where the thread stands. -/
inductive WatchPhase (α : Type) where
  /-- `main` has not yet loaded the file. -/
  | starting
  /-- A text has been read and parsed and is not yet in force. -/
  | parsed (text : α) (first : Bool)
  /-- `start_reload_watcher` is to be called. -/
  | unwatched
  /-- Between two calls of `check_and_reload`. -/
  | idle
  /-- `check_and_reload` has found a newer time. -/
  | outdated

/-- The texts that can be loaded from a path. -/
def Yaml.Loadable {ν : Type} (yaml : Yaml ν) (path : Bytes) : Type :=
  { text : Bytes // (yaml.document path text).isSome }

/-- A configuration file has a name. -/
abbrev ConfigPath : Type := { path : Bytes // path ≠ [] }

/-- The file and its manager. -/
structure Watcher {ν : Type} (yaml : Yaml ν) (path : ConfigPath) where
  text : yaml.Loadable path.1
  mtime : Nat
  manager : ConfigManager := {}
  phase : WatchPhase (yaml.Loadable path.1) := .starting

/-- An edit, by which the time grows, or a step of the thread. -/
inductive WatchMove {ν : Type} (yaml : Yaml ν) (path : ConfigPath) where
  | edit (text : yaml.Loadable path.1) (later : Nat)
  | proceed

namespace Watcher
variable {ν : Type} {yaml : Yaml ν} {path : ConfigPath} (watcher : Watcher yaml path)

def isIdle : Bool :=
  match watcher.phase with
  | .idle => true
  | _ => false

/-- The file gets another text. -/
def edit (text : yaml.Loadable path.1) (later : Nat) : Watcher yaml path :=
  { watcher with text := text, mtime := watcher.mtime + 1 + later }

/-- The next step of the thread. -/
def proceed : Watcher yaml path :=
  match watcher.phase with
  | .starting => { watcher with phase := .parsed watcher.text true }
  | .parsed text first =>
      let loaded := watcher.manager.loadFromFile yaml path.1 text.1 watcher.mtime
      { watcher with manager := loaded.2, phase := if first && loaded.1 then .unwatched else .idle }
  | .unwatched => { watcher with manager := watcher.manager.startReloadWatcher watcher.mtime, phase := .idle }
  | .idle => if watcher.manager.isOutdated watcher.mtime then { watcher with phase := .outdated } else watcher
  | .outdated => { watcher with phase := .parsed watcher.text false }

def move : WatchMove yaml path → Watcher yaml path
  | .edit text later => watcher.edit text later
  | .proceed => watcher.proceed

/-- What has been begun is finished, in so many steps at most. -/
def finish : Nat → Watcher yaml path → Watcher yaml path
  | 0, watcher => watcher
  | fuel + 1, watcher => if watcher.isIdle then watcher else watcher.proceed.finish fuel

/-- `check_and_reload` from beginning to end, while nobody edits the file. -/
def checkAndReload : Watcher yaml path := watcher.proceed.finish 2

end Watcher

end Balancer.Core
