import Balancer.Core.Watching
import Balancer.Foundation.Run
import Balancer.Guarantees.FreshLoad

/-! Whether an edit of the configuration file is ever missed. The time of a file is read after
its text, so that an edit in between gives the old text the new time. -/

namespace Balancer.Guarantees
open Foundation Http Core

namespace Watching

section Steps
variable {ν : Type} {yaml : Yaml ν} {path : ConfigPath} {watcher : Watcher yaml path} {manager : ConfigManager}
  {text : yaml.Loadable path.1}

/-- The manager has loaded this text last. -/
def Loaded (manager : ConfigManager) (text : yaml.Loadable path.1) : Prop :=
  ∃ (previous : ConfigManager) (mtime : Nat), previous.loadFromFile yaml path.1 text.1 mtime = (true, manager)

/-- The configuration in force was loaded from the text that is in the file. -/
def Current (watcher : Watcher yaml path) : Prop := Loaded watcher.manager watcher.text

/-- An edit to this text now falls between the reading of another text and that of the time. -/
def Missed (watcher : Watcher yaml path) (text : yaml.Loadable path.1) : Prop :=
  match watcher.phase with
  | .parsed read _ => read ≠ text
  | .unwatched => watcher.manager.source ≠ some text.1
  | _ => False

/-- What the thread has found out so far is consistent. -/
structure Consistent (watcher : Watcher yaml path) : Prop where
  time : watcher.manager.lastModifiedTime ≤ watcher.mtime
  loaded : match watcher.phase with
    | .starting | .parsed _ true => True
    | _ => ∃ text : yaml.Loadable path.1, Loaded watcher.manager text

/-- The text of the file is in force, or the thread will come to it. -/
def OnTrack (watcher : Watcher yaml path) : Prop :=
  match watcher.phase with
  | .starting => True
  | .parsed text _ => text = watcher.text
  | .unwatched => Loaded watcher.manager watcher.text
  | .idle | .outdated => Loaded watcher.manager watcher.text ∨ watcher.manager.lastModifiedTime < watcher.mtime

/-- Another text than that of the file is in force, and the thread will not come to the file again. -/
def Astray (watcher : Watcher yaml path) : Prop :=
  match watcher.phase with
  | .parsed text _ => text ≠ watcher.text
  | .unwatched => watcher.manager.source ≠ some watcher.text.1
  | .idle => watcher.manager.source ≠ some watcher.text.1 ∧ watcher.mtime ≤ watcher.manager.lastModifiedTime
  | _ => False

/-- A text that can be loaded is loaded, with the time that the file has by then. -/
theorem loadFromFile_loadable (manager : ConfigManager) (text : yaml.Loadable path.1) (mtime : Nat) :
    (manager.loadFromFile yaml path.1 text.1 mtime).1 = true ∧
      (manager.loadFromFile yaml path.1 text.1 mtime).2.lastModifiedTime = mtime ∧
      Loaded (manager.loadFromFile yaml path.1 text.1 mtime).2 text := by
  have succeeds : (manager.loadFromFile yaml path.1 text.1 mtime).1 = true ∧
      (manager.loadFromFile yaml path.1 text.1 mtime).2.lastModifiedTime = mtime := by
    obtain ⟨patch, valid⟩ := Option.isSome_iff_exists.mp text.2
    unfold ConfigManager.loadFromFile
    rw [valid]
    exact ⟨rfl, rfl⟩
  exact ⟨succeeds.1, succeeds.2, manager, mtime, Prod.ext succeeds.1 rfl⟩

theorem Loaded.spec (loaded : Loaded manager text) : manager.source = some text.1 ∧ manager.configPath = path.1 := by
  obtain ⟨previous, mtime, result⟩ := loaded
  obtain ⟨patch, valid⟩ := Option.isSome_iff_exists.mp text.2
  unfold ConfigManager.loadFromFile at result
  rw [valid] at result
  cases result
  exact ⟨rfl, rfl⟩

/-- The text that was loaded is the one the manager remembers. -/
theorem Loaded.of_source (loaded : Loaded manager text) {other : yaml.Loadable path.1}
    (same : manager.source = some other.1) : Loaded manager other := by
  have texts : text = other := Subtype.ext (Option.some.inj (loaded.spec.1.symm.trans same))
  exact texts ▸ loaded

/-- The watcher takes only the time. -/
theorem Loaded.watched (loaded : Loaded manager text) (mtime : Nat) :
    Loaded (manager.startReloadWatcher mtime) text ∧ (manager.startReloadWatcher mtime).lastModifiedTime = mtime ∧
      (manager.startReloadWatcher mtime).source = manager.source := by
  have named : manager.configPath ≠ [] := by
    rw [loaded.spec.2]
    exact path.2
  unfold ConfigManager.startReloadWatcher
  rw [if_neg named]
  obtain ⟨previous, _, result⟩ := loaded
  obtain ⟨patch, valid⟩ := Option.isSome_iff_exists.mp text.2
  refine ⟨⟨previous, mtime, ?_⟩, rfl, rfl⟩
  unfold ConfigManager.loadFromFile at result ⊢
  rw [valid] at result ⊢
  cases result
  rfl

theorem Loaded.isOutdated_iff (loaded : Loaded manager text) (mtime : Nat) :
    manager.isOutdated mtime = true ↔ manager.lastModifiedTime < mtime := by
  have named : manager.configPath ≠ [] := by
    rw [loaded.spec.2]
    exact path.2
  simp [ConfigManager.isOutdated, named]

theorem proceed_consistent (consistent : Consistent watcher) : Consistent watcher.proceed := by
  obtain ⟨time, loaded⟩ := consistent
  obtain ⟨text, mtime, manager, phase⟩ := watcher
  unfold Watcher.proceed
  cases phase with
  | starting => exact ⟨time, trivial⟩
  | parsed read first =>
    obtain ⟨succeeds, stamped, result⟩ := loadFromFile_loadable manager read mtime
    refine ⟨stamped.le, ?_⟩
    cases first with
    | true =>
      simp only [succeeds]
      exact ⟨read, result⟩
    | false => exact ⟨read, result⟩
  | unwatched =>
    obtain ⟨read, result⟩ := loaded
    obtain ⟨still, stamped, _⟩ := result.watched mtime
    exact ⟨stamped.le, read, still⟩
  | idle =>
    dsimp only
    split <;> exact ⟨time, loaded⟩
  | outdated => exact ⟨time, loaded⟩

theorem proceed_onTrack (consistent : Consistent watcher) (onTrack : OnTrack watcher) : OnTrack watcher.proceed := by
  obtain ⟨_, loaded⟩ := consistent
  obtain ⟨text, mtime, manager, phase⟩ := watcher
  unfold Watcher.proceed
  cases phase with
  | starting => rfl
  | parsed read first =>
    have same : read = text := onTrack
    subst same
    obtain ⟨succeeds, _, result⟩ := loadFromFile_loadable manager read mtime
    cases first with
    | true =>
      simp only [succeeds]
      exact result
    | false => exact Or.inl result
  | unwatched => exact Or.inl (Loaded.watched onTrack mtime).1
  | idle =>
    dsimp only
    split <;> exact onTrack
  | outdated => rfl

theorem proceed_astray (consistent : Consistent watcher) (astray : Astray watcher) : Astray watcher.proceed := by
  obtain ⟨_, loaded⟩ := consistent
  obtain ⟨text, mtime, manager, phase⟩ := watcher
  unfold Watcher.proceed
  cases phase with
  | starting => exact astray.elim
  | parsed read first =>
    obtain ⟨succeeds, stamped, result⟩ := loadFromFile_loadable manager read mtime
    have other : (manager.loadFromFile yaml path.1 read.1 mtime).2.source ≠ some text.1 := by
      rw [result.spec.1]
      exact fun same => astray (Subtype.ext (Option.some.inj same))
    cases first with
    | true =>
      simp only [succeeds]
      exact other
    | false => exact ⟨other, stamped.ge⟩
  | unwatched =>
    obtain ⟨read, result⟩ := loaded
    obtain ⟨_, stamped, source⟩ := result.watched mtime
    exact ⟨source ▸ astray, stamped.ge⟩
  | idle =>
    obtain ⟨read, result⟩ := loaded
    have upToDate : ¬manager.isOutdated mtime = true := by
      rw [result.isOutdated_iff]
      exact Nat.not_lt.mpr astray.2
    dsimp only
    rw [if_neg upToDate]
    exact astray
  | outdated => exact astray.elim

theorem edit_consistent (consistent : Consistent watcher) (text : yaml.Loadable path.1) (later : Nat) :
    Consistent (watcher.edit text later) := by
  obtain ⟨time, loaded⟩ := consistent
  refine ⟨?_, loaded⟩
  change watcher.manager.lastModifiedTime ≤ watcher.mtime + 1 + later
  omega

/-- An edit that is not missed sets everything right, since it has a newer time than any the thread has seen. -/
theorem edit_onTrack (consistent : Consistent watcher) {text : yaml.Loadable path.1} (seen : ¬Missed watcher text)
    (later : Nat) : OnTrack (watcher.edit text later) := by
  obtain ⟨time, loaded⟩ := consistent
  obtain ⟨before, mtime, manager, phase⟩ := watcher
  have newer : manager.lastModifiedTime < mtime + 1 + later := by
    change manager.lastModifiedTime ≤ mtime at time
    omega
  cases phase with
  | starting => trivial
  | parsed read first => exact Classical.not_not.mp seen
  | unwatched =>
    obtain ⟨read, result⟩ := loaded
    exact result.of_source (Classical.not_not.mp seen)
  | idle => exact Or.inr newer
  | outdated => exact Or.inr newer

theorem edit_astray {text : yaml.Loadable path.1} (missed : Missed watcher text) (later : Nat) :
    Astray (watcher.edit text later) := by
  obtain ⟨before, mtime, manager, phase⟩ := watcher
  cases phase with
  | starting => exact missed.elim
  | parsed read first => exact missed
  | unwatched => exact missed
  | idle => exact missed.elim
  | outdated => exact missed.elim

/-- What a step of the thread keeps is kept until it is idle. -/
theorem finish_keeps {holds : Watcher yaml path → Prop} (keeps : ∀ watcher, holds watcher → holds watcher.proceed) (fuel : Nat)
    {watcher : Watcher yaml path} (begins : holds watcher) : holds (watcher.finish fuel) := by
  induction fuel generalizing watcher with
  | zero => exact begins
  | succ fuel ih =>
    unfold Watcher.finish
    split
    · exact begins
    · exact ih (keeps watcher begins)

/-- What has been begun takes three steps at most, and a loading that is not the first takes two. -/
theorem finish_idle (watcher : Watcher yaml path) : (watcher.finish 3).isIdle = true ∧
    (watcher.phase = .outdated ∨ watcher.phase = .idle → (watcher.finish 2).isIdle = true) := by
  obtain ⟨text, mtime, manager, phase⟩ := watcher
  cases phase with
  | idle => exact ⟨rfl, fun _ => rfl⟩
  | unwatched => exact ⟨rfl, by simp⟩
  | outdated => exact ⟨rfl, fun _ => rfl⟩
  | starting =>
    have succeeds := (loadFromFile_loadable manager text mtime).1
    simp [Watcher.finish, Watcher.proceed, Watcher.isIdle, succeeds]
  | parsed read first =>
    have succeeds := (loadFromFile_loadable manager read mtime).1
    cases first <;> simp [Watcher.finish, Watcher.proceed, Watcher.isIdle, succeeds]

end Steps

section Runs
variable {ν : Type} {yaml : Yaml ν} {path : ConfigPath}

/-- The file and its manager after some moves, from the start of the program. -/
def watched (text : yaml.Loadable path.1) (mtime : Nat) (moves : List (WatchMove yaml path)) : Watcher yaml path :=
  run Watcher.move { text := text, mtime := mtime } moves

/-- Nobody edits the file any more, and one more check has run to completion. -/
def settled (watcher : Watcher yaml path) : Watcher yaml path := (watcher.finish 3).checkAndReload

theorem watched_consistent (text : yaml.Loadable path.1) (mtime : Nat) (moves : List (WatchMove yaml path)) :
    Consistent (watched text mtime moves) := by
  refine run_invariant ⟨Nat.zero_le mtime, trivial⟩ (fun watcher move consistent => ?_) moves
  cases move with
  | edit text later => exact edit_consistent consistent text later
  | proceed => exact proceed_consistent consistent

/-- A check finds the text of the file, or it has nothing to find. -/
theorem settled_current {watcher : Watcher yaml path} (consistent : Consistent watcher) (onTrack : OnTrack watcher) :
    Current (settled watcher) := by
  have both := @finish_keeps _ yaml path (fun watcher => Consistent watcher ∧ OnTrack watcher)
    (fun _ both => ⟨proceed_consistent both.1, proceed_onTrack both.1 both.2⟩)
  have rests := (finish_idle watcher).1
  have before := both 3 ⟨consistent, onTrack⟩
  unfold settled
  generalize watcher.finish 3 = rested at rests before
  obtain ⟨text, mtime, manager, phase⟩ := rested
  cases phase with
  | idle =>
    obtain ⟨⟨time, read, loaded⟩, onTrack⟩ := before
    unfold Watcher.checkAndReload Watcher.proceed
    dsimp only
    split
    case isTrue =>
      have done := (loadFromFile_loadable manager text mtime)
      simp only [Watcher.finish, Watcher.proceed, Watcher.isIdle, Bool.false_eq_true, if_false]
      exact done.2.2
    case isFalse upToDate =>
      rw [loaded.isOutdated_iff] at upToDate
      exact onTrack.resolve_right upToDate
  | starting => cases rests
  | parsed => cases rests
  | unwatched => cases rests
  | outdated => cases rests

theorem settled_astray {watcher : Watcher yaml path} (consistent : Consistent watcher) (astray : Astray watcher) :
    ¬Current (settled watcher) := by
  have both := @finish_keeps _ yaml path (fun watcher => Consistent watcher ∧ Astray watcher)
    (fun _ both => ⟨proceed_consistent both.1, proceed_astray both.1 both.2⟩)
  have rests := (finish_idle watcher).1
  have before := both 3 ⟨consistent, astray⟩
  unfold settled
  generalize watcher.finish 3 = rested at rests before
  obtain ⟨text, mtime, manager, phase⟩ := rested
  cases phase with
  | idle =>
    obtain ⟨⟨time, read, loaded⟩, other, late⟩ := before
    have upToDate : ¬manager.isOutdated mtime = true := by
      rw [loaded.isOutdated_iff]
      exact Nat.not_lt.mpr late
    unfold Watcher.checkAndReload Watcher.proceed
    dsimp only
    rw [if_neg upToDate]
    exact fun current => other current.spec.1
  | starting => cases rests
  | parsed => cases rests
  | unwatched => cases rests
  | outdated => cases rests

/-- After the steps of the thread alone. -/
theorem proceeds_keep {holds : Watcher yaml path → Prop} (keeps : ∀ watcher, holds watcher → holds watcher.proceed)
    {watcher : Watcher yaml path} (begins : holds watcher) (count : Nat) :
    holds (run Watcher.move watcher (List.replicate count .proceed)) := by
  induction count with
  | zero => exact begins
  | succ count ih =>
    rw [List.replicate_succ', run_append]
    exact keeps _ ih

/-- A run is without edits, or there is a last one. -/
theorem last_edit (moves : List (WatchMove yaml path)) : moves = List.replicate moves.length .proceed ∨
    ∃ before text later count, moves = before ++ .edit text later :: List.replicate count .proceed := by
  induction moves using List.reverseRecOn with
  | nil => exact Or.inl rfl
  | append_singleton moves move ih =>
    cases move with
    | edit text later => exact Or.inr ⟨moves, text, later, 0, rfl⟩
    | proceed =>
      rcases ih with same | ⟨before, text, later, count, same⟩
      · refine Or.inl ?_
        rw [List.length_append, List.length_singleton, List.replicate_succ', ← same]
      · refine Or.inr ⟨before, text, later, count + 1, ?_⟩
        rw [List.replicate_succ', same]
        simp

theorem watched_append (text : yaml.Loadable path.1) (mtime : Nat) (before after : List (WatchMove yaml path)) :
    watched text mtime (before ++ after) = run Watcher.move (watched text mtime before) after := by
  simp [watched, run]

/-- Once the edits have stopped, one more check leaves the manager with what was written last, exactly when the last edit
did not fall between the reading of another text and that of the file's time. -/
theorem edit_found_iff (yaml : Yaml ν) (path : ConfigPath) (text : yaml.Loadable path.1) (mtime : Nat)
    (moves : List (WatchMove yaml path)) :
    Current (settled (watched text mtime moves)) ↔
      ∀ before last later count, moves = before ++ .edit last later :: List.replicate count .proceed →
        ¬Missed (watched text mtime before) last := by
  have consistent := watched_consistent text mtime moves
  -- what holds after the last edit is kept by the steps after it
  have ends (before : List (WatchMove yaml path)) (last : yaml.Loadable path.1) (later count : Nat)
      (split : moves = before ++ .edit last later :: List.replicate count .proceed)
      {holds : Watcher yaml path → Prop} (keeps : ∀ watcher, Consistent watcher → holds watcher → holds watcher.proceed)
      (edited : holds ((watched text mtime before).edit last later)) : holds (watched text mtime moves) := by
    have begins := edit_consistent (watched_consistent text mtime before) last later
    have both := @proceeds_keep _ yaml path (fun watcher => Consistent watcher ∧ holds watcher)
      (fun _ both => ⟨proceed_consistent both.1, keeps _ both.1 both.2⟩) _ ⟨begins, edited⟩ count
    rw [split, watched_append]
    exact both.2
  constructor
  · rintro current before last later count split missed
    exact settled_astray consistent
      (ends before last later count split (fun _ => proceed_astray) (edit_astray missed later)) current
  · intro seen
    refine settled_current consistent ?_
    rcases last_edit moves with none | ⟨before, last, later, count, split⟩
    · have both := @proceeds_keep _ yaml path (fun watcher => Consistent watcher ∧ OnTrack watcher)
        (fun _ both => ⟨proceed_consistent both.1, proceed_onTrack both.1 both.2⟩)
        { text := text, mtime := mtime } ⟨⟨Nat.zero_le mtime, trivial⟩, trivial⟩ moves.length
      rw [none]
      exact both.2
    · have found := edit_onTrack (watched_consistent text mtime before) (seen before last later count split) later
      exact ends before last later count split (fun _ => proceed_onTrack) found

/-- The file of the sample is edited while `load_from_file` has read it and not yet its time. -/
theorem edit_missed : ¬∀ (ν : Type) (yaml : Yaml ν) (path : ConfigPath) (text : yaml.Loadable path.1) (mtime : Nat)
    (moves : List (WatchMove yaml path)), Current (settled (watched text mtime moves)) := by
  intro always
  let path : ConfigPath := ⟨ascii "config.yaml", by decide⟩
  have reads (text : Bytes) (root : Tree) (parsed : sampleParse text = some root)
      (readable : ∀ field ∈ Field.all, (sampleYaml.readField path.1 root field).isSome) :
      (sampleYaml.document path.1 text).isSome := by
    rw [@document_of_reads _ sampleYaml path.1 text root parsed readable]
    rfl
  let before : sampleYaml.Loadable path.1 := ⟨filteredText, reads _ _ rfl (by decide +kernel)⟩
  let after : sampleYaml.Loadable path.1 := ⟨emptyText, reads _ _ rfl (by decide +kernel)⟩
  have current := always Tree sampleYaml path before 1 [.proceed, .edit after 0]
  refine (edit_found_iff sampleYaml path before 1 _).mp current [.proceed] after 0 0 rfl fun same => ?_
  have texts : filteredText = emptyText := congrArg Subtype.val same
  revert texts
  decide

end Runs

end Watching

end Balancer.Guarantees
