import Routing.Proofs.Directive.Lines
import Routing.Proofs.Table.Delivery
import Routing.Watch

/-!
# What a watcher hears

The watcher of a table is told of the entries of each attempt until it refuses one.  It refuses
before it records, so it has recorded the entries before the refused one.  Between attempts the lines,
the files and what it refuses can change: `delivers_perform`.
-/

namespace Routing.Watch

/-- Something that is asked of a watched table, or done to it. -/
inductive Call where
  | entries
  | endpointsOf (action : Text)
  | setLines (lines : List Text)
  | refuse (refusal? : Entry → Option Text)
  | rewrite (files : FileTree)

/-- What a call does. -/
def Call.perform : Call → Step Watch Unit
  | .entries => do let _ ← Watch.entries
  | .endpointsOf action => do let _ ← Watch.endpointsOf action
  | .setLines lines => Watch.setLines lines
  | .refuse refusal? => Watch.refuse refusal?
  | .rewrite files => Step.modify fun w => { w with files }

/-- The table after some calls. -/
def after (calls : List Call) (w : Watch) : Watch := Step.after (calls.map Call.perform) w

/-- The watcher, who is the only one to be told of entries. -/
def audience (w : Watch) : Table.Audience where
  refusal? := w.refusal?
  hearsRefused _ := false

/-- Nothing differs but the controllers that are loaded. -/
def Loads (w w' : Watch) : Prop := ∃ cache, w' = cachePart.set cache w

theorem loads_refl (w : Watch) : Loads w w := ⟨w.controllers, rfl⟩

theorem loads_trans (w w' w'' : Watch) (h : Loads w w') (h' : Loads w' w'') : Loads w w'' := by
  obtain ⟨_, rfl⟩ := h
  obtain ⟨cache, rfl⟩ := h'
  exact ⟨cache, rfl⟩

/-- Reading the lines changes nothing. -/
theorem reads_directives : Step.Reads directives := by
  have hemit : Step.Reads (Step.emit .sourceRead : Step Watch Unit) := fun _ => rfl
  refine hemit.bind fun _ => Step.reads_read.bind fun w w' => ?_
  rw [Directive.state_ofLines]

theorem loads_of_compile : Step.Moves Loads recipe.compile := by
  have hread : Step.Moves Loads directives := reads_directives.moves loads_refl
  have hexpand : ∀ d, Step.Moves Loads (expandLine d) := fun d =>
    (Step.moves_read loads_refl).bind loads_trans fun w w' => ⟨_, rfl⟩
  exact hread.bind loads_trans fun ds => Step.moves_flatMapList loads_refl loads_trans hexpand ds

theorem run_tell {w : Watch} (hw : w.isWatched = true) (e : Entry) : (tell e).run w =
    match w.refusal? e with
    | some message => ⟨[], w, .error (.entryRejected message)⟩
    | none => ⟨[], { w with seen := w.seen ++ [e] }, .ok ()⟩ := by
  have hn : ¬ (!w.isWatched) = true := by simp [hw]
  unfold tell
  simp only [Step.run_bind, Step.run_read, Outcome.andThen_ok, if_neg hn]
  cases w.refusal? e <;> rfl

/-- A watched table is built under its watcher. -/
theorem attended_entries :
    Table.Attended tablePart recipe (fun w => w.isWatched = true) seen audience where
  compile {w} hw := by
    obtain ⟨cache, hs⟩ := loads_of_compile w
    rw [hs]
    exact ⟨hw, rfl, rfl, rfl⟩
  announce {w} e hw := by
    have hrun : (recipe.announce e).run w = (tell e).run w := rfl
    rw [hrun, run_tell hw, Table.Audience.verdict_singleton]
    unfold Table.Audience.told audience
    dsimp only
    cases w.refusal? e with
    | some message => exact ⟨hw, rfl, rfl, (List.append_nil _).symm, rfl⟩
    | none => exact ⟨hw, rfl, rfl, rfl, rfl⟩
  keep t hw := ⟨hw, rfl, rfl⟩

/-- Whatever is asked of a watched table, the watcher hears of entries when one is built. -/
theorem delivers_perform (c : Call) :
    Table.Delivers tablePart (fun w => w.isWatched = true) seen c.perform := by
  have hdone : ∀ u : Unit,
      Table.Delivers tablePart (fun w : Watch => w.isWatched = true) seen
        (pure u : Step Watch Unit) :=
    fun u => Table.delivers_of_moves (Step.moves_pure (Table.untouched_refl _ _ _) u)
  cases c with
  | entries => exact attended_entries.delivers_access.bind fun _ => hdone ()
  | endpointsOf action =>
    have hw : Table.Delivers tablePart (fun w => w.isWatched = true) seen
        (Table.walk tablePart recipe) := attended_entries.delivers_access.mapFault fun fault hf => by
      obtain ⟨message, rfl⟩ := hf
      exact ⟨message, rfl⟩
    refine Table.Delivers.bind ?_ fun _ => hdone ()
    exact hw.bind fun _ => Table.delivers_of_moves (Step.moves_pure (Table.untouched_refl _ _ _) _)
  | setLines lines => exact Table.delivers_of_moves fun w hw => ⟨hw, rfl, rfl⟩
  | refuse refusal? => exact Table.delivers_of_moves fun w hw => ⟨hw, rfl, rfl⟩
  | rewrite files => exact Table.delivers_of_moves fun w hw => ⟨hw, rfl, rfl⟩

end Routing.Watch
