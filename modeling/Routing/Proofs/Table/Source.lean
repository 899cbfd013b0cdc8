import Routing.Application
import Routing.Proofs.Controller.Faults
import Routing.Proofs.Directive.Lines

/-!
# What a table is built from

A router reads its routes file and keeps the lines that say something, which are then numbered among
themselves: `run_directives`.  If its table is not built, it makes one attempt, which is this
reading and what comes after it.  All that comes after is quiet: whatever an attempt warns of, and
whichever line its fault names, comes from the reading (`mem_events_entries_iff`,
`result_entries_eq_error_iff`).
-/

namespace Routing

/-- Whether an event is a warning. -/
def Event.IsWarning (event : Event) : Prop := ∃ message, event = .logged .warning message

namespace Application

/-- The text of the routes file, as a router reads it. -/
def routesText (app : Application) : Except Fault Text := do
  let path ← app.router.routesLocation
  RoutesFile.readText app.files path.text path

/-- A router reads the kept lines of its routes file. -/
theorem run_directives {app : Application} {text : Text} (h : app.routesText = .ok text) :
    directives.run app = (Directive.ofLines (Directive.kept text)).run app := by
  unfold routesText at h
  cases hp : app.router.routesLocation with
  | error fault => simp [hp, bind, Except.bind] at h
  | ok path =>
    have ht : RoutesFile.readText app.files path.text path = .ok text := by
      simpa [hp, bind, Except.bind] using h
    have hl : RoutesFile.readLines app.files path.text path = .ok (Directive.kept text) := by
      unfold RoutesFile.readLines
      rw [ht]
      rfl
    unfold directives
    simp only [Step.run_bind, Step.run_read, Outcome.andThen_ok, hp, hl, Step.ofExcept,
      Step.run_pure, List.nil_append]

/-- A router of default options, with a routes file and with controllers in files of their own. -/
def withRoutes (routes : Text) (controllers : List (Text × Source)) : Application :=
  let home : Text := "/srv"
  let nodes : List (List Text × Node) :=
    [(["config"], .directory), (["config", "routes.conf"], .file (.text routes)),
      (["app"], .directory), (["app", "controllers"], .directory)]
  let files : List (List Text × Node) := controllers.map fun c =>
    (["app", "controllers", c.1 ++ ".py".toList], .file (.controller c.2))
  { files := ⟨Path.ofText home, nodes ++ files⟩
    registry := .initial
    hosts := []
    clock := .ofReadings []
    isHeard := false
    router := {
      options := .default home
      root := Path.ofText home
      controllers := .ofBase ((Path.ofText home).joinText "app/controllers/")
      table := none
      pluggable := true
      plugins := []
      store := [] } }

/-! ### One attempt -/

/-- What is reported of a table once it is built. -/
def builtMessage (entries : List Entry) : Text :=
  "Route table built with ".toList ++ Text.ofNat entries.length ++ " entries".toList

/-- Keeps the entries of an attempt that went well. -/
def keep (es : List Entry) : Step Application (List Entry) := do
  Step.modify (tablePart.set (some es))
  Step.log .debug (builtMessage es)
  pure es

/-- What an attempt makes of the directives that it has read. -/
def finish (ds : List Directive) : Step Application (List Entry) := do
  let es ← Step.flatMapList expandLine ds
  Step.forEach tellAll es
  keep es

/-- A router whose table is not built makes one attempt. -/
theorem run_entries_of_unbuilt {app : Application} (hn : app.router.table = none) :
    entries.run app = (directives >>= finish).run app := by
  have hn : tablePart.get app = none := hn
  have he : entries.run app = (recipe.entries >>= keep).run app := by
    unfold entries Table.access
    simp only [Step.run_bind, Step.run_read, Outcome.andThen_ok, hn, List.nil_append]
    rfl
  rw [he]
  unfold Table.Recipe.entries
  simp only [Step.bind_assoc]
  rfl

theorem run_keep (es : List Entry) (s : Application) : (keep es).run s =
    ⟨[.logged .debug (builtMessage es)], tablePart.set (some es) s, .ok es⟩ := rfl

/-! ### What comes after the reading -/

/-- A step that reports no warning and whose fault names no line. -/
abbrev Quiet {σ α : Type} (x : Step σ α) : Prop :=
  Step.Within (fun event => ¬ event.IsWarning) (fun fault => fault.lineNumber? = none) x

theorem quiet_log {σ : Type} {level : Level} (h : level ≠ .warning) (message : Text) :
    Quiet (Step.log level message : Step σ Unit) := by
  refine Step.within_log ?_
  rintro ⟨m, hm⟩
  simp only [Event.logged.injEq] at hm
  exact h hm.1

theorem quiet_fetch (t : FileTree) (name : Text) : Quiet (ControllerCache.fetch t name) := by
  unfold ControllerCache.fetch
  refine Step.within_read.bind fun cache => ?_
  split
  · exact Step.within_pure _
  · refine (Step.within_ofExcept (ControllerCache.namesNoLine_execute _ _ _ _)).bind fun p => ?_
    exact (quiet_log (by decide) _).bind fun _ => (Step.within_modify _).bind fun _ =>
      Step.within_pure _

theorem quiet_expandWildcard (x : Expander) (t : FileTree) (w : Wildcard) :
    Quiet (x.expandWildcard t w) := by
  unfold Expander.expandWildcard
  refine (quiet_fetch t w.controller).bind fun m => ?_
  refine (Step.within_ofExcept m.namesNoLine_exports).bind fun names => ?_
  have hw : NamesNoLine (x.wildcardEntries w names) :=
    FailsWithin.mapM (fun _ => Entry.namesNoLine_ofCallable _ _ _ _) names
  refine (Step.within_ofExcept hw).bind fun es => ?_
  exact (quiet_log (by decide) _).bind fun _ => Step.within_pure es

theorem quiet_expand (x : Expander) (t : FileTree) (verb path target : Text) :
    Quiet (x.expand t verb path target) := by
  unfold Expander.expand
  refine (Step.within_ofExcept (Target.namesNoLine_ofText? _ _)).bind fun result => ?_
  split
  · exact Step.within_fail rfl
  · refine (Step.within_ofExcept ?_).bind fun entry => Step.within_pure [entry]
    exact Entry.namesNoLine_ofDirectory _ _ _
  · exact quiet_expandWildcard x t _
  · refine (Step.within_ofExcept ?_).bind fun entry => Step.within_pure [entry]
    exact Entry.namesNoLine_ofCallable _ _ _ _

theorem quiet_expandLine (d : Directive) : Quiet (expandLine d) :=
  Step.within_read.bind fun app =>
    (quiet_expand app.router.expander app.files d.verb d.path d.target).on cachePart

theorem namesNoLine_notify (base : Settings) (entry : Entry) (p : Plugin) :
    NamesNoLine (p.notify base entry) := by
  unfold Plugin.notify
  split
  · exact .error rfl
  · exact .ok _

theorem quiet_tell (name : Text) (entry : Entry) : Quiet (tell name entry) := by
  unfold tell
  refine Step.within_read.bind fun app => ?_
  dsimp only
  split
  · exact Step.within_pure _
  · refine (Step.within_ofExcept (namesNoLine_notify _ _ _)).bind fun _ => ?_
    exact Step.within_modify _

theorem quiet_tellAll (entry : Entry) : Quiet (tellAll entry) :=
  Step.within_read.bind fun _ =>
    Step.within_forEach (fun p : Plugin => quiet_tell p.name entry) _

theorem quiet_keep (es : List Entry) : Quiet (keep es) :=
  (Step.within_modify _).bind fun _ =>
    (quiet_log (by decide) _).bind fun _ => Step.within_pure _

theorem quiet_finish (ds : List Directive) : Quiet (finish ds) :=
  (Step.within_flatMapList quiet_expandLine ds).bind fun es =>
    (Step.within_forEach quiet_tellAll es).bind fun _ => quiet_keep es

/-- A step with quiet ones after it reports the warnings that it reports by itself. -/
theorem mem_events_bind_iff {σ α β : Type} {x : Step σ α} {f : α → Step σ β}
    (hf : ∀ a, Quiet (f a)) {s : σ} {event : Event} (he : event.IsWarning) :
    event ∈ ((x >>= f).run s).events ↔ event ∈ (x.run s).events := by
  rw [Step.run_bind]
  rcases x.run s with ⟨first, s', fault | a⟩
  · exact Iff.rfl
  · rw [Outcome.andThen_ok, List.mem_append]
    exact or_iff_left fun h => (hf a s').1 event h he

/-- A step with quiet ones after it names the line that it names by itself. -/
theorem result_bind_eq_error_iff {σ α β : Type} {x : Step σ α} {f : α → Step σ β}
    (hf : ∀ a, Quiet (f a)) {s : σ} {fault : Fault} (hn : fault.lineNumber? ≠ none) :
    ((x >>= f).run s).result = .error fault ↔ (x.run s).result = .error fault := by
  rw [Step.run_bind]
  rcases x.run s with ⟨first, s', fault' | a⟩
  · simp
  · constructor
    · exact fun h => absurd ((hf a s').2 fault h) hn
    · exact fun h => nomatch h

/-- All warnings of an attempt come from reading the routes file. -/
theorem mem_events_entries_iff {app : Application} (hn : app.router.table = none) {event : Event}
    (he : event.IsWarning) :
    event ∈ (entries.run app).events ↔ event ∈ (directives.run app).events := by
  rw [run_entries_of_unbuilt hn]
  exact mem_events_bind_iff quiet_finish he

/-- All faults of an attempt that name a line come from reading the routes file. -/
theorem result_entries_eq_error_iff {app : Application} (hn : app.router.table = none)
    {fault : Fault} (hf : fault.lineNumber? ≠ none) :
    (entries.run app).result = .error fault ↔ (directives.run app).result = .error fault := by
  rw [run_entries_of_unbuilt hn]
  exact result_bind_eq_error_iff quiet_finish hf

end Application

end Routing
