import Routing.Proofs.Expansion.Builds
import Routing.Proofs.Table.Announcing
import Routing.Proofs.Table.Source

/-!
# Compiling a routes file

One attempt at a table, from the text of the routes file on.  A short line is found before any line
is expanded; if there is none, the kept lines are expanded in their order, and the attempt ends with
what they build (`ends_entries_of_builds`) or where they stop (`ends_entries_of_stopsAt`).  Main
statement: `compiles_routes`.
-/

namespace Routing.Application

open Directive

variable {app : Application} {text : Text}

/-- What the lines of the routes file are expanded with, and where the controllers are. -/
def Builds (app : Application) (lines : List Text) (es : List Entry) (cache' : ControllerCache) :
    Prop :=
  app.router.expander.Builds app.files lines app.router.controllers es cache'

/-- Where expanding the lines of the routes file stops. -/
def StopsAt (app : Application) (before : List Text) (line : Text) (fault : Fault)
    (cache' : ControllerCache) : Prop :=
  app.router.expander.StopsAt app.files before line app.router.controllers fault cache'

/-- The application with other controllers loaded. -/
def withControllers (app : Application) (cache : ControllerCache) : Application :=
  cachePart.set cache app

/-! ### Reading -/

theorem numbered_kept (text : Text) : numbered (kept text) = numberFrom 1 (kept text) := by
  refine List.filter_eq_self.2 fun p hp => ?_
  have hm : p.2 ∈ kept text := by
    rw [← map_snd_numberFrom 1 (kept text)]
    exact List.mem_map_of_mem hp
  rw [kept_eq_filter] at hm
  exact (List.mem_filter.1 hm).2

theorem fields_length_of_mem_kept {line : Text} (h : ∀ line ∈ kept text, ¬ IsShort line)
    (hl : line ∈ kept text) : 3 ≤ (fields line).length := by
  have hs := h line hl
  rw [kept_eq_filter] at hl
  rw [isShort_iff, not_and, Nat.not_lt] at hs
  exact hs (by simpa using (List.mem_filter.1 hl).2)

theorem ends_directives (ht : app.routesText = .ok text)
    (h : ∀ line ∈ kept text, ¬ IsShort line) :
    Step.Ends directives app app (.ok ((numberFrom 1 (kept text)).filterMap directive?)) := by
  refine ⟨(numbered (kept text)).flatMap reports, ?_⟩
  rw [run_directives ht, run_ofLines_of_complete h, numbered_kept]

/-! ### Expanding -/

section Expanding

variable {cache cache' : ControllerCache} {ds : List Directive}

theorem run_expandLine {d : Directive} {events : List Event} {r : Except Fault (List Entry)}
    (h : (app.router.expander.expandDirective app.files d).run cache = ⟨events, cache', r⟩) :
    (expandLine d).run (app.withControllers cache) =
      ⟨events, app.withControllers cache', r⟩ := by
  have he : (expandLine d).run (app.withControllers cache) =
    (Step.on cachePart (app.router.expander.expandDirective app.files d)).run
      (app.withControllers cache) := rfl
  have hg : cachePart.get (app.withControllers cache) = cache := rfl
  rw [he]
  simp only [Step.on, hg, h]
  rfl

theorem passes_expandLine {events : List Event} {bss : List (List Entry)}
    (h : Step.Passes (app.router.expander.expandDirective app.files) cache ds events bss cache') :
    Step.Passes expandLine (app.withControllers cache) ds events bss
      (app.withControllers cache') := by
  induction h with
  | nil cache => exact .nil _
  | cons hd _ ih => exact .cons (run_expandLine hd) ih

/-- Expanding directives is a matter of the loaded controllers alone. -/
theorem ends_mapList_expandLine (app : Application) {r : Except Fault (List (List Entry))}
    (h : Step.Ends (Step.mapList (app.router.expander.expandDirective app.files) ds) cache cache'
      r) :
    Step.Ends (Step.mapList expandLine ds) (app.withControllers cache)
      (app.withControllers cache') r := by
  obtain ⟨events, h⟩ := h
  cases r with
  | ok bss =>
    have hp := passes_expandLine (Step.run_mapList_eq_ok_iff.1 h)
    exact ⟨events, Step.run_mapList_eq_ok_iff.2 hp⟩
  | error fault =>
    obtain ⟨before, d, after, first, last, bss, cache₁, rfl, hp, hd, rfl⟩ :=
      Step.run_mapList_eq_error_iff.1 h
    exact ⟨first ++ last, Step.run_mapList_eq_error_iff.2 ⟨before, d, after, first, last, bss,
      app.withControllers cache₁, rfl, passes_expandLine hp, run_expandLine hd, rfl⟩⟩

end Expanding

/-! ### Attempts -/

theorem ends_flatMapList_of_builds {es : List Entry} {cache' : ControllerCache}
    (hb : app.Builds (kept text) es cache') :
    Step.Ends (Step.flatMapList expandLine ((numberFrom 1 (kept text)).filterMap directive?)) app
      (app.withControllers cache') (.ok es) := by
  obtain ⟨bss, rfl, he⟩ := hb.ends 1
  exact (ends_mapList_expandLine app he).bind (Step.ends_pure _ _)

theorem ends_finish_of_builds {es : List Entry} {cache' : ControllerCache}
    (hb : app.Builds (kept text) es cache') (ha : ∀ entry ∈ es, app.Accepts entry) :
    ∃ app', Differs (app.withControllers cache') app' ∧
      Step.Ends (finish ((numberFrom 1 (kept text)).filterMap directive?)) app
        (tablePart.set (some es) app') (.ok es) := by
  have ha : ∀ entry ∈ es, (app.withControllers cache').Accepts entry := ha
  obtain ⟨app', hd, ht⟩ := ends_forEach_tellAll ha
  exact ⟨app', hd, (ends_flatMapList_of_builds hb).bind (ht.bind ⟨_, run_keep _ app'⟩)⟩

theorem ends_finish_of_stopsAt {before after : List Text} {line : Text} {fault : Fault}
    {cache' : ControllerCache} (hk : kept text = before ++ line :: after)
    (hs : app.StopsAt before line fault cache') :
    Step.Ends (finish ((numberFrom 1 (kept text)).filterMap directive?)) app
      (app.withControllers cache') (.error fault) := by
  have he := hs.ends 1 after
  rw [← hk] at he
  exact ((ends_mapList_expandLine app he).bind_of_fault _).bind_of_fault _

variable {before after : List Text} {line : Text} {es : List Entry} {fault : Fault}
  {cache' : ControllerCache}

/-- The first short line ends the attempt, and nothing has happened to the application. -/
theorem ends_entries_of_short (ht : app.routesText = .ok text) (hn : app.router.table = none)
    (hk : kept text = before ++ line :: after) (hs : IsShort line)
    (hb : ∀ l ∈ before, ¬ IsShort l) :
    Step.Ends entries app app (.error (shortFault line (before.length + 1))) := by
  have hd : Step.Ends directives app app (.error (shortFault line (before.length + 1))) := by
    refine ⟨(numbered before).flatMap reports, ?_⟩
    rw [run_directives ht, hk, run_ofLines_of_short hs hb]
  obtain ⟨events, he⟩ := hd.bind_of_fault finish
  exact ⟨events, (run_entries_of_unbuilt hn).trans he⟩

theorem ends_entries_of_builds (ht : app.routesText = .ok text) (hn : app.router.table = none)
    (hc : ∀ line ∈ kept text, ¬ IsShort line) (hb : app.Builds (kept text) es cache')
    (ha : ∀ entry ∈ es, app.Accepts entry) :
    ∃ app', Differs (app.withControllers cache') app' ∧
      Step.Ends entries app (tablePart.set (some es) app') (.ok es) := by
  obtain ⟨app', hd, hf⟩ := ends_finish_of_builds hb ha
  obtain ⟨events, he⟩ := (ends_directives ht hc).bind hf
  exact ⟨app', hd, events, (run_entries_of_unbuilt hn).trans he⟩

theorem ends_entries_of_stopsAt (ht : app.routesText = .ok text) (hn : app.router.table = none)
    (hc : ∀ line ∈ kept text, ¬ IsShort line) (hk : kept text = before ++ line :: after)
    (hs : app.StopsAt before line fault cache') :
    Step.Ends entries app (app.withControllers cache') (.error fault) := by
  obtain ⟨events, he⟩ := (ends_directives ht hc).bind (ends_finish_of_stopsAt hk hs)
  exact ⟨events, (run_entries_of_unbuilt hn).trans he⟩

/-- Kept lines that have fields enough build a table, unless expanding them stops somewhere. -/
theorem builds_or_stopsAt (app : Application) (hc : ∀ line ∈ kept text, ¬ IsShort line) :
    (∃ es cache', app.Builds (kept text) es cache') ∨
      ∃ before line after fault cache', kept text = before ++ line :: after ∧
        app.StopsAt before line fault cache' :=
  Expander.builds_or_stopsAt app.router.expander app.files (kept text)
    (fun _ hl => fields_length_of_mem_kept hc hl) app.router.controllers

/-- No hook raises anything at an entry that the lines build. -/
def AcceptsAll (app : Application) (lines : List Text) : Prop :=
  ∀ es cache', app.Builds lines es cache' → ∀ entry ∈ es, app.Accepts entry

theorem result_entries_eq_ok_iff (ht : app.routesText = .ok text) (hn : app.router.table = none)
    (hc : ∀ line ∈ kept text, ¬ IsShort line) (ha : app.AcceptsAll (kept text)) :
    (entries.run app).result = .ok es ↔ ∃ cache', app.Builds (kept text) es cache' := by
  constructor
  · intro hr
    rcases app.builds_or_stopsAt hc with ⟨es', cache', hb⟩ |
      ⟨before, line, after, fault, cache', hk, hs⟩
    · obtain ⟨app', -, he⟩ := ends_entries_of_builds ht hn hc hb (ha es' cache' hb)
      obtain rfl := Except.ok.inj (he.result.symm.trans hr)
      exact ⟨cache', hb⟩
    · exact nomatch (ends_entries_of_stopsAt ht hn hc hk hs).result.symm.trans hr
  · rintro ⟨cache', hb⟩
    obtain ⟨app', -, he⟩ := ends_entries_of_builds ht hn hc hb (ha es cache' hb)
    exact he.result

theorem result_entries_eq_error_iff_stopsAt (ht : app.routesText = .ok text)
    (hn : app.router.table = none) (hc : ∀ line ∈ kept text, ¬ IsShort line)
    (ha : app.AcceptsAll (kept text)) :
    (entries.run app).result = .error fault ↔
      ∃ before line after cache', kept text = before ++ line :: after ∧
        app.StopsAt before line fault cache' := by
  constructor
  · intro hr
    rcases app.builds_or_stopsAt hc with ⟨es, cache', hb⟩ |
      ⟨before, line, after, fault', cache', hk, hs⟩
    · obtain ⟨app', -, he⟩ := ends_entries_of_builds ht hn hc hb (ha es cache' hb)
      exact nomatch he.result.symm.trans hr
    · have he := ends_entries_of_stopsAt ht hn hc hk hs
      obtain rfl := Except.error.inj (he.result.symm.trans hr)
      exact ⟨before, line, after, cache', hk, hs⟩
  · rintro ⟨before, line, after, cache', hk, hs⟩
    exact (ends_entries_of_stopsAt ht hn hc hk hs).result

/-- There is a text if its lines could be read. -/
theorem exists_routesText {ds : List Directive} (h : (directives.run app).result = .ok ds) :
    ∃ text, app.routesText = .ok text := by
  unfold directives at h
  unfold routesText
  simp only [Step.run_bind, Step.run_read, Outcome.andThen_ok, Step.run_ofExcept] at h
  cases hp : app.router.routesLocation with
  | error fault => simp [hp] at h
  | ok path =>
    simp only [hp, Outcome.andThen_ok] at h
    unfold RoutesFile.readLines at h
    cases ht : RoutesFile.readText app.files path.text path with
    | error fault => simp [ht, Except.map, Step.ofExcept] at h
    | ok text => exact ⟨text, ht⟩

/-- Whoever has the entries of a table that was not built has what the lines of the routes file
build, whatever the hooks have made of it. -/
theorem builds_of_entries (hn : app.router.table = none)
    (he : (entries.run app).result = .ok es) : ∃ text cache' app', app.routesText = .ok text ∧
      app.Builds (kept text) es cache' ∧ Differs (app.withControllers cache') app' ∧
        (entries.run app).state = tablePart.set (some es) app' := by
  have hrun := run_entries_of_unbuilt hn
  rcases hd : (directives.run app).result with fault | ds
  · rw [hrun, Step.run_bind_of_fault hd] at he
    exact nomatch he
  obtain ⟨text, ht⟩ := exists_routesText hd
  rcases complete_or_exists_short (kept text) with hc | ⟨before, line, after, hk, hs, hb⟩
  · rcases app.builds_or_stopsAt hc with ⟨es', cache', hb⟩ |
      ⟨before, line, after, fault, cache', hk, hs⟩
    · have hexpand := ends_flatMapList_of_builds hb
      let told := (Step.forEach tellAll es').run (app.withControllers cache')
      rcases hr : told.result with fault | u
      · have hfinish : Step.Ends (finish ((numberFrom 1 (kept text)).filterMap directive?)) app
            told.state (.error fault) := hexpand.bind ((Step.ends_of_result hr).bind_of_fault _)
        rw [hrun] at he
        exact nomatch ((ends_directives ht hc).bind hfinish).result.symm.trans he
      · have hfinish : Step.Ends (finish ((numberFrom 1 (kept text)).filterMap directive?)) app
            (tablePart.set (some es') told.state) (.ok es') :=
          hexpand.bind ((Step.ends_of_result hr).bind ⟨_, run_keep es' told.state⟩)
        have hends := (ends_directives ht hc).bind hfinish
        rw [hrun] at he ⊢
        obtain rfl := Except.ok.inj (hends.result.symm.trans he)
        exact ⟨text, cache', told.state, ht, hb, differs_of_forEach_tellAll es' _, hends.state⟩
    · exact nomatch (ends_entries_of_stopsAt ht hn hc hk hs).result.symm.trans he
  · exact nomatch (ends_entries_of_short ht hn hk hs hb).result.symm.trans he

/-! ### Other files -/

section OtherFiles

variable {app' : Application}

/-- Two applications have the same router, and every controller whose wildcard a line names is
carried out alike in both. -/
def SameControllers (app app' : Application) (lines : List Text) : Prop :=
  app'.router = app.router ∧
    ∀ line ∈ lines, ∀ name, app.router.expander.NamesWildcard line name →
      ControllerCache.SameLoading app.files app'.files app.router.controllers.base name

theorem Builds.congr {lines : List Text} (h : app.SameControllers app' lines)
    (hb : app.Builds lines es cache') : app'.Builds lines es cache' := by
  unfold Builds at hb ⊢
  rw [h.1]
  exact Expander.Builds.congr hb h.2

theorem StopsAt.congr (h : app.SameControllers app' (before ++ line :: after))
    (hs : app.StopsAt before line fault cache') : app'.StopsAt before line fault cache' := by
  unfold StopsAt at hs ⊢
  rw [h.1]
  refine Expander.StopsAt.congr hs fun l hl => h.2 l ?_
  rcases List.mem_append.1 hl with hl | hl
  · exact List.mem_append_left _ hl
  · obtain rfl := List.mem_singleton.1 hl
    simp

/-- No other controller's file matters. -/
theorem result_entries_congr (ht : app.routesText = .ok text) (ht' : app'.routesText = .ok text)
    (hn : app.router.table = none) (ha : app.AcceptsAll (kept text))
    (h : app.SameControllers app' (kept text)) :
    (entries.run app').result = (entries.run app).result := by
  have hn' : app'.router.table = none := by rw [h.1, hn]
  rcases complete_or_exists_short (kept text) with hc | ⟨before, line, after, hk, hs, hb⟩
  · rcases app.builds_or_stopsAt hc with ⟨es, cache', hb⟩ |
      ⟨before, line, after, fault, cache', hk, hs⟩
    · have haes := ha es cache' hb
      have haes' : ∀ entry ∈ es, app'.Accepts entry := by
        intro entry he
        unfold Accepts
        rw [h.1]
        exact haes entry he
      obtain ⟨app₁, -, he⟩ := ends_entries_of_builds ht hn hc hb haes
      obtain ⟨app₂, -, he'⟩ := ends_entries_of_builds ht' hn' hc (hb.congr h) haes'
      rw [he.result, he'.result]
    · have hs' : app'.StopsAt before line fault cache' := hs.congr (hk ▸ h)
      rw [(ends_entries_of_stopsAt ht hn hc hk hs).result,
        (ends_entries_of_stopsAt ht' hn' hc hk hs').result]
  · rw [(ends_entries_of_short ht hn hk hs hb).result,
      (ends_entries_of_short ht' hn' hk hs hb).result]

end OtherFiles

/-! ### The whole -/

/-- A routes file is compiled in two passes.  A short line ends the first, whatever else there is,
and then no controller is loaded.  Otherwise the table is what the kept lines build, or the fault is
that of the line at which they stop; the controllers loaded are those whose wildcards are named by
lines that were reached, and no other controller's file makes a difference. -/
theorem compiles_routes (ht : app.routesText = .ok text) (hn : app.router.table = none)
    (ha : app.AcceptsAll (kept text)) :
    (∀ before line after, kept text = before ++ line :: after → IsShort line →
      (∀ l ∈ before, ¬ IsShort l) →
        (entries.run app).result = .error (shortFault line (before.length + 1)) ∧
        (entries.run app).state = app) ∧
    ((∀ line ∈ kept text, ¬ IsShort line) →
      (∀ es, (entries.run app).result = .ok es ↔ ∃ cache', app.Builds (kept text) es cache') ∧
      (∀ fault, (entries.run app).result = .error fault ↔
        ∃ before line after cache', kept text = before ++ line :: after ∧
          app.StopsAt before line fault cache') ∧
      (∀ es cache', app.Builds (kept text) es cache' →
        (entries.run app).state.router.table = some es ∧
        (entries.run app).state.router.controllers = cache' ∧
        ∀ name, name ∈ Assoc.keys cache'.loaded ↔
          name ∈ Assoc.keys app.router.controllers.loaded ∨
            ∃ line ∈ kept text, app.router.expander.NamesWildcard line name) ∧
      (∀ before line after fault cache', kept text = before ++ line :: after →
        app.StopsAt before line fault cache' →
          (entries.run app).state = app.withControllers cache' ∧
          ∀ name, name ∈ Assoc.keys cache'.loaded ↔
            name ∈ Assoc.keys app.router.controllers.loaded ∨
              (∃ l ∈ before, app.router.expander.NamesWildcard l name) ∨
              app.router.expander.NamesWildcard line name ∧ ∃ es cache₁ m cache₂,
                app.Builds before es cache₁ ∧ cache₁.Loads app.files name m cache₂)) ∧
    ∀ app', app'.routesText = .ok text → app.SameControllers app' (kept text) →
      (entries.run app').result = (entries.run app).result := by
  refine ⟨fun before line after hk hs hb => ?_, fun hc => ⟨fun es => ?_, fun fault => ?_,
    fun es cache' hb => ?_, fun before line after fault cache' hk hs => ?_⟩,
    fun app' ht' h => result_entries_congr ht ht' hn ha h⟩
  · have he := ends_entries_of_short ht hn hk hs hb
    exact ⟨he.result, he.state⟩
  · exact result_entries_eq_ok_iff ht hn hc ha
  · exact result_entries_eq_error_iff_stopsAt ht hn hc ha
  · obtain ⟨app', ⟨plugins, rfl, -⟩, he⟩ := ends_entries_of_builds ht hn hc hb (ha es cache' hb)
    rw [he.state]
    exact ⟨rfl, rfl, Expander.Builds.mem_keys_iff hb⟩
  · exact ⟨(ends_entries_of_stopsAt ht hn hc hk hs).state, Expander.StopsAt.mem_keys_iff hs⟩

/-- A line for a controller that is not there, and one for all callables of another. -/
def twoLines : Text := "GET / b.index\nGET /\x7bmethod\x7d p.\x7bmethod\x7d\n"

/-- A router for two lines; its only controller has one callable. -/
def twoLinesRouter : Application :=
  withRoutes twoLines [("p", ⟨[.define "a" (.function "a" [] none)], none⟩)]

theorem compiles_routes_two_lines :
    ∃ cache', twoLinesRouter.Builds (kept twoLines)
      [.endpoint ⟨.get, "/", "b", "index"⟩, .endpoint ⟨.get, "/a", "p", "a"⟩] cache' := by
  have ht : twoLinesRouter.routesText = .ok twoLines := rfl
  have ha : twoLinesRouter.AcceptsAll (kept twoLines) :=
    fun _ _ _ _ _ _ hp => absurd hp List.not_mem_nil
  have hc : ∀ line ∈ kept twoLines, ¬ IsShort line := by decide
  have hr : (entries.run twoLinesRouter).result =
    .ok [.endpoint ⟨.get, "/", "b", "index"⟩, .endpoint ⟨.get, "/a", "p", "a"⟩] := rfl
  obtain ⟨-, hb, -⟩ := compiles_routes ht rfl ha
  exact ((hb hc).1 _).1 hr

end Routing.Application
