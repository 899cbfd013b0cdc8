import Routing.Proofs.Session.Delivery
import Routing.Proofs.Session.Requests
import Routing.Proofs.Table.Again
import Routing.Proofs.Table.Grouping

/-!
# What a router says of its table

A router that has a table can always say where its routes file is: there was a place for it when the
table was built, and nothing that is asked of a router changes that (`placed_asked`).  So it answers
whatever it is asked about its table, and what it lists, what it finds and how it describes itself
are in agreement.  Main statement: `introspection_agrees`.
-/

namespace Routing.Application

variable {app app' : Application}

/-! ### The place of the routes file -/

/-- If the router has a table, there is a place for its routes file. -/
def Placed (app : Application) : Prop :=
  app.router.table ≠ none → ∃ path, app.router.routesLocation = .ok path

theorem routesLocation_of_same (ho : app'.router.options = app.router.options)
    (hr : app'.router.root = app.router.root) :
    app'.router.routesLocation = app.router.routesLocation := by
  unfold Router.routesLocation
  rw [ho, hr]

theorem Placed.of_same (h : Placed app) (ho : app'.router.options = app.router.options)
    (hr : app'.router.root = app.router.root) (ht : app'.router.table = app.router.table) :
    Placed app' := by
  intro hbuilt
  rw [routesLocation_of_same ho hr]
  rw [ht] at hbuilt
  exact h hbuilt

/-- If there is no place for the routes file, no table is built. -/
theorem state_entries_of_unplaced {fault : Fault}
    (hl : app.router.routesLocation = .error fault) : (entries.run app).state = app := by
  have hdirectives : directives.run app = ⟨[], app, .error fault⟩ := by
    unfold directives
    rw [Step.run_bind, Step.run_read, Outcome.andThen_ok, hl]
    rfl
  have hfault : (directives.run app).result = .error fault := by rw [hdirectives]
  have hcompile : recipe.compile.run app = ⟨[], app, .error fault⟩ := by
    have hrun := Step.run_bind_of_fault (f := fun ds => Step.flatMapList expandLine ds) hfault
    rw [hdirectives] at hrun
    exact hrun
  unfold entries
  cases hn : tablePart.get app with
  | some es => rw [Table.run_access_of_built hn]
  | none =>
    rw [Table.run_access_of_unbuilt hn, Step.run_bind_of_fault (by rw [hcompile]), hcompile]

/-- The router still has a place for its routes file if it has a table. -/
def KeepsPlace (app app' : Application) : Prop := Placed app → Placed app'

theorem keepsPlace_refl (app : Application) : KeepsPlace app app := id

theorem keepsPlace_trans (app app' app'' : Application) (h : KeepsPlace app app')
    (h' : KeepsPlace app' app'') : KeepsPlace app app'' := h' ∘ h

theorem keepsPlace_entries : Step.Moves KeepsPlace entries := by
  intro app h
  cases hl : app.router.routesLocation with
  | error fault => rwa [state_entries_of_unplaced hl]
  | ok path =>
    have hstays := stays_entries app
    intro _
    rw [routesLocation_of_same hstays.options hstays.root]
    exact ⟨path, hl⟩

theorem keepsPlace_of_steady {α : Type} {x : Step Application α} (hstays : Step.Moves Stays x)
    (hsteady : Step.Moves Steady x) : Step.Moves KeepsPlace x := fun app h =>
  h.of_same (hstays app).options (hstays app).root (hsteady app).table

theorem covers_keepsPlace : Covers fun _ x => Step.Moves KeepsPlace x where
  reads hx := hx.moves keepsPlace_refl
  bind hx hf := hx.bind keepsPlace_trans hf
  entries := keepsPlace_entries
  walk := keepsPlace_entries
  deploy host := by
    rw [deploy_eq]
    refine ((reads_hostNamed host).moves keepsPlace_refl).bind keepsPlace_trans fun _ => ?_
    refine keepsPlace_entries.bind keepsPlace_trans fun es => ?_
    exact keepsPlace_of_steady (spans_stays.mount host es) (spans_steady.mount host es)
  callHandler host index args :=
    keepsPlace_of_steady (spans_stays.callHandler host index args)
      (spans_steady.callHandler host index args)

/-- No request takes the place of the routes file away. -/
theorem Placed.perform (h : Placed app) (r : Request) : Placed (r.perform.run app).state := by
  cases r using Request.casesByPart with
  | rewrite files =>
    rw [state_perform_rewrite]
    exact h.of_same rfl rfl rfl
  | plugins r hp =>
    obtain ⟨store, plugins, he⟩ := exists_state_of_isAboutPlugins hp app
    rw [he]
    exact h.of_same rfl rfl rfl
  | plain r hp hw => exact covers_keepsPlace.perform hp hw app h

theorem placed_asked (h : Placed app) (requests : List Request) : Placed (asked requests app) := by
  induction requests generalizing app with
  | nil => exact h
  | cons r requests ih => exact ih (h.perform r)

/-! ### Asking a router that has a table -/

variable {es : List Entry}

theorem run_entries_of_built (hb : app.router.table = some es) :
    entries.run app = ⟨[], app, .ok es⟩ := Table.run_access_of_built hb recipe

theorem run_actions_of_built (hb : app.router.table = some es) :
    actions.run app = ⟨[], app, .ok (Table.actions es)⟩ := by
  unfold actions
  rw [Step.run_bind, run_entries_of_built hb]
  rfl

theorem run_endpointsOf_of_built (hb : app.router.table = some es) (action : Text) :
    (endpointsOf action).run app = ⟨[], app, .ok (Table.endpointsOf action es)⟩ := by
  have hwalk : walk.run app = ⟨[], app, .ok es⟩ := Table.run_walk_of_built hb recipe
  unfold endpointsOf
  rw [Step.run_bind, hwalk]
  rfl

theorem run_describe_of_built (hb : app.router.table = some es) {path : Path}
    (hl : app.router.routesLocation = .ok path) : ∃ d, describe.run app = ⟨[], app, .ok d⟩ ∧
      d.actions = Table.patternsByAction es ∧ d.routes = es.map Entry.described := by
  unfold describe
  simp only [Step.run_bind, run_entries_of_built hb, Step.run_read, Outcome.andThen_ok, hl]
  exact ⟨_, rfl, rfl, rfl⟩

/-- A router is asked for whatever there is to ask for, and has a table then.  It can say which
entries there are, list the actions, find the endpoints of an action and describe itself, and changes
nothing by that.  The actions come once each, in the order of their first entries.  Every endpoint is
found under exactly one of them, and under all of them together as often as it is in the table; those
that are found under an action are the entries that have it, in order, so that no folder is among
them.  The description has the same actions in the same order, each with the patterns of what is
found under it, and an account of every entry in order, from which the entry can be told. -/
theorem introspection_agrees (hn : app.router.table = none) {requests : List Request}
    (hb : (asked requests app).router.table = some es) :
    let now := asked requests app
    ∃ names served d,
      entries.run now = ⟨[], now, .ok es⟩ ∧
      actions.run now = ⟨[], now, .ok names⟩ ∧
      (∀ a, (endpointsOf a).run now = ⟨[], now, .ok (served a)⟩) ∧
      describe.run now = ⟨[], now, .ok d⟩ ∧
      Table.Lists es names served ∧
      d.actions = names.map (fun a => (a, (served a).map Endpoint.pattern)) ∧
      d.routes = es.map Entry.described ∧ Function.Injective Entry.described := by
  intro now
  have hplaced : Placed now := placed_asked (fun hbuilt => absurd hn hbuilt) requests
  obtain ⟨path, hpath⟩ := hplaced (by rw [hb]; exact Option.some_ne_none es)
  obtain ⟨d, hd, hactions, hroutes⟩ := run_describe_of_built hb hpath
  refine ⟨Table.actions es, fun a => Table.endpointsOf a es, d, run_entries_of_built hb,
    run_actions_of_built hb, run_endpointsOf_of_built hb, hd, Table.lists_actions es, ?_, hroutes,
    Entry.described_injective⟩
  rw [hactions, Table.patternsByAction_eq]

/-- One page comes twice, with a folder and another page in between. -/
theorem introspection_agrees_two_pages :
    let now := asked [.call .actions]
      (withRoutes "GET /1 a.b\nGET /s staticDir:app\nGET /2 c.d\nPOST /3 a.b\n" [])
    let patterns : Assoc (List Text) := [("a.b", ["/1", "/3"]), ("c.d", ["/2"])]
    let folder : Assoc Text := [("verb", "get"), ("pattern", "/s"), ("static", "/srv/app")]
    ∃ d, (describe.run now).result = .ok d ∧ d.actions = patterns ∧ d.routes[1]? = some folder := by
  intro now patterns folder
  let es : List Entry := [.endpoint ⟨.get, "/1", "a", "b"⟩, .folder ⟨.get, "/s", "/srv/app"⟩,
    .endpoint ⟨.get, "/2", "c", "d"⟩, .endpoint ⟨.post, "/3", "a", "b"⟩]
  have hb : now.router.table = some es := by decide +kernel
  have hnames : (actions.run now).result = .ok ["a.b".toList, "c.d".toList] := by decide +kernel
  have hfirst : ((endpointsOf "a.b").run now).result =
    .ok [⟨.get, "/1", "a", "b"⟩, ⟨.post, "/3", "a", "b"⟩] := by decide +kernel
  have hsecond : ((endpointsOf "c.d").run now).result = .ok [⟨.get, "/2", "c", "d"⟩] := by
    decide +kernel
  obtain ⟨names, served, d, -, ha, hserved, hd, -, hactions, hroutes, -⟩ :=
    introspection_agrees rfl hb
  refine ⟨d, congrArg Outcome.result hd, ?_, ?_⟩
  · have ha' : names = _ := Except.ok.inj ((congrArg Outcome.result ha).symm.trans hnames)
    have hab : served "a.b" = _ :=
      Except.ok.inj ((congrArg Outcome.result (hserved "a.b")).symm.trans hfirst)
    have hcd : served "c.d" = _ :=
      Except.ok.inj ((congrArg Outcome.result (hserved "c.d")).symm.trans hsecond)
    rw [hactions, ha', List.map_cons, List.map_cons, hab, hcd]
    rfl
  · rw [hroutes]
    rfl

end Routing.Application
