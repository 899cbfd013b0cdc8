import Mathlib.Data.List.Infix
import Routing.Proofs.Session.Index
import Routing.Proofs.Store.BaseFirst

/-!
# The books on plugins

A router keeps three books on its plugins: the row of those attached, the index of their names, and
the store of their scopes.  Attaching a plugin writes into the store, then into the row and the
index, and then has the plugin told of a built table.  It can fail before all of that, with only the
scopes written, or with everything written.  In whatever state a session leaves a router, failed
attempts included, the books agree.  Main statement: `books_agree`.
-/

namespace Routing

open Application

namespace Indexed

/-- Whichever way the plugin at a place of the row is asked for, that place is reached.  Where a
router goes by its row, it finds the plugin. -/
structure IsReached (s : Indexed) (place : Nat) (p : Plugin) : Prop where
  row : ∃ ps, (inside plugins).run s = ⟨[], s, .ok ps⟩ ∧ ps[place]? = some p
  index : Assoc.get? p.name s.index = some place
  attached : (attachedPlace p.name).run s = ⟨[], s, .ok place⟩
  byAttribute : Diary.IsAttribute p.name → (attributePlace p.name).run s = ⟨[], s, .ok place⟩
  settings : ∀ action, (configOf p.name action).run s =
    ⟨[], s, (s.app.router.store.scopes p.name).merged action⟩
  attachedInRow : (Application.attached p.name).run s.app = ⟨[], s.app, .ok p⟩
  byAttributeInRow : Diary.IsAttribute p.name →
    (pluginAttribute p.name).run s.app = ⟨[], s.app, .ok p⟩

/-- The row, the index and the store agree on which plugins are attached. -/
structure BooksAgree (s : Indexed) : Prop where
  /-- No two plugins have the same name. -/
  distinct : s.app.router.names.Nodup
  /-- The index has the names of the attached plugins and no others. -/
  names : s.index.keys = s.app.router.names
  reached : ∀ place p, s.app.router.plugins[place]? = some p → s.IsReached place p
  absent : ∀ name, name ∉ s.app.router.names →
    (attachedPlace name).run s = ⟨[], s, .error (.noSuchPlugin name)⟩ ∧
      (Diary.IsAttribute name →
        (attributePlace name).run s = ⟨[], s, .error (.noSuchPlugin name)⟩)
  /-- Every plugin has scopes in the store, and the base scope comes first. -/
  based : ∀ p ∈ s.app.router.plugins, ∃ scopes,
    Assoc.get? p.name s.app.router.store = some scopes ∧ scopes.BaseFirst

variable {s : Indexed} {app : Application} {name : Text}

/-! ### Finding what is in the books -/

theorem ne_pathAttribute (ha : Diary.IsAttribute name) : name ≠ pathAttribute := by
  rintro rfl
  exact ha (.inl List.mem_cons_self)

/-- A name under which a plugin can be had as an attribute stands for the same place either way. -/
theorem run_attributePlace_of_isAttribute (ha : Diary.IsAttribute name) (s : Indexed) :
    (attributePlace name).run s = (attachedPlace name).run s := by
  have hfor : s.placeFor name = s.placeNamed name := if_neg ha
  rw [run_attributePlace, if_neg (ne_pathAttribute ha), hfor, run_attachedPlace]

theorem run_attachedPlace_of_pluggable (hp : s.app.router.pluggable = true) (name : Text) :
    (attachedPlace name).run s = ⟨[], s, s.place name⟩ := by
  have hnamed : s.placeNamed name = s.place name := if_pos hp
  rw [run_attachedPlace, hnamed]

theorem Mirrors.isReached (h : Mirrors s app) (hp : app.router.pluggable = true) {place : Nat}
    {p : Plugin} (hrow : app.router.plugins[place]? = some p) : s.IsReached place p := by
  have hindex : Assoc.get? p.name s.index = some place := h.get?_index.2 ⟨p, hrow, rfl⟩
  have hfound : app.router.plugin? p.name = some p :=
    Router.plugin?_of_mem h.distinct (List.mem_of_getElem? hrow)
  have hnamed : pluginNamed p.name app = .ok p := by
    rw [Diary.pluginNamed_eq hp, Router.plugin, hfound]
  have hattached := h.run_attached p.name
  obtain rfl := h.same
  have hplace : (attachedPlace p.name).run s = ⟨[], s, .ok place⟩ := by
    rw [run_attachedPlace_of_pluggable hp, Indexed.place, hindex]
  constructor
  case row =>
    refine ⟨s.app.router.plugins, ?_, hrow⟩
    rw [run_inside, run_plugins, if_pos hp]
  case index => exact hindex
  case attached => exact hplace
  case byAttribute =>
    intro ha
    rw [run_attributePlace_of_isAttribute ha, hplace]
  case settings =>
    intro action
    unfold configOf
    rw [Step.run_bind, hattached, hnamed, Outcome.andThen_ok, Step.run_bind, Step.run_read,
      Outcome.andThen_ok, Step.run_ofExcept]
    rfl
  case attachedInRow => rw [Application.run_attached, hnamed]
  case byAttributeInRow =>
    intro ha
    rw [run_pluginAttribute, if_neg (ne_pathAttribute ha), Diary.pluginFor_of_isAttribute ha,
      hnamed]

theorem Mirrors.absent (h : Mirrors s app) (hp : app.router.pluggable = true)
    (hn : name ∉ app.router.names) :
    (attachedPlace name).run s = ⟨[], s, .error (.noSuchPlugin name)⟩ := by
  have hindex : Assoc.get? name s.index = none := by
    rw [Assoc.get?_eq_none_iff, h.keys_index]
    exact hn
  obtain rfl := h.same
  rw [run_attachedPlace_of_pluggable hp, Indexed.place, hindex]

/-- The books agree if the index is that of the row and the store holds the base scope of every
plugin in it. -/
theorem Mirrors.booksAgree (h : Mirrors s app) (hp : app.router.pluggable = true)
    (hstore : app.router.store.HoldsBase app.router.names) : s.BooksAgree := by
  have hreached : ∀ place p, app.router.plugins[place]? = some p → s.IsReached place p :=
    fun _ _ hrow => h.isReached hp hrow
  have habsent : ∀ name, name ∉ app.router.names →
      (attachedPlace name).run s = ⟨[], s, .error (.noSuchPlugin name)⟩ :=
    fun _ hn => h.absent hp hn
  have hkeys := h.keys_index
  have hdistinct := h.distinct
  obtain rfl := h.same
  constructor
  case distinct => exact hdistinct
  case names => exact hkeys
  case reached => exact hreached
  case absent =>
    refine fun name hn => ⟨habsent name hn, fun ha => ?_⟩
    rw [run_attributePlace_of_isAttribute ha, habsent name hn]
  case based =>
    intro p hmem
    exact hstore.exists_scopes (List.mem_map_of_mem hmem)

end Indexed

namespace Application

variable {app : Application} {requests : List Request}

/-! ### Keeping books -/

/-- The router can have plugins, and the store holds the base scope of every one that is attached. -/
structure HoldsBases (app : Application) : Prop where
  pluggable : app.router.pluggable = true
  bases : app.router.store.HoldsBase app.router.names

theorem HoldsBases.attach (h : HoldsBases app) (name : Value) (given : Settings)
    (sink : Option Sink) : HoldsBases ((attach name given sink).run app).state := by
  rcases state_attach name given sink app with he | ⟨cls, -, he | ⟨store, seen, hc, he⟩⟩ <;> rw [he]
  · exact h
  · refine ⟨h.pluggable, (h.bases.withScopes cls.code).mono fun name hn => ?_⟩
    exact List.mem_append_left _ hn
  · have hnames : ((app.withStore store).withPlugins (app.router.plugins ++
        [⟨cls, sinkFor cls given sink, seen, []⟩])).router.names =
          app.router.names ++ [cls.code] := List.map_append
    refine ⟨h.pluggable, ?_⟩
    rw [hnames]
    exact (h.bases.withScopes cls.code).configure hc

theorem keptByRequests_holdsBases : KeptByRequests (fun _ => True) HoldsBases where
  stays {app app'} hs h := by
    have hnames : app'.router.names = app.router.names := hs.names
    refine ⟨hs.pluggable.trans h.pluggable, ?_⟩
    rw [hs.store, hnames]
    exact h.bases
  rewrite _ h := ⟨h.pluggable, h.bases⟩
  attach name sink _ h := h.attach name _ sink
  configure {app given} name _ h := by
    rcases state_configure_cases name given app with he | ⟨p, store, -, hc, he⟩ <;> rw [he]
    · exact h
    · exact ⟨h.pluggable, h.bases.configure hc⟩
  setEnabled {app} action name on h := by
    rcases state_setEnabled action name on app with he | ⟨p, -, he⟩ <;> rw [he]
    · exact h
    · exact ⟨h.pluggable, h.bases.setSwitch name action on⟩

/-- Whatever is asked of a router, the names in its row keep their places. -/
theorem names_isPrefix_perform (r : Request) (app : Application) :
    app.router.names <+: (r.perform.run app).state.router.names := by
  cases r using Request.casesByEffect with
  | rewrite files => rw [state_perform_rewrite]
  | attach name given sink =>
    rw [state_perform_attach]
    rcases state_attach name given sink app with he | ⟨cls, -, he | ⟨store, seen, -, he⟩⟩ <;> rw [he]
    · exact List.prefix_rfl
    · exact (List.prefix_append _ _).map _
  | configure name given =>
    rw [state_perform_configure]
    rcases state_configure_cases name given app with he | ⟨p, store, -, -, he⟩ <;> rw [he]
    exact List.prefix_rfl
  | setEnabled action name on =>
    rw [state_perform_setEnabled]
    rcases state_setEnabled action name on app with he | ⟨p, -, he⟩ <;> rw [he]
    exact List.prefix_rfl
  | plain r hp hw =>
    have hnames : (r.perform.run app).state.router.names = app.router.names :=
      (stays_perform hp hw app).names
    rw [hnames]

theorem names_isPrefix_asked (requests : List Request) (app : Application) :
    app.router.names <+: (asked requests app).router.names := by
  induction requests generalizing app with
  | nil => exact List.prefix_rfl
  | cons r requests ih => exact (names_isPrefix_perform r app).trans (ih _)

end Application

namespace Indexed

variable {app : Application} {s : Indexed}

/-- What the index has for a name it keeps. -/
theorem Mirrors.get?_index_asked (h : Mirrors s app) (requests : List Request) {name : Text}
    {place : Nat} (hget : Assoc.get? name s.index = some place) :
    Assoc.get? name (Indexed.asked requests s).index = some place := by
  obtain ⟨later, hlater⟩ := names_isPrefix_asked requests app
  have hm := h.asked requests
  rw [h.index, Assoc.get?_zipIdx h.distinct] at hget
  obtain ⟨hlt, -⟩ := List.getElem?_eq_some_iff.1 hget
  rw [hm.index, Assoc.get?_zipIdx hm.distinct, ← hlater, List.getElem?_append_left hlt]
  exact hget

/-- After any session of a new router, whatever has failed in it, the row, the index and the store
agree on which plugins are attached, and the index keeps the place of each of them from then on.  A
router that goes by its index and one that goes by its row are then the same and answer alike. -/
theorem books_agree (hplugins : app.router.plugins = []) (hstore : app.router.store = [])
    (hpluggable : app.router.pluggable = true) (requests : List Request) :
    let now := asked requests ⟨app, []⟩
    now.BooksAgree ∧
      (∀ more name place, Assoc.get? name now.index = some place →
        Assoc.get? name (asked more now).index = some place) ∧
      now.app = Application.asked requests app ∧
      ∀ r : Request, ((perform r).run now).result = (r.perform.run now.app).result := by
  intro now
  have hnames : app.router.names = [] := by
    rw [Router.names, hplugins]
    rfl
  have hfresh : Mirrors ⟨app, []⟩ app := by
    refine ⟨rfl, ?_, ?_⟩ <;> rw [hnames]
    · exact List.nodup_nil
    · rfl
  have hbases : HoldsBases app := by
    refine ⟨hpluggable, ?_⟩
    rw [hstore, hnames]
    exact Store.holdsBase_nil
  have hnow : Mirrors now (Application.asked requests app) := hfresh.asked requests
  have hkept : HoldsBases (Application.asked requests app) :=
    keptByRequests_holdsBases.asked (fun _ _ _ _ => trivial) hbases
  refine ⟨hnow.booksAgree hkept.pluggable hkept.bases, fun more name place => ?_, hnow.same,
    fun r => ?_⟩
  · exact hnow.get?_index_asked more
  · obtain ⟨-, hend⟩ := (answersAs_perform r).ends hnow
    rw [hnow.same]
    exact hend.eq

/-- A router with two pages, and two plugins to be had, one of which can be set to refuse a page. -/
def refusableSecond : Application :=
  { withRoutes "GET /1 a.b\nGET /2 a.c\n" [] with
    registry := [("logging", PluginClass.logging), ("picky", PluginClass.picky)] }

/-- Once the table is built, a plugin is attached without the settings that it needs, then with some
under which it refuses the second page, and then once more. -/
def troubled : List Request :=
  [.call (.attach (.text "logging") [] none),
    .call .entries,
    .call (.attach (.text "picky") [] none),
    .call (.setEnabled "a.b" "logging" false),
    .call (.attach (.text "picky") [("reject", .text "/2")] none),
    .call (.configure "logging" [("_target", .text "a.*"), ("reject", .text "/2")]),
    .call (.attach (.text "picky") [("reject", .text "/3")] none)]

theorem books_agree_troubled :
    let now := asked troubled ⟨refusableSecond, []⟩
    now.index.keys = ["logging".toList, "picky".toList] ∧
      ∃ p : Plugin, p.name = "picky".toList ∧ p.seen = [.endpoint ⟨.get, "/1", "a", "b"⟩] ∧
        (attachedPlace "picky").run now = ⟨[], now, .ok 1⟩ ∧
        (attributePlace "picky").run now = ⟨[], now, .ok 1⟩ ∧
        (pluginAttribute "picky").run now.app = ⟨[], now.app, .ok p⟩ ∧
        ∃ scopes, Assoc.get? "picky" now.app.router.store = some scopes ∧ scopes.BaseFirst := by
  intro now
  have hsecond : (now.app.router.plugins[1]?).map (fun p => (p.name, p.seen)) =
      some ("picky".toList, [.endpoint ⟨.get, "/1", "a", "b"⟩]) := by decide +kernel
  obtain ⟨p, hrow, hp⟩ := Option.map_eq_some_iff.1 hsecond
  obtain ⟨hname, hseen⟩ := Prod.mk.inj hp
  have hnames : now.app.router.names = ["logging".toList, "picky".toList] := by decide +kernel
  have hattribute : Diary.IsAttribute p.name := hname.symm ▸ by decide
  have hbooks : now.BooksAgree := (@books_agree refusableSecond rfl rfl rfl troubled).1
  have hreached := hbooks.reached 1 _ hrow
  -- The router itself is not looked at again; it would be run through the session each time.
  clear_value now
  refine ⟨hbooks.names.trans hnames, p, hname, hseen, ?_⟩
  rw [← hname]
  exact ⟨hreached.attached, hreached.byAttribute hattribute,
    hreached.byAttributeInRow hattribute, hbooks.based _ (List.mem_of_getElem? hrow)⟩

end Indexed

end Routing
