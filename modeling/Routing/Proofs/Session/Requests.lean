import Mathlib.Data.List.Nodup
import Routing.Proofs.Host.Serving
import Routing.Proofs.Plugin.Newcomer
import Routing.Proofs.Session.Calls

/-!
# Requests

All that can be asked of a router, what it can be asked about its plugins included.  A request that
is not about plugins leaves all that was decided of them: `Stays` says which are attached, in which
order and with which settings, and where their classes are to be had (`stays_perform`).
-/

namespace Routing

/-- Something that is asked of a router: a call, or a look at what it says of itself. -/
inductive Request where
  | call (c : Call)
  | describe
  | plugins
  | pluginNamed (name : Text)
  | configOf (plugin : Text) (action : Option Text)
  | isEnabled (action plugin : Text)

/-- What a request is answered with. -/
inductive Reply where
  | answer (a : Answer)
  | description (d : Application.Description)
  | plugins (ps : List Plugin)
  | plugin (p : Plugin)
  | settings (settings : Settings)
  | switch (on : Bool)

namespace Request

/-- What a request does. -/
def perform : Request → Step Application Reply
  | .call c => return .answer (← c.perform)
  | .describe => return .description (← Application.describe)
  | .plugins => return .plugins (← Application.plugins)
  | .pluginNamed name => return .plugin (← Application.pluginAttribute name)
  | .configOf plugin action => return .settings (← Application.configOf plugin action)
  | .isEnabled action plugin => return .switch (← Application.isEnabled action plugin)

/-- Whether a request attaches, configures or switches a plugin. -/
def isAboutPlugins : Request → Bool
  | .call c => c.isAboutPlugins
  | _ => false

/-- Whether a request changes the files. -/
def isRewriting : Request → Bool
  | .call (.rewrite _) => true
  | _ => false

/-- The settings that a request gives to a plugin. -/
def given? : Request → Option Settings
  | .call (.attach _ given _) => some given
  | .call (.configure _ given) => some given
  | _ => none

end Request

/-- A plugin as it is attached, without what it has recorded and counted since. -/
def Plugin.blank (p : Plugin) : Plugin := { p with seen := [], calls := [] }

namespace Router

/-- What a plugin has in common with the one in its place is the same all over. -/
theorem map_setPlugin {β : Type} {r : Router} {p q : Plugin} {f : Plugin → β}
    (hn : (r.plugins.map Plugin.name).Nodup) (hp : r.plugin? q.name = some p) (hf : f q = f p) :
    (r.setPlugin q).plugins.map f = r.plugins.map f := by
  have hm : p ∈ r.plugins := List.mem_of_find?_eq_some hp
  have hname : p.name = q.name := name_of_plugin? hp
  unfold setPlugin
  rw [List.map_map]
  refine List.map_congr_left fun p' hp' => ?_
  rw [Function.comp_apply]
  split
  · rename_i he
    have hsame : p' = p := List.inj_on_of_nodup_map hn hp' hm (he.trans hname.symm)
    rw [hf, hsame]
  · rfl

end Router

namespace Application

variable {app app' : Application}

/-- The application after it has been asked for some things. -/
def asked (requests : List Request) (app : Application) : Application :=
  Step.after (requests.map Request.perform) app

@[simp] theorem asked_nil (app : Application) : asked [] app = app := rfl

@[simp] theorem asked_cons (r : Request) (requests : List Request) (app : Application) :
    asked (r :: requests) app = asked requests (r.perform.run app).state := rfl

/-! ### What single requests lead to -/

theorem state_perform_call (c : Call) (app : Application) :
    ((Request.call c).perform.run app).state = (c.perform.run app).state := by
  have hperform : (Request.call c).perform.run app =
    (c.perform >>= fun a => pure (Reply.answer a)).run app := rfl
  rw [hperform, Step.run_bind_pure]

theorem state_perform_attach (name : Value) (given : Settings) (sink : Option Sink)
    (app : Application) : ((Request.call (.attach name given sink)).perform.run app).state =
      ((attach name given sink).run app).state := by
  have hperform : (Call.attach name given sink).perform.run app =
    (Application.attach name given sink >>= fun _ => pure Answer.done).run app := rfl
  rw [state_perform_call, hperform, Step.run_bind_pure]

theorem result_perform_attach_of_fault {name : Value} {given : Settings} {sink : Option Sink}
    {fault : Fault} (h : ((attach name given sink).run app).result = .error fault) :
    ((Request.call (.attach name given sink)).perform.run app).result = .error fault := by
  have hattach : ((Call.attach name given sink).perform.run app).result = .error fault := by
    have hperform : (Call.attach name given sink).perform.run app =
      (Application.attach name given sink >>= fun _ => pure Answer.done).run app := rfl
    rw [hperform, Step.run_bind_of_fault h]
  have hperform : (Request.call (.attach name given sink)).perform.run app =
    ((Call.attach name given sink).perform >>= fun a => pure (Reply.answer a)).run app := rfl
  rw [hperform, Step.run_bind_of_fault hattach]

theorem state_perform_configure (name : Text) (given : Settings) (app : Application) :
    ((Request.call (.configure name given)).perform.run app).state =
      ((configure name given).run app).state := by
  have hperform : (Call.configure name given).perform.run app =
    (Application.configure name given >>= fun _ => pure Answer.done).run app := rfl
  rw [state_perform_call, hperform, Step.run_bind_pure]

theorem state_perform_setEnabled (action name : Text) (on : Bool) (app : Application) :
    ((Request.call (.setEnabled action name on)).perform.run app).state =
      ((setEnabled action name on).run app).state := by
  have hperform : (Call.setEnabled action name on).perform.run app =
    (Application.setEnabled action name on >>= fun _ => pure Answer.done).run app := rfl
  rw [state_perform_call, hperform, Step.run_bind_pure]

theorem state_perform_rewrite (files : FileTree) (app : Application) :
    ((Request.call (.rewrite files)).perform.run app).state = { app with files } := by
  rw [state_perform_call]
  rfl

/-! ### What stays -/

/-- What has been decided of plugins is the same, and so are the files. -/
structure Stays (app app' : Application) : Prop where
  files : app'.files = app.files
  registry : app'.registry = app.registry
  options : app'.router.options = app.router.options
  root : app'.router.root = app.router.root
  pluggable : app'.router.pluggable = app.router.pluggable
  store : app'.router.store = app.router.store
  names : app'.router.plugins.map Plugin.name = app.router.plugins.map Plugin.name
  plugins : (app.router.plugins.map Plugin.name).Nodup →
    app'.router.plugins.map Plugin.blank = app.router.plugins.map Plugin.blank

theorem stays_refl (app : Application) : Stays app app :=
  ⟨rfl, rfl, rfl, rfl, rfl, rfl, rfl, fun _ => rfl⟩

theorem stays_trans (app app' app'' : Application) (h : Stays app app') (h' : Stays app' app'') :
    Stays app app'' where
  files := h'.files.trans h.files
  registry := h'.registry.trans h.registry
  options := h'.options.trans h.options
  root := h'.root.trans h.root
  pluggable := h'.pluggable.trans h.pluggable
  store := h'.store.trans h.store
  names := h'.names.trans h.names
  plugins hn := (h'.plugins (h.names ▸ hn)).trans (h.plugins hn)

theorem stays_setPlugin {p q : Plugin} {name : Text} (hp : app.router.plugin? name = some p)
    (hq : q.blank = p.blank) : Stays app { app with router := app.router.setPlugin q } := by
  have hcls : q.cls = p.cls := (congrArg Plugin.cls hq :)
  have hname : q.name = name := (congrArg PluginClass.code hcls).trans (Router.name_of_plugin? hp)
  subst hname
  exact ⟨rfl, rfl, rfl, rfl, rfl, rfl, Router.map_name_setPlugin _ _,
    fun hn => Router.map_setPlugin hn hp hq⟩

theorem stays_of_tellAll (e : Entry) : Step.Moves Stays (tellAll e) := by
  have htell : ∀ p : Plugin, Step.Moves Stays (tell p.name e) := by
    intro p app
    rcases state_tell p.name e app with hs | ⟨q, seen, hq, hs⟩ <;> rw [hs]
    · exact stays_refl app
    · exact stays_setPlugin hq rfl
  refine (Step.moves_read stays_refl).bind stays_trans fun app => ?_
  exact Step.moves_forEach stays_refl stays_trans htell app.router.plugins

theorem stays_entries : Step.Moves Stays entries :=
  moves_entries stays_refl stays_trans
    (fun _ _ => ⟨rfl, rfl, rfl, rfl, rfl, rfl, rfl, fun _ => rfl⟩) stays_of_tellAll
    fun _ _ => ⟨rfl, rfl, rfl, rfl, rfl, rfl, rfl, fun _ => rfl⟩

theorem spans_stays : Spans Stays where
  refl := stays_refl
  trans := stays_trans
  hosts _ _ := ⟨rfl, rfl, rfl, rfl, rfl, rfl, rfl, fun _ => rfl⟩
  clock _ _ := ⟨rfl, rfl, rfl, rfl, rfl, rfl, rfl, fun _ => rfl⟩
  controllers _ _ := ⟨rfl, rfl, rfl, rfl, rfl, rfl, rfl, fun _ => rfl⟩
  counted app plugin label action := by
    unfold Router.counted
    split
    · rename_i p hp
      exact stays_setPlugin hp rfl
    · exact stays_refl app

/-! ### Requests by what they do -/

/-- Something is so of each request if it is so of those that change the files or what was decided
of plugins, and of all others together. -/
@[elab_as_elim]
theorem Request.casesByEffect {motive : Request → Prop}
    (rewrite : ∀ files, motive (.call (.rewrite files)))
    (attach : ∀ name given sink, motive (.call (.attach name given sink)))
    (configure : ∀ name given, motive (.call (.configure name given)))
    (setEnabled : ∀ action name on, motive (.call (.setEnabled action name on)))
    (plain : ∀ r : Request, r.isAboutPlugins = false → r.isRewriting = false → motive r)
    (r : Request) : motive r := by
  cases r with
  | call c =>
    cases c with
    | rewrite files => exact rewrite files
    | attach name given sink => exact attach name given sink
    | configure name given => exact configure name given
    | setEnabled action name on => exact setEnabled action name on
    | _ => exact plain _ rfl rfl
  | _ => exact plain _ rfl rfl

/-- The same, with those about plugins together. -/
@[elab_as_elim]
theorem Request.casesByPart {motive : Request → Prop}
    (rewrite : ∀ files, motive (.call (.rewrite files)))
    (plugins : ∀ r : Request, r.isAboutPlugins = true → motive r)
    (plain : ∀ r : Request, r.isAboutPlugins = false → r.isRewriting = false → motive r)
    (r : Request) : motive r := by
  cases r using Request.casesByEffect with
  | rewrite files => exact rewrite files
  | plain r hp hw => exact plain r hp hw
  | _ => exact plugins _ rfl

/-- All that requests about plugins can change is the store and which plugins are attached. -/
theorem exists_state_of_isAboutPlugins {r : Request} (h : r.isAboutPlugins = true)
    (app : Application) :
    ∃ store plugins, (r.perform.run app).state = (app.withStore store).withPlugins plugins := by
  cases r using Request.casesByEffect with
  | rewrite files => exact nomatch h
  | attach name given sink =>
    rw [state_perform_attach]
    rcases state_attach name given sink app with he | ⟨cls, -, he | ⟨store, seen, -, he⟩⟩
    · exact ⟨app.router.store, app.router.plugins, he⟩
    · exact ⟨app.router.store.withScopes cls.code, app.router.plugins, he⟩
    · exact ⟨store, _, he⟩
  | configure name given =>
    rw [state_perform_configure]
    rcases state_configure_cases name given app with he | ⟨p, store, -, -, he⟩
    · exact ⟨app.router.store, app.router.plugins, he⟩
    · exact ⟨store, app.router.plugins, he⟩
  | setEnabled action name on =>
    rw [state_perform_setEnabled]
    rcases state_setEnabled action name on app with he | ⟨p, -, he⟩
    · exact ⟨app.router.store, app.router.plugins, he⟩
    · exact ⟨app.router.store.setSwitch name action on, app.router.plugins, he⟩
  | plain r hp => exact absurd (hp.symm.trans h) Bool.false_ne_true

/-- A property of steps that covers all that leaves plugins as they were attached: it goes over from
the parts of a step to the step, and holds of what only reads, of having the entries of the table, of
handing them to a host and of calling a handler. -/
structure Covers (C : (α : Type) → Step Application α → Prop) : Prop where
  reads {α : Type} {x : Step Application α} : Step.Reads x → C α x
  bind {α β : Type} {x : Step Application α} {f : α → Step Application β} :
    C α x → (∀ a, C β (f a)) → C β (x >>= f)
  entries : C _ entries
  walk : C _ walk
  deploy (host : Text) : C _ (deploy host)
  callHandler (host : Text) (index : Int) (args : Arguments) : C _ (callHandler host index args)

theorem Covers.perform {C : (α : Type) → Step Application α → Prop} (hc : Covers C) {r : Request}
    (hp : r.isAboutPlugins = false) (hw : r.isRewriting = false) : C Reply r.perform := by
  have hmap : ∀ {α β : Type} {x : Step Application α} (f : α → β), C α x →
      C β (x >>= fun a => pure (f a)) := fun f hx =>
        hc.bind hx fun a => hc.reads (Step.reads_pure (f a))
  have hread : ∀ {α : Type} (f : Application → Except Fault α),
      Step.Reads (Step.read >>= fun app => Step.ofExcept (f app)) := fun f =>
    Step.reads_read.bind fun app => Step.reads_ofExcept _
  cases r with
  | call c =>
    refine hmap _ ?_
    cases c with
    | entries => exact hmap _ hc.entries
    | actions => exact hmap _ (hmap _ hc.entries)
    | endpointsOf action => exact hmap _ (hmap _ hc.walk)
    | urlOf action params => exact hmap _ (hc.bind hc.walk fun es => hc.reads (hread _))
    | fillPattern pattern args => exact hmap _ (hc.reads (hread _))
    | deploy host => exact hmap _ (hc.deploy host)
    | callHandler host index args => exact hmap _ (hc.callHandler host index args)
    | rewrite => exact nomatch hw
    | attach => exact nomatch hp
    | configure => exact nomatch hp
    | setEnabled => exact nomatch hp
  | describe =>
    refine hmap _ (hc.bind hc.entries fun es => hc.reads (Step.reads_read.bind fun app => ?_))
    exact (Step.reads_ofExcept _).bind fun path => Step.reads_pure _
  | plugins => exact hmap _ (hc.reads fun app => by rw [run_plugins])
  | pluginNamed name => exact hmap _ (hc.reads fun app => by rw [run_pluginAttribute])
  | configOf plugin action =>
    refine hmap _ (hc.reads ((reads_attached plugin).bind fun _ => ?_))
    exact Step.reads_read.bind fun _ => Step.reads_ofExcept _
  | isEnabled action plugin =>
    refine hmap _ (hc.reads ((reads_attached plugin).bind fun _ => ?_))
    exact Step.reads_read.bind fun _ => Step.reads_pure _

theorem covers_stays : Covers fun _ x => Step.Moves Stays x where
  reads hx := hx.moves stays_refl
  bind hx hf := hx.bind stays_trans hf
  entries := stays_entries
  walk := stays_entries
  deploy host := by
    rw [deploy_eq]
    refine (spans_stays.hostNamed host).bind stays_trans fun _ => ?_
    exact stays_entries.bind stays_trans (spans_stays.mount host)
  callHandler host index args := spans_stays.callHandler host index args

/-- What is not about plugins leaves all that was decided of them. -/
theorem stays_perform {r : Request} (hp : r.isAboutPlugins = false) (hw : r.isRewriting = false) :
    Step.Moves Stays r.perform := covers_stays.perform hp hw

/-! ### Sessions -/

/-- What is kept by everything that plugins are asked to do, if the settings given are of a kind, and
by whatever leaves plugins as they were attached. -/
structure KeptByRequests (Q : Settings → Prop) (P : Application → Prop) : Prop where
  stays {app app' : Application} : Stays app app' → P app → P app'
  rewrite {app : Application} (files : FileTree) : P app → P { app with files }
  attach {app : Application} {given : Settings} (name : Value) (sink : Option Sink) :
    Q given → P app → P ((attach name given sink).run app).state
  configure {app : Application} {given : Settings} (name : Text) :
    Q given → P app → P ((configure name given).run app).state
  setEnabled {app : Application} (action name : Text) (on : Bool) :
    P app → P ((setEnabled action name on).run app).state

theorem KeptByRequests.asked {Q : Settings → Prop} {P : Application → Prop}
    (hk : KeptByRequests Q P) {requests : List Request}
    (hq : ∀ r ∈ requests, ∀ given, r.given? = some given → Q given) (h : P app) :
    P (asked requests app) := by
  induction requests generalizing app with
  | nil => exact h
  | cons r requests ih =>
    obtain ⟨hr, hrest⟩ := List.forall_mem_cons.1 hq
    rw [asked_cons]
    refine ih hrest ?_
    cases r using Request.casesByEffect with
    | rewrite files =>
      rw [state_perform_rewrite]
      exact hk.rewrite files h
    | attach name given sink =>
      rw [state_perform_attach]
      exact hk.attach name sink (hr given rfl) h
    | configure name given =>
      rw [state_perform_configure]
      exact hk.configure name (hr given rfl) h
    | setEnabled action name on =>
      rw [state_perform_setEnabled]
      exact hk.setEnabled action name on h
    | plain r hp hw => exact hk.stays (stays_perform hp hw app) h

/-- Every request of a session goes well. -/
def GoesWell : List Request → Application → Prop
  | [], _ => True
  | r :: requests, app =>
    (r.perform.run app).result.isOk = true ∧ GoesWell requests (r.perform.run app).state

instance decidableGoesWell : ∀ requests app, Decidable (GoesWell requests app)
  | [], _ => .isTrue trivial
  | r :: requests, app =>
    have : Decidable (GoesWell requests (r.perform.run app).state) :=
      decidableGoesWell requests (r.perform.run app).state
    inferInstanceAs (Decidable ((r.perform.run app).result.isOk = true ∧
      GoesWell requests (r.perform.run app).state))

end Application

end Routing
