import Routing.Proofs.Session.Diary
import Routing.Proofs.Step.Agrees

/-!
# Finding plugins by an index

A router finds an attached plugin by going through the row of them.  It can as well keep an index
beside the row, which has under each name the place of the plugin that was attached under it.  The
row only grows at its end, so a place says which plugin is meant, whatever the plugin has recorded
since.  The index is written when the plugin has come to the row, before it is told of a built table,
and what fails before leaves it as it is.  Whatever is asked of a router that goes by its index,
it comes to the same state and the same end as one that goes by its row: `answersAs_perform`.
-/

namespace Routing

open Application

/-- An index of a row without duplicates has under each name its place. -/
theorem Assoc.get?_zipIdx {names : List Text} (hn : names.Nodup) {name : Text} {place : Nat} :
    get? name names.zipIdx = some place ↔ names[place]? = some name := by
  have hkeys : keys names.zipIdx = names := List.zipIdx_map_fst 0 names
  constructor
  · intro h
    exact List.mem_zipIdx_iff_getElem?.1 (mem_of_get? h)
  · intro h
    refine get?_of_mem ?_ (List.mem_zipIdx_iff_getElem?.2 h)
    rw [hkeys]
    exact hn

/-- The names of the attached plugins, in the order of attachment. -/
def Router.names (r : Router) : List Text := r.plugins.map Plugin.name

/-- A router in its application, with an index of its plugins. -/
structure Indexed where
  app : Application
  /-- The places of plugins in the row of those attached, by name. -/
  index : Assoc Nat

namespace Indexed

def appPart : Part Indexed Application := ⟨app, fun app s => { s with app }⟩

/-- A step that has nothing to do with the index. -/
def inside {α : Type} (x : Step Application α) : Step Indexed α := Step.on appPart x

/-! ### Finding -/

/-- The place that the index has for a name. -/
def place (name : Text) (s : Indexed) : Except Fault Nat :=
  match Assoc.get? name s.index with
  | some place => .ok place
  | none => .error (.noSuchPlugin name)

/-- The plugin at a place that has been found for a name. -/
def pluginAt (name : Text) (place : Nat) (s : Indexed) : Except Fault Plugin :=
  match s.app.router.plugins[place]? with
  | some p => .ok p
  | none => .error (.noSuchPlugin name)

/-- The place of the attached plugin of a name. -/
def attachedPlace (name : Text) : Step Indexed Nat := do
  inside needsPlugins
  Step.ofExcept ((← Step.read).place name)

/-- The place of a plugin by attribute, once the path of the routes file is out of the way. -/
def placeByAttribute (name : Text) : Step Indexed Nat := do
  if name ∈ ownAttributes then Step.fail .noSuchAttribute
  inside needsPlugins
  if isHidden name then Step.fail .noSuchAttribute
  else Step.ofExcept ((← Step.read).place name)

/-- The place of the plugin that the router has as an attribute. -/
def attributePlace (name : Text) : Step Indexed Nat := do
  if name = pathAttribute then
    let _ ← Step.ofExcept (← Step.read).app.router.routesLocation
  placeByAttribute name

/-- The attached plugin of a name. -/
def attached (name : Text) : Step Indexed Plugin := do
  let place ← attachedPlace name
  Step.ofExcept ((← Step.read).pluginAt name place)

/-- The plugin that the router has as an attribute. -/
def byAttribute (name : Text) : Step Indexed Plugin := do
  let place ← attributePlace name
  Step.ofExcept ((← Step.read).pluginAt name place)

/-! ### Attaching, configuring and switching -/

/-- Attaches a plugin of a class that the index does not have. -/
def enroll (cls : PluginClass) (given : Settings) (sink : Option Sink) : Step Indexed Unit := do
  inside (Step.modify fun app => app.withStore (app.router.store.withScopes cls.code))
  inside (configureClass cls (settingsFor cls given sink))
  let p := newPlugin cls given sink
  let place := (← Step.read).app.router.plugins.length
  inside (Step.modify fun app => app.withPlugins (app.router.plugins ++ [p]))
  Step.modify fun s => { s with index := Assoc.set p.name place s.index }
  inside (Step.forEach (tell cls.code) ((← Step.read).app.router.table.getD []))

/-- Attaches a plugin. -/
def attach (name : Value) (given : Settings) (sink : Option Sink) : Step Indexed Unit := do
  inside needsPlugins
  if attachArguments.any fun argument => (Assoc.get? argument given).isSome then
    Step.fail .settingGivenTwice
  let cls ← inside (classNamed name)
  if (Assoc.get? cls.code (← Step.read).index).isSome then
    Step.fail (.pluginAlreadyAttached cls.code)
  if (Assoc.get? routerArgument given).isSome then Step.fail .settingGivenTwice
  enroll cls given sink

/-- Configures an attached plugin. -/
def configure (name : Text) (given : Settings) : Step Indexed Unit := do
  let p ← byAttribute name
  inside (configureClass p.cls given)

/-- The settings of a plugin that hold for an action, or at the base level. -/
def configOf (name : Text) (action : Option Text) : Step Indexed Settings := do
  let p ← attached name
  Step.ofExcept (((← Step.read).app.router.store.scopes p.name).merged action)

/-- Switches a plugin on or off for an action. -/
def setEnabled (action name : Text) (on : Bool) : Step Indexed Unit := do
  let p ← attached name
  inside (Step.modify fun app => app.withStore (app.router.store.setSwitch p.name action on))

/-- Whether a plugin is on for an action. -/
def isEnabled (action name : Text) : Step Indexed Bool := do
  let p ← attached name
  return ((← Step.read).app.router.store.scopes p.name).isEnabled action

/-! ### Sessions -/

/-- What a call does. -/
def performCall : Call → Step Indexed Answer
  | .attach plugin given sink => do
    attach plugin given sink
    return .done
  | .configure plugin given => do
    configure plugin given
    return .done
  | .setEnabled action plugin on => do
    setEnabled action plugin on
    return .done
  | c => inside c.perform

/-- What a request does. -/
def perform : Request → Step Indexed Reply
  | .call c => return .answer (← performCall c)
  | .pluginNamed name => return .plugin (← byAttribute name)
  | .configOf plugin action => return .settings (← configOf plugin action)
  | .isEnabled action plugin => return .switch (← isEnabled action plugin)
  | r => inside r.perform

/-- The router after it has been asked for some things. -/
def asked (requests : List Request) (s : Indexed) : Indexed :=
  Step.after (requests.map perform) s

@[simp] theorem asked_nil (s : Indexed) : asked [] s = s := rfl

@[simp] theorem asked_cons (r : Request) (requests : List Request) (s : Indexed) :
    asked (r :: requests) s = asked requests ((perform r).run s).state := rfl

/-! ### An index that goes with the row -/

/-- The router is this one, in whose row no name occurs twice, and the index is that of its row. -/
structure Mirrors (s : Indexed) (app : Application) : Prop where
  same : s.app = app
  distinct : app.router.names.Nodup
  index : s.index = app.router.names.zipIdx

/-- With an index or without, a step comes to the same state and the same end. -/
abbrev AnswersAs {α : Type} (x : Step Indexed α) (y : Step Application α) : Prop :=
  Step.Agrees Mirrors (fun _ => False) Eq x y

variable {s : Indexed} {app : Application} {name : Text} {α : Type}

theorem AnswersAs.ends {x : Step Indexed α} {y : Step Application α} (h : AnswersAs x y)
    (hm : Mirrors s app) :
    Mirrors (x.run s).state (y.run app).state ∧ SameEnd Eq (x.run s).result (y.run app).result := by
  rcases h s app hm with ⟨fault, -, hf⟩ | hends
  · exact hf.elim
  · exact hends

theorem Mirrors.get?_index (h : Mirrors s app) {place : Nat} :
    Assoc.get? name s.index = some place ↔
      ∃ p, app.router.plugins[place]? = some p ∧ p.name = name := by
  rw [h.index, Assoc.get?_zipIdx h.distinct, Router.names, List.getElem?_map,
    Option.map_eq_some_iff]

theorem Mirrors.keys_index (h : Mirrors s app) : s.index.keys = app.router.names := by
  rw [h.index]
  exact List.zipIdx_map_fst 0 _

/-- What the index does not have is not attached. -/
theorem Mirrors.plugin?_eq_none_iff (h : Mirrors s app) :
    app.router.plugin? name = none ↔ Assoc.get? name s.index = none := by
  rw [Assoc.get?_eq_none_iff, h.keys_index, Router.plugin?, List.find?_eq_none, Router.names]
  simp

/-- The index leads to the plugin that is found in the row. -/
theorem Mirrors.pluginAt_place (h : Mirrors s app) (name : Text) :
    (s.place name >>= fun place => s.pluginAt name place) = app.router.plugin name := by
  obtain rfl := h.same
  unfold place Router.plugin
  cases hi : Assoc.get? name s.index with
  | none =>
    rw [h.plugin?_eq_none_iff.2 hi]
    rfl
  | some place =>
    obtain ⟨p, hp, rfl⟩ := h.get?_index.1 hi
    rw [Router.plugin?_of_mem h.distinct (List.mem_of_getElem? hp)]
    show s.pluginAt p.name place = .ok p
    unfold pluginAt
    rw [hp]

/-- A plugin of a new name comes to the row and then to the index. -/
theorem Mirrors.concat (h : Mirrors s app) {p : Plugin} (hnew : app.router.plugin? p.name = none) :
    Mirrors ⟨app.withPlugins (app.router.plugins ++ [p]),
        Assoc.set p.name app.router.plugins.length s.index⟩
      (app.withPlugins (app.router.plugins ++ [p])) where
  same := rfl
  distinct := Router.nodup_concat h.distinct hnew
  index := by
    have hlength : app.router.names.length = app.router.plugins.length := List.length_map _
    have hnames : (app.withPlugins (app.router.plugins ++ [p])).router.names =
        app.router.names ++ [p.name] := List.map_append
    rw [Assoc.set_of_get?_eq_none (h.plugin?_eq_none_iff.1 hnew), h.index, hnames,
      List.zipIdx_append, hlength]
    simp

/-- Other scopes make no difference. -/
theorem Mirrors.withStore (h : Mirrors s app) (store : Store) :
    Mirrors { s with app := s.app.withStore store } (app.withStore store) := by
  obtain rfl := h.same
  exact ⟨rfl, h.distinct, h.index⟩

/-! ### Steps without the index -/

/-- A step that has nothing to do with the index, and leaves the row its names, answers as it does
without. -/
theorem answersAs_inside {x : Step Application α}
    (hx : ∀ app, (x.run app).state.router.names = app.router.names) : AnswersAs (inside x) x := by
  rintro s app ⟨rfl, hn, hi⟩
  refine .inr ⟨⟨rfl, ?_, ?_⟩, sameEnd_refl _⟩
  · rw [hx]
    exact hn
  · rw [hx]
    exact hi

theorem run_inside (x : Step Application α) (s : Indexed) : (inside x).run s =
    ⟨(x.run s.app).events, { s with app := (x.run s.app).state }, (x.run s.app).result⟩ := rfl

theorem run_inside_needsPlugins (s : Indexed) : (inside needsPlugins).run s =
    ⟨[], s, if s.app.router.pluggable then .ok () else .error .noSuchAttribute⟩ := by
  rw [run_inside, run_needsPlugins]

/-! ### Finding by the index -/

/-- The place that a name stands for, for a router that can have plugins. -/
def placeNamed (name : Text) (s : Indexed) : Except Fault Nat :=
  if s.app.router.pluggable = true then s.place name else .error .noSuchAttribute

/-- The place that a name stands for among the attributes of a router. -/
def placeFor (name : Text) (s : Indexed) : Except Fault Nat :=
  if name ∈ ownAttributes ∨ isHidden name = true then .error .noSuchAttribute
  else s.placeNamed name

theorem run_attachedPlace (name : Text) (s : Indexed) :
    (attachedPlace name).run s = ⟨[], s, s.placeNamed name⟩ := by
  unfold attachedPlace placeNamed
  rw [Step.run_bind, run_inside_needsPlugins]
  split
  · rw [Outcome.andThen_ok, Step.run_bind, Step.run_read, Outcome.andThen_ok, Step.run_ofExcept]
    rfl
  · rfl

theorem run_placeByAttribute (name : Text) (s : Indexed) :
    (placeByAttribute name).run s = ⟨[], s, s.placeFor name⟩ := by
  unfold placeByAttribute placeFor placeNamed
  rw [run_check]
  by_cases hown : name ∈ ownAttributes
  · rw [if_pos hown, if_pos (.inl hown)]
  · rw [if_neg hown, Step.run_bind, run_inside_needsPlugins]
    by_cases hp : s.app.router.pluggable = true
    · rw [if_pos hp, if_pos hp, Outcome.andThen_ok]
      by_cases hh : isHidden name = true
      · rw [if_pos hh, if_pos (.inr hh)]
        rfl
      · rw [if_neg hh, if_neg (not_or_intro hown hh), Step.run_bind, Step.run_read,
          Outcome.andThen_ok, Step.run_ofExcept]
        rfl
    · rw [if_neg hp, if_neg hp, Outcome.andThen_error]
      split <;> rfl

/-- Finding a place by attribute changes nothing; the path of the routes file is no plugin. -/
theorem run_attributePlace (name : Text) (s : Indexed) : (attributePlace name).run s = ⟨[], s,
    if name = pathAttribute then s.app.router.routesLocation >>= fun _ => s.placeFor name
    else s.placeFor name⟩ := by
  unfold attributePlace
  split
  · rw [Step.run_bind, Step.run_read, Outcome.andThen_ok, Step.run_bind, Step.run_ofExcept]
    cases s.app.router.routesLocation with
    | error fault => rfl
    | ok path =>
      rw [Outcome.andThen_ok, run_placeByAttribute]
      rfl
  · exact run_placeByAttribute name s

/-- The plugin at a place that has been found without a change. -/
theorem run_bind_pluginAt {x : Step Indexed Nat} {r : Except Fault Nat} (hx : x.run s = ⟨[], s, r⟩)
    (name : Text) :
    (x >>= fun place => do Step.ofExcept ((← Step.read).pluginAt name place)).run s =
      ⟨[], s, r >>= fun place => s.pluginAt name place⟩ := by
  rw [Step.run_bind, hx]
  cases r with
  | error fault => rfl
  | ok place =>
    rw [Outcome.andThen_ok, Step.run_bind, Step.run_read, Outcome.andThen_ok, Step.run_ofExcept]
    rfl

theorem Mirrors.pluginAt_placeNamed (h : Mirrors s app) (name : Text) :
    (s.placeNamed name >>= fun place => s.pluginAt name place) = pluginNamed name app := by
  have hplace := h.pluginAt_place name
  obtain rfl := h.same
  unfold placeNamed pluginNamed
  split
  · exact hplace
  · rfl

theorem Mirrors.pluginAt_placeFor (h : Mirrors s app) (name : Text) :
    (s.placeFor name >>= fun place => s.pluginAt name place) = pluginFor name app := by
  unfold placeFor pluginFor
  split
  · rfl
  · exact h.pluginAt_placeNamed name

theorem Mirrors.run_attached (h : Mirrors s app) (name : Text) :
    (attached name).run s = ⟨[], s, pluginNamed name app⟩ := by
  rw [← h.pluginAt_placeNamed]
  exact run_bind_pluginAt (run_attachedPlace name s) name

theorem answersAs_attached (name : Text) :
    AnswersAs (attached name) (Application.attached name) := by
  intro s app h
  rw [h.run_attached, Application.run_attached]
  exact .inr ⟨h, sameEnd_refl _⟩

theorem answersAs_byAttribute (name : Text) :
    AnswersAs (byAttribute name) (pluginAttribute name) := by
  intro s app h
  have hrun : (byAttribute name).run s = _ := run_bind_pluginAt (run_attributePlace name s) name
  have hfor := h.pluginAt_placeFor name
  obtain rfl := h.same
  rw [hrun, run_pluginAttribute]
  refine .inr ⟨h, ?_⟩
  dsimp only
  split
  · cases s.app.router.routesLocation with
    | error fault => exact .error fault
    | ok path => exact hfor ▸ sameEnd_refl _
  · exact hfor ▸ sameEnd_refl _

/-! ### Attaching by the index -/

/-- A plugin is enrolled if it is admitted, and nothing comes of it otherwise. -/
theorem Mirrors.run_attach (h : Mirrors s app) (name : Value) (given : Settings)
    (sink : Option Sink) : (attach name given sink).run s = match admission name given app with
      | .error fault => ⟨[], s, .error fault⟩
      | .ok cls => (enroll cls given sink).run s := by
  have hthere : ∀ cls : PluginClass, (Assoc.get? cls.code s.index).isSome =
      (app.router.plugin? cls.code).isSome := by
    intro cls
    rw [← Option.not_isNone, ← Option.not_isNone, Bool.not_inj_iff, Bool.eq_iff_iff,
      Option.isNone_iff_eq_none, Option.isNone_iff_eq_none, h.plugin?_eq_none_iff]
  obtain rfl := h.same
  unfold attach admission
  rw [Step.run_bind, run_inside_needsPlugins]
  by_cases hp : s.app.router.pluggable = true
  · have hn : ¬ s.app.router.pluggable = false := by simp [hp]
    rw [if_pos hp, if_neg hn, Outcome.andThen_ok, run_check]
    split
    · rfl
    · rw [Step.run_bind, run_inside, run_classNamed]
      cases s.app.registry.classNamed name with
      | error fault => rfl
      | ok cls =>
        simp only [Outcome.andThen_ok, Step.run_bind, Step.run_read, List.nil_append, run_check,
          hthere]
        split
        · rfl
        · split <;> rfl
  · have hn : s.app.router.pluggable = false := by simpa using hp
    rw [if_neg hp, if_pos hn, Outcome.andThen_error]

variable {cls : PluginClass} {given : Settings} {sink : Option Sink}

/-- A plugin whose settings are refused comes neither to the row nor to the index. -/
theorem run_enroll_of_refused {fault : Fault} (h : Plugin.configure cls (settingsFor cls given sink)
    (s.app.router.store.withScopes cls.code) = .error fault) : (enroll cls given sink).run s =
      ⟨[], { s with app := s.app.withStore (s.app.router.store.withScopes cls.code) },
        .error fault⟩ := by
  have hc : (configureClass cls (settingsFor cls given sink)).run
      (s.app.withStore (s.app.router.store.withScopes cls.code)) =
        ⟨[], s.app.withStore (s.app.router.store.withScopes cls.code), .error fault⟩ := by
    rw [run_configureClass]
    simp only [Application.withStore, h]
  unfold enroll
  simp only [Step.run_bind, run_inside, Step.run_modify, Outcome.andThen_ok, hc,
    Outcome.andThen_error, List.nil_append]

/-- A plugin whose settings are accepted comes last in the row, is put in the index, and is told of
the entries of a built table. -/
theorem run_enroll_of_configured {store : Store}
    (h : Plugin.configure cls (settingsFor cls given sink)
      (s.app.router.store.withScopes cls.code) = .ok store) : (enroll cls given sink).run s =
        (inside (Step.forEach (tell cls.code) (s.app.router.table.getD []))).run
          ⟨(s.app.withStore store).withPlugins (s.app.router.plugins ++ [newPlugin cls given sink]),
            Assoc.set cls.code s.app.router.plugins.length s.index⟩ := by
  have hc : (configureClass cls (settingsFor cls given sink)).run
      (s.app.withStore (s.app.router.store.withScopes cls.code)) =
        ⟨[], s.app.withStore store, .ok ()⟩ := by
    rw [run_configureClass]
    simp only [Application.withStore, h]
  unfold enroll
  simp only [Step.run_bind, run_inside, Step.run_modify, Outcome.andThen_ok, hc, List.nil_append,
    Step.run_read]
  rfl

/-- One application has the same row of names as another. -/
def SameNames (app app' : Application) : Prop := app'.router.names = app.router.names

/-- Telling a plugin of entries leaves the row its names. -/
theorem names_forEach_tell (name : Text) (es : List Entry) (app : Application) :
    ((Step.forEach (tell name) es).run app).state.router.names = app.router.names := by
  have htell : ∀ e, Step.Moves SameNames (tell name e) := by
    intro e app
    rcases state_tell name e app with hs | ⟨p, seen, -, hs⟩ <;> rw [hs]
    · exact Eq.refl app.router.names
    · exact Router.map_name_setPlugin _ _
  have hrefl : ∀ app, SameNames app app := fun app => Eq.refl app.router.names
  have htrans : ∀ a b c, SameNames a b → SameNames b c → SameNames a c :=
    fun a b c h h' => Eq.trans h' h
  exact Step.moves_forEach hrefl htrans htell es app

theorem answersAs_attach (name : Value) (given : Settings) (sink : Option Sink) :
    AnswersAs (attach name given sink) (Application.attach name given sink) := by
  intro s app h
  rw [h.run_attach, Application.run_attach]
  cases ha : admission name given app with
  | error fault => exact .inr ⟨h, .error fault⟩
  | ok cls =>
    have hnew : app.router.plugin? cls.code = none := plugin?_of_admission ha
    obtain rfl := h.same
    dsimp only
    cases hs : Plugin.configure cls (settingsFor cls given sink)
        (s.app.router.store.withScopes cls.code) with
    | error fault =>
      rw [run_enroll_of_refused hs, Application.run_enroll_of_refused hs]
      exact .inr ⟨h.withStore _, .error fault⟩
    | ok store =>
      have hcome := (h.withStore store).concat (p := newPlugin cls given sink) hnew
      rw [run_enroll_of_configured hs, Application.run_enroll_of_configured hs]
      exact .inr ((answersAs_inside (names_forEach_tell cls.code _)).ends hcome)

/-! ### Configuring and switching by the index -/

theorem answersAs_configure (name : Text) (given : Settings) :
    AnswersAs (configure name given) (Application.configure name given) := by
  refine (answersAs_byAttribute name).bind ?_
  rintro p _ rfl
  exact answersAs_inside fun app => rfl

theorem answersAs_setEnabled (action name : Text) (on : Bool) :
    AnswersAs (setEnabled action name on) (Application.setEnabled action name on) := by
  refine (answersAs_attached name).bind ?_
  rintro p _ rfl
  exact answersAs_inside fun app => rfl

/-- What is read off the scopes of a plugin. -/
theorem answersAs_scopes (plugin : Text) (f : Scopes → Except Fault α) :
    AnswersAs (do Step.ofExcept (f ((← Step.read).app.router.store.scopes plugin)))
      (do Step.ofExcept (f ((← Step.read).router.store.scopes plugin))) := by
  refine Step.agrees_read_bind fun s app h => Step.agrees_ofExcept ?_
  rw [h.same]
  exact sameEnd_refl _

theorem answersAs_configOf (name : Text) (action : Option Text) :
    AnswersAs (configOf name action) (Application.configOf name action) := by
  refine (answersAs_attached name).bind ?_
  rintro p _ rfl
  exact answersAs_scopes p.name (Scopes.merged action)

theorem answersAs_isEnabled (action name : Text) :
    AnswersAs (isEnabled action name) (Application.isEnabled action name) := by
  refine (answersAs_attached name).bind ?_
  rintro p _ rfl
  exact answersAs_scopes p.name fun scopes => .ok (scopes.isEnabled action)

/-! ### Sessions by the index -/

/-- What is not about plugins leaves the row its names. -/
theorem names_perform {r : Request} (hr : r.isAboutPlugins = false) (app : Application) :
    (r.perform.run app).state.router.names = app.router.names := by
  cases r using Request.casesByPart with
  | rewrite files => rw [state_perform_rewrite]
  | plugins r hp => exact nomatch hr.symm.trans hp
  | plain r hp hw => exact (stays_perform hp hw app).names

theorem answersAs_performCall (c : Call) : AnswersAs (performCall c) c.perform := by
  have hinside : c.isAboutPlugins = false → AnswersAs (inside c.perform) c.perform := by
    intro hc
    refine answersAs_inside fun app => ?_
    have hnames := names_perform (r := .call c) hc app
    rwa [state_perform_call] at hnames
  cases c with
  | attach plugin given sink => exact (answersAs_attach plugin given sink).map fun _ => rfl
  | configure plugin given => exact (answersAs_configure plugin given).map fun _ => rfl
  | setEnabled action plugin on => exact (answersAs_setEnabled action plugin on).map fun _ => rfl
  | _ => exact hinside rfl

/-- Whatever is asked of a router, it answers by its index as it does by its row. -/
theorem answersAs_perform (r : Request) : AnswersAs (perform r) r.perform := by
  cases r with
  | call c => exact (answersAs_performCall c).map fun _ => rfl
  | pluginNamed name => exact (answersAs_byAttribute name).map fun _ => rfl
  | configOf plugin action => exact (answersAs_configOf plugin action).map fun _ => rfl
  | isEnabled action plugin => exact (answersAs_isEnabled action plugin).map fun _ => rfl
  | describe => exact answersAs_inside fun app => names_perform rfl app
  | plugins => exact answersAs_inside fun app => names_perform rfl app

/-- The index goes with the row through any session. -/
theorem Mirrors.asked (h : Mirrors s app) (requests : List Request) :
    Mirrors (asked requests s) (Application.asked requests app) := by
  induction requests generalizing s app with
  | nil => exact h
  | cons r requests ih => exact ih ((answersAs_perform r).ends h).1

end Indexed

end Routing
