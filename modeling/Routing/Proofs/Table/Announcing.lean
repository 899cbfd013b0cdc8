import Routing.Application
import Routing.Proofs.Step.Ends

/-!
# Telling plugins of entries

Whatever comes of telling the plugins of some entries, nothing but the plugins changes, and these
are still of the classes that they were of (`differs_of_forEach_tellAll`).  Whether a hook raises
something depends on no more than that, so telling of entries goes well if no hook that is there at
first raises anything at any of them: `ends_forEach_tellAll`.
-/

namespace Routing.Application

/-- Nothing differs but the plugins, and each of these is of the class of one that was there. -/
def Differs (app app' : Application) : Prop :=
  ∃ plugins, app' = { app with router := { app.router with plugins } } ∧
    ∀ q ∈ plugins, ∃ p ∈ app.router.plugins, q.cls = p.cls

/-- No hook of a router raises anything at an entry. -/
def Accepts (app : Application) (entry : Entry) : Prop :=
  ∀ p ∈ app.router.plugins,
    ∃ q, p.notify (app.router.store.scopes p.name).baseSettings entry = .ok q

variable {app app' : Application} {entry : Entry}

theorem differs_refl (app : Application) : Differs app app :=
  ⟨app.router.plugins, rfl, fun q hq => ⟨q, hq, rfl⟩⟩

theorem differs_trans (app app' app'' : Application) (h : Differs app app')
    (h' : Differs app' app'') : Differs app app'' := by
  obtain ⟨plugins, rfl, hp⟩ := h
  obtain ⟨plugins', rfl, hp'⟩ := h'
  refine ⟨plugins', rfl, fun r hr => ?_⟩
  obtain ⟨q, hq, hrq⟩ := hp' r hr
  obtain ⟨p, hp, hqp⟩ := hp q hq
  exact ⟨p, hp, hrq.trans hqp⟩

/-! ### One plugin -/

/-- A hook that raises nothing changes what the plugin has recorded, and nothing else of it. -/
theorem notify_eq_ok_cases {base : Settings} {p q : Plugin} (h : p.notify base entry = .ok q) :
    ∃ seen, q = { p with seen } := by
  unfold Plugin.notify at h
  split at h
  · exact nomatch h
  · obtain rfl := Except.ok.inj h
    exact ⟨_, rfl⟩

/-- Whether a hook raises anything depends on the class of the plugin alone. -/
theorem exists_notify_of_cls_eq {base : Settings} {p q : Plugin} (hc : q.cls = p.cls)
    (h : ∃ r, p.notify base entry = .ok r) : ∃ r, q.notify base entry = .ok r := by
  obtain ⟨r, h⟩ := h
  unfold Plugin.notify at h ⊢
  rw [hc]
  split
  · rename_i message hr
    rw [hr] at h
    exact nomatch h
  · exact ⟨_, rfl⟩

theorem accepts_of_differs (h : Differs app app') (ha : app.Accepts entry) :
    app'.Accepts entry := by
  obtain ⟨plugins, rfl, hp⟩ := h
  intro q hq
  obtain ⟨p, hp, hc⟩ := hp q hq
  have hn : q.name = p.name := congrArg PluginClass.code hc
  rw [hn]
  exact exists_notify_of_cls_eq hc (ha p hp)

theorem differs_setPlugin {p q : Plugin} (hp : p ∈ app.router.plugins) (hc : q.cls = p.cls) :
    Differs app { app with router := app.router.setPlugin q } := by
  refine ⟨_, rfl, fun r hr => ?_⟩
  obtain ⟨p', hp', rfl⟩ := List.mem_map.1 hr
  split
  · exact ⟨p, hp, hc⟩
  · exact ⟨p', hp', rfl⟩

theorem tell_of_none {name : Text} (h : app.router.plugin? name = none) :
    (tell name entry).run app = ⟨[], app, .ok ()⟩ := by
  unfold tell
  simp only [Step.run_bind, Step.run_read, Outcome.andThen_ok, h]
  rfl

theorem tell_of_some {name : Text} {p : Plugin} (h : app.router.plugin? name = some p) :
    (tell name entry).run app =
      match p.notify (app.router.store.scopes name).baseSettings entry with
      | .ok q => ⟨[], { app with router := app.router.setPlugin q }, .ok ()⟩
      | .error fault => ⟨[], app, .error fault⟩ := by
  unfold tell
  simp only [Step.run_bind, Step.run_read, Outcome.andThen_ok, h]
  cases p.notify (app.router.store.scopes name).baseSettings entry <;> rfl

/-- What telling a plugin leaves: everything as it was, or other patterns recorded by the plugin. -/
theorem state_tell (name : Text) (entry : Entry) (app : Application) :
    ((tell name entry).run app).state = app ∨ ∃ p seen, app.router.plugin? name = some p ∧
      ((tell name entry).run app).state =
        { app with router := app.router.setPlugin { p with seen } } := by
  cases hf : app.router.plugin? name with
  | none => exact .inl (by rw [tell_of_none hf])
  | some p =>
    rw [tell_of_some hf]
    cases hn : p.notify (app.router.store.scopes name).baseSettings entry with
    | error fault => exact .inl rfl
    | ok q =>
      obtain ⟨seen, rfl⟩ := notify_eq_ok_cases hn
      exact .inr ⟨p, seen, rfl, rfl⟩

theorem differs_of_tell (name : Text) (entry : Entry) : Step.Moves Differs (tell name entry) := by
  intro app
  rcases state_tell name entry app with hs | ⟨p, seen, hp, hs⟩ <;> rw [hs]
  · exact differs_refl app
  · exact differs_setPlugin (List.mem_of_find?_eq_some hp) rfl

theorem result_tell (ha : app.Accepts entry) (name : Text) :
    ((tell name entry).run app).result = .ok () := by
  cases hf : app.router.plugin? name with
  | none => rw [tell_of_none hf]
  | some p =>
    have hp : p ∈ app.router.plugins := List.mem_of_find?_eq_some hf
    have hn : p.name = name := by simpa using List.find?_some hf
    obtain ⟨q, hq⟩ := ha p hp
    rw [tell_of_some hf, ← hn, hq]

/-! ### All plugins and all entries -/

theorem differs_of_tellAll (entry : Entry) : Step.Moves Differs (tellAll entry) := fun app =>
  Step.moves_forEach differs_refl differs_trans (fun p : Plugin => differs_of_tell p.name entry)
    app.router.plugins app

theorem result_tellAll (ha : app.Accepts entry) : ((tellAll entry).run app).result = .ok () :=
  Step.result_forEach (g := fun p : Plugin => tell p.name entry) differs_trans
    (fun p => differs_of_tell p.name entry) (differs_refl app)
    fun p _ _ hd => result_tell (accepts_of_differs hd ha) p.name

theorem differs_of_forEach_tellAll (es : List Entry) :
    Step.Moves Differs (Step.forEach tellAll es) :=
  Step.moves_forEach differs_refl differs_trans differs_of_tellAll es

/-- Telling of entries goes well if no hook raises anything at any of them. -/
theorem ends_forEach_tellAll {es : List Entry} (ha : ∀ entry ∈ es, app.Accepts entry) :
    ∃ app', Differs app app' ∧ Step.Ends (Step.forEach tellAll es) app app' (.ok ()) :=
  ⟨_, differs_of_forEach_tellAll es app, Step.ends_of_result <|
    Step.result_forEach differs_trans differs_of_tellAll (differs_refl app)
      fun entry he _ hd => result_tellAll (accepts_of_differs hd (ha entry he))⟩

end Routing.Application
