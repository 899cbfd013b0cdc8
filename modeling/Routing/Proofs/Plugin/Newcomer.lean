import Routing.Proofs.Plugin.Hearing

/-!
# Plugins that come to a table

A plugin that is attached is told of the entries of a built table, in their order and up to the first
that it refuses, and no other plugin hears of that.  `run_enroll` and `run_attach` say all that
becomes of attaching a plugin.
-/

namespace Routing

namespace Plugin

/-- A plugin that has heard of some entries. -/
def hears (es : List Entry) (p : Plugin) : Plugin := { p with seen := p.seen ++ es }

@[simp] theorem cls_hears (es : List Entry) (p : Plugin) : (p.hears es).cls = p.cls := rfl

@[simp] theorem name_hears (es : List Entry) (p : Plugin) : (p.hears es).name = p.name := rfl

theorem hears_nil (p : Plugin) : p.hears [] = p := by
  unfold hears
  rw [List.append_nil]

theorem told_eq_hears (e : Entry) (p : Plugin) : p.told e = p.hears [e] := rfl

theorem hears_hears (es rest : List Entry) (p : Plugin) :
    (p.hears es).hears rest = p.hears (es ++ rest) := by
  unfold hears
  rw [List.append_assoc]

end Plugin

namespace Application

variable {app : Application} {cls : PluginClass} {given : Settings} {sink : Option Sink}
  {ps : List Plugin} {p : Plugin}

/-- A plugin of a class, as the only one to be told of entries. -/
def listener (app : Application) (cls : PluginClass) : Table.Audience where
  refusal? e := app.refusal? e cls
  hearsRefused _ := false

/-- The last plugin is told of entries in their order, up to the first that it refuses. -/
theorem run_forEach_tell_last (hr : app.router.plugins = ps ++ [p])
    (hd : ∀ q ∈ ps, q.name ≠ p.name) (es : List Entry) :
    (Step.forEach (tell p.name) es).run app =
      ⟨[], app.withPlugins (ps ++ [p.hears ((app.listener p.cls).told es)]),
        (app.listener p.cls).verdict es⟩ := by
  -- Whether an entry is refused does not depend on what the plugin has heard of before.
  induction es generalizing app p with
  | nil =>
    have hs : app.withPlugins (ps ++ [p.hears []]) = app := by
      unfold withPlugins
      rw [Plugin.hears_nil, ← hr]
    exact congrArg (fun s => Outcome.mk [] s (.ok ())) hs.symm
  | cons e es ih =>
    have hp : app.router.plugin? p.name = some p := Router.plugin?_append_cons hr hd
    unfold Step.forEach
    cases hf : app.refusal? e p.cls with
    | some message =>
      have ht : (app.listener p.cls).told (e :: es) = [] := by
        simp [Table.Audience.told, listener, hf]
      have hv : (app.listener p.cls).verdict (e :: es) = .error (.entryRejected message) :=
        @Table.Audience.verdict_append_cons _ _ _ [] _ (by simp) hf
      have hs : app.withPlugins (ps ++ [p.hears []]) = app := by
        unfold withPlugins
        rw [Plugin.hears_nil, ← hr]
      rw [Step.run_bind, run_tell_of_refuses hp hf, Outcome.andThen_error, ht, hv, hs]
    | none =>
      have ht : (app.listener p.cls).told (e :: es) = e :: (app.listener p.cls).told es := by
        simp [Table.Audience.told, listener, hf]
      have hv : (app.listener p.cls).verdict (e :: es) = (app.listener p.cls).verdict es := by
        simp [Table.Audience.verdict, listener, hf]
      have hset : app.router.setPlugin (p.told e) =
          { app.router with plugins := ps ++ [p.told e] } :=
        Router.setPlugin_append_cons hr hd (fun _ h => absurd h List.not_mem_nil)
          (Plugin.name_told e p)
      have ih := @ih (app.withPlugins (ps ++ [p.told e])) (p.told e) rfl (by simpa using hd)
      rw [Plugin.name_told, Plugin.cls_told, Plugin.told_eq_hears, Plugin.hears_hears] at ih
      rw [Step.run_bind, run_tell_of_accepts hp hf, hset, Outcome.andThen_ok, ht, hv]
      exact ih

/-- What becomes of enrolling a plugin whose name is new: its settings are refused, and only its
scopes stay behind, or it comes last and is told of the entries of a built table. -/
theorem run_enroll (hnew : app.router.plugin? cls.code = none) :
    (enroll cls given sink).run app =
      match Plugin.configure cls (settingsFor cls given sink)
          (app.router.store.withScopes cls.code) with
      | .error fault => ⟨[], app.withStore (app.router.store.withScopes cls.code), .error fault⟩
      | .ok store =>
        let es := app.router.table.getD []
        ⟨[], (app.withStore store).withPlugins (app.router.plugins ++
            [(newPlugin cls given sink).hears (((app.withStore store).listener cls).told es)]),
          ((app.withStore store).listener cls).verdict es⟩ := by
  cases hs : Plugin.configure cls (settingsFor cls given sink)
      (app.router.store.withScopes cls.code) with
  | error fault => exact run_enroll_of_refused hs
  | ok store =>
    rw [run_enroll_of_configured hs]
    have hr : ((app.withStore store).withPlugins (app.router.plugins ++
      [newPlugin cls given sink])).router.plugins =
        app.router.plugins ++ [newPlugin cls given sink] := rfl
    exact run_forEach_tell_last hr (Router.ne_of_plugin?_eq_none hnew) (app.router.table.getD [])

/-- What attaching leaves: nothing new, the scopes of a plugin whose settings are refused, or a
plugin that comes last and is configured. -/
theorem state_attach (name : Value) (given : Settings) (sink : Option Sink) (app : Application) :
    ((attach name given sink).run app).state = app ∨
    ∃ cls, app.router.plugin? cls.code = none ∧
      (((attach name given sink).run app).state =
        app.withStore (app.router.store.withScopes cls.code) ∨
      ∃ store seen, Plugin.configure cls (settingsFor cls given sink)
          (app.router.store.withScopes cls.code) = .ok store ∧
        ((attach name given sink).run app).state = (app.withStore store).withPlugins
          (app.router.plugins ++ [⟨cls, sinkFor cls given sink, seen, []⟩])) := by
  rw [run_attach]
  cases ha : admission name given app with
  | error fault => exact .inl rfl
  | ok cls =>
    have hc : app.router.plugin? cls.code = none := plugin?_of_admission ha
    refine .inr ⟨cls, hc, ?_⟩
    dsimp only
    rw [run_enroll hc]
    cases hs : Plugin.configure cls (settingsFor cls given sink)
        (app.router.store.withScopes cls.code) with
    | error fault => exact .inl rfl
    | ok store =>
      obtain ⟨seen, hseen⟩ : ∃ seen, (newPlugin cls given sink).hears
          (((app.withStore store).listener cls).told (app.router.table.getD [])) =
            ⟨cls, sinkFor cls given sink, seen, []⟩ := ⟨_, rfl⟩
      refine .inr ⟨store, seen, rfl, ?_⟩
      dsimp only
      rw [hseen]

end Application

end Routing
