import Routing.Proofs.Controller.Homes
import Routing.Proofs.Host.Wildcards
import Routing.Proofs.Text.Replacing

/-!
# Entries of a wildcard do not collide

Whatever has been done with the controllers of a cache, none of them has a name twice
(`ControllerCache.Reached.namesOnce`).  So a wildcard stands for each method once, and the actions
of its entries differ.  Their patterns differ if the word for the wildcard is in the pattern, since
then the pattern of an entry tells its method (`Text.replaceAll_injective`).  Main statement:
`wildcard_entries_never_collide`.
-/

namespace Routing

/-! ### The caches that there can be -/

namespace ControllerCache

/-- The caches that come of an empty one when controllers are used, any objects are called and lines
are expanded, whatever files there are each time and however it ends. -/
inductive Reached (base : Path) : ControllerCache → Prop where
  | start : Reached base (ofBase base)
  | used {cache : ControllerCache} (use : Use) :
      Reached base cache → Reached base (use.step.run cache).state
  | called {cache : ControllerCache} (object : Object) (args : Arguments) :
      Reached base cache → Reached base ((call object args).run cache).state
  | expanded {cache : ControllerCache} (x : Expander) (files : FileTree)
      (verb path target : Text) :
      Reached base cache → Reached base ((x.expand files verb path target).run cache).state

/-- No controller that is loaded has a name twice. -/
def NamesOnce (cache : ControllerCache) : Prop := ∀ p ∈ cache.loaded, p.2.NamesOnce

/-- However a step on a cache ends, no controller has a name twice if none had before. -/
abbrev KeepsNamesOnce {α : Type} (x : Step ControllerCache α) : Prop :=
  Step.Moves (fun cache cache' => cache.NamesOnce → cache'.NamesOnce) x

variable {α β : Type} {t : FileTree} {name : Text} {base p : Path} {count : Nat} {m : Module}
  {names : Assoc Object} {cache cache' : ControllerCache}

theorem nodup_carryOut (h : carryOut t p count = .ok names) : names.keys.Nodup := by
  unfold carryOut at h
  split at h
  · exact Source.nodup_run h
  · obtain ⟨_, -, h⟩ := exists_of_bind_eq_ok h
    obtain rfl := Except.ok.inj h
    exact Source.nodup_startingNames _ _
  · obtain ⟨_, -, h⟩ := exists_of_bind_eq_ok h
    obtain rfl := Except.ok.inj h
    exact Source.nodup_startingNames _ _
  · obtain rfl := Except.ok.inj h
    exact Source.nodup_startingNames _ _

theorem namesOnce_of_execute (h : execute t base count name = .ok (p, m)) : m.NamesOnce := by
  unfold execute at h
  obtain ⟨found, -, h⟩ := exists_of_bind_eq_ok h
  cases found with
  | none => exact nomatch h
  | some p' =>
    cases hc : carryOut t p' count with
    | error fault =>
      simp only [hc] at h
      exact nomatch h
    | ok names =>
      simp only [hc] at h
      obtain ⟨-, rfl⟩ := Prod.mk.inj (Except.ok.inj h)
      exact nodup_carryOut hc

theorem loads_of_fetch (h : ((fetch t name).run cache).result = .ok m) :
    ∃ cache', cache.Loads t name m cache' := by
  rcases loads_or_failsToLoad t name cache with ⟨m', cache', hl⟩ | ⟨fault, hf⟩
  · obtain rfl := Except.ok.inj (hl.ends.result.symm.trans h)
    exact ⟨cache', hl⟩
  · exact nomatch hf.ends.result.symm.trans h

theorem NamesOnce.loads (h : cache.NamesOnce) (hl : cache.Loads t name m cache') :
    m.NamesOnce ∧ cache'.NamesOnce := by
  cases hl with
  | kept hg => exact ⟨h _ (Assoc.mem_of_get? hg), h⟩
  | carriedOut hg he =>
    have hm := namesOnce_of_execute he
    refine ⟨hm, fun p hp => ?_⟩
    rcases List.mem_append.1 hp with hp | hp
    · exact h p hp
    · rw [List.mem_singleton.1 hp]
      exact hm

theorem NamesOnce.set (h : cache.NamesOnce) (name : Text) (hm : m.NamesOnce) :
    NamesOnce { cache with loaded := Assoc.set name m cache.loaded } :=
  Assoc.forall_mem_set h hm

theorem KeepsNamesOnce.bind {x : Step ControllerCache α} {f : α → Step ControllerCache β}
    (hx : KeepsNamesOnce x) (hf : ∀ a, KeepsNamesOnce (f a)) : KeepsNamesOnce (x >>= f) :=
  Step.Moves.bind (fun _ _ _ h h' hc => h' (h hc)) hx hf

theorem keepsNamesOnce_of_reads {x : Step ControllerCache α} (hx : Step.Reads x) :
    KeepsNamesOnce x := hx.moves fun _ => id

/-- What goes on with a controller after it has been fetched may rely on its names. -/
theorem keepsNamesOnce_fetch_bind {f : Module → Step ControllerCache α}
    (hf : ∀ m cache, m.NamesOnce → cache.NamesOnce → ((f m).run cache).state.NamesOnce) :
    KeepsNamesOnce (fetch t name >>= f) := by
  intro cache h
  rcases loads_or_failsToLoad t name cache with ⟨m, cache', hl⟩ | ⟨fault, hl⟩
  · obtain ⟨events, he⟩ := hl.ends
    obtain ⟨hm, h'⟩ := h.loads hl
    rw [Step.run_bind, he, Outcome.andThen_ok]
    exact hf m cache' hm h'
  · rw [(hl.ends.bind_of_fault f).state]
    exact h

theorem keepsNamesOnce_callable (t : FileTree) (name method : Text) :
    KeepsNamesOnce (callable t name method) := by
  rw [callable_eq]
  refine keepsNamesOnce_fetch_bind fun m cache hm h => ?_
  rw [run_lookUp]
  unfold afterAsking
  split
  · exact h.set name (hm.asked method)
  · exact h

theorem keepsNamesOnce_call (object : Object) (args : Arguments) :
    KeepsNamesOnce (call object args) := by
  intro cache h
  rw [run_call]
  rcases afterCall_cases object args cache with hs | ⟨name, m, v, names, ho, hc, -, hs⟩
  · rw [hs]
    exact h
  · rw [hs]
    have hm : m.NamesOnce := h _ (List.mem_of_find?_eq_some ho)
    exact h.set name (hm.call hc)

theorem keepsNamesOnce_use (use : Use) : KeepsNamesOnce use.step := by
  cases use with
  | load files name => exact keepsNamesOnce_fetch_bind fun _ _ _ h => h
  | resolve files name method =>
    exact (keepsNamesOnce_callable files name method).bind fun _ =>
      keepsNamesOnce_of_reads (Step.reads_pure ())
  | forget =>
    intro cache h
    rcases run_forgetAll cache with hr | ⟨fault, hr⟩
    · rw [Use.step, hr]
      exact fun p hp => absurd hp List.not_mem_nil
    · rw [Use.step, hr]
      exact h

theorem keepsNamesOnce_expand (x : Expander) (t : FileTree) (verb path target : Text) :
    KeepsNamesOnce (x.expand t verb path target) := by
  refine (keepsNamesOnce_of_reads (Step.reads_ofExcept _)).bind fun found => ?_
  have entry (e : Except Fault Entry) : KeepsNamesOnce (do pure [← Step.ofExcept e]) :=
    keepsNamesOnce_of_reads ((Step.reads_ofExcept e).bind fun _ => Step.reads_pure _)
  rcases found with _ | directory | controller | ⟨controller, method⟩
  · exact keepsNamesOnce_of_reads (Step.reads_fail _)
  · exact entry _
  · refine keepsNamesOnce_fetch_bind fun m cache hm h => ?_
    refine keepsNamesOnce_of_reads (Step.Reads.bind (Step.reads_ofExcept _) fun names =>
      Step.Reads.bind (Step.reads_ofExcept _) fun es => ?_) cache h
    exact Step.Reads.bind (Step.moves_log (fun _ => rfl) _ _) fun _ => Step.reads_pure es
  · exact entry _

/-- However a cache has come to be, none of its controllers has a name twice. -/
theorem Reached.namesOnce (h : Reached base cache) : cache.NamesOnce := by
  induction h with
  | start => exact fun p hp => absurd hp List.not_mem_nil
  | used use _ ih => exact keepsNamesOnce_use use _ ih
  | called object args _ ih => exact keepsNamesOnce_call object args _ ih
  | expanded x files verb path target _ ih =>
    exact keepsNamesOnce_expand x files verb path target _ ih

end ControllerCache

/-! ### What tells entries apart -/

namespace Expander

variable {x : Expander} {t : FileTree} {v : Verb} {verb path target controller : Text}
  {names : List Text} {base : Path} {cache : ControllerCache} {m : Module}

theorem actions_endpoints : (x.endpoints v path controller names).filterMap Entry.action? =
    names.map fun name => controller ++ '.' :: name := by
  unfold endpoints
  rw [List.filterMap_map, ← List.filterMap_eq_map]
  rfl

theorem patterns_endpoints : (x.endpoints v path controller names).map Entry.pattern =
    names.map fun name => Text.replaceAll x.marks.wildcard name path := by
  unfold endpoints
  rw [List.map_map]
  rfl

theorem nodup_actions_endpoints (h : names.Nodup) :
    ((x.endpoints v path controller names).filterMap Entry.action?).Nodup := by
  rw [actions_endpoints]
  refine List.Pairwise.map _ (fun name name' hne he => hne ?_) h
  exact (List.cons_eq_cons.1 (List.append_cancel_left he)).2

theorem nodup_patterns_endpoints (hw : x.IsWildcardOf target controller)
    (hp : x.marks.wildcard <:+: path) (h : names.Nodup) :
    ((x.endpoints v path controller names).map Entry.pattern).Nodup := by
  rw [patterns_endpoints]
  obtain ⟨-, -, -, -, hne⟩ := hw
  exact List.Pairwise.map _ (fun name name' hd he => hd (Text.replaceAll_injective hne hp he)) h

theorem reached_wildcardRouter (members : List Member) :
    ControllerCache.Reached ((Path.ofText "/srv").joinText "app/controllers/")
      (Application.wildcardRouter members).router.controllers := .start

theorem isWildcardOf_wildcardRouter (members : List Member) :
    (Application.wildcardRouter members).router.expander.IsWildcardOf "a.\x7bmethod\x7d" "a" :=
  ⟨⟨["staticDir:"], rfl, by decide⟩, rfl, by decide, by decide, List.cons_ne_nil _ _⟩

/-- The entries of a wildcard do not collide.  If the controller lists no exports, they are for the
public names of what can be called and is at home in it, one for each and in the order of its names;
no two of them have one action, and if the word for the wildcard is in the pattern, no two have one
pattern.  They are given whenever the verb is one and the controller has a name of its own.  If none
of its members touches that name, what is at home in a controller is what its own members have made,
unless some of that passes for something from elsewhere. -/
theorem wildcard_entries_never_collide (hc : ControllerCache.Reached base cache)
    (hw : x.IsWildcardOf target controller) (hp : x.marks.wildcard <:+: path)
    (hm : ((ControllerCache.fetch t controller).run cache).result = .ok m)
    (hl : m.ListsNothing) :
    (∀ es, ((x.expand t verb path target).run cache).result = .ok es →
      (∃ v, (es ≠ [] → Verb.ofWord? verb = some v) ∧
        es = x.endpoints v path controller m.homeCallables) ∧
      (es.filterMap Entry.action?).Nodup ∧ (es.map Entry.pattern).Nodup) ∧
    (∀ v own, Verb.ofWord? verb = some v → m.ownName = .ok own →
      ((x.expand t verb path target).run cache).result =
        .ok (x.endpoints v path controller m.homeCallables)) ∧
    ∀ source : Source, source.LeavesOwnName → source.Leaves m →
      (m.homeCallables = m.madeCallables ↔ m.BorrowsNothing) := by
  obtain ⟨cache', hload⟩ := ControllerCache.loads_of_fetch hm
  have honce : m.NamesOnce := (hc.namesOnce.loads hload).1
  refine ⟨fun es he => ?_, fun v own hv ho => ?_, fun source hs h =>
    Source.homeCallables_of_leaves hs h⟩
  · rcases x.expands_or_refuses t verb path target cache with ⟨es', cache'', hx⟩ |
      ⟨fault, cache'', hx⟩
    · obtain rfl := Except.ok.inj (hx.ends.result.symm.trans he)
      obtain ⟨m', names, v, hload', hexports, hv, rfl⟩ := hx.exports hw
      obtain rfl := Except.ok.inj (hload'.ends.result.symm.trans hm)
      obtain rfl := Module.exports_eq_homeCallables honce hl hexports
      have hnodup := Module.nodup_homeCallables honce
      refine ⟨⟨v, fun hne => hv fun hnil => hne ?_, rfl⟩, ?_⟩
      · rw [hnil]
        rfl
      · exact ⟨nodup_actions_endpoints hnodup, nodup_patterns_endpoints hw hp hnodup⟩
    · exact nomatch hx.ends.result.symm.trans he
  · obtain ⟨exported, he⟩ := Module.exists_exports honce hl ho
    obtain rfl := Module.exports_eq_homeCallables honce hl he
    exact (Expands.wildcard hw hload he hv).ends.result

/-- A controller with a callable that has a second name, and with one from elsewhere. -/
def aliasing : Source :=
  ⟨[.define "b" (.function "b" "done" none), .synonym "c" "b", .define "d" .imported], none⟩

/-- A second name of a callable counts, and the word for the wildcard may be there twice. -/
theorem wildcard_entries_never_collide_aliasing :
    let app := Application.wildcardRouter aliasing.members
    ∃ es m, ((app.router.expander.expand app.files "GET" "/\x7bmethod\x7d/\x7bmethod\x7d"
        "a.\x7bmethod\x7d").run app.router.controllers).result = .ok es ∧
      ((ControllerCache.fetch app.files "a").run app.router.controllers).result = .ok m ∧
      m.homeCallables = m.madeCallables ∧ (es.filterMap Entry.action?).Nodup ∧
      es.map Entry.pattern = ["/b/b".toList, "/c/c".toList] ∧ (es.map Entry.pattern).Nodup := by
  intro app
  have he : ((app.router.expander.expand app.files "GET" "/\x7bmethod\x7d/\x7bmethod\x7d"
      "a.\x7bmethod\x7d").run app.router.controllers).result =
        .ok [.endpoint ⟨.get, "/b/b", "a", "b"⟩, .endpoint ⟨.get, "/c/c", "a", "c"⟩] := by
    decide +kernel
  have hfacts : ((ControllerCache.fetch app.files "a").run app.router.controllers).result.map
      (fun m => (m.object? "__all__", decide (m.BorrowsNothing ∧
        aliasing.run (Path.ofText "/srv/app/controllers/a.py") m.loading = .ok m.names))) =
        .ok (.ok none, true) := by
    decide +kernel
  have hc := reached_wildcardRouter aliasing.members
  have hw := isWildcardOf_wildcardRouter aliasing.members
  have hp : app.router.expander.marks.wildcard <:+: "/\x7bmethod\x7d/\x7bmethod\x7d".toList :=
    ⟨"/", "/\x7bmethod\x7d", rfl⟩
  cases hm : ((ControllerCache.fetch app.files "a").run app.router.controllers).result with
  | error fault =>
    rw [hm] at hfacts
    exact nomatch hfacts
  | ok m =>
    rw [hm] at hfacts
    obtain ⟨hall, hrun⟩ := Prod.mk.inj (Except.ok.inj hfacts)
    obtain ⟨hborrows, hrun⟩ := of_decide_eq_true hrun
    have hleaves : aliasing.Leaves m := ⟨_, _, hrun, m.isLater_refl⟩
    have hown : aliasing.LeavesOwnName := by
      unfold Source.LeavesOwnName
      decide
    obtain ⟨hes, -, hmade⟩ := @wildcard_entries_never_collide app.router.expander app.files "GET"
      _ _ _ _ _ _ hc hw hp hm (.inl hall)
    obtain ⟨-, hactions, hpatterns⟩ := hes _ he
    exact ⟨_, m, he, rfl, (hmade aliasing hown hleaves).2 hborrows, hactions, rfl, hpatterns⟩

/-- A controller that takes the name of the one that it has something from. -/
def renamed : List Member :=
  [.define "a" (.function "a" "done" none), .define "d" .imported,
    .define "__name__" (.constant (.text "json"))]

/-- A controller can change its own name, and then what it has made itself is not at home in it. -/
theorem not_forall_wildcard_gives_made : ¬ ∀ (base : Path) (cache : ControllerCache)
    (x : Expander) (t : FileTree) (verb path target controller : Text) (m : Module)
    (es : List Entry), ControllerCache.Reached base cache → x.IsWildcardOf target controller →
      x.marks.wildcard <:+: path →
      ((ControllerCache.fetch t controller).run cache).result = .ok m →
      m.object? "__all__" = .ok none →
      ((x.expand t verb path target).run cache).result = .ok es →
      ∃ v, es = x.endpoints v path controller m.madeCallables := by
  intro h
  let app := Application.wildcardRouter renamed
  have he : ((app.router.expander.expand app.files "GET" "/\x7bmethod\x7d"
      "a.\x7bmethod\x7d").run app.router.controllers).result =
        .ok [.endpoint ⟨.get, "/d", "a", "d"⟩] := by
    decide +kernel
  have hfacts : ((ControllerCache.fetch app.files "a").run app.router.controllers).result.map
      (fun m => (m.object? "__all__", m.madeCallables)) = .ok (.ok none, ["a".toList]) := by
    decide +kernel
  have hc := reached_wildcardRouter renamed
  have hw := isWildcardOf_wildcardRouter renamed
  have hp : app.router.expander.marks.wildcard <:+: "/\x7bmethod\x7d".toList :=
    ⟨"/", [], rfl⟩
  cases hm : ((ControllerCache.fetch app.files "a").run app.router.controllers).result with
  | error fault =>
    rw [hm] at hfacts
    exact nomatch hfacts
  | ok m =>
    rw [hm] at hfacts
    obtain ⟨hall, hmade⟩ := Prod.mk.inj (Except.ok.inj hfacts)
    obtain ⟨v, hes⟩ := h _ _ app.router.expander app.files "GET" _ _ _ m _ hc hw hp hm hall he
    have hactions := congrArg (List.filterMap Entry.action?) hes
    rw [actions_endpoints, hmade] at hactions
    exact absurd hactions (by decide)

end Expander

end Routing
