import Routing.Proofs.Host.Wildcards
import Routing.Proofs.Reverse.Search
import Routing.Proofs.Table.Again

/-!
# How endpoints are named

A target is cut at its first dot, so no controller of an endpoint holds a dot, and joining the two
parts again loses nothing (`Endpoint.action_eq_action_iff`).  So what a search for a target finds in
a table can be read off the lines of the routes file, one after the other: the path of each line
with this target, and from each wildcard of its controller the path for the method, if the method is
exported (`Builds.patterns`).  Main statement: `endpoints_named_as_written`.
-/

namespace Routing

/-! ### Controllers and methods, joined by a dot -/

theorem Text.append_dot_inj {c c' m m' : Text} (h : '.' ∉ c) (h' : '.' ∉ c') :
    c ++ '.' :: m = c' ++ '.' :: m' ↔ c = c' ∧ m = m' := by
  constructor
  · intro he
    have hcut := congrArg (Text.cutAt '.') he
    rw [Text.cutAt_append_cons h, Text.cutAt_append_cons h'] at hcut
    exact Prod.mk.inj hcut
  · rintro ⟨rfl, rfl⟩
    rfl

/-- An endpoint's controller has a name, and no dot in it. -/
def Endpoint.HasController (e : Endpoint) : Prop := e.controller ≠ [] ∧ '.' ∉ e.controller

/-- An action tells the controller and the method. -/
theorem Endpoint.action_eq_action_iff {e e' : Endpoint} (h : e.HasController)
    (h' : e'.HasController) :
    e.action = e'.action ↔ e.controller = e'.controller ∧ e.method = e'.method :=
  Text.append_dot_inj h.2 h'.2

/-- A verb is its word in lower case. -/
theorem Verb.name_of_ofWord? {word : Text} {v : Verb} (h : Verb.ofWord? word = some v) :
    v.name = word.map Char.toLower := by
  unfold ofWord? at h
  simpa using List.find?_some h

/-- What a loaded controller exports. -/
def ControllerCache.exported (cache : ControllerCache) (controller : Text) : List Text :=
  match (Assoc.get? controller cache.loaded).map Module.exports with
  | some (.ok names) => names
  | _ => []

theorem ControllerCache.exported_of_exports {cache : ControllerCache} {controller : Text}
    {m : Module} {names : List Text} (hg : Assoc.get? controller cache.loaded = some m)
    (hm : m.exports = .ok names) : cache.exported controller = names := by
  unfold exported
  rw [hg, Option.map_some, hm]

namespace Expander

open Directive

variable {x : Expander} {t : FileTree} {verb path target controller method line : Text}
  {extra lines : List Text} {es : List Entry} {cache cache' c : ControllerCache}
  {entry : Entry} {v : Verb}

/-! ### What a line gives to a method -/

theorem isWildcardOf_iff :
    x.IsWildcardOf target controller ↔
      Target.ofText? x.marks target = .ok (some (.wildcard controller)) := by
  refine ⟨ofText?_of_isWildcardOf, fun h => ?_⟩
  rcases x.target_cases target with hm | hm | hm | ⟨c, m, hm⟩ | ⟨c, hw⟩
  · exact nomatch (Target.ofText?_of_isUnusable hm).symm.trans h
  · exact nomatch (Target.ofText?_of_isAtStart hm).symm.trans h
  · exact nomatch (ofText?_of_isNothing hm).symm.trans h
  · exact nomatch (ofText?_of_isMethodOf hm).symm.trans h
  · have he := (ofText?_of_isWildcardOf hw).symm.trans h
    simp only [Except.ok.injEq, Option.some.injEq, Target.wildcard.injEq] at he
    exact he ▸ hw

instance (x : Expander) (target controller : Text) : Decidable (x.IsWildcardOf target controller) :=
  decidable_of_iff _ isWildcardOf_iff.symm

/-- The patterns that the fields of a line give to a method: the path, if the target is the method,
and the path with the method's name in it for each time that the method is exported, if the target
is the wildcard of its controller. -/
def patternsOf (x : Expander) (cache : ControllerCache) (controller method path target : Text) :
    List Text :=
  if target = controller ++ '.' :: method then [path]
  else if x.IsWildcardOf target controller then
    ((cache.exported controller).filter (· == method)).map
      fun name => Text.replaceAll x.marks.wildcard name path
  else []

/-- The patterns that a line gives to a method. -/
def patternsOn (x : Expander) (cache : ControllerCache) (controller method line : Text) :
    List Text :=
  match fields line with
  | _ :: path :: target :: _ => x.patternsOf cache controller method path target
  | _ => []

theorem patternsOn_of_spells (h : Spells line (verb :: path :: target :: extra))
    (cache : ControllerCache) (controller method : Text) :
    x.patternsOn cache controller method line =
      x.patternsOf cache controller method path target := by
  unfold patternsOn
  rw [spells_iff.1 h]

/-! ### What a line gives -/

/-- The entries of a wildcard that are of a method: one for each time that it is exported. -/
theorem endpointsOf_endpoints (h : '.' ∉ controller) (v : Verb) (path method : Text)
    (names : List Text) :
    (Table.endpointsOf (controller ++ '.' :: method) (x.endpoints v path controller names)).map
        Endpoint.pattern =
      (names.filter (· == method)).map fun name => Text.replaceAll x.marks.wildcard name path := by
  unfold endpoints
  induction names with
  | nil => rfl
  | cons name names ih =>
    let e : Endpoint := ⟨v, Text.replaceAll x.marks.wildcard name path, controller, name⟩
    rw [List.map_cons]
    by_cases hn : name = method
    · have ha : e.action = controller ++ '.' :: method := congrArg (controller ++ '.' :: ·) hn
      rw [Table.endpointsOf_cons_self ha, List.map_cons, ih,
        List.filter_cons_of_pos (by simpa using hn), List.map_cons]
    · have ha : e.action ≠ controller ++ '.' :: method :=
        fun ha => hn ((Text.append_dot_inj h h).1 ha).2
      rw [Table.endpointsOf_cons_of_ne ha, ih, List.filter_cons_of_neg (by simpa using hn)]

/-- A wildcard has no entry of another controller. -/
theorem endpointsOf_endpoints_of_ne {other : Text} (h : '.' ∉ controller) (ho : '.' ∉ other)
    (hne : other ≠ controller) (v : Verb) (path method : Text) (names : List Text) :
    Table.endpointsOf (controller ++ '.' :: method) (x.endpoints v path other names) = [] := by
  refine Reverse.endpointsOf_eq_nil_iff.2 fun e hm ha => ?_
  obtain ⟨name, -, he⟩ := List.mem_map.1 hm
  obtain rfl := Entry.endpoint.inj he
  exact hne ((Text.append_dot_inj ho h).1 ha).1

/-- What a search for a method finds of a line is what the line gives to the method. -/
theorem Expands.patterns {named : Text} (h : x.Expands t verb path target cache es cache')
    (hi : c.Includes cache') (hm : x.IsMethodOf named controller method) :
    (Table.endpointsOf named es).map Endpoint.pattern =
      x.patternsOf c controller method path target := by
  obtain ⟨-, ⟨hnamed, hdot, -, -⟩, -⟩ := id hm
  have hwildcard {other : Text} (hw : x.IsWildcardOf target other) :
      (Table.endpointsOf named es).map Endpoint.pattern =
        x.patternsOf c controller method path target := by
    obtain ⟨m, names, v, hl, hnames, -, rfl⟩ := h.exports hw
    have hne : target ≠ controller ++ '.' :: method := by
      rintro rfl
      exact not_isWildcardOf_of_isMethodOf (hnamed ▸ hm) other hw
    unfold patternsOf
    rw [if_neg hne, hnamed]
    by_cases ho : other = controller
    · subst ho
      rw [if_pos hw, ControllerCache.exported_of_exports (hi _ m hl.get?) hnames,
        endpointsOf_endpoints hdot]
    · rw [if_neg fun hw' => ho (hw'.unique hw), endpointsOf_endpoints_of_ne hdot hw.2.2.1 ho]
      rfl
  cases h with
  | folder hs hv =>
    have hne : target ≠ controller ++ '.' :: method := by
      rintro rfl
      rw [hnamed] at hm
      exact nomatch (Target.ofText?_of_isAtStart hs).symm.trans (ofText?_of_isMethodOf hm)
    unfold patternsOf
    rw [if_neg hne, if_neg (not_isWildcardOf_of_isAtStart hs controller)]
    rfl
  | @endpoint controller' method' v _ hm' hv =>
    obtain ⟨-, ⟨htarget, -, -, -⟩, -⟩ := id hm'
    unfold patternsOf
    by_cases ht : target = controller ++ '.' :: method
    · have ha : Endpoint.action ⟨v, path, controller', method'⟩ = named :=
        htarget.symm.trans (ht.trans hnamed.symm)
      rw [if_pos ht, Table.endpointsOf_cons_self ha]
      rfl
    · have ha : Endpoint.action ⟨v, path, controller', method'⟩ ≠ named :=
        fun ha => ht (htarget.trans (ha.trans hnamed))
      rw [if_neg ht, if_neg (not_isWildcardOf_of_isMethodOf hm' controller),
        Table.endpointsOf_cons_of_ne ha]
      rfl
  | wildcard hw => exact hwildcard hw
  | nothing hw => exact hwildcard hw

/-- The entries of a line have its verb in lower case, and their controllers have names without a
dot. -/
theorem Expands.wellNamed (h : x.Expands t verb path target cache es cache') (hm : entry ∈ es) :
    entry.verb.name = verb.map Char.toLower ∧ ∀ e, entry = .endpoint e → e.HasController := by
  cases h with
  | folder _ hv =>
    obtain rfl := List.mem_singleton.1 hm
    exact ⟨Verb.name_of_ofWord? hv, fun e he => nomatch he⟩
  | endpoint hm' hv =>
    obtain rfl := List.mem_singleton.1 hm
    refine ⟨Verb.name_of_ofWord? hv, ?_⟩
    rintro e ⟨⟩
    exact ⟨hm'.2.1.2.2.1, hm'.2.1.2.1⟩
  | wildcard hw _ _ hv =>
    obtain ⟨name, -, rfl⟩ := List.mem_map.1 hm
    refine ⟨Verb.name_of_ofWord? hv, ?_⟩
    rintro e ⟨⟩
    exact ⟨hw.2.2.2.1, hw.2.2.1⟩
  | nothing => exact absurd hm List.not_mem_nil

/-- A line whose target is neither a folder nor a wildcard gives one entry, which has the target for
its action and the path for its pattern. -/
theorem Expands.endpoint_of_target (h : x.Expands t verb path target cache es cache')
    (hs : ¬ x.marks.folderMark.IsAtStart target) (hw : ∀ name, ¬ x.IsWildcardOf target name) :
    ∃ e, es = [.endpoint e] ∧ e.action = target ∧ e.pattern = path ∧
      e.verb.name = verb.map Char.toLower := by
  cases h with
  | folder h => exact absurd h hs
  | @endpoint controller method v _ hm hv =>
    exact ⟨⟨v, path, controller, method⟩, rfl, hm.2.1.1.symm, rfl, Verb.name_of_ofWord? hv⟩
  | wildcard h => exact absurd h (hw _)
  | nothing h => exact absurd h (hw _)

/-! ### What some lines give -/

/-- What a search for a method finds of some lines is what they give to it, line by line. -/
theorem Builds.patterns {named : Text} (h : x.Builds t lines cache es cache')
    (hi : c.Includes cache') (hm : x.IsMethodOf named controller method) :
    (Table.endpointsOf named es).map Endpoint.pattern =
      lines.flatMap (x.patternsOn c controller method) := by
  induction h with
  | nil cache => rfl
  | cons hs he hb ih =>
    rw [Table.endpointsOf_append, List.map_append, List.flatMap_cons, patternsOn_of_spells hs,
      he.patterns (hi.trans hb.includes) hm, ih hi]

end Expander

namespace Application

open Directive

variable {app : Application} {es : List Entry}

/-- Whoever has the entries can search them, now and as long as the table is kept. -/
theorem run_endpointsOf (he : (entries.run app).result = .ok es) (action : Text)
    {later : Application} (hl : later = app ∨ later.router.table = some es) :
    ((endpointsOf action).run later).result = .ok (Table.endpointsOf action es) := by
  have hw : (walk.run later).result = .ok es := by
    rcases hl with rfl | hl
    · exact (congrArg Outcome.result (Step.run_mapFault_of_result he)).trans he
    · exact congrArg Outcome.result (Table.run_walk_of_built hl recipe)
  unfold endpointsOf
  rw [Step.run_bind_of_result hw]
  rfl

/-- A table that is built from a routes file names its endpoints as they are written there.  The
verbs are those of the lines in lower case.  Controllers have names without dots, so that two
endpoints have one action exactly if they have one controller and one method.  A line whose target
is neither a folder nor a wildcard gives one endpoint, with the target for its action and the path
for its pattern.  And a search for such a target finds, in the order of the lines, the paths of the
lines with this target, and what the wildcards of its controller have given to the method. -/
theorem endpoints_named_as_written (hn : app.router.table = none)
    (he : (entries.run app).result = .ok es) :
    ∃ text, app.routesText = .ok text ∧
    let x := app.router.expander
    let expanded := (entries.run app).state.router.controllers
    (∀ entry ∈ es, entry.verb.name ∈ (["delete", "get", "post", "put"] : List Text) ∧
      ∃ line ∈ kept text, ∃ verb rest, Spells line (verb :: rest) ∧
        entry.verb.name = verb.map Char.toLower) ∧
    (∀ e, .endpoint e ∈ es → e.controller ≠ [] ∧ '.' ∉ e.controller) ∧
    (∀ e e', .endpoint e ∈ es → .endpoint e' ∈ es →
      (e.action = e'.action ↔ e.controller = e'.controller ∧ e.method = e'.method)) ∧
    (∀ before line after verb path target extra, kept text = before ++ line :: after →
      Spells line (verb :: path :: target :: extra) → ¬ x.marks.folderMark.IsAtStart target →
      (∀ controller, ¬ x.IsWildcardOf target controller) →
      ∃ es₁ cache₁ e es₂, app.Builds before es₁ cache₁ ∧ es = es₁ ++ .endpoint e :: es₂ ∧
        e.action = target ∧ e.pattern = path ∧ e.verb.name = verb.map Char.toLower) ∧
    ∀ target controller method, x.IsMethodOf target controller method →
      ∃ served : List Endpoint,
        (∀ later : Application, later = app ∨ later.router.table = some es →
          ((endpointsOf target).run later).result = .ok served) ∧
        served.map Endpoint.pattern =
          (kept text).flatMap (x.patternsOn expanded controller method) := by
  obtain ⟨text, cache', app', ht, hb, ⟨plugins, rfl, -⟩, hs⟩ := builds_of_entries hn he
  refine ⟨text, ht, ?_⟩
  intro x expanded
  have hexpanded : expanded = cache' := congrArg (fun a => a.router.controllers) hs
  have hnamed {e : Endpoint} (h : .endpoint e ∈ es) : e.HasController := by
    obtain ⟨_, -, _, _, _, _, _, _, _, -, hline, hm⟩ := Expander.Builds.exists_line hb h
    exact (hline.wellNamed hm).2 e rfl
  refine ⟨fun entry hm => ⟨by cases entry.verb <;> decide, ?_⟩, fun e h => hnamed h,
    fun e e' h h' => Endpoint.action_eq_action_iff (hnamed h) (hnamed h'), ?_, ?_⟩
  · obtain ⟨line, hl, verb, path, target, extra, _, _, _, hspells, hline, hm⟩ :=
      Expander.Builds.exists_line hb hm
    exact ⟨line, hl, verb, path :: target :: extra, hspells, (hline.wellNamed hm).1⟩
  · intro before line after verb path target extra hk hl hfolder hw
    obtain ⟨es₁, cache₁, block, _, es₂, hbefore, hline, -, rfl⟩ :=
      Expander.Builds.split (hk ▸ hb) hl
    obtain ⟨e, rfl, ha, hp, hv⟩ := hline.endpoint_of_target hfolder hw
    exact ⟨es₁, cache₁, e, es₂, hbefore, by simp, ha, hp, hv⟩
  · intro target controller method hm
    refine ⟨Table.endpointsOf target es, fun later hl => run_endpointsOf he target hl, ?_⟩
    exact Expander.Builds.patterns hb (hexpanded ▸ ControllerCache.includes_refl _) hm

/-- A router for a method that a wildcard gives, and that one line has for its target. -/
def twiceNamedRouter : Application :=
  withRoutes "GET /\x7bmethod\x7d a.\x7bmethod\x7d\nPost /x a.b\n" [("a", ⟨oneMember, none⟩)]

theorem endpoints_named_as_written_twice :
    ∃ served : List Endpoint, ((endpointsOf "a.b").run twiceNamedRouter).result = .ok served ∧
      served.map Endpoint.pattern = ["/b", "/x"] := by
  have he : (entries.run twiceNamedRouter).result =
      .ok [.endpoint ⟨.get, "/b", "a", "b"⟩, .endpoint ⟨.post, "/x", "a", "b"⟩] := by
    decide +kernel
  obtain ⟨text, ht, -, -, -, -, hserved⟩ := endpoints_named_as_written rfl he
  have hm : twiceNamedRouter.router.expander.IsMethodOf "a.b" "a" "b" :=
    ⟨⟨["staticDir:"], rfl, by decide⟩, ⟨rfl, by decide, by decide, by decide⟩, by decide⟩
  obtain ⟨served, hr, hp⟩ := hserved "a.b" "a" "b" hm
  refine ⟨served, hr _ (.inl rfl), hp.trans ?_⟩
  obtain rfl : text = _ := Except.ok.inj (ht.symm.trans rfl)
  decide +kernel

end Application

end Routing
