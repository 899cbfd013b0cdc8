import Routing.Proofs.Directive.Lines
import Routing.Proofs.Expansion.Lines

/-!
# What some lines build

`Expander.Builds` says which entries some lines give one after the other, each line starting with
the controllers that the one before has left, and `Expander.StopsAt` says that a line is refused
after the lines before it have given entries.  One of the two is always so (`builds_or_stopsAt`), and
expanding the directives of the lines does the same (`Builds.ends`, `StopsAt.ends`).
-/

namespace Routing.Expander

open Directive

/-- The entries that some lines give in their order, and the controllers that are loaded then. -/
inductive Builds (x : Expander) (t : FileTree) :
    List Text → ControllerCache → List Entry → ControllerCache → Prop where
  | nil (cache : ControllerCache) : Builds x t [] cache [] cache
  | cons {line verb path target : Text} {extra lines : List Text} {es rest : List Entry}
      {cache cache₁ cache' : ControllerCache} :
      Spells line (verb :: path :: target :: extra) →
      x.Expands t verb path target cache es cache₁ → Builds x t lines cache₁ rest cache' →
      Builds x t (line :: lines) cache (es ++ rest) cache'

/-- Some lines give entries, and the next one is refused. -/
def StopsAt (x : Expander) (t : FileTree) (before : List Text) (line : Text)
    (cache : ControllerCache) (fault : Fault) (cache' : ControllerCache) : Prop :=
  ∃ es cache₁ verb path target extra, x.Builds t before cache es cache₁ ∧
    Spells line (verb :: path :: target :: extra) ∧
      x.Refuses t verb path target cache₁ fault cache'

/-- The target on a line is the wildcard of a controller. -/
def NamesWildcard (x : Expander) (line controller : Text) : Prop :=
  ∃ verb path target extra, Spells line (verb :: path :: target :: extra) ∧
    x.IsWildcardOf target controller

variable {x : Expander} {t t' : FileTree} {line verb path target : Text}
  {extra lines before : List Text} {cache cache' : ControllerCache} {es : List Entry}
  {fault : Fault}

theorem namesWildcard_iff (h : Spells line (verb :: path :: target :: extra)) (name : Text) :
    x.NamesWildcard line name ↔ x.IsWildcardOf target name := by
  constructor
  · rintro ⟨verb', path', target', extra', h', hw⟩
    have he := (spells_iff.1 h).symm.trans (spells_iff.1 h')
    simp only [List.cons.injEq] at he
    rw [he.2.2.1]
    exact hw
  · exact fun hw => ⟨verb, path, target, extra, h, hw⟩

/-- Lines with fields enough give entries, unless one of them is the first to be refused. -/
theorem builds_or_stopsAt (x : Expander) (t : FileTree) (lines : List Text)
    (h : ∀ line ∈ lines, 3 ≤ (fields line).length) (cache : ControllerCache) :
    (∃ es cache', x.Builds t lines cache es cache') ∨
      ∃ before line after fault cache', lines = before ++ line :: after ∧
        x.StopsAt t before line cache fault cache' := by
  induction lines generalizing cache with
  | nil => exact .inl ⟨[], cache, .nil cache⟩
  | cons line lines ih =>
    obtain ⟨verb, path, target, extra, hl⟩ := exists_fields (h line List.mem_cons_self)
    have hs := spells_iff.2 hl
    rcases expands_or_refuses x t verb path target cache with ⟨es, cache₁, he⟩ | ⟨fault, cache', hr⟩
    · rcases ih (fun l hl => h l (List.mem_cons_of_mem line hl)) cache₁ with ⟨rest, cache', hb⟩ |
        ⟨before, l, after, fault, cache', rfl, rest, cache₂, verb', path', target', extra', hb, hr⟩
      · exact .inl ⟨es ++ rest, cache', .cons hs he hb⟩
      · exact .inr ⟨line :: before, l, after, fault, cache', rfl, es ++ rest, cache₂, verb', path',
          target', extra', .cons hs he hb, hr⟩
    · exact .inr ⟨[], line, lines, fault, cache', rfl, [], cache, verb, path, target, extra,
        .nil cache, hs, hr⟩

/-! ### Where the entries come from -/

/-- Every entry of some lines comes from one of them. -/
theorem Builds.exists_line {entry : Entry} (h : x.Builds t lines cache es cache')
    (hm : entry ∈ es) :
    ∃ line ∈ lines, ∃ verb path target extra block c c',
      Spells line (verb :: path :: target :: extra) ∧
        x.Expands t verb path target c block c' ∧ entry ∈ block := by
  induction h with
  | nil => exact absurd hm List.not_mem_nil
  | cons hs he _ ih =>
    rcases List.mem_append.1 hm with hm | hm
    · exact ⟨_, List.mem_cons_self, _, _, _, _, _, _, _, hs, he, hm⟩
    · obtain ⟨line, hl, hline⟩ := ih hm
      exact ⟨line, List.mem_cons_of_mem _ hl, hline⟩

/-- The entries of one of some lines stand between those of the lines before and after it. -/
theorem Builds.split {after : List Text} (h : x.Builds t (before ++ line :: after) cache es cache')
    (hs : Spells line (verb :: path :: target :: extra)) :
    ∃ es₁ cache₁ block cache₂ es₂, x.Builds t before cache es₁ cache₁ ∧
      x.Expands t verb path target cache₁ block cache₂ ∧ x.Builds t after cache₂ es₂ cache' ∧
        es = es₁ ++ block ++ es₂ := by
  induction before generalizing cache es with
  | nil =>
    cases h with
    | @cons _ verb' path' target' extra' _ block rest _ _ _ hs' he hrest =>
      have hsame := (spells_iff.1 hs').symm.trans (spells_iff.1 hs)
      simp only [List.cons.injEq] at hsame
      obtain ⟨rfl, rfl, rfl, -⟩ := hsame
      exact ⟨[], cache, block, _, rest, .nil cache, he, hrest, rfl⟩
  | cons first before ih =>
    cases h with
    | @cons _ _ _ _ _ _ first _ _ _ _ hs' he hrest =>
      obtain ⟨es₁, cache₁, block, cache₂, es₂, hb, he', ha, rfl⟩ := ih hrest
      refine ⟨first ++ es₁, cache₁, block, cache₂, es₂, .cons hs' he hb, he', ha, ?_⟩
      simp only [List.append_assoc]

/-! ### What expanding the directives does -/

/-- What expanding a directive does. -/
def expandDirective (x : Expander) (t : FileTree) (d : Directive) :
    Step ControllerCache (List Entry) :=
  x.expand t d.verb d.path d.target

theorem directive?_of_spells (h : Spells line (verb :: path :: target :: extra)) (n : Nat) :
    directive? (n, line) = some ⟨n, verb, path, target⟩ := by
  unfold directive?
  rw [spells_iff.1 h]

theorem Builds.ends (h : x.Builds t lines cache es cache') (n : Nat) :
    ∃ bss, bss.flatten = es ∧
      Step.Ends (Step.mapList (x.expandDirective t) ((numberFrom n lines).filterMap directive?))
        cache cache' (.ok bss) := by
  induction h generalizing n with
  | nil cache => exact ⟨[], rfl, Step.ends_mapList_nil _ cache⟩
  | @cons line verb path target extra lines es rest cache cache₁ cache' hs he _ ih =>
    -- The number of a line is of no account here, so any first number will do.
    obtain ⟨bss, rfl, hb⟩ := ih (n + 1)
    refine ⟨es :: bss, rfl, ?_⟩
    rw [numberFrom, List.filterMap_cons_some (directive?_of_spells hs n)]
    exact Step.Ends.mapList_cons he.ends hb

theorem StopsAt.ends (h : x.StopsAt t before line cache fault cache') (n : Nat)
    (after : List Text) :
    Step.Ends (Step.mapList (x.expandDirective t)
        ((numberFrom n (before ++ line :: after)).filterMap directive?))
      cache cache' (.error fault) := by
  obtain ⟨es, cache₁, verb, path, target, extra, hb, hs, hr⟩ := h
  obtain ⟨bss, -, hb⟩ := hb.ends n
  rw [numberFrom_append, List.filterMap_append, numberFrom,
    List.filterMap_cons_some (directive?_of_spells hs _)]
  have hr : Step.Ends (x.expandDirective t ⟨n + before.length, verb, path, target⟩) cache₁ cache'
    (.error fault) := hr.ends
  exact hb.mapList_append_cons hr _

/-- What some lines give is settled by the controllers that they start with. -/
theorem Builds.unique {es' : List Entry} {cache'' : ControllerCache}
    (h : x.Builds t lines cache es cache') (h' : x.Builds t lines cache es' cache'') :
    es = es' ∧ cache' = cache'' := by
  obtain ⟨bss, rfl, hb⟩ := h.ends 1
  obtain ⟨bss', rfl, hb'⟩ := h'.ends 1
  obtain ⟨hc, he⟩ := hb.unique hb'
  exact ⟨congrArg List.flatten (Except.ok.inj he), hc⟩

/-! ### What is loaded -/

/-- Lines that give entries load the controllers whose wildcards they name. -/
theorem Builds.mem_keys_iff (h : x.Builds t lines cache es cache') (name : Text) :
    name ∈ Assoc.keys cache'.loaded ↔
      name ∈ Assoc.keys cache.loaded ∨ ∃ line ∈ lines, x.NamesWildcard line name := by
  induction h with
  | nil cache => simp
  | cons hs he _ ih =>
    simp only [ih, he.mem_keys_iff, List.mem_cons, exists_eq_or_imp, namesWildcard_iff hs, or_assoc]

theorem Builds.base_eq (h : x.Builds t lines cache es cache') : cache'.base = cache.base := by
  induction h with
  | nil cache => rfl
  | cons _ he _ ih => exact ih.trans he.base_eq

/-- If a line is refused, the controllers are loaded whose wildcards the lines before it name, and
the one whose wildcard it names itself, unless it is the loading that fails. -/
theorem StopsAt.mem_keys_iff (h : x.StopsAt t before line cache fault cache') (name : Text) :
    name ∈ Assoc.keys cache'.loaded ↔
      name ∈ Assoc.keys cache.loaded ∨ (∃ l ∈ before, x.NamesWildcard l name) ∨
        x.NamesWildcard line name ∧ ∃ es cache₁ m cache₂, x.Builds t before cache es cache₁ ∧
          cache₁.Loads t name m cache₂ := by
  obtain ⟨es, cache₁, verb, path, target, extra, hb, hs, hr⟩ := h
  rw [hr.mem_keys_iff, hb.mem_keys_iff, namesWildcard_iff hs, or_assoc]
  refine or_congr_right (or_congr_right (and_congr_right fun _ => ⟨?_, ?_⟩))
  · rintro ⟨m, cache₂, hl⟩
    exact ⟨es, cache₁, m, cache₂, hb, hl⟩
  · rintro ⟨es', cache₁', m, cache₂, hb', hl⟩
    -- The lines before leave the same controllers, whichever way that is said.
    obtain ⟨-, rfl⟩ := hb.unique hb'
    exact ⟨m, cache₂, hl⟩

/-! ### What is looked at -/

/-- No controller matters but those whose wildcards the lines name. -/
theorem Builds.congr (h : x.Builds t lines cache es cache')
    (hs : ∀ line ∈ lines, ∀ name, x.NamesWildcard line name →
      ControllerCache.SameLoading t t' cache.base name) :
    x.Builds t' lines cache es cache' := by
  induction h with
  | nil cache => exact .nil cache
  | cons hl he _ ih =>
    refine .cons hl (he.congr fun name hw => ?_) (ih fun l hm name hw => ?_)
    · exact hs _ List.mem_cons_self name ((namesWildcard_iff hl name).2 hw)
    · rw [he.base_eq]
      exact hs l (List.mem_cons_of_mem _ hm) name hw

theorem StopsAt.congr (h : x.StopsAt t before line cache fault cache')
    (hs : ∀ l ∈ before ++ [line], ∀ name, x.NamesWildcard l name →
      ControllerCache.SameLoading t t' cache.base name) :
    x.StopsAt t' before line cache fault cache' := by
  obtain ⟨es, cache₁, verb, path, target, extra, hb, hl, hr⟩ := h
  refine ⟨es, cache₁, verb, path, target, extra, hb.congr fun l hm => ?_, hl, hr.congr ?_⟩
  · exact hs l (List.mem_append_left _ hm)
  · intro name hw
    rw [hb.base_eq]
    exact hs line (by simp) name ((namesWildcard_iff hl name).2 hw)

end Routing.Expander
