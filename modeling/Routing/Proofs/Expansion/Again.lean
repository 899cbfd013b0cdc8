import Routing.Proofs.Assoc
import Routing.Proofs.Expansion.Builds

/-!
# Expanding again

A controller that has been loaded is not looked for again, and one whose loading has failed has left
the cache as it was.  So lines that are expanded again, starting with the controllers that they have
left, give the same entries or are refused with the same fault, and load nothing more.
-/

namespace Routing

namespace ControllerCache

/-- All that one cache holds is in the other, as it is. -/
def Includes (cache cache' : ControllerCache) : Prop :=
  ∀ name m, Assoc.get? name cache'.loaded = some m → Assoc.get? name cache.loaded = some m

variable {t : FileTree} {name : Text} {cache cache' cache'' : ControllerCache} {m : Module}
  {fault : Fault}

theorem includes_refl (cache : ControllerCache) : cache.Includes cache := fun _ _ h => h

theorem Includes.trans (h : cache''.Includes cache') (h' : cache'.Includes cache) :
    cache''.Includes cache := fun name m hm => h name m (h' name m hm)

theorem Loads.includes (h : Loads t name cache m cache') : cache'.Includes cache := by
  cases h with
  | kept => exact includes_refl cache
  | carriedOut hl he =>
    intro other m' hm
    rw [Assoc.get?_append, hm]
    rfl

theorem Loads.get? (h : Loads t name cache m cache') : Assoc.get? name cache'.loaded = some m := by
  cases h with
  | kept hl => exact hl
  | carriedOut hl he =>
    rw [Assoc.get?_append, hl]
    exact if_pos rfl

/-- A controller that has been loaded is there. -/
theorem Loads.again (h : Loads t name cache m cache') (hi : cache''.Includes cache') :
    Loads t name cache'' m cache'' := .kept (hi name m h.get?)

end ControllerCache

namespace Expander

variable {x : Expander} {t : FileTree} {verb path target : Text} {cache cache' c : ControllerCache}
  {es : List Entry} {fault : Fault}

theorem Expands.includes (h : x.Expands t verb path target cache es cache') :
    cache'.Includes cache := by
  cases h with
  | folder => exact ControllerCache.includes_refl cache
  | endpoint => exact ControllerCache.includes_refl cache
  | wildcard _ hl => exact hl.includes
  | nothing _ hl => exact hl.includes

theorem Refuses.includes (h : x.Refuses t verb path target cache fault cache') :
    cache'.Includes cache := by
  cases h with
  | exports _ hl => exact hl.includes
  | wildcardVerb _ hl => exact hl.includes
  | _ => exact ControllerCache.includes_refl cache

/-- A line gives the same entries as long as its controller is loaded. -/
theorem Expands.again (h : x.Expands t verb path target cache es cache') (hi : c.Includes cache') :
    x.Expands t verb path target c es c := by
  cases h with
  | folder hm hv => exact .folder hm hv
  | endpoint hm hv => exact .endpoint hm hv
  | wildcard hw hl hm hv => exact .wildcard hw (hl.again hi) hm hv
  | nothing hw hl hm => exact .nothing hw (hl.again hi) hm

/-- A line is refused again by the cache that it has left. -/
theorem Refuses.again (h : x.Refuses t verb path target cache fault cache') :
    x.Refuses t verb path target cache' fault cache' := by
  cases h with
  | mark hm => exact .mark hm
  | target hm => exact .target hm
  | folderVerb hm hv => exact .folderVerb hm hv
  | endpointVerb hm hv => exact .endpointVerb hm hv
  | loading hw hl => exact .loading hw hl
  | exports hw hl hm => exact .exports hw (hl.again (ControllerCache.includes_refl _)) hm
  | wildcardVerb hw hl hm hv =>
    exact .wildcardVerb hw (hl.again (ControllerCache.includes_refl _)) hm hv

/-- Expanding directives a second time ends as the first time did, and loads nothing. -/
theorem ends_mapList_again (x : Expander) (t : FileTree) (ds : List Directive)
    (cache : ControllerCache) : ∃ cache' r, cache'.Includes cache ∧
      Step.Ends (Step.mapList (x.expandDirective t) ds) cache cache' r ∧
      Step.Ends (Step.mapList (x.expandDirective t) ds) cache' cache' r := by
  induction ds generalizing cache with
  | nil => exact ⟨cache, .ok [], ControllerCache.includes_refl cache, Step.ends_mapList_nil _ _,
      Step.ends_mapList_nil _ _⟩
  | cons d ds ih =>
    rcases x.expands_or_refuses t d.verb d.path d.target cache with ⟨es, cache₁, he⟩ |
      ⟨fault, cache', hr⟩
    · obtain ⟨cache', r, hi, hfirst, hagain⟩ := ih cache₁
      -- What the first directive has loaded is still there when the others have been expanded.
      have hd : Step.Ends (x.expandDirective t d) cache cache₁ (.ok es) := he.ends
      have hd' : Step.Ends (x.expandDirective t d) cache' cache' (.ok es) := (he.again hi).ends
      refine ⟨cache', ?_⟩
      cases r with
      | ok bss => exact ⟨.ok (es :: bss), hi.trans he.includes, hd.mapList_cons hfirst,
          hd'.mapList_cons hagain⟩
      | error fault => exact ⟨.error fault, hi.trans he.includes, hd.bind (hfirst.bind_of_fault _),
          hd'.bind (hagain.bind_of_fault _)⟩
    · have hd : Step.Ends (x.expandDirective t d) cache cache' (.error fault) := hr.ends
      have hd' : Step.Ends (x.expandDirective t d) cache' cache' (.error fault) := hr.again.ends
      exact ⟨cache', .error fault, hr.includes, hd.bind_of_fault _, hd'.bind_of_fault _⟩

end Expander

end Routing
