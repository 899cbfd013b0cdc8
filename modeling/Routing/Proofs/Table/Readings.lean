import Routing.Proofs.Directive.Layout
import Routing.Proofs.Table.Compilation
import Routing.Proofs.Table.LineNumbers

/-!
# Two ways to read a text

A text can be read at once, and its kept lines can be read again as lines, which is what a router
does.  Reading at once drops a carriage return at the end of each line, and leaves out the lines
that say nothing; reading the kept lines leaves such lines out once more, and drops no carriage
return.  The two ways come to the same routes or end at the same line: `readings_agree`.
-/

namespace Routing.Directive

variable {σ : Type}

/-- The route that a directive states. -/
def route (d : Directive) : Text × Text × Text := (d.verb, d.path, d.target)

/-- The route on a line, if it has fields enough. -/
def route? (line : Text) : Option (Text × Text × Text) := (directive? (0, line)).map route

/-- What two readings come to if they agree: the same routes, or a fault at the same line.  The
numbers of the lines may differ. -/
inductive Agree : Except Fault (List Directive) → Except Fault (List Directive) → Prop
  | routes {ds ds' : List Directive} (same : ds.map route = ds'.map route) :
      Agree (.ok ds) (.ok ds')
  | short (line : Text) (n n' : Nat) :
      Agree (.error (shortFault line n)) (.error (shortFault line n'))

/-- A text with a carriage return before each line feed. -/
def withReturns (text : Text) : Text := text.flatMap fun c => if c = '\n' then ['\r', '\n'] else [c]

/-! ### Routes without their numbers -/

theorem map_route_directive? (p : Nat × Text) : (directive? p).map route = route? p.2 := by
  obtain ⟨n, line⟩ := p
  unfold route? directive?
  rcases fields line with _ | ⟨verb, _ | ⟨path, _ | ⟨target, extra⟩⟩⟩ <;> rfl

/-- The routes on some lines do not depend on how the lines are numbered. -/
theorem map_route_filterMap (ps : List (Nat × Text)) :
    (ps.filterMap directive?).map route = (ps.map Prod.snd).filterMap route? := by
  rw [List.map_filterMap, List.filterMap_map]
  exact congrArg (List.filterMap · ps) (funext map_route_directive?)

theorem map_snd_numbered_kept (text : Text) : (numbered (kept text)).map Prod.snd = kept text := by
  rw [Application.numbered_kept, map_snd_numberFrom]

/-- Reading a text and reading its kept lines come to the same. -/
theorem agree_ofText_ofLines (text : Text) (s : σ) :
    Agree ((ofText text).run s).result ((ofLines (kept text)).run s).result := by
  unfold ofText
  rcases complete_or_exists_short (physicalLines text) with h | ⟨before, line, after, hl, hs, hb⟩
  · have hk : ∀ line ∈ kept text, ¬ IsShort line := by
      rw [kept_eq_filter]
      exact Application.forall_mem_filter_iff.2 h
    rw [run_ofLines_of_complete h, run_ofLines_of_complete hk]
    refine .routes ?_
    rw [map_route_filterMap, map_route_filterMap, map_snd_numbered_kept, kept]
  · have hk := Application.kept_eq_append_cons_iff.2
      ⟨before, after, hl, (isShort_iff.1 hs).1, rfl, rfl⟩
    rw [hl, hk, run_ofLines_of_short hs hb,
      run_ofLines_of_short hs (Application.forall_mem_filter_iff.2 hb)]
    exact .short line _ _

/-! ### Carriage returns before the line feeds -/

theorem withReturns_append (s t : Text) : withReturns (s ++ t) = withReturns s ++ withReturns t :=
  List.flatMap_append

theorem withReturns_feed (rest : Text) :
    withReturns ('\n' :: rest) = '\r' :: '\n' :: withReturns rest := rfl

theorem withReturns_of_not_mem {s : Text} (h : '\n' ∉ s) : withReturns s = s := by
  induction s with
  | nil => rfl
  | cons c s ih =>
    have hc : c ≠ '\n' := fun hc => h (hc ▸ List.mem_cons_self)
    have hs : withReturns s = s := ih fun hs => h (List.mem_cons_of_mem c hs)
    show (if c = '\n' then ['\r', '\n'] else [c]) ++ withReturns s = c :: s
    rw [if_neg hc, hs]
    rfl

/-- A line that holds no carriage return is the same with one at its end. -/
theorem dropReturn_of_not_mem {s : Text} (h : '\r' ∉ s) : dropReturn s = s :=
  dropReturn_of_ne fun hs => h (List.mem_of_getLast? hs)

/-- A text without carriage returns has the same lines with one before each line feed. -/
theorem physicalLines_withReturns {text : Text} (h : '\r' ∉ text) :
    physicalLines (withReturns text) = physicalLines text := by
  -- one line feed after the other: what is after the first is a shorter text
  induction hl : text.length using Nat.strongRecOn generalizing text with
  | ind n ih =>
  by_cases hn : '\n' ∈ text
  · obtain ⟨s, rest, rfl, hs⟩ := List.eq_append_cons_of_mem hn
    rw [List.mem_append, not_or, List.mem_cons, not_or] at h
    obtain ⟨hr, -, hrest⟩ := h
    have hs' : '\n' ∉ s ++ ['\r'] := by simpa using hs
    have hw : withReturns (s ++ '\n' :: rest) = (s ++ ['\r']) ++ '\n' :: withReturns rest := by
      rw [withReturns_append, withReturns_of_not_mem hs, withReturns_feed, List.append_assoc]
      rfl
    have hlt : rest.length < n := by
      rw [← hl, List.length_append, List.length_cons]
      omega
    rw [hw, physicalLines_append_cons hs', physicalLines_append_cons hs, dropReturn_concat,
      dropReturn_of_not_mem hr, ih rest.length hlt hrest rfl]
  · rw [withReturns_of_not_mem hn]

/-! ### Both ways -/

/-- What a router reads from the text of its routes file agrees with what the text comes to when it
is read at once: the same verbs, paths and targets in the same order, or a fault at the same line.
And in a text without carriage returns, one before each line feed changes neither the kept lines nor
what the text comes to. -/
theorem readings_agree (text : Text) (s : σ) :
    Agree ((ofText text).run s).result ((ofLines (kept text)).run s).result ∧
    (∀ app : Application, app.routesText = .ok text →
      Application.directives.run app = (ofLines (kept text)).run app) ∧
    ('\r' ∉ text → kept (withReturns text) = kept text ∧
      (ofText (withReturns text)).run s = (ofText text).run s) := by
  refine ⟨agree_ofText_ofLines text s, fun app ht => Application.run_directives ht, fun h => ?_⟩
  unfold kept ofText
  rw [physicalLines_withReturns h]
  exact ⟨rfl, rfl⟩

/-- Of several carriage returns at the end of a line one is dropped, and the line that is left is
kept; a router gives it the number that it has among the kept lines. -/
theorem readings_agree_carriage_returns :
    ((ofText "#\n\r\r\n /a").run ()).result = .error (shortFault "\r" 2) ∧
    ((ofLines (kept "#\n\r\r\n /a")).run ()).result = .error (shortFault "\r" 1) ∧
    Agree (.error (shortFault "\r" 2)) (.error (shortFault "\r" 1)) ∧
    ((ofText (withReturns "#\nGET / a.b\n")).run ()).result = .ok [⟨2, "GET", "/", "a.b"⟩] := by
  have h := (readings_agree "#\n\r\r\n /a" ()).1
  have hr := (readings_agree "#\nGET / a.b\n" ()).2.2 (by decide)
  have ht : ((ofText "#\n\r\r\n /a").run ()).result = .error (shortFault "\r" 2) := by decide
  have hl : ((ofLines (kept "#\n\r\r\n /a")).run ()).result = .error (shortFault "\r" 1) := by
    decide
  rw [ht, hl] at h
  refine ⟨ht, hl, h, ?_⟩
  rw [hr.2]
  decide

end Routing.Directive
