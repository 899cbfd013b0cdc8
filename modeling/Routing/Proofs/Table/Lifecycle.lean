import Routing.Proofs.Session.Delivery
import Routing.Proofs.Step.Agrees

/-!
# The life of a table

A table can be asked for its entries, for how many there are, for those of an action, and whether it
has been built; between two uses everything but the table can change.  A record is kept beside the
state of how often the source was read and of which entries were announced, and it changes nothing
of what a use does (`Use.unaffected`).  An access to a table that is not built reads the source once
and builds the table or fails (`Use.unbuilt`); after that the record is final (`final_after`).  Main
statement: `built_once`.
-/

namespace Routing.Table

variable {σ : Type}

/-- The table is the same. -/
def SameTable (cell : Part σ Table) (s s' : σ) : Prop := cell.get s' = cell.get s

theorem sameTable_refl (cell : Part σ Table) (s : σ) : SameTable cell s s := rfl

theorem sameTable_trans (cell : Part σ Table) (s s' s'' : σ) (h : SameTable cell s s')
    (h' : SameTable cell s' s'') : SameTable cell s s'' := Eq.trans h' h

/-- A recipe does nothing to the place of the table, which holds what is put there. -/
structure Recipe.Fills (r : Recipe σ) (cell : Part σ Table) : Prop where
  lines : Step.Moves (SameTable cell) r.lines
  expand (d : Directive) : Step.Moves (SameTable cell) (r.expand d)
  announce (entry : Entry) : Step.Moves (SameTable cell) (r.announce entry)
  get_set (table : Table) (s : σ) : cell.get (cell.set table s) = table

/-! ### Uses -/

/-- A use of a table, or a change to everything else. -/
inductive Use (cell : Part σ Table) where
  | entries
  | size
  | search (action : Text)
  | isBuilt
  | change (f : σ → σ) (h : ∀ s, cell.get (f s) = cell.get s)

/-- What a use is answered with. -/
inductive Reply where
  | entries (es : List Entry)
  | size (n : Nat)
  | endpoints (es : List Endpoint)
  | isBuilt (built : Bool)
  | done

variable {cell : Part σ Table} {r : Recipe σ} {s : σ} {es : List Entry} {use : Use cell}

namespace Use

/-- What a use does. -/
def perform (r : Recipe σ) : Use cell → Step σ Reply
  | .entries => return .entries (← access cell r)
  | .size => return .size (← access cell r).length
  | .search action => return .endpoints (endpointsOf action (← walk cell r))
  | .isBuilt => return .isBuilt (cell.get (← Step.read)).isSome
  | .change f _ => do
    Step.modify f
    return .done

/-- Whether a use needs the entries. -/
def IsAccess : Use cell → Prop
  | .entries | .size | .search _ => True
  | .isBuilt | .change .. => False

/-- What a table of these entries answers. -/
def answer (es : List Entry) : Use cell → Reply
  | .entries => .entries es
  | .size => .size es.length
  | .search action => .endpoints (endpointsOf action es)
  | .isBuilt => .isBuilt true
  | .change .. => .done

/-- An access has the entries and answers from them; a search may pass a fault on as another. -/
theorem run_of_isAccess (ha : use.IsAccess) (r : Recipe σ) (s : σ) : ∃ pass : Fault → Fault,
    (use.perform r).run s = ⟨((access cell r).run s).events, ((access cell r).run s).state,
      (((access cell r).run s).result.mapError pass).map use.answer⟩ := by
  have hid (x : Except Fault (List Entry)) : x.mapError id = x := by cases x <;> rfl
  cases use with
  | entries => exact ⟨id, by rw [hid]; exact Step.run_bind_pure _ _ s⟩
  | size => exact ⟨id, by rw [hid]; exact Step.run_bind_pure _ _ s⟩
  | search action => exact ⟨Fault.leavingSearch, Step.run_bind_pure _ _ s⟩
  | isBuilt => exact ha.elim
  | change => exact ha.elim

/-- A built table answers at once. -/
theorem run_of_built (hb : cell.get s = some es) (ha : use.IsAccess) (r : Recipe σ) :
    (use.perform r).run s = ⟨[], s, .ok (use.answer es)⟩ := by
  obtain ⟨pass, hr⟩ := run_of_isAccess ha r s
  rw [hr, run_access_of_built hb]
  rfl

/-- What is no access leaves the table. -/
theorem sameTable_of_not_isAccess (ha : ¬ use.IsAccess) (r : Recipe σ) (s : σ) :
    SameTable cell s ((use.perform r).run s).state := by
  cases use with
  | isBuilt => exact rfl
  | change f h => exact h s
  | _ => exact absurd trivial ha

end Use

/-- An attempt builds the table, or it fails and there is none. -/
theorem access_of_unbuilt (h : r.Fills cell) (hn : cell.get s = none) :
    (∃ es, ((access cell r).run s).result = .ok es ∧
      cell.get ((access cell r).run s).state = some es) ∨
    ∃ fault, ((access cell r).run s).result = .error fault ∧
      cell.get ((access cell r).run s).state = none := by
  have hcompile : Step.Moves (SameTable cell) r.compile :=
    h.lines.bind (sameTable_trans cell) fun ds =>
      Step.moves_flatMapList (sameTable_refl cell) (sameTable_trans cell) h.expand ds
  have hannounce (es : List Entry) : Step.Moves (SameTable cell) (Step.forEach r.announce es) :=
    Step.moves_forEach (sameTable_refl cell) (sameTable_trans cell) h.announce es
  have hunbuilt : cell.get (r.compile.run s).state = none := (hcompile s).trans hn
  rw [run_access_of_unbuilt hn]
  cases hr : (r.compile.run s).result with
  | error fault =>
    rw [Step.run_bind_of_fault hr]
    exact .inr ⟨fault, rfl, hunbuilt⟩
  | ok es =>
    rw [Step.run_bind_of_result hr]
    unfold Recipe.publish
    cases ht : ((Step.forEach r.announce es).run (r.compile.run s).state).result with
    | error fault =>
      rw [Step.run_bind_of_fault ht]
      exact .inr ⟨fault, rfl, (hannounce es _).trans hunbuilt⟩
    | ok u =>
      rw [Step.run_bind_of_result ht]
      exact .inl ⟨es, rfl, h.get_set _ _⟩

/-- An access to a table that is not built builds it, or it fails and there is none. -/
theorem Use.unbuilt (h : r.Fills cell) (hn : cell.get s = none) (ha : use.IsAccess) :
    (∃ es, ((use.perform r).run s).result = .ok (use.answer es) ∧
      cell.get ((use.perform r).run s).state = some es) ∨
    ∃ fault, ((use.perform r).run s).result = .error fault ∧
      cell.get ((use.perform r).run s).state = none := by
  obtain ⟨pass, hr⟩ := run_of_isAccess ha r s
  rw [hr]
  rcases access_of_unbuilt h hn with ⟨es, he, hc⟩ | ⟨fault, he, hc⟩
  · refine .inl ⟨es, ?_, hc⟩
    rw [he]
    rfl
  · refine .inr ⟨pass fault, ?_, hc⟩
    rw [he]
    rfl

/-! ### Runs -/

/-- The state after some uses, each of them made whatever has become of the ones before. -/
def after (r : Recipe σ) (uses : List (Use cell)) (s : σ) : σ :=
  Step.after (uses.map (Use.perform r)) s

variable {uses : List (Use cell)}

theorem after_cons (r : Recipe σ) (use : Use cell) (uses : List (Use cell)) (s : σ) :
    after r (use :: uses) s = after r uses ((use.perform r).run s).state := rfl

theorem get_step_of_built (hb : cell.get s = some es) (r : Recipe σ) (use : Use cell) :
    cell.get ((use.perform r).run s).state = some es := by
  by_cases ha : use.IsAccess
  · rw [Use.run_of_built hb ha]
    exact hb
  · exact (Use.sameTable_of_not_isAccess ha r s).trans hb

theorem get_after_of_built (hb : cell.get s = some es) (r : Recipe σ) (uses : List (Use cell)) :
    cell.get (after r uses s) = some es := by
  induction uses generalizing s with
  | nil => exact hb
  | cons use uses ih => exact ih (get_step_of_built hb r use)

/-- A use completes a build, or finds one that is complete. -/
def Use.Completes (r : Recipe σ) (s : σ) (use : Use cell) : Prop :=
  use.IsAccess ∧ ((use.perform r).run s).result.isOk = true

theorem Use.completes_iff (h : r.Fills cell) (hn : cell.get s = none) :
    use.Completes r s ↔ ∃ es, cell.get ((use.perform r).run s).state = some es := by
  by_cases ha : use.IsAccess
  · rcases Use.unbuilt h hn ha with ⟨es, hr, hc⟩ | ⟨fault, hr, hc⟩
    · exact iff_of_true ⟨ha, by rw [hr]; rfl⟩ ⟨es, hc⟩
    · refine iff_of_false (fun hx => ?_) ?_
      · have hok := hx.2
        rw [hr] at hok
        exact nomatch hok
      · rintro ⟨es, hs⟩
        exact nomatch hc.symm.trans hs
  · refine iff_of_false (fun hx => ha hx.1) ?_
    rintro ⟨es, hs⟩
    exact nomatch ((Use.sameTable_of_not_isAccess ha r s).trans hn).symm.trans hs

/-- A table has been built if and only if one of the uses so far has completed a build. -/
theorem isSome_after_iff (h : r.Fills cell) (hn : cell.get s = none) (uses : List (Use cell)) :
    (cell.get (after r uses s)).isSome = true ↔ ∃ earlier use rest,
      uses = earlier ++ use :: rest ∧ use.Completes r (after r earlier s) := by
  induction uses generalizing s with
  | nil =>
    refine iff_of_false ?_ ?_
    · rw [show after r ([] : List (Use cell)) s = s from rfl, hn]
      exact Bool.false_ne_true
    · rintro ⟨earlier, use, rest, he, -⟩
      simp at he
  | cons use uses ih =>
    rw [exists_append_cons_iff, after_cons]
    by_cases hc : use.Completes r s
    · obtain ⟨es, hb⟩ := (Use.completes_iff h hn).1 hc
      rw [get_after_of_built hb]
      exact iff_of_true rfl (.inl hc)
    · have hn' : cell.get ((use.perform r).run s).state = none := by
        rw [Option.eq_none_iff_forall_ne_some]
        exact fun es hs => hc ((Use.completes_iff h hn).2 ⟨es, hs⟩)
      rw [ih hn']
      exact (or_iff_right hc).symm

/-! ### A record of what is read and announced -/

/-- A state with a record of how often the source of a table was read and of the entries that were
announced, oldest first. -/
structure Tracked (σ : Type) where
  state : σ
  reads : Nat
  announced : List Entry

namespace Tracked

def part : Part (Tracked σ) σ := ⟨state, fun s t => { t with state := s }⟩

/-- The place of the table. -/
def place (cell : Part σ Table) : Part (Tracked σ) Table :=
  ⟨fun t => cell.get t.state, fun table t => { t with state := cell.set table t.state }⟩

end Tracked

/-- A recipe that records what it does. -/
def Recipe.tracked (r : Recipe σ) : Recipe (Tracked σ) where
  lines := do
    Step.modify fun t => { t with reads := t.reads + 1 }
    Step.on Tracked.part r.lines
  expand d := Step.on Tracked.part (r.expand d)
  announce entry := do
    Step.modify fun t => { t with announced := t.announced ++ [entry] }
    Step.on Tracked.part (r.announce entry)

/-- The same use, with the record beside the state. -/
def Use.tracked : Use cell → Use (Tracked.place cell)
  | .entries => .entries
  | .size => .size
  | .search action => .search action
  | .isBuilt => .isBuilt
  | .change f h => .change (fun t => { t with state := f t.state }) fun t => h t.state

/-- The state with its record after some uses. -/
def Tracked.after (r : Recipe σ) (uses : List (Use cell)) (t : Tracked σ) : Tracked σ :=
  Table.after r.tracked (uses.map Use.tracked) t

/-- With the record beside the state, a step leads to the same state and ends the same. -/
abbrev Unaffected {α : Type} (x : Step σ α) (x' : Step (Tracked σ) α) : Prop :=
  Step.Agrees (fun s (t : Tracked σ) => t.state = s) (fun _ => False) Eq x x'

theorem unaffected_on {α : Type} (x : Step σ α) : Unaffected x (Step.on Tracked.part x) := by
  let whole : Part σ σ := ⟨id, fun s _ => s⟩
  have hwhole : Unaffected (Step.on whole x) (Step.on Tracked.part x) :=
    Step.agrees_on x (fun _ _ h => h) fun _ _ _ _ => rfl
  exact hwhole

/-- Writing something down first makes no difference. -/
theorem unaffected_modify_bind {α : Type} {x : Step σ α} {x' : Step (Tracked σ) α}
    (h : Unaffected x x') {note : Tracked σ → Tracked σ} (hn : ∀ t, (note t).state = t.state) :
    Unaffected x (Step.modify note >>= fun _ => x') := by
  intro s t hs
  rw [Step.run_bind, Step.run_modify, Outcome.andThen_ok]
  exact h s (note t) ((hn t).trans hs)

theorem unaffected_access (cell : Part σ Table) (r : Recipe σ) :
    Unaffected (access cell r) (access (Tracked.place cell) r.tracked) := by
  have hlines : Unaffected r.lines r.tracked.lines :=
    unaffected_modify_bind (unaffected_on r.lines) fun _ => rfl
  have hexpand (ds : List Directive) :
      Unaffected (Step.flatMapList r.expand ds) (Step.flatMapList r.tracked.expand ds) := by
    have hone (d : Directive) : Step.Agrees (fun s (t : Tracked σ) => t.state = s)
        (fun _ => False) (List.Forall₂ Eq) (r.expand d) (r.tracked.expand d) := by
      rw [List.forall₂_eq_eq_eq]
      exact unaffected_on (r.expand d)
    have hall := Step.agrees_flatMapList hone ds
    rwa [List.forall₂_eq_eq_eq] at hall
  have hannounce (es : List Entry) :
      Unaffected (Step.forEach r.announce es) (Step.forEach r.tracked.announce es) := by
    refine Step.agrees_forEach (List.forall₂_same.2 fun entry _ => ?_)
    exact unaffected_modify_bind (unaffected_on (r.announce entry)) fun _ => rfl
  have hentries : Unaffected r.entries r.tracked.entries := by
    refine hlines.bind ?_
    rintro ds _ rfl
    refine (hexpand ds).bind ?_
    rintro es _ rfl
    exact (hannounce es).bind fun _ _ _ => Step.agrees_pure rfl
  refine Step.agrees_read_bind fun s t hs => ?_
  have hget : (Tracked.place cell).get t = cell.get s := congrArg cell.get hs
  rw [hget]
  cases cell.get s with
  | some es => exact Step.agrees_pure rfl
  | none =>
    refine hentries.bind ?_
    rintro es _ rfl
    have hkeep : Unaffected (Step.modify (cell.set (some es)))
        (Step.modify ((Tracked.place cell).set (some es))) :=
      Step.agrees_modify fun s t hs => congrArg (cell.set (some es)) hs
    refine hkeep.bind fun _ _ _ => ?_
    exact (Step.agrees_log _ _ _ _).bind fun _ _ _ => Step.agrees_pure rfl

/-- The record changes nothing of what a use does. -/
theorem Use.unaffected (r : Recipe σ) (use : Use cell) :
    Unaffected (use.perform r) (use.tracked.perform r.tracked) := by
  have haccess := unaffected_access cell r
  cases use with
  | entries => exact haccess.map fun _ => rfl
  | size => exact haccess.map fun _ => rfl
  | search action => exact (haccess.mapFault fun _ h => h).map fun _ => rfl
  | isBuilt =>
    refine Step.agrees_read_bind fun s t hs => ?_
    have hget : (Tracked.place cell).get t = cell.get s := congrArg cell.get hs
    rw [hget]
    exact Step.agrees_pure rfl
  | change f h =>
    have hchange : Unaffected (Step.modify f)
        (Step.modify fun t : Tracked σ => { t with state := f t.state }) :=
      Step.agrees_modify fun s t hs => congrArg f hs
    exact hchange.bind fun _ _ _ => Step.agrees_pure rfl

variable {t : Tracked σ}

theorem Use.state_tracked (r : Recipe σ) (use : Use cell) (t : Tracked σ) :
    ((use.tracked.perform r.tracked).run t).state.state = ((use.perform r).run t.state).state ∧
      ((use.tracked.perform r.tracked).run t).result = ((use.perform r).run t.state).result := by
  rcases use.unaffected r t.state t rfl with ⟨_, _, hf⟩ | ⟨hs, he⟩
  · exact hf.elim
  · exact ⟨hs, he.eq.symm⟩

theorem Tracked.state_after (r : Recipe σ) (uses : List (Use cell)) (t : Tracked σ) :
    (Tracked.after r uses t).state = Table.after r uses t.state := by
  induction uses generalizing t with
  | nil => rfl
  | cons use uses ih =>
    rw [after_cons, ← (use.state_tracked r t).1]
    exact ih _

/-! ### What the record shows -/

theorem isAccess_tracked : use.tracked.IsAccess ↔ use.IsAccess := by
  cases use <;> exact Iff.rfl

/-- An access to a table that is not built reads the source once. -/
theorem reads_of_unbuilt (hn : cell.get t.state = none) (ha : use.IsAccess) (r : Recipe σ) :
    ((use.tracked.perform r.tracked).run t).state.reads = t.reads + 1 := by
  let SameReads : Tracked σ → Tracked σ → Prop := fun t t' => t'.reads = t.reads
  have hrefl (t : Tracked σ) : SameReads t t := rfl
  have htrans (t₁ t₂ t₃ : Tracked σ) (h : SameReads t₁ t₂) (h' : SameReads t₂ t₃) :
      SameReads t₁ t₃ := Eq.trans h' h
  have hon {α : Type} (x : Step σ α) : Step.Moves SameReads (Step.on Tracked.part x) :=
    fun _ => rfl
  have hannounce (entry : Entry) : Step.Moves SameReads (r.tracked.announce entry) := by
    have hnote : Step.Moves SameReads
      (Step.modify fun t => { t with announced := t.announced ++ [entry] }) := fun _ => rfl
    exact hnote.bind htrans fun _ => hon _
  have hpublish (es : List Entry) :
      Step.Moves SameReads (r.tracked.publish (Tracked.place cell) es) := by
    refine (Step.moves_forEach hrefl htrans hannounce es).bind htrans fun _ => ?_
    have hkeep : Step.Moves SameReads (Step.modify ((Tracked.place cell).set (some es))) :=
      fun _ => rfl
    exact hkeep.bind htrans fun _ => (Step.moves_log hrefl _ _).bind htrans fun _ =>
      Step.moves_pure hrefl es
  -- The reading is written down first, and nothing after that is a reading.
  let rest : Step (Tracked σ) (List Entry) := Step.on Tracked.part r.lines >>= fun ds =>
    Step.flatMapList r.tracked.expand ds >>= r.tracked.publish (Tracked.place cell)
  have hrest : Step.Moves SameReads rest := (hon _).bind htrans fun ds =>
    (Step.moves_flatMapList hrefl htrans (fun d => hon _) ds).bind htrans hpublish
  have haccess : ((access (Tracked.place cell) r.tracked).run t).state =
      (rest.run { t with reads := t.reads + 1 }).state := by
    have hn : (Tracked.place cell).get t = none := hn
    rw [run_access_of_unbuilt hn]
    unfold Recipe.compile
    rw [Step.bind_assoc]
    have hlines : r.tracked.lines = Step.modify (fun t => { t with reads := t.reads + 1 }) >>=
      fun _ => Step.on Tracked.part r.lines := rfl
    rw [hlines, Step.bind_assoc, Step.run_bind, Step.run_modify, Outcome.andThen_ok]
  obtain ⟨pass, hr⟩ := Use.run_of_isAccess (isAccess_tracked.2 ha) r.tracked t
  rw [hr]
  exact (congrArg Tracked.reads haccess).trans (hrest _)

/-- The record says the same, and so does the table. -/
structure Rests (cell : Part σ Table) (t t' : Tracked σ) : Prop where
  reads : t'.reads = t.reads
  announced : t'.announced = t.announced
  table : cell.get t'.state = cell.get t.state

theorem rests_of_not_isAccess (ha : ¬ use.IsAccess) (r : Recipe σ) (t : Tracked σ) :
    Rests cell t ((use.tracked.perform r.tracked).run t).state := by
  cases use with
  | isBuilt => exact ⟨rfl, rfl, rfl⟩
  | change f h => exact ⟨rfl, rfl, h t.state⟩
  | _ => exact absurd trivial ha

theorem rests_of_built (hb : cell.get t.state = some es) (r : Recipe σ) (use : Use cell) :
    Rests cell t ((use.tracked.perform r.tracked).run t).state := by
  by_cases ha : use.IsAccess
  · have hb : (Tracked.place cell).get t = some es := hb
    rw [Use.run_of_built hb (isAccess_tracked.2 ha)]
    exact ⟨rfl, rfl, rfl⟩
  · exact rests_of_not_isAccess ha r t

/-- Once a table is built, the record is final. -/
theorem final_after (hb : cell.get t.state = some es) (r : Recipe σ) (uses : List (Use cell)) :
    Rests cell t (Tracked.after r uses t) := by
  induction uses generalizing t with
  | nil => exact ⟨rfl, rfl, rfl⟩
  | cons use uses ih =>
    have hone := rests_of_built hb r use
    have hrest := ih (hone.table.trans hb)
    exact ⟨hrest.reads.trans hone.reads, hrest.announced.trans hone.announced,
      hrest.table.trans hone.table⟩

/-- The life of a table that is not built at first, whatever changes between its uses.  The record
beside the state changes nothing of what the uses do.  The table has been built if and only if one
of the uses so far has completed a build, which is what it says of itself.  An access to it while it
is not built reads the source once, and it builds the table or fails and leaves it unbuilt; nothing
else reads or announces.  Once it is built, nothing is read or announced any more, and every access
answers from the same entries. -/
theorem built_once (h : r.Fills cell) (hn : cell.get s = none) (uses : List (Use cell)) :
    let now := Tracked.after r uses ⟨s, 0, []⟩
    now.state = after r uses s ∧
    (∀ use : Use cell,
      ((use.tracked.perform r.tracked).run now).state.state =
          ((use.perform r).run now.state).state ∧
        ((use.tracked.perform r.tracked).run now).result = ((use.perform r).run now.state).result) ∧
    ((cell.get now.state).isSome = true ↔ ∃ earlier use rest, uses = earlier ++ use :: rest ∧
      use.Completes r (after r earlier s)) ∧
    ((Use.isBuilt : Use cell).perform r).run now.state =
      ⟨[], now.state, .ok (.isBuilt (cell.get now.state).isSome)⟩ ∧
    (∀ use : Use cell, ¬ use.IsAccess →
      Rests cell now ((use.tracked.perform r.tracked).run now).state) ∧
    (cell.get now.state = none → ∀ use : Use cell, use.IsAccess →
      let out := (use.tracked.perform r.tracked).run now
      out.state.reads = now.reads + 1 ∧
      ((∃ es, out.result = .ok (use.answer es) ∧ cell.get out.state.state = some es) ∨
        ∃ fault, out.result = .error fault ∧ cell.get out.state.state = none)) ∧
    ∀ es, cell.get now.state = some es → ∀ later : List (Use cell),
      let last := Tracked.after r later now
      last.reads = now.reads ∧ last.announced = now.announced ∧
      ∀ use : Use cell, use.IsAccess →
        (use.perform r).run last.state = ⟨[], last.state, .ok (use.answer es)⟩ := by
  intro now
  have hnow : now.state = after r uses s := Tracked.state_after r uses _
  refine ⟨hnow, fun use => use.state_tracked r now, ?_, rfl,
    fun use ha => rests_of_not_isAccess ha r now, fun hu use ha => ?_, fun es hb later => ?_⟩
  · rw [hnow]
    exact isSome_after_iff h hn uses
  · obtain ⟨hs, hr⟩ := use.state_tracked r now
    refine ⟨reads_of_unbuilt hu ha r, ?_⟩
    rw [hs, hr]
    exact Use.unbuilt h hu ha
  · intro last
    have hlast := final_after hb r later
    exact ⟨hlast.reads, hlast.announced, fun use ha =>
      Use.run_of_built (hlast.table.trans hb) ha r⟩

end Routing.Table

namespace Routing

/-- The watcher of a table and the controllers that it loads are not the table. -/
theorem Watch.fills_recipe : Watch.recipe.Fills Watch.tablePart := by
  have hr := Table.sameTable_refl Watch.tablePart
  have ht := Table.sameTable_trans Watch.tablePart
  refine ⟨Watch.reads_directives.moves hr, fun d => ?_, fun entry => ?_, fun _ _ => rfl⟩
  · exact (Step.moves_read hr).bind ht fun w w' => rfl
  · refine (Step.moves_read hr).bind ht fun w => ?_
    split
    · exact Step.moves_pure hr ()
    · split
      · exact Step.moves_fail hr _
      · exact fun _ => rfl

/-- The plugins of a router and the controllers that it loads are not its table. -/
theorem Application.fills_recipe : Application.recipe.Fills Application.tablePart := by
  have hr := Table.sameTable_refl Application.tablePart
  have ht := Table.sameTable_trans Application.tablePart
  refine ⟨Application.reads_directives.moves hr, fun d => ?_, fun entry app => ?_, fun _ _ => rfl⟩
  · exact (Step.moves_read hr).bind ht fun app app' => rfl
  · obtain ⟨plugins, hs, -⟩ := Application.differs_of_tellAll entry app
    exact congrArg (fun app => app.router.table) hs

namespace Table

/-- A watcher that changes its mind between two accesses. -/
def changeOfMind : List (Use Watch.tablePart) :=
  [.entries, .change (fun w => { w with refusal? := fun _ => none }) fun _ => rfl, .size]

/-- The source of a table is read until it is built, be it one that is watched or that of a router.
-/
theorem built_once_change_of_mind :
    let now := Tracked.after Watch.recipe changeOfMind ⟨Application.refusedTable, 0, []⟩
    now.reads = 2 ∧
    (∀ later : List (Use Watch.tablePart), (Tracked.after Watch.recipe later now).reads = 2) ∧
    ∀ use : Use Application.tablePart, use.IsAccess →
      ((use.tracked.perform Application.recipe.tracked).run
        ⟨Application.twoPlugins, 0, []⟩).state.reads = 1 := by
  intro now
  obtain ⟨-, -, -, -, -, -, hfinal⟩ :=
    built_once Watch.fills_recipe (s := Application.refusedTable) rfl changeOfMind
  obtain ⟨-, -, -, -, -, hunbuilt, -⟩ :=
    built_once Application.fills_recipe (s := Application.twoPlugins) rfl []
  have hreads : now.reads = 2 := by decide +kernel
  have hb : Watch.tablePart.get now.state = some Application.refusedEntries := by decide +kernel
  refine ⟨hreads, fun later => ?_, fun use ha => (hunbuilt rfl use ha).1⟩
  exact (hfinal _ hb later).1.trans hreads

end Table

end Routing
