import Routing.Proofs.Step.Ends
import Routing.Table

/-!
# Who has heard of which entries

Entries are announced one by one, until one is refused; what was announced before is not taken back.
`Audience.told` is what becomes of the announcements for one listener, and `Attended` says that a
table is built under such a listener.  Then an attempt adds to what the listener has heard what it is
told (`Attended.heard_access`), and a session adds the entries of the table, each once and in order,
to what failed attempts have left behind (`sessionHeard_of_delivers`).
-/

namespace Routing

variable {σ α β : Type}

/-- A hook has refused an entry. -/
def Fault.IsRejection (fault : Fault) : Prop := ∃ message, fault = .entryRejected message

namespace Table

/-- The hooks that are told of entries, as one listener among them is concerned. -/
structure Audience where
  /-- What is said of an entry that is refused. -/
  refusal? : Entry → Option Text
  /-- Whether the listener has heard of a refused entry before it is refused. -/
  hearsRefused : Entry → Bool

namespace Audience

variable {a : Audience} {e : Entry} {es : List Entry} {message : Text}

/-- What the listener is told when entries are announced. -/
def told (a : Audience) : List Entry → List Entry
  | [] => []
  | e :: es =>
    match a.refusal? e with
    | some _ => if a.hearsRefused e then [e] else []
    | none => e :: a.told es

/-- How announcing entries ends. -/
def verdict (a : Audience) (es : List Entry) : Except Fault Unit :=
  match es.findSome? a.refusal? with
  | none => .ok ()
  | some message => .error (.entryRejected message)

theorem told_of_forall (h : ∀ e ∈ es, a.refusal? e = none) : a.told es = es := by
  induction es with
  | nil => rfl
  | cons e es ih =>
    have he : a.refusal? e = none := h e List.mem_cons_self
    have hes : a.told es = es := ih fun e he => h e (List.mem_cons_of_mem _ he)
    simp [told, he, hes]

theorem verdict_eq_ok_iff : a.verdict es = .ok () ↔ ∀ e ∈ es, a.refusal? e = none := by
  rw [← List.findSome?_eq_none_iff]
  unfold verdict
  cases es.findSome? a.refusal? with
  | none => exact iff_of_true rfl rfl
  | some message => exact iff_of_false nofun nofun

theorem verdict_singleton (a : Audience) (e : Entry) : a.verdict [e] =
    match a.refusal? e with
    | none => .ok ()
    | some message => .error (.entryRejected message) := by
  unfold verdict
  rw [List.findSome?_cons]
  cases a.refusal? e <;> rfl

theorem isRejection_of_verdict {fault : Fault} (h : a.verdict es = .error fault) :
    fault.IsRejection := by
  unfold verdict at h
  split at h
  · exact nomatch h
  · obtain rfl := Except.error.inj h
    exact ⟨_, rfl⟩

/-- If entries are refused, some are not and the one after them is. -/
theorem exists_of_verdict {fault : Fault} (h : a.verdict es = .error fault) :
    ∃ before e after message, es = before ++ e :: after ∧ (∀ b ∈ before, a.refusal? b = none) ∧
      a.refusal? e = some message ∧ fault = .entryRejected message := by
  unfold verdict at h
  split at h
  · exact nomatch h
  · rename_i message hm
    obtain ⟨before, e, after, rfl, he, hb⟩ := List.findSome?_eq_some_iff.1 hm
    exact ⟨before, e, after, message, rfl, hb, he, (Except.error.inj h).symm⟩

theorem verdict_append_cons {before after : List Entry} (hb : ∀ e ∈ before, a.refusal? e = none)
    (he : a.refusal? e = some message) :
    a.verdict (before ++ e :: after) = .error (.entryRejected message) := by
  have hf : (before ++ e :: after).findSome? a.refusal? = some message :=
    List.findSome?_eq_some_iff.2 ⟨before, e, after, rfl, he, hb⟩
  unfold verdict
  rw [hf]

/-- The entries before the first refused one have been heard of; the ones after it have not. -/
theorem told_append_cons {before after : List Entry} (hb : ∀ e ∈ before, a.refusal? e = none)
    (he : a.refusal? e = some message) :
    a.told (before ++ e :: after) = before ++ if a.hearsRefused e then [e] else [] := by
  induction before with
  | nil => simp [told, he]
  | cons b before ih =>
    have hb' : a.refusal? b = none := hb b List.mem_cons_self
    have ih := ih fun e he => hb e (List.mem_cons_of_mem _ he)
    simp [told, hb', ih]

end Audience

/-! ### One attempt -/

/-- The entries that an attempt announces. -/
def Recipe.compile (r : Recipe σ) : Step σ (List Entry) := do
  let lines ← r.lines
  Step.flatMapList r.expand lines

/-- Announces the entries of an attempt, and keeps them if none is refused. -/
def Recipe.publish (cell : Part σ Table) (r : Recipe σ) (es : List Entry) :
    Step σ (List Entry) := do
  Step.forEach r.announce es
  Step.modify (cell.set (some es))
  Step.log .debug ("Route table built with ".toList ++ Text.ofNat es.length ++ " entries".toList)
  pure es

theorem run_access_of_unbuilt {cell : Part σ Table} {s : σ} (h : cell.get s = none)
    (r : Recipe σ) : (access cell r).run s = (r.compile >>= r.publish cell).run s := by
  have ha : (access cell r).run s = (r.entries >>= fun es => do
      Step.modify (cell.set (some es))
      Step.log .debug ("Route table built with ".toList ++ Text.ofNat es.length ++
        " entries".toList)
      pure es).run s := by
    unfold access
    simp only [Step.run_bind, Step.run_read, Outcome.andThen_ok, h, List.nil_append]
  rw [ha]
  unfold Recipe.entries Recipe.compile
  simp only [Step.bind_assoc]
  rfl

/-- A table that is built from a recipe in states that `Attends` allows: one listener has `heard`
entries, and is told of more as one of an `audience`. -/
structure Attended (cell : Part σ Table) (r : Recipe σ) (Attends : σ → Prop)
    (heard : σ → List Entry) (audience : σ → Audience) : Prop where
  /-- Compiling changes nothing of it all. -/
  compile {s : σ} : Attends s → Attends (r.compile.run s).state ∧
    cell.get (r.compile.run s).state = cell.get s ∧ heard (r.compile.run s).state = heard s ∧
      audience (r.compile.run s).state = audience s
  announce {s : σ} (e : Entry) : Attends s → Attends ((r.announce e).run s).state ∧
    cell.get ((r.announce e).run s).state = cell.get s ∧
      audience ((r.announce e).run s).state = audience s ∧
        heard ((r.announce e).run s).state = heard s ++ (audience s).told [e] ∧
          ((r.announce e).run s).result = (audience s).verdict [e]
  keep {s : σ} (t : Table) : Attends s → Attends (cell.set t s) ∧ cell.get (cell.set t s) = t ∧
    heard (cell.set t s) = heard s

variable {cell : Part σ Table} {r : Recipe σ} {Attends : σ → Prop} {heard : σ → List Entry}
  {audience : σ → Audience}

theorem Attended.heard_forEach (h : Attended cell r Attends heard audience) {s : σ} (hs : Attends s)
    (es : List Entry) : Attends ((Step.forEach r.announce es).run s).state ∧
      cell.get ((Step.forEach r.announce es).run s).state = cell.get s ∧
        heard ((Step.forEach r.announce es).run s).state = heard s ++ (audience s).told es ∧
          ((Step.forEach r.announce es).run s).result = (audience s).verdict es := by
  -- The audience stays the same from entry to entry, and so does what it makes of the rest.
  induction es generalizing s with
  | nil => exact ⟨hs, rfl, (List.append_nil _).symm, rfl⟩
  | cons e es ih =>
    obtain ⟨ha, hc, hau, hh, hr⟩ := h.announce e hs
    unfold Step.forEach
    cases he : (audience s).refusal? e with
    | some message =>
      have hv : (audience s).verdict [e] = .error (.entryRejected message) := by
        simp [Audience.verdict, he]
      have hv' : (audience s).verdict (e :: es) = (audience s).verdict [e] := by
        simp [Audience.verdict, he]
      have ht : (audience s).told (e :: es) = (audience s).told [e] := by
        simp [Audience.told, he]
      rw [Step.run_bind_of_fault (hr.trans hv), hv', ht, hv]
      exact ⟨ha, hc, hh, rfl⟩
    | none =>
      have hv : (audience s).verdict [e] = .ok () := by simp [Audience.verdict, he]
      have hv' : (audience s).verdict (e :: es) = (audience s).verdict es := by
        simp [Audience.verdict, he]
      have ht : (audience s).told (e :: es) = (audience s).told [e] ++ (audience s).told es := by
        simp [Audience.told, he]
      obtain ⟨ha', hc', hh', hr'⟩ := ih ha
      rw [Step.run_bind_of_result (hr.trans hv), hv', ht]
      refine ⟨ha', hc'.trans hc, ?_, ?_⟩
      · rw [hh', hau, hh, List.append_assoc]
      · rw [hr', hau]

theorem Attended.heard_publish (h : Attended cell r Attends heard audience) {s : σ} (hs : Attends s)
    (hn : cell.get s = none) (es : List Entry) : Attends ((r.publish cell es).run s).state ∧
      heard ((r.publish cell es).run s).state = heard s ++ (audience s).told es ∧
      ((audience s).verdict es = .ok () → ((r.publish cell es).run s).result = .ok es ∧
        cell.get ((r.publish cell es).run s).state = some es) ∧
      ∀ fault, (audience s).verdict es = .error fault →
        ((r.publish cell es).run s).result = .error fault ∧
          cell.get ((r.publish cell es).run s).state = none := by
  obtain ⟨ha, hc, hh, hr⟩ := h.heard_forEach hs es
  unfold Recipe.publish
  rw [← hr]
  cases hv : ((Step.forEach r.announce es).run s).result with
  | error fault =>
    rw [Step.run_bind_of_fault hv]
    refine ⟨ha, hh, nofun, fun fault' hf => ?_⟩
    obtain rfl := Except.error.inj hf
    exact ⟨rfl, hc.trans hn⟩
  | ok u =>
    rw [Step.run_bind_of_result hv]
    obtain ⟨hka, hkc, hkh⟩ := h.keep (some es) ha
    exact ⟨hka, hkh.trans hh, fun _ => ⟨rfl, hkc⟩, nofun⟩

/-- A table that is not built makes one attempt.  If its entries cannot be compiled, nobody has heard
of anything; if they can, the listener is told of them, and they are kept if none is refused. -/
theorem Attended.heard_access (h : Attended cell r Attends heard audience) {s : σ} (hs : Attends s)
    (hn : cell.get s = none) :
    Attends ((access cell r).run s).state ∧
    (∀ fault, (r.compile.run s).result = .error fault →
      ((access cell r).run s).result = .error fault ∧
        cell.get ((access cell r).run s).state = none ∧
          heard ((access cell r).run s).state = heard s) ∧
    ∀ es, (r.compile.run s).result = .ok es →
      heard ((access cell r).run s).state = heard s ++ (audience s).told es ∧
      ((audience s).verdict es = .ok () → ((access cell r).run s).result = .ok es ∧
        cell.get ((access cell r).run s).state = some es) ∧
      ∀ fault, (audience s).verdict es = .error fault →
        ((access cell r).run s).result = .error fault ∧
          cell.get ((access cell r).run s).state = none := by
  obtain ⟨ha, hc, hh, hau⟩ := h.compile hs
  rw [run_access_of_unbuilt hn]
  cases hr : (r.compile.run s).result with
  | error fault =>
    rw [Step.run_bind_of_fault hr]
    refine ⟨ha, fun fault' hf => ?_, nofun⟩
    obtain rfl := Except.error.inj hf
    exact ⟨rfl, hc.trans hn, hh⟩
  | ok es =>
    have hp := h.heard_publish ha (hc.trans hn) es
    rw [hh, hau] at hp
    rw [Step.run_bind_of_result hr]
    refine ⟨hp.1, nofun, fun es' he => ?_⟩
    obtain rfl := Except.ok.inj he
    exact hp.2

/-- What one attempt at an unbuilt table comes to, and what the listener has heard then. -/
structure AttemptHeard (cell : Part σ Table) (r : Recipe σ) (heard : σ → List Entry)
    (audience : σ → Audience) (s : σ) : Prop where
  /-- The entries cannot be compiled, and nobody has heard of anything. -/
  failed {fault : Fault} : (r.compile.run s).result = .error fault →
    ((access cell r).run s).result = .error fault ∧
      cell.get ((access cell r).run s).state = none ∧ heard ((access cell r).run s).state = heard s
  /-- No entry is refused, and the listener has heard of each once, in order. -/
  built {es : List Entry} : (r.compile.run s).result = .ok es →
    (∀ e ∈ es, (audience s).refusal? e = none) →
      ((access cell r).run s).result = .ok es ∧
        cell.get ((access cell r).run s).state = some es ∧
          heard ((access cell r).run s).state = heard s ++ es
  /-- An entry is refused, and the listener has heard of those before it all the same. -/
  refused {before rest : List Entry} {e : Entry} {message : Text} :
    (r.compile.run s).result = .ok (before ++ e :: rest) →
    (∀ b ∈ before, (audience s).refusal? b = none) → (audience s).refusal? e = some message →
      ((access cell r).run s).result = .error (.entryRejected message) ∧
        cell.get ((access cell r).run s).state = none ∧
          heard ((access cell r).run s).state = heard s ++ before ++
            if (audience s).hearsRefused e then [e] else []

theorem Attended.attemptHeard (h : Attended cell r Attends heard audience) {s : σ}
    (hs : Attends s) (hn : cell.get s = none) : AttemptHeard cell r heard audience s := by
  obtain ⟨-, hfail, hok⟩ := h.heard_access hs hn
  refine ⟨fun {fault} hr => hfail fault hr, fun {es} hr ha => ?_,
    fun {before rest e message} hr hb he => ?_⟩
  · obtain ⟨hh, hkept, -⟩ := hok es hr
    obtain ⟨hres, hc⟩ := hkept (Audience.verdict_eq_ok_iff.2 ha)
    rw [Audience.told_of_forall ha] at hh
    exact ⟨hres, hc, hh⟩
  · obtain ⟨hh, -, hrefused⟩ := hok _ hr
    obtain ⟨hres, hc⟩ := hrefused _ (Audience.verdict_append_cons hb he)
    rw [Audience.told_append_cons hb he, ← List.append_assoc] at hh
    exact ⟨hres, hc, hh⟩

/-! ### Sessions -/

/-- The state is still one that `Attends` allows; the table and what the listener has heard are as
they were. -/
def Untouched (cell : Part σ Table) (Attends : σ → Prop) (heard : σ → List Entry) (s s' : σ) : Prop :=
  Attends s → Attends s' ∧ cell.get s' = cell.get s ∧ heard s' = heard s

theorem untouched_refl (cell : Part σ Table) (Attends : σ → Prop) (heard : σ → List Entry) (s : σ) :
    Untouched cell Attends heard s s := fun hs => ⟨hs, rfl, rfl⟩

/-- A step leaves a built table and what the listener has heard as they are.  If it builds a table,
the listener has heard of its entries, each once and in order; if the table stays unbuilt, the
listener has heard of nothing unless a hook has refused an entry. -/
structure Delivers (cell : Part σ Table) (Attends : σ → Prop) (heard : σ → List Entry)
    (x : Step σ α) : Prop where
  attends {s : σ} : Attends s → Attends (x.run s).state
  built {s : σ} {es : List Entry} : Attends s → cell.get s = some es →
    cell.get (x.run s).state = some es ∧ heard (x.run s).state = heard s
  unbuilt {s : σ} : Attends s → cell.get s = none → ∃ told,
    heard (x.run s).state = heard s ++ told ∧
      (cell.get (x.run s).state = some told ∨
        cell.get (x.run s).state = none ∧
          (told = [] ∨ ∃ fault, (x.run s).result = .error fault ∧ fault.IsRejection))

/-- A step fails to build the table and leaves the listener with something that it has heard of. -/
def LeavesTrace (cell : Part σ Table) (heard : σ → List Entry) (x : Step σ α) (s : σ) : Prop :=
  cell.get s = none ∧ cell.get (x.run s).state = none ∧ heard (x.run s).state ≠ heard s

section Sessions

variable {x : Step σ α} {s : σ}

theorem delivers_of_moves (h : Step.Moves (Untouched cell Attends heard) x) :
    Delivers cell Attends heard x where
  attends hs := (h _ hs).1
  built hs hb := ⟨(h _ hs).2.1.trans hb, (h _ hs).2.2⟩
  unbuilt hs hn := by
    obtain ⟨-, hc, hh⟩ := h _ hs
    exact ⟨[], by rw [hh, List.append_nil], .inr ⟨hc.trans hn, .inl rfl⟩⟩

theorem Delivers.bind {f : α → Step σ β} (hx : Delivers cell Attends heard x)
    (hf : ∀ a, Delivers cell Attends heard (f a)) : Delivers cell Attends heard (x >>= f) := by
  have hcases : ∀ s, (∃ fault, (x.run s).result = .error fault ∧
        (x >>= f).run s = ⟨(x.run s).events, (x.run s).state, .error fault⟩) ∨
      ∃ a, (x.run s).result = .ok a ∧ (x >>= f).run s = { (f a).run (x.run s).state with
        events := (x.run s).events ++ ((f a).run (x.run s).state).events } := by
    intro s
    cases hr : (x.run s).result with
    | error fault => exact .inl ⟨fault, rfl, Step.run_bind_of_fault hr⟩
    | ok a => exact .inr ⟨a, rfl, Step.run_bind_of_result hr⟩
  refine ⟨fun {s} hs => ?_, fun {s es} hs hb => ?_, fun {s} hs hn => ?_⟩
  · rcases hcases s with ⟨fault, -, he⟩ | ⟨a, -, he⟩ <;> rw [he]
    · exact hx.attends hs
    · exact (hf a).attends (hx.attends hs)
  · obtain ⟨hc, hh⟩ := hx.built hs hb
    rcases hcases s with ⟨fault, -, he⟩ | ⟨a, -, he⟩ <;> rw [he]
    · exact ⟨hc, hh⟩
    · obtain ⟨hc', hh'⟩ := (hf a).built (hx.attends hs) hc
      exact ⟨hc', hh'.trans hh⟩
  · obtain ⟨told, hh, hcase⟩ := hx.unbuilt hs hn
    rcases hcases s with ⟨fault, hr, he⟩ | ⟨a, hr, he⟩ <;> rw [he]
    · refine ⟨told, hh, hcase.imp_right fun ⟨hc, ht⟩ => ⟨hc, ht.imp_right ?_⟩⟩
      rintro ⟨fault', hf, hj⟩
      obtain rfl := Except.error.inj (hr.symm.trans hf)
      exact ⟨fault, rfl, hj⟩
    · rcases hcase with hc | ⟨hc, ht⟩
      · obtain ⟨hc', hh'⟩ := (hf a).built (hx.attends hs) hc
        exact ⟨told, hh'.trans hh, .inl hc'⟩
      · -- The first step has ended with a result, so no hook has refused anything.
        have ht : told = [] := by
          rcases ht with ht | ⟨fault, hf, -⟩
          · exact ht
          · exact nomatch hr.symm.trans hf
        subst ht
        rw [List.append_nil] at hh
        obtain ⟨told, hh', hcase⟩ := (hf a).unbuilt (hx.attends hs) hc
        exact ⟨told, by rw [hh', hh], hcase⟩

theorem Delivers.mapFault (h : Delivers cell Attends heard x) {f : Fault → Fault}
    (hf : ∀ fault : Fault, fault.IsRejection → (f fault).IsRejection) :
    Delivers cell Attends heard (Step.mapFault f x) where
  attends := h.attends
  built := h.built
  unbuilt hs hn := by
    obtain ⟨told, hh, hb | ⟨hc, ht | ⟨fault, hr, hj⟩⟩⟩ := h.unbuilt hs hn
    · exact ⟨told, hh, .inl hb⟩
    · exact ⟨told, hh, .inr ⟨hc, .inl ht⟩⟩
    · refine ⟨told, hh, .inr ⟨hc, .inr ⟨f fault, ?_, hf fault hj⟩⟩⟩
      rw [Step.run_mapFault, hr]
      rfl

theorem Attended.delivers_access (h : Attended cell r Attends heard audience) :
    Delivers cell Attends heard (access cell r) := by
  refine ⟨fun {s} hs => ?_, fun {s es} hs hb => ?_, fun {s} hs hn => ?_⟩
  · cases hc : cell.get s with
    | some es => rwa [run_access_of_built hc]
    | none => exact (h.heard_access hs hc).1
  · rw [run_access_of_built hb]
    exact ⟨hb, rfl⟩
  · obtain ⟨-, hfail, hok⟩ := h.heard_access hs hn
    cases hr : (r.compile.run s).result with
    | error fault =>
      obtain ⟨-, hc, hh⟩ := hfail fault hr
      exact ⟨[], by rw [hh, List.append_nil], .inr ⟨hc, .inl rfl⟩⟩
    | ok es =>
      obtain ⟨hh, hkept, hrefused⟩ := hok es hr
      refine ⟨_, hh, ?_⟩
      cases hv : (audience s).verdict es with
      | ok u =>
        rw [Audience.told_of_forall (Audience.verdict_eq_ok_iff.1 hv)]
        exact .inl (hkept hv).2
      | error fault =>
        obtain ⟨hr, hc⟩ := hrefused fault hv
        exact .inr ⟨hc, .inr ⟨fault, hr, Audience.isRejection_of_verdict hv⟩⟩

/-- Only a refused entry leaves a trace. -/
theorem isRejection_of_leavesTrace (h : Delivers cell Attends heard x) (hs : Attends s)
    (ht : LeavesTrace cell heard x s) :
    ∃ fault, (x.run s).result = .error fault ∧ fault.IsRejection := by
  obtain ⟨hn, hc, hh⟩ := ht
  obtain ⟨told, ht, hb | ⟨-, rfl | hr⟩⟩ := h.unbuilt hs hn
  · exact nomatch hb.symm.trans hc
  · exact absurd (ht.trans (List.append_nil _)) hh
  · exact hr

variable {xs : List (Step σ α)}

theorem attends_after (hx : ∀ x ∈ xs, Delivers cell Attends heard x) (hs : Attends s) :
    Attends (Step.after xs s) := by
  induction xs generalizing s with
  | nil => exact hs
  | cons x xs ih =>
    have hs' : Attends (x.run s).state := (hx x List.mem_cons_self).attends hs
    exact ih (fun y hy => hx y (List.mem_cons_of_mem _ hy)) hs'

theorem heard_after_of_built (hx : ∀ x ∈ xs, Delivers cell Attends heard x) (hs : Attends s)
    {es : List Entry} (hb : cell.get s = some es) :
    cell.get (Step.after xs s) = some es ∧ heard (Step.after xs s) = heard s := by
  induction xs generalizing s with
  | nil => exact ⟨hb, rfl⟩
  | cons x xs ih =>
    have hd : Delivers cell Attends heard x := hx x List.mem_cons_self
    obtain ⟨hc, hh⟩ := hd.built hs hb
    obtain ⟨hc', hh'⟩ := ih (fun y hy => hx y (List.mem_cons_of_mem _ hy)) (hd.attends hs) hc
    exact ⟨hc', hh'.trans hh⟩

/-- Something is so of an element and what comes before it if it is so of the first element, or of
one after that. -/
theorem exists_append_cons_iff {x : α} {xs : List α} {P : List α → α → Prop} :
    (∃ before y rest, x :: xs = before ++ y :: rest ∧ P before y) ↔
      P [] x ∨ ∃ before y rest, xs = before ++ y :: rest ∧ P (x :: before) y := by
  constructor
  · rintro ⟨before, y, rest, he, hp⟩
    cases before with
    | nil =>
      obtain ⟨rfl, rfl⟩ := List.cons.inj he
      exact .inl hp
    | cons b before =>
      obtain ⟨rfl, rfl⟩ := List.cons.inj he
      exact .inr ⟨before, y, rest, rfl, hp⟩
  · rintro (hp | ⟨before, y, rest, rfl, hp⟩)
    · exact ⟨[], x, xs, rfl, hp⟩
    · exact ⟨x :: before, y, rest, rfl, hp⟩

/-- What a listener has heard after a session: what steps that failed have left behind, then the
entries of the table, each once and in order, if there is one by now. -/
structure SessionHeard (cell : Part σ Table) (heard : σ → List Entry) (xs : List (Step σ α))
    (s : σ) : Prop where
  left : ∃ left, heard (Step.after xs s) =
      heard s ++ left ++ (cell.get (Step.after xs s)).getD [] ∧
    (left ≠ [] ↔ ∃ before x rest, xs = before ++ x :: rest ∧
      LeavesTrace cell heard x (Step.after before s))
  /-- Nothing but the entries of the table has been heard of if and only if no step has left
  something behind. -/
  once : heard (Step.after xs s) =
      heard s ++ (cell.get (Step.after xs s)).getD [] ↔
    ¬ ∃ before x rest, xs = before ++ x :: rest ∧ LeavesTrace cell heard x (Step.after before s)
  /-- Only a hook that refuses an entry leaves something behind. -/
  refused {before rest : List (Step σ α)} {x : Step σ α} : xs = before ++ x :: rest →
    LeavesTrace cell heard x (Step.after before s) →
      ∃ fault, (x.run (Step.after before s)).result = .error fault ∧ fault.IsRejection

theorem exists_heard_after (hx : ∀ x ∈ xs, Delivers cell Attends heard x) (hs : Attends s)
    (hn : cell.get s = none) : ∃ left,
      heard (Step.after xs s) =
        heard s ++ left ++ (cell.get (Step.after xs s)).getD [] ∧
      (left ≠ [] ↔ ∃ before x rest, xs = before ++ x :: rest ∧
        LeavesTrace cell heard x (Step.after before s)) := by
  induction xs generalizing s with
  | nil =>
    refine ⟨[], by simp [hn], fun h => absurd rfl h, ?_⟩
    rintro ⟨before, x, rest, he, -⟩
    simp at he
  | cons x xs ih =>
    have hd : Delivers cell Attends heard x := hx x List.mem_cons_self
    have hxs : ∀ y ∈ xs, Delivers cell Attends heard y := fun y hy =>
      hx y (List.mem_cons_of_mem _ hy)
    obtain ⟨told, hh, hb | ⟨hc, -⟩⟩ := hd.unbuilt hs hn
    · obtain ⟨hb', hh'⟩ := heard_after_of_built hxs (hd.attends hs) hb
      refine ⟨[], ?_, fun h => absurd rfl h, ?_⟩
      · rw [Step.after_cons, hb', hh', hh, List.append_nil]
        rfl
      · rw [exists_append_cons_iff]
        rintro (⟨-, hc, -⟩ | ⟨before, y, rest, rfl, hn', -⟩)
        · exact nomatch hb.symm.trans hc
        · have hxb : ∀ y ∈ before, Delivers cell Attends heard y :=
            fun y hy => hxs y (List.mem_append_left _ hy)
          have hb'' := (heard_after_of_built hxb (hd.attends hs) hb).1
          rw [Step.after_cons] at hn'
          exact nomatch hb''.symm.trans hn'
    · obtain ⟨left, hh', hl⟩ := ih hxs (hd.attends hs) hc
      refine ⟨told ++ left, ?_, ?_⟩
      · rw [Step.after_cons, hh', hh]
        simp only [List.append_assoc]
      · have htold : told ≠ [] ↔ LeavesTrace cell heard x s := by
          constructor
          · exact fun ht => ⟨hn, hc, fun he => ht (List.append_right_eq_self.1 (hh.symm.trans he))⟩
          · rintro ⟨-, -, hne⟩ rfl
            exact hne (hh.trans (List.append_nil _))
        rw [exists_append_cons_iff]
        simp only [Step.after_nil, Step.after_cons, ← htold, ← hl, ne_eq, List.append_eq_nil_iff,
          Classical.not_and_iff_not_or_not]

theorem sessionHeard_of_delivers (hx : ∀ x ∈ xs, Delivers cell Attends heard x) (hs : Attends s)
    (hn : cell.get s = none) : SessionHeard cell heard xs s := by
  have hleft := exists_heard_after hx hs hn
  refine ⟨hleft, ?_, fun {before rest x} he ht => ?_⟩
  · obtain ⟨left, hh, hl⟩ := hleft
    rw [hh, ← hl, List.append_assoc, List.append_cancel_left_eq, List.append_left_eq_self]
    exact Decidable.not_not.symm
  subst he
  have hbefore : ∀ y ∈ before, Delivers cell Attends heard y :=
    fun y hy => hx y (List.mem_append_left _ hy)
  have hd : Delivers cell Attends heard x := hx x (by simp)
  exact isRejection_of_leavesTrace hd (attends_after hbefore hs) ht

end Sessions

end Table

end Routing
