import Mathlib.Algebra.GroupWithZero.Nat
import Routing.Proofs.Binding.Objects

/-!
# What each field contributes

When an object is bound, no field is lost and none is used twice.  A field whose value can be placed
goes into one placeholder of its name, if the URL has one, and follows as one query pair otherwise;
any other field leaves no trace.  What is put in may make new placeholders and lengthen others, but
only before the placeholder that is come to, so each field that is still to be put in finds one of
its name: `exists_fillNames`.  Main statement: `each_field_contributes_once`.
-/

namespace Routing

open Pattern (pieces names spelled holes placeholder fill IsReading Piece)

/-! ### Fields that have a placeholder, and fields that have not -/

namespace Fields

/-- The fields whose values can be placed in a URL. -/
def plain (fields : Fields) : Fields := fields.filter fun p => p.2.isPlain

/-- The fields that one of the names stands for. -/
def named (names : List Text) (fields : Fields) : Fields :=
  fields.filter fun p => ∃ name ∈ names, p.1 = .text name

variable {fields before after : Fields} {name : Text} {v : Value}

theorem named_cons_of_ne (h : ∀ p ∈ fields, p.1 ≠ .text name) (names : List Text) :
    named (name :: names) fields = named names fields :=
  List.filter_congr fun p hp => by simp [h p hp]

/-- The fields of which a first name takes one are this one and those of the other names. -/
theorem named_append_cons (hk : KeysDiffer (before ++ (.text name, v) :: after))
    (names : List Text) :
    (named (name :: names) (before ++ (.text name, v) :: after)).Perm
      ((.text name, v) :: named names (before ++ after)) := by
  have hb := named_cons_of_ne hk.ne_text.1 names
  have ha := named_cons_of_ne hk.ne_text.2 names
  unfold named at hb ha ⊢
  rw [List.filter_append, List.filter_append, hb, List.filter_cons_of_pos (by simp), ha]
  exact List.perm_middle

theorem plain_cons_of_plain (h : v.isPlain = true) (key : Value) (fields : Fields) :
    plain ((key, v) :: fields) = (key, v) :: plain fields :=
  List.filter_cons_of_pos h

theorem plain_cons_of_not_plain (h : v.isPlain = false) (key : Value) (fields : Fields) :
    plain ((key, v) :: fields) = plain fields :=
  List.filter_cons_of_neg (by simp [h])

end Fields

namespace Binding

/-! ### One field after the other -/

/-- Some fields go into a URL one after the other.  Each takes the place of one whole placeholder,
the first that bears its name by then. -/
inductive Places : Text → Fields → Text → Prop where
  | nil (url : Text) : Places url [] url
  | cons {url url' name : Text} {v : Value} {before after : List Piece} {rest : Fields} :
      pieces url = before ++ .hole name :: after → name ∉ holes before →
      Places (spelled before ++ (v.written ++ spelled after)) rest url' →
      Places url ((.text name, v) :: rest) url'

/-- A URL with one more query pair for each field. -/
def addPairs (url : Text) (fields : Fields) : Text :=
  fields.foldl (fun url p => addPair url p.1 p.2) url

variable {ps : List Piece} {fields placed : Fields} {url url' name : Text} {v : Value}

/-- A field that is put in takes the first placeholder of its name, wherever that is. -/
theorem places_cons {rest : Fields} (hm : name ∈ names url)
    (h : Places (fill name v.written url) rest url') :
    Places url ((.text name, v) :: rest) url' := by
  rw [← Pattern.holes_pieces] at hm
  obtain ⟨before, after, hp, hb, hf⟩ :=
    Pattern.exists_fill_spelled (Pattern.isReading_pieces url) hm v.written
  rw [Pattern.spelled_pieces] at hf
  exact .cons hp hb (hf ▸ h)

/-- Along the pieces of a pattern, each field that can be placed and has a name among those of the
placeholders is put in once, whatever has become of the pieces behind. -/
theorem exists_fillNames (hr : IsReading ps) (hk : fields.KeysDiffer) (done : Text) :
    ∃ placed url', placed.Perm (fields.named (holes ps)).plain ∧
      Places (done ++ spelled ps) placed url' ∧
      fillNames false (holes ps) (done ++ spelled ps) fields =
        .ok (url', fields.unnamed (holes ps)) := by
  induction hr generalizing done fields with
  | nil =>
    refine ⟨[], _, ?_, .nil _, ?_⟩
    · simp [Fields.named, Fields.plain]
    · simp [fillNames, Fields.unnamed]
  | @char c ps _ _ ih =>
    rw [Pattern.spelled_char, List.append_cons]
    exact ih hk _
  | @hole name ps hn hs hr ih =>
    rw [Pattern.spelled_hole, Pattern.holes_hole, fillNames]
    cases ht : Fields.take? name fields with
    | none =>
      have hf := Fields.take?_eq_none_iff.1 ht
      rw [Fields.named_cons_of_ne hf, Fields.unnamed_cons_of_ne hf, ← List.append_assoc]
      exact ih hk _
    | some taken =>
      obtain ⟨v, others⟩ := taken
      obtain ⟨before, after, rfl, rfl⟩ := Fields.take?_eq_some ht
      have hnamed := (Fields.named_append_cons hk (holes ps)).filter fun p => p.2.isPlain
      rw [Fields.unnamed_append_cons hk]
      simp only [admits_lenient]
      cases hp : v.isPlain with
      | false =>
        obtain ⟨placed, url', hperm, hplaces, hfill⟩ := ih hk.removed (done ++ placeholder name)
        rw [List.append_assoc] at hplaces hfill
        refine ⟨placed, url', hperm.trans ?_, hplaces, hfill⟩
        rw [← Fields.plain_cons_of_not_plain hp (.text name)]
        exact hnamed.symm
      | true =>
        -- the placeholder come to is still there, so there is one to fill, here or before
        have hmem : name ∈ names (done ++ (placeholder name ++ spelled ps)) := by
          rw [← Pattern.holes_pieces, Pattern.pieces_append_placeholder done hn hs hr]
          simp
        obtain ⟨done', hdone⟩ : ∃ done', fill name v.written
            (done ++ (placeholder name ++ spelled ps)) = done' ++ spelled ps := by
          by_cases hm : name ∈ names done
          · refine ⟨fill name v.written done ++ placeholder name, ?_⟩
            rw [Pattern.fill_append_of_mem hm (Pattern.startsWithWord_placeholder name _),
              List.append_assoc]
          · refine ⟨done ++ v.written, ?_⟩
            rw [Pattern.fill_append_of_not_mem hn hm hs, List.append_assoc]
        obtain ⟨placed, url', hperm, hplaces, hfill⟩ := ih hk.removed done'
        refine ⟨(.text name, v) :: placed, url', ?_, places_cons hmem (hdone ▸ hplaces), ?_⟩
        · refine (hperm.cons _).trans ?_
          rw [← Fields.plain_cons_of_plain hp]
          exact hnamed.symm
        · rw [← hfill, ← hdone]
          rfl

/-- The fields that no placeholder names follow in their order, those that cannot be placed left
out. -/
theorem addQuery_eq_addPairs (url : Text) (fields : Fields) :
    addQuery false url fields = .ok (addPairs url fields.plain) := by
  induction fields generalizing url with
  | nil => rfl
  | cons p rest ih =>
    obtain ⟨key, v⟩ := p
    rw [addQuery]
    simp only [admits_lenient]
    cases hv : v.isPlain with
    | true =>
      rw [Fields.plain_cons_of_plain hv]
      exact ih (addPair url key v)
    | false =>
      rw [Fields.plain_cons_of_not_plain hv]
      exact ih url

/-! ### How long the URL becomes -/

/-- A field that is put in takes its name and a colon away and brings its text. -/
theorem Places.length_add (h : Places url placed url') :
    url'.length + (placed.map fun p => p.1.written.length + 1).sum =
      url.length + (placed.map fun p => p.2.written.length).sum := by
  induction h with
  | nil url => rfl
  | @cons url url' name v before after rest hp _ _ ih =>
    have hurl : url.length =
        (spelled before).length + ((name.length + 1) + (spelled after).length) := by
      conv => lhs; rw [← Pattern.spelled_pieces url, hp]
      rw [Pattern.spelled_append, Pattern.spelled_hole, List.length_append, List.length_append]
      rfl
    have hkey : (Value.text name).written = name := Value.written_text name
    rw [List.length_append, List.length_append] at ih
    rw [List.map_cons, List.map_cons, List.sum_cons, List.sum_cons, hkey]
    dsimp only
    omega

theorem length_addPairs (url : Text) (fields : Fields) : (addPairs url fields).length =
    url.length + (fields.map fun p => p.1.written.length + p.2.written.length + 2).sum := by
  unfold addPairs
  induction fields generalizing url with
  | nil => rfl
  | cons p rest ih =>
    have hpair : (addPair url p.1 p.2).length =
        url.length + (p.1.written.length + p.2.written.length + 2) := by
      unfold addPair
      simp only [List.length_append, List.length_cons]
      omega
    rw [List.foldl_cons, ih, hpair, List.map_cons, List.sum_cons]
    omega

/-! ### All fields -/

/-- Each field of an object whose value can be placed contributes once.  If some placeholder of the
URL bears its name, its text takes the place of one whole placeholder of that name; otherwise it
follows as one query pair.  No other field contributes anything.  So the URL loses the names of the
fields that are put in, and a colon for each, and gains their texts, and for each field that follows
the key, the text and two more characters. -/
theorem each_field_contributes_once {obj : Value} (ho : obj.fields? = some fields)
    (hk : fields.KeysDiffer) (url : Text) :
    let put := (fields.named (names url)).plain
    let following := (fields.unnamed (names url)).plain
    ∃ placed url', placed.Perm put ∧ Places url placed url' ∧
      extend false url obj = .ok (addPairs url' following) ∧
      ((addPairs url' following).length : Int) =
        url.length - ((put.map fun p => p.1.written.length + 1).sum : Nat) +
          ((put.map fun p => p.2.written.length).sum : Nat) +
          ((following.map fun p => p.1.written.length + p.2.written.length + 2).sum : Nat) := by
  intro put following
  obtain ⟨placed, url', hperm, hplaces, hfill⟩ :=
    exists_fillNames (Pattern.isReading_pieces url) hk []
  rw [List.nil_append, Pattern.spelled_pieces, Pattern.holes_pieces] at hfill
  rw [List.nil_append, Pattern.spelled_pieces] at hplaces
  rw [Pattern.holes_pieces] at hperm
  refine ⟨placed, url', hperm, hplaces, ?_, ?_⟩
  · unfold extend fillByName
    rw [ho]
    simp only [hfill]
    exact addQuery_eq_addPairs url' _
  · have hnames : (placed.map fun p => p.1.written.length + 1).sum =
        (put.map fun p => p.1.written.length + 1).sum := (hperm.map _).sum_nat
    have htexts : (placed.map fun p => p.2.written.length).sum =
        (put.map fun p => p.2.written.length).sum := (hperm.map _).sum_nat
    have hlength := hplaces.length_add
    rw [hnames, htexts] at hlength
    rw [length_addPairs]
    omega

/-- What is put in for `a` is a placeholder of `b`, and yet both are put in once: the URL of nine
characters loses four of them, and gains three, and four more for `c`. -/
theorem each_field_contributes_once_self_naming :
    (Value.object .dictionary selfNaming).fields? = some selfNaming ∧ selfNaming.KeysDiffer ∧
    ∃ placed url', placed.Perm [(.text "a", .text ":b"), (.text "b", .text "x")] ∧
      Places "/:a/:a/:b" placed url' ∧
      extend false "/:a/:a/:b" (.object .dictionary selfNaming) =
        .ok (addPairs url' [(.text "c", .int 1)]) ∧
      ((addPairs url' [(.text "c", .int 1)]).length : Int) = 9 - 4 + 3 + 4 := by
  have ho : (Value.object .dictionary selfNaming).fields? = some selfNaming := rfl
  have hk : selfNaming.KeysDiffer := by decide
  obtain ⟨placed, url', hperm, hplaces, hextend, hlength⟩ :=
    each_field_contributes_once ho hk "/:a/:a/:b"
  have hput : (selfNaming.named (names "/:a/:a/:b")).plain =
      [(.text "a", .text ":b"), (.text "b", .text "x")] := by decide +kernel
  have hfollowing : (selfNaming.unnamed (names "/:a/:a/:b")).plain = [(.text "c", .int 1)] := by
    decide +kernel
  rw [hput] at hperm
  rw [hfollowing] at hextend
  refine ⟨ho, hk, placed, url', hperm, hplaces, hextend, ?_⟩
  rw [hput, hfollowing] at hlength
  exact hlength.trans (by decide +kernel)

end Binding

end Routing
