import Routing.Proofs.Binding.Agreement
import Routing.Proofs.Binding.Contributions
import Routing.Proofs.Binding.Refusals

/-!
# Binding on from a complete URL

Once a URL has no placeholder left, nothing in it is written again.  What comes after it begins with
the separator of a query pair, so that a placeholder that is met later, in a key or a text, lies
behind that (`WentOn`), and every argument keeps it so: `wentOn_consumeAll`.  The URL itself stays
until an object brings a pair, and till then other values are neither put in nor refused.  Main
statement: `completed_never_rewritten`.
-/

namespace Routing

open Pattern (names IsName fill fillFirst)

namespace Binding

/-- The URL that binding has come to, complete or not. -/
def reached : Binding → Text
  | .complete url => url
  | .short _ url => url

/-- A value is an object with a field whose value can be placed in a URL. -/
def BringsPair (v : Value) : Prop := ∃ fields, v.fields? = some fields ∧ fields.plain ≠ []

/-- A URL goes on after another with a query pair, or what has become of it. -/
def WentOn (u url : Text) : Prop := ∃ c rest, (c = '?' ∨ c = '&') ∧ url = u ++ c :: rest

variable {strict : Bool} {u url url' name : Text} {v : Value} {vs ws : List Value}
  {fields : Fields}

@[simp] theorem reached_ofUrl (url : Text) : (ofUrl url).reached = url := by
  unfold ofUrl
  cases Pattern.first? url <;> rfl

/-! ### What comes after a complete URL -/

theorem WentOn.isPrefix (h : WentOn u url) : u <+: url := by
  obtain ⟨c, rest, -, rfl⟩ := h
  exact List.prefix_append u (c :: rest)

theorem WentOn.ne (h : WentOn u url) : url ≠ u := by
  obtain ⟨c, rest, -, rfl⟩ := h
  simp

theorem WentOn.append (h : WentOn u url) (s : Text) : WentOn u (url ++ s) := by
  obtain ⟨c, rest, hc, rfl⟩ := h
  refine ⟨c, rest ++ s, hc, ?_⟩
  simp

/-- A separator belongs to no placeholder. -/
theorem separator_spec {c : Char} (h : c = '?' ∨ c = '&') : Text.isWord c = false ∧ c ≠ ':' := by
  rcases h with rfl | rfl <;> decide

theorem WentOn.fill (hu : names u = []) (hn : IsName name) (h : WentOn u url) (t : Text) :
    WentOn u (fill name t url) := by
  obtain ⟨c, rest, hc, rfl⟩ := h
  obtain ⟨hw, hcolon⟩ := separator_spec hc
  have hm : name ∉ names u := by simp [hu]
  have hs : Pattern.startsWithWord (c :: rest) = false := hw
  refine ⟨c, Pattern.fill name t rest, hc, ?_⟩
  rw [Pattern.fill_append_right hn hm hs, Pattern.fill_char hn fun he => absurd he hcolon]

theorem WentOn.fillFirst (hu : names u = []) (h : WentOn u url) (t : Text) :
    WentOn u (fillFirst t url) := by
  obtain ⟨c, rest, hc, rfl⟩ := h
  obtain ⟨hw, hcolon⟩ := separator_spec hc
  have hs : Pattern.startsWithWord (c :: rest) = false := hw
  refine ⟨c, Pattern.fillFirst t rest, hc, ?_⟩
  rw [Pattern.fillFirst_append_right hu hs, Pattern.fillFirst_char fun he => absurd he hcolon]

/-- A first pair begins with a separator, and others come after it. -/
theorem wentOn_addPair (h : url = u ∨ WentOn u url) (key v : Value) :
    WentOn u (addPair url key v) := by
  unfold addPair
  rw [List.append_assoc]
  rcases h with rfl | h
  · refine ⟨pairSeparator url, _, ?_, rfl⟩
    unfold pairSeparator
    split
    · exact Or.inr rfl
    · exact Or.inl rfl
  · exact h.append _

theorem wentOn_addPairs (h : url = u ∨ WentOn u url) (hne : fields ≠ []) :
    WentOn u (addPairs url fields) := by
  unfold addPairs
  induction fields generalizing url with
  | nil => exact absurd rfl hne
  | cons p rest ih =>
    have hp : WentOn u (addPair url p.1 p.2) := wentOn_addPair h p.1 p.2
    by_cases hr : rest = []
    · subst hr
      exact hp
    · exact ih (Or.inr hp) hr

/-! ### One argument -/

/-- Strict binding that goes well is binding that is not strict. -/
theorem consume_lenient_of_ok (h : consume strict url v = .ok url') :
    consume false url v = .ok url' := by
  cases strict with
  | false => exact h
  | true =>
    rw [consume_strict] at h
    cases hl : loss? url v with
    | none => rwa [hl] at h
    | some loss =>
      rw [hl] at h
      exact nomatch h

/-- A value that is no object leaves a complete URL alone, and is not refused. -/
theorem consume_of_complete (hu : names u = []) (hv : v.fields? = none) :
    consume strict u v = .ok u := by
  have hfirst : Pattern.first? u = none := Pattern.first?_eq_none_iff.2 hu
  cases v with
  | null => rfl
  | _ => simp only [consume, hv, fillByPlace, hfirst]

/-- All fields of an object that can be placed follow a complete URL as pairs. -/
theorem consume_of_complete_of_fields (hu : names u = []) (hv : v.fields? = some fields) :
    consume false u v = .ok (addPairs u fields.plain) := by
  rw [consume_of_fields hv]
  unfold fillByName
  rw [hu]
  exact addQuery_eq_addPairs u fields

theorem wentOn_fillNames {ns : List Text} (hu : names u = []) (hns : ∀ n ∈ ns, IsName n)
    (h : WentOn u url) {left : Fields} (hf : fillNames false ns url fields = .ok (url', left)) :
    WentOn u url' := by
  induction ns generalizing url fields with
  | nil =>
    obtain ⟨rfl, -⟩ := Prod.mk.inj (Except.ok.inj hf)
    exact h
  | cons n ns ih =>
    obtain ⟨hn, hrest⟩ := List.forall_mem_cons.1 hns
    rw [fillNames] at hf
    cases ht : Fields.take? n fields with
    | none =>
      rw [ht] at hf
      exact ih hrest h hf
    | some taken =>
      obtain ⟨w, others⟩ := taken
      rw [ht] at hf
      simp only [admits_lenient] at hf
      cases hw : w.isPlain with
      | true =>
        rw [hw] at hf
        exact ih hrest (h.fill hu hn w.written) hf
      | false =>
        rw [hw] at hf
        exact ih hrest h hf

/-- Whatever is used up once a URL has gone on after a complete one is put in behind that. -/
theorem wentOn_consume (hu : names u = []) (h : WentOn u url)
    (hc : consume strict url v = .ok url') : WentOn u url' := by
  replace hc := consume_lenient_of_ok hc
  cases hv : v.fields? with
  | none =>
    cases hp : v.isPlain with
    | true =>
      rw [consume_of_plain hp] at hc
      obtain rfl := Except.ok.inj hc
      exact h.fillFirst hu v.written
    | false =>
      rw [consume_of_not_plain hv hp] at hc
      obtain rfl := Except.ok.inj hc
      exact h
  | some fields =>
    rw [consume_of_fields hv] at hc
    unfold fillByName at hc
    obtain ⟨filled, hf⟩ := fillNames_lenient (names url) url fields
    have hfilled : WentOn u filled :=
      wentOn_fillNames hu (fun n hn => Pattern.isName_of_mem_names hn) h hf
    rw [hf] at hc
    replace hc : addQuery false filled (parted (names url) fields).2 = .ok url' := hc
    rw [addQuery_eq_addPairs] at hc
    obtain rfl := Except.ok.inj hc
    by_cases hne : (parted (names url) fields).2.plain = []
    · rw [hne]
      exact hfilled
    · exact wentOn_addPairs (Or.inr hfilled) hne

/-- An argument brings the first pair after a complete URL, or leaves it as it is. -/
theorem consume_of_complete_cases (hu : names u = []) (hc : consume strict u v = .ok url) :
    (BringsPair v ∧ WentOn u url) ∨ (¬ BringsPair v ∧ url = u) := by
  cases hv : v.fields? with
  | none =>
    rw [consume_of_complete hu hv] at hc
    obtain rfl := Except.ok.inj hc
    refine Or.inr ⟨?_, rfl⟩
    rintro ⟨fields, hf, -⟩
    exact nomatch hv.symm.trans hf
  | some fields =>
    replace hc := consume_lenient_of_ok hc
    rw [consume_of_complete_of_fields hu hv] at hc
    obtain rfl := Except.ok.inj hc
    by_cases hne : fields.plain = []
    · refine Or.inr ⟨?_, by rw [hne]; rfl⟩
      rintro ⟨fields', hf, hne'⟩
      obtain rfl := Option.some.inj (hv.symm.trans hf)
      exact hne' hne
    · exact Or.inl ⟨⟨fields, hv, hne⟩, wentOn_addPairs (Or.inl rfl) hne⟩

/-! ### Arguments one after the other -/

theorem consumeAll_append (strict : Bool) (url : Text) (vs ws : List Value) :
    consumeAll strict url (vs ++ ws) =
      (consumeAll strict url vs >>= fun url => consumeAll strict url ws) := by
  induction vs generalizing url with
  | nil => rfl
  | cons v vs ih =>
    rw [List.cons_append, consumeAll, consumeAll]
    cases consume strict url v with
    | error fault => rfl
    | ok url' => exact ih url'

theorem wentOn_consumeAll (hu : names u = []) (h : WentOn u url)
    (hc : consumeAll strict url vs = .ok url') : WentOn u url' := by
  induction vs generalizing url with
  | nil =>
    obtain rfl := Except.ok.inj hc
    exact h
  | cons v vs ih =>
    obtain ⟨url₁, hv, hvs⟩ := exists_of_bind_eq_ok hc
    exact ih (wentOn_consume hu h hv) hvs

/-- Arguments after a complete URL go on after it if any of them brings a pair, and leave it as it is
if none does. -/
theorem consumeAll_of_complete_cases (hu : names u = []) (hc : consumeAll strict u vs = .ok url) :
    ((∃ v ∈ vs, BringsPair v) ∧ WentOn u url) ∨ ((∀ v ∈ vs, ¬ BringsPair v) ∧ url = u) := by
  induction vs with
  | nil =>
    obtain rfl := Except.ok.inj hc
    exact Or.inr ⟨by simp, rfl⟩
  | cons v vs ih =>
    obtain ⟨url₁, hv, hvs⟩ := exists_of_bind_eq_ok hc
    rcases consume_of_complete_cases hu hv with ⟨hb, hw⟩ | ⟨hb, rfl⟩
    · exact Or.inl ⟨⟨v, by simp, hb⟩, wentOn_consumeAll hu hw hvs⟩
    · rcases ih hvs with ⟨⟨w, hw, hbw⟩, hgo⟩ | ⟨hnone, rfl⟩
      · exact Or.inl ⟨⟨w, by simp [hw], hbw⟩, hgo⟩
      · refine Or.inr ⟨?_, rfl⟩
        simpa using ⟨hb, hnone⟩

/-! ### Binding on -/

theorem ofList_eq_ok_iff {pattern : Text} {b : Binding} :
    ofList strict pattern vs = .ok b ↔
      ∃ url, consumeAll strict pattern vs = .ok url ∧ ofUrl url = b := by
  unfold ofList
  cases consumeAll strict pattern vs <;> simp [Except.map]

/-- A value that is no object is of no account, neither put in nor refused, if it comes when the URL
is complete and no pair has been brought. -/
theorem consumeAll_concat_of_complete (hu : names u = []) (hb : ∀ w ∈ ws, ¬ BringsPair w)
    (hv : v.fields? = none) :
    consumeAll strict u (ws ++ [v]) = consumeAll strict u ws := by
  rw [consumeAll_append]
  cases hc : consumeAll strict u ws with
  | error fault => rfl
  | ok url =>
    have hurl : url = u := by
      rcases consumeAll_of_complete_cases hu hc with ⟨⟨w, hw, hbw⟩, -⟩ | ⟨-, hurl⟩
      · exact absurd hbw (hb w hw)
      · exact hurl
    subst hurl
    change (consume strict url v >>= fun url => consumeAll strict url []) = .ok url
    rw [consume_of_complete hu hv]
    rfl

/-- What has been completed is never written again.  If some arguments make a complete URL of a
pattern, then whatever follows them is put in after it: unless a value is refused, the URL that is
come to in the end, complete or not, begins with that one.  It is still that one exactly if nothing
that follows is an object with a field that can be placed.  Until there is such an object, a value
that is no object makes no difference, neither to the URL nor to whether anything is refused. -/
theorem completed_never_rewritten {pattern : Text} {xs : List Value}
    (hx : ofList strict pattern xs = .ok (.complete u)) (ys : List Value) :
    ((∃ key lost, strict = true ∧
        ofList strict pattern (xs ++ ys) = .error (.unplaceableValue key lost)) ∨
      ∃ b, ofList strict pattern (xs ++ ys) = .ok b ∧ u <+: b.reached ∧
        (b.reached = u ↔ ∀ v ∈ ys, ¬ BringsPair v)) ∧
    ∀ before v after, ys = before ++ v :: after → v.fields? = none →
      (∀ w ∈ before, ¬ BringsPair w) →
        ofList strict pattern (xs ++ (before ++ [v])) = ofList strict pattern (xs ++ before) ∧
        ∀ b, ofList strict pattern (xs ++ before) = .ok b → b = .complete u := by
  obtain ⟨url, hurl, hcomplete⟩ := ofList_eq_ok_iff.1 hx
  obtain ⟨rfl, hu⟩ := ofUrl_complete_iff.1 hcomplete
  -- what follows is used up from the complete URL
  have hon : ∀ ws, consumeAll strict pattern (xs ++ ws) = consumeAll strict u ws := by
    intro ws
    rw [consumeAll_append, hurl]
    rfl
  constructor
  · cases hr : ofList strict pattern (xs ++ ys) with
    | error fault =>
      obtain ⟨hstrict, key, lost, rfl⟩ := failsWithin_ofList strict pattern (xs ++ ys) fault hr
      exact Or.inl ⟨key, lost, hstrict, rfl⟩
    | ok b =>
      obtain ⟨url, hc, rfl⟩ := ofList_eq_ok_iff.1 hr
      rw [hon] at hc
      refine Or.inr ⟨ofUrl url, rfl, ?_⟩
      rw [reached_ofUrl]
      rcases consumeAll_of_complete_cases hu hc with ⟨⟨w, hw, hb⟩, hgo⟩ | ⟨hnone, rfl⟩
      · refine ⟨hgo.isPrefix, ?_⟩
        constructor
        · intro he
          exact absurd he hgo.ne
        · intro hnone
          exact absurd hb (hnone w hw)
      · exact ⟨List.prefix_refl url, fun _ => hnone, fun _ => rfl⟩
  · intro before v after _ hv hbefore
    constructor
    · unfold ofList
      rw [hon, hon, consumeAll_concat_of_complete hu hbefore hv]
    · intro b hb
      obtain ⟨url, hc, rfl⟩ := ofList_eq_ok_iff.1 hb
      rw [hon] at hc
      rcases consumeAll_of_complete_cases hu hc with ⟨⟨w, hw, hbw⟩, -⟩ | ⟨-, rfl⟩
      · exact absurd hbw (hbefore w hw)
      · exact hcomplete

/-- A set could not be placed, but comes when the URL is complete; the text that comes after the
object fills the placeholder that the object has brought, and the URL stays in front. -/
theorem completed_never_rewritten_query :
    let xs := [Value.int 1]
    let ys := [Value.collection .set [], .null, .object .dictionary [(.text "q", .text ":a")], .text "x"]
    ofList true "/:a/12:" xs = .ok (.complete "/1/12:") ∧
      (∃ b, ofList true "/:a/12:" (xs ++ ys) = .ok b ∧ "/1/12:".toList <+: b.reached) ∧
      ofList true "/:a/12:" (xs ++ ys) = .ok (.complete "/1/12:?q=x") ∧
      ofList true "/:a/12:" (xs ++ [.collection .set []]) = .ok (.complete "/1/12:") := by
  intro xs ys
  have hx : ofList true "/:a/12:" xs = .ok (.complete "/1/12:") := by decide
  have hr : ofList true "/:a/12:" (xs ++ ys) = .ok (.complete "/1/12:?q=x") := by decide +kernel
  obtain ⟨hgo, hstay⟩ := completed_never_rewritten hx ys
  refine ⟨hx, ?_, hr, ?_⟩
  · rcases hgo with ⟨key, lost, -, he⟩ | ⟨b, hb, hp, -⟩
    · exact nomatch hr.symm.trans he
    · exact ⟨b, hb, hp⟩
  · have hset := (hstay [] (.collection .set []) _ rfl rfl (by simp)).1
    rw [List.append_nil] at hset
    exact hset.trans hx

end Binding

end Routing
