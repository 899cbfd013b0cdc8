import Routing.Binding
import Routing.Proofs.Step.Within

/-!
# What binding refuses

Binding a list of arguments fails for one reason only: it is strict, and some value cannot be placed
in the URL (`failsWithin_ofList`).
-/

namespace Routing.Binding

/-- A fault that says that a value cannot be placed, which only strict binding says. -/
def IsRefusal (strict : Bool) (fault : Fault) : Prop :=
  strict = true ∧ ∃ key v, fault = .unplaceableValue key v

variable (strict : Bool)

theorem failsWithin_admits (key v : Value) :
    FailsWithin (IsRefusal strict) (admits strict key v) := by
  unfold admits
  split
  · exact .ok true
  · split
    · rename_i hs
      exact .error ⟨hs, key, v, rfl⟩
    · exact .ok false

theorem failsWithin_fillByPlace (url : Text) (v : Value) :
    FailsWithin (IsRefusal strict) (fillByPlace strict url v) := by
  unfold fillByPlace
  split
  · exact .ok url
  · refine (failsWithin_admits strict _ v).bind fun admitted => ?_
    split <;> exact .ok _

theorem failsWithin_fillNames (names : List Text) (url : Text) (fields : Fields) :
    FailsWithin (IsRefusal strict) (fillNames strict names url fields) := by
  induction names generalizing url fields with
  | nil => exact .ok (url, fields)
  | cons name names ih =>
    unfold fillNames
    split
    · exact ih url fields
    · refine (failsWithin_admits strict _ _).bind fun admitted => ?_
      split
      · exact ih _ _
      · exact ih _ _

theorem failsWithin_addQuery (url : Text) (fields : Fields) :
    FailsWithin (IsRefusal strict) (addQuery strict url fields) := by
  induction fields generalizing url with
  | nil => exact .ok url
  | cons p fields ih =>
    refine (failsWithin_admits strict p.1 p.2).bind fun admitted => ?_
    split
    · exact ih _
    · exact ih _

theorem failsWithin_consume (url : Text) (v : Value) :
    FailsWithin (IsRefusal strict) (consume strict url v) := by
  unfold consume
  split
  · exact .ok url
  · split
    · exact (failsWithin_fillNames strict _ url _).bind fun p => failsWithin_addQuery strict p.1 p.2
    · exact failsWithin_fillByPlace strict url _

theorem failsWithin_consumeAll (url : Text) (args : List Value) :
    FailsWithin (IsRefusal strict) (consumeAll strict url args) := by
  induction args generalizing url with
  | nil => exact .ok url
  | cons v args ih => exact (failsWithin_consume strict url v).bind fun url => ih url

/-- Binding a list fails only if it is strict and a value cannot be placed. -/
theorem failsWithin_ofList (pattern : Text) (args : List Value) :
    FailsWithin (IsRefusal strict) (ofList strict pattern args) :=
  (failsWithin_consumeAll strict pattern args).bind fun url => .ok (ofUrl url)

end Routing.Binding
