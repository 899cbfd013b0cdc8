import Routing.Fault

/-!
# Verbs

The four verbs a route may have.  A verb is written in any mixture of cases; only ASCII letters have
a case here, since no other character has one of the letters of a verb as its lower case.
-/

namespace Routing

inductive Verb where
  | delete
  | get
  | post
  | put
  deriving DecidableEq

namespace Verb

def all : List Verb := [.delete, .get, .post, .put]

/-- The verb in lower case. -/
def name : Verb → Text
  | .delete => "delete"
  | .get => "get"
  | .post => "post"
  | .put => "put"

/-- The verb that a word spells in any case. -/
def ofWord? (word : Text) : Option Verb :=
  all.find? fun verb => verb.name == word.map Char.toLower

/-- The verb of a route; a word that is none is reported with the route's path. -/
def ofRoute (word path : Text) : Except Fault Verb :=
  match ofWord? word with
  | some verb => .ok verb
  | none => .error (.unknownVerb word path)

theorem ofWord?_name (verb : Verb) : ofWord? verb.name = some verb := by cases verb <;> decide

end Verb

end Routing
