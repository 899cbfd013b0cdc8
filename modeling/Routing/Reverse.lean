import Routing.Binding
import Routing.Table

/-!
# From an action to a URL

The endpoints of an action are tried in table order, and the first that the parameters complete
gives the URL.  If none does, the fault is that of the last one tried.
-/

namespace Routing.Reverse

/-- The URL of the first endpoint that the parameters complete; `last` is the fault if none does. -/
def search (strict : Bool) (params : List Value) : (last : Fault) → List Endpoint →
    Except Fault Text
  | last, [] => .error last
  | _, endpoint :: rest =>
    match Binding.ofList strict endpoint.pattern params with
    | .error fault => .error fault
    | .ok (.complete url) => .ok url
    | .ok (.short placeholder url) =>
      search strict params (.unfilledPlaceholder placeholder url) rest

/-- The URL of an action. -/
def url (strict : Bool) (entries : List Entry) (action : Text) (params : List Value) :
    Except Fault Text :=
  search strict params (.unknownAction action) (Table.endpointsOf action entries)

/-- Only the endpoints of the action matter. -/
theorem url_congr {strict : Bool} {entries entries' : List Entry} {action : Text}
    (h : Table.endpointsOf action entries = Table.endpointsOf action entries')
    (params : List Value) :
    url strict entries action params = url strict entries' action params := by
  simp [url, h]

end Routing.Reverse
