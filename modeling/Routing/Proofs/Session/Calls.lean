import Routing.Application.Deployment
import Routing.Proofs.Step.Ends

/-!
# Sessions

What can be asked of a router one after the other, each time of the application as the calls before
have left it, whether they went well or not.  Between calls the files may change.
-/

namespace Routing

/-- Something that is asked of a router, or done to the application around it. -/
inductive Call where
  | entries
  | actions
  | endpointsOf (action : Text)
  | urlOf (action : Text) (params : List Value)
  | fillPattern (pattern : Text) (args : Value)
  | deploy (host : Text)
  | callHandler (host : Text) (index : Int) (args : Arguments)
  | rewrite (files : FileTree)
  | attach (plugin : Value) (given : Settings) (sink : Option Sink)
  | configure (plugin : Text) (given : Settings)
  | setEnabled (action plugin : Text) (on : Bool)

/-- What a call is answered with. -/
inductive Answer where
  | done
  | entries (es : List Entry)
  | actions (names : List Text)
  | endpoints (es : List Endpoint)
  | url (url : Text)
  | routes (routes : List Route)
  | value (v : Option Value)

namespace Call

/-- What a call does. -/
def perform : Call → Step Application Answer
  | .entries => return .entries (← Application.entries)
  | .actions => return .actions (← Application.actions)
  | .endpointsOf action => return .endpoints (← Application.endpointsOf action)
  | .urlOf action params => return .url (← Application.urlOf action params)
  | .fillPattern pattern args => return .url (← Application.fillPattern pattern args)
  | .deploy host => return .routes (← Application.deploy host)
  | .callHandler host index args => return .value (← Application.callHandler host index args)
  | .rewrite files => do
    Step.modify fun app => { app with files }
    return .done
  | .attach plugin given sink => do
    Application.attach plugin given sink
    return .done
  | .configure plugin given => do
    Application.configure plugin given
    return .done
  | .setEnabled action plugin on => do
    Application.setEnabled action plugin on
    return .done

/-- Whether a call is about plugins and not about routing. -/
def isAboutPlugins : Call → Bool
  | .attach .. => true
  | .configure .. => true
  | .setEnabled .. => true
  | _ => false

end Call

/-- The application after some calls. -/
def Application.after (calls : List Call) (app : Application) : Application :=
  Step.after (calls.map Call.perform) app

@[simp] theorem Application.after_nil (app : Application) : after [] app = app := rfl

@[simp] theorem Application.after_cons (c : Call) (calls : List Call) (app : Application) :
    after (c :: calls) app = after calls (c.perform.run app).state := rfl

end Routing
