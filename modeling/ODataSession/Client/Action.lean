import ODataSession.Client.Pool

/-!
# Actions

Every operation of a client as a value, so that sequences of operations can be spoken of.
-/

namespace ODataSession

/-- An operation of a client. -/
inductive Action
  | login
  | logout
  | withHeaders (pairs : List (String × String))
  | request (r : Except EncodeError PendingRequest)
  | sendWith (method : Http.Method) (endpoint : String) (adjustments : List Adjustment)
  | pool (declarations : List Declaration)

/-- What an operation gives. -/
inductive Outcome
  | done
  | response (r : Http.Response)
  | responses (rs : PoolResults (Except ClientError Http.Response))

/-- Carries an action out. -/
def Action.perform {β σ : Type} [Http.Backend β] [SessionStore σ] :
    Action → Operation β σ Outcome
  | .login => do
    Operation.login
    return .done
  | .logout => do
    Operation.logout
    return .done
  | .withHeaders pairs => do
    Operation.withHeaders pairs
    return .done
  | .request r => .response <$> Operation.request r
  | .sendWith method endpoint adjustments =>
    .response <$> Operation.sendWith method endpoint adjustments
  | .pool declarations => .responses <$> Operation.pool (.ofDeclarations declarations)

/-- Carries an action out at a site. -/
def Site.perform {β σ : Type} [Http.Backend β] [SessionStore σ] (s : Site β σ) (a : Action) :
    Except ClientError Outcome × Site β σ :=
  a.perform.run s

end ODataSession
