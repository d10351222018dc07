import ODataSession.Client.Action

/-!
# Scenarios

Named clients that act in turn on one backend. They share one store, except for those that were
built with a store of their own. A client that could not be built, or that was to be logged in and
could not be, is not there.
-/

namespace ODataSession

/-- A client of a scenario. -/
structure Participant (σ : Type) where
  client : Client
  /-- Its own store, if it does not use the shared one. -/
  own : Option σ

/-- Named clients on one backend. -/
structure Scenario (β σ : Type) where
  backend : β
  shared : σ
  participants : List (String × Participant σ)

/-- What came of a step: its result, what happened, and whether it was the shared store that was
used. -/
structure StepReport (α : Type) where
  result : Except ClientError α
  trace : List Event
  onShared : Bool

namespace Scenario

section
variable {β σ : Type}

/-- The client of a name. -/
def participant? (s : Scenario β σ) (name : String) : Option (Participant σ) :=
  s.participants.lookup name

/-- Takes a client out. -/
def dismiss (s : Scenario β σ) (name : String) : Scenario β σ :=
  { s with participants := s.participants.filter (·.1 ≠ name) }

/-- Puts a client in the place of the one of the same name. -/
def enrol (s : Scenario β σ) (name : String) (p : Participant σ) : Scenario β σ :=
  { s with participants := (name, p) :: (s.dismiss name).participants }

/-- The site of a client. -/
def site (s : Scenario β σ) (p : Participant σ) : Site β σ :=
  ⟨p.client, s.backend, p.own.getD s.shared, []⟩

/-- The scenario after a client has left its site. -/
def leave (s : Scenario β σ) (name : String) (p : Participant σ) (after : Site β σ) :
    Scenario β σ :=
  let p' : Participant σ := ⟨after.client, p.own.map fun _ => after.store⟩
  let shared := if p.own.isNone then after.store else s.shared
  { s.enrol name p' with backend := after.backend, shared }

variable [Http.Backend β] [SessionStore σ]

/-- Lets a client act. -/
def act (s : Scenario β σ) (name : String) (p : Participant σ) (a : Action) :
    StepReport Outcome × Scenario β σ :=
  let (result, after) := (s.site p).perform a
  (⟨result, after.trace, p.own.isNone⟩, s.leave name p after)

/-- Builds a client, with a store of its own if it is given one, and logs it in if it is to
`connect`. -/
def build (s : Scenario β σ) (name : String) (setup : ClientSetup) (own : Option σ)
    (fresh : Generator) (connect : Bool) : StepReport Client × Scenario β σ :=
  match setup.build fresh with
  | .error e => (⟨.error e, [], own.isNone⟩, s.dismiss name)
  | .ok (client, notices) =>
    let p : Participant σ := ⟨client, own⟩
    let built := notices.map Event.noted
    if connect then
      let (report, after) := s.act name p .login
      match report.result with
      | .ok _ =>
        let client := ((after.participant? name).map (·.client)).getD client
        (⟨.ok client, built ++ report.trace, own.isNone⟩, after)
      | .error e => (⟨.error e, built ++ report.trace, own.isNone⟩, after.dismiss name)
    else (⟨.ok client, built, own.isNone⟩, s.enrol name p)

end

end Scenario

end ODataSession
