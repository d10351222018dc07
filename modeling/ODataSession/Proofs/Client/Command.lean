import ODataSession.Client.Scenario

/-!
# Commands

What a client is when it is built (`ClientSetup.builds`), and runs of a scenario whose clients share
one store: in every step a client is built, in place of the one of its name if there is one, or a
client that is there acts. A property of scenarios holds at the end of every run if it holds at the
start, and entering a client that was just built, taking a client out and letting a client act
preserve it (`Scenario.run_induction`); building a client that is to log in is entering it and
letting it act. Of a run there are the reports of its steps (`Scenario.reports`).
-/

namespace ODataSession

/-! ## Clients that are built -/

/-- A client as it is built: bound to the server of its settings and to the key of its identity, and
without a session. -/
structure ClientSetup.Builds (setup : ClientSetup) (client : Client) : Prop where
  config_eq : client.config = setup.config
  standing_eq : client.standing = setup.http.standing
  base_eq : Url.ofServer setup.config.server = .ok client.base
  key_eq : client.key = .derive setup.config.server setup.config.database setup.config.username
    client.slot
  credential_eq : client.credential = none
  queued_eq : client.queued = []
  state_eq : client.state = .unauthenticated

/-- What a setup builds is a client as it is built. -/
theorem ClientSetup.builds {γ : Type} [RandomSource γ] {setup : ClientSetup} {fresh : γ}
    {client : Client} {notices : List Notice} (h : setup.build fresh = .ok (client, notices)) :
    setup.Builds client := by
  simp only [build, bind, Except.bind] at h
  split at h
  · cases h
  · split at h
    · cases h
    · cases hbase : Url.ofServer setup.config.server with
      | error e =>
        rw [hbase] at h
        cases h
      | ok base =>
        rw [hbase] at h
        cases h
        exact ⟨rfl, rfl, hbase, rfl, rfl, rfl, rfl⟩

/-! ## Runs of scenarios -/

/-- A step of a scenario whose clients share one store. -/
inductive Command
  | build (name : String) (setup : ClientSetup) (fresh : Generator) (connect : Bool)
  | act (name : String) (a : Action)

/-- What a command gives: a client that is built, or what an action gives. -/
inductive Given
  | built (client : Client)
  | acted (outcome : Outcome)

namespace Scenario

section
variable {β σ : Type}

/-- A client that is entered is there. -/
theorem participant?_enrol (x : Scenario β σ) (name : String) (p : Participant σ) :
    (x.enrol name p).participant? name = some p :=
  List.lookup_cons_self

/-- A client that is entered in the place of another one is the only one of its name. -/
theorem enrol_enrol (x : Scenario β σ) (name : String) (p p' : Participant σ) :
    (x.enrol name p).enrol name p' = x.enrol name p' := by
  simp [enrol, dismiss]

end

section
variable {β σ : Type} [Http.Backend β] [SessionStore σ]

/-- Carries a command out; an absent client does not act. -/
def obey (x : Scenario β σ) : Command → Scenario β σ
  | .build name setup fresh connect => (x.build name setup none fresh connect).2
  | .act name a =>
    match x.participant? name with
    | some p => (x.act name p a).2
    | none => x

/-- Carries commands out, one after the other. -/
def run (x : Scenario β σ) (commands : List Command) : Scenario β σ :=
  commands.foldl obey x

/-- The report of a command; a client that is not there reports nothing. -/
def report (x : Scenario β σ) : Command → Option (StepReport Given)
  | .build name setup fresh connect =>
    let (report, _) := x.build name setup none fresh connect
    some ⟨report.result.map .built, report.trace, report.onShared⟩
  | .act name a =>
    (x.participant? name).map fun p =>
      let (report, _) := x.act name p a
      ⟨report.result.map .acted, report.trace, report.onShared⟩

/-- The reports of commands that are carried out one after the other. -/
def reports (x : Scenario β σ) : List Command → List (Option (StepReport Given))
  | [] => []
  | command :: commands => x.report command :: (x.obey command).reports commands

/-- A client that acts without being there acts as if it had been entered before. -/
theorem act_enrol (x : Scenario β σ) (name : String) (p : Participant σ) (a : Action) :
    (x.enrol name p).act name p a = x.act name p a := by
  simp only [act, leave, enrol_enrol]
  rfl

/-- What holds at the start and is preserved by every step holds at the end. -/
theorem run_induction {P : Scenario β σ → Prop}
    (hact : ∀ x name p a, x.participant? name = some p → P x → P (x.act name p a).2)
    (hdismiss : ∀ x name, P x → P (x.dismiss name))
    (henrol : ∀ x name setup (fresh : Generator) client notices,
      ClientSetup.build setup fresh = .ok (client, notices) → P x →
        P (x.enrol name ⟨client, none⟩))
    (commands : List Command) {x : Scenario β σ} (h : P x) : P (x.run commands) := by
  have hobey : ∀ x command, P x → P (x.obey command) := by
    intro x command h
    cases command with
    | act name a =>
      cases hp : x.participant? name with
      | none =>
        simp only [obey, hp]
        exact h
      | some p =>
        simp only [obey, hp]
        exact hact x name p a hp h
    | build name setup fresh connect =>
      cases hbuild : setup.build fresh with
      | error e =>
        simp only [obey, build, hbuild]
        exact hdismiss x name h
      | ok built =>
        obtain ⟨client, notices⟩ := built
        have hentered := henrol x name setup fresh client notices hbuild h
        simp only [obey, build, hbuild]
        cases connect with
        | false => exact hentered
        | true =>
          have hacted := hact _ name ⟨client, none⟩ .login (x.participant?_enrol name _) hentered
          rw [act_enrol] at hacted
          simp only [reduceIte]
          split
          · exact hacted
          · exact hdismiss _ name hacted
  induction commands generalizing x with
  | nil => exact h
  | cons command commands ih => exact ih (hobey x command h)

end

end Scenario

end ODataSession
