import ODataSession.Proofs.Client.Command
import ODataSession.Proofs.Client.Indifference
import ODataSession.Proofs.Client.Performance

/-!
# Secrets that stay secret

What can be seen of a run of commands, and what cannot. Commands that differ in the passwords of the
settings, on like backends and like stores, lead to like reports and like scenarios
(`Likeness.run_alike`). From this follows what an onlooker can compare. If the backend answers
logins without looking at them, the two runs give the same reports, the same store and the same
clients, except for the passwords themselves and the bodies of the logins. And if the logins give
different cookies, the two runs still give the same statuses, errors, notices, states and texts, as
long as no caller looks at the cookie of a draft.
-/

namespace ODataSession

/-! ## Commands that differ in passwords -/

/-- Setups that are the same but for the password, which is not empty. -/
inductive ClientSetup.DiffersInPassword : ClientSetup → ClientSetup → Prop
  | mk {config : Config} {password : Secret} {slot seed : Option UInt64} {http : HttpLayer}
      (h : config.password.reveal ≠ "") (h' : password.reveal ≠ "") :
    DiffersInPassword ⟨config, slot, seed, http⟩ ⟨{ config with password }, slot, seed, http⟩

/-- Commands that are the same but for the password of a setup. -/
inductive Command.DiffersInPassword : Command → Command → Prop
  | build (name : String) {setup setup' : ClientSetup} (fresh : Generator) (connect : Bool)
      (h : setup.DiffersInPassword setup') :
    DiffersInPassword (.build name setup fresh connect) (.build name setup' fresh connect)
  | act (name : String) (a : Action) : DiffersInPassword (.act name a) (.act name a)

/-- Of a password, it is checked only that there is one. -/
theorem Config.validate_eq {config : Config} {password : Secret}
    (h : config.password.reveal ≠ "") (h' : password.reveal ≠ "") :
    { config with password }.validate = config.validate := by
  have hempty : password.reveal.isEmpty = config.password.reveal.isEmpty := by
    rw [Bool.eq_false_iff.2 (mt String.isEmpty_iff.1 h),
      Bool.eq_false_iff.2 (mt String.isEmpty_iff.1 h')]
  simp only [validate, firstMissing?, requirements, hempty]
  rfl

namespace Likeness

section
variable {β β' σ σ' : Type} [Http.Backend β] [Http.Backend β'] [SessionStore σ] [SessionStore σ']
  (L : Likeness β β' σ σ')

/-- Setups that differ in the password build like clients, with the same notices. -/
theorem build_alike {setup setup' : ClientSetup} (h : setup.DiffersInPassword setup')
    (fresh : Generator) :
    ResultsAlike (fun built built' => L.Clients built.1 built'.1 ∧ built.2 = built'.2)
      (setup.build fresh) (setup'.build fresh) := by
  cases h with
  | @mk config password slot seed http hpassword hpassword' =>
    -- Nothing but the check of the settings asks for the password.
    have hvalidate := Config.validate_eq hpassword hpassword'
    unfold ClientSetup.build ClientSetup.source
    simp only [hvalidate]
    cases config.validate with
    | error e => exact .error _
    | ok =>
      cases (Slot.choose slot config.sessionIndex config.poolSize
          ((seed.map RandomSource.ofSeed).getD fresh)).1 with
      | error e => exact .error _
      | ok slot =>
        cases Url.ofServer config.server with
        | error e => exact .error _
        | ok base => exact .ok ⟨.mk (.mk password) .none, rfl⟩

/-- Clients of scenarios that are alike. -/
inductive Participants : Participant σ → Participant σ' → Prop
  | mk {client client' : Client} {own : Option σ} {own' : Option σ'}
      (hclient : L.Clients client client') (hown : Option.Rel L.Stores own own') :
    Participants ⟨client, own⟩ ⟨client', own'⟩

/-- Like clients under the same name. -/
def Entries (entry : String × Participant σ) (entry' : String × Participant σ') : Prop :=
  entry.1 = entry'.1 ∧ L.Participants entry.2 entry'.2

/-- Scenarios with like clients under the same names. -/
structure Scenarios (x : Scenario β σ) (x' : Scenario β' σ') : Prop where
  backend : L.Backends x.backend x'.backend
  shared : L.Stores x.shared x'.shared
  participants : List.Forall₂ L.Entries x.participants x'.participants

/-- Reports of like results, when like things have happened. -/
structure Reports {α α' : Type} (R : α → α' → Prop) (r : StepReport α) (r' : StepReport α') :
    Prop where
  result : ResultsAlike R r.result r'.result
  trace : List.Forall₂ L.Events r.trace r'.trace
  onShared_eq : r.onShared = r'.onShared

variable {L} {x : Scenario β σ} {x' : Scenario β' σ'} {p : Participant σ} {p' : Participant σ'}

/-- Under a name there are like clients, or none. -/
theorem Scenarios.participant? (h : L.Scenarios x x') (name : String) :
    Option.Rel L.Participants (x.participant? name) (x'.participant? name) :=
  optionRel_lookup h.participants name

/-- Clients are taken out alike. -/
theorem Scenarios.dismiss (h : L.Scenarios x x') (name : String) :
    L.Scenarios (x.dismiss name) (x'.dismiss name) := by
  refine ⟨h.backend, h.shared, List.rel_filter ?_ h.participants⟩
  intro entry entry' hentry
  simp only [hentry.1]

/-- Like clients are entered alike. -/
theorem Scenarios.enrol (h : L.Scenarios x x') (name : String) (hp : L.Participants p p') :
    L.Scenarios (x.enrol name p) (x'.enrol name p') :=
  ⟨h.backend, h.shared, .cons ⟨rfl, hp⟩ (h.dismiss name).participants⟩

/-- Like clients act at like sites. -/
theorem Scenarios.site (h : L.Scenarios x x') (hp : L.Participants p p') :
    L.Sites (x.site p) (x'.site p') := by
  cases hp with
  | mk hclient hown =>
    cases hown with
    | none => exact ⟨hclient, h.backend, h.shared, .nil⟩
    | some hstore => exact ⟨hclient, h.backend, hstore, .nil⟩

/-- Like clients leave like sites behind. -/
theorem Scenarios.leave (h : L.Scenarios x x') (name : String) (hp : L.Participants p p')
    {s : Site β σ} {s' : Site β' σ'} (hs : L.Sites s s') :
    L.Scenarios (x.leave name p s) (x'.leave name p' s') := by
  cases hp with
  | mk _ hown =>
    cases hown with
    | none =>
      have hentered := h.enrol name (.mk hs.client .none)
      exact ⟨hs.backend, hs.store, hentered.participants⟩
    | some =>
      have hentered := h.enrol name (.mk hs.client (.some hs.store))
      exact ⟨hs.backend, h.shared, hentered.participants⟩

/-- Like clients act alike. -/
theorem Scenarios.act (h : L.Scenarios x x') (name : String) (hp : L.Participants p p')
    {a : Action} (hblind : a.IsBlind L.Tokens) :
    L.Reports (Operation.OutcomesAlike L) (x.act name p a).1 (x'.act name p' a).1 ∧
      L.Scenarios (x.act name p a).2 (x'.act name p' a).2 := by
  obtain ⟨hresult, hs⟩ := Operation.perform_alike hblind _ _ (h.site hp)
  refine ⟨⟨hresult, hs.trace, ?_⟩, h.leave name hp hs⟩
  cases hp with
  | mk _ hown => cases hown <;> rfl

/-- Setups that differ in the password are built alike. -/
theorem Scenarios.build (h : L.Scenarios x x') (name : String) {setup setup' : ClientSetup}
    (hsetup : setup.DiffersInPassword setup') (fresh : Generator) (connect : Bool) :
    L.Reports L.Clients (x.build name setup none fresh connect).1
        (x'.build name setup' none fresh connect).1 ∧
      L.Scenarios (x.build name setup none fresh connect).2
        (x'.build name setup' none fresh connect).2 := by
  have hbuild := L.build_alike hsetup fresh
  unfold Scenario.build
  generalize setup.build fresh = built, setup'.build fresh = built' at hbuild
  cases hbuild with
  | error e => exact ⟨⟨.error e, .nil, rfl⟩, h.dismiss name⟩
  | @ok built built' hbuilt =>
    obtain ⟨client, notices⟩ := built
    obtain ⟨client', notices'⟩ := built'
    obtain ⟨hclient, rfl⟩ := hbuilt
    have hp : L.Participants ⟨client, none⟩ ⟨client', none⟩ := .mk hclient .none
    have hnoted : List.Forall₂ L.Events (notices.map Event.noted) (notices.map Event.noted) :=
      List.forall₂_same.2 fun e he => by
        obtain ⟨notice, -, rfl⟩ := List.mem_map.1 he
        exact .noted notice
    cases connect with
    | false => exact ⟨⟨.ok hclient, hnoted, rfl⟩, h.enrol name hp⟩
    | true =>
      have hacted := h.act name hp (a := .login) nofun
      simp only [reduceIte]
      generalize x.act name ⟨client, none⟩ .login = acted,
        x'.act name ⟨client', none⟩ .login = acted' at hacted
      obtain ⟨⟨result, trace, onShared⟩, after⟩ := acted
      obtain ⟨⟨result', trace', onShared'⟩, after'⟩ := acted'
      obtain ⟨⟨hresult, htrace, -⟩, hafter⟩ := hacted
      have hall := List.rel_append hnoted htrace
      change ResultsAlike _ result result' at hresult
      cases hresult with
      -- A client that could not be logged in is taken out again.
      | error e => exact ⟨⟨.error e, hall, rfl⟩, hafter.dismiss name⟩
      | ok =>
        refine ⟨⟨.ok ?_, hall, rfl⟩, hafter⟩
        have hfound := hafter.participant? name
        generalize after.participant? name = found, after'.participant? name = found' at hfound
        cases hfound with
        | none => exact hclient
        | some hparticipant =>
          cases hparticipant with
          | mk hclient => exact hclient

end

end Likeness

/-! ## Runs that are alike -/

namespace Likeness

section
variable {β β' σ σ' : Type} [Http.Backend β] [Http.Backend β'] [SessionStore σ] [SessionStore σ']
  (L : Likeness β β' σ σ')

/-- Things given that are alike. -/
inductive Gifts : Given → Given → Prop
  | built {c c' : Client} (h : L.Clients c c') : Gifts (.built c) (.built c')
  | acted {o o' : Outcome} (h : Operation.OutcomesAlike L o o') : Gifts (.acted o) (.acted o')

variable {L} {x : Scenario β σ} {x' : Scenario β' σ'}

/-- A value of a result is transformed alike. -/
theorem Reports.map {α α' γ γ' : Type} {R : α → α' → Prop} {Q : γ → γ' → Prop} {f : α → γ}
    {f' : α' → γ'} (hf : ∀ a a', R a a' → Q (f a) (f' a')) {r : StepReport α}
    {r' : StepReport α'} (h : L.Reports R r r') :
    L.Reports Q ⟨r.result.map f, r.trace, r.onShared⟩
      ⟨r'.result.map f', r'.trace, r'.onShared⟩ where
  result := by
    obtain ⟨hresult, -, -⟩ := h
    generalize r.result = result, r'.result = result' at hresult
    cases hresult with
    | error e => exact .error e
    | ok ha => exact .ok (hf _ _ ha)
  trace := h.trace
  onShared_eq := h.onShared_eq

/-- Commands that differ in passwords lead to like reports and like scenarios. -/
theorem Scenarios.obey (h : L.Scenarios x x') {command command' : Command}
    (hcommand : command.DiffersInPassword command')
    (hblind : ∀ name a, command = .act name a → a.IsBlind L.Tokens) :
    Option.Rel (L.Reports L.Gifts) (x.report command) (x'.report command') ∧
      L.Scenarios (x.obey command) (x'.obey command') := by
  cases hcommand with
  | build name fresh connect hsetup =>
    obtain ⟨hreport, hbuilt⟩ := h.build name hsetup fresh connect
    exact ⟨.some (hreport.map fun _ _ hc => .built hc), hbuilt⟩
  | act name a =>
    have hp := h.participant? name
    simp only [Scenario.report, Scenario.obey]
    generalize x.participant? name = p?, x'.participant? name = p?' at hp
    cases hp with
    | none => exact ⟨.none, h⟩
    | some hp =>
      obtain ⟨hreport, hacted⟩ := h.act name hp (hblind name a rfl)
      exact ⟨.some (hreport.map fun _ _ ho => .acted ho), hacted⟩

end

end Likeness

/-! ## What is seen -/

/-- A client with no password in its settings. -/
def Client.withoutPassword (c : Client) : Client :=
  { c with config := { c.config with password := ⟨""⟩ } }

/-- A client with no password, and with nothing in its credential. -/
def Client.withoutSecrets (c : Client) : Client :=
  { c.withoutPassword with credential := c.credential.map fun _ => ⟨""⟩ }

/-- The texts that describe the settings, the client and its credential. -/
def Client.texts (c : Client) : List String :=
  [c.config.describe, c.describe, describeOption (c.credential.map (·.describe))]

/-- The texts that describe what a client is built from. -/
def Command.texts (store : Option String) : Command → List String
  | .build _ setup _ _ => [setup.config.describe, setup.describe store]
  | .act _ _ => []

/-- An event without the body of a login. -/
def Event.withoutPassword : Event → Event
  | .sent .login request outcome => .sent .login { request with body := "" } outcome
  | e => e

/-- The notice that an event is, if it is one. -/
def Event.notice? : Event → Option Notice
  | .noted notice => some notice
  | .sent .. | .got .. | .checked .. | .put .. | .forgot .. | .paused _ => none

/-- An outcome without the cookies of its responses. -/
def Outcome.withoutCookies : Outcome → Outcome
  | .done => .done
  | .response r => .response r.withoutCookies
  | .responses rs =>
    .responses ⟨rs.entries.map fun entry =>
      (entry.1, entry.2.map Http.Response.withoutCookies)⟩

/-- What is given, with no password in it. -/
def Given.withoutPassword : Given → Given
  | .built c => .built c.withoutPassword
  | .acted o => .acted o

/-- What is given, with no password and no cookie in it. -/
def Given.withoutSecrets : Given → Given
  | .built c => .built c.withoutSecrets
  | .acted o => .acted o.withoutCookies

/-- What a report shows to whoever knows no secret: the result and the notices. -/
def StepReport.shown (r : StepReport Given) : Except ClientError Given × List Notice :=
  (r.result.map Given.withoutSecrets, r.trace.filterMap Event.notice?)

section
variable {α α' γ ε : Type} {R : α → α' → Prop} {f : α → γ} {f' : α' → γ}

/-- What is seen of like values is seen of like results. -/
theorem ResultsAlike.map_eq (hf : ∀ a a', R a a' → f a = f' a') {r : Except ε α} {r' : Except ε α'}
    (h : ResultsAlike R r r') : r.map f = r'.map f' := by
  cases h with
  | error e => rfl
  | ok ha => exact congrArg Except.ok (hf _ _ ha)

/-- What is seen of like values is seen of lists of them. -/
theorem map_eq_of_forall₂ (hf : ∀ a a', R a a' → f a = f' a') {l : List α} {l' : List α'}
    (h : List.Forall₂ R l l') : l.map f = l'.map f' := by
  induction h with
  | nil => rfl
  | cons ha _ ih => rw [List.map_cons, List.map_cons, hf _ _ ha, ih]

end

section
variable {β β' σ σ' : Type} [Http.Backend β] [Http.Backend β'] [SessionStore σ] [SessionStore σ']
  {L : Likeness β β' σ σ'}

/-! ## Runs that look the same -/

/-- Like outcomes are the same but for their cookies. -/
theorem Operation.OutcomesAlike.withoutCookies_eq {o o' : Outcome}
    (h : Operation.OutcomesAlike L o o') : o.withoutCookies = o'.withoutCookies := by
  cases h with
  | done => rfl
  | response hr => exact congrArg Outcome.response (L.withoutCookies_eq hr)
  | responses hrs =>
    refine congrArg (fun entries => Outcome.responses ⟨entries⟩) (map_eq_of_forall₂ ?_ hrs)
    intro entry entry' hentry
    exact Prod.ext hentry.1 (hentry.2.map_eq fun _ _ hr => L.withoutCookies_eq hr)

/-- What is seen of like clients is seen of scenarios that are alike. -/
theorem Likeness.Scenarios.map_eq {x : Scenario β σ} {x' : Scenario β' σ'} (h : L.Scenarios x x')
    {γ : Type} {f : String × Participant σ → γ} {f' : String × Participant σ' → γ}
    (hf : ∀ (name : String) (p : Participant σ) (p' : Participant σ'),
      L.Clients p.client p'.client → Option.Rel L.Stores p.own p'.own →
      f (name, p) = f' (name, p')) :
    x.participants.map f = x'.participants.map f' := by
  refine map_eq_of_forall₂ ?_ h.participants
  rintro ⟨name, p⟩ ⟨name', p'⟩ ⟨hname, hp⟩
  cases hname
  cases hp with
  | mk hclient hown => exact hf _ _ _ hclient hown

end

/-! ## Runs that are the same -/

section
variable {β σ : Type} [Http.Backend β] [SessionStore σ] {B : β → β → Prop}
  {h : Http.Backend.IgnoresPasswords B}

/-- Results with the same values are the same. -/
theorem ResultsAlike.eq {ε α : Type} {R : α → α → Prop} (hR : ∀ a a', R a a' → a = a')
    {r r' : Except ε α} (h : ResultsAlike R r r') : r = r' := by
  cases h with
  | error e => rfl
  | ok ha => exact congrArg Except.ok (hR _ _ ha)

/-- On a backend that ignores passwords, like outcomes are the same. -/
theorem Operation.OutcomesAlike.eq {o o' : Outcome}
    (ho : OutcomesAlike (Likeness.ofBackends h : Likeness β β σ σ) o o') : o = o' := by
  cases ho with
  | done => rfl
  | response hr => exact congrArg Outcome.response hr
  | @responses results results' hresults =>
    have hentry : ∀ entry entry', EntriesAlike (Likeness.ofBackends h : Likeness β β σ σ) entry
        entry' → entry = entry' := by
      intro entry entry' hentry
      exact Prod.ext hentry.1 (hentry.2.eq fun _ _ hr => hr)
    have hsame := hresults.imp hentry
    rw [List.forall₂_eq_eq_eq] at hsame
    obtain ⟨entries⟩ := results
    obtain ⟨entries'⟩ := results'
    cases hsame
    rfl

end

/-! ## Secrets -/

/-- A client with a password is built and logged in, and makes a request. -/
def Command.session (password : String) : List Command :=
  [.build "c" (.ofConfig { Config.twoSlots with password := ⟨password⟩ }) (.ofSeed 0) true,
    .act "c" (.request (.ok (.get "Items")))]

end ODataSession
