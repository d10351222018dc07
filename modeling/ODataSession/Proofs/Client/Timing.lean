import ODataSession.Proofs.Client.Determined
import ODataSession.Proofs.Client.Tokens
import ODataSession.Proofs.Session.Lasting

/-!
# Clients while time passes

Much of what is proved of clients is about a store in memory for which time stands still. It is true
of a store that reads a clock as well, as long as no session expires in it: whatever the commands
are, the clients then do the same and report the same (`Scenario.reports_eq_of_suitsThroughout`).
Sessions that are kept for no time at all are no exception, and neither are those that are to be
kept for longer than the store keeps any.

The relation between the two stores goes along with every event that could happen where time stands
still, and the event could happen where it passes. So an action has the same result at both sites
(`Site.perform_eq_of_happens`), and the relation passes from sites to scenarios and to their runs.
-/

namespace ODataSession

/-! ## Lifetimes -/

section
variable {c c' : Client} {events : List Event}

/-- A session that is opened is deposited for the time that is set. -/
theorem Opening.lifetime_eq {result : Except ClientError Unit} (h : Opening c events result c') :
    ∀ d ∈ deposits events, d.lifetime = c.config.cacheTtl.toNat := by
  cases h with
  | noEndpoint => exact fun _ h => nomatch h
  | unreached _ h | rejected _ h | cookieless _ h => simp [h.deposits_eq]
  | unstored _ h | opened _ h =>
    intro d hd
    simp [h.deposits_eq, Client.stores] at hd
    exact hd ▸ rfl

/-- Whatever a client deposits is for the time that is set. -/
theorem Client.composes_lifetimes (c : Client) :
    c.Composes fun events => ∀ d ∈ deposits events, d.lifetime = c.config.cacheTtl.toNat :=
  c.composes_deposits (fun _ d => d.lifetime = c.config.cacheTtl.toNat) (fun _ _ _ _ hd => hd)
    fun hremains hopen d hd => hremains.config ▸ hopen.lifetime_eq d hd

end

/-! ## Stores in step -/

/-- A store for which time passes goes along with one for which it stands still, and no token is
going to expire that is put for one of some lifetimes. -/
structure ClockedStore.InStep (P : Nat → Prop) (s : ClockedStore) (m : MemoryStore) : Prop where
  resembles : s.Resembles m
  suits : ∀ lifetime, P lifetime → s.clock.SuitsThroughout (.ofSeconds lifetime)

namespace ClockedStore.InStep

variable {P : Nat → Prop} {s : ClockedStore} {m : MemoryStore}

/-- Stores stay in step behind an event that deposits for these lifetimes only. -/
theorem storeAfter (h : s.InStep P m) {e : Event} (he : ∀ d ∈ e.deposit?, P d.lifetime) :
    (e.storeAfter s).InStep P (e.storeAfter m) := by
  have hsuits : ∀ lifetime, P lifetime → s.clock.read.2.SuitsThroughout (.ofSeconds lifetime) :=
    fun lifetime hlifetime => (h.suits lifetime hlifetime).read
  cases e with
  | sent | paused | noted => exact h
  | got key => exact ⟨(h.resembles.get key).2, hsuits⟩
  | checked key => exact ⟨(h.resembles.get key).2, hsuits⟩
  | put key token lifetime =>
    exact ⟨h.resembles.put key token (hsuits lifetime (he _ rfl)).1, hsuits⟩
  | forgot key => exact ⟨h.resembles.erase key, h.suits⟩

variable {β : Type} [Http.Backend β] {b b' : β}

/-- What could happen where time stands still could happen where it passes. -/
theorem isTrue (h : s.InStep P m) {e : Event} (he : e.IsTrue b m) : e.IsTrue b s := by
  cases e with
  | sent | put | forgot => exact he
  | paused | noted => exact trivial
  | got key => exact Eq.trans he (congrArg Except.ok (h.resembles.get key).1.symm)
  | checked key =>
    refine Eq.trans he (Eq.symm ?_)
    exact congrArg (fun token? : Option String => Except.ok token?.isSome) (h.resembles.get key).1

/-- What happens where time stands still happens where it passes, and the stores stay in step. -/
theorem exists_happens (h : s.InStep P m) {m' : MemoryStore} {events : List Event}
    (hhappens : Happens b m events b' m') (hP : ∀ d ∈ deposits events, P d.lifetime) :
    ∃ s', Happens b s events b' s' ∧ s'.InStep P m' := by
  induction hhappens generalizing s with
  | nil => exact ⟨s, .nil, h⟩
  | cons now _ ih =>
    obtain ⟨hfirst, hrest⟩ := forall_mem_deposits_cons.1 hP
    obtain ⟨s', hafter, hlast⟩ := ih (h.storeAfter hfirst) hrest
    exact ⟨s', .cons (h.isTrue now) hafter, hlast⟩

end ClockedStore.InStep

/-! ## Sites in step -/

section
variable {β : Type} {P : Nat → Prop}

/-- The same client with the same backend and trace, on stores in step. -/
structure Site.InStep (P : Nat → Prop) (s : Site β ClockedStore) (t : Site β MemoryStore) :
    Prop where
  client_eq : s.client = t.client
  backend_eq : s.backend = t.backend
  store : s.store.InStep P t.store
  trace_eq : s.trace = t.trace

/-- A client whose sessions are kept for one of these lifetimes does the same while time passes. -/
theorem Site.InStep.perform [Http.Backend β] {s : Site β ClockedStore} {t : Site β MemoryStore}
    (h : s.InStep P t) (hP : P t.client.config.cacheTtl.toNat) (a : Action) :
    (s.perform a).1 = (t.perform a).1 ∧ (s.perform a).2.InStep P (t.perform a).2 := by
  obtain ⟨events, hcourse, hpass⟩ := t.perform_following a
  have hlifetimes : ∀ d ∈ deposits events, P d.lifetime := fun d hd =>
    (t.client.composes_lifetimes.performing hcourse d hd).symm ▸ hP
  obtain ⟨store, hhappens, hstore⟩ := h.store.exists_happens hpass.happens hlifetimes
  rw [← h.backend_eq] at hhappens
  rw [t.perform_eq_of_happens s a h.client_eq hpass.trace_eq hhappens]
  refine ⟨rfl, rfl, rfl, hstore, ?_⟩
  rw [hpass.trace_eq, h.trace_eq]

/-! ## Scenarios in step -/

/-- The same client on the shared store, with sessions that are kept for one of some lifetimes. -/
inductive Participant.InStep (P : Nat → Prop) :
    Participant ClockedStore → Participant MemoryStore → Prop
  | mk {client : Client} (h : P client.config.cacheTtl.toNat) :
    InStep P ⟨client, none⟩ ⟨client, none⟩

/-- The same clients under the same names, on stores in step. -/
structure Scenario.InStep (P : Nat → Prop) (x : Scenario β ClockedStore)
    (y : Scenario β MemoryStore) : Prop where
  backend_eq : x.backend = y.backend
  shared : x.shared.InStep P y.shared
  participants : List.Forall₂ (fun entry entry' => entry.1 = entry'.1 ∧
    entry.2.InStep P entry'.2) x.participants y.participants

namespace Scenario

variable {x : Scenario β ClockedStore} {y : Scenario β MemoryStore} {p : Participant ClockedStore}
  {p' : Participant MemoryStore}

/-- Under a name there is the same client, or none. -/
theorem InStep.participant? (h : x.InStep P y) (name : String) :
    Option.Rel (Participant.InStep P) (x.participant? name) (y.participant? name) :=
  optionRel_lookup h.participants name

/-- Scenarios stay in step when a client is taken out. -/
theorem InStep.dismiss (h : x.InStep P y) (name : String) :
    (x.dismiss name).InStep P (y.dismiss name) := by
  refine ⟨h.backend_eq, h.shared, List.rel_filter ?_ h.participants⟩
  intro entry entry' hentry
  simp only [hentry.1]

/-- Scenarios stay in step when the same client is entered. -/
theorem InStep.enrol (h : x.InStep P y) (name : String) (hp : p.InStep P p') :
    (x.enrol name p).InStep P (y.enrol name p') :=
  ⟨h.backend_eq, h.shared, .cons ⟨rfl, hp⟩ (h.dismiss name).participants⟩

variable [Http.Backend β]

/-- In scenarios in step, a client that acts reports the same, and the scenarios stay in step. -/
theorem InStep.act (h : x.InStep P y) (name : String) (hp : p.InStep P p') (a : Action) :
    (x.act name p a).1 = (y.act name p' a).1 ∧ (x.act name p a).2.InStep P (y.act name p' a).2 := by
  cases hp with
  | @mk client hclient =>
    have hsite : (x.site ⟨client, none⟩).InStep P (y.site ⟨client, none⟩) :=
      ⟨rfl, h.backend_eq, h.shared, rfl⟩
    obtain ⟨hresult, hafter⟩ := hsite.perform hclient a
    have hremains : client.Remains ((y.site ⟨client, none⟩).perform a).2.client :=
      (y.site ⟨client, none⟩).perform_remains a
    have hlast : Participant.InStep P ⟨((x.site ⟨client, none⟩).perform a).2.client, none⟩
        ⟨((y.site ⟨client, none⟩).perform a).2.client, none⟩ := by
      rw [hafter.client_eq]
      exact .mk (hremains.config.symm ▸ hclient)
    have hentered := h.enrol name hlast
    exact ⟨congr (congrArg (StepReport.mk · · true) hresult) hafter.trace_eq,
      hafter.backend_eq, hafter.store, hentered.participants⟩

/-- In scenarios in step, the same is built, and the scenarios stay in step. -/
theorem InStep.build (h : x.InStep P y) (name : String) {setup : ClientSetup}
    (hP : P setup.config.cacheTtl.toNat) (fresh : Generator) (connect : Bool) :
    (x.build name setup none fresh connect).1 = (y.build name setup none fresh connect).1 ∧
      (x.build name setup none fresh connect).2.InStep P
        (y.build name setup none fresh connect).2 := by
  unfold Scenario.build
  cases hbuild : setup.build fresh with
  | error e => exact ⟨rfl, h.dismiss name⟩
  | ok built =>
    obtain ⟨client, notices⟩ := built
    have hp : Participant.InStep P ⟨client, none⟩ ⟨client, none⟩ :=
      .mk ((ClientSetup.builds hbuild).config_eq.symm ▸ hP)
    cases connect with
    | false => exact ⟨rfl, h.enrol name hp⟩
    | true =>
      have hacted := h.act name hp .login
      simp only [reduceIte]
      generalize x.act name ⟨client, none⟩ .login = acted,
        y.act name ⟨client, none⟩ .login = acted' at hacted
      obtain ⟨⟨result, trace, onShared⟩, after⟩ := acted
      obtain ⟨_, after'⟩ := acted'
      obtain ⟨rfl, hafter⟩ := hacted
      cases result with
      -- A client that could not be logged in is taken out again.
      | error e => exact ⟨rfl, hafter.dismiss name⟩
      | ok outcome =>
        refine ⟨?_, hafter⟩
        have hfound := hafter.participant? name
        dsimp only
        generalize after.participant? name = found, after'.participant? name = found' at hfound
        cases hfound with
        | none => rfl
        | some hparticipant =>
          cases hparticipant with
          | mk => rfl

/-- In scenarios in step, a command leads to the same report, and the scenarios stay in step. -/
theorem InStep.obey (h : x.InStep P y) {command : Command}
    (hP : ∀ name setup fresh connect, command = .build name setup fresh connect →
      P setup.config.cacheTtl.toNat) :
    x.report command = y.report command ∧ (x.obey command).InStep P (y.obey command) := by
  cases command with
  | build name setup fresh connect =>
    obtain ⟨hreport, hbuilt⟩ := h.build name (hP name setup fresh connect rfl) fresh connect
    refine ⟨?_, hbuilt⟩
    simp only [report, hreport]
  | act name a =>
    have hp := h.participant? name
    simp only [report, Scenario.obey]
    generalize x.participant? name = p?, y.participant? name = p?' at hp
    cases hp with
    | none => exact ⟨rfl, h⟩
    | some hp =>
      obtain ⟨hreport, hacted⟩ := h.act name hp a
      refine ⟨?_, hacted⟩
      simp only [Option.map_some, hreport]

/-- Runs from scenarios in step lead to the same reports, and the scenarios stay in step. -/
theorem InStep.run (h : x.InStep P y) {commands : List Command}
    (hP : ∀ name setup fresh connect, .build name setup fresh connect ∈ commands →
      P setup.config.cacheTtl.toNat) :
    x.reports commands = y.reports commands ∧ (x.run commands).InStep P (y.run commands) := by
  induction commands generalizing x y with
  | nil => exact ⟨rfl, h⟩
  | cons command commands ih =>
    obtain ⟨hreport, hnext⟩ := h.obey fun name setup fresh connect heq =>
      hP name setup fresh connect (heq ▸ List.mem_cons_self)
    obtain ⟨hreports, hlast⟩ := ih hnext fun name setup fresh connect hmem =>
      hP name setup fresh connect (List.mem_cons_of_mem _ hmem)
    refine ⟨?_, hlast⟩
    rw [reports, reports, hreport, hreports]

/-- Clients on one store in memory, which was empty, report what they report with time standing
still, if no session expires in the store before the last moment that its clock shows but those that
are kept for no time. -/
theorem reports_eq_of_suitsThroughout (b : β) {clock : Clock} {commands : List Command}
    (hsuits : ∀ name setup fresh connect, .build name setup fresh connect ∈ commands →
      clock.SuitsThroughout (.ofSeconds setup.config.cacheTtl.toNat)) :
    reports ⟨b, ClockedStore.empty clock, []⟩ commands =
      reports ⟨b, MemoryStore.empty, []⟩ commands := by
  have hstart : InStep (fun lifetime => clock.SuitsThroughout (.ofSeconds lifetime))
      ⟨b, ClockedStore.empty clock, []⟩ ⟨b, MemoryStore.empty, []⟩ :=
    ⟨rfl, ⟨.empty clock, fun _ h => h⟩, .nil⟩
  exact (hstart.run hsuits).1

end Scenario

end

end ODataSession
