import ODataSession.Proofs.Client.Command
import ODataSession.Proofs.Config.Validity
import ODataSession.Proofs.Session.Slot
import ODataSession.Proofs.Url.Origin

/-!
# Clients and their slots

A client is built of valid settings, of a slot of their pool and of a server that is a URL, and what
is wrong is found in this order (`ClientSetup.building`). A slot that is not given explicitly lies
inside the pool of valid settings (`ClientSetup.chosenSlot_lt`), so that building fails only for the
server then. Nothing is sent for it (`Scenario.buildsSilently`).
-/

namespace ODataSession

namespace ClientSetup

section
variable {γ : Type} [RandomSource γ]

/-- The choice of the slot of a setup. -/
def wish (s : ClientSetup) : Slot.Wish :=
  ⟨s.slot, s.config.sessionIndex, s.config.poolSize⟩

/-- The slot that is chosen for a setup: the explicit one, else the configured one, else one that is
drawn if the pool has more than one, else the first. -/
def chosenSlot (s : ClientSetup) (fresh : γ) : UInt64 :=
  s.wish.slot (s.source fresh)

/-- The client of a setup on a slot, before anything is done with it. -/
def client (s : ClientSetup) (base : Url) (slot : UInt64) : Client where
  config := s.config
  standing := s.http.standing
  base := base
  slot := slot
  key := .derive s.config.server s.config.database s.config.username slot
  credential := none
  queued := []
  state := .unauthenticated

/-- What comes of building a client: the settings are checked first, then the slot, then the
server. -/
inductive Building (s : ClientSetup) (fresh : γ) :
    Except ClientError (Client × List Notice) → Prop
  | invalid {e : ConfigError} (hvalid : s.config.validate = .error e) :
    Building s fresh (.error (.configuration e))
  | stray (hvalid : s.config.validate = .ok ())
      (hslot : s.config.poolSize ≤ s.chosenSlot fresh) : Building s fresh
    (.error (.configuration (.chosenSlot (s.chosenSlot fresh) s.config.poolSize)))
  | unreadable {e : UrlError} (hvalid : s.config.validate = .ok ())
      (hslot : s.chosenSlot fresh < s.config.poolSize)
      (hserver : Url.ofServer s.config.server = .error e) : Building s fresh (.error (.invalidUrl e))
  | bound {base : Url} (hvalid : s.config.validate = .ok ())
      (hslot : s.chosenSlot fresh < s.config.poolSize)
      (hserver : Url.ofServer s.config.server = .ok base) : Building s fresh
    (.ok (s.client base (s.chosenSlot fresh), s.notices (s.chosenSlot fresh)))

/-- The pool of valid settings is as large as it is. -/
theorem size_wish {s : ClientSetup} (h : s.config.validate = .ok ()) :
    s.wish.size = s.config.poolSize := by
  have hpos := UInt64.lt_iff_toNat_lt.1 (Config.validate_eq_ok_iff.1 h).poolSize_pos
  by_cases hpool : 1 < s.wish.poolSize
  · exact Slot.Wish.size_of_lt hpool
  · rw [Slot.Wish.size_of_not_lt hpool, ← UInt64.toNat_inj]
    have hone : s.config.poolSize.toNat ≤ 1 := UInt64.le_iff_toNat_le.1 (UInt64.not_lt.1 hpool)
    exact Nat.le_antisymm hpos hone

/-- Building a client goes in one of these ways. -/
theorem building (s : ClientSetup) (fresh : γ) : s.Building fresh (s.build fresh) := by
  unfold build
  cases hvalid : s.config.validate with
  | error e => exact .invalid hvalid
  | ok =>
    have hchoose : (Slot.choose s.slot s.config.sessionIndex s.config.poolSize
        (s.source fresh)).1 = _ := congrArg Prod.fst (s.wish.choose_eq (s.source fresh))
    rw [size_wish hvalid, ← chosenSlot] at hchoose
    dsimp only
    rw [hchoose]
    split
    · next hslot => exact .stray hvalid hslot
    · next hslot =>
      have hslot := UInt64.not_le.1 hslot
      cases hserver : Url.ofServer s.config.server with
      | error e => exact .unreadable hvalid hslot hserver
      | ok base => exact .bound hvalid hslot hserver

/-- What building gives: a client of the setup on the chosen slot, which is one of its pool, whenever
the settings are valid, this slot is one of the pool and the server is a URL. A slot that is not
given explicitly never stands in the way of valid settings. -/
structure BindsSlot (s : ClientSetup) (fresh : γ) : Prop where
  exists_iff : (∃ client notices, s.build fresh = .ok (client, notices)) ↔
    s.config.validate = .ok () ∧ s.chosenSlot fresh < s.config.poolSize ∧
      ∃ base, Url.ofServer s.config.server = .ok base
  built : ∀ client notices, s.build fresh = .ok (client, notices) →
    s.Builds client ∧ client.slot = s.chosenSlot fresh ∧ client.slot < s.config.poolSize
  not_stray : s.slot = none → s.config.validate = .ok () →
    ∀ e, s.build fresh ≠ .error (.configuration e)

end

section
variable {γ : Type} [LawfulSource γ]

/-- The slot that is chosen is one of the pool unless it was given explicitly. -/
theorem chosenSlot_lt {s : ClientSetup} (hvalid : s.config.validate = .ok ()) (h : s.slot = none)
    (fresh : γ) : s.chosenSlot fresh < s.config.poolSize := by
  cases hindex : s.config.sessionIndex with
  | some index =>
    have hnamed : s.wish.named? = some index := by
      rw [wish, Slot.Wish.named?, h, hindex]
      rfl
    rw [chosenSlot, Slot.Wish.slot, hnamed]
    exact (Config.validate_eq_ok_iff.1 hvalid).index_lt index hindex
  | none =>
    have hnamed : s.wish.named? = none := by
      rw [wish, Slot.Wish.named?, h, hindex]
      rfl
    rw [← size_wish hvalid]
    exact Slot.Wish.slot_lt hnamed _

/-- Every setup is built on a slot of its pool, or is not built. -/
theorem binds (s : ClientSetup) (fresh : γ) : s.BindsSlot fresh := by
  have hbuild := s.building fresh
  refine ⟨?_, ?_, ?_⟩
  · generalize s.build fresh = result at hbuild
    cases hbuild with
    | invalid hvalid => simp [hvalid]
    | stray hvalid hslot =>
      refine iff_of_false ?_ fun h => UInt64.not_lt.2 hslot h.2.1
      rintro ⟨client, notices, h⟩
      cases h
    | unreadable hvalid hslot hserver => simp [hserver]
    | bound hvalid hslot hserver => exact iff_of_true ⟨_, _, rfl⟩ ⟨hvalid, hslot, _, hserver⟩
  · intro client notices h
    refine ⟨builds h, ?_⟩
    rw [h] at hbuild
    cases hbuild with
    | bound hvalid hslot hserver => exact ⟨rfl, hslot⟩
  · intro hslot hvalid e h
    rw [h] at hbuild
    cases hbuild with
    | invalid hinvalid =>
      rw [hvalid] at hinvalid
      cases hinvalid
    | stray _ hstray => exact UInt64.not_lt.2 hstray (chosenSlot_lt hvalid hslot fresh)

end

end ClientSetup

/-! ## Building in scenarios -/

section
variable {β σ γ : Type} [Http.Backend β] [SessionStore σ]

/-- A client is built without a call to the backend or to a store, and both stay what they are. -/
structure Scenario.BuildsSilently (x : Scenario β σ) (name : String) (setup : ClientSetup)
    (own : Option σ) (fresh : Generator) : Prop where
  result_eq : (x.build name setup own fresh false).1.result = (setup.build fresh).map Prod.fst
  noted : ∀ event ∈ (x.build name setup own fresh false).1.trace, ∃ notice, event = .noted notice
  backend_eq : (x.build name setup own fresh false).2.backend = x.backend
  shared_eq : (x.build name setup own fresh false).2.shared = x.shared
  participant_eq : ∀ client notices, setup.build fresh = .ok (client, notices) →
    (x.build name setup own fresh false).2.participant? name = some ⟨client, own⟩

/-- Every client is built silently unless it is to log in. -/
theorem Scenario.buildsSilently (x : Scenario β σ) (name : String) (setup : ClientSetup)
    (own : Option σ) (fresh : Generator) : x.BuildsSilently name setup own fresh := by
  cases hbuild : setup.build fresh with
  | error e =>
    have hx : x.build name setup own fresh false = (⟨.error e, [], own.isNone⟩, x.dismiss name) := by
      rw [build, hbuild]
    refine ⟨?_, ?_, ?_, ?_, ?_⟩
    · rw [hx, hbuild]
      rfl
    · intro event hevent
      rw [hx] at hevent
      cases hevent
    · rw [hx]
      rfl
    · rw [hx]
      rfl
    · intro client notices h
      rw [hbuild] at h
      cases h
  | ok built =>
    obtain ⟨client, notices⟩ := built
    have hx : x.build name setup own fresh false =
        (⟨.ok client, notices.map .noted, own.isNone⟩, x.enrol name ⟨client, own⟩) := by
      rw [build, hbuild]
      rfl
    refine ⟨?_, ?_, ?_, ?_, ?_⟩
    · rw [hx, hbuild]
      rfl
    · rw [hx]
      intro event hevent
      obtain ⟨notice, -, rfl⟩ := List.mem_map.1 hevent
      exact ⟨notice, rfl⟩
    · rw [hx]
      rfl
    · rw [hx]
      rfl
    · rintro client' notices' h
      obtain ⟨rfl, -⟩ := Prod.mk.inj (Except.ok.inj (hbuild.symm.trans h))
      rw [hx]
      exact x.participant?_enrol name _

/-- Whatever lawful source of random numbers there is, a client is built on the slot that is chosen
for it, which is one of its pool, exactly if the settings are valid, the slot is one of the pool and
the server is a URL; nothing is sent for it. However many slots are chosen on one source, each lies
inside its pool, and only those that are drawn move the source. -/
theorem Scenario.build_bindsSlot [LawfulSource γ] (x : Scenario β σ) (name : String)
    (setup : ClientSetup) (own : Option σ) (source : γ) :
    setup.BindsSlot source ∧ (∀ fresh, x.BuildsSilently name setup own fresh) ∧
      ∀ wishes (g : γ), Slot.ChoosesWithin wishes g :=
  ⟨setup.binds source, x.buildsSilently name setup own, Slot.choosesWithin⟩

end

/-- A setup whose slot is drawn from a pool of five. -/
def ClientSetup.sampleDrawn : ClientSetup :=
  { ofConfig { Config.sample with poolSize := 5 } with seed := some 7 }

/-- Whatever is drawn, the client is built on one of the five. -/
theorem Scenario.build_bindsSlot_drawn : ∃ client notices,
    ClientSetup.sampleDrawn.build (Generator.ofSeed 0) = .ok (client, notices) ∧ client.slot < 5 := by
  have hvalid : ClientSetup.sampleDrawn.config.validate = .ok () := by decide
  obtain ⟨hbinds, -, -⟩ := Scenario.build_bindsSlot (⟨⟨[], 0, false⟩, .empty, []⟩ :
    Scenario ScriptedBackend MemoryStore) "a" .sampleDrawn none (Generator.ofSeed 0)
  have hslot := ClientSetup.chosenSlot_lt hvalid rfl (Generator.ofSeed 0)
  obtain ⟨client, notices, hbuild⟩ :=
    hbinds.exists_iff.2 ⟨hvalid, hslot, _, Client.isOnHttp_sample.base_eq⟩
  exact ⟨client, notices, hbuild, (hbinds.built client notices hbuild).2.2⟩

end ODataSession
