import ODataSession.Proofs.Client.Calls
import ODataSession.Proofs.Client.Command
import ODataSession.Proofs.Session.Store

/-!
# Performances

A run of a scenario seen as the actions that were carried out in it, each with the client, the
backend and the store as they were before (`Scenario.performances`). What may be said of a run in
terms of what has been performed so far is proved by one induction: it holds at the start, and a
client that acts, one that is taken out and one that is built preserve it
(`Scenario.performances_induction`). So it held at every single performance as well
(`Scenario.exists_of_performances`).
-/

namespace ODataSession

/-- Whether an action is a request that renews its session when it is rejected. -/
def Action.renews : Action → Bool
  | .request (.ok _) => true
  | .login | .logout | .withHeaders _ | .request (.error _) | .sendWith .. | .pool _ => false

/-- Only a request renews its session. -/
theorem Action.eq_request_of_renews {a : Action} (h : a.renews = true) :
    ∃ r, a = .request (.ok r) := by
  cases a with
  | request r =>
    cases r with
    | ok r => exact ⟨r, rfl⟩
    | error => cases h
  | login | logout | withHeaders | sendWith | pool => cases h

/-- An action that a client carries out, and the backend and the store that it finds. -/
structure Performance (β σ : Type) where
  name : String
  client : Client
  backend : β
  store : σ
  action : Action

namespace Performance

section
variable {β σ : Type}

/-- The site of a performance; nothing has happened there yet. -/
def site (q : Performance β σ) : Site β σ :=
  ⟨q.client, q.backend, q.store, []⟩

/-- The text under which the store keeps the session of the client. -/
def key (q : Performance β σ) : String :=
  q.client.key.text

end

section
variable {β σ : Type} [Http.Backend β] [SessionStore σ] (q : Performance β σ)

/-- What the action gives. -/
def result : Except ClientError Outcome :=
  (q.site.perform q.action).1

/-- The site after the action; its trace is what has happened. -/
def after : Site β σ :=
  (q.site.perform q.action).2

/-- The calls of the action. -/
def calls : List Call :=
  ODataSession.calls q.after.trace

/-- An action takes one of its courses. -/
theorem performing : Performing q.client q.action q.after.trace q.result q.after.client := by
  obtain ⟨events, hcourse, hpass⟩ := q.site.perform_following q.action
  have hevents : q.after.trace = events := hpass.trace_eq
  rw [hevents]
  exact hcourse

/-- What has happened is what the backend and the store have answered. -/
theorem happens : Happens q.backend q.store q.after.trace q.after.backend q.after.store := by
  obtain ⟨events, -, hpass⟩ := q.site.perform_following q.action
  have hevents : q.after.trace = events := hpass.trace_eq
  rw [hevents]
  exact hpass.happens

/-- The client stays on its key. -/
theorem remains : q.client.Remains q.after.client :=
  q.performing.remains

end

end Performance

namespace Scenario

/-! ## Who is there -/

section
variable {β σ : Type}

/-- The client of a name is among those that are there. -/
theorem mem_participants {x : Scenario β σ} {name : String} {p : Participant σ}
    (hp : x.participant? name = some p) : (name, p) ∈ x.participants := by
  obtain ⟨l₁, l₂, hlist, -⟩ := List.lookup_eq_some_iff.1 hp
  exact hlist ▸ List.mem_append_right _ List.mem_cons_self

/-- All clients use the shared store. -/
def IsShared (x : Scenario β σ) : Prop :=
  ∀ entry ∈ x.participants, entry.2.own = none

/-- Who is there when a client has been taken out. -/
theorem participant?_dismiss (x : Scenario β σ) (name name' : String) :
    (x.dismiss name).participant? name' = if name' = name then none else x.participant? name' :=
  MemoryStore.lookup_filter x.participants name name'

/-- Who is there when a client has been entered. -/
theorem participant?_enrol_eq (x : Scenario β σ) (name : String) (p : Participant σ)
    (name' : String) :
    (x.enrol name p).participant? name' =
      if name' = name then some p else x.participant? name' := by
  by_cases h : name' = name
  · rw [if_pos h, h]
    exact x.participant?_enrol name p
  · rw [if_neg h]
    refine Eq.trans ?_ ((x.participant?_dismiss name name').trans (if_neg h))
    rw [participant?, enrol, List.lookup_cons, beq_eq_false_iff_ne.2 h]
    rfl

variable {x : Scenario β σ}

/-- Taking a client out leaves the others on the shared store. -/
theorem IsShared.dismiss (h : x.IsShared) (name : String) : (x.dismiss name).IsShared :=
  fun entry hmem => h entry (List.mem_filter.1 hmem).1

/-- A client that is entered on the shared store is one more of them. -/
theorem IsShared.enrol (h : x.IsShared) (name : String) (client : Client) :
    (x.enrol name ⟨client, none⟩).IsShared :=
  List.forall_mem_cons.2 ⟨rfl, h.dismiss name⟩

/-- A client that is there uses the shared store. -/
theorem IsShared.own_eq (h : x.IsShared) {name : String} {p : Participant σ}
    (hp : x.participant? name = some p) : p.own = none :=
  h (name, p) (mem_participants hp)

end

/-! ## What is performed -/

section
variable {β σ : Type}

/-- An action of a client that is there. -/
def performance (x : Scenario β σ) (name : String) (p : Participant σ) (a : Action) :
    Performance β σ :=
  ⟨name, p.client, x.backend, p.own.getD x.shared, a⟩

/-- On the shared store, a client finds what is in it. -/
theorem performance_of_own {p : Participant σ} (hp : p.own = none) (x : Scenario β σ)
    (name : String) (a : Action) :
    x.performance name p a = ⟨name, p.client, x.backend, x.shared, a⟩ := by
  rw [performance, hp, Option.getD_none]

/-- The action that a command leads to, if it leads to one. -/
def performance? (x : Scenario β σ) : Command → Option (Performance β σ)
  | .build name setup fresh connect =>
    match setup.build fresh with
    | .ok (client, _) => if connect then some (x.performance name ⟨client, none⟩ .login) else none
    | .error _ => none
  | .act name a => (x.participant? name).map (x.performance name · a)

end

section
variable {β σ : Type} [Http.Backend β] [SessionStore σ]

/-- The actions that commands lead to, one after the other. -/
def performances (x : Scenario β σ) : List Command → List (Performance β σ)
  | [] => []
  | command :: commands =>
    (x.performance? command).toList ++ (x.obey command).performances commands

/-- A command to a client that is there is carried out. -/
theorem performances_act {x : Scenario β σ} {name : String} {p : Participant σ}
    (hp : x.participant? name = some p) (a : Action) (commands : List Command) :
    x.performances (.act name a :: commands) =
        x.performance name p a :: (x.act name p a).2.performances commands ∧
      x.run (.act name a :: commands) = (x.act name p a).2.run commands := by
  simp [performances, performance?, run, obey, hp]

/-- A command to a client that is not there leads to nothing. -/
theorem performances_act_of_none {x : Scenario β σ} {name : String}
    (hp : x.participant? name = none) (a : Action) (commands : List Command) :
    x.performances (.act name a :: commands) = x.performances commands ∧
      x.run (.act name a :: commands) = x.run commands := by
  simp [performances, performance?, run, obey, hp]

/-- On the shared store, a client leaves what its action has left. -/
theorem act_of_own {x : Scenario β σ} {p : Participant σ} (hp : p.own = none) (name : String)
    (a : Action) : (x.act name p a).2 =
      { x.enrol name ⟨(x.performance name p a).after.client, none⟩ with
        backend := (x.performance name p a).after.backend
        shared := (x.performance name p a).after.store } := by
  obtain ⟨client, own⟩ := p
  cases hp
  rfl

/-- The clients stay on the shared store when one of them acts. -/
theorem IsShared.act {x : Scenario β σ} (h : x.IsShared) {name : String} {p : Participant σ}
    (hp : x.participant? name = some p) (a : Action) : (x.act name p a).2.IsShared := by
  rw [act_of_own (h.own_eq hp)]
  exact h.enrol name _

/-- Who is there when a client has acted. -/
theorem participant?_act {x : Scenario β σ} (h : x.IsShared) {name : String} {p : Participant σ}
    (hp : x.participant? name = some p) (a : Action) (name' : String) :
    (x.act name p a).2.participant? name' =
      if name' = name then some ⟨(x.performance name p a).after.client, none⟩
      else x.participant? name' := by
  rw [act_of_own (h.own_eq hp)]
  exact x.participant?_enrol_eq name _ name'

/-- What holds at the start and is preserved by every step, together with what has been performed
in it, holds at the end of everything that has been performed. -/
theorem performances_induction {I : List (Performance β σ) → Scenario β σ → Prop}
    (hact : ∀ past x name p a, x.participant? name = some p → I past x →
      I (past ++ [x.performance name p a]) (x.act name p a).2)
    (hdismiss : ∀ past x name, I past x → I past (x.dismiss name))
    (henrol : ∀ past x name setup (fresh : Generator) client notices,
      ClientSetup.build setup fresh = .ok (client, notices) → I past x →
        I past (x.enrol name ⟨client, none⟩))
    (commands : List Command) {past : List (Performance β σ)} {x : Scenario β σ} (h : I past x) :
    I (past ++ x.performances commands) (x.run commands) := by
  have hobey : ∀ past x command, I past x →
      I (past ++ (x.performance? command).toList) (x.obey command) := by
    intro past x command h
    cases command with
    | act name a =>
      cases hp : x.participant? name with
      | none =>
        simp only [obey, performance?, hp, Option.map_none, Option.toList_none, List.append_nil]
        exact h
      | some p =>
        simp only [obey, performance?, hp]
        exact hact past x name p a hp h
    | build name setup fresh connect =>
      cases hbuild : setup.build fresh with
      | error e =>
        simp only [obey, build, performance?, hbuild, Option.toList_none, List.append_nil]
        exact hdismiss past x name h
      | ok built =>
        obtain ⟨client, notices⟩ := built
        have hentered := henrol past x name setup fresh client notices hbuild h
        simp only [obey, build, performance?, hbuild]
        cases connect with
        | false =>
          simp only [Bool.false_eq_true, reduceIte, Option.toList_none, List.append_nil]
          exact hentered
        | true =>
          have hacted := hact past _ name ⟨client, none⟩ .login (x.participant?_enrol name _)
            hentered
          rw [act_enrol] at hacted
          simp only [reduceIte]
          split
          · exact hacted
          · exact hdismiss _ _ name hacted
  induction commands generalizing past x with
  | nil =>
    rw [performances, List.append_nil]
    exact h
  | cons command commands ih =>
    rw [performances, ← List.append_assoc]
    exact ih (hobey past x command h)

end

end Scenario

/-- Where one of two parts in a row has a member, it is in the first part or in the second. -/
theorem append_eq_append_cons {α : Type} {l l' front back : List α} {a : α}
    (h : l ++ l' = front ++ a :: back) :
    (∃ mid, l = front ++ a :: mid ∧ back = mid ++ l') ∨
      ∃ mid, front = l ++ mid ∧ l' = mid ++ a :: back := by
  rcases List.append_eq_append_iff.1 h with ⟨mid, rfl, hl'⟩ | ⟨_ | ⟨e, mid⟩, rfl, hback⟩
  · exact .inr ⟨mid, rfl, hl'⟩
  · exact .inr ⟨[], (List.append_nil _).symm.trans (List.append_nil _).symm, hback.symm⟩
  · obtain ⟨rfl, rfl⟩ := List.cons.inj hback
    exact .inl ⟨mid, rfl, rfl⟩

/-- What a list with one more member at its end has in it is that member or in the list. -/
theorem append_singleton_eq_append_cons {α : Type} {l front back : List α} {a b : α}
    (h : l ++ [a] = front ++ b :: back) :
    (l = front ∧ a = b ∧ back = []) ∨ ∃ back', back = back' ++ [a] ∧ l = front ++ b :: back' := by
  rcases append_eq_append_cons h with ⟨mid, hfront, hback⟩ | ⟨mid, hfront, hlast⟩
  · exact .inr ⟨mid, hback, hfront⟩
  · obtain ⟨rfl, hmember⟩ | ⟨_, hnil⟩ := List.append_eq_cons_iff.1 hlast.symm
    · obtain ⟨rfl, rfl⟩ := List.cons.inj hmember
      exact .inl ⟨(hfront.trans (List.append_nil l)).symm, rfl, rfl⟩
    · simp at hnil

namespace Scenario

section
variable {β σ : Type} [Http.Backend β] [SessionStore σ]

/-- An action that has been performed in a run was that of a client who was there, and what holds at
the start and is preserved by every step held when it was performed. -/
theorem exists_of_performances {I : List (Performance β σ) → Scenario β σ → Prop}
    (hact : ∀ past x name p a, x.participant? name = some p → I past x →
      I (past ++ [x.performance name p a]) (x.act name p a).2)
    (hdismiss : ∀ past x name, I past x → I past (x.dismiss name))
    (henrol : ∀ past x name setup (fresh : Generator) client notices,
      ClientSetup.build setup fresh = .ok (client, notices) → I past x →
        I past (x.enrol name ⟨client, none⟩))
    {commands : List Command} {x : Scenario β σ} (h : I [] x)
    {earlier later : List (Performance β σ)} {q : Performance β σ}
    (hq : x.performances commands = earlier ++ q :: later) :
    ∃ x' p, I earlier x' ∧ x'.participant? q.name = some p ∧
      q = x'.performance q.name p q.action := by
  let J (past : List (Performance β σ)) (x : Scenario β σ) : Prop :=
    I past x ∧ ∀ earlier q later, past = earlier ++ q :: later → ∃ x' p, I earlier x' ∧
      x'.participant? q.name = some p ∧ q = x'.performance q.name p q.action
  have hrun : J ([] ++ x.performances commands) (x.run commands) := by
    refine performances_induction (fun past x name p a hp h => ?_)
      (fun past x name h => ⟨hdismiss past x name h.1, h.2⟩)
      (fun past x name setup fresh client notices hbuild h =>
        ⟨henrol past x name setup fresh client notices hbuild h.1, h.2⟩) commands
      ⟨h, fun earlier q later hnil => ?_⟩
    · refine ⟨hact past x name p a hp h.1, fun earlier q later hpast => ?_⟩
      rcases append_singleton_eq_append_cons hpast with ⟨rfl, rfl, -⟩ | ⟨later', -, hpast'⟩
      · exact ⟨x, p, h.1, hp, rfl⟩
      · exact h.2 earlier q later' hpast'
    · cases List.append_ne_nil_of_right_ne_nil _ (List.cons_ne_nil _ _) hnil.symm
  exact hrun.2 earlier q later ((List.nil_append _).trans hq)

end

end Scenario

/-! ## A server that grants cookies -/

/-- A backend that grants some cookies, one for each login, and then always the last one, and that
answers requests for items with a status. -/
def ScriptedBackend.granting (cookies : List String) (last : String) (status : Http.Status) :
    ScriptedBackend where
  rules := (cookies.map fun cookie =>
      ⟨none, some "/b1s/v1/Login", none, some 1, .response 200 [cookie] (some [])⟩) ++
    [⟨none, some "/b1s/v1/Login", none, none, .response 200 [last] (some [])⟩,
      ⟨none, some "/b1s/v1/Items", none, none, .response status [] (some [])⟩]
  refusals := 0
  linked := true

/-- Settings for two slots on a server without TLS. -/
def Config.twoSlots : Config :=
  { Config.sample with server := "http://sl.example/b1s/v1/", poolSize := 2 }

/-- The command to build a client on a slot. -/
def Command.buildOn (name : String) (slot : UInt64) : Command :=
  .build name { ClientSetup.ofConfig .twoSlots with slot := some slot } (.ofSeed 0) false

end ODataSession
