import Mathlib.Data.List.Nodup
import ODataSession.Proofs.Client.Determined
import ODataSession.Proofs.Client.Events
import ODataSession.Proofs.Client.Performance
import ODataSession.Proofs.Session.Key

/-!
# Slots do not interfere

Clients of one identity on different slots share a store in memory, but not what is in it. An action
touches the entry under the key of its client and no other one, and it learns of the store nothing
but what this entry says. So of clients on different slots that act in turn, each does what it does
alone, on a store that has nothing but its own entry, as long as the server answers it in the same
way (`Scenario.performances_alone`). The alone run is with any backend that gives these answers;
that the client cannot tell the difference is `Site.perform_eq_of_happens`.
-/

namespace ODataSession

/-! ## Entries of a store in memory -/

namespace MemoryStore

variable (m : MemoryStore) (key key' : String)

/-- The store with nothing but what is under one key. -/
def only : MemoryStore where
  entries := m.entries.filter (·.1 = key)
  keys_nodup := m.keys_nodup.sublist (List.filter_sublist.map _)

/-- What is under a key is found where there is nothing else. -/
theorem find?_only : (m.only key).find? key = m.find? key := by
  change (m.entries.filter (·.1 = key)).lookup key = m.entries.lookup key
  induction m.entries with
  | nil => rfl
  | cons entry entries ih =>
    obtain ⟨k, token⟩ := entry
    by_cases hk : k = key
    · rw [List.filter_cons_of_pos (by simpa using hk), List.lookup_cons, List.lookup_cons, ih]
    · rw [List.filter_cons_of_neg (by simpa using hk), List.lookup_cons, ih,
        beq_eq_false_iff_ne.2 (Ne.symm hk)]

end MemoryStore

section
variable {m n : MemoryStore} {e : Event} {key key' : String}

/-- What an event makes of the entry under its key depends on this entry only. -/
theorem Event.find?_storeAfter_congr (he : e.IsOnKey key) (hm : n.find? key = m.find? key) :
    (e.storeAfter n).find? key = (e.storeAfter m).find? key := by
  cases e with
  | sent | paused | noted => exact hm
  | got k | checked k =>
    obtain rfl : k = key := he
    refine (n.find?_getAt .origin k k).trans (Eq.trans ?_ (m.find?_getAt .origin k k).symm)
    rw [if_pos rfl, if_pos rfl, hm]
  | put k token lifetime =>
    obtain rfl : k = key := he
    refine (n.find?_putAt .origin k token (.ofSeconds lifetime) k).trans ?_
    refine Eq.trans ?_ (m.find?_putAt .origin k token (.ofSeconds lifetime) k).symm
    rw [if_pos rfl, if_pos rfl]
  | forgot k =>
    obtain rfl : k = key := he
    refine (n.find?_erase k k).trans (Eq.trans ?_ (m.find?_erase k k).symm)
    rw [if_pos rfl, if_pos rfl]

/-- What a store says to an event depends on the entry under its key only. -/
theorem Event.IsTrue.congr_store {β : Type} [Http.Backend β] {b : β} (h : e.IsTrue b m)
    (he : e.IsOnKey key) (hm : n.find? key = m.find? key) : e.IsTrue b n := by
  have hget : (n.get key).1 = (m.get key).1 := by
    rw [MemoryStore.get, MemoryStore.get, MemoryStore.getAt_fst, MemoryStore.getAt_fst, hm]
  cases e with
  | sent | put | forgot => exact h
  | paused | noted => exact trivial
  | got k =>
    obtain rfl : k = key := he
    exact h.trans (congrArg Except.ok hget.symm)
  | checked k =>
    obtain rfl : k = key := he
    exact h.trans (congrArg (fun token? : Option String => Except.ok token?.isSome) hget.symm)

end

/-! ## Answers of a backend -/

namespace Http.Backend

variable {β : Type} [Http.Backend β]

/-- The answers to requests, one after the other, and the backend behind them. -/
def answers (b : β) : List Http.Request → List (Except Http.Failure Http.Response) × β
  | [] => ([], b)
  | request :: requests =>
    let (outcome, b) := answer b request
    let (outcomes, b) := answers b requests
    (outcome :: outcomes, b)

/-- The answers to requests come before those to later ones. -/
theorem answers_append (b : β) (l l' : List Http.Request) :
    answers b (l ++ l') = ((answers b l).1 ++ (answers (answers b l).2 l').1,
      (answers (answers b l).2 l').2) := by
  induction l generalizing b with
  | nil => rfl
  | cons request l ih => simp only [List.cons_append, answers, ih]

/-- Every request is answered. -/
theorem length_answers (b : β) (l : List Http.Request) : (answers b l).1.length = l.length := by
  induction l generalizing b with
  | nil => rfl
  | cons request l ih => exact congrArg (· + 1) (ih _)

/-- A backend answers calls in the way in which they have been answered. -/
def Repeats (b : β) (l : List Call) : Prop :=
  (answers b (l.map Call.request)).1 = l.map Call.outcome

/-- The backend behind the answers to calls. -/
def behind (b : β) (l : List Call) : β :=
  (answers b (l.map Call.request)).2

/-- A backend that repeats the answers to calls and later ones repeats each in its turn. -/
theorem repeats_append (b : β) (l l' : List Call) :
    Repeats b (l ++ l') ↔ Repeats b l ∧ Repeats (behind b l) l' := by
  unfold Repeats behind
  rw [List.map_append, List.map_append, answers_append]
  refine ⟨fun h => List.append_inj h ?_, fun ⟨h, h'⟩ => ?_⟩
  · rw [length_answers, List.length_map, List.length_map]
  · rw [h, h']

end Http.Backend

section
variable {β β' : Type} [Http.Backend β] [Http.Backend β'] {b b₁ : β} {m m₁ n : MemoryStore}
  {events : List Event} {key : String}

/-- A backend repeats itself. -/
theorem Happens.repeats (h : Happens b m events b₁ m₁) :
    Http.Backend.Repeats b (calls events) ∧ Http.Backend.behind b (calls events) = b₁ := by
  induction h with
  | nil => exact ⟨rfl, rfl⟩
  | @cons b _ m _ e _ now _ ih =>
    cases e with
    | sent purpose request outcome =>
      refine ⟨?_, ih.2⟩
      exact congr (congrArg List.cons (Eq.symm now)) ih.1
    | got | checked | put | forgot | paused | noted => exact ih

/-- What happens under one key happens as well with any store that has the same entry there, and
with any backend that gives the same answers. -/
theorem Happens.exists_happens (h : Happens b m events b₁ m₁)
    (hkey : ∀ e ∈ events, e.IsOnKey key) (hn : n.find? key = m.find? key) {b' : β'}
    (hb : Http.Backend.Repeats b' (calls events)) :
    ∃ n₁, Happens b' n events (Http.Backend.behind b' (calls events)) n₁ ∧
      n₁.find? key = m₁.find? key := by
  induction h generalizing b' n with
  | nil => exact ⟨n, .nil, hn⟩
  | @cons b _ m _ e events now _ ih =>
    obtain ⟨he, hevents⟩ := List.forall_mem_cons.1 hkey
    have hafter := Event.find?_storeAfter_congr he hn
    cases e with
    | sent purpose request outcome =>
      obtain ⟨hanswer, hrest⟩ := List.cons.inj hb
      obtain ⟨n₁, hhappens, hfind⟩ := ih hevents hafter hrest
      exact ⟨n₁, .cons hanswer.symm hhappens, hfind⟩
    | got | checked | put | forgot | paused | noted =>
      have hrest : Http.Backend.Repeats b' (calls events) := hb
      obtain ⟨n₁, hhappens, hfind⟩ := ih hevents hafter hrest
      exact ⟨n₁, .cons (Event.IsTrue.congr_store now he hn) hhappens, hfind⟩

end

/-! ## Actions on one slot -/

/-- The keys of one identity on different slots have different texts. -/
theorem SessionKey.text_derive_ne (server database username : String) {slot slot' : UInt64}
    (h : slot ≠ slot') : (derive server database username slot).text ≠
      (derive server database username slot').text := by
  intro htext
  have hkey := (text_inj (by rw [length_identity_derive, length_identity_derive])).1 htext
  exact h (congrArg SessionKey.slot hkey)

/-- Two performances that nobody can tell apart: neither the client, before and after, nor who looks
at the result and at what has happened, nor who looks at the entry under the key of the client. -/
structure Performance.IsLike {β β' : Type} [Http.Backend β] [Http.Backend β']
    (q : Performance β MemoryStore) (q' : Performance β' MemoryStore) : Prop where
  client_eq : q'.client = q.client
  action_eq : q'.action = q.action
  result_eq : q'.result = q.result
  trace_eq : q'.after.trace = q.after.trace
  last_eq : q'.after.client = q.after.client
  entry_eq : q'.store.find? q.key = q.store.find? q.key
  kept_eq : q'.after.store.find? q.key = q.after.store.find? q.key

section
variable {β β' : Type} [Http.Backend β] [Http.Backend β']

/-- An action leaves the entries alone that are not under the key of its client. -/
theorem Performance.find?_after_of_ne (q : Performance β MemoryStore) {key : String}
    (h : key ≠ q.key) : q.after.store.find? key = q.store.find? key :=
  q.happens.entry_of_ne q.performing.isOnKey h

/-- An action depends on the answers of the backend and on the entry under the key of its client
only. -/
theorem Performance.isLike (q : Performance β MemoryStore) (q' : Performance β' MemoryStore)
    (hclient : q'.client = q.client) (haction : q'.action = q.action)
    (hentry : q'.store.find? q.key = q.store.find? q.key)
    (hb : Http.Backend.Repeats q'.backend q.calls) :
    q.IsLike q' ∧ q'.after.backend = Http.Backend.behind q'.backend q.calls := by
  obtain ⟨n, hhappens, hfind⟩ := q.happens.exists_happens q.performing.isOnKey hentry hb
  have hperform : q'.site.perform q.action =
      (q.result, ⟨q.after.client, Http.Backend.behind q'.backend q.calls, n, q.after.trace⟩) :=
    q.site.perform_eq_of_happens q'.site q.action hclient rfl hhappens
  have hafter : q'.after =
      ⟨q.after.client, Http.Backend.behind q'.backend q.calls, n, q.after.trace⟩ := by
    rw [after, haction, hperform]
  refine ⟨⟨hclient, haction, ?_, ?_, ?_, hentry, ?_⟩, ?_⟩
  · rw [result, haction, hperform]
  · rw [hafter]
  · rw [hafter]
  · rw [hafter]
    exact hfind
  · rw [hafter]

end

/-! ## Clients that act in turn -/

/-- The commands to clients to act, one after the other. -/
def commandsOf (acts : List (String × Action)) : List Command :=
  acts.map fun act => .act act.1 act.2

/-- The first command comes first. -/
theorem commandsOf_cons (name : String) (a : Action) (acts : List (String × Action)) :
    commandsOf ((name, a) :: acts) = .act name a :: commandsOf acts :=
  rfl

namespace Scenario

section
variable {β β' : Type} [Http.Backend β] {x : Scenario β MemoryStore} {y : Scenario β' MemoryStore}
  {name : String} {p : Participant MemoryStore}

/-- The actions of the client of a name among all that have been carried out. -/
def performancesOf (x : Scenario β MemoryStore) (name : String) (acts : List (String × Action)) :
    List (Performance β MemoryStore) :=
  (x.performances (commandsOf acts)).filter (·.name = name)

/-- A client that is in two scenarios with one entry under its key; in the first one nobody else has
this key. -/
structure Beside (x : Scenario β MemoryStore) (y : Scenario β' MemoryStore) (name : String)
    (p : Participant MemoryStore) : Prop where
  shared : x.IsShared
  shared' : y.IsShared
  there : x.participant? name = some p
  there' : y.participant? name = some p
  apart : ∀ name' p', name' ≠ name → x.participant? name' = some p' →
    p'.client.key.text ≠ p.client.key.text
  entry_eq : y.shared.find? p.client.key.text = x.shared.find? p.client.key.text

/-- When another client acts in the first scenario, nothing changes for this one. -/
theorem Beside.act_other (h : x.Beside y name p) {name' : String} (hname : name' ≠ name)
    {p' : Participant MemoryStore} (hp' : x.participant? name' = some p') (a : Action) :
    (x.act name' p' a).2.Beside y name p := by
  have hown := h.shared.own_eq hp'
  refine ⟨h.shared.act hp' a, h.shared', ?_, h.there', fun name'' p'' hother hp'' => ?_, ?_⟩
  · rw [participant?_act h.shared hp', if_neg hname.symm]
    exact h.there
  · rw [participant?_act h.shared hp'] at hp''
    split at hp''
    · obtain rfl := Option.some.inj hp''
      rw [(x.performance name' p' a).remains.key]
      exact h.apart name' p' hname hp'
    · exact h.apart name'' p'' hother hp''
  · rw [act_of_own hown]
    refine h.entry_eq.trans (Eq.symm ?_)
    refine ((x.performance name' p' a).find?_after_of_ne
      (h.apart name' p' hname hp').symm).trans ?_
    rw [performance_of_own hown]

variable [Http.Backend β']

/-- When the client acts in both scenarios and gets the same answers, it does the same, and the
scenarios differ for it as little as before. -/
theorem Beside.act_own (h : x.Beside y name p) (a : Action)
    (hb : Http.Backend.Repeats y.backend (x.performance name p a).calls) :
    (x.performance name p a).IsLike (y.performance name p a) ∧
      (x.act name p a).2.Beside (y.act name p a).2 name
        ⟨(x.performance name p a).after.client, none⟩ ∧
      (y.act name p a).2.backend =
        Http.Backend.behind y.backend (x.performance name p a).calls := by
  have hown := h.shared.own_eq h.there
  obtain ⟨hlike, hbackend⟩ := (x.performance name p a).isLike (y.performance name p a) rfl rfl
    (by rw [performance_of_own hown, performance_of_own hown]; exact h.entry_eq) hb
  have hkey : (x.performance name p a).after.client.key = p.client.key :=
    (x.performance name p a).remains.key
  refine ⟨hlike, ⟨h.shared.act h.there a, h.shared'.act h.there' a, ?_, ?_, ?_, ?_⟩, ?_⟩
  · rw [participant?_act h.shared h.there, if_pos rfl]
  · rw [participant?_act h.shared' h.there', if_pos rfl, hlike.last_eq]
  · intro name' p' hother hp'
    rw [participant?_act h.shared h.there, if_neg hother] at hp'
    rw [hkey]
    exact h.apart name' p' hother hp'
  · rw [act_of_own hown, act_of_own hown, hkey]
    exact hlike.kept_eq
  · rw [act_of_own hown]
    exact hbackend

/-- A client does the same beside others as in a scenario in which only its own actions are carried
out, and in the end it is the same and has the same entry. -/
theorem Beside.forall₂ {acts : List (String × Action)} (h : x.Beside y name p)
    (hb : Http.Backend.Repeats y.backend ((x.performancesOf name acts).flatMap (·.calls))) :
    List.Forall₂ Performance.IsLike (x.performancesOf name acts)
        (y.performances (commandsOf (acts.filter (·.1 = name)))) ∧
      ∃ p', (x.run (commandsOf acts)).Beside (y.run (commandsOf (acts.filter (·.1 = name))))
        name p' := by
  induction acts generalizing x y p with
  | nil => exact ⟨.nil, p, h⟩
  | cons act acts ih =>
    obtain ⟨name', a⟩ := act
    by_cases hname : name' = name
    · -- the client acts in both scenarios
      subst hname
      obtain ⟨hstep, hrun⟩ := performances_act h.there a (commandsOf acts)
      obtain ⟨hstep', hrun'⟩ := performances_act h.there' a (commandsOf (acts.filter (·.1 = name')))
      have hown : x.performancesOf name' ((name', a) :: acts) =
          x.performance name' p a :: (x.act name' p a).2.performancesOf name' acts :=
        (congrArg (List.filter _) hstep).trans (List.filter_cons_of_pos (decide_eq_true rfl))
      rw [hown, List.flatMap_cons, Http.Backend.repeats_append] at hb
      obtain ⟨hlike, hbeside, hbackend⟩ := h.act_own a hb.1
      obtain ⟨hforall, hlast⟩ := ih hbeside (hbackend ▸ hb.2)
      rw [hown, List.filter_cons_of_pos (by simp), commandsOf_cons, commandsOf_cons, hstep', hrun,
        hrun']
      exact ⟨.cons hlike hforall, hlast⟩
    · -- another client acts in the first scenario, if it is there
      rw [List.filter_cons_of_neg (by simp [hname]), commandsOf_cons]
      cases hp' : x.participant? name' with
      | none =>
        obtain ⟨hstep, hrun⟩ := performances_act_of_none hp' a (commandsOf acts)
        have hown : x.performancesOf name ((name', a) :: acts) = x.performancesOf name acts :=
          congrArg (List.filter _) hstep
        rw [hown] at hb ⊢
        rw [hrun]
        exact ih h hb
      | some p' =>
        obtain ⟨hstep, hrun⟩ := performances_act hp' a (commandsOf acts)
        have hown : x.performancesOf name ((name', a) :: acts) =
            (x.act name' p' a).2.performancesOf name acts :=
          (congrArg (List.filter _) hstep).trans
            (List.filter_cons_of_neg (by simp [performance, hname]))
        rw [hown] at hb ⊢
        rw [hrun]
        exact ih (h.act_other hname hp' a) hb

end

/-! ## Clients of one identity -/

/-- Clients of one identity, each on a slot of its own, that share a store. -/
structure OnSlots {β σ : Type} (x : Scenario β σ) (server database username : String) : Prop where
  shared : x.IsShared
  key_eq : ∀ entry ∈ x.participants,
    entry.2.client.key = .derive server database username entry.2.client.slot
  slots_nodup : (x.participants.map (·.2.client.slot)).Nodup

/-- On different slots the keys of clients have different texts. -/
theorem OnSlots.text_ne {β σ : Type} {x : Scenario β σ} {server database username : String}
    (h : x.OnSlots server database username) {name name' : String} {p p' : Participant σ}
    (hname : name' ≠ name) (hp : x.participant? name = some p)
    (hp' : x.participant? name' = some p') : p'.client.key.text ≠ p.client.key.text := by
  have hslot : p'.client.slot ≠ p.client.slot := by
    intro heq
    have hsame := List.inj_on_of_nodup_map h.slots_nodup (mem_participants hp')
      (mem_participants hp) heq
    exact hname (congrArg Prod.fst hsame)
  rw [h.key_eq _ (mem_participants hp), h.key_eq _ (mem_participants hp')]
  exact SessionKey.text_derive_ne server database username hslot

/-- An action leaves the entries of a store alone that are not under the key of its client, and
depends on none of them. So clients of one identity on different slots, whose keys are all
different, act in turn as each of them acts alone on a store with nothing but its own entry, if it
gets the same answers, and in the end each client and its entry are the same as there. -/
theorem performances_alone {β : Type} [Http.Backend β] :
    (∀ q : Performance β MemoryStore,
      (∀ key, key ≠ q.key → q.after.store.find? key = q.store.find? key) ∧
      ∀ n : MemoryStore, n.find? q.key = q.store.find? q.key →
        q.IsLike { q with store := n } ∧
          ({ q with store := n } : Performance β MemoryStore).after.backend = q.after.backend) ∧
    ∀ (x : Scenario β MemoryStore) (server database username : String),
      x.OnSlots server database username →
      (∀ name name' p p', name' ≠ name → x.participant? name = some p →
        x.participant? name' = some p' → p'.client.key.text ≠ p.client.key.text) ∧
      ∀ (acts : List (String × Action)) (name : String) (p : Participant MemoryStore),
        x.participant? name = some p → ∀ (β' : Type) [Http.Backend β'] (b : β'),
        Http.Backend.Repeats b ((x.performancesOf name acts).flatMap (·.calls)) →
        let y : Scenario β' MemoryStore := ⟨b, x.shared.only p.client.key.text, [(name, p)]⟩
        let own := commandsOf (acts.filter (·.1 = name))
        List.Forall₂ Performance.IsLike (x.performancesOf name acts) (y.performances own) ∧
          ∃ p', (x.run (commandsOf acts)).participant? name = some p' ∧
            (y.run own).participant? name = some p' ∧
            (y.run own).shared.find? p'.client.key.text =
              (x.run (commandsOf acts)).shared.find? p'.client.key.text := by
  refine ⟨fun q => ⟨fun key => q.find?_after_of_ne, fun n hn => ?_⟩,
    fun x server database username h => ⟨fun _ _ _ _ => h.text_ne, ?_⟩⟩
  · obtain ⟨hrepeats, hbehind⟩ := q.happens.repeats
    obtain ⟨hlike, hbackend⟩ := q.isLike { q with store := n } rfl rfl hn hrepeats
    exact ⟨hlike, hbackend.trans hbehind⟩
  · intro acts name p hp β' _ b hb
    have hbeside : x.Beside (⟨b, x.shared.only p.client.key.text, [(name, p)]⟩ :
        Scenario β' MemoryStore) name p :=
      ⟨h.shared, List.forall_mem_singleton.2 (h.shared.own_eq hp), hp, List.lookup_cons_self,
        fun _ _ hname hp' => h.text_ne hname hp hp', x.shared.find?_only _⟩
    obtain ⟨hforall, p', hlast⟩ := hbeside.forall₂ hb
    exact ⟨hforall, p', hlast.there, hlast.there', hlast.entry_eq⟩

/-- A client that sends its requests between the login and the logout of another one on another slot
does the same as alone. -/
theorem performances_alone_twoSlots :
    ∃ (x : Scenario ScriptedBackend MemoryStore) (acts : List (String × Action))
      (p : Participant MemoryStore),
      x = run ⟨.granting ["B1SESSION=a"] "B1SESSION=b" 200, .empty, []⟩
        [.buildOn "a" 0, .buildOn "b" 1] ∧
      acts = [("a", .login), ("b", .request (.ok (.get "Items"))), ("a", .logout),
        ("b", .request (.ok (.get "Items")))] ∧
      x.OnSlots Config.twoSlots.server "DB" "manager" ∧ x.participant? "b" = some p ∧
      ((x.performancesOf "b" acts).map fun q => q.calls.map (·.purpose)) =
        [[.login, .business], [.business]] ∧
      Http.Backend.Repeats (ScriptedBackend.granting [] "B1SESSION=b" 200)
        ((x.performancesOf "b" acts).flatMap (·.calls)) ∧
      List.Forall₂ Performance.IsLike (x.performancesOf "b" acts)
        ((⟨.granting [] "B1SESSION=b" 200, x.shared.only p.client.key.text, [("b", p)]⟩ :
          Scenario ScriptedBackend MemoryStore).performances
            (commandsOf (acts.filter (·.1 = "b")))) := by
  let x : Scenario ScriptedBackend MemoryStore :=
    run ⟨.granting ["B1SESSION=a"] "B1SESSION=b" 200, .empty, []⟩
      [.buildOn "a" 0, .buildOn "b" 1]
  let acts : List (String × Action) := [("a", .login), ("b", .request (.ok (.get "Items"))),
    ("a", .logout), ("b", .request (.ok (.get "Items")))]
  have h : (x.participant? "b").isSome = true ∧
      (∀ entry ∈ x.participants, entry.2.own = none) ∧
      (∀ entry ∈ x.participants, entry.2.client.key =
        .derive Config.twoSlots.server "DB" "manager" entry.2.client.slot) ∧
      (x.participants.map (·.2.client.slot)).Nodup ∧
      ((x.performancesOf "b" acts).map fun q => q.calls.map (·.purpose)) =
        [[.login, .business], [.business]] ∧
      (Http.Backend.answers (ScriptedBackend.granting [] "B1SESSION=b" 200)
        (((x.performancesOf "b" acts).flatMap (·.calls)).map Call.request)).1 =
        ((x.performancesOf "b" acts).flatMap (·.calls)).map Call.outcome := by
    decide +kernel
  obtain ⟨hthere, hshared, hkey, hslots, hcalls, hrepeats⟩ := h
  obtain ⟨p, hp⟩ := Option.isSome_iff_exists.1 hthere
  have hx : x.OnSlots Config.twoSlots.server "DB" "manager" := ⟨hshared, hkey, hslots⟩
  exact ⟨x, acts, p, rfl, rfl, hx, hp, hcalls, hrepeats,
    ((performances_alone.2 x _ _ _ hx).2 acts "b" p hp ScriptedBackend _ hrepeats).1⟩

end Scenario

end ODataSession
