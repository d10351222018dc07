import Mathlib.Data.Set.Card
import ODataSession.Proofs.Session.Lasting

/-!
# Expiry in memory

The store in memory keeps an expired token until someone asks for it, and no answer tells. Whatever
its clock shows, it answers as an `EagerStore`, which drops every expired token whenever it reads
the clock. As long as no token expires that was put for some time, it answers as an `IdealStore`,
which has no clock and keeps just these tokens (`ClockedStore.unseenExpiry_after`).

Both stores are told from the store in memory by what can be had in it, which goes along with every
step: `ClockedStore.eager` with `StoreStep.run_eager`, and `MemoryStore.ideal`, where time stands
still, with `StoreStep.run_ideal`. That time may as well stand still is `ClockedStore.Resembles`.

What is kept is told from the history of the store. A step does to a key what `StoreStep.leaves`
says, whatever is under the others (`StoreStep.find?_run`). From this an induction on the history,
last step first, gives the put that an entry comes from (`MemoryStore.find?_after`).
-/

namespace ODataSession

/-! ## Steps -/

/-- What can be done with a store in memory. -/
inductive StoreStep
  | put (key token : String) (lifetime : Duration)
  | get (key : String)
  | has (key : String)
  | forget (key : String)
  | clear
  deriving DecidableEq, Repr, Inhabited

/-- What comes of a step. -/
inductive StoreAnswer
  | done (outcome : Except StoreError Unit)
  | token (outcome : Except StoreError (Option String))
  | presence (outcome : Except StoreError Bool)

/-- Stores that can be emptied. -/
class ClearableStore (σ : Type) extends SessionStore σ where
  clear : σ → σ

instance : ClearableStore MemoryStore where
  clear := MemoryStore.clear

instance : ClearableStore ClockedStore where
  clear := ClockedStore.clear

namespace StoreStep

/-- Whether a step decides what is under a key, whatever was there. -/
def settles (key : String) : StoreStep → Bool
  | put key' _ _ | forget key' => key' = key
  | clear => true
  | get _ | has _ => false

/-- Whether a step asks what is under a key. -/
def asksFor (key : String) : StoreStep → Bool
  | get key' | has key' => key' = key
  | put .. | forget _ | clear => false

section
variable {σ : Type} [ClearableStore σ]

/-- Carries out a step. -/
def run (m : σ) : StoreStep → StoreAnswer × σ
  | put key token lifetime => (SessionStore.put m key token lifetime).map .done id
  | get key => (SessionStore.get m key).map .token id
  | has key => (SessionStore.has m key).map .presence id
  | forget key => (SessionStore.forget m key).map .done id
  | clear => (.done (.ok ()), ClearableStore.clear m)

/-- The store behind a history of steps. -/
def after (m : σ) (history : List StoreStep) : σ :=
  history.foldl (fun m step => (run m step).2) m

/-- What comes of each of several steps. -/
def answers (m : σ) : List StoreStep → List StoreAnswer
  | [] => []
  | step :: steps => (run m step).1 :: answers (run m step).2 steps

/-- One more step behind a history. -/
theorem after_concat (m : σ) (history : List StoreStep) (step : StoreStep) :
    after m (history ++ [step]) = (run (after m history) step).2 := by
  simp only [after, List.foldl_append, List.foldl_cons, List.foldl_nil]

/-- Steps have the same answers in two stores if they have the same answers, one by one, in stores
that go along with one another. -/
theorem answers_eq_of_run {σ' : Type} [ClearableStore σ'] (view : σ → σ')
    (hrun : ∀ m step, run (view m) step = ((run m step).1, view (run m step).2)) (m : σ)
    (steps : List StoreStep) : answers (view m) steps = answers m steps := by
  induction steps generalizing m with
  | nil => rfl
  | cons step steps ih => rw [answers, answers, hrun, ih]

end

end StoreStep

/-! ## Stores that drop expired tokens at once -/

/-- A map of entries, and the clock that tells when they expire. -/
structure EagerStore where
  entry? : String → Option StoredToken
  clock : Clock

namespace EagerStore

/-- The map without entries. -/
def empty (clock : Clock) : EagerStore := ⟨fun _ => none, clock⟩

/-- Reads the clock, and drops what has expired. -/
def purge (m : EagerStore) : EagerStore where
  entry? key := (m.entry? key).filter (·.isLiveAt m.clock.read.1)
  clock := m.clock.read.2

instance : ClearableStore EagerStore where
  get m key := (.ok ((m.purge.entry? key).map StoredToken.token), m.purge)
  put m key token lifetime :=
    let entry : StoredToken := ⟨token, MemoryStore.expiry m.purge.clock.now lifetime⟩
    (.ok (), { m.purge with
      entry? := Function.update m.purge.entry? key
        (if entry.isLiveAt m.purge.clock.now then some entry else none) })
  forget m key := (.ok (), { m with entry? := Function.update m.entry? key none })
  clear m := empty m.clock

end EagerStore

/-- An entry that is live was live before. -/
theorem StoredToken.isLiveAt_of_le {t : StoredToken} {now now' : Instant} (hle : now ≤ now')
    (h : t.isLiveAt now' = true) : t.isLiveAt now = true :=
  decide_eq_true (lt_of_le_of_lt hle (of_decide_eq_true h))

/-- What is live at a later moment is live among what is live now. -/
theorem StoredToken.filter_filter_isLiveAt (t? : Option StoredToken) {now now' : Instant}
    (hle : now ≤ now') :
    (t?.filter (·.isLiveAt now)).filter (·.isLiveAt now') = t?.filter (·.isLiveAt now') := by
  cases t? with
  | none => rfl
  | some t =>
    rw [Option.filter_filter, Option.filter_some, Option.filter_some]
    cases h : t.isLiveAt now' with
    | true => rw [isLiveAt_of_le hle h, Bool.and_self]
    | false => rw [Bool.and_false]

namespace ClockedStore

/-- The entries that are live at the moment that was last read. -/
def eager (s : ClockedStore) : EagerStore where
  entry? key := (s.memory.find? key).filter (·.isLiveAt s.clock.now)
  clock := s.clock

variable (s : ClockedStore) (key : String)

/-- The entries that are live at the next reading. -/
theorem purge_eager : s.eager.purge =
    ⟨fun key => (s.memory.find? key).filter (·.isLiveAt s.clock.read.1), s.clock.read.2⟩ :=
  congrArg (EagerStore.mk · s.clock.read.2) <| funext fun key =>
    StoredToken.filter_filter_isLiveAt (s.memory.find? key) s.clock.now_le_read

/-- A question drops expired entries only. -/
theorem eager_get : (s.get key).2.eager = s.eager.purge := by
  rw [purge_eager]
  refine congrArg (EagerStore.mk · s.clock.read.2) (funext fun key' => ?_)
  change ((s.memory.getAt s.clock.read.1 key).2.find? key').filter
    (·.isLiveAt s.clock.read.2.now) = _
  rw [s.clock.now_read, MemoryStore.find?_getAt]
  split
  · rw [Option.filter_filter]
    simp only [Bool.and_self]
  · rfl

/-- What is put is there unless it expires at once, and the other entries stay. -/
theorem eager_put (token : String) (lifetime : Duration) :
    (SessionStore.put s.eager key token lifetime).2 = (s.put key token lifetime).eager := by
  change EagerStore.mk (Function.update s.eager.purge.entry? key _) _ = _
  rw [purge_eager]
  refine congrArg (EagerStore.mk · s.clock.read.2) (funext fun key' => ?_)
  change _ = ((s.memory.putAt s.clock.read.1 key token lifetime).find? key').filter
    (·.isLiveAt s.clock.read.2.now)
  rw [Function.update_apply, MemoryStore.find?_putAt]
  split
  · rw [Option.filter_some, s.clock.now_read]
  · rw [s.clock.now_read]

/-- What is dropped is gone, and the other entries stay. -/
theorem eager_erase :
    (s.erase key).eager = { s.eager with entry? := Function.update s.eager.entry? key none } := by
  refine congrArg (EagerStore.mk · s.clock) (funext fun key' => ?_)
  change ((s.memory.erase key).find? key').filter _ = _
  rw [Function.update_apply, MemoryStore.find?_erase]
  split <;> rfl

/-- What is handed out is what is live at the next reading. -/
theorem get_fst : (s.get key).1 = (s.eager.purge.entry? key).map StoredToken.token := by
  rw [purge_eager]
  exact s.memory.getAt_fst s.clock.read.1 key

end ClockedStore

namespace StoreStep

/-- A step has the same answer where expired tokens are dropped at once. -/
theorem run_eager (s : ClockedStore) (step : StoreStep) :
    run s.eager step = ((run s step).1, (run s step).2.eager) := by
  cases step with
  | put key token lifetime => exact congrArg (Prod.mk _) (s.eager_put key token lifetime)
  | get key =>
    change (StoreAnswer.token (.ok _), s.eager.purge) = (.token (.ok (s.get key).1), _)
    rw [s.get_fst]
    exact congrArg (Prod.mk _) (s.eager_get key).symm
  | has key =>
    change (StoreAnswer.presence (.ok (Option.isSome _)), s.eager.purge) =
      (.presence (.ok (s.get key).1.isSome), _)
    rw [s.get_fst]
    exact congrArg (Prod.mk _) (s.eager_get key).symm
  | forget key => exact congrArg (Prod.mk _) (s.eager_erase key).symm
  | clear => rfl

/-- Steps have the same answers where expired tokens are dropped at once. -/
theorem answers_eager (s : ClockedStore) (steps : List StoreStep) :
    answers s.eager steps = answers s steps :=
  answers_eq_of_run ClockedStore.eager run_eager s steps

end StoreStep

/-! ## Stores without expired tokens -/

/-- A map of tokens that can be had. -/
structure IdealStore where
  token? : String → Option String

namespace IdealStore

/-- The map without tokens. -/
def empty : IdealStore := ⟨fun _ => none⟩

/-- A token that is put for no time is not kept, but it takes the place of the one before. -/
instance : ClearableStore IdealStore where
  get m key := (.ok (m.token? key), m)
  put m key token lifetime :=
    (.ok (), ⟨Function.update m.token? key (if lifetime = .zero then none else some token)⟩)
  forget m key := (.ok (), ⟨Function.update m.token? key none⟩)
  clear _ := empty

end IdealStore

namespace MemoryStore

/-- What can be had in a store, with time standing still. -/
def ideal (m : MemoryStore) : IdealStore :=
  ⟨fun key => (m.getAt .origin key).1⟩

variable (m : MemoryStore) (key : String)

/-- Nothing can be had in the empty store. -/
theorem ideal_empty : empty.ideal = IdealStore.empty :=
  rfl

/-- What is put for some time can be had, and the rest stays. -/
theorem ideal_putAt (token : String) (lifetime : Duration) :
    (m.putAt .origin key token lifetime).ideal =
      ⟨Function.update m.ideal.token? key (if lifetime = .zero then none else some token)⟩ := by
  refine congrArg IdealStore.mk (funext fun key' => ?_)
  rw [getAt_fst, find?_putAt, Function.update_apply]
  split
  · simp only [Option.filter_some, isLiveAt_expiry]
    by_cases h : lifetime = .zero <;> simp [h]
  · exact (m.getAt_fst .origin key').symm

/-- What is dropped cannot be had, and the rest stays. -/
theorem ideal_erase : (m.erase key).ideal = ⟨Function.update m.ideal.token? key none⟩ := by
  refine congrArg IdealStore.mk (funext fun key' => ?_)
  rw [getAt_fst, find?_erase, Function.update_apply]
  split
  · rfl
  · exact (m.getAt_fst .origin key').symm

/-- A question changes nothing of what can be had. -/
theorem ideal_getAt : (m.getAt .origin key).2.ideal = m.ideal := by
  refine congrArg IdealStore.mk (funext fun key' => ?_)
  rw [getAt_fst, getAt_fst, find?_getAt]
  split
  · rw [Option.filter_filter]
    simp only [Bool.and_self]
  · rfl

end MemoryStore

namespace StoreStep

/-- A step has the same answer in the map of what can be had, and leads to that map again. -/
theorem run_ideal (m : MemoryStore) (step : StoreStep) :
    run m.ideal step = ((run m step).1, (run m step).2.ideal) := by
  cases step with
  | put key token lifetime => exact congrArg (Prod.mk _) (m.ideal_putAt key token lifetime).symm
  | get key => exact congrArg (Prod.mk _) (m.ideal_getAt key).symm
  | has key => exact congrArg (Prod.mk _) (m.ideal_getAt key).symm
  | forget key => exact congrArg (Prod.mk _) (m.ideal_erase key).symm
  | clear => rfl

/-- Steps have the same answers in the map of what can be had. -/
theorem answers_ideal (m : MemoryStore) (steps : List StoreStep) :
    answers m.ideal steps = answers m steps :=
  answers_eq_of_run MemoryStore.ideal run_ideal m steps

/-! ## Short runs -/

/-- The clock behind a step: it is read when a token is put or asked for. -/
def clockAfter (clock : Clock) : StoreStep → Clock
  | put .. | get _ | has _ => clock.read.2
  | forget _ | clear => clock

/-- A step puts no token, or one for a time that suits the clock when it is put. -/
def Lasts (clock : Clock) : StoreStep → Prop
  | put _ _ lifetime => clock.read.2.Suits lifetime
  | get _ | has _ | forget _ | clear => True

instance (clock : Clock) : (step : StoreStep) → Decidable (step.Lasts clock)
  | put _ _ lifetime => inferInstanceAs (Decidable (clock.read.2.Suits lifetime))
  | get _ | has _ | forget _ | clear => .isTrue trivial

/-- A run is over before any token expires in it that was put for some time. -/
def IsShort : Clock → List StoreStep → Prop
  | _, [] => True
  | clock, step :: steps => step.Lasts clock ∧ IsShort (step.clockAfter clock) steps

section
variable {s : ClockedStore} {m : MemoryStore} {step : StoreStep} {steps : List StoreStep}

/-- A step reads the clock or leaves it. -/
theorem clock_run : (run s step).2.clock = step.clockAfter s.clock := by
  cases step <;> rfl

/-- In a short run a step has the same answer as with time standing still. -/
theorem run_resembles (hs : s.Resembles m) (h : step.Lasts s.clock) :
    (run s step).1 = (run m step).1 ∧ (run s step).2.Resembles (run m step).2 := by
  cases step with
  | put key token lifetime => exact ⟨rfl, hs.put key token h⟩
  | get key =>
    obtain ⟨hanswer, hafter⟩ := hs.get key
    exact ⟨congrArg (fun token? => StoreAnswer.token (.ok token?)) hanswer, hafter⟩
  | has key =>
    obtain ⟨hanswer, hafter⟩ := hs.get key
    refine ⟨?_, hafter⟩
    exact congrArg (fun token? : Option String => StoreAnswer.presence (.ok token?.isSome)) hanswer
  | forget key => exact ⟨rfl, hs.erase key⟩
  | clear => exact ⟨rfl, .empty s.clock⟩

/-- A short run has the same answers as with time standing still. -/
theorem answers_resembles (hs : s.Resembles m) (h : IsShort s.clock steps) :
    answers s steps = answers m steps := by
  induction steps generalizing s m with
  | nil => rfl
  | cons step steps ih =>
    obtain ⟨hanswer, hafter⟩ := run_resembles hs h.1
    rw [answers, answers, hanswer, ih hafter (clock_run ▸ h.2)]

/-- A short run leaves the same tokens as with time standing still. -/
theorem after_resembles (hs : s.Resembles m) (h : IsShort s.clock steps) :
    (after s steps).Resembles (after m steps) := by
  induction steps generalizing s m with
  | nil => exact hs
  | cons step steps ih => exact ih (run_resembles hs h.1).2 (clock_run ▸ h.2)

end

/-! ## One key -/

/-- What a step leaves of what is under a key. -/
def leaves (now : Instant) (key : String) (kept : Option StoredToken) :
    StoreStep → Option StoredToken
  | put key' token lifetime =>
    if key = key' then some ⟨token, MemoryStore.expiry now lifetime⟩ else kept
  | get key' | has key' => if key = key' then kept.filter (·.isLiveAt now) else kept
  | forget key' => if key = key' then none else kept
  | clear => none

/-- What a step leaves of a key does not depend on the others. -/
theorem find?_run (m : MemoryStore) (step : StoreStep) (key : String) :
    (run m step).2.find? key = step.leaves .origin key (m.find? key) := by
  cases step with
  | put key' token lifetime => exact m.find?_putAt .origin key' token lifetime key
  | get key' | has key' => exact m.find?_getAt .origin key' key
  | forget key' => exact m.find?_erase key' key
  | clear => rfl

/-- So it is while time passes. -/
theorem find?_run_memory (s : ClockedStore) (step : StoreStep) (key : String) :
    (run s step).2.memory.find? key = step.leaves s.clock.read.1 key (s.memory.find? key) := by
  cases step with
  | put key' token lifetime => exact s.memory.find?_putAt s.clock.read.1 key' token lifetime key
  | get key' | has key' => exact s.memory.find?_getAt s.clock.read.1 key' key
  | forget key' => exact s.memory.find?_erase key' key
  | clear => rfl

section
variable {now : Instant} {key : String} {kept : Option StoredToken} {step : StoreStep}

/-- A step leaves a key as it is if it does not decide about it, and if it does not ask for it or
finds a live token there. -/
theorem leaves_eq_self (hsettles : step.settles key = false)
    (h : step.asksFor key = false ∨ ∀ entry ∈ kept, entry.isLiveAt now) :
    step.leaves now key kept = kept := by
  have hasked : ∀ key' : String,
      decide (key' = key) = false ∨ (∀ entry ∈ kept, entry.isLiveAt now) →
      (if key = key' then kept.filter (·.isLiveAt now) else kept) = kept := by
    rintro key' (hkey | hlive)
    · exact if_neg (Ne.symm (of_decide_eq_false hkey))
    · cases kept with
      | none => exact ite_self none
      | some entry => rw [Option.filter_some, if_pos (hlive entry rfl), ite_self]
  cases step with
  | put key' token lifetime => exact if_neg (Ne.symm (of_decide_eq_false hsettles))
  | get key' => exact hasked key' h
  | has key' => exact hasked key' h
  | forget key' => exact if_neg (Ne.symm (of_decide_eq_false hsettles))
  | clear => cases hsettles

/-- A step leaves an entry that it puts, or one that was there and that it has no say in. -/
theorem leaves_eq_some {entry : StoredToken} : step.leaves now key kept = some entry ↔
    (∃ token lifetime, step = put key token lifetime ∧
      entry = ⟨token, MemoryStore.expiry now lifetime⟩) ∨
    step.settles key = false ∧ (entry.isLiveAt now = false → step.asksFor key = false) ∧
      kept = some entry := by
  have hasked : ∀ key' : String,
      (if key = key' then kept.filter (·.isLiveAt now) else kept) = some entry ↔
        (entry.isLiveAt now = false → decide (key' = key) = false) ∧ kept = some entry := by
    intro key'
    by_cases hkey : key = key'
    · subst key'
      simp [and_comm]
    · simp [hkey, Ne.symm hkey]
  cases step with
  | put key' token lifetime =>
    by_cases hkey : key = key'
    · subst key'
      simpa [leaves, settles] using eq_comm
    · simp [leaves, settles, asksFor, hkey, Ne.symm hkey]
  | get key' => simpa [leaves, settles, asksFor] using hasked key'
  | has key' => simpa [leaves, settles, asksFor] using hasked key'
  | forget key' =>
    by_cases hkey : key = key'
    · simp [leaves, settles, hkey]
    · simp [leaves, settles, asksFor, hkey, Ne.symm hkey]
  | clear => simp [leaves, settles]

end

end StoreStep

/-! ## Histories -/

/-- The last put under a key in a history: none of the later steps decides about the key. -/
structure LastPut (history : List StoreStep) (key token : String) (lifetime : Duration)
    (later : List StoreStep) : Prop where
  eq_append : ∃ earlier, history = earlier ++ .put key token lifetime :: later
  unsettled : ∀ step ∈ later, step.settles key = false

/-- The last put under a key in a history is that of an entry that is still there: either it was for
some time, or nobody has asked for the key since. -/
def Counted (history : List StoreStep) (key token : String) (lifetime : Duration) : Prop :=
  ∃ later, LastPut history key token lifetime later ∧
    (lifetime = .zero → ∀ step ∈ later, step.asksFor key = false)

section
variable {history later : List StoreStep} {step : StoreStep} {key token : String}
  {lifetime : Duration}

/-- Nothing has been put before the first step. -/
theorem not_lastPut_nil : ¬ LastPut [] key token lifetime later := by
  rintro ⟨⟨earlier, h⟩, -⟩
  simp at h

/-- The last put of a history is its last step or the last put of what comes before. -/
theorem lastPut_concat : LastPut (history ++ [step]) key token lifetime later ↔
    (step = .put key token lifetime ∧ later = []) ∨
      ∃ later', later = later' ++ [step] ∧ step.settles key = false ∧
        LastPut history key token lifetime later' := by
  constructor
  · rintro ⟨⟨earlier, h⟩, hunsettled⟩
    rcases List.eq_nil_or_concat' later with rfl | ⟨later', last, rfl⟩
    · exact .inl ⟨(List.append_singleton_inj.1 h).2, rfl⟩
    · rw [← List.cons_append, ← List.append_assoc] at h
      obtain ⟨rfl, rfl⟩ := List.append_singleton_inj.1 h
      rw [List.forall_mem_append, List.forall_mem_singleton] at hunsettled
      exact .inr ⟨later', rfl, hunsettled.2, ⟨earlier, rfl⟩, hunsettled.1⟩
  · rintro (⟨rfl, rfl⟩ | ⟨later', rfl, hstep, ⟨earlier, rfl⟩, hunsettled⟩)
    · exact ⟨⟨history, rfl⟩, nofun⟩
    · refine ⟨⟨earlier, by simp⟩, ?_⟩
      rw [List.forall_mem_append, List.forall_mem_singleton]
      exact ⟨hunsettled, hstep⟩

/-- An entry is there behind a step that puts it, or if it was there and the step has no say in
it. -/
theorem counted_concat : Counted (history ++ [step]) key token lifetime ↔
    step = .put key token lifetime ∨
      step.settles key = false ∧ (lifetime = .zero → step.asksFor key = false) ∧
        Counted history key token lifetime := by
  constructor
  · rintro ⟨later, hput, hasks⟩
    rcases lastPut_concat.1 hput with ⟨rfl, -⟩ | ⟨later', rfl, hstep, hput⟩
    · exact .inl rfl
    · refine .inr ⟨hstep, fun h => ?_, later', hput, fun h => ?_⟩
      · exact (List.forall_mem_append.1 (hasks h)).2 step (List.mem_singleton_self step)
      · exact (List.forall_mem_append.1 (hasks h)).1
  · rintro (rfl | ⟨hstep, hasked, later, hput, hasks⟩)
    · exact ⟨[], lastPut_concat.2 (.inl ⟨rfl, rfl⟩), fun _ => nofun⟩
    · refine ⟨later ++ [step], lastPut_concat.2 (.inr ⟨later, rfl, hstep, hput⟩), fun h => ?_⟩
      rw [List.forall_mem_append, List.forall_mem_singleton]
      exact ⟨hasks h, hasked h⟩

end

namespace MemoryStore

/-- What is under a key behind a history, with time standing still: the entry of the last put, if it
is still there. -/
theorem find?_after (history : List StoreStep) (key : String) (entry : StoredToken) :
    (StoreStep.after empty history).find? key = some entry ↔
      ∃ token lifetime, Counted history key token lifetime ∧
        entry = ⟨token, expiry .origin lifetime⟩ := by
  induction history using List.reverseRecOn with
  | nil =>
    refine iff_of_false (Option.some_ne_none entry ∘ Eq.symm) ?_
    rintro ⟨_, _, ⟨_, hput, -⟩, -⟩
    exact not_lastPut_nil hput
  | append_singleton history step ih =>
    rw [StoreStep.after_concat, StoreStep.find?_run, StoreStep.leaves_eq_some, ih]
    constructor
    · rintro (⟨token, lifetime, rfl, rfl⟩ | ⟨hsettles, hasks, token, lifetime, hcounted, rfl⟩)
      · exact ⟨token, lifetime, counted_concat.2 (.inl rfl), rfl⟩
      · -- an entry is expired just when it was put for no time
        refine ⟨token, lifetime, counted_concat.2 (.inr ⟨hsettles, fun h => ?_, hcounted⟩), rfl⟩
        exact hasks ((isLiveAt_expiry token lifetime).trans (by simp [h]))
    · rintro ⟨token, lifetime, hcounted, rfl⟩
      rcases counted_concat.1 hcounted with rfl | ⟨hsettles, hasks, hcounted⟩
      · exact .inl ⟨token, lifetime, rfl, rfl⟩
      · refine .inr ⟨hsettles, fun h => hasks ?_, token, lifetime, hcounted, rfl⟩
        simpa using h

/-- The token that can be had behind a history, with time standing still, is that of the last put,
if it was for some time. -/
theorem getAt_after (history : List StoreStep) (key token : String) :
    ((StoreStep.after empty history).getAt .origin key).1 = some token ↔
      ∃ lifetime later, LastPut history key token lifetime later ∧ lifetime ≠ .zero := by
  rw [getAt_fst, Option.map_eq_some_iff]
  constructor
  · rintro ⟨entry, hentry, rfl⟩
    obtain ⟨hfind, hlive⟩ := Option.filter_eq_some_iff.1 hentry
    obtain ⟨token, lifetime, ⟨later, hput, -⟩, rfl⟩ := (find?_after history key entry).1 hfind
    exact ⟨lifetime, later, hput, by simpa using hlive⟩
  · rintro ⟨lifetime, later, hput, hne⟩
    have hfind := (find?_after history key _).2
      ⟨token, lifetime, ⟨later, hput, fun h => absurd h hne⟩, rfl⟩
    exact ⟨_, Option.filter_eq_some_iff.2 ⟨hfind, by simpa using hne⟩, rfl⟩

/-- As many tokens are counted as there are keys with something under them. -/
theorem encard_find? (m : MemoryStore) :
    Set.encard {key | ∃ entry, m.find? key = some entry} = m.size := by
  have hkeys : {key | ∃ entry, m.find? key = some entry} =
      ((m.entries.map Prod.fst).toFinset : Set String) := by
    ext key
    rw [Set.mem_ofPred_eq, ← Option.isSome_iff_exists, find?, List.lookup_isSome_iff]
    simp
  rw [hkeys, Set.encard_coe_eq_coe_finsetCard, List.toFinset_card_of_nodup m.keys_nodup,
    List.length_map]
  rfl

/-- What is counted is the keys whose last put has neither been undone nor been found expired. -/
theorem size_after (history : List StoreStep) : (StoreStep.after empty history).size =
    Set.encard {key | ∃ token lifetime, Counted history key token lifetime} := by
  rw [← encard_find?]
  refine congrArg Set.encard (Set.ext fun key => ?_)
  constructor
  · rintro ⟨entry, hfind⟩
    obtain ⟨token, lifetime, hcounted, -⟩ := (find?_after history key entry).1 hfind
    exact ⟨token, lifetime, hcounted⟩
  · rintro ⟨token, lifetime, hcounted⟩
    exact ⟨_, (find?_after history key _).2 ⟨token, lifetime, hcounted, rfl⟩⟩

end MemoryStore

/-- A clock that shows three moments within a minute, and then stands still. -/
def Clock.minute : Clock where
  now := .origin
  upcoming := [.origin, ⟨nanosecondsPerSecond, by decide⟩, ⟨60 * nanosecondsPerSecond, by decide⟩]
  ascending := by decide

namespace ClockedStore

open StoreStep

/-- The store behind a history of steps, with nothing to be seen of the tokens that have expired
where these are the ones that were put for no time. -/
structure UnseenExpiry (clock : Clock) (history : List StoreStep) : Prop where
  /-- The store has answered as one that never keeps an expired token. -/
  answers_eq : answers (empty clock) history = answers IdealStore.empty history
  /-- What can be had is the token of the last put, if it was for some time. -/
  had : ∀ key, ∃ token?,
    (SessionStore.get (after (empty clock) history) key).1 = .ok token? ∧
      (SessionStore.has (after (empty clock) history) key).1 = .ok token?.isSome ∧
      ∀ token, token? = some token ↔
        ∃ lifetime later, LastPut history key token lifetime later ∧ lifetime ≠ .zero
  /-- What is counted is the keys whose last put has neither been undone nor been found expired. -/
  size_eq : (after (empty clock) history).memory.size =
    Set.encard {key | ∃ token lifetime, Counted history key token lifetime}

/-- A step touches no key that it does not name, nor a token that it finds live. -/
theorem find?_run_eq_self (s : ClockedStore) {step : StoreStep} {key : String}
    (hsettles : step.settles key = false)
    (h : step.asksFor key = false ∨
      ∀ entry ∈ s.memory.find? key, entry.isLiveAt s.clock.read.1) :
    (run s step).2.memory.find? key = s.memory.find? key := by
  rw [find?_run_memory]
  exact leaves_eq_self hsettles h

/-- Nothing is ever to be seen of the expired tokens in a store in memory. Whatever its clock shows,
it answers as a store that drops them at once, and a step touches no key that it does not name, nor
a token that it finds live. In a run so short that no token expires but those that are put for no
time, it answers as if there were no clock, and it counts accordingly. -/
theorem unseenExpiry_after (clock : Clock) (history : List StoreStep) :
    answers (empty clock) history = answers (EagerStore.empty clock) history ∧
    (∀ (step : StoreStep) (key : String), step.settles key = false →
      step.asksFor key = false ∨ (∀ entry ∈ (after (empty clock) history).memory.find? key,
        entry.isLiveAt (after (empty clock) history).clock.read.1) →
      (after (empty clock) (history ++ [step])).memory.find? key =
        (after (empty clock) history).memory.find? key) ∧
    (IsShort clock history → UnseenExpiry clock history) := by
  refine ⟨(answers_eager (empty clock) history).symm, fun step key hsettles h => ?_,
    fun hshort => ?_⟩
  · rw [after_concat]
    exact find?_run_eq_self _ hsettles h
  · have hstart : (empty clock).Resembles .empty := .empty clock
    have hafter := after_resembles hstart hshort
    refine ⟨?_, fun key => ⟨_, rfl, rfl, fun token => ?_⟩, ?_⟩
    · rw [answers_resembles hstart hshort, ← MemoryStore.ideal_empty, answers_ideal]
    · rw [← MemoryStore.getAt_after]
      exact Eq.congr_left (hafter.get key).1
    · rw [hafter.size_eq, MemoryStore.size_after]

/-- Within a minute, a token that is put for the longest span there is can be had, one that is put
for no time cannot, and one that is dropped is gone. -/
theorem unseenExpiry_after_minute :
    ∃ history : List StoreStep,
      history = [.put "a" "B1SESSION=a" .longest, .put "b" "B1SESSION=b" .zero,
        .put "c" "B1SESSION=c" (.ofSeconds 1800), .forget "c", .has "b"] ∧
      IsShort .minute history ∧ UnseenExpiry .minute history ∧
      (after (empty .minute) history).memory.size = 1 ∧
      ((after (empty .minute) history).get "a").1 = some "B1SESSION=a" := by
  let history : List StoreStep := [.put "a" "B1SESSION=a" .longest, .put "b" "B1SESSION=b" .zero,
    .put "c" "B1SESSION=c" (.ofSeconds 1800), .forget "c", .has "b"]
  have hshort : IsShort .minute history :=
    ⟨by decide, by decide, by decide, trivial, trivial, trivial⟩
  obtain ⟨-, -, hunseen⟩ := unseenExpiry_after .minute history
  exact ⟨history, rfl, hshort, hunseen hshort, by decide +kernel, by decide +kernel⟩

end ClockedStore

end ODataSession
