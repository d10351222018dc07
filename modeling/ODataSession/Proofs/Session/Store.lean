import Mathlib.Data.List.Forall2
import ODataSession.Rehearsal.FailingStore
import ODataSession.Session.ClockedStore

/-!
# What stores keep

A store that does not fail has something under a key or nothing, whoever asks for it:
`ReliableStore` says what its operations do to that. An expired token may be dropped at any
question, so that a question keeps what is there or drops it, and what is handed out is what is
there. The store in memory is such a store, and it drops nothing but expired tokens. That it touches
one key at a time is what an `EntryStore` asks for beyond that. Both hold of a store in memory
whether or not time passes between two questions; that no token expires in between is asked of a
`SteadyStore` only.

Less is asked of an `HonestStore`, which may fail: it hands out nothing but what was put there, and
nothing that it was told to drop and has dropped.
-/

namespace ODataSession

/-- Stores that do not fail. -/
class ReliableStore (σ : Type) extends SessionStore σ where
  /-- The token under a key, live or expired. -/
  kept : σ → String → Option String
  get_ok : ∀ (m : σ) (key : String), ∃ token?, (get m key).1 = .ok token? ∧
    ∀ token ∈ token?, kept m key = some token
  kept_get : ∀ (m : σ) (key key' : String),
    kept (get m key).2 key' = kept m key' ∨ kept (get m key).2 key' = none
  put_ok : ∀ (m : σ) (key token : String) (lifetime : Duration),
    (put m key token lifetime).1 = .ok ()
  kept_put : ∀ (m : σ) (key token : String) (lifetime : Duration) (key' : String),
    kept (put m key token lifetime).2 key' = if key' = key then some token else kept m key'
  forget_ok : ∀ (m : σ) (key : String), (forget m key).1 = .ok ()
  kept_forget : ∀ (m : σ) (key key' : String),
    kept (forget m key).2 key' = if key' = key then none else kept m key'
  has_ok : ∀ (m : σ) (key : String), ∃ present, (has m key).1 = .ok present
  kept_has : ∀ (m : σ) (key key' : String),
    kept (has m key).2 key' = kept m key' ∨ kept (has m key).2 key' = none

/-- Stores that do not fail and that have a token to hand out when they have said so. -/
class SteadyStore (σ : Type) extends ReliableStore σ where
  get_has : ∀ (m : σ) (key : String), (has m key).1 = .ok true →
    ∃ token, (get (has m key).2 key).1 = .ok (some token)

/-- Of lists with values in a relation under the same keys, such values are found under a key. -/
theorem optionRel_lookup {α α' : Type} {R : α → α' → Prop} {l : List (String × α)}
    {l' : List (String × α')}
    (h : List.Forall₂ (fun entry entry' => entry.1 = entry'.1 ∧ R entry.2 entry'.2) l l')
    (key : String) : Option.Rel R (l.lookup key) (l'.lookup key) := by
  induction h with
  | nil => exact .none
  | @cons entry entry' _ _ hentry _ ih =>
    obtain ⟨hkey, hvalue⟩ := hentry
    rw [List.lookup_cons, List.lookup_cons, hkey]
    cases key == entry'.1 with
    | false => exact ih
    | true => exact .some hvalue

namespace MemoryStore

/-! ## Lifetimes -/

/-- A token that is put for no time expires at once. -/
@[simp] theorem expiry_zero (now : Instant) : expiry now .zero = now := by
  have hzero : (min Duration.zero longestLifetime).nanoseconds = 0 := by decide
  have hnow : now.after? (min .zero longestLifetime) = some now := by
    simp only [Instant.after?, hzero, Nat.add_zero, dif_pos now.isLt]
  rw [expiry, hnow, Option.getD_some]

/-- A token expires when its time is over, or after the longest time if that is shorter, provided
that this can be counted. -/
theorem nanoseconds_expiry {now : Instant} {lifetime : Duration}
    (h : now.nanoseconds + min lifetime.nanoseconds longestLifetime.nanoseconds < Instant.size) :
    (expiry now lifetime).nanoseconds =
      now.nanoseconds + min lifetime.nanoseconds longestLifetime.nanoseconds := by
  rw [← Duration.nanoseconds_min] at h ⊢
  rw [expiry, Instant.after?, dif_pos h, Option.getD_some]

/-- With time standing still, a token is live unless it was put for no time. -/
@[simp] theorem isLiveAt_expiry (token : String) (lifetime : Duration) :
    (⟨token, expiry .origin lifetime⟩ : StoredToken).isLiveAt .origin =
      decide (lifetime ≠ .zero) := by
  refine decide_eq_decide.2 ⟨?_, fun hne => ?_⟩
  · rintro hlive rfl
    rw [expiry_zero] at hlive
    exact Nat.lt_irrefl _ hlive
  · have hpos : 0 < lifetime.nanoseconds := Nat.pos_of_ne_zero fun h => hne (Duration.ext h)
    have hlongest : 0 < longestLifetime.nanoseconds := by decide
    have hcount : Instant.origin.nanoseconds +
        min lifetime.nanoseconds longestLifetime.nanoseconds < Instant.size :=
      Nat.lt_of_le_of_lt (Nat.add_le_add_left (Nat.min_le_right ..) _) (by decide)
    change Instant.origin.nanoseconds < _
    rw [nanoseconds_expiry hcount]
    exact Nat.lt_add_of_pos_right (Nat.lt_min.2 ⟨hpos, hlongest⟩)

/-! ## Tokens in memory -/

/-- Entries under other keys are found where those under one key are left out. -/
theorem lookup_filter {α : Type} (entries : List (String × α)) (key key' : String) :
    (entries.filter (·.1 ≠ key)).lookup key' =
      if key' = key then none else entries.lookup key' := by
  induction entries with
  | nil => split <;> rfl
  | cons entry entries ih =>
    obtain ⟨k, a⟩ := entry
    rw [List.filter_cons, List.lookup_cons]
    by_cases hk : k = key
    · subst hk
      rw [if_neg (by simp), ih]
      by_cases hkey : key' = k
      · rw [if_pos hkey, if_pos hkey]
      · rw [if_neg hkey, if_neg hkey, beq_eq_false_iff_ne.2 hkey]
    · rw [if_pos (by simpa using hk), List.lookup_cons, ih]
      by_cases hkey : key' = key
      · subst hkey
        rw [if_pos rfl, if_pos rfl, beq_eq_false_iff_ne.2 (Ne.symm hk)]
      · rw [if_neg hkey, if_neg hkey]

section
variable (m : MemoryStore) (now : Instant) (key token : String) (lifetime : Duration)
  (key' : String)

/-- Nothing is found under a key that has been erased, and the rest stays. -/
theorem find?_erase :
    (m.erase key).find? key' = if key' = key then none else m.find? key' :=
  lookup_filter m.entries key key'

/-- What has been put under a key is found there, and the rest stays. -/
theorem find?_putAt : (m.putAt now key token lifetime).find? key' =
    if key' = key then some ⟨token, expiry now lifetime⟩ else m.find? key' := by
  change ((key, _) :: (m.erase key).entries).lookup key' = _
  rw [List.lookup_cons]
  by_cases h : key' = key
  · rw [if_pos h, beq_iff_eq.2 h]
  · rw [if_neg h, beq_eq_false_iff_ne.2 h]
    exact (m.find?_erase key key').trans (if_neg h)

/-- What is handed out is the live token that is found. -/
theorem getAt_fst : (m.getAt now key).1 =
    ((m.find? key).filter (·.isLiveAt now)).map StoredToken.token := by
  unfold getAt
  cases m.find? key with
  | none => rfl
  | some entry => cases h : entry.isLiveAt now <;> simp [h, Option.filter]

/-- A question drops the entry that it asks for if it is expired, and no other one. -/
theorem find?_getAt : (m.getAt now key).2.find? key' =
    if key' = key then (m.find? key').filter (·.isLiveAt now) else m.find? key' := by
  by_cases h : key' = key
  · subst h
    rw [if_pos rfl]
    unfold getAt
    cases hfind : m.find? key' with
    | none => exact hfind
    | some entry =>
      cases hlive : entry.isLiveAt now with
      | true => simp only [hlive, reduceIte, hfind, Option.filter_some]
      | false => simp [hlive, find?_erase, Option.filter_some]
  · rw [if_neg h]
    unfold getAt
    split
    · split
      · rfl
      · exact (m.find?_erase key key').trans (if_neg h)
    · rfl

/-- A key under which nothing live was found has nothing to hand out at any moment. -/
theorem getAt_fst_eq_none (h : (m.getAt now key).1 = none) (now' : Instant) :
    ((m.getAt now key).2.getAt now' key).1 = none := by
  rw [getAt_fst, Option.map_eq_none_iff] at h
  rw [getAt_fst, find?_getAt, if_pos rfl, h]
  rfl

/-- A question is answered in the same way when it is asked again at the same moment. -/
theorem getAt_getAt_fst : ((m.getAt now key).2.getAt now key).1 = (m.getAt now key).1 := by
  rw [getAt_fst, getAt_fst, find?_getAt, if_pos rfl, Option.filter_filter]
  simp only [Bool.and_self]

end

/-! ## Related stores -/

/-- Stores with related entries under the same keys. -/
def Related (R : StoredToken → StoredToken → Prop) (m m' : MemoryStore) : Prop :=
  List.Forall₂ (fun entry entry' => entry.1 = entry'.1 ∧ R entry.2 entry'.2) m.entries m'.entries

namespace Related

variable {R : StoredToken → StoredToken → Prop} {m m' : MemoryStore}

/-- Entries are dropped from both stores. -/
theorem erase (h : m.Related R m') (key : String) : (m.erase key).Related R (m'.erase key) := by
  refine List.rel_filter ?_ h
  intro entry entry' hentry
  simp only [hentry.1]

/-- Related entries are kept in both stores. -/
theorem insert (h : m.Related R m') (key : String) {entry entry' : StoredToken}
    (hentry : R entry entry') : (m.insert key entry).Related R (m'.insert key entry') :=
  .cons ⟨rfl, hentry⟩ (h.erase key)

/-- Questions at moments at which the same entries are live hand out related tokens, or none. -/
theorem getAt {T : String → String → Prop} {now now' : Instant} (h : m.Related R m')
    (htoken : ∀ entry entry', R entry entry' → T entry.token entry'.token)
    (hlive : ∀ entry entry', R entry entry' → entry.isLiveAt now = entry'.isLiveAt now')
    (key : String) : Option.Rel T (m.getAt now key).1 (m'.getAt now' key).1 ∧
      (m.getAt now key).2.Related R (m'.getAt now' key).2 := by
  have hfind : Option.Rel R (m.find? key) (m'.find? key) := optionRel_lookup h key
  unfold MemoryStore.getAt
  generalize m.find? key = entry?, m'.find? key = entry?' at hfind
  cases hfind with
  | none => exact ⟨.none, h⟩
  | @some entry entry' hentry =>
    simp only [hlive entry entry' hentry]
    cases entry'.isLiveAt now' with
    | true => exact ⟨.some (htoken entry entry' hentry), h⟩
    | false => exact ⟨.none, h.erase key⟩

end Related

/-! ## Kept tokens -/

section
variable (m : MemoryStore) (now : Instant) (key token : String) (lifetime : Duration)
  (key' : String)

/-- The token under a key, live or expired. -/
def token? : Option String :=
  (m.find? key).map StoredToken.token

/-- What is handed out is the token that is there. -/
theorem token?_of_getAt_eq_some (h : (m.getAt now key).1 = some token) :
    m.token? key = some token := by
  rw [getAt_fst, Option.map_eq_some_iff] at h
  obtain ⟨entry, hentry, rfl⟩ := h
  rw [token?, Option.eq_some_of_filter_eq_some hentry]
  rfl

/-- A question leaves a token as it is or drops it. -/
theorem token?_getAt : (m.getAt now key).2.token? key' = m.token? key' ∨
    (m.getAt now key).2.token? key' = none := by
  rw [token?, token?, find?_getAt]
  split
  · cases h : (m.find? key').filter (·.isLiveAt now) with
    | none => exact .inr rfl
    | some entry => exact .inl (congrArg _ (Option.eq_some_of_filter_eq_some h).symm)
  · exact .inl rfl

/-- A token that has been put is there, and the others stay. -/
theorem token?_putAt : (m.putAt now key token lifetime).token? key' =
    if key' = key then some token else m.token? key' := by
  rw [token?, find?_putAt]
  split <;> rfl

/-- A token that has been erased is gone, and the others stay. -/
theorem token?_erase :
    (m.erase key).token? key' = if key' = key then none else m.token? key' := by
  rw [token?, find?_erase]
  split <;> rfl

end

instance : ReliableStore MemoryStore where
  kept := token?
  get_ok m key := ⟨_, rfl, fun token h => m.token?_of_getAt_eq_some .origin key token h⟩
  kept_get m key key' := m.token?_getAt .origin key key'
  put_ok _ _ _ _ := rfl
  kept_put m key token lifetime key' := m.token?_putAt .origin key token lifetime key'
  forget_ok _ _ := rfl
  kept_forget m key key' := m.token?_erase key key'
  has_ok _ _ := ⟨_, rfl⟩
  kept_has m key key' := m.token?_getAt .origin key key'

instance : SteadyStore MemoryStore where
  get_has m key h := by
    obtain ⟨token, htoken⟩ := Option.isSome_iff_exists.1 (Except.ok.inj h)
    exact ⟨token, congrArg Except.ok ((m.getAt_getAt_fst .origin key).trans htoken)⟩

end MemoryStore

instance : ReliableStore ClockedStore where
  kept s key := s.memory.token? key
  get_ok s key :=
    ⟨_, rfl, fun token h => s.memory.token?_of_getAt_eq_some s.clock.read.1 key token h⟩
  kept_get s key key' := s.memory.token?_getAt s.clock.read.1 key key'
  put_ok _ _ _ _ := rfl
  kept_put s key token lifetime key' :=
    s.memory.token?_putAt s.clock.read.1 key token lifetime key'
  forget_ok _ _ := rfl
  kept_forget s key key' := s.memory.token?_erase key key'
  has_ok _ _ := ⟨_, rfl⟩
  kept_has s key key' := s.memory.token?_getAt s.clock.read.1 key key'

/-! ## Stores with entries -/

/-- Stores that do not fail, with an entry or none under each key. No operation on one key touches
the entries under others, and a question has no live token to hand out where it had none before. -/
class EntryStore (σ : Type) extends ReliableStore σ where
  /-- What is stored under a key, live or expired. -/
  Entry : Type
  entry : σ → String → Option Entry
  has_eq : ∀ (m : σ) (key : String), (has m key).1 = (get m key).1.map Option.isSome
  get_get : ∀ (m : σ) (key : String), (get m key).1 = .ok none →
    (get (get m key).2 key).1 = .ok none
  entry_get_of_ne : ∀ (m : σ) {key key' : String}, key' ≠ key →
    entry (get m key).2 key' = entry m key'
  entry_has_of_ne : ∀ (m : σ) {key key' : String}, key' ≠ key →
    entry (has m key).2 key' = entry m key'
  entry_put_of_ne : ∀ (m : σ) {key key' : String} (token : String) (lifetime : Duration),
    key' ≠ key → entry (put m key token lifetime).2 key' = entry m key'
  entry_forget : ∀ (m : σ) (key key' : String),
    entry (forget m key).2 key' = if key' = key then none else entry m key'

instance : EntryStore MemoryStore where
  Entry := StoredToken
  entry m key := m.find? key
  has_eq _ _ := rfl
  get_get m key h :=
    congrArg Except.ok (m.getAt_fst_eq_none .origin key (Except.ok.inj h) .origin)
  entry_get_of_ne m key _ h := (m.find?_getAt .origin key _).trans (if_neg h)
  entry_has_of_ne m key _ h := (m.find?_getAt .origin key _).trans (if_neg h)
  entry_put_of_ne m key _ token lifetime h :=
    (m.find?_putAt .origin key token lifetime _).trans (if_neg h)
  entry_forget m key key' := m.find?_erase key key'

instance : EntryStore ClockedStore where
  Entry := StoredToken
  entry s key := s.memory.find? key
  has_eq _ _ := rfl
  get_get s key h := congrArg Except.ok
    (s.memory.getAt_fst_eq_none s.clock.read.1 key (Except.ok.inj h) s.clock.read.2.read.1)
  entry_get_of_ne s key _ h := (s.memory.find?_getAt s.clock.read.1 key _).trans (if_neg h)
  entry_has_of_ne s key _ h := (s.memory.find?_getAt s.clock.read.1 key _).trans (if_neg h)
  entry_put_of_ne s key _ token lifetime h :=
    (s.memory.find?_putAt s.clock.read.1 key token lifetime _).trans (if_neg h)
  entry_forget s key key' := s.memory.find?_erase key key'

/-! ## Stores that may fail -/

/-- Stores that make nothing up, even when they fail. -/
class HonestStore (σ : Type) [SessionStore σ] where
  /-- A token may be had under a key, now or later. -/
  Keeps : σ → String → String → Prop
  keeps_of_get {m : σ} {key token : String} :
    (SessionStore.get m key).1 = .ok (some token) → Keeps m key token
  of_keeps_get {m : σ} {key key' token : String} :
    Keeps (SessionStore.get m key).2 key' token → Keeps m key' token
  of_keeps_has {m : σ} {key key' token : String} :
    Keeps (SessionStore.has m key).2 key' token → Keeps m key' token
  of_keeps_put {m : σ} {key token : String} {lifetime : Duration} {key' token' : String} :
    Keeps (SessionStore.put m key token lifetime).2 key' token' →
      Keeps m key' token' ∨ token' = token
  of_keeps_forget {m : σ} {key key' token : String} :
    Keeps (SessionStore.forget m key).2 key' token → Keeps m key' token
  not_keeps_forget {m : σ} {key token : String} :
    (SessionStore.forget m key).1 = .ok () → ¬ Keeps (SessionStore.forget m key).2 key token

/-- A store that does not fail makes nothing up. -/
instance ReliableStore.honest {σ : Type} [ReliableStore σ] : HonestStore σ where
  Keeps m key token := kept m key = some token
  keeps_of_get {m key token} h := by
    obtain ⟨token?, hget, hkept⟩ := get_ok m key
    obtain rfl := Except.ok.inj (h.symm.trans hget)
    exact hkept token rfl
  of_keeps_get {m key key' token} h := by
    rcases kept_get m key key' with hkey | hkey
    · exact hkey.symm.trans h
    · cases hkey.symm.trans h
  of_keeps_has {m key key' token} h := by
    rcases kept_has m key key' with hkey | hkey
    · exact hkey.symm.trans h
    · cases hkey.symm.trans h
  of_keeps_put {m key token lifetime key' token'} h := by
    rw [kept_put] at h
    split at h
    · exact .inr (Option.some.inj h).symm
    · exact .inl h
  of_keeps_forget {m key key' token} h := by
    rw [kept_forget] at h
    split at h
    · cases h
    · exact h
  not_keeps_forget {m key token} _ h := by
    rw [kept_forget, if_pos rfl] at h
    cases h

namespace FailingStore

/-- An operation fails and changes nothing, or it is carried out. -/
theorem guarded_eq {α : Type} (s : FailingStore) (operation : StoreOperation)
    (run : MemoryStore → Except StoreError α × MemoryStore) :
    (∃ e, s.guarded operation run = (.error e, s)) ∨
      s.guarded operation run = ((run s.inner).1, { s with inner := (run s.inner).2 }) := by
  unfold guarded
  split
  · exact .inl ⟨_, rfl⟩
  · exact .inr rfl

/-- A store whose operations fail makes nothing up. -/
instance : HonestStore FailingStore where
  Keeps s key token := HonestStore.Keeps s.inner key token
  keeps_of_get {s key token} h := by
    change (s.guarded .get fun m => SessionStore.get m key).1 = _ at h
    rcases s.guarded_eq .get fun m => SessionStore.get m key with ⟨e, heq⟩ | heq
    · rw [heq] at h
      cases h
    · rw [heq] at h
      exact HonestStore.keeps_of_get h
  of_keeps_get {s key key' token} h := by
    change HonestStore.Keeps
      (s.guarded .get fun m => SessionStore.get m key).2.inner key' token at h
    rcases s.guarded_eq .get fun m => SessionStore.get m key with ⟨e, heq⟩ | heq
    · rwa [heq] at h
    · rw [heq] at h
      exact HonestStore.of_keeps_get h
  of_keeps_has {s key key' token} h := by
    change HonestStore.Keeps
      (s.guarded .get fun m => SessionStore.get m key).2.inner key' token at h
    rcases s.guarded_eq .get fun m => SessionStore.get m key with ⟨e, heq⟩ | heq
    · rwa [heq] at h
    · rw [heq] at h
      exact HonestStore.of_keeps_get h
  of_keeps_put {s key token lifetime key' token'} h := by
    change HonestStore.Keeps
      (s.guarded .put fun m => SessionStore.put m key token lifetime).2.inner key' token' at h
    rcases s.guarded_eq .put fun m => SessionStore.put m key token lifetime with ⟨e, heq⟩ | heq
    · rw [heq] at h
      exact .inl h
    · rw [heq] at h
      exact HonestStore.of_keeps_put h
  of_keeps_forget {s key key' token} h := by
    change HonestStore.Keeps
      (s.guarded .forget fun m => SessionStore.forget m key).2.inner key' token at h
    rcases s.guarded_eq .forget fun m => SessionStore.forget m key with ⟨e, heq⟩ | heq
    · rwa [heq] at h
    · rw [heq] at h
      exact HonestStore.of_keeps_forget h
  not_keeps_forget {s key token} hok h := by
    change (s.guarded .forget fun m => SessionStore.forget m key).1 = _ at hok
    change HonestStore.Keeps
      (s.guarded .forget fun m => SessionStore.forget m key).2.inner key token at h
    rcases s.guarded_eq .forget fun m => SessionStore.forget m key with ⟨e, heq⟩ | heq
    · rw [heq] at hok
      cases hok
    · rw [heq] at h hok
      exact HonestStore.not_keeps_forget hok h

end FailingStore

end ODataSession
