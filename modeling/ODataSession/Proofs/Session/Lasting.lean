import Mathlib.Order.Defs.PartialOrder
import ODataSession.Proofs.Session.Store

/-!
# Tokens that last

As long as no token expires that was put for some time, a store for which time passes does what a
store does for which time stands still. A time suits a clock if it goes beyond the last moment that
the clock shows, and so does the longest time that a token is kept (`Clock.Suits`). Then a token
that is put for this time lasts, however long it is: one that is put for too long is kept for the
longest time (`Clock.Suits.last_lt_expiry`). So the two stores go along with one another as long as
tokens are put for such times or for none, which is what `ClockedStore.Resembles` says.
-/

namespace ODataSession

/-! ## Readings of a clock -/

instance : Preorder Instant where
  le_refl t := Nat.le_refl t.nanoseconds
  le_trans _ _ _ := Nat.le_trans
  lt_iff_le_not_ge _ _ := Nat.lt_iff_le_and_not_ge

namespace Clock

/-- The last moment that a clock shows. -/
def last (c : Clock) : Instant :=
  c.upcoming.getLastD c.now

variable (c : Clock)

/-- A clock that has been read shows what was read. -/
@[simp] theorem now_read : c.read.2.now = c.read.1 := by
  obtain ⟨now, _ | ⟨t, upcoming⟩, h⟩ := c <;> rfl

/-- Reading a clock does not change the last moment that it shows. -/
@[simp] theorem last_read : c.read.2.last = c.last := by
  obtain ⟨now, _ | ⟨t, upcoming⟩, h⟩ := c
  · rfl
  · exact (List.getLastD_cons ..).symm

/-- No clock goes back. -/
theorem now_le_read : c.now ≤ c.read.1 := by
  obtain ⟨now, _ | ⟨t, upcoming⟩, h⟩ := c
  · exact le_refl now
  · exact List.rel_of_pairwise_cons h List.mem_cons_self

/-- A clock has shown nothing later than its last moment. -/
theorem now_le_last : c.now ≤ c.last := by
  obtain ⟨now, upcoming, h⟩ := c
  rcases List.eq_nil_or_concat' upcoming with rfl | ⟨earlier, t, rfl⟩
  · exact le_refl now
  · rw [last, List.getLastD_concat]
    exact List.rel_of_pairwise_cons h (List.mem_append_right _ (List.mem_singleton_self t))

/-- A clock shows nothing later than its last moment. -/
theorem read_le_last : c.read.1 ≤ c.last := by
  rw [← now_read, ← last_read]
  exact now_le_last _

variable {c}

/-- All that a clock will show comes sooner than some time after what it was last seen to show. -/
def EndsWithin (c : Clock) (nanoseconds : Nat) : Prop :=
  c.last.nanoseconds < c.now.nanoseconds + nanoseconds

instance (nanoseconds : Nat) : Decidable (c.EndsWithin nanoseconds) :=
  inferInstanceAs (Decidable (_ < _))

/-- A clock that is read leaves no more time than before. -/
theorem EndsWithin.read {nanoseconds : Nat} (h : c.EndsWithin nanoseconds) :
    c.read.2.EndsWithin nanoseconds := by
  rw [EndsWithin, last_read, now_read]
  exact Nat.lt_of_lt_of_le h (Nat.add_le_add_right c.now_le_read _)

/-- All that a clock will show comes within 2³² - 1 seconds, and so long can be counted. -/
def IsBrief (c : Clock) : Prop :=
  c.EndsWithin (4294967295 * nanosecondsPerSecond) ∧
    c.now.nanoseconds + 4294967295 * nanosecondsPerSecond < Instant.size

instance : Decidable c.IsBrief :=
  inferInstanceAs (Decidable (_ ∧ _))

/-- A time suits a clock if it is none at all, or if the clock is brief and all that it will show
comes within this time. -/
def Suits (c : Clock) (lifetime : Duration) : Prop :=
  lifetime = .zero ∨ c.EndsWithin lifetime.nanoseconds ∧ c.IsBrief

instance (lifetime : Duration) : Decidable (c.Suits lifetime) :=
  inferInstanceAs (Decidable (_ ∨ _))

/-- A token that is put for some time that suits the clock expires after the last moment, however
long this time is. -/
theorem Suits.last_lt_expiry {lifetime : Duration} (h : c.Suits lifetime)
    (hlifetime : lifetime ≠ .zero) : c.last < MemoryStore.expiry c.now lifetime := by
  obtain ⟨hends, hbrief, hcount⟩ := h.resolve_left hlifetime
  have hlongest : MemoryStore.longestLifetime.nanoseconds = 4294967295 * nanosecondsPerSecond := by
    decide
  unfold EndsWithin at hends hbrief
  change c.last.nanoseconds < _
  rw [MemoryStore.nanoseconds_expiry (by omega), hlongest]
  omega

/-- A time suits a clock now and at all readings to come. -/
def SuitsThroughout (c : Clock) (lifetime : Duration) : Prop :=
  c.Suits lifetime ∧ c.last.nanoseconds + 4294967295 * nanosecondsPerSecond < Instant.size

/-- What suits a clock throughout does so when it has been read. -/
theorem SuitsThroughout.read {lifetime : Duration} (h : c.SuitsThroughout lifetime) :
    c.read.2.SuitsThroughout lifetime := by
  obtain ⟨hsuits, hcount⟩ := h
  have hnow : c.read.2.now.nanoseconds + 4294967295 * nanosecondsPerSecond < Instant.size := by
    rw [now_read]
    exact Nat.lt_of_le_of_lt (Nat.add_le_add_right c.read_le_last _) hcount
  refine ⟨hsuits.imp_right fun ⟨hends, hbrief, _⟩ => ⟨hends.read, hbrief.read, hnow⟩, ?_⟩
  rw [last_read]
  exact hcount

end Clock

/-! ## Stores whose tokens last -/

/-- The same token is live at all moments to come if the other one is live with time standing still,
and at none of them if it is not. -/
structure StoredToken.Resembles (clock : Clock) (t t' : StoredToken) : Prop where
  token_eq : t.token = t'.token
  isLiveAt_eq : ∀ now, clock.now ≤ now → now ≤ clock.last → t.isLiveAt now = t'.isLiveAt .origin

/-- A reading leaves fewer moments to come. -/
theorem StoredToken.Resembles.read {clock : Clock} {t t' : StoredToken}
    (h : t.Resembles clock t') : t.Resembles clock.read.2 t' where
  token_eq := h.token_eq
  isLiveAt_eq now hnow hlast := by
    rw [Clock.now_read] at hnow
    rw [Clock.last_read] at hlast
    exact h.isLiveAt_eq now (le_trans clock.now_le_read hnow) hlast

/-- A token that is put for a time that suits the clock is what it is with time standing still. -/
theorem StoredToken.resembles_expiry {clock : Clock} (token : String) {lifetime : Duration}
    (h : clock.Suits lifetime) :
    StoredToken.Resembles clock ⟨token, MemoryStore.expiry clock.now lifetime⟩
      ⟨token, MemoryStore.expiry .origin lifetime⟩ where
  token_eq := rfl
  isLiveAt_eq now hnow hlast := by
    rw [MemoryStore.isLiveAt_expiry]
    refine decide_eq_decide.2 ?_
    by_cases hlifetime : lifetime = .zero
    · rw [hlifetime, MemoryStore.expiry_zero]
      exact iff_of_false (not_lt_of_ge hnow) (not_not_intro rfl)
    · exact iff_of_true (lt_of_le_of_lt hlast (h.last_lt_expiry hlifetime)) hlifetime

/-- A store for which time passes has the tokens of one for which it stands still, and the same ones
are live until the last moment. -/
def ClockedStore.Resembles (s : ClockedStore) (m : MemoryStore) : Prop :=
  s.memory.Related (StoredToken.Resembles s.clock) m

namespace ClockedStore.Resembles

variable {s : ClockedStore} {m : MemoryStore}

/-- Empty stores go along with one another. -/
theorem empty (clock : Clock) : (ClockedStore.empty clock).Resembles .empty :=
  .nil

/-- Stores that go along count as many tokens. -/
theorem size_eq (h : s.Resembles m) : s.memory.size = m.size :=
  List.Forall₂.length_eq h

/-- The clock may be read in between. -/
theorem read (h : s.Resembles m) :
    s.memory.Related (StoredToken.Resembles s.clock.read.2) m :=
  List.Forall₂.imp (fun _ _ hentry => ⟨hentry.1, hentry.2.read⟩) h

/-- A question is answered in the same way. -/
theorem get (h : s.Resembles m) (key : String) :
    (s.get key).1 = (m.get key).1 ∧ (s.get key).2.Resembles (m.get key).2 := by
  have hlive : ∀ t t' : StoredToken, t.Resembles s.clock.read.2 t' →
      t.isLiveAt s.clock.read.1 = t'.isLiveAt .origin := fun t t' ht =>
    ht.isLiveAt_eq s.clock.read.1 (le_of_eq s.clock.now_read)
      (s.clock.last_read.symm ▸ s.clock.read_le_last)
  obtain ⟨htoken, hafter⟩ := h.read.getAt (fun _ _ ht => ht.token_eq) hlive key
  refine ⟨?_, hafter⟩
  change (s.memory.getAt s.clock.read.1 key).1 = (m.getAt .origin key).1
  generalize (s.memory.getAt s.clock.read.1 key).1 = token?,
    (m.getAt .origin key).1 = token?' at htoken
  cases htoken with
  | none => rfl
  | some hsame => exact congrArg some hsame

/-- A token that is put for a time that suits the clock is kept in the same way. -/
theorem put (h : s.Resembles m) (key token : String) {lifetime : Duration}
    (hlifetime : s.clock.read.2.Suits lifetime) :
    (s.put key token lifetime).Resembles (m.putAt .origin key token lifetime) := by
  have hentry := StoredToken.resembles_expiry token hlifetime
  rw [s.clock.now_read] at hentry
  exact h.read.insert key hentry

/-- What is under a key is dropped in the same way. -/
theorem erase (h : s.Resembles m) (key : String) : (s.erase key).Resembles (m.erase key) :=
  MemoryStore.Related.erase h key

end ClockedStore.Resembles

end ODataSession
