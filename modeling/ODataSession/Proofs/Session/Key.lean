import Mathlib.Algebra.Group.Nat.Defs
import ODataSession.Proofs.Client.Calls
import ODataSession.Proofs.Session.Store
import ODataSession.Proofs.Text.Octets

/-!
# Which identities share a key

The text of a key determines the digest of its identity and its slot, because the digest has
sixty-four digits whatever it is (`SessionKey.text_inj`). The digest determines the octets it was
made of as far as it has no collision, and these determine the server, the database and the user
written one after the other, but not where one of them ends and the next begins. So two identities
share their sessions exactly when these three texts are together the same
(`SessionKey.text_derive_eq_iff`), and the store hands out to the one what was put for the other
(`SessionKey.get_put_derive`).
-/

namespace ODataSession

/-! ## Digits -/

namespace Sha256

/-- Digits of numbers below sixteen tell the numbers apart. -/
theorem digitChar_injective {m n : Nat} (hm : m < 16) (hn : n < 16)
    (h : Nat.digitChar m = Nat.digitChar n) : m = n := by
  have hall : ∀ m n : Fin 16, Nat.digitChar m = Nat.digitChar n → m = n := by decide
  exact congrArg Fin.val (hall ⟨m, hm⟩ ⟨n, hn⟩ h)

/-- A word has eight digits. -/
theorem length_wordText (w : UInt32) : (wordText w).length = 8 := rfl

/-- Numbers with the same hexadecimal digits are the same. -/
theorem eq_of_digits : ∀ (n : Nat) {v w : Nat}, v < 16 ^ n → w < 16 ^ n →
    (∀ k < n, v >>> (4 * k) % 16 = w >>> (4 * k) % 16) → v = w
  | 0, _, _, hv, hw, _ => by
    rw [Nat.lt_one_iff.1 hv, Nat.lt_one_iff.1 hw]
  | n + 1, v, w, hv, hw, hdigits => by
    have hlast : v % 16 = w % 16 := hdigits 0 n.succ_pos
    have hfront : v / 16 = w / 16 := by
      rw [Nat.pow_succ] at hv hw
      refine eq_of_digits n (by omega) (by omega) fun k hk => ?_
      have hdigit := hdigits (k + 1) (Nat.succ_lt_succ hk)
      rw [Nat.mul_succ, Nat.add_comm, Nat.shiftRight_add, Nat.shiftRight_add,
        Nat.shiftRight_eq_div_pow v 4, Nat.shiftRight_eq_div_pow w 4] at hdigit
      exact hdigit
    omega

/-- The digits of a word tell it apart from the others. -/
theorem wordText_injective {v w : UInt32} (h : wordText v = wordText w) : v = w := by
  have hdigit : ∀ shift, Nat.digitChar (v.toNat >>> shift % 16) =
      Nat.digitChar (w.toNat >>> shift % 16) → v.toNat >>> shift % 16 = w.toNat >>> shift % 16 :=
    fun _ => digitChar_injective (Nat.mod_lt _ (by decide)) (Nat.mod_lt _ (by decide))
  simp only [wordText, List.map_cons, List.map_nil, List.cons.injEq, and_true] at h
  obtain ⟨h₇, h₆, h₅, h₄, h₃, h₂, h₁, h₀⟩ := h
  refine UInt32.toNat_inj.1 (eq_of_digits 8 v.toNat_lt w.toNat_lt fun k hk => ?_)
  match k, hk with
  | 0, _ => exact hdigit 0 h₀
  | 1, _ => exact hdigit 4 h₁
  | 2, _ => exact hdigit 8 h₂
  | 3, _ => exact hdigit 12 h₃
  | 4, _ => exact hdigit 16 h₄
  | 5, _ => exact hdigit 20 h₅
  | 6, _ => exact hdigit 24 h₆
  | 7, _ => exact hdigit 28 h₇

/-- The digits of words tell the words apart, as every word has the same number of digits. -/
theorem flatMap_wordText_injective : ∀ {l l' : List UInt32},
    l.flatMap wordText = l'.flatMap wordText → l = l'
  | [], [], _ => rfl
  | [], w :: l', h | w :: l', [], h => by
    have := congrArg List.length h
    rw [List.flatMap_cons, List.length_append, length_wordText, List.flatMap_nil,
      List.length_nil] at this
    omega
  | v :: l, w :: l', h => by
    rw [List.flatMap_cons, List.flatMap_cons] at h
    obtain ⟨hword, hrest⟩ := List.append_inj h rfl
    rw [wordText_injective hword, flatMap_wordText_injective hrest]

namespace Registers

/-- The registers have sixty-four digits. -/
theorem length_hexText (r : Registers) : r.hexText.length = 64 := rfl

/-- The digits of registers tell them apart. -/
theorem hexText_injective {r s : Registers} (h : r.hexText = s.hexText) : r = s := by
  have hwords := flatMap_wordText_injective h
  cases r
  cases s
  simpa [toList] using hwords

end Registers

end Sha256

namespace SessionKey

/-! ## Keys -/

/-- The texts of two keys agree where the keys do, if their identities are of the same length. -/
theorem text_inj {k k' : SessionKey} (hlength : k.identity.length = k'.identity.length) :
    k.text = k'.text ↔ k = k' := by
  refine ⟨fun h => ?_, congrArg text⟩
  have hchars := congrArg String.toList h
  simp only [text, String.toList_append, List.append_assoc] at hchars
  have hrest := List.append_cancel_left hchars
  obtain ⟨hidentity, hslot⟩ := List.append_inj hrest hlength
  have hdigits : (Nat.repr k.slot.toNat).toList = (Nat.repr k'.slot.toNat).toList :=
    List.append_cancel_left hslot
  have hnumber := congrArg (Nat.ofDigitChars 10 · 0) hdigits
  simp only [Nat.toList_repr, Nat.ofDigitChars_ten_toDigits] at hnumber
  cases k
  cases k'
  simp_all [String.toList_inj, UInt64.toNat_inj]

/-- The identity of a derived key has sixty-four digits. -/
theorem length_identity_derive (server database username : String) (slot : UInt64) :
    (derive server database username slot).identity.length = 64 := by
  simp [derive, Sha256.Registers.length_hexText]

/-! ## Identities -/

section
variable (server database username server' database' username' : String)

/-- The octets of two identities agree where their texts do, written one after the other. -/
theorem identityOctets_inj :
    identityOctets server database username = identityOctets server' database' username' ↔
      server ++ database ++ username = server' ++ database' ++ username' := by
  rw [← String.toList_inj]
  simp only [String.toList_append]
  exact ⟨Utf8.encode_injective, congrArg Utf8.encode⟩

/-- Two identities on slots have the same key exactly when their texts, written one after the
other, and their slots agree, as far as the digest does not collide on them. -/
theorem text_derive_eq_iff (slot slot' : UInt64)
    (h : Sha256.digest (identityOctets server database username) =
        Sha256.digest (identityOctets server' database' username') →
      identityOctets server database username = identityOctets server' database' username') :
    (derive server database username slot).text =
        (derive server' database' username' slot').text ↔
      server ++ database ++ username = server' ++ database' ++ username' ∧ slot = slot' := by
  rw [text_inj (by rw [length_identity_derive, length_identity_derive]),
    ← identityOctets_inj]
  constructor
  · intro hkey
    have hhex := congrArg (fun k => k.identity.toList) hkey
    simp only [derive, String.toList_ofList] at hhex
    exact ⟨h (Sha256.Registers.hexText_injective hhex), congrArg SessionKey.slot hkey⟩
  · rintro ⟨hoctets, rfl⟩
    simp only [derive, hoctets]

end

end SessionKey

/-- A live token that is put under a key is handed out under this key, and nothing else changes. -/
theorem MemoryStore.get_put_fst (m : MemoryStore) (key token : String) {lifetime : Nat}
    (hlive : 0 < lifetime) (key' : String) :
    ((m.put key token lifetime).get key').1 =
      if key' = key then some token else (m.get key').1 := by
  rw [get, get, put, getAt_fst, getAt_fst, find?_putAt]
  split
  · simp [Option.filter, Nat.ne_of_gt hlive]
  · rfl

/-- As far as the digest does not collide, two identities on slots have one key exactly when their
texts, written one after the other, and their slots agree; and exactly then a store hands a token
that was put for the one out to the other. -/
theorem SessionKey.shared_iff (server database username server' database' username' : String)
    (slot slot' : UInt64)
    (h : Sha256.digest (identityOctets server database username) =
        Sha256.digest (identityOctets server' database' username') →
      identityOctets server database username = identityOctets server' database' username') :
    ((derive server database username slot).text =
        (derive server' database' username' slot').text ↔
      server ++ database ++ username = server' ++ database' ++ username' ∧ slot = slot') ∧
    ∀ (m : MemoryStore) (token : String) (lifetime : Nat), 0 < lifetime →
      ((m.put (derive server database username slot).text token lifetime).get
          (derive server' database' username' slot').text).1 =
        if server ++ database ++ username = server' ++ database' ++ username' ∧ slot = slot' then
          some token
        else (m.get (derive server' database' username' slot').text).1 := by
  have hiff := text_derive_eq_iff server database username server' database' username' slot slot' h
  refine ⟨hiff, fun m token lifetime hlive => ?_⟩
  rw [MemoryStore.get_put_fst m _ token hlive]
  exact if_congr (eq_comm.trans hiff) rfl rfl

/-- Two users of one database do not share their sessions. -/
theorem not_shared_by_users :
    (SessionKey.derive "https://sl.example/b1s/v1/" "DB" "manager" 0).text ≠
      (SessionKey.derive "https://sl.example/b1s/v1/" "DB" "clerk" 0).text := by
  have hiff := (SessionKey.shared_iff "https://sl.example/b1s/v1/" "DB" "manager"
    "https://sl.example/b1s/v1/" "DB" "clerk" 0 0 fun h => absurd h (by decide +kernel)).1
  exact fun h => absurd (hiff.1 h).1 (by decide)

/-- A user of one database adopts the session of another user of another database, where a letter
that ends the name of the one database begins the name of the other user. -/
theorem shared_across_databases :
    SessionKey.derive "https://sl.example/b1s/v1/" "ab" "c" 0 =
        SessionKey.derive "https://sl.example/b1s/v1/" "a" "bc" 0 ∧
      ∃ s : Site ScriptedBackend MemoryStore,
        Config.site? { Config.sample with database := "a", username := "bc" } ⟨[], 0, false⟩
          (MemoryStore.empty.put (SessionKey.derive Config.sample.server "ab" "c" 0).text
            "B1SESSION=a" 60) = some s ∧
        (s.perform .login).2.client.credential = some ⟨"B1SESSION=a"⟩ := by
  have hoctets := (SessionKey.identityOctets_inj "https://sl.example/b1s/v1/" "ab" "c"
    "https://sl.example/b1s/v1/" "a" "bc").2 (by decide)
  refine ⟨by rw [SessionKey.derive, hoctets, SessionKey.derive], ?_⟩
  have h : Option.any (fun s : Site ScriptedBackend MemoryStore =>
      (s.perform .login).2.client.credential = some ⟨"B1SESSION=a"⟩)
      (Config.site? { Config.sample with database := "a", username := "bc" } ⟨[], 0, false⟩
        (MemoryStore.empty.put (SessionKey.derive Config.sample.server "ab" "c" 0).text
          "B1SESSION=a" 60)) = true := by
    decide +kernel
  obtain ⟨s, hs, hadopted⟩ := (Option.any_eq_true _ _).1 h
  exact ⟨s, hs, of_decide_eq_true hadopted⟩

end ODataSession
