import ODataSession.Proofs.Session.Cookie

/-!
# Credentials that fit into a header

A credential that cannot stand in a header is left out of a request without a word, so that it
matters that there is none. What `Set-Cookie` values give always fits: their readable octets are
characters that a header may hold, trimming and cutting leave characters out and put none in, and
so does the mark that joins the cookies (`Credential.isFit_of_ofSetCookie?`).
-/

namespace ODataSession

/-- A credential that fits into a header as it is. -/
def Credential.IsFit (c : Credential) : Prop :=
  c.headerValue? = some c.cookie

/-- A credential fits if all its characters do. -/
theorem Credential.isFit_of_forall {c : Credential}
    (h : ∀ a ∈ c.cookie.toList, Http.isValueChar a = true) : c.IsFit :=
  if_pos (List.all_eq_true.2 h)

namespace Cookie

/-- A readable octet is a character that a header may hold. -/
theorem isValueChar_of_isReadable {b : UInt8} (h : isReadable b = true) :
    Http.isValueChar (Char.ofNat b.toNat) = true := by
  have hall : ∀ b : UInt8, isReadable b = true → Http.isValueChar (Char.ofNat b.toNat) = true :=
    Utf8.forall_octet (by decide +kernel)
  exact hall b h

/-- The cookies of header values fit into a header. -/
theorem isValueChar_of_mem_pairs {values : List (List UInt8)} {part : List Char}
    (h : part ∈ pairs values) : ∀ a ∈ part, Http.isValueChar a = true := by
  intro a ha
  obtain ⟨value, -, hvalue⟩ := mem_pairs_iff.1 h
  obtain ⟨b, hb, rfl⟩ := hvalue.exists_isReadable a ha
  exact isValueChar_of_isReadable hb

end Cookie

/-- The credential that the answer to a login gives fits into a header. -/
theorem Credential.isFit_of_ofSetCookie? {values : List (List UInt8)} {c : Credential}
    (h : ofSetCookie? values = some c) : c.IsFit := by
  obtain ⟨-, hcookie⟩ := ofSetCookie?_eq_some_iff.1 h
  refine isFit_of_forall fun a ha => ?_
  rw [hcookie] at ha
  obtain ha | ⟨part, hpart, ha⟩ := Text.mem_of_mem_intercalate ha
  · have hmark : [';', ' '].all Http.isValueChar = true := by decide
    exact List.all_eq_true.1 hmark a ha
  · exact Cookie.isValueChar_of_mem_pairs hpart a ha

end ODataSession
