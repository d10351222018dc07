import ODataSession.Text.Composition
import ODataSession.Url.Domain.Table

/-!
# What a domain does with a character

A domain keeps a character, drops it, replaces it by others, or refuses it. Of the characters of
ASCII the capital letters are replaced by the small ones; the others are kept here, whether a domain
may hold them or not. A domain is mapped by treating its characters in turn and composing the
result.
-/

namespace ODataSession.Url

/-- What a domain does with a character. -/
inductive Treatment
  | keep
  | refuse
  | replace (text : List Char)
  deriving DecidableEq, Repr, Inhabited

/-- What a domain does with the characters of a stretch. -/
inductive TreatmentRule
  | refuse
  | replace (text : List Char)
  | move (target : Nat)
  | everySecond
  deriving DecidableEq, Repr, Inhabited

namespace TreatmentRule

/-- The rule that a note of the table names. -/
def ofNote? : List Char → Option TreatmentRule
  | ['!'] => some .refuse
  | ['/'] => some .everySecond
  | '>' :: digits => some (.move (Text.cutHex 0 digits).1)
  | note => (Text.characters? note).map .replace

/-- What a rule says of the character at a place of its stretch. -/
def treatment (place : Nat) (c : Char) : TreatmentRule → Treatment
  | .refuse => .refuse
  | .replace text => .replace text
  | .move target => .replace [Char.ofNat (target + place)]
  | .everySecond => if place % 2 = 0 then .replace [Char.ofNat (c.toNat + 1)] else .keep

end TreatmentRule

namespace Treatment

/-- The table of the characters that a domain does not keep. -/
def table : List (Text.Stretch TreatmentRule) :=
  Text.stretches TreatmentRule.ofNote? treatmentText

/-- What a domain does with a character. -/
def ofChar (c : Char) : Treatment :=
  if Text.isAscii c then (if c.isUpper then .replace [c.toLower] else .keep)
  else
    match table.find? (·.holds c) with
    | some s => s.value.treatment (c.toNat - s.first) c
    | none => .keep

/-- What a character becomes; nothing, if it is refused. -/
def textOf? (c : Char) : Treatment → Option (List Char)
  | .keep => some [c]
  | .refuse => none
  | .replace text => some text

end Treatment

/-- The mapped form of a domain. -/
def mapDomain? (domain : List Char) : Option (List Char) :=
  (domain.mapM fun c => (Treatment.ofChar c).textOf? c).map fun parts => Text.compose parts.flatten

end ODataSession.Url
