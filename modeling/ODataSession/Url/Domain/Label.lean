import ODataSession.Url.Characters
import ODataSession.Url.Domain.Joining
import ODataSession.Url.Domain.Punycode
import ODataSession.Url.Domain.Treatment

/-!
# Labels

The parts of a mapped domain between its dots. A label behind the mark `xn--` stands for the label
of which the rest is the Punycode form, and has to stand for one that needs it. A label is fit if
each of its characters may stand where it does. The ASCII form of a label that needs it is its
Punycode form behind the mark.
-/

namespace ODataSession.Url

/-- The mark of a label in Punycode form. -/
def codedMark : List Char :=
  ['x', 'n', '-', '-']

/-- The number of characters that a Punycode form may have. -/
def maxCoded : Nat :=
  2000

/-- The number of characters that a label outside ASCII may have. -/
def maxDecoded : Nat :=
  1000

/-- Whether a label consists of characters of ASCII. -/
def isAsciiLabel (label : List Char) : Bool :=
  label.all Text.isAscii

/-- Whether mapping leaves a label as it is. -/
def isMapped (label : List Char) : Bool :=
  label.all (Treatment.ofChar · = .keep) && Text.compose label = label

/-- The label that a Punycode form stands for, if that needs the form and is mapped. -/
def decodeLabel? (coded : List Char) : Option (List Char) :=
  if maxCoded < coded.length then none
  else
    (punycodeDecode? coded).filter fun label =>
      !isAsciiLabel label && isMapped label && !codedMark.isPrefixOf label

/-- The label that a part of a mapped domain stands for. -/
def labelOf? (part : List Char) : Option (List Char) :=
  if codedMark.isPrefixOf part then decodeLabel? (part.drop codedMark.length) else some part

/-- Whether a label holds only what it may hold: no character of ASCII that is forbidden and no dot,
no mark in front, and joiners only where they have something to do. -/
def isFitLabel (label : List Char) : Bool :=
  !label.any (fun c => isForbiddenInDomain c || c = '.') && !label.head?.any Text.isMark &&
    joinersFit [] label && (isAsciiLabel label || label.length ≤ maxDecoded)

/-- The ASCII form of a label. -/
def labelToAscii (label : List Char) : List Char :=
  if isAsciiLabel label then label else codedMark ++ punycode label

end ODataSession.Url
