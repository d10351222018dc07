import ODataSession.Text.Split
import ODataSession.Url.Domain.Direction
import ODataSession.Url.Domain.Label

/-!
# Domain names

The ASCII form of a domain name. The name is mapped and cut into labels at its dots. Every label has
to be fit, and if a character of any label turns the line, every label has to keep its direction.
-/

namespace ODataSession.Url

/-- The labels of a domain. -/
def domainLabels? (domain : List Char) : Option (List (List Char)) := do
  (Text.splitOn (· = '.') (← mapDomain? domain)).mapM labelOf?

/-- Whether the labels of a domain may stand together. -/
def areFitLabels (labels : List (List Char)) : Bool :=
  labels.all isFitLabel && (!labels.any (·.any turnsLine) || labels.all keepsDirection)

/-- The ASCII form of a domain name. -/
def domainToAscii? (domain : List Char) : Option (List Char) :=
  ((domainLabels? domain).filter areFitLabels).map fun labels =>
    ['.'].intercalate (labels.map labelToAscii)

end ODataSession.Url
