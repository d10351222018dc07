/-!
# ASCII

The characters below 128, which most of the tables of characters leave out.
-/

namespace ODataSession.Text

/-- Whether a character is one of ASCII. -/
def isAscii (c : Char) : Bool :=
  c.toNat < 128

end ODataSession.Text
