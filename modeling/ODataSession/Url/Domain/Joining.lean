import ODataSession.Text.Composition
import ODataSession.Text.Mark

/-!
# Joiners in a domain

Where a label may hold one of the two characters that make their neighbours join or stay apart. Both
may stand behind a sign that silences a vowel, which has the combining class nine. The one that
keeps apart may also stand between two letters that would join, with any number of marks around it.

The table is that of Unicode 17, for the characters that a domain can hold.
-/

namespace ODataSession.Url

/-- How a letter joins its neighbours in a line. -/
inductive Joining
  | both
  | forward
  | backward
  | transparent
  | none
  deriving DecidableEq, Repr, Inhabited

namespace Joining

/-- The way of joining that a note of the table names. -/
def ofNote? (note : List Char) : Option Joining :=
  if note = "=D".toList then some .both
  else if note = "=L".toList then some .forward
  else if note = "=R".toList then some .backward
  else if note = "=T".toList then some .transparent
  else Option.none

/-- The stretches of characters with their ways of joining; nonspacing marks are left out. -/
def tableText : String := "
  620=D 622-625=R 626=D 627=R 628=D 629=R 62a-62e=D 62f-632=R 633-63f=D 641-647=D 648=R 649-64a=D
  66e-66f=D 671-673=R 679-687=D 688-699=R 69a-6bf=D 6c0=R 6c1-6c2=D 6c3-6cb=R 6cc=D 6cd=R 6ce=D
  6cf=R 6d0-6d1=D 6d2-6d3=R 6d5=R 6ee-6ef=R 6fa-6fc=D 6ff=D 710=R 712-714=D 715-719=R 71a-71d=D
  71e=R 71f-727=D 728=R 729=D 72a=R 72b=D 72c=R 72d-72e=D 72f-74d=R 74e-758=D 759-75b=R 75c-76a=D
  76b-76c=R 76d-770=D 771=R 772=D 773-774=R 775-777=D 778-779=R 77a-77f=D 7ca-7ea=D 840=R 841-845=D
  846-847=R 848=D 849=R 84a-853=D 854=R 855=D 856-858=R 860=D 862-865=D 867=R 868=D 869-882=R 886=D
  889-88d=D 88e=R 88f-8a9=D 8aa-8ac=R 8ae=R 8af-8b0=D 8b1-8b2=R 8b3-8b8=D 8b9=R 8ba-8c8=D 1807=D
  1820-1878=D 1887-18aa=D a840-a871=D a872=L 10ac0-10ac4=D 10ac5=R 10ac7=R 10ac9-10aca=R 10acd=L
  10ace-10ad2=R 10ad3-10ad6=D 10ad7=L 10ad8-10adc=D 10add=R 10ade-10ae0=D 10ae1=R 10ae4=R
  10aeb-10aee=D 10aef=R 10b80=D 10b81=R 10b82=D 10b83-10b85=R 10b86-10b88=D 10b89=R 10b8a-10b8b=D
  10b8c=R 10b8d=D 10b8e-10b8f=R 10b90=D 10b91=R 10ba9-10bac=R 10bad-10bae=D 10d00=L 10d01-10d21=D
  10d22=R 10d23=D 10ec2=R 10ec3-10ec4=D 10ec6-10ec7=D 10f30-10f32=D 10f33=R 10f34-10f44=D
  10f51-10f53=D 10f54=R 10f70-10f73=D 10f74-10f75=R 10f76-10f81=D 10fb0=D 10fb2-10fb3=D
  10fb4-10fb6=R 10fb8=D 10fb9-10fba=R 10fbb-10fbc=D 10fbd=R 10fbe-10fbf=D 10fc1=D 10fc2-10fc3=R
  10fc4=D 10fc9=R 10fca=D 10fcb=L 1e922-1e943=D 1e94b=T"

/-- The table of the ways of joining. -/
def table : List (Text.Stretch Joining) :=
  Text.stretches ofNote? tableText

/-- How a character joins its neighbours. -/
def ofChar (c : Char) : Joining :=
  if Text.isNonspacingMark c then .transparent else (Text.valueOf? table c).getD .none

/-- Whether a letter joins the one behind it. -/
def joinsNext (j : Joining) : Bool :=
  j = .both || j = .forward

/-- Whether a letter joins the one before it. -/
def joinsLast (j : Joining) : Bool :=
  j = .both || j = .backward

end Joining

/-- The character that keeps its neighbours apart. -/
def nonJoiner : Char :=
  '\u200c'

/-- The character that joins its neighbours. -/
def joiner : Char :=
  '\u200d'

/-- The way of joining of the first character that is not transparent. -/
def nextJoining (s : List Char) : Joining :=
  ((s.map Joining.ofChar).find? (· ≠ .transparent)).getD .none

/-- Whether the nearest of the characters before a place silences a vowel. -/
def followsVirama (before : List Char) : Bool :=
  before.head?.any fun c => Text.combiningClass c = 9

/-- Whether a character may stand between those before it, the nearest first, and those behind. -/
def joinerFits (before : List Char) (c : Char) (behind : List Char) : Bool :=
  if c = nonJoiner then
    followsVirama before ||
      ((nextJoining before).joinsNext && (nextJoining behind).joinsLast)
  else if c = joiner then followsVirama before
  else true

/-- Whether every joiner of a label may stand where it does, behind the characters `before`, the
nearest first. -/
def joinersFit (before : List Char) : List Char → Bool
  | [] => true
  | c :: behind => joinerFits before c behind && joinersFit (c :: before) behind

end ODataSession.Url
