import ODataSession.Text.Mark

/-!
# Writing directions in a domain

The rule that keeps a domain readable where letters that are written from right to left stand in
it. A label that starts with such a letter holds no letter of the other direction, ends in a letter
or a digit, and does not mix the two kinds of digits; any other label starts with a letter of the
usual direction, holds none of the other, and ends in a letter or a digit. Nonspacing marks at the
end of a label do not count.

The table is that of Unicode 17, for the characters that a domain can hold.
-/

namespace ODataSession.Url

/-- How a character stands in a line. -/
inductive Direction
  | leftToRight
  | rightToLeft
  | arabicLetter
  | europeanNumber
  | arabicNumber
  | europeanSeparator
  | europeanTerminator
  | commonSeparator
  | nonspacingMark
  | boundaryNeutral
  | otherNeutral
  deriving DecidableEq, Repr, Inhabited

namespace Direction

/-- The direction that a note of the table names. -/
def ofNote? (note : List Char) : Option Direction :=
  if note = "=L".toList then some .leftToRight
  else if note = "=R".toList then some .rightToLeft
  else if note = "=AL".toList then some .arabicLetter
  else if note = "=EN".toList then some .europeanNumber
  else if note = "=AN".toList then some .arabicNumber
  else if note = "=ES".toList then some .europeanSeparator
  else if note = "=ET".toList then some .europeanTerminator
  else if note = "=CS".toList then some .commonSeparator
  else if note = "=BN".toList then some .boundaryNeutral
  else if note = "=ON".toList then some .otherNeutral
  else none

/-- The stretches of characters with their directions; the letters of the usual direction and most
nonspacing marks are left out. -/
def tableText : String := "
  21-22=ON 23-25=ET 26-2a=ON 2b=ES 2c=CS 2d=ES 2e-2f=CS 30-39=EN 3a=CS 3b-60=ON 7b-a1=ON a2-a5=ET
  a6-ae=ON b0-b1=ET b6-d7=ON f7=ON 2b9-2ba=ON 2c2-2cf=ON 2d2-2ed=ON 2ef-2ff=ON 375=ON 3f6=ON
  58a-58e=ON 58f=ET 5be=R 5c0=R 5c3=R 5c6=R 5d0-5f4=R 606-607=ON 608=AL 609-60a=ET 60b=AL 60c=CS
  60d=AL 60e-60f=ON 61b-64a=AL 660-669=AN 66a=ET 66b-66c=AN 66d-66f=AL 671-6d5=AL 6de=ON 6e5-6e6=AL
  6e9=ON 6ee-6ef=AL 6f0-6f9=EN 6fa-710=AL 712-72f=AL 74d-7a5=AL 7b1=AL 7c0-7ea=R 7f4-7f5=R
  7f6-7f9=ON 7fa=R 7fe-815=R 81a=R 824=R 828=R 830-858=R 85e=R 860-88f=AL 8a0-8c9=AL 9f2-9f3=ET
  9fb=ET af1=ET bf3-bf8=ON bf9=ET bfa=ON c78-c7e=ON cbf=L cc6=L e3f=ET f3a-f3d=ON 1390-1399=ON
  1400=ON 169b-169c=ON 17db=ET 17f0-180a=ON 1940-1945=ON 19de-19ff=ON 200c-200d=BN 2010-2027=ON
  2030-2032=ET 2035-2043=ON 2044=CS 2045-205e=ON 20a0-20c1=ET 2104-2129=ON 212e=ET 213a-214d=ON
  218a-2211=ON 2212=ES 2213=ET 2214-2335=ON 237b-2394=ON 2396-26ab=ON 26ad-27ff=ON 2900-2bff=ON
  2ce5-2cea=ON 2cf9-2cff=ON 2e00-3004=ON 3008-3020=ON 3030=ON 3037=ON 303d-303f=ON 30a0=ON 30fb=ON
  31c0-31e5=ON 4dc0-4dff=ON a490-a4c6=ON a60d-a60f=ON a673=ON a67e-a67f=ON a700-a721=ON a788=ON
  a828-a82b=ON a838-a839=ET a874-a877=ON ab6a-ab6b=ON fbb2-fbc2=AL fbc3-fdff=ON fe45-fe46=ON fe73=AL
  10101=ON 10140-1018c=ON 10190-101a0=ON 102e1-102fb=EN 10800-1091b=R 1091f=ON 10920-10a00=R
  10a10-10a35=R 10a40-10ae4=R 10aeb-10b35=R 10b39-10b3f=ON 10b40-10cff=R 10d00-10d23=AL
  10d30-10d49=AN 10d4a-10d4f=R 10d6e=ON 10d6f-10d8f=R 10e60-10e7e=AN 10e80-10ea9=R 10ead-10eb1=R
  10ec2-10ec7=AL 10ed0-10ed8=ON 10f00-10f27=R 10f30-10f45=AL 10f51-10f59=AL 10f70-10f81=R
  10f86-10ff6=R 11052-11065=ON 11660-1166c=ON 11a07-11a08=L 11c3f=L 11fd5-11fdc=ON 11fdd-11fe0=ET
  11fe1-11ff1=ON 16fe2=ON 1cc00-1cef0=ON 1d1e9-1d241=ON 1d245=ON 1d300-1d356=ON 1e2ff=ET
  1e800-1e8cf=R 1e922-1e943=R 1e94b-1e95f=R 1ec71-1ed3d=AL 1eef0-1f12f=ON 1f16d-1f16f=ON 1f1ad=ON
  1f260-1fbfa=ON"

/-- The table of directions. -/
def table : List (Text.Stretch Direction) :=
  Text.stretches ofNote? tableText

/-- The direction of a character. -/
def ofChar (c : Char) : Direction :=
  match Text.valueOf? table c with
  | some direction => direction
  | none => if Text.isNonspacingMark c then .nonspacingMark else .leftToRight

/-- The directions that make a domain one of both directions. -/
def turnsLine (d : Direction) : Bool :=
  d = .rightToLeft || d = .arabicLetter || d = .arabicNumber

/-- The directions that stand in labels of either direction. -/
def isCommon (d : Direction) : Bool :=
  d = .europeanNumber || d = .europeanSeparator || d = .europeanTerminator ||
    d = .commonSeparator || d = .nonspacingMark || d = .boundaryNeutral || d = .otherNeutral

end Direction

/-- Whether a character makes a domain one of both directions; none of ASCII does. -/
def turnsLine (c : Char) : Bool :=
  !Text.isAscii c && (Direction.ofChar c).turnsLine

/-- Drops the nonspacing marks at the end. -/
def dropLastMarks (ds : List Direction) : List Direction :=
  (ds.reverse.dropWhile (· = .nonspacingMark)).reverse

/-- The rule for labels that start with a letter of the usual direction. -/
def runsLeftToRight (ds : List Direction) : Bool :=
  ds.all (fun d => d = .leftToRight || d.isCommon) &&
    ds.getLast?.all (fun d => d = .leftToRight || d = .europeanNumber)

/-- The rule for labels that start with a letter written from right to left. -/
def runsRightToLeft (ds : List Direction) : Bool :=
  ds.all (fun d => d.turnsLine || d.isCommon) &&
    ds.getLast?.all (fun d => d.turnsLine || d = .europeanNumber) &&
    !(ds.contains .europeanNumber && ds.contains .arabicNumber)

/-- The rule for the labels of a domain of both directions. -/
def keepsDirection (label : List Char) : Bool :=
  let ds := label.map Direction.ofChar
  match ds.head? with
  | none => true
  | some .leftToRight => runsLeftToRight (dropLastMarks ds)
  | some .rightToLeft | some .arabicLetter => runsRightToLeft (dropLastMarks ds)
  | some _ => false

end ODataSession.Url
