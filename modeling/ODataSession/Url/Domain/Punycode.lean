/-!
# Punycode

A label with characters outside ASCII, written with the characters of ASCII only: first those of its
characters that are of ASCII, then, behind a hyphen, a row of numbers that say which other
characters to insert, and where. The numbers are written with digits of base thirty-six, of which
each position holds back a threshold, so that their ends can be seen; the thresholds follow the
sizes of the numbers.
-/

namespace ODataSession.Url

/-- The weight of a position between two thresholds. -/
def punycodeThreshold (k bias : Nat) : Nat :=
  if k ≤ bias + 1 then 1 else if bias + 26 ≤ k then 26 else k - bias

/-- Divides a delta down until it fits the last division step. -/
def punycodeShrink : Nat → Nat → Nat → Nat
  | 0, delta, k => k + 36 * delta / (delta + 38)
  | fuel + 1, delta, k =>
    if delta ≤ 455 then k + 36 * delta / (delta + 38)
    else punycodeShrink fuel (delta / 35) (k + 36)

/-- The bias after a code point has been coded. -/
def punycodeAdapt (delta count : Nat) (first : Bool) : Nat :=
  let delta := if first then delta / 700 else delta / 2
  punycodeShrink delta (delta + delta / count) 0

/-- The digit of a value below thirty-six: a letter, then a decimal digit. -/
def punycodeDigit (d : Nat) : Char :=
  if d < 26 then Char.ofNat ('a'.toNat + d) else Char.ofNat ('0'.toNat + (d - 26))

/-- The value of a digit. -/
def punycodeValue? (c : Char) : Option Nat :=
  if c.isLower then some (c.toNat - 'a'.toNat)
  else if c.isUpper then some (c.toNat - 'A'.toNat)
  else if c.isDigit then some (c.toNat - '0'.toNat + 26)
  else none

/-- A delta as a number of variable length. -/
def punycodeNumber (bias : Nat) : Nat → Nat → Nat → List Char
  | 0, _, q => [punycodeDigit q]
  | fuel + 1, k, q =>
    let t := punycodeThreshold k bias
    if q < t then [punycodeDigit q]
    else punycodeDigit (t + (q - t) % (36 - t)) ::
      punycodeNumber bias fuel (k + 36) ((q - t) / (36 - t))

/-- The state of coding: the next code point, the delta, the bias and the number of code points
that are written. -/
structure Coding where
  next : Nat
  delta : Nat
  bias : Nat
  done : Nat

/-- Codes every occurrence of the code point `n` in turn. -/
def punycodeRound (basic : Nat) (n : Nat) : List Nat → Coding → List Char × Coding
  | [], s => ([], s)
  | c :: rest, s =>
    if c < n then punycodeRound basic n rest { s with delta := s.delta + 1 }
    else if c = n then
      let digits := punycodeNumber s.bias (s.delta + 1) 36 s.delta
      let bias := punycodeAdapt s.delta (s.done + 1) (s.done = basic)
      let (more, s) := punycodeRound basic n rest ⟨s.next, 0, bias, s.done + 1⟩
      (digits ++ more, s)
    else punycodeRound basic n rest s

/-- Codes the code points that are left, least first. -/
def punycodeRounds (basic : Nat) (label : List Nat) : Nat → Coding → List Char
  | 0, _ => []
  | fuel + 1, s =>
    match (label.filter (s.next ≤ ·)).min? with
    | none => []
    | some n =>
      let s := { s with delta := s.delta + (n - s.next) * (s.done + 1) }
      let (digits, s) := punycodeRound basic n label s
      digits ++ punycodeRounds basic label fuel { s with next := n + 1, delta := s.delta + 1 }

/-- The Punycode form of a label. -/
def punycode (label : List Char) : List Char :=
  let basic := label.filter (·.toNat < 128)
  let marked := if basic.isEmpty then [] else basic ++ ['-']
  marked ++ punycodeRounds basic.length (label.map Char.toNat) label.length
    ⟨128, 0, 72, basic.length⟩

/-- The numbers of a Punycode form have thirty-two bits. -/
def punycodeFits (n : Nat) : Bool :=
  n < 4294967296

/-- Reads one number of variable length and adds it to `acc`: the sum and the digits behind it. -/
def punycodeRead? (bias : Nat) : Nat → Nat → Nat → List Char → Option (Nat × List Char)
  | _, _, _, [] => none
  | k, weight, acc, c :: rest => do
    let d ← punycodeValue? c
    let acc := acc + d * weight
    let t := punycodeThreshold k bias
    if !punycodeFits acc then none
    else if d < t then return (acc, rest)
    else if !punycodeFits (weight * (36 - t)) then none
    else punycodeRead? bias (k + 36) (weight * (36 - t)) acc rest

/-- Whether a number is that of a character. -/
def isCharacterNumber (n : Nat) : Bool :=
  n < 0xd800 || (0xdfff < n && n < 0x110000)

/-- Inserts characters at the places that the numbers give. -/
def punycodeInsert? : Nat → List Char → Coding → List Char → Option (List Char)
  | _, [], _, out => some out
  | 0, _, _, _ => none
  | fuel + 1, digits, s, out => do
    let (sum, rest) ← punycodeRead? s.bias 36 1 s.delta digits
    let count := out.length + 1
    let n := s.next + sum / count
    let i := sum % count
    if isCharacterNumber n then
      let bias := punycodeAdapt (sum - s.delta) count (s.done = 0)
      punycodeInsert? fuel rest ⟨n, i + 1, bias, s.done + 1⟩
        (out.take i ++ Char.ofNat n :: out.drop i)
    else none

/-- The label that a Punycode form stands for. The last hyphen ends the characters that stand for
themselves, unless it comes first. -/
def punycodeDecode? (text : List Char) : Option (List Char) :=
  let behind := (text.reverse.takeWhile (· ≠ '-')).reverse
  let kept := text.take (text.length - behind.length - 1)
  let digits := if kept.isEmpty then text else behind
  punycodeInsert? digits.length digits ⟨128, 0, 72, 0⟩ kept

end ODataSession.Url
