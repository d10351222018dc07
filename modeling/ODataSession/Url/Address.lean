import ODataSession.Text.Percent
import ODataSession.Text.Split

/-!
# IP addresses

IPv4 and IPv6 addresses inside URLs. An IPv4 address has one to four numbers, decimal,
octal after a leading zero or hexadecimal after `0x`; the last number fills the octets that are
left. An IPv6 address has eight pieces of sixteen bits; `::` stands for the pieces that are left
out, at least one, and the last two pieces may be written as an IPv4 address.
-/

namespace ODataSession.Url

/-! ## IPv4 -/

/-- What a part of an IPv4 address denotes. -/
inductive Ipv4Part
  | number (n : Nat)
  | tooLarge
  | notANumber
  deriving DecidableEq

/-- Reads digits of a base as a number of at most thirty-two bits. -/
def ipv4Digits (base : Nat) (digits : List Char) : Ipv4Part :=
  match digits.mapM (fun c => (Percent.hexValue? c).filter (· < base)) with
  | none => .notANumber
  | some values =>
    let n := values.foldl (fun acc d => acc * base + d) 0
    if n < UInt32.size then .number n else .tooLarge

/-- Reads a part of an IPv4 address. -/
def ipv4Part : List Char → Ipv4Part
  | [] => .notANumber
  | '0' :: 'x' :: digits => ipv4Digits 16 digits
  | '0' :: 'X' :: digits => ipv4Digits 16 digits
  | ['0'] => .number 0
  | '0' :: digits => ipv4Digits 8 digits
  | digits => ipv4Digits 10 digits

/-- The parts of a domain between its dots, without the empty part behind a final dot. -/
def domainParts (domain : List Char) : List (List Char) :=
  let parts := Text.splitOn (· = '.') domain
  if 1 < parts.length && parts.getLast? = some [] then parts.dropLast else parts

/-- A domain ends in a number when its last part has only digits or denotes a number; such a domain
has to be an IPv4 address. -/
def endsInNumber (domain : List Char) : Bool :=
  match (domainParts domain).getLast? with
  | none | some [] => false
  | some part => part.all Char.isDigit || ipv4Part part ≠ .notANumber

/-- Puts numbers together: each but the last is an octet, and the last fills what is left. -/
def ipv4OfNumbers? : List Nat → Option Nat
  | [] => none
  | numbers =>
    let octets := numbers.dropLast
    let last := numbers.getLast?.getD 0
    let room := 1 <<< (8 * (4 - octets.length))
    if octets.all (· ≤ 255) && last < room && octets.length < 4 then
      some (octets.foldl (fun acc n => acc * 256 + n) 0 * room + last)
    else none

/-- Reads an IPv4 address. -/
def ipv4? (domain : List Char) : Option Nat := do
  let numbers ← (domainParts domain).mapM fun part =>
    match ipv4Part part with
    | .number n => some n
    | _ => none
  ipv4OfNumbers? numbers

/-- An IPv4 address in dotted decimal form. -/
def ipv4Text (address : Nat) : List Char :=
  ['.'].intercalate
    ([address >>> 24, (address >>> 16) % 256, (address >>> 8) % 256, address % 256].map
      fun n => (toString n).toList)

/-! ## IPv6 -/

/-- Reads one piece: one to four hexadecimal digits. -/
def ipv6Piece? (digits : List Char) : Option Nat :=
  if digits.isEmpty || 4 < digits.length then none
  else (digits.mapM Percent.hexValue?).map (·.foldl (fun acc d => acc * 16 + d) 0)

/-- Reads a decimal octet without leading zeros. -/
def decimalOctet? (digits : List Char) : Option Nat :=
  if digits.isEmpty || !digits.all Char.isDigit || (digits.head? = some '0' && digits ≠ ['0']) then
    none
  else
    let n := Nat.ofDigitChars 10 digits 0
    if n ≤ 255 then some n else none

/-- Reads the last two pieces in dotted decimal form. -/
def dottedPieces? (text : List Char) : Option (List Nat) := do
  let [a, b, c, d] ← (Text.splitOn (· = '.') text).mapM decimalOctet? | none
  return [a * 256 + b, c * 256 + d]

/-- Reads pieces with colons between them; only the last may be dotted, and only where `dotted`
allows it. -/
def pieces? (dotted : Bool) : List (List Char) → Option (List Nat)
  | [] => some []
  | [last] =>
    if dotted && last.contains '.' then dottedPieces? last else (ipv6Piece? last).map ([·])
  | piece :: rest => do
    return (← ipv6Piece? piece) :: (← pieces? dotted rest)

/-- Reads pieces of a text that may be empty. -/
def piecesOfText? (dotted : Bool) (text : List Char) : Option (List Nat) :=
  if text.isEmpty then some [] else pieces? dotted (Text.splitOn (· = ':') text)

/-- Cuts a text at its first double colon. -/
def cutAtDoubleColon : List Char → Option (List Char × List Char)
  | ':' :: ':' :: rest => some ([], rest)
  | c :: rest => (cutAtDoubleColon rest).map fun (before, after) => (c :: before, after)
  | [] => none

/-- Reads the eight pieces of an IPv6 address. -/
def ipv6? (text : List Char) : Option (List Nat) :=
  match cutAtDoubleColon text with
  | none =>
    match pieces? true (Text.splitOn (· = ':') text) with
    | some pieces => if pieces.length = 8 then some pieces else none
    | none => none
  | some (before, after) => do
    let left ← piecesOfText? false before
    let right ← piecesOfText? true after
    let given := left.length + right.length
    if given ≤ 7 then return left ++ List.replicate (8 - given) 0 ++ right else none

/-- The number of zeros in front. -/
def leadingZeros (pieces : List Nat) : Nat :=
  (pieces.takeWhile (· = 0)).length

/-- The place and the length of the first longest run of zeros among the places from `i` on. -/
def longestZeros (i : Nat) : List Nat → Nat × Nat
  | [] => (i, 0)
  | p :: rest =>
    let later := longestZeros (i + 1) rest
    let here := leadingZeros (p :: rest)
    if later.2 ≤ here then (i, here) else later

/-- Pieces in lower-case hexadecimal with colons between them. -/
def piecesText (pieces : List Nat) : List Char :=
  [':'].intercalate (pieces.map (Nat.toDigits 16))

/-- An IPv6 address with its first longest run of two or more zeros left out. -/
def ipv6Text (pieces : List Nat) : List Char :=
  let (start, length) := longestZeros 0 pieces
  if 2 ≤ length then
    piecesText (pieces.take start) ++ ':' :: ':' :: piecesText (pieces.drop (start + length))
  else piecesText pieces

end ODataSession.Url
