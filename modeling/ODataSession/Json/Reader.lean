import ODataSession.Json.Scanner

/-!
# Reading JSON

Values read off the front of a text. After an item or a member only a comma or the closing bracket
may stand, and after a comma only the next item or member. A character of the text is used up at
least at every second nested call, so twice the length of the text is fuel enough; `readValue`
hides the fuel.
-/

namespace ODataSession.Json

/-- Reads a number in the middle of a value. -/
def scanNumberAs (reading : Reading) (s : List Char) : Except Fault (Numeral × List Char) :=
  match reading, scanNumber s with
  | .lenient, .error _ => .error .malformed
  | _, result => result

/-- Reads the colon behind the name of a member. -/
def scanColon (s : List Char) : Except Fault (List Char) :=
  match skipSpace s with
  | ':' :: rest => .ok rest
  | [] => .error .truncated
  | _ => .error .malformed

mutual

/-- Reads one value. -/
def readValueWithin (reading : Reading) : Nat → List Char → Except Fault (Json × List Char)
  | 0, _ => .error .truncated
  | fuel + 1, s =>
    match skipSpace s with
    | [] => .error .truncated
    | c :: rest =>
      if c = 'n' then (.null, ·) <$> scanWord "ull".toList rest
      else if c = 't' then (.bool true, ·) <$> scanWord "rue".toList rest
      else if c = 'f' then (.bool false, ·) <$> scanWord "alse".toList rest
      else if c = '"' then do
        let (s, rest) ← scanString reading rest
        return (.string (String.ofList s), rest)
      else if c = '[' then do
        match skipSpace rest with
        | ']' :: rest => return (.array [], rest)
        | rest =>
          let (items, rest) ← readItemsWithin reading fuel rest
          return (.array items, rest)
      else if c = '\x7b' then do
        match skipSpace rest with
        | '\x7d' :: rest => return (.object [], rest)
        | rest =>
          let (members, rest) ← readMembersWithin reading fuel rest
          return (.object members, rest)
      else if c = '-' || c.isDigit then do
        let (n, rest) ← scanNumberAs reading (c :: rest)
        return (.number n, rest)
      else .error .malformed

/-- Reads the items of an array and the closing bracket. -/
def readItemsWithin (reading : Reading) : Nat → List Char → Except Fault (List Json × List Char)
  | 0, _ => .error .truncated
  | fuel + 1, s => do
    let (v, rest) ← readValueWithin reading fuel s
    match skipSpace rest with
    | ',' :: rest =>
      let (items, rest) ← readItemsWithin reading fuel rest
      return (v :: items, rest)
    | ']' :: rest => return ([v], rest)
    | [] => throw .truncated
    | _ => throw .malformed

/-- Reads the members of an object and the closing brace. -/
def readMembersWithin (reading : Reading) :
    Nat → List Char → Except Fault (List (String × Json) × List Char)
  | 0, _ => .error .truncated
  | fuel + 1, s =>
    match skipSpace s with
    | [] => .error .truncated
    | '"' :: rest => do
      let (k, rest) ← scanString reading rest
      let rest ← scanColon rest
      let (v, rest) ← readValueWithin reading fuel rest
      match skipSpace rest with
      | ',' :: rest =>
        let (members, rest) ← readMembersWithin reading fuel rest
        return ((String.ofList k, v) :: members, rest)
      | '\x7d' :: rest => return ([(String.ofList k, v)], rest)
      | [] => throw .truncated
      | _ => throw .malformed
    | _ => .error .malformed

end

/-- Reads one value off the front of a text. -/
def readValue (reading : Reading) (s : List Char) : Except Fault (Json × List Char) :=
  readValueWithin reading (2 * s.length + 2) s

/-- Reads a text that holds one value and nothing else. -/
def parse (text : String) : Except Fault Json := do
  let (v, rest) ← readValue .exact text.toList
  if (skipSpace rest).isEmpty then return v else throw .malformed

end ODataSession.Json
