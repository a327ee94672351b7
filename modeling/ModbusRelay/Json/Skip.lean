import ModbusRelay.Json.Scan

/-!
Skipping a JSON value that nobody asked for. It must be well formed, but nothing is kept of it.

The rules are a little laxer in their answers than those for wanted values: a number that breaks
off is an invalid number even at the end of the text, and a comma before a closing bracket leads to
the complaint about whatever should have followed it.
-/

namespace ModbusRelay

namespace Json

/-- Skips the digits of an exponent, with its sign. -/
def skipExponent (cs : List Char) : Except JsonError (List Char) :=
  let (_, cs) := takeSign cs
  if cs.head?.any isDigit then .ok (skipDigits cs) else .error .invalidNumber

/-- Skips the fraction and the exponent of a number. -/
def skipAfterWhole (cs : List Char) : Except JsonError (List Char) :=
  match cs with
  | '.' :: rest =>
    if rest.head?.any isDigit then
      match skipDigits rest with
      | 'e' :: rest | 'E' :: rest => skipExponent rest
      | rest => .ok rest
    else .error .invalidNumber
  | 'e' :: rest | 'E' :: rest => skipExponent rest
  | _ => .ok cs

/-- Skips a number, after its sign. -/
def skipNumber (cs : List Char) : Except JsonError (List Char) :=
  match cs with
  | '0' :: rest => if rest.head?.any isDigit then .error .invalidNumber else skipAfterWhole rest
  | _ => if cs.head?.any isDigit then skipAfterWhole (skipDigits cs) else .error .invalidNumber

/-- Skips the colon between a key and its value. -/
def skipColon (cs : List Char) : Except JsonError (List Char) :=
  match skipSpace cs with
  | ':' :: rest => .ok rest
  | _ :: _ => .error .expectedColon
  | [] => .error .endInObject

mutual

/-- Skips a value. The fuel bounds the number of parts. -/
def skipValueWithin : Nat → List Char → Except JsonError (List Char)
  | 0, _ => .error .expectedValue
  | fuel + 1, cs =>
    match skipSpace cs with
    | [] => .error .endInValue
    | 'n' :: rest => readWord "ull".toList rest
    | 't' :: rest => readWord "rue".toList rest
    | 'f' :: rest => readWord "alse".toList rest
    | '-' :: rest => skipNumber rest
    | '"' :: rest => skipString rest
    | '[' :: rest => skipElements fuel false rest
    | '\x7b' :: rest => skipMembers fuel false rest
    | c :: rest => if isDigit c then skipNumber (c :: rest) else .error .expectedValue

/-- Skips the rest of a list; `comma` says whether a comma may come next. -/
def skipElements : Nat → Bool → List Char → Except JsonError (List Char)
  | 0, _, _ => .error .expectedValue
  | fuel + 1, comma, cs =>
    match skipSpace cs with
    | [] => .error .endInList
    | ']' :: rest => .ok rest
    | c :: rest =>
      if !comma then do skipElements fuel true (← skipValueWithin fuel (c :: rest))
      else if c = ',' then do skipElements fuel true (← skipValueWithin fuel rest)
      else .error .expectedListCommaOrEnd

/-- Skips the rest of an object; `comma` says whether a comma may come next. -/
def skipMembers : Nat → Bool → List Char → Except JsonError (List Char)
  | 0, _, _ => .error .expectedValue
  | fuel + 1, comma, cs =>
    match skipSpace cs with
    | [] => .error .endInObject
    | '\x7d' :: rest => .ok rest
    | c :: rest =>
      if !comma then do skipMembers fuel true (← skipMember fuel (c :: rest))
      else if c = ',' then do skipMembers fuel true (← skipMember fuel rest)
      else .error .expectedObjectCommaOrEnd

/-- Skips a key, a colon and a value. -/
def skipMember : Nat → List Char → Except JsonError (List Char)
  | 0, _ => .error .expectedValue
  | fuel + 1, cs =>
    match skipSpace cs with
    | [] => .error .endInObject
    | '"' :: rest => do skipValueWithin fuel (← skipColon (← skipString rest))
    | _ => .error .keyNoString

end

/-- Skips a value. -/
def skipValue (cs : List Char) : Except JsonError (List Char) :=
  skipValueWithin (4 * cs.length + 4) cs

end Json

end ModbusRelay
