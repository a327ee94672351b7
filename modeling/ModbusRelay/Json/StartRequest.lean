import ModbusRelay.Json.Skip

/-!
The body of a start request: an object with the fields `listen_host`, `listen_port`,
`target_host` and `target_port`, or a list of the four in this order.

The listening address has a default. The two target fields may be missing or `null`. Other fields
are skipped, a field that occurs twice is an error, and the text is read from left to right up to
the first problem, whether of form or of type.
-/

namespace ModbusRelay

/-- What a start request asks for; a missing target is the business of whoever answers it. -/
structure StartRequest where
  listenHost : String := "0.0.0.0"
  listenPort : UInt16 := 5020
  targetHost : Option String := none
  targetPort : Option UInt16 := none
  deriving DecidableEq, Repr

namespace Json

/-! ## Values of a known type -/

/-- What is wrong with a value that is not of the expected type. A value that is not well formed is
wrong in that way; of a list or an object only the bracket is looked at. -/
def typeError (expected : JsonExpected) (cs : List Char) : JsonError :=
  let found : Except JsonError JsonFound :=
    match cs with
    | 'n' :: rest => (readWord "ull".toList rest).map fun _ => .null
    | 't' :: rest => (readWord "rue".toList rest).map fun _ => .boolean true
    | 'f' :: rest => (readWord "alse".toList rest).map fun _ => .boolean false
    | '-' :: rest => (readNumber true rest).map (.number ·.1)
    | '"' :: rest => (readString [] rest).map (.string ·.1)
    | '[' :: _ => .ok .sequence
    | '\x7b' :: _ => .ok .map
    | c :: rest =>
      if isDigit c then (readNumber false (c :: rest)).map (.number ·.1)
      else .error .expectedValue
    | [] => .error .expectedValue
  match found with
  | .ok found => .invalidType found expected
  | .error e => e

/-- A value that has to be a string. -/
def readText (cs : List Char) : Except JsonError (String × List Char) :=
  match skipSpace cs with
  | [] => .error .endInValue
  | '"' :: rest => readString [] rest
  | cs => .error (typeError .text cs)

/-- The port that a number is. -/
def portOf : JsonNumber → Except JsonError UInt16
  | .unsigned n =>
    if n ≤ maxPort then .ok n.toUInt16 else .error (.invalidValue (.unsigned n) .port)
  | .negative n => .error (.invalidValue (.negative n) .port)
  | .fraction s x => .error (.invalidType (.number (.fraction s x)) .port)

/-- A value that has to be a port. -/
def readPort (cs : List Char) : Except JsonError (UInt16 × List Char) := do
  let (n, rest) ←
    match skipSpace cs with
    | [] => .error .endInValue
    | '-' :: rest => readNumber true rest
    | c :: rest =>
      if isDigit c then readNumber false (c :: rest)
      else .error (typeError .port (c :: rest))
  return (← portOf n, rest)

/-- A value that may also be `null`. -/
def readOptional {α : Type} (read : List Char → Except JsonError (α × List Char))
    (cs : List Char) : Except JsonError (Option α × List Char) :=
  match skipSpace cs with
  | 'n' :: rest => do return (none, ← readWord "ull".toList rest)
  | cs => do
    let (a, rest) ← read cs
    return (some a, rest)

/-! ## The object -/

/-- The fields read so far. -/
structure Fields where
  listenHost : Option String := none
  listenPort : Option UInt16 := none
  targetHost : Option (Option String) := none
  targetPort : Option (Option UInt16) := none

/-- The request of the fields, with the defaults for those that are missing. -/
def Fields.request (f : Fields) : StartRequest :=
  { listenHost := f.listenHost.getD "0.0.0.0"
    listenPort := f.listenPort.getD 5020
    targetHost := f.targetHost.join
    targetPort := f.targetPort.join }

/-- Reads the value of a field that must not have occurred yet. -/
def readField {α : Type} (name : String) (seen : Option α)
    (read : List Char → Except JsonError (α × List Char)) (cs : List Char) :
    Except JsonError (α × List Char) :=
  if seen.isSome then .error (.duplicateField name) else do read (← skipColon cs)

/-- Reads the value of the field with the given key. -/
def readMember (f : Fields) (key : String) (cs : List Char) :
    Except JsonError (Fields × List Char) := do
  match key with
  | "listen_host" =>
    let (a, rest) ← readField key f.listenHost readText cs
    return ({ f with listenHost := some a }, rest)
  | "listen_port" =>
    let (a, rest) ← readField key f.listenPort readPort cs
    return ({ f with listenPort := some a }, rest)
  | "target_host" =>
    let (a, rest) ← readField key f.targetHost (readOptional readText) cs
    return ({ f with targetHost := some a }, rest)
  | "target_port" =>
    let (a, rest) ← readField key f.targetPort (readOptional readPort) cs
    return ({ f with targetPort := some a }, rest)
  | _ => return (f, ← skipValue (← skipColon cs))

/-- The characters from the next key on, or `none` with what follows the end of the object. -/
def nextKey (first : Bool) (cs : List Char) : Except JsonError (Bool × List Char) :=
  match skipSpace cs with
  | [] => .error .endInObject
  | '\x7d' :: rest => .ok (false, rest)
  | c :: rest =>
    if first then
      if c = '"' then .ok (true, rest) else .error .keyNoString
    else if c = ',' then
      match skipSpace rest with
      | '"' :: rest => .ok (true, rest)
      | '\x7d' :: _ => .error .trailingComma
      | _ :: _ => .error .keyNoString
      | [] => .error .endInValue
    else .error .expectedObjectCommaOrEnd

/-- Reads the members of an object; the fuel bounds their number. -/
def readMembers :
    Nat → Bool → Fields → List Char → Except JsonError (StartRequest × List Char)
  | 0, _, _, _ => .error .endInObject
  | fuel + 1, first, f, cs => do
    let (more, rest) ← nextKey first cs
    if more then
      let (key, rest) ← readString [] rest
      let (f, rest) ← readMember f key rest
      readMembers fuel false f rest
    else return (f.request, rest)

/-! ## The list -/

/-- Whether there is one more element, and the characters from there on. -/
def nextElement (first : Bool) (cs : List Char) : Except JsonError (Bool × List Char) :=
  match skipSpace cs with
  | [] => .error .endInList
  | ']' :: rest => .ok (false, ']' :: rest)
  | c :: rest =>
    if first then .ok (true, c :: rest)
    else if c = ',' then
      match skipSpace rest with
      | ']' :: _ => .error .trailingComma
      | [] => .error .endInValue
      | rest => .ok (true, rest)
    else .error .expectedListCommaOrEnd

/-- Reads one element, if there is one. -/
def readElement {α : Type} (first : Bool)
    (read : List Char → Except JsonError (α × List Char)) (cs : List Char) :
    Except JsonError (Option α × List Char) := do
  let (more, rest) ← nextElement first cs
  if more then
    let (a, rest) ← read rest
    return (some a, rest)
  else return (none, rest)

/-- The end of a list after its last element. -/
def endOfList (cs : List Char) : Except JsonError (List Char) :=
  match skipSpace cs with
  | [] => .error .endInList
  | ']' :: rest => .ok rest
  | ',' :: rest => .error (if (skipSpace rest).head? = some ']' then .trailingComma
      else .trailingCharacters)
  | _ => .error .trailingCharacters

/-- Reads the four fields as a list. -/
def readElements (cs : List Char) : Except JsonError (StartRequest × List Char) := do
  let (listenHost, cs) ← readElement true readText cs
  let (listenPort, cs) ← readElement listenHost.isNone readPort cs
  let first := listenHost.isNone && listenPort.isNone
  let (targetHost, cs) ← readElement first (readOptional readText) cs
  if targetHost.isNone then .error (.invalidLength 2)
  let (targetPort, cs) ← readElement false (readOptional readPort) cs
  if targetPort.isNone then .error (.invalidLength 3)
  let cs ← endOfList cs
  return (Fields.request ⟨listenHost, listenPort, targetHost, targetPort⟩, cs)

end Json

namespace StartRequest

/-- Reads a whole body. -/
def parse (text : String) : Except JsonError StartRequest := do
  let (request, rest) ←
    match Json.skipSpace text.toList with
    | [] => .error .endInValue
    | '[' :: rest => Json.readElements rest
    | '\x7b' :: rest => Json.readMembers text.length true {} rest
    | cs => .error (Json.typeError .startRequest cs)
  if (Json.skipSpace rest).isEmpty then return request else .error .trailingCharacters

end StartRequest

end ModbusRelay
