import ModbusRelay.Text.Blank

/-!
What to do with a request whose transaction id is still in flight.
-/

namespace ModbusRelay

/-- The two ways to treat a transaction id that is in flight. -/
inductive DuplicatePolicy where
  /-- Refuse the newer request while the older one is younger than the request timeout. An older
  one counts as orphaned and is replaced. -/
  | reject
  /-- Always replace the older request, which is then never answered. -/
  | replace
  deriving DecidableEq, Repr, Inhabited

namespace DuplicatePolicy

/-- The policy of a name; blanks around it and the case of its letters do not matter. -/
def parse? (name : String) : Option DuplicatePolicy :=
  match lowerAscii (trimBlank name) with
  | "reject" => some .reject
  | "replace" | "overwrite" => some .replace
  | _ => none

/-- The name of a policy. -/
def name : DuplicatePolicy → String
  | .reject => "reject"
  | .replace => "replace"

end DuplicatePolicy

end ModbusRelay
