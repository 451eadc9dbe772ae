import Mathlib.Data.Rat.Defs

/-!
# JSON values

The payloads of CVE records, as `json.loads` and the `jsonb` type have them. An object
is the list of its members; its keys are distinct in a value that was parsed.
-/

namespace CveManagement

/-- A JSON value. -/
inductive Json
  | null
  | bool (b : Bool)
  | num (q : ℚ)
  | str (s : String)
  | arr (items : List Json)
  | obj (members : List (String × Json))

end CveManagement
