/-!
# TOML values

What a TOML document says: a table of values under keys. A value is a text, a number, a flag, a
moment in time, a list or a table.
-/

namespace EgressWatch

/-- A TOML value. -/
inductive Toml where
  | text (s : String)
  | integer (n : Int)
  | real (x : Float)
  | flag (b : Bool)
  /-- A date, a time of day or both, in its normal form. -/
  | moment (s : String)
  | list (items : List Toml)
  | table (entries : List (String × Toml))

namespace Toml

/-- The value under a key. -/
def find? (key : String) (entries : List (String × Toml)) : Option Toml :=
  (entries.find? fun e => e.1 == key).map (·.2)

end Toml

end EgressWatch
