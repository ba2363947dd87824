/-!
# TOML values

Numbers with a fraction are kept as they were written, dates in one form.
-/

namespace CommandShell.Toml

/-- A value of a TOML document. -/
inductive Value where
  | string (s : String)
  | integer (n : Int)
  | float (text : String)
  | boolean (b : Bool)
  | datetime (text : String)
  | array (items : List Value)
  /-- Keys and values, in the order of the document. -/
  | table (entries : List (String × Value))
  deriving Repr

instance : Inhabited Value := ⟨.boolean false⟩

/-- The value of a key in a list of keys and values. -/
def lookup (entries : List (String × Value)) (key : String) : Option Value :=
  entries.lookup key

end CommandShell.Toml
