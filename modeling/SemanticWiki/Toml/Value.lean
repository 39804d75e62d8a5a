/-! The values of the configuration language. -/

namespace SemanticWiki.Toml

/-- How a table came about. It decides whether the table may be extended later on. -/
inductive Origin where
  /-- Opened by a header of its own. -/
  | header
  /-- Mentioned on the way to a header. -/
  | path
  /-- Mentioned on the way to a dotted key. -/
  | dotted
  /-- Written in braces. -/
  | inline
deriving DecidableEq

inductive Value where
  | string (text : String)
  | integer (n : Int)
  | float (text : String)
  | boolean (on : Bool)
  | datetime (text : String)
  | array (items : List Value)
  | table (origin : Origin) (entries : List (String × Value))
  /-- An array of tables, each opened by a header. -/
  | tables (items : List (List (String × Value)))

abbrev Entries := List (String × Value)

def Entries.put (key : String) (v : Value) : Entries → Entries
  | [] => [(key, v)]
  | (k, w) :: rest => if k = key then (key, v) :: rest else (k, w) :: Entries.put key v rest

end SemanticWiki.Toml
