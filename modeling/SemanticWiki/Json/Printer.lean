import SemanticWiki.Text.Numeral

/-! Structured data: what lexicon files and reports hold. It is written with every item and every field
on a line of its own. -/

namespace SemanticWiki

inductive JsonValue where
  | null
  | boolean (on : Bool)
  /-- A number, as written. -/
  | number (text : String)
  | string (text : String)
  | array (items : List JsonValue)
  | object (fields : List (String × JsonValue))

namespace JsonValue

def escapeChar (c : Char) : String :=
  match c with
  | '"' => "\\\""
  | '\\' => "\\\\"
  | '\x08' => "\\b"
  | '\t' => "\\t"
  | '\n' => "\\n"
  | '\x0c' => "\\f"
  | '\r' => "\\r"
  | c => if c.toNat < 0x20 then "\\u" ++ Text.hexText 4 c.toNat else c.toString

def printString (text : String) : String :=
  "\"" ++ String.join (text.toList.map escapeChar) ++ "\""

mutual

def print (indent : String) : JsonValue → String
  | null => "null"
  | boolean true => "true"
  | boolean false => "false"
  | number text => text
  | string text => printString text
  | array [] => "[]"
  | array (item :: items) =>
    let inner := indent ++ "  "
    "[\n" ++ inner ++ print inner item ++ printItems inner items ++ "\n" ++ indent ++ "]"
  | object [] => "\x7b\x7d"
  | object ((key, v) :: fields) =>
    let inner := indent ++ "  "
    "\x7b\n" ++ inner ++ printString key ++ ": " ++ print inner v ++ printFields inner fields ++
      "\n" ++ indent ++ "\x7d"

def printItems (indent : String) : List JsonValue → String
  | [] => ""
  | item :: items => ",\n" ++ indent ++ print indent item ++ printItems indent items

def printFields (indent : String) : List (String × JsonValue) → String
  | [] => ""
  | (key, v) :: fields =>
    ",\n" ++ indent ++ printString key ++ ": " ++ print indent v ++ printFields indent fields

end

end JsonValue

end SemanticWiki
