/-! Documents of nested elements. Texts and attribute values are escaped, so whatever they hold, tags
and quotes in the written document are those of its elements. -/

namespace SemanticWiki

inductive Xml where
  | text (content : String)
  | element (name : String) (attributes : List (String × String)) (children : List Xml)

namespace Xml

def escapeChar : Char → List Char
  | '&' => "&amp;".toList
  | '<' => "&lt;".toList
  | '>' => "&gt;".toList
  | '"' => "&quot;".toList
  | '\'' => "&apos;".toList
  | c => [c]

def escape (text : String) : String := String.ofList (text.toList.flatMap escapeChar)

def attributeText (attributes : List (String × String)) : String :=
  String.join (attributes.map fun (name, value) => " " ++ name ++ "=\"" ++ escape value ++ "\"")

mutual

def inline : Xml → String
  | text content => escape content
  | element name attributes [] => "<" ++ name ++ attributeText attributes ++ "/>"
  | element name attributes (child :: children) =>
    "<" ++ name ++ attributeText attributes ++ ">" ++ inline child ++ inlineAll children ++
      "</" ++ name ++ ">"

def inlineAll : List Xml → String
  | [] => ""
  | child :: children => inline child ++ inlineAll children

end

def block (indent : String) : Xml → String
  | element name attributes (child :: children) =>
    indent ++ "<" ++ name ++ attributeText attributes ++ ">\n" ++
      String.join ((child :: children).map fun c => indent ++ "    " ++ inline c ++ "\n") ++
      indent ++ "</" ++ name ++ ">\n"
  | node => indent ++ inline node ++ "\n"

def document (name : String) (attributes : List (String × String)) (children : List Xml) :
    String :=
  "<?xml version=\"1.0\"?>\n" ++ "<" ++ name ++ attributeText attributes ++ ">\n" ++
    String.join (children.map (block "    ")) ++ "</" ++ name ++ ">\n"

end Xml

end SemanticWiki
