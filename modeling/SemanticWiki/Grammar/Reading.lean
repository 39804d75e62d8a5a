import SemanticWiki.Grammar.Binding
import SemanticWiki.Grammar.Index

/-! Reading sentences. All rules of a language are tried on the tokens of a text, with every way to
cut the tokens into words of the lexicon. A text with more than one reading is ambiguous and is
refused; how often a reading is found does not matter. -/

namespace SemanticWiki

abbrev Reading := Statement × Bool

namespace Language

def bindings (g : Language) (index : LexIndex) :
    List Item → List String → Binding → List Binding
  | [], tokens, b => if tokens.isEmpty then [b] else []
  | .keyword spellings :: items, tokens, b =>
    match tokens with
    | [] => []
    | t :: rest => if spellings.contains t then g.bindings index items rest b else []
  | .mark text :: items, tokens, b =>
    (match tokens with
      | [] => []
      | t :: rest => if t == text then g.bindings index items rest b else []) ++
    g.bindings index items tokens b
  | .indefinite _ :: items, tokens, b =>
    match tokens with
    | [] => []
    | t :: rest => if g.isIndefinite t then g.bindings index items rest b else []
  | .word role cat :: items, tokens, b =>
    (index.matchesFront tokens cat).flatMap fun (id, n) =>
      match b.bind? role id with
      | none => []
      | some b => g.bindings index items (tokens.drop n) b
  | .name role :: items, tokens, b =>
    let named := fun tokens =>
      (index.matchesFront tokens .properName).flatMap fun (id, n) =>
        match b.bind? role id with
        | none => []
        | some b => g.bindings index items (tokens.drop n) b
    named tokens ++
      match tokens with
      | [] => []
      | t :: rest => if g.definite.contains t then named rest else []

def readingsOfRule (g : Language) (index : LexIndex) (tokens : List String) (r : Rule) :
    List Reading :=
  ((g.bindings index r.items tokens .empty).filterMap (·.assemble? r.construct)).map
    (·, r.question)

def readings (g : Language) (index : LexIndex) (tokens : List String) : List Reading :=
  if tokens.isEmpty then [] else (g.rules.flatMap (g.readingsOfRule index tokens)).eraseDups

def parse (g : Language) (index : LexIndex) (text : String) : Except GrammarError Reading :=
  match g.readings index (Grammar.tokenize text) with
  | [] => .error (.parseFailed text g.code)
  | [reading] => .ok reading
  | readings => .error (.ambiguousParse text g.code readings.length)

end Language

end SemanticWiki
