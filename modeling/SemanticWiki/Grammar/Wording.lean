import SemanticWiki.Grammar.Binding
import SemanticWiki.Grammar.Index
import SemanticWiki.Text.Letter

/-! Writing sentences. The output rule of a statement yields pieces, which are joined by spaces
except where a mark leans on its neighbour; the first letter of the sentence becomes a capital. -/

namespace SemanticWiki

structure Piece where
  text : List Char
  isMark : Bool
deriving DecidableEq

namespace Piece

/-- An opening mark leans on what follows, all others on what precedes. -/
def isOpening (p : Piece) : Bool := p.isMark && (p.text == ['¿'] || p.text == ['¡'])

def isClosing (p : Piece) : Bool := p.isMark && !p.isOpening

/-- Appends the pieces to `text`; `glue` tells whether the last one was an opening mark. -/
def joinAfter (text : List Char) (glue : Bool) : List Piece → List Char
  | [] => text
  | p :: rest =>
    let space := if text.isEmpty || p.isClosing || glue then [] else [' ']
    joinAfter (text ++ space ++ p.text) p.isOpening rest

def capitalizeFirstLetter (text : List Char) : List Char :=
  text.takeWhile (!Text.isLetter ·) ++ Grammar.capitalize (text.dropWhile (!Text.isLetter ·))

def join (pieces : List Piece) : List Char := capitalizeFirstLetter (joinAfter [] false pieces)

end Piece

namespace Language

def failed (g : Language) (cat : Cat) (fault : WordingFault) : GrammarError :=
  .linearizationFailed cat g.code fault

def argument (g : Language) (b : Binding) (role : Role) (cat : Cat) :
    Except GrammarError ElementId :=
  match b.get? role with
  | some id => .ok id
  | none => .error (g.failed cat (.missingArgument role))

def surface (g : Language) (index : LexIndex) (cat : Cat) (id : ElementId) :
    Except GrammarError String :=
  match index.surface? id cat with
  | some surface => .ok surface
  | none => .error (g.failed cat (.missingForm id.val cat))

def spelled (g : Language) : List String → Except GrammarError (List Piece)
  | [] => .error (g.failed .nounSg .noSpelling)
  | text :: _ => .ok [⟨text.toList, false⟩]

def piecesOfItem (g : Language) (index : LexIndex) (b : Binding) :
    Item → Except GrammarError (List Piece)
  | .keyword spellings => g.spelled spellings
  | .mark text => .ok [⟨text.toList, true⟩]
  | .indefinite role =>
    match g.indefinite with
    | .fixed spellings => g.spelled spellings
    | .bySound => do
      let noun ← g.surface index .nounSg (← g.argument b role .nounSg)
      return [⟨(Grammar.article noun).toList, false⟩]
  | .name role => do
    let id ← g.argument b role .properName
    let article := if index.isDefinite id then g.definite.head?.toList else []
    let name ← g.surface index .properName id
    return (article ++ [name]).map fun text => ⟨text.toList, false⟩
  | .word role cat => do
    let word ← g.surface index cat (← g.argument b role cat)
    return [⟨word.toList, false⟩]

def piecesOfItems (g : Language) (index : LexIndex) (b : Binding) :
    List Item → Except GrammarError (List Piece)
  | [] => .ok []
  | item :: items => do
    let first ← g.piecesOfItem index b item
    let rest ← g.piecesOfItems index b items
    return first ++ rest

def linearize (g : Language) (index : LexIndex) (s : Statement) (question : Bool) :
    Except GrammarError String := do
  let construct ← s.construct index.kindOf
  match g.outputRule? construct question with
  | none => throw (g.failed .nounSg (.noRule construct question))
  | some r =>
    let pieces ← g.piecesOfItems index (.ofStatement s) r.items
    return String.ofList (Piece.join pieces)

end Language

end SemanticWiki
