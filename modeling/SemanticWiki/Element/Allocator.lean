import SemanticWiki.Element
import SemanticWiki.Ontology.Error

/-! Numbers for new elements come from a counter of 64 bits. The counter moves on with every
request, and the request that meets it at zero is refused. -/

namespace SemanticWiki

structure Allocator where
  next : UInt64
deriving DecidableEq

namespace Allocator

def startingAt (start : UInt64) : Allocator := ⟨if start = 0 then 1 else start⟩

def initial : Allocator := startingAt 1

def allocate (a : Allocator) : Except OntologyError ElementId × Allocator :=
  let id := if h : 0 < a.next.toNat then .ok ⟨a.next.toNat, h, a.next.toNat_lt_size⟩
    else .error .numbersExhausted
  (id, ⟨a.next + 1⟩)

end Allocator

end SemanticWiki
