import SemanticWiki.Reason.Closure

/-! A closure keeps its individuals and its negative assertions in hash tables, and tests them in an
order that is not fixed. Nothing else in a closure is walked through in such an order. -/

namespace SemanticWiki.Reason

/-- An order in which the entries of a closure are tested, whatever they are. -/
structure IterationOrder where
  types : List (ElementId × List ElementId) → List (ElementId × List ElementId)
  types_perm : ∀ entries, (types entries).Perm entries
  negative : List (ElementId × ElementId) → List (ElementId × ElementId)
  negative_perm : ∀ pairs, (negative pairs).Perm pairs

namespace IterationOrder

def asBuilt : IterationOrder := ⟨id, .refl, id, .refl⟩

def arrange (order : IterationOrder) (closure : Closure) : Closure :=
  { closure with types := order.types closure.types, negative := order.negative closure.negative }

end IterationOrder

end SemanticWiki.Reason
