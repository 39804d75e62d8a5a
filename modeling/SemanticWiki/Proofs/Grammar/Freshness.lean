import SemanticWiki.Grammar.Handler
import SemanticWiki.Proofs.Ontology.Revision

/-! Indexes that are kept. A handler works with the index that it has as long as the ontology is at
the revision of the index. Since no two states of the ontology that differ in their words have one
revision, such an index is as good as a new one. -/

namespace SemanticWiki

open Ontology

namespace Handler

variable {h : Handler} {o o' : Ontology}

def Fresh (h : Handler) (o : Ontology) : Prop :=
  ∀ index, h.cache = some index → index.revision ≤ o.revision ∧
    (index.revision = o.revision → index = h.language.index o.revision o.elements)

theorem fresh_new (g : ConcreteGrammar) (o : Ontology) : (new g).Fresh o := fun _ hcache => nomatch hcache

theorem Fresh.of_precedes (hfresh : h.Fresh o) (hprecedes : Precedes o o') : h.Fresh o' := by
  intro index hcache
  obtain ⟨hbehind, hright⟩ := hfresh index hcache
  rcases hprecedes with hmoved | ⟨allocator, rfl⟩
  · exact ⟨by omega, by omega⟩
  · exact ⟨hbehind, hright⟩

theorem Fresh.refresh (hfresh : h.Fresh o) :
    (h.refresh o).2.language = h.language ∧ (h.refresh o).2.Fresh o := by
  unfold Handler.refresh
  dsimp only
  split
  · refine ⟨rfl, fun index hcache => ?_⟩
    obtain rfl := Option.some.inj hcache
    exact ⟨Nat.le_refl _, fun _ => rfl⟩
  · exact ⟨rfl, hfresh⟩

theorem Fresh.lexicon (hfresh : h.Fresh o) :
    (h.lexicon o).1 = h.language.index o.revision o.elements ∧
      (h.lexicon o).2.language = h.language ∧ (h.lexicon o).2.Fresh o := by
  unfold Handler.lexicon
  split
  · rename_i index hcache
    split
    · rename_i hcurrent
      exact ⟨(hfresh index hcache).2 hcurrent, rfl, hfresh⟩
    · exact ⟨rfl, hfresh.refresh⟩
  · exact ⟨rfl, hfresh.refresh⟩

end Handler

end SemanticWiki
