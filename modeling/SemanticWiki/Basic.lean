/-! Serial numbers, by which elements and sentences are known, and diagnostics. Every refusal has a
cause, and each part of the library has an inductive type of its causes. A cause is shown to an editor
of the wiki as a diagnostic. -/

namespace SemanticWiki

structure Serial where
  val : Nat
  pos : 0 < val
  fits : val < UInt64.size
deriving DecidableEq

namespace Serial

def ofNat? (n : Nat) : Option Serial :=
  if h : 0 < n ∧ n < UInt64.size then some ⟨n, h.1, h.2⟩ else none

def first : Serial := ⟨1, by decide, by decide⟩

/-- The next number; the largest one is its own successor. -/
def succ (n : Serial) : Serial :=
  if h : n.val + 1 < UInt64.size then ⟨n.val + 1, by omega, h⟩ else n

end Serial

structure Diagnostic where
  code : String
  message : String
  help : String
deriving DecidableEq

end SemanticWiki
