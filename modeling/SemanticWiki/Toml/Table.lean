import SemanticWiki.Toml.Value

/-! Building tables. Keys may be dotted and tables may be opened by headers in any order, but nothing
is defined twice: a table that has a header or is written in braces is closed to dotted keys, and a
table that dotted keys have made is closed to headers. -/

namespace SemanticWiki.Toml

/-- Follows a path and changes the table at its end. Missing tables on the way are made, of the
given origin; in an array of tables the path leads into the last one. -/
def changeAt (onTheWay : Origin) (change : Origin → Entries → Option Entries) :
    List String → Origin → Entries → Option Entries
  | [], origin, entries => change origin entries
  | key :: path, _, entries =>
    match entries.lookup key with
    | none => do
      let inner ← changeAt onTheWay change path onTheWay []
      return entries.put key (.table onTheWay inner)
    | some (.table origin inner) =>
      if origin = .inline ∨ (onTheWay = .dotted ∧ origin = .header) then none
      else do
        let inner ← changeAt onTheWay change path origin inner
        return entries.put key (.table origin inner)
    | some (.tables items) => do
      let inner ← changeAt onTheWay change path .header (← items.getLast?)
      return entries.put key (.tables (items.dropLast ++ [inner]))
    | some _ => none

structure Key where
  path : List String
  last : String

/-- Adds one pair to a table. Only tables made by dotted keys can be reached by them. -/
def insertPair (entries : Entries) (key : Key) (v : Value) : Option Entries :=
  changeAt .dotted
    (fun origin entries =>
      if ¬ key.path.isEmpty ∧ origin ≠ .dotted then none
      else if (entries.lookup key.last).isSome then none
      else some (entries.put key.last v))
    key.path .header entries

def insertPairs (entries : Entries) (pairs : List (Key × Value)) : Option Entries :=
  pairs.foldlM (fun entries (key, v) => insertPair entries key v) entries

structure Section where
  key : Key
  /-- Whether the header adds a table to an array. -/
  isItem : Bool
  pairs : List (Key × Value)

/-- Opens the table of a header. A table that has only been mentioned on the way to another header
may still be opened, and keeps what it holds. -/
def addSection (root : Entries) (s : Section) : Option Entries :=
  changeAt .path
    (fun _ entries =>
      match s.isItem, entries.lookup s.key.last with
      | false, none => do
        return entries.put s.key.last (.table .header (← insertPairs [] s.pairs))
      | false, some (.table .path inner) => do
        return entries.put s.key.last (.table .header (← insertPairs inner s.pairs))
      | true, none => do
        return entries.put s.key.last (.tables [← insertPairs [] s.pairs])
      | true, some (.tables items) => do
        return entries.put s.key.last (.tables (items ++ [← insertPairs [] s.pairs]))
      | _, _ => none)
    s.key.path .header root

def assemble (pairs : List (Key × Value)) (sections : List Section) : Option Entries := do
  sections.foldlM addSection (← insertPairs [] pairs)

end SemanticWiki.Toml
