import TitleLint.Document.Node

/-!
Anchors and aliases. An anchor is numbered by the names that are known before it, so one that takes a
name again has the number of the next new name, and the last anchor of a number counts.
-/

namespace TitleLint

/-- What a text holds: a node, unless there is nothing in it. -/
structure Document where
  root : Option (Document.Node Nat)

namespace Document

/-- A node without its anchor; an alias is none. -/
inductive View where
  | scalar (text : String) (style : ScalarStyle) (tag : Option String)
  | sequence (items : List (Node Nat)) (tag : Option String)
  | mapping (entries : List (Node Nat × Node Nat)) (tag : Option String)

namespace Node

abbrev Numbers := List (String × Nat)

mutual

/-- Gives every anchor its number and every alias the number of its name. -/
def number : Node String → StateT Numbers Option (Node Nat)
  | .scalar text style tag => return .scalar text style tag
  | .sequence items tag => return .sequence (← numberItems items) tag
  | .mapping entries tag => return .mapping (← numberEntries entries) tag
  | .alias name => do
    match (← get).lookup name with
    | some n => return .alias n
    | none => failure
  | .anchored name node => do
    let known ← get
    set ((name, known.length) :: known.filter (·.1 ≠ name))
    return .anchored known.length (← number node)

def numberItems : List (Node String) → StateT Numbers Option (List (Node Nat))
  | [] => return []
  | n :: ns => return (← number n) :: (← numberItems ns)

def numberEntries : List (Node String × Node String) → StateT Numbers Option (List (Node Nat × Node Nat))
  | [] => return []
  | (k, v) :: entries => return (← number k, ← number v) :: (← numberEntries entries)

end

mutual

/-- The nodes that have an anchor, in the order in which they begin. -/
def anchors : Node Nat → List (Nat × Node Nat)
  | .scalar .. => []
  | .sequence items _ => anchorsOfItems items
  | .mapping entries _ => anchorsOfEntries entries
  | .alias _ => []
  | .anchored n node => (n, node) :: anchors node

def anchorsOfItems : List (Node Nat) → List (Nat × Node Nat)
  | [] => []
  | n :: ns => anchors n ++ anchorsOfItems ns

def anchorsOfEntries : List (Node Nat × Node Nat) → List (Nat × Node Nat)
  | [] => []
  | (k, v) :: entries => anchors k ++ anchors v ++ anchorsOfEntries entries

end

mutual

/-- How many scalars, aliases, beginnings and ends a node consists of. -/
def size : Node Nat → Nat
  | .scalar .. => 1
  | .sequence items _ => sizeOfItems items + 2
  | .mapping entries _ => sizeOfEntries entries + 2
  | .alias _ => 1
  | .anchored _ node => size node

def sizeOfItems : List (Node Nat) → Nat
  | [] => 0
  | n :: ns => size n + sizeOfItems ns

def sizeOfEntries : List (Node Nat × Node Nat) → Nat
  | [] => 0
  | (k, v) :: entries => size k + size v + sizeOfEntries entries

end

def view? : Node Nat → Option View
  | .scalar text style tag => some (.scalar text style tag)
  | .sequence items tag => some (.sequence items tag)
  | .mapping entries tag => some (.mapping entries tag)
  | .alias _ => none
  | .anchored _ node => view? node

end Node

def ofText? (text : String) : Option Document := do
  match ← Node.ofTokens? (← Token.ofText? text) with
  | none => return ⟨none⟩
  | some root => return ⟨some (← root.number.run []).1⟩

/-- A node, or the one that an alias stands for. -/
def view? (d : Document) : Node Nat → Option View
  | .alias n => (d.root.bind fun root => root.anchors.reverse.lookup n).bind Node.view?
  | n => n.view?

end Document

end TitleLint
