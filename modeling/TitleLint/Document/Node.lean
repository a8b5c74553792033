import TitleLint.Document.Layout

/-!
The nodes of a document, read from its tokens. A text holds one document, or nothing at all.
-/

namespace TitleLint.Document

/-- A node, with its tag if it has one. Anchors and aliases are named by `α`. -/
inductive Node (α : Type) where
  | scalar (text : String) (style : ScalarStyle) (tag : Option String)
  | sequence (items : List (Node α)) (tag : Option String)
  | mapping (entries : List (Node α × Node α)) (tag : Option String)
  | alias (name : α)
  | anchored (name : α) (node : Node α)

/-- What stands where nothing is written. -/
def Node.blank {α : Type} : Node α := .scalar "" .plain none

/-- The beginnings of tags that handles stand for. -/
abbrev Handles := List (String × String)

abbrev Reading := StateT (List Token) Option

namespace Reading

def peek? : Reading (Option Token) := return (← get).head?

def skip : Reading Unit := modify (·.drop 1)

/-- Passes a token if it comes next. -/
def takeIf (t : Token) : Reading Bool := do
  if (← peek?) == some t then
    skip
    return true
  return false

/-- Reads a node, unless one of these tokens comes next. -/
def orBlank {α : Type} (ends : List Token) (read : Reading (Node α)) : Reading (Node α) := do
  if (← peek?).any ends.contains then return .blank else read

/-- A value, if there is one, that stands before one of these tokens. -/
def value {α : Type} (ends : List Token) (read : Reading (Node α)) : Reading (Node α) := do
  if ← takeIf .value then orBlank ends read else return .blank

/-- Whether another entry comes between brackets. A comma stands before all but the first. -/
def hasEntry (isFirst : Bool) (close : Token) : Reading Bool := do
  if ← takeIf close then return false
  if isFirst then return true
  if ← takeIf .flowEntry then return !(← takeIf close)
  failure

/-! ### Anchors and tags -/

def anchor? : Reading (Option String) := do
  match ← peek? with
  | some (.anchor name) =>
    skip
    return some name
  | _ => return none

def tag? (handles : Handles) : Reading (Option String) := do
  match ← peek? with
  | some (.tag "" suffix) =>
    skip
    return some suffix
  | some (.tag handle suffix) =>
    skip
    match handles.lookup handle with
    | some start => return some (start ++ suffix)
    | none => failure
  | _ => return none

/-- The anchor and the tag of a node, in either order. -/
def properties (handles : Handles) : Reading (Option String × Option String) := do
  match ← anchor? with
  | some name => return (some name, ← tag? handles)
  | none =>
    match ← tag? handles with
    | some tag => return (← anchor?, some tag)
    | none => return (none, none)

/-! ### Nodes -/

mutual

/-- A node. In brackets there are no blocks, and only a mapping's node can be a sequence without
indentation. -/
def node (handles : Handles) (inBlock indentless : Bool) : Nat → Reading (Node String)
  | 0 => failure
  | fuel + 1 => do
    match ← peek? with
    | some (.alias name) =>
      skip
      return .alias name
    | _ =>
      let (anchor, tag) ← properties handles
      let n ← content handles inBlock indentless (anchor.isSome || tag.isSome) tag fuel
      match anchor with
      | some name => return .anchored name n
      | none => return n

def content (handles : Handles) (inBlock indentless canBeBlank : Bool) (tag : Option String) :
    Nat → Reading (Node String)
  | 0 => failure
  | fuel + 1 => do
    match ← peek?, inBlock, indentless with
    | some .blockEntry, _, true => return .sequence (← looseItems handles fuel) tag
    | some (.scalar text style), _, _ =>
      skip
      return .scalar text style (tag.filter (· ≠ "!"))
    | some .flowSequenceStart, _, _ =>
      skip
      return .sequence (← flowItems handles true fuel) tag
    | some .flowMappingStart, _, _ =>
      skip
      return .mapping (← flowEntries handles true fuel) tag
    | some .blockSequenceStart, true, _ =>
      skip
      return .sequence (← blockItems handles fuel) tag
    | some .blockMappingStart, true, _ =>
      skip
      return .mapping (← blockEntries handles fuel) tag
    | _, _, _ => if canBeBlank then return .scalar "" .plain tag else failure

def blockItems (handles : Handles) : Nat → Reading (List (Node String))
  | 0 => failure
  | fuel + 1 => do
    if ← takeIf .blockEnd then return []
    if ← takeIf .blockEntry then
      let item ← orBlank [.blockEntry, .blockEnd] (node handles true false fuel)
      return item :: (← blockItems handles fuel)
    failure

/-- The items of a sequence that is not indented more than the mapping around it. -/
def looseItems (handles : Handles) : Nat → Reading (List (Node String))
  | 0 => failure
  | fuel + 1 => do
    if ← takeIf .blockEntry then
      let item ← orBlank [.blockEntry, .key, .value, .blockEnd] (node handles true false fuel)
      return item :: (← looseItems handles fuel)
    return []

def blockEntries (handles : Handles) : Nat → Reading (List (Node String × Node String))
  | 0 => failure
  | fuel + 1 => do
    if ← takeIf .blockEnd then return []
    if ← takeIf .key then
      let ends := [.key, .value, .blockEnd]
      let key ← orBlank ends (node handles true true fuel)
      let v ← value ends (node handles true true fuel)
      return (key, v) :: (← blockEntries handles fuel)
    failure

def flowItems (handles : Handles) (isFirst : Bool) : Nat → Reading (List (Node String))
  | 0 => failure
  | fuel + 1 => do
    if !(← hasEntry isFirst .flowSequenceEnd) then return []
    let item ←
      if ← takeIf .key then
        pure (.mapping [← pair handles fuel] none)
      else node handles false false fuel
    return item :: (← flowItems handles false fuel)

/-- A mapping of one entry among the items of a sequence. After a key that is left out, a token is
lost. -/
def pair (handles : Handles) : Nat → Reading (Node String × Node String)
  | 0 => failure
  | fuel + 1 => do
    let key ←
      if (← peek?).any [Token.value, .flowEntry, .flowSequenceEnd].contains then
        skip
        pure .blank
      else node handles false false fuel
    return (key, ← value [.flowEntry, .flowSequenceEnd] (node handles false false fuel))

def flowEntries (handles : Handles) (isFirst : Bool) : Nat → Reading (List (Node String × Node String))
  | 0 => failure
  | fuel + 1 => do
    if !(← hasEntry isFirst .flowMappingEnd) then return []
    let entry ←
      if ← takeIf .key then
        let key ← orBlank [.value, .flowEntry, .flowMappingEnd] (node handles false false fuel)
        pure (key, ← value [.flowEntry, .flowMappingEnd] (node handles false false fuel))
      else pure (← node handles false false fuel, .blank)
    return entry :: (← flowEntries handles false fuel)

end

/-! ### Documents -/

/-- The handles that directives give. -/
def directives (hasVersion : Bool) (handles : Handles) : List Token → Option (Handles × List Token)
  | .versionDirective major minor :: ts =>
    if hasVersion ∨ major ≠ 1 ∨ (minor ≠ 1 ∧ minor ≠ 2) then none
    else directives true handles ts
  | .tagDirective handle start :: ts =>
    if (handles.lookup handle).isSome then none
    else directives hasVersion (handles ++ [(handle, start)]) ts
  | ts => some (handles, ts)

/-- The handles that every document knows. -/
def commonHandles : Handles := [("!", "!"), ("!!", "tag:yaml.org,2002:")]

def isDocumentMark : Token → Bool
  | .versionDirective .. | .tagDirective .. | .documentStart | .documentEnd => true
  | _ => false

/-- The root of a document that is announced. -/
def announced (ts : List Token) : Option (Node String × List Token) :=
  match directives false [] ts with
  | some (handles, .documentStart :: ts) =>
    if ts.head?.all isDocumentMark then some (.blank, ts)
    else node (handles ++ commonHandles) true false (3 * ts.length + 3) ts
  | _ => none

end Reading

/-- The root of the document that tokens are, if there is one at all. -/
def Node.ofTokens? (ts : List Token) : Option (Option (Node String)) :=
  match ts with
  | [] => some none
  | t :: _ => do
    let (root, rest) ←
      match t with
      | .versionDirective .. | .tagDirective .. | .documentStart => Reading.announced ts
      | _ => Reading.node Reading.commonHandles true false (3 * ts.length + 3) ts
    if rest.all (· == .documentEnd) then some (some root) else none

end TitleLint.Document
