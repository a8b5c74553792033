import TitleLint.Document.Scalar

/-!
The tokens of a document. A key is only known as one when its colon comes, so the place of what can
be a key is kept, and the mark for it is put in front of tokens that are already there.
-/

namespace TitleLint.Document

/-- Something that becomes a key if a colon follows on its line. -/
structure PossibleKey where
  /-- The number of tokens before it. -/
  position : Nat
  index : Nat
  line : Nat
  column : Nat
  /-- Whether it must be a key. -/
  isRequired : Bool

/-- What is known of the layout of a document while its tokens are read. -/
structure Layout where
  cursor : Cursor
  tokens : Array Token := #[]
  /-- The indentation of the block around, if there is one, and those around it. -/
  indent : Option Nat := none
  outerIndents : List (Option Nat) := []
  /-- Whether a key can begin here. -/
  keyAllowed : Bool := true
  /-- The possible keys of the brackets around, the innermost first, and of the block around all. -/
  keys : List (Option PossibleKey) := [none]

namespace Layout

def inFlow (s : Layout) : Bool := 1 < s.keys.length

def push (s : Layout) (t : Token) : Layout := { s with tokens := s.tokens.push t }

/-- Puts a token in front of those from a position on. -/
def insertAt (s : Layout) (position : Nat) (t : Token) : Layout :=
  { s with tokens := (s.tokens.take position).push t ++ s.tokens.drop position }

def skipToToken (s : Layout) : Nat → Layout
  | 0 => s
  | fuel + 1 =>
    let c := s.cursor
    let c := if c.column = 0 ∧ c.isAt '\ufeff' then c.skip else c
    let c := c.skipWhile fun x => x == ' ' || (x == '\t' && (s.inFlow || !s.keyAllowed))
    let c := c.skipComment
    if c.isAtBreak then
      skipToToken { s with cursor := c.skipLine, keyAllowed := s.keyAllowed || !s.inFlow } fuel
    else { s with cursor := c }

/-- Whether something can no longer become a key: its line is over, or it is too long. -/
def isStale (c : Cursor) (k : PossibleKey) : Bool := k.line < c.line || k.index + 1024 < c.index

def dropStale (s : Layout) : Option Layout :=
  if s.keys.any fun k => k.any fun k => isStale s.cursor k && k.isRequired then none
  else some { s with keys := s.keys.map fun k => k.filter fun k => !isStale s.cursor k }

/-- Drops the possible key of the innermost brackets. -/
def dropKey (s : Layout) : Option Layout :=
  match s.keys with
  | some k :: keys => if k.isRequired then none else some { s with keys := none :: keys }
  | _ => some s

/-- Notes that what begins here can be a key. -/
def noteKey (s : Layout) : Option Layout :=
  if !s.keyAllowed then some s
  else do
    let s ← s.dropKey
    let c := s.cursor
    let k : PossibleKey :=
      { position := s.tokens.size, index := c.index, line := c.line, column := c.column
        isRequired := !s.inFlow && s.indent == some c.column }
    return { s with keys := some k :: s.keys.drop 1 }

/-- Opens a block at a column, unless the block around is at least as far in. -/
def openBlock (s : Layout) (column position : Nat) (t : Token) : Layout :=
  if s.inFlow || s.indent.any (column ≤ ·) then s
  else
    { s.insertAt position t with indent := some column, outerIndents := s.indent :: s.outerIndents }

/-- Closes the blocks that are farther in than a column, or all blocks. -/
def closeBlocks (column : Option Nat) : List (Option Nat) → Layout → Layout
  | [], s => s
  | outer :: others, s =>
    if s.indent.any fun i => column.all (· < i) then
      closeBlocks column others { s.push .blockEnd with indent := outer, outerIndents := others }
    else s

def closeTo (s : Layout) (column : Option Nat) : Layout :=
  if s.inFlow then s else closeBlocks column s.outerIndents s

/-- Passes an indicator that is a token of its own. -/
def pass (s : Layout) (n : Nat) (t : Token) : Layout :=
  { s.push t with cursor := s.cursor.skipMany n }

/-- A token that is read from here. -/
def taking (s : Layout) (r : Option (Token × Cursor)) : Option Layout :=
  r.map fun (t, c) => { s.push t with cursor := c }

/-! ### Directives, anchors and tags -/

def number? (c : Cursor) : Option (Nat × Cursor) :=
  let digits := c.rest.takeWhile Char.isDigit
  if digits.isEmpty ∨ 9 < digits.length then none
  else some (digits.foldl (fun n d => n * 10 + (d.toNat - '0'.toNat)) 0, c.skipMany digits.length)

def version? (c : Cursor) : Option (Token × Cursor) := do
  let (major, c) ← number? (c.skipWhile isBlank)
  if !c.isAt '.' then none
  let (minor, c) ← number? c.skip
  return (.versionDirective major minor, c)

/-- A handle such as `!` or `!name!`. In a directive, the second mark can only be left out of `!`. -/
def handle? (inDirective : Bool) (c : Cursor) : Option (String × Cursor) :=
  if !c.isAt '!' then none
  else
    let name := c.skip.rest.takeWhile isNameChar
    let c := c.skip.skipMany name.length
    if c.isAt '!' then some (String.ofList ('!' :: name ++ ['!']), c.skip)
    else if inDirective ∧ !name.isEmpty then none
    else some (String.ofList ('!' :: name), c)

/-- The byte of an escape such as `%41`. -/
def uriByte? (c : Cursor) : Option (UInt8 × Cursor) := do
  if !c.isAt '%' then none
  let a ← Scalar.hexDigit? (← c.ahead? 1)
  let b ← Scalar.hexDigit? (← c.ahead? 2)
  return ((16 * a + b).toUInt8, c.skipMany 3)

def uriBytes? : Nat → Cursor → Option (List UInt8 × Cursor)
  | 0, c => some ([], c)
  | n + 1, c => do
    let (b, c) ← uriByte? c
    if b &&& 0xc0 != 0x80 then none
    let (bs, c) ← uriBytes? n c
    return (b :: bs, c)

/-- The character of an escape. Its bytes are escaped one by one. -/
def uriEscape? (c : Cursor) : Option (List Char × Cursor) := do
  let (first, c) ← uriByte? c
  let others ←
    if first &&& 0x80 == 0 then some 0
    else if first &&& 0xe0 == 0xc0 then some 1
    else if first &&& 0xf0 == 0xe0 then some 2
    else if first &&& 0xf8 == 0xf0 then some 3
    else none
  let (bs, c) ← uriBytes? others c
  let text ← String.fromUTF8? ⟨(first :: bs).toArray⟩
  return (text.toList, c)

def isUriChar (verbatim : Bool) (c : Char) : Bool :=
  isNameChar c || ";/?:@&=+$.%!~*'()".toList.contains c || (verbatim && ",[]".toList.contains c)

def uriFrom (verbatim : Bool) : Nat → List Char → Cursor → Option (List Char × Cursor)
  | 0, _, _ => none
  | fuel + 1, gathered, c =>
    match c.peek? with
    | some '%' =>
      match uriEscape? c with
      | some (cs, c) => uriFrom verbatim fuel (cs.reverse ++ gathered) c
      | none => none
    | some x =>
      if isUriChar verbatim x then uriFrom verbatim fuel (x :: gathered) c.skip
      else some (gathered.reverse, c)
    | none => some (gathered.reverse, c)

/-- The address part of a tag, which goes on after `start`. -/
def uri? (verbatim : Bool) (start : List Char) (c : Cursor) : Option (String × Cursor) := do
  let (cs, c') ← uriFrom verbatim (c.rest.length + 1) [] c
  if start.isEmpty ∧ cs.isEmpty then none
  return (String.ofList (start.drop 1 ++ cs), c')

def tagDirective? (c : Cursor) : Option (Token × Cursor) := do
  let (handle, c) ← handle? true (c.skipWhile isBlank)
  if !c.isAtBlank then none
  let (start, c) ← uri? true [] (c.skipWhile isBlank)
  if c.endsWord 0 then some (.tagDirective handle start, c) else none

def directive? (c : Cursor) : Option (Token × Cursor) := do
  let c := c.skip
  let name := c.rest.takeWhile isNameChar
  let c := c.skipMany name.length
  if !c.endsWord 0 then none
  let (t, c) ←
    match String.ofList name with
    | "YAML" => version? c
    | "TAG" => tagDirective? c
    | _ => none
  let c := (c.skipWhile isBlank).skipComment
  if c.endsLine 0 then some (t, if c.isAtEnd then c else c.skipLine) else none

/-- The name of an anchor or an alias, after its indicator. -/
def anchorName? (c : Cursor) : Option (String × Cursor) :=
  let name := c.rest.takeWhile isNameChar
  let c := c.skipMany name.length
  if !name.isEmpty ∧ (c.endsWord 0 ∨ c.peek?.any fun x => "?:,]\x7d%@`".toList.contains x) then
    some (String.ofList name, c)
  else none

/-- A tag: `!<...>`, one with a handle, or one that is only for this application. -/
def tag? (inFlow : Bool) (c : Cursor) : Option (Token × Cursor) := do
  let (t, c) ←
    if c.ahead? 1 = some '<' then do
      let (suffix, c) ← uri? true [] (c.skipMany 2)
      if c.isAt '>' then some (Token.tag "" suffix, c.skip) else none
    else do
      let (handle, c) ← handle? false c
      if 1 < handle.length ∧ ['!'].isSuffixOf handle.toList then do
        let (suffix, c) ← uri? false [] c
        some (Token.tag handle suffix, c)
      else do
        let (suffix, c) ← uri? false handle.toList c
        some (if suffix.isEmpty then Token.tag "" "!" else Token.tag "!" suffix, c)
  if (inFlow ∧ c.isAt ',') ∨ c.endsWord 0 then some (t, c) else none

/-! ### The next token -/

/-- A token that can be a key, and after which none can begin at once. -/
def keyLike (s : Layout) (r : Cursor → Option (Token × Cursor)) : Option Layout := do
  let s ← s.noteKey
  { s with keyAllowed := false }.taking (r s.cursor)

/-- A mark that ends all blocks. -/
def atMargin (s : Layout) (r : Cursor → Option (Token × Cursor)) : Option Layout := do
  let s ← (s.closeTo none).dropKey
  { s with keyAllowed := false }.taking (r s.cursor)

def openFlow (s : Layout) (t : Token) : Option Layout := do
  let s ← s.noteKey
  return { s with keys := none :: s.keys, keyAllowed := true }.pass 1 t

def closeFlow (s : Layout) (t : Token) : Option Layout := do
  let s ← s.dropKey
  return { s with keys := if s.inFlow then s.keys.drop 1 else s.keys, keyAllowed := false }.pass 1 t

/-- Begins an entry of a block with an indicator. -/
def blockIndicator (s : Layout) (start t : Token) : Option Layout := do
  if !s.inFlow && !s.keyAllowed then none
  let s := s.openBlock s.cursor.column s.tokens.size start
  let s ← s.dropKey
  return { s with keyAllowed := t == Token.blockEntry || !s.inFlow }.pass 1 t

def valueIndicator (s : Layout) : Option Layout :=
  match s.keys with
  | some k :: keys =>
    let s := (s.insertAt k.position .key).openBlock k.column k.position .blockMappingStart
    some ({ s with keys := none :: keys, keyAllowed := false }.pass 1 .value)
  | _ =>
    if !s.inFlow && !s.keyAllowed then none
    else
      let s := s.openBlock s.cursor.column s.tokens.size .blockMappingStart
      some ({ s with keyAllowed := !s.inFlow }.pass 1 .value)

def blockScalar (s : Layout) (style : ScalarStyle) : Option Layout := do
  let s ← s.dropKey
  let (text, c) ← Scalar.block (style == .literal) s.indent s.cursor.skip
  return { s.push (.scalar text style) with cursor := c, keyAllowed := true }

def plainScalar (s : Layout) : Option Layout := do
  let s ← s.noteKey
  let (text, atLineEnd, c) ← Scalar.plain ((s.indent.map (· + 1)).getD 0) s.inFlow s.cursor
  return { s.push (.scalar text .plain) with cursor := c, keyAllowed := atLineEnd }

/-- Whether a plain scalar can begin here. -/
def startsPlain (s : Layout) (x : Char) : Bool :=
  let c := s.cursor
  !("-?:,[]\x7b\x7d#&*!|>'\"%@`".toList.contains x || isBlank x || isBreak x) ||
    (x == '-' && !(c.ahead? 1).any isBlank) ||
    (!s.inFlow && (x == '?' || x == ':') && !c.endsWord 1)

/-- Reads the token that begins here. -/
def next (s : Layout) (x : Char) : Option Layout :=
  let c := s.cursor
  let quotedScalar := fun style quote (c : Cursor) =>
    (Scalar.quoted quote c.skip).map fun (text, c) => (Token.scalar text style, c)
  if c.column = 0 ∧ x = '%' then s.atMargin directive?
  else if c.isAtMark '-' then s.atMargin fun c => some (.documentStart, c.skipMany 3)
  else if c.isAtMark '.' then s.atMargin fun c => some (.documentEnd, c.skipMany 3)
  else if x = '[' then s.openFlow .flowSequenceStart
  else if x = '\x7b' then s.openFlow .flowMappingStart
  else if x = ']' then s.closeFlow .flowSequenceEnd
  else if x = '\x7d' then s.closeFlow .flowMappingEnd
  else if x = ',' then do
    let s ← s.dropKey
    return { s with keyAllowed := true }.pass 1 .flowEntry
  else if x = '-' ∧ c.endsWord 1 then s.blockIndicator .blockSequenceStart .blockEntry
  else if x = '?' ∧ (s.inFlow ∨ c.endsWord 1) then s.blockIndicator .blockMappingStart .key
  else if x = ':' ∧ (s.inFlow ∨ c.endsWord 1) then s.valueIndicator
  else if x = '*' then s.keyLike fun c => (anchorName? c.skip).map fun (name, c) => (.alias name, c)
  else if x = '&' then s.keyLike fun c => (anchorName? c.skip).map fun (name, c) => (.anchor name, c)
  else if x = '!' then s.keyLike (tag? s.inFlow)
  else if x = '|' ∧ !s.inFlow then s.blockScalar .literal
  else if x = '>' ∧ !s.inFlow then s.blockScalar .folded
  else if x = '\'' then s.keyLike (quotedScalar .singleQuoted '\'')
  else if x = '"' then s.keyLike (quotedScalar .doubleQuoted '"')
  else if s.startsPlain x then s.plainScalar
  else none

def run : Nat → Layout → Option (List Token)
  | 0, _ => none
  | fuel + 1, s =>
    match (s.skipToToken (s.cursor.rest.length + 1)).dropStale with
    | none => none
    | some s =>
      match s.cursor.peek? with
      | none => ((s.closeTo none).dropKey).map fun s => s.tokens.toList
      | some x =>
        match (s.closeTo (some s.cursor.column)).next x with
        | some s => run fuel s
        | none => none

end Layout

/-- The tokens of a text, if it is a document. A byte order mark at its beginning is dropped. -/
def Token.ofText? (text : String) : Option (List Token) :=
  let cs := match text.toList with
    | '\ufeff' :: cs => cs
    | cs => cs
  if cs.all isAllowed then Layout.run (cs.length + 1) { cursor := { rest := cs } } else none

end TitleLint.Document
