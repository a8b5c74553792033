import TitleLint.Pattern.ClassReader

/-!
Reading patterns. A pattern that is malformed or too large is refused. How large it is, is estimated
from its classes and repetitions, so a pattern close to the limit may be judged wrongly. There is no
limit to how deeply groups and classes are nested.
-/

namespace TitleLint.Pattern

open Read

/-- The cost of a class of a property, from the number of its stretches of characters. -/
def CharClass.costOfRuns (n : Nat) : Nat := min 40000 (100 * n)

/-- How much of an automaton a class takes, roughly, in bytes. -/
def CharClass.cost : CharClass → Nat
  | digit => 6000
  | space => 700
  | word => 60000
  | category members => costOfRuns (Unicode.Category.runs.countP (members.contains ·.value))
  | script blocks => costOfRuns (blocks.length / 2)
  | alphabetic | uppercase | lowercase => 40000
  | union a b | intersection a b => a.cost + b.cost
  | complement a => a.cost + 400
  | folded a => a.cost + 16
  | empty | range _ _ => 40

def cost : Pattern → Nat
  | .empty | .place _ _ => 32
  | .one cls => cls.cost
  | .append p q => p.cost + q.cost
  | .either p q => p.cost + q.cost + 32
  | .repeated p least most => p.cost * max 1 (most.getD (least + 1)) + 32

/-- Patterns beyond this cost are refused. -/
def costLimit : Nat := 10 * 1024 * 1024

/-- A number, around which blanks are allowed. -/
def decimal : Read Nat := do
  let cs := (← rest).dropWhile Unicode.isSpace
  let ds := cs.takeWhile Char.isDigit
  setRest ((cs.dropWhile Char.isDigit).dropWhile Unicode.isSpace)
  blanks
  let n := ds.foldl (fun n d => n * 10 + (d.toNat - '0'.toNat)) 0
  if ds.isEmpty ∨ UInt32.size ≤ n then fail
  return n

/-- The bounds of a counted repetition. -/
def bounds : Read (Nat × Option Nat) := do
  let _ ← nextPart
  let least ← decimal
  if (← peek) = ',' then
    let _ ← nextPart
    if (← peek) = '\x7d' then return (least, none)
    let most ← decimal
    if most < least then fail
    return (least, some most)
  else return (least, some least)

/-- A mark of laziness after a repetition has no bearing on whether there is a match. -/
def lazyMark : Read Unit := do
  let _ ← accept "?"

/-- Sets or clears the flag of a letter. -/
def Flags.set (flags : Flags) (on : Bool) : Char → Option Flags
  | 'i' => some { flags with ignoreCase := on }
  | 'm' => some { flags with multiLine := on }
  | 's' => some { flags with dotAll := on }
  | 'U' => some { flags with swapGreed := on }
  | 'u' => some { flags with unicode := on }
  | 'R' => some { flags with anyLineEnd := on }
  | 'x' => some { flags with verbose := on }
  | _ => none

/-- The flags before `:` or `)`: letters that are set, and after a hyphen letters that are cleared.
No letter comes twice, and the hyphen is not the last. -/
def flagLetters (seen : List Char) (flags : Flags) : List Char → Option (Flags × List Char × Char × List Char)
  | [] => none
  | c :: cs =>
    if c = ':' ∨ c = ')' then
      if seen.head? = some '-' then none else some (flags, seen, c, cs)
    else if seen.contains c then none
    else if c = '-' then flagLetters (c :: seen) flags cs
    else
      match flags.set (!seen.contains '-') c with
      | some flags => flagLetters (c :: seen) flags cs
      | none => none

def isNameStart (c : Char) : Bool := c == '_' || Unicode.isAlphabetic c

def isNameChar (c : Char) : Bool :=
  isNameStart c || c == '.' || c == '[' || c == ']' || (Unicode.Category.of c).isNumber

/-- The name of a group, which no other group may have. -/
def groupName : Read Unit := do
  let name ← untilChar '>'
  let r ← get
  match name with
  | [] => fail
  | c :: cs =>
    if !isNameStart c || !cs.all isNameChar || r.names.contains name then fail
    set { r with names := name :: r.names }

/-- What a parenthesis begins. -/
inductive Opening where
  | group
  | flags

/-- Reads the part of a group before its pattern. Groups that look around are refused. -/
def opening : Read Opening := do
  let _ ← nextPart
  let cs ← rest
  if ["?=", "?!", "?<=", "?<!"].any fun s => s.toList.isPrefixOf cs then fail
  if (← accept "?P<") || (← accept "?<") then
    groupName
    return .group
  else if ← accept "?" then
    match flagLetters [] (← flags) (← rest) with
    | none => fail
    | some (flags, seen, close, after) =>
      setFlags flags
      setRest after
      if close = ':' then return .group
      if seen.isEmpty then fail
      return .flags
  else return .group

/-- A plain character, with its variants where case is ignored. Without Unicode, only ASCII letters
have any. -/
def character (c : Char) : Read Pattern := do
  let flags ← flags
  if !flags.ignoreCase then return .one (.single c)
  if flags.unicode then return .one (.folded (.single c))
  return .one (.unions [.single c, .single c.toLower, .single c.toUpper])

def anyCharacter : Read Pattern := do
  let flags ← flags
  if !flags.unicode then fail
  return .one <| .complement <|
    if flags.dotAll then .empty
    else if flags.anyLineEnd then .union (.single '\r') (.single '\n')
    else .single '\n'

def placeAt (a : Assertion) : Read Pattern := do
  let flags ← flags
  return .place (if flags.unicode then .word else (CharClass.ascii? "word").getD .empty) a

def lineStart : Read Pattern := do
  let flags ← flags
  placeAt <|
    if !flags.multiLine then .textStart else if flags.anyLineEnd then .anyLineStart else .lineStart

def lineEnd : Read Pattern := do
  let flags ← flags
  placeAt <|
    if !flags.multiLine then .textEnd else if flags.anyLineEnd then .anyLineEnd else .lineEnd

def atom : Read Pattern := do
  match ← rest with
  | '[' :: _ => return .one (← bracketClass)
  | '.' :: cs => setRest cs; anyCharacter
  | '^' :: cs => setRest cs; lineStart
  | '$' :: cs => setRest cs; lineEnd
  | '\\' :: cs =>
    setRest cs
    match ← escape with
    | .char c => character c
    | .class cls => return .one cls
    | .assertion a => placeAt a
  | c :: cs => setRest cs; character c
  | [] => fail

/-- A sequence in the order in which it was read; the latest part comes first. -/
def joined (items : List (Option Pattern)) : Pattern :=
  items.foldl (fun after item => match item with
    | some p => match after with
      | .empty => p
      | _ => .append p after
    | none => after) .empty

/-- Applies a repetition to the latest part, which must not be a setting of flags. -/
def repeatLatest (least : Nat) (most : Option Nat) :
    List (Option Pattern) → Read (List (Option Pattern))
  | some p :: items => return some (.repeated p least most) :: items
  | _ => fail

/-- Reads alternatives up to the end of the group. The flags of a group end with it. -/
def alternatives : Nat → (isInner : Bool) → List Pattern → List (Option Pattern) → Read Pattern
  | 0, _, _, _ => fail
  | fuel + 1, isInner, done, items => do
    blanks
    let finish : Pattern := done.foldl (fun p q => .either q p) (joined items)
    match ← rest with
    | [] => if isInner then fail else return finish
    | ')' :: cs =>
      if !isInner then fail
      setRest cs
      return finish
    | '|' :: cs =>
      setRest cs
      alternatives fuel isInner (joined items :: done) []
    | '(' :: _ =>
      let before ← flags
      match ← opening with
      | .flags => alternatives fuel isInner done (none :: items)
      | .group =>
        let p ← alternatives fuel true [] []
        setFlags before
        alternatives fuel isInner done (some p :: items)
    | '?' :: cs =>
      setRest cs
      lazyMark
      alternatives fuel isInner done (← repeatLatest 0 (some 1) items)
    | '*' :: cs =>
      setRest cs
      lazyMark
      alternatives fuel isInner done (← repeatLatest 0 none items)
    | '+' :: cs =>
      setRest cs
      lazyMark
      alternatives fuel isInner done (← repeatLatest 1 none items)
    | '\x7b' :: _ =>
      let (least, most) ← bounds
      if (← nextPart) ≠ '\x7d' then fail
      lazyMark
      alternatives fuel isInner done (← repeatLatest least most items)
    | _ =>
      let p ← atom
      alternatives fuel isInner done (some p :: items)

/-- Reads a pattern that ignores case unless it says otherwise. -/
def read? (s : String) : Option Pattern := do
  let (p, _) ← (alternatives (s.length + 1) false [] []).run ⟨s.toList, { ignoreCase := true }, []⟩
  if p.cost ≤ costLimit then some p else none

end TitleLint.Pattern
