import TitleLint.Pattern.Reader

namespace TitleLint.Pattern

open Read

inductive SetOperation where
  | intersection
  | difference
  | symmetricDifference

/-- A bracketed class that is being read: what precedes its last operator, and the members that
have been read since then. -/
structure OpenSet where
  negated : Bool
  left : Option (CharClass × SetOperation)
  items : CharClass

/-- Where case is ignored, both sides of an operator are closed under case before it applies. -/
def OpenSet.value (ignoreCase : Bool) (s : OpenSet) : CharClass :=
  let fold := foldIf ignoreCase
  match s.left with
  | none => s.items
  | some (l, .intersection) => .intersection (fold l) (fold s.items)
  | some (l, .difference) => .difference (fold l) (fold s.items)
  | some (l, .symmetricDifference) => .symmetricDifference (fold l) (fold s.items)

def OpenSet.close (ignoreCase : Bool) (s : OpenSet) : CharClass :=
  negateIf s.negated (foldIf ignoreCase (s.value ignoreCase))

/-- A class of the form `[:alpha:]` or `[:^alpha:]`, if one comes next. -/
def asciiClass? : Read (Option CharClass) := do
  let before ← rest
  if !(← accept "[:") then return none
  let negated ← accept "^"
  let cs ← rest
  match CharClass.ascii? (String.ofList (cs.takeWhile (· ≠ ':'))), cs.dropWhile (· ≠ ':') with
  | some cls, ':' :: ']' :: after =>
    setRest after
    let flags ← flags
    return some (negateIf negated (foldIf flags.ignoreCase cls))
  | _, _ =>
    setRest before
    return none

def literalHyphens : Nat → Read Nat
  | 0 => return 0
  | n + 1 => do
    if (← peek) = '-' then
      let _ ← nextPart
      return (← literalHyphens n) + 1
    else return 0

/-- The beginning of a class: hyphens that stand first, or else a bracket, are members. -/
def openSet : Read OpenSet := do
  let _ ← nextPart
  let negated := (← peek) = '^'
  if negated then let _ ← nextPart
  let hyphens ← literalHyphens (← rest).length
  if 0 < hyphens then return ⟨negated, none, .single '-'⟩
  if (← peek) = ']' then
    let _ ← nextPart
    let _ ← peek
    return ⟨negated, none, .single ']'⟩
  return ⟨negated, none, .empty⟩

def setPrimitive : Read Primitive := do
  let c ← next
  if c = '\\' then escape else return .char c

/-- One member: a class, a character, or the characters from one to another. -/
def setItem : Read CharClass := do
  let first ← setPrimitive
  blanks
  let flags ← flags
  let following := fun cs : List Char => if flags.verbose then skipComment false cs else cs
  let isRange := match ← rest with
    | '-' :: cs => match following cs with
      | ']' :: _ | '-' :: _ => false
      | _ => true
    | _ => false
  match first, isRange with
  | .char c, true =>
    let _ ← nextPart
    match ← setPrimitive with
    | .char d => if c ≤ d then return .range c d else fail
    | _ => fail
  | .char c, false => return .single c
  | .class cls, false => return cls
  | _, _ => fail

/-- Reads the members of the innermost open class, and closes the classes that end. -/
def setMembers : Nat → OpenSet → List OpenSet → Read CharClass
  | 0, _, _ => fail
  | fuel + 1, inner, outer => do
    blanks
    let ignoreCase := (← flags).ignoreCase
    let operator := fun o => setMembers fuel ⟨inner.negated, some (inner.value ignoreCase, o), .empty⟩ outer
    match ← rest with
    | [] => fail
    | '[' :: _ =>
      match ← asciiClass? with
      | some cls => setMembers fuel { inner with items := .union inner.items cls } outer
      | none => setMembers fuel (← openSet) (inner :: outer)
    | ']' :: cs =>
      setRest cs
      let cls := inner.close ignoreCase
      match outer with
      | [] => return cls
      | s :: outer => setMembers fuel { s with items := .union s.items cls } outer
    | '&' :: '&' :: cs => setRest cs; operator .intersection
    | '-' :: '-' :: cs => setRest cs; operator .difference
    | '~' :: '~' :: cs => setRest cs; operator .symmetricDifference
    | _ =>
      let item ← setItem
      setMembers fuel { inner with items := .union inner.items item } outer

/-- Reads a bracketed class. Without Unicode it may name ASCII characters only. -/
def bracketClass : Read CharClass := do
  let s ← openSet
  let cls ← setMembers ((← rest).length + 1) s []
  let flags ← flags
  if !flags.unicode && (s.negated || cls.ranges.any fun r => 128 ≤ r.2.toNat) then fail
  return cls

end TitleLint.Pattern
