import TitleLint.Pattern.Basic
import TitleLint.Pattern.Property
import TitleLint.Text.Split

namespace TitleLint.Pattern

/-- What the flags of a group switch on. -/
structure Flags where
  ignoreCase : Bool
  multiLine : Bool := false
  dotAll : Bool := false
  swapGreed : Bool := false
  unicode : Bool := true
  anyLineEnd : Bool := false
  verbose : Bool := false
  deriving DecidableEq, Repr

/-- What is still to be read, the flags in force and the group names in use. -/
structure Reader where
  rest : List Char
  flags : Flags
  names : List (List Char)

/-- A step of reading; every kind of malformed pattern is refused alike. -/
abbrev Read (α : Type) := StateT Reader Option α

namespace Read

def fail {α : Type} : Read α := fun _ => none

def rest : Read (List Char) := do return (← get).rest

def flags : Read Flags := do return (← get).flags

def setRest (cs : List Char) : Read Unit := modify fun r => { r with rest := cs }

def setFlags (flags : Flags) : Read Unit := modify fun r => { r with flags }

/-- What is left after blanks and comments, in a pattern that allows them. -/
def skipComment : Bool → List Char → List Char
  | _, [] => []
  | true, c :: cs => skipComment (c ≠ '\n') cs
  | false, c :: cs =>
    if Unicode.isSpace c then skipComment false cs
    else if c = '#' then skipComment true cs
    else c :: cs

def blanks : Read Unit := do
  if (← flags).verbose then setRest (skipComment false (← rest))

def peek? : Read (Option Char) := do return (← rest).head?

def peek : Read Char := do
  match ← rest with
  | [] => fail
  | c :: _ => return c

def next : Read Char := do
  match ← rest with
  | [] => fail
  | c :: cs => setRest cs; return c

/-- The next character, then blanks. -/
def nextPart : Read Char := do
  let c ← next
  blanks
  return c

/-- Consumes a text if it comes next. -/
def accept (s : String) : Read Bool := do
  match Text.after? s.toList (← rest) with
  | some cs => setRest cs; return true
  | none => return false

/-- The characters up to a closing one, which is consumed too. -/
def untilChar (close : Char) : Read (List Char) := do
  let cs ← rest
  match cs.dropWhile (· ≠ close) with
  | [] => fail
  | _ :: after =>
    setRest after
    return cs.takeWhile (· ≠ close)

end Read

open Read

/-- What an escape or a plain character stands for. -/
inductive Primitive where
  | char (c : Char)
  | class (cls : CharClass)
  | assertion (a : Assertion)

def hexValue? (digits : List Char) : Option Char := do
  if digits.isEmpty then none
  let values ← digits.mapM fun c => Unicode.hexDigit? c.toLower
  let n := values.foldl (fun n d => n * 16 + d) 0
  if n < 0xd800 ∨ (0xe000 ≤ n ∧ n < 0x110000) then some (Char.ofNat n) else none

def hexDigits : Nat → Read (List Char)
  | 0 => return []
  | n + 1 => do return (← nextPart) :: (← hexDigits n)

/-- Characters between braces; a pattern that allows blanks allows them there too. -/
def braced : Read (List Char) := do
  let inside ← untilChar '\x7d'
  let flags ← flags
  return if flags.verbose then inside.filter fun c => !Unicode.isSpace c else inside

/-- A character given by its number: in braces, or in as many digits as the letter before asks for.
Without Unicode, two digits are a byte, and a byte that is no character of ASCII is none of a text. -/
def hexEscape (digits : Nat) : Read Primitive := do
  blanks
  let inBraces ← accept "\x7b"
  let ds ← if inBraces then braced else hexDigits digits
  let isByte := digits == 2 && !inBraces && !(← flags).unicode
  match hexValue? ds with
  | some c => if isByte && 128 ≤ c.toNat then fail else return .char c
  | none => fail

def negateIf (negated : Bool) (cls : CharClass) : CharClass :=
  if negated then .complement cls else cls

def foldIf (ignoreCase : Bool) (cls : CharClass) : CharClass :=
  if ignoreCase then .folded cls else cls

/-- Splits at the first occurrence of a mark. -/
def cutAt? (mark : String) (s : List Char) : Option (List Char × List Char) :=
  let front := Text.upTo mark.toList s
  if front.length < s.length then some (front, s.drop (front.length + mark.length)) else none

/-- A class by the property of its characters, such as `\pL` or `\p{Greek}`. -/
def propertyClass (negated : Bool) : Read Primitive := do
  blanks
  let flags ← flags
  if !flags.unicode then fail
  let c ← next
  let found ←
    if c = '\x7b' then do
      let name ← braced
      match cutAt? "!=" name, cutAt? ":" name, cutAt? "=" name with
      | some (p, v), _, _ => pure ((propertyValue? p v).map .complement)
      | none, some (p, v), _ => pure (propertyValue? p v)
      | none, none, some (p, v) => pure (propertyValue? p v)
      | none, none, none => pure (property? name)
    else do
      if c = '\\' then fail
      blanks
      pure (property? [c])
  match found with
  | some cls => return .class (negateIf negated (foldIf flags.ignoreCase cls))
  | none => fail

/-- The classes `\d`, `\s`, `\w` and their complements. -/
def letterClass (name : String) (cls : CharClass) (negated : Bool) : Read Primitive := do
  if (← flags).unicode then return .class (negateIf negated cls)
  else
    match CharClass.ascii? name, negated with
    | some cls, false => return .class cls
    | _, _ => fail

def specialBoundary? : String → Option Assertion
  | "start" => some .wordStart
  | "end" => some .wordEnd
  | "start-half" => some .halfStart
  | "end-half" => some .halfEnd
  | _ => none

/-- A word boundary, which may be followed by its kind in braces. Braces that do not begin with a
letter or a hyphen are left to be read as a repetition. -/
def boundary : Read Primitive := do
  let before ← rest
  if !(← accept "\x7b") then return .assertion .boundary
  blanks
  let c ← peek
  if !(c.isAlpha || c == '-') then
    setRest before
    return .assertion .boundary
  match specialBoundary? (String.ofList (← braced)) with
  | some a => return .assertion a
  | none => fail

def isMeta (c : Char) : Bool := "\\.+*?()|[]\x7b\x7d^$#&-~".toList.contains c

def escape : Read Primitive := do
  let c ← next
  match c with
  | 'x' => hexEscape 2
  | 'u' => hexEscape 4
  | 'U' => hexEscape 8
  | 'p' => propertyClass false
  | 'P' => propertyClass true
  | 'd' => letterClass "digit" .digit false
  | 'D' => letterClass "digit" .digit true
  | 's' => letterClass "space" .space false
  | 'S' => letterClass "space" .space true
  | 'w' => letterClass "word" .word false
  | 'W' => letterClass "word" .word true
  | 'a' => return .char '\x07'
  | 'f' => return .char '\x0c'
  | 't' => return .char '\t'
  | 'n' => return .char '\n'
  | 'r' => return .char '\r'
  | 'v' => return .char '\x0b'
  | 'A' => return .assertion .textStart
  | 'z' => return .assertion .textEnd
  | 'b' => boundary
  | 'B' => return .assertion .noBoundary
  | '<' => return .assertion .wordStart
  | '>' => return .assertion .wordEnd
  | _ =>
    if isMeta c ∨ (c.toNat < 128 ∧ !c.isAlphanum) then return .char c else fail

end TitleLint.Pattern
