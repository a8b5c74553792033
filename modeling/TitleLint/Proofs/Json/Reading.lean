import TitleLint.Json
import TitleLint.Unicode.Run

/-!
Reading values from text. Blanks may stand between the parts of a text, and a character of a string
may be written in every way that the format has for it. There are no numbers among the values, and
no `null`, so a text with one of these is not read.
-/

namespace TitleLint.Json

inductive Token where
  | openList
  | closeList
  | openObject
  | closeObject
  | colon
  | comma
  | bool (b : Bool)
  | string (s : String)
  deriving DecidableEq, Repr

/-- A part of a string: a character, or the number of a unit of 16 bits. -/
inductive Piece where
  | char (c : Char)
  | unit (n : Nat)
  deriving DecidableEq, Repr

/-- The characters of a string. Those beyond the first 65536 take two units. -/
def joined : List Piece → Option (List Char)
  | [] => some []
  | .char c :: pieces => (joined pieces).map (c :: ·)
  | .unit n :: pieces =>
    if n < 0xd800 ∨ 0xdfff < n then (joined pieces).map (Char.ofNat n :: ·)
    else
      match pieces with
      | .unit m :: pieces =>
        if n < 0xdc00 ∧ 0xdc00 ≤ m ∧ m ≤ 0xdfff then
          (joined pieces).map (Char.ofNat (0x10000 + (n - 0xd800) * 0x400 + (m - 0xdc00)) :: ·)
        else none
      | _ => none

/-- The character that a letter behind a backslash stands for. -/
def shortEscape? : Char → Option Char
  | '"' => some '"'
  | '\\' => some '\\'
  | '/' => some '/'
  | 'b' => some '\x08'
  | 'f' => some '\x0c'
  | 'n' => some '\n'
  | 'r' => some '\r'
  | 't' => some '\t'
  | _ => none

/-- The number that hexadecimal digits write. -/
def hexValue? (digits : List Char) : Option Nat := do
  let values ← digits.mapM fun d => Unicode.hexDigit? d.toLower
  return values.foldl (fun n d => n * 16 + d) 0

def mark? : Char → Option Token
  | '[' => some .openList
  | ']' => some .closeList
  | '\x7b' => some .openObject
  | '\x7d' => some .closeObject
  | ':' => some .colon
  | ',' => some .comma
  | _ => none

def isBlank (c : Char) : Bool := [' ', '\t', '\n', '\r'].contains c

mutual

/-- The parts of a text. -/
def scan : List Char → Option (List Token)
  | [] => some []
  | '"' :: cs => scanString [] cs
  | 't' :: 'r' :: 'u' :: 'e' :: cs => (scan cs).map (.bool true :: ·)
  | 'f' :: 'a' :: 'l' :: 's' :: 'e' :: cs => (scan cs).map (.bool false :: ·)
  | c :: cs =>
    if isBlank c then scan cs
    else
      match mark? c with
      | some t => (scan cs).map (t :: ·)
      | none => none

/-- The parts of a text that begins inside a string, behind these pieces of it, the last one first. -/
def scanString (before : List Piece) : List Char → Option (List Token)
  | [] => none
  | '"' :: cs =>
    match joined before.reverse with
    | some s => (scan cs).map (.string (String.ofList s) :: ·)
    | none => none
  | '\\' :: 'u' :: a :: b :: c :: d :: cs =>
    match hexValue? [a, b, c, d] with
    | some n => scanString (.unit n :: before) cs
    | none => none
  | '\\' :: c :: cs =>
    match shortEscape? c with
    | some c => scanString (.char c :: before) cs
    | none => none
  | c :: cs => if c.toNat < 32 then none else scanString (.char c :: before) cs

end

/-- A list or an object that is not closed yet, with what was read of it, the last part first. -/
inductive Unclosed where
  | list (items : List Json)
  | object (fields : List (String × Json)) (name : String)

mutual

/-- Reads a text from where a value begins, inside what is not closed yet, the innermost first. -/
def readValue (outer : List Unclosed) : List Token → Option Json
  | .bool b :: ts => readBehind (.bool b) outer ts
  | .string s :: ts => readBehind (.string s) outer ts
  | .openList :: .closeList :: ts => readBehind (.list []) outer ts
  | .openList :: ts => readValue (.list [] :: outer) ts
  | .openObject :: .closeObject :: ts => readBehind (.object []) outer ts
  | .openObject :: .string name :: .colon :: ts => readValue (.object [] name :: outer) ts
  | _ => none

/-- Reads a text from where a value has ended. -/
def readBehind (v : Json) : List Unclosed → List Token → Option Json
  | [], [] => some v
  | .list items :: outer, .comma :: ts => readValue (.list (v :: items) :: outer) ts
  | .list items :: outer, .closeList :: ts => readBehind (.list (v :: items).reverse) outer ts
  | .object fields name :: outer, .comma :: .string next :: .colon :: ts =>
    readValue (.object ((name, v) :: fields) next :: outer) ts
  | .object fields name :: outer, .closeObject :: ts =>
    readBehind (.object ((name, v) :: fields).reverse) outer ts
  | _, _ => none

end

/-- The value that a text stands for. -/
def read? (text : String) : Option Json := (scan text.toList).bind (readValue [])

end TitleLint.Json
