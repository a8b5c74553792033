namespace TitleLint

inductive Json where
  | bool (b : Bool)
  | string (s : String)
  | list (items : List Json)
  | object (fields : List (String × Json))

namespace Json

/-- A character of a string. Quotes, backslashes and control characters are escaped. -/
def escaped (c : Char) : List Char :=
  match c with
  | '"' => ['\\', '"']
  | '\\' => ['\\', '\\']
  | '\x08' => ['\\', 'b']
  | '\x0c' => ['\\', 'f']
  | '\n' => ['\\', 'n']
  | '\r' => ['\\', 'r']
  | '\t' => ['\\', 't']
  | c =>
    if c.toNat < 32 then
      ['\\', 'u', '0', '0', Nat.digitChar (c.toNat / 16), Nat.digitChar (c.toNat % 16)]
    else [c]

def writeString (s : String) : List Char := '"' :: s.toList.flatMap escaped ++ ['"']

/-- A new line at a depth of nesting. -/
def newLine (depth : Nat) : List Char := '\n' :: List.replicate (2 * depth) ' '

mutual

/-- Writes a value over several lines; only empty lists and objects stay on one. -/
def write (depth : Nat) : Json → List Char
  | bool true => "true".toList
  | bool false => "false".toList
  | string s => writeString s
  | list [] => ['[', ']']
  | list (v :: vs) =>
    '[' :: newLine (depth + 1) ++ write (depth + 1) v ++ writeItems (depth + 1) vs ++
      newLine depth ++ [']']
  | object [] => ['\x7b', '\x7d']
  | object ((name, v) :: fields) =>
    '\x7b' :: newLine (depth + 1) ++ writeString name ++ [':', ' '] ++ write (depth + 1) v ++
      writeFields (depth + 1) fields ++ newLine depth ++ ['\x7d']

def writeItems (depth : Nat) : List Json → List Char
  | [] => []
  | v :: vs => ',' :: newLine depth ++ write depth v ++ writeItems depth vs

def writeFields (depth : Nat) : List (String × Json) → List Char
  | [] => []
  | (name, v) :: fields =>
    ',' :: newLine depth ++ writeString name ++ [':', ' '] ++ write depth v ++
      writeFields depth fields

end

/-- The text of a value, with a line feed at the end. -/
def document (v : Json) : String := String.ofList (write 0 v ++ ['\n'])

end Json

end TitleLint
