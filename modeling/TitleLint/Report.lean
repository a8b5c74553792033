import TitleLint.Issue
import TitleLint.Json
import TitleLint.Subject
import TitleLint.Text.Lines
import TitleLint.Vocabulary

namespace TitleLint

inductive OutputFormat where
  | text
  | json
  deriving DecidableEq, Repr

namespace OutputFormat

/-- The format of a name, whatever its case. -/
def ofName? (name : String) : Option OutputFormat :=
  match String.ofList (name.toList.flatMap Subject.lowered) with
  | "text" => some .text
  | "json" => some .json
  | _ => none

end OutputFormat

/-- Emphasis on a terminal. -/
inductive Style where
  | boldGreen
  | boldRed
  | boldBlue
  | boldYellow
  | green
  | yellow
  deriving DecidableEq, Repr

/-- A text between the control sequences that begin and end its emphasis. -/
def Style.paint (style : Style) (coloured : Bool) (s : String) : String :=
  if !coloured then s
  else
    match style with
    | .boldGreen => "\x1b[32;1m" ++ s ++ "\x1b[0m"
    | .boldRed => "\x1b[31;1m" ++ s ++ "\x1b[0m"
    | .boldBlue => "\x1b[34;1m" ++ s ++ "\x1b[0m"
    | .boldYellow => "\x1b[33;1m" ++ s ++ "\x1b[0m"
    | .green => "\x1b[32m" ++ s ++ "\x1b[39m"
    | .yellow => "\x1b[33m" ++ s ++ "\x1b[39m"

namespace Report

def issueFields (i : Issue) : List (String × Json) :=
  [("kind", .string i.rule.code), ("message", .string i.message)] ++
    match i.suggestion with
    | some name => [("suggestion", .string name)]
    | none => []

def value (title : String) (issues : List Issue) : Json :=
  .object
    [("title", .string title), ("valid", .bool issues.isEmpty),
      ("issues", .list (issues.map fun i => .object (issueFields i)))]

/-- An issue takes one line with its rule, and a further line for each line feed in its message. -/
def issueText (coloured : Bool) (i : Issue) : String :=
  let lines := Text.lines i.message
  "  " ++ Style.yellow.paint coloured ("[" ++ i.rule.code ++ "]") ++ " " ++ lines.headD "" ++ "\n" ++
    String.join (lines.tail.map fun line => "    " ++ line ++ "\n")

def text (coloured : Bool) (title : String) (issues : List Issue) : String :=
  if issues.isEmpty then Style.boldGreen.paint coloured "OK" ++ " " ++ title ++ "\n"
  else
    let noun := if issues.length = 1 then "issue" else "issues"
    Style.boldRed.paint coloured "FAIL" ++ " " ++ title ++ " (" ++ Nat.repr issues.length ++ " " ++
      noun ++ ")\n" ++ String.join (issues.map (issueText coloured))

def render (format : OutputFormat) (coloured : Bool) (title : String) (issues : List Issue) : String :=
  match format with
  | .text => text coloured title issues
  | .json => (value title issues).document

end Report

namespace Vocabulary

/-- The names, one to a line or as a list. -/
def render (format : OutputFormat) (v : Vocabulary) : String :=
  match format with
  | .text => String.join (v.names.map (· ++ "\n"))
  | .json => (Json.list (v.names.map .string)).document

end Vocabulary

end TitleLint
