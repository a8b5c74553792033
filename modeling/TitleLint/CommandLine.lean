import TitleLint.File.Path
import TitleLint.Similarity

/-!
What a command line asks for. The options can stand before and behind the name of a command, and
what is said behind it counts.
-/

namespace TitleLint.CommandLine

open File

/-- An option that takes a value. -/
inductive Setting where
  | config
  | root
  | format
  | timeout
  deriving DecidableEq, Repr

/-- An option without a value. -/
inductive Flag where
  | verbose
  | help
  | version
  deriving DecidableEq, Repr

inductive Opt where
  | setting (s : Setting)
  | flag (f : Flag)
  deriving DecidableEq, Repr

/-- What the options of a command line give. -/
structure Options where
  config : Option Path := none
  root : Option Path := none
  format : Option String := none
  /-- In seconds. -/
  timeout : Option Nat := none
  verbose : Bool := false
  deriving DecidableEq, Repr

inductive Command where
  | check (title : String)
  | names
  deriving DecidableEq, Repr

structure Invocation where
  command : Command
  options : Options
  deriving DecidableEq, Repr

/-- What help can be asked for. -/
inductive Topic where
  | program
  | names
  | help
  deriving DecidableEq, Repr

/-- Why a text is no number of seconds. -/
inductive NumberFault where
  | empty
  | notDigit
  | tooLarge
  deriving DecidableEq, Repr

inductive UsageError where
  | unexpectedArgument (text : String)
  | unknownCommand (name : String)
  | missingTitle
  | missingValue (s : Setting)
  | badTimeout (text : String) (fault : NumberFault)
  | repeated (option : Opt)
  | unwantedValue (f : Flag) (value : String)
  deriving DecidableEq, Repr

/-- Why a command line runs no command. -/
inductive Stop where
  | misused (e : UsageError)
  | helpWanted (topic : Topic)
  | versionWanted
  deriving DecidableEq, Repr

/-! ### Messages -/

def Setting.usage : Setting → String
  | config => "--config <CONFIG>"
  | root => "--root <ROOT>"
  | format => "--format <FORMAT>"
  | timeout => "--timeout <TIMEOUT>"

def Flag.usage : Flag → String
  | verbose => "--verbose"
  | help => "--help"
  | version => "--version"

def Opt.usage : Opt → String
  | setting s => s.usage
  | flag f => f.usage

def NumberFault.message : NumberFault → String
  | empty => "cannot parse integer from empty string"
  | notDigit => "invalid digit found in string"
  | tooLarge => "number too large to fit in target type"

def UsageError.message : UsageError → String
  | unexpectedArgument text => "unexpected argument '" ++ text ++ "' found"
  | unknownCommand name => "unrecognized subcommand '" ++ name ++ "'"
  | missingTitle => "the following required arguments were not provided:"
  | missingValue s => "a value is required for '" ++ s.usage ++ "' but none was supplied"
  | badTimeout text fault =>
    "invalid value '" ++ text ++ "' for '" ++ Setting.timeout.usage ++ "': " ++ fault.message
  | repeated option => "the argument '" ++ option.usage ++ "' cannot be used multiple times"
  | unwantedValue f value =>
    "unexpected value '" ++ value ++ "' for '" ++ f.usage ++ "' found; no more were expected"

/-! ### Options -/

/-- Reads the digits of a number of 64 bits. -/
def readDigits (n : Nat) : List Char → Except NumberFault Nat
  | [] => .ok n
  | c :: cs =>
    if !c.isDigit then .error .notDigit
    else
      let n := 10 * n + (c.toNat - '0'.toNat)
      if UInt64.size ≤ n then .error .tooLarge else readDigits n cs

def readNumber (s : String) : Except NumberFault Nat :=
  match s.toList with
  | [] => .error .empty
  | ['+'] => .error .notDigit
  | '+' :: cs => readDigits 0 cs
  | cs => readDigits 0 cs

namespace Options

def has (o : Options) : Setting → Bool
  | .config => o.config.isSome
  | .root => o.root.isSome
  | .format => o.format.isSome
  | .timeout => o.timeout.isSome

/-- Gives an option its value. A path cannot be empty. -/
def set (o : Options) (s : Setting) (value : String) : Except UsageError Options :=
  if o.has s then .error (.repeated (.setting s))
  else
    match s with
    | .config => if value.isEmpty then .error (.missingValue s) else .ok { o with config := some value }
    | .root => if value.isEmpty then .error (.missingValue s) else .ok { o with root := some value }
    | .format => .ok { o with format := some value }
    | .timeout =>
      match readNumber value with
      | .ok n => .ok { o with timeout := some n }
      | .error fault => .error (.badTimeout value fault)

/-- The options of a command line, with those that follow the name of a command. -/
def merge (o later : Options) : Options where
  config := later.config.or o.config
  root := later.root.or o.root
  format := later.format.or o.format
  timeout := later.timeout.or o.timeout
  verbose := o.verbose || later.verbose

end Options

/-! ### Arguments -/

/-- Where arguments stand: before the name of a command, or behind it. -/
inductive Part where
  | main
  | names
  deriving DecidableEq, Repr

def Part.topic : Part → Topic
  | main => .program
  | names => .names

/-- The option of a name. Only the program as a whole has a version. -/
def longOption? (p : Part) (name : String) : Option Opt :=
  match name with
  | "config" => some (.setting .config)
  | "root" => some (.setting .root)
  | "format" => some (.setting .format)
  | "timeout" => some (.setting .timeout)
  | "verbose" => some (.flag .verbose)
  | "help" => some (.flag .help)
  | "version" => if p = .main then some (.flag .version) else none
  | _ => none

def shortOption? (p : Part) (c : Char) : Option Opt :=
  match c with
  | 'c' => some (.setting .config)
  | 'f' => some (.setting .format)
  | 'v' => some (.flag .verbose)
  | 'h' => some (.flag .help)
  | 'V' => if p = .main then some (.flag .version) else none
  | _ => none

structure Progress where
  part : Part
  options : Options := {}
  /-- An option that is not set yet, and its value if that has come. -/
  pending : Option (Setting × Option String) := none
  /-- Whether the next argument may be the value of an option. -/
  awaiting : Bool := false
  title : Option String := none

namespace Progress

def fail {α : Type} (e : UsageError) : Except Stop α := .error (.misused e)

def set (p : Progress) (s : Setting) (value : String) : Except Stop Progress :=
  match p.options.set s value with
  | .ok options => .ok { p with options }
  | .error e => fail e

def settle (p : Progress) : Except Stop Progress :=
  match p.pending with
  | none => .ok p
  | some (s, none) => fail (.missingValue s)
  | some (s, some value) => set { p with pending := none } s value

/-- Begins an option whose value is attached, or follows as an argument. -/
def begin (p : Progress) (s : Setting) (attached : Option String) : Except Stop Progress := do
  let p ← p.settle
  match attached with
  | some value => set { p with awaiting := false } s value
  | none => return { p with pending := some (s, none), awaiting := true }

def raise (p : Progress) (f : Flag) : Except Stop Progress := do
  let p ← p.settle
  match f with
  | .verbose =>
    if p.options.verbose then fail (.repeated (.flag .verbose))
    else return { p with options := { p.options with verbose := true }, awaiting := false }
  | .help => .error (.helpWanted p.part.topic)
  | .version => .error .versionWanted

/-- Reads an argument such as `--format=json`, without its hyphens. -/
def readLong (p : Progress) (text : List Char) : Except Stop Progress :=
  let name := String.ofList (text.takeWhile (· ≠ '='))
  let value := match text.dropWhile (· ≠ '=') with
    | _ :: value => some (String.ofList value)
    | [] => none
  match longOption? p.part name, value with
  | some (.setting s), value => p.begin s value
  | some (.flag f), none => p.raise f
  | some (.flag f), some value => fail (.unwantedValue f value)
  | none, _ => fail (.unexpectedArgument ("--" ++ name))

/-- Reads the letters of an argument such as `-vf=json`. -/
def readShort (p : Progress) : List Char → Except Stop Progress
  | [] => .ok p
  | c :: cs =>
    match shortOption? p.part c with
    | some (.setting s) =>
      match cs with
      | [] => p.begin s none
      | '=' :: value => p.begin s (some (String.ofList value))
      | value => p.begin s (some (String.ofList value))
    | some (.flag f) =>
      match p.raise f with
      | .ok p => readShort p cs
      | .error e => .error e
    | none => fail (.unexpectedArgument (String.ofList ['-', c]))

/-- Why an argument cannot stand where it does. -/
def surplus (p : Progress) (literally : Bool) (a : String) : UsageError :=
  let commands := ["names", "help"]
  if p.part = .main ∧ !(literally ∧ commands.contains a) ∧ commands.any (Similarity.areAlike a) then
    .unknownCommand a
  else .unexpectedArgument a

/-- Reads an argument that is no option. -/
def readPlain (p : Progress) (literally : Bool) (a : String) : Except Stop Progress :=
  if p.part = .main ∧ p.title.isNone then do
    let p ← p.settle
    return { p with title := some a, awaiting := false }
  else fail (p.surplus literally a)

/-- Reads an argument that names no command. -/
def readArgument (p : Progress) (a : String) : Except Stop Progress :=
  match a.toList with
  | '-' :: '-' :: text => p.readLong text
  | '-' :: c :: text => p.readShort (c :: text)
  | _ =>
    match p.pending, p.awaiting with
    | some (s, _), true => .ok { p with pending := some (s, some a), awaiting := false }
    | _, _ => p.readPlain false a

end Progress

def readHelp : List String → Stop
  | [] => .helpWanted .program
  | "names" :: rest => within .names rest
  | "help" :: rest => within .help rest
  | a :: _ => .misused (.unknownCommand a)
where
  within (topic : Topic) : List String → Stop
    | [] => .helpWanted topic
    | a :: _ => .misused (.unknownCommand a)

def readOptions (p : Progress) : List String → Except Stop Options
  | [] => do
    let p ← p.settle
    return p.options
  | "--" :: rest =>
    match rest with
    | [] => do
      let p ← p.settle
      return p.options
    | a :: _ => Progress.fail (p.surplus true a)
  | a :: rest => do readOptions (← p.readArgument a) rest

/-- What follows from the arguments when no command is named. -/
def check (p : Progress) : Except Stop Invocation := do
  let p ← p.settle
  match p.title with
  | some title => return { command := .check title, options := p.options }
  | none => Progress.fail .missingTitle

def read (p : Progress) : List String → Except Stop Invocation
  | [] => check p
  | a :: rest =>
    if !p.awaiting ∧ a = "help" then .error (readHelp rest)
    else if !p.awaiting ∧ a = "names" then do
      let later ← readOptions { part := .names } rest
      let p ← p.settle
      return { command := .names, options := p.options.merge later }
    else if a = "--" then do
      let p ← rest.foldlM (fun p a => p.readPlain true a) p
      check p
    else do read (← p.readArgument a) rest

def parse (args : List String) : Except Stop Invocation := read { part := .main } args

/-! ### Help -/

def version : String := "titlecheck 1.0.0\n"

/-- The options of both the program and its commands. -/
def optionLines : String :=
  String.join
    ["Options:\n",
      "  -c, --config <CONFIG>    Path to config file (default: .config/titlecheck/config.yaml)\n",
      "      --root <ROOT>        Project root (default: nearest ancestor with .git or package.json)\n",
      "  -f, --format <FORMAT>    Output format: text, json\n",
      "      --timeout <TIMEOUT>  Seconds allowed for collecting node display names\n",
      "  -v, --verbose            Show debug logging\n",
      "  -h, --help               Print help\n"]

def Topic.text : Topic → String
  | program =>
    String.join
      ["Validate pull request titles\n\n",
        "Usage: titlecheck [OPTIONS] <TITLE>\n",
        "       titlecheck [OPTIONS] [TITLE] <COMMAND>\n\n",
        "Commands:\n",
        "  names  Print the node display names found under the nodes root\n",
        "  help   Print this message or the help of the given subcommand(s)\n\n",
        "Arguments:\n",
        "  <TITLE>  Title to validate, e.g. \"feat(core): add x\"\n\n",
        optionLines,
        "  -V, --version            Print version\n"]
  | names =>
    String.join
      ["Print the node display names found under the nodes root\n\n",
        "Usage: titlecheck names [OPTIONS]\n\n",
        optionLines]
  | help =>
    String.join
      ["Print this message or the help of the given subcommand(s)\n\n",
        "Usage: titlecheck help [COMMAND]...\n\n",
        "Arguments:\n",
        "  [COMMAND]...  Print help for the subcommand(s)\n"]

end TitleLint.CommandLine
