import TitleLint.Glob.Basic

namespace TitleLint.Glob

inductive Error where
  | unclosedClass
  | invalidRange (first last : Char)
  | unopenedAlternates
  | unclosedAlternates
  | danglingEscape
  deriving DecidableEq, Repr

def Error.message : Error → String
  | .unclosedClass => "unclosed character class; missing ']'"
  | .invalidRange first last =>
    "invalid range; '" ++ String.singleton first ++ "' > '" ++ String.singleton last ++ "'"
  | .unopenedAlternates =>
    "unopened alternate group; missing '\x7b' (maybe escape '\x7d' with '[\x7d]'?)"
  | .unclosedAlternates =>
    "unclosed alternate group; missing '\x7d' (maybe escape '\x7b' with '[\x7b]'?)"
  | .danglingEscape => "dangling '\\'"

structure Options where
  withinName : Bool := false
  /-- Whether a bracket that is not closed stands for itself. -/
  openClasses : Bool := false

/-- A group whose branches are being read: the finished ones, and what stood before the group. -/
structure OpenGroup where
  before : List Token
  branches : List (List Token)

/-- The members of a class up to its closing bracket. A bracket that comes first is a member, and
so is a hyphen that comes first or last. -/
def classItems (isFirst inRange : Bool) (ranges : List (Char × Char)) :
    List Char → Except Error (List (Char × Char) × List Char)
  | [] => .error .unclosedClass
  | c :: cs =>
    let extend := match ranges with
      | (first, _) :: ranges => if c < first then .error (.invalidRange first c) else .ok ((first, c) :: ranges)
      | [] => .ok [(c, c)]
    if c = ']' ∧ !isFirst then
      .ok ((if inRange then ('-', '-') :: ranges else ranges), cs)
    else if c = ']' then classItems false inRange ((c, c) :: ranges) cs
    else if c = '-' ∧ !isFirst ∧ !inRange then classItems false true ranges cs
    else if inRange then do classItems false false (← extend) cs
    else classItems false false ((c, c) :: ranges) cs

def readClass (cs : List Char) : Except Error (Token × List Char) :=
  match cs with
  | '!' :: cs | '^' :: cs => (classItems true false [] cs).map fun r => (.cls true r.1.reverse, r.2)
  | cs => (classItems true false [] cs).map fun r => (.cls false r.1.reverse, r.2)

/-- Reads two stars. Only a whole part of the path that is two stars reaches across slashes.
`tokens` are the parts before the stars in the same branch, the latest first. -/
def readStars (last : Option Char) (inGroup : Bool) (tokens : List Token) (cs : List Char) :
    List Token × List Char :=
  let plain := (.star :: .star :: tokens, cs)
  match tokens with
  | [] =>
    match cs with
    | [] => ([.leadingStars], [])
    | '/' :: cs => ([.leadingStars], cs)
    | _ => plain
  | token :: before =>
    let isPart := last == some '/' || (inGroup && (last == some ',' || last == some '\x7b'))
    let wrapped := fun isEnd rest =>
      match token with
      | .leadingStars => (.leadingStars :: before, rest)
      | .trailingStars => (.trailingStars :: before, rest)
      | _ => ((if isEnd then .trailingStars else .innerStars) :: before, rest)
    if !isPart then plain
    else
      match cs with
      | [] => wrapped true []
      | '/' :: rest => wrapped false rest
      | c :: _ => if inGroup && (c == ',' || c == '\x7d') then wrapped true cs else plain

/-- Reads the parts of a glob. `tokens` are those of the innermost branch, the latest first. -/
def readTokens (options : Options) (openClasses : Bool) :
    Nat → Option Char → List OpenGroup → List Token → List Char → Except Error (List Token)
  | 0, _, _, _, _ => .error .unclosedAlternates
  | fuel + 1, last, groups, tokens, cs =>
    let continue' := fun token c cs => readTokens options openClasses fuel (some c) groups (token :: tokens) cs
    match cs with
    | [] => if groups.isEmpty then .ok tokens.reverse else .error .unclosedAlternates
    | '?' :: cs => continue' .any '?' cs
    | '*' :: '*' :: cs =>
      let (tokens, rest) := readStars last (!groups.isEmpty) tokens cs
      let last := if rest.length < cs.length then '/' else '*'
      readTokens options openClasses fuel (some last) groups tokens rest
    | '*' :: cs => continue' .star '*' cs
    | '[' :: cs =>
      if openClasses then continue' (.literal '[') '[' cs
      else
        match readClass cs with
        | .ok (token, rest) => continue' token ']' rest
        | .error .unclosedClass =>
          if options.openClasses then
            readTokens options true fuel (some '[') groups (.literal '[' :: tokens) cs
          else .error .unclosedClass
        | .error e => .error e
    | '\x7b' :: cs => readTokens options openClasses fuel (some '\x7b') (⟨tokens, []⟩ :: groups) [] cs
    | '\x7d' :: cs =>
      match groups with
      | [] => .error .unopenedAlternates
      | g :: groups =>
        readTokens options openClasses fuel (some '\x7d') groups
          (.alternates (tokens.reverse :: g.branches).reverse :: g.before) cs
    | ',' :: cs =>
      match groups with
      | [] => continue' (.literal ',') ',' cs
      | g :: groups =>
        readTokens options openClasses fuel (some ',')
          ({ g with branches := tokens.reverse :: g.branches } :: groups) [] cs
    | '\\' :: cs =>
      match cs with
      | [] => .error .danglingEscape
      | c :: cs => continue' (.literal c) c cs
    | c :: cs => continue' (.literal c) c cs

def parse (options : Options) (s : String) : Except Error Glob := do
  let tokens ← readTokens options false (s.length + 1) none [] [] s.toList
  return ⟨tokens, options.withinName⟩

end TitleLint.Glob
