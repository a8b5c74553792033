import TitleLint.Text.Bytes

namespace TitleLint

namespace Glob

inductive Token where
  | literal (c : Char)
  | any
  | star
  /-- `**/` at the beginning: nothing, or directories. -/
  | leadingStars
  /-- `/**` at the end: all that is inside. -/
  | trailingStars
  /-- `/**/` between two parts: one slash, or directories between two. -/
  | innerStars
  | cls (negated : Bool) (ranges : List (Char × Char))
  | alternates (branches : List (List Token))
  deriving Repr

def slash : UInt8 := 47

def utf8 (c : Char) : List UInt8 := Text.bytes (String.singleton c)

/-- The bytes that a range of a class names. A range is read byte by byte, from the last byte of
its first character to the first byte of its last one. -/
def rangeHas (b : UInt8) (first last : Char) : Bool :=
  if first = last then (utf8 first).contains b
  else
    let low := (utf8 first).getLastD 0
    let high := (utf8 last).headD 0
    (utf8 first).dropLast.contains b || (low ≤ b && b ≤ high) || ((utf8 last).drop 1).contains b

def classHas (negated : Bool) (ranges : List (Char × Char)) (b : UInt8) : Bool :=
  (ranges.any fun r => rangeHas b r.1 r.2) != negated

/-- The ends of a byte string, the longest first. -/
def tails : List UInt8 → List (List UInt8)
  | [] => [[]]
  | b :: bs => (b :: bs) :: tails bs

/-- The ends within the first name. -/
def nameTails : List UInt8 → List (List UInt8)
  | [] => [[]]
  | b :: bs => if b = slash then [b :: bs] else (b :: bs) :: nameTails bs

/-- What follows any slash. -/
def afterSlashes : List UInt8 → List (List UInt8)
  | [] => []
  | b :: bs => if b = slash then bs :: afterSlashes bs else afterSlashes bs

/-- Ends without repetitions; two ends of one string are the same if they are as long. -/
def distinct : List (List UInt8) → List (List UInt8)
  | [] => []
  | s :: ss =>
    let others := distinct ss
    if others.any fun t => t.length == s.length then others else s :: others

mutual

/-- Whether parts can only stand for nothing because every branch in them is empty. -/
def isBlank : List Token → Bool
  | [] => true
  | .alternates branches :: ts => areBlank branches && isBlank ts
  | _ :: _ => false

def areBlank : List (List Token) → Bool
  | [] => true
  | b :: bs => isBlank b && areBlank bs

end

mutual

/-- What can be left of a byte string after a part of a glob. Empty branches are left out of a
group. -/
def Token.rest (withinName : Bool) (s : List UInt8) : Token → List (List UInt8)
  | .literal c => if (utf8 c).isPrefixOf s then [s.drop (utf8 c).length] else []
  | .any =>
    match s with
    | [] => []
    | b :: bs => if withinName && b = slash then [] else [bs]
  | .star => if withinName then nameTails s else tails s
  | .leadingStars => distinct (s :: afterSlashes s)
  | .trailingStars =>
    match s with
    | b :: bs => if b = slash then tails bs else []
    | [] => []
  | .innerStars =>
    match s with
    | b :: bs => if b = slash then distinct (bs :: afterSlashes bs) else []
    | [] => []
  | .cls negated ranges =>
    match s with
    | [] => []
    | b :: bs => if classHas negated ranges b then [bs] else []
  | .alternates branches => if areBlank branches then [s] else distinct (restOfAny withinName s branches)

def restOfAny (withinName : Bool) (s : List UInt8) : List (List Token) → List (List UInt8)
  | [] => []
  | b :: bs => (if isBlank b then [] else restOf withinName [s] b) ++ restOfAny withinName s bs

def restOf (withinName : Bool) (ss : List (List UInt8)) : List Token → List (List UInt8)
  | [] => ss
  | t :: ts => restOf withinName (distinct (ss.flatMap fun s => t.rest withinName s)) ts

end

end Glob

structure Glob where
  tokens : List Glob.Token
  /-- Whether `*` and `?` keep to one name. -/
  withinName : Bool
  deriving Repr

namespace Glob

def matchesBytes (g : Glob) (s : List UInt8) : Bool :=
  match g.tokens with
  | [.leadingStars] => true
  | tokens => (restOf g.withinName [s] tokens).any (·.isEmpty)

/-- Whether a glob matches the path of these names. -/
def isMatch (g : Glob) (names : List String) : Bool :=
  g.matchesBytes (Text.bytes (String.intercalate "/" names))

end Glob

end TitleLint
