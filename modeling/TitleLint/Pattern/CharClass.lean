import TitleLint.Unicode.CaseFolding
import TitleLint.Unicode.Property
import TitleLint.Unicode.Script

namespace TitleLint.Pattern

/-- A set of characters as a pattern describes it. -/
inductive CharClass where
  | empty
  | range (first last : Char)
  | category (members : List Unicode.Category)
  | script (blocks : List Nat)
  | digit
  | space
  | word
  | alphabetic
  | uppercase
  | lowercase
  | union (a b : CharClass)
  | intersection (a b : CharClass)
  | complement (a : CharClass)
  /-- The characters that differ from a member in case only. -/
  | folded (a : CharClass)
  deriving Repr

namespace CharClass

def mem : CharClass → Char → Bool
  | empty, _ => false
  | range first last, c => first ≤ c && c ≤ last
  | category members, c => members.contains (Unicode.Category.of c)
  | script blocks, c => Unicode.inBlocks blocks c.toNat
  | digit, c => Unicode.isDecimalDigit c
  | space, c => Unicode.isSpace c
  | word, c => Unicode.isWord c
  | alphabetic, c => Unicode.isAlphabetic c
  | uppercase, c => Unicode.isUppercase c
  | lowercase, c => Unicode.isLowercase c
  | union a b, c => a.mem c || b.mem c
  | intersection a b, c => a.mem c && b.mem c
  | complement a, c => !a.mem c
  | folded a, c => (Unicode.caseVariants c).any fun d => a.mem d

def single (c : Char) : CharClass := range c c

def difference (a b : CharClass) : CharClass := intersection a (complement b)

def symmetricDifference (a b : CharClass) : CharClass := union (difference a b) (difference b a)

def unions (parts : List CharClass) : CharClass := parts.foldr union empty

/-- The ASCII characters of a named class such as `[:alpha:]`. -/
def ascii? : String → Option CharClass
  | "alnum" => some (unions [range '0' '9', range 'A' 'Z', range 'a' 'z'])
  | "alpha" => some (unions [range 'A' 'Z', range 'a' 'z'])
  | "ascii" => some (range '\x00' '\x7f')
  | "blank" => some (unions [single '\t', single ' '])
  | "cntrl" => some (unions [range '\x00' '\x1f', single '\x7f'])
  | "digit" => some (range '0' '9')
  | "graph" => some (range '!' '~')
  | "lower" => some (range 'a' 'z')
  | "print" => some (range ' ' '~')
  | "punct" => some (unions [range '!' '/', range ':' '@', range '[' '\x60', range '\x7b' '~'])
  | "space" => some (unions [range '\t' '\r', single ' '])
  | "upper" => some (range 'A' 'Z')
  | "word" => some (unions [range '0' '9', range 'A' 'Z', range 'a' 'z', single '_'])
  | "xdigit" => some (unions [range '0' '9', range 'A' 'F', range 'a' 'f'])
  | _ => none

/-- The characters that a class names one by one, in ranges. -/
def ranges : CharClass → List (Char × Char)
  | range first last => [(first, last)]
  | union a b => a.ranges ++ b.ranges
  | _ => []

end CharClass

end TitleLint.Pattern
