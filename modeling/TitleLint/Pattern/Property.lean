import TitleLint.Pattern.CharClass

/-!
Classes of characters by a property: the general categories, the scripts, and the properties that
letters, their case, blanks and hexadecimal digits have. Other properties are not known here, such as
dashes and emoji, the age of a character and the breaks around it; a pattern that asks for one of them
is refused. The extensions of a script are taken for the script itself.
-/

namespace TitleLint.Pattern

/-- The name of a property as it is compared: in lower case, without blanks, hyphens, underscores
and a leading "is". -/
def looseName (name : List Char) : List Char :=
  let lower := name.map Char.toLower
  let bare := if "is".toList.isPrefixOf lower then lower.drop 2 else lower
  let kept := bare.filter fun c => c ≠ ' ' ∧ c ≠ '_' ∧ c ≠ '-' ∧ c.toNat < 128
  if bare.length < lower.length ∧ kept = ['c'] then "isc".toList else kept

open Unicode in
/-- The categories that a name of one category or of a group of them stands for. -/
def categories? : String → Option (List Category)
  | "lu" | "uppercaseletter" => some [.uppercaseLetter]
  | "ll" | "lowercaseletter" => some [.lowercaseLetter]
  | "lt" | "titlecaseletter" => some [.titlecaseLetter]
  | "lc" | "casedletter" => some [.uppercaseLetter, .lowercaseLetter, .titlecaseLetter]
  | "lm" | "modifierletter" => some [.modifierLetter]
  | "lo" | "otherletter" => some [.otherLetter]
  | "l" | "letter" =>
    some [.uppercaseLetter, .lowercaseLetter, .titlecaseLetter, .modifierLetter, .otherLetter]
  | "mn" | "nonspacingmark" => some [.nonspacingMark]
  | "mc" | "spacingmark" => some [.spacingMark]
  | "me" | "enclosingmark" => some [.enclosingMark]
  | "m" | "mark" | "combiningmark" => some [.nonspacingMark, .spacingMark, .enclosingMark]
  | "nd" | "decimalnumber" | "digit" => some [.decimalNumber]
  | "nl" | "letternumber" => some [.letterNumber]
  | "no" | "othernumber" => some [.otherNumber]
  | "n" | "number" => some [.decimalNumber, .letterNumber, .otherNumber]
  | "pc" | "connectorpunctuation" => some [.connectorPunctuation]
  | "pd" | "dashpunctuation" => some [.dashPunctuation]
  | "ps" | "openpunctuation" => some [.openPunctuation]
  | "pe" | "closepunctuation" => some [.closePunctuation]
  | "pi" | "initialpunctuation" => some [.initialPunctuation]
  | "pf" | "finalpunctuation" => some [.finalPunctuation]
  | "po" | "otherpunctuation" => some [.otherPunctuation]
  | "p" | "punctuation" | "punct" =>
    some [.connectorPunctuation, .dashPunctuation, .openPunctuation, .closePunctuation,
      .initialPunctuation, .finalPunctuation, .otherPunctuation]
  | "sm" | "mathsymbol" => some [.mathSymbol]
  | "sc" | "currencysymbol" => some [.currencySymbol]
  | "sk" | "modifiersymbol" => some [.modifierSymbol]
  | "so" | "othersymbol" => some [.otherSymbol]
  | "s" | "symbol" => some [.mathSymbol, .currencySymbol, .modifierSymbol, .otherSymbol]
  | "zs" | "spaceseparator" => some [.spaceSeparator]
  | "zl" | "lineseparator" => some [.lineSeparator]
  | "zp" | "paragraphseparator" => some [.paragraphSeparator]
  | "z" | "separator" => some [.spaceSeparator, .lineSeparator, .paragraphSeparator]
  | "cc" | "control" | "cntrl" => some [.control]
  | "cf" | "format" => some [.format]
  | "cs" | "surrogate" => some [.surrogate]
  | "co" | "privateuse" => some [.privateUse]
  | "cn" | "unassigned" => some [.unassigned]
  | "c" | "other" => some [.control, .format, .surrogate, .privateUse, .unassigned]
  | _ => none

def categoryClass? (name : String) : Option CharClass :=
  match name with
  | "any" => some (.complement .empty)
  | "ascii" => some (.range '\x00' '\x7f')
  | "assigned" => some (.complement (.category [.unassigned]))
  | _ => (categories? name).map .category

def scriptClass? (name : String) : Option CharClass :=
  (Unicode.script? name).map fun s => .script s.blocks

/-- The class of a property that is named alone. -/
def property? (name : List Char) : Option CharClass :=
  let name := String.ofList (looseName name)
  match name with
  | "alphabetic" | "alpha" => some .alphabetic
  | "uppercase" | "upper" => some .uppercase
  | "lowercase" | "lower" => some .lowercase
  | "whitespace" | "wspace" | "space" => some .space
  | "asciihexdigit" | "ahex" => CharClass.ascii? "xdigit"
  | _ => (categoryClass? name).or (scriptClass? name)

/-- The class of a property that is named with a value. -/
def propertyValue? (name value : List Char) : Option CharClass :=
  let value := String.ofList (looseName value)
  match String.ofList (looseName name) with
  | "gc" | "generalcategory" => categoryClass? value
  | "sc" | "script" | "scx" | "scriptextensions" => scriptClass? value
  | _ => none

end TitleLint.Pattern
