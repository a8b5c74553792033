import TitleLint.Text.Split
import TitleLint.Unicode.Property

namespace TitleLint.Subject

/-- Simple-past forms that do not end in `-ed`. -/
def irregularPast : List String :=
  ["began", "bought", "broke", "brought", "built", "caught", "chose", "did", "drew", "drove",
    "fell", "felt", "fought", "forgot", "found", "gave", "got", "grew", "had", "held", "hid",
    "kept", "knew", "led", "left", "lost", "made", "meant", "met", "overrode", "paid", "ran",
    "rebuilt", "rewrote", "rode", "rose", "said", "sent", "shook", "sold", "sought", "spent",
    "spoke", "stood", "stole", "struck", "stuck", "swept", "taught", "thought", "threw", "told",
    "took", "tore", "understood", "undid", "was", "went", "were", "withdrew", "woke", "won",
    "wore", "wrote"]

/-- Base forms that happen to end in `-ed`. -/
def baseFormsInEd : List String :=
  ["bleed", "breed", "embed", "exceed", "feed", "need", "proceed", "seed", "shed", "shred",
    "speed", "succeed", "weed"]

/-- The lower-case form of a character, as far as it has ASCII letters in it. The word lists are
ASCII, so no other character can decide about them. -/
def lowered (c : Char) : List Char :=
  if 'A' ≤ c ∧ c ≤ 'Z' then [Char.ofNat (c.toNat + 32)]
  else if c = '\u212a' then ['k']
  else if c = '\u0130' then ['i', '\u0307']
  else [c]

def firstWord (subject : String) : List Char := subject.toList.takeWhile (· ≠ ' ')

def startsUppercase (subject : String) : Bool :=
  match subject.toList with
  | [] => false
  | c :: _ => Unicode.isUppercase c

def endsWithPeriod (subject : String) : Bool := ['.'].isSuffixOf subject.toList

/-- Whether the first word looks like a simple past. -/
def isPastTense (subject : String) : Bool :=
  let verb := (firstWord subject).flatMap lowered
  irregularPast.contains (String.ofList verb) ||
    (2 < verb.length && "ed".toList.isSuffixOf verb && !baseFormsInEd.contains (String.ofList verb))

/-- Whether the marker stands anywhere but once at the end, after a single space. -/
def hasMisplacedMarker (subject marker : String) : Bool :=
  if marker.isEmpty || !Text.occurs marker.toList subject.toList then false
  else
    match Text.before? marker.toList subject.toList with
    | none => true
    | some front =>
      !([' '].isSuffixOf front && !([' ', ' '].isSuffixOf front) && !Text.occurs marker.toList front)

end TitleLint.Subject
