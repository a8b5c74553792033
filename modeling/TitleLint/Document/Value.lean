import TitleLint.Document.Anchor
import TitleLint.Double

/-!
What the nodes of a document stand for. A document is sound if it stands for a value: its integers
are not too large, no key of a mapping comes twice, and it is not nested too deeply.
-/

namespace TitleLint.Document

inductive Value where
  | null
  | bool (b : Bool)
  | int (n : Int)
  | double (x : Double)
  | text (s : String)
  | sequence (items : List Value)
  | mapping (entries : List (Value × Value))
  | tagged (tag : String) (v : Value)

/-! ### Plain scalars -/

def digitsValue? (base : Nat) (ds : List Char) : Option Nat :=
  if ds.isEmpty then none
  else
    ds.foldl (fun n d => do
      let n ← n
      let d ← Scalar.hexDigit? d
      if d < base then some (n * base + d) else none) (some 0)

/-- Digits after a zero. They make a text. -/
def isPadded (s : List Char) : Bool :=
  let s := match s with
    | '-' :: s => s
    | '+' :: s => s
    | s => s
  match s with
  | '0' :: d :: ds => (d :: ds).all Char.isDigit
  | _ => false

/-- Digits in base ten, or behind a mark in another base. -/
def magnitude? (s : List Char) : Option Nat :=
  match s with
  | '0' :: 'x' :: ds => digitsValue? 16 ds
  | '0' :: 'o' :: ds => digitsValue? 8 ds
  | '0' :: 'b' :: ds => digitsValue? 2 ds
  | ds => if isPadded ds then none else digitsValue? 10 ds

/-- An integer without a sign, or with a plus. -/
def unsigned? (s : List Char) : Option Nat :=
  match s with
  | '+' :: s => magnitude? s
  | s => magnitude? s

/-- An integer that fits into 128 bits. -/
def int? (s : List Char) : Option Int :=
  match s with
  | '-' :: s => ((magnitude? s).filter (· ≤ Nat.pow 2 127)).map fun n => -(n : Int)
  | s => ((unsigned? s).filter (· < Nat.pow 2 128)).map Int.ofNat

/-- Whether an integer fits into 64 bits. -/
def isSmall (n : Int) : Bool := -Int.pow 2 63 ≤ n && n < Int.pow 2 64

/-- Digits with a point and an exponent. -/
def decimal? (negative : Bool) (s : List Char) : Option Double := do
  let whole := s.takeWhile Char.isDigit
  let rest := s.dropWhile Char.isDigit
  let (fraction, rest) := match rest with
    | '.' :: rest => (rest.takeWhile Char.isDigit, rest.dropWhile Char.isDigit)
    | rest => ([], rest)
  let exponent ← match rest with
    | [] => some 0
    | e :: rest =>
      if e ≠ 'e' ∧ e ≠ 'E' then none
      else
        match rest with
        | '-' :: ds => (digitsValue? 10 ds).map fun n => -(n : Int)
        | '+' :: ds => (digitsValue? 10 ds).map Int.ofNat
        | ds => (digitsValue? 10 ds).map Int.ofNat
  return .ofDecimal negative (← digitsValue? 10 (whole ++ fraction)) (exponent - fraction.length)

/-- A number with a point. What is too large for one is none. -/
def double? (s : List Char) : Option Double :=
  let isInfinite := fun s => [".inf", ".Inf", ".INF"].contains (String.ofList s)
  let found := match s with
    | '-' :: s => if isInfinite s then some (.infinite true) else (decimal? true s).filter isFinite
    | '+' :: s => if isInfinite s then some (.infinite false) else (decimal? false s).filter isFinite
    | s => if isInfinite s then some (.infinite false) else (decimal? false s).filter isFinite
  if [".nan", ".NaN", ".NAN"].contains (String.ofList s) then some .nan else found
where
  isFinite : Double → Bool
    | .finite .. => true
    | _ => false

def bool? (s : String) : Option Bool :=
  if ["true", "True", "TRUE"].contains s then some true
  else if ["false", "False", "FALSE"].contains s then some false
  else none

def isNull (s : String) : Bool := ["~", "null", "Null", "NULL"].contains s

namespace Value

/-- A value that is an integer of 64 bits. -/
def ofInt? (n : Int) : Option Value := if isSmall n then some (int n) else none

/-- What a plain scalar stands for. -/
def ofPlain? (s : String) : Option Value :=
  if s.isEmpty ∨ isNull s then some null
  else
    match bool? s, int? s.toList with
    | some b, _ => some (bool b)
    | _, some n => ofInt? n
    | _, _ =>
      match if isPadded s.toList then none else double? s.toList with
      | some x => some (double x)
      | none => some (text s)

/-- Whether a tag belongs to the application. -/
def isLocal (tag : String) : Bool := tag.toList.head? == some '!'

/-- What a scalar stands for. The tags of the notation demand a kind, and others make a text. -/
def ofScalar? (s : String) (style : ScalarStyle) (tag : Option String) : Option Value :=
  match tag with
  | some "tag:yaml.org,2002:bool" => (bool? s).map bool
  | some "tag:yaml.org,2002:int" => (int? s.toList).bind ofInt?
  | some "tag:yaml.org,2002:float" => (double? s.toList).map double
  | some "tag:yaml.org,2002:null" => if isNull s then some null else none
  | tag => if style = .plain ∧ tag.all isLocal then ofPlain? s else some (text s)

/-! ### Equal values -/

mutual

/-- Whether two values are the same as keys. The order of a mapping does not matter. -/
def isSame : Value → Value → Bool
  | null, null => true
  | bool b, bool b' => b == b'
  | int n, int n' => n == n'
  | double x, double x' => x.isSame x'
  | text s, text s' => s == s'
  | sequence vs, sequence vs' => areSame vs vs'
  | mapping es, mapping es' => es.length == es'.length && areWithin es es'
  | tagged t v, tagged t' v' => t == t' && isSame v v'
  | _, _ => false

def areSame : List Value → List Value → Bool
  | [], [] => true
  | v :: vs, v' :: vs' => isSame v v' && areSame vs vs'
  | _, _ => false

def areWithin : List (Value × Value) → List (Value × Value) → Bool
  | [], _ => true
  | (k, v) :: es, es' => es'.any (fun e => isSame k e.1 && isSame v e.2) && areWithin es es'

end

def areDistinct : List Value → Bool
  | [] => true
  | v :: vs => !vs.any (isSame v) && areDistinct vs

end Value

/-! ### Documents -/

/-- Loading counts the aliases that may still be followed. -/
abbrev Loading := StateT Nat Option

/-- The name that a tag gives, without the mark of the application. -/
def tagName (tag : String) : String :=
  let unmarked := fun (cs : List Char) => match cs with
    | '!' :: c :: cs => c :: cs
    | cs => cs
  String.ofList (unmarked (unmarked tag.toList))

/-- A value under a tag of the application. -/
def Value.under (tag : Option String) (v : Value) : Value :=
  match tag.filter isLocal with
  | some tag => tagged (tagName tag) v
  | none => v

def visit (d : Document) (n : Node Nat) : Loading View := do
  if n matches .alias _ then
    match ← get with
    | 0 => failure
    | left + 1 => set left
  d.view? n

def scalarValue (s : String) (style : ScalarStyle) (tag : Option String) : Loading Value := do
  return .under tag (← Value.ofScalar? s style (tag.filter fun t => !Value.isLocal t))

/-- The value of a node that is nested in no more collections than a bound. -/
def loadNode (d : Document) : Nat → Node Nat → Loading Value
  | 0, n => do
    match ← visit d n with
    | .scalar s style tag => scalarValue s style tag
    | _ => failure
  | depth + 1, n => do
    match ← visit d n with
    | .scalar s style tag => scalarValue s style tag
    | .sequence items tag => return .under tag (.sequence (← items.mapM (loadNode d depth)))
    | .mapping entries tag =>
      let entries ← entries.mapM fun (k, v) => return (← loadNode d depth k, ← loadNode d depth v)
      if Value.areDistinct (entries.map (·.1)) then return .under tag (.mapping entries) else failure

def depthLimit : Nat := 128

def value? (d : Document) : Option Value :=
  match d.root with
  | none => some .null
  | some root => (((loadNode d depthLimit root).run (100 * root.size)).map (·.1))

def isSound (d : Document) : Bool := d.value?.isSome

end TitleLint.Document
