import TitleLint.Document.Value
import TitleLint.Text.Quoted

/-!
Reading records out of documents. The first fault in the order of the document counts.
-/

namespace TitleLint.Document

inductive Kind where
  | nothing
  | bool (b : Bool)
  | int (n : Int)
  | double (x : Double)
  | text (s : String)
  | sequence
  | mapping
  deriving DecidableEq, Repr

def Kind.message : Kind → String
  | nothing => "unit value"
  | bool b => if b then "boolean `true`" else "boolean `false`"
  | int n => "integer `" ++ (if n < 0 then "-" else "") ++ Nat.repr n.natAbs ++ "`"
  | double x => "floating point `" ++ x.text ++ "`"
  | text s => "string " ++ Text.quoted s
  | sequence => "sequence"
  | mapping => "map"

def Value.kind : Value → Kind
  | null => .nothing
  | bool b => .bool b
  | int n => .int n
  | double x => .double x
  | text s => .text s
  | sequence _ => .sequence
  | mapping _ => .mapping
  | tagged _ v => v.kind

/-- The kind of a node; a scalar may stand for no value. -/
def View.kind? : View → Option Kind
  | scalar s style tag => (Value.ofScalar? s style tag).map Value.kind
  | sequence .. => some .sequence
  | mapping .. => some .mapping

inductive Step where
  | field (name : String)
  | item (index : Nat)
  /-- The value of a key that is not written in its place. -/
  | unnamed
  deriving DecidableEq, Repr

abbrev Place := List Step

def Place.text (place : Place) : String :=
  place.foldl (fun outer step =>
    let dotted := fun (name : String) => if outer.isEmpty then name else outer ++ "." ++ name
    match step with
    | .field name => dotted name
    | .item i => outer ++ "[" ++ Nat.repr i ++ "]"
    | .unnamed => dotted "?") ""

/-- Why a document does not hold a record. -/
inductive Fault where
  /-- It stands for no value at all. -/
  | broken
  | unexpected (place : Place) (found : Kind) (expected : String)
  | unknownField (place : Place) (name : String) (known : List String)
  | repeatedField (place : Place) (name : String)
  deriving DecidableEq, Repr

def Fault.message (f : Fault) : String :=
  let placed := fun (place : Place) (s : String) => if place.isEmpty then s else place.text ++ ": " ++ s
  let ticked := fun (name : String) => "`" ++ name ++ "`"
  match f with
  | broken => "broken document"
  | unexpected place found expected =>
    placed place ("invalid type: " ++ found.message ++ ", expected " ++ expected)
  | unknownField place name known =>
    placed place ("unknown field " ++ ticked name ++ ", expected one of " ++
      String.intercalate ", " (known.map ticked))
  | repeatedField place name => placed place ("duplicate field " ++ ticked name)

/-- Reads what stands at a place. -/
abbrev Decoder (α : Type) := Document → Place → Node Nat → Except Fault α

namespace Decoder

/-- Looks at a node through an alias. -/
def viewing {α : Type} (read : Document → Place → View → Except Fault α) : Decoder α :=
  fun d place n =>
    match d.view? n with
    | some v => read d place v
    | none => .error .broken

def refuse {α : Type} (expected : String) (place : Place) (v : View) : Except Fault α :=
  match v.kind? with
  | some found => .error (.unexpected place found expected)
  | none => .error .broken

/-- The text of a scalar, whatever it stands for. -/
def text (expected : String) : Decoder String :=
  viewing fun _ place v =>
    match v with
    | .scalar s _ _ => .ok s
    | v => refuse expected place v

/-- An integer without a sign that fits into 64 bits, written plainly. -/
def nat : Decoder Nat :=
  viewing fun _ place v =>
    let n? := match v with
      | .scalar s style tag =>
        if style = .plain ∨ (style = .literal ∧ tag = some "tag:yaml.org,2002:int") then
          (unsigned? s.toList).filter (· < UInt64.size)
        else none
      | _ => none
    match n? with
    | some n => .ok n
    | none => refuse "u64" place v

/-- What may be left out. Only a plain scalar without a tag leaves it out, or one with the tag for
that. -/
def optional {α : Type} (inner : Decoder α) : Decoder (Option α) :=
  fun d place n =>
    match d.view? n with
    | some (.scalar s .plain none) =>
      if s.isEmpty ∨ isNull s then .ok none else (inner d place n).map some
    | some (.scalar s .plain (some "tag:yaml.org,2002:null")) =>
      if isNull s then .ok none else .error .broken
    | _ => (inner d place n).map some

def items {α : Type} (inner : Decoder α) (d : Document) (place : Place) :
    Nat → List (Node Nat) → Except Fault (List α)
  | _, [] => .ok []
  | i, n :: ns => do
    let x ← inner d (place ++ [.item i]) n
    return x :: (← items inner d place (i + 1) ns)

/-- The items of a sequence; a value that is not written has none. -/
def list {α : Type} (inner : Decoder α) : Decoder (List α) :=
  viewing fun d place v =>
    match v with
    | .sequence ns _ => items inner d place 0 ns
    | .scalar "" .plain _ => .ok []
    | v => refuse "a sequence" place v

/-- A field of a record. -/
structure Field (α : Type) where
  name : String
  /-- Reads the field and puts it into the record. -/
  read : α → Decoder α

def Field.of {α β : Type} (name : String) (inner : Decoder β) (set : α → β → α) : Field α where
  name
  read r d place n := (inner d place n).map (set r)

/-- The step to a value, by its key. -/
def stepOf : Node Nat → Step
  | .scalar s _ _ => .field s
  | .anchored _ n => stepOf n
  | _ => .unnamed

/-- Reads the fields of a record in the order in which they are written. -/
def entries {α : Type} (fields : List (Field α)) (d : Document) (place : Place) (r : α)
    (seen : List String) : List (Node Nat × Node Nat) → Except Fault α
  | [] => .ok r
  | (k, v) :: rest => do
    let name ← text "field identifier" d place k
    match fields.find? (·.name = name) with
    | none => .error (.unknownField place name (fields.map (·.name)))
    | some field =>
      if name ∈ seen then .error (.repeatedField place name)
      else
        let r ← field.read r d (place ++ [stepOf k]) v
        entries fields d place r (name :: seen) rest

/-- A record, which begins with the values of `start`; one that is not written keeps them. -/
def record {α : Type} (name : String) (fields : List (Field α)) (start : α) : Decoder α :=
  viewing fun d place v =>
    match v with
    | .mapping es _ => entries fields d place start [] es
    | .scalar "" .plain _ => .ok start
    | v => refuse ("struct " ++ name) place v

end Decoder

/-- Reads a record out of a text; one without a document leaves it as it begins. A fault only counts
if the document is sound. -/
def decode {α : Type} (read : Decoder α) (start : α) (text : String) : Except Fault α :=
  match ofText? text with
  | none => .error .broken
  | some d =>
    match d.root with
    | none => .ok start
    | some root =>
      match read d [] root with
      | .ok r => .ok r
      | .error fault => .error (if d.isSound then fault else .broken)

end TitleLint.Document
