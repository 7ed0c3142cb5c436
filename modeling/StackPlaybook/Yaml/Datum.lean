import StackPlaybook.Number.Binary64
import StackPlaybook.Yaml.Node

/-!
# StackPlaybook.Yaml.Datum

YAML data: what a node is when nothing is known of it beforehand.  The type of a plain
scalar follows from how it looks, that of another scalar from its tag.
-/

namespace StackPlaybook.Yaml

inductive Datum where
  | null
  | bool (b : Bool)
  /-- A whole number below 2⁶⁴. -/
  | nat (n : Nat)
  /-- A negative number of 64 bits. -/
  | negative
  | real
  | text (s : String)
  | list (items : List Datum)
  | record (entries : List (Datum × Datum))
  deriving Inhabited

namespace Scalar

/-! ## Nulls and truth values -/

def isNull (s : String) : Bool := s == "null" || s == "Null" || s == "NULL" || s == "~"

def bool? (s : String) : Option Bool :=
  if s == "true" || s == "True" || s == "TRUE" then some true
  else if s == "false" || s == "False" || s == "FALSE" then some false
  else none

/-! ## Whole numbers -/

/-- The value of digits of a base, of which there must be one at least. -/
def valueOf? (base : Nat) (cs : List Char) : Option Nat :=
  if cs.isEmpty then none
  else cs.foldlM (fun n c => do
    let d ← Bytes.hexDigit? c
    guard (d < base)
    return n * base + d) 0

/-- Whether digits begin with a zero that they do not need: these are no number. -/
def isPadded : List Char → Bool
  | '0' :: c :: cs => (c :: cs).all Char.isDigit
  | _ => false

/-- Digits in base ten, or after `0x`, `0o` or `0b` in another base. -/
def magnitude? : List Char → Option Nat
  | '0' :: 'x' :: cs => valueOf? 16 cs
  | '0' :: 'o' :: cs => valueOf? 8 cs
  | '0' :: 'b' :: cs => valueOf? 2 cs
  | cs => if isPadded cs then none else valueOf? 10 cs

/-- A whole number without a minus sign. -/
def unsigned? (s : String) : Option Nat :=
  match s.toList with
  | '+' :: cs => magnitude? cs
  | cs => magnitude? cs

/-- A whole number. -/
def int? (s : String) : Option Int :=
  match s.toList with
  | '-' :: cs => (magnitude? cs).map fun n => -(n : Int)
  | _ => (unsigned? s).map Int.ofNat

/-! ## Reals -/

/-- The characters after one sign. -/
def unsign : List Char → List Char
  | '+' :: cs | '-' :: cs => cs
  | cs => cs

/-- The value of an exponent part, or zero where there is none. -/
def exponent? : List Char → Option Int
  | [] => some 0
  | e :: cs =>
    if e == 'e' || e == 'E' then
      (valueOf? 10 (unsign cs)).map fun n => if cs.head? = some '-' then -(n : Int) else n
    else none

/-- Whether `n * 10 ^ e` is in the range of floating-point numbers. -/
def isFinite (n : Nat) (e : Int) : Bool :=
  let places := (toString n).length + e
  if n = 0 ∨ places < 0 then true
  else if 400 < places then false
  else if 0 ≤ e then (Binary64.ofQuotient false (n * Nat.pow 10 e.toNat) 1).isSome
  else (Binary64.ofQuotient false n (Nat.pow 10 (-e).toNat)).isSome

/-- Whether the characters are a decimal number in range: digits with or without a
point among them, and perhaps an exponent. -/
def isDecimal (cs : List Char) : Bool :=
  let whole := cs.takeWhile Char.isDigit
  let (fraction, rest) := match cs.drop whole.length with
    | '.' :: rest => (rest.takeWhile Char.isDigit, rest.dropWhile Char.isDigit)
    | rest => ([], rest)
  match valueOf? 10 (whole ++ fraction), exponent? rest with
  | some n, some e => isFinite n (e - fraction.length)
  | _, _ => false

/-- Whether a word is a real number: decimal, infinite or undefined. -/
def isReal (s : String) : Bool :=
  let cs := unsign s.toList
  [".nan", ".NaN", ".NAN"].contains s || [".inf", ".Inf", ".INF"].contains (String.ofList cs) ||
    isDecimal cs

/-! ## Types of scalars -/

/-- Whether a number needs more than 64 bits but not more than 128; such a number is
refused. -/
def isWide (n : Int) : Bool :=
  (0x10000000000000000 ≤ n && n < 0x100000000000000000000000000000000) ||
    (-0x80000000000000000000000000000000 ≤ n && n < -0x8000000000000000)

/-- A whole number of at most 64 bits as a datum. -/
def intDatum? (n : Int) : Option Datum :=
  if 0 ≤ n ∧ n < 0x10000000000000000 then some (.nat n.toNat)
  else if -0x8000000000000000 ≤ n ∧ n < 0 then some .negative
  else none

/-- The datum of a plain scalar without a tag. -/
def plainDatum (s : String) : Option Datum :=
  if s = "" ∨ isNull s then some .null
  else if let some b := bool? s then some (.bool b)
  else if let some d := (int? s).bind intDatum? then some d
  else if (int? s).any isWide then none
  else some (if !isPadded (unsign s.toList) && isReal s then .real else .text s)

/-- The full name of a standard tag. -/
def standardTag (name : String) : String := "tag:yaml.org,2002:" ++ name

/-- Whether a node has a tag of its own making, which nothing here can read. -/
def isLocal (props : Props) : Bool := props.tag.any fun t => t.toList.head? == some '!'

/-- The datum of a scalar. -/
def datum? (props : Props) (style : Style) (s : String) : Option Datum :=
  match props.tag with
  | none => if style = .plain then plainDatum s else some (.text s)
  | some tag =>
    if isLocal props then none
    else if tag = standardTag "bool" then (bool? s).map .bool
    else if tag = standardTag "int" then (int? s).bind intDatum?
    else if tag = standardTag "float" then if isReal s then some .real else none
    else if tag = standardTag "null" then if isNull s then some .null else none
    else some (.text s)

/-- Whether a node stands for nothing: a plain scalar that is null or not written.  A
scalar with the tag of null must be null. -/
def absence : Node → Option Bool
  | .scalar props .plain s =>
    match props.tag with
    | none => some (s == "" || isNull s)
    | some tag => if tag = standardTag "null" then (if isNull s then some true else none) else some false
  | _ => some false

end Scalar

namespace Datum

/-- The number of a field that a key names, by its name or by its place. -/
def place? (names : List String) : Datum → Option (Option Nat)
  | .text s => some (names.idxOf? s)
  | .nat n => some (if n < names.length then some n else none)
  | _ => none

/-- The fields of a type: a record gives them by name or place, none of them twice and
others passed over; a list gives all of them in order. -/
def fields? (names : List String) : Datum → Option (List (Option Datum))
  | .list items => if items.length = names.length then some (items.map some) else none
  | .record entries => do
    let places ← entries.mapM fun (k, v) => (k.place? names).map fun p => (p, v)
    guard ((List.range names.length).all fun i => (places.map (·.1)).count (some i) ≤ 1)
    return (List.range names.length).map fun i => places.lookup (some i)
  | _ => none

def text? : Datum → Option String
  | .text s => some s
  | _ => none

def nat? : Datum → Option Nat
  | .nat n => some n
  | _ => none

def bool? : Datum → Option Bool
  | .bool b => some b
  | _ => none

/-- A field that must be there. -/
def need {α : Type} (read : Datum → Option α) : Option Datum → Option α
  | some d => read d
  | none => none

/-- A field that may be missing or null. -/
def optional {α : Type} (read : Datum → Option α) : Option Datum → Option (Option α)
  | none | some .null => some none
  | some d => (read d).map some

end Datum

end StackPlaybook.Yaml
