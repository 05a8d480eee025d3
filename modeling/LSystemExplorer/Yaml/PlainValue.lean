import LSystemExplorer.Decimal.Text
import LSystemExplorer.Text.Quoted
import LSystemExplorer.Yaml.Event

/-!
# What a plain scalar means

A scalar without quotes can mean nothing, a truth value, a whole number or a
number with a fraction, and otherwise it means its text.  Whole numbers may be
written in the bases ten, sixteen, eight and two.  Digits behind a leading zero
are text, and so is a number too large for a double.
-/

set_option autoImplicit false

namespace LSystemExplorer.Yaml

/-- The value that a scalar stands for. -/
inductive PlainValue
  | unit
  | boolean (value : Bool)
  | whole (value : Int)
  | number (value : Float)
  | text (value : List Char)
  | mistagged (value : List Char) (expected : String)

/-- The value of digits in a base, if there are digits and they are all digits of
that base. -/
def digitsIn? (base : Nat) (digits : List Char) : Option Nat :=
  if digits.isEmpty then none
  else
    digits.foldlM (fun value digit => do
      let next ← hexDigit? digit
      if next < base then some (base * value + next) else none) 0

/-- Digits that begin with a zero which is not alone; they count as text. -/
def isPaddedZero (text : List Char) : Bool :=
  let digits := (Decimal.takeSign text).2
  match digits with
  | '0' :: rest => !rest.isEmpty && rest.all Char.isDigit
  | _ => false

/-- The value of digits with the sign of their base in front, if one is. -/
def basedDigits? : List Char → Option Nat
  | '0' :: 'x' :: digits => digitsIn? 16 digits
  | '0' :: 'o' :: digits => digitsIn? 8 digits
  | '0' :: 'b' :: digits => digitsIn? 2 digits
  | _ => none

/-- A whole number of any size, with at most one sign. -/
def whole? (text : List Char) : Option Int :=
  let (negative, magnitude) := Decimal.takeSign text
  let value :=
    match basedDigits? magnitude with
    | some value => some value
    | none => if isPaddedZero text then none else digitsIn? 10 magnitude
  value.map fun value => if negative then -(value : Int) else value

/-- A number that is finite, or one of the words for those that are not. -/
def number? (text : List Char) : Option Float :=
  let infinities := [".inf", ".Inf", ".INF"].map String.toList
  let (sign, magnitude) :=
    match text with
    | '+' :: rest => (some '+', rest)
    | '-' :: rest => (some '-', rest)
    | rest => (none, rest)
  if infinities.contains magnitude then some (if sign = some '-' then -1 / 0 else 1 / 0)
  else if sign.isNone && ([".nan", ".NaN", ".NAN"].map String.toList).contains text then
    some (0 / 0)
  else if sign = some '+' && (magnitude.head? = some '+' || magnitude.head? = some '-') then none
  else
    match Decimal.read? text with
    | some value => if value.isFinite then some value else none
    | none => none

/-- The words for nothing at all. -/
def isNull (text : List Char) : Bool :=
  ["null", "Null", "NULL", "~"].contains (String.ofList text)

/-- The words for true and false. -/
def boolean? (text : List Char) : Option Bool :=
  if ["true", "True", "TRUE"].contains (String.ofList text) then some true
  else if ["false", "False", "FALSE"].contains (String.ofList text) then some false
  else none

/-- The number `2 ^ bits`. -/
def wholeLimit (bits : Nat) : Int :=
  Nat.pow 2 bits

/-- Whole numbers that are told apart from others have at most 128 bits. -/
def boundedWhole? (text : List Char) : Option Int := do
  let value ← whole? text
  if -wholeLimit 127 ≤ value ∧ value < wholeLimit 128 then some value else none

namespace PlainValue

/-- The value of a scalar without quotes and without a tag. -/
def ofText (text : List Char) : PlainValue :=
  if text.isEmpty || isNull text then .unit
  else
    match boolean? text, boundedWhole? text, number? text with
    | some value, _, _ => .boolean value
    | none, some value, _ => .whole value
    | none, none, some value => if isPaddedZero text then .text text else .number value
    | none, none, none => .text text

/-- The tags that ask for a form. -/
def standardTag (name : String) : List Char :=
  "tag:yaml.org,2002:".toList ++ name.toList

/-- What a scalar means, with regard to its tag. -/
def ofScalar (scalar : Scalar) : PlainValue :=
  let text := scalar.text
  let bare := scalar.style = .plain
  match scalar.tag with
  | none => if bare then ofText text else .text text
  | some tag =>
    if tag = standardTag "bool" then
      ((boolean? text).map boolean).getD (.mistagged text "a boolean")
    else if tag = standardTag "int" then
      ((boundedWhole? text).map whole).getD (.mistagged text "an integer")
    else if tag = standardTag "float" then
      ((number? text).map number).getD (.mistagged text "a float")
    else if tag = standardTag "null" then
      if isNull text then .unit else .mistagged text "null"
    else if bare && tag.head? = some '!' then ofText text
    else .text text

/-- How messages name a value. -/
def describe : PlainValue → String
  | .unit => "unit value"
  | .boolean value => s!"boolean \x60{value}\x60"
  | .whole value =>
    let width :=
      if value < -wholeLimit 63 then " as i128"
      else if wholeLimit 64 ≤ value then " as u128"
      else ""
    s!"integer \x60{value}\x60{width}"
  | .number value =>
    let digits := Decimal.plain value
    let digits :=
      if value.isFinite && !digits.toList.contains '.' then digits ++ ".0" else digits
    s!"floating point \x60{digits}\x60"
  | .text value => "string " ++ Text.quoted value
  | .mistagged value _ => "string " ++ Text.quoted value

end PlainValue

end LSystemExplorer.Yaml
