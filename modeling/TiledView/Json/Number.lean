/-!
# Numbers in JSON text

`Number` is a number as it is written: sign, digits and exponent.  It can be read in two ways.

* `Number.value?` — as an integer where it is written as one and fits 64 bits, else as a double that
  is computed from a significand of at most 64 bits.  This is fast and may miss the nearest double
  in the last place.  A number too large for a double has no value.
* `Number.nearest` — the double nearest to what is written.
-/

namespace TiledView.Json

/-- A number as written.  Digits are the numbers from zero to nine. -/
structure Number where
  negative : Bool
  whole : List Nat
  /-- Digits after the point, where there is one. -/
  fraction? : Option (List Nat)
  /-- Sign and digits of the exponent, where there is one; `true` is a negative sign. -/
  exponent? : Option (Bool × List Nat)
  deriving DecidableEq, Repr

/-- The value of a number. -/
inductive Numeral where
  | int (n : Int)
  | float (x : Float)

namespace Number

/-! ## Reading the digits -/

def digit? (c : Char) : Option Nat := if c.isDigit then some (c.toNat - '0'.toNat) else none

/-- A run of digits with at least one of them, and what follows it. -/
def digits (cs : List Char) : Option (List Nat × List Char) :=
  match (cs.takeWhile Char.isDigit).filterMap digit? with
  | [] => none
  | run => some (run, cs.dropWhile Char.isDigit)

def fractionPart : List Char → Option (Option (List Nat) × List Char)
  | '.' :: cs => (digits cs).map fun (run, rest) => (some run, rest)
  | cs => some (none, cs)

def exponentSign : List Char → Bool × List Char
  | '-' :: cs => (true, cs)
  | '+' :: cs => (false, cs)
  | cs => (false, cs)

def exponentPart : List Char → Option (Option (Bool × List Nat) × List Char)
  | [] => some (none, [])
  | c :: cs =>
    if c = 'e' ∨ c = 'E' then
      let (negative, cs) := exponentSign cs
      (digits cs).map fun (run, rest) => (some (negative, run), rest)
    else
      some (none, c :: cs)

/-- Reads a whole text as a number.  No digit stands before another one if it is zero and leads. -/
def ofChars? (cs : List Char) : Option Number := do
  let (negative, cs) := match cs with
    | '-' :: cs => (true, cs)
    | cs => (false, cs)
  let (whole, cs) ← digits cs
  if whole.head? = some 0 ∧ whole.length ≠ 1 then none
  let (fraction?, cs) ← fractionPart cs
  let (exponent?, cs) ← exponentPart cs
  if cs.isEmpty then some { negative, whole, fraction?, exponent? } else none

/-! ## Values -/

/-- Appends digits to a significand until it would leave 64 bits, and tells how many were left
over. -/
def appendDigits (significand : Nat) : List Nat → Nat × Nat
  | [] => (significand, 0)
  | d :: ds =>
    if 10 * significand + d < UInt64.size then
      appendDigits (10 * significand + d) ds
    else
      (significand, ds.length + 1)

def ofDigits (ds : List Nat) : Nat := ds.foldl (fun n d => 10 * n + d) 0

/-- The double nearest to a power of ten. -/
def powerOfTen (exponent : Nat) : Float := .ofScientific 1 false exponent

/-- Greatest exponent of a power of ten that is a double. -/
def maxPower : Nat := 308

/-- Divides by a power of ten, in steps that are doubles each. -/
def scaleDown (x : Float) (exponent : Nat) : Float :=
  if exponent ≤ maxPower then x / powerOfTen exponent
  else if x == 0 then x
  else scaleDown (x / powerOfTen maxPower) (exponent - maxPower)
  termination_by exponent
  decreasing_by simp only [maxPower] at *; omega

/-- Multiplies by a power of ten, where the product is a double. -/
def scaleUp? (x : Float) (exponent : Nat) : Option Float :=
  if exponent ≤ maxPower then
    let product := x * powerOfTen exponent
    if product.isInf then none else some product
  else if x == 0 then some x
  else none

/-- The double `significand * 10 ^ exponent`. -/
def scaled? (significand : Nat) : (exponent : Int) → Option Float
  | .ofNat exponent => scaleUp? (.ofNat significand) exponent
  | .negSucc exponent => some (scaleDown (.ofNat significand) (exponent + 1))

/-- The exponent as written. -/
def writtenExponent (n : Number) : Int :=
  match n.exponent? with
  | none => 0
  | some (true, ds) => -(ofDigits ds)
  | some (false, ds) => ofDigits ds

/-- Greatest exponent that is taken into account. -/
def maxExponent : Nat := 0x7fffffff

/-- The magnitude of a number as a double.  An exponent beyond `maxExponent` makes it zero where it
is negative or the significand is zero, and out of range otherwise. -/
def magnitude? (n : Number) : Option Float :=
  let (significand, dropped) := appendDigits 0 n.whole
  let fraction := n.fraction?.getD []
  let (significand, unread) := appendDigits significand fraction
  let written := n.writtenExponent
  if written.natAbs ≤ maxExponent then
    scaled? significand (written + dropped - (fraction.length - unread : Nat))
  else if significand = 0 ∨ written < 0 then
    some 0
  else
    none

/-- The number as an integer, where it is written as one and fits 64 bits with or without a sign.  A
zero with a sign is no integer. -/
def int? (n : Number) : Option Int :=
  match n.fraction?, n.exponent? with
  | none, none =>
    let magnitude := ofDigits n.whole
    if n.negative then
      if 0 < magnitude ∧ magnitude ≤ UInt64.size / 2 then some (-magnitude) else none
    else
      if magnitude < UInt64.size then some magnitude else none
  | _, _ => none

def value? (n : Number) : Option Numeral :=
  match n.int? with
  | some i => some (.int i)
  | none => n.magnitude?.map fun x => .float (if n.negative then -x else x)

/-- The double nearest to what is written. -/
def nearest (n : Number) : Float :=
  let fraction := n.fraction?.getD []
  let significand := ofDigits (n.whole ++ fraction)
  let exponent := n.writtenExponent - fraction.length
  let x := Float.ofScientific significand (exponent < 0) exponent.natAbs
  if n.negative then -x else x

end Number

end TiledView.Json
