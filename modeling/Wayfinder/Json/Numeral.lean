import Wayfinder.Json.Basic

/-! Numbers as JSON writes them, and the value of a numeral. A numeral without fraction and exponent
that fits 64 bits is whole. For any other, as many digits as fit 64 bits are taken as a whole
number; that is rounded to a double, and then multiplied or divided by a rounded power of ten, so
the result can miss the nearest double. -/
namespace Wayfinder

structure Numeral where
  negative : Bool
  whole : List Char
  fraction : Option (List Char)
  exponent : Option (Bool × List Char)
deriving Repr

def digitValue (c : Char) : Nat := c.toNat - '0'.toNat

def maxWord : Nat := 0xFFFFFFFFFFFFFFFF

/-- The leading digits taken together as far as they fit a word, and the digits left over. -/
def takeWord : Nat → List Char → Nat × List Char
  | acc, [] => (acc, [])
  | acc, c :: cs =>
    let next := acc * 10 + digitValue c
    if next ≤ maxWord then takeWord next cs else (acc, c :: cs)

def powerOfTen (n : Nat) : Binary64 := (Binary64.ofRatio? false (tenTo n) 1).getD (.zero false)

def greatestPower : Nat := 308

def scaleDown : Nat → Binary64 → Int → Option Binary64
  | 0, _, _ => none
  | fuel + 1, x, e =>
    if x.mantissa = 0 then some x
    else if e.natAbs ≤ greatestPower then x.div? (powerOfTen e.natAbs)
    else (x.div? (powerOfTen greatestPower)).bind (scaleDown fuel · (e + greatestPower))

/-- `significand · 10 ^ e` in two roundings; none beyond the finite doubles. -/
def scaled? (significand : Nat) (e : Int) : Option Binary64 :=
  (Binary64.ofRatio? false significand 1).bind fun x =>
    if x.mantissa = 0 then some x
    else if 0 ≤ e then
      if e.toNat ≤ greatestPower then x.mul? (powerOfTen e.toNat) else none
    else scaleDown 4 x e

def maxExponent : Nat := 0x7FFFFFFF

namespace Numeral

def isWhole (n : Numeral) : Bool := n.fraction.isNone && n.exponent.isNone

def nat? (n : Numeral) : Option Nat :=
  if n.isWhole && !n.negative then some (n.whole.foldl (fun a c => a * 10 + digitValue c) 0)
  else none

def double? (n : Numeral) : Option Binary64 :=
  let (front, left) := takeWord 0 n.whole
  let fraction := n.fraction.getD []
  let (significand, dropped) := takeWord front fraction
  let start : Int := left.length - (fraction.length - dropped.length)
  let magnitude : Option Binary64 :=
    match n.exponent with
    | none => scaled? significand start
    | some (down, digits) =>
      let e := digits.foldl (fun a c => a * 10 + digitValue c) 0
      if maxExponent < e then
        if significand ≠ 0 && !down then none else some (.zero false)
      else scaled? significand (if down then start - e else start + e)
  magnitude.map fun x => if n.negative then x.neg else x

def number? (n : Numeral) : Option Number :=
  if n.isWhole then
    match takeWord 0 n.whole with
    | (v, []) =>
      if !n.negative then some (.whole v)
      else if v ≠ 0 && v ≤ 0x8000000000000000 then some (.whole (-v))
      else n.double?.map .double
    | _ => n.double?.map .double
  else n.double?.map .double

end Numeral
end Wayfinder
