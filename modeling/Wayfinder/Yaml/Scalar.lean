import Wayfinder.Json.Numeral
import Wayfinder.Yaml.Token

/-! What a scalar says. A plain scalar without a tag is taken for null, a truth value or a number
where it is spelled like one, and for a string otherwise; a quoted one is a string. The standard
tags for these kinds force a reading, the tags of an application are refused. -/
namespace Wayfinder.Yaml

structure Scalar where
  text : String
  style : Style := .plain
  tag : Option String := none
deriving DecidableEq, Repr

inductive Reading where
  | json (j : Json)
  | nonFinite

def isNull (s : String) : Bool := s == "~" || s == "null" || s == "Null" || s == "NULL"

def bool? : String → Option Bool
  | "true" | "True" | "TRUE" => some true
  | "false" | "False" | "FALSE" => some false
  | _ => none

def isZeroPadded (cs : List Char) : Bool :=
  let digits := match cs with
    | '-' :: r | '+' :: r => r
    | r => r
  digits.length > 1 && digits.head? == some '0' && digits.all Char.isDigit

def digitIn? (radix : Nat) (c : Char) : Option Nat :=
  let n :=
    if '0' ≤ c && c ≤ '9' then c.toNat - 48
    else if 'a' ≤ c && c ≤ 'z' then c.toNat - 87
    else if 'A' ≤ c && c ≤ 'Z' then c.toNat - 55
    else radix
  if n < radix then some n else none

def natIn? (radix : Nat) (cs : List Char) : Option Nat :=
  if cs.isEmpty then none else cs.foldlM (fun n c => (digitIn? radix c).map (n * radix + ·)) 0

def startsSigned : List Char → Bool
  | '+' :: _ | '-' :: _ => true
  | _ => false

def radixOf? : Char → Option Nat
  | 'x' => some 16
  | 'o' => some 8
  | 'b' => some 2
  | _ => none

def marked? : List Char → Option Nat
  | '0' :: m :: digits => (radixOf? m).bind (natIn? · digits)
  | _ => none

def unsigned? (bound : Nat) (cs : List Char) : Option Nat :=
  let body := match cs with
    | '+' :: r => r
    | r => r
  match (marked? body).filter (· ≤ bound) with
  | some n => some n
  | none =>
    if startsSigned body || isZeroPadded cs then none else (natIn? 10 body).filter (· ≤ bound)

def negative? (bound : Nat) : List Char → Option Nat
  | '-' :: body =>
    match (marked? body).filter (· ≤ bound) with
    | some n => some n
    | none => if isZeroPadded ('-' :: body) then none else (natIn? 10 body).filter (· ≤ bound)
  | _ => none

def whole? (cs : List Char) : Option Int :=
  match unsigned? maxWord cs with
  | some n => some n
  | none => (negative? 0x8000000000000000 cs).map fun n => -n

def isWide (cs : List Char) : Bool :=
  (unsigned? 0xFFFFFFFFFFFFFFFFFFFFFFFFFFFFFFFF cs).isSome ||
    (negative? 0x80000000000000000000000000000000 cs).isSome

def decimal? (cs : List Char) : Option (Nat × Int) :=
  let (whole, rest) := cs.span Char.isDigit
  let (fraction, rest) := match rest with
    | '.' :: r => r.span Char.isDigit
    | r => ([], r)
  let digits := whole ++ fraction
  let exponent? : Option Int := match rest with
    | [] => some 0
    | e :: r =>
      if e = 'e' || e = 'E' then
        match r with
        | '-' :: r => (natIn? 10 r).map fun n => -n
        | '+' :: r => (natIn? 10 r).map fun n => n
        | r => (natIn? 10 r).map fun n => n
      else none
  if digits.isEmpty then none
  else exponent?.map fun e =>
    (digits.foldl (fun n c => n * 10 + digitValue c) 0, e - fraction.length)

def finite? (negative : Bool) (cs : List Char) : Option Binary64 :=
  (decimal? cs).bind fun (digits, e) => Binary64.ofDecimal? negative digits e

/-- A number with a point, an exponent, or more digits than a whole number may have. -/
def real? (s : String) : Option Reading :=
  let specials := [".inf", ".Inf", ".INF", "+.inf", "+.Inf", "+.INF", "-.inf", "-.Inf", "-.INF",
    ".nan", ".NaN", ".NAN"]
  if specials.contains s then some .nonFinite
  else
    let x := match s.toList with
      | '-' :: r => finite? true r
      | '+' :: r => finite? false r
      | r => finite? false r
    x.map fun x => .json (.num (.double x))

/-- A plain scalar without a tag. Whole numbers beyond 64 bits are refused up to 128 bits. -/
def plainReading? (s : String) : Option Reading :=
  let cs := s.toList
  if s.isEmpty || isNull s then some (.json .null)
  else if let some b := bool? s then some (.json (.bool b))
  else if let some n := whole? cs then some (.json (.num (.whole n)))
  else if isWide cs then none
  else
    match if isZeroPadded cs then none else real? s with
    | some r => some r
    | none => some (.json (.str s))

def intTag : String := "tag:yaml.org,2002:int"
def boolTag : String := "tag:yaml.org,2002:bool"
def floatTag : String := "tag:yaml.org,2002:float"
def nullTag : String := "tag:yaml.org,2002:null"

def isApplicationTag (t : String) : Bool := t.toList.head? == some '!'

namespace Scalar

def reading? (s : Scalar) : Option Reading :=
  match s.tag with
  | none => if s.style = .plain then plainReading? s.text else some (.json (.str s.text))
  | some t =>
    if isApplicationTag t then none
    else if t = boolTag then (bool? s.text).map fun b => .json (.bool b)
    else if t = intTag then (whole? s.text.toList).map fun n => .json (.num (.whole n))
    else if t = floatTag then real? s.text
    else if t = nullTag then if isNull s.text then some (.json .null) else none
    else some (.json (.str s.text))

def isEmptyPlain (s : Scalar) : Bool := s.style = .plain && s.text.isEmpty

/-- Whether a scalar says that an optional value is absent; none when its tag promises so and its
text does not. -/
def absent? (s : Scalar) : Option Bool :=
  if s.style = .plain then
    match s.tag with
    | some t => if t = nullTag then if isNull s.text then some true else none else some false
    | none => some (s.text.isEmpty || isNull s.text)
  else some false

def natUpTo? (bound : Nat) (s : Scalar) : Option Nat :=
  if s.style = .plain || (s.style = .literal && s.tag = some intTag) then
    unsigned? bound s.text.toList
  else none

end Scalar
end Wayfinder.Yaml
