import Wayfinder.Json.Numeral
import Wayfinder.SortedMap
import Wayfinder.Text.Hex

/-! JSON texts as they stand, before they are taken for values: numerals keep their digits, objects
every member in order, and a string that holds half a surrogate pair is well formed but has no
characters. -/
namespace Wayfinder

inductive JsonText where
  | null
  | bool (b : Bool)
  | number (n : Numeral)
  | string (s : Option String)
  | array (items : List JsonText)
  | object (members : List (Option String × JsonText))

namespace JsonText
open Text (hexDigit?)

def skipBlanks (s : List Char) : List Char :=
  s.dropWhile fun c => c == ' ' || c == '\n' || c == '\t' || c == '\r'

inductive CodeUnit where
  | char (c : Char)
  | code (n : Nat)

def isHighSurrogate (n : Nat) : Bool := 0xD800 ≤ n && n ≤ 0xDBFF
def isLowSurrogate (n : Nat) : Bool := 0xDC00 ≤ n && n ≤ 0xDFFF

/-- Joins surrogate pairs; none when half of one stands alone. -/
def joinUnits : List CodeUnit → Option (List Char)
  | [] => some []
  | .char c :: rest => (joinUnits rest).map (c :: ·)
  | .code h :: .code l :: rest =>
    if isHighSurrogate h then
      if isLowSurrogate l then
        (joinUnits rest).map (Char.ofNat (0x10000 + (h - 0xD800) * 0x400 + (l - 0xDC00)) :: ·)
      else none
    else if isLowSurrogate h then none
    else (joinUnits (.code l :: rest)).map (Char.ofNat h :: ·)
  | .code n :: rest =>
    if isHighSurrogate n || isLowSurrogate n then none
    else (joinUnits rest).map (Char.ofNat n :: ·)

def simpleEscape? : Char → Option Char
  | '"' => some '"'
  | '\\' => some '\\'
  | '/' => some '/'
  | 'b' => some '\x08'
  | 'f' => some '\x0c'
  | 'n' => some '\n'
  | 'r' => some '\r'
  | 't' => some '\t'
  | _ => none

def readUnits : List Char → Option (List CodeUnit × List Char)
  | [] => none
  | '"' :: rest => some ([], rest)
  | '\\' :: 'u' :: a :: b :: c :: d :: rest => do
    let n := (← hexDigit? a) * 4096 + (← hexDigit? b) * 256 + (← hexDigit? c) * 16 + (← hexDigit? d)
    let (units, rest) ← readUnits rest
    return (.code n :: units, rest)
  | '\\' :: e :: rest => do
    let c ← simpleEscape? e
    let (units, rest) ← readUnits rest
    return (.char c :: units, rest)
  | c :: rest => do
    if c = '\\' || c.toNat < 0x20 then none
    let (units, rest) ← readUnits rest
    return (.char c :: units, rest)

def readString (s : List Char) : Option (Option String × List Char) :=
  (readUnits s).map fun (units, rest) => ((joinUnits units).map String.ofList, rest)

def takeDigits (s : List Char) : List Char × List Char := s.span Char.isDigit

def readExponent : List Char → Option (Option (Bool × List Char) × List Char)
  | e :: rest =>
    if e = 'e' || e = 'E' then
      let (down, rest) := match rest with
        | '-' :: r => (true, r)
        | '+' :: r => (false, r)
        | r => (false, r)
      match takeDigits rest with
      | ([], _) => none
      | (digits, rest) => some (some (down, digits), rest)
    else some (none, e :: rest)
  | [] => some (none, [])

def readFraction : List Char → Option (Option (List Char) × List Char)
  | '.' :: rest =>
    match takeDigits rest with
    | ([], _) => none
    | (digits, rest) => some (some digits, rest)
  | rest => some (none, rest)

def readNumeral (s : List Char) : Option (Numeral × List Char) := do
  let (negative, s) := match s with
    | '-' :: r => (true, r)
    | r => (false, r)
  let (whole, s) := takeDigits s
  guard (!whole.isEmpty && (whole.head? != some '0' || whole.length == 1))
  let (fraction, s) ← readFraction s
  let (exponent, s) ← readExponent s
  return (⟨negative, whole, fraction, exponent⟩, s)

mutual
def readValue : Nat → List Char → Option (JsonText × List Char)
  | 0, _ => none
  | fuel + 1, s =>
    match skipBlanks s with
    | '"' :: rest => (readString rest).map fun (t, rest) => (.string t, rest)
    | '[' :: rest =>
      match skipBlanks rest with
      | ']' :: rest => some (.array [], rest)
      | rest => (readItems fuel rest).map fun (items, rest) => (.array items, rest)
    | '\x7b' :: rest =>
      match skipBlanks rest with
      | '\x7d' :: rest => some (.object [], rest)
      | rest => (readMembers fuel rest).map fun (members, rest) => (.object members, rest)
    | 'n' :: 'u' :: 'l' :: 'l' :: rest => some (.null, rest)
    | 't' :: 'r' :: 'u' :: 'e' :: rest => some (.bool true, rest)
    | 'f' :: 'a' :: 'l' :: 's' :: 'e' :: rest => some (.bool false, rest)
    | rest => (readNumeral rest).map fun (n, rest) => (.number n, rest)

def readItems : Nat → List Char → Option (List JsonText × List Char)
  | 0, _ => none
  | fuel + 1, s => do
    let (item, rest) ← readValue fuel s
    match skipBlanks rest with
    | ',' :: rest =>
      let (items, rest) ← readItems fuel rest
      return (item :: items, rest)
    | ']' :: rest => return ([item], rest)
    | _ => none

def readMembers : Nat → List Char → Option (List (Option String × JsonText) × List Char)
  | 0, _ => none
  | fuel + 1, s =>
    match skipBlanks s with
    | '"' :: rest => do
      let (key, rest) ← readString rest
      match skipBlanks rest with
      | ':' :: rest =>
        let (item, rest) ← readValue fuel rest
        match skipBlanks rest with
        | ',' :: rest =>
          let (members, rest) ← readMembers fuel rest
          return ((key, item) :: members, rest)
        | '\x7d' :: rest => return ([(key, item)], rest)
        | _ => none
      | _ => none
    | _ => none
end

def read? (s : String) : Option JsonText :=
  match readValue (2 * s.length + 2) s.toList with
  | some (t, rest) => if (skipBlanks rest).isEmpty then some t else none
  | none => none

mutual
/-- A later member wins over an earlier one of its name, and members come in order of name. -/
def value? : JsonText → Option Json
  | .null => some .null
  | .bool b => some (.bool b)
  | .number n => n.number?.map .num
  | .string s => s.map .str
  | .array items => (values? items).map .arr
  | .object members => (pairs? members).map fun l => .obj (SortedMap.ofPairs l).entries

def values? : List JsonText → Option (List Json)
  | [] => some []
  | t :: rest => do return (← value? t) :: (← values? rest)

def pairs? : List (Option String × JsonText) → Option (List (String × Json))
  | [] => some []
  | (k, t) :: rest => do return (← k, ← value? t) :: (← pairs? rest)
end

def bool? : JsonText → Option Bool
  | .bool b => some b
  | _ => none

def string? : JsonText → Option String
  | .string s => s
  | _ => none

def natUpTo? (bound : Nat) : JsonText → Option Nat
  | .number n => n.nat?.filter (· ≤ bound)
  | _ => none

def optional? (read : JsonText → Option α) : Option JsonText → Option (Option α)
  | none | some .null => some none
  | some t => (read t).map some

def named (key : String) (members : List (Option String × JsonText)) : List JsonText :=
  members.filterMap fun (k, t) => if k = some key then some t else none

/-- The fields of a record in the order of `names`: members of an object, where a name must not
come twice and unknown ones are passed over, or the items of an array in place. -/
def fields? (names : List String) : JsonText → Option (List (Option JsonText))
  | .object members => do
    guard (members.all (·.1.isSome))
    names.mapM fun name =>
      match named name members with
      | [] => some none
      | [t] => some (some t)
      | _ => none
  | .array items => do
    guard (items.length ≤ names.length)
    return (List.range names.length).map (items[·]?)
  | _ => none

end JsonText

def Json.read? (s : String) : Option Json := (JsonText.read? s).bind JsonText.value?

end Wayfinder
