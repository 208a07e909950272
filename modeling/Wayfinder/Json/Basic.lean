import Wayfinder.Number.Shortest

/-! JSON values and their compact text. A whole number within 64 bits stays whole; any other is a
double. Members are written in the order in which the object lists them. -/
namespace Wayfinder

inductive Number where
  | whole (n : Int)
  | double (x : Binary64)
deriving DecidableEq, Repr

inductive Json where
  | null
  | bool (b : Bool)
  | num (n : Number)
  | str (s : String)
  | arr (items : List Json)
  | obj (fields : List (String × Json))
deriving Repr

namespace Json

def ofNat (n : Nat) : Json := .num (.whole n)

def ofOption (f : α → Json) : Option α → Json
  | some a => f a
  | none => .null

def ofStrings (l : List String) : Json := .arr (l.map .str)

def present (fields : List (String × Option Json)) : List (String × Json) :=
  fields.filterMap fun (k, v) => v.map (k, ·)

def escapeChar (c : Char) : List Char :=
  match c with
  | '"' => ['\\', '"']
  | '\\' => ['\\', '\\']
  | '\x08' => ['\\', 'b']
  | '\x0c' => ['\\', 'f']
  | '\n' => ['\\', 'n']
  | '\r' => ['\\', 'r']
  | '\t' => ['\\', 't']
  | c =>
    if c.toNat < 0x20 then
      ['\\', 'u', '0', '0', Nat.digitChar (c.toNat / 16), Nat.digitChar (c.toNat % 16)]
    else [c]

def stringChars (s : String) : List Char := '"' :: s.toList.flatMap escapeChar ++ ['"']

end Json

def intChars (n : Int) : List Char :=
  if n < 0 then '-' :: Nat.toDigits 10 n.natAbs else Nat.toDigits 10 n.natAbs

def Number.chars : Number → List Char
  | .whole n => intChars n
  | .double x => x.chars

namespace Json

mutual
def chars : Json → List Char
  | .null => ['n', 'u', 'l', 'l']
  | .bool true => ['t', 'r', 'u', 'e']
  | .bool false => ['f', 'a', 'l', 's', 'e']
  | .num n => n.chars
  | .str s => stringChars s
  | .arr items => '[' :: itemsChars items
  | .obj fields => '\x7b' :: fieldsChars fields

def itemsChars : List Json → List Char
  | [] => [']']
  | [j] => chars j ++ [']']
  | j :: rest => chars j ++ ',' :: itemsChars rest

def fieldsChars : List (String × Json) → List Char
  | [] => ['\x7d']
  | [(k, j)] => stringChars k ++ ':' :: chars j ++ ['\x7d']
  | (k, j) :: rest => stringChars k ++ ':' :: chars j ++ ',' :: fieldsChars rest
end

def text (j : Json) : String := String.ofList j.chars

end Json
end Wayfinder
