/-! Bytes written as pairs of hexadecimal digits. -/
namespace Wayfinder.Text

def hexDigit? (c : Char) : Option Nat :=
  if '0' ≤ c && c ≤ '9' then some (c.toNat - 48)
  else if 'a' ≤ c && c ≤ 'f' then some (c.toNat - 87)
  else if 'A' ≤ c && c ≤ 'F' then some (c.toNat - 55)
  else none

def hexBytes? : List Char → Option (List UInt8)
  | [] => some []
  | [_] => none
  | a :: b :: rest => do
    let byte := (← hexDigit? a) * 16 + (← hexDigit? b)
    return byte.toUInt8 :: (← hexBytes? rest)

end Wayfinder.Text
