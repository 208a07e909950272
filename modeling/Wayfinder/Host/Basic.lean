/-! What a program needs of the machine that runs it: files by path, a console and a clock. -/
namespace Wayfinder

inductive FileFault where
  | notFound
  | isDirectory
  | notDirectory
  | notText
  | other (text : String)
deriving DecidableEq, Repr

def FileFault.message : FileFault → String
  | .notFound => "No such file or directory (os error 2)"
  | .isDirectory => "Is a directory (os error 21)"
  | .notDirectory => "Not a directory (os error 20)"
  | .notText => "stream did not contain valid UTF-8"
  | .other text => text

class Host (m : Type → Type) where
  read : String → m (Except FileFault ByteArray)
  /-- The names in a directory; none when the path leads to a file. -/
  names : String → m (Except FileFault (Option (List String)))
  write : String → ByteArray → m (Except FileFault Unit)
  append : String → ByteArray → m (Except FileFault Unit)
  print : String → m Unit
  clock : m (Option Nat)

namespace Host
variable {m : Type → Type}

def decodeText (bytes : ByteArray) : Except FileFault String :=
  match String.fromUTF8? bytes with
  | some text => .ok text
  | none => .error .notText

theorem decodeText_toUTF8 (text : String) : decodeText text.toUTF8 = .ok text := by
  have hread : String.fromUTF8? text.toUTF8 = some text := dif_pos text.isValidUTF8
  rw [decodeText, hread]

def readText [Monad m] [Host m] (path : String) : m (Except FileFault String) := do
  return (← read path).bind decodeText

end Host
end Wayfinder
