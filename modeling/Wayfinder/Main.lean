import Std.Time.DateTime.Timestamp
import Wayfinder.Program

/-! The program on the machine that it runs on. Times count from the Unix epoch. -/
namespace Wayfinder

def isDirectory (path : String) : IO Bool := do
  try
    (← IO.FS.realPath path).isDir
  catch _ => return false

def fileFault (path : String) (e : IO.Error) : IO FileFault := do
  if ← isDirectory path then return .isDirectory
  match e with
  | .noFileOrDirectory .. => return .notFound
  | .inappropriateType .. => return .notDirectory
  | e => return .other (toString e)

def tryFile (path : String) (action : IO α) : IO (Except FileFault α) := do
  try
    return .ok (← action)
  catch e => return .error (← fileFault path e)

def listNames (path : String) : IO (Option (List String)) := do
  let place ← IO.FS.realPath path
  if ← place.isDir then return some ((← place.readDir).toList.map (·.fileName))
  else return none

def millisecondsNow : IO Nat := do
  return (← Std.Time.Timestamp.now).toMillisecondsSinceUnixEpoch.toInt.toNat

instance : Host IO where
  read path := tryFile path (IO.FS.readBinFile path)
  names path := tryFile path (listNames path)
  write path content := tryFile path (IO.FS.writeBinFile path content)
  append path content := tryFile path (IO.FS.withFile path .append (·.write content))
  print := IO.print
  clock := some <$> millisecondsNow

def complaint? : Program.Ending → Option String
  | .usage .help | .usage .version => none
  | .usage e => some ("error: " ++ e.message ++ "\n\n" ++ CommandLine.usage)
  | .finished (.error e) => some ("Error: " ++ e.message)
  | .finished (.ok _) => none

def answer? : Program.Ending → Option String
  | .usage .help => some CommandLine.usage
  | .usage .version => some CommandLine.version
  | _ => none

end Wayfinder

open Wayfinder in
def main (words : List String) : IO UInt32 := do
  let ending ← (Program.start words : IO Program.Ending)
  (answer? ending).forM IO.println
  (complaint? ending).forM IO.eprintln
  return ending.status.toUInt32
