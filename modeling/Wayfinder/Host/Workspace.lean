import Wayfinder.Host.FileTree

/-! A machine held in memory: files, and what has been printed. It has no clock. -/
namespace Wayfinder

structure Workspace where
  files : FileTree := {}
  printed : String := ""

namespace Workspace

def change (f : FileTree → Except FileFault FileTree) : StateM Workspace (Except FileFault Unit) :=
  fun w =>
    match f w.files with
    | .ok files => (.ok (), { w with files })
    | .error e => (.error e, w)

instance : Host (StateM Workspace) where
  read path w := (w.files.read path, w)
  names path w := (w.files.names path, w)
  write path content := change (·.write path content)
  append path content := change (·.append path content)
  print text w := ((), { w with printed := w.printed ++ text })
  clock w := (none, w)

end Workspace
end Wayfinder
