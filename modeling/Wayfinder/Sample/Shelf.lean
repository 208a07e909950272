import Mathlib
import Wayfinder.Host.FileTree
import Wayfinder.Spec.Folder

/-! A shelf with two specs on it, which may be put round the other way. -/
namespace Wayfinder
namespace Shelf

def first (text : String) : Place × FileEntry := (["specs", "1.yaml"], .file text.toUTF8)

def second (text : String) : Place × FileEntry := (["specs", "2.yaml"], .file text.toUTF8)

def files (one two : String) : FileTree := { entries := [first one, second two] }

def turned (one two : String) : FileTree := { entries := [second two, first one] }

theorem path_specs : FileTree.Path.read? "specs" = some ⟨false, ["specs"], false⟩ := by cbv

theorem names_files (one two : String) :
    (files one two).names "specs" = .ok (some ["1.yaml", "2.yaml"]) := by
  rw [FileTree.names, FileTree.locate, path_specs]
  rfl

theorem names_turned (one two : String) :
    (turned one two).names "specs" = .ok (some ["2.yaml", "1.yaml"]) := by
  rw [FileTree.names, FileTree.locate, path_specs]
  rfl

theorem path_first :
    FileTree.Path.read? (Spec.pathWithin "specs" "1.yaml") =
      some ⟨false, ["specs", "1.yaml"], false⟩ := by cbv

theorem path_second :
    FileTree.Path.read? (Spec.pathWithin "specs" "2.yaml") =
      some ⟨false, ["specs", "2.yaml"], false⟩ := by cbv

theorem read_first (one two : String) :
    (files one two).read (Spec.pathWithin "specs" "1.yaml") = .ok one.toUTF8 := by
  rw [FileTree.read, FileTree.locate, path_first]
  rfl

theorem read_second (one two : String) :
    (files one two).read (Spec.pathWithin "specs" "2.yaml") = .ok two.toUTF8 := by
  rw [FileTree.read, FileTree.locate, path_second]
  rfl

def tourText : String := "name: Tour\nstart_url: https://portal.test/z\nsteps: []\n"

def tour : Spec := { name := "Tour", startUrl := some "https://portal.test/z", steps := [] }

theorem read_tour : Spec.ofYaml? tourText = some tour := by cbv

def detourText : String := "name: Tour\nstart_url: https://portal.test/a\nsteps: []\n"

def detour : Spec := { name := "Tour", startUrl := some "https://portal.test/a", steps := [] }

theorem read_detour : Spec.ofYaml? detourText = some detour := by cbv

def arrivalText : String := "name: Arrival\nsteps: []\n"

def arrival : Spec := { name := "Arrival", steps := [] }

theorem read_arrival : Spec.ofYaml? arrivalText = some arrival := by cbv

end Shelf
end Wayfinder
