import Demarcation.FileTree
import Demarcation.Inventory
import Demarcation.Language.Extraction
import Demarcation.Warning

namespace Demarcation

open Text

namespace Source

/-- The declarations of a file below a root. A file in no known language, or one that cannot be read, has none. -/
def extract (t : FileTree) (root path : String) : Extraction × List Warning :=
  match Language.ofPath? path with
  | none => ({}, [])
  | some language =>
    match t.readKnown (root ++ "/" ++ path) with
    | .error fault => ({}, [.unreadableFile (normalPath path) fault])
    | .ok text =>
      match language.extract text (normalPath path) with
      | .ok e => (e, [])
      | .error fault => ({}, [.skippedFile (normalPath path) fault])

def inventory (t : FileTree) (root : String) (paths : List String) : Inventory × List Warning :=
  let found := paths.map (extract t root)
  (Inventory.build (found.flatMap (·.1.declarations)) (found.flatMap (·.1.accesses)) paths, found.flatMap (·.2))

end Source

end Demarcation
