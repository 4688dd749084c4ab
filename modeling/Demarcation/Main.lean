import Demarcation.CommandLine

namespace Demarcation.Main

def settingsPlace : String := ".codebound"

def settingsDirectory : IO String := do
  match ← IO.getEnv "CODEBOUND_HOME" with
  | some directory => return directory
  | none => return (← IO.getEnv "HOME").getD "." ++ "/" ++ settingsPlace

/-- What the entries of a directory are and what is below them, as it stands below a place of the tree. Links,
directories without sources and files that cannot be read are left out. -/
partial def nodesBelow (place : List String) (entries : Array IO.FS.DirEntry) :
    IO (List (List String × FileTree.Node)) := do
  let found ← entries.toList.mapM fun entry => do
    let here := place ++ [entry.fileName]
    try
      match (← entry.path.symlinkMetadata).type with
      | .dir =>
        if Scan.skipped.contains entry.fileName then pure []
        else pure ((here, .directory) :: (← nodesBelow here (← entry.path.readDir)))
      | .file => pure [(here, .file (← IO.FS.readBinFile entry.path).toList)]
      | _ => pure []
    catch _ => pure []
  return found.flatten

def store (settings : String) (before after : FileTree) : IO Unit := do
  for (place, node) in after.nodes do
    let path (place : List String) : String :=
      match place with
      | first :: rest => "/".intercalate ((if first = settingsPlace then settings else first) :: rest)
      | [] => "."
    match node, before.at? place with
    | .directory, _ => pure ()
    | .file bytes, some (.file known) =>
      if bytes != known then IO.FS.writeBinFile (path place) ⟨bytes.toArray⟩
    | .file bytes, _ =>
      IO.FS.createDirAll (path place.dropLast)
      IO.FS.writeBinFile (path place) ⟨bytes.toArray⟩

def run (words : List String) : IO UInt32 := do
  let settings ← settingsDirectory
  let sources ← nodesBelow [] (← (← IO.currentDir).readDir)
  let saved ← try nodesBelow [settingsPlace] (← (← IO.FS.realPath settings).readDir) catch _ => pure []
  let tree : FileTree := ⟨sources ++ ([settingsPlace], .directory) :: saved⟩
  let outcome := CommandLine.run tree settingsPlace words
  IO.print outcome.output
  match outcome.uncaught with
  | some fault => IO.eprintln ((fault.message?).getD "The command failed.")
  | none => if outcome.exitCode = 2 then IO.eprintln "The arguments cannot be used."
  store settings tree outcome.tree
  return outcome.exitCode.toUInt32

end Demarcation.Main

def main (words : List String) : IO UInt32 := Demarcation.Main.run words
