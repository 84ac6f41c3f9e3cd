import TensorForge.CommandTable

/-! # The command line -/

namespace TensorForge

def searchDepth : Nat := 16

def filesOnDisk : (depth : Nat) -> (dir : Text) -> IO Texts
  | 0, _ => return []
  | depth + 1, dir => do
    let parts <- (((<- (<- IO.FS.realPath dir).readDir).map (·.fileName)).toList.mergeSort).mapM fun name => do
      let path := dir ++ "/" ++ name
      if <- (<- IO.FS.realPath path).isDir then filesOnDisk depth path else return [path]
    return parts.flatten

/-- The text files below the current directory. -/
def loadWorkspace : IO Workspace := do
  let cwd := (<- .currentDir).toString
  (<- filesOnDisk searchDepth ".").foldlM (fun w (path : Text) => do
    match String.fromUTF8? (<- IO.FS.readBinFile path) with
    | some s =>
      let target := w.resolve path
      return (w.makeDirs (Path.dirname target)).write target (.text s)
    | none => return w)
    { cwd, dirs := [cwd], programs := { failing := [("", none)] } }

def storeFile (before : Workspace) (path : Text) (body : FileBody) : IO Unit := do
  let bytes? : Option ByteArray := match body with
    | .text s => some s.toUTF8
    | .packed v => some ⟨(Packed.encode v).toArray.map (·.toUInt8)⟩
    | .zipped _ | .bundled _ => none
  let known : Bool := match before.read? path, body with
    | some (.text old), .text new => old == new
    | _, _ => false
  if known then return
  match bytes? with
  | some bytes =>
    IO.FS.createDirAll (Path.dirname path)
    IO.FS.writeBinFile path bytes
  | none => .eprintln s!"not written: {path}"

def runCmd (cmd : Texts -> Act) (args : Texts) : IO UInt32 := do
  let workspace <- loadWorkspace
  let settings := Settings.initial.set WP workspace.cwd
  let (code, session) : UInt32 × Session := match (cmd args).run { settings, workspace } with
    | .ok () s => (0, s)
    | .error _ s => (1, s)
  .print session.log
  .eprint session.complaints
  for (path, body) in session.workspace.files do storeFile workspace path body
  return code

end TensorForge

def main (args : List String) : IO UInt32 := do
  match args with
  | name :: rest => match TensorForge.findCmd? name with
    | some cmd => TensorForge.runCmd cmd rest
    | none =>
      .eprintln s!"unknown command: {name}"
      return 2
  | [] =>
    .eprintln ("commands: " ++ " ".intercalate (TensorForge.cmdTable.map (·.1)))
    return 2
