import TensorForge.Checksum
import TensorForge.Kernel.Assembly.Body
import TensorForge.Kernel.Source.Body

/-! # Files of kernels -/

namespace TensorForge

open Gen KernelSpec

structure KernelNaming where
  required : Naming.Required
  serial : Naming.Serial

namespace KernelNaming

def ofSolutions (ss : Solutions) : Gen KernelNaming := do
  let kernels := ss.map (·.kernelState)
  return { required := <- Naming.required kernels, serial := <- Naming.Serial.ofStates kernels }

variable (n : KernelNaming) (s : Solution)

def name : Gen Text := s.kernelName n.required

/-- A long end is replaced by its hash. -/
def shortened (base : Text) (limit : Int) : Text :=
  if base.length <= limit then base
  else
    let pivot := (limit * 3 / 4).toNat
    .take pivot base ++ .base64 (Checksum.sha256 (Text.drop pivot base).toUTF8)

def fileBase : Gen Text := do
  if <- flag SN then n.serial.name "K" s.kernelState
  else return shortened (<- n.name s) (<- settingInt "MaxFileName")

def srcCtx : Gen SourceContext := do
  return {
    spec := <- ofSolution s
    dialect := .ofLang (<- settingStr RL)
    name := <- n.name s, fileBase := <- n.fileBase s, mergeFiles := <- flag MF
    nativeAtomics := (<- setting CC) == "hipcc" }

def srcText : Gen Text := do (<- n.srcCtx s).kernelText
def srcHeader : Gen Text := do return (<- try n.srcCtx s catch _ => throw .noField).header Banner.cpp

/-- Before an assembly kernel is laid out; parts and checks can be switched. -/
def asmState (parts probes : Assembly.Switches -> Assembly.Switches := id) : Gen Assembly.State := do
  let wanted <- Assembly.Switches.ofSettings
  return .ofSpec (<- ofSolution s) (<- n.name s) (parts .allParts) (probes wanted) (<- get)

def asmText : Gen Text := do
  let (r, _) <- Assembly.Emit.outcome (<- n.asmState s) Assembly.kernelText
  r

def isAsm : Gen Bool := return (<- s.fetch KL) == "Assembly"
def kernelText : Gen Text := do if <- isAsm s then n.asmText s else n.srcText s

def header (n : KernelNaming) (s : Solution) : Gen Text := do
  if <- isAsm s then Assembly.header (<- n.name s) else n.srcHeader s

end KernelNaming

end TensorForge

/-!
## Kernels that replace generated ones

A directory can hold ready kernels. A kernel is named on the first line that begins with the marker of the version of
code objects.
-/

namespace TensorForge.Repl

variable (version : Value)

def marker : Text := if version == "V3" then ".amdhsa_kernel" else ".amdgpu_hsa_kernel"

def kernelName (file : Text) : Gen Text := do
  let mark := marker version
  match (Files.linesOf (<- Files.read file)).find? fun l => l.startsWith mark with
  | some l => return .trim (.drop mark.length l)
  | none => throw (.failure s!"Could not parse kernel name from {file}")

def all (dir : Text) : Gen Pairs := do
  let names := (<- get).workspace.list dir
  ((names.filter (·.endsWith ".txt")).map (dir / ·)).foldlM (fun found file => do
    let name <- kernelName version file
    match found.find? fun e => e.1 == name with
    | some (_, other) => throw (.failure
        s!"Duplicate replacement kernels.  Kernel name: {name}, file names: {other}, {file}")
    | none => return found ++ [(name, file)]) []

def find? (version : Value) (dir name : Text) : Gen (Option Text) := do
  return ((<- all version dir).find? (·.1 == name)).map (·.2)

end TensorForge.Repl
