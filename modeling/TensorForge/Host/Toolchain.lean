import TensorForge.Settings

/-! # Compilers and assemblers -/

namespace TensorForge.Toolchain

open Banner Cmd Files Gen Settings Text

variable (isa : Value)

def cap (name : Text) : Gen Bool := do
  let caps <- table (<- fetchKey (<- table (<- setting "AsmCaps")) isa)
  return (<- fetch caps name).truthy

def nameOf : Gen Text := (Isa.ofValue? isa).elim (throw .wrongKind) (pure ·.name)
def shown (words : Values) : Gen Text := return " ".intercalate (<- words.mapM str)

def versionWord : Gen Text := do
  return if (<- setting COV) == "V2" then "-mcode-object-version=2" else "-mcode-object-version=4"

def compileWords (src object : Text) (more : Texts) (isa wave : Value) : Gen Values := do
  let version <- if <- cap isa "HasCodeObjectV3" then do pure [<- versionWord] else pure []
  let width := if wave == 64 then "-mwavefrontsize64" else "-mno-wavefrontsize64"
  let words := ["-x", "assembler", "-target", "amdgcn-amd-amdhsa"] ++ version ++
    ["-mcpu=" ++ (<- nameOf isa), width] ++ more ++ ["-c", "-o", object, src]
  return (<- setting AP) :: words.map .str

def linkWords (objects : Texts) (target : Text) (more : Texts) : Gen Values := do
  return (<- setting AP) :: (["-target", "amdgcn-amd-amdhsa"] ++ more ++ ["-o", target] ++ objects).map .str

def byteArray (name : Text) (bytes : Nats) : Text :=
  let byte := fun n => "0x" ++ padLeft '0' 2 (hexDigits n)
  let cells := bytes.zipIdx.map fun (b, i) =>
    if i == 0 then byte b else (if (i - 1) % 16 == 15 then ",\n" else ",") ++ byte b
  s!"\n/* code object byte array */\nconst unsigned char {name}_coba[{bytes.length}] = \x7b\n" ++
    .join cells ++ "\x7d;\n"

def shellLine : Gen Text := do return "#!/bin/sh " ++ opt ((<- settingInt PL) >= 2) "-x" ++ "\n"

def anyScript : Gen Text := do
  let assembler := (<- setting AP).shown
  let modern <- cap (.tuple [9, 0, 0]) "HasCodeObjectV3"
  let version <- if modern then versionWord else pure "-mcode-object-version=4"
  let examples := String.join (["gfx900", "gfx906", "gfx908"].map fun a => s!"# example: asm.sh kernelName -mcpu={a}\n")
  return s!"{<- shellLine}# usage: asm.sh kernelName ASM_ARGS\n{examples}f=$1
shift
ASM={assembler}
$\x7bASM\x7d -x assembler -target amdgcn-amd-amdhsa {version} $@ -c -o $f.o $f.s
$\x7bASM\x7d -target amdgcn-amd-amdhsa $f.o -o $f.co\n"

def currentScript : Gen Text := do
  let isa <- setting CISA
  let narrow <- shown (<- compileWords "$f.s" "$f.o" [] isa 32)
  let wide <- shown (<- compileWords "$f.s" "$f.o" [] isa 64)
  let link <- shown (<- linkWords ["$f.o"] "$f.co" [])
  let name <- nameOf isa
  return s!"{<- shellLine}# usage: asm-new.sh kernelName(no extension) [--wave32]
f=$1
shift
if [ ! -z \"$1\" ] && [ \"$1\" = \"--wave32\" ]; then
    wave=32
    shift
else
    wave=64
fi
h={name}
if [ $wave -eq 32 ]; then
{narrow}
else
{wide}
fi
{link}
cp $f.co ../../../library/$\x7bf\x7d_$h.co
mkdir -p ../../../asm_backup && cp $f.s ../../../asm_backup/$f.s\n"

def directory : Gen Text := do ensurePath ((<- workPath) / "assembly")
def writeAnyScript : Act := do write ((<- directory) / "asm.sh") (<- anyScript)
def writeCurrentScript : Act := do write ((<- directory) / "asm-new.sh") (<- currentScript)

def addedLines (lines : Texts) (ending : Text) : Text :=
  .join (lines.zipIdx.map fun (l, i) =>
    let quote := if l.contains "\"" then "'" else "\""
    let stop := if i + 1 == lines.length then ending else "\\n"
    s!"fileString += {quote}{l}{stop}{quote}\n")

def arrayScript : Text :=
  "\n#!/usr/bin/env python\n\nfileString = \"\"\n" ++ addedLines (framed "*" "/" 79 (licence "2016")) "\\n\\n" ++
  addedLines (framed "*" "/" 50 (origin.map (· ++ "*"))) "\\n\\n\\n" ++
  "import os.path
fileString += '#include \"Kernels.h\"\\n\\n'
fileString += \"/* code object byte array */\\n\\n\"
codeObjectFileNames = [f for f in os.listdir(\".\") if (os.path.isfile(f) and f.endswith(\".co\"))]
for codeObjectFileName in codeObjectFileNames:
  print codeObjectFileName
  print \"\\n\"
  kernelName=os.path.splitext(codeObjectFileName)[0]
  codeObjectFile = open(codeObjectFileName, \"r\")
  codeObjectByteArray = bytearray(codeObjectFile.read())
  codeObjectFile.close()\n# write code object byte array for asm
  fileString += \"const unsigned char %s_coba[%u] = \x7b\\n\" % (kernelName, len(codeObjectByteArray))
  for byteIdx in range(0, len(codeObjectByteArray)):
    byte = codeObjectByteArray[byteIdx]
    fileString += \"0x%02x\" % byte
    if byteIdx < len(codeObjectByteArray)-1:
      fileString += \",\"
    else:
      fileString += \"\x7d;\\n\"
    if byteIdx % 16 == 15:
      fileString += \"\\n\"
  text_file = open(\"Kernels.cpp\", \"w\")
  text_file.write(\"%s\" % fileString)
  text_file.close()\n"

variable (words : Values)

def failureText (code : Int) : Text := s!"Command '{(Value.list words).shown}' returned non-zero exit status {code}."
def codeOf (dir : Text := ".") : Gen Int := do return (<- run (<- words.mapM str) dir).1
def require (dir : Text := ".") : Act := do if (<- codeOf words dir) != 0 then throw .cmdFailed

def accepts (src : Text) (verbose : Bool) (options : Values) : Gen Bool := do
  let verbose := verbose || (<- settingInt PL) >= 2
  let wide := opt ((<- nth (<- items isa) 0) == 10) [.str "-mwavefrontsize64"]
  let words := (<- setting AP) ::
    ["-x", "assembler", "-target", "amdgcn-amdhsa", "-mcpu=" ++ (<- nameOf isa),
      "-mcode-object-version=3"].map .str ++ options ++ wide ++ [.str "-"]
  let (code, printed) <- run (<- words.mapM str)
  if verbose then
    let cmd <- shown words
    sayLine s!"isaVersion:  {isa.shown}\nasm_cmd: {cmd}\nasmString:  {src}\noutput:  {printed}\nreturn code:  {code}"
  return printed.isEmpty && code == 0

def which (program : Text) : Gen (Option Text) := do
  let path := (<- env? "PATH").getD ""
  if let some c <- env? "CMAKE_CXX_COMPILER" then if program == "hipcc" && (<- isFile c) then return some c
  let dirs := path.splitOn ":" ++ [<- settingStr "ROCmBinPath"]
  (dirs.flatMap fun d => ["", ".exe", ".bat"].map fun e => d / (program ++ e)).findM? isFile

def srcTargets : Gen Pairs := do
  let targets <- (<- items (<- setting SISA)).mapM fun isa => do
    if (<- cap isa SISA) && (<- cap isa "SupportedSource") then
      let name <- nameOf isa
      let isAny := fun (xs : Ints) => xs.any fun n => isa == .tuple [9, 0, n]
      let plain := [(name ++ "-xnack-", name ++ ":xnack-")]
      pure (if isAny [10] then (name ++ "-xnack+", name ++ ":xnack+") :: plain
        else if isAny [6, 8] then plain else [(name, name)])
    else pure []
  return targets.flatten

def unbundle (buildPath object shared : Text) (targets : Pairs) : Act := do
  let bundler <- setting "ClangOffloadBundlerPath"
  let split := fun target outfile => do
    let words := bundler :: ["-type=o", "-targets=" ++ target, "-inputs=" ++ object, "-outputs=" ++ outfile,
      "-unbundle"].map .str
    if <- flag PCC then sayLine (<- shown words)
    require words
  let outfile := fun arch => buildPath / s!"{shared}-000-{arch}.hsaco"
  let listed := do
    let (code, printed) <- run (<- (bundler :: ["-type=o", "-inputs=" ++ object, "-list"].map .str).mapM str)
    if code != 0 then throw .cmdFailed
    for target in printed.splitOn "\n" do
      if let _ :: rest@(_ :: _) := target.splitOn "gfx" then
        split target (outfile (replace ("gfx" ++ "gfx".intercalate rest) ":" "-"))
  try listed
  catch
    | .cmdFailed => for (arch, name) in targets do split ("hip-amdgcn-amd-amdhsa--" ++ name) (outfile arch)
    | e => throw e

def compileSrc (compiler outPath file : Text) : Gen Texts := do
  let buildPath <- ensurePath ((<- workPath) / "code_object_tmp")
  let dest <- ensurePath (outPath / "library")
  let base := (Path.splitExt (Path.basename file)).1
  if let some (.str c) := (<- get).settings.get? CCC then
    inSpace (·.setVar "CMAKE_CXX_COMPILER" c)
  if compiler != "hipcc" then throw (.failure s!"Unknown compiler {compiler}")
  let targets <- srcTargets
  let object := buildPath / (base ++ ".o")
  let words := (<- which "hipcc").elim .null .str :: (["--genco", "-D__HIP_HCC_COMPAT_MODE__=1", "-I", outPath] ++
    targets.map ("--offload-arch=" ++ ·.2) ++ [file, "-c", "-o", object]).map .str
  if <- flag PCC then sayLine ("hipcc: " ++ (<- shown words))
  require words
  unbundle buildPath object (base ++ ".so") targets
  let files := targets.map fun t => (t.1, s!"{base}.so-000-{t.1}.hsaco")
  let copyAll := fun pairs => pairs.mapM fun (a, b) => do copy a b; return b
  if ((<- get).settings.get? "PackageLibrary").any (·.truthy) then
    let placed <- targets.mapM fun (arch, _) => do
      let dir <- ensurePath (dest / arch)
      let pairs := ((files.map (·.2)).filter (contains · arch)).map fun n => (buildPath / n, dir / n)
      if <- flag PCC then
        sayLine ("# copy source code objects    :  " ++ (Value.strs (pairs.map (·.1))).shown)
        sayLine ("# to dest source code objects :  " ++ (Value.strs (pairs.map (·.2))).shown)
      copyAll pairs
    return placed.flatten
  copyAll (files.map fun (_, n) => (buildPath / n, dest / n))

end TensorForge.Toolchain
