import TensorForge.Session

/-! # Cluster scripts -/

namespace TensorForge.Cluster

def comment (s : Text) : Text := "#" ++ s
def echo (s : Text) : Text := s!"echo \"{s}\";"
def scriptText (lines : Texts) : Text := .join (lines.map (· ++ "\n"))

/-- What a script is for, and the functions of every script. -/
def head (purpose : Texts) (usage : Text) : Texts :=
  [comment "!/bin/bash"] ++ purpose.map comment ++
  ["", comment "Funcs", "usage() \x7b echo \"Usage: $0 " ++ usage ++ "\" 1>&2; exit 1; \x7d",
   "failAndExit() \x7b echo \"FAILED: $1\" 1>&2; exit 1; \x7d", ""]

variable (name : Text)

def valueOf : Text := "\"$\x7b" ++ name ++ "\x7d\""

def arguments (letters blank : Text) (options : Pairs) : Texts :=
  [comment "Parse arguments", s!"while getopts {letters} flag", "do", "    case " ++ valueOf "flag" ++ " in"] ++
  options.zipIdx.map (fun ((letter, name), i) =>
    s!"        {letter}) {name}=$\x7bOPTARG\x7d;;" ++ opt (i == 0) blank) ++
  ["        *) usage;;", "    esac", "done"]

def isEmpty : Text := "[ -z " ++ valueOf name ++ " ]"
def isDirectory : Text := "[ -d " ++ valueOf name ++ " ]"

def checkDirs (names : Texts) : Text :=
  " && ".intercalate (names.map isDirectory) ++ " || failAndExit \"Directory not found\";"

def ending : Texts := [echo "Done!", "exit $returnCode"]

def nodeArgs : Texts :=
  arguments "i:l:r:t:" "" [("i", "dockerImagePath"), ("l", "logDir"), ("r", "resultDir"), ("t", "taskDir")] ++
  [isEmpty "dockerImagePath" ++ " || " ++ isEmpty "logDir" ++ " || " ++ isEmpty "resultDir" ++ "  || " ++
     isEmpty "taskDir" ++ " && usage;",
   checkDirs ["logDir", "resultDir", "taskDir"],
   "[ -f " ++ valueOf "dockerImagePath" ++ " ] || failAndExit \"Docker image not found: $dockerImagePath\";",
   echo "Docker image path: $dockerImagePath", echo "Path to log: $logDir", echo "Path to task: $taskDir",
   echo "Path to result: $resultDir", ""]

def nodeImage : Texts :=
  [comment "Import docker image", comment "Successful output is \"Loaded image: imageName:TAG\"",
   echo "Loading docker image...",
   "dockerLoadOutput=`docker load < $dockerImagePath || failAndExit \"Importing docker image\"`", "",
   echo "Docker Load Result: $dockerLoadOutput",
   isEmpty "dockerLoadOutput" ++ " && failAndExit \"Loading docker image $dockerImagePath\"", "",
   comment "Split the output on ':' or spaces", comment "Capture the docker image name and tag",
   "outputSplit=($\x7bdockerLoadOutput//:/ \x7d)", "dockerName=$\x7boutputSplit[2]\x7d",
   "dockerTag=$\x7boutputSplit[3]\x7d", "", comment "Find docker image record with correct name and tag",
   "dockerImageQuery=`docker images | grep -i \"$dockerName\" | grep -i \"$dockerTag\"`",
   isEmpty "dockerImageQuery" ++ " && failAndExit \"Finding docker image record for $dockerName:$dockerTag\"", "",
   comment "Get docker image ID", "outputSplit=($\x7bdockerImageQuery//   / \x7d)",
   "dockerImageId=$\x7boutputSplit[2]\x7d",
   isEmpty "dockerImageId" ++ " && failAndExit \"Finding docker image id for $dockerName:$dockerTag\"",
   echo "Success: Loaded Image ID: $\x7bdockerImageId\x7d", ""]

def nodeRun : Texts :=
  [comment "Check the task dir exists", "", comment "Run container with mounted taskDir",
   echo "Running container... (this might take some time):",
   "runCmd=\"docker run --rm --network=host --device=/dev/kfd --device=/dev/dri --group-add video " ++
     "--cap-add=SYS_PTRACE --security-opt seccomp=unconfined -v \"$taskDir\":\"/TaskDir\" " ++
     "-v \"$resultDir\":\"/ResultDir\" -v \"$logDir\":\"/LogDir\" $dockerImageId\"",
   echo "$runCmd", "$runCmd", "returnCode=$?"]

def nodeScript : Texts :=
  head ["Benchmark node script", "Actual host task to be run by a SLURM worker node"]
    "[-i <path_to_docker_image>] [-l <log_dir>] [-r <result_dir>] [-t <task_dir>]" ++
  nodeArgs ++ nodeImage ++ nodeRun ++ ending

def directories : Texts := ["imageDir", "logsDir", "resultsDir", "tasksDir"]

def checkArgs (blank : Text) : Texts :=
  [" || ".intercalate (directories.map isEmpty) ++ blank ++ " && usage;", checkDirs directories]

def echoDirs : Texts :=
  [echo "Image dir: $imageDir", echo "Logs dir: $logsDir", echo "Tasks dir: $tasksDir", echo "Results dir: $resultsDir"]

def taskSetup : Texts :=
  [comment "Setup task parameters", "pushd $tasksDir", "subDirs=(*)", "taskName=$\x7bsubDirs[$SLURM_ARRAY_TASK_ID]\x7d",
   "taskDir=$tasksDir/$taskName", "taskResultDir=$resultsDir/$taskName", "mkdir -p $taskResultDir",
   "taskLogDir=$logsDir/$taskName", "mkdir -p $taskLogDir", "task=($taskDir/*.sh)", "image=($imageDir/*.tar.gz)",
   echo "Task ID: $SLURM_ARRAY_TASK_ID / $SLURM_TASK_MAX", echo "Task Name: $taskName", echo "Host Name: `hostname`",
   ""]

def taskSubmission : Texts :=
  [comment "Enqueue node task",
   "srun -N 1 \"$task\" -i \"$image\" -l \"$taskLogDir\" -r \"$taskResultDir\" -t \"$taskDir\"", "returnCode=$?"]

def taskScript : Texts :=
  head ["Benchmark task enqueue script", "This script will configure and commit a single task to the cluster.",
      "Intended to be the run target of SLURM SBATCH multiplexer"]
    "[-i <image_dir>] [-l <logs_dir>] [-r <results_dir>] [-t <tasks_dir>] " ++
  arguments "i:l:r:t:" " " [("i", "imageDir"), ("l", "logsDir"), ("r", "resultsDir"), ("t", "tasksDir")] ++
  checkArgs "" ++ echoDirs ++ [""] ++ taskSetup ++ taskSubmission ++ ending

def jobSetup : Texts :=
  [comment "Setup local environment", comment "Get in the directory where this script lives",
   "pushd $( dirname `greadlink -f $\x7bBASH_SOURCE[0]\x7d || readlink -f $\x7bBASH_SOURCE[0]\x7d` )",
   comment "Enumerate the tasks and set up batch params based on task count", "subDirs=($tasksDir/*)",
   "let arraySize=$\x7b#subDirs[@]\x7d", isEmpty "arraySize" ++ " && failAndExit \"No task count\";",
   "let arrayStart=0", "let arrayEnd=$arraySize-1", comment "Create logs directory for SLURM",
   "slurmLogsDir=$logsDir/SLURM", "mkdir -p $slurmLogsDir", ""]

def jobSubmission : Texts :=
  [comment "Invoke batch request to SLURM", comment "Will wait until the task completes before exiting",
   "runCmd=\"sbatch --nodes=1 --array=$arrayStart-$arrayEnd -o $slurmLogsDir/slurm-%A_%a.out --wait " ++
     "$taskScript -i $imageDir -l $logsDir -r $resultsDir -t $tasksDir\"",
   echo "Submitting batch job to SLURM. This may take a while...", echo "$runCmd", "$runCmd", "returnCode=$?", "popd"]

def jobScript : Texts :=
  head ["Benchmark batch job script", "This script will configure and submit a batch job to the cluster",
      "This is the SLURM cluster benchmark entry-point"]
    "[-i <image_dir>] [-l <logs_dir>] [-r <results_dir>] [-s <path_to_task_script>] [-t <tasks_dir>] " ++
  arguments "i:l:r:s:t:" ""
    [("i", "imageDir"), ("l", "logsDir"), ("r", "resultsDir"), ("s", "taskScript"), ("t", "tasksDir")] ++
  checkArgs " " ++ ["[ -f " ++ valueOf "taskScript" ++ " ] || failAndExit \"Task script not found\";"] ++
  echoDirs ++ [echo "Enqueue script: $taskScript", ""] ++ jobSetup ++ jobSubmission ++ ending

def writeScript (lines : Texts) (file dir : Text) : Act := Files.write (dir / file) (scriptText lines)

end TensorForge.Cluster
