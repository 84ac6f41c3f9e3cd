import TensorForge.Bench.SizeList
import TensorForge.Bench.Summary
import TensorForge.Cluster.Benchmark
import TensorForge.Tuning.Proposal
import TensorForge.Tuning.Command

/-! # Commands -/

namespace TensorForge

def cmdTable : List (Text × (Text -> Texts -> Act)) :=
  [("Tensile", Tuning.run), ("TensileCreateLibrary", Generator.run), ("TensileRetuneLibrary", Retune.run),
   ("TensileBenchmarkCluster", Cluster.run), ("TensileBenchmarkLibraryClient", SizeRuns.run),
   ("parse_results", Summary.run), ("ExtractSizes", Bench.runExtraction), ("GenerateTuningConfigurations",
   Proposal.run), ("convert_cfg", SizeList.run), ("merge", Merge.run), ("merge_rocblas", Overlay.run)]

def findCmd? (name : Text) : Option (Texts -> Act) := (cmdTable.find? (·.1 == name)).map fun c => c.2 c.1

end TensorForge
