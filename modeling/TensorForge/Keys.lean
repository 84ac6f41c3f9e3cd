/-! # Keys of parameters, each by its capitals -/

namespace TensorForge

abbrev HPA := "HighPrecisionAccumulate"
abbrev GRVW := "GlobalReadVectorWidth"
abbrev AF0EM := "AssertFree0ElementMultiple"
abbrev AF1EM := "AssertFree1ElementMultiple"
abbrev ASEM := "AssertSummationElementMultiple"
abbrev GSU := "GlobalSplitU"
abbrev PGR := "PrefetchGlobalRead"
abbrev PLR := "PrefetchLocalRead"
abbrev VW := "VectorWidth"
abbrev MT0 := "MacroTile0"
abbrev MT1 := "MacroTile1"
abbrev SRVW := "StoreRemapVectorWidth"
abbrev LRVW := "LocalReadVectorWidth"
abbrev KL := "KernelLanguage"
abbrev MI := "MatrixInstruction"
abbrev EMI := "EnableMatrixInstruction"
abbrev PAP := "PrefetchAcrossPersistent"
abbrev FL := "FractionalLoad"
abbrev TT := "ThreadTile"
abbrev TT0 := "ThreadTile0"
abbrev TT1 := "ThreadTile1"
abbrev SIA := "ScheduleIterAlg"
abbrev WG := "WorkGroup"
abbrev PBD := "PackBatchDims"
abbrev PKAB := "PersistentKernelAlongBatch"
abbrev WGM := "WorkGroupMapping"
abbrev PK := "PersistentKernel"
abbrev DULD := "DepthULdsDivisor"
abbrev VAW := "VectorAtomicWidth"
abbrev EPS := "ExpandPointerSwap"
abbrev TLDS := "TransposeLDS"
abbrev LSU := "LocalSplitU"
abbrev DU := "DepthU"
abbrev SNLL := "SuppressNoLoadLoop"
abbrev LBSPP := "LdsBlockSizePerPad"
abbrev PSD := "PackSummationDims"
abbrev LDL := "LocalDotLayout"
abbrev IU := "InnerUnroll"
abbrev DTL := "DirectToLds"
abbrev MIM := "MatrixInstM"
abbrev MIN := "MatrixInstN"
abbrev MIK := "MatrixInstK"
abbrev MIWG := "MIWaveGroup"
abbrev MIWT := "MIWaveTile"
abbrev MIIPT := "MIInputPerThread"
abbrev SB := "StridedBatched"
abbrev UISAB := "UseInitialStridesAB"
abbrev UISCD := "UseInitialStridesCD"
abbrev ULEE := "UnrollLoopEfficiencyEnable"
abbrev GSUSARR := "GlobalSplitUSummationAssignmentRoundRobin"
abbrev MIOVW := "MIOutputVectorWidth"
abbrev DVO := "DisableVgprOverlapping"
abbrev SVW := "StoreVectorWidth"
abbrev WS := "WavefrontSize"
abbrev SU := "StaggerU"
abbrev LDSB := "1LDSBuffer"
abbrev LT := "LoopTail"
abbrev ET := "EdgeType"
abbrev PT := "ProblemType"
abbrev DT := "DataType"
abbrev DDT := "DestDataType"
abbrev CDT := "ComputeDataType"
abbrev OT := "OperationType"
abbrev IAA := "IndexAssignmentsA"
abbrev IAB := "IndexAssignmentsB"
abbrev IALD := "IndexAssignmentsLD"
abbrev TI := "TotalIndices"
abbrev NIC := "NumIndicesC"
abbrev NILD := "NumIndicesLD"
abbrev GA := "_GlobalAccumulation"
abbrev COV := "CodeObjectVersion"
abbrev GSAE := "GenerateSourcesAndExit"
abbrev APIDP := "AssignedProblemIndependentDerivedParameters"
abbrev ADP := "AssignedDerivedParameters"
abbrev BFP := "BenchmarkFinalParameters"
abbrev MRV := "MinimumRequiredVersion"
abbrev PSRR := "PrintSolutionRejectionReason"
abbrev LPD := "LibraryPrintDebug"
abbrev RAEP := "ROCmAgentEnumeratorPath"
abbrev GMAE := "GenerateManifestAndExit"
abbrev SISA := "SupportedISA"
abbrev CISA := "CurrentISA"
abbrev PCC := "PrintCodeCommands"
abbrev CCC := "CmakeCxxCompiler"
abbrev USFGRO := "_UseSgprForGRO"
abbrev DUL := "_DepthULds"
abbrev WSPEC := "_WorkspaceSizePerElemC"
abbrev FRBP := "ForceRedoBenchmarkProblems"
abbrev CVC := "ConvolutionVsContraction"
abbrev TAS := "TileAwareSelection"
abbrev MIB := "MatrixInstB"
abbrev CFF := "CodeFromFiles"
abbrev PS := "ProblemSizes"
abbrev NC := "NewClient"
abbrev MF := "MergeFiles"
abbrev CC := "CxxCompiler"
abbrev RL := "RuntimeLanguage"
abbrev LF := "LibraryFormat"
abbrev LC := "LegacyComponents"
abbrev PL := "PrintLevel"
abbrev DK := "DebugKernel"
abbrev IS := "IndicesSummation"
abbrev AP := "AssemblerPath"
abbrev BP := "BenchmarkProblems"
abbrev IF := "IndicesFree"
abbrev MB := "MultipleBuffer"
abbrev IB := "IndicesBatch"
abbrev SI := "SolutionIndex"
abbrev SV := "SeparateVscnt"
abbrev WP := "WorkingPath"
abbrev FP := "ForkParameters"
abbrev SN := "ShortNames"
abbrev GP := "GlobalParameters"
abbrev MT := "MacroTile"
abbrev LI := "LoopIters"
abbrev NT := "NumThreads"
abbrev LU := "LoopUnroll"
abbrev PM := "PerformanceMetric"
abbrev DE := "DeviceEfficiency"
abbrev OP := "OutputPath"
abbrev CT := "CpuThreads"

end TensorForge
