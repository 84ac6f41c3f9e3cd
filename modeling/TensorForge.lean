import TensorForge.Main
import TensorForge.Proofs.BlockedGroups
import TensorForge.Proofs.ConfigPieces
import TensorForge.Proofs.ConfigTrees
import TensorForge.Proofs.ConstantDivision
import TensorForge.Proofs.FreeBlocks
import TensorForge.Proofs.KeptSolutions
import TensorForge.Proofs.LoadWaits
import TensorForge.Proofs.MatrixTiles
import TensorForge.Proofs.PackedRows
import TensorForge.Proofs.PartialMerges
import TensorForge.Proofs.PreparedRules
import TensorForge.Proofs.SerialNames
import TensorForge.Proofs.SharedState
import TensorForge.Proofs.SolutionNumbers
import TensorForge.Proofs.WaitSoundness
import TensorForge.Proofs.WorkingPaths
import TensorForge.Report.Host
import TensorForge.Report.Run
import TensorForge.Tuning.Sample
