import KernelLaunch.Bytes.Lemmas
import KernelLaunch.Kernarg.Memory
import KernelLaunch.Kernarg.Reader
import KernelLaunch.Launch.Rehearsal
import KernelLaunch.Proofs.FilledBuffer
import KernelLaunch.Proofs.NativeEncoding
import KernelLaunch.Proofs.BufferCustody
import KernelLaunch.Proofs.DispatchedRecord
import KernelLaunch.Proofs.FirstRefusal
import KernelLaunch.Proofs.ImageFormat
import KernelLaunch.Proofs.LaunchEffects
import KernelLaunch.Proofs.SizeOverflow
import KernelLaunch.Proofs.Tenancy
import KernelLaunch.Proofs.WriteOrder
import KernelLaunch.Session
import KernelLaunch.Proofs.ReadBack
import KernelLaunch.Proofs.ThresholdReaders
import KernelLaunch.Proofs.SessionHistory
import KernelLaunch.Proofs.CodeNumbers
import KernelLaunch.Proofs.QueueJournal
import KernelLaunch.Proofs.StridedAccess
import KernelLaunch.Proofs.AxisOrder
import KernelLaunch.Proofs.ArgumentAgreement
import KernelLaunch.Proofs.IntegerCells
import KernelLaunch.Proofs.ExactRounding
import KernelLaunch.Proofs.FloatParts
import KernelLaunch.Proofs.HostScalars
import KernelLaunch.Proofs.ExactIntegers
import KernelLaunch.Proofs.RowMajorOrder
import KernelLaunch.Proofs.DescriptorWords
import KernelLaunch.Proofs.MemoryWrites
import KernelLaunch.Proofs.GeometrySizes
import KernelLaunch.Proofs.ItemCounts
import KernelLaunch.Proofs.GridGeometry
import KernelLaunch.Proofs.ReadOutcomes
import KernelLaunch.Proofs.RefusedReads
import KernelLaunch.Proofs.DerivationChains
import KernelLaunch.Proofs.ModuleHandles
import KernelLaunch.Proofs.WordVariables
import KernelLaunch.Proofs.SlotTiling
