import Mos6502.LittleEndian
import Mos6502.Main
import Mos6502.Proofs.BusInterleaving
import Mos6502.Proofs.DataConformance
import Mos6502.Proofs.DebugTrace
import Mos6502.Proofs.InertFlags
import Mos6502.Proofs.MemoryHistory
import Mos6502.Proofs.MultiByteRotate
import Mos6502.Proofs.MultiByteSum
import Mos6502.Proofs.StackBracket
import Mos6502.Proofs.StatusInvariants
import Mos6502.Proofs.StepSafety
import Mos6502.Proofs.MultiByteCompare
import Mos6502.Proofs.Branches
import Mos6502.Proofs.StackSimulation
import Mos6502.Proofs.BoundedSearch
import Mos6502.Proofs.LittleEndianCodec
import Mos6502.Proofs.BootImage
import Mos6502.Proofs.HexdumpReading
import Mos6502.Proofs.CopyLoop
import Mos6502.Proofs.BodyOutcomes
import Mos6502.Proofs.Configuration
