import SerialHid.Config.Load
import SerialHid.Engine
import SerialHid.FileTree
import SerialHid.Main
import SerialHid.Proofs.Calls
import SerialHid.Proofs.Codec
import SerialHid.Proofs.Delivery
import SerialHid.Proofs.Faults
import SerialHid.Proofs.History
import SerialHid.Proofs.Lifecycle
import SerialHid.Proofs.Offline
import SerialHid.Proofs.Reset
import SerialHid.Proofs.Retry
import SerialHid.Proofs.Vanished
import SerialHid.Uart
import SerialHid.Proofs.Reader
import SerialHid.Proofs.Board
import SerialHid.Proofs.Due
import SerialHid.Proofs.Shutdown
import SerialHid.Proofs.Drain
import SerialHid.Proofs.Pretence
import SerialHid.Proofs.Burst
import SerialHid.Proofs.Ending
import SerialHid.Proofs.Effect
import SerialHid.Proofs.Report
import SerialHid.Proofs.Exhaustion
import SerialHid.Proofs.Refusal
import SerialHid.Proofs.Intent
import SerialHid.Proofs.Absorption
import SerialHid.Proofs.Payload
import SerialHid.Proofs.Validation
import SerialHid.Proofs.ResetLine
