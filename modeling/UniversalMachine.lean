import UniversalMachine.Channel.Buffer
import UniversalMachine.Channel.Metered
import UniversalMachine.Configuration.Printer
import UniversalMachine.Disassembly
import UniversalMachine.Main
import UniversalMachine.Memory.Lemmas
import UniversalMachine.Proofs.Abstract.Simulation
import UniversalMachine.Proofs.Machine.FaultAtomicity
import UniversalMachine.Proofs.Machine.Frame
import UniversalMachine.Proofs.Machine.TerminalState
import UniversalMachine.Proofs.Memory.Session
import UniversalMachine.Word.Lemmas
import UniversalMachine.Proofs.Machine.Progress
import UniversalMachine.Proofs.Machine.Conservation
import UniversalMachine.Proofs.Instruction.Codec
import UniversalMachine.Proofs.Instruction.Text
import UniversalMachine.Proofs.Memory.ProgramText
import UniversalMachine.Proofs.Machine.Lockstep
import UniversalMachine.Proofs.Machine.ChannelMap
import UniversalMachine.Proofs.Machine.Calls
import UniversalMachine.Proofs.Machine.RequestLedger
import UniversalMachine.Proofs.Machine.Refusal
import UniversalMachine.Proofs.Machine.BufferTiming
import UniversalMachine.Proofs.Image.Codec
import UniversalMachine.Proofs.Invocation.Transparency
import UniversalMachine.Proofs.Invocation.Undelivered
import UniversalMachine.Proofs.Checked.Machine
import UniversalMachine.Proofs.Memory.Balance
import UniversalMachine.Proofs.Memory.Compactness
import UniversalMachine.Proofs.Memory.Vacancies
import UniversalMachine.Proofs.Instruction.Listing
import UniversalMachine.Proofs.Machine.Countdown
import UniversalMachine.Proofs.Configuration.RoundTrip
import UniversalMachine.Proofs.Document.Gaps
import UniversalMachine.Proofs.Document.Quotations
import UniversalMachine.Proofs.Word.Fields
import UniversalMachine.Proofs.Document.Layout
import UniversalMachine.Proofs.Configuration.Layout
