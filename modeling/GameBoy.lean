import GameBoy.CommandLine.Session
import GameBoy.Cpu.Dump
import GameBoy.Instruction.Text
import GameBoy.Machine.Summary
import GameBoy.Main
import GameBoy.Memory.Region
import GameBoy.Proofs.Interrupt.Deferral
import GameBoy.Proofs.Instruction.OctalTable
import GameBoy.Proofs.Interrupt.Nesting
import GameBoy.Proofs.Machine.FailedStep
import GameBoy.Proofs.Memory.FlatStore
import GameBoy.Proofs.Console.Steps
import GameBoy.Proofs.Console.Budget
import GameBoy.Proofs.Serial.Backlog
import GameBoy.Proofs.Console.Slicing
import GameBoy.Proofs.Serial.Transfer
import GameBoy.Proofs.Serial.Delivery
import GameBoy.Proofs.Interrupt.Dispatch
import GameBoy.Proofs.Serial.Verdict
import GameBoy.Proofs.Run.Ending
import GameBoy.Proofs.Run.Suspension
import GameBoy.Proofs.Interrupt.Enabling
import GameBoy.Proofs.Interrupt.Delivery
import GameBoy.Proofs.Serial.Capture
import GameBoy.Proofs.Machine.Footprint
import GameBoy.Proofs.Interrupt.Request
import GameBoy.Proofs.Machine.WriteFootprint
import GameBoy.Proofs.Instruction.Length
import GameBoy.Proofs.Machine.BusProgram
import GameBoy.Proofs.Machine.Locality
import GameBoy.Proofs.Machine.BusCycles
import GameBoy.Proofs.Alu.PackedDecimal
import GameBoy.Proofs.Machine.DecimalRun
import GameBoy.Proofs.Instruction.Spelling
import GameBoy.Proofs.Run.Return
import GameBoy.Proofs.Serial.Printed
import GameBoy.Proofs.Checked.Console
import GameBoy.Proofs.Cpu.Dump
import GameBoy.Proofs.Toml.Decimal
import GameBoy.Proofs.Settings.Document
import GameBoy.Proofs.Machine.Subroutine
import GameBoy.Proofs.Machine.ByteArithmetic
import GameBoy.Proofs.Machine.CarryChain
import GameBoy.Proofs.Machine.Branch
import GameBoy.Proofs.Machine.Addressing
import GameBoy.Proofs.Console.IllegalOpcode
import GameBoy.Proofs.Alu.Bits
import GameBoy.Proofs.Machine.ShiftChain
import GameBoy.Proofs.Machine.StackOrder
import GameBoy.Proofs.Machine.RotationCycle
import GameBoy.Proofs.Machine.WordAddition
import GameBoy.Proofs.Memory.WordAccess
import GameBoy.Proofs.Machine.SingleBits
import GameBoy.Proofs.Memory.Program
import GameBoy.Proofs.Machine.Stream
import GameBoy.Proofs.Machine.StackWords
