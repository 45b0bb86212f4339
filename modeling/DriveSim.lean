import DriveSim.Vehicle.Step
import DriveSim.Vehicle.Run
import DriveSim.Vehicle.SpeedLimit
import DriveSim.Vehicle.Energy
import DriveSim.Lib.SignChange
import DriveSim.Vehicle.Reversal
import DriveSim.App.Callbacks
import DriveSim.Vehicle.Coasting
import DriveSim.Vehicle.Standstill
import DriveSim.App.Machine
import DriveSim.App.RegisterMachine
import DriveSim.App.Planes
import DriveSim.Lib.TimedStream
import DriveSim.Transport.Socket
import DriveSim.Transport.Read
import DriveSim.Lib.Program
import DriveSim.Nmbs.Server
import DriveSim.Nmbs.Handlers
import DriveSim.Nmbs.Messages
import DriveSim.Nmbs.Requests
import DriveSim.Nmbs.Dispatch
import DriveSim.App.Refusal
import DriveSim.Transport.Outcome
import DriveSim.Nmbs.Poll
import DriveSim.Server.Model
import DriveSim.Server.Survival
import DriveSim.App.InputTable
import DriveSim.App.TorqueLimit
import DriveSim.App.ConversionRange
import DriveSim.Vehicle.Symmetry
import DriveSim.Vehicle.ConstantTorque
import DriveSim.Vehicle.BreakAway
import DriveSim.Vehicle.TorqueResponse
import DriveSim.Server.Release
import DriveSim.Lib.Relational
import DriveSim.Nmbs.Parametric
import DriveSim.Server.Transcript
import DriveSim.Server.Interleaving
import DriveSim.Nmbs.Frames
import DriveSim.Nmbs.Replies
import DriveSim.Nmbs.Answers
import DriveSim.Nmbs.Exchange
import DriveSim.Server.Ledger
import DriveSim.Server.Commands
import DriveSim.Nmbs.Prompt
import DriveSim.Server.Queries
import DriveSim.Server.Dialogue
import DriveSim.Server.Overrun
import DriveSim.Lib.Atomic
import DriveSim.Lib.Mutex
import DriveSim.Lib.Linearization
import DriveSim.App.Threads
import DriveSim.Server.Schedule
import DriveSim.Vehicle.Approach
import DriveSim.Vehicle.StoppingDistance
import DriveSim.Server.StopCommand
import DriveSim.Nmbs.Client
import DriveSim.Nmbs.Transaction
import DriveSim.Server.Calls
import DriveSim.Server.RoundTrip
import DriveSim.Nmbs.Waiting
import DriveSim.Server.Waiting
