import DriveSim.Transport.Socket
import Mathlib.Tactic.Linarith

/-!
# The read contract of nanoMODBUS

`nanomodbus.h` says what a platform `read` has to do: block until `count` bytes are
read or the byte timeout expires, wait without limit for a negative timeout, return at
once for a zero one, and return a negative number only for an error.
-/

namespace DriveSim

open Lib

section Allowed

variable {s : TimedStream UInt8} {count : Nat} {deadline : Option Nat}

end Allowed

/-! ## A read of at least one byte -/

end DriveSim
