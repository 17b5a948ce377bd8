/-
  The data model of the gateway (`gateway/model.hpp`, `gateway/control.hpp`,
  `gateway/acquisition.hpp`): scalars, points, batches, events and control requests.

  Strings are byte sequences, as `std::string` is.  Instants are signed nanoseconds of the
  monotone clock.  `std::uint64_t` statistics are natural numbers; the two that saturate in the
  source saturate here (`saturatingAdd`).
-/
import MiniGateway.Binary64

namespace MiniGateway

open Binary64 (Double)

/-! ### Strings, instants and counters -/

/-- `std::string`: bytes with no encoding attached. -/
abbrev ByteString := List UInt8

/-- The comparison that membership tests of byte strings use. -/
instance : LawfulBEq ByteString := inferInstance

/-- A string literal of the source. -/
def lit (s : String) : ByteString := s.toByteArray.data.toList

/-- `c_str()`, as a C function reads it: the bytes before the first NUL. -/
def cString (s : ByteString) : ByteString := s.takeWhile (· != 0)

theorem cString_append {s : ByteString} (h : (0 : UInt8) ∉ s) (s' : ByteString) :
    cString (s ++ s') = s ++ cString s' :=
  List.takeWhile_append_of_pos fun c hc => by simpa using ne_of_mem_of_not_mem hc h

/-- What stands behind a NUL is not read. -/
theorem cString_append_of_mem {s : ByteString} (h : (0 : UInt8) ∈ s) (s' : ByteString) :
    cString (s ++ s') = cString s := by
  induction s with
  | nil => cases h
  | cons c s ih =>
    unfold cString at ih ⊢
    by_cases hc : c = 0
    · rw [hc]
      rfl
    · have hrest : (0 : UInt8) ∈ s := (List.mem_cons.mp h).resolve_left (Ne.symm hc)
      rw [List.cons_append, List.takeWhile_cons_of_pos (by simpa using hc),
        List.takeWhile_cons_of_pos (by simpa using hc), ih hrest]

theorem cString_of_notMem {s : ByteString} (h : (0 : UInt8) ∉ s) : cString s = s := by
  simpa [cString] using cString_append h []

/-- `std::to_string` of an unsigned number. -/
def decimal (n : ℕ) : ByteString := (Nat.toDigits 10 n).map fun c => UInt8.ofNat c.toNat

/-- `std::to_string` of a signed number. -/
def decimalInt (n : ℤ) : ByteString :=
  if n < 0 then lit "-" ++ decimal n.natAbs else decimal n.natAbs

/-- `SchedulerClock::time_point` and `ControlClock::time_point`, in nanoseconds. -/
abbrev TimePoint := ℤ

/-- `time_point::max()`. -/
def timePointMax : TimePoint := 2 ^ 63 - 1

/-- One `std::chrono::milliseconds` tick, in nanoseconds. -/
def nanosecondsPerMillisecond : ℤ := 1000000

/-- `std::numeric_limits<std::uint64_t>::max()`. -/
def uint64Max : ℕ := 2 ^ 64 - 1

/-- `saturating_add` of `scheduler.cpp` and `control.cpp`. -/
def saturatingAdd (target value : ℕ) : ℕ :=
  if value > uint64Max - target then uint64Max else target + value

/-- `nonnegative_nanoseconds`: negative durations count as zero. -/
def nonnegativeNanoseconds (duration : ℤ) : ℕ := duration.toNat

/-! ### Samples and readings -/

/-- `Scalar`: the variant of integer, double, boolean, string and bytes. -/
inductive Scalar
  | integer (value : Int64)
  | double (value : Double)
  | boolean (value : Bool)
  | string (value : ByteString)
  | byteArray (value : List UInt8)
  deriving DecidableEq

inductive ValueType
  | integer
  | double
  | boolean
  | string
  | byteArray
  deriving DecidableEq, Repr

inductive Quality
  | good
  | timeout
  | disconnected
  | decodeError
  | outOfRange
  | bad
  deriving DecidableEq, Repr

/-- `RawSample`. -/
structure RawSample where
  point : ByteString
  value : Scalar
  status : Quality := .good
  sourceTimeNs : ℤ := 0
  deriving DecidableEq

/-- `RawBatch`: what a driver hands to the raw queue. -/
structure RawBatch where
  deviceId : ByteString
  source : ByteString
  samples : List RawSample
  deriving DecidableEq

/-- `Reading`. -/
structure Reading where
  point : ByteString
  value : Scalar
  quality : Quality := .good
  unit : ByteString
  sourceTimeNs : ℤ
  receivedTimeNs : ℤ
  derived : Bool := false
  deriving DecidableEq

/-- `Event`: what the publishers are offered. -/
structure Event where
  eventId : ByteString
  deviceId : ByteString
  source : ByteString
  readings : List Reading
  modelVersion : ByteString
  deriving DecidableEq

/-! ### Control requests -/

/-- `DeviceControlRequest`; the default deadline is unbounded. -/
structure DeviceControlRequest where
  requestId : ByteString
  deviceId : ByteString
  command : ByteString
  arguments : List (ByteString × Scalar) := []
  deadline : TimePoint := timePointMax
  deriving DecidableEq

inductive DeviceControlStatus
  | succeeded
  | unsupported
  | invalidArgument
  | timeout
  | cancelled
  | failed
  deriving DecidableEq, Repr

/-- `DeviceControlResult`. -/
structure DeviceControlResult where
  requestId : ByteString
  status : DeviceControlStatus := .failed
  outputs : List (ByteString × Scalar) := []
  message : ByteString := []
  deriving DecidableEq

inductive ControlSubmitResult
  | accepted
  | queueFull
  | unknownDevice
  | invalidRequest
  | stopping
  deriving DecidableEq, Repr

/-- A `ControlCompletion` that is not empty, named by a number. -/
abbrev CompletionId := ℕ

/-- A thread, named by a number. -/
abbrev ThreadId := ℕ

end MiniGateway
