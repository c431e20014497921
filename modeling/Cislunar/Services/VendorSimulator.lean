import Cislunar.Runtime.Hash
import Cislunar.Runtime.Uuid
import Cislunar.Telemetry.Codec
import Mathlib.Data.Rat.Floor

/-!
The payload simulator: every frame takes the next number of a session, and a boot identifier is
written to a file before its session begins.

The application makes one frame at a time. A call that raises keeps what it did before it raised.
-/

namespace Cislunar

/-- `FailureMode`. -/
inductive FailureMode where
  | none
  | corruptCrc
  | unsupportedVersion
  | skipSequence
  | duplicateLast
  deriving DecidableEq, Repr

/-- `OperatingModeName`. -/
inductive OperatingModeName where
  | safe
  | standby
  | science
  | calibration
  deriving DecidableEq, Repr

/-- `OperatingMode[name.value]`. -/
def OperatingModeName.mode : OperatingModeName → OperatingMode
  | safe => .safe
  | standby => .standby
  | science => .science
  | calibration => .calibration

/-- `TelemetryRequest`; its decimals are the shortest ones that stand for the floats. -/
structure TelemetryRequest where
  temperatureC : Rat
  voltageV : Rat
  operatingMode : OperatingModeName
  faultFlags : Int := 0
  failureMode : FailureMode := .none
  temperatureBounds : -100 ≤ temperatureC ∧ temperatureC ≤ 150 := by decide
  voltageBounds : 0 ≤ voltageV ∧ voltageV ≤ 50 := by decide
  faultBounds : 0 ≤ faultFlags ∧ faultFlags ≤ 0x3F := by decide

/-- `_scaled`: to the nearest integer, and from a tie away from zero. -/
def scaled (value : Rat) (factor : Int) : Int :=
  let product := value * factor
  if product < 0 then -⌊-product + 1 / 2⌋ else ⌊product + 1 / 2⌋

/-- What the simulator raises. -/
inductive SimulatorError where
  /-- `OSError`. -/
  | os
  /-- A `ValueError` of `int` or of the decoder of the file. -/
  | value
  | runtime (message : String)
  | codec (error : CodecError)
  deriving DecidableEq, Repr

/-- `f"{value}\n"` in ASCII. -/
def bootText (value : Int) : Bytes :=
  (formatDecimal 1 value ++ ['\n']).map fun char => UInt8.ofNat char.toNat

/-- The file with the boot identifier, as it was found and as it was replaced. -/
structure BootFile where
  /-- What the file held at first, where there was one. -/
  initial : Option Bytes := none
  /-- The values that were persisted, in order. -/
  written : List Int := []

namespace BootFile

/-- What the file holds. -/
def content (file : BootFile) : Option Bytes :=
  match file.written.getLast? with
  | some value => some (bootText value)
  | none => file.initial

/-- The file after a value has replaced its content. -/
def replace (file : BootFile) (value : Int) : BootFile :=
  { file with written := file.written ++ [value] }

/-- `persist`, which replaces the whole file or raises. -/
def persist (file : BootFile) (writable : Bool) (value : Int) : Except SimulatorError BootFile :=
  if writable then .ok (file.replace value) else .error .os

end BootFile

/-- Bytes as ASCII text, absent where the decoder raises `UnicodeDecodeError`. -/
def decodeAscii (raw : Bytes) : Option (List Char) :=
  if raw.all (· < 128) then some (raw.map fun byte => Char.ofNat byte.toNat) else none

/-- Every kind of line end becomes a line feed when a text is read. -/
def universalNewlines : List Char → List Char
  | '\r' :: '\n' :: rest => '\n' :: universalNewlines rest
  | '\r' :: rest => '\n' :: universalNewlines rest
  | char :: rest => char :: universalNewlines rest
  | [] => []

/-- `text.strip()`. -/
def strip (text : List Char) : List Char :=
  ((text.dropWhile unicodeSpace).reverse.dropWhile unicodeSpace).reverse

/-- The boot identifier that was used last, as the file tells it. -/
def previousBootId : Option Bytes → Except SimulatorError Int
  | none => .ok 0
  | some raw =>
    match decodeAscii raw with
    | none => .error .value
    | some decoded =>
      let text := strip (universalNewlines decoded)
      if text = [] then .ok 0
      else match intBase10 text with
        | some previous => .ok previous
        | none => .error .value

/-- The first half of `_load_next_boot_id`, which raises `OSError` where the file cannot be read. -/
def BootFile.previous (file : BootFile) (readable : Bool) : Except SimulatorError Int :=
  if readable then previousBootId file.content else .error .os

/-- `_load_next_boot_id`. -/
def loadNextBootId (readable writable : Bool) (file : BootFile) :
    Except SimulatorError (Int × BootFile) := do
  let previous ← file.previous readable
  if 0 ≤ previous ∧ previous < uint32Max then
    let current := previous + 1
    let replaced ← file.persist writable current
    return (current, replaced)
  else .error (.runtime "persisted boot identifier cannot be incremented safely")

/-- `PayloadSimulator`. -/
structure PayloadSimulator where
  bootId : Int
  nextSequence : Int := 0
  deriving DecidableEq, Repr

namespace PayloadSimulator

/-- `_roll_session_if_needed`: what it answers, and the simulator and the file after it. -/
def rollSessionIfNeeded (simulator : PayloadSimulator) (writable : Bool) (file : BootFile) :
    Except SimulatorError Unit × PayloadSimulator × BootFile :=
  if simulator.nextSequence ≤ uint32Max then (.ok (), simulator, file)
  else if simulator.bootId = uint32Max then
    (.error (.runtime "payload boot identifier space is exhausted"), simulator, file)
  else
    -- The simulator has moved on even where the new identifier cannot be persisted.
    let advanced := { simulator with bootId := simulator.bootId + 1 }
    match file.persist writable advanced.bootId with
    | .error error => (.error error, advanced, file)
    | .ok replaced => (.ok (), { advanced with nextSequence := 0 }, replaced)

/-- The frame of a request under the number that is next. -/
def frame (simulator : PayloadSimulator) (request : TelemetryRequest) (timestampUs : Int) :
    TelemetryFrame OperatingMode where
  payloadId := 1
  bootId := simulator.bootId
  sequenceNumber := simulator.nextSequence
  timestampUs := timestampUs
  temperatureCentiC := scaled request.temperatureC 100
  voltageMv := scaled request.voltageV 1000
  operatingMode := request.operatingMode.mode
  faultFlags := request.faultFlags

/-- Skip a number where the request asks for a gap. -/
def skip (simulator : PayloadSimulator) (request : TelemetryRequest) : PayloadSimulator :=
  if request.failureMode = .skipSequence then
    { simulator with nextSequence := simulator.nextSequence + 1 }
  else simulator

/-- `make_frame` at a clock whose reading `_timestamp_us` turns into the given microseconds. -/
def makeFrame (simulator : PayloadSimulator) (request : TelemetryRequest) (writable : Bool)
    (timestampUs : Int) (file : BootFile) :
    Except SimulatorError (Bytes × String) × PayloadSimulator × BootFile :=
  match (simulator.skip request).rollSessionIfNeeded writable file with
  | (.error error, rolled, replaced) => (.error error, rolled, replaced)
  | (.ok (), rolled, replaced) =>
    let answer := do
      let raw ← encodeTelemetry zlibCrc32 (rolled.frame request timestampUs)
      let packetId ← (rolled.frame request timestampUs).packetId
      return (raw, packetId)
    -- The number is used up, whatever becomes of the frame.
    (answer.mapError .codec, { rolled with nextSequence := rolled.nextSequence + 1 }, replaced)

end PayloadSimulator

/-- The simulator with the file that outlives it, and what its calls have returned. -/
structure PayloadHost where
  file : BootFile
  /-- The simulator of the process, where one is running. -/
  simulator : Option PayloadSimulator := none
  /-- The answers of `make_frame`, in order. -/
  returned : List (Bytes × String) := []

/-- What can happen to the simulator. -/
inductive PayloadEvent where
  /-- A process starts, whatever has become of the one before. -/
  | restart (readable writable : Bool)
  /-- A frame is made by a process that may not live to return it. -/
  | makeFrame (request : TelemetryRequest) (writable : Bool) (timestampUs : Int) (survives : Bool)

namespace PayloadHost

/-- The host after an event. -/
def perform (host : PayloadHost) : PayloadEvent → PayloadHost
  | .restart readable writable =>
    match loadNextBootId readable writable host.file with
    | .ok (bootId, replaced) => { host with file := replaced, simulator := some { bootId := bootId } }
    | .error _ => { host with simulator := none }
  | .makeFrame request writable timestampUs survives =>
    match host.simulator with
    | none => host
    | some simulator =>
      match simulator.makeFrame request writable timestampUs host.file with
      | (outcome, next, replaced) =>
        if survives then
          { file := replaced
            simulator := some next
            returned := host.returned ++ outcome.toOption.toList }
        else { host with file := replaced, simulator := none }

/-- The host after some events, from a file that no process has touched. -/
def after (initial : Option Bytes) (events : List PayloadEvent) : PayloadHost :=
  events.foldl perform { file := { initial := initial } }

end PayloadHost

end Cislunar
