import Cislunar.Services.Schedule
import Cislunar.Services.VendorSimulator

/-!
The vendor boundary: `POST /simulator/telemetry` takes a frame of the payload simulator, may damage
it, and hands it to the gateway with at most two retries.

The vendor and the gateway are one system here. A handoff is a gateway handler in a place that was
never used before, and the network may lose a handoff or its answer. Log lines and the delays between
attempts are left out.
-/

namespace Cislunar

open Foundation Foundation.Prog

/-- `VendorSettings`, without the address of the gateway and the settings of the simulator. -/
structure VendorSettings where
  vendorToken : String
  tokenPresent : vendorToken ≠ ""

/-- `_apply_wire_failure`. -/
def applyWireFailure (raw : Bytes) : FailureMode → Bytes
  | .corruptCrc => raw.modify (raw.length - 1) (· ^^^ 0x01)
  | .unsupportedVersion =>
    let changed := raw.set 0 2
    let body := changed.take telemetryV1BodySize
    body ++ Struct.beBytes 4 (crc32IsoHdlc zlibCrc32 body)
  | .none | .skipSequence | .duplicateLast => raw

/-- What the vendor raises. -/
inductive VendorFailure where
  /-- `HTTPException`. -/
  | http (statusCode : Nat) (detail : String)
  | simulator (error : SimulatorError)
  /-- `httpx.HTTPError`. -/
  | client
  /-- `UnicodeEncodeError`. -/
  | encode
  | assertion (message : String)
  deriving DecidableEq, Repr

/-- The body of an answer, as JSON where it is JSON. -/
inductive GroundBody where
  | json (content : JsonObject)
  | text (text : String)
  deriving DecidableEq, Repr

/-- An `httpx.Response`. -/
structure GroundAnswer where
  statusCode : Nat
  body : GroundBody
  deriving DecidableEq, Repr

/-- `response.json()`, and the beginning of the text where that raises `ValueError`. -/
def GroundBody.shown : GroundBody → JsonObject
  | json content => content
  | text plain => [("detail", .text (String.ofList (plain.toList.take 500)))]

/-- One `client.post` to the gateway: its content and its headers. -/
structure Handoff where
  content : Bytes
  contentType : String
  requestId : String
  vendorToken : String
  deriving DecidableEq

/-- The request as it arrives, with its body in some chunks. -/
def Handoff.arriving (handoff : Handoff) (chunks : List Bytes) : VendorRequest where
  vendorToken := some handoff.vendorToken
  requestId := some handoff.requestId
  contentType := some handoff.contentType
  contentLength := some (String.ofList (formatDecimal 1 handoff.content.length))
  chunks := chunks

/-- One atomic request of the vendor. -/
inductive VendorCall where
  /-- The section of `submit_telemetry` that holds the lock; it does not wait for anything else. -/
  | takeFrame (request : TelemetryRequest)
  /-- `uuid.uuid4()`. -/
  | uuid4
  /-- The first half of `client.post`. -/
  | send (handoff : Handoff)
  /-- The wait for the answer of the handler in a place. -/
  | answer (place : Nat)

/-- What a request returns. -/
@[reducible] def VendorCall.Reply : VendorCall → Type
  | takeFrame _ => Bytes × String
  | uuid4 => UUID
  | send _ => Nat
  | answer _ => GroundAnswer

/-- A service of the vendor. -/
abbrev VendorService := Prog VendorFailure VendorCall VendorCall.Reply

/-- `client.post`, which encodes its headers in ASCII before it sends anything. -/
def postHandoff (handoff : Handoff) : VendorService GroundAnswer :=
  if handoff.vendorToken.toList.all (·.toNat < 128) then do
    let place ← Prog.call (VendorCall.send handoff)
    Prog.call (VendorCall.answer place)
  else raise .encode

/-- One attempt of `forward`: a failure of the client is raised by the last one only. -/
def attemptHandoff (handoff : Handoff) (attempt : Nat) : VendorService (Option GroundAnswer) :=
  Prog.tryCatch (do return some (← postHandoff handoff)) fun failure =>
    if failure = .client ∧ attempt ≠ 3 then return none else raise failure

/-- The attempts of `forward` under the given numbers. -/
def forwardAttempts (handoff : Handoff) : List Nat → VendorService GroundAnswer
  | [] => raise (.assertion "unreachable vendor retry state")
  | attempt :: rest => do
    let outcome ← attemptHandoff handoff attempt
    match outcome with
    | some response =>
      if response.statusCode < 500 ∨ attempt = 3 then return response
      else forwardAttempts handoff rest
    | none => forwardAttempts handoff rest

/-- What `forward` posts. -/
def VendorSettings.handoff (settings : VendorSettings) (raw : Bytes) (requestId : UUID) :
    Handoff where
  content := raw
  contentType := "application/octet-stream"
  requestId := requestId.str
  vendorToken := settings.vendorToken

/-- `VendorForwarder.forward`. -/
def forward (settings : VendorSettings) (raw : Bytes) (requestId : UUID) :
    VendorService GroundAnswer :=
  forwardAttempts (settings.handoff raw requestId) [1, 2, 3]

/-- What `submit_telemetry` returns. -/
structure Submission where
  messageId : String
  requestId : String
  /-- The bytes that `raw_hex` shows. -/
  raw : Bytes
  groundStatus : Nat
  groundResponse : JsonObject
  deriving DecidableEq

/-- `submit_telemetry`. -/
def submitTelemetry (settings : VendorSettings) (request : TelemetryRequest) :
    VendorService Submission := do
  let (raw, messageId) ← Prog.call (VendorCall.takeFrame request)
  let requestId ← Prog.call VendorCall.uuid4
  let groundResponse ← (forward settings raw requestId).tryCatch fun (failure : VendorFailure) =>
    if failure = .client then raise (.http 502 "ground-api could not be reached")
    else raise failure
  return ⟨messageId, requestId.str, raw, groundResponse.statusCode, groundResponse.body.shown⟩

/-- The vendor and the gateway that it hands its frames to. -/
structure VendorLink where
  host : PayloadHost
  /-- `app.state.last_raw` and `app.state.last_message_id`. -/
  lastFrame : Option (Bytes × String) := none
  /-- The identifiers that were drawn so far, with the handlers that drew them. -/
  issued : List (UUID × Nat) := []
  /-- The handoffs so far, lost ones included. -/
  handoffs : List Handoff := []
  ground : GroundConfig := .initial
  /-- The process that was given a place; no place is used twice. -/
  assigned : Nat → Option Process := fun _ => none

/-- What a request of the vendor depends on besides the state. -/
inductive LinkChoice where
  /-- The boot file can be written or not, and the clock shows some microseconds. -/
  | frame (writable : Bool) (timestampUs : Int)
  | identifier (id : UUID)
  /-- A handoff arrives in a free place, with its body in some chunks. -/
  | arrives (place : Nat) (chunks : List Bytes)
  /-- The answer arrives. -/
  | answered
  /-- The client raises `httpx.HTTPError`. -/
  | lost

namespace VendorLink

/-- The section of `submit_telemetry` that holds the lock; nothing runs where no process does. -/
def takeFrame (link : VendorLink) (request : TelemetryRequest) (writable : Bool)
    (timestampUs : Int) : Option (Except VendorFailure (Bytes × String) × VendorLink) :=
  match link.host.simulator with
  | none => none
  | some simulator =>
    if request.failureMode = .duplicateLast then
      match link.lastFrame with
      | none => some (.error (.http 409 "DUPLICATE_LAST requires one earlier telemetry frame"), link)
      | some last => some (.ok last, link)
    else
      let host := link.host.perform (.makeFrame request writable timestampUs true)
      match (simulator.makeFrame request writable timestampUs link.host.file).1 with
      | .error error => some (.error (.simulator error), { link with host := host })
      | .ok (raw, messageId) =>
        let sent := (applyWireFailure raw request.failureMode, messageId)
        some (.ok sent, { link with
          host := host
          lastFrame :=
            if request.failureMode = .none ∨ request.failureMode = .skipSequence then some sent
            else link.lastFrame })

/-- A place that has never been used. -/
def Free (link : VendorLink) (place : Nat) : Prop :=
  (link.assigned place).isNone ∧ (link.ground.threads place).isNone

instance (link : VendorLink) (place : Nat) : Decidable (link.Free place) :=
  inferInstanceAs (Decidable (_ ∧ _))

/-- A process starts in a place. -/
def start (link : VendorLink) (place : Nat) (process : Process) : VendorLink :=
  { link with
    assigned := Function.update link.assigned place (some process)
    ground := ⟨link.ground.state,
      Function.update link.ground.threads place (some process.program)⟩ }

/-- A handoff is made, whatever becomes of it. -/
def record (link : VendorLink) (handoff : Handoff) : VendorLink :=
  { link with handoffs := link.handoffs ++ [handoff] }

/-- The answer of the handler in a place; an exception that escapes becomes a plain 500. -/
def groundAnswer (link : VendorLink) (place : Nat) : Option GroundAnswer :=
  match link.ground.threads place with
  | some (.done (some response)) => some ⟨response.statusCode, .json response.content⟩
  | some (.raise _) => some ⟨500, .text "Internal Server Error"⟩
  | _ => none

/-- The link as a machine; `uuid.uuid4()` is taken never to return an identifier again. -/
def machine (settings : GroundSettings) :
    Machine Nat VendorFailure VendorCall VendorCall.Reply VendorLink where
  Choice := LinkChoice
  exec
    | .frame writable timestampUs, _, link, .takeFrame asked =>
      link.takeFrame asked writable timestampUs
    | .identifier id, thread, link, .uuid4 =>
      if id.version = some 4 ∧ id ∉ link.issued.map Prod.fst then
        some (.ok id, { link with issued := link.issued ++ [(id, thread)] })
      else none
    | .arrives place chunks, _, link, .send handoff =>
      if chunks.flatten = handoff.content ∧ link.Free place then
        some (.ok place, (link.record handoff).start place
          (.gateway settings (handoff.arriving chunks)))
      else none
    | .lost, _, link, .send handoff => some (.error .client, link.record handoff)
    | .answered, _, link, .answer place =>
      (link.groundAnswer place).map fun answer => (.ok answer, link)
    | .lost, _, link, .answer _ => some (.error .client, link)
    | _, _, _, _ => none

/-- A process of the ground that does not present the vendor token. -/
def Foreign (settings : GroundSettings) : Process → Prop
  | .gateway used vendor => used = settings ∧ vendor.vendorToken ≠ some settings.vendorToken
  | .startup | .worker _ _ => True

/-- What happens on the link to a ground system besides the handlers of the vendor. -/
inductive Moves (system : Machine Nat Failure Request Request.Reply Ground)
    (settings : GroundSettings) (link : VendorLink) : VendorLink → Prop where
  /-- A process of the ground acts or disappears, or time passes. -/
  | ground {next : GroundConfig}
      (step : Step system (fun _ _ _ => False) Ground.Ticks link.ground next) :
      Moves system settings link { link with ground := next }
  /-- A process starts that has nothing to do with the vendor. -/
  | start {place : Nat} {process : Process} (free : link.Free place)
      (foreign : Foreign settings process) : Moves system settings link (link.start place process)
  /-- The process of the vendor ends while it makes a frame. -/
  | ends (request : TelemetryRequest) (writable : Bool) (timestampUs : Int) :
      Moves system settings link { link with
        host := link.host.perform (.makeFrame request writable timestampUs false)
        lastFrame := none }
  /-- The process of the vendor starts again; what it knew is gone. -/
  | restart (readable writable : Bool) :
      Moves system settings link { link with
        host := link.host.perform (.restart readable writable)
        lastFrame := none }

/-- Nothing has happened yet, and the boot file is as it was found. -/
def initial (boot : Option Bytes) : VendorLink where
  host := { file := { initial := boot } }

end VendorLink

/-- The link and the handlers of the vendor that are running or have finished. -/
abbrev VendorConfig := Config Nat VendorFailure VendorCall VendorCall.Reply VendorLink Submission

/-- The steps of the link to a ground system; the automatic loop submits like any other client. -/
abbrev LinkStep (system : Machine Nat Failure Request Request.Reply Ground)
    (ground : GroundSettings) (vendor : VendorSettings) : VendorConfig → VendorConfig → Prop :=
  Step (VendorLink.machine ground)
    (fun _ _ program => ∃ request, program = submitTelemetry vendor request)
    (VendorLink.Moves system ground)

/-- The steps of the link. -/
abbrev VendorStep : GroundSettings → VendorSettings → VendorConfig → VendorConfig → Prop :=
  LinkStep groundMachine

/-- No handler, and nothing on the link. -/
def VendorConfig.initial (boot : Option Bytes) : VendorConfig :=
  ⟨VendorLink.initial boot, fun _ => none⟩

end Cislunar
