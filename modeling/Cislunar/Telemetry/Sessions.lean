import Cislunar.Telemetry.Outcome
import Cislunar.Telemetry.Repository

/-!
Deliveries of several boot sessions, recorded and accepted one call at a time.

The book of a session is the abstract state of the component: what became of its deliveries, in terms
of deliveries instead of generated identifiers. Only turns of its own session are entered in it.
-/

namespace Cislunar

open Foundation

/-- An authenticated delivery whose frame has decoded, with what its acceptance is asked for. -/
structure Arrival where
  delivery : Delivery
  values : DecodedTelemetryValues
  maxAttempts : Int
  actorIdentity : String
  bounded : delivery.rawBody.length ≤ maxEvidenceBodyBytes
  identified : delivery.peerCertificateIdentity.isEmpty = false
  positive : 0 < values.payloadId ∧ 0 < values.bootId
  range : 0 ≤ values.sequenceNumber ∧ values.sequenceNumber ≤ maxUint32
  attempts : 0 < maxAttempts

/-- The boot session that a delivery belongs to. -/
def Arrival.session (arrival : Arrival) : Int × Int :=
  (arrival.values.payloadId, arrival.values.bootId)

/-- One repository call of the reception, about one delivery. -/
inductive Turn (ι : Type) where
  | record (arrival : ι)
  | accept (arrival : ι)
  deriving DecidableEq, Repr

/-- The delivery that a turn is about. -/
def Turn.arrival {ι : Type} : Turn ι → ι
  | record arrival | accept arrival => arrival

/-- The tables, and the receipts handed out so far. -/
structure Desk (ι : Type) where
  db : Database
  receiptOf : ι → Option UUID := fun _ => none

/-- What became of a recorded delivery, in terms of deliveries. -/
inductive Standing (ι : Type) where
  | pending
  | accepted
  | duplicate (origin : ι)
  | conflict (origin : ι)

/-- A packet of a session, named by its delivery. -/
structure BookEntry (ι : Type) where
  source : ι
  disposition : PacketDisposition
  missingBefore : Int

/-- The abstract state of one boot session. -/
structure Book (ι : Type) where
  /-- In order of acceptance. -/
  entries : List (BookEntry ι) := []
  state : Option TelemetrySequenceState := none
  standing : ι → Option (Standing ι) := fun _ => none

section
variable {ι : Type} [DecidableEq ι] (arrivals : ι → Arrival)

namespace Desk

/-- The receipt of a delivery. -/
def receipt (desk : Desk ι) (arrival : ι) : Option TelemetryDeliveryReceipt :=
  (desk.receiptOf arrival).bind desk.db.receipts.get?

/-- Record a delivery and keep the receipt that is answered. -/
def record (env : Surroundings) (desk : Desk ι) (arrival : ι) : Desk ι :=
  match (RepoCall.recordDelivery (arrivals arrival).delivery none).exec env desk.db with
  | (.ok result, db) => ⟨db, Function.update desk.receiptOf arrival (some result.receiptId)⟩
  | (.error _, db) => ⟨db, desk.receiptOf⟩

/-- Accept a delivery that has a receipt. -/
def accept (env : Surroundings) (desk : Desk ι) (arrival : ι) : Desk ι :=
  match desk.receiptOf arrival with
  | none => desk
  | some receiptId => { desk with
      db := ((RepoCall.acceptPacketAndCreateJob receiptId (arrivals arrival).values
        (arrivals arrival).maxAttempts (arrivals arrival).actorIdentity).exec env desk.db).2 }

/-- One turn. -/
def turn (env : Surroundings) (desk : Desk ι) : Turn ι → Desk ι
  | .record arrival => desk.record arrivals env arrival
  | .accept arrival => desk.accept arrivals env arrival

/--
A delivery is recorded once, under a request identifier that no other delivery has, and accepted only
after that.
-/
def Allows (desk : Desk ι) : Turn ι → Prop
  | .record arrival => desk.receiptOf arrival = none ∧
      (arrivals arrival).delivery.canonicalRequestId.bind desk.db.identities.get? = none
  | .accept arrival => (desk.receiptOf arrival).isSome

instance (desk : Desk ι) : (next : Turn ι) → Decidable (desk.Allows arrivals next)
  | .record arrival => inferInstanceAs (Decidable (desk.receiptOf arrival = none ∧
      (arrivals arrival).delivery.canonicalRequestId.bind desk.db.identities.get? = none))
  | .accept arrival => inferInstanceAs (Decidable ((desk.receiptOf arrival).isSome = true))

end Desk

/-- The generated identifiers are new. -/
def Unused (env : Surroundings) (db : Database) : Prop :=
  ∀ attempt, db.receipts.get? (env.uuid4 attempt) = none ∧ db.jobs.get? (env.uuid4 attempt) = none

/-- Finite runs of a reception that starts without receipts. -/
inductive Desk.Run (start : Database) : List (Turn ι) → Desk ι → Prop where
  | start : Run start [] { db := start }
  | turn {turns : List (Turn ι)} {desk : Desk ι} (before : Run start turns desk)
      (env : Surroundings) (unused : Unused env desk.db) (next : Turn ι)
      (allowed : desk.Allows arrivals next) :
      Run start (turns ++ [next]) (desk.turn arrivals env next)

namespace Book

/-- The packet of a session under a source key. -/
def find (book : Book ι) (source : Int × Int × Int) : Option (BookEntry ι) :=
  book.entries.find? fun entry => (arrivals entry.source).values.sourceKey = source

/-- A delivery in a new standing. -/
def settle (book : Book ι) (arrival : ι) (standing : Standing ι) : Book ι :=
  { book with standing := Function.update book.standing arrival (some standing) }

/-- A new standing replaces that of its delivery. -/
@[simp] theorem settle_standing (book : Book ι) (arrival : ι) (standing : Standing ι) :
    (book.settle arrival standing).standing =
      Function.update book.standing arrival (some standing) := rfl

/-- A delivery that brings a new packet. -/
def enter (book : Book ι) (arrival : ι) (disposition : PacketDisposition) (missingBefore : Int) :
    Book ι where
  entries := book.entries ++ [⟨arrival, disposition, missingBefore⟩]
  state := some
    (Database.stateAfter (arrivals arrival).values disposition missingBefore book.state)
  standing := Function.update book.standing arrival (some .accepted)

/-- The acceptance of a delivery. -/
def accept (book : Book ι) (arrival : ι) : Book ι :=
  match book.standing arrival with
  | some .pending =>
    match book.find arrivals (arrivals arrival).values.sourceKey with
    | some entry =>
      if (arrivals entry.source).delivery.rawBody = (arrivals arrival).delivery.rawBody then
        book.settle arrival (.duplicate entry.source)
      else book.settle arrival (.conflict entry.source)
    | none =>
      match sequencePosition (arrivals arrival).values.sequenceNumber book.state with
      | some (disposition, missingBefore) => book.enter arrivals arrival disposition missingBefore
      -- The mark of a session always has its packet, so a new packet never stands on it.
      | none => book
  | _ => book

/-- A turn of the session itself. -/
def turn (book : Book ι) : Turn ι → Book ι
  | .record arrival => book.settle arrival .pending
  | .accept arrival => book.accept arrivals arrival

/-- The turns that are about deliveries of a session. -/
def own (session : Int × Int) (turns : List (Turn ι)) : List (Turn ι) :=
  turns.filter fun turn => (arrivals turn.arrival).session = session

/-- The book of a session after a run. -/
def after (session : Int × Int) (turns : List (Turn ι)) : Book ι :=
  (own arrivals session turns).foldl (turn arrivals) {}

end Book

end

end Cislunar
