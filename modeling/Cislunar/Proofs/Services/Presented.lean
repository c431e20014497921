import Cislunar.Proofs.Telemetry.Evidence
import Cislunar.Services.Schedule

/-!
What a request of the vendor presents, and what it deserves: the first rule that it breaks, or the
packet that its body decodes to.
-/

namespace Cislunar

open Foundation

/-- The bytes of the body stream. -/
def VendorRequest.body (request : VendorRequest) : Bytes := request.chunks.flatten

/-- The reason for which bytes that are received at some time are rejected. -/
def bytesComplaint (raw : Bytes) (receivedAt : Time) : Option String :=
  match decodeTelemetry zlibCrc32 raw (.utc receivedAt) with
  | .error (.validation reason _) => some reason.value
  | _ => none

/-- What a request that is received at some time is rejected for, in the order of the checks. -/
def VendorRequest.complaint (vendor : VendorRequest) (receivedAt : Time) : Option String :=
  if !isOctetStream vendor.contentType then some "INVALID_CONTENT_TYPE"
  else if (canonicalUuid4 vendor.requestId).isNone then some "INVALID_REQUEST_ID"
  else bytesComplaint vendor.body receivedAt

/-- The body of a request decodes, at some time of receipt, to a frame with an identifier. -/
def VendorRequest.Brings (vendor : VendorRequest) (receivedAt : Time) (packetId : String) : Prop :=
  ∃ frame, decodeTelemetry zlibCrc32 vendor.body (.utc receivedAt) = .ok frame ∧
    (telemetryValues frame).packetId = packetId

/-- A receipt holds the body and the identifier of a request. -/
structure VendorRequest.Brought (vendor : VendorRequest) (row : TelemetryDeliveryReceipt) :
    Prop where
  body : vendor.body = row.rawBody
  requestId : canonicalUuid4 vendor.requestId = row.canonicalRequestId

/-- What is presented with a receipt is part of its evidence. -/
theorem VendorRequest.Brought.congr {vendor : VendorRequest} {row old : TelemetryDeliveryReceipt}
    (brought : vendor.Brought old) (same : old.evidence = row.evidence) : vendor.Brought row where
  body := brought.body.trans (congrArg (·.rawBody) same)
  requestId := brought.requestId.trans (congrArg (·.canonicalRequestId) same)

/-- A request with a wrong header is rejected for it, whatever its body is. -/
theorem VendorRequest.complaint_untyped {vendor : VendorRequest}
    (untyped : (!isOctetStream vendor.contentType) = true) (receivedAt : Time) :
    vendor.complaint receivedAt = some "INVALID_CONTENT_TYPE" := by
  -- The content type is checked first.
  rw [VendorRequest.complaint, if_pos untyped]

/-- A request without an identifier is rejected for that, whatever its body is. -/
theorem VendorRequest.complaint_unidentified {vendor : VendorRequest}
    (typed : ¬(!isOctetStream vendor.contentType) = true)
    (unidentified : (canonicalUuid4 vendor.requestId).isNone = true) (receivedAt : Time) :
    vendor.complaint receivedAt = some "INVALID_REQUEST_ID" := by
  -- The identifier is checked after the content type.
  rw [VendorRequest.complaint, if_neg typed, if_pos unidentified]

/-- With both headers in order the body alone decides. -/
theorem VendorRequest.complaint_of_headers {vendor : VendorRequest}
    (typed : ¬(!isOctetStream vendor.contentType) = true)
    (identified : ¬(canonicalUuid4 vendor.requestId).isNone = true) (receivedAt : Time) :
    vendor.complaint receivedAt = bytesComplaint vendor.body receivedAt := by
  -- Both headers pass, so only the bytes can be complained about.
  rw [VendorRequest.complaint, if_neg typed, if_neg identified]

/-- The chunks that were read are the body, and they fit within the bound. -/
theorem readChunks_eq {maximum : Nat} {start rawBody : Bytes} {chunks : List Bytes}
    (short : start.length ≤ maximum) (read : readChunks maximum start chunks = some rawBody) :
    rawBody = start ++ chunks.flatten ∧ rawBody.length ≤ maximum := by
  -- By induction on the chunks, from any start within the bound.
  induction chunks generalizing start with
  | nil =>
    cases read
    exact ⟨(List.append_nil _).symm, short⟩
  | cons chunk rest ih =>
    rw [readChunks] at read
    split_ifs at read with long
    obtain ⟨same, bounded⟩ := ih (Nat.le_of_not_lt long) read
    rw [List.flatten_cons, ← List.append_assoc]
    exact ⟨same, bounded⟩

/-- A bounded body is the whole body within the bound, and any other body is refused. -/
theorem boundedBody_spec (vendor : VendorRequest) (maximum : Nat) :
    boundedBody vendor maximum = .ok vendor.body ∧ vendor.body.length ≤ maximum ∨
      ∃ statusCode, boundedBody vendor maximum = .error statusCode ∧
        (statusCode = 413 ∨ statusCode = 400) := by
  -- The chunks decide the answer unless the declared length refuses it before they are read.
  cases read : readChunks maximum [] vendor.chunks with
  | none =>
    rw [boundedBody, read]
    refine Or.inr ?_
    split
    · exact ⟨413, rfl, Or.inl rfl⟩
    · split
      · exact ⟨400, rfl, Or.inr rfl⟩
      · split_ifs
        · exact ⟨413, rfl, Or.inl rfl⟩
        · exact ⟨413, rfl, Or.inl rfl⟩
  | some rawBody =>
    obtain ⟨rfl, bounded⟩ := readChunks_eq (Nat.zero_le _) read
    rw [boundedBody, read]
    split
    · exact Or.inl ⟨rfl, bounded⟩
    · split
      · exact Or.inr ⟨400, rfl, Or.inr rfl⟩
      · split_ifs
        · exact Or.inr ⟨413, rfl, Or.inl rfl⟩
        · exact Or.inl ⟨rfl, bounded⟩

/-- A body that is no longer than the cap and declared correctly is read as a whole. -/
theorem boundedBody_eq {request : VendorRequest} {maximum : Nat}
    (short : request.body.length ≤ maximum) (declared : ∀ text, request.contentLength = some text →
      intBase10 text.toList = some (request.body.length : Int)) :
    boundedBody request maximum = .ok request.body := by
  -- The chunks are added to what was read before, so the induction speaks of any beginning.
  have reads : ∀ (chunks : List Bytes) (start : Bytes), (start ++ chunks.flatten).length ≤ maximum →
      readChunks maximum start chunks = some (start ++ chunks.flatten) := by
    intro chunks
    induction chunks with
    | nil =>
      intro start _
      rw [readChunks, List.flatten_nil, List.append_nil]
    | cons chunk rest ih =>
      intro start fits
      rw [List.flatten_cons, ← List.append_assoc] at fits ⊢
      have head : (start ++ chunk).length ≤ maximum := by
        rw [List.length_append] at fits
        omega
      rw [readChunks, if_neg (by omega), ih _ fits]
  have read := reads request.chunks [] short
  rw [boundedBody, read]
  cases header : request.contentLength with
  | none => rfl
  | some text =>
    dsimp only
    rw [declared text header]
    exact if_neg (by omega)

/-- A body that was read within the bound is the body of the request. -/
theorem body_of_boundedBody {vendor : VendorRequest} {maximum : Nat} {rawBody : Bytes}
    (read : boundedBody vendor maximum = .ok rawBody) : rawBody = vendor.body := by
  -- A body that was read is the whole one.
  rcases boundedBody_spec vendor maximum with ⟨same, -⟩ | ⟨statusCode, refused, -⟩
  · exact Except.ok.inj (read.symm.trans same)
  · cases read.symm.trans refused

/-- Tokens that compare equal are equal. -/
theorem compareDigest_eq_true {token expected : String}
    (agrees : compareDigest token expected = .ok true) : token = expected := by
  -- A comparison that did not raise is one of texts.
  rw [compareDigest] at agrees
  split_ifs at agrees
  exact of_decide_eq_true (Except.ok.inj agrees)

/-- Tokens that compare different are different. -/
theorem compareDigest_eq_false {token expected : String}
    (differs : compareDigest token expected = .ok false) : token ≠ expected := by
  -- A comparison that did not raise is one of texts.
  rw [compareDigest] at differs
  split_ifs at differs
  exact of_decide_eq_false (Except.ok.inj differs)

/-- A process that presents one of certain requests wherever it presents the right token. -/
def Process.Presents (vendors : VendorRequest → Prop) : Process → Prop
  | gateway settings vendor => vendor.vendorToken = some settings.vendorToken → vendors vendor
  | startup | worker _ _ => True

/-- Every process presents some request, if any. -/
theorem Process.presents_any (process : Process) : process.Presents fun _ => True := by
  -- Nothing is asked of the request.
  cases process with
  | gateway settings vendor => exact fun _ => trivial
  | startup | worker => trivial

end Cislunar
