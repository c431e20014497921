import Cislunar.Proofs.Services.Identifiers
import Cislunar.Services.Schedule

/-!
The two checks of credentials, over every header value.

A credential is compared in constant time, and the comparison refuses texts outside ASCII with an
exception of its own; apart from that, each role has one credential and no other.
-/

namespace Cislunar

open Foundation

/-- A text of ASCII characters. -/
def IsAscii (text : String) : Prop := text.toList.all (·.toNat < 128)

instance (text : String) : Decidable (IsAscii text) := inferInstanceAs (Decidable (_ = true))

/-- ASCII texts are compared. -/
theorem compareDigest_ascii {first second : String} (left : IsAscii first) (right : IsAscii second) :
    compareDigest first second = .ok (first = second) := by
  -- Two ASCII texts are compared as they are.
  rw [compareDigest, if_pos ⟨left, right⟩]

/-- A text outside ASCII is not compared with anything. -/
theorem compareDigest_foreign {first : String} (foreign : ¬IsAscii first) (second : String) :
    compareDigest first second =
      .error (.type "comparing strings with non-ASCII characters is not supported") := by
  -- One text outside ASCII is enough for the exception.
  rw [compareDigest, if_neg]
  exact fun both => foreign both.1

/-- The condition on which `receive_payload_data` goes on. -/
def vendorAuthenticated (presented : Option String) (settings : GroundSettings) :
    Except Failure Bool :=
  match presented with
  | none => .ok false
  | some token => compareDigest token settings.vendorToken

/-- The handler goes on, refuses or raises as its condition says. -/
theorem receivePayloadData_checked (settings : GroundSettings) (request : VendorRequest) :
    receivePayloadData settings request =
      match vendorAuthenticated request.vendorToken settings with
      | .ok true => receiveAuthenticated settings request
      | .ok false => refuseVendor request
      | .error failure => .raise failure := by
  -- The handler compares where the header is present; the comparison answers or raises.
  unfold receivePayloadData vendorAuthenticated
  cases request.vendorToken with
  | none => rfl
  | some token =>
    dsimp only
    cases compareDigest token settings.vendorToken with
    | error failure => rfl
    | ok same => cases same <;> rfl

/-- Recording an audit event never raises: every error of it is one of the database. -/
theorem auditSafely_returns (event : TelemetryAuditEvent) {before after : Ground}
    {outcome : Except Failure Unit}
    (run : Runs Ground.Replies (auditSafely event) before outcome after) : outcome = .ok () := by
  -- An error can only come from the call, and every error of the database is caught.
  rw [auditSafely] at run
  rcases run.of_tryCatch with ⟨value, rfl, -⟩ | ⟨error, middle, recorded, handled⟩
  · rfl
  · rcases recorded.of_bind with ⟨_, same, call⟩ | ⟨value, _, _, finished⟩
    · cases same
      obtain ⟨uuid4, fault, between, performed⟩ := call.of_call
      rcases (Ground.perform_repository performed).2 with unreachable | ⟨-, reply⟩
      · cases unreachable
        cases handled
        rfl
      · cases reply
    · cases finished

/-- A refused vendor is answered 401, whatever happens to the audit record. -/
theorem refuseVendor_unauthorized (request : VendorRequest) {before after : Ground}
    {outcome : Except Failure Response}
    (run : Runs Ground.Replies (refuseVendor request) before outcome after) :
    ∃ response, outcome = .ok response ∧ response.statusCode = 401 := by
  -- The audit never raises, so the response behind it is reached.
  rw [refuseVendor] at run
  rcases run.of_bind with ⟨failure, rfl, audited⟩ | ⟨value, middle, audited, answered⟩
  · cases auditSafely_returns _ audited
  · cases answered
    exact ⟨_, rfl, rfl⟩

/-- The characters after `Bearer `. -/
theorem bearer_prefix_iff {text : String} :
    "Bearer ".toList.isPrefixOf text.toList = true ↔ ∃ token : String, text = "Bearer " ++ token := by
  -- What follows the prefix is the token.
  rw [List.isPrefixOf_iff_prefix]
  constructor
  · rintro ⟨rest, same⟩
    refine ⟨String.ofList rest, ?_⟩
    apply String.toList_inj.mp
    rw [← same]
    simp
  · rintro ⟨token, rfl⟩
    exact ⟨token.toList, (String.toList_append ..).symm⟩

/-- A credential behind `Bearer ` is compared with both tokens in turn. -/
theorem bearerIdentity_bearer (token : String) (settings : GroundSettings) :
    bearerIdentity (some ("Bearer " ++ token)) settings = (do
      let operator ← (compareDigest token settings.operatorToken).mapError .failure
      if operator then return .operator
      let administrator ← (compareDigest token settings.adminToken).mapError .failure
      if administrator then return .administrator
      .error (unauthorized "invalid bearer credential")) := by
  -- The slice behind the prefix gives the token back.
  have taken : ("Bearer " ++ token).toList.drop "Bearer ".length = token.toList := by
    rw [String.toList_append]
    exact List.drop_left
  have marked : "Bearer ".toList.isPrefixOf ("Bearer " ++ token).toList = true :=
    bearer_prefix_iff.mpr ⟨token, rfl⟩
  rw [bearerIdentity]
  dsimp only
  rw [marked, taken, String.ofList_toList]
  rfl

/-- A header without a bearer credential is refused. -/
theorem bearerIdentity_missing {authorization : Option String} (settings : GroundSettings)
    (missing : ∀ token : String, authorization ≠ some ("Bearer " ++ token)) :
    bearerIdentity authorization settings = .error (unauthorized "missing bearer credential") := by
  -- No text has the prefix, by the lemma on prefixes.
  cases authorization with
  | none => rfl
  | some text =>
    have unmarked : "Bearer ".toList.isPrefixOf text.toList = false := by
      rw [← Bool.not_eq_true, bearer_prefix_iff]
      rintro ⟨token, rfl⟩
      exact missing token rfl
    rw [bearerIdentity]
    dsimp only
    rw [unmarked]
    rfl

/-- Settings whose three tokens are ASCII texts. -/
structure AsciiTokens (settings : GroundSettings) : Prop where
  vendor : IsAscii settings.vendorToken
  operator : IsAscii settings.operatorToken
  admin : IsAscii settings.adminToken

/-- An ASCII credential names the role whose token it is. -/
theorem bearerIdentity_ascii {settings : GroundSettings} (tokens : AsciiTokens settings)
    {token : String} (ascii : IsAscii token) :
    bearerIdentity (some ("Bearer " ++ token)) settings =
      if token = settings.operatorToken then .ok .operator
      else if token = settings.adminToken then .ok .administrator
      else .error (unauthorized "invalid bearer credential") := by
  -- Both comparisons succeed, as all three texts are ASCII.
  rw [bearerIdentity_bearer, compareDigest_ascii ascii tokens.operator,
    compareDigest_ascii ascii tokens.admin]
  by_cases operator : token = settings.operatorToken
  · simp [operator, Except.mapError, bind, Except.bind, pure, Except.pure]
  · by_cases administrator : token = settings.adminToken
    · simp [administrator, Except.mapError, bind, Except.bind, pure, Except.pure]
    · simp [operator, administrator, Except.mapError, bind, Except.bind]

/-- A credential outside ASCII raises `TypeError`. -/
theorem bearerIdentity_foreign {token : String} (foreign : ¬IsAscii token)
    (settings : GroundSettings) : bearerIdentity (some ("Bearer " ++ token)) settings =
      .error (.failure
        (.type "comparing strings with non-ASCII characters is not supported")) := by
  -- The token is compared before anyone is identified.
  rw [bearerIdentity_bearer, compareDigest_foreign foreign]
  rfl

/-- The roles that a credential can be valid for. -/
inductive Credential where
  | vendor
  | operator
  | administrator
  deriving DecidableEq, Repr

/-- The token of a role. -/
def GroundSettings.tokenOf (settings : GroundSettings) : Credential → String
  | .vendor => settings.vendorToken
  | .operator => settings.operatorToken
  | .administrator => settings.adminToken

/-- A text is the credential of a role. -/
def ValidFor (settings : GroundSettings) (text : String) : Credential → Prop
  | .vendor => vendorAuthenticated (some text) settings = .ok true
  | .operator => bearerIdentity (some ("Bearer " ++ text)) settings = .ok .operator
  | .administrator => bearerIdentity (some ("Bearer " ++ text)) settings = .ok .administrator

/-- What authentication owes to the header values of one request. -/
structure Authenticated (settings : GroundSettings) (request : VendorRequest)
    (authorization : Option String) : Prop where
  vendorProceeds : request.vendorToken = some settings.vendorToken →
    receivePayloadData settings request = receiveAuthenticated settings request
  vendorRefused : request.vendorToken ≠ some settings.vendorToken →
    receivePayloadData settings request = refuseVendor request ∧
      ∀ before outcome after,
        Runs Ground.Replies (receivePayloadData settings request) before outcome after →
          ∃ response, outcome = .ok response ∧ response.statusCode = 401
  operator : bearerIdentity authorization settings = .ok .operator ↔
    authorization = some ("Bearer " ++ settings.operatorToken)
  administrator : bearerIdentity authorization settings = .ok .administrator ↔
    authorization = some ("Bearer " ++ settings.adminToken)
  unauthorized : authorization ≠ some ("Bearer " ++ settings.operatorToken) →
    authorization ≠ some ("Bearer " ++ settings.adminToken) →
      ∃ exception, bearerIdentity authorization settings = .error (.http exception) ∧
        exception.statusCode = 401
  separate : ∀ (text : String) (first second : Credential), ValidFor settings text first →
    ValidFor settings text second → first = second

/-- Both credentials that a request presents are ASCII texts. -/
structure AsciiCredentials (request : VendorRequest) (authorization : Option String) : Prop where
  vendor : ∀ token, request.vendorToken = some token → IsAscii token
  bearer : ∀ token, authorization = some ("Bearer " ++ token) → IsAscii token

section
variable {settings : GroundSettings} (tokens : AsciiTokens settings)
include tokens

/-- Only the token of a role is valid for it. -/
theorem validFor_iff {text : String} {role : Credential} :
    ValidFor settings text role ↔ text = settings.tokenOf role := by
  by_cases ascii : IsAscii text
  · cases role with
    | vendor =>
      rw [ValidFor, vendorAuthenticated, compareDigest_ascii ascii tokens.vendor]
      simp [GroundSettings.tokenOf]
    | operator =>
      rw [ValidFor, bearerIdentity_ascii tokens ascii]
      split_ifs with operator administrator <;> simp [GroundSettings.tokenOf, operator]
    | administrator =>
      have distinct := settings.tokensDistinct
      rw [ValidFor, bearerIdentity_ascii tokens ascii]
      split_ifs with operator administrator
      · simp_all [GroundSettings.tokenOf]
      · simp [GroundSettings.tokenOf, administrator]
      · simp [GroundSettings.tokenOf, administrator]
  · -- Whatever is not compared is not valid for anything, and no token is outside ASCII.
    have other : text ≠ settings.tokenOf role := by
      rintro rfl
      cases role with
      | vendor => exact ascii tokens.vendor
      | operator => exact ascii tokens.operator
      | administrator => exact ascii tokens.admin
    cases role with
    | vendor => simp [ValidFor, vendorAuthenticated, compareDigest_foreign ascii, other]
    | operator => simp [ValidFor, bearerIdentity_foreign ascii, other]
    | administrator => simp [ValidFor, bearerIdentity_foreign ascii, other]

omit tokens in
/-- Roles have different tokens. -/
theorem tokenOf_injective : Function.Injective settings.tokenOf := by
  -- The settings keep their tokens distinct.
  have distinct := settings.tokensDistinct
  intro first second same
  cases first <;> cases second <;> simp_all [GroundSettings.tokenOf]

/-- The vendor's check tells its token from every other ASCII text, and from a missing one. -/
theorem vendorAuthenticated_ascii {presented : Option String}
    (ascii : ∀ token, presented = some token → IsAscii token) :
    vendorAuthenticated presented settings = .ok (presented = some settings.vendorToken) := by
  -- A missing header is told apart before any comparison.
  cases presented with
  | none => rfl
  | some token =>
    rw [vendorAuthenticated, compareDigest_ascii (ascii token rfl) tokens.vendor]
    simp

/-- An ASCII bearer credential is valid for one role, or refused. -/
theorem bearerIdentity_eq {authorization : Option String}
    (ascii : ∀ token, authorization = some ("Bearer " ++ token) → IsAscii token) :
    ∃ detail, bearerIdentity authorization settings =
      if authorization = some ("Bearer " ++ settings.operatorToken) then .ok .operator
      else if authorization = some ("Bearer " ++ settings.adminToken) then .ok .administrator
      else .error (unauthorized detail) := by
  -- The detail of the refusal depends on whether there is a bearer credential at all.
  by_cases bearer : ∃ token : String, authorization = some ("Bearer " ++ token)
  · obtain ⟨token, rfl⟩ := bearer
    refine ⟨"invalid bearer credential", ?_⟩
    rw [bearerIdentity_ascii tokens (ascii token rfl)]
    simp
  · rw [not_exists] at bearer
    refine ⟨"missing bearer credential", ?_⟩
    rw [bearerIdentity_missing settings bearer, if_neg (bearer _), if_neg (bearer _)]

/-- ASCII credentials are told apart exactly. -/
theorem authenticated_of_ascii {request : VendorRequest} {authorization : Option String}
    (ascii : AsciiCredentials request authorization) :
    Authenticated settings request authorization := by
  -- Each part reads one of the two equations; the last needs that the tokens differ by role.
  obtain ⟨detail, identity⟩ := bearerIdentity_eq tokens ascii.bearer
  have vendor := vendorAuthenticated_ascii tokens ascii.vendor
  have roles : settings.operatorToken ≠ settings.adminToken := fun same =>
    absurd (@tokenOf_injective settings .operator .administrator same) (by decide)
  refine ⟨fun same => ?_, fun other => ?_, ?_, ?_, fun operator administrator => ?_, ?_⟩
  · rw [receivePayloadData_checked, vendor]
    simp [same]
  · have refused : receivePayloadData settings request = refuseVendor request := by
      rw [receivePayloadData_checked, vendor]
      simp [other]
    rw [refused]
    exact ⟨rfl, fun _ _ _ run => refuseVendor_unauthorized request run⟩
  · rw [identity]
    split_ifs with operator administrator <;> simp [operator]
  · rw [identity]
    split_ifs with operator administrator
    · simp [operator, roles]
    · simp [administrator]
    · simp [administrator]
  · rw [identity, if_neg operator, if_neg administrator]
    exact ⟨_, rfl, rfl⟩
  · intro text first second valid also
    exact tokenOf_injective (((validFor_iff tokens).mp valid).symm.trans
      ((validFor_iff tokens).mp also))

/-- A credential outside ASCII is answered by no 401. -/
theorem ascii_of_authenticated {request : VendorRequest} {authorization : Option String}
    (authenticated : Authenticated settings request authorization) :
    AsciiCredentials request authorization := by
  -- A credential outside ASCII raises, while what is proved of it wants an answer of 401.
  refine ⟨fun token presented => ?_, fun token presented => ?_⟩
  · by_contra foreign
    have other : request.vendorToken ≠ some settings.vendorToken := by
      rw [presented, ne_eq, Option.some.injEq]
      rintro rfl
      exact foreign tokens.vendor
    have raised : receivePayloadData settings request =
        .raise (.type "comparing strings with non-ASCII characters is not supported") := by
      rw [receivePayloadData_checked, presented, vendorAuthenticated, compareDigest_foreign foreign]
    have refused := (authenticated.vendorRefused other).2
    rw [raised] at refused
    obtain ⟨response, answered, -⟩ := refused _ _ _ (.raise _ { clock := 0 })
    cases answered
  · by_contra foreign
    have different : ∀ other, IsAscii other → authorization ≠ some ("Bearer " ++ other) := by
      rintro other ascii rfl
      have same : other = token := by simpa using presented
      exact foreign (same ▸ ascii)
    obtain ⟨exception, raised, -⟩ := authenticated.unauthorized
      (different _ tokens.operator) (different _ tokens.admin)
    rw [presented, bearerIdentity_foreign foreign] at raised
    cases raised

/--
Authentication is total and separates the roles, except for credentials outside ASCII.

For ASCII tokens it meets its contract on exactly the requests whose vendor token, and whose text
behind `Bearer `, are ASCII texts; on any other one the comparison raises `TypeError`.
-/
theorem authenticated_iff (request : VendorRequest) (authorization : Option String) :
    Authenticated settings request authorization ↔ AsciiCredentials request authorization :=
  ⟨ascii_of_authenticated tokens, authenticated_of_ascii tokens⟩

end

/-- The tokens of the sample are ASCII. -/
theorem sampleSettings_tokens : AsciiTokens sampleSettings :=
  ⟨by decide, by decide, by decide⟩

/-- The sample request and its administrator are told apart from everyone else. -/
theorem sample_authenticated :
    Authenticated sampleSettings (sampleRequest []) (some "Bearer admin") :=
  (authenticated_iff sampleSettings_tokens _ _).mpr
    ⟨fun token presented => by cases presented; decide,
      fun token presented => by
        have whole : "Bearer " ++ "admin" = "Bearer " ++ token := Option.some.inj presented
        rw [← String.append_right_inj _ |>.mp whole]
        decide⟩

/-- An accented letter in either credential raises `TypeError` where 401 is due. -/
theorem accented_credentials_raise :
    receivePayloadData sampleSettings { sampleRequest [] with vendorToken := some "é" } =
        .raise (.type "comparing strings with non-ASCII characters is not supported") ∧
      bearerIdentity (some "Bearer é") sampleSettings = .error (.failure
        (.type "comparing strings with non-ASCII characters is not supported")) ∧
      ¬Authenticated sampleSettings { sampleRequest [] with vendorToken := some "é" } none ∧
      ¬Authenticated sampleSettings (sampleRequest []) (some "Bearer é") := by
  -- The first two parts are evaluated; the others follow from the necessity of ASCII.
  have foreign : ¬IsAscii "é" := by decide
  refine ⟨rfl, by decide, fun authenticated => ?_, fun authenticated => ?_⟩
  · exact foreign ((ascii_of_authenticated sampleSettings_tokens authenticated).vendor "é" rfl)
  · exact foreign ((ascii_of_authenticated sampleSettings_tokens authenticated).bearer "é" rfl)

end Cislunar
