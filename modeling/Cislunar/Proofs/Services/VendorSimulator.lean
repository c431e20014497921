import Cislunar.Proofs.Runtime.Decimal
import Cislunar.Proofs.Services.Deliveries
import Cislunar.Proofs.Telemetry.PacketId
import Cislunar.Services.VendorSimulator
import Mathlib.Data.Prod.Lex

/-!
The payload simulator never uses a pair of boot identifier and sequence number twice.

A session begins above everything that was persisted, and a number is used up before its frame is
made; calls that raise and processes that end in between only leave gaps.
-/

namespace Cislunar

open Foundation

/-- The numbers of an identifier are natural. -/
theorem ValidFields.naturals {frame : TelemetryFrame OperatingMode} (valid : ValidFields frame) :
    0 ≤ frame.payloadId ∧ 0 ≤ frame.bootId ∧ 0 ≤ frame.sequenceNumber := by
  -- Each field has a lower bound of its own, and none is below zero.
  have payload := valid.payload
  have boot := valid.boot
  rw [supportedPayloadId] at payload
  exact ⟨by omega, by omega, valid.sequence.1⟩

/-- A text without carriage returns is read as it is. -/
theorem universalNewlines_eq_self {text : List Char} (free : '\r' ∉ text) :
    universalNewlines text = text := by
  induction text with
  | nil => rfl
  | cons char rest ih =>
    have plain : char ≠ '\r' := fun same => free (same ▸ List.mem_cons_self)
    -- The first two branches translate a line end that begins with a carriage return.
    rw [universalNewlines.eq_def]
    split
    · next same => exact absurd (List.cons.inj same).1 plain
    · next same => exact absurd (List.cons.inj same).1 plain
    · next same =>
      obtain ⟨rfl, rfl⟩ := List.cons.inj same
      rw [ih fun member => free (List.mem_cons_of_mem _ member)]
    · next same => cases same

/-- The text of a boot identifier is read as it was written. -/
theorem decodeAscii_bootText {value : Int} (natural : 0 ≤ value) :
    decodeAscii (bootText value) = some (formatDecimal 1 value ++ ['\n']) := by
  -- Digits and the line end are ASCII, so a byte stands for each of them.
  have ascii : ∀ char ∈ formatDecimal 1 value ++ ['\n'], UInt8.ofNat char.toNat < 128 ∧
      Char.ofNat (UInt8.ofNat char.toNat).toNat = char := by
    intro char member
    rcases List.mem_append.mp member with digit | newline
    · exact ((formatDecimal_one natural).2 char digit).forall (P := fun char =>
        UInt8.ofNat char.toNat < 128 ∧ Char.ofNat (UInt8.ofNat char.toNat).toNat = char) (by decide)
    · rw [List.mem_singleton.mp newline]
      decide
  rw [decodeAscii, bootText, if_pos, List.map_map]
  · congr 1
    conv_rhs => rw [← List.map_id (formatDecimal 1 value ++ ['\n'])]
    exact List.map_congr_left fun char member => (ascii char member).2
  · simp only [List.all_map, List.all_eq_true, Function.comp, decide_eq_true_eq]
    exact fun char member => (ascii char member).1

/-- Stripping takes the line end off the text of a boot identifier. -/
theorem strip_bootText {value : Int} (natural : 0 ≤ value) :
    strip (formatDecimal 1 value ++ ['\n']) = formatDecimal 1 value := by
  -- There is no space in front, and behind there is the line end and then a digit.
  obtain ⟨filled, digits⟩ := formatDecimal_one natural
  have spaces : ∀ char ∈ formatDecimal 1 value, unicodeSpace char = false := fun char member =>
    (digits char member).forall (P := fun char => unicodeSpace char = false) (by decide)
  obtain ⟨first, rest, shape⟩ := List.exists_cons_of_ne_nil filled
  have front : (formatDecimal 1 value ++ ['\n']).dropWhile unicodeSpace =
      formatDecimal 1 value ++ ['\n'] := by
    rw [shape, List.cons_append, List.dropWhile_cons_of_neg]
    rw [spaces first (by simp [shape])]
    simp
  rw [strip, front, List.reverse_append, List.reverse_singleton, List.singleton_append,
    List.dropWhile_cons_of_pos (by decide), dropWhile_eq_self fun char member =>
      spaces char (List.mem_reverse.mp member), List.reverse_reverse]

/-- A persisted boot identifier is found again. -/
theorem previousBootId_bootText {value : Int} (range : 0 ≤ value ∧ value ≤ uint32Max) :
    previousBootId (some (bootText value)) = .ok value := by
  obtain ⟨natural, bounded⟩ := range
  obtain ⟨filled, digits⟩ := formatDecimal_one natural
  have free : '\r' ∉ formatDecimal 1 value ++ ['\n'] := by
    intro member
    rcases List.mem_append.mp member with digit | newline
    · exact (digits _ digit).forall (P := fun char => char ≠ '\r') (by decide) rfl
    · cases List.mem_singleton.mp newline
  -- Ten digits are far below the limit of the interpreter.
  have short : (formatDecimal 1 value).length ≤ 4300 := by
    have few : (Nat.digits 10 value.natAbs).length ≤ 10 := by
      rw [Nat.digits_length_le_iff (by decide)]
      rw [uint32Max] at bounded
      omega
    rw [formatDecimal, formatInt, if_neg (by omega)]
    simp only [Digits.zeroPad, Digits.spell, List.length_append, List.length_replicate,
      List.length_map, List.length_reverse]
    omega
  simp only [previousBootId, decodeAscii_bootText natural, universalNewlines_eq_self free,
    strip_bootText natural, if_neg filled, intBase10_formatDecimal natural short]

/-- The pair that identifies a frame; boot identifiers are compared first. -/
def TelemetryFrame.identity {Mode : Type} (frame : TelemetryFrame Mode) : Int ×ₗ Int :=
  toLex (frame.bootId, frame.sequenceNumber)

/-- Boot identifiers are persisted in ascending order. -/
structure BootFile.Ascending (file : BootFile) : Prop where
  ascending : file.written.Pairwise (· < ·)
  bounds : ∀ bootId ∈ file.written, 1 ≤ bootId ∧ bootId ≤ uint32Max

/-- A boot identifier above all others may be persisted. -/
theorem BootFile.Ascending.replace {file : BootFile} (ordered : file.Ascending) {bootId : Int}
    (bounds : 1 ≤ bootId ∧ bootId ≤ uint32Max) (above : ∀ used ∈ file.written, used < bootId) :
    (file.replace bootId).Ascending where
  ascending := by
    apply List.pairwise_append.mpr
    -- The new identifier stands last and is the greatest.
    refine ⟨ordered.ascending, List.pairwise_singleton _ _, fun used member last same => ?_⟩
    rw [List.mem_singleton.mp same]
    exact above used member
  bounds := by
    intro used member
    rcases List.mem_append.mp member with old | new
    · exact ordered.bounds used old
    · rw [List.mem_singleton.mp new]
      exact bounds

/-- What the file tells is at least every boot identifier that was persisted. -/
theorem BootFile.Ascending.le_previous {file : BootFile} (ordered : file.Ascending) {previous : Int}
    (read : previousBootId file.content = .ok previous) : ∀ used ∈ file.written, used ≤ previous := by
  intro used member
  rcases List.eq_nil_or_concat file.written with empty | ⟨earlier, last, shape⟩
  · rw [empty] at member
    cases member
  · rw [List.concat_eq_append] at shape
    have among : last ∈ file.written := by simp [shape]
    have range := ordered.bounds last among
    -- The file holds the last identifier, which is the greatest of all.
    have content : file.content = some (bootText last) := by
      rw [BootFile.content, shape, List.getLast?_concat]
    rw [content, previousBootId_bootText ⟨by omega, range.2⟩] at read
    obtain rfl : last = previous := Except.ok.inj read
    have ordering := ordered.ascending
    rw [shape] at member ordering
    rcases List.mem_append.mp member with old | new
    · exact ((List.pairwise_append.mp ordering).2.2 used old last (by simp)).le
    · exact (List.mem_singleton.mp new).le

/-- A process begins with a persisted boot identifier above all others. -/
theorem loadNextBootId_eq_ok {readable writable : Bool} {file replaced : BootFile} {bootId : Int}
    (ordered : file.Ascending)
    (loaded : loadNextBootId readable writable file = .ok (bootId, replaced)) :
    replaced = file.replace bootId ∧ (1 ≤ bootId ∧ bootId ≤ uint32Max) ∧
      ∀ used ∈ file.written, used < bootId := by
  rw [loadNextBootId, bind_eq_ok] at loaded
  obtain ⟨previous, read, rest⟩ := loaded
  -- A file that cannot be read ends the process before it has begun.
  have told : previousBootId file.content = .ok previous := by
    rw [BootFile.previous] at read
    split_ifs at read
    exact read
  split_ifs at rest with range
  rw [bind_eq_ok] at rest
  obtain ⟨written, persisted, same⟩ := rest
  cases same
  rw [BootFile.persist] at persisted
  split_ifs at persisted
  cases persisted
  refine ⟨rfl, ⟨by omega, by omega⟩, fun used member => ?_⟩
  have below := ordered.le_previous told used member
  omega

/-- An answer of `make_frame` carries the bytes and the identifier of a frame. -/
def Carries (frame : TelemetryFrame OperatingMode) (answer : Bytes × String) : Prop :=
  encodeTelemetry zlibCrc32 frame = .ok answer.1 ∧ frame.packetId = .ok answer.2

namespace PayloadSimulator

/-- The number that the next frame would take. -/
def position (simulator : PayloadSimulator) : Int ×ₗ Int :=
  toLex (simulator.bootId, simulator.nextSequence)

/-- A simulator stands at or above all that was persisted, and numbers only persisted sessions. -/
structure Follows (simulator : PayloadSimulator) (file : BootFile) : Prop where
  above : ∀ used ∈ file.written, used ≤ simulator.bootId
  bounded : 1 ≤ simulator.bootId ∧ simulator.bootId ≤ uint32Max
  natural : 0 ≤ simulator.nextSequence
  persisted : simulator.nextSequence ≤ uint32Max → simulator.bootId ∈ file.written

/-- A simulator and its file after a part of a call: nothing is forgotten, no position comes back. -/
structure Advances (simulator next : PayloadSimulator) (file replaced : BootFile) : Prop where
  follows : next.Follows replaced
  ordered : replaced.Ascending
  position : simulator.position ≤ next.position
  kept : ∀ used ∈ file.written, used ∈ replaced.written

variable {simulator next last : PayloadSimulator} {file replaced final : BootFile}

/-- The simulator advances in several steps. -/
theorem Advances.trans (first : Advances simulator next file replaced)
    (second : Advances next last replaced final) : Advances simulator last file final where
  follows := second.follows
  ordered := second.ordered
  position := first.position.trans second.position
  kept used member := second.kept used (first.kept used member)

/-- Numbers are skipped within a session. -/
theorem Follows.count (follows : simulator.Follows file) (ordered : file.Ascending) :
    Advances simulator { simulator with nextSequence := simulator.nextSequence + 1 } file file where
  follows := {
    above := follows.above
    bounded := follows.bounded
    natural := by
      have natural := follows.natural
      show 0 ≤ simulator.nextSequence + 1
      omega
    persisted := fun within => follows.persisted (by
      change simulator.nextSequence + 1 ≤ uint32Max at within
      omega) }
  ordered := ordered
  position := by
    -- The boot number stays, so the position grows with the sequence number.
    apply Prod.Lex.toLex_le_toLex.mpr
    refine Or.inr ⟨rfl, ?_⟩
    show simulator.nextSequence ≤ simulator.nextSequence + 1
    omega
  kept _ := id

/-- A session is left for one with the next boot identifier, where that can be persisted. -/
theorem Follows.roll (follows : simulator.Follows file) (ordered : file.Ascending) (writable : Bool) :
    let rolled := simulator.rollSessionIfNeeded writable file
    Advances simulator rolled.2.1 file rolled.2.2 ∧
      (rolled.1 = .ok () → rolled.2.1.nextSequence ≤ uint32Max) := by
  have still : Advances simulator simulator file file := ⟨follows, ordered, le_rfl, fun _ => id⟩
  dsimp only
  rw [rollSessionIfNeeded]
  -- A session with a number left stays; the last boot identifier has no successor.
  split_ifs with within exhausted
  · exact ⟨still, fun _ => within⟩
  · exact ⟨still, nofun⟩
  · have bounded := follows.bounded
    have above : ∀ used ∈ file.written, used < simulator.bootId + 1 := fun used member => by
      have below := follows.above used member
      omega
    -- A greater boot identifier is a later position, whatever the number is.
    have further : simulator.position < toLex (simulator.bootId + 1, simulator.nextSequence) ∧
        simulator.position < toLex (simulator.bootId + 1, 0) := by
      constructor <;> exact Prod.Lex.toLex_lt_toLex.mpr (Or.inl (by dsimp only; omega))
    cases writable with
    | false =>
      -- The file is as it was, and no frame is made before an identifier is persisted.
      refine ⟨⟨⟨fun used member => (above used member).le, ?_, follows.natural, fun within' => ?_⟩,
        ordered, further.1.le, fun _ => id⟩, nofun⟩
      · show 1 ≤ simulator.bootId + 1 ∧ simulator.bootId + 1 ≤ uint32Max
        omega
      · exact absurd within' within
    | true =>
      -- The new identifier is persisted before the first frame of its session.
      have range : 1 ≤ simulator.bootId + 1 ∧ simulator.bootId + 1 ≤ uint32Max := by omega
      refine ⟨⟨⟨fun used member => ?_, range, le_rfl, fun _ => ?_⟩, ordered.replace range above,
        further.2.le, fun used member => List.mem_append_left _ member⟩, fun _ => ?_⟩
      · rcases List.mem_append.mp member with old | new
        · exact (above used old).le
        · exact (List.mem_singleton.mp new).le
      · exact List.mem_append_right _ List.mem_cons_self
      · show (0 : Int) ≤ uint32Max
        decide

/-- A frame that a call has made, between the positions before and after the call. -/
structure Made (simulator next : PayloadSimulator) (replaced : BootFile) (answer : Bytes × String)
    (frame : TelemetryFrame OperatingMode) : Prop where
  carries : Carries frame answer
  persisted : frame.bootId ∈ replaced.written
  range : 0 ≤ frame.sequenceNumber ∧ frame.sequenceNumber ≤ uint32Max
  later : simulator.position ≤ frame.identity
  earlier : frame.identity < next.position

/-- The position before a frame that may have to skip a number. -/
theorem Follows.skip (follows : simulator.Follows file) (ordered : file.Ascending)
    (request : TelemetryRequest) : Advances simulator (simulator.skip request) file file := by
  -- A requested gap uses up a sequence number, and any other request changes nothing.
  rw [PayloadSimulator.skip]
  split_ifs
  · exact follows.count ordered
  · exact ⟨follows, ordered, le_rfl, fun _ => id⟩

/-- Every call advances the simulator, and a frame that it returns lies in between. -/
theorem Follows.makeFrame (follows : simulator.Follows file) (ordered : file.Ascending)
    (request : TelemetryRequest) (writable : Bool) (timestampUs : Int)
    {outcome : Except SimulatorError (Bytes × String)}
    (made : simulator.makeFrame request writable timestampUs file = (outcome, next, replaced)) :
    Advances simulator next file replaced ∧ ∀ answer, outcome = .ok answer →
      ∃ frame, Made simulator next replaced answer frame := by
  -- A call skips a number, rolls the session, counts the number and only then makes the frame.
  have skipped := follows.skip ordered request
  obtain ⟨rolls, ready⟩ := skipped.follows.roll skipped.ordered writable
  rw [PayloadSimulator.makeFrame] at made
  split at made
  next error rolled written same =>
    rw [same] at rolls
    cases made
    exact ⟨skipped.trans rolls, nofun⟩
  next rolled written same =>
    rw [same] at rolls ready
    cases made
    have within : rolled.nextSequence ≤ uint32Max := ready rfl
    have counted := rolls.follows.count rolls.ordered
    refine ⟨(skipped.trans rolls).trans counted, fun answer answered => ?_⟩
    -- The frame stands exactly where the session was after it had been rolled.
    refine ⟨rolled.frame request timestampUs, ?_, rolls.follows.persisted within,
      ⟨rolls.follows.natural, within⟩, skipped.position.trans rolls.position, ?_⟩
    · have both := of_mapError_eq_ok answered
      rw [bind_eq_ok] at both
      obtain ⟨raw, encoded, rest⟩ := both
      rw [bind_eq_ok] at rest
      obtain ⟨packetId, named, same⟩ := rest
      cases same
      exact ⟨encoded, named⟩
    -- The number of the frame is used up when the call ends.
    · apply Prod.Lex.toLex_lt_toLex.mpr
      refine Or.inr ⟨rfl, ?_⟩
      show rolled.nextSequence < rolled.nextSequence + 1
      omega

end PayloadSimulator

namespace PayloadHost

/-- The frames that calls have returned, in the order of their identities. -/
structure Numbered (host : PayloadHost) (frames : List (TelemetryFrame OperatingMode)) : Prop where
  carried : List.Forall₂ Carries frames host.returned
  ascending : frames.Pairwise fun earlier later => earlier.identity < later.identity
  persisted : ∀ frame ∈ frames, frame.bootId ∈ host.file.written
  range : ∀ frame ∈ frames, 0 ≤ frame.sequenceNumber ∧ frame.sequenceNumber ≤ uint32Max
  ordered : host.file.Ascending
  follows : ∀ simulator, host.simulator = some simulator → simulator.Follows host.file
  before : ∀ simulator, host.simulator = some simulator →
    ∀ frame ∈ frames, frame.identity < simulator.position

variable {host : PayloadHost} {frames : List (TelemetryFrame OperatingMode)}

/-- A process begins above every frame that was returned. -/
theorem Numbered.restart (numbered : host.Numbered frames) (readable writable : Bool) :
    (host.perform (.restart readable writable)).Numbered frames := by
  rw [perform]
  split
  next bootId replaced loaded =>
    obtain ⟨rfl, range, above⟩ := loadNextBootId_eq_ok numbered.ordered loaded
    refine { numbered with
      persisted := fun frame member => List.mem_append_left _ (numbered.persisted frame member)
      ordered := numbered.ordered.replace range above
      follows := ?_
      before := ?_ }
    -- The new session numbers nothing yet, and its identifier is in the file.
    · intro simulator running
      cases running
      refine ⟨fun used member => ?_, range, le_rfl, fun _ => List.mem_append_right _ (by simp)⟩
      rcases List.mem_append.mp member with old | new
      · exact (above used old).le
      · exact (List.mem_singleton.mp new).le
    · intro simulator running frame member
      cases running
      exact Prod.Lex.toLex_lt_toLex.mpr (Or.inl (above _ (numbered.persisted frame member)))
  next => exact { numbered with follows := nofun, before := nofun }

/-- A call that returns no frame leaves those that were returned before it. -/
theorem Numbered.advance (numbered : host.Numbered frames) {simulator next : PayloadSimulator}
    {replaced : BootFile} (running : host.simulator = some simulator)
    (advances : PayloadSimulator.Advances simulator next host.file replaced) :
    ({ host with file := replaced, simulator := some next } : PayloadHost).Numbered frames where
  carried := numbered.carried
  ascending := numbered.ascending
  persisted frame member := advances.kept _ (numbered.persisted frame member)
  range := numbered.range
  ordered := advances.ordered
  follows simulator same := by
    cases same
    exact advances.follows
  before simulator same frame member := by
    cases same
    -- Every frame was before the old position, which is not behind the new one.
    exact (numbered.before _ running frame member).trans_le advances.position

/-- A call that returns a frame adds it behind those that were returned before it. -/
theorem Numbered.append (numbered : host.Numbered frames) {simulator next : PayloadSimulator}
    {replaced : BootFile} {answer : Bytes × String} {frame : TelemetryFrame OperatingMode}
    (running : host.simulator = some simulator)
    (advances : PayloadSimulator.Advances simulator next host.file replaced)
    (made : PayloadSimulator.Made simulator next replaced answer frame) :
    ({ file := replaced, simulator := some next, returned := host.returned ++ [answer] } :
      PayloadHost).Numbered (frames ++ [frame]) := by
  have earlier := numbered.advance running advances
  refine ⟨?_, ?_, ?_, ?_, advances.ordered, earlier.follows, ?_⟩
  · exact List.rel_append numbered.carried (.cons made.carries .nil)
  -- The frame is later than every position before the call, and so than every frame.
  · apply List.pairwise_append.mpr
    refine ⟨numbered.ascending, List.pairwise_singleton _ _, fun old member last same => ?_⟩
    rw [List.mem_singleton.mp same]
    exact (numbered.before _ running old member).trans_le made.later
  · intro other member
    rcases List.mem_append.mp member with old | new
    · exact earlier.persisted other old
    · rw [List.mem_singleton.mp new]
      exact made.persisted
  · intro other member
    rcases List.mem_append.mp member with old | new
    · exact numbered.range other old
    · rw [List.mem_singleton.mp new]
      exact made.range
  · intro simulator same other member
    cases same
    rcases List.mem_append.mp member with old | new
    · exact earlier.before _ rfl other old
    · rw [List.mem_singleton.mp new]
      exact made.earlier

/-- Whatever happens, at most one frame is added. -/
theorem Numbered.perform (numbered : host.Numbered frames) (event : PayloadEvent) :
    ∃ more, (host.perform event).Numbered (frames ++ more) := by
  cases event with
  | restart readable writable =>
    refine ⟨[], ?_⟩
    rw [List.append_nil]
    exact numbered.restart readable writable
  | makeFrame request writable timestampUs survives =>
    rw [PayloadHost.perform]
    split
    next => exact ⟨[], by rwa [List.append_nil]⟩
    next simulator running =>
      split
      next outcome next replaced made =>
        obtain ⟨advances, answers⟩ :=
          (numbered.follows _ running).makeFrame numbered.ordered request writable timestampUs made
        have earlier := numbered.advance running advances
        split_ifs
        -- A call that raises has advanced the simulator without a frame.
        · cases outcome with
          | error error =>
            refine ⟨[], ?_⟩
            rw [List.append_nil]
            simpa [Except.toOption] using earlier
          | ok answer =>
            obtain ⟨frame, made⟩ := answers answer rfl
            exact ⟨[frame], numbered.append running advances made⟩
        -- The process has ended within the call, and the file has kept what was written.
        · refine ⟨[], ?_⟩
          rw [List.append_nil]
          exact { earlier with follows := nofun, before := nofun }

/-- Whatever has happened, the frames are numbered. -/
theorem numbered_after (initial : Option Bytes) (events : List PayloadEvent) :
    ∃ frames, (after initial events).Numbered frames := by
  -- By induction on the events, from any host whose frames are numbered.
  have continued : ∀ (host : PayloadHost) (frames), host.Numbered frames →
      ∃ frames', (events.foldl PayloadHost.perform host).Numbered frames' := by
    induction events with
    | nil => exact fun host frames numbered => ⟨frames, numbered⟩
    | cons event rest ih =>
      intro host frames numbered
      obtain ⟨more, step⟩ := numbered.perform event
      exact ih _ _ step
  refine continued _ [] ⟨.nil, .nil, ?_, ?_, ⟨.nil, ?_⟩, nofun, nofun⟩ <;> intro _ member <;>
    cases member

/-- The bytes of every answer are the encoding of one of the frames. -/
theorem Numbered.encoded (numbered : host.Numbered frames) {raw : Bytes}
    (among : raw ∈ host.returned.map Prod.fst) :
    ∃ frame ∈ frames, encodeTelemetry zlibCrc32 frame = .ok raw := by
  -- By induction on the answers, each of which carries its frame.
  obtain ⟨answer, member, rfl⟩ := List.mem_map.mp among
  have carried := numbered.carried
  generalize host.returned = answers at carried member
  clear among numbered
  induction carried with
  | nil => cases member
  | @cons frame first frames rest carries _ ih =>
    rcases List.mem_cons.mp member with rfl | later
    · exact ⟨frame, List.mem_cons_self, carries.1⟩
    · obtain ⟨found, among, encoded⟩ := ih later
      exact ⟨found, List.mem_cons_of_mem _ among, encoded⟩

/-- Frames with one identity are the same frame. -/
theorem Numbered.unique (numbered : host.Numbered frames) {first second : TelemetryFrame OperatingMode}
    (left : first ∈ frames) (right : second ∈ frames) (same : first.identity = second.identity) :
    first = second := by
  -- In an ascending list two different frames have different identities.
  by_contra different
  have symmetric : Std.Symm fun first second : TelemetryFrame OperatingMode =>
      first.identity ≠ second.identity := ⟨fun _ _ => Ne.symm⟩
  exact (numbered.ascending.imp fun below => below.ne).forall left right different same

/-- Answers whose bytes decode to one identifier have the same bytes. -/
theorem Numbered.distinct (numbered : host.Numbered frames) {first second : Bytes}
    {packetId : String} (left : first ∈ host.returned.map Prod.fst)
    (right : second ∈ host.returned.map Prod.fst) (names : Names first packetId)
    (names' : Names second packetId) : first = second := by
  obtain ⟨frame, member, encoded⟩ := numbered.encoded left
  obtain ⟨frame', member', encoded'⟩ := numbered.encoded right
  obtain ⟨_, decoded, decodes, rfl⟩ := names
  obtain ⟨_, decoded', decodes', same⟩ := names'
  -- What the bytes decode to is the frame that they were made from.
  obtain rfl := encodeTelemetry_injective encoded (encodeTelemetry_of_decodeTelemetry decodes)
  obtain rfl := encodeTelemetry_injective encoded' (encodeTelemetry_of_decodeTelemetry decodes')
  obtain ⟨-, boot, sequence⟩ := packetIdText_injective
    (encodeTelemetry_eq_ok.mp encoded').1.naturals (encodeTelemetry_eq_ok.mp encoded).1.naturals same
  have identity : frame'.identity = frame.identity := by
    rw [TelemetryFrame.identity, TelemetryFrame.identity]
    exact congrArg toLex (Prod.ext boot sequence)
  obtain rfl := numbered.unique member' member identity
  exact Except.ok.inj (encoded.symm.trans encoded')

end PayloadHost

/--
The payload simulator never uses a packet identity twice.

Requests of every kind, restarts, failures of the boot file and ends of the process follow one
another in any order. The frames that were returned have ascending identities in range, each with a
boot identifier that has been persisted by the time of the answer. Whatever becomes of their bytes
on the way, in any order and with any repetition, no receipt of them is in sequence conflict.
-/
theorem packet_identities_never_reused (initial : Option Bytes) (events : List PayloadEvent) :
    ∃ frames : List (TelemetryFrame OperatingMode),
      List.Forall₂ Carries frames (PayloadHost.after initial events).returned ∧
      frames.Pairwise (fun earlier later => earlier.identity < later.identity) ∧
      (∀ frame ∈ frames, (1 ≤ frame.bootId ∧ frame.bootId ≤ uint32Max) ∧
        (0 ≤ frame.sequenceNumber ∧ frame.sequenceNumber ≤ uint32Max) ∧
        frame.bootId ∈ (PayloadHost.after initial events).file.written) ∧
      ∀ config, Relation.ReflTransGen
          (DeliveryStep (· ∈ (PayloadHost.after initial events).returned.map Prod.fst))
          GroundConfig.initial config →
        ∀ receipt ∈ config.state.database.receipts, ¬(receipt.validationStatus = .conflict ∧
          receipt.rejectionReason = some "SEQUENCE_CONFLICT") := by
  obtain ⟨frames, numbered⟩ := PayloadHost.numbered_after initial events
  refine ⟨frames, numbered.carried, numbered.ascending, fun frame member => ?_, ?_⟩
  · have persisted := numbered.persisted frame member
    exact ⟨numbered.ordered.bounds _ persisted, numbered.range frame member, persisted⟩
  -- Receipts of one identity have the bytes of one frame, so none is in conflict.
  · intro config run receipt member
    exact unconflicted_of_run (fun _ _ _ left right => numbered.distinct left right) run member

end Cislunar
