import Cislunar.Proofs.Telemetry.Sessions

/-!
The high-water mark of a session does not depend on the order in which its packets arrive.

Sequence numbers are taken as offsets from a base, less than half the number range apart; the mark
stands on the greatest offset so far, wherever the numbers wrap around.
-/

namespace Cislunar

open Foundation

section
variable {ι : Type}

/-- The deliveries of a session in the order of their first acceptance. -/
def acceptanceOrder [DecidableEq ι] (arrivals : ι → Arrival) (session : Int × Int)
    (turns : List (Turn ι)) : List ι :=
  turns.foldl (fun order next => match next with
    | .record _ => order
    | .accept arrival =>
      if (arrivals arrival).session = session ∧ arrival ∉ order then order ++ [arrival] else order) []

/-- The sequence numbers of a session are distinct offsets from a base. -/
structure Offsets (arrivals : ι → Arrival) (session : Int × Int) (base : Int) (offset : ι → Nat) :
    Prop where
  bounded : ∀ arrival, (arrivals arrival).session = session → offset arrival < 2 ^ 31
  numbered : ∀ arrival, (arrivals arrival).session = session →
    (arrivals arrival).values.sequenceNumber = (base + offset arrival) % 2 ^ 32
  distinct : ∀ arrival other, (arrivals arrival).session = session →
    (arrivals other).session = session → offset arrival = offset other → arrival = other

/-- A session state stands on the greatest offset of its packets and counts them. -/
def MarksGreatest (base : Int) (offset : ι → Nat) (order : List ι) (state : TelemetrySequenceState) :
    Prop :=
  (∃ top ∈ order, (∀ arrival ∈ order, offset arrival ≤ offset top) ∧
    state.highWaterSequence = (base + offset top) % 2 ^ 32) ∧
  state.acceptedPacketCount = order.length

/-- The book of a session whose packets were accepted in some order. -/
structure Ordered (arrivals : ι → Arrival) (session : Int × Int) (base : Int) (offset : ι → Nat)
    (book : Book ι) (order : List ι) : Prop where
  sources : book.entries.map (·.source) = order
  own : ∀ arrival ∈ order, (arrivals arrival).session = session
  accepted : ∀ arrival ∈ order, book.standing arrival = some .accepted
  waiting : ∀ arrival, arrival ∉ order → ∀ standing, book.standing arrival = some standing →
    standing = .pending
  unopened : order = [] → book.state = none
  marked : order ≠ [] → ∃ state, book.state = some state ∧ MarksGreatest base offset order state
  late : ∀ index entry, book.entries[index]? = some entry →
    (entry.disposition = .late ↔ ∃ earlier ∈ order.take index, offset entry.source < offset earlier)

variable {arrivals : ι → Arrival} {session : Int × Int} {base : Int} {offset : ι → Nat}
variable {book : Book ι} {order : List ι}

/-- Recording a delivery accepts nothing. -/
theorem acceptanceOrder_record [DecidableEq ι] (turns : List (Turn ι)) (arrival : ι) :
    acceptanceOrder arrivals session (turns ++ [.record arrival]) =
      acceptanceOrder arrivals session turns := by
  -- Recording accepts nothing.
  unfold acceptanceOrder
  rw [List.foldl_append]
  rfl

/-- An acceptance puts its delivery behind the others, once. -/
theorem acceptanceOrder_accept [DecidableEq ι] (turns : List (Turn ι)) (arrival : ι) :
    acceptanceOrder arrivals session (turns ++ [.accept arrival]) =
      if (arrivals arrival).session = session ∧ arrival ∉ acceptanceOrder arrivals session turns then
        acceptanceOrder arrivals session turns ++ [arrival]
      else acceptanceOrder arrivals session turns := by
  -- Only the first acceptance of an arrival of the session counts.
  unfold acceptanceOrder
  rw [List.foldl_append]
  rfl

/-- A packet ahead of the mark moves it, and one behind it is late. -/
theorem sequencePosition_offset {state : TelemetrySequenceState} {number mark : Nat}
    (range : number < 2 ^ 31) (marked : mark < 2 ^ 31)
    (stands : state.highWaterSequence = (base + mark) % 2 ^ 32) :
    (mark < number → ∃ disposition missingBefore,
      sequencePosition ((base + number) % 2 ^ 32) (some state) = some (disposition, missingBefore) ∧
        disposition ∈ [PacketDisposition.inOrder, .gap]) ∧
    (number < mark →
      sequencePosition ((base + number) % 2 ^ 32) (some state) = some (.late, 0)) := by
  -- Both offsets are below half of the range, so the distance is their difference, or its
  -- complement.
  simp only [sequencePosition, forwardDistance_eq, halfUint32Range, stands]
  constructor
  · intro ahead
    have distance : ((base + number) % 2 ^ 32 - (base + mark) % 2 ^ 32) % 4294967296 =
        number - mark := by omega
    rw [distance, if_neg (by omega)]
    split
    · exact ⟨_, _, rfl, by decide⟩
    · rw [if_pos (by omega)]
      exact ⟨_, _, rfl, by decide⟩
  · intro behind
    have distance : ((base + number) % 2 ^ 32 - (base + mark) % 2 ^ 32) % 4294967296 =
        4294967296 - (mark - number) := by omega
    rw [distance, if_neg (by omega), if_neg (by omega), if_neg (by omega)]

/-- Offsets that differ give sequence numbers that differ. -/
theorem Offsets.number_injective (offsets : Offsets arrivals session base offset)
    {arrival other : ι} (own : (arrivals arrival).session = session)
    (also : (arrivals other).session = session)
    (same : (arrivals arrival).values.sequenceNumber = (arrivals other).values.sequenceNumber) :
    arrival = other := by
  -- Bounded offsets are determined by their remainders.
  rw [offsets.numbered arrival own, offsets.numbered other also] at same
  have left := offsets.bounded arrival own
  have right := offsets.bounded other also
  apply offsets.distinct arrival other own also
  omega

/-- A new packet of the session is not found in its book. -/
theorem Ordered.find_none (ordered : Ordered arrivals session base offset book order)
    (offsets : Offsets arrivals session base offset) {arrival : ι}
    (own : (arrivals arrival).session = session) (new : arrival ∉ order) :
    book.find arrivals (arrivals arrival).values.sourceKey = none := by
  -- An entry with the same source key would be the same arrival.
  apply List.find?_eq_none.mpr
  intro entry member same
  have listed : entry.source ∈ order := by
    rw [← ordered.sources]
    exact List.mem_map_of_mem member
  have keys : (arrivals entry.source).values.sourceKey = (arrivals arrival).values.sourceKey := by
    simpa using same
  have numbers := congrArg (fun key : Int × Int × Int => key.2.2) keys
  rw [offsets.number_injective (ordered.own _ listed) own numbers] at listed
  exact new listed

/-- The place of a new packet, with what it does to the mark. -/
theorem Ordered.place (ordered : Ordered arrivals session base offset book order)
    (offsets : Offsets arrivals session base offset) {arrival : ι}
    (own : (arrivals arrival).session = session) (new : arrival ∉ order) :
    ∃ disposition missingBefore,
      sequencePosition (arrivals arrival).values.sequenceNumber book.state =
        some (disposition, missingBefore) ∧
      (disposition = .late ↔ ∃ earlier ∈ order, offset arrival < offset earlier) ∧
      MarksGreatest base offset (order ++ [arrival])
        (Database.stateAfter (arrivals arrival).values disposition missingBefore book.state) := by
  have number := offsets.numbered arrival own
  by_cases opened : order = []
  · -- The first packet sets the mark.
    subst opened
    rw [ordered.unopened rfl]
    refine ⟨.first, _, rfl, by simp, ⟨arrival, by simp, by simp, number⟩, rfl⟩
  · obtain ⟨state, tracked, ⟨top, listed, greatest, stands⟩, counted⟩ := ordered.marked opened
    rw [tracked, number]
    have apart : offset arrival ≠ offset top := by
      intro same
      rw [offsets.distinct arrival top own (ordered.own top listed) same] at new
      exact new listed
    obtain ⟨ahead, behind⟩ := sequencePosition_offset (offsets.bounded arrival own)
      (offsets.bounded top (ordered.own top listed)) stands
    have length : ((order ++ [arrival]).length : Int) = order.length + 1 := by simp
    by_cases higher : offset top < offset arrival
    · obtain ⟨disposition, missingBefore, position, moves⟩ := ahead higher
      refine ⟨disposition, missingBefore, position, ?_, ⟨arrival, by simp, ?_, ?_⟩, ?_⟩
      · constructor
        · rintro rfl
          simp at moves
        · rintro ⟨earlier, among, greater⟩
          have below := greatest earlier among
          omega
      · intro other among
        rcases List.mem_append.mp among with old | same
        · have below := greatest other old
          omega
        · rw [List.mem_singleton.mp same]
      · show (state.count _ _ _).highWaterSequence = _
        rw [TelemetrySequenceState.count, if_pos moves]
        exact number
      · show (state.count _ _ _).acceptedPacketCount = _
        rw [TelemetrySequenceState.count, if_pos moves, length, ← counted]
    · have lower : offset arrival < offset top := by omega
      have stays : ¬PacketDisposition.late ∈ [PacketDisposition.inOrder, .gap] := by decide
      refine ⟨.late, 0, behind lower, ?_, ⟨top, by simp [listed], ?_, ?_⟩, ?_⟩
      · simp only [true_iff]
        exact ⟨top, listed, lower⟩
      · intro other among
        rcases List.mem_append.mp among with old | same
        · exact greatest other old
        · rw [List.mem_singleton.mp same]
          exact lower.le
      · show (state.count _ _ _).highWaterSequence = _
        rw [TelemetrySequenceState.count, if_neg stays]
        exact stands
      · show (state.count _ _ _).acceptedPacketCount = _
        rw [TelemetrySequenceState.count, if_neg stays, length, ← counted]

/-- The packets of a session carry the values of its deliveries, in the order of acceptance. -/
theorem Ordered.values {desk : Desk ι} (ordered : Ordered arrivals session base offset book order)
    (reflects : Reflects arrivals desk session book) :
    (desk.db.sessionPackets session).map (·.values) =
      order.map fun arrival => (arrivals arrival).values := by
  -- The packets are those of the book, and the book lists them by source.
  rw [reflects.packets, ← ordered.sources, List.map_map, List.map_map]
  rfl

/-- An accepted delivery has its receipt and one job. -/
theorem Ordered.accepted_receipt {desk : Desk ι}
    (ordered : Ordered arrivals session base offset book order)
    (reflects : Reflects arrivals desk session book) (ledger : Ledger desk.db) {arrival : ι}
    (listed : arrival ∈ order) :
    ∃ receipt, desk.receipt arrival = some receipt ∧ receipt.validationStatus = .accepted ∧
      receipt.logicalPacketId = some (arrivals arrival).values.packetId ∧
      ∃! job, job ∈ desk.db.jobs ∧ job.packetId = (arrivals arrival).values.packetId := by
  obtain ⟨receiptId, known, found, -⟩ := reflects.recorded arrival (ordered.own arrival listed)
    .accepted (ordered.accepted arrival listed)
  refine ⟨Standing.accepted.row (arrivals arrival) desk.receiptOf receiptId, ?_, rfl, rfl, ?_⟩
  · rw [Desk.receipt, known, Option.bind_some, found]
  · -- The packet of the receipt has a job, and no packet has two.
    obtain ⟨packet, stored, named, -⟩ :=
      (ledger.receipts _ (Table.get?_eq_some.mp found).1).accepted rfl
    obtain ⟨job, queued, owns⟩ := (ledger.packets packet stored).job
    have key : (arrivals arrival).values.packetId = packet.packetId := Option.some.inj named
    rw [key]
    exact ⟨job, ⟨queued, owns⟩, fun other both =>
      ledger.jobUnique other both.1 job queued (both.2.trans owns.symm)⟩

/-- The packet of every acceptance, with when it is late. -/
theorem Ordered.packet {desk : Desk ι} (ordered : Ordered arrivals session base offset book order)
    (reflects : Reflects arrivals desk session book) {index : Nat} {arrival : ι}
    (listed : order[index]? = some arrival) :
    ∃ packet, (desk.db.sessionPackets session)[index]? = some packet ∧
      packet.values = (arrivals arrival).values ∧
      (packet.sequenceDisposition = .late ↔
        ∃ earlier ∈ order.take index, offset arrival < offset earlier) := by
  -- The packets of the session are the entries of the book, in their order.
  rw [← ordered.sources, List.getElem?_map, Option.map_eq_some_iff] at listed
  obtain ⟨entry, found, source⟩ := listed
  subst source
  refine ⟨entry.row arrivals desk.receiptOf, ?_, rfl, ordered.late index entry found⟩
  rw [reflects.packets, List.getElem?_map, found]
  rfl

/-- The mark and the count of a session depend on its set of packets only. -/
theorem MarksGreatest.perm {other : List ι} {state again : TelemetrySequenceState}
    (marks : MarksGreatest base offset order state) (same : other.Perm order)
    (remarks : MarksGreatest base offset other again) :
    again.highWaterSequence = state.highWaterSequence ∧
      again.acceptedPacketCount = state.acceptedPacketCount := by
  -- The greatest offset and the length are the same for every order.
  obtain ⟨⟨top, among, greatest, stands⟩, counted⟩ := marks
  obtain ⟨⟨peak, listed, highest, restands⟩, recounted⟩ := remarks
  have height : offset peak = offset top :=
    le_antisymm (greatest peak (same.mem_iff.mp listed)) (highest top (same.mem_iff.mpr among))
  constructor
  · rw [stands, restands, height]
  · rw [counted, recounted, same.length_eq]

variable [DecidableEq ι]

/-- A recorded delivery waits for its acceptance. -/
theorem Ordered.record (ordered : Ordered arrivals session base offset book order) {arrival : ι}
    (absent : book.standing arrival = none) :
    Ordered arrivals session base offset (book.settle arrival .pending) order where
  sources := ordered.sources
  own := ordered.own
  accepted other listed := by
    -- The arrival was not accepted before, as it had no standing.
    have different : other ≠ arrival := by
      intro same
      rw [same] at listed
      rw [ordered.accepted arrival listed] at absent
      cases absent
    rw [Book.settle_standing, Function.update_of_ne different]
    exact ordered.accepted other listed
  waiting other unlisted standing stands := by
    rw [Book.settle_standing] at stands
    rcases update_eq_some.mp stands with ⟨-, settled⟩ | ⟨-, before⟩
    · exact (Option.some.inj settled).symm
    · exact ordered.waiting other unlisted standing before
  unopened := ordered.unopened
  marked := ordered.marked
  late := ordered.late

/-- A pending delivery of a new packet is entered behind the others. -/
theorem Ordered.enter (ordered : Ordered arrivals session base offset book order)
    (offsets : Offsets arrivals session base offset) {arrival : ι}
    (own : (arrivals arrival).session = session) (new : arrival ∉ order)
    (stands : book.standing arrival = some .pending) :
    Ordered arrivals session base offset (book.accept arrivals arrival) (order ++ [arrival]) := by
  obtain ⟨disposition, missingBefore, position, late, marks⟩ := ordered.place offsets own new
  have length : book.entries.length = order.length := by
    rw [← ordered.sources, List.length_map]
  rw [Book.accept, stands]
  dsimp only
  rw [ordered.find_none offsets own new]
  dsimp only
  rw [position]
  dsimp only [Book.enter]
  constructor
  · rw [List.map_append, ordered.sources]
    rfl
  · intro other listed
    rcases List.mem_append.mp listed with old | same
    · exact ordered.own other old
    · rw [List.mem_singleton.mp same]
      exact own
  · intro other listed
    by_cases same : other = arrival
    · rw [same]
      exact Function.update_self ..
    · have old : other ∈ order := by simpa [same] using listed
      exact (Function.update_of_ne same _ _).trans (ordered.accepted other old)
  · intro other unlisted standing stood
    have apart : other ∉ order ∧ other ≠ arrival := by simpa [not_or] using unlisted
    dsimp only at stood
    rw [Function.update_of_ne apart.2] at stood
    exact ordered.waiting other apart.1 standing stood
  · intro empty
    simp at empty
  · exact fun _ => ⟨_, rfl, marks⟩
  · intro index entry found
    dsimp only at found
    by_cases old : index < book.entries.length
    · rw [List.getElem?_append_left old] at found
      rw [ordered.late index entry found, List.take_append_of_le_length (by omega)]
    · -- The last entry is the new one, and everything else came before it.
      rw [List.getElem?_append_right (by omega), List.getElem?_singleton] at found
      split at found
      · cases found
        rw [late, List.take_append_of_le_length (by omega), List.take_of_length_le (by omega)]
      · cases found

/-- The packets of a session stand in the order of their acceptance. -/
theorem Desk.Run.ordered {start : Database} {desk : Desk ι} (opens : Opens arrivals start)
    (offsets : Offsets arrivals session base offset) {turns : List (Turn ι)}
    (run : Desk.Run arrivals start turns desk) :
    Ordered arrivals session base offset (Book.after arrivals session turns)
      (acceptanceOrder arrivals session turns) := by
  induction run with
  | start => exact ⟨rfl, nofun, nofun, nofun, fun _ => rfl, fun other => absurd rfl other, nofun⟩
  | @turn turns desk before env unused next allowed ih =>
    rw [Book.after_append, Book.turned]
    by_cases own : (arrivals next.arrival).session = session
    · subst own
      have reflects := (before.kept opens).reflects next.arrival
      rw [if_pos rfl]
      cases next with
      | record arrival =>
        rw [acceptanceOrder_record]
        -- A delivery without a receipt stands nowhere yet.
        cases stands : (Book.after arrivals (arrivals arrival).session turns).standing arrival with
        | none => exact ih.record stands
        | some standing =>
          obtain ⟨receiptId, known, -⟩ := reflects.recorded arrival rfl standing stands
          rw [allowed.1] at known
          cases known
      | accept arrival =>
        cases stands : (Book.after arrivals (arrivals arrival).session turns).standing arrival with
        | none =>
          have known := reflects.unrecorded arrival rfl stands
          simp [Desk.Allows, known] at allowed
        | some standing =>
          by_cases listed :
              arrival ∈ acceptanceOrder arrivals (arrivals arrival).session turns
          · -- A repeated call finds its delivery accepted.
            rw [acceptanceOrder_accept, if_neg fun both => both.2 listed]
            show Ordered _ _ _ _ (Book.accept _ _ _) _
            have again := ih.accepted arrival listed
            rw [Book.accept, again]
            exact ih
          · have pending := ih.waiting arrival listed standing stands
            subst pending
            rw [acceptanceOrder_accept, if_pos ⟨rfl, listed⟩]
            exact ih.enter offsets rfl listed stands
    · rw [if_neg own]
      cases next with
      | record arrival =>
        rw [acceptanceOrder_record]
        exact ih
      | accept arrival =>
        rw [acceptanceOrder_accept, if_neg fun both => own both.1]
        exact ih

/--
The order of arrival does not move the high-water mark.

Packets of a new session, less than half the number range apart, are all accepted with one job each.
The mark ends on the greatest offset and the count on their number; a packet is late exactly behind a
greater offset. Another order of the same packets ends with the same packets, mark and count. Numbers
are unbounded here; `Reachable.inRange` keeps those of decoded packets within their columns.
-/
theorem mark_independent_of_arrival_order {start : Database} {desk : Desk ι}
    (opens : Opens arrivals start) (offsets : Offsets arrivals session base offset)
    {turns : List (Turn ι)} (run : Desk.Run arrivals start turns desk) :
    (∀ arrival ∈ acceptanceOrder arrivals session turns, ∃ receipt,
      desk.receipt arrival = some receipt ∧ receipt.validationStatus = .accepted ∧
      receipt.logicalPacketId = some (arrivals arrival).values.packetId ∧
      ∃! job, job ∈ desk.db.jobs ∧ job.packetId = (arrivals arrival).values.packetId) ∧
    (∀ index arrival, (acceptanceOrder arrivals session turns)[index]? = some arrival →
      ∃ packet, (desk.db.sessionPackets session)[index]? = some packet ∧
        packet.values = (arrivals arrival).values ∧
        (packet.sequenceDisposition = .late ↔
          ∃ earlier ∈ (acceptanceOrder arrivals session turns).take index,
          offset arrival < offset earlier)) ∧
    (acceptanceOrder arrivals session turns ≠ [] → ∃ state,
      desk.db.states.get? session = some state ∧
      MarksGreatest base offset (acceptanceOrder arrivals session turns) state ∧
      ∀ first others (other : Desk ι), Opens arrivals first → Desk.Run arrivals first others other →
        (acceptanceOrder arrivals session others).Perm (acceptanceOrder arrivals session turns) →
        ((other.db.sessionPackets session).map (·.values)).Perm
          ((desk.db.sessionPackets session).map (·.values)) ∧
        ∃ again, other.db.states.get? session = some again ∧
          again.highWaterSequence = state.highWaterSequence ∧
          again.acceptedPacketCount = state.acceptedPacketCount) := by
  have ordered := run.ordered opens offsets
  have reflects : ∀ arrival ∈ acceptanceOrder arrivals session turns,
      Reflects arrivals desk session (Book.after arrivals session turns) := by
    intro arrival listed
    rw [← ordered.own arrival listed]
    exact (run.kept opens).reflects arrival
  refine ⟨?_, ?_, ?_⟩
  · intro arrival listed
    exact ordered.accepted_receipt (reflects arrival listed) (run.kept opens).reachable.ledger listed
  · intro index arrival listed
    exact ordered.packet (reflects arrival (List.mem_of_getElem? listed)) listed
  · intro opened
    obtain ⟨member, listed⟩ := List.exists_mem_of_ne_nil _ opened
    obtain ⟨state, tracked, marks⟩ := ordered.marked opened
    refine ⟨state, (reflects member listed).state.trans tracked, marks, ?_⟩
    intro first others other reopens rerun same
    -- The other run has a book of its own, with the same packets in it.
    have reordered := rerun.ordered reopens offsets
    have mirrors : Reflects arrivals other session (Book.after arrivals session others) := by
      rw [← ordered.own member listed]
      exact (rerun.kept reopens).reflects member
    have reopened : acceptanceOrder arrivals session others ≠ [] := by
      intro empty
      rw [empty] at same
      exact opened same.symm.eq_nil
    obtain ⟨again, retracked, remarks⟩ := reordered.marked reopened
    constructor
    · rw [reordered.values mirrors, ordered.values (reflects member listed)]
      exact same.map _
    · exact ⟨again, mirrors.state.trans retracked, marks.perm same remarks⟩

end

/-- Two packets of one boot, the second one behind the turn of the numbers. -/
def wrapping (arrival : Fin 2) : Arrival :=
  if arrival.val = 0 then sampleArrival 1 9 4294967295 (by decide) (by decide)
  else sampleArrival 2 9 0 (by decide) (by decide)

/-- The packets are numbered from the last number on. -/
theorem wrapping_offsets : Offsets wrapping (1, 9) 4294967295 fun arrival => arrival.val where
  bounded arrival _ := by
    have below := arrival.isLt
    show arrival.val < 2 ^ 31
    omega
  numbered arrival _ := by
    -- There are two arrivals, and both are evaluated.
    revert arrival
    decide
  distinct arrival other _ _ same := Fin.ext same

/-- The first number is ahead of the last one, so the packet with the last number is late. -/
theorem wrapping_reversed :
    ∃ packet, ((deskAfter wrapping [(1, .record 0), (2, .record 1), (3, .accept 1),
      (4, .accept 0)]).db.sessionPackets (1, 9))[1]? = some packet ∧
      packet.values = (wrapping 0).values ∧
      (packet.sequenceDisposition = .late ↔ ∃ earlier ∈ ([1] : List (Fin 2)), 0 < earlier.val) := by
  -- Two deliveries are recorded and then accepted in reverse; the run has four turns.
  have opens : Opens wrapping .empty := ⟨.empty, fun _ _ stored => absurd stored (Table.not_mem_empty _)⟩
  have begun : Desk.Run wrapping .empty (([] : List (UUID × Turn (Fin 2))).map (·.2))
      (deskAfter wrapping []) := .start
  have run := deskAfter_run (deskAfter_run (deskAfter_run (deskAfter_run begun (1, .record 0)
    (by decide +kernel)) (2, .record 1) (by decide +kernel)) (3, .accept 1) (by decide +kernel))
    (4, .accept 0) (by decide +kernel)
  exact (mark_independent_of_arrival_order opens wrapping_offsets run).2.1 1 0 (by decide +kernel)

end Cislunar
