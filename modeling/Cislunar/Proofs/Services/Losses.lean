import Cislunar.Proofs.Common.Limits
import Cislunar.Proofs.Common.Sequence
import Cislunar.Services.Losses

/-!
The ingest counts as missing exactly what the link has lost.

The spacecraft numbers the packets of an APID one by one around the width of the count. As long as
no burst of losses is as long as there are counts, the gaps of the tracker add up to the packets that
were lost between the first and the last that arrived.
-/

namespace Cislunar

open Foundation SpaceLink

/-- The packets of an APID among some datagrams are numbered one by one from a count. -/
def Numbered (apid : Int) (start : Int) : List Bytes → Prop
  | [] => True
  | raw :: rest =>
    (∀ packet, decodeSpacePacket raw = .ok packet → packet.apid = apid →
      packet.sequenceCount = start % 2 ^ 14) ∧
    Numbered apid (if carries apid raw then start + 1 else start) rest

section Counting
variable {apid : Int}

/-- A packet of the APID decodes. -/
theorem carries_iff {raw : Bytes} :
    carries apid raw = true ↔
      ∃ packet, decodeSpacePacket raw = .ok packet ∧ packet.apid = apid := by
  -- By whether the bytes are a packet.
  rw [carries]
  cases decodeSpacePacket raw <;> simp [Except.toOption]

/-- Datagrams that carry nothing of an APID do not change what is known of it. -/
theorem process_other {raw : Bytes} (other : carries apid raw = false) (counter : GapCounter) :
    (counter.process raw).gaps apid = counter.gaps apid ∧
      (counter.process raw).tracker.last apid = counter.tracker.last apid := by
  rw [GapCounter.process]
  cases decoded : decodeSpacePacket raw with
  | error _ => exact ⟨rfl, rfl⟩
  | ok packet =>
    have apart : apid ≠ packet.apid := by
      rintro rfl
      rw [carries_iff.mpr ⟨packet, decoded, rfl⟩] at other
      cases other
    dsimp only
    -- Whether or not a gap is counted, it is counted for another APID.
    split
    · dsimp only
      rw [SequenceTracker.observe_last, Function.update_of_ne apart, Function.update_of_ne apart]
      exact ⟨rfl, rfl⟩
    · dsimp only
      rw [SequenceTracker.observe_last, Function.update_of_ne apart]
      exact ⟨rfl, rfl⟩

/-- A packet of an APID adds its gap and is remembered. -/
theorem process_own {raw : Bytes} {packet : SpacePacket}
    (decoded : decodeSpacePacket raw = .ok packet)
    (own : packet.apid = apid) (counter : GapCounter) :
    (counter.process raw).gaps apid = counter.gaps apid +
        (counter.tracker.observe apid packet.sequenceCount).1 ∧
      (counter.process raw).tracker.last apid = some packet.sequenceCount := by
  subst own
  rw [GapCounter.process, decoded]
  dsimp only
  split
  · dsimp only
    rw [SequenceTracker.observe_last, Function.update_self, Function.update_self]
    exact ⟨rfl, rfl⟩
  · -- No gap is a gap of zero.
    rename_i none
    dsimp only
    rw [SequenceTracker.observe_last, Function.update_self, not_not.mp none, add_zero]
    exact ⟨rfl, rfl⟩

/-- No burst of losses is as long as there are counts. -/
def ShortBursts (apid : Int) (events : List LinkEvent) : Prop :=
  ∀ burst, burst <:+: events → (∀ event ∈ burst, event.arrives apid = false) →
    burst.countP (·.loses apid) < 2 ^ 14

/-- What follows an event has short bursts too. -/
theorem ShortBursts.tail {event : LinkEvent} {rest : List LinkEvent}
    (short : ShortBursts apid (event :: rest)) : ShortBursts apid rest :=
  fun burst within => short burst (within.trans (List.suffix_cons event rest).isInfix)

/-- After an arrival nothing is pending, and every burst that follows is short. -/
theorem ShortBursts.ahead {event : LinkEvent} {rest : List LinkEvent}
    (short : ShortBursts apid (event :: rest)) (burst : List LinkEvent) (within : burst <+: rest)
    (none : ∀ event ∈ burst, event.arrives apid = false) :
    0 + burst.countP (·.loses apid) < 2 ^ 14 := by
  -- The burst is a stretch of the rest.
  rw [Nat.zero_add]
  exact short.tail burst within.isInfix none

/-- Few events have short bursts. -/
theorem ShortBursts.of_length {events : List LinkEvent} (few : events.length < 2 ^ 14) :
    ShortBursts apid events :=
  fun _ within _ => List.countP_le_length.trans_lt (within.length_le.trans_lt few)

/-- The gap before an arrival is what was pending, as long as the count can tell it apart. -/
theorem gap_of_arrival {counter : GapCounter} {start last : Int} {pending : Nat}
    (known : counter.tracker.last apid = some (last % 2 ^ 14))
    (next : start = last + 1 + pending) (few : pending < 2 ^ 14) :
    (counter.tracker.observe apid (start % 2 ^ 14)).1 = pending := by
  -- Fewer than 2 ^ 14 losses are visible in the counter.
  rw [SequenceTracker.observe_report, known]
  show (start % 2 ^ 14 - (last % 2 ^ 14 + 1)) % 2 ^ 14 = (pending : Int)
  omega

/-- What the counter of an APID grows by once a packet of it has arrived. -/
theorem gaps_after_arrival {events : List LinkEvent} {counter : GapCounter} {start last : Int}
    {pending : Nat} (known : counter.tracker.last apid = some (last % 2 ^ 14))
    (next : start = last + 1 + pending)
    (numbered : Numbered apid start (events.filterMap LinkEvent.sent))
    (noise : ∀ raw, .noise raw ∈ events → carries apid raw = false)
    (ahead : ∀ burst, burst <+: events → (∀ event ∈ burst, event.arrives apid = false) →
      pending + burst.countP (·.loses apid) < 2 ^ 14)
    (short : ShortBursts apid events) :
    (counter.processAll (events.filterMap LinkEvent.heard)).gaps apid = counter.gaps apid +
      (if events.any (·.arrives apid) then pending else 0) + lostBefore apid events := by
  -- By induction on the events: losses are pending until the next arrival settles them.
  induction events generalizing counter start last pending with
  | nil => simp [GapCounter.processAll, lostBefore]
  | cons event rest ih =>
    have noise' : ∀ raw, .noise raw ∈ rest → carries apid raw = false :=
      fun raw member => noise raw (List.mem_cons_of_mem event member)
    have quiet : event.arrives apid = false → ∀ burst, burst <+: rest →
        (∀ event ∈ burst, event.arrives apid = false) →
        pending + (event :: burst).countP (·.loses apid) < 2 ^ 14 := by
      intro still burst within none
      refine ahead (event :: burst) ((List.prefix_cons_inj event).mpr within) ?_
      exact List.forall_mem_cons.mpr ⟨still, none⟩
    -- An event that neither brings nor takes a packet of the APID leaves everything as it is.
    have idle : event.arrives apid = false → event.loses apid = false → ∀ after : GapCounter,
        after.gaps apid = counter.gaps apid ∧
          after.tracker.last apid = counter.tracker.last apid →
        Numbered apid start (rest.filterMap LinkEvent.sent) →
        (after.processAll (rest.filterMap LinkEvent.heard)).gaps apid = counter.gaps apid +
          (if (event :: rest).any (·.arrives apid) then pending else 0) +
            lostBefore apid (event :: rest) := by
      intro still kept after same numbered
      have later := @ih after start last pending (same.2.trans known) next numbered noise'
        (fun burst within none => by
          have few := quiet still burst within none
          rwa [List.countP_cons_of_neg (by simp [kept])] at few) short.tail
      rw [later, same.1]
      simp [lostBefore, still, kept]
    cases event with
    | delivered raw =>
      obtain ⟨count, numbered⟩ := numbered
      show ((counter.process raw).processAll _).gaps apid = _
      cases own : carries apid raw with
      | true =>
        obtain ⟨packet, decoded, same⟩ := carries_iff.mp own
        obtain ⟨added, remembered⟩ := process_own decoded same counter
        rw [count packet decoded same] at added remembered
        rw [own, if_pos rfl] at numbered
        -- The arrival settles what was pending, and nothing is pending after it.
        have gap := gap_of_arrival known next (ahead [] List.nil_prefix (by simp))
        have settled := @ih (counter.process raw) (start + 1) start 0 remembered (by simp) numbered
          noise' short.ahead short.tail
        rw [settled, added, gap]
        simp [lostBefore, LinkEvent.arrives, LinkEvent.loses, own]
      | false =>
        rw [own, if_neg (by decide)] at numbered
        exact idle own rfl _ (process_other own counter) numbered
    | lost raw =>
      obtain ⟨-, numbered⟩ := numbered
      show (counter.processAll (rest.filterMap LinkEvent.heard)).gaps apid = _
      cases own : carries apid raw with
      | true =>
        rw [own, if_pos rfl] at numbered
        -- One more loss is pending, and the burst that it belongs to is still short.
        have later := @ih counter (start + 1) last (pending + 1) known (by push_cast; omega)
          numbered noise' (fun burst within none => by
            have few := quiet rfl burst within none
            rw [List.countP_cons_of_pos (by simpa [LinkEvent.loses] using own)] at few
            omega) short.tail
        have arrivals : (LinkEvent.lost raw :: rest).any (·.arrives apid) =
            rest.any (·.arrives apid) := by
          rw [List.any_cons]
          rfl
        rw [later, arrivals, lostBefore, show (LinkEvent.lost raw).loses apid = true from own]
        -- The loss counts where a later packet arrives.
        by_cases settles : rest.any (·.arrives apid) = true
        · rw [if_pos settles, if_pos settles, if_pos ⟨rfl, settles⟩]
          push_cast
          omega
        · rw [if_neg settles, if_neg settles, if_neg fun both => settles both.2]
          push_cast
          omega
      | false =>
        rw [own, if_neg (by decide)] at numbered
        exact idle rfl own counter ⟨rfl, rfl⟩ numbered
    | noise raw =>
      have other := noise raw List.mem_cons_self
      show ((counter.process raw).processAll _).gaps apid = _
      exact idle rfl rfl _ (process_other other counter) numbered

/-- What the counter of an APID grows by when no packet of it has arrived yet. -/
theorem gaps_before_arrival {events : List LinkEvent} {counter : GapCounter} {start : Int}
    (unknown : counter.tracker.last apid = none)
    (numbered : Numbered apid start (events.filterMap LinkEvent.sent))
    (noise : ∀ raw, .noise raw ∈ events → carries apid raw = false)
    (short : ShortBursts apid events) :
    (counter.processAll (events.filterMap LinkEvent.heard)).gaps apid =
      counter.gaps apid + lostBetween apid events := by
  -- By induction on the events up to the first arrival.
  induction events generalizing counter start with
  | nil => simp [GapCounter.processAll, lostBetween, lostBefore]
  | cons event rest ih =>
    have noise' : ∀ raw, .noise raw ∈ rest → carries apid raw = false :=
      fun raw member => noise raw (List.mem_cons_of_mem event member)
    have idle : event.arrives apid = false → lostBetween apid (event :: rest) =
        lostBetween apid rest := by
      intro still
      simp [lostBetween, still]
    cases event with
    | delivered raw =>
      obtain ⟨count, numbered⟩ := numbered
      show ((counter.process raw).processAll _).gaps apid = _
      cases own : carries apid raw with
      | true =>
        obtain ⟨packet, decoded, same⟩ := carries_iff.mp own
        obtain ⟨added, remembered⟩ := process_own decoded same counter
        rw [count packet decoded same] at added remembered
        rw [own, if_pos rfl] at numbered
        -- The first packet of an APID is no evidence of a gap.
        have gap : (counter.tracker.observe apid (start % 2 ^ 14)).1 = 0 := by
          rw [SequenceTracker.observe_report, unknown]
        have settled := @gaps_after_arrival apid rest (counter.process raw) (start + 1) start 0
          remembered (by simp) numbered noise' short.ahead short.tail
        rw [settled, added, gap]
        simp [lostBetween, lostBefore, LinkEvent.arrives, LinkEvent.loses, own]
      | false =>
        rw [own, if_neg (by decide)] at numbered
        obtain ⟨kept, same⟩ := process_other own counter
        rw [idle own, ← kept]
        exact ih (same.trans unknown) numbered noise' short.tail
    | lost raw =>
      rw [idle rfl]
      exact ih unknown numbered.2 noise' short.tail
    | noise raw =>
      obtain ⟨kept, same⟩ := process_other (noise raw List.mem_cons_self) counter
      rw [idle rfl, ← kept]
      exact ih (same.trans unknown) numbered noise' short.tail

/-- A packet that is encoded under the right count goes on with the numbers. -/
theorem numbered_packet {kind count number : Int} {payload raw : Bytes}
    (encoded : encodeSpacePacket kind count payload = .ok raw)
    (same : kind = apid → count % 2 ^ 14 = number % 2 ^ 14) :
    Numbered apid number [raw] ∧ [raw].countP (carries apid) = if kind = apid then 1 else 0 := by
  -- The count of a packet is read back as it was encoded, below the width of its field.
  have decoded := decodeSpacePacket_of_encoded encoded
  obtain ⟨low, high⟩ := (encodeSpacePacket_eq_ok.mp encoded).1.count
  have top : maxSequence = 16383 := by decide
  refine ⟨⟨fun packet read own => ?_, trivial⟩, ?_⟩
  · cases decoded.symm.trans read
    have whole := same own
    show count = number % 2 ^ 14
    omega
  · rw [List.countP_singleton, carries, decoded]
    simp [Except.toOption]

/-- Rows of numbered datagrams follow each other. -/
theorem Numbered.append {start : Int} {first second : List Bytes}
    (front : Numbered apid start first)
    (back : Numbered apid (start + first.countP (carries apid)) second) :
    Numbered apid start (first ++ second) := by
  -- By induction on the first row: each packet of the APID moves the count on by one.
  induction first generalizing start with
  | nil => simpa using back
  | cons raw rest ih =>
    refine ⟨front.1, ih front.2 ?_⟩
    cases own : carries apid raw with
    | true =>
      rw [if_pos rfl]
      rw [List.countP_cons_of_pos own] at back
      push_cast at back
      rwa [add_assoc, add_comm (1 : Int)]
    | false =>
      rw [if_neg (by decide)]
      rwa [List.countP_cons_of_neg (by simp [own])] at back

end Counting

/-- A command does not move the counts. -/
theorem SpacecraftState.apply_counts (state : SpacecraftState) (nowNs : Int) (raw : Bytes) :
    (state.apply nowNs raw).2.healthSequence = state.healthSequence ∧
      (state.apply nowNs raw).2.ackSequence = state.ackSequence := by
  -- A command that is refused and one that is applied both leave the two counters alone.
  rw [SpacecraftState.apply]
  split
  · exact ⟨rfl, rfl⟩
  · dsimp only
    split <;> exact ⟨rfl, rfl⟩

/-- A turn sends one packet under the next count of the samples, or fails and sends nothing. -/
theorem SpacecraftState.telemetryTurn_counts (state : SpacecraftState) (tick : Nat)
    (draw : TelemetryDraw) :
    (∃ failure, (state.telemetryTurn tick draw).1 = .error failure ∧
      (state.telemetryTurn tick draw).2.healthSequence = state.healthSequence ∧
      (state.telemetryTurn tick draw).2.ackSequence = state.ackSequence) ∨
    ∃ payload raw, (state.telemetryTurn tick draw).1 = .ok raw ∧
      encodeSpacePacket apidHealth state.healthSequence payload = .ok raw ∧
      (state.telemetryTurn tick draw).2.healthSequence = (state.healthSequence + 1) % 2 ^ 14 ∧
      (state.telemetryTurn tick draw).2.ackSequence = state.ackSequence := by
  have wrapped : ∀ value : Int, Int.land value 0x3FFF = value % 2 ^ 14 :=
    fun value => Mask.land_mask value 14
  rw [telemetryTurn]
  -- An anomaly sets a flag, which no count depends on.
  cases draw.anomaly tick <;> simp only [if_true, if_false, Bool.false_eq_true]
  all_goals
    split
    next failure _ => exact .inl ⟨failure, rfl, rfl, rfl⟩
    next raw encoded =>
      rw [encodeHealth, bind_eq_ok] at encoded
      obtain ⟨payload, -, framed⟩ := encoded
      exact .inr ⟨payload, raw, rfl, framed, wrapped _, rfl⟩

namespace HealthSystem

/-- The count that the next packet of an APID carries. -/
def nextCount (system : HealthSystem) (apid : Int) : Int :=
  if apid = apidHealth then system.spacecraft.healthSequence
  else if apid = apidCommandAck then system.spacecraft.ackSequence
  else 0

/-- An event of the flight sends nothing or one packet, which takes the next count of its APID. -/
theorem Airborne.sends {before after : HealthSystem} (flown : Airborne before after) :
    (after.downlink = before.downlink ∧ ∀ apid, after.nextCount apid = before.nextCount apid) ∨
      ∃ kind payload raw, encodeSpacePacket kind (before.nextCount kind) payload = .ok raw ∧
        after.downlink = before.downlink ++ [raw] ∧
        ∀ apid, after.nextCount apid = if kind = apid then (before.nextCount apid + 1) % 2 ^ 14
          else before.nextCount apid := by
  have apart : apidHealth ≠ apidCommandAck := by decide
  have wrapped : ∀ value : Int, Int.land value 0x3FFF = value % 2 ^ 14 :=
    fun value => Mask.land_mask value 14
  cases flown with
  | command nowNs raw =>
    obtain ⟨health, acks⟩ := before.spacecraft.apply_counts nowNs raw
    rw [receive, SpacecraftState.datagramReceived]
    generalize before.spacecraft.apply nowNs raw = outcome at health acks
    obtain ⟨reply, next⟩ := outcome
    dsimp only at health acks
    -- A frame that does not decode is not answered, nor is one whose answer cannot be packed.
    cases reply with
    | error failure =>
      refine .inl ⟨List.append_nil _, fun apid => ?_⟩
      simp only [nextCount, health, acks]
    | ok ack =>
      dsimp only
      cases encoded : encodeAck next.ackSequence ack with
      | error failure =>
        refine .inl ⟨List.append_nil _, fun apid => ?_⟩
        simp only [nextCount, health, acks]
      | ok rawAck =>
        rw [encodeAck, bind_eq_ok] at encoded
        obtain ⟨payload, -, framed⟩ := encoded
        rw [acks] at framed
        refine .inr ⟨apidCommandAck, payload, rawAck, framed, rfl, fun apid => ?_⟩
        simp only [nextCount, health, acks, wrapped]
        by_cases own : apidCommandAck = apid
        · subst own
          rw [if_neg apart.symm, if_pos rfl, if_pos rfl, if_neg apart.symm, if_pos rfl]
        · rw [if_neg (Ne.symm own), if_neg own, if_neg (Ne.symm own)]
  | turn draw =>
    -- A turn that cannot pack its sample sends nothing and keeps the count.
    rcases before.spacecraft.telemetryTurn_counts (before.tick + 1) draw with
      ⟨failure, ended, health, acks⟩ | ⟨payload, raw, sent, framed, health, acks⟩
    · refine .inl ⟨?_, fun apid => ?_⟩
      · rw [HealthSystem.turn, ended]
        exact List.append_nil _
      · simp only [nextCount, HealthSystem.turn, health, acks]
    · refine .inr ⟨apidHealth, payload, raw, framed, ?_, fun apid => ?_⟩
      · rw [HealthSystem.turn, sent]
        rfl
      · simp only [nextCount, HealthSystem.turn, health, acks]
        by_cases own : apidHealth = apid
        · subst own
          rw [if_pos rfl, if_pos rfl, if_pos rfl]
        · rw [if_neg (Ne.symm own), if_neg own, if_neg (Ne.symm own)]

/-- What one event of the flight sends is numbered on from the count before it. -/
theorem Airborne.numbered {before after : HealthSystem} (flown : Airborne before after) (apid : Int)
    {number : Int} (same : before.nextCount apid % 2 ^ 14 = number % 2 ^ 14) :
    ∃ more, after.downlink = before.downlink ++ more ∧ Numbered apid number more ∧
      after.nextCount apid % 2 ^ 14 = (number + more.countP (carries apid)) % 2 ^ 14 := by
  rcases flown.sends with ⟨still, counts⟩ | ⟨kind, payload, raw, encoded, sent, counts⟩
  · refine ⟨[], by rw [still, List.append_nil], trivial, ?_⟩
    rw [counts, same]
    simp
  · obtain ⟨numbered, counted⟩ := @numbered_packet apid _ _ number _ _ encoded
      fun own => by rw [own]; exact same
    refine ⟨[raw], sent, numbered, ?_⟩
    rw [counted, counts]
    -- Only the packets of the APID move its count.
    split_ifs <;> push_cast <;> omega

/-- What the spacecraft sends while it is up is numbered on from the count before. -/
theorem numbered_of_flight {before after : HealthSystem}
    (flown : Relation.ReflTransGen Airborne before after) (apid : Int) {number : Int}
    (same : before.nextCount apid % 2 ^ 14 = number % 2 ^ 14) :
    ∃ more, after.downlink = before.downlink ++ more ∧ Numbered apid number more := by
  -- By induction on the flight: each event goes on with the number that the one before has left.
  induction flown using Relation.ReflTransGen.head_induction_on generalizing number with
  | refl => exact ⟨[], (List.append_nil _).symm, trivial⟩
  | head step _ ih =>
    obtain ⟨first, sent, numbered, next⟩ := step.numbered apid same
    obtain ⟨rest, later, onward⟩ := ih next
    refine ⟨first ++ rest, ?_, ?_⟩
    · rw [later, sent, List.append_assoc]
    · exact numbered.append onward

/--
The ingest counts as missing exactly what the link has lost.

While the spacecraft stays up it may be sent anything and its telemetry loop takes any turns. The
link keeps the order, loses any packets and carries noise besides. As long as no burst takes as many
packets of an APID as there are counts, what the ingest has counted for it is the number of its
packets that were lost between the first and the last that arrived.
-/
theorem losses_counted {before after : HealthSystem}
    (flown : Relation.ReflTransGen Airborne before after) (events : List LinkEvent)
    (sent : after.downlink = before.downlink ++ events.filterMap LinkEvent.sent) (apid : Int)
    (noise : ∀ raw, .noise raw ∈ events → carries apid raw = false)
    (short : ShortBursts apid events) :
    (GapCounter.processAll {} (events.filterMap LinkEvent.heard)).gaps apid =
      lostBetween apid events := by
  -- What the link was given is what the flight has sent.
  obtain ⟨more, told, numbered⟩ := numbered_of_flight flown apid rfl
  obtain rfl := List.append_cancel_left (told.symm.trans sent)
  have counted := @gaps_before_arrival apid events {} _ rfl numbered noise short
  rw [counted]
  exact Int.zero_add _

section Sample

/-- Nothing unusual happens in a turn. -/
def steadyDraw : SpacecraftState.TelemetryDraw := ⟨0, 0, 284 / 10, 31⟩

/-- The datagram of a turn under a count. -/
def steadyFrame (sequenceCount : Int) : Bytes :=
  (encodeHealth sequenceCount ⟨0, 284 / 10, 31, 1200, 1, 0⟩).toOption.getD []

/-- The second of three datagrams is lost. -/
def steadyEvents : List LinkEvent :=
  [.delivered (steadyFrame 0), .noise [0], .lost (steadyFrame 1), .delivered (steadyFrame 2)]

/-- The loss of the second datagram is counted. -/
theorem steady_loss_counted :
    (GapCounter.processAll {} (steadyEvents.filterMap LinkEvent.heard)).gaps apidHealth = 1 := by
  -- The noise is no packet of the APID, and one datagram of three is lost.
  have flown : Relation.ReflTransGen Airborne ({} : HealthSystem)
      ((({} : HealthSystem).turn steadyDraw).turn steadyDraw |>.turn steadyDraw) :=
    .tail (.tail (.tail .refl (.turn steadyDraw)) (.turn steadyDraw)) (.turn steadyDraw)
  have noise : ∀ raw, .noise raw ∈ steadyEvents → carries apidHealth raw = false := by
    intro raw member
    simp only [steadyEvents, List.mem_cons, List.not_mem_nil, LinkEvent.noise.injEq, reduceCtorEq,
      or_false, false_or] at member
    rw [member]
    decide +kernel
  have lost : lostBetween apidHealth steadyEvents = 1 := by decide +kernel
  rw [losses_counted flown steadyEvents (by decide +kernel) apidHealth noise
    (ShortBursts.of_length (by decide)), lost]
  rfl

end Sample

end HealthSystem

end Cislunar
