import Cislunar.Proofs.Services.Verdicts
import Cislunar.Proofs.Services.VendorSimulator
import Cislunar.Services.VendorForwarder

/-!
What the vendor and the gateway agree on while frames are handed off.

Every handoff carries the bytes of a frame under an identifier that only its own handler uses, so all
handoffs under one identifier are the same request.
-/

namespace Cislunar

open Foundation Foundation.Prog

namespace VendorLink

/-- A request is a handoff that arrives. -/
def Posted (link : VendorLink) (request : VendorRequest) : Prop :=
  ∃ handoff ∈ link.handoffs, ∃ chunks, chunks.flatten = handoff.content ∧
    request = handoff.arriving chunks

/-- A choice of processes for all places gives the used places what they were given. -/
def Agrees (link : VendorLink) (assign : Nat → Process) : Prop :=
  ∀ place process, link.assigned place = some process → assign place = process

/-- The identifiers that were drawn. -/
def identifiers (link : VendorLink) : List UUID :=
  link.issued.map Prod.fst

/-- The handoffs under an identifier. -/
def under (link : VendorLink) (id : UUID) : List Handoff :=
  link.handoffs.filter (·.requestId = id.str)

/-- A frame that a call has returned, as a failure mode leaves it. -/
def Draws (link : VendorLink) (sent : Bytes × String) : Prop :=
  ∃ mode, ∃ answer ∈ link.host.returned, sent = (applyWireFailure answer.1 mode, answer.2)

/-- What holds between any two events on the link to a ground system. -/
structure Good (system : Machine Nat Failure Request Request.Reply Ground)
    (settings : GroundSettings) (vendor : VendorSettings) (link : VendorLink) : Prop where
  /-- The ground has run with the processes that the places were given. -/
  run : ∀ assign, link.Agrees assign →
    Relation.ReflTransGen (AssignedStep system assign) GroundConfig.initial link.ground
  posts : ∀ place process, link.assigned place = some process →
    process.Posts settings link.Posted
  numbered : ∃ frames, link.host.Numbered frames
  last : ∀ sent, link.lastFrame = some sent → sent ∈ link.host.returned
  distinct : link.identifiers.Nodup
  versions : ∀ id ∈ link.identifiers, id.version = some 4
  handoffs : ∀ handoff ∈ link.handoffs, ∃ id ∈ link.identifiers, ∃ sent, link.Draws sent ∧
    handoff = vendor.handoff sent.1 id
  repeated : ∀ id, ∃ handoff, ∃ count ≤ 3, link.under id = List.replicate count handoff

/-- How the link may change while a handler waits. -/
structure Grows (system : Machine Nat Failure Request Request.Reply Ground) (thread : Nat)
    (before after : VendorLink) : Prop where
  issued : ∀ entry ∈ before.issued, entry ∈ after.issued
  returned : ∀ answer ∈ before.host.returned, answer ∈ after.host.returned
  /-- Nobody else sends under an identifier of the handler. -/
  own : ∀ id, (id, thread) ∈ before.issued → after.under id = before.under id
  assigned : ∀ place process, before.assigned place = some process →
    after.assigned place = some process
  /-- The ground has gone on with the processes of the places. -/
  run : ∀ assign, after.Agrees assign →
    Relation.ReflTransGen (AssignedStep system assign) before.ground after.ground

namespace Grows
variable {system : Machine Nat Failure Request Request.Reply Ground} {thread : Nat}
  {first second third : VendorLink}

/-- A link that stays as it is has grown. -/
theorem refl (system : Machine Nat Failure Request Request.Reply Ground) (thread : Nat)
    (link : VendorLink) : Grows system thread link link :=
  ⟨fun _ => id, fun _ => id, fun _ _ => rfl, fun _ _ => id, fun _ _ => .refl⟩

/-- Who agrees with the places of later agrees with those of before. -/
theorem agrees (grows : Grows system thread first second) {assign : Nat → Process}
    (agrees : second.Agrees assign) : first.Agrees assign :=
  fun place process given => agrees place process (grows.assigned place process given)

/-- What has grown twice has grown. -/
theorem trans (early : Grows system thread first second) (late : Grows system thread second third) :
    Grows system thread first third where
  issued entry member := late.issued entry (early.issued entry member)
  returned answer member := late.returned answer (early.returned answer member)
  own id drawn := (late.own id (early.issued _ drawn)).trans (early.own id drawn)
  assigned place process given := late.assigned place process (early.assigned place process given)
  run assign agrees := (early.run assign (late.agrees agrees)).trans (late.run assign agrees)

/-- A drawn frame stays drawn. -/
theorem draws (grows : Grows system thread first second) {sent : Bytes × String}
    (draws : first.Draws sent) : second.Draws sent := by
  -- An answer that was returned stays returned.
  obtain ⟨mode, answer, member, same⟩ := draws
  exact ⟨mode, answer, grows.returned answer member, same⟩

end Grows

end VendorLink

/-- The agreement of the handlers of the vendor. -/
def linkProtocol (system : Machine Nat Failure Request Request.Reply Ground)
    (settings : GroundSettings) (vendor : VendorSettings) :
    Protocol Nat VendorFailure VendorCall VendorCall.Reply VendorLink where
  invariant := VendorLink.Good system settings vendor
  rely := VendorLink.Grows system
  action _ _ _ _ _ := True
  rely_refl := VendorLink.Grows.refl system
  rely_trans _ _ _ _ := VendorLink.Grows.trans

/-- A request that is posted stays posted while there are more handoffs. -/
theorem Process.Posts.mono {settings : GroundSettings} {process : Process}
    {fewer more : VendorRequest → Prop} (posts : process.Posts settings fewer)
    (wider : ∀ request, fewer request → more request) : process.Posts settings more := by
  -- Only the gateway posts a request.
  cases process with
  | gateway used request => exact ⟨posts.1, fun token => wider request (posts.2 token)⟩
  | startup | worker => trivial

/-- Different identifiers print differently. -/
theorem UUID.str_injective {first second : UUID} (same : first.str = second.str) :
    first = second := by
  -- The text parses back to the uuid it was made from.
  have texts : first.toText = second.toText := String.ofList_inj.mp same
  have parsed := parseUuid_toText first
  rw [texts, parseUuid_toText] at parsed
  exact (Option.some.inj parsed).symm

/-- Whatever happens to the simulator, what its calls have returned stays. -/
theorem PayloadHost.returned_perform {host : PayloadHost} (event : PayloadEvent)
    {answer : Bytes × String} (member : answer ∈ host.returned) :
    answer ∈ (host.perform event).returned := by
  -- One case per event; a call that returns appends.
  cases event with
  | restart readable writable =>
    rw [PayloadHost.perform]
    split <;> exact member
  | makeFrame request writable timestampUs survives =>
    rw [PayloadHost.perform]
    split
    next => exact member
    next =>
      split
      split_ifs
      · exact List.mem_append_left _ member
      · exact member

namespace VendorLink
variable {system : Machine Nat Failure Request Request.Reply Ground} {settings : GroundSettings}
  {vendor : VendorSettings} {link after : VendorLink}

section Changes

/-- The link after something has happened to the simulator. -/
theorem Good.simulate (good : link.Good system settings vendor) (event : PayloadEvent)
    (last : Option (Bytes × String))
    (among : ∀ sent, last = some sent → sent ∈ (link.host.perform event).returned) :
    Good system settings vendor { link with host := link.host.perform event, lastFrame := last } ∧
      ∀ thread, link.Grows system thread { link with
        host := link.host.perform event
        lastFrame := last } := by
  -- The frames of the simulator stay numbered, and the handoffs carry frames from before.
  have returned : ∀ answer ∈ link.host.returned, answer ∈ (link.host.perform event).returned :=
    fun _ => PayloadHost.returned_perform event
  refine ⟨{ good with numbered := ?_, last := among, handoffs := ?_ },
    fun thread => { Grows.refl system thread link with returned := returned }⟩
  · obtain ⟨frames, numbered⟩ := good.numbered
    obtain ⟨more, performed⟩ := numbered.perform event
    exact ⟨_, performed⟩
  · intro handoff member
    obtain ⟨id, drawn, sent, ⟨mode, answer, old, same⟩, content⟩ := good.handoffs handoff member
    exact ⟨id, drawn, sent, ⟨mode, answer, returned answer old, same⟩, content⟩

/-- The processes of the places, where a place was given one. -/
def process (link : VendorLink) (place : Nat) : Process :=
  (link.assigned place).getD .startup

/-- The places have the processes that they were given. -/
theorem agrees_process (link : VendorLink) : link.Agrees link.process := by
  -- A place that was given keeps its process.
  intro place process given
  rw [VendorLink.process, given, Option.getD_some]

/-- What the places were given posts handoffs of the link. -/
theorem Good.posts_process (good : link.Good system settings vendor) (place : Nat) :
    (link.process place).Posts settings link.Posted := by
  -- A place without a process posts nothing.
  cases given : link.assigned place with
  | none =>
    rw [VendorLink.process, given]
    trivial
  | some process =>
    rw [link.agrees_process place process given]
    exact good.posts place process given

/-- The ground takes a step of its own. -/
theorem Good.step (good : link.Good system settings vendor) {next : GroundConfig}
    (step : Step system (fun _ _ _ => False) Ground.Ticks link.ground next) :
    Good system settings vendor { link with ground := next } ∧
      ∀ thread, link.Grows system thread { link with ground := next } := by
  -- The step starts no process, so it is a step under every assignment.
  have taken : ∀ assign, AssignedStep system assign link.ground next := fun assign =>
    step.starting fun _ _ _ starting => starting.elim
  exact ⟨{ good with run := fun assign agrees => (good.run assign agrees).tail (taken assign) },
    fun thread => { Grows.refl system thread link with run := fun assign _ => .single (taken assign) }⟩

/-- A process starts in a free place. -/
theorem Good.start (good : link.Good system settings vendor) {place : Nat}
    (free : link.Free place) {process : Process} (posts : process.Posts settings link.Posted) :
    Good system settings vendor (link.start place process) ∧
      ∀ thread, link.Grows system thread (link.start place process) := by
  have kept : ∀ other given, link.assigned other = some given →
      (link.start place process).assigned other = some given := by
    intro other given assigned
    refine (Function.update_of_ne ?_ _ _).trans assigned
    rintro rfl
    rw [Option.isNone_iff_eq_none.mp free.1] at assigned
    cases assigned
  -- The new program is the one of the process that the place is given.
  have started : ∀ assign, (link.start place process).Agrees assign →
      AssignedStep system assign link.ground (link.start place process).ground := by
    intro assign agrees
    have here : assign place = process := agrees place process (Function.update_self ..)
    refine .start (Option.isNone_iff_eq_none.mp free.2) ?_
    rw [here]
  refine ⟨{ good with run := fun assign agrees => ?_, posts := fun other given assigned => ?_ },
    fun thread => { Grows.refl system thread link with
      assigned := kept
      run := fun assign agrees => .single (started assign agrees) }⟩
  · exact (good.run assign fun other given assigned => agrees other given
      (kept other given assigned)).tail (started assign agrees)
  · rcases update_eq_some.mp assigned with ⟨rfl, same⟩ | ⟨-, old⟩
    · cases same
      exact posts
    · exact good.posts other given old

/-- An identifier is drawn that was never drawn before. -/
theorem Good.issue (good : link.Good system settings vendor) {id : UUID} (thread : Nat)
    (version : id.version = some 4) (fresh : id ∉ link.identifiers) :
    Good system settings vendor { link with issued := link.issued ++ [(id, thread)] } ∧
      (∀ other, link.Grows system other { link with issued := link.issued ++ [(id, thread)] }) ∧
      link.under id = [] := by
  have identifiers : (link.issued ++ [(id, thread)]).map Prod.fst = link.identifiers ++ [id] := by
    rw [List.map_append]
    rfl
  refine ⟨{ good with distinct := ?_, versions := ?_, handoffs := ?_ },
    fun other => { Grows.refl system other link with issued := ?_ }, ?_⟩
  · rw [VendorLink.identifiers, identifiers, List.nodup_append]
    refine ⟨good.distinct, List.nodup_singleton id, fun old drawn new same equal => ?_⟩
    rw [List.mem_singleton.mp same] at equal
    exact fresh (equal ▸ drawn)
  · intro other drawn
    rw [VendorLink.identifiers, identifiers] at drawn
    rcases List.mem_append.mp drawn with old | new
    · exact good.versions other old
    · rwa [List.mem_singleton.mp new]
  · intro handoff member
    obtain ⟨other, drawn, rest⟩ := good.handoffs handoff member
    refine ⟨other, ?_, rest⟩
    rw [VendorLink.identifiers, identifiers]
    exact List.mem_append_left _ drawn
  · exact fun entry member => List.mem_append_left _ member
  · -- A handoff under the identifier would have drawn it.
    refine List.filter_eq_nil_iff.mpr fun handoff member same => ?_
    obtain ⟨other, drawn, sent, -, rfl⟩ := good.handoffs handoff member
    have equal : other = id := UUID.str_injective (of_decide_eq_true same)
    exact fresh (equal ▸ drawn)

/-- A handler has sent a handoff some times, under an identifier that it has drawn. -/
structure Sent (vendor : VendorSettings) (thread : Nat) (sent : Bytes × String) (id : UUID)
    (count : Nat) (link : VendorLink) : Prop where
  draws : link.Draws sent
  issued : (id, thread) ∈ link.issued
  times : link.under id = List.replicate count (vendor.handoff sent.1 id)

/-- The handoffs under an identifier after one more was made under it. -/
theorem under_record (link : VendorLink) (handoff : Handoff) (id : UUID) :
    (link.record handoff).under id =
      link.under id ++ if handoff.requestId = id.str then [handoff] else [] := by
  -- The new handoff is last, and it is under the identifier exactly when it names it.
  rw [under, record, List.filter_append, under]
  congr 1
  split_ifs with same
  · exact List.filter_cons_of_pos (decide_eq_true same)
  · exact List.filter_cons_of_neg (by simpa using same)

/-- A handler sends its handoff once more. -/
theorem Good.record (good : link.Good system settings vendor) {thread : Nat} {sent : Bytes × String}
    {id : UUID} {count : Nat} (before : link.Sent vendor thread sent id count) (few : count < 3) :
    Good system settings vendor (link.record (vendor.handoff sent.1 id)) ∧
      (∀ other, other ≠ thread → link.Grows system other (link.record (vendor.handoff sent.1 id))) ∧
      (link.record (vendor.handoff sent.1 id)).Sent vendor thread sent id (count + 1) := by
  have own : (link.record (vendor.handoff sent.1 id)).under id =
      List.replicate (count + 1) (vendor.handoff sent.1 id) := by
    have named : (vendor.handoff sent.1 id).requestId = id.str := rfl
    rw [under_record, if_pos named, before.times, ← List.replicate_succ']
  have others : ∀ other, other ≠ id →
      (link.record (vendor.handoff sent.1 id)).under other = link.under other := by
    intro other different
    rw [under_record, if_neg, List.append_nil]
    exact fun same => different (UUID.str_injective same).symm
  have drawn : id ∈ link.identifiers := List.mem_map.mpr ⟨_, before.issued, rfl⟩
  refine ⟨{ good with posts := ?_, handoffs := ?_, repeated := ?_ },
    fun other different => { Grows.refl system other link with own := ?_ },
    ⟨before.draws, before.issued, own⟩⟩
  · intro place process given
    refine (good.posts place process given).mono ?_
    rintro request ⟨handoff, member, rest⟩
    exact ⟨handoff, List.mem_append_left _ member, rest⟩
  · intro handoff member
    rcases List.mem_append.mp member with old | new
    · exact good.handoffs handoff old
    · rw [List.mem_singleton.mp new]
      exact ⟨id, drawn, sent, before.draws, rfl⟩
  · intro other
    by_cases same : other = id
    · subst same
      exact ⟨_, count + 1, few, own⟩
    · rw [others other same]
      exact good.repeated other
  · -- Only one handler has drawn the identifier.
    refine fun other entry => others other fun same => different ?_
    subst same
    have unique := List.inj_on_of_nodup_map good.distinct entry before.issued rfl
    exact congrArg Prod.snd unique

end Changes

/-- What the vendor is told about a handoff: what its handler has answered, or that one has raised. -/
def Told (system : Machine Nat Failure Request Request.Reply Ground) (settings : GroundSettings)
    (handoff : Handoff) (answer : GroundAnswer) (link : VendorLink) : Prop :=
  (∃ chunks place, ∃ response : Response, chunks.flatten = handoff.content ∧
      answer = ⟨response.statusCode, .json response.content⟩ ∧
      link.assigned place = some (.gateway settings (handoff.arriving chunks)) ∧
      -- The ground may have gone on since then.
      ∀ assign, link.Agrees assign → ∃ earlier : GroundConfig,
        Relation.ReflTransGen (AssignedStep system assign) GroundConfig.initial earlier ∧
        earlier.threads place = some (.done (some response)) ∧
        Relation.ReflTransGen (AssignedStep system assign) earlier link.ground) ∨
  answer = ⟨500, .text "Internal Server Error"⟩

section Walk
variable {thread : Nat} {sent : Bytes × String} {id : UUID} {count : Nat}

/-- What a handler has sent does not change while it waits. -/
theorem kept_sent : Kept (linkProtocol system settings vendor) thread (Sent vendor thread sent id count) :=
  fun _ _ held grows _ =>
    ⟨grows.draws held.draws, grows.issued _ held.issued, (grows.own _ held.issued).trans held.times⟩

/-- What the vendor was told it was told for good. -/
theorem kept_told (handoff : Handoff) (answer : GroundAnswer) :
    Kept (linkProtocol system settings vendor) thread (Told system settings handoff answer) := by
  -- The response was given in an earlier run, which the run so far continues.
  rintro before after (⟨chunks, place, response, whole, same, given, ran⟩ | raised) grows -
  · refine Or.inl ⟨chunks, place, response, whole, same, grows.assigned _ _ given,
      fun assign agrees => ?_⟩
    obtain ⟨earlier, early, finished, late⟩ := ran assign (grows.agrees agrees)
    exact ⟨earlier, early, finished, late.trans (grows.run assign agrees)⟩
  · exact Or.inr raised

/-- A frame that is taken is the last one, or a call has just returned it. -/
theorem takeFrame_cases {request : TelemetryRequest} {writable : Bool} {timestampUs : Int}
    {reply : Except VendorFailure (Bytes × String)}
    (performed : link.takeFrame request writable timestampUs = some (reply, after)) :
    (after = link ∧ ∀ frame, reply = .ok frame → link.lastFrame = some frame) ∨
    ∃ last, after = { link with
        host := link.host.perform (.makeFrame request writable timestampUs true)
        lastFrame := last } ∧
      (∀ frame, last = some frame → link.lastFrame = some frame ∨ frame ∈ after.host.returned) ∧
      ∀ frame, reply = .ok frame → ∃ answer ∈ after.host.returned,
        frame = (applyWireFailure answer.1 request.failureMode, answer.2) := by
  rw [takeFrame] at performed
  split at performed
  next => cases performed
  next simulator running =>
    -- What the call answers is what the host adds to its answers.
    have returned : ∀ answer,
        (simulator.makeFrame request writable timestampUs link.host.file).1 = .ok answer →
          answer ∈ (link.host.perform (.makeFrame request writable timestampUs true)).returned := by
      intro answer made
      rw [PayloadHost.perform, running]
      dsimp only
      rw [if_pos rfl, made]
      exact List.mem_append_right _ List.mem_cons_self
    split at performed
    next =>
      split at performed
      next =>
        cases performed
        exact Or.inl ⟨rfl, fun frame same => by cases same⟩
      next last found =>
        cases performed
        refine Or.inl ⟨rfl, fun frame same => ?_⟩
        rw [found, Except.ok.inj same]
    next =>
      split at performed
      next =>
        cases performed
        exact Or.inr ⟨link.lastFrame, rfl, fun _ => Or.inl, fun frame same => by cases same⟩
      next raw messageId made =>
        cases performed
        refine Or.inr ⟨_, rfl, fun frame same => ?_, fun frame same => ?_⟩
        · split_ifs at same with intact
          · have whole : applyWireFailure raw request.failureMode = raw := by
              rcases intact with mode | mode <;> rw [mode] <;> rfl
            rw [whole, Option.some.injEq] at same
            exact Or.inr (same ▸ returned _ made)
          · exact Or.inl same
        · exact ⟨_, returned _ made, (Except.ok.inj same).symm⟩

/-- A handler takes a frame that a call has returned. -/
theorem takeFrame_draws (request : TelemetryRequest) :
    Keeps (linkProtocol system settings vendor) (machine settings) thread (fun _ => True)
      (Prog.call (.takeFrame request)) fun frame link => link.Draws frame := by
  -- The frame is a new one, or the last one again.
  refine .call (Kept.const True) fun before good _ choice reply after performed => ?_
  cases choice with
  | identifier | arrives | answered | lost => cases performed
  | frame writable timestampUs =>
    rcases takeFrame_cases performed with ⟨rfl, last⟩ | ⟨last, same, among, draws⟩
    · refine ⟨⟨good, fun other _ => Grows.refl system other _, trivial⟩, trivial, fun frame same => ?_⟩
      exact ⟨.none, frame, good.last frame (last frame same), rfl⟩
    · have kept : ∀ frame, last = some frame → frame ∈
          (before.host.perform (.makeFrame request writable timestampUs true)).returned := by
        intro frame chosen
        rcases among frame chosen with old | new
        · exact PayloadHost.returned_perform _ (good.last frame old)
        · rwa [same] at new
      have grown := good.simulate (.makeFrame request writable timestampUs true) last kept
      rw [← same] at grown
      refine ⟨⟨grown.1, fun other _ => grown.2 other, trivial⟩, trivial, fun frame told => ?_⟩
      exact ⟨request.failureMode, draws frame told⟩

/-- A handler draws an identifier under which nothing was sent. -/
theorem uuid4_draws : Keeps (linkProtocol system settings vendor) (machine settings) thread
    (fun link => link.Draws sent) (Prog.call .uuid4) fun id => Sent vendor thread sent id 0 := by
  -- The identifier is one that was never drawn, so nothing was sent under it.
  refine .call (fun before after held grows _ => grows.draws held)
    fun before good draws choice reply after performed => ?_
  cases choice with
  | frame | arrives | answered | lost => cases performed
  | identifier drawn =>
    dsimp only [machine] at performed
    split_ifs at performed with valid
    cases performed
    obtain ⟨kept, grows, unused⟩ := good.issue thread valid.1 valid.2
    refine ⟨⟨kept, fun other _ => grows other, trivial⟩, draws, ?_⟩
    rintro id same
    cases same
    exact ⟨draws, List.mem_append_right _ List.mem_cons_self, unused⟩

/-- A place was given the handler of a handoff that has arrived. -/
def Given (settings : GroundSettings) (handoff : Handoff) (place : Nat) (link : VendorLink) : Prop :=
  ∃ chunks, chunks.flatten = handoff.content ∧
    link.assigned place = some (.gateway settings (handoff.arriving chunks))

/-- A handoff is made, and it may arrive in a free place. -/
theorem send_makes (few : count < 3) :
    Triple (linkProtocol system settings vendor) (machine settings) thread
      (Sent vendor thread sent id count) (Prog.call (.send (vendor.handoff sent.1 id)))
      fun outcome link => link.Sent vendor thread sent id (count + 1) ∧
        ∀ place, outcome = .ok place → link.Given settings (vendor.handoff sent.1 id) place := by
  refine .call kept_sent fun before good held choice reply after performed => ?_
  obtain ⟨kept, grows, made⟩ := good.record held few
  cases choice with
  | frame | identifier | answered => cases performed
  | lost =>
    cases performed
    exact ⟨⟨kept, grows, trivial⟩, made, nofun⟩
  | arrives place chunks =>
    dsimp only [machine] at performed
    split_ifs at performed with valid
    cases performed
    -- The handler of the place posts a handoff that the link has made.
    have posts : Process.Posts settings (before.record (vendor.handoff sent.1 id)).Posted
        (.gateway settings ((vendor.handoff sent.1 id).arriving chunks)) :=
      ⟨rfl, fun _ => ⟨_, List.mem_append_right _ List.mem_cons_self, chunks, valid.1, rfl⟩⟩
    have free : (before.record (vendor.handoff sent.1 id)).Free place := valid.2
    obtain ⟨started, grows'⟩ := kept.start free posts
    refine ⟨⟨started, fun other different => (grows other different).trans (grows' other), trivial⟩,
      ⟨made.draws, made.issued, made.times⟩, ?_⟩
    rintro here same
    cases same
    exact ⟨chunks, valid.1, Function.update_self ..⟩

/-- The answer of a place is what its handler has answered, or that it has raised. -/
theorem answer_tells (place : Nat) :
    Triple (linkProtocol system settings vendor) (machine settings) thread
      (fun link => link.Sent vendor thread sent id count ∧
        link.Given settings (vendor.handoff sent.1 id) place) (Prog.call (.answer place))
      fun outcome link => link.Sent vendor thread sent id count ∧
        ∀ answer, outcome = .ok answer → link.Told system settings (vendor.handoff sent.1 id) answer := by
  have waits : Kept (linkProtocol system settings vendor) thread fun link =>
      link.Sent vendor thread sent id count ∧
        link.Given settings (vendor.handoff sent.1 id) place := by
    rintro before after ⟨held, chunks, whole, given⟩ grows valid
    exact ⟨kept_sent before after held grows valid, chunks, whole, grows.assigned _ _ given⟩
  refine .call waits fun before good held choice reply after performed => ?_
  obtain ⟨made, chunks, whole, given⟩ := held
  have still : Permitted (linkProtocol system settings vendor) thread before (.answer place) reply before :=
    ⟨good, fun other _ => Grows.refl system other _, trivial⟩
  cases choice with
  | frame | identifier | arrives => cases performed
  | lost =>
    cases performed
    exact ⟨still, made, nofun⟩
  | answered =>
    obtain ⟨answer, read, same⟩ := Option.map_eq_some_iff.mp performed
    cases same
    refine ⟨still, made, ?_⟩
    rintro told equal
    cases equal
    rw [groundAnswer] at read
    split at read
    next response finished =>
      cases read
      -- The handler in the place has answered just now.
      exact Or.inl ⟨chunks, place, response, whole, rfl, given, fun assign agrees =>
        ⟨before.ground, good.run assign agrees, finished, .refl⟩⟩
    next =>
      cases read
      exact Or.inr rfl
    next => cases read

/-- A post sends the handoff once more, if its headers can be encoded, and may be answered. -/
theorem postHandoff_sends (few : count < 3) :
    Triple (linkProtocol system settings vendor) (machine settings) thread
      (Sent vendor thread sent id count) (postHandoff (vendor.handoff sent.1 id))
      fun outcome link =>
        (∀ answer, outcome = .ok answer → link.Sent vendor thread sent id (count + 1) ∧
          link.Told system settings (vendor.handoff sent.1 id) answer) ∧
        (outcome = .error .client → link.Sent vendor thread sent id (count + 1)) := by
  -- The post may fail before or after it was sent; where it may be repeated, it counts.
  rw [postHandoff]
  split_ifs with ascii
  · have answers : ∀ place, Triple (linkProtocol system settings vendor) (machine settings) thread
        (fun link => link.Sent vendor thread sent id (count + 1) ∧
          link.Given settings (vendor.handoff sent.1 id) place) (Prog.call (.answer place))
        fun outcome link =>
          (∀ answer, outcome = .ok answer → link.Sent vendor thread sent id (count + 1) ∧
            link.Told system settings (vendor.handoff sent.1 id) answer) ∧
          (outcome = .error .client → link.Sent vendor thread sent id (count + 1)) :=
      fun place => (answer_tells place).weaken (fun _ held => held) fun outcome link held =>
        ⟨fun answer same => ⟨held.1, held.2 answer same⟩, fun _ => held.1⟩
    refine Triple.bind ((send_makes few).weaken (fun _ held => held) ?_) answers
    exact fun outcome link held =>
      ⟨fun place same => ⟨held.1, held.2 place same⟩, fun error same => ⟨nofun, fun _ => held.1⟩⟩
  · exact .raise fun link held => ⟨nofun, nofun⟩

/-- An attempt sends the handoff once more, whether it is answered or not. -/
theorem attemptHandoff_sends (few : count < 3) (attempt : Nat) :
    Returns (linkProtocol system settings vendor) (machine settings) thread
      (Sent vendor thread sent id count) (attemptHandoff (vendor.handoff sent.1 id) attempt)
      fun outcome link => link.Sent vendor thread sent id (count + 1) ∧
        ∀ answer, outcome = some answer → link.Told system settings (vendor.handoff sent.1 id) answer := by
  have body : Triple (linkProtocol system settings vendor) (machine settings) thread
      (Sent vendor thread sent id count)
      (do return some (← postHandoff (vendor.handoff sent.1 id))) fun outcome link =>
        (∀ answer, outcome = .ok answer → link.Sent vendor thread sent id (count + 1) ∧
          ∀ told, answer = some told → link.Told system settings (vendor.handoff sent.1 id) told) ∧
        (outcome = .error .client → link.Sent vendor thread sent id (count + 1)) := by
    have finishes : ∀ answer, Triple (linkProtocol system settings vendor) (machine settings) thread
        (fun link => link.Sent vendor thread sent id (count + 1) ∧
          link.Told system settings (vendor.handoff sent.1 id) answer) (Prog.done (some answer))
        fun outcome link =>
          (∀ answer, outcome = .ok answer → link.Sent vendor thread sent id (count + 1) ∧
            ∀ told, answer = some told → link.Told system settings (vendor.handoff sent.1 id) told) ∧
          (outcome = .error .client → link.Sent vendor thread sent id (count + 1)) := by
      refine fun answer => .done fun link held => ⟨fun outcome same => ?_, nofun⟩
      cases same
      refine ⟨held.1, fun told same => ?_⟩
      cases same
      exact held.2
    refine Triple.bind ((postHandoff_sends few).weaken (fun _ held => held) ?_) finishes
    refine fun outcome link held => ⟨held.1, fun failure same => ⟨nofun, fun equal => ?_⟩⟩
    cases equal
    exact held.2 same
  -- Only a failure of the client is handled, and the handoff was made before it failed.
  have handles : ∀ failure : VendorFailure, Returns (linkProtocol system settings vendor) (machine settings)
      thread (fun link => failure = .client → link.Sent vendor thread sent id (count + 1))
      (if failure = .client ∧ attempt ≠ 3 then Prog.done none else raise failure)
      fun outcome link => link.Sent vendor thread sent id (count + 1) ∧
        ∀ answer, outcome = some answer → link.Told system settings (vendor.handoff sent.1 id) answer := by
    intro failure
    split_ifs with again
    · exact .done fun link made => ⟨made again.1, nofun⟩
    · exact .raise
  refine Triple.tryCatch ?_ handles
  refine body.weaken (fun _ held => held) fun outcome link held =>
    ⟨fun answer same value equal => ?_, fun failure same client => ?_⟩
  · cases equal
    exact held.1 _ same
  · cases client
    exact held.2 same

/-- The attempts of a handler end with an answer to its handoff, if with any. -/
theorem forwardAttempts_tells (attempts : List Nat) (few : count + attempts.length ≤ 3) :
    Returns (linkProtocol system settings vendor) (machine settings) thread
      (Sent vendor thread sent id count) (forwardAttempts (vendor.handoff sent.1 id) attempts)
      fun answer link => link.Told system settings (vendor.handoff sent.1 id) answer ∧
        ∃ count, link.Sent vendor thread sent id count := by
  -- By induction on the attempts; each of them sends the handoff once more.
  induction attempts generalizing count with
  | nil => exact .raise
  | cons attempt rest ih =>
    rw [List.length_cons] at few
    refine (attemptHandoff_sends (by omega) attempt).bind fun outcome => ?_
    cases outcome with
    | none => exact (ih (by omega)).weaken (fun _ held => held.1) fun _ _ => fun held => held
    | some response =>
      dsimp only
      split_ifs
      · exact .done fun link held => ⟨held.2 response rfl, _, held.1⟩
      · exact (ih (by omega)).weaken (fun _ held => held.1) fun _ _ => fun held => held

/-- What is behind the answer to a submission. -/
structure Backs (system : Machine Nat Failure Request Request.Reply Ground)
    (settings : GroundSettings) (vendor : VendorSettings) (submission : Submission)
    (link : VendorLink) : Prop where
  draws : link.Draws (submission.raw, submission.messageId)
  told : ∃ id ∈ link.identifiers, submission.requestId = id.str ∧ ∃ answer : GroundAnswer,
    link.Told system settings (vendor.handoff submission.raw id) answer ∧
      submission.groundStatus = answer.statusCode ∧ submission.groundResponse = answer.body.shown

/-- A submission that returns is backed by a frame and by an answer of the gateway. -/
theorem submitTelemetry_backs (request : TelemetryRequest) :
    Returns (linkProtocol system settings vendor) (machine settings) thread (fun _ => True)
      (submitTelemetry vendor request) (Backs system settings vendor) := by
  -- A frame is drawn, an identifier is drawn, and the attempts are told or raise.
  refine (Returns.of_keeps (takeFrame_draws request)).bind fun sent => ?_
  have draws : Keeps (linkProtocol system settings vendor) (machine settings) thread
      (fun link => link.Draws sent) (Prog.call .uuid4) fun id => Sent vendor thread sent id 0 :=
    uuid4_draws
  refine Returns.bind ((Returns.of_keeps draws).weaken (fun _ held => held.2)
    fun _ _ held => held.2) fun id => ?_
  have forwards : Returns (linkProtocol system settings vendor) (machine settings) thread
      (Sent vendor thread sent id 0) (forward vendor sent.1 id) fun answer link =>
        link.Told system settings (vendor.handoff sent.1 id) answer ∧
          ∃ count, link.Sent vendor thread sent id count :=
    forwardAttempts_tells [1, 2, 3] (by decide)
  refine Returns.bind (Returns.tryCatch forwards fun failure => ?_) fun answer => .done ?_
  · split_ifs <;> exact .raise
  · rintro link ⟨told, count, made⟩
    exact ⟨made.draws, id, List.mem_map.mpr ⟨_, made.issued, rfl⟩, rfl, answer, told, rfl, rfl⟩

end Walk

end VendorLink

end Cislunar
