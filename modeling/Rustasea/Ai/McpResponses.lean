import Rustasea.Ai.SseBlocks

namespace Rustasea.Ai.Mcp

open List Option

open Framing (completeLines lastLine)
open TransitionSystem

/-!
# Responses of a server

A request should return the result of a response that carries its id, whatever
the server sends around it.  It does when nothing before the response ends the
read loop, when no timeout loses the beginning of a line, and when the one frame
of a JSON body is the response.
-/

/-! ## What the server sends -/

/-- A client, and the beginning of a line that was lost with a `read_line`. -/
structure World where
  client : McpClient
  lost : Bytes
  deriving DecidableEq

/-- The lines of the server in what the client reads; the last may be cut off. -/
def serverLines (lost unread arrived : Bytes) (stop : Stop) : List Bytes :=
  let bytes := lost ++ (unread ++ arrived)
  arrivedLines bytes ++
    if stop = .closed ∧ lastLine lineFeed bytes ≠ [] then [lastLine lineFeed bytes]
    else []

def Line.frame? : Line → Option Json
  | frame value => some value
  | _ => none

/-- The frames of a reply: its body, or the events of its body. -/
@[grind =] def replyFrames (parse : Parser) (reply : HttpReply) : List Json :=
  match reply.response with
  | .error _ => []
  | .ok response =>
    if response.isEventStream then
      (ssePayloads response.body).filterMap fun data => (parse data).toOption
    else (parse response.body).toOption.toList

/-- The frames that the server sends for a request to see. -/
def framesOf (parse : Parser) (world : World) (exchange : Exchange) : List Json :=
  match world.client.connection, exchange with
  | .stdio unread, .read arrived stop =>
    (serverLines world.lost unread arrived stop).filterMap fun line =>
      (viewLine parse world.client.server line).frame?
  | .http, .reply reply => replyFrames parse reply
  | _, _ => []

def isResponse (id : Nat) (frame : Json) : Bool :=
  frame.id? == some id && ((frame.get? "result").isSome || (frame.get? "error").isSome)

/-- What arrives over stdio is in time; a reply may be late. -/
def InTime (client : McpClient) : Exchange → Prop
  | .reply reply => reply.elapsed ≤ client.timeout
  | _ => True

/--
The request returns a result of a frame with its id only, and it returns what
the first response to it says.
-/
structure OwnResult (parse : Parser) (world : World) (request : Request)
    (outcome : Except AiError Json) : Prop where
  own : ∀ result, outcome = .ok result → ∃ frame ∈ framesOf parse world request.exchange,
          frame.id? = some world.client.nextId ∧ frame.get? "result" = some result
  answered : InTime world.client request.exchange → ∀ response,
        (framesOf parse world request.exchange).find? (isResponse world.client.nextId) =
          some response → outcome = conclude world.client.server request.method response

/-! ## When nothing disturbs a request -/

def Line.IsQuiet (id : Nat) : Line → Prop
  | blank => True
  | unreadable _ => False
  | frame value => value.id? ≠ some id

def FramesQuiet (id : Nat) (frames : List Json) : Prop :=
  ∀ before response after, frames = before ++ response :: after → isResponse id response = true →
        (∀ frame ∈ before, isResponse id frame = false) → ∀ frame ∈ before, frame.id? ≠ some id

def LinesQuiet (id : Nat) (lines : List Line) : Prop :=
  ∀ before response after,
    lines = before ++ .frame response :: after → isResponse id response = true →
        (∀ frame, .frame frame ∈ before → isResponse id frame = false) →
          ∀ line ∈ before, line.IsQuiet id

/-- What the lines over stdio must not do to a request. -/
structure ReadUndisturbed (parse : Parser) (server : String) (id : Nat) (unread arrived : Bytes)
    (stop : Stop) : Prop where
  quiet : LinesQuiet id ((serverLines [] unread arrived stop).map (viewLine parse server))
  whole :
    stop ≠ .closed → (∀ line ∈ arrivedLines (unread ++ arrived),
        (viewLine parse server line).IsQuiet id) → lastLine lineFeed (unread ++ arrived) = []

/-- What a reply must not do to a request. -/
structure ReplyUndisturbed (parse : Parser) (client : McpClient) (reply : HttpReply) : Prop where
  succeeds : ∀ response, reply.response = .ok response → reply.elapsed ≤ client.timeout →
          (∃ frame ∈ replyFrames parse reply,
            isResponse client.nextId frame = true) →
            response.isSuccess = true ∧ reply.elapsed ≤ defaultMcpTimeout
  ownBody : ∀ response value result,
      reply.response = .ok response → response.isEventStream = false →
          parse response.body = .ok value → value.get? "error" = none →
              value.get? "result" = some result → value.id? = some client.nextId
  plain :
    ∀ response, reply.response = .ok response → response.isEventStream = true → '\r' ∉ response.body
  quiet : ∀ response, reply.response = .ok response → response.isEventStream = true →
          FramesQuiet client.nextId (replyFrames parse reply)

def Undisturbed (parse : Parser) (world : World) (request : Request) : Prop :=
  match world.client.connection, request.exchange with
  | .stdio unread, .read arrived stop =>
    ReadUndisturbed parse world.client.server world.client.nextId unread arrived stop
  | .http, .reply reply => ReplyUndisturbed parse world.client reply
  | _, _ => True

/-- The beginning of a line that is lost after a request. -/
def lostAfter (parse : Parser) (world : World) (exchange : Exchange) : Bytes :=
  match world.client.connection, exchange with
  | .stdio unread, .read arrived stop =>
    match readLines parse world.client.server world.client.nextId (arrivedLines (unread ++ arrived))
    with
    | some _ => []
    | none =>
      if stop = .closed then []
      else lastLine lineFeed (world.lost ++ (unread ++ arrived))
  | _, _ => world.lost

def step? (parse : Parser) (world : World) (next : Request) : Option World :=
  (request parse world.client next).map fun ended =>
    { client := ended.2, lost := lostAfter parse world next.exchange }

def World.connected (server : String) (timeout : Nat) (overStdio : Bool) : World where
  client :=
    { server := server
      timeout := timeout
      nextId := 1
      connection := if overStdio then .stdio [] else .http }
  lost := []

/-! ## Reading lines -/

theorem conclude_eq_ok {server method : String} {response result : Json}
    (concluded : conclude server method response = .ok result) :
    response.get? "error" = none ∧ response.get? "result" = some result := by
  unfold conclude at concluded
  cases hasError : response.get? "error" with
  | some error =>
    rw [hasError] at concluded
    cases concluded
  | none =>
    rw [hasError] at concluded
    cases hasResult : response.get? "result" with
    | none =>
      rw [hasResult] at concluded
      cases concluded
    | some held =>
      rw [hasResult] at concluded
      cases concluded
      exact ⟨rfl, rfl⟩

variable {frame : Json} {id : Nat}

theorem id_of_isResponse (responds : isResponse id frame = true) : frame.id? = some id := by
  exact beq_iff_eq.mp (Bool.and_eq_true_iff.mp responds).1

theorem readFrame_frame (id : Nat) (value : Json) :
    readFrame id (.frame value) = if value.id? = some id then some (.ok value) else none :=
  rfl

theorem readFrame_eq_none_iff {line : Line} : readFrame id line = none ↔ line.IsQuiet id := by
  cases line with
  | blank => exact ⟨fun _ => trivial, fun _ => rfl⟩
  | unreadable error =>
    constructor
    · intro isNone
      cases isNone
    · exact fun isQuiet => isQuiet.elim
  | frame value =>
    rw [readFrame_frame]
    by_cases isOwn : value.id? = some id
    · rw [if_pos isOwn]
      constructor
      · intro isNone
        cases isNone
      · exact fun differs => absurd isOwn differs
    · rw [if_neg isOwn]
      exact ⟨fun _ => isOwn, fun _ => rfl⟩

theorem line_of_readFrame {line : Line} (isRead : readFrame id line = some (.ok frame)) :
    line = .frame frame ∧ frame.id? = some id := by
  cases line with
  | blank => cases isRead
  | unreadable error => cases isRead
  | frame value =>
    rw [readFrame_frame] at isRead
    by_cases isOwn : value.id? = some id
    · rw [if_pos isOwn] at isRead
      cases isRead
      exact ⟨rfl, isOwn⟩
    · rw [if_neg isOwn] at isRead
      cases isRead

theorem readLines_fst (parse : Parser) (server : String) (id : Nat) (lines : List Bytes) :
    (readLines parse server id lines).map Prod.fst =
      (lines.map (viewLine parse server)).findSome? (readFrame id) := by
  induction lines with
  | nil => rfl
  | cons line rest ih =>
    rw [readLines, map_cons, findSome?_cons]
    cases readFrame id (viewLine parse server line) with
    | none => exact ih
    | some result => rfl

variable {lines : List Line} {response : Json}

theorem exists_of_find?_frames
    (found : (lines.filterMap Line.frame?).find? (isResponse id) = some response) :
    ∃ before after, lines = before ++ .frame response :: after ∧ isResponse id response = true ∧
      ∀ frame, .frame frame ∈ before → isResponse id frame = false := by
  induction lines with
  | nil => cases found
  | cons line rest ih =>
    have later : (rest.filterMap Line.frame?).find? (isResponse id) = some response →
        (∀ frame, line = .frame frame → isResponse id frame = false) → ∃ before after,
            line :: rest = before ++ .frame response :: after ∧ isResponse id response = true ∧
              ∀ frame, .frame frame ∈ before → isResponse id frame = false := by
      intro foundLater noResponse
      obtain ⟨before, after, rfl, responds, none⟩ := ih foundLater
      refine ⟨line :: before, after, rfl, responds, fun frame isIn => ?_⟩
      rcases mem_cons.mp isIn with isFirst | isBefore
      · exact noResponse frame isFirst.symm
      · exact none frame isBefore
    cases line with
    | blank | unreadable error =>
      refine later found fun frame same => ?_
      cases same
    | frame value =>
      have frames : ((Line.frame value :: rest).filterMap Line.frame?) =
          value :: rest.filterMap Line.frame? :=
        rfl
      rw [frames, find?_cons] at found
      cases responds : isResponse id value with
      | true =>
        rw [responds] at found
        cases found
        exact ⟨[], rest, rfl, responds, fun frame isIn => absurd isIn not_mem_nil⟩
      | false =>
        rw [responds] at found
        refine later found fun frame same => ?_
        cases same
        exact responds

theorem findSome?_readFrame (quiet : LinesQuiet id lines)
    (found : (lines.filterMap Line.frame?).find? (isResponse id) = some response) :
    lines.findSome? (readFrame id) = some (.ok response) := by
  obtain ⟨before, after, split, responds, noResponse⟩ := exists_of_find?_frames found
  have quietBefore := quiet before response after split responds noResponse
  have skipped : before.findSome? (readFrame id) = none :=
    findSome?_eq_none_iff.mpr fun line isIn =>
      readFrame_eq_none_iff.mpr (quietBefore line isIn)
  have isRead : readFrame id (.frame response) = some (.ok response) :=
    if_pos (id_of_isResponse responds)
  rw [split, findSome?_append, skipped, none_or, findSome?_cons, isRead]

/-! ## A request over stdio -/

section Stdio

variable {parse : Parser} {server : String} {id : Nat} {unread arrived : Bytes} {stop : Stop}

theorem stdioRead_fst :
    ∃ error : AiError,
      (stdioRead parse server id unread arrived stop).1 = (((serverLines [] unread arrived stop).map
          (viewLine parse server)).findSome? (readFrame id)).getD (.error error) := by
  have loop := readLines_fst parse server id (arrivedLines (unread ++ arrived))
  unfold stdioRead serverLines
  simp only [nil_append, map_append, findSome?_append, ← loop]
  cases isRead : readLines parse server id (arrivedLines (unread ++ arrived)) with
  | some ended =>
    refine ⟨.mcpProtocol server "", ?_⟩
    simp
  | none =>
    simp only [map_none, none_or]
    cases stop with
    | elapsed =>
      refine ⟨.mcpServerUnreachable server "timed out waiting for a response", ?_⟩
      have notClosed : ¬(Stop.elapsed = .closed ∧ lastLine lineFeed (unread ++ arrived) ≠ []) :=
        fun isClosed => nomatch isClosed.1
      rfl
    | failed message =>
      refine ⟨.mcpServerUnreachable server ("read failed: " ++ message), ?_⟩
      rfl
    | closed =>
      refine ⟨.mcpServerUnreachable server "server closed the connection during handshake", ?_⟩
      by_cases isEmpty : lastLine lineFeed (unread ++ arrived) = []
      · rw [if_pos isEmpty, if_neg fun isClosed => isClosed.2 isEmpty]
        rfl
      · rw [if_neg isEmpty, if_pos ⟨rfl, isEmpty⟩, map_singleton, findSome?_singleton]

theorem frame_of_stdioRead {frame : Json}
    (isRead : (stdioRead parse server id unread arrived stop).1 = .ok frame) :
    frame ∈ (serverLines [] unread arrived stop).filterMap
          (fun line => (viewLine parse server line).frame?) ∧
      frame.id? = some id := by
  obtain ⟨error, reads⟩ : ∃ error : AiError, (stdioRead parse server id unread arrived stop).1 =
      (((serverLines [] unread arrived stop).map
        (viewLine parse server)).findSome? (readFrame id)).getD
        (.error error) :=
    stdioRead_fst
  rw [reads] at isRead
  cases found : ((serverLines [] unread arrived stop).map
        (viewLine parse server)).findSome? (readFrame id) with
  | none =>
    rw [found] at isRead
    cases isRead
  | some result =>
    rw [found] at isRead
    obtain rfl : result = .ok frame := isRead
    obtain ⟨view, isView, isFrame⟩ := exists_of_findSome?_eq_some found
    obtain ⟨line, isLine, rfl⟩ := mem_map.mp isView
    obtain ⟨sameView, hasId⟩ := line_of_readFrame isFrame
    refine ⟨mem_filterMap.mpr ⟨line, isLine, ?_⟩, hasId⟩
    rw [sameView]
    rfl

theorem stdioRead_of_quiet (undisturbed : ReadUndisturbed parse server id unread arrived stop)
    {response : Json}
    (found : ((serverLines [] unread arrived stop).filterMap
      (fun line => (viewLine parse server line).frame?)).find? (isResponse id) =
      some response) : (stdioRead parse server id unread arrived stop).1 = .ok response := by
  obtain ⟨error, reads⟩ : ∃ error : AiError, (stdioRead parse server id unread arrived stop).1 =
      (((serverLines [] unread arrived stop).map
        (viewLine parse server)).findSome? (readFrame id)).getD
        (.error error) :=
    stdioRead_fst
  have viewed : (((serverLines [] unread arrived stop).map
        (viewLine parse server)).filterMap Line.frame?).find?
        (isResponse id) =
      some response := by
    rw [filterMap_map]
    exact found
  rw [reads, findSome?_readFrame undisturbed.quiet viewed]
  rfl

end Stdio

/-! ## A request over HTTP -/

section Http

variable {parse : Parser} {server : String} {id : Nat}

def carries (id : Nat) (frame : Json) : Bool := frame.id? == some id

theorem carries_iff {id : Nat} {frame : Json} : carries id frame = true ↔ frame.id? = some id :=
  beq_iff_eq

variable {response : Json}

theorem find?_id_of_quiet {frames : List Json} (quiet : FramesQuiet id frames)
    (found : frames.find? (isResponse id) = some response) :
    frames.find? (carries id) = some response := by
  obtain ⟨responds, before, after, rfl, noResponse⟩ := find?_eq_some_iff_append.mp found
  have others := quiet before response after rfl responds ?_
  · rw [find?_eq_some_iff_append]
    refine ⟨carries_iff.mpr (id_of_isResponse responds), before, after, rfl, fun frame isIn => ?_⟩
    simp [carries, others frame isIn]
  · intro frame isIn
    simpa using noResponse frame isIn

theorem parseSseResponse_eq {body : Text} (isPlain : '\r' ∉ body) (isLater : 1 ≤ id) :
    parseSseResponse parse server id body = match
        ((ssePayloads body).filterMap fun data => (parse data).toOption).find? (carries id)
      with
      | some value => .ok value
      | none =>
        .error (.mcpProtocol server "SSE response contained no matching JSON-RPC frame") := by
  have sameFrames : (splitBlocks body).filterMap (blockFrame? parse) =
      (ssePayloads body).filterMap fun data => (parse data).toOption := by
    rw [← blocks_eq_ssePayloads isPlain, filterMap_filterMap]
    rfl
  have sameTest : (fun value : Json => id == 0 || value.id? == some id) = carries id := by
    funext value
    have notFirst : (id == 0) = false := by simp; omega
    rw [notFirst, Bool.false_or, carries]
  unfold parseSseResponse
  cases found :
      ((ssePayloads body).filterMap fun data => (parse data).toOption).find? (carries id) with
  | some value => simp only [sameFrames, sameTest, found]
  | none => simp only [sameFrames, sameTest, found]

variable {client : McpClient} {reply : HttpReply}

theorem frame_of_httpRead (undisturbed : ReplyUndisturbed parse client reply)
    (isLater : 1 ≤ client.nextId) {frame result : Json}
    (isRead : httpRead parse server client.nextId reply = .ok frame)
    (noError : frame.get? "error" = none) (hasResult : frame.get? "result" = some result) :
    frame ∈ replyFrames parse reply ∧ frame.id? = some client.nextId := by
  unfold httpRead at isRead
  unfold replyFrames
  cases replied : reply.response with
  | error message =>
    rw [replied] at isRead
    cases isRead
  | ok response =>
    simp only [replied] at isRead ⊢
    by_cases isLate : defaultMcpTimeout < reply.elapsed
    · rw [if_pos isLate] at isRead
      cases isRead
    · rw [if_neg isLate] at isRead
      by_cases succeeds : response.isSuccess = true
      · rw [if_pos succeeds] at isRead
        by_cases isStream : response.isEventStream = true
        · rw [if_pos isStream,
            parseSseResponse_eq (undisturbed.plain response replied isStream) isLater]
            at isRead
          rw [if_pos isStream]
          cases found : ((ssePayloads response.body).filterMap
                fun data => (parse data).toOption).find?
                (carries client.nextId) with
          | none =>
            rw [found] at isRead
            cases isRead
          | some value =>
            rw [found] at isRead
            cases isRead
            exact ⟨mem_of_find?_eq_some found, carries_iff.mp (find?_some found)⟩
        · rw [if_neg isStream] at isRead ⊢
          cases parsed : parse response.body with
          | error message =>
            rw [parsed] at isRead
            cases isRead
          | ok value =>
            rw [parsed] at isRead
            cases isRead
            exact ⟨mem_singleton_self _, undisturbed.ownBody response _ result replied
              (Bool.eq_false_iff.mpr isStream) parsed noError
              hasResult⟩
      · rw [if_neg succeeds] at isRead
        cases isRead

/-- A reply that arrives in time is read as the first response in it. -/
theorem httpRead_of_quiet (undisturbed : ReplyUndisturbed parse client reply)
    (isLater : 1 ≤ client.nextId) (inTime : reply.elapsed ≤ client.timeout)
    (found : (replyFrames parse reply).find? (isResponse client.nextId) = some response) :
    httpRead parse server client.nextId reply = .ok response := by
  have isThere : ∃ frame ∈ replyFrames parse reply, isResponse client.nextId frame = true :=
    ⟨response, mem_of_find?_eq_some found, find?_some found⟩
  unfold httpRead
  cases replied : reply.response with
  | error message =>
    unfold replyFrames at found
    rw [replied] at found
    cases found
  | ok answer =>
    obtain ⟨succeeds, notLate⟩ := undisturbed.succeeds answer replied inTime isThere
    simp only
    rw [if_neg (Nat.not_lt.mpr notLate), if_pos succeeds]
    by_cases isStream : answer.isEventStream = true
    · have quiet := undisturbed.quiet answer replied isStream
      have first := find?_id_of_quiet quiet found
      have frames : replyFrames parse reply = (ssePayloads answer.body).filterMap
          fun data => (parse data).toOption := by
        unfold replyFrames
        rw [replied]
        exact if_pos isStream
      rw [frames] at first
      rw [if_pos isStream, parseSseResponse_eq (undisturbed.plain answer replied isStream) isLater,
        first]
    · have frames : replyFrames parse reply = (parse answer.body).toOption.toList := by
        unfold replyFrames
        rw [replied]
        exact if_neg isStream
      rw [frames] at found
      rw [if_neg isStream]
      cases parsed : parse answer.body with
      | error message =>
        rw [parsed] at found
        cases found
      | ok value =>
        rw [parsed] at found
        have same : value = response :=
          (mem_singleton.mp (mem_of_find?_eq_some found)).symm
        rw [same]

end Http

/-! ## Runs -/

/-- Nothing of a line was lost, and the ids start at one. -/
structure Whole (world : World) : Prop where
  nothingLost : world.lost = []
  isLater : 1 ≤ world.client.nextId

theorem whole_connected (server : String) (timeout : Nat) (overStdio : Bool) :
    Whole (World.connected server timeout overStdio) where
  nothingLost := rfl
  isLater := Nat.le_refl 1

variable {next : Request}

theorem Whole.step {parse : Parser} {world after : World} (whole : Whole world)
    (undisturbed : Undisturbed parse world next)
    (taken : step? parse world next = some after) : Whole after := by
  obtain ⟨ended, isEnded, rfl⟩ := map_eq_some_iff.mp taken
  obtain ⟨read, -, rfl⟩ := map_eq_some_iff.mp isEnded
  refine ⟨?_, Nat.le_succ_of_le whole.isLater⟩
  unfold lostAfter
  rcases world with ⟨⟨server, timeout, nextId, connection⟩, lost⟩
  rcases next with ⟨method, exchange⟩
  obtain rfl : lost = [] := whole.nothingLost
  cases connection with
  | http => cases exchange <;> rfl
  | stdio unread =>
    cases exchange with
    | unwritten message => rfl
    | reply reply => rfl
    | read arrived stop =>
      simp only at undisturbed ⊢
      cases isRead : readLines parse server nextId (arrivedLines (unread ++ arrived)) with
      | some result => rfl
      | none =>
        by_cases isClosed : stop = .closed
        · exact if_pos isClosed
        · rw [if_neg isClosed]
          refine undisturbed.whole isClosed fun line isLine => ?_
          have loop := readLines_fst parse server nextId (arrivedLines (unread ++ arrived))
          rw [isRead] at loop
          have noneRead := findSome?_eq_none_iff.mp loop.symm
          exact readFrame_eq_none_iff.mp (noneRead _ (mem_map_of_mem isLine))

theorem exists_of_bind_ok {read : Except AiError Json} {goesOn : Json → Except AiError Json}
    {result : Json} (isOk : read.bind goesOn = .ok result) :
    ∃ frame, read = .ok frame ∧ goesOn frame = .ok result := by
  cases read with
  | error error => cases isOk
  | ok frame => exact ⟨frame, rfl, isOk⟩

variable {world : World}

/-- An undisturbed request returns its own result. -/
theorem Whole.ownResult {parse : Parser} (whole : Whole world)
    (undisturbed : Undisturbed parse world next) {outcome : Except AiError Json}
    {client : McpClient} (returned : request parse world.client next = some (outcome, client)) :
    OwnResult parse world next outcome := by
  obtain ⟨read, isRead, isEnded⟩ := map_eq_some_iff.mp returned
  obtain ⟨rfl, -⟩ := Prod.mk.inj isEnded
  have isLater := whole.isLater
  rcases world with ⟨⟨server, timeout, nextId, connection⟩, lost⟩
  rcases next with ⟨method, exchange⟩
  obtain rfl : lost = [] := whole.nothingLost
  cases connection with
  | http =>
    cases exchange with
    | unwritten message => cases isRead
    | read arrived stop => cases isRead
    | reply reply =>
      cases isRead
      constructor
      · intro result isOk
        obtain ⟨frame, isFrame, concluded⟩ := exists_of_bind_ok isOk
        obtain ⟨noError, hasResult⟩ := conclude_eq_ok concluded
        obtain ⟨isSent, hasId⟩ := frame_of_httpRead undisturbed isLater isFrame noError hasResult
        exact ⟨frame, isSent, hasId, hasResult⟩
      · intro inTime response found
        have isFrame : httpRead parse server nextId reply = .ok response :=
          httpRead_of_quiet undisturbed isLater inTime found
        simp only [isFrame]
        rfl
  | stdio unread =>
    cases exchange with
    | reply reply => cases isRead
    | unwritten message =>
      cases isRead
      constructor
      · intro result isOk
        cases isOk
      · intro inTime response found
        cases found
    | read arrived stop =>
      cases isRead
      constructor
      · intro result isOk
        obtain ⟨frame, isFrame, concluded⟩ := exists_of_bind_ok isOk
        obtain ⟨isSent, hasId⟩ := frame_of_stdioRead isFrame
        exact ⟨frame, isSent, hasId, (conclude_eq_ok concluded).2⟩
      · intro inTime response found
        have isFrame : (stdioRead parse server nextId unread arrived stop).1 = .ok response :=
          stdioRead_of_quiet undisturbed found
        simp only [isFrame]
        rfl

/--
In a run of undisturbed requests, every request returns the result of a frame
with its own id only, and it returns what the first response to it says.
-/
theorem requests_return_their_own_results (parse : Parser) (server : String) (timeout : Nat)
    (overStdio : Bool) {world : World}
    (reached : ReachableAlong (step? parse) (Undisturbed parse)
      (World.connected server timeout overStdio) world) {next : Request}
    (undisturbed : Undisturbed parse world next) {outcome : Except AiError Json}
    {client : McpClient} (returned : request parse world.client next = some (outcome, client)) :
    OwnResult parse world next outcome :=
  (reached.invariant Whole (whole_connected server timeout overStdio)
    fun _ _ _ whole undisturbed taken =>
      whole.step undisturbed taken).ownResult undisturbed returned

/-! ## Fixed requests -/

def responseTo (id : Nat) : Json := .object [("id", .number (some id)), ("result", .boolean true)]

def serverRequest (id : Nat) : Json :=
  .object [("id", .number (some id)), ("method", .string "ping")]

def sampleFrames : List (Text × Json) :=
  [("\x7b\"id\":1,\"result\":true\x7d".toList, responseTo 1),
    ("\x7b\"id\":2,\"result\":true\x7d".toList, responseTo 2),
    ("\x7b\"id\":3,\"result\":true\x7d".toList, responseTo 3),
    ("\x7b\"id\":1,\"method\":\"ping\"\x7d".toList, serverRequest 1)]

def sampleParse : Parser := fun text =>
  match sampleFrames.lookup text with
  | some frame => .ok frame
  | none => .error "expected value at line 1 column 1"

def posted (method : String) (elapsed : Nat) (contentType body : String) : Request where
  method := method
  exchange :=
    .reply
      { elapsed := elapsed
        response :=
          .ok
            { status := 200, contentType := contentType, body := body.toList } }

def piped (method arrived : String) (stop : Stop) : Request where
  method := method
  exchange := .read (bytesOf arrived) stop

/-- Some request does not return what its response says. -/
def Misanswered (world : World) (next : Request) : Prop :=
  ∃ outcome client, request sampleParse world.client next = some (outcome, client) ∧
      ¬OwnResult sampleParse world next outcome

theorem misanswered_of_unanswered (inTime : InTime world.client next.exchange)
    (fails : (request sampleParse world.client next).map (fun ended => ended.1.toBool) = some false)
    (isThere : ((framesOf sampleParse world next.exchange).find?
      (isResponse world.client.nextId)).map
      (fun response => (conclude world.client.server next.method response).toBool) =
      some true) : Misanswered world next := by
  obtain ⟨ended, returned, isError⟩ := map_eq_some_iff.mp fails
  obtain ⟨response, found, isOk⟩ := map_eq_some_iff.mp isThere
  refine ⟨ended.1, ended.2, returned, fun own => ?_⟩
  rw [own.answered inTime response found, isOk] at isError
  cases isError

theorem misanswered_of_foreign
    (returns : (request sampleParse world.client next).map
      (fun ended => ended.1.toBool) = some true)
    (isForeign : (framesOf sampleParse world next.exchange).all
      (fun frame => frame.id? != some world.client.nextId) = true) : Misanswered world next := by
  obtain ⟨ended, returned, isOk⟩ := map_eq_some_iff.mp returns
  refine ⟨ended.1, ended.2, returned, fun own => ?_⟩
  cases outcome : ended.1 with
  | error error =>
    rw [outcome] at isOk
    cases isOk
  | ok result =>
    obtain ⟨frame, isSent, hasId, -⟩ := own.own result outcome
    have differs := all_eq_true.mp isForeign frame isSent
    rw [hasId] at differs
    simp at differs

def answered : Request := piped "initialize" "\x7b\"id\":1,\"result\":true\x7d\n" .elapsed

theorem linesQuiet_of_length (isSingle : lines.length = 1) : LinesQuiet id lines := by
  rintro before response after rfl - - line isIn
  rw [length_append, length_cons] at isSingle
  have noneBefore : before.length = 0 := by omega
  rw [length_eq_zero_iff.mp noneBefore] at isIn
  exact absurd isIn not_mem_nil

/-- The client behind the handshake, with what it has read and lost. -/
def shaken (timeout nextId : Nat) (connection : Connection) (lost : Bytes) : World where
  client :=
    { server := "mock", timeout := timeout, nextId := nextId, connection := connection }
  lost := lost

/-- A handshake and a request behind it, each answered by one line. -/
theorem answered_returns_its_own_result :
    run? (step? sampleParse) (World.connected "mock" 30000 true) [answered] =
      some (shaken 30000 2 (.stdio []) []) ∧
    let listed := piped "tools/list" "\x7b\"id\":2,\"result\":true\x7d\n" .elapsed
    ∃ outcome client,
      request sampleParse (shaken 30000 2 (.stdio []) []).client listed = some (outcome, client) ∧
      outcome.toBool = true ∧
      OwnResult sampleParse (shaken 30000 2 (.stdio []) []) listed outcome := by
  have taken : step? sampleParse (World.connected "mock" 30000 true) answered =
      some (shaken 30000 2 (.stdio []) []) := by
    decide +kernel
  refine ⟨by decide +kernel, ?_⟩
  intro listed
  have returns : (request sampleParse (shaken 30000 2 (.stdio []) []).client listed).map
      (fun ended => ended.1.toBool) = some true := by
    decide +kernel
  obtain ⟨ended, returned, isOk⟩ := map_eq_some_iff.mp returns
  have first : Undisturbed sampleParse (World.connected "mock" 30000 true) answered :=
    { quiet := linesQuiet_of_length (by decide +kernel), whole := fun _ _ => by decide +kernel }
  have second : Undisturbed sampleParse (shaken 30000 2 (.stdio []) []) listed :=
    { quiet := linesQuiet_of_length (by decide +kernel), whole := fun _ _ => by decide +kernel }
  exact ⟨ended.1, ended.2, returned, isOk,
    requests_return_their_own_results sampleParse "mock" 30000 true (.next .start first taken)
      second returned⟩

/--
A JSON body with another id is returned; a request of the server with the same
id, the rest of a line that a timeout cut, a body with carriage returns and a
longer timeout all make a request fail whose response is there.
-/
theorem disturbed_requests_are_misanswered :
    Misanswered (World.connected "mock" 30000 false)
      (posted "initialize" 10 "application/json" "\x7b\"id\":2,\"result\":true\x7d") ∧
    Misanswered (World.connected "mock" 30000 true) (piped "initialize"
      "\x7b\"id\":1,\"method\":\"ping\"\x7d\n\x7b\"id\":1,\"result\":true\x7d\n" .elapsed) ∧
    (∃ world, run? (step? sampleParse) (World.connected "mock" 30000 true)
        [answered, piped "tools/list" "\x7b\"id\":2," .elapsed] = some world ∧
      Misanswered world (piped "tools/list"
        "\"result\":true\x7d\n\x7b\"id\":3,\"result\":true\x7d\n" .elapsed)) ∧
    Misanswered (World.connected "mock" 30000 false) (posted "initialize" 10 "text/event-stream"
      "data: \x7b\"id\":2,\"result\":true\x7d\r\n\r\ndata: \x7b\"id\":1,\"result\":true\x7d\r\n\r\n") ∧
    ∃ world, run? (step? sampleParse) (World.connected "mock" 60000 false)
        [posted "initialize" 10 "application/json" "\x7b\"id\":1,\"result\":true\x7d"] =
          some world ∧
      Misanswered world
        (posted "tools/list" 45000 "application/json" "\x7b\"id\":2,\"result\":true\x7d") := by
  refine ⟨?_, ?_, ⟨shaken 30000 3 (.stdio []) (bytesOf "\x7b\"id\":2,"), by decide +kernel, ?_⟩, ?_,
    shaken 60000 2 .http [], by decide +kernel, ?_⟩
  · exact misanswered_of_foreign (by decide +kernel) (by decide +kernel)
  · exact misanswered_of_unanswered trivial (by decide +kernel) (by decide +kernel)
  · exact misanswered_of_unanswered trivial (by decide +kernel) (by decide +kernel)
  · have inTime : 10 ≤ 30000 := by decide
    exact misanswered_of_unanswered inTime (by decide +kernel) (by decide +kernel)
  · have inTime : 45000 ≤ 60000 := by decide
    exact misanswered_of_unanswered inTime (by decide +kernel) (by decide +kernel)

end Rustasea.Ai.Mcp
