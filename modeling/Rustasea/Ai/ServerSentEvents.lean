import Rustasea.Library.Grouping
import Rustasea.Library.Utf8

namespace Rustasea.Ai

open List Framing

/-!
# Server-sent events

A streamed response arrives in chunks.  The decoder collects them in a buffer,
drains the events that are complete, and emits the `data` of each.
-/

abbrev Bytes := List UInt8

abbrev Text := List Char

open Framing (stripSuffix lines)

/-! ## Events -/

def lineFeed : UInt8 := 0x0A

def carriageReturn : UInt8 := 0x0D

/-- The index and the length of the first event boundary. -/
def findEventBoundary : Bytes → Option (Nat × Nat)
  | [] => none
  | byte :: rest =>
    if byte = lineFeed ∧ rest[0]? = some lineFeed then some (0, 2)
    else if byte = carriageReturn ∧ rest[0]? = some lineFeed ∧
        rest[1]? = some carriageReturn ∧ rest[2]? = some lineFeed then
      some (0, 4)
    else (findEventBoundary rest).map fun found => (found.1 + 1, found.2)

def dataValue (line : Text) : Option Text :=
  (line.dropPrefix? "data:".toList).map fun rest => (rest.dropPrefix? [' ']).getD rest

def eventData (event : Text) : Option Text :=
  let data := (lines event).filterMap fun line => dataValue (stripSuffix '\r' line)
  if data = [] then none
  else some (['\n'].intercalate data)

/-- Cut off the first event that is complete, and its boundary. -/
def cutEvent (buffer : Bytes) : Option (Bytes × Bytes) :=
  (findEventBoundary buffer).map fun found => (buffer.take found.1, buffer.drop (found.1 + found.2))

theorem cutEvent_cons (byte : UInt8) (rest : Bytes) :
    cutEvent (byte :: rest) =
      if byte = lineFeed ∧ rest[0]? = some lineFeed then some ([], rest.drop 1)
      else if byte = carriageReturn ∧ rest[0]? = some lineFeed ∧
          rest[1]? = some carriageReturn ∧ rest[2]? = some lineFeed then
        some ([], rest.drop 3)
      else (cutEvent rest).map fun found => (byte :: found.1, found.2) := by
  unfold cutEvent
  rw [findEventBoundary]
  split
  · rfl
  · split
    · rfl
    · cases findEventBoundary rest with
      | none => rfl
      | some found => simp [Nat.add_right_comm]

theorem boundary_append {event : Bytes × Bytes} {buffer : Bytes}
    (isCut : cutEvent buffer = some event) (more : Bytes) :
    (buffer ++ more)[0]? = buffer[0]? ∧
      (buffer[0]? = some lineFeed →
        (buffer ++ more)[1]? = buffer[1]? ∧
          (buffer[1]? = some carriageReturn → (buffer ++ more)[2]? = buffer[2]?)) := by
  match buffer with
  | [] => cases isCut
  | [first] => simp [cutEvent, findEventBoundary] at isCut
  | [first, second] =>
    refine ⟨rfl, fun isFeed => ⟨rfl, fun isReturn => ?_⟩⟩
    obtain rfl : first = lineFeed := Option.some.inj isFeed
    obtain rfl : second = carriageReturn := Option.some.inj isReturn
    cases isCut
  | _ :: _ :: _ :: _ => exact ⟨rfl, fun _ => ⟨rfl, fun _ => rfl⟩⟩

variable {buffer event rest : Bytes}

theorem cutEvent_append (isCut : cutEvent buffer = some (event, rest)) (more : Bytes) :
    cutEvent (buffer ++ more) = some (event, rest ++ more) := by
  induction buffer generalizing event with
  | nil => cases isCut
  | cons byte buffer ih =>
    rw [cutEvent_cons] at isCut
    rw [cons_append, cutEvent_cons]
    split at isCut
    · next isBoundary =>
      cases isCut
      match buffer, isBoundary with
      | _ :: buffer, isBoundary =>
        rw [if_pos (by simpa using isBoundary)]
        rfl
    · next noFeeds =>
      split at isCut
      · next isBoundary =>
        cases isCut
        match buffer, isBoundary with
        | _ :: _ :: _ :: buffer, isBoundary =>
          rw [if_neg (by simpa using noFeeds), if_pos (by simpa using isBoundary)]
          rfl
      · next noReturns =>
        obtain ⟨⟨inner, left⟩, isInner, same⟩ := Option.map_eq_some_iff.mp isCut
        cases same
        obtain ⟨first, others⟩ := boundary_append isInner more
        rw [if_neg, if_neg, ih isInner]
        · rfl
        · rintro ⟨isReturn, isFeed, isSecond, isThird⟩
          rw [first] at isFeed
          rw [(others isFeed).1] at isSecond
          rw [(others isFeed).2 isSecond] at isThird
          exact noReturns ⟨isReturn, isFeed, isSecond, isThird⟩
        · rw [first]
          exact noFeeds

theorem length_of_cutEvent (isCut : cutEvent buffer = some (event, rest)) :
    rest.length < buffer.length := by
  induction buffer generalizing event with
  | nil => cases isCut
  | cons byte buffer ih =>
    rw [cutEvent_cons] at isCut
    split_ifs at isCut
    · cases isCut
      rw [length_drop, length_cons]
      omega
    · cases isCut
      rw [length_drop, length_cons]
      omega
    · obtain ⟨⟨inner, left⟩, isInner, same⟩ := Option.map_eq_some_iff.mp isCut
      cases same
      exact Nat.lt_succ_of_lt (ih isInner)

def eventCutter : Framing.Cutter UInt8 where
  cut := cutEvent
  shrinks := length_of_cutEvent
  stable := cutEvent_append

/-! ## The decoder -/

def frameData (event : Bytes) : Option Text := eventData (Utf8.lossy event)

def drainEvents (buffer : Bytes) (pending : List Text) : Bytes × List Text :=
  let drained := eventCutter.drain buffer
  (drained.2, pending ++ drained.1.filterMap frameData)

/-- The data that is left in the buffer when the stream ends. -/
def tailData (buffer : Bytes) : List Text :=
  if buffer = [] then []
  else (frameData buffer).toList

variable {Failure : Type}

/-- The state of the decoder: chunks or a transport error are still to come. -/
structure SseState (Failure : Type) where
  bytes : List (Except Failure Bytes)
  buffer : Bytes
  pending : List Text
  eof : Bool

def SseState.popFront (state : SseState Failure)
    (goOn : Option (Except Failure Text × SseState Failure)) :
    Option (Except Failure Text × SseState Failure) :=
  match state.pending with
  | data :: pending => some (.ok data, { state with pending := pending })
  | [] =>
    if state.eof then none
    else goOn

/-- The loop of the stream: the next payload or error, if it has not ended. -/
def sseLoop (buffer : Bytes) (pending : List Text) (eof : Bool) : List (Except Failure Bytes) →
    Option (Except Failure Text × SseState Failure)
  | [] =>
    SseState.popFront
      { bytes := [], buffer := buffer, pending := pending, eof := eof }
      (let drained := drainEvents buffer pending
      SseState.popFront
        { bytes := [], buffer := [], pending := drained.2 ++ tailData drained.1, eof := true }
        none)
  | .ok chunk :: bytes =>
    SseState.popFront
      { bytes := .ok chunk :: bytes, buffer := buffer, pending := pending, eof := eof }
      (let drained := drainEvents (buffer ++ chunk) pending
      sseLoop drained.1 drained.2 eof bytes)
  | .error failure :: bytes =>
    SseState.popFront
      { bytes := .error failure :: bytes, buffer := buffer, pending := pending, eof := eof }
      (some (.error failure, { bytes := bytes, buffer := buffer, pending := pending, eof := true }))

def SseState.next (state : SseState Failure) : Option (Except Failure Text × SseState Failure) :=
  sseLoop state.buffer state.pending state.eof state.bytes

def sseDataStream (response : List (Except Failure Bytes)) : SseState Failure :=
  { bytes := response, buffer := [], pending := [], eof := false }

/-- What a stream emits until it ends. -/
inductive Emits : SseState Failure → List (Except Failure Text) → Prop where
  | done {state : SseState Failure} : state.next = none → Emits state []
  | emit {state after : SseState Failure} {first : Except Failure Text}
      {rest : List (Except Failure Text)} :
      state.next = some (first, after) → Emits after rest → Emits state (first :: rest)

theorem Emits.unique {state : SseState Failure} {outputs others : List (Except Failure Text)}
    (emits : Emits state outputs) (emitsOthers : Emits state others) : outputs = others := by
  induction emits generalizing others with
  | done isDone =>
    cases emitsOthers with
    | done => rfl
    | emit isNext =>
      rw [isDone] at isNext
      cases isNext
  | emit isNext _ ih =>
    cases emitsOthers with
    | done isDone =>
      rw [isDone] at isNext
      cases isNext
    | emit isOther emitsRest =>
      rw [isNext] at isOther
      cases isOther
      rw [ih emitsRest]

/-- What is emitted for the rest of a response, behind a buffer. -/
def remaining (buffer : Bytes) : List (Except Failure Bytes) → List (Except Failure Text)
  | [] =>
    let drained := drainEvents buffer []
    (drained.2 ++ tailData drained.1).map .ok
  | .ok chunk :: bytes =>
    let drained := drainEvents (buffer ++ chunk) []
    drained.2.map .ok ++ remaining drained.1 bytes
  | .error failure :: _ => [.error failure]

variable {outputs : List (Except Failure Text)}

theorem Emits.congr {state other : SseState Failure}
    (emits : Emits state outputs) (same : other.next = state.next) : Emits other outputs := by
  cases emits with
  | done isDone => exact .done (same.trans isDone)
  | emit isNext rest => exact .emit (same.trans isNext) rest

theorem emits_pending {bytes : List (Except Failure Bytes)} {buffer : Bytes} {eof : Bool}
    (emits : Emits
        { bytes := bytes, buffer := buffer, pending := [], eof := eof }
        outputs)
    (pending : List Text) :
    Emits
      { bytes := bytes, buffer := buffer, pending := pending, eof := eof }
      (pending.map .ok ++ outputs) := by
  induction pending with
  | nil => exact emits
  | cons data rest ih =>
    refine .emit ?_ ih
    match bytes with
    | [] => rfl
    | .ok _ :: _ => rfl
    | .error _ :: _ => rfl

variable (bytes : List (Except Failure Bytes))

theorem emits_eof (buffer : Bytes)
    (pending : List Text) :
    Emits
      { bytes := bytes, buffer := buffer, pending := pending, eof := true }
      (pending.map .ok) := by
  rw [← append_nil (pending.map _)]
  refine emits_pending (.done ?_) pending
  match bytes with
  | [] => rfl
  | .ok _ :: _ => rfl
  | .error _ :: _ => rfl

theorem emits_remaining (buffer : Bytes) :
    Emits
      { bytes := bytes, buffer := buffer, pending := [], eof := false }
      (remaining buffer bytes) := by
  induction bytes generalizing buffer with
  | nil => exact (emits_eof [] [] _).congr rfl
  | cons item rest ih =>
    cases item with
    | error failure => exact .emit rfl (emits_eof rest buffer [])
    | ok chunk => exact (emits_pending (ih _) _).congr rfl

theorem emits_sseDataStream {response : List (Except Failure Bytes)} :
    Emits (sseDataStream response) outputs ↔ outputs = remaining [] response := by
  have emits : Emits (sseDataStream response) (remaining [] response) := emits_remaining response []
  constructor
  · intro emitsOutputs
    exact emitsOutputs.unique emits
  · rintro rfl
    exact emits

def payloads (stream : Bytes) : List Text :=
  (eventCutter.drain stream).1.filterMap frameData ++ tailData (eventCutter.drain stream).2

theorem remaining_chunks (buffer : Bytes) (chunks : List Bytes) :
    remaining buffer (chunks.map (@Except.ok Failure _)) =
      (payloads (buffer ++ chunks.flatten)).map .ok := by
  induction chunks generalizing buffer with
  | nil => simp [remaining, drainEvents, payloads]
  | cons chunk rest ih =>
    rw [map_cons, remaining, ih, flatten_cons, ← append_assoc, payloads, payloads,
      Framing.Cutter.drain_append (buffer ++ chunk)]
    simp [drainEvents]

/-! ## Lines of the stream -/

def isBlank (line : Bytes) : Bool := stripSuffix carriageReturn line = []

def fieldOf (line : Bytes) : Option Text := dataValue (Utf8.lossy (stripSuffix carriageReturn line))

def splitAtBlankLines (stream : Bytes) : List Text :=
  (Grouping.groups isBlank fieldOf (stream.splitOn lineFeed)).map ['\n'].intercalate

/-- A line of a stream, with the line before it and the lines behind it. -/
structure Placed where
  previous : Bytes
  line : Bytes
  following : List Bytes

@[grind =] def place (previous : Bytes) : List Bytes → List Placed
  | [] => []
  | line :: rest =>
    { previous := previous, line := line, following := rest } :: place line rest

namespace Placed

/-- The blank line ends in the same way as the line before it, or in a feed. -/
def isCut (placed : Placed) : Bool :=
  placed.line = [] ∨ placed.line = [carriageReturn] ∧ placed.previous.getLast? = some carriageReturn

/-- The line is the last one, or a bare line feed follows. -/
def isLast (placed : Placed) : Bool :=
  match placed.following with
  | [] => true
  | [] :: _ :: _ => true
  | _ => false

/-- The value that is read: most lines lose two carriage returns. -/
def data (placed : Placed) : Option Text :=
  if placed.isLast then fieldOf placed.line
  else fieldOf (stripSuffix carriageReturn placed.line)

end Placed

section Text

variable {Symbol : Type} [DecidableEq Symbol]

theorem dropPrefix?_concat {beginning : List Symbol} {symbol : Symbol}
    (isAbsent : symbol ∉ beginning) (text : List Symbol) :
    (text ++ [symbol]).dropPrefix? beginning =
      (text.dropPrefix? beginning).map (· ++ [symbol]) := by
  induction beginning generalizing text with
  | nil => simp
  | cons first rest ih =>
    rw [mem_cons, not_or] at isAbsent
    cases text with
    | nil => simp [List.dropPrefix?, isAbsent.1]
    | cons head tail =>
      simp only [cons_append, List.dropPrefix?]
      split
      · exact ih isAbsent.2 tail
      · rfl

end Text

theorem dataValue_concat (line : Text) :
    dataValue (line ++ ['\r']) = (dataValue line).map (· ++ ['\r']) := by
  unfold dataValue
  rw [dropPrefix?_concat (by decide), Option.map_map, Option.map_map]
  congr 1
  funext rest
  rw [Function.comp_apply, dropPrefix?_concat (by decide)]
  cases found : rest.dropPrefix? [' '] <;> simp [found]

theorem stripSuffix_lossy (line : Bytes) :
    stripSuffix '\r' (Utf8.lossy line) = Utf8.lossy (stripSuffix carriageReturn line) := by
  have isReturn : ∀ text : Text, Utf8.lossy line = text ++ ['\r'] ↔
      ∃ before, line = before ++ [carriageReturn] ∧ Utf8.lossy before = text :=
    fun text => Utf8.lossy_eq_concat_ascii carriageReturn (by decide)
  by_cases ends : line.getLast? = some carriageReturn
  · obtain ⟨before, rfl⟩ := exists_of_getLast? ends
    rw [stripSuffix_concat, (isReturn _).mpr ⟨before, rfl, rfl⟩, stripSuffix_concat]
  · rw [stripSuffix_of_ne ends, stripSuffix_of_ne]
    intro isLast
    obtain ⟨text, isText⟩ := exists_of_getLast? isLast
    obtain ⟨before, rfl, -⟩ := (isReturn text).mp isText
    simp at ends

def eventLines (event : Bytes) : List Text :=
  (lines (Utf8.lossy event)).filterMap fun line => dataValue (stripSuffix '\r' line)

theorem frameData_toList (event : Bytes) :
    (frameData event).toList = (Grouping.closed (eventLines event)).map ['\n'].intercalate := by
  unfold frameData eventData Grouping.closed
  change (if eventLines event = [] then none else some _).toList = _
  split <;> rfl

variable {line : Bytes}

theorem notMem_lossy_lineFeed (isLine : lineFeed ∉ line) : '\n' ∉ Utf8.lossy line :=
  Utf8.notMem_lossy lineFeed (by decide) isLine

theorem eventLines_of_notMem (isLine : lineFeed ∉ line) :
    eventLines line = (fieldOf line).toList := by
  rw [eventLines, lines_of_notMem (notMem_lossy_lineFeed isLine), fieldOf,
    ← stripSuffix_lossy]
  split
  · next isEmpty =>
    rw [isEmpty]
    rfl
  · cases found : dataValue (stripSuffix '\r' (Utf8.lossy line)) <;>
      simp [found]

theorem eventLines_cons (isLine : lineFeed ∉ line) (rest : Bytes) :
    eventLines (line ++ lineFeed :: rest) =
      (fieldOf (stripSuffix carriageReturn line)).toList ++ eventLines rest := by
  have isText :
      Utf8.lossy (line ++ lineFeed :: rest) = Utf8.lossy line ++ '\n' :: Utf8.lossy rest :=
    Utf8.lossy_append_ascii line rest (by decide)
  rw [eventLines, isText, lines_cons (notMem_lossy_lineFeed isLine), fieldOf,
    ← stripSuffix_lossy, ← stripSuffix_lossy, eventLines]
  cases found : dataValue (stripSuffix '\r' (stripSuffix '\r' (Utf8.lossy line))) <;>
    simp [found]

/-! ## Events of the stream -/

theorem splitOn_line (isLine : lineFeed ∉ line) (rest : Bytes) :
    (line ++ lineFeed :: rest).splitOn lineFeed = line :: rest.splitOn lineFeed :=
  splitOn_append_cons_self_of_not_mem isLine rest

theorem cutEvent_line (isLine : lineFeed ∉ line) (rest : Bytes) :
    cutEvent (line ++ lineFeed :: rest) =
      if rest[0]? = some lineFeed then some (line, rest.drop 1)
      else if line.getLast? = some carriageReturn ∧
          rest[0]? = some carriageReturn ∧ rest[1]? = some lineFeed then
        some (line.dropLast, rest.drop 2)
      else
        (cutEvent rest).map fun found =>
          (line ++ lineFeed :: found.1, found.2) := by
  induction line with
  | nil =>
    rw [nil_append, cutEvent_cons]
    have notReturn : lineFeed ≠ carriageReturn := by decide
    simp [notReturn]
  | cons byte line ih =>
    rw [mem_cons, not_or] at isLine
    rw [cons_append, cutEvent_cons, ih isLine.2]
    match line with
    | [] => split_ifs <;> simp_all [Function.comp_def]
    | second :: line =>
      split_ifs <;> simp_all [Function.comp_def]

theorem cutEvent_of_notMem (isLine : lineFeed ∉ line) : cutEvent line = none := by
  induction line with
  | nil => rfl
  | cons byte rest ih =>
    rw [mem_cons, not_or] at isLine
    have noFeed : rest[0]? ≠ some lineFeed := by
      intro isFeed
      exact isLine.2 (mem_of_getElem? isFeed)
    rw [cutEvent_cons, ih isLine.2]
    simp [noFeed]

theorem cutEvent_last {line last : Bytes} (isLine : lineFeed ∉ line)
    (isLast : lineFeed ∉ last) : cutEvent (line ++ lineFeed :: last) = none := by
  have noFeed : ∀ index : Nat, last[index]? ≠ some lineFeed := by
    intro index isFeed
    exact isLast (mem_of_getElem? isFeed)
  rw [cutEvent_line isLine, cutEvent_of_notMem isLast]
  simp [noFeed]

theorem cutEvent_lines {line next : Bytes} (isLine : lineFeed ∉ line) (isNext : lineFeed ∉ next)
    (rest : Bytes) :
    cutEvent (line ++ lineFeed :: (next ++ lineFeed :: rest)) =
      if next = [] then some (line, rest)
      else if next = [carriageReturn] ∧ line.getLast? = some carriageReturn then
        some (line.dropLast, rest)
      else
        (cutEvent (next ++ lineFeed :: rest)).map fun found =>
          (line ++ lineFeed :: found.1, found.2) := by
  rw [cutEvent_line isLine]
  match next with
  | [] => rfl
  | first :: next =>
    rw [mem_cons, not_or] at isNext
    have noFeed : first ≠ lineFeed := Ne.symm isNext.1
    match next with
    | [] => simp [noFeed, and_comm]
    | second :: next =>
      have noSecond : second ≠ lineFeed := by
        rintro rfl
        exact isNext.2 mem_cons_self
      simp [noFeed, noSecond]

theorem data_of_following (previous line next rest : Bytes) :
    Placed.data
        { previous := previous, line := line, following := next :: rest.splitOn lineFeed } =
      if next = [] then fieldOf line
      else fieldOf (stripSuffix carriageReturn line) := by
  obtain ⟨first, others, isSplit⟩ := exists_cons_of_ne_nil (splitOn_ne_nil lineFeed rest)
  rw [Placed.data, isSplit]
  cases next <;> rfl

variable {placed : Placed}

theorem data_of_isCut (isCut : placed.isCut) : placed.data = none := by
  have isBlank : placed.line = [] ∨ placed.line = [carriageReturn] := by
    simp only [Placed.isCut, decide_eq_true_eq] at isCut
    exact isCut.imp id And.left
  unfold Placed.data
  rcases isBlank with isEmpty | isReturn
  · rw [isEmpty]
    split <;> rfl
  · rw [isReturn]
    split <;> rfl

/-- The event that a line belongs to, when it is complete. -/
theorem groupsFrom_of_cutEvent {line stream event rest : Bytes} (isLine : lineFeed ∉ line)
    (isCut : cutEvent (line ++ lineFeed :: stream) = some (event, rest))
    (previous : Bytes) (opened : List Text) :
    ∃ marker, Grouping.groupsFrom Placed.isCut Placed.data
          (opened ++ (Placed.data
              { previous := previous, line := line, following := stream.splitOn lineFeed }).toList)
          (place line (stream.splitOn lineFeed)) =
        Grouping.closed (opened ++ eventLines event) ++
          Grouping.groupsFrom Placed.isCut Placed.data []
            (place marker (rest.splitOn lineFeed)) := by
  induction stream using line_induction lineFeed
    generalizing line previous opened event with
  | last stream isStream =>
    rw [cutEvent_last isLine isStream] at isCut
    cases isCut
  | line next stream isNext ih =>
    rw [cutEvent_lines isLine isNext] at isCut
    rw [splitOn_line isNext, data_of_following, place, Grouping.groupsFrom]
    split at isCut
    · next isEmpty =>
      cases isCut
      refine ⟨next, ?_⟩
      rw [if_pos isEmpty, if_pos (by simp [Placed.isCut, isEmpty]), eventLines_of_notMem isLine]
    · next notEmpty =>
      rw [if_neg notEmpty]
      split at isCut
      · next isReturn =>
        cases isCut
        refine ⟨next, ?_⟩
        obtain ⟨before, rfl⟩ := exists_of_getLast? isReturn.2
        have isBefore : lineFeed ∉ before := by
          intro isMember
          exact isLine (mem_append_left _ isMember)
        rw [if_pos (by simp [Placed.isCut, isReturn.1]),
          stripSuffix_concat, dropLast_concat,
          eventLines_of_notMem isBefore]
      · next noReturn =>
        obtain ⟨⟨inner, left⟩, isInner, same⟩ := Option.map_eq_some_iff.mp isCut
        cases same
        obtain ⟨marker, isGroup⟩ := ih isNext isInner line
            (opened ++ (fieldOf (stripSuffix carriageReturn line)).toList)
        refine ⟨marker, ?_⟩
        rw [if_neg (by simpa [Placed.isCut, notEmpty] using noReturn),
          isGroup, eventLines_cons isLine, append_assoc]

theorem groupsFrom_of_uncut {line stream : Bytes} (isLine : lineFeed ∉ line)
    (uncut : cutEvent (line ++ lineFeed :: stream) = none) (previous : Bytes) (opened : List Text) :
    Grouping.groupsFrom Placed.isCut Placed.data (opened ++ (Placed.data
            { previous := previous, line := line, following := stream.splitOn lineFeed }).toList)
        (place line (stream.splitOn lineFeed)) =
      Grouping.closed (opened ++ eventLines (line ++ lineFeed :: stream)) := by
  induction stream using line_induction lineFeed generalizing line previous opened with
  | last stream isStream =>
    have isFollowed : Placed.data
          { previous := previous, line := line, following := [stream] } =
        fieldOf (stripSuffix carriageReturn line) := by
      cases stream <;> rfl
    have isData : Placed.data
          { previous := line, line := stream, following := [] } =
        fieldOf stream :=
      rfl
    rw [splitOn_eq_singleton isStream, eventLines_cons isLine, eventLines_of_notMem isStream,
      isFollowed, place, place, Grouping.groupsFrom, ← append_assoc]
    split
    · next isCut =>
      rw [data_of_isCut isCut] at isData
      rw [← isData]
      simp [Grouping.groupsFrom]
    · rw [isData, Grouping.groupsFrom]
  | line next stream isNext ih =>
    rw [cutEvent_lines isLine isNext] at uncut
    split_ifs at uncut with notEmpty noReturn
    rw [Option.map_eq_none_iff] at uncut
    rw [splitOn_line isNext, data_of_following, if_neg notEmpty, place, Grouping.groupsFrom,
      if_neg (by simpa [Placed.isCut, notEmpty] using noReturn),
      ih isNext uncut, eventLines_cons isLine,
      append_assoc]

theorem groups_first (previous line : Bytes) (rest : List Bytes) :
    Grouping.groups Placed.isCut Placed.data (place previous (line :: rest)) =
      Grouping.groupsFrom Placed.isCut Placed.data
        ([] ++ (Placed.data { previous := previous, line := line, following := rest }).toList)
        (place line rest) := by
  rw [place, Grouping.groups, Grouping.groupsFrom]
  split
  · next isCut =>
    rw [data_of_isCut isCut]
    rfl
  · rfl

theorem groups_place (stream previous : Bytes) :
    Grouping.groups Placed.isCut Placed.data (place previous (stream.splitOn lineFeed)) =
      ((eventCutter.drain stream).1 ++ [(eventCutter.drain stream).2]).flatMap fun event =>
        Grouping.closed (eventLines event) := by
  induction stream using
      Framing.Cutter.drain_induction eventCutter
    generalizing previous with
  | uncut stream uncut =>
    rw [Framing.Cutter.drain_of_none uncut]
    by_cases isMore : lineFeed ∈ stream
    · obtain ⟨line, rest, rfl, isLine⟩ := eq_append_cons_of_mem isMore
      rw [splitOn_line isLine, groups_first, groupsFrom_of_uncut isLine uncut]
      simp
    · have isData : Placed.data
            { previous := previous, line := stream, following := [] } =
          fieldOf stream :=
        rfl
      rw [splitOn_eq_singleton isMore, groups_first, isData]
      simp [place, Grouping.groupsFrom, eventLines_of_notMem isMore]
  | isCut stream event rest isCut ih =>
    rw [Framing.Cutter.drain_of_some isCut]
    by_cases isMore : lineFeed ∈ stream
    · obtain ⟨line, later, rfl, isLine⟩ := eq_append_cons_of_mem isMore
      obtain ⟨marker, isGroup⟩ := groupsFrom_of_cutEvent isLine isCut previous []
      rw [splitOn_line isLine, groups_first, isGroup, ← Grouping.groups, ih, nil_append,
        cons_append, flatMap_cons]
    · rw [show eventCutter.cut stream = none from cutEvent_of_notMem isMore] at isCut
      cases isCut

theorem payloads_eq (stream previous : Bytes) :
    payloads stream = (Grouping.groups Placed.isCut Placed.data
      (place previous (stream.splitOn lineFeed))).map ['\n'].intercalate := by
  have isTail : ∀ buffer : Bytes, tailData buffer = (frameData buffer).toList := by
    intro buffer
    unfold tailData
    split
    · next isEmpty =>
      rw [isEmpty]
      rfl
    · rfl
  rw [payloads, groups_place, isTail, flatMap_append, map_append, frameData_toList]
  congr 1
  · rw [map_flatMap, filterMap_eq_flatMap_toList]
    simp [frameData_toList]
  · simp

/-! ## Splitting at blank lines -/

def Placed.LosesReturn (placed : Placed) : Prop :=
  (fieldOf placed.line).isSome ∧ (stripSuffix carriageReturn placed.line).getLast? =
        some carriageReturn ∧
      placed.isLast = false

/--
Two data lines with a blank line between them, where no blank line is a bare
line feed or ends in a carriage return as the line before it does.
-/
def JoinsEvents (lines : List Placed) : Prop :=
  ∃ before first between last after, lines = before ++ first :: (between ++ last :: after) ∧
      (fieldOf first.line).isSome ∧ (fieldOf last.line).isSome ∧
          (∃ placed ∈ between, isBlank placed.line) ∧ ∀ placed ∈ between, placed.isCut = false

theorem fieldOf_concat {line before : Bytes}
    (isLine : stripSuffix carriageReturn line = before ++ [carriageReturn]) :
    fieldOf line = (fieldOf (stripSuffix carriageReturn line)).map (· ++ ['\r']) := by
  have isText : Utf8.lossy (before ++ [carriageReturn]) = Utf8.lossy before ++ ['\r'] :=
    Utf8.lossy_append_ascii before [] (by decide)
  rw [fieldOf, fieldOf, isLine, stripSuffix_concat, isText, dataValue_concat]

theorem isSome_data (placed : Placed) : (fieldOf placed.line).isSome = placed.data.isSome := by
  unfold Placed.data
  split
  · rfl
  · by_cases ends : (stripSuffix carriageReturn placed.line).getLast? = some carriageReturn
    · obtain ⟨before, isLine⟩ := exists_of_getLast? ends
      rw [fieldOf_concat isLine, Option.isSome_map]
    · rw [fieldOf, fieldOf, stripSuffix_of_ne ends]

theorem data_eq_iff (placed : Placed) :
    placed.data = fieldOf placed.line ↔ ¬ placed.LosesReturn := by
  unfold Placed.data Placed.LosesReturn
  cases placed.isLast with
  | true => simp
  | false =>
    by_cases ends : (stripSuffix carriageReturn placed.line).getLast? = some carriageReturn
    · obtain ⟨before, isLine⟩ := exists_of_getLast? ends
      rw [fieldOf_concat isLine]
      cases fieldOf (stripSuffix carriageReturn placed.line) <;> simp [ends]
    · simp [fieldOf, stripSuffix_of_ne ends, ends]

theorem isBlank_of_isCut (isCut : placed.isCut) : isBlank placed.line := by
  simp only [Placed.isCut, decide_eq_true_eq] at isCut
  rcases isCut with isEmpty | ⟨isReturn, -⟩
  · rw [isEmpty]
    rfl
  · rw [isReturn]
    rfl

theorem fieldOf_of_isBlank (blank : isBlank line) : fieldOf line = none := by
  rw [isBlank, decide_eq_true_eq] at blank
  rw [fieldOf, blank]
  rfl

variable {char : Char}

theorem mem_of_dropPrefix? {beginning text rest : Text}
    (isRest : text.dropPrefix? beginning = some rest) (isChar : char ∈ rest) : char ∈ text := by
  obtain ⟨found, rfl, -⟩ := dropPrefix?_eq_some_iff.mp isRest
  exact mem_append_right _ isChar

theorem mem_of_dataValue {line text : Text} (isValue : dataValue line = some text)
    (isChar : char ∈ text) : char ∈ line := by
  obtain ⟨rest, isRest, rfl⟩ := Option.map_eq_some_iff.mp isValue
  refine mem_of_dropPrefix? isRest ?_
  cases found : rest.dropPrefix? [' '] with
  | none => simpa [found] using isChar
  | some unspaced =>
    rw [found] at isChar
    exact mem_of_dropPrefix? found isChar

variable {text : Text}

theorem notMem_fieldOf (isLine : lineFeed ∉ line) (isField : fieldOf line = some text) :
    '\n' ∉ text := by
  intro isFeed
  refine notMem_lossy_lineFeed ?_ (mem_of_dataValue isField isFeed)
  unfold stripSuffix
  split
  · exact fun isMember => isLine (dropLast_subset _ isMember)
  · exact isLine

@[simp] theorem map_line_place (previous : Bytes) (lines : List Bytes) :
    (place previous lines).map (·.line) = lines := by
  induction lines generalizing previous with
  | nil => rfl
  | cons line rest ih => rw [place, map_cons, ih]

theorem notMem_line_place {stream previous : Bytes}
    (isPlaced : placed ∈ place previous (stream.splitOn lineFeed)) : lineFeed ∉ placed.line := by
  have isLine : placed.line ∈ (place previous (stream.splitOn lineFeed)).map (·.line) :=
    mem_map_of_mem isPlaced
  rw [map_line_place] at isLine
  exact notMem_of_mem_splitOn isLine

theorem notMem_data (isLine : lineFeed ∉ placed.line) (isData : placed.data = some text) :
    '\n' ∉ text := by
  unfold Placed.data at isData
  split at isData
  · exact notMem_fieldOf isLine isData
  · refine notMem_fieldOf ?_ isData
    unfold stripSuffix
    split
    · exact fun isMember => isLine (dropLast_subset _ isMember)
    · exact isLine

theorem groups_of_lines (ends : Placed → Bool) {value : Placed → Option Text} {lines : List Placed}
    (areLines : ∀ placed ∈ lines, ∀ text, value placed = some text → '\n' ∉ text) :
    ∀ group ∈ Grouping.groups ends value lines, group ≠ [] ∧ ∀ text ∈ group, '\n' ∉ text := by
  intro group isGroup
  obtain ⟨isSome, others⟩ := Grouping.mem_groupsFrom isGroup
  refine ⟨isSome, fun text isText => ?_⟩
  rcases others text isText with isOpen | ⟨placed, isPlaced, isValue⟩
  · cases isOpen
  · exact areLines placed isPlaced text isValue

theorem map_intercalate_inj {groups others : List (List Text)}
    (areLines : ∀ group ∈ groups, group ≠ [] ∧ ∀ text ∈ group, '\n' ∉ text)
    (areOthers : ∀ group ∈ others, group ≠ [] ∧ ∀ text ∈ group, '\n' ∉ text) :
    groups.map ['\n'].intercalate = others.map ['\n'].intercalate ↔ groups = others := by
  have splits : ∀ groups : List (List Text),
      (∀ group ∈ groups, group ≠ [] ∧ ∀ text ∈ group, '\n' ∉ text) →
        (groups.map ['\n'].intercalate).map (List.splitOn '\n') = groups := by
    intro groups areLines
    rw [map_map]
    refine (map_congr_left fun group isGroup => ?_).trans (map_id _)
    exact splitOn_intercalate '\n' (areLines group isGroup).2 (areLines group isGroup).1
  refine ⟨fun same => ?_, fun same => by rw [same]⟩
  rw [← splits groups areLines, same, splits others areOthers]

/--
What the decoder emits does not depend on the chunks, and the stream ends.  It
is what splitting at blank lines yields exactly when no blank line between two
data lines is overlooked and no data line loses a carriage return.
-/
theorem decoder_splits_at_blank_lines (chunks : List Bytes) :
    ∃ payloads : List Text,
      (∀ outputs : List (Except Failure Text),
        Emits (sseDataStream (chunks.map .ok)) outputs ↔ outputs = payloads.map .ok) ∧
      (∀ outputs : List (Except Failure Text),
        Emits (sseDataStream [.ok chunks.flatten]) outputs ↔ outputs = payloads.map .ok) ∧
      (payloads = splitAtBlankLines chunks.flatten ↔
        ¬ JoinsEvents (place [] (chunks.flatten.splitOn lineFeed)) ∧
          ∀ placed ∈ place [] (chunks.flatten.splitOn lineFeed), ¬ placed.LosesReturn) := by
  let stream := chunks.flatten
  let placed := place [] (stream.splitOn lineFeed)
  refine ⟨payloads stream, ?_, ?_, ?_⟩
  · intro outputs
    rw [emits_sseDataStream, remaining_chunks, nil_append]
  · intro outputs
    have isChunk : remaining [] [@Except.ok Failure _ stream] = (payloads stream).map .ok := by
      simpa using remaining_chunks [] [stream]
    rw [emits_sseDataStream, isChunk]
  · have isSplit :
        splitAtBlankLines stream = (Grouping.groups (fun placed => isBlank placed.line)
              (fun placed => fieldOf placed.line) placed).map
            ['\n'].intercalate := by
      rw [splitAtBlankLines, Grouping.groups]
      conv_lhs => rw [← map_line_place [] (stream.splitOn lineFeed)]
      rw [Grouping.groupsFrom_map]
      rfl
    have dataLines := groups_of_lines Placed.isCut
        (fun _ (isPlaced : _ ∈ placed) _ =>
          notMem_data (notMem_line_place isPlaced))
    have fieldLines := groups_of_lines (fun placed => isBlank placed.line)
        (fun _ (isPlaced : _ ∈ placed) _ =>
          notMem_fieldOf (notMem_line_place isPlaced))
    rw [payloads_eq stream [], isSplit, map_intercalate_inj dataLines fieldLines,
      Grouping.groups_eq_iff (fun _ => isBlank_of_isCut) (fun _ => fieldOf_of_isBlank) isSome_data,
      Grouping.joins_iff]
    simp only [data_eq_iff]
    rfl

def bytesOf (response : String) : Bytes := response.toList.flatMap String.utf8EncodeChar

/-- Two events with a blank line that ends otherwise than the line before. -/
def mixedResponse : Bytes := bytesOf "data: a\n\r\ndata: b\n\n"

/-- The decoder makes one event of two. -/
theorem mixed_line_ends_join_events :
    splitAtBlankLines mixedResponse = ["a".toList, "b".toList] ∧
      ¬ Emits (sseDataStream [@Except.ok Unit _ mixedResponse])
        ((splitAtBlankLines mixedResponse).map .ok) := by
  have isSplit : splitAtBlankLines mixedResponse = ["a".toList, "b".toList] := by decide +kernel
  have isJoined : payloads mixedResponse = ["a\nb".toList] := by
    rw [payloads_eq mixedResponse []]
    decide +kernel
  refine ⟨isSplit, fun emits => ?_⟩
  have outputs := emits_sseDataStream.mp emits
  rw [show [@Except.ok Unit _ mixedResponse] = [mixedResponse].map .ok from rfl, remaining_chunks,
    List.flatten_singleton, List.nil_append, isJoined, isSplit] at outputs
  exact absurd (congrArg List.length outputs) (by decide)

end Rustasea.Ai
