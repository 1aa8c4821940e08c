import Rustasea.Ai.McpClient
import Rustasea.Orm.JsonPaths

namespace Rustasea.Ai.McpServer

open Framing (lastLine)
open Rustasea.Ai.Mcp (AiError arrivedLines)
open Rustasea.Orm (Json)
open Rustasea.Schedule (trim)

/-!
# The MCP server

The server reads lines until the stream ends and answers those that are requests
or no JSON.  What its backend says may differ from line to line; the reader and
the printer of JSON are parameters.
-/

/-! ## The frames -/

def text (content : String) : Json := .string content

def serverName : String := "rustasea"

def parseError : Json := .number ⟨"-32700", by decide⟩

def methodNotFound : Json := .number ⟨"-32601", by decide⟩

def invalidParams : Json := .number ⟨"-32602", by decide⟩

def success (id result : Json) : Json :=
  .object [("jsonrpc", text "2.0"), ("id", id), ("result", result)]

def errorFrame (id code : Json) (message : String) : Json :=
  .object
    [("jsonrpc", text "2.0"), ("id", id),
      ("error", .object [("code", code), ("message", text message)])]

/-! ## The backend -/

structure McpTool where
  name : String
  description : String
  inputSchema : Json

/-- What the application says; resources are given as they are serialized. -/
structure McpBackend where
  tools : List McpTool
  callTool : String → Json → Except String Json
  resources : List Json
  readResource : String → Except String Json

def stringAt (document : Json) (key : String) : String :=
  ((document.get key).bind Json.asStr).getD ""

def objectAt (document : Json) (key : String) : Json := (document.get key).getD (.object [])

def initializeResult : Json :=
  .object
    [("protocolVersion", text "2024-11-05"),
      ("capabilities", .object [("tools", .object []), ("resources", .object [])]),
      ("serverInfo", .object [("name", text serverName), ("version", text "0.1.0")])]

def toolsListResult (backend : McpBackend) : Json :=
  .object
    [("tools",
      .array (backend.tools.map fun tool =>
        .object
          [("name", text tool.name), ("description", text tool.description),
            ("inputSchema", tool.inputSchema)]))]

def toolContent (content : String) (isError : Bool) : Json :=
  .object
    [("content", .array [.object [("type", text "text"), ("text", text content)]]),
      ("isError", .bool isError)]

section

variable (print : Json → String) (backend : McpBackend)

def toolsCallResult (id params : Json) : Json :=
  match backend.callTool (stringAt params "name") (objectAt params "arguments") with
  | .ok value => success id (toolContent (print value) false)
  | .error message => success id (toolContent message true)

def resourcesReadResult (id params : Json) : Json :=
  match backend.readResource (stringAt params "uri") with
  | .ok content => success id (.object [("contents", .array [content])])
  | .error message => errorFrame id invalidParams message

def respond (id frame : Json) : Json :=
  let params := objectAt frame "params"
  match stringAt frame "method" with
  | "initialize" => success id initializeResult
  | "tools/list" => success id (toolsListResult backend)
  | "tools/call" => toolsCallResult print backend id params
  | "resources/list" => success id (.object [("resources", .array backend.resources)])
  | "resources/read" => resourcesReadResult backend id params
  | "ping" => success id (.object [])
  | other => errorFrame id methodNotFound ("method not found: " ++ other)

def handleFrame (frame : Json) : Option Json :=
  (frame.get "id").map fun id => respond print backend id frame

end

/-! ## The loop -/

/-- What `read_line` yields until the stream ends. -/
def linesOf (stream : Bytes) : List Bytes :=
  arrivedLines stream ++ (if lastLine lineFeed stream = [] then [] else [lastLine lineFeed stream])

section

variable (parse : Text → Except String Json) (print : Json → String) (backend : Nat → McpBackend)

/-- The reply to a line's text, or none; the `n`-th line asks the backend as it is then. -/
def reply (n : Nat) (line : Text) : Option Json :=
  if trim line = [] then none
  else match parse (trim line) with
    | .error message => some (errorFrame .null parseError ("invalid JSON frame: " ++ message))
    | .ok frame => handleFrame print (backend n) frame

/-- The loop of `serve`: the frames it writes, and what it returns. -/
def serveLines : Nat → List Bytes → List Json × Except AiError Unit
  | _, [] => ([], .ok ())
  | n, line :: rest =>
    match Utf8.decode line with
    | none =>
      ([], .error
        (.mcpServerUnreachable serverName "read failed: stream did not contain valid UTF-8"))
    | some content =>
      let (written, result) := serveLines (n + 1) rest
      ((reply parse print backend n content).toList ++ written, result)

def writeFrame (frame : Json) : Bytes :=
  (print frame).toUTF8.toList ++ [lineFeed]

def serve (stream : Bytes) : List Bytes × Except AiError Unit :=
  let (written, result) := serveLines parse print backend 0 (linesOf stream)
  (written.map (writeFrame print), result)

end

/-! ## What is answered -/

section

variable (parse : Text → Except String Json) (print : Json → String) (backend : Nat → McpBackend)

/-- A line to be answered is not blank, and is no JSON or has an id. -/
def expectsReply (line : Text) : Bool :=
  trim line ≠ [] && match parse (trim line) with
    | .error _ => true
    | .ok frame => (frame.get "id").isSome

/-- The frame echoes the id of the line, or is a parse error for none. -/
def IsReply (line : Text) (frame : Json) : Prop :=
  frame.get "jsonrpc" = some (text "2.0") ∧
    match parse (trim line) with
    | .ok request => frame.get "id" = request.get "id"
    | .error _ => frame.get "id" = some .null ∧
        (frame.get "error").bind (·.get "code") = some parseError

def Echoes (id frame : Json) : Prop :=
  frame.get "jsonrpc" = some (text "2.0") ∧ frame.get "id" = some id

variable {parse}

theorem echoes_success (id result : Json) : Echoes id (success id result) := ⟨rfl, rfl⟩

theorem echoes_errorFrame (id code : Json) (message : String) :
    Echoes id (errorFrame id code message) := ⟨rfl, rfl⟩

theorem echoes_toolsCallResult (now : McpBackend) (id params : Json) :
    Echoes id (toolsCallResult print now id params) := by
  rw [toolsCallResult]
  split <;> exact echoes_success id _

theorem echoes_resourcesReadResult (now : McpBackend) (id params : Json) :
    Echoes id (resourcesReadResult now id params) := by
  rw [resourcesReadResult]
  split
  · exact echoes_success id _
  · exact echoes_errorFrame id _ _

theorem echoes_respond (print : Json → String) (now : McpBackend) (id frame : Json) :
    Echoes id (respond print now id frame) := by
  simp only [respond]
  split
  · exact echoes_success id _
  · exact echoes_success id _
  · exact echoes_toolsCallResult print now id _
  · exact echoes_success id _
  · exact echoes_resourcesReadResult now id _
  · exact echoes_success id _
  · exact echoes_errorFrame id _ _

theorem reply_of_expects (n : Nat) {line : Text} (expects : expectsReply parse line = true) :
    ∃ frame, reply parse print backend n line = some frame ∧ IsReply parse line frame := by
  rw [expectsReply, Bool.and_eq_true] at expects
  obtain ⟨notBlank, known⟩ := expects
  rw [reply, if_neg (of_decide_eq_true notBlank)]
  unfold IsReply
  cases read : parse (trim line) with
  | error message => exact ⟨_, rfl, rfl, rfl, rfl⟩
  | ok request =>
      rw [read] at known
      obtain ⟨id, hasId⟩ := Option.isSome_iff_exists.mp known
      obtain ⟨version, echoed⟩ := echoes_respond print (backend n) id request
      exact ⟨respond print (backend n) id request, by simp [handleFrame, hasId], version,
        echoed.trans hasId.symm⟩

theorem reply_of_not_expects (n : Nat) {line : Text} (expects : expectsReply parse line = false) :
    reply parse print backend n line = none := by
  rw [reply]
  split
  · rfl
  · next notBlank =>
    cases read : parse (trim line) with
    | error message => simp [expectsReply, notBlank, read] at expects
    | ok request =>
        have noId : request.get "id" = none := by simpa [expectsReply, notBlank, read] using expects
        simp [handleFrame, noId]

theorem serveLines_answers {lines : List Bytes} {texts : List Text} (n : Nat)
    (areTexts : lines.mapM Utf8.decode = some texts) :
    ∃ frames, serveLines parse print backend n lines = (frames, .ok ()) ∧
      List.Forall₂ (IsReply parse) (texts.filter (expectsReply parse)) frames := by
  induction lines generalizing n texts with
  | nil =>
      obtain rfl : [] = texts := by simpa using areTexts
      exact ⟨[], rfl, .nil⟩
  | cons line rest ih =>
      rw [List.mapM_cons] at areTexts
      obtain ⟨content, decoded, areTexts⟩ := Option.bind_eq_some_iff.mp areTexts
      obtain ⟨others, areOthers, same⟩ := Option.bind_eq_some_iff.mp areTexts
      obtain rfl : content :: others = texts := by simpa using same
      obtain ⟨frames, served, answers⟩ := ih (n + 1) areOthers
      cases expects : expectsReply parse content with
      | true =>
          obtain ⟨frame, replied, isReply⟩ := reply_of_expects print backend n expects
          refine ⟨frame :: frames, by simp [serveLines, decoded, served, replied], ?_⟩
          rw [List.filter_cons_of_pos expects]
          exact .cons isReply answers
      | false =>
          have silent := reply_of_not_expects print backend n expects
          refine ⟨frames, by simp [serveLines, decoded, served, silent], ?_⟩
          rw [List.filter_cons_of_neg (by simp [expects])]
          exact answers

/--
A stream of lines that are text is read to its end: one frame and a line feed
are written for each line to be answered, in the order of the lines.
-/
theorem serve_answers
    {print : Json → String} {backend : Nat → McpBackend} {stream : Bytes} {texts : List Text}
    (areTexts : (linesOf stream).mapM Utf8.decode = some texts) :
    ∃ frames : List Json,
      serve parse print backend stream =
        (frames.map fun frame => (print frame).toUTF8.toList ++ [lineFeed], .ok ()) ∧
      List.Forall₂ (IsReply parse) (texts.filter (expectsReply parse)) frames := by
  obtain ⟨frames, served, answers⟩ := serveLines_answers print backend 0 areTexts
  exact ⟨frames, by rw [serve, served]; rfl, answers⟩

end

/-! ## Fixed streams -/

def silentBackend : McpBackend where
  tools := []
  callTool _ _ := .error "unknown tool"
  resources := []
  readResource _ := .error "unknown resource"

def pingLine : String := "\x7b\"id\":1,\"method\":\"ping\"\x7d\n"

def sampleParse (line : Text) : Except String Json :=
  if line = ['7'] then .ok (.number ⟨"7", rfl⟩)
  else if line = trim pingLine.toList then
    .ok (.object [("id", .number ⟨"1", rfl⟩), ("method", text "ping")])
  else .error "expected value at line 1 column 1"

/-- A request, a broken line, a blank one and a number: the first two get a frame. -/
theorem broken_line_is_answered :
    ∃ pong broken : Json,
      serve sampleParse (fun _ => "{}") (fun _ => silentBackend)
        (pingLine.toUTF8.toList ++ [33, 10, 10, 55]) =
        ([pong, broken].map fun _ => "{}".toUTF8.toList ++ [lineFeed], .ok ()) ∧
      pong.get "id" = some (.number ⟨"1", rfl⟩) ∧ broken.get "id" = some .null ∧
      (broken.get "error").bind (·.get "code") = some parseError := by
  have areTexts : (linesOf (pingLine.toUTF8.toList ++ [33, 10, 10, 55])).mapM Utf8.decode =
      some [pingLine.toList, "!\n".toList, "\n".toList, ['7']] := by
    decide +kernel
  obtain ⟨frames, served, answers⟩ := serve_answers areTexts
  have asked : [pingLine.toList, "!\n".toList, "\n".toList, ['7']].filter
      (expectsReply sampleParse) = [pingLine.toList, "!\n".toList] := by
    decide +kernel
  rw [asked] at answers
  obtain ⟨pong, others, isPong, answered, rfl⟩ := List.forall₂_cons_left_iff.mp answers
  obtain ⟨broken, others, isBroken, none, rfl⟩ := List.forall₂_cons_left_iff.mp answered
  cases none
  exact ⟨pong, broken, served, isPong.2, isBroken.2⟩

theorem number_is_not_answered :
    sampleParse (trim ['7']) = .ok (.number ⟨"7", by decide⟩) ∧
      (serve sampleParse (fun _ => "{}") (fun _ => silentBackend) [55]).1 = [] := by
  exact ⟨rfl, by decide +kernel⟩

end Rustasea.Ai.McpServer
