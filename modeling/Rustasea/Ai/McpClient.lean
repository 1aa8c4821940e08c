import Mathlib.Data.List.Infix
import Rustasea.Ai.ServerSentEvents
import Rustasea.Library.TransitionSystem
import Rustasea.Schedule.Cron

namespace Rustasea.Ai.Mcp

open Framing (completeLines lastLine)
open Rustasea.Schedule (trim)

/-!
# The MCP client

A request carries the next id and awaits one frame.  Over stdio the client reads
lines until one carries the id, and the timeout may cancel a `read_line` whose
bytes are lost with it.  Over HTTP it reads the body of the reply.  What the
server sends, and when, is a choice of the environment; so is the parser of
frames, which is no part of the client.
-/

/-! ## Frames -/

/-- JSON values; a number is read as `u64` only. -/
inductive Json where
  | null
  | boolean (flag : Bool)
  | number (asU64 : Option Nat)
  | string (text : String)
  | array (items : List Json)
  | object (fields : List (String × Json))

namespace Json

def get? : Json → String → Option Json
  | object fields, key => fields.lookup key
  | _, _ => none

def asU64? : Json → Option Nat
  | number asU64 => asU64
  | _ => none

def asStr? : Json → Option String
  | string text => some text
  | _ => none

def id? (frame : Json) : Option Nat := (frame.get? "id").bind asU64?

end Json

abbrev Parser := Text → Except String Json

/-- What goes wrong with a request. -/
inductive AiError where
  | mcpServerUnreachable (server message : String)
  | mcpProtocol (server message : String)
  deriving DecidableEq

/-! ## Reading from the child -/

/-- A line, as the loop sees it. -/
inductive Line where
  | blank
  | unreadable (error : AiError)
  | frame (value : Json)

def viewLine (parse : Parser) (server : String) (line : Bytes) : Line :=
  match Utf8.decode line with
  | none =>
    .unreadable (.mcpServerUnreachable server "read failed: stream did not contain valid UTF-8")
  | some text =>
    if trim text = [] then .blank
    else
      match parse (trim text) with
      | .error message => .unreadable (.mcpProtocol server ("invalid JSON frame: " ++ message))
      | .ok value => .frame value

/-- What a line is for the request: nothing, an error, or its response. -/
def readFrame (id : Nat) : Line → Option (Except AiError Json)
  | .blank => none
  | .unreadable error => some (.error error)
  | .frame value => if value.id? = some id then some (.ok value) else none

/-- Read lines until one ends the loop; what is left over. -/
def readLines (parse : Parser) (server : String) (id : Nat) :
    List Bytes → Option (Except AiError Json × List Bytes)
  | [] => none
  | line :: rest =>
    match readFrame id (viewLine parse server line) with
    | some result => some (result, rest)
    | none => readLines parse server id rest

/-- What happens when the bytes of a request are read. -/
inductive Stop where
  | elapsed
  | closed
  | failed (message : String)
  deriving DecidableEq

def arrivedLines (bytes : Bytes) : List Bytes :=
  (completeLines lineFeed bytes).map (· ++ [lineFeed])

/--
Read until the response arrives; the bytes that stay in the reader.  An
unfinished line is lost with the `read_line` that is cancelled or fails.
-/
def stdioRead (parse : Parser) (server : String) (id : Nat) (unread arrived : Bytes)
    (stop : Stop) : Except AiError Json × Bytes :=
  let bytes := unread ++ arrived
  let last := lastLine lineFeed bytes
  match readLines parse server id (arrivedLines bytes) with
  | some (result, rest) => (result, rest.flatten ++ last)
  | none =>
    match stop with
    | .elapsed =>
      (.error (.mcpServerUnreachable server "timed out waiting for a response"), [])
    | .failed message => (.error (.mcpServerUnreachable server ("read failed: " ++ message)), [])
    | .closed =>
      let closed := .error
          (.mcpServerUnreachable server "server closed the connection during handshake")
      if last = [] then (closed, [])
      else ((readFrame id (viewLine parse server last)).getD closed, [])

/-! ## Reading an HTTP reply -/

/-- A reply of the server. -/
structure HttpResponse where
  status : Nat
  contentType : String
  body : Text

/-- A reply, or a transport error, and how long it took. -/
structure HttpReply where
  elapsed : Nat
  response : Except String HttpResponse

def defaultMcpTimeout : Nat := 30000

def HttpResponse.isSuccess (response : HttpResponse) : Bool :=
  200 ≤ response.status && response.status < 300

def HttpResponse.isEventStream (response : HttpResponse) : Bool :=
  decide ("text/event-stream".toList <:+: response.contentType.toList)

def splitBlocks : Text → List Text
  | '\n' :: '\n' :: rest => [] :: splitBlocks rest
  | char :: rest =>
    match splitBlocks rest with
    | [] => [[char]]
    | block :: blocks => (char :: block) :: blocks
  | [] => [[]]

def blockFrame? (parse : Parser) (block : Text) : Option Json :=
  (eventData block).bind fun data => (parse data).toOption

def parseSseResponse (parse : Parser) (server : String) (id : Nat) (body : Text) :
    Except AiError Json :=
  match
    ((splitBlocks body).filterMap (blockFrame? parse)).find? fun value =>
      id == 0 || value.id? == some id
  with
  | some value => .ok value
  | none => .error (.mcpProtocol server "SSE response contained no matching JSON-RPC frame")

def httpRead (parse : Parser) (server : String) (id : Nat) (reply : HttpReply) :
    Except AiError Json :=
  match reply.response with
  | .error message => .error (.mcpServerUnreachable server message)
  | .ok response =>
    if defaultMcpTimeout < reply.elapsed then
      .error (.mcpServerUnreachable server "operation timed out")
    else if response.isSuccess then
      if response.isEventStream then parseSseResponse parse server id response.body
      else
        match parse response.body with
        | .error message => .error (.mcpProtocol server message)
        | .ok value => .ok value
    else .error (.mcpServerUnreachable server ("HTTP " ++ toString response.status))

/-! ## Requests -/

/-- The connection of a client; the bytes that its reader holds. -/
inductive Connection where
  | stdio (unread : Bytes)
  | http
  deriving DecidableEq

/-- A connected client. -/
structure McpClient where
  server : String
  timeout : Nat
  nextId : Nat
  connection : Connection
  deriving DecidableEq

/-- What the environment contributes to a request. -/
inductive Exchange where
  /-- The frame cannot be written. -/
  | unwritten (message : String)
  /-- These bytes arrive within the timeout, and then this happens. -/
  | read (arrived : Bytes) (stop : Stop)
  | reply (reply : HttpReply)

/-- A request of the caller. -/
structure Request where
  method : String
  exchange : Exchange

/-- The `result` of a response, or the error that it carries. -/
def conclude (server method : String) (response : Json) : Except AiError Json :=
  match response.get? "error" with
  | some error =>
    .error (.mcpProtocol server
        (method ++ ": " ++ ((error.get? "message").bind Json.asStr?).getD "unknown JSON-RPC error"))
  | none =>
    match response.get? "result" with
    | some result => .ok result
    | none => .error (.mcpProtocol server (method ++ ": response missing \x60result\x60"))

/-- The frame a request ends with, and the connection after it. -/
def roundTrip (parse : Parser) (client : McpClient) (exchange : Exchange) :
    Option (Except AiError Json × Connection) :=
  match client.connection, exchange with
  | .stdio unread, .unwritten message =>
    some (.error (.mcpServerUnreachable client.server ("write failed: " ++ message)), .stdio unread)
  | .stdio unread, .read arrived stop =>
    let read := stdioRead parse client.server client.nextId unread arrived stop
    some (read.1, .stdio read.2)
  | .http, .reply reply => some (httpRead parse client.server client.nextId reply, .http)
  | _, _ => none

/-- Send a request and await the matching response's `result`. -/
def request (parse : Parser) (client : McpClient) (request : Request) :
    Option (Except AiError Json × McpClient) :=
  (roundTrip parse client request.exchange).map fun ended =>
    (ended.1.bind (conclude client.server request.method),
      { client with nextId := client.nextId + 1, connection := ended.2 })

end Rustasea.Ai.Mcp
