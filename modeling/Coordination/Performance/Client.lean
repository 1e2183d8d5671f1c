import Coordination.Json.Bytes
import Coordination.Performance.Calculator
import Coordination.Performance.Codec

/-!
# The performance service's client

The client asks a server for one calculation at a time. Only a complete response with status 200
and a readable body is a success.
-/

namespace Coordination

/-- What has to be known about the performance service. -/
structure ComputeConfig where
  baseUrl : String := "http://127.0.0.1:8665"
  /-- The deadline of one request in milliseconds, its response's body included. -/
  timeout : Nat := 10000
deriving DecidableEq, Repr

/-- The URL of calculations: the base URL without slashes at its end, and the path. -/
def ComputeConfig.endpoint (c : ComputeConfig) : Except ComputeError String :=
  let base := (c.baseUrl.toList.reverse.dropWhile (· == '/')).reverse
  if base.isEmpty then .error (.config "empty base url")
  else .ok (String.ofList base ++ "/calculate")

/-- A URL that can be asked for. Its fragment is not kept, since it is not sent. -/
structure HttpUrl where
  /-- The scheme, the host and the path. -/
  location : String
  query : String := ""
deriving DecidableEq, Repr

/-- The text of the URL with fields at the end of its query. -/
def HttpUrl.withFields (u : HttpUrl) (fields : String) : String :=
  u.location ++ "?" ++ if u.query.isEmpty then fields else u.query ++ "&" ++ fields

/-- A response of which at least the head arrives. -/
structure Response where
  status : Nat
  /-- The URL at which the client is told to look instead. -/
  location : Option String := none
  /-- When the head has arrived, in milliseconds from the request on. -/
  headAfter : Nat := 0
  /-- What arrives of the body before the connection ends. -/
  body : ByteArray
  /-- Whether that is the whole body. -/
  complete : Bool := true
  /-- How much later the body has ended, unless it never does. -/
  bodyAfter : Option Nat := some 0

/-- What a server does with one connection. -/
inductive Reply where
  | response (r : Response)
  /-- No response arrives: the connection is refused or closed after so many milliseconds, or
  what has come by then is no response. -/
  | closed (after : Nat)
  /-- Nothing ever arrives. -/
  | silence

/-- A server that treats its connections in a prepared way, and refuses any further one. It is
reached through an HTTP library. -/
structure Server where
  /-- What the library reads a text as, if it is a URL that the library can ask for. -/
  locate? : String → Option HttpUrl
  replies : List Reply := []
  /-- The URLs that were asked for. -/
  requests : List String := []

namespace Server

/-- A server that cannot be reached under any URL. -/
def unreachable : Server := { locate? _ := none }

/-- Asks for a URL. -/
def get (s : Server) (url : String) : Reply × Server :=
  match s.replies with
  | [] => (.closed 0, s)
  | reply :: replies => (reply, { s with replies, requests := s.requests ++ [url] })

end Server

/-- Whether the response tells the client to look elsewhere. -/
def Response.redirect? (r : Response) : Option String :=
  if r.status ∈ [301, 302, 303, 307, 308] then r.location else none

/-- The response to a request and when its head has arrived, after at most so many redirections,
or when the request has failed. A redirection too many is a failure. The deadline is one for all,
and what happens at the deadline is late. -/
def Server.follow (deadline : Nat) : (budget now : Nat) → Server → String →
    Except Nat (Nat × Response) × Server
  | budget, now, s, url =>
    match s.get url with
    | (.silence, s) => (.error deadline, s)
    | (.closed after, s) => (.error (min (now + after) deadline), s)
    | (.response r, s) =>
      let now := now + r.headAfter
      if deadline ≤ now then (.error deadline, s)
      else
        match r.redirect?, budget with
        | none, _ => (.ok (now, r), s)
        | some _, 0 => (.error now, s)
        | some next, budget + 1 => s.follow deadline budget now next

namespace Response

/-- What a body that has ended is read as. -/
def read (r : Response) : Except ComputeError PerformanceResult :=
  if !r.complete then .error .decode
  else
    match PerformanceResult.decodeAnswer (Json.textOfBytes r.body) with
    | .ok result => .ok result
    | .error _ => .error .decode

/-- What a response comes to whose head has arrived by now. The body is waited for only if the
status is a success. -/
def answer (r : Response) (now deadline : Nat) : CallAnswer :=
  if r.status ≠ 200 then ⟨now, .error (.status r.status)⟩
  else
    match r.bodyAfter with
    | some after =>
      if now + after < deadline then ⟨now + after, r.read⟩ else ⟨deadline, .error .decode⟩
    | none => ⟨deadline, .error .decode⟩

end Response

/-- A client and the server that it talks to. -/
structure ComputeClient where
  endpoint : String
  /-- The deadline of one request in milliseconds. -/
  timeout : Nat
  server : Server

namespace ComputeClient

/-- A client for the configured service. -/
def new (config : ComputeConfig) (server : Server) : Except ComputeError ComputeClient :=
  config.endpoint.map fun endpoint => { endpoint, timeout := config.timeout, server }

/-- The URL of a request, if the endpoint is one. -/
def url? (c : ComputeClient) (request : PerformanceRequest) : Option String :=
  (c.server.locate? c.endpoint).map (HttpUrl.withFields · request.query)

def redirectLimit : Nat := 10

/-- Asks for a calculation. A client whose endpoint is no URL asks nobody. -/
def call (c : ComputeClient) (request : PerformanceRequest) : CallAnswer × ComputeClient :=
  match c.url? request with
  | none => (⟨0, .error .request⟩, c)
  | some url =>
    match c.server.follow c.timeout redirectLimit 0 url with
    | (.ok (now, r), server) => (r.answer now c.timeout, { c with server })
    | (.error stop, server) => (⟨stop, .error .request⟩, { c with server })

instance : Calculator ComputeClient := ⟨call⟩

theorem call_of_no_url {c : ComputeClient} (request : PerformanceRequest)
    (h : c.server.locate? c.endpoint = none) : c.call request = (⟨0, .error .request⟩, c) := by
  rw [call, url?, h, Option.map_none]

end ComputeClient

end Coordination
