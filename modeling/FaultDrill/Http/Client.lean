import FaultDrill.Http.Message
import FaultDrill.Json.Printer
import FaultDrill.Settings.Http
import FaultDrill.Url.Parser

/-!
Clients send requests with headers of their own, give up after a while, and go
where responses send them, up to a number of times.
-/

namespace FaultDrill.Http

/-- Why there is no client. -/
inductive ClientError where
  /-- The name of the client cannot be sent in a header. -/
  | badUserAgent
  | badHeader (error : HeaderError)
  deriving DecidableEq

namespace ClientError

/-- Errors from the outermost to the one that caused it. -/
def chain : ClientError → List String
  | .badUserAgent =>
      ["Failed to build HTTP client: builder error", "builder error",
       "failed to parse header value"]
  | .badHeader error =>
      let reason := error.message
      [s!"Invalid header: {reason}"]

def message (error : ClientError) : String := error.chain.headD ""

end ClientError

structure Client where
  /-- How many nanoseconds a request and all that follows from it may take. -/
  timeout : Nat
  redirects : Nat
  /-- Headers of every request. -/
  headers : Headers
  deriving DecidableEq

namespace Client

/-- A client of these settings whose requests may take no longer than a limit,
with some headers in addition. They may replace those that every client sends. -/
def build (http : HttpSettings) (limit : Duration) (headers : List (String × String)) :
    Except ClientError Client := do
  let added ← (Headers.ofList headers).mapError .badHeader
  if !isHeaderValue http.userAgent then throw .badUserAgent
  let standard : Headers := [("accept", "*/*"), ("user-agent", http.userAgent)]
  return {
    timeout := (limit.shorter http.timeout).toNat
    redirects := http.redirects.toNat
    headers := added.foldl (fun headers (name, value) => headers.set name value) standard }

/-- The client for anything but load and polls. -/
def ofSettings (http : HttpSettings) : Except ClientError Client := build http http.timeout []

/-- A client that has no longer than a number of nanoseconds. -/
def within (client : Client) (limit : Nat) : Client :=
  { client with timeout := min client.timeout limit }

/-! Sending -/

/-- Why a request got no response. -/
inductive Failure where
  /-- The address is none of the web. -/
  | badAddress
  /-- The connection failed or was closed. -/
  | disconnected
  | timedOut
  | tooManyRedirects
  deriving Repr, DecidableEq

def Failure.message : Failure → String
  | .badAddress => "builder error"
  | .disconnected | .timedOut => "error sending request"
  | .tooManyRedirects => "error following redirect"

/-- What became of a request, and after how many nanoseconds. -/
structure Reply where
  time : Nat
  result : Except Failure Response

def Reply.status? (reply : Reply) : Option UInt16 := reply.result.toOption.map Response.status

/-- Whether requests can be sent to an address. -/
def isReachable (url : Url) : Bool := url.scheme = "http" || url.scheme = "https"

/-- The request that a response leads to, if it leads anywhere. A request that is
not to be repeated as it was becomes a plain one. -/
def redirected? (request : Request) (response : Response) : Option (Except Failure Request) := do
  let location ← response.location
  let repeats := response.status = 307 || response.status = 308
  if !(repeats || response.status = 301 || response.status = 302 || response.status = 303) then none
  let url ← (request.url.join location).toOption
  if !isReachable url then some (.error .badAddress)
  else if repeats then some (.ok { request with url := url })
  else
    let headers := request.headers.filter fun (name, _) => name ≠ "content-type"
    some (.ok { method := .get, url := url, headers := headers, body := none })

/-- Where an answer leaves a client: with a reply, or with another request to send
some nanoseconds after the first one. -/
inductive Step where
  | done (reply : Reply)
  | onward (spent : Nat) (next : Request)

/-- What a client makes of the answer to a request sent `spent` nanoseconds after the
first one. -/
def heed (client : Client) (spent : Nat) (request : Request) : Answer → Step
  | .silence => .done ⟨client.timeout, .error .timedOut⟩
  | .refused time | .closed time =>
      if client.timeout < spent + time then .done ⟨client.timeout, .error .timedOut⟩
      else .done ⟨spent + time, .error .disconnected⟩
  | .response time response =>
      if client.timeout < spent + time then .done ⟨client.timeout, .error .timedOut⟩
      else
        match redirected? request response with
        | none => .done ⟨spent + time, .ok response⟩
        | some (.error failure) => .done ⟨spent + time, .error failure⟩
        | some (.ok next) => .onward (spent + time) next

/-- Sends a request `spent` nanoseconds after the first one, and follows up to
`hops` redirects. -/
def follow (client : Client) (network : Network) :
    (hops spent : Nat) → Request → StateM Traffic Reply
  | 0, spent, request => do
      match client.heed spent request (← exchange network request) with
      | .done reply => return reply
      | .onward spent _ => return ⟨spent, .error .tooManyRedirects⟩
  | hops + 1, spent, request => do
      match client.heed spent request (← exchange network request) with
      | .done reply => return reply
      | .onward spent next => follow client network hops spent next

/-- Sends a request to a written address. -/
def send (client : Client) (network : Network) (method : Method) (address : String)
    (body : Option Value) : StateM Traffic Reply :=
  match Url.parse address with
  | .error _ => return ⟨0, .error .badAddress⟩
  | .ok url =>
      if isReachable url then
        let headers := match body with
          | none => client.headers
          | some _ => client.headers.set "content-type" "application/json"
        let request : Request := ⟨method, url, headers, body.map Json.compact⟩
        client.follow network client.redirects 0 request
      else return ⟨0, .error .badAddress⟩

/-- Waits for the body of a response. A body that takes too long is absent. -/
def read (client : Client) (reply : Reply) : Reply :=
  match reply.result with
  | .error _ => reply
  | .ok response =>
      let time := reply.time + response.bodyTime
      if client.timeout < time then ⟨client.timeout, .ok { response with body := none }⟩
      else ⟨time, .ok response⟩

end Client

end FaultDrill.Http
