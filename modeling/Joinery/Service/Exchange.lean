import Joinery.Json
import Joinery.Service.Retry
import Joinery.Text.Front
import Joinery.Url.Address

/-!
# Exchanges with a service

A request goes out and a reply comes back, or none does. A server is a function
of all requests it has got so far; requests that are repeated reach it again. An
answer may name another place to look, and the client goes there by itself, with
the same request or with one that only asks for what is there. What a call to a
service comes to is a result and the longer history.
-/

namespace Joinery

/-- What a request asks of a service. -/
inductive Method where
  | get
  | post
  | delete
deriving DecidableEq

/-- The word for a method. -/
def Method.text : Method → String
  | get => "GET"
  | post => "POST"
  | delete => "DELETE"

/-- A request as it goes out. -/
structure ServiceRequest where
  method : Method
  url : Url
  body : Option Json

/-- What kind of content a request has, if it has any. -/
def ServiceRequest.contentType (request : ServiceRequest) : Option String :=
  request.body.map fun _ => "application/json"

/-- The sender that every request names. -/
def userAgent : String := "atelier-gateway/0.1.0"

/-- What comes back. -/
inductive Reply where
  | answered (status : Nat) (body : String)
  /-- An answer whose bytes are not simply the UTF-8 of a text. Refusals show the text for which
  the bytes stand in the encoding that the answer names; documents are read as UTF-8, if that
  can be done as far as they are read. -/
  | encoded (status : Nat) (shown : String) (document : Option String)
  /-- The status arrived, but not the whole body. -/
  | broken (status : Nat)
  /-- Nothing arrived. -/
  | lost

/-- The place that an answer names. -/
inductive Location where
  | web (url : Url)
  /-- An address of a kind at which nothing can be asked for. -/
  | other

/-- A reply, the milliseconds it took, and the place that it names, if it names one. -/
structure Exchange where
  duration : Nat
  reply : Reply
  location : Option Location

/-- The requests that have gone out, in order. -/
abbrev History := List ServiceRequest

/-- A server answers the last request of a history. -/
abbrev Server := History → Exchange

/-- Whether a status means success. -/
def isSuccess (status : Nat) : Bool := 200 ≤ status && status ≤ 299

/-- How many bytes of a refusal are kept. -/
def refusalLimit : Nat := 512

namespace Reply

/-- What a refusal comes to: its status and the front of its body. -/
def refusal (status : Nat) (body : String) : ServiceFault :=
  .httpStatus status (Text.front refusalLimit body)

/-- The status of a reply. -/
def status? : Reply → Option Nat
  | answered status _ => some status
  | encoded status _ _ => some status
  | broken status => some status
  | lost => none

/-- The result of a reply whose body is read. -/
def read {α : Type} (decode : String → Except ServiceFault α) : Reply → Except ServiceFault α
  | answered status body => if isSuccess status then decode body else .error (refusal status body)
  | encoded status shown document =>
    if isSuccess status then
      match document with
      | some body => decode body
      | none => .error (.deserializationFailed "the answer is not understood")
    else .error (refusal status shown)
  | broken status =>
    if isSuccess status then .error (.requestFailed "the answer broke off")
    else .error (refusal status "")
  | lost => .error (.requestFailed "no answer arrived")

/-- The result of a reply whose status is all that counts. -/
def acknowledge : Reply → Except ServiceFault Unit
  | answered status body => if isSuccess status then .ok () else .error (refusal status body)
  | encoded status shown _ => if isSuccess status then .ok () else .error (refusal status shown)
  | broken status => if isSuccess status then .ok () else .error (refusal status "")
  | lost => .error (.requestFailed "no answer arrived")

end Reply

/-- Whether an answer with a status sends its reader to the place that it names. -/
def isRedirect (status : Nat) : Bool := [301, 302, 303, 307, 308].contains status

/-- The request that goes to another place: the same once more, or one that only asks for what
is there. -/
def ServiceRequest.redirected (request : ServiceRequest) (status : Nat) (url : Url) :
    ServiceRequest :=
  if status = 307 ∨ status = 308 then { request with url } else ⟨.get, url, none⟩

/-- What the library that sends the requests brings along. -/
structure Client where
  /-- Whether a request can be addressed to a URL. -/
  accepts : Url → Bool
  /-- How often a request may be sent on to another place. -/
  redirects : Nat

/-- The client that addresses requests to any URL. -/
def Client.standard : Client := ⟨fun _ => true, 10⟩

/-- What follows from an exchange. -/
inductive Next where
  /-- Its reply is the one that counts. -/
  | final
  | onward (request : ServiceRequest)
  /-- It leads to where nothing can be asked for. -/
  | astray

/-- What a client has got for a request: the reply that counts, the milliseconds that it took
until then, and all requests that have gone out. -/
structure Delivery where
  duration : Nat
  reply : Reply
  history : History

namespace Client

/-- What a client does after an exchange. A place to which it cannot address a request does not
count. -/
def next (client : Client) (request : ServiceRequest) (exchange : Exchange) : Next :=
  match exchange.reply.status?, exchange.location with
  | some status, some (.web url) =>
    if isRedirect status && client.accepts url then .onward (request.redirected status url)
    else .final
  | some status, some .other => if isRedirect status then .astray else .final
  | _, _ => .final

/-- Sends a request and follows where the answers lead, some number of times at most, as long as
the deadline has not passed. A request that is led on too often comes to nothing. -/
def follow (client : Client) (server : Server) (deadline left elapsed : Nat)
    (request : ServiceRequest) (history : History) : Delivery :=
  let sent := history ++ [request]
  let exchange := server sent
  let elapsed := elapsed + exchange.duration
  if deadline < elapsed then ⟨elapsed, .lost, sent⟩
  else
    match client.next request exchange with
    | .final => ⟨elapsed, exchange.reply, sent⟩
    | .astray => ⟨elapsed, .lost, sent⟩
    | .onward following =>
      match left with
      | 0 => ⟨elapsed, .lost, sent⟩
      | left + 1 => follow client server deadline left elapsed following sent

/-- What a request comes to when it is sent for the first time, or once more after the times
before. -/
def attempt (client : Client) (server : Server) (policy : RetryPolicy) (request : ServiceRequest)
    (history : History) : Nat → Delivery
  | 0 => client.follow server policy.attemptTimeout client.redirects 0 request history
  | n + 1 => client.follow server policy.attemptTimeout client.redirects 0 request
      (client.attempt server policy request history n).history

/-- Sends a request, again and again as a policy allows. Nothing is sent to a URL to which no
request can be addressed. -/
def call {α : Type} (client : Client) (server : Server) (policy : RetryPolicy)
    (read : Reply → Except ServiceFault α) (request : ServiceRequest) (history : History) :
    Except ServiceFault α × History :=
  if client.accepts request.url then
    let delivery := client.attempt server policy request history
    let run := policy.run fun n => ⟨(delivery n).duration, read (delivery n).reply⟩
    (run.outcome, (delivery (run.attempts - 1)).history)
  else (.error (.invalidUrl "no request can be addressed to this URL"), history)

end Client

end Joinery
