import Joinery.Generation
import Joinery.Service.Fault
import Joinery.Table

/-!
# Previews

Several targets, such as the places on a screen, ask for models. Requests for
one key share one call to the generation service; successful results are
cached; a new request for a target replaces the one before, and a call that no
target waits for any more is aborted.

The coordinator is a state with a history and a `step` for each thing that can
happen: a request enters, a call returns or dies, a waiting caller takes its
result, a caller goes away, a target is cancelled, the cache gives something up.
A step that is not possible in a state leaves it as it is, so every list of
events is a run.

The cache is bounded. It may hold more results than its capacity for a while, and
only then does it give one up; which one and when is not said.
-/

namespace Joinery.Preview

/-- What a generation call yields. -/
abbrev CallResult := Except ServiceFault Artifacts

/-- How far a call has come. -/
inductive CallState where
  | running
  | returned (result : CallResult)
  /-- The call ended without a result. -/
  | died
  | aborted

namespace CallState

/-- Whether a call has not come to an end. -/
def isRunning : CallState → Bool
  | running => true
  | _ => false

/-- Only a running call can be aborted. -/
def abort : CallState → CallState
  | running => aborted
  | state => state

end CallState

/-- A call to the generation service. -/
structure Call where
  id : Nat
  key : GenerationKey
  state : CallState

/-- How a request ends. -/
inductive Outcome where
  | ready (artifacts : Artifacts)
  /-- A later request for the target, or a cancel, came first. -/
  | superseded
  | failed (fault : ServiceFault)
deriving DecidableEq

/-- A current request ends as its call does. -/
def Outcome.ofResult : CallResult → Outcome
  | .ok artifacts => .ready artifacts
  | .error fault => .failed fault

/-- How far a request has come. -/
inductive RequestState where
  /-- The caller waits for the call with this number. -/
  | waiting (call : Nat)
  | resolved (outcome : Outcome)
  /-- The caller went away. -/
  | dropped
deriving DecidableEq

/-- Whether a request has neither resolved nor been dropped. -/
def RequestState.isWaiting : RequestState → Bool
  | waiting _ => true
  | _ => false

/-- A request for a target, with the id of its ticket. -/
structure Request where
  target : String
  key : GenerationKey
  ticket : Nat
  state : RequestState
deriving DecidableEq

/-- The ticket of a target's latest request. -/
structure Ticket where
  id : Nat
  key : GenerationKey
deriving DecidableEq

/-- A call in flight: its id, which tells it from a later call for the same key,
and its number. -/
structure Flight where
  id : Nat
  call : Nat
deriving DecidableEq

/-- The state of the coordinator with its history. Calls and requests are
numbered in the order in which they start. -/
structure Coordinator where
  calls : List Call
  requests : List Request
  /-- The last id given to a ticket or a call. All ids come from this one counter. It is
  counted here without a bound; 64 bits last for as many requests as any run makes. -/
  lastId : Nat
  /-- The current ticket of each target. -/
  tickets : Table String Ticket
  /-- The call in flight for each key. -/
  inFlight : Table GenerationKey Flight
  cache : Table GenerationKey Artifacts
  /-- How many results the cache is to hold. -/
  capacity : Nat

/-- What can happen to a coordinator. -/
inductive Event where
  | enter (target : String) (key : GenerationKey)
  | finish (call : Nat) (result : CallResult)
  | crash (call : Nat)
  | settle (request : Nat)
  | drop (request : Nat)
  | cancel (target : String)
  | evict (key : GenerationKey)

namespace Coordinator

/-- The coordinator before anything happens. -/
def initial (capacity : Nat) : Coordinator := ⟨[], [], 0, .empty, .empty, .empty, capacity⟩

/-- Whether some target's current ticket asks for a key. -/
def wants (c : Coordinator) (key : GenerationKey) : Bool :=
  c.tickets.entries.any fun entry => entry.2.key = key

/-- Whether a call is still running. -/
def isRunning (c : Coordinator) (call : Nat) : Bool :=
  c.calls[call]?.any fun call => call.state.isRunning

/-- Sets the state of a call. -/
def setCall (c : Coordinator) (call : Nat) (state : CallState) : Coordinator :=
  { c with calls := c.calls.modify call fun old => { old with state } }

/-- Aborts a call. One that has come to an end stays as it is. -/
def abort (c : Coordinator) (call : Nat) : Coordinator :=
  { c with calls := c.calls.modify call fun old => { old with state := old.state.abort } }

/-- Adds a request. -/
def record (c : Coordinator) (request : Request) : Coordinator :=
  { c with requests := c.requests ++ [request] }

/-- Sets the state of a request. -/
def setRequest (c : Coordinator) (request : Nat) (state : RequestState) : Coordinator :=
  { c with requests := c.requests.modify request fun old => { old with state } }

/-- Takes away the current ticket of a target. -/
def forget (c : Coordinator) (target : String) : Coordinator :=
  { c with tickets := c.tickets.erase target }

/-- Aborts the call in flight for a key that no current ticket asks for. -/
def release (c : Coordinator) (key : GenerationKey) : Coordinator :=
  if c.wants key then c
  else
    match c.inFlight.get? key with
    | none => c
    | some flight => { c with inFlight := c.inFlight.erase key }.abort flight.call

/-- Gives a target a new ticket in place of the one it has. -/
def grant (c : Coordinator) (target : String) (key : GenerationKey) : Coordinator :=
  let id := c.lastId + 1
  { c with lastId := id, tickets := c.tickets.put target ⟨id, key⟩ }

/-- Gives a target a new ticket. What its last ticket asked for is released if
the key changes. -/
def issue (c : Coordinator) (target : String) (key : GenerationKey) : Coordinator :=
  match (c.tickets.get? target).filter fun previous => previous.key ≠ key with
  | none => c.grant target key
  | some previous => (c.grant target key).release previous.key

/-- Starts a call for a key. -/
def start (c : Coordinator) (key : GenerationKey) : Coordinator :=
  let id := c.lastId + 1
  { c with
    lastId := id
    calls := c.calls ++ [⟨id, key, .running⟩]
    inFlight := c.inFlight.put key ⟨id, c.calls.length⟩ }

/-- A request enters with a new ticket. A cached result answers it at once;
otherwise it waits for the call in flight for its key, which starts if there is
none. -/
def enter (c : Coordinator) (target : String) (key : GenerationKey) : Coordinator :=
  let ticket := c.lastId + 1
  let c := c.issue target key
  match c.cache.get? key with
  | some artifacts =>
    (c.forget target).record ⟨target, key, ticket, .resolved (.ready artifacts)⟩
  | none =>
    match c.inFlight.get? key with
    | some flight => c.record ⟨target, key, ticket, .waiting flight.call⟩
    | none => (c.start key).record ⟨target, key, ticket, .waiting c.calls.length⟩

/-- The cache after a call for a key returns: only a success is kept. -/
def cacheWith (c : Coordinator) (key : GenerationKey) :
    CallResult → Table GenerationKey Artifacts
  | .ok artifacts => c.cache.put key artifacts
  | .error _ => c.cache

/-- The flights after a call returns: only the call itself is taken out. -/
def flightsWithout (c : Coordinator) (call : Call) : Table GenerationKey Flight :=
  if (c.inFlight.get? call.key).any fun flight => flight.id = call.id then
    c.inFlight.erase call.key
  else c.inFlight

/-- A running call returns: a success is cached, the call leaves the table, and
its result is there for all who wait. -/
def finish (c : Coordinator) (number : Nat) (result : CallResult) : Coordinator :=
  match c.calls[number]? with
  | none => c
  | some call =>
    if call.state.isRunning then
      { c with
        cache := c.cacheWith call.key result
        inFlight := c.flightsWithout call }.setCall number (.returned result)
    else c

/-- A running call dies. Its entry in the table stays until it is released. -/
def crash (c : Coordinator) (call : Nat) : Coordinator :=
  if c.isRunning call then c.setCall call .died else c

/-- Whether a request holds its target's current ticket. -/
def isCurrent (c : Coordinator) (request : Request) : Bool :=
  (c.tickets.get? request.target).any fun ticket => ticket.id = request.ticket

/-- A request gives up its ticket, if that is its target's current one. -/
def surrender (c : Coordinator) (request : Request) : Coordinator :=
  if c.isCurrent request then (c.forget request.target).release request.key else c

/-- What a waiting caller gets from a call that has come to an end. -/
def outcomeOf : CallState → Option Outcome
  | .running => none
  | .returned result => some (.ofResult result)
  | .died => some (.failed .cancelled)
  | .aborted => some (.failed .cancelled)

/-- A waiting caller takes its result once the call has ended. A request that is
no longer current is superseded, whatever the call returned. -/
def settle (c : Coordinator) (number : Nat) : Coordinator :=
  match c.requests[number]? with
  | none => c
  | some request =>
    match request.state with
    | .waiting call =>
      match c.calls[call]?.bind fun call => outcomeOf call.state with
      | none => c
      | some outcome =>
        let outcome := if c.isCurrent request then outcome else .superseded
        (c.surrender request).setRequest number (.resolved outcome)
    | _ => c

/-- A waiting caller goes away. -/
def drop (c : Coordinator) (number : Nat) : Coordinator :=
  match c.requests[number]? with
  | none => c
  | some request =>
    if request.state.isWaiting then (c.surrender request).setRequest number .dropped else c

/-- A target withdraws its request. -/
def cancel (c : Coordinator) (target : String) : Coordinator :=
  match c.tickets.get? target with
  | none => c
  | some ticket => (c.forget target).release ticket.key

/-- The cache gives up what it has for a key. It does so only while it holds more than its
capacity. -/
def evict (c : Coordinator) (key : GenerationKey) : Coordinator :=
  if c.capacity < c.cache.size then { c with cache := c.cache.erase key } else c

/-- What an event makes of a state. -/
def step (c : Coordinator) : Event → Coordinator
  | .enter target key => c.enter target key
  | .finish call result => c.finish call result
  | .crash call => c.crash call
  | .settle request => c.settle request
  | .drop request => c.drop request
  | .cancel target => c.cancel target
  | .evict key => c.evict key

/-- The state that a list of events leads to from another state. -/
def after (c : Coordinator) (events : List Event) : Coordinator := events.foldl step c

/-- The state after a list of events. -/
def run (capacity : Nat) (events : List Event) : Coordinator := (initial capacity).after events

/-- Lets every waiting caller whose call has ended take its result. -/
def settleAll (c : Coordinator) : Coordinator :=
  (List.range c.requests.length).foldl settle c

/-- The number of calls in flight. -/
def inFlightCount (c : Coordinator) : Nat := c.inFlight.size

/-- The number of targets whose request is pending. -/
def pendingTargets (c : Coordinator) : Nat := c.tickets.size

/-- The artifacts cached for a key. -/
def cached (c : Coordinator) (key : GenerationKey) : Option Artifacts := c.cache.get? key

/-- Whether a request waits. -/
def isPending (c : Coordinator) (request : Nat) : Bool :=
  c.requests[request]?.any fun request => request.state.isWaiting

end Coordinator

end Joinery.Preview
