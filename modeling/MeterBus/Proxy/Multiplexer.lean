import MeterBus.Proxy.Activity
import MeterBus.Proxy.Routing
import MeterBus.Stream.Line

/-!
# The multiplexer

The multiplexer lets two masters share one slave. A step waits for a frame on any port and deals
with it, one exchange with the slave at a time. At one instant a cancellation comes first, then the
external master, the local master and the slave.

A state holds the three lines, the clock and the trace of everything done so far. Time moves only
while something is waited for, from one instant at which something happens to the next. Every call
has a deadline at which its caller gives up.
-/

namespace MeterBus

/-- The multiplexer together with its lines, its clock and its trace. -/
structure Multiplexer where
  routing : Routing
  lines : PerPort Line
  /-- The ports whose end has not been met by a step. -/
  listening : PerPort Bool
  /-- The time in milliseconds. -/
  now : Nat
  /-- Whether the work has been cancelled. -/
  cancelled : Bool
  /-- The time at which the work will be cancelled; it counts only while a call is at work. -/
  cancelAt : Option Nat
  /-- What was done, newest first. -/
  trace : List Entry
  deriving DecidableEq, Repr

/-- Why a call of the multiplexer does not come to its end. -/
inductive Halt where
  /-- It failed. -/
  | failed (error : ProxyError)
  /-- Its caller gave up waiting. -/
  | abandoned
  deriving DecidableEq, Repr

/-- What the multiplexer does to its state, which is kept when it halts. -/
abbrev Proceeding := EStateM Halt Multiplexer

namespace Multiplexer

/-- A multiplexer that listens on three quiet lines. -/
def fresh (routing : Routing) : Multiplexer where
  routing := routing
  lines := .replicate (.fresh .strict)
  listening := .replicate true
  now := 0
  cancelled := false
  cancelAt := none
  trace := []

/-! ## What happens around it -/

/-- The multiplexer with the line of a port changed. -/
def onLine (port : Port) (change : Line → Line) (mux : Multiplexer) : Multiplexer :=
  { mux with lines := mux.lines.modify port change }

/-- A delivery sets out for a port. -/
def feed (port : Port) (delivery : Delivery) (mux : Multiplexer) : Multiplexer :=
  mux.onLine port (Line.feed mux.now delivery)

/-- The transport of a port ends behind what is on its way. -/
def close (port : Port) (mux : Multiplexer) : Multiplexer :=
  mux.onLine port Line.close

/-- An answer to a write to a port is prepared. -/
def prepare (port : Port) (answer : List Delivery) (mux : Multiplexer) : Multiplexer :=
  mux.onLine port (Line.prepare answer)

/-- A write to a port is going to fail. -/
def breakWrite (port : Port) (fault : LinkError) (mux : Multiplexer) : Multiplexer :=
  mux.onLine port (Line.breakWrite fault)

/-- The work is cancelled. -/
def cancel (mux : Multiplexer) : Multiplexer :=
  { mux with cancelled := true }

/-- The work is going to be cancelled, at this and no other time. -/
def cancelAfter (delay : Nat) (mux : Multiplexer) : Multiplexer :=
  { mux with cancelAt := some (mux.now + delay) }

/-- Time passes while no call is at work. -/
def elapse (duration : Nat) (mux : Multiplexer) : Multiplexer :=
  { mux with now := mux.now + duration }

/-! ## Elementary changes -/

/-- The multiplexer with the line of a port replaced. -/
def setLine (port : Port) (line : Line) (mux : Multiplexer) : Multiplexer :=
  { mux with lines := mux.lines.set port line }

/-- The multiplexer at a later time; a cancellation that has become due takes effect. -/
def atTime (time : Nat) (mux : Multiplexer) : Multiplexer :=
  let due := mux.cancelAt.any (· ≤ time)
  { mux with
    now := time
    cancelled := mux.cancelled || due
    cancelAt := if due then none else mux.cancelAt }

/-- The multiplexer with one more entry in its trace. -/
def note (activity : Activity) (mux : Multiplexer) : Multiplexer :=
  { mux with trace := ⟨mux.now, activity⟩ :: mux.trace }

/-- The multiplexer with the reports of the codec of a port in its trace. -/
def noteCodec (port : Port) (events : List Codec.Event) (mux : Multiplexer) : Multiplexer :=
  events.foldl (fun after event => after.note (.codec port event)) mux

/-- The multiplexer with the write in its trace that relieved a port, if there was one. -/
def noteRelief (port : Port) (written : List UInt8) (mux : Multiplexer) : Multiplexer :=
  if written.isEmpty then mux else mux.note (.relieved port written)

/-- The multiplexer with frames in its trace that the slave sent too late. -/
def noteStale (frames : List (Frame × List Codec.Event)) (mux : Multiplexer) : Multiplexer :=
  frames.foldl
    (fun after (frame, events) =>
      (((after.noteCodec .slave events).note (.received .slave frame)).note
        (.stale frame)).note (.unexpected .slave frame))
    mux

/-- Listens on a port from outside for a while; the time it took is over afterwards. -/
def listen (port : Port) (patience : Nat) (mux : Multiplexer) : Poll × Multiplexer :=
  let limit := mux.now + patience
  let awaited := (mux.lines.get port).await mux.now limit
  let time := if awaited.poll = .pending then limit else awaited.time
  (awaited.poll,
    ({ mux with now := time }.setLine port awaited.line).noteCodec port awaited.events)

/-! ## Elementary proceedings -/

/-- Lets time pass until a given time. -/
def advanceTo (time : Nat) : Proceeding Unit :=
  modify (atTime time)

/-- Adds an activity to the trace. -/
def report (activity : Activity) : Proceeding Unit :=
  modify (note activity)

/-- Ends the call with a failure. -/
def fail {α : Type} (error : ProxyError) : Proceeding α :=
  throw (.failed error)

/-- Polls a port. -/
def poll (port : Port) : Proceeding Poll := do
  let mux ← get
  let polled := (mux.lines.get port).poll mux.now
  set ((mux.setLine port polled.2.1).noteCodec port polled.2.2)
  return polled.1

/-- Sends a frame to a port. -/
def send (port : Port) (frame : Frame) : Proceeding Unit := do
  let mux ← get
  let sent := (mux.lines.get port).send mux.now frame
  set (((mux.setLine port sent.line).noteRelief port sent.relieved).noteCodec port sent.events)
  match sent.written with
  | .ok written => report (.sent port frame written)
  | .error cause => fail (.write port cause)

/-! ## Exchanges with the slave -/

/-- Drops the frames that the slave has ready: they answer no request that is still open. -/
def discardStale : Proceeding Unit := do
  let mux ← get
  let ready := mux.lines.slave.readyFrames mux.now
  set (((mux.setLine .slave ready.line).noteStale ready.frames).noteCodec .slave ready.events)
  match ready.last with
  | .failure cause => fail (.read .slave cause)
  | .ended => fail (.portClosed .slave)
  | _ => pure ()

/-- Waits for the slave until a given time; nothing comes if the wait is in vain. -/
def awaitSlave (limit : Nat) : Proceeding Poll := do
  let mux ← get
  let awaited := mux.lines.slave.await mux.now limit
  let time := if awaited.poll = .pending then limit else awaited.time
  set (((mux.setLine .slave awaited.line).atTime time).noteCodec .slave awaited.events)
  return awaited.poll

/-- Asks the slave and relays its answer to the master that made the request. A master whose
request stays without an answer has to ask again, so that this is no failure. -/
def exchange (deadline : Nat) (origin : Port) (request : Frame) : Proceeding Unit := do
  discardStale
  report (.forwarding request origin)
  send .slave request
  let mux ← get
  let timeout := mux.routing.responseTimeout
  match ← awaitSlave (min (mux.now + timeout) deadline) with
  | .pending =>
    if mux.now + timeout ≤ deadline then report (.timedOut origin timeout)
    else throw .abandoned
  | .ended => fail (.portClosed .slave)
  | .failure cause => fail (.read .slave cause)
  | .frame reply =>
    report (.received .slave reply)
    report (.relaying reply origin)
    send origin reply
    report (.relayed origin)

/-- Answers a master for the slave. -/
def acknowledge (port : Port) : Proceeding Unit := do
  report (.acknowledging port)
  send port .single
  report (.acknowledged port)

/-- Carries out a decision on a frame of a master. -/
def carryOut (deadline : Nat) (port : Port) (frame : Frame) : Decision → Proceeding Unit
  | .acknowledge => acknowledge port
  | .acknowledgeSelection => do
    report .selected
    acknowledge port
  | .forward request => exchange deadline port request
  | .ignore => report (.ignored frame)
  | .reject => report (.unexpected port frame)

/-- Deals with a frame that was taken from a port. -/
def handle (deadline : Nat) (port : Port) (frame : Frame) : Proceeding Unit := do
  let routing := (← get).routing
  match port with
  | .externalMaster => carryOut deadline port frame (routing.ofExternal frame)
  | .localMaster => carryOut deadline port frame (routing.ofLocal frame)
  | .slave => report (.unexpected .slave frame)

/-! ## Waiting for the next frame -/

/-- Whether some port is still listened to. -/
def anyListening (mux : Multiplexer) : Bool :=
  mux.listening.toList.any id

/-- The multiplexer that no longer listens to a port. -/
def deafTo (port : Port) (mux : Multiplexer) : Multiplexer :=
  { mux with listening := mux.listening.set port false }

/-- Takes a frame from a port that has one. The end of a port is noted once. -/
def take? (port : Port) : Proceeding (Option Frame) := do
  if !((← get).listening.get port) then return none
  match ← poll port with
  | .pending => return none
  | .ended =>
    report (.ended port)
    modify (deafTo port)
    return none
  | .failure cause => fail (.read port cause)
  | .frame frame =>
    report (.received port frame)
    return some frame

/-- Takes a frame from the first of some ports that has one. -/
def takeFirst? : List Port → Proceeding (Option (Port × Frame))
  | [] => return none
  | port :: others => do
    match ← take? port with
    | some frame => return some (port, frame)
    | none => takeFirst? others

/-- The ports in the order in which they are looked at. -/
def precedence : List Port := [.externalMaster, .localMaster, .slave]

/-- The later times up to a deadline at which something may happen. -/
def agenda (deadline : Nat) (mux : Multiplexer) : List Nat :=
  Line.timesWithin mux.now deadline
    ((mux.lines.toList.map Line.dueTimes).flatten ++ mux.cancelAt.toList)

/-- Looks at the ports at each of some instants until there is a frame; none if the work is
cancelled. -/
def takeAt (deadline : Nat) : List Nat → Proceeding (Option (Port × Frame))
  | [] => do
    advanceTo deadline
    throw .abandoned
  | instant :: later => do
    advanceTo instant
    if (← get).cancelled then
      report .cancelled
      return none
    match ← takeFirst? precedence with
    | some taken => return some taken
    | none =>
      if (← get).anyListening then takeAt deadline later
      else fail .allPortsClosed

/-- Waits for the next frame and deals with it. -/
def step (deadline : Nat) : Proceeding Unit := do
  let mux ← get
  advanceTo mux.now
  if !mux.anyListening then fail .allPortsClosed
  match ← takeAt deadline (mux.now :: mux.agenda deadline) with
  | none => return ()
  | some (port, frame) => handle deadline port frame

end Multiplexer

end MeterBus
