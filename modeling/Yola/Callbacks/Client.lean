import Yola.Callbacks.Queue

/-!
# The callbacks of a client

What the TCP and the WebSocket client do with what the server sends: `ReadReply` while the client is created,
then the read loop, which submits a callback for every push, and `shutdownWith`, which every goroutine can
call and whose work is done once.  The two clients differ in what the read loop does after a kick.
-/

namespace Yola.Callbacks

inductive Op where
  | push
  | authReply
  | response
  | heartbeatReply
  | kick
  | other
deriving DecidableEq

structure Proto (Body : Type) where
  op : Op
  cmd : Int
  code : Int
  body : Body

inductive Callback (Body : Type) where
  | connect
  | push (cmd : Int) (body : Body)
  | kick (code : Int)
  | disconnect

inductive AuthError where
  | read
  | tooManyPushes
  | invalidResponse
  | rejected (code : Int)

/-- What a client is configured with: which pushes have a handler, and which callbacks there are. -/
structure ClientOptions where
  callbackQueueSize : Nat
  pushHandlers : Int → Bool
  connectFunc : Bool
  kickHandler : Bool
  disconnectFunc : Bool

inductive Transport where
  | tcp
  | websocket

variable {Body : Type}

/-- The pushes before the reply, and what comes after it.  The end of the list is an error of `read`. -/
def readReply (limit : Nat) (pending : List (Proto Body)) :
    List (Proto Body) → Except AuthError (List (Proto Body) × List (Proto Body))
  | [] => .error .read
  | reply :: rest =>
    if reply.op = .push then
      if limit ≤ pending.length then .error .tooManyPushes
      else readReply limit (pending ++ [reply]) rest
    else if reply.op ≠ .authReply then .error .invalidResponse
    else if reply.code ≠ 0 then .error (.rejected reply.code)
    else .ok (pending, rest)

namespace ClientOptions

variable (o : ClientOptions)

def pushCallback (p : Proto Body) : Option (Callback Body) :=
  if o.pushHandlers p.cmd then some (.push p.cmd p.body) else none

def initialCallbacks (pending : List (Proto Body)) : List (Callback Body) :=
  (if o.connectFunc then [.connect] else []) ++ pending.filterMap o.pushCallback

/-- The callbacks of `shutdownWith`, for a kick with its code. -/
def terminals (kick : Option Int) : List (Callback Body) :=
  (if o.kickHandler then (kick.map .kick).toList else []) ++ if o.disconnectFunc then [.disconnect] else []

end ClientOptions

inductive Reader where
  | reading
  /-- About to call `shutdownWith` for a kick. -/
  | kicked (code : Int)
  /-- About to call `shutdownWith` for an error. -/
  | closing
  | stopped
deriving DecidableEq

/-- Where the first `shutdownWith` is.  It stands with its kick, if one caused it, and with the call of
`BeginTermination` whose release function it has. -/
inductive Shutdown where
  | none
  | begun (kick : Option Int) (finishCallbacks : Option Nat)
  | finished (kick : Option Int)

structure Client (Body : Type) where
  callbacks : System (Callback Body)
  /-- What the server has still to send. -/
  inbound : List (Proto Body)
  reader : Reader
  shutdown : Shutdown

def ClientOptions.newClient (o : ClientOptions) (stream : List (Proto Body)) : Option (Client Body) :=
  match readReply o.callbackQueueSize [] stream with
  | .error _ => none
  | .ok (pending, rest) =>
    if o.callbackQueueSize < pending.length + o.connectFunc.toNat then none
    else
      let initialCallbacks := (o.initialCallbacks pending).map some
      if ((Queue.new o.callbackQueueSize).submitBatch initialCallbacks).1 ≠ none then none
      else some
        { callbacks := (System.new o.callbackQueueSize).submitBatch initialCallbacks
          inbound := rest
          reader := .reading
          shutdown := .none }

namespace Client

variable (o : ClientOptions) (c : Client Body)

def shutdownWith (kick : Option Int) : Client Body :=
  match c.shutdown with
  | .none =>
    if (o.terminals kick : List (Callback Body)).isEmpty then
      { c with callbacks := c.callbacks.stop, shutdown := .begun kick none }
    else
      { c with
        callbacks := c.callbacks.beginTermination (o.terminals kick)
        shutdown := .begun kick (some c.callbacks.calls) }
  | _ => c

def submit (callback : Callback Body) : Client Body :=
  { c with
    callbacks := c.callbacks.submitBatch [some callback]
    reader := if (c.callbacks.queue.submitBatch [some callback]).1 = none then .reading else .closing }

/-- The read loop after a kick: over with TCP; with WebSocket what is deferred remains. -/
def afterKick : Transport → Reader
  | .tcp => .stopped
  | .websocket => .closing

/-- The message calls no callback. -/
def Ignored (p : Proto Body) : Prop :=
  match p.op with
  | .push => o.pushCallback p = none
  | .kick => False
  | _ => True

end Client

/-- The steps of a client.  A message is read and handled in one step.  Who calls `shutdownWith` after
another goroutine only waits. -/
inductive ClientStep (transport : Transport) (o : ClientOptions) (c : Client Body) :
    Unit → Client Body → Prop where
  | pushes {p : Proto Body} {rest callback} (reading : c.reader = .reading)
      (inbound : c.inbound = p :: rest) (op : p.op = .push) (handler : o.pushCallback p = some callback) :
      ClientStep transport o c () ({ c with inbound := rest }.submit callback)
  | skips {p rest} (reading : c.reader = .reading)
      (inbound : c.inbound = p :: rest) (ignored : Client.Ignored o p) :
      ClientStep transport o c () { c with inbound := rest }
  /-- An unexpected heartbeat reply. -/
  | misses {p : Proto Body} {rest} (reading : c.reader = .reading)
      (inbound : c.inbound = p :: rest) (op : p.op = .heartbeatReply) :
      ClientStep transport o c () { c with inbound := rest, reader := .closing }
  | reads {p : Proto Body} {rest} (reading : c.reader = .reading)
      (inbound : c.inbound = p :: rest) (op : p.op = .kick) :
      ClientStep transport o c () { c with inbound := rest, reader := .kicked p.code }
  /-- Reading fails. -/
  | fails (reading : c.reader = .reading) : ClientStep transport o c () { c with reader := .closing }
  | kicks {code} (kicked : c.reader = .kicked code) :
      ClientStep transport o c () { c.shutdownWith o (some code) with reader := Client.afterKick transport }
  | ends (closing : c.reader = .closing) :
      ClientStep transport o c () { c.shutdownWith o none with reader := .stopped }
  /-- `Close`, by whoever calls it. -/
  | closes : ClientStep transport o c () (c.shutdownWith o none)
  | finishes {kick} (begun : c.shutdown = .begun kick none) :
      ClientStep transport o c () { c with shutdown := .finished kick }
  | releases {kick call} {t : Termination (Callback Body)}
      (begun : c.shutdown = .begun kick (some call)) (record : c.callbacks.terminations call = some t)
      (held : t.release = .held) :
      ClientStep transport o c () { c with
        callbacks := c.callbacks.setTermination call
          { t with release := if t.closes then .returned else .invoking t.terminals }
        shutdown := .finished kick }
  | works {callbacks} (h : c.callbacks.WorkerStep callbacks) :
      ClientStep transport o c () { c with callbacks := callbacks }

end Yola.Callbacks
