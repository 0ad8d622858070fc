import Icelander.Engine

/-!
# Event Dispatcher

`EventDispatcher` (`src/src/event_dispatcher.cpp`): ordered handler lists for
connect, disconnect and receive events, plus per-channel receive lists.

Handlers are closures in the source. Here a handler is a tagged value with its
captured behaviour made explicit: `keepsPeer` says whether it stores the
event's `peerHandle` (a `shared_ptr<Peer>` copy) in state that outlives the
call, which is the one effect of a handler the host's bookkeeping can observe.
Dispatching returns the handlers in the order they are called.

A handler here returns normally. Two outcomes of the source are left out: a
handler that throws ends the dispatch loop, and the later handlers are not
called (the exception leaves `processEvent` and `service`, and on the service
thread `std::terminate`s); and an empty `std::function` registered as a handler
throws `std::bad_function_call` when its turn comes. Handlers that take a
reference to the `Host` are modelled in `Host/Teardown.lean`.

* `DispatcherOp`, `EventDispatcher.run`: registration calls and histories of them.
* `handlers_apply`: one call appends to the one list it names, or clears all.
* `dispatch_follows_registration`: after any history, each dispatch calls the
  handlers registered since the last `clearHandlers()`, in registration order,
  global receive handlers before the event channel's.
-/

namespace Icelander

/-- A registered handler: a tag naming the closure, and whether it keeps the event's
    peer. -/
structure Handler where
  tag : Nat
  keepsPeer : Bool
  deriving DecidableEq, Repr

/-- The typed events (a tagged variant over the three kinds); `peer` is the `Peer`
    wrapper the event's `peerHandle` points to. -/
inductive Event
  /-- `ConnectEvent`. -/
  | connect (peer : Nat) (remoteEndpoint : Endpoint) (data : UInt32)
  /-- `DisconnectEvent`. -/
  | disconnect (peer : Nat) (remoteEndpoint : Endpoint) (data : UInt32)
  /-- `ReceiveEvent`: the received packet, now owned by `packetData`. -/
  | receive (peer : Nat) (packetData : PacketHandle) (channel : UInt8)
  deriving DecidableEq, Repr

/-- The wrapper an event's `peerHandle` points to. -/
def Event.peer : Event → Nat
  | .connect w _ _ => w
  | .disconnect w _ _ => w
  | .receive w _ _ => w

/-- `EventDispatcher`: the four handler containers. The `unordered_map` of channel
    lists is a function, empty where no handler was registered. -/
structure EventDispatcher where
  connectHandlers : List Handler
  disconnectHandlers : List Handler
  receiveHandlers : List Handler
  channelHandlers : UInt8 → List Handler

/-- A registration call on the dispatcher. -/
inductive DispatcherOp
  /-- `onConnect(handler)`. -/
  | onConnect (handler : Handler)
  /-- `onDisconnect(handler)`. -/
  | onDisconnect (handler : Handler)
  /-- `onReceive(handler)`. -/
  | onReceive (handler : Handler)
  /-- `onReceive(channel, handler)`. -/
  | onReceiveChannel (channel : UInt8) (handler : Handler)
  /-- `clearHandlers()`. -/
  | clearHandlers
  deriving DecidableEq, Repr

/-- The handler lists a dispatcher keeps: connect, disconnect, global receive, and one
    receive list per channel. -/
inductive HandlerList
  | connect
  | disconnect
  | receive
  | channel (c : UInt8)
  deriving DecidableEq, Repr

/-- The list a registration call appends to, and its handler; `none` for `clearHandlers()`. -/
def DispatcherOp.target : DispatcherOp → Option (HandlerList × Handler)
  | .onConnect handler => some (.connect, handler)
  | .onDisconnect handler => some (.disconnect, handler)
  | .onReceive handler => some (.receive, handler)
  | .onReceiveChannel channel handler => some (.channel channel, handler)
  | .clearHandlers => none

/-- The calls of a history after its last `clearHandlers()`; all of them when there is none. -/
def sinceClear (ops : List DispatcherOp) : List DispatcherOp :=
  (ops.reverse.takeWhile (· != .clearHandlers)).reverse

/-- The handlers a sequence of calls registers to list `l`, in order. -/
def registered (l : HandlerList) (ops : List DispatcherOp) : List Handler :=
  ops.filterMap fun op => match op.target with
    | some (l', handler) => if l' = l then some handler else none
    | none => none

/-- One more call: a `clearHandlers()` empties the history that counts; any other call
    extends it. -/
theorem sinceClear_append_singleton (ops : List DispatcherOp) (op : DispatcherOp) :
    sinceClear (ops ++ [op]) = if op = .clearHandlers then [] else sinceClear ops ++ [op] := by
  by_cases h : op = .clearHandlers <;> simp [sinceClear, h, List.takeWhile_cons]

theorem registered_append (l : HandlerList) (ops ops' : List DispatcherOp) :
    registered l (ops ++ ops') = registered l ops ++ registered l ops' :=
  List.filterMap_append _ _ _

namespace EventDispatcher

/-- A dispatcher with no handlers (the default-constructed one, and `clearHandlers()`). -/
def empty : EventDispatcher := ⟨[], [], [], fun _ => []⟩

/-- `onConnect(handler)`. -/
def onConnect (d : EventDispatcher) (handler : Handler) : EventDispatcher :=
  { d with connectHandlers := d.connectHandlers ++ [handler] }

/-- `onDisconnect(handler)`. -/
def onDisconnect (d : EventDispatcher) (handler : Handler) : EventDispatcher :=
  { d with disconnectHandlers := d.disconnectHandlers ++ [handler] }

/-- `onReceive(handler)`. -/
def onReceive (d : EventDispatcher) (handler : Handler) : EventDispatcher :=
  { d with receiveHandlers := d.receiveHandlers ++ [handler] }

/-- `onReceive(channel, handler)`: `channelHandlers_[channel].push_back(handler)`. -/
def onReceiveChannel (d : EventDispatcher) (channel : UInt8) (handler : Handler) :
    EventDispatcher :=
  { d with channelHandlers := fun c =>
      if c = channel then d.channelHandlers c ++ [handler] else d.channelHandlers c }

/-- `clearHandlers()`. -/
def clearHandlers (_ : EventDispatcher) : EventDispatcher := empty

/-- `dispatchConnect`: the handlers called, in order. -/
def dispatchConnect (d : EventDispatcher) : List Handler := d.connectHandlers

/-- `dispatchDisconnect`: the handlers called, in order. -/
def dispatchDisconnect (d : EventDispatcher) : List Handler := d.disconnectHandlers

/-- `dispatchReceive`: every global receive handler, then those of the event's channel. -/
def dispatchReceive (d : EventDispatcher) (channel : UInt8) : List Handler :=
  d.receiveHandlers ++ d.channelHandlers channel

/-- The handlers one typed event reaches, by its kind. -/
def dispatch (d : EventDispatcher) : Event → List Handler
  | .connect .. => d.dispatchConnect
  | .disconnect .. => d.dispatchDisconnect
  | .receive _ _ channel => d.dispatchReceive channel

/-! ## Registration histories -/

/-- The list one container holds: connect, disconnect, global receive, or the receive list of
    one channel. -/
def handlers (d : EventDispatcher) : HandlerList → List Handler
  | .connect => d.connectHandlers
  | .disconnect => d.disconnectHandlers
  | .receive => d.receiveHandlers
  | .channel c => d.channelHandlers c

/-- One registration call. -/
def apply (d : EventDispatcher) : DispatcherOp → EventDispatcher
  | .onConnect handler => d.onConnect handler
  | .onDisconnect handler => d.onDisconnect handler
  | .onReceive handler => d.onReceive handler
  | .onReceiveChannel channel handler => d.onReceiveChannel channel handler
  | .clearHandlers => d.clearHandlers

/-- A sequence of registration calls. -/
def run (d : EventDispatcher) : List DispatcherOp → EventDispatcher
  | [] => d
  | op :: ops => (d.apply op).run ops

/-- Running two histories is running one after the other. -/
theorem run_append (d : EventDispatcher) (ops ops' : List DispatcherOp) :
    d.run (ops ++ ops') = (d.run ops).run ops' := by
  induction ops generalizing d with
  | nil => rfl
  | cons op ops ih => exact ih (d.apply op)

/-- A call empties every list when it is `clearHandlers()`, and otherwise appends its handler
    to the one list it names. -/
theorem handlers_apply (d : EventDispatcher) (op : DispatcherOp) (l : HandlerList) :
    (d.apply op).handlers l =
      if op = .clearHandlers then [] else d.handlers l ++ registered l [op] := by
  cases op <;> cases l <;>
    simp [apply, handlers, registered, DispatcherOp.target, onConnect, onDisconnect, onReceive,
      onReceiveChannel, clearHandlers, empty, List.filterMap_cons]
  -- a channel handler lands in its own channel's list only
  rename_i channel _ c
  by_cases h : c = channel
  · simp [h]
  · simp [h, Ne.symm h]

/-- After any registration history from construction, each list holds the handlers
    registered to it since the last `clearHandlers()`, in order. -/
theorem handlers_run (ops : List DispatcherOp) (l : HandlerList) :
    (empty.run ops).handlers l = registered l (sinceClear ops) := by
  induction ops using List.reverseRecOn with
  | nil => cases l <;> rfl
  | append_singleton ops op ih =>
    rw [run_append, run, run, handlers_apply, sinceClear_append_singleton]
    split
    · rfl
    · rw [ih, registered_append]

/-- Dispatch order: after any registration history from construction, `dispatchConnect` and
    `dispatchDisconnect` call the handlers of their kind registered since the last
    `clearHandlers()`, each once, in registration order; `dispatchReceive` for channel `c`
    calls the global receive handlers registered since then, in order, and then those
    registered for `c`, in order, and none registered for another channel. -/
theorem dispatch_follows_registration (ops : List DispatcherOp) (c : UInt8) :
    (empty.run ops).dispatchConnect = registered .connect (sinceClear ops) ∧
    (empty.run ops).dispatchDisconnect = registered .disconnect (sinceClear ops) ∧
    (empty.run ops).dispatchReceive c =
      registered .receive (sinceClear ops) ++ registered (.channel c) (sinceClear ops) :=
  ⟨handlers_run ops .connect, handlers_run ops .disconnect,
    congrArg₂ (· ++ ·) (handlers_run ops .receive) (handlers_run ops (.channel c))⟩

end EventDispatcher

end Icelander
