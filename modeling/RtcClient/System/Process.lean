import RtcClient.System.Ledger

/-!
# Several engines in one process

`RtcEngine.create` and `RtcEngine.destroy` (`RtcEngine.java:16–32`) over the statics that all
engines of a process share: the network client of `ClientFactory` and the processor table of
`NettyProcessorManager`. Each engine is a `Client` of its own; an engine that has been
destroyed still has a worker, queued tasks and listeners, and the application may still hold
and call it.
-/

namespace RtcClient.Engine

/-- Message codes of the processors, in the order of their registration;
`RtcEngineEx.java:690–865`. -/
inductive MsgCode where
  | roomJoined
  | userJoined
  | userLeft
  | usersOnline
  | roomClosed
  | createUserConsumer
  | createUserTextConsumer
  | userConsumerClosed
  | consumerLayersChanged
  | consumerScore
  | producerScore
  deriving DecidableEq, Repr

/-- The processors that `registerReceiver` registers. -/
def MsgCode.all : List MsgCode :=
  [.roomJoined, .userJoined, .userLeft, .usersOnline, .roomClosed, .createUserConsumer,
    .createUserTextConsumer, .userConsumerClosed, .consumerLayersChanged, .consumerScore,
    .producerScore]

/-- Processor that handles a notification. -/
def Notification.msgCode : Notification → MsgCode
  | .roomJoined => .roomJoined
  | .userJoined _ => .userJoined
  | .userLeft _ _ => .userLeft
  | .usersOnline _ => .usersOnline
  | .roomClosed => .roomClosed
  | .createUserConsumer _ => .createUserConsumer
  | .createUserTextConsumer _ => .createUserTextConsumer
  | .userConsumerClosed _ _ => .userConsumerClosed
  | .consumerLayersChanged => .consumerLayersChanged
  | .consumerScore => .consumerScore
  | .producerScore => .producerScore

end RtcClient.Engine

namespace RtcClient.System

open RtcClient.Native RtcClient.Store RtcClient.Engine RtcClient.Lib

/-- The engines created so far and the statics they share. -/
structure Process where
  engines : List Client := []
  /-- `RtcEngine.mInstance`, as an index into `engines`. -/
  mInstance : Option Nat := none
  /-- `ClientFactory.startupClient`. -/
  startupClient : Option Ref := none
  createdClients : Nat := 0
  /-- Network clients that had `close()` called on them. -/
  closedClients : Finset Ref := ∅
  /-- `NettyProcessorManager.processorTable`: whose processor a code has. -/
  processorTable : MsgCode → Option Nat := fun _ ↦ none
  /-- Engines that have run `registerReceiver`. -/
  registrars : Finset Nat := ∅

/-- One step of the process. -/
inductive ProcessAction where
  | create (config : Option RtcEngineConfig)
  | destroy
  | act (i : Nat) (a : Action)
  deriving DecidableEq, Repr

namespace Client

/-- The action is the `registerReceiver` of a running listener. -/
def registersReceiver (c : Client) : Action → Bool
  | .initListener (.registerReceiver r) => decide (.registerReceiver r ∈ c.initListeners)
  | _ => false

/-- The action is the worker taking the destroy task. -/
def runsDestroy (c : Client) : Action → Bool
  | .work _ => decide c.DestroyNext
  | _ => false

end Client

namespace Process

/-- `ClientFactory.get` creates the client once and returns it ever after;
`ClientFactory.java:52–66`. -/
def get (s : Process) : Process × Ref :=
  match s.startupClient with
  | some r => (s, r)
  | none =>
    ({ s with startupClient := some s.createdClients, createdClients := s.createdClients + 1 },
      s.createdClients)

/-- `RtcEngine.create`; `RtcEngine.java:16–24`. -/
def create (s : Process) (config : Option RtcEngineConfig) : Process :=
  match config, s.mInstance with
  | none, _ => s
  | some _, some _ => s
  | some config, none =>
    { s.get.1 with
      engines := s.engines ++ [Client.initial config s.get.2]
      mInstance := some s.engines.length }

/-- `RtcEngine.destroy`; `RtcEngine.java:26–32`. -/
def destroy (s : Process) : Process :=
  match s.mInstance with
  | none => s
  | some i => { s with engines := s.engines.modify i Client.destroy, mInstance := none }

/-- `NettyProcessorManager.register` of one processor. -/
def register (s : Process) (i : Nat) (code : MsgCode) : Process :=
  { s with processorTable := Function.update s.processorTable code (some i) }

/-- `registerReceiver` of one engine; `RtcEngineEx.java:690–865`. -/
def registerReceiver (s : Process) (i : Nat) : Process :=
  { MsgCode.all.foldl (fun s code ↦ s.register i code) s with
    registrars := insert i s.registrars }

/-- `mStartupClient.close()` and `processorsClear()`; `RtcEngineEx.java:1324–1328,1380–1390`. -/
def closeClient (s : Process) (r : Ref) : Process :=
  { s with closedClients := insert r s.closedClients, processorTable := fun _ ↦ none }

/-- What an action of engine `i` does to the statics. -/
def shared (s : Process) (i : Nat) (c : Client) (a : Action) : Process :=
  if c.registersReceiver a then s.registerReceiver i
  else if c.runsDestroy a then
    match c.engine.mStartupClient with
    | none => s
    | some r => s.closeClient r
  else s

/-- A notification reaches engine `i` only through a processor of its own. -/
def hear (s : Process) (i : Nat) (c : Client) : Action → Client
  | .deliver n _ => { c with registered := decide (s.processorTable n.msgCode = some i) }
  | _ => c

/-- One action of engine `i`; only `RtcEngine.destroy` calls `nativeDestroy`. -/
def act (s : Process) (i : Nat) (a : Action) : Process :=
  match s.engines[i]?, a with
  | none, _ => s
  | some _, .destroy => s
  | some c, a => { s.shared i c a with engines := s.engines.set i ((s.hear i c a).step a) }

/-- One step. -/
def step (s : Process) : ProcessAction → Process
  | .create config => s.create config
  | .destroy => s.destroy
  | .act i a => s.act i a

end Process

end RtcClient.System
