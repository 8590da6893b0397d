import Endweave.Codec.Wrapper

/-!
# `Protocol`

A protocol translates packets between two versions.  Handlers and cancelled packet ids are
registered per direction; a packet without either passes through unchanged.
-/

namespace Endweave

open Wire

inductive Direction where
  | serverbound
  | clientbound
deriving Repr, DecidableEq

/-- A translation between a server version and a client version. -/
structure Protocol where
  serverProtocol : Int
  clientProtocol : Int
  name : String
  isBase : Bool
  handlers : Direction → OrderedDict Int PacketHandler
  cancelled : Direction → List Int
  /-- The hook `init`, which protocols override to set up per-connection state. -/
  init : EStateM PyException UserConnection Unit

namespace Protocol

/-- The constructor: nothing registered, the default name, an `init` that does nothing. -/
def new (serverProtocol clientProtocol : Int) (name : String) (isBase : Bool) : Protocol where
  serverProtocol := serverProtocol
  clientProtocol := clientProtocol
  name := if name = "" then s!"{serverProtocol}->{clientProtocol}" else name
  isBase := isBase
  handlers _ := []
  cancelled _ := []
  init := pure ()

/-- `register_clientbound` and `register_serverbound`. -/
def register (p : Protocol) (direction : Direction) (packetId : Int) (handler : PacketHandler) :
    Protocol :=
  { p with handlers := fun d =>
      if d = direction then (p.handlers d).insert packetId handler else p.handlers d }

def registerClientbound (p : Protocol) (packetId : Int) (handler : PacketHandler) : Protocol :=
  p.register .clientbound packetId handler

def registerServerbound (p : Protocol) (packetId : Int) (handler : PacketHandler) : Protocol :=
  p.register .serverbound packetId handler

/-- `cancel_clientbound` and `cancel_serverbound`. -/
def cancel (p : Protocol) (direction : Direction) (packetIds : List Int) : Protocol :=
  { p with cancelled := fun d =>
      if d = direction then p.cancelled d ++ packetIds else p.cancelled d }

def cancelClientbound (p : Protocol) (packetIds : List Int) : Protocol :=
  p.cancel .clientbound packetIds

def cancelServerbound (p : Protocol) (packetIds : List Int) : Protocol :=
  p.cancel .serverbound packetIds

/-- Whether this protocol needs to process a packet. -/
def hasHandlerOrCancel (p : Protocol) (direction : Direction) (packetId : Int) : Bool :=
  ((p.handlers direction).get? packetId).isSome || (p.cancelled direction).contains packetId

/-- Run the handler for a packet, if any; a cancelled id takes precedence. -/
def transform (p : Protocol) (direction : Direction) (packetId : Int) : PacketHandler :=
  if (p.cancelled direction).contains packetId then PacketWrapper.cancel
  else match (p.handlers direction).get? packetId with
    | some handler => handler
    | none => pure ()

end Protocol

end Endweave
