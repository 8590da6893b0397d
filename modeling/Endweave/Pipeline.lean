import Endweave.Protocol.Base
import Endweave.Protocol.Manager

/-!
# `ProtocolPipeline` and `ConnectionManager`

The state of the plugin is the registry and the table of connections.  An event is a packet in one
of the two directions or the removal of a connection; `step` handles one event and answers with what
became of the packet.  Logging, crash dumps and the debug handler are left out: they change neither
the packets nor the connections.
-/

namespace Endweave

open Wire

/-! ### Connections -/

/-- A connection with the pipelines resolved for it. -/
structure TrackedConnection extends UserConnection where
  warnedNoChain : Bool := false
  protocolPipeline : Option (List Protocol) := none
  clientboundPipeline : Option (List Protocol) := none

/-- The connections, keyed by network address. -/
structure ConnectionManager where
  serverProtocol : Int := 0
  connections : OrderedDict String TrackedConnection := []

namespace ConnectionManager

def get (cm : ConnectionManager) (address : String) : Option TrackedConnection :=
  cm.connections.get? address

/-- Store the connection of an address. -/
def put (cm : ConnectionManager) (address : String) (c : TrackedConnection) : ConnectionManager :=
  { cm with connections := cm.connections.insert address c }

/-- The connection of an address, created on first use. -/
def getOrCreate (cm : ConnectionManager) (address : String) :
    TrackedConnection × ConnectionManager :=
  match cm.get address with
  | some c => (c, cm)
  | none =>
    let c : TrackedConnection := { address, serverProtocol := cm.serverProtocol }
    (c, cm.put address c)

/-- Forget the connection of an address.  The storage of the connection is cleared with it; nothing
else refers to it. -/
def removeByAddress (cm : ConnectionManager) (address : String) : ConnectionManager :=
  { cm with connections := cm.connections.erase address }

/-- Forget the connection of a player, given by the player's address. -/
def removeByPlayer (cm : ConnectionManager) (playerAddress : String) : ConnectionManager :=
  { cm with connections := cm.connections.erase playerAddress }

end ConnectionManager

/-! ### The pipeline of a connection -/

/-- Build the protocol pipeline of a connection, or return the cached one. -/
def getPipeline (m : ProtocolManager) (connection : TrackedConnection) :
    Except PyException (List Protocol) × TrackedConnection × ProtocolManager :=
  match connection.protocolPipeline with
  | some pipeline => (.ok pipeline, connection, m)
  | none =>
    let base := m.baseProtocols
    if connection.clientProtocol = 0 then
      -- not yet detected: base only, nothing cached
      (.ok base, connection, m)
    else if !connection.needsTranslation then
      (.ok base, { connection with protocolPipeline := some base }, m)
    else
      let (path, m) := m.getPath connection.serverProtocol connection.clientProtocol
      match path with
      | none =>
        (.ok base, { connection with warnedNoChain := true, protocolPipeline := some base }, m)
      | some chain =>
        match each Protocol.init chain connection.toUserConnection with
        | .error e user => (.error e, { connection with toUserConnection := user }, m)
        | .ok _ user =>
          (.ok (base ++ chain),
            { connection with
              toUserConnection := user
              protocolPipeline := some (base ++ chain)
              clientboundPipeline := some (base ++ chain.reverse) }, m)

/-! ### Dispatch -/

/-- A packet event of the server. -/
structure PacketEvent where
  address : String
  packetId : Int
  payload : List UInt8
  cancelled : Bool := false
deriving Repr, DecidableEq

def PacketEvent.cancel (event : PacketEvent) : PacketEvent := { event with cancelled := true }

/-- The loop of `on_packet_receive` and `on_packet_send` over the protocols of the pipeline.  The
payload is handed on from protocol to protocol; the event gets it at the end. -/
def dispatch (direction : Direction) (event : PacketEvent) :
    List Protocol → List UInt8 → UserConnection → PacketEvent × UserConnection
  | [], payload, user => ({ event with payload }, user)
  | protocol :: pipeline, payload, user =>
    if !protocol.hasHandlerOrCancel direction event.packetId then
      dispatch direction event pipeline payload user
    else
      match protocol.transform direction event.packetId (PacketWrapper.ofPayload payload user) with
      | .error _ wrapper => (event.cancel, wrapper.user)
      | .ok _ wrapper =>
        if wrapper.cancelled then (event.cancel, wrapper.user)
        else dispatch direction event pipeline wrapper.toBytes wrapper.user

/-- The registry and the connections. -/
structure ProxyState where
  manager : ProtocolManager
  connections : ConnectionManager

/-- Handle a serverbound packet.  An exception of `init` leaves the event alone. -/
def onPacketReceive (s : ProxyState) (event : PacketEvent) :
    Except PyException PacketEvent × ProxyState :=
  let (connection, connections) := s.connections.getOrCreate event.address
  match getPipeline s.manager connection with
  | (.error e, connection, manager) =>
    (.error e, { manager, connections := connections.put event.address connection })
  | (.ok pipeline, connection, manager) =>
    let (event', user) :=
      dispatch .serverbound event pipeline event.payload connection.toUserConnection
    (.ok event', {
      manager
      connections := connections.put event.address { connection with toUserConnection := user } })

/-- Handle a clientbound packet. -/
def onPacketSend (s : ProxyState) (event : PacketEvent) : PacketEvent × ProxyState :=
  match s.connections.get event.address with
  | none => (event, s)
  | some connection =>
    if connection.protocolPipeline.isNone then (event, s)  -- pre-handshake: no pipeline yet
    else
      let (event', user) := dispatch .clientbound event (connection.clientboundPipeline.getD [])
        event.payload connection.toUserConnection
      (event', { s with
        connections := s.connections.put event.address
          { connection with toUserConnection := user } })

/-! ### The system -/

/-- What the server calls the plugin for. -/
inductive Event where
  | receive (event : PacketEvent)
  | send (event : PacketEvent)
  | removeByAddress (address : String)
  | removeByPlayer (playerAddress : String)

/-- What became of an event. -/
inductive Answer where
  | packet (event : PacketEvent)
  | raised (e : PyException)
  | removed
deriving Repr, DecidableEq

/-- Handle one event. -/
def step (s : ProxyState) : Event → ProxyState × Answer
  | .receive event =>
    match onPacketReceive s event with
    | (.ok event', s') => (s', .packet event')
    | (.error e, s') => (s', .raised e)
  | .send event => ((onPacketSend s event).2, .packet (onPacketSend s event).1)
  | .removeByAddress address =>
    ({ s with connections := s.connections.removeByAddress address }, .removed)
  | .removeByPlayer playerAddress =>
    ({ s with connections := s.connections.removeByPlayer playerAddress }, .removed)

/-- The plugin once its protocols are registered: a base protocol and no connection. -/
def start (base : List Protocol) (serverProtocol : Int) (protocols : List Protocol) :
    ProxyState where
  manager := protocols.foldl ProtocolManager.register (base.foldl ProtocolManager.registerBase {})
  connections := { serverProtocol }

end Endweave
