import Endweave.Pipeline
import Endweave.Protocol.Registry
import Endweave.Protocol.Versions

/-!
# `EndweavePlugin`

What the plugin sets up when it is enabled and what it does for each event of the server: packets,
server list pings, logins and quits.  The log, the debug handler, the metrics and the update check
are left out: nothing here depends on them.
-/

namespace Endweave

/-- The section `[gate]` of the configuration, as far as it is given. -/
structure GateConfig where
  blockedProtocols : Option (List Int) := none
  blockMessage : Option String := none

/-- `_DEFAULT_BLOCK_MESSAGE`. -/
def defaultBlockMessage : String := "This client version is not supported on this server yet."

structure EndweavePlugin where
  /-- The manager and the connections, which the pipeline works on. -/
  proxy : ProxyState
  supportedVersions : List Int
  advertisedProtocol : Int
  blockedProtocols : List Int
  blockMessage : String

namespace EndweavePlugin

/-- `str(message or default)`: an empty message counts as none. -/
def chooseMessage (message : Option String) : String :=
  match message with
  | some text => if text = "" then defaultBlockMessage else text
  | none => defaultBlockMessage

/-- `on_enable`: register the protocols, find out what they support, read the gate. -/
def onEnable (uuid5 : String → BitVec 128) (serverProtocol : Int) (gate : GateConfig) :
    EndweavePlugin :=
  let proxy := start [createBaseProtocol serverProtocol] serverProtocol (registeredProtocols uuid5)
  let (supportedVersions, manager) := proxy.manager.getSupportedVersions serverProtocol
  { proxy := { proxy with manager }
    supportedVersions
    advertisedProtocol := supportedVersions.max?.getD serverProtocol
    blockedProtocols := gate.blockedProtocols.getD []
    blockMessage := chooseMessage gate.blockMessage }

/-- The supported versions that `on_enable` warns of: they are not in `VERSIONS`. -/
def unnamedVersions (plugin : EndweavePlugin) : List Int :=
  plugin.supportedVersions.filter fun protocol => !(VERSIONS.get? protocol).isSome

/-- `on_server_list_ping`: the version that the server list shows, unless the advertised one has no
name. -/
def onServerListPing (plugin : EndweavePlugin) (minecraftVersionNetwork : String) : String :=
  match VERSIONS.get? plugin.advertisedProtocol with
  | some ver => ver.minecraftVersion
  | none => minecraftVersionNetwork

/-- `on_player_login`: the kick message, if the client's version is gated. -/
def onPlayerLogin (plugin : EndweavePlugin) (playerAddress : String) : Option String :=
  if plugin.blockedProtocols = [] then none
  else
    let protocol := ((plugin.proxy.connections.get playerAddress).map fun c =>
      c.clientProtocol).getD 0
    if protocol ∈ plugin.blockedProtocols then some plugin.blockMessage else none

end EndweavePlugin

/-! ### Events -/

/-- What the server calls the plugin for. -/
inductive PluginEvent where
  | packetReceive (event : PacketEvent)
  | packetSend (event : PacketEvent)
  | serverListPing (minecraftVersionNetwork : String)
  | playerLogin (playerAddress : String)
  | playerQuit (playerAddress : String)

inductive PluginAnswer where
  | proxy (answer : Answer)
  | version (minecraftVersionNetwork : String)
  | login (kickMessage : Option String)
deriving Repr, DecidableEq

namespace EndweavePlugin

/-- Hand an event to the pipeline. -/
def forward (plugin : EndweavePlugin) (e : Event) : EndweavePlugin × PluginAnswer :=
  let (proxy, answer) := step plugin.proxy e
  ({ plugin with proxy }, .proxy answer)

def handleEvent (plugin : EndweavePlugin) : PluginEvent → EndweavePlugin × PluginAnswer
  | .packetReceive event => plugin.forward (.receive event)
  | .packetSend event => plugin.forward (.send event)
  | .serverListPing version => (plugin, .version (plugin.onServerListPing version))
  | .playerLogin playerAddress => (plugin, .login (plugin.onPlayerLogin playerAddress))
  | .playerQuit playerAddress => plugin.forward (.removeByPlayer playerAddress)

end EndweavePlugin

end Endweave
