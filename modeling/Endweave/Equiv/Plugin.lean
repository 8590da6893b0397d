import Endweave.Equiv.History
import Endweave.Plugin
import Endweave.Protocol.Equiv.Routes

/-!
# What the plugin does at any point of any run

`EndweavePlugin.after` is the plugin after a run of events.  The theorems say what it answers next,
in closed form: packets are translated along the route of the version that their address has
detected (`packet_after`, `translated_along_route`), logins are refused by the last declared version
(`login_after`), and a server list ping shows the newest version (`versions_after`).
-/

namespace Endweave

open Wire

/-! ### The registered protocols are detached -/

theorem registered_detached (uuid5 : String → BitVec 128) :
    ∀ p ∈ registeredProtocols uuid5, p.Detached := by
  intro p hp
  refine ⟨fun direction packetId h hget =>
    (registered_every uuid5 p hp direction packetId h hget).blind, ?_⟩
  have hinit : ∀ p ∈ registeredProtocols uuid5, p.init = pure () := by
    simp only [registeredProtocols, List.forall_mem_cons]
    exact ⟨rfl, rfl, rfl, rfl, rfl, rfl, rfl, rfl, rfl, rfl, fun _ h => absurd h List.not_mem_nil⟩
  exact hinit p hp

theorem registeredManager_detached (uuid5 : String → BitVec 128) (serverProtocol : Int) :
    DetachedRegistry serverProtocol (registeredManager uuid5 serverProtocol) :=
  detachedRegistry_start serverProtocol (registered_detached uuid5)

/-! ### Runs of the plugin -/

/-- The event that the plugin hands to the pipeline or to the connections. -/
def PluginEvent.toEvent : PluginEvent → Option Event
  | .packetReceive event => some (.receive event)
  | .packetSend event => some (.send event)
  | .playerQuit playerAddress => some (.removeByPlayer playerAddress)
  | .serverListPing _ | .playerLogin _ => none

/-- A packet in either direction. -/
def PluginEvent.packet : Direction → PacketEvent → PluginEvent
  | .serverbound => .packetReceive
  | .clientbound => .packetSend

/-- The serverbound packets received from an address since its player last quit. -/
def packetsSince (address : String) (events : List PluginEvent) : List Packet :=
  packetsFrom address (events.filterMap PluginEvent.toEvent)

/-- The version that the next packet is translated from, if one has been detected.  The packet that
declares it does not count for the clientbound packets until another one has followed. -/
def detectedIn : Direction → List Packet → Option Int
  | .serverbound, packets => firstDetected packets
  | .clientbound, packets => firstDetected packets.dropLast

namespace EndweavePlugin

/-- A run changes nothing but the manager and the connections, as the run of its packets and quits
does. -/
theorem run_eq (plugin : EndweavePlugin) (events : List PluginEvent) :
    (EventSystem.run handleEvent plugin events).1 =
      { plugin with
        proxy :=
          (EventSystem.run step plugin.proxy (events.filterMap PluginEvent.toEvent)).1 } := by
  induction events generalizing plugin with
  | nil => rfl
  | cons e events ih =>
    rw [EventSystem.run_cons, ih]
    cases e <;> rfl

section After

variable (uuid5 : String → BitVec 128) (serverProtocol : Int) (gate : GateConfig)

/-- The plugin after a run. -/
def after (events : List PluginEvent) : EndweavePlugin :=
  (EventSystem.run handleEvent (onEnable uuid5 serverProtocol gate) events).1

/-- The chain of steps for each client version. -/
abbrev registeredChain (version : Int) : Option (List Protocol) :=
  chainOf serverProtocol (registeredManager uuid5 serverProtocol) version

/-- When it is enabled, the plugin has no sessions; the search for the supported versions has only
filled the cache. -/
theorem simulates_onEnable :
    Simulates serverProtocol (registeredManager uuid5 serverProtocol)
      (onEnable uuid5 serverProtocol gate).proxy fun _ => none := by
  have hcoherent := registeredManager_coherent uuid5 serverProtocol
  obtain ⟨hcoherent', hsame⟩ := hcoherent.getSupportedVersions_snd serverProtocol
  exact simulates_start ⟨hcoherent, hcoherent', hsame.1.symm, hsame.2.symm⟩

/-- The protocols that a packet in either direction goes through, for a detected version. -/
def pipelineFor (direction : Direction) (settled : Option Int) : List Protocol :=
  match direction with
  | .serverbound => serverboundFor serverProtocol (registeredChain uuid5 serverProtocol) settled
  | .clientbound => clientboundFor serverProtocol (registeredChain uuid5 serverProtocol) settled

/-- The answer to a packet: it goes through the pipeline of the version that its address has
detected. -/
theorem packet_after (events : List PluginEvent) (direction : Direction) (event : PacketEvent) :
    (handleEvent (after uuid5 serverProtocol gate events) (.packet direction event)).2 =
      .proxy (.packet (event.deliver (translate serverProtocol direction event.packetId
        (pipelineFor uuid5 serverProtocol direction
          (detectedIn direction (packetsSince event.address events))) event.payload))) := by
  rw [after, run_eq]
  cases direction with
  | serverbound =>
    exact congrArg PluginAnswer.proxy (answer_receive (registeredManager_detached ..)
      (simulates_onEnable uuid5 serverProtocol gate) _ event)
  | clientbound =>
    exact congrArg PluginAnswer.proxy (answer_send (registeredManager_detached ..)
      (simulates_onEnable uuid5 serverProtocol gate) _ event)

/-! ### Routes -/

/-- The versions that the pipeline for a detected version translates between, in its order; the base
protocol is for client version 0.  A packet for a client of the server's own version, or of a
version that is not supported, goes through nothing at all. -/
def endsFor (direction : Direction) (settled : Option Int) : List (Int × Int) :=
  match direction, settled with
  | .serverbound, none => [(serverProtocol, 0)]
  | .serverbound, some version =>
    (serverProtocol, 0) :: if Supported serverProtocol version then route serverProtocol version
      else []
  | .clientbound, none => []
  | .clientbound, some version =>
    if version ≠ serverProtocol ∧ Supported serverProtocol version then
      (serverProtocol, 0) :: (route serverProtocol version).reverse
    else []

theorem registeredChain_ends (version : Int) :
    (registeredChain uuid5 serverProtocol version).map (List.map Protocol.ends) =
      if Supported serverProtocol version then some (route serverProtocol version) else none :=
  getPath_registered uuid5 serverProtocol serverProtocol version

theorem pipelineFor_ends (direction : Direction) (settled : Option Int) :
    (pipelineFor uuid5 serverProtocol direction settled).map Protocol.ends =
      endsFor serverProtocol direction settled := by
  cases settled with
  | none => cases direction <;> rfl
  | some version =>
    have hends := registeredChain_ends uuid5 serverProtocol version
    cases hchain : registeredChain uuid5 serverProtocol version with
    | none =>
      have hunsupported : ¬ Supported serverProtocol version := by
        intro hs
        rw [hchain, if_pos hs] at hends
        cases hends
      cases direction with
      | serverbound =>
        simp only [pipelineFor, serverboundFor, endsFor, hchain, if_neg hunsupported]
        rfl
      | clientbound =>
        simp only [pipelineFor, clientboundFor, endsFor, hchain, hunsupported, and_false, if_false]
        split_ifs <;> rfl
    | some chain =>
      have hsupported : Supported serverProtocol version := by
        by_contra hs
        rw [hchain, if_neg hs] at hends
        cases hends
      rw [hchain, if_pos hsupported] at hends
      have hchainEnds : chain.map Protocol.ends = route serverProtocol version :=
        Option.some.inj hends
      cases direction with
      | serverbound =>
        simp only [pipelineFor, serverboundFor, endsFor, hchain, if_pos hsupported, ← hchainEnds]
        rfl
      | clientbound =>
        simp only [pipelineFor, clientboundFor, endsFor, hchain, hsupported, and_true, ite_not,
          ← hchainEnds, ← List.map_reverse]
        split_ifs <;> rfl

theorem mem_getPath_registered {server client : Int} {chain : List Protocol}
    (h : ((registeredManager uuid5 serverProtocol).getPath server client).1 = some chain) :
    ∀ p ∈ chain, p ∈ registeredProtocols uuid5 := by
  have hresolves := (registeredManager_coherent uuid5 serverProtocol).getPath_resolves server client
  rw [h] at hresolves
  exact fun p hp => registered_start (hresolves.1.mem p hp)

theorem mem_registeredChain {version : Int} {chain : List Protocol}
    (h : registeredChain uuid5 serverProtocol version = some chain) :
    ∀ p ∈ chain, p ∈ registeredProtocols uuid5 :=
  mem_getPath_registered uuid5 serverProtocol h

/-- A serverbound packet goes through the base protocol and registered steps. -/
theorem pipelineFor_serverbound (settled : Option Int) :
    ∃ chain, pipelineFor uuid5 serverProtocol .serverbound settled =
      createBaseProtocol serverProtocol :: chain ∧ ∀ p ∈ chain, p ∈ registeredProtocols uuid5 := by
  cases settled with
  | none => exact ⟨[], rfl, by simp⟩
  | some version =>
    refine ⟨_, rfl, ?_⟩
    cases hchain : registeredChain uuid5 serverProtocol version with
    | none => simp
    | some chain => exact mem_registeredChain uuid5 serverProtocol hchain

theorem mem_pipelineFor {direction : Direction} {settled : Option Int} {p : Protocol}
    (hp : p ∈ pipelineFor uuid5 serverProtocol direction settled) :
    p = createBaseProtocol serverProtocol ∨ p ∈ registeredProtocols uuid5 := by
  cases direction with
  | serverbound =>
    obtain ⟨chain, heq, hchain⟩ := pipelineFor_serverbound uuid5 serverProtocol settled
    rw [heq] at hp
    exact (List.mem_cons.mp hp).imp id (hchain p)
  | clientbound =>
    cases settled with
    | none => exact absurd hp List.not_mem_nil
    | some version =>
      simp only [pipelineFor, clientboundFor] at hp
      split_ifs at hp
      · exact absurd hp List.not_mem_nil
      · cases hchain : registeredChain uuid5 serverProtocol version with
        | none =>
          rw [hchain] at hp
          exact absurd hp List.not_mem_nil
        | some chain =>
          rw [hchain] at hp
          exact (List.mem_cons.mp hp).imp id fun hp =>
            mem_registeredChain uuid5 serverProtocol hchain p (List.mem_reverse.mp hp)

/-- **Packets are translated along the route**: the answer to a packet, at any point of any run, is
what its payload becomes in the registered steps between the version that its address has detected
and the server's. -/
theorem translated_along_route (events : List PluginEvent) (direction : Direction)
    (event : PacketEvent) :
    ∃ pipeline : List Protocol,
      (∀ p ∈ pipeline, p = createBaseProtocol serverProtocol ∨ p ∈ registeredProtocols uuid5) ∧
      pipeline.map Protocol.ends = endsFor serverProtocol direction
        (detectedIn direction (packetsSince event.address events)) ∧
      (handleEvent (after uuid5 serverProtocol gate events) (.packet direction event)).2 =
        .proxy (.packet (event.deliver
          (translate serverProtocol direction event.packetId pipeline event.payload))) :=
  ⟨_, fun _ => mem_pipelineFor uuid5 serverProtocol, pipelineFor_ends ..,
    packet_after uuid5 serverProtocol gate events direction event⟩

/-- **The routes of the plugin** at any point of any run: the chain between two versions is made of
registered steps, which are those between neighbours on the way from the client's version to the
server's, and there is one exactly for the supported pairs. -/
theorem getPath_after (events : List PluginEvent) (server client : Int) :
    let path := ((after uuid5 serverProtocol gate events).proxy.manager.getPath server client).1
    path.map (List.map Protocol.ends) =
        (if Supported server client then some (route server client) else none) ∧
      ∀ chain, path = some chain → ∀ p ∈ chain, p ∈ registeredProtocols uuid5 := by
  intro path
  have hrun := (simulates_onEnable uuid5 serverProtocol gate).run
    (registeredManager_detached uuid5 serverProtocol) (events.filterMap PluginEvent.toEvent)
  have hpath : path = ((registeredManager uuid5 serverProtocol).getPath server client).1 := by
    rw [show path = ((after uuid5 serverProtocol gate events).proxy.manager.getPath
      server client).1 from rfl, after, run_eq]
    exact hrun.1.registry.getPath server client
  rw [hpath]
  exact ⟨getPath_registered uuid5 serverProtocol server client,
    fun chain => mem_getPath_registered uuid5 serverProtocol⟩

/-- **The plugin refines the table of sessions**: it answers every run of packets and removals as
the machine does that remembers two versions of each address. -/
theorem answers_as_sessions (es : List Event) :
    (EventSystem.run step (onEnable uuid5 serverProtocol gate).proxy es).2 =
      (EventSystem.run (Sessions.step serverProtocol (registeredChain uuid5 serverProtocol))
        (fun _ => none) es).2 :=
  ((simulates_onEnable uuid5 serverProtocol gate).run
    (registeredManager_detached uuid5 serverProtocol) es).2

/-! ### The login gate -/

/-- **The login gate**: a player is refused exactly when the version that its address declared last,
zero if none, is blocked. -/
theorem login_after (events : List PluginEvent) (playerAddress : String) :
    (handleEvent (after uuid5 serverProtocol gate events) (.playerLogin playerAddress)).2 =
      .login (if lastDeclared (packetsSince playerAddress events) ∈
          gate.blockedProtocols.getD [] then some (chooseMessage gate.blockMessage) else none) := by
  have hversion := clientProtocol_after (registeredManager_detached uuid5 serverProtocol)
    (simulates_onEnable uuid5 serverProtocol gate) playerAddress
    (events.filterMap PluginEvent.toEvent)
  rw [after, run_eq]
  dsimp only [handleEvent, onPlayerLogin]
  rw [hversion]
  show PluginAnswer.login (if gate.blockedProtocols.getD [] = [] then none else _) = _
  by_cases hblocked : gate.blockedProtocols.getD [] = []
  · rw [if_pos hblocked, if_neg (by rw [hblocked]; exact List.not_mem_nil)]
  · rw [if_neg hblocked]
    rfl

/-! ### Versions -/

theorem supportedVersions_onEnable :
    (onEnable uuid5 serverProtocol gate).supportedVersions = supportedBy serverProtocol :=
  getSupportedVersions_registered uuid5 serverProtocol

/-- The newest version that a server of a known version supports is the newest of all. -/
theorem advertisedProtocol_onEnable :
    (onEnable uuid5 serverProtocol gate).advertisedProtocol =
      if serverProtocol ∈ knownVersions then 1001 else serverProtocol := by
  have hsupported := supportedVersions_onEnable uuid5 serverProtocol gate
  show (onEnable uuid5 serverProtocol gate).supportedVersions.max?.getD serverProtocol = _
  rw [hsupported]
  split_ifs with h
  · have hknown : ∀ server ∈ knownVersions, (supportedBy server).max? = some 1001 := by decide
    rw [hknown serverProtocol h]
    rfl
  · rw [supportedBy, if_neg h]
    rfl

theorem getVersion_eq_none {version : Int} (h : version ∉ knownVersions) :
    VERSIONS.get? version = none := by
  cases hget : VERSIONS.get? version with
  | none => rfl
  | some v =>
    have hkey : version ∈ VERSIONS.map Prod.fst :=
      List.mem_map.mpr ⟨_, OrderedDict.mem_of_get? hget, rfl⟩
    exact absurd hkey h

/-- **Supported and advertised versions**, at any point of a run: a server of a known version
supports the newer versions, and the older ones up to v944; it warns of none and shows the newest
version in the server list.  A server of another version supports and shows its own. -/
theorem versions_after (events : List PluginEvent) (shown : String) :
    let plugin := after uuid5 serverProtocol gate events
    plugin.supportedVersions = supportedBy serverProtocol ∧
      (handleEvent plugin (.serverListPing shown)).2 =
        .version (if serverProtocol ∈ knownVersions then "1.26.30" else shown) ∧
      plugin.unnamedVersions =
        if serverProtocol ∈ knownVersions then [] else [serverProtocol] := by
  intro plugin
  have hsupported : plugin.supportedVersions = supportedBy serverProtocol := by
    rw [show plugin = after uuid5 serverProtocol gate events from rfl, after, run_eq]
    exact supportedVersions_onEnable uuid5 serverProtocol gate
  have hadvertised : plugin.advertisedProtocol =
      if serverProtocol ∈ knownVersions then 1001 else serverProtocol := by
    rw [show plugin = after uuid5 serverProtocol gate events from rfl, after, run_eq]
    exact advertisedProtocol_onEnable uuid5 serverProtocol gate
  refine ⟨hsupported, ?_, ?_⟩
  · dsimp only [handleEvent, onServerListPing]
    rw [hadvertised]
    split_ifs with h
    · rfl
    · rw [getVersion_eq_none h]
  · rw [unnamedVersions, hsupported, supportedBy]
    split_ifs with h
    · refine List.filter_eq_nil_iff.mpr fun version hversion => ?_
      have hnamed : ∀ v ∈ knownVersions, (VERSIONS.get? v).isSome := by decide
      rw [hnamed version (List.mem_filter.mp hversion).1]
      simp
    · rw [List.filter_cons, getVersion_eq_none h]
      rfl

end After

end EndweavePlugin

end Endweave
