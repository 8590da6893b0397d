import Mathlib.Data.Finset.Sort
import Endweave.Lib.ShortestPath
import Endweave.Protocol.Basic

/-!
# `ProtocolManager`

The registry of protocols with the memo table of resolved chains.  A chain is found by a direct
lookup or else by breadth-first search from the client version to the server version.  The versions
a server supports are found by resolving a chain for every client end of a registered protocol.
-/

namespace Endweave

/-- The registered protocols and the cached chains, both keyed by (server, client). -/
structure ProtocolManager where
  protocols : OrderedDict (Int × Int) Protocol := []
  baseProtocols : List Protocol := []
  pathCache : OrderedDict (Int × Int) (Option (List Protocol)) := []

namespace ProtocolManager

/-- Register a protocol for its version pair; clears the path cache. -/
def register (m : ProtocolManager) (p : Protocol) : ProtocolManager :=
  { m with
    protocols := m.protocols.insert (p.serverProtocol, p.clientProtocol) p
    pathCache := [] }

/-- Append an always-on protocol. -/
def registerBase (m : ProtocolManager) (p : Protocol) : ProtocolManager :=
  { m with baseProtocols := m.baseProtocols ++ [p] }

/-- The direct protocol for a version pair. -/
def get (m : ProtocolManager) (server client : Int) : Option Protocol :=
  m.protocols.get? (server, client)

/-- The protocols that leave each client version, in registration order. -/
def adjacency (protocols : OrderedDict (Int × Int) Protocol) : OrderedDict Int (List Protocol) :=
  protocols.foldl (fun adj entry =>
    adj.insert entry.1.2 ((adj.get? entry.1.2).getD [] ++ [entry.2])) []

/-- Breadth-first search for a chain from client to server.  Every round takes one version off the
queue, so the number of protocols bounds the rounds. -/
def bfs (protocols : OrderedDict (Int × Int) Protocol) (server client : Int) :
    Option (List Protocol) :=
  let adj := adjacency protocols
  ShortestPath.search (fun current => (adj.get? current).getD []) Protocol.serverProtocol server
    (protocols.length + 2) [client] [(client, [])]

/-- What `get_path` computes when the cache has no answer. -/
def findPath (protocols : OrderedDict (Int × Int) Protocol) (server client : Int) :
    Option (List Protocol) :=
  match protocols.get? (server, client) with
  | some direct => some [direct]
  | none => bfs protocols server client

/-- The chain of protocols from client to server, `none` if there is none; the answer is cached. -/
def getPath (m : ProtocolManager) (server client : Int) :
    Option (List Protocol) × ProtocolManager :=
  if server = client then (some [], m)
  else match m.pathCache.get? (server, client) with
    | some cached => (cached, m)
    | none =>
      let result := findPath m.protocols server client
      (result, { m with pathCache := m.pathCache.insert (server, client) result })

/-- The loop of `get_supported_versions` over the version pairs of the registry. -/
def collectSupported (server : Int) :
    List (Int × Int) → Finset Int → ProtocolManager → Finset Int × ProtocolManager
  | [], supported, m => (supported, m)
  | pair :: pairs, supported, m =>
    let (path, m) := m.getPath server pair.2
    let supported := if path.isSome then insert pair.2 supported else supported
    collectSupported server pairs supported m

/-- All versions that can reach the server version, itself included, in ascending order. -/
def getSupportedVersions (m : ProtocolManager) (server : Int) : List Int × ProtocolManager :=
  let (supported, m) := collectSupported server m.protocols.keys {server} m
  (supported.sort, m)

end ProtocolManager

end Endweave
