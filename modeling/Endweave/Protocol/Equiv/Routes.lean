import Endweave.Equiv.Freshness
import Endweave.Protocol.Equiv.SupportedVersions
import Endweave.Protocol.Registry
import Endweave.Protocol.Versions

/-!
# The routes between versions

The registered steps lead from each known version to the next one, and back as far as v944.
`getPath_registered` says what that makes of `get_path`: a client is translated through every
version between its own and the server's, in order, each once, or not at all.
-/

namespace Endweave

/-! ### Neighbouring versions -/

/-- The numbers of the known versions, in order. -/
def knownVersions : List Int := protocolVersions.map ProtocolVersion.protocol

/-- Each known version with the next one. -/
def neighbours : List (Int × Int) := knownVersions.zip knownVersions.tail

/-- The last version that a client can be behind of. -/
def lastDowngraded : Int := 944

/-- A server translates for its own version and, if it is a known one, for every newer version; and
for every older version unless it is itself newer than the last one that is downgraded. -/
def Supported (server client : Int) : Prop :=
  server = client ∨
    server ∈ knownVersions ∧ client ∈ knownVersions ∧ (server ≤ client ∨ server ≤ lastDowngraded)

instance (server client : Int) : Decidable (Supported server client) :=
  inferInstanceAs (Decidable (_ ∨ _))

/-- The (server, client) pairs of the steps between two versions, from the client's end: all pairs
of neighbours between them. -/
def route (server client : Int) : List (Int × Int) :=
  if server ≤ client then (neighbours.filter fun e => server ≤ e.1 ∧ e.2 ≤ client).reverse
  else (neighbours.filter fun e => client ≤ e.1 ∧ e.2 ≤ server).map Prod.swap

/-- The versions a protocol translates between. -/
def Protocol.ends (p : Protocol) : Int × Int := (p.serverProtocol, p.clientProtocol)

theorem route_self (version : Int) : route version version = [] := by
  rw [route, if_pos le_rfl, List.reverse_eq_nil_iff, List.filter_eq_nil_iff]
  intro e he hbetween
  have hlt : ∀ e ∈ neighbours, e.1 < e.2 := by decide
  have := hlt e he
  simp only [decide_eq_true_eq] at hbetween
  omega

theorem mem_route_known {server client : Int} {ends : Int × Int} (h : ends ∈ route server client) :
    ends.1 ∈ knownVersions ∧ ends.2 ∈ knownVersions := by
  have hneighbours : ∀ e ∈ neighbours, e.1 ∈ knownVersions ∧ e.2 ∈ knownVersions := by decide
  unfold route at h
  split_ifs at h
  · exact hneighbours _ (List.mem_filter.mp (List.mem_reverse.mp h)).1
  · obtain ⟨e, he, rfl⟩ := List.mem_map.mp h
    exact (hneighbours e (List.mem_filter.mp he).1).symm

/-! ### The registry -/

section Registered

variable (uuid5 : String → BitVec 128)

/-- The manager of the plugin, with an empty cache. -/
def registeredManager (serverProtocol : Int) : ProtocolManager :=
  (start [createBaseProtocol serverProtocol] serverProtocol (registeredProtocols uuid5)).manager

theorem registeredManager_coherent (serverProtocol : Int) :
    (registeredManager uuid5 serverProtocol).Coherent := coherent_start ..

/-- The steps are between known versions. -/
theorem ends_known {p : Protocol} (hp : p ∈ registeredProtocols uuid5) :
    p.serverProtocol ∈ knownVersions ∧ p.clientProtocol ∈ knownVersions := by
  have hends : p.ends ∈ (registeredProtocols uuid5).map Protocol.ends := List.mem_map_of_mem hp
  have hall : ∀ e ∈ (registeredProtocols uuid5).map Protocol.ends,
      e.1 ∈ knownVersions ∧ e.2 ∈ knownVersions := by
    show ∀ e ∈ [((859 : Int), (860 : Int)), (860, 859), (860, 898), (898, 860), (898, 924),
      (924, 898), (924, 944), (944, 924), (944, 975), (975, 1001)], _
    decide
  exact hall _ hends

/-- A chain between different versions is a chain between known ones. -/
theorem chain_known {serverProtocol server client : Int} (hne : server ≠ client)
    {chain : List Protocol}
    (h : (registeredManager uuid5 serverProtocol).IsChain server client chain) :
    server ∈ knownVersions ∧ client ∈ knownVersions := by
  cases chain with
  | nil => exact absurd (Eq.symm h) hne
  | cons p chain =>
    obtain ⟨hp, hclient, hrest⟩ := h
    obtain ⟨hp₁, hp₂⟩ := ends_known uuid5 (registered_start hp)
    refine ⟨hrest.mem_of_closed (C := (· ∈ knownVersions)) ?_ hp₁, hclient ▸ hp₂⟩
    exact fun q hq _ => (ends_known uuid5 (registered_start hq)).1

theorem registeredManager_protocols (serverProtocol : Int) :
    (registeredManager uuid5 serverProtocol).protocols =
      (registeredProtocols uuid5).map fun p => (p.ends, p) := rfl

/-- The search between known versions, one pair at a time. -/
theorem findPath_known {serverProtocol server client : Int} (hne : server ≠ client)
    (hs : server ∈ knownVersions) (hc : client ∈ knownVersions) :
    (ProtocolManager.findPath (registeredManager uuid5 serverProtocol).protocols server client).map
        (List.map Protocol.ends) =
      if Supported server client then some (route server client) else none := by
  rw [registeredManager_protocols]
  simp only [knownVersions, protocolVersions, List.map_cons, List.map_nil, List.mem_cons,
    List.not_mem_nil, or_false] at hs hc
  rcases hs with rfl | rfl | rfl | rfl | rfl | rfl | rfl <;>
  rcases hc with rfl | rfl | rfl | rfl | rfl | rfl | rfl <;>
  first | rfl | exact absurd rfl hne

/-- **The routes of the plugin**: the chain between two versions is made of the steps between
neighbours on the way from the client's version to the server's, and there is one exactly for the
supported versions. -/
theorem getPath_registered (serverProtocol server client : Int) :
    ((registeredManager uuid5 serverProtocol).getPath server client).1.map
        (List.map Protocol.ends) =
      if Supported server client then some (route server client) else none := by
  have hcoherent := registeredManager_coherent uuid5 serverProtocol
  rw [hcoherent.getPath_fst]
  by_cases hne : server = client
  · subst hne
    rw [if_pos rfl, if_pos (show Supported server server from Or.inl rfl), route_self]
    rfl
  · rw [if_neg hne]
    by_cases hknown : server ∈ knownVersions ∧ client ∈ knownVersions
    · exact findPath_known uuid5 hne hknown.1 hknown.2
    · have hunsupported : ¬ Supported server client := by
        rintro (rfl | ⟨hs, hc, _⟩)
        · exact hne rfl
        · exact hknown ⟨hs, hc⟩
      rw [if_neg hunsupported]
      have hresolves := hcoherent.findPath_resolves hne
      cases hpath : ProtocolManager.findPath (registeredManager uuid5 serverProtocol).protocols
          server client with
      | none => rfl
      | some chain =>
        rw [hpath] at hresolves
        exact absurd (chain_known uuid5 hne hresolves.1) hknown

/-! ### The supported versions -/

theorem isChain_registered_iff (serverProtocol server client : Int) :
    (∃ chain, (registeredManager uuid5 serverProtocol).IsChain server client chain) ↔
      Supported server client := by
  have hcoherent := registeredManager_coherent uuid5 serverProtocol
  rw [← hcoherent.getPath_isSome_iff, ← Option.isSome_map (f := List.map Protocol.ends),
    getPath_registered]
  split_ifs with h <;> simp [h]

/-- The versions that a server supports, in order. -/
def supportedBy (server : Int) : List Int :=
  if server ∈ knownVersions then
    knownVersions.filter fun client => server ≤ client ∨ server ≤ lastDowngraded
  else [server]

theorem mem_supportedBy {server client : Int} :
    client ∈ supportedBy server ↔ Supported server client := by
  unfold supportedBy Supported
  split_ifs with h
  · rw [List.mem_filter, decide_eq_true_iff]
    constructor
    · exact fun hc => Or.inr ⟨h, hc⟩
    · rintro (rfl | ⟨_, hc⟩)
      · exact ⟨h, Or.inl le_rfl⟩
      · exact hc
  · rw [List.mem_singleton]
    exact ⟨fun hc => Or.inl hc.symm, fun hc => (hc.resolve_right fun hk => h hk.1).symm⟩

theorem pairwise_supportedBy (server : Int) : (supportedBy server).Pairwise (· < ·) := by
  unfold supportedBy
  split_ifs
  · refine List.Pairwise.filter _ ?_
    decide
  · exact List.pairwise_singleton ..

/-- **The supported versions of the plugin.** -/
theorem getSupportedVersions_registered (server : Int) :
    ((registeredManager uuid5 server).getSupportedVersions server).1 = supportedBy server := by
  have hcoherent := registeredManager_coherent uuid5 server
  refine (ProtocolManager.getSupportedVersions_sorted _ _).eq_of_mem_iff
    (pairwise_supportedBy server) fun client => ?_
  rw [hcoherent.mem_getSupportedVersions, mem_supportedBy, isChain_registered_iff]
  exact ⟨fun h => h.elim (fun h => Or.inl h.symm) id, Or.inr⟩

end Registered

end Endweave
