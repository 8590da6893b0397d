import Endweave.Equiv.Pipeline

/-!
# The clientbound pipeline

The serverbound and the clientbound pipeline of a connection are resolved once, by one function, and
kept.  `clientboundPipeline_of_meets` says that the second is the mirror image of the first in every
run in which no pipeline is resolved without a version chain; `clientboundPipeline_not_mirrored` is
a run in which one is.
-/

namespace Endweave

open Wire

/-! ### The two directions -/

/-- The clientbound pipeline is the base followed by the reversed chain of the serverbound one. -/
def Mirrored (base : List Protocol) (c : TrackedConnection) : Prop :=
  ∀ pipeline, c.protocolPipeline = some pipeline →
    ∃ chain, pipeline = base ++ chain ∧ c.clientboundPipeline = some (base ++ chain.reverse)

/-- A receive that resolves a pipeline finds a chain: the versions differ and a path exists. -/
def FindsChain (s : ProxyState) : Event → Prop
  | .receive event => ∀ c, s.connections.get event.address = some c → c.protocolPipeline = none →
      c.clientProtocol ≠ 0 → c.clientProtocol ≠ c.serverProtocol ∧
        (s.manager.getPath c.serverProtocol c.clientProtocol).1 ≠ none
  | _ => True

theorem Mirrored.of_none {base : List Protocol} {c : TrackedConnection}
    (h : c.protocolPipeline = none) : Mirrored base c := by
  intro pipeline hp
  rw [h] at hp
  exact absurd hp (by simp)

/-- Resolving a pipeline keeps the two directions in step when it finds a chain. -/
theorem Mirrored.getPipeline {m : ProtocolManager} {c : TrackedConnection}
    (h : Mirrored m.baseProtocols c)
    (hchain : c.protocolPipeline = none → c.clientProtocol ≠ 0 →
      c.clientProtocol ≠ c.serverProtocol ∧
        (m.getPath c.serverProtocol c.clientProtocol).1 ≠ none) :
    Mirrored m.baseProtocols (getPipeline m c).2.1 := by
  generalize hr : Endweave.getPipeline m c = r
  have hres := getPipeline_resolution m c
  rw [hr] at hres
  cases hres with
  | cached => exact h
  | undetected => exact h
  -- the two returns that set `protocol_pipeline` alone
  | sameVersion hn hv hs => exact absurd hs (hchain hn hv).1
  | noChain hn hv hs hp => exact absurd hp (hchain hn hv).2
  | initFailed hn => exact Mirrored.of_none hn
  | @resolved chain user hn hv hs hp hi =>
    intro pipeline hpl
    exact ⟨chain, (Option.some.inj hpl).symm, rfl⟩

/-- Handling a packet changes the pipelines of a connection only by resolving them. -/
theorem receiveOn_pipelines (m : ProtocolManager) (c : TrackedConnection) (event : PacketEvent) :
    (receiveOn m c event).2.1.protocolPipeline = (getPipeline m c).2.1.protocolPipeline ∧
      (receiveOn m c event).2.1.clientboundPipeline =
        (getPipeline m c).2.1.clientboundPipeline := by
  unfold receiveOn
  rcases getPipeline m c with ⟨e | pipeline, c', m'⟩ <;> exact ⟨rfl, rfl⟩

theorem sendOn_pipelines (c : TrackedConnection) (event : PacketEvent) :
    (sendOn c event).2.protocolPipeline = c.protocolPipeline ∧
      (sendOn c event).2.clientboundPipeline = c.clientboundPipeline := by
  unfold sendOn
  split_ifs <;> exact ⟨rfl, rfl⟩

theorem Mirrored.congr {base : List Protocol} {c c' : TrackedConnection} (h : Mirrored base c)
    (hp : c'.protocolPipeline = c.protocolPipeline)
    (hc : c'.clientboundPipeline = c.clientboundPipeline) : Mirrored base c' := by
  intro pipeline hpl
  rw [hp] at hpl
  rw [hc]
  exact h pipeline hpl

/-- One step keeps the two directions in step. -/
theorem mirrored_step {s : ProxyState} {e : Event}
    (h : AllConnections (Mirrored s.manager.baseProtocols) s) (hc : FindsChain s e) :
    AllConnections (Mirrored s.manager.baseProtocols) (step s e).1 := by
  refine allConnections_step h e ?_ ?_
  · rintro event rfl
    obtain ⟨hp, hcl⟩ := receiveOn_pipelines s.manager
      (s.connections.getOrCreate event.address).1 event
    refine Mirrored.congr (Mirrored.getPipeline ?_ ?_) hp hcl
    · rw [ConnectionManager.getOrCreate_fst]
      cases hget : s.connections.get event.address with
      | none => exact Mirrored.of_none rfl
      | some c => exact h _ c hget
    · rw [ConnectionManager.getOrCreate_fst]
      cases hget : s.connections.get event.address with
      | none => exact fun _ hv => absurd rfl hv
      | some c => exact hc c hget
  · rintro event c rfl hget
    obtain ⟨hp, hcl⟩ := sendOn_pipelines c event
    exact (h _ c hget).congr hp hcl

theorem start_manager (base : List Protocol) (serverProtocol : Int) (protocols : List Protocol) :
    (start base serverProtocol protocols).manager =
      protocols.foldl ProtocolManager.register { baseProtocols := base } := by
  rw [start, ProtocolManager.foldl_registerBase, List.nil_append]

theorem start_baseProtocols (base : List Protocol) (serverProtocol : Int)
    (protocols : List Protocol) :
    (start base serverProtocol protocols).manager.baseProtocols = base := by
  rw [start_manager]
  suffices h : ∀ m : ProtocolManager,
      (protocols.foldl ProtocolManager.register m).baseProtocols = m.baseProtocols from h _
  induction protocols with
  | nil => exact fun m => rfl
  | cons p protocols ih => exact fun m => ih (m.register p)

/-- **The two directions use the same protocols**: in every run in which each receive that resolves
a pipeline finds a version chain, every resolved connection has the clientbound pipeline that
mirrors its serverbound one. -/
theorem clientboundPipeline_of_meets (base : List Protocol) (serverProtocol : Int)
    (protocols : List Protocol) (es : List Event)
    (h : EventSystem.Meets step FindsChain (start base serverProtocol protocols) es) :
    AllConnections (Mirrored base)
      (EventSystem.run step (start base serverProtocol protocols) es).1 := by
  have hinv := EventSystem.invariant_of_meets step (P := FindsChain)
    (I := fun s => s.manager.baseProtocols = base ∧ AllConnections (Mirrored base) s) ?_ ?_ h
  · exact hinv.2
  · rintro s e ⟨rfl, hs⟩ hc
    exact ⟨(step_protocols s e).2, mirrored_step hs hc⟩
  · exact ⟨start_baseProtocols .., fun a c hc => absurd hc (by simp [start, ConnectionManager.get])⟩

/-- RequestNetworkSettings with the bytes of a version, from the client at `a`. -/
def settingsFrom (version : List UInt8) : Event :=
  .receive { address := "a", packetId := PacketId.requestNetworkSettings, payload := version }

/-- A client of version 944 on a server of version 924 that has the chain. -/
theorem clientboundPipeline_of_meets_upgrade :
    AllConnections (Mirrored [createBaseProtocol 924])
      (EventSystem.run step (start [createBaseProtocol 924] 924 [Protocol.new 924 944 "" false])
        [settingsFrom [0, 0, 3, 176], settingsFrom [0, 0, 3, 176]]).1 := by
  refine clientboundPipeline_of_meets _ _ _ _ ⟨?_, ?_, trivial⟩
  · intro c hc
    exact absurd hc (by simp [start, ConnectionManager.get])
  · intro c hc _ _
    have hc' : some { address := "a", clientProtocol := 944, serverProtocol := 924 } = some c := hc
    obtain rfl := Option.some.inj hc'
    exact ⟨by decide, fun hp => by cases hp⟩

/-- **A same-version connection has no clientbound pipeline**: a client of the server's own version
resolves to the base protocols, and its clientbound pipeline is never set. -/
theorem clientboundPipeline_not_mirrored :
    ¬ AllConnections (Mirrored [createBaseProtocol 924])
      (EventSystem.run step (start [createBaseProtocol 924] 924 [])
        [settingsFrom [0, 0, 3, 156], settingsFrom [0, 0, 3, 156]]).1 := by
  intro h
  obtain ⟨chain, _, hc⟩ := h "a" _ rfl _ rfl
  cases hc

end Endweave
