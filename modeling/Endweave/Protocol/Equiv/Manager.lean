import Endweave.Lib.EventSystem
import Endweave.Protocol.Manager

/-!
# Correctness of chain resolution

`getPath_correct`: after any interleaving of `register` and `get_path` calls, `get_path` returns a
shortest chain of registered protocols from the client version to the server version, or `none`
when there is no chain.  The registry is the graph whose edges are the registered protocols; the
search itself is `ShortestPath.search`.

`Coherent` is the invariant of the registry: every protocol is stored under its own version pair,
and the path cache memoizes `findPath`.
-/

namespace Endweave

namespace ProtocolManager

/-! ### The registry as a graph -/

/-- `p` is the protocol currently registered for its version pair. -/
def Registered (m : ProtocolManager) (p : Protocol) : Prop :=
  m.get p.serverProtocol p.clientProtocol = some p

/-- `chain` leads from the client version to the server version through registered protocols, each
of which takes over at the version where the one before it ends. -/
def IsChain (m : ProtocolManager) (server client : Int) (chain : List Protocol) : Prop :=
  ShortestPath.Walk {p | m.Registered p} Protocol.clientProtocol Protocol.serverProtocol client
    chain server

theorem foldl_registerBase (m : ProtocolManager) (base : List Protocol) :
    base.foldl registerBase m = { m with baseProtocols := m.baseProtocols ++ base } := by
  induction base generalizing m with
  | nil => simp
  | cons p base ih => simp [ih, registerBase]

/-- The versions a chain goes through. -/
def versions (client : Int) (chain : List Protocol) : List Int :=
  ShortestPath.vertices Protocol.serverProtocol client chain

/-- The registry invariant. -/
structure Coherent (m : ProtocolManager) : Prop where
  keyed : ∀ e ∈ m.protocols, e.1 = (e.2.serverProtocol, e.2.clientProtocol)
  nodup : (OrderedDict.keys m.protocols).Nodup
  memo : m.pathCache.Memoizes fun key => findPath m.protocols key.1 key.2

theorem coherent_empty (base : List Protocol) : Coherent { baseProtocols := base } where
  keyed _ he := absurd he List.not_mem_nil
  nodup := List.nodup_nil
  memo := OrderedDict.Memoizes.nil _

theorem Coherent.register {m : ProtocolManager} (h : m.Coherent) (p : Protocol) :
    (m.register p).Coherent where
  keyed e he := by
    rcases OrderedDict.mem_insert he with rfl | he
    · rfl
    · exact h.keyed e he
  nodup := OrderedDict.nodup_keys_insert h.nodup _ _
  memo := OrderedDict.Memoizes.nil _

/-- What `get_path` returns does not depend on the cache. -/
theorem Coherent.getPath_fst {m : ProtocolManager} (h : m.Coherent) (server client : Int) :
    (m.getPath server client).1 =
      if server = client then some [] else findPath m.protocols server client := by
  unfold getPath
  by_cases hv : server = client
  · rw [if_pos hv, if_pos hv]
  · rw [if_neg hv, if_neg hv]
    cases hc : m.pathCache.get? (server, client) with
    | none => rfl
    | some cached => exact h.memo _ _ hc

/-- `get_path` leaves the registry alone. -/
theorem getPath_snd_protocols (m : ProtocolManager) (server client : Int) :
    (m.getPath server client).2.protocols = m.protocols ∧
      (m.getPath server client).2.baseProtocols = m.baseProtocols := by
  unfold getPath
  split_ifs
  · exact ⟨rfl, rfl⟩
  · cases m.pathCache.get? (server, client) <;> exact ⟨rfl, rfl⟩

theorem Coherent.getPath_snd {m : ProtocolManager} (h : m.Coherent) (server client : Int) :
    (m.getPath server client).2.Coherent := by
  unfold getPath
  split_ifs
  · exact h
  · cases m.pathCache.get? (server, client) with
    | some cached => exact h
    | none =>
      -- what is stored is what `findPath` computes from the protocols of now
      exact ⟨h.keyed, h.nodup, h.memo.insert (server, client)⟩

/-! ### The adjacency lists -/

/-- A protocol is listed under a client version when it is registered for it. -/
theorem mem_adjacency {protocols : OrderedDict (Int × Int) Protocol} {v : Int} {p : Protocol} :
    p ∈ ((adjacency protocols).get? v).getD [] ↔ ∃ e ∈ protocols, e.1.2 = v ∧ e.2 = p := by
  suffices h : ∀ adj : OrderedDict Int (List Protocol),
      p ∈ ((protocols.foldl (fun adj entry =>
        adj.insert entry.1.2 ((adj.get? entry.1.2).getD [] ++ [entry.2])) adj).get? v).getD [] ↔
        p ∈ (adj.get? v).getD [] ∨ ∃ e ∈ protocols, e.1.2 = v ∧ e.2 = p by
    rw [adjacency, h]
    simp
  induction protocols with
  | nil => simp
  | cons e protocols ih =>
    intro adj
    rw [List.foldl_cons, ih, OrderedDict.get?_insert]
    by_cases hv : e.1.2 = v
    · rw [if_pos hv, hv, Option.getD_some, List.mem_append, List.mem_singleton]
      simp only [List.mem_cons, exists_eq_or_imp, hv, true_and]
      tauto
    · rw [if_neg hv]
      simp only [List.mem_cons, exists_eq_or_imp, hv, false_and, false_or]

/-- The edges that leave a version are the protocols registered for that client version. -/
theorem Coherent.mem_adjacency {m : ProtocolManager} (h : m.Coherent) (v : Int) (p : Protocol) :
    p ∈ ((adjacency m.protocols).get? v).getD [] ↔
      p ∈ {p | m.Registered p} ∧ p.clientProtocol = v := by
  rw [ProtocolManager.mem_adjacency]
  constructor
  · rintro ⟨e, he, hv, rfl⟩
    have hk := h.keyed e he
    have hmem : ((e.2.serverProtocol, e.2.clientProtocol), e.2) ∈ m.protocols := by
      rw [← hk]
      exact he
    refine ⟨OrderedDict.get?_of_mem h.nodup hmem, ?_⟩
    rw [← hv, hk]
  · rintro ⟨hp, hv⟩
    exact ⟨_, OrderedDict.mem_of_get? hp, hv, rfl⟩

/-! ### Resolution -/

/-- What a resolution promises: a chain that visits no version twice and is no longer than any
other, or that there is no chain. -/
def Resolves (m : ProtocolManager) (server client : Int) : Option (List Protocol) → Prop
  | some chain => m.IsChain server client chain ∧ (chain = [] ↔ server = client) ∧
      (versions client chain).Nodup ∧ ∀ other, m.IsChain server client other →
        chain.length ≤ other.length
  | none => ∀ other, ¬ m.IsChain server client other

theorem Coherent.findPath_resolves {m : ProtocolManager} (h : m.Coherent) {server client : Int}
    (hv : server ≠ client) : m.Resolves server client (findPath m.protocols server client) := by
  unfold findPath
  cases hd : m.protocols.get? (server, client) with
  | some direct =>
    -- the shortcut: a registered protocol for the pair is a chain of length one
    have hk := h.keyed _ (OrderedDict.mem_of_get? hd)
    obtain ⟨hs, hc⟩ := Prod.mk.inj hk
    have hs' : direct.serverProtocol = server := hs.symm
    refine ⟨⟨?_, hc.symm, hs'⟩, by simp [hv], ?_, ?_⟩
    · show m.protocols.get? (direct.serverProtocol, direct.clientProtocol) = some direct
      rw [← hk]
      exact hd
    · simp only [versions, ShortestPath.vertices, List.map_cons, List.map_nil, hs']
      simp [Ne.symm hv]
    · intro other ho
      cases other with
      | nil => exact absurd (Eq.symm ho) hv
      | cons p other => simp
  | none =>
    -- the search ends, as there are no more versions than protocols
    have hU : ∀ p ∈ {p | m.Registered p},
        p.serverProtocol ∈ m.protocols.values.map Protocol.serverProtocol := by
      intro p hp
      exact List.mem_map_of_mem (List.mem_map_of_mem (OrderedDict.mem_of_get? hp))
    have hlen : (m.protocols.values.map Protocol.serverProtocol).length <
        m.protocols.length + 2 := by
      simp [OrderedDict.values]
    cases hb : bfs m.protocols server client with
    | some chain =>
      have hs := ShortestPath.search_some h.mem_adjacency _ hU (Ne.symm hv) hlen hb
      exact ⟨hs.walk, by simp [hs.nonempty, hv], hs.nodup, hs.shortest⟩
    | none => exact ShortestPath.search_none h.mem_adjacency _ hU (Ne.symm hv) hlen hb

theorem Coherent.getPath_resolves {m : ProtocolManager} (h : m.Coherent) (server client : Int) :
    m.Resolves server client (m.getPath server client).1 := by
  rw [h.getPath_fst]
  split_ifs with hv
  · refine ⟨Eq.symm hv, by simp [hv], by simp [versions, ShortestPath.vertices], ?_⟩
    intro other _
    exact Nat.zero_le _
  · exact h.findPath_resolves hv

/-! ### Runs of the registry -/

/-- The calls on a registry. -/
inductive Call where
  | register (p : Protocol)
  | getPath (server client : Int)

/-- One call; a `register` answers nothing. -/
def call (m : ProtocolManager) : Call → ProtocolManager × Option (List Protocol)
  | .register p => (m.register p, none)
  | .getPath server client => ((m.getPath server client).2, (m.getPath server client).1)

/-- The registry after a sequence of calls. -/
def after (calls : List Call) : ProtocolManager := (EventSystem.run call {} calls).1

theorem coherent_after (calls : List Call) : (after calls).Coherent := by
  refine EventSystem.invariant call ?_ (coherent_empty []) calls
  rintro m (p | ⟨server, client⟩) h
  · exact h.register p
  · exact h.getPath_snd server client

/-- **Correctness of `get_path`**: after any calls, the answer is a shortest chain of the protocols
registered now, empty exactly for equal versions, or `none` exactly when there is no chain. -/
theorem getPath_correct (calls : List Call) (server client : Int) :
    (after calls).Resolves server client ((after calls).getPath server client).1 :=
  (coherent_after calls).getPath_resolves server client

end ProtocolManager

end Endweave
