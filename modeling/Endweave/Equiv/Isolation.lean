import Endweave.Equiv.Freshness

/-!
# Players do not influence each other

`isolation`: in any run, what happens to the events of one address and its connection at the end is
what happens in the run of the events of that address alone.  The relation between the two runs
(`Agree`) is that they agree on the connection of the address and on the registry up to its path
cache; the proof is the unwinding rule `EventSystem.run_filter`.
-/

namespace Endweave

open Wire

/-- The address an event is about. -/
def Event.address : Event → String
  | .receive event => event.address
  | .send event => event.address
  | .removeByAddress address => address
  | .removeByPlayer playerAddress => playerAddress

/-! ### The registry up to its cache -/

/-- Two registries with the same protocols. -/
structure SameRegistry (m m' : ProtocolManager) : Prop where
  left : m.Coherent
  right : m'.Coherent
  protocols : m'.protocols = m.protocols
  base : m'.baseProtocols = m.baseProtocols

theorem SameRegistry.getPath {m m' : ProtocolManager} (h : SameRegistry m m')
    (server client : Int) : (m'.getPath server client).1 = (m.getPath server client).1 := by
  rw [h.left.getPath_fst, h.right.getPath_fst, h.protocols]

/-- Resolving a pipeline does not depend on the cache. -/
theorem SameRegistry.getPipeline {m m' : ProtocolManager} (h : SameRegistry m m')
    (c : TrackedConnection) :
    (getPipeline m' c).1 = (getPipeline m c).1 ∧
      (getPipeline m' c).2.1 = (getPipeline m c).2.1 := by
  rw [Endweave.getPipeline, Endweave.getPipeline]
  split
  · exact ⟨rfl, rfl⟩
  · -- the cache is consulted through `getPath` only
    simp only [h.getPath, h.base]
    split_ifs
    · exact ⟨rfl, rfl⟩
    · exact ⟨rfl, rfl⟩
    · split
      · exact ⟨rfl, rfl⟩
      · split <;> exact ⟨rfl, rfl⟩

theorem SameRegistry.receiveOn {m m' : ProtocolManager} (h : SameRegistry m m')
    (c : TrackedConnection) (event : PacketEvent) :
    (receiveOn m' c event).1 = (receiveOn m c event).1 ∧
      (receiveOn m' c event).2.1 = (receiveOn m c event).2.1 := by
  obtain ⟨h1, h2⟩ := h.getPipeline c
  rw [Endweave.receiveOn, Endweave.receiveOn]
  -- what follows depends on the pipeline and the connection, not on the registry
  generalize Endweave.getPipeline m c = r at h1 h2 ⊢
  generalize Endweave.getPipeline m' c = r' at h1 h2 ⊢
  obtain ⟨x, c₁, m₁⟩ := r
  obtain ⟨x', c₂, m₂⟩ := r'
  obtain rfl : x' = x := h1
  obtain rfl : c₂ = c₁ := h2
  cases x' <;> exact ⟨rfl, rfl⟩

/-- A step on either side keeps the protocols the same. -/
theorem SameRegistry.steps {s t s' t' : ProxyState} (h : SameRegistry s.manager t.manager)
    (hs : s' = s ∨ ∃ e, s' = (step s e).1) (ht : t' = t ∨ ∃ e, t' = (step t e).1) :
    SameRegistry s'.manager t'.manager := by
  have hs' : s'.manager.Coherent ∧ s'.manager.protocols = s.manager.protocols ∧
      s'.manager.baseProtocols = s.manager.baseProtocols := by
    rcases hs with rfl | ⟨e, rfl⟩
    · exact ⟨h.left, rfl, rfl⟩
    · exact ⟨step_coherent h.left e, step_protocols s e⟩
  have ht' : t'.manager.Coherent ∧ t'.manager.protocols = t.manager.protocols ∧
      t'.manager.baseProtocols = t.manager.baseProtocols := by
    rcases ht with rfl | ⟨e, rfl⟩
    · exact ⟨h.right, rfl, rfl⟩
    · exact ⟨step_coherent h.right e, step_protocols t e⟩
  exact ⟨hs'.1, ht'.1, by rw [ht'.2.1, hs'.2.1, h.protocols], by rw [ht'.2.2, hs'.2.2, h.base]⟩

/-! ### Agreement on one address -/

/-- Two states that look the same from one address. -/
structure Agree (address : String) (s t : ProxyState) : Prop where
  registry : SameRegistry s.manager t.manager
  serverProtocol : t.connections.serverProtocol = s.connections.serverProtocol
  connection : t.connections.get address = s.connections.get address

/-- An event of another address does not touch the connection. -/
theorem step_get_of_ne {address : String} {e : Event} (h : e.address ≠ address) (s : ProxyState) :
    (step s e).1.connections.get address = s.connections.get address := by
  cases e with
  | receive event =>
    have h : event.address ≠ address := h
    rw [step_receive]
    simp only [ConnectionManager.get_put]
    rw [if_neg h, ConnectionManager.getOrCreate_snd_get _ h]
  | send event =>
    have h : event.address ≠ address := h
    rw [step_send]
    cases s.connections.get event.address with
    | none => rfl
    | some c =>
      simp only
      split_ifs
      · rfl
      · simp only [ConnectionManager.get_put]
        rw [if_neg h]
  | removeByAddress a =>
    exact (ConnectionManager.get_removeByAddress s.connections a address).trans (if_neg h)
  | removeByPlayer a =>
    exact (ConnectionManager.get_removeByAddress s.connections a address).trans (if_neg h)

/-- An event of the address is answered alike, and leaves the same connection. -/
theorem Agree.step_self {address : String} {s t : ProxyState} (h : Agree address s t) {e : Event}
    (he : e.address = address) :
    (step s e).2 = (step t e).2 ∧
      (step t e).1.connections.get address = (step s e).1.connections.get address := by
  subst he
  cases e with
  | receive event =>
    -- both runs find the same connection or create the same new one
    have hc : (t.connections.getOrCreate event.address).1 =
        (s.connections.getOrCreate event.address).1 := by
      rw [ConnectionManager.getOrCreate_fst, ConnectionManager.getOrCreate_fst,
        h.serverProtocol]
      exact congrArg (Option.getD · _) h.connection
    obtain ⟨h1, h2⟩ := h.registry.receiveOn (s.connections.getOrCreate event.address).1 event
    rw [step_receive, step_receive]
    simp only [hc, Event.address, ConnectionManager.get_put_self]
    exact ⟨h1.symm, congrArg some h2⟩
  | send event =>
    have hc : t.connections.get event.address = s.connections.get event.address := h.connection
    rw [step_send, step_send, hc]
    cases hget : s.connections.get event.address with
    | none => exact ⟨rfl, h.connection⟩
    | some c =>
      simp only
      split_ifs
      · exact ⟨rfl, h.connection⟩
      · simp only [Event.address, ConnectionManager.get_put_self, and_self]
  | removeByAddress a =>
    refine ⟨rfl, (ConnectionManager.get_removeByAddress t.connections a a).trans ?_⟩
    exact (if_pos rfl).trans ((ConnectionManager.get_removeByAddress s.connections a a).trans
      (if_pos rfl)).symm
  | removeByPlayer a =>
    refine ⟨rfl, (ConnectionManager.get_removeByAddress t.connections a a).trans ?_⟩
    exact (if_pos rfl).trans ((ConnectionManager.get_removeByAddress s.connections a a).trans
      (if_pos rfl)).symm

theorem Agree.step {address : String} {s t : ProxyState} (h : Agree address s t) {e : Event}
    (he : e.address = address) : Agree address (step s e).1 (step t e).1 where
  registry := h.registry.steps (Or.inr ⟨e, rfl⟩) (Or.inr ⟨e, rfl⟩)
  serverProtocol := by rw [step_serverProtocol, step_serverProtocol, h.serverProtocol]
  connection := (h.step_self he).2

theorem Agree.step_other {address : String} {s t : ProxyState} (h : Agree address s t) {e : Event}
    (he : e.address ≠ address) : Agree address (Endweave.step s e).1 t where
  registry := h.registry.steps (Or.inr ⟨e, rfl⟩) (Or.inl rfl)
  serverProtocol := by rw [step_serverProtocol, h.serverProtocol]
  connection := by rw [step_get_of_ne he, h.connection]

/-- **Isolation**: for every registry and every list of events, the answers to the events of one
address and its connection at the end are those of the run of its own events alone. -/
theorem isolation (base : List Protocol) (serverProtocol : Int) (protocols : List Protocol)
    (address : String) (es : List Event) :
    let s := start base serverProtocol protocols
    let own : Event → Bool := fun e => e.address = address
    (EventSystem.run step s es).2.filter (fun a => own a.1) =
        (EventSystem.run step s (es.filter own)).2 ∧
      (EventSystem.run step s es).1.connections.get address =
        (EventSystem.run step s (es.filter own)).1.connections.get address := by
  intro s own
  -- both runs start in the same state
  have hstart : Agree address s s :=
    ⟨⟨coherent_start .., coherent_start .., rfl, rfl⟩, rfl, rfl⟩
  obtain ⟨hagree, hans⟩ := EventSystem.run_filter step own (R := Agree address)
    (fun s t e h he => ⟨h.step (of_decide_eq_true he), (h.step_self (of_decide_eq_true he)).1⟩)
    (fun s t e h he => h.step_other (of_decide_eq_false he)) hstart es
  exact ⟨hans, hagree.connection.symm⟩

end Endweave
