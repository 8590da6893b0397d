import Endweave.Lib.EventSystem
import Endweave.Pipeline
import Endweave.Protocol.Equiv.Manager

/-!
# Dispatch is a composition, and failures are atomic

`Protocol.handle` is what one protocol makes of a payload: the next payload, or a stop because the
packet was cancelled or the handler raised.  `compose` runs the protocols of a pipeline one after
the other in the `Except` monad, so that the first stop is final.  `dispatch_eq` says that the loop
of the event handlers is this composition, with the original payload restored on a stop, and
`packet_dispatched` states it for both events.

The second half describes one step of the system: `Resolution` lists the ways a pipeline is
resolved, `receiveOn` and `sendOn` are the part of an event that concerns its own connection, and
`step_receive` and `step_send` say that the rest of the state is left alone.
-/

namespace Endweave

open Wire

/-! ### Composition -/

/-- What one protocol makes of a payload: the next payload, or a stop. -/
def Protocol.handle (p : Protocol) (direction : Direction) (packetId : Int)
    (x : List UInt8 × UserConnection) : Except UserConnection (List UInt8 × UserConnection) :=
  if packetId ∈ p.cancelled direction then .error x.2
  else match (p.handlers direction).get? packetId with
    | none => .ok x
    | some handler =>
      match handler (PacketWrapper.ofPayload x.1 x.2) with
      | .error _ w => .error w.user
      | .ok _ w => if w.cancelled then .error w.user else .ok (w.toBytes, w.user)

/-- The protocols of a pipeline, from left to right, up to the first stop. -/
def compose (direction : Direction) (packetId : Int) (pipeline : List Protocol)
    (x : List UInt8 × UserConnection) : Except UserConnection (List UInt8 × UserConnection) :=
  pipeline.foldlM (fun x p => p.handle direction packetId x) x

/-- The event and the connection after a composition. -/
def settle (event : PacketEvent) :
    Except UserConnection (List UInt8 × UserConnection) → PacketEvent × UserConnection
  | .ok (payload, user) => ({ event with payload }, user)
  | .error user => (event.cancel, user)

theorem compose_cons (direction : Direction) (packetId : Int) (p : Protocol)
    (pipeline : List Protocol) (x : List UInt8 × UserConnection) :
    compose direction packetId (p :: pipeline) x =
      p.handle direction packetId x >>= compose direction packetId pipeline :=
  List.foldlM_cons

theorem compose_append (direction : Direction) (packetId : Int) (before after : List Protocol)
    (x : List UInt8 × UserConnection) :
    compose direction packetId (before ++ after) x =
      compose direction packetId before x >>= compose direction packetId after :=
  List.foldlM_append

/-- Protocols that each keep a packet keep it together. -/
theorem compose_eq_self {direction : Direction} {packetId : Int} {pipeline : List Protocol}
    {x : List UInt8 × UserConnection}
    (h : ∀ p ∈ pipeline, p.handle direction packetId x = .ok x) :
    compose direction packetId pipeline x = .ok x := by
  induction pipeline with
  | nil => rfl
  | cons p pipeline ih =>
    rw [compose_cons, h p (List.mem_cons_self ..)]
    exact ih fun q hq => h q (List.mem_cons_of_mem _ hq)

/-- A protocol without a handler for the packet is the identity. -/
theorem Protocol.handle_of_not_handled {p : Protocol} {direction : Direction} {packetId : Int}
    (h : p.hasHandlerOrCancel direction packetId = false) (x : List UInt8 × UserConnection) :
    p.handle direction packetId x = .ok x := by
  rw [hasHandlerOrCancel, Bool.or_eq_false_iff] at h
  obtain ⟨hh, hc⟩ := h
  rw [handle, if_neg (by simpa using hc)]
  rw [Option.isSome_eq_false_iff, Option.isNone_iff_eq_none] at hh
  rw [hh]

/-- The test `has_handler_or_cancel` agrees with `transform`: where it succeeds, `transform` does
what `handle` says. -/
theorem Protocol.handle_of_handled {p : Protocol} {direction : Direction} {packetId : Int}
    (h : p.hasHandlerOrCancel direction packetId = true) (x : List UInt8 × UserConnection) :
    p.handle direction packetId x =
      match p.transform direction packetId (PacketWrapper.ofPayload x.1 x.2) with
      | .error _ w => .error w.user
      | .ok _ w => if w.cancelled then .error w.user else .ok (w.toBytes, w.user) := by
  unfold handle transform
  by_cases hc : packetId ∈ p.cancelled direction
  · rw [if_pos hc, if_pos (by simpa using hc)]
    rfl
  · rw [if_neg hc, if_neg (by simpa using hc)]
    cases hget : (p.handlers direction).get? packetId with
    | some handler => rfl
    | none =>
      rw [hasHandlerOrCancel, hget] at h
      exact absurd h (by simpa using hc)

/-- The loop of the event handlers is the composition. -/
theorem dispatch_eq (direction : Direction) (event : PacketEvent) (pipeline : List Protocol)
    (payload : List UInt8) (user : UserConnection) :
    dispatch direction event pipeline payload user =
      settle event (compose direction event.packetId pipeline (payload, user)) := by
  induction pipeline generalizing payload user with
  | nil => rfl
  | cons p pipeline ih =>
    rw [dispatch, compose_cons]
    cases hh : p.hasHandlerOrCancel direction event.packetId with
    | false =>
      -- skipped by the loop, the identity in the composition
      rw [Protocol.handle_of_not_handled hh]
      exact ih payload user
    | true =>
      rw [Protocol.handle_of_handled hh]
      simp only [Bool.not_true, Bool.false_eq_true, if_false]
      cases p.transform direction event.packetId (PacketWrapper.ofPayload payload user) with
      | error e w => rfl
      | ok a w =>
        cases hw : w.cancelled with
        | true => simp only [hw, if_true]; rfl
        | false => simp only [hw]; exact ih w.toBytes w.user

/-! ### Atomicity -/

/-- What dispatching an event through a pipeline means: it ends as the composition of the protocols,
or some protocol stops it, and then the event is cancelled with its payload untouched and the
connection is as that protocol left it. -/
structure Dispatched (direction : Direction) (event : PacketEvent) (pipeline : List Protocol)
    (user : UserConnection) (event' : PacketEvent) (user' : UserConnection) : Prop where
  composition : ∀ payload₁ user₁,
    compose direction event.packetId pipeline (event.payload, user) = .ok (payload₁, user₁) →
      event' = { event with payload := payload₁ } ∧ user' = user₁
  atomic : ∀ before p after x user₁, pipeline = before ++ p :: after →
    compose direction event.packetId before (event.payload, user) = .ok x →
      p.handle direction event.packetId x = .error user₁ →
        event' = { event with cancelled := true } ∧ user' = user₁
  total : (∃ x, compose direction event.packetId pipeline (event.payload, user) = .ok x) ∨
    ∃ before p after x user₁, pipeline = before ++ p :: after ∧
      compose direction event.packetId before (event.payload, user) = .ok x ∧
        p.handle direction event.packetId x = .error user₁

/-- A composition that stops, stops at one of its protocols. -/
theorem exists_stop {direction : Direction} {packetId : Int} {pipeline : List Protocol}
    {x : List UInt8 × UserConnection} {user₁ : UserConnection}
    (h : compose direction packetId pipeline x = .error user₁) :
    ∃ before p after x₁, pipeline = before ++ p :: after ∧
      compose direction packetId before x = .ok x₁ ∧
        p.handle direction packetId x₁ = .error user₁ := by
  induction pipeline generalizing x with
  | nil => cases h
  | cons p pipeline ih =>
    rw [compose_cons] at h
    cases hp : p.handle direction packetId x with
    | error user₂ =>
      rw [hp] at h
      cases h
      exact ⟨[], p, pipeline, x, rfl, rfl, hp⟩
    | ok x₂ =>
      rw [hp] at h
      obtain ⟨before, q, after, x₁, rfl, hb, hq⟩ := ih h
      refine ⟨p :: before, q, after, x₁, rfl, ?_, hq⟩
      rw [compose_cons, hp]
      exact hb

theorem dispatched (direction : Direction) (event : PacketEvent) (pipeline : List Protocol)
    (user : UserConnection) :
    Dispatched direction event pipeline user
      (dispatch direction event pipeline event.payload user).1
      (dispatch direction event pipeline event.payload user).2 := by
  rw [dispatch_eq]
  constructor
  case composition =>
    intro payload₁ user₁ h
    rw [h]
    exact ⟨rfl, rfl⟩
  case atomic =>
    rintro before p after x user₁ rfl hb hp
    have h : compose direction event.packetId (before ++ p :: after) (event.payload, user) =
        .error user₁ := by
      rw [compose_append, hb]
      show compose direction event.packetId (p :: after) x = _
      rw [compose_cons, hp]
      rfl
    rw [h]
    exact ⟨rfl, rfl⟩
  case total =>
    cases h : compose direction event.packetId pipeline (event.payload, user) with
    | ok x => exact Or.inl ⟨x, rfl⟩
    | error user₁ =>
      obtain ⟨before, p, after, x, hp⟩ := exists_stop h
      exact Or.inr ⟨before, p, after, x, user₁, hp⟩

/-! ### Resolution -/

/-- The ways `_get_pipeline` returns, each with everything it did. -/
inductive Resolution (m : ProtocolManager) (c : TrackedConnection) :
    Except PyException (List Protocol) × TrackedConnection × ProtocolManager → Prop
  | cached {pipeline : List Protocol} (h : c.protocolPipeline = some pipeline) :
      Resolution m c (.ok pipeline, c, m)
  | undetected (h : c.protocolPipeline = none) (hv : c.clientProtocol = 0) :
      Resolution m c (.ok m.baseProtocols, c, m)
  | sameVersion (h : c.protocolPipeline = none) (hv : c.clientProtocol ≠ 0)
      (hs : c.clientProtocol = c.serverProtocol) :
      Resolution m c (.ok m.baseProtocols, { c with protocolPipeline := some m.baseProtocols }, m)
  | noChain (h : c.protocolPipeline = none) (hv : c.clientProtocol ≠ 0)
      (hs : c.clientProtocol ≠ c.serverProtocol)
      (hp : (m.getPath c.serverProtocol c.clientProtocol).1 = none) :
      Resolution m c (.ok m.baseProtocols,
        { c with warnedNoChain := true, protocolPipeline := some m.baseProtocols },
        (m.getPath c.serverProtocol c.clientProtocol).2)
  | initFailed {chain : List Protocol} {e : PyException} {user : UserConnection}
      (h : c.protocolPipeline = none) (hv : c.clientProtocol ≠ 0)
      (hs : c.clientProtocol ≠ c.serverProtocol)
      (hp : (m.getPath c.serverProtocol c.clientProtocol).1 = some chain)
      (hi : each Protocol.init chain c.toUserConnection = .error e user) :
      Resolution m c (.error e, { c with toUserConnection := user },
        (m.getPath c.serverProtocol c.clientProtocol).2)
  | resolved {chain : List Protocol} {user : UserConnection}
      (h : c.protocolPipeline = none) (hv : c.clientProtocol ≠ 0)
      (hs : c.clientProtocol ≠ c.serverProtocol)
      (hp : (m.getPath c.serverProtocol c.clientProtocol).1 = some chain)
      (hi : each Protocol.init chain c.toUserConnection = .ok () user) :
      Resolution m c (.ok (m.baseProtocols ++ chain),
        { c with
          toUserConnection := user
          protocolPipeline := some (m.baseProtocols ++ chain)
          clientboundPipeline := some (m.baseProtocols ++ chain.reverse) },
        (m.getPath c.serverProtocol c.clientProtocol).2)

theorem getPipeline_resolution (m : ProtocolManager) (c : TrackedConnection) :
    Resolution m c (getPipeline m c) := by
  unfold getPipeline
  split
  · exact Resolution.cached ‹_›
  · have h : c.protocolPipeline = none := ‹_›
    by_cases hv : c.clientProtocol = 0
    · rw [if_pos hv]
      exact Resolution.undetected h hv
    · rw [if_neg hv]
      by_cases hs : c.clientProtocol = c.serverProtocol
      · rw [if_pos (by simp [UserConnection.needsTranslation, hs])]
        exact Resolution.sameVersion h hv hs
      · rw [if_neg (by simp [UserConnection.needsTranslation, hv, hs])]
        simp only
        split
        · exact Resolution.noChain h hv hs ‹_›
        · rename_i chain hp
          cases hi : each Protocol.init chain c.toUserConnection with
          | error e user => exact Resolution.initFailed h hv hs hp hi
          | ok a user => exact Resolution.resolved h hv hs hp hi

/-- Resolving a pipeline keeps the registry and, with it, the registry invariant. -/
theorem getPipeline_manager (m : ProtocolManager) (c : TrackedConnection) :
    (getPipeline m c).2.2 = m ∨
      (getPipeline m c).2.2 = (m.getPath c.serverProtocol c.clientProtocol).2 := by
  generalize hr : getPipeline m c = r
  have h := getPipeline_resolution m c
  rw [hr] at h
  cases h with
  | cached | undetected | sameVersion => exact Or.inl rfl
  | noChain | initFailed | resolved => exact Or.inr rfl

/-! ### One event -/

/-- The part of `on_packet_receive` that concerns the connection of the event. -/
def receiveOn (m : ProtocolManager) (c : TrackedConnection) (event : PacketEvent) :
    Answer × TrackedConnection × ProtocolManager :=
  match getPipeline m c with
  | (.error e, c, m) => (.raised e, c, m)
  | (.ok pipeline, c, m) =>
    let r := dispatch .serverbound event pipeline event.payload c.toUserConnection
    (.packet r.1, { c with toUserConnection := r.2 }, m)

/-- The part of `on_packet_send` that concerns the connection of the event. -/
def sendOn (c : TrackedConnection) (event : PacketEvent) : Answer × TrackedConnection :=
  if c.protocolPipeline.isNone then (.packet event, c)
  else
    let r := dispatch .clientbound event (c.clientboundPipeline.getD []) event.payload
      c.toUserConnection
    (.packet r.1, { c with toUserConnection := r.2 })

theorem step_receive (s : ProxyState) (event : PacketEvent) :
    step s (.receive event) =
      (let g := s.connections.getOrCreate event.address
       let r := receiveOn s.manager g.1 event
       ({ manager := r.2.2, connections := g.2.put event.address r.2.1 }, r.1)) := by
  simp only [step, onPacketReceive, receiveOn]
  rcases getPipeline s.manager (s.connections.getOrCreate event.address).1 with ⟨e | pipeline, c, m⟩
  · rfl
  · rfl

theorem step_send (s : ProxyState) (event : PacketEvent) :
    step s (.send event) =
      match s.connections.get event.address with
      | none => (s, .packet event)
      | some c =>
        if c.protocolPipeline.isNone then (s, .packet event)
        else ({ s with connections := s.connections.put event.address (sendOn c event).2 },
          (sendOn c event).1) := by
  simp only [step, onPacketSend]
  cases s.connections.get event.address with
  | none => rfl
  | some c =>
    simp only [sendOn]
    split_ifs <;> rfl

namespace ConnectionManager

theorem get_put (cm : ConnectionManager) (address a : String) (c : TrackedConnection) :
    (cm.put address c).get a = if address = a then some c else cm.get a :=
  OrderedDict.get?_insert ..

theorem get_put_self (cm : ConnectionManager) (address : String) (c : TrackedConnection) :
    (cm.put address c).get address = some c := by
  rw [get_put, if_pos rfl]

theorem get_removeByAddress (cm : ConnectionManager) (address a : String) :
    (cm.removeByAddress address).get a = if address = a then none else cm.get a :=
  OrderedDict.get?_erase ..

/-- The connection `get_or_create` returns depends on the address alone. -/
theorem getOrCreate_fst (cm : ConnectionManager) (address : String) :
    (cm.getOrCreate address).1 =
      (cm.get address).getD { address, serverProtocol := cm.serverProtocol } := by
  unfold getOrCreate
  cases cm.get address <;> rfl

/-- `get_or_create` touches no other address. -/
theorem getOrCreate_snd_get (cm : ConnectionManager) {address a : String} (h : address ≠ a) :
    (cm.getOrCreate address).2.get a = cm.get a := by
  unfold getOrCreate
  cases cm.get address with
  | some c => rfl
  | none =>
    show (cm.put address _).get a = cm.get a
    rw [get_put, if_neg h]

@[simp] theorem serverProtocol_getOrCreate (cm : ConnectionManager) (address : String) :
    (cm.getOrCreate address).2.serverProtocol = cm.serverProtocol := by
  unfold getOrCreate
  cases cm.get address <;> rfl

end ConnectionManager

theorem receiveOn_manager (m : ProtocolManager) (c : TrackedConnection) (event : PacketEvent) :
    (receiveOn m c event).2.2 = (getPipeline m c).2.2 := by
  unfold receiveOn
  rcases getPipeline m c with ⟨e | pipeline, c', m'⟩ <;> rfl

/-- No event changes the registered protocols. -/
theorem step_manager (s : ProxyState) (e : Event) :
    (step s e).1.manager = s.manager ∨
      ∃ server client, (step s e).1.manager = (s.manager.getPath server client).2 := by
  cases e with
  | receive event =>
    rw [step_receive]
    simp only [receiveOn_manager]
    exact (getPipeline_manager _ _).imp id fun h => ⟨_, _, h⟩
  | send event =>
    rw [step_send]
    cases s.connections.get event.address with
    | none => exact Or.inl rfl
    | some c =>
      simp only
      split_ifs <;> exact Or.inl rfl
  | removeByAddress address => exact Or.inl rfl
  | removeByPlayer playerAddress => exact Or.inl rfl

theorem step_protocols (s : ProxyState) (e : Event) :
    (step s e).1.manager.protocols = s.manager.protocols ∧
      (step s e).1.manager.baseProtocols = s.manager.baseProtocols := by
  rcases step_manager s e with h | ⟨server, client, h⟩
  · rw [h]
    exact ⟨rfl, rfl⟩
  · rw [h]
    exact ProtocolManager.getPath_snd_protocols s.manager server client

theorem step_coherent {s : ProxyState} (hs : s.manager.Coherent) (e : Event) :
    (step s e).1.manager.Coherent := by
  rcases step_manager s e with h | ⟨server, client, h⟩
  · rw [h]
    exact hs
  · rw [h]
    exact hs.getPath_snd server client

theorem step_serverProtocol (s : ProxyState) (e : Event) :
    (step s e).1.connections.serverProtocol = s.connections.serverProtocol := by
  cases e with
  | receive event =>
    rw [step_receive]
    exact ConnectionManager.serverProtocol_getOrCreate ..
  | send event =>
    rw [step_send]
    cases s.connections.get event.address with
    | none => rfl
    | some c =>
      simp only
      split_ifs <;> rfl
  | removeByAddress address => rfl
  | removeByPlayer playerAddress => rfl

/-- Every stored connection has the property. -/
def AllConnections (P : TrackedConnection → Prop) (s : ProxyState) : Prop :=
  ∀ address c, s.connections.get address = some c → P c

/-- **Frame rule**: an event keeps a property of all connections when it keeps it for the connection
of its own address. -/
theorem allConnections_step {P : TrackedConnection → Prop} {s : ProxyState} (h : AllConnections P s)
    (e : Event)
    (hreceive : ∀ event, e = .receive event →
      P (receiveOn s.manager (s.connections.getOrCreate event.address).1 event).2.1)
    (hsend : ∀ event c, e = .send event → s.connections.get event.address = some c →
      P (sendOn c event).2) : AllConnections P (step s e).1 := by
  intro a c hc
  cases e with
  | receive event =>
    rw [step_receive] at hc
    simp only [ConnectionManager.get_put] at hc
    split_ifs at hc with ha
    · rw [← Option.some.inj hc]
      exact hreceive event rfl
    · -- another address: `get_or_create` may have added a connection, but not there
      rw [ConnectionManager.getOrCreate_snd_get _ ha] at hc
      exact h a c hc
  | send event =>
    rw [step_send] at hc
    cases hget : s.connections.get event.address with
    | none =>
      rw [hget] at hc
      exact h a c hc
    | some c₀ =>
      rw [hget] at hc
      simp only at hc
      split_ifs at hc with hp
      · exact h a c hc
      · simp only [ConnectionManager.get_put] at hc
        split_ifs at hc with ha
        · rw [← Option.some.inj hc]
          exact hsend event c₀ rfl hget
        · exact h a c hc
  | removeByAddress address =>
    change (s.connections.removeByAddress address).get a = some c at hc
    rw [ConnectionManager.get_removeByAddress] at hc
    split_ifs at hc
    exact h a c hc
  | removeByPlayer address =>
    change (s.connections.removeByAddress address).get a = some c at hc
    rw [ConnectionManager.get_removeByAddress] at hc
    split_ifs at hc
    exact h a c hc

/-- An event that was handled as a packet through a pipeline. -/
def Handled (direction : Direction) (event : PacketEvent) (pipeline : List Protocol)
    (user : UserConnection) (r : ProxyState × Answer) : Prop :=
  ∃ event' c, r.2 = .packet event' ∧ r.1.connections.get event.address = some c ∧
    Dispatched direction event pipeline user event' c.toUserConnection

/-- **Composition and atomicity of both events**: a serverbound packet goes through the pipeline
that is resolved for its connection and a clientbound packet through the clientbound pipeline. -/
theorem packet_dispatched (s : ProxyState) (event : PacketEvent) (pipeline : List Protocol) :
    (∀ c m, getPipeline s.manager (s.connections.getOrCreate event.address).1 =
        (.ok pipeline, c, m) →
      Handled .serverbound event pipeline c.toUserConnection (step s (.receive event))) ∧
    (∀ c, s.connections.get event.address = some c → c.protocolPipeline.isSome →
        c.clientboundPipeline = some pipeline →
      Handled .clientbound event pipeline c.toUserConnection (step s (.send event))) := by
  constructor
  · intro c m hp
    rw [step_receive]
    simp only [receiveOn, hp]
    exact ⟨_, _, rfl, ConnectionManager.get_put_self .., dispatched ..⟩
  · intro c hc hp hpl
    have hne : c.protocolPipeline.isNone = false := by
      rw [← Option.not_isSome, hp]
      rfl
    rw [step_send, hc]
    simp only [sendOn, hne, hpl]
    exact ⟨_, _, rfl, ConnectionManager.get_put_self .., dispatched ..⟩

/-- A step that puts a byte in front of a login, and stops packet violations. -/
def stoppingStep : Protocol :=
  ((Protocol.new 924 944 "" false).register .serverbound PacketId.login
    (PacketWrapper.write bool true)).cancel .clientbound [PacketId.packetViolationWarning]

/-- A login of a client, which both protocols of the pipeline handle, and a packet violation for it,
which the first one lets through and the second one stops. -/
theorem packet_dispatched_login :
    let pipeline := [createBaseProtocol 924, stoppingStep]
    let c : TrackedConnection :=
      { address := "a", clientProtocol := 944, serverProtocol := 924
        protocolPipeline := some pipeline
        clientboundPipeline := some pipeline }
    let s : ProxyState := { manager := {}, connections := { connections := [("a", c)] } }
    let login : PacketEvent :=
      { address := "a", packetId := PacketId.login, payload := [0, 0, 3, 176, 7] }
    let violation : PacketEvent :=
      { address := "a", packetId := PacketId.packetViolationWarning, payload := [2, 4, 6, 0] }
    (Handled .serverbound login pipeline c.toUserConnection (step s (.receive login)) ∧
      (step s (.receive login)).2 = .packet { login with payload := [1, 0, 0, 3, 156, 7] }) ∧
    Handled .clientbound violation pipeline c.toUserConnection (step s (.send violation)) ∧
      (step s (.send violation)).2 = .packet { violation with cancelled := true } :=
  ⟨⟨(packet_dispatched _ _ _).1 _ _ rfl, rfl⟩, (packet_dispatched _ _ _).2 _ rfl rfl rfl, rfl⟩

end Endweave
