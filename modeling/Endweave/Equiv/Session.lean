import Endweave.Equiv.Isolation
import Endweave.Equiv.Translation

/-!
# The plugin as a table of sessions

What the plugin is for, stated without connections, caches and pipelines: a client has a session,
which is the version it declared last and the version its packets are translated from, and a packet
is answered with a function of its payload and that version (`Sessions.step`).

`run_sessions` says that the plugin answers every run of events as this machine does, for every
registry whose handlers do not look at the connection.
-/

namespace Endweave

open Wire

/-! ### Sessions -/

/-- What there is to remember of a client. -/
structure Session where
  /-- The version of the last RequestNetworkSettings. -/
  declared : Int := 0
  /-- The version that packets are translated from, once there is one. -/
  settled : Option Int := none
deriving Repr, DecidableEq

namespace Session

/-- A serverbound packet settles the version that was declared before it. -/
def settle (s : Session) : Session :=
  if s.settled = none ∧ s.declared ≠ 0 then { s with settled := some s.declared } else s

/-- A RequestNetworkSettings declares a version. -/
def hear (s : Session) (packetId : Int) (payload : List UInt8) : Session :=
  if packetId = PacketId.requestNetworkSettings ∧ 4 ≤ payload.length then
    { s with declared := declaredVersion payload }
  else s

end Session

/-- The sessions by address. -/
abbrev Sessions := String → Option Session

section Machine

variable (serverProtocol : Int) (chain : Int → Option (List Protocol))

/-- The protocols that a packet of the client goes through. -/
def serverboundFor : Option Int → List Protocol
  | none => [createBaseProtocol serverProtocol]
  | some version => createBaseProtocol serverProtocol :: (chain version).getD []

/-- The protocols that a packet for the client goes through: none at all for a client of the
server's version or of a version without a chain. -/
def clientboundFor : Option Int → List Protocol
  | none => []
  | some version =>
    if version = serverProtocol then []
    else match chain version with
      | some chain => createBaseProtocol serverProtocol :: chain.reverse
      | none => []

namespace Sessions

/-- The session of an address, a new one if there is none. -/
def find (t : Sessions) (address : String) : Session := (t address).getD {}

def step (t : Sessions) : Event → Sessions × Answer
  | .receive event =>
    let s := (t.find event.address).settle
    (Function.update t event.address (some (s.hear event.packetId event.payload)),
      .packet (event.deliver (translate serverProtocol .serverbound event.packetId
        (serverboundFor serverProtocol chain s.settled) event.payload)))
  | .send event =>
    (t, .packet (event.deliver (translate serverProtocol .clientbound event.packetId
      (clientboundFor serverProtocol chain (t.find event.address).settled) event.payload)))
  | .removeByAddress address => (Function.update t address none, .removed)
  | .removeByPlayer playerAddress => (Function.update t playerAddress none, .removed)

end Sessions

end Machine

/-! ### Protocols that do not look at the connection -/

/-- A protocol that neither looks at the connection nor has anything to set up. -/
structure Protocol.Detached (p : Protocol) : Prop where
  blind : p.Every fun _ _ h => Blind h
  init : p.init = pure ()

theorem Protocol.Detached.quiet {p : Protocol} (h : p.Detached) : p.Quiet where
  handlers direction packetId handler hget w := by
    have htracks := h.blind direction packetId handler hget fun u v => u = w.user ∧ v = w.user
    have hstart : Alike (fun u v => u = w.user ∧ v = w.user) w w := ⟨⟨rfl, rfl⟩, rfl⟩
    cases hs : handler w with
    | ok a w' =>
      obtain ⟨_, _, hR⟩ := htracks.of_ok hstart hs
      rw [final, hR.related.1]
      exact SameVersions.refl _
    | error e w' =>
      obtain ⟨_, _, hR⟩ := htracks.of_error trivial hstart hs
      rw [final, hR.related.1]
      exact SameVersions.refl _
  init user := by
    rw [h.init]
    exact SameVersions.refl _

/-- Nothing is set up for a chain of such protocols. -/
theorem init_detached {chain : List Protocol} (h : ∀ p ∈ chain, p.Detached)
    (user : UserConnection) : each Protocol.init chain user = .ok () user := by
  induction chain with
  | nil => rfl
  | cons p chain ih =>
    unfold each
    rw [(h p (List.mem_cons_self ..)).init]
    exact ih fun q hq => h q (List.mem_cons_of_mem _ hq)

/-! ### The registry -/

section Registry

variable {serverProtocol : Int} {m : ProtocolManager}

/-- The registry of the plugin: the base protocol, and detached protocols under it. -/
structure DetachedRegistry (serverProtocol : Int) (m : ProtocolManager) : Prop where
  coherent : m.Coherent
  base : m.baseProtocols = [createBaseProtocol serverProtocol]
  detached : ∀ p, m.Registered p → p.Detached

/-- The chain for each client version. -/
def chainOf (serverProtocol : Int) (m : ProtocolManager) (version : Int) : Option (List Protocol) :=
  (m.getPath serverProtocol version).1

variable (hm : DetachedRegistry serverProtocol m)

include hm

theorem DetachedRegistry.mem_chain {version : Int} {chain : List Protocol}
    (h : chainOf serverProtocol m version = some chain) : ∀ p ∈ chain, p.Detached := by
  have hres := hm.coherent.getPath_resolves serverProtocol version
  rw [chainOf] at h
  rw [h] at hres
  exact fun p hp => hm.detached p (hres.1.mem p hp)

omit hm in
theorem serverboundFor_same (serverProtocol : Int) (m : ProtocolManager) :
    serverboundFor serverProtocol (chainOf serverProtocol m) (some serverProtocol) =
      [createBaseProtocol serverProtocol] := by
  have hpath : chainOf serverProtocol m serverProtocol = some [] := by
    rw [chainOf, ProtocolManager.getPath, if_pos rfl]
  rw [serverboundFor, hpath]
  rfl

omit hm in
theorem impersonal {pipeline : List Protocol}
    (h : ∀ p ∈ pipeline, p = createBaseProtocol serverProtocol ∨ p.Detached) :
    Impersonal serverProtocol pipeline := by
  intro p hp direction packetId handler hget
  rcases h p hp with rfl | hd
  · exact base_relates serverProtocol direction packetId handler hget
  · exact hd.blind direction packetId handler hget _

theorem DetachedRegistry.serverbound (settled : Option Int) :
    ∃ chain, serverboundFor serverProtocol (chainOf serverProtocol m) settled =
      createBaseProtocol serverProtocol :: chain ∧ ∀ p ∈ chain, p.Detached := by
  cases settled with
  | none => exact ⟨[], rfl, by simp⟩
  | some version =>
    refine ⟨_, rfl, ?_⟩
    cases hc : chainOf serverProtocol m version with
    | none => simp
    | some chain => exact hm.mem_chain hc

theorem DetachedRegistry.clientbound (settled : Option Int) :
    ∀ p ∈ clientboundFor serverProtocol (chainOf serverProtocol m) settled,
      p = createBaseProtocol serverProtocol ∨ p.Detached := by
  unfold clientboundFor
  cases settled with
  | none => simp
  | some version =>
    dsimp only
    split_ifs
    · simp
    · cases hc : chainOf serverProtocol m version with
      | none => simp
      | some chain =>
        intro p hp
        rcases List.mem_cons.mp hp with rfl | hp
        · exact Or.inl rfl
        · exact Or.inr (hm.mem_chain hc p (List.mem_reverse.mp hp))

/-! ### One connection -/

/-- A session is what matters of a connection. -/
structure Represents (serverProtocol : Int) (m : ProtocolManager) (c : TrackedConnection)
    (s : Session) : Prop where
  server : c.serverProtocol = serverProtocol
  declared : c.clientProtocol = s.declared
  serverbound : c.protocolPipeline = s.settled.map fun version =>
    serverboundFor serverProtocol (chainOf serverProtocol m) (some version)
  clientbound : c.clientboundPipeline.getD [] =
    clientboundFor serverProtocol (chainOf serverProtocol m) s.settled

omit hm in
theorem represents_new (address : String) :
    Represents serverProtocol m { address, serverProtocol } {} where
  server := rfl
  declared := rfl
  serverbound := rfl
  clientbound := rfl

omit hm in
/-- Dispatching keeps the pipelines; the session hears what the packet declares. -/
theorem Represents.heard {c : TrackedConnection} {s : Session}
    (h : Represents serverProtocol m c s) {packetId : Int} {payload : List UInt8}
    {user : UserConnection} (hserver : user.serverProtocol = serverProtocol)
    (hclient : user.clientProtocol = (s.hear packetId payload).declared) :
    Represents serverProtocol m { c with toUserConnection := user } (s.hear packetId payload) := by
  have hsettled : (s.hear packetId payload).settled = s.settled := by
    unfold Session.hear
    split_ifs <;> rfl
  refine ⟨hserver, hclient, ?_, ?_⟩
  · rw [hsettled]
    exact h.serverbound
  · rw [hsettled]
    exact h.clientbound

/-- **Resolution settles the session.** -/
theorem Represents.getPipeline {c : TrackedConnection} {s : Session}
    (h : Represents serverProtocol m c s) :
    (getPipeline m c).1 =
        .ok (serverboundFor serverProtocol (chainOf serverProtocol m) s.settle.settled) ∧
      Represents serverProtocol m (Endweave.getPipeline m c).2.1 s.settle := by
  have hres := getPipeline_resolution m c
  generalize Endweave.getPipeline m c = r at hres ⊢
  obtain ⟨declared, settled⟩ := s
  -- nothing is cached for a session that is not settled
  have hnone : c.protocolPipeline = none → settled = none := by
    intro hp
    cases settled with
    | none => rfl
    | some version =>
      have hs := h.serverbound
      rw [hp] at hs
      cases hs
  have hsettle : settled = none → declared ≠ 0 →
      Session.settle ⟨declared, settled⟩ = ⟨declared, some declared⟩ := fun hs hd => by
    unfold Session.settle
    rw [if_pos ⟨hs, hd⟩]
  have hdeclared : c.clientProtocol = declared := h.declared
  have hserver := h.server
  cases hres with
  | @cached pipeline hp =>
    cases settled with
    | none =>
      have hs := h.serverbound
      rw [hp] at hs
      cases hs
    | some version =>
      have hs := h.serverbound
      rw [hp] at hs
      obtain rfl := Option.some.inj hs
      exact ⟨rfl, h⟩
  | undetected hp hv =>
    obtain rfl := hnone hp
    have hkeep : Session.settle ⟨declared, none⟩ = ⟨declared, none⟩ := by
      unfold Session.settle
      rw [if_neg fun hc => hc.2 (hdeclared.symm.trans hv)]
    rw [hkeep, hm.base]
    exact ⟨rfl, h⟩
  | sameVersion hp hv hs =>
    obtain rfl := hnone hp
    have hversion : declared = serverProtocol := hdeclared.symm.trans (hs.trans hserver)
    rw [hsettle rfl (hdeclared ▸ hv), hm.base, hversion]
    have hpipeline := serverboundFor_same serverProtocol m
    exact ⟨congrArg Except.ok hpipeline.symm, hserver, hdeclared.trans hversion,
      congrArg some hpipeline.symm, h.clientbound.trans (if_pos rfl).symm⟩
  | noChain hp hv hs hpath =>
    obtain rfl := hnone hp
    have hchain : chainOf serverProtocol m declared = none := by
      rw [chainOf, ← hserver, ← hdeclared, hpath]
    have hversion : declared ≠ serverProtocol := fun hd =>
      hs (hdeclared.trans (hd.trans hserver.symm))
    have hpipeline : serverboundFor serverProtocol (chainOf serverProtocol m) (some declared) =
        [createBaseProtocol serverProtocol] := by
      rw [serverboundFor, hchain]
      rfl
    rw [hsettle rfl (hdeclared ▸ hv), hm.base]
    refine ⟨congrArg Except.ok hpipeline.symm, hserver, hdeclared,
      congrArg some hpipeline.symm, h.clientbound.trans ?_⟩
    simp only [clientboundFor, if_neg hversion, hchain]
  | @initFailed chain e user hp hv hs hpath hi =>
    have hchain : chainOf serverProtocol m declared = some chain := by
      rw [chainOf, ← hserver, ← hdeclared, hpath]
    rw [init_detached (hm.mem_chain hchain)] at hi
    cases hi
  | @resolved chain user hp hv hs hpath hi =>
    obtain rfl := hnone hp
    have hchain : chainOf serverProtocol m declared = some chain := by
      rw [chainOf, ← hserver, ← hdeclared, hpath]
    have hversion : declared ≠ serverProtocol := fun hd =>
      hs (hdeclared.trans (hd.trans hserver.symm))
    have hpipeline : serverboundFor serverProtocol (chainOf serverProtocol m) (some declared) =
        [createBaseProtocol serverProtocol] ++ chain := by
      rw [serverboundFor, hchain]
      rfl
    rw [init_detached (hm.mem_chain hchain)] at hi
    obtain ⟨_, rfl⟩ := EStateM.Result.ok.inj hi
    rw [hsettle rfl (hdeclared ▸ hv), hm.base]
    refine ⟨congrArg Except.ok hpipeline.symm, hserver, hdeclared,
      congrArg some hpipeline.symm, ?_⟩
    simp only [clientboundFor, if_neg hversion, hchain]
    rfl

/-- **A serverbound packet**: the session is settled, the packet is translated and heard. -/
theorem Represents.receiveOn {c : TrackedConnection} {s : Session}
    (h : Represents serverProtocol m c s) (event : PacketEvent) :
    (receiveOn m c event).1 =
        .packet (event.deliver (translate serverProtocol .serverbound event.packetId
          (serverboundFor serverProtocol (chainOf serverProtocol m) s.settle.settled)
          event.payload)) ∧
      Represents serverProtocol m (Endweave.receiveOn m c event).2.1
        (s.settle.hear event.packetId event.payload) := by
  obtain ⟨hpipeline, hc⟩ := h.getPipeline hm
  unfold Endweave.receiveOn
  generalize Endweave.getPipeline m c = r at hpipeline hc ⊢
  obtain ⟨x, c', m'⟩ := r
  dsimp only at hpipeline hc ⊢
  obtain rfl := hpipeline
  obtain ⟨chain, heq, hdetached⟩ := hm.serverbound s.settle.settled
  have himpersonal : Impersonal serverProtocol (createBaseProtocol serverProtocol :: chain) :=
    impersonal fun p hp => (List.mem_cons.mp hp).imp id (hdetached p)
  dsimp only
  rw [heq]
  obtain ⟨hanswer, hserver⟩ := himpersonal.dispatch .serverbound event hc.server
  refine ⟨congrArg Answer.packet hanswer, hc.heard hserver ?_⟩
  have hversions := (dispatch_versions serverProtocol (fun p hp => (hdetached p hp).quiet) event
    c'.toUserConnection).1
  rw [hversions, afterBase, Session.hear]
  split_ifs
  · rfl
  · exact hc.declared

/-- **A clientbound packet**: the packet is translated, the session stays. -/
theorem Represents.sendOn {c : TrackedConnection} {s : Session}
    (h : Represents serverProtocol m c s) (event : PacketEvent) :
    (sendOn c event).1 =
        .packet (event.deliver (translate serverProtocol .clientbound event.packetId
          (clientboundFor serverProtocol (chainOf serverProtocol m) s.settled) event.payload)) ∧
      Represents serverProtocol m (Endweave.sendOn c event).2 s := by
  unfold Endweave.sendOn
  have hpipeline := hm.clientbound s.settled
  split_ifs with hp
  · -- nothing is settled, and nothing is translated
    have hsettled : s.settled = none := by
      have hs := h.serverbound
      rw [Option.isNone_iff_eq_none.mp hp] at hs
      exact Option.map_eq_none_iff.mp hs.symm
    rw [hsettled]
    exact ⟨rfl, h⟩
  · rw [h.clientbound]
    obtain ⟨hanswer, hserver⟩ := (impersonal hpipeline).dispatch .clientbound event h.server
    refine ⟨congrArg Answer.packet hanswer, hserver, ?_, h.serverbound, h.clientbound⟩
    have hquiet : ∀ p ∈ clientboundFor serverProtocol (chainOf serverProtocol m) s.settled,
        p.QuietIn .clientbound event.packetId := fun p hp => by
      rcases hpipeline p hp with rfl | hd
      · exact base_quiet_clientbound serverProtocol event.packetId
      · exact hd.quiet.handlers _ _
    have hsame := compose_sameVersions hquiet (event.payload, c.toUserConnection)
    rw [← settle_snd event, ← dispatch_eq] at hsame
    exact hsame.1.trans h.declared

end Registry

/-! ### The simulation -/

/-- The connections of the plugin are represented by the sessions, address by address. -/
structure Simulates (serverProtocol : Int) (m : ProtocolManager) (s : ProxyState) (t : Sessions) :
    Prop where
  registry : SameRegistry m s.manager
  server : s.connections.serverProtocol = serverProtocol
  connections : ∀ address,
    Option.Rel (Represents serverProtocol m) (s.connections.get address) (t address)

section Step

variable {serverProtocol : Int} {m : ProtocolManager} {s : ProxyState} {t : Sessions}
  (h : Simulates serverProtocol m s t)

include h

/-- An address has a connection and a session, or neither. -/
theorem Simulates.lookup (address : String) :
    (s.connections.get address = none ∧ t address = none) ∨
      ∃ c session, s.connections.get address = some c ∧ t address = some session ∧
        Represents serverProtocol m c session := by
  have hrel := h.connections address
  revert hrel
  generalize s.connections.get address = o
  generalize t address = o'
  rintro (hrel | -)
  · exact Or.inr ⟨_, _, rfl, rfl, hrel⟩
  · exact Or.inl ⟨rfl, rfl⟩

/-- The connection that an event finds or creates is represented by the session it finds. -/
theorem Simulates.find (address : String) :
    Represents serverProtocol m (s.connections.getOrCreate address).1 (t.find address) := by
  rw [ConnectionManager.getOrCreate_fst, Sessions.find, h.server]
  rcases h.lookup address with ⟨hc, ht⟩ | ⟨c, session, hc, ht, hrep⟩
  · rw [hc, ht]
    exact represents_new address
  · rw [hc, ht]
    exact hrep

/-- Storing a connection on one side and its session on the other. -/
theorem Simulates.connections_put {c : TrackedConnection} {session : Session} (address : String)
    {cm : ConnectionManager} (hother : ∀ a, address ≠ a → cm.get a = s.connections.get a)
    (hc : Represents serverProtocol m c session) (a : String) :
    Option.Rel (Represents serverProtocol m) ((cm.put address c).get a)
      (Function.update t address (some session) a) := by
  rw [ConnectionManager.get_put]
  by_cases ha : address = a
  · subst ha
    rw [if_pos rfl, Function.update_self]
    exact .some hc
  · rw [if_neg ha, Function.update_of_ne (Ne.symm ha), hother a ha]
    exact h.connections a

theorem Simulates.connections_remove (address a : String) :
    Option.Rel (Represents serverProtocol m) ((s.connections.removeByAddress address).get a)
      (Function.update t address none a) := by
  rw [ConnectionManager.get_removeByAddress]
  by_cases ha : address = a
  · subst ha
    rw [if_pos rfl, Function.update_self]
    exact .none
  · rw [if_neg ha, Function.update_of_ne (Ne.symm ha)]
    exact h.connections a

/-- **One event**: the plugin answers as the machine of sessions does. -/
theorem Simulates.step (hm : DetachedRegistry serverProtocol m) (e : Event) :
    Simulates serverProtocol m (step s e).1
        (Sessions.step serverProtocol (chainOf serverProtocol m) t e).1 ∧
      (Endweave.step s e).2 = (Sessions.step serverProtocol (chainOf serverProtocol m) t e).2 := by
  have hregistry : SameRegistry m (Endweave.step s e).1.manager :=
    ⟨h.registry.left, step_coherent h.registry.right e,
      (step_protocols s e).1.trans h.registry.protocols,
      (step_protocols s e).2.trans h.registry.base⟩
  have hserver : (Endweave.step s e).1.connections.serverProtocol = serverProtocol :=
    (step_serverProtocol s e).trans h.server
  cases e with
  | receive event =>
    obtain ⟨hanswer, hc⟩ := (h.find event.address).receiveOn hm event
    -- the path cache of the state makes no difference
    obtain ⟨hanswer', hc'⟩ := h.registry.receiveOn
      (s.connections.getOrCreate event.address).1 event
    rw [← hanswer'] at hanswer
    rw [← hc'] at hc
    refine ⟨⟨hregistry, hserver, ?_⟩, ?_⟩
    · rw [step_receive]
      exact h.connections_put event.address
        (fun a ha => ConnectionManager.getOrCreate_snd_get _ ha) hc
    · rw [step_receive]
      exact hanswer
  | send event =>
    rw [step_send] at hregistry hserver ⊢
    rw [Sessions.step, Sessions.find]
    rcases h.lookup event.address with ⟨hc, ht⟩ | ⟨c, session, hc, ht, hrep⟩
    · -- no connection: a new session is not settled, so nothing is translated
      rw [hc] at hregistry hserver ⊢
      rw [ht]
      exact ⟨⟨hregistry, hserver, h.connections⟩, rfl⟩
    · obtain ⟨hanswer, hkept⟩ := hrep.sendOn hm event
      rw [hc] at hregistry hserver ⊢
      rw [ht]
      dsimp only at hregistry hserver ⊢
      split_ifs at hregistry hserver ⊢ with hp
      · have hsend : (Endweave.sendOn c event).1 = .packet event := by
          rw [Endweave.sendOn, if_pos hp]
        exact ⟨⟨hregistry, hserver, h.connections⟩, hsend.symm.trans hanswer⟩
      · refine ⟨⟨hregistry, hserver, ?_⟩, hanswer⟩
        have hput := h.connections_put event.address (fun a _ => rfl) hkept
        rwa [← ht, Function.update_eq_self] at hput
  | removeByAddress address => exact ⟨⟨hregistry, hserver, h.connections_remove address⟩, rfl⟩
  | removeByPlayer address => exact ⟨⟨hregistry, hserver, h.connections_remove address⟩, rfl⟩

end Step

/-! ### Runs -/

/-- **The plugin refines the machine of sessions**: it answers every run as the machine does, and
its connections stay represented. -/
theorem Simulates.run {serverProtocol : Int} {m : ProtocolManager}
    (hm : DetachedRegistry serverProtocol m) {s : ProxyState} {t : Sessions}
    (h : Simulates serverProtocol m s t) (es : List Event) :
    let r := EventSystem.run (Sessions.step serverProtocol (chainOf serverProtocol m)) t es
    Simulates serverProtocol m (EventSystem.run Endweave.step s es).1 r.1 ∧
      (EventSystem.run Endweave.step s es).2 = r.2 :=
  EventSystem.run_simulates Endweave.step (fun _ _ e h => h.step hm e) h es

theorem detachedRegistry_start (serverProtocol : Int) {protocols : List Protocol}
    (h : ∀ p ∈ protocols, p.Detached) : DetachedRegistry serverProtocol
      (start [createBaseProtocol serverProtocol] serverProtocol protocols).manager where
  coherent := coherent_start ..
  base := start_baseProtocols ..
  detached p hp := h p (registered_start hp)

/-- Without connections there are no sessions; what the cache of the registry holds makes no
difference. -/
theorem simulates_start {serverProtocol : Int} {m m' : ProtocolManager} (h : SameRegistry m m') :
    Simulates serverProtocol m { manager := m', connections := { serverProtocol } }
      fun _ => none where
  registry := h
  server := rfl
  connections _ := .none

end Endweave
