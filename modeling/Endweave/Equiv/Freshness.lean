import Endweave.Equiv.ClientboundPipeline
import Endweave.Protocol.Equiv.Base

/-!
# Freshness of the cached pipelines

`freshPipeline` is the pipeline that would be resolved for a connection now (`getPipeline_fresh`).
`protocolPipeline_fresh_of_meets` says that every cached pipeline stays fresh in every run in which
no RequestNetworkSettings changes a version to one with another chain; `protocolPipeline_stale` is a
run in which one does.

The handlers of the registered protocols are assumed to leave the two versions of a connection alone
(`Protocol.Quiet`), as all but the base protocol's do.
-/

namespace Endweave

open Wire

/-! ### Freshness -/

/-- The pipeline that `_get_pipeline` builds for the current versions of a connection. -/
def freshPipeline (m : ProtocolManager) (c : UserConnection) : List Protocol :=
  if c.needsTranslation then
    m.baseProtocols ++ ((m.getPath c.serverProtocol c.clientProtocol).1.getD [])
  else m.baseProtocols

/-- `freshPipeline` is what `_get_pipeline` returns when nothing is cached. -/
theorem getPipeline_fresh {m : ProtocolManager} {c : TrackedConnection}
    (hn : c.protocolPipeline = none) {pipeline : List Protocol} {c' : TrackedConnection}
    {m' : ProtocolManager} (h : getPipeline m c = (.ok pipeline, c', m')) :
    pipeline = freshPipeline m c.toUserConnection := by
  have hres := getPipeline_resolution m c
  rw [h] at hres
  unfold freshPipeline UserConnection.needsTranslation
  cases hres with
  | cached hc => rw [hn] at hc; cases hc
  | undetected _ hv => simp [hv]
  | sameVersion _ hv hs => simp [hs]
  | noChain _ hv hs hp => simp [hv, hs, hp]
  | resolved _ hv hs hp hi => simp [hv, hs, hp]

/-- The cached pipeline is the one that would be built now. -/
def Fresh (m : ProtocolManager) (c : TrackedConnection) : Prop :=
  ∀ pipeline, c.protocolPipeline = some pipeline → pipeline = freshPipeline m c.toUserConnection

/-- A RequestNetworkSettings on a connection that has a pipeline, or gets one before the packet is
handled, declares a version with the same pipeline. -/
def KeepsChain (s : ProxyState) : Event → Prop
  | .receive event => event.packetId = PacketId.requestNetworkSettings → 4 ≤ event.payload.length →
      ∀ c, s.connections.get event.address = some c →
        c.protocolPipeline ≠ none ∨ c.clientProtocol ≠ 0 →
          freshPipeline s.manager { c.toUserConnection with
            clientProtocol := declaredVersion event.payload } =
              freshPipeline s.manager c.toUserConnection
  | _ => True

/-! ### Handlers that leave the versions alone -/

/-- The versions of a connection are unchanged. -/
def SameVersions (u u' : UserConnection) : Prop :=
  u'.clientProtocol = u.clientProtocol ∧ u'.serverProtocol = u.serverProtocol

theorem SameVersions.refl (u : UserConnection) : SameVersions u u := ⟨rfl, rfl⟩

theorem SameVersions.trans {u u' u'' : UserConnection} (h : SameVersions u u')
    (h' : SameVersions u' u'') : SameVersions u u'' :=
  ⟨h'.1.trans h.1, h'.2.trans h.2⟩

/-- A protocol whose handlers in one direction leave the versions of the connection alone. -/
def Protocol.QuietIn (p : Protocol) (direction : Direction) (packetId : Int) : Prop :=
  ∀ handler, (p.handlers direction).get? packetId = some handler →
    ∀ w, SameVersions w.user (final (handler w)).user

/-- A protocol that leaves the versions of the connection alone, as all but the base protocol do. -/
structure Protocol.Quiet (p : Protocol) : Prop where
  handlers : ∀ direction packetId, p.QuietIn direction packetId
  init : ∀ user, SameVersions user (final (p.init user))

/-- The connection after a composition. -/
def userOf : Except UserConnection (List UInt8 × UserConnection) → UserConnection
  | .ok x => x.2
  | .error user => user

theorem settle_snd (event : PacketEvent)
    (r : Except UserConnection (List UInt8 × UserConnection)) : (settle event r).2 = userOf r := by
  cases r <;> rfl

/-- The handler of a packet decides what becomes of the connection, whether or not it returns. -/
theorem userOf_handle {p : Protocol} {direction : Direction} {packetId : Int}
    (hc : packetId ∉ p.cancelled direction) {handler : PacketHandler}
    (hget : (p.handlers direction).get? packetId = some handler) (x : List UInt8 × UserConnection) :
    userOf (p.handle direction packetId x) =
      (final (handler (PacketWrapper.ofPayload x.1 x.2))).user := by
  rw [Protocol.handle, if_neg hc, hget]
  cases hr : handler (PacketWrapper.ofPayload x.1 x.2) with
  | error e w =>
    simp only [hr]
    rfl
  | ok a w =>
    simp only [hr]
    split_ifs <;> rfl

theorem handle_sameVersions {p : Protocol} {direction : Direction} {packetId : Int}
    (h : p.QuietIn direction packetId) (x : List UInt8 × UserConnection) :
    SameVersions x.2 (userOf (p.handle direction packetId x)) := by
  by_cases hc : packetId ∈ p.cancelled direction
  · rw [Protocol.handle, if_pos hc]
    exact SameVersions.refl _
  · cases hget : (p.handlers direction).get? packetId with
    | none =>
      rw [Protocol.handle, if_neg hc, hget]
      exact SameVersions.refl _
    | some handler =>
      rw [userOf_handle hc hget]
      exact h handler hget (PacketWrapper.ofPayload x.1 x.2)

theorem compose_sameVersions {direction : Direction} {packetId : Int} {pipeline : List Protocol}
    (h : ∀ p ∈ pipeline, p.QuietIn direction packetId) (x : List UInt8 × UserConnection) :
    SameVersions x.2 (userOf (compose direction packetId pipeline x)) := by
  induction pipeline generalizing x with
  | nil => exact SameVersions.refl _
  | cons p pipeline ih =>
    have hp := handle_sameVersions (h p (List.mem_cons_self ..)) x
    rw [compose_cons]
    cases hr : p.handle direction packetId x with
    | error user =>
      rw [hr] at hp
      exact hp
    | ok x' =>
      rw [hr] at hp
      exact SameVersions.trans hp (ih (fun q hq => h q (List.mem_cons_of_mem _ hq)) x')

theorem init_sameVersions {chain : List Protocol} (h : ∀ p ∈ chain, p.Quiet)
    (user : UserConnection) : SameVersions user (final (each Protocol.init chain user)) := by
  induction chain generalizing user with
  | nil => exact SameVersions.refl _
  | cons p chain ih =>
    have hp := (h p (List.mem_cons_self ..)).init user
    unfold each
    cases hr : p.init user with
    | error e user' =>
      rw [hr] at hp
      rw [bind_error hr]
      exact hp
    | ok a user' =>
      rw [hr] at hp
      rw [bind_ok hr]
      exact SameVersions.trans hp (ih (fun q hq => h q (List.mem_cons_of_mem _ hq)) user')

/-! ### The base protocol in a pipeline -/

/-- The connection once the base protocol has seen a serverbound packet. -/
def afterBase (event : PacketEvent) (user : UserConnection) : UserConnection :=
  if event.packetId = PacketId.requestNetworkSettings ∧ 4 ≤ event.payload.length then
    { user with clientProtocol := declaredVersion event.payload }
  else user

theorem base_handle (serverProtocol : Int) (event : PacketEvent) (user : UserConnection) :
    SameVersions (afterBase event user) (userOf
      ((createBaseProtocol serverProtocol).handle .serverbound event.packetId
        (event.payload, user))) := by
  by_cases hid : event.packetId = PacketId.requestNetworkSettings
  · -- the one handler that changes a version
    have hhandle : userOf ((createBaseProtocol serverProtocol).handle .serverbound event.packetId
        (event.payload, user)) =
          (final (detectClientProtocol (PacketWrapper.ofPayload event.payload user))).user := by
      rw [hid]
      exact userOf_handle List.not_mem_nil rfl (event.payload, user)
    have hafter : (final (detectClientProtocol (PacketWrapper.ofPayload event.payload user))).user =
        afterBase event user := by
      rw [detectClientProtocol_user, afterBase]
      simp only [hid, true_and]
    rw [hhandle, hafter]
    exact SameVersions.refl _
  · have hafter : afterBase event user = user := by
      rw [afterBase, if_neg (fun h => hid h.1)]
    rw [hafter]
    refine handle_sameVersions (x := (event.payload, user)) ?_
    intro handler hget w
    change OrderedDict.get? [(PacketId.requestNetworkSettings, detectClientProtocol),
      (PacketId.login, rewriteLogin)] event.packetId = some handler at hget
    rw [OrderedDict.get?_cons, if_neg (Ne.symm hid), OrderedDict.get?_cons] at hget
    split_ifs at hget
    · obtain rfl := Option.some.inj hget
      rw [rewriteLogin_keepsUser w]
      exact SameVersions.refl _
    · cases hget

/-- The clientbound handler of the base protocol leaves the connection alone. -/
theorem base_quiet_clientbound (serverProtocol packetId : Int) :
    (createBaseProtocol serverProtocol).QuietIn .clientbound packetId := by
  intro handler hget w
  change OrderedDict.get? [(PacketId.packetViolationWarning, logPacketViolation)] packetId =
    some handler at hget
  rw [OrderedDict.get?_cons] at hget
  split_ifs at hget
  · obtain rfl := Option.some.inj hget
    rw [logPacketViolation_keepsUser w]
    exact SameVersions.refl _
  · cases hget

/-- A serverbound packet changes the versions of a connection as the base protocol does. -/
theorem dispatch_versions (serverProtocol : Int) {chain : List Protocol}
    (h : ∀ p ∈ chain, p.Quiet) (event : PacketEvent) (user : UserConnection) :
    SameVersions (afterBase event user)
      (dispatch .serverbound event (createBaseProtocol serverProtocol :: chain) event.payload
        user).2 := by
  have hb := base_handle serverProtocol event user
  rw [dispatch_eq, settle_snd, compose_cons]
  cases hr : (createBaseProtocol serverProtocol).handle .serverbound event.packetId
      (event.payload, user) with
  | error user' =>
    rw [hr] at hb
    exact hb
  | ok x =>
    rw [hr] at hb
    exact SameVersions.trans hb (compose_sameVersions (fun p hp => (h p hp).handlers _ _) x)

/-! ### The invariant -/

theorem freshPipeline_congr {m : ProtocolManager} {u u' : UserConnection} (h : SameVersions u u') :
    freshPipeline m u' = freshPipeline m u := by
  rw [freshPipeline, freshPipeline, UserConnection.needsTranslation,
    UserConnection.needsTranslation, h.1, h.2]

/-- What would be built depends on the registry, not on its cache. -/
theorem freshPipeline_congr_manager {m m' : ProtocolManager} (h : m.Coherent) (h' : m'.Coherent)
    (hp : m'.protocols = m.protocols) (hb : m'.baseProtocols = m.baseProtocols)
    (u : UserConnection) : freshPipeline m' u = freshPipeline m u := by
  rw [freshPipeline, freshPipeline, h.getPath_fst, h'.getPath_fst, hp, hb]

/-- What would be built is the base followed by registered protocols. -/
theorem freshPipeline_eq {m : ProtocolManager} (h : m.Coherent) (u : UserConnection) :
    ∃ chain, freshPipeline m u = m.baseProtocols ++ chain ∧ ∀ p ∈ chain, m.Registered p := by
  unfold freshPipeline
  split_ifs
  · refine ⟨_, rfl, ?_⟩
    have hr := h.getPath_resolves u.serverProtocol u.clientProtocol
    cases hp : (m.getPath u.serverProtocol u.clientProtocol).1 with
    | none => simp
    | some chain =>
      rw [hp] at hr
      exact hr.1.mem
  · exact ⟨[], (List.append_nil _).symm, by simp⟩

/-- What a connection caches: a fresh pipeline, and registered protocols in the clientbound one. -/
structure Cached (m : ProtocolManager) (c : TrackedConnection) : Prop where
  fresh : Fresh m c
  clientbound : ∀ pipeline, c.clientboundPipeline = some pipeline →
    ∀ p ∈ pipeline, p ∈ m.baseProtocols ∨ m.Registered p

/-- The registry of the plugin: the base protocol, and quiet protocols under it. -/
structure PluginRegistry (serverProtocol : Int) (m : ProtocolManager) : Prop where
  coherent : m.Coherent
  base : m.baseProtocols = [createBaseProtocol serverProtocol]
  quiet : ∀ p, m.Registered p → p.Quiet

theorem PluginRegistry.congr {serverProtocol : Int} {m m' : ProtocolManager}
    (h : PluginRegistry serverProtocol m) (h' : m'.Coherent) (hp : m'.protocols = m.protocols)
    (hb : m'.baseProtocols = m.baseProtocols) : PluginRegistry serverProtocol m' where
  coherent := h'
  base := hb.trans h.base
  quiet p hr := by
    refine h.quiet p ?_
    rw [ProtocolManager.Registered, ProtocolManager.get, hp] at hr
    exact hr

section Invariant

variable {serverProtocol : Int} {m : ProtocolManager} (hm : PluginRegistry serverProtocol m)

include hm

/-- Dispatching a serverbound packet keeps the cached pipeline fresh, unless the packet declares a
version with another pipeline. -/
theorem dispatch_fresh {c : TrackedConnection} (event : PacketEvent)
    (hkeep : event.packetId = PacketId.requestNetworkSettings → 4 ≤ event.payload.length →
      freshPipeline m { c.toUserConnection with clientProtocol := declaredVersion event.payload } =
        freshPipeline m c.toUserConnection) :
    freshPipeline m (dispatch .serverbound event (freshPipeline m c.toUserConnection) event.payload
      c.toUserConnection).2 = freshPipeline m c.toUserConnection := by
  obtain ⟨chain, heq, hreg⟩ := freshPipeline_eq hm.coherent c.toUserConnection
  have hquiet : ∀ p ∈ chain, p.Quiet := fun p hp => hm.quiet p (hreg p hp)
  have hv := dispatch_versions serverProtocol hquiet event c.toUserConnection
  have hpl : freshPipeline m c.toUserConnection = createBaseProtocol serverProtocol :: chain := by
    rw [heq, hm.base]
    rfl
  rw [← hpl] at hv
  rw [freshPipeline_congr hv, afterBase]
  split_ifs with h
  · exact hkeep h.1 h.2
  · rfl

/-- The packet is harmless for a connection that has or gets a pipeline. -/
def Harmless (m : ProtocolManager) (c : UserConnection) (event : PacketEvent) : Prop :=
  event.packetId = PacketId.requestNetworkSettings → 4 ≤ event.payload.length →
    freshPipeline m { c with clientProtocol := declaredVersion event.payload } = freshPipeline m c

omit hm in
theorem Harmless.congr {u u' : UserConnection} {event : PacketEvent} (h : Harmless m u event)
    (hv : SameVersions u u') : Harmless m u' event := by
  intro hid hlen
  rw [freshPipeline_congr hv, ← h hid hlen]
  exact freshPipeline_congr ⟨rfl, hv.2⟩

/-- A connection with a pipeline after a serverbound packet. -/
theorem Cached.dispatch {c : TrackedConnection} (hc : Cached m c) {pipeline : List Protocol}
    (hp : c.protocolPipeline = some pipeline) {event : PacketEvent}
    (hkeep : Harmless m c.toUserConnection event) :
    Cached m { c with toUserConnection :=
      (dispatch .serverbound event pipeline event.payload c.toUserConnection).2 } where
  fresh pipeline' hp' := by
    have heq := hc.fresh pipeline hp
    obtain rfl : pipeline = pipeline' := Option.some.inj (hp.symm.trans hp')
    rw [heq]
    exact (dispatch_fresh hm event hkeep).symm
  clientbound := hc.clientbound

/-- One serverbound packet keeps the cached pipelines of its connection fresh. -/
theorem Cached.receiveOn {c : TrackedConnection} (hc : Cached m c) {event : PacketEvent}
    (hkeep : c.protocolPipeline ≠ none ∨ c.clientProtocol ≠ 0 →
      Harmless m c.toUserConnection event) : Cached m (receiveOn m c event).2.1 := by
  unfold Endweave.receiveOn
  have hres := getPipeline_resolution m c
  cases hr : getPipeline m c with
  | mk result rest =>
  rw [hr] at hres
  cases hres with
  | @cached pipeline hp =>
    exact hc.dispatch hm hp (hkeep (Or.inl (by rw [hp]; simp)))
  | undetected hn hv => exact ⟨fun _ hp => absurd (hn.symm.trans hp) (by simp), hc.clientbound⟩
  | initFailed hn => exact ⟨fun _ hp => absurd (hn.symm.trans hp) (by simp), hc.clientbound⟩
  | sameVersion hn hv hs =>
    have hfresh := getPipeline_fresh hn hr
    have hc' : Cached m { c with protocolPipeline := some m.baseProtocols } :=
      ⟨fun _ hp => (Option.some.inj hp).symm.trans hfresh, hc.clientbound⟩
    exact hc'.dispatch hm rfl (hkeep (Or.inr hv))
  | noChain hn hv hs hp =>
    have hfresh := getPipeline_fresh hn hr
    have hc' : Cached m
        { c with warnedNoChain := true, protocolPipeline := some m.baseProtocols } :=
      ⟨fun _ hp => (Option.some.inj hp).symm.trans hfresh, hc.clientbound⟩
    exact hc'.dispatch hm rfl (hkeep (Or.inr hv))
  | @resolved chain user hn hv hs hp hi =>
    -- `init` runs between the lookup of the chain and the dispatch
    have hfresh := getPipeline_fresh hn hr
    have hreg : ∀ p ∈ chain, m.Registered p := by
      have hpath := hm.coherent.getPath_resolves c.serverProtocol c.clientProtocol
      rw [hp] at hpath
      exact hpath.1.mem
    have hsame : SameVersions c.toUserConnection user := by
      have h := init_sameVersions (fun p hp => hm.quiet p (hreg p hp)) c.toUserConnection
      rw [hi] at h
      exact h
    have hc' : Cached m { c with
        toUserConnection := user
        protocolPipeline := some (m.baseProtocols ++ chain)
        clientboundPipeline := some (m.baseProtocols ++ chain.reverse) } := by
      refine ⟨fun _ hp => ?_, fun _ hp p hmem => ?_⟩
      · rw [freshPipeline_congr hsame, ← hfresh]
        exact (Option.some.inj hp).symm
      · rw [← Option.some.inj hp, List.mem_append, List.mem_reverse] at hmem
        exact hmem.imp id (hreg p)
    exact hc'.dispatch hm rfl ((hkeep (Or.inr hv)).congr hsame)

/-- A clientbound packet keeps the cached pipelines of its connection fresh. -/
theorem Cached.sendOn {c : TrackedConnection} (hc : Cached m c) (event : PacketEvent) :
    Cached m (sendOn c event).2 := by
  unfold Endweave.sendOn
  split_ifs
  · exact hc
  · have hquiet : ∀ p ∈ c.clientboundPipeline.getD [], p.QuietIn .clientbound event.packetId := by
      intro p hp
      cases hcl : c.clientboundPipeline with
      | none =>
        rw [hcl] at hp
        exact absurd hp List.not_mem_nil
      | some pipeline =>
        rw [hcl] at hp
        rcases hc.clientbound pipeline hcl p hp with hb | hr
        · rw [hm.base] at hb
          obtain rfl := List.mem_singleton.mp hb
          exact base_quiet_clientbound serverProtocol event.packetId
        · exact (hm.quiet p hr).handlers _ _
    have hsame := compose_sameVersions hquiet (event.payload, c.toUserConnection)
    rw [← settle_snd event, ← dispatch_eq] at hsame
    refine ⟨fun pipeline hp => ?_, hc.clientbound⟩
    rw [freshPipeline_congr hsame]
    exact hc.fresh pipeline hp

end Invariant

/-! ### Runs -/

theorem Cached.congr {m m' : ProtocolManager} (h : m.Coherent) (h' : m'.Coherent)
    (hp : m'.protocols = m.protocols) (hb : m'.baseProtocols = m.baseProtocols)
    {c : TrackedConnection} (hc : Cached m c) : Cached m' c where
  fresh pipeline hpl := by
    rw [freshPipeline_congr_manager h h' hp hb]
    exact hc.fresh pipeline hpl
  clientbound pipeline hcl p hmem := by
    rw [hb, ProtocolManager.Registered, ProtocolManager.get, hp]
    exact hc.clientbound pipeline hcl p hmem

/-- The invariant of the system: every connection caches fresh pipelines. -/
structure FreshState (serverProtocol : Int) (s : ProxyState) : Prop where
  registry : PluginRegistry serverProtocol s.manager
  connections : AllConnections (Cached s.manager) s

/-- One step keeps every cached pipeline fresh. -/
theorem FreshState.step {serverProtocol : Int} {s : ProxyState} (h : FreshState serverProtocol s)
    {e : Event} (hkeep : KeepsChain s e) : FreshState serverProtocol (step s e).1 := by
  have hco := step_coherent h.registry.coherent e
  obtain ⟨hp, hb⟩ := step_protocols s e
  have hall : AllConnections (Cached s.manager) (Endweave.step s e).1 := by
    refine allConnections_step h.connections e ?_ ?_
    · rintro event rfl
      rw [ConnectionManager.getOrCreate_fst]
      cases hget : s.connections.get event.address with
      | none =>
        -- a new connection: nothing is cached, and nothing is resolved for this packet
        refine Cached.receiveOn h.registry ⟨fun _ hn => ?_, fun _ hn => ?_⟩ ?_
        · cases hn
        · cases hn
        · rintro (hn | hn)
          · exact absurd rfl hn
          · exact absurd rfl hn
      | some c =>
        exact (h.connections _ c hget).receiveOn h.registry
          fun hc hid hlen => hkeep hid hlen c hget hc
    · rintro event c rfl hget
      exact (h.connections _ c hget).sendOn h.registry event
  exact ⟨h.registry.congr hco hp hb,
    fun a c hc => (hall a c hc).congr h.registry.coherent hco hp hb⟩

theorem coherent_start (base : List Protocol) (serverProtocol : Int) (protocols : List Protocol) :
    (start base serverProtocol protocols).manager.Coherent := by
  rw [start_manager]
  suffices h : ∀ m : ProtocolManager, m.Coherent →
      (protocols.foldl ProtocolManager.register m).Coherent from
    h _ (ProtocolManager.coherent_empty base)
  induction protocols with
  | nil => exact fun m hm => hm
  | cons p protocols ih => exact fun m hm => ih _ (hm.register p)

/-- Only given protocols are registered at the start. -/
theorem registered_start {base : List Protocol} {serverProtocol : Int} {protocols : List Protocol}
    {p : Protocol} (h : (start base serverProtocol protocols).manager.Registered p) :
    p ∈ protocols := by
  rw [start_manager] at h
  suffices hfold : ∀ m : ProtocolManager,
      ∀ e ∈ (protocols.foldl ProtocolManager.register m).protocols,
        e.2 ∈ protocols ∨ e ∈ m.protocols by
    rcases hfold _ _ (OrderedDict.mem_of_get? h) with hp | hp
    · exact hp
    · exact absurd hp List.not_mem_nil
  clear h
  induction protocols with
  | nil => exact fun m e he => Or.inr he
  | cons q protocols ih =>
    intro m e he
    rcases ih (m.register q) e he with hp | hp
    · exact Or.inl (List.mem_cons_of_mem _ hp)
    · rcases OrderedDict.mem_insert hp with rfl | hp
      · exact Or.inl (List.mem_cons_self ..)
      · exact Or.inr hp

/-- **Freshness**: let the registered protocols leave the versions of connections alone.  In every
run in which no RequestNetworkSettings declares a version with another pipeline on a connection that
has or gets one, every cached pipeline is the one that would be built now. -/
theorem protocolPipeline_fresh_of_meets (serverProtocol : Int) (protocols : List Protocol)
    (hquiet : ∀ p ∈ protocols, p.Quiet) (es : List Event)
    (h : EventSystem.Meets step KeepsChain
      (start [createBaseProtocol serverProtocol] serverProtocol protocols) es) :
    let s := (EventSystem.run step
      (start [createBaseProtocol serverProtocol] serverProtocol protocols) es).1
    AllConnections (Fresh s.manager) s := by
  have hstart : FreshState serverProtocol
      (start [createBaseProtocol serverProtocol] serverProtocol protocols) := by
    refine ⟨⟨coherent_start .., start_baseProtocols .., fun p hp => hquiet p (registered_start hp)⟩,
      fun a c hc => ?_⟩
    exact absurd hc (by simp [start, ConnectionManager.get])
  have hinv := EventSystem.invariant_of_meets step (I := FreshState serverProtocol)
    (fun s e hs he => hs.step he) hstart h
  exact fun a c hc => (hinv.connections a c hc).fresh

/-- A client of version 944 that sends its version twice. -/
theorem protocolPipeline_fresh_of_meets_again :
    let s := (EventSystem.run step
      (start [createBaseProtocol 924] 924 [Protocol.new 924 944 "" false])
      [settingsFrom [0, 0, 3, 176], settingsFrom [0, 0, 3, 176]]).1
    AllConnections (Fresh s.manager) s := by
  refine protocolPipeline_fresh_of_meets 924 _ ?_ _ ⟨?_, ?_, trivial⟩
  · intro p hp
    obtain rfl := List.mem_singleton.mp hp
    exact ⟨fun _ _ _ hget => absurd hget (by simp [Protocol.new]),
      fun user => SameVersions.refl user⟩
  · intro _ _ c hc
    exact absurd hc (by simp [start, ConnectionManager.get])
  · intro _ _ c hc _
    have hc' : some { address := "a", clientProtocol := 944, serverProtocol := 924 } = some c := hc
    obtain rfl := Option.some.inj hc'
    rfl

/-- **A second RequestNetworkSettings leaves a stale pipeline**: a client that declares version 944,
has its chain resolved and then declares the server's version 924 keeps the chain of 944. -/
theorem protocolPipeline_stale :
    let s := (EventSystem.run step
      (start [createBaseProtocol 924] 924 [Protocol.new 924 944 "" false])
      [settingsFrom [0, 0, 3, 176], settingsFrom [0, 0, 3, 176], settingsFrom [0, 0, 3, 156]]).1
    ¬ AllConnections (Fresh s.manager) s := by
  intro s h
  have hstale := congrArg List.length (h "a" _ rfl _ rfl)
  exact absurd hstale (by decide)

end Endweave
