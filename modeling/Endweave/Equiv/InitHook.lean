import Endweave.Equiv.Isolation
import Endweave.Lib.Acquire

/-!
# Protocols are initialised once and in time

`init_once_in_time`: as long as a connection lasts, the `init` of each protocol is called at most
once, before the first packet goes to the protocol in either direction, and only when the versions
of the connection differ and a chain leads from one to the other.

The functions of the pipeline are repeated here with a record of the calls into the protocols
(`ProtocolCall`); otherwise they do the same (`traceStep_snd`).  The invariant (`Ready`) is that a
cached pipeline holds, behind the base protocols, only protocols that have been initialised.
-/

namespace Endweave

open Wire EventSystem

/-! ### The pipeline with a record of its calls -/

/-- A call of the pipeline into a protocol.  An `init` is recorded with the connection that the
lookup found and with the connection as the inits before it have left it; a `transform` with the
position of the protocol in its pipeline. -/
inductive ProtocolCall where
  | init (protocol : Protocol) (found now : UserConnection)
  | transform (direction : Direction) (position : Nat) (protocol : Protocol)

/-- The loop over the chain in `_get_pipeline`. -/
def traceInits (found : UserConnection) :
    List Protocol → UserConnection →
      List ProtocolCall × EStateM.Result PyException UserConnection Unit
  | [], user => ([], .ok () user)
  | p :: chain, user =>
    match p.init user with
    | .error e user' => ([.init p found user], .error e user')
    | .ok _ user' =>
      (.init p found user :: (traceInits found chain user').1, (traceInits found chain user').2)

/-- `getPipeline` with its calls. -/
def traceGetPipeline (m : ProtocolManager) (connection : TrackedConnection) :
    List ProtocolCall × Except PyException (List Protocol) × TrackedConnection × ProtocolManager :=
  match connection.protocolPipeline with
  | some pipeline => ([], .ok pipeline, connection, m)
  | none =>
    let base := m.baseProtocols
    if connection.clientProtocol = 0 then
      ([], .ok base, connection, m)
    else if !connection.needsTranslation then
      ([], .ok base, { connection with protocolPipeline := some base }, m)
    else
      let (path, m) := m.getPath connection.serverProtocol connection.clientProtocol
      match path with
      | none =>
        ([], .ok base, { connection with warnedNoChain := true, protocolPipeline := some base }, m)
      | some chain =>
        match traceInits connection.toUserConnection chain connection.toUserConnection with
        | (calls, .error e user) =>
          (calls, .error e, { connection with toUserConnection := user }, m)
        | (calls, .ok _ user) =>
          (calls, .ok (base ++ chain),
            { connection with
              toUserConnection := user
              protocolPipeline := some (base ++ chain)
              clientboundPipeline := some (base ++ chain.reverse) }, m)

/-- `dispatch` with its calls, from a position of the pipeline on. -/
def traceDispatch (direction : Direction) (event : PacketEvent) :
    Nat → List Protocol → List UInt8 → UserConnection →
      List ProtocolCall × PacketEvent × UserConnection
  | _, [], payload, user => ([], { event with payload }, user)
  | position, protocol :: pipeline, payload, user =>
    if !protocol.hasHandlerOrCancel direction event.packetId then
      traceDispatch direction event (position + 1) pipeline payload user
    else
      let call := .transform direction position protocol
      match protocol.transform direction event.packetId (PacketWrapper.ofPayload payload user) with
      | .error _ wrapper => ([call], event.cancel, wrapper.user)
      | .ok _ wrapper =>
        if wrapper.cancelled then ([call], event.cancel, wrapper.user)
        else
          let rest := traceDispatch direction event (position + 1) pipeline wrapper.toBytes
            wrapper.user
          (call :: rest.1, rest.2)

/-- `receiveOn` with its calls. -/
def traceReceiveOn (m : ProtocolManager) (c : TrackedConnection) (event : PacketEvent) :
    List ProtocolCall × Answer × TrackedConnection × ProtocolManager :=
  match traceGetPipeline m c with
  | (calls, .error e, c, m) => (calls, .raised e, c, m)
  | (calls, .ok pipeline, c, m) =>
    let r := traceDispatch .serverbound event 0 pipeline event.payload c.toUserConnection
    (calls ++ r.1, .packet r.2.1, { c with toUserConnection := r.2.2 }, m)

/-- `sendOn` with its calls. -/
def traceSendOn (c : TrackedConnection) (event : PacketEvent) :
    List ProtocolCall × Answer × TrackedConnection :=
  if c.protocolPipeline.isNone then ([], .packet event, c)
  else
    let r := traceDispatch .clientbound event 0 (c.clientboundPipeline.getD []) event.payload
      c.toUserConnection
    (r.1, .packet r.2.1, { c with toUserConnection := r.2.2 })

/-- `step` with its calls. -/
def traceStep (s : ProxyState) : Event → List ProtocolCall × ProxyState × Answer
  | .receive event =>
    let (connection, connections) := s.connections.getOrCreate event.address
    let r := traceReceiveOn s.manager connection event
    (r.1, { manager := r.2.2.2, connections := connections.put event.address r.2.2.1 }, r.2.1)
  | .send event =>
    match s.connections.get event.address with
    | none => ([], s, .packet event)
    | some c =>
      let r := traceSendOn c event
      (r.1,
        if c.protocolPipeline.isNone then s
        else { s with connections := s.connections.put event.address r.2.2 },
        r.2.1)
  | .removeByAddress address =>
    ([], { s with connections := s.connections.removeByAddress address }, .removed)
  | .removeByPlayer playerAddress =>
    ([], { s with connections := s.connections.removeByPlayer playerAddress }, .removed)

/-- The calls that an event makes for the connection of an address. -/
def callsOn (a : String) (s : ProxyState) (e : Event) : List ProtocolCall :=
  if e.address = a then (traceStep s e).1 else []

/-! ### The record changes nothing -/

theorem traceInits_snd (found : UserConnection) (chain : List Protocol) (user : UserConnection) :
    (traceInits found chain user).2 = each Protocol.init chain user := by
  induction chain generalizing user with
  | nil => rfl
  | cons p chain ih =>
    unfold traceInits each
    cases hp : p.init user with
    | error e user' => rw [bind_error hp]
    | ok _ user' =>
      rw [bind_ok hp]
      exact ih user'

theorem traceGetPipeline_snd (m : ProtocolManager) (c : TrackedConnection) :
    (traceGetPipeline m c).2 = getPipeline m c := by
  unfold traceGetPipeline getPipeline
  cases c.protocolPipeline with
  | some pipeline => rfl
  | none =>
    simp only
    split_ifs
    · rfl
    · rfl
    · cases (m.getPath c.serverProtocol c.clientProtocol).1 with
      | none => rfl
      | some chain =>
        have hinits := traceInits_snd c.toUserConnection chain c.toUserConnection
        simp only
        rw [← hinits]
        rcases traceInits c.toUserConnection chain c.toUserConnection with ⟨calls, _ | _⟩ <;> rfl

theorem traceDispatch_snd (direction : Direction) (event : PacketEvent) (position : Nat)
    (pipeline : List Protocol) (payload : List UInt8) (user : UserConnection) :
    (traceDispatch direction event position pipeline payload user).2 =
      dispatch direction event pipeline payload user := by
  induction pipeline generalizing position payload user with
  | nil => rfl
  | cons p pipeline ih =>
    unfold traceDispatch dispatch
    split_ifs
    · exact ih ..
    · cases p.transform direction event.packetId (PacketWrapper.ofPayload payload user) with
      | error e wrapper => rfl
      | ok _ wrapper =>
        simp only
        split_ifs
        · rfl
        · exact ih ..

theorem traceReceiveOn_snd (m : ProtocolManager) (c : TrackedConnection) (event : PacketEvent) :
    (traceReceiveOn m c event).2 = receiveOn m c event := by
  have hpipeline := traceGetPipeline_snd m c
  unfold traceReceiveOn receiveOn
  rw [← hpipeline]
  rcases traceGetPipeline m c with ⟨calls, e | pipeline, c', m'⟩
  · rfl
  · simp only [traceDispatch_snd]

theorem traceSendOn_snd (c : TrackedConnection) (event : PacketEvent) :
    (traceSendOn c event).2 = sendOn c event := by
  unfold traceSendOn sendOn
  split_ifs
  · rfl
  · simp only [traceDispatch_snd]

theorem traceStep_snd (s : ProxyState) (e : Event) : (traceStep s e).2 = step s e := by
  cases e with
  | receive event =>
    simp only [step_receive, ← traceReceiveOn_snd]
    rfl
  | send event =>
    rw [step_send]
    simp only [traceStep]
    cases s.connections.get event.address with
    | none => rfl
    | some c =>
      simp only [← traceSendOn_snd]
      split_ifs with hp
      -- a connection without a pipeline is not put back, as in the source
      · rw [traceSendOn, if_pos hp]
      · rfl
  | removeByAddress address => rfl
  | removeByPlayer playerAddress => rfl

/-! ### The calls of one event -/

/-- The protocol that a call initialises. -/
def ProtocolCall.initialises : ProtocolCall → Option Protocol
  | init p _ _ => some p
  | transform .. => none

/-- The protocol of the version chain that a call hands a packet to.  The first `n` positions of a
pipeline are those of the base protocols. -/
def ProtocolCall.handsTo (n : Nat) : ProtocolCall → Option Protocol
  | init .. => none
  | transform _ position p => if n ≤ position then some p else none

/-- The protocols that a history initialises, in order. -/
def inits (history : List ProtocolCall) : List Protocol :=
  acquired ProtocolCall.initialises history

/-- After `done`, nothing is initialised twice and no packet goes to a protocol of the chain that is
not initialised. -/
abbrev Timed (n : Nat) (done : Set Protocol) (history : List ProtocolCall) : Prop :=
  Orderly ProtocolCall.initialises (ProtocolCall.handsTo n) done history

theorem mem_traceInits {found : UserConnection} {chain : List Protocol} {user : UserConnection} :
    ∀ x ∈ (traceInits found chain user).1, ∃ p now, x = .init p found now ∧ p ∈ chain := by
  induction chain generalizing user with
  | nil => exact fun x hx => absurd hx List.not_mem_nil
  | cons p chain ih =>
    unfold traceInits
    cases hp : p.init user with
    | error e user' =>
      rw [List.forall_mem_singleton]
      exact ⟨p, user, rfl, List.mem_cons_self ..⟩
    | ok _ user' =>
      rw [List.forall_mem_cons]
      refine ⟨⟨p, user, rfl, List.mem_cons_self ..⟩, fun x hx => ?_⟩
      obtain ⟨q, now, rfl, hq⟩ := ih x hx
      exact ⟨q, now, rfl, List.mem_cons_of_mem _ hq⟩

/-- Inits that return have all been called, in the order of the chain. -/
theorem inits_traceInits {found : UserConnection} {chain : List Protocol}
    {user user' : UserConnection} (h : each Protocol.init chain user = .ok () user') :
    inits (traceInits found chain user).1 = chain := by
  induction chain generalizing user with
  | nil => rfl
  | cons p chain ih =>
    obtain ⟨_, user₁, hp, hrest⟩ := bind_eq_ok h
    unfold traceInits
    rw [hp]
    simp only [inits, acquired, List.filterMap_cons, ProtocolCall.initialises]
    exact congrArg (p :: ·) (ih hrest)

/-- A packet goes to the protocols of the pipeline only, each at its position. -/
theorem mem_traceDispatch {direction : Direction} {event : PacketEvent} {position : Nat}
    {pipeline : List Protocol} {payload : List UInt8} {user : UserConnection} :
    ∀ x ∈ (traceDispatch direction event position pipeline payload user).1,
      ∃ i p, x = .transform direction (position + i) p ∧ pipeline[i]? = some p := by
  induction pipeline generalizing position payload user with
  | nil => exact fun x hx => absurd hx List.not_mem_nil
  | cons p pipeline ih =>
    -- a call further on is one position further on
    have hlater : ∀ {payload user}, ∀ x ∈ (traceDispatch direction event (position + 1) pipeline
        payload user).1, ∃ i q, x = .transform direction (position + i) q ∧
          (p :: pipeline)[i]? = some q := by
      intro payload user x hx
      obtain ⟨i, q, rfl, hq⟩ := ih x hx
      exact ⟨i + 1, q, by rw [Nat.add_assoc, Nat.add_comm 1 i], hq⟩
    have hfirst : ∃ i q, ProtocolCall.transform direction position p =
        .transform direction (position + i) q ∧ (p :: pipeline)[i]? = some q := ⟨0, p, rfl, rfl⟩
    unfold traceDispatch
    split_ifs
    · exact hlater
    · cases p.transform direction event.packetId (PacketWrapper.ofPayload payload user) with
      | error e wrapper =>
        rw [List.forall_mem_singleton]
        exact hfirst
      | ok _ wrapper =>
        simp only
        split_ifs
        · rw [List.forall_mem_singleton]
          exact hfirst
        · rw [List.forall_mem_cons]
          exact ⟨hfirst, hlater⟩

/-- Handing a packet to initialised protocols. -/
theorem timed_traceDispatch {n : Nat} {done : Set Protocol} {pipeline : List Protocol}
    (direction : Direction) (event : PacketEvent) (payload : List UInt8) (user : UserConnection)
    (h : ∀ p ∈ pipeline.drop n, p ∈ done) :
    Timed n done (traceDispatch direction event 0 pipeline payload user).1 ∧
      inits (traceDispatch direction event 0 pipeline payload user).1 = [] := by
  apply orderly_of_uses
  · intro x hx
    obtain ⟨i, p, rfl, _⟩ := mem_traceDispatch x hx
    rfl
  · intro x hx p hp
    obtain ⟨i, q, rfl, hq⟩ := mem_traceDispatch x hx
    rw [ProtocolCall.handsTo, Nat.zero_add] at hp
    split_ifs at hp with hn
    obtain rfl := Option.some.inj hp
    have hdrop : (pipeline.drop n)[i - n]? = some q := by
      rw [List.getElem?_drop, Nat.add_sub_cancel' hn, hq]
    exact h q (List.mem_of_getElem? hdrop)

/-- Where there is a pipeline or no chain to resolve, no protocol is called. -/
theorem traceGetPipeline_fst {m : ProtocolManager} {c : TrackedConnection}
    (h : c.protocolPipeline ≠ none ∨ c.clientProtocol = 0 ∨ c.clientProtocol = c.serverProtocol ∨
      (m.getPath c.serverProtocol c.clientProtocol).1 = none) :
    (traceGetPipeline m c).1 = [] := by
  unfold traceGetPipeline
  cases hc : c.protocolPipeline with
  | some pipeline => rfl
  | none =>
    simp only
    split_ifs with hv hn
    · rfl
    · rfl
    · have hnone : (m.getPath c.serverProtocol c.clientProtocol).1 = none := by
        rcases h with h | h | h | h
        · exact absurd hc h
        · exact absurd h hv
        · exact absurd (by simp [UserConnection.needsTranslation, h]) hn
        · exact h
      rw [hnone]

/-- Where a chain is found, its protocols are initialised. -/
theorem traceGetPipeline_fst_chain {m : ProtocolManager} {c : TrackedConnection}
    {chain : List Protocol} (h : c.protocolPipeline = none) (hv : c.clientProtocol ≠ 0)
    (hs : c.clientProtocol ≠ c.serverProtocol)
    (hp : (m.getPath c.serverProtocol c.clientProtocol).1 = some chain) :
    (traceGetPipeline m c).1 = (traceInits c.toUserConnection chain c.toUserConnection).1 := by
  have hneeds : ¬ (!c.needsTranslation) = true := by simp [UserConnection.needsTranslation, hv, hs]
  unfold traceGetPipeline
  simp only [h, hp, if_neg hv, if_neg hneeds]
  rcases traceInits c.toUserConnection chain c.toUserConnection with ⟨calls, _ | _⟩ <;> rfl

/-! ### The invariant -/

/-- Where nothing is cached nothing is initialised, and where something is cached, what is behind
the first `n` protocols is. -/
structure Ready (n : Nat) (done : Set Protocol) (c : TrackedConnection) : Prop where
  unresolved : c.protocolPipeline = none → done = ∅
  resolved : ∀ pipeline,
    c.protocolPipeline = some pipeline ∨ c.clientboundPipeline = some pipeline →
      ∀ p ∈ pipeline.drop n, p ∈ done

theorem Ready.congr {n : Nat} {done : Set Protocol} {c c' : TrackedConnection}
    (h : Ready n done c) (hp : c'.protocolPipeline = c.protocolPipeline)
    (hc : c'.clientboundPipeline = c.clientboundPipeline) : Ready n done c' where
  unresolved hn := h.unresolved (hp.symm.trans hn)
  resolved pipeline hpl := h.resolved pipeline (by rwa [hp, hc] at hpl)

section Receive

variable {m : ProtocolManager} {c : TrackedConnection} {done : Set Protocol}

/-- The chain of a connection has no protocol twice. -/
theorem nodup_getPath (hm : m.Coherent) {server client : Int} {chain : List Protocol}
    (hp : (m.getPath server client).1 = some chain) : chain.Nodup := by
  have hresolves := hm.getPath_resolves server client
  rw [hp] at hresolves
  have hnodup := (List.nodup_cons.mp hresolves.2.2.1).2
  exact List.Nodup.of_map _ hnodup

/-- What has been initialised once a pipeline has been resolved. -/
def initialised (m : ProtocolManager) (c : TrackedConnection) (done : Set Protocol) :
    Set Protocol :=
  done ∪ {p | p ∈ inits (traceGetPipeline m c).1}

theorem initialised_of_nil (h : (traceGetPipeline m c).1 = []) : initialised m c done = done := by
  unfold initialised
  rw [h]
  simp [inits, acquired]

/-- Resolving a pipeline initialises what is behind the base protocols, unless an init raises. -/
theorem Ready.getPipeline (hm : m.Coherent) (h : Ready m.baseProtocols.length done c)
    {pipeline : List Protocol} {c' : TrackedConnection} {m' : ProtocolManager}
    (hok : Endweave.getPipeline m c = (.ok pipeline, c', m')) :
    Timed m.baseProtocols.length done (traceGetPipeline m c).1 ∧
      Ready m.baseProtocols.length (initialised m c done) c' ∧
      ∀ p ∈ pipeline.drop m.baseProtocols.length, p ∈ initialised m c done := by
  have hres := getPipeline_resolution m c
  rw [hok] at hres
  have hbase : ∀ p ∈ m.baseProtocols.drop m.baseProtocols.length, p ∈ done := by
    rw [List.drop_length]
    exact fun p hp => absurd hp List.not_mem_nil
  -- a cached pipeline with nothing behind the base protocols
  have hcached : ∀ c'' : TrackedConnection, c''.protocolPipeline = some m.baseProtocols →
      c''.clientboundPipeline = c.clientboundPipeline → Ready m.baseProtocols.length done c'' := by
    intro c'' hp hc
    refine ⟨fun hn => absurd (hp.symm.trans hn) (by simp), fun pipeline' hpl => ?_⟩
    rcases hpl with hpl | hpl
    · obtain rfl := Option.some.inj (hp.symm.trans hpl)
      exact hbase
    · exact h.resolved pipeline' (Or.inr (hc.symm.trans hpl))
  cases hres with
  | cached hp =>
    have hnil : (traceGetPipeline m c).1 = [] := traceGetPipeline_fst (Or.inl (by simp [hp]))
    rw [initialised_of_nil hnil, hnil]
    exact ⟨trivial, h, h.resolved pipeline (Or.inl hp)⟩
  | undetected hn hv =>
    have hnil : (traceGetPipeline m c).1 = [] := traceGetPipeline_fst (Or.inr (Or.inl hv))
    rw [initialised_of_nil hnil, hnil]
    exact ⟨trivial, h, hbase⟩
  | sameVersion hn hv hs =>
    have hnil : (traceGetPipeline m c).1 = [] :=
      traceGetPipeline_fst (Or.inr (Or.inr (Or.inl hs)))
    rw [initialised_of_nil hnil, hnil]
    exact ⟨trivial, hcached _ rfl rfl, hbase⟩
  | noChain hn hv hs hp =>
    have hnil : (traceGetPipeline m c).1 = [] :=
      traceGetPipeline_fst (Or.inr (Or.inr (Or.inr hp)))
    rw [initialised_of_nil hnil, hnil]
    exact ⟨trivial, hcached _ rfl rfl, hbase⟩
  | @resolved chain user hn hv hs hp hi =>
    -- nothing was initialised before, and now the chain is
    have hcalls := traceGetPipeline_fst_chain hn hv hs hp
    have hinits : inits (traceGetPipeline m c).1 = chain := by
      rw [hcalls]
      exact inits_traceInits hi
    have hdone := h.unresolved hn
    have hall : initialised m c done = {p | p ∈ chain} := by
      rw [initialised, hinits, hdone, Set.empty_union]
    have huses : ∀ x ∈ (traceGetPipeline m c).1,
        x.handsTo m.baseProtocols.length = none := by
      rw [hcalls]
      intro x hx
      obtain ⟨p, now, rfl, _⟩ := mem_traceInits x hx
      rfl
    have hnodup : (inits (traceGetPipeline m c).1).Nodup := by
      rw [hinits]
      exact nodup_getPath hm hp
    rw [hall]
    refine ⟨?_, ⟨fun hnone => ?_, fun pipeline' hpl => ?_⟩, ?_⟩
    · apply orderly_of_acquires huses hnodup
      rw [hdone]
      exact fun p _ => Set.notMem_empty p
    · exact absurd hnone (by simp)
    · rcases hpl with hpl | hpl
      · obtain rfl := Option.some.inj hpl
        rw [List.drop_left]
        exact fun p hp => hp
      · obtain rfl := Option.some.inj hpl
        rw [List.drop_left]
        exact fun p hp => List.mem_reverse.mp hp
    · rw [List.drop_left]
      exact fun p hp => hp

/-- A serverbound packet keeps a connection ready, unless an init raises. -/
theorem Ready.receiveOn (hm : m.Coherent) (h : Ready m.baseProtocols.length done c)
    {event : PacketEvent} (hok : ∀ e, (Endweave.receiveOn m c event).1 ≠ .raised e) :
    Timed m.baseProtocols.length done (traceReceiveOn m c event).1 ∧
      Ready m.baseProtocols.length (done ∪ {p | p ∈ inits (traceReceiveOn m c event).1})
        (Endweave.receiveOn m c event).2.1 := by
  have hsnd := traceGetPipeline_snd m c
  unfold Endweave.receiveOn at hok ⊢
  unfold traceReceiveOn
  cases hr : Endweave.getPipeline m c with
  | mk result rest =>
  obtain ⟨c', m'⟩ := rest
  rw [hr] at hok hsnd
  cases result with
  | error e => exact absurd rfl (hok e)
  | ok pipeline =>
    obtain ⟨htimed, hready, huses⟩ := h.getPipeline hm hr
    unfold initialised at hready huses
    rcases htrace : traceGetPipeline m c with ⟨calls, rest⟩
    rw [htrace] at hsnd htimed hready huses
    obtain rfl : rest = (.ok pipeline, c', m') := hsnd
    obtain ⟨hdispatch, hnil⟩ :=
      timed_traceDispatch .serverbound event event.payload c'.toUserConnection huses
    have hinits : inits (calls ++ (traceDispatch .serverbound event 0 pipeline event.payload
        c'.toUserConnection).1) = inits calls := by
      rw [inits, acquired_append]
      exact (congrArg (inits calls ++ ·) hnil).trans (List.append_nil _)
    simp only
    rw [hinits]
    exact ⟨orderly_append.mpr ⟨htimed, hdispatch⟩, hready.congr rfl rfl⟩

/-- A clientbound packet keeps a connection ready, and initialises nothing. -/
theorem Ready.sendOn {n : Nat} (h : Ready n done c) (event : PacketEvent) :
    Timed n done (traceSendOn c event).1 ∧ inits (traceSendOn c event).1 = [] ∧
      Ready n done (Endweave.sendOn c event).2 := by
  obtain ⟨hp, hc⟩ := sendOn_pipelines c event
  have hready := h.congr hp hc
  unfold traceSendOn
  split_ifs
  · exact ⟨trivial, rfl, hready⟩
  · have huses : ∀ p ∈ (c.clientboundPipeline.getD []).drop n, p ∈ done := by
      cases hpl : c.clientboundPipeline with
      | none => simp
      | some pipeline => exact h.resolved pipeline (Or.inr hpl)
    obtain ⟨htimed, hnil⟩ :=
      timed_traceDispatch .clientbound event event.payload c.toUserConnection huses
    exact ⟨htimed, hnil, hready⟩

end Receive

/-! ### Runs -/

/-- The event leaves the connection of the address in place, and no init raises on it. -/
def Lasts (a : String) (s : ProxyState) : Event → Prop
  | .receive event => event.address = a → ∀ e, (step s (.receive event)).2 ≠ .raised e
  | .send _ => True
  | .removeByAddress address => address ≠ a
  | .removeByPlayer playerAddress => playerAddress ≠ a

/-- The state of the invariant: the registry is intact, and the connection of the address, which is
created on first use, is ready. -/
structure Tracks (a : String) (base : List Protocol) (done : Set Protocol) (s : ProxyState) :
    Prop where
  coherent : s.manager.Coherent
  baseProtocols : s.manager.baseProtocols = base
  ready : Ready base.length done (s.connections.getOrCreate a).1

section Tracks

variable {a : String} {base : List Protocol} {done : Set Protocol} {s : ProxyState}

/-- A step that leaves the connection of the address alone. -/
theorem Tracks.step_of_get (h : Tracks a base done s) {e : Event}
    (hget : (step s e).1.connections.get a = s.connections.get a) :
    Tracks a base done (step s e).1 where
  coherent := step_coherent h.coherent e
  baseProtocols := (step_protocols s e).2.trans h.baseProtocols
  ready := by
    have hready := h.ready
    rw [ConnectionManager.getOrCreate_fst] at hready ⊢
    rwa [hget, step_serverProtocol]

/-- A step that stores a connection of the address. -/
theorem Tracks.step_of_put (h : Tracks a base done s) {e : Event} {done' : Set Protocol}
    {c : TrackedConnection} (hget : (step s e).1.connections.get a = some c)
    (hc : Ready base.length done' c) : Tracks a base done' (step s e).1 where
  coherent := step_coherent h.coherent e
  baseProtocols := (step_protocols s e).2.trans h.baseProtocols
  ready := by
    rw [ConnectionManager.getOrCreate_fst, hget]
    exact hc

/-- An event that initialises nothing and after which the connection is as ready as before. -/
theorem Tracks.of_inits_nil {s' : ProxyState} {history : List ProtocolCall}
    (h : Tracks a base done s') (hnil : inits history = []) :
    Tracks a base (done ∪ {p | p ∈ inits history}) s' := by
  rw [hnil]
  simpa using h

/-- A serverbound packet of the connection. -/
theorem Tracks.receive (h : Tracks a base done s) {event : PacketEvent} (ha : event.address = a)
    (hlasts : Lasts a s (.receive event)) :
    Timed base.length done (callsOn a s (.receive event)) ∧
      Tracks a base (done ∪ {p | p ∈ inits (callsOn a s (.receive event))})
        (step s (.receive event)).1 := by
  have hcalls : callsOn a s (.receive event) =
      (traceReceiveOn s.manager (s.connections.getOrCreate a).1 event).1 := by
    subst ha
    exact if_pos rfl
  have hok : ∀ e, (receiveOn s.manager (s.connections.getOrCreate a).1 event).1 ≠ .raised e := by
    have hanswer := hlasts ha
    rw [step_receive] at hanswer
    rwa [ha] at hanswer
  have hready := h.ready
  rw [← h.baseProtocols] at hready
  obtain ⟨htimed, hready'⟩ := hready.receiveOn h.coherent hok
  rw [h.baseProtocols] at htimed hready'
  rw [hcalls]
  refine ⟨htimed, h.step_of_put ?_ hready'⟩
  rw [step_receive, ha]
  exact ConnectionManager.get_put_self ..

/-- A clientbound packet of the connection. -/
theorem Tracks.send (h : Tracks a base done s) {event : PacketEvent} (ha : event.address = a) :
    Timed base.length done (callsOn a s (.send event)) ∧
      Tracks a base (done ∪ {p | p ∈ inits (callsOn a s (.send event))})
        (step s (.send event)).1 := by
  subst ha
  cases hget : s.connections.get event.address with
  | none =>
    have hcalls : callsOn event.address s (.send event) = [] := by
      simp [callsOn, Event.address, traceStep, hget]
    have hstep : (step s (.send event)).1 = s := by
      rw [step_send, hget]
    rw [hcalls, hstep]
    exact ⟨trivial, h.of_inits_nil rfl⟩
  | some c =>
    have hcalls : callsOn event.address s (.send event) = (traceSendOn c event).1 := by
      simp [callsOn, Event.address, traceStep, hget]
    have hready := h.ready
    rw [ConnectionManager.getOrCreate_fst, hget] at hready
    obtain ⟨htimed, hnil, hready'⟩ := hready.sendOn event
    rw [hcalls]
    refine ⟨htimed, Tracks.of_inits_nil ?_ hnil⟩
    by_cases hp : c.protocolPipeline.isNone = true
    · -- before the handshake nothing is stored
      have hstep : (step s (.send event)).1 = s := by
        rw [step_send, hget]
        simp only [hp, if_true]
      rw [hstep]
      exact h
    · apply h.step_of_put _ hready'
      rw [step_send, hget]
      simp only [hp]
      exact ConnectionManager.get_put_self ..

/-- One event on a connection that lasts. -/
theorem Tracks.step (h : Tracks a base done s) {e : Event} (hlasts : Lasts a s e) :
    Timed base.length done (callsOn a s e) ∧
      Tracks a base (done ∪ {p | p ∈ inits (callsOn a s e)}) (Endweave.step s e).1 := by
  by_cases ha : e.address = a
  · cases e with
    | receive event => exact h.receive ha hlasts
    | send event => exact h.send ha
    | removeByAddress address => exact absurd ha hlasts
    | removeByPlayer playerAddress => exact absurd ha hlasts
  · -- another connection
    rw [callsOn, if_neg ha]
    exact ⟨trivial, (h.step_of_get (step_get_of_ne ha s)).of_inits_nil rfl⟩

end Tracks

/-! ### When an init is called -/

/-- Protocols are called by the lookup only where it resolves a chain. -/
theorem mem_traceGetPipeline {m : ProtocolManager} {c : TrackedConnection} {x : ProtocolCall}
    (hx : x ∈ (traceGetPipeline m c).1) :
    c.clientProtocol ≠ 0 ∧ c.clientProtocol ≠ c.serverProtocol ∧
      ∃ chain, (m.getPath c.serverProtocol c.clientProtocol).1 = some chain ∧
        x ∈ (traceInits c.toUserConnection chain c.toUserConnection).1 := by
  by_cases h : c.protocolPipeline ≠ none ∨ c.clientProtocol = 0 ∨
      c.clientProtocol = c.serverProtocol ∨ (m.getPath c.serverProtocol c.clientProtocol).1 = none
  · rw [traceGetPipeline_fst h] at hx
    exact absurd hx List.not_mem_nil
  · simp only [not_or, ne_eq, not_not] at h
    obtain ⟨hn, hv, hs, hp⟩ := h
    obtain ⟨chain, hchain⟩ := Option.ne_none_iff_exists'.mp hp
    rw [traceGetPipeline_fst_chain hn hv hs hchain] at hx
    exact ⟨hv, hs, chain, hchain, hx⟩

/-- An init that a serverbound packet causes is one of the lookup. -/
theorem init_mem_traceReceiveOn {m : ProtocolManager} {c : TrackedConnection} {event : PacketEvent}
    {p : Protocol} {found now : UserConnection}
    (h : .init p found now ∈ (traceReceiveOn m c event).1) :
    .init p found now ∈ (traceGetPipeline m c).1 := by
  unfold traceReceiveOn at h
  rcases htrace : traceGetPipeline m c with ⟨calls, e | pipeline, c', m'⟩
  · rw [htrace] at h
    exact h
  · rw [htrace] at h
    rcases List.mem_append.mp h with h | h
    · exact h
    · obtain ⟨i, q, hq, _⟩ := mem_traceDispatch _ h
      cases hq

/-- A clientbound packet goes to handlers only. -/
theorem init_notMem_traceSendOn {c : TrackedConnection} {event : PacketEvent} {p : Protocol}
    {found now : UserConnection} : .init p found now ∉ (traceSendOn c event).1 := by
  intro h
  unfold traceSendOn at h
  split_ifs at h
  · exact absurd h List.not_mem_nil
  · obtain ⟨i, q, hq, _⟩ := mem_traceDispatch _ h
    cases hq

theorem init_mem_callsOn {a : String} {s : ProxyState} {e : Event} {p : Protocol}
    {found now : UserConnection} (h : .init p found now ∈ callsOn a s e) :
    .init p found now ∈ (traceGetPipeline s.manager (s.connections.getOrCreate a).1).1 := by
  unfold callsOn at h
  split_ifs at h with ha
  · subst ha
    cases e with
    | receive event => exact init_mem_traceReceiveOn h
    | send event =>
      simp only [traceStep] at h
      split at h
      · exact absurd h List.not_mem_nil
      · exact absurd h init_notMem_traceSendOn
    | removeByAddress address => exact absurd h List.not_mem_nil
    | removeByPlayer playerAddress => exact absurd h List.not_mem_nil
  · exact absurd h List.not_mem_nil

/-- The inits of a chain see the versions the lookup has found, if they leave them alone. -/
theorem sameVersions_traceInits {found user : UserConnection} {chain : List Protocol}
    (hquiet : ∀ p ∈ chain, ∀ user, SameVersions user (final (p.init user)))
    (hfound : SameVersions found user) :
    ∀ p f now, .init p f now ∈ (traceInits found chain user).1 → SameVersions f now := by
  induction chain generalizing user with
  | nil => exact fun p f now h => absurd h List.not_mem_nil
  | cons q chain ih =>
    intro p f now h
    have hq := hquiet q (List.mem_cons_self ..) user
    unfold traceInits at h
    cases hr : q.init user with
    | error e user' =>
      rw [hr] at h
      obtain ⟨_, rfl, rfl⟩ := ProtocolCall.init.inj (List.mem_singleton.mp h)
      exact hfound
    | ok _ user' =>
      rw [hr] at h hq
      rcases List.mem_cons.mp h with h | h
      · obtain ⟨_, rfl, rfl⟩ := ProtocolCall.init.inj h
        exact hfound
      · have hchain : ∀ p ∈ chain, ∀ user, SameVersions user (final (p.init user)) :=
          fun p hp => hquiet p (List.mem_cons_of_mem _ hp)
        exact ih hchain (hfound.trans hq) p f now h

/-! ### The hook -/

section Hook

variable (base : List Protocol) (serverProtocol : Int) (protocols : List Protocol)

/-- The registry as it was at the start, up to its path cache. -/
structure SameAsStart (s : ProxyState) : Prop where
  coherent : s.manager.Coherent
  protocols : s.manager.protocols = (start base serverProtocol protocols).manager.protocols
  baseProtocols : s.manager.baseProtocols = base

theorem sameAsStart_step {s : ProxyState} (h : SameAsStart base serverProtocol protocols s)
    (e : Event) : SameAsStart base serverProtocol protocols (step s e).1 where
  coherent := step_coherent h.coherent e
  protocols := (step_protocols s e).1.trans h.protocols
  baseProtocols := (step_protocols s e).2.trans h.baseProtocols

theorem sameAsStart_start :
    SameAsStart base serverProtocol protocols (start base serverProtocol protocols) where
  coherent := coherent_start ..
  protocols := rfl
  baseProtocols := start_baseProtocols ..

/-- What the lookup has found when it calls an init, in the registry of the start. -/
def Found : ProtocolCall → Prop
  | .init p found now => found.clientProtocol ≠ 0 ∧ found.clientProtocol ≠ found.serverProtocol ∧
      ∃ chain, ((start base serverProtocol protocols).manager.getPath found.serverProtocol
        found.clientProtocol).1 = some chain ∧ .init p found now ∈ (traceInits found chain found).1
  | .transform .. => True

theorem found_callsOn {a : String} {s : ProxyState} {e : Event}
    (h : SameAsStart base serverProtocol protocols s) :
    ∀ x ∈ callsOn a s e, Found base serverProtocol protocols x := by
  intro x hx
  cases x with
  | transform direction i p => trivial
  | init p found now =>
    obtain ⟨hv, hs, chain, hchain, hmem⟩ := mem_traceGetPipeline (init_mem_callsOn hx)
    obtain ⟨_, _, hinit, _⟩ := mem_traceInits _ hmem
    obtain ⟨_, rfl, _⟩ := ProtocolCall.init.inj hinit
    refine ⟨hv, hs, chain, ?_, hmem⟩
    rw [(coherent_start ..).getPath_fst, ← h.protocols, ← h.coherent.getPath_fst]
    exact hchain

/-- **Protocols are initialised once and in time.**  Let a run of the plugin have come to a state in
which an address has no connection.  While the next connection of the address lasts and no init
raises on it, each `init` is called at most once; no packet goes to a protocol of the chain before
its `init`; and an `init` is called only if the lookup has found two different versions, both known,
and a chain with the protocol.  They are the versions at the call too, if inits leave them alone.
The calls are recorded by a step that answers as `step` does. -/
theorem init_once_in_time (past es : List Event) (a : String)
    (hnew : (run step (start base serverProtocol protocols) past).1.connections.get a = none)
    (hlasts : Meets step (Lasts a) (run step (start base serverProtocol protocols) past).1 es) :
    let calls := history step (callsOn a) (run step (start base serverProtocol protocols) past).1 es
    (inits calls).Nodup ∧
    (∀ earlier direction i p later, calls = earlier ++ .transform direction i p :: later →
      base.length ≤ i → p ∈ inits earlier) ∧
    (∀ p found now, .init p found now ∈ calls →
      found.clientProtocol ≠ 0 ∧ found.clientProtocol ≠ found.serverProtocol ∧
        ∃ chain, ((start base serverProtocol protocols).manager.getPath found.serverProtocol
          found.clientProtocol).1 = some chain ∧ p ∈ chain) ∧
    ((∀ p ∈ protocols, ∀ user, SameVersions user (final (p.init user))) →
      ∀ p found now, .init p found now ∈ calls → SameVersions found now) ∧
    ∀ s e, (traceStep s e).2 = step s e := by
  intro calls
  have hpast : SameAsStart base serverProtocol protocols
      (run step (start base serverProtocol protocols) past).1 :=
    invariant step (I := SameAsStart base serverProtocol protocols)
      (fun _ e h => sameAsStart_step base serverProtocol protocols h e) (sameAsStart_start ..) past
  have hready : Tracks a base ∅ (run step (start base serverProtocol protocols) past).1 := by
    refine ⟨hpast.coherent, hpast.baseProtocols, ?_⟩
    rw [ConnectionManager.getOrCreate_fst, hnew]
    exact ⟨fun _ => rfl, fun pipeline h => by simp at h⟩
  have htimed : Timed base.length ∅ calls :=
    orderly_history step (fun _ _ _ h hl => h.step hl) hready hlasts
  have hemits : ∀ s e, SameAsStart base serverProtocol protocols s →
      ∀ x ∈ callsOn a s e, Found base serverProtocol protocols x :=
    fun s e h => found_callsOn base serverProtocol protocols h
  have hfound : ∀ x ∈ calls, Found base serverProtocol protocols x :=
    forall_mem_history step (fun _ e h => sameAsStart_step base serverProtocol protocols h e)
      hemits hpast es
  refine ⟨htimed.nodup.1, ?_, ?_, ?_, traceStep_snd⟩
  · intro earlier direction i p later hcalls hi
    rw [hcalls] at htimed
    have huse : (ProtocolCall.transform direction i p).handsTo base.length = some p := if_pos hi
    exact (htimed.before huse).resolve_left (Set.notMem_empty p)
  · intro p found now hx
    obtain ⟨hv, hs, chain, hchain, hmem⟩ := hfound _ hx
    obtain ⟨_, _, hinit, hp⟩ := mem_traceInits _ hmem
    obtain ⟨rfl, _, _⟩ := ProtocolCall.init.inj hinit
    exact ⟨hv, hs, chain, hchain, hp⟩
  · intro hquiet p found now hx
    obtain ⟨_, _, chain, hchain, hmem⟩ := hfound _ hx
    refine sameVersions_traceInits ?_ (SameVersions.refl found) p found now hmem
    -- the chain consists of registered protocols
    have hresolves := (coherent_start base serverProtocol protocols).getPath_resolves
      found.serverProtocol found.clientProtocol
    rw [hchain] at hresolves
    exact fun q hq => hquiet q (registered_start (hresolves.1.mem q hq))

end Hook

/-- A step that answers a packet. -/
def answeringStep : Protocol :=
  (Protocol.new 924 944 "" false).register .clientbound 42 (PacketWrapper.write bool true)

/-- The connection of a client of version 944 on a server of version 924. -/
def sampleFound : UserConnection where
  address := "a"
  clientProtocol := 944
  serverProtocol := 924

/-- The client declares itself twice and is then sent a packet: the second handshake resolves the
chain, before the packet goes to its step. -/
theorem init_once_in_time_sample :
    let s := (run step (start [createBaseProtocol 924] 924 [answeringStep]) []).1
    let calls := history step (callsOn "a") s [settingsFrom [0, 0, 3, 176],
      settingsFrom [0, 0, 3, 176], .send { address := "a", packetId := 42, payload := [] }]
    calls =
      [.transform .serverbound 0 (createBaseProtocol 924),
        .init answeringStep sampleFound sampleFound,
        .transform .serverbound 0 (createBaseProtocol 924),
        .transform .clientbound 1 answeringStep] ∧
    (inits calls).Nodup ∧
    (∀ earlier direction i p later, calls = earlier ++ .transform direction i p :: later →
      1 ≤ i → p ∈ inits earlier) ∧
    ∃ chain, ((start [createBaseProtocol 924] 924 [answeringStep]).manager.getPath 924 944).1 =
      some chain ∧ answeringStep ∈ chain := by
  intro s calls
  have hcalls : calls =
      [.transform .serverbound 0 (createBaseProtocol 924),
        .init answeringStep sampleFound sampleFound,
        .transform .serverbound 0 (createBaseProtocol 924),
        .transform .clientbound 1 answeringStep] := rfl
  have h := init_once_in_time [createBaseProtocol 924] 924 [answeringStep] []
    [settingsFrom [0, 0, 3, 176], settingsFrom [0, 0, 3, 176],
      .send { address := "a", packetId := 42, payload := [] }] "a" rfl
    ⟨fun _ _ h => (by cases h), fun _ _ h => (by cases h), trivial, trivial⟩
  have hinit : .init answeringStep sampleFound sampleFound ∈ calls := by
    rw [hcalls]
    exact List.mem_cons_of_mem _ (List.mem_cons_self ..)
  have hfound := h.2.2.1 answeringStep sampleFound sampleFound hinit
  exact ⟨hcalls, h.1, h.2.1, hfound.2.2⟩

end Endweave
