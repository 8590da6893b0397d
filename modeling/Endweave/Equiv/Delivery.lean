import Endweave.Equiv.Plugin

/-!
# What is delivered

Four guarantees at any point of any run: the server always sees its own version in the handshake
(`handshake_after`), packets that no step on the route handles or cancels are delivered byte for
byte (`untouched_after`), packets that a step on the route cancels are never delivered
(`cancelled_after`), and bytes behind a packet that is delivered are delivered behind it
(`trailing_after`).
-/

namespace Endweave

open Wire PacketWrapper

/-! ### Pipelines -/

section Pipelines

variable {serverProtocol : Int} {direction : Direction} {packetId : Int} {pipeline : List Protocol}

theorem translate_untouched
    (h : ∀ p ∈ pipeline, p.hasHandlerOrCancel direction packetId = false) (payload : List UInt8) :
    translate serverProtocol direction packetId pipeline payload = some payload := by
  unfold translate
  rw [compose_eq_self fun p hp => Protocol.handle_of_not_handled (h p hp) _]

/-- A cancelled packet stops, whatever comes before and after. -/
theorem translate_cancelled {p : Protocol} (hp : p ∈ pipeline)
    (hcancel : packetId ∈ p.cancelled direction) (payload : List UInt8) :
    translate serverProtocol direction packetId pipeline payload = none := by
  suffices h : ∀ x, ∃ user, compose direction packetId pipeline x = .error user by
    obtain ⟨user, hc⟩ := h (payload, { address := "", serverProtocol })
    unfold translate
    rw [hc]
  induction pipeline with
  | nil => exact absurd hp List.not_mem_nil
  | cons q pipeline ih =>
    intro x
    rw [compose_cons]
    rcases List.mem_cons.mp hp with rfl | hp
    · exact ⟨x.2, by rw [Protocol.handle, if_pos hcancel]; rfl⟩
    · cases q.handle direction packetId x with
      | error user => exact ⟨user, rfl⟩
      | ok x' => exact ih hp x'

/-- The handlers for a packet keep what stands behind it. -/
def KeepsTrailing (direction : Direction) (packetId : Int) (p : Protocol) : Prop :=
  ∀ handler, (p.handlers direction).get? packetId = some handler → Extends handler

theorem Protocol.handle_trailing {p : Protocol} (hp : KeepsTrailing direction packetId p)
    {payload out : List UInt8} {user user' : UserConnection}
    (h : p.handle direction packetId (payload, user) = .ok (out, user')) (suf : List UInt8) :
    p.handle direction packetId (payload ++ suf, user) = .ok (out ++ suf, user') := by
  unfold Protocol.handle at h ⊢
  split_ifs at h ⊢ with hc
  cases hget : (p.handlers direction).get? packetId with
  | none =>
    rw [hget] at h
    obtain ⟨rfl, rfl⟩ := Prod.mk.inj (Except.ok.inj h)
    rfl
  | some handler =>
    rw [hget] at h
    have hextends := hp handler hget
    have hstart : Extended suf (ofPayload payload user) (ofPayload (payload ++ suf) user) :=
      ⟨Cursor.within_start _, rfl⟩
    cases hs : handler (ofPayload payload user) with
    | error e s =>
      simp only [hs] at h
      cases h
    | ok a s =>
      obtain ⟨t, ht, hbytes, hcancelled, huser⟩ := hextends.spec suf _ _ hstart s hs
      simp only [hs] at h
      simp only [ht, hcancelled, hbytes, huser]
      split_ifs at h ⊢
      obtain ⟨rfl, rfl⟩ := Prod.mk.inj (Except.ok.inj h)
      rfl

theorem compose_trailing (h : ∀ p ∈ pipeline, KeepsTrailing direction packetId p)
    {payload out : List UInt8} {user user' : UserConnection}
    (hc : compose direction packetId pipeline (payload, user) = .ok (out, user'))
    (suf : List UInt8) :
    compose direction packetId pipeline (payload ++ suf, user) = .ok (out ++ suf, user') := by
  induction pipeline generalizing payload user with
  | nil =>
    obtain ⟨rfl, rfl⟩ := Prod.mk.inj (Except.ok.inj hc)
    rfl
  | cons p pipeline ih =>
    rw [compose_cons] at hc ⊢
    cases hp : p.handle direction packetId (payload, user) with
    | error user' =>
      rw [hp] at hc
      cases hc
    | ok x =>
      rw [hp] at hc
      rw [Protocol.handle_trailing (h p (List.mem_cons_self ..)) hp suf]
      exact ih (fun q hq => h q (List.mem_cons_of_mem _ hq)) hc

theorem translate_trailing (h : ∀ p ∈ pipeline, KeepsTrailing direction packetId p)
    {payload out : List UInt8}
    (ht : translate serverProtocol direction packetId pipeline payload = some out)
    (suf : List UInt8) :
    translate serverProtocol direction packetId pipeline (payload ++ suf) = some (out ++ suf) := by
  unfold translate at ht ⊢
  cases hc : compose direction packetId pipeline
      (payload, { address := "", serverProtocol }) with
  | error user =>
    rw [hc] at ht
    cases ht
  | ok x =>
    rw [hc] at ht
    obtain rfl := Option.some.inj ht
    rw [compose_trailing h hc suf]

end Pipelines

/-! ### The base protocol -/

section Base

variable {serverProtocol : Int} {direction : Direction} {packetId : Int}

/-- The packets that the base protocol has a handler for. -/
def basePackets : Direction → List Int
  | .serverbound => [PacketId.requestNetworkSettings, PacketId.login]
  | .clientbound => [PacketId.packetViolationWarning]

theorem base_untouched (h : packetId ∉ basePackets direction) :
    (createBaseProtocol serverProtocol).hasHandlerOrCancel direction packetId = false := by
  cases direction with
  | serverbound =>
    simp only [basePackets, List.mem_cons, List.not_mem_nil, or_false, not_or] at h
    simp [Protocol.hasHandlerOrCancel, createBaseProtocol, Ne.symm h.1, Ne.symm h.2]
  | clientbound =>
    simp only [basePackets, List.mem_singleton] at h
    simp [Protocol.hasHandlerOrCancel, createBaseProtocol, Ne.symm h]

/-- Four bytes in front of a payload are read as a version, fewer are not. -/
theorem read_intBE_ofPayload (payload : List UInt8) (user : UserConnection) :
    PacketWrapper.read intBE (ofPayload payload user) =
      if 4 ≤ payload.length then
        .ok (declaredVersion payload) { ofPayload payload user with reader := ⟨payload, 4⟩ }
      else .error .structError (ofPayload payload user) := by
  show onReader (PacketReader.unpack .intBE) (ofPayload payload user) = _
  rw [onReader, PacketReader.unpack]
  by_cases h : 4 ≤ payload.length
  · rw [if_pos h, if_neg (by rw [ofPayload, Cursor.rest_start]; exact Nat.not_lt.mpr h)]
    rfl
  · rw [if_neg h, if_pos (by rw [ofPayload, Cursor.rest_start]; exact Nat.not_le.mp h)]

theorem write_intBE {version : Int} (h : StructFormat.intBE.InRange version) (w : PacketWrapper) :
    PacketWrapper.write intBE version w =
      .ok () { w with writer := w.writer ++ StructFormat.intBE.encode version } := by
  show onWriter (PacketWriter.pack .intBE version) w = _
  rw [onWriter, PacketWriter.pack, if_pos h]
  rfl

/-- Both handlers put the server's version in place of the first four bytes. -/
theorem handshake_run {user : UserConnection}
    (hserver : StructFormat.intBE.InRange user.serverProtocol) {handler : PacketHandler}
    (hh : handler = detectClientProtocol ∨ handler = rewriteLogin) (payload : List UInt8) :
    match handler (ofPayload payload user) with
    | .ok _ w => 4 ≤ payload.length ∧ w.cancelled = false ∧
        w.toBytes = StructFormat.intBE.encode user.serverProtocol ++ payload.drop 4
    | .error _ _ => ¬ 4 ≤ payload.length := by
  have hread := read_intBE_ofPayload payload user
  have hwrite := write_intBE hserver
  have hlogin : rewriteLogin (ofPayload payload user) = (PacketWrapper.read intBE >>= fun _ =>
      PacketWrapper.write intBE user.serverProtocol) (ofPayload payload user) := rfl
  by_cases h : 4 ≤ payload.length
  · rw [if_pos h] at hread
    rcases hh with rfl | rfl
    · have hrun : detectClientProtocol (ofPayload payload user) =
          PacketWrapper.write intBE user.serverProtocol { ofPayload payload user with
            reader := ⟨payload, 4⟩
            user := { user with clientProtocol := declaredVersion payload } } := by
        unfold detectClientProtocol
        rw [bind_ok hread]
        rfl
      rw [hrun, hwrite]
      exact ⟨h, rfl, toBytes_eq _⟩
    · rw [hlogin, bind_ok hread, hwrite]
      exact ⟨h, rfl, toBytes_eq _⟩
  · rw [if_neg h] at hread
    rcases hh with rfl | rfl
    · unfold detectClientProtocol
      rw [bind_error hread]
      exact h
    · rw [hlogin, bind_error hread]
      exact h

/-- The answer to a handshake packet: the server's version in place of the client's. -/
theorem base_handshake (hserver : StructFormat.intBE.InRange serverProtocol)
    (hid : packetId ∈ basePackets .serverbound) (payload : List UInt8) :
    translate serverProtocol .serverbound packetId [createBaseProtocol serverProtocol] payload =
      if 4 ≤ payload.length then
        some (StructFormat.intBE.encode serverProtocol ++ payload.drop 4)
      else none := by
  have hhandler : ∃ handler, (handler = detectClientProtocol ∨ handler = rewriteLogin) ∧
      ((createBaseProtocol serverProtocol).handlers .serverbound).get? packetId =
        some handler := by
    simp only [basePackets, List.mem_cons, List.not_mem_nil, or_false] at hid
    rcases hid with rfl | rfl
    · exact ⟨_, Or.inl rfl, rfl⟩
    · exact ⟨_, Or.inr rfl, rfl⟩
  obtain ⟨handler, hh, hget⟩ := hhandler
  have hcancel : packetId ∉ (createBaseProtocol serverProtocol).cancelled .serverbound :=
    List.not_mem_nil
  have hrun : match handler (ofPayload payload { address := "", serverProtocol }) with
      | .ok _ w => 4 ≤ payload.length ∧ w.cancelled = false ∧
          w.toBytes = StructFormat.intBE.encode serverProtocol ++ payload.drop 4
      | .error _ _ => ¬ 4 ≤ payload.length := handshake_run hserver hh payload
  unfold translate
  rw [compose_cons, Protocol.handle, if_neg hcancel, hget]
  dsimp only
  cases hs : handler (ofPayload payload { address := "", serverProtocol }) with
  | ok a w =>
    rw [hs] at hrun
    obtain ⟨hlen, hcancelled, hbytes⟩ := hrun
    rw [if_pos hlen]
    simp only [hcancelled]
    exact congrArg some hbytes
  | error e w =>
    rw [hs] at hrun
    rw [if_neg hrun]
    rfl

/-! ### Trailing bytes of the base protocol -/

theorem extended_user {α : Type} {k : UserConnection → WrapperM α} {suf : List UInt8}
    (hk : ∀ u, Relates False (Extended suf) (k u)) :
    Relates False (Extended suf) ((PacketWrapper.user <$> get) >>= k) := by
  constructor
  rintro s _ ⟨hin, rfl⟩
  exact (hk s.user).spec s _ ⟨hin, rfl⟩

theorem extended_modifyUser (f : UserConnection → UserConnection) (suf : List UInt8) :
    Relates False (Extended suf)
      (modify fun w => { w with user := f w.user } : WrapperM Unit) := by
  constructor
  rintro s _ ⟨hin, rfl⟩
  exact ⟨_, rfl, hin, rfl⟩

instance : Extends detectClientProtocol := by
  have hrelates : ∀ suf, Relates False (Extended suf) detectClientProtocol := fun suf => by
    unfold detectClientProtocol
    refine Relates.bind inferInstance fun version => Relates.bind ?_ fun _ => ?_
    · exact extended_modifyUser (fun user => { user with clientProtocol := version }) suf
    · exact extended_user fun _ => inferInstance
  infer_instance

instance : Extends rewriteLogin := by
  have hrelates : ∀ suf, Relates False (Extended suf) rewriteLogin := fun suf => by
    unfold rewriteLogin
    exact extended_user fun _ => inferInstance
  infer_instance

theorem base_trailing (h : direction = .clientbound → packetId ∉ basePackets .clientbound) :
    KeepsTrailing direction packetId (createBaseProtocol serverProtocol) := by
  intro handler hget
  cases direction with
  | serverbound =>
    change OrderedDict.get? [(PacketId.requestNetworkSettings, detectClientProtocol),
      (PacketId.login, rewriteLogin)] packetId = some handler at hget
    rw [OrderedDict.get?_cons, OrderedDict.get?_cons] at hget
    split_ifs at hget
    · obtain rfl := Option.some.inj hget
      infer_instance
    · obtain rfl := Option.some.inj hget
      infer_instance
    · cases hget
  | clientbound =>
    change OrderedDict.get? [(PacketId.packetViolationWarning, logPacketViolation)] packetId =
      some handler at hget
    rw [OrderedDict.get?_cons] at hget
    split_ifs at hget with hid
    · exact absurd (List.mem_singleton.mpr hid.symm) (h rfl)
    · cases hget

end Base

/-! ### At any point of any run -/

namespace EndweavePlugin

variable (uuid5 : String → BitVec 128) (serverProtocol : Int) (gate : GateConfig)

/-- The packets that some step cancels. -/
def cancelledPackets (direction : Direction) : List Int :=
  (cancellations direction).flatMap Prod.snd

theorem registered_untouched {direction : Direction} {packetId : Int}
    (hhandled : packetId ∉ handledPackets direction)
    (hcancelled : packetId ∉ cancelledPackets direction) :
    ∀ p ∈ registeredProtocols uuid5, p.hasHandlerOrCancel direction packetId = false := by
  intro p hp
  rw [Protocol.hasHandlerOrCancel, Bool.or_eq_false_iff]
  constructor
  · cases hget : (p.handlers direction).get? packetId with
    | none => rfl
    | some handler =>
      exact absurd (registered_every uuid5 p hp direction packetId handler hget).mem hhandled
  · have hnot : packetId ∉ p.cancelled direction := by
      rw [registered_cancelled uuid5 direction p hp, cancelledBy]
      cases hget : (cancellations direction).get? (p.serverProtocol, p.clientProtocol) with
      | none => exact List.not_mem_nil
      | some packetIds =>
        exact fun hmem => hcancelled
          (List.mem_flatMap.mpr ⟨_, OrderedDict.mem_of_get? hget, hmem⟩)
    simpa using hnot

/-- **The handshake**: whatever has happened before, and whatever version the client has, the server
receives its own version in the first four bytes and the rest as the client sent it. -/
theorem handshake_after (hserver : StructFormat.intBE.InRange serverProtocol)
    (events : List PluginEvent) (event : PacketEvent)
    (hid : event.packetId ∈ basePackets .serverbound) :
    (handleEvent (after uuid5 serverProtocol gate events) (.packetReceive event)).2 =
      .proxy (.packet (if 4 ≤ event.payload.length then
        { event with payload :=
            StructFormat.intBE.encode serverProtocol ++ event.payload.drop 4 }
        else event.cancel)) := by
  obtain ⟨chain, heq, hchain⟩ := pipelineFor_serverbound uuid5 serverProtocol
    (detectedIn .serverbound (packetsSince event.address events))
  have huntouched : ∀ p ∈ chain, p.hasHandlerOrCancel .serverbound event.packetId = false := by
    have hids : ∀ packetId ∈ basePackets .serverbound,
        packetId ∉ handledPackets .serverbound ∧ packetId ∉ cancelledPackets .serverbound := by
      decide
    obtain ⟨hhandled, hcancelled⟩ := hids event.packetId hid
    exact fun p hp => registered_untouched uuid5 hhandled hcancelled p (hchain p hp)
  have hbase : Impersonal serverProtocol [createBaseProtocol serverProtocol] :=
    fun p hp => List.mem_singleton.mp hp ▸ base_relates serverProtocol
  have hsteps : Impersonal serverProtocol chain := fun p hp direction packetId handler hget =>
    (registered_every uuid5 p (hchain p hp) direction packetId handler hget).blind _
  have htranslate : translate serverProtocol .serverbound event.packetId
      (createBaseProtocol serverProtocol :: chain) event.payload =
        if 4 ≤ event.payload.length then
          some (StructFormat.intBE.encode serverProtocol ++ event.payload.drop 4)
        else none := by
    rw [← base_handshake hserver hid event.payload]
    refine (hbase.translate_append .serverbound event.packetId hsteps event.payload).trans ?_
    cases translate serverProtocol .serverbound event.packetId [createBaseProtocol serverProtocol]
        event.payload with
    | none => rfl
    | some out => exact translate_untouched huntouched out
  have hanswer := packet_after uuid5 serverProtocol gate events .serverbound event
  rw [heq, htranslate] at hanswer
  refine hanswer.trans ?_
  split_ifs <;> rfl

/-- A packet from or for the client at `a`. -/
def packetAt (packetId : Int) (payload : List UInt8) : PacketEvent :=
  { address := "a", packetId, payload }

/-- The client at `a` declares a version. -/
def declares (payload : List UInt8) : PluginEvent :=
  .packetReceive (packetAt PacketId.requestNetworkSettings payload)

/-- The client at `a` declares a version and logs in. -/
def joins (payload : List UInt8) : List PluginEvent :=
  [declares payload, .packetReceive (packetAt PacketId.login payload)]

/-- The second login of a client of version 944. -/
theorem handshake_after_login :
    (handleEvent (after (fun _ => 0) 924 {} (joins [0, 0, 3, 176]))
        (.packetReceive (packetAt PacketId.login [0, 0, 3, 176, 7]))).2 =
      .proxy (.packet (packetAt PacketId.login [0, 0, 3, 156, 7])) :=
  handshake_after _ 924 _ (by decide) _ _ (by decide)

/-- **Packets that no step on the way handles or cancels** are delivered byte for byte. -/
theorem untouched_after (events : List PluginEvent) (direction : Direction) (event : PacketEvent)
    (hbase : event.packetId ∉ basePackets direction)
    (hsteps : ∀ p ∈ registeredProtocols uuid5,
      p.ends ∈ endsFor serverProtocol direction
        (detectedIn direction (packetsSince event.address events)) →
      p.hasHandlerOrCancel direction event.packetId = false) :
    (handleEvent (after uuid5 serverProtocol gate events) (.packet direction event)).2 =
      .proxy (.packet event) := by
  rw [packet_after, translate_untouched]
  · rfl
  · intro p hp
    -- the pairs of versions in the pipeline are those of the way
    have hends := List.mem_map_of_mem (f := Protocol.ends) hp
    rw [pipelineFor_ends] at hends
    rcases mem_pipelineFor uuid5 serverProtocol hp with rfl | hregistered
    · exact base_untouched hbase
    · exact hsteps p hregistered hends

/-- A cookie response of a client of version 944 on a server of version 924; the step to v1001,
which cancels them, is not on the way. -/
theorem untouched_after_cookieResponse :
    (handleEvent (after (fun _ => 0) 924 {} (joins [0, 0, 3, 176]))
        (.packet .serverbound (packetAt 350 [1]))).2 =
      .proxy (.packet (packetAt 350 [1])) :=
  untouched_after _ 924 _ _ .serverbound _ (by decide) (by decide)

/-- **Cancelled packets** are never delivered once a version is detected whose route has a step that
cancels them. -/
theorem cancelled_after (events : List PluginEvent) (direction : Direction) (event : PacketEvent)
    {version : Int} {ends : Int × Int}
    (hdetected : detectedIn direction (packetsSince event.address events) = some version)
    (hsupported : Supported serverProtocol version) (hends : ends ∈ route serverProtocol version)
    (hcancel : event.packetId ∈ cancelledBy direction ends) :
    (handleEvent (after uuid5 serverProtocol gate events) (.packet direction event)).2 =
      .proxy (.packet event.cancel) := by
  have hne : version ≠ serverProtocol := fun heq => by
    rw [heq, route_self] at hends
    exact absurd hends List.not_mem_nil
  have hmem : ends ∈ (pipelineFor uuid5 serverProtocol direction (some version)).map
      Protocol.ends := by
    rw [pipelineFor_ends]
    cases direction with
    | serverbound =>
      rw [endsFor, if_pos hsupported]
      exact List.mem_cons_of_mem _ hends
    | clientbound =>
      rw [endsFor, if_pos ⟨hne, hsupported⟩]
      exact List.mem_cons_of_mem _ (List.mem_reverse.mpr hends)
  obtain ⟨p, hp, rfl⟩ := List.mem_map.mp hmem
  rw [packet_after, hdetected, translate_cancelled hp]
  · rfl
  · rcases mem_pipelineFor uuid5 serverProtocol hp with rfl | hregistered
    · -- the base protocol is for no known version
      exact absurd (mem_route_known hends).2 (show (0 : Int) ∉ knownVersions by decide)
    · rw [registered_cancelled uuid5 direction p hregistered]
      exact hcancel

/-- The cookie response of a client of version 1001 on a server of version 944. -/
theorem cancelled_after_cookieResponse :
    (handleEvent (after (fun _ => 0) 944 {} [declares [0, 0, 3, 233]])
        (.packet .serverbound (packetAt 350 [1]))).2 =
      .proxy (.packet (packetAt 350 [1]).cancel) :=
  @cancelled_after _ 944 _ _ .serverbound _ 1001 (975, 1001) (by decide) (by decide) (by decide)
    (by decide)

/-- **Trailing bytes**: what stands behind a packet that is delivered is delivered behind it.  The
handlers are to read no more than the fields, and the packet is no packet violation, which the base
protocol reads for the log. -/
theorem trailing_after (events : List PluginEvent) (direction : Direction) (event : PacketEvent)
    (hcancelled : event.cancelled = false) (hends : event.packetId ∉ asksForEnd direction)
    (hbase : direction = .clientbound → event.packetId ∉ basePackets .clientbound)
    {out : List UInt8}
    (hdelivered : (handleEvent (after uuid5 serverProtocol gate events)
      (.packet direction event)).2 = .proxy (.packet { event with payload := out }))
    (suf : List UInt8) :
    (handleEvent (after uuid5 serverProtocol gate events)
      (.packet direction { event with payload := event.payload ++ suf })).2 =
        .proxy (.packet { event with payload := out ++ suf }) := by
  have htrailing : ∀ p ∈ pipelineFor uuid5 serverProtocol direction
      (detectedIn direction (packetsSince event.address events)),
        KeepsTrailing direction event.packetId p := fun p hp => by
    rcases mem_pipelineFor uuid5 serverProtocol hp with rfl | hregistered
    · exact base_trailing hbase
    · exact fun handler hget =>
        (registered_every uuid5 p hregistered direction _ handler hget).trailing hends
  rw [packet_after] at hdelivered ⊢
  have hevent := Answer.packet.inj (PluginAnswer.proxy.inj hdelivered)
  cases ht : translate serverProtocol direction event.packetId (pipelineFor uuid5 serverProtocol
      direction (detectedIn direction (packetsSince event.address events))) event.payload with
  | none =>
    rw [ht] at hevent
    have := congrArg PacketEvent.cancelled hevent
    exact absurd this (by simp [PacketEvent.deliver, PacketEvent.cancel, hcancelled])
  | some out' =>
    rw [ht] at hevent
    obtain rfl : out' = out := congrArg PacketEvent.payload hevent
    rw [translate_trailing htrailing ht suf]
    rfl

/-- Input permissions for a client of version 975 on a server of version 898; the second of the
three steps takes the position out. -/
theorem trailing_after_inputPermissions :
    (handleEvent (after (fun _ => 0) 898 {} (joins [0, 0, 3, 207])) (.packet .clientbound
      (packetAt PacketId.playerClientInputPermissions
        [5, 0, 0, 0, 0, 0, 0, 0, 0, 0, 0, 0, 0, 7]))).2 =
        .proxy (.packet (packetAt PacketId.playerClientInputPermissions [5, 7])) :=
  @trailing_after _ 898 _ (joins [0, 0, 3, 207]) .clientbound
    (packetAt PacketId.playerClientInputPermissions [5, 0, 0, 0, 0, 0, 0, 0, 0, 0, 0, 0, 0]) rfl
    (by decide) (by decide) [5] (by rfl) [7]

end EndweavePlugin

end Endweave
