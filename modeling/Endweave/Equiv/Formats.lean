import Endweave.Equiv.Delivery
import Endweave.Protocol.Equiv.LevelSoundEvent
import Endweave.Protocol.PacketFormat

/-!
# Packets in the format of their receiver

A step carries a packet format if it turns what the version on the sender's side makes of the data
into what the version on the other side makes of them.  If every registered step does, a packet
arrives in the format of its receiver, at any point of any run and on every supported route
(`EndweavePlugin.carried_after`).
-/

namespace Endweave

open Wire PacketWrapper

namespace PacketFormat

variable (F : PacketFormat)

/-- A step between versions that the format is about carries it, on whatever server. -/
def Carried (p : Protocol) : Prop :=
  F.Covers p.serverProtocol p.clientProtocol → ∀ serverProtocol, F.toFormat.Carries
    (F.source p.serverProtocol p.clientProtocol) (F.target p.serverProtocol p.clientProtocol)
    (translate serverProtocol F.direction F.packetId [p])

/-- After a run, a packet with some data, which can come from the version of its sender, is on its
way between the server and a client whose version has been detected. -/
structure Sent (serverProtocol client : Int) (d : F.Data) (events : List PluginEvent)
    (event : PacketEvent) : Prop where
  supported : Supported serverProtocol client
  covers : F.Covers serverProtocol client
  canonical : F.Canonical d
  expresses : F.Expresses (F.source serverProtocol client) d
  packetId : event.packetId = F.packetId
  detected : detectedIn F.direction (packetsSince event.address events) = some client
  payload : F.encode (F.source serverProtocol client) d = some event.payload

/-! ### Rules for one step -/

section Step

variable {F} {p : Protocol} {handler : PacketHandler}

theorem translate_delivers {serverProtocol : Int} {direction : Direction} {packetId : Int}
    {payload out : List UInt8} (hget : (p.handlers direction).get? packetId = some handler)
    (hcancel : packetId ∉ p.cancelled direction) (h : Delivers handler payload out) :
    translate serverProtocol direction packetId [p] payload = some out := by
  unfold translate
  rw [compose_cons, Protocol.handle_of_delivers hcancel hget h]
  rfl

theorem translate_cancels {serverProtocol : Int} {direction : Direction} {packetId : Int}
    {payload : List UInt8} (hget : (p.handlers direction).get? packetId = some handler)
    (h : Cancels handler payload) :
    translate serverProtocol direction packetId [p] payload = none := by
  obtain ⟨w, hw, hcancelled⟩ :=
    h (ofPayload payload { address := "", serverProtocol }) (Cursor.within_start _)
      (Cursor.rest_start _)
  unfold translate
  rw [compose_cons, Protocol.handle]
  split_ifs
  · rfl
  · rw [hget]
    simp only [hw, hcancelled, if_true]
    rfl

/-- A step from a version that the packet does not get to. -/
theorem carried_of_absent
    (hnot : decide (F.Reaches (F.source p.serverProtocol p.clientProtocol)) = false) :
    F.Carried p := by
  intro _ serverProtocol d payload _ _ _ hpayload
  have hpayload : F.encode (F.source p.serverProtocol p.clientProtocol) d = some payload :=
    hpayload
  rw [encode, if_neg (of_decide_eq_false hnot)] at hpayload
  cases hpayload

/-- A step to a version that the format is not about. -/
theorem carried_of_uncovered
    (hnot : decide (F.Covers p.serverProtocol p.clientProtocol) = false) : F.Carried p :=
  fun hcovers => absurd hcovers (of_decide_eq_false hnot)

/-- The packet gets to both versions of a step, in the same form. -/
def agree (p : Protocol) : Bool :=
  decide (F.Reaches (F.target p.serverProtocol p.clientProtocol)) &&
    F.formOf (F.source p.serverProtocol p.clientProtocol) ==
      F.formOf (F.target p.serverProtocol p.clientProtocol)

theorem encode_of_agree (hagree : F.agree p = true) {d : F.Data} {payload : List UInt8}
    (hpayload : F.encode (F.source p.serverProtocol p.clientProtocol) d = some payload) :
    F.encode (F.target p.serverProtocol p.clientProtocol) d = some payload := by
  rw [agree, Bool.and_eq_true, decide_eq_true_iff, beq_iff_eq] at hagree
  unfold encode at hpayload ⊢
  split_ifs at hpayload
  rw [if_pos hagree.1, ← hagree.2]
  exact hpayload

/-- A step that neither handles nor cancels the packet, between versions with the same form. -/
theorem carried_of_untouched (h : p.hasHandlerOrCancel F.direction F.packetId = false)
    (hagree : F.agree p = true) : F.Carried p := by
  intro _ serverProtocol d payload _ _ _ hpayload
  have hrun : translate serverProtocol F.direction F.packetId [p] payload = some payload :=
    translate_untouched (by simpa using h) payload
  exact hrun.trans (encode_of_agree hagree hpayload).symm

/-- A step that cancels the packet. -/
theorem carried_of_cancelled (h : (p.cancelled F.direction).contains F.packetId = true)
    (hnot : decide (F.Reaches (F.target p.serverProtocol p.clientProtocol)) = false) :
    F.Carried p := by
  intro _ serverProtocol d payload _ _ _ _
  rw [translate_cancelled (List.mem_singleton_self p) (by simpa using h) payload]
  show none = F.encode _ d
  rw [encode, if_neg (of_decide_eq_false hnot)]

/-- A step whose handler cancels the packet. -/
theorem carried_of_cancels (hget : (p.handlers F.direction).get? F.packetId = some handler)
    (hnot : decide (F.Reaches (F.target p.serverProtocol p.clientProtocol)) = false)
    (h : ∀ d, F.Canonical d →
      Cancels handler (F.form (F.formOf (F.source p.serverProtocol p.clientProtocol)) d)) :
    F.Carried p := by
  intro _ serverProtocol d payload hd _ _ hpayload
  have hpayload : F.encode (F.source p.serverProtocol p.clientProtocol) d = some payload :=
    hpayload
  unfold encode at hpayload
  split_ifs at hpayload
  obtain rfl := Option.some.inj hpayload
  rw [translate_cancels hget (h d hd)]
  show none = F.encode _ d
  rw [encode, if_neg (of_decide_eq_false hnot)]

/-- A step does not cancel the packet, which gets to the version behind it. -/
def passes (p : Protocol) : Bool :=
  !(p.cancelled F.direction).contains F.packetId &&
    decide (F.Reaches (F.target p.serverProtocol p.clientProtocol))

/-- A step with a handler. -/
theorem carried_of_handler (hget : (p.handlers F.direction).get? F.packetId = some handler)
    (hpasses : F.passes p = true)
    (h : ∀ d, F.Canonical d →
      (F.source p.serverProtocol p.clientProtocol ≤ F.target p.serverProtocol p.clientProtocol →
        F.since d ≤ F.source p.serverProtocol p.clientProtocol) →
      (F.target p.serverProtocol p.clientProtocol ≤ F.source p.serverProtocol p.clientProtocol →
        F.source p.serverProtocol p.clientProtocol ≤ F.upTo d) →
      Delivers handler (F.form (F.formOf (F.source p.serverProtocol p.clientProtocol)) d)
        (F.form (F.formOf (F.target p.serverProtocol p.clientProtocol)) d)) : F.Carried p := by
  rw [passes, Bool.and_eq_true, decide_eq_true_iff] at hpasses
  have hcancel : F.packetId ∉ p.cancelled F.direction := by simpa using hpasses.1
  intro _ serverProtocol d payload hd hsince hupTo hpayload
  have hpayload : F.encode (F.source p.serverProtocol p.clientProtocol) d = some payload :=
    hpayload
  unfold encode at hpayload
  split_ifs at hpayload
  obtain rfl := Option.some.inj hpayload
  rw [translate_delivers hget hcancel (h d hd hsince hupTo)]
  show _ = F.encode _ d
  rw [encode, if_pos hpasses.2]

/-- A step to a newer version with a handler. -/
theorem carried_up (hget : (p.handlers F.direction).get? F.packetId = some handler)
    (hup : (F.passes p && decide (F.source p.serverProtocol p.clientProtocol ≤
      F.target p.serverProtocol p.clientProtocol)) = true)
    (h : ∀ d, F.Canonical d → F.since d ≤ F.source p.serverProtocol p.clientProtocol →
      Delivers handler (F.form (F.formOf (F.source p.serverProtocol p.clientProtocol)) d)
        (F.form (F.formOf (F.target p.serverProtocol p.clientProtocol)) d)) : F.Carried p := by
  rw [Bool.and_eq_true, decide_eq_true_iff] at hup
  exact carried_of_handler hget hup.1 fun d hd hsince _ => h d hd (hsince hup.2)

/-- A step to an older version with a handler. -/
theorem carried_down (hget : (p.handlers F.direction).get? F.packetId = some handler)
    (hdown : (F.passes p && decide (F.target p.serverProtocol p.clientProtocol ≤
      F.source p.serverProtocol p.clientProtocol)) = true)
    (h : ∀ d, F.Canonical d → F.source p.serverProtocol p.clientProtocol ≤ F.upTo d →
      Delivers handler (F.form (F.formOf (F.source p.serverProtocol p.clientProtocol)) d)
        (F.form (F.formOf (F.target p.serverProtocol p.clientProtocol)) d)) : F.Carried p := by
  rw [Bool.and_eq_true, decide_eq_true_iff] at hdown
  exact carried_of_handler hget hdown.1 fun d hd _ hupTo => h d hd (hupTo hdown.2)

/-- Data are at their defaults where a version is early enough. -/
theorem of_ite_le {c : Prop} [Decidable c] {first later version : Int}
    (h : (if c then first else later) ≤ version) (hlater : decide (version < later) = true) :
    c := by
  by_contra hc
  rw [if_neg hc] at h
  exact absurd h (not_le_of_gt (of_decide_eq_true hlater))

/-- Data are at their defaults where a version is late enough. -/
theorem of_le_ite {c : Prop} [Decidable c] {last earlier version : Int}
    (h : version ≤ if c then last else earlier) (hearlier : decide (earlier < version) = true) :
    c := by
  by_contra hc
  rw [if_neg hc] at h
  exact absurd h (not_le_of_gt (of_decide_eq_true hearlier))

end Step

/-! ### Rules for a pipeline -/

theorem impersonal_registered {uuid5 : String → BitVec 128} {serverProtocol : Int}
    {pipeline : List Protocol} (h : ∀ p ∈ pipeline, p ∈ registeredProtocols uuid5) :
    Impersonal serverProtocol pipeline := fun p hp direction packetId handler hget =>
  (registered_every uuid5 p (h p hp) direction packetId handler hget).blind _

/-- A pipeline is a relay of its protocols. -/
theorem translate_eq_relay {uuid5 : String → BitVec 128} {serverProtocol : Int}
    {direction : Direction} {packetId : Int} {pipeline : List Protocol}
    (h : ∀ p ∈ pipeline, p ∈ registeredProtocols uuid5) (payload : List UInt8) :
    translate serverProtocol direction packetId pipeline payload =
      relay (fun p => translate serverProtocol direction packetId [p]) pipeline payload := by
  induction pipeline generalizing payload with
  | nil => rfl
  | cons p pipeline ih =>
    have hp : ∀ q ∈ [p], q ∈ registeredProtocols uuid5 := fun q hq =>
      h q (List.mem_singleton.mp hq ▸ List.mem_cons_self ..)
    have hrest := fun q hq => h q (List.mem_cons_of_mem _ hq)
    have hfirst : Impersonal serverProtocol [p] := impersonal_registered hp
    have happend := hfirst.translate_append direction packetId (impersonal_registered hrest) payload
    rw [relay, ← funext (ih hrest)]
    exact happend

/-- All registered steps carry a format if those do that touch the packet, and each of the others
is between versions with the same form, from one that the packet does not get to, or to one that the
format is not about. -/
theorem carried_registered {F : PacketFormat} {uuid5 : String → BitVec 128}
    (steps : List Protocol)
    (hsteps : (registeredProtocols uuid5).filter
      (fun p => p.hasHandlerOrCancel F.direction F.packetId) = steps)
    (hothers : (registeredProtocols uuid5).all (fun p =>
      p.hasHandlerOrCancel F.direction F.packetId ||
        (!decide (F.Reaches (F.source p.serverProtocol p.clientProtocol)) ||
          (F.agree p || !decide (F.Covers p.serverProtocol p.clientProtocol)))) = true)
    (h : ∀ p ∈ steps, F.Carried p) : ∀ p ∈ registeredProtocols uuid5, F.Carried p := by
  intro p hp
  cases htouched : p.hasHandlerOrCancel F.direction F.packetId with
  | true => exact h p (hsteps ▸ List.mem_filter.mpr ⟨hp, htouched⟩)
  | false =>
    have hother := List.all_eq_true.mp hothers p hp
    rw [htouched, Bool.false_or, Bool.or_eq_true, Bool.or_eq_true, Bool.not_eq_true',
      Bool.not_eq_true'] at hother
    rcases hother with hother | hother | hother
    · exact carried_of_absent hother
    · exact carried_of_untouched htouched hother
    · exact carried_of_uncovered hother

end PacketFormat

/-! ### Routes as paths -/

theorem mem_route_lt {server client : Int} {ends : Int × Int} (h : ends ∈ route server client) :
    if server ≤ client then ends.1 < ends.2 else ends.2 < ends.1 := by
  have hlt : ∀ e ∈ neighbours, e.1 < e.2 := by decide
  unfold route at h
  split_ifs at h ⊢
  · exact hlt _ (List.mem_filter.mp (List.mem_reverse.mp h)).1
  · obtain ⟨e, he, rfl⟩ := List.mem_map.mp h
    exact hlt _ (List.mem_filter.mp he).1

theorem route_path_known : ∀ server ∈ knownVersions, ∀ client ∈ knownVersions,
    LinkPath id server client (route server client).reverse ∧
      LinkPath Prod.swap client server (route server client) := by
  decide

/-- The steps of a route, in the order of the packets of a direction. -/
def Direction.order {α : Type} : Direction → List α → List α
  | .serverbound, steps => steps
  | .clientbound, steps => steps.reverse

theorem route_path {server client : Int} (h : Supported server client) (direction : Direction) :
    LinkPath direction.orient (direction.orient (server, client)).1
      (direction.orient (server, client)).2 (direction.order (route server client)) := by
  rcases h with rfl | ⟨hs, hc, _⟩
  · rw [route_self]
    cases direction <;> exact rfl
  · cases direction with
    | serverbound => exact (route_path_known server hs client hc).2
    | clientbound => exact (route_path_known server hs client hc).1

namespace EndweavePlugin

variable (uuid5 : String → BitVec 128) (serverProtocol : Int) (gate : GateConfig)

/-- The registered steps that a packet goes through, for a detected and supported version. -/
theorem pipelineFor_links {client : Int} (h : Supported serverProtocol client)
    (direction : Direction) {packetId : Int} (hbase : packetId ∉ basePackets direction) :
    ∃ links, (∀ p ∈ links, p ∈ registeredProtocols uuid5) ∧
      links.map Protocol.ends = direction.order (route serverProtocol client) ∧
      ∀ payload, translate serverProtocol direction packetId
          (pipelineFor uuid5 serverProtocol direction (some client)) payload =
        translate serverProtocol direction packetId links payload := by
  have hends := registeredChain_ends uuid5 serverProtocol client
  cases hchain : registeredChain uuid5 serverProtocol client with
  | none => simp [hchain, h] at hends
  | some chain =>
    rw [hchain, if_pos h] at hends
    have hroute : chain.map Protocol.ends = route serverProtocol client := Option.some.inj hends
    have hmem := mem_registeredChain uuid5 serverProtocol hchain
    -- the base protocol has nothing to do with the packet
    have hskip : ∀ links payload, (∀ p ∈ links, p ∈ registeredProtocols uuid5) →
        translate serverProtocol direction packetId
            (createBaseProtocol serverProtocol :: links) payload =
          translate serverProtocol direction packetId links payload := by
      intro links payload hlinks
      unfold translate
      rw [compose_cons, Protocol.handle_of_not_handled (base_untouched hbase)]
      rfl
    cases direction with
    | serverbound =>
      refine ⟨chain, hmem, hroute, fun payload => ?_⟩
      simp only [pipelineFor, serverboundFor, hchain]
      exact hskip chain payload hmem
    | clientbound =>
      have hmem' : ∀ p ∈ chain.reverse, p ∈ registeredProtocols uuid5 := fun p hp =>
        hmem p (List.mem_reverse.mp hp)
      refine ⟨chain.reverse, hmem', ?_, fun payload => ?_⟩
      · rw [List.map_reverse, hroute]
        rfl
      · by_cases hself : client = serverProtocol
        · -- nothing is translated, and there is nothing on the way
          rw [hself, route_self, List.map_eq_nil_iff] at hroute
          simp [pipelineFor, clientboundFor, hself, hroute]
        · simp only [pipelineFor, clientboundFor, hself, hchain, if_false]
          exact hskip chain.reverse payload hmem'

/-- A packet for a detected and supported version goes from the version of its sender to that of its
receiver in steps that all lead up, or all lead down. -/
theorem links_along {client : Int} (h : Supported serverProtocol client) (direction : Direction)
    {packetId : Int} (hbase : packetId ∉ basePackets direction) :
    ∃ links, (∀ p ∈ links, p ∈ registeredProtocols uuid5) ∧
      LinkPath (fun p => direction.orient (Protocol.ends p))
        (direction.orient (serverProtocol, client)).1
        (direction.orient (serverProtocol, client)).2 links ∧
      ((∀ p ∈ links, (direction.orient p.ends).1 < (direction.orient p.ends).2) ∨
        (∀ p ∈ links, (direction.orient p.ends).2 < (direction.orient p.ends).1)) ∧
      ∀ payload, translate serverProtocol direction packetId
          (pipelineFor uuid5 serverProtocol direction (some client)) payload =
        relay (fun p => translate serverProtocol direction packetId [p]) links payload := by
  obtain ⟨links, hmem, hends, htranslate⟩ :=
    pipelineFor_links uuid5 serverProtocol h direction hbase
  refine ⟨links, hmem, ?_, ?_, fun payload => ?_⟩
  · have hroute := route_path h direction
    rwa [← hends, LinkPath.map] at hroute
  · have hlt : ∀ p ∈ links, if serverProtocol ≤ client then p.ends.1 < p.ends.2
        else p.ends.2 < p.ends.1 := by
      intro p hp
      have hin : p.ends ∈ direction.order (route serverProtocol client) :=
        hends ▸ List.mem_map_of_mem hp
      apply mem_route_lt
      cases direction with
      | serverbound => exact hin
      | clientbound => exact List.mem_reverse.mp hin
    by_cases hle : serverProtocol ≤ client
    · simp only [if_pos hle] at hlt
      cases direction with
      | serverbound => exact Or.inr hlt
      | clientbound => exact Or.inl hlt
    · simp only [if_neg hle] at hlt
      cases direction with
      | serverbound => exact Or.inl hlt
      | clientbound => exact Or.inr hlt
  · rw [htranslate, PacketFormat.translate_eq_relay hmem]

variable {F : PacketFormat}

omit uuid5 gate in
/-- The format is about the versions in between too. -/
theorem covers_links {client : Int} {links : List Protocol}
    (hpath : LinkPath (fun p => F.direction.orient (Protocol.ends p))
      (F.direction.orient (serverProtocol, client)).1
      (F.direction.orient (serverProtocol, client)).2 links)
    (hway : (∀ p ∈ links, (F.direction.orient p.ends).1 < (F.direction.orient p.ends).2) ∨
      ∀ p ∈ links, (F.direction.orient p.ends).2 < (F.direction.orient p.ends).1)
    (hcovers : F.Covers serverProtocol client) :
    ∀ p ∈ links, F.Covers p.serverProtocol p.clientProtocol := by
  intro p hp
  rcases hway with hup | hdown
  -- on the way up the newest version is the end of the path, on the way down its start
  · have hle := (hpath.snd_le_of_up fun p hp => (hup p hp).le) p hp
    exact ⟨((hup p hp).le.trans hle).trans hcovers.2, hle.trans hcovers.2⟩
  · have hle := (hpath.fst_le_of_down fun p hp => (hdown p hp).le) p hp
    exact ⟨hle.trans hcovers.1, ((hdown p hp).le.trans hle).trans hcovers.1⟩

variable (hcarried : ∀ p ∈ registeredProtocols uuid5, F.Carried p)
  (hbase : F.packetId ∉ basePackets F.direction)

include hcarried hbase

/-- **What arrives** of data is the receiver's encoding of them. -/
theorem carried_along {client : Int} (hsupported : Supported serverProtocol client)
    (hcovers : F.Covers serverProtocol client) {d : F.Data} (hd : F.Canonical d)
    (hexpresses : F.Expresses (F.source serverProtocol client) d)
    {payload : List UInt8} (hpayload : F.encode (F.source serverProtocol client) d = some payload) :
    translate serverProtocol F.direction F.packetId
        (pipelineFor uuid5 serverProtocol F.direction (some client)) payload =
      F.encode (F.target serverProtocol client) d := by
  obtain ⟨links, hmem, hpath, hway, htranslate⟩ :=
    links_along uuid5 serverProtocol hsupported F.direction hbase
  have hlinks : ∀ p ∈ links, F.toFormat.Carries (F.direction.orient p.ends).1
      (F.direction.orient p.ends).2 (translate serverProtocol F.direction F.packetId [p]) :=
    fun p hp => hcarried p (hmem p hp) (covers_links serverProtocol hpath hway hcovers p hp)
      serverProtocol
  rw [htranslate]
  rcases hway with hup | hdown
  · exact Format.relay_up hpath hlinks hup hd hexpresses.1 hpayload
  · exact Format.relay_down hpath hlinks hdown hd hexpresses.2 hpayload

/-- **Packets arrive in the format of their receiver**, at any point of any run. -/
theorem carried_after {client : Int} {d : F.Data} {events : List PluginEvent} {event : PacketEvent}
    (h : F.Sent serverProtocol client d events event) :
    (handleEvent (after uuid5 serverProtocol gate events) (.packet F.direction event)).2 =
      .proxy (.packet (event.deliver (F.encode (F.target serverProtocol client) d))) := by
  rw [packet_after, h.detected, h.packetId]
  rw [carried_along uuid5 serverProtocol hcarried hbase h.supported h.covers h.canonical h.expresses
    h.payload]

end EndweavePlugin

end Endweave
