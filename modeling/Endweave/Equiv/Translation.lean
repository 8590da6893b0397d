import Endweave.Equiv.Freshness
import Endweave.Protocol.Equiv.Registry

/-!
# Translation as a function of the payload

`translate` is what a pipeline makes of a payload, as a function that knows the version of the
server and no connection.  `dispatch_fst` says that dispatching an event answers with it, whatever
the connection of the event has been through, when the handlers of the pipeline look at nothing of a
connection but its server version: those of the version steps do not look at it at all, and those of
the base protocol insert that version.
-/

namespace Endweave

open Wire PacketWrapper

/-! ### Results that differ in the connection -/

/-- The connections are for a server of this version. -/
def OnServer (serverProtocol : Int) (u v : UserConnection) : Prop :=
  u.serverProtocol = serverProtocol ∧ v.serverProtocol = serverProtocol

/-- The same payload, or a stop on both sides, with related connections. -/
inductive ResultsAlike (Q : UserConnection → UserConnection → Prop) :
    Except UserConnection (List UInt8 × UserConnection) →
      Except UserConnection (List UInt8 × UserConnection) → Prop
  | ok {payload : List UInt8} {u v : UserConnection} (h : Q u v) :
      ResultsAlike Q (.ok (payload, u)) (.ok (payload, v))
  | error {u v : UserConnection} (h : Q u v) : ResultsAlike Q (.error u) (.error v)

section Alike

variable {Q : UserConnection → UserConnection → Prop} (direction : Direction) (packetId : Int)

theorem Protocol.handle_alike {p : Protocol} (hp : p.Every fun _ _ h => Relates True (Alike Q) h)
    (payload : List UInt8) {u v : UserConnection} (hQ : Q u v) :
    ResultsAlike Q (p.handle direction packetId (payload, u))
      (p.handle direction packetId (payload, v)) := by
  unfold Protocol.handle
  split_ifs
  · exact .error hQ
  · cases hget : (p.handlers direction).get? packetId with
    | none => exact .ok hQ
    | some handler =>
      have hrelates := hp direction packetId handler hget
      have hstart : Alike Q (ofPayload payload u) (ofPayload payload v) := ⟨hQ, rfl⟩
      cases hs : handler (ofPayload payload u) with
      | error e s =>
        obtain ⟨t, ht, hR⟩ := hrelates.of_error trivial hstart hs
        simp only [hs, ht]
        exact .error hR.related
      | ok a s =>
        obtain ⟨t, ht, hR⟩ := hrelates.of_ok hstart hs
        have hcancelled : t.cancelled = s.cancelled := by rw [hR.eq]
        have hbytes : t.toBytes = s.toBytes := by rw [hR.eq]; rfl
        simp only [hs, ht, hcancelled, hbytes]
        split_ifs
        · exact .error hR.related
        · exact .ok hR.related

theorem compose_alike {pipeline : List Protocol}
    (h : ∀ p ∈ pipeline, p.Every fun _ _ h => Relates True (Alike Q) h)
    (payload : List UInt8) {u v : UserConnection} (hQ : Q u v) :
    ResultsAlike Q (compose direction packetId pipeline (payload, u))
      (compose direction packetId pipeline (payload, v)) := by
  induction pipeline generalizing payload u v with
  | nil => exact .ok hQ
  | cons p pipeline ih =>
    rw [compose_cons, compose_cons]
    have hp := Protocol.handle_alike direction packetId (h p (List.mem_cons_self ..)) payload hQ
    generalize p.handle direction packetId (payload, u) = x at hp ⊢
    generalize p.handle direction packetId (payload, v) = y at hp ⊢
    cases hp with
    | error hQ' => exact .error hQ'
    | ok hQ' => exact ih (fun q hq => h q (List.mem_cons_of_mem _ hq)) _ hQ'

end Alike

/-! ### The base protocol -/

section Base

variable (serverProtocol : Int)

instance {strict : Prop} {R : PacketWrapper → PacketWrapper → Prop} {body : PacketHandler}
    [h : Relates True R body] : Relates strict R (swallow body) := by
  constructor
  intro s t hR
  unfold swallow
  cases hs : body s with
  | ok a s' =>
    obtain ⟨t', ht, hR'⟩ := h.of_ok hR hs
    exact ⟨t', by rw [ht], hR'⟩
  | error e s' =>
    obtain ⟨t', ht, hR'⟩ := h.of_error trivial hR hs
    exact ⟨t', by rw [ht], hR'⟩

theorem detectClientProtocol_relates :
    Relates True (Alike (OnServer serverProtocol)) detectClientProtocol := by
  unfold detectClientProtocol
  refine Relates.bind inferInstance fun version => Relates.bind ?_ fun _ => ?_
  · exact relates_modifyUser (OnServer serverProtocol)
      (f := fun user => { user with clientProtocol := version }) fun _ _ h => h
  · exact relates_user _ (fun _ => inferInstance) fun u v h => by rw [h.1, h.2]

theorem rewriteLogin_relates : Relates True (Alike (OnServer serverProtocol)) rewriteLogin := by
  unfold rewriteLogin
  exact relates_user _ (fun _ => inferInstance) fun u v h => by rw [h.1, h.2]

theorem base_relates : (createBaseProtocol serverProtocol).Every fun _ _ h =>
    Relates True (Alike (OnServer serverProtocol)) h := by
  unfold createBaseProtocol
  simp only [Protocol.registerClientbound, Protocol.registerServerbound]
  refine Protocol.Every.register (Protocol.Every.register (Protocol.Every.register
    (Protocol.every_new _ _ _ _) (detectClientProtocol_relates _)) (rewriteLogin_relates _)) ?_
  unfold logPacketViolation
  infer_instance

end Base

/-! ### Translation -/

/-- What a pipeline makes of a payload on a server of this version: the payload that goes on, or
nothing where the packet stops. -/
def translate (serverProtocol : Int) (direction : Direction) (packetId : Int)
    (pipeline : List Protocol) (payload : List UInt8) : Option (List UInt8) :=
  match compose direction packetId pipeline (payload, { address := "", serverProtocol }) with
  | .ok x => some x.1
  | .error _ => none

/-- The event with what became of its payload. -/
def PacketEvent.deliver (event : PacketEvent) : Option (List UInt8) → PacketEvent
  | some payload => { event with payload }
  | none => event.cancel

/-- The handlers of a pipeline look at nothing of a connection but the server version. -/
def Impersonal (serverProtocol : Int) (pipeline : List Protocol) : Prop :=
  ∀ p ∈ pipeline, p.Every fun _ _ h => Relates True (Alike (OnServer serverProtocol)) h

section Translate

variable {serverProtocol : Int} (direction : Direction) (packetId : Int)
  {pipeline : List Protocol} (h : Impersonal serverProtocol pipeline)

include h

/-- The payload part of a composition does not depend on the connection. -/
theorem Impersonal.compose (payload : List UInt8) {user : UserConnection}
    (hu : user.serverProtocol = serverProtocol) :
    match compose direction packetId pipeline (payload, user) with
    | .ok x => translate serverProtocol direction packetId pipeline payload = some x.1 ∧
        x.2.serverProtocol = serverProtocol
    | .error user' => translate serverProtocol direction packetId pipeline payload = none ∧
        user'.serverProtocol = serverProtocol := by
  have hblank := compose_alike direction packetId h payload
    (u := user) (v := { address := "", serverProtocol }) ⟨hu, rfl⟩
  unfold translate
  generalize Endweave.compose direction packetId pipeline (payload, user) = x at hblank ⊢
  generalize Endweave.compose direction packetId pipeline
    (payload, { address := "", serverProtocol }) = y at hblank ⊢
  cases hblank with
  | ok hQ => exact ⟨rfl, hQ.1⟩
  | error hQ => exact ⟨rfl, hQ.1⟩

/-- **Dispatch is translation**: what becomes of a packet is a function of its payload. -/
theorem Impersonal.dispatch (event : PacketEvent) {user : UserConnection}
    (hu : user.serverProtocol = serverProtocol) :
    (dispatch direction event pipeline event.payload user).1 =
        event.deliver
          (translate serverProtocol direction event.packetId pipeline event.payload) ∧
      (Endweave.dispatch direction event pipeline event.payload user).2.serverProtocol =
        serverProtocol := by
  have hc := h.compose direction event.packetId event.payload hu
  rw [dispatch_eq]
  cases hr : Endweave.compose direction event.packetId pipeline (event.payload, user) with
  | ok x =>
    rw [hr] at hc
    rw [hc.1]
    exact ⟨rfl, hc.2⟩
  | error user' =>
    rw [hr] at hc
    rw [hc.1]
    exact ⟨rfl, hc.2⟩

/-- Pipelines translate one after the other. -/
theorem Impersonal.translate_append {after : List Protocol}
    (h' : Impersonal serverProtocol after) (payload : List UInt8) :
    translate serverProtocol direction packetId (pipeline ++ after) payload =
      (translate serverProtocol direction packetId pipeline payload).bind
        (translate serverProtocol direction packetId after) := by
  let blank : UserConnection := { address := "", serverProtocol }
  have hblank : blank.serverProtocol = serverProtocol := rfl
  have hc := h.compose direction packetId payload hblank
  conv_lhs => unfold translate
  rw [compose_append]
  cases hr : Endweave.compose direction packetId pipeline
      (payload, blank) with
  | error user =>
    rw [hr] at hc
    rw [hc.1]
    rfl
  | ok x =>
    rw [hr] at hc
    rw [hc.1]
    have hrest := h'.compose direction packetId x.1 hc.2
    show (match Endweave.compose direction packetId after x with
      | .ok y => some y.1 | .error _ => none) = _
    cases hy : Endweave.compose direction packetId after x with
    | ok y =>
      rw [hy] at hrest
      exact hrest.1.symm
    | error user =>
      rw [hy] at hrest
      exact hrest.1.symm

end Translate

end Endweave
