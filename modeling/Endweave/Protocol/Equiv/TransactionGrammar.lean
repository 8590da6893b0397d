import Endweave.Codec.Equiv.Runs
import Endweave.Protocol.Packets.TransactionGrammar

/-!
# What a server makes of a client's `InventoryTransaction`

`rewriteInventoryTransaction_runs` says what the handler prints for any packet of the new grammar,
`writeV975_codes` what the server reads when the slots are where it looks for them, and
`gate_of_received` that it does not read the packet when they are not.
-/

namespace Endweave.V975ToV1001

open Wire PacketReader PacketWriter PacketWrapper

/-! ### What the handler prints -/

theorem passthroughLegacySlot_runs {c c' : PacketReader} {slot : LegacySetItemSlot}
    (h : legacySetItemSlotType.read c = .ok slot c') :
    Runs passthroughLegacySlot c c' (legacySetItemSlotType.write slot) () := by
  obtain ⟨containerId, c₁, hid, h⟩ := bind_eq_ok h
  obtain ⟨slots, c₂, hslots, h⟩ := bind_eq_ok h
  obtain ⟨rfl, rfl⟩ := pure_eq_ok_iff.mp h
  apply Runs.passthrough hid
  refine runs_passthroughLoop (B := byte) (fun s c c' hs => ?_) rfl hslots
  exact (runs_passthrough hs).last rfl

theorem passthroughLegacySlots_runs {hasLegacy : Bool} {c c' : PacketReader}
    {slots : { slots : List LegacySetItemSlot // hasLegacy = false → slots = [] }}
    (h : readLegacySlots hasLegacy c = .ok slots c') :
    Runs (passthroughLegacySlots hasLegacy) c c' (writeLegacySlots hasLegacy slots.val) () := by
  cases hasLegacy with
  | false =>
    obtain ⟨rfl, rfl⟩ := pure_eq_ok_iff.mp h
    exact Runs.pure c ()
  | true =>
    obtain ⟨slots', c₁, hslots, h⟩ := bind_eq_ok h
    obtain ⟨rfl, rfl⟩ := pure_eq_ok_iff.mp h
    exact runs_passthroughLoop (B := legacySetItemSlotType)
      (fun _ _ _ => passthroughLegacySlot_runs) rfl hslots

theorem readPresence_runs {T : FieldType Int} {c c' : PacketReader} {value : Option Int}
    (h : presence T c = .ok value c') : Runs (readPresence T) c c' (pure ()) value := by
  obtain ⟨sentinel, c₁, hsentinel, h⟩ := bind_eq_ok h
  obtain ⟨gate, c₂, hgate, h⟩ := bind_eq_ok h
  refine Runs.read hsentinel (Runs.read hgate ?_)
  cases gate with
  | false =>
    obtain ⟨rfl, rfl⟩ := pure_eq_ok_iff.mp h
    exact Runs.pure c₂ none
  | true =>
    obtain ⟨v, c₃, hv, h⟩ := bind_eq_ok h
    obtain ⟨rfl, rfl⟩ := pure_eq_ok_iff.mp h
    exact Runs.read hv (Runs.pure c₃ (some v))

theorem rewriteAction_runs {c c' : PacketReader} {action : InventoryAction}
    (h : readActionV1001 c = .ok action c') :
    Runs rewriteAction c c' (inventoryAction.write action) () := by
  obtain ⟨sourceType, c₁, hsource, h⟩ := bind_eq_ok h
  obtain ⟨windowId, c₂, hwindow, h⟩ := bind_eq_ok h
  obtain ⟨sourceFlags, c₃, hflags, h⟩ := bind_eq_ok h
  obtain ⟨slot, c₄, hslot, h⟩ := bind_eq_ok h
  obtain ⟨oldItem, c₅, hold, h⟩ := bind_eq_ok h
  obtain ⟨newItem, c₆, hnew, h⟩ := bind_eq_ok h
  obtain ⟨rfl, rfl⟩ := pure_eq_ok_iff.mp h
  apply Runs.read hsource
  apply Runs.readThen (readPresence_runs hwindow)
  apply Runs.readThen (readPresence_runs hflags)
  apply Runs.read hslot
  apply Runs.read hold
  apply Runs.read hnew
  -- the old wire gets the same action from the writer of the other grammar
  exact runs_write inventoryAction _ c₆

theorem heldItem_runs {c c' : PacketReader} {item : ItemInstance}
    (h : itemInstanceV975.read c = .ok item c') :
    Runs (map itemInstanceV975 itemInstance) c c' (itemInstance.write item) item := runs_map h

theorem rewriteUseItem_runs {c c' : PacketReader} {data : UseItemData}
    (h : useItemV1001.read c = .ok data c') :
    Runs rewriteUseItem c c' (useItemV975.write data) () := by
  obtain ⟨actionType, c₁, haction, h⟩ := bind_eq_ok h
  obtain ⟨triggerType, c₂, htrigger, h⟩ := bind_eq_ok h
  obtain ⟨blockPosition, c₃, hposition, h⟩ := bind_eq_ok h
  obtain ⟨blockFace, c₄, hface, h⟩ := bind_eq_ok h
  obtain ⟨hotBarSlot, c₅, hslot, h⟩ := bind_eq_ok h
  obtain ⟨heldItem, c₆, hitem, h⟩ := bind_eq_ok h
  obtain ⟨position, c₇, hpos, h⟩ := bind_eq_ok h
  obtain ⟨clickedPosition, c₈, hclicked, h⟩ := bind_eq_ok h
  obtain ⟨blockRuntimeId, c₉, hruntime, h⟩ := bind_eq_ok h
  obtain ⟨clientPrediction, c₁₀, hprediction, h⟩ := bind_eq_ok h
  obtain ⟨clientCooldownState, c₁₁, hcooldown, h⟩ := bind_eq_ok h
  obtain ⟨rfl, rfl⟩ := pure_eq_ok_iff.mp h
  refine Runs.read haction (Runs.write ?_)
  refine Runs.read htrigger (Runs.write ?_)
  apply Runs.passthrough hposition
  refine Runs.read hface (Runs.write ?_)
  apply Runs.passthrough hslot
  apply (heldItem_runs hitem).bind
  apply Runs.passthrough hpos
  apply Runs.passthrough hclicked
  apply Runs.passthrough hruntime
  refine Runs.read hprediction (Runs.write ?_)
  exact (runs_passthrough hcooldown).last rfl

theorem rewriteUseItemOnEntity_runs {c c' : PacketReader} {data : UseItemOnEntityData}
    (h : useItemOnEntityV1001.read c = .ok data c') :
    Runs rewriteUseItemOnEntity c c' (useItemOnEntityV975.write data) () := by
  obtain ⟨targetEntityRuntimeId, c₁, htarget, h⟩ := bind_eq_ok h
  obtain ⟨actionType, c₂, haction, h⟩ := bind_eq_ok h
  obtain ⟨hotBarSlot, c₃, hslot, h⟩ := bind_eq_ok h
  obtain ⟨heldItem, c₄, hitem, h⟩ := bind_eq_ok h
  obtain ⟨position, c₅, hpos, h⟩ := bind_eq_ok h
  obtain ⟨clickedPosition, c₆, hclicked, h⟩ := bind_eq_ok h
  obtain ⟨rfl, rfl⟩ := pure_eq_ok_iff.mp h
  apply Runs.passthrough htarget
  refine Runs.read haction (Runs.write ?_)
  apply Runs.passthrough hslot
  apply (heldItem_runs hitem).bind
  apply Runs.passthrough hpos
  exact (runs_passthrough hclicked).last rfl

theorem rewriteReleaseItem_runs {c c' : PacketReader} {data : ReleaseItemData}
    (h : releaseItemV1001.read c = .ok data c') :
    Runs rewriteReleaseItem c c' (releaseItemV975.write data) () := by
  obtain ⟨actionType, c₁, haction, h⟩ := bind_eq_ok h
  obtain ⟨hotBarSlot, c₂, hslot, h⟩ := bind_eq_ok h
  obtain ⟨heldItem, c₃, hitem, h⟩ := bind_eq_ok h
  obtain ⟨headPosition, c₄, hhead, h⟩ := bind_eq_ok h
  obtain ⟨rfl, rfl⟩ := pure_eq_ok_iff.mp h
  refine Runs.read haction (Runs.write ?_)
  apply Runs.passthrough hslot
  apply (heldItem_runs hitem).bind
  exact (runs_passthrough hhead).last rfl

/-- A reader that wraps its result. -/
theorem map_eq_ok {ε σ α γ : Type} {m : EStateM ε σ α} {f : α → γ} {s s' : σ} {b : γ}
    (h : (f <$> m) s = .ok b s') : ∃ a, m s = .ok a s' ∧ f a = b := by
  rw [map_eq_pure_bind] at h
  obtain ⟨a, s₁, ha, h⟩ := bind_eq_ok h
  obtain ⟨hb, rfl⟩ := pure_eq_ok_iff.mp h
  exact ⟨a, ha, hb⟩

/-- The data that are read have the transaction type that has selected them. -/
theorem readTransactionData_type {c c' : PacketReader} {transactionType : Int}
    {data : TransactionData} {useItem : FieldType UseItemData}
    {useItemOnEntity : FieldType UseItemOnEntityData} {releaseItem : FieldType ReleaseItemData}
    (h : readTransactionData transactionType useItem useItemOnEntity releaseItem c = .ok data c') :
    data.transactionType = transactionType := by
  unfold readTransactionData at h
  split_ifs at h with huse hentity hrelease
  · obtain ⟨data, _, rfl⟩ := map_eq_ok h
    exact huse.symm
  · obtain ⟨data, _, rfl⟩ := map_eq_ok h
    exact hentity.symm
  · obtain ⟨data, _, rfl⟩ := map_eq_ok h
    exact hrelease.symm
  · obtain ⟨rfl, _⟩ := pure_eq_ok_iff.mp h
    rfl

theorem transactionData_runs {c c' : PacketReader} {transactionType : Int} {data : TransactionData}
    (h : readTransactionData transactionType useItemV1001 useItemOnEntityV1001 releaseItemV1001 c =
      .ok data c') :
    Runs (rewriteTransactionData transactionType rewriteUseItem rewriteUseItemOnEntity
      rewriteReleaseItem) c c' (writeTransactionDataV975 data) () := by
  unfold readTransactionData at h
  unfold rewriteTransactionData
  split_ifs at h ⊢ with huse hentity hrelease
  · obtain ⟨data, hdata, rfl⟩ := map_eq_ok h
    exact rewriteUseItem_runs hdata
  · obtain ⟨data, hdata, rfl⟩ := map_eq_ok h
    exact rewriteUseItemOnEntity_runs hdata
  · obtain ⟨data, hdata, rfl⟩ := map_eq_ok h
    exact rewriteReleaseItem_runs hdata
  · obtain ⟨rfl, rfl⟩ := pure_eq_ok_iff.mp h
    exact Runs.pure c ()

/-- **What the handler prints**: the packet that it has read, on the old wire, with the legacy slots
behind the bool of the new one. -/
theorem rewriteInventoryTransaction_runs {c c' : PacketReader} {p : TransactionV1001}
    (h : readTransactionV1001 c = .ok p c') :
    Runs rewriteInventoryTransaction c c' p.writeV975 () := by
  obtain ⟨legacyRequestId, c₁, hid, h⟩ := bind_eq_ok h
  obtain ⟨hasLegacy, c₂, hhas, h⟩ := bind_eq_ok h
  obtain ⟨legacySlots, c₃, hslots, h⟩ := bind_eq_ok h
  obtain ⟨hasType, c₄, hhasType, h⟩ := bind_eq_ok h
  obtain ⟨transactionType, c₅, htype, h⟩ := bind_eq_ok h
  obtain ⟨hasActions, c₆, hhasActions, h⟩ := bind_eq_ok h
  obtain ⟨actions, c₇, hactions, h⟩ := bind_eq_ok h
  obtain ⟨data, c₈, hdata, h⟩ := bind_eq_ok h
  obtain ⟨rfl, rfl⟩ := pure_eq_ok_iff.mp h
  have htypeEq : data.transactionType = transactionType := readTransactionData_type hdata
  apply Runs.passthrough hid
  apply Runs.read hhas
  apply (passthroughLegacySlots_runs hslots).bind
  apply Runs.read hhasType
  rw [htypeEq]
  apply Runs.passthrough htype
  apply Runs.read hhasActions
  refine (runs_passthroughLoop (B := inventoryAction) (fun _ _ _ => rewriteAction_runs) rfl
    hactions).bind ?_
  exact transactionData_runs hdata

/-! ### What the old wire makes of it -/

theorem legacySlot_roundTrips {p : TransactionV1001} (h : p.Canonical) {slot : LegacySetItemSlot}
    (hslot : slot ∈ p.legacySlots) : legacySetItemSlotType.RoundTrips slot := by
  have hc := h.legacySlots.2 slot hslot
  have hslots : (arrayType byte).RoundTrips slot.slots :=
    arrayType_roundTrips hc.slots.1 fun s hs => byte_roundTrips (hc.slots.2 s hs)
  exact Codes.bind (byte_roundTrips hc.containerId) (Codes.last hslots rfl)

theorem legacySlots_roundTrips {p : TransactionV1001} (h : p.Canonical) :
    (arrayType legacySetItemSlotType).RoundTrips p.legacySlots :=
  arrayType_roundTrips h.legacySlots.1 fun _ hslot => legacySlot_roundTrips h hslot

/-- The reader finds the slots that have been written for its own bool. -/
theorem readLegacySlots_codes {hasLegacy : Bool}
    {slots : { slots : List LegacySetItemSlot // hasLegacy = false → slots = [] }}
    (h : (arrayType legacySetItemSlotType).RoundTrips slots.val) :
    Codes (writeLegacySlots hasLegacy slots.val) (readLegacySlots hasLegacy) slots := by
  cases hasLegacy with
  | false =>
    have hnil : slots = ⟨[], fun _ => rfl⟩ := Subtype.ext (slots.property rfl)
    rw [hnil]
    exact Codes.pure _
  | true => exact Codes.last h rfl

theorem each_write_onOldWire (actions : List InventoryAction) :
    each inventoryAction.write (actions.map InventoryAction.onOldWire) =
      each inventoryAction.write actions := by
  induction actions with
  | nil => rfl
  | cons action actions ih =>
    rw [List.map_cons, each, each, ih, inventoryAction_write_onOldWire]

theorem actions_codes {actions : List InventoryAction} (hlen : actions.length < 2 ^ 32)
    (h : ∀ action ∈ actions, action.CanonicalV1001) (hs : ∀ action ∈ actions, action.Sourced) :
    Codes ((arrayType inventoryAction).write actions) (arrayType inventoryAction).read
      (actions.map InventoryAction.onOldWire) := by
  have hwrite : (arrayType inventoryAction).write (actions.map InventoryAction.onOldWire) =
      (arrayType inventoryAction).write actions := by
    show (do writeUVarint _; each inventoryAction.write _) = _
    rw [each_write_onOldWire, List.length_map]
    rfl
  rw [← hwrite]
  refine arrayType_roundTrips (by rwa [List.length_map]) fun action haction => ?_
  obtain ⟨action', haction', rfl⟩ := List.mem_map.mp haction
  exact inventoryAction_roundTrips ((h action' haction').onOldWire (hs action' haction'))

theorem blockPos_accepts (v : Int × Int × Int) : Accepts (blockPos.write v) blockPos.read :=
  ⟨_, Codes.bind (varInt_codes v.1) <| Codes.bind (varInt_codes v.2.1) <|
    Codes.last (varInt_codes v.2.2) rfl⟩

theorem useItem_accepts {data : UseItemData} (h : data.heldItem.CanonicalV975) :
    Accepts (useItemV975.write data) useItemV975.read := by
  apply Codes.accepts (uvarInt_codes data.actionType)
  apply Codes.accepts (uvarInt_codes data.triggerType)
  refine Accepts.bind (blockPos_accepts data.blockPosition) fun _ => ?_
  apply Codes.accepts (varInt_codes data.blockFace)
  apply Codes.accepts (varInt_codes data.hotBarSlot)
  apply Codes.accepts (itemInstance_codes h)
  apply Codes.accepts (vec3_roundTrips data.position)
  apply Codes.accepts (vec3_roundTrips data.clickedPosition)
  apply Codes.accepts (uvarInt_codes data.blockRuntimeId)
  apply Codes.accepts (uvarInt_codes data.clientPrediction)
  exact ⟨_, Codes.last (byte_codes data.clientCooldownState) rfl⟩

theorem useItemOnEntity_accepts {data : UseItemOnEntityData} (h : data.heldItem.CanonicalV975) :
    Accepts (useItemOnEntityV975.write data) useItemOnEntityV975.read := by
  apply Codes.accepts (uvarInt64_codes data.targetEntityRuntimeId)
  apply Codes.accepts (uvarInt_codes data.actionType)
  apply Codes.accepts (varInt_codes data.hotBarSlot)
  apply Codes.accepts (itemInstance_codes h)
  apply Codes.accepts (vec3_roundTrips data.position)
  exact ⟨_, Codes.last (vec3_roundTrips data.clickedPosition) rfl⟩

theorem releaseItem_accepts {data : ReleaseItemData} (h : data.heldItem.CanonicalV975) :
    Accepts (releaseItemV975.write data) releaseItemV975.read := by
  apply Codes.accepts (uvarInt_codes data.actionType)
  apply Codes.accepts (varInt_codes data.hotBarSlot)
  apply Codes.accepts (itemInstance_codes h)
  exact ⟨_, Codes.last (vec3_roundTrips data.headPosition) rfl⟩

/-- The trailing data are read as some data of the same type. -/
theorem transactionData_codes {data : TransactionData}
    (h : ∀ item, data.heldItem = some item → item.CanonicalV975) :
    ∃ data' : TransactionData, data'.transactionType = data.transactionType ∧
      Codes (writeTransactionDataV975 data)
        (readTransactionData data.transactionType useItemV975 useItemOnEntityV975 releaseItemV975)
        data' := by
  cases data with
  | plain transactionType isPlain =>
    refine ⟨.plain transactionType isPlain, rfl, ?_⟩
    rw [TransactionData.transactionType, readTransactionData, dif_neg isPlain.1,
      dif_neg isPlain.2.1, dif_neg isPlain.2.2]
    exact Codes.pure _
  | useItem data =>
    obtain ⟨data', hcodes⟩ := useItem_accepts (h _ rfl)
    exact ⟨.useItem data', rfl, hcodes.map TransactionData.useItem⟩
  | useItemOnEntity data =>
    obtain ⟨data', hcodes⟩ := useItemOnEntity_accepts (h _ rfl)
    exact ⟨.useItemOnEntity data', rfl, hcodes.map TransactionData.useItemOnEntity⟩
  | releaseItem data =>
    obtain ⟨data', hcodes⟩ := releaseItem_accepts (h _ rfl)
    exact ⟨.releaseItem data', rfl, hcodes.map TransactionData.releaseItem⟩

/-! ### What the server receives -/

section Received

variable {p : TransactionV1001} {out : List UInt8} {same : ItemInstance → ItemInstance → Prop}

/-- The handler has only printed actions whose source is complete. -/
theorem sourced_of_writeV975 {out' : List UInt8} (h : p.writeV975 out = .ok () out') :
    ∀ action ∈ p.actions, action.Sourced := by
  obtain ⟨_, s₁, _, h⟩ := bind_eq_ok h
  obtain ⟨_, s₂, _, h⟩ := bind_eq_ok h
  obtain ⟨_, s₃, _, h⟩ := bind_eq_ok h
  obtain ⟨_, s₄, hactions, _⟩ := bind_eq_ok h
  obtain ⟨_, s₅, _, hactions⟩ := bind_eq_ok hactions
  intro action haction
  obtain ⟨t, t', hwrite⟩ := exists_of_mem_each hactions action haction
  exact sourced_of_write hwrite

/-- With the slots where the server looks for them, it reads the packet. -/
theorem writeV975_codes (h : p.Canonical) (hs : ∀ action ∈ p.actions, action.Sourced)
    (hgate : p.hasLegacy = (p.legacyRequestId != 0)) :
    ∃ q : InventoryTransaction, Codes p.writeV975 readTransactionV975 q ∧
      q.legacyRequestId = p.legacyRequestId ∧ q.legacySlots = p.legacySlots ∧
      q.data.transactionType = p.data.transactionType ∧
      q.actions = p.actions.map InventoryAction.onOldWire := by
  obtain ⟨data, htype, hdata⟩ := transactionData_codes h.heldItem
  have habsent : (p.legacyRequestId != 0) = false → p.legacySlots = [] := by
    rw [← hgate]
    exact p.legacySlots_of_absent
  have hslots : Codes (writeLegacySlots p.hasLegacy p.legacySlots)
      (readLegacySlots (p.legacyRequestId != 0)) ⟨p.legacySlots, habsent⟩ := by
    rw [hgate]
    exact @readLegacySlots_codes _ ⟨p.legacySlots, habsent⟩ (legacySlots_roundTrips h)
  refine ⟨{
    legacyRequestId := p.legacyRequestId
    legacySlots := p.legacySlots
    legacySlots_of_zero := fun hzero => habsent (by rw [hzero]; rfl)
    actions := p.actions.map InventoryAction.onOldWire
    data := data }, ?_, rfl, rfl, htype, rfl⟩
  apply Codes.bind (varInt_roundTrips h.legacyRequestId)
  apply Codes.bind hslots
  apply Codes.bind (uvarInt_roundTrips h.transactionType)
  apply Codes.bind (actions_codes h.actions.1 h.actions.2 hs)
  exact Codes.last hdata rfl

theorem received_iff_of_gate (h : p.Canonical) (hout : p.writeV975 [] = .ok () out)
    (hgate : p.hasLegacy = (p.legacyRequestId != 0)) :
    Received same out p ↔ ∀ action ∈ p.actions, SameAction same action action.onOldWire := by
  obtain ⟨q, hq, hid, hslots, htype, hactions⟩ :=
    writeV975_codes h (sourced_of_writeV975 hout) hgate
  have hread := hq.parses hout
  have hsame_iff : List.Forall₂ (SameAction same) p.actions q.actions ↔
      ∀ action ∈ p.actions, SameAction same action action.onOldWire := by
    rw [hactions, List.forall₂_map_right_iff, List.forall₂_same]
  rw [← hsame_iff]
  constructor
  · rintro ⟨q', hread', _, _, _, hsame⟩
    rw [hread] at hread'
    obtain ⟨rfl, _⟩ := EStateM.Result.ok.inj hread'
    exact hsame
  · intro hsame
    exact ⟨q, hread, hid, hslots, htype, hsame⟩

/-- The slots that the handler prints, whatever the request id. -/
def TransactionV1001.legacySlotBytes (p : TransactionV1001) : List UInt8 :=
  if p.hasLegacy then arrayBytes legacySetItemSlotType.bytes p.legacySlots else []

theorem legacySlots_writes (h : p.Canonical) :
    Writes (writeLegacySlots p.hasLegacy p.legacySlots) p.legacySlotBytes := by
  unfold writeLegacySlots TransactionV1001.legacySlotBytes
  split_ifs with hlegacy
  · rw [← arrayType_bytes h.legacySlots.1 fun slot hslot => legacySlot_roundTrips h hslot]
    exact (legacySlots_roundTrips h).writes
  · exact Writes.pure

theorem actions_writes (h : p.Canonical) (hs : ∀ action ∈ p.actions, action.Sourced) :
    Writes ((arrayType inventoryAction).write p.actions)
      (arrayBytes inventoryAction.bytes p.actions) := by
  refine (uvarInt_codes p.actions.length).writes.bind (Writes.each fun action haction => ?_)
  exact (inventoryAction_codes (h.actions.2 action haction) (hs action haction)).writes

/-- What the handler has printed, field by field. -/
theorem writeV975_bytes (h : p.Canonical) (hout : p.writeV975 [] = .ok () out) :
    out = varInt.bytes p.legacyRequestId ++ (p.legacySlotBytes ++
      (uvarInt.bytes p.data.transactionType ++ (arrayBytes inventoryAction.bytes p.actions ++
        written (writeTransactionDataV975 p.data)))) := by
  have hs := sourced_of_writeV975 hout
  obtain ⟨data, _, hdata⟩ := transactionData_codes h.heldItem
  have hw : Writes p.writeV975 _ :=
    (varInt_codes p.legacyRequestId).writes.bind <| (legacySlots_writes h).bind <|
      (uvarInt_codes p.data.transactionType).writes.bind <| (actions_writes h hs).bind hdata.writes
  rw [hw, List.nil_append] at hout
  exact (EStateM.Result.ok.inj hout).2.symm

/-- The fields that the server has read, and where it stood between them. -/
theorem readTransactionV975_fields {c c' : PacketReader} {q : InventoryTransaction}
    (h : readTransactionV975 c = .ok q c') :
    ∃ c₁ c₂ c₃ c₄, varInt.read c = .ok q.legacyRequestId c₁ ∧
      (∃ slots, readLegacySlots (q.legacyRequestId != 0) c₁ = .ok slots c₂ ∧
        slots.val = q.legacySlots) ∧
      uvarInt.read c₂ = .ok q.data.transactionType c₃ ∧
      (arrayType inventoryAction).read c₃ = .ok q.actions c₄ ∧
      readTransactionData q.data.transactionType useItemV975 useItemOnEntityV975 releaseItemV975
        c₄ = .ok q.data c' := by
  obtain ⟨legacyRequestId, c₁, hid, h⟩ := bind_eq_ok h
  obtain ⟨legacySlots, c₂, hslots, h⟩ := bind_eq_ok h
  obtain ⟨transactionType, c₃, htype, h⟩ := bind_eq_ok h
  obtain ⟨actions, c₄, hactions, h⟩ := bind_eq_ok h
  obtain ⟨data, c₅, hdata, h⟩ := bind_eq_ok h
  obtain ⟨rfl, rfl⟩ := pure_eq_ok_iff.mp h
  have htypeEq : data.transactionType = transactionType := readTransactionData_type hdata
  rw [← htypeEq] at htype hdata
  exact ⟨c₁, c₂, c₃, c₄, hid, ⟨legacySlots, hslots, rfl⟩, htype, hactions, hdata⟩

theorem writeTransactionDataV975_normal {data : TransactionData} (h : data.transactionType = 0) :
    writeTransactionDataV975 data = pure () := by
  cases data with
  | plain _ _ => rfl
  | useItem _ => exact absurd (show (2 : Int) = 0 from h) (by decide)
  | useItemOnEntity _ => exact absurd (show (3 : Int) = 0 from h) (by decide)
  | releaseItem _ => exact absurd (show (4 : Int) = 0 from h) (by decide)

/-- Without slots in front of a request id other than zero, the server takes the type for their
count, and the count of the actions for the type. -/
theorem not_received_of_absent (h : p.Canonical) (hout : p.writeV975 [] = .ok () out)
    (hlegacy : p.hasLegacy = false) (hid : p.legacyRequestId ≠ 0) : ¬ Received same out p := by
  rintro ⟨q, hq, hidEq, hslotsEq, htypeEq, -⟩
  have hbytes := writeV975_bytes h hout
  rw [TransactionV1001.legacySlotBytes, hlegacy, if_neg Bool.false_ne_true, List.nil_append]
    at hbytes
  obtain ⟨c₁, c₂, c₃, c₄, hc₁, ⟨slots, hc₂, hslots⟩, hc₃, hc₄, -⟩ := readTransactionV975_fields hq
  -- the request id
  obtain ⟨-, hin, hrest⟩ :=
    (varInt_roundTrips h.legacyRequestId).reads.of_ok (Cursor.within_start _) hbytes hc₁
  -- the slots: as many as the type says, hence none
  rw [readLegacySlots, dif_pos (by simpa [hidEq] using hid)] at hc₂
  obtain ⟨slots', c, harray, hpure⟩ := bind_eq_ok hc₂
  obtain ⟨rfl, rfl⟩ := pure_eq_ok_iff.mp hpure
  obtain ⟨count, c', hcount, hcollect⟩ := bind_eq_ok harray
  obtain ⟨rfl, hin, hrest⟩ := (uvarInt_roundTrips h.transactionType).reads.of_ok hin hrest hcount
  have hnormal : p.data.transactionType = 0 := by
    have hlen : slots'.length = p.data.transactionType.toNat := length_of_collect hcollect
    have hnil : slots' = [] := hslots.trans (hslotsEq.trans (p.legacySlots_of_absent hlegacy))
    rw [hnil, List.length_nil] at hlen
    have hnonneg := h.transactionType.1
    omega
  rw [hnormal] at hcollect
  obtain ⟨_, rfl⟩ := pure_eq_ok_iff.mp hcollect
  -- the type: the count of the actions, hence zero
  have hcountRange : InUInt32 p.actions.length := by
    have hlen := h.actions.1
    exact ⟨by omega, by omega⟩
  rw [arrayBytes, List.append_assoc] at hrest
  obtain ⟨htype, hin, hrest⟩ := (uvarInt_roundTrips hcountRange).reads.of_ok hin hrest hc₃
  have hactions : p.actions = [] := by
    rw [← List.length_eq_zero_iff]
    have hzero : (p.actions.length : Int) = 0 := htype.symm.trans (htypeEq.trans hnormal)
    exact_mod_cast hzero
  -- nothing is left for the actions
  rw [hactions, writeTransactionDataV975_normal hnormal, Writes.pure.written] at hrest
  obtain ⟨_, c'', hcount', _⟩ := bind_eq_ok hc₄
  exact rest_ne_nil_of_uvarInt hcount' hrest

/-- With slots behind the request id zero, the server takes their count for the type, and the type
for the count of the actions; the true count is left over. -/
theorem not_received_of_zero (h : p.Canonical) (hout : p.writeV975 [] = .ok () out)
    (hlegacy : p.hasLegacy = true) (hid : p.legacyRequestId = 0) : ¬ Received same out p := by
  rintro ⟨q, hq, hidEq, hslotsEq, htypeEq, -⟩
  have hbytes := writeV975_bytes h hout
  rw [TransactionV1001.legacySlotBytes, hlegacy, if_pos rfl, arrayBytes, List.append_assoc]
    at hbytes
  obtain ⟨c₁, c₂, c₃, c₄, hc₁, ⟨slots, hc₂, hslots⟩, hc₃, hc₄, hc₅⟩ := readTransactionV975_fields hq
  -- the request id, and no slots behind it
  obtain ⟨-, hin, hrest⟩ :=
    (varInt_roundTrips h.legacyRequestId).reads.of_ok (Cursor.within_start _) hbytes hc₁
  rw [readLegacySlots, dif_neg (by simp [hidEq, hid])] at hc₂
  obtain ⟨rfl, rfl⟩ := pure_eq_ok_iff.mp hc₂
  have hnil : p.legacySlots = [] := hslotsEq.symm.trans hslots.symm
  rw [hnil, List.flatMap_nil, List.nil_append] at hrest
  -- the type: the count of the slots, which is zero
  have hzero : InUInt32 ((([] : List LegacySetItemSlot).length : Nat) : Int) := by decide
  obtain ⟨htype, hin, hrest⟩ := (uvarInt_roundTrips hzero).reads.of_ok hin hrest hc₃
  have hnormal : p.data.transactionType = 0 := htypeEq.symm.trans htype
  -- the actions: as many as the type says
  obtain ⟨count, c, hcount, hcollect⟩ := bind_eq_ok hc₄
  obtain ⟨rfl, -, hrest⟩ := (uvarInt_roundTrips h.transactionType).reads.of_ok hin hrest hcount
  rw [hnormal] at hcollect
  obtain ⟨_, rfl⟩ := pure_eq_ok_iff.mp hcollect
  -- no trailing data, so that the count of the actions is left
  rw [htypeEq, hnormal, readTransactionData, dif_neg (by decide), dif_neg (by decide),
    dif_neg (by decide)] at hc₅
  obtain ⟨_, hend⟩ := pure_eq_ok_iff.mp hc₅
  rw [hend, Cursor.rest, List.drop_length, arrayBytes] at hrest
  have hcountNil := List.append_eq_nil_iff.mp hrest.symm
  exact uvarInt_bytes_ne_nil _ (List.append_eq_nil_iff.mp hcountNil.1).1

theorem gate_of_received (h : p.Canonical) (hout : p.writeV975 [] = .ok () out)
    (hr : Received same out p) : p.hasLegacy = (p.legacyRequestId != 0) := by
  cases hlegacy : p.hasLegacy with
  | false =>
    by_contra hid
    exact not_received_of_absent h hout hlegacy (by simpa using Ne.symm hid) hr
  | true =>
    by_contra hid
    exact not_received_of_zero h hout hlegacy (by simpa using Ne.symm hid) hr

end Received

/-! ### Items -/

/-- The old wire keeps the stack. -/
theorem sameStack_onOldWire (item : ItemInstance) : SameStack item item.onOldWire := by
  unfold ItemInstance.onOldWire
  split_ifs with hair
  · constructor <;> intros <;> first | exact hair.symm | contradiction
  · constructor <;> intros <;> first | exact wrapSigned_emod 31 _ | rfl

theorem sameAction_eq_iff {action : InventoryAction} (h : action.CanonicalV1001) :
    SameAction Eq action action.onOldWire ↔
      action.oldItem.Canonical ∧ action.newItem.Canonical := by
  rw [← h.oldItem.onOldWire_eq_iff, ← h.newItem.onOldWire_eq_iff]
  constructor
  · intro hsame
    exact ⟨hsame.oldItem.symm, hsame.newItem.symm⟩
  · rintro ⟨hold, hnew⟩
    exact ⟨rfl, hold.symm, hnew.symm⟩

/-- **What the server receives** is the packet that the client has sent exactly when the bool of the
client says whether its request id is other than zero.  Its items then are the same stacks; they are
equal field by field exactly when the old descriptor has all of their fields. -/
theorem rewriteInventoryTransaction_received_iff {payload out : List UInt8} {user : UserConnection}
    {p : TransactionV1001} (h : p.Canonical)
    (hp : readTransactionV1001 ⟨payload, 0⟩ = .ok p ⟨payload, payload.length⟩)
    (hout : rewriteInventoryTransaction.apply payload user = .ok out) :
    (Received SameStack out p ↔ p.hasLegacy = (p.legacyRequestId != 0)) ∧
    (Received Eq out p ↔ p.hasLegacy = (p.legacyRequestId != 0) ∧
      ∀ action ∈ p.actions, action.oldItem.Canonical ∧ action.newItem.Canonical) := by
  have hprinted : p.writeV975 [] = .ok () out := (rewriteInventoryTransaction_runs hp).printed hout
  constructor
  · constructor
    · exact gate_of_received h hprinted
    · intro hgate
      rw [received_iff_of_gate h hprinted hgate]
      intro action _
      exact ⟨rfl, sameStack_onOldWire _, sameStack_onOldWire _⟩
  · constructor
    · intro hr
      have hgate := gate_of_received h hprinted hr
      rw [received_iff_of_gate h hprinted hgate] at hr
      exact ⟨hgate, fun action ha => (sameAction_eq_iff (h.actions.2 action ha)).mp (hr action ha)⟩
    · rintro ⟨hgate, hitems⟩
      rw [received_iff_of_gate h hprinted hgate]
      exact fun action ha => (sameAction_eq_iff (h.actions.2 action ha)).mpr (hitems action ha)

/-- The sample packet is received. -/
theorem rewriteInventoryTransaction_received_sample :
    ∃ out, rewriteInventoryTransaction.apply samplePayloadV1001
      { address := "10.0.0.7:50123", clientProtocol := 1001, serverProtocol := 975 } = .ok out ∧
      Received Eq out sampleTransactionV1001 := by
  have happly : rewriteInventoryTransaction.apply samplePayloadV1001
      { address := "10.0.0.7:50123", clientProtocol := 1001, serverProtocol := 975 } =
        .ok [3, 1, 28, 2, 0, 8, 0, 1, 0, 1, 4, 0, 10, 3, 0, 0, 1, 34, 14, 0] := by decide +kernel
  refine ⟨[3, 1, 28, 2, 0, 8, 0, 1, 0, 1, 4, 0, 10, 3, 0, 0, 1, 34, 14, 0], happly, ?_⟩
  have hreceived := rewriteInventoryTransaction_received_iff sampleTransactionV1001_canonical
    samplePayloadV1001_reads happly
  refine hreceived.2.mpr ⟨rfl, fun action haction => ?_⟩
  obtain rfl := List.mem_singleton.mp haction
  exact ⟨air_canonical, by constructor <;> decide⟩

/-- A request id without slots: the server runs out of bytes. -/
theorem transactionWithoutSlots_not_received :
    transactionWithoutSlots.Canonical ∧
    readTransactionV1001 ⟨[3, 0, 1, 0, 1, 0], 0⟩ =
      .ok transactionWithoutSlots ⟨[3, 0, 1, 0, 1, 0], 6⟩ ∧
    rewriteInventoryTransaction.apply [3, 0, 1, 0, 1, 0]
      { address := "10.0.0.7:50123", clientProtocol := 1001, serverProtocol := 975 } =
        .ok [3, 0, 0] ∧
    readTransactionV975 ⟨[3, 0, 0], 0⟩ = .error .indexError ⟨[3, 0, 0], 3⟩ ∧
    ∀ same, ¬ Received same [3, 0, 0] transactionWithoutSlots := by
  refine ⟨transactionWithoutSlots_canonical, rfl, by decide +kernel, rfl, ?_⟩
  rintro same ⟨q, hq, _⟩
  rw [show readTransactionV975 ⟨[3, 0, 0], 0⟩ = .error .indexError ⟨[3, 0, 0], 3⟩ from rfl] at hq
  cases hq

end Endweave.V975ToV1001
