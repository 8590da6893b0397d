import Endweave.Codec.Equiv.Wrapper
import Endweave.Protocol.Packets.Interface

/-!
# Correctness of the handlers of packs, books, screens and options

Each handler turns the packet of one version into that of its neighbour (`_delivers`).
-/

namespace Endweave

open Wire PacketWrapper

/-! ### ResourcePackStack -/

namespace Pack

variable {p : Pack}

theorem passthroughPack_rewrites (h : p.Canonical) :
    Rewrites passthroughPack p.bytes p.bytes () := by
  apply Rewrites.passthrough (string_roundTrips h.id)
  apply Rewrites.passthrough (string_roundTrips h.version)
  exact (passthrough_rewrites (string_roundTrips h.subPackName)).last rfl

theorem skipPack_rewrites (h : p.Canonical) : Rewrites skipPack p.bytes [] () := by
  apply Rewrites.read (string_roundTrips h.id)
  apply Rewrites.read (string_roundTrips h.version)
  exact (read_rewrites (string_roundTrips h.subPackName).reads).last rfl

end Pack

namespace ResourcePackStack

variable {p : ResourcePackStack}

theorem texturePacks_rewrites (h : p.Canonical) :
    Rewrites (passthroughLoop passthroughPack) (arrayBytes Pack.bytes p.texturePacks)
      (arrayBytes Pack.bytes p.texturePacks) () :=
  passthroughLoop_rewrites h.textureCount fun pack hpack =>
    Pack.passthroughPack_rewrites (h.texturePacks pack hpack)

theorem upgrade_delivers (h : p.Canonical) :
    Delivers V860ToV898.rewriteResourcePackStack (format.form 0 p) (format.form 1 p) := by
  have hcount : InUInt32 p.behaviorPacks.length := ⟨by omega, by have := h.behaviorCount; omega⟩
  have hskip : Rewrites (Wire.repeatM skipPack p.behaviorPacks.length)
      (p.behaviorPacks.flatMap Pack.bytes) [] () :=
    Rewrites.repeatM_skips fun pack hpack => Pack.skipPack_rewrites (h.behaviorPacks pack hpack)
  show Delivers _ (_ ++ (arrayBytes Pack.bytes p.behaviorPacks ++ _)) _
  rw [arrayBytes, List.append_assoc]
  apply Delivers.passthrough (bool_roundTrips p.texturePackRequired)
  apply Delivers.read (uvarInt_roundTrips hcount)
  apply hskip.readThen_delivers
  exact (texturePacks_rewrites h).delivers p.rest

theorem downgrade_delivers (h : p.Canonical) (hbehavior : p.behaviorPacks = []) :
    Delivers V898ToV860.rewriteResourcePackStack (format.form 1 p) (format.form 0 p) := by
  show Delivers _ _ (_ ++ (arrayBytes Pack.bytes p.behaviorPacks ++ _))
  rw [hbehavior]
  apply Delivers.passthrough (bool_roundTrips p.texturePackRequired)
  apply Delivers.write (uvarInt_roundTrips (v := 0) (by decide))
  exact (texturePacks_rewrites h).delivers p.rest

end ResourcePackStack

/-! ### BookEdit -/

namespace BookEdit

variable {p : BookEdit}

theorem mapPages_rewrites {old new : FieldType Int} {action : BookEditAction}
    (hold : ∀ page ∈ action.pages, old.RoundTrips page)
    (hnew : ∀ page ∈ action.pages, new.RoundTrips page) :
    Rewrites (mapPages old new action.type.value) (action.pages.flatMap old.bytes)
      (action.pages.flatMap new.bytes) () := by
  have hmap : ∀ page ∈ action.pages,
      Rewrites (PacketWrapper.map old new) (old.bytes page) (new.bytes page) page :=
    fun page hpage => map_rewrites (hold page hpage).reads (hnew page hpage).writes
  cases action with
  | replacePage page | addPage page | deletePage page =>
    rw [BookEditAction.pages, List.flatMap_singleton, List.flatMap_singleton]
    exact (hmap page (List.mem_singleton_self page)).discard
  | swapPages page other =>
    have hfirst := hmap page (List.mem_cons_self ..)
    have hsecond := hmap other (List.mem_cons_of_mem _ (List.mem_singleton_self other))
    simp only [BookEditAction.pages, List.flatMap_cons, List.flatMap_nil, List.append_nil]
    exact hfirst.bind (hsecond.last rfl)
  | finalize => exact Rewrites.pure ()

theorem inByte_value (type : BookEditActionType) : InByte type.value := by
  cases type <;> decide

theorem upgrade_delivers (h : p.Canonical) :
    Delivers V924ToV898.rewriteBookEdit (format.form 0 p) (format.form 1 p) := by
  have haction := byte_roundTrips (inByte_value p.action.type)
  apply Delivers.read haction
  apply Delivers.read (byte_roundTrips h.bookSlot)
  apply Delivers.write (varInt_roundTrips h.bookSlot.inInt32)
  apply Delivers.write haction
  exact (mapPages_rewrites (fun page hpage => byte_roundTrips (h.pages page hpage))
    fun page hpage => varInt_roundTrips (h.pages page hpage).inInt32).delivers p.rest

theorem downgrade_delivers (h : p.Canonical) :
    Delivers V898ToV924.rewriteBookEdit (format.form 1 p) (format.form 0 p) := by
  have haction := byte_roundTrips (inByte_value p.action.type)
  apply Delivers.read (varInt_roundTrips h.bookSlot.inInt32)
  apply Delivers.read haction
  apply Delivers.write haction
  apply Delivers.write (byte_roundTrips h.bookSlot)
  exact (mapPages_rewrites (fun page hpage => varInt_roundTrips (h.pages page hpage).inInt32)
    fun page hpage => byte_roundTrips (h.pages page hpage)).delivers p.rest

end BookEdit

/-! ### Data-driven screens -/

theorem optionalInt_roundTrips {v : Option Int} (h : ∀ id, v = some id → InInt32 id) :
    (optionalType intLE).RoundTrips v := optionalType_roundTrips fun id hid =>
  intLE_roundTrips (h id hid)

namespace ShowScreen

variable {p : ShowScreen}

theorem upgrade_delivers (hdefault : p.formId = 0 ∧ p.dataInstanceId = none) :
    Delivers V924ToV944.rewriteShowScreen (format.form 0 p) (format.form 1 p) := by
  have hform := write_rewrites (intLE_roundTrips (v := 0) (by decide)).writes
  have hinstance := write_rewrites (optionalInt_roundTrips (v := none) nofun).writes
  show Delivers _ _ (_ ++ (intLE.bytes p.formId ++ (optionalType intLE).bytes p.dataInstanceId))
  rw [hdefault.1, hdefault.2]
  exact passthroughAll_write_delivers (hform.bind hinstance) _

theorem downgrade_delivers (h : p.Canonical) :
    Delivers V944ToV924.rewriteShowScreen (format.form 1 p) (format.form 0 p) := by
  have hid := passthrough_rewrites (string_roundTrips h.screenId)
  have hform := read_rewrites (intLE_roundTrips h.formId).reads
  have hinstance := read_rewrites (optionalInt_roundTrips h.dataInstanceId).reads
  have hall : Rewrites V944ToV924.rewriteShowScreen _ (string.bytes p.screenId ++ []) () :=
    hid.bind (hform.bind (hinstance.last rfl))
  rw [List.append_nil] at hall
  exact hall.deliversAll

end ShowScreen

namespace CloseScreen

variable {p : CloseScreen}

theorem upgrade_delivers (hdefault : p.formId = none) :
    Delivers V924ToV944.rewriteCloseAllScreens (format.form 0 p) (format.form 1 p) := by
  have hform := write_rewrites (optionalInt_roundTrips (v := none) nofun).writes
  show Delivers _ [] ((optionalType intLE).bytes p.formId)
  rw [hdefault]
  exact passthroughAll_write_delivers hform []

theorem downgrade_delivers (h : ∀ id, p.formId = some id → InInt32 id) :
    Delivers V944ToV924.rewriteCloseScreen (format.form 1 p) (format.form 0 p) := by
  have hall : Rewrites V944ToV924.rewriteCloseScreen ((optionalType intLE).bytes p.formId) [] () :=
    (read_rewrites (optionalInt_roundTrips h).reads).last rfl
  exact hall.deliversAll

end CloseScreen

/-! ### Parties and options -/

theorem PartyChanged.downgrade_delivers {p : PartyChanged}
    (h : ∀ party, p.party = some party → FitsString party.1) :
    Delivers V944ToV975.rewritePartyChanged (format.form 1 p) (format.form 0 p) := by
  obtain ⟨party⟩ := p
  cases party with
  | none => exact (passthroughOptional_none _).deliversAll
  | some party =>
    have hid := string_roundTrips (h party rfl)
    have hleader := read_rewrites (bool_roundTrips party.2).reads
    have hbody : Rewrites (do
        let _ ← passthrough string
        let _ ← PacketWrapper.read bool) (string.bytes party.1 ++ bool.bytes party.2)
        (string.bytes party.1 ++ []) () := (passthrough_rewrites hid).bind (hleader.last rfl)
    rw [List.append_nil] at hbody
    show Delivers _ _ ((optionalType string).bytes (some party.1))
    rw [optionalType_bytes_some hid]
    exact (passthroughOptional_some hbody).deliversAll

theorem UpdateClientOptions.downgrade_delivers {p : UpdateClientOptions}
    (h : ∀ mode, p.graphicsMode = some mode → InByte mode) :
    Delivers V944ToV975.rewriteUpdateClientOptions (format.form 1 p) (format.form 0 p) := by
  obtain ⟨graphicsMode, filterProfanity⟩ := p
  have hmode : Rewrites (passthroughOptional do
      let _ ← passthrough byte) ((optionalType byte).bytes graphicsMode)
      ((optionalType byte).bytes graphicsMode) () := by
    cases graphicsMode with
    | none => exact passthroughOptional_none _
    | some mode =>
      have hbyte := byte_roundTrips (h mode rfl)
      rw [optionalType_bytes_some hbyte]
      exact passthroughOptional_some ((passthrough_rewrites hbyte).last rfl)
  have hfilter := skipOptional_rewrites (T := bool) (v := filterProfanity)
    fun filter _ => bool_roundTrips filter
  have hall : Rewrites V944ToV975.rewriteUpdateClientOptions _
      ((optionalType byte).bytes graphicsMode ++ []) () := hmode.bind hfilter
  rw [List.append_nil] at hall
  exact hall.deliversAll

/-! ### PlayerEnchantOptions -/

theorem Enchant.passthroughEnchant_rewrites {e : Enchant} (h : e.Canonical) :
    Rewrites V944ToV975.passthroughEnchant e.bytes e.bytes () := by
  apply Rewrites.passthrough (byte_roundTrips h.type)
  exact (passthrough_rewrites (byte_roundTrips h.level)).last rfl

namespace EnchantOption

variable {o : EnchantOption}

theorem rewriteEnchantOption_rewrites (h : o.Canonical) :
    Rewrites V944ToV975.rewriteEnchantOption (uvarInt.bytes o.cost ++ o.tail)
      (byte.bytes (min o.cost 255) ++ o.tail) () := by
  have hcost : InByte (min o.cost 255) := by
    have hrange := h.cost
    unfold InUInt32 at hrange
    unfold InByte
    omega
  have hlists : Rewrites (Wire.repeatM (passthroughLoop V944ToV975.passthroughEnchant)
      o.enchants.length) (o.enchants.flatMap (arrayBytes Enchant.bytes))
      (o.enchants.flatMap (arrayBytes Enchant.bytes)) () :=
    Rewrites.repeatM fun es hes => passthroughLoop_rewrites (h.counts es hes) fun e he =>
      Enchant.passthroughEnchant_rewrites (h.enchants es hes e he)
  rw [h.lists] at hlists
  apply Rewrites.read (uvarInt_roundTrips h.cost)
  apply Rewrites.write (byte_roundTrips hcost)
  apply Rewrites.passthrough (intLE_roundTrips h.slot)
  apply hlists.bind
  apply Rewrites.passthrough (string_roundTrips h.name)
  exact (passthrough_rewrites (uvarInt_roundTrips h.netId)).last rfl

end EnchantOption

theorem PlayerEnchantOptions.upgrade_delivers {p : PlayerEnchantOptions} (h : p.Canonical) :
    Delivers V944ToV975.rewritePlayerEnchantOptions (format.form 0 p) (format.form 1 p) :=
  (passthroughLoop_rewrites h.count fun o ho =>
    EnchantOption.rewriteEnchantOption_rewrites (h.options o ho)).deliversAll

end Endweave
