import Endweave.Protocol.Steps

/-!
# What the protocols of the version steps register

`get?_register` and `cancelled_cancel` say what a registration changes.  They are rewriting rules:
which handler a protocol runs for a packet follows by simplification.
-/

namespace Endweave

namespace Protocol

variable (p : Protocol) (d d' : Direction) (packetId packetId' : Int)

theorem get?_register (h : PacketHandler) :
    ((p.register d packetId h).handlers d').get? packetId' =
      if d' = d ∧ packetId = packetId' then some h else (p.handlers d').get? packetId' := by
  unfold register
  dsimp only
  by_cases hd : d' = d
  · rw [if_pos hd, OrderedDict.get?_insert, hd]
    simp only [true_and]
  · rw [if_neg hd, if_neg (fun h => hd h.1)]

theorem cancelled_register (h : PacketHandler) :
    (p.register d packetId h).cancelled d' = p.cancelled d' := rfl

theorem get?_cancel (packetIds : List Int) :
    ((p.cancel d packetIds).handlers d').get? packetId' = (p.handlers d').get? packetId' := rfl

theorem cancelled_cancel (packetIds : List Int) : (p.cancel d packetIds).cancelled d' =
    if d' = d then p.cancelled d' ++ packetIds else p.cancelled d' := rfl

theorem get?_new (server client : Int) (name : String) (isBase : Bool) :
    ((Protocol.new server client name isBase).handlers d').get? packetId' = none := rfl

theorem cancelled_new (server client : Int) (name : String) (isBase : Bool) :
    (Protocol.new server client name isBase).cancelled d' = [] := rfl

attribute [simp] get?_register cancelled_register get?_cancel cancelled_cancel get?_new
  cancelled_new registerClientbound registerServerbound cancelClientbound cancelServerbound
  registerOther

end Protocol

attribute [simp] SoundRewriter.register ActorEventRewriter.register

@[simp] theorem registerActorEvents_v860V898 (p : Protocol) :
    registerActorEvents Mappings.v860V898 p =
      ActorEventRewriter.register ⟨inserted 1 ActorEvent.kineticDamageDealt.value, true⟩ p := rfl

end Endweave
