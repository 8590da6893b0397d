import Endweave.Equiv.Formats
import Endweave.Protocol.Equiv.Entities
import Endweave.Protocol.Equiv.Interface
import Endweave.Protocol.Equiv.World

/-!
# The small packets are carried

Each theorem lists the registered steps that touch a packet, and shows for each of them that it
turns the form before it into the form behind it.
-/

namespace Endweave

open PacketFormat PacketWrapper

variable (uuid5 : String → BitVec 128)

/-! ### Between v860 and v898 -/

theorem MobEffect.carried : ∀ p ∈ registeredProtocols uuid5, MobEffect.format.Carried p := by
  refine carried_registered [V860ToV898.registered, V898ToV860.createProtocol] rfl rfl ?_
  simp only [List.forall_mem_cons]
  refine ⟨carried_up rfl rfl fun p hp hsince => ?_,
    carried_down rfl rfl fun p hp _ => ?_, nofun⟩
  · exact upgrade_delivers hp (of_ite_le hsince rfl)
  · exact downgrade_delivers hp

theorem EventPacket.carried : ∀ p ∈ registeredProtocols uuid5, EventPacket.format.Carried p := by
  refine carried_registered [V860ToV898.registered, V898ToV860.createProtocol] rfl rfl ?_
  simp only [List.forall_mem_cons]
  refine ⟨carried_up rfl rfl fun p hp hsince => ?_,
    carried_down rfl rfl fun p hp _ => ?_, nofun⟩
  · exact upgrade_delivers hp (of_ite_le hsince rfl)
  · exact downgrade_delivers hp

theorem ResourcePackStack.carried :
    ∀ p ∈ registeredProtocols uuid5, ResourcePackStack.format.Carried p := by
  refine carried_registered [V860ToV898.registered, V898ToV860.createProtocol] rfl rfl ?_
  simp only [List.forall_mem_cons]
  refine ⟨carried_up rfl rfl fun p hp _ => ?_,
    carried_down rfl rfl fun p hp hupTo => ?_, nofun⟩
  · exact upgrade_delivers hp
  · exact downgrade_delivers hp (of_le_ite hupTo rfl)

/-- The handlers of the client's packets lead the other way. -/
theorem Interact.carried : ∀ p ∈ registeredProtocols uuid5, Interact.format.Carried p := by
  refine carried_registered [V860ToV898.registered, V898ToV860.createProtocol] rfl rfl ?_
  simp only [List.forall_mem_cons]
  refine ⟨carried_down rfl rfl fun p hp _ => ?_,
    carried_up rfl rfl fun p hp hsince => ?_, nofun⟩
  · exact downgrade_delivers hp
  · exact upgrade_delivers hp (of_ite_le hsince rfl)

/-! ### Actor events -/

namespace ActorEventPacket

theorem carried : ∀ p ∈ registeredProtocols uuid5, format.Carried p := by
  refine carried_registered [V860ToV898.registered, V898ToV860.createProtocol,
    V944ToV975.registered uuid5] rfl rfl ?_
  simp only [List.forall_mem_cons]
  refine ⟨carried_up rfl rfl fun p hp _ => ?_,
    carried_down rfl rfl fun p hp _ => ?_,
    carried_up rfl rfl fun p hp hsince => ?_, nofun⟩
  · exact upgrade_delivers hp.1 hp.2
  · exact downgrade_delivers hp.1 hp.2
  · exact position_delivers (of_ite_le hsince rfl)

theorem new_carried : ∀ p ∈ registeredProtocols uuid5, newFormat.Carried p := by
  refine carried_registered [V860ToV898.registered, V898ToV860.createProtocol,
    V944ToV975.registered uuid5] rfl rfl ?_
  simp only [List.forall_mem_cons]
  refine ⟨carried_of_absent rfl,
    carried_of_cancels rfl rfl fun p hp => ?_,
    carried_up rfl rfl fun p hp hsince => ?_, nofun⟩
  · exact downgrade_cancels hp.1 hp.2
  · exact position_delivers (of_ite_le hsince rfl)

theorem client_carried : ∀ p ∈ registeredProtocols uuid5, clientFormat.Carried p := by
  refine carried_registered [V944ToV975.registered uuid5] rfl rfl ?_
  simp only [List.forall_mem_cons]
  exact ⟨carried_down rfl rfl fun p hp _ => noPosition_delivers hp.1,
    nofun⟩

end ActorEventPacket

/-! ### Between v898 and v924 -/

theorem BookEdit.carried : ∀ p ∈ registeredProtocols uuid5, BookEdit.format.Carried p := by
  refine carried_registered [V898ToV924.registered, V924ToV898.createProtocol] rfl rfl ?_
  simp only [List.forall_mem_cons]
  refine ⟨carried_down rfl rfl fun p hp _ => ?_,
    carried_up rfl rfl fun p hp _ => ?_, nofun⟩
  · exact downgrade_delivers hp
  · exact upgrade_delivers hp

theorem GraphicsParameterOverride.carried :
    ∀ p ∈ registeredProtocols uuid5, GraphicsParameterOverride.format.Carried p := by
  refine carried_registered [V898ToV924.registered, V924ToV898.createProtocol] rfl rfl ?_
  simp only [List.forall_mem_cons]
  refine ⟨carried_up rfl rfl fun p hp hsince => ?_,
    carried_down rfl rfl fun p hp _ => ?_, nofun⟩
  · exact upgrade_delivers hp (of_ite_le hsince rfl)
  · exact downgrade_delivers hp

theorem Diagnostics.carried : ∀ p ∈ registeredProtocols uuid5, Diagnostics.format.Carried p := by
  refine carried_registered [V898ToV924.registered, V924ToV898.createProtocol,
    V944ToV975.registered uuid5, V975ToV1001.createProtocol] rfl rfl ?_
  simp only [List.forall_mem_cons]
  refine ⟨carried_down rfl rfl fun p hp _ => ?_,
    carried_up rfl rfl fun p hp hsince => ?_,
    carried_of_uncovered rfl, carried_of_uncovered rfl, nofun⟩
  · exact downgrade_delivers hp
  · exact upgrade_delivers hp (of_ite_le hsince rfl)

/-- The step between v944 and v975 cancels the packet. -/
theorem TimedDiagnostics.carried :
    ∀ p ∈ registeredProtocols uuid5, TimedDiagnostics.format.Carried p := by
  refine carried_registered [V898ToV924.registered, V924ToV898.createProtocol,
    V944ToV975.registered uuid5, V975ToV1001.createProtocol] rfl rfl ?_
  simp only [List.forall_mem_cons]
  refine ⟨carried_of_absent rfl, carried_of_absent rfl,
    carried_of_cancelled rfl rfl,
    carried_down rfl rfl fun p hp _ => ?_, nofun⟩
  exact downgrade_delivers hp

/-! ### Between v924 and v944 -/

theorem ShowScreen.carried : ∀ p ∈ registeredProtocols uuid5, ShowScreen.format.Carried p := by
  refine carried_registered [V924ToV898.createProtocol, V924ToV944.registered,
    V944ToV924.registered] rfl rfl ?_
  simp only [List.forall_mem_cons]
  refine ⟨carried_of_cancelled rfl rfl,
    carried_up rfl rfl fun p hp hsince => ?_,
    carried_down rfl rfl fun p hp _ => ?_, nofun⟩
  · exact upgrade_delivers (of_ite_le hsince rfl)
  · exact downgrade_delivers hp

theorem CloseScreen.carried : ∀ p ∈ registeredProtocols uuid5, CloseScreen.format.Carried p := by
  refine carried_registered [V924ToV898.createProtocol, V924ToV944.registered,
    V944ToV924.registered] rfl rfl ?_
  simp only [List.forall_mem_cons]
  refine ⟨carried_of_cancelled rfl rfl,
    carried_up rfl rfl fun p hp hsince => ?_,
    carried_down rfl rfl fun p hp _ => ?_, nofun⟩
  · exact upgrade_delivers (of_ite_le hsince rfl)
  · exact downgrade_delivers hp

theorem VoxelShapes.carried : ∀ p ∈ registeredProtocols uuid5, VoxelShapes.format.Carried p := by
  refine carried_registered [V924ToV898.createProtocol, V924ToV944.registered,
    V944ToV924.registered] rfl rfl ?_
  simp only [List.forall_mem_cons]
  refine ⟨carried_of_cancelled rfl rfl,
    carried_up rfl rfl fun p hp hsince => ?_,
    carried_down rfl rfl fun p hp _ => ?_, nofun⟩
  · exact upgrade_delivers (of_ite_le hsince rfl)
  · exact downgrade_delivers hp

theorem UpdateClientInputLocks.carried :
    ∀ p ∈ registeredProtocols uuid5, UpdateClientInputLocks.format.Carried p := by
  refine carried_registered [V924ToV944.registered, V944ToV924.registered] rfl rfl ?_
  simp only [List.forall_mem_cons]
  refine ⟨carried_up rfl rfl fun p hp _ => ?_,
    carried_down rfl rfl fun p hp hupTo => ?_, nofun⟩
  · exact upgrade_delivers hp
  · exact downgrade_delivers hp (of_le_ite hupTo rfl)

/-! ### From v944 to v975 and v1001 -/

theorem PartyChanged.carried : ∀ p ∈ registeredProtocols uuid5, PartyChanged.format.Carried p := by
  refine carried_registered [V924ToV944.registered, V944ToV975.registered uuid5] rfl rfl ?_
  simp only [List.forall_mem_cons]
  exact ⟨carried_of_cancelled rfl rfl,
    carried_down rfl rfl fun p hp _ => downgrade_delivers hp, nofun⟩

theorem UpdateClientOptions.carried :
    ∀ p ∈ registeredProtocols uuid5, UpdateClientOptions.format.Carried p := by
  refine carried_registered [V944ToV975.registered uuid5] rfl rfl ?_
  simp only [List.forall_mem_cons]
  exact ⟨carried_down rfl rfl fun p hp _ => downgrade_delivers hp,
    nofun⟩

theorem ClientMovementPredictionSync.carried :
    ∀ p ∈ registeredProtocols uuid5, ClientMovementPredictionSync.format.Carried p := by
  refine carried_registered [V944ToV975.registered uuid5] rfl rfl ?_
  simp only [List.forall_mem_cons]
  exact ⟨carried_down rfl rfl fun p hp _ => downgrade_delivers hp,
    nofun⟩

theorem PlayerEnchantOptions.carried :
    ∀ p ∈ registeredProtocols uuid5, PlayerEnchantOptions.format.Carried p := by
  refine carried_registered [V944ToV975.registered uuid5] rfl rfl ?_
  simp only [List.forall_mem_cons]
  exact ⟨carried_up rfl rfl fun p hp _ => upgrade_delivers hp,
    nofun⟩

theorem LevelChunk.carried : ∀ p ∈ registeredProtocols uuid5, LevelChunk.format.Carried p := by
  refine carried_registered [V975ToV1001.createProtocol] rfl rfl ?_
  simp only [List.forall_mem_cons]
  exact ⟨carried_up rfl rfl fun p hp _ => upgrade_delivers hp,
    nofun⟩

end Endweave
