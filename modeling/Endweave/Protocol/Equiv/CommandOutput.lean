import Endweave.Protocol.Equiv.AvailableCommands
import Endweave.Protocol.Packets.CommandOutput

/-!
# Correctness of the `CommandOutput` handlers

`commandOutput_survives`: a canonical v860 packet goes to v898 and comes back as it was, with
whatever follows its messages.

The labels of the origin types and of the output types are each other's inverse
(`originLabels_inverse`, `outputLabels_inverse`), which is checked member by member.
-/

namespace Endweave

open Wire PacketWrapper

/-! ### Labels -/

theorem originLabels_inverse (t : CommandOriginType) :
    CommandOriginType.byValue.get? t.value = some (toLabel t.name) ∧
      CommandOriginType.byLabel.get? (toLabel t.name) = some t.value := by
  cases t <;> exact ⟨rfl, rfl⟩

theorem fitsString_originLabel (t : CommandOriginType) : FitsString (toLabel t.name) := by
  cases t <;> decide

theorem outputLabels_inverse (t : CommandOutputType) :
    V860ToV898.labelByOutputType.get? t.value = some (toLabel t.name) ∧
      V898ToV860.outputTypeByLabel.get? (toLabel t.name) = some t.value := by
  cases t <;> exact ⟨rfl, rfl⟩

theorem fitsString_outputLabel (t : CommandOutputType) : FitsString (toLabel t.name) := by
  cases t <;> decide

/-- The members of the enum are numbered without gaps. -/
theorem exists_originType {v : Int} (h : 0 ≤ v ∧ v ≤ 15) :
    ∃ t : CommandOriginType, t.value = v := by
  have hmembers : ∀ n : Fin 16, ∃ t ∈ CommandOriginType.members, t.value = (n : Nat) := by decide
  obtain ⟨t, _, ht⟩ := hmembers ⟨v.toNat, by omega⟩
  exact ⟨t, ht.trans (Int.toNat_of_nonneg h.1)⟩

/-! ### Origins -/

theorem commandOriginV860_roundTrips {o : CommandOrigin} (h : o.Canonical) :
    commandOriginV860.RoundTrips o := by
  have htype : InUInt32 o.originType := ⟨h.originType.1, by have := h.originType.2; omega⟩
  apply Codes.bind (uvarInt_roundTrips htype)
  apply Codes.bind (uuid_roundTrips h.msb h.lsb)
  apply Codes.bind (string_roundTrips h.requestId)
  exact Codes.last (fieldIf_roundTrips (varInt64_roundTrips h.playerId) h.absent) rfl

theorem commandOriginV898_roundTrips {o : CommandOrigin} (h : o.CanonicalV898) :
    commandOriginV898.RoundTrips o := by
  obtain ⟨t, ht⟩ := exists_originType h.originType
  obtain ⟨hvalue, hlabel⟩ := originLabels_inverse t
  rw [FieldType.RoundTrips, commandOriginV898]
  dsimp only
  rw [← ht, hvalue, Option.getD_some]
  apply Codes.bind (string_roundTrips (fitsString_originLabel t))
  apply Codes.bind (uuid_roundTrips h.msb h.lsb)
  apply Codes.bind (string_roundTrips h.requestId)
  apply Codes.last (int64LE_roundTrips h.playerId)
  rw [hlabel, Option.getD_some, ht]

/-! ### Messages -/

section Messages

variable {m : CommandOutputMessage} (h : m.Canonical)

include h

theorem readParameters_rewrites :
    Rewrites (collect (PacketWrapper.read string) m.parameters.length)
      (m.parameters.flatMap string.bytes) [] m.parameters :=
  Rewrites.collect fun s hs => read_rewrites (string_reads (h.parameters.2 s hs))

omit h in
theorem writeParameters_rewrites (m : CommandOutputMessage) :
    Rewrites (each (PacketWrapper.write string) m.parameters) []
      (m.parameters.flatMap string.bytes) () :=
  Rewrites.each fun s _ => write_rewrites (string_writes s)

theorem parameterCount_roundTrips : uvarInt.RoundTrips m.parameters.length := by
  have hlen := h.parameters.1
  exact uvarInt_roundTrips ⟨by omega, by omega⟩

theorem upgradeMessage_rewrites :
    Rewrites V860ToV898.rewriteOutputMessage m.bytesV860 m.bytesV898 () := by
  unfold V860ToV898.rewriteOutputMessage CommandOutputMessage.bytesV860
    CommandOutputMessage.bytesV898 arrayBytes
  apply Rewrites.read (bool_roundTrips m.internal)
  apply Rewrites.read (string_roundTrips h.messageId)
  apply Rewrites.read (parameterCount_roundTrips h)
  rw [Int.toNat_natCast, ← List.append_nil (m.parameters.flatMap string.bytes)]
  apply (readParameters_rewrites h).readThen
  rw [List.append_nil]
  apply Rewrites.write (string_roundTrips h.messageId)
  apply Rewrites.write (bool_roundTrips m.internal)
  apply Rewrites.write (parameterCount_roundTrips h)
  exact writeParameters_rewrites m

theorem downgradeMessage_rewrites :
    Rewrites V898ToV860.rewriteOutputMessage m.bytesV898 m.bytesV860 () := by
  unfold V898ToV860.rewriteOutputMessage CommandOutputMessage.bytesV860
    CommandOutputMessage.bytesV898 arrayBytes
  apply Rewrites.read (string_roundTrips h.messageId)
  apply Rewrites.read (bool_roundTrips m.internal)
  apply Rewrites.read (parameterCount_roundTrips h)
  rw [Int.toNat_natCast, ← List.append_nil (m.parameters.flatMap string.bytes)]
  apply (readParameters_rewrites h).readThen
  rw [List.append_nil]
  apply Rewrites.write (bool_roundTrips m.internal)
  apply Rewrites.write (string_roundTrips h.messageId)
  apply Rewrites.write (parameterCount_roundTrips h)
  exact writeParameters_rewrites m

end Messages

/-! ### The packet -/

theorem writeOutputLabel_rewrites (t : CommandOutputType) :
    Rewrites (V860ToV898.writeOutputLabel t.value) [] (string.bytes (toLabel t.name)) () := by
  unfold V860ToV898.writeOutputLabel
  rw [(outputLabels_inverse t).1]
  exact write_rewrites (string_writes _)

theorem readOutputLabel_rewrites (t : CommandOutputType) :
    Rewrites V898ToV860.readOutputLabel (string.bytes (toLabel t.name)) [] t.value := by
  apply (read_rewrites (string_reads (fitsString_outputLabel t))).last
  rw [(outputLabels_inverse t).2]

theorem inByte_outputType (t : CommandOutputType) : InByte t.value := by
  cases t <;> decide

theorem value_beq_dataSet (t : CommandOutputType) :
    (t.value == CommandOutputType.dataSet.value) = (t == .dataSet) := by
  cases t <;> rfl

namespace CommandOutput

variable {p : CommandOutput} (h : p.Canonical)

include h

theorem Canonical.upgrade :
    Rewrites V860ToV898.rewriteCommandOutput p.bytesV860 p.bytesV898 () := by
  have hcount : InUInt32 p.successCount ∧ InInt32 p.successCount := by
    obtain ⟨hlo, hhi⟩ := h.successCount
    exact ⟨⟨hlo, by omega⟩, by omega, hhi⟩
  have hmessages := passthroughLoop_rewrites h.messages.1 fun m hm =>
    upgradeMessage_rewrites (h.messages.2 m hm)
  unfold V860ToV898.rewriteCommandOutput bytesV860 bytesV898
  apply (map_rewrites (commandOriginV860_roundTrips h.origin).reads
    (commandOriginV898_roundTrips h.origin.toCanonicalV898).writes).bind
  apply Rewrites.read (byte_roundTrips (inByte_outputType _))
  apply (writeOutputLabel_rewrites _).writeThen
  apply (map_rewrites (uvarInt_roundTrips hcount.1).reads (intLE_roundTrips hcount.2).writes).bind
  rw [← List.append_nil (arrayBytes CommandOutputMessage.bytesV860 p.messages), value_beq_dataSet]
  apply hmessages.bind
  exact write_rewrites (bool_roundTrips _).writes

theorem Canonical.downgrade :
    Rewrites V898ToV860.rewriteCommandOutput p.bytesV898 p.bytesV860 () := by
  have hcount : InUInt32 p.successCount ∧ InInt32 p.successCount := by
    obtain ⟨hlo, hhi⟩ := h.successCount
    exact ⟨⟨hlo, by omega⟩, by omega, hhi⟩
  have hmessages := passthroughLoop_rewrites h.messages.1 fun m hm =>
    downgradeMessage_rewrites (h.messages.2 m hm)
  unfold V898ToV860.rewriteCommandOutput bytesV860 bytesV898
  apply (map_rewrites (commandOriginV898_roundTrips h.origin.toCanonicalV898).reads
    (commandOriginV860_roundTrips h.origin).writes).bind
  apply (readOutputLabel_rewrites _).readThen
  apply Rewrites.write (byte_roundTrips (inByte_outputType _))
  apply (map_rewrites (intLE_roundTrips hcount.2).reads (uvarInt_roundTrips hcount.1).writes).bind
  rw [← List.append_nil (arrayBytes CommandOutputMessage.bytesV860 p.messages)]
  apply hmessages.bind
  exact (read_rewrites (bool_roundTrips _).reads).last rfl

/-- **CommandOutput survives v898**: every canonical v860 packet, whatever follows its messages,
goes to v898 and comes back as it was. -/
theorem commandOutput_survives (suf : List UInt8) (user user' : UserConnection) :
    ∃ q, V860ToV898.rewriteCommandOutput.apply (p.bytesV860 ++ suf) user = .ok q ∧
      V898ToV860.rewriteCommandOutput.apply q user' = .ok (p.bytesV860 ++ suf) :=
  ⟨p.bytesV898 ++ suf, apply_of_rewrites h.upgrade suf user,
    apply_of_rewrites h.downgrade suf user'⟩

omit h

/-- The output of a test with a player id and two parameters. -/
def sampleOutput : CommandOutput where
  origin := { originType := 4, uuid := { msb := 2 ^ 64 - 1, lsb := 0 }, requestId := "r",
              playerId := -2 ^ 63 }
  outputType := .dataSet
  successCount := 2 ^ 31 - 1
  messages := [{ internal := true, messageId := "m", parameters := ["p", ""] }]

theorem sampleOutput_canonical : sampleOutput.Canonical where
  origin := ⟨by constructor <;> decide, by decide⟩
  successCount := by decide
  messages := by
    apply fitsList_singleton
    exact ⟨by decide, by decide, by decide⟩

theorem commandOutput_survives_sample :
    ∃ q, V860ToV898.rewriteCommandOutput.apply (sampleOutput.bytesV860 ++ [1, 1, 120])
        { address := "a" } = .ok q ∧
      V898ToV860.rewriteCommandOutput.apply q { address := "a" } =
        .ok (sampleOutput.bytesV860 ++ [1, 1, 120]) :=
  commandOutput_survives sampleOutput_canonical [1, 1, 120] { address := "a" } { address := "a" }

end CommandOutput

end Endweave
