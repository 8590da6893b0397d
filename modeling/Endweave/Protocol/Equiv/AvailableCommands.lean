import Endweave.Codec.Equiv.Converts
import Endweave.Protocol.Handlers.Commands
import Endweave.Protocol.Packets.AvailableCommands

/-!
# Correctness of the `AvailableCommands` handlers

`availableCommands_survives`: a canonical v860 packet goes to v898 and back unchanged, and a v898
packet whose indices fit the widths of v860 arrives there with all its data.

Each codec is exact on the values that its fields are exact on, so that both versions come down to
the ranges of three kinds of numbers.
-/

namespace Endweave

open Wire PacketWrapper

/-! ### Codecs -/

theorem commandParameter_roundTrips {p : CommandParameter} (h : p.Canonical) :
    commandParameter.RoundTrips p := by
  apply Codes.bind (string_roundTrips h.name)
  apply Codes.bind (intLE_roundTrips h.symbol)
  apply Codes.bind (bool_roundTrips p.optional)
  exact Codes.last (byte_roundTrips h.options) rfl

theorem commandOverload_roundTrips {o : CommandOverload} (h : o.Canonical) :
    commandOverload.RoundTrips o := by
  apply Codes.bind (bool_roundTrips o.chaining)
  exact Codes.last (fitsList_roundTrips h fun _ => commandParameter_roundTrips) rfl

theorem softEnum_roundTrips {e : SoftEnum} (h : e.Canonical) : softEnum.RoundTrips e := by
  apply Codes.bind (string_roundTrips h.name)
  exact Codes.last (strings_roundTrip h.values) rfl

theorem commandConstraint_roundTrips {c : CommandConstraint} (h : c.Canonical) :
    commandConstraint.RoundTrips c := by
  apply Codes.bind (intLE_roundTrips h.valueIndex)
  apply Codes.bind (intLE_roundTrips h.enumIndex)
  exact Codes.last (fitsList_roundTrips h.constraints fun _ => byte_roundTrips) rfl

section Widths

variable {T : FieldType Int} {P : Int → Prop} (hT : ∀ v, P v → T.RoundTrips v)

include hT

theorem commandEnum_roundTrips {e : CommandEnum} (h : e.Canonical P) :
    (commandEnumType T).RoundTrips e := by
  apply Codes.bind (string_roundTrips h.name)
  exact Codes.last (fitsList_roundTrips h.values hT) rfl

theorem commandSubcommand_roundTrips {s : CommandSubcommand} (h : s.Canonical P) :
    (commandSubcommandType T).RoundTrips s := by
  have hpair : ∀ v : Int × Int, P v.1 ∧ P v.2 → (pairType T T).RoundTrips v := fun v hv =>
    pairType_roundTrips (hT v.1 hv.1) (hT v.2 hv.2)
  apply Codes.bind (string_roundTrips h.name)
  exact Codes.last (fitsList_roundTrips h.values hpair) rfl

theorem commandDefinition_roundTrips {permissionType : FieldType Int}
    (hpermission : ∀ v, 0 ≤ v ∧ v ≤ 5 → permissionType.RoundTrips v) {c : CommandDefinition}
    (h : c.Canonical P) : (commandDefinitionType permissionType T).RoundTrips c := by
  apply Codes.bind (string_roundTrips h.name)
  apply Codes.bind (string_roundTrips h.description)
  apply Codes.bind (ushortLE_roundTrips h.flags)
  apply Codes.bind (hpermission _ h.permission)
  apply Codes.bind (intLE_roundTrips h.aliasIndex)
  apply Codes.bind (fitsList_roundTrips h.subcommandIndices hT)
  exact Codes.last (fitsList_roundTrips h.overloads fun _ => commandOverload_roundTrips) rfl

end Widths

theorem indexType_roundTrips (valuesSize : Nat) {v : Int} (h : InIndex valuesSize v) :
    (indexType valuesSize).RoundTrips v := by
  unfold InIndex at h
  unfold indexType
  split_ifs at h ⊢
  · exact byte_roundTrips h
  · exact ushortLE_roundTrips h
  · exact intLE_roundTrips h

/-! ### Permissions -/

theorem permissionByte_roundTrips (v : Int) (h : 0 ≤ v ∧ v ≤ 5) : byte.RoundTrips v :=
  byte_roundTrips ⟨h.1, by omega⟩

theorem exists_permissionLevel {v : Int} (h : 0 ≤ v ∧ v ≤ 5) :
    ∃ level : CommandPermissionLevel, level.value = v := by
  have hcases : v = 0 ∨ v = 1 ∨ v = 2 ∨ v = 3 ∨ v = 4 ∨ v = 5 := by omega
  rcases hcases with rfl | rfl | rfl | rfl | rfl | rfl
  · exact ⟨.any, rfl⟩
  · exact ⟨.gameDirectors, rfl⟩
  · exact ⟨.admin, rfl⟩
  · exact ⟨.host, rfl⟩
  · exact ⟨.owner, rfl⟩
  · exact ⟨.internal, rfl⟩

/-- The labels name the levels uniquely. -/
theorem permissionLabel_roundTrips (v : Int) (h : 0 ≤ v ∧ v ≤ 5) :
    permissionLabel.RoundTrips v := by
  obtain ⟨level, rfl⟩ := exists_permissionLevel h
  -- both tables are finite: the label is found under the level, and the level under the label
  have hwrite : permissionLabel.write level.value = string.write (toLabel level.name) := by
    cases level <;> rfl
  have hfits : FitsString (toLabel level.name) := by
    cases level <;> decide
  rw [FieldType.RoundTrips, hwrite]
  apply Codes.last (string_roundTrips hfits)
  cases level <;> rfl

/-! ### The packet -/

namespace AvailableCommands

variable {p : AvailableCommands}

/-- A packet that is canonical for some ranges is so for others that hold of its numbers. -/
theorem Canonical.imp {enumIndex enumIndex' value value' index index' : Int → Prop}
    (h : p.Canonical enumIndex value index)
    (henum : ∀ e ∈ p.enums, ∀ v ∈ e.values, enumIndex v → enumIndex' v)
    (hvalue : ∀ s ∈ p.subcommands, ∀ v ∈ s.values,
      value v.1 ∧ value v.2 → value' v.1 ∧ value' v.2)
    (hindex : ∀ c ∈ p.commands, ∀ i ∈ c.subcommandIndices, index i → index' i) :
    p.Canonical enumIndex' value' index' :=
  { h with
    enums := h.enums.imp fun e he hc => ⟨hc.name, hc.values.imp (henum e he)⟩
    subcommands := h.subcommands.imp fun s hs hc => ⟨hc.name, hc.values.imp (hvalue s hs)⟩
    commands := h.commands.imp fun c hc hcan =>
      { hcan with subcommandIndices := hcan.subcommandIndices.imp (hindex c hc) } }

theorem inInt32_of_inIndex {valuesSize : Nat} {v : Int} (h : InIndex valuesSize v) : InInt32 v := by
  unfold InIndex at h
  split_ifs at h
  · exact ⟨by have := h.1; omega, by have := h.2; omega⟩
  · exact ⟨by have := h.1; omega, by have := h.2; omega⟩
  · exact h

/-- An index of one of the enum values fits the width that their number selects. -/
theorem inIndex_of_lt {valuesSize : Nat} {v : Int} (h : InInt32 v)
    (hv : 0 ≤ v ∧ v < valuesSize) : InIndex valuesSize v := by
  unfold InIndex
  -- the width grows with the number of values, at 256 and at 65536
  split_ifs with hbyte hshort
  · exact ⟨hv.1, by omega⟩
  · exact ⟨hv.1, by omega⟩
  · exact h

theorem CanonicalV860.canonicalV898 (h : p.CanonicalV860) : p.CanonicalV898 :=
  h.imp (fun _ _ _ _ => inInt32_of_inIndex)
    (fun _ _ _ _ hv => ⟨hv.1.inUInt32, hv.2.inUInt32⟩)
    (fun _ _ _ _ => InUInt16.inInt32)

/-- The numbers of a v898 packet fit the widths of v860. -/
structure FitsV860 (p : AvailableCommands) : Prop where
  enumIndices : ∀ e ∈ p.enums, ∀ v ∈ e.values, 0 ≤ v ∧ v < p.enumValues.length
  subcommandValues : ∀ s ∈ p.subcommands, ∀ v ∈ s.values, InUInt16 v.1 ∧ InUInt16 v.2
  subcommandIndices : ∀ c ∈ p.commands, ∀ i ∈ c.subcommandIndices, InUInt16 i

theorem CanonicalV898.canonicalV860 (h : p.CanonicalV898) (hfits : p.FitsV860) :
    p.CanonicalV860 :=
  h.imp (fun e he v hv hin => inIndex_of_lt hin (hfits.enumIndices e he v hv))
    (fun s hs v hv _ => hfits.subcommandValues s hs v hv)
    (fun c hc i hi _ => hfits.subcommandIndices c hc i hi)

/-! ### The handlers -/

section Parts

variable {enum enum' : Nat → FieldType CommandEnum}
  {subcommand subcommand' : FieldType CommandSubcommand}
  {definition definition' : FieldType CommandDefinition}

/-- The parts of a packet that differ between the versions, exact in one of them. -/
structure PartsRoundTrip (p : AvailableCommands) (enum : Nat → FieldType CommandEnum)
    (subcommand : FieldType CommandSubcommand) (definition : FieldType CommandDefinition) :
    Prop where
  enums : (arrayType (enum p.enumValues.length)).RoundTrips p.enums
  subcommands : (arrayType subcommand).RoundTrips p.subcommands
  commands : (arrayType definition).RoundTrips p.commands

variable {enumIndex value index : Int → Prop} (h : p.Canonical enumIndex value index)
  (hfrom : p.PartsRoundTrip enum subcommand definition)

include h hfrom

theorem Canonical.roundTrips :
    (availableCommandsType enum subcommand definition).RoundTrips p := by
  apply Codes.bind (strings_roundTrip h.enumValues)
  apply Codes.bind (strings_roundTrip h.subcommandValues)
  apply Codes.bind (strings_roundTrip h.postfixes)
  apply Codes.bind hfrom.enums
  apply Codes.bind hfrom.subcommands
  apply Codes.bind hfrom.commands
  apply Codes.bind (fitsList_roundTrips h.softEnums fun _ => softEnum_roundTrips)
  exact Codes.last (fitsList_roundTrips h.constraints fun _ => commandConstraint_roundTrips) rfl

/-- The handler turns the packet of one grammar into that of the other. -/
theorem Canonical.converts (hto : p.PartsRoundTrip enum' subcommand' definition') :
    Converts (mapAvailableCommands enum enum' subcommand subcommand' definition definition')
      ((availableCommandsType enum subcommand definition).write p)
      ((availableCommandsType enum' subcommand' definition').write p) () := by
  apply Converts.passthrough (strings_roundTrip h.enumValues)
  apply Converts.passthrough (strings_roundTrip h.subcommandValues)
  apply Converts.passthrough (strings_roundTrip h.postfixes)
  apply (converts_map hfrom.enums hto.enums).bind
  apply (converts_map hfrom.subcommands hto.subcommands).bind
  apply (converts_map hfrom.commands hto.commands).bind
  apply Converts.passthrough (fitsList_roundTrips h.softEnums fun _ => softEnum_roundTrips)
  exact (converts_passthrough
    (fitsList_roundTrips h.constraints fun _ => commandConstraint_roundTrips)).last rfl

end Parts

theorem CanonicalV860.parts (h : p.CanonicalV860) :
    p.PartsRoundTrip makeCommandEnumV860 commandSubcommandV860 commandDefinitionV860 where
  enums := fitsList_roundTrips h.enums fun _ =>
    commandEnum_roundTrips fun _ => indexType_roundTrips _
  subcommands := fitsList_roundTrips h.subcommands fun _ =>
    commandSubcommand_roundTrips fun _ => ushortLE_roundTrips
  commands := fitsList_roundTrips h.commands fun _ =>
    commandDefinition_roundTrips (fun _ => ushortLE_roundTrips) permissionByte_roundTrips

theorem CanonicalV898.parts (h : p.CanonicalV898) :
    p.PartsRoundTrip (fun _ => commandEnumV898) commandSubcommandV898 commandDefinitionV898 where
  enums := fitsList_roundTrips h.enums fun _ =>
    commandEnum_roundTrips fun _ => intLE_roundTrips
  subcommands := fitsList_roundTrips h.subcommands fun _ =>
    commandSubcommand_roundTrips fun _ => uvarInt_roundTrips
  commands := fitsList_roundTrips h.commands fun _ =>
    commandDefinition_roundTrips (fun _ => intLE_roundTrips) permissionLabel_roundTrips

theorem CanonicalV860.upgrade_rewrites (h : p.CanonicalV860) :
    Rewrites V860ToV898.rewriteAvailableCommands (availableCommandsV860.bytes p)
      (availableCommandsV898.bytes p) () :=
  (Canonical.converts h h.parts h.canonicalV898.parts).rewrites

theorem CanonicalV860.upgrade (h : p.CanonicalV860) (user : UserConnection) :
    V860ToV898.rewriteAvailableCommands.apply (availableCommandsV860.bytes p) user =
      .ok (availableCommandsV898.bytes p) := h.upgrade_rewrites.apply user

theorem CanonicalV860.downgrade_rewrites (h : p.CanonicalV860) :
    Rewrites V898ToV860.rewriteAvailableCommands (availableCommandsV898.bytes p)
      (availableCommandsV860.bytes p) () :=
  (Canonical.converts h h.canonicalV898.parts h.parts).rewrites

theorem CanonicalV860.downgrade (h : p.CanonicalV860) (user : UserConnection) :
    V898ToV860.rewriteAvailableCommands.apply (availableCommandsV898.bytes p) user =
      .ok (availableCommandsV860.bytes p) := h.downgrade_rewrites.apply user

/-- **AvailableCommands survives v898**: every canonical v860 packet goes to v898 and comes back as
it was; and a canonical v898 packet whose indices are those of enum values and whose subcommand
numbers have 16 bits is translated to v860, where it is read with the same data. -/
theorem availableCommands_survives :
    (∀ p : AvailableCommands, p.CanonicalV860 → ∀ user user', ∃ q,
      V860ToV898.rewriteAvailableCommands.apply (availableCommandsV860.bytes p) user = .ok q ∧
        V898ToV860.rewriteAvailableCommands.apply q user' =
          .ok (availableCommandsV860.bytes p)) ∧
    ∀ p : AvailableCommands, p.CanonicalV898 → p.FitsV860 → ∀ user, ∃ out,
      V898ToV860.rewriteAvailableCommands.apply (availableCommandsV898.bytes p) user = .ok out ∧
        availableCommandsV860.Parses out p := by
  constructor
  · intro p h user user'
    exact ⟨_, h.upgrade user, h.downgrade user'⟩
  · intro p h hfits user
    -- narrowed to its widths, the packet is a canonical one of v860
    have hv860 := h.canonicalV860 hfits
    exact ⟨_, hv860.downgrade user, (Canonical.roundTrips hv860 hv860.parts).parses⟩

/-- Three hundred enum values, so that the indices take two bytes, and a command with a
subcommand. -/
def sampleCommands : AvailableCommands where
  enumValues := List.replicate 300 "v"
  subcommandValues := []
  postfixes := []
  enums := [{ name := "e", values := [299, 0] }]
  subcommands := [{ name := "s", values := [(65535, 1)] }]
  commands := [{ name := "c", description := "", flags := 0, permission := 5, aliasIndex := -1,
                 subcommandIndices := [0], overloads := [] }]
  softEnums := []
  constraints := []

theorem length_enumValues_sample : sampleCommands.enumValues.length = 300 :=
  List.length_replicate

theorem sampleCommands_canonicalV860 : sampleCommands.CanonicalV860 where
  enumValues := by
    rw [FitsList, length_enumValues_sample]
    refine ⟨by decide, fun s hs => ?_⟩
    rw [List.eq_of_mem_replicate hs]
    decide
  subcommandValues := fitsList_nil _
  postfixes := fitsList_nil _
  enums := by
    rw [length_enumValues_sample]
    exact fitsList_singleton ⟨by decide, by decide, by decide⟩
  subcommands := fitsList_singleton ⟨by decide, by decide, by decide⟩
  commands := fitsList_singleton
    { name := by decide
      description := by decide
      flags := by decide
      permission := by decide
      aliasIndex := by decide
      subcommandIndices := fitsList_singleton (by decide)
      overloads := fitsList_nil _ }
  softEnums := fitsList_nil _
  constraints := fitsList_nil _

theorem sampleCommands_fitsV860 : sampleCommands.FitsV860 where
  enumIndices := by
    rw [length_enumValues_sample]
    decide
  subcommandValues := by decide
  subcommandIndices := by decide

/-- The sample on its way to v898 and back, and from v898 alone. -/
theorem availableCommands_survives_sample :
    (∃ q, V860ToV898.rewriteAvailableCommands.apply (availableCommandsV860.bytes sampleCommands)
        { address := "a" } = .ok q ∧
      V898ToV860.rewriteAvailableCommands.apply q { address := "a" } =
        .ok (availableCommandsV860.bytes sampleCommands)) ∧
    ∃ out, V898ToV860.rewriteAvailableCommands.apply (availableCommandsV898.bytes sampleCommands)
        { address := "a" } = .ok out ∧ availableCommandsV860.Parses out sampleCommands :=
  ⟨availableCommands_survives.1 _ sampleCommands_canonicalV860 _ _,
    availableCommands_survives.2 _ sampleCommands_canonicalV860.canonicalV898
      sampleCommands_fitsV860 _⟩

end AvailableCommands

end Endweave
