import Endweave.Codec.Counts
import Endweave.Codec.Equiv.CodecType
import Endweave.Codec.Equiv.Untrusted

/-!
# Counts do not outrun the data

`decoding_within_data`: what a decoder produces is no more than what it consumes, and its loops and
calls are bounded by the data left and by the depth, not by the counts that stand in the data.

Every element of every type consumes something (`ElementReader.consumes`), from which both follow.
For the tags of a tree it is an induction on the depth budget, with one case per tag
(`readValue_pays`).  That nothing lies behind the cut of `nbtUpTo` is an induction on the budget as
well (`agrees_valueUpTo`).
-/

namespace Endweave

open Wire PacketReader

/-! ### Primitive readers -/

instance : Consumes next := Consumes.of_takes next_takes fun _ _ h => h.2

theorem unpack_consumes {f : StructFormat} (h : 0 < f.size) : Consumes (unpack f) := by
  apply Consumes.of_takes (struct_takes f)
  rintro bs v ⟨hlen, _⟩
  exact List.length_pos_iff.mp (hlen ▸ h)

instance : Consumes readByte := by unfold readByte; infer_instance

instance : Consumes readShortLE := unpack_consumes (by decide)

instance : Consumes readUShortLE := unpack_consumes (by decide)

instance : Consumes readIntLE := unpack_consumes (by decide)

instance : Consumes readFloatLE := by
  have : Consumes (unpack .uintLE) := unpack_consumes (by decide)
  unfold readFloatLE
  infer_instance

instance : Consumes readUVarint :=
  Consumes.of_takes readUVarint_takes fun _ _ h => terminated_ne_nil h.1

instance : Consumes readVarint := by unfold readVarint; infer_instance

instance : Consumes readUVarint64 :=
  Consumes.of_takes readUVarint64_takes fun _ _ h => terminated_ne_nil h.1

instance : Consumes readVarint64 := by unfold readVarint64; infer_instance

instance : Consumes readString := by unfold readString; infer_instance

instance : Consumes readNbtString := by unfold readNbtString; infer_instance

theorem readBytes_pays (n : Int) : Pays (readBytes n) List.length := by
  apply Takes.mono (readBytes_takes n)
  rintro bs a ⟨rfl, _⟩
  exact Nat.le_refl _

theorem readBytes_consumes {n : Int} (h : 0 < n) : Consumes (readBytes n) := by
  apply Consumes.of_takes (readBytes_takes n)
  rintro bs a ⟨_, hlen⟩
  exact List.length_pos_iff.mp (by omega)

/-! ### Arrays -/

section Arrays

variable {α : Type} {T : FieldType α}

/-- The elements of an array, with what lies in each, and the count in front of them. -/
theorem arrayType_pays {nested : α → Nat} (hT : Pays T.read fun a => nested a + 1) :
    Pays (arrayType T).read fun as => countElements nested as + 1 := by
  apply Pays.bind (Consumes.pays (m := readUVarint))
  intro count
  apply (hT.collect count.toNat).mono
  intro as
  exact Nat.le_refl _

theorem arrayType_pays_length [Consumes T.read] :
    Pays (arrayType T).read fun as => as.length + 1 := by
  apply Pays.bind (Consumes.pays (m := readUVarint))
  intro count
  exact Consumes.collect_pays count.toNat

/-- A record that ends in its only array. -/
theorem record_pays {β γ : Type} {m : Parser PyException UInt8 β} [Local m] [Consumes T.read]
    {f : β → List α → γ} {size : γ → Nat} (hsize : ∀ b as, size (f b as) = as.length) :
    Pays (m >>= fun b => (arrayType T).read >>= fun as => pure (f b as)) fun record =>
      size record + 1 := by
  apply Pays.skip
  intro b
  apply arrayType_pays_length.bind
  intro as
  apply Pays.pure
  rw [hsize]
  exact Nat.sub_self _

end Arrays

/-! ### Tags -/

theorem countTags_eq (tags : List Tag) : countTags tags = (tags.map Tag.count).sum := by
  induction tags with
  | nil => rfl
  | cons tag tags ih => rw [countTags, ih, List.map_cons, List.sum_cons]

/-- A tag that takes the place of another one does not add to it. -/
theorem countEntries_insert (entries : CompoundTag) (name : String) (tag : Tag) :
    countEntries (entries.insert name tag) ≤ countEntries entries + tag.count := by
  induction entries with
  | nil =>
    show tag.count + 0 ≤ 0 + tag.count
    omega
  | cons entry entries ih =>
    obtain ⟨name', tag'⟩ := entry
    rw [OrderedDict.insert, countEntries]
    split_ifs
    · rw [countEntries]
      omega
    · rw [countEntries]
      omega

section Child

variable {child : Int → Parser PyException UInt8 Tag}
  (hchild : ∀ tagType, Pays (child tagType) Tag.count)

include hchild

/-- The entries that a loop adds, with the end tag. -/
theorem readEntries_pays (limit : Nat) (entries : CompoundTag) :
    Pays (readEntries child limit entries) fun value =>
      countEntries value + 1 - countEntries entries := by
  induction limit generalizing entries with
  | zero => exact Pays.throw _
  | succ limit ih =>
    unfold readEntries
    apply Pays.bind (Consumes.pays (m := readByte))
    intro childType
    split_ifs
    · apply Pays.pure
      omega
    · apply Pays.skip
      intro name
      apply (hchild childType).bind
      intro tag
      apply (ih (entries.insert name tag)).mono
      intro value
      have hinsert := countEntries_insert entries name tag
      omega

theorem readCompound_pays : Pays (readCompound child) fun value => countEntries value + 1 :=
  fun c hc => readEntries_pays hchild (c.rest.length + 1) [] c hc

/-- The body of `_read_value`, given what its calls and its loop over entries pay. -/
theorem valueBody_pays {compound : Parser PyException UInt8 CompoundTag}
    (hcompound : Pays compound fun value => countEntries value + 1) (tagType : Int) :
    Pays (valueBody compound child tagType) Tag.count := by
  unfold valueBody
  apply Pays.ite
  · exact Pays.map Consumes.pays
  apply Pays.ite
  · exact Pays.map Consumes.pays
  apply Pays.ite
  · exact Pays.map Consumes.pays
  apply Pays.ite
  · exact Pays.map Consumes.pays
  apply Pays.ite
  · exact Pays.map Consumes.pays
  apply Pays.ite
  · -- double
    have := readBytes_consumes (n := 8) (by decide)
    apply Pays.bind (Consumes.pays (m := readBytes 8))
    intro data
    exact Pays.pure rfl
  apply Pays.ite
  · -- byte array
    apply Pays.bind (Consumes.pays (m := readVarint))
    intro length
    exact Pays.map (readBytes_pays length)
  apply Pays.ite
  · exact Pays.map Consumes.pays
  apply Pays.ite
  · -- list
    apply Pays.bind (Consumes.pays (m := readByte))
    intro elemType
    apply Pays.skip
    intro count
    apply Pays.ite
    · apply Pays.map
      apply ((hchild elemType).collect count.toNat).mono
      intro tags
      rw [Tag.count, countTags_eq]
      exact Nat.le_refl _
    · exact Pays.pure rfl
  apply Pays.ite
  · exact Pays.map hcompound
  apply Pays.ite
  · -- int array
    apply Pays.bind (Consumes.pays (m := readVarint))
    intro count
    exact Pays.map (Consumes.collect_pays count.toNat)
  apply Pays.ite
  · -- long array
    apply Pays.bind (Consumes.pays (m := readVarint))
    intro count
    exact Pays.map (Consumes.collect_pays count.toNat)
  · exact Pays.throw _

end Child

theorem readValue_succ (budget : Nat) (tagType : Int) :
    readValue (budget + 1) tagType =
      valueBody (readCompound (readValue budget)) (readValue budget) tagType := rfl

/-- A value takes up as much as it has tags and elements. -/
theorem readValue_pays (budget : Nat) (tagType : Int) :
    Pays (readValue budget tagType) Tag.count := by
  induction budget generalizing tagType with
  | zero => exact Pays.throw _
  | succ budget ih =>
    rw [readValue_succ]
    exact valueBody_pays ih (readCompound_pays ih) tagType

theorem one_le_count (tag : Tag) : 1 ≤ tag.count := by
  cases tag <;> exact Nat.le_add_left 1 _

instance (budget : Nat) (tagType : Int) : Consumes (readValue budget tagType) :=
  ⟨(readValue_pays budget tagType).mono one_le_count⟩

theorem readNbt_pays (readName : Bool) : Pays (readNbt readName) countNbt := by
  apply Pays.bind (Consumes.pays (m := readByte))
  intro rootType
  apply Pays.ite
  · exact Pays.pure rfl
  apply Pays.ite
  · exact Pays.throw _
  apply Pays.skip
  intro _
  apply Pays.map
  apply (readCompound_pays (readValue_pays 512)).mono
  intro entries
  exact Nat.sub_le _ 1

/-! ### Elements of arrays -/

instance : Consumes string.read := inferInstanceAs (Consumes readString)

instance : Consumes byte.read := inferInstanceAs (Consumes readByte)

instance : Consumes ushortLE.read := inferInstanceAs (Consumes readUShortLE)

instance : Consumes intLE.read := inferInstanceAs (Consumes readIntLE)

instance : Consumes uvarInt.read := inferInstanceAs (Consumes readUVarint)

instance : Consumes varInt64.read := inferInstanceAs (Consumes readVarint64)

instance (valuesSize : Nat) : Consumes (indexType valuesSize).read := by
  unfold indexType
  split_ifs <;> infer_instance

instance {α β : Type} (A : FieldType α) (B : FieldType β) [Consumes A.read] [B.Framed] :
    Consumes (pairType A B).read := by
  unfold pairType
  infer_instance

instance : Consumes commandParameter.read := by
  unfold commandParameter
  infer_instance

/-- Only a compound has tags. -/
theorem readActorDataValue_pays (typeId : Int) :
    Pays (readActorDataValue typeId) ActorDataValue.count := by
  unfold readActorDataValue
  apply Pays.ite
  · exact Pays.map Local.pays_zero
  apply Pays.ite
  · exact Pays.map Local.pays_zero
  apply Pays.ite
  · exact Pays.map Local.pays_zero
  apply Pays.ite
  · exact Pays.map Local.pays_zero
  apply Pays.ite
  · exact Pays.map Local.pays_zero
  apply Pays.ite
  · exact Pays.map (readNbt_pays true)
  apply Pays.ite
  · exact Pays.map Local.pays_zero
  apply Pays.ite
  · exact Pays.map Local.pays_zero
  apply Pays.ite
  · exact Pays.map Local.pays_zero
  · exact Pays.throw _

theorem actorDataItem_pays : Pays actorDataItem.read fun item => item.count + 1 := by
  apply Pays.bind (Consumes.pays (m := readUVarint))
  intro key
  apply Pays.skip
  intro typeId
  apply (readActorDataValue_pays typeId).bind
  intro value
  exact Pays.pure (Nat.sub_self _)

theorem commandEnumType_pays (index : FieldType Int) [Consumes index.read] [index.Framed] :
    Pays (commandEnumType index).read fun commandEnum => commandEnum.values.length + 1 :=
  record_pays fun _ _ => rfl

theorem commandSubcommandType_pays (T : FieldType Int) [Consumes T.read] [T.Framed] :
    Pays (commandSubcommandType T).read fun subcommand => subcommand.values.length + 1 :=
  record_pays fun _ _ => rfl

theorem commandOverload_pays : Pays commandOverload.read fun overload => overload.count + 1 :=
  record_pays fun _ _ => rfl

theorem commandDefinitionType_pays (permissionType index : FieldType Int) [permissionType.Framed]
    [Consumes index.read] [index.Framed] :
    Pays (commandDefinitionType permissionType index).read fun command => command.count + 1 := by
  apply Pays.skip
  intro name
  apply Pays.skip
  intro description
  apply Pays.skip
  intro flags
  apply Pays.skip
  intro permission
  apply Pays.skip
  intro aliasIndex
  apply arrayType_pays_length.bind
  intro subcommandIndices
  apply (arrayType_pays commandOverload_pays).bind
  intro overloads
  apply Pays.pure
  dsimp only [CommandDefinition.count]
  omega

theorem softEnum_pays : Pays softEnum.read fun softEnum => softEnum.values.length + 1 :=
  record_pays fun _ _ => rfl

theorem commandConstraint_pays :
    Pays commandConstraint.read fun constraint => constraint.constraints.length + 1 := by
  apply Pays.skip
  intro valueIndex
  exact record_pays fun _ _ => rfl

/-! ### Recipes -/

instance : Consumes recipeIngredient.read := by
  unfold recipeIngredient itemDescriptor
  infer_instance

instance : Consumes networkItemInstanceDescriptor.read := by
  unfold networkItemInstanceDescriptor readDescriptorFields
  infer_instance

theorem recipeUnlockingRequirement_pays :
    Pays recipeUnlockingRequirement.read fun requirement => requirement.ingredients.length := by
  apply Pays.skip
  intro contextByte
  apply Pays.skip
  intro context
  apply Pays.ite
  · apply arrayType_pays_length.bind
    intro ingredients
    exact Pays.pure (Nat.sub_eq_zero_of_le (Nat.le_succ _))
  · exact Pays.pure rfl

theorem readShapelessBody_pays (recipe : Recipe) :
    Pays (readShapelessBody recipe) Recipe.count := by
  apply Pays.skip
  intro recipeId
  apply arrayType_pays_length.bind
  intro ingredients
  apply arrayType_pays_length.bind
  intro results
  apply Pays.skip
  intro uuid
  apply Pays.skip
  intro tag
  apply Pays.skip
  intro priority
  apply recipeUnlockingRequirement_pays.bind
  intro requirement
  apply Pays.skip
  intro recipeNetId
  apply Pays.pure
  dsimp only [Recipe.count]
  omega

theorem readShapedBody_pays (recipe : Recipe) : Pays (readShapedBody recipe) Recipe.count := by
  apply Pays.skip
  intro recipeId
  apply Pays.skip
  intro width
  apply Pays.skip
  intro height
  apply Pays.bind (Consumes.collect_pays (width * height).toNat)
  intro ingredients
  apply arrayType_pays_length.bind
  intro results
  apply Pays.skip
  intro uuid
  apply Pays.skip
  intro tag
  apply Pays.skip
  intro priority
  apply Pays.skip
  intro assumeSymmetry
  apply recipeUnlockingRequirement_pays.bind
  intro requirement
  apply Pays.skip
  intro recipeNetId
  apply Pays.pure
  dsimp only [Recipe.count]
  omega

theorem shapelessChemistryRecipe_pays : Pays shapelessChemistryRecipe.read Recipe.count := by
  apply Pays.skip
  intro recipeId
  apply arrayType_pays_length.bind
  intro ingredients
  apply arrayType_pays_length.bind
  intro results
  apply Pays.skip
  intro uuid
  apply Pays.skip
  intro tag
  apply Pays.skip
  intro priority
  apply Pays.skip
  intro recipeNetId
  apply Pays.pure
  dsimp only [Recipe.count, List.length_nil]
  omega

theorem shapedChemistryRecipe_pays : Pays shapedChemistryRecipe.read Recipe.count := by
  apply Pays.skip
  intro recipeId
  apply Pays.skip
  intro width
  apply Pays.skip
  intro height
  apply Pays.bind (Consumes.collect_pays (width * height).toNat)
  intro ingredients
  apply arrayType_pays_length.bind
  intro results
  apply Pays.skip
  intro uuid
  apply Pays.skip
  intro tag
  apply Pays.skip
  intro priority
  apply Pays.skip
  intro assumeSymmetry
  apply Pays.skip
  intro recipeNetId
  apply Pays.pure
  dsimp only [Recipe.count, List.length_nil]
  omega

theorem smithingTransformRecipe_pays : Pays smithingTransformRecipe.read Recipe.count := by
  apply Pays.skip
  intro recipeId
  apply Pays.bind (Consumes.collect_pays 3)
  intro ingredients
  apply Pays.bind (Consumes.pays (m := networkItemInstanceDescriptor.read))
  intro result
  apply Pays.skip
  intro tag
  apply Pays.skip
  intro recipeNetId
  apply Pays.pure
  dsimp only [Recipe.count, List.length_singleton, List.length_nil]
  omega

theorem smithingTrimRecipe_pays : Pays smithingTrimRecipe.read Recipe.count := by
  apply Pays.skip
  intro recipeId
  apply Pays.bind (Consumes.collect_pays 3)
  intro ingredients
  apply Pays.skip
  intro tag
  apply Pays.skip
  intro recipeNetId
  apply Pays.pure
  dsimp only [Recipe.count, List.length_nil]
  omega

theorem multiRecipe_pays : Pays multiRecipe.read Recipe.count := by
  apply Pays.skip
  intro uuid
  apply Pays.skip
  intro recipeNetId
  exact Pays.pure rfl

theorem recipeCodecs_pays {type : CraftingDataEntryType} {codec : FieldType Recipe}
    (h : recipeCodecs type = some codec) : Pays codec.read Recipe.count := by
  cases type with
  | shapelessRecipe =>
    obtain rfl := Option.some.inj h
    exact readShapelessBody_pays _
  | shapedRecipe =>
    obtain rfl := Option.some.inj h
    exact readShapedBody_pays _
  | multiRecipe =>
    obtain rfl := Option.some.inj h
    exact multiRecipe_pays
  | userDataShapelessRecipe =>
    obtain rfl := Option.some.inj h
    exact readShapelessBody_pays _
  | shapelessChemistryRecipe =>
    obtain rfl := Option.some.inj h
    exact shapelessChemistryRecipe_pays
  | shapedChemistryRecipe =>
    obtain rfl := Option.some.inj h
    exact shapedChemistryRecipe_pays
  | smithingTransformRecipe =>
    obtain rfl := Option.some.inj h
    exact smithingTransformRecipe_pays
  | smithingTrimRecipe =>
    obtain rfl := Option.some.inj h
    exact smithingTrimRecipe_pays
  | furnaceRecipe | furnaceAuxRecipe | count => cases h

theorem RecipeReader.pays {m : Parser PyException UInt8 Recipe} (h : RecipeReader m) :
    Pays m Recipe.count := by
  cases h with
  | shapelessBody recipe => exact readShapelessBody_pays recipe
  | shapedBody recipe => exact readShapedBody_pays recipe
  | codec hcodec => exact recipeCodecs_pays hcodec

theorem readCraftingData_pays (type : CraftingDataEntryType) :
    Pays (readCraftingData type) CraftingDataEntry.count := by
  unfold readCraftingData
  apply Pays.ite
  · apply Pays.skip
    intro itemData
    apply Pays.skip
    intro itemResult
    apply Pays.skip
    intro tag
    exact Pays.pure rfl
  apply Pays.ite
  · apply Pays.skip
    intro itemData
    apply Pays.skip
    intro itemAux
    apply Pays.skip
    intro itemResult
    apply Pays.skip
    intro tag
    exact Pays.pure rfl
  · cases hcodec : recipeCodecs type with
    | none => exact Pays.throw _
    | some codec =>
      apply (recipeCodecs_pays hcodec).bind
      intro recipe
      exact Pays.pure (Nat.sub_self _)

theorem craftingDataEntry_pays : Pays craftingDataEntry.read fun entry => entry.count + 1 := by
  apply Pays.bind (Consumes.pays (m := readVarint))
  intro typeValue
  apply Pays.skip
  intro type
  exact readCraftingData_pays type

/-! ### All elements -/

theorem ArrayElement.pays {α : Type} {T : FieldType α} {nested : α → Nat}
    (h : ArrayElement T nested) : Pays T.read fun a => nested a + 1 := by
  cases h with
  | string => exact Consumes.pays
  | varInt64 => exact Consumes.pays
  | actorDataItem => exact actorDataItem_pays
  | craftingDataEntry => exact craftingDataEntry_pays
  | commandEnumV860 valuesSize => exact commandEnumType_pays (indexType valuesSize)
  | commandEnumV898 => exact commandEnumType_pays intLE
  | commandSubcommandV860 => exact commandSubcommandType_pays ushortLE
  | commandSubcommandV898 => exact commandSubcommandType_pays uvarInt
  | commandDefinitionV860 => exact commandDefinitionType_pays byte ushortLE
  | commandDefinitionV898 => exact commandDefinitionType_pays permissionLabel intLE
  | softEnum => exact softEnum_pays
  | commandConstraint => exact commandConstraint_pays

/-- What a loop runs in each round consumes something. -/
theorem ElementReader.consumes {α : Type} {m : Parser PyException UInt8 α} (h : ElementReader m) :
    Consumes m := by
  cases h with
  | array helement => exact ⟨helement.pays.mono fun _ => Nat.le_add_left 1 _⟩
  | overload => exact ⟨commandOverload_pays.mono fun _ => Nat.le_add_left 1 _⟩
  | _ => infer_instance

/-! ### NBT, cut off -/

instance (child : Int → Parser PyException UInt8 Tag) [∀ tagType, Local (child tagType)]
    (entries : CompoundTag) : Local (entryRound child entries) := by
  unfold entryRound
  infer_instance

instance (child : Int → Parser PyException UInt8 Tag) [∀ tagType, Local (child tagType)]
    (entries : CompoundTag) : Consumes (entryRound child entries) := by
  unfold entryRound
  infer_instance

/-- The loop over entries, with the exception that its limit stands for. -/
theorem readEntries_eq_loop (child : Int → Parser PyException UInt8 Tag) (limit : Nat)
    (entries : CompoundTag) :
    readEntries child limit entries =
      loop (entryRound child) (fun _ => throw .indexError) limit entries := by
  induction limit generalizing entries with
  | zero => rfl
  | succ limit ih =>
    unfold readEntries loop entryRound
    rw [bind_assoc]
    congr 1
    funext childType
    split_ifs
    · rfl
    · rw [bind_assoc]
      congr 1
      funext name
      rw [bind_assoc]
      congr 1
      funext tag
      exact ih (entries.insert name tag)

section CutOff

variable {child child' : Int → Parser PyException UInt8 Tag} [∀ tagType, Local (child tagType)]
  {n : Nat}

theorem agrees_entryRound (hchild : ∀ tagType, Agrees n (child tagType) (child' tagType))
    (entries : CompoundTag) : Agrees n (entryRound child entries) (entryRound child' entries) := by
  apply (Agrees.refl n readByte).bind Local.advances
  intro childType
  apply Agrees.ite
  · exact Agrees.refl n _
  · apply (Agrees.refl n readNbtString).bind Local.advances
    intro name
    apply (hchild childType).bind Local.advances
    intro tag
    exact Agrees.refl n _

/-- The loop over the entries of a compound is never cut off. -/
theorem agrees_loop_entryRound (hchild : ∀ tagType, Agrees n (child tagType) (child' tagType))
    (further : CompoundTag → Parser PyException UInt8 CompoundTag) :
    Agrees n (readCompound child) (loop (entryRound child') further n []) := by
  intro c hc hlen
  have hlimit : c.rest.length + 1 ≤ n := hlen
  show readEntries child (c.rest.length + 1) [] c = _
  rw [readEntries_eq_loop]
  calc loop (entryRound child) (fun _ => throw .indexError) (c.rest.length + 1) [] c
      = loop (entryRound child) further n [] c :=
        agrees_loop (Nat.le_refl _) hlimit [] c hc (Nat.lt_succ_self _)
    _ = loop (entryRound child') further n [] c :=
        Agrees.loop (agrees_entryRound hchild) (fun _ => Local.advances) n [] c hc hlen

theorem agrees_valueBody {compound compound' : Parser PyException UInt8 CompoundTag}
    [Local compound] (hcompound : Agrees n compound compound')
    (hchild : ∀ tagType, Agrees n (child tagType) (child' tagType)) (tagType : Int) :
    Agrees n (valueBody compound child tagType) (valueBody compound' child' tagType) := by
  unfold valueBody
  apply Agrees.ite (Agrees.refl n _)
  apply Agrees.ite (Agrees.refl n _)
  apply Agrees.ite (Agrees.refl n _)
  apply Agrees.ite (Agrees.refl n _)
  apply Agrees.ite (Agrees.refl n _)
  apply Agrees.ite (Agrees.refl n _)
  apply Agrees.ite (Agrees.refl n _)
  apply Agrees.ite (Agrees.refl n _)
  apply Agrees.ite
  · -- list
    apply (Agrees.refl n readByte).bind Local.advances
    intro elemType
    apply (Agrees.refl n readVarint).bind Local.advances
    intro count
    apply Agrees.ite
    · exact ((hchild elemType).collect Local.advances count.toNat).map Local.advances _
    · exact Agrees.refl n _
  apply Agrees.ite
  · exact hcompound.map Local.advances _
  exact Agrees.refl n _

variable (deeper : Nat → Int → Parser PyException UInt8 Tag)
  (further : CompoundTag → Parser PyException UInt8 CompoundTag)

/-- As many calls as the depth leaves are enough: the next one raises. -/
theorem agrees_valueUpTo {budget depth : Nat} (hdepth : depth + budget = 513) (tagType : Int) :
    Agrees n (readValue budget tagType)
      (valueUpTo deeper further n (budget + 1) depth tagType) := by
  induction budget generalizing depth tagType with
  | zero =>
    rw [valueUpTo, if_pos (by omega)]
    exact Agrees.refl n _
  | succ budget ih =>
    rw [valueUpTo, if_neg (by omega), readValue_succ]
    have hdepth' : depth + 1 + budget = 513 := by omega
    have hchild := ih hdepth'
    exact agrees_valueBody (agrees_loop_entryRound hchild further) hchild tagType

/-- Neither a call below the 513th nor a round behind those that the data leaves is needed. -/
theorem agrees_nbtUpTo (readName : Bool) :
    Agrees n (readNbt readName) (nbtUpTo deeper further n 513 readName) := by
  apply (Agrees.refl n readByte).bind Local.advances
  intro rootType
  apply Agrees.ite
  · exact Agrees.refl n _
  apply Agrees.ite
  · exact Agrees.refl n _
  apply (Agrees.refl n (readRootName readName)).bind Local.advances
  intro _
  have hchild : ∀ tagType, Agrees n (readValue 512 tagType)
      (valueUpTo deeper further n 513 1 tagType) := agrees_valueUpTo deeper further rfl
  exact (agrees_loop_entryRound hchild further).map Local.advances _

end CutOff

/-! ### All together -/

/-- **Declared counts do not outrun the data.**  The tags and the elements that `readNbt`, an array
or a recipe returns are no more than the bytes it consumed.  Whatever the count, a loop over
elements runs at most once more than there are bytes left, and so does the loop over the entries of
a compound, which has no count.  NBT does the same whatever would happen behind 513 calls, the child
of a root and 512 levels below it, or behind these rounds: it needs neither, and ends. -/
theorem decoding_within_data :
    (∀ (readName : Bool) (data : List UInt8) (pos : Nat) (value : Option CompoundTag)
      (r : PacketReader), pos ≤ data.length → readNbt readName ⟨data, pos⟩ = .ok value r →
        pos + countNbt value ≤ r.pos) ∧
    (∀ (α : Type) (T : FieldType α) (nested : α → Nat), ArrayElement T nested →
      ∀ (data : List UInt8) (pos : Nat) (values : List α) (r : PacketReader), pos ≤ data.length →
        (arrayType T).read ⟨data, pos⟩ = .ok values r →
          pos + countElements nested values ≤ r.pos) ∧
    (∀ m, RecipeReader m → ∀ (data : List UInt8) (pos : Nat) (recipe : Recipe) (r : PacketReader),
      pos ≤ data.length → m ⟨data, pos⟩ = .ok recipe r → pos + recipe.count ≤ r.pos) ∧
    (∀ (α : Type) (m : Parser PyException UInt8 α), ElementReader m →
      ∀ (count : Nat) (data : List UInt8) (pos : Nat), pos ≤ data.length →
        rounds m count ⟨data, pos⟩ ≤ data.length - pos + 1) ∧
    (∀ (budget limit : Nat) (entries : CompoundTag) (data : List UInt8) (pos : Nat),
      pos ≤ data.length →
        loopRounds (entryRound (readValue budget)) limit entries ⟨data, pos⟩ ≤
          data.length - pos + 1) ∧
    (∀ deeper further (readName : Bool) (data : List UInt8) (pos : Nat), pos ≤ data.length →
      nbtUpTo deeper further (data.length - pos + 1) 513 readName ⟨data, pos⟩ =
        readNbt readName ⟨data, pos⟩) := by
  refine ⟨fun readName data pos value r hpos hok => ?_,
    fun α T nested hT data pos values r hpos hok => ?_,
    fun m hm data pos recipe r hpos hok => ?_,
    fun α m hm count data pos hpos => ?_,
    fun budget limit entries data pos hpos => ?_,
    fun deeper further readName data pos hpos => ?_⟩
  · exact (readNbt_pays readName).of_ok hpos hok
  · have hpaid := (arrayType_pays hT.pays).of_ok hpos hok
    exact Nat.le_of_succ_le hpaid
  · exact hm.pays.of_ok hpos hok
  · have := hm.consumes
    have hrounds : rounds m count ⟨data, pos⟩ ≤ (Cursor.rest ⟨data, pos⟩).length + 1 :=
      rounds_le count hpos
    rwa [Cursor.length_rest] at hrounds
  · have hrounds : loopRounds (entryRound (readValue budget)) limit entries ⟨data, pos⟩ ≤
        (Cursor.rest ⟨data, pos⟩).length + 1 := loopRounds_le limit entries hpos
    rwa [Cursor.length_rest] at hrounds
  · have hlen : (Cursor.rest ⟨data, pos⟩).length < data.length - pos + 1 := by
      rw [Cursor.length_rest]
      exact Nat.lt_succ_self _
    exact (agrees_nbtUpTo deeper further readName ⟨data, pos⟩ hpos hlen).symm

/-- An int array of three, two varints, a smithing recipe of three ingredients, and a count of
`2 ^ 35 - 1` in front of two bytes. -/
theorem decoding_within_data_sample :
    0 + countNbt (some [("", .intArray [-1, 1, -2])]) ≤ 9 ∧
    0 + countElements (fun _ => 0) [(-1 : Int), 1] ≤ 3 ∧
    0 + Recipe.count { recipeClass := .smithingTrim, ingredients := [{}, {}, {}] } ≤ 9 ∧
    rounds readVarint (2 ^ 35 - 1) ⟨[1, 2], 0⟩ ≤ 3 ∧
    loopRounds (entryRound (readValue 512)) 7 [] ⟨[1, 0], 0⟩ ≤ 3 ∧
    nbtUpTo (fun _ _ => throw .keyError) (fun _ => throw .keyError) 4 513 false ⟨[10, 1, 0], 0⟩ =
      readNbt false ⟨[10, 1, 0], 0⟩ := by
  obtain ⟨hnbt, harray, hrecipe, hrounds, hloop, hcut⟩ := decoding_within_data
  refine ⟨?_, ?_, ?_, ?_, ?_, ?_⟩
  · exact hnbt true [10, 0, 11, 0, 6, 1, 2, 3, 0] 0 _ ⟨_, 9⟩ (by decide) rfl
  · exact harray Int varInt64 _ .varInt64 [2, 1, 2] 0 _ ⟨_, 3⟩ (by decide) rfl
  · have hcodec : recipeCodecs .smithingTrimRecipe = some smithingTrimRecipe := rfl
    exact hrecipe smithingTrimRecipe.read (.codec hcodec) [0, 0, 0, 0, 0, 0, 0, 0, 0] 0 _ ⟨_, 9⟩
      (by decide) rfl
  · exact hrounds Int readVarint .int _ [1, 2] 0 (by decide)
  · exact hloop 512 7 [] [1, 0] 0 (by decide)
  · exact hcut _ _ false [10, 1, 0] 0 (by decide)

end Endweave
