import Endweave.Codec.Types.ActorData
import Endweave.Codec.Types.Commands
import Endweave.Codec.Types.Crafting
import Endweave.Lib.Loops

/-!
# What decoding produces, and how far it goes

The elements in what the readers with loops return, the readers that their loops run in each round,
and `readNbt` cut off: its loops behind a number of rounds, its calls of itself behind a number of
levels.  There something arbitrary takes over, so that a decoder which is the same for all of these
needs no more rounds and no more levels.
-/

namespace Endweave

open Wire PacketReader

/-! ### Elements -/

mutual

/-- The tags of a tree and the elements of its arrays.  The elements of a list are tags. -/
def Tag.count : Tag → Nat
  | .byte _ | .short _ | .int _ | .long _ | .float _ | .double _ | .string _ => 1
  | .byteArray value => value.length + 1
  | .list _ tags => countTags tags + 1
  | .compound value => countEntries value + 1
  | .intArray value => value.length + 1
  | .longArray value => value.length + 1

def countTags : List Tag → Nat
  | [] => 0
  | tag :: tags => tag.count + countTags tags

def countEntries : List (String × Tag) → Nat
  | [] => 0
  | (_, tag) :: entries => tag.count + countEntries entries

end

/-- What `readNbt` returns; an end tag is no tag. -/
def countNbt : Option CompoundTag → Nat
  | none => 0
  | some entries => countEntries entries + 1

def ActorDataValue.count : ActorDataValue → Nat
  | .compoundTag value => countNbt value
  | _ => 0

def ActorDataItem.count (item : ActorDataItem) : Nat := item.value.count

/-- The elements of a list, each with those that lie in it. -/
def countElements {α : Type} (nested : α → Nat) (as : List α) : Nat :=
  (as.map fun a => nested a + 1).sum

def CommandOverload.count (overload : CommandOverload) : Nat := overload.parameters.length

def CommandDefinition.count (command : CommandDefinition) : Nat :=
  command.subcommandIndices.length + countElements CommandOverload.count command.overloads

/-- The ingredients and the results, with the ingredients that unlock the recipe. -/
def Recipe.count (recipe : Recipe) : Nat :=
  recipe.ingredients.length + recipe.results.length + recipe.requirement.ingredients.length

def CraftingDataEntry.count (entry : CraftingDataEntry) : Nat :=
  match entry.recipe with
  | none => 0
  | some recipe => recipe.count

/-! ### Loops -/

/-- The types that an `ArrayType` is made of, with the elements in a value of each. -/
inductive ArrayElement : {α : Type} → FieldType α → (α → Nat) → Prop where
  | string : ArrayElement string fun _ => 0
  | varInt64 : ArrayElement varInt64 fun _ => 0
  | actorDataItem : ArrayElement actorDataItem ActorDataItem.count
  | craftingDataEntry : ArrayElement craftingDataEntry CraftingDataEntry.count
  | commandEnumV860 (valuesSize : Nat) :
    ArrayElement (makeCommandEnumV860 valuesSize) fun commandEnum => commandEnum.values.length
  | commandEnumV898 : ArrayElement commandEnumV898 fun commandEnum => commandEnum.values.length
  | commandSubcommandV860 :
    ArrayElement commandSubcommandV860 fun subcommand => subcommand.values.length
  | commandSubcommandV898 :
    ArrayElement commandSubcommandV898 fun subcommand => subcommand.values.length
  | commandDefinitionV860 : ArrayElement commandDefinitionV860 CommandDefinition.count
  | commandDefinitionV898 : ArrayElement commandDefinitionV898 CommandDefinition.count
  | softEnum : ArrayElement softEnum fun softEnum => softEnum.values.length
  | commandConstraint :
    ArrayElement commandConstraint fun constraint => constraint.constraints.length

/-- The two bodies that recipes share, and the reader of each class. -/
inductive RecipeReader : Parser PyException UInt8 Recipe → Prop where
  | shapelessBody (recipe : Recipe) : RecipeReader (readShapelessBody recipe)
  | shapedBody (recipe : Recipe) : RecipeReader (readShapedBody recipe)
  | codec {type : CraftingDataEntryType} {codec : FieldType Recipe}
    (h : recipeCodecs type = some codec) : RecipeReader codec.read

/-- What the counted loops of NBT, arrays and recipes run in each round. -/
inductive ElementReader : {α : Type} → Parser PyException UInt8 α → Prop where
  -- lists, int arrays and long arrays
  | tag (budget : Nat) (elemType : Int) : ElementReader (readValue budget elemType)
  | int : ElementReader readVarint
  | long : ElementReader readVarint64
  -- arrays, and the lists in their elements
  | array {α : Type} {T : FieldType α} {nested : α → Nat} (h : ArrayElement T nested) :
    ElementReader T.read
  | index (valuesSize : Nat) : ElementReader (indexType valuesSize).read
  | intLE : ElementReader intLE.read
  | ushortLE : ElementReader ushortLE.read
  | byte : ElementReader byte.read
  | pairV860 : ElementReader (pairType ushortLE ushortLE).read
  | pairV898 : ElementReader (pairType uvarInt uvarInt).read
  | parameter : ElementReader commandParameter.read
  | overload : ElementReader commandOverload.read
  -- recipes
  | ingredient : ElementReader recipeIngredient.read
  | result : ElementReader networkItemInstanceDescriptor.read

/-- One round of the loop over the entries of a compound. -/
def entryRound (child : Int → Parser PyException UInt8 Tag) (entries : CompoundTag) :
    Parser PyException UInt8 (CompoundTag ⊕ CompoundTag) := do
  let childType ← readByte
  if childType = tagEnd then pure (.inr entries)
  else do
    let name ← readNbtString
    let tag ← child childType
    pure (.inl (entries.insert name tag))

/-! ### NBT, cut off -/

/-- `_read_value` behind its check of the depth: `child` is the call of itself, `compound` the loop
over the entries of a compound. -/
def valueBody (compound : Parser PyException UInt8 CompoundTag)
    (child : Int → Parser PyException UInt8 Tag) (tagType : Int) : Parser PyException UInt8 Tag :=
  if tagType = tagByte then Tag.byte <$> readByte
  else if tagType = tagShort then Tag.short <$> readShortLE
  else if tagType = tagInt then Tag.int <$> readVarint
  else if tagType = tagLong then Tag.long <$> readVarint64
  else if tagType = tagFloat then Tag.float <$> readFloatLE
  else if tagType = tagDouble then do
    let data ← readBytes 8
    pure (Tag.double (UInt64.ofNat (StructFormat.uint64LE.decode data).toNat))
  else if tagType = tagByteArray then do
    let length ← readVarint
    Tag.byteArray <$> readBytes length
  else if tagType = tagString then Tag.string <$> readNbtString
  else if tagType = tagList then do
    let elemType ← readByte
    let count ← readVarint
    if elemType ≠ tagEnd ∧ count > 0 then
      Tag.list elemType <$> collect (child elemType) count.toNat
    else pure (Tag.list elemType [])
  else if tagType = tagCompound then Tag.compound <$> compound
  else if tagType = tagIntArray then do
    let count ← readVarint
    Tag.intArray <$> collect readVarint count.toNat
  else if tagType = tagLongArray then do
    let count ← readVarint
    Tag.longArray <$> collect readVarint64 count.toNat
  else throw (.valueError s!"Unknown NBT tag type: {tagType}")

section CutOff

variable (deeper : Nat → Int → Parser PyException UInt8 Tag)
  (further : CompoundTag → Parser PyException UInt8 CompoundTag) (limit : Nat)

/-- `_read_value` with its depth counted as in the source.  `deeper` takes over behind `levels`
calls of itself, `further` behind `limit` rounds of a loop over entries. -/
def valueUpTo : Nat → Nat → Int → Parser PyException UInt8 Tag
  | 0, depth, tagType => deeper depth tagType
  | levels + 1, depth, tagType =>
    if depth > 512 then throw (.valueError "NBT nesting depth exceeded")
    else
      let child := valueUpTo levels (depth + 1)
      valueBody (loop (entryRound child) further limit []) child tagType

/-- `read_nbt`, cut off in the same way: a child of the root is the first call. -/
def nbtUpTo (levels : Nat) (readName : Bool) : Parser PyException UInt8 (Option CompoundTag) := do
  let rootType ← readByte
  if rootType = tagEnd then pure none
  else if rootType ≠ tagCompound then
    throw (.valueError s!"Expected compound root tag (10), got {rootType}")
  else do
    readRootName readName
    some <$> loop (entryRound (valueUpTo deeper further limit levels 1)) further limit []

end CutOff

end Endweave
