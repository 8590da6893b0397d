import Endweave.Codec.Types.Enums
import Endweave.Codec.Types.Inventory

/-!
# Recipes

The entries of the recipe list.  The counted loops of the source are those of `arrayType`.
-/

namespace Endweave

open Wire PacketReader PacketWriter

/-- `E(value)` of an `IntEnum`: the member with this value. -/
def enumMember {ε σ : Type} (name : String) (members : List ε) (value : ε → Int) (v : Int) :
    EStateM PyException σ ε :=
  match members.find? fun m => value m == v with
  | some m => pure m
  | none => throw (.valueError s!"{v} is not a valid {name}")

def CraftingDataEntryType.ofValue {σ : Type} :
    Int → EStateM PyException σ CraftingDataEntryType :=
  enumMember "CraftingDataEntryType" members value

/-! ### Ingredients -/

inductive ItemDescriptorKind where
  | invalid
  | default
  | molang
  | itemTag
  | deferred
  | complexAlias
deriving Repr, DecidableEq

namespace ItemDescriptorKind

def value : ItemDescriptorKind → Int
  | invalid => 0
  | default => 1
  | molang => 2
  | itemTag => 3
  | deferred => 4
  | complexAlias => 5

def members : List ItemDescriptorKind := [invalid, default, molang, itemTag, deferred, complexAlias]

def ofValue {σ : Type} : Int → EStateM PyException σ ItemDescriptorKind :=
  enumMember "ItemDescriptorKind" members value

end ItemDescriptorKind

structure ItemDescriptor where
  kind : ItemDescriptorKind := .invalid
  itemId : Int := 0
  auxValue : Int := 0
  tagExpression : String := ""
  molangVersion : Int := 0
  itemTag : String := ""
  fullName : String := ""
deriving Repr, DecidableEq

/-- What follows the kind. -/
def readDescriptor (kind : ItemDescriptorKind) : Parser PyException UInt8 ItemDescriptor :=
  match kind with
  | .default => do
    let itemId ← readShortLE
    let auxValue ← if itemId ≠ 0 then readShortLE else pure 0
    pure { kind, itemId, auxValue }
  | .molang => do
    let tagExpression ← readString
    let molangVersion ← readByte
    pure { kind, tagExpression, molangVersion }
  | .itemTag => do
    let itemTag ← readString
    pure { kind, itemTag }
  | .deferred => do
    let fullName ← readString
    let auxValue ← readShortLE
    pure { kind, fullName, auxValue }
  | .complexAlias => do
    let fullName ← readString
    pure { kind, fullName }
  | .invalid => pure { kind }

def writeDescriptor (value : ItemDescriptor) : Printer PyException UInt8 Unit :=
  match value.kind with
  | .default => do
    writeShortLE value.itemId
    if value.itemId ≠ 0 then writeShortLE value.auxValue else pure ()
  | .molang => do
    writeString value.tagExpression
    writeByte value.molangVersion
  | .itemTag => writeString value.itemTag
  | .deferred => do
    writeString value.fullName
    writeShortLE value.auxValue
  | .complexAlias => writeString value.fullName
  | .invalid => pure ()

def itemDescriptor : FieldType ItemDescriptor where
  read := do
    let kindByte ← readByte
    let kind ← ItemDescriptorKind.ofValue kindByte
    readDescriptor kind
  write value := do
    writeByte value.kind.value
    writeDescriptor value

structure RecipeIngredient where
  descriptor : ItemDescriptor := {}
  count : Int := 0
deriving Repr, DecidableEq

def recipeIngredient : FieldType RecipeIngredient where
  read := do
    let descriptor ← itemDescriptor.read
    let count ← readVarint
    pure { descriptor, count }
  write value := do
    itemDescriptor.write value.descriptor
    writeVarint value.count

inductive UnlockingContext where
  | none
  | alwaysUnlocked
  | playerInWater
  | playerHasManyItems
deriving Repr, DecidableEq

namespace UnlockingContext

def value : UnlockingContext → Int
  | none => 0
  | alwaysUnlocked => 1
  | playerInWater => 2
  | playerHasManyItems => 3

def members : List UnlockingContext := [none, alwaysUnlocked, playerInWater, playerHasManyItems]

def ofValue {σ : Type} : Int → EStateM PyException σ UnlockingContext :=
  enumMember "UnlockingContext" members value

end UnlockingContext

structure RecipeUnlockingRequirement where
  context : UnlockingContext := .none
  ingredients : List RecipeIngredient := []
deriving Repr, DecidableEq

def recipeUnlockingRequirement : FieldType RecipeUnlockingRequirement where
  read := do
    let contextByte ← readByte
    let context ← UnlockingContext.ofValue contextByte
    if context = .none then do
      let ingredients ← (arrayType recipeIngredient).read
      pure { context, ingredients }
    else pure { context, ingredients := [] }
  write value := do
    writeByte value.context.value
    if value.context = .none then (arrayType recipeIngredient).write value.ingredients else pure ()

/-! ### Recipes -/

/-- The class of a recipe. -/
inductive RecipeClass where
  | shapeless
  | shaped
  | multi
  | userDataShapeless
  | shapelessChemistry
  | shapedChemistry
  | smithingTransform
  | smithingTrim
deriving Repr, DecidableEq

/-- A recipe of any class; only the shaped ones have `assumeSymmetry`. -/
structure Recipe where
  recipeClass : RecipeClass
  recipeId : String := ""
  uuid : MceUUID := {}
  width : Int := 0
  height : Int := 0
  priority : Int := 0
  recipeNetId : Int := 0
  ingredients : List RecipeIngredient := []
  results : List ItemInstance := []
  tag : String := ""
  requirement : RecipeUnlockingRequirement := {}
  assumeSymmetry : Bool := false
deriving Repr, DecidableEq

def readShapelessBody (recipe : Recipe) : Parser PyException UInt8 Recipe := do
  let recipeId ← readString
  let ingredients ← (arrayType recipeIngredient).read
  let results ← (arrayType networkItemInstanceDescriptor).read
  let uuid ← uuid.read
  let tag ← readString
  let priority ← readVarint
  let requirement ← recipeUnlockingRequirement.read
  let recipeNetId ← readUVarint
  pure { recipe with
    recipeId, ingredients, results, uuid, tag, priority, requirement, recipeNetId }

def writeShapelessBody (value : Recipe) : Printer PyException UInt8 Unit := do
  writeString value.recipeId
  (arrayType recipeIngredient).write value.ingredients
  (arrayType networkItemInstanceDescriptor).write value.results
  uuid.write value.uuid
  writeString value.tag
  writeVarint value.priority
  recipeUnlockingRequirement.write value.requirement
  writeUVarint value.recipeNetId

def readShapedBody (recipe : Recipe) : Parser PyException UInt8 Recipe := do
  let recipeId ← readString
  let width ← readVarint
  let height ← readVarint
  let ingredients ← collect recipeIngredient.read (width * height).toNat
  let results ← (arrayType networkItemInstanceDescriptor).read
  let uuid ← uuid.read
  let tag ← readString
  let priority ← readVarint
  let assumeSymmetry ← readBool
  let requirement ← recipeUnlockingRequirement.read
  let recipeNetId ← readUVarint
  pure { recipe with
    recipeId, width, height, ingredients, results, uuid, tag, priority, assumeSymmetry,
    requirement, recipeNetId }

/-- The ingredients of a shaped recipe; `name` is the class in the message. -/
def writeGrid (name : String) (value : Recipe) : Printer PyException UInt8 Unit :=
  let expected := value.width * value.height
  if (value.ingredients.length : Int) ≠ expected then
    throw (.valueError
      s!"{name} ingredient count {value.ingredients.length} != width*height {expected}")
  else each recipeIngredient.write value.ingredients

def writeShapedBody (value : Recipe) : Printer PyException UInt8 Unit := do
  writeString value.recipeId
  writeVarint value.width
  writeVarint value.height
  writeGrid "ShapedRecipe" value
  (arrayType networkItemInstanceDescriptor).write value.results
  uuid.write value.uuid
  writeString value.tag
  writeVarint value.priority
  writeBool value.assumeSymmetry
  recipeUnlockingRequirement.write value.requirement
  writeUVarint value.recipeNetId

def shapelessRecipe : FieldType Recipe where
  read := readShapelessBody { recipeClass := .shapeless }
  write := writeShapelessBody

def shapedRecipe : FieldType Recipe where
  read := readShapedBody { recipeClass := .shaped }
  write := writeShapedBody

def multiRecipe : FieldType Recipe where
  read := do
    let uuid ← uuid.read
    let recipeNetId ← readUVarint
    pure { recipeClass := .multi, uuid, recipeNetId }
  write value := do
    uuid.write value.uuid
    writeUVarint value.recipeNetId

def userDataShapelessRecipe : FieldType Recipe where
  read := readShapelessBody { recipeClass := .userDataShapeless }
  write := writeShapelessBody

def shapelessChemistryRecipe : FieldType Recipe where
  read := do
    let recipeId ← readString
    let ingredients ← (arrayType recipeIngredient).read
    let results ← (arrayType networkItemInstanceDescriptor).read
    let uuid ← uuid.read
    let tag ← readString
    let priority ← readVarint
    let recipeNetId ← readUVarint
    pure { recipeClass := .shapelessChemistry, recipeId, ingredients, results, uuid, tag, priority,
           recipeNetId }
  write value := do
    writeString value.recipeId
    (arrayType recipeIngredient).write value.ingredients
    (arrayType networkItemInstanceDescriptor).write value.results
    uuid.write value.uuid
    writeString value.tag
    writeVarint value.priority
    writeUVarint value.recipeNetId

def shapedChemistryRecipe : FieldType Recipe where
  read := do
    let recipeId ← readString
    let width ← readVarint
    let height ← readVarint
    let ingredients ← collect recipeIngredient.read (width * height).toNat
    let results ← (arrayType networkItemInstanceDescriptor).read
    let uuid ← uuid.read
    let tag ← readString
    let priority ← readVarint
    let assumeSymmetry ← readBool
    let recipeNetId ← readUVarint
    pure { recipeClass := .shapedChemistry, recipeId, width, height, ingredients, results, uuid,
           tag, priority, assumeSymmetry, recipeNetId }
  write value := do
    writeString value.recipeId
    writeVarint value.width
    writeVarint value.height
    writeGrid "ShapedChemistryRecipe" value
    (arrayType networkItemInstanceDescriptor).write value.results
    uuid.write value.uuid
    writeString value.tag
    writeVarint value.priority
    writeBool value.assumeSymmetry
    writeUVarint value.recipeNetId

def smithingTransformRecipe : FieldType Recipe where
  read := do
    let recipeId ← readString
    let ingredients ← collect recipeIngredient.read 3
    let result ← networkItemInstanceDescriptor.read
    let tag ← readString
    let recipeNetId ← readUVarint
    pure { recipeClass := .smithingTransform, recipeId, ingredients, results := [result], tag,
           recipeNetId }
  write value :=
    if value.ingredients.length ≠ 3 then
      throw (.valueError
        s!"SmithingTransformRecipe must have 3 ingredients (got {value.ingredients.length})")
    else match value.results with
      | [result] => do
        writeString value.recipeId
        each recipeIngredient.write value.ingredients
        networkItemInstanceDescriptor.write result
        writeString value.tag
        writeUVarint value.recipeNetId
      | results => throw (.valueError
          s!"SmithingTransformRecipe must have 1 result (got {results.length})")

def smithingTrimRecipe : FieldType Recipe where
  read := do
    let recipeId ← readString
    let ingredients ← collect recipeIngredient.read 3
    let tag ← readString
    let recipeNetId ← readUVarint
    pure { recipeClass := .smithingTrim, recipeId, ingredients, tag, recipeNetId }
  write value :=
    if value.ingredients.length ≠ 3 then
      throw (.valueError
        s!"SmithingTrimRecipe must have 3 ingredients (got {value.ingredients.length})")
    else do
      writeString value.recipeId
      each recipeIngredient.write value.ingredients
      writeString value.tag
      writeUVarint value.recipeNetId

/-- `RECIPE_CODECS`. -/
def recipeCodecs : CraftingDataEntryType → Option (FieldType Recipe)
  | .shapelessRecipe => some shapelessRecipe
  | .shapedRecipe => some shapedRecipe
  | .multiRecipe => some multiRecipe
  | .userDataShapelessRecipe => some userDataShapelessRecipe
  | .shapelessChemistryRecipe => some shapelessChemistryRecipe
  | .shapedChemistryRecipe => some shapedChemistryRecipe
  | .smithingTransformRecipe => some smithingTransformRecipe
  | .smithingTrimRecipe => some smithingTrimRecipe
  | .furnaceRecipe | .furnaceAuxRecipe | .count => none

/-! ### Entries -/

structure CraftingDataEntry where
  recipe : Option Recipe
  itemData : Int
  itemAux : Int
  tag : String
  itemResult : ItemInstance
  type : CraftingDataEntryType
deriving Repr, DecidableEq

/-- What follows the type. -/
def readCraftingData (type : CraftingDataEntryType) : Parser PyException UInt8 CraftingDataEntry :=
  if type = .furnaceRecipe then do
    let itemData ← readVarint
    let itemResult ← networkItemInstanceDescriptor.read
    let tag ← readString
    pure { recipe := none, itemData, itemAux := 0, tag, itemResult, type }
  else if type = .furnaceAuxRecipe then do
    let itemData ← readVarint
    let itemAux ← readVarint
    let itemResult ← networkItemInstanceDescriptor.read
    let tag ← readString
    pure { recipe := none, itemData, itemAux, tag, itemResult, type }
  else match recipeCodecs type with
    | none => throw .keyError
    | some codec => do
      let recipe ← codec.read
      pure { recipe := some recipe, itemData := 0, itemAux := 0, tag := "", itemResult := {}, type }

def writeCraftingData (value : CraftingDataEntry) : Printer PyException UInt8 Unit :=
  if value.type = .furnaceRecipe then do
    writeVarint value.itemData
    networkItemInstanceDescriptor.write value.itemResult
    writeString value.tag
  else if value.type = .furnaceAuxRecipe then do
    writeVarint value.itemData
    writeVarint value.itemAux
    networkItemInstanceDescriptor.write value.itemResult
    writeString value.tag
  else match value.recipe with
    | none => throw .assertionError
    | some recipe => match recipeCodecs value.type with
      | none => throw .keyError
      | some codec => codec.write recipe

def craftingDataEntry : FieldType CraftingDataEntry where
  read := do
    let typeValue ← readVarint
    let type ← CraftingDataEntryType.ofValue typeValue
    readCraftingData type
  write value := do
    writeVarint value.type.value
    writeCraftingData value

end Endweave
