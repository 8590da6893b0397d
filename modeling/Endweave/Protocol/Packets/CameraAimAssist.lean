import Endweave.Codec.Equiv.Primitives

/-!
# The grammar of `CameraAimAssistPresets`

The categories and presets of a v898 packet with the type that reads and writes them, and the bytes
that v860 and v924 make of the fields they have.
-/

namespace Endweave

open Wire

/-! ### Fields -/

structure AimAssistCategory where
  identifier : String
  entityPriorities : List (String × Int)
  blockPriorities : List (String × Int)
  blockTagPriorities : List (String × Int)
  defaultEntityPriority : Option Int
  defaultBlockPriority : Option Int
deriving Repr, DecidableEq

structure AimAssistPreset where
  identifier : String
  blockExclusions : List String
  entityExclusions : List String
  blockTagExclusions : List String
  liquidTargets : List String
  itemSettings : List (String × String)
  defaultForHands : Option String
  defaultForItems : Option String
deriving Repr, DecidableEq

structure CameraAimAssistPresets where
  categories : List AimAssistCategory
  presets : List AimAssistPreset
deriving Repr, DecidableEq

/-! ### The v898 type -/

def prioritiesType : FieldType (List (String × Int)) := arrayType (pairType string intLE)

def namesType : FieldType (List String) := arrayType string

def itemSettingsType : FieldType (List (String × String)) := arrayType (pairType string string)

def aimAssistCategory : FieldType AimAssistCategory where
  read := do
    let identifier ← string.read
    let entityPriorities ← prioritiesType.read
    let blockPriorities ← prioritiesType.read
    let blockTagPriorities ← prioritiesType.read
    let defaultEntityPriority ← (optionalType intLE).read
    let defaultBlockPriority ← (optionalType intLE).read
    pure { identifier, entityPriorities, blockPriorities, blockTagPriorities, defaultEntityPriority,
           defaultBlockPriority }
  write value := do
    string.write value.identifier
    prioritiesType.write value.entityPriorities
    prioritiesType.write value.blockPriorities
    prioritiesType.write value.blockTagPriorities
    (optionalType intLE).write value.defaultEntityPriority
    (optionalType intLE).write value.defaultBlockPriority

def aimAssistPreset : FieldType AimAssistPreset where
  read := do
    let identifier ← string.read
    let blockExclusions ← namesType.read
    let entityExclusions ← namesType.read
    let blockTagExclusions ← namesType.read
    let liquidTargets ← namesType.read
    let itemSettings ← itemSettingsType.read
    let defaultForHands ← (optionalType string).read
    let defaultForItems ← (optionalType string).read
    pure { identifier, blockExclusions, entityExclusions, blockTagExclusions, liquidTargets,
           itemSettings, defaultForHands, defaultForItems }
  write value := do
    string.write value.identifier
    namesType.write value.blockExclusions
    namesType.write value.entityExclusions
    namesType.write value.blockTagExclusions
    namesType.write value.liquidTargets
    itemSettingsType.write value.itemSettings
    (optionalType string).write value.defaultForHands
    (optionalType string).write value.defaultForItems

def cameraAimAssistPresets : FieldType CameraAimAssistPresets where
  read := do
    let categories ← (arrayType aimAssistCategory).read
    let presets ← (arrayType aimAssistPreset).read
    pure { categories, presets }
  write value := do
    (arrayType aimAssistCategory).write value.categories
    (arrayType aimAssistPreset).write value.presets

/-! ### Canonical packets -/

def CanonicalPriorities (ps : List (String × Int)) : Prop :=
  ps.length < 2 ^ 32 ∧ ∀ p ∈ ps, FitsString p.1 ∧ InInt32 p.2

def CanonicalNames (ss : List String) : Prop := ss.length < 2 ^ 32 ∧ ∀ s ∈ ss, FitsString s

def CanonicalItemSettings (ps : List (String × String)) : Prop :=
  ps.length < 2 ^ 32 ∧ ∀ p ∈ ps, FitsString p.1 ∧ FitsString p.2

instance (ps : List (String × Int)) : Decidable (CanonicalPriorities ps) :=
  inferInstanceAs (Decidable (_ ∧ _))

instance (ss : List String) : Decidable (CanonicalNames ss) := inferInstanceAs (Decidable (_ ∧ _))

instance (ps : List (String × String)) : Decidable (CanonicalItemSettings ps) :=
  inferInstanceAs (Decidable (_ ∧ _))

structure AimAssistCategory.Canonical (c : AimAssistCategory) : Prop where
  identifier : FitsString c.identifier
  entityPriorities : CanonicalPriorities c.entityPriorities
  blockPriorities : CanonicalPriorities c.blockPriorities
  blockTagPriorities : CanonicalPriorities c.blockTagPriorities
  defaultEntityPriority : ∀ v, c.defaultEntityPriority = some v → InInt32 v
  defaultBlockPriority : ∀ v, c.defaultBlockPriority = some v → InInt32 v

structure AimAssistPreset.Canonical (p : AimAssistPreset) : Prop where
  identifier : FitsString p.identifier
  blockExclusions : CanonicalNames p.blockExclusions
  entityExclusions : CanonicalNames p.entityExclusions
  blockTagExclusions : CanonicalNames p.blockTagExclusions
  liquidTargets : CanonicalNames p.liquidTargets
  itemSettings : CanonicalItemSettings p.itemSettings
  defaultForHands : ∀ s, p.defaultForHands = some s → FitsString s
  defaultForItems : ∀ s, p.defaultForItems = some s → FitsString s

structure CameraAimAssistPresets.Canonical (p : CameraAimAssistPresets) : Prop where
  categories : p.categories.length < 2 ^ 32 ∧ ∀ c ∈ p.categories, c.Canonical
  presets : p.presets.length < 2 ^ 32 ∧ ∀ preset ∈ p.presets, preset.Canonical

/-! ### What v860 keeps -/

def AimAssistCategory.withoutBlockTags (c : AimAssistCategory) : AimAssistCategory :=
  { c with blockTagPriorities := [] }

def AimAssistPreset.exclusions (p : AimAssistPreset) : List String :=
  p.blockExclusions ++ p.entityExclusions ++ p.blockTagExclusions

def AimAssistPreset.merged (p : AimAssistPreset) : AimAssistPreset :=
  { p with blockExclusions := p.exclusions, entityExclusions := [], blockTagExclusions := [] }

/-- What comes back from v860: no block tag priorities, and all exclusions in one list. -/
def CameraAimAssistPresets.viaV860 (p : CameraAimAssistPresets) : CameraAimAssistPresets where
  categories := p.categories.map AimAssistCategory.withoutBlockTags
  presets := p.presets.map AimAssistPreset.merged

/-! ### Other versions -/

def AimAssistCategory.defaultBytes (c : AimAssistCategory) : List UInt8 :=
  [(optionalType intLE).bytes c.defaultEntityPriority,
    (optionalType intLE).bytes c.defaultBlockPriority].flatten

/-- Liquid targets, item settings and the two default categories. -/
def AimAssistPreset.tailBytes (p : AimAssistPreset) : List UInt8 :=
  [namesType.bytes p.liquidTargets, itemSettingsType.bytes p.itemSettings,
    (optionalType string).bytes p.defaultForHands,
    (optionalType string).bytes p.defaultForItems].flatten

def AimAssistCategory.bytesV860 (c : AimAssistCategory) : List UInt8 :=
  [string.bytes c.identifier, prioritiesType.bytes c.entityPriorities,
    prioritiesType.bytes c.blockPriorities, c.defaultBytes].flatten

def AimAssistPreset.bytesV860 (p : AimAssistPreset) : List UInt8 :=
  [string.bytes p.identifier, namesType.bytes p.exclusions, p.tailBytes].flatten

def CameraAimAssistPresets.bytesV860 (p : CameraAimAssistPresets) : List UInt8 :=
  arrayBytes AimAssistCategory.bytesV860 p.categories ++
    arrayBytes AimAssistPreset.bytesV860 p.presets

/-- With no entity family priorities. -/
def AimAssistCategory.bytesV924 (c : AimAssistCategory) : List UInt8 :=
  [string.bytes c.identifier, prioritiesType.bytes c.entityPriorities,
    prioritiesType.bytes c.blockPriorities, prioritiesType.bytes c.blockTagPriorities,
    uvarInt.bytes 0, c.defaultBytes].flatten

/-- With no entity type family exclusions. -/
def AimAssistPreset.bytesV924 (p : AimAssistPreset) : List UInt8 :=
  [string.bytes p.identifier, namesType.bytes p.blockExclusions,
    namesType.bytes p.entityExclusions, namesType.bytes p.blockTagExclusions, uvarInt.bytes 0,
    p.tailBytes].flatten

def CameraAimAssistPresets.bytesV924 (p : CameraAimAssistPresets) : List UInt8 :=
  arrayBytes AimAssistCategory.bytesV924 p.categories ++
    arrayBytes AimAssistPreset.bytesV924 p.presets

/-! ### The families of v924 -/

/-- With entity family priorities. -/
def AimAssistCategory.bytesWith (c : AimAssistCategory) (families : List (String × Int)) :
    List UInt8 :=
  [string.bytes c.identifier, prioritiesType.bytes c.entityPriorities,
    prioritiesType.bytes c.blockPriorities, prioritiesType.bytes c.blockTagPriorities,
    prioritiesType.bytes families, c.defaultBytes].flatten

/-- With entity type family exclusions. -/
def AimAssistPreset.bytesWith (p : AimAssistPreset) (families : List String) : List UInt8 :=
  [string.bytes p.identifier, namesType.bytes p.blockExclusions,
    namesType.bytes p.entityExclusions, namesType.bytes p.blockTagExclusions,
    namesType.bytes families, p.tailBytes].flatten

/-- The categories and presets with their families. -/
structure AimAssistFamilies where
  categories : List (AimAssistCategory × List (String × Int))
  presets : List (AimAssistPreset × List String)
deriving Repr, DecidableEq

namespace AimAssistFamilies

variable (p : AimAssistFamilies)

/-- What v898 has of them. -/
def dropFamilies : CameraAimAssistPresets where
  categories := p.categories.map Prod.fst
  presets := p.presets.map Prod.fst

def bytes : List UInt8 :=
  arrayBytes (fun c => c.1.bytesWith c.2) p.categories ++
    arrayBytes (fun preset => preset.1.bytesWith preset.2) p.presets

structure Canonical : Prop where
  fields : p.dropFamilies.Canonical
  exclusions : ∀ preset ∈ p.presets, preset.1.exclusions.length < 2 ^ 32
  categoryFamilies : ∀ c ∈ p.categories, CanonicalPriorities c.2
  presetFamilies : ∀ preset ∈ p.presets, CanonicalNames preset.2

def NoFamilies : Prop := (∀ c ∈ p.categories, c.2 = []) ∧ ∀ preset ∈ p.presets, preset.2 = []

/-- There are no categories, and all exclusions are in the list that v860 has. -/
def OnlyMerged : Prop := p.categories = [] ∧ ∀ preset ∈ p.presets, preset.1.merged = preset.1

instance : Decidable p.NoFamilies := inferInstanceAs (Decidable (_ ∧ _))

instance : Decidable p.OnlyMerged := inferInstanceAs (Decidable (_ ∧ _))

end AimAssistFamilies

end Endweave
