import Endweave.Codec.Wrapper

/-!
# The `CameraAimAssistPresets` handlers

The loops over names, priorities and item settings are shared; what a handler does to a category and
to a preset is its own.
-/

namespace Endweave

open PacketWrapper

/-! ### Shared loops -/

def passthroughString : PacketHandler := do
  let _ ← passthrough string

def passthroughStrings : PacketHandler := passthroughLoop passthroughString

def passthroughPriority : PacketHandler := do
  let _ ← passthrough string
  let _ ← passthrough intLE

def passthroughPriorities : PacketHandler := passthroughLoop passthroughPriority

def passthroughItemSetting : PacketHandler := do
  let _ ← passthrough string
  let _ ← passthrough string

/-- The default priorities at the end of a category. -/
def passthroughDefaultPriorities : PacketHandler := do
  let _ ← passthrough (optionalType intLE) -- Default Entity Priority
  let _ ← passthrough (optionalType intLE) -- Default Block Priority

/-- Liquid targets, item settings and the two default categories at the end of a preset. -/
def passthroughPresetTail : PacketHandler := do
  passthroughStrings -- Liquid Targets
  passthroughLoop passthroughItemSetting -- Item Settings
  let _ ← passthrough (optionalType string) -- Default Category for Hands
  let _ ← passthrough (optionalType string) -- Default Category for Items

/-! ### From v898 to v860 -/

namespace V898ToV860

def skipPriority : PacketHandler := do
  let _ ← PacketWrapper.read string
  let _ ← PacketWrapper.read intLE

def skipPriorities : PacketHandler := do
  let blockTagPriorityCount ← PacketWrapper.read uvarInt
  Wire.repeatM skipPriority blockTagPriorityCount.toNat

/-- Drop the block tag priorities. -/
def rewriteCategory : PacketHandler := do
  passthroughString -- Identifier
  passthroughPriorities -- Entity Priorities
  passthroughPriorities -- Block Priorities
  skipPriorities
  passthroughDefaultPriorities

def readStrings : WrapperM (List String) := do
  let count ← PacketWrapper.read uvarInt
  Wire.collect (PacketWrapper.read string) count.toNat

/-- Merge the three lists of exclusions. -/
def rewritePreset : PacketHandler := do
  passthroughString
  let blockExclusions ← readStrings
  let entityExclusions ← readStrings
  let blockTagExclusions ← readStrings
  let exclusions := blockExclusions ++ entityExclusions ++ blockTagExclusions
  write uvarInt exclusions.length
  Wire.each (write string) exclusions
  passthroughPresetTail

def rewriteCameraAimAssistPresets : PacketHandler := do
  passthroughLoop rewriteCategory
  passthroughLoop rewritePreset

end V898ToV860

/-! ### From v860 to v898 -/

namespace V860ToV898

/-- The inner loop over categories. -/
def rewriteInnerCategory : PacketHandler := do
  passthroughString
  passthroughPriorities
  passthroughPriorities
  write uvarInt 0 -- no block tag priorities
  passthroughDefaultPriorities

/-- The outer loop over categories: another name and another count in front of the inner one. -/
def rewriteCategory : PacketHandler := do
  passthroughString
  passthroughLoop rewriteInnerCategory

def rewritePreset : PacketHandler := do
  passthroughString -- Identifier
  passthroughStrings -- Block Exclusions
  write uvarInt 0 -- no entity exclusions
  write uvarInt 0 -- no block tag exclusions
  passthroughPresetTail

def rewriteCameraAimAssistPresets : PacketHandler := do
  passthroughLoop rewriteCategory
  passthroughLoop rewritePreset

end V860ToV898

/-! ### From v898 to v924 -/

namespace V898ToV924

/-- Insert empty entity family priorities. -/
def rewriteCategory : PacketHandler := do
  passthroughString -- Identifier
  passthroughPriorities -- Entity Priorities
  passthroughPriorities -- Block Priorities
  passthroughPriorities -- Entity Tag Priorities
  write uvarInt 0 -- Entity Family Priorities
  passthroughDefaultPriorities

/-- Insert empty entity type family exclusions. -/
def rewritePreset : PacketHandler := do
  passthroughString -- Identifier
  passthroughStrings -- Block Exclusions
  passthroughStrings -- Entity Exclusions
  passthroughStrings -- Block Tag Exclusions
  write uvarInt 0 -- Entity Type Family Exclusions
  passthroughPresetTail

def rewriteCameraAimAssistPresets : PacketHandler := do
  passthroughLoop rewriteCategory
  passthroughLoop rewritePreset

end V898ToV924

/-! ### From v924 to v898 -/

namespace V924ToV898

/-- Drop the entity family priorities. -/
def rewriteCategory : PacketHandler := do
  passthroughString -- Identifier
  passthroughPriorities -- Entity Priorities
  passthroughPriorities -- Block Priorities
  passthroughPriorities -- Entity Tag Priorities
  V898ToV860.skipPriorities -- Entity Family Priorities
  passthroughDefaultPriorities

/-- Drop the entity type family exclusions. -/
def rewritePreset : PacketHandler := do
  passthroughString -- Identifier
  passthroughStrings -- Block Exclusions
  passthroughStrings -- Entity Exclusions
  passthroughStrings -- Block Tag Exclusions
  let entityTypeFamilyCount ← PacketWrapper.read uvarInt
  Wire.repeatM (discard (PacketWrapper.read string)) entityTypeFamilyCount.toNat
  passthroughPresetTail

def rewriteCameraAimAssistPresets : PacketHandler := do
  passthroughLoop rewriteCategory
  passthroughLoop rewritePreset

end V924ToV898

end Endweave
