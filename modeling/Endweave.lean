import Endweave.Lib.OrderedDict
import Endweave.Lib.Spelling
import Endweave.Lib.EventSystem
import Endweave.Lib.ShortestPath
import Endweave.Lib.LittleEndian
import Endweave.Lib.Leb128
import Endweave.Lib.Wire
import Endweave.Codec.Reader
import Endweave.Codec.Writer
import Endweave.Codec.Types.Primitives
import Endweave.Codec.Types.Nbt
import Endweave.Codec.Types.Gameplay
import Endweave.Codec.Types.LevelSettings
import Endweave.Codec.Types.Inventory
import Endweave.Connection
import Endweave.Codec.Wrapper
import Endweave.Protocol.Basic
import Endweave.Protocol.Manager
import Endweave.Protocol.Equiv.Manager
import Endweave.Protocol.Equiv.SupportedVersions
import Endweave.Protocol.PacketIds
import Endweave.Protocol.Base
import Endweave.Pipeline
import Endweave.Equiv.Pipeline
import Endweave.Codec.Equiv.Primitives
import Endweave.Codec.Equiv.Nbt
import Endweave.Codec.Equiv.LevelSettings
import Endweave.Codec.Equiv.Wrapper
import Endweave.Codec.Equiv.Untrusted
import Endweave.Codec.Equiv.VarintRange
import Endweave.Codec.Equiv.NbtStable
import Endweave.Codec.Equiv.NbtPassthrough
import Endweave.Equiv.ClientboundPipeline
import Endweave.Codec.Types.Enums
import Endweave.Protocol.MappingData
import Endweave.Codec.Types.ActorData
import Endweave.Rewriter.Sound
import Endweave.Rewriter.ActorEvent
import Endweave.Protocol.Handlers.SoundEventMap
import Endweave.Protocol.Handlers.LevelSoundEvent
import Endweave.Protocol.Handlers.BlockPos
import Endweave.Protocol.Handlers.Text
import Endweave.Protocol.Packets.Text
import Endweave.Protocol.Equiv.Text
import Endweave.Codec.Equiv.Converts
import Endweave.Protocol.Packets.BlockPos
import Endweave.Protocol.Handlers.StartGame
import Endweave.Protocol.Steps
import Endweave.Protocol.Equiv.Steps
import Endweave.Protocol.Equiv.BlockPos
import Endweave.Protocol.Packets.StartGame
import Endweave.Protocol.Equiv.StartGame
import Endweave.Protocol.Handlers.CameraAimAssist
import Endweave.Protocol.Packets.CameraAimAssist
import Endweave.Protocol.Equiv.CameraAimAssist
import Endweave.Protocol.Handlers.InventoryTransaction
import Endweave.Codec.Equiv.Inventory
import Endweave.Protocol.Packets.InventoryTransaction
import Endweave.Protocol.Equiv.InventoryTransaction
import Endweave.Equiv.Freshness
import Endweave.Protocol.Equiv.Base
import Endweave.Equiv.Isolation
import Endweave.Codec.Equiv.Runs
import Endweave.Protocol.Packets.TransactionGrammar
import Endweave.Protocol.Equiv.TransactionGrammar
import Endweave.Codec.Types.Crafting
import Endweave.Codec.Types.Commands
import Endweave.Protocol.Handlers.Commands
import Endweave.Protocol.Packets.AvailableCommands
import Endweave.Protocol.Equiv.AvailableCommands
import Endweave.Codec.Equiv.Crafting
import Endweave.Codec.Equiv.CraftingDecode
import Endweave.Protocol.Packets.LevelSoundEvent
import Endweave.Protocol.Equiv.LevelSoundEvent
import Endweave.Protocol.Equiv.SoundEventMap
import Endweave.Lib.Decimal
import Endweave.Protocol.Handlers.Animate
import Endweave.Protocol.Packets.Animate
import Endweave.Protocol.Equiv.Animate
import Endweave.Protocol.Handlers.CraftingData
import Endweave.Protocol.Packets.CraftingData
import Endweave.Protocol.Equiv.CraftingData
import Endweave.Protocol.Equiv.TextGrammar
import Endweave.Protocol.Handlers.ItemStack
import Endweave.Protocol.Packets.ItemStack
import Endweave.Protocol.Equiv.ItemStack
import Endweave.Codec.Types.Structure
import Endweave.Protocol.Handlers.ServerboundBlockPos
import Endweave.Protocol.Equiv.ServerboundBlockPos
import Endweave.Codec.Equiv.ActorData
import Endweave.Protocol.Packets.ActorData
import Endweave.Rewriter.Equiv.Sound
import Endweave.Protocol.Handlers.BossEvent
import Endweave.Protocol.Packets.BossEvent
import Endweave.Protocol.Equiv.BossEvent
import Endweave.Protocol.Packets.CommandOutput
import Endweave.Protocol.Equiv.CommandOutput
import Endweave.Codec.Types.Biome
import Endweave.Codec.Equiv.Biome
import Endweave.Protocol.Equiv.BiomeDefinitionList
import Endweave.Codec.Types.DataStore
import Endweave.Protocol.Handlers.DataStore
import Endweave.Protocol.Packets.DataStore
import Endweave.Codec.Types.Camera
import Endweave.Protocol.Equiv.DataStore
import Endweave.Protocol.Handlers.Camera
import Endweave.Protocol.Packets.Camera
import Endweave.Protocol.Equiv.Camera
import Endweave.Protocol.Equiv.DebugDrawer
import Endweave.Protocol.Equiv.ChunkRequests
import Endweave.Codec.Types.AttributeLayer
import Endweave.Protocol.Handlers.AttributeLayerSync
import Endweave.Protocol.Handlers.LocatorBar
import Endweave.Protocol.Packets.AttributeLayerSync
import Endweave.Protocol.Packets.LocatorBar
import Endweave.Protocol.Equiv.AttributeLayerSync
import Endweave.Protocol.Equiv.LocatorBar
import Endweave.Equiv.InitHook
import Endweave.Lib.Locality
import Endweave.Codec.Equiv.CodecType
import Endweave.Codec.Calls
import Endweave.Codec.Equiv.Calls
import Endweave.Lib.Loops
import Endweave.Codec.Counts
import Endweave.Codec.Equiv.Counts
import Endweave.Protocol.Handlers.Entities
import Endweave.Protocol.Handlers.Interface
import Endweave.Protocol.Handlers.World
import Endweave.Lib.Relational
import Endweave.Codec.Equiv.Relates
import Endweave.Equiv.Session
import Endweave.Plugin
import Endweave.Protocol.Equiv.HandlerRelates
import Endweave.Protocol.Registry
import Endweave.Protocol.Equiv.Registry
import Endweave.Protocol.Versions
import Endweave.Equiv.Translation
import Endweave.Equiv.History
import Endweave.Protocol.Equiv.Routes
import Endweave.Equiv.Plugin
import Endweave.Equiv.Delivery
import Endweave.Lib.Relay
import Endweave.Protocol.PacketFormat
import Endweave.Protocol.Packets.Entities
import Endweave.Protocol.Packets.Interface
import Endweave.Protocol.Packets.World
import Endweave.Protocol.Equiv.Entities
import Endweave.Protocol.Equiv.Interface
import Endweave.Protocol.Equiv.World
import Endweave.Equiv.Formats
import Endweave.Equiv.Formats.Small
import Endweave.Protocol.Packets.Formats
import Endweave.Equiv.Formats.Grammars
import Endweave.Equiv.Formats.StartGame
import Endweave.Protocol.Packets.Sounds
import Endweave.Equiv.Formats.Sounds
import Endweave.Equiv.Formats.Arrival
import Endweave.Equiv.Formats.Recipes
