import Endweave.Codec.Equiv.Primitives

/-!
# The SubChunkRequest and ClientCacheBlobStatus packets
-/

namespace Endweave

open Wire

/-- The offsets are signed bytes, relative to the position. -/
structure SubChunkRequest where
  dimension : Int
  position : Int × Int × Int
  offsets : List (Int × Int × Int)
deriving Repr, DecidableEq

structure ClientCacheBlobStatus where
  missHashes : List Int
  hitHashes : List Int
deriving Repr, DecidableEq

namespace SubChunkRequest

def offsetBytes (offset : Int × Int × Int) : List UInt8 :=
  int8.bytes offset.1 ++ (int8.bytes offset.2.1 ++ int8.bytes offset.2.2)

def bytesV1001 (p : SubChunkRequest) : List UInt8 :=
  varInt.bytes p.dimension ++ (uvarInt.bytes p.offsets.length ++ (p.offsets.flatMap offsetBytes ++
    (intLE.bytes p.position.1 ++ (intLE.bytes p.position.2.1 ++ intLE.bytes p.position.2.2))))

def bytesV975 (p : SubChunkRequest) : List UInt8 :=
  varInt.bytes p.dimension ++ (varInt.bytes p.position.1 ++ (varInt.bytes p.position.2.1 ++
    (varInt.bytes p.position.2.2 ++ (uintLE.bytes p.offsets.length ++
      p.offsets.flatMap offsetBytes))))

structure Canonical (p : SubChunkRequest) : Prop where
  dimension : InInt32 p.dimension
  position : InInt32 p.position.1 ∧ InInt32 p.position.2.1 ∧ InInt32 p.position.2.2
  offsets : FitsList (fun o => InInt8 o.1 ∧ InInt8 o.2.1 ∧ InInt8 o.2.2) p.offsets

end SubChunkRequest

namespace ClientCacheBlobStatus

def bytesV1001 (p : ClientCacheBlobStatus) : List UInt8 :=
  uvarInt.bytes p.missHashes.length ++ (p.missHashes.flatMap uint64LE.bytes ++
    (uvarInt.bytes p.hitHashes.length ++ p.hitHashes.flatMap uint64LE.bytes))

def bytesV975 (p : ClientCacheBlobStatus) : List UInt8 :=
  uvarInt.bytes p.missHashes.length ++ (uvarInt.bytes p.hitHashes.length ++
    (p.missHashes.flatMap uint64LE.bytes ++ p.hitHashes.flatMap uint64LE.bytes))

structure Canonical (p : ClientCacheBlobStatus) : Prop where
  missHashes : FitsList InUInt64 p.missHashes
  hitHashes : FitsList InUInt64 p.hitHashes

end ClientCacheBlobStatus

end Endweave
