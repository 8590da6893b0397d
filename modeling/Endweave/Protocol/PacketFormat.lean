import Endweave.Lib.Relay
import Endweave.Protocol.Basic

/-!
# Packet formats

A `PacketFormat` is the purpose of the handlers of one kind of packet: what each version makes of
the same data.  The format changes in some versions; `form n` is what the versions after `n` changes
make of the data.  Some data cannot come from all versions (`since`, `upTo`), some packets do not
get to all of them (`firstVersion`, `lastVersion`).
-/

namespace Endweave

open Wire

/-- The two versions that a step translates between, from the one that the packet comes from. -/
def Direction.orient : Direction → Int × Int → Int × Int
  | .serverbound, ends => ends.swap
  | .clientbound, ends => ends

/-- One kind of packet. -/
structure PacketFormat where
  Data : Type
  direction : Direction
  packetId : Int
  /-- The versions in which the format changes. -/
  changes : List Int
  form : ℕ → Data → List UInt8
  /-- The data that the repository's own writers encode: numbers within the ranges of their fields,
  strings and lists that can be counted, floats of any bits, and no combination of fields that the
  format leaves out. -/
  Canonical : Data → Prop
  /-- The first version that the data can come from.  Older ones do not have all the fields that are
  not at their defaults. -/
  since : Data → Int := fun _ => 859
  /-- The last version that the data can come from.  Newer ones do not have all those fields any
  more, or the steps from there do not keep them. -/
  upTo : Data → Int := fun _ => 1001
  /-- The first version that the packet gets to or comes from.  A step cancels it on the way to an
  older one. -/
  firstVersion : Int := 859
  /-- The last one.  A step cancels it on the way to a newer one. -/
  lastVersion : Int := 1001
  /-- The last version that the format is about.  A newer one may have another format, which the
  source does not translate to. -/
  coveredUpTo : Int := 1001

namespace PacketFormat

variable (F : PacketFormat)

/-- The form that the packet has in a version: the number of changes so far. -/
def formOf (version : Int) : ℕ := F.changes.countP (· ≤ version)

/-- The packet gets to the version: no step cancels it before. -/
def Reaches (version : Int) : Prop := F.firstVersion ≤ version ∧ version ≤ F.lastVersion

instance (version : Int) : Decidable (F.Reaches version) := inferInstanceAs (Decidable (_ ∧ _))

/-- The packet with some data, as a version sends it or gets it. -/
def encode (version : Int) (d : F.Data) : Option (List UInt8) :=
  if F.Reaches version then some (F.form (F.formOf version) d) else none

theorem encode_isSome {version : Int} {d : F.Data} :
    (F.encode version d).isSome ↔ F.Reaches version := by
  unfold encode
  split_ifs with h <;> simp [h]

/-- What each version makes of the data. -/
def toFormat : Format Int F.Data (List UInt8) where
  encode := F.encode
  Canonical := F.Canonical
  since := F.since
  upTo := F.upTo
  has_between huv hvw hu hw := F.encode_isSome.mpr
    ⟨(F.encode_isSome.mp hu).1.trans huv, hvw.trans (F.encode_isSome.mp hw).2⟩

/-- The data can come from the version. -/
abbrev Expresses (version : Int) (d : F.Data) : Prop := F.toFormat.Expresses version d

/-- The version that a packet between a server and a client comes from. -/
def source (server client : Int) : Int := (F.direction.orient (server, client)).1

/-- The version that it goes to. -/
def target (server client : Int) : Int := (F.direction.orient (server, client)).2

/-- The format is about both versions. -/
def Covers (server client : Int) : Prop :=
  F.source server client ≤ F.coveredUpTo ∧ F.target server client ≤ F.coveredUpTo

instance (server client : Int) : Decidable (F.Covers server client) :=
  inferInstanceAs (Decidable (_ ∧ _))

end PacketFormat

end Endweave
