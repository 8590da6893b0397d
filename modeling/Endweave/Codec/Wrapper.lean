import Endweave.Codec.Types.Primitives
import Endweave.Connection

/-!
# `PacketWrapper`

Handlers run in the monad of a `PacketWrapper`: an input reader, an output writer, the cancel flag
and the connection.  What a handler did before it raised is kept, as in the source, where the
wrapper outlives the exception.
-/

namespace Endweave

open Wire

/-- A packet payload being translated.  The pipeline always sets the connection. -/
structure PacketWrapper where
  reader : PacketReader
  writer : PacketWriter
  cancelled : Bool
  user : UserConnection

/-- A computation on a wrapper. -/
abbrev WrapperM (α : Type) := EStateM PyException PacketWrapper α

/-- A packet handler. -/
abbrev PacketHandler := WrapperM Unit

namespace PacketWrapper

/-- A fresh wrapper around a payload. -/
def ofPayload (payload : List UInt8) (user : UserConnection) : PacketWrapper :=
  { reader := ⟨payload, 0⟩, writer := [], cancelled := false, user }

/-- Run a parser on the input. -/
def onReader {α : Type} (m : Parser PyException UInt8 α) : WrapperM α := fun w =>
  match m w.reader with
  | .ok a r => .ok a { w with reader := r }
  | .error e r => .error e { w with reader := r }

/-- Run a printer on the output. -/
def onWriter (m : Printer PyException UInt8 Unit) : WrapperM Unit := fun w =>
  match m w.writer with
  | .ok _ out => .ok () { w with writer := out }
  | .error e out => .error e { w with writer := out }

variable {α : Type}

def cancel : WrapperM Unit := fun w => .ok () { w with cancelled := true }

/-- Read a field from input and write it to output. -/
def passthrough (T : FieldType α) : WrapperM α := do
  let value ← onReader T.read
  onWriter (T.write value)
  pure value

/-- Read a field from input without writing it. -/
def read (T : FieldType α) : WrapperM α := onReader T.read

/-- Write a field to output without reading it. -/
def write (T : FieldType α) (value : α) : WrapperM Unit := onWriter (T.write value)

/-- Read a field with one type and write it with another. -/
def map (oldType newType : FieldType α) : WrapperM α := do
  let value ← onReader oldType.read
  onWriter (newType.write value)
  pure value

/-- Copy all remaining input bytes to output. -/
def passthroughAll : WrapperM (List UInt8) := do
  let remaining ← onReader PacketReader.readRemaining
  onWriter (PacketWriter.writeBytes remaining)
  pure remaining

def hasRemaining : WrapperM Bool := fun w => .ok (PacketReader.hasRemaining w.reader) w

/-- The loops of the handlers: `for _ in range(wrapper.passthrough(UVAR_INT))`. -/
def passthroughLoop (body : WrapperM Unit) : WrapperM Unit := do
  let count ← passthrough uvarInt
  Wire.repeatM body count.toNat

/-- The final payload: written output, then the unread input. -/
def toBytes (w : PacketWrapper) : List UInt8 :=
  if PacketReader.hasRemaining w.reader then w.writer ++ w.reader.rest else w.writer

end PacketWrapper

/-- `if condition: wrapper.passthrough(field_type)`. -/
def passthroughIf {α : Type} (condition : Bool) (T : FieldType α) : PacketHandler :=
  if condition then discard (PacketWrapper.passthrough T) else pure ()

/-- `if wrapper.passthrough(BOOL): ...`. -/
def passthroughOptional (body : PacketHandler) : PacketHandler := do
  if ← PacketWrapper.passthrough bool then body else pure ()

/-- Run a handler on a payload and take the bytes of the wrapper. -/
def PacketHandler.apply (h : PacketHandler) (payload : List UInt8) (user : UserConnection) :
    Except PyException (List UInt8) :=
  match h (PacketWrapper.ofPayload payload user) with
  | .ok _ w => .ok w.toBytes
  | .error e _ => .error e

/-- Run handlers one after the other, each on the bytes the one before it made. -/
def PacketHandler.applyAll (handlers : List PacketHandler) (payload : List UInt8)
    (user : UserConnection) : Except PyException (List UInt8) :=
  handlers.foldlM (fun payload handler => handler.apply payload user) payload

end Endweave
