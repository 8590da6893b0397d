import Endweave.Codec.Calls
import Endweave.Codec.Equiv.CodecType
import Endweave.Codec.Equiv.Runs

/-!
# Readers and wrappers over sequences of calls

`ReaderCall.afterAll_within`: the cursor of a reader moves ahead within the data, also past calls
that raise.  `CodecType.read_append`: a codec type reads the same in front of more data.
`WrapperCall.Accounts.performAll`: while no call raises, a wrapper holds the bytes that were written
and what has not been read.
-/

namespace Endweave

open Wire PacketReader

/-! ### Reader -/

theorem readRemaining_advances : Advances readRemaining := by
  intro r hr
  refine ⟨r.rest, [], (List.append_nil _).symm, ?_, trivial⟩
  unfold Cursor.Within at hr
  rw [Cursor.advance, Cursor.length_rest, Nat.add_sub_cancel' hr]

namespace ReaderCall

theorem perform_advances (call : ReaderCall) : Advances call.perform := by
  cases call with
  | readRemaining => exact readRemaining_advances.map _
  | _ =>
    unfold perform
    exact Local.advances

/-- One call. -/
theorem after_within {r : PacketReader} (hr : r.Within) (call : ReaderCall) :
    (after r call).data = r.data ∧ r.pos ≤ (after r call).pos ∧ (after r call).Within :=
  call.perform_advances.final hr

/-- A sequence of calls. -/
theorem afterAll_within {r : PacketReader} (hr : r.Within) (calls : List ReaderCall) :
    (afterAll r calls).data = r.data ∧ r.pos ≤ (afterAll r calls).pos ∧
      (afterAll r calls).Within := by
  induction calls generalizing r with
  | nil => exact ⟨rfl, Nat.le_refl _, hr⟩
  | cons call calls ih =>
    obtain ⟨hdata, hpos, hin⟩ := after_within hr call
    obtain ⟨hdata', hpos', hin'⟩ := ih hin
    have hcons : afterAll r (call :: calls) = afterAll (after r call) calls := rfl
    rw [hcons]
    exact ⟨hdata'.trans hdata, hpos.trans hpos', hin'⟩

end ReaderCall

/-! ### Codec types -/

theorem CodecType.read_append {α : Type} {T : FieldType α} (hT : CodecType T) {data : List UInt8}
    {pos : Nat} {value : α} {r : PacketReader} (hpos : pos ≤ data.length)
    (h : T.read ⟨data, pos⟩ = .ok value r) :
    ∃ k, r = ⟨data, pos + k⟩ ∧ pos + k ≤ data.length ∧
      ∀ suf, T.read ⟨data ++ suf, pos⟩ = .ok value ⟨data ++ suf, pos + k⟩ := by
  have := hT.framed
  obtain ⟨hdata, hle, hlen, hsuf⟩ := Local.ok_append hpos h
  obtain ⟨data', pos'⟩ := r
  obtain rfl : data' = data := hdata
  obtain ⟨k, rfl⟩ := Nat.exists_eq_add_of_le hle
  exact ⟨k, rfl, hlen, hsuf⟩

/-! ### Wrapper -/

theorem WrapperType.read_advances {α : Type} {T : FieldType α} (hT : WrapperType T) :
    Advances T.read := by
  cases hT with
  | remainingBytes => exact readRemaining_advances
  | codec h =>
    have := h.framed
    exact Local.advances

theorem WrapperType.write_appends {α : Type} {T : FieldType α} (hT : WrapperType T) (value : α) :
    Appends (T.write value) := by
  cases hT with
  | remainingBytes => exact inferInstanceAs (Appends (PacketWriter.writeBytes value))
  | codec h =>
    have := h.framed
    infer_instance

namespace WrapperCall

/-- The reader is within the payload and the writer holds `out`. -/
structure Accounts (payload out : List UInt8) (w : PacketWrapper) : Prop where
  within : w.reader.Within
  data : w.reader.data = payload
  writer : w.writer = out

section Accounts

variable {α : Type} {T U : FieldType α} {payload out : List UInt8} {w w' : PacketWrapper} {v : α}

theorem Accounts.read (h : Accounts payload out w) (hT : WrapperType T)
    (hok : PacketWrapper.read T w = .ok v w') : Accounts payload out w' := by
  obtain ⟨c, hread, rfl⟩ := read_eq_ok hok
  obtain ⟨bs, suf, hrest, rfl, _⟩ := Takes.of_ok hT.read_advances h.within hread
  exact ⟨h.within.advance_of_append hrest, h.data, h.writer⟩

theorem Accounts.write (h : Accounts payload out w) (hT : WrapperType T)
    (hok : PacketWrapper.write T v w = .ok () w') : Accounts payload (out ++ T.bytes v) w' := by
  obtain ⟨out', hwrite, rfl⟩ := write_eq_ok hok
  have := hT.write_appends v
  refine ⟨h.within, h.data, ?_⟩
  rw [← h.writer]
  exact Appends.of_ok hwrite

theorem Accounts.map (h : Accounts payload out w) (hT : WrapperType T) (hU : WrapperType U)
    (hok : PacketWrapper.map T U w = .ok v w') : Accounts payload (out ++ U.bytes v) w' := by
  obtain ⟨v', w₁, hread, hok⟩ := bind_eq_ok hok
  obtain ⟨_, w₂, hwrite, hok⟩ := bind_eq_ok hok
  obtain ⟨rfl, rfl⟩ := pure_eq_ok_iff.mp hok
  exact (h.read hT hread).write hU hwrite

/-- One call. -/
theorem Accounts.perform (h : Accounts payload out w) {call : WrapperCall} {bs : List UInt8}
    (hok : call.perform w = .ok bs w') : Accounts payload (out ++ bs) w' := by
  cases call with
  | read T hT =>
    obtain ⟨v, w₁, hread, hok⟩ := bind_eq_ok hok
    obtain ⟨rfl, rfl⟩ := pure_eq_ok_iff.mp hok
    rw [List.append_nil]
    exact h.read hT hread
  | write T hT v =>
    obtain ⟨_, w₁, hwrite, hok⟩ := bind_eq_ok hok
    obtain ⟨rfl, rfl⟩ := pure_eq_ok_iff.mp hok
    exact h.write hT hwrite
  | passthrough T hT =>
    obtain ⟨v, w₁, hmap, hok⟩ := bind_eq_ok hok
    obtain ⟨rfl, rfl⟩ := pure_eq_ok_iff.mp hok
    exact h.map hT hT hmap
  | map T U hT hU =>
    obtain ⟨v, w₁, hmap, hok⟩ := bind_eq_ok hok
    obtain ⟨rfl, rfl⟩ := pure_eq_ok_iff.mp hok
    exact h.map hT hU hmap

/-- A sequence of calls. -/
theorem Accounts.performAll (h : Accounts payload out w) {calls : List WrapperCall}
    {bs : List UInt8} (hok : performAll calls w = .ok bs w') : Accounts payload (out ++ bs) w' := by
  induction calls generalizing out w bs with
  | nil =>
    obtain ⟨rfl, rfl⟩ := pure_eq_ok_iff.mp hok
    rwa [List.append_nil]
  | cons call calls ih =>
    obtain ⟨bs₁, w₁, hcall, hok⟩ := bind_eq_ok hok
    obtain ⟨bs₂, w₂, hcalls, hok⟩ := bind_eq_ok hok
    obtain ⟨rfl, rfl⟩ := pure_eq_ok_iff.mp hok
    rw [← List.append_assoc]
    exact ih (h.perform hcall) hcalls

theorem Accounts.toBytes (h : Accounts payload out w) :
    w.toBytes = out ++ payload.drop w.reader.pos := by
  rw [toBytes_eq, h.writer, Cursor.rest, h.data]

end Accounts

end WrapperCall

/-! ### All together -/

/-- **Reading is safe and local, and a wrapper loses nothing.**  The cursor of a reader stays within
the data and never moves back, whichever calls raise.  What a codec type reads does not depend on
what follows.  After calls of a wrapper that did not raise, its payload is what they wrote and then
what they did not read. -/
theorem cursor_safe_and_local :
    (∀ (data : List UInt8) (calls calls' : List ReaderCall),
      let r := ReaderCall.afterAll ⟨data, 0⟩ calls
      let r' := ReaderCall.afterAll r calls'
      r'.data = data ∧ r.pos ≤ r'.pos ∧ r'.pos ≤ data.length) ∧
    (∀ (α : Type) (T : FieldType α), CodecType T →
      ∀ (data : List UInt8) (pos : Nat) (value : α) (r : PacketReader), pos ≤ data.length →
        T.read ⟨data, pos⟩ = .ok value r →
          ∃ k, r = ⟨data, pos + k⟩ ∧ pos + k ≤ data.length ∧
            ∀ suf, T.read ⟨data ++ suf, pos⟩ = .ok value ⟨data ++ suf, pos + k⟩) ∧
    (∀ (payload : List UInt8) (user : UserConnection) (calls : List WrapperCall)
      (written : List UInt8) (w : PacketWrapper),
      WrapperCall.performAll calls (.ofPayload payload user) = .ok written w →
        w.reader.pos ≤ payload.length ∧ w.toBytes = written ++ payload.drop w.reader.pos) := by
  refine ⟨fun data calls calls' => ?_, fun α T hT data pos value r => hT.read_append,
    fun payload user calls written w hok => ?_⟩
  · obtain ⟨hdata, _, hin⟩ := ReaderCall.afterAll_within (Cursor.within_start data) calls
    obtain ⟨hdata', hpos, hin'⟩ := ReaderCall.afterAll_within hin calls'
    refine ⟨hdata'.trans hdata, hpos, ?_⟩
    rw [Cursor.Within, hdata', hdata] at hin'
    exact hin'
  · have hstart : WrapperCall.Accounts payload [] (.ofPayload payload user) :=
      ⟨Cursor.within_start payload, rfl, rfl⟩
    have hend := hstart.performAll hok
    have hin := hend.within
    rw [Cursor.Within, hend.data] at hin
    exact ⟨hin, hend.toBytes⟩

/-- A varint is mapped to four bytes, a flag is added, a byte is dropped, and one byte is left. -/
def sampleCalls : List WrapperCall :=
  [.map uvarInt intLE (.codec .uvarInt) (.codec .intLE), .write bool (.codec .bool) true,
   .read byte (.codec .byte)]

theorem cursor_safe_and_local_sample :
    (ReaderCall.afterAll ⟨[0x80, 1, 5], 0⟩ [.readIntLE, .skip 1, .readUVarint]).pos ≤ 3 ∧
    (∀ suf, uvarInt.read ⟨[0xAC, 2] ++ suf, 0⟩ = .ok 300 ⟨[0xAC, 2] ++ suf, 2⟩) ∧
    ∃ w, WrapperCall.performAll sampleCalls (.ofPayload [0xAC, 2, 9, 7] { address := "a" }) =
        .ok [0x2C, 1, 0, 0, 1] w ∧
      w.toBytes = [0x2C, 1, 0, 0, 1, 7] := by
  obtain ⟨hcursor, hlocal, hwrapper⟩ := cursor_safe_and_local
  refine ⟨?_, ?_, ?_⟩
  · exact (hcursor [0x80, 1, 5] [] [.readIntLE, .skip 1, .readUVarint]).2.2
  · obtain ⟨k, hr, _, hsuf⟩ := hlocal Int uvarInt .uvarInt [0xAC, 2] 0 300 ⟨_, 2⟩ (by decide) rfl
    have hk : 2 = 0 + k := congrArg Cursor.pos hr
    rw [← hk] at hsuf
    exact hsuf
  · have hrun : WrapperCall.performAll sampleCalls
        (.ofPayload [0xAC, 2, 9, 7] { address := "a" }) = .ok [0x2C, 1, 0, 0, 1] _ := rfl
    exact ⟨_, hrun, (hwrapper _ _ _ _ _ hrun).2⟩

end Endweave
