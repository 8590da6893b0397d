import Endweave.Codec.Equiv.Wrapper

/-!
# The readers on arbitrary payloads

Nothing is assumed about the payload here.  The first half says what the primitive readers have
consumed when they return (`readLeb128_takes`, `readVarint_takes`, `readString_takes`), and that
what was read can be written back in no more bytes (`IsUVarint.fits` to `optionalType_compacts`).

The second half is about copying a field whose read may fail.  `Copies T C` says that `T` never
writes more than it read, and that it writes back what it read exactly on the canonical encodings of
the values in `C`; `Relays.passthrough` lifts this to a handler that passes fields through until one
fails.
-/

namespace Endweave

open Wire PacketReader PacketWriter PacketWrapper

/-! ### Primitive readers -/

theorem next_takes : Takes next fun bs b => bs = [b] ∧ bs ≠ [] := by
  intro r hr
  unfold next
  cases h : r.rest with
  | nil => exact ⟨rfl, Nat.le_refl _, hr⟩
  | cons b rest => exact ⟨[b], rest, rfl, rfl, rfl, List.cons_ne_nil _ _⟩

theorem next_progress : Progress next := by
  intro r _ e r' h
  unfold next at h
  cases hrest : r.rest with
  | nil =>
    rw [hrest] at h
    obtain ⟨_, rfl⟩ := EStateM.Result.error.inj h
    exact Or.inl ⟨rfl, rfl⟩
  | cons b rest =>
    rw [hrest] at h
    cases h

theorem readBytes_takes (n : Int) :
    Takes (readBytes n) fun bs a => bs = a ∧ (bs.length : Int) = n := by
  intro r hr
  unfold readBytes
  split_ifs with h
  · exact ⟨rfl, Nat.le_refl _, hr⟩
  · rw [not_or, remaining] at h
    have hlen : (r.rest.take n.toNat).length = n.toNat := by
      rw [List.length_take, Cursor.length_rest]
      omega
    refine ⟨r.rest.take n.toNat, r.rest.drop n.toNat, (List.take_append_drop ..).symm, ?_, rfl, ?_⟩
    · rw [hlen]
    · rw [hlen]
      omega

theorem readGroups_takes {tooLong : String} {groups result shift : Nat}
    (hres : result < 2 ^ shift) :
    Takes (readGroups tooLong result shift groups) fun bs n =>
      Leb128.Terminated bs ∧ bs.length ≤ groups ∧ n = result + 2 ^ shift * Leb128.value bs := by
  induction groups generalizing result shift with
  | zero => exact Takes.throw _
  | succ groups ih =>
    unfold readGroups
    refine next_takes.bind ?_
    rintro bs b ⟨rfl, _⟩
    simp only [land_low, or_shiftLeft hres, land_continue]
    by_cases hb : b.toNat < 128
    · rw [if_pos hb]
      exact Takes.pure ⟨hb, by simp, by rw [List.append_nil, Leb128.value_singleton]⟩
    · rw [if_neg hb]
      refine (ih (nextGroup_lt hres b)).mono ?_
      rintro bs n ⟨ht, hlen, rfl⟩
      refine ⟨Leb128.terminated_cons (by omega) ht, by simpa using hlen, ?_⟩
      exact (nextGroup_value result shift b bs).symm

theorem readLeb128_takes {tooLong : String} {groups : Nat} (hg : 0 < groups) :
    Takes (readLeb128 tooLong groups) fun bs n =>
      Leb128.Terminated bs ∧ bs.length ≤ groups ∧ n = Leb128.value bs := by
  unfold readLeb128
  refine next_takes.bind ?_
  rintro bs b ⟨rfl, _⟩
  by_cases hb : b.toNat < 128
  · rw [if_pos hb]
    refine Takes.pure ⟨hb, Nat.succ_le_of_lt hg, ?_⟩
    rw [List.append_nil, Leb128.value_singleton, Nat.mod_eq_of_lt hb]
  · rw [if_neg hb, land_low]
    have hlow : b.toNat % 128 < 2 ^ 7 := Nat.mod_lt _ (by norm_num)
    refine (readGroups_takes hlow).mono ?_
    rintro bs n ⟨ht, hlen, rfl⟩
    refine ⟨Leb128.terminated_cons (by omega) ht, ?_, rfl⟩
    simp only [List.singleton_append, List.length_cons]
    omega

theorem terminated_ne_nil {bs : List UInt8} (h : Leb128.Terminated bs) : bs ≠ [] := by
  rintro rfl
  exact h

theorem readLeb128_progress {tooLong : String} {groups : Nat} :
    Progress (readLeb128 tooLong groups) := by
  refine next_progress.bind next_takes fun bs b _ => ⟨fun _ _ => True, ?_⟩
  split_ifs
  · exact Takes.pure trivial
  · have hlow : b.toNat &&& 0x7F < 2 ^ 7 := by
      rw [land_low]
      exact Nat.mod_lt _ (by norm_num)
    exact (readGroups_takes hlow).mono fun _ _ _ => trivial

/-- What an unsigned reader of 32 bits has consumed. -/
def IsUVarint (bs : List UInt8) (v : Int) : Prop :=
  Leb128.Terminated bs ∧ bs.length ≤ 5 ∧ v = Leb128.value bs

theorem readUVarint_takes : Takes readUVarint IsUVarint := by
  refine (readLeb128_takes (by norm_num)).bind ?_
  rintro bs n ⟨ht, hlen, rfl⟩
  refine Takes.pure ?_
  rw [List.append_nil]
  exact ⟨ht, hlen, rfl⟩

theorem readUVarint_progress : Progress readUVarint := by
  refine readLeb128_progress.bind (Q := fun _ _ => True)
    ((readLeb128_takes (by norm_num)).mono fun bs n h => ⟨trivial, terminated_ne_nil h.1⟩) ?_
  exact fun bs n _ => ⟨fun _ _ => True, Takes.pure trivial⟩

theorem readVarint_takes : Takes readVarint fun bs v =>
    Leb128.Terminated bs ∧ bs.length ≤ 5 ∧ v = Leb128.unzigzag (Leb128.value bs) := by
  refine readUVarint_takes.bind ?_
  rintro bs n ⟨ht, hlen, rfl⟩
  refine Takes.pure ?_
  rw [List.append_nil, Leb128.unzigzag_eq_xor]
  exact ⟨ht, hlen, rfl⟩

theorem readVarint_progress : Progress readVarint := by
  refine readUVarint_progress.bind (Q := fun _ _ => True)
    (readUVarint_takes.mono fun bs n h => ⟨trivial, terminated_ne_nil h.1⟩) ?_
  exact fun bs n _ => ⟨fun _ _ => True, Takes.pure trivial⟩

theorem readUVarint64_takes : Takes readUVarint64 fun bs v =>
    Leb128.Terminated bs ∧ bs.length ≤ 10 ∧ v = Leb128.value bs := by
  refine (readLeb128_takes (by norm_num)).bind ?_
  rintro bs n ⟨ht, hlen, rfl⟩
  refine Takes.pure ?_
  rw [List.append_nil]
  exact ⟨ht, hlen, rfl⟩

theorem readVarint64_takes : Takes readVarint64 fun bs v =>
    Leb128.Terminated bs ∧ bs.length ≤ 10 ∧ v = Leb128.unzigzag (Leb128.value bs) := by
  refine readUVarint64_takes.bind ?_
  rintro bs n ⟨ht, hlen, rfl⟩
  refine Takes.pure ?_
  rw [List.append_nil, Leb128.unzigzag_eq_xor]
  exact ⟨ht, hlen, rfl⟩

theorem decodeUtf8_takes (data : List UInt8) :
    Takes (decodeUtf8 data) fun bs s => bs = [] ∧ encodeUtf8 s = data := by
  unfold decodeUtf8
  cases h : String.fromUTF8? ⟨data.toArray⟩ with
  | none => exact Takes.throw _
  | some s =>
    refine Takes.pure ⟨rfl, ?_⟩
    rw [String.fromUTF8?] at h
    split_ifs at h with hv
    obtain rfl := Option.some.inj h
    rfl

/-- The bytes after the length of a string. -/
theorem readUtf8_takes (length : Int) :
    Takes (readBytes length >>= decodeUtf8) fun bs s =>
      encodeUtf8 s = bs ∧ (bs.length : Int) = length := by
  refine (readBytes_takes length).bind ?_
  rintro bs data ⟨rfl, hlen⟩
  refine (decodeUtf8_takes bs).mono ?_
  rintro bs' s ⟨rfl, hs⟩
  rw [List.append_nil]
  exact ⟨hs, hlen⟩

theorem readString_takes : Takes readString fun bs s =>
    ∃ lbs, bs = lbs ++ encodeUtf8 s ∧ Leb128.Terminated lbs ∧
      (encodeUtf8 s).length = Leb128.value lbs ∧ FitsString s := by
  refine readUVarint_takes.bind ?_
  rintro lbs length ⟨ht, _, rfl⟩
  split_ifs with h
  · exact Takes.throw _
  · refine (readUtf8_takes _).mono ?_
    rintro bs s ⟨rfl, hlen⟩
    have hlen' : (encodeUtf8 s).length = Leb128.value lbs := by exact_mod_cast hlen
    refine ⟨lbs, rfl, ht, hlen', ?_⟩
    unfold FitsString
    omega

theorem readString_progress : Progress readString := by
  refine readUVarint_progress.bind
    (readUVarint_takes.mono fun bs n h => ⟨h, terminated_ne_nil h.1⟩) ?_
  intro lbs length _
  refine ⟨fun _ _ => True, ?_⟩
  split_ifs
  · exact Takes.throw _
  · exact (readUtf8_takes length).mono fun _ _ _ => trivial

/-! ### Writing back what was read -/

/-- A value that is read from the whole of `bs` needs no more than `bs`. -/
theorem FieldType.Parses.length_le {α : Type} {T : FieldType α} (hT : Compacts T.write T.read)
    {bs : List UInt8} {v : α} (h : T.Parses bs v) : (T.bytes v).length ≤ bs.length := by
  obtain ⟨bs', suf, hrest, _, hfits⟩ := Takes.of_ok hT (Cursor.within_start bs) h
  have hlen := hfits.length_written
  rw [Cursor.rest_start] at hrest
  rw [hrest, List.length_append, FieldType.bytes]
  omega

/-- The shortest form of what a reader of 32 bits makes of a number is no longer than what was
read: either nothing is cut off, or all five groups were there. -/
theorem IsUVarint.length_encode_le {bs : List UInt8} {v : Int} (h : IsUVarint bs v) {n : Nat}
    (hn : Leb128.value bs < 2 ^ 32 → n = Leb128.value bs) :
    (Leb128.encode 5 n).length ≤ bs.length := by
  obtain ⟨ht, hlen, _⟩ := h
  by_cases hv : Leb128.value bs < 2 ^ 32
  · -- the value fits: it is written in as few groups as it needs
    rw [hn hv]
    exact Leb128.length_encode_le 5 (List.length_pos_iff.mpr (terminated_ne_nil ht))
      (Leb128.value_lt bs)
  · -- only five groups hold more than 32 bits
    have hfive : bs.length = 5 := by
      by_contra hne
      have hpow : (128 : Nat) ^ bs.length ≤ 128 ^ 4 :=
        Nat.pow_le_pow_right (by norm_num) (by omega)
      have hlt := Leb128.value_lt bs
      omega
    rw [hfive]
    exact Leb128.length_encode_self_le 5 n

theorem IsUVarint.fits {bs : List UInt8} {v : Int} (h : IsUVarint bs v) :
    Fits (writeUVarint v) bs.length := by
  refine ⟨_, writeLeb128_writes (by omega) (by omega) v, h.length_encode_le ?_⟩
  intro hlt
  rw [h.2.2]
  omega

theorem bool_compacts : Compacts bool.write bool.read := by
  have hbyte : Takes readByte fun bs _ => bs.length = 1 := by
    refine next_takes.bind ?_
    rintro bs b ⟨rfl, _⟩
    exact Takes.pure rfl
  refine hbyte.bind fun bs v hlen => Takes.pure ⟨_, append_writes _, ?_⟩
  rw [List.append_nil, hlen]
  exact Nat.le_refl 1

theorem StructFormat.inRange_decode {f : StructFormat} {bs : List UInt8} (h : bs.length = f.size) :
    f.InRange (f.decode bs) := by
  have hlt : LittleEndian.decode (if f.bigEndian then bs.reverse else bs) < 256 ^ f.size := by
    rw [← h]
    split_ifs
    · rw [← List.length_reverse]
      exact LittleEndian.decode_lt _
    · exact LittleEndian.decode_lt _
  unfold InRange decode
  generalize LittleEndian.decode (if f.bigEndian then bs.reverse else bs) = n at hlt ⊢
  by_cases hs : f.signed
  · rw [if_pos hs, if_pos hs]
    exact LittleEndian.toSigned_bounds hlt
  · rw [if_neg hs, if_neg hs]
    exact ⟨Int.natCast_nonneg n, by exact_mod_cast hlt⟩

/-- A format writes back every integer it reads, in the same number of bytes. -/
theorem struct_takes (f : StructFormat) :
    Takes (unpack f) fun bs v => bs.length = f.size ∧ f.InRange v := by
  intro r hr
  unfold unpack
  split_ifs with h
  · exact ⟨rfl, Nat.le_refl _, hr⟩
  · have hlen : (r.rest.take f.size).length = f.size := by
      rw [List.length_take]
      omega
    refine ⟨r.rest.take f.size, r.rest.drop f.size, (List.take_append_drop ..).symm, ?_, hlen,
      StructFormat.inRange_decode hlen⟩
    rw [hlen]

theorem struct_compacts (f : StructFormat) : Compacts (pack f) (unpack f) := by
  refine (struct_takes f).mono ?_
  rintro bs v ⟨hlen, hv⟩
  refine ⟨_, pack_writes hv, ?_⟩
  rw [StructFormat.length_encode, hlen]

theorem intLE_compacts : Compacts intLE.write intLE.read := struct_compacts .intLE

theorem arrayType_compacts {α : Type} {T : FieldType α} (hT : Compacts T.write T.read) :
    Compacts (arrayType T).write (arrayType T).read := by
  refine readUVarint_takes.bind fun bs n hn => ?_
  refine (hT.collect n.toNat).mono ?_
  rintro bs' vs ⟨hlen, hvs⟩
  have hcount : (vs.length : Int) = n := by
    rw [hlen, hn.2.2, Int.toNat_natCast]
  rw [List.length_append]
  refine Fits.bind ?_ hvs
  rw [hcount]
  exact hn.fits

theorem optionalType_compacts {α : Type} {T : FieldType α} (hT : Compacts T.write T.read) :
    Compacts (optionalType T).write (optionalType T).read := by
  refine Takes.bind bool_compacts fun bs present hpresent => ?_
  cases present with
  | false =>
    rw [if_neg Bool.false_ne_true]
    exact Takes.pure (by rw [List.append_nil]; exact hpresent)
  | true =>
    rw [if_pos rfl]
    refine Takes.bind hT fun bs' v hv => Takes.pure ?_
    rw [List.append_nil, List.length_append]
    exact hpresent.bind hv

/-! ### What the readers return -/

theorem readByte_returns : Refines readByte readByte InByte := by
  refine Refines.of_takes (next_takes.bind fun bs b _ => Takes.pure ?_)
  have hlt := b.toNat_lt
  exact ⟨by omega, by omega⟩

theorem unpack_returns (f : StructFormat) : Refines (unpack f) (unpack f) f.InRange :=
  Refines.of_takes ((struct_takes f).mono fun _ _ h => h.2)

theorem readShortLE_returns : Refines readShortLE readShortLE InInt16 := by
  refine (unpack_returns .shortLE).mono fun v hv => ?_
  have hbounds : -(256 ^ 2 : Int) ≤ 2 * v ∧ 2 * v < 256 ^ 2 := hv
  exact ⟨by omega, by omega⟩

theorem readBytes_returns (n : Int) :
    Refines (readBytes n) (readBytes n) fun bs => (bs.length : Int) = n := by
  refine Refines.of_takes ((readBytes_takes n).mono ?_)
  rintro bs a ⟨rfl, hlen⟩
  exact hlen

theorem readUShortLE_returns : Refines readUShortLE readUShortLE InUInt16 := by
  refine (unpack_returns .ushortLE).mono fun v hv => ?_
  have hbounds : 0 ≤ v ∧ v < 256 ^ 2 := hv
  exact ⟨hbounds.1, by omega⟩

theorem readUInt64LE_returns : Refines readUInt64LE readUInt64LE InUInt64 := by
  refine (unpack_returns .uint64LE).mono fun v hv => ?_
  have hbounds : 0 ≤ v ∧ v < 256 ^ 8 := hv
  exact ⟨hbounds.1, by omega⟩

theorem readString_returns : Refines readString readString FitsString :=
  Refines.of_takes (readString_takes.mono fun _ _ ⟨_, _, _, _, hfits⟩ => hfits)

/-- A reader of which only matters that it keeps to the data. -/
theorem returns_any {α : Type} {m : Parser PyException UInt8 α} {Q : List UInt8 → α → Prop}
    (hm : Takes m Q) : Refines m m fun _ => True :=
  Refines.of_takes (hm.mono fun _ _ _ => trivial)

/-- The elements of an array have what the reader of an element gives them. -/
theorem arrayType_returns {α : Type} {T : FieldType α} {P : α → Prop}
    (hT : Refines T.read T.read P) :
    Refines (arrayType T).read (arrayType T).read fun as => ∀ a ∈ as, P a :=
  (returns_any readUVarint_takes).bind fun n _ => (hT.collect n.toNat).mono fun _ h => h.2

theorem optionalType_returns {α : Type} {T : FieldType α} {P : α → Prop}
    (hT : Refines T.read T.read P) :
    Refines (optionalType T).read (optionalType T).read fun v => ∀ a, v = some a → P a := by
  apply (returns_any bool_compacts).bind
  intro present _
  apply Refines.ite
  · intro _
    apply hT.bind
    intro a ha
    apply Refines.pure
    intro b hb
    exact Option.some.inj hb ▸ ha
  · exact fun _ => Refines.pure nofun

/-! ### Copying a field -/

/-- `T` never writes more than it read, and writes back what it read exactly on the canonical
encodings of the values in `C`. -/
structure Copies {α : Type} (T : FieldType α) (C : α → Prop) : Prop where
  progress : Progress T.read
  takes : Takes T.read fun bs a => Writes (T.write a) (T.bytes a) ∧
    (T.bytes a).length ≤ bs.length ∧ ∃ v, C v ∧ T.bytes v = T.bytes a
  canonical : ∀ v, C v → T.RoundTrips v

theorem Copies.compacts {α : Type} {T : FieldType α} {C : α → Prop} (hT : Copies T C) :
    Compacts T.write T.read :=
  hT.takes.mono fun _ _ ⟨hwrites, hlen, _⟩ => ⟨_, hwrites, hlen⟩

theorem copies_varInt : Copies varInt InInt32 where
  progress := readVarint_progress
  canonical _ hv := varInt_roundTrips hv
  takes := by
    refine readVarint_takes.mono ?_
    rintro bs v ⟨ht, hlen, rfl⟩
    have hb := varInt_bytes (Leb128.unzigzag (Leb128.value bs))
    have hr := wrapSigned_bounds 31 (Leb128.unzigzag (Leb128.value bs))
    refine ⟨hb ▸ writeVarint_writes _, ?_, wrapSigned 31 _, hr, ?_⟩
    · rw [hb]
      have hread : IsUVarint bs (Leb128.value bs) := ⟨ht, hlen, rfl⟩
      refine hread.length_encode_le fun hn => ?_
      rw [wrapSigned_of_bounds (unzigzag_range ⟨by omega, by exact_mod_cast hn⟩),
        Leb128.zigzag_unzigzag (by omega), Int.toNat_natCast]
    · rw [varInt_bytes, varInt_bytes, wrapSigned_of_bounds hr]

theorem copies_string : Copies string FitsString where
  progress := readString_progress
  canonical _ hv := string_roundTrips hv
  takes := by
    refine readString_takes.mono ?_
    rintro bs s ⟨lbs, rfl, ht, hlen, hfits⟩
    refine ⟨(string_roundTrips hfits).writes, ?_, s, hfits, rfl⟩
    have hmod : (((encodeUtf8 s).length : Int) % 2 ^ 32).toNat = Leb128.value lbs := by
      unfold FitsString maxStringBytes at hfits
      omega
    rw [string_bytes, hmod, List.length_append, List.length_append]
    have := Leb128.length_encode_le 5 (List.length_pos_iff.mpr (terminated_ne_nil ht))
      (Leb128.value_lt lbs)
    omega

/-! ### Copying fields until one fails -/

/-- Whatever follows, `h` leaves `g` of the unread bytes `r`: never more than `r`, and `r` itself
exactly when `P r`. -/
def Relays {α : Type} (h : WrapperM α) (P : List UInt8 → Prop) : Prop :=
  ∀ w, w.reader.Within → ∃ g, (final (h w)).toBytes = w.writer ++ g ∧
    g.length ≤ w.reader.rest.length ∧ (g = w.reader.rest ↔ P w.reader.rest)

/-- Nothing is left, or a canonical field and then a rest with `P`. -/
def FieldThen {α : Type} (T : FieldType α) (C : α → Prop) (P : List UInt8 → Prop)
    (r : List UInt8) : Prop :=
  r = [] ∨ ∃ v suf, C v ∧ r = T.bytes v ++ suf ∧ P suf

theorem Relays.pure {α : Type} (a : α) : Relays (pure a) fun _ => True := by
  intro w _
  exact ⟨w.reader.rest, toBytes_eq w, Nat.le_refl _, by simp⟩

/-- A field is passed through, and the rest relays what follows it. -/
theorem Relays.passthrough {α γ : Type} {T : FieldType α} {C : α → Prop} (hT : Copies T C)
    {k : α → WrapperM γ} {P : List UInt8 → Prop} (hk : ∀ a, Relays (k a) P) :
    Relays (PacketWrapper.passthrough T >>= k) (FieldThen T C P) := by
  intro w hw
  cases hr : T.read w.reader with
  | error e r =>
    -- the read failed: what it consumed is lost
    have hfail : (PacketWrapper.passthrough T >>= k) w = .error e { w with reader := r } := by
      have hread : onReader T.read w = .error e { w with reader := r } := by rw [onReader, hr]
      exact bind_error (bind_error hread)
    rw [hfail]
    refine ⟨r.rest, toBytes_eq _, ?_⟩
    rcases hT.progress w.reader hw e r hr with ⟨hnil, rfl⟩ | hlt
    · exact ⟨Nat.le_refl _, by simp [FieldThen, hnil]⟩
    · refine ⟨Nat.le_of_lt hlt, fun h => absurd (congrArg List.length h) (by omega), ?_⟩
      rintro (hnil | ⟨v, suf, hv, hrest, _⟩)
      · rw [hnil] at hlt
        exact absurd hlt (Nat.not_lt_zero _)
      · have hok := (hT.canonical v hv).reads w.reader suf hw hrest
        rw [hr] at hok
        cases hok
  | ok a r =>
    obtain ⟨bs, suf, hrest, rfl, hwrites, hlen, v, hv, hbytes⟩ := hT.takes.of_ok hw hr
    have hpass := passthrough_of_read hr hwrites
    have hsuf : (w.reader.advance bs.length).rest = suf := Cursor.rest_advance_of_append hrest
    obtain ⟨g, hg, hgl, hgP⟩ := hk a { w with
      reader := w.reader.advance bs.length, writer := w.writer ++ T.bytes a }
      (hw.advance_of_append hrest)
    simp only [hsuf] at hgl hgP
    rw [bind_ok hpass]
    refine ⟨T.bytes a ++ g, by rw [hg, List.append_assoc], ?_, ?_⟩
    · rw [hrest, List.length_append, List.length_append]
      omega
    · rw [hrest]
      constructor
      · -- equal and never longer: the field and the rest are both unchanged
        intro heq
        have hl := congrArg List.length heq
        rw [List.length_append, List.length_append] at hl
        obtain ⟨hfield, hg'⟩ := List.append_inj heq (by omega)
        exact Or.inr ⟨v, suf, hv, by rw [hbytes, hfield], hgP.mp hg'⟩
      · rintro (hnil | ⟨v', suf', hv', hrest', hP⟩)
        · have hl := congrArg List.length hnil
          rw [List.length_append, List.length_nil] at hl
          rw [hnil, List.append_eq_nil_iff]
          exact ⟨List.eq_nil_of_length_eq_zero (by omega), List.eq_nil_of_length_eq_zero (by omega)⟩
        · have hok := (hT.canonical v' hv').reads w.reader suf' hw (hrest.trans hrest')
          rw [hr] at hok
          obtain ⟨rfl, hadv⟩ := EStateM.Result.ok.inj hok
          have hpos := congrArg Cursor.pos hadv
          rw [Cursor.pos_advance, Cursor.pos_advance] at hpos
          obtain ⟨rfl, rfl⟩ := List.append_inj hrest' (by omega)
          rw [hgP.mpr hP]

end Endweave
