import Endweave.Codec.Equiv.Runs
import Endweave.Codec.Equiv.Untrusted
import Endweave.Lib.Recursion
import Endweave.Protocol.Handlers.ChunkRequests
import Endweave.Protocol.Packets.ChunkRequests

/-!
# Correctness of the chunk request handlers

`chunkRequests_reframed`: the v1001 bytes of a request become its v975 bytes, and a payload that
declares more elements than it has bytes for is refused, whatever it is.
-/

namespace Endweave

open Wire PacketReader PacketWriter PacketWrapper V975ToV1001

/-! ### Raw blocks -/

/-- Elements of `k` bytes each. -/
theorem length_flatMap_of_length {α : Type} {f : α → List UInt8} {k : Nat} {xs : List α}
    (h : ∀ x ∈ xs, (f x).length = k) : (xs.flatMap f).length = xs.length * k := by
  induction xs with
  | nil => rw [List.flatMap_nil, List.length_nil, List.length_nil, Nat.zero_mul]
  | cons x xs ih =>
    have hx := h x (List.mem_cons_self ..)
    have hxs := ih fun y hy => h y (List.mem_cons_of_mem _ hy)
    rw [List.flatMap_cons, List.length_append, hx, hxs, List.length_cons, Nat.succ_mul,
      Nat.add_comm]

/-- A block of elements is read by its length. -/
theorem readBlock_rewrites {α : Type} {f : α → List UInt8} {k : Nat} {xs : List α}
    (h : ∀ x ∈ xs, (f x).length = k) :
    Rewrites (onReader (readBytes ((xs.length : Int) * k))) (xs.flatMap f) [] (xs.flatMap f) := by
  have hread := readBytes_reads (xs.flatMap f)
  rw [length_flatMap_of_length h, Nat.cast_mul] at hread
  exact onReader_rewrites hread

theorem writeBlock_rewrites (bs : List UInt8) : Rewrites (onWriter (writeBytes bs)) [] bs () :=
  onWriter_rewrites (writeBytes_writes bs)

/-! ### Requests -/

theorem int8_length (v : Int) : (int8.bytes v).length = 1 := by
  have hwrites : Writes (int8.write v) [_] := writeByte_writes v
  rw [FieldType.bytes, hwrites.written, List.length_singleton]

theorem offsetBytes_length (offset : Int × Int × Int) :
    (SubChunkRequest.offsetBytes offset).length = 3 := by
  rw [SubChunkRequest.offsetBytes, List.length_append, List.length_append, int8_length,
    int8_length, int8_length]

theorem uint64LE_length {v : Int} (h : InUInt64 v) : (uint64LE.bytes v).length = 8 := by
  have hwrites : Writes (uint64LE.write v) _ := pack_writes (inRange_unsigned rfl rfl h)
  rw [FieldType.bytes, hwrites.written, StructFormat.length_encode]
  rfl

theorem count_roundTrips {α : Type} {xs : List α} (h : xs.length < 2 ^ 32) :
    uvarInt.RoundTrips xs.length ∧ uintLE.RoundTrips xs.length :=
  ⟨uvarInt_roundTrips ⟨by omega, by omega⟩, uintLE_roundTrips ⟨by omega, by omega⟩⟩

theorem SubChunkRequest.Canonical.reframed {p : SubChunkRequest} (h : p.Canonical) :
    Rewrites rewriteSubChunkRequest p.bytesV1001 p.bytesV975 () := by
  obtain ⟨hx, hy, hz⟩ := h.position
  have hcount := count_roundTrips h.offsets.1
  have hlength : ∀ o ∈ p.offsets, (offsetBytes o).length = 3 := fun o _ => offsetBytes_length o
  have hblock := readBlock_rewrites hlength
  unfold rewriteSubChunkRequest bytesV1001 bytesV975
  apply Rewrites.passthrough (varInt_roundTrips h.dimension)
  apply Rewrites.read hcount.1
  apply hblock.readThen
  apply Rewrites.read (intLE_roundTrips hx)
  apply Rewrites.read (intLE_roundTrips hy)
  rw [← List.append_nil (intLE.bytes p.position.2.2)]
  apply Rewrites.read (intLE_roundTrips hz)
  apply Rewrites.write (varInt_roundTrips hx)
  apply Rewrites.write (varInt_roundTrips hy)
  apply Rewrites.write (varInt_roundTrips hz)
  apply Rewrites.write hcount.2
  exact writeBlock_rewrites _

theorem ClientCacheBlobStatus.Canonical.reframed {p : ClientCacheBlobStatus} (h : p.Canonical) :
    Rewrites rewriteClientCacheBlobStatus p.bytesV1001 p.bytesV975 () := by
  have hmiss := (count_roundTrips h.missHashes.1).1
  have hhit := (count_roundTrips h.hitHashes.1).1
  have hmissBlock := readBlock_rewrites fun v hv => uint64LE_length (h.missHashes.2 v hv)
  have hhitBlock := readBlock_rewrites fun v hv => uint64LE_length (h.hitHashes.2 v hv)
  unfold rewriteClientCacheBlobStatus bytesV1001 bytesV975
  apply Rewrites.read hmiss
  apply hmissBlock.readThen
  apply Rewrites.read hhit
  rw [← List.append_nil (p.hitHashes.flatMap uint64LE.bytes)]
  apply hhitBlock.readThen
  rw [List.append_nil]
  apply Rewrites.write hmiss
  apply Rewrites.write hhit
  apply (writeBlock_rewrites _).writeThen
  exact writeBlock_rewrites _

/-! ### Requests that declare too much -/

/-- What a reader of `n` bytes leaves. -/
theorem length_of_takes {α : Type} {m : Parser PyException UInt8 α} {n : Int}
    (hm : Takes m fun bs _ => (bs.length : Int) = n) {c c' : PacketReader} {a : α} (hc : c.Within)
    (hok : m c = .ok a c') : c'.Within ∧ (c'.rest.length : Int) + n = c.rest.length := by
  obtain ⟨bs, suf, hrest, rfl, hlen⟩ := hm.of_ok hc hok
  refine ⟨hc.advance_of_append hrest, ?_⟩
  rw [Cursor.rest_advance_of_append hrest, hrest, List.length_append]
  omega

theorem length_of_readBytes {n : Int} {c c' : PacketReader} {bs : List UInt8} (hc : c.Within)
    (hok : readBytes n c = .ok bs c') : c'.Within ∧ (c'.rest.length : Int) + n = c.rest.length :=
  length_of_takes ((readBytes_takes n).mono fun _ _ h => h.2) hc hok

theorem length_of_intLE {c c' : PacketReader} {v : Int} (hc : c.Within)
    (hok : intLE.read c = .ok v c') : c'.Within ∧ (c'.rest.length : Int) + 4 = c.rest.length := by
  have htakes : Takes intLE.read fun bs _ => (bs.length : Int) = 4 :=
    (struct_takes .intLE).mono fun bs _ h => by
      rw [h.1]
      rfl
  exact length_of_takes htakes hc hok

/-- A request is only made of all the offsets it declares and the position behind them. -/
theorem rewriteSubChunkRequest_eq_ok {s s' : PacketWrapper} (hs : s.reader.Within)
    (hok : rewriteSubChunkRequest s = .ok () s') :
    ∃ d c₁ n c₂, varInt.read s.reader = .ok d c₁ ∧ uvarInt.read c₁ = .ok n c₂ ∧
      3 * n + 12 ≤ (c₂.rest.length : Int) := by
  obtain ⟨d, s₁, hpass, hok⟩ := bind_eq_ok hok
  obtain ⟨c₁, hd, rfl⟩ := (passthrough_sent (varInt_codes d).writes hpass).run
  obtain ⟨n, c₂, hn, hok⟩ := onReader_bind_eq_ok hok
  obtain ⟨block, c₃, hblock, hok⟩ := onReader_bind_eq_ok hok
  obtain ⟨x, c₄, hx, hok⟩ := onReader_bind_eq_ok hok
  obtain ⟨y, c₅, hy, hok⟩ := onReader_bind_eq_ok hok
  obtain ⟨z, c₆, hz, _⟩ := onReader_bind_eq_ok hok
  -- the block and the three coordinates lie one behind the other
  have hc₁ := (readVarint_takes.advances.of_ok hs hd).1
  have hc₂ := (readUVarint_takes.advances.of_ok hc₁ hn).1
  obtain ⟨hc₃, hlen₃⟩ := length_of_readBytes hc₂ hblock
  obtain ⟨hc₄, hlen₄⟩ := length_of_intLE hc₃ hx
  obtain ⟨hc₅, hlen₅⟩ := length_of_intLE hc₄ hy
  obtain ⟨_, hlen₆⟩ := length_of_intLE hc₅ hz
  rw [offsetSize] at hlen₃
  exact ⟨d, c₁, n, c₂, hd, hn, by omega⟩

/-- A status is only made of all the hashes it declares. -/
theorem rewriteClientCacheBlobStatus_eq_ok {s s' : PacketWrapper} (hs : s.reader.Within)
    (hok : rewriteClientCacheBlobStatus s = .ok () s') :
    ∃ m c₁ h c₂, uvarInt.read s.reader = .ok m c₁ ∧ 8 * m ≤ (c₁.rest.length : Int) ∧
      uvarInt.read (c₁.advance (8 * m).toNat) = .ok h c₂ ∧ 8 * h ≤ (c₂.rest.length : Int) := by
  obtain ⟨m, c₁, hm, hok⟩ := onReader_bind_eq_ok hok
  obtain ⟨missHashes, c₂, hmiss, hok⟩ := onReader_bind_eq_ok hok
  obtain ⟨h, c₃, hh, hok⟩ := onReader_bind_eq_ok hok
  obtain ⟨hitHashes, c₄, hhit, _⟩ := onReader_bind_eq_ok hok
  have hc₁ := (readUVarint_takes.advances.of_ok hs hm).1
  obtain ⟨bs, suf, hrest, rfl, _, hbs⟩ := (readBytes_takes _).of_ok hc₁ hmiss
  have hc₂ := hc₁.advance_of_append hrest
  have hc₃ := (readUVarint_takes.advances.of_ok hc₂ hh).1
  obtain ⟨_, hlen₄⟩ := length_of_readBytes hc₃ hhit
  have hadvance : (8 * m).toNat = bs.length := by omega
  rw [← hadvance] at hh
  refine ⟨m, c₁, h, c₃, hm, ?_, hh, by omega⟩
  rw [hrest, List.length_append]
  omega

/-! ### The handlers -/

/-- **A chunk request reaches the server with the same content, and is refused when its counts do
not fit its bytes.** -/
theorem chunkRequests_reframed :
    (∀ p : SubChunkRequest, p.Canonical → ∀ user,
      rewriteSubChunkRequest.apply p.bytesV1001 user = .ok p.bytesV975) ∧
    (∀ p : ClientCacheBlobStatus, p.Canonical → ∀ user,
      rewriteClientCacheBlobStatus.apply p.bytesV1001 user = .ok p.bytesV975) ∧
    (∀ data d c₁ n c₂, varInt.read ⟨data, 0⟩ = .ok d c₁ → uvarInt.read c₁ = .ok n c₂ →
      (c₂.rest.length : Int) < 3 * n + 12 →
      ∀ user, ∃ e, rewriteSubChunkRequest.apply data user = .error e) ∧
    (∀ data m c₁, uvarInt.read ⟨data, 0⟩ = .ok m c₁ → (c₁.rest.length : Int) < 8 * m →
      ∀ user, ∃ e, rewriteClientCacheBlobStatus.apply data user = .error e) ∧
    (∀ data m c₁ h c₂, uvarInt.read ⟨data, 0⟩ = .ok m c₁ →
      uvarInt.read (c₁.advance (8 * m).toNat) = .ok h c₂ → (c₂.rest.length : Int) < 8 * h →
      ∀ user, ∃ e, rewriteClientCacheBlobStatus.apply data user = .error e) := by
  refine ⟨fun p hp user => hp.reframed.apply user, fun p hp user => hp.reframed.apply user,
    ?_, ?_, ?_⟩
  · intro data d c₁ n c₂ hd hn hshort user
    apply raises_of_not_ok
    intro s hok
    obtain ⟨d', c₁', n', c₂', hd', hn', hlong⟩ :=
      rewriteSubChunkRequest_eq_ok (Cursor.within_start data) hok
    obtain ⟨rfl, rfl⟩ := EStateM.Result.ok.inj (hd.symm.trans hd')
    obtain ⟨rfl, rfl⟩ := EStateM.Result.ok.inj (hn.symm.trans hn')
    omega
  · intro data m c₁ hm hshort user
    apply raises_of_not_ok
    intro s hok
    obtain ⟨m', c₁', _, _, hm', hlong, _⟩ :=
      rewriteClientCacheBlobStatus_eq_ok (Cursor.within_start data) hok
    obtain ⟨rfl, rfl⟩ := EStateM.Result.ok.inj (hm.symm.trans hm')
    omega
  · intro data m c₁ h c₂ hm hh hshort user
    apply raises_of_not_ok
    intro s hok
    obtain ⟨m', c₁', h', c₂', hm', _, hh', hlong⟩ :=
      rewriteClientCacheBlobStatus_eq_ok (Cursor.within_start data) hok
    obtain ⟨rfl, rfl⟩ := EStateM.Result.ok.inj (hm.symm.trans hm')
    obtain ⟨rfl, rfl⟩ := EStateM.Result.ok.inj (hh.symm.trans hh')
    omega

/-- Two sub chunks around a position below zero. -/
def sampleRequest : SubChunkRequest where
  dimension := 2
  position := (-1, -4, 300)
  offsets := [(0, -128, 0), (1, 127, -1)]

/-- One missing blob and no known one. -/
def sampleStatus : ClientCacheBlobStatus where
  missHashes := [2 ^ 64 - 1]
  hitHashes := []

theorem sampleRequest_canonical : sampleRequest.Canonical := by
  refine ⟨by decide, by decide, by decide, ?_⟩
  rw [sampleRequest, List.forall_mem_cons, List.forall_mem_singleton]
  decide

theorem sampleStatus_canonical : sampleStatus.Canonical where
  missHashes := fitsList_singleton (by decide)
  hitHashes := fitsList_nil _

/-- The packets above, and one of each that declares two elements and carries one. -/
theorem chunkRequests_reframed_sample :
    rewriteSubChunkRequest.apply sampleRequest.bytesV1001 { address := "a" } =
      .ok sampleRequest.bytesV975 ∧
    rewriteClientCacheBlobStatus.apply sampleStatus.bytesV1001 { address := "a" } =
      .ok sampleStatus.bytesV975 ∧
    (∃ e, rewriteSubChunkRequest.apply [0, 2, 1, 1, 1] { address := "a" } = .error e) ∧
    (∃ e, rewriteClientCacheBlobStatus.apply [2, 1, 1, 1, 1, 1, 1, 1, 1] { address := "a" } =
      .error e) ∧
    ∃ e, rewriteClientCacheBlobStatus.apply [0, 2, 1, 1, 1, 1, 1, 1, 1, 1] { address := "a" } =
      .error e := by
  obtain ⟨hrequest, hstatus, hoffsets, hmiss, hhit⟩ := chunkRequests_reframed
  exact ⟨hrequest _ sampleRequest_canonical _, hstatus _ sampleStatus_canonical _,
    hoffsets [0, 2, 1, 1, 1] 0 ⟨_, 1⟩ 2 ⟨_, 2⟩ rfl rfl (by decide) _,
    hmiss [2, 1, 1, 1, 1, 1, 1, 1, 1] 2 ⟨_, 1⟩ rfl (by decide) _,
    hhit [0, 2, 1, 1, 1, 1, 1, 1, 1, 1] 0 ⟨_, 1⟩ 2 ⟨_, 2⟩ rfl rfl (by decide) _⟩

end Endweave
