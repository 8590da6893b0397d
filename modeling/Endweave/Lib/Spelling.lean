import Mathlib.Data.List.Nodup
import Mathlib.Data.Nat.Bitwise

/-!
# Facts about many string literals

Comparing two string literals goes through their UTF-8 bytes, which is too slow to do for all pairs
of a table of several hundred names.  `Spelled ss ls` lists the characters of the strings without
evaluating anything, a literal being its list of characters by definition.  The spellings are told
apart by their fingerprints, and the fingerprints by a set of bits, in one pass.
-/

namespace Spelling

/-- The strings `ss` are spelled by the characters `ls`. -/
inductive Spelled : List String → List (List Char) → Prop
  | nil : Spelled [] []
  | cons {ss : List String} {ls : List (List Char)} (l : List Char) (h : Spelled ss ls) :
      Spelled (String.ofList l :: ss) (l :: ls)

theorem Spelled.eq_map {ss : List String} {ls : List (List Char)} (h : Spelled ss ls) :
    ss = ls.map String.ofList := by
  induction h with
  | nil => rfl
  | cons l _ ih => rw [List.map_cons, ih]

/-- A number below 2^16 that most spellings do not share. -/
def fingerprint (l : List Char) : Nat := l.foldl (fun n c => (31 * n + c.toNat) % 2 ^ 16) 0

/-- No number is listed twice, and none is a bit of `seen`. -/
def unseen : List Nat → Nat → Bool
  | [], _ => true
  | n :: ns, seen => !seen.testBit n && unseen ns (seen ||| 1 <<< n)

theorem unseen_spec {ns : List Nat} {seen : Nat} (h : unseen ns seen = true) :
    ns.Nodup ∧ ∀ n ∈ ns, seen.testBit n = false := by
  induction ns generalizing seen with
  | nil => exact ⟨List.nodup_nil, fun n hn => absurd hn List.not_mem_nil⟩
  | cons n ns ih =>
    rw [unseen, Bool.and_eq_true, Bool.not_eq_true'] at h
    obtain ⟨hnodup, hrest⟩ := ih h.2
    -- a later number is neither in `seen` nor the bit that was just added
    have hlater : ∀ m ∈ ns, seen.testBit m = false ∧ n ≠ m := by
      intro m hm
      have hbit := hrest m hm
      rw [Nat.testBit_or, Bool.or_eq_false_iff, Nat.one_shiftLeft, Nat.testBit_two_pow] at hbit
      exact ⟨hbit.1, of_decide_eq_false hbit.2⟩
    constructor
    · exact List.nodup_cons.mpr ⟨fun hmem => (hlater n hmem).2 rfl, hnodup⟩
    · exact List.forall_mem_cons.mpr ⟨h.1, fun m hm => (hlater m hm).1⟩

/-- Strings whose fingerprints differ are distinct. -/
theorem Spelled.nodup {ss : List String} {ls : List (List Char)} (h : Spelled ss ls)
    (hls : unseen (ls.map fingerprint) 0 = true) : ss.Nodup := by
  have hnodup : ls.Nodup := (unseen_spec hls).1.of_map fingerprint
  rw [h.eq_map]
  exact hnodup.map fun _ _ heq => String.ofList_injective heq

theorem size_utf8Encode_le (l : List Char) : l.utf8Encode.size ≤ 4 * l.length := by
  induction l with
  | nil => rw [List.utf8Encode_nil, ByteArray.size_empty, List.length_nil]
  | cons c l ih =>
    -- a character takes four bytes at most
    have hc : [c].utf8Encode.size ≤ 4 := by
      have hsize := c.utf8Size_le_four
      rw [← String.utf8ByteSize_singleton, String.utf8ByteSize, String.toByteArray_singleton]
        at hsize
      exact hsize
    rw [List.utf8Encode_cons, ByteArray.size_append, List.length_cons]
    omega

end Spelling
