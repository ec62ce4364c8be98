import Hypervisor.Basic

/-!
# カーネルの関数の名前（`nt/mod.rs`）

`KeRaiseIrqlToDpcLevel` は、名前の UTF-16 の並びを `create_unicode_string` で `UNICODE_STRING` にして
`MmGetSystemRoutineAddress` に渡す。`UNICODE_STRING` の `Length` は終端の NUL を含まないバイト数、
`MaximumLength` は並び全体のバイト数である。どちらも `u16` への `as` で 2^16 で回るので、この形が保たれるのは
並びが 2^15 より短いときである。
-/

namespace Hypervisor

/-- `UNICODE_STRING`。`Buffer` は `s.as_ptr()` なので、指す先の並びで持つ。 -/
structure UnicodeString where
  length : BitVec 16
  maximumLength : BitVec 16
  buffer : List (BitVec 16)
  deriving DecidableEq, Repr

/-- `create_unicode_string(s)`：最後の要素が 0 なら、それを `Length` に数えない。 -/
def createUnicodeString (s : List (BitVec 16)) : UnicodeString :=
  let len := s.length
  let n := if h : len > 0 then (if s.get ⟨len - 1, Nat.sub_lt h Nat.one_pos⟩ = 0 then len - 1 else len) else len
  ⟨BitVec.ofNat 16 (n * 2), BitVec.ofNat 16 (len * 2), s⟩

/-- 終端の NUL を除いた並び。 -/
def dropNul (s : List (BitVec 16)) : List (BitVec 16) := if s.getLast? = some 0 then s.dropLast else s

theorem dropNul_length (s : List (BitVec 16)) :
    (dropNul s).length = if s.getLast? = some 0 then s.length - 1 else s.length := by
  unfold dropNul
  split <;> simp

theorem createUnicodeString_eq (s : List (BitVec 16)) :
    createUnicodeString s = ⟨BitVec.ofNat 16 ((dropNul s).length * 2), BitVec.ofNat 16 (s.length * 2), s⟩ := by
  rcases List.eq_nil_or_concat s with rfl | ⟨l, a, rfl⟩
  · rfl
  · by_cases ha : a = 0 <;> simp [createUnicodeString, dropNul_length, ha]

/-- 2^15 より短い並びでは、`Length` は偶数で `MaximumLength` を超えず、バッファの最初の `Length / 2` 個は終端の
NUL を除いた並びで、`MaximumLength` は並び全体のバイト数である。2^15 個で終端が NUL の並びでは、
`MaximumLength` は 0 に、`Length` は 65534 に回る。 -/
theorem create_unicode_string_counts_bytes (s : List (BitVec 16)) :
    (s.length < 2 ^ 15 →
      (createUnicodeString s).length.toNat % 2 = 0 ∧
      (createUnicodeString s).length ≤ (createUnicodeString s).maximumLength ∧
      (createUnicodeString s).buffer.take ((createUnicodeString s).length.toNat / 2) = dropNul s ∧
      (createUnicodeString s).maximumLength.toNat = 2 * s.length) ∧
    (s.length = 2 ^ 15 → s.getLast? = some 0 →
      (createUnicodeString s).maximumLength = 0 ∧ (createUnicodeString s).length = 65534) := by
  have hd := dropNul_length s
  rw [createUnicodeString_eq]
  refine ⟨fun hs => ?_, fun hs hl => ?_⟩
  · have hle : (dropNul s).length ≤ s.length := by split at hd <;> omega
    simp only [BitVec.toNat_ofNat, BitVec.le_def]
    refine ⟨by omega, by omega, ?_, by omega⟩
    rw [show (dropNul s).length * 2 % 2 ^ 16 / 2 = (dropNul s).length by omega]
    unfold dropNul
    split
    · rw [List.length_dropLast]
      exact (List.dropLast_eq_take s).symm
    · exact List.take_length s
  · simp only [hs, hl, if_true] at hd
    exact ⟨by rw [hs]; rfl, by rw [hd, hs]; rfl⟩

/-- `KeRaiseIrqlToDpcLevel` の名前（`obfstr::wide!("KeRaiseIrqlToDpcLevel\0")`）。 -/
def keRaiseIrqlToDpcLevelName : List (BitVec 16) :=
  "KeRaiseIrqlToDpcLevel".toList.map (fun c => BitVec.ofNat 16 c.toNat) ++ [0]

/-- `KeRaiseIrqlToDpcLevel` の名前は 22 個で、`Length` 42、`MaximumLength` 44 になる。 -/
example : (createUnicodeString keRaiseIrqlToDpcLevelName).length = 42 ∧
    (createUnicodeString keRaiseIrqlToDpcLevelName).maximumLength = 44 := by
  decide

/-- 0 が 2^15 個の並びでは `MaximumLength` が 0 に回る。 -/
example : (createUnicodeString (List.replicate (2 ^ 15) 0)).maximumLength = 0 :=
  ((create_unicode_string_counts_bytes _).2 (List.length_replicate _ _)
    (by rw [List.getLast?_replicate, if_neg (by decide)])).1

end Hypervisor
