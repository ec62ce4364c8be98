import Hypervisor.Paging.Walk
import Hypervisor.Paging.Lemmas.Entry

/-!
# 表引きの一段

表引きの一段は、表の物理アドレスに添字の 8 倍を足した語を読む。表が `Placement` に置かれていれば、
その語は表の並び `Table.word` の語である。並びの間隔が 8 なら添字の項目、`ENTRY_SIZE`（4096）なら添字 0
のときだけ項目 0 で、ほかは詰め物の 0 である。
-/

namespace Hypervisor

/-- 線形アドレス `a` のビット `shift + 8 .. shift`：その段の表の添字。 -/
def tableIndex (a : BitVec 64) (shift : Nat) : Fin 512 := ⟨a.toNat / 2 ^ shift % 512, Nat.mod_lt _ (by decide)⟩

theorem entryOffset_toNat (a : BitVec 64) (shift : Nat) :
    (entryOffset a shift).toNat = 8 * (tableIndex a shift).val := by
  have h : (0x1FF : BitVec 64).toNat = 2 ^ 9 - 1 := rfl
  simp only [entryOffset, tableIndex, BitVec.toNat_shiftLeft, BitVec.toNat_and, BitVec.toNat_ushiftRight, h,
    Nat.and_pow_two_sub_one_eq_mod, Nat.shiftLeft_eq, Nat.shiftRight_eq_div_pow]
  omega

/-- 2 MiB のページの中のアドレスは、PDPT と PD の添字が選ぶページの番地と、下の 21 ビットの和である。 -/
theorem large_page_address (a : BitVec 64) (ha : a.toNat < 2 ^ 39) :
    BitVec.ofNat 64 ((tableIndex a 30).val * 0x40000000 + (tableIndex a 21).val * 0x200000) +
      (a &&& BitVec.ofNat 64 (2 ^ (12 + 9 * 1) - 1)) = a := by
  apply BitVec.eq_of_toNat_eq
  have h : (BitVec.ofNat 64 (2 ^ (12 + 9 * 1) - 1)).toNat = 2 ^ 21 - 1 := rfl
  simp only [tableIndex, BitVec.toNat_add, BitVec.toNat_and, BitVec.toNat_ofNat, h,
    Nat.and_pow_two_sub_one_eq_mod]
  omega

theorem TableRef.mem_all (r : TableRef) : r ∈ TableRef.all := by
  cases r <;> simp [TableRef.all]

section Memory

variable (pt : PageTables) (stride : Nat) (pl : Placement) (rest : BitVec 64 → BitVec 64)

/-- 表 `r` の物理ページの中の読み出しは、その表の並びを読む。 -/
theorem memory_pa_add (r : TableRef) {o : BitVec 64} (ho : o.toNat < 4096) :
    pt.memory stride pl rest (pl.pa r + o) = (pt.table r).word stride o.toNat := by
  have hb := pl.bounded r
  have ha := pl.aligned r
  have hp : (pl.pa r + o).toNat = (pl.pa r).toNat + o.toNat := by
    rw [BitVec.toNat_add]; omega
  unfold PageTables.memory
  rcases hf : TableRef.all.find? (fun r' => decide ((pl.pa r').toNat / 4096 = (pl.pa r + o).toNat / 4096))
    with _ | r'
  · have := List.find?_eq_none.1 hf r (TableRef.mem_all r)
    simp only [hp, decide_eq_true_eq] at this
    omega
  · have h' := List.find?_some hf
    simp only [hp, decide_eq_true_eq] at h'
    obtain rfl : r' = r := pl.injective (BitVec.eq_of_toNat_eq (by have := pl.aligned r'; omega))
    simp only [hp]
    congr 1
    omega

theorem memory_entry (r : TableRef) (a : BitVec 64) (shift : Nat) :
    pt.memory stride pl rest (pl.pa r + entryOffset a shift) =
      (pt.table r).word stride (8 * (tableIndex a shift).val) := by
  rw [memory_pa_add _ _ _ _ _ (by rw [entryOffset_toNat]; omega), entryOffset_toNat]

end Memory

/-! ## 表の並び -/

/-- 項目が 8 バイトおきなら、`8 k` バイト目は項目 `k` である。 -/
theorem word_packed (t : Table) (k : Fin 512) : t.word 8 (8 * k.val) = (t.entries k).bits := by
  simp [Table.word]

/-- 項目が `ENTRY_SIZE` バイトおきなら、表の最初の 4 KiB にあるのは項目 0 だけである。 -/
theorem word_entrySize (t : Table) (k : Fin 512) :
    t.word ENTRY_SIZE (8 * k.val) = if k.val = 0 then (t.entries 0).bits else 0 := by
  have hs : ENTRY_SIZE = 4096 := rfl
  have := k.isLt
  by_cases hk : k.val = 0
  · simp [Table.word, hs, hk, Fin.ext_iff]
  · simp only [Table.word, hs, hk, if_false]
    rw [dif_neg]
    omega

/-! ## 一段 -/

section Step

variable {mem : BitVec 64 → BitVec 64} {a base : BitVec 64} {w : Bool} {e : Entry} (level : Nat)

theorem walkFrom_not_present (he : mem (base + entryOffset a (12 + 9 * level)) = e.bits)
    (hp : e.present = false) : walkFrom mem a (level + 1) base w = none := by
  simp [walkFrom, he, hp]

/-- 0 の語（詰め物）を読んだ段で、表引きは止まる。 -/
theorem walkFrom_zero (he : mem (base + entryOffset a (12 + 9 * level)) = 0) :
    walkFrom mem a (level + 1) base w = none :=
  walkFrom_not_present level (show mem _ = (⟨0#64⟩ : Entry).bits from he) rfl

/-- 予約されたビットの立った項目：表引きはそこで止まる。 -/
theorem walkFrom_reserved (he : mem (base + entryOffset a (12 + 9 * level)) = e.bits) (hp : e.present = true)
    (hr : e.reservedSet level = true) : walkFrom mem a (level + 1) base w = none := by
  simp [walkFrom, he, hp, hr]

/-- large の立たない項目では予約されたビットは立たない。 -/
theorem Entry.reservedSet_of_large_false (hn : e.large = false) : e.reservedSet level = false := by
  rcases level with _ | _ | _ | _ | _ <;> simp [Entry.reservedSet, hn]

/-- 次の段の表を指す項目：表引きはその表へ進む。 -/
theorem walkFrom_next (he : mem (base + entryOffset a (12 + 9 * level)) = e.bits) (hp : e.present = true)
    (hl : level ≠ 0) (hn : e.large = false) :
    walkFrom mem a (level + 1) base w = walkFrom mem a level (e.pfn <<< 12) (w && e.writable) := by
  simp [walkFrom, he, hp, hl, hn, Entry.reservedSet_of_large_false level hn]

/-- ページを指す項目：表引きはそこで終わる。 -/
theorem walkFrom_page (he : mem (base + entryOffset a (12 + 9 * level)) = e.bits) (hp : e.present = true)
    (hl : level = 0 ∨ (e.large = true ∧ (level = 1 ∨ level = 2))) (hr : e.reservedSet level = false) :
    walkFrom mem a (level + 1) base w =
      some ⟨e.frame (12 + 9 * level) + (a &&& BitVec.ofNat 64 (2 ^ (12 + 9 * level) - 1)), w && e.writable,
        2 ^ (12 + 9 * level)⟩ := by
  simp only [walkFrom, he, hp, hr, Bool.not_true, Bool.false_eq_true, if_false, hl, if_true]

end Step

/-! ## `build_identity` が書く項目の表引き -/

section Writes

variable (pa : BitVec 64) (e : Entry)

/-- 1 GiB のページを指す `pointTo` の項目の予約されたビットは、`pa` のビット 29:13 である。 -/
theorem reservedSet_pointTo_pdpt :
    (pointTo pa e).reservedSet 2 = (e.large && bitRange 29 13 pa != 0) := by
  simp only [Entry.reservedSet, large_pointTo, bitRange_pointTo pa e (by decide : 12 ≤ 13) (by decide : 29 ≤ 51)]

theorem frame_pointTo (ha : pa.toNat % 4096 = 0) (hb : pa.toNat < 2 ^ 52) (shift : Nat) :
    (pointTo pa e).frame shift = pa &&& ~~~BitVec.ofNat 64 (2 ^ shift - 1) := by
  rw [Entry.frame, pfn_pointTo _ _ ha hb]

/-- 2 MiB 境界の `pa` を指す `mapLargePage` の項目は、予約されたビットを持たず、`pa` のページを指す。 -/
theorem mapLargePage_leaf (ha : pa.toNat % 2 ^ 21 = 0) (hb : pa.toNat < 2 ^ 52) :
    (mapLargePage pa e).reservedSet 1 = false ∧ (mapLargePage pa e).frame (12 + 9 * 1) = pa := by
  have h4 : pa.toNat % 4096 = 0 := by omega
  refine ⟨?_, by rw [Entry.frame, pfn_mapLargePage _ _ h4 hb, and_not_low_of_mod_eq_zero ha]⟩
  simp only [Entry.reservedSet, large_mapLargePage, bitRange_mapLargePage pa e (by decide : 12 ≤ 13)
    (by decide : 20 ≤ 51), bitRange_of_mod_eq_zero ha 13 (by decide : 20 < 21) (by decide : 20 < 64)]
  rfl

end Writes

end Hypervisor
