import Hypervisor.Paging.Tables

/-!
# 項目の欄の読み書き

一ビットの欄と `pfn` は重ならないので、どの書き込みもほかの欄を変えない。`pfn` に書いた値は下の 40 ビット
だけが残る。`build_identity` の二つの書き込みの列（`pointTo`、`mapLargePage`）の結果をここでまとめる。
-/

namespace Hypervisor

namespace Entry

theorem ext_bits {a b : Entry} (h : a.bits = b.bits) : a = b := by
  cases a
  cases b
  cases h
  rfl

variable (e : Entry) {n m : Nat}

theorem bitRange_self (v : BitVec 64) (h : n < 64) : bitRange n n v = if v.getLsbD n then 1 else 0 := by
  apply BitVec.eq_of_getLsbD_eq
  rintro ⟨_ | i, hi⟩ <;> rw [getLsbD_bitRange _ _ _ h] <;> split <;> simp_all

theorem bit_eq_getLsbD (h : n < 64) : e.bit n = e.bits.getLsbD n := by
  simp only [bit, bitRange_self _ h]
  cases e.bits.getLsbD n <;> decide

theorem getLsbD_setBit (hm : m < 64) (b : Bool) (i : Nat) :
    (e.setBit m b).bits.getLsbD i = if i = m then b else e.bits.getLsbD i := by
  simp only [setBit, getLsbD_setBitRange _ _ _ _ hm]
  by_cases h : i = m
  · subst h; cases b <;> simp
  · simp [h, show ¬ (m ≤ i ∧ i ≤ m) by omega]

theorem bit_setBit (hn : n < 64) (hm : m < 64) (b : Bool) :
    (e.setBit m b).bit n = if n = m then b else e.bit n := by
  simp only [bit_eq_getLsbD _ hn, setBit, getLsbD_setBitRange _ _ _ _ hm]
  by_cases hnm : n = m
  · subst hnm; cases b <;> simp
  · simp [hnm, show ¬ (m ≤ n ∧ n ≤ m) by omega]

theorem bit_setPfn (hn : n < 12) (v : BitVec 64) : (e.setPfn v).bit n = e.bit n := by
  simp only [bit_eq_getLsbD _ (show n < 64 by omega), setPfn, getLsbD_setBitRange _ _ _ _ (by decide : 51 < 64)]
  simp [show ¬ (12 ≤ n ∧ n ≤ 51) by omega]

theorem pfn_setBit (hm : m < 12) (b : Bool) : (e.setBit m b).pfn = e.pfn := by
  apply BitVec.eq_of_getLsbD_eq
  rintro ⟨i, _⟩
  simp only [pfn, setBit, getLsbD_bitRange _ _ _ (by decide : 51 < 64),
    getLsbD_setBitRange _ _ _ _ (show m < 64 by omega), show ¬ (m ≤ i + 12 ∧ i + 12 ≤ m) by omega, if_false]

theorem pfn_setPfn (v : BitVec 64) : (e.setPfn v).pfn = (v.setWidth 40).setWidth 64 := by
  apply BitVec.eq_of_getLsbD_eq
  rintro ⟨i, hi⟩
  simp only [pfn, setPfn, getLsbD_bitRange _ _ _ (by decide : 51 < 64),
    getLsbD_setBitRange _ _ _ _ (by decide : 51 < 64), BitVec.getLsbD_setWidth]
  by_cases h : i < 40 <;> simp [h, hi, show i + 12 ≤ 51 ↔ i < 40 by omega]

theorem pfn_setPfn_toNat (v : BitVec 64) : (e.setPfn v).pfn.toNat = v.toNat % 2 ^ 40 := by
  rw [pfn_setPfn, BitVec.toNat_setWidth, BitVec.toNat_setWidth]
  omega

/-- 4 KiB 境界にある 52 ビットの物理アドレスは、ページ番号にして `pfn` に書けば読み戻せる。 -/
theorem pfn_setPfn_shiftLeft {pa : BitVec 64} (ha : pa.toNat % 4096 = 0) (hb : pa.toNat < 2 ^ 52) :
    (e.setPfn (pa >>> BASE_PAGE_SHIFT)).pfn <<< 12 = pa := by
  apply BitVec.eq_of_toNat_eq
  simp only [BitVec.toNat_shiftLeft, pfn_setPfn_toNat, BitVec.toNat_ushiftRight, BASE_PAGE_SHIFT,
    Nat.shiftLeft_eq, Nat.shiftRight_eq_div_pow]
  omega

end Entry

/-! ## `build_identity` が書く項目 -/

section Writes

variable (pa : BitVec 64) (e : Entry)

@[simp] theorem present_pointTo : (pointTo pa e).present = true := by
  simp (disch := omega) [pointTo, Entry.present, Entry.setPresent, Entry.setWritable, Entry.bit_setPfn,
    Entry.bit_setBit]

@[simp] theorem writable_pointTo : (pointTo pa e).writable = true := by
  simp (disch := omega) [pointTo, Entry.writable, Entry.setPresent, Entry.setWritable, Entry.bit_setPfn,
    Entry.bit_setBit]

@[simp] theorem large_pointTo : (pointTo pa e).large = e.large := by
  simp (disch := omega) [pointTo, Entry.large, Entry.setPresent, Entry.setWritable, Entry.bit_setPfn,
    Entry.bit_setBit]

@[simp] theorem present_mapLargePage : (mapLargePage pa e).present = true := by
  simp (disch := omega) [mapLargePage, Entry.present, Entry.setPresent, Entry.setWritable, Entry.setLarge,
    Entry.bit_setPfn, Entry.bit_setBit]

@[simp] theorem writable_mapLargePage : (mapLargePage pa e).writable = true := by
  simp (disch := omega) [mapLargePage, Entry.writable, Entry.setPresent, Entry.setWritable, Entry.setLarge,
    Entry.bit_setPfn, Entry.bit_setBit]

@[simp] theorem large_mapLargePage : (mapLargePage pa e).large = true := by
  simp (disch := omega) [mapLargePage, Entry.large, Entry.setPresent, Entry.setWritable, Entry.setLarge,
    Entry.bit_setPfn, Entry.bit_setBit]

/-- `pointTo` が書くビットは pfn（51:12）、writable（1）、present（0）で、ほかは元の項目のまま。 -/
theorem getLsbD_pointTo (i : Nat) : (pointTo pa e).bits.getLsbD i =
    if 12 ≤ i ∧ i ≤ 51 then (pa >>> BASE_PAGE_SHIFT).getLsbD (i - 12)
    else if i = 1 then true else if i = 0 then true else e.bits.getLsbD i := by
  simp only [pointTo, Entry.setPfn, Entry.setWritable, Entry.setPresent,
    getLsbD_setBitRange _ _ _ _ (by decide : 51 < 64), Entry.getLsbD_setBit _ (by decide : 1 < 64),
    Entry.getLsbD_setBit _ (by decide : 0 < 64)]

/-- `mapLargePage` は、さらに large（7）を書く。 -/
theorem getLsbD_mapLargePage (i : Nat) : (mapLargePage pa e).bits.getLsbD i =
    if 12 ≤ i ∧ i ≤ 51 then (pa >>> BASE_PAGE_SHIFT).getLsbD (i - 12)
    else if i = 7 then true else if i = 1 then true else if i = 0 then true else e.bits.getLsbD i := by
  simp only [mapLargePage, Entry.setPfn, Entry.setLarge, Entry.setWritable, Entry.setPresent,
    getLsbD_setBitRange _ _ _ _ (by decide : 51 < 64), Entry.getLsbD_setBit _ (by decide : 7 < 64),
    Entry.getLsbD_setBit _ (by decide : 1 < 64), Entry.getLsbD_setBit _ (by decide : 0 < 64)]

/-- 項目のビット 51:12 が `pa` のものなら、その中のどの範囲も `pa` の同じ範囲である。 -/
theorem bitRange_of_pfn {x : BitVec 64} {msb lsb : Nat} (hl : 12 ≤ lsb) (hm : msb ≤ 51)
    (hx : ∀ i, 12 ≤ i ∧ i ≤ 51 → x.getLsbD i = (pa >>> BASE_PAGE_SHIFT).getLsbD (i - 12)) :
    bitRange msb lsb x = bitRange msb lsb pa := by
  apply BitVec.eq_of_getLsbD_eq
  rintro ⟨i, -⟩
  simp only [getLsbD_bitRange _ _ _ (show msb < 64 by omega)]
  by_cases h : i + lsb ≤ msb
  · rw [hx _ ⟨by omega, by omega⟩, BitVec.getLsbD_ushiftRight, BASE_PAGE_SHIFT,
      show 12 + (i + lsb - 12) = i + lsb by omega]
  · simp [h]

theorem bitRange_pointTo {msb lsb : Nat} (hl : 12 ≤ lsb) (hm : msb ≤ 51) :
    bitRange msb lsb (pointTo pa e).bits = bitRange msb lsb pa :=
  bitRange_of_pfn pa hl hm fun i hi => by rw [getLsbD_pointTo, if_pos hi]

theorem bitRange_mapLargePage {msb lsb : Nat} (hl : 12 ≤ lsb) (hm : msb ≤ 51) :
    bitRange msb lsb (mapLargePage pa e).bits = bitRange msb lsb pa :=
  bitRange_of_pfn pa hl hm fun i hi => by rw [getLsbD_mapLargePage, if_pos hi]

theorem pointTo_pointTo : pointTo pa (pointTo pa e) = pointTo pa e := by
  apply Entry.ext_bits
  apply BitVec.eq_of_getLsbD_eq
  intro i
  simp only [getLsbD_pointTo]
  split_ifs <;> rfl

theorem mapLargePage_mapLargePage : mapLargePage pa (mapLargePage pa e) = mapLargePage pa e := by
  apply Entry.ext_bits
  apply BitVec.eq_of_getLsbD_eq
  intro i
  simp only [getLsbD_mapLargePage]
  split_ifs <;> rfl

theorem pfn_pointTo (ha : pa.toNat % 4096 = 0) (hb : pa.toNat < 2 ^ 52) : (pointTo pa e).pfn <<< 12 = pa :=
  Entry.pfn_setPfn_shiftLeft _ ha hb

theorem pfn_mapLargePage_toNat : (mapLargePage pa e).pfn.toNat = pa.toNat / 2 ^ 12 % 2 ^ 40 := by
  rw [mapLargePage, Entry.pfn_setPfn_toNat, BitVec.toNat_ushiftRight, BASE_PAGE_SHIFT, Nat.shiftRight_eq_div_pow]

theorem pfn_mapLargePage (ha : pa.toNat % 4096 = 0) (hb : pa.toNat < 2 ^ 52) :
    (mapLargePage pa e).pfn <<< 12 = pa :=
  Entry.pfn_setPfn_shiftLeft _ ha hb

end Writes

/-! ## `2^k` の倍数のアドレス -/

section Aligned

variable {pa : BitVec 64} {k : Nat} (ha : pa.toNat % 2 ^ k = 0)
include ha

theorem getLsbD_of_mod_eq_zero {i : Nat} (hi : i < k) : pa.getLsbD i = false := by
  have h := Nat.testBit_mod_two_pow pa.toNat k i
  rw [ha, Nat.zero_testBit, decide_eq_true hi, Bool.true_and] at h
  exact h.symm

/-- `2^k` の倍数では、`k` より下のビットの範囲は 0 である。 -/
theorem bitRange_of_mod_eq_zero {msb : Nat} (lsb : Nat) (hm : msb < k) (h64 : msb < 64) : bitRange msb lsb pa = 0 := by
  apply BitVec.eq_of_getLsbD_eq
  rintro ⟨i, -⟩
  by_cases h : i + lsb ≤ msb
  · simp [getLsbD_bitRange _ _ _ h64, getLsbD_of_mod_eq_zero ha (show i + lsb < k by omega)]
  · simp [getLsbD_bitRange _ _ _ h64, h]

/-- `2^k` の倍数は、下の `k` ビットを落としても変わらない。 -/
theorem and_not_low_of_mod_eq_zero : pa &&& ~~~BitVec.ofNat 64 (2 ^ k - 1) = pa := by
  apply BitVec.eq_of_getLsbD_eq
  rintro ⟨i, hi⟩
  simp only [BitVec.getLsbD_and, BitVec.getLsbD_not, BitVec.getLsbD_ofNat, Nat.testBit_two_pow_sub_one,
    decide_eq_true hi, Bool.true_and]
  by_cases h : i < k
  · simp [h, getLsbD_of_mod_eq_zero ha h]
  · simp [h]

end Aligned

/-- 0 の項目はどの欄も立っていない（`simp` は 0 を `0#64` と書く）。 -/
@[simp] theorem Entry.present_zero : (⟨0#64⟩ : Entry).present = false := by decide

@[simp] theorem Entry.large_zero : (⟨0#64⟩ : Entry).large = false := by decide

end Hypervisor
