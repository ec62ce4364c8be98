import Hypervisor.Paging.Lemmas.Build
import Hypervisor.Paging.Lemmas.Walk

/-!
# 恒等写像のページ表の定理

`build_identity` が 0 で埋めた表に書く項目と、その表を物理メモリに置いたときの x86-64 の表引きを言明する。
表引きは項目の並びの間隔で結果が変わる。コードの間隔 `ENTRY_SIZE` では PML4、PDPT、PD の項目 0 しか
見えず、8 バイトおきなら 512 GiB の恒等写像になる。
-/

namespace Hypervisor

variable (pl : Placement) (rest : BitVec 64 → BitVec 64)

/-! ## 表の中身 -/

/-- 0 で埋めた表に `build_identity` が書くもの：PML4 の項目 0 は PDPT を指し、ほかの項目は 0 のまま。
PDPT の項目 `i` は `pd[i]` を指し、large は立たない。`pd[i]` の項目 `j` は present、writable、large で、
pfn は `((i · 512 + j) · 2 MiB) >> 12`。 -/
theorem build_identity_entries :
    ((buildIdentity pl .zeroed).pml4.entries 0).present ∧ ((buildIdentity pl .zeroed).pml4.entries 0).writable ∧
      ((buildIdentity pl .zeroed).pml4.entries 0).pfn <<< 12 = pl.pa .pdpt ∧
    (∀ k, k ≠ 0 → (buildIdentity pl .zeroed).pml4.entries k = ⟨0⟩) ∧
    (∀ i, ((buildIdentity pl .zeroed).pdpt.entries i).present ∧ ((buildIdentity pl .zeroed).pdpt.entries i).writable ∧
      ((buildIdentity pl .zeroed).pdpt.entries i).large = false ∧
      ((buildIdentity pl .zeroed).pdpt.entries i).pfn <<< 12 = pl.pa (.pd i)) ∧
    (∀ i j, (((buildIdentity pl .zeroed).pd i).entries j).present ∧
      (((buildIdentity pl .zeroed).pd i).entries j).writable ∧ (((buildIdentity pl .zeroed).pd i).entries j).large ∧
      (((buildIdentity pl .zeroed).pd i).entries j).pfn.toNat = (i.val * 512 + j.val) * 0x200000 >>> 12) := by
  refine ⟨by simp [buildIdentity_pml4], by simp [buildIdentity_pml4],
    by simp [buildIdentity_pml4, pfn_pointTo _ _ (pl.aligned _) (pl.bounded _)],
    fun k hk => by simp [buildIdentity_pml4, hk], fun i => ?_, fun i j => ?_⟩
  · simp [buildIdentity_pdpt, pfn_pointTo _ _ (pl.aligned _) (pl.bounded _)]
  · refine ⟨by simp [buildIdentity_pd], by simp [buildIdentity_pd], by simp [buildIdentity_pd], ?_⟩
    have := i.isLt
    have := j.isLt
    rw [buildIdentity_pd, pfn_mapLargePage_toNat, BitVec.toNat_ofNat, Nat.shiftRight_eq_div_pow]
    omega

/-! ## コードの並びでの表引き -/

/-- コードの並び（項目は `ENTRY_SIZE` バイトおき）で、0 で埋めた表に `build_identity` を走らせたあとの表引き。
ハードウェアが読む表の最初の 4 KiB には項目 0 しかないので、2^48 より下で写されるのは最初の 2 MiB だけで、
そこは恒等写像になる。 -/
theorem build_identity_maps_first_large_page (a : BitVec 64) (ha : a.toNat < 2 ^ 48) :
    walk ((buildIdentity pl .zeroed).memory ENTRY_SIZE pl rest) (pl.pa .pml4) a =
      if a.toNat < 2 ^ 21 then some ⟨a, true, 2 ^ 21⟩ else none := by
  have hpml4 := memory_entry (buildIdentity pl .zeroed) ENTRY_SIZE pl rest .pml4 a 39
  have hpdpt := memory_entry (buildIdentity pl .zeroed) ENTRY_SIZE pl rest .pdpt a 30
  have hpd := memory_entry (buildIdentity pl .zeroed) ENTRY_SIZE pl rest (.pd 0) a 21
  simp only [word_entrySize, PageTables.table_pml4, PageTables.table_pdpt, PageTables.table_pd,
    buildIdentity_pml4, buildIdentity_pdpt, buildIdentity_pd, if_true, PageTables.zeroed_pml4,
    PageTables.zeroed_pdpt, PageTables.zeroed_pd, Table.zeroed_entries, Fin.val_zero, zero_mul, add_zero]
    at hpml4 hpdpt hpd
  simp only [tableIndex] at hpml4 hpdpt hpd
  rw [walk]
  by_cases h39 : a.toNat / 2 ^ 39 % 512 = 0
  swap
  · rw [if_neg h39] at hpml4
    rw [walkFrom_zero 3 hpml4, if_neg (show ¬ a.toNat < 2 ^ 21 by omega)]
  rw [if_pos h39] at hpml4
  rw [walkFrom_next 3 hpml4 (by simp) (by decide) (by simp),
    pfn_pointTo _ _ (pl.aligned _) (pl.bounded _)]
  by_cases h30 : a.toNat / 2 ^ 30 % 512 = 0
  swap
  · rw [if_neg h30] at hpdpt
    rw [walkFrom_zero 2 hpdpt, if_neg (show ¬ a.toNat < 2 ^ 21 by omega)]
  rw [if_pos h30] at hpdpt
  rw [walkFrom_next 2 hpdpt (by simp) (by decide) (by simp),
    pfn_pointTo _ _ (pl.aligned _) (pl.bounded _)]
  by_cases h21 : a.toNat / 2 ^ 21 % 512 = 0
  swap
  · rw [if_neg h21] at hpd
    rw [walkFrom_zero 1 hpd, if_neg (show ¬ a.toNat < 2 ^ 21 by omega)]
  rw [if_pos h21] at hpd
  obtain ⟨hr, hf⟩ := mapLargePage_leaf 0#64 ⟨0⟩ rfl (by decide)
  rw [walkFrom_page 1 hpd (by simp) (.inr ⟨by simp, .inl rfl⟩) hr, hf, if_pos (show a.toNat < 2 ^ 21 by omega)]
  have h : (BitVec.ofNat 64 (2 ^ (12 + 9 * 1) - 1)).toNat = 2 ^ 21 - 1 := rfl
  simp only [writable_pointTo, writable_mapLargePage, Bool.and_self, Option.some.injEq, Translation.mk.injEq,
    and_true]
  apply BitVec.eq_of_toNat_eq
  simp only [BitVec.toNat_add, BitVec.toNat_and, h, Nat.and_pow_two_sub_one_eq_mod]
  simp
  omega

/-- 表の物理アドレスの一つの選び方：表ごとに 4 KiB ずつ、4 KiB から並べる。 -/
def TableRef.ordinal : TableRef → Nat
  | .pml4 => 0
  | .pdpt => 1
  | .pd i => i.val + 2

theorem TableRef.ordinal_lt : ∀ r : TableRef, r.ordinal < 514
  | .pml4 => by decide
  | .pdpt => by decide
  | .pd i => by simp only [TableRef.ordinal]; omega

def samplePlacement : Placement where
  pa r := BitVec.ofNat 64 (4096 * (r.ordinal + 1))
  injective r r' h := by
    have h' := congrArg BitVec.toNat h
    have := r.ordinal_lt
    have := r'.ordinal_lt
    simp only [BitVec.toNat_ofNat] at h'
    have ho : r.ordinal = r'.ordinal := by omega
    cases r <;> cases r' <;> simp_all [TableRef.ordinal, Fin.ext_iff]
  aligned r := by simp only [BitVec.toNat_ofNat]; omega
  bounded r := by
    have := r.ordinal_lt
    simp only [BitVec.toNat_ofNat]
    omega

theorem build_identity_maps_first_large_page_two_mib :
    (0x200000 : BitVec 64).toNat < 2 ^ 48 ∧
    walk ((buildIdentity samplePlacement .zeroed).memory ENTRY_SIZE samplePlacement fun _ => 0)
      (samplePlacement.pa .pml4) 0x200000 = none :=
  ⟨by decide, (build_identity_maps_first_large_page samplePlacement _ 0x200000 (by decide)).trans (if_neg (by decide))⟩

/-! ## 8 バイトおきの並びでの表引き -/

/-- 項目が 8 バイトおき（ハードウェアが表を読む並び）なら、同じ表は 2^39 より下のどのアドレスもそれ自身へ
写し、どの段の項目も present で writable で、PD の 2 MiB のページで終わる。2^39 から 2^48 までは、PML4 の
項目 1..511 が present でないので写されない。 -/
theorem build_identity_maps_identity_when_packed :
    (∀ a : BitVec 64, a.toNat < 2 ^ 39 →
      walk ((buildIdentity pl .zeroed).memory 8 pl rest) (pl.pa .pml4) a = some ⟨a, true, 2 ^ 21⟩) ∧
    (∀ a : BitVec 64, 2 ^ 39 ≤ a.toNat → a.toNat < 2 ^ 48 →
      walk ((buildIdentity pl .zeroed).memory 8 pl rest) (pl.pa .pml4) a = none) := by
  refine ⟨fun a ha => ?_, fun a hlo hhi => ?_⟩
  · have h39 : tableIndex a 39 = 0 := Fin.ext (by simp only [tableIndex]; omega)
    have hpml4 := memory_entry (buildIdentity pl .zeroed) 8 pl rest .pml4 a 39
    have hpdpt := memory_entry (buildIdentity pl .zeroed) 8 pl rest .pdpt a 30
    have hpd := memory_entry (buildIdentity pl .zeroed) 8 pl rest (.pd (tableIndex a 30)) a 21
    simp only [word_packed, PageTables.table_pml4, PageTables.table_pdpt, PageTables.table_pd, buildIdentity_pml4,
      buildIdentity_pdpt, buildIdentity_pd, h39, if_true, PageTables.zeroed_pml4, PageTables.zeroed_pdpt,
      PageTables.zeroed_pd, Table.zeroed_entries] at hpml4 hpdpt hpd
    obtain ⟨hal, hbd⟩ := largePage_aligned (tableIndex a 30) (tableIndex a 21)
    obtain ⟨hr, hf⟩ := mapLargePage_leaf _ ⟨0⟩ hal hbd
    rw [walk, walkFrom_next 3 hpml4 (by simp) (by decide) (by simp),
      pfn_pointTo _ _ (pl.aligned _) (pl.bounded _),
      walkFrom_next 2 hpdpt (by simp) (by decide) (by simp),
      pfn_pointTo _ _ (pl.aligned _) (pl.bounded _),
      walkFrom_page 1 hpd (by simp) (.inr ⟨by simp, .inl rfl⟩) hr, hf, large_page_address a ha]
    simp
  · have h39 : (tableIndex a 39).val ≠ 0 := by simp only [tableIndex]; omega
    have hpml4 := memory_entry (buildIdentity pl .zeroed) 8 pl rest .pml4 a 39
    rw [word_packed, PageTables.table_pml4, buildIdentity_pml4, if_neg (fun h => h39 (by rw [h]; rfl)),
      PageTables.zeroed_pml4, Table.zeroed_entries] at hpml4
    exact walkFrom_not_present 3 hpml4 (by simp)

theorem build_identity_maps_identity_when_packed_two_mib :
    (0x200000 : BitVec 64).toNat < 2 ^ 39 ∧
    walk ((buildIdentity samplePlacement .zeroed).memory 8 samplePlacement fun _ => 0)
      (samplePlacement.pa .pml4) 0x200000 = some ⟨0x200000, true, 2 ^ 21⟩ :=
  ⟨by decide, (build_identity_maps_identity_when_packed samplePlacement _).1 0x200000 (by decide)⟩

/-! ## どの表から始めても

`build_identity` は `&mut self` の表に書くだけで、書かない欄（PML4 の項目 1..511、PML4 の項目 0 と PDPT の
項目のビット 7、空きビット）は元のまま残る。8 バイトおきの並びで 2^39 より下の表引きが元の表から受け継ぐのは、
PML4 の項目 0 と PDPT の項目のビット 7 だけである。PML4 の項目では予約されたビットなので、表引きは止まる。
PDPT の項目では 1 GiB のページの印で、ページは `pd[i]` の物理アドレスのビット 51:30 にあり、ビット 29:13 が
0 でなければ予約されたビットで止まる。 -/

/-- どの表に `build_identity` を走らせても、8 バイトおきの並びでの 2^39 より下の表引きは、元の PML4 の項目 0 の
ビット 7 が立っていれば止まり、元の PDPT の項目の large が立っていなければ 2 MiB のページでの恒等写像、
立っていれば `pd[i]` の物理アドレスのビット 29:13 が 0 のときだけ、そのビット 51:30 の 1 GiB のページである。 -/
theorem build_identity_walk_below_512_gib (pt : PageTables) (a : BitVec 64) (ha : a.toNat < 2 ^ 39) :
    walk ((buildIdentity pl pt).memory 8 pl rest) (pl.pa .pml4) a =
      if (pt.pml4.entries 0).large then none
      else if (pt.pdpt.entries (tableIndex a 30)).large then
        (if bitRange 29 13 (pl.pa (.pd (tableIndex a 30))) = 0 then
          some ⟨(pl.pa (.pd (tableIndex a 30)) &&& ~~~BitVec.ofNat 64 (2 ^ 30 - 1)) +
            (a &&& BitVec.ofNat 64 (2 ^ 30 - 1)), true, 2 ^ 30⟩
        else none)
      else some ⟨a, true, 2 ^ 21⟩ := by
  have h39 : tableIndex a 39 = 0 := Fin.ext (by simp only [tableIndex]; omega)
  have hpml4 := memory_entry (buildIdentity pl pt) 8 pl rest .pml4 a 39
  have hpdpt := memory_entry (buildIdentity pl pt) 8 pl rest .pdpt a 30
  simp only [word_packed, PageTables.table_pml4, PageTables.table_pdpt, buildIdentity_pml4, buildIdentity_pdpt,
    h39, if_true] at hpml4 hpdpt
  rw [walk]
  cases h4 : (pt.pml4.entries 0).large
  · rw [walkFrom_next 3 hpml4 (by simp) (by decide) (by simp [h4]), pfn_pointTo _ _ (pl.aligned _) (pl.bounded _)]
    cases hl : (pt.pdpt.entries (tableIndex a 30)).large
    · have hpd := memory_entry (buildIdentity pl pt) 8 pl rest (.pd (tableIndex a 30)) a 21
      rw [word_packed, PageTables.table_pd, buildIdentity_pd] at hpd
      obtain ⟨hal, hbd⟩ := largePage_aligned (tableIndex a 30) (tableIndex a 21)
      obtain ⟨hr, hf⟩ := mapLargePage_leaf _ _ hal hbd
      rw [walkFrom_next 2 hpdpt (by simp) (by decide) (by simp [hl]),
        pfn_pointTo _ _ (pl.aligned _) (pl.bounded _),
        walkFrom_page 1 hpd (by simp) (.inr ⟨by simp, .inl rfl⟩) hr, hf, large_page_address a ha]
      simp
    · have hr := reservedSet_pointTo_pdpt (pl.pa (.pd (tableIndex a 30))) (pt.pdpt.entries (tableIndex a 30))
      rw [hl, Bool.true_and] at hr
      by_cases h13 : bitRange 29 13 (pl.pa (.pd (tableIndex a 30))) = 0
      · rw [walkFrom_page 2 hpdpt (by simp) (.inr ⟨by simp [hl], .inr rfl⟩) (by rw [hr, h13]; rfl),
          frame_pointTo _ _ (pl.aligned _) (pl.bounded _), if_pos h13]
        simp [hl]
      · rw [walkFrom_reserved 2 hpdpt (by simp) (by rw [hr]; exact bne_iff_ne.2 h13), if_neg h13]
        simp [hl]
  · exact walkFrom_reserved 3 hpml4 (by simp) (by simp [Entry.reservedSet, h4])

/-- 0 で埋めた表の、PDPT のどの項目にも large を立てたもの。 -/
def staleTables : PageTables := { PageTables.zeroed with pdpt := ⟨fun _ => ⟨0x80⟩⟩ }

/-- 例の置き方では `pd[0]` は 0x3000 にあり、ビット 13 が立つので、1 GiB の項目は予約されたビットで止まる。 -/
theorem build_identity_walk_below_512_gib_stale :
    (0x200000 : BitVec 64).toNat < 2 ^ 39 ∧
    walk ((buildIdentity samplePlacement staleTables).memory 8 samplePlacement fun _ => 0)
      (samplePlacement.pa .pml4) 0x200000 = none :=
  ⟨by decide, (build_identity_walk_below_512_gib samplePlacement _ staleTables 0x200000 (by decide)).trans (by decide)⟩

/-- `build_identity` をもう一度走らせても表は変わらない。書く値は元の項目によらず、同じ欄に同じ値を書き直す
だけである。 -/
theorem build_identity_idempotent (pt : PageTables) :
    buildIdentity pl (buildIdentity pl pt) = buildIdentity pl pt := by
  refine PageTables.ext_entries (fun k => ?_) (fun i => ?_) (fun i j => ?_)
  · by_cases hk : k = 0 <;> simp [buildIdentity_pml4, hk, pointTo_pointTo]
  · rw [buildIdentity_pdpt, buildIdentity_pdpt, pointTo_pointTo]
  · rw [buildIdentity_pd, buildIdentity_pd, mapLargePage_mapLargePage]

end Hypervisor
