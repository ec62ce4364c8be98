import Hypervisor.Paging.Lemmas.Entry

/-!
# `build_identity` の二つの `for` の不変条件

内側の `for` は `j` 回目に `pa + j · 2 MiB` の大きなページを置き、外側の `for` は `i` 回目に `pd[i]` を指す
PDPT の項目を置いて、内側を `pa = i · 1 GiB` から回す。どちらも回数についての帰納法で、`n` 回のあとの形を
言う。`pa` は 2^39 を超えないので、`u64` の足し算は回らない。
-/

namespace Hypervisor

theorem fold_succ {α : Type} (f : Nat → α → α) (n : Nat) (a : α) :
    Nat.fold f (n + 1) a = f n (Nat.fold f n a) := rfl

theorem Table.modify_entries (t : Table) (i j : Fin 512) (f : Entry → Entry) :
    (t.modify i f).entries j = if j = i then f (t.entries i) else t.entries j := by
  simp only [Table.modify, Function.update_apply]

/-- 内側の `for` を `m` 回回したあと：項目 `j < m` は `a + j · 2 MiB` の大きなページを指し、`pa` は
`a + m · 2 MiB` である。 -/
theorem fold_mapPdEntry (t : Table) (a : Nat) {m : Nat} (hm : m ≤ 512) :
    Nat.fold mapPdEntry m (t, BitVec.ofNat 64 a) =
      (⟨fun j => if j.val < m then mapLargePage (BitVec.ofNat 64 (a + j * 0x200000)) (t.entries j)
        else t.entries j⟩, BitVec.ofNat 64 (a + m * 0x200000)) := by
  induction m with
  | zero => rfl
  | succ m ih =>
    have hm' : m < 512 := by omega
    rw [fold_succ, ih (by omega)]
    simp only [mapPdEntry, hm', dif_pos, Prod.mk.injEq]
    constructor
    · ext j
      rw [Table.modify_entries]
      by_cases hj : j.val = m
      · obtain rfl : j = ⟨m, hm'⟩ := Fin.ext hj
        simp
      · simp only [Fin.ext_iff, hj, if_false]
        split_ifs <;> first | rfl | omega
    · apply BitVec.eq_of_toNat_eq
      simp only [BitVec.toNat_add, BitVec.toNat_ofNat, show LARGE_PAGE_SIZE.toNat = 0x200000 from rfl]
      omega

/-- 外側の `for` を `n` 回回したあと：PDPT の項目 `i < n` は `pd[i]` を指し、`pd[i]` の項目 `j` は
`i · 1 GiB + j · 2 MiB` の大きなページを指し、`pa` は `n · 1 GiB` である。 -/
theorem fold_mapPdptEntry (pl : Placement) (pdpt : Table) (pd : Fin 512 → Table) {n : Nat} (hn : n ≤ 512) :
    Nat.fold (mapPdptEntry pl) n (pdpt, pd, 0) =
      (⟨fun i => if i.val < n then pointTo (pl.pa (.pd i)) (pdpt.entries i) else pdpt.entries i⟩,
        fun i => if i.val < n then
          ⟨fun j => mapLargePage (BitVec.ofNat 64 (i * 0x40000000 + j * 0x200000)) ((pd i).entries j)⟩
          else pd i,
        BitVec.ofNat 64 (n * 0x40000000)) := by
  induction n with
  | zero => rfl
  | succ n ih =>
    have hn' : n < 512 := by omega
    rw [fold_succ, ih (by omega)]
    simp only [mapPdptEntry, hn', dif_pos, lt_irrefl, if_false, fold_mapPdEntry _ _ (le_refl 512),
      Prod.mk.injEq]
    refine ⟨?_, funext fun i => ?_, ?_⟩
    · ext i
      rw [Table.modify_entries]
      by_cases hi : i.val = n
      · obtain rfl : i = ⟨n, hn'⟩ := Fin.ext hi
        simp
      · simp only [Fin.ext_iff, hi, if_false]
        split_ifs <;> first | rfl | omega
    · rw [Function.update_apply]
      by_cases hi : i.val = n
      · obtain rfl : i = ⟨n, hn'⟩ := Fin.ext hi
        simp
      · simp only [Fin.ext_iff, hi, if_false]
        split_ifs <;> first | rfl | omega
    · exact congrArg (BitVec.ofNat 64) (by omega)

/-! ## 表の中身 -/

section Build

variable (pl : Placement) (pt : PageTables)

theorem buildIdentity_eq :
    buildIdentity pl pt = ⟨pt.pml4.modify 0 (pointTo (pl.pa .pdpt)),
      ⟨fun i => pointTo (pl.pa (.pd i)) (pt.pdpt.entries i)⟩,
      fun i => ⟨fun j => mapLargePage (BitVec.ofNat 64 (i * 0x40000000 + j * 0x200000)) ((pt.pd i).entries j)⟩⟩ := by
  unfold buildIdentity
  rw [fold_mapPdptEntry pl _ _ (le_refl 512)]
  simp

theorem buildIdentity_pml4 (k : Fin 512) :
    (buildIdentity pl pt).pml4.entries k =
      if k = 0 then pointTo (pl.pa .pdpt) (pt.pml4.entries 0) else pt.pml4.entries k :=
  Table.modify_entries _ _ _ _

theorem buildIdentity_pdpt (i : Fin 512) :
    (buildIdentity pl pt).pdpt.entries i = pointTo (pl.pa (.pd i)) (pt.pdpt.entries i) := by
  rw [buildIdentity_eq]

theorem buildIdentity_pd (i j : Fin 512) :
    ((buildIdentity pl pt).pd i).entries j =
      mapLargePage (BitVec.ofNat 64 (i * 0x40000000 + j * 0x200000)) ((pt.pd i).entries j) := by
  rw [buildIdentity_eq]

/-- 表は項目で決まる。 -/
theorem PageTables.ext_entries {a b : PageTables} (h₁ : ∀ k, a.pml4.entries k = b.pml4.entries k)
    (h₂ : ∀ i, a.pdpt.entries i = b.pdpt.entries i) (h₃ : ∀ i j, (a.pd i).entries j = (b.pd i).entries j) :
    a = b := by
  obtain ⟨_, _, _⟩ := a
  obtain ⟨_, _, _⟩ := b
  congr
  · exact Table.ext (funext h₁)
  · exact Table.ext (funext h₂)
  · exact funext fun i => Table.ext (funext (h₃ i))

/-- `pd[i]` の項目 `j` が指す番地は 2 MiB 境界にあり、52 ビットに収まる。 -/
theorem largePage_aligned (i j : Fin 512) :
    (BitVec.ofNat 64 (i.val * 0x40000000 + j.val * 0x200000)).toNat % 2 ^ 21 = 0 ∧
      (BitVec.ofNat 64 (i.val * 0x40000000 + j.val * 0x200000)).toNat < 2 ^ 52 := by
  have := i.isLt
  have := j.isLt
  simp only [BitVec.toNat_ofNat]
  omega

end Build

end Hypervisor
