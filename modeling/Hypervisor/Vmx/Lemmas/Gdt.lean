import Hypervisor.Vmx.Gdt

/-!
# `unpack_gdt_entry` のビット

結果の基底、上限、アクセス権の各ビットが、GDT の項目のどのフィールドのどのビットから来るかを述べる。
-/

namespace Hypervisor

/-! ## マスクのビット -/

theorem getLsbD_0x0f (i : Nat) : (0x0f : BitVec 64).getLsbD i = decide (i < 4) := by
  rcases Nat.lt_or_ge i 64 with h | h
  · exact (by decide : ∀ j : Fin 64, (0x0f : BitVec 64).getLsbD j = decide (j.val < 4)) ⟨i, h⟩
  · simp [BitVec.getLsbD_ge _ _ h]; omega

theorem getLsbD_0xf0 (i : Nat) : (0xf0 : BitVec 8).getLsbD i = decide (4 ≤ i ∧ i < 8) := by
  rcases Nat.lt_or_ge i 8 with h | h
  · exact (by decide : ∀ j : Fin 8, (0xf0 : BitVec 8).getLsbD j = decide (4 ≤ j.val ∧ j.val < 8)) ⟨i, h⟩
  · simp [BitVec.getLsbD_ge _ _ h]; omega

theorem getLsbD_0xf0ff (i : Nat) : (0xf0ff : BitVec 32).getLsbD i = (decide (i < 8) || decide (12 ≤ i ∧ i < 16)) := by
  rcases Nat.lt_or_ge i 32 with h | h
  · exact (by decide : ∀ j : Fin 32,
      (0xf0ff : BitVec 32).getLsbD j = (decide (j.val < 8) || decide (12 ≤ j.val ∧ j.val < 16))) ⟨i, h⟩
  · simp [BitVec.getLsbD_ge _ _ h]; omega

theorem getLsbD_unusable (i : Nat) : VMX_INFO_SEGMENT_UNUSABLE.getLsbD i = decide (i = 16) := by
  rcases Nat.lt_or_ge i 32 with h | h
  · exact (by decide : ∀ j : Fin 32, VMX_INFO_SEGMENT_UNUSABLE.getLsbD j = decide (j.val = 16)) ⟨i, h⟩
  · simp [BitVec.getLsbD_ge _ _ h]; omega

/-! ## 項目のフィールドから結果へ -/

section Fields

variable (e : GdtEntry) (i : Nat)

theorem unpackedBase_getLsbD :
    ((e.baseHigh.setWidth 64 <<< 24) ||| (e.baseMiddle.setWidth 64 <<< 16) ||| e.baseLow.setWidth 64).getLsbD i =
      if i < 16 then e.baseLow.getLsbD i else if i < 24 then e.baseMiddle.getLsbD (i - 16)
      else if i < 32 then e.baseHigh.getLsbD (i - 24) else false := by
  simp only [BitVec.getLsbD_or, BitVec.getLsbD_shiftLeft, BitVec.getLsbD_setWidth]
  split_ifs <;> simp (disch := omega) [*, BitVec.getLsbD_ge, decide_eq_true, decide_eq_false]

theorem unpackedLimit_getLsbD :
    (e.limitLow.setWidth 64 ||| ((e.granularity.setWidth 64 &&& 0x0f) <<< 16)).getLsbD i =
      if i < 16 then e.limitLow.getLsbD i else if i < 20 then e.granularity.getLsbD (i - 16) else false := by
  simp only [BitVec.getLsbD_or, BitVec.getLsbD_and, BitVec.getLsbD_shiftLeft, BitVec.getLsbD_setWidth, getLsbD_0x0f]
  split_ifs <;> simp (disch := omega) [*, BitVec.getLsbD_ge, decide_eq_true, decide_eq_false]

theorem unpackedAccessRights_getLsbD :
    ((e.access.setWidth 32 ||| ((e.granularity &&& 0xf0).setWidth 32 <<< 8)) &&& 0xf0ff).getLsbD i =
      if i < 8 then e.access.getLsbD i else if 12 ≤ i ∧ i < 16 then e.granularity.getLsbD (i - 8) else false := by
  simp only [BitVec.getLsbD_or, BitVec.getLsbD_and, BitVec.getLsbD_shiftLeft, BitVec.getLsbD_setWidth,
    getLsbD_0xf0ff, getLsbD_0xf0]
  split_ifs <;> simp (disch := omega) [*, BitVec.getLsbD_ge, decide_eq_true, decide_eq_false]

theorem present_eq_zero_iff : e.access &&& GDT_ENTRY_ACCESS_PRESENT = 0 ↔ e.access.getLsbD 7 = false := by
  rw [show GDT_ENTRY_ACCESS_PRESENT = BitVec.twoPow 8 7 by decide, BitVec.ofNat_eq_ofNat,
    and_twoPow_eq_zero_iff _ (by decide)]

/-- 存在しない項目では使用不可のビット 16 が立つ。 -/
theorem unpackedAccessRights_present_getLsbD :
    (let ar := (e.access.setWidth 32 ||| ((e.granularity &&& 0xf0).setWidth 32 <<< 8)) &&& 0xf0ff
     if e.access &&& GDT_ENTRY_ACCESS_PRESENT = 0 then ar ||| VMX_INFO_SEGMENT_UNUSABLE else ar).getLsbD i =
      if i < 8 then e.access.getLsbD i else if 12 ≤ i ∧ i < 16 then e.granularity.getLsbD (i - 8)
      else if i = 16 then !e.access.getLsbD 7 else false := by
  by_cases hp : e.access.getLsbD 7
  · rw [if_neg ((present_eq_zero_iff e).not.2 (by simp [hp])), unpackedAccessRights_getLsbD, hp]
    split_ifs <;> rfl
  · rw [if_pos ((present_eq_zero_iff e).2 (by simpa using hp)), BitVec.getLsbD_or, unpackedAccessRights_getLsbD,
      getLsbD_unusable]
    split_ifs <;> simp_all <;> omega

end Fields

/-! ## TSS の記述子 -/

/-- 記述子のうち TSS の番地によらないビット：上限 103（ビット 2:0 と 6:5）、種類 9（ビット 40 と 43）、P（ビット 47）。 -/
theorem getLsbD_tssFixed (i : Nat) :
    (0x890000000067#64).getLsbD i = decide (i = 0 ∨ i = 1 ∨ i = 2 ∨ i = 5 ∨ i = 6 ∨ i = 40 ∨ i = 43 ∨ i = 47) := by
  rcases Nat.lt_or_ge i 64 with h | h
  · exact (by decide : ∀ j : Fin 64, (0x890000000067#64).getLsbD j =
      decide (j.val = 0 ∨ j.val = 1 ∨ j.val = 2 ∨ j.val = 5 ∨ j.val = 6 ∨ j.val = 40 ∨ j.val = 43 ∨ j.val = 47)) ⟨i, h⟩
  · simp [BitVec.getLsbD_ge _ _ h]; omega

/-- `task_segment_descriptor` は、番地のビット 31:24 を 63:56 に、23:0 を 39:16 に置き、残りは定数である。 -/
theorem taskSegmentDescriptor_eq (tss : TaskStateSegment) : taskSegmentDescriptor tss =
    ((tss.address.extractLsb' 24 8).setWidth 64 <<< 56) ||| ((tss.address.extractLsb' 0 24).setWidth 64 <<< 16) |||
      0x890000000067#64 := by
  have hK : ((104 - 1 : BitVec 64).extractLsb' 16 4).setWidth 64 <<< 48 ||| 0x800000000000 ||| 0x90000000000 |||
      ((104 - 1 : BitVec 64) &&& 0xFFFF) = 0x890000000067#64 := by decide
  rw [← hK]
  apply BitVec.eq_of_getLsbD_eq
  intro i
  simp only [taskSegmentDescriptor, BitVec.getLsbD_or]
  ac_rfl

/-- TSS の記述子を GDT の項目として読む：上限 103、番地の下位 32 ビットの基底、access 0x89、granularity 0。 -/
theorem ofBits_taskSegmentDescriptor (tss : TaskStateSegment) : GdtEntry.ofBits (taskSegmentDescriptor tss) =
    ⟨103, tss.address.extractLsb' 0 16, tss.address.extractLsb' 16 8, 0x89, 0, tss.address.extractLsb' 24 8⟩ := by
  have h0 : (0x890000000067#64).extractLsb' 0 16 = 103 := by decide
  have h40 : (0x890000000067#64).extractLsb' 40 8 = 0x89 := by decide
  have h48 : (0x890000000067#64).extractLsb' 48 8 = 0 := by decide
  rw [← h0, ← h40, ← h48, taskSegmentDescriptor_eq]
  simp only [GdtEntry.ofBits, GdtEntry.mk.injEq]
  refine ⟨?_, ?_, ?_, ?_, ?_, ?_⟩ <;> apply BitVec.eq_of_getLsbD_eq <;> intro ⟨i, hi⟩ <;>
    simp (disch := omega) only [BitVec.getLsbD_extractLsb', BitVec.getLsbD_or, BitVec.getLsbD_shiftLeft,
      BitVec.getLsbD_setWidth, getLsbD_tssFixed, decide_eq_true, decide_eq_false, hi, Bool.true_and, Bool.false_and,
      Bool.and_false, Bool.or_false, Bool.false_or, Bool.not_true, Bool.not_false, Bool.and_true]
  all_goals
    simp only [decide_True, Bool.true_and]
    congr 1
    omega

/-! ## `unpack_gdt_entry` -/

theorem unpackGdtEntry_zero (gdt : List GdtEntry) {selector : BitVec 16} (h : selector.toNat / 8 = 0) :
    unpackGdtEntry gdt selector = some { accessRights := VMX_INFO_SEGMENT_UNUSABLE } := by
  simp [unpackGdtEntry, h]

/-- 番号が表の外なら `gdt[index]` が panic する。 -/
theorem unpackGdtEntry_out_of_range (gdt : List GdtEntry) {selector : BitVec 16} (h0 : 0 < selector.toNat / 8)
    (h : gdt.length ≤ selector.toNat / 8) : unpackGdtEntry gdt selector = none := by
  simp [unpackGdtEntry, Nat.pos_iff_ne_zero.1 h0, List.getElem?_eq_none h]

/-- `u` は項目 `e` とセレクタから作った結果である。基底は base_high:base_middle:base_low の 32 ビット、上限は
granularity の下位 4 ビットと limit_low の 20 ビット、アクセス権は access バイトと granularity の上位 4 ビットで、
存在しなければ使用不可のビット 16 が立つ。 -/
def UnpackedFrom (e : GdtEntry) (selector : BitVec 16) (u : UnpackedGdtEntry) : Prop :=
  u.selector = selector ∧
  (∀ i, u.base.getLsbD i = if i < 16 then e.baseLow.getLsbD i else if i < 24 then e.baseMiddle.getLsbD (i - 16)
    else if i < 32 then e.baseHigh.getLsbD (i - 24) else false) ∧
  (∀ i, u.limit.getLsbD i =
    if i < 16 then e.limitLow.getLsbD i else if i < 20 then e.granularity.getLsbD (i - 16) else false) ∧
  (∀ i, u.accessRights.getLsbD i =
    if i < 8 then e.access.getLsbD i else if 12 ≤ i ∧ i < 16 then e.granularity.getLsbD (i - 8)
    else if i = 16 then !e.access.getLsbD 7 else false)

theorem unpackGdtEntry_bits (gdt : List GdtEntry) {selector : BitVec 16} {e : GdtEntry} (h0 : 0 < selector.toNat / 8)
    (he : gdt[selector.toNat / 8]? = some e) :
    ∃ u, unpackGdtEntry gdt selector = some u ∧ UnpackedFrom e selector u := by
  simp only [unpackGdtEntry, Nat.pos_iff_ne_zero.1 h0, if_false, he, Option.map_some', Option.some.injEq,
    exists_eq_left']
  exact ⟨rfl, unpackedBase_getLsbD e, unpackedLimit_getLsbD e, unpackedAccessRights_present_getLsbD e⟩

/-- TSS の記述子を `unpack_gdt_entry` で読むと、基底は番地の下位 32 ビット、上限は 103、アクセス権は 0x89
（存在する、DPL 0 の、使用可能な TSS）になる。 -/
theorem unpackGdtEntry_taskSegment (gdt : List GdtEntry) (tss : TaskStateSegment) {tr : BitVec 16}
    (h0 : 0 < tr.toNat / 8) (he : gdt[tr.toNat / 8]? = some (GdtEntry.ofBits (taskSegmentDescriptor tss))) :
    unpackGdtEntry gdt tr = some ⟨(tss.address.setWidth 32).setWidth 64, 103, 0x89, tr⟩ := by
  simp only [unpackGdtEntry, Nat.pos_iff_ne_zero.1 h0, if_false, he, Option.map_some', ofBits_taskSegmentDescriptor,
    Option.some.injEq, UnpackedGdtEntry.mk.injEq, and_true]
  refine ⟨?_, by decide, by decide⟩
  apply BitVec.eq_of_getLsbD_eq
  intro ⟨i, hi⟩
  simp (disch := omega) only [BitVec.getLsbD_extractLsb', BitVec.getLsbD_or, BitVec.getLsbD_shiftLeft,
    BitVec.getLsbD_setWidth, decide_eq_true, decide_eq_false, hi, Bool.true_and, Bool.and_true]
  rcases (by omega : i < 16 ∨ (16 ≤ i ∧ i < 24) ∨ (24 ≤ i ∧ i < 32) ∨ 32 ≤ i) with h | h | h | h <;>
    simp (disch := omega) [decide_eq_true, decide_eq_false, Nat.add_sub_cancel']

end Hypervisor
