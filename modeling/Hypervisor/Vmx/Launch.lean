import Hypervisor.Vmx.Lemmas.Launch
import Hypervisor.Vmx.Theorems

/-!
# `launch_vm` に渡る状態

`run` が `launch_vm` を呼ぶのは、IA32_FEATURE_CONTROL が VMXON を許し、二つの領域の物理アドレスが 0 でなく、
三つの VMX 命令が成功し、ゲストのセレクタがどれも今の GDT の中を指すときだけである。そのとき VMCS は、コードが
書くフィールドについて VM entry の検査（SDM 27.2、27.3）を満たし、ゲストは捕らえた `Context` の続きから、
ホストと同じ CR0、CR3、CR4 で走る。

各段の結果は `Lemmas/Launch.lean` に置く。
-/

namespace Hypervisor

variable (p : Platform)

/-! ## `launch_vm` まで進む条件 -/

/-- `run` が `launch_vm` を呼ぶ条件：VMX を有効にして VMCS を選べ、ゲストのセレクタがどれも番号 0 か、今の GDT
の中を指す。 -/
structure LaunchConditions (s : State) extends VmcsLoadConditions p s : Prop where
  segments : ∀ sel ∈ guestSelectors s.vmx.context s.cpu, sel.toNat / 8 = 0 ∨ sel.toNat / 8 < gdtEntryCount s.cpu

theorem beforeLaunch_ok (s : State) (h : LaunchConditions p s) : ∃ t, beforeLaunch p s = (.ok (), t) := by
  have hseg := h.segments
  rw [← vmcsLoaded_guestSelectors p, ← vmcsLoaded_gdtEntryCount p] at hseg
  obtain ⟨t, ht⟩ := (writeStages_fst_eq_ok p (vmcsLoaded p s)).2 hseg
  exact ⟨t, by rw [beforeLaunch_eq, Prog.bind_ok (loadVmcs_ok p s h.toVmcsLoadConditions), ht]⟩

/-- `run` が `launch_vm` の前の段を `Ok` で終えるのは、`LaunchConditions` が成り立つときだけである。ホスト状態と
制御フィールドの段は panic しない（`limit + 1` を 2^16 で回す release のビルドで）。 -/
theorem run_reaches_launch_iff (s : State) : (∃ t, beforeLaunch p s = (.ok (), t)) ↔ LaunchConditions p s := by
  refine ⟨fun ⟨t, ht⟩ => ?_, beforeLaunch_ok p s⟩
  rw [beforeLaunch_eq] at ht
  obtain ⟨_, u, hu, hw⟩ := Prog.bind_eq_ok ht
  obtain ⟨hc, rfl⟩ := loadVmcs_eq_ok p hu
  have hseg := (writeStages_fst_eq_ok p (vmcsLoaded p s)).1 ⟨t, hw⟩
  rw [vmcsLoaded_guestSelectors, vmcsLoaded_gdtEntryCount] at hseg
  exact ⟨hc, hseg⟩

theorem sampleState_launchConditions : LaunchConditions samplePlatform sampleState := by
  have hsel : guestSelectors sampleState.vmx.context sampleState.cpu = List.replicate 8 0 := rfl
  refine ⟨⟨by decide, by decide, rfl, by decide, rfl, rfl⟩, fun sel h => .inl ?_⟩
  rw [hsel, List.mem_replicate] at h
  rw [h.2]
  rfl

theorem sampleState_beforeLaunch :
    beforeLaunch samplePlatform sampleState = (.ok (), (beforeLaunch samplePlatform sampleState).2) :=
  (beforeLaunch_ok samplePlatform sampleState sampleState_launchConditions).elim
    fun _ => Prog.eq_ok_snd (beforeLaunch samplePlatform) sampleState

/-! ## ホストの CS と TR のセレクタ

`HostGdt` は TR を 0 でなくするためにある（コードの注釈が引く SDM 27.2.3「CS と TR のセレクタのフィールドは
0000H であってはならない」）。`SELECTOR_MASK` は番号の下位 5 ビットしか残さないので、この検査が成り立つのは
番号を 32 で割った余りが 0 でないときである。 -/

theorem testBit_248 (i : Nat) : Nat.testBit 248 i = decide (3 ≤ i ∧ i < 8) := by
  rcases (by omega : i < 8 ∨ 8 ≤ i) with h | h
  · interval_cases i <;> rfl
  · rw [Nat.testBit_lt_two_pow (lt_of_lt_of_le (by decide : 248 < 2 ^ 8) (Nat.pow_le_pow_right (by decide) h))]
    exact (decide_eq_false (by omega)).symm

/-- `SELECTOR_MASK` と交わしたセレクタは、番号の下位 5 ビットを 8 倍したものである。 -/
theorem selectorMask_toNat (x : BitVec 16) : (x &&& SELECTOR_MASK).toNat = 8 * (x.toNat / 8 % 32) := by
  rw [BitVec.toNat_and, show SELECTOR_MASK.toNat = 248 from rfl]
  apply Nat.eq_of_testBit_eq
  intro i
  rw [Nat.testBit_land, show 8 * (x.toNat / 8 % 32) = 2 ^ 3 * (x.toNat >>> 3 % 2 ^ 5) by
    rw [Nat.shiftRight_eq_div_pow]; rfl, Nat.testBit_mul_pow_two, Nat.testBit_mod_two_pow, Nat.testBit_shiftRight,
    testBit_248]
  by_cases h3 : 3 ≤ i
  · rw [Nat.add_sub_cancel' h3]
    by_cases h8 : i < 8 <;> simp [h3, h8, show i - 3 < 5 ↔ i < 8 by omega]
  · simp [h3]

theorem selectorMask_ne_zero_iff (x : BitVec 16) :
    (x &&& SELECTOR_MASK).setWidth 64 ≠ 0 ↔ x.toNat / 8 % 32 ≠ 0 := by
  have h0 : (0 : BitVec 64).toNat = 0 := rfl
  rw [ne_eq, BitVec.toNat_eq, BitVec.toNat_setWidth, selectorMask_toNat, h0]
  omega

/-- 上限 `l` の GDT を写したときの TR のセレクタが 0 でないのは、今の項目の数を 32 で割った余りが 0 でないとき。 -/
theorem trSelector_ne_zero_iff (l : BitVec 16) :
    (BitVec.ofNat 16 (8 * ((l + 1).toNat / 8)) &&& SELECTOR_MASK).setWidth 64 ≠ 0 ↔ (l + 1).toNat / 8 % 32 ≠ 0 := by
  have hn := (l + 1).isLt
  rw [selectorMask_ne_zero_iff, BitVec.toNat_ofNat, show 8 * ((l + 1).toNat / 8) % 2 ^ 16 / 8 = (l + 1).toNat / 8 by omega]

/-- `run` が `launch_vm` に渡す VMCS のホストの CS のセレクタは今の CS を、TR のセレクタは写した GDT の最後の項目
（TSS の記述子）の番号を、`SELECTOR_MASK` と交わしたものである。 -/
theorem beforeLaunch_hostCsTr (s : State) {t : State} (ht : beforeLaunch p s = (.ok (), t)) :
    t.cpu.vmcs Host.CS_SELECTOR = (s.cpu.cs &&& SELECTOR_MASK).setWidth 64 ∧
    t.cpu.vmcs Host.TR_SELECTOR = (BitVec.ofNat 16 (8 * ((s.cpu.gdtr.limit + 1).toNat / 8)) &&& SELECTOR_MASK).setWidth 64 := by
  obtain ⟨-, g, hgdt, hg, -⟩ := beforeLaunch_eq_ok p ht
  have hcs : t.cpu.vmcs Host.CS_SELECTOR = (g.cs &&& SELECTOR_MASK).setWidth 64 := vmcs_of_lastWrite hg _ rfl
  have htr : t.cpu.vmcs Host.TR_SELECTOR = (g.tr &&& SELECTOR_MASK).setWidth 64 := vmcs_of_lastWrite hg _ rfl
  have hn := (s.cpu.gdtr.limit + 1).isLt
  simp only [HostGdt.initializeFromCurrent, List.length_append, readDescriptorTable_length,
    List.length_singleton] at hgdt
  rw [if_pos (by omega)] at hgdt
  obtain rfl := Option.some.inj hgdt
  have hc : (vmcsLoaded p s).cpu.cs = s.cpu.cs ∧ (vmcsLoaded p s).cpu.gdtr = s.cpu.gdtr := ⟨rfl, rfl⟩
  rw [hcs, htr, segmentSelector_new_last, hc.1, hc.2]
  exact ⟨rfl, rfl⟩

/-- `run` が `launch_vm` に渡す VMCS のホストの CS のセレクタが 0 でないのは、今の CS の番号を 32 で割った余りが
0 でないときに限る。TR のセレクタが 0 でないのは、写した GDT の今の項目の数（`limit + 1` を u16 で回して 8 で
割ったもの）を 32 で割った余りが 0 でないときに限る。 -/
theorem run_host_cs_tr_selectors_nonzero_iff (s : State) {t : State} (ht : beforeLaunch p s = (.ok (), t)) :
    (t.cpu.vmcs Host.CS_SELECTOR ≠ 0 ↔ s.cpu.cs.toNat / 8 % 32 ≠ 0) ∧
    (t.cpu.vmcs Host.TR_SELECTOR ≠ 0 ↔ (s.cpu.gdtr.limit + 1).toNat / 8 % 32 ≠ 0) := by
  obtain ⟨hcs, htr⟩ := beforeLaunch_hostCsTr p s ht
  rw [hcs, htr]
  exact ⟨selectorMask_ne_zero_iff _, trSelector_ne_zero_iff _⟩

theorem run_host_cs_tr_selectors_nonzero_iff_sample :
    beforeLaunch samplePlatform sampleState = (.ok (), (beforeLaunch samplePlatform sampleState).2) ∧
    ((beforeLaunch samplePlatform sampleState).2.cpu.vmcs Host.CS_SELECTOR ≠ 0 ↔ sampleState.cpu.cs.toNat / 8 % 32 ≠ 0) ∧
    ((beforeLaunch samplePlatform sampleState).2.cpu.vmcs Host.TR_SELECTOR ≠ 0 ↔
      (sampleState.cpu.gdtr.limit + 1).toNat / 8 % 32 ≠ 0) :=
  ⟨sampleState_beforeLaunch, run_host_cs_tr_selectors_nonzero_iff _ _ sampleState_beforeLaunch⟩

/-- 項目の数が 32 の倍数の一つ、GDTR の上限が 0xFFFF（8192 項目の GDT）の場合：`limit + 1` が u16 で 0 に回り、
`init_host_register_state` の写しは TSS の記述子だけで、TR は 0 になり、VMCS のホストの TR セレクタにも 0 が
書かれる。 -/
theorem host_gdt_wraps_at_full_gdt (s : State) (h : s.cpu.gdtr.limit = 0xFFFF) :
    (initHostRegisterState p s).1 = .ok () ∧
    (initHostRegisterState p s).2.vmx.hostGdt.gdt = [taskSegmentDescriptor s.vmx.hostGdt.tss] ∧
    (initHostRegisterState p s).2.vmx.hostGdt.tr = 0 ∧
    (initHostRegisterState p s).2.cpu.vmread Host.TR_SELECTOR = 0 := by
  have hz : ((0 : BitVec 16) &&& SELECTOR_MASK).setWidth 64 = 0 := by decide
  rw [initHostRegisterState_some p s (initializeFromCurrent_wrap _ _ _ h)]
  exact ⟨rfl, rfl, rfl, (hostStateWrites_selectors p.flags _ s.cpu s.cpu.vmcs).2.2.2.2.2.2.trans hz⟩

/-! ## VM entry の検査 -/

/-- `v` は固定ビットのあいだにある：FIXED0 のビットは立ち、FIXED1 にないビットは立たない。 -/
def FixedWithin (msr : BitVec 32 → BitVec 64) (fixed0 fixed1 : BitVec 32) (v : BitVec 64) : Prop :=
  BitsIn (msr fixed0) v ∧ BitsIn v (msr fixed1)

/-- VM entry の検査（SDM 27.2、27.3）のうち、VMX の状態、ホスト状態と制御のフィールド、能力 MSR で決まるもの。
プロセッサは VMX の中にあり、0 でない物理アドレスの VMCS が現在の VMCS で、ホストの CR0、CR4 は固定ビットの
あいだにあり、ホストの CR4 は VMXE を持ち、ホストのセレクタは RPL と TI が 0 で、CS と TR のセレクタは
0 でなく（SDM 27.2.3）、五つの制御フィールドは能力 MSR の範囲にある。 -/
structure HostReady (c : Cpu) : Prop where
  vmxOperation : c.vmxOperation = true
  currentVmcs : ∃ pa, pa ≠ 0 ∧ c.currentVmcs = some pa
  hostCr0 : FixedWithin c.msr Msr.IA32_VMX_CR0_FIXED0 Msr.IA32_VMX_CR0_FIXED1 (c.vmcs Host.CR0)
  hostCr4 : FixedWithin c.msr Msr.IA32_VMX_CR4_FIXED0 Msr.IA32_VMX_CR4_FIXED1 (c.vmcs Host.CR4)
  hostVmxe : BitsIn CR4_ENABLE_VMX (c.vmcs Host.CR4)
  hostSelectors : ∀ g ∈ hostSelectorFields, c.vmcs g &&& 7 = 0
  hostCsTr : c.vmcs Host.CS_SELECTOR ≠ 0 ∧ c.vmcs Host.TR_SELECTOR ≠ 0
  controls : ∀ w ∈ controlRequests, WithinCapabilities (selectedCapabilities c.msr w.2.1) w.2.2 (c.vmcs w.1)

/-- VM entry の検査のうち、コードが書く VMCS のフィールドで決まるもの：`HostReady` に加え、ゲストの CR0、CR4 は
固定ビットのあいだにあり、VMCS のリンクポインタはすべて 1。 -/
structure EntryReady (c : Cpu) extends HostReady c : Prop where
  guestCr0 : FixedWithin c.msr Msr.IA32_VMX_CR0_FIXED0 Msr.IA32_VMX_CR0_FIXED1 (c.vmcs Guest.CR0)
  guestCr4 : FixedWithin c.msr Msr.IA32_VMX_CR4_FIXED0 Msr.IA32_VMX_CR4_FIXED1 (c.vmcs Guest.CR4)
  linkPointer : c.vmcs Guest.LINK_PTR_FULL = BitVec.allOnes 64

/-- SDM が保証する能力 MSR の形：固定ビットは `ConsistentFixedBits` の形で、どの制御の能力 MSR も
allowed0 ⊆ allowed1 である。 -/
structure VmxCapabilities (f : ControlRegisterFlags) (msr : BitVec 32 → BitVec 64) : Prop where
  fixedBits : ConsistentFixedBits f msr
  controls : ∀ k, BitsIn (allowed0 (selectedCapabilities msr k)) (allowed1 (selectedCapabilities msr k))

theorem truncate_fixupControlRegister (m cr f0 f1 : BitVec 64) :
    fixupControlRegister (· &&& m) cr f0 f1 &&& m = fixupControlRegister (· &&& m) cr f0 f1 := by
  simp only [fixupControlRegister, BitVec.and_assoc, BitVec.and_self]

/-- `SELECTOR_MASK` と交わしたセレクタは、RPL（ビット 1:0）と TI（ビット 2）が 0 である。 -/
theorem selectorMask_rpl_ti (x : BitVec 16) : (x &&& SELECTOR_MASK).setWidth 64 &&& 7 = 0 := by
  have h : ∀ i : Fin 64, (SELECTOR_MASK.getLsbD i && (7 : BitVec 64).getLsbD i) = false := by decide
  apply BitVec.eq_of_getLsbD_eq
  intro i
  have hi := h i
  simp only [BitVec.getLsbD_and, BitVec.getLsbD_setWidth]
  revert hi
  cases SELECTOR_MASK.getLsbD i <;> cases (7 : BitVec 64).getLsbD i <;> simp

/-- VMXON の前に合わせた CR0 と CR4 は、型のフラグに収まる。 -/
theorem vmcsLoaded_truncate (s : State) :
    p.flags.truncateCr0 (vmcsLoaded p s).cpu.cr0 = (vmcsLoaded p s).cpu.cr0 ∧
    p.flags.truncateCr4 (vmcsLoaded p s).cpu.cr4 = (vmcsLoaded p s).cpu.cr4 := by
  rw [vmcsLoaded_cr0, vmcsLoaded_cr4]
  exact ⟨truncate_fixupControlRegister _ _ _ _, truncate_fixupControlRegister _ _ _ _⟩

/-- 固定ビットが `ConsistentFixedBits` の形なら、VMXON の前に合わせた CR0 と CR4 は固定ビットのあいだにあり、
CR4 は VMXE を持つ。 -/
theorem vmcsLoaded_controlRegisters (s : State) (h : ConsistentFixedBits p.flags s.cpu.msr) :
    FixedWithin (vmcsLoaded p s).cpu.msr Msr.IA32_VMX_CR0_FIXED0 Msr.IA32_VMX_CR0_FIXED1 (vmcsLoaded p s).cpu.cr0 ∧
    FixedWithin (vmcsLoaded p s).cpu.msr Msr.IA32_VMX_CR4_FIXED0 Msr.IA32_VMX_CR4_FIXED1 (vmcsLoaded p s).cpu.cr4 ∧
    BitsIn CR4_ENABLE_VMX (vmcsLoaded p s).cpu.cr4 := by
  have hm : ∀ m, m ≠ Msr.IA32_FEATURE_CONTROL → (vmcsLoaded p s).cpu.msr m = s.cpu.msr m := fun m hm => by
    rw [vmcsLoaded_msr, Function.update_noteq hm]
  unfold FixedWithin
  rw [hm Msr.IA32_VMX_CR0_FIXED0 (by decide), hm Msr.IA32_VMX_CR0_FIXED1 (by decide),
    hm Msr.IA32_VMX_CR4_FIXED0 (by decide), hm Msr.IA32_VMX_CR4_FIXED1 (by decide), vmcsLoaded_cr0, vmcsLoaded_cr4]
  exact ⟨fixupControlRegister_within _ h.cr0 h.cr0_flags, fixupControlRegister_within _ h.cr4 h.cr4_flags,
    fixupControlRegister_keeps _ (BitsIn.or_right _ _) p.flags.cr4_enable_vmx h.vmxe⟩

theorem selectedCapabilities_vmcsLoaded (s : State) (k : VmxControl) :
    selectedCapabilities (vmcsLoaded p s).cpu.msr k = selectedCapabilities s.cpu.msr k := by
  have hb : (vmcsLoaded p s).cpu.msr Msr.IA32_VMX_BASIC = s.cpu.msr Msr.IA32_VMX_BASIC := by
    rw [vmcsLoaded_msr, Function.update_noteq (by decide)]
  rw [selectedCapabilities, selectedCapabilities, hb, vmcsLoaded_msr]
  exact Function.update_noteq (by cases k <;> cases (s.cpu.msr Msr.IA32_VMX_BASIC).getLsbD 55 <;> decide) _ _

/-- VMPTRLD のあと三つの段が書いた VMCS は、ホストの CS と TR のセレクタが 0 でなければ、VM entry の検査を
満たす。 -/
theorem entryReady_of_writes (s : State) (hcap : VmxCapabilities p.flags s.cpu.msr) (hc : VmcsLoadConditions p s)
    {gdt : HostGdt} {c : Cpu}
    (h : vmwriteAll (vmcsWrites p.flags s.vmx.context gdt (vmcsLoaded p s).cpu) (vmcsLoaded p s).cpu = (.ok (), c))
    (hcstr : c.vmcs Host.CS_SELECTOR ≠ 0 ∧ c.vmcs Host.TR_SELECTOR ≠ 0) :
    EntryReady c := by
  obtain ⟨h0, h4⟩ := vmcsLoaded_truncate p s
  obtain ⟨h0f, h4f, hvmxe⟩ := vmcsLoaded_controlRegisters p s hcap.fixedBits
  obtain ⟨hw0, -, hw4⟩ := vmcsWrites_controlRegisters p.flags s.vmx.context gdt (vmcsLoaded p s).cpu
  have hframe := (vmwriteAll_eq_ok h).1
  have hmsr : c.msr = (vmcsLoaded p s).cpu.msr := by rw [hframe]
  have hcr0 : ∀ g ∈ [Guest.CR0, Host.CR0],
      FixedWithin c.msr Msr.IA32_VMX_CR0_FIXED0 Msr.IA32_VMX_CR0_FIXED1 (c.vmcs g) := fun g hg => by
    rw [vmcs_of_lastWrite h g (hw0 g (List.mem_append_left _ hg)), h0, hmsr]
    exact h0f
  have hcr4 : ∀ g ∈ [Guest.CR4, Host.CR4],
      FixedWithin c.msr Msr.IA32_VMX_CR4_FIXED0 Msr.IA32_VMX_CR4_FIXED1 (c.vmcs g) := fun g hg => by
    rw [vmcs_of_lastWrite h g (hw4 g (List.mem_append_left _ hg)), h4, hmsr]
    exact h4f
  refine ⟨⟨by rw [hframe]; rfl, ⟨_, hc.vmcsAddress, by rw [hframe]; rfl⟩, hcr0 _ (by simp), hcr4 _ (by simp), ?_,
    fun g hg => ?_, hcstr, fun w hw => ?_⟩, hcr0 _ (by simp), hcr4 _ (by simp),
    vmcs_of_lastWrite h _ (vmcsWrites_guest _ _ _ _).2.2⟩
  · rw [vmcs_of_lastWrite h Host.CR4 (hw4 _ (by simp)), h4]
    exact hvmxe
  · obtain ⟨x, hx⟩ := vmcsWrites_hostSelectors p.flags s.vmx.context gdt (vmcsLoaded p s).cpu g hg
    rw [vmcs_of_lastWrite h g hx]
    exact selectorMask_rpl_ti x
  · have hcap' := hcap.controls w.2.1
    rw [← selectedCapabilities_vmcsLoaded p s] at hcap'
    obtain ⟨r, hr, hwithin⟩ := adjustVmxControls_within _ w.2.1 w.2.2 (controlRequests_fit w hw) hcap'
    rw [vmcs_of_lastWrite h w.1 ((vmcsWrites_controls _ _ _ _ w hw).trans (by rw [hr])), hmsr]
    exact hwithin

/-- 今の CS の番号と GDT の項目の数が 32 の倍数でなければ、`launch_vm` に渡る VMCS は VM entry の検査を満たす。 -/
theorem beforeLaunch_entryReady (s : State) (hcap : VmxCapabilities p.flags s.cpu.msr)
    (hcs : s.cpu.cs.toNat / 8 % 32 ≠ 0) (htr : (s.cpu.gdtr.limit + 1).toNat / 8 % 32 ≠ 0) {t : State}
    (ht : beforeLaunch p s = (.ok (), t)) : EntryReady t.cpu := by
  obtain ⟨hc, g, -, hg, -⟩ := beforeLaunch_eq_ok p ht
  obtain ⟨hcs', htr'⟩ := beforeLaunch_hostCsTr p s ht
  exact entryReady_of_writes p s hcap hc hg
    ⟨by rwa [hcs', selectorMask_ne_zero_iff], by rwa [htr', trSelector_ne_zero_iff]⟩

/-- 例の状態の能力 MSR は SDM の形で、CS は項目 1、GDT は 2 項目である。 -/
theorem sampleState_vmxCapabilities :
    VmxCapabilities samplePlatform.flags sampleState.cpu.msr ∧ sampleState.cpu.cs.toNat / 8 % 32 ≠ 0 ∧
      (sampleState.cpu.gdtr.limit + 1).toNat / 8 % 32 ≠ 0 :=
  ⟨⟨⟨by decide, by decide, by decide, by decide, by decide⟩, fun k => by cases k <;> decide⟩, by decide, by decide⟩

/-- ゲストは捕らえた `Context` の続きから走る：汎用レジスタの写しと、VMCS の RIP、RSP、RFLAGS、DR7、六つの
セグメントセレクタが `Context` のものである。 -/
structure StartsAt (ctx : Context) (regs : GuestRegisters) (vmcs : BitVec 32 → BitVec 64) : Prop where
  gprs : regs.gprs = ctx.gprs
  rip : vmcs Guest.RIP = ctx.rip
  rsp : vmcs Guest.RSP = ctx.rsp
  rflags : vmcs Guest.RFLAGS = ctx.eFlags.setWidth 64
  dr7 : vmcs Guest.DR7 = ctx.dr7
  selectors : [Guest.CS_SELECTOR, Guest.SS_SELECTOR, Guest.DS_SELECTOR, Guest.ES_SELECTOR, Guest.FS_SELECTOR,
    Guest.GS_SELECTOR].map vmcs = [ctx.segCs, ctx.segSs, ctx.segDs, ctx.segEs, ctx.segFs, ctx.segGs].map (·.setWidth 64)

/-- ゲストとホストは同じ制御レジスタで走る：ゲストとホストの CR0、CR3、CR4 と、CR0、CR4 の読み出しの影は、
VM entry の時点のプロセッサの値である。 -/
structure SharesControlRegisters (c : Cpu) : Prop where
  cr0 : ∀ g ∈ [Guest.CR0, Host.CR0, Control.CR0_READ_SHADOW], c.vmcs g = c.cr0
  cr3 : ∀ g ∈ [Guest.CR3, Host.CR3], c.vmcs g = c.cr3
  cr4 : ∀ g ∈ [Guest.CR4, Host.CR4, Control.CR4_READ_SHADOW], c.vmcs g = c.cr4

/-- `run` が `launch_vm` を呼ぶとき、ゲストは `run` の前に捕らえた `Context` の続きから、`run` の前と同じ CR3 で、
ホストと同じ制御レジスタで走る。 -/
theorem run_enters_guest_at_captured_context (s : State) {t : State} (ht : beforeLaunch p s = (.ok (), t)) :
    run p s = launchGuest p t ∧ StartsAt s.vmx.context t.vmx.registers t.cpu.vmcs ∧ SharesControlRegisters t.cpu ∧
      t.cpu.cr3 = s.cpu.cr3 := by
  refine ⟨by rw [run_eq_beforeLaunch, Prog.bind_ok ht], ?_⟩
  obtain ⟨-, g, -, hg, hregs, -⟩ := beforeLaunch_eq_ok p ht
  obtain ⟨h0, h4⟩ := vmcsLoaded_truncate p s
  obtain ⟨hw0, hw3, hw4⟩ := vmcsWrites_controlRegisters p.flags s.vmx.context g (vmcsLoaded p s).cpu
  obtain ⟨hgen, hsel, -⟩ := vmcsWrites_guest p.flags s.vmx.context g (vmcsLoaded p s).cpu
  have hframe := (vmwriteAll_eq_ok hg).1
  have hgen' := map_vmcs_of_lastWrite hg hgen
  simp only [List.map_cons, List.map_nil, List.cons.injEq, and_true] at hgen'
  obtain ⟨hrip, hrsp, hrflags, hdr7⟩ := hgen'
  refine ⟨⟨hregs, hrip, hrsp, hrflags, hdr7, map_vmcs_of_lastWrite hg hsel⟩,
    ⟨fun g' hg' => ?_, fun g' hg' => ?_, fun g' hg' => ?_⟩, (congrArg Cpu.cr3 hframe).trans (vmcsLoaded_cr3 p s)⟩
  · rw [vmcs_of_lastWrite hg g' (hw0 g' hg'), h0, hframe]
  · rw [vmcs_of_lastWrite hg g' (hw3 g' hg'), hframe]
  · rw [vmcs_of_lastWrite hg g' (hw4 g' hg'), h4, hframe]

theorem run_enters_guest_at_captured_context_sample :
    beforeLaunch samplePlatform sampleState = (.ok (), (beforeLaunch samplePlatform sampleState).2) ∧
    run samplePlatform sampleState = launchGuest samplePlatform (beforeLaunch samplePlatform sampleState).2 ∧
      StartsAt sampleState.vmx.context (beforeLaunch samplePlatform sampleState).2.vmx.registers
        (beforeLaunch samplePlatform sampleState).2.cpu.vmcs ∧
      SharesControlRegisters (beforeLaunch samplePlatform sampleState).2.cpu ∧
      (beforeLaunch samplePlatform sampleState).2.cpu.cr3 = sampleState.cpu.cr3 :=
  ⟨sampleState_beforeLaunch, run_enters_guest_at_captured_context _ _ sampleState_beforeLaunch⟩

end Hypervisor
