import Hypervisor.Vmx.Lemmas.Entry
import Hypervisor.Vmx.Lemmas.Host
import Hypervisor.Vmx.Lemmas.Controls
import Hypervisor.Vmx.Lemmas.Gdt

/-!
# `Vmx::run` の定理

`Err` で終わった実行が残す状態、VMXON と VMPTRLD の前提、ホストのセレクタ、制御フィールドの範囲と、
`unpack_gdt_entry` が作るゲストのセグメントも言明する。各段の結果は `Lemmas/Steps.lean`、命令の前提は
`Lemmas/Entry.lean` に置く。
-/

namespace Hypervisor

/-- 例に使うプラットフォーム。x86 クレートのフラグ、恒等の物理アドレス、いつも成功する VMX 命令。 -/
def samplePlatform : Platform where
  flags := .x86
  mmGetPhysicalAddress := id
  vmxSucceeds := fun _ => true
  launchVm := fun _ r m => (0, r, m)
  gdtCloneAddress := 0

/-- 例に使う MSR：IA32_FEATURE_CONTROL はロックされて SMX の外の VMXON を許し、IA32_VMX_BASIC は版番号 4 で
ビット 55 が立ち、固定ビットと能力 MSR は今のプロセッサによくある値（どの制御でも allowed0 ⊊ allowed1）。 -/
def sampleMsrs (m : BitVec 32) : BitVec 64 :=
  if m = Msr.IA32_FEATURE_CONTROL then 0x5
  else if m = Msr.IA32_VMX_BASIC then 0xDA040000000004
  else if m = Msr.IA32_VMX_CR0_FIXED0 then 0x80000021
  else if m = Msr.IA32_VMX_CR0_FIXED1 then 0xFFFFFFFF
  else if m = Msr.IA32_VMX_CR4_FIXED0 then 0x2000
  else if m = Msr.IA32_VMX_CR4_FIXED1 then 0x3727FF
  else if m = Msr.IA32_VMX_TRUE_PINBASED_CTLS then 0x7F00000016
  else if m = Msr.IA32_VMX_TRUE_PROCBASED_CTLS then 0xFFF9FFFE04006172
  else if m = Msr.IA32_VMX_PROCBASED_CTLS2 then 0x5FFFFF00000000
  else if m = Msr.IA32_VMX_TRUE_EXIT_CTLS then 0x1FFFFFF00036DFB
  else if m = Msr.IA32_VMX_TRUE_ENTRY_CTLS then 0x3FFFF000011FB
  else 0

/-- 例に使う状態：`Vmx::new` で作った値で、VMXON 領域と VMCS 領域は 4 KiB と 8 KiB にある。GDT は 2 項目
（上限 15）で、CS は項目 1 を指し、MSR は `sampleMsrs`。 -/
def sampleState : State where
  vmx := Vmx.new 0x1000 0x2000 default
  cpu := { (default : Cpu) with msr := sampleMsrs, gdtr := ⟨15, 0⟩, cs := 8 }

variable (p : Platform)

/-! ## `Err` で終わった実行 -/

/-- `Err e` で終わった `run` が残しうるプロセッサの状態 `c`。ロックの誤りでは CR4.VMXE を立てたまま、
VMXON 領域の誤りでは CR0、CR4、IA32_FEATURE_CONTROL を変えたまま、VMCS 領域の誤りでは VMXON を
実行して VMX の中にいたまま。 -/
def RunErrorState (s : State) (e : HypervisorError) (c : Cpu) : Prop :=
  (e = .VMXBIOSLock ∧ c = { s.cpu with cr4 := p.flags.truncateCr4 s.cpu.cr4 ||| CR4_ENABLE_VMX }) ∨
  (e = .VirtualToPhysicalAddressFailed ∧ ∃ v, BitsIn (VMX_LOCK_BIT ||| VMXON_OUTSIDE_SMX) v ∧
    c = (preVmxonState p s v).cpu) ∨
  (e = .VirtualToPhysicalAddressFailed ∧ ∃ v ev pa, BitsIn (VMX_LOCK_BIT ||| VMXON_OUTSIDE_SMX) v ∧
    ev.instruction = .vmxon pa ∧ c = { (preVmxonState p s v).cpu with vmxOperation := true, log := ev :: s.cpu.log })

/-- `run` は `Err` を返す前に、それまでの段を元に戻さない。 -/
theorem run_err_keeps_earlier_steps (s : State) {e : HypervisorError} (h : (run p s).1 = .err e) :
    RunErrorState p s e (run p s).2.cpu := by
  obtain ⟨t, hrun⟩ : ∃ t, run p s = (.err e, t) := ⟨_, Prod.ext h rfl⟩
  rw [hrun]
  rw [run_eq] at hrun
  rcases Prog.bind_eq_err hrun with he | ⟨_, t₁, he, hrest⟩
  · exact (enableVmxOperation_err p he).imp id .inl
  obtain ⟨v, ev, pa, hv, hev, ht₁⟩ := enableVmxOperation_ok p he
  rcases Prog.bind_eq_err hrest with hv' | ⟨_, _, -, ha⟩
  · obtain ⟨rfl, ht⟩ := initVmcsRegion_err p hv'
    exact .inr (.inr ⟨rfl, v, ev, pa, hv, hev, ht.trans ht₁⟩)
  · exact absurd ha (afterVmptrld_noErr p _ _ _)

theorem run_err_keeps_earlier_steps_bios_lock :
    let s : State := { (default : State) with cpu.msr := fun _ => 1 }
    (run samplePlatform s).1 = .err .VMXBIOSLock ∧ RunErrorState samplePlatform s .VMXBIOSLock (run samplePlatform s).2.cpu :=
  ⟨by decide, run_err_keeps_earlier_steps _ _ (by decide)⟩

/-- ロックされ VMXON_OUTSIDE_SMX のない IA32_FEATURE_CONTROL では、`run` は `VMXBIOSLock` を返し、
CR4.VMXE は立ったまま残る。 -/
theorem run_bios_lock_leaves_vmxe :
    ∃ (p : Platform) (s : State), (run p s).1 = .err .VMXBIOSLock ∧ (run p s).2.cpu.cr4 ≠ s.cpu.cr4 :=
  ⟨samplePlatform, { (default : State) with cpu.msr := fun _ => 1 }, by decide⟩

/-! ## VMXON と VMPTRLD の前提 -/

/-- 固定ビットが SDM の形なら、`run` が実行する VMX 命令はどれも前提を満たす。VMXON の時点で
CR4.VMXE が立ち、CR0 と CR4 は固定ビットのあいだにあり、IA32_FEATURE_CONTROL はロックされ、
VMXON 領域の版番号は正しい。VMPTRLD の直前には同じ 0 でない物理アドレスへの VMCLEAR があり、
VMCS 領域の版番号は正しい。 -/
theorem run_vmx_entry_preconditions (s : State) (h : ConsistentFixedBits p.flags s.cpu.msr) :
    ∃ new, (run p s).2.cpu.log = new ++ s.cpu.log ∧ LogOk new := by
  obtain ⟨n₁, h₁, ok₁⟩ := enableVmxOperation_log p s h
  rw [run_eq]
  rcases Prog.snd_bind (enableVmxOperation p) _ s with he | ⟨_, -, he⟩ <;> rw [he]
  · exact ⟨n₁, h₁, ok₁⟩
  obtain ⟨n₂, h₂, ok₂, hl⟩ := initVmcsRegion_log p (enableVmxOperation p s).2
  have hlog : (initVmcsRegion p (enableVmxOperation p s).2).2.cpu.log = (n₂ ++ n₁) ++ s.cpu.log := by
    rw [h₂, h₁, List.append_assoc]
  rcases Prog.snd_bind (initVmcsRegion p) _ (enableVmxOperation p s).2 with hv | ⟨_, -, hv⟩ <;> rw [hv]
  · exact ⟨_, hlog, ok₂.append ok₁ hl⟩
  · exact ⟨_, (afterVmptrld_preserves_log p _).trans hlog, ok₂.append ok₁ hl⟩

/-- 例の状態では二つの領域の物理アドレスは 0 でなく、`run` は VMXON、VMCLEAR、VMPTRLD を実行する。 -/
theorem run_vmx_entry_preconditions_sample :
    ConsistentFixedBits samplePlatform.flags sampleState.cpu.msr ∧
      ∃ new, (run samplePlatform sampleState).2.cpu.log = new ++ sampleState.cpu.log ∧ LogOk new :=
  have h : ConsistentFixedBits samplePlatform.flags sampleState.cpu.msr :=
    ⟨by decide, by decide, by decide, by decide, by decide⟩
  ⟨h, run_vmx_entry_preconditions _ _ h⟩

/-! ## ホストのセレクタ -/

/-- GDT が 32 項目（GDTR の上限 0xFF）のとき、ホストの TR は TSS の項目 0x100 を指すが、`SELECTOR_MASK` との
論理積で VMCS には 0 が書かれる。0x108 の CS には 0x08 が書かれ、別の項目を指す。 -/
theorem host_selectors_masked_at_32_entries (s : State) (hL : s.cpu.gdtr.limit = 0xFF) (hcs : s.cpu.cs = 0x108) :
    (initHostRegisterState p s).2.vmx.hostGdt.tr = 0x100 ∧
    (initHostRegisterState p s).2.cpu.vmread Host.TR_SELECTOR = 0 ∧
    (initHostRegisterState p s).2.cpu.vmread Host.CS_SELECTOR = 0x08 := by
  have hn : gdtEntryCount s.cpu = 32 := by simp [gdtEntryCount, hL]
  obtain ⟨hc, -, -, -, -, -, ht⟩ :=
    hostStateWrites_selectors p.flags (clonedHostGdt p.gdtCloneAddress s.cpu s.vmx.hostGdt) s.cpu s.cpu.vmcs
  rw [initHostRegisterState_eq p s (by rw [hL]; decide)]
  refine ⟨?_, ht.trans ?_, hc.trans ?_⟩ <;> simp [clonedHostGdt, hn, hcs] <;> decide

theorem host_selectors_masked_at_32_entries_sample :
    let s : State := { (default : State) with cpu.gdtr.limit := 0xFF, cpu.cs := 0x108 }
    (s.cpu.gdtr.limit = 0xFF ∧ s.cpu.cs = 0x108) ∧
      (initHostRegisterState samplePlatform s).2.vmx.hostGdt.tr = 0x100 ∧
      (initHostRegisterState samplePlatform s).2.cpu.vmread Host.TR_SELECTOR = 0 ∧
      (initHostRegisterState samplePlatform s).2.cpu.vmread Host.CS_SELECTOR = 0x08 :=
  ⟨⟨rfl, rfl⟩, host_selectors_masked_at_32_entries _ _ rfl rfl⟩

/-! ## ホストの GDT の TSS -/

/-- GDTR の上限が 0xFFFF でなく、今の GDT に項目があれば、`initialize_from_current` の写しは今の `n` 個の項目の
あとに TSS の記述子を置き、TR は `8 n` である。写しを `unpack_gdt_entry` で TR について読むと、基底は TSS の
番地の下位 32 ビット、上限は 103（TSS の大きさ − 1）、アクセス権は 0x89 になる。ホストの TR_BASE には番地の
すべてのビットが書かれるので、二つの基底が一致するのは番地が 2^32 より下のときだけである。 -/
theorem host_gdt_tss_descriptor_round_trip (a : BitVec 64) (c : Cpu) (self : HostGdt)
    (hlim : c.gdtr.limit.toNat < 0xFFFF) (hn : 0 < gdtEntryCount c) :
    ∃ g, self.initializeFromCurrent a c = some g ∧
      g.gdt = readDescriptorTable c (gdtEntryCount c) ++ [taskSegmentDescriptor self.tss] ∧
      g.tr.toNat = 8 * gdtEntryCount c ∧
      unpackGdtEntry (g.gdt.map GdtEntry.ofBits) g.tr =
        some ⟨(self.tss.address.setWidth 32).setWidth 64, 103, 0x89, g.tr⟩ := by
  have hn' : gdtEntryCount c ≤ 8191 := by unfold gdtEntryCount; omega
  have htr : (clonedHostGdt a c self).tr.toNat = 8 * gdtEntryCount c := by
    simp only [clonedHostGdt, BitVec.toNat_ofNat]
    omega
  refine ⟨_, initializeFromCurrent_eq a c self hlim, rfl, htr, unpackGdtEntry_taskSegment _ _ (by omega) ?_⟩
  rw [htr, show 8 * gdtEntryCount c / 8 = gdtEntryCount c by omega, List.getElem?_map]
  simp [clonedHostGdt, List.getElem?_append_right]

theorem host_gdt_tss_descriptor_round_trip_two_entries :
    (({ (default : Cpu) with gdtr := ⟨15, 0⟩ } : Cpu).gdtr.limit.toNat < 0xFFFF ∧
      0 < gdtEntryCount { (default : Cpu) with gdtr := ⟨15, 0⟩ }) ∧
    ∃ g, (default : HostGdt).initializeFromCurrent 0 { (default : Cpu) with gdtr := ⟨15, 0⟩ } = some g ∧
      g.gdt = readDescriptorTable { (default : Cpu) with gdtr := ⟨15, 0⟩ } 2 ++
        [taskSegmentDescriptor (default : HostGdt).tss] ∧
      g.tr.toNat = 8 * 2 ∧
      unpackGdtEntry (g.gdt.map GdtEntry.ofBits) g.tr =
        some ⟨((default : HostGdt).tss.address.setWidth 32).setWidth 64, 103, 0x89, g.tr⟩ :=
  ⟨⟨by decide, by decide⟩, host_gdt_tss_descriptor_round_trip 0 _ default (by decide) (by decide)⟩

/-! ## 制御フィールド -/

/-- `adjust_vmx_controls` は IA32_VMX_BASIC のビット 55 が立つときだけ TRUE の能力 MSR を読み
（ProcessorBased2 ではいつも IA32_VMX_PROCBASED_CTLS2）、IA32_VMX_BASIC とその MSR のほかを読まず、
panic せず、能力 MSR の範囲の値を返す。したがって `init_vmcs_control_values` の五つの制御フィールドは
それぞれの能力 MSR の範囲に入る。 -/
theorem adjust_vmx_controls_capability_bounds :
    (∀ (rdmsr : BitVec 32 → BitVec 64) (c : VmxControl) (q : BitVec 64), q.toNat < 2 ^ 32 →
      BitsIn (allowed0 (selectedCapabilities rdmsr c)) (allowed1 (selectedCapabilities rdmsr c)) →
      (capMsr c ((rdmsr Msr.IA32_VMX_BASIC).getLsbD 55) ∈ trueCapabilityMsrs ↔
        (rdmsr Msr.IA32_VMX_BASIC).getLsbD 55 = true ∧ c ≠ .ProcessorBased2) ∧
      capMsr .ProcessorBased2 ((rdmsr Msr.IA32_VMX_BASIC).getLsbD 55) = Msr.IA32_VMX_PROCBASED_CTLS2 ∧
      (∀ rdmsr' : BitVec 32 → BitVec 64, rdmsr' Msr.IA32_VMX_BASIC = rdmsr Msr.IA32_VMX_BASIC →
        rdmsr' (capMsr c ((rdmsr Msr.IA32_VMX_BASIC).getLsbD 55)) = selectedCapabilities rdmsr c →
        adjustVmxControls rdmsr' c q = adjustVmxControls rdmsr c q) ∧
      ∃ r, adjustVmxControls rdmsr c q = some r ∧ WithinCapabilities (selectedCapabilities rdmsr c) q r) ∧
    ∀ (p : Platform) (s : State),
      (∀ k, BitsIn (allowed0 (selectedCapabilities s.cpu.msr k)) (allowed1 (selectedCapabilities s.cpu.msr k))) →
      ∃ t, initVmcsControlValues p s = (.ok (), t) ∧
        ∀ w ∈ controlRequests, WithinCapabilities (selectedCapabilities s.cpu.msr w.2.1) w.2.2 (t.cpu.vmread w.1) :=
  ⟨fun rdmsr c q hq hcap => ⟨capMsr_mem_trueCapabilityMsrs _ _, capMsr_processorBased2 _,
    fun _ hb hc => adjustVmxControls_congr c q hb hc, adjustVmxControls_within rdmsr c q hq hcap⟩,
   fun p s hcap => initVmcsControlValues_within p s hcap⟩

/-- TRUE の能力 MSR を読む例：`sampleMsrs` では IA32_VMX_BASIC のビット 55 が立ち、一次の processor-based の
制御の allowed0 0x04006172 は allowed1 0xFFF9FFFE の真部分集合で、SECONDARY_CONTROLS を求めると 0x84006172 になる。 -/
theorem adjust_vmx_controls_capability_bounds_true_msrs :
    ((sampleMsrs Msr.IA32_VMX_BASIC).getLsbD 55 = true ∧ SECONDARY_CONTROLS.toNat < 2 ^ 32 ∧
      BitsIn (allowed0 (selectedCapabilities sampleMsrs .ProcessorBased))
        (allowed1 (selectedCapabilities sampleMsrs .ProcessorBased)) ∧
      allowed0 (selectedCapabilities sampleMsrs .ProcessorBased) ≠
        allowed1 (selectedCapabilities sampleMsrs .ProcessorBased) ∧
      adjustVmxControls sampleMsrs .ProcessorBased SECONDARY_CONTROLS = some 0x84006172) ∧
    (∃ r, adjustVmxControls sampleMsrs .ProcessorBased SECONDARY_CONTROLS = some r ∧
      WithinCapabilities (selectedCapabilities sampleMsrs .ProcessorBased) SECONDARY_CONTROLS r) ∧
    ∃ t, initVmcsControlValues samplePlatform sampleState = (.ok (), t) ∧
      ∀ w ∈ controlRequests, WithinCapabilities (selectedCapabilities sampleState.cpu.msr w.2.1) w.2.2 (t.cpu.vmread w.1) :=
  have h : BitsIn (allowed0 (selectedCapabilities sampleMsrs .ProcessorBased))
      (allowed1 (selectedCapabilities sampleMsrs .ProcessorBased)) := by decide
  ⟨⟨by decide, by decide, h, by decide, by decide⟩,
   (adjust_vmx_controls_capability_bounds.1 _ _ _ (by decide) h).2.2.2,
   adjust_vmx_controls_capability_bounds.2 samplePlatform sampleState fun k => by cases k <;> decide⟩

/-! ## ゲストのセグメント -/

/-- `unpack_gdt_entry` は、番号 0 では使用不可のビットだけを返し、表の外では panic し、表の中では項目の
フィールドから基底、上限、アクセス権を作る。上限は粒度によらず生の 20 ビットで、基底は 32 ビットである。 -/
theorem unpack_gdt_entry_layout (gdt : List GdtEntry) (selector : BitVec 16) :
    (selector.toNat / 8 = 0 → unpackGdtEntry gdt selector = some { accessRights := VMX_INFO_SEGMENT_UNUSABLE }) ∧
    (0 < selector.toNat / 8 → gdt.length ≤ selector.toNat / 8 → unpackGdtEntry gdt selector = none) ∧
    ∀ e, 0 < selector.toNat / 8 → gdt[selector.toNat / 8]? = some e →
      ∃ u, unpackGdtEntry gdt selector = some u ∧ UnpackedFrom e selector u :=
  ⟨unpackGdtEntry_zero gdt, unpackGdtEntry_out_of_range gdt, fun _ h0 he => unpackGdtEntry_bits gdt h0 he⟩

theorem unpack_gdt_entry_layout_flat_code :
    (0 < (8 : BitVec 16).toNat / 8 ∧
      [GdtEntry.ofBits 0, GdtEntry.ofBits 0x00CF9B000000FFFF][(8 : BitVec 16).toNat / 8]? = some (GdtEntry.ofBits 0x00CF9B000000FFFF)) ∧
    ∃ u, unpackGdtEntry [GdtEntry.ofBits 0, GdtEntry.ofBits 0x00CF9B000000FFFF] 8 = some u ∧
      UnpackedFrom (GdtEntry.ofBits 0x00CF9B000000FFFF) 8 u :=
  have h : 0 < (8 : BitVec 16).toNat / 8 ∧
      [GdtEntry.ofBits 0, GdtEntry.ofBits 0x00CF9B000000FFFF][(8 : BitVec 16).toNat / 8]? = some (GdtEntry.ofBits 0x00CF9B000000FFFF) :=
    ⟨by decide, rfl⟩
  ⟨h, (unpack_gdt_entry_layout _ _).2.2 _ h.1 h.2⟩

/-- 粒度 G = 1 の平らなコード記述子 0x00CF9B000000FFFF では、上限はバイト単位の 0xFFFFFFFF ではなく、
生の 0xFFFFF になる。 -/
theorem unpack_gdt_entry_raw_limit :
    (unpackGdtEntry [GdtEntry.ofBits 0, GdtEntry.ofBits 0x00CF9B000000FFFF] 8).map UnpackedGdtEntry.limit ≠ some 0xFFFFFFFF := by
  decide

end Hypervisor
