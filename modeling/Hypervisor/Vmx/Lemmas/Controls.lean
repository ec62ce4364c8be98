import Hypervisor.Vmx.Lemmas.Steps

/-!
# `adjust_vmx_controls` の値の範囲

allowed0 ⊆ allowed1 のとき、結果は allowed0 を含み、allowed1 に含まれ、そのあいだのビットでは
求めた値と一致する。この三つで結果はただ一つに決まる。
-/

namespace Hypervisor

/-- TRUE の能力 MSR。 -/
def trueCapabilityMsrs : List (BitVec 32) :=
  [Msr.IA32_VMX_TRUE_PINBASED_CTLS, Msr.IA32_VMX_TRUE_PROCBASED_CTLS, Msr.IA32_VMX_TRUE_EXIT_CTLS,
   Msr.IA32_VMX_TRUE_ENTRY_CTLS]

theorem capMsr_mem_trueCapabilityMsrs (c : VmxControl) (b : Bool) :
    capMsr c b ∈ trueCapabilityMsrs ↔ b = true ∧ c ≠ .ProcessorBased2 := by
  cases c <;> cases b <;> decide

theorem capMsr_processorBased2 (b : Bool) : capMsr .ProcessorBased2 b = Msr.IA32_VMX_PROCBASED_CTLS2 := by
  cases b <;> rfl

theorem controls_flag_ne_zero (x : BitVec 64) : (x &&& IA32_VMX_BASIC_VMX_CONTROLS_FLAG != 0) = x.getLsbD 55 := by
  have hf : IA32_VMX_BASIC_VMX_CONTROLS_FLAG = BitVec.twoPow 64 55 := by decide
  rw [hf, Bool.eq_iff_iff, bne_iff_ne, ne_eq, BitVec.ofNat_eq_ofNat, and_twoPow_eq_zero_iff x (by decide)]
  simp

/-- `adjust_vmx_controls` が読む能力 MSR の値。どの MSR かは IA32_VMX_BASIC のビット 55 で決まる。 -/
def selectedCapabilities (rdmsr : BitVec 32 → BitVec 64) (c : VmxControl) : BitVec 64 :=
  rdmsr (capMsr c ((rdmsr Msr.IA32_VMX_BASIC).getLsbD 55))

theorem adjustVmxControls_eq (rdmsr : BitVec 32 → BitVec 64) (c : VmxControl) (q : BitVec 64) :
    adjustVmxControls rdmsr c q =
      if q.toNat < 2 ^ 32 then
        some (((q.setWidth 32 ||| allowed0 (selectedCapabilities rdmsr c)) &&& allowed1 (selectedCapabilities rdmsr c)).setWidth 64)
      else none := by
  simp only [adjustVmxControls, controls_flag_ne_zero, selectedCapabilities]

/-- `adjust_vmx_controls` は IA32_VMX_BASIC と、選んだ能力 MSR のほかを読まない。 -/
theorem adjustVmxControls_congr {rdmsr rdmsr' : BitVec 32 → BitVec 64} (c : VmxControl) (q : BitVec 64)
    (hb : rdmsr' Msr.IA32_VMX_BASIC = rdmsr Msr.IA32_VMX_BASIC)
    (hc : rdmsr' (capMsr c ((rdmsr Msr.IA32_VMX_BASIC).getLsbD 55)) = rdmsr (capMsr c ((rdmsr Msr.IA32_VMX_BASIC).getLsbD 55))) :
    adjustVmxControls rdmsr' c q = adjustVmxControls rdmsr c q := by
  simp only [adjustVmxControls_eq, selectedCapabilities, hb, hc]

theorem setWidth_bitsIn_setWidth (x y : BitVec 32) : BitsIn (x.setWidth 64) (y.setWidth 64) ↔ BitsIn x y := by
  simp only [bitsIn_iff, BitVec.getLsbD_setWidth, Bool.and_eq_true, decide_eq_true_eq, and_imp]
  constructor
  · intro h i hx
    have hi : i < 32 := by
      by_contra hc; simp [BitVec.getLsbD_ge x i (by omega)] at hx
    exact (h i (by omega) hx).2
  · exact fun h i hi hx => ⟨hi, h i hx⟩

/-- `(q ||| a0) &&& a1` は、a0 ⊆ a1 のとき a0 と a1 のあいだにあり、そのあいだのビットでは `q` に従う。 -/
theorem or_and_within {w : Nat} (q a0 a1 : BitVec w) (h : BitsIn a0 a1) :
    BitsIn a0 ((q ||| a0) &&& a1) ∧ BitsIn ((q ||| a0) &&& a1) a1 ∧
      ∀ i, a1.getLsbD i = true → a0.getLsbD i = false → ((q ||| a0) &&& a1).getLsbD i = q.getLsbD i :=
  ⟨(BitsIn.or_right q a0).and h, BitsIn.and_right _ _, fun i h1 h0 => by simp [h1, h0]⟩

/-- `r` は 32 ビットに収まり、能力 MSR の allowed0 と allowed1 のあいだにあり、そのあいだのビットでは
求めた値 `q` に従う。 -/
def WithinCapabilities (cap q r : BitVec 64) : Prop :=
  r.toNat < 2 ^ 32 ∧ BitsIn ((allowed0 cap).setWidth 64) r ∧ BitsIn r ((allowed1 cap).setWidth 64) ∧
    ∀ i, (allowed1 cap).getLsbD i = true → (allowed0 cap).getLsbD i = false → r.getLsbD i = q.getLsbD i

/-- 求めた値が 32 ビットに収まり、allowed0 ⊆ allowed1 なら、`adjust_vmx_controls` は panic せず、
能力 MSR の範囲の値を返す。 -/
theorem adjustVmxControls_within (rdmsr : BitVec 32 → BitVec 64) (c : VmxControl) (q : BitVec 64)
    (hq : q.toNat < 2 ^ 32)
    (hcap : BitsIn (allowed0 (selectedCapabilities rdmsr c)) (allowed1 (selectedCapabilities rdmsr c))) :
    ∃ r, adjustVmxControls rdmsr c q = some r ∧ WithinCapabilities (selectedCapabilities rdmsr c) q r := by
  obtain ⟨h0, h1, hmid⟩ := or_and_within (q.setWidth 32) _ _ hcap
  refine ⟨_, by rw [adjustVmxControls_eq, if_pos hq], ?_, (setWidth_bitsIn_setWidth _ _).2 h0,
    (setWidth_bitsIn_setWidth _ _).2 h1, fun i hi1 hi0 => ?_⟩
  · simp only [BitVec.toNat_setWidth]
    exact Nat.lt_of_le_of_lt (Nat.mod_le _ _) (BitVec.isLt _)
  · have hi : i < 32 := by
      by_contra hc; simp [BitVec.getLsbD_ge (allowed1 _) i (by omega)] at hi1
    simp only [BitVec.getLsbD_setWidth, hmid i hi1 hi0]
    simp [hi, show i < 64 by omega]

/-! ## `init_vmcs_control_values` -/

variable (p : Platform)

/-- 能力 MSR がどれも allowed0 ⊆ allowed1 なら、`init_vmcs_control_values` は panic せず、五つの制御フィールドは
それぞれの能力 MSR の範囲に入る。 -/
theorem initVmcsControlValues_within (s : State)
    (hcap : ∀ k, BitsIn (allowed0 (selectedCapabilities s.cpu.msr k)) (allowed1 (selectedCapabilities s.cpu.msr k))) :
    ∃ t, initVmcsControlValues p s = (.ok (), t) ∧
      ∀ w ∈ controlRequests, WithinCapabilities (selectedCapabilities s.cpu.msr w.2.1) w.2.2 (t.cpu.vmread w.1) := by
  obtain ⟨r₁, h₁, w₁⟩ := adjustVmxControls_within s.cpu.msr .ProcessorBased PRIMARY_CTL (by decide) (hcap _)
  obtain ⟨r₂, h₂, w₂⟩ := adjustVmxControls_within s.cpu.msr .ProcessorBased2 SECONDARY_CTL (by decide) (hcap _)
  obtain ⟨r₃, h₃, w₃⟩ := adjustVmxControls_within s.cpu.msr .VmEntry ENTRY_CTL (by decide) (hcap _)
  obtain ⟨r₄, h₄, w₄⟩ := adjustVmxControls_within s.cpu.msr .VmExit EXIT_CTL (by decide) (hcap _)
  obtain ⟨r₅, h₅, w₅⟩ := adjustVmxControls_within s.cpu.msr .PinBased PINBASED_CTL (by decide) (hcap _)
  have hw : controlWrites p.flags s.cpu = List.map (fun w => (w.1, some w.2))
      [(Control.PRIMARY_PROCBASED_EXEC_CONTROLS, r₁), (Control.SECONDARY_PROCBASED_EXEC_CONTROLS, r₂),
       (Control.VMENTRY_CONTROLS, r₃), (Control.VMEXIT_CONTROLS, r₄), (Control.PINBASED_EXEC_CONTROLS, r₅),
       (Control.CR0_READ_SHADOW, p.flags.truncateCr0 s.cpu.cr0), (Control.CR4_READ_SHADOW, p.flags.truncateCr4 s.cpu.cr4)] := by
    simp [controlWrites, controlRequests, h₁, h₂, h₃, h₄, h₅]
  refine ⟨_, by simp only [initVmcsControlValues, Prog.bind_apply, Prog.read_apply, onCpu_apply, hw, vmwriteAll_ok]; rfl, ?_⟩
  simp only [controlRequests, List.mem_cons, List.mem_singleton, List.not_mem_nil, or_false, forall_eq_or_imp, forall_eq]
  exact ⟨w₁, w₂, w₃, w₄, w₅⟩

end Hypervisor
