import Hypervisor.Vmx.Lemmas.Steps

/-!
# VMX 命令の前提

ハードウェアが VMXON と VMPTRLD を受け入れる前提を、ログに残った各命令について述べる。
`enable_vmx_operation` と `init_vmcs_region` が残す命令はこの前提を満たす。
-/

namespace Hypervisor

/-! ## 固定ビットに合わせる -/

section Fixup

variable (m cr f0 f1 : BitVec 64)

theorem fixupControlRegister_getLsbD (i : Nat) :
    (fixupControlRegister (· &&& m) cr f0 f1).getLsbD i =
      ((cr.getLsbD i || f0.getLsbD i) && f1.getLsbD i && m.getLsbD i) := by
  simp only [fixupControlRegister, BitVec.getLsbD_and, BitVec.getLsbD_or]
  cases cr.getLsbD i <;> cases f0.getLsbD i <;> cases f1.getLsbD i <;> cases m.getLsbD i <;> rfl

/-- FIXED0 ⊆ FIXED1 で FIXED0 のビットが型のフラグなら、合わせた値は FIXED0 と FIXED1 のあいだにある。 -/
theorem fixupControlRegister_within {m f0 f1 : BitVec 64} (h01 : BitsIn f0 f1) (hm : BitsIn f0 m) :
    BitsIn f0 (fixupControlRegister (· &&& m) cr f0 f1) ∧ BitsIn (fixupControlRegister (· &&& m) cr f0 f1) f1 :=
  ⟨bitsIn_iff.2 fun i hi => by simp [fixupControlRegister_getLsbD, hi, bitsIn_iff.1 h01 i hi, bitsIn_iff.1 hm i hi],
   bitsIn_iff.2 fun i hi => by simp_all [fixupControlRegister_getLsbD]⟩

/-- 今の値のビットで、型のフラグであり FIXED1 にあるものは残る。 -/
theorem fixupControlRegister_keeps {m cr f1 b : BitVec 64} (hcr : BitsIn b cr) (hm : BitsIn b m) (h1 : BitsIn b f1) :
    BitsIn b (fixupControlRegister (· &&& m) cr f0 f1) :=
  bitsIn_iff.2 fun i hi => by
    simp [fixupControlRegister_getLsbD, bitsIn_iff.1 hcr i hi, bitsIn_iff.1 hm i hi, bitsIn_iff.1 h1 i hi]

end Fixup

/-- SDM が保証する固定ビットの形。FIXED0 ⊆ FIXED1、CR4.VMXE は CR4 の FIXED1 にあり、FIXED0 のビットは
`Cr0`、`Cr4` の型が定めるフラグである。 -/
structure ConsistentFixedBits (f : ControlRegisterFlags) (msr : BitVec 32 → BitVec 64) : Prop where
  cr0 : BitsIn (msr Msr.IA32_VMX_CR0_FIXED0) (msr Msr.IA32_VMX_CR0_FIXED1)
  cr4 : BitsIn (msr Msr.IA32_VMX_CR4_FIXED0) (msr Msr.IA32_VMX_CR4_FIXED1)
  vmxe : BitsIn CR4_ENABLE_VMX (msr Msr.IA32_VMX_CR4_FIXED1)
  cr0_flags : BitsIn (msr Msr.IA32_VMX_CR0_FIXED0) f.cr0
  cr4_flags : BitsIn (msr Msr.IA32_VMX_CR4_FIXED0) f.cr4

/-! ## 命令ごとの前提 -/

/-- 領域の最初の 32 ビットが IA32_VMX_BASIC[30:0] で、ビット 31 が 0。 -/
def RevisionIdOk (e : VmxEvent) : Prop :=
  e.revisionId = ((e.msr Msr.IA32_VMX_BASIC).extractLsb' 0 31).setWidth 32

/-- VMXON の前提（SDM 24.7、24.8、31.5）。 -/
structure VmxonReady (e : VmxEvent) : Prop where
  vmxe : BitsIn CR4_ENABLE_VMX e.cr4
  cr0_fixed0 : BitsIn (e.msr Msr.IA32_VMX_CR0_FIXED0) e.cr0
  cr0_fixed1 : BitsIn e.cr0 (e.msr Msr.IA32_VMX_CR0_FIXED1)
  cr4_fixed0 : BitsIn (e.msr Msr.IA32_VMX_CR4_FIXED0) e.cr4
  cr4_fixed1 : BitsIn e.cr4 (e.msr Msr.IA32_VMX_CR4_FIXED1)
  featureControl : BitsIn (VMX_LOCK_BIT ||| VMXON_OUTSIDE_SMX) (e.msr Msr.IA32_FEATURE_CONTROL)
  revisionId : RevisionIdOk e

/-- 命令 `e` の前提。`prev` は直前に実行した命令。VMPTRLD の前には、同じ 0 でない物理アドレスへの
VMCLEAR がある。 -/
def EventOk (e : VmxEvent) (prev : Option VmxEvent) : Prop :=
  match e.instruction with
  | .vmxon _ => VmxonReady e
  | .vmclear _ => True
  | .vmptrld pa => RevisionIdOk e ∧ pa ≠ 0 ∧ prev.map VmxEvent.instruction = some (.vmclear pa)

/-- ログ（新しいものが先頭）のどの命令も前提を満たす。 -/
def LogOk : List VmxEvent → Prop
  | [] => True
  | e :: es => EventOk e es.head? ∧ LogOk es

/-- 前提が直前の命令を見るのは VMPTRLD だけである。 -/
theorem EventOk.prev_irrelevant {e : VmxEvent} {o o' : Option VmxEvent} (he : ∀ pa, e.instruction ≠ .vmptrld pa)
    (h : EventOk e o) : EventOk e o' := by
  unfold EventOk at h ⊢
  rcases hi : e.instruction with pa | pa | pa <;> simp only [hi] at h ⊢
  · exact h
  · exact absurd hi (he pa)

/-- VMPTRLD で終わらないログは、後ろに何をつないでもよい。 -/
theorem LogOk.append {a b : List VmxEvent} (ha : LogOk a) (hb : LogOk b)
    (hlast : ∀ e ∈ a.getLast?, ∀ pa, e.instruction ≠ .vmptrld pa) : LogOk (a ++ b) := by
  induction a with
  | nil => exact hb
  | cons e a ih =>
    cases a with
    | nil => exact ⟨ha.1.prev_irrelevant (hlast e rfl), hb⟩
    | cons e' a => exact ⟨ha.1, ih ha.2 fun x hx => hlast x (by simpa using hx)⟩

theorem vmcsRevisionId_eq (msr : BitVec 32 → BitVec 64) :
    vmcsRevisionId msr = ((msr Msr.IA32_VMX_BASIC).extractLsb' 0 31).setWidth 32 := by
  apply BitVec.eq_of_toNat_eq
  have h1 : (0x7FFFFFFF : BitVec 32).toNat = 2 ^ 31 - 1 := rfl
  have h2 : (~~~0x80000000 : BitVec 32).toNat = 2 ^ 31 - 1 := rfl
  simp only [vmcsRevisionId, BitVec.toNat_and, BitVec.toNat_setWidth, BitVec.extractLsb'_toNat, h1, h2,
    Nat.and_pow_two_sub_one_eq_mod, Nat.shiftRight_zero]
  omega

/-! ## 段が残す命令 -/

variable (p : Platform)

/-- `init_vmcs_region` は、何も実行しないか、VMCLEAR だけか、VMCLEAR と VMPTRLD を実行する。 -/
theorem initVmcsRegion_log (s : State) :
    ∃ new, (initVmcsRegion p s).2.cpu.log = new ++ s.cpu.log ∧ LogOk new ∧
      ∀ e ∈ new.getLast?, ∀ pa, e.instruction ≠ .vmptrld pa := by
  rw [initVmcsRegion_eq p s rfl]
  generalize p.mmGetPhysicalAddress s.vmx.vmcsRegion.virtualAddress = pa
  split
  · exact ⟨[], rfl, trivial, by simp⟩
  rename_i h0
  generalize hs' : ({ s with vmx := _ } : State) = s'
  have hc : s'.cpu = s.cpu := by rw [← hs']
  let ev₁ : VmxEvent := ⟨.vmclear pa, s.cpu.cr0, s.cpu.cr4, s.cpu.msr, vmcsRevisionId s.cpu.msr⟩
  let ev₂ : VmxEvent := ⟨.vmptrld pa, s.cpu.cr0, s.cpu.cr4, s.cpu.msr, vmcsRevisionId s.cpu.msr⟩
  by_cases h1 : p.vmxSucceeds (.vmclear pa)
  · have hx : onCpu (vmclear p pa (vmcsRevisionId s.cpu.msr)) s' =
        (.ok (), (onCpu (vmclear p pa (vmcsRevisionId s.cpu.msr)) s').2) :=
      Prod.ext (by simp [vmclear, execute_fst, h1]) rfl
    refine ⟨[ev₂, ev₁], ?_, ⟨⟨vmcsRevisionId_eq _, h0, rfl⟩, trivial, trivial⟩, by simp [ev₁]⟩
    rw [Prog.bind_ok hx]
    simp [vmclear, vmptrld, hc, ev₁, ev₂]
  · have hx : onCpu (vmclear p pa (vmcsRevisionId s.cpu.msr)) s' =
        (.panic, (onCpu (vmclear p pa (vmcsRevisionId s.cpu.msr)) s').2) :=
      Prod.ext (by simp [vmclear, execute_fst, h1]) rfl
    refine ⟨[ev₁], ?_, ⟨trivial, trivial⟩, by simp [ev₁]⟩
    rw [Prog.bind_panic hx]
    simp [vmclear, hc, ev₁]

/-- VMXON の時点の状態は、固定ビットが SDM の形なら VMXON の前提を満たす。 -/
theorem preVmxonState_ready (s : State) {v : BitVec 64} (h : ConsistentFixedBits p.flags s.cpu.msr)
    (hv : BitsIn (VMX_LOCK_BIT ||| VMXON_OUTSIDE_SMX) v) (pa : BitVec 64) :
    let c := (preVmxonState p s v).cpu
    VmxonReady ⟨.vmxon pa, c.cr0, c.cr4, c.msr, vmcsRevisionId c.msr⟩ := by
  have hm : ∀ m, m ≠ Msr.IA32_FEATURE_CONTROL → (preVmxonState p s v).cpu.msr m = s.cpu.msr m :=
    fun m hm => by simp [Function.update_noteq hm]
  have h0 := fixupControlRegister_within s.cpu.cr0 h.cr0 h.cr0_flags
  have h4 := fixupControlRegister_within (p.flags.truncateCr4 s.cpu.cr4 ||| CR4_ENABLE_VMX) h.cr4 h.cr4_flags
  refine ⟨?_, ?_, ?_, ?_, ?_, ?_, vmcsRevisionId_eq _⟩ <;>
    simp only [preVmxonState_cr0, preVmxonState_cr4, hm _ (by decide : Msr.IA32_VMX_CR0_FIXED0 ≠ _),
      hm _ (by decide : Msr.IA32_VMX_CR0_FIXED1 ≠ _), hm _ (by decide : Msr.IA32_VMX_CR4_FIXED0 ≠ _),
      hm _ (by decide : Msr.IA32_VMX_CR4_FIXED1 ≠ _)]
  · exact fixupControlRegister_keeps _ (BitsIn.or_right _ _) p.flags.cr4_enable_vmx h.vmxe
  · exact h0.1
  · exact h0.2
  · exact h4.1
  · exact h4.2
  · simpa using hv

/-- `enable_vmx_operation` は、何も実行しないか、前提を満たした VMXON を一つ実行する。 -/
theorem enableVmxOperation_log (s : State) (h : ConsistentFixedBits p.flags s.cpu.msr) :
    ∃ new, (enableVmxOperation p s).2.cpu.log = new ++ s.cpu.log ∧ LogOk new := by
  rcases enableVmxOperation_cases p s with h1 | ⟨v, hv, h1⟩
  · exact ⟨[], by simp [h1], trivial⟩
  rw [h1, initVmxonRegion_eq p _ rfl]
  generalize p.mmGetPhysicalAddress (preVmxonState p s v).vmx.vmxonRegion.virtualAddress = pa
  split
  · exact ⟨[], by simp, trivial⟩
  · let c := (preVmxonState p s v).cpu
    exact ⟨[⟨.vmxon pa, c.cr0, c.cr4, c.msr, vmcsRevisionId c.msr⟩], by simp [vmxon, c],
      preVmxonState_ready p s h hv pa, trivial⟩

end Hypervisor
