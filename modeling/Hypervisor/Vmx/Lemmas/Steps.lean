import Hypervisor.Vmx.Run

/-!
# `Vmx::run` の各段の結果

前半の段（`enable_vmx_operation`、`init_vmcs_region`）は、結果の状態を式で書く。後半の段
（ゲスト状態、ホスト状態、制御フィールド、ゲストの実行）は `Err` を返さず、VMX 命令を実行しない。
-/

namespace Hypervisor

variable (p : Platform)

/-! ## 状態の読み書き -/

@[simp] theorem onCpu_apply {α : Type} (x : Prog Cpu α) (s : State) :
    onCpu x s = ((x s.cpu).1, { s with cpu := (x s.cpu).2 }) := rfl

theorem onCpu_preserves_log {α : Type} {x : Prog Cpu α} (h : Prog.Preserves Cpu.log x) :
    Prog.Preserves (fun s => s.cpu.log) (onCpu x) :=
  Prog.Preserves.zoom h fun _ _ => rfl

theorem onCpu_noErr {α : Type} {x : Prog Cpu α} (h : Prog.NoErr x) : Prog.NoErr (onCpu x) := Prog.NoErr.zoom h

namespace Vmx

variable (v : Vmx) (k : RegionKind)

@[simp] theorem region_setPhysicalAddress (pa : BitVec 64) : (v.setPhysicalAddress k pa).region k = v.region k := by
  cases k <;> rfl

@[simp] theorem region_setRevisionId (r : BitVec 32) : ((v.setRevisionId k r).region k).revisionId = r := by
  cases k <;> rfl

@[simp] theorem setRevisionId_vmxonRegion (r : BitVec 32) : (v.setRevisionId .vmxon r).vmxonRegion.revisionId = r :=
  rfl

@[simp] theorem setRevisionId_vmcsRegion (r : BitVec 32) : (v.setRevisionId .vmcs r).vmcsRegion.revisionId = r := rfl

@[simp] theorem setRevisionId_setRevisionId (r r' : BitVec 32) :
    (v.setRevisionId k r).setRevisionId k r' = v.setRevisionId k r' := by
  cases k <;> rfl

end Vmx

/-! ## VMX を有効にする段 -/

/-- IA32_FEATURE_CONTROL の値 `v` では VMXON ができる：ロックされていないか、VMXON_OUTSIDE_SMX が立っている。 -/
def FeatureControlOk (v : BitVec 64) : Prop := v &&& VMX_LOCK_BIT = 0 ∨ v &&& VMXON_OUTSIDE_SMX ≠ 0

instance (v : BitVec 64) : Decidable (FeatureControlOk v) := inferInstanceAs (Decidable (_ ∨ _))

/-- `set_lock_bit` が残す IA32_FEATURE_CONTROL：ロックされていなければ VMXON_OUTSIDE_SMX とロックを足す。 -/
def lockedFeatureControl (v : BitVec 64) : BitVec 64 :=
  if v &&& VMX_LOCK_BIT = 0 then VMXON_OUTSIDE_SMX ||| VMX_LOCK_BIT ||| v else v

theorem lockedFeatureControl_bitsIn {v : BitVec 64} (h : FeatureControlOk v) :
    BitsIn (VMX_LOCK_BIT ||| VMXON_OUTSIDE_SMX) (lockedFeatureControl v) := by
  have hl : VMX_LOCK_BIT = BitVec.twoPow 64 0 := by decide
  have hs : VMXON_OUTSIDE_SMX = BitVec.twoPow 64 2 := by decide
  unfold lockedFeatureControl
  split_ifs with h1
  · refine bitsIn_iff.2 fun i hi => ?_
    simp only [BitVec.getLsbD_or, Bool.or_eq_true] at hi ⊢
    rcases hi with hi | hi <;> simp [hi]
  · have h2 := h.resolve_left h1
    rw [hl, BitVec.ofNat_eq_ofNat, and_twoPow_eq_zero_iff _ (by decide)] at h1
    rw [hs, ne_eq, BitVec.ofNat_eq_ofNat, and_twoPow_eq_zero_iff _ (by decide)] at h2
    refine bitsIn_iff.2 fun i hi => ?_
    simp only [hl, hs, BitVec.getLsbD_or, BitVec.getLsbD_twoPow, Bool.or_eq_true, Bool.and_eq_true,
      decide_eq_true_eq] at hi
    rcases hi with ⟨-, rfl⟩ | ⟨-, rfl⟩
    · simpa using h1
    · simpa using h2

/-- `set_lock_bit`：VMXON ができる値なら `lockedFeatureControl` を書いて進み、できなければ何も変えずに
`VMXBIOSLock` を返す。 -/
theorem setLockBit_eq (s : State) :
    setLockBit s = if FeatureControlOk (s.cpu.msr Msr.IA32_FEATURE_CONTROL) then
      (.ok (), { s with
        cpu := s.cpu.wrmsr Msr.IA32_FEATURE_CONTROL (lockedFeatureControl (s.cpu.msr Msr.IA32_FEATURE_CONTROL)) })
    else (.err .VMXBIOSLock, s) := by
  by_cases h1 : s.cpu.msr Msr.IA32_FEATURE_CONTROL &&& VMX_LOCK_BIT = 0#64 <;>
    by_cases h2 : s.cpu.msr Msr.IA32_FEATURE_CONTROL &&& VMXON_OUTSIDE_SMX = 0#64 <;>
    simp [setLockBit, FeatureControlOk, lockedFeatureControl, h1, h2, Cpu.wrmsr]

/-- `adjust_control_registers` は CR0 と CR4 を固定ビットに合わせる。 -/
theorem adjustControlRegisters_eq (s : State) :
    adjustControlRegisters p s = (.ok (), { s with
      cpu.cr0 := (fixupControlRegister p.flags.truncateCr0 s.cpu.cr0
        (s.cpu.msr Msr.IA32_VMX_CR0_FIXED0) (s.cpu.msr Msr.IA32_VMX_CR0_FIXED1))
      cpu.cr4 := (fixupControlRegister p.flags.truncateCr4 s.cpu.cr4
        (s.cpu.msr Msr.IA32_VMX_CR4_FIXED0) (s.cpu.msr Msr.IA32_VMX_CR4_FIXED1)) }) := rfl

/-- `prepareRegion` が領域の最初の 32 ビットに書く値。 -/
def vmcsRevisionId (msr : BitVec 32 → BitVec 64) : BitVec 32 :=
  ((msr Msr.IA32_VMX_BASIC).setWidth 32 &&& 0x7FFFFFFF) &&& ~~~0x80000000

theorem prepareRegion_eq (k : RegionKind) (s : State) {pa : BitVec 64}
    (hpa : p.mmGetPhysicalAddress (s.vmx.region k).virtualAddress = pa) :
    prepareRegion p k s =
      if pa = 0 then (.err .VirtualToPhysicalAddressFailed, { s with vmx := s.vmx.setPhysicalAddress k pa })
      else (.ok pa, { s with vmx := (s.vmx.setPhysicalAddress k pa).setRevisionId k (vmcsRevisionId s.cpu.msr) }) := by
  subst hpa
  by_cases h : p.mmGetPhysicalAddress (s.vmx.region k).virtualAddress = 0#64 <;>
    simp [prepareRegion, getVmcsRevisionId, vmcsRevisionId, h]

theorem initVmxonRegion_eq (s : State) {pa : BitVec 64} (hpa : p.mmGetPhysicalAddress s.vmx.vmxonRegion.virtualAddress = pa) :
    initVmxonRegion p s =
      if pa = 0 then (.err .VirtualToPhysicalAddressFailed, { s with vmx := s.vmx.setPhysicalAddress .vmxon pa })
      else onCpu (vmxon p pa (vmcsRevisionId s.cpu.msr))
        { s with vmx := (s.vmx.setPhysicalAddress .vmxon pa).setRevisionId .vmxon (vmcsRevisionId s.cpu.msr) } := by
  have := prepareRegion_eq p .vmxon s hpa
  by_cases h : pa = 0#64 <;> simp_all [initVmxonRegion]

theorem initVmcsRegion_eq (s : State) {pa : BitVec 64} (hpa : p.mmGetPhysicalAddress s.vmx.vmcsRegion.virtualAddress = pa) :
    initVmcsRegion p s =
      if pa = 0 then (.err .VirtualToPhysicalAddressFailed, { s with vmx := s.vmx.setPhysicalAddress .vmcs pa })
      else (onCpu (vmclear p pa (vmcsRevisionId s.cpu.msr)) >>= fun _ => onCpu (vmptrld p pa (vmcsRevisionId s.cpu.msr)))
        { s with vmx := (s.vmx.setPhysicalAddress .vmcs pa).setRevisionId .vmcs (vmcsRevisionId s.cpu.msr) } := by
  have := prepareRegion_eq p .vmcs s hpa
  by_cases h : pa = 0#64 <;> simp_all [initVmcsRegion]

/-- `enable_vmx_operation` が VMXON の前に作る状態：CR4.VMXE を立て、IA32_FEATURE_CONTROL を `v` にし、
CR0 と CR4 を固定ビットに合わせたもの。 -/
def preVmxonState (s : State) (v : BitVec 64) : State :=
  let s₁ : State := { s with cpu.cr4 := p.flags.truncateCr4 s.cpu.cr4 ||| CR4_ENABLE_VMX }
  let s₂ : State := { s₁ with cpu := s₁.cpu.wrmsr Msr.IA32_FEATURE_CONTROL v }
  (adjustControlRegisters p s₂).2

section PreVmxon

variable (s : State) (v : BitVec 64)

@[simp] theorem preVmxonState_msr : (preVmxonState p s v).cpu.msr = Function.update s.cpu.msr Msr.IA32_FEATURE_CONTROL v :=
  rfl

@[simp] theorem preVmxonState_log : (preVmxonState p s v).cpu.log = s.cpu.log := rfl

@[simp] theorem preVmxonState_cr0 :
    (preVmxonState p s v).cpu.cr0 = fixupControlRegister p.flags.truncateCr0 s.cpu.cr0
      (s.cpu.msr Msr.IA32_VMX_CR0_FIXED0) (s.cpu.msr Msr.IA32_VMX_CR0_FIXED1) := by
  simp [preVmxonState, adjustControlRegisters_eq, Cpu.wrmsr, Function.update_noteq (show Msr.IA32_VMX_CR0_FIXED0 ≠ Msr.IA32_FEATURE_CONTROL by decide),
    Function.update_noteq (show Msr.IA32_VMX_CR0_FIXED1 ≠ Msr.IA32_FEATURE_CONTROL by decide)]

@[simp] theorem preVmxonState_cr4 :
    (preVmxonState p s v).cpu.cr4 = fixupControlRegister p.flags.truncateCr4 (p.flags.truncateCr4 s.cpu.cr4 ||| CR4_ENABLE_VMX)
      (s.cpu.msr Msr.IA32_VMX_CR4_FIXED0) (s.cpu.msr Msr.IA32_VMX_CR4_FIXED1) := by
  simp [preVmxonState, adjustControlRegisters_eq, Cpu.wrmsr, Function.update_noteq (show Msr.IA32_VMX_CR4_FIXED0 ≠ Msr.IA32_FEATURE_CONTROL by decide),
    Function.update_noteq (show Msr.IA32_VMX_CR4_FIXED1 ≠ Msr.IA32_FEATURE_CONTROL by decide)]

end PreVmxon

/-- `enable_vmx_operation`：IA32_FEATURE_CONTROL が VMXON を許せば、VMXON の前の状態から `init_vmxon_region`
を行い、許さなければ CR4.VMXE を立てたまま `VMXBIOSLock` を返す。 -/
theorem enableVmxOperation_eq (s : State) :
    enableVmxOperation p s = if FeatureControlOk (s.cpu.msr Msr.IA32_FEATURE_CONTROL) then
      initVmxonRegion p (preVmxonState p s (lockedFeatureControl (s.cpu.msr Msr.IA32_FEATURE_CONTROL)))
    else (.err .VMXBIOSLock, { s with cpu.cr4 := p.flags.truncateCr4 s.cpu.cr4 ||| CR4_ENABLE_VMX }) := by
  simp only [enableVmxOperation, Prog.bind_apply, Prog.modify_apply, setLockBit_eq]
  split_ifs <;> simp [adjustControlRegisters_eq, preVmxonState]

theorem enableVmxOperation_cases (s : State) :
    enableVmxOperation p s = (.err .VMXBIOSLock, { s with cpu.cr4 := p.flags.truncateCr4 s.cpu.cr4 ||| CR4_ENABLE_VMX }) ∨
    ∃ v, BitsIn (VMX_LOCK_BIT ||| VMXON_OUTSIDE_SMX) v ∧ enableVmxOperation p s = initVmxonRegion p (preVmxonState p s v) := by
  rw [enableVmxOperation_eq]
  split_ifs with h
  · exact .inr ⟨_, lockedFeatureControl_bitsIn h, rfl⟩
  · exact .inl rfl

/-- VMXON が成功すれば、プロセッサは VMX の中にあり、VMXON がログに一つ増える。 -/
theorem initVmxonRegion_ok {s t : State} {a : Unit} (h : initVmxonRegion p s = (.ok a, t)) :
    ∃ ev pa, ev.instruction = .vmxon pa ∧ t.cpu = { s.cpu with vmxOperation := true, log := ev :: s.cpu.log } := by
  rw [initVmxonRegion_eq p s rfl] at h
  split at h
  · cases h
  · simp only [onCpu_apply, Prod.mk.injEq] at h
    obtain ⟨h1, rfl⟩ := h
    exact ⟨_, _, rfl, execute_eq_ok _ _ _ _ (Prod.ext h1 rfl)⟩

theorem initVmxonRegion_err {s t : State} {e : HypervisorError} (h : initVmxonRegion p s = (.err e, t)) :
    e = .VirtualToPhysicalAddressFailed ∧ t.cpu = s.cpu := by
  rw [initVmxonRegion_eq p s rfl] at h
  split at h
  · cases h; exact ⟨rfl, rfl⟩
  · exact absurd h (onCpu_noErr (execute_noErr _ _ _) _ _ _)

theorem initVmcsRegion_err {s t : State} {e : HypervisorError} (h : initVmcsRegion p s = (.err e, t)) :
    e = .VirtualToPhysicalAddressFailed ∧ t.cpu = s.cpu := by
  rw [initVmcsRegion_eq p s rfl] at h
  split at h
  · cases h; exact ⟨rfl, rfl⟩
  · exact absurd h ((onCpu_noErr (execute_noErr _ _ _)).bind (fun _ => onCpu_noErr (execute_noErr _ _ _)) _ _ _)

/-- `enable_vmx_operation` の `Err` は、ロックの誤りか、VMXON 領域の物理アドレスの誤り。どちらも
それまでの書き込みを残す。 -/
theorem enableVmxOperation_err {s t : State} {e : HypervisorError} (h : enableVmxOperation p s = (.err e, t)) :
    (e = .VMXBIOSLock ∧ t.cpu = { s.cpu with cr4 := p.flags.truncateCr4 s.cpu.cr4 ||| CR4_ENABLE_VMX }) ∨
    (e = .VirtualToPhysicalAddressFailed ∧
      ∃ v, BitsIn (VMX_LOCK_BIT ||| VMXON_OUTSIDE_SMX) v ∧ t.cpu = (preVmxonState p s v).cpu) := by
  rcases enableVmxOperation_cases p s with h1 | ⟨v, hv, h1⟩ <;> rw [h1] at h
  · cases h; exact .inl ⟨rfl, rfl⟩
  · obtain ⟨rfl, ht⟩ := initVmxonRegion_err p h
    exact .inr ⟨rfl, v, hv, ht⟩

theorem enableVmxOperation_ok {s t : State} {a : Unit} (h : enableVmxOperation p s = (.ok a, t)) :
    ∃ v ev pa, BitsIn (VMX_LOCK_BIT ||| VMXON_OUTSIDE_SMX) v ∧ ev.instruction = .vmxon pa ∧
      t.cpu = { (preVmxonState p s v).cpu with vmxOperation := true, log := ev :: s.cpu.log } := by
  rcases enableVmxOperation_cases p s with h1 | ⟨v, hv, h1⟩ <;> rw [h1] at h
  · cases h
  · obtain ⟨ev, pa, hev, ht⟩ := initVmxonRegion_ok p h
    exact ⟨v, ev, pa, hv, hev, ht⟩

/-! ## 後半の段 -/

theorem initGuestRegisterState_noErr : Prog.NoErr (initGuestRegisterState p) :=
  .bind (.read _) fun _ => .bind (onCpu_noErr (vmwriteAll_noErr _)) fun _ => .modify _

theorem initGuestRegisterState_preserves_log : Prog.Preserves (fun s => s.cpu.log) (initGuestRegisterState p) :=
  .bind (.read _ _) fun _ => .bind (onCpu_preserves_log (vmwriteAll_preserves_log _)) fun _ => .modify fun _ => rfl

theorem initHostRegisterState_noErr : Prog.NoErr (initHostRegisterState p) :=
  .bind (.read _) fun _ => .bind (.unwrap _) fun _ => .bind (.modify _) fun _ => onCpu_noErr (vmwriteAll_noErr _)

theorem initHostRegisterState_preserves_log : Prog.Preserves (fun s => s.cpu.log) (initHostRegisterState p) :=
  .bind (.read _ _) fun _ => .bind (.unwrap _ _) fun _ => .bind (.modify fun _ => rfl) fun _ =>
    onCpu_preserves_log (vmwriteAll_preserves_log _)

theorem initVmcsControlValues_noErr : Prog.NoErr (initVmcsControlValues p) :=
  .bind (.read _) fun _ => onCpu_noErr (vmwriteAll_noErr _)

theorem initVmcsControlValues_preserves_log : Prog.Preserves (fun s => s.cpu.log) (initVmcsControlValues p) :=
  .bind (.read _ _) fun _ => onCpu_preserves_log (vmwriteAll_preserves_log _)

theorem launchGuest_noErr : Prog.NoErr (launchGuest p) :=
  .bind (.read _) fun _ => .bind (.modify _) fun _ => .bind (.read _) fun _ => .bind (.expect _) fun _ =>
    .bind (.modify _) fun _ => .modify _

theorem launchGuest_preserves_log : Prog.Preserves (fun s => s.cpu.log) (launchGuest p) :=
  .bind (.read _ _) fun _ => .bind (.modify fun _ => rfl) fun _ => .bind (.read _ _) fun _ =>
    .bind (.expect _ _) fun _ => .bind (.modify fun _ => rfl) fun _ => .modify fun _ => rfl

/-- VMPTRLD のあとの段。 -/
def afterVmptrld : Prog State Unit := do
  initGuestRegisterState p
  initHostRegisterState p
  initVmcsControlValues p
  launchGuest p

theorem afterVmptrld_noErr : Prog.NoErr (afterVmptrld p) :=
  .bind (initGuestRegisterState_noErr p) fun _ => .bind (initHostRegisterState_noErr p) fun _ =>
    .bind (initVmcsControlValues_noErr p) fun _ => launchGuest_noErr p

theorem afterVmptrld_preserves_log : Prog.Preserves (fun s => s.cpu.log) (afterVmptrld p) :=
  .bind (initGuestRegisterState_preserves_log p) fun _ => .bind (initHostRegisterState_preserves_log p) fun _ =>
    .bind (initVmcsControlValues_preserves_log p) fun _ => launchGuest_preserves_log p

theorem run_eq : run p = (enableVmxOperation p >>= fun _ => initVmcsRegion p >>= fun _ => afterVmptrld p) := rfl

end Hypervisor
