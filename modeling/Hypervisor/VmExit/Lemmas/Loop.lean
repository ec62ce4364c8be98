import Hypervisor.VmExit.Lemmas.Dispatch
import Hypervisor.VmExit.Loop

/-!
# VM exit の処理とゲストが書くもの

`handle_vmexit` が書く VMCS のフィールドはゲストの RIP だけで、プロセッサのほかの状態は、MSR の処理が返す
MSR のほかは変わらない。ゲストの RIP はゲスト状態のフィールドなので、VM exit で保たれるフィールドは
処理もゲストも変えず、VMLAUNCH のときの値のまま残る。VM exit の繰り返しについての帰納は `AtVmExit.invariant`
の一度だけで、ほかはそれを使う。
-/

namespace Hypervisor

/-! ## VMX の状態が変わらない -/

theorem HostKept.refl (c : Cpu) : HostKept c c := ⟨rfl, rfl, rfl, fun _ _ => rfl, fun _ _ => rfl⟩

theorem HostKept.trans {c₀ c c' : Cpu} (h₁ : HostKept c₀ c) (h₂ : HostKept c c') : HostKept c₀ c' :=
  ⟨h₂.vmxOperation.trans h₁.vmxOperation, h₂.currentVmcs.trans h₁.currentVmcs, h₂.log.trans h₁.log,
    fun g hg => (h₂.kept g hg).trans (h₁.kept g hg),
    fun i hi => (h₂.vmxMsrs i hi).trans (h₁.vmxMsrs i hi)⟩

/-- VM exit が書く MSR は、どれも VMX の能力 MSR ではない。 -/
theorem vmExitMsr_vmx (c : Cpu) {i : BitVec 32} (hi : IsVmxMsr i) : vmExitMsr c i = c.msr i := by
  have ne : ∀ m, ¬ IsVmxMsr m → i ≠ m := fun m hm h => hm (h ▸ hi)
  simp only [vmExitMsr, ne Msr.IA32_DEBUGCTL (by decide), ne Msr.IA32_SYSENTER_CS (by decide),
    ne Msr.IA32_SYSENTER_ESP (by decide), ne Msr.IA32_SYSENTER_EIP (by decide), ne Msr.IA32_FS_BASE (by decide),
    ne Msr.IA32_GS_BASE (by decide), ne Msr.IA32_EFER (by decide), if_false]

/-- VM exit の読み込みは VMX の状態を変えない。 -/
theorem HostKept.vmExit (c : Cpu) : HostKept c c.vmExit :=
  ⟨rfl, rfl, rfl, fun _ _ => rfl, fun _ hi => vmExitMsr_vmx c hi⟩

theorem GuestRunsToExit.hostKept {c c' : Cpu} (h : GuestRunsToExit c c') : HostKept c c' := by
  obtain ⟨g, hg, rfl⟩ := h
  exact hg.trans (.vmExit g)

/-- ゲストが何も変えずに VM exit を起こすこともある。 -/
theorem GuestRunsToExit.exit (c : Cpu) : GuestRunsToExit c c.vmExit := ⟨c, .refl c, rfl⟩

/-! ## 処理が書くもの -/

section Handler

variable (d : Decoders) (h : Handlers)

/-- `c'` は `c` の VMCS をゲストの RIP だけで変え、MSR を MSR の処理のどれかの結果にしたもの。 -/
def HandlerWrites (c c' : Cpu) : Prop :=
  c' = { c with vmcs := c'.vmcs, msr := c'.msr } ∧ (∀ g, g ≠ Guest.RIP → c'.vmcs g = c.vmcs g) ∧
    (c'.msr = c.msr ∨ ∃ k regs, c'.msr = (h.handleMsrAccess k regs c.msr).2)

theorem HandlerWrites.refl (c : Cpu) : HandlerWrites h c c := ⟨rfl, fun _ _ => rfl, .inl rfl⟩

theorem HandlerWrites.vmwrite_rip {c c' : Cpu} (hw : HandlerWrites h c c') (v : BitVec 64) :
    HandlerWrites h c (c'.vmwrite Guest.RIP v) := by
  obtain ⟨hf, hv, hm⟩ := hw
  exact ⟨by rw [hf]; rfl, fun g hg => (Function.update_noteq hg _ _).trans (hv g hg), hm⟩

theorem dispatchExit_writes (r : VmxBasicExitReason) (s : ExitState) :
    HandlerWrites h s.cpu (dispatchExit h r s).2.cpu := by
  cases r with
  | Cpuid => exact .refl h _
  | Rdmsr => exact ⟨rfl, fun _ _ => rfl, .inr ⟨.Read, s.registers, rfl⟩⟩
  | Wrmsr => exact ⟨rfl, fun _ _ => rfl, .inr ⟨.Write, s.registers, rfl⟩⟩
  | other _ => exact .refl h _

/-- `handle_vmexit` は、どの結果でも、VMCS をゲストの RIP だけで、MSR を MSR の処理だけで変える。 -/
theorem handleVmexit_writes (s : ExitState) : HandlerWrites h s.cpu (handleVmexit d h s).2.cpu := by
  simp only [handleVmexit, Prog.bind_apply, Prog.read_apply]
  rcases d.exitReason ((s.cpu.vmread Ro.EXIT_REASON).setWidth 32) with _ | r <;>
    simp only [Prog.someOr_none, Prog.someOr_some, Prog.throw_apply, Prog.pure_apply]
  · exact .refl h _
  rcases d.instructionError ((s.cpu.vmread Ro.VM_INSTRUCTION_ERROR).setWidth 32) with _ | _ <;>
    simp only [Prog.someOr_none, Prog.someOr_some, Prog.throw_apply, Prog.pure_apply]
  · exact .refl h _
  rcases dispatchExit_cases h r s with ⟨c, t, -, hd, -⟩ | ⟨n, -, hd⟩ <;> rw [hd]
  · have ht := dispatchExit_writes h r s
    rw [hd] at ht
    exact ht.vmwrite_rip h _
  · exact .refl h _

theorem vmexitHandler_writes (f : ExitFrame) : HandlerWrites h f.cpu (vmexitHandler d h f).2.cpu := by
  obtain ⟨_ | regs, cpu, calls⟩ := f
  · exact .refl h _
  · have hw := handleVmexit_writes d h ⟨regs, cpu, calls⟩
    simp only [vmexitHandler]
    split <;> exact hw

theorem keptByVmExit_ne_rip {g : BitVec 32} (hg : KeptByVmExit g) : g ≠ Guest.RIP := by
  rintro rfl
  revert hg
  decide

/-- MSR の処理が VMX の能力 MSR を書かなければ、処理は VMX の状態を変えない。 -/
theorem HandlerWrites.hostKept {h : Handlers} (hmsr : h.KeepsVmxMsrs) {c c' : Cpu} (hw : HandlerWrites h c c') :
    HostKept c c' := by
  obtain ⟨hf, hv, hm⟩ := hw
  refine ⟨by rw [hf], by rw [hf], by rw [hf], fun g hg => hv g (keptByVmExit_ne_rip hg), fun i hi => ?_⟩
  rcases hm with hm | ⟨k, regs, hm⟩ <;> rw [hm]
  exact hmsr k regs c.msr i hi

end Handler

/-! ## VM exit の繰り返し -/

section Loop

variable {d : Decoders} {h : Handlers} {c₀ : Cpu}

/-- VM exit の繰り返しの帰納：ゲストの走りと処理が保つ性質は、VMLAUNCH のときに成り立てば、`vmexit_handler`
を呼ぶ時点と、それが返った時点のどのフレームでも成り立つ。 -/
theorem AtVmExit.invariant (P : Cpu → Prop) (h₀ : P c₀) (hg : ∀ c c', P c → GuestRunsToExit c c' → P c')
    (hh : ∀ f : ExitFrame, P f.cpu → P (vmexitHandler d h f).2.cpu) {f : ExitFrame} (hf : AtVmExit d h c₀ f) :
    P f.cpu ∧ P (vmexitHandler d h f).2.cpu := by
  induction hf with
  | launch _ hr => exact ⟨hg _ _ h₀ hr, hh _ (hg _ _ h₀ hr)⟩
  | resume _ _ hr ih => exact ⟨hg _ _ ih.2 hr, hh _ (hg _ _ ih.2 hr)⟩

/-- VMRESUME と VM exit をどれだけ繰り返しても、`vmexit_handler` を呼ぶ時点と、それが返った時点のプロセッサは
VMLAUNCH のときから `HostKept` である。 -/
theorem atVmExit_hostKept (hmsr : h.KeepsVmxMsrs) {f : ExitFrame} (hf : AtVmExit d h c₀ f) :
    HostKept c₀ f.cpu ∧ HostKept c₀ (vmexitHandler d h f).2.cpu :=
  AtVmExit.invariant (HostKept c₀) (.refl c₀) (fun _ _ hk hr => hk.trans hr.hostKept)
    (fun _ hk => hk.trans ((vmexitHandler_writes d h _).hostKept hmsr)) hf

/-- `vmexit_handler` を呼ぶ時点のプロセッサは、VMLAUNCH のときの VMX の状態からの VM exit がホスト状態を
読み込んだものである。 -/
theorem atVmExit_loaded (hmsr : h.KeepsVmxMsrs) {f : ExitFrame} (hf : AtVmExit d h c₀ f) :
    ∃ g, HostKept c₀ g ∧ f.cpu = g.vmExit := by
  cases hf with
  | launch _ hr => exact hr
  | resume hf' _ hr =>
    obtain ⟨g, hg, rfl⟩ := hr
    exact ⟨g, (atVmExit_hostKept hmsr hf').2.trans hg, rfl⟩

end Loop

end Hypervisor
