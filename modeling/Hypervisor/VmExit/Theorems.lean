import Hypervisor.VmExit.Lemmas.Dispatch
import Hypervisor.VmExit.Exception

/-!
# VM exit の処理の定理

`vmexit_handler` が返す値と、そのとき処理が残すもの、例外による VM exit でどの事象を注入し、いつ RIP を
移すかを言明する。
-/

namespace Hypervisor

/-! ## 振り分け -/

section Dispatch

variable (d : Decoders) (h : Handlers)

/-- `vmexit_handler` が値 `r` を返したときに成り立つこと。Continue は `handle_vmexit` の `Ok` のときだけで、
そのとき exit 理由に合う処理が一度だけ走り、RIP は命令の長さだけ進む。ExitHypervisor のときは何も変わらず、
レジスタの写しがあれば、exit 理由か VM 命令の誤りが読めなかったときである。 -/
def VmexitOutcome (f : ExitFrame) (r : BitVec 8) : Prop :=
  (r = VmExitType.Continue.toU8 ↔
    ∃ regs, f.registers = some regs ∧ (handleVmexit d h ⟨regs, f.cpu, f.calls⟩).1 = .ok ()) ∧
  (r = VmExitType.Continue.toU8 → ∃ c, (vmexitHandler d h f).2.calls = c :: f.calls ∧
    d.exitReason ((f.cpu.vmread Ro.EXIT_REASON).setWidth 32) = some c.reason ∧
    (vmexitHandler d h f).2.cpu.vmread Guest.RIP = f.cpu.vmread Guest.RIP + f.cpu.vmread Ro.VMEXIT_INSTRUCTION_LEN) ∧
  (r = VmExitType.ExitHypervisor.toU8 → (vmexitHandler d h f).2 = f) ∧
  (r = VmExitType.ExitHypervisor.toU8 → f.registers.isSome →
    d.exitReason ((f.cpu.vmread Ro.EXIT_REASON).setWidth 32) = none ∨
      d.instructionError ((f.cpu.vmread Ro.VM_INSTRUCTION_ERROR).setWidth 32) = none) ∧
  (r = VmExitType.Continue.toU8 ∨ r = VmExitType.ExitHypervisor.toU8)

/-- `vmexit_handler` が返るなら、Continue か ExitHypervisor を返し、`VmexitOutcome` が成り立つ。 -/
theorem vmexit_handler_outcome (f : ExitFrame) {r : BitVec 8} (hr : (vmexitHandler d h f).1 = .ok r) :
    VmexitOutcome d h f r := by
  obtain ⟨_ | regs, cpu, calls⟩ := f
  · simp only [vmexitHandler, Result.ok.injEq] at hr
    subst hr
    exact ⟨by simp [VmExitType.toU8], fun h2 => absurd h2 (by decide), fun _ => rfl, fun _ h2 => (by cases h2),
      .inr rfl⟩
  rcases hv : handleVmexit d h ⟨regs, cpu, calls⟩ with ⟨_ | e | _, t⟩ <;>
    simp only [vmexitHandler, hv, Result.ok.injEq] at hr
  · subst hr
    obtain ⟨c, hc, hreason, hrip⟩ := handleVmexit_ok d h hv
    exact ⟨by simp [hv], fun _ => ⟨c, by simp [vmexitHandler, hv, hc], hreason, by simp [vmexitHandler, hv, hrip]⟩,
      fun h2 => absurd h2 (by decide), fun h2 => absurd h2 (by decide), .inl rfl⟩
  · subst hr
    obtain ⟨rfl, he⟩ := handleVmexit_err d h hv
    exact ⟨by simp [hv, VmExitType.toU8], fun h2 => absurd h2 (by decide), fun _ => by simp [vmexitHandler, hv],
      fun _ _ => he.imp And.right And.right, .inr rfl⟩
  · cases hr

/-- null のレジスタの写しでは ExitHypervisor を返す。exit 理由 10（CPUID）と命令の長さ 2 の VM exit では
Continue を返し、ゲストの RIP を 0 から 2 に進める。 -/
theorem vmexit_handler_outcome_samples :
    let d : Decoders := ⟨fun n => if n = 10 then some .Cpuid else none, fun code => some ⟨code⟩⟩
    let h : Handlers := ⟨id, fun _ r m => (r, m)⟩
    let null : ExitFrame := ⟨none, default, []⟩
    let cpuid : ExitFrame := ⟨some default, { (default : Cpu) with
      vmcs := fun g => if g = Ro.EXIT_REASON then 10 else if g = Ro.VMEXIT_INSTRUCTION_LEN then 2 else 0 }, []⟩
    ((vmexitHandler d h null).1 = .ok VmExitType.ExitHypervisor.toU8 ∧
      VmexitOutcome d h null VmExitType.ExitHypervisor.toU8) ∧
    ((vmexitHandler d h cpuid).1 = .ok VmExitType.Continue.toU8 ∧ VmexitOutcome d h cpuid VmExitType.Continue.toU8 ∧
      (vmexitHandler d h cpuid).2.cpu.vmread Guest.RIP = 2) :=
  ⟨⟨rfl, vmexit_handler_outcome _ _ _ rfl⟩, ⟨rfl, vmexit_handler_outcome _ _ _ rfl, rfl⟩⟩

end Dispatch

/-! ## 例外 -/

section Exception

variable (hm : HookManager)

/-- 読めた interruption-information `info` の例外による VM exit で、`handle_exception` がすること。#PF と #GP は
捕らえた誤りコードとともに注入し、#BP はレジスタの写しの RIP に飛び先 `h ≠ 0` の `Function` のフックがあれば
写しと VMCS の RIP を `h` にし、`Function` のフックがなければ #BP を注入する。どれも Continue を返し、
ほかは何も書かない。 -/
def ExceptionHandled (s : ExitState) (info : VmExitInterruptionInformation) : Prop :=
  let errorCode := (s.cpu.vmread Ro.VMEXIT_INTERRUPTION_ERR_CODE).setWidth 32
  (info.vector = 14 → handleException hm s =
    (.ok .Continue, { s with cpu := EventInjection.write ⟨14, HARDWARE_EXCEPTION, some errorCode⟩ s.cpu })) ∧
  (info.vector = 13 → handleException hm s =
    (.ok .Continue, { s with cpu := EventInjection.write ⟨13, HARDWARE_EXCEPTION, some errorCode⟩ s.cpu })) ∧
  (info.vector = 3 → ∀ hook h, hm.findHookByAddress s.registers.rip = some hook → hook.hookType = .Function ⟨h⟩ →
    h ≠ 0 → handleException hm s = (.ok .Continue, { s with registers.rip := h, cpu := s.cpu.vmwrite Guest.RIP h })) ∧
  (info.vector = 3 → (∀ hook, hm.findHookByAddress s.registers.rip = some hook → ∀ ih, hook.hookType ≠ .Function ih) →
    handleException hm s = (.ok .Continue, { s with cpu := EventInjection.write ⟨3, SOFTWARE_EXCEPTION, none⟩ s.cpu }))

theorem handle_exception_effect (s : ExitState) {info : VmExitInterruptionInformation}
    (hinfo : VmExitInterruptionInformation.fromU32 ((s.cpu.vmread Ro.VMEXIT_INTERRUPTION_INFO).setWidth 32) = some info) :
    ExceptionHandled hm s info := by
  refine ⟨fun hv => ?_, fun hv => ?_, fun hv hook h hfind htype _ => ?_, fun hv hnone => ?_⟩ <;>
    simp only [handleException, hinfo, hv]
  · rfl
  · rfl
  · simp [handleBreakpointException, hookHandler, hfind, htype]
  · rcases hfind : hm.findHookByAddress s.registers.rip with _ | hook
    · simp [handleBreakpointException, hookHandler, hfind, EventInjection.vmentryInjectBp]
    · rcases htype : hook.hookType with ih | _
      · exact absurd htype (hnone hook hfind ih)
      · simp [handleBreakpointException, hookHandler, hfind, htype, EventInjection.vmentryInjectBp]

theorem handle_exception_effect_page_fault :
    let s : ExitState := ⟨default, { (default : Cpu) with
      vmcs := fun f => if f = Ro.VMEXIT_INTERRUPTION_INFO then 0x80000B0E else 0 }, []⟩
    VmExitInterruptionInformation.fromU32 ((s.cpu.vmread Ro.VMEXIT_INTERRUPTION_INFO).setWidth 32) =
      some ⟨14, HARDWARE_EXCEPTION, true, false, true⟩ ∧
    ExceptionHandled ⟨fun _ => none⟩ s ⟨14, HARDWARE_EXCEPTION, true, false, true⟩ :=
  ⟨by decide, handle_exception_effect _ _ (by decide)⟩

/-- #PF による VM exit で EXIT_QUALIFICATION が 0x1000 でも、`handle_exception` は CR2 を書かない。 -/
theorem handle_exception_leaves_cr2 :
    let s : ExitState := ⟨default, { (default : Cpu) with
      vmcs := fun f => if f = Ro.VMEXIT_INTERRUPTION_INFO then 0x80000B0E
        else if f = Ro.EXIT_QUALIFICATION then 0x1000 else 0 }, []⟩
    VmExitInterruptionInformation.fromU32 ((s.cpu.vmread Ro.VMEXIT_INTERRUPTION_INFO).setWidth 32) =
      some ⟨14, HARDWARE_EXCEPTION, true, false, true⟩ ∧
    (handleException ⟨fun _ => none⟩ s).1 = .ok .Continue ∧
    (handleException ⟨fun _ => none⟩ s).2.cpu.cr2 ≠ s.cpu.vmread Ro.EXIT_QUALIFICATION := by
  decide

end Exception

end Hypervisor
