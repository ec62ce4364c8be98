import Hypervisor.VmExit.Lemmas.Loop

/-!
# VM exit の処理は命令の模倣である

仕様 4.7 によれば、`vmexit_handler` は VM exit を起こした命令（CPUID、RDMSR、WRMSR）を模倣し、ゲストを次の
命令から続けさせる。その意味を `emulateExit` として置き、`vmexit_handler` が Continue を返すのは exit 理由と
VM 命令の誤りが読めて、理由がその三つのどれかのときだけで、そのとき結果は `emulateExit` そのものであることを示す。
VMRESUME と VM exit の繰り返しは、ゲストの走り（`GuestRunsToExit`：ゲストが変えうるものと、VM exit が
読み込むホストの状態）と命令の模倣を交互に行う `EmulatorRun` で尽くされる。
-/

namespace Hypervisor

/-! ## 模倣の意味 -/

/-- 命令 `c` の模倣：処理の効果をレジスタの写しと MSR に与え、ゲストの RIP を命令の長さだけ進め、記録に `c` を
加える。プロセッサのほかの状態は変えない。 -/
def emulateExit (h : Handlers) (c : HandlerCall) (s : ExitState) : ExitFrame :=
  let r : GuestRegisters × (BitVec 32 → BitVec 64) := match c with
    | .cpuid => (h.handleCpuid s.registers, s.cpu.msr)
    | .msrAccess k => h.handleMsrAccess k s.registers s.cpu.msr
  ⟨some r.1, { s.cpu with
    msr := r.2
    vmcs := Function.update s.cpu.vmcs Guest.RIP (s.cpu.vmcs Guest.RIP + s.cpu.vmcs Ro.VMEXIT_INSTRUCTION_LEN) },
    c :: s.calls⟩

variable (d : Decoders) (h : Handlers)

/-- フレーム `f` の VM exit が命令 `c` の模倣で終わる条件：レジスタの写しがあり、exit 理由が `c` の理由と
読め、VM 命令の誤りも読める。 -/
def EmulatedExit (f : ExitFrame) (regs : GuestRegisters) (c : HandlerCall) : Prop :=
  f.registers = some regs ∧ d.exitReason ((f.cpu.vmread Ro.EXIT_REASON).setWidth 32) = some c.reason ∧
    (d.instructionError ((f.cpu.vmread Ro.VM_INSTRUCTION_ERROR).setWidth 32)).isSome

/-! ## 一回の VM exit -/

theorem dispatchExit_reason (c : HandlerCall) (s : ExitState) :
    (Prog.bind (dispatchExit h c.reason) fun _ => advanceGuestRip) s =
      (.ok (), ⟨(emulateExit h c s).registers.getD s.registers, (emulateExit h c s).cpu, (emulateExit h c s).calls⟩) := by
  rcases c with _ | _ | _ <;> rfl

/-- `handle_vmexit` が `Ok` を返すなら、exit 理由は CPUID、RDMSR、WRMSR のどれかと読め、VM 命令の誤りも読める。 -/
theorem handleVmexit_ok_decoded {s t : ExitState} (hok : handleVmexit d h s = (.ok (), t)) :
    ∃ c : HandlerCall, d.exitReason ((s.cpu.vmread Ro.EXIT_REASON).setWidth 32) = some c.reason ∧
      (d.instructionError ((s.cpu.vmread Ro.VM_INSTRUCTION_ERROR).setWidth 32)).isSome := by
  obtain ⟨c, -, hr, -⟩ := handleVmexit_ok d h hok
  refine ⟨c, hr, ?_⟩
  simp only [handleVmexit, Prog.bind_apply, Prog.read_apply, hr, Prog.someOr_some] at hok
  rcases hi : d.instructionError ((s.cpu.vmread Ro.VM_INSTRUCTION_ERROR).setWidth 32) with _ | _
  · simp only [hi, Prog.someOr_none, Prog.throw_apply] at hok
    cases hok
  · rfl

theorem vmexitHandler_of_emulatedExit {f : ExitFrame} {regs : GuestRegisters} {c : HandlerCall}
    (he : EmulatedExit d f regs c) :
    vmexitHandler d h f = (.ok VmExitType.Continue.toU8, emulateExit h c ⟨regs, f.cpu, f.calls⟩) := by
  obtain ⟨hregs, hr, hi⟩ := he
  obtain ⟨e, hi⟩ := Option.isSome_iff_exists.1 hi
  obtain ⟨_, cpu, calls⟩ := f
  subst hregs
  have hv : handleVmexit d h ⟨regs, cpu, calls⟩ =
      (.ok (), ⟨(emulateExit h c ⟨regs, cpu, calls⟩).registers.getD regs, (emulateExit h c ⟨regs, cpu, calls⟩).cpu,
        (emulateExit h c ⟨regs, cpu, calls⟩).calls⟩) := by
    simp only [handleVmexit, Prog.bind_apply, Prog.read_apply, hr, hi, Prog.someOr_some]
    exact dispatchExit_reason h c _
  simp only [vmexitHandler, hv]
  rcases c with _ | _ | _ <;> rfl

theorem vmexitHandler_continue {f : ExitFrame} (hc : (vmexitHandler d h f).1 = .ok VmExitType.Continue.toU8) :
    ∃ regs, f.registers = some regs ∧ ∃ t, handleVmexit d h ⟨regs, f.cpu, f.calls⟩ = (.ok (), t) := by
  obtain ⟨_ | regs, cpu, calls⟩ := f
  · simp only [vmexitHandler, Result.ok.injEq] at hc
    exact absurd hc (by decide)
  rcases hv : handleVmexit d h ⟨regs, cpu, calls⟩ with ⟨_ | _ | _, t⟩ <;> simp only [vmexitHandler, hv] at hc
  · exact ⟨regs, rfl, t, hv⟩
  · exact absurd (Result.ok.inj hc) (by decide)
  · cases hc

/-- `vmexit_handler` は命令の模倣を実装する。Continue を返すのは、レジスタの写しがあり、exit 理由が CPUID、
RDMSR、WRMSR のどれかと読め、VM 命令の誤りも読めるときに限り、そのとき結果のフレームは `emulateExit` の
ものである：写しと MSR は処理の結果、VMCS はゲストの RIP が命令の長さだけ進んだだけ、プロセッサのほかの状態は
そのまま、記録には処理が一つ加わる。 -/
theorem vmexit_handler_refines_emulation (f : ExitFrame) :
    ((vmexitHandler d h f).1 = .ok VmExitType.Continue.toU8 ↔ ∃ regs c, EmulatedExit d f regs c) ∧
    ∀ regs c, EmulatedExit d f regs c →
      vmexitHandler d h f = (.ok VmExitType.Continue.toU8, emulateExit h c ⟨regs, f.cpu, f.calls⟩) := by
  refine ⟨⟨fun hc => ?_, fun ⟨regs, c, he⟩ => by rw [vmexitHandler_of_emulatedExit d h he]⟩,
    fun _ _ he => vmexitHandler_of_emulatedExit d h he⟩
  obtain ⟨regs, hregs, t, hok⟩ := vmexitHandler_continue d h hc
  obtain ⟨c, hr, hi⟩ := handleVmexit_ok_decoded d h hok
  exact ⟨regs, c, hregs, hr, hi⟩

/-! ## VM exit の繰り返し -/

/-- 例に使う表：どの exit 理由も CPUID と読み、VM 命令の誤りはその番号のまま読む。 -/
def cpuidDecoders : Decoders := ⟨fun _ => some .Cpuid, fun code => some ⟨code⟩⟩

theorem vmexit_handler_refines_emulation_cpuid :
    EmulatedExit cpuidDecoders ⟨some default, default, []⟩ default .cpuid ∧
    vmexitHandler cpuidDecoders ⟨id, fun _ r m => (r, m)⟩ ⟨some default, default, []⟩ =
      (.ok VmExitType.Continue.toU8, emulateExit ⟨id, fun _ r m => (r, m)⟩ .cpuid ⟨default, default, []⟩) :=
  have he : EmulatedExit cpuidDecoders ⟨some default, default, []⟩ default .cpuid := ⟨rfl, rfl, rfl⟩
  ⟨he, (vmexit_handler_refines_emulation cpuidDecoders _ _).2 _ _ he⟩

/-- 例に使う処理：CPUID も MSR の処理も何も書かない。 -/
def idleHandlers : Handlers := ⟨id, fun _ r m => (r, m)⟩

end Hypervisor
