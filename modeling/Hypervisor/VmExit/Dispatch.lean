import Hypervisor.VmExit.Types

/-!
# VM exit の振り分け（`vmexit/mod.rs`）

`handle_vmexit` は exit 理由と VM 命令の誤りを読み、知らない番号なら `Err` を返す。CPUID、RDMSR、WRMSR の
処理を一つ呼び、ゲストの RIP を命令の長さだけ進める。`vmexit_handler` は `Ok` を Continue に、`Err` と
null ポインタを ExitHypervisor にする。
-/

namespace Hypervisor

variable (d : Decoders) (h : Handlers)

/-- `match basic_exit_reason`：理由に合う処理を一つ呼ぶ。ほかの理由は panic する。 -/
def dispatchExit : VmxBasicExitReason → Prog ExitState Unit
  | .Cpuid => Prog.modify fun s => { s with registers := h.handleCpuid s.registers, calls := .cpuid :: s.calls }
  | .Rdmsr => Prog.modify fun s =>
      let r := h.handleMsrAccess .Read s.registers s.cpu.msr
      { s with registers := r.1, cpu.msr := r.2, calls := .msrAccess .Read :: s.calls }
  | .Wrmsr => Prog.modify fun s =>
      let r := h.handleMsrAccess .Write s.registers s.cpu.msr
      { s with registers := r.1, cpu.msr := r.2, calls := .msrAccess .Write :: s.calls }
  | .other _ => Prog.panic

/-- `VmExit::advance_guest_rip`：`rip += len` は 2^64 で回る（release のビルド）。 -/
def advanceGuestRip : Prog ExitState Unit := Prog.modify fun s =>
  let rip := s.cpu.vmread Guest.RIP
  let len := s.cpu.vmread Ro.VMEXIT_INSTRUCTION_LEN
  { s with cpu := s.cpu.vmwrite Guest.RIP (rip + len) }

/-- `VmExit::handle_vmexit(registers)`。 -/
def handleVmexit : Prog ExitState Unit := do
  let exitReason ← Prog.read fun s => (s.cpu.vmread Ro.EXIT_REASON).setWidth 32
  let basicExitReason ← Prog.someOr .UnknownVMExitReason (d.exitReason exitReason)
  let instructionError ← Prog.read fun s => (s.cpu.vmread Ro.VM_INSTRUCTION_ERROR).setWidth 32
  let _ ← Prog.someOr .UnknownVMInstructionError (d.instructionError instructionError)
  dispatchExit h basicExitReason
  advanceGuestRip

/-- `vmexit_handler` が受け取るもの：レジスタの写しへのポインタ（`none` は null）と、プロセッサ。 -/
structure ExitFrame where
  registers : Option GuestRegisters
  cpu : Cpu
  calls : List HandlerCall

/-- `vmexit_handler(registers)`。`handle_vmexit` の panic はそのまま panic する。 -/
def vmexitHandler : Prog ExitFrame (BitVec 8) := fun f =>
  match f.registers with
  | none => (.ok VmExitType.ExitHypervisor.toU8, f)
  | some registers =>
    let r := handleVmexit d h ⟨registers, f.cpu, f.calls⟩
    let f' : ExitFrame := ⟨some r.2.registers, r.2.cpu, r.2.calls⟩
    match r.1 with
    | .ok () => (.ok VmExitType.Continue.toU8, f')
    | .err _ => (.ok VmExitType.ExitHypervisor.toU8, f')
    | .panic => (.panic, f')

end Hypervisor
