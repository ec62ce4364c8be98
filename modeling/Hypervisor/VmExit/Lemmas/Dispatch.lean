import Hypervisor.VmExit.Dispatch

/-!
# `handle_vmexit` の各段の結果

処理は VMCS を書かず、記録に一つだけ加える。`handle_vmexit` の `Err` は何も書く前に返る。
-/

namespace Hypervisor

variable (d : Decoders) (h : Handlers)

/-- 理由に合う処理が一つ走り、VMCS は変わらない。ほかの理由では panic する。 -/
theorem dispatchExit_cases (r : VmxBasicExitReason) (s : ExitState) :
    (∃ c t, c.reason = r ∧ dispatchExit h r s = (.ok (), t) ∧ t.calls = c :: s.calls ∧ t.cpu.vmcs = s.cpu.vmcs) ∨
    (∃ n, r = .other n ∧ dispatchExit h r s = (.panic, s)) := by
  cases r with
  | Cpuid => exact .inl ⟨.cpuid, _, rfl, rfl, rfl, rfl⟩
  | Rdmsr => exact .inl ⟨.msrAccess .Read, _, rfl, rfl, rfl, rfl⟩
  | Wrmsr => exact .inl ⟨.msrAccess .Write, _, rfl, rfl, rfl, rfl⟩
  | other n => exact .inr ⟨n, rfl, rfl⟩

theorem advanceGuestRip_apply (s : ExitState) :
    advanceGuestRip s =
      (.ok (), { s with cpu := s.cpu.vmwrite Guest.RIP (s.cpu.vmread Guest.RIP + s.cpu.vmread Ro.VMEXIT_INSTRUCTION_LEN) }) :=
  rfl

/-- `handle_vmexit` が `Ok` を返せば、exit 理由に合う処理が一つ走り、RIP は命令の長さだけ進む。 -/
theorem handleVmexit_ok {s t : ExitState} (hok : handleVmexit d h s = (.ok (), t)) :
    ∃ c, t.calls = c :: s.calls ∧ d.exitReason ((s.cpu.vmread Ro.EXIT_REASON).setWidth 32) = some c.reason ∧
      t.cpu.vmread Guest.RIP = s.cpu.vmread Guest.RIP + s.cpu.vmread Ro.VMEXIT_INSTRUCTION_LEN := by
  simp only [handleVmexit, Prog.bind_apply, Prog.read_apply] at hok
  rcases hr : d.exitReason ((s.cpu.vmread Ro.EXIT_REASON).setWidth 32) with _ | r <;>
    simp only [hr, Prog.someOr_none, Prog.someOr_some, Prog.throw_apply, Prog.pure_apply] at hok
  · cases hok
  rcases hi : d.instructionError ((s.cpu.vmread Ro.VM_INSTRUCTION_ERROR).setWidth 32) with _ | _ <;>
    simp only [hi, Prog.someOr_none, Prog.someOr_some, Prog.throw_apply, Prog.pure_apply] at hok
  · cases hok
  rcases dispatchExit_cases h r s with ⟨c, t', rfl, hd, hc, hv⟩ | ⟨n, -, hd⟩ <;> rw [hd] at hok
  · simp only [advanceGuestRip_apply, Prod.mk.injEq] at hok
    obtain ⟨-, rfl⟩ := hok
    exact ⟨c, hc, rfl, by simp [Cpu.vmread, hv]⟩
  · cases hok

/-- `handle_vmexit` の `Err` は、知らない exit 理由か、知らない VM 命令の誤りで、何も書かずに返る。 -/
theorem handleVmexit_err {s t : ExitState} {e : HypervisorError} (herr : handleVmexit d h s = (.err e, t)) :
    t = s ∧ (e = .UnknownVMExitReason ∧ d.exitReason ((s.cpu.vmread Ro.EXIT_REASON).setWidth 32) = none ∨
      e = .UnknownVMInstructionError ∧ d.instructionError ((s.cpu.vmread Ro.VM_INSTRUCTION_ERROR).setWidth 32) = none) := by
  simp only [handleVmexit, Prog.bind_apply, Prog.read_apply] at herr
  rcases hr : d.exitReason ((s.cpu.vmread Ro.EXIT_REASON).setWidth 32) with _ | r <;>
    simp only [hr, Prog.someOr_none, Prog.someOr_some, Prog.throw_apply, Prog.pure_apply] at herr
  · cases herr; exact ⟨rfl, .inl ⟨rfl, rfl⟩⟩
  rcases hi : d.instructionError ((s.cpu.vmread Ro.VM_INSTRUCTION_ERROR).setWidth 32) with _ | _ <;>
    simp only [hi, Prog.someOr_none, Prog.someOr_some, Prog.throw_apply, Prog.pure_apply] at herr
  · cases herr; exact ⟨rfl, .inr ⟨rfl, rfl⟩⟩
  rcases dispatchExit_cases h r s with ⟨c, t', -, hd, -⟩ | ⟨n, -, hd⟩ <;> rw [hd] at herr <;> cases herr

end Hypervisor
