import Hypervisor.VmExit.Types

/-!
# 例外による VM exit（`vmexit/exception.rs`）

#PF と #GP は誤りコードとともにゲストへ注入し直す。#BP は、レジスタの写しの RIP に `Function` のフックが
あればその飛び先へ RIP を移し、なければ #BP を注入し直す。ほかの例外と、読めない interruption-information
は panic する。
-/

namespace Hypervisor

variable (hm : HookManager)

/-- `find_hook_by_address(rip).map(...)`：`Function` のフックなら飛び先、ほかの種類なら `None`。 -/
def hookHandler (rip : BitVec 64) : Option (Option (BitVec 64)) :=
  (hm.findHookByAddress rip).map fun hook =>
    match hook.hookType with
    | .Function inlineHook => some inlineHook.handlerAddress
    | _ => none

/-- `handle_breakpoint_exception`。 -/
def handleBreakpointException : Prog ExitState Unit := fun s =>
  match hookHandler hm s.registers.rip with
  | some (some handler) => (.ok (), { s with registers.rip := handler, cpu := s.cpu.vmwrite Guest.RIP handler })
  | _ => (.ok (), { s with cpu := EventInjection.vmentryInjectBp s.cpu })

/-- `handle_exception`。#PF の枝は EXIT_QUALIFICATION を読んで記録に出すだけで、状態は変えない。 -/
def handleException : Prog ExitState VmExitType := fun s =>
  let interruptionInfoValue := s.cpu.vmread Ro.VMEXIT_INTERRUPTION_INFO
  let interruptionErrorCodeValue := s.cpu.vmread Ro.VMEXIT_INTERRUPTION_ERR_CODE
  match VmExitInterruptionInformation.fromU32 (interruptionInfoValue.setWidth 32) with
  | none => (.panic, s)
  | some interruptionInfo =>
    match ExceptionInterrupt.fromU32 (interruptionInfo.vector.setWidth 32) with
    | some .PageFault =>
      (.ok .Continue, { s with cpu := EventInjection.vmentryInjectPf (interruptionErrorCodeValue.setWidth 32) s.cpu })
    | some .GeneralProtectionFault =>
      (.ok .Continue, { s with cpu := EventInjection.vmentryInjectGp (interruptionErrorCodeValue.setWidth 32) s.cpu })
    | some .Breakpoint => (.ok .Continue, (handleBreakpointException hm s).2)
    | _ => (.panic, s)

end Hypervisor
