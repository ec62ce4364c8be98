import Hypervisor.Arch.Cpu

/-!
# VM exit の処理が使う型

`vmerror.rs`、`events.rs`、`ept/hooks.rs`、`cpuid.rs`、`msr.rs` は src/ にない。処理の本体（`mod.rs`、
`exception.rs`）が使う形だけを、仕様と SDM から作る。番号の表と、CPUID と MSR の処理は引数にする。
-/

namespace Hypervisor

/-! ## 処理の結果 -/

/-- `VmExitType`。`exception.rs` の `ExitType` も同じ値を返す。 -/
inductive VmExitType where
  | ExitHypervisor
  | IncrementRIP
  | Continue
  deriving DecidableEq, Repr

/-- `VmExitType as u8`。 -/
def VmExitType.toU8 : VmExitType → BitVec 8
  | .ExitHypervisor => 0
  | .IncrementRIP => 1
  | .Continue => 2

/-! ## exit 理由と VM 命令の誤り -/

/-- Modelled from the spec: `VmxBasicExitReason` は src/ にない。処理が見分ける三つの理由のほかは番号で持つ。 -/
inductive VmxBasicExitReason where
  | Cpuid
  | Rdmsr
  | Wrmsr
  | other (code : BitVec 32)
  deriving DecidableEq, Repr

/-- Modelled from the spec: `VmInstructionError` は src/ にない。SDM 31.4 の番号で持つ。 -/
structure VmInstructionError where
  code : BitVec 32
  deriving DecidableEq, Repr

/-- `VmxBasicExitReason::from_u32` と `VmInstructionError::from_u32`。どの番号を知っているかは src/ にない
表が決めるので、引数にする。 -/
structure Decoders where
  exitReason : BitVec 32 → Option VmxBasicExitReason
  instructionError : BitVec 32 → Option VmInstructionError

/-! ## CPUID と MSR の処理 -/

/-- Modelled from the spec: `msr.rs` は src/ にない。 -/
inductive MsrAccessType where
  | Read
  | Write
  deriving DecidableEq, Repr

/-- Modelled from the spec: `handle_cpuid` と `handle_msr_access` は src/ にない。CPUID はレジスタの写しを、
RDMSR はレジスタの写しを、WRMSR は MSR を書く。どう書くかは任意。 -/
structure Handlers where
  handleCpuid : GuestRegisters → GuestRegisters
  handleMsrAccess : MsrAccessType → GuestRegisters → (BitVec 32 → BitVec 64) →
    GuestRegisters × (BitVec 32 → BitVec 64)

/-- 走った処理の記録。 -/
inductive HandlerCall where
  | cpuid
  | msrAccess (accessType : MsrAccessType)
  deriving DecidableEq, Repr

/-- 処理を呼んだ exit 理由。 -/
def HandlerCall.reason : HandlerCall → VmxBasicExitReason
  | .cpuid => .Cpuid
  | .msrAccess .Read => .Rdmsr
  | .msrAccess .Write => .Wrmsr

/-- VM exit の処理が読み書きするもの：レジスタの写し、プロセッサ、走った処理（新しいものが先頭）。 -/
structure ExitState where
  registers : GuestRegisters
  cpu : Cpu
  calls : List HandlerCall

/-! ## 例外と事象の注入 -/

/-- Modelled from the spec: `ExceptionInterrupt` は src/ にない。SDM 表 6-1 の例外。 -/
inductive ExceptionInterrupt where
  | DivideError
  | Debug
  | NonMaskableInterrupt
  | Breakpoint
  | Overflow
  | BoundRangeExceeded
  | InvalidOpcode
  | DeviceNotAvailable
  | DoubleFault
  | InvalidTss
  | SegmentNotPresent
  | StackSegmentFault
  | GeneralProtectionFault
  | PageFault
  | X87FloatingPoint
  | AlignmentCheck
  | MachineCheck
  | SimdFloatingPoint
  | VirtualizationException
  | ControlProtection
  deriving DecidableEq, Repr

/-- `ExceptionInterrupt::from_u32`：表にないベクタ（9、15、22 以上）は `None`。 -/
def ExceptionInterrupt.fromU32 (vector : BitVec 32) : Option ExceptionInterrupt :=
  match vector.toNat with
  | 0 => some .DivideError
  | 1 => some .Debug
  | 2 => some .NonMaskableInterrupt
  | 3 => some .Breakpoint
  | 4 => some .Overflow
  | 5 => some .BoundRangeExceeded
  | 6 => some .InvalidOpcode
  | 7 => some .DeviceNotAvailable
  | 8 => some .DoubleFault
  | 10 => some .InvalidTss
  | 11 => some .SegmentNotPresent
  | 12 => some .StackSegmentFault
  | 13 => some .GeneralProtectionFault
  | 14 => some .PageFault
  | 16 => some .X87FloatingPoint
  | 17 => some .AlignmentCheck
  | 18 => some .MachineCheck
  | 19 => some .SimdFloatingPoint
  | 20 => some .VirtualizationException
  | 21 => some .ControlProtection
  | _ => none

@[simp] theorem ExceptionInterrupt.fromU32_breakpoint : ExceptionInterrupt.fromU32 3#32 = some .Breakpoint := rfl

@[simp] theorem ExceptionInterrupt.fromU32_generalProtectionFault :
    ExceptionInterrupt.fromU32 13#32 = some .GeneralProtectionFault := rfl

@[simp] theorem ExceptionInterrupt.fromU32_pageFault : ExceptionInterrupt.fromU32 14#32 = some .PageFault := rfl

/-- Modelled from the spec: `VmExitInterruptionInformation` は src/ にない。SDM 25.9.2 の VM-exit
interruption-information の欄。 -/
structure VmExitInterruptionInformation where
  vector : BitVec 8
  interruptionType : BitVec 3
  errorCodeValid : Bool
  nmiUnblocking : Bool
  valid : Bool
  deriving DecidableEq, Repr

/-- `VmExitInterruptionInformation::from_u32`：予約ビット 30:13 が立っていれば `None`。 -/
def VmExitInterruptionInformation.fromU32 (value : BitVec 32) : Option VmExitInterruptionInformation :=
  if value.extractLsb' 13 18 = 0 then
    some ⟨value.extractLsb' 0 8, value.extractLsb' 8 3, value.getLsbD 11, value.getLsbD 12, value.getLsbD 31⟩
  else none

def HARDWARE_EXCEPTION : BitVec 3 := 3

def SOFTWARE_EXCEPTION : BitVec 3 := 6

/-- Modelled from the spec: `EventInjection` は src/ にない。VM entry で注入する事象（ベクタ、種類、誤りコード）。 -/
structure EventInjection where
  vector : BitVec 8
  interruptionType : BitVec 3
  errorCode : Option (BitVec 32)
  deriving DecidableEq, Repr

namespace EventInjection

/-- SDM 25.8.3 の VM-entry interruption-information の値：ビット 31 が有効、11 が誤りコードの配送、
10:8 が種類、7:0 がベクタ。 -/
def toU32 (e : EventInjection) : BitVec 32 :=
  0x80000000 ||| (if e.errorCode.isSome then 0x800 else 0) ||| (e.interruptionType.setWidth 32 <<< 8) |||
    e.vector.setWidth 32

/-- 注入を VMCS に書く。誤りコードがあれば、その欄も書く。 -/
def write (e : EventInjection) (c : Cpu) : Cpu :=
  let c := c.vmwrite Control.VMENTRY_INTERRUPTION_INFO_FIELD (e.toU32.setWidth 64)
  match e.errorCode with
  | some code => c.vmwrite Control.VMENTRY_EXCEPTION_ERR_CODE (code.setWidth 64)
  | none => c

/-- `EventInjection::vmentry_inject_pf(error_code)`。 -/
def vmentryInjectPf (errorCode : BitVec 32) : Cpu → Cpu := write ⟨14, HARDWARE_EXCEPTION, some errorCode⟩

/-- `EventInjection::vmentry_inject_gp(error_code)`。 -/
def vmentryInjectGp (errorCode : BitVec 32) : Cpu → Cpu := write ⟨13, HARDWARE_EXCEPTION, some errorCode⟩

/-- `EventInjection::vmentry_inject_bp()`。 -/
def vmentryInjectBp : Cpu → Cpu := write ⟨3, SOFTWARE_EXCEPTION, none⟩

end EventInjection

/-! ## フック -/

/-- Modelled from the spec: `InlineHook` は src/ にない。飛び先の番地だけを持つ。 -/
structure InlineHook where
  handlerAddress : BitVec 64
  deriving DecidableEq, Repr

/-- Modelled from the spec: `HookType` は src/ にない。`Function` のほかの種類はコアが無視する。 -/
inductive HookType where
  | Function (inlineHook : InlineHook)
  | Page
  deriving DecidableEq, Repr

structure Hook where
  hookType : HookType
  deriving DecidableEq, Repr

/-- Modelled from the spec: `HookManager` は src/ にない。コアが使うのは `find_hook_by_address` だけである。 -/
structure HookManager where
  findHookByAddress : BitVec 64 → Option Hook

end Hypervisor
