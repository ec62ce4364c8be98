import Hypervisor.Arch.Cpu

/-!
# VMX 制御の値を能力 MSR に合わせる

`adjust_vmx_controls(control, requested)` は、能力 MSR の下位 32 ビット（allowed0、1 でなければならない
ビット）を立て、上位 32 ビット（allowed1、1 にしてよいビット）の外を落とす。
-/

namespace Hypervisor

/-- `VmxControl`：制御フィールドの種類。 -/
inductive VmxControl where
  | PinBased
  | ProcessorBased
  | ProcessorBased2
  | VmExit
  | VmEntry
  deriving DecidableEq, Repr

def IA32_VMX_BASIC_VMX_CONTROLS_FLAG : BitVec 64 := 0x80000000000000

/-- `adjust_vmx_controls` の中の `cap_msr`：読む能力 MSR。`IA32_VMX_PROCBASED_CTLS2` には TRUE の MSR がない。 -/
def capMsr : VmxControl → Bool → BitVec 32
  | .PinBased, true => Msr.IA32_VMX_TRUE_PINBASED_CTLS
  | .PinBased, false => Msr.IA32_VMX_PINBASED_CTLS
  | .ProcessorBased, true => Msr.IA32_VMX_TRUE_PROCBASED_CTLS
  | .ProcessorBased, false => Msr.IA32_VMX_PROCBASED_CTLS
  | .VmExit, true => Msr.IA32_VMX_TRUE_EXIT_CTLS
  | .VmExit, false => Msr.IA32_VMX_EXIT_CTLS
  | .VmEntry, true => Msr.IA32_VMX_TRUE_ENTRY_CTLS
  | .VmEntry, false => Msr.IA32_VMX_ENTRY_CTLS
  | .ProcessorBased2, _ => Msr.IA32_VMX_PROCBASED_CTLS2

/-- 能力 MSR の下位 32 ビット：1 でなければならないビット。 -/
def allowed0 (capabilities : BitVec 64) : BitVec 32 := capabilities.setWidth 32

/-- 能力 MSR の上位 32 ビット：1 にしてよいビット。 -/
def allowed1 (capabilities : BitVec 64) : BitVec 32 := (capabilities >>> 32).setWidth 32

/-- `adjust_vmx_controls(control, requested_value)`。`u32::try_from(requested_value).unwrap()` は
32 ビットに収まらない値で panic する（`none`）。 -/
def adjustVmxControls (rdmsr : BitVec 32 → BitVec 64) (control : VmxControl) (requestedValue : BitVec 64) :
    Option (BitVec 64) :=
  let vmxBasic := rdmsr Msr.IA32_VMX_BASIC
  let trueCapMsrSupported := vmxBasic &&& IA32_VMX_BASIC_VMX_CONTROLS_FLAG != 0
  let capabilities := rdmsr (capMsr control trueCapMsrSupported)
  if requestedValue.toNat < 2 ^ 32 then
    let effectiveValue := (requestedValue.setWidth 32 ||| allowed0 capabilities) &&& allowed1 capabilities
    some (effectiveValue.setWidth 64)
  else none

/-! ## `init_vmcs_control_values` が求める値 -/

def PRIMARY_CTL : BitVec 64 := SECONDARY_CONTROLS
def SECONDARY_CTL : BitVec 64 := ENABLE_RDTSCP ||| ENABLE_XSAVES_XRSTORS ||| ENABLE_INVPCID
def ENTRY_CTL : BitVec 64 := IA32E_MODE_GUEST
def EXIT_CTL : BitVec 64 := HOST_ADDRESS_SPACE_SIZE
def PINBASED_CTL : BitVec 64 := 0

/-- `init_vmcs_control_values` が書く五つの制御フィールドと、その種類と求める値（書く順）。 -/
def controlRequests : List (BitVec 32 × VmxControl × BitVec 64) :=
  [(Control.PRIMARY_PROCBASED_EXEC_CONTROLS, .ProcessorBased, PRIMARY_CTL),
   (Control.SECONDARY_PROCBASED_EXEC_CONTROLS, .ProcessorBased2, SECONDARY_CTL),
   (Control.VMENTRY_CONTROLS, .VmEntry, ENTRY_CTL),
   (Control.VMEXIT_CONTROLS, .VmExit, EXIT_CTL),
   (Control.PINBASED_EXEC_CONTROLS, .PinBased, PINBASED_CTL)]

end Hypervisor
