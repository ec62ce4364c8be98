import Hypervisor.Basic

/-!
# MSR の番号、VMCS のフィールドの符号、制御レジスタの旗

コードは x86 クレートの定数を使う。クレートは src/ にないので、SDM が定める値を書く
（MSR は Vol. 4、VMCS のフィールドは付録 B）。モデルにした関数が使うものだけを置く。
-/

namespace Hypervisor

/-! ## `msr::rdmsr`、`msr::wrmsr` に渡す MSR の番号 -/

namespace Msr

def IA32_FEATURE_CONTROL : BitVec 32 := 0x3A
def IA32_SYSENTER_CS : BitVec 32 := 0x174
def IA32_SYSENTER_ESP : BitVec 32 := 0x175
def IA32_SYSENTER_EIP : BitVec 32 := 0x176
def IA32_DEBUGCTL : BitVec 32 := 0x1D9
def IA32_VMX_BASIC : BitVec 32 := 0x480
def IA32_VMX_PINBASED_CTLS : BitVec 32 := 0x481
def IA32_VMX_PROCBASED_CTLS : BitVec 32 := 0x482
def IA32_VMX_EXIT_CTLS : BitVec 32 := 0x483
def IA32_VMX_ENTRY_CTLS : BitVec 32 := 0x484
def IA32_VMX_CR0_FIXED0 : BitVec 32 := 0x486
def IA32_VMX_CR0_FIXED1 : BitVec 32 := 0x487
def IA32_VMX_CR4_FIXED0 : BitVec 32 := 0x488
def IA32_VMX_CR4_FIXED1 : BitVec 32 := 0x489
def IA32_VMX_PROCBASED_CTLS2 : BitVec 32 := 0x48B
def IA32_VMX_TRUE_PINBASED_CTLS : BitVec 32 := 0x48D
def IA32_VMX_TRUE_PROCBASED_CTLS : BitVec 32 := 0x48E
def IA32_VMX_TRUE_EXIT_CTLS : BitVec 32 := 0x48F
def IA32_VMX_TRUE_ENTRY_CTLS : BitVec 32 := 0x490
def IA32_FS_BASE : BitVec 32 := 0xC0000100
def IA32_GS_BASE : BitVec 32 := 0xC0000101

end Msr

/-! ## `vmcs::guest`：ゲスト状態のフィールド -/

namespace Guest

def ES_SELECTOR : BitVec 32 := 0x800
def CS_SELECTOR : BitVec 32 := 0x802
def SS_SELECTOR : BitVec 32 := 0x804
def DS_SELECTOR : BitVec 32 := 0x806
def FS_SELECTOR : BitVec 32 := 0x808
def GS_SELECTOR : BitVec 32 := 0x80A
def LDTR_SELECTOR : BitVec 32 := 0x80C
def TR_SELECTOR : BitVec 32 := 0x80E
def LINK_PTR_FULL : BitVec 32 := 0x2800
def IA32_DEBUGCTL_FULL : BitVec 32 := 0x2802
def ES_LIMIT : BitVec 32 := 0x4800
def CS_LIMIT : BitVec 32 := 0x4802
def SS_LIMIT : BitVec 32 := 0x4804
def DS_LIMIT : BitVec 32 := 0x4806
def FS_LIMIT : BitVec 32 := 0x4808
def GS_LIMIT : BitVec 32 := 0x480A
def LDTR_LIMIT : BitVec 32 := 0x480C
def TR_LIMIT : BitVec 32 := 0x480E
def GDTR_LIMIT : BitVec 32 := 0x4810
def IDTR_LIMIT : BitVec 32 := 0x4812
def ES_ACCESS_RIGHTS : BitVec 32 := 0x4814
def CS_ACCESS_RIGHTS : BitVec 32 := 0x4816
def SS_ACCESS_RIGHTS : BitVec 32 := 0x4818
def DS_ACCESS_RIGHTS : BitVec 32 := 0x481A
def FS_ACCESS_RIGHTS : BitVec 32 := 0x481C
def GS_ACCESS_RIGHTS : BitVec 32 := 0x481E
def LDTR_ACCESS_RIGHTS : BitVec 32 := 0x4820
def TR_ACCESS_RIGHTS : BitVec 32 := 0x4822
def IA32_SYSENTER_CS : BitVec 32 := 0x482A
def CR0 : BitVec 32 := 0x6800
def CR3 : BitVec 32 := 0x6802
def CR4 : BitVec 32 := 0x6804
def ES_BASE : BitVec 32 := 0x6806
def CS_BASE : BitVec 32 := 0x6808
def SS_BASE : BitVec 32 := 0x680A
def DS_BASE : BitVec 32 := 0x680C
def FS_BASE : BitVec 32 := 0x680E
def GS_BASE : BitVec 32 := 0x6810
def LDTR_BASE : BitVec 32 := 0x6812
def TR_BASE : BitVec 32 := 0x6814
def GDTR_BASE : BitVec 32 := 0x6816
def IDTR_BASE : BitVec 32 := 0x6818
def DR7 : BitVec 32 := 0x681A
def RSP : BitVec 32 := 0x681C
def RIP : BitVec 32 := 0x681E
def RFLAGS : BitVec 32 := 0x6820
def IA32_SYSENTER_ESP : BitVec 32 := 0x6824
def IA32_SYSENTER_EIP : BitVec 32 := 0x6826

end Guest

/-! ## `vmcs::host`：ホスト状態のフィールド -/

namespace Host

def ES_SELECTOR : BitVec 32 := 0xC00
def CS_SELECTOR : BitVec 32 := 0xC02
def SS_SELECTOR : BitVec 32 := 0xC04
def DS_SELECTOR : BitVec 32 := 0xC06
def FS_SELECTOR : BitVec 32 := 0xC08
def GS_SELECTOR : BitVec 32 := 0xC0A
def TR_SELECTOR : BitVec 32 := 0xC0C
def IA32_SYSENTER_CS : BitVec 32 := 0x4C00
def CR0 : BitVec 32 := 0x6C00
def CR3 : BitVec 32 := 0x6C02
def CR4 : BitVec 32 := 0x6C04
def FS_BASE : BitVec 32 := 0x6C06
def GS_BASE : BitVec 32 := 0x6C08
def TR_BASE : BitVec 32 := 0x6C0A
def GDTR_BASE : BitVec 32 := 0x6C0C
def IDTR_BASE : BitVec 32 := 0x6C0E
def IA32_SYSENTER_ESP : BitVec 32 := 0x6C10
def IA32_SYSENTER_EIP : BitVec 32 := 0x6C12

end Host

/-! ## `vmcs::control`：実行、出口、入口の制御フィールド -/

namespace Control

def PINBASED_EXEC_CONTROLS : BitVec 32 := 0x4000
def PRIMARY_PROCBASED_EXEC_CONTROLS : BitVec 32 := 0x4002
def VMEXIT_CONTROLS : BitVec 32 := 0x400C
def VMENTRY_CONTROLS : BitVec 32 := 0x4012
def VMENTRY_INTERRUPTION_INFO_FIELD : BitVec 32 := 0x4016
def VMENTRY_EXCEPTION_ERR_CODE : BitVec 32 := 0x4018
def SECONDARY_PROCBASED_EXEC_CONTROLS : BitVec 32 := 0x401E
def CR0_READ_SHADOW : BitVec 32 := 0x6004
def CR4_READ_SHADOW : BitVec 32 := 0x6006

end Control

/-! ## `vmcs::ro`：読むだけの出口情報のフィールド -/

namespace Ro

def VM_INSTRUCTION_ERROR : BitVec 32 := 0x4400
def EXIT_REASON : BitVec 32 := 0x4402
def VMEXIT_INTERRUPTION_INFO : BitVec 32 := 0x4404
def VMEXIT_INTERRUPTION_ERR_CODE : BitVec 32 := 0x4406
def VMEXIT_INSTRUCTION_LEN : BitVec 32 := 0x440C
def EXIT_QUALIFICATION : BitVec 32 := 0x6400

end Ro

/-! ## 制御レジスタと VMX 制御のビット -/

/-- `Cr4::CR4_ENABLE_VMX`（CR4 のビット 13）。 -/
def CR4_ENABLE_VMX : BitVec 64 := 0x2000

/-- `PrimaryControls::SECONDARY_CONTROLS`（ビット 31）。 -/
def SECONDARY_CONTROLS : BitVec 64 := 0x80000000
/-- `SecondaryControls::ENABLE_RDTSCP`（ビット 3）。 -/
def ENABLE_RDTSCP : BitVec 64 := 0x8
/-- `SecondaryControls::ENABLE_XSAVES_XRSTORS`（ビット 20）。 -/
def ENABLE_XSAVES_XRSTORS : BitVec 64 := 0x100000
/-- `SecondaryControls::ENABLE_INVPCID`（ビット 12）。 -/
def ENABLE_INVPCID : BitVec 64 := 0x1000
/-- `EntryControls::IA32E_MODE_GUEST`（ビット 9）。 -/
def IA32E_MODE_GUEST : BitVec 64 := 0x200
/-- `ExitControls::HOST_ADDRESS_SPACE_SIZE`（ビット 9）。 -/
def HOST_ADDRESS_SPACE_SIZE : BitVec 64 := 0x200

/-- x86 クレートの `Cr0`、`Cr4` が名前を持つビット。`from_bits_truncate` はほかのビットを落とす。
クレートは src/ にないので、引数として受け取る。`Cr4` は `CR4_ENABLE_VMX` を名前に持つ。 -/
structure ControlRegisterFlags where
  cr0 : BitVec 64
  cr4 : BitVec 64
  cr4_enable_vmx : BitsIn CR4_ENABLE_VMX cr4

/-- x86 クレートの旗：CR0 はビット 0–5, 16, 18, 29–31、CR4 はビット 0–14, 16–18, 20–22。 -/
def ControlRegisterFlags.x86 : ControlRegisterFlags where
  cr0 := 0xE005003F
  cr4 := 0x777FFF
  cr4_enable_vmx := by decide

/-- `controlregs::Cr0::from_bits_truncate`。 -/
def ControlRegisterFlags.truncateCr0 (f : ControlRegisterFlags) (v : BitVec 64) : BitVec 64 := v &&& f.cr0

/-- `controlregs::Cr4::from_bits_truncate`。 -/
def ControlRegisterFlags.truncateCr4 (f : ControlRegisterFlags) (v : BitVec 64) : BitVec 64 := v &&& f.cr4

/-- `dtables::DescriptorTablePointer<u64>`：SGDT、SIDT の結果。 -/
structure DescriptorTablePointer where
  limit : BitVec 16
  base : BitVec 64
  deriving DecidableEq, Repr, Inhabited

/-- `SegmentSelector::new(index, rpl)`：`index << 3 | rpl`。 -/
def SegmentSelector.new (index : BitVec 16) (rpl : BitVec 16) : BitVec 16 := (index <<< 3) ||| rpl

end Hypervisor
