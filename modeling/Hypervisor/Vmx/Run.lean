import Hypervisor.Vmx.Gdt
import Hypervisor.Vmx.Controls

/-!
# 論理プロセッサ一つの上の VMX の手順（`Vmx::run`）

VMX を有効にし（CR4.VMXE、IA32_FEATURE_CONTROL のロック、CR0 と CR4 の固定ビット）、VMXON、
VMCLEAR、VMPTRLD を行い、ゲスト状態、ホスト状態、制御フィールドを書いて、ゲストを走らせる。
コードはどの段でも前の段を元に戻さない。
-/

namespace Hypervisor

/-- Modelled from the spec: `vmxon.rs`、`vmcs.rs` は src/ にない。`Box<Vmxon>`、`Box<Vmcs>` を、
箱の仮想アドレスと領域の最初の 32 ビット（`revision_id`）で表す。残りはどの関数も読まない。 -/
structure Region where
  virtualAddress : BitVec 64
  revisionId : BitVec 32
  deriving DecidableEq, Repr, Inhabited

/-- `Context`（Windows の `CONTEXT`）のうち、コードが読むフィールド。 -/
structure Context where
  segCs : BitVec 16
  segDs : BitVec 16
  segEs : BitVec 16
  segFs : BitVec 16
  segGs : BitVec 16
  segSs : BitVec 16
  eFlags : BitVec 32
  dr7 : BitVec 64
  rax : BitVec 64
  rcx : BitVec 64
  rdx : BitVec 64
  rbx : BitVec 64
  rsp : BitVec 64
  rbp : BitVec 64
  rsi : BitVec 64
  rdi : BitVec 64
  r8 : BitVec 64
  r9 : BitVec 64
  r10 : BitVec 64
  r11 : BitVec 64
  r12 : BitVec 64
  r13 : BitVec 64
  r14 : BitVec 64
  r15 : BitVec 64
  rip : BitVec 64
  deriving DecidableEq, Repr, Inhabited

structure Vmx where
  vmxonRegion : Region
  vmxonRegionPhysicalAddress : BitVec 64
  vmcsRegion : Region
  vmcsRegionPhysicalAddress : BitVec 64
  registers : GuestRegisters
  launched : Bool
  hostGdt : HostGdt
  context : Context
  deriving DecidableEq, Repr, Inhabited

/-- `Vmx::new(context)`：二つの領域を 0 で埋めて確保し（`Box::try_new_zeroed_in`）、物理アドレスは 0、レジスタの
写しと `HostGdt` は `Default`、`launched` は false にする。確保した箱の仮想アドレスを引数にとる。 -/
def Vmx.new (vmxonRegion vmcsRegion : BitVec 64) (context : Context) : Vmx where
  vmxonRegion := ⟨vmxonRegion, 0⟩
  vmxonRegionPhysicalAddress := 0
  vmcsRegion := ⟨vmcsRegion, 0⟩
  vmcsRegionPhysicalAddress := 0
  registers := default
  launched := false
  hostGdt := default
  context := context

/-- `Vmx` の値と、それを動かす論理プロセッサ。 -/
structure State where
  vmx : Vmx
  cpu : Cpu
  deriving Inhabited

/-- プロセッサの上の計算を、`State` の上で行う。 -/
def onCpu {α : Type} (x : Prog Cpu α) : Prog State α := Prog.zoom State.cpu (fun c s => { s with cpu := c }) x

/-! ## VMX 命令 -/

def vmxon (p : Platform) (vmxonRegion : BitVec 64) (revisionId : BitVec 32) : Prog Cpu Unit :=
  execute p (.vmxon vmxonRegion) revisionId

def vmclear (p : Platform) (vmcsRegion : BitVec 64) (revisionId : BitVec 32) : Prog Cpu Unit :=
  execute p (.vmclear vmcsRegion) revisionId

def vmptrld (p : Platform) (vmcsRegion : BitVec 64) (revisionId : BitVec 32) : Prog Cpu Unit :=
  execute p (.vmptrld vmcsRegion) revisionId

/-! ## VMX を有効にする -/

def VMX_LOCK_BIT : BitVec 64 := 1

def VMXON_OUTSIDE_SMX : BitVec 64 := 4

/-- `set_lock_bit`：ロックされていなければ、VMXON_OUTSIDE_SMX とロックを立てて書く。ロック済みで
VMXON_OUTSIDE_SMX がなければ `VMXBIOSLock`。 -/
def setLockBit : Prog State Unit := do
  let ia32FeatureControl ← Prog.read fun s => s.cpu.msr Msr.IA32_FEATURE_CONTROL
  if ia32FeatureControl &&& VMX_LOCK_BIT = 0 then
    Prog.modify fun s => { s with
      cpu := s.cpu.wrmsr Msr.IA32_FEATURE_CONTROL (VMXON_OUTSIDE_SMX ||| VMX_LOCK_BIT ||| ia32FeatureControl) }
  else if ia32FeatureControl &&& VMXON_OUTSIDE_SMX = 0 then
    Prog.throw .VMXBIOSLock

/-- `set_cr0_bits` と `set_cr4_bits` の形：今の値に FIXED0 を足し、FIXED1 と交わす。
三つの値はどれも `from_bits_truncate` を通る。 -/
def fixupControlRegister (truncate : BitVec 64 → BitVec 64) (cr fixed0 fixed1 : BitVec 64) : BitVec 64 :=
  (truncate cr ||| truncate fixed0) &&& truncate fixed1

def setCr0Bits (p : Platform) : Prog State Unit := Prog.modify fun s =>
  { s with cpu.cr0 := (fixupControlRegister p.flags.truncateCr0 s.cpu.cr0
      (s.cpu.msr Msr.IA32_VMX_CR0_FIXED0) (s.cpu.msr Msr.IA32_VMX_CR0_FIXED1)) }

def setCr4Bits (p : Platform) : Prog State Unit := Prog.modify fun s =>
  { s with cpu.cr4 := (fixupControlRegister p.flags.truncateCr4 s.cpu.cr4
      (s.cpu.msr Msr.IA32_VMX_CR4_FIXED0) (s.cpu.msr Msr.IA32_VMX_CR4_FIXED1)) }

def adjustControlRegisters (p : Platform) : Prog State Unit := do
  setCr0Bits p
  setCr4Bits p

/-- `get_vmcs_revision_id`：IA32_VMX_BASIC の下位 31 ビット。 -/
def getVmcsRevisionId : Prog State (BitVec 32) :=
  Prog.read fun s => (s.cpu.msr Msr.IA32_VMX_BASIC).setWidth 32 &&& 0x7FFFFFFF

/-- VMXON 領域と VMCS 領域。 -/
inductive RegionKind where
  | vmxon
  | vmcs
  deriving DecidableEq, Repr

namespace Vmx

def region (v : Vmx) : RegionKind → Region
  | .vmxon => v.vmxonRegion
  | .vmcs => v.vmcsRegion

def setPhysicalAddress (v : Vmx) : RegionKind → BitVec 64 → Vmx
  | .vmxon, pa => { v with vmxonRegionPhysicalAddress := pa }
  | .vmcs, pa => { v with vmcsRegionPhysicalAddress := pa }

def setRevisionId (v : Vmx) : RegionKind → BitVec 32 → Vmx
  | .vmxon, r => { v with vmxonRegion.revisionId := r }
  | .vmcs, r => { v with vmcsRegion.revisionId := r }

end Vmx

/-- `init_vmxon_region` と `init_vmcs_region` の前半：領域の物理アドレスを求めて覚え、0 なら
`VirtualToPhysicalAddressFailed`、そうでなければ最初の 32 ビットに版番号を書き、ビット 31 を落とす。 -/
def prepareRegion (p : Platform) (k : RegionKind) : Prog State (BitVec 64) := do
  let pa ← Prog.read fun s => p.mmGetPhysicalAddress (s.vmx.region k).virtualAddress
  Prog.modify fun s => { s with vmx := s.vmx.setPhysicalAddress k pa }
  if pa = 0 then Prog.throw .VirtualToPhysicalAddressFailed
  let revisionId ← getVmcsRevisionId
  Prog.modify fun s => { s with vmx := s.vmx.setRevisionId k revisionId }
  Prog.modify fun s => { s with vmx := s.vmx.setRevisionId k ((s.vmx.region k).revisionId &&& ~~~0x80000000) }
  pure pa

def initVmxonRegion (p : Platform) : Prog State Unit := do
  let pa ← prepareRegion p .vmxon
  let revisionId ← Prog.read fun s => s.vmx.vmxonRegion.revisionId
  onCpu (vmxon p pa revisionId)

def initVmcsRegion (p : Platform) : Prog State Unit := do
  let pa ← prepareRegion p .vmcs
  let revisionId ← Prog.read fun s => s.vmx.vmcsRegion.revisionId
  onCpu (vmclear p pa revisionId)
  onCpu (vmptrld p pa revisionId)

/-- `enable_vmx_operation`：CR4.VMXE を立て、ロックを確かめ、CR0 と CR4 を合わせ、VMXON を行う。 -/
def enableVmxOperation (p : Platform) : Prog State Unit := do
  Prog.modify fun s => { s with cpu.cr4 := p.flags.truncateCr4 s.cpu.cr4 ||| CR4_ENABLE_VMX }
  setLockBit
  adjustControlRegisters p
  initVmxonRegion p

/-! ## ゲスト状態、ホスト状態、制御フィールド -/

/-- `unpack_gdt_entry(gdt, selector).base`。 -/
def unpackedBase (gdt : List GdtEntry) (selector : BitVec 16) : Option (BitVec 64) :=
  (unpackGdtEntry gdt selector).map (·.base)

/-- `unpack_gdt_entry(gdt, selector).limit`。 -/
def unpackedLimit (gdt : List GdtEntry) (selector : BitVec 16) : Option (BitVec 64) :=
  (unpackGdtEntry gdt selector).map (·.limit)

/-- `unpack_gdt_entry(gdt, selector).access_rights` を 64 ビットに広げたもの。 -/
def unpackedAccessRights (gdt : List GdtEntry) (selector : BitVec 16) : Option (BitVec 64) :=
  (unpackGdtEntry gdt selector).map (·.accessRights.setWidth 64)

/-- `init_guest_register_state` が書くフィールドと値（書く順）。`unpack_gdt_entry` が panic する値は `none`。 -/
def guestStateWrites (f : ControlRegisterFlags) (ctx : Context) (c : Cpu) : List (BitVec 32 × Option (BitVec 64)) :=
  let gdt := getCurrentGdt c
  let base := unpackedBase gdt
  let limit := unpackedLimit gdt
  let accessRights := unpackedAccessRights gdt
  [(Guest.CR0, some (f.truncateCr0 c.cr0)), (Guest.CR3, some c.cr3), (Guest.CR4, some (f.truncateCr4 c.cr4)),
   (Guest.DR7, some ctx.dr7),
   (Guest.RSP, some ctx.rsp), (Guest.RIP, some ctx.rip), (Guest.RFLAGS, some (ctx.eFlags.setWidth 64)),
   (Guest.CS_SELECTOR, some (ctx.segCs.setWidth 64)), (Guest.SS_SELECTOR, some (ctx.segSs.setWidth 64)),
   (Guest.DS_SELECTOR, some (ctx.segDs.setWidth 64)), (Guest.ES_SELECTOR, some (ctx.segEs.setWidth 64)),
   (Guest.FS_SELECTOR, some (ctx.segFs.setWidth 64)), (Guest.GS_SELECTOR, some (ctx.segGs.setWidth 64)),
   (Guest.LDTR_SELECTOR, some (c.ldtr.setWidth 64)), (Guest.TR_SELECTOR, some (c.tr.setWidth 64)),
   (Guest.CS_BASE, base ctx.segCs), (Guest.SS_BASE, base ctx.segSs),
   (Guest.DS_BASE, base ctx.segDs), (Guest.ES_BASE, base ctx.segEs),
   (Guest.FS_BASE, some (c.msr Msr.IA32_FS_BASE)), (Guest.GS_BASE, some (c.msr Msr.IA32_GS_BASE)),
   (Guest.LDTR_BASE, base c.ldtr), (Guest.TR_BASE, base c.tr),
   (Guest.CS_LIMIT, limit ctx.segCs), (Guest.SS_LIMIT, limit ctx.segSs),
   (Guest.DS_LIMIT, limit ctx.segDs), (Guest.ES_LIMIT, limit ctx.segEs),
   (Guest.FS_LIMIT, limit ctx.segFs), (Guest.GS_LIMIT, limit ctx.segGs),
   (Guest.LDTR_LIMIT, limit c.ldtr), (Guest.TR_LIMIT, limit c.tr),
   (Guest.CS_ACCESS_RIGHTS, accessRights ctx.segCs), (Guest.SS_ACCESS_RIGHTS, accessRights ctx.segSs),
   (Guest.DS_ACCESS_RIGHTS, accessRights ctx.segDs), (Guest.ES_ACCESS_RIGHTS, accessRights ctx.segEs),
   (Guest.FS_ACCESS_RIGHTS, accessRights ctx.segFs), (Guest.GS_ACCESS_RIGHTS, accessRights ctx.segGs),
   (Guest.LDTR_ACCESS_RIGHTS, accessRights c.ldtr), (Guest.TR_ACCESS_RIGHTS, accessRights c.tr),
   (Guest.GDTR_BASE, some c.gdtr.base), (Guest.IDTR_BASE, some c.idtr.base),
   (Guest.GDTR_LIMIT, some (c.gdtr.limit.setWidth 64)), (Guest.IDTR_LIMIT, some (c.idtr.limit.setWidth 64)),
   (Guest.IA32_DEBUGCTL_FULL, some (c.msr Msr.IA32_DEBUGCTL)),
   (Guest.IA32_SYSENTER_CS, some (c.msr Msr.IA32_SYSENTER_CS)),
   (Guest.IA32_SYSENTER_ESP, some (c.msr Msr.IA32_SYSENTER_ESP)),
   (Guest.IA32_SYSENTER_EIP, some (c.msr Msr.IA32_SYSENTER_EIP)),
   (Guest.LINK_PTR_FULL, some (BitVec.allOnes 64))]

/-- `init_guest_register_state`：VMCS のゲスト状態を書き、汎用レジスタを `Context` から写す。 -/
def initGuestRegisterState (p : Platform) : Prog State Unit := do
  let s ← Prog.read id
  onCpu (vmwriteAll (guestStateWrites p.flags s.vmx.context s.cpu))
  let ctx := s.vmx.context
  Prog.modify fun s => { s with vmx.registers := { s.vmx.registers with
    rax := ctx.rax, rbx := ctx.rbx, rcx := ctx.rcx, rdx := ctx.rdx, rdi := ctx.rdi, rsi := ctx.rsi,
    rbp := ctx.rbp, r8 := ctx.r8, r9 := ctx.r9, r10 := ctx.r10, r11 := ctx.r11, r12 := ctx.r12,
    r13 := ctx.r13, r14 := ctx.r14, r15 := ctx.r15 } }

def SELECTOR_MASK : BitVec 16 := 0xF8

/-- `init_host_register_state` が書くフィールドと値（書く順）。 -/
def hostStateWrites (f : ControlRegisterFlags) (hostGdt : HostGdt) (c : Cpu) : List (BitVec 32 × BitVec 64) :=
  [(Host.CR0, f.truncateCr0 c.cr0), (Host.CR3, c.cr3), (Host.CR4, f.truncateCr4 c.cr4),
   (Host.CS_SELECTOR, (hostGdt.cs &&& SELECTOR_MASK).setWidth 64),
   (Host.SS_SELECTOR, (hostGdt.ss &&& SELECTOR_MASK).setWidth 64),
   (Host.DS_SELECTOR, (hostGdt.ds &&& SELECTOR_MASK).setWidth 64),
   (Host.ES_SELECTOR, (hostGdt.es &&& SELECTOR_MASK).setWidth 64),
   (Host.FS_SELECTOR, (hostGdt.fs &&& SELECTOR_MASK).setWidth 64),
   (Host.GS_SELECTOR, (hostGdt.gs &&& SELECTOR_MASK).setWidth 64),
   (Host.TR_SELECTOR, (hostGdt.tr &&& SELECTOR_MASK).setWidth 64),
   (Host.FS_BASE, c.msr Msr.IA32_FS_BASE), (Host.GS_BASE, c.msr Msr.IA32_GS_BASE),
   (Host.TR_BASE, hostGdt.tss.address), (Host.GDTR_BASE, hostGdt.gdtr.base), (Host.IDTR_BASE, c.idtr.base),
   (Host.IA32_SYSENTER_CS, c.msr Msr.IA32_SYSENTER_CS), (Host.IA32_SYSENTER_ESP, c.msr Msr.IA32_SYSENTER_ESP),
   (Host.IA32_SYSENTER_EIP, c.msr Msr.IA32_SYSENTER_EIP)]

/-- `init_host_register_state`：ホストの GDT を作り、VMCS のホスト状態を書く。 -/
def initHostRegisterState (p : Platform) : Prog State Unit := do
  let s ← Prog.read id
  let hostGdt ← Prog.unwrap (s.vmx.hostGdt.initializeFromCurrent p.gdtCloneAddress s.cpu)
  Prog.modify fun s => { s with vmx.hostGdt := hostGdt }
  onCpu (vmwriteAll ((hostStateWrites p.flags hostGdt s.cpu).map fun w => (w.1, some w.2)))

/-- `init_vmcs_control_values` が書くフィールドと値（書く順）。`adjust_vmx_controls` が panic する値は `none`。 -/
def controlWrites (f : ControlRegisterFlags) (c : Cpu) : List (BitVec 32 × Option (BitVec 64)) :=
  controlRequests.map (fun r => (r.1, adjustVmxControls c.msr r.2.1 r.2.2)) ++
  [(Control.CR0_READ_SHADOW, some (f.truncateCr0 c.cr0)), (Control.CR4_READ_SHADOW, some (f.truncateCr4 c.cr4))]

def initVmcsControlValues (p : Platform) : Prog State Unit := do
  let c ← Prog.read State.cpu
  onCpu (vmwriteAll (controlWrites p.flags c))

/-! ## ゲストを走らせる -/

/-- `vm_succeed` の `Err`。コードでは文字列 "VmFailValid with {n}" と "VmFailInvalid"。 -/
inductive VmFail where
  | VmFailValid (instructionError : BitVec 64)
  | VmFailInvalid
  deriving DecidableEq, Repr

def FLAGS_CF : BitVec 64 := 0x1

def FLAGS_ZF : BitVec 64 := 0x40

/-- `vm_succeed(flags)`：ZF なら VmFailValid（VM 命令の誤り番号を読む）、CF なら VmFailInvalid。 -/
def vmSucceed (c : Cpu) (flags : BitVec 64) : Except VmFail Unit :=
  if flags &&& FLAGS_ZF = FLAGS_ZF then .error (.VmFailValid (c.vmread Ro.VM_INSTRUCTION_ERROR))
  else if flags &&& FLAGS_CF = FLAGS_CF then .error .VmFailInvalid
  else .ok ()

/-- `launch_vm` から `Ok(())` までの後半。`expect` は失敗で panic する。 -/
def launchGuest (p : Platform) : Prog State Unit := do
  let s ← Prog.read id
  let exit := p.launchVm s.vmx.launched s.vmx.registers s.cpu.vmcs
  Prog.modify fun s => { s with vmx.registers := exit.2.1, cpu.vmcs := exit.2.2 }
  let c ← Prog.read State.cpu
  Prog.expect (vmSucceed c exit.1)
  Prog.modify fun s => { s with vmx.launched := true }
  Prog.modify fun s => { s with vmx.registers := { s.vmx.registers with
    rip := s.cpu.vmread Guest.RIP, rsp := s.cpu.vmread Guest.RSP, rflags := s.cpu.vmread Guest.RFLAGS } }

/-- `Vmx::run`。 -/
def run (p : Platform) : Prog State Unit := do
  enableVmxOperation p
  initVmcsRegion p
  initGuestRegisterState p
  initHostRegisterState p
  initVmcsControlValues p
  launchGuest p

end Hypervisor
