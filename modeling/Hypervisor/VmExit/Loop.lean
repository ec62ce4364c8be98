import Hypervisor.VmExit.Dispatch

/-!
# VMRESUME と VM exit の繰り返し

`launch_vm` のトランポリン（`vmlaunch.rs`）は src/ にない。仕様の 4.6 と 4.7 によれば、VM exit のたびに
トランポリンはゲストのレジスタを積んで `vmexit_handler` を呼び、Continue なら VMRESUME でゲストに戻り、
ExitHypervisor なら VMX を抜ける。

ゲストは VMX non-root operation で、制御レジスタ、記述子表とセグメントのレジスタ、メモリ、MSR を変えうる。
VM exit はゲスト状態と VM exit の情報のフィールドを書き（SDM 28.2、28.3）、ホスト状態のフィールドから
プロセッサを読み込む（SDM 28.5）。ゲストの走りは変えうるものを名指した関係、VM exit の読み込みは関数として置く。
-/

namespace Hypervisor

/-! ## VMCS のフィールドの種類 -/

/-- SDM 付録 B：フィールドの番号のビット 11:10。0 は制御、1 は VM exit の情報、2 はゲスト状態、3 はホスト状態。 -/
def fieldType (g : BitVec 32) : BitVec 32 := (g >>> 10) &&& 3

/-- VM exit でハードウェアが書かないフィールド：ホスト状態と、VM-entry interruption-information を除く制御。
VM exit は interruption-information の有効ビットを落とす。 -/
def KeptByVmExit (g : BitVec 32) : Prop :=
  fieldType g = 3 ∨ (fieldType g = 0 ∧ g ≠ Control.VMENTRY_INTERRUPTION_INFO_FIELD)

instance : DecidablePred KeptByVmExit := fun _ => inferInstanceAs (Decidable (_ ∨ _))

/-- VMX の能力 MSR（480H から 491H）。どれも読み出し専用で、WRMSR は #GP になる。 -/
def IsVmxMsr (i : BitVec 32) : Prop := Msr.IA32_VMX_BASIC ≤ i ∧ i ≤ 0x491

instance : DecidablePred IsVmxMsr := fun _ => inferInstanceAs (Decidable (_ ∧ _))

/-- MSR の処理は VMX の能力 MSR を書かない。 -/
def Handlers.KeepsVmxMsrs (h : Handlers) : Prop :=
  ∀ k regs m i, IsVmxMsr i → (h.handleMsrAccess k regs m).2 i = m i

/-! ## VM exit が読み込むホストの状態 -/

/-- `IA32_EFER`。コードは読み書きしないが、VM exit は LME と LMA を書く。 -/
def Msr.IA32_EFER : BitVec 32 := 0xC0000080

/-- SDM 28.5.1：CR0 のうち VM exit がホストのフィールドから読み込むビット（PE、MP、EM、TS、NE、WP、AM、PG）。
ET、NW、CD、ビット 63:32、28:19、17、15:6 は読み込まない。 -/
def CR0_LOADED_BY_VMEXIT : BitVec 64 := 0x8005002F

/-- CR4.PAE（ビット 5）。 -/
def CR4_PAE : BitVec 64 := 0x20

/-- IA32_EFER の LME（ビット 8）と LMA（ビット 10）。 -/
def EFER_LME_LMA : BitVec 64 := 0x500

/-- VMX operation で固定されたビット：FIXED0 が 1 のビットと、FIXED1 が 0 のビット。 -/
def fixedBits (msr : BitVec 32 → BitVec 64) (fixed0 fixed1 : BitVec 32) : BitVec 64 := msr fixed0 ||| ~~~msr fixed1

/-- `mask` のビットを `new` から、ほかのビットを `old` から取る。 -/
def loadBits (mask new old : BitVec 64) : BitVec 64 := (new &&& mask) ||| (old &&& ~~~mask)

/-- SDM 28.5.1：VM exit のあとの MSR。IA32_DEBUGCTL は 0、IA32_SYSENTER_CS（下位 32 ビット）、ESP、EIP と
FS、GS のベースはホストのフィールド、ホストのアドレス空間の大きさが 1 なので IA32_EFER の LME と LMA は立つ。 -/
def vmExitMsr (c : Cpu) (i : BitVec 32) : BitVec 64 :=
  if i = Msr.IA32_DEBUGCTL then 0
  else if i = Msr.IA32_SYSENTER_CS then ((c.vmcs Host.IA32_SYSENTER_CS).setWidth 32).setWidth 64
  else if i = Msr.IA32_SYSENTER_ESP then c.vmcs Host.IA32_SYSENTER_ESP
  else if i = Msr.IA32_SYSENTER_EIP then c.vmcs Host.IA32_SYSENTER_EIP
  else if i = Msr.IA32_FS_BASE then c.vmcs Host.FS_BASE
  else if i = Msr.IA32_GS_BASE then c.vmcs Host.GS_BASE
  else if i = Msr.IA32_EFER then c.msr i ||| EFER_LME_LMA
  else c.msr i

/-- SDM 28.5：VM exit はホスト状態のフィールドからプロセッサを読み込む。VM-exit control は
`HOST_ADDRESS_SPACE_SIZE` が立ち、IA32_PAT、IA32_EFER、IA32_PERF_GLOBAL_CTRL を読み込むものは立たないとする。
CR3 はホストのフィールド、CR0 と CR4 はホストのフィールドから VMX operation で固定されたビットを除いて読み込み、
CR4.PAE は立つ。CS、SS、DS、ES、FS、GS、TR のセレクタはホストのフィールド、LDTR は 0（使えない）、GDTR と
IDTR のベースはホストのフィールドで、上限は FFFFH。VMX operation、現在の VMCS、VMCS のフィールド、メモリは
変えない。 -/
def Cpu.vmExit (c : Cpu) : Cpu :=
  { c with
    cr0 := loadBits (CR0_LOADED_BY_VMEXIT &&& ~~~fixedBits c.msr Msr.IA32_VMX_CR0_FIXED0 Msr.IA32_VMX_CR0_FIXED1)
      (c.vmcs Host.CR0) c.cr0
    cr3 := c.vmcs Host.CR3
    cr4 := loadBits (~~~fixedBits c.msr Msr.IA32_VMX_CR4_FIXED0 Msr.IA32_VMX_CR4_FIXED1) (c.vmcs Host.CR4) c.cr4 |||
      CR4_PAE
    msr := vmExitMsr c
    gdtr := ⟨0xFFFF, c.vmcs Host.GDTR_BASE⟩
    idtr := ⟨0xFFFF, c.vmcs Host.IDTR_BASE⟩
    cs := (c.vmcs Host.CS_SELECTOR).setWidth 16
    ss := (c.vmcs Host.SS_SELECTOR).setWidth 16
    ds := (c.vmcs Host.DS_SELECTOR).setWidth 16
    es := (c.vmcs Host.ES_SELECTOR).setWidth 16
    fs := (c.vmcs Host.FS_SELECTOR).setWidth 16
    gs := (c.vmcs Host.GS_SELECTOR).setWidth 16
    ldtr := 0
    tr := (c.vmcs Host.TR_SELECTOR).setWidth 16 }

/-! ## ゲストが走る -/

/-- `c` の VMX の状態が `c₀` のままである：VMX operation、現在の VMCS、VMX 命令の記録、VM exit で保たれる
フィールド、VMX の能力 MSR。 -/
structure HostKept (c₀ c : Cpu) : Prop where
  vmxOperation : c.vmxOperation = c₀.vmxOperation
  currentVmcs : c.currentVmcs = c₀.currentVmcs
  log : c.log = c₀.log
  kept : ∀ g, KeptByVmExit g → c.vmcs g = c₀.vmcs g
  vmxMsrs : ∀ i, IsVmxMsr i → c.msr i = c₀.msr i

/-- Modelled from the spec: ゲストが走り、VM exit が起きる。ゲストと VM exit の書き込みは `HostKept` のほかの
どれをも変えうる（VMX の能力 MSR は読み出し専用で、ゲストの VMX 命令は VM exit を起こす）。そのあと VM exit が
ホストの状態を読み込む。 -/
def GuestRunsToExit (c c' : Cpu) : Prop := ∃ g, HostKept c g ∧ c' = g.vmExit

variable (d : Decoders) (h : Handlers)

/-- Modelled from the spec: VMLAUNCH のとき VMCS を `c₀` に持つプロセッサで、トランポリンが `vmexit_handler` を
呼ぶ時点のフレーム。最初の VM exit か、`vmexit_handler` が Continue を返したあと VMRESUME で戻ったゲストの
次の VM exit である。レジスタの写しはトランポリンが積むので、null ではない。 -/
inductive AtVmExit (c₀ : Cpu) : ExitFrame → Prop
  | launch {regs : GuestRegisters} {c : Cpu} (calls : List HandlerCall) :
      GuestRunsToExit c₀ c → AtVmExit c₀ ⟨some regs, c, calls⟩
  | resume {f : ExitFrame} {regs : GuestRegisters} {c : Cpu} :
      AtVmExit c₀ f → (vmexitHandler d h f).1 = .ok VmExitType.Continue.toU8 →
      GuestRunsToExit (vmexitHandler d h f).2.cpu c → AtVmExit c₀ ⟨some regs, c, (vmexitHandler d h f).2.calls⟩

end Hypervisor
