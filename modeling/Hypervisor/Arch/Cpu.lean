import Hypervisor.Arch.Constants

/-!
# 論理プロセッサの状態

コードが読み書きする制御レジスタ、MSR、記述子表レジスタ、セグメントレジスタ、メモリ、VMX の状態、
そして現在の VMCS のフィールド。ハードウェアとホスト OS が決める答え（VMX 命令の成否、物理アドレスへの
変換、ゲストの実行）は `Platform` が与える。どの答えの組み合わせもどれかの `Platform` で起こるので、
`Platform` について一般に示したことは、コードのすべての実行について成り立つ。
-/

namespace Hypervisor

/-- Modelled from the spec: `registers.rs` は src/ にない。16 本の汎用レジスタと RIP、RSP、RFLAGS の写し。 -/
structure GuestRegisters where
  rax : BitVec 64 := 0
  rbx : BitVec 64 := 0
  rcx : BitVec 64 := 0
  rdx : BitVec 64 := 0
  rdi : BitVec 64 := 0
  rsi : BitVec 64 := 0
  rbp : BitVec 64 := 0
  r8 : BitVec 64 := 0
  r9 : BitVec 64 := 0
  r10 : BitVec 64 := 0
  r11 : BitVec 64 := 0
  r12 : BitVec 64 := 0
  r13 : BitVec 64 := 0
  r14 : BitVec 64 := 0
  r15 : BitVec 64 := 0
  rip : BitVec 64 := 0
  rsp : BitVec 64 := 0
  rflags : BitVec 64 := 0
  deriving DecidableEq, Repr, Inhabited

/-- コードが実行する VMX 命令と、その物理アドレスの引数。 -/
inductive VmxInstruction where
  | vmxon (pa : BitVec 64)
  | vmclear (pa : BitVec 64)
  | vmptrld (pa : BitVec 64)
  deriving DecidableEq, Repr

/-- 実行した VMX 命令と、その時点でハードウェアが調べる状態：CR0、CR4、MSR、
引数の物理アドレスにある領域の最初の 32 ビット。 -/
structure VmxEvent where
  instruction : VmxInstruction
  cr0 : BitVec 64
  cr4 : BitVec 64
  msr : BitVec 32 → BitVec 64
  revisionId : BitVec 32

structure Cpu where
  cr0 : BitVec 64
  /-- VM entry は CR2 を読み込まないので、これはゲストが見る CR2 でもある。 -/
  cr2 : BitVec 64
  cr3 : BitVec 64
  cr4 : BitVec 64
  msr : BitVec 32 → BitVec 64
  gdtr : DescriptorTablePointer
  idtr : DescriptorTablePointer
  cs : BitVec 16
  ss : BitVec 16
  ds : BitVec 16
  es : BitVec 16
  fs : BitVec 16
  gs : BitVec 16
  ldtr : BitVec 16
  tr : BitVec 16
  /-- 8 バイトごとのメモリの中身（GDT を読む）。 -/
  memory : BitVec 64 → BitVec 64
  /-- VMXON が成功し、VMX 命令を実行できる。 -/
  vmxOperation : Bool
  currentVmcs : Option (BitVec 64)
  /-- 現在の VMCS のフィールド。 -/
  vmcs : BitVec 32 → BitVec 64
  /-- 実行した VMX 命令。新しいものが先頭。 -/
  log : List VmxEvent
  deriving Inhabited

/-- ハードウェア、ホスト OS、x86 クレートが決める答え。 -/
structure Platform where
  flags : ControlRegisterFlags
  /-- `MmGetPhysicalAddress`：仮想アドレスから物理アドレスへ。失敗すると 0。 -/
  mmGetPhysicalAddress : BitVec 64 → BitVec 64
  /-- VMX 命令が成功するか（RFLAGS の CF と ZF が立たない）。 -/
  vmxSucceeds : VmxInstruction → Bool
  /-- `launch_vm(registers, launched)`：ゲストを VM exit まで走らせ、RFLAGS と、
  そのときのレジスタと VMCS を返す。 -/
  launchVm : Bool → GuestRegisters → (BitVec 32 → BitVec 64) →
    BitVec 64 × GuestRegisters × (BitVec 32 → BitVec 64)
  /-- 写した GDT（`Vec<u64>`）を置く場所。 -/
  gdtCloneAddress : BitVec 64

namespace Cpu

variable (c : Cpu)

/-- `vmwrite(field, val)`。成功するものとする：現在の VMCS があり、フィールドは書き込める（コードは結果を
`unwrap` するので、VMfail なら panic する）。 -/
def vmwrite (field : BitVec 32) (value : BitVec 64) : Cpu := { c with vmcs := Function.update c.vmcs field value }

/-- `vmread(field)`。 -/
def vmread (field : BitVec 32) : BitVec 64 := c.vmcs field

def wrmsr (msr : BitVec 32) (value : BitVec 64) : Cpu := { c with msr := Function.update c.msr msr value }

@[simp] theorem vmwrite_vmcs (f : BitVec 32) (v : BitVec 64) :
    (c.vmwrite f v).vmcs = Function.update c.vmcs f v := rfl

@[simp] theorem vmwrite_msr (f : BitVec 32) (v : BitVec 64) : (c.vmwrite f v).msr = c.msr := rfl

@[simp] theorem vmwrite_log (f : BitVec 32) (v : BitVec 64) : (c.vmwrite f v).log = c.log := rfl

@[simp] theorem wrmsr_msr (m : BitVec 32) (v : BitVec 64) : (c.wrmsr m v).msr = Function.update c.msr m v := rfl

end Cpu

/-- VMX 命令が成功したときのハードウェアの変化。 -/
def VmxInstruction.effect : VmxInstruction → Cpu → Cpu
  | .vmxon _, c => { c with vmxOperation := true }
  | .vmclear pa, c => { c with currentVmcs := if c.currentVmcs = some pa then none else c.currentVmcs }
  | .vmptrld pa, c => { c with currentVmcs := some pa }

@[simp] theorem VmxInstruction.effect_log (i : VmxInstruction) (c : Cpu) : (i.effect c).log = c.log := by
  cases i <;> rfl

@[simp] theorem VmxInstruction.effect_cr0 (i : VmxInstruction) (c : Cpu) : (i.effect c).cr0 = c.cr0 := by
  cases i <;> rfl

@[simp] theorem VmxInstruction.effect_cr4 (i : VmxInstruction) (c : Cpu) : (i.effect c).cr4 = c.cr4 := by
  cases i <;> rfl

@[simp] theorem VmxInstruction.effect_msr (i : VmxInstruction) (c : Cpu) : (i.effect c).msr = c.msr := by
  cases i <;> rfl

/-- VMX 命令を一つ実行する。命令とその時点の状態をログに残し、失敗すれば `unwrap` が panic する。
`revisionId` は引数の物理アドレスにある領域の最初の 32 ビット。 -/
def execute (p : Platform) (i : VmxInstruction) (revisionId : BitVec 32) : Prog Cpu Unit := fun c =>
  let c' := { c with log := ⟨i, c.cr0, c.cr4, c.msr, revisionId⟩ :: c.log }
  if p.vmxSucceeds i then (.ok (), i.effect c') else (.panic, c')

section Execute

variable (p : Platform) (i : VmxInstruction) (r : BitVec 32) (c : Cpu)

/-- 成否にかかわらず、命令とその時点の状態がログに残る。 -/
@[simp] theorem execute_log : (execute p i r c).2.log = ⟨i, c.cr0, c.cr4, c.msr, r⟩ :: c.log := by
  unfold execute; split <;> simp

@[simp] theorem execute_msr : (execute p i r c).2.msr = c.msr := by
  unfold execute; split <;> simp

@[simp] theorem execute_cr0 : (execute p i r c).2.cr0 = c.cr0 := by
  unfold execute; split <;> simp

@[simp] theorem execute_cr4 : (execute p i r c).2.cr4 = c.cr4 := by
  unfold execute; split <;> simp

theorem execute_fst : (execute p i r c).1 = if p.vmxSucceeds i then .ok () else .panic := by
  unfold execute; split <;> rfl

theorem execute_eq_ok {a : Unit} {c' : Cpu} (h : execute p i r c = (.ok a, c')) :
    c' = i.effect { c with log := ⟨i, c.cr0, c.cr4, c.msr, r⟩ :: c.log } := by
  unfold execute at h
  split at h <;> cases h
  rfl

end Execute

/-! ## VMCS への書き込みの並び -/

/-- 書き込み `ws` を順に行ったあとのフィールド。 -/
def applyWrites (ws : List (BitVec 32 × BitVec 64)) (m : BitVec 32 → BitVec 64) : BitVec 32 → BitVec 64 :=
  ws.foldl (fun m w => Function.update m w.1 w.2) m

/-- あるフィールドの値は、そのフィールドへの最後の書き込みの値である。 -/
theorem applyWrites_apply (ws : List (BitVec 32 × BitVec 64)) (m : BitVec 32 → BitVec 64) (g : BitVec 32) :
    applyWrites ws m g = ((ws.reverse.find? (·.1 = g)).map Prod.snd).getD (m g) := by
  induction ws generalizing m with
  | nil => rfl
  | cons w ws ih =>
    simp only [applyWrites, List.foldl_cons] at ih ⊢
    rw [ih]
    simp only [List.reverse_cons, List.find?_append]
    cases List.find? (fun x => decide (x.1 = g)) ws.reverse with
    | some _ => rfl
    | none =>
      by_cases hg : w.1 = g
      · subst hg; simp
      · simp [hg, Function.update_noteq (Ne.symm hg)]

/-- `vmwrite` を順に行う。値の計算が panic する（`none`）ところで止まる。 -/
def vmwriteAll : List (BitVec 32 × Option (BitVec 64)) → Prog Cpu Unit
  | [] => pure ()
  | (f, some v) :: ws => fun c => vmwriteAll ws (c.vmwrite f v)
  | (_, none) :: _ => Prog.panic

/-- 値がすべて計算できれば、書き込みはすべて行われる。 -/
theorem vmwriteAll_ok (ws : List (BitVec 32 × BitVec 64)) (c : Cpu) :
    vmwriteAll (ws.map fun w => (w.1, some w.2)) c = (.ok (), { c with vmcs := applyWrites ws c.vmcs }) := by
  induction ws generalizing c with
  | nil => rfl
  | cons w ws ih => exact ih _

theorem vmwriteAll_preserves_log (ws : List (BitVec 32 × Option (BitVec 64))) :
    Prog.Preserves Cpu.log (vmwriteAll ws) := by
  intro c
  induction ws generalizing c with
  | nil => rfl
  | cons w ws ih =>
    obtain ⟨f, _ | v⟩ := w
    · rfl
    · exact ih (c.vmwrite f v)

theorem vmwriteAll_noErr (ws : List (BitVec 32 × Option (BitVec 64))) : Prog.NoErr (vmwriteAll ws) := by
  intro c e c'
  induction ws generalizing c with
  | nil => exact fun h => by cases h
  | cons w ws ih =>
    obtain ⟨f, _ | v⟩ := w
    · exact fun h => by cases h
    · exact ih (c.vmwrite f v)

theorem execute_noErr (p : Platform) (i : VmxInstruction) (r : BitVec 32) : Prog.NoErr (execute p i r) := by
  intro c e c' h
  simp only [execute] at h
  split at h <;> cases h

/-- 書き込みは VMCS のほかを変えない。 -/
theorem vmwriteAll_frame (ws : List (BitVec 32 × Option (BitVec 64))) (c : Cpu) :
    ∃ m, vmwriteAll ws c = ((vmwriteAll ws c).1, { c with vmcs := m }) := by
  induction ws generalizing c with
  | nil => exact ⟨c.vmcs, rfl⟩
  | cons w ws ih =>
    obtain ⟨f, _ | v⟩ := w
    · exact ⟨c.vmcs, rfl⟩
    · obtain ⟨m, hm⟩ := ih (c.vmwrite f v)
      exact ⟨m, hm⟩

end Hypervisor
