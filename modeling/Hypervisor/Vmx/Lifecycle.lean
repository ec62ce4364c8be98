import Hypervisor.Vmx.Launch

/-!
# VMCS の状態の移り変わり

仕様 3 節は VMCS 領域の状態を、VMCLEAR で Clear、VMPTRLD で Current、最初の VMLAUNCH で Launched、VM exit の
あとも現在の VMCS のまま、VMRESUME で再び Launched と定める（SDM 24.1、24.11.3）。VMLAUNCH は Clear の、
VMRESUME は Launched の現在の VMCS にしか許されない。

`launch_vm` は `launched` が立っていれば VMRESUME を、立っていなければ VMLAUNCH を実行する。`run` は VMCLEAR で
VMCS を Clear に戻すが `launched` を落とさないので、`run` の命令の列が状態の移り変わりに沿うのは、`run` に入る
とき `launched` が立っていないとき（`Vmx::new` の値）だけである。
-/

namespace Hypervisor

/-! ## 仕様の VMCS の状態 -/

/-- Modelled from the spec: VMCS 領域の launch state。 -/
inductive LaunchState where
  | clear
  | launched
  deriving DecidableEq, Repr

/-- Modelled from the spec: 論理プロセッサの上の VMCS の状態。領域ごとの launch state（VMCLEAR したことのない
領域は `none`）と、現在の VMCS。 -/
structure VmcsLifecycle where
  launchState : BitVec 64 → Option LaunchState
  current : Option (BitVec 64)

/-- Modelled from the spec: VMCS の状態を変える命令。VM exit は状態を変えない。 -/
inductive VmcsOp where
  | vmclear (pa : BitVec 64)
  | vmptrld (pa : BitVec 64)
  | vmlaunch
  | vmresume
  deriving DecidableEq, Repr

namespace VmcsLifecycle

/-- 命令一つ。VMCLEAR は領域を Clear にし、それが現在の VMCS なら現在の VMCS をなくす。VMLAUNCH と VMRESUME は
現在の VMCS の launch state が合わなければ失敗する（VMfailValid、`none`）。 -/
def step (l : VmcsLifecycle) : VmcsOp → Option VmcsLifecycle
  | .vmclear pa =>
    some ⟨Function.update l.launchState pa (some .clear), if l.current = some pa then none else l.current⟩
  | .vmptrld pa => some { l with current := some pa }
  | .vmlaunch => l.current.bind fun pa =>
    if l.launchState pa = some .clear then
      some { l with launchState := Function.update l.launchState pa (some .launched) }
    else none
  | .vmresume => l.current.bind fun pa => if l.launchState pa = some .launched then some l else none

/-- 命令の列。どれかが失敗すれば `none`。 -/
def run (l : VmcsLifecycle) : List VmcsOp → Option VmcsLifecycle
  | [] => some l
  | op :: ops => (l.step op).bind fun l' => l'.run ops

/-- VMCLEAR、VMPTRLD のあとの VMLAUNCH は、どの状態からでも成功して領域を Launched にし、VMRESUME は失敗する。 -/
theorem run_clear_load (l : VmcsLifecycle) (pa : BitVec 64) (resume : Bool) :
    l.run [.vmclear pa, .vmptrld pa, if resume then .vmresume else .vmlaunch] =
      if resume then none else some ⟨Function.update l.launchState pa (some .launched), some pa⟩ := by
  cases resume <;> simp [run, step, Function.update_same, Function.update_idem]

theorem run_append (l : VmcsLifecycle) (a b : List VmcsOp) : l.run (a ++ b) = (l.run a).bind fun l' => l'.run b := by
  induction a generalizing l with
  | nil => rfl
  | cons op a ih =>
    simp only [List.cons_append, run]
    cases l.step op <;> simp [ih]

/-- Launched の現在の VMCS への VMRESUME は、何回でも成功して状態を変えない。 -/
theorem run_replicate_vmresume {l : VmcsLifecycle} {pa : BitVec 64} (hc : l.current = some pa)
    (hl : l.launchState pa = some .launched) (k : Nat) : l.run (List.replicate k .vmresume) = some l := by
  induction k with
  | zero => rfl
  | succ k ih => simp [List.replicate_succ, run, step, hc, hl, ih]

end VmcsLifecycle

/-! ## コードの命令 -/

/-- VMX 命令のうち、VMCS の状態を変えるもの。 -/
def VmxInstruction.vmcsOp : VmxInstruction → Option VmcsOp
  | .vmxon _ => none
  | .vmclear pa => some (.vmclear pa)
  | .vmptrld pa => some (.vmptrld pa)

/-- Modelled from the spec: `launch_vm(registers, launched)` が実行する命令。 -/
def launchOp (launched : Bool) : VmcsOp := if launched then .vmresume else .vmlaunch

/-- `run` が `s` から `launch_vm` の前の `t` まで進んだとき、VMCS に対して実行する命令：その間に記録した
VMX 命令を古いものから、最後に `launch_vm` の命令。 -/
def vmcsOps (s t : State) : List VmcsOp :=
  ((t.cpu.log.take (t.cpu.log.length - s.cpu.log.length)).reverse.filterMap fun e => e.instruction.vmcsOp) ++
    [launchOp t.vmx.launched]

variable (p : Platform)

theorem vmcsOps_eq (s : State) {t : State} (ht : beforeLaunch p s = (.ok (), t)) :
    vmcsOps s t = [.vmclear (p.mmGetPhysicalAddress s.vmx.vmcsRegion.virtualAddress),
      .vmptrld (p.mmGetPhysicalAddress s.vmx.vmcsRegion.virtualAddress), launchOp s.vmx.launched] := by
  obtain ⟨hlog, hl⟩ := beforeLaunch_log p ht
  have h3 : (vmcsLoaded p s).cpu.log.length - s.cpu.log.length = 3 := by simp only [vmcsLoaded, List.length_cons]; omega
  rw [vmcsOps, hlog, hl, h3]
  simp [vmcsLoaded, VmxInstruction.vmcsOp]

/-- `launch_vm` が成功すれば `launched` が立つ。 -/
theorem launchGuest_launched (t : State) (h : (launchGuest p t).1 = .ok ()) : (launchGuest p t).2.vmx.launched = true := by
  simp only [launchGuest, Prog.bind_apply, Prog.read_apply, id_eq, Prog.modify_apply] at h ⊢
  split at h <;> simp_all

theorem run_launched (s : State) (h : (run p s).1 = .ok ()) : (run p s).2.vmx.launched = true := by
  rw [run_eq_beforeLaunch, Prog.bind_apply] at h ⊢
  rcases hb : beforeLaunch p s with ⟨_ | _ | _, t⟩ <;> simp only [hb] at h ⊢
  · exact launchGuest_launched p t h
  all_goals cases h

/-! ## `run` と VMCS の状態 -/

/-- `run` が `launch_vm` まで進めば、VMCS に対する命令は同じ物理アドレスへの VMCLEAR と VMPTRLD、そして
`launch_vm` の命令である。VMCS がどの状態にあっても、この列は `run` に入るとき `launched` が立っていなければ
許されて、その領域を Launched の現在の VMCS にする。立っていれば、Clear の VMCS への VMRESUME で失敗する。
`run` が `Ok` を返せば `launched` は立つので、同じ `Vmx` でもう一度 `run` が `launch_vm` まで進むと、その列は
失敗する。 -/
theorem run_follows_vmcs_lifecycle (s : State) {t : State} (ht : beforeLaunch p s = (.ok (), t)) (l : VmcsLifecycle) :
    vmcsOps s t = [.vmclear (p.mmGetPhysicalAddress s.vmx.vmcsRegion.virtualAddress),
      .vmptrld (p.mmGetPhysicalAddress s.vmx.vmcsRegion.virtualAddress), launchOp s.vmx.launched] ∧
    l.run (vmcsOps s t) = (if s.vmx.launched then none else
      some ⟨Function.update l.launchState (p.mmGetPhysicalAddress s.vmx.vmcsRegion.virtualAddress) (some .launched),
        some (p.mmGetPhysicalAddress s.vmx.vmcsRegion.virtualAddress)⟩) ∧
    ∀ t', (run p s).1 = .ok () → beforeLaunch p (run p s).2 = (.ok (), t') →
      l.run (vmcsOps (run p s).2 t') = none := by
  refine ⟨vmcsOps_eq p s ht, by rw [vmcsOps_eq p s ht]; exact VmcsLifecycle.run_clear_load l _ _,
    fun t' hok ht' => ?_⟩
  rw [vmcsOps_eq p _ ht', run_launched p s hok]
  exact VmcsLifecycle.run_clear_load l _ true

theorem run_follows_vmcs_lifecycle_sample :
    beforeLaunch samplePlatform sampleState = (.ok (), (beforeLaunch samplePlatform sampleState).2) ∧
    vmcsOps sampleState (beforeLaunch samplePlatform sampleState).2 = [.vmclear 0x2000, .vmptrld 0x2000, .vmlaunch] ∧
    VmcsLifecycle.run ⟨fun _ => none, none⟩ (vmcsOps sampleState (beforeLaunch samplePlatform sampleState).2) =
      some ⟨Function.update (fun _ => none) 0x2000 (some .launched), some 0x2000⟩ ∧
    ∀ t', (run samplePlatform sampleState).1 = .ok () →
      beforeLaunch samplePlatform (run samplePlatform sampleState).2 = (.ok (), t') →
      VmcsLifecycle.run ⟨fun _ => none, none⟩ (vmcsOps (run samplePlatform sampleState).2 t') = none :=
  ⟨sampleState_beforeLaunch, run_follows_vmcs_lifecycle _ _ sampleState_beforeLaunch _⟩

end Hypervisor
