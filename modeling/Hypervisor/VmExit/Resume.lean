import Hypervisor.Vmx.Launch
import Hypervisor.Vmx.Lifecycle
import Hypervisor.VmExit.Emulation

/-!
# VMRESUME のたびの VM entry の検査

`run` が VMLAUNCH に渡す VMCS はホスト状態と制御のフィールドについて VM entry の検査を満たす。VM exit の
処理はゲストの RIP しか書かず、ゲストも VM exit もそれらのフィールドを書かないので、MSR の処理が VMX の
能力 MSR を書かない限り、VMRESUME のたびに同じ検査が成り立ち、`vmexit_handler` はいつも `run` が書いた
ホスト状態の上で走る。処理は VMX 命令を実行しないので、現在の VMCS は Launched のまま残り、VMRESUME が
launch state の検査で失敗することもない。
-/

namespace Hypervisor

/-! ## 変わらないものから検査へ -/

theorem capMsr_isVmxMsr (k : VmxControl) (b : Bool) : IsVmxMsr (capMsr k b) := by
  cases k <;> cases b <;> decide

theorem selectedCapabilities_congr {m m' : BitVec 32 → BitVec 64} (h : ∀ i, IsVmxMsr i → m' i = m i)
    (k : VmxControl) : selectedCapabilities m' k = selectedCapabilities m k := by
  rw [selectedCapabilities, selectedCapabilities, h Msr.IA32_VMX_BASIC (by decide), h _ (capMsr_isVmxMsr _ _)]

theorem hostSelectorFields_kept : ∀ g ∈ hostSelectorFields, KeptByVmExit g := by
  simp only [hostSelectorFields, List.mem_cons, List.mem_singleton, List.not_mem_nil, or_false, forall_eq_or_imp,
    forall_eq]
  refine ⟨?_, ?_, ?_, ?_, ?_, ?_, ?_⟩ <;> decide

theorem controlRequests_kept : ∀ w ∈ controlRequests, KeptByVmExit w.1 := by
  simp only [controlRequests, List.mem_cons, List.mem_singleton, List.not_mem_nil, or_false, forall_eq_or_imp,
    forall_eq]
  refine ⟨?_, ?_, ?_, ?_, ?_⟩ <;> decide

/-- `HostReady` は、VMX の状態（VM exit で保たれるフィールドと VMX の能力 MSR）だけで決まる。 -/
theorem HostReady.of_hostKept {c₀ c : Cpu} (hr : HostReady c₀) (hk : HostKept c₀ c) : HostReady c := by
  obtain ⟨hop, hcur, -, hv, hm⟩ := hk
  obtain ⟨pa, hpa, hcur₀⟩ := hr.currentVmcs
  refine ⟨hop.trans hr.vmxOperation, ⟨pa, hpa, hcur.trans hcur₀⟩, ?_, ?_, ?_, fun g hg => ?_, ?_, fun w hw => ?_⟩
  · rw [FixedWithin, hm _ (by decide), hm _ (by decide), hv _ (by decide)]
    exact hr.hostCr0
  · rw [FixedWithin, hm _ (by decide), hm _ (by decide), hv _ (by decide)]
    exact hr.hostCr4
  · rw [hv _ (by decide)]
    exact hr.hostVmxe
  · rw [hv g (hostSelectorFields_kept g hg)]
    exact hr.hostSelectors g hg
  · rw [hv _ (by decide), hv _ (by decide)]
    exact hr.hostCsTr
  · rw [hv w.1 (controlRequests_kept w hw), selectedCapabilities_congr hm]
    exact hr.controls w hw

/-! ## `run` のあとの VM exit の繰り返し -/

variable (p : Platform) (d : Decoders) (h : Handlers)

/-- `run` が VMLAUNCH まで進んだあと（`run_enters_guest_with_ready_vmcs` の条件で）、VMRESUME と VM exit を
どれだけ繰り返しても、`vmexit_handler` を呼ぶ時点のプロセッサは、VMLAUNCH のときの VMX の状態からの VM exit が
ホスト状態のフィールドを読み込んだもので、それが返った時点のプロセッサは VMLAUNCH のときの VMX の状態のままで、
VM entry のホスト状態と制御の検査を満たす。MSR の処理は VMX の能力 MSR を書かないとする。 -/
theorem run_vmresume_host_ready (s : State) (hcap : VmxCapabilities p.flags s.cpu.msr)
    (hcs : s.cpu.cs.toNat / 8 % 32 ≠ 0) (htr : (s.cpu.gdtr.limit + 1).toNat / 8 % 32 ≠ 0) {t : State}
    (ht : beforeLaunch p s = (.ok (), t)) (hmsr : h.KeepsVmxMsrs) {f : ExitFrame} (hf : AtVmExit d h t.cpu f) :
    (∃ g, HostKept t.cpu g ∧ f.cpu = g.vmExit) ∧
      HostKept t.cpu (vmexitHandler d h f).2.cpu ∧ HostReady (vmexitHandler d h f).2.cpu :=
  have hk := (atVmExit_hostKept hmsr hf).2
  ⟨atVmExit_loaded hmsr hf, hk, (beforeLaunch_entryReady p s hcap hcs htr ht).toHostReady.of_hostKept hk⟩

/-- `run` に入るとき `launched` が立っていなければ、VM exit の繰り返しのどの時点でも、現在の VMCS は `run` が
VMPTRLD した領域のままで、VMX 命令の記録は VMLAUNCH のときから増えない。仕様の VMCS の状態では、`run` の命令の
あとの VMRESUME は何回でも受け入れられ、その領域は Launched の現在の VMCS のまま残る。 -/
theorem exit_loop_resumes_launched_vmcs (s : State) {t : State} (ht : beforeLaunch p s = (.ok (), t))
    (hl : s.vmx.launched = false) {f : ExitFrame} (hf : AtVmExit d h t.cpu f) (l : VmcsLifecycle) (k : Nat) :
    (vmexitHandler d h f).2.cpu.currentVmcs = some (p.mmGetPhysicalAddress s.vmx.vmcsRegion.virtualAddress) ∧
    (vmexitHandler d h f).2.cpu.log = t.cpu.log ∧
    l.run (vmcsOps s t ++ List.replicate k .vmresume) =
      some ⟨Function.update l.launchState (p.mmGetPhysicalAddress s.vmx.vmcsRegion.virtualAddress) (some .launched),
        some (p.mmGetPhysicalAddress s.vmx.vmcsRegion.virtualAddress)⟩ := by
  have hk := (AtVmExit.invariant (fun c => c.currentVmcs = t.cpu.currentVmcs ∧ c.log = t.cpu.log) ⟨rfl, rfl⟩
    (fun _ _ hc hr => ⟨hr.hostKept.currentVmcs.trans hc.1, hr.hostKept.log.trans hc.2⟩)
    (fun f hc => by rw [(vmexitHandler_writes d h f).1]; exact hc) hf).2
  have hcur : t.cpu.currentVmcs = some (p.mmGetPhysicalAddress s.vmx.vmcsRegion.virtualAddress) := by
    rw [(beforeLaunch_cpu p ht).1, vmcsLoaded_currentVmcs]
  refine ⟨hk.1.trans hcur, hk.2, ?_⟩
  rw [VmcsLifecycle.run_append, vmcsOps_eq p s ht, hl]
  rw [launchOp, VmcsLifecycle.run_clear_load l _ false, if_neg Bool.false_ne_true, Option.some_bind]
  exact VmcsLifecycle.run_replicate_vmresume rfl (Function.update_same _ _ _) k

/-- 例に使う最初の VM exit：例の状態から `run` が VMLAUNCH したゲストが、何も変えずに VM exit を起こす。 -/
def sampleFirstExit : ExitFrame := ⟨some default, (beforeLaunch samplePlatform sampleState).2.cpu.vmExit, []⟩

/-- 例に使う二度目の VM exit：`vmexit_handler` が最初の VM exit の CPUID を模倣し、VMRESUME で戻ったゲストが、
また何も変えずに VM exit を起こす。 -/
def sampleSecondExit : ExitFrame :=
  ⟨some default, (vmexitHandler cpuidDecoders idleHandlers sampleFirstExit).2.cpu.vmExit,
    (vmexitHandler cpuidDecoders idleHandlers sampleFirstExit).2.calls⟩

theorem sampleSecondExit_atVmExit :
    AtVmExit cpuidDecoders idleHandlers (beforeLaunch samplePlatform sampleState).2.cpu sampleSecondExit :=
  @AtVmExit.resume cpuidDecoders idleHandlers _ sampleFirstExit default _ (.launch [] (GuestRunsToExit.exit _))
    (congrArg Prod.fst (vmexitHandler_of_emulatedExit cpuidDecoders idleHandlers
      (⟨rfl, rfl, rfl⟩ : EmulatedExit cpuidDecoders sampleFirstExit default .cpuid)))
    (GuestRunsToExit.exit _)

theorem run_vmresume_host_ready_sample :
    (VmxCapabilities samplePlatform.flags sampleState.cpu.msr ∧ sampleState.cpu.cs.toNat / 8 % 32 ≠ 0 ∧
      (sampleState.cpu.gdtr.limit + 1).toNat / 8 % 32 ≠ 0 ∧
      beforeLaunch samplePlatform sampleState = (.ok (), (beforeLaunch samplePlatform sampleState).2) ∧
      idleHandlers.KeepsVmxMsrs ∧
      AtVmExit cpuidDecoders idleHandlers (beforeLaunch samplePlatform sampleState).2.cpu sampleSecondExit) ∧
    (∃ g, HostKept (beforeLaunch samplePlatform sampleState).2.cpu g ∧ sampleSecondExit.cpu = g.vmExit) ∧
    HostKept (beforeLaunch samplePlatform sampleState).2.cpu
      (vmexitHandler cpuidDecoders idleHandlers sampleSecondExit).2.cpu ∧
    HostReady (vmexitHandler cpuidDecoders idleHandlers sampleSecondExit).2.cpu :=
  have h := sampleState_vmxCapabilities
  have hmsr : idleHandlers.KeepsVmxMsrs := fun _ _ _ _ _ => rfl
  ⟨⟨h.1, h.2.1, h.2.2, sampleState_beforeLaunch, hmsr, sampleSecondExit_atVmExit⟩,
    run_vmresume_host_ready _ _ _ _ h.1 h.2.1 h.2.2 sampleState_beforeLaunch hmsr sampleSecondExit_atVmExit⟩

theorem exit_loop_resumes_launched_vmcs_sample :
    (beforeLaunch samplePlatform sampleState = (.ok (), (beforeLaunch samplePlatform sampleState).2) ∧
      sampleState.vmx.launched = false ∧
      AtVmExit cpuidDecoders idleHandlers (beforeLaunch samplePlatform sampleState).2.cpu sampleSecondExit) ∧
    (vmexitHandler cpuidDecoders idleHandlers sampleSecondExit).2.cpu.currentVmcs =
        some (samplePlatform.mmGetPhysicalAddress sampleState.vmx.vmcsRegion.virtualAddress) ∧
    (vmexitHandler cpuidDecoders idleHandlers sampleSecondExit).2.cpu.log =
        (beforeLaunch samplePlatform sampleState).2.cpu.log ∧
    VmcsLifecycle.run ⟨fun _ => none, none⟩
      (vmcsOps sampleState (beforeLaunch samplePlatform sampleState).2 ++ List.replicate 2 .vmresume) =
      some ⟨Function.update (fun _ => none) (samplePlatform.mmGetPhysicalAddress sampleState.vmx.vmcsRegion.virtualAddress)
        (some .launched), some (samplePlatform.mmGetPhysicalAddress sampleState.vmx.vmcsRegion.virtualAddress)⟩ :=
  ⟨⟨sampleState_beforeLaunch, rfl, sampleSecondExit_atVmExit⟩,
    exit_loop_resumes_launched_vmcs _ _ _ _ sampleState_beforeLaunch rfl sampleSecondExit_atVmExit _ 2⟩

end Hypervisor
