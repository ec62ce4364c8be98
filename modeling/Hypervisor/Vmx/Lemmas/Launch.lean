import Hypervisor.Vmx.Lemmas.Entry
import Hypervisor.Vmx.Lemmas.Host
import Hypervisor.Vmx.Lemmas.Controls

/-!
# `launch_vm` の前の段

`run` は `launch_vm` を呼ぶ前に五つの段を行う。前の二つ（VMX を有効にし、VMCS を選ぶ）が `Ok` になるかは
IA32_FEATURE_CONTROL、二つの領域の物理アドレス、三つの VMX 命令の成否で決まり、そのときの状態は
`vmcsLoaded` である。後の三つはゲストのセレクタが今の GDT の中にあれば panic せず、VMCS への書き込みは
`vmcsWrites` を順に行ったものになる。フィールドの値は、そのフィールドへの最後の書き込み `lastWrite` で読む。
-/

namespace Hypervisor

/-! ## 計算をつなぐ -/

namespace Prog

variable {σ α β γ : Type}

theorem bind_assoc (x : Prog σ α) (f : α → Prog σ β) (g : β → Prog σ γ) :
    (x >>= f) >>= g = x >>= fun a => f a >>= g := by
  funext s
  rcases hx : x s with ⟨a | e | _, t⟩ <;> simp only [bind_apply, hx]

/-- `x >>= f` が値を返すのは、`x` が値を返し、そのあと `f` が値を返したときである。 -/
theorem bind_eq_ok {x : Prog σ α} {f : α → Prog σ β} {s s' : σ} {b : β} (h : (x >>= f) s = (.ok b, s')) :
    ∃ a t, x s = (.ok a, t) ∧ f a t = (.ok b, s') := by
  rcases hx : x s with ⟨a | e | _, t⟩ <;> simp only [bind_apply, hx] at h
  · exact ⟨a, t, rfl, h⟩
  all_goals cases h

/-- 値を返した計算の結果は、その計算の後の状態で書ける。具体的な実行を評価せずに例を書くのに使う。 -/
theorem eq_ok_snd (x : Prog σ α) (s : σ) {a : α} {t : σ} (h : x s = (.ok a, t)) : x s = (.ok a, (x s).2) := by
  rw [h]

end Prog

/-! ## 書き込みの並び -/

/-- 書き込みの並び `ws` の、フィールド `g` への最後の書き込み。値が計算できないもの（panic する）は `some none`。 -/
def lastWrite : List (BitVec 32 × Option (BitVec 64)) → BitVec 32 → Option (Option (BitVec 64))
  | [], _ => none
  | w :: ws, g =>
    match lastWrite ws g with
    | some o => some o
    | none => if w.1 = g then some w.2 else none

/-- `vmwrite` の並びが終わるのは、どの値も計算できるときである。 -/
theorem vmwriteAll_fst_eq_ok (ws : List (BitVec 32 × Option (BitVec 64))) (c : Cpu) :
    (vmwriteAll ws c).1 = .ok () ↔ ∀ w ∈ ws, w.2.isSome := by
  induction ws generalizing c with
  | nil => simp [vmwriteAll]
  | cons w ws ih =>
    obtain ⟨f, _ | v⟩ := w
    · simp [vmwriteAll]
    · simp [vmwriteAll, ih]

/-- `vmwrite` の並びが終われば、変わるのは VMCS だけで、書いたフィールドは最後の書き込みの値に、
書かなかったフィールドは元の値になる。 -/
theorem vmwriteAll_eq_ok {ws : List (BitVec 32 × Option (BitVec 64))} {c c' : Cpu} (h : vmwriteAll ws c = (.ok (), c')) :
    c' = { c with vmcs := c'.vmcs } ∧ ∀ g, (∀ v, lastWrite ws g = some (some v) → c'.vmcs g = v) ∧
      (lastWrite ws g = none → c'.vmcs g = c.vmcs g) := by
  induction ws generalizing c with
  | nil =>
    cases h
    exact ⟨rfl, fun g => ⟨fun _ hv => (by cases hv), fun _ => rfl⟩⟩
  | cons w ws ih =>
    obtain ⟨f, _ | v⟩ := w
    · cases h
    obtain ⟨hc, hg⟩ := ih h
    refine ⟨hc, fun g => ?_⟩
    obtain ⟨h1, h2⟩ := hg g
    simp only [lastWrite]
    rcases hl : lastWrite ws g with _ | o
    · by_cases hf : f = g
      · subst hf
        simp [h2 hl]
      · simp [hf, h2 hl, Function.update_noteq (Ne.symm hf)]
    · refine ⟨fun v' hv' => h1 v' ?_, fun h => ?_⟩
      · rw [hl]
        simpa using hv'
      · simp at h

theorem vmwriteAll_append (a b : List (BitVec 32 × Option (BitVec 64))) :
    vmwriteAll (a ++ b) = (vmwriteAll a >>= fun _ => vmwriteAll b) := by
  funext c
  induction a generalizing c with
  | nil => rfl
  | cons w a ih =>
    obtain ⟨f, _ | v⟩ := w
    · rfl
    · exact ih (c.vmwrite f v)

variable (p : Platform)

/-! ## VMX を有効にし、VMCS を選ぶ -/

/-- VMX を有効にして VMCS を選ぶ二つの段が `Ok` になる条件：IA32_FEATURE_CONTROL が VMXON を許し、二つの
領域の物理アドレスが 0 でなく、VMXON、VMCLEAR、VMPTRLD が成功する。 -/
structure VmcsLoadConditions (s : State) : Prop where
  featureControl : FeatureControlOk (s.cpu.msr Msr.IA32_FEATURE_CONTROL)
  vmxonAddress : p.mmGetPhysicalAddress s.vmx.vmxonRegion.virtualAddress ≠ 0
  vmxon : p.vmxSucceeds (.vmxon (p.mmGetPhysicalAddress s.vmx.vmxonRegion.virtualAddress)) = true
  vmcsAddress : p.mmGetPhysicalAddress s.vmx.vmcsRegion.virtualAddress ≠ 0
  vmclear : p.vmxSucceeds (.vmclear (p.mmGetPhysicalAddress s.vmx.vmcsRegion.virtualAddress)) = true
  vmptrld : p.vmxSucceeds (.vmptrld (p.mmGetPhysicalAddress s.vmx.vmcsRegion.virtualAddress)) = true

@[simp] theorem preVmxonState_vmx (s : State) (v : BitVec 64) : (preVmxonState p s v).vmx = s.vmx := rfl

/-- VMPTRLD まで成功したときの状態：IA32_FEATURE_CONTROL、CR0、CR4 を合わせ、VMXON、VMCLEAR、VMPTRLD を
この順に実行し、二つの領域の物理アドレスと版番号を覚えたもの。 -/
def vmcsLoaded (s : State) : State :=
  let c := (preVmxonState p s (lockedFeatureControl (s.cpu.msr Msr.IA32_FEATURE_CONTROL))).cpu
  let pa₁ := p.mmGetPhysicalAddress s.vmx.vmxonRegion.virtualAddress
  let pa₂ := p.mmGetPhysicalAddress s.vmx.vmcsRegion.virtualAddress
  let r := vmcsRevisionId c.msr
  { vmx := (((s.vmx.setPhysicalAddress .vmxon pa₁).setRevisionId .vmxon r).setPhysicalAddress .vmcs pa₂).setRevisionId .vmcs r
    cpu := { c with
      vmxOperation := true
      currentVmcs := some pa₂
      log := ⟨.vmptrld pa₂, c.cr0, c.cr4, c.msr, r⟩ :: ⟨.vmclear pa₂, c.cr0, c.cr4, c.msr, r⟩ ::
        ⟨.vmxon pa₁, c.cr0, c.cr4, c.msr, r⟩ :: s.cpu.log } }

theorem loadVmcs_ok (s : State) (h : VmcsLoadConditions p s) :
    (enableVmxOperation p >>= fun _ => initVmcsRegion p) s = (.ok (), vmcsLoaded p s) := by
  rw [Prog.bind_apply, enableVmxOperation_eq, if_pos h.featureControl, initVmxonRegion_eq p _ rfl]
  simp only [preVmxonState_vmx, h.vmxonAddress, if_false, onCpu_apply, vmxon, execute, h.vmxon, if_true]
  rw [initVmcsRegion_eq p _ rfl]
  simp [Vmx.setPhysicalAddress, Vmx.setRevisionId, vmclear, vmptrld, execute, h.vmclear, h.vmptrld, vmcsLoaded,
    VmxInstruction.effect]
  exact h.vmcsAddress

/-- 二つの段が `Ok` で終われば、条件が成り立ち、状態は `vmcsLoaded` である。 -/
theorem loadVmcs_eq_ok {s t : State} (h : (enableVmxOperation p >>= fun _ => initVmcsRegion p) s = (.ok (), t)) :
    VmcsLoadConditions p s ∧ t = vmcsLoaded p s := by
  obtain ⟨_, t₁, h₁, h₂⟩ := Prog.bind_eq_ok h
  rw [enableVmxOperation_eq] at h₁
  split_ifs at h₁ with hfc
  swap
  · cases h₁
  rw [initVmxonRegion_eq p _ rfl] at h₁
  split_ifs at h₁ with hpa₁
  · cases h₁
  simp only [onCpu_apply, vmxon, execute] at h₁
  split_ifs at h₁ with hon
  swap
  · cases h₁
  obtain ⟨-, rfl⟩ := Prod.mk.inj h₁
  rw [initVmcsRegion_eq p _ rfl] at h₂
  split_ifs at h₂ with hpa₂
  · cases h₂
  simp only [Prog.bind_apply, onCpu_apply, vmclear, vmptrld, execute] at h₂
  split_ifs at h₂ with hclear hptrld <;> try cases h₂
  have hc : VmcsLoadConditions p s := ⟨hfc, hpa₁, hon, hpa₂, hclear, hptrld⟩
  exact ⟨hc, (Prod.mk.inj ((loadVmcs_ok p s hc).symm.trans h)).2.symm⟩

section Loaded

variable (s : State)

@[simp] theorem vmcsLoaded_context : (vmcsLoaded p s).vmx.context = s.vmx.context := rfl

@[simp] theorem vmcsLoaded_registers : (vmcsLoaded p s).vmx.registers = s.vmx.registers := rfl

@[simp] theorem vmcsLoaded_vmcsRegionPhysicalAddress :
    (vmcsLoaded p s).vmx.vmcsRegionPhysicalAddress = p.mmGetPhysicalAddress s.vmx.vmcsRegion.virtualAddress := rfl

@[simp] theorem vmcsLoaded_vmxOperation : (vmcsLoaded p s).cpu.vmxOperation = true := rfl

@[simp] theorem vmcsLoaded_currentVmcs :
    (vmcsLoaded p s).cpu.currentVmcs = some (p.mmGetPhysicalAddress s.vmx.vmcsRegion.virtualAddress) := rfl

@[simp] theorem vmcsLoaded_cr3 : (vmcsLoaded p s).cpu.cr3 = s.cpu.cr3 := rfl

@[simp] theorem vmcsLoaded_msr : (vmcsLoaded p s).cpu.msr =
    Function.update s.cpu.msr Msr.IA32_FEATURE_CONTROL (lockedFeatureControl (s.cpu.msr Msr.IA32_FEATURE_CONTROL)) := rfl

@[simp] theorem vmcsLoaded_cr0 : (vmcsLoaded p s).cpu.cr0 = fixupControlRegister p.flags.truncateCr0 s.cpu.cr0
    (s.cpu.msr Msr.IA32_VMX_CR0_FIXED0) (s.cpu.msr Msr.IA32_VMX_CR0_FIXED1) := preVmxonState_cr0 p s _

@[simp] theorem vmcsLoaded_cr4 : (vmcsLoaded p s).cpu.cr4 = fixupControlRegister p.flags.truncateCr4
    (p.flags.truncateCr4 s.cpu.cr4 ||| CR4_ENABLE_VMX) (s.cpu.msr Msr.IA32_VMX_CR4_FIXED0)
    (s.cpu.msr Msr.IA32_VMX_CR4_FIXED1) := preVmxonState_cr4 p s _

@[simp] theorem vmcsLoaded_launched : (vmcsLoaded p s).vmx.launched = s.vmx.launched := rfl

theorem vmcsLoaded_gdtEntryCount : gdtEntryCount (vmcsLoaded p s).cpu = gdtEntryCount s.cpu := rfl

end Loaded

/-! ## ゲスト状態、ホスト状態、制御フィールド -/

/-- `init_guest_register_state` が GDT で引くセレクタ：`Context` の六つと、LDTR、TR。 -/
def guestSelectors (ctx : Context) (c : Cpu) : List (BitVec 16) :=
  [ctx.segCs, ctx.segSs, ctx.segDs, ctx.segEs, ctx.segFs, ctx.segGs, c.ldtr, c.tr]

theorem unpackGdtEntry_isSome (gdt : List GdtEntry) (selector : BitVec 16) :
    (unpackGdtEntry gdt selector).isSome ↔ selector.toNat / 8 = 0 ∨ selector.toNat / 8 < gdt.length := by
  by_cases h : selector.toNat / 8 = 0 <;> simp [unpackGdtEntry, h, Option.isSome_iff_ne_none]

/-- ゲスト状態の値がすべて計算できるのは、どのセレクタも番号 0 か、表の中を指すときである。 -/
theorem guestStateWrites_isSome (f : ControlRegisterFlags) (ctx : Context) (c : Cpu) :
    (∀ w ∈ guestStateWrites f ctx c, w.2.isSome) ↔
      ∀ sel ∈ guestSelectors ctx c, sel.toNat / 8 = 0 ∨ sel.toNat / 8 < gdtEntryCount c := by
  have hlen : (getCurrentGdt c).length = gdtEntryCount c := by simp [getCurrentGdt_eq]
  rw [← hlen]
  simp only [← unpackGdtEntry_isSome]
  simp only [guestStateWrites, guestSelectors, unpackedBase, unpackedLimit, unpackedAccessRights,
    List.forall_mem_cons, List.not_mem_nil, IsEmpty.forall_iff, forall_const, implies_true, Option.isSome_some,
    Option.isSome_map', true_and, and_true]
  tauto

theorem vmcsLoaded_guestSelectors (s : State) :
    guestSelectors (vmcsLoaded p s).vmx.context (vmcsLoaded p s).cpu = guestSelectors s.vmx.context s.cpu := rfl

/-- 16 本の汎用レジスタのうち、`Context` から写す 15 本（RSP は VMCS が持つ）。 -/
def GuestRegisters.gprs (r : GuestRegisters) : List (BitVec 64) :=
  [r.rax, r.rbx, r.rcx, r.rdx, r.rdi, r.rsi, r.rbp, r.r8, r.r9, r.r10, r.r11, r.r12, r.r13, r.r14, r.r15]

def Context.gprs (c : Context) : List (BitVec 64) :=
  [c.rax, c.rbx, c.rcx, c.rdx, c.rdi, c.rsi, c.rbp, c.r8, c.r9, c.r10, c.r11, c.r12, c.r13, c.r14, c.r15]

theorem initGuestRegisterState_eq_ok {u t : State} (h : initGuestRegisterState p u = (.ok (), t)) :
    vmwriteAll (guestStateWrites p.flags u.vmx.context u.cpu) u.cpu = (.ok (), t.cpu) ∧
      t.vmx.registers.gprs = u.vmx.context.gprs ∧ t.vmx.launched = u.vmx.launched ∧
      t.vmx.hostGdt = u.vmx.hostGdt := by
  simp only [initGuestRegisterState, Prog.bind_apply, Prog.read_apply, id_eq, onCpu_apply] at h
  rcases hw : vmwriteAll (guestStateWrites p.flags u.vmx.context u.cpu) u.cpu with ⟨_ | _ | _, c⟩ <;>
    simp only [hw] at h
  · obtain ⟨-, rfl⟩ := Prod.mk.inj h
    exact ⟨rfl, rfl, rfl, rfl⟩
  all_goals cases h

theorem initGuestRegisterState_fst_eq_ok (u : State) :
    (initGuestRegisterState p u).1 = .ok () ↔ ∀ w ∈ guestStateWrites p.flags u.vmx.context u.cpu, w.2.isSome := by
  rw [← vmwriteAll_fst_eq_ok _ u.cpu]
  simp only [initGuestRegisterState, Prog.bind_apply, Prog.read_apply, id_eq, onCpu_apply]
  rcases vmwriteAll (guestStateWrites p.flags u.vmx.context u.cpu) u.cpu with ⟨_ | _ | _, c⟩ <;> simp

/-- `u16::try_from(len * 8 - 1)` は失敗しない：`limit + 1` が 2^16 で回るので、写す項目は 8191 個までである。 -/
theorem initializeFromCurrent_isSome (a : BitVec 64) (c : Cpu) (self : HostGdt) :
    (self.initializeFromCurrent a c).isSome := by
  have := (c.gdtr.limit + 1).isLt
  simp only [HostGdt.initializeFromCurrent, List.length_append, readDescriptorTable_length, List.length_singleton]
  rw [if_pos (by omega)]
  rfl

/-- `initialize_from_current` は VMCS を読まない。 -/
theorem initializeFromCurrent_vmcs (a : BitVec 64) (c : Cpu) (self : HostGdt) (v : BitVec 32 → BitVec 64) :
    self.initializeFromCurrent a { c with vmcs := v } = self.initializeFromCurrent a c := rfl

/-- `init_host_register_state` は panic せず、写した GDT を覚えてホスト状態を書く。 -/
theorem initHostRegisterState_ok (u : State) :
    ∃ g, u.vmx.hostGdt.initializeFromCurrent p.gdtCloneAddress u.cpu = some g ∧
      initHostRegisterState p u = (.ok (), { u with
        vmx.hostGdt := g, cpu.vmcs := applyWrites (hostStateWrites p.flags g u.cpu) u.cpu.vmcs }) := by
  obtain ⟨g, hg⟩ := Option.isSome_iff_exists.1
    (initializeFromCurrent_isSome p.gdtCloneAddress u.cpu u.vmx.hostGdt)
  exact ⟨g, hg, by simp [initHostRegisterState, hg, vmwriteAll_ok]⟩

/-- `init_vmcs_control_values` が求める値は、どれも 32 ビットに収まる。 -/
theorem controlRequests_fit : ∀ r ∈ controlRequests, r.2.2.toNat < 2 ^ 32 := by decide

/-- 制御フィールドの値は、すべて計算できる。 -/
theorem controlWrites_isSome (f : ControlRegisterFlags) (c : Cpu) : ∀ w ∈ controlWrites f c, w.2.isSome := by
  intro w hw
  simp only [controlWrites, List.mem_append, List.mem_map, List.mem_cons, List.not_mem_nil, or_false] at hw
  rcases hw with ⟨r, hr, rfl⟩ | rfl | rfl
  · simp only [adjustVmxControls_eq, if_pos (controlRequests_fit r hr), Option.isSome_some]
  all_goals rfl

theorem initVmcsControlValues_ok (u : State) :
    ∃ c, vmwriteAll (controlWrites p.flags u.cpu) u.cpu = (.ok (), c) ∧ initVmcsControlValues p u = (.ok (), { u with cpu := c }) := by
  obtain ⟨m, hm⟩ := vmwriteAll_frame (controlWrites p.flags u.cpu) u.cpu
  rw [(vmwriteAll_fst_eq_ok _ u.cpu).2 (controlWrites_isSome p.flags u.cpu)] at hm
  exact ⟨_, hm, by simp only [initVmcsControlValues, Prog.bind_apply, Prog.read_apply, onCpu_apply, hm]⟩

/-- 三つの段の書き込みすべて（書く順）。 -/
def vmcsWrites (f : ControlRegisterFlags) (ctx : Context) (hostGdt : HostGdt) (c : Cpu) :
    List (BitVec 32 × Option (BitVec 64)) :=
  guestStateWrites f ctx c ++ (hostStateWrites f hostGdt c).map (fun w => (w.1, some w.2)) ++ controlWrites f c

/-- ゲスト状態、ホスト状態、制御フィールドの三つの段が `Ok` で終われば、VMCS への書き込みは `vmcsWrites` を
順に行ったもので、汎用レジスタの写しは `Context` のものである。 -/
theorem writeStages_eq_ok {u t : State}
    (h : (initGuestRegisterState p >>= fun _ => initHostRegisterState p >>= fun _ => initVmcsControlValues p) u =
      (.ok (), t)) :
    (∃ g, u.vmx.hostGdt.initializeFromCurrent p.gdtCloneAddress u.cpu = some g ∧
      vmwriteAll (vmcsWrites p.flags u.vmx.context g u.cpu) u.cpu = (.ok (), t.cpu)) ∧
      t.vmx.registers.gprs = u.vmx.context.gprs ∧ t.vmx.launched = u.vmx.launched := by
  obtain ⟨_, t₁, h₁, h'⟩ := Prog.bind_eq_ok h
  obtain ⟨hw₁, hr, hl, hh⟩ := initGuestRegisterState_eq_ok p h₁
  obtain ⟨g, hgdt, hg⟩ := initHostRegisterState_ok p t₁
  obtain ⟨c, hc, hctl⟩ := initVmcsControlValues_ok p { t₁ with
    vmx.hostGdt := g, cpu.vmcs := applyWrites (hostStateWrites p.flags g t₁.cpu) t₁.cpu.vmcs }
  rw [Prog.bind_ok hg, hctl] at h'
  cases h'
  have hc₁ := (vmwriteAll_eq_ok hw₁).1
  rw [hh, hc₁, initializeFromCurrent_vmcs] at hgdt
  refine ⟨⟨g, hgdt, ?_⟩, hr, hl⟩
  rw [vmcsWrites, vmwriteAll_append, vmwriteAll_append, Prog.bind_apply, Prog.bind_apply, hw₁]
  rw [hc₁] at hc ⊢
  simp only [vmwriteAll_ok]
  exact hc

/-- 三つの段が `Ok` になるのは、ゲストのセレクタがどれも番号 0 か、今の GDT の中を指すときである。 -/
theorem writeStages_fst_eq_ok (u : State) :
    (∃ t, (initGuestRegisterState p >>= fun _ => initHostRegisterState p >>= fun _ => initVmcsControlValues p) u =
      (.ok (), t)) ↔ ∀ sel ∈ guestSelectors u.vmx.context u.cpu, sel.toNat / 8 = 0 ∨ sel.toNat / 8 < gdtEntryCount u.cpu := by
  rw [← guestStateWrites_isSome p.flags, ← initGuestRegisterState_fst_eq_ok]
  constructor
  · rintro ⟨t, h⟩
    obtain ⟨_, t₁, h₁, -⟩ := Prog.bind_eq_ok h
    rw [h₁]
  · intro h
    obtain ⟨t₁, h₁⟩ : ∃ t₁, initGuestRegisterState p u = (.ok (), t₁) := ⟨_, Prod.ext h rfl⟩
    obtain ⟨g, -, hg⟩ := initHostRegisterState_ok p t₁
    obtain ⟨c, -, hctl⟩ := initVmcsControlValues_ok p { t₁ with
      vmx.hostGdt := g, cpu.vmcs := applyWrites (hostStateWrites p.flags g t₁.cpu) t₁.cpu.vmcs }
    exact ⟨_, by rw [Prog.bind_ok h₁, Prog.bind_ok hg, hctl]⟩

/-! ## 三つの段が書く値 -/

/-- 三つの段のあとのフィールドの値は、そのフィールドへの最後の書き込みの値である。 -/
theorem vmcs_of_lastWrite {ws : List (BitVec 32 × Option (BitVec 64))} {c c' : Cpu} (h : vmwriteAll ws c = (.ok (), c'))
    (g : BitVec 32) {v : BitVec 64} (hg : lastWrite ws g = some (some v)) : c'.vmcs g = v :=
  ((vmwriteAll_eq_ok h).2 g).1 v hg

theorem map_vmcs_of_lastWrite {ws : List (BitVec 32 × Option (BitVec 64))} {c c' : Cpu}
    (h : vmwriteAll ws c = (.ok (), c')) :
    ∀ {gs : List (BitVec 32)} {vs : List (BitVec 64)}, gs.map (lastWrite ws) = vs.map (fun v => some (some v)) →
      gs.map c'.vmcs = vs
  | [], [], _ => rfl
  | g :: _, _ :: _, hg => by
    simp only [List.map_cons, List.cons.injEq] at hg ⊢
    exact ⟨vmcs_of_lastWrite h g hg.1, map_vmcs_of_lastWrite h hg.2⟩
  | [], _ :: _, hg => by cases hg
  | _ :: _, [], hg => by cases hg

/-- ホストのセグメントセレクタのフィールド。 -/
def hostSelectorFields : List (BitVec 32) :=
  [Host.CS_SELECTOR, Host.SS_SELECTOR, Host.DS_SELECTOR, Host.ES_SELECTOR, Host.FS_SELECTOR, Host.GS_SELECTOR,
   Host.TR_SELECTOR]

section Values

variable (f : ControlRegisterFlags) (ctx : Context) (hostGdt : HostGdt) (c : Cpu)

/-- ゲストとホストの CR0 と CR0 の読み出しの影には、今の CR0 を型のフラグに切ったものが入る。CR3 と CR4 も同じ。 -/
theorem vmcsWrites_controlRegisters :
    (∀ g ∈ [Guest.CR0, Host.CR0, Control.CR0_READ_SHADOW],
      lastWrite (vmcsWrites f ctx hostGdt c) g = some (some (f.truncateCr0 c.cr0))) ∧
    (∀ g ∈ [Guest.CR3, Host.CR3], lastWrite (vmcsWrites f ctx hostGdt c) g = some (some c.cr3)) ∧
    (∀ g ∈ [Guest.CR4, Host.CR4, Control.CR4_READ_SHADOW],
      lastWrite (vmcsWrites f ctx hostGdt c) g = some (some (f.truncateCr4 c.cr4))) := by
  simp only [List.mem_cons, List.mem_singleton, List.not_mem_nil, or_false, forall_eq_or_imp, forall_eq]
  exact ⟨⟨rfl, rfl, rfl⟩, ⟨rfl, rfl⟩, ⟨rfl, rfl, rfl⟩⟩

/-- ホストのセレクタのフィールドには、セレクタと `SELECTOR_MASK` の論理積が入る。 -/
theorem vmcsWrites_hostSelectors : ∀ g ∈ hostSelectorFields, ∃ x : BitVec 16,
    lastWrite (vmcsWrites f ctx hostGdt c) g = some (some ((x &&& SELECTOR_MASK).setWidth 64)) := by
  simp only [hostSelectorFields, List.mem_cons, List.mem_singleton, List.not_mem_nil, or_false, forall_eq_or_imp,
    forall_eq]
  exact ⟨⟨_, rfl⟩, ⟨_, rfl⟩, ⟨_, rfl⟩, ⟨_, rfl⟩, ⟨_, rfl⟩, ⟨_, rfl⟩, ⟨_, rfl⟩⟩

theorem vmcsWrites_controls :
    ∀ w ∈ controlRequests, lastWrite (vmcsWrites f ctx hostGdt c) w.1 = some (adjustVmxControls c.msr w.2.1 w.2.2) := by
  simp only [controlRequests, List.mem_cons, List.mem_singleton, List.not_mem_nil, or_false, forall_eq_or_imp,
    forall_eq]
  exact ⟨rfl, rfl, rfl, rfl, rfl⟩

/-- ゲストの RIP、RSP、RFLAGS、DR7、六つのセグメントセレクタは `Context` から、VMCS のリンクポインタはすべて 1。 -/
theorem vmcsWrites_guest :
    [Guest.RIP, Guest.RSP, Guest.RFLAGS, Guest.DR7].map (lastWrite (vmcsWrites f ctx hostGdt c)) =
      [ctx.rip, ctx.rsp, ctx.eFlags.setWidth 64, ctx.dr7].map (fun v => some (some v)) ∧
    [Guest.CS_SELECTOR, Guest.SS_SELECTOR, Guest.DS_SELECTOR, Guest.ES_SELECTOR, Guest.FS_SELECTOR,
      Guest.GS_SELECTOR].map (lastWrite (vmcsWrites f ctx hostGdt c)) =
      ([ctx.segCs, ctx.segSs, ctx.segDs, ctx.segEs, ctx.segFs, ctx.segGs].map (·.setWidth 64)).map
        (fun v => some (some v)) ∧
    lastWrite (vmcsWrites f ctx hostGdt c) Guest.LINK_PTR_FULL = some (some (BitVec.allOnes 64)) :=
  ⟨rfl, rfl, rfl⟩

end Values

/-! ## `launch_vm` の前の五つの段 -/

/-- `run` のうち `launch_vm` の前の段：VMX を有効にし、VMCS を選び、ゲスト状態、ホスト状態、制御フィールドを
書く。 -/
def beforeLaunch : Prog State Unit := do
  enableVmxOperation p
  initVmcsRegion p
  initGuestRegisterState p
  initHostRegisterState p
  initVmcsControlValues p

theorem run_eq_beforeLaunch : run p = (beforeLaunch p >>= fun _ => launchGuest p) := by
  simp only [run, beforeLaunch, Prog.bind_assoc]

theorem beforeLaunch_eq : beforeLaunch p = ((enableVmxOperation p >>= fun _ => initVmcsRegion p) >>= fun _ =>
    initGuestRegisterState p >>= fun _ => initHostRegisterState p >>= fun _ => initVmcsControlValues p) := by
  simp only [beforeLaunch, Prog.bind_assoc]

/-- `launch_vm` の前の五つの段が `Ok` で終われば、VMCS を選ぶ条件が成り立ち、ホストの GDT の写しは `g` で、
`vmcsLoaded` の VMCS に `vmcsWrites` を順に書いたものが VMCS になり、汎用レジスタの写しは `Context` のもので、
`launched` は変わらない。 -/
theorem beforeLaunch_eq_ok {s t : State} (ht : beforeLaunch p s = (.ok (), t)) :
    VmcsLoadConditions p s ∧ ∃ g,
      (vmcsLoaded p s).vmx.hostGdt.initializeFromCurrent p.gdtCloneAddress (vmcsLoaded p s).cpu = some g ∧
      vmwriteAll (vmcsWrites p.flags s.vmx.context g (vmcsLoaded p s).cpu) (vmcsLoaded p s).cpu = (.ok (), t.cpu) ∧
      t.vmx.registers.gprs = s.vmx.context.gprs ∧ t.vmx.launched = s.vmx.launched := by
  rw [beforeLaunch_eq] at ht
  obtain ⟨_, u, hu, hw⟩ := Prog.bind_eq_ok ht
  obtain ⟨hc, rfl⟩ := loadVmcs_eq_ok p hu
  obtain ⟨⟨g, hgdt, hg⟩, hregs, hl⟩ := writeStages_eq_ok p hw
  exact ⟨hc, g, hgdt, hg, hregs, hl⟩

/-- プロセッサは `vmcsLoaded` のものと VMCS のほかは同じで、`launched` は変わらない。 -/
theorem beforeLaunch_cpu {s t : State} (ht : beforeLaunch p s = (.ok (), t)) :
    t.cpu = { (vmcsLoaded p s).cpu with vmcs := t.cpu.vmcs } ∧ t.vmx.launched = s.vmx.launched :=
  have ⟨_, _, _, hg, _, hl⟩ := beforeLaunch_eq_ok p ht
  ⟨(vmwriteAll_eq_ok hg).1, hl⟩

/-- VMX 命令の記録は `vmcsLoaded` のもので、`launched` は変わらない。 -/
theorem beforeLaunch_log {s t : State} (ht : beforeLaunch p s = (.ok (), t)) :
    t.cpu.log = (vmcsLoaded p s).cpu.log ∧ t.vmx.launched = s.vmx.launched :=
  ⟨by rw [(beforeLaunch_cpu p ht).1], (beforeLaunch_cpu p ht).2⟩

end Hypervisor
