import Hypervisor.Vmx.Lemmas.Steps

/-!
# ホストの GDT とホストのセレクタ

GDTR の上限が 0xFFFF でなければ、`initialize_from_current` は今の `n` 個の項目のあとに TSS の記述子を
置き、TR を `8 n` にする。`init_host_register_state` はセレクタを `SELECTOR_MASK` と交わして書く。
-/

namespace Hypervisor

/-- 今の GDT の項目の数 `(limit + 1) / 8`。 -/
def gdtEntryCount (c : Cpu) : Nat := (c.gdtr.limit.toNat + 1) / 8

theorem getCurrentGdt_eq (c : Cpu) : getCurrentGdt c = (readDescriptorTable c (gdtEntryCount c)).map GdtEntry.ofBits :=
  rfl

@[simp] theorem readDescriptorTable_length (c : Cpu) (n : Nat) : (readDescriptorTable c n).length = n := by
  simp [readDescriptorTable]

theorem segmentSelector_new_last (n : Nat) : SegmentSelector.new (BitVec.ofNat 16 (n + 1) - 1) 0 = BitVec.ofNat 16 (8 * n) := by
  apply BitVec.eq_of_toNat_eq
  simp [SegmentSelector.new, BitVec.toNat_shiftLeft, BitVec.toNat_sub, Nat.shiftLeft_eq]
  omega

/-- ホストの GDT：今の項目、TSS の記述子、それを指す GDTR と TR、今のセグメントセレクタ。 -/
def clonedHostGdt (gdtCloneAddress : BitVec 64) (c : Cpu) (self : HostGdt) : HostGdt :=
  { self with
    gdt := readDescriptorTable c (gdtEntryCount c) ++ [taskSegmentDescriptor self.tss]
    gdtr := ⟨BitVec.ofNat 16 (8 * (gdtEntryCount c + 1) - 1), gdtCloneAddress⟩
    tr := BitVec.ofNat 16 (8 * gdtEntryCount c)
    cs := c.cs, ss := c.ss, ds := c.ds, es := c.es, fs := c.fs, gs := c.gs }

theorem initializeFromCurrent_eq (a : BitVec 64) (c : Cpu) (self : HostGdt) (h : c.gdtr.limit.toNat < 0xFFFF) :
    self.initializeFromCurrent a c = some (clonedHostGdt a c self) := by
  have hl : (c.gdtr.limit + 1).toNat = c.gdtr.limit.toNat + 1 := by
    rw [BitVec.toNat_add]; simp; omega
  have hn : ((c.gdtr.limit.toNat + 1) / 8 + 1) * 8 - 1 < 2 ^ 16 := by omega
  simp only [HostGdt.initializeFromCurrent, hl, List.length_append, readDescriptorTable_length, List.length_singleton]
  rw [if_pos hn, segmentSelector_new_last, Nat.mul_comm]
  rfl

/-- GDTR の上限が 0xFFFF なら `limit + 1` は u16 で 0 に回り、写しは TSS の記述子だけで、TR は 0 になる。 -/
theorem initializeFromCurrent_wrap (a : BitVec 64) (c : Cpu) (self : HostGdt) (h : c.gdtr.limit = 0xFFFF) :
    self.initializeFromCurrent a c = some { self with
      gdt := [taskSegmentDescriptor self.tss], gdtr := ⟨7, a⟩, tr := 0
      cs := c.cs, ss := c.ss, ds := c.ds, es := c.es, fs := c.fs, gs := c.gs } := by
  have h0 : ((0xFFFF : BitVec 16) + 1).toNat / 8 = 0 := by decide
  have hr : readDescriptorTable c 0 = [] := rfl
  simp only [HostGdt.initializeFromCurrent, h, h0, hr, List.nil_append, List.length_singleton]
  rfl

variable (p : Platform)

/-- 写した GDT が `g` なら、`init_host_register_state` は `g` を覚え、ホスト状態を書く。 -/
theorem initHostRegisterState_some (s : State) {g : HostGdt}
    (hg : s.vmx.hostGdt.initializeFromCurrent p.gdtCloneAddress s.cpu = some g) :
    initHostRegisterState p s =
      (.ok (), { s with vmx.hostGdt := g, cpu.vmcs := applyWrites (hostStateWrites p.flags g s.cpu) s.cpu.vmcs }) := by
  simp only [initHostRegisterState, Prog.bind_apply, Prog.read_apply, id_eq, hg, Prog.unwrap_some, Prog.pure_apply,
    Prog.modify_apply, onCpu_apply, vmwriteAll_ok]

/-- `init_host_register_state` は panic せず、写した GDT を覚え、ホスト状態を書く。 -/
theorem initHostRegisterState_eq (s : State) (h : s.cpu.gdtr.limit.toNat < 0xFFFF) :
    initHostRegisterState p s =
      (.ok (), { s with
        vmx.hostGdt := clonedHostGdt p.gdtCloneAddress s.cpu s.vmx.hostGdt
        cpu.vmcs := applyWrites (hostStateWrites p.flags (clonedHostGdt p.gdtCloneAddress s.cpu s.vmx.hostGdt) s.cpu)
          s.cpu.vmcs }) := by
  simp only [initHostRegisterState, Prog.bind_apply, Prog.read_apply, id_eq, initializeFromCurrent_eq _ _ _ h,
    Prog.unwrap_some, Prog.pure_apply, Prog.modify_apply, onCpu_apply, vmwriteAll_ok]

/-- ホストのセレクタの欄には、セレクタと `SELECTOR_MASK` の論理積が入る。 -/
theorem hostStateWrites_selectors (f : ControlRegisterFlags) (g : HostGdt) (c : Cpu) (m : BitVec 32 → BitVec 64) :
    let m' := applyWrites (hostStateWrites f g c) m
    m' Host.CS_SELECTOR = (g.cs &&& SELECTOR_MASK).setWidth 64 ∧
    m' Host.SS_SELECTOR = (g.ss &&& SELECTOR_MASK).setWidth 64 ∧
    m' Host.DS_SELECTOR = (g.ds &&& SELECTOR_MASK).setWidth 64 ∧
    m' Host.ES_SELECTOR = (g.es &&& SELECTOR_MASK).setWidth 64 ∧
    m' Host.FS_SELECTOR = (g.fs &&& SELECTOR_MASK).setWidth 64 ∧
    m' Host.GS_SELECTOR = (g.gs &&& SELECTOR_MASK).setWidth 64 ∧
    m' Host.TR_SELECTOR = (g.tr &&& SELECTOR_MASK).setWidth 64 :=
  ⟨rfl, rfl, rfl, rfl, rfl, rfl, rfl⟩

end Hypervisor
