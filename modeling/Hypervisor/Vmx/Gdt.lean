import Hypervisor.Arch.Cpu

/-!
# GDT の項目の読み方と、ホストの GDT

`unpack_gdt_entry` はゲスト状態の基底、上限、アクセス権を GDT の項目から作る。
`HostGdt::initialize_from_current` は今の GDT を写し、TSS の記述子を一つ足す。
TR が 0 のままではホスト状態にできないからである。
-/

namespace Hypervisor

/-- `GdtEntry`：`#[repr(packed)]` の 8 バイトの項目。 -/
structure GdtEntry where
  limitLow : BitVec 16
  baseLow : BitVec 16
  baseMiddle : BitVec 8
  access : BitVec 8
  granularity : BitVec 8
  baseHigh : BitVec 8
  deriving DecidableEq, Repr

/-- メモリの 8 バイトを、小さい番地のバイトから順にフィールドへ分ける。 -/
def GdtEntry.ofBits (q : BitVec 64) : GdtEntry where
  limitLow := q.extractLsb' 0 16
  baseLow := q.extractLsb' 16 16
  baseMiddle := q.extractLsb' 32 8
  access := q.extractLsb' 40 8
  granularity := q.extractLsb' 48 8
  baseHigh := q.extractLsb' 56 8

/-- `UnpackedGdtEntry`。`Default` はすべて 0。 -/
structure UnpackedGdtEntry where
  base : BitVec 64 := 0
  limit : BitVec 64 := 0
  accessRights : BitVec 32 := 0
  selector : BitVec 16 := 0
  deriving DecidableEq, Repr

def GDT_ENTRY_ACCESS_PRESENT : BitVec 8 := 0x80

def VMX_INFO_SEGMENT_UNUSABLE : BitVec 32 := 0x10000

/-- `unpack_gdt_entry(gdt, selector)`。番号 `selector / 8` が表の外なら `gdt[index]` が panic する（`none`）。 -/
def unpackGdtEntry (gdt : List GdtEntry) (selector : BitVec 16) : Option UnpackedGdtEntry :=
  let index := selector.toNat / 8
  if index = 0 then
    some { accessRights := 0 ||| VMX_INFO_SEGMENT_UNUSABLE }
  else
    gdt[index]?.map fun (e : GdtEntry) =>
      let accessRights :=
        (e.access.setWidth 32 ||| ((e.granularity &&& 0xf0).setWidth 32 <<< 8)) &&& 0xf0ff
      { selector
        limit := e.limitLow.setWidth 64 ||| ((e.granularity.setWidth 64 &&& 0x0f) <<< 16)
        base := (e.baseHigh.setWidth 64 <<< 24) ||| (e.baseMiddle.setWidth 64 <<< 16) ||| e.baseLow.setWidth 64
        accessRights :=
          if e.access &&& GDT_ENTRY_ACCESS_PRESENT = 0 then accessRights ||| VMX_INFO_SEGMENT_UNUSABLE
          else accessRights }

/-- GDTR が指す表の 8 バイトの項目を、`count` 個読む。 -/
def readDescriptorTable (c : Cpu) (count : Nat) : List (BitVec 64) :=
  (List.range count).map fun k => c.memory (c.gdtr.base + BitVec.ofNat 64 (8 * k))

/-- `get_current_gdt()`：`(limit + 1) / 8` 個の項目。 -/
def getCurrentGdt (c : Cpu) : List GdtEntry :=
  (readDescriptorTable c ((c.gdtr.limit.toNat + 1) / 8)).map GdtEntry.ofBits

/-! ## ホストの GDT -/

/-- `TaskStateSegment([u8; 104])`。中身はどの関数も読まないので、置かれた番地だけを持つ。 -/
structure TaskStateSegment where
  address : BitVec 64
  deriving DecidableEq, Repr, Inhabited

/-- `task_segment_descriptor(tss)`：x86 クレートの `tss_descriptor(base, 104 - 1, true).present()
.dpl(Ring0).finish()`。8 バイトの記述子で、種類 9（使用可能な TSS）、P = 1、DPL = 0。
基底は下位 32 ビットだけが入る。 -/
def taskSegmentDescriptor (tss : TaskStateSegment) : BitVec 64 :=
  let base := tss.address
  let limit : BitVec 64 := 104 - 1
  ((base.extractLsb' 24 8).setWidth 64 <<< 56) ||| ((limit.extractLsb' 16 4).setWidth 64 <<< 48) |||
    0x800000000000 ||| 0x90000000000 ||| ((base.extractLsb' 0 24).setWidth 64 <<< 16) ||| (limit &&& 0xFFFF)

/-- `HostGdt`。`Default` は空の表と 0 のセレクタ。 -/
structure HostGdt where
  gdt : List (BitVec 64) := []
  gdtr : DescriptorTablePointer := ⟨0, 0⟩
  tss : TaskStateSegment
  cs : BitVec 16 := 0
  ss : BitVec 16 := 0
  ds : BitVec 16 := 0
  es : BitVec 16 := 0
  fs : BitVec 16 := 0
  gs : BitVec 16 := 0
  tr : BitVec 16 := 0
  deriving DecidableEq, Repr, Inhabited

/-- `HostGdt::initialize_from_current`。`u16::try_from(len * 8 - 1).unwrap()` が失敗すれば panic する
（`none`）。`limit + 1` は `u16` の足し算で、ここでは桁あふれを 2^16 で回す（release のビルド）。
`gdtCloneAddress` は写した `Vec` の置き場所。 -/
def HostGdt.initializeFromCurrent (gdtCloneAddress : BitVec 64) (c : Cpu) (self : HostGdt) :
    Option HostGdt :=
  let currentGdt := readDescriptorTable c ((c.gdtr.limit + 1).toNat / 8)
  let gdt := currentGdt ++ [taskSegmentDescriptor self.tss]
  if gdt.length * 8 - 1 < 2 ^ 16 then
    let trIndex := BitVec.ofNat 16 gdt.length - 1
    some { self with
      gdt
      gdtr := ⟨BitVec.ofNat 16 (gdt.length * 8 - 1), gdtCloneAddress⟩
      tr := SegmentSelector.new trIndex 0
      cs := c.cs, ss := c.ss, ds := c.ds, es := c.es, fs := c.fs, gs := c.gs }
  else none

end Hypervisor
