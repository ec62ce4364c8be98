import Hypervisor.Basic

/-!
# 恒等写像のページ表（`intel/paging.rs`）

`Entry` は bitfield クレートの `u64` の欄で、読み書きはクレートの `bit_range` と `set_bit_range` を
そのまま写す。`build_identity` の二重の `for` は `Nat.fold` にする。表の物理アドレス
（`PhysicalAddress::pa_from_va`）は引数 `Placement` で与える。

表が物理メモリにどう並ぶかは `#[repr(C, align(4096))]` が決める。`Entry` にも付いているので、
`size_of::<Entry>()` は 4096 で、表の項目は 4096 バイトおきに並ぶ。`Table.word` はその並びを写す。
-/

namespace Hypervisor

/-! ## bitfield の欄 -/

/-- bitfield の `bit_range(msb, lsb)`（`u64` の値）：ビット `msb..lsb` を下へ詰めたもの。 -/
def bitRange (msb lsb : Nat) (v : BitVec 64) : BitVec 64 :=
  v <<< (63 - msb) >>> (63 - msb + lsb)

/-- bitfield の `set_bit_range(msb, lsb, value)`。 -/
def setBitRange (msb lsb : Nat) (value v : BitVec 64) : BitVec 64 :=
  let mask : BitVec 64 := BitVec.allOnes 64 <<< (63 - msb) >>> (63 - msb + lsb) <<< lsb
  (v &&& ~~~mask) ||| ((value <<< lsb) &&& mask)

theorem getLsbD_bitRange {msb : Nat} (lsb : Nat) (v : BitVec 64) (i : Nat) (h : msb < 64) :
    (bitRange msb lsb v).getLsbD i = (decide (i + lsb ≤ msb) && v.getLsbD (i + lsb)) := by
  simp only [bitRange, BitVec.getLsbD_ushiftRight, BitVec.getLsbD_shiftLeft]
  by_cases hi : i + lsb ≤ msb
  · simp [hi, show 63 - msb + lsb + i < 64 by omega, show ¬ 63 - msb + lsb + i < 63 - msb by omega,
      show 63 - msb + lsb + i - (63 - msb) = i + lsb by omega]
  · simp [hi, show ¬ 63 - msb + lsb + i < 64 by omega]

theorem getLsbD_setBitRange {msb : Nat} (lsb : Nat) (value v : BitVec 64) (i : Nat) (h : msb < 64) :
    (setBitRange msb lsb value v).getLsbD i =
      if lsb ≤ i ∧ i ≤ msb then value.getLsbD (i - lsb) else v.getLsbD i := by
  simp only [setBitRange, BitVec.getLsbD_or, BitVec.getLsbD_and, BitVec.getLsbD_not,
    BitVec.getLsbD_ushiftRight, BitVec.getLsbD_shiftLeft, BitVec.getLsbD_allOnes]
  by_cases hi : i < 64
  · by_cases hl : lsb ≤ i <;> by_cases hm : i ≤ msb <;>
      simp (disch := omega) [hi, hl, hm, decide_eq_true, decide_eq_false]
  · simp [hi, BitVec.getLsbD_ge v i (by omega)]
    omega

/-! ## 項目 -/

/-- `Entry(u64)`：`present: 0`、`writable: 1`、`large: 7`、`pfn: 51, 12`。 -/
structure Entry where
  bits : BitVec 64
  deriving DecidableEq, Repr

namespace Entry

/-- 一ビットの欄の読み出し（クレートの `bit(n)`：`bit_range(n, n) != 0`）。 -/
def bit (e : Entry) (n : Nat) : Bool := bitRange n n e.bits != 0

/-- 一ビットの欄の書き込み（クレートの `set_bit(n, value)`）。 -/
def setBit (e : Entry) (n : Nat) (value : Bool) : Entry :=
  ⟨setBitRange n n (if value then 1 else 0) e.bits⟩

def present (e : Entry) : Bool := e.bit 0

def setPresent (e : Entry) (value : Bool) : Entry := e.setBit 0 value

def writable (e : Entry) : Bool := e.bit 1

def setWritable (e : Entry) (value : Bool) : Entry := e.setBit 1 value

def large (e : Entry) : Bool := e.bit 7

def setLarge (e : Entry) (value : Bool) : Entry := e.setBit 7 value

def pfn (e : Entry) : BitVec 64 := bitRange 51 12 e.bits

def setPfn (e : Entry) (value : BitVec 64) : Entry := ⟨setBitRange 51 12 value e.bits⟩

end Entry

/-! ## 表 -/

/-- `Table { entries: [Entry; 512] }`。`Pml4`、`Pdpt`、`Pd` はこれを包むだけである。 -/
@[ext]
structure Table where
  entries : Fin 512 → Entry

/-- 項目 `i` を `f` で書き換える（`&mut` で渡した項目への書き込み）。 -/
def Table.modify (t : Table) (i : Fin 512) (f : Entry → Entry) : Table :=
  ⟨Function.update t.entries i (f (t.entries i))⟩

/-- 0 で埋めた表。 -/
def Table.zeroed : Table := ⟨fun _ => ⟨0⟩⟩

@[simp] theorem Table.zeroed_entries (k : Fin 512) : Table.zeroed.entries k = ⟨0⟩ := rfl

/-- `PageTables`。`pt` は `build_identity` が読みも書きもしないので持たない。 -/
structure PageTables where
  pml4 : Table
  pdpt : Table
  pd : Fin 512 → Table

/-- 0 で埋めた確保が返す `PageTables`。 -/
def PageTables.zeroed : PageTables := ⟨.zeroed, .zeroed, fun _ => .zeroed⟩

@[simp] theorem PageTables.zeroed_pml4 : PageTables.zeroed.pml4 = .zeroed := rfl

@[simp] theorem PageTables.zeroed_pdpt : PageTables.zeroed.pdpt = .zeroed := rfl

@[simp] theorem PageTables.zeroed_pd (i : Fin 512) : PageTables.zeroed.pd i = .zeroed := rfl

/-- `addr_of!` で取る表：PML4、PDPT、`pd[i]`。 -/
inductive TableRef where
  | pml4
  | pdpt
  | pd (i : Fin 512)
  deriving DecidableEq

def PageTables.table (pt : PageTables) : TableRef → Table
  | .pml4 => pt.pml4
  | .pdpt => pt.pdpt
  | .pd i => pt.pd i

-- 書き換えの規則として置く。`simp` が作った表を変換で開くと、カーネルが `build_identity` を評価してしまう。

@[simp] theorem PageTables.table_pml4 (pt : PageTables) : pt.table .pml4 = pt.pml4 := by rw [PageTables.table]

@[simp] theorem PageTables.table_pdpt (pt : PageTables) : pt.table .pdpt = pt.pdpt := by rw [PageTables.table]

@[simp] theorem PageTables.table_pd (pt : PageTables) (i : Fin 512) : pt.table (.pd i) = pt.pd i := by
  rw [PageTables.table]

/-- Modelled from the spec: `PhysicalAddress::pa_from_va` は src/ にない。表の物理アドレスを、表ごとに違い、
4 KiB 境界にあり、物理アドレスの幅（MAXPHYADDR は 52 まで）に収まるものとして与える。 -/
structure Placement where
  pa : TableRef → BitVec 64
  injective : Function.Injective pa
  aligned : ∀ r, (pa r).toNat % 4096 = 0
  bounded : ∀ r, (pa r).toNat < 2 ^ 52

/-! ## `build_identity` -/

/-- x86 クレートの `BASE_PAGE_SHIFT`。 -/
def BASE_PAGE_SHIFT : Nat := 12

/-- x86 クレートの `LARGE_PAGE_SIZE`（2 MiB）を `u64` にしたもの。 -/
def LARGE_PAGE_SIZE : BitVec 64 := 0x200000

/-- 次の段の表を指す項目への三つの書き込み：present と writable を立て、`pa` のページを指す。 -/
def pointTo (pa : BitVec 64) (e : Entry) : Entry :=
  ((e.setPresent true).setWritable true).setPfn (pa >>> BASE_PAGE_SHIFT)

/-- `pde` への四つの書き込み：present、writable、large を立て、`pa` の大きなページを指す。 -/
def mapLargePage (pa : BitVec 64) (pde : Entry) : Entry :=
  (((pde.setPresent true).setWritable true).setLarge true).setPfn (pa >>> BASE_PAGE_SHIFT)

/-- 内側の `for pde in &mut self.pd[i].0.entries` の `j` 回目。持ち回るのは表と `pa`。 -/
def mapPdEntry (j : Nat) (acc : Table × BitVec 64) : Table × BitVec 64 :=
  if h : j < 512 then (acc.1.modify ⟨j, h⟩ (mapLargePage acc.2), acc.2 + LARGE_PAGE_SIZE) else acc

/-- 外側の `for (i, pdpte) in self.pdpt.0.entries.iter_mut().enumerate()` の `i` 回目。持ち回るのは
PDPT、`pd`、`pa`。 -/
def mapPdptEntry (pl : Placement) (i : Nat) (acc : Table × (Fin 512 → Table) × BitVec 64) :
    Table × (Fin 512 → Table) × BitVec 64 :=
  if h : i < 512 then
    let pd := Nat.fold mapPdEntry 512 (acc.2.1 ⟨i, h⟩, acc.2.2)
    (acc.1.modify ⟨i, h⟩ (pointTo (pl.pa (.pd ⟨i, h⟩))), Function.update acc.2.1 ⟨i, h⟩ pd.1, pd.2)
  else acc

/-- `PageTables::build_identity`。 -/
def buildIdentity (pl : Placement) (pt : PageTables) : PageTables :=
  let pml4 := pt.pml4.modify 0 (pointTo (pl.pa .pdpt))
  let rows := Nat.fold (mapPdptEntry pl) 512 (pt.pdpt, pt.pd, 0)
  ⟨pml4, rows.1, rows.2.1⟩

/-! ## 物理メモリでの並び -/

/-- Rust の型の大きさは揃えの倍数である：中身が `size` バイトで揃えが `align` の型の `size_of`。 -/
def reprSize (size align : Nat) : Nat := (size + align - 1) / align * align

/-- `size_of::<Entry>()`：`u64` に `#[repr(C, align(4096))]` を付けたもの。 -/
def ENTRY_SIZE : Nat := reprSize 8 4096

/-- 表の物理アドレスから `offset` バイトの 8 バイトの語：項目が `stride` バイトおきに並び、あいだの詰め物は
0 である（確保は 0 で埋め、欄の書き込みは `u64` の中だけを書く）。 -/
def Table.word (t : Table) (stride offset : Nat) : BitVec 64 :=
  if h : offset % stride = 0 ∧ offset / stride < 512 then (t.entries ⟨offset / stride, h.2⟩).bits else 0

end Hypervisor
