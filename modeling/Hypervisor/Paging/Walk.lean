import Hypervisor.Paging.Tables

/-!
# 物理メモリと x86-64 の表引き

`build_identity` が作った表を、ハードウェアは物理メモリの 8 バイトの語として読む。`PageTables.memory` は
表を `Placement` に置いた物理メモリで、表の物理ページには `Table.word` の並びがある。`walk` は SDM 4.5 の
四段のページングの表引きである。
-/

namespace Hypervisor

/-- 表の一覧。 -/
def TableRef.all : List TableRef := .pml4 :: .pdpt :: (List.finRange 512).map .pd

/-- 表を `pl` に置いた物理メモリの 8 バイトの読み出し：表の物理アドレスから 4 KiB のページにはその表の
`stride` バイトおきの並びがあり、ほかのアドレスは `rest` が決める。 -/
def PageTables.memory (pt : PageTables) (stride : Nat) (pl : Placement) (rest : BitVec 64 → BitVec 64)
    (p : BitVec 64) : BitVec 64 :=
  match TableRef.all.find? (fun r => (pl.pa r).toNat / 4096 = p.toNat / 4096) with
  | some r => (pt.table r).word stride (p.toNat % 4096)
  | none => rest p

/-- 表引きの結果：物理アドレス、書き込みを許すか、どの大きさのページで終わったか。 -/
structure Translation where
  physicalAddress : BitVec 64
  writable : Bool
  pageSize : Nat
  deriving DecidableEq, Repr

/-- 線形アドレス `a` のビット `shift + 8 .. shift` が選ぶ項目の、表の中でのバイト位置。 -/
def entryOffset (a : BitVec 64) (shift : Nat) : BitVec 64 := ((a >>> shift) &&& 0x1FF) <<< 3

/-- 段 `level` の項目の予約されたビットが立っているか（SDM 4.5 の表 4-15 から 4-19。MAXPHYADDR は 52、
IA32_EFER.NXE は 1、1 GiB のページは使えるとする）：PML4 の項目のビット 7（PS）、1 GiB のページを指す PDPT の
項目のビット 29:13、2 MiB のページを指す PD の項目のビット 20:13。 -/
def Entry.reservedSet (e : Entry) : Nat → Bool
  | 3 => e.large
  | 2 => e.large && bitRange 29 13 e.bits != 0
  | 1 => e.large && bitRange 20 13 e.bits != 0
  | _ => false

/-- 項目が指すページの物理アドレス：項目のビット 51:`shift`。 -/
def Entry.frame (e : Entry) (shift : Nat) : BitVec 64 := (e.pfn <<< 12) &&& ~~~BitVec.ofNat 64 (2 ^ shift - 1)

/-- 段 `level` からの表引き（SDM 4.5）。表は物理アドレス `base` にあり、アドレスのビット
`12 + 9 · (level - 1)` から上の 9 ビットで項目を選ぶ。present でない項目と、予約されたビットの立った項目で
止まる（#PF）。PT の項目と、large の立った PDPT（1 GiB）と PD（2 MiB）の項目はページを指し、ほかの項目は
次の段の表を指す。書き込みはどの段の項目も writable のときだけ許される。 -/
def walkFrom (mem : BitVec 64 → BitVec 64) (a : BitVec 64) : Nat → BitVec 64 → Bool → Option Translation
  | 0, _, _ => none
  | level + 1, base, w =>
    let shift := 12 + 9 * level
    let e : Entry := ⟨mem (base + entryOffset a shift)⟩
    if !e.present then none
    else if e.reservedSet level then none
    else if level = 0 ∨ (e.large ∧ (level = 1 ∨ level = 2)) then
      some ⟨e.frame shift + (a &&& BitVec.ofNat 64 (2 ^ shift - 1)), w && e.writable, 2 ^ shift⟩
    else walkFrom mem a level (e.pfn <<< 12) (w && e.writable)

/-- PML4 を物理アドレス `root` に置いたときの、線形アドレス `a` の四段の表引き。 -/
def walk (mem : BitVec 64 → BitVec 64) (root a : BitVec 64) : Option Translation :=
  walkFrom mem a 4 root true

end Hypervisor
