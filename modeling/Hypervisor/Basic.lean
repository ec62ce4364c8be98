import Mathlib

/-!
# 失敗しても状態を残す計算と、ビットの包含

Rust の関数は、値を返すか、`Err` を返すか、panic する。どの場合も、それまでの書き込みは残る。
`Prog σ α` はこれを状態 `σ` の上の計算として表す。panic は呼び出し元へ戻らない。
-/

namespace Hypervisor

/-- Modelled from the spec: `error.rs` は src/ にない。モデルにした関数が返す誤りだけを持つ。 -/
inductive HypervisorError where
  | VMXBIOSLock
  | VirtualToPhysicalAddressFailed
  | UnknownVMExitReason
  | UnknownVMInstructionError
  deriving DecidableEq, Repr

/-- 計算の終わり方。 -/
inductive Result (α : Type) where
  | ok (a : α)
  | err (e : HypervisorError)
  | panic
  deriving DecidableEq, Repr

def Prog (σ α : Type) : Type := σ → Result α × σ

namespace Prog

variable {σ τ α β : Type}

def bind (x : Prog σ α) (f : α → Prog σ β) : Prog σ β := fun s =>
  match x s with
  | (.ok a, s') => f a s'
  | (.err e, s') => (.err e, s')
  | (.panic, s') => (.panic, s')

instance : Monad (Prog σ) where
  pure a := fun s => (.ok a, s)
  bind := Prog.bind

def read (f : σ → α) : Prog σ α := fun s => (.ok (f s), s)

def modify (f : σ → σ) : Prog σ Unit := fun s => (.ok (), f s)

def throw (e : HypervisorError) : Prog σ α := fun s => (.err e, s)

def panic : Prog σ α := fun s => (.panic, s)

/-- `Option::unwrap`：`None` なら panic する。 -/
def unwrap : Option α → Prog σ α
  | some a => pure a
  | none => panic

/-- `Result::expect`：`Err` なら panic する。 -/
def expect {ε : Type} : Except ε α → Prog σ α
  | .ok a => pure a
  | .error _ => panic

/-- `let Some(a) = o else { return Err(e) };` -/
def someOr (e : HypervisorError) : Option α → Prog σ α
  | some a => pure a
  | none => throw e

/-- 状態の一部 `τ` の上の計算を、状態全体 `σ` の上で行う。 -/
def zoom (get : σ → τ) (set : τ → σ → σ) (x : Prog τ α) : Prog σ α := fun s =>
  let (r, t) := x (get s)
  (r, set t s)

@[simp] theorem pure_apply (a : α) (s : σ) : (pure a : Prog σ α) s = (.ok a, s) := rfl

@[simp] theorem bind_apply (x : Prog σ α) (f : α → Prog σ β) (s : σ) :
    (x >>= f) s = match x s with
      | (.ok a, s') => f a s'
      | (.err e, s') => (.err e, s')
      | (.panic, s') => (.panic, s') := rfl

@[simp] theorem read_apply (f : σ → α) (s : σ) : read f s = (.ok (f s), s) := rfl

@[simp] theorem modify_apply (f : σ → σ) (s : σ) : modify f s = (.ok (), f s) := rfl

@[simp] theorem throw_apply (e : HypervisorError) (s : σ) : (throw e : Prog σ α) s = (.err e, s) := rfl

@[simp] theorem panic_apply (s : σ) : (panic : Prog σ α) s = (.panic, s) := rfl

@[simp] theorem unwrap_some (a : α) : (unwrap (some a) : Prog σ α) = pure a := rfl

@[simp] theorem unwrap_none : (unwrap none : Prog σ α) = panic := rfl

@[simp] theorem expect_ok {ε : Type} (a : α) : (expect (.ok a : Except ε α) : Prog σ α) = pure a := rfl

@[simp] theorem expect_error {ε : Type} (e : ε) : (expect (.error e : Except ε α) : Prog σ α) = panic := rfl

@[simp] theorem someOr_some (e : HypervisorError) (a : α) : (someOr e (some a) : Prog σ α) = pure a := rfl

@[simp] theorem someOr_none (e : HypervisorError) : (someOr e none : Prog σ α) = throw e := rfl

@[simp] theorem zoom_apply (get : σ → τ) (set : τ → σ → σ) (x : Prog τ α) (s : σ) :
    zoom get set x s = ((x (get s)).1, set (x (get s)).2 s) := rfl

theorem bind_ok {x : Prog σ α} {s s' : σ} {a : α} (h : x s = (.ok a, s')) (f : α → Prog σ β) :
    (x >>= f) s = f a s' := by
  simp [h]

theorem bind_err {x : Prog σ α} {s s' : σ} {e : HypervisorError} (h : x s = (.err e, s'))
    (f : α → Prog σ β) : (x >>= f) s = (.err e, s') := by
  simp [h]

theorem bind_panic {x : Prog σ α} {s s' : σ} (h : x s = (.panic, s')) (f : α → Prog σ β) :
    (x >>= f) s = (.panic, s') := by
  simp [h]

/-- `x >>= f` が `Err` を返すのは、`x` が返したか、`x` が値を返したあと `f` が返したときである。 -/
theorem bind_eq_err {x : Prog σ α} {f : α → Prog σ β} {s s' : σ} {e : HypervisorError}
    (h : (x >>= f) s = (.err e, s')) :
    x s = (.err e, s') ∨ ∃ a t, x s = (.ok a, t) ∧ f a t = (.err e, s') := by
  rcases hx : x s with ⟨a | e' | _, t⟩ <;> simp only [bind_apply, hx] at h
  · exact .inr ⟨a, t, rfl, h⟩
  · cases h; exact .inl rfl
  · cases h

/-- `x >>= f` の終わりの状態は、`x` の終わりの状態か、`x` が値を返したあと `f` が終えた状態。 -/
theorem snd_bind (x : Prog σ α) (f : α → Prog σ β) (s : σ) :
    ((x >>= f) s).2 = (x s).2 ∨ ∃ a, x s = (.ok a, (x s).2) ∧ ((x >>= f) s).2 = (f a (x s).2).2 := by
  rcases hx : x s with ⟨a | e | _, t⟩ <;> simp [hx]

/-! ### 計算が変えないもの、返さないもの -/

/-- `x` は、`f` で見える部分を変えない（どう終わっても）。 -/
def Preserves (f : σ → β) (x : Prog σ α) : Prop := ∀ s, f (x s).2 = f s

/-- `x` は `Err` を返さない。 -/
def NoErr (x : Prog σ α) : Prop := ∀ s e s', x s ≠ (.err e, s')

theorem Preserves.bind {f : σ → τ} {x : Prog σ α} {g : α → Prog σ β} (hx : Preserves f x)
    (hg : ∀ a, Preserves f (g a)) : Preserves f (x >>= g) := by
  intro s
  rcases h : x s with ⟨a | e | _, t⟩ <;> simp only [bind_apply, h] <;> have := hx s <;> rw [h] at this
  · exact (hg a t).trans this
  all_goals exact this

theorem Preserves.pure (f : σ → τ) (a : α) : Preserves f (Pure.pure a : Prog σ α) := fun _ => rfl

theorem Preserves.read (f : σ → τ) (g : σ → α) : Preserves f (read g) := fun _ => rfl

theorem Preserves.modify {f : σ → τ} {g : σ → σ} (h : ∀ s, f (g s) = f s) : Preserves f (modify g) := h

theorem Preserves.panic (f : σ → τ) : Preserves f (panic : Prog σ α) := fun _ => rfl

theorem Preserves.unwrap (f : σ → τ) (o : Option α) : Preserves f (unwrap o : Prog σ α) := by
  cases o <;> exact fun _ => rfl

theorem NoErr.bind {x : Prog σ α} {g : α → Prog σ β} (hx : NoErr x) (hg : ∀ a, NoErr (g a)) :
    NoErr (x >>= g) := by
  intro s e s' h
  rcases bind_eq_err h with h | ⟨a, t, -, h⟩
  · exact hx _ _ _ h
  · exact hg a _ _ _ h

theorem NoErr.pure (a : α) : NoErr (Pure.pure a : Prog σ α) := fun _ _ _ h => by cases h

theorem NoErr.read (g : σ → α) : NoErr (read g) := fun _ _ _ h => by cases h

theorem NoErr.modify (g : σ → σ) : NoErr (modify g) := fun _ _ _ h => by cases h

theorem NoErr.panic : NoErr (panic : Prog σ α) := fun _ _ _ h => by cases h

theorem NoErr.unwrap (o : Option α) : NoErr (unwrap o : Prog σ α) := by
  cases o
  · exact .panic
  · exact .pure _

theorem Preserves.expect {ε : Type} (f : σ → τ) (r : Except ε α) : Preserves f (expect r : Prog σ α) := by
  cases r <;> exact fun _ => rfl

theorem NoErr.expect {ε : Type} (r : Except ε α) : NoErr (expect r : Prog σ α) := by
  cases r
  · exact .panic
  · exact .pure _

theorem Preserves.zoom {f : τ → β} {get : σ → τ} {set : τ → σ → σ} {x : Prog τ α} (hx : Preserves f x)
    (hset : ∀ t s, f (get (set t s)) = f t) : Preserves (fun s => f (get s)) (zoom get set x) := by
  intro s
  simp only [zoom_apply, hset]
  exact hx _

theorem NoErr.zoom {get : σ → τ} {set : τ → σ → σ} {x : Prog τ α} (hx : NoErr x) :
    NoErr (zoom get set x) := by
  intro s e s' h
  simp only [zoom_apply, Prod.mk.injEq] at h
  exact hx (get s) e _ (Prod.ext h.1 rfl)

end Prog

/-! ## ビットの包含 -/

/-- `x` で立っているビットは、すべて `y` でも立っている。 -/
def BitsIn {w : Nat} (x y : BitVec w) : Prop := x &&& y = x

instance {w : Nat} (x y : BitVec w) : Decidable (BitsIn x y) := inferInstanceAs (Decidable (_ = _))

theorem bitsIn_iff {w : Nat} {x y : BitVec w} :
    BitsIn x y ↔ ∀ i, x.getLsbD i = true → y.getLsbD i = true := by
  constructor
  · intro h i hx
    have := congrArg (·.getLsbD i) h
    simp only [BitVec.getLsbD_and, hx, Bool.true_and] at this
    exact this
  · intro h
    ext i
    simp only [BitVec.getLsbD_and]
    cases hx : x.getLsbD i
    · rfl
    · simp [h _ hx]

/-- 一つのビットとの論理積が 0 であるのは、そのビットが立っていないときである。 -/
theorem and_twoPow_eq_zero_iff {w : Nat} (x : BitVec w) {i : Nat} (hi : i < w) :
    x &&& BitVec.twoPow w i = 0#w ↔ x.getLsbD i = false := by
  constructor
  · intro h
    have := congrArg (·.getLsbD i) h
    simpa [BitVec.getLsbD_twoPow, hi] using this
  · intro h
    ext j
    simp only [BitVec.getLsbD_and, BitVec.getLsbD_twoPow, BitVec.getLsbD_zero]
    by_cases hj : (j : Nat) = i
    · simp [hj, h]
    · simp [Ne.symm hj]

theorem BitsIn.trans {w : Nat} {x y z : BitVec w} (hxy : BitsIn x y) (hyz : BitsIn y z) : BitsIn x z :=
  bitsIn_iff.2 fun i hx => bitsIn_iff.1 hyz i (bitsIn_iff.1 hxy i hx)

theorem BitsIn.or_left {w : Nat} (x y : BitVec w) : BitsIn x (x ||| y) :=
  bitsIn_iff.2 fun i hx => by simp [hx]

theorem BitsIn.or_right {w : Nat} (x y : BitVec w) : BitsIn y (x ||| y) :=
  bitsIn_iff.2 fun i hy => by simp [hy]

theorem BitsIn.and_right {w : Nat} (x y : BitVec w) : BitsIn (x &&& y) y :=
  bitsIn_iff.2 fun i h => by simp_all

theorem BitsIn.and {w : Nat} {x y z : BitVec w} (hy : BitsIn x y) (hz : BitsIn x z) : BitsIn x (y &&& z) :=
  bitsIn_iff.2 fun i hx => by simp [bitsIn_iff.1 hy i hx, bitsIn_iff.1 hz i hx]

end Hypervisor
