import PgDoorman.Wire.Bytes

/-!
# Reading a buffer

A decoder that reads a byte buffer through `bytes::Buf` is a state over the bytes left whose
result is an `Outcome`: a value, an error of the decoder's own, or the panic `Buf`'s getters
raise when fewer bytes remain than they read. `Cursor` is that state monad.

What such a decoder guarantees is stated as a weakest precondition: `Wp d P bs` says that `d`
does not panic on `bs`, and that when it succeeds its value and the bytes left satisfy `P`. The
rules below compute it along a decoder's binds and reads; with `P` true it is the absence of a
panic.

## Main definitions

* `Outcome.bind`: sequencing, an error or a panic ending the computation
* `Cursor ε α`: a reader of a byte buffer; `remaining`, `getBytes`, `getBe`
* `Cursor.Wp`: the weakest precondition of a reader
* `Cursor.SafeOn lo hi`: a reader that does not panic on buffers of `lo` to `hi` bytes

## Main results

* `Cursor.run_bind_of_ok`, `Cursor.run_getBe_beBytes_append`: how a run goes through a bind and
  a read of an encoding
* `Cursor.wp_bind`, `Cursor.wp_getBytes`, `Cursor.wp_getBe`: the rules of the weakest precondition
* `Cursor.run_ne_panic_of_wp`: a reader with a weakest precondition does not panic
* `Cursor.safeOn_bind`, `Cursor.safeOn_getBe_bind`: a decoder that checks the length before
  each read does not panic
-/

namespace Wire

namespace Outcome

variable {ε α β : Type}

/-- Sequencing: an error or a panic ends the computation. -/
def bind : Outcome ε α → (α → Outcome ε β) → Outcome ε β
  | .ok a, f => f a
  | .err e, _ => .err e
  | .panic, _ => .panic

instance : Monad (Outcome ε) where
  pure := .ok
  bind := bind

instance : MonadExceptOf ε (Outcome ε) where
  throw := .err
  tryCatch x h := match x with
    | .err e => h e
    | x => x

instance : LawfulMonad (Outcome ε) :=
  LawfulMonad.mk' (Outcome ε)
    (fun x => by cases x <;> rfl)
    (fun _ _ => rfl)
    (fun x _ _ => by cases x <;> rfl)

@[simp] theorem pure_eq (a : α) : (pure a : Outcome ε α) = .ok a := rfl

@[simp] theorem ok_bind (a : α) (f : α → Outcome ε β) : (Outcome.ok a >>= f) = f a := rfl

@[simp] theorem err_bind (e : ε) (f : α → Outcome ε β) : (Outcome.err e >>= f) = .err e := rfl

@[simp] theorem panic_bind (f : α → Outcome ε β) : (Outcome.panic >>= f) = .panic := rfl

@[simp] theorem throw_eq (e : ε) : (throw e : Outcome ε α) = .err e := rfl

/-- A computation does not panic when its first step does not, and the rest does not after any
value of it. -/
theorem bind_ne_panic {x : Outcome ε α} {f : α → Outcome ε β} (hx : x ≠ .panic)
    (hf : ∀ a, x = .ok a → f a ≠ .panic) : x >>= f ≠ .panic := by
  cases x with
  | ok a => exact hf a rfl
  | err e =>
    rw [err_bind]
    intro h
    cases h
  | panic => exact absurd rfl hx

/-- A computation whose value is only rewrapped does not panic when the inner one does not. -/
theorem map_ne_panic {x : Outcome ε α} (f : α → β) (hx : x ≠ .panic) : f <$> x ≠ .panic :=
  bind_ne_panic hx fun _ _ h => by cases h

end Outcome

/-- A reader of a byte buffer in the manner of `bytes::Buf`. -/
abbrev Cursor (ε α : Type) : Type :=
  StateT (List UInt8) (Outcome ε) α

namespace Cursor

variable {ε α β : Type}

/-- `Buf::remaining`. -/
def remaining : Cursor ε Nat :=
  fun bs => .ok (bs.length, bs)

/-- The next `n` bytes (`copy_to_slice`, `get_u8`), or a panic when fewer remain. -/
def getBytes (n : Nat) : Cursor ε (List UInt8) :=
  fun bs => if n ≤ bs.length then .ok (bs.take n, bs.drop n) else .panic

/-- The next `w` bytes as a big-endian number (`get_u16`, `get_u32`, `get_u64`). -/
def getBe (w : Nat) : Cursor ε Nat :=
  fun bs => if w ≤ bs.length then .ok (readBe (bs.take w), bs.drop w) else .panic

/-- A panic. -/
def panic : Cursor ε α :=
  fun _ => .panic

/-! ## Runs -/

@[simp] theorem run_pure (a : α) (bs : List UInt8) : (pure a : Cursor ε α).run bs = .ok (a, bs) :=
  rfl

@[simp] theorem run_throw (e : ε) (bs : List UInt8) : (throw e : Cursor ε α).run bs = .err e :=
  rfl

@[simp] theorem run_remaining (bs : List UInt8) :
    (remaining : Cursor ε Nat).run bs = .ok (bs.length, bs) :=
  rfl

theorem run_bind_of_ok {x : Cursor ε α} {f : α → Cursor ε β} {bs bs' : List UInt8} {a : α}
    (h : x.run bs = .ok (a, bs')) : (x >>= f).run bs = (f a).run bs' := by
  rw [StateT.run_bind, h]
  rfl

theorem run_bind_of_err {x : Cursor ε α} {f : α → Cursor ε β} {bs : List UInt8} {e : ε}
    (h : x.run bs = .err e) : (x >>= f).run bs = .err e := by
  rw [StateT.run_bind, h]
  rfl

theorem run_map_of_ok {x : Cursor ε α} {f : α → β} {bs bs' : List UInt8} {a : α}
    (h : x.run bs = .ok (a, bs')) : (f <$> x).run bs = .ok (f a, bs') := by
  rw [StateT.run_map, h]
  rfl

theorem run_getBytes_of_le {n : Nat} {bs : List UInt8} (h : n ≤ bs.length) :
    (getBytes n : Cursor ε _).run bs = .ok (bs.take n, bs.drop n) :=
  if_pos h

theorem run_getBytes_append (l rest : List UInt8) :
    (getBytes l.length : Cursor ε _).run (l ++ rest) = .ok (l, rest) := by
  rw [run_getBytes_of_le (by simp)]
  simp

theorem run_getBe_of_le {w : Nat} {bs : List UInt8} (h : w ≤ bs.length) :
    (getBe w : Cursor ε _).run bs = .ok (readBe (bs.take w), bs.drop w) :=
  if_pos h

/-- Reading back a big-endian encoding gives the number modulo `256 ^ w`. -/
theorem run_getBe_beBytes_append (w n : Nat) (rest : List UInt8) :
    (getBe w : Cursor ε _).run (beBytes w n ++ rest) = .ok (n % 256 ^ w, rest) := by
  rw [run_getBe_of_le (by simp)]
  simp [readBe_beBytes]

/-- A single byte read as a number is the byte. -/
theorem run_getBe_one_cons (b : UInt8) (rest : List UInt8) :
    (getBe 1 : Cursor ε _).run (b :: rest) = .ok (b.toNat, rest) := by
  rw [run_getBe_of_le (by simp)]
  simp [readBe]

/-! ## Weakest preconditions -/

/-- `d` does not panic on `bs`, and a value it returns satisfies `P` with the bytes left. -/
def Wp (d : Cursor ε α) (P : α → List UInt8 → Prop) (bs : List UInt8) : Prop :=
  match d.run bs with
  | .ok (a, bs') => P a bs'
  | .err _ => True
  | .panic => False

theorem run_ne_panic_of_wp {d : Cursor ε α} {P : α → List UInt8 → Prop} {bs : List UInt8}
    (h : Wp d P bs) : d.run bs ≠ .panic := by
  intro hpanic
  simp [Wp, hpanic] at h

theorem wp_mono {d : Cursor ε α} {P Q : α → List UInt8 → Prop} {bs : List UInt8}
    (hPQ : ∀ a bs', P a bs' → Q a bs') (h : Wp d P bs) : Wp d Q bs := by
  unfold Wp at h ⊢
  split at h <;> simp_all

/-- **The rule of sequencing**: what the first reader leaves must let the rest go through. -/
theorem wp_bind {x : Cursor ε α} {f : α → Cursor ε β} {P : β → List UInt8 → Prop}
    {bs : List UInt8} (h : Wp x (fun a bs' => Wp (f a) P bs') bs) : Wp (x >>= f) P bs := by
  unfold Wp at h
  split at h
  · next a bs' hx =>
    unfold Wp
    rw [run_bind_of_ok hx]
    exact h
  · next e hx =>
    unfold Wp
    rw [run_bind_of_err hx]
    trivial
  · exact h.elim

theorem wp_getBytes {n : Nat} {P : List UInt8 → List UInt8 → Prop} {bs : List UInt8}
    (hlen : n ≤ bs.length) (h : P (bs.take n) (bs.drop n)) : Wp (getBytes n : Cursor ε _) P bs := by
  unfold Wp
  rw [run_getBytes_of_le hlen]
  exact h

theorem wp_getBe {w : Nat} {P : Nat → List UInt8 → Prop} {bs : List UInt8}
    (hlen : w ≤ bs.length) (h : P (readBe (bs.take w)) (bs.drop w)) :
    Wp (getBe w : Cursor ε _) P bs := by
  unfold Wp
  rw [run_getBe_of_le hlen]
  exact h

/-! ## Readers whose every read is checked -/

/-- On a buffer of `lo` to `hi` bytes, `d` does not panic and leaves no more bytes than it was
given. `lo` is what the checks made so far guarantee to remain; a decoder that checks the length
before each read is `SafeOn 0 hi`. -/
def SafeOn (lo hi : Nat) (d : Cursor ε α) : Prop :=
  ∀ bs, lo ≤ bs.length → bs.length ≤ hi → Wp d (fun _ bs' => bs'.length ≤ bs.length) bs

variable {lo hi : Nat}

theorem SafeOn.run_ne_panic {d : Cursor ε α} (hd : SafeOn lo hi d) {bs : List UInt8}
    (hlo : lo ≤ bs.length) (hhi : bs.length ≤ hi) : d.run bs ≠ .panic :=
  run_ne_panic_of_wp (hd bs hlo hhi)

theorem SafeOn.mono {d : Cursor ε α} {lo' : Nat} (hd : SafeOn lo hi d) (hlo : lo ≤ lo') :
    SafeOn lo' hi d :=
  fun bs hlo' hhi => hd bs (hlo.trans hlo') hhi

theorem safeOn_pure (a : α) : SafeOn lo hi (pure a : Cursor ε α) :=
  fun _ _ _ => Nat.le_refl _

theorem safeOn_throw (e : ε) : SafeOn lo hi (throw e : Cursor ε α) :=
  fun _ _ _ => trivial

/-- An error ends the reader, whatever was to follow. -/
theorem safeOn_throw_bind (e : ε) (f : α → Cursor ε β) : SafeOn lo hi (throw e >>= f) := by
  intro bs _ _
  unfold Wp
  rw [run_bind_of_err (run_throw e bs)]
  trivial

/-- No buffer has more than `lo` and at most `hi` bytes when `hi < lo`: a branch the checks
before it rule out. -/
theorem safeOn_of_lt (d : Cursor ε α) (h : hi < lo) : SafeOn lo hi d :=
  fun _ hlo hhi => absurd (hlo.trans hhi) (Nat.not_le.mpr h)

/-- **The rule of sequencing**: the rest runs on what the first reader left, which is no more
than the buffer, and of which nothing more is known. -/
theorem safeOn_bind {x : Cursor ε α} {f : α → Cursor ε β} (hx : SafeOn lo hi x)
    (hf : ∀ a, SafeOn 0 hi (f a)) : SafeOn lo hi (x >>= f) := by
  intro bs hlo hhi
  apply wp_bind
  refine wp_mono ?_ (hx bs hlo hhi)
  intro a bs' hle
  exact wp_mono (fun _ _ h => h.trans hle) (hf a bs' (Nat.zero_le _) (hle.trans hhi))

theorem safeOn_remaining_bind {f : Nat → Cursor ε β}
    (hf : ∀ n, SafeOn (max lo n) hi (f n)) : SafeOn lo hi (remaining >>= f) := by
  intro bs hlo hhi
  apply wp_bind
  exact hf bs.length bs (max_le hlo (Nat.le_refl _)) hhi

/-- A read of `w` bytes that the checks made so far guarantee. -/
theorem safeOn_getBe_bind {w : Nat} {f : Nat → Cursor ε β} (hw : w ≤ lo)
    (hf : ∀ n, SafeOn (lo - w) hi (f n)) : SafeOn lo hi (getBe w >>= f) := by
  intro bs hlo hhi
  apply wp_bind
  apply wp_getBe (hw.trans hlo)
  refine wp_mono ?_ (hf _ _ (by simp; omega) (by simp; omega))
  intro _ bs' h
  simp only [List.length_drop] at h
  omega

theorem safeOn_getBytes_bind {n : Nat} {f : List UInt8 → Cursor ε β} (hn : n ≤ lo)
    (hf : ∀ l, SafeOn (lo - n) hi (f l)) : SafeOn lo hi (getBytes n >>= f) := by
  intro bs hlo hhi
  apply wp_bind
  apply wp_getBytes (hn.trans hlo)
  refine wp_mono ?_ (hf _ _ (by simp; omega) (by simp; omega))
  intro _ bs' h
  simp only [List.length_drop] at h
  omega

theorem safeOn_map {x : Cursor ε α} {f : α → β} (hx : SafeOn lo hi x) :
    SafeOn lo hi (f <$> x) := by
  rw [map_eq_bind_pure_comp]
  exact safeOn_bind hx fun _ => safeOn_pure _

theorem safeOn_ite {c : Prop} [Decidable c] {x y : Cursor ε α} (hx : c → SafeOn lo hi x)
    (hy : ¬c → SafeOn lo hi y) : SafeOn lo hi (if c then x else y) := by
  split_ifs with hc
  · exact hx hc
  · exact hy hc

end Cursor

end Wire
