import VfioIoctls.Bindings

/-! Memory as the code reads it through a raw pointer into a kernel reply buffer: the byte
at each offset, inside the buffer or not. Fields are little-endian (`readU32`), `leBytes`
writes a number as the kernel lays it out, and `Stored mem off bytes` says that the memory
holds `bytes` from `off`. -/

namespace VfioIoctls

/-! ### Machine words

The code's `u32` and `u64` arithmetic wraps, as in a release build. -/

theorem lt_iff_toNat_u32 {a b : UInt32} : a < b ↔ a.toNat < b.toNat := .rfl
theorem lt_iff_toNat_u64 {a b : UInt64} : a < b ↔ a.toNat < b.toNat := .rfl
theorem toNat_ofNat_u32 (n : Nat) : (UInt32.ofNat n).toNat = n % 2 ^ 32 := rfl
theorem le_iff_toNat_u32 {a b : UInt32} : a ≤ b ↔ a.toNat ≤ b.toNat := .rfl

/-! ### Buffers -/

/-- The `w` little-endian bytes of `n`. -/
def leBytes : Nat → Nat → List UInt8
  | 0, _ => []
  | w + 1, n => UInt8.ofNat (n % 256) :: leBytes w (n / 256)

/-- The number in the `w` little-endian bytes of memory from `off`. -/
def readLe (mem : Nat → UInt8) (off : Nat) : Nat → Nat
  | 0 => 0
  | w + 1 => (mem off).toNat + 256 * readLe mem (off + 1) w

def readU16 (mem : Nat → UInt8) (off : Nat) : UInt16 := UInt16.ofNat (readLe mem off 2)
def readU32 (mem : Nat → UInt8) (off : Nat) : UInt32 := UInt32.ofNat (readLe mem off 4)
def readU64 (mem : Nat → UInt8) (off : Nat) : UInt64 := UInt64.ofNat (readLe mem off 8)

/-- The `n` little-endian `u32` words of memory from `off`. -/
def readU32s (mem : Nat → UInt8) (off : Nat) : Nat → List UInt32
  | 0 => []
  | n + 1 => readU32 mem off :: readU32s mem (off + 4) n

/-- The memory holds `bytes` from `off`. -/
def Stored (mem : Nat → UInt8) (off : Nat) : List UInt8 → Prop
  | [] => True
  | b :: bs => mem off = b ∧ Stored mem (off + 1) bs

instance decStored (mem : Nat → UInt8) : (off : Nat) → (bytes : List UInt8) →
    Decidable (Stored mem off bytes)
  | _, [] => isTrue trivial
  | off, b :: bs =>
    haveI := decStored mem (off + 1) bs
    inferInstanceAs (Decidable (mem off = b ∧ Stored mem (off + 1) bs))

/-- A buffer given by its bytes, zero beyond them. -/
def memOf (bytes : List UInt8) : Nat → UInt8 := fun i => bytes.getD i 0

variable {mem : Nat → UInt8}

@[simp] theorem length_leBytes (w n : Nat) : (leBytes w n).length = w := by
  induction w generalizing n with
  | zero => rfl
  | succ w ih => simp [leBytes, ih]

@[simp] theorem stored_nil (off : Nat) : Stored mem off [] := trivial

theorem stored_append {off : Nat} {l₁ l₂ : List UInt8} :
    Stored mem off (l₁ ++ l₂) ↔ Stored mem off l₁ ∧ Stored mem (off + l₁.length) l₂ := by
  induction l₁ generalizing off with
  | nil => simp [Stored]
  | cons b bs ih =>
    rw [List.cons_append]
    simp only [Stored]
    rw [ih, List.length_cons, show off + 1 + bs.length = off + (bs.length + 1) by omega, and_assoc]

/-- A buffer holds its own bytes, from any prefix's end. -/
theorem stored_memOf (pre bytes : List UInt8) : Stored (memOf (pre ++ bytes)) pre.length bytes := by
  induction bytes generalizing pre with
  | nil => trivial
  | cons b bs ih =>
    refine ⟨by simp [memOf, List.getElem_append_right], ?_⟩
    simpa using ih (pre ++ [b])

theorem readLe_of_stored {off w n : Nat} (h : Stored mem off (leBytes w n)) :
    readLe mem off w = n % 256 ^ w := by
  induction w generalizing off n with
  | zero => simp [readLe, Nat.mod_one]
  | succ w ih =>
    obtain ⟨h₀, h₁⟩ := h
    have hb : (UInt8.ofNat (n % 256)).toNat = n % 256 := by
      simp [UInt8.ofNat, UInt8.toNat, Nat.mod_eq_of_lt (Nat.mod_lt n (by omega : 0 < 256))]
    rw [readLe, ih h₁, h₀, hb, Nat.pow_succ', Nat.mod_mul]

theorem readU16_of_stored {off : Nat} {x : UInt16} (h : Stored mem off (leBytes 2 x.toNat)) :
    readU16 mem off = x := by
  have hx : x.toNat < 256 ^ 2 := Nat.lt_of_lt_of_eq x.toNat_lt_size (by decide)
  rw [readU16, readLe_of_stored h, Nat.mod_eq_of_lt hx]
  cases x; simp [UInt16.ofNat, UInt16.toNat]

theorem readU32_of_stored {off : Nat} {x : UInt32} (h : Stored mem off (leBytes 4 x.toNat)) :
    readU32 mem off = x := by
  have hx : x.toNat < 256 ^ 4 := Nat.lt_of_lt_of_eq x.toNat_lt_size (by decide)
  rw [readU32, readLe_of_stored h, Nat.mod_eq_of_lt hx]
  cases x; simp [UInt32.ofNat, UInt32.toNat]

theorem readU64_of_stored {off : Nat} {x : UInt64} (h : Stored mem off (leBytes 8 x.toNat)) :
    readU64 mem off = x := by
  have hx : x.toNat < 256 ^ 8 := Nat.lt_of_lt_of_eq x.toNat_lt_size (by decide)
  rw [readU64, readLe_of_stored h, Nat.mod_eq_of_lt hx]
  cases x; simp [UInt64.ofNat, UInt64.toNat]

/-- Words stored one after the other read back as the list of them. -/
theorem readU32s_of_stored {off : Nat} {l : List UInt32}
    (h : Stored mem off (l.flatMap fun x => leBytes 4 x.toNat)) : readU32s mem off l.length = l := by
  induction l generalizing off with
  | nil => rfl
  | cons x l ih =>
    rw [List.flatMap_cons, stored_append, length_leBytes] at h
    rw [List.length_cons, readU32s, readU32_of_stored h.1, ih h.2]

end VfioIoctls
