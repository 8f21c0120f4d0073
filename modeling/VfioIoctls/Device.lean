import VfioIoctls.Bytes
import VfioIoctls.Container
import Mathlib.Data.String.Basic

/-! A `VfioDevice` as its methods read it: the device flags, the region table, the IRQ map
and the group handle; a region transfer is the position and length of the `read_exact_at` or
`write_all_at` it performs on the device file. The four region accessors are one lookup
(`regionField`). `region_read` and `region_write` check their bound in wrapping `u64`
arithmetic, which passes when `addr + size` fits or wraps past `2 ^ 64`
(`regionRead_eq_some_iff`). -/

namespace VfioIoctls

/-- The fields of a `VfioDevice` that its modelled methods read. -/
structure VfioDevice where
  flags : UInt32
  regions : List VfioRegion
  irqs : AList (fun _ : UInt32 => VfioIrq)
  group : VfioGroup

namespace VfioDevice

/-! ### Region accessors -/

/-- `match self.regions.get(index as usize) { Some(v) => field(v), None => default }`. -/
def regionField {α : Type} (d : VfioDevice) (field : VfioRegion → α) (default : α)
    (index : UInt32) : α :=
  match d.regions[index.toNat]? with
  | some v => field v
  | none => default

def getRegionFlags (d : VfioDevice) (index : UInt32) : UInt32 :=
  d.regionField VfioRegion.flags 0 index

def getRegionOffset (d : VfioDevice) (index : UInt32) : UInt64 :=
  d.regionField VfioRegion.offset 0 index

def getRegionSize (d : VfioDevice) (index : UInt32) : UInt64 :=
  d.regionField VfioRegion.size 0 index

def getRegionCaps (d : VfioDevice) (index : UInt32) : List VfioRegionInfoCap :=
  d.regionField VfioRegion.caps [] index

theorem regionField_eq {α : Type} (d : VfioDevice) (field : VfioRegion → α) (default : α)
    (index : UInt32) :
    d.regionField field default index = (d.regions[index.toNat]?.map field).getD default := by
  unfold regionField; split <;> simp [*]

/-! ### Region transfers -/

/-- `region_read(index, buf, addr)` with a `len`-byte buffer: the position and length of the
`read_exact_at` it performs, if any. -/
def regionRead (d : VfioDevice) (index : UInt32) (len : Nat) (addr : UInt64) :
    Option (UInt64 × Nat) :=
  match d.regions[index.toNat]? with
  | none => none
  | some region =>
    let size := UInt64.ofNat len
    if size > region.size ∨ addr + size > region.size then none
    else some (region.offset + addr, len)

/-- `region_write(index, buf, addr)`: the position and bytes of its `write_all_at`, if any. -/
def regionWrite (d : VfioDevice) (index : UInt32) (buf : List UInt8) (addr : UInt64) :
    Option (UInt64 × List UInt8) :=
  match d.regions[index.toNat]? with
  | none => none
  | some stub =>
    let size := UInt64.ofNat buf.length
    if size > stub.size ∨ addr + size > stub.size ∨
        stub.flags &&& vfioRegionInfoFlagWrite = 0 then none
    else some (stub.offset + addr, buf)

/-- `region_write` is `region_read`'s check and position on a writable region. -/
theorem regionWrite_eq (d : VfioDevice) (index : UInt32) (buf : List UInt8) (addr : UInt64) :
    d.regionWrite index buf addr =
      if d.getRegionFlags index &&& vfioRegionInfoFlagWrite = 0 then none
      else (d.regionRead index buf.length addr).map fun t => (t.1, buf) := by
  unfold regionWrite regionRead getRegionFlags regionField
  cases d.regions[index.toNat]? with
  | none => simp
  | some stub =>
    by_cases hw : stub.flags &&& vfioRegionInfoFlagWrite = 0
    · simp [hw]
    · by_cases hc : UInt64.ofNat buf.length > stub.size ∨
          addr + UInt64.ofNat buf.length > stub.size <;> simp [hw, hc]

/-- The bound check over `Nat`: the buffer fits, and `addr + len` fits or wraps. -/
theorem regionCheck_iff {rsize addr : UInt64} {len : Nat} (hlen : len < UInt64.size) :
    ¬ (UInt64.ofNat len > rsize ∨ addr + UInt64.ofNat len > rsize) ↔
      len ≤ rsize.toNat ∧ (addr.toNat + len ≤ rsize.toNat ∨ UInt64.size ≤ addr.toNat + len) := by
  have hs : (UInt64.ofNat len).toNat = len := UInt64.toNat_ofNat_of_lt hlen
  have ha := addr.toNat_lt_size
  simp only [gt_iff_lt, lt_iff_toNat_u64, UInt64.toNat_add, hs, not_or, Nat.not_lt]
  simp only [UInt64.size] at ha ⊢
  omega

theorem regionRead_eq_some_iff (d : VfioDevice) (index : UInt32) {len : Nat} (addr : UInt64)
    (hlen : len < UInt64.size) (t : UInt64 × Nat) :
    d.regionRead index len addr = some t ↔
      ∃ region, d.regions[index.toNat]? = some region ∧ len ≤ region.size.toNat ∧
        (addr.toNat + len ≤ region.size.toNat ∨ UInt64.size ≤ addr.toNat + len) ∧
        t = (region.offset + addr, len) := by
  cases hr : d.regions[index.toNat]? with
  | none => simp [regionRead, hr]
  | some region =>
    simp only [regionRead, hr, Option.some.injEq, exists_eq_left']
    rw [← and_assoc, ← regionCheck_iff hlen]
    split <;> simp [*, eq_comm]

/-- A device with one 16-byte region at offset `0x1000`. -/
def smallRegionDevice : VfioDevice :=
  ⟨vfioDeviceFlagsPci, [⟨vfioRegionInfoFlagRead ||| vfioRegionInfoFlagWrite, 16, 0x1000, []⟩], ∅,
    ⟨0, 0⟩⟩

/-- A one-byte read at `2 ^ 64 - 1` passes the check and reads the byte before the region. -/
theorem regionRead_wraps_before_region :
    smallRegionDevice.regionRead 0 1 0xFFFFFFFFFFFFFFFF = some (0xFFF, 1) ∧
      (smallRegionDevice.getRegionSize 0).toNat < (0xFFFFFFFFFFFFFFFF : UInt64).toNat + 1 ∧
      (0xFFF : UInt64).toNat < (smallRegionDevice.getRegionOffset 0).toNat := by
  decide

/-! ### IRQ information -/

/-- `get_irq_info`. -/
def getIrqInfo (d : VfioDevice) (irqIndex : UInt32) : Option VfioIrq := d.irqs.lookup irqIndex

/-- One iteration of `max_interrupts`' loop. -/
def maxInterruptsStep (d : VfioDevice) (maxInterrupts index : UInt32) : UInt32 :=
  match d.irqs.lookup index with
  | some irqInfo => if irqInfo.count > maxInterrupts then irqInfo.count else maxInterrupts
  | none => maxInterrupts

/-- `max_interrupts`. -/
def maxInterrupts (d : VfioDevice) : UInt32 :=
  [vfioPciIntxIrqIndex, vfioPciMsiIrqIndex, vfioPciMsixIrqIndex].foldl d.maxInterruptsStep 0

theorem maxInterruptsStep_spec (d : VfioDevice) (m index : UInt32) :
    m ≤ d.maxInterruptsStep m index ∧
      (∀ irq, d.irqs.lookup index = some irq → irq.count ≤ d.maxInterruptsStep m index) ∧
      (d.maxInterruptsStep m index = m ∨ ∃ irq, d.irqs.lookup index = some irq ∧
        irq.count = d.maxInterruptsStep m index) := by
  unfold maxInterruptsStep
  cases h : d.irqs.lookup index with
  | none => simp
  | some irq =>
    by_cases hc : irq.count > m
    · simp [hc, le_iff_toNat_u32.2 (Nat.le_of_lt (lt_iff_toNat_u32.1 hc))]
    · simp [hc, UInt32.not_lt.1 hc]

theorem maxInterrupts_foldl (d : VfioDevice) (indexes : List UInt32) (m : UInt32) :
    m ≤ indexes.foldl d.maxInterruptsStep m ∧
      (∀ index ∈ indexes, ∀ irq, d.irqs.lookup index = some irq →
        irq.count ≤ indexes.foldl d.maxInterruptsStep m) ∧
      (indexes.foldl d.maxInterruptsStep m = m ∨ ∃ index ∈ indexes, ∃ irq,
        d.irqs.lookup index = some irq ∧ irq.count = indexes.foldl d.maxInterruptsStep m) := by
  induction indexes generalizing m with
  | nil => simp
  | cons index rest ih =>
    obtain ⟨hle, hbound, hwhich⟩ := d.maxInterruptsStep_spec m index
    obtain ⟨hle', hbound', hwhich'⟩ := ih (d.maxInterruptsStep m index)
    simp only [List.foldl_cons, List.mem_cons, forall_eq_or_imp, exists_eq_or_imp]
    refine ⟨UInt32.le_trans hle hle', ⟨fun irq h => UInt32.le_trans (hbound irq h) hle', hbound'⟩, ?_⟩
    rcases hwhich' with heq | hrest
    · rw [heq]; exact hwhich.imp_right .inl
    · exact .inr (.inr hrest)

/-- `max_interrupts` is the largest INTx, MSI or MSI-X count, `0` when there is none. -/
theorem maxInterrupts_spec (d : VfioDevice) :
    (∀ index ∈ [vfioPciIntxIrqIndex, vfioPciMsiIrqIndex, vfioPciMsixIrqIndex], ∀ irq,
        d.irqs.lookup index = some irq → irq.count ≤ d.maxInterrupts) ∧
      (d.maxInterrupts = 0 ∨ ∃ index ∈ [vfioPciIntxIrqIndex, vfioPciMsiIrqIndex,
        vfioPciMsixIrqIndex], ∃ irq, d.irqs.lookup index = some irq ∧ irq.count = d.maxInterrupts) :=
  let h := d.maxInterrupts_foldl _ 0
  ⟨h.2.1, h.2.2⟩

/-- `reset`: whether it issues `VFIO_DEVICE_RESET`. -/
def reset (d : VfioDevice) : Bool := d.flags &&& vfioDeviceFlagsReset != 0

end VfioDevice

end VfioIoctls
