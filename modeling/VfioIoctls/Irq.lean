import VfioIoctls.Device

/-! The four calls that issue `VFIO_DEVICE_SET_IRQS`: `trigger_irq`, `enable_irq`,
`disable_irq` and `unmask_irq`. Each looks the index up in the IRQ map, refuses on a check of
the entry and issues one `vfio_irq_set`; `setIrqs` is that shape. `enable_irq` fills its
payload by writing each descriptor at `index * 4` (`fillFds`), which leaves the encodings in
order (`enableIrq_payload`); `trigger_irq` issues a request for the vector `count` itself,
one past the last. -/

namespace VfioIoctls

open Bindings

/-! ### Requests -/

/-- The request's vectors lie in the entry's and its `argsz` is the header and payload. -/
def RequestFits (irq : VfioIrq) (irqSet : VfioIrqSet) : Prop :=
  irqSet.start.toNat + irqSet.count.toNat ≤ irq.count.toNat ∧
    irqSet.argsz.toNat = sizeOfVfioIrqSet + irqSet.data.length

instance (irq : VfioIrq) (irqSet : VfioIrqSet) : Decidable (RequestFits irq irqSet) :=
  inferInstanceAs (Decidable (_ ∧ _))

/-- `fds[offset..offset + bytes.len()]` overwritten by `bytes`. -/
def writeSlice (buf : List UInt8) (offset : Nat) (bytes : List UInt8) : List UInt8 :=
  buf.take offset ++ bytes ++ buf.drop (offset + bytes.length)

/-- The payload of `enable_irq`: each descriptor written at `index * 4` over zero bytes. -/
def fillFds (eventFds : List UInt32) : List UInt8 :=
  eventFds.enum.foldl (fun fds p => writeSlice fds (p.1 * 4) (leBytes 4 p.2.toNat))
    (List.replicate (eventFds.length * 4) 0)

theorem writeSlice_append {pre mid rest bytes : List UInt8} (h : mid.length = bytes.length) :
    writeSlice (pre ++ mid ++ rest) pre.length bytes = pre ++ bytes ++ rest := by
  simp [writeSlice, ← h]

theorem foldl_fillFds (l : List UInt32) {k : Nat} {pre : List UInt8} (h : pre.length = k * 4) :
    (l.enumFrom k).foldl (fun fds p => writeSlice fds (p.1 * 4) (leBytes 4 p.2.toNat))
        (pre ++ List.replicate (l.length * 4) 0) =
      pre ++ l.flatMap fun fd => leBytes 4 fd.toNat := by
  induction l generalizing k pre with
  | nil => simp
  | cons fd l ih =>
    have hz : List.replicate ((l.length + 1) * 4) (0 : UInt8) =
        List.replicate 4 0 ++ List.replicate (l.length * 4) 0 := by
      rw [← List.replicate_add]; congr 1; omega
    simp only [List.enumFrom_cons, List.foldl_cons, List.length_cons, hz, ← List.append_assoc, ← h]
    rw [writeSlice_append (by simp), ih (by simp [h]; omega), List.flatMap_cons, List.append_assoc]

/-- The payload of `enable_irq` is the descriptors' little-endian encodings in order. -/
theorem fillFds_eq (eventFds : List UInt32) :
    fillFds eventFds = eventFds.flatMap fun fd => leBytes 4 fd.toNat :=
  @foldl_fillFds eventFds 0 [] rfl

theorem length_fillFds (eventFds : List UInt32) : (fillFds eventFds).length = eventFds.length * 4 := by
  rw [fillFds_eq]
  induction eventFds with
  | nil => rfl
  | cons fd l ih => simp [ih]; omega

namespace VfioDevice

/-! ### The calls -/

/-- The shape of the four calls: the entry or `VfioDeviceSetIrq`, the call's check, then the
request and its result. -/
def setIrqs (d : VfioDevice) (ret : VfioIrqSet → Int) (irqIndex : UInt32)
    (reject : VfioIrq → Bool) (irqSet : VfioIrqSet) : Option VfioIrqSet × Except VfioError Unit :=
  match d.irqs.lookup irqIndex with
  | none => (none, .error .vfioDeviceSetIrq)
  | some irq =>
    if reject irq then (none, .error .vfioDeviceSetIrq)
    else (some irqSet, if ret irqSet < 0 then .error .vfioDeviceSetIrq else .ok ())

/-- `trigger_irq(irq_index, vector)`. -/
def triggerIrq (d : VfioDevice) (ret : VfioIrqSet → Int) (irqIndex vector : UInt32) :
    Option VfioIrqSet × Except VfioError Unit :=
  d.setIrqs ret irqIndex (fun irq => irq.count < vector)
    { argsz := UInt32.ofNat sizeOfVfioIrqSet,
      flags := vfioIrqSetDataNone ||| vfioIrqSetActionTrigger,
      index := irqIndex, start := vector, count := 1, data := [] }

/-- `enable_irq(irq_index, event_fds)`, with the event fds given by their descriptors. -/
def enableIrq (d : VfioDevice) (ret : VfioIrqSet → Int) (irqIndex : UInt32)
    (eventFds : List UInt32) : Option VfioIrqSet × Except VfioError Unit :=
  d.setIrqs ret irqIndex (fun irq => irq.count = 0 || irq.count.toNat < eventFds.length)
    { argsz := UInt32.ofNat sizeOfVfioIrqSet + UInt32.ofNat (eventFds.length * 4),
      flags := vfioIrqSetDataEventfd ||| vfioIrqSetActionTrigger,
      index := irqIndex, start := 0, count := UInt32.ofNat eventFds.length,
      data := fillFds eventFds }

/-- `disable_irq(irq_index)`. -/
def disableIrq (d : VfioDevice) (ret : VfioIrqSet → Int) (irqIndex : UInt32) :
    Option VfioIrqSet × Except VfioError Unit :=
  d.setIrqs ret irqIndex (fun irq => irq.count = 0)
    { argsz := UInt32.ofNat sizeOfVfioIrqSet,
      flags := vfioIrqSetDataNone ||| vfioIrqSetActionTrigger,
      index := irqIndex, start := 0, count := 0, data := [] }

/-- `unmask_irq(irq_index)`. -/
def unmaskIrq (d : VfioDevice) (ret : VfioIrqSet → Int) (irqIndex : UInt32) :
    Option VfioIrqSet × Except VfioError Unit :=
  d.setIrqs ret irqIndex (fun irq => irq.count = 0)
    { argsz := UInt32.ofNat sizeOfVfioIrqSet,
      flags := vfioIrqSetDataNone ||| vfioIrqSetActionUnmask,
      index := irqIndex, start := 0, count := 1, data := [] }

def enableMsi (d : VfioDevice) (ret : VfioIrqSet → Int) (fds : List UInt32) :=
  d.enableIrq ret vfioPciMsiIrqIndex fds

def disableMsi (d : VfioDevice) (ret : VfioIrqSet → Int) := d.disableIrq ret vfioPciMsiIrqIndex

def enableMsix (d : VfioDevice) (ret : VfioIrqSet → Int) (fds : List UInt32) :=
  d.enableIrq ret vfioPciMsixIrqIndex fds

def disableMsix (d : VfioDevice) (ret : VfioIrqSet → Int) := d.disableIrq ret vfioPciMsixIrqIndex

/-! ### What the shape guarantees -/

theorem setIrqs_issued {ret : VfioIrqSet → Int} {irqIndex : UInt32} {reject : VfioIrq → Bool}
    {irqSet r : VfioIrqSet} (d : VfioDevice) :
    (d.setIrqs ret irqIndex reject irqSet).1 = some r ↔
      ∃ irq, d.irqs.lookup irqIndex = some irq ∧ reject irq = false ∧ r = irqSet := by
  unfold setIrqs
  cases d.irqs.lookup irqIndex with
  | none => simp
  | some irq => by_cases h : reject irq <;> simp [h, @eq_comm _ r]

/-- `enable_irq`'s request: vectors `[0, n)`, and `argsz` `20 + 4 n` wrapped to `u32`. -/
theorem enableIrq_issued {ret : VfioIrqSet → Int} {irqIndex : UInt32} {eventFds : List UInt32}
    {r : VfioIrqSet} (d : VfioDevice) (h : (d.enableIrq ret irqIndex eventFds).1 = some r) :
    ∃ irq, d.irqs.lookup irqIndex = some irq ∧ irq.count ≠ 0 ∧
      eventFds.length ≤ irq.count.toNat ∧ r.start = 0 ∧ r.count.toNat = eventFds.length ∧
      r.data.length = 4 * eventFds.length ∧
      r.argsz.toNat = (sizeOfVfioIrqSet + 4 * eventFds.length) % 2 ^ 32 := by
  obtain ⟨irq, hl, hc, rfl⟩ := d.setIrqs_issued.1 h
  simp only [Bool.or_eq_false_iff, decide_eq_false_iff_not, Nat.not_lt] at hc
  have hlt : eventFds.length < 2 ^ 32 := Nat.lt_of_le_of_lt hc.2 irq.count.toNat_lt_size
  refine ⟨irq, hl, hc.1, hc.2, rfl, UInt32.toNat_ofNat_of_lt hlt, by
    rw [length_fillFds, Nat.mul_comm], ?_⟩
  simp only [UInt32.toNat_add, UInt32.toNat_ofNat_of_lt (show sizeOfVfioIrqSet < UInt32.size by decide)]
  rw [toNat_ofNat_u32, show UInt32.size = 2 ^ 32 from rfl, Nat.add_mod_mod, Nat.mul_comm]

/-- With `1 ≤ n ≤ count` descriptors, `enable_irq` issues one request whose payload reads back
as the descriptors in order. -/
theorem enableIrq_payload {ret : VfioIrqSet → Int} {irqIndex : UInt32} {eventFds : List UInt32}
    {irq : VfioIrq} (d : VfioDevice) (hl : d.irqs.lookup irqIndex = some irq)
    (hn : 1 ≤ eventFds.length) (hle : eventFds.length ≤ irq.count.toNat) :
    ∃ r, (d.enableIrq ret irqIndex eventFds).1 = some r ∧
      r.flags = vfioIrqSetDataEventfd ||| vfioIrqSetActionTrigger ∧ r.index = irqIndex ∧
      r.start = 0 ∧ r.count.toNat = eventFds.length ∧ r.data.length = 4 * eventFds.length ∧
      readU32s (memOf r.data) 0 eventFds.length = eventFds := by
  have hc : irq.count ≠ 0 := fun h0 => by rw [h0] at hle; exact Nat.not_succ_le_zero 0 (Nat.le_trans hn hle)
  have hr : (irq.count = 0 || irq.count.toNat < eventFds.length) = false := by simp [hc, hle]
  have hi : (d.enableIrq ret irqIndex eventFds).1 = some _ := d.setIrqs_issued.2 ⟨irq, hl, hr, rfl⟩
  obtain ⟨-, -, -, -, -, hcount, hdata, -⟩ := d.enableIrq_issued hi
  refine ⟨_, hi, rfl, rfl, rfl, hcount, hdata, ?_⟩
  rw [fillFds_eq]
  exact readU32s_of_stored (stored_memOf [] _)

/-- A device whose MSI-X entry has four vectors. -/
def fourVectorDevice : VfioDevice :=
  ⟨vfioDeviceFlagsPci, [], (∅ : AList fun _ : UInt32 => VfioIrq).insert vfioPciMsixIrqIndex
    ⟨0, vfioPciMsixIrqIndex, 4⟩, ⟨0, 0⟩⟩

/-- `trigger_irq(MSI-X, 4)` on four vectors issues a request for vector 4, outside `[0, 4)`. -/
theorem triggerIrq_issues_vector_count :
    (fourVectorDevice.triggerIrq (fun _ => 0) vfioPciMsixIrqIndex 4).1 =
        some ⟨20, vfioIrqSetDataNone ||| vfioIrqSetActionTrigger, vfioPciMsixIrqIndex, 4, 1, []⟩ ∧
      ¬ RequestFits ⟨0, vfioPciMsixIrqIndex, 4⟩
        ⟨20, vfioIrqSetDataNone ||| vfioIrqSetActionTrigger, vfioPciMsixIrqIndex, 4, 1, []⟩ := by
  decide

theorem enableMsix_payload_two_fds :
    fourVectorDevice.irqs.lookup vfioPciMsixIrqIndex = some ⟨0, vfioPciMsixIrqIndex, 4⟩ ∧
      1 ≤ [7, 8].length ∧ [7, 8].length ≤ (4 : UInt32).toNat ∧
      ∃ r, (fourVectorDevice.enableIrq (fun _ => 0) vfioPciMsixIrqIndex [7, 8]).1 = some r ∧
        r.flags = vfioIrqSetDataEventfd ||| vfioIrqSetActionTrigger ∧
        r.index = vfioPciMsixIrqIndex ∧ r.start = 0 ∧ r.count.toNat = [7, 8].length ∧
        r.data.length = 4 * [7, 8].length ∧ readU32s (memOf r.data) 0 [7, 8].length = [7, 8] :=
  have hl : fourVectorDevice.irqs.lookup vfioPciMsixIrqIndex = some ⟨0, vfioPciMsixIrqIndex, 4⟩ := by
    decide
  ⟨hl, by decide, by decide, fourVectorDevice.enableIrq_payload hl (by decide) (by decide)⟩

end VfioDevice

end VfioIoctls
