import VfioIoctls.CapChain
import VfioIoctls.Device
import VfioIoctls.GroupLifecycle
import VfioIoctls.Irq

/-! Opening a device: `VfioDevice::new` resolves the group id from the sysfs path, takes the
group from the container (`get_group`), asks the group for the device (`get_device`), then
reads the regions (`get_regions`) and IRQs (`get_irqs`), skipping an index whose query fails.
`get_regions` pushes the regions it keeps onto a `Vec`, so a skipped index moves every later
region to a lower position (`new_regionField_reported`), while `get_irqs` keys its map by
index (`getIrqs_lookup`). We also prove which failed opens leave the container as it was. -/

namespace VfioIoctls

/-- The group id and the device name the code reads from the sysfs path, `none` where a
step fails. -/
structure SysfsPath where
  groupId : Option UInt32
  deviceName : Option String

/-- The answers of the kernel to the device's requests: return value and reply. -/
structure DeviceReplies where
  deviceFd : VfioGroup → String → Int
  deviceInfo : Bindings.VfioDeviceInfo → Int × Bindings.VfioDeviceInfo
  regionInfo : Bindings.VfioRegionInfo → Int × Bindings.VfioRegionInfo
  regionCaps : Bindings.VfioRegionInfo → Int × (Nat → UInt8)
  irqInfo : Bindings.VfioIrqInfo → Int × Bindings.VfioIrqInfo

/-- The crate's `VfioDeviceInfo`, less the device file. -/
structure VfioDeviceInfo where
  flags : UInt32
  numRegions : UInt32
  numIrqs : UInt32
  deriving DecidableEq, Repr

/-- `VfioGroup::get_device`. -/
def VfioGroup.getDevice (group : VfioGroup) (name : SysfsPath) (dk : DeviceReplies) :
    Except VfioError VfioDeviceInfo :=
  match name.deviceName with
  | none => .error .invalidPath
  | some uuid =>
    if dk.deviceFd group uuid < 0 then .error .groupGetDeviceFd else
    let (ret, devInfo) := dk.deviceInfo ⟨UInt32.ofNat Bindings.sizeOfVfioDeviceInfo, 0, 0, 0⟩
    if ret < 0 ∨ devInfo.flags &&& vfioDeviceFlagsPci = 0 ∨
        devInfo.numRegions < vfioPciConfigRegionIndex + 1 ∨
        devInfo.numIrqs < vfioPciMsixIrqIndex + 1 then .error .vfioDeviceGetInfo
    else .ok ⟨devInfo.flags, devInfo.numRegions, devInfo.numIrqs⟩

/-- The range `lo..hi`. -/
def indexRange (lo hi : UInt32) : List UInt32 :=
  (List.range (hi.toNat - lo.toNat)).map fun j => UInt32.ofNat (lo.toNat + j)

theorem mem_indexRange {lo hi i : UInt32} :
    i ∈ indexRange lo hi ↔ lo.toNat ≤ i.toNat ∧ i.toNat < hi.toNat := by
  have hs : hi.toNat < 4294967296 := hi.toNat_lt_size
  simp only [indexRange, List.mem_map, List.mem_range]
  constructor
  · rintro ⟨j, hj, rfl⟩
    rw [UInt32.toNat_ofNat_of_lt (show lo.toNat + j < 4294967296 by omega)]
    omega
  · intro h
    refine ⟨i.toNat - lo.toNat, by omega, UInt32.toNat.inj ?_⟩
    rw [Nat.add_sub_cancel' h.1, UInt32.toNat_ofNat_of_lt i.toNat_lt_size]

/-! ### `get_regions` -/

/-- The first `VFIO_DEVICE_GET_REGION_INFO` request for index `i`. -/
def regionInfoRequest (i : UInt32) : Bindings.VfioRegionInfo :=
  ⟨UInt32.ofNat Bindings.sizeOfVfioRegionInfo, 0, i, 0, 0, 0⟩

/-- The body of `get_regions`' loop for index `i`: the region it pushes, if any; `none`
while the capability walk still runs after `fuel` iterations. -/
def queryRegion (fuel : Nat) (dk : DeviceReplies) (i : UInt32) : Option (Option VfioRegion) :=
  let (ret, regInfo) := dk.regionInfo (regionInfoRequest i)
  if ret < 0 then some none else
  match getRegionMap fuel dk.regionCaps ⟨regInfo.flags, regInfo.size, regInfo.offset, []⟩ regInfo with
  | none => none
  | some (.error _) => some none
  | some (.ok region) => some (some region)

/-- `get_regions`' loop over `indexes`, pushing onto `regions`. -/
def getRegionsLoop (fuel : Nat) (dk : DeviceReplies) :
    List UInt32 → List VfioRegion → Option (List VfioRegion)
  | [], regions => some regions
  | i :: is, regions =>
    match queryRegion fuel dk i with
    | none => none
    | some none => getRegionsLoop fuel dk is regions
    | some (some region) => getRegionsLoop fuel dk is (regions ++ [region])

/-- `VfioDeviceInfo::get_regions`. -/
def VfioDeviceInfo.getRegions (info : VfioDeviceInfo) (fuel : Nat) (dk : DeviceReplies) :
    Option (List VfioRegion) :=
  getRegionsLoop fuel dk (indexRange vfioPciBar0RegionIndex info.numRegions) []

/-- When every walk returns, the loop keeps the regions whose queries succeed, in order. -/
theorem getRegionsLoop_eq {fuel : Nat} {dk : DeviceReplies} {indexes : List UInt32}
    (h : ∀ i ∈ indexes, (queryRegion fuel dk i).isSome) (regions : List VfioRegion) :
    getRegionsLoop fuel dk indexes regions =
      some (regions ++ indexes.filterMap fun i => (queryRegion fuel dk i).join) := by
  induction indexes generalizing regions with
  | nil => simp [getRegionsLoop]
  | cons i is ih =>
    have ht : ∀ j ∈ is, (queryRegion fuel dk j).isSome := fun j hj => h j (.tail _ hj)
    obtain ⟨r, hr⟩ := Option.isSome_iff_exists.1 (h i (.head _))
    cases r <;> simp [getRegionsLoop, hr, ih ht]

theorem getRegionsLoop_isSome {fuel : Nat} {dk : DeviceReplies} {indexes : List UInt32}
    {regions out : List VfioRegion} (h : getRegionsLoop fuel dk indexes regions = some out) :
    ∀ i ∈ indexes, (queryRegion fuel dk i).isSome := by
  induction indexes generalizing regions with
  | nil => simp
  | cons i is ih =>
    unfold getRegionsLoop at h
    split at h
    · cases h
    · rename_i hq; exact List.forall_mem_cons.2 ⟨by simp [hq], ih h⟩
    · rename_i hq; exact List.forall_mem_cons.2 ⟨by simp [hq], ih h⟩

theorem getElem?_indexRange_zero {hi i : UInt32} (h : i.toNat < hi.toNat) :
    (indexRange 0 hi)[i.toNat]? = some i := by
  simp only [indexRange, UInt32.toNat_zero, Nat.sub_zero, Nat.zero_add, List.getElem?_map,
    List.getElem?_range h, Option.map_some']
  exact congrArg some (UInt32.toNat.inj (UInt32.toNat_ofNat_of_lt i.toNat_lt_size))

/-! ### `get_irqs` -/

/-- The body of `get_irqs`' loop for `index`: the IRQ it inserts, if its query succeeds. -/
def queryIrq (dk : DeviceReplies) (index : UInt32) : Option VfioIrq :=
  let (ret, irqInfo) := dk.irqInfo ⟨UInt32.ofNat Bindings.sizeOfVfioIrqInfo, 0, index, 0⟩
  if ret < 0 then none else some ⟨irqInfo.flags, index, irqInfo.count⟩

/-- `get_irqs`' loop over `indexes`, inserting into `irqs`. -/
def getIrqsLoop (dk : DeviceReplies) :
    List UInt32 → AList (fun _ : UInt32 => VfioIrq) → AList (fun _ : UInt32 => VfioIrq)
  | [], irqs => irqs
  | index :: rest, irqs =>
    match queryIrq dk index with
    | none => getIrqsLoop dk rest irqs
    | some irq => getIrqsLoop dk rest (irqs.insert index irq)

/-- `VfioDeviceInfo::get_irqs`. -/
def VfioDeviceInfo.getIrqs (info : VfioDeviceInfo) (dk : DeviceReplies) :
    AList (fun _ : UInt32 => VfioIrq) :=
  getIrqsLoop dk (indexRange 0 info.numIrqs) ∅

theorem getIrqsLoop_lookup (dk : DeviceReplies) (indexes : List UInt32)
    (irqs : AList fun _ : UInt32 => VfioIrq) (i : UInt32) :
    (getIrqsLoop dk indexes irqs).lookup i =
      if i ∈ indexes then (queryIrq dk i).or (irqs.lookup i) else irqs.lookup i := by
  induction indexes generalizing irqs with
  | nil => simp [getIrqsLoop]
  | cons j rest ih =>
    by_cases hij : i = j <;> cases hq : queryIrq dk j <;>
      simp [getIrqsLoop, hq, ih, hij, lookup_insert_eq_ite]

/-- `get_irqs` holds exactly the indexes below `num_irqs` whose query succeeded, each with
the index, flags and count the kernel reported. -/
theorem getIrqs_lookup (info : VfioDeviceInfo) (dk : DeviceReplies) (i : UInt32) :
    (info.getIrqs dk).lookup i =
      if i.toNat < info.numIrqs.toNat ∧
          0 ≤ (dk.irqInfo ⟨UInt32.ofNat Bindings.sizeOfVfioIrqInfo, 0, i, 0⟩).1 then
        some ⟨(dk.irqInfo ⟨UInt32.ofNat Bindings.sizeOfVfioIrqInfo, 0, i, 0⟩).2.flags, i,
          (dk.irqInfo ⟨UInt32.ofNat Bindings.sizeOfVfioIrqInfo, 0, i, 0⟩).2.count⟩
      else none := by
  rw [VfioDeviceInfo.getIrqs, getIrqsLoop_lookup]
  rcases Int.lt_or_le (dk.irqInfo ⟨UInt32.ofNat Bindings.sizeOfVfioIrqInfo, 0, i, 0⟩).1 0 with
    hr | hr
  · simp [queryIrq, hr, Int.not_le.2 hr]
  · simp [queryIrq, mem_indexRange, hr, Int.not_lt.2 hr]

/-! ### `VfioDevice::new` -/

/-- The holder counts once `get_group` has returned `group`. -/
def heldAfterGetGroup (c : VfioContainer) (count : VfioGroup → Nat) (groupId : UInt32)
    (group : VfioGroup) : VfioGroup → Nat :=
  Function.update count group (if c.groups.lookup groupId = some group then count group + 1 else 2)

/-- `VfioDevice::new(sysfspath, container)`: the result, the container and the holder counts
after it; `none` while a capability walk still runs after `fuel` iterations. -/
def VfioDevice.new (fuel : Nat) (sysfspath : SysfsPath) (c : VfioContainer)
    (count : VfioGroup → Nat) (k : Replies) (dk : DeviceReplies) :
    Option (Except VfioError VfioDevice × VfioContainer × (VfioGroup → Nat)) :=
  match sysfspath.groupId with
  | none => some (.error .invalidPath, c, count)
  | some groupId =>
    match c.getGroup k groupId with
    | (.error e, c') => some (.error e, c', count)
    | (.ok group, c') =>
      let count' := heldAfterGetGroup c count groupId group
      match group.getDevice sysfspath dk with
      | .error e => some (.error e, c', Function.update count' group (count' group - 1))
      | .ok deviceInfo =>
        (deviceInfo.getRegions fuel dk).map fun regions =>
          (.ok ⟨deviceInfo.flags, regions, deviceInfo.getIrqs dk, group⟩, c', count')

/-- Every outcome of `VfioDevice::new`. -/
theorem VfioDevice.new_cases {fuel : Nat} {sysfspath : SysfsPath} {c c' : VfioContainer}
    {count count' : VfioGroup → Nat} {k : Replies} {dk : DeviceReplies}
    {r : Except VfioError VfioDevice}
    (h : VfioDevice.new fuel sysfspath c count k dk = some (r, c', count')) :
    (sysfspath.groupId = none ∧ r = .error .invalidPath ∧ c' = c ∧ count' = count) ∨
    ∃ groupId, sysfspath.groupId = some groupId ∧
      ((∃ e, c.getGroup k groupId = (.error e, c') ∧ r = .error e ∧ count' = count) ∨
      ∃ group, c.getGroup k groupId = (.ok group, c') ∧
        ((∃ e, group.getDevice sysfspath dk = .error e ∧ r = .error e ∧
          count' = Function.update (heldAfterGetGroup c count groupId group) group
            (heldAfterGetGroup c count groupId group group - 1)) ∨
        ∃ deviceInfo regions, group.getDevice sysfspath dk = .ok deviceInfo ∧
          deviceInfo.getRegions fuel dk = some regions ∧
          r = .ok ⟨deviceInfo.flags, regions, deviceInfo.getIrqs dk, group⟩ ∧
          count' = heldAfterGetGroup c count groupId group)) := by
  unfold VfioDevice.new at h
  rcases hp : sysfspath.groupId with _ | groupId
  · simp only [hp, Option.some.injEq, Prod.mk.injEq] at h
    exact .inl ⟨rfl, h.1.symm, h.2.1.symm, h.2.2.symm⟩
  simp only [hp] at h
  refine .inr ⟨groupId, rfl, ?_⟩
  rcases hg : c.getGroup k groupId with ⟨_ | group, c₁⟩
  · simp only [hg, Option.some.injEq, Prod.mk.injEq] at h
    obtain ⟨rfl, rfl, rfl⟩ := h
    exact .inl ⟨_, rfl, rfl, rfl⟩
  simp only [hg] at h
  rcases hd : group.getDevice sysfspath dk with e | deviceInfo
  · simp only [hd, Option.some.injEq, Prod.mk.injEq] at h
    obtain ⟨rfl, rfl, rfl⟩ := h
    exact .inr ⟨group, rfl, .inl ⟨e, hd, rfl, rfl⟩⟩
  · simp only [hd] at h
    obtain ⟨regions, hr, he⟩ := Option.map_eq_some'.1 h
    cases he
    exact .inr ⟨group, rfl, .inr ⟨deviceInfo, regions, hd, hr, rfl, rfl⟩⟩

theorem VfioDevice.new_ok {fuel : Nat} {sysfspath : SysfsPath} {c c' : VfioContainer}
    {count count' : VfioGroup → Nat} {k : Replies} {dk : DeviceReplies} {d : VfioDevice}
    (h : VfioDevice.new fuel sysfspath c count k dk = some (.ok d, c', count')) :
    ∃ deviceInfo : VfioDeviceInfo, d.group.getDevice sysfspath dk = .ok deviceInfo ∧
      d.flags = deviceInfo.flags ∧ deviceInfo.getRegions fuel dk = some d.regions ∧
      d.irqs = deviceInfo.getIrqs dk := by
  rcases VfioDevice.new_cases h with ⟨-, ⟨⟩, -⟩ | ⟨_, -, ⟨_, -, ⟨⟩, -⟩ | ⟨_, -, ⟨_, -, ⟨⟩, -⟩ |
    ⟨deviceInfo, _, hd, hr, ⟨⟩, -⟩⟩⟩
  exact ⟨deviceInfo, hd, rfl, hr, rfl⟩

theorem VfioDevice.new_ok_getGroup {fuel : Nat} {sysfspath : SysfsPath} {c c' : VfioContainer}
    {count count' : VfioGroup → Nat} {k : Replies} {dk : DeviceReplies} {d : VfioDevice}
    (h : VfioDevice.new fuel sysfspath c count k dk = some (.ok d, c', count')) :
    ∃ groupId, sysfspath.groupId = some groupId ∧ c.getGroup k groupId = (.ok d.group, c') ∧
      count' = heldAfterGetGroup c count groupId d.group := by
  rcases VfioDevice.new_cases h with ⟨-, ⟨⟩, -⟩ | ⟨groupId, hp, ⟨_, -, ⟨⟩, -⟩ |
    ⟨_, hg, ⟨_, -, ⟨⟩, -⟩ | ⟨_, _, -, -, ⟨⟩, rfl⟩⟩⟩
  exact ⟨groupId, hp, hg, rfl⟩

theorem VfioDevice.new_container {fuel : Nat} {sysfspath : SysfsPath} {c c' : VfioContainer}
    {count count' : VfioGroup → Nat} {k : Replies} {dk : DeviceReplies}
    {r : Except VfioError VfioDevice}
    (h : VfioDevice.new fuel sysfspath c count k dk = some (r, c', count')) :
    c' = c ∨ ∃ groupId, c' = (c.getGroup k groupId).2 := by
  rcases VfioDevice.new_cases h with ⟨-, -, rfl, -⟩ | ⟨groupId, -, ⟨_, hg, -⟩ | ⟨_, hg, -⟩⟩
  · exact .inl rfl
  all_goals exact .inr ⟨groupId, by rw [hg]⟩

/-! ### IRQ requests of an opened device -/

theorem VfioGroup.getDevice_ok {group : VfioGroup} {name : SysfsPath} {dk : DeviceReplies}
    {info : VfioDeviceInfo} (h : group.getDevice name dk = .ok info) :
    info.numRegions =
        (dk.deviceInfo ⟨UInt32.ofNat Bindings.sizeOfVfioDeviceInfo, 0, 0, 0⟩).2.numRegions ∧
      info.numIrqs = (dk.deviceInfo ⟨UInt32.ofNat Bindings.sizeOfVfioDeviceInfo, 0, 0, 0⟩).2.numIrqs ∧
      vfioPciMsixIrqIndex.toNat < info.numIrqs.toNat := by
  rcases hq : dk.deviceInfo ⟨UInt32.ofNat Bindings.sizeOfVfioDeviceInfo, 0, 0, 0⟩ with ⟨ret, devInfo⟩
  simp only [VfioGroup.getDevice, hq] at h
  split at h
  · cases h
  · split_ifs at h with _ hchk
    cases h
    have hirqs : ¬ devInfo.numIrqs.toNat < 3 := (not_or.1 (not_or.1 (not_or.1 hchk).2).2).2
    exact ⟨rfl, rfl, show 2 < devInfo.numIrqs.toNat by omega⟩

theorem queryIrq_eq_some {dk : DeviceReplies} {index : UInt32} {irq : VfioIrq} :
    queryIrq dk index = some irq ↔
      0 ≤ (dk.irqInfo ⟨UInt32.ofNat Bindings.sizeOfVfioIrqInfo, 0, index, 0⟩).1 ∧
        irq = ⟨(dk.irqInfo ⟨UInt32.ofNat Bindings.sizeOfVfioIrqInfo, 0, index, 0⟩).2.flags, index,
          (dk.irqInfo ⟨UInt32.ofNat Bindings.sizeOfVfioIrqInfo, 0, index, 0⟩).2.count⟩ := by
  rcases hq : dk.irqInfo ⟨UInt32.ofNat Bindings.sizeOfVfioIrqInfo, 0, index, 0⟩ with ⟨ret, info⟩
  simp only [queryIrq, hq]
  split_ifs with hr
  · simp [Int.not_le.2 hr]
  · simp [Int.not_lt.1 hr, eq_comm]

theorem getIrqs_lookup_of_lt {info : VfioDeviceInfo} {dk : DeviceReplies} {i : UInt32}
    (h : i.toNat < info.numIrqs.toNat) : (info.getIrqs dk).lookup i = queryIrq dk i := by
  rw [VfioDeviceInfo.getIrqs, getIrqsLoop_lookup, if_pos (mem_indexRange.2 ⟨Nat.zero_le _, h⟩),
    AList.lookup_empty, Option.or_none]

theorem getIrqs_lookup_eq_some {info : VfioDeviceInfo} {dk : DeviceReplies} {i : UInt32}
    {irq : VfioIrq} (h : (info.getIrqs dk).lookup i = some irq) :
    i.toNat < info.numIrqs.toNat ∧ queryIrq dk i = some irq := by
  rw [VfioDeviceInfo.getIrqs, getIrqsLoop_lookup] at h
  by_cases hi : i ∈ indexRange 0 info.numIrqs
  · simp only [hi, if_true, AList.lookup_empty, Option.or_none] at h
    exact ⟨(mem_indexRange.1 hi).2, h⟩
  · simp [hi, AList.lookup_empty] at h

/-- Every `VFIO_DEVICE_SET_IRQS` request of an opened device is for a reported index whose
`VFIO_DEVICE_GET_IRQ_INFO` succeeded, and the call's check passed on what it reported. -/
theorem new_setIrqs_reported_index {fuel : Nat} {sysfspath : SysfsPath} {c c' : VfioContainer}
    {count count' : VfioGroup → Nat} {k : Replies} {dk : DeviceReplies} {d : VfioDevice}
    {ret : Bindings.VfioIrqSet → Int} {irqIndex : UInt32} {reject : VfioIrq → Bool}
    {irqSet r : Bindings.VfioIrqSet}
    (h : VfioDevice.new fuel sysfspath c count k dk = some (.ok d, c', count'))
    (hr : (d.setIrqs ret irqIndex reject irqSet).1 = some r) :
    irqIndex.toNat <
        (dk.deviceInfo ⟨UInt32.ofNat Bindings.sizeOfVfioDeviceInfo, 0, 0, 0⟩).2.numIrqs.toNat ∧
      0 ≤ (dk.irqInfo ⟨UInt32.ofNat Bindings.sizeOfVfioIrqInfo, 0, irqIndex, 0⟩).1 ∧
      reject ⟨(dk.irqInfo ⟨UInt32.ofNat Bindings.sizeOfVfioIrqInfo, 0, irqIndex, 0⟩).2.flags,
        irqIndex, (dk.irqInfo ⟨UInt32.ofNat Bindings.sizeOfVfioIrqInfo, 0, irqIndex, 0⟩).2.count⟩ =
        false ∧
      r = irqSet := by
  obtain ⟨info, hdev, -, -, hirqs⟩ := VfioDevice.new_ok h
  obtain ⟨irq, hl, hrej, rfl⟩ := d.setIrqs_issued.1 hr
  rw [hirqs] at hl
  obtain ⟨hi, hq⟩ := getIrqs_lookup_eq_some hl
  obtain ⟨hret, rfl⟩ := queryIrq_eq_some.1 hq
  exact ⟨(VfioGroup.getDevice_ok hdev).2.1 ▸ hi, hret, hrej, rfl⟩

/-- A device of IOMMU group 1. -/
def groupOnePath : SysfsPath := ⟨some 1, some "0000:00:01.0"⟩

/-- A PCI device whose IRQ queries report four vectors for every index. -/
def fourVectorReplies : DeviceReplies :=
  ⟨fun _ _ => 3, fun _ => (0, ⟨16, vfioDeviceFlagsPci, 9, 5⟩), fun r => (-1, r),
    fun _ => (-1, memOf []), fun r => (0, { r with count := 4 })⟩

theorem new_setIrqs_reported_index_msix :
    ∃ c₀ d c' count' r, VfioContainer.new newReplies = .ok c₀ ∧
      VfioDevice.new 0 groupOnePath c₀ (fun _ => 0) newReplies fourVectorReplies =
        some (.ok d, c', count') ∧
      (d.triggerIrq (fun _ => 0) vfioPciMsixIrqIndex 3).1 = some r ∧
      vfioPciMsixIrqIndex.toNat <
        (fourVectorReplies.deviceInfo ⟨UInt32.ofNat Bindings.sizeOfVfioDeviceInfo, 0, 0, 0⟩).2.numIrqs.toNat ∧
      0 ≤ (fourVectorReplies.irqInfo
        ⟨UInt32.ofNat Bindings.sizeOfVfioIrqInfo, 0, vfioPciMsixIrqIndex, 0⟩).1 ∧
      decide ((fourVectorReplies.irqInfo
        ⟨UInt32.ofNat Bindings.sizeOfVfioIrqInfo, 0, vfioPciMsixIrqIndex, 0⟩).2.count < 3) = false ∧
      r = ⟨UInt32.ofNat Bindings.sizeOfVfioIrqSet, vfioIrqSetDataNone ||| vfioIrqSetActionTrigger,
        vfioPciMsixIrqIndex, 3, 1, []⟩ :=
  ⟨_, _, _, _, _, rfl, rfl, rfl, @new_setIrqs_reported_index 0 groupOnePath
    (((VfioContainer.empty.request newReplies .openContainer).request newReplies
      .getApiVersion).request newReplies (.checkExtension vfioType1v2Iommu)) _ (fun _ => 0) _
    newReplies fourVectorReplies _ (fun _ => 0) vfioPciMsixIrqIndex (fun irq => irq.count < 3) _ _
    rfl rfl⟩

/-- `max_interrupts` of an opened device is the largest count reported for INTx, MSI and
MSI-X, `0` when no query succeeded. -/
theorem new_maxInterrupts_reported {fuel : Nat} {sysfspath : SysfsPath} {c c' : VfioContainer}
    {count count' : VfioGroup → Nat} {k : Replies} {dk : DeviceReplies} {d : VfioDevice}
    (h : VfioDevice.new fuel sysfspath c count k dk = some (.ok d, c', count')) :
    (∀ index ∈ [vfioPciIntxIrqIndex, vfioPciMsiIrqIndex, vfioPciMsixIrqIndex],
        0 ≤ (dk.irqInfo ⟨UInt32.ofNat Bindings.sizeOfVfioIrqInfo, 0, index, 0⟩).1 →
        (dk.irqInfo ⟨UInt32.ofNat Bindings.sizeOfVfioIrqInfo, 0, index, 0⟩).2.count ≤
          d.maxInterrupts) ∧
      (d.maxInterrupts = 0 ∨
        ∃ index ∈ [vfioPciIntxIrqIndex, vfioPciMsiIrqIndex, vfioPciMsixIrqIndex],
          0 ≤ (dk.irqInfo ⟨UInt32.ofNat Bindings.sizeOfVfioIrqInfo, 0, index, 0⟩).1 ∧
          (dk.irqInfo ⟨UInt32.ofNat Bindings.sizeOfVfioIrqInfo, 0, index, 0⟩).2.count =
            d.maxInterrupts) := by
  obtain ⟨info, hdev, -, -, hirqs⟩ := VfioDevice.new_ok h
  have hq : ∀ index ∈ [vfioPciIntxIrqIndex, vfioPciMsiIrqIndex, vfioPciMsixIrqIndex],
      d.irqs.lookup index = queryIrq dk index := by
    have h3 : 2 < info.numIrqs.toNat := (VfioGroup.getDevice_ok hdev).2.2
    intro index hi
    rw [hirqs]
    refine getIrqs_lookup_of_lt ?_
    simp only [List.mem_cons, List.mem_singleton, List.not_mem_nil, or_false] at hi
    rcases hi with rfl | rfl | rfl <;> exact lt_of_le_of_lt (by decide) h3
  obtain ⟨hbound, hwhich⟩ := d.maxInterrupts_spec
  refine ⟨fun index hi hret => hbound index hi _ ((hq index hi).trans
    (queryIrq_eq_some.2 ⟨hret, rfl⟩)), hwhich.imp_right ?_⟩
  rintro ⟨index, hi, irq, hl, hmax⟩
  obtain ⟨hret, rfl⟩ := queryIrq_eq_some.1 ((hq index hi).symm.trans hl)
  exact ⟨index, hi, hret, hmax⟩

theorem new_maxInterrupts_reported_four :
    ∃ c₀ d c' count', VfioContainer.new newReplies = .ok c₀ ∧
      VfioDevice.new 0 groupOnePath c₀ (fun _ => 0) newReplies fourVectorReplies =
        some (.ok d, c', count') ∧ d.maxInterrupts = 4 ∧
      (∀ index ∈ [vfioPciIntxIrqIndex, vfioPciMsiIrqIndex, vfioPciMsixIrqIndex],
        0 ≤ (fourVectorReplies.irqInfo ⟨UInt32.ofNat Bindings.sizeOfVfioIrqInfo, 0, index, 0⟩).1 →
        (fourVectorReplies.irqInfo ⟨UInt32.ofNat Bindings.sizeOfVfioIrqInfo, 0, index, 0⟩).2.count ≤
          d.maxInterrupts) ∧
      (d.maxInterrupts = 0 ∨
        ∃ index ∈ [vfioPciIntxIrqIndex, vfioPciMsiIrqIndex, vfioPciMsixIrqIndex],
          0 ≤ (fourVectorReplies.irqInfo ⟨UInt32.ofNat Bindings.sizeOfVfioIrqInfo, 0, index, 0⟩).1 ∧
          (fourVectorReplies.irqInfo ⟨UInt32.ofNat Bindings.sizeOfVfioIrqInfo, 0, index, 0⟩).2.count =
            d.maxInterrupts) :=
  ⟨_, _, _, _, rfl, rfl, rfl, @new_maxInterrupts_reported 0 groupOnePath
    (((VfioContainer.empty.request newReplies .openContainer).request newReplies
      .getApiVersion).request newReplies (.checkExtension vfioType1v2Iommu)) _ (fun _ => 0) _
    newReplies fourVectorReplies _ rfl⟩

/-! ### Failures of `VfioDevice::new` -/

variable {fuel : Nat} {sysfspath : SysfsPath} {c c' : VfioContainer}
  {count count' : VfioGroup → Nat} {k : Replies} {dk : DeviceReplies} {e : VfioError}

/-- A device whose `VFIO_DEVICE_GET_INFO` reports no `VFIO_DEVICE_FLAGS_PCI`. -/
def nonPciDevice : DeviceReplies :=
  ⟨fun _ _ => 3, fun _ => (0, ⟨16, 0, 9, 5⟩), fun r => (-1, r), fun _ => (-1, memOf []),
    fun r => (-1, r)⟩

/-- A failed open, every unbind succeeding, leaves the container and the holder counts as
they were, unless `get_device` failed after `get_group` created the group. -/
theorem new_error_cases (hk : UnsetsSucceed k) (hc : VfioContainer.Consistent c)
    (h : VfioDevice.new fuel sysfspath c count k dk = some (.error e, c', count')) :
    (c'.groups = c.groups ∧ c'.bound = c.bound ∧ c'.attached = c.attached ∧ count' = count) ∨
    ∃ groupId g, sysfspath.groupId = some groupId ∧ c.groups.lookup groupId = none ∧
      (∃ e', g.getDevice sysfspath dk = .error e') ∧
      c'.groups = c.groups.insert groupId g ∧ c'.bound = insert groupId c.bound ∧
      c'.attached = insert groupId c.attached ∧ count' = Function.update count g 1 := by
  rcases VfioDevice.new_cases h with ⟨-, -, rfl, rfl⟩ | ⟨groupId, hp, ⟨_, hg, -, rfl⟩ |
    ⟨group, hg, ⟨e', hd, -, rfl⟩ | ⟨_, _, -, -, ⟨⟩, -⟩⟩⟩
  · exact .inl ⟨rfl, rfl, rfl, rfl⟩
  · -- `get_group` fails and rolls back
    rcases VfioContainer.getGroup_cases c k groupId with ⟨_, -, hg'⟩ | ⟨hl, -, hr⟩ | ⟨-, _, hok, -⟩
    · rw [hg] at hg'; cases hg'
    · rw [hg] at hr; exact .inl ⟨hr.groups, hr.bound_eq hk hc hl, hr.attached, rfl⟩
    · rw [hg] at hok; cases hok
  · -- `get_device` fails and the handle `get_group` gave is dropped
    rcases VfioContainer.getGroup_cases c k groupId with ⟨_, hl, hg'⟩ | ⟨-, ⟨_, he⟩, -⟩ |
      ⟨hl, _, hok, ha⟩
    · -- the map's entry
      rw [hg] at hg'; cases hg'
      exact .inl ⟨rfl, rfl, rfl, by simp [heldAfterGetGroup, hl]⟩
    · rw [hg] at he; cases he
    · -- `get_group` created the group
      rw [hg] at hok ha; cases hok
      exact .inr ⟨groupId, group, hp, hl, ⟨e', hd⟩, ha.groups, ha.bound, ha.attached,
        by simp [heldAfterGetGroup, hl]⟩

theorem new_error_cases_non_pci :
    ∃ c₀ c count, VfioContainer.new newReplies = .ok c₀ ∧ UnsetsSucceed newReplies ∧
      VfioContainer.Consistent c₀ ∧
      VfioDevice.new 0 groupOnePath c₀ (fun _ => 0) newReplies nonPciDevice =
        some (.error .vfioDeviceGetInfo, c, count) ∧
      ((c.groups = c₀.groups ∧ c.bound = c₀.bound ∧ c.attached = c₀.attached ∧
          count = fun _ => 0) ∨
        ∃ groupId g, groupOnePath.groupId = some groupId ∧ c₀.groups.lookup groupId = none ∧
          (∃ e', g.getDevice groupOnePath nonPciDevice = .error e') ∧
          c.groups = c₀.groups.insert groupId g ∧ c.bound = insert groupId c₀.bound ∧
          c.attached = insert groupId c₀.attached ∧ count = Function.update (fun _ => 0) g 1) := by
  have hk : UnsetsSucceed newReplies := by simp [UnsetsSucceed, newReplies]
  have hc := (VfioContainer.new_keeps (k := newReplies) rfl).consistent VfioContainer.consistent_empty
  exact ⟨_, _, _, rfl, hk, hc, rfl,
    @new_error_cases 0 groupOnePath _ _ (fun _ => 0) _ newReplies nonPciDevice _ hk hc rfl⟩

/-- A failed `get_device` leaves the group `get_group` created in the map, held by the map. -/
theorem new_device_info_failure_keeps_group :
    ∃ c₀ c count, VfioContainer.new newReplies = .ok c₀ ∧
      VfioDevice.new 0 groupOnePath c₀ (fun _ => 0) newReplies nonPciDevice =
        some (.error .vfioDeviceGetInfo, c, count) ∧
      c₀.groups.lookup 1 = none ∧ 1 ∉ c₀.bound ∧ 1 ∉ c₀.attached ∧
      c.groups.lookup 1 = some ⟨1, 1⟩ ∧ 1 ∈ c.bound ∧ 1 ∈ c.attached ∧ count ⟨1, 1⟩ = 1 :=
  ⟨_, _, _, rfl, rfl, by decide, by decide, by decide, by decide, by decide, by decide, rfl⟩

/-! ### Region positions -/

/-- Region `i ≥ 1` reports `0x100 * i` bytes at `i << 40`; the query of region 0 fails. -/
def skippedRegionInfo (r : Bindings.VfioRegionInfo) : Int × Bindings.VfioRegionInfo :=
  if r.index = 0 then (-1, r)
  else (0, { r with
    flags := vfioRegionInfoFlagRead
    size := UInt64.ofNat (0x100 * r.index.toNat)
    offset := UInt64.ofNat (r.index.toNat * 2 ^ 40) })

/-- A PCI device with nine regions whose region 0 query fails. -/
def skippedRegionDevice : DeviceReplies :=
  ⟨fun _ _ => 3, fun _ => (0, ⟨16, vfioDeviceFlagsPci, 9, 5⟩), skippedRegionInfo,
    fun _ => (-1, memOf []), fun r => (-1, r)⟩

/-- With region 0 skipped, `get_region_size(1)` of the device answers region 2's size. -/
theorem getRegionSize_after_skipped_region :
    ∃ c₀ d c count, VfioContainer.new newReplies = .ok c₀ ∧
      VfioDevice.new 0 groupOnePath c₀ (fun _ => 0) newReplies skippedRegionDevice =
        some (.ok d, c, count) ∧
      (skippedRegionDevice.regionInfo (regionInfoRequest 1)).2.size = 0x100 ∧
      d.getRegionSize 1 = 0x200 :=
  ⟨_, _, _, _, rfl, rfl, rfl, rfl⟩

theorem getElem?_filterMap_of_isSome {α β : Type} {f : α → Option β} :
    ∀ {l : List α}, (∀ x ∈ l, (f x).isSome) → ∀ j : Nat, (l.filterMap f)[j]? = l[j]?.bind f
  | [], _, _ => by simp
  | x :: l, h, j => by
    obtain ⟨y, hy⟩ := Option.isSome_iff_exists.1 (h x (.head _))
    have ih := getElem?_filterMap_of_isSome fun z hz => h z (.tail _ hz)
    cases j <;> simp [List.filterMap_cons, hy, ih]

/-- The region accessors of an opened device read, at position `index`, the `index`-th region
whose query succeeded, in index order, and their default past the last. -/
theorem new_regionField_reported {α : Type} {d : VfioDevice} (field : VfioRegion → α)
    (default : α) (index : UInt32)
    (h : VfioDevice.new fuel sysfspath c count k dk = some (.ok d, c', count')) :
    d.regionField field default index =
        ((((indexRange vfioPciBar0RegionIndex
          (dk.deviceInfo ⟨UInt32.ofNat Bindings.sizeOfVfioDeviceInfo, 0, 0, 0⟩).2.numRegions).filterMap
            fun i => (queryRegion fuel dk i).join)[index.toNat]?).map field).getD default ∧
      ((∀ i ∈ indexRange vfioPciBar0RegionIndex
          (dk.deviceInfo ⟨UInt32.ofNat Bindings.sizeOfVfioDeviceInfo, 0, 0, 0⟩).2.numRegions,
          ((queryRegion fuel dk i).join).isSome) →
        ∀ region, index.toNat <
            (dk.deviceInfo ⟨UInt32.ofNat Bindings.sizeOfVfioDeviceInfo, 0, 0, 0⟩).2.numRegions.toNat →
          (queryRegion fuel dk index).join = some region →
          d.regionField field default index = field region) := by
  obtain ⟨info, hdev, -, hr, -⟩ := VfioDevice.new_ok h
  have hregions : d.regions =
      (indexRange vfioPciBar0RegionIndex info.numRegions).filterMap
        fun i => (queryRegion fuel dk i).join := by
    have hs := getRegionsLoop_isSome hr
    rw [VfioDeviceInfo.getRegions, getRegionsLoop_eq hs, List.nil_append] at hr
    exact (Option.some.inj hr).symm
  rw [← (VfioGroup.getDevice_ok hdev).1, VfioDevice.regionField_eq, hregions]
  refine ⟨rfl, fun hall region hi hq => ?_⟩
  rw [getElem?_filterMap_of_isSome hall, vfioPciBar0RegionIndex, getElem?_indexRange_zero hi]
  simp only [Option.some_bind, hq, Option.map_some', Option.getD_some]

theorem new_regionField_reported_skipped :
    ∃ c₀ d c count, VfioContainer.new newReplies = .ok c₀ ∧
      VfioDevice.new 0 groupOnePath c₀ (fun _ => 0) newReplies skippedRegionDevice =
        some (.ok d, c, count) ∧
      d.regionField VfioRegion.size 0 1 =
        ((((indexRange vfioPciBar0RegionIndex (skippedRegionDevice.deviceInfo
          ⟨UInt32.ofNat Bindings.sizeOfVfioDeviceInfo, 0, 0, 0⟩).2.numRegions).filterMap
            fun i => (queryRegion 0 skippedRegionDevice i).join)[(1 : UInt32).toNat]?).map
              VfioRegion.size).getD 0 ∧
      ((∀ i ∈ indexRange vfioPciBar0RegionIndex (skippedRegionDevice.deviceInfo
          ⟨UInt32.ofNat Bindings.sizeOfVfioDeviceInfo, 0, 0, 0⟩).2.numRegions,
          ((queryRegion 0 skippedRegionDevice i).join).isSome) →
        ∀ region, (1 : UInt32).toNat < (skippedRegionDevice.deviceInfo
            ⟨UInt32.ofNat Bindings.sizeOfVfioDeviceInfo, 0, 0, 0⟩).2.numRegions.toNat →
          (queryRegion 0 skippedRegionDevice 1).join = some region →
          d.regionField VfioRegion.size 0 1 = region.size) :=
  ⟨_, _, _, _, rfl, rfl, @new_regionField_reported 0 groupOnePath
    (((VfioContainer.empty.request newReplies .openContainer).request newReplies
      .getApiVersion).request newReplies (.checkExtension vfioType1v2Iommu)) _ (fun _ => 0) _
    newReplies skippedRegionDevice _ _ VfioRegion.size 0 1 rfl⟩

end VfioIoctls
