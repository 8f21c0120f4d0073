import Mathlib.Data.Nat.Defs
import Mathlib.Algebra.Group.Nat.Basic
import Mathlib.Algebra.Group.Int

/-! The data the code exchanges with the kernel and hands to its callers. The
constants and the request and reply structures are those of the kernel's VFIO
interface as the `vfio_bindings` crate exports it (`linux/vfio.h`), with the byte
sizes `mem::size_of` gives them on a 64-bit target; the structures of the crate
(`VfioRegion`, `VfioIrq`, the region capabilities) and the variants of `VfioError`
the code raises follow `vfio_device.rs`. Payloads that no modelled function reads
(the `io::Error` inside `OpenGroup`, the device `File`) are left out. -/

namespace VfioIoctls

/-! ### Constants -/

def vfioApiVersion : UInt32 := 0

def vfioType1Iommu : UInt32 := 1
def vfioType1v2Iommu : UInt32 := 3

def vfioGroupFlagsViable : UInt32 := 1

def vfioDeviceFlagsReset : UInt32 := 1
def vfioDeviceFlagsPci : UInt32 := 2

def vfioPciBar0RegionIndex : UInt32 := 0
def vfioPciConfigRegionIndex : UInt32 := 7
def vfioPciIntxIrqIndex : UInt32 := 0
def vfioPciMsiIrqIndex : UInt32 := 1
def vfioPciMsixIrqIndex : UInt32 := 2

def vfioRegionInfoFlagRead : UInt32 := 1
def vfioRegionInfoFlagWrite : UInt32 := 2
def vfioRegionInfoFlagCaps : UInt32 := 8

def vfioRegionInfoCapSparseMmap : UInt32 := 1
def vfioRegionInfoCapType : UInt32 := 2
def vfioRegionInfoCapMsixMappable : UInt32 := 3
def vfioRegionInfoCapNvlink2Ssatgt : UInt32 := 4
def vfioRegionInfoCapNvlink2Lnkspd : UInt32 := 5

def vfioIrqSetDataNone : UInt32 := 1
def vfioIrqSetDataEventfd : UInt32 := 4
def vfioIrqSetActionUnmask : UInt32 := 16
def vfioIrqSetActionTrigger : UInt32 := 32

def vfioDmaMapFlagRead : UInt32 := 1
def vfioDmaMapFlagWrite : UInt32 := 2

/-! ### Kernel structures -/

namespace Bindings

/-- `vfio_region_info`: `argsz`, `flags`, `index`, `cap_offset` (four `u32`), then
`size` and `offset` (two `u64`). -/
structure VfioRegionInfo where
  argsz : UInt32
  flags : UInt32
  index : UInt32
  capOffset : UInt32
  size : UInt64
  offset : UInt64
  deriving DecidableEq, Repr

/-- `mem::size_of::<vfio_region_info>()`. -/
def sizeOfVfioRegionInfo : Nat := 32

/-- `vfio_irq_info`. -/
structure VfioIrqInfo where
  argsz : UInt32
  flags : UInt32
  index : UInt32
  count : UInt32
  deriving DecidableEq, Repr

def sizeOfVfioIrqInfo : Nat := 16

/-- `vfio_irq_set` with its trailing `data` bytes. -/
structure VfioIrqSet where
  argsz : UInt32
  flags : UInt32
  index : UInt32
  start : UInt32
  count : UInt32
  data : List UInt8
  deriving DecidableEq, Repr

/-- `mem::size_of::<vfio_irq_set>()`: five `u32`, `data` is an incomplete array. -/
def sizeOfVfioIrqSet : Nat := 20

/-- `vfio_iommu_type1_dma_map`: `argsz` and `flags` (`u32`), then `vaddr`, `iova` and `size`
(`u64`). -/
structure VfioIommuType1DmaMap where
  argsz : UInt32
  flags : UInt32
  vaddr : UInt64
  iova : UInt64
  size : UInt64
  deriving DecidableEq, Repr

def sizeOfVfioIommuType1DmaMap : Nat := 32

/-- `vfio_iommu_type1_dma_unmap`: `argsz` and `flags` (`u32`), then `iova` and `size` (`u64`);
the kernel writes the size it unmapped back into `size`. -/
structure VfioIommuType1DmaUnmap where
  argsz : UInt32
  flags : UInt32
  iova : UInt64
  size : UInt64
  deriving DecidableEq, Repr

def sizeOfVfioIommuType1DmaUnmap : Nat := 24

/-- `vfio_device_info`. -/
structure VfioDeviceInfo where
  argsz : UInt32
  flags : UInt32
  numRegions : UInt32
  numIrqs : UInt32
  deriving DecidableEq, Repr

def sizeOfVfioDeviceInfo : Nat := 16

/-- `mem::size_of::<vfio_info_cap_header>()`: `id` and `version` (`u16`), `next` (`u32`). -/
def sizeOfVfioInfoCapHeader : Nat := 8

/-- `mem::size_of` of `vfio_region_info_cap_type`, `..._nvlink2_ssatgt` and
`..._nvlink2_lnkspd`: the header and eight bytes of payload. -/
def sizeOfVfioRegionInfoCapFixed : Nat := 16

/-- Offset of `areas` in `vfio_region_info_cap_sparse_mmap` (header, `nr_areas`,
`reserved`), and the size of one `vfio_region_sparse_mmap_area`. -/
def sparseMmapAreasOffset : Nat := 16
def sizeOfVfioRegionSparseMmapArea : Nat := 16

end Bindings

/-! ### Crate structures -/

/-- Represent one area of the sparse mmap. -/
structure VfioRegionSparseMmapArea where
  offset : UInt64
  size : UInt64
  deriving DecidableEq, Repr

structure VfioRegionInfoCapSparseMmap where
  areas : List VfioRegionSparseMmapArea
  deriving DecidableEq, Repr

structure VfioRegionInfoCapType where
  type_ : UInt32
  subtype : UInt32
  deriving DecidableEq, Repr

structure VfioRegionInfoCapNvlink2Ssatgt where
  tgt : UInt64
  deriving DecidableEq, Repr

structure VfioRegionInfoCapNvlink2Lnkspd where
  linkSpeed : UInt32
  deriving DecidableEq, Repr

/-- List of capabilities that can be related to a region. -/
inductive VfioRegionInfoCap
  | sparseMmap (cap : VfioRegionInfoCapSparseMmap)
  | type (cap : VfioRegionInfoCapType)
  | msixMappable
  | nvlink2Ssatgt (cap : VfioRegionInfoCapNvlink2Ssatgt)
  | nvlink2Lnkspd (cap : VfioRegionInfoCapNvlink2Lnkspd)
  deriving DecidableEq, Repr

structure VfioRegion where
  flags : UInt32
  size : UInt64
  offset : UInt64
  caps : List VfioRegionInfoCap
  deriving DecidableEq, Repr

structure VfioIrq where
  flags : UInt32
  index : UInt32
  count : UInt32
  deriving DecidableEq, Repr

/-- The variants of `VfioError` that `vfio_device.rs` raises. -/
inductive VfioError
  | openContainer
  | vfioApiVersion
  | vfioExtension
  | openGroup (id : UInt32)
  | getGroupStatus
  | groupViable
  | groupSetContainer
  | vfioInvalidType
  | containerSetIommu
  | setDeviceAttr
  | invalidPath
  | groupGetDeviceFd
  | vfioDeviceGetInfo
  | vfioDeviceGetRegionInfo (ret : Int)
  | vfioDeviceSetIrq
  | iommuDmaMap
  | iommuDmaUnmap
  deriving DecidableEq, Repr

end VfioIoctls
