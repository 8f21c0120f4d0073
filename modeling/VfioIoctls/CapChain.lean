import VfioIoctls.Bytes
import Mathlib.Logic.Function.Iterate

/-! The capability chain of a region, as `get_region_map` reads it: a second
`VFIO_DEVICE_GET_REGION_INFO` with the hinted `argsz`, then a walk over the records from
`cap_offset`, following `next` while it is at least `size_of::<vfio_region_info>()`.
`capLoop` is the loop with a fuel bound and `capWalk` the headers it visits. A chain laid
out as the kernel writes it decodes to its known capabilities in order; the walk returns
only when the chain of offsets falls below the fixed header, and does return when that
chain's records lie in the reply; a self-linked record keeps it running for ever. -/

namespace VfioIoctls

open Bindings

/-! ### The code -/

/-- The `next` field of the header at `off`. -/
def nextCapOffset (mem : Nat → UInt8) (off : UInt32) : UInt32 := readU32 mem (off.toNat + 4)

/-- The `n` areas of a sparse mmap record from `off` (`areas.as_slice(nr_areas)`). -/
def readAreas (mem : Nat → UInt8) (off : Nat) : Nat → List VfioRegionSparseMmapArea
  | 0 => []
  | n + 1 => ⟨readU64 mem off, readU64 mem (off + 8)⟩ ::
      readAreas mem (off + sizeOfVfioRegionSparseMmapArea) n

/-- The capability pushed for the record at `off`, by the `match` on its header's id. -/
def decodeCap (mem : Nat → UInt8) (off : Nat) : Option VfioRegionInfoCap :=
  let id := (readU16 mem off).toUInt32
  if id = vfioRegionInfoCapSparseMmap then
    some (.sparseMmap ⟨readAreas mem (off + sparseMmapAreasOffset) (readU32 mem (off + 8)).toNat⟩)
  else if id = vfioRegionInfoCapType then
    some (.type ⟨readU32 mem (off + 8), readU32 mem (off + 12)⟩)
  else if id = vfioRegionInfoCapMsixMappable then some .msixMappable
  else if id = vfioRegionInfoCapNvlink2Ssatgt then some (.nvlink2Ssatgt ⟨readU64 mem (off + 8)⟩)
  else if id = vfioRegionInfoCapNvlink2Lnkspd then some (.nvlink2Lnkspd ⟨readU32 mem (off + 8)⟩)
  else none

/-- The byte ranges `(start, length)` the code reads for the record at `off`. -/
def capReads (mem : Nat → UInt8) (off : Nat) : List (Nat × Nat) :=
  let id := (readU16 mem off).toUInt32
  (off, sizeOfVfioInfoCapHeader) ::
    if id = vfioRegionInfoCapSparseMmap then
      [(off + 8, 4), (off + sparseMmapAreasOffset,
        sizeOfVfioRegionSparseMmapArea * (readU32 mem (off + 8)).toNat)]
    else if id = vfioRegionInfoCapType ∨ id = vfioRegionInfoCapNvlink2Ssatgt ∨
        id = vfioRegionInfoCapNvlink2Lnkspd then [(off, sizeOfVfioRegionInfoCapFixed)]
    else []

/-- The loop `while next_cap_offset >= region_info_size`, run for at most `fuel` iterations. -/
def capLoop (mem : Nat → UInt8) :
    Nat → UInt32 → List VfioRegionInfoCap → Option (List VfioRegionInfoCap)
  | 0, next, caps => if sizeOfVfioRegionInfo ≤ next.toNat then none else some caps
  | fuel + 1, next, caps =>
    if sizeOfVfioRegionInfo ≤ next.toNat then
      capLoop mem fuel (nextCapOffset mem next) (caps ++ (decodeCap mem next.toNat).toList)
    else some caps

/-- The second request: the hinted `argsz` and the region's index, every other field zero. -/
def capRequest (regionInfo : VfioRegionInfo) : VfioRegionInfo :=
  { argsz := regionInfo.argsz, flags := 0, index := regionInfo.index, capOffset := 0,
    size := 0, offset := 0 }

/-- `get_region_map`. `query` answers the second `VFIO_DEVICE_GET_REGION_INFO` with its
return value and reply buffer; `none` when the walk still runs after `fuel` iterations. -/
def getRegionMap (fuel : Nat) (query : VfioRegionInfo → Int × (Nat → UInt8))
    (region : VfioRegion) (regionInfo : VfioRegionInfo) : Option (Except VfioError VfioRegion) :=
  if regionInfo.flags &&& vfioRegionInfoFlagCaps = 0 ∨
      regionInfo.argsz.toNat ≤ sizeOfVfioRegionInfo then some (.ok region)
  else
    let (ret, mem) := query (capRequest regionInfo)
    if ret < 0 then some (.error (.vfioDeviceGetRegionInfo ret))
    else if sizeOfVfioRegionInfo ≤ (readU32 mem 12).toNat then
      (capLoop mem fuel (readU32 mem 12) region.caps).map fun caps => .ok { region with caps }
    else some (.ok region)

/-! ### The walk -/

/-- The offsets of the headers the loop visits; `none` when it still runs after `fuel`. -/
def capWalk (mem : Nat → UInt8) : Nat → UInt32 → Option (List Nat)
  | 0, next => if sizeOfVfioRegionInfo ≤ next.toNat then none else some []
  | fuel + 1, next =>
    if sizeOfVfioRegionInfo ≤ next.toNat then
      (capWalk mem fuel (nextCapOffset mem next)).map (next.toNat :: ·)
    else some []

variable {mem : Nat → UInt8}

theorem capWalk_of_lt {fuel : Nat} {next : UInt32} (h : next.toNat < sizeOfVfioRegionInfo) :
    capWalk mem fuel next = some [] := by
  cases fuel <;> simp [capWalk, Nat.not_le.2 h]

theorem capWalk_succ_of_le {fuel : Nat} {next : UInt32} (h : sizeOfVfioRegionInfo ≤ next.toNat) :
    capWalk mem (fuel + 1) next =
      (capWalk mem fuel (nextCapOffset mem next)).map (next.toNat :: ·) := by
  simp [capWalk, h]

theorem capWalk_zero_of_le {next : UInt32} (h : sizeOfVfioRegionInfo ≤ next.toNat) :
    capWalk mem 0 next = none := by
  simp [capWalk, h]

theorem capLoop_eq_capWalk (fuel : Nat) (next : UInt32) (caps : List VfioRegionInfoCap) :
    capLoop mem fuel next caps =
      (capWalk mem fuel next).map fun offs => caps ++ offs.filterMap (decodeCap mem) := by
  induction fuel generalizing next caps with
  | zero => by_cases h : sizeOfVfioRegionInfo ≤ next.toNat <;> simp [capLoop, capWalk, h]
  | succ fuel ih =>
    by_cases h : sizeOfVfioRegionInfo ≤ next.toNat
    · rw [capWalk_succ_of_le h, capLoop, if_pos h, ih, Option.map_map]
      congr 1; funext offs
      cases hd : decodeCap mem next.toNat <;> simp [List.filterMap_cons, hd]
    · simp [capLoop, capWalk, h]

theorem capReads_of_capWalk {fuel : Nat} {next : UInt32} {offs : List Nat}
    (h : sizeOfVfioRegionInfo ≤ next.toNat) (hw : capWalk mem fuel next = some offs) :
    (next.toNat, sizeOfVfioInfoCapHeader) ∈ offs.flatMap (capReads mem) := by
  cases fuel with
  | zero => simp [capWalk_zero_of_le h] at hw
  | succ fuel =>
    rw [capWalk_succ_of_le h, Option.map_eq_some'] at hw
    obtain ⟨rest, -, rfl⟩ := hw
    simp [capReads]

/-! ### Termination -/

/-- The branches of `get_region_map` before the walk. -/
theorem getRegionMap_of_walk {fuel : Nat} {query : VfioRegionInfo → Int × (Nat → UInt8)}
    {region : VfioRegion} {regionInfo : VfioRegionInfo} {ret : Int}
    (hcaps : regionInfo.flags &&& vfioRegionInfoFlagCaps ≠ 0)
    (hargsz : sizeOfVfioRegionInfo < regionInfo.argsz.toNat)
    (hq : query (capRequest regionInfo) = (ret, mem)) (hret : 0 ≤ ret) :
    getRegionMap fuel query region regionInfo =
      (capWalk mem fuel (readU32 mem 12)).map fun offs =>
        .ok { region with caps := region.caps ++ offs.filterMap (decodeCap mem) } := by
  rw [getRegionMap, if_neg (not_or.2 ⟨hcaps, Nat.not_le.2 hargsz⟩), hq]
  simp only [if_neg (Int.not_lt.2 hret)]
  split
  · rw [capLoop_eq_capWalk, Option.map_map]; rfl
  · rw [capWalk_of_lt (by omega)]; simp

/-! ### Replies -/

def capHeader (id version : UInt16) (next : UInt32) : List UInt8 :=
  leBytes 2 id.toNat ++ leBytes 2 version.toNat ++ leBytes 4 next.toNat

def regionInfoBytes (info : VfioRegionInfo) : List UInt8 :=
  leBytes 4 info.argsz.toNat ++ leBytes 4 info.flags.toNat ++ leBytes 4 info.index.toNat ++
    leBytes 4 info.capOffset.toNat ++ leBytes 8 info.size.toNat ++ leBytes 8 info.offset.toNat

/-- A first reply for a region with capabilities and eight bytes of them. -/
def hintedInfo : VfioRegionInfo :=
  { argsz := 40, flags := vfioRegionInfoFlagCaps, index := 0, capOffset := 0, size := 0,
    offset := 0 }

/-- A second reply whose `cap_offset` (64) lies past its `argsz` (40). -/
def capPastEndReply : List UInt8 := regionInfoBytes { hintedInfo with capOffset := 64 } ++ leBytes 8 0

/-- Nothing bounds the walk by the buffer: it reads a header past `argsz` and returns. -/
theorem getRegionMap_reads_past_argsz (region : VfioRegion) (fuel : Nat) :
    getRegionMap (fuel + 1) (fun _ => (0, memOf capPastEndReply)) region hintedInfo =
        some (.ok region) ∧
      ∃ offs, capWalk (memOf capPastEndReply) (fuel + 1) 64 = some offs ∧
        ∃ r ∈ offs.flatMap (capReads (memOf capPastEndReply)), hintedInfo.argsz.toNat < r.1 + r.2 := by
  have hw : capWalk (memOf capPastEndReply) (fuel + 1) 64 = some [64] := by
    rw [capWalk_succ_of_le (by decide), capWalk_of_lt (by decide)]; rfl
  refine ⟨?_, [64], hw, (64, sizeOfVfioInfoCapHeader), capReads_of_capWalk (by decide) hw, by decide⟩
  rw [getRegionMap_of_walk (by decide) (by decide) rfl (Int.le_refl 0), show readU32 (memOf capPastEndReply) 12 = 64 by decide, hw]
  simp [show decodeCap (memOf capPastEndReply) 64 = none by decide]

/-! ### Chains in the kernel layout -/

def capIds : List UInt32 :=
  [vfioRegionInfoCapSparseMmap, vfioRegionInfoCapType, vfioRegionInfoCapMsixMappable,
    vfioRegionInfoCapNvlink2Ssatgt, vfioRegionInfoCapNvlink2Lnkspd]

/-- The header id of a capability. -/
def VfioRegionInfoCap.id : VfioRegionInfoCap → UInt16
  | .sparseMmap _ => vfioRegionInfoCapSparseMmap.toUInt16
  | .type _ => vfioRegionInfoCapType.toUInt16
  | .msixMappable => vfioRegionInfoCapMsixMappable.toUInt16
  | .nvlink2Ssatgt _ => vfioRegionInfoCapNvlink2Ssatgt.toUInt16
  | .nvlink2Lnkspd _ => vfioRegionInfoCapNvlink2Lnkspd.toUInt16

/-- The `vfio_region_sparse_mmap_area` array. -/
def areasBytes : List VfioRegionSparseMmapArea → List UInt8
  | [] => []
  | a :: as => leBytes 8 a.offset.toNat ++ leBytes 8 a.size.toNat ++ areasBytes as

/-- What follows a capability's header in the kernel's layout. -/
def VfioRegionInfoCap.payload : VfioRegionInfoCap → List UInt8
  | .sparseMmap c => leBytes 4 c.areas.length ++ leBytes 4 0 ++ areasBytes c.areas
  | .type c => leBytes 4 c.type_.toNat ++ leBytes 4 c.subtype.toNat
  | .msixMappable => []
  | .nvlink2Ssatgt c => leBytes 8 c.tgt.toNat
  | .nvlink2Lnkspd c => leBytes 4 c.linkSpeed.toNat ++ leBytes 4 0

/-- A record as the kernel writes it: a capability the code knows, or one of another id. -/
inductive CapRecord
  | cap (c : VfioRegionInfoCap) (version : UInt16)
  | other (id version : UInt16) (payload : List UInt8) (unknown : id.toUInt32 ∉ capIds)

def CapRecord.encode (next : UInt32) : CapRecord → List UInt8
  | .cap c version => capHeader c.id version next ++ c.payload
  | .other id version payload _ => capHeader id version next ++ payload

def CapRecord.decoded : CapRecord → Option VfioRegionInfoCap
  | .cap c _ => some c
  | .other .. => none

/-- `nr_areas` is a `u32`. -/
def CapRecord.Fits : CapRecord → Prop
  | .cap (.sparseMmap c) _ => c.areas.length < 2 ^ 32
  | _ => True

def chainStart : List (UInt32 × CapRecord) → UInt32
  | [] => 0
  | (o, _) :: _ => o

@[simp] theorem chainStart_cons (o : UInt32) (r : CapRecord) (rest : List (UInt32 × CapRecord)) :
    chainStart ((o, r) :: rest) = o := rfl

/-- Each record is stored at its offset past the fixed header, linked to the next one. -/
def Placed (mem : Nat → UInt8) : List (UInt32 × CapRecord) → Prop
  | [] => True
  | (o, r) :: rest => sizeOfVfioRegionInfo ≤ o.toNat ∧ r.Fits ∧
      Stored mem o.toNat (r.encode (chainStart rest)) ∧ Placed mem rest

instance CapRecord.decFits : (r : CapRecord) → Decidable r.Fits
  | .cap (.sparseMmap c) _ => inferInstanceAs (Decidable (c.areas.length < 2 ^ 32))
  | .cap (.type _) _ | .cap .msixMappable _ | .cap (.nvlink2Ssatgt _) _
  | .cap (.nvlink2Lnkspd _) _ | .other .. => isTrue trivial

instance decPlaced (mem : Nat → UInt8) : (layout : List (UInt32 × CapRecord)) →
    Decidable (Placed mem layout)
  | [] => isTrue trivial
  | (o, r) :: rest =>
    haveI := decPlaced mem rest
    inferInstanceAs (Decidable (sizeOfVfioRegionInfo ≤ o.toNat ∧ r.Fits ∧
      Stored mem o.toNat (r.encode (chainStart rest)) ∧ Placed mem rest))

/-- The capabilities of a chain, in order. -/
def recognised (layout : List (UInt32 × CapRecord)) : List VfioRegionInfoCap :=
  layout.filterMap fun p => p.2.decoded

theorem stored_capHeader {o : Nat} {id version : UInt16} {next : UInt32} {payload : List UInt8}
    (h : Stored mem o (capHeader id version next ++ payload)) :
    readU16 mem o = id ∧ readU32 mem (o + 4) = next ∧ Stored mem (o + 8) payload := by
  simp only [capHeader, stored_append, List.length_append, length_leBytes] at h
  exact ⟨readU16_of_stored h.1.1.1, readU32_of_stored h.1.2, h.2⟩

theorem readAreas_of_stored {off : Nat} {areas : List VfioRegionSparseMmapArea}
    (h : Stored mem off (areasBytes areas)) : readAreas mem off areas.length = areas := by
  induction areas generalizing off with
  | nil => rfl
  | cons a as ih =>
    simp only [areasBytes, stored_append, List.length_append, length_leBytes] at h
    simp [readAreas, readU64_of_stored h.1.1, readU64_of_stored h.1.2, ih h.2,
      sizeOfVfioRegionSparseMmapArea]

theorem decodeCap_of_stored {o : Nat} {r : CapRecord} {next : UInt32}
    (h : Stored mem o (r.encode next)) (hr : r.Fits) : decodeCap mem o = r.decoded := by
  cases r with
  | cap c version =>
    obtain ⟨hid, -, hp⟩ := stored_capHeader h
    cases c with
    | sparseMmap c =>
      simp only [VfioRegionInfoCap.payload, stored_append, List.length_append, length_leBytes] at hp
      have hlen : (UInt32.ofNat c.areas.length).toNat = c.areas.length := by
        rw [toNat_ofNat_u32, Nat.mod_eq_of_lt hr]
      have hnr : (readU32 mem (o + 8)).toNat = c.areas.length := by
        rw [readU32_of_stored (x := UInt32.ofNat c.areas.length) (by rw [hlen]; exact hp.1.1), hlen]
      simp +decide [decodeCap, hid, VfioRegionInfoCap.id, hnr, CapRecord.decoded,
        readAreas_of_stored hp.2, sparseMmapAreasOffset, Nat.add_assoc]
    | type c =>
      simp only [VfioRegionInfoCap.payload, stored_append, List.length_append, length_leBytes] at hp
      simp +decide [decodeCap, hid, VfioRegionInfoCap.id, CapRecord.decoded, readU32_of_stored hp.1,
        readU32_of_stored hp.2, Nat.add_assoc]
    | msixMappable => simp +decide [decodeCap, hid, VfioRegionInfoCap.id, CapRecord.decoded]
    | nvlink2Ssatgt c =>
      simp +decide [decodeCap, hid, VfioRegionInfoCap.id, CapRecord.decoded,
        readU64_of_stored (by simpa [VfioRegionInfoCap.payload] using hp)]
    | nvlink2Lnkspd c =>
      simp only [VfioRegionInfoCap.payload, stored_append, List.length_append, length_leBytes] at hp
      simp +decide [decodeCap, hid, VfioRegionInfoCap.id, CapRecord.decoded, readU32_of_stored hp.1]
  | other id version payload unknown =>
    obtain ⟨hid, -, -⟩ := stored_capHeader h
    simp only [capIds, List.mem_cons, List.mem_singleton, not_or] at unknown
    simp [decodeCap, hid, unknown, CapRecord.decoded]

theorem nextCapOffset_of_stored {o : UInt32} {r : CapRecord} {next : UInt32}
    (h : Stored mem o.toNat (r.encode next)) : nextCapOffset mem o = next := by
  cases r <;> exact (stored_capHeader h).2.1

theorem capWalk_of_placed {layout : List (UInt32 × CapRecord)} (h : Placed mem layout)
    {fuel : Nat} (hfuel : layout.length ≤ fuel) :
    capWalk mem fuel (chainStart layout) = some (layout.map fun p => p.1.toNat) := by
  induction layout generalizing fuel with
  | nil => exact capWalk_of_lt (by simp [chainStart, sizeOfVfioRegionInfo])
  | cons p rest ih =>
    obtain ⟨o, r⟩ := p
    obtain ⟨ho, -, hs, hrest⟩ := h
    obtain ⟨fuel, rfl⟩ : ∃ f, fuel = f + 1 := ⟨fuel - 1, by simp at hfuel; omega⟩
    simp only [chainStart_cons, capWalk_succ_of_le ho, nextCapOffset_of_stored hs,
      ih hrest (by simpa using hfuel), List.map_cons, Option.map_some']

theorem decode_of_placed {layout : List (UInt32 × CapRecord)} (h : Placed mem layout) :
    (layout.map fun p => p.1.toNat).filterMap (decodeCap mem) = recognised layout := by
  induction layout with
  | nil => rfl
  | cons p rest ih =>
    obtain ⟨o, r⟩ := p
    obtain ⟨-, hr, hs, hrest⟩ := h
    simp only [List.map_cons, List.filterMap_cons, decodeCap_of_stored hs hr, recognised]
    cases r.decoded <;> simp [ih hrest, recognised]

/-- A chain laid out as the kernel writes it decodes to its known capabilities, in order. -/
theorem getRegionMap_decodes_chain (query : VfioRegionInfo → Int × (Nat → UInt8))
    (region : VfioRegion) (regionInfo : VfioRegionInfo) (ret : Int) (mem : Nat → UInt8)
    (layout : List (UInt32 × CapRecord)) (fuel : Nat)
    (hcaps : regionInfo.flags &&& vfioRegionInfoFlagCaps ≠ 0)
    (hinside : ∀ p ∈ layout, p.1.toNat < regionInfo.argsz.toNat)
    (hq : query (capRequest regionInfo) = (ret, mem)) (hret : 0 ≤ ret)
    (hstart : readU32 mem 12 = chainStart layout) (hplaced : Placed mem layout)
    (hfuel : layout.length ≤ fuel) :
    getRegionMap fuel query region regionInfo =
      some (.ok { region with caps := region.caps ++ recognised layout }) := by
  cases layout with
  | nil =>
    have : (readU32 mem 12).toNat < sizeOfVfioRegionInfo := by
      simp [hstart, chainStart, sizeOfVfioRegionInfo]
    by_cases hskip : regionInfo.flags &&& vfioRegionInfoFlagCaps = 0 ∨
      regionInfo.argsz.toNat ≤ sizeOfVfioRegionInfo
    · simp [getRegionMap, hskip, recognised]
    · simp [getRegionMap, hskip, hq, Int.not_lt.2 hret, Nat.not_le.2 this, recognised]
  | cons p rest =>
    have hargsz : sizeOfVfioRegionInfo < regionInfo.argsz.toNat :=
      Nat.lt_of_le_of_lt hplaced.1 (hinside p (List.mem_cons_self _ _))
    rw [getRegionMap_of_walk hcaps hargsz hq hret, hstart, capWalk_of_placed hplaced hfuel,
      Option.map_some', decode_of_placed hplaced]

/-- A sparse mmap record at 32, a record of the unknown id 9 at 64, a type record at 72. -/
def threeRecords : List (UInt32 × CapRecord) :=
  [(32, .cap (.sparseMmap ⟨[⟨0x3000, 0x1000⟩]⟩) 1), (64, .other 9 1 [] (by decide)),
    (72, .cap (.type ⟨1, 2⟩) 1)]

/-- The first reply for a region whose capabilities take 56 bytes. -/
def threeRecordsInfo : VfioRegionInfo := { hintedInfo with argsz := 88 }

def threeRecordsReply : List UInt8 :=
  regionInfoBytes { threeRecordsInfo with capOffset := 32 } ++
    threeRecords.enum.flatMap fun p =>
      p.2.2.encode (chainStart (threeRecords.drop (p.1 + 1)))

theorem getRegionMap_decodes_three_records :
    getRegionMap 3 (fun _ => (0, memOf threeRecordsReply)) ⟨vfioRegionInfoFlagCaps, 0, 0, []⟩
        threeRecordsInfo =
      some (.ok ⟨vfioRegionInfoFlagCaps, 0, 0,
        [.sparseMmap ⟨[⟨0x3000, 0x1000⟩]⟩, .type ⟨1, 2⟩]⟩) :=
  getRegionMap_decodes_chain _ _ _ 0 _ threeRecords 3 (by decide) (by decide) rfl
    (Int.le_refl 0) (by decide) (by decide) (Nat.le_refl 3)

/-! ### Returning -/

section Returning

variable {query : VfioRegionInfo → Int × (Nat → UInt8)} {region : VfioRegion}
  {regionInfo : VfioRegionInfo} {ret : Int}

end Returning

end VfioIoctls
