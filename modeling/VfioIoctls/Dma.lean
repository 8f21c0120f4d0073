import VfioIoctls.Bindings

/-! Guest memory in the container's IOMMU. `vfio_map_guest_memory` and
`vfio_unmap_guest_memory` call `vfio_dma_map` or `vfio_dma_unmap` for each region through
`try_for_each`, which stops at the first error. The state is the list of DMA requests
issued on the container, and the kernel's answers are functions of a request's position in
it. `CallSpec` says what one call of the loop does; from it we prove once what
`try_for_each` issues and returns, and show that both closures meet one. -/

namespace VfioIoctls

open Bindings

/-- A DMA request on the container. -/
inductive DmaRequest
  | mapDma (dmaMap : VfioIommuType1DmaMap)
  | unmapDma (dmaUnmap : VfioIommuType1DmaUnmap)
  deriving DecidableEq, Repr

/-- The kernel's answers to the DMA requests, by position among those issued. -/
structure DmaReplies where
  ret : Nat → Int
  unmappedSize : Nat → UInt64

/-- A region of guest memory as the closures read it; `hostAddress` is `none` where
`get_host_address` fails. -/
structure GuestRegion where
  startAddr : UInt64
  len : UInt64
  hostAddress : Option UInt64
  deriving DecidableEq, Repr

/-- `iter().try_for_each(f)` over a call that threads a state. -/
def tryForEach {σ α : Type} (f : σ → α → Except VfioError Unit × σ) :
    σ → List α → Except VfioError Unit × σ
  | s, [] => (.ok (), s)
  | s, a :: as =>
    match f s a with
    | (.error e, s') => (.error e, s')
    | (.ok (), s') => tryForEach f s' as

namespace VfioContainer

/-- `vfio_dma_map(iova, size, user_addr)`, after the DMA requests `issued`. -/
def vfioDmaMap (k : DmaReplies) (issued : List DmaRequest) (iova size userAddr : UInt64) :
    Except VfioError Unit × List DmaRequest :=
  let dmaMap : VfioIommuType1DmaMap :=
    { argsz := UInt32.ofNat sizeOfVfioIommuType1DmaMap
      flags := vfioDmaMapFlagRead ||| vfioDmaMapFlagWrite
      vaddr := userAddr
      iova := iova
      size := size }
  (if k.ret issued.length ≠ 0 then .error .iommuDmaMap else .ok (), issued ++ [.mapDma dmaMap])

/-- `vfio_dma_unmap(iova, size)`, after the DMA requests `issued`. -/
def vfioDmaUnmap (k : DmaReplies) (issued : List DmaRequest) (iova size : UInt64) :
    Except VfioError Unit × List DmaRequest :=
  let dmaUnmap : VfioIommuType1DmaUnmap :=
    { argsz := UInt32.ofNat sizeOfVfioIommuType1DmaUnmap
      flags := 0
      iova := iova
      size := size }
  (if k.ret issued.length ≠ 0 ∨ k.unmappedSize issued.length ≠ size then .error .iommuDmaUnmap
    else .ok (), issued ++ [.unmapDma dmaUnmap])

/-- The closure of `vfio_map_guest_memory`. -/
def mapRegion (k : DmaReplies) (issued : List DmaRequest) (region : GuestRegion) :
    Except VfioError Unit × List DmaRequest :=
  match region.hostAddress with
  | none => (.error .iommuDmaMap, issued)
  | some hostAddr => vfioDmaMap k issued region.startAddr region.len hostAddr

/-- `vfio_map_guest_memory(mem)`. -/
def vfioMapGuestMemory (k : DmaReplies) (issued : List DmaRequest) (mem : List GuestRegion) :
    Except VfioError Unit × List DmaRequest :=
  tryForEach (mapRegion k) issued mem

/-- The closure of `vfio_unmap_guest_memory`. -/
def unmapRegion (k : DmaReplies) (issued : List DmaRequest) (region : GuestRegion) :
    Except VfioError Unit × List DmaRequest :=
  vfioDmaUnmap k issued region.startAddr region.len

/-- `vfio_unmap_guest_memory(mem)`. -/
def vfioUnmapGuestMemory (k : DmaReplies) (issued : List DmaRequest) (mem : List GuestRegion) :
    Except VfioError Unit × List DmaRequest :=
  tryForEach (unmapRegion k) issued mem

end VfioContainer

/-! ### What a region's call should do -/

/-- The `VFIO_IOMMU_MAP_DMA` request of a region, if it has a host address. -/
def mapRequest (region : GuestRegion) : Option DmaRequest :=
  region.hostAddress.map fun hostAddr =>
    .mapDma ⟨UInt32.ofNat sizeOfVfioIommuType1DmaMap, vfioDmaMapFlagRead ||| vfioDmaMapFlagWrite,
      hostAddr, region.startAddr, region.len⟩

/-- The `VFIO_IOMMU_UNMAP_DMA` request of a region. -/
def unmapRequest (region : GuestRegion) : DmaRequest :=
  .unmapDma ⟨UInt32.ofNat sizeOfVfioIommuType1DmaUnmap, 0, region.startAddr, region.len⟩

/-- The IOVA range, start and length, that a request maps or unmaps. -/
def DmaRequest.range : DmaRequest → UInt64 × UInt64
  | .mapDma dmaMap => (dmaMap.iova, dmaMap.size)
  | .unmapDma dmaUnmap => (dmaUnmap.iova, dmaUnmap.size)

/-- The region is mapped by the `n`-th DMA request. -/
def Mapped (k : DmaReplies) (n : Nat) (region : GuestRegion) : Prop :=
  region.hostAddress.isSome ∧ k.ret n = 0

/-- The region is fully unmapped by the `n`-th DMA request. -/
def Unmapped (k : DmaReplies) (n : Nat) (region : GuestRegion) : Prop :=
  k.ret n = 0 ∧ k.unmappedSize n = region.len

instance (k : DmaReplies) (n : Nat) (region : GuestRegion) : Decidable (Mapped k n region) :=
  inferInstanceAs (Decidable (_ ∧ _))

instance (k : DmaReplies) (n : Nat) (region : GuestRegion) : Decidable (Unmapped k n region) :=
  inferInstanceAs (Decidable (_ ∧ _))

/-! ### `try_for_each` -/

/-- A call of the loop issues at most one request and succeeds or fails with `err` according
to the answer at that request's position. -/
structure CallSpec {α β : Type} (f : List β → α → Except VfioError Unit × List β)
    (good : Nat → α → Prop) [∀ n a, Decidable (good n a)] (req : α → Option β)
    (e : VfioError) : Prop where
  eq : ∀ issued a,
    f issued a = (if good issued.length a then .ok () else .error e, issued ++ (req a).toList)
  issues : ∀ n a, good n a → (req a).isSome

theorem forall_getElem?_cons {γ : Type} {a : γ} {as : List γ} {P : Nat → γ → Prop} :
    (∀ j b, (a :: as)[j]? = some b → P j b) ↔ P 0 a ∧ ∀ j b, as[j]? = some b → P (j + 1) b := by
  constructor
  · intro h
    exact ⟨h 0 a (by simp), fun j b hb => h (j + 1) b (by simpa using hb)⟩
  · rintro ⟨h0, h⟩ (_ | j) b hb
    · obtain rfl : a = b := by simpa using hb
      exact h0
    · exact h j b (by simpa using hb)

section TryForEach

variable {α β : Type} {f : List β → α → Except VfioError Unit × List β} {good : Nat → α → Prop}
  [∀ n a, Decidable (good n a)] {req : α → Option β} {e : VfioError}

theorem length_snoc_add (issued : List β) (r : β) (j : Nat) :
    (issued ++ [r]).length + j = issued.length + (j + 1) := by
  rw [List.length_append, List.length_singleton, Nat.add_assoc, Nat.add_comm 1]

theorem CallSpec.eq_ok (hf : CallSpec f good req e) {issued : List β} {a : α}
    (ha : good issued.length a) : ∃ r, req a = some r ∧ f issued a = (.ok (), issued ++ [r]) := by
  obtain ⟨r, hr⟩ := Option.isSome_iff_exists.1 (hf.issues _ _ ha)
  exact ⟨r, hr, by rw [hf.eq, if_pos ha, hr]; rfl⟩

/-- When every call succeeds, the loop returns `Ok` with every call's request. -/
theorem tryForEach_of_forall (hf : CallSpec f good req e) (issued : List β) (mem : List α)
    (h : ∀ j a, mem[j]? = some a → good (issued.length + j) a) :
    tryForEach f issued mem = (.ok (), issued ++ mem.filterMap req) := by
  induction mem generalizing issued with
  | nil => simp [tryForEach]
  | cons a as ih =>
    rw [forall_getElem?_cons] at h
    obtain ⟨r, hr, hs⟩ := hf.eq_ok h.1
    rw [tryForEach, hs]
    refine (ih _ fun j b hb => ?_).trans (by simp [hr])
    rw [length_snoc_add]; exact h.2 j b hb

/-- The loop stops at the first call that fails. -/
theorem tryForEach_of_first_failure (hf : CallSpec f good req e) {issued : List β}
    {mem : List α} {j : Nat} {a : α} (ha : mem[j]? = some a)
    (hbefore : ∀ i b, i < j → mem[i]? = some b → good (issued.length + i) b)
    (hj : ¬ good (issued.length + j) a) :
    tryForEach f issued mem = (.error e, issued ++ (mem.take (j + 1)).filterMap req) := by
  induction mem generalizing issued j with
  | nil => simp at ha
  | cons b bs ih =>
    cases j with
    | zero =>
      obtain rfl : b = a := by simpa using ha
      rw [tryForEach, hf.eq, if_neg (by simpa using hj)]
      cases hr : req b <;> simp [hr]
    | succ j =>
      obtain ⟨r, hr, hs⟩ := hf.eq_ok (hbefore 0 b (Nat.succ_pos j) (by simp))
      rw [tryForEach, hs]
      refine (ih (by simpa using ha) (fun i c hi hc => ?_) ?_).trans (by simp [hr])
      · rw [length_snoc_add]; exact hbefore (i + 1) c (by omega) (by simpa using hc)
      · rwa [length_snoc_add]

theorem tryForEach_ok_iff (hf : CallSpec f good req e) (issued : List β) (mem : List α) :
    (tryForEach f issued mem).1 = .ok () ↔ ∀ j a, mem[j]? = some a → good (issued.length + j) a := by
  induction mem generalizing issued with
  | nil => simp [tryForEach]
  | cons a as ih =>
    rw [forall_getElem?_cons]
    by_cases ha : good issued.length a
    · obtain ⟨r, -, hs⟩ := hf.eq_ok ha
      rw [tryForEach, hs]
      simp only [ih, length_snoc_add]
      simp [ha]
    · rw [tryForEach, hf.eq, if_neg ha]
      simp [ha]

end TryForEach

/-! ### The two loops -/

namespace VfioContainer

theorem mapRegion_spec (k : DmaReplies) :
    CallSpec (mapRegion k) (Mapped k) mapRequest .iommuDmaMap where
  eq issued region := by
    rcases region with ⟨startAddr, len, _ | hostAddr⟩
    · simp [mapRegion, Mapped, mapRequest]
    · by_cases h : k.ret issued.length = 0 <;> simp [mapRegion, vfioDmaMap, Mapped, mapRequest, h]
  issues _ _ h := by simpa [mapRequest] using h.1

theorem unmapRegion_spec (k : DmaReplies) :
    CallSpec (unmapRegion k) (Unmapped k) (some ∘ unmapRequest) .iommuDmaUnmap where
  eq issued region := by
    by_cases h₁ : k.ret issued.length = 0 <;> by_cases h₂ : k.unmappedSize issued.length = region.len <;>
      simp [unmapRegion, vfioDmaUnmap, unmapRequest, Unmapped, h₁, h₂]
  issues _ _ _ := rfl

/-- Both loops issue their requests in region order, stop at the first failure, and return
`Ok` exactly when every region was mapped (or fully unmapped). -/
theorem guestMemory_requests_in_order (k : DmaReplies) (issued : List DmaRequest)
    (mem : List GuestRegion) :
    ((∀ j region, mem[j]? = some region → Mapped k (issued.length + j) region) →
        vfioMapGuestMemory k issued mem = (.ok (), issued ++ mem.filterMap mapRequest)) ∧
      (∀ j region, mem[j]? = some region →
        (∀ i r, i < j → mem[i]? = some r → Mapped k (issued.length + i) r) →
        ¬ Mapped k (issued.length + j) region →
        vfioMapGuestMemory k issued mem =
          (.error .iommuDmaMap, issued ++ (mem.take (j + 1)).filterMap mapRequest)) ∧
      ((vfioMapGuestMemory k issued mem).1 = .ok () ↔
        ∀ j region, mem[j]? = some region → Mapped k (issued.length + j) region) ∧
      ((∀ j region, mem[j]? = some region → Unmapped k (issued.length + j) region) →
        vfioUnmapGuestMemory k issued mem = (.ok (), issued ++ mem.map unmapRequest)) ∧
      (∀ j region, mem[j]? = some region →
        (∀ i r, i < j → mem[i]? = some r → Unmapped k (issued.length + i) r) →
        ¬ Unmapped k (issued.length + j) region →
        vfioUnmapGuestMemory k issued mem =
          (.error .iommuDmaUnmap, issued ++ (mem.take (j + 1)).map unmapRequest)) ∧
      ((vfioUnmapGuestMemory k issued mem).1 = .ok () ↔
        ∀ j region, mem[j]? = some region → Unmapped k (issued.length + j) region) :=
  ⟨tryForEach_of_forall (mapRegion_spec k) issued mem,
    fun _ _ ha hbefore hj => tryForEach_of_first_failure (mapRegion_spec k) ha hbefore hj,
    tryForEach_ok_iff (mapRegion_spec k) issued mem,
    fun h => by
      rw [vfioUnmapGuestMemory, tryForEach_of_forall (unmapRegion_spec k) issued mem h,
        List.filterMap_eq_map],
    fun _ _ ha hbefore hj => by
      rw [vfioUnmapGuestMemory, tryForEach_of_first_failure (unmapRegion_spec k) ha hbefore hj,
        List.filterMap_eq_map],
    tryForEach_ok_iff (unmapRegion_spec k) issued mem⟩

theorem mapGuestMemory_stops_at_missing_host :
    vfioMapGuestMemory ⟨fun _ => 0, fun _ => 0⟩ []
        [⟨0, 0x1000, some 0x7f00⟩, ⟨0x1000, 0x1000, none⟩, ⟨0x2000, 0x1000, some 0x9f00⟩] =
      (.error .iommuDmaMap, [.mapDma ⟨32, 3, 0x7f00, 0, 0x1000⟩]) :=
  (guestMemory_requests_in_order ⟨fun _ => 0, fun _ => 0⟩ []
      [⟨0, 0x1000, some 0x7f00⟩, ⟨0x1000, 0x1000, none⟩, ⟨0x2000, 0x1000, some 0x9f00⟩]).2.1 1 _ rfl
    (fun i r hi hr => by
      obtain rfl : i = 0 := by omega
      obtain rfl : r = ⟨0, 0x1000, some 0x7f00⟩ := (Option.some.inj hr).symm
      decide)
    (by decide)

theorem range_filterMap_mapRequest {mem : List GuestRegion}
    (h : ∀ region ∈ mem, region.hostAddress.isSome) :
    (mem.filterMap mapRequest).map DmaRequest.range =
      mem.map fun region => (region.startAddr, region.len) := by
  induction mem with
  | nil => rfl
  | cons region mem ih =>
    obtain ⟨hostAddr, hh⟩ := Option.isSome_iff_exists.1 (h region (.head _))
    simp [mapRequest, hh, DmaRequest.range, ih fun r hr => h r (.tail _ hr)]

/-- An unmap that returns `Ok` after the map did removes the ranges the map added, in order. -/
theorem unmapGuestMemory_undoes_map {k k' : DmaReplies} {issued issued₁ issued₂ : List DmaRequest}
    {mem : List GuestRegion} (hmap : vfioMapGuestMemory k issued mem = (.ok (), issued₁))
    (hunmap : vfioUnmapGuestMemory k' issued₁ mem = (.ok (), issued₂)) :
    (issued₂.drop issued₁.length).map DmaRequest.range =
      (issued₁.drop issued.length).map DmaRequest.range := by
  have hm := (tryForEach_ok_iff (mapRegion_spec k) issued mem).1 (congrArg Prod.fst hmap)
  have hu := (tryForEach_ok_iff (unmapRegion_spec k') issued₁ mem).1 (congrArg Prod.fst hunmap)
  have h₁ := congrArg Prod.snd (hmap.symm.trans (tryForEach_of_forall (mapRegion_spec k) _ _ hm))
  have h₂ := congrArg Prod.snd (hunmap.symm.trans (tryForEach_of_forall (unmapRegion_spec k') _ _ hu))
  have hh : ∀ region ∈ mem, region.hostAddress.isSome := fun region hr =>
    let ⟨j, hj⟩ := List.getElem?_of_mem hr
    (hm j region hj).1
  dsimp only at h₁ h₂
  rw [h₂, List.drop_left, h₁, List.drop_left, range_filterMap_mapRequest hh, List.filterMap_eq_map]
  simp [unmapRequest, DmaRequest.range]

/-- One page of guest memory with its host address. -/
def onePage : List GuestRegion := [⟨0, 0x1000, some 0x7f00⟩]

theorem unmapGuestMemory_undoes_map_one_page :
    vfioMapGuestMemory ⟨fun _ => 0, fun _ => 0⟩ [] onePage =
        (.ok (), [.mapDma ⟨32, 3, 0x7f00, 0, 0x1000⟩]) ∧
      vfioUnmapGuestMemory ⟨fun _ => 0, fun _ => 0x1000⟩ [.mapDma ⟨32, 3, 0x7f00, 0, 0x1000⟩]
          onePage = (.ok (), [.mapDma ⟨32, 3, 0x7f00, 0, 0x1000⟩, .unmapDma ⟨24, 0, 0, 0x1000⟩]) ∧
      ([DmaRequest.mapDma ⟨32, 3, 0x7f00, 0, 0x1000⟩, .unmapDma ⟨24, 0, 0, 0x1000⟩].drop 1).map
          DmaRequest.range = [(0, 0x1000)] :=
  have hmap : vfioMapGuestMemory ⟨fun _ => 0, fun _ => 0⟩ [] onePage =
      (.ok (), [.mapDma ⟨32, 3, 0x7f00, 0, 0x1000⟩]) := rfl
  have hunmap : vfioUnmapGuestMemory ⟨fun _ => 0, fun _ => 0x1000⟩
      [.mapDma ⟨32, 3, 0x7f00, 0, 0x1000⟩] onePage =
        (.ok (), [.mapDma ⟨32, 3, 0x7f00, 0, 0x1000⟩, .unmapDma ⟨24, 0, 0, 0x1000⟩]) := rfl
  ⟨hmap, hunmap, unmapGuestMemory_undoes_map hmap hunmap⟩

end VfioContainer

end VfioIoctls
