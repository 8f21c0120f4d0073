import VfioIoctls.Bindings
import Mathlib.Data.List.AList
import Mathlib.Data.Finset.Basic

/-! The container and its groups. The state is the code's group map together with what its
requests drive outside the process: the groups bound to the container, the groups the
hypervisor's VFIO device has attached, the files the kernel has opened, and the requests
issued. A call is answered by any `Replies`, so every request, the rollback and teardown
ones included, may fail. `get_group` and `put_group` run under the map lock and are one
function each; `put_group` takes `Arc::strong_count` as an argument and returns the handle
`hash.remove` drops, so that the thread model can count holders. -/

namespace VfioIoctls

/-- A request of the lifecycle code: an `open`, an `ioctl`, or `set_device_attr`. -/
inductive Request
  | openContainer
  | getApiVersion
  | checkExtension (val : UInt32)
  | openGroup (id : UInt32)
  | groupGetStatus (id : UInt32)
  | groupSetContainer (id : UInt32)
  | setIommu (val : UInt32)
  | groupUnsetContainer (id : UInt32)
  | deviceAddGroup (id : UInt32)
  | deviceDelGroup (id : UInt32)
  deriving DecidableEq, Repr

/-- The return value of each request of a call, and the group flags it reports. -/
structure Replies where
  ret : Request → Int
  groupFlags : UInt32 → UInt32

/-- A `VfioGroup`: its id and its group file, numbered in the order the kernel opened it. -/
structure VfioGroup where
  id : UInt32
  group : Nat
  deriving DecidableEq, Repr

/-- The container's map `groups` and the state its requests drive. -/
structure VfioContainer where
  groups : AList (fun _ : UInt32 => VfioGroup)
  bound : Finset UInt32
  attached : Finset UInt32
  files : Nat
  issued : List Request

theorem lookup_insert_eq_ite {β : Type} {m : AList fun _ : UInt32 => β} {a a' : UInt32} {b : β} :
    (m.insert a' b).lookup a = if a = a' then some b else m.lookup a := by
  split
  · next h => rw [h, AList.lookup_insert]
  · next h => rw [AList.lookup_insert_ne h]

theorem lookup_erase_eq_ite {β : Type} {m : AList fun _ : UInt32 => β} {a a' : UInt32} :
    (m.erase a').lookup a = if a = a' then none else m.lookup a := by
  split
  · next h => rw [h, AList.lookup_erase]
  · next h => rw [AList.lookup_erase_ne h]

theorem erase_insert_of_not_mem {β : Type} {m : AList fun _ : UInt32 => β} {a : UInt32} {b : β}
    (h : a ∉ m) : (m.insert a b).erase a = m :=
  AList.ext (by rw [AList.insert_of_neg h]; exact List.kerase_cons_eq rfl)

namespace Request

/-- The groups bound to the container once the request has succeeded. -/
def bind : Request → Finset UInt32 → Finset UInt32
  | .groupSetContainer id, s => insert id s
  | .groupUnsetContainer id, s => s.erase id
  | _, s => s

/-- The groups attached to the hypervisor's device once the request has succeeded. -/
def attach : Request → Finset UInt32 → Finset UInt32
  | .deviceAddGroup id, s => insert id s
  | .deviceDelGroup id, s => s.erase id
  | _, s => s

/-- The files the request opens when it succeeds. -/
def opens : Request → Nat
  | .openContainer | .openGroup _ => 1
  | _ => 0

end Request

namespace VfioContainer

/-- Issue a request: record it and, unless it fails, apply its effect. -/
def request (c : VfioContainer) (k : Replies) (r : Request) : VfioContainer :=
  if k.ret r < 0 then { c with issued := c.issued ++ [r] }
  else { c with bound := r.bind c.bound, attached := r.attach c.attached,
                files := c.files + r.opens, issued := c.issued ++ [r] }

variable {c : VfioContainer} {k : Replies} {r : Request}

@[simp] theorem request_groups : (c.request k r).groups = c.groups := by
  unfold request; split <;> rfl

@[simp] theorem request_issued : (c.request k r).issued = c.issued ++ [r] := by
  unfold request; split <;> rfl

theorem request_bound : (c.request k r).bound = if k.ret r < 0 then c.bound else r.bind c.bound := by
  unfold request; split <;> rfl

theorem request_attached :
    (c.request k r).attached = if k.ret r < 0 then c.attached else r.attach c.attached := by
  unfold request; split <;> rfl

theorem request_files : (c.request k r).files = if k.ret r < 0 then c.files else c.files + r.opens := by
  unfold request; split <;> rfl

/-- The requests issued between two states. -/
def issuedSince (c c' : VfioContainer) : List Request := c'.issued.drop c.issued.length

/-- The state before `VfioContainer::new`: nothing opened, bound or attached. -/
def empty : VfioContainer := ⟨∅, ∅, ∅, 0, []⟩

/-- `ret as u32` for the `c_int` an `ioctl` returns. -/
def asU32 (ret : Int) : UInt32 := UInt32.ofNat (ret % 2 ^ 32).toNat

/-- `VfioContainer::check_api_version`. -/
def checkApiVersion (c : VfioContainer) (k : Replies) : Except VfioError Unit × VfioContainer :=
  let c := c.request k .getApiVersion
  (if asU32 (k.ret .getApiVersion) ≠ vfioApiVersion then .error .vfioApiVersion else .ok (), c)

/-- `VfioContainer::check_extension`. -/
def checkExtension (c : VfioContainer) (k : Replies) (val : UInt32) :
    Except VfioError Unit × VfioContainer :=
  if val ≠ vfioType1Iommu ∧ val ≠ vfioType1v2Iommu then (.error .vfioInvalidType, c) else
  let c := c.request k (.checkExtension val)
  (if k.ret (.checkExtension val) ≠ 1 then .error .vfioExtension else .ok (), c)

/-- `VfioContainer::new`: the container starts with an empty map. -/
def new (k : Replies) : Except VfioError VfioContainer :=
  let c := empty.request k .openContainer
  if k.ret .openContainer < 0 then .error .openContainer else
  match c.checkApiVersion k with
  | (.error e, _) => .error e
  | (.ok (), c) =>
    match c.checkExtension k vfioType1v2Iommu with
    | (.error e, _) => .error e
    | (.ok (), c) => .ok c

/-- `VfioContainer::set_iommu`. -/
def setIommu (c : VfioContainer) (k : Replies) (val : UInt32) : Except VfioError Unit × VfioContainer :=
  if val ≠ vfioType1Iommu ∧ val ≠ vfioType1v2Iommu then (.error .vfioInvalidType, c) else
  let c := c.request k (.setIommu val)
  (if k.ret (.setIommu val) < 0 then .error .containerSetIommu else .ok (), c)

/-- `set_device_attr`, the body of `device_add_group` and `device_del_group`. -/
def setDeviceAttr (c : VfioContainer) (k : Replies) (r : Request) : Except VfioError Unit × VfioContainer :=
  (if k.ret r < 0 then .error .setDeviceAttr else .ok (), c.request k r)

def deviceAddGroup (c : VfioContainer) (k : Replies) (group : VfioGroup) :=
  c.setDeviceAttr k (.deviceAddGroup group.id)

def deviceDelGroup (c : VfioContainer) (k : Replies) (group : VfioGroup) :=
  c.setDeviceAttr k (.deviceDelGroup group.id)

end VfioContainer

/-- `VfioGroup::new`: open the group, then require `VFIO_GROUP_FLAGS_VIABLE` exactly. -/
def VfioGroup.new (c : VfioContainer) (k : Replies) (id : UInt32) :
    Except VfioError VfioGroup × VfioContainer :=
  let group := c.files
  let c := c.request k (.openGroup id)
  if k.ret (.openGroup id) < 0 then (.error (.openGroup id), c) else
  let c := c.request k (.groupGetStatus id)
  if k.ret (.groupGetStatus id) < 0 then (.error .getGroupStatus, c)
  else if k.groupFlags id ≠ vfioGroupFlagsViable then (.error .groupViable, c)
  else (.ok ⟨id, group⟩, c)

namespace VfioContainer

/-- `VfioContainer::get_group` under the map lock. Its two rollbacks ignore the status of
their unbind. -/
def getGroup (c : VfioContainer) (k : Replies) (groupId : UInt32) :
    Except VfioError VfioGroup × VfioContainer :=
  match c.groups.lookup groupId with
  | some entry => (.ok entry, c)
  | none =>
    match VfioGroup.new c k groupId with
    | (.error e, c) => (.error e, c)
    | (.ok group, c) =>
      let c := c.request k (.groupSetContainer groupId)
      if k.ret (.groupSetContainer groupId) < 0 then (.error .groupSetContainer, c) else
      match (if c.groups.entries.length = 0 then c.setIommu k vfioType1v2Iommu else (.ok (), c)) with
      | (.error e, c) => (.error e, c.request k (.groupUnsetContainer groupId))
      | (.ok (), c) =>
        match c.deviceAddGroup k group with
        | (.error e, c) => (.error e, c.request k (.groupUnsetContainer groupId))
        | (.ok (), c) => (.ok group, { c with groups := c.groups.insert groupId group })

/-- `VfioContainer::put_group` under the map lock, given `Arc::strong_count`; the second
component is the handle `hash.remove` drops. -/
def putGroup (c : VfioContainer) (k : Replies) (group : VfioGroup) (strongCount : Nat) :
    VfioContainer × Option VfioGroup :=
  if strongCount = 3 then
    match c.deviceDelGroup k group with
    | (.error _, c) => (c, none)
    | (.ok (), c) =>
      let c := c.request k (.groupUnsetContainer group.id)
      if k.ret (.groupUnsetContainer group.id) < 0 then (c, none)
      else ({ c with groups := c.groups.erase group.id }, c.groups.lookup group.id)
  else (c, none)

/-! ### What one call changes -/

variable {c : VfioContainer} {k : Replies} {groupId : UInt32} {r : Request}

/-- A call that changes neither the map nor what is bound or attached. -/
structure Keeps (c c' : VfioContainer) : Prop where
  groups : c'.groups = c.groups
  bound : c'.bound = c.bound
  attached : c'.attached = c.attached
  files : c.files ≤ c'.files

theorem Keeps.refl : Keeps c c := ⟨rfl, rfl, rfl, le_rfl⟩

theorem Keeps.trans {c₁ c₂ c₃ : VfioContainer} (h₁ : Keeps c₁ c₂) (h₂ : Keeps c₂ c₃) : Keeps c₁ c₃ :=
  ⟨h₂.groups.trans h₁.groups, h₂.bound.trans h₁.bound, h₂.attached.trans h₁.attached,
    h₁.files.trans h₂.files⟩

theorem keeps_request (hb : ∀ s, r.bind s = s) (ha : ∀ s, r.attach s = s) :
    Keeps c (c.request k r) :=
  ⟨request_groups, by rw [request_bound]; split <;> simp [hb],
    by rw [request_attached]; split <;> simp [ha], by rw [request_files]; split <;> omega⟩

theorem keeps_request_of_neg (h : k.ret r < 0) : Keeps c (c.request k r) :=
  ⟨request_groups, by simp [request_bound, h], by simp [request_attached, h],
    by simp [request_files, h]⟩

theorem keeps_setIommu (val : UInt32) : Keeps c (c.setIommu k val).2 := by
  unfold setIommu; split
  · exact Keeps.refl
  · exact keeps_request (fun _ => rfl) (fun _ => rfl)

theorem keeps_ite_setIommu {p : Prop} [Decidable p] {val : UInt32} {e : Except VfioError Unit}
    {c' : VfioContainer} (h : (if p then c.setIommu k val else (.ok (), c)) = (e, c')) :
    Keeps c c' := by
  split at h
  · have : c' = (c.setIommu k val).2 := by rw [h]
    exact this ▸ keeps_setIommu val
  · cases h; exact Keeps.refl

theorem ite_setIommu_issued {p : Prop} [Decidable p] {e : Except VfioError Unit}
    {c' : VfioContainer} (h : (if p then c.setIommu k vfioType1v2Iommu else (.ok (), c)) = (e, c')) :
    c'.issued = c.issued ++ if p then [.setIommu vfioType1v2Iommu] else [] := by
  split at h
  · have : c' = (c.setIommu k vfioType1v2Iommu).2 := by rw [h]
    simp [this, setIommu, vfioType1v2Iommu, vfioType1Iommu, *]
  · cases h; simp [*]

theorem setDeviceAttr_eq {e : Except VfioError Unit} {c' : VfioContainer}
    (h : c.setDeviceAttr k r = (e, c')) : c' = c.request k r ∧ (e = .ok () ↔ 0 ≤ k.ret r) := by
  unfold setDeviceAttr at h
  split at h <;> cases h <;> simp_all

end VfioContainer

section

variable {c : VfioContainer} {k : Replies} {groupId : UInt32}

theorem VfioGroup.new_keeps {r : Except VfioError VfioGroup} {c' : VfioContainer}
    (h : VfioGroup.new c k groupId = (r, c')) : VfioContainer.Keeps c c' := by
  have h₁ := VfioContainer.keeps_request (c := c) (k := k) (r := .openGroup groupId) (fun _ => rfl) (fun _ => rfl)
  have h₂ := VfioContainer.keeps_request (c := c.request k (.openGroup groupId)) (k := k)
    (r := .groupGetStatus groupId) (fun _ => rfl) (fun _ => rfl)
  unfold VfioGroup.new at h
  split at h
  · cases h; exact h₁
  · split at h <;> [skip; split at h] <;> (cases h; exact h₁.trans h₂)

theorem VfioGroup.new_issued : ∃ rs, (VfioGroup.new c k groupId).2.issued = c.issued ++ rs ∧
    ∀ r ∈ rs, r = .openGroup groupId ∨ r = .groupGetStatus groupId := by
  unfold VfioGroup.new
  split
  · exact ⟨_, VfioContainer.request_issued, by simp⟩
  · refine ⟨[.openGroup groupId, .groupGetStatus groupId], ?_, by simp⟩
    split <;> [skip; split] <;> simp

theorem VfioGroup.new_ok {g : VfioGroup} {c' : VfioContainer} (h : VfioGroup.new c k groupId = (.ok g, c')) :
    g = ⟨groupId, c.files⟩ ∧ c'.files = c.files + 1 := by
  unfold VfioGroup.new at h
  split at h
  · cases h
  · split at h
    · cases h
    · split at h
      · cases h
      · cases h
        simp_all [VfioContainer.request_files, Request.opens]

end

namespace VfioContainer

variable {c : VfioContainer} {k : Replies} {groupId : UInt32}

/-- `get_group` issued `VFIO_SET_IOMMU` exactly when it bound the group to an empty map. -/
def SelectsIommu (c c' : VfioContainer) (k : Replies) (groupId : UInt32) : Prop :=
  Request.setIommu vfioType1v2Iommu ∈ issuedSince c c' ↔
    Request.groupSetContainer groupId ∈ issuedSince c c' ∧ 0 ≤ k.ret (.groupSetContainer groupId) ∧
      c.groups.entries = []

/-- After a failed `get_group` of a group not in the map; a rollback whose unbind failed
leaves the group bound. -/
structure RolledBack (c c' : VfioContainer) (k : Replies) (groupId : UInt32) : Prop where
  groups : c'.groups = c.groups
  attached : c'.attached = c.attached
  bound : c'.bound = c.bound ∨ c'.bound = (insert groupId c.bound).erase groupId ∨
    (c'.bound = insert groupId c.bound ∧ k.ret (.groupUnsetContainer groupId) < 0)
  files : c.files ≤ c'.files
  iommu : SelectsIommu c c' k groupId

/-- After a successful `get_group` of a group not in the map. -/
structure Added (c c' : VfioContainer) (k : Replies) (groupId : UInt32) (g : VfioGroup) : Prop where
  group : g = ⟨groupId, c.files⟩
  groups : c'.groups = c.groups.insert groupId g
  bound : c'.bound = insert groupId c.bound
  attached : c'.attached = insert groupId c.attached
  files : c.files < c'.files
  iommu : SelectsIommu c c' k groupId

theorem Keeps.rolledBack {c' : VfioContainer} (h : Keeps c c') (hi : SelectsIommu c c' k groupId) :
    RolledBack c c' k groupId :=
  ⟨h.groups, h.attached, .inl h.bound, h.files, hi⟩

theorem rolledBack_unset {c₁ c₂ : VfioContainer} (h₁ : Keeps c c₁)
    (h₂ : Keeps (c₁.request k (.groupSetContainer groupId)) c₂)
    (hi : SelectsIommu c (c₂.request k (.groupUnsetContainer groupId)) k groupId) :
    RolledBack c (c₂.request k (.groupUnsetContainer groupId)) k groupId := by
  refine ⟨by simp [h₂.groups, h₁.groups], ?_, ?_, ?_, hi⟩
  · simp [request_attached, Request.attach, h₂.attached, h₁.attached]
  · have := h₂.bound
    simp only [request_bound, Request.bind, h₁.bound] at this ⊢
    split_ifs at this ⊢ <;> simp_all
  · have := h₂.files
    simp only [request_files, Request.opens, add_zero, ite_self] at this ⊢
    exact h₁.files.trans this

theorem getGroup_of_lookup {g : VfioGroup} (h : c.groups.lookup groupId = some g) :
    c.getGroup k groupId = (.ok g, c) := by
  simp [getGroup, h]

/-- Every outcome of `get_group`. -/
theorem getGroup_cases (c : VfioContainer) (k : Replies) (groupId : UInt32) :
    (∃ g, c.groups.lookup groupId = some g ∧ c.getGroup k groupId = (.ok g, c)) ∨
    (c.groups.lookup groupId = none ∧ (∃ e, (c.getGroup k groupId).1 = .error e) ∧
      RolledBack c (c.getGroup k groupId).2 k groupId) ∨
    (c.groups.lookup groupId = none ∧ ∃ g, (c.getGroup k groupId).1 = .ok g ∧
      Added c (c.getGroup k groupId).2 k groupId g) := by
  rcases hl : c.groups.lookup groupId with _ | g
  · right
    have hl' : c.groups.entries.length = 0 ↔ c.groups.entries = [] := List.length_eq_zero
    obtain ⟨rs, hrs, hmem⟩ := @VfioGroup.new_issued c k groupId
    have hset : Request.groupSetContainer groupId ∉ rs := fun h => by rcases hmem _ h with h | h <;> cases h
    have hiom : Request.setIommu vfioType1v2Iommu ∉ rs := fun h => by rcases hmem _ h with h | h <;> cases h
    rcases hn : VfioGroup.new c k groupId with ⟨_ | g, c₁⟩
    · simp only [hn] at hrs
      simp only [getGroup, hl, hn]
      exact .inl ⟨trivial, ⟨_, rfl⟩, (VfioGroup.new_keeps hn).rolledBack
        (by simp [SelectsIommu, issuedSince, hrs, hset, hiom])⟩
    · obtain ⟨rfl, hf⟩ := VfioGroup.new_ok hn
      simp only [hn] at hrs
      have h₁ := VfioGroup.new_keeps hn
      simp only [getGroup, hl, hn]
      split
      next hs =>
        refine .inl ⟨trivial, ⟨_, rfl⟩, (h₁.trans (keeps_request_of_neg hs)).rolledBack ?_⟩
        simp [SelectsIommu, issuedSince, hrs, hset, hiom, not_le.mpr hs]
      next hs =>
        split
        next e c₃ h₃ =>
          have hp : (c₁.request k (.groupSetContainer groupId)).groups.entries.length = 0 := by
            by_contra hp; rw [if_neg hp] at h₃; cases h₃
          have hi := ite_setIommu_issued h₃
          rw [if_pos hp] at hi
          refine .inl ⟨trivial, ⟨_, rfl⟩, rolledBack_unset h₁ (keeps_ite_setIommu h₃) ?_⟩
          simp only [request_groups, h₁.groups, hl'] at hp
          simp [SelectsIommu, issuedSince, hi, hrs, hset, hiom, not_lt.mp hs, hp]
        next c₃ h₃ =>
          have hk₃ := keeps_ite_setIommu h₃
          have hi := ite_setIommu_issued h₃
          simp only [request_groups, h₁.groups, hl'] at hi
          split
          next e c₄ h₄ =>
            obtain ⟨rfl, hr⟩ := setDeviceAttr_eq h₄
            have hk₄ := hk₃.trans (keeps_request_of_neg (by simpa using hr))
            refine .inl ⟨trivial, ⟨_, rfl⟩, rolledBack_unset h₁ hk₄ ?_⟩
            by_cases hp : c.groups.entries = [] <;>
              simp [SelectsIommu, issuedSince, hi, hrs, hset, hiom, not_lt.mp hs, hp]
          next c₄ h₄ =>
            obtain ⟨rfl, hr⟩ := setDeviceAttr_eq h₄
            have hr : 0 ≤ k.ret (.deviceAddGroup groupId) := by simpa using hr
            refine .inr ⟨trivial, _, rfl, rfl, ?_, ?_, ?_, ?_, ?_⟩
            · simp [hk₃.groups, h₁.groups]
            · simp [request_bound, Request.bind, hr, hk₃.bound.trans, hs, h₁.bound]
            · simp [request_attached, Request.attach, hr, hk₃.attached, hs, h₁.attached]
            · have := hk₃.files
              simp only [request_files, Request.opens, add_zero, ite_self] at this ⊢
              omega
            · by_cases hp : c.groups.entries = [] <;>
                simp [SelectsIommu, issuedSince, hi, hrs, hset, hiom, not_lt.mp hs, hp]
  · exact .inl ⟨g, rfl, getGroup_of_lookup hl⟩

/-- After `put_group` has detached the group but failed to unbind it. -/
structure Detached (c c' : VfioContainer) (groupId : UInt32) : Prop where
  groups : c'.groups = c.groups
  bound : c'.bound = c.bound
  attached : c'.attached = c.attached.erase groupId
  files : c'.files = c.files

/-- After `put_group` has detached, unbound and removed the group. -/
structure Removed (c c' : VfioContainer) (groupId : UInt32) : Prop where
  groups : c'.groups = c.groups.erase groupId
  bound : c'.bound = c.bound.erase groupId
  attached : c'.attached = c.attached.erase groupId
  files : c'.files = c.files

theorem putGroup_of_ne (k : Replies) (group : VfioGroup) {n : Nat} (h : n ≠ 3) :
    c.putGroup k group n = (c, none) := by
  simp [putGroup, h]

/-- Every outcome of `put_group`: nothing changed, detached only, or torn down. -/
theorem putGroup_cases (c : VfioContainer) (k : Replies) (group : VfioGroup) (n : Nat) :
    ((c.putGroup k group n).2 = none ∧ Keeps c (c.putGroup k group n).1) ∨
    (n = 3 ∧ (c.putGroup k group n).2 = none ∧ k.ret (.groupUnsetContainer group.id) < 0 ∧
      Detached c (c.putGroup k group n).1 group.id) ∨
    (n = 3 ∧ (c.putGroup k group n).2 = c.groups.lookup group.id ∧
      Removed c (c.putGroup k group n).1 group.id) := by
  unfold putGroup
  split
  next hn =>
    split
    next e c₁ h₁ =>
      obtain ⟨rfl, hr⟩ := setDeviceAttr_eq h₁
      exact .inl ⟨rfl, keeps_request_of_neg (by simpa using hr)⟩
    next c₁ h₁ =>
      obtain ⟨rfl, hr⟩ := setDeviceAttr_eq h₁
      have hr : 0 ≤ k.ret (.deviceDelGroup group.id) := by simpa using hr
      split
      next hu =>
        refine .inr (.inl ⟨hn, rfl, hu, by simp, ?_, ?_, ?_⟩)
        · simp [request_bound, hu, Request.bind]
        · simp [request_attached, hu, hr, Request.attach]
        · simp [request_files, hu, hr, Request.opens]
      next hu =>
        refine .inr (.inr ⟨hn, by simp, by simp, ?_, ?_, ?_⟩)
        · simp [request_bound, hu, hr, Request.bind]
        · simp [request_attached, hu, hr, Request.attach]
        · simp [request_files, hu, hr, Request.opens]
  next => exact .inl ⟨rfl, Keeps.refl⟩

theorem putGroup_three (k : Replies) (group : VfioGroup)
    (hdel : 0 ≤ k.ret (.deviceDelGroup group.id)) (hunset : 0 ≤ k.ret (.groupUnsetContainer group.id)) :
    (c.putGroup k group 3).2 = c.groups.lookup group.id ∧
      Removed c (c.putGroup k group 3).1 group.id := by
  have hd : c.deviceDelGroup k group = (.ok (), c.request k (.deviceDelGroup group.id)) := by
    simp [deviceDelGroup, setDeviceAttr, not_lt.2 hdel]
  simp only [putGroup, if_pos rfl, hd, if_neg (not_lt.2 hunset)]
  refine ⟨by simp, by simp, ?_, ?_, ?_⟩ <;>
    simp [request_bound, request_attached, request_files, not_lt.2 hdel, not_lt.2 hunset,
      Request.bind, Request.attach, Request.opens]

/-- `VfioContainer::new` starts from nothing bound or attached and an empty map. -/
theorem new_keeps (h : VfioContainer.new k = .ok c) : Keeps empty c := by
  have h₁ := keeps_request (c := empty) (k := k) (r := .openContainer) (fun _ => rfl) (fun _ => rfl)
  have h₂ := keeps_request (c := empty.request k .openContainer) (k := k) (r := .getApiVersion)
    (fun _ => rfl) (fun _ => rfl)
  have h₃ := keeps_request (c := (empty.request k .openContainer).request k .getApiVersion) (k := k)
    (r := .checkExtension vfioType1v2Iommu) (fun _ => rfl) (fun _ => rfl)
  simp only [VfioContainer.new, checkApiVersion, checkExtension, vfioType1v2Iommu, vfioType1Iommu] at h
  split_ifs at h
  simp at h
  exact h ▸ h₁.trans (h₂.trans h₃)

end VfioContainer

end VfioIoctls
