import VfioIoctls.Container

/-! Sequences of `get_group` and `put_group` calls on a container that `VfioContainer::new`
returned, each call answered by its own replies. Whatever the replies, the attached groups
stay among the map's keys and the keys among the bound groups (`Nested`); when every unbind
succeeds the three sets are equal (`Consistent`). A failed unbind breaks the equality, on
the rollback of `get_group` and on `put_group` after a detach. -/

namespace VfioIoctls

/-- A call on the container, under its map lock. -/
inductive Call
  | getGroup (groupId : UInt32)
  | putGroup (group : VfioGroup) (strongCount : Nat)

def Call.run (c : VfioContainer) (k : Replies) : Call → VfioContainer
  | .getGroup groupId => (c.getGroup k groupId).2
  | .putGroup group n => (c.putGroup k group n).1

/-- The container after a sequence of calls, each with the replies it gets. -/
def runCalls (c : VfioContainer) (calls : List (Call × Replies)) : VfioContainer :=
  calls.foldl (fun c p => p.1.run c p.2) c

@[simp] theorem runCalls_nil (c : VfioContainer) : runCalls c [] = c := rfl

@[simp] theorem runCalls_cons (c : VfioContainer) (p : Call × Replies) (calls : List (Call × Replies)) :
    runCalls c (p :: calls) = runCalls (p.1.run c p.2) calls := rfl

/-- Replies in which every `VFIO_GROUP_UNSET_CONTAINER` succeeds. -/
def UnsetsSucceed (k : Replies) : Prop := ∀ groupId, 0 ≤ k.ret (.groupUnsetContainer groupId)

namespace VfioContainer

variable {c : VfioContainer} {k : Replies} {groupId : UInt32}

/-- Attached groups are in the map, and groups in the map are bound. -/
structure Nested (c : VfioContainer) : Prop where
  attached : ∀ g ∈ c.attached, g ∈ c.groups
  bound : ∀ g ∈ c.groups, g ∈ c.bound

/-- Each entry of the map is the group of its key. -/
def KeyedById (c : VfioContainer) : Prop :=
  ∀ groupId g, c.groups.lookup groupId = some g → g.id = groupId

/-- The map's keys are the bound and the attached groups, each entry under its own id. -/
structure Consistent (c : VfioContainer) : Prop where
  bound : ∀ g, g ∈ c.groups ↔ g ∈ c.bound
  attached : c.attached = c.bound
  ids : KeyedById c

theorem Keeps.nested {c' : VfioContainer} (h : Keeps c c') (hc : Nested c) : Nested c' :=
  ⟨by simpa [h.groups, h.attached] using hc.attached, by simpa [h.groups, h.bound] using hc.bound⟩

theorem Keeps.consistent {c' : VfioContainer} (h : Keeps c c') (hc : Consistent c) : Consistent c' :=
  ⟨by simpa [h.groups, h.bound] using hc.bound, by rw [h.attached, h.bound, hc.attached],
    by simpa [KeyedById, h.groups] using hc.ids⟩

theorem nested_empty : Nested empty := ⟨by simp [empty], by simp [empty, AList.not_mem_empty]⟩

theorem consistent_empty : Consistent empty :=
  ⟨by simp [empty, AList.not_mem_empty], rfl, by simp [KeyedById, empty, AList.lookup_empty]⟩

theorem keyedById_empty : KeyedById empty := by simp [KeyedById, empty, AList.lookup_empty]

/-! ### `get_group` -/

theorem keyedById_getGroup (hc : KeyedById c) : KeyedById (c.getGroup k groupId).2 := by
  rcases getGroup_cases c k groupId with ⟨g, -, h⟩ | ⟨-, -, hr⟩ | ⟨-, g, -, ha⟩
  · rw [h]; exact hc
  · simpa [KeyedById, hr.groups] using hc
  · intro g' grp
    rw [ha.groups]
    by_cases hg : g' = groupId
    · subst hg; rw [AList.lookup_insert]; rintro ⟨⟩; rw [ha.group]
    · rw [AList.lookup_insert_ne hg]; exact hc g' grp

theorem getGroup_ok {g : VfioGroup} {c' : VfioContainer} (hc : KeyedById c)
    (h : c.getGroup k groupId = (.ok g, c')) :
    g.id = groupId ∧ (c.groups.lookup groupId = none → Added c c' k groupId g) := by
  rcases getGroup_cases c k groupId with ⟨g', hl, hg⟩ | ⟨-, ⟨e, he⟩, -⟩ | ⟨-, g', hok, ha⟩
  · rw [hg] at h
    cases h
    exact ⟨hc _ _ hl, fun hn => by rw [hl] at hn; cases hn⟩
  · rw [h] at he; cases he
  · rw [h] at hok ha
    cases hok
    exact ⟨by rw [ha.group], fun _ => ha⟩

theorem nested_getGroup (hc : Nested c) : Nested (c.getGroup k groupId).2 := by
  rcases getGroup_cases c k groupId with ⟨g, -, h⟩ | ⟨hl, -, hr⟩ | ⟨-, g, -, ha⟩
  · rw [h]; exact hc
  · have hg : groupId ∉ c.groups := AList.lookup_eq_none.mp hl
    refine ⟨by simpa [hr.groups, hr.attached] using hc.attached, ?_⟩
    rw [hr.groups]
    intro g hg'
    have : g ≠ groupId := fun h => hg (h ▸ hg')
    rcases hr.bound with hb | hb | ⟨hb, -⟩ <;> simp [hb, this, hc.bound g hg']
  · refine ⟨fun g hg => ?_, fun g hg => ?_⟩
    · rw [ha.attached, Finset.mem_insert] at hg
      rw [ha.groups, AList.mem_insert]; exact hg.imp_right (hc.attached g)
    · rw [ha.groups, AList.mem_insert] at hg
      rw [ha.bound, Finset.mem_insert]; exact hg.imp_right (hc.bound g)

theorem RolledBack.bound_eq {c' : VfioContainer} (hr : RolledBack c c' k groupId)
    (hk : UnsetsSucceed k) (hc : Consistent c) (hl : c.groups.lookup groupId = none) :
    c'.bound = c.bound := by
  have hg : groupId ∉ c.bound := (hc.bound groupId).not.mp (AList.lookup_eq_none.mp hl)
  rcases hr.bound with hb | hb | ⟨-, hu⟩
  · exact hb
  · rw [hb, Finset.erase_insert hg]
  · exact absurd (hk groupId) (not_le.mpr hu)

theorem consistent_getGroup (hk : UnsetsSucceed k) (hc : Consistent c) :
    Consistent (c.getGroup k groupId).2 := by
  rcases getGroup_cases c k groupId with ⟨g, -, h⟩ | ⟨hl, -, hr⟩ | ⟨-, g, -, ha⟩
  · rw [h]; exact hc
  · have hb := hr.bound_eq hk hc hl
    exact ⟨by simpa [hr.groups, hb] using hc.bound, by rw [hr.attached, hb, hc.attached],
      keyedById_getGroup hc.ids⟩
  · exact ⟨fun g => by simp [ha.groups, ha.bound, hc.bound], by rw [ha.attached, ha.bound, hc.attached],
      keyedById_getGroup hc.ids⟩

/-! ### `put_group` -/

theorem keyedById_putGroup (group : VfioGroup) (n : Nat) (hc : KeyedById c) :
    KeyedById (c.putGroup k group n).1 := by
  rcases putGroup_cases c k group n with ⟨-, h⟩ | ⟨-, -, -, hd⟩ | ⟨-, -, hr⟩
  · simpa [KeyedById, h.groups] using hc
  · simpa [KeyedById, hd.groups] using hc
  · intro g grp
    rw [hr.groups]
    by_cases hg : g = group.id
    · subst hg; simp [AList.lookup_erase]
    · rw [AList.lookup_erase_ne hg]; exact hc g grp

theorem nested_putGroup (group : VfioGroup) (n : Nat) (hc : Nested c) :
    Nested (c.putGroup k group n).1 := by
  rcases putGroup_cases c k group n with ⟨-, h⟩ | ⟨-, -, -, hd⟩ | ⟨-, -, hr⟩
  · exact h.nested hc
  · refine ⟨fun g hg => ?_, by simpa [hd.groups, hd.bound] using hc.bound⟩
    rw [hd.attached, Finset.mem_erase] at hg
    rw [hd.groups]; exact hc.attached g hg.2
  · refine ⟨fun g hg => ?_, fun g hg => ?_⟩
    · rw [hr.attached, Finset.mem_erase] at hg
      rw [hr.groups, AList.mem_erase]; exact ⟨hg.1, hc.attached g hg.2⟩
    · rw [hr.groups, AList.mem_erase] at hg
      rw [hr.bound, Finset.mem_erase]; exact ⟨hg.1, hc.bound g hg.2⟩

theorem consistent_putGroup (hk : UnsetsSucceed k) (group : VfioGroup) (n : Nat)
    (hc : Consistent c) : Consistent (c.putGroup k group n).1 := by
  rcases putGroup_cases c k group n with ⟨-, h⟩ | ⟨-, -, hu, -⟩ | ⟨-, -, hr⟩
  · exact h.consistent hc
  · exact absurd (hk group.id) (not_le.mpr hu)
  · exact ⟨fun g => by rw [hr.groups, hr.bound, AList.mem_erase, Finset.mem_erase, hc.bound],
      by rw [hr.attached, hr.bound, hc.attached], keyedById_putGroup group n hc.ids⟩

theorem nested_run (call : Call) (hc : Nested c) : Nested (call.run c k) := by
  cases call with
  | getGroup groupId => exact nested_getGroup hc
  | putGroup group n => exact nested_putGroup group n hc

theorem consistent_run (call : Call) (hk : UnsetsSucceed k) (hc : Consistent c) :
    Consistent (call.run c k) := by
  cases call with
  | getGroup groupId => exact consistent_getGroup hk hc
  | putGroup group n => exact consistent_putGroup hk group n hc

theorem nested_runCalls (calls : List (Call × Replies)) (hc : Nested c) : Nested (runCalls c calls) := by
  induction calls generalizing c with
  | nil => exact hc
  | cons p calls ih => exact ih (nested_run p.1 hc)

theorem consistent_runCalls (calls : List (Call × Replies)) (hk : ∀ p ∈ calls, UnsetsSucceed p.2)
    (hc : Consistent c) : Consistent (runCalls c calls) := by
  induction calls generalizing c with
  | nil => exact hc
  | cons p calls ih =>
    exact ih (fun q hq => hk q (.tail _ hq)) (consistent_run p.1 (hk p (.head _)) hc)

theorem selectsIommu_getGroup : SelectsIommu c (c.getGroup k groupId).2 k groupId := by
  rcases getGroup_cases c k groupId with ⟨g, -, h⟩ | ⟨-, -, hr⟩ | ⟨-, g, -, ha⟩
  · simp [h, SelectsIommu, issuedSince]
  · exact hr.iommu
  · exact ha.iommu

theorem Consistent.entries_eq_nil (hc : Consistent c) : c.groups.entries = [] ↔ c.bound = ∅ := by
  rw [Finset.eq_empty_iff_forall_not_mem, ← List.map_eq_nil_iff (f := Sigma.fst),
    List.eq_nil_iff_forall_not_mem]
  exact forall_congr' fun g => not_congr (hc.bound g)

end VfioContainer

/-- Replies under which `VfioContainer::new` succeeds and every other request too. -/
def newReplies : Replies :=
  ⟨fun r => if r = .checkExtension vfioType1v2Iommu then 1 else 0, fun _ => vfioGroupFlagsViable⟩

open VfioContainer in
/-- The container after any calls is `Nested`; with every unbind accepted it is `Consistent`,
and `get_group` selects the IOMMU backend exactly when it binds to an empty container. -/
theorem groupLifecycle_invariant (k₀ : Replies) (c₀ : VfioContainer)
    (h₀ : VfioContainer.new k₀ = .ok c₀) (calls : List (Call × Replies)) :
    Nested (runCalls c₀ calls) ∧
    ((∀ p ∈ calls, UnsetsSucceed p.2) →
      (∀ g, g ∈ (runCalls c₀ calls).groups ↔ g ∈ (runCalls c₀ calls).bound) ∧
      (runCalls c₀ calls).attached = (runCalls c₀ calls).bound ∧
      (∀ k groupId,
        Request.setIommu vfioType1v2Iommu ∈
            issuedSince (runCalls c₀ calls) ((runCalls c₀ calls).getGroup k groupId).2 ↔
          Request.groupSetContainer groupId ∈
              issuedSince (runCalls c₀ calls) ((runCalls c₀ calls).getGroup k groupId).2 ∧
            0 ≤ k.ret (.groupSetContainer groupId) ∧ (runCalls c₀ calls).bound = ∅) ∧
      (∀ k groupId g, (runCalls c₀ calls).groups.lookup groupId = some g →
        ((runCalls c₀ calls).getGroup k groupId).1 = .ok g ∧
          g.id ∈ (runCalls c₀ calls).bound ∧ g.id ∈ (runCalls c₀ calls).attached)) := by
  have hk := new_keeps h₀
  refine ⟨nested_runCalls calls (hk.nested nested_empty), fun hu => ?_⟩
  have hc := consistent_runCalls calls hu (hk.consistent consistent_empty)
  refine ⟨hc.bound, hc.attached, fun k groupId => ?_, fun k groupId g hg => ?_⟩
  · exact selectsIommu_getGroup.trans (and_congr_right fun _ => and_congr_right fun _ => hc.entries_eq_nil)
  · have hid := hc.ids groupId g hg
    have hm : groupId ∈ (runCalls c₀ calls).bound := (hc.bound groupId).mp (AList.lookup_isSome.mp (by simp [hg]))
    exact ⟨by rw [getGroup_of_lookup hg], hid ▸ hm, hid ▸ hc.attached ▸ hm⟩

theorem groupLifecycle_invariant_one_group :
    ∃ c₀, VfioContainer.new newReplies = .ok c₀ ∧
      (runCalls c₀ [(.getGroup 1, newReplies)]).attached =
        (runCalls c₀ [(.getGroup 1, newReplies)]).bound :=
  ⟨_, rfl, ((groupLifecycle_invariant newReplies _ rfl _).2
    (by simp [UnsetsSucceed, newReplies])).2.1⟩

/-- Replies under which `VFIO_SET_IOMMU` and the unbind of group 1 fail. -/
def iommuAndUnbindFail : Replies :=
  ⟨fun r => if r = .setIommu vfioType1v2Iommu ∨ r = .groupUnsetContainer 1 then -1 else 0,
    fun _ => vfioGroupFlagsViable⟩

/-- Replies whose `VFIO_GROUP_UNSET_CONTAINER` of group 1 fails, every other request accepted. -/
def unbindFails : Replies :=
  ⟨fun r => if r = .groupUnsetContainer 1 then -1 else 0, fun _ => vfioGroupFlagsViable⟩

/-- A failed unbind breaks the equality on `get_group`'s rollback and on `put_group`. -/
theorem groupLifecycle_unbind_failure :
    ∃ c₀, VfioContainer.new newReplies = .ok c₀ ∧
      (1 ∈ (runCalls c₀ [(.getGroup 1, iommuAndUnbindFail)]).bound ∧
        1 ∉ (runCalls c₀ [(.getGroup 1, iommuAndUnbindFail)]).groups) ∧
      (1 ∈ (runCalls c₀ [(.getGroup 1, newReplies), (.putGroup ⟨1, 1⟩ 3, unbindFails)]).groups ∧
        1 ∈ (runCalls c₀ [(.getGroup 1, newReplies), (.putGroup ⟨1, 1⟩ 3, unbindFails)]).bound ∧
        1 ∉ (runCalls c₀ [(.getGroup 1, newReplies), (.putGroup ⟨1, 1⟩ 3, unbindFails)]).attached) :=
  ⟨_, rfl, ⟨by decide, by decide⟩, by decide, by decide, by decide⟩

end VfioIoctls
