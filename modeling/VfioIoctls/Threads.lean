import VfioIoctls.GroupLifecycle
import Mathlib.Algebra.BigOperators.Group.Multiset

/-! Device opens and teardowns on any number of threads, interleaved step by step. An open
runs `get_group` atomically under the map lock and then builds the device or drops its
handle; a teardown (`VfioDevice::drop`) clones the group handle, runs `put_group` under the
lock, then drops the clone and its own handle. The holder count of every group object is
state, changed by each `Arc` operation where the code performs it. In every reachable state
(`Inv`) the count is the number of handles and every thread before `put_group` holds the
map's entry; yet two teardowns of the last two devices of a group can both miss the count of
three and leave the group in the map (`teardown_race_leaks_group`). -/

namespace VfioIoctls

/-- Where a thread is in `VfioDevice::new` or `VfioDevice::drop`, with its group handle. -/
inductive Phase
  /-- `get_group` has returned; `get_device` and discovery run. -/
  | opening (group : VfioGroup)
  /-- A `VfioDevice`. -/
  | live (group : VfioGroup)
  /-- `drop` has taken `self.group.clone()`. -/
  | cloned (group : VfioGroup)
  /-- `put_group` has returned and released the lock; the clone is still held. -/
  | released (group : VfioGroup)
  /-- The clone is dropped; the device's own handle is left. -/
  | dropping (group : VfioGroup)
  deriving DecidableEq, Repr

namespace Phase

def group : Phase → VfioGroup
  | opening g | live g | cloned g | released g | dropping g => g

/-- The handles to its group a thread holds: two between the clone and its drop. -/
def handles : Phase → Nat
  | cloned _ | released _ => 2
  | _ => 1

def holds (p : Phase) (g : VfioGroup) : Nat := if p.group = g then p.handles else 0

/-- The phases before `put_group`, in which the code relies on holding the map's entry. -/
def BeforePut : Phase → Prop
  | opening _ | live _ | cloned _ => True
  | _ => False

end Phase

/-- The handles the threads hold to a group object. -/
def holdsOf (t : Multiset Phase) (g : VfioGroup) : Nat := (t.map (·.holds g)).sum

/-- The threads after the thread in phase `p` has moved on to `next`, or returned. -/
def moveThread (t : Multiset Phase) (p : Phase) : Option Phase → Multiset Phase
  | none => t.erase p
  | some q => q ::ₘ t.erase p

def Phase.holdsOpt : Option Phase → VfioGroup → Nat
  | none, _ => 0
  | some q, g => q.holds g

theorem holdsOf_moveThread {t : Multiset Phase} {p : Phase} (h : p ∈ t) (next : Option Phase)
    (g : VfioGroup) : holdsOf (moveThread t p next) g + p.holds g = holdsOf t g + Phase.holdsOpt next g := by
  have : p.holds g + holdsOf (t.erase p) g = holdsOf t g :=
    Multiset.sum_map_erase (f := fun q : Phase => q.holds g) h
  cases next <;> simp only [moveThread, Phase.holdsOpt] <;>
    simp only [holdsOf, Multiset.map_cons, Multiset.sum_cons] at this ⊢ <;> omega

theorem holds_le_holdsOf {t : Multiset Phase} {q : Phase} (h : q ∈ t) (g : VfioGroup) :
    q.holds g ≤ holdsOf t g := by
  have := holdsOf_moveThread h none g
  simp only [Phase.holdsOpt] at this; omega

@[simp] theorem holdsOf_cons (p : Phase) (t : Multiset Phase) (g : VfioGroup) :
    holdsOf (p ::ₘ t) g = p.holds g + holdsOf t g := by
  simp [holdsOf]

@[simp] theorem holdsOf_zero (g : VfioGroup) : holdsOf 0 g = 0 := rfl

@[simp] theorem Phase.group_opening (g : VfioGroup) : (opening g).group = g := rfl
@[simp] theorem Phase.group_live (g : VfioGroup) : (live g).group = g := rfl
@[simp] theorem Phase.group_cloned (g : VfioGroup) : (cloned g).group = g := rfl
@[simp] theorem Phase.group_released (g : VfioGroup) : (released g).group = g := rfl
@[simp] theorem Phase.group_dropping (g : VfioGroup) : (dropping g).group = g := rfl
@[simp] theorem Phase.handles_opening (g : VfioGroup) : (opening g).handles = 1 := rfl
@[simp] theorem Phase.handles_live (g : VfioGroup) : (live g).handles = 1 := rfl
@[simp] theorem Phase.handles_cloned (g : VfioGroup) : (cloned g).handles = 2 := rfl
@[simp] theorem Phase.handles_released (g : VfioGroup) : (released g).handles = 2 := rfl
@[simp] theorem Phase.handles_dropping (g : VfioGroup) : (dropping g).handles = 1 := rfl

@[simp] theorem Phase.holds_group (p : Phase) : p.holds p.group = p.handles := if_pos rfl

theorem Phase.holds_of_ne {p : Phase} {g : VfioGroup} (h : p.group ≠ g) : p.holds g = 0 := if_neg h

theorem Phase.one_le_handles (p : Phase) : 1 ≤ p.handles := by cases p <;> simp [handles]

/-- The container, `Arc::strong_count` of every group object, and the threads. -/
structure System where
  container : VfioContainer
  strongCount : VfioGroup → Nat
  threads : Multiset Phase

/-- One more and one fewer handle to `g`. -/
def inc (count : VfioGroup → Nat) (g : VfioGroup) : VfioGroup → Nat :=
  Function.update count g (count g + 1)

def dec (count : VfioGroup → Nat) (g : VfioGroup) : VfioGroup → Nat :=
  Function.update count g (count g - 1)

/-- A step of one thread. -/
inductive Action
  /-- A new thread calls `VfioDevice::new` and runs `get_group` for `groupId`. -/
  | new (groupId : UInt32) (k : Replies)
  /-- The rest of `VfioDevice::new` succeeds. -/
  | opened (group : VfioGroup)
  /-- `get_device` fails and `VfioDevice::new` drops the group handle. -/
  | openFailed (group : VfioGroup)
  /-- `self.group.clone()` in `drop`. -/
  | clone (group : VfioGroup)
  /-- `put_group` on the clone, under the lock. -/
  | putGroup (group : VfioGroup) (k : Replies)
  /-- `put_group` returns: the clone is dropped. -/
  | dropClone (group : VfioGroup)
  /-- `drop` returns: the device's own handle is dropped. -/
  | dropGroup (group : VfioGroup)

namespace System

/-- The thread in phase `p` moves on to `next`, the counts becoming `count`. -/
def advance (s : System) (p : Phase) (next : Option Phase) (count : VfioGroup → Nat) : Option System :=
  if p ∈ s.threads then some ⟨s.container, count, moveThread s.threads p next⟩ else none

/-- The step of an action, with the code's `Arc` operations where it performs them. -/
def step (s : System) : Action → Option System
  | .new groupId k =>
    match s.container.getGroup k groupId with
    | (.error _, c) => some { s with container := c }
    | (.ok g, c) =>
      some ⟨c, Function.update s.strongCount g
        (if s.container.groups.lookup groupId = some g then s.strongCount g + 1 else 2),
        .opening g ::ₘ s.threads⟩
  | .opened g => s.advance (.opening g) (some (.live g)) s.strongCount
  | .openFailed g => s.advance (.opening g) none (dec s.strongCount g)
  | .clone g => s.advance (.live g) (some (.cloned g)) (inc s.strongCount g)
  | .putGroup g k =>
    if Phase.cloned g ∈ s.threads then
      let r := s.container.putGroup k g (s.strongCount g)
      some ⟨r.1, r.2.elim s.strongCount (dec s.strongCount),
        moveThread s.threads (.cloned g) (some (.released g))⟩
    else none
  | .dropClone g => s.advance (.released g) (some (.dropping g)) (dec s.strongCount g)
  | .dropGroup g => s.advance (.dropping g) none (dec s.strongCount g)

/-- A container `VfioContainer::new` returned, with no thread and no handle. -/
def init (c : VfioContainer) : System := ⟨c, fun _ => 0, 0⟩

/-- The handle the map holds to `g`. -/
def mapHolds (s : System) (g : VfioGroup) : Nat :=
  if s.container.groups.lookup g.id = some g then 1 else 0

/-! ### The invariant -/

/-- What holds in every reachable state. -/
structure Inv (s : System) : Prop where
  /-- `Arc::strong_count` is the number of handles: the map's and the threads'. -/
  count : ∀ g, s.strongCount g = s.mapHolds g + holdsOf s.threads g
  /-- A thread before `put_group` holds the map's entry for its group id. -/
  entry : ∀ p ∈ s.threads, p.BeforePut → s.container.groups.lookup p.group.id = some p.group
  /-- No handle exists to an object of a file not opened yet. -/
  fresh : ∀ g, s.container.files ≤ g.group → s.strongCount g = 0
  ids : s.container.KeyedById

variable {s : System}

theorem Inv.handles_le (hs : Inv s) {p : Phase} (hp : p ∈ s.threads) :
    p.handles ≤ s.strongCount p.group := by
  have := holds_le_holdsOf hp p.group
  rw [hs.count]; simp at this; omega

theorem Inv.lt_files (hs : Inv s) {p : Phase} (hp : p ∈ s.threads) :
    p.group.group < s.container.files := by
  by_contra h
  have := hs.handles_le hp
  rw [hs.fresh _ (not_lt.mp h)] at this
  exact absurd this (by have := p.one_le_handles; omega)

theorem Inv.advance (hs : Inv s) {c : VfioContainer} (hcg : c.groups = s.container.groups)
    (hcf : s.container.files ≤ c.files) {p : Phase} {next : Option Phase} {count : VfioGroup → Nat}
    (hp : p ∈ s.threads) (hnext : ∀ q, next = some q → q.group = p.group ∧ (q.BeforePut → p.BeforePut))
    (hoff : ∀ g, g ≠ p.group → count g = s.strongCount g)
    (hat : count p.group + p.handles = s.strongCount p.group + Phase.holdsOpt next p.group) :
    Inv ⟨c, count, moveThread s.threads p next⟩ := by
  have hq : ∀ g, g ≠ p.group → Phase.holdsOpt next g = 0 := by
    rintro g hg
    cases next with
    | none => rfl
    | some q => exact Phase.holds_of_ne ((hnext q rfl).1.trans_ne (Ne.symm hg))
  refine ⟨fun g => ?_, fun q hq' hb => ?_, fun g hg => ?_, by simpa [VfioContainer.KeyedById, hcg] using hs.ids⟩
  · have hm := holdsOf_moveThread hp next g
    have hc := hs.count g
    simp only [mapHolds, hcg] at hc ⊢
    by_cases hg : g = p.group
    · subst hg; simp only [Phase.holds_group] at hm; omega
    · rw [hoff g hg]; rw [Phase.holds_of_ne (Ne.symm hg), hq g hg] at hm; omega
  · show c.groups.lookup _ = _
    rw [hcg]
    cases next with
    | none => exact hs.entry q (Multiset.mem_of_mem_erase hq') hb
    | some r =>
      rcases Multiset.mem_cons.mp hq' with rfl | hq'
      · obtain ⟨hgr, hbr⟩ := hnext q rfl
        rw [hgr]; exact hs.entry p hp (hbr hb)
      · exact hs.entry q (Multiset.mem_of_mem_erase hq') hb
  · show count g = 0
    have hg : s.container.files ≤ g.group := hcf.trans hg
    rw [hoff g (fun h => absurd (h ▸ hs.lt_files hp) (not_lt.mpr hg))]
    exact hs.fresh g hg

theorem inv_init {k : Replies} {c : VfioContainer} (h : VfioContainer.new k = .ok c) : Inv (init c) := by
  have hk := VfioContainer.new_keeps h
  refine ⟨fun g => ?_, by simp [init], fun _ _ => rfl, by
    simpa [VfioContainer.KeyedById, init, hk.groups] using VfioContainer.keyedById_empty⟩
  simp [init, mapHolds, holdsOf, hk.groups, VfioContainer.empty, AList.lookup_empty]

theorem Inv.new (hs : Inv s) {k : Replies} {groupId : UInt32} {s' : System}
    (h : s.step (.new groupId k) = some s') : Inv s' := by
  simp only [step] at h
  rcases VfioContainer.getGroup_cases s.container k groupId with
    ⟨g, hl, hg⟩ | ⟨hl, ⟨e, he⟩, hr⟩ | ⟨hl, g, hok, ha⟩
  · rw [hg] at h
    simp only [hl, ite_true, Option.some.injEq] at h
    subst h
    have hid := hs.ids groupId g hl
    have hl' : s.container.groups.lookup g.id = some g := hid ▸ hl
    have hm : s.mapHolds g = 1 := by simp [mapHolds, hl']
    refine ⟨fun g' => ?_, fun p hp hb => ?_, fun g' hg' => ?_, hs.ids⟩
    · have hc := hs.count g'
      by_cases hg' : g' = g
      · subst hg'; simp only [mapHolds] at hc hm ⊢; simp [hm, Phase.holds] at hc ⊢; omega
      · simpa [Function.update_noteq hg', mapHolds, Phase.holds_of_ne (p := .opening g) (Ne.symm hg')]
          using hc
    · rcases Multiset.mem_cons.mp hp with rfl | hp
      · exact hl'
      · exact hs.entry p hp hb
    · have hne : g' ≠ g := by
        rintro rfl
        have := hs.count g'
        rw [hs.fresh g' hg', hm] at this; omega
      simpa [Function.update_noteq hne] using hs.fresh g' hg'
  · rw [show s.container.getGroup k groupId = (.error e, _) from Prod.ext he rfl] at h
    simp only [Option.some.injEq] at h; subst h
    refine ⟨fun g => ?_, fun p hp hb => ?_, fun g hg => hs.fresh g (hr.files.trans hg), ?_⟩
    · simpa [mapHolds, hr.groups] using hs.count g
    · simpa [hr.groups] using hs.entry p hp hb
    · simpa [VfioContainer.KeyedById, hr.groups] using hs.ids
  · rw [show s.container.getGroup k groupId = (.ok g, _) from Prod.ext hok rfl] at h
    have hne : s.container.groups.lookup groupId ≠ some g := by simp [hl]
    simp only [hne, ite_false, Option.some.injEq] at h; subst h
    have hg0 := hs.fresh g (by rw [ha.group])
    have hh0 : holdsOf s.threads g = 0 := by have := hs.count g; omega
    have hgid : g.id = groupId := by rw [ha.group]
    -- the map after the insert, seen from any group id
    have hlk : ∀ g' : VfioGroup, (s.container.getGroup k groupId).2.groups.lookup g'.id =
        if g'.id = groupId then some g else s.container.groups.lookup g'.id := fun _ => by
      rw [ha.groups, lookup_insert_eq_ite]
    refine ⟨fun g' => ?_, fun p hp hb => ?_, fun g' hg' => ?_, VfioContainer.keyedById_getGroup hs.ids⟩
    · have hc := hs.count g'
      simp only [mapHolds, hlk, holdsOf_cons] at hc ⊢
      by_cases hg' : g' = g
      · subst hg'; simp [hgid, hh0, Phase.holds]
      · rw [Function.update_noteq hg', Phase.holds_of_ne (p := .opening g) (Ne.symm hg'), zero_add]
        by_cases hid : g'.id = groupId
        · rw [hid, hl] at hc; simpa [hid, Ne.symm hg'] using hc
        · rw [if_neg hid]; exact hc
    · rcases Multiset.mem_cons.mp hp with rfl | hp
      · simp [Phase.group, hlk, hgid]
      · have he := hs.entry p hp hb
        have : p.group.id ≠ groupId := fun h' => by rw [h'] at he; simp [hl] at he
        simpa [hlk, this] using he
    · have hne' : g' ≠ g := by rintro rfl; rw [ha.group] at hg'; exact absurd ha.files (not_lt.mpr hg')
      simpa [Function.update_noteq hne'] using hs.fresh g' ((le_of_lt ha.files).trans hg')

theorem holdsOf_eq_zero {t : Multiset Phase} {g : VfioGroup} (h : holdsOf t g = 0) :
    ∀ q ∈ t, q.group ≠ g := by
  rintro q hq rfl
  have := holds_le_holdsOf hq q.group
  rw [Phase.holds_group, h] at this
  have := q.one_le_handles; omega

/-- At three holders no thread but the one in `put_group` holds the group. -/
theorem Inv.others_free (hs : Inv s) {g : VfioGroup} (hp : Phase.cloned g ∈ s.threads)
    (h3 : s.strongCount g = 3) : holdsOf (s.threads.erase (.cloned g)) g = 0 := by
  have hm := holdsOf_moveThread hp none g
  have hc := hs.count g
  have he : s.container.groups.lookup g.id = some g := hs.entry _ hp trivial
  have hmap : s.mapHolds g = 1 := by simp [mapHolds, he]
  simp only [moveThread, Phase.holdsOpt, Phase.holds, Phase.group_cloned, Phase.handles_cloned, if_true,
    add_zero] at hm
  omega

theorem Inv.putGroup (hs : Inv s) {g : VfioGroup} {k : Replies} {s' : System}
    (h : s.step (.putGroup g k) = some s') : Inv s' := by
  simp only [step] at h
  split at h
  next hp =>
    simp only [Option.some.injEq] at h; subst h
    have hnext : ∀ q, some (Phase.released g) = some q → q.group = (Phase.cloned g).group ∧
        (q.BeforePut → (Phase.cloned g).BeforePut) := by rintro q ⟨⟩; exact ⟨rfl, fun _ => trivial⟩
    rcases VfioContainer.putGroup_cases s.container k g (s.strongCount g) with
      ⟨hd, hk⟩ | ⟨-, hd, -, hdet⟩ | ⟨h3, hd, hr⟩
    · rw [hd]
      exact hs.advance hk.groups hk.files hp hnext (fun _ _ => rfl) (by simp [Phase.holdsOpt, Phase.holds])
    · rw [hd]
      exact hs.advance hdet.groups hdet.files.ge hp hnext (fun _ _ => rfl)
        (by simp [Phase.holdsOpt, Phase.holds])
    · have he : s.container.groups.lookup g.id = some g := hs.entry _ hp trivial
      have hfree := holdsOf_eq_zero (hs.others_free hp h3)
      rw [hd, he]
      have hlk : ∀ g' : VfioGroup, (s.container.putGroup k g (s.strongCount g)).1.groups.lookup g'.id =
          if g'.id = g.id then none else s.container.groups.lookup g'.id := fun _ => by
        rw [hr.groups, lookup_erase_eq_ite]
      refine ⟨fun g' => ?_, fun q hq hb => ?_, fun g' hg' => ?_,
        VfioContainer.keyedById_putGroup g _ hs.ids⟩
      · have hm := holdsOf_moveThread hp (some (.released g)) g'
        have hc := hs.count g'
        simp only [Phase.holdsOpt, Phase.holds, Phase.group_cloned, Phase.group_released,
          Phase.handles_cloned, Phase.handles_released] at hm
        simp only [mapHolds, hlk, Option.elim, dec] at hc ⊢
        by_cases hg' : g' = g
        · subst hg'; simp only [he, if_true] at hc; simp; omega
        · rw [Function.update_noteq hg']
          by_cases hid : g'.id = g.id
          · rw [hid, he] at hc; simp [hid, Ne.symm hg', hg'] at hc hm ⊢; omega
          · simp [hid, hg'] at hm ⊢; omega
      · rcases Multiset.mem_cons.mp hq with rfl | hq
        · exact absurd hb id
        · have hq₀ := hs.entry q (Multiset.mem_of_mem_erase hq) hb
          have hid : q.group.id ≠ g.id := fun h' => by
            rw [h', he] at hq₀; exact hfree q hq (Option.some.inj hq₀).symm
          show (s.container.putGroup k g (s.strongCount g)).1.groups.lookup q.group.id = _
          rw [hlk, if_neg hid]; exact hq₀
      · have hne : g' ≠ g := fun h' => by
          have := hs.lt_files hp; rw [hr.files] at hg'; simp only [Phase.group_cloned, ← h'] at this; omega
        show dec s.strongCount g g' = 0
        rw [dec, Function.update_noteq hne]; exact hs.fresh g' (hr.files ▸ hg')
  next => cases h

theorem Inv.of_advance (hs : Inv s) {p : Phase} {next : Option Phase} {count : VfioGroup → Nat}
    {s' : System} (h : s.advance p next count = some s')
    (hnext : ∀ q, next = some q → q.group = p.group ∧ (q.BeforePut → p.BeforePut))
    (hoff : ∀ g, g ≠ p.group → count g = s.strongCount g)
    (hat : p.handles ≤ s.strongCount p.group →
      count p.group + p.handles = s.strongCount p.group + Phase.holdsOpt next p.group) : Inv s' := by
  unfold System.advance at h
  split at h
  next hp =>
    cases h
    exact hs.advance rfl le_rfl hp hnext hoff (hat (hs.handles_le hp))
  next => cases h

theorem Inv.step (hs : Inv s) {a : Action} {s' : System} (h : s.step a = some s') : Inv s' := by
  have hinc : ∀ g g', g' ≠ g → inc s.strongCount g g' = s.strongCount g' :=
    fun g g' h => Function.update_noteq h _ _
  have hdec : ∀ g g', g' ≠ g → dec s.strongCount g g' = s.strongCount g' :=
    fun g g' h => Function.update_noteq h _ _
  cases a with
  | new groupId k => exact hs.new h
  | putGroup g k => exact hs.putGroup h
  | opened g =>
    exact hs.of_advance h (by rintro q ⟨⟩; exact ⟨rfl, fun _ => trivial⟩) (fun _ _ => rfl)
      (fun _ => by simp [Phase.holdsOpt, Phase.holds])
  | openFailed g =>
    exact hs.of_advance h (by rintro q ⟨⟩) (hdec g) (fun hle => by simp [dec, Phase.holdsOpt] at hle ⊢; omega)
  | clone g =>
    exact hs.of_advance h (by rintro q ⟨⟩; exact ⟨rfl, fun _ => trivial⟩) (hinc g)
      (fun _ => by simp [inc, Phase.holdsOpt, Phase.holds])
  | dropClone g =>
    exact hs.of_advance h (by rintro q ⟨⟩; exact ⟨rfl, fun h => h.elim⟩) (hdec g)
      (fun hle => by simp [dec, Phase.holdsOpt, Phase.holds] at hle ⊢; omega)
  | dropGroup g =>
    exact hs.of_advance h (by rintro q ⟨⟩) (hdec g) (fun hle => by simp [dec, Phase.holdsOpt] at hle ⊢; omega)

end System

/-- The states reachable by actions that `allowed` admits. -/
inductive Reachable (allowed : Action → Prop) : System → Prop
  | init {k : Replies} {c : VfioContainer} : VfioContainer.new k = .ok c →
      Reachable allowed (System.init c)
  | step {s s' : System} {a : Action} : Reachable allowed s → allowed a → s.step a = some s' →
      Reachable allowed s'

theorem Reachable.inv {allowed : Action → Prop} {s : System} (h : Reachable allowed s) : s.Inv := by
  induction h with
  | init hk => exact System.inv_init hk
  | step _ _ hstep ih => exact ih.step hstep

/-- The state after a sequence of actions, if each can be taken. -/
def System.run (s : System) : List Action → Option System
  | [] => some s
  | a :: as => (s.step a).bind (·.run as)

theorem Reachable.run {allowed : Action → Prop} {s s' : System} (hs : Reachable allowed s)
    (as : List Action) (ha : ∀ a ∈ as, allowed a) (h : s.run as = some s') : Reachable allowed s' := by
  induction as generalizing s with
  | nil => cases h; exact hs
  | cons a as ih =>
    simp only [System.run, Option.bind_eq_some] at h
    obtain ⟨s₁, h₁, h₂⟩ := h
    exact ih (hs.step (ha a (.head _)) h₁) (fun b hb => ha b (.tail _ hb)) h₂

/-- Every live device holds the map's entry for its group id, and `put_group` acts only when
no other thread holds the group. -/
theorem threads_share_map_entry {s : System} (h : Reachable (fun _ => True) s) :
    (∀ g, Phase.live g ∈ s.threads → s.container.groups.lookup g.id = some g) ∧
    (∀ g₁ g₂, Phase.live g₁ ∈ s.threads → Phase.live g₂ ∈ s.threads → g₁.id = g₂.id → g₁ = g₂) ∧
    (∀ g k, Phase.cloned g ∈ s.threads → s.container.putGroup k g (s.strongCount g) ≠ (s.container, none) →
      ∀ p ∈ s.threads.erase (.cloned g), p.group ≠ g) := by
  have hs := h.inv
  refine ⟨fun g hg => hs.entry _ hg trivial, fun g₁ g₂ h₁ h₂ hid => ?_, fun g k hg hput => ?_⟩
  · have e₁ : s.container.groups.lookup g₁.id = some g₁ := hs.entry _ h₁ trivial
    have e₂ : s.container.groups.lookup g₂.id = some g₂ := hs.entry _ h₂ trivial
    rw [hid, e₂] at e₁; exact (Option.some.inj e₁).symm
  · have h3 : s.strongCount g = 3 := by
      by_contra h3; exact hput (VfioContainer.putGroup_of_ne k g h3)
    exact System.holdsOf_eq_zero (hs.others_free hg h3)

theorem threads_share_map_entry_one_device :
    ∃ s, Reachable (fun _ => True) s ∧ Phase.live ⟨1, 1⟩ ∈ s.threads ∧
      s.container.groups.lookup 1 = some ⟨1, 1⟩ := by
  have hr := (Reachable.init (k := newReplies) rfl : Reachable (fun _ => True) _).run
    [.new 1 newReplies, .opened ⟨1, 1⟩] (fun _ _ => trivial) rfl
  exact ⟨_, hr, by decide, (threads_share_map_entry hr).1 ⟨1, 1⟩ (by decide)⟩

/-- In every reachable state the count of each group object is its number of handles. -/
theorem strongCount_counts_handles {allowed : Action → Prop} {s : System}
    (h : Reachable allowed s) :
    (∀ g, s.strongCount g =
      (if s.container.groups.lookup g.id = some g then 1 else 0) + holdsOf s.threads g) ∧
    ∀ p ∈ s.threads, p.handles ≤ s.strongCount p.group :=
  have hs := h.inv
  ⟨hs.count, fun _ hp => hs.handles_le hp⟩

theorem strongCount_counts_handles_cloned :
    ∃ s, Reachable (fun _ => True) s ∧ Phase.cloned ⟨1, 1⟩ ∈ s.threads ∧
      s.strongCount ⟨1, 1⟩ = 3 ∧
      (∀ g, s.strongCount g =
        (if s.container.groups.lookup g.id = some g then 1 else 0) + holdsOf s.threads g) ∧
      ∀ p ∈ s.threads, p.handles ≤ s.strongCount p.group := by
  have hr := (Reachable.init (k := newReplies) rfl : Reachable (fun _ => True) _).run
    [.new 1 newReplies, .opened ⟨1, 1⟩, .clone ⟨1, 1⟩] (fun _ _ => trivial) rfl
  exact ⟨_, hr, by decide, rfl, strongCount_counts_handles hr⟩

/-- Actions in which every open and every request succeeds. -/
def Action.Succeeds : Action → Prop
  | .new _ k | .putGroup _ k => (∀ r, 0 ≤ k.ret r) ∧ ∀ groupId, k.groupFlags groupId = vfioGroupFlagsViable
  | .openFailed _ => False
  | _ => True

/-- Two devices of group 1 opened, then torn down concurrently. -/
def teardownRace : List Action :=
  let g : VfioGroup := ⟨1, 1⟩
  [.new 1 newReplies, .opened g, .new 1 newReplies, .opened g, .clone g, .clone g,
    .putGroup g newReplies, .dropClone g, .putGroup g newReplies, .dropClone g, .dropGroup g, .dropGroup g]

/-- No thread is left, yet group 1 stays in the map, bound and attached. -/
theorem teardown_race_leaks_group :
    ∃ s, Reachable Action.Succeeds s ∧ s.threads = 0 ∧
      1 ∈ s.container.groups ∧ 1 ∈ s.container.bound ∧ 1 ∈ s.container.attached := by
  have hk : (∀ r, 0 ≤ newReplies.ret r) ∧ ∀ groupId, newReplies.groupFlags groupId = vfioGroupFlagsViable :=
    ⟨fun r => by simp only [newReplies]; split <;> omega, fun _ => rfl⟩
  have hr := (Reachable.init (k := newReplies) rfl : Reachable Action.Succeeds _).run teardownRace
    (by simp [teardownRace, Action.Succeeds, hk]) rfl
  exact ⟨_, hr, by decide, by decide, by decide, by decide⟩

end VfioIoctls
