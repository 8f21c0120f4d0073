import VfioIoctls.Discovery
import VfioIoctls.Threads

/-! The open and drop paths of a device against the thread model. `VfioDevice::drop` clones
the group handle, runs `put_group` on the clone, then drops the clone and its own handle; the
thread model (`System`) takes each of these as a step, and the code's two paths are runs of
those steps (`new_simulates`, `drop_simulates`). A program that opens and drops devices on one
thread (`Program`) is then a run of the thread model with a live thread per device held, and
its containers are those of a run of `GroupLifecycle`'s call-level model (`run_container`). -/

namespace VfioIoctls

/-- `VfioDevice::drop`: `put_group(self.group.clone())`, then the clone and the device's own
handle dropped. The container and the holder counts after it. -/
def VfioDevice.drop (d : VfioDevice) (c : VfioContainer) (count : VfioGroup → Nat)
    (k : Replies) : VfioContainer × (VfioGroup → Nat) :=
  let count := inc count d.group
  let r := c.putGroup k d.group (count d.group)
  let count := r.2.elim count (dec count)
  (r.1, dec (dec count d.group) d.group)

/-- The last device of a group the map holds: with the detach and unbind accepted, the group
is removed and the object loses every handle. -/
theorem VfioDevice.drop_of_last {d : VfioDevice} {c : VfioContainer} {count : VfioGroup → Nat}
    {k : Replies} (hentry : c.groups.lookup d.group.id = some d.group) (hcount : count d.group = 2)
    (hdel : 0 ≤ k.ret (.deviceDelGroup d.group.id))
    (hunset : 0 ≤ k.ret (.groupUnsetContainer d.group.id)) :
    VfioContainer.Removed c (d.drop c count k).1 d.group.id ∧
      (d.drop c count k).2 = Function.update count d.group 0 := by
  have h3 : inc count d.group d.group = 3 := by simp [inc, hcount]
  obtain ⟨h2, hr⟩ := VfioContainer.putGroup_three (c := c) k d.group hdel hunset
  simp only [VfioDevice.drop, h3, h2, hentry, Option.elim]
  refine ⟨hr, funext fun g => ?_⟩
  by_cases hg : g = d.group
  · subst hg; simp [inc, dec, hcount]
  · simp [inc, dec, Function.update_noteq hg]

theorem VfioDevice.drop_of_shared {d : VfioDevice} {c : VfioContainer} {count : VfioGroup → Nat}
    {k : Replies} (hcount : count d.group ≠ 2) :
    d.drop c count k = (c, Function.update count d.group (count d.group - 1)) := by
  have h3 : inc count d.group d.group ≠ 3 := by simp [inc]; omega
  simp only [VfioDevice.drop, VfioContainer.putGroup_of_ne k d.group h3, Option.elim,
    Prod.mk.injEq, true_and]
  funext g
  by_cases hg : g = d.group
  · subst hg; simp [inc, dec]
  · simp [inc, dec, Function.update_noteq hg]

open VfioContainer in
/-- The whole effect of a drop when the map holds the device's group. -/
theorem VfioDevice.drop_eq {d : VfioDevice} {c : VfioContainer} {count : VfioGroup → Nat}
    {k : Replies} (hentry : c.groups.lookup d.group.id = some d.group) :
    (d.drop c count k).1.groups =
        (if count d.group = 2 ∧ 0 ≤ k.ret (.deviceDelGroup d.group.id) ∧
          0 ≤ k.ret (.groupUnsetContainer d.group.id) then c.groups.erase d.group.id else c.groups) ∧
      (d.drop c count k).1.bound =
        (if count d.group = 2 ∧ 0 ≤ k.ret (.deviceDelGroup d.group.id) ∧
          0 ≤ k.ret (.groupUnsetContainer d.group.id) then c.bound.erase d.group.id else c.bound) ∧
      (d.drop c count k).1.attached =
        (if count d.group = 2 ∧ 0 ≤ k.ret (.deviceDelGroup d.group.id) then
          c.attached.erase d.group.id else c.attached) ∧
      (d.drop c count k).1.files = c.files ∧
      (d.drop c count k).2 = Function.update count d.group
        (if count d.group = 2 ∧ 0 ≤ k.ret (.deviceDelGroup d.group.id) ∧
          0 ≤ k.ret (.groupUnsetContainer d.group.id) then 0 else count d.group - 1) := by
  by_cases hn : count d.group = 2
  swap
  · -- other holders: nothing is torn down
    simp [VfioDevice.drop_of_shared hn, hn]
  by_cases hdel : 0 ≤ k.ret (.deviceDelGroup d.group.id)
  swap
  · -- the detach fails
    simp [VfioDevice.drop, putGroup, deviceDelGroup, setDeviceAttr, inc, dec, hn, hdel,
      not_le.1 hdel, request_bound, request_attached, request_files]
  by_cases hun : 0 ≤ k.ret (.groupUnsetContainer d.group.id)
  · -- torn down
    obtain ⟨hr, hs⟩ := VfioDevice.drop_of_last (k := k) hentry hn hdel hun
    simp [hr.groups, hr.bound, hr.attached, hr.files, hs, hn, hdel, hun]
  · -- detached, the unbind fails
    simp [VfioDevice.drop, putGroup, deviceDelGroup, setDeviceAttr, inc, dec, hn, hdel, hun,
      not_le.1 hun, not_lt.2 hdel, request_bound, request_attached, request_files, Request.bind,
      Request.attach, Request.opens]

namespace System

/-- The threads after an open that returned `r`: one more live thread for its device. -/
def opened (r : Except VfioError VfioDevice) (t : Multiset Phase) : Multiset Phase :=
  match r with
  | .ok d => .live d.group ::ₘ t
  | .error _ => t

variable {fuel : Nat} {sysfspath : SysfsPath} {k : Replies} {dk : DeviceReplies}
  {r : Except VfioError VfioDevice} {c' : VfioContainer} {count' : VfioGroup → Nat}

/-- `VfioDevice::new` is `get_group`, then the rest of the open or the drop of the handle. -/
theorem new_simulates (s : System)
    (h : VfioDevice.new fuel sysfspath s.container s.strongCount k dk = some (r, c', count')) :
    ∃ as, s.run as = some ⟨c', count', opened r s.threads⟩ := by
  rcases VfioDevice.new_cases h with ⟨-, rfl, rfl, rfl⟩ | ⟨groupId, -, ⟨e, hg, rfl, rfl⟩ |
    ⟨g, hg, ⟨e, -, rfl, rfl⟩ | ⟨deviceInfo, regions, -, -, rfl, rfl⟩⟩⟩
  · -- no group id in the path
    exact ⟨[], rfl⟩
  · -- `get_group` fails
    exact ⟨[.new groupId k], by simp [run, step, hg, opened]⟩
  · -- `get_device` fails and the handle is dropped
    exact ⟨[.new groupId k, .openFailed g], by
      simp [run, step, hg, advance, moveThread, opened, heldAfterGetGroup, dec]⟩
  · -- the open succeeds
    exact ⟨[.new groupId k, .opened g], by
      simp [run, step, hg, advance, moveThread, opened, heldAfterGetGroup]⟩

/-- `VfioDevice::drop` is the four steps of a teardown taken one after the other. -/
theorem drop_simulates (s : System) (d : VfioDevice) (k : Replies)
    (hd : Phase.live d.group ∈ s.threads) :
    s.run [.clone d.group, .putGroup d.group k, .dropClone d.group, .dropGroup d.group] =
      some ⟨(d.drop s.container s.strongCount k).1, (d.drop s.container s.strongCount k).2,
        s.threads.erase (.live d.group)⟩ := by
  simp [run, step, advance, moveThread, hd, VfioDevice.drop]

end System

/-! ### A program on one thread -/

/-- A program that opens and drops devices on one thread: the container, the holder counts
and the devices it holds, the last opened first. -/
structure Program where
  container : VfioContainer
  strongCount : VfioGroup → Nat
  devices : List VfioDevice

/-- A call of the program. -/
inductive DeviceCall
  /-- `VfioDevice::new(sysfspath, container)`, keeping the device it returns. -/
  | new (fuel : Nat) (sysfspath : SysfsPath) (k : Replies) (dk : DeviceReplies)
  /-- Dropping the `i`-th device held. -/
  | drop (i : Nat) (k : Replies)

def DeviceCall.replies : DeviceCall → Replies
  | .new _ _ k _ => k
  | .drop _ k => k

namespace Program

def init (c : VfioContainer) : Program := ⟨c, fun _ => 0, []⟩

/-- The program after a call; `none` while a capability walk of the open still runs, or
when there is no `i`-th device to drop. -/
def call (p : Program) : DeviceCall → Option Program
  | .new fuel sysfspath k dk =>
    (VfioDevice.new fuel sysfspath p.container p.strongCount k dk).map fun res =>
      ⟨res.2.1, res.2.2, match res.1 with
        | .ok d => d :: p.devices
        | .error _ => p.devices⟩
  | .drop i k =>
    p.devices[i]?.map fun d =>
      ⟨(d.drop p.container p.strongCount k).1, (d.drop p.container p.strongCount k).2,
        p.devices.eraseIdx i⟩

def run (p : Program) : List DeviceCall → Option Program
  | [] => some p
  | dc :: dcs => (p.call dc).bind (·.run dcs)

/-- The thread model's view of the program: a live thread for each device held. -/
def toSystem (p : Program) : System :=
  ⟨p.container, p.strongCount, ↑(p.devices.map fun d => Phase.live d.group)⟩

theorem coe_map_eraseIdx {l : List VfioDevice} {i : Nat} {d : VfioDevice} (h : l[i]? = some d) :
    (↑((l.eraseIdx i).map fun e => Phase.live e.group) : Multiset Phase) =
      (↑(l.map fun e => Phase.live e.group) : Multiset Phase).erase (.live d.group) := by
  induction l generalizing i with
  | nil => simp at h
  | cons e l ih =>
    cases i with
    | zero =>
      obtain rfl : e = d := by simpa using h
      simp
    | succ i =>
      have hi : l[i]? = some d := by simpa using h
      rw [List.eraseIdx_cons_succ, List.map_cons, List.map_cons, ← Multiset.cons_coe,
        ← Multiset.cons_coe, ih hi]
      by_cases he : Phase.live e.group = Phase.live d.group
      · have hm : Phase.live d.group ∈ (↑(l.map fun e => Phase.live e.group) : Multiset Phase) :=
          Multiset.mem_coe.2 (List.mem_map_of_mem _ (List.getElem?_mem hi))
        rw [he, Multiset.erase_cons_head, Multiset.cons_erase hm]
      · rw [Multiset.erase_cons_tail _ he]

/-- Each call of the program is a run of the thread model's steps. -/
theorem call_simulates {p p' : Program} {dc : DeviceCall} (h : p.call dc = some p') :
    ∃ as, p.toSystem.run as = some p'.toSystem := by
  cases dc with
  | new fuel sysfspath k dk =>
    obtain ⟨⟨r, c', count'⟩, hnew, rfl⟩ := Option.map_eq_some'.1 h
    obtain ⟨as, has⟩ := System.new_simulates p.toSystem hnew
    exact ⟨as, has.trans (by cases r <;> rfl)⟩
  | drop i k =>
    obtain ⟨d, hd, rfl⟩ := Option.map_eq_some'.1 h
    have hm : Phase.live d.group ∈ p.toSystem.threads :=
      Multiset.mem_coe.2 (List.mem_map_of_mem _ (List.getElem?_mem hd))
    refine ⟨_, (System.drop_simulates p.toSystem d k hm).trans ?_⟩
    simp only [toSystem, coe_map_eraseIdx hd]

theorem reachable_run {p p' : Program} (hp : Reachable (fun _ => True) p.toSystem)
    (calls : List DeviceCall) (h : p.run calls = some p') : Reachable (fun _ => True) p'.toSystem := by
  induction calls generalizing p with
  | nil => cases h; exact hp
  | cons dc dcs ih =>
    obtain ⟨p₁, h₁, h₂⟩ := Option.bind_eq_some.1 h
    obtain ⟨as, has⟩ := call_simulates h₁
    exact ih (hp.run as (fun _ _ => trivial) has) h₂

theorem reachable_of_run {k : Replies} {c : VfioContainer} {calls : List DeviceCall} {p : Program}
    (hc : VfioContainer.new k = .ok c) (h : (init c).run calls = some p) :
    Reachable (fun _ => True) p.toSystem :=
  @reachable_run (init c) p (.init hc) calls h

theorem holdsOf_live (l : List VfioDevice) (g : VfioGroup) :
    holdsOf ↑(l.map fun d => Phase.live d.group) g = l.countP fun d => d.group = g := by
  induction l with
  | nil => rfl
  | cons d l ih =>
    rw [List.map_cons, ← Multiset.cons_coe, holdsOf_cons, ih, List.countP_cons]
    by_cases h : d.group = g <;> simp [Phase.holds, h, Nat.add_comm]

/-! ### What every run keeps -/

/-- The thread model's invariant read on the program. -/
structure Coherent (p : Program) : Prop where
  entry : ∀ d ∈ p.devices, p.container.groups.lookup d.group.id = some d.group
  count : ∀ g, p.strongCount g =
    (if p.container.groups.lookup g.id = some g then 1 else 0) + p.devices.countP fun d => d.group = g
  fresh : ∀ g, p.container.files ≤ g.group → p.strongCount g = 0
  ids : p.container.KeyedById
  nested : p.container.Nested

theorem call_container {p p' : Program} {dc : DeviceCall} (h : p.call dc = some p') :
    ∃ cs : List (Call × Replies), p'.container = runCalls p.container cs ∧
      ∀ x ∈ cs, x.2 = dc.replies := by
  cases dc with
  | new fuel sysfspath k dk =>
    obtain ⟨⟨r, c', count'⟩, hnew, rfl⟩ := Option.map_eq_some'.1 h
    rcases VfioDevice.new_container hnew with rfl | ⟨groupId, rfl⟩
    · exact ⟨[], rfl, by simp⟩
    · exact ⟨[(.getGroup groupId, k)], rfl, by simp [DeviceCall.replies]⟩
  | drop i k =>
    obtain ⟨d, -, rfl⟩ := Option.map_eq_some'.1 h
    exact ⟨[(.putGroup d.group (inc p.strongCount d.group d.group), k)], rfl,
      by simp [DeviceCall.replies]⟩

/-- The containers of a program run are those of a run of the call-level model, each call
answered by the replies of one of the program's calls. -/
theorem run_container {p p' : Program} (calls : List DeviceCall) (h : p.run calls = some p') :
    ∃ cs : List (Call × Replies), p'.container = runCalls p.container cs ∧
      ∀ x ∈ cs, ∃ dc ∈ calls, x.2 = dc.replies := by
  induction calls generalizing p with
  | nil => cases h; exact ⟨[], rfl, by simp⟩
  | cons dc dcs ih =>
    obtain ⟨p₁, h₁, h₂⟩ := Option.bind_eq_some.1 h
    obtain ⟨cs₁, hc₁, hr₁⟩ := call_container h₁
    obtain ⟨cs₂, hc₂, hr₂⟩ := ih h₂
    refine ⟨cs₁ ++ cs₂, by rw [hc₂, hc₁, runCalls, runCalls, runCalls, List.foldl_append], ?_⟩
    intro x hx
    rcases List.mem_append.1 hx with hx | hx
    · exact ⟨dc, .head _, hr₁ x hx⟩
    · obtain ⟨dc', hdc', he⟩ := hr₂ x hx
      exact ⟨dc', .tail _ hdc', he⟩

theorem nested_run {p p' : Program} (hp : p.container.Nested) (calls : List DeviceCall)
    (h : p.run calls = some p') : p'.container.Nested := by
  obtain ⟨cs, hcs, -⟩ := run_container calls h
  exact hcs ▸ VfioContainer.nested_runCalls cs hp

theorem coherent_of_run {k : Replies} {c : VfioContainer} {calls : List DeviceCall} {p : Program}
    (hc : VfioContainer.new k = .ok c) (h : (init c).run calls = some p) : Coherent p :=
  have hs := (reachable_of_run hc h).inv
  { entry := fun d hd => hs.entry (.live d.group) (Multiset.mem_coe.2 (List.mem_map_of_mem _ hd)) trivial
    count := fun g => (hs.count g).trans (by rw [System.mapHolds, toSystem, holdsOf_live])
    fresh := hs.fresh
    ids := hs.ids
    nested := nested_run ((VfioContainer.new_keeps hc).nested VfioContainer.nested_empty) calls h }

/-- Each device held holds the map's entry for its group id, and the holder count of a group
object is the map's handle and one per device holding it. -/
theorem devices_hold_map_entry {k : Replies} {c : VfioContainer} {calls : List DeviceCall}
    {p : Program} (hc : VfioContainer.new k = .ok c) (h : (init c).run calls = some p) :
    (∀ d ∈ p.devices, p.container.groups.lookup d.group.id = some d.group) ∧
      ∀ g, p.strongCount g =
        (if p.container.groups.lookup g.id = some g then 1 else 0) + p.devices.countP fun d => d.group = g :=
  have hp := coherent_of_run hc h
  ⟨hp.entry, hp.count⟩

/-- A PCI device with nine regions and five IRQ indexes whose queries all fail. -/
def bareDevice : DeviceReplies :=
  ⟨fun _ _ => 3, fun _ => (0, ⟨16, vfioDeviceFlagsPci, 9, 5⟩), fun r => (-1, r),
    fun _ => (-1, memOf []), fun r => (-1, r)⟩

theorem devices_hold_map_entry_two_devices :
    ∃ c p, VfioContainer.new newReplies = .ok c ∧
      (init c).run [.new 0 groupOnePath newReplies bareDevice,
        .new 0 groupOnePath newReplies bareDevice] = some p ∧ p.devices.length = 2 ∧
      (∀ d ∈ p.devices, p.container.groups.lookup d.group.id = some d.group) ∧
      ∀ g, p.strongCount g =
        (if p.container.groups.lookup g.id = some g then 1 else 0) + p.devices.countP fun d => d.group = g :=
  ⟨_, _, rfl, rfl, rfl, @devices_hold_map_entry newReplies _
    [.new 0 groupOnePath newReplies bareDevice, .new 0 groupOnePath newReplies bareDevice] _ rfl rfl⟩

/-! ### With every unbind accepted -/

/-- With every unbind accepted, the map's keys are the bound and the attached groups, and
`get_group` hands out a held device's group from the map. -/
theorem held_groups_bound_attached {k : Replies} {c : VfioContainer} {calls : List DeviceCall}
    {p : Program} (hc : VfioContainer.new k = .ok c)
    (hk : ∀ dc ∈ calls, UnsetsSucceed dc.replies) (h : (init c).run calls = some p) :
    (∀ groupId, groupId ∈ p.container.groups ↔ groupId ∈ p.container.bound) ∧
      p.container.attached = p.container.bound ∧
      ∀ d ∈ p.devices, d.group.id ∈ p.container.bound ∧ d.group.id ∈ p.container.attached ∧
        ∀ k', p.container.getGroup k' d.group.id = (.ok d.group, p.container) := by
  obtain ⟨cs, hcs, hr⟩ := run_container calls h
  have hcon : p.container.Consistent := by
    rw [hcs]
    refine VfioContainer.consistent_runCalls cs (fun x hx => ?_)
      ((VfioContainer.new_keeps hc).consistent VfioContainer.consistent_empty)
    obtain ⟨dc, hdc, he⟩ := hr x hx
    exact he ▸ hk dc hdc
  have hentry := (coherent_of_run hc h).entry
  refine ⟨hcon.bound, hcon.attached, fun d hd => ?_⟩
  have hb : d.group.id ∈ p.container.bound :=
    (hcon.bound _).1 (AList.lookup_isSome.1 (Option.isSome_iff_exists.2 ⟨_, hentry d hd⟩))
  exact ⟨hb, hcon.attached ▸ hb, fun _ => VfioContainer.getGroup_of_lookup (hentry d hd)⟩

theorem held_groups_bound_attached_after_drop :
    ∃ c p, VfioContainer.new newReplies = .ok c ∧
      (∀ dc ∈ [DeviceCall.new 0 groupOnePath newReplies bareDevice,
        .new 0 groupOnePath newReplies bareDevice, .drop 0 newReplies], UnsetsSucceed dc.replies) ∧
      (init c).run [.new 0 groupOnePath newReplies bareDevice,
        .new 0 groupOnePath newReplies bareDevice, .drop 0 newReplies] = some p ∧
      p.devices.length = 1 ∧
      (∀ groupId, groupId ∈ p.container.groups ↔ groupId ∈ p.container.bound) ∧
      p.container.attached = p.container.bound ∧
      ∀ d ∈ p.devices, d.group.id ∈ p.container.bound ∧ d.group.id ∈ p.container.attached ∧
        ∀ k', p.container.getGroup k' d.group.id = (.ok d.group, p.container) := by
  have hk : ∀ dc ∈ [DeviceCall.new 0 groupOnePath newReplies bareDevice,
      .new 0 groupOnePath newReplies bareDevice, .drop 0 newReplies], UnsetsSucceed dc.replies := by
    simp [DeviceCall.replies, UnsetsSucceed, newReplies]
  exact ⟨_, _, rfl, hk, rfl, rfl, @held_groups_bound_attached newReplies _
    [.new 0 groupOnePath newReplies bareDevice, .new 0 groupOnePath newReplies bareDevice,
      .drop 0 newReplies] _ rfl hk rfl⟩

/-! ### Dropping a device -/

theorem Coherent.count_of_mem {p : Program} (hp : Coherent p) {d : VfioDevice} (hd : d ∈ p.devices) :
    p.strongCount d.group = 1 + p.devices.countP fun e => e.group = d.group := by
  rw [hp.count, if_pos (hp.entry d hd)]

theorem Coherent.countP_pos {p : Program} {d : VfioDevice} (hd : d ∈ p.devices) :
    0 < p.devices.countP fun e => e.group = d.group :=
  List.countP_pos_iff.2 ⟨d, hd, by simp⟩

/-- A drop tears the group down when it is the last device of its group and the detach and
unbind are accepted, and otherwise leaves the container as it was. -/
theorem drop_removes_group_iff_last {k₀ : Replies} {c : VfioContainer} {calls : List DeviceCall}
    {p : Program} {i : Nat} {d : VfioDevice} (hc : VfioContainer.new k₀ = .ok c)
    (h : (init c).run calls = some p) (hd : p.devices[i]? = some d) (k : Replies) :
    ∃ p', p.call (.drop i k) = some p' ∧ p'.devices = p.devices.eraseIdx i ∧
      (p.devices.countP (fun e => e.group = d.group) = 1 →
        0 ≤ k.ret (.deviceDelGroup d.group.id) → 0 ≤ k.ret (.groupUnsetContainer d.group.id) →
        p'.container.groups = p.container.groups.erase d.group.id ∧
        p'.container.bound = p.container.bound.erase d.group.id ∧
        p'.container.attached = p.container.attached.erase d.group.id ∧
        p'.strongCount = Function.update p.strongCount d.group 0) ∧
      (p.devices.countP (fun e => e.group = d.group) ≠ 1 →
        p'.container = p.container ∧
        p'.strongCount = Function.update p.strongCount d.group (p.strongCount d.group - 1)) := by
  have hp := coherent_of_run hc h
  have hmem := List.getElem?_mem hd
  have hcount := hp.count_of_mem hmem
  refine ⟨⟨(d.drop p.container p.strongCount k).1, (d.drop p.container p.strongCount k).2,
    p.devices.eraseIdx i⟩, by simp [call, hd], rfl, fun h1 hdel hunset => ?_, fun h1 => ?_⟩
  · obtain ⟨hr, hs⟩ :=
      VfioDevice.drop_of_last (hp.entry d hmem) (show p.strongCount d.group = 2 by omega) hdel hunset
    exact ⟨hr.groups, hr.bound, hr.attached, hs⟩
  · have hpos := Coherent.countP_pos hmem
    rw [VfioDevice.drop_of_shared (by omega)]
    exact ⟨rfl, rfl⟩

theorem drop_removes_group_iff_last_one_device :
    ∃ c p d, VfioContainer.new newReplies = .ok c ∧
      (init c).run [.new 0 groupOnePath newReplies bareDevice] = some p ∧ p.devices[0]? = some d ∧
      ∃ p', p.call (.drop 0 newReplies) = some p' ∧ p'.devices = p.devices.eraseIdx 0 ∧
        (p.devices.countP (fun e => e.group = d.group) = 1 →
          0 ≤ newReplies.ret (.deviceDelGroup d.group.id) →
          0 ≤ newReplies.ret (.groupUnsetContainer d.group.id) →
          p'.container.groups = p.container.groups.erase d.group.id ∧
          p'.container.bound = p.container.bound.erase d.group.id ∧
          p'.container.attached = p.container.attached.erase d.group.id ∧
          p'.strongCount = Function.update p.strongCount d.group 0) ∧
        (p.devices.countP (fun e => e.group = d.group) ≠ 1 →
          p'.container = p.container ∧
          p'.strongCount = Function.update p.strongCount d.group (p.strongCount d.group - 1)) :=
  ⟨_, _, _, rfl, rfl, rfl, @drop_removes_group_iff_last newReplies _
    [.new 0 groupOnePath newReplies bareDevice] _ 0 _ rfl rfl rfl newReplies⟩

/-! ### Two drops -/

/-- Drops of devices of different groups commute on all but the order of the request log. -/
theorem VfioDevice.drop_drop_comm {d₁ d₂ : VfioDevice} {c : VfioContainer}
    {count : VfioGroup → Nat} {k : Replies} (h₁ : c.groups.lookup d₁.group.id = some d₁.group)
    (h₂ : c.groups.lookup d₂.group.id = some d₂.group) (hid : d₁.group.id ≠ d₂.group.id) :
    let r₁ := d₁.drop c count k
    let r₂ := d₂.drop c count k
    let r₁₂ := d₂.drop r₁.1 r₁.2 k
    let r₂₁ := d₁.drop r₂.1 r₂.2 k
    r₁₂.1.groups = r₂₁.1.groups ∧ r₁₂.1.bound = r₂₁.1.bound ∧ r₁₂.1.attached = r₂₁.1.attached ∧
      r₁₂.1.files = r₂₁.1.files ∧ r₁₂.2 = r₂₁.2 := by
  dsimp only
  have hg : d₁.group ≠ d₂.group := fun h => hid (congrArg VfioGroup.id h)
  obtain ⟨g₁, b₁, a₁, f₁, n₁⟩ := @VfioDevice.drop_eq _ _ count k h₁
  obtain ⟨g₂, b₂, a₂, f₂, n₂⟩ := @VfioDevice.drop_eq _ _ count k h₂
  -- each drop keeps the other device's entry and count
  have e₂ : (d₁.drop c count k).1.groups.lookup d₂.group.id = some d₂.group := by
    rw [g₁]; split <;> simp only [AList.lookup_erase_ne hid.symm, h₂]
  have e₁ : (d₂.drop c count k).1.groups.lookup d₁.group.id = some d₁.group := by
    rw [g₂]; split <;> simp only [AList.lookup_erase_ne hid, h₁]
  have c₂ : (d₁.drop c count k).2 d₂.group = count d₂.group := by
    rw [n₁, Function.update_noteq (Ne.symm hg)]
  have c₁ : (d₂.drop c count k).2 d₁.group = count d₁.group := by
    rw [n₂, Function.update_noteq hg]
  obtain ⟨g₁₂, b₁₂, a₁₂, f₁₂, n₁₂⟩ := @VfioDevice.drop_eq _ _ (d₁.drop c count k).2 k e₂
  obtain ⟨g₂₁, b₂₁, a₂₁, f₂₁, n₂₁⟩ := @VfioDevice.drop_eq _ _ (d₂.drop c count k).2 k e₁
  rw [g₁₂, g₂₁, b₁₂, b₂₁, a₁₂, a₂₁, f₁₂, f₂₁, n₁₂, n₂₁, c₁, c₂,
    g₁, g₂, b₁, b₂, a₁, a₂, f₁, f₂, n₁, n₂]
  refine ⟨?_, ?_, ?_, rfl, Function.update_comm hg _ _ _⟩ <;>
    split_ifs <;> simp only [AList.erase_erase, Finset.erase_right_comm]

/-- A device of IOMMU group 2. -/
def groupTwoPath : SysfsPath := ⟨some 2, some "0000:00:02.0"⟩

theorem drops_commute {k₀ : Replies} {c : VfioContainer} {calls : List DeviceCall} {p : Program}
    (hc : VfioContainer.new k₀ = .ok c) (h : (init c).run calls = some p) {d₁ d₂ : VfioDevice}
    (h₁ : d₁ ∈ p.devices) (h₂ : d₂ ∈ p.devices) (hid : d₁.group.id ≠ d₂.group.id) (k : Replies) :
    let r₁ := d₁.drop p.container p.strongCount k
    let r₂ := d₂.drop p.container p.strongCount k
    let r₁₂ := d₂.drop r₁.1 r₁.2 k
    let r₂₁ := d₁.drop r₂.1 r₂.2 k
    r₁₂.1.groups = r₂₁.1.groups ∧ r₁₂.1.bound = r₂₁.1.bound ∧ r₁₂.1.attached = r₂₁.1.attached ∧
      r₁₂.1.files = r₂₁.1.files ∧ r₁₂.2 = r₂₁.2 :=
  have hp := coherent_of_run hc h
  VfioDevice.drop_drop_comm (hp.entry d₁ h₁) (hp.entry d₂ h₂) hid

theorem drops_commute_two_groups :
    ∃ c p, VfioContainer.new newReplies = .ok c ∧
      (init c).run [.new 0 groupOnePath newReplies bareDevice,
        .new 0 groupTwoPath newReplies bareDevice] = some p ∧
      ∃ d₁ d₂, p.devices = [d₂, d₁] ∧ d₁.group.id = 1 ∧ d₂.group.id = 2 ∧ d₁.group.id ≠ d₂.group.id ∧
        let r₁ := d₁.drop p.container p.strongCount newReplies
        let r₂ := d₂.drop p.container p.strongCount newReplies
        let r₁₂ := d₂.drop r₁.1 r₁.2 newReplies
        let r₂₁ := d₁.drop r₂.1 r₂.2 newReplies
        r₁₂.1.groups = r₂₁.1.groups ∧ r₁₂.1.bound = r₂₁.1.bound ∧
          r₁₂.1.attached = r₂₁.1.attached ∧ r₁₂.1.files = r₂₁.1.files ∧ r₁₂.2 = r₂₁.2 :=
  ⟨_, _, rfl, rfl, _, _, rfl, rfl, rfl, by decide, @drops_commute newReplies _
    [.new 0 groupOnePath newReplies bareDevice, .new 0 groupTwoPath newReplies bareDevice] _ rfl rfl
    _ _ (.tail _ (.head _)) (.head _) (by decide) newReplies⟩

/-! ### An open and its drop -/

/-- Opening a device of a group the container does not hold and dropping it gives the
container its map back. -/
theorem new_then_drop_restores {k₀ : Replies} {c : VfioContainer} {calls : List DeviceCall}
    {p : Program} {fuel : Nat} {sysfspath : SysfsPath} {k k' : Replies} {dk : DeviceReplies}
    {d : VfioDevice} {c₁ : VfioContainer} {count₁ : VfioGroup → Nat}
    (hc : VfioContainer.new k₀ = .ok c) (h : (init c).run calls = some p)
    (hnew : VfioDevice.new fuel sysfspath p.container p.strongCount k dk = some (.ok d, c₁, count₁))
    (habsent : p.container.groups.lookup d.group.id = none)
    (hdel : 0 ≤ k'.ret (.deviceDelGroup d.group.id))
    (hunset : 0 ≤ k'.ret (.groupUnsetContainer d.group.id)) :
    ∃ p₂, p.run [.new fuel sysfspath k dk, .drop 0 k'] = some p₂ ∧
      p₂.container.groups = p.container.groups ∧
      p₂.container.bound = p.container.bound.erase d.group.id ∧
      p₂.container.attached = p.container.attached ∧ p₂.strongCount = p.strongCount ∧
      p₂.devices = p.devices := by
  have hp := coherent_of_run hc h
  obtain ⟨groupId, -, hg, rfl⟩ := VfioDevice.new_ok_getGroup hnew
  obtain ⟨rfl, hadd⟩ := VfioContainer.getGroup_ok hp.ids hg
  -- `get_group` created the group: the map held no entry for its id
  have ha := hadd habsent
  have hp₁ : p.call (.new fuel sysfspath k dk) =
      some ⟨c₁, heldAfterGetGroup p.container p.strongCount d.group.id d.group, d :: p.devices⟩ := by
    simp [call, hnew]
  have hfresh : p.strongCount d.group = 0 := hp.fresh _ (by rw [ha.group])
  have h2 : heldAfterGetGroup p.container p.strongCount d.group.id d.group d.group = 2 := by
    simp [heldAfterGetGroup, habsent]
  obtain ⟨hr, hs⟩ := VfioDevice.drop_of_last (c := c₁) (by rw [ha.groups, AList.lookup_insert])
    h2 hdel hunset
  have hnmem : d.group.id ∉ p.container.groups := AList.lookup_eq_none.1 habsent
  let count₁ := heldAfterGetGroup p.container p.strongCount d.group.id d.group
  refine ⟨⟨(d.drop c₁ count₁ k').1, (d.drop c₁ count₁ k').2, p.devices⟩,
    by rw [run, hp₁]; simp [run, call, count₁], ?_, ?_, ?_, ?_, rfl⟩
  · rw [hr.groups, ha.groups, erase_insert_of_not_mem hnmem]
  · rw [hr.bound, ha.bound, Finset.erase_insert_eq_erase]
  · rw [hr.attached, ha.attached, Finset.erase_insert_eq_erase,
      Finset.erase_eq_of_not_mem fun h => hnmem (hp.nested.attached _ h)]
  · rw [hs, heldAfterGetGroup, Function.update_idem, Function.update_eq_self_iff.2 hfresh.symm]

theorem new_then_drop_restores_group_one :
    ∃ c d c₁ count₁, VfioContainer.new newReplies = .ok c ∧
      VfioDevice.new 0 groupOnePath (init c).container (init c).strongCount newReplies bareDevice =
        some (.ok d, c₁, count₁) ∧ (init c).container.groups.lookup d.group.id = none ∧
      0 ≤ newReplies.ret (.deviceDelGroup d.group.id) ∧
      0 ≤ newReplies.ret (.groupUnsetContainer d.group.id) ∧
      ∃ p₂, (init c).run [.new 0 groupOnePath newReplies bareDevice, .drop 0 newReplies] = some p₂ ∧
        p₂.container.groups = (init c).container.groups ∧
        p₂.container.bound = (init c).container.bound.erase d.group.id ∧
        p₂.container.attached = (init c).container.attached ∧
        p₂.strongCount = (init c).strongCount ∧ p₂.devices = (init c).devices :=
  ⟨_, _, _, _, rfl, rfl, by decide, by decide, by decide,
    @new_then_drop_restores newReplies _ [] _ 0 groupOnePath newReplies newReplies bareDevice _ _ _
      rfl rfl rfl (by decide) (by decide) (by decide)⟩

end Program

end VfioIoctls
