import DeviceTwin.Proofs.Bench.Concurrence
import Mathlib.Logic.Equiv.Basic

/-!
# Remotes are isolated

An action leaves every remote alone that it does not touch: the remote itself, whether it exists,
its observers, who are not called, and the devices attached to it (`Untouched`).  So the order of
two actions does not matter if they touch different remotes and reach different channels
(`Swaps`).  The one thing that shows the order is which of two new devices has the smaller key.
-/

namespace DeviceTwin

namespace Named

variable {α : Type} {n : Named α}

/-- Where no name occurs twice, something that satisfies `p` stands under a name. -/
theorem Distinct.any_iff (h : n.Distinct) {p : α → Bool} :
    n.any p = true ↔ ∃ name a, n.get? name = some a ∧ p a = true := by
  constructor
  · intro hany
    obtain ⟨⟨name, a⟩, hmem, hp⟩ := List.any_eq_true.1 hany
    exact ⟨name, a, h.get?_eq_some_iff.2 hmem, hp⟩
  · rintro ⟨name, a, hname, hp⟩
    exact any_of_get? hname hp

end Named

namespace Bench

variable {b b' b'' : Bench} {a a' : Action} {o : Outcome} {key : RemoteKey} {r : Remote}
  {k : DeviceKey} {l : Label}

/-! ## Handles -/

theorem Transition.distinct_handles (ht : Transition b a b' o) (h : b.handles.Distinct) :
    b'.handles.Distinct := by
  cases ht with
  | idle | dropDevice | start | setState | refused => exact h
  | channels a answer remotes devices handles => exact handles ▸ h
  | cloneRemote handle => exact h.put handle _
  | dropRemote handle => exact h.erase handle
  | newRemote handle => exact h.put handle _
  | newDevice => exact (handles_dropDevice? _ _).symm ▸ h
  | subscribed _ _ _ _ _ hb₁ =>
    rw [handles_dropSubscription?, hb₁]
    exact h
  | @unsubscribe subscription s => exact (handles_dropSubscription? b (some s)).symm ▸ h

theorem Reachable.distinct_handles (h : b.Reachable) : b.handles.Distinct := by
  obtain ⟨actions, rfl⟩ := h
  refine run_induction (p := fun b _ => b.handles.Distinct) List.nodup_nil ?_ actions
  intro b outcomes a _ hdistinct
  exact (transition_step b a).distinct_handles hdistinct

theorem Reachable.step (h : b.Reachable) (a : Action) : (b.step a).1.Reachable := by
  obtain ⟨actions, rfl⟩ := h
  exact ⟨actions ++ [a], by rw [run_append]; rfl⟩

/-- The handles of a remote stay what they are if the remote is not touched. -/
theorem Transition.handle_iff (ht : Transition b a b' o) (hr : b.site.remote? key = some r)
    (hkey : key ∉ b.touches a) (name : Text) :
    b'.handles.get? name = some key ↔ b.handles.get? name = some key := by
  -- A name that the action gives away, or gives up, was no handle of the remote.
  have hold : ∀ name, .handle name ∈ a.uses → b.handles.get? name ≠ some key :=
    fun _ hl hname => hkey (mem_touches hl hname)
  cases ht with
  | idle | dropDevice | start | setState | refused => exact Iff.rfl
  | channels a answer remotes devices handles => rw [handles]
  | @cloneRemote handle source key' hkey' =>
    have hne : key' ≠ key := by
      rintro rfl
      exact hkey (mem_touches (l := source.label) (by simp [Action.uses]) (by rwa [remoteOf_label]))
    by_cases heq : handle = name
    · subst heq
      have hhandle := hold handle (by simp [Action.uses])
      simp [hne, hhandle]
    · simp [heq]
  | dropRemote handle =>
    by_cases heq : handle = name
    · subst heq
      have hhandle := hold handle (by simp [Action.uses])
      simp [hhandle]
    · simp [heq]
  | newRemote handle =>
    have hne : b.site.remotes.length ≠ key := Nat.ne_of_gt (Site.lt_length_of_remote? hr)
    by_cases heq : handle = name
    · subst heq
      have hhandle := hold handle (by simp [Action.uses])
      simp [hne, hhandle]
    · simp [heq]
  | newDevice =>
    rw [handles_dropDevice?]
    exact Iff.rfl
  | subscribed _ _ _ _ _ hb₁ => rw [handles_dropSubscription?, hb₁]
  | @unsubscribe subscription s =>
    exact Iff.of_eq (congrArg (fun n : Named RemoteKey => n.get? name = some key)
      (handles_dropSubscription? b (some s)))

/-! ## What is not touched -/

/-- A remote and the devices attached to it are what they were, it exists if it did, and none of
its observers has been called. -/
structure Untouched (key : RemoteKey) (b : Bench) (o : Outcome) (b' : Bench) : Prop where
  remote? : b'.site.remote? key = b.site.remote? key
  isHeld : b'.isHeld key = b.isHeld key
  calls : o.trace.callsOf key = []
  device? : ∀ {k d}, d.remote = key → (b'.site.device? k = some d ↔ b.site.device? k = some d)

/-- Which devices are attached to a remote, and who holds it, decides whether it exists. -/
theorem isHeld_eq (h : b.handles.Distinct) (h' : b'.handles.Distinct)
    (hhandles : ∀ name, b'.handles.get? name = some key ↔ b.handles.get? name = some key)
    (hdevices : ∀ {k d}, d.remote = key →
      (b'.site.device? k = some d ↔ b.site.device? k = some d)) :
    b'.isHeld key = b.isHeld key := by
  have hall : ∀ {b : Bench}, b.handles.Distinct → (b.isHeld key = true ↔
      (∃ name, b.handles.get? name = some key) ∨
        ∃ k d, d.remote = key ∧ b.site.device? k = some d) := by
    intro b h
    rw [isHeld_iff, h.any_iff]
    simp [and_comm]
  rw [Bool.eq_iff_iff, hall h, hall h']
  simp only [hhandles]
  apply or_congr_right
  constructor
  · rintro ⟨k, d, hremote, hd⟩
    exact ⟨k, d, hremote, (hdevices hremote).1 hd⟩
  · rintro ⟨k, d, hremote, hd⟩
    exact ⟨k, d, hremote, (hdevices hremote).2 hd⟩

theorem sameFor_self (b : Bench) (a : Action) : SameFor a b b where
  site := b.agree_part a
  labels _ := sameAt_refl b _
  ends _ := rfl
  held _ := rfl

/-- Outside its part, an action on remotes changes nothing. -/
theorem Sound.local_step (h : b.Sound) (ha : a.onRemotes = true) :
    (b.step a).1.site.Closed (b.part a) ∧
      b.site.Spares (b.part a) (b.step a).2.trace (b.step a).1.site :=
  ⟨((sameFor_self b a).step h ha).site.closed, ((sameFor_self b a).step h ha).site.spares⟩

/-- A device that was not there before is attached to a remote that the action touches. -/
theorem Sound.remote_mem_touches (h : b.Sound) {d : Device} (hk : b.site.devices.length ≤ k)
    (hd : (b.step a).1.site.device? k = some d) : d.remote ∈ b.touches a := by
  have hlt := Site.lt_length_of_device? hd
  rw [h.length_step] at hlt
  cases hmade : b.made a with
  | none =>
    rw [hmade] at hlt
    exact absurd hlt (Nat.not_lt.2 hk)
  | some d₀ =>
    rw [hmade] at hlt
    obtain ⟨hremote, -, hnew, -⟩ := h.step_of_made hmade
    obtain rfl : k = b.site.devices.length := Nat.le_antisymm (Nat.le_of_lt_succ hlt) hk
    exact Option.some.inj (hnew.symm.trans hd) ▸ hremote

theorem Sound.device_iff (h : b.Sound) (ha : a.onRemotes = true) (hkey : key ∉ b.touches a)
    {d : Device} (hremote : d.remote = key) :
    (b.step a).1.site.device? k = some d ↔ b.site.device? k = some d := by
  obtain ⟨hclosed, hspares⟩ := h.local_step ha
  rcases Nat.lt_or_ge k b.site.devices.length with hlt | hge
  · by_cases hk : (b.part a).devices k
    · -- A device of the part is attached to a remote of the part, before and after.
      constructor
      · intro hd
        exact absurd (hremote ▸ hclosed.remote hk hd) hkey
      · intro hd
        exact absurd (hremote ▸ (h.closed_part a).remote hk hd) hkey
    · rw [hspares.device? hlt hk]
  · constructor
    · intro hd
      exact absurd (hremote ▸ h.remote_mem_touches hge hd) hkey
    · intro hd
      exact absurd (Site.lt_length_of_device? hd) (Nat.not_lt.2 hge)

/-- Every action leaves the remotes alone that it does not touch. -/
theorem Reachable.untouched (h : b.Reachable) (a : Action) (hr : b.site.remote? key = some r)
    (hkey : key ∉ b.touches a) : Untouched key b (b.step a).2 (b.step a).1 := by
  have hhandles := (transition_step b a).handle_iff hr hkey
  have hheld : (∀ {k d}, d.remote = key →
      ((b.step a).1.site.device? k = some d ↔ b.site.device? k = some d)) →
        (b.step a).1.isHeld key = b.isHeld key :=
    isHeld_eq h.distinct_handles (h.step a).distinct_handles hhandles
  by_cases ha : a.onRemotes = true
  · have hspares := (h.sound.local_step ha).2
    exact ⟨hspares.remote? hkey, hheld (h.sound.device_iff ha hkey), hspares.calls hkey,
      h.sound.device_iff ha hkey⟩
  · have hquiet : (b.step a).1.site.remote? key = b.site.remote? key ∧
        (b.step a).1.site.devices = b.site.devices ∧ (b.step a).2.trace = [] := by
      have ht := transition_step b a
      generalize (b.step a).1 = b', (b.step a).2 = o at ht
      cases ht with
      | idle => exact ⟨rfl, rfl, rfl⟩
      | channels a answer remotes devices =>
        exact ⟨by rw [Site.remote?, remotes]; rfl, devices, rfl⟩
      | newRemote handle name =>
        have hne : key ≠ b.site.remotes.length := Nat.ne_of_lt (Site.lt_length_of_remote? hr)
        exact ⟨by rw [Site.remote?_addRemote, if_neg hne], rfl, rfl⟩
      | cloneRemote | dropRemote | newDevice | dropDevice | start | setState | refused
      | subscribed | unsubscribe => simp [Action.onRemotes] at ha
    obtain ⟨hremote, hdevices, htrace⟩ := hquiet
    have hdevice : ∀ {k d}, d.remote = key →
        ((b.step a).1.site.device? k = some d ↔ b.site.device? k = some d) := by
      intro k d _
      rw [Site.device?, Site.device?, hdevices]
    exact ⟨hremote, hheld hdevice, by rw [htrace]; rfl, hdevice⟩

/-! ## Actions on different remotes -/

/-- Two actions on remotes touch different ones, reach different channels, and neither names what
the other one introduces. -/
structure Independent (b : Bench) (a a' : Action) : Prop where
  first : a.onRemotes = true
  second : a'.onRemotes = true
  remotes : ∀ key ∈ b.touches a, key ∉ b.touches a'
  channels : ∀ ch ∈ b.reaches a, ch ∉ b.reaches a'
  first_fresh : ∀ l ∈ a.binds, b.remoteOf l = none → l ∉ a'.uses
  second_fresh : ∀ l ∈ a'.binds, b.remoteOf l = none → l ∉ a.uses

theorem independent_iff : Independent b a a' ↔
    a.onRemotes = true ∧ a'.onRemotes = true ∧ (∀ key ∈ b.touches a, key ∉ b.touches a') ∧
      (∀ ch ∈ b.reaches a, ch ∉ b.reaches a') ∧
        (∀ l ∈ a.binds, b.remoteOf l = none → l ∉ a'.uses) ∧
          ∀ l ∈ a'.binds, b.remoteOf l = none → l ∉ a.uses :=
  ⟨fun h => ⟨h.first, h.second, h.remotes, h.channels, h.first_fresh, h.second_fresh⟩,
    fun ⟨hfirst, hsecond, hremotes, hchannels, hfresh, hfresh'⟩ =>
      ⟨hfirst, hsecond, hremotes, hchannels, hfresh, hfresh'⟩⟩

instance (b : Bench) (a a' : Action) : Decidable (Independent b a a') :=
  decidable_of_iff _ independent_iff.symm

theorem Independent.symm (h : Independent b a a') : Independent b a' a where
  first := h.second
  second := h.first
  remotes key hkey hkey' := h.remotes key hkey' hkey
  channels ch hch hch' := h.channels ch hch' hch
  first_fresh := h.second_fresh
  second_fresh := h.first_fresh

/-- A label that had a meaning before stands for a remote that both would touch. -/
theorem Independent.not_mem_uses (h : Independent b a a') (hl : l ∈ a.binds) : l ∉ a'.uses := by
  cases hremote : b.remoteOf l with
  | none => exact h.first_fresh l hl hremote
  | some key =>
    intro hl'
    exact h.remotes key (mem_touches (uses_of_binds hl) hremote) (mem_touches hl' hremote)

/-- Only names of devices get to stand for a new device. -/
theorem made_of_handle {name : Text} (hl : .handle name ∈ a.binds) : b.made a = none := by
  cases a with
  | newDevice => simp [Action.binds] at hl
  | _ => rfl

theorem made_of_subscription {name : Text} (hl : .subscription name ∈ a.binds) :
    b.made a = none := by
  cases a with
  | newDevice => simp [Action.binds] at hl
  | _ => rfl

theorem SameAt.symm (h : b.SameAt b' l) : b'.SameAt b l := by
  cases l <;> exact Eq.symm h

theorem SameAt.trans (h : b.SameAt b' l) (h' : b'.SameAt b'' l) : b.SameAt b'' l := by
  cases l <;> exact Eq.trans h' h

theorem Sound.exists_remote?_of_touches (h : b.Sound) (hkey : key ∈ b.touches a) :
    ∃ r, b.site.remote? key = some r := by
  obtain ⟨l, -, hremote⟩ := List.mem_filterMap.1 hkey
  cases l with
  | handle name => exact h.handle hremote
  | device name =>
    have hkey' : b.remoteKey? (.device name) = some key := hremote
    exact h.exists_remote?_of_remoteKey? hkey'
  | subscription name =>
    obtain ⟨s, hs, rfl⟩ := Option.map_eq_some_iff.1 hremote
    obtain ⟨r, hr, -⟩ := h.subscription hs
    exact ⟨r, hr⟩

/-- What has been done to either part first and to the other one then can be read off the two. -/
theorem eq_of_disjoint {α : Type} {p q : Prop} {x x₁ x₂ x₁₂ x₂₁ : α} (hpq : p → ¬ q)
    (h₁ : ¬ p → x₁ = x) (h₂ : ¬ q → x₂ = x) (h₁₂ : ¬ q → x₁₂ = x₁) (h₂₁ : ¬ p → x₂₁ = x₂)
    (hsame₁ : p → x₂₁ = x₁) (hsame₂ : q → x₁₂ = x₂) : x₂₁ = x₁₂ := by
  by_cases hp : p
  · rw [hsame₁ hp, h₁₂ (hpq hp)]
  · by_cases hq : q
    · rw [hsame₂ hq, h₂₁ hp]
    · rw [h₂₁ hp, h₂ hq, h₁₂ hq, h₁ hp]

section Order

variable (h : Independent b a a') (hb : b.Reachable)

include h hb

/-- To the one action, the bench looks the same after the other one. -/
theorem Independent.sameFor : SameFor a b (b.step a').1 where
  site := by
    obtain ⟨-, hspares⟩ := hb.sound.local_step h.second
    refine ⟨fun {key} hkey => hspares.remote? (h.remotes key hkey), fun {k} hk => ?_,
      fun {ch} hch => hspares.channel? (h.channels ch hch), fun {k} hk => ?_⟩
    · -- A device is attached to one remote only, so that it cannot belong to both parts.
      obtain ⟨d, hd, hremote⟩ := hk
      refine hspares.device? (Site.lt_length_of_device? hd) ?_
      rintro ⟨d', hd', hremote'⟩
      obtain rfl := Option.some.inj (hd.symm.trans hd')
      exact h.remotes d.remote hremote hremote'
    · have hlt := ((b.agree_part a).made hk).1
      exact ⟨hlt, Nat.lt_of_lt_of_le hlt hspares.made⟩
  labels hl := (transition_step b a').sameAt fun hl' => h.symm.not_mem_uses hl' hl
  ends name := by rw [channels_step h.second]
  held hkey := by
    obtain ⟨r, hr⟩ := hb.sound.exists_remote?_of_touches hkey
    exact (hb.untouched a' hr (h.remotes _ hkey)).isHeld

theorem Independent.concurs : Concurs a b (b.step a').1 :=
  (h.sameFor hb).step hb.sound h.first

theorem Independent.made_step : (b.step a').1.made a = b.made a :=
  (h.sameFor hb).made hb.sound

theorem Independent.remotes_eq :
    ((b.step a').1.step a).1.site.remotes = ((b.step a).1.step a').1.site.remotes := by
  have hsite := (h.concurs hb).site
  have hsite' := (h.symm.concurs hb).site
  apply List.ext_getElem?
  intro key
  exact eq_of_disjoint (h.remotes key) hsite.spares.remote? hsite'.spares.remote?
    hsite'.spares'.remote? hsite.spares'.remote? hsite.agree.remote? hsite'.agree.remote?

theorem Independent.site_channels_eq :
    ((b.step a').1.step a).1.site.channels = ((b.step a).1.step a').1.site.channels := by
  have hsite := (h.concurs hb).site
  have hsite' := (h.symm.concurs hb).site
  apply List.ext_getElem?
  intro ch
  exact eq_of_disjoint (h.channels ch) hsite.spares.channel? hsite'.spares.channel?
    hsite'.spares'.channel? hsite.spares'.channel? hsite.agree.channel? hsite'.agree.channel?

/-- Devices that were there before. -/
theorem Independent.device?_eq (hk : k < b.site.devices.length) :
    ((b.step a').1.step a).1.site.device? k = ((b.step a).1.step a').1.site.device? k := by
  have hsite := (h.concurs hb).site
  have hsite' := (h.symm.concurs hb).site
  have hdisjoint : (b.part a).devices k → ¬ (b.part a').devices k := by
    rintro ⟨d, hd, hremote⟩ ⟨d', hd', hremote'⟩
    obtain rfl := Option.some.inj (hd.symm.trans hd')
    exact h.remotes d.remote hremote hremote'
  exact eq_of_disjoint hdisjoint (hsite.spares.device? hk) (hsite'.spares.device? hk)
    (hsite'.spares'.device? (Nat.lt_of_lt_of_le hk hsite.spares.made))
    (hsite.spares'.device? (Nat.lt_of_lt_of_le hk hsite'.spares.made))
    hsite.agree.device? hsite'.agree.device?

/-- Labels get the same meaning in either order, unless that is a new device. -/
theorem Independent.sameAt (hnone : l ∈ a.binds → b.made a = none)
    (hnone' : l ∈ a'.binds → b.made a' = none) :
    ((b.step a).1.step a').1.SameAt ((b.step a').1.step a).1 l := by
  have hkept : ∀ {b : Bench} {a : Action}, l ∉ a.binds → b.SameAt (b.step a).1 l :=
    fun {b a} hl => (transition_step b a).sameAt hl
  by_cases hl : l ∈ a.binds
  · have hl' : l ∉ a'.binds := fun hl' => h.not_mem_uses hl (uses_of_binds hl')
    exact (hkept hl').symm.trans ((h.concurs hb).labels hl (hnone hl))
  · by_cases hl' : l ∈ a'.binds
    · exact ((h.symm.concurs hb).labels hl' (hnone' hl')).symm.trans (hkept hl)
    · exact ((hkept hl).trans (hkept hl')).symm.trans ((hkept hl').trans (hkept hl))

theorem Independent.length_devices : ((b.step a).1.step a').1.site.devices.length =
    b.site.devices.length + (b.made a).toList.length + (b.made a').toList.length := by
  rw [(hb.step a).sound.length_step, hb.sound.length_step, h.symm.made_step hb]

end Order

theorem Sound.device?_step_new (h : b.Sound) (a : Action) (i : Nat) :
    (b.step a).1.site.device? (b.site.devices.length + i) = (b.made a).toList[i]? := by
  have hbeyond : (b.made a).toList.length ≤ i →
      (b.step a).1.site.device? (b.site.devices.length + i) = none := by
    intro hle
    have hlength : (b.step a).1.site.devices.length ≤ b.site.devices.length + i := by
      rw [h.length_step]
      exact Nat.add_le_add_left hle _
    rw [Site.device?, List.getElem?_eq_none hlength]
    rfl
  rcases Nat.lt_or_ge i (b.made a).toList.length with hlt | hge
  · cases hmade : b.made a with
    | none => simp [hmade] at hlt
    | some d =>
      obtain rfl : i = 0 := by simpa [hmade] using hlt
      exact (h.step_of_made hmade).2.2.1
  · rw [hbeyond hge, List.getElem?_eq_none hge]

/-- New devices get their keys in the order in which they are made. -/
theorem Independent.device?_new (h : Independent b a a') (hb : b.Reachable) (i : Nat) :
    ((b.step a).1.step a').1.site.device? (b.site.devices.length + i) =
      ((b.made a).toList ++ (b.made a').toList)[i]? := by
  have hlength := hb.sound.length_step a
  rcases Nat.lt_or_ge i (b.made a).toList.length with hlt | hge
  · have hnot : ¬ (b.part a').devices (b.site.devices.length + i) := fun hpart =>
      absurd ((b.agree_part a').made hpart).1 (Nat.not_lt.2 (Nat.le_add_right _ _))
    have hold : b.site.devices.length + i < (b.step a).1.site.devices.length := by
      rw [hlength]
      exact Nat.add_lt_add_left hlt _
    rw [(h.symm.concurs hb).site.spares'.device? hold hnot, hb.sound.device?_step_new,
      List.getElem?_append_left hlt]
  · have hnew := (hb.step a).sound.device?_step_new a' (i - (b.made a).toList.length)
    rw [hlength, Nat.add_assoc, Nat.add_sub_cancel' hge, h.symm.made_step hb] at hnew
    rw [hnew, List.getElem?_append_right hge]

/-! ## The order of two new devices -/

/-- If two actions both make a device, the order decides which device gets which key. -/
def exchange (b : Bench) (a a' : Action) : Equiv.Perm DeviceKey :=
  if (b.made a).isSome ∧ (b.made a').isSome then
    Equiv.swap b.site.devices.length (b.site.devices.length + 1)
  else Equiv.refl DeviceKey

theorem exchange_of_lt (b : Bench) (a a' : Action) (hk : k < b.site.devices.length) :
    b.exchange a a' k = k := by
  unfold exchange
  split
  · exact Equiv.swap_apply_of_ne_of_ne (Nat.ne_of_lt hk) (Nat.ne_of_lt (Nat.lt_succ_of_lt hk))
  · rfl

/-- The device that is made first in one order comes after the other one in the other order. -/
theorem exchange_first {d : Device} (hmade : b.made a = some d) :
    b.exchange a a' b.site.devices.length =
      b.site.devices.length + (b.made a').toList.length := by
  cases hmade' : b.made a' with
  | none => simp [exchange, hmade']
  | some d' => simp [exchange, hmade, hmade']

theorem map_exchange_exchange (b : Bench) (a a' : Action) (key : Option DeviceKey) :
    (key.map (b.exchange a' a)).map (b.exchange a a') = key := by
  have hcomm : b.exchange a' a = b.exchange a a' := if_congr and_comm rfl rfl
  cases key with
  | none => rfl
  | some k =>
    rw [hcomm, Option.map_some, Option.map_some]
    unfold exchange
    split
    · exact congrArg (fun σ : Equiv.Perm DeviceKey => some (σ k)) (Equiv.swap_swap _ _)
    · rfl

theorem map_exchange {key : Option DeviceKey}
    (hlt : ∀ k, key = some k → k < b.site.devices.length) :
    key.map (b.exchange a a') = key := by
  cases key with
  | none => rfl
  | some k => exact congrArg some (b.exchange_of_lt a a' (hlt k rfl))

/-- Names of devices lead to devices that have been made. -/
theorem Sound.lt_of_name (h : b.Sound) {name : Text} (hk : b.devices.get? name = some k) :
    k < b.site.devices.length := by
  obtain ⟨d, hd⟩ := h.devices.leads hk
  exact Site.lt_length_of_device? hd

section Order

variable (h : Independent b a a') (hb : b.Reachable)

include h hb

theorem Independent.device?_exchange (k : DeviceKey) :
    ((b.step a').1.step a).1.site.device? (b.exchange a a' k) =
      ((b.step a).1.step a').1.site.device? k := by
  rcases Nat.lt_or_ge k b.site.devices.length with hlt | hge
  · rw [b.exchange_of_lt a a' hlt, h.device?_eq hb hlt]
  · obtain ⟨i, rfl⟩ := Nat.exists_eq_add_of_le hge
    have hfirst := h.device?_new hb
    have hsecond := h.symm.device?_new hb
    cases hmade : b.made a with
    | none =>
      have hsame : b.exchange a a' (b.site.devices.length + i) = b.site.devices.length + i := by
        simp [exchange, hmade]
      rw [hsame, hfirst, hsecond, hmade]
      simp
    | some d =>
      cases hmade' : b.made a' with
      | none =>
        have hsame : b.exchange a a' (b.site.devices.length + i) = b.site.devices.length + i := by
          simp [exchange, hmade']
        rw [hsame, hfirst, hsecond, hmade']
        simp
      | some d' =>
        have hswap : b.exchange a a' =
            Equiv.swap b.site.devices.length (b.site.devices.length + 1) := by
          simp [exchange, hmade, hmade']
        rw [hmade, hmade'] at hfirst hsecond
        -- The two new keys change places, and there are no others.
        match i with
        | 0 =>
          have hnew : b.exchange a a' (b.site.devices.length + 0) = b.site.devices.length + 1 := by
            rw [hswap]
            exact Equiv.swap_apply_left _ _
          rw [hnew, hsecond 1, hfirst 0]
          rfl
        | 1 =>
          rw [hswap, Equiv.swap_apply_right, hfirst 1]
          exact hsecond 0
        | i + 2 =>
          have hne : b.site.devices.length + (i + 2) ≠ b.site.devices.length := by omega
          have hne' : b.site.devices.length + (i + 2) ≠ b.site.devices.length + 1 := by omega
          rw [hswap, Equiv.swap_apply_of_ne_of_ne hne hne', hfirst, hsecond]
          rfl

/-- The name of a device that the first action makes. -/
theorem Independent.devices_of_binds {name : Text} (hl : .device name ∈ a.binds) :
    ((b.step a').1.step a).1.devices.get? name =
      (((b.step a).1.step a').1.devices.get? name).map (b.exchange a a') := by
  have hl' : .device name ∉ a'.binds := fun hl' => h.not_mem_uses hl (uses_of_binds hl')
  have hkept : ((b.step a).1.step a').1.devices.get? name = (b.step a).1.devices.get? name :=
    (transition_step _ a').sameAt hl'
  have hsound := hb.sound
  cases hmade : b.made a with
  | none =>
    have hsame : ((b.step a').1.step a).1.devices.get? name =
        ((b.step a).1.step a').1.devices.get? name :=
      h.sameAt hb (fun _ => hmade) fun hmem => absurd hmem hl'
    rw [hsame, map_exchange]
    intro k hk
    have hlt := (hsound.step a).lt_of_name (hkept ▸ hk)
    rwa [length_step_of_none hmade] at hlt
  | some d =>
    have hmade' : (b.step a').1.made a = some d := (h.made_step hb).trans hmade
    have hfirst := (hsound.step_of_made hmade).2.2.2 hl
    have hsecond := ((hsound.step a').step_of_made hmade').2.2.2 hl
    rw [hkept, hfirst, hsecond, hsound.length_step, Option.map_some, exchange_first hmade]

/-- Names of devices stand for the same devices in either order. -/
theorem Independent.devices_eq (name : Text) :
    ((b.step a').1.step a).1.devices.get? name =
      (((b.step a).1.step a').1.devices.get? name).map (b.exchange a a') := by
  have hsound := hb.sound
  by_cases hl : .device name ∈ a.binds
  · exact h.devices_of_binds hb hl
  · by_cases hl' : .device name ∈ a'.binds
    · -- What is bound by the second action is read off the orders exchanged.
      rw [h.symm.devices_of_binds hb hl', map_exchange_exchange]
    · have hsame : ((b.step a').1.step a).1.devices.get? name =
          ((b.step a).1.step a').1.devices.get? name :=
        h.sameAt hb (fun hmem => absurd hmem hl) fun hmem => absurd hmem hl'
      have hkept : ((b.step a).1.step a').1.devices.get? name = b.devices.get? name :=
        SameAt.trans (l := .device name) ((transition_step b a).sameAt hl)
          ((transition_step _ a').sameAt hl')
      rw [hsame, map_exchange]
      intro k hk
      exact hsound.lt_of_name (hkept ▸ hk)

end Order

/-! ## Isolation -/

/-- Two benches are the same but for the keys of some devices, which no remote knows. -/
structure Renamed (σ : Equiv.Perm DeviceKey) (b b' : Bench) : Prop where
  remotes : b'.site.remotes = b.site.remotes
  channels : b'.site.channels = b.site.channels
  length_devices : b'.site.devices.length = b.site.devices.length
  device? : ∀ k, b'.site.device? (σ k) = b.site.device? k
  observers : ∀ {key r id k}, b.site.remote? key = some r → (id, .device k) ∈ r.observers → σ k = k
  handle : ∀ name, b'.handles.get? name = b.handles.get? name
  device : ∀ name, b'.devices.get? name = (b.devices.get? name).map σ
  subscription : ∀ name, b'.subscriptions.get? name = b.subscriptions.get? name
  ends : ∀ name, b'.channels.get? name = b.channels.get? name

/-- Two actions can be swapped: each has the same outcome in either order, the benches that they
lead to differ in the keys of new devices only, and every observer and every channel gets the
same. -/
structure Swaps (b : Bench) (a a' : Action) : Prop where
  first : ((b.step a').1.step a).2 = (b.step a).2
  second : ((b.step a).1.step a').2 = (b.step a').2
  bench : ∃ σ : Equiv.Perm DeviceKey, (∀ k < b.site.devices.length, σ k = k) ∧
    Renamed σ ((b.step a).1.step a').1 ((b.step a').1.step a).1
  calls : ∀ key, (b.history [a', a]).callsOf key = (b.history [a, a']).callsOf key
  attempts : ∀ ch, (b.history [a', a]).attemptsTo ch = (b.history [a, a']).attemptsTo ch

section Order

variable (h : Independent b a a') (hb : b.Reachable)

include h hb

/-- A new device observes nothing, so that remotes know only devices that were there before. -/
theorem Independent.lt_of_observer
    (hr : ((b.step a).1.step a').1.site.remote? key = some r) {id : ObserverId}
    (hmem : (id, .device k) ∈ r.observers) : k < b.site.devices.length := by
  obtain ⟨d, hd, -, hsub⟩ := ((hb.step a).step a').sound.site.observed hr hmem
  have hmade : ∀ {a : Action}, d ∈ (b.made a).toList → d.subscription = none := by
    intro a hmem
    obtain ⟨-, -, -, keys, -, -, -, hd⟩ := made_eq_some (Option.mem_toList.1 hmem)
    rw [hd]
  rcases Nat.lt_or_ge k b.site.devices.length with hlt | hge
  · exact hlt
  · obtain ⟨i, rfl⟩ := Nat.exists_eq_add_of_le hge
    rw [h.device?_new hb] at hd
    have hnone : d.subscription = none := by
      rcases List.mem_append.1 (List.mem_of_getElem? hd) with hfirst | hsecond
      · exact hmade hfirst
      · exact hmade hsecond
    simp [hnone] at hsub

theorem Independent.renamed :
    Renamed (b.exchange a a') ((b.step a).1.step a').1 ((b.step a').1.step a).1 where
  remotes := h.remotes_eq hb
  channels := h.site_channels_eq hb
  length_devices := by
    rw [h.length_devices hb, h.symm.length_devices hb, Nat.add_right_comm]
  device? := h.device?_exchange hb
  observers hr hmem := b.exchange_of_lt a a' (h.lt_of_observer hb hr hmem)
  handle name := h.sameAt hb (l := .handle name) (made_of_handle · ) (made_of_handle ·)
  device := h.devices_eq hb
  subscription name :=
    h.sameAt hb (l := .subscription name) (made_of_subscription ·) (made_of_subscription ·)
  ends name := by
    rw [channels_step h.first, channels_step h.second, channels_step h.second,
      channels_step h.first]

theorem Independent.swaps : Swaps b a a' := by
  have hfirst := h.concurs hb
  have hsecond := h.symm.concurs hb
  have hhistory : b.history [a, a'] = (b.step a).2.trace ++ (b.step a').2.trace := by
    simp [history, happenings, run, hsecond.outcome]
  have hhistory' : b.history [a', a] = (b.step a').2.trace ++ (b.step a).2.trace := by
    simp [history, happenings, run, hfirst.outcome]
  refine ⟨hfirst.outcome, hsecond.outcome,
    ⟨b.exchange a a', fun k hk => b.exchange_of_lt a a' hk, h.renamed hb⟩, ?_, ?_⟩
  -- A remote, and a channel, hears of one of the two actions at most.
  · intro key
    rw [hhistory, hhistory', Trace.callsOf_append, Trace.callsOf_append]
    by_cases hkey : key ∈ b.touches a
    · simp [hsecond.site.spares.calls (h.remotes key hkey)]
    · simp [hfirst.site.spares.calls hkey]
  · intro ch
    rw [hhistory, hhistory', Trace.attemptsTo_append, Trace.attemptsTo_append]
    by_cases hch : ch ∈ b.reaches a
    · simp [hsecond.site.spares.attempts (h.channels ch hch)]
    · simp [hfirst.site.spares.attempts hch]

end Order

/-- An action leaves alone every remote that it does not touch, and two actions on different
remotes can be swapped. -/
theorem remotes_are_isolated (h : b.Reachable) :
    (∀ a, ∀ key < b.site.remotes.length, key ∉ b.touches a →
      Untouched key b (b.step a).2 (b.step a).1) ∧
    ∀ a a', Independent b a a' → Swaps b a a' := by
  constructor
  · intro a key hlt hkey
    exact h.untouched a (List.getElem?_eq_getElem hlt) hkey
  · intro a a' hindependent
    exact hindependent.swaps h

/-- Two remotes, each with a device that publishes to a channel of its own.  A recorder of the first
one fails when it is told that the remote is connected. -/
def apart : List Action :=
  [.newRemote ['r'] ['p'], .newRemote ['s'] ['q'], .newChannel ['c'] 0, .newChannel ['e'] 0,
    .newDevice ['a'] (.handle ['r']) [['c']], .newDevice ['b'] (.handle ['s']) [['e']],
    .start ['a'], .subscribe ['t'] (.handle ['r']) (some .connected)]

/-- The second remote does not notice that the first one is poisoned, its device may be started
before or after that, and each of them may get another device first. -/
theorem remotes_are_isolated_apart :
    let b := (run {} apart).1
    let a := Action.setState (.handle ['r']) .connected
    (b.step a).2.answer = .panicked .observerFailed ∧
      Untouched 1 b (b.step a).2 (b.step a).1 ∧ Swaps b a (.start ['b']) ∧
        Swaps b (.newDevice ['d'] (.handle ['r']) [['c']])
          (.newDevice ['f'] (.device ['b']) [['e']]) := by
  intro b a
  have hall := remotes_are_isolated (b := b) ⟨apart, rfl⟩
  exact ⟨by decide, hall.1 a 1 (by decide) (by decide), hall.2 _ _ (by decide),
    hall.2 _ _ (by decide)⟩

end Bench

end DeviceTwin
