import DevSys.Device.OfflineCheck
import DevSys.Router.Homes
/-!
# A migration moves one device

The record is erased under the tenant where it is found and stored under the
new one, which may be the same or not known yet. No device is lost or doubled
as long as each has one home.
-/
open Cxx

namespace DevSys.DeviceManager
open OfflineCheck

/-! ## Counting homes -/

theorem mem_ids {s : DeviceManager} {d : Str} : d ∈ s.keys.map (·.2) ↔ ∃ t, (s.rec? t d).isSome := by
  rw [List.mem_map]
  constructor
  · rintro ⟨⟨t, d⟩, hk, rfl⟩
    exact ⟨t, mem_keys.1 hk⟩
  · rintro ⟨t, ht⟩
    exact ⟨(t, d), mem_keys.2 ht, rfl⟩

theorem UniqueHome.nodup_ids {s : DeviceManager} (hu : UniqueHome s) : (s.keys.map (·.2)).Nodup := by
  refine s.nodup_keys.map_on ?_
  rintro ⟨t, d⟩ hk ⟨t', d'⟩ hk' hd
  obtain rfl : d = d' := hd
  rw [hu d t t' (mem_keys.1 hk) (mem_keys.1 hk')]

/-- With one home each, equal sets of devices are of one size. -/
theorem UniqueHome.total_device_count_eq {s s' : DeviceManager} (hu : UniqueHome s) (hu' : UniqueHome s')
    (h : ∀ d, (∃ t, (s'.rec? t d).isSome) ↔ ∃ t, (s.rec? t d).isSome) :
    s'.total_device_count = s.total_device_count := by
  have hids : (s'.keys.map (·.2)).Perm (s.keys.map (·.2)) := by
    refine (List.perm_ext_iff_of_nodup hu'.nodup_ids hu.nodup_ids).2 fun d => ?_
    rw [mem_ids, mem_ids, h]
  have hlen := hids.length_eq
  rw [List.length_map, List.length_map] at hlen
  rw [DeviceManager.total_device_count_eq, DeviceManager.total_device_count_eq, hlen]

/-! ## The migration -/

/-- The device `d` with the record `dev` has moved to the tenant `new`, and nothing else has changed. -/
structure Relocated (s s' : DeviceManager) (d new : Str) (dev : Device) : Prop where
  count : s'.total_device_count = s.total_device_count
  moved : s'.rec? new d = some { dev with tenant_id := new }
  nowhere_else : ∀ t, t ≠ new → s'.rec? t d = none
  others : ∀ t d', d' ≠ d → s'.rec? t d' = s.rec? t d'
  unique : UniqueHome s'
  labelled : Labelled s'

/-- Only the record of the device is touched. -/
theorem UniqueHome.migrate_device_rec? {s : DeviceManager} (hu : UniqueHome s) {d t : Str} {dev : Device}
    (hdev : s.rec? t d = some dev) (new t' d' : Str) :
    (s.migrate_device d new).2.rec? t' d' =
      if d' = d then if t' = new then some { dev with tenant_id := new } else none else s.rec? t' d' := by
  have hloc : s.locate d = some (t, dev) :=
    locate_of_unique hdev fun t' ht' => hu d t' t ht' (by rw [hdev]; rfl)
  rw [DeviceManager.migrate_device_rec? hloc, rec?_unstore]
  by_cases hd : d' = d
  · subst hd
    by_cases ht : t' = new
    · rw [if_pos ⟨ht, rfl⟩, if_pos rfl, if_pos ht]
    · rw [if_neg fun h => ht h.1, if_pos rfl, if_neg ht]
      -- under a third tenant nothing was stored
      split
      · rfl
      · rename_i hne
        by_contra hsome
        exact hne ⟨hu d' t' t (Option.isSome_iff_ne_none.2 hsome) (by rw [hdev]; rfl), rfl⟩
  · rw [if_neg fun h => hd h.2, if_neg fun h => hd h.2, if_neg hd]

theorem migrate_device_ok_iff (s : DeviceManager) (d new : Str) :
    (s.migrate_device d new).1 = .OK ↔ ∃ t, (s.rec? t d).isSome := by
  cases hloc : s.locate d with
  | none =>
    rw [migrate_device_none hloc]
    refine iff_of_false (nomatch ·) ?_
    rintro ⟨t, ht⟩
    rw [locate_none hloc] at ht
    cases ht
  | some found =>
    obtain ⟨t, dev⟩ := found
    simp only [migrate_device, hloc]
    exact iff_of_true trivial ⟨t, by rw [locate_some hloc]; rfl⟩

/-- With one home for each device and each record under its own keys, a
migration finds the device exactly if it is stored, and then moves its record
and nothing else. Otherwise nothing changes. -/
theorem migrate_device_conserves {s : DeviceManager} (hu : UniqueHome s) (hl : Labelled s) (d new : Str) :
    ((s.migrate_device d new).1 = .OK ↔ ∃ t, (s.rec? t d).isSome) ∧
      (∀ t dev, s.rec? t d = some dev → Relocated s (s.migrate_device d new).2 d new dev) ∧
      ((∀ t, s.rec? t d = none) → (s.migrate_device d new).2 = s) := by
  refine ⟨migrate_device_ok_iff s d new, fun t dev hdev => ?_, fun hnone => ?_⟩
  · have hrec := hu.migrate_device_rec? hdev new
    have hkeyed : Keyed s := fun t d dev h => (hl t d dev h).1
    have hunique : UniqueHome (s.migrate_device d new).2 := (uniqueHome_step hkeyed hu .migrate).2 trivial
    have hlabelled : Labelled (s.migrate_device d new).2 := hl.step (e := .migrate_device d new) rfl
    have hmoved : (s.migrate_device d new).2.rec? new d = some { dev with tenant_id := new } := by
      rw [hrec, if_pos rfl, if_pos rfl]
    refine ⟨hu.total_device_count_eq hunique fun d' => ?_, hmoved, ?_, ?_, hunique, hlabelled⟩
    · by_cases hd : d' = d
      · subst hd
        exact iff_of_true ⟨new, by rw [hmoved]; rfl⟩ ⟨t, by rw [hdev]; rfl⟩
      · simp only [hrec, if_neg hd]
    · intro t' ht'
      rw [hrec, if_pos rfl, if_neg ht']
    · intro t' d' hd
      rw [hrec, if_neg hd]
  · cases hloc : s.locate d with
    | none => rw [migrate_device_none hloc]
    | some found =>
      obtain ⟨t, dev⟩ := found
      have hstored := locate_some hloc
      rw [hnone] at hstored
      cases hstored

/-- A device moves from one tenant to a new one. -/
theorem migrate_device_conserves_one :
    let dev : Device := { tenant_id := "acme".toList, device_id := "dev-1".toList }
    let s : DeviceManager := store {} "acme".toList "dev-1".toList dev
    Relocated s (s.migrate_device "dev-1".toList "globex".toList).2 "dev-1".toList "globex".toList dev := by
  intro dev s
  have hrec := rec?_store {} "acme".toList "dev-1".toList dev
  have hl : Labelled s := labelled_empty.of_rec? hrec fun _ h => Option.some.inj h ▸ ⟨rfl, rfl⟩
  have hu : UniqueHome s := (uniqueHome_store_iff hrec uniqueHome_empty).2 fun t ht => by
    rw [rec?_empty] at ht
    cases ht
  exact (migrate_device_conserves hu hl _ _).2.1 "acme".toList dev rfl

end DevSys.DeviceManager
