import DevSys.Server.DeviceStatements
/-!
# Device writes that fail

A registration and a migration change the devices in memory first and ask the
database afterwards. If the statement fails the caller gets an error and the
devices stay changed.
-/
open Cxx

namespace DevSys.DeviceWrites
open DeviceManager DeviceHandlers

/-- The same records under the same keys. -/
def SameDevices (s s' : DeviceManager) : Prop := ∀ t d, s'.rec? t d = s.rec? t d

theorem sameDevices_refl (s : DeviceManager) : SameDevices s s := fun _ _ => rfl

/-! ## A registration -/

/-- The database takes the device, or there is none, or the very same record is stored already. -/
def RegisterKeeps (upsert : Option StatusCode) (device : Device) (s : DeviceManager) : Prop :=
  (∀ sc ∈ upsert, sc = .OK) ∨ s.rec? device.tenant_id device.device_id = some device

theorem register_device_failed_iff (upsert : Option StatusCode) (device : Device) (s : DeviceManager) :
    (s.register_device upsert device).1 ≠ .OK ↔ ∃ sc ∈ upsert, sc ≠ .OK := by
  unfold register_device
  cases upsert with
  | none => simp
  | some sc =>
    by_cases hsc : sc = .OK
    · simp [hsc]
    · simp [hsc]

theorem register_device_same_iff (upsert : Option StatusCode) (device : Device) (s : DeviceManager) :
    SameDevices s (s.register_device upsert device).2 ↔ s.rec? device.tenant_id device.device_id = some device := by
  have hrec := register_device_rec? upsert device s
  constructor
  · intro h
    rw [← h, hrec, if_pos ⟨rfl, rfl⟩]
  · intro hsame t d
    rw [hrec]
    split
    · rename_i hk
      rw [hk.1, hk.2, hsame]
    · rfl

theorem register_device_kept_iff (upsert : Option StatusCode) (device : Device) (s : DeviceManager) :
    ((s.register_device upsert device).1 ≠ .OK → SameDevices s (s.register_device upsert device).2) ↔
      RegisterKeeps upsert device s := by
  rw [register_device_failed_iff, register_device_same_iff, RegisterKeeps, or_iff_not_imp_left]
  push Not
  exact Iff.rfl

/-! ## A migration -/

/-- The database takes the update, or no device moves, or the device is of that tenant already. -/
def MigrationKeeps (update : StatusCode) (req : HttpRequest) (s : DeviceManager) : Prop :=
  update = .OK ∨ ∀ device_id ∈ migrated_device req.path, tenant_in_body req ≠ [] →
    ∀ t dev, s.locate device_id = some (t, dev) → t = tenant_in_body req ∧ dev.tenant_id = tenant_in_body req

/-- Only a move within a tenant leaves the records as they are. -/
theorem migrate_device_same_iff {s : DeviceManager} {d t : Str} {dev : Device} (hloc : s.locate d = some (t, dev))
    (new : Str) : SameDevices s (s.migrate_device d new).2 ↔ t = new ∧ dev.tenant_id = new := by
  have hrec := migrate_device_rec? hloc new
  have hdev := locate_some hloc
  constructor
  · intro h
    have ht : t = new := by
      by_contra hne
      have hold := h t d
      rw [hrec, if_neg fun hk => hne hk.1, rec?_unstore, if_pos ⟨rfl, rfl⟩, hdev] at hold
      cases hold
    subst ht
    have hnew := h t d
    rw [hrec, if_pos ⟨rfl, rfl⟩, hdev] at hnew
    exact ⟨rfl, (congrArg Device.tenant_id (Option.some.inj hnew)).symm⟩
  · rintro ⟨rfl, htenant⟩ t' d'
    have hself : { dev with tenant_id := t } = dev := by rw [← htenant]
    rw [hrec, hself, rec?_unstore]
    by_cases hk : t' = t ∧ d' = d
    · rw [if_pos hk, hk.1, hk.2, hdev]
    · rw [if_neg hk, if_neg hk]

theorem put_device_tenant_kept_iff {update : StatusCode} {req : HttpRequest} {s : DeviceManager} {h : Handled}
    (hput : put_device_tenant update req s = .ok h) :
    (400 ≤ h.response.status_code → SameDevices s h.device_mgr) ↔ MigrationKeeps update req s := by
  unfold MigrationKeeps
  rcases put_device_tenant_cases hput with
    ⟨hm, rfl⟩ | ⟨id, hm, ⟨ht, rfl⟩ | ⟨ht, hloc, rfl⟩ | ⟨ht, hloc, rfl⟩⟩
  · refine iff_of_true (fun _ => sameDevices_refl s) (.inr fun id hid => ?_)
    rw [hm] at hid
    cases hid
  · exact iff_of_true (fun _ => sameDevices_refl s) (.inr fun id _ hne => absurd ht hne)
  · refine iff_of_true (fun _ => sameDevices_refl s) (.inr fun id' hid _ t dev hfound => ?_)
    rw [hm] at hid
    cases hid
    rw [hloc] at hfound
    cases hfound
  · -- the device is moved, whatever the database answers
    obtain ⟨⟨t, dev⟩, hfound⟩ := Option.ne_none_iff_exists'.1 hloc
    have hmoved : (∀ id' ∈ migrated_device req.path, tenant_in_body req ≠ [] → ∀ t dev, s.locate id' = some (t, dev) →
        t = tenant_in_body req ∧ dev.tenant_id = tenant_in_body req) ↔
        SameDevices s (s.migrate_device id (tenant_in_body req)).2 := by
      rw [migrate_device_same_iff hfound]
      constructor
      · intro hall
        exact hall id hm ht t dev hfound
      · intro hsame id' hid _ t' dev' hfound'
        rw [hm] at hid
        cases hid
        rw [hfound] at hfound'
        cases hfound'
        exact hsame
    rw [hmoved]
    by_cases hupdate : update = .OK
    · rw [if_neg (not_not.2 hupdate)]
      exact iff_of_true (fun hstatus => absurd hstatus (by decide : ¬400 ≤ 200)) (.inl hupdate)
    · rw [if_pos hupdate, or_iff_right hupdate]
      exact ⟨fun hkept => hkept (by decide : 400 ≤ 500), fun hsame _ => hsame⟩

/-- A failed registration leaves the devices as they are exactly when the
database took it or the same record was stored, and a failed migration exactly
when the database took it or it moves nothing. -/
theorem failed_write_kept_iff (s : DeviceManager) :
    (∀ upsert device, ((s.register_device upsert device).1 ≠ .OK → SameDevices s (s.register_device upsert device).2) ↔
      RegisterKeeps upsert device s) ∧
    (∀ update req h, put_device_tenant update req s = .ok h →
      ((400 ≤ h.response.status_code → SameDevices s h.device_mgr) ↔ MigrationKeeps update req s)) :=
  ⟨fun upsert device => register_device_kept_iff upsert device s, fun _ _ _ hput => put_device_tenant_kept_iff hput⟩

/-- The device of the request is of that tenant already, and the update fails. -/
theorem failed_write_kept_same :
    ∃ h, put_device_tenant .STORAGE_WRITE_ERROR (migration_to "acme".toList) one_device = .ok h ∧
      h.response.status_code = 500 ∧ SameDevices one_device h.device_mgr := by
  obtain ⟨put, hput⟩ : ∃ h, put_device_tenant .STORAGE_WRITE_ERROR (migration_to "acme".toList) one_device = .ok h :=
    ok_of_isSome (by decide +kernel)
  have hstatus : put.response.status_code = 500 := by
    have hmap : (put_device_tenant .STORAGE_WRITE_ERROR (migration_to "acme".toList) one_device).toOption.map
      (·.response.status_code) = some 500 := by decide +kernel
    rw [hput] at hmap
    exact Option.some.inj hmap
  have hdevice : migrated_device (migration_to "acme".toList).path = some "dev-1".toList := by decide +kernel
  have htenant : tenant_in_body (migration_to "acme".toList) = "acme".toList := by decide +kernel
  have hkeeps : MigrationKeeps .STORAGE_WRITE_ERROR (migration_to "acme".toList) one_device := by
    refine .inr fun id hid _ t dev hfound => ?_
    rw [hdevice] at hid
    cases hid
    cases hfound
    rw [htenant]
    exact ⟨rfl, rfl⟩
  exact ⟨put, hput, hstatus, ((failed_write_kept_iff one_device).2 _ _ put hput).2 hkeeps (by rw [hstatus]; decide)⟩

def new_device : Device := { tenant_id := "acme".toList, device_id := "dev-1".toList }

/-- The database refuses a registration and a migration. The device is stored,
and it is moved. -/
theorem failed_write_kept_fails :
    ((register_device (some .STORAGE_WRITE_ERROR) new_device {}).1 = .STORAGE_WRITE_ERROR ∧
      ¬ SameDevices {} (register_device (some .STORAGE_WRITE_ERROR) new_device {}).2) ∧
    ∃ h, put_device_tenant .STORAGE_WRITE_ERROR (migration_to "globex".toList) one_device = .ok h ∧
      h.response.status_code = 500 ∧ ¬ SameDevices one_device h.device_mgr := by
  refine ⟨⟨rfl, fun h => ?_⟩, ?_⟩
  · cases h "acme".toList "dev-1".toList
  · obtain ⟨put, hput⟩ : ∃ h, put_device_tenant .STORAGE_WRITE_ERROR (migration_to "globex".toList) one_device = .ok h :=
      ok_of_isSome (by decide +kernel)
    have hmap : (put_device_tenant .STORAGE_WRITE_ERROR (migration_to "globex".toList) one_device).toOption.map
      (fun h => (h.response.status_code, (h.device_mgr.rec? "acme".toList "dev-1".toList).isSome)) = some (500, false) := by
      decide +kernel
    rw [hput] at hmap
    obtain ⟨hstatus, hgone⟩ := Prod.mk.inj (Option.some.inj hmap)
    refine ⟨put, hput, hstatus, fun h => ?_⟩
    rw [h] at hgone
    cases hgone

end DevSys.DeviceWrites
