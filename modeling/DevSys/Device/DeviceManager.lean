import DevSys.Common.Types
/-!
# `DeviceManager`

All devices of all tenants: a map from tenant to the map of its devices. The
clock and the outcome of a database statement are arguments.
-/
open Cxx

namespace DevSys

structure TenantDevices where
  map : UMap Str Device := ∅

structure DeviceManager where
  tenants_ : UMap Str TenantDevices := ∅

namespace DeviceManager

/-- `tenants_[tenant]`, which is empty until something is stored there. -/
def at_ (s : DeviceManager) (tenant : Str) : TenantDevices :=
  (s.tenants_.lookup tenant).getD {}

/-- `tenants_[tenant] = td`. -/
def put (s : DeviceManager) (tenant : Str) (td : TenantDevices) : DeviceManager :=
  { s with tenants_ := UMap.set tenant td s.tenants_ }

/-- `tenants_[tenant].map[device_id] = dev`. -/
def store (s : DeviceManager) (tenant device_id : Str) (dev : Device) : DeviceManager :=
  s.put tenant { (s.at_ tenant) with map := UMap.set device_id dev (s.at_ tenant).map }

/-- `tenants_[tenant].map.erase(device_id)`. -/
def unstore (s : DeviceManager) (tenant device_id : Str) : DeviceManager :=
  s.put tenant { (s.at_ tenant) with map := (s.at_ tenant).map.erase device_id }

/-! ## Inbound -/

/-- A heartbeat registers an unknown device and refreshes a known one; the
payload is not read. -/
def process_heartbeat (now : Int) (tenant_id device_id product_id _payload_json : Str) (s : DeviceManager) :
    DeviceManager :=
  match (s.at_ tenant_id).map.lookup device_id with
  | none =>
    s.store tenant_id device_id
      { tenant_id := tenant_id, device_id := device_id, product_id := product_id
        network_status := .ONLINE, work_status := .IDLE, last_heartbeat_at := now, activated := true }
  | some dev =>
    s.store tenant_id device_id { dev with last_heartbeat_at := now, network_status := .ONLINE }

/-- Properties are received and dropped. -/
def process_property (_tenant_id _device_id _product_id _payload_json : Str) (s : DeviceManager) : DeviceManager :=
  s

/-! ## Registration -/

/-- `upsert` is the outcome of `db_->upsert_device`, if a database is set. -/
def register_device (upsert : Option StatusCode) (device : Device) (s : DeviceManager) : StatusCode × DeviceManager :=
  let s := s.store device.tenant_id device.device_id device
  match upsert with
  | none => (.OK, s)
  | some sc => if sc ≠ .OK then (sc, s) else (.OK, s)

def remove_device (tenant_id device_id : Str) (s : DeviceManager) : StatusCode × DeviceManager :=
  match s.tenants_.lookup tenant_id with
  | none => (.DEV_NOT_ACTIVATED, s)
  | some td =>
    if device_id ∉ td.map then (.DEV_NOT_ACTIVATED, s)
    else
      let td := { td with map := td.map.erase device_id }
      if td.map.entries = [] then (.OK, { s with tenants_ := s.tenants_.erase tenant_id })
      else (.OK, s.put tenant_id td)

def update_device_status (tenant_id device_id : Str) (net_st : NetworkStatus) (work_st : WorkStatus)
    (s : DeviceManager) : StatusCode × DeviceManager :=
  match s.tenants_.lookup tenant_id with
  | none => (.DEV_NOT_ACTIVATED, s)
  | some td =>
    match td.map.lookup device_id with
    | none => (.DEV_NOT_ACTIVATED, s)
    | some dev => (.OK, s.store tenant_id device_id { dev with network_status := net_st, work_status := work_st })

/-- The first tenant, in iteration order, under which the device is stored, and its record. -/
def locate (device_id : Str) (s : DeviceManager) : Option (Str × Device) :=
  s.tenants_.entries.findSome? fun e => (e.2.map.lookup device_id).map fun dev => (e.1, dev)

def migrate_device (device_id new_tenant : Str) (s : DeviceManager) : StatusCode × DeviceManager :=
  match s.locate device_id with
  | none => (.DEV_NOT_ACTIVATED, s)
  | some (tid, dev) => (.OK, (s.unstore tid device_id).store new_tenant device_id { dev with tenant_id := new_tenant })

def find_device_by_id (device_id : Str) (s : DeviceManager) : Option Device :=
  (s.locate device_id).map (·.2)

/-! ## Queries -/

def get_device (tenant_id device_id : Str) (s : DeviceManager) : Option Device :=
  match s.tenants_.lookup tenant_id with
  | none => none
  | some td => td.map.lookup device_id

def list_devices (tenant_id : Str) (s : DeviceManager) : List Device :=
  match s.tenants_.lookup tenant_id with
  | none => []
  | some td => td.map.entries.map (·.2)

def list_all_devices (s : DeviceManager) : List Device :=
  s.tenants_.entries.flatMap fun e => e.2.map.entries.map (·.2)

/-- Not heard for longer than that. The difference is one of two `int64_t`. -/
def Silent (now timeout_sec : Int) (dev : Device) : Prop := int64 (now - dev.last_heartbeat_at) > timeout_sec

instance (now timeout_sec : Int) (dev : Device) : Decidable (Silent now timeout_sec dev) :=
  inferInstanceAs (Decidable (_ > _))

def list_offline_devices (now timeout_sec : Int) (s : DeviceManager) : List Device :=
  s.list_all_devices.filter fun dev => Silent now timeout_sec dev

/-- The tenant id is also the name. -/
def list_tenants (s : DeviceManager) : List Tenant :=
  s.tenants_.entries.map fun e => { tenant_id := e.1, name := e.1, active := true }

def device_count (tenant_id : Str) (s : DeviceManager) : Nat :=
  match s.tenants_.lookup tenant_id with
  | none => 0
  | some td => td.map.entries.length

/-- The sizes are added up in an `int`. -/
def total_device_count (s : DeviceManager) : Int32 :=
  s.tenants_.entries.foldl (fun count e => count + Int32.ofNat e.2.map.entries.length) 0

/-! ## Offline detection -/

/-- A record is written back with the work status that it was listed with. -/
def mark_offline (s : DeviceManager) (dev : Device) : DeviceManager :=
  (s.update_device_status dev.tenant_id dev.device_id .OFFLINE dev.work_status).2

/-- The callback only logs. -/
def check_offline_devices (now : Int) (s : DeviceManager) : DeviceManager :=
  (s.list_offline_devices now 180).foldl mark_offline s

/-! ## Persistence -/

/-- Devices that are not activated are left in the database. -/
def load_from_database (devices : List Device) (s : DeviceManager) : DeviceManager :=
  devices.foldl (fun s dev => if dev.activated then s.store dev.tenant_id dev.device_id dev else s) s

/-! ## What is stored where -/

/-- The record stored under a tenant and a device id. -/
def rec? (s : DeviceManager) (tenant device_id : Str) : Option Device :=
  (s.at_ tenant).map.lookup device_id

/-- The tenants and the device ids under which something is stored. -/
def keys (s : DeviceManager) : List (Str × Str) :=
  s.tenants_.entries.flatMap fun e => e.2.map.keys.map fun d => (e.1, d)

theorem get_device_eq (tenant device_id : Str) (s : DeviceManager) :
    s.get_device tenant device_id = s.rec? tenant device_id := by
  unfold get_device rec? at_
  cases s.tenants_.lookup tenant <;> simp

/-- All stored records are listed, and nothing else. -/
theorem mem_list_all_devices {s : DeviceManager} {dev : Device} :
    dev ∈ s.list_all_devices ↔ ∃ tenant device_id, s.rec? tenant device_id = some dev := by
  simp only [list_all_devices, List.mem_flatMap, List.mem_map]
  constructor
  · rintro ⟨⟨t, td⟩, ht, ⟨d, dev⟩, hd, rfl⟩
    refine ⟨t, d, ?_⟩
    rw [rec?, at_, UMap.mem_entries_iff.1 ht]
    exact UMap.mem_entries_iff.1 hd
  · rintro ⟨t, d, h⟩
    unfold rec? at_ at h
    cases ht : s.tenants_.lookup t with
    | none => simp [ht] at h
    | some td =>
      rw [ht] at h
      exact ⟨⟨t, td⟩, UMap.mem_entries_iff.2 ht, ⟨d, dev⟩, UMap.mem_entries_iff.2 h, rfl⟩

/-- The time since the last heartbeat fits an `int64_t`. -/
def AgeFits (now : Int) (dev : Device) : Prop :=
  -2 ^ 63 ≤ now - dev.last_heartbeat_at ∧ now - dev.last_heartbeat_at < 2 ^ 63

instance (now : Int) (dev : Device) : Decidable (AgeFits now dev) := inferInstanceAs (Decidable (_ ∧ _))

theorem silent_iff {now : Int} {dev : Device} (h : AgeFits now dev) (timeout_sec : Int) :
    Silent now timeout_sec dev ↔ now - dev.last_heartbeat_at > timeout_sec := by
  rw [Silent, int64_of_fits h]

theorem nodup_keys (s : DeviceManager) : s.keys.Nodup :=
  UMap.nodup_pairs s.tenants_ fun td => td.map.nodupKeys

theorem mem_keys {s : DeviceManager} {tenant device_id : Str} :
    (tenant, device_id) ∈ s.keys ↔ (s.rec? tenant device_id).isSome := by
  rw [Option.isSome_iff_exists]
  simp only [keys, List.mem_flatMap, List.mem_map, AList.mem_keys.symm, Prod.mk.injEq]
  constructor
  · rintro ⟨⟨t, td⟩, ht, d, hd, rfl, rfl⟩
    obtain ⟨dev, hdev⟩ := Option.isSome_iff_exists.1 (AList.lookup_isSome.2 hd)
    exact ⟨dev, by rw [rec?, at_, UMap.mem_entries_iff.1 ht, ← hdev]; rfl⟩
  · rintro ⟨dev, h⟩
    unfold rec? at_ at h
    cases ht : s.tenants_.lookup tenant with
    | none => simp [ht] at h
    | some td =>
      rw [ht] at h
      have hd : device_id ∈ td.map := AList.lookup_isSome.1 (Option.isSome_iff_exists.2 ⟨dev, h⟩)
      exact ⟨⟨tenant, td⟩, UMap.mem_entries_iff.2 ht, device_id, hd, rfl, rfl⟩

/-- As many devices are counted as are stored, as far as an `int` goes. -/
theorem total_device_count_eq (s : DeviceManager) : s.total_device_count = Int32.ofNat s.keys.length := by
  unfold total_device_count keys
  suffices hall : ∀ count : Nat, s.tenants_.entries.foldl (fun count e => count + Int32.ofNat e.2.map.entries.length)
      (Int32.ofNat count) = Int32.ofNat (count +
        (s.tenants_.entries.flatMap fun e => e.2.map.keys.map fun d => (e.1, d)).length) by simpa using hall 0
  generalize s.tenants_.entries = l
  induction l with
  | nil => simp
  | cons e l ih =>
    intro count
    rw [List.foldl_cons, ← Int32.ofNat_add, ih, List.flatMap_cons, List.length_append, ← Nat.add_assoc,
      List.length_map, AList.keys, List.keys, List.length_map]

@[simp] theorem rec?_empty (tenant device_id : Str) : rec? {} tenant device_id = none := by
  simp [rec?, at_]

theorem at_put (s : DeviceManager) (t t' : Str) (td : TenantDevices) :
    (s.put t td).at_ t' = if t' = t then td else s.at_ t' := by
  unfold at_ put
  split <;> simp_all

@[simp] theorem rec?_store (s : DeviceManager) (t d : Str) (dev : Device) (t' d' : Str) :
    (s.store t d dev).rec? t' d' = if t' = t ∧ d' = d then some dev else s.rec? t' d' := by
  unfold rec? store
  rw [at_put]
  by_cases ht : t' = t
  · subst ht; simp
  · simp [ht]

@[simp] theorem rec?_unstore (s : DeviceManager) (t d : Str) (t' d' : Str) :
    (s.unstore t d).rec? t' d' = if t' = t ∧ d' = d then none else s.rec? t' d' := by
  unfold rec? unstore
  rw [at_put]
  by_cases ht : t' = t
  · subst ht; simp [UMap.lookup_erase_eq]
  · simp [ht]

/-- `locate` returns a tenant under which the device is stored. -/
theorem locate_some {s : DeviceManager} {d t : Str} {dev : Device} (h : s.locate d = some (t, dev)) :
    s.rec? t d = some dev := by
  obtain ⟨e, he, hm⟩ := List.exists_of_findSome?_eq_some h
  obtain ⟨dev', hd, hp⟩ := Option.map_eq_some_iff.1 hm
  obtain ⟨rfl, rfl⟩ := Prod.mk.inj hp
  have hl : s.tenants_.lookup e.1 = some e.2 := AList.mem_lookup_iff.2 he
  simp [rec?, at_, hl, hd]

theorem locate_none {s : DeviceManager} {d : Str} (h : s.locate d = none) (t : Str) : s.rec? t d = none := by
  unfold rec? at_
  cases hl : s.tenants_.lookup t with
  | none => simp
  | some td =>
    have := List.findSome?_eq_none_iff.1 h ⟨t, td⟩ (AList.mem_lookup_iff.1 hl)
    simpa using this

/-- A device stored under one tenant only is located there. -/
theorem locate_of_unique {s : DeviceManager} {d t : Str} {dev : Device} (h : s.rec? t d = some dev)
    (hu : ∀ t', (s.rec? t' d).isSome → t' = t) : s.locate d = some (t, dev) := by
  cases hl : s.locate d with
  | none => rw [locate_none hl t] at h; cases h
  | some found =>
    obtain ⟨t', dev'⟩ := found
    have h' := locate_some hl
    obtain rfl := hu t' (by rw [h']; rfl)
    rw [h] at h'
    rw [Option.some.inj h']

/-! ## What the operations change -/

/-- The record after a heartbeat. -/
def heartbeatRecord (now : Int) (tenant_id device_id product_id : Str) : Option Device → Device
  | none =>
    { tenant_id := tenant_id, device_id := device_id, product_id := product_id
      network_status := .ONLINE, work_status := .IDLE, last_heartbeat_at := now, activated := true }
  | some dev => { dev with last_heartbeat_at := now, network_status := .ONLINE }

theorem process_heartbeat_rec? (now : Int) (t d product payload : Str) (s : DeviceManager) (t' d' : Str) :
    (s.process_heartbeat now t d product payload).rec? t' d' =
      if t' = t ∧ d' = d then some (heartbeatRecord now t d product (s.rec? t d)) else s.rec? t' d' := by
  unfold process_heartbeat
  rw [← rec?]
  cases s.rec? t d <;> simp [heartbeatRecord]

theorem update_device_status_eq (t d : Str) (net : NetworkStatus) (work : WorkStatus) (s : DeviceManager) :
    s.update_device_status t d net work = match s.rec? t d with
      | none => (.DEV_NOT_ACTIVATED, s)
      | some dev => (.OK, s.store t d { dev with network_status := net, work_status := work }) := by
  rw [← get_device_eq, get_device, update_device_status]
  cases s.tenants_.lookup t <;> rfl

theorem update_device_status_rec? (t d : Str) (net : NetworkStatus) (work : WorkStatus) (s : DeviceManager)
    (t' d' : Str) :
    (s.update_device_status t d net work).2.rec? t' d' =
      if t' = t ∧ d' = d then (s.rec? t d).map ({ · with network_status := net, work_status := work })
      else s.rec? t' d' := by
  rw [update_device_status_eq]
  cases hd : s.rec? t d with
  | none =>
    by_cases h : t' = t ∧ d' = d
    · rw [if_pos h, h.1, h.2, hd]; rfl
    · rw [if_neg h]
  | some dev => exact rec?_store s t d _ t' d'

/-- The device is stored before the database is asked. -/
theorem register_device_snd (upsert : Option StatusCode) (dev : Device) (s : DeviceManager) :
    (s.register_device upsert dev).2 = s.store dev.tenant_id dev.device_id dev := by
  unfold register_device
  cases upsert with
  | none => rfl
  | some sc =>
    dsimp only
    split <;> rfl

theorem register_device_rec? (upsert : Option StatusCode) (dev : Device) (s : DeviceManager) (t' d' : Str) :
    (s.register_device upsert dev).2.rec? t' d' =
      if t' = dev.tenant_id ∧ d' = dev.device_id then some dev else s.rec? t' d' := by
  rw [register_device_snd]
  exact rec?_store s dev.tenant_id dev.device_id dev t' d'

theorem remove_device_rec? (t d : Str) (s : DeviceManager) (t' d' : Str) :
    (s.remove_device t d).2.rec? t' d' = if t' = t ∧ d' = d then none else s.rec? t' d' := by
  have hrec (d : Str) := get_device_eq t d s
  unfold remove_device
  unfold get_device at hrec
  cases hl : s.tenants_.lookup t with
  | none =>
    simp only [hl] at hrec
    by_cases h : t' = t ∧ d' = d
    · rw [if_pos h, h.1, h.2, ← hrec]
    · rw [if_neg h]
  | some td =>
    simp only [hl] at hrec
    dsimp only
    have hat : s.at_ t = td := by simp [at_, hl]
    have herase := rec?_unstore s t d t' d'
    rw [unstore, hat] at herase
    split
    · rename_i hd
      by_cases h : t' = t ∧ d' = d
      · rw [if_pos h, h.1, h.2, ← hrec]
        exact AList.lookup_eq_none.2 hd
      · rw [if_neg h]
    split
    · -- the tenant held this device only
      rename_i hempty
      have hnone (d₁ : Str) (hd₁ : d₁ ≠ d) : s.rec? t d₁ = none := by
        rw [← hrec, ← AList.lookup_erase_ne hd₁, (UMap.entries_eq_nil_iff _).1 hempty]
      rw [← herase]
      by_cases ht : t' = t
      · subst ht
        rw [herase]
        split
        · simp [rec?, at_]
        · rename_i hne
          rw [hnone d' fun h => hne ⟨rfl, h⟩]
          simp [rec?, at_]
      · rw [herase, if_neg fun h => ht h.1]
        simp [rec?, at_, ht]
    · exact herase

theorem migrate_device_none {d : Str} {s : DeviceManager} (h : s.locate d = none) (new : Str) :
    s.migrate_device d new = (.DEV_NOT_ACTIVATED, s) := by
  simp [migrate_device, h]

theorem migrate_device_rec? {d t : Str} {dev : Device} {s : DeviceManager} (h : s.locate d = some (t, dev))
    (new t' d' : Str) :
    (s.migrate_device d new).2.rec? t' d' =
      if t' = new ∧ d' = d then some { dev with tenant_id := new } else (s.unstore t d).rec? t' d' := by
  simp only [migrate_device, h, rec?_store]

end DeviceManager

end DevSys
