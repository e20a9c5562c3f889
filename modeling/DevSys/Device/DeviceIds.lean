import DevSys.Device.Activation
import DevSys.Device.TypeManager
import DevSys.Lib.Hex
import Mathlib.Data.Set.Function
/-!
# Device ids

The id of a device is a hash of its hardware uid and the model key, one behind
the other. Where the one ends and the other begins cannot be told from the
text that is hashed.
-/
open Cxx

namespace DevSys.DeviceIds

/-- The build, and the hash function it has. -/
inductive Build where
  | openssl (SHA256 : Str → Vector UInt8 32)
  | fallback (hash : Str → UInt64)

namespace Build

/-- What stands between the uid and the key. -/
def separator : Build → Str
  | openssl _ => [':']
  | fallback _ => []

/-- The text that is hashed. -/
def input (build : Build) (request : ActivationRequest) : Str := request.uid ++ (build.separator ++ request.model_key)

/-- The first eight bytes of a hash. -/
def first_bytes (SHA256 : Str → Vector UInt8 32) (input : Str) : List UInt8 := (SHA256 input).toList.take 8

/-- The id of a text. -/
def id_of : Build → Str → Str
  | openssl SHA256, input => (first_bytes SHA256 input).flatMap hex2
  | fallback hash, input => hex (hash input).toNat

/-- The 64 bits of the hash are not the same for two of the texts. -/
def CollisionFree (applied : Set Str) : Build → Prop
  | openssl SHA256 => Set.InjOn (first_bytes SHA256) applied
  | fallback hash => Set.InjOn hash applied

end Build

def generate_device_id (build : Build) (request : ActivationRequest) : Str := build.id_of (build.input request)

/-- The uid of one request goes on with the separator and a text that the key of the other starts with. -/
def Ambiguous (sep : Str) (r r' : ActivationRequest) : Prop :=
  (∃ w, r'.uid = r.uid ++ (sep ++ w) ∧ r.model_key = w ++ (sep ++ r'.model_key)) ∨
    ∃ w, r.uid = r'.uid ++ (sep ++ w) ∧ r'.model_key = w ++ (sep ++ r.model_key)

/-- The ids print all 64 bits. -/
theorem injOn_id_of {build : Build} {applied : Set Str} (h : build.CollisionFree applied) :
    Set.InjOn build.id_of applied := by
  cases build with
  | openssl SHA256 =>
    intro x hx y hy hxy
    exact h hx hy (flatMap_hex2_injective hxy)
  | fallback hash =>
    intro x hx y hy hxy
    exact h hx hy (UInt64.toNat_inj.1 (hex_injective hxy))

theorem length_separator (build : Build) : build.separator.length ≤ 1 := by
  cases build with
  | openssl SHA256 => exact Nat.le_refl 1
  | fallback hash => exact Nat.zero_le 1

theorem input_eq_iff (build : Build) {r r' : ActivationRequest} (huid : r.uid ≠ r'.uid) :
    build.input r = build.input r' ↔ Ambiguous build.separator r r' :=
  append_sep_eq_iff (length_separator build) huid

/-- Two requests with different uids get different ids exactly when neither uid
goes on with a text that the key of the other starts with. -/
theorem generate_device_id_ne_iff {build : Build} {applied : Set Str} (hfree : build.CollisionFree applied)
    {r r' : ActivationRequest} (hr : build.input r ∈ applied) (hr' : build.input r' ∈ applied) (huid : r.uid ≠ r'.uid) :
    generate_device_id build r ≠ generate_device_id build r' ↔ ¬ Ambiguous build.separator r r' := by
  rw [← input_eq_iff build huid]
  refine not_congr ⟨fun h => injOn_id_of hfree hr hr' h, fun h => ?_⟩
  rw [generate_device_id, h, generate_device_id]

def unit_ABCD : ActivationRequest := { uid := "ABCD".toList, model_key := "acm_200_v1".toList }

def unit_ABCE : ActivationRequest := { uid := "ABCE".toList, model_key := "acm_200_v1".toList }

/-- SHA-256 of the texts that are hashed for these two. -/
def sha256_of_units (input : Str) : Vector UInt8 32 :=
  if input = "ABCD:acm_200_v1".toList then
    #v[139, 217, 166, 177, 6, 226, 145, 64, 42, 55, 86, 13, 89, 228, 246, 44,
      232, 83, 88, 87, 33, 206, 38, 26, 138, 126, 169, 21, 18, 35, 153, 255]
  else
    #v[216, 166, 114, 64, 199, 97, 153, 128, 99, 210, 178, 161, 109, 140, 55, 27,
      163, 224, 8, 26, 255, 130, 247, 250, 78, 5, 27, 53, 239, 127, 41, 249]

def unit_inputs : Set Str := {"ABCD:acm_200_v1".toList, "ABCE:acm_200_v1".toList}

theorem generate_device_id_ne_units :
    generate_device_id (.openssl sha256_of_units) unit_ABCD ≠ generate_device_id (.openssl sha256_of_units) unit_ABCE := by
  have hfree : (Build.openssl sha256_of_units).CollisionFree unit_inputs := by
    rintro x (rfl | rfl) y (rfl | rfl) hxy
    · rfl
    · exact absurd hxy (by decide)
    · exact absurd hxy (by decide)
    · rfl
  have hfirst : (Build.openssl sha256_of_units).input unit_ABCD ∈ unit_inputs := .inl rfl
  have hsecond : (Build.openssl sha256_of_units).input unit_ABCE ∈ unit_inputs := .inr rfl
  refine (generate_device_id_ne_iff hfree hfirst hsecond (by decide)).2 ?_
  rintro (⟨w, huid, -⟩ | ⟨w, huid, -⟩)
  · cases huid
  · cases huid

/-! ## Two units with one id -/

def colon_in_key : ActivationRequest := { uid := "ABCD".toList, model_key := "x:K".toList }

def colon_in_uid : ActivationRequest := { uid := "ABCD:x".toList, model_key := "K".toList }

def long_key : ActivationRequest := { uid := "ABCD".toList, model_key := "EK".toList }

def long_uid : ActivationRequest := { uid := "ABCDE".toList, model_key := "K".toList }

/-- A registry with their keys. -/
def three_models : DeviceRegistry :=
  ["K".toList, "x:K".toList, "EK".toList].foldl (fun s key => (DeviceTypeManager.create_model 1 []
    { model_code := key, model_key := key, type_code := "coffee_machine".toList, display_name := key } s).2)
    (DeviceTypeManager.seeded [])

/-- Valid requests with registered keys and different uids get one id, whatever
the hash function is: with a separator in both texts, and without a separator. -/
theorem device_ids_collide :
    (∀ SHA256, generate_device_id (.openssl SHA256) colon_in_key = generate_device_id (.openssl SHA256) colon_in_uid) ∧
    (∀ hash, generate_device_id (.fallback hash) long_key = generate_device_id (.fallback hash) long_uid) ∧
    (colon_in_key.uid ≠ colon_in_uid.uid ∧ long_key.uid ≠ long_uid.uid) ∧
    ∀ r ∈ [colon_in_key, colon_in_uid, long_key, long_uid], DeviceActivation.validate_request r ∧
      (Database.get_device_model_by_key r.model_key three_models).isSome := by
  refine ⟨fun SHA256 => rfl, fun hash => rfl, by decide, ?_⟩
  decide +kernel

end DevSys.DeviceIds
