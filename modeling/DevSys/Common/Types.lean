import DevSys.Lib.Strings
import DevSys.Lib.UMap
/-!
# Shared data types

The records of `types.h`. An enumeration the code casts integers to keeps its
underlying byte, since the cast can produce values without a name. Times are
seconds since the epoch.
-/
open Cxx

namespace DevSys

/-! ## Enumerations -/

structure DeviceType where
  val : UInt8
  deriving DecidableEq, Repr

namespace DeviceType
def COFFEE_MACHINE : DeviceType := ⟨1⟩
def INSTANT_MACHINE : DeviceType := ⟨2⟩
def WATER_DISPENSER : DeviceType := ⟨3⟩
def OTHER : DeviceType := ⟨4⟩
end DeviceType

structure NetworkStatus where
  val : UInt8
  deriving DecidableEq, Repr

namespace NetworkStatus
def ONLINE : NetworkStatus := ⟨0⟩
def OFFLINE : NetworkStatus := ⟨1⟩
end NetworkStatus

/-- The operational state; never cast from an integer. -/
inductive WorkStatus where
  | IDLE
  | BREWING
  | FAULT
  | UPGRADING
  | MAINTENANCE
  deriving DecidableEq, Repr

/-- The byte of a `WorkStatus`. -/
def WorkStatus.val : WorkStatus → UInt8
  | .IDLE => 0
  | .BREWING => 1
  | .FAULT => 2
  | .UPGRADING => 3
  | .MAINTENANCE => 4

structure FaultCode where
  val : UInt8
  deriving DecidableEq, Repr

def FaultCode.NONE : FaultCode := ⟨0⟩

/-- The level of a fault; never cast from an integer. -/
inductive FaultLevel where
  | WARNING
  | ERROR
  deriving DecidableEq, Repr

/-- The byte of a `FaultLevel`. -/
def FaultLevel.val : FaultLevel → UInt8
  | .WARNING => 0
  | .ERROR => 1

structure OrderStatus where
  val : UInt8
  deriving DecidableEq, Repr

namespace OrderStatus
def PENDING : OrderStatus := ⟨0⟩
def PAID : OrderStatus := ⟨1⟩
def BREWING : OrderStatus := ⟨2⟩
def COMPLETED : OrderStatus := ⟨3⟩
def CANCELLED : OrderStatus := ⟨4⟩
def FAILED : OrderStatus := ⟨5⟩
end OrderStatus

/-- `static_cast` of an `int` to an enumeration's byte. -/
def castUInt8 (n : Int32) : UInt8 := UInt8.ofInt n.toInt

inductive StatusCode where
  | OK
  | ERROR
  | DEV_NOT_ACTIVATED
  | DEV_ALREADY_ACTIVE
  | COMM_DISCONNECTED
  | ORDER_NOT_FOUND
  | ORDER_QUEUE_FULL
  | ORDER_INVALID_STATE
  | RECIPE_NOT_FOUND
  | STORAGE_READ_ERROR
  | STORAGE_WRITE_ERROR
  | ORG_NOT_FOUND
  | ORG_HAS_CHILDREN
  | ORG_HAS_DEVICES
  | ORG_DUPLICATE_TENANT
  | ACCOUNT_NOT_FOUND
  | ACCOUNT_LOCKED
  | ACCOUNT_BAD_PASSWORD
  | ACCOUNT_DUPLICATE
  deriving DecidableEq, Repr

/-- `static_cast` of a status code to an `int`. -/
def StatusCode.toInt : StatusCode → Int32
  | .OK => 0
  | .ERROR => -1
  | .DEV_NOT_ACTIVATED => -100
  | .DEV_ALREADY_ACTIVE => -101
  | .COMM_DISCONNECTED => -201
  | .ORDER_NOT_FOUND => -300
  | .ORDER_QUEUE_FULL => -302
  | .ORDER_INVALID_STATE => -303
  | .RECIPE_NOT_FOUND => -400
  | .STORAGE_READ_ERROR => -701
  | .STORAGE_WRITE_ERROR => -702
  | .ORG_NOT_FOUND => -900
  | .ORG_HAS_CHILDREN => -901
  | .ORG_HAS_DEVICES => -902
  | .ORG_DUPLICATE_TENANT => -904
  | .ACCOUNT_NOT_FOUND => -910
  | .ACCOUNT_LOCKED => -911
  | .ACCOUNT_BAD_PASSWORD => -912
  | .ACCOUNT_DUPLICATE => -913

def status_message : StatusCode → Str
  | .OK => "OK".toList
  | .ERROR => "General error".toList
  | .DEV_NOT_ACTIVATED => "Device not activated".toList
  | .DEV_ALREADY_ACTIVE => "Device already active".toList
  | .COMM_DISCONNECTED => "Communication disconnected".toList
  | .ORDER_NOT_FOUND => "Order not found".toList
  | .ORDER_QUEUE_FULL => "Order queue full".toList
  | .ORDER_INVALID_STATE => "Invalid order state transition".toList
  | .RECIPE_NOT_FOUND => "Recipe not found".toList
  | .STORAGE_READ_ERROR => "Storage read error".toList
  | .STORAGE_WRITE_ERROR => "Storage write error".toList
  | .ORG_NOT_FOUND => "Organization not found".toList
  | .ORG_HAS_CHILDREN => "Organization has child departments".toList
  | .ORG_HAS_DEVICES => "Organization has associated devices".toList
  | .ORG_DUPLICATE_TENANT => "Tenant ID already exists".toList
  | .ACCOUNT_NOT_FOUND => "Account not found".toList
  | .ACCOUNT_LOCKED => "Account locked (too many failed attempts)".toList
  | .ACCOUNT_BAD_PASSWORD => "Invalid password".toList
  | .ACCOUNT_DUPLICATE => "Username already exists".toList

/-! ## Records -/

/-- A dynamic device type. -/
structure DeviceTypeInfo where
  id : Int32 := 0
  type_code : Str := []
  display_name : Str := []
  description : Str := []
  internal_type : Int32 := 4
  icon_url : Str := []
  sort_order : Int32 := 0
  is_active : Bool := true
  created_at : Str := []
  updated_at : Str := []
  deriving DecidableEq, Repr

/-- A dynamic device model, which belongs to a type. -/
structure DeviceModelInfo where
  id : Int32 := 0
  model_code : Str := []
  model_key : Str := []
  type_code : Str := []
  display_name : Str := []
  description : Str := []
  specs_json : Str := []
  firmware_base : Str := []
  is_active : Bool := true
  sort_order : Int32 := 0
  created_at : Str := []
  updated_at : Str := []
  deriving DecidableEq, Repr

structure Tenant where
  tenant_id : Str := []
  name : Str := []
  active : Bool := true
  deriving DecidableEq, Repr

structure OrgInfo where
  org_id : Int32 := 0
  parent_id : Int32 := 0
  tenant_id : Str := []
  org_name : Str := []
  org_type : Str := []
  contact_name : Str := []
  contact_phone : Str := []
  contact_email : Str := []
  address : Str := []
  is_active : Bool := true
  level : Int32 := 0
  path : Str := []
  children_count : Int32 := 0
  created_at : Str := []
  updated_at : Str := []
  deriving DecidableEq, Repr

structure AccountInfo where
  account_id : Int32 := 0
  username : Str := []
  password_hash : Str := []
  display_name : Str := []
  org_id : Int32 := 0
  org_name : Str := []
  role_code : Str := []
  email : Str := []
  phone : Str := []
  is_active : Bool := true
  last_login_at : Str := []
  created_at : Str := []
  updated_at : Str := []
  deriving DecidableEq, Repr

structure LoginRequest where
  username : Str := []
  password : Str := []
  deriving DecidableEq, Repr

structure LoginResponse where
  success : Bool := false
  token : Str := []
  expires_at : Str := []
  account : AccountInfo := {}
  permissions : List Str := []
  error_code : Int32 := 0
  error_message : Str := []
  deriving DecidableEq, Repr

structure TokenPayload where
  account_id : Int32 := 0
  username : Str := []
  org_id : Int32 := 0
  org_scope : List Int32 := []
  role_code : Str := []
  permissions : List Str := []
  iat : Int := 0
  exp : Int := 0
  deriving DecidableEq, Repr

structure Device where
  tenant_id : Str := []
  device_id : Str := []
  product_id : Str := []
  type : DeviceType := .OTHER
  network_status : NetworkStatus := .OFFLINE
  work_status : WorkStatus := .IDLE
  firmware_version : Str := []
  mac_address : Str := []
  model : Str := []
  hardware_uid : Str := []
  last_heartbeat_at : Int := 0
  activated_at : Int := 0
  activated : Bool := false
  deriving DecidableEq, Repr

structure Order where
  order_id : Str := []
  tenant_id : Str := []
  device_id : Str := []
  recipe_id : Str := []
  recipe_name : Str := []
  cup_size : Str := []
  quantity : Int32 := 1
  total_amount : Int32 := 0
  payment_method : Str := []
  status : OrderStatus := .PENDING
  created_at : Str := []
  expired_at : Str := []
  failure_reason : Str := []
  deriving DecidableEq, Repr

/-- `params` is ordered by name; a `double` is kept by its bits. -/
structure RecipeStep where
  action : Str := []
  duration_ms : Int32 := 0
  params : List (Str × UInt64) := []
  deriving DecidableEq, Repr

structure CupSizeOption where
  size : Str := []
  price : Int32 := 0
  volume_ml : Int32 := 0
  deriving DecidableEq, Repr

structure Recipe where
  recipe_id : Str := []
  recipe_name : Str := []
  device_type : DeviceType := .OTHER
  category : Str := []
  description : Str := []
  steps : List RecipeStep := []
  cup_sizes : List CupSizeOption := []
  is_active : Bool := true
  version : Int32 := 1
  deriving DecidableEq, Repr

structure FaultInfo where
  tenant_id : Str := []
  device_id : Str := []
  code : FaultCode := .NONE
  level : FaultLevel := .WARNING
  description : Str := []
  timestamp : Str := []
  sensor_snapshot : Str := []
  deriving DecidableEq, Repr

structure OtaRecord where
  tenant_id : Str := []
  device_id : Str := []
  current_version : Str := []
  target_version : Str := []
  download_url : Str := []
  checksum : Str := []
  progress : Int32 := 0
  stage : Str := []
  force_upgrade : Bool := false
  deriving DecidableEq, Repr

structure FirmwareVersion where
  version : Str := []
  product_id : Str := []
  download_url : Str := []
  file_name : Str := []
  file_size : Int := 0
  checksum_sha256 : Str := []
  changelog : Str := []
  force_upgrade : Bool := false
  created_at : Int := 0
  deriving DecidableEq, Repr

end DevSys
