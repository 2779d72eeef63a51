import RobotDriver.Lib.Fallible
import RobotDriver.Lib.JsonText
import RobotDriver.OperatorWeb.LiveInput

/-!
# The messages of the operator page

`parse_request` turns a text message into a request or raises. It answers with `ProtocolError` what
it checks itself; a value that cannot be hashed, an integer that no float can hold and a text that
is nested too deep raise something else, which the handler does not catch.
-/

namespace RobotDriver.OperatorWeb.Protocol

open JsonText LabelledRun Teleop

section Source

def maxMessageBytes : ℕ := 1024

def maxModules : ℕ := 8

inductive ModuleOperation
  | enable
  | disable
  | reset
  deriving DecidableEq

namespace ModuleOperation

def all : List ModuleOperation := [.enable, .disable, .reset]

def name : ModuleOperation → String
  | enable => "enable"
  | disable => "disable"
  | reset => "reset"

end ModuleOperation

inductive RequestType
  | acquire
  | release
  | drive
  | halt
  | gear
  | softStop
  | getModel
  | moduleOp
  | getFaultHistory
  | steeringParams
  | steeringDefaults
  deriving DecidableEq

namespace RequestType

/-- `ALLOWED_TYPES`. -/
def all : List RequestType :=
  [.acquire, .release, .drive, .halt, .gear, .softStop, .getModel, .moduleOp, .getFaultHistory,
    .steeringParams, .steeringDefaults]

def name : RequestType → String
  | acquire => "acquire"
  | release => "release"
  | drive => "drive"
  | halt => "halt"
  | gear => "gear"
  | softStop => "soft_stop"
  | getModel => "get_model"
  | moduleOp => "module_op"
  | getFaultHistory => "get_fault_history"
  | steeringParams => "steering_params"
  | steeringDefaults => "steering_defaults"

end RequestType

structure ProtocolError where
  code : String
  message : String
  deriving DecidableEq

/-- The exceptions that reach the caller of `parse_request`. -/
inductive Raised
  | protocolError (error : ProtocolError)
  | typeError
  | overflowError
  | recursionError
  deriving DecidableEq

structure Request where
  type : RequestType
  token : List ℕ := []
  x : Double ℚ := .finite 0
  y : Double ℚ := .finite 0
  yaw : ℤ := 0
  z : Double ℚ := .finite 0
  w : Double ℚ := .finite 0
  release : Double ℚ := .finite 0
  gear : List ℕ := []
  op : Option ModuleOperation := none
  modules : List (List ℕ) := []

def badRequest {α : Type} (message : String) : Except Raised α :=
  .error (.protocolError ⟨"bad_request", message⟩)

def shortString (field : String) (value : JsonValue) : Except Raised (List ℕ) :=
  match value with
  | .string text =>
    if 0 < text.length ∧ text.length ≤ 256 then .ok text
    else badRequest (field ++ " must be a non-empty string")
  | _ => badRequest (field ++ " must be a non-empty string")

/-- `float` raises for an integer that rounds to no finite double. -/
def number (field : String) (value : JsonValue) : Except Raised (Double ℚ) :=
  match value with
  | .int n =>
    if (Double.binary64 n).isFinite then .ok (Double.binary64 n) else .error .overflowError
  | .float x => if x.isFinite then .ok x else badRequest (field ++ " must be finite")
  | _ => badRequest (field ++ " must be a number")

/-- Membership in a set of strings; the value is hashed first. -/
def member {α : Type} (name : α → String) (all : List α) (value : JsonValue) :
    Except Raised (Option α) :=
  match value with
  | .array _ => .error .typeError
  | .object _ => .error .typeError
  | .string text => .ok (all.find? fun a => codePoints (name a) = text)
  | _ => .ok none

/-- Membership of `yaw` in `(-1, 0, 1)`, and its `int`; equal floats are members. -/
def yawOf (value : JsonValue) : Except Raised ℤ :=
  match value with
  | .int n => if n ∈ [-1, 0, 1] then .ok n else badRequest "yaw must be -1, 0 or 1"
  | .float (.finite x) =>
    if x = -1 then .ok (-1) else if x = 0 then .ok 0 else if x = 1 then .ok 1
    else badRequest "yaw must be -1, 0 or 1"
  | _ => badRequest "yaw must be -1, 0 or 1"

section Document

variable (fields : List (List ℕ × JsonValue))

def steeringParams : Except Raised Request := do
  let token ← shortString "token" (getD fields "token" .null)
  let x ← number "slew_deg_s" (getD fields "slew_deg_s" .null)
  let y ← number "accel_deg_s2" (getD fields "accel_deg_s2" .null)
  let z ← number "jerk_deg_s3" (getD fields "jerk_deg_s3" .null)
  let w ← number "alignment_deg" (getD fields "alignment_deg" .null)
  let release ← number "release_deg" (getD fields "release_deg" (.float (.finite 0)))
  return { type := .steeringParams, token, x, y, z, w, release }

def drive : Except Raised Request := do
  let yaw ← yawOf (getD fields "yaw" (.int 0))
  let x ← number "x" (getD fields "x" .null)
  let y ← number "y" (getD fields "y" .null)
  return { type := .drive, x, y, yaw }

def moduleOp : Except Raised Request := do
  match ← member ModuleOperation.name ModuleOperation.all (getD fields "op" .null) with
  | none => badRequest "op must be enable, disable or reset"
  | some op =>
    match getD fields "modules" .null with
    | .array items =>
      if 0 < items.length ∧ items.length ≤ maxModules then do
        let modules ← items.mapM (shortString "module")
        return { type := .moduleOp, op := some op, modules }
      else badRequest "modules must be a non-empty short list"
    | _ => badRequest "modules must be a non-empty short list"

def parseDocument : Except Raised Request := do
  match ← member RequestType.name RequestType.all (getD fields "type" .null) with
  | none => .error (.protocolError ⟨"unknown_type", "message type is not allowed"⟩)
  | some .steeringParams => steeringParams fields
  | some .steeringDefaults => do
    let token ← shortString "token" (getD fields "token" .null)
    return { type := .steeringDefaults, token }
  | some .drive => drive fields
  | some .moduleOp => moduleOp fields
  | some .gear => do
    let gear ← shortString "gear" (getD fields "gear" .null)
    return { type := .gear, gear }
  | some type => return { type }

end Document

/-- `limit` is how many containers the decoder can have open when it is called. -/
def parseRequest (limit : ℕ) (raw : String) : Except Raised Request :=
  if maxMessageBytes < raw.utf8ByteSize then badRequest "message too large"
  else
    match loads limit raw with
    | .error .decodeError => badRequest "invalid JSON"
    | .error .recursionError => .error .recursionError
    | .ok (.object fields) => parseDocument fields
    | .ok _ => badRequest "message must be an object"

variable {C : Type*} [DecidableEq C]

/-- `_handle`: what a request asks for is in `serve`; an exception other than the two that it
catches leaves the loop of the socket. -/
noncomputable def handleText (limit : ℕ) (config : TeleopConfig ℝ)
    (arbiter : Teleop.DriveArbiter C ℝ) (session : C) (raw : String)
    (serve : Request → Except TeleopError (Option (ArbiterEvent C)))
    (between : List (ArbiterEvent C)) :
    Except Raised (Teleop.DriveArbiter C ℝ × Option TeleopError) :=
  match parseRequest limit raw with
  | .ok request => .ok (arbiter.handle config session (serve request) between)
  | .error (.protocolError error) =>
    .ok (arbiter.handle config session (.error ⟨error.code, error.message⟩) between)
  | .error raised => .error raised

end Source

section Fields

/-- What `_handle` catches. -/
def Caught : Raised → Prop
  | .protocolError _ => True
  | _ => False

def Unhashable : JsonValue → Prop
  | .array _ => True
  | .object _ => True
  | _ => False

/-- An integer that rounds past the finite doubles. -/
def TooLarge : JsonValue → Prop
  | .int n => 2 ^ 1024 - 2 ^ 970 ≤ |n|
  | _ => False

def IsNumber : JsonValue → Prop
  | .int n => |n| < 2 ^ 1024 - 2 ^ 970
  | .float x => x.isFinite = true
  | _ => False

/-- The first value that is no finite number is an integer that is too large. -/
def Overflows : List JsonValue → Prop
  | [] => False
  | value :: rest => TooLarge value ∨ IsNumber value ∧ Overflows rest

def ShortText (text : List ℕ) : Prop := 0 < text.length ∧ text.length ≤ 256

def IsShortString (value : JsonValue) : Prop := ∃ text, value = .string text ∧ ShortText text

def IsYaw (value : JsonValue) : Prop :=
  ∃ n ∈ ([-1, 0, 1] : List ℤ), value = .int n ∨ value = .float (.finite n)

variable {value : JsonValue} {field : String}

theorem shortString_eq_ok_iff {text : List ℕ} :
    shortString field value = .ok text ↔ value = .string text ∧ ShortText text := by
  unfold shortString badRequest ShortText
  split
  · split_ifs with hshort
    · grind
    · grind
  · grind

theorem failsOnly_shortString (field : String) (value : JsonValue) :
    FailsOnly Caught (shortString field value) := by
  unfold shortString badRequest
  split
  · exact FailsOnly.ite (fun _ => .ok _) fun _ => .error trivial
  · exact .error trivial

theorem isFinite_int_iff (n : ℤ) :
    (Double.binary64 n).isFinite = true ↔ |n| < 2 ^ 1024 - 2 ^ 970 := by
  rw [Double.isFinite_binary64_iff]
  exact_mod_cast Iff.rfl

theorem number_eq_ok {x : Double ℚ} (h : number field value = .ok x) :
    IsNumber value ∧ x.isFinite = true := by
  unfold number badRequest at h
  split at h
  · rename_i n
    split_ifs at h with hfinite
    cases h
    exact ⟨(isFinite_int_iff n).1 hfinite, hfinite⟩
  · split_ifs at h with hfinite
    cases h
    exact ⟨hfinite, hfinite⟩
  · cases h

theorem exists_number_iff : (∃ x, number field value = .ok x) ↔ IsNumber value := by
  constructor
  · rintro ⟨x, h⟩
    exact (number_eq_ok h).1
  · intro h
    cases value with
    | int n => exact ⟨_, if_pos ((isFinite_int_iff n).2 h)⟩
    | float x => exact ⟨x, if_pos h⟩
    | _ => exact absurd h id

theorem failsOnly_number_iff : FailsOnly Caught (number field value) ↔ ¬TooLarge value := by
  cases value with
  | int n =>
    have hlarge : TooLarge (.int n) ↔ ¬(Double.binary64 n).isFinite = true := by
      rw [isFinite_int_iff, not_lt]
      exact Iff.rfl
    rw [hlarge, not_not, number]
    split_ifs with hfinite
    · exact iff_of_true (.ok _) hfinite
    · exact iff_of_false (fun h => h _ rfl) hfinite
  | float x =>
    refine iff_of_true ?_ id
    exact FailsOnly.ite (fun _ => .ok _) fun _ => .error trivial
  | _ => exact iff_of_true (.error trivial) id

theorem failsOnly_number_bind {α : Type} {next : Double ℚ → Except Raised α}
    {rest : List JsonValue} (hnext : ∀ x, FailsOnly Caught (next x) ↔ ¬Overflows rest) :
    FailsOnly Caught (number field value >>= next) ↔ ¬Overflows (value :: rest) := by
  have hrest : (∀ x, number field value = .ok x → FailsOnly Caught (next x)) ↔
      (IsNumber value → ¬Overflows rest) := by
    have hnumber : IsNumber value ↔ ∃ x, number field value = .ok x := exists_number_iff.symm
    simp only [hnext, hnumber, forall_exists_index]
  rw [FailsOnly.bind_iff, failsOnly_number_iff, hrest, Overflows, not_or, not_and]

theorem failsOnly_yawOf (value : JsonValue) : FailsOnly Caught (yawOf value) := by
  have hbad : FailsOnly Caught (badRequest "yaw must be -1, 0 or 1" : Except Raised ℤ) :=
    .error trivial
  unfold yawOf
  split
  · exact FailsOnly.ite (fun _ => .ok _) fun _ => hbad
  · exact FailsOnly.ite (fun _ => .ok _) fun _ => FailsOnly.ite (fun _ => .ok _) fun _ =>
      FailsOnly.ite (fun _ => .ok _) fun _ => hbad
  · exact hbad

theorem yawOf_eq_ok {yaw : ℤ} (h : yawOf value = .ok yaw) : yaw ∈ ([-1, 0, 1] : List ℤ) := by
  unfold yawOf badRequest at h
  split at h
  · split_ifs at h with hmember
    cases h
    exact hmember
  · split_ifs at h
    · cases h
      decide
    · cases h
      decide
    · cases h
      decide
  · cases h

theorem exists_yawOf_iff : (∃ yaw, yawOf value = .ok yaw) ↔ IsYaw value := by
  constructor
  · rintro ⟨yaw, h⟩
    refine ⟨yaw, yawOf_eq_ok h, ?_⟩
    unfold yawOf badRequest at h
    split at h
    · split_ifs at h
      cases h
      exact .inl rfl
    · split_ifs at h with hneg hzero hpos
      · cases h
        exact .inr (by rw [hneg]; rfl)
      · cases h
        exact .inr (by rw [hzero]; rfl)
      · cases h
        exact .inr (by rw [hpos]; rfl)
    · cases h
  · rintro ⟨n, hn, rfl | rfl⟩
    · exact ⟨n, if_pos hn⟩
    · fin_cases hn
      · exact ⟨-1, by decide +kernel⟩
      · exact ⟨0, by decide +kernel⟩
      · exact ⟨1, by decide +kernel⟩

section Member

variable {α : Type} (name : α → String) (all : List α)

theorem failsOnly_member_iff : FailsOnly Caught (member name all value) ↔ ¬Unhashable value := by
  cases value with
  | array items | object fields => exact iff_of_false (fun h => h _ rfl) fun h => h trivial
  | _ => exact iff_of_true (.ok _) id

theorem exists_member (h : ¬Unhashable value) : ∃ a, member name all value = .ok a := by
  cases value with
  | array items => exact absurd trivial h
  | object fields => exact absurd trivial h
  | _ => exact ⟨_, rfl⟩

variable {name} {all}

theorem member_eq_some {a : α} (h : member name all value = .ok (some a)) :
    value = .string (codePoints (name a)) := by
  cases value with
  | string text =>
    have hfound := List.find?_some (Except.ok.inj h)
    rw [of_decide_eq_true hfound]
  | _ => cases h

end Member

theorem member_type (type : RequestType) :
    member RequestType.name RequestType.all (.string (codePoints type.name)) = .ok (some type) := by
  cases type <;> rfl

theorem type_of_member (type : RequestType) {other : Option RequestType}
    (h : member RequestType.name RequestType.all value = .ok other)
    (htype : value = .string (codePoints type.name)) : other = some type := by
  rw [htype, member_type] at h
  exact (Except.ok.inj h).symm

end Fields

section Documents

variable (fields : List (List ℕ × JsonValue))

/-- The documents on which the parser raises what nobody catches. -/
inductive Defect : Prop
  | type (unhashable : Unhashable (getD fields "type" .null))
  | op (type : getD fields "type" .null = .string (codePoints "module_op"))
    (unhashable : Unhashable (getD fields "op" .null))
  | drive (type : getD fields "type" .null = .string (codePoints "drive"))
    (yaw : IsYaw (getD fields "yaw" (.int 0)))
    (overflows : Overflows [getD fields "x" .null, getD fields "y" .null])
  | steering (type : getD fields "type" .null = .string (codePoints "steering_params"))
    (token : IsShortString (getD fields "token" .null))
    (overflows : Overflows [getD fields "slew_deg_s" .null, getD fields "accel_deg_s2" .null,
      getD fields "jerk_deg_s3" .null, getD fields "alignment_deg" .null,
      getD fields "release_deg" (.float (.finite 0))])

theorem failsOnly_steeringParams_iff : FailsOnly Caught (steeringParams fields) ↔
    (IsShortString (getD fields "token" .null) →
      ¬Overflows [getD fields "slew_deg_s" .null, getD fields "accel_deg_s2" .null,
        getD fields "jerk_deg_s3" .null, getD fields "alignment_deg" .null,
        getD fields "release_deg" (.float (.finite 0))]) := by
  have hlast : ∀ request : Request,
      FailsOnly Caught (pure request : Except Raised Request) ↔ ¬Overflows [] :=
    fun request => iff_of_true (.pure request) id
  unfold steeringParams
  rw [FailsOnly.bind_iff]
  simp only [failsOnly_shortString, true_and, shortString_eq_ok_iff, IsShortString,
    forall_exists_index]
  refine forall_congr' fun text => forall_congr' fun _ => ?_
  exact failsOnly_number_bind fun _ => failsOnly_number_bind fun _ => failsOnly_number_bind fun _ =>
    failsOnly_number_bind fun _ => failsOnly_number_bind fun _ => hlast _

theorem failsOnly_drive_iff : FailsOnly Caught (drive fields) ↔
    (IsYaw (getD fields "yaw" (.int 0)) →
      ¬Overflows [getD fields "x" .null, getD fields "y" .null]) := by
  have hlast : ∀ request : Request,
      FailsOnly Caught (pure request : Except Raised Request) ↔ ¬Overflows [] :=
    fun request => iff_of_true (.pure request) id
  unfold drive
  rw [FailsOnly.bind_iff]
  simp only [failsOnly_yawOf, true_and, ← exists_yawOf_iff, forall_exists_index]
  refine forall_congr' fun yaw => forall_congr' fun _ => ?_
  exact failsOnly_number_bind fun _ => failsOnly_number_bind fun _ => hlast _

theorem failsOnly_moduleOp_iff :
    FailsOnly Caught (moduleOp fields) ↔ ¬Unhashable (getD fields "op" .null) := by
  have hbad : ∀ message, FailsOnly Caught (badRequest message : Except Raised Request) :=
    fun _ => .error trivial
  unfold moduleOp
  rw [FailsOnly.bind_iff, failsOnly_member_iff]
  refine and_iff_left fun op _ => ?_
  cases op with
  | none => exact hbad _
  | some op =>
    dsimp only
    split
    · refine FailsOnly.ite (fun _ => ?_) fun _ => hbad _
      exact (FailsOnly.mapM (failsOnly_shortString "module") _).bind fun _ _ => .pure _
    · exact hbad _

variable {fields} in
theorem defect_iff {type : Option RequestType}
    (hmember : member RequestType.name RequestType.all (getD fields "type" .null) = .ok type) :
    Defect fields ↔
      type = some .moduleOp ∧ Unhashable (getD fields "op" .null) ∨
      type = some .drive ∧ IsYaw (getD fields "yaw" (.int 0)) ∧
        Overflows [getD fields "x" .null, getD fields "y" .null] ∨
      type = some .steeringParams ∧ IsShortString (getD fields "token" .null) ∧
        Overflows [getD fields "slew_deg_s" .null, getD fields "accel_deg_s2" .null,
          getD fields "jerk_deg_s3" .null, getD fields "alignment_deg" .null,
          getD fields "release_deg" (.float (.finite 0))] := by
  constructor
  · rintro (hhash | ⟨htype, hop⟩ | ⟨htype, hyaw, hover⟩ | ⟨htype, htoken, hover⟩)
    · refine absurd hhash ((failsOnly_member_iff RequestType.name RequestType.all).1 ?_)
      rw [hmember]
      exact .ok type
    · exact .inl ⟨type_of_member .moduleOp hmember htype, hop⟩
    · exact .inr (.inl ⟨type_of_member .drive hmember htype, hyaw, hover⟩)
    · exact .inr (.inr ⟨type_of_member .steeringParams hmember htype, htoken, hover⟩)
  · rintro (⟨rfl, hop⟩ | ⟨rfl, hyaw, hover⟩ | ⟨rfl, htoken, hover⟩)
    · exact .op (member_eq_some hmember) hop
    · exact .drive (member_eq_some hmember) hyaw hover
    · exact .steering (member_eq_some hmember) htoken hover

theorem failsOnly_parseDocument_iff : FailsOnly Caught (parseDocument fields) ↔ ¬Defect fields := by
  unfold parseDocument
  rw [FailsOnly.bind_iff, failsOnly_member_iff]
  by_cases hhash : Unhashable (getD fields "type" .null)
  · exact iff_of_false (fun h => h.1 hhash) fun h => h (.type hhash)
  obtain ⟨type, hmember⟩ := exists_member RequestType.name RequestType.all hhash
  rw [defect_iff hmember, hmember, and_iff_right hhash]
  have htext : ∀ (field : String) (next : List ℕ → Request), FailsOnly Caught
      (shortString field (getD fields field .null) >>= fun text => pure (next text)) :=
    fun field next => (failsOnly_shortString field _).bind fun text _ => .pure (next text)
  have honly : ∀ P : Option RequestType → Prop,
      (∀ other, Except.ok (ε := Raised) type = .ok other → P other) ↔ P type :=
    fun P => ⟨fun h => h type rfl, fun h other hother => Except.ok.inj hother ▸ h⟩
  rw [honly]
  cases type with
  | none => exact iff_of_true (.error trivial) (by simp)
  | some type =>
    cases type with
    | steeringParams => simpa using failsOnly_steeringParams_iff fields
    | drive => simpa using failsOnly_drive_iff fields
    | moduleOp => simpa using failsOnly_moduleOp_iff fields
    | steeringDefaults => exact iff_of_true (htext "token" _) (by simp)
    | gear => exact iff_of_true (htext "gear" _) (by simp)
    | _ => exact iff_of_true (.pure _) (by simp)

/-- All fields of a request fit its type. -/
structure Request.Valid (request : Request) : Prop where
  finite : ∀ x ∈ [request.x, request.y, request.z, request.w, request.release], x.isFinite = true
  yaw : request.yaw ∈ ([-1, 0, 1] : List ℤ)
  token : request.type = .steeringParams ∨ request.type = .steeringDefaults →
    ShortText request.token
  gear : request.type = .gear → ShortText request.gear
  op : request.type = .moduleOp → request.op.isSome = true ∧
    0 < request.modules.length ∧ request.modules.length ≤ maxModules ∧
    ∀ text ∈ request.modules, ShortText text

theorem zero_mem_yaw : (0 : ℤ) ∈ ([-1, 0, 1] : List ℤ) := by decide

theorem valid_steeringParams {request : Request} (h : steeringParams fields = .ok request) :
    request.Valid := by
  unfold steeringParams at h
  simp only [bind_eq_ok_iff] at h
  obtain ⟨token, htoken, x, hx, y, hy, z, hz, w, hw, release, hrelease, h⟩ := h
  cases h
  have hfinite : ∀ v ∈ [x, y, z, w, release], v.isFinite = true := by
    simp only [List.forall_mem_cons]
    exact ⟨(number_eq_ok hx).2, (number_eq_ok hy).2, (number_eq_ok hz).2, (number_eq_ok hw).2,
      (number_eq_ok hrelease).2, List.forall_mem_nil _⟩
  exact ⟨hfinite, zero_mem_yaw, fun _ => (shortString_eq_ok_iff.1 htoken).2,
    RequestType.noConfusion, RequestType.noConfusion⟩

theorem valid_drive {request : Request} (h : drive fields = .ok request) : request.Valid := by
  unfold drive at h
  simp only [bind_eq_ok_iff] at h
  obtain ⟨yaw, hyaw, x, hx, y, hy, h⟩ := h
  cases h
  have hfinite : ∀ v ∈ [x, y, .finite 0, .finite 0, .finite 0], v.isFinite = true := by
    simp only [List.forall_mem_cons]
    exact ⟨(number_eq_ok hx).2, (number_eq_ok hy).2, rfl, rfl, rfl, List.forall_mem_nil _⟩
  exact ⟨hfinite, yawOf_eq_ok hyaw, by simp, RequestType.noConfusion, RequestType.noConfusion⟩

theorem valid_of_text {type : RequestType} {token gear : List ℕ} {op : Option ModuleOperation}
    {modules : List (List ℕ)}
    (htoken : type = .steeringParams ∨ type = .steeringDefaults → ShortText token)
    (hgear : type = .gear → ShortText gear)
    (hop : type = .moduleOp → op.isSome = true ∧ 0 < modules.length ∧
      modules.length ≤ maxModules ∧ ∀ text ∈ modules, ShortText text) :
    Request.Valid { type, token, gear, op, modules } := by
  refine ⟨?_, zero_mem_yaw, htoken, hgear, hop⟩
  simp [Double.isFinite]

theorem valid_moduleOp {request : Request} (h : moduleOp fields = .ok request) :
    request.Valid := by
  unfold moduleOp badRequest at h
  obtain ⟨op, hop, h⟩ := bind_eq_ok_iff.1 h
  cases op with
  | none => cases h
  | some op =>
    dsimp only at h
    split at h
    · split_ifs at h with hcount
      obtain ⟨modules, hmodules, h⟩ := bind_eq_ok_iff.1 h
      cases h
      obtain ⟨hlength, hshort⟩ := forall_of_mapM_eq_ok
        (fun _ _ htext => (shortString_eq_ok_iff.1 htext).2) hmodules
      rw [← hlength] at hcount
      exact valid_of_text (by simp) RequestType.noConfusion
        fun _ => ⟨rfl, hcount.1, hcount.2, hshort⟩
    · cases h

theorem valid_parseDocument {request : Request} (h : parseDocument fields = .ok request) :
    request.Valid := by
  unfold parseDocument at h
  obtain ⟨type, htype, h⟩ := bind_eq_ok_iff.1 h
  cases type with
  | none => cases h
  | some type =>
    cases type with
    | steeringParams => exact valid_steeringParams fields h
    | drive => exact valid_drive fields h
    | moduleOp => exact valid_moduleOp fields h
    | steeringDefaults =>
      obtain ⟨token, htoken, h⟩ := bind_eq_ok_iff.1 h
      cases h
      exact valid_of_text (fun _ => (shortString_eq_ok_iff.1 htoken).2) RequestType.noConfusion
        RequestType.noConfusion
    | gear =>
      obtain ⟨gear, hgear, h⟩ := bind_eq_ok_iff.1 h
      cases h
      exact valid_of_text (by simp) (fun _ => (shortString_eq_ok_iff.1 hgear).2)
        RequestType.noConfusion
    | _ =>
      cases h
      exact valid_of_text (by simp) (by simp) (by simp)

end Documents

section Messages

variable (limit : ℕ) (raw : String)

/-- The messages on which the parser raises what nobody catches. -/
def Breaks : Prop :=
  raw.utf8ByteSize ≤ maxMessageBytes ∧ (loads limit raw = .error .recursionError ∨
    ∃ fields, loads limit raw = .ok (.object fields) ∧ Defect fields)

theorem failsOnly_parseRequest_iff :
    FailsOnly Caught (parseRequest limit raw) ↔ ¬Breaks limit raw := by
  have hbad : ∀ message, FailsOnly Caught (badRequest message : Except Raised Request) :=
    fun _ => .error trivial
  unfold parseRequest Breaks
  split_ifs with hsize
  · exact iff_of_true (hbad _) fun h => not_le.2 hsize h.1
  · rw [and_iff_right (not_lt.1 hsize)]
    split
    · rename_i hload
      rw [hload]
      exact iff_of_true (hbad _) (by simp)
    · rename_i hload
      rw [hload]
      exact iff_of_false (fun h => h _ rfl) (by simp)
    · rename_i fields hload
      rw [hload, failsOnly_parseDocument_iff]
      simp
    · rename_i document hother hload
      rw [hload]
      refine iff_of_true (hbad _) ?_
      simpa using fun fields hobject _ => hother fields hobject

theorem valid_parseRequest {request : Request} (h : parseRequest limit raw = .ok request) :
    request.Valid := by
  unfold parseRequest badRequest at h
  split_ifs at h
  split at h
  · cases h
  · cases h
  · exact valid_parseDocument _ h
  · cases h

/-- A message is a valid request, or it is answered and halts its session. -/
def Answered (C : Type*) [DecidableEq C] : Prop :=
  (∃ request, parseRequest limit raw = .ok request ∧ request.Valid) ∨
  ∃ error, parseRequest limit raw = .error (.protocolError error) ∧
    ∀ (config : TeleopConfig ℝ) (arbiter : Teleop.DriveArbiter C ℝ) (session : C)
      (serve : Request → Except TeleopError (Option (ArbiterEvent C)))
      (between : List (ArbiterEvent C)),
      handleText limit config arbiter session raw serve between =
        .ok ((run (Teleop.DriveArbiter.perform config) arbiter between).halt session,
          some ⟨error.code, error.message⟩)

/-- A message is answered exactly if it is none of the defects. -/
theorem answered_iff_not_breaks (C : Type*) [DecidableEq C] :
    Answered limit raw C ↔ ¬Breaks limit raw := by
  rw [← failsOnly_parseRequest_iff]
  constructor
  · rintro (⟨request, hrequest, -⟩ | ⟨error, herror, -⟩)
    · rw [hrequest]
      exact .ok request
    · rw [herror]
      exact .error trivial
  · intro hcaught
    cases hparsed : parseRequest limit raw with
    | ok request => exact .inl ⟨request, hparsed, valid_parseRequest limit raw hparsed⟩
    | error raised =>
      cases raised with
      | protocolError error =>
        refine .inr ⟨error, hparsed, fun config arbiter session serve between => ?_⟩
        rw [handleText, hparsed]
        rfl
      | _ => exact absurd (hcaught _ hparsed) id

/-- An object whose type is a list breaks the handler. -/
theorem list_type_unanswered : ¬∀ limit raw, Answered limit raw String := by
  intro h
  have hraised : parseRequest 1000 "\x7b\"type\": []\x7d" = .error .typeError := by rfl
  rcases h 1000 "\x7b\"type\": []\x7d" with ⟨request, hrequest, -⟩ | ⟨error, herror, -⟩
  · rw [hraised] at hrequest
    cases hrequest
  · rw [hraised] at herror
    cases herror

end Messages

end RobotDriver.OperatorWeb.Protocol
