import Mathlib.Data.List.Basic
import Mathlib.Data.BitVec

/-! Go runtime values that the DirectPV sources rely on.

    Strings and byte slices are byte lists; `int64`, `uint64` and `uint32` are bit vectors, so
    Go's wrap-around arithmetic is the bit vectors' own; Go's `int` is `Int` (only compared, never
    computed with). A Go map is a partial function, and a `nil` map is `none`: writing to it is a
    runtime panic. Errors are the values the modelled code returns or panics with; sentinels such as
    `errNonDeviceEvent` are compared by identity, as `errors.Is` does. -/

namespace DirectPV

/-- A Go `string` or `[]byte`. -/
abbrev Bytes := List UInt8

/-- The bytes of an ASCII string constant. -/
def ascii (s : String) : Bytes := s.toList.map fun c => c.toNat.toUInt8

/-- The `Err` field of a `*strconv.NumError`. -/
inductive NumErr where
  | errSyntax
  | errRange
  deriving DecidableEq, Repr

/-- A Go `error` produced by the modelled code, or a runtime panic. -/
inductive GoError where
  /-- `errNonDeviceEvent` of package `uevent`: "Uevent is not for a block device". -/
  | errNonDeviceEvent
  /-- `errNoMatchFound`: "no matching drive found". -/
  | errNoMatchFound
  /-- A value of `errors.New` or `fmt.Errorf`, by its text. -/
  | text (msg : String)
  /-- The `*strconv.NumError` of `strconv.Atoi` on input `num`. -/
  | numError (num : Bytes) (err : NumErr)
  /-- The API server refused an `Update` computed from a stale read. -/
  | conflict (name : String)
  /-- The API server has no object of that name. -/
  | notFound (name : String)
  /-- An error of a collaborator that is not in the sources (file system, udev database, network). -/
  | external (msg : String)
  /-- A runtime panic. -/
  | panic (msg : String)
  deriving DecidableEq, Repr

/-- A Go `map[κ]ν` that has been allocated. -/
def GoMap (κ ν : Type) := κ → Option ν

/-- Results compare by value, so that a returned error can be decided. -/
instance decEqExcept {ε α : Type} [DecidableEq ε] [DecidableEq α] : DecidableEq (Except ε α)
  | .ok a, .ok b => decidable_of_iff (a = b) (by simp)
  | .error a, .error b => decidable_of_iff (a = b) (by simp)
  | .ok _, .error _ => isFalse nofun
  | .error _, .ok _ => isFalse nofun

namespace GoMap

variable {κ ν : Type}

/-- `map[κ]ν{}`. -/
def empty : GoMap κ ν := fun _ => none

@[simp] theorem empty_apply (k : κ) : (empty : GoMap κ ν) k = none := rfl

variable [DecidableEq κ]

/-- `m[k] = v`. -/
def insert (m : GoMap κ ν) (k : κ) (v : ν) : GoMap κ ν := fun k' => if k' = k then some v else m k'

/-- `m[k]` for a string-valued map: the empty string when `k` is absent. -/
def get (m : GoMap κ Bytes) (k : κ) : Bytes := (m k).getD []

@[simp] theorem insert_apply (m : GoMap κ ν) (k k' : κ) (v : ν) :
    m.insert k v k' = if k' = k then some v else m k' := rfl

end GoMap

/-- `m[k] = v` on a map that may be `nil`: assigning into a `nil` map panics. -/
def mapAssign {κ ν : Type} [DecidableEq κ] : Option (GoMap κ ν) → κ → ν → Except GoError (GoMap κ ν)
  | none, _, _ => .error (.panic "assignment to entry in nil map")
  | some m, k, v => .ok (m.insert k v)

/-! ### `strconv.Atoi` -/

/-- The digit loop of `strconv.ParseUint` in base 10: a non-digit is a syntax error, a value past
    `2^64 - 1` a range error, reported as soon as it is seen. -/
def parseUint10 (n : Nat) : Bytes → Except NumErr Nat
  | [] => .ok n
  | c :: cs =>
    if c.toNat < 48 ∨ 57 < c.toNat then .error .errSyntax
    else if 2 ^ 64 ≤ n * 10 + (c.toNat - 48) then .error .errRange
    else parseUint10 (n * 10 + (c.toNat - 48)) cs

/-- `strconv.Atoi` on a 64-bit platform: an optional sign, then at least one decimal digit, with
    the value inside `int`. -/
def atoi (s : Bytes) : Except GoError Int :=
  let (neg, digits) : Bool × Bytes := match s with
    | 43 :: ds => (false, ds)
    | 45 :: ds => (true, ds)
    | ds => (false, ds)
  if digits = [] then .error (.numError s .errSyntax) else
  match parseUint10 0 digits with
  | .error e => .error (.numError s e)
  | .ok n =>
    if neg then (if 2 ^ 63 < n then .error (.numError s .errRange) else .ok (-(n : Int)))
    else (if 2 ^ 63 ≤ n then .error (.numError s .errRange) else .ok n)

/-- `strconv.Atoi` fails only with a `*strconv.NumError`. -/
theorem atoi_ne_errNonDeviceEvent (s : Bytes) : atoi s ≠ .error .errNonDeviceEvent := by
  unfold atoi
  intro h
  repeat' split at h
  all_goals simp at h

example : atoi (ascii "259") = .ok 259 := by decide
example : atoi (ascii "-8") = .ok (-8) := by decide
example : atoi (ascii "8a") = .error (.numError (ascii "8a") .errSyntax) := by decide

/-! ### `strings.HasPrefix` and `strings.TrimPrefix` -/

/-- `strings.HasPrefix`, on the characters of the strings (the names it is used on are ASCII). -/
def hasPrefix (s pre : String) : Bool := pre.toList.isPrefixOf s.toList

/-- `strings.TrimPrefix`. -/
def trimPrefix (s pre : String) : String :=
  if hasPrefix s pre then String.mk (s.toList.drop pre.length) else s

/-! ### `filepath.Base` -/

/-- `filepath.Base` with the separator `/`: the last element of the path once trailing slashes are
    dropped; `"."` for the empty path and `"/"` for a path of slashes only. -/
def filepathBase (path : String) : String :=
  if path = "" then "." else
  let element := ((path.toList.reverse.dropWhile (· = '/')).takeWhile (· ≠ '/')).reverse
  if element = [] then "/" else String.mk element

@[simp] theorem filepathBase_empty : filepathBase "" = "." := rfl

end DirectPV
