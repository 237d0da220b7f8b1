import ColumnChecks.Wire.Error

/-!
Versions of the stored form of schemas, and the settings for validating and enforcing constraints.
-/

namespace ColumnChecks

inductive Version where
  | v0
  | v1
  | v2
  deriving DecidableEq

namespace Version

def all : List Version := [.v0, .v1, .v2]

def current : Version := .v2

def token : Version → UInt32
  | v0 => 0
  | v1 => 1
  | v2 => 2

def ofToken (token : UInt32) : Except WireError Version :=
  match all.find? (·.token = token) with
  | some version => .ok version
  | none => .error (.unsupportedVersion token)

def name (version : Version) : String :=
  "V" ++ toString version.token

instance : Ord Version where
  compare first second := compare first.token second.token

theorem mem_all (version : Version) : version ∈ all := by
  cases version <;> simp [all]

theorem ofToken_token (version : Version) : ofToken version.token = .ok version := by
  cases version <;> rfl

end Version

structure Config where
  /-- Values are evaluated when they are written. Missing columns and deletions are checked in any
  case. -/
  enforceOnWrite : Bool := true
  metadataVersion : Version := .current
  maxTermLength : Nat := 1024
  deriving DecidableEq

end ColumnChecks
