/-
  The closed list of error codes that plugins report, and
  their numbers on the wire.

  Key definitions include:
    * `ErrorCode`
    * `ErrorCode.number`
    * `ErrorCode.ofNumber?`
-/

------------------------------------------------------------
-- Codes
------------------------------------------------------------

namespace NetPlugin

/- What kind of failure a plugin reports. -/
inductive ErrorCode where
  | unknown
  | incompatibleVersion
  | unsupportedField
  | unknownContainer
  | invalidEnvironment
  | ioFailure
  | decodingFailure
  | invalidNetworkConfig
  | invalidNamespace
  | tryAgainLater
  | pluginNotAvailable
  | limitedConnectivity
  | noConnectivity
  | internal
  deriving DecidableEq, Repr

namespace ErrorCode

/- All codes, by increasing number. -/
def all : List ErrorCode :=
  [.unknown, .incompatibleVersion, .unsupportedField,
    .unknownContainer, .invalidEnvironment, .ioFailure,
    .decodingFailure, .invalidNetworkConfig,
    .invalidNamespace, .tryAgainLater, .pluginNotAvailable,
    .limitedConnectivity, .noConnectivity, .internal]

/- The number that goes over the wire. -/
def number : ErrorCode → Nat
  | .unknown => 0
  | .incompatibleVersion => 1
  | .unsupportedField => 2
  | .unknownContainer => 3
  | .invalidEnvironment => 4
  | .ioFailure => 5
  | .decodingFailure => 6
  | .invalidNetworkConfig => 7
  | .invalidNamespace => 8
  | .tryAgainLater => 11
  | .pluginNotAvailable => 50
  | .limitedConnectivity => 51
  | .noConnectivity => 52
  | .internal => 999

/- The code with a number, if there is one. -/
def ofNumber? (n : Nat) : Option ErrorCode :=
  all.find? (·.number == n)

/- How a number without a code is refused. -/
def unknownNumber (n : Nat) : String :=
  "unknown CNI error code " ++ Nat.repr n

/- A code is found again by its number. -/
@[simp]
theorem ofNumber?_number (code : ErrorCode) :
    ofNumber? code.number = some code := by
  cases code <;> rfl

/- A number belongs to at most one code. -/
theorem ofNumber?_eq_some_iff
    (n : Nat)
    (code : ErrorCode) :
    ofNumber? n = some code ↔ code.number = n := by
  constructor
  · intro hFound
    have hTest := List.find?_some hFound
    simpa using hTest
  · rintro rfl
    exact ofNumber?_number code

end ErrorCode

end NetPlugin
