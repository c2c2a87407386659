import NetPlugin.Decimal.Binary64

/-
  JSON values.

  An object keeps its members in document order, repeated
  keys included; looking a key up finds its last member.
  The canonical form of a value has each key once, with its
  last value, and the keys in the order of their characters.

  Key definitions include:
    * `Json.Number`
    * `Json.Value`
    * `Json.Members.last?`
    * `Json.Members.sorted`
    * `Json.Value.canonical`
-/

------------------------------------------------------------
-- Values
------------------------------------------------------------

namespace NetPlugin

namespace Json

/-
  A number is an integer of 64 bits or a floating-point
  number, which keeps the sign of zero.
-/
inductive Number where
  | integer (value : Int)
  | float (negative : Bool) (magnitude : Binary64)
  deriving DecidableEq, Repr

/- A JSON value. -/
inductive Value where
  | null
  | boolean (value : Bool)
  | number (value : Number)
  | string (value : String)
  | array (items : List Value)
  | object (members : List (String × Value))
  deriving Repr

/- The members of an object in document order. -/
abbrev Members :=
  List (String × Value)

------------------------------------------------------------
-- Looking Keys Up
------------------------------------------------------------

namespace Members

/- The value of the last member with a key. -/
def last?
    (members : Members)
    (key : String) : Option Value :=
  match members with
  | [] => none
  | (name, value) :: rest =>
      match last? rest key with
      | some found => some found
      | none => if name = key then some value else none

/- Nothing is found exactly when no member has the key. -/
theorem last?_eq_none_iff
    (members : Members)
    (key : String) :
    last? members key = none ↔
      ∀ member ∈ members, member.1 ≠ key := by
  induction members with
  | nil => simp [last?]
  | cons member rest ih =>
      rcases member with ⟨name, value⟩
      rw [last?, List.forall_mem_cons, ← ih]
      cases hRest : last? rest key with
      | some found => simp
      | none => by_cases hName : name = key <;> simp [hName]

/- A later member hides the earlier ones. -/
theorem last?_append
    (earlier later : Members)
    (key : String) :
    last? (earlier ++ later) key =
      (last? later key).or (last? earlier key) := by
  induction earlier with
  | nil => simp [last?]
  | cons member rest ih =>
      rcases member with ⟨name, value⟩
      rw [List.cons_append, last?, ih]
      cases hLater : last? later key with
      | some found => simp
      | none => simp [last?]

------------------------------------------------------------
-- Canonical Order
------------------------------------------------------------

/- Set a key in members that are in increasing order. -/
def insert
    (key : String)
    (value : Value) : Members → Members
  | [] => [(key, value)]
  | (name, old) :: rest =>
      if key = name then (key, value) :: rest
      else if key < name then
        (key, value) :: (name, old) :: rest
      else (name, old) :: insert key value rest

/- Each key once, with its last value, in increasing order. -/
def sorted (members : Members) : Members :=
  members.foldl
    (fun done member => insert member.1 member.2 done) []

end Members

namespace Value

mutual

/- A value with the members of all its objects in order. -/
def canonical : Value → Value
  | .array items => .array (canonicalItems items)
  | .object members =>
      .object (Members.sorted (canonicalMembers members))
  | value => value

/- The canonical forms of the items of an array. -/
def canonicalItems : List Value → List Value
  | [] => []
  | item :: rest => canonical item :: canonicalItems rest

/- The same keys with the canonical forms of their values. -/
def canonicalMembers :
    List (String × Value) → List (String × Value)
  | [] => []
  | (key, value) :: rest =>
      (key, canonical value) :: canonicalMembers rest

end

end Value

end Json

end NetPlugin
