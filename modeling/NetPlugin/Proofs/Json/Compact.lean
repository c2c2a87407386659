import NetPlugin.Json.Printer

/-
  The compact text of a value, in closed form.

  On one line nothing depends on how many brackets are open:
  an array is the texts of its items and an object those of
  its members, with a comma between any two of them.

  Main declarations:
    * `Json.Value.piecesAt_compact`
    * `Json.Value.text_array`
    * `Json.Value.text_object`
-/

------------------------------------------------------------
-- Brackets
------------------------------------------------------------

namespace NetPlugin

namespace Json

namespace Value

mutual

/- No piece depends on the brackets around a value. -/
theorem piecesAt_compact
    (depth : Nat) :
    (value : Value) →
    value.piecesAt .compact depth = value.pieces .compact
  | .null => rfl
  | .boolean true => rfl
  | .boolean false => rfl
  | .number _ => rfl
  | .string _ => rfl
  | .array [] => rfl
  | .array (item :: rest) => by
      unfold pieces piecesAt
      rw [itemPieces_compact (depth + 1) true (item :: rest),
        itemPieces_compact (0 + 1) true (item :: rest)]
      rfl
  | .object [] => rfl
  | .object (member :: rest) => by
      unfold pieces piecesAt
      rw [memberPieces_compact (depth + 1) true
          (member :: rest),
        memberPieces_compact (0 + 1) true (member :: rest)]
      rfl

theorem itemPieces_compact
    (depth : Nat)
    (first : Bool) :
    (items : List Value) →
    itemPieces .compact depth first items =
      itemPieces .compact 0 first items
  | [] => rfl
  | item :: rest => by
      unfold itemPieces
      rw [piecesAt_compact depth item,
        piecesAt_compact 0 item,
        itemPieces_compact depth false rest]
      rfl

theorem memberPieces_compact
    (depth : Nat)
    (first : Bool) :
    (members : List (String × Value)) →
    memberPieces .compact depth first members =
      memberPieces .compact 0 first members
  | [] => rfl
  | (key, value) :: rest => by
      unfold memberPieces
      rw [piecesAt_compact depth value,
        piecesAt_compact 0 value,
        memberPieces_compact depth false rest]
      rfl

end

------------------------------------------------------------
-- Commas
------------------------------------------------------------

/- What stands before an item or a member on one line. -/
theorem separator_compact
    (first : Bool)
    (depth : Nat) :
    Layout.compact.separator first depth =
      if first then "" else "," := by
  cases first <;> rfl

theorem join_itemPieces_cons
    (first : Bool)
    (item : Value)
    (rest : List Value) :
    String.join (itemPieces .compact 0 first (item :: rest)) =
      (if first then "" else ",") ++ item.text .compact ++
        String.join (itemPieces .compact 0 false rest) := by
  rw [itemPieces, String.join_cons, String.join_append,
    separator_compact, String.append_assoc]
  rfl

/-
  The items of an array.  The induction is on those behind
  the first one, before each of which there is a comma.
-/
theorem join_itemPieces (items : List Value) :
    String.join (itemPieces .compact 0 true items) =
      ",".intercalate (items.map (text .compact)) := by
  induction items with
  | nil => rfl
  | cons item rest ih =>
      cases rest with
      | nil =>
          rw [join_itemPieces_cons]
          simp [itemPieces]
      | cons next rest =>
          rw [join_itemPieces_cons] at ih ⊢
          rw [join_itemPieces_cons, List.map_cons,
            List.map_cons, String.intercalate_cons_cons,
            ← List.map_cons, ← ih]
          simp [String.append_assoc]

/- The text of a member. -/
def memberText (member : String × Value) : String :=
  literal member.1 ++ ":" ++ member.2.text .compact

theorem join_memberPieces_cons
    (first : Bool)
    (member : String × Value)
    (rest : List (String × Value)) :
    String.join
        (memberPieces .compact 0 first (member :: rest)) =
      (if first then "" else ",") ++ memberText member ++
        String.join (memberPieces .compact 0 false rest) := by
  rw [memberPieces, String.join_cons, String.join_cons,
    String.join_cons, String.join_append, separator_compact]
  unfold memberText
  simp only [String.append_assoc]
  rfl

/- The members of an object, in the same way. -/
theorem join_memberPieces
    (members : List (String × Value)) :
    String.join (memberPieces .compact 0 true members) =
      ",".intercalate (members.map memberText) := by
  induction members with
  | nil => rfl
  | cons member rest ih =>
      cases rest with
      | nil =>
          rw [join_memberPieces_cons]
          simp [memberPieces]
      | cons next rest =>
          rw [join_memberPieces_cons] at ih ⊢
          rw [join_memberPieces_cons, List.map_cons,
            List.map_cons, String.intercalate_cons_cons,
            ← List.map_cons, ← ih]
          simp [String.append_assoc]

------------------------------------------------------------
-- Texts
------------------------------------------------------------

theorem text_string (value : String) :
    (Value.string value).text .compact = literal value := by
  simp [text, pieces, piecesAt]

theorem text_array (items : List Value) :
    (Value.array items).text .compact =
      "[" ++ ",".intercalate (items.map (text .compact)) ++
        "]" := by
  cases items with
  | nil => rfl
  | cons item rest =>
      rw [← join_itemPieces]
      unfold text pieces piecesAt
      rw [itemPieces_compact (0 + 1)]
      simp [Layout.close, String.join_append,
        String.append_assoc]

theorem text_object (members : List (String × Value)) :
    (Value.object members).text .compact =
      "\x7b" ++ ",".intercalate (members.map memberText) ++
        "\x7d" := by
  cases members with
  | nil => rfl
  | cons member rest =>
      rw [← join_memberPieces]
      unfold text pieces piecesAt
      rw [memberPieces_compact (0 + 1)]
      simp [Layout.close, String.join_append,
        String.append_assoc]

end Value

end Json

end NetPlugin
