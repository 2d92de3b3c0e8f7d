/-!
# The layout of structured values

Status values, settings and pools are shown as records: a name, then the fields in
braces. `ConnPool.Layout` is such a value before it is written, and there are two
ways to write it.

* `ConnPool.Layout.inline` keeps it on one line.
* `ConnPool.Layout.indented` gives each field and each item a line of its own, four
  spaces deeper than what holds it and with a comma after it.

A record may hold fields it does not show. It then ends in `..`, which takes no
comma in either form.
-/

namespace ConnPool

/-- A structured value to be written. -/
inductive Layout where
  /-- A text written as it stands. -/
  | atom (text : String) : Layout
  /-- A record; `hidden` says that it holds more fields than those shown. -/
  | record (name : String) (fields : List (String × Layout)) (hidden : Bool) : Layout
  /-- A list of items. -/
  | items (members : List Layout) : Layout

namespace Layout

/-! ### On one line -/

mutual

/-- The text of a value on one line. -/
def inline : Layout → String
  | atom text => text
  | record name [] false => name
  | record name [] true => name ++ " \x7b .. \x7d"
  | record name (f :: fs) hidden =>
    name ++ " \x7b " ++ inlineFields (f :: fs) ++ (if hidden then ", .." else "") ++ " \x7d"
  | items members => "[" ++ inlineItems members ++ "]"

/-- The fields of a record on one line. -/
def inlineFields : List (String × Layout) → String
  | [] => ""
  | [(label, value)] => label ++ ": " ++ value.inline
  | (label, value) :: rest => label ++ ": " ++ value.inline ++ ", " ++ inlineFields rest

/-- The items of a list on one line. -/
def inlineItems : List Layout → String
  | [] => ""
  | [value] => value.inline
  | value :: rest => value.inline ++ ", " ++ inlineItems rest

end

/-! ### One line for each part -/

/-- The blanks before a line at a depth. -/
def margin (depth : Nat) : String := String.ofList (List.replicate (4 * depth) ' ')

mutual

/-- The text of a value whose first line stands at a depth, one line for each part. -/
def indented (depth : Nat) : Layout → String
  | atom text => text
  | record name [] false => name
  | record name [] true => name ++ " \x7b .. \x7d"
  | record name (f :: fs) hidden =>
    name ++ " \x7b\n" ++ indentedFields (depth + 1) (f :: fs)
      ++ (if hidden then margin (depth + 1) ++ "..\n" else "") ++ margin depth ++ "\x7d"
  | items [] => "[]"
  | items (m :: ms) => "[\n" ++ indentedItems (depth + 1) (m :: ms) ++ margin depth ++ "]"

/-- The fields of a record, each on its line. -/
def indentedFields (depth : Nat) : List (String × Layout) → String
  | [] => ""
  | (label, value) :: rest =>
    margin depth ++ label ++ ": " ++ value.indented depth ++ ",\n" ++ indentedFields depth rest

/-- The items of a list, each on its line. -/
def indentedItems (depth : Nat) : List Layout → String
  | [] => ""
  | value :: rest => margin depth ++ value.indented depth ++ ",\n" ++ indentedItems depth rest

end

/-- The text of a value in one of the two forms. -/
def render (spread : Bool) (value : Layout) : String :=
  if spread then value.indented 0 else value.inline

/-- A whole number. -/
def number (n : Nat) : Layout := atom (toString n)

/-- A truth value. -/
def flag (b : Bool) : Layout := atom (if b then "true" else "false")

end Layout

end ConnPool
