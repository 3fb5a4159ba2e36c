namespace TreeDump.Text

/-- The items with a comma and a blank between neighbours. -/
def commaSeparated : List String → String
  | [] => ""
  | [item] => item
  | item :: next :: items => item ++ ", " ++ commaSeparated (next :: items)

def bracketed (items : List String) : String :=
  "[" ++ commaSeparated items ++ "]"

/-- A record is written with its name and at least one field. -/
def record (name : String) (fields : List (String × String)) : String :=
  name ++ " \x7b " ++ commaSeparated (fields.map fun (label, value) => label ++ ": " ++ value) ++ " \x7d"

/-- A case of a sum type, with its one argument in parentheses. -/
def variant (name argument : String) : String :=
  name ++ "(" ++ argument ++ ")"

end TreeDump.Text
