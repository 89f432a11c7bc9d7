namespace JsonSchema.Text

/-- The parts between separators. There is one part more than separators, and parts may be empty. -/
def parts (separator : Char) : List Char → List (List Char)
  | [] => [[]]
  | c :: rest =>
    if c = separator then [] :: parts separator rest
    else match parts separator rest with
      | part :: more => (c :: part) :: more
      | [] => [[c]]

/-- The parts that separators close. What stands behind the last separator is a part too unless it
is empty, so an empty text has no parts. -/
def closedParts (separator : Char) (text : List Char) : List (List Char) :=
  let all := parts separator text
  if all.getLast? = some [] then all.dropLast else all

def withoutReturn (line : List Char) : List Char :=
  if line.getLast? = some '\r' then line.dropLast else line

def lines (text : String) : List String :=
  let all := parts '\n' text.toList
  (all.dropLast.map withoutReturn ++ all.getLast?.toList.filter (!·.isEmpty)).map String.ofList

end JsonSchema.Text
