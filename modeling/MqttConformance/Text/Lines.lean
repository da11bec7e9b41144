/-!
The lines of a text. A line break ends a line and starts the next, so a text that ends with one has
an empty line behind it.
-/

namespace MqttConformance.Text

/-- The lines of a text of characters. -/
def lineChars : List Char → List (List Char)
  | [] => [[]]
  | c :: cs =>
    if c = '\n' then [] :: lineChars cs
    else
      match lineChars cs with
      | [] => [[c]]
      | line :: lines => (c :: line) :: lines

/-- The lines of a text. -/
def lines (s : String) : List String := (lineChars s.toList).map String.ofList

end MqttConformance.Text
