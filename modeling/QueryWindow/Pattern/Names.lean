/-!
# QueryWindow.Pattern.Names

**The English names of months and weekdays**, and how names are recognised in a text: in any mix of
capitals and small letters, by their first three letters or, where that is allowed, in full.
-/

namespace QueryWindow

/-- The months, from January. -/
def monthNames : List String :=
  ["January", "February", "March", "April", "May", "June", "July", "August", "September",
    "October", "November", "December"]

/-- The weekdays, from Monday. -/
def weekdayNames : List String :=
  ["Monday", "Tuesday", "Wednesday", "Thursday", "Friday", "Saturday", "Sunday"]

namespace Name

/-- The first three letters of a name. -/
def short (name : String) : List Char := name.toList.take 3

/-- What follows the first three letters of a name. -/
def remainder (name : String) : List Char := name.toList.drop 3

/-- What follows a word at the start of a text, capitals and small letters being the same. -/
def dropWord? : List Char → List Char → Option (List Char)
  | [], cs => some cs
  | _ :: _, [] => none
  | w :: ws, c :: cs => if w.toLower = c.toLower then dropWord? ws cs else none

/-- The place in a list of the name at the start of a text, and what follows it. Three letters are
enough; with `long`, the others belong to the name if they are all there. -/
def find? (names : List String) (long : Bool) (cs : List Char) : Option (Nat × List Char) :=
  names.zipIdx.findSome? fun (name, place) =>
    (dropWord? (short name) cs).map fun rest =>
      (place, if long then (dropWord? (remainder name) rest).getD rest else rest)

end Name

end QueryWindow
