import DocQuery.Time.Instant

/-!
Moments by a format: a percent sign and what follows it stand for a part of the moment.
-/
namespace DocQuery.Instant

def dateText (r : Reading) : String :=
  Text.writePadded 4 r.date.year.natAbs ++ "-" ++ Text.writePadded 2 r.date.month ++ "-"
    ++ Text.writePadded 2 r.date.day

def timeText (r : Reading) : String :=
  Text.writePadded 2 r.hour ++ ":" ++ Text.writePadded 2 r.minute ++ ":"
    ++ Text.writePadded 2 r.second

def millisText (r : Reading) : String := "." ++ Text.writePadded 3 (r.nanos / 1000000)

def part? (r : Reading) : Char → Option String
  | 'Y' => some (Text.writePadded 4 r.date.year.natAbs)
  | 'm' => some (Text.writePadded 2 r.date.month)
  | 'd' => some (Text.writePadded 2 r.date.day)
  | 'H' => some (Text.writePadded 2 r.hour)
  | 'M' => some (Text.writePadded 2 r.minute)
  | 'S' => some (Text.writePadded 2 r.second)
  | 'F' => some (dateText r)
  | 'T' => some (timeText r)
  | 'f' => some (Text.writePadded 9 r.nanos)
  | 'z' => some "+0000"
  | 'Z' => some "+00:00"
  | '+' => some (dateText r ++ "T" ++ timeText r ++ millisText r ++ "+00:00")
  | 'n' => some "\n"
  | 't' => some "\t"
  | _ => none

def formatList (r : Reading) : List Char → String
  | '%' :: '%' :: rest => "%" ++ formatList r rest
  | '%' :: '.' :: '3' :: 'f' :: rest => millisText r ++ formatList r rest
  | '%' :: c :: rest => (part? r c).getD (String.ofList ['%', c]) ++ formatList r rest
  | c :: rest => c.toString ++ formatList r rest
  | [] => ""

def format (t : Instant) (text : String) : String := formatList t.reading text.toList

end DocQuery.Instant
