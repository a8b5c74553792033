namespace TitleLint

/-- A length of time in microseconds. -/
structure Duration where
  micros : Nat
  deriving DecidableEq, Repr

namespace Duration

def seconds (n : Nat) : Duration := ⟨n * 1000000⟩

/-- The digits after the point of a fraction with this many places, without zeros at the end. -/
def fraction (places n : Nat) : List Char :=
  let digits := (Nat.repr n).toList
  let digits := List.replicate (places - digits.length) '0' ++ digits
  (digits.reverse.dropWhile (· = '0')).reverse

def decimal (whole places part : Nat) : String :=
  match fraction places part with
  | [] => Nat.repr whole
  | digits => Nat.repr whole ++ "." ++ String.ofList digits

/-- The length in the largest unit of which it holds one. -/
def text (d : Duration) : String :=
  if d.micros = 0 then "0ns"
  else if d.micros < 1000 then Nat.repr d.micros ++ "µs"
  else if d.micros < 1000000 then decimal (d.micros / 1000) 3 (d.micros % 1000) ++ "ms"
  else decimal (d.micros / 1000000) 6 (d.micros % 1000000) ++ "s"

end Duration

end TitleLint
