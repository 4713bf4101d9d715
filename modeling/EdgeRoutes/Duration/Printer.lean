import EdgeRoutes.Duration.Basic

namespace EdgeRoutes.Duration

/-- `whole` and a fraction of `width` digits, its trailing zeros left out. -/
def fixed (whole fraction width : Nat) : List Char :=
  let ds := Numeral.trimZeros (Numeral.padded width fraction)
  Numeral.digits whole ++ (if ds.isEmpty then [] else '.' :: ds)

def magnitudeText (d : Duration) : List Char :=
  if 0 < d.seconds then fixed d.seconds d.nanos 9 ++ ['s']
  else if 1000000 ≤ d.nanos then fixed (d.nanos / 1000000) (d.nanos % 1000000) 6 ++ ['m', 's']
  else if 1000 ≤ d.nanos then fixed (d.nanos / 1000) (d.nanos % 1000) 3 ++ ['µ', 's']
  else Numeral.digits d.nanos ++ ['n', 's']

def text (d : Duration) : String :=
  String.ofList ((if d.negative then ['-'] else []) ++ d.magnitudeText)

end EdgeRoutes.Duration
