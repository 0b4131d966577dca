import MarketData.CommandLine.Run

/-! The program. It carries out its command line in a world without reachable hosts. -/

open MarketData CommandLine

/-- The environment variables that the program looks at, as far as they are set. -/
def readVariables : IO (List (String × String)) := do
  let names := ["IEX_SECRET_KEY", "IEX_SANDBOX_SECRET_KEY"]
  let values ← names.mapM fun name => do return (← IO.getEnv name).map (name, ·)
  return values.filterMap id

def main (words : List String) : IO UInt32 := do
  let (output, _) := run { network := .unreachable } (← readVariables) words {}
  IO.print output.stdout
  IO.eprint output.stderr
  return UInt32.ofNat output.code
