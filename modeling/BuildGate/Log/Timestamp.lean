namespace BuildGate.Log.Timestamp

structure Day where
  year : Nat
  month : Nat
  day : Nat
  deriving DecidableEq, Repr

/-- The number of days from the first of March of the year 0 to the beginning of 1970. -/
def epoch : Nat := 719468

def eraLength : Nat := 146097

/-- The day that lies so many days after the beginning of 1970. Years are counted from March on, so that
    the odd day of a leap year comes last. -/
def Day.ofDays (days : Nat) : Day :=
  let shifted := days + epoch
  let era := shifted / eraLength
  let dayOfEra := shifted % eraLength
  let yearOfEra := (dayOfEra - dayOfEra / 1460 + dayOfEra / 36524 - dayOfEra / 146096) / 365
  let dayOfYear := dayOfEra - (365 * yearOfEra + yearOfEra / 4 - yearOfEra / 100)
  let fromMarch := (5 * dayOfYear + 2) / 153
  let month := if fromMarch < 10 then fromMarch + 3 else fromMarch - 9
  let year := yearOfEra + era * 400
  ⟨if month ≤ 2 then year + 1 else year, month, dayOfYear - (153 * fromMarch + 2) / 5 + 1⟩

def padded (width n : Nat) : String :=
  let digits := Nat.toDigits 10 n
  String.ofList (List.replicate (width - digits.length) '0' ++ digits)

def Day.text (d : Day) : String :=
  padded 4 d.year ++ "-" ++ padded 2 d.month ++ "-" ++ padded 2 d.day

def secondsPerDay : Nat := 86400

def day (seconds : Nat) : String := (Day.ofDays (seconds / secondsPerDay)).text

def time (seconds : Nat) : String :=
  let rest := seconds % secondsPerDay
  padded 2 (rest / 3600) ++ ":" ++ padded 2 (rest / 60 % 60) ++ ":" ++ padded 2 (rest % 60)

def text (seconds nanoseconds : Nat) : String :=
  day seconds ++ "T" ++ time seconds ++ "." ++ padded 9 nanoseconds ++ "+00:00"

end BuildGate.Log.Timestamp
