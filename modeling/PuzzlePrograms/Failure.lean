/-!
# What can go wrong while a program runs

A run over dynamic values fails for one of a few causes. `Failure` names the cause; the wording that
accompanies some of them is in `Refusal.message`, the one place where such text is written.

* a cause that any operation on values can have is a constructor of `Failure` of its own;
* a cause that one operation states in words is a `Refusal`, carried by `Failure.refused`.
-/

namespace PuzzlePrograms

/-! ## 1. Refusals: causes that are stated in words -/

/-- Reasons that the random source gives for turning a request down, and the one reason the
    picture routine gives. -/
inductive Refusal where
  | emptyChoice | sampleSize | populationNotSequence | countsLength | countsNotInteger | countsTotal
  | weightsAndCumulative
  | choicesCount (k : String)
  | weightsLength | weightsTotal | weightsInfinite | rangeEmpty
  | rangeBetween (start stop : String)
  | rangeStepped (start stop step : String)
  | rangeStepZero | rangeStopMissing | gammaParameters | trialsNegative | chanceOutside
  | stateVersion (version own : String)
  | seedType | bitsNegative | noState | pictureCount
  deriving DecidableEq, Repr

def Refusal.message : Refusal → String
  | .emptyChoice => "Cannot choose from an empty sequence"
  | .sampleSize => "Sample larger than population or is negative"
  | .populationNotSequence => "Population must be a sequence.  For dicts or sets, use sorted(d)."
  | .countsLength => "The number of counts does not match the population"
  | .countsNotInteger => "Counts must be integers"
  | .countsTotal => "Total of counts must be greater than zero"
  | .weightsAndCumulative => "Cannot specify both weights and cumulative weights"
  | .choicesCount k => "The number of choices must be a keyword argument: k=" ++ k
  | .weightsLength => "The number of weights does not match the population"
  | .weightsTotal => "Total of weights must be greater than zero"
  | .weightsInfinite => "Total of weights must be finite"
  | .rangeEmpty => "empty range for randrange()"
  | .rangeBetween a b => "empty range in randrange(" ++ a ++ ", " ++ b ++ ")"
  | .rangeStepped a b s => "empty range in randrange(" ++ a ++ ", " ++ b ++ ", " ++ s ++ ")"
  | .rangeStepZero => "zero step for randrange()"
  | .rangeStopMissing => "Missing a non-None stop argument"
  | .gammaParameters => "gammavariate: alpha and beta must be > 0.0"
  | .trialsNegative => "n must be non-negative"
  | .chanceOutside => "p must be in the range 0.0 <= p <= 1.0"
  | .stateVersion v own =>
      "state with version " ++ v ++ " passed to Random.setstate() of version " ++ own
  | .seedType =>
      "The only supported seed types are:\nNone, int, float, str, bytes, and bytearray."
  | .bitsNegative => "number of bits must be non-negative"
  | .noState => "System entropy source does not have state."
  | .pictureCount => "Task must contain exactly 2 dictionaries"

/-! ## 2. Failures -/

inductive Failure where
  | wrongType | badValue | outOfRange | missingKey | noAttribute | exhausted | exhaustedInside
  | divisionByZero | overflow | unsetVariable | tooDeep | endless | assertion
  | refused (r : Refusal)
  deriving DecidableEq, Repr

/-- A value, or why there is none. -/
abbrev Answer := Except Failure

def Failure.message? : Failure → Option String
  | .refused r => some r.message
  | .assertion => some ""
  | _ => none

/-- While the elements of a container are computed one by one, an empty source met inside is
    reported as such and does not end the container early. -/
def Failure.insideElement : Failure → Failure
  | .exhausted => .exhaustedInside
  | e => e

end PuzzlePrograms
