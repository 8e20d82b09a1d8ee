import JunctionReplay.Trajectory
import JunctionReplay.Word

/-!
# Recorded samples in order

Samples arrive in any order and with repeated times.  `normalize` drops those without a finite
time and, unless times are already strictly increasing, sorts the rest and keeps the first sample
of each time.

Sorting goes by a total order of machine numbers that tells the two zeros apart, repetition by
equality, for which they are the same.
-/

namespace JunctionReplay

/-- The place of a machine number in the total order by sign and size. -/
def orderKey (x : Float) : Int :=
  let bits := x.toBits.toNat
  if bits < Word.count 63 then bits else Word.count 63 - 1 - bits

namespace Trajectory

/-- Whether every sample is earlier than the next one. -/
def isOrdered : List (Sample Float) → Bool
  | first :: second :: rest =>
    !(second.time ≤ first.time) && isOrdered (second :: rest)
  | _ => true

/-- Drops the samples that have the time of the one kept before them. -/
def dropRepeated (kept : Sample Float) : List (Sample Float) → List (Sample Float)
  | [] => [kept]
  | sample :: rest =>
    if sample.time == kept.time then dropRepeated kept rest
    else kept :: dropRepeated sample rest

/-- The first sample of each time, for samples of which equal times stand together. -/
def firstOfEachTime : List (Sample Float) → List (Sample Float)
  | [] => []
  | sample :: rest => dropRepeated sample rest

/-- The samples sorted by time; samples of one time stay in their order. -/
def sortByTime (samples : List (Sample Float)) : List (Sample Float) :=
  samples.mergeSort fun a b => orderKey a.time ≤ orderKey b.time

/-- The samples with a finite time. -/
def timed (samples : List (Sample Float)) : List (Sample Float) :=
  samples.filter fun sample => sample.time.isFinite

/-- The samples with a finite time, one for each time, in the order of time. -/
def normalize (samples : List (Sample Float)) : List (Sample Float) :=
  if isOrdered (timed samples) then timed samples
  else firstOfEachTime (sortByTime (timed samples))

end Trajectory

end JunctionReplay
