import LoadProbe.Binary64.Basic
import LoadProbe.SortedMap

/-!
# Histograms of latencies

A histogram counts samples in cells.  Small samples have a cell each; from 2048 on, the cells
between two powers of two are 1024 in number and equally wide, so a cell is never wider than a
thousandth of what it holds.

* `Histogram.record` counts a sample, `Histogram.count` is the number of samples.
* `Histogram.quantile`, `Histogram.max` and `Histogram.mean` describe them.
-/

namespace LoadProbe.Metrics

/-- The greatest sample that has a cell. -/
def greatestSample : Nat := 0x3ffffff

/-- What a greater sample is recorded as. -/
def overflowSample : Nat := 60000000

/-- The width of the cell of a sample. -/
def cellWidth (v : Nat) : Nat := if v < 2048 then 1 else Nat.pow 2 (Nat.log2 v - 10)

/-- The least sample in the cell of a sample. -/
def cellLow (v : Nat) : Nat := v / cellWidth v * cellWidth v

/-- The greatest sample in the cell of a sample. -/
def cellHigh (v : Nat) : Nat := cellLow v + cellWidth v - 1

/-- The middle of the cell of a sample. -/
def cellMiddle (v : Nat) : Nat := cellLow v + cellWidth v / 2

/-- The number of samples in each cell that has any, by the least sample of the cell. -/
structure Histogram where
  cells : SortedMap Nat Nat := []
deriving DecidableEq, Inhabited

namespace Histogram

/-- Counts a sample. -/
def record (v : Nat) (h : Histogram) : Histogram :=
  ⟨h.cells.increment (cellLow (if v ≤ greatestSample then v else overflowSample))⟩

/-- The number of samples. -/
def count (h : Histogram) : Nat := h.cells.total

/-- The cell that holds the sample of the given rank, the least sample having rank one. -/
def cellOfRank : Nat → List (Nat × Nat) → Option Nat
  | _, [] => none
  | rank, (cell, n) :: cells => if rank ≤ n then some cell else cellOfRank (rank - n) cells

/-- The rank of the sample at quantile `q` among `n`: the product, rounded to a floating-point
number, and then up, within 64 bits; at least one. -/
def rankOf (q : Binary64) (n : Nat) : Nat :=
  Nat.max 1 (Binary64.saturate Binary64.ceil (Binary64.mul q (Binary64.ofNat n)))

/-- The greatest sample in the cell of the sample at quantile `q`. -/
def quantile (q : Binary64) (h : Histogram) : Nat :=
  ((cellOfRank (rankOf q h.count) h.cells).map cellHigh).getD 0

/-- The greatest sample in the last cell used. -/
def max (h : Histogram) : Nat := ((h.cells.getLast?).map fun entry => cellHigh entry.1).getD 0

/-- The mean of the middles of the cells, each weighted by its part of all samples; the sum is
formed from the least cell on. -/
def mean (h : Histogram) : Binary64 :=
  let total := Binary64.ofNat h.count
  h.cells.foldl (fun sum (cell, n) =>
    sum.add (((Binary64.ofNat (cellMiddle cell)).mul (Binary64.ofNat n)).div total)) .zero

end Histogram

end LoadProbe.Metrics
