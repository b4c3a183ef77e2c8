/-!
# Similar texts

How much two texts look alike, from 0 to 1: the mean of the share of either text that the other has
at nearly the same place, and the share of those characters that stand in the same order. Out of
several candidates `mostSimilar?` picks the one that was most likely meant. The shares are added up
in floating point, whose rounding decides between candidates that are equally like a text.
-/

namespace KernelProbe.Text

/-- Pair the characters of the first text, from its `i`-th on, with equal characters of the second
that are at most `reach` places off; each place of the second text that is not yet taken is used
once, the lowest one first. -/
def sharedFrom (reach : Nat) (b : List Char) : Nat → List Nat → List Char → List (Char × Nat)
  | _, _, [] => []
  | i, taken, c :: rest =>
    let fits (j : Nat) : Bool := decide (i ≤ j + reach) && b[j]? == some c && !taken.contains j
    match (List.range (i + reach + 1)).find? fits with
    | some j => (c, j) :: sharedFrom reach b (i + 1) (j :: taken) rest
    | none => sharedFrom reach b (i + 1) taken rest

/-- The characters that two texts share, each with its place in the second. -/
def shared (a b : List Char) : List (Char × Nat) :=
  sharedFrom (max a.length b.length / 2 - 1) b 0 [] a

/-- How many pairs of shared characters have changed places. -/
def exchanges (b : List Char) (pairs : List (Char × Nat)) : Nat :=
  let inOrder := (b.zipIdx.filter fun (_, j) => pairs.any (·.2 == j)).map (·.1)
  ((List.zip (pairs.map (·.1)) inOrder).countP fun (c, d) => c != d) / 2

/-- A share of a whole. -/
def share (part whole : Nat) : Float := Float.ofNat part / Float.ofNat whole

/-- How much two texts look alike, from 0 to 1. -/
def similarity (a b : List Char) : Float :=
  let pairs := shared a b
  let common := pairs.length
  if a.isEmpty && b.isEmpty then 1
  else if pairs.isEmpty then 0
  else
    (share common a.length + share common b.length + share (common - exchanges b pairs) common) / 3

/-- A candidate that looks no more alike than this was not meant. -/
def strangeness : Float := 0.7

/-- The candidate whose name looks most like a text, the last one of several that do. -/
def mostSimilar? {α : Type} (name : α → String) (text : String) (candidates : List α) : Option α :=
  let found := candidates.foldl (fun best candidate =>
    let alike := similarity text.toList (name candidate).toList
    if strangeness < alike ∧ best.all (fun (highest, _) => highest ≤ alike) then
      some (alike, candidate)
    else best) (none : Option (Float × α))
  found.map (·.2)

end KernelProbe.Text
