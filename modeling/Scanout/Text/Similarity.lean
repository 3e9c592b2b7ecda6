namespace Scanout.Text

/-- The characters of `a` that find their like in `b` no more than `window` places off, each with
the place it found. A place is found once, the first that is free. -/
def matched (window : Nat) (a b : List Char) : List (Char × Nat) :=
  a.zipIdx.foldl
    (fun found (c, i) =>
      let free := fun (d, j) =>
        d == c && i ≤ j + window && j ≤ i + window && !found.any (·.2 == j)
      match b.zipIdx.find? free with
      | some (_, j) => found ++ [(c, j)]
      | none => found)
    []

/-- How alike two texts are, between zero and one: the mean of the shares of both that match, and of
the share of the matches that keep their order. -/
def similarity (a b : List Char) : Float :=
  let found := matched (max a.length b.length / 2 - 1) a b
  if found.isEmpty then 0
  else
    let inOrder := (found.map (·.2)).mergeSort (· ≤ ·)
    let moved := (found.zip inOrder).countP fun ((c, _), j) => b[j]? != some c
    let m := found.length.toFloat
    (m / a.length.toFloat + m / b.length.toFloat + (found.length - moved / 2).toFloat / m) / 3

end Scanout.Text
