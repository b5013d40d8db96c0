/-!
# Trimming a sequence

- `trimEnd`: a sequence without the items at its end that satisfy a predicate.
-/

namespace SessionGate

/-- Drops the items at the end that satisfy a predicate. -/
def trimEnd {α : Type} (drop : α → Bool) (items : List α) : List α :=
  (items.reverse.dropWhile drop).reverse

end SessionGate
