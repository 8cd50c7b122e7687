/-
# `Hyperslab.Filter.Engine` — the engine behind the patterns of filters

Filters leave open what compiles their patterns.  Here the expressions of this library are put
in: a pattern compiles if it denotes an expression that is small enough, and then it matches
the texts in which the expression finds a part.
-/
import Hyperslab.Filter.Evaluation
import Hyperslab.Regex.Matching
import Hyperslab.Regex.Meaning

namespace Hyperslab

instance : PatternCompiler where
  Compiled := Regex
  compile? := Regex.compile?
  isMatch := Regex.isMatch

end Hyperslab
