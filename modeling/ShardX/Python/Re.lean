import ShardX.Python.Str

/-!
# Python `re`: a Backtracking Matcher

The patterns of `bottleneck_analyzer.py` use literal text, the classes `.` (with and
without `re.DOTALL`), `\d`, `\s` and `[\d,]`, greedy `+`, lazy `*?`, capturing groups,
non-capturing alternation `(?:a|b)` and the end anchor `\Z`. `Regex.matchK` runs such a
pattern the way CPython's `sre` engine does: it matches at the start of the text and
hands what is left, with the groups captured so far, to a continuation; a failed
continuation makes the engine backtrack, trying a greedy run shorter, a lazy run longer,
or the second alternative.

On top of it: `re.search` (leftmost match), `re.finditer` (successive non-overlapping
matches) and `re.split` with `maxsplit`. The analyzer's patterns never match the empty
string, and `finditer` / `split` are modelled for such patterns only (Python's special
treatment of empty matches is left out). Groups are numbered in the order they close,
which is Python's numbering for patterns without nested groups, as here.
-/

namespace ShardX.Python

/-- The character classes the analyzer's patterns use. -/
inductive CharClass where
  /-- `.` under `re.DOTALL` -/
  | any
  /-- `.` without `re.DOTALL` -/
  | notNewline
  /-- `\d` -/
  | digit
  /-- `\s` -/
  | space
  /-- `[\d,]` -/
  | digitOrComma
  deriving DecidableEq, Repr

/-- Membership in a character class. -/
def CharClass.test : CharClass → Char → Bool
  | .any, _ => true
  | .notNewline, c => c != '\n'
  | .digit, c => c.isDigit
  | .space, c => isPySpace c
  | .digitOrComma, c => c.isDigit || c == ','

/-- Patterns, as far as the analyzer's patterns need them. -/
inductive Regex where
  /-- Literal text. -/
  | lit (s : List Char)
  /-- `c+`, greedy. -/
  | plus (c : CharClass)
  /-- `c*?`, lazy. -/
  | lazyStar (c : CharClass)
  /-- A capturing group `( )`. -/
  | group (r : Regex)
  /-- Concatenation. -/
  | seq (r s : Regex)
  /-- `(?:r|s)`. -/
  | alt (r s : Regex)
  /-- `\Z`: the end of the text. -/
  | endOfString
  deriving Repr

/-- A concatenation of patterns. -/
def Regex.cat : List Regex → Regex
  | [] => .lit []
  | [r] => r
  | r :: rs => .seq r (Regex.cat rs)

/-! ## §1 Matching -/

section Matching

variable {α : Type}

/-- A greedy run of class `c`: consume as many characters as possible, then give them back
one at a time until the continuation `k` accepts what is left. -/
def greedyRun (c : CharClass) (k : List Char → Option α) : List Char → Option α
  | [] => k []
  | x :: s => if c.test x then (greedyRun c k s).orElse fun _ => k (x :: s) else k (x :: s)

/-- A lazy run of class `c`: offer the continuation `k` the text after as few characters
as possible, one more each time it refuses. -/
def lazyRun (c : CharClass) (k : List Char → Option α) : List Char → Option α
  | [] => k []
  | x :: s => (k (x :: s)).orElse fun _ => if c.test x then lazyRun c k s else none

/-- Match `r` at the start of `s`, with groups `g` captured so far, and continue with `k`
on the rest of the text and the groups; backtrack when `k` fails. -/
def Regex.matchK : Regex → List Char → List (List Char) →
    (List Char → List (List Char) → Option α) → Option α
  | .lit t, s, g, k => if t.isPrefixOf s then k (s.drop t.length) g else none
  | .plus c, s, g, k =>
    match s with
    | x :: s' => if c.test x then greedyRun c (k · g) s' else none
    | [] => none
  | .lazyStar c, s, g, k => lazyRun c (k · g) s
  | .group r, s, g, k => r.matchK s g fun s' g' => k s' (g' ++ [s.take (s.length - s'.length)])
  | .seq r t, s, g, k => r.matchK s g fun s' g' => t.matchK s' g' k
  | .alt r t, s, g, k => (r.matchK s g k).orElse fun _ => t.matchK s g k
  | .endOfString, s, g, k => if s.isEmpty then k s g else none

end Matching

/-- A match at the start of `s`: the text after it and the groups. -/
def Regex.matchPrefix (r : Regex) (s : List Char) : Option (List Char × List (List Char)) :=
  r.matchK s [] fun rest g => some (rest, g)

/-- `re.search`: the leftmost match, as the text skipped before it, the text after it and
the groups. -/
def Regex.search (r : Regex) : List Char → Option (List Char × List Char × List (List Char))
  | [] => (r.matchPrefix []).map fun (rest, g) => ([], rest, g)
  | x :: s =>
    match r.matchPrefix (x :: s) with
    | some (rest, g) => some ([], rest, g)
    | none => (r.search s).map fun (pre, rest, g) => (x :: pre, rest, g)

/-- At most `n` successive matches, each searched for after the previous one. -/
def Regex.findAllFuel (r : Regex) : ℕ → List Char → List (List (List Char))
  | 0, _ => []
  | n + 1, s =>
    match r.search s with
    | some (_, rest, g) => g :: r.findAllFuel n rest
    | none => []

/-- `re.finditer`: the groups of each successive non-overlapping match. A pattern that
never matches the empty string matches at most `s.length` times. -/
def Regex.finditer (r : Regex) (s : List Char) : List (List (List Char)) :=
  r.findAllFuel (s.length + 1) s

/-- `re.split(r, s, maxsplit=n)` for a pattern without groups: the pieces between the
first `n` matches, then the rest of the text. -/
def Regex.splitUpTo (r : Regex) : ℕ → List Char → List (List Char)
  | 0, s => [s]
  | n + 1, s =>
    match r.search s with
    | some (pre, rest, _) => pre :: r.splitUpTo n rest
    | none => [s]

/-- The `i`-th group of a match (numbered from 1, as `m.group(i)`). -/
def groupOf (g : List (List Char)) (i : ℕ) : List Char := g.getD (i - 1) []

end ShardX.Python
