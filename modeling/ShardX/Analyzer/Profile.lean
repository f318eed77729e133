import ShardX.Analyzer.Model
import ShardX.Python.Re

/-!
# Profile Parsers

`parse_cpu_profile` reads the overhead table of a `perf report` text and
`parse_memory_profile` the heap summary and the definitely-lost records of a valgrind
text, both by regular expressions. Each pattern below is the source's, written as a
`Regex`; the parsers call `search`, `finditer` and `split` on them as the source does.

A profile file is given by its text, `none` when it is missing or unreadable; an exception
inside the parser's outer `try` (here only `int()` of the heap summary's counts, on an empty
group or on more digits than the interpreter's limit) also makes it return `None`. Each
parser first collects the texts its patterns find (`cpuLineFields`, `heapUsageTexts`,
`lossRecordFields`) and then converts them with the interpreter's `float()` and `int()`.

Two slips of the patterns show on concrete texts:
- `parseMemoryProfile_drops_loss_records`: the outer pattern consumes the first record's
  header line, and the record pattern's terminator consumes the next record's header, so
  of three definitely-lost records only the second is reported;
- `parseCpuProfile_splits_symbol`: `re.split(r'\s+', line, maxsplit=5)` makes six parts of
  a line whose symbol has a space, and `parts[-1]` keeps only the symbol's tail.
-/

namespace ShardX.Analyzer

open ShardX.Python

/-! ## §1 The patterns -/

/-- `r'# Overhead.*?\n(.*?)(?:\n\n|\Z)'` under `re.DOTALL`. -/
def overheadSectionRe : Regex :=
  .cat [.lit "# Overhead".toList, .lazyStar .any, .lit ['\n'], .group (.lazyStar .any),
    .alt (.lit ['\n', '\n']) .endOfString]

/-- `r'\s+'`. -/
def whitespaceRe : Regex := .plus .space

/-- `==\d+==`, the prefix of every valgrind line. -/
def pidTagRe : Regex := .cat [.lit "==".toList, .plus .digit, .lit "==".toList]

/-- `(?:==\d+==\n\n|\Z)`, the end of a valgrind section. -/
def sectionEndRe : Regex := .alt (.seq pidTagRe (.lit ['\n', '\n'])) .endOfString

/-- `r'==\d+== Heap Summary:.*?\n(.*?)(?:==\d+==\n\n|\Z)'` under `re.DOTALL`. -/
def heapSummaryRe : Regex :=
  .cat [pidTagRe, .lit " Heap Summary:".toList, .lazyStar .any, .lit ['\n'],
    .group (.lazyStar .any), sectionEndRe]

/-- `r'==\d+==\s+total heap usage:\s+([\d,]+)\s+allocs,\s+([\d,]+)\s+frees,\s+([\d,]+)\s+bytes allocated'`. -/
def totalHeapUsageRe : Regex :=
  .cat [pidTagRe, .plus .space, .lit "total heap usage:".toList, .plus .space,
    .group (.plus .digitOrComma), .plus .space, .lit "allocs,".toList, .plus .space,
    .group (.plus .digitOrComma), .plus .space, .lit "frees,".toList, .plus .space,
    .group (.plus .digitOrComma), .plus .space, .lit "bytes allocated".toList]

/-- `r'==\d+== \d+ bytes in \d+ blocks are definitely lost.*?\n(.*?)(?:==\d+==\n\n|\Z)'`
under `re.DOTALL`. -/
def definitelyLostRe : Regex :=
  .cat [pidTagRe, .lit [' '], .plus .digit, .lit " bytes in ".toList, .plus .digit,
    .lit " blocks are definitely lost".toList, .lazyStar .any, .lit ['\n'],
    .group (.lazyStar .any), sectionEndRe]

/-- `==\d+==\s+[\d,]+\s+bytes`, a loss record's header up to `bytes`. -/
def lossHeaderRe : Regex :=
  .cat [pidTagRe, .plus .space, .plus .digitOrComma, .plus .space, .lit "bytes".toList]

/-- `r'==\d+==\s+([\d,]+)\s+bytes.*?\n(.*?)(?:==\d+==\n\n|==\d+==\s+[\d,]+\s+bytes|\Z)'`
under `re.DOTALL`. -/
def lossRecordRe : Regex :=
  .cat [pidTagRe, .plus .space, .group (.plus .digitOrComma), .plus .space,
    .lit "bytes".toList, .lazyStar .any, .lit ['\n'], .group (.lazyStar .any),
    .alt (.seq pidTagRe (.lit ['\n', '\n'])) (.alt lossHeaderRe .endOfString)]

/-- `r'==\d+==\s+by\s+\d+:\s+(.*?)(?:\(|\n)'` (no `re.DOTALL`). -/
def callerFrameRe : Regex :=
  .cat [pidTagRe, .plus .space, .lit "by".toList, .plus .space, .plus .digit, .lit [':'],
    .plus .space, .group (.lazyStar .notNewline), .alt (.lit ['(']) (.lit ['\n'])]

/-! ## §2 `parse_cpu_profile` -/

/-- One line of the overhead table before `float()`: skipped (`none`) when blank, a comment
or shorter than five fields; otherwise `parts[0].strip('%')` and `parts[-1]`. -/
def cpuLineFields (line : List Char) : Option (List Char × String) :=
  if pyStrip line = [] ∨ line.head? = some '#' then none
  else
    let parts := whitespaceRe.splitUpTo 5 (pyStrip line)
    if parts.length ≥ 5 then some (stripChars ['%'] (parts.headD []), String.mk (parts.getLastD []))
    else none

/-- One line of the overhead table: also skipped when `float()` refuses the overhead. -/
def parseCpuLine (py : CPython) (line : List Char) : Option CpuHotspot := do
  let (overhead, function) ← cpuLineFields line
  return { overhead := ← pyFloat py overhead, function }

/-- The lines of the overhead table: `overhead_section.group(1).strip().split('\n')`, none
when the section is not found. -/
def overheadTableLines (content : List Char) : List (List Char) :=
  match overheadSectionRe.search content with
  | some (_, _, g) => pySplit '\n' (pyStrip (groupOf g 1))
  | none => []

/-- The body of `parse_cpu_profile`'s `try`, on the file's text. -/
def parseCpuText (py : CPython) (content : List Char) : CpuProfile :=
  ⟨(overheadTableLines content).filterMap (parseCpuLine py)⟩

/-- `parse_cpu_profile`. -/
def parseCpuProfile (py : CPython) (file : Option String) : Option CpuProfile :=
  file.map fun content => parseCpuText py content.toList

/-- A `perf report` entry whose symbol `<T as Trait>::f` holds spaces: the function kept is
`as Trait>::f`, the symbol without its first word. -/
theorem parseCpuProfile_splits_symbol (py : CPython) :
    parseCpuProfile py (some ("# Overhead  Command  Shared Object  Symbol\n" ++
      "    10.00%  prog  prog  [.] <T as Trait>::f\n")) =
      some ⟨[⟨.ofInt 10, "as Trait>::f"⟩]⟩ := by
  have hl : overheadTableLines ("# Overhead  Command  Shared Object  Symbol\n" ++
      "    10.00%  prog  prog  [.] <T as Trait>::f\n").toList =
      ["10.00%  prog  prog  [.] <T as Trait>::f".toList] := by decide
  have hf : cpuLineFields "10.00%  prog  prog  [.] <T as Trait>::f".toList =
      some ("10.00".toList, "as Trait>::f") := by decide
  simp only [parseCpuProfile, Option.map_some', parseCpuText, hl, List.filterMap_cons,
    List.filterMap_nil, parseCpuLine, hf, option_some_bind, pyFloat_of_ascii py (s := "10.00".toList) (by decide),
    show parseFloatText "10.00".toList = some (.ofInt 10) by decide]

/-! ## §3 `parse_memory_profile` -/

/-- The three digit groups of the `total heap usage` line, commas removed, when the heap
summary section and that line are found. -/
def heapUsageTexts (content : List Char) : Option (List Char × List Char × List Char) :=
  match heapSummaryRe.search content with
  | none => none
  | some (_, _, g) =>
    match totalHeapUsageRe.search (groupOf g 1) with
    | none => none
    | some (_, _, t) =>
      some (removeChar ',' (groupOf t 1), removeChar ',' (groupOf t 2), removeChar ',' (groupOf t 3))

/-- `heap_summary`: `some none` for `{}`, and `none` when `int()` raises, which makes the
whole parser return `None`. -/
def parseHeapSummary (py : CPython) (content : List Char) : Option (Option HeapSummary) :=
  match heapUsageTexts content with
  | none => some none
  | some (allocs, frees, bytes) => do
    let totalAllocs ← pyInt py allocs
    let totalFrees ← pyInt py frees
    let totalBytes ← pyInt py bytes
    return some { totalAllocs, totalFrees, totalBytes }

/-- The matches of `lossRecordRe` in the definitely-lost section, none without one. -/
def lossRecordMatches (content : List Char) : List (List (List Char)) :=
  match definitelyLostRe.search content with
  | some (_, _, g) => lossRecordRe.finditer (groupOf g 1)
  | none => []

/-- One loss record before `int()`: its byte count with the commas removed, and the function
of its first caller frame, `Unknown` without one. -/
def lossRecordFields (g : List (List Char)) : List Char × String :=
  (removeChar ',' (groupOf g 1),
    match callerFrameRe.search (pyStrip (groupOf g 2)) with
    | some (_, _, f) => String.mk (pyStrip (groupOf f 1))
    | none => "Unknown")

/-- One loss record: skipped (`none`) when `int()` raises. -/
def parseLossRecord (py : CPython) (fields : List Char × String) : Option MemoryHotspot := do
  let bytesLost ← pyInt py fields.1
  return { bytesLost, function := fields.2 }

/-- The body of `parse_memory_profile`'s `try`, on the file's text. The regular expressions
run first and `int()` after; the source interleaves them, to the same result, as only
`int()` can raise. -/
def parseMemoryText (py : CPython) (content : List Char) : Option MemoryProfile := do
  let heapSummary ← parseHeapSummary py content
  return { heapSummary,
           memoryHotspots := ((lossRecordMatches content).map lossRecordFields).filterMap
             (parseLossRecord py) }

/-- `parse_memory_profile`. -/
def parseMemoryProfile (py : CPython) (file : Option String) : Option MemoryProfile :=
  file.bind fun content => parseMemoryText py content.toList

/-- Three definitely-lost records of 100, 200 and 300 bytes: only the second is reported.
The first header is consumed by `definitelyLostRe` and the third by the terminator of the
second record's match. -/
theorem parseMemoryProfile_drops_loss_records (py : CPython) :
    parseMemoryProfile py (some
      ("==1== 100 bytes in 1 blocks are definitely lost in loss record 1 of 3\n" ++
       "==1==    at 0x1: malloc (m.c:1)\n==1==    by 0x2: f (a.c:1)\n" ++
       "==1== 200 bytes in 1 blocks are definitely lost in loss record 2 of 3\n" ++
       "==1==    at 0x1: malloc (m.c:1)\n==1==    by 0x3: g (a.c:2)\n" ++
       "==1== 300 bytes in 1 blocks are definitely lost in loss record 3 of 3\n" ++
       "==1==    at 0x1: malloc (m.c:1)\n==1==    by 0x4: h (a.c:3)\n")) =
      some ⟨none, [⟨200, "Unknown"⟩]⟩ := by
  have hh : heapUsageTexts ("==1== 100 bytes in 1 blocks are definitely lost in loss record 1 of 3\n" ++
       "==1==    at 0x1: malloc (m.c:1)\n==1==    by 0x2: f (a.c:1)\n" ++
       "==1== 200 bytes in 1 blocks are definitely lost in loss record 2 of 3\n" ++
       "==1==    at 0x1: malloc (m.c:1)\n==1==    by 0x3: g (a.c:2)\n" ++
       "==1== 300 bytes in 1 blocks are definitely lost in loss record 3 of 3\n" ++
       "==1==    at 0x1: malloc (m.c:1)\n==1==    by 0x4: h (a.c:3)\n").toList = none := by
    set_option maxRecDepth 20000 in decide
  have hm : (lossRecordMatches ("==1== 100 bytes in 1 blocks are definitely lost in loss record 1 of 3\n" ++
       "==1==    at 0x1: malloc (m.c:1)\n==1==    by 0x2: f (a.c:1)\n" ++
       "==1== 200 bytes in 1 blocks are definitely lost in loss record 2 of 3\n" ++
       "==1==    at 0x1: malloc (m.c:1)\n==1==    by 0x3: g (a.c:2)\n" ++
       "==1== 300 bytes in 1 blocks are definitely lost in loss record 3 of 3\n" ++
       "==1==    at 0x1: malloc (m.c:1)\n==1==    by 0x4: h (a.c:3)\n").toList).map lossRecordFields =
      [("200".toList, "Unknown")] := by
    set_option maxRecDepth 20000 in decide
  simp only [parseMemoryProfile, Option.some_bind, parseMemoryText, parseHeapSummary, hh, hm,
    List.filterMap_cons, List.filterMap_nil, parseLossRecord, option_some_bind,
    pyInt_of_length_le py (s := "200".toList) (by decide),
    show ("200".toList ≠ [] ∧ "200".toList.all Char.isDigit) by decide, if_true]
  rfl

end ShardX.Analyzer
