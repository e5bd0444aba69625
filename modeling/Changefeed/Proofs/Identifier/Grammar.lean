import Mathlib.Computability.Language
import Mathlib.Data.List.TakeWhile
import Changefeed.Proofs.Identifier
import Changefeed.Text.Blank

/-!
# The grammar of names

The names of columns and tables under the strict policy, as languages over all characters: `plain`
are the identifiers and `qualified` those with at most one dot.  The checks take these names, and
each of them once more with a line feed behind it (`names_taken`).
-/

open scoped Computability

namespace Changefeed

namespace Identifier

/-! ### Languages of names -/

/-- The characters that an identifier starts with. -/
def startChars : List Char :=
  "ABCDEFGHIJKLMNOPQRSTUVWXYZabcdefghijklmnopqrstuvwxyz_".toList

/-- The characters that an identifier goes on with. -/
def partChars : List Char :=
  startChars ++ "0123456789$".toList

/-- The texts that are one character out of some. -/
def oneOf (cs : List Char) : Language Char :=
  {s | ∃ c ∈ cs, s = [c]}

/-- The plain identifiers. -/
def plain : Language Char :=
  oneOf startChars * (oneOf partChars)∗

/-- The plain identifiers, and any two of them with a dot between. -/
def qualified : Language Char :=
  plain + plain * oneOf ['.'] * plain

/-- A line feed. -/
def lineFeed : Language Char :=
  oneOf ['\n']

/-- A line feed or nothing. -/
def lineEnd : Language Char :=
  1 + lineFeed

theorem mem_oneOf {cs s : List Char} : s ∈ oneOf cs ↔ ∃ c ∈ cs, s = [c] := Iff.rfl

theorem mem_kstar_oneOf {cs s : List Char} : s ∈ (oneOf cs)∗ ↔ ∀ c ∈ s, c ∈ cs := by
  rw [Language.mem_kstar]
  constructor
  · rintro ⟨words, rfl, single⟩ c hc
    obtain ⟨word, hword, hc⟩ := List.mem_flatten.1 hc
    obtain ⟨d, hd, rfl⟩ := single word hword
    obtain rfl := List.mem_singleton.1 hc
    exact hd
  · intro all
    refine ⟨s.map fun c => [c], by rw [← List.flatMap_def, List.flatMap_singleton'], ?_⟩
    simp only [List.forall_mem_map]
    exact fun c hc => ⟨c, all c hc, rfl⟩

theorem mem_mul_of_mem {l m n : Language Char} (h : ∀ s ∈ l, s ∈ m) {s : List Char}
    (hs : s ∈ l * n) : s ∈ m * n := by
  obtain ⟨first, hfirst, second, hsecond, rfl⟩ := Language.mem_mul.1 hs
  exact Language.mem_mul.2 ⟨first, h first hfirst, second, hsecond, rfl⟩

theorem mem_plain {s : List Char} :
    s ∈ plain ↔ ∃ c rest, s = c :: rest ∧ c ∈ startChars ∧ ∀ d ∈ rest, d ∈ partChars := by
  rw [plain, Language.mem_mul]
  constructor
  · rintro ⟨_, ⟨c, hc, rfl⟩, rest, hrest, rfl⟩
    exact ⟨c, rest, rfl, hc, mem_kstar_oneOf.1 hrest⟩
  · rintro ⟨c, rest, rfl, hc, hrest⟩
    exact ⟨[c], ⟨c, hc, rfl⟩, rest, mem_kstar_oneOf.2 hrest, rfl⟩

theorem mem_qualified {s : List Char} : s ∈ qualified ↔
    s ∈ plain ∨ ∃ first ∈ plain, ∃ second ∈ plain, s = first ++ '.' :: second := by
  rw [qualified, Language.mem_add]
  refine or_congr_right ?_
  simp only [Language.mem_mul, mem_oneOf, List.mem_singleton]
  constructor
  · rintro ⟨_, ⟨first, hfirst, _, ⟨_, rfl, rfl⟩, rfl⟩, second, hsecond, rfl⟩
    exact ⟨first, hfirst, second, hsecond, by simp⟩
  · rintro ⟨first, hfirst, second, hsecond, rfl⟩
    exact ⟨_, ⟨first, hfirst, ['.'], ⟨'.', rfl, rfl⟩, rfl⟩, second, hsecond, by simp⟩

theorem mem_mul_lineFeed {l : Language Char} {s : List Char} :
    s ∈ l * lineFeed ↔ ∃ name ∈ l, s = name ++ ['\n'] := by
  simp only [lineFeed, Language.mem_mul, mem_oneOf, List.mem_singleton, exists_eq_left,
    eq_comm (a := s)]

theorem mem_mul_lineEnd {l : Language Char} {s : List Char} :
    s ∈ l * lineEnd ↔ s ∈ l ∨ s ∈ l * lineFeed := by
  rw [lineEnd, mul_add, mul_one, Language.mem_add]

/-! ### Characters of names -/

/-- Characters that have a meaning in statements or delimit their words: quotes, commas,
parentheses and semicolons. -/
def marks : List Char :=
  ['\'', '"', '\x60', ',', '(', ')', ';']

/-- The texts without white space and marks and with at most one dot. -/
def clean : Language Char :=
  {s | (∀ c ∈ s, Text.isBlank c = false ∧ c ∉ marks) ∧ s.count '.' ≤ 1}

theorem partChars_clean : ∀ c ∈ partChars, Text.isBlank c = false ∧ c ∉ marks := by
  have each : partChars.all fun c => Text.isBlank c = false ∧ c ∉ marks := by
    decide +kernel
  exact fun c hc => of_decide_eq_true (List.all_eq_true.1 each c hc)

theorem partChars_of_startChars {c : Char} (h : c ∈ startChars) : c ∈ partChars :=
  List.mem_append_left _ h

theorem dot_not_mem_partChars : '.' ∉ partChars := by
  decide +kernel

theorem newline_not_mem_partChars : '\n' ∉ partChars := by
  decide +kernel

theorem mem_partChars_of_plain {s : List Char} (h : s ∈ plain) : ∀ c ∈ s, c ∈ partChars := by
  obtain ⟨c, rest, rfl, hc, hrest⟩ := mem_plain.1 h
  exact List.forall_mem_cons.2 ⟨partChars_of_startChars hc, hrest⟩

theorem dot_not_mem_of_plain {s : List Char} (h : s ∈ plain) : '.' ∉ s :=
  fun hc => dot_not_mem_partChars (mem_partChars_of_plain h _ hc)

theorem mem_partChars_of_qualified {s : List Char} (h : s ∈ qualified) :
    ∀ c ∈ s, c ∈ partChars ∨ c = '.' := by
  rcases mem_qualified.1 h with h | ⟨first, hfirst, second, hsecond, rfl⟩
  · exact fun c hc => .inl (mem_partChars_of_plain h c hc)
  · intro c hc
    rcases List.mem_append.1 hc with hc | hc
    · exact .inl (mem_partChars_of_plain hfirst c hc)
    rcases List.mem_cons.1 hc with rfl | hc
    · exact .inr rfl
    · exact .inl (mem_partChars_of_plain hsecond c hc)

theorem newline_not_mem_of_qualified {s : List Char} (h : s ∈ qualified) : '\n' ∉ s := by
  intro hc
  rcases mem_partChars_of_qualified h _ hc with part | dot
  · exact newline_not_mem_partChars part
  · exact absurd dot (by decide)

theorem not_mem_of_mul_lineFeed {s : List Char} (h : s ∈ qualified * lineFeed) :
    s ∉ qualified := by
  obtain ⟨name, -, rfl⟩ := mem_mul_lineFeed.1 h
  exact fun hs => newline_not_mem_of_qualified hs (by simp)

theorem mem_qualified_of_plain {s : List Char} (h : s ∈ plain) : s ∈ qualified :=
  mem_qualified.2 (.inl h)

theorem mem_clean_of_qualified {s : List Char} (h : s ∈ qualified) : s ∈ clean := by
  refine ⟨fun c hc => ?_, ?_⟩
  · rcases mem_partChars_of_qualified h c hc with part | rfl
    · exact partChars_clean c part
    · decide
  · rcases mem_qualified.1 h with h | ⟨first, hfirst, second, hsecond, rfl⟩
    · rw [List.count_eq_zero.2 (dot_not_mem_of_plain h)]
      exact Nat.zero_le 1
    · rw [List.count_append, List.count_cons_self,
        List.count_eq_zero.2 (dot_not_mem_of_plain hfirst),
        List.count_eq_zero.2 (dot_not_mem_of_plain hsecond)]

/-! ### The checks and the grammar -/

/-- A class of ASCII characters is a list of them if it holds the same ASCII characters. -/
theorem class_iff {p : Char → Bool} {cs : List Char} (ascii : ∀ c, p c → c.toNat < 128)
    (listed : cs.all (·.toNat < 128))
    (same : ∀ n < 128, p (Char.ofNat n) = decide (Char.ofNat n ∈ cs)) (c : Char) :
    p c ↔ c ∈ cs := by
  by_cases hc : c.toNat < 128
  · have here := same c.toNat hc
    rw [Char.ofNat_toNat] at here
    rw [here, decide_eq_true_eq]
  · have unlisted : c ∉ cs := fun h => hc (of_decide_eq_true (List.all_eq_true.1 listed c h))
    exact ⟨fun h => absurd (ascii c h) hc, fun h => absurd h unlisted⟩

theorem toNat_lt_of_le {c d : Char} (h : c ≤ d) (ascii : d.toNat < 128) : c.toNat < 128 :=
  lt_of_le_of_lt (UInt32.le_iff_toNat_le.1 h) ascii

theorem ascii_of_isStart {c : Char} (h : isStart c) : c.toNat < 128 := by
  simp only [isStart, Bool.or_eq_true, Bool.and_eq_true, decide_eq_true_eq] at h
  rcases h with (⟨-, h⟩ | ⟨-, h⟩) | rfl
  · exact toNat_lt_of_le h (by decide)
  · exact toNat_lt_of_le h (by decide)
  · decide

theorem ascii_of_isPart {c : Char} (h : isPart c) : c.toNat < 128 := by
  simp only [isPart, Bool.or_eq_true, Bool.and_eq_true, decide_eq_true_eq] at h
  rcases h with (h | ⟨-, h⟩) | rfl
  · exact ascii_of_isStart h
  · exact toNat_lt_of_le h (by decide)
  · decide

theorem isStart_iff {c : Char} : isStart c ↔ c ∈ startChars :=
  class_iff (fun _ => ascii_of_isStart) (by decide +kernel) (by decide +kernel) c

theorem isPart_iff {c : Char} : isPart c ↔ c ∈ partChars :=
  class_iff (fun _ => ascii_of_isPart) (by decide +kernel) (by decide +kernel) c

theorem isPlain_iff {s : List Char} : isPlain s ↔ s ∈ plain := by
  rw [mem_plain]
  cases s with
  | nil => simp [isPlain]
  | cons c rest =>
    simp only [isPlain, Bool.and_eq_true, List.all_eq_true, isStart_iff, isPart_iff,
      List.cons.injEq]
    constructor
    · rintro ⟨hc, hrest⟩
      exact ⟨c, rest, ⟨rfl, rfl⟩, hc, hrest⟩
    · rintro ⟨_, _, ⟨rfl, rfl⟩, hc, hrest⟩
      exact ⟨hc, hrest⟩

/-- The first dot is where a text is split. -/
theorem isQualified_append {first second : List Char} (h : '.' ∉ first) :
    isQualified (first ++ '.' :: second) = (isPlain first && isPlain second) := by
  have before : ∀ c ∈ first, (c != '.') = true := by
    intro c hc
    simpa using ne_of_mem_of_not_mem hc h
  simp only [isQualified, List.takeWhile_append_of_pos before, List.dropWhile_append_of_pos before]
  simp

theorem isQualified_of_dot_not_mem {s : List Char} (h : '.' ∉ s) :
    isQualified s = isPlain s := by
  have all : ∀ c ∈ s, (c != '.') = true := by
    intro c hc
    simpa using ne_of_mem_of_not_mem hc h
  simp only [isQualified, List.takeWhile_eq_self_iff.2 all, List.dropWhile_eq_nil_iff.2 all]

theorem isQualified_iff {s : List Char} : isQualified s ↔ s ∈ qualified := by
  rw [mem_qualified]
  constructor
  · intro h
    by_cases dotted : '.' ∈ s
    · obtain ⟨first, second, rfl, undotted⟩ := List.eq_append_cons_of_mem dotted
      rw [isQualified_append undotted, Bool.and_eq_true, isPlain_iff, isPlain_iff] at h
      exact .inr ⟨first, h.1, second, h.2, rfl⟩
    · rw [isQualified_of_dot_not_mem dotted, isPlain_iff] at h
      exact .inl h
  · rintro (h | ⟨first, hfirst, second, hsecond, rfl⟩)
    · rwa [isQualified_of_dot_not_mem (dot_not_mem_of_plain h), isPlain_iff]
    · rw [isQualified_append (dot_not_mem_of_plain hfirst), Bool.and_eq_true, isPlain_iff,
        isPlain_iff]
      exact ⟨hfirst, hsecond⟩

/-- A text without a final line feed that it may have is in a language just if the text is there
itself or is a text of the language with a line feed behind it. -/
theorem dropFinalNewline_mem_iff {l : Language Char} (h : ∀ name ∈ l, '\n' ∉ name)
    {s : List Char} : dropFinalNewline s ∈ l ↔ s ∈ l * lineEnd := by
  rw [mem_mul_lineEnd, mem_mul_lineFeed]
  unfold dropFinalNewline
  split_ifs with last
  · obtain ⟨front, rfl⟩ := List.getLast?_eq_some_iff.1 last
    rw [List.dropLast_concat]
    constructor
    · exact fun hs => .inr ⟨front, hs, rfl⟩
    · rintro (hs | ⟨name, hname, same⟩)
      · exact absurd (by simp) (h _ hs)
      · rwa [List.append_left_injective _ same]
  · constructor
    · exact .inl
    · rintro (hs | ⟨name, -, rfl⟩)
      · exact hs
      · simp at last

theorem isColumnName_iff {s : String} : isColumnName s ↔ s.toList ∈ plain * lineEnd := by
  rw [isColumnName, isPlain_iff, dropFinalNewline_mem_iff]
  exact fun name h => newline_not_mem_of_qualified (mem_qualified_of_plain h)

theorem isTableName_iff {s : String} : isTableName s ↔ s.toList ∈ qualified * lineEnd := by
  rw [isTableName, isQualified_iff, dropFinalNewline_mem_iff]
  exact fun name => newline_not_mem_of_qualified

end Identifier

open Identifier

/-- The first column whose name is not of the grammar, up to a final line feed, is the one that is
reported. -/
theorem checkColumnNames_eq_error_iff {columns : List Column} {reason : Reason} :
    checkColumnNames columns = .error reason ↔ ∃ before c after, columns = before ++ c :: after ∧
      (∀ b ∈ before, b.name.toList ∈ plain * lineEnd) ∧ c.name.toList ∉ plain * lineEnd ∧
      reason = .invalidColumnName c.name := by
  simp only [← isColumnName_iff]
  unfold checkColumnNames
  constructor
  · intro h
    split at h
    next c first =>
      obtain ⟨bad, before, after, rfl, good⟩ := List.find?_eq_some_iff_append.1 first
      exact ⟨before, c, after, rfl, by simpa using good, by simpa using bad,
        (Except.error.inj h).symm⟩
    next => cases h
  · rintro ⟨before, c, after, rfl, good, bad, rfl⟩
    have first : (before ++ c :: after).find? (fun c => !isColumnName c.name) = some c :=
      List.find?_eq_some_iff_append.2
        ⟨by simpa using bad, before, after, rfl, by simpa using good⟩
    rw [first]

/-- The strict checks take the names of the grammar and, once more, each of them with a line feed
behind it; all else is refused, and the first column that is refused is named.  So they keep to the
grammar just where no such name with a line feed decides, and apart from that line feed no name that
is taken holds white space, a mark or a second dot. -/
theorem names_taken (s : String) (columns : List Column) :
    (checkTableName (.text s) = .ok () ↔ s.toList ∈ qualified * lineEnd) ∧
    (s.toList ∉ qualified * lineEnd → checkTableName (.text s) =
      .error (.event ⟨.invalidTableName (.text s), { table := .text s }⟩)) ∧
    (checkColumnNames columns = .ok () ↔ ∀ c ∈ columns, c.name.toList ∈ plain * lineEnd) ∧
    (∀ reason, checkColumnNames columns = .error reason ↔ ∃ before c after,
      columns = before ++ c :: after ∧ (∀ b ∈ before, b.name.toList ∈ plain * lineEnd) ∧
        c.name.toList ∉ plain * lineEnd ∧ reason = .invalidColumnName c.name) ∧
    ((checkTableName (.text s) = .ok () ↔ s.toList ∈ qualified) ↔
      s.toList ∉ qualified * lineFeed) ∧
    ((checkColumnNames columns = .ok () ↔ ∀ c ∈ columns, c.name.toList ∈ plain) ↔
      ¬ ((∀ c ∈ columns, c.name.toList ∈ plain * lineEnd) ∧
        ∃ c ∈ columns, c.name.toList ∈ plain * lineFeed)) ∧
    (checkTableName (.text s) = .ok () → s.toList ∈ clean * lineEnd) ∧
    (checkColumnNames columns = .ok () → ∀ c ∈ columns, c.name.toList ∈ clean * lineEnd) := by
  have table := (checkTableName_eq_ok_iff s).trans isTableName_iff
  have names : checkColumnNames columns = .ok () ↔
      ∀ c ∈ columns, c.name.toList ∈ plain * lineEnd := by
    rw [checkColumnNames_eq_ok_iff]
    simp only [isColumnName_iff]
  refine ⟨table, fun refused => ?_, names, fun reason => checkColumnNames_eq_error_iff, ?_, ?_,
    fun taken => ?_, fun taken c hc => ?_⟩
  · rw [checkTableName, if_neg (mt isTableName_iff.1 refused)]
  · rw [table, mem_mul_lineEnd]
    refine ⟨fun same feed => ?_, fun unfed => ⟨fun taken => ?_, .inl⟩⟩
    · exact not_mem_of_mul_lineFeed feed (same.1 (.inr feed))
    · exact taken.resolve_right unfed
  · rw [names]
    constructor
    · rintro same ⟨all, c, hc, feed⟩
      exact not_mem_of_mul_lineFeed (mem_mul_of_mem (fun _ => mem_qualified_of_plain) feed)
        (mem_qualified_of_plain (same.1 all c hc))
    · refine fun unfed => ⟨fun all c hc => ?_, fun all c hc => mem_mul_lineEnd.2 (.inl (all c hc))⟩
      exact (mem_mul_lineEnd.1 (all c hc)).resolve_right fun feed => unfed ⟨all, c, hc, feed⟩
  · exact mem_mul_of_mem (fun _ => mem_clean_of_qualified) (table.1 taken)
  · exact mem_mul_of_mem (fun _ h => mem_clean_of_qualified (mem_qualified_of_plain h))
      (names.1 taken c hc)

/-- A table with a schema in front is taken; the second column is the first one refused. -/
theorem names_taken_orders :
    let table := "replica.ORDERS$HIST"
    let columns : List Column :=
      [{ name := "id", type := "int32" }, { name := "total amount", type := "int32" },
        { name := "1st", type := "int32" }]
    checkTableName (.text table) = .ok () ∧ table.toList ∈ qualified ∧
      table.toList ∈ clean * lineEnd ∧
      checkColumnNames columns = .error (.invalidColumnName "total amount") := by
  intro table columns
  obtain ⟨-, -, -, refused, exact, -, clean, -⟩ := names_taken table columns
  have taken : checkTableName (.text table) = .ok () :=
    (checkTableName_eq_ok_iff table).2 (by decide)
  have plainly : table.toList ∉ qualified * lineFeed := by
    rintro h
    obtain ⟨name, -, same⟩ := mem_mul_lineFeed.1 h
    have last := congrArg List.getLast? same
    rw [List.getLast?_concat] at last
    exact absurd last (by decide)
  have split : columns = [{ name := "id", type := "int32" }] ++
      { name := "total amount", type := "int32" } :: [{ name := "1st", type := "int32" }] := rfl
  refine ⟨taken, (exact.2 plainly).1 taken, clean taken,
    (refused _).2 ⟨_, _, _, split, ?_, ?_, rfl⟩⟩
  · simp only [List.mem_singleton, forall_eq]
    exact isColumnName_iff.1 (by decide)
  · exact mt isColumnName_iff.2 (by decide)

/-- A name with a line feed behind it is taken, and the grammar has no such name. -/
theorem names_taken_lineFeed :
    let table := "orders\n"
    checkTableName (.text table) = .ok () ∧ table.toList ∉ qualified ∧ '\n' ∈ table.toList ∧
      ¬ (checkTableName (.text table) = .ok () ↔ table.toList ∈ qualified) := by
  intro table
  have taken : checkTableName (.text table) = .ok () :=
    (checkTableName_eq_ok_iff table).2 (by decide)
  have outside : table.toList ∉ qualified := fun h =>
    newline_not_mem_of_qualified h (by decide)
  exact ⟨taken, outside, by decide, fun same => outside (same.1 taken)⟩

end Changefeed
