import Changefeed.Proofs.Statement.Lexeme
import Changefeed.Proofs.Translator.Frame
import Changefeed.Proofs.Translator.Meaning

/-!
# Parameters as the server reads them

The statements of a strict translator reach the server with their placeholders numbered.  The server
reads there the parameters that are meant and no others, whatever dollar signs and digits the names
hold (`statements_numbered`).
-/

namespace Changefeed

variable {table : String} {source : ParserSource}

/-- Under the strict policy a statement is that of a well-formed reading. -/
theorem Translator.Knows.exists_wellFormed {t : Translator} {known : Option TableSchema}
    (h : t.Knows table .strict source known)
    (named : IdentifierPolicy.strict.checkTable (.text table) = .ok table)
    (seen : ∀ s, known = some s → ∃ key value, IdentifierPolicy.strict.discover key value = .ok s)
    {shared : ParserTable} {key : EventKey} {value : EventValue} {st : BoundStatement}
    (produced : (t.translate shared key value).1 = .ok (some st)) :
    ∃ r : Reading Value, r.WellFormed ∧ st = r.statement := by
  obtain ⟨s, k, v, r, found, -, -, means, same⟩ :=
    (h.translate_eq_some_iff named seen shared key value).1 produced
  obtain ⟨_, _, discovered⟩ := exists_discover_of_or_described seen found
  obtain ⟨filled, valid⟩ := IdentifierPolicy.discover_ok discovered
  obtain ⟨columns, keyColumns⟩ := (IdentifierPolicy.checkColumns_strict_eq_ok_iff s).1 valid
  have isTableName := (IdentifierPolicy.checkTable_strict_eq_ok named).2
  refine ⟨r, means.wellFormed filled isTableName fun c hc => ?_, same⟩
  exact (List.mem_append.1 hc).elim (columns c) (keyColumns c)

/-- Read in lexemes, a statement with its placeholders numbered has the parameters from 1 to the
number of its values, in order, one in the place of each placeholder; all else is as before. -/
theorem statements_numbered {σ : Type} (ex : Executor σ) (table : String) (source : ParserSource)
    (t : Translator) (fresh : Translator.create (.text table) .strict source = .ok t) (m : Metrics)
    (x : σ) (calls : List Call) (shared : ParserTable) (key : EventKey) (value : EventValue)
    (st : BoundStatement) :
    let w := (Workplace.mk t m x).after ex calls
    let query := lexemes (numbered st.sql).toList
    (w.translator.translate shared key value).1 = .ok (some st) ∨
        (w.process ex shared key value).1 = .ok (some st) →
      query.filterMap Lexeme.digits? =
          (List.range' 1 st.parameters.length).map (Nat.toDigits 10) ∧
        query.map Lexeme.unnumbered = lexemes st.sql.toList ∧ Lexeme.mark ∉ query := by
  intro w query produced
  have produced : (w.translator.translate shared key value).1 = .ok (some st) :=
    produced.elim id Workplace.translate_of_process
  have count := ((Translator.translate_eq_ok produced).2 st rfl).2
  obtain ⟨r, wellFormed, rfl⟩ := (Workplace.knows_of_create ex fresh m x calls).exists_wellFormed
    (Translator.create_eq_ok fresh).1 (fun s hs => exists_discover hs) produced
  exact Reading.lexemes_numbered wellFormed count

namespace Orders

/-- A translator of a table whose name looks like a parameter. -/
def dollars : Translator where
  table := "t$1"
  policy := .strict
  parsers := .standard Iso.reader

/-- A row, the names of whose columns hold dollar signs and digits. -/
def dollarRow : Members :=
  [("a$1", .int 1), ("_$", .int 2), ("B2", .int 3)]

/-- A change of the first column. -/
def dollarUpdate : ValueEnvelope :=
  event (dollarRow.map fun (name, _) => (name, none)) "u" (some dollarRow)
    (some (dollarRow.insert "a$1" (.int 4)))

end Orders

/-- Six parameters in a statement with names that look like parameters. -/
theorem statements_numbered_dollars :
    let st : BoundStatement := ⟨"t$1", .update,
      "UPDATE t$1 SET a$1 = ?, _$ = ?, B2 = ? WHERE a$1 = ? AND _$ = ? AND B2 = ?",
      [.int 4, .int 2, .int 3, .int 1, .int 2, .int 3]⟩
    let query := lexemes (numbered st.sql).toList
    Translator.create (.text "t$1") .strict (.standard Iso.reader) = .ok Orders.dollars ∧
      (Orders.dollars.translate .empty (.raw .null) (.parsed Orders.dollarUpdate)).1 =
        .ok (some st) ∧
      query.filterMap Lexeme.digits? = ["1", "2", "3", "4", "5", "6"].map String.toList ∧
      query.map Lexeme.unnumbered = lexemes st.sql.toList := by
  intro st query
  have fresh : Translator.create (.text "t$1") .strict (.standard Iso.reader) =
      .ok Orders.dollars := rfl
  have produced : (Orders.dollars.translate .empty (.raw .null) (.parsed Orders.dollarUpdate)).1 =
      .ok (some st) := rfl
  obtain ⟨numbers, same, -⟩ := statements_numbered DryRun.executor "t$1" (.standard Iso.reader)
    Orders.dollars fresh {} {} [] .empty (.raw .null) (.parsed Orders.dollarUpdate) st
    (.inl produced)
  exact ⟨fresh, produced, numbers.trans (by decide), same⟩

end Changefeed
