import Changefeed.Proofs.Translator.Session

/-!
# Translations do not depend on history

Whatever was called before, the outcome of a translation is decided by the event at hand and by the
columns that the calls up to it discovered: a translator in the middle of a session is compared with
`Translator.outcomeFor`, which keeps nothing and builds every text anew.
-/

namespace Changefeed

variable {σ : Type}

/-- In every session on a fresh translator the columns are those that the first event described,
they never change afterwards, and the texts kept are those that they give; each translation has the
outcome of one without a memory that is told these columns. -/
theorem translate_eq_outcomeFor (ex : Executor σ) (table : String) (policy : IdentifierPolicy)
    (parsers : ParserSource) (t : Translator)
    (fresh : Translator.create (.text table) policy parsers = .ok t) (m : Metrics) (x : σ)
    (calls : List Call) :
    let w := (Workplace.mk t m x).after ex calls
    w.translator.schema = discovered policy calls ∧
    (w.translator.state = .ready ↔ w.translator.schema.isSome) ∧
    (∀ s, w.translator.schema = some s → ∀ later,
      discovered policy (calls ++ later) = some s ∧
        (w.after ex later).translator.schema = some s) ∧
    (∀ kind text, w.translator.templates kind = some text →
      ∃ s, w.translator.schema = some s ∧ text = template kind table s) ∧
    ∀ shared key value, (w.translator.translate shared key value).1 =
      Translator.outcomeFor table policy (parsers.table shared)
        (discovered policy (calls ++ [.translate shared key value])) key value := by
  intro w
  have knows : w.translator.Knows table policy parsers (discovered policy calls) :=
    Workplace.knows_of_create ex fresh m x calls
  refine ⟨knows.schema_eq, ?_, fun s hs later => ?_, fun kind text ht => ?_,
    fun shared key value => ?_⟩
  · rw [knows.state_eq, knows.schema_eq]
  · have first : discovered policy (calls ++ later) = some s := by
      rw [discovered_append, ← knows.schema_eq, hs, Option.some_or]
    refine ⟨first, ?_⟩
    rw [← first, ← Workplace.after_append]
    exact (Workplace.knows_of_create ex fresh m x (calls ++ later)).schema_eq
  · obtain ⟨s, hs, rfl⟩ := knows.templates_eq kind text ht
    exact ⟨s, knows.schema_eq.trans hs, rfl⟩
  · rw [(knows.translate shared key value).1, discovered_concat, Call.describes]
    exact (Translator.outcomeFor_or_described ..).symm

/-- The columns that an event described which then failed are those of a later update. -/
theorem translate_eq_outcomeFor_orders :
    Translator.create (.text "public.orders") .strict (.standard Iso.reader) =
      .ok Orders.translator ∧
    (((Workplace.mk Orders.translator {} Orders.failing).after
      DryRun.executor.faulty Orders.calls).translator.translate .empty
        (.parsed (Orders.key [("id", .int 1)])) (.parsed (Orders.event [] "u" none
          (some [("NULL\n", .null), ("id", .int 2), ("AND", .bytes [5])])))).1 =
      .ok (some ⟨"public.orders", .update,
        "UPDATE public.orders SET id = ?, AND = ?, NULL\n = ? WHERE id = ? AND AND IS NULL",
        [.int 2, .decimal (.finite false 5 (-2)), .null, .int 1]⟩) := by
  refine ⟨Orders.create_eq, ?_⟩
  have same := (translate_eq_outcomeFor DryRun.executor.faulty "public.orders" .strict
    (.standard Iso.reader) Orders.translator Orders.create_eq {} Orders.failing
    Orders.calls).2.2.2.2
  exact (same _ _ _).trans (by rfl)

end Changefeed
