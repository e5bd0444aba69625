import Changefeed.Proofs.Feed
import Changefeed.Proofs.Sink.Tolerance

/-!
# Runs over lines

A run over the feed of lines comes to the same as one that reads a line whenever it has handled the
record before (`Sink.runFeed_ofLines`).  So a line that describes no record ends the run only when
the records of the lines before it are handled.  With `Text.lines_joined` this holds of every text
that is put together of lines (`feed_joined`).
-/

namespace Changefeed

namespace Sink

variable {σ : Type} (ex : Executor σ)

/-- Reads lines of which the first has a number, and handles the record of each as soon as it is
read. -/
def runLines (s : Sink σ) (counts : Summary) :
    (number : Nat) → List (List Char) → Except Failure Summary × Sink σ
  | _, [] => (.ok counts, s)
  | number, line :: rest =>
    let line := Text.trim Text.isBlank line
    if line.isEmpty then s.runLines counts (number + 1) rest
    else
      match Feed.readLine number line with
      | .error e => (.error e, s)
      | .ok r =>
        match s.runOne ex counts r with
        | (.ok counts, s) => s.runLines counts (number + 1) rest
        | (.error e, s) => (.error e, s)

/-- A failure of the feed behind its records ends a run that goes on behind them. -/
def endingWith (ending : Option Failure) (ran : Except Failure Summary × Sink σ) :
    Except Failure Summary × Sink σ :=
  match ran, ending with
  | (.ok _, s), some e => (.error e, s)
  | ran, _ => ran

theorem runFeed_eq (s : Sink σ) (feed : Feed) :
    s.runFeed ex feed = endingWith feed.ending (s.run ex feed.records) := rfl

/-- Records may be handled while lines are read. -/
theorem runLines_eq (s : Sink σ) (counts : Summary) (number : Nat) (lines : List (List Char)) :
    s.runLines ex counts number lines =
      endingWith (Feed.ofLines number lines).ending
        (s.runFrom ex counts (Feed.ofLines number lines).records) := by
  induction lines generalizing s counts number with
  | nil => rfl
  | cons line rest ih =>
    by_cases blank : Text.trim Text.isBlank line = []
    · rw [Feed.ofLines_cons_of_blank blank, ← ih]
      simp only [runLines, blank, List.isEmpty_nil, if_true]
    · rw [Feed.ofLines_cons blank]
      simp only [runLines, List.isEmpty_iff, blank, if_false]
      cases Feed.readLine number (Text.trim Text.isBlank line) with
      | error e => rfl
      | ok r =>
        dsimp only
        rw [runFrom]
        rcases s.runOne ex counts r with ⟨e | counts', s'⟩
        · rfl
        · exact ih s' counts' (number + 1)

theorem runFeed_ofLines (s : Sink σ) (number : Nat) (lines : List (List Char)) :
    s.runFeed ex (Feed.ofLines number lines) = s.runLines ex {} number lines :=
  (runLines_eq ex s {} number lines).symm

/-- A tolerant run over a feed attends to all of its records before it ends as the feed does. -/
theorem runFeed_of_readable {s : Sink σ} (tolerant : s.settings.failures.failFast = false)
    {feed : Feed} (readable : ∀ r ∈ feed.records, r.isReadable) :
    s.runFeed ex feed =
      (feed.ending.elim (.ok (s.attendAll ex {} feed.records).2) .error,
        (s.attendAll ex {} feed.records).1) := by
  rw [runFeed_eq, run_of_readable ex tolerant readable]
  cases feed.ending <;> rfl

end Sink

/-- The feed of a text that is put together of lines, whichever end they have, holds one record for
each line that is not blank, in order and as its object describes it, up to the first line that is
no object.  That line is reported with its number, which counts blank lines too.  A tolerant run
over the feed, which may read a line whenever it has handled the record before, has then attended to
all these records and to no other. -/
theorem feed_joined (e : Text.LineEnd) (closed : Bool) (lines : List (List Char))
    (whole : ∀ line ∈ lines, Text.IsLine line)
    (short : ∀ line ∈ lines, Json.read (Text.trim Text.isBlank line) ≠ .error .tooManyDigits) :
    let feed := Feed.ofText (String.ofList (Text.joined e closed lines))
    (∃ read unread, lines = read ++ unread ∧
      List.Forall₂ Feed.Describes (Feed.contents read) feed.records ∧
      (unread = [] ∧ feed.ending = none ∨
        ∃ line rest reason, unread = line :: rest ∧ Text.trim Text.isBlank line ≠ [] ∧
          feed.ending = some (.ofReason reason) ∧
          Feed.Spoils (read.length + 1) (Text.trim Text.isBlank line) reason ∧
          (∀ r, ¬ Feed.Describes (Text.trim Text.isBlank line) r) ∧
          reason.kind = .malformedEvent ∧ ∃ why, (EventError.mk reason {}).message =
            "Line " ++ toString (read.length + 1) ++ (": " ++ why))) ∧
    ∀ (σ : Type) (ex : Executor σ) (s : Sink σ),
      s.runFeed ex feed = s.runLines ex {} 1 lines ∧
      (s.settings.failures.failFast = false → (∀ r ∈ feed.records, r.isReadable) →
        let handled := s.attendAll ex {} feed.records
        s.run ex feed.records = (.ok handled.2, handled.1) ∧
        handled.2.received = feed.records.length ∧
        s.runFeed ex feed = (feed.ending.elim (.ok handled.2) .error, handled.1)) := by
  intro feed
  have same : feed = Feed.ofLines 1 lines := Feed.ofText_joined e closed whole
  clear_value feed
  subst same
  refine ⟨?_, fun σ ex s =>
    ⟨Sink.runFeed_ofLines ex s 1 lines, fun tolerant readable => ?_⟩⟩
  · obtain ⟨read, unread, split, described, ends⟩ := Feed.ofLines_split 1 lines
    rw [Nat.add_comm] at ends
    refine ⟨read, unread, split, described, ?_⟩
    generalize (Feed.ofLines 1 lines).ending = ending at ends
    rcases ends with _ | ⟨line, rest, failure, filled, failed⟩
    · exact .inl ⟨rfl, rfl⟩
    · have mem : line ∈ lines := split ▸ List.mem_append_right _ List.mem_cons_self
      obtain ⟨reason, rfl, spoils⟩ := Feed.readLine_eq_error failed (short line mem)
      exact .inr ⟨line, rest, reason, rfl, filled, rfl, spoils, spoils.not_describes,
        spoils.kind_eq, spoils.message_eq⟩
  · refine ⟨Sink.run_of_readable ex tolerant readable, ?_,
      Sink.runFeed_of_readable ex tolerant readable⟩
    rw [Sink.attendAll_received]
    exact Nat.zero_add _

namespace Orders

/-- A line of a blank that is no white space of documents, two lines with records, of which one has
neither a value nor a key, and a line with a list. -/
def listLines : List (List Char) :=
  ["\u00a0".toList,
    "\x7b\"key\": \x7b\"id\": 1\x7d, \"value\": [], \"topic\": \"orders\"\x7d".toList,
    "\x7b\"topic\": \"items\"\x7d".toList, "[]".toList]

end Orders

/-- The fourth line ends a feed with two records, which a run has handled by then. -/
theorem feed_joined_orders :
    let feed := Feed.ofText (String.ofList (Text.joined .carriageReturn false Orders.listLines))
    (∀ line ∈ Orders.listLines, Text.IsLine line) ∧
    (∀ line ∈ Orders.listLines,
      Json.read (Text.trim Text.isBlank line) ≠ .error .tooManyDigits) ∧
    (∃ first second, feed.records = [first, second] ∧
      first.value = .list [] ∧ first.key = .object [("id", .int 1)] ∧
      first.topic = .text "orders" ∧
      second.value = .null ∧ second.key = .null ∧ second.topic = .text "items") ∧
    feed.ending = some (.ofReason (.notObject 4)) ∧
    (Sink.fresh false).runFeed DryRun.executor feed =
      (.error (.ofReason (.notObject 4)),
        ((Sink.fresh false).attendAll DryRun.executor {} feed.records).1) := by
  intro feed
  have whole : ∀ line ∈ Orders.listLines, Text.IsLine line := by
    unfold Text.IsLine
    decide
  have read : Orders.listLines.map (fun line => Json.read (Text.trim Text.isBlank line)) =
      [.error .malformed, .ok (.object [("key", .object [("id", .int 1)]), ("value", .list []),
        ("topic", .text "orders")]), .ok (.object [("topic", .text "items")]), .ok (.list [])] := by
    simp only [Orders.listLines, String.reduceToList]
    rfl
  have short : ∀ line ∈ Orders.listLines,
      Json.read (Text.trim Text.isBlank line) ≠ .error .tooManyDigits := by
    intro line mem long
    have mem := List.mem_map_of_mem (f := fun line => Json.read (Text.trim Text.isBlank line)) mem
    rw [read, long] at mem
    simp at mem
  have same : feed =
      { records := [{ value := .list [], key := .object [("id", .int 1)], topic := .text "orders" },
          { value := .null, topic := .text "items" }]
        ending := some (.ofReason (.notObject 4)) } := by
    rw [show feed = Feed.ofLines 1 Orders.listLines from Feed.ofText_joined _ _ whole]
    simp only [Orders.listLines, String.reduceToList]
    rfl
  have readable : ∀ r ∈ feed.records, r.isReadable := by
    rw [same]
    decide
  have ran := ((feed_joined .carriageReturn false Orders.listLines whole short).2 DryRun
    DryRun.executor (Sink.fresh false)).2 rfl readable
  refine ⟨whole, short, ?_, congrArg Feed.ending same, ?_⟩
  · exact ⟨_, _, congrArg Feed.records same, rfl, rfl, rfl, rfl, rfl, rfl⟩
  · rw [ran.2.2, congrArg Feed.ending same]
    rfl

end Changefeed
