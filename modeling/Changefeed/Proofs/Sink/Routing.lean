import Mathlib.Data.List.TakeWhile
import Mathlib.Tactic.SplitIfs
import Changefeed.Proofs.Identifier
import Changefeed.Sink.Route

/-!
# Routing by precedence

A mapping for the topic of a record comes first, then one for its source table, then the source
table itself, then the last segment of the topic; an empty name counts as none (`Routes`).  Sinks
keep to this order, but for one kind of record: a source table whose name is empty is not passed
over, and the record is refused although its topic may name a table (`routes_kept`).
-/

namespace Changefeed

/-! ### The order of precedence -/

/-- A name, if there is one: an empty text names nothing. -/
def named (text : Option String) : Option String :=
  text.filter (· ≠ "")

/-- Whether a mapping is for a name, which stands in a part of the mapping. -/
def TableMapping.isFor (part : TableMapping → Option String) (text : Option String)
    (m : TableMapping) : Bool :=
  (named text).any fun name => part m = some name

/-- The first of some mappings that is for a name. -/
def FirstFor (part : TableMapping → Option String) (text : Option String)
    (mappings : List TableMapping) (m : TableMapping) : Prop :=
  ∃ before after, mappings = before ++ m :: after ∧ m.isFor part text ∧
    ∀ b ∈ before, ¬ b.isFor part text

/-- What stands behind the last dot of a text, or all of it. -/
def IsLastSegment (segment text : String) : Prop :=
  '.' ∉ segment.toList ∧ (text = segment ∨ ∃ front, text = front ++ "." ++ segment)

/-- The name that a record has for its table by its topic and its source table, each of which may be
absent. -/
inductive Routes (mappings : List TableMapping) (topic source : Option String) : String → Prop where
  | topicMapping (m : TableMapping) : FirstFor TableMapping.topic topic mappings m →
      Routes mappings topic source m.target
  | sourceMapping (m : TableMapping) : (∀ m ∈ mappings, ¬ m.isFor TableMapping.topic topic) →
      FirstFor TableMapping.source source mappings m → Routes mappings topic source m.target
  | source (name : String) : (∀ m ∈ mappings, ¬ m.isFor TableMapping.topic topic) →
      (∀ m ∈ mappings, ¬ m.isFor TableMapping.source source) → named source = some name →
      Routes mappings topic source name
  | topic (text segment : String) : (∀ m ∈ mappings, ¬ m.isFor TableMapping.topic topic) →
      named source = none → topic = some text → IsLastSegment segment text →
      Routes mappings topic source segment

/-- A name with a schema in front, unless there is no schema or the name has one. -/
def qualified (schema : Option String) (name : String) : String :=
  match named schema with
  | none => name
  | some schema => if '.' ∈ name.toList then name else schema ++ "." ++ name

/-- The outcome for a record is the table that it is routed to, or the failure to find one. -/
def KeepsRoute (settings : Settings) (topic source : Option String)
    (outcome : Except Failure Value) : Prop :=
  (∃ name, Routes settings.tables topic source name ∧ name ≠ "" ∧
    outcome = .ok (.text (qualified settings.destination.schema name))) ∨
  (∀ name, Routes settings.tables topic source name → name = "") ∧
    outcome = .error (.ofReason .noTargetTable)

/-- Whether the source table of a record has an empty name, and no mapping is for its topic. -/
def Overlooks (mappings : List TableMapping) (topic source : Option String) : Prop :=
  source = some "" ∧ ∀ m ∈ mappings, ¬ m.isFor TableMapping.topic topic

variable {mappings : List TableMapping} {topic source : Option String} {name : String}
  {text : Option String} {part : TableMapping → Option String}

theorem named_eq_some_iff : named text = some name ↔ text = some name ∧ name ≠ "" := by
  simp [named, Option.filter_eq_some_iff]

theorem named_eq_none_iff : named text = none ↔ text = none ∨ text = some "" := by
  cases text <;> simp [named]

theorem lastSegment_append (front : List Char) {segment : List Char} (h : '.' ∉ segment) :
    lastSegment (String.ofList (front ++ '.' :: segment)) = String.ofList segment := by
  have behind : ∀ c ∈ segment.reverse, decide (c ≠ '.') = true := by
    intro c hc
    simpa using ne_of_mem_of_not_mem (List.mem_reverse.1 hc) h
  rw [lastSegment, String.toList_ofList, List.reverse_append, List.reverse_cons,
    List.append_assoc, List.takeWhile_append_of_pos behind]
  simp

theorem lastSegment_of_dot_not_mem {s : String} (h : '.' ∉ s.toList) : lastSegment s = s := by
  have all : ∀ c ∈ s.toList.reverse, decide (c ≠ '.') = true := by
    intro c hc
    simpa using ne_of_mem_of_not_mem (List.mem_reverse.1 hc) h
  rw [lastSegment, List.takeWhile_eq_self_iff.2 all, List.reverse_reverse, String.ofList_toList]

theorem lastSegment_eq_iff {segment text : String} :
    lastSegment text = segment ↔ IsLastSegment segment text := by
  constructor
  · rintro rfl
    by_cases dotted : '.' ∈ text.toList.reverse
    · obtain ⟨behind, rest, split, undotted⟩ := List.eq_append_cons_of_mem dotted
      have whole : text = String.ofList (rest.reverse ++ '.' :: behind.reverse) := by
        rw [← String.ofList_toList (s := text), ← List.reverse_reverse text.toList, split]
        simp
      have undotted : '.' ∉ behind.reverse := by simpa using undotted
      rw [whole, lastSegment_append _ undotted]
      refine ⟨by simpa using undotted, .inr ⟨String.ofList rest.reverse, ?_⟩⟩
      rw [← String.toList_inj]
      simp
    · rw [List.mem_reverse] at dotted
      rw [lastSegment_of_dot_not_mem dotted]
      exact ⟨dotted, .inl rfl⟩
  · rintro ⟨undotted, rfl | ⟨front, rfl⟩⟩
    · exact lastSegment_of_dot_not_mem undotted
    · have whole : front ++ "." ++ segment =
          String.ofList (front.toList ++ '.' :: segment.toList) := by
        rw [← String.toList_inj]
        simp
      rw [whole, lastSegment_append _ undotted, String.ofList_toList]

theorem firstFor_iff {m : TableMapping} :
    FirstFor part text mappings m ↔ mappings.find? (·.isFor part text) = some m := by
  rw [List.find?_eq_some_iff_append]
  simp only [FirstFor, Bool.not_eq_true', Bool.not_eq_true]
  constructor
  · rintro ⟨before, after, split, hm, hb⟩
    exact ⟨hm, before, after, split, hb⟩
  · rintro ⟨hm, before, after, split, hb⟩
    exact ⟨before, after, split, hm, hb⟩

/-- The target of the mapping that decides, if one does. -/
def mappedTarget (mappings : List TableMapping) (topic source : Option String) : Option String :=
  ((mappings.find? (·.isFor TableMapping.topic topic)).or
    (mappings.find? (·.isFor TableMapping.source source))).map (·.target)

theorem routes_iff : Routes mappings topic source name ↔
    ((mappedTarget mappings topic source).or (named source)).or (topic.map lastSegment) =
      some name := by
  constructor
  · rintro (⟨m, first⟩ | ⟨m, none, first⟩ | ⟨_, none, none', given⟩ |
      ⟨text, _, none, empty, rfl, last⟩)
    · simp [mappedTarget, firstFor_iff.1 first]
    · simp [mappedTarget, List.find?_eq_none.2 none, firstFor_iff.1 first]
    · simp [mappedTarget, List.find?_eq_none.2 none, List.find?_eq_none.2 none', given]
    · have unmapped : mappings.find? (·.isFor TableMapping.source source) = .none := by
        simp [TableMapping.isFor, empty]
      simp [mappedTarget, List.find?_eq_none.2 none, unmapped, empty, lastSegment_eq_iff.2 last]
  · intro h
    unfold mappedTarget at h
    cases byTopic : mappings.find? (·.isFor TableMapping.topic topic) with
    | some m =>
      rw [byTopic] at h
      cases h
      exact .topicMapping m (firstFor_iff.2 byTopic)
    | none =>
      have none := List.find?_eq_none.1 byTopic
      cases bySource : mappings.find? (·.isFor TableMapping.source source) with
      | some m =>
        rw [byTopic, bySource] at h
        cases h
        exact .sourceMapping m none (firstFor_iff.2 bySource)
      | none =>
        rw [byTopic, bySource] at h
        cases given : named source with
        | some n =>
          rw [given] at h
          cases h
          exact .source name none (List.find?_eq_none.1 bySource) given
        | none =>
          rw [given] at h
          obtain ⟨text, rfl, last⟩ := Option.map_eq_some_iff.1 h
          exact .topic text name none given rfl (lastSegment_eq_iff.1 last)

/-! ### What sinks do -/

variable {settings : Settings} {r : Record}

theorem find?_mapping (part : TableMapping → Option String) (text : Option String) :
    (if (Value.textOrNull text).isEmpty then none
      else mappings.find? fun m => (part m).any (Value.textOrNull text).isText) =
      mappings.find? (·.isFor part text) := by
  by_cases empty : named text = none
  · have none : mappings.find? (·.isFor part text) = none := by
      rw [List.find?_eq_none]
      simp [TableMapping.isFor, empty]
    rw [none]
    rcases named_eq_none_iff.1 empty with rfl | rfl <;> rfl
  · obtain ⟨name, given⟩ := Option.ne_none_iff_exists'.1 empty
    obtain ⟨rfl, filled⟩ := named_eq_some_iff.1 given
    have same : (fun m => (part m).any (Value.textOrNull (some name)).isText) =
        (·.isFor part (some name)) := by
      funext m
      cases hm : part m with
      | none => simp [TableMapping.isFor, given, hm]
      | some n => simp [TableMapping.isFor, given, hm, Value.textOrNull, Value.isText, eq_comm]
    rw [same, if_neg (by simp [Value.textOrNull, Value.isEmpty, filled])]

theorem mappedTable_textOrNull (settings : Settings) (topic source : Option String) :
    settings.mappedTable (.textOrNull topic) (.textOrNull source) =
      mappedTarget settings.tables topic source := by
  unfold Settings.mappedTable mappedTarget
  rw [find?_mapping, find?_mapping]
  cases settings.tables.find? (·.isFor TableMapping.topic topic) <;> rfl

/-- A source table that is there counts even if its name is empty. -/
theorem unqualifiedTable_eq (ht : r.topic = .textOrNull topic)
    (hs : r.sourceTable = .ok (.textOrNull source)) :
    unqualifiedTable settings r = .ok (.textOrNull
      (((mappedTarget settings.tables topic source).or source).or (topic.map lastSegment))) := by
  simp only [unqualifiedTable, hs, ht, Except.mapError, bind, Except.bind, mappedTable_textOrNull]
  cases mappedTarget settings.tables topic source with
  | some m => rfl
  | none => cases source <;> cases topic <;> rfl

/-- A schema is put in front of a name that has none. -/
theorem targetTable_eq (ht : r.topic = .textOrNull topic)
    (hs : r.sourceTable = .ok (.textOrNull source)) :
    targetTable settings r =
      match named (((mappedTarget settings.tables topic source).or source).or
        (topic.map lastSegment)) with
      | some name => .ok (.text (qualified settings.destination.schema name))
      | none => .error (.ofReason .noTargetTable) := by
  unfold targetTable
  rw [unqualifiedTable_eq ht hs]
  generalize ((mappedTarget settings.tables topic source).or source).or _ = chosen
  by_cases unnamed : named chosen = none
  · rw [unnamed]
    rcases named_eq_none_iff.1 unnamed with rfl | rfl <;> rfl
  obtain ⟨name, given⟩ := Option.ne_none_iff_exists'.1 unnamed
  obtain ⟨rfl, filled⟩ := named_eq_some_iff.1 given
  have filled : (Value.textOrNull (some name)).isEmpty = false := by
    simp [Value.textOrNull, Value.isEmpty, filled]
  simp only [given, bind, Except.bind, filled, Bool.false_eq_true, if_false]
  generalize settings.destination.schema = schema
  split
  · rfl
  · rfl
  next schema filled =>
    have known : named (some schema) = some schema :=
      named_eq_some_iff.2 ⟨rfl, fun h => filled (by rw [h])⟩
    simp only [qualified, known, Value.textOrNull, Option.map_some, Option.getD_some, holdsDot,
      Except.mapError, Value.display, List.contains_iff_mem]
    split_ifs <;> rfl

theorem qualified_qualified (schema : Option String) (name : String) :
    qualified schema (qualified schema name) = qualified schema name := by
  cases given : named schema with
  | none => simp only [qualified, given]
  | some s =>
    simp only [qualified, given]
    split_ifs with dotted dotted'
    · rfl
    · rfl
    · exact absurd (by simp) dotted'

theorem overlooks_iff : Overlooks mappings topic source ↔
    mappedTarget mappings topic source = none ∧ source = some "" := by
  unfold Overlooks mappedTarget
  constructor
  · rintro ⟨rfl, none⟩
    have unmapped : mappings.find? (·.isFor TableMapping.source (some "")) = .none :=
      List.find?_eq_none.2 fun m _ => by simp [TableMapping.isFor, named]
    simp [List.find?_eq_none.2 none, unmapped]
  · rintro ⟨unmapped, rfl⟩
    simp only [Option.map_eq_none_iff, Option.or_eq_none_iff] at unmapped
    exact ⟨rfl, List.find?_eq_none.1 unmapped.1⟩

/-- But for an empty name of a source table, a sink chooses by the order of precedence. -/
theorem chosen_eq (h : ¬ Overlooks mappings topic source) :
    ((mappedTarget mappings topic source).or source).or (topic.map lastSegment) =
      ((mappedTarget mappings topic source).or (named source)).or (topic.map lastSegment) := by
  rw [overlooks_iff] at h
  cases mapped : mappedTarget mappings topic source with
  | some target => rfl
  | none =>
    have same : named source = source := by
      cases source with
      | none => rfl
      | some name =>
        exact named_eq_some_iff.2 ⟨rfl, fun empty => h ⟨mapped, by rw [empty]⟩⟩
    rw [same]

theorem mappedTarget_append_cons {before after : List TableMapping} {m : TableMapping}
    (ht : ¬ m.isFor TableMapping.topic topic) (hs : ¬ m.isFor TableMapping.source source) :
    mappedTarget (before ++ m :: after) topic source =
      mappedTarget (before ++ after) topic source := by
  simp only [mappedTarget, List.find?_append, List.find?_cons_of_neg ht,
    List.find?_cons_of_neg hs]

/-- Records whose topic and source table are texts or absent go by the order of precedence, which
gives them one name at most, unless the source table has an empty name, no mapping is for the topic
and the topic names a table: such a record is refused.  A table that a record goes to has a schema
as far as there is one, and mappings for neither the topic nor the source table do not matter. -/
theorem routes_kept (settings : Settings) (r : Record) (topic source : Option String)
    (ht : r.topic = .textOrNull topic) (hs : r.sourceTable = .ok (.textOrNull source)) :
    let routed := Routes settings.tables topic source
    (∀ name name', routed name → routed name' → name = name') ∧
    (KeepsRoute settings topic source (targetTable settings r) ↔
      ¬ (Overlooks settings.tables topic source ∧ ∃ name, routed name ∧ name ≠ "")) ∧
    (Overlooks settings.tables topic source →
      targetTable settings r = .error (.ofReason .noTargetTable)) ∧
    (∀ v, targetTable settings r = .ok v → ∃ table, v = .text table ∧
      qualified settings.destination.schema table = table) ∧
    ∀ before m after, settings.tables = before ++ after → ¬ m.isFor TableMapping.topic topic →
      ¬ m.isFor TableMapping.source source →
      targetTable { settings with tables := before ++ m :: after } r = targetTable settings r := by
  intro routed
  have refused (overlooks : Overlooks settings.tables topic source) :
      targetTable settings r = .error (.ofReason .noTargetTable) := by
    obtain ⟨unmapped, rfl⟩ := overlooks_iff.1 overlooks
    rw [targetTable_eq ht hs, unmapped]
    rfl
  refine ⟨fun name name' h h' => ?_, ⟨?_, fun straight => ?_⟩, refused, fun v h => ?_,
    fun before m after split unfit unfit' => ?_⟩
  · exact Option.some.inj ((routes_iff.1 h).symm.trans (routes_iff.1 h'))
  · rintro kept ⟨overlooks, name, routes, filled⟩
    rw [refused overlooks] at kept
    rcases kept with ⟨_, -, -, same⟩ | ⟨none, -⟩
    · cases same
    · exact filled (none name routes)
  · by_cases overlooks : Overlooks settings.tables topic source
    · refine .inr ⟨fun name routes => ?_, refused overlooks⟩
      by_contra filled
      exact straight ⟨overlooks, name, routes, filled⟩
    · rw [targetTable_eq ht hs, chosen_eq overlooks]
      unfold KeepsRoute
      simp only [routes_iff]
      generalize ((mappedTarget settings.tables topic source).or (named source)).or _ = chosen
      cases given : named chosen with
      | some name =>
        obtain ⟨rfl, filled⟩ := named_eq_some_iff.1 given
        exact .inl ⟨name, rfl, filled, rfl⟩
      | none =>
        refine .inr ⟨?_, rfl⟩
        rcases named_eq_none_iff.1 given with rfl | rfl
        · exact fun _ => nofun
        · exact fun _ same => (Option.some.inj same).symm
  · rw [targetTable_eq ht hs] at h
    split at h
    · cases h
      exact ⟨_, rfl, qualified_qualified ..⟩
    · cases h
  · rw [targetTable_eq ht hs, targetTable_eq ht hs, split, mappedTarget_append_cons unfit unfit']

namespace Orders

/-- Settings with a schema and two mappings. -/
def routing : Settings where
  destination := { kind := .dryRun, schema := some "replica" }
  tables := [{ target := "orders", topic := some "db.ORDERS" },
    { target := "customers", source := some "CUSTOMERS" }]

/-- A record that says which table it comes from. -/
def recordFrom (table topic : String) : Record where
  value := .object [("payload", .object [("source", .object [("table", .text table)])])]
  topic := .text topic

end Orders

/-- A record without a mapping for its topic goes by its source table, in the schema of the
settings; a mapping for another topic does not matter. -/
theorem routes_kept_customers :
    let r := Orders.recordFrom "CUSTOMERS" "db.CLIENTS"
    let other : TableMapping := { target := "elsewhere", topic := some "CLIENTS" }
    r.topic = .textOrNull (some "db.CLIENTS") ∧
      r.sourceTable = .ok (.textOrNull (some "CUSTOMERS")) ∧
      KeepsRoute Orders.routing (some "db.CLIENTS") (some "CUSTOMERS")
        (targetTable Orders.routing r) ∧
      targetTable { Orders.routing with tables := other :: Orders.routing.tables } r =
        .ok (.text "replica.customers") := by
  intro r other
  obtain ⟨-, kept, -, -, extra⟩ := routes_kept Orders.routing r (some "db.CLIENTS")
    (some "CUSTOMERS") rfl rfl
  have straight : ¬ Overlooks Orders.routing.tables (some "db.CLIENTS") (some "CUSTOMERS") :=
    fun h => absurd h.1 (by decide)
  refine ⟨rfl, rfl, kept.2 fun h => straight h.1, ?_⟩
  exact (extra [] other Orders.routing.tables rfl (by decide) (by decide)).trans rfl

/-- A source table without a name hides the table that the topic names. -/
theorem routes_kept_unnamed :
    let r := Orders.recordFrom "" "db.orders"
    Routes [] (some "db.orders") (some "") "orders" ∧
      targetTable {} r = .error (.ofReason .noTargetTable) ∧
      ¬ KeepsRoute {} (some "db.orders") (some "") (targetTable {} r) := by
  intro r
  have routes : Routes [] (some "db.orders") (some "") "orders" := routes_iff.2 (by decide)
  have refused : targetTable {} r = .error (.ofReason .noTargetTable) := rfl
  refine ⟨routes, refused, ?_⟩
  rw [refused]
  rintro (⟨_, -, -, same⟩ | ⟨none, -⟩)
  · cases same
  · exact absurd (none "orders" routes) (by decide)

end Changefeed
