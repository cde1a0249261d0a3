import LiveConfig.Proofs.KeyedTables
import LiveConfig.Proofs.Outcome
import LiveConfig.Proofs.ValueRoundTrip
import LiveConfig.Wire.ConfigMessage

/-!
# Snapshots are read back

A well-formed snapshot is read back from its bytes: the configs in their order, each as often as it
is there, the environment if there is one, and the default context if there is one, be it empty. It
is read back exactly if the reader has enough levels for its nested messages; with fewer it gets
nothing, never a part.

Tables are written in the order of their keys here, but on the wire their entries may come in any
order. A `Listing` is such an order, and what is read back does not depend on it.
-/

namespace LiveConfig

/-- The levels of messages that nest in the message of a criterion. -/
def Criterion.nesting (c : Criterion) : Nat :=
  c.target.elim 0 fun v => v.nesting + 1

/-- The levels of messages that nest in the message of a rule. -/
def Rule.nesting (r : Rule) : Nat :=
  max (Wire.deepest (fun c => c.nesting + 1) r.criteria) (r.value.nesting + 1)

/-- The levels of messages that nest in the message of a row. -/
def Row.nesting (r : Row) : Nat :=
  Wire.deepest (fun rule => rule.nesting + 1) r.rules

/-- The levels of messages that nest in the message of a config. -/
def Config.nesting (c : Config) : Nat :=
  Wire.deepest (fun row => row.nesting + 1) c.rows

/-- The levels of messages that nest in the message of a group: each property is one, and so is its
value. -/
def Properties.nesting (properties : Properties) : Nat :=
  Wire.deepest (fun (_, v) => v.nesting + 2) properties.toList

/-- The levels of messages that nest in the message of a context. -/
def Context.nesting (c : Context) : Nat :=
  Wire.deepest (fun (_, properties) => properties.nesting + 1) c.toList

/-- The levels of messages that nest in the message of a snapshot. -/
def Snapshot.nesting (s : Snapshot) : Nat :=
  max (max (Wire.deepest (fun c => c.nesting + 1) s.configs) (s.environment.elim 0 fun _ => 1))
    (s.defaultContext.elim 0 fun context => context.nesting + 1)

/-- Orders in which the entries of tables are written. Entries of equal groups may be written in
different orders where the groups have different names. -/
structure Listing where
  groups (context : Context) : List (String × Properties)
  groups_all : ∀ context, (groups context).Perm context.toList
  properties (name : String) (group : Properties) : List (String × Value)
  properties_all : ∀ name group, (properties name group).Perm group.toList

/-- Entries in the order of their names. -/
def Listing.ascending : Listing where
  groups context := context.toList
  groups_all _ := .refl _
  properties _ group := group.toList
  properties_all _ _ := .refl _

namespace Wire

/-- The fields of a group, its properties in the order of a listing. -/
def groupFieldsIn (order : Listing) (name : String) (properties : Properties) : List Field :=
  .ofText 1 name :: (order.properties name properties).map fun (property, v) =>
    .ofMessage 2 (propertyFields property v)

/-- The fields of a context, its groups in the order of a listing. -/
def contextFieldsIn (order : Listing) (c : Context) : List Field :=
  (order.groups c).map fun (name, properties) => .ofMessage 1 (groupFieldsIn order name properties)

/-- The fields of a snapshot, tables in the order of a listing. -/
def snapshotFieldsIn (order : Listing) (s : Snapshot) : List Field :=
  s.configs.map (fun c => .ofMessage 1 (configFields c)) ++
    optional (fun environment => .ofMessage 2 (pointerFields environment)) s.environment ++
    optional (fun context => .ofMessage 4 (contextFieldsIn order context)) s.defaultContext

end Wire

/-- The bytes of a snapshot, tables in the order of a listing. -/
def Snapshot.encodeIn (order : Listing) (s : Snapshot) : Bytes :=
  Wire.writeAll (Wire.snapshotFieldsIn order s)

/-- A snapshot is written with the names in order. -/
theorem Snapshot.encodeIn_ascending (s : Snapshot) : s.encodeIn .ascending = s.encode :=
  rfl

namespace Wire

/-- The message of a criterion. -/
def criterionMessage (c : Criterion) : CriterionMessage where
  property := c.property
  operator := c.operator.number
  target := c.target.map valueMessage

/-- The message of a rule. -/
def ruleMessage (r : Rule) : RuleMessage where
  criteria := r.criteria.map criterionMessage
  value := some (valueMessage r.value)

/-- The message of a row. -/
def rowMessage (r : Row) : RowMessage where
  environment := r.environment
  rules := r.rules.map ruleMessage

/-- The message of a config. -/
def configMessage (c : Config) : ConfigMessage where
  id := c.id
  project := c.project
  key := c.key
  rows := c.rows.map rowMessage
  kind := c.kind.number
  valueType := c.valueType.number

/-- The message of a group. -/
def groupMessage (order : Listing) (name : String) (properties : Properties) : GroupMessage where
  name := some name
  properties := (order.properties name properties).map fun (property, v) =>
    (property, valueMessage v)

/-- The messages of the groups of a context. -/
def groupMessages (order : Listing) (c : Context) : List GroupMessage :=
  (order.groups c).map fun (name, properties) => groupMessage order name properties

/-- The message of a snapshot. -/
def snapshotMessage (order : Listing) (s : Snapshot) : SnapshotMessage where
  configs := s.configs.map configMessage
  pointer := s.environment.map fun environment => { environment }
  defaultContext := s.defaultContext.map (groupMessages order)

/-- A criterion is read back from its fields. -/
theorem criterion_merges (c : Criterion) :
    Merges CriterionMessage.merge? {} (criterionFields c) c.nesting (criterionMessage c) := by
  have property : Merges CriterionMessage.merge? {} (unlessDefault "" (.ofText 1) c.property) 0
      ⟨c.property, 0, none⟩ :=
    .unlessDefault (fun s => CriterionMessage.mk s 0 none) (Field.ofText_holds 1 (by decide) _)
      fun _ => rfl
  have operator : Merges CriterionMessage.merge? ⟨c.property, 0, none⟩
      (unlessDefault 0 (.ofInt32 2) c.operator.number) 0
      ⟨c.property, c.operator.number, none⟩ :=
    .unlessDefault (fun n => CriterionMessage.mk c.property n none)
      (Field.ofInt32_holds 2 (by decide) _) fun _ => rfl
  have target (v : Value) : Merges CriterionMessage.merge? ⟨c.property, c.operator.number, none⟩
      [.ofMessage 3 (valueFields v)] (v.nesting + 1)
      ⟨c.property, c.operator.number, some (valueMessage v)⟩ :=
    .message (fun m => CriterionMessage.mk c.property c.operator.number (some m)) (by decide)
      (value_merges v) (by simp [noneForced]) fun _ => rfl
  have targets := Merges.optional
    (fun v => CriterionMessage.mk c.property c.operator.number (v.map valueMessage)) c.target rfl
    target
  exact ((property.append operator).append targets).leveled (by simp [Criterion.nesting])

/-- A rule is read back from its fields. -/
theorem rule_merges (r : Rule) :
    Merges RuleMessage.merge? {} (ruleFields r) r.nesting (ruleMessage r) := by
  have each (m : RuleMessage) (c : Criterion) (_ : c ∈ r.criteria) : Merges RuleMessage.merge? m
      [.ofMessage 1 (criterionFields c)] (c.nesting + 1)
      { m with criteria := m.criteria ++ [criterionMessage c] } :=
    .message (fun c => RuleMessage.mk (m.criteria ++ [c]) m.value) (by decide) (criterion_merges c)
      (by simp [noneForced]) fun _ => rfl
  have criteria := Merges.repeated (fun m cs => RuleMessage.mk (m.criteria ++ cs) m.value)
    r.criteria (by simp) (by simp) each {}
  have value : Merges RuleMessage.merge? ⟨r.criteria.map criterionMessage, none⟩
      [.ofMessage 2 (valueFields r.value)] (r.value.nesting + 1) (ruleMessage r) :=
    .message (fun v => RuleMessage.mk (r.criteria.map criterionMessage) (some v)) (by decide)
      (value_merges r.value) (by simp [noneForced]) fun _ => rfl
  exact criteria.append value

/-- A row is read back from its fields. -/
theorem row_merges (r : Row) :
    Merges RowMessage.merge? {} (rowFields r) r.nesting (rowMessage r) := by
  have environment (n : Int64) : Merges RowMessage.merge? {} [.ofInt64 1 n] 0 ⟨some n, []⟩ :=
    .scalar (fun n => RowMessage.mk (some n) []) (Field.ofInt64_holds 1 (by decide) n) fun _ => rfl
  have environments := Merges.optional (fun n => RowMessage.mk n []) r.environment rfl environment
  have each (m : RowMessage) (rule : Rule) (_ : rule ∈ r.rules) : Merges RowMessage.merge? m
      [.ofMessage 2 (ruleFields rule)] (rule.nesting + 1)
      { m with rules := m.rules ++ [ruleMessage rule] } :=
    .message (fun rule => RowMessage.mk m.environment (m.rules ++ [rule])) (by decide)
      (rule_merges rule) (by simp [noneForced]) fun _ => rfl
  have rules := Merges.repeated (fun m rules => RowMessage.mk m.environment (m.rules ++ rules))
    r.rules (by simp) (by simp) each ⟨r.environment, []⟩
  exact (environments.append rules).leveled (by cases r.environment <;> simp [Row.nesting])

/-- A config is read back from its fields. -/
theorem config_merges (c : Config) :
    Merges ConfigMessage.merge? {} (configFields c) c.nesting (configMessage c) := by
  have id : Merges ConfigMessage.merge? {} (unlessDefault 0 (.ofInt64 1) c.id) 0 { id := c.id } :=
    .unlessDefault (fun id => ConfigMessage.mk id 0 "" [] 0 0) (Field.ofInt64_holds 1 (by decide) _)
      fun _ => rfl
  have project : Merges ConfigMessage.merge? ⟨c.id, 0, "", [], 0, 0⟩
      (unlessDefault 0 (.ofInt64 2) c.project) 0 ⟨c.id, c.project, "", [], 0, 0⟩ :=
    .unlessDefault (fun project => ConfigMessage.mk c.id project "" [] 0 0)
      (Field.ofInt64_holds 2 (by decide) _) fun _ => rfl
  have key : Merges ConfigMessage.merge? ⟨c.id, c.project, "", [], 0, 0⟩
      (unlessDefault "" (.ofText 3) c.key) 0 ⟨c.id, c.project, c.key, [], 0, 0⟩ :=
    .unlessDefault (fun key => ConfigMessage.mk c.id c.project key [] 0 0)
      (Field.ofText_holds 3 (by decide) _) fun _ => rfl
  have each (m : ConfigMessage) (row : Row) (_ : row ∈ c.rows) : Merges ConfigMessage.merge? m
      [.ofMessage 5 (rowFields row)] (row.nesting + 1)
      { m with rows := m.rows ++ [rowMessage row] } :=
    .message (fun row => { m with rows := m.rows ++ [row] }) (by decide) (row_merges row)
      (by simp [noneForced]) fun _ => rfl
  have rows := Merges.repeated (fun (m : ConfigMessage) rows => { m with rows := m.rows ++ rows })
    c.rows (by simp) (by simp) each ⟨c.id, c.project, c.key, [], 0, 0⟩
  have kind : Merges ConfigMessage.merge?
      ⟨c.id, c.project, c.key, c.rows.map rowMessage, 0, 0⟩
      (unlessDefault 0 (.ofInt32 7) c.kind.number) 0
      ⟨c.id, c.project, c.key, c.rows.map rowMessage, c.kind.number, 0⟩ :=
    .unlessDefault
      (fun kind => ConfigMessage.mk c.id c.project c.key (c.rows.map rowMessage) kind 0)
      (Field.ofInt32_holds 7 (by decide) _) fun _ => rfl
  have valueType : Merges ConfigMessage.merge?
      ⟨c.id, c.project, c.key, c.rows.map rowMessage, c.kind.number, 0⟩
      (unlessDefault 0 (.ofInt32 9) c.valueType.number) 0 (configMessage c) :=
    .unlessDefault (fun valueType => { configMessage c with valueType })
      (Field.ofInt32_holds 9 (by decide) _) fun _ => rfl
  have all := ((((id.append project).append key).append rows).append kind).append valueType
  exact all.leveled (by simp [Config.nesting])

/-- A pointer to an environment is read back from its fields. -/
theorem pointer_merges (environment : Int64) : Merges PointerMessage.merge? {}
    (pointerFields environment) 0 { environment } :=
  .unlessDefault (fun environment => PointerMessage.mk 0 environment)
    (Field.ofInt64_holds 2 (by decide) _) fun _ => rfl

/-- A property is read back from its fields. -/
theorem property_merges (name : String) (v : Value) : Merges mergeProperty? ("", {})
    (propertyFields name v) (v.nesting + 1) (name, valueMessage v) := by
  have named : Merges mergeProperty? ("", {}) (unlessDefault "" (.ofText 1) name) 0 (name, {}) :=
    .unlessDefault (fun name => (name, ({} : ValueMessage)))
      (Field.ofText_holds 1 (by decide) name) fun _ => rfl
  have held : Merges mergeProperty? (name, {}) [.ofMessage 2 (valueFields v)] (v.nesting + 1)
      (name, valueMessage v) :=
    .message (fun m => (name, m)) (by decide) (value_merges v) (by simp [noneForced]) fun _ => rfl
  exact (named.append held).leveled (by simp)

/-- A group is read back from its fields, in whatever order its properties are listed. -/
theorem group_merges (order : Listing) (name : String) (properties : Properties) :
    Merges GroupMessage.merge? {} (groupFieldsIn order name properties) properties.nesting
      (groupMessage order name properties) := by
  have named : Merges GroupMessage.merge? {} [.ofText 1 name] 0 ⟨some name, []⟩ :=
    .scalar (fun name => GroupMessage.mk (some name) []) (Field.ofText_holds 1 (by decide) name)
      fun _ => rfl
  have each (m : GroupMessage) (property : String × Value)
      (_ : property ∈ order.properties name properties) : Merges GroupMessage.merge? m
      [.ofMessage 2 (propertyFields property.1 property.2)] (property.2.nesting + 2)
      { m with properties := m.properties ++ [(property.1, valueMessage property.2)] } :=
    .message (fun property => { m with properties := m.properties ++ [property] }) (by decide)
      (property_merges property.1 property.2) (by simp [noneForced]) fun _ => rfl
  have held := Merges.repeated
    (fun (m : GroupMessage) more => { m with properties := m.properties ++ more })
    (order.properties name properties) (by simp) (by simp) each ⟨some name, []⟩
  refine (named.append held).leveled ?_
  rw [Nat.zero_max]
  exact deepest_perm _ _ _ (order.properties_all name properties)

/-- All fields of a group are byte strings, the properties as they are read. -/
theorem groupFieldsIn_delimited (order : Listing) (name : String) (properties : Properties) :
    ∀ f ∈ groupFieldsIn order name properties, f.content.form = 2 := by
  intro f member
  rcases List.mem_cons.mp member with rfl | inside
  · rfl
  · obtain ⟨property, -, rfl⟩ := List.mem_map.mp inside
    rfl

/-- A context is read back from its fields, in whatever order its groups are listed. -/
theorem context_merges (order : Listing) (c : Context) : Merges mergeGroups? []
    (contextFieldsIn order c) c.nesting (groupMessages order c) := by
  have each (held : List GroupMessage) (group : String × Properties) (_ : group ∈ order.groups c) :
      Merges mergeGroups? held [.ofMessage 1 (groupFieldsIn order group.1 group.2)]
        (group.2.nesting + 1) (held ++ [groupMessage order group.1 group.2]) :=
    .message (fun m => held ++ [m]) (by decide) (group_merges order group.1 group.2)
      (fun f member _ => groupFieldsIn_delimited order group.1 group.2 f member) fun _ => rfl
  have all := Merges.repeated (fun held more => held ++ more) (order.groups c)
    (fun held => held.append_nil) (fun held m more => List.append_assoc held [m] more) each []
  exact all.leveled (deepest_perm _ _ _ (order.groups_all c))

/-- A snapshot is read back from its fields, in whatever order tables are listed. -/
theorem snapshot_merges (order : Listing) (s : Snapshot) : Merges SnapshotMessage.merge? {}
    (snapshotFieldsIn order s) s.nesting (snapshotMessage order s) := by
  have each (m : SnapshotMessage) (c : Config) (_ : c ∈ s.configs) :
      Merges SnapshotMessage.merge? m [.ofMessage 1 (configFields c)] (c.nesting + 1)
        { m with configs := m.configs ++ [configMessage c] } :=
    .message (fun c => { m with configs := m.configs ++ [c] }) (by decide) (config_merges c)
      (by simp [noneForced]) fun _ => rfl
  have configs := Merges.repeated
    (fun (m : SnapshotMessage) more => { m with configs := m.configs ++ more }) s.configs (by simp)
    (by simp) each {}
  have environment (n : Int64) : Merges SnapshotMessage.merge?
      ⟨s.configs.map configMessage, none, none⟩ [.ofMessage 2 (pointerFields n)] 1
      ⟨s.configs.map configMessage, some { environment := n }, none⟩ :=
    .message (fun pointer => SnapshotMessage.mk (s.configs.map configMessage) (some pointer) none)
      (by decide) (pointer_merges n) (by simp [noneForced]) fun _ => rfl
  have environments := Merges.optional (fun n => SnapshotMessage.mk (s.configs.map configMessage)
    (n.map fun environment => { environment }) none) s.environment rfl environment
  have context (c : Context) : Merges SnapshotMessage.merge?
      ⟨s.configs.map configMessage, s.environment.map fun environment => { environment }, none⟩
      [.ofMessage 4 (contextFieldsIn order c)] (c.nesting + 1)
      ⟨s.configs.map configMessage, s.environment.map fun environment => { environment },
        some (groupMessages order c)⟩ :=
    .message (fun groups => SnapshotMessage.mk (s.configs.map configMessage)
      (s.environment.map fun environment => { environment }) (some groups)) (by decide)
      (context_merges order c) (by simp [noneForced]) fun _ => rfl
  have contexts := Merges.optional (fun c => SnapshotMessage.mk (s.configs.map configMessage)
    (s.environment.map fun environment => { environment }) (c.map (groupMessages order)))
    s.defaultContext rfl context
  exact (configs.append environments).append contexts

/-- A criterion with a well-formed target is made of its message again. -/
theorem toCriterion_criterionMessage (c : Criterion)
    (wellFormed : ∀ v, c.target = some v → v.WellFormed) :
    (criterionMessage c).toCriterion = .ok c := by
  obtain ⟨operator, property, target⟩ := c
  cases target with
  | none =>
    simp only [criterionMessage, CriterionMessage.toCriterion, Operator.ofNumber_number]
    rfl
  | some v =>
    simp [criterionMessage, CriterionMessage.toCriterion, Operator.ofNumber_number,
      toValue_valueMessage v (wellFormed v rfl)]

/-- A rule of well-formed values is made of its message again. -/
theorem toRule_ruleMessage (key : String) (r : Rule)
    (wellFormed : ∀ v ∈ r.value :: r.criteria.filterMap Criterion.target, v.WellFormed) :
    (ruleMessage r).toRule key = .ok r := by
  obtain ⟨served, targets⟩ := List.forall_mem_cons.mp wellFormed
  have criteria := Outcome.mapM_map_ok criterionMessage CriterionMessage.toCriterion r.criteria
    fun c member => toCriterion_criterionMessage c fun v target =>
      targets v (List.mem_filterMap.mpr ⟨c, member, target⟩)
  simp only [RuleMessage.toRule, ruleMessage, criteria, toValue_valueMessage r.value served]
  rfl

/-- A row of well-formed rules is made of its message again. -/
theorem toRow_rowMessage (key : String) (r : Row)
    (wellFormed : ∀ rule ∈ r.rules, ∀ v ∈ rule.value :: rule.criteria.filterMap Criterion.target,
      v.WellFormed) : (rowMessage r).toRow key = .ok r := by
  have rules := Outcome.mapM_map_ok ruleMessage (RuleMessage.toRule key) r.rules
    fun rule member => toRule_ruleMessage key rule (wellFormed rule member)
  simp only [RowMessage.toRow, rowMessage, rules]
  rfl

/-- A well-formed config is made of its message again. -/
theorem toConfig_configMessage (c : Config) (wellFormed : c.WellFormed) :
    (configMessage c).toConfig = .ok c := by
  have rows := Outcome.mapM_map_ok rowMessage (RowMessage.toRow c.key) c.rows
    fun row amongRows => toRow_rowMessage c.key row fun rule amongRules v held =>
      wellFormed v (List.mem_flatMap.mpr ⟨row, amongRows, List.mem_flatMap.mpr
        ⟨rule, amongRules, held⟩⟩)
  simp only [ConfigMessage.toConfig, configMessage, rows, Kind.ofNumber_number,
    ValueType.ofNumber_number]
  rfl

/-- Of well-formed configs none is dropped. -/
theorem soundConfigs_configMessage (configs : List Config)
    (wellFormed : ∀ c ∈ configs, c.WellFormed) :
    soundConfigs (configs.map configMessage) = configs := by
  have each (c : Config) (member : c ∈ configs) :
      (configMessage c).toConfig.toOption = some c := by
    rw [toConfig_configMessage c (wellFormed c member)]
    rfl
  rw [soundConfigs, List.filterMap_map]
  exact (List.filterMap_congr each).trans List.filterMap_some

/-- A group of well-formed properties is made of its message again, whatever their order. -/
theorem toGroup_groupMessage (order : Listing) (name : String) (properties : Properties)
    (wellFormed : ∀ (property : String) (v : Value), properties[property]? = some v →
      v.WellFormed) : (groupMessage order name properties).toGroup = (name, properties) := by
  have listed : ((order.properties name properties).map fun (property, v) =>
      (property, valueMessage v)).Perm (properties.map fun _ v => valueMessage v).toList := by
    rw [Std.ExtTreeMap.toList_map]
    exact (order.properties_all name properties).map _
  have latest := KeyedTable.ofList_of_perm _ _ listed
  simp only [GroupMessage.toGroup, groupMessage, latest, Option.getD_some]
  refine congrArg (Prod.mk name) (Std.ExtTreeMap.ext_getElem? fun property => ?_)
  rw [Std.ExtTreeMap.getElem?_filterMap', Std.ExtTreeMap.getElem?_map]
  cases held : properties[property]? with
  | none => rfl
  | some v =>
    simp [toValue_valueMessage v (wellFormed property v held), Except.toOption]

/-- A well-formed context is made of the messages of its groups again, whatever their order. -/
theorem ofGroups_groupMessages (order : Listing) (c : Context) (wellFormed : c.WellFormed) :
    Context.ofGroups ((groupMessages order c).map GroupMessage.toGroup) = c := by
  have each (group : String × Properties) (member : group ∈ order.groups c) :
      (groupMessage order group.1 group.2).toGroup = group := by
    have held := Std.ExtTreeMap.mem_toList_iff_getElem?_eq_some.mp
      ((order.groups_all c).mem_iff.mp member)
    exact toGroup_groupMessage order group.1 group.2 (wellFormed group.1 group.2 held)
  have same : (groupMessages order c).map GroupMessage.toGroup = order.groups c := by
    rw [groupMessages, List.map_map]
    exact (List.map_congr_left each).trans (List.map_id' _)
  rw [same]
  exact KeyedTable.ofList_of_perm c _ (order.groups_all c)

/-- A well-formed snapshot is made of its message again. -/
theorem toSnapshot_snapshotMessage (order : Listing) (s : Snapshot) (wellFormed : s.WellFormed) :
    (snapshotMessage order s).toSnapshot = s := by
  obtain ⟨configs, environment, defaultContext⟩ := s
  have kept := soundConfigs_configMessage configs wellFormed.configs
  have environments : (environment.map fun environment => ({ environment } : PointerMessage)).map
      PointerMessage.environment = environment := by
    cases environment <;> rfl
  have contexts : (defaultContext.map (groupMessages order)).map
      (fun groups => Context.ofGroups (groups.map GroupMessage.toGroup)) = defaultContext := by
    cases defaultContext with
    | none => rfl
    | some context =>
      exact congrArg some (ofGroups_groupMessages order context
        (wellFormed.defaultContext context rfl))
  simp only [SnapshotMessage.toSnapshot, snapshotMessage, kept, environments, contexts]

end Wire

/-- A well-formed snapshot is read back from its bytes, in whatever order its tables were written,
if the reader has levels enough for it, and nothing is read otherwise. -/
theorem Snapshot.decode_encodeIn (order : Listing) (s : Snapshot) (wellFormed : s.WellFormed)
    (short : (s.encodeIn order).length < UInt64.size) :
    decode? (s.encodeIn order) = Wire.within s.nesting Wire.depthLimit s := by
  have read := (Wire.snapshot_merges order s).decode?_writeAll short
  have whole := Wire.toSnapshot_snapshotMessage order s wellFormed
  rw [decode?, encodeIn, read]
  by_cases enough : s.nesting ≤ Wire.depthLimit <;> simp [Wire.within, enough, whole]

namespace Wire

/-- A field that holds a message is as long as the length of the message makes it. -/
theorem length_ofMessage (number : Nat) (fields others : List Field)
    (same : (writeAll fields).length = (writeAll others).length) :
    (Field.ofMessage number fields).write.length =
      (Field.ofMessage number others).write.length := by
  simp only [Field.write, Field.ofMessage, Field.ofBytes, Content.form, Content.write,
    List.length_append, same]

/-- The order in which a group is listed does not change its length. -/
theorem length_groupFieldsIn (order : Listing) (name : String) (properties : Properties) :
    (writeAll (groupFieldsIn order name properties)).length =
      (writeAll (groupFields name properties)).length := by
  have same : (groupFieldsIn order name properties).Perm (groupFields name properties) :=
    ((order.properties_all name properties).map _).cons _
  exact (same.flatMap_right _).length_eq

/-- The orders in which a context is listed do not change its length. -/
theorem length_contextFieldsIn (order : Listing) (c : Context) :
    (writeAll (contextFieldsIn order c)).length = (writeAll (contextFields c)).length := by
  have each (group : String × Properties) :
      (Field.ofMessage 1 (groupFieldsIn order group.1 group.2)).write.length =
        (Field.ofMessage 1 (groupFields group.1 group.2)).write.length :=
    length_ofMessage 1 _ _ (length_groupFieldsIn order group.1 group.2)
  have same : ((order.groups c).map fun (name, properties) =>
      Field.ofMessage 1 (groupFields name properties)).Perm (contextFields c) :=
    (order.groups_all c).map _
  refine Eq.trans ?_ (same.flatMap_right Field.write).length_eq
  simp only [writeAll, contextFieldsIn, List.length_flatMap, List.map_map, Function.comp_def, each]

end Wire

/-- The orders in which tables are listed do not change the length of a snapshot. -/
theorem Snapshot.length_encodeIn (order : Listing) (s : Snapshot) :
    (s.encodeIn order).length = s.encode.length := by
  simp only [encodeIn, encode, Wire.snapshotFieldsIn, Wire.snapshotFields, Wire.writeAll_append,
    List.length_append, Nat.add_left_cancel_iff]
  cases s.defaultContext with
  | none => rfl
  | some context =>
    simpa [Wire.optional, Wire.writeAll] using
      Wire.length_ofMessage 4 _ _ (Wire.length_contextFieldsIn order context)

/-- A well-formed snapshot whose messages nest no deeper than the reader goes is read back. -/
theorem Snapshot.decode_shallow (s : Snapshot) (wellFormed : s.WellFormed)
    (short : s.encode.length < UInt64.size) (nested : s.nesting ≤ Wire.depthLimit) :
    decode? s.encode = some s := by
  rw [← encodeIn_ascending] at short ⊢
  exact (decode_encodeIn .ascending s wellFormed short).trans (if_pos nested)

/-- A well-formed snapshot whose messages nest no deeper than the reader goes is read back from its
bytes, whatever the order in which its tables were written: the same configs in the same order, the
same environment and the same default context. One whose messages nest deeper is not read at all.
The lengths on the wire have 64 bits, which is more than any byte string in memory needs. -/
theorem Snapshot.decode_encode_within (s : Snapshot) (wellFormed : s.WellFormed)
    (short : s.encode.length < UInt64.size) :
    decode? s.encode = (if s.nesting ≤ Wire.depthLimit then some s else none) ∧
      ∀ order, decode? (s.encodeIn order) =
        if s.nesting ≤ Wire.depthLimit then some s else none := by
  have every (order : Listing) :
      decode? (s.encodeIn order) = Wire.within s.nesting Wire.depthLimit s :=
    decode_encodeIn order s wellFormed (by rwa [length_encodeIn])
  exact ⟨every .ascending, every⟩

/-- A rule with what is easily lost: a text and a property name that are empty, a weight that is
zero, a negative number, a split in a split, and marks. -/
def Rule.delicate : Rule where
  criteria := [{ operator := .isOneOf, property := "user.plan",
                 target := some { payload := .texts [""] } }]
  value := { payload := .split { hashBy := some "", arms :=
    [⟨0, { payload := .split { arms := [⟨3, { payload := .int (-7) }⟩] } }⟩,
      ⟨5, { payload := .text "", confidential := true, decryptWith := some "seal" }⟩] } }

/-- A snapshot with what is easily lost: a config that is there twice, environments that are zero, a
group that is empty, the sign of a zero, and all bits of what is no number. -/
def Snapshot.delicate : Snapshot where
  configs :=
    [{ id := 2, key := "rate", kind := .featureFlag,
       rows := [{ environment := some 0, rules := [.delicate] }] },
      { key := "gone" }, { key := "gone" }]
  environment := some 0
  defaultContext := some <| .ofGroups
    [("", ∅), ("user", .ofPairs [("", { payload := .double ⟨0x8000000000000000⟩ }),
      ("limit", { payload := .double ⟨0xfff0000000000001⟩ })])]

/-- Nothing of it is lost. -/
theorem Snapshot.delicate_decodes : delicate.WellFormed ∧ delicate.encode.length < UInt64.size ∧
    decode? delicate.encode = some delicate := by
  have wellFormed : delicate.WellFormed := by decide +kernel
  have short : delicate.encode.length < UInt64.size := by decide +kernel
  have nested : delicate.nesting ≤ Wire.depthLimit := by decide +kernel
  have read := (decode_encode_within delicate wellFormed short).1
  exact ⟨wellFormed, short, read.trans (if_pos nested)⟩

end LiveConfig
