import Mathlib.Algebra.BigOperators.Group.Finset.Basic
import Mathlib.Algebra.Group.Action.Defs
import Retarget.Proofs.Insertions

/-! Insertions count the children of a node by their weights: name by name where a template inserts attributes only,
and one by one for modules, loops and library calls. -/
namespace Retarget
namespace CSharp

/-- A sum over values, added up name by name. -/
theorem sum_map_eq_sum_count (values names : List String) (distinct : names.Nodup) (f : String → Nat)
    (elsewhere : ∀ name, name ∉ names → f name = 0) :
    (values.map f).sum = (names.map fun name => values.count name * f name).sum := by
  have all : values.toFinset ⊆ values.toFinset ∪ names.toFinset := Finset.subset_union_left
  have listed : names.toFinset ⊆ values.toFinset ∪ names.toFinset := Finset.subset_union_right
  rw [Finset.sum_list_map_count, ← List.sum_toFinset _ distinct, Finset.sum_subset all, Finset.sum_subset listed]
  · simp only [smul_eq_mul]
  · intro name _ other
    rw [elsewhere name (by simpa using other), Nat.mul_zero]
  · intro name _ other
    rw [List.count_eq_zero_of_not_mem (by simpa using other), zero_nsmul]

theorem exists_names (inserted : List Insertion) (attributes : inserted.all isAttribute = true) :
    ∃ names : List String, inserted = names.map fun name => Insertion.attribute ⟨name, []⟩ := by
  induction inserted with
  | nil => exact ⟨[], rfl⟩
  | cons first rest ih =>
    rw [List.all_cons, Bool.and_eq_true] at attributes
    obtain ⟨names, rfl⟩ := ih attributes.2
    cases first with
    | «attribute» path =>
      obtain ⟨name, deeper⟩ := path
      obtain rfl : deeper = [] := List.isEmpty_iff.mp attributes.1
      exact ⟨name :: names, rfl⟩
    | _ => cases attributes.1

section Sums

variable (library : Library) (f : Node → Nat) (node : Node)

theorem mem_childNames (tag : Tag) (name : String) (shape : Shape) (known : tag.shapeOf? name = some shape)
    (holds : shape.holdsNodes = true) : name ∈ childNames tag := by
  rw [Tag.shapeOf?] at known
  split at known
  · cases known
    cases holds
  · obtain ⟨before, after, slots, _⟩ := List.lookup_eq_some_iff.mp known
    have listed : (name, shape) ∈ tag.layout.map fun slot => (slot.name, slot.shape) := by
      rw [slots]
      exact List.mem_append_right _ List.mem_cons_self
    obtain ⟨slot, member, same⟩ := List.mem_map.mp listed
    cases same
    exact List.mem_map_of_mem (List.mem_filter.mpr ⟨member, holds⟩)

theorem countAt_eq_zero (name : String) (other : name ∉ childNames node.tag) : countAt f node ⟨name, []⟩ = 0 := by
  rw [countAt, node.membersAt_eq_nil name]
  · rfl
  · rw [Option.all_eq_true]
    intro shape known
    rw [Bool.not_eq_true', ← Bool.not_eq_true]
    exact fun holds => other (mem_childNames node.tag name shape known holds)

theorem nodup_childNames (tag : Tag) : (childNames tag).Nodup := by
  have all : ∀ tag ∈ Tag.all, (childNames tag).Nodup := by decide
  exact all tag tag.mem_all

/-- Attributes with children that are inserted as often as they are to be repeated. -/
theorem sum_attributes (inserted : List Insertion) (attributes : inserted.all isAttribute = true)
    (repeated : ((childNames node.tag).all fun name =>
      inserted.count (.attribute ⟨name, []⟩) == repeats node.tag name) = true) :
    (inserted.map (Insertion.count library f node)).sum =
      ((childNames node.tag).map fun name => repeats node.tag name * countAt f node ⟨name, []⟩).sum := by
  obtain ⟨names, rfl⟩ := exists_names inserted attributes
  rw [List.map_map]
  refine (sum_map_eq_sum_count names _ (nodup_childNames node.tag) _ (countAt_eq_zero f node)).trans ?_
  refine congrArg List.sum (List.map_congr_left fun name listed => ?_)
  have often := beq_iff_eq.mp (List.all_eq_true.mp repeated name listed)
  have injective : Function.Injective fun name : String => Insertion.attribute ⟨name, []⟩ :=
    fun first second same => by simpa using same
  rw [← often, List.count_map_of_injective names _ injective]

/-- Children with one weight. -/
theorem sum_zipWith_replicate (weight size : Nat) (values : List Nat) (length : values.length = size) :
    (List.zipWith (· * ·) (List.replicate size weight) values).sum = weight * values.sum := by
  subst length
  induction values with
  | nil => rfl
  | cons value rest ih =>
    rw [List.length_cons, List.replicate_succ, List.zipWith_cons_cons, List.sum_cons, ih, List.sum_cons, Nat.mul_add]

theorem members_node (child : Node) : (Field.node child).members = [child] := rfl

theorem members_nodes (children : List Node) : (Field.nodes children).members = children := rfl

/-- The children of a node under the names of their attributes. -/
theorem sum_childNames (plain : insertsAttributes node.tag = true) :
    ((childNames node.tag).map fun name => repeats node.tag name * countAt f node ⟨name, []⟩).sum =
      weigh library f node := by
  obtain ⟨kind, type⟩ := node
  cases kind
  case module | forStatement | forIteratorWithIndex | forIteratorWithItems | forIteratorZip | forSequenceWithIndex |
      forSequenceWithItems | forSequenceZip | standardCall | standardMethodCall => cases plain
  all_goals
    simp [childNames, Tag.layout, Node.tag, Kind.tag, Shape.holdsNodes, repeats, countAt, Node.membersAt_single,
      Node.attr?_eq, Kind.fields, Tag.fieldNames, Kind.values, List.lookup_cons, weigh, weights, Node.children,
      Kind.children, members_node, members_nodes, Field.members_ofNode?, sum_zipWith_replicate, List.zipWith_append]
/-- Classes and functions are written, other definitions are not. -/
theorem sum_definitions (definitions : List Node) :
    (List.zipWith (· * ·) (definitions.map fun definition =>
      if definition.tag = .classDefinition ∨ definition.tag = .functionDefinition then 1 else 0)
        (definitions.map f)).sum =
      ((definitions.filter (·.tag == .classDefinition)).map f).sum +
        ((definitions.filter (·.tag == .functionDefinition)).map f).sum := by
  induction definitions with
  | nil => rfl
  | cons definition rest ih =>
    simp only [List.map_cons, List.zipWith_cons_cons, List.sum_cons, ih, List.filter_cons]
    by_cases isClass : definition.tag = .classDefinition
    · simp [isClass, Nat.add_assoc]
    · by_cases isFunction : definition.tag = .functionDefinition
      · simp [isFunction, Nat.add_left_comm]
      · simp [isClass, isFunction]

theorem weigh_module (definitions dependencies constants customExceptions main : List Node) (type : SemType) :
    weigh library f ⟨.module definitions dependencies constants customExceptions main, type⟩ =
      (dependencies.map f).sum + (customExceptions.map f).sum + (constants.map f).sum +
        (((definitions.filter (·.tag == .classDefinition)).map f).sum +
          ((definitions.filter (·.tag == .functionDefinition)).map f).sum) + (main.map f).sum := by
  have children : (Node.mk (.module definitions dependencies constants customExceptions main) type).children.map f =
      (dependencies ++ customExceptions ++ constants).map f ++ definitions.map f ++ main.map f := by
    simp [Node.children, Kind.children]
  rw [weigh, children, weights, List.zipWith_append (by simp [Nat.add_assoc]), List.zipWith_append (by simp), List.sum_append,
    List.sum_append, sum_definitions]
  simp [sum_zipWith_replicate, Nat.add_assoc]

/-- A template that inserts the children of its node counts them by their weights. -/
theorem countIn_eq_weigh (template : Template) (inserts : insertsChildren node.tag (insertions template) = true) :
    countIn library f node template = weigh library f node := by
  rw [countIn]
  by_cases plain : insertsAttributes node.tag = true
  · rw [insertsChildren] at inserts
    · simp only [Bool.and_eq_true] at inserts
      exact (sum_attributes library f node _ inserts.1.2 inserts.2).trans (sum_childNames library f node plain)
    all_goals
      intro same
      rw [same] at plain
      cases plain
  · obtain ⟨kind, type⟩ := node
    cases kind
    case module definitions dependencies constants customExceptions main =>
      rw [beq_iff_eq.mp inserts, weigh_module]
      simp [Insertion.count, countAt, Node.membersAt_single, Node.attr?_eq, Kind.fields, Kind.tag, Tag.fieldNames,
        Tag.layout, Kind.values, List.lookup_cons, members_nodes]
      omega
    case standardCall space function args =>
      rw [beq_iff_eq.mp inserts]
      simp [Insertion.count, countAt, Node.membersAt_single, Node.attr?_eq, Kind.fields, Kind.tag, Tag.fieldNames,
        Tag.layout, Kind.values, List.lookup_cons, members_nodes, weigh, weights, Node.children, Kind.children,
        sum_zipWith_replicate]
    case standardMethodCall receiver message args =>
      rw [beq_iff_eq.mp inserts]
      simp [Insertion.count, countAt, Node.membersAt_single, Node.attr?_eq, Kind.fields, Kind.tag, Tag.fieldNames,
        Tag.layout, Kind.values, List.lookup_cons, members_nodes, members_node, weigh, weights, Node.children,
        Kind.children, sum_zipWith_replicate]
    all_goals first | exact absurd rfl plain | cases inserts

theorem countAt_child (name : String) (child : Node) (stored : node.attr? name = some (.node child)) :
    countAt f node ⟨name, []⟩ = f child := by
  rw [countAt, Node.membersAt_single, stored]
  exact Nat.add_zero _

theorem countAt_nodes (name : String) (nodes : List Node) (stored : node.attr? name = some (.nodes nodes)) :
    countAt f node ⟨name, []⟩ = (nodes.map f).sum := by
  rw [countAt, Node.membersAt_single, stored]
  rfl

section Loops

variable (iterators sequences : Node) (body : List Node) (type : SemType)

theorem countAt_iterators (name : String) :
    countAt f ⟨.forStatement iterators sequences body, type⟩ ⟨"iterators", [name]⟩ = countAt f iterators ⟨name, []⟩ :=
  rfl

theorem countAt_sequences (name : String) :
    countAt f ⟨.forStatement iterators sequences body, type⟩ ⟨"sequences", [name]⟩ = countAt f sequences ⟨name, []⟩ :=
  rfl

theorem weigh_loop : weigh library f ⟨.forStatement iterators sequences body, type⟩ =
    f iterators + (f sequences + (body.map f).sum) := by
  simp [weigh, weights, Node.children, Kind.children, sum_zipWith_replicate]

theorem zipParts_eq (iterator sequence : Node) (iterators sequences : List Node) (iteratorType sequenceType : SemType)
    (same : iterators.length = sequences.length) :
    zipParts ⟨.forStatement ⟨.forIteratorZip (iterator :: iterators), iteratorType⟩
      ⟨.forSequenceZip (sequence :: sequences), sequenceType⟩ body, type⟩ =
        .ok ⟨iterator, iterators, sequence, sequences⟩ := if_pos same

/-- A loop counts its parts by their weights, and what is in these by theirs. -/
theorem sum_loopInsertions (together : Node.Together iterators sequences)
    (iterated : f iterators = weigh library f iterators) (walked : f sequences = weigh library f sequences) :
    ((loopInsertions iterators.tag).map
      (Insertion.count library f ⟨.forStatement iterators sequences body, type⟩)).sum =
        weigh library f ⟨.forStatement iterators sequences body, type⟩ := by
  have inBody := countAt_nodes f ⟨.forStatement iterators sequences body, type⟩ "block" body rfl
  rw [weigh_loop]
  obtain ⟨iteratorKind, iteratorType⟩ := iterators
  obtain ⟨sequenceKind, sequenceType⟩ := sequences
  have parts := together.lookup_tag
  have sizes := together.2
  cases iteratorKind
  case forIterator iterator =>
    have inIterators := countAt_child f ⟨.forStatement ⟨.forIterator iterator, iteratorType⟩
      ⟨sequenceKind, sequenceType⟩ body, type⟩ "iterators" _ rfl
    have inSequences := countAt_child f ⟨.forStatement ⟨.forIterator iterator, iteratorType⟩
      ⟨sequenceKind, sequenceType⟩ body, type⟩ "sequences" _ rfl
    simp [loopInsertions, Node.tag, Kind.tag, Insertion.count, inIterators, inSequences, inBody]
  case forIteratorWithIndex counter iterator =>
    cases sequenceKind
    case forSequenceWithIndex sequence =>
      have counters := countAt_child f ⟨.forIteratorWithIndex counter iterator, iteratorType⟩ "index" counter rfl
      have iterates := countAt_child f ⟨.forIteratorWithIndex counter iterator, iteratorType⟩ "iterator" iterator rfl
      have walks := countAt_child f ⟨.forSequenceWithIndex sequence, sequenceType⟩ "sequence" sequence rfl
      rw [iterated, walked]
      simp [loopInsertions, Node.tag, Kind.tag, Insertion.count, countAt_iterators, countAt_sequences, counters,
        iterates, walks, inBody, weigh, weights, Node.children, Kind.children]
      omega
    all_goals cases parts
  case forIteratorWithItems key value =>
    cases sequenceKind
    case forSequenceWithItems sequence =>
      have keys := countAt_child f ⟨.forIteratorWithItems key value, iteratorType⟩ "key" key rfl
      have values := countAt_child f ⟨.forIteratorWithItems key value, iteratorType⟩ "value" value rfl
      have walks := countAt_child f ⟨.forSequenceWithItems sequence, sequenceType⟩ "sequence" sequence rfl
      rw [iterated, walked]
      simp [loopInsertions, Node.tag, Kind.tag, Insertion.count, countAt_iterators, countAt_sequences, keys, values,
        walks, inBody, weigh, weights, Node.children, Kind.children]
      omega
    all_goals cases parts
  case forIteratorZip iterators =>
    cases sequenceKind
    case forSequenceZip sequences =>
      obtain ⟨length, positive⟩ := sizes rfl
      cases iterators with
      | nil => cases positive
      | cons iterator iterators =>
        cases sequences with
        | nil => cases length
        | cons sequence sequences =>
          have split := zipParts_eq body type iterator sequence iterators sequences iteratorType sequenceType
            (Nat.succ.inj length)
          rw [iterated, walked]
          simp [loopInsertions, Node.tag, Kind.tag, Insertion.count, split, inBody, weigh, weights, Node.children,
            Kind.children, sum_zipWith_replicate, Nat.add_mul]
          omega
    all_goals cases parts
  all_goals cases parts

end Loops

theorem insertion?_of_writes (name : String) (segment : Segment) (writes : segment.writes name = true) :
    insertion? segment = some (.attribute ⟨name, []⟩) := by
  cases segment with
  | text => cases writes
  | directive directive =>
    cases directive with
    | placeholder path | join path mode => exact congrArg (some ∘ Insertion.attribute) (beq_iff_eq.mp writes)
    | _ => cases writes

theorem not_writes_of_ne (name other : String) (distinct : name ≠ other) (segment : Segment)
    (writes : segment.writes name = true) : ¬segment.writes other = true := by
  intro also
  have same := (insertion?_of_writes name segment writes).symm.trans (insertion?_of_writes other segment also)
  simp only [Option.some.injEq, Insertion.attribute.injEq, Path.mk.injEq] at same
  exact distinct same.1

/-- A template of a library call counts the operands as often as it writes them. -/
theorem countIn_of_insertsOperands (template : Template) (operands : insertsOperands template = true) :
    countIn library f node template =
      template.writes "receiver" * countAt f node ⟨"receiver", []⟩ +
        template.writes "args" * countAt f node ⟨"args", []⟩ := by
  rw [countIn, insertions, Template.writes, Template.writes]
  rw [insertsOperands] at operands
  generalize template.lines.flatMap Line.segments = segments at operands
  induction segments with
  | nil => simp
  | cons segment rest ih =>
    rw [List.all_cons, Bool.and_eq_true, Bool.or_eq_true, Bool.or_eq_true] at operands
    have rest := ih operands.2
    rcases operands.1 with (receiver | args) | text
    · have other := not_writes_of_ne "receiver" "args" (by decide) segment receiver
      rw [List.filterMap_cons_some (insertion?_of_writes "receiver" segment receiver), List.countP_cons_of_pos receiver,
        List.countP_cons_of_neg other, List.map_cons, List.sum_cons, rest, Insertion.count, Nat.add_mul]
      omega
    · have other := not_writes_of_ne "args" "receiver" (by decide) segment args
      rw [List.filterMap_cons_some (insertion?_of_writes "args" segment args), List.countP_cons_of_pos args,
        List.countP_cons_of_neg other, List.map_cons, List.sum_cons, rest, Insertion.count, Nat.add_mul]
      omega
    · cases segment with
      | text value => exact rest
      | directive directive => cases text

end Sums
end CSharp
end Retarget
