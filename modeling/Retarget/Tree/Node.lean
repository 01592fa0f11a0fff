import Retarget.Tree.Attribute

/-! Nodes: a kind over nodes, and a semantic type. `Node.fold` is structural recursion over whole
trees, written once; every pass over a tree goes through it. `fold_eq` states its one equation, and
`Node.induct` is the matching induction principle over the children of a node. -/
namespace Retarget

/-- A node of a program tree. -/
@[ext]
structure Node where
  kind : Kind Node
  type : SemType

namespace Node

variable {β : Type}

mutual
/-- Structural recursion: `visit` sees each child beside the result for that child. -/
def fold (visit : Kind (Node × β) → SemType → β) : Node → β
  | ⟨kind, type⟩ => visit (foldKind visit kind) type
def foldKind (visit : Kind (Node × β) → SemType → β) : Kind Node → Kind (Node × β)
  | .module definitions dependencies constants customExceptions main =>
    .module (foldList visit definitions) (foldList visit dependencies) (foldList visit constants)
      (foldList visit customExceptions) (foldList visit main)
  | .dependency name => .dependency name
  | .constant name init => .constant name (init, init.fold visit)
  | .customException name base => .customException name base
  | .functionDefinition name params returnType body =>
    .functionDefinition name (foldList visit params) returnType (foldList visit body)
  | .methodDefinition name params receiver returnType isPublic body =>
    .methodDefinition name (foldList visit params) (receiver, receiver.fold visit) returnType
      isPublic (foldList visit body)
  | .constructor params receiver body =>
    .constructor (foldList visit params) (receiver, receiver.fold visit) (foldList visit body)
  | .classDefinition name base attrs initializer methods =>
    .classDefinition name base (foldList visit attrs) (foldOption visit initializer)
      (foldList visit methods)
  | .classAttr name isPublic => .classAttr name isPublic
  | .anonymousFunction params returnType body =>
    .anonymousFunction (foldList visit params) returnType (foldList visit body)
  | .assignment target value firstMention =>
    .assignment (target, target.fold visit) (value, value.fold visit) firstMention
  | .indexAssignment sequence subscript value =>
    .indexAssignment (sequence, sequence.fold visit) (subscript, subscript.fold visit)
      (value, value.fold visit)
  | .ifStatement test body otherwise =>
    .ifStatement (test, test.fold visit) (foldList visit body) (foldOption visit otherwise)
  | .elseIfStatement test body otherwise =>
    .elseIfStatement (test, test.fold visit) (foldList visit body) (foldOption visit otherwise)
  | .elseStatement body => .elseStatement (foldList visit body)
  | .whileStatement test body => .whileStatement (test, test.fold visit) (foldList visit body)
  | .forStatement iterators sequences body =>
    .forStatement (iterators, iterators.fold visit) (sequences, sequences.fold visit)
      (foldList visit body)
  | .forRangeStatement counter first last step body =>
    .forRangeStatement (counter, counter.fold visit) (foldOption visit first)
      (last, last.fold visit) (foldOption visit step) (foldList visit body)
  | .forIterator iterator => .forIterator (iterator, iterator.fold visit)
  | .forIteratorWithIndex counter iterator =>
    .forIteratorWithIndex (counter, counter.fold visit) (iterator, iterator.fold visit)
  | .forIteratorWithItems key value =>
    .forIteratorWithItems (key, key.fold visit) (value, value.fold visit)
  | .forIteratorZip iterators => .forIteratorZip (foldList visit iterators)
  | .forSequence sequence => .forSequence (sequence, sequence.fold visit)
  | .forSequenceWithIndex sequence => .forSequenceWithIndex (sequence, sequence.fold visit)
  | .forSequenceWithItems sequence => .forSequenceWithItems (sequence, sequence.fold visit)
  | .forSequenceZip sequences => .forSequenceZip (foldList visit sequences)
  | .tryStatement body handlers => .tryStatement (foldList visit body) (foldList visit handlers)
  | .exceptionHandler exception caught isBuiltin body =>
    .exceptionHandler exception caught isBuiltin (foldList visit body)
  | .throwStatement exception value => .throwStatement exception (value, value.fold visit)
  | .implicitReturn value => .implicitReturn (value, value.fold visit)
  | .explicitReturn value => .explicitReturn (value, value.fold visit)
  | .block body => .block (foldList visit body)
  | .int value => .int value
  | .float value => .float value
  | .string value => .string value
  | .boolean value => .boolean value
  | .null => .null
  | .regex value => .regex value
  | .list elements => .list (foldList visit elements)
  | .dictionary pairs => .dictionary (foldList visit pairs)
  | .pair key value => .pair (key, key.fold visit) (value, value.fold visit)
  | .set elements => .set (foldList visit elements)
  | .tuple elements => .tuple (foldList visit elements)
  | .array elements => .array (foldList visit elements)
  | .localVar name => .localVar name
  | .typename name => .typename name
  | .instanceVariable name => .instanceVariable name
  | .this => .this
  | .attr object member => .attr (object, object.fold visit) member
  | .index sequence subscript =>
    .index (sequence, sequence.fold visit) (subscript, subscript.fold visit)
  | .call function args => .call (function, function.fold visit) (foldList visit args)
  | .methodCall receiver message args =>
    .methodCall (receiver, receiver.fold visit) message (foldList visit args)
  | .staticCall receiver message args =>
    .staticCall (receiver, receiver.fold visit) message (foldList visit args)
  | .standardCall library function args => .standardCall library function (foldList visit args)
  | .standardMethodCall receiver message args =>
    .standardMethodCall (receiver, receiver.fold visit) message (foldList visit args)
  | .newInstance className args =>
    .newInstance (className, className.fold visit) (foldList visit args)
  | .binaryOp op left right => .binaryOp op (left, left.fold visit) (right, right.fold visit)
  | .unaryOp op value => .unaryOp op (value, value.fold visit)
  | .comparison op left right => .comparison op (left, left.fold visit) (right, right.fold visit)
def foldList (visit : Kind (Node × β) → SemType → β) : List Node → List (Node × β)
  | [] => []
  | child :: rest => (child, child.fold visit) :: foldList visit rest
def foldOption (visit : Kind (Node × β) → SemType → β) : Option Node → Option (Node × β)
  | none => none
  | some child => some (child, child.fold visit)
end

theorem foldList_eq (visit : Kind (Node × β) → SemType → β) (children : List Node) :
    foldList visit children = children.map fun child => (child, child.fold visit) := by
  induction children with
  | nil => rfl
  | cons child rest ih => simp [foldList, ih]

theorem foldOption_eq (visit : Kind (Node × β) → SemType → β) (child : Option Node) :
    foldOption visit child = child.map fun child => (child, child.fold visit) := by
  cases child <;> rfl

theorem foldKind_eq (visit : Kind (Node × β) → SemType → β) (kind : Kind Node) :
    foldKind visit kind = kind.map fun child => (child, child.fold visit) := by
  cases kind <;> simp [foldKind, Kind.map, foldList_eq, foldOption_eq]

theorem fold_eq (visit : Kind (Node × β) → SemType → β) (node : Node) :
    node.fold visit = visit (node.kind.map fun child => (child, child.fold visit)) node.type := by
  cases node
  rw [fold, foldKind_eq]

def tag (node : Node) : Tag := node.kind.tag

/-- Direct children in source order. -/
def children (node : Node) : List Node := node.kind.children

theorem sizeOf_lt_of_mem_children {child node : Node} (h : child ∈ node.children) :
    sizeOf child < sizeOf node := by
  have inList (children : List Node) (h : child ∈ children) : sizeOf child < sizeOf children :=
    List.sizeOf_lt_of_mem h
  have inOption (o : Option Node) (h : child ∈ o.toList) : sizeOf child < sizeOf o := by
    cases o with
    | none => simp at h
    | some other => simp at h; subst h; simp
  obtain ⟨kind, type⟩ := node
  cases kind <;> simp [children, Kind.children, -Option.mem_toList] at h ⊢ <;> grind

/-- Induction over trees: a property that passes from the children of a node to the node. -/
theorem induct {P : Node → Prop} (h : ∀ node, (∀ child ∈ node.children, P child) → P node)
    (node : Node) : P node :=
  h node fun child mem =>
    have := sizeOf_lt_of_mem_children mem
    induct h child
termination_by sizeOf node

/-- The node itself, then its descendants, parents before children and siblings in order. -/
def walk : Node → List Node :=
  fold fun kind type => ⟨kind.map (·.1), type⟩ :: kind.children.flatMap (·.2)

theorem walk_eq (node : Node) : node.walk = node :: node.children.flatMap walk := by
  obtain ⟨kind, type⟩ := node
  simp [walk, fold_eq _ (Node.mk kind type), Kind.children_map, children, List.flatMap_map]

theorem forall_mem_walk {P : Node → Prop} (node : Node) :
    (∀ inner ∈ node.walk, P inner) ↔ P node ∧ ∀ child ∈ node.children, ∀ inner ∈ child.walk, P inner := by
  rw [walk_eq, List.forall_mem_cons, List.forall_mem_flatMap]

/-- The number of nodes in the tree. -/
def size : Node → Nat :=
  fold fun kind _ => kind.children.foldr (fun child total => child.2 + total) 1

theorem size_eq (node : Node) :
    node.size = node.children.foldr (fun child total => child.size + total) 1 := by
  simp [size, fold_eq _ node, Kind.children_map, children, List.foldr_map]

/-- The content of the attribute of a name, none if the tag has no such attribute. Every node
answers `pseudo_type` with its type. -/
def attr? (node : Node) (name : String) : Option (Field Node) :=
  if name = "pseudo_type" then some (.type node.type) else node.kind.field? name

theorem attr?_eq (node : Node) (name : String) :
    node.attr? name =
      if name = "pseudo_type" then some (.type node.type) else node.kind.fields.lookup name := by
  rw [attr?, Kind.field?_eq_lookup]

/-- Structural equality, literals compared as numbers. -/
def agrees : Node → Node → Bool :=
  fold fun kind type other =>
    kind.tag == other.tag && type == other.type &&
      (kind.values.zip other.kind.values).all fun (field, other) =>
        Field.agrees (fun child other => child.2 other) field other

end Node
end Retarget
