import Retarget.Tree.Tag
import Retarget.Tree.Field

/-! Kinds: a tag together with exactly the fields that the tag uses. The type is a functor in its
children, so that a kind of nodes, of results for nodes, or of nodes beside results is written
once. `values` lists the fields of a kind in declaration order and `ofValues?` reads such a list
back; `children`, `map` and `traverse` all go through the children in source order. -/
namespace Retarget

/-- A node's tag and fields, over children of type `α`. -/
inductive Kind (α : Type) where
  | module (definitions dependencies constants customExceptions main : List α)
  | dependency (name : String)
  | constant (name : String) (init : α)
  | customException (name : String) (base : Option String)
  | functionDefinition (name : String) (params : List α) (returnType : SemType) (body : List α)
  | methodDefinition (name : String) (params : List α) (receiver : α) (returnType : SemType)
      (isPublic : Bool) (body : List α)
  | constructor (params : List α) (receiver : α) (body : List α)
  | classDefinition (name : String) (base : Option String) (attrs : List α)
      (initializer : Option α) (methods : List α)
  | classAttr (name : String) (isPublic : Bool)
  | anonymousFunction (params : List α) (returnType : SemType) (body : List α)
  | assignment (target value : α) (firstMention : Bool)
  | indexAssignment (sequence subscript value : α)
  | ifStatement (test : α) (body : List α) (otherwise : Option α)
  | elseIfStatement (test : α) (body : List α) (otherwise : Option α)
  | elseStatement (body : List α)
  | whileStatement (test : α) (body : List α)
  | forStatement (iterators sequences : α) (body : List α)
  | forRangeStatement (counter : α) (first : Option α) (last : α) (step : Option α)
      (body : List α)
  | forIterator (iterator : α)
  | forIteratorWithIndex (counter iterator : α)
  | forIteratorWithItems (key value : α)
  | forIteratorZip (iterators : List α)
  | forSequence (sequence : α)
  | forSequenceWithIndex (sequence : α)
  | forSequenceWithItems (sequence : α)
  | forSequenceZip (sequences : List α)
  | tryStatement (body handlers : List α)
  | exceptionHandler (exception : Option String) (caught : String) (isBuiltin : Bool)
      (body : List α)
  | throwStatement (exception : String) (value : α)
  | implicitReturn (value : α)
  | explicitReturn (value : α)
  | block (body : List α)
  | int (value : Int)
  | float (value : Float)
  | string (value : String)
  | boolean (value : Bool)
  | null
  | regex (value : String)
  | list (elements : List α)
  | dictionary (pairs : List α)
  | pair (key value : α)
  | set (elements : List α)
  | tuple (elements : List α)
  | array (elements : List α)
  | localVar (name : String)
  | typename (name : String)
  | instanceVariable (name : String)
  | this
  | attr (object : α) (member : String)
  | index (sequence subscript : α)
  | call (function : α) (args : List α)
  | methodCall (receiver : α) (message : String) (args : List α)
  | staticCall (receiver : α) (message : String) (args : List α)
  | standardCall (library function : String) (args : List α)
  | standardMethodCall (receiver : α) (message : String) (args : List α)
  | newInstance (className : α) (args : List α)
  | binaryOp (op : String) (left right : α)
  | unaryOp (op : String) (value : α)
  | comparison (op : String) (left right : α)

namespace Kind

def tag : Kind α → Tag
  | .module .. => .module
  | .dependency .. => .dependency
  | .constant .. => .constant
  | .customException .. => .customException
  | .functionDefinition .. => .functionDefinition
  | .methodDefinition .. => .methodDefinition
  | .constructor .. => .constructor
  | .classDefinition .. => .classDefinition
  | .classAttr .. => .classAttr
  | .anonymousFunction .. => .anonymousFunction
  | .assignment .. => .assignment
  | .indexAssignment .. => .indexAssignment
  | .ifStatement .. => .ifStatement
  | .elseIfStatement .. => .elseIfStatement
  | .elseStatement .. => .elseStatement
  | .whileStatement .. => .whileStatement
  | .forStatement .. => .forStatement
  | .forRangeStatement .. => .forRangeStatement
  | .forIterator .. => .forIterator
  | .forIteratorWithIndex .. => .forIteratorWithIndex
  | .forIteratorWithItems .. => .forIteratorWithItems
  | .forIteratorZip .. => .forIteratorZip
  | .forSequence .. => .forSequence
  | .forSequenceWithIndex .. => .forSequenceWithIndex
  | .forSequenceWithItems .. => .forSequenceWithItems
  | .forSequenceZip .. => .forSequenceZip
  | .tryStatement .. => .tryStatement
  | .exceptionHandler .. => .exceptionHandler
  | .throwStatement .. => .throwStatement
  | .implicitReturn .. => .implicitReturn
  | .explicitReturn .. => .explicitReturn
  | .block .. => .block
  | .int .. => .int
  | .float .. => .float
  | .string .. => .string
  | .boolean .. => .boolean
  | .null => .null
  | .regex .. => .regex
  | .list .. => .list
  | .dictionary .. => .dictionary
  | .pair .. => .pair
  | .set .. => .set
  | .tuple .. => .tuple
  | .array .. => .array
  | .localVar .. => .localVar
  | .typename .. => .typename
  | .instanceVariable .. => .instanceVariable
  | .this => .this
  | .attr .. => .attr
  | .index .. => .index
  | .call .. => .call
  | .methodCall .. => .methodCall
  | .staticCall .. => .staticCall
  | .standardCall .. => .standardCall
  | .standardMethodCall .. => .standardMethodCall
  | .newInstance .. => .newInstance
  | .binaryOp .. => .binaryOp
  | .unaryOp .. => .unaryOp
  | .comparison .. => .comparison

/-- The fields of a kind in declaration order. -/
def values : Kind α → List (Field α)
  | .module definitions dependencies constants customExceptions main =>
    [.nodes definitions, .nodes dependencies, .nodes constants, .nodes customExceptions,
      .nodes main]
  | .dependency name => [.text name]
  | .constant name init => [.text name, .node init]
  | .customException name base => [.text name, .ofText? base]
  | .functionDefinition name params returnType body =>
    [.text name, .nodes params, .type returnType, .nodes body]
  | .methodDefinition name params receiver returnType isPublic body =>
    [.text name, .nodes params, .node receiver, .type returnType, .bool isPublic, .nodes body]
  | .constructor params receiver body => [.nodes params, .node receiver, .nodes body]
  | .classDefinition name base attrs initializer methods =>
    [.text name, .ofText? base, .nodes attrs, .ofNode? initializer, .nodes methods]
  | .classAttr name isPublic => [.text name, .bool isPublic]
  | .anonymousFunction params returnType body => [.nodes params, .type returnType, .nodes body]
  | .assignment target value firstMention => [.node target, .node value, .bool firstMention]
  | .indexAssignment sequence subscript value => [.node sequence, .node subscript, .node value]
  | .ifStatement test body otherwise => [.node test, .nodes body, .ofNode? otherwise]
  | .elseIfStatement test body otherwise => [.node test, .nodes body, .ofNode? otherwise]
  | .elseStatement body => [.nodes body]
  | .whileStatement test body => [.node test, .nodes body]
  | .forStatement iterators sequences body => [.node iterators, .node sequences, .nodes body]
  | .forRangeStatement counter first last step body =>
    [.node counter, .ofNode? first, .node last, .ofNode? step, .nodes body]
  | .forIterator iterator => [.node iterator]
  | .forIteratorWithIndex counter iterator => [.node counter, .node iterator]
  | .forIteratorWithItems key value => [.node key, .node value]
  | .forIteratorZip iterators => [.nodes iterators]
  | .forSequence sequence => [.node sequence]
  | .forSequenceWithIndex sequence => [.node sequence]
  | .forSequenceWithItems sequence => [.node sequence]
  | .forSequenceZip sequences => [.nodes sequences]
  | .tryStatement body handlers => [.nodes body, .nodes handlers]
  | .exceptionHandler exception caught isBuiltin body =>
    [.ofText? exception, .text caught, .bool isBuiltin, .nodes body]
  | .throwStatement exception value => [.text exception, .node value]
  | .implicitReturn value => [.node value]
  | .explicitReturn value => [.node value]
  | .block body => [.nodes body]
  | .int value => [.int value]
  | .float value => [.float value]
  | .string value => [.text value]
  | .boolean value => [.bool value]
  | .null => []
  | .regex value => [.text value]
  | .list elements => [.nodes elements]
  | .dictionary pairs => [.nodes pairs]
  | .pair key value => [.node key, .node value]
  | .set elements => [.nodes elements]
  | .tuple elements => [.nodes elements]
  | .array elements => [.nodes elements]
  | .localVar name => [.text name]
  | .typename name => [.text name]
  | .instanceVariable name => [.text name]
  | .this => []
  | .attr object member => [.node object, .text member]
  | .index sequence subscript => [.node sequence, .node subscript]
  | .call function args => [.node function, .nodes args]
  | .methodCall receiver message args => [.node receiver, .text message, .nodes args]
  | .staticCall receiver message args => [.node receiver, .text message, .nodes args]
  | .standardCall library function args => [.text library, .text function, .nodes args]
  | .standardMethodCall receiver message args => [.node receiver, .text message, .nodes args]
  | .newInstance className args => [.node className, .nodes args]
  | .binaryOp op left right => [.text op, .node left, .node right]
  | .unaryOp op value => [.text op, .node value]
  | .comparison op left right => [.text op, .node left, .node right]

/-- The kind of a tag with the given fields, if they are the fields that the tag takes. -/
def ofValues? : Tag → List (Field α) → Option (Kind α)
  | .module, [.nodes definitions, .nodes dependencies, .nodes constants, .nodes customExceptions,
      .nodes main] =>
    some (.module definitions dependencies constants customExceptions main)
  | .dependency, [.text name] => some (.dependency name)
  | .constant, [.text name, .node init] => some (.constant name init)
  | .customException, [.text name, base] => do return .customException name (← base.asText?)
  | .functionDefinition, [.text name, .nodes params, .type returnType, .nodes body] =>
    some (.functionDefinition name params returnType body)
  | .methodDefinition, [.text name, .nodes params, .node receiver, .type returnType,
      .bool isPublic, .nodes body] =>
    some (.methodDefinition name params receiver returnType isPublic body)
  | .constructor, [.nodes params, .node receiver, .nodes body] =>
    some (.constructor params receiver body)
  | .classDefinition, [.text name, base, .nodes attrs, initializer, .nodes methods] =>
    do return .classDefinition name (← base.asText?) attrs (← initializer.asNode?) methods
  | .classAttr, [.text name, .bool isPublic] => some (.classAttr name isPublic)
  | .anonymousFunction, [.nodes params, .type returnType, .nodes body] =>
    some (.anonymousFunction params returnType body)
  | .assignment, [.node target, .node value, .bool firstMention] =>
    some (.assignment target value firstMention)
  | .indexAssignment, [.node sequence, .node subscript, .node value] =>
    some (.indexAssignment sequence subscript value)
  | .ifStatement, [.node test, .nodes body, otherwise] =>
    do return .ifStatement test body (← otherwise.asNode?)
  | .elseIfStatement, [.node test, .nodes body, otherwise] =>
    do return .elseIfStatement test body (← otherwise.asNode?)
  | .elseStatement, [.nodes body] => some (.elseStatement body)
  | .whileStatement, [.node test, .nodes body] => some (.whileStatement test body)
  | .forStatement, [.node iterators, .node sequences, .nodes body] =>
    some (.forStatement iterators sequences body)
  | .forRangeStatement, [.node counter, first, .node last, step, .nodes body] =>
    do return .forRangeStatement counter (← first.asNode?) last (← step.asNode?) body
  | .forIterator, [.node iterator] => some (.forIterator iterator)
  | .forIteratorWithIndex, [.node counter, .node iterator] =>
    some (.forIteratorWithIndex counter iterator)
  | .forIteratorWithItems, [.node key, .node value] => some (.forIteratorWithItems key value)
  | .forIteratorZip, [.nodes iterators] => some (.forIteratorZip iterators)
  | .forSequence, [.node sequence] => some (.forSequence sequence)
  | .forSequenceWithIndex, [.node sequence] => some (.forSequenceWithIndex sequence)
  | .forSequenceWithItems, [.node sequence] => some (.forSequenceWithItems sequence)
  | .forSequenceZip, [.nodes sequences] => some (.forSequenceZip sequences)
  | .tryStatement, [.nodes body, .nodes handlers] => some (.tryStatement body handlers)
  | .exceptionHandler, [exception, .text caught, .bool isBuiltin, .nodes body] =>
    do return .exceptionHandler (← exception.asText?) caught isBuiltin body
  | .throwStatement, [.text exception, .node value] => some (.throwStatement exception value)
  | .implicitReturn, [.node value] => some (.implicitReturn value)
  | .explicitReturn, [.node value] => some (.explicitReturn value)
  | .block, [.nodes body] => some (.block body)
  | .int, [.int value] => some (.int value)
  | .float, [.float value] => some (.float value)
  | .string, [.text value] => some (.string value)
  | .boolean, [.bool value] => some (.boolean value)
  | .null, [] => some .null
  | .regex, [.text value] => some (.regex value)
  | .list, [.nodes elements] => some (.list elements)
  | .dictionary, [.nodes pairs] => some (.dictionary pairs)
  | .pair, [.node key, .node value] => some (.pair key value)
  | .set, [.nodes elements] => some (.set elements)
  | .tuple, [.nodes elements] => some (.tuple elements)
  | .array, [.nodes elements] => some (.array elements)
  | .localVar, [.text name] => some (.localVar name)
  | .typename, [.text name] => some (.typename name)
  | .instanceVariable, [.text name] => some (.instanceVariable name)
  | .this, [] => some .this
  | .attr, [.node object, .text member] => some (.attr object member)
  | .index, [.node sequence, .node subscript] => some (.index sequence subscript)
  | .call, [.node function, .nodes args] => some (.call function args)
  | .methodCall, [.node receiver, .text message, .nodes args] =>
    some (.methodCall receiver message args)
  | .staticCall, [.node receiver, .text message, .nodes args] =>
    some (.staticCall receiver message args)
  | .standardCall, [.text library, .text function, .nodes args] =>
    some (.standardCall library function args)
  | .standardMethodCall, [.node receiver, .text message, .nodes args] =>
    some (.standardMethodCall receiver message args)
  | .newInstance, [.node className, .nodes args] => some (.newInstance className args)
  | .binaryOp, [.text op, .node left, .node right] => some (.binaryOp op left right)
  | .unaryOp, [.text op, .node value] => some (.unaryOp op value)
  | .comparison, [.text op, .node left, .node right] => some (.comparison op left right)
  | _, _ => none

/-- Direct children in source order. -/
def children : Kind α → List α
  | .module definitions dependencies constants customExceptions main =>
    dependencies ++ customExceptions ++ constants ++ definitions ++ main
  | .constant _ init => [init]
  | .functionDefinition _ params _ body => params ++ body
  | .methodDefinition _ params receiver _ _ body => receiver :: params ++ body
  | .constructor params receiver body => receiver :: params ++ body
  | .classDefinition _ _ attrs initializer methods => attrs ++ initializer.toList ++ methods
  | .anonymousFunction params _ body => params ++ body
  | .assignment target value _ => [target, value]
  | .indexAssignment sequence subscript value => [sequence, subscript, value]
  | .ifStatement test body otherwise => test :: body ++ otherwise.toList
  | .elseIfStatement test body otherwise => test :: body ++ otherwise.toList
  | .elseStatement body => body
  | .whileStatement test body => test :: body
  | .forStatement iterators sequences body => iterators :: sequences :: body
  | .forRangeStatement counter first last step body =>
    counter :: first.toList ++ last :: step.toList ++ body
  | .forIterator iterator => [iterator]
  | .forIteratorWithIndex counter iterator => [counter, iterator]
  | .forIteratorWithItems key value => [key, value]
  | .forIteratorZip iterators => iterators
  | .forSequence sequence => [sequence]
  | .forSequenceWithIndex sequence => [sequence]
  | .forSequenceWithItems sequence => [sequence]
  | .forSequenceZip sequences => sequences
  | .tryStatement body handlers => body ++ handlers
  | .exceptionHandler _ _ _ body => body
  | .throwStatement _ value => [value]
  | .implicitReturn value => [value]
  | .explicitReturn value => [value]
  | .block body => body
  | .list elements => elements
  | .dictionary pairs => pairs
  | .pair key value => [key, value]
  | .set elements => elements
  | .tuple elements => elements
  | .array elements => elements
  | .attr object _ => [object]
  | .index sequence subscript => [sequence, subscript]
  | .call function args => function :: args
  | .methodCall receiver _ args => receiver :: args
  | .staticCall receiver _ args => receiver :: args
  | .standardCall _ _ args => args
  | .standardMethodCall receiver _ args => receiver :: args
  | .newInstance className args => className :: args
  | .binaryOp _ left right => [left, right]
  | .unaryOp _ value => [value]
  | .comparison _ left right => [left, right]
  | _ => []

/-- Every child replaced by its image; nothing else changes. -/
def map (f : α → β) : Kind α → Kind β
  | .module definitions dependencies constants customExceptions main =>
    .module (definitions.map f) (dependencies.map f) (constants.map f) (customExceptions.map f)
      (main.map f)
  | .dependency name => .dependency name
  | .constant name init => .constant name (f init)
  | .customException name base => .customException name base
  | .functionDefinition name params returnType body =>
    .functionDefinition name (params.map f) returnType (body.map f)
  | .methodDefinition name params receiver returnType isPublic body =>
    .methodDefinition name (params.map f) (f receiver) returnType isPublic (body.map f)
  | .constructor params receiver body => .constructor (params.map f) (f receiver) (body.map f)
  | .classDefinition name base attrs initializer methods =>
    .classDefinition name base (attrs.map f) (initializer.map f) (methods.map f)
  | .classAttr name isPublic => .classAttr name isPublic
  | .anonymousFunction params returnType body =>
    .anonymousFunction (params.map f) returnType (body.map f)
  | .assignment target value firstMention => .assignment (f target) (f value) firstMention
  | .indexAssignment sequence subscript value =>
    .indexAssignment (f sequence) (f subscript) (f value)
  | .ifStatement test body otherwise => .ifStatement (f test) (body.map f) (otherwise.map f)
  | .elseIfStatement test body otherwise =>
    .elseIfStatement (f test) (body.map f) (otherwise.map f)
  | .elseStatement body => .elseStatement (body.map f)
  | .whileStatement test body => .whileStatement (f test) (body.map f)
  | .forStatement iterators sequences body =>
    .forStatement (f iterators) (f sequences) (body.map f)
  | .forRangeStatement counter first last step body =>
    .forRangeStatement (f counter) (first.map f) (f last) (step.map f) (body.map f)
  | .forIterator iterator => .forIterator (f iterator)
  | .forIteratorWithIndex counter iterator => .forIteratorWithIndex (f counter) (f iterator)
  | .forIteratorWithItems key value => .forIteratorWithItems (f key) (f value)
  | .forIteratorZip iterators => .forIteratorZip (iterators.map f)
  | .forSequence sequence => .forSequence (f sequence)
  | .forSequenceWithIndex sequence => .forSequenceWithIndex (f sequence)
  | .forSequenceWithItems sequence => .forSequenceWithItems (f sequence)
  | .forSequenceZip sequences => .forSequenceZip (sequences.map f)
  | .tryStatement body handlers => .tryStatement (body.map f) (handlers.map f)
  | .exceptionHandler exception caught isBuiltin body =>
    .exceptionHandler exception caught isBuiltin (body.map f)
  | .throwStatement exception value => .throwStatement exception (f value)
  | .implicitReturn value => .implicitReturn (f value)
  | .explicitReturn value => .explicitReturn (f value)
  | .block body => .block (body.map f)
  | .int value => .int value
  | .float value => .float value
  | .string value => .string value
  | .boolean value => .boolean value
  | .null => .null
  | .regex value => .regex value
  | .list elements => .list (elements.map f)
  | .dictionary pairs => .dictionary (pairs.map f)
  | .pair key value => .pair (f key) (f value)
  | .set elements => .set (elements.map f)
  | .tuple elements => .tuple (elements.map f)
  | .array elements => .array (elements.map f)
  | .localVar name => .localVar name
  | .typename name => .typename name
  | .instanceVariable name => .instanceVariable name
  | .this => .this
  | .attr object member => .attr (f object) member
  | .index sequence subscript => .index (f sequence) (f subscript)
  | .call function args => .call (f function) (args.map f)
  | .methodCall receiver message args => .methodCall (f receiver) message (args.map f)
  | .staticCall receiver message args => .staticCall (f receiver) message (args.map f)
  | .standardCall library function args => .standardCall library function (args.map f)
  | .standardMethodCall receiver message args =>
    .standardMethodCall (f receiver) message (args.map f)
  | .newInstance className args => .newInstance (f className) (args.map f)
  | .binaryOp op left right => .binaryOp op (f left) (f right)
  | .unaryOp op value => .unaryOp op (f value)
  | .comparison op left right => .comparison op (f left) (f right)

/-- Every child replaced by the result of an action, the actions run in source order. -/
def traverse {m : Type → Type} [Monad m] (f : α → m β) : Kind α → m (Kind β)
  | .module definitions dependencies constants customExceptions main => do
    let dependencies ← dependencies.mapM f
    let customExceptions ← customExceptions.mapM f
    let constants ← constants.mapM f
    let definitions ← definitions.mapM f
    let main ← main.mapM f
    return .module definitions dependencies constants customExceptions main
  | .dependency name => pure (.dependency name)
  | .constant name init => do return .constant name (← f init)
  | .customException name base => pure (.customException name base)
  | .functionDefinition name params returnType body => do
    return .functionDefinition name (← params.mapM f) returnType (← body.mapM f)
  | .methodDefinition name params receiver returnType isPublic body => do
    let receiver ← f receiver
    let params ← params.mapM f
    let body ← body.mapM f
    return .methodDefinition name params receiver returnType isPublic body
  | .constructor params receiver body => do
    let receiver ← f receiver
    let params ← params.mapM f
    let body ← body.mapM f
    return .constructor params receiver body
  | .classDefinition name base attrs initializer methods => do
    return .classDefinition name base (← attrs.mapM f) (← initializer.mapM f)
      (← methods.mapM f)
  | .classAttr name isPublic => pure (.classAttr name isPublic)
  | .anonymousFunction params returnType body => do
    return .anonymousFunction (← params.mapM f) returnType (← body.mapM f)
  | .assignment target value firstMention => do
    return .assignment (← f target) (← f value) firstMention
  | .indexAssignment sequence subscript value => do
    return .indexAssignment (← f sequence) (← f subscript) (← f value)
  | .ifStatement test body otherwise => do
    return .ifStatement (← f test) (← body.mapM f) (← otherwise.mapM f)
  | .elseIfStatement test body otherwise => do
    return .elseIfStatement (← f test) (← body.mapM f) (← otherwise.mapM f)
  | .elseStatement body => do return .elseStatement (← body.mapM f)
  | .whileStatement test body => do return .whileStatement (← f test) (← body.mapM f)
  | .forStatement iterators sequences body => do
    return .forStatement (← f iterators) (← f sequences) (← body.mapM f)
  | .forRangeStatement counter first last step body => do
    return .forRangeStatement (← f counter) (← first.mapM f) (← f last) (← step.mapM f)
      (← body.mapM f)
  | .forIterator iterator => do return .forIterator (← f iterator)
  | .forIteratorWithIndex counter iterator => do
    return .forIteratorWithIndex (← f counter) (← f iterator)
  | .forIteratorWithItems key value => do return .forIteratorWithItems (← f key) (← f value)
  | .forIteratorZip iterators => do return .forIteratorZip (← iterators.mapM f)
  | .forSequence sequence => do return .forSequence (← f sequence)
  | .forSequenceWithIndex sequence => do return .forSequenceWithIndex (← f sequence)
  | .forSequenceWithItems sequence => do return .forSequenceWithItems (← f sequence)
  | .forSequenceZip sequences => do return .forSequenceZip (← sequences.mapM f)
  | .tryStatement body handlers => do return .tryStatement (← body.mapM f) (← handlers.mapM f)
  | .exceptionHandler exception caught isBuiltin body => do
    return .exceptionHandler exception caught isBuiltin (← body.mapM f)
  | .throwStatement exception value => do return .throwStatement exception (← f value)
  | .implicitReturn value => do return .implicitReturn (← f value)
  | .explicitReturn value => do return .explicitReturn (← f value)
  | .block body => do return .block (← body.mapM f)
  | .int value => pure (.int value)
  | .float value => pure (.float value)
  | .string value => pure (.string value)
  | .boolean value => pure (.boolean value)
  | .null => pure (.null)
  | .regex value => pure (.regex value)
  | .list elements => do return .list (← elements.mapM f)
  | .dictionary pairs => do return .dictionary (← pairs.mapM f)
  | .pair key value => do return .pair (← f key) (← f value)
  | .set elements => do return .set (← elements.mapM f)
  | .tuple elements => do return .tuple (← elements.mapM f)
  | .array elements => do return .array (← elements.mapM f)
  | .localVar name => pure (.localVar name)
  | .typename name => pure (.typename name)
  | .instanceVariable name => pure (.instanceVariable name)
  | .this => pure (.this)
  | .attr object member => do return .attr (← f object) member
  | .index sequence subscript => do return .index (← f sequence) (← f subscript)
  | .call function args => do return .call (← f function) (← args.mapM f)
  | .methodCall receiver message args => do
    return .methodCall (← f receiver) message (← args.mapM f)
  | .staticCall receiver message args => do
    return .staticCall (← f receiver) message (← args.mapM f)
  | .standardCall library function args => do
    return .standardCall library function (← args.mapM f)
  | .standardMethodCall receiver message args => do
    return .standardMethodCall (← f receiver) message (← args.mapM f)
  | .newInstance className args => do return .newInstance (← f className) (← args.mapM f)
  | .binaryOp op left right => do return .binaryOp op (← f left) (← f right)
  | .unaryOp op value => do return .unaryOp op (← f value)
  | .comparison op left right => do return .comparison op (← f left) (← f right)

/-- Statements that end in a block of their own, and so take no terminator. -/
def isCompound (kind : Kind α) : Bool :=
  [Tag.ifStatement, .elseIfStatement, .elseStatement, .whileStatement, .forStatement,
    .forRangeStatement, .tryStatement, .exceptionHandler, .functionDefinition,
    .methodDefinition, .constructor, .classDefinition, .customException, .block].contains kind.tag

/-- The value that a return statement hands back. -/
def returned? : Kind α → Option α
  | .implicitReturn value => some value
  | .explicitReturn value => some value
  | _ => none

theorem ofValues?_values (kind : Kind α) : ofValues? kind.tag kind.values = some kind := by
  cases kind with
  | customException name base => cases base <;> rfl
  | classDefinition name base attrs initializer methods =>
    cases base <;> cases initializer <;> rfl
  | ifStatement test body otherwise => cases otherwise <;> rfl
  | elseIfStatement test body otherwise => cases otherwise <;> rfl
  | forRangeStatement counter first last step body => cases first <;> cases step <;> rfl
  | exceptionHandler exception caught isBuiltin body => cases exception <;> rfl
  | _ => rfl

@[simp] theorem map_id (kind : Kind α) : kind.map (fun child => child) = kind := by
  cases kind <;> simp [map]

@[simp] theorem map_map (f : α → β) (g : β → γ) (kind : Kind α) :
    (kind.map f).map g = kind.map fun child => g (f child) := by
  cases kind <;> simp [map, Function.comp_def]

@[simp] theorem tag_map (f : α → β) (kind : Kind α) : (kind.map f).tag = kind.tag := by
  cases kind <;> rfl

theorem values_map (f : α → β) (kind : Kind α) :
    (kind.map f).values = kind.values.map (Field.map f) := by
  cases kind with
  | customException name base => cases base <;> rfl
  | classDefinition name base attrs initializer methods =>
    cases base <;> cases initializer <;> rfl
  | ifStatement test body otherwise => cases otherwise <;> rfl
  | elseIfStatement test body otherwise => cases otherwise <;> rfl
  | forRangeStatement counter first last step body => cases first <;> cases step <;> rfl
  | exceptionHandler exception caught isBuiltin body => cases exception <;> rfl
  | _ => rfl

theorem children_map (f : α → β) (kind : Kind α) :
    (kind.map f).children = kind.children.map f := by
  cases kind <;> simp [map, children, Option.toList_map]

end Kind
end Retarget
