/-! Tags: the closed set of node kinds, in declaration order. A tag is the key under which a
profile keeps the template of a kind. -/
namespace Retarget

inductive Tag where
  | module
  | dependency
  | constant
  | customException
  | functionDefinition
  | methodDefinition
  | constructor
  | classDefinition
  | classAttr
  | anonymousFunction
  | assignment
  | indexAssignment
  | ifStatement
  | elseIfStatement
  | elseStatement
  | whileStatement
  | forStatement
  | forRangeStatement
  | forIterator
  | forIteratorWithIndex
  | forIteratorWithItems
  | forIteratorZip
  | forSequence
  | forSequenceWithIndex
  | forSequenceWithItems
  | forSequenceZip
  | tryStatement
  | exceptionHandler
  | throwStatement
  | implicitReturn
  | explicitReturn
  | block
  | int
  | float
  | string
  | boolean
  | null
  | regex
  | list
  | dictionary
  | pair
  | set
  | tuple
  | array
  | localVar
  | typename
  | instanceVariable
  | this
  | attr
  | index
  | call
  | methodCall
  | staticCall
  | standardCall
  | standardMethodCall
  | newInstance
  | binaryOp
  | unaryOp
  | comparison
  deriving DecidableEq, Repr, Inhabited

namespace Tag

/-- The name under which producers, templates and serialized trees know the tag. -/
def name : Tag → String
  | module => "module"
  | dependency => "dependency"
  | constant => "constant"
  | customException => "custom_exception"
  | functionDefinition => "function_definition"
  | methodDefinition => "method_definition"
  | constructor => "constructor"
  | classDefinition => "class_definition"
  | classAttr => "class_attr"
  | anonymousFunction => "anonymous_function"
  | assignment => "assignment"
  | indexAssignment => "index_assignment"
  | ifStatement => "if_statement"
  | elseIfStatement => "else_if_statement"
  | elseStatement => "else_statement"
  | whileStatement => "while_statement"
  | forStatement => "for_statement"
  | forRangeStatement => "for_range_statement"
  | forIterator => "for_iterator"
  | forIteratorWithIndex => "for_iterator_with_index"
  | forIteratorWithItems => "for_iterator_with_items"
  | forIteratorZip => "for_iterator_zip"
  | forSequence => "for_sequence"
  | forSequenceWithIndex => "for_sequence_with_index"
  | forSequenceWithItems => "for_sequence_with_items"
  | forSequenceZip => "for_sequence_zip"
  | tryStatement => "try_statement"
  | exceptionHandler => "exception_handler"
  | throwStatement => "throw_statement"
  | implicitReturn => "implicit_return"
  | explicitReturn => "explicit_return"
  | block => "block"
  | int => "int"
  | float => "float"
  | string => "string"
  | boolean => "boolean"
  | null => "null"
  | regex => "regex"
  | list => "list"
  | dictionary => "dictionary"
  | pair => "pair"
  | set => "set"
  | tuple => "tuple"
  | array => "array"
  | localVar => "local"
  | typename => "typename"
  | instanceVariable => "instance_variable"
  | this => "this"
  | attr => "attr"
  | index => "index"
  | call => "call"
  | methodCall => "method_call"
  | staticCall => "static_call"
  | standardCall => "standard_call"
  | standardMethodCall => "standard_method_call"
  | newInstance => "new_instance"
  | binaryOp => "binary_op"
  | unaryOp => "unary_op"
  | comparison => "comparison"

/-- Every tag, in declaration order. -/
def all : List Tag := [module, dependency, constant, customException, functionDefinition,
  methodDefinition, constructor, classDefinition, classAttr, anonymousFunction, assignment,
  indexAssignment, ifStatement, elseIfStatement, elseStatement, whileStatement, forStatement,
  forRangeStatement, forIterator, forIteratorWithIndex, forIteratorWithItems, forIteratorZip,
  forSequence, forSequenceWithIndex, forSequenceWithItems, forSequenceZip, tryStatement,
  exceptionHandler, throwStatement, implicitReturn, explicitReturn, block, int, float, string,
  boolean, null, regex, list, dictionary, pair, set, tuple, array, localVar, typename,
  instanceVariable, this, attr, index, call, methodCall, staticCall, standardCall,
  standardMethodCall, newInstance, binaryOp, unaryOp, comparison]

/-- The position of a tag in declaration order, by which tags are compared. -/
def position (tag : Tag) : Nat := tag.ctorIdx

/-- The tag of a written name. Producers may also write `elseif_statement`. -/
def ofName? (name : String) : Option Tag :=
  if name = "elseif_statement" then some elseIfStatement else all.find? (·.name == name)

theorem mem_all (tag : Tag) : tag ∈ all := by cases tag <;> decide

end Tag
end Retarget
