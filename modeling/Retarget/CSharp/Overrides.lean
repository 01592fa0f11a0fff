import Retarget.CSharp.Operators
import Retarget.Render.Renderer
import Retarget.Tree.Build

/-! Overrides of the C# target: what its templates cannot say. -/
namespace Retarget.CSharp

/-- The parameters of a definition, each behind its type: `int a, string b`. -/
def params : Override := fun renderer node depth => do
  let rendered ← (← node.sequenceAt "params").mapM fun param => do
    let type ← renderer.renderType param.type
    let name ← renderer.render param depth
    return type ++ " " ++ name
  return ", ".intercalate rendered

/-- The body of an anonymous function: the value of a single return, else a block in braces. -/
def anonymousBody : Override := fun renderer node depth => do
  let block ← node.sequenceAt "block"
  match singleReturn? block with
  | some value => return " " ++ (← renderer.render value depth)
  | none =>
    if block.isEmpty then return " \x7b \x7d"
    let body ← renderer.renderBlock block (depth + 1) .statements
    let indent := renderer.indent depth
    return "\n" ++ indent ++ "\x7b\n" ++ renderer.indent (depth + 1) ++ body ++ "\n" ++ indent ++
      "\x7d"

/-- The base class of a class definition. -/
def base : Override := fun _ node _ => do return " : " ++ (← node.textAt "base")

/-- The definitions of one tag in a module, a blank line between them. -/
def definitionsOf (tag : Tag) : Override := fun renderer node depth => do
  let definitions := (← node.sequenceAt "definitions").filter fun definition => definition.tag == tag
  let rendered ← definitions.mapM fun definition => renderer.render definition depth
  return ("\n\n" ++ renderer.indent depth).intercalate rendered

def classDefinitions : Override := definitionsOf .classDefinition

def functionDefinitions : Override := definitionsOf .functionDefinition

/-- The iterators and the sequences of a lock-step loop: as many of each, and at least one. -/
structure ZipParts where
  iterator : Node
  iterators : List Node
  sequence : Node
  sequences : List Node

def zipParts (node : Node) : Except GenerateError ZipParts := do
  let iterators ← (← node.childAt "iterators").sequenceAt "iterators"
  let sequences ← (← node.childAt "sequences").sequenceAt "sequences"
  match iterators, sequences with
  | iterator :: iterators, sequence :: sequences =>
    if iterators.length = sequences.length then return ⟨iterator, iterators, sequence, sequences⟩
    else throw (node.misshapen "sequences" .oneSequencePerIterator)
  | _, _ => throw (node.misshapen "sequences" .oneSequencePerIterator)

/-- The entry variable of a loop over a dictionary, `_keyItem`. Such variables are named after the
first iterator of their loop. -/
def itemVariable : Override := fun renderer node depth => do
  let key ← (← node.childAt "iterators").childAt "key"
  return "_" ++ (← renderer.render key depth) ++ "Item"

/-- The counter of a lock-step loop, `_firstIndex`. -/
def zipCounter : Override := fun renderer node depth => do
  let parts ← zipParts node
  return "_" ++ (← renderer.render parts.iterator depth) ++ "Index"

def firstSequence : Override := fun renderer node depth => do
  let parts ← zipParts node
  renderer.render parts.sequence depth

/-- The declarations of the iterators of a lock-step loop: `var a = xs[_aIndex];`. -/
def zipIterators : Override := fun renderer node depth => do
  let parts ← zipParts node
  let counter := Node.localVar (← zipCounter renderer node depth) (.named "Int")
  let pairs := (parts.iterator :: parts.iterators).zip (parts.sequence :: parts.sequences)
  let lines ← pairs.mapM fun (iterator, sequence) => do
    let name ← renderer.render iterator depth
    let element ← renderer.render (.index sequence counter iterator.type) depth
    return "var " ++ name ++ " = " ++ element ++ ";"
  return ("\n" ++ renderer.indent depth).intercalate lines

/-- A character of a string literal. -/
def escape (c : Char) : List Char :=
  if c = '"' then ['\\', '"']
  else if c = '\\' then ['\\', '\\']
  else if c = '\n' then ['\\', 'n']
  else if c = '\r' then ['\\', 'r']
  else if c = '\t' then ['\\', 't']
  else if c.toNat = 0 then ['\\', '0']
  else [c]

def quote (value : List Char) : List Char := '"' :: value.flatMap escape ++ ['"']

def stringLiteral : Override := fun _ node _ => do
  return String.ofList (quote (← node.textAt "value").toList)

/-- A verbatim literal: a quote is written twice, all else stands for itself. -/
def quoteVerbatim (value : List Char) : List Char :=
  '@' :: '"' :: value.flatMap (fun c => if c = '"' then ['"', '"'] else [c]) ++ ['"']

def verbatimString : Override := fun _ node _ => do
  return String.ofList (quoteVerbatim (← node.textAt "value").toList)

/-- A call written as the library operation says. -/
def libraryCall (renderer : Renderer) (entry : Option LibraryEntry) (name : String) (node : Node)
    (depth : Nat) : Except GenerateError String :=
  match entry with
  | none => .error (.unsupportedStandardCall name)
  | some entry => renderer.expand entry.template node depth

def standardCall : Override := fun renderer node depth => do
  let space ← node.textAt "namespace"
  let function ← node.textAt "function"
  libraryCall renderer (renderer.target.library.function? space function)
    (space ++ "." ++ function) node depth

def standardMethodCall : Override := fun renderer node depth => do
  let receiver := (← node.childAt "receiver").type.baseName
  let message ← node.textAt "message"
  libraryCall renderer (renderer.target.library.method? receiver message)
    (receiver ++ "." ++ message) node depth

def parenthesize (wrap : Bool) (text : String) : String :=
  if wrap then "(" ++ text ++ ")" else text

/-- The operand of one side of a binary operation. -/
def operand (side : Side) : Override := fun renderer node depth => do
  let value ← node.childAt side.name
  let rendered ← renderer.render value depth
  return parenthesize (wrapsOperand node value side) rendered

def leftOperand : Override := operand .left

def rightOperand : Override := operand .right

def unaryOperand : Override := fun renderer node depth => do
  let value ← node.childAt "value"
  let rendered ← renderer.render value depth
  return parenthesize (wrapsPrefixed node value) rendered

end Retarget.CSharp
