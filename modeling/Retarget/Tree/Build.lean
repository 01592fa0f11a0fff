import Retarget.Data.Compact
import Retarget.Tree.Node

/-! Constructors for common node shapes, with the types that such nodes have, and a draft in which
the parts of a module are collected. -/
namespace Retarget
namespace Node

/-- A node that yields no value. -/
def ofKind (kind : Kind Node) : Node := ⟨kind, .void⟩

def localVar (name : String) (type : SemType) : Node := ⟨.localVar name, type⟩
/-- A type's name used as a value; it has that type. -/
def typename (name : String) : Node := ⟨.typename name, .named name⟩
def instanceVariable (name : String) (type : SemType) : Node := ⟨.instanceVariable name, type⟩
def this (type : SemType) : Node := ⟨.this, type⟩

def int (value : Int) : Node := ⟨.int value, .named "Int"⟩
def float (value : Float) : Node := ⟨.float value, .named "Float"⟩
def string (value : String) : Node := ⟨.string value, .named "String"⟩
def boolean (value : Bool) : Node := ⟨.boolean value, .named "Boolean"⟩
def null : Node := ofKind .null

/-- The literal node of a scalar value. An integer that no integer literal can hold becomes a
floating one. -/
def ofValue? : Data → Except TreeError Node
  | .text value => .ok (string value)
  | .bool value => .ok (boolean value)
  | .null => .ok null
  | .int value => .ok (if isWordInteger value then int value else float (.ofInt value))
  | .float value => .ok (float value)
  | other => .error (.unsupportedLiteral other.compact)

def attr (object : Node) (name : String) (type : SemType) : Node := ⟨.attr object name, type⟩
def index (sequence subscript : Node) (type : SemType) : Node := ⟨.index sequence subscript, type⟩
def call (function : Node) (args : List Node) (type : SemType) : Node := ⟨.call function args, type⟩
def methodCall (receiver : Node) (message : String) (args : List Node) (type : SemType) : Node :=
  ⟨.methodCall receiver message args, type⟩
def standardCall (library function : String) (args : List Node) (type : SemType) : Node :=
  ⟨.standardCall library function args, type⟩
def standardMethodCall (receiver : Node) (message : String) (args : List Node)
    (type : SemType) : Node :=
  ⟨.standardMethodCall receiver message args, type⟩
def newInstance (className : String) (args : List Node) : Node :=
  ⟨.newInstance (typename className) args, .named className⟩

def binaryOp (op : String) (left right : Node) (type : SemType) : Node :=
  ⟨.binaryOp op left right, type⟩
/-- A prefix operator yields the type of its operand. -/
def unaryOp (op : String) (value : Node) : Node := ⟨.unaryOp op value, value.type⟩
def comparison (op : String) (left right : Node) : Node :=
  ⟨.comparison op left right, .named "Boolean"⟩

def assignment (target value : Node) : Node := ofKind (.assignment target value false)
def indexAssignment (sequence subscript value : Node) : Node :=
  ofKind (.indexAssignment sequence subscript value)

def ifStatement (test : Node) (body : List Node) (otherwise : Option Node) : Node :=
  ofKind (.ifStatement test body otherwise)
def elseIfStatement (test : Node) (body : List Node) (otherwise : Option Node) : Node :=
  ofKind (.elseIfStatement test body otherwise)
def elseStatement (body : List Node) : Node := ofKind (.elseStatement body)
def whileStatement (test : Node) (body : List Node) : Node := ofKind (.whileStatement test body)

def forStatement (iterators sequences : Kind Node) (body : List Node) : Node :=
  ofKind (.forStatement (ofKind iterators) (ofKind sequences) body)
def forEach (iterator sequence : Node) (body : List Node) : Node :=
  forStatement (.forIterator iterator) (.forSequence sequence) body
/-- Iteration with a tracked position. -/
def forEachWithIndex (counter iterator sequence : Node) (body : List Node) : Node :=
  forStatement (.forIteratorWithIndex counter iterator) (.forSequenceWithIndex sequence) body
/-- Iteration over the entries of a dictionary. -/
def forEachWithItems (key value sequence : Node) (body : List Node) : Node :=
  forStatement (.forIteratorWithItems key value) (.forSequenceWithItems sequence) body
/-- Lock-step iteration, one iterator a sequence. -/
def forEachZip (iterators sequences : List Node) (body : List Node) : Node :=
  forStatement (.forIteratorZip iterators) (.forSequenceZip sequences) body
def forRange (counter : Node) (first : Option Node) (last : Node) (step : Option Node)
    (body : List Node) : Node :=
  ofKind (.forRangeStatement counter first last step body)

def implicitReturn (value : Node) : Node := ⟨.implicitReturn value, value.type⟩

end Node

/-- The parts of a module, collected in order. -/
structure ModuleDraft where
  definitions : List Node := []
  dependencies : List Node := []
  constants : List Node := []
  customExceptions : List Node := []
  main : List Node := []

namespace ModuleDraft

def definition (draft : ModuleDraft) (node : Node) : ModuleDraft :=
  { draft with definitions := draft.definitions ++ [node] }

def dependency (draft : ModuleDraft) (name : String) : ModuleDraft :=
  { draft with dependencies := draft.dependencies ++ [.ofKind (.dependency name)] }

/-- A constant has the type of its initial value. -/
def constant (draft : ModuleDraft) (name : String) (init : Node) : ModuleDraft :=
  { draft with constants := draft.constants ++ [⟨.constant name init, init.type⟩] }

def customException (draft : ModuleDraft) (name : String) (base : Option String) : ModuleDraft :=
  { draft with
    customExceptions := draft.customExceptions ++ [.ofKind (.customException name base)] }

def statements (draft : ModuleDraft) (nodes : List Node) : ModuleDraft :=
  { draft with main := draft.main ++ nodes }

def statement (draft : ModuleDraft) (node : Node) : ModuleDraft := draft.statements [node]

def build (draft : ModuleDraft) : Node :=
  .ofKind (.module draft.definitions draft.dependencies draft.constants draft.customExceptions
    draft.main)

end ModuleDraft
end Retarget
